import Mathlib.Data.Nat.Bitwise
import Mathlib.Data.List.Basic

/-!
# Sets of small numbers as byte bitmaps

Bit `i` of a byte list is bit `i % 8` of byte `i / 8`. `setBit` and `bitSet` are the usual
`|=` and `&` on such a list; `bitSet_setBits` says that a zeroed bitmap into which a list of
numbers has been set contains exactly those numbers.
-/

set_option autoImplicit false

namespace SedsNet.Lib

/-- `bitmap[i / 8] |= 1 << (i % 8)`. -/
def setBit (bitmap : List UInt8) (i : Nat) : List UInt8 :=
  bitmap.modify (i / 8) fun b => b ||| (1 <<< UInt8.ofNat (i % 8))

/-- `(bitmap[i / 8] & (1 << (i % 8))) != 0`. -/
def bitSet (bitmap : List UInt8) (i : Nat) : Bool :=
  bitmap.getD (i / 8) 0 &&& (1 <<< UInt8.ofNat (i % 8)) != 0

theorem toNat_one_shiftLeft {k : Nat} (h : k < 8) :
    ((1 : UInt8) <<< UInt8.ofNat k).toNat = 2 ^ k := by
  rw [UInt8.toNat_shiftLeft, UInt8.toNat_ofNat']
  have hk : k % 2 ^ 8 % 8 = k := by omega
  have hlt : 2 ^ k < 2 ^ 8 := Nat.pow_lt_pow_right (by decide) h
  rw [hk, UInt8.toNat_one, Nat.one_shiftLeft, Nat.mod_eq_of_lt hlt]

/-- Masking with one bit is the mathematical bit test. -/
theorem and_one_shiftLeft_ne_zero (b : UInt8) {k : Nat} (h : k < 8) :
    (b &&& (1 <<< UInt8.ofNat k) != 0) = b.toNat.testBit k := by
  have hand : (b &&& (1 <<< UInt8.ofNat k)).toNat = (b.toNat.testBit k).toNat * 2 ^ k := by
    rw [UInt8.toNat_and, toNat_one_shiftLeft h, Nat.and_two_pow]
  have hpos : 0 < 2 ^ k := Nat.two_pow_pos k
  cases hb : b.toNat.testBit k with
  | false =>
    rw [hb] at hand
    have : b &&& (1 <<< UInt8.ofNat k) = 0 := UInt8.toNat_inj.mp (by simpa using hand)
    simp [this]
  | true =>
    rw [hb] at hand
    have : b &&& (1 <<< UInt8.ofNat k) ≠ 0 := by
      intro h0
      rw [h0, Bool.toNat_true, Nat.one_mul] at hand
      exact absurd hand hpos.ne
    simp [this]

theorem bitSet_eq_testBit (bitmap : List UInt8) (i : Nat) :
    bitSet bitmap i = (bitmap.getD (i / 8) 0).toNat.testBit (i % 8) :=
  and_one_shiftLeft_ne_zero _ (Nat.mod_lt _ (by decide))

@[simp] theorem length_setBit (bitmap : List UInt8) (i : Nat) :
    (setBit bitmap i).length = bitmap.length := by
  simp [setBit]

theorem bitSet_setBit {bitmap : List UInt8} {i : Nat} (h : i < 8 * bitmap.length) (j : Nat) :
    bitSet (setBit bitmap i) j = (bitSet bitmap j || decide (i = j)) := by
  have hi : i / 8 < bitmap.length := by omega
  simp only [bitSet_eq_testBit, setBit, List.getD_eq_getElem?_getD, List.getElem?_modify]
  by_cases hb : i / 8 = j / 8
  · -- same byte: the two differ in the low three bits, or not at all
    have hmod : i % 8 < 8 := Nat.mod_lt _ (by decide)
    rw [← hb, List.getElem?_eq_getElem hi]
    simp only [if_true, Option.map_eq_map, Option.map_some, Option.getD_some, UInt8.toNat_or,
      Nat.testBit_or, toNat_one_shiftLeft hmod, Nat.testBit_two_pow]
    congr 1
    simp only [decide_eq_decide]
    omega
  · have hne : ¬ i = j := fun e => hb (by rw [e])
    simp [hne, hb]

theorem setBit_comm (bitmap : List UInt8) (i j : Nat) :
    setBit (setBit bitmap i) j = setBit (setBit bitmap j) i := by
  apply List.ext_getElem?
  intro k
  simp only [setBit, List.getElem?_modify]
  cases bitmap[k]? with
  | none => split <;> split <;> rfl
  | some b =>
    split <;> split <;> simp only [Option.map_eq_map, Option.map_some, Option.some.injEq]
    rw [UInt8.or_assoc, UInt8.or_assoc, UInt8.or_comm (1 <<< UInt8.ofNat (i % 8))]

/-- Set every number of a list. -/
def setBits (bitmap : List UInt8) (l : List Nat) : List UInt8 := l.foldl setBit bitmap

@[simp] theorem length_setBits (l : List Nat) (bitmap : List UInt8) :
    (setBits bitmap l).length = bitmap.length := by
  induction l generalizing bitmap with
  | nil => rfl
  | cons i l ih => rw [setBits, List.foldl_cons, ← setBits, ih, length_setBit]

theorem bitSet_setBits (l : List Nat) {bitmap : List UInt8} (h : ∀ i ∈ l, i < 8 * bitmap.length)
    (j : Nat) : bitSet (setBits bitmap l) j = (bitSet bitmap j || decide (j ∈ l)) := by
  induction l generalizing bitmap with
  | nil => simp [setBits]
  | cons i l ih =>
    have hi : i < 8 * bitmap.length := h i List.mem_cons_self
    have hl : ∀ k ∈ l, k < 8 * (setBit bitmap i).length := by
      intro k hk
      rw [length_setBit]
      exact h k (List.mem_cons_of_mem i hk)
    have hstep : setBits bitmap (i :: l) = setBits (setBit bitmap i) l := rfl
    rw [hstep, ih hl, bitSet_setBit hi, Bool.or_assoc]
    congr 1
    by_cases hij : i = j
    · simp [hij]
    · have hji : ¬ j = i := fun e => hij e.symm
      simp [hij, hji]

/-- The order in which numbers are set does not matter. -/
theorem setBits_perm {l l' : List Nat} (h : l.Perm l') (bitmap : List UInt8) :
    setBits bitmap l = setBits bitmap l' := by
  induction h generalizing bitmap with
  | nil => rfl
  | cons i _ ih => exact ih (setBit bitmap i)
  | swap i j l =>
    show setBits (setBit (setBit bitmap j) i) l = setBits (setBit (setBit bitmap i) j) l
    rw [setBit_comm]
  | trans _ _ ih₁ ih₂ => rw [ih₁, ih₂]

theorem bitSet_replicate_zero (n j : Nat) : bitSet (List.replicate n 0) j = false := by
  rw [bitSet_eq_testBit, List.getD_eq_getElem?_getD, List.getElem?_replicate]
  split <;> simp

end SedsNet.Lib
