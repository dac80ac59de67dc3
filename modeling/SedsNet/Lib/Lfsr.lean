import Mathlib.Data.Nat.Bitwise

/-!
# Shift registers with feedback

A register of `w` bits that moves down by one place, and adds a fixed word when the bit that falls out is set: the remainder of
a cyclic code, lowest bit first. The register is linear (`shift_xor`), and loses nothing when the word has its top bit set
(`shift_injective`). A run of a machine whose steps lose nothing tells apart what differs in one stretch only
(`foldl_window`).
-/

set_option autoImplicit false

namespace SedsNet.Lib.Lfsr

variable {w : Nat} (poly : BitVec w)

def shift (c : BitVec w) : BitVec w := if c.getLsbD 0 then (c >>> 1) ^^^ poly else c >>> 1

/-- `n` places. -/
def shifts : Nat → BitVec w → BitVec w
  | 0, c => c
  | n + 1, c => shifts n (shift poly c)

variable {poly}

theorem xor_cancel (a b p : BitVec w) : a ^^^ p ^^^ (b ^^^ p) = a ^^^ b := by
  rw [BitVec.xor_assoc a p, BitVec.xor_comm b p, ← BitVec.xor_assoc p p b, BitVec.xor_self, BitVec.zero_xor]

theorem shift_xor (a b : BitVec w) : shift poly (a ^^^ b) = shift poly a ^^^ shift poly b := by
  unfold shift
  rw [BitVec.getLsbD_xor, BitVec.ushiftRight_xor_distrib]
  cases a.getLsbD 0 with
  | false =>
    cases b.getLsbD 0 with
    | false => rfl
    | true => exact BitVec.xor_assoc _ _ _
  | true =>
    cases b.getLsbD 0 with
    | false =>
      show a >>> 1 ^^^ b >>> 1 ^^^ poly = a >>> 1 ^^^ poly ^^^ b >>> 1
      rw [BitVec.xor_assoc, BitVec.xor_comm (b >>> 1) poly, BitVec.xor_assoc]
    | true => exact (xor_cancel _ _ poly).symm

theorem shifts_xor (n : Nat) (a b : BitVec w) : shifts poly n (a ^^^ b) = shifts poly n a ^^^ shifts poly n b := by
  induction n generalizing a b with
  | zero => rfl
  | succ n ih =>
    unfold shifts
    rw [shift_xor]
    exact ih _ _

theorem shifts_add (m n : Nat) (c : BitVec w) : shifts poly (m + n) c = shifts poly n (shifts poly m c) := by
  induction m generalizing c with
  | zero => rw [Nat.zero_add]; rfl
  | succ m ih =>
    rw [Nat.succ_add]
    exact ih (shift poly c)

/-- A register that only moves has its top bit clear, and one that adds the word has it set: the bit that fell out is known. -/
theorem shift_injective (hw : 0 < w) (htop : poly.getLsbD (w - 1) = true) : Function.Injective (shift poly) := by
  intro a b h
  have htopBit : ∀ c : BitVec w, (shift poly c).getLsbD (w - 1) = c.getLsbD 0 := by
    intro c
    have hclear : (c >>> 1).getLsbD (w - 1) = false := by
      rw [BitVec.getLsbD_ushiftRight]
      exact BitVec.getLsbD_of_ge c _ (by omega)
    unfold shift
    cases hlow : c.getLsbD 0 with
    | false => simpa using hclear
    | true =>
      rw [if_pos rfl, BitVec.getLsbD_xor, hclear, htop]
      rfl
  have hlow : a.getLsbD 0 = b.getLsbD 0 := by rw [← htopBit a, ← htopBit b, h]
  have hrest : a >>> 1 = b >>> 1 := by
    unfold shift at h
    rw [hlow] at h
    cases hb : b.getLsbD 0 with
    | false =>
      rw [hb] at h
      exact h
    | true =>
      rw [hb, if_pos rfl, if_pos rfl] at h
      exact (BitVec.xor_left_inj poly).mp h
  apply BitVec.eq_of_getLsbD_eq
  intro i _
  cases i with
  | zero => exact hlow
  | succ i =>
    have hbit := congrArg (fun c => c.getLsbD i) hrest
    simp only [BitVec.getLsbD_ushiftRight] at hbit
    rw [Nat.add_comm i 1]
    exact hbit

theorem shifts_injective (hw : 0 < w) (htop : poly.getLsbD (w - 1) = true) (n : Nat) : Function.Injective (shifts poly n) := by
  induction n with
  | zero => exact fun _ _ h => h
  | succ n ih => exact fun _ _ h => shift_injective hw htop (ih h)

/-- A word whose lowest bits are clear only moves. -/
theorem shifts_ofNat {n m : Nat} (hm : 2 ^ n * m < 2 ^ w) : shifts poly n (BitVec.ofNat w (2 ^ n * m)) = BitVec.ofNat w m := by
  induction n with
  | zero => rw [Nat.pow_zero, Nat.one_mul]; rfl
  | succ n ih =>
    have hdouble : 2 ^ (n + 1) * m = 2 * (2 ^ n * m) := by rw [Nat.pow_succ, Nat.mul_comm (2 ^ n) 2, Nat.mul_assoc]
    rw [hdouble] at hm ⊢
    have hshift : shift poly (BitVec.ofNat w (2 * (2 ^ n * m))) = BitVec.ofNat w (2 ^ n * m) := by
      have heven : (BitVec.ofNat w (2 * (2 ^ n * m))).getLsbD 0 = false := by
        rw [BitVec.getLsbD_ofNat, Nat.testBit_zero, Nat.mul_mod_right]
        simp
      unfold shift
      rw [heven, if_neg Bool.false_ne_true]
      apply BitVec.eq_of_toNat_eq
      rw [BitVec.toNat_ushiftRight, BitVec.toNat_ofNat, BitVec.toNat_ofNat, Nat.mod_eq_of_lt hm, Nat.mod_eq_of_lt (by omega),
        Nat.shiftRight_one]
      omega
    unfold shifts
    rw [hshift]
    exact ih (by omega)

/-! ## Stretches -/

section

variable {σ α : Type} {step : σ → α → σ}

theorem foldl_injective (hstep : ∀ a, Function.Injective fun s => step s a) (as : List α) : Function.Injective fun s => as.foldl step s := by
  induction as with
  | nil => exact fun _ _ h => h
  | cons a as ih => exact fun _ _ h => hstep a (ih h)

/-- Two words that differ in a stretch only, and end in the same state, have the same stretch, if stretches from one state
    can be told apart. -/
theorem foldl_window (hstep : ∀ a, Function.Injective fun s => step s a) {s : σ} {before stretch stretch' after : List α}
    (hstretch : ∀ s, stretch.foldl step s = stretch'.foldl step s → stretch = stretch')
    (h : (before ++ stretch ++ after).foldl step s = (before ++ stretch' ++ after).foldl step s) : stretch = stretch' := by
  rw [List.foldl_append, List.foldl_append, List.foldl_append, List.foldl_append] at h
  exact hstretch _ (foldl_injective hstep after h)

end

end SedsNet.Lib.Lfsr
