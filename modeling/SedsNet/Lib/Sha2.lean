import SedsNet.Lib.Blocks
import Mathlib.Data.Nat.NthRoot.Defs
import Mathlib.Data.Nat.Prime.Basic
import Mathlib.Tactic.IntervalCases

/-!
# The standards: FIPS 180-4 SHA-256 and RFC 2104 HMAC

Both are written down as the standards word them, over bytes: the constants are the fractional parts of roots of the first
primes, the message schedule and the working variables are recurrences, and a message is padded, parsed into blocks of 64
bytes, and absorbed. Nothing here is meant to be run: a program that computes the function is compared with it.
-/

set_option autoImplicit false

namespace SedsNet.Lib

/-- `ROTR^n(x)` on words of 32 bits. -/
def rotr (x : UInt32) (n : UInt32) : UInt32 := (x >>> n) ||| (x <<< (32 - n))

/-- The `k` bytes of a number, the highest first; what does not fit is left out. -/
def bigEndian (k N : Nat) : List UInt8 := (List.range k).map fun i => UInt8.ofNat (N / 2 ^ (8 * (k - 1 - i)))

theorem length_bigEndian (k N : Nat) : (bigEndian k N).length = k := by simp [bigEndian]

/-- The bytes of a word. -/
def wordBytes (x : UInt32) : List UInt8 := bigEndian 4 x.toNat

/-- The word whose bytes these are. -/
def wordOf (a b c d : UInt8) : UInt32 :=
  UInt32.ofNat (a.toNat * 2 ^ 24 + b.toNat * 2 ^ 16 + c.toNat * 2 ^ 8 + d.toNat)

namespace Fips

/-! ## Constants and functions (FIPS 180-4, 4.1.2, 4.2.2, 5.3.3) -/

def primes : List Nat := (List.range 312).filter fun n => decide (Nat.Prime n)

/-- Below `18 ^ 2` seven trial divisions decide. -/
theorem prime_iff {n : Nat} (hn : n < 324) : Nat.Prime n ↔ 2 ≤ n ∧ ∀ p ∈ [2, 3, 5, 7, 11, 13, 17], p ∣ n → p = n := by
  constructor
  · intro h
    refine ⟨h.two_le, fun p hp hd => ?_⟩
    rcases (Nat.dvd_prime h).mp hd with rfl | rfl
    · simp at hp
    · rfl
  · rintro ⟨h2, hall⟩
    by_contra hnot
    have hsq : n.minFac ^ 2 ≤ n := Nat.minFac_sq_le_self (by omega) hnot
    have hp : Nat.Prime n.minFac := Nat.minFac_prime (by omega)
    have hlt : n.minFac < 18 := by
      by_contra hge
      have : 18 ^ 2 ≤ n.minFac ^ 2 := Nat.pow_le_pow_left (by omega) 2
      omega
    have hmem : n.minFac ∈ [2, 3, 5, 7, 11, 13, 17] := by
      generalize n.minFac = q at hp hlt
      interval_cases q <;> first | decide | exact absurd hp (by decide)
    exact hnot (hall _ hmem (Nat.minFac_dvd n) ▸ hp)

/-- The first sixty-four. -/
theorem primes_eq : primes =
    [2, 3, 5, 7, 11, 13, 17, 19, 23, 29, 31, 37, 41, 43, 47, 53, 59, 61, 67, 71, 73, 79, 83, 89, 97, 101, 103, 107, 109, 113,
     127, 131, 137, 139, 149, 151, 157, 163, 167, 173, 179, 181, 191, 193, 197, 199, 211, 223, 227, 229, 233, 239, 241, 251,
     257, 263, 269, 271, 277, 281, 283, 293, 307, 311] := by
  have htrial : primes =
      (List.range 312).filter fun n => decide (2 ≤ n ∧ ∀ p ∈ [2, 3, 5, 7, 11, 13, 17], p ∣ n → p = n) := by
    refine List.filter_congr fun n hn => decide_eq_decide.mpr (prime_iff ?_)
    exact Nat.lt_trans (List.mem_range.mp hn) (by decide)
  rw [htrial]
  decide +kernel

/-- The first 32 bits of the fractional part of the `k`-th root of `p`. -/
def rootBits (k p : Nat) : UInt32 := UInt32.ofNat (Nat.nthRoot k (p * 2 ^ (32 * k)) % 2 ^ 32)

def K (t : Nat) : UInt32 := rootBits 3 (primes.getD t 0)

def Ch (x y z : UInt32) : UInt32 := (x &&& y) ^^^ (~~~x &&& z)

def Maj (x y z : UInt32) : UInt32 := (x &&& y) ^^^ (x &&& z) ^^^ (y &&& z)

def bigSigma0 (x : UInt32) : UInt32 := rotr x 2 ^^^ rotr x 13 ^^^ rotr x 22

def bigSigma1 (x : UInt32) : UInt32 := rotr x 6 ^^^ rotr x 11 ^^^ rotr x 25

def smallSigma0 (x : UInt32) : UInt32 := rotr x 7 ^^^ rotr x 18 ^^^ (x >>> 3)

def smallSigma1 (x : UInt32) : UInt32 := rotr x 17 ^^^ rotr x 19 ^^^ (x >>> 10)

/-- Eight words: a hash value, or the working variables `a` to `h`. -/
structure Words where
  a : UInt32
  b : UInt32
  c : UInt32
  d : UInt32
  e : UInt32
  f : UInt32
  g : UInt32
  h : UInt32
  deriving DecidableEq, Repr

/-- `H(0)`. -/
def initial : Words :=
  ⟨rootBits 2 2, rootBits 2 3, rootBits 2 5, rootBits 2 7, rootBits 2 11, rootBits 2 13, rootBits 2 17, rootBits 2 19⟩

/-! ## One block (6.2.2) -/

/-- Word `t` of a block. -/
def blockWord (M : List UInt8) (t : Nat) : UInt32 :=
  wordOf (M.getD (4 * t) 0) (M.getD (4 * t + 1) 0) (M.getD (4 * t + 2) 0) (M.getD (4 * t + 3) 0)

/-- The message schedule `W_t`. -/
def W (M : List UInt8) (t : Nat) : UInt32 :=
  if t < 16 then blockWord M t
  else smallSigma1 (W M (t - 2)) + W M (t - 7) + smallSigma0 (W M (t - 15)) + W M (t - 16)
termination_by t

/-- One round, with `T1` and `T2`. -/
def round (M : List UInt8) (v : Words) (t : Nat) : Words :=
  let T1 := v.h + bigSigma1 v.e + Ch v.e v.f v.g + K t + W M t
  let T2 := bigSigma0 v.a + Maj v.a v.b v.c
  ⟨T1 + T2, v.a, v.b, v.c, v.d + T1, v.e, v.f, v.g⟩

def Words.add (x y : Words) : Words :=
  ⟨x.a + y.a, x.b + y.b, x.c + y.c, x.d + y.d, x.e + y.e, x.f + y.f, x.g + y.g, x.h + y.h⟩

/-- The next hash value. -/
def blockFunction (H : Words) (M : List UInt8) : Words := ((List.range 64).foldl (round M) H).add H

/-! ## Messages (5.1.1, 5.2.1, 6.2) -/

/-- How many zero bytes follow the byte `0x80`. -/
def zeros (l : Nat) : Nat := (119 - l % 64) % 64

/-- The least number that leaves room for a length of eight bytes at the end of a block. -/
theorem zeros_least (l : Nat) : (l + 1 + zeros l) % 64 = 56 ∧ ∀ z, (l + 1 + z) % 64 = 56 → zeros l ≤ z := by
  unfold zeros
  exact ⟨by omega, fun z hz => by omega⟩

/-- The padded message. The length is that in bits; of a message the standard does not admit (`2^64` bits and more) its low
    eight bytes. -/
def pad (m : List UInt8) : List UInt8 :=
  m ++ [0x80] ++ List.replicate (zeros m.length) 0 ++ bigEndian 8 (8 * m.length)

def Words.bytes (H : Words) : List UInt8 :=
  wordBytes H.a ++ wordBytes H.b ++ wordBytes H.c ++ wordBytes H.d ++ wordBytes H.e ++ wordBytes H.f ++ wordBytes H.g ++
    wordBytes H.h

/-- The message digest. -/
def hash (m : List UInt8) : List UInt8 := (absorb 64 blockFunction initial (pad m)).bytes

theorem W_of_lt (M : List UInt8) {t : Nat} (ht : t < 16) : W M t = blockWord M t := by
  rw [W, if_pos ht]

theorem W_of_ge (M : List UInt8) {t : Nat} (ht : 16 ≤ t) :
    W M t = smallSigma1 (W M (t - 2)) + W M (t - 7) + smallSigma0 (W M (t - 15)) + W M (t - 16) := by
  rw [W, if_neg (Nat.not_lt.mpr ht)]

end Fips

/-! ## HMAC (RFC 2104) -/

section Hmac

variable (H : List UInt8 → List UInt8) (B : Nat)

/-- The key, filled up with zeros to a block; hashed first if it is longer than one. -/
def Hmac.blockKey (key : List UInt8) : List UInt8 :=
  let short := if key.length ≤ B then key else H key
  short ++ List.replicate (B - short.length) 0

/-- `H(K XOR opad, H(K XOR ipad, text))`. -/
def hmac (key text : List UInt8) : List UInt8 :=
  let xored (p : UInt8) : List UInt8 := (Hmac.blockKey H B key).map (· ^^^ p)
  H (xored 0x5c ++ H (xored 0x36 ++ text))

end Hmac

end SedsNet.Lib
