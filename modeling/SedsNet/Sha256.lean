import SedsNet.Basic
import SedsNet.Lib.Sha2
import Mathlib.Data.List.GetD
import Mathlib.Tactic.Ring

/-!
# SHA-256 and HMAC

The class `Sha256` of `upstream_api_compat.cpp` and `hmac_sha256`. `Holds m h` is what an object knows after the message `m` in
whatever pieces: the complete blocks are in the state, the rest stands at the front of the buffer, and the length counter has
the bits. `update` keeps it, and `finalize` completes the message as the standard pads it.
-/

set_option autoImplicit false

namespace SedsNet

open Lib (rotr Absorbed)
open Lib.Fips (Words)

/-! ## The buffer -/

/-- `std::copy_n` and `std::copy` into a buffer. -/
def copyAt (buffer : Bytes) (offset : Nat) (src : Bytes) : Bytes :=
  buffer.take offset ++ src ++ buffer.drop (offset + src.length)

/-- `std::fill(begin + first, begin + last, 0)`. -/
def fillZero (buffer : Bytes) (first last : Nat) : Bytes := copyAt buffer first (List.replicate (last - first) 0)

theorem length_copyAt (buffer src : Bytes) (offset : Nat) (h : offset + src.length ≤ buffer.length) :
    (copyAt buffer offset src).length = buffer.length := by
  simp only [copyAt, List.length_append, List.length_take, List.length_drop]
  omega

/-- The front of the buffer, up to and with what was copied. -/
theorem take_copyAt (buffer src : Bytes) (offset : Nat) (h : offset ≤ buffer.length) :
    (copyAt buffer offset src).take (offset + src.length) = buffer.take offset ++ src := by
  unfold copyAt
  rw [List.take_append_of_le_length (by simp only [List.length_append, List.length_take]; omega)]
  refine List.take_of_length_le ?_
  simp only [List.length_append, List.length_take]
  omega

/-! ## The class -/

structure Sha256 where
  state : Words
  buffer : Bytes
  bufferLen : Nat
  lenBits : UInt64
  deriving DecidableEq, Repr

namespace Sha256

def init : Sha256 :=
  { state := ⟨0x6a09e667, 0xbb67ae85, 0x3c6ef372, 0xa54ff53a, 0x510e527f, 0x9b05688c, 0x1f83d9ab, 0x5be0cd19⟩
    buffer := List.replicate 64 0
    bufferLen := 0
    lenBits := 0 }

def k : List UInt32 :=
  [0x428a2f98, 0x71374491, 0xb5c0fbcf, 0xe9b5dba5, 0x3956c25b, 0x59f111f1, 0x923f82a4,
   0xab1c5ed5, 0xd807aa98, 0x12835b01, 0x243185be, 0x550c7dc3, 0x72be5d74, 0x80deb1fe,
   0x9bdc06a7, 0xc19bf174, 0xe49b69c1, 0xefbe4786, 0x0fc19dc6, 0x240ca1cc, 0x2de92c6f,
   0x4a7484aa, 0x5cb0a9dc, 0x76f988da, 0x983e5152, 0xa831c66d, 0xb00327c8, 0xbf597fc7,
   0xc6e00bf3, 0xd5a79147, 0x06ca6351, 0x14292967, 0x27b70a85, 0x2e1b2138, 0x4d2c6dfc,
   0x53380d13, 0x650a7354, 0x766a0abb, 0x81c2c92e, 0x92722c85, 0xa2bfe8a1, 0xa81a664b,
   0xc24b8b70, 0xc76c51a3, 0xd192e819, 0xd6990624, 0xf40e3585, 0x106aa070, 0x19a4c116,
   0x1e376c08, 0x2748774c, 0x34b0bcb5, 0x391c0cb3, 0x4ed8aa4a, 0x5b9cca4f, 0x682e6ff3,
   0x748f82ee, 0x78a5636f, 0x84c87814, 0x8cc70208, 0x90befffa, 0xa4506ceb, 0xbef9a3f7,
   0xc67178f2]

/-- `w[i]` of the first loop of `compress`. -/
def loadWord (block : Bytes) (i : Nat) : UInt32 :=
  ((block.getD (i * 4) 0).toUInt32 <<< 24) ||| ((block.getD (i * 4 + 1) 0).toUInt32 <<< 16) |||
    ((block.getD (i * 4 + 2) 0).toUInt32 <<< 8) ||| (block.getD (i * 4 + 3) 0).toUInt32

/-- `w[i]` of the second loop, from the words before it. -/
def nextWord (w : List UInt32) (i : Nat) : UInt32 :=
  let s0 := rotr (w.getD (i - 15) 0) 7 ^^^ rotr (w.getD (i - 15) 0) 18 ^^^ (w.getD (i - 15) 0 >>> 3)
  let s1 := rotr (w.getD (i - 2) 0) 17 ^^^ rotr (w.getD (i - 2) 0) 19 ^^^ (w.getD (i - 2) 0 >>> 10)
  w.getD (i - 16) 0 + s0 + w.getD (i - 7) 0 + s1

/-- The array `w`, as far as it is filled. -/
def words (block : Bytes) (n : Nat) : List UInt32 :=
  (List.range' 16 n).foldl (fun w i => w ++ [nextWord w i]) ((List.range 16).map (loadWord block))

/-- One turn of the loop over `i < 64`. -/
def turn (w : List UInt32) (v : Words) (i : Nat) : Words :=
  let s1 := rotr v.e 6 ^^^ rotr v.e 11 ^^^ rotr v.e 25
  let ch := (v.e &&& v.f) ^^^ (~~~v.e &&& v.g)
  let temp1 := v.h + s1 + ch + k.getD i 0 + w.getD i 0
  let s0 := rotr v.a 2 ^^^ rotr v.a 13 ^^^ rotr v.a 22
  let maj := (v.a &&& v.b) ^^^ (v.a &&& v.c) ^^^ (v.b &&& v.c)
  let temp2 := s0 + maj
  { h := v.g, g := v.f, f := v.e, e := v.d + temp1, d := v.c, c := v.b, b := v.a, a := temp1 + temp2 }

def compress (state : Words) (block : Bytes) : Words :=
  let w := words block 48
  let v := (List.range 64).foldl (turn w) state
  { a := state.a + v.a, b := state.b + v.b, c := state.c + v.c, d := state.d + v.d,
    e := state.e + v.e, f := state.f + v.f, g := state.g + v.g, h := state.h + v.h }

/-- The branch `buffer_len_ > 0` of `update`, with what is left of the input. -/
def fill (h : Sha256) (input : Bytes) : Sha256 × Bytes :=
  let take := min (64 - h.bufferLen) input.length
  let buffer := copyAt h.buffer h.bufferLen (input.take take)
  let bufferLen := h.bufferLen + take
  if bufferLen = 64 then
    ({ h with state := compress h.state buffer, buffer := buffer, bufferLen := 0 }, input.drop take)
  else
    ({ h with buffer := buffer, bufferLen := bufferLen }, input.drop take)

/-- The loop `while (input.size() >= 64u)`, for at most `n` turns. -/
def compressBlocks : Nat → Words → Bytes → Words × Bytes
  | 0, state, input => (state, input)
  | n + 1, state, input =>
    if input.length ≥ 64 then compressBlocks n (compress state (input.take 64)) (input.drop 64) else (state, input)

/-- What follows the branch: the loop, and the copy of what is left. -/
def finish (h : Sha256) (input : Bytes) : Sha256 :=
  let (state, input) := compressBlocks input.length h.state input
  if input.isEmpty then { h with state := state }
  else { h with state := state, buffer := copyAt h.buffer 0 input, bufferLen := input.length }

def update (h : Sha256) (input : Bytes) : Sha256 :=
  let h := { h with lenBits := h.lenBits + UInt64.ofNat input.length * 8 }
  if h.bufferLen > 0 then (h.fill input).1.finish (h.fill input).2 else h.finish input

/-- The eight bytes of the length. -/
def lenBytes (lenBits : UInt64) : Bytes :=
  (List.range 8).map fun i => ((lenBits >>> (UInt64.ofNat (56 - i * 8))) &&& 0xff).toUInt8

/-- `out[i * 4]` to `out[i * 4 + 3]`. -/
def storeWord (x : UInt32) : Bytes := [(x >>> 24).toUInt8, (x >>> 16).toUInt8, (x >>> 8).toUInt8, x.toUInt8]

/-- `finalize`: the digest; the object is not used after it. -/
def finalize (h : Sha256) : Bytes :=
  let buffer := h.buffer.set h.bufferLen 0x80
  let bufferLen := h.bufferLen + 1
  let (state, buffer, bufferLen) :=
    if bufferLen > 56 then
      let buffer := fillZero buffer bufferLen 64
      (compress h.state buffer, buffer, 0)
    else (h.state, buffer, bufferLen)
  let buffer := copyAt (fillZero buffer bufferLen 56) 56 (lenBytes h.lenBits)
  let state := compress state buffer
  storeWord state.a ++ storeWord state.b ++ storeWord state.c ++ storeWord state.d ++ storeWord state.e ++
    storeWord state.f ++ storeWord state.g ++ storeWord state.h

def digest (input : Bytes) : Bytes := (init.update input).finalize

/-! ## One block -/

theorem k_eq : ∀ t < 64, k.getD t 0 = Lib.Fips.K t := by
  unfold Lib.Fips.K
  rw [Lib.Fips.primes_eq]
  decide +kernel

theorem init_state : init.state = Lib.Fips.initial := by decide +kernel

/-- A byte below the bytes that are there already. -/
theorem or_byte (x y i : Nat) (hy : y < 256) : x <<< (i + 8) ||| y <<< i = (x * 256 + y) <<< i := by
  have hlt : y <<< i < 2 ^ (i + 8) := by
    rw [Nat.shiftLeft_eq, Nat.pow_add, Nat.mul_comm]
    exact Nat.mul_lt_mul_of_pos_left hy (Nat.two_pow_pos i)
  rw [← Nat.shiftLeft_add_eq_or_of_lt hlt]
  simp only [Nat.shiftLeft_eq, Nat.pow_add]
  ring

theorem loadWord_eq (block : Bytes) (i : Nat) : loadWord block i = Lib.Fips.blockWord block i := by
  unfold loadWord Lib.Fips.blockWord
  rw [Nat.mul_comm i 4]
  generalize block.getD (4 * i) 0 = a, block.getD (4 * i + 1) 0 = b, block.getD (4 * i + 2) 0 = c,
    block.getD (4 * i + 3) 0 = d
  have ha := a.toNat_lt
  have hb := b.toNat_lt
  have hc := c.toNat_lt
  have hd := d.toNat_lt
  have hor : a.toNat <<< 24 ||| b.toNat <<< 16 ||| c.toNat <<< 8 ||| d.toNat =
      a.toNat * 2 ^ 24 + b.toNat * 2 ^ 16 + c.toNat * 2 ^ 8 + d.toNat := by
    rw [or_byte _ _ 16 hb, or_byte _ _ 8 hc]
    refine (or_byte _ _ 0 hd).trans ?_
    rw [Nat.shiftLeft_zero]
    ring
  apply UInt32.toNat_inj.mp
  simp only [Lib.wordOf, UInt32.toNat_or, UInt32.toNat_shiftLeft, UInt8.toNat_toUInt32, UInt32.toNat_ofNat']
  show a.toNat <<< 24 % 2 ^ 32 ||| b.toNat <<< 16 % 2 ^ 32 ||| c.toNat <<< 8 % 2 ^ 32 ||| d.toNat = _
  have hsmall (x s : Nat) (hx : x < 2 ^ 8) (hs : s ≤ 24) : x <<< s % 2 ^ 32 = x <<< s := by
    refine Nat.mod_eq_of_lt ?_
    rw [Nat.shiftLeft_eq]
    calc x * 2 ^ s < 2 ^ 8 * 2 ^ s := Nat.mul_lt_mul_of_pos_right hx (Nat.two_pow_pos s)
      _ ≤ 2 ^ 8 * 2 ^ 24 := Nat.mul_le_mul_left _ (Nat.pow_le_pow_right (by omega) hs)
      _ = 2 ^ 32 := rfl
  rw [hsmall _ 24 ha (by omega), hsmall _ 16 hb (by omega), hsmall _ 8 hc (by omega), hor]
  exact (Nat.mod_eq_of_lt (by omega)).symm

theorem length_words (block : Bytes) (n : Nat) : (words block n).length = 16 + n := by
  induction n with
  | zero => rfl
  | succ n ih =>
    unfold words at ih ⊢
    rw [List.range'_concat, List.foldl_append]
    show (_ ++ [_]).length = _
    rw [List.length_append, ih]
    rfl

theorem words_succ (block : Bytes) (n : Nat) : words block (n + 1) = words block n ++ [nextWord (words block n) (16 + n)] := by
  unfold words
  rw [List.range'_concat, List.foldl_append, Nat.one_mul]
  rfl

/-- The array holds the message schedule. -/
theorem words_eq (block : Bytes) (n : Nat) : ∀ t < 16 + n, (words block n).getD t 0 = Lib.Fips.W block t := by
  induction n with
  | zero =>
    intro t ht
    rw [Lib.Fips.W_of_lt block ht, ← loadWord_eq]
    show ((List.range 16).map (loadWord block)).getD t 0 = _
    simp [List.getD_eq_getElem?_getD, ht]
  | succ n ih =>
    intro t ht
    rw [words_succ]
    rcases Nat.lt_or_ge t (16 + n) with hlt | hge
    · rw [List.getD_append _ _ _ _ (by rw [length_words]; exact hlt)]
      exact ih t hlt
    · obtain rfl : t = 16 + n := by omega
      rw [List.getD_append_right _ _ _ _ (by rw [length_words]), length_words, Nat.sub_self]
      show nextWord (words block n) (16 + n) = _
      unfold nextWord
      rw [ih _ (by omega), ih _ (by omega), ih _ (by omega), ih _ (by omega),
        Lib.Fips.W_of_ge block (Nat.le_add_right 16 n)]
      show _ + Lib.Fips.smallSigma0 _ + _ + Lib.Fips.smallSigma1 _ = _
      ac_rfl

theorem compress_eq (state : Words) (block : Bytes) : compress state block = Lib.Fips.blockFunction state block := by
  have hturns : (List.range 64).foldl (turn (words block 48)) state = (List.range 64).foldl (Lib.Fips.round block) state := by
    refine List.foldl_ext _ _ _ fun v i hi => ?_
    have hi' : i < 64 := List.mem_range.mp hi
    unfold turn
    rw [k_eq i hi', words_eq block 48 i hi']
    rfl
  unfold compress
  simp only [hturns]
  unfold Lib.Fips.blockFunction Words.add
  simp only [UInt32.add_comm]

/-! ## Bytes of numbers -/

theorem lenBytes_eq (N : Nat) : lenBytes (UInt64.ofNat N) = Lib.bigEndian 8 N := by
  unfold lenBytes Lib.bigEndian
  refine List.map_congr_left fun i hi => ?_
  have hi' : i < 8 := List.mem_range.mp hi
  have hshift : (56 - i * 8) % 2 ^ 64 % 64 = 8 * (8 - 1 - i) := by omega
  apply UInt8.toNat_inj.mp
  simp only [UInt64.toNat_toUInt8, UInt64.toNat_and, UInt64.toNat_shiftRight, UInt64.toNat_ofNat', UInt8.toNat_ofNat', hshift]
  generalize hs : 8 * (8 - 1 - i) = s
  have hle : s ≤ 56 := by omega
  have hand : (N % 2 ^ 64) >>> s &&& 255 = (N % 2 ^ 64) >>> s % 2 ^ 8 := Nat.and_two_pow_sub_one_eq_mod _ 8
  show ((N % 2 ^ 64) >>> s &&& 255) % 2 ^ 8 = _
  rw [hand, Nat.mod_mod, Nat.shiftRight_eq_div_pow]
  have hpow : 2 ^ 64 = 2 ^ s * 2 ^ (64 - s) := by rw [← Nat.pow_add, Nat.add_sub_cancel' (by omega)]
  have hdvd : 2 ^ 8 ∣ 2 ^ (64 - s) := Nat.pow_dvd_pow 2 (by omega)
  -- the bytes above the eighth are multiples of 256 whatever the shift
  rw [hpow, Nat.mod_mul_right_div_self]
  exact Nat.mod_mod_of_dvd _ hdvd

theorem storeWord_eq (x : UInt32) : storeWord x = Lib.wordBytes x := by
  unfold storeWord Lib.wordBytes Lib.bigEndian
  have hbyte (n : UInt32) (k : Nat) (hn : n.toNat % 32 = k) : (x >>> n).toUInt8 = UInt8.ofNat (x.toNat / 2 ^ k) := by
    apply UInt8.toNat_inj.mp
    simp only [UInt32.toNat_toUInt8, UInt32.toNat_shiftRight, UInt8.toNat_ofNat', hn, Nat.shiftRight_eq_div_pow]
  rw [hbyte 24 24 rfl, hbyte 16 16 rfl, hbyte 8 8 rfl]
  have hlow : x.toUInt8 = UInt8.ofNat (x.toNat / 2 ^ 0) := by
    rw [Nat.pow_zero, Nat.div_one]
    rfl
  rw [hlow]
  rfl

/-! ## What an object knows -/

/-- The message `m` has gone in, its complete blocks into the state and the rest to the front of the buffer. -/
structure Buffered (m : Bytes) (h : Sha256) : Prop where
  absorbed : Absorbed 64 Lib.Fips.blockFunction Lib.Fips.initial m h.state (h.buffer.take h.bufferLen)
  length_buffer : h.buffer.length = 64
  bufferLen_lt : h.bufferLen < 64

/-- The whole of it: the length is counted as well. -/
structure Holds (m : Bytes) (h : Sha256) : Prop extends Buffered m h where
  lenBits : h.lenBits = UInt64.ofNat (8 * m.length)

theorem init_holds : Holds [] init where
  absorbed := by
    rw [init_state]
    exact Absorbed.init
  length_buffer := by decide
  bufferLen_lt := by decide
  lenBits := rfl

theorem mk_lenBits (state : Words) (buffer : Bytes) (bufferLen : Nat) (lenBits : UInt64) :
    (Sha256.mk state buffer bufferLen lenBits).lenBits = lenBits := rfl

theorem fill_eq {h : Sha256} {input buffer : Bytes} {take : Nat} (htake : min (64 - h.bufferLen) input.length = take)
    (hbuffer : copyAt h.buffer h.bufferLen (input.take take) = buffer) :
    h.fill input = if h.bufferLen + take = 64 then
      ({ h with state := compress h.state buffer, buffer := buffer, bufferLen := 0 }, input.drop take)
    else ({ h with buffer := buffer, bufferLen := h.bufferLen + take }, input.drop take) := by
  subst htake hbuffer
  rfl

/-- The branch takes the front of the input, and leaves something of it only with an empty buffer. -/
theorem fill_buffered {m : Bytes} {h : Sha256} (hb : Buffered m h) (input : Bytes) :
    ∃ c, input = c ++ (h.fill input).2 ∧ Buffered (m ++ c) (h.fill input).1 ∧ (h.fill input).1.lenBits = h.lenBits ∧
      ((h.fill input).1.bufferLen = 0 ∨ (h.fill input).2 = []) := by
  have hlen := hb.length_buffer
  have hlt := hb.bufferLen_lt
  generalize htake : min (64 - h.bufferLen) input.length = take
  have hsrc : (input.take take).length = take := by rw [List.length_take]; omega
  have hsize := length_copyAt h.buffer (input.take take) h.bufferLen (by omega)
  have hfront := take_copyAt h.buffer (input.take take) h.bufferLen (by omega)
  rw [hsrc] at hfront
  generalize hbuffer : copyAt h.buffer h.bufferLen (input.take take) = buffer at hsize hfront
  rw [hlen] at hsize
  have hkept := hb.absorbed.keep (input.take take)
  rw [← hfront] at hkept
  refine ⟨input.take take, ?_⟩
  rw [fill_eq htake hbuffer]
  by_cases hfull : h.bufferLen + take = 64
  · rw [hfull, List.take_of_length_le (Nat.le_of_eq hsize)] at hkept
    have hdone := hkept.compress (by decide) hsize
    rw [← compress_eq, ← List.take_zero (l := buffer)] at hdone
    rw [if_pos hfull]
    exact ⟨(List.take_append_drop take input).symm, ⟨hdone, hsize, Nat.zero_lt_succ 63⟩, mk_lenBits _ _ _ _, Or.inl rfl⟩
  · have hrest : input.drop take = [] := List.drop_of_length_le (by omega)
    have hroom : h.bufferLen + take < 64 := by omega
    rw [if_neg hfull]
    exact ⟨(List.take_append_drop take input).symm, ⟨hkept, hsize, hroom⟩, rfl, Or.inr hrest⟩

/-- The loop takes whole blocks until less than one is left. -/
theorem compressBlocks_absorbed {m : Bytes} {state : Words} {input : Bytes} {n : Nat} (hn : input.length ≤ n)
    (ha : Absorbed 64 Lib.Fips.blockFunction Lib.Fips.initial m state []) :
    ∃ c, input = c ++ (compressBlocks n state input).2 ∧ (compressBlocks n state input).2.length < 64 ∧
      Absorbed 64 Lib.Fips.blockFunction Lib.Fips.initial (m ++ c) (compressBlocks n state input).1 [] := by
  induction n generalizing m state input with
  | zero =>
    refine ⟨[], rfl, ?_, ?_⟩
    · show input.length < 64
      omega
    · rw [List.append_nil]
      exact ha
  | succ n ih =>
    unfold compressBlocks
    split
    · rename_i hge
      have hblock : (input.take 64).length = 64 := by rw [List.length_take]; omega
      have hnext := (ha.keep (input.take 64)).compress (by decide) hblock
      rw [List.nil_append, ← compress_eq] at hnext
      have hrest : (input.drop 64).length ≤ n := by rw [List.length_drop]; omega
      obtain ⟨c, hc, hlt, hc'⟩ := ih hrest hnext
      refine ⟨input.take 64 ++ c, ?_, hlt, ?_⟩
      · rw [List.append_assoc, ← hc, List.take_append_drop]
      · rw [← List.append_assoc]
        exact hc'
    · rename_i hlt
      refine ⟨[], rfl, Nat.lt_of_not_ge hlt, ?_⟩
      rw [List.append_nil]
      exact ha

/-- The loop does nothing with less than a block. -/
theorem compressBlocks_short {state : Words} {input : Bytes} (n : Nat) (hlt : input.length < 64) :
    compressBlocks n state input = (state, input) := by
  cases n with
  | zero => rfl
  | succ n => exact if_neg (by omega)

/-- A buffer with something in it is left alone when there is no more. -/
theorem finish_nil (h : Sha256) : h.finish [] = h := by
  cases h
  rfl

theorem finish_buffered {m : Bytes} {h : Sha256} (hb : Buffered m h) (h0 : h.bufferLen = 0) (input : Bytes) :
    Buffered (m ++ input) (h.finish input) := by
  have hclean := hb.absorbed
  rw [h0, List.take_zero] at hclean
  obtain ⟨c, hc, hlt, habs⟩ := compressBlocks_absorbed (Nat.le_refl input.length) hclean
  unfold finish
  generalize compressBlocks input.length h.state input = run at hc hlt habs ⊢
  obtain ⟨state, rest⟩ := run
  have hkept := habs.keep rest
  rw [List.nil_append, List.append_assoc, ← show input = c ++ rest from hc] at hkept
  have hlen := hb.length_buffer
  by_cases hnil : rest = []
  · subst hnil
    refine ⟨?_, hlen, hb.bufferLen_lt⟩
    show Absorbed 64 _ _ _ state (h.buffer.take h.bufferLen)
    rw [h0, List.take_zero]
    exact hkept
  · have hshort : rest.length < 64 := hlt
    have hfront := take_copyAt h.buffer rest 0 (Nat.zero_le _)
    have hsize := length_copyAt h.buffer rest 0 (by omega)
    rw [Nat.zero_add, List.take_zero, List.nil_append] at hfront
    show Buffered _ (if rest.isEmpty then _ else _)
    rw [if_neg (by simpa using hnil)]
    refine ⟨?_, hsize.trans hlen, hshort⟩
    show Absorbed 64 _ _ _ state ((copyAt h.buffer 0 rest).take rest.length)
    rw [hfront]
    exact hkept

theorem finish_lenBits (h : Sha256) (input : Bytes) : (h.finish input).lenBits = h.lenBits := by
  unfold finish
  generalize compressBlocks input.length h.state input = run
  dsimp only
  split
  · rfl
  · rfl

/-- **`update` reads on**, however the message is cut. -/
theorem update_holds {m : Bytes} {h : Sha256} (hh : Holds m h) (input : Bytes) : Holds (m ++ input) (h.update input) := by
  have hbits : h.lenBits + UInt64.ofNat input.length * 8 = UInt64.ofNat (8 * (m ++ input).length) := by
    rw [hh.lenBits, List.length_append, Nat.mul_add, UInt64.ofNat_add, Nat.mul_comm 8 input.length,
      UInt64.ofNat_mul input.length 8]
    rfl
  have hcount : Buffered m { h with lenBits := h.lenBits + UInt64.ofNat input.length * 8 } :=
    ⟨hh.absorbed, hh.length_buffer, hh.bufferLen_lt⟩
  unfold update
  rw [hbits] at hcount ⊢
  generalize hg : { h with lenBits := UInt64.ofNat (8 * (m ++ input).length) } = g at hcount ⊢
  have hgbits : g.lenBits = UInt64.ofNat (8 * (m ++ input).length) := by rw [← hg]
  dsimp only
  by_cases hpos : g.bufferLen > 0
  · rw [if_pos hpos]
    obtain ⟨c, hc, hb, hl, hend⟩ := fill_buffered hcount input
    generalize g.fill input = run at hc hb hl hend ⊢
    obtain ⟨g', rest⟩ := run
    refine ⟨?_, (finish_lenBits g' rest).trans (hl.trans hgbits)⟩
    rcases hend with h0 | hnil
    · have := finish_buffered hb h0 rest
      rwa [List.append_assoc, ← show input = c ++ rest from hc] at this
    · obtain rfl : rest = [] := hnil
      obtain rfl : input = c := hc.trans (List.append_nil c)
      show Buffered _ (g'.finish [])
      rw [finish_nil]
      exact hb
  · rw [if_neg hpos]
    exact ⟨finish_buffered hcount (Nat.eq_zero_of_not_pos hpos) input, (finish_lenBits g input).trans hgbits⟩

theorem updates_holds {m : Bytes} {h : Sha256} (hh : Holds m h) (chunks : List Bytes) :
    Holds (m ++ chunks.flatten) (chunks.foldl update h) := by
  induction chunks generalizing m h with
  | nil =>
    rw [List.flatten_nil, List.append_nil]
    exact hh
  | cons c chunks ih =>
    rw [List.flatten_cons, ← List.append_assoc]
    exact ih (update_holds hh c)

/-! ## The last block -/

/-- Up to where the zeros end. -/
theorem take_fillZero (buffer : Bytes) {first last : Nat} (hle : first ≤ last) (hlast : last ≤ buffer.length) :
    (fillZero buffer first last).take last = buffer.take first ++ List.replicate (last - first) 0 := by
  have := take_copyAt buffer (List.replicate (last - first) 0) first (by omega)
  rwa [List.length_replicate, Nat.add_sub_cancel' hle] at this

theorem length_fillZero (buffer : Bytes) {first last : Nat} (hle : first ≤ last) (hlast : last ≤ buffer.length) :
    (fillZero buffer first last).length = buffer.length := by
  refine length_copyAt buffer _ first ?_
  rw [List.length_replicate]
  omega

/-- `buffer_[buffer_len_++] = 0x80u`. -/
theorem take_set (buffer : Bytes) {i : Nat} (hi : i < buffer.length) (b : UInt8) :
    (buffer.set i b).take (i + 1) = buffer.take i ++ [b] := by
  have hset : buffer.set i b = copyAt buffer i [b] := by
    rw [List.set_eq_take_append_cons_drop, if_pos hi, copyAt, List.append_assoc]
    rfl
  rw [hset]
  exact take_copyAt buffer [b] i (Nat.le_of_lt hi)

/-- The block that is closed by the length. -/
theorem lastBlock_eq (buffer : Bytes) {first : Nat} (hle : first ≤ 56) (hlen : buffer.length = 64) {len : Bytes}
    (h8 : len.length = 8) :
    copyAt (fillZero buffer first 56) 56 len = buffer.take first ++ List.replicate (56 - first) 0 ++ len := by
  have hsize := length_fillZero buffer hle (by omega)
  rw [← take_fillZero buffer hle (by omega), ← take_copyAt _ len 56 (by omega)]
  refine (List.take_of_length_le ?_).symm
  rw [length_copyAt _ _ _ (by omega)]
  omega

theorem length_lastBlock (buffer : Bytes) {first : Nat} (hle : first ≤ 56) (hlen : buffer.length = 64) {len : Bytes}
    (h8 : len.length = 8) : (copyAt (fillZero buffer first 56) 56 len).length = 64 := by
  have hsize := length_fillZero buffer hle (by omega)
  rw [length_copyAt _ _ _ (by omega), hsize, hlen]

theorem length_of_absorbed {m : Bytes} {h : Sha256} (hb : Buffered m h) : m.length % 64 = h.bufferLen := by
  obtain ⟨w, hm, ⟨k, hk⟩, -⟩ := hb.absorbed
  have hlen := hb.length_buffer
  have hlt := hb.bufferLen_lt
  rw [hm, List.length_append, List.length_take, hk]
  omega

/-- **`finalize` is the standard's digest** of what has been read. -/
theorem finalize_eq {m : Bytes} {h : Sha256} (hh : Holds m h) : h.finalize = Lib.Fips.hash m := by
  have hlen := hh.length_buffer
  have hlt := hh.bufferLen_lt
  have hmod := length_of_absorbed hh.toBuffered
  have hset := take_set h.buffer (hlen ▸ hlt : h.bufferLen < h.buffer.length) 0x80
  have hsetlen : (h.buffer.set h.bufferLen 0x80).length = 64 := List.length_set.trans hlen
  have hmark := hh.absorbed.keep [0x80]
  rw [← hset] at hmark
  have h8 : (lenBytes h.lenBits).length = 8 := by simp [lenBytes]
  have hpad : lenBytes h.lenBits = Lib.bigEndian 8 (8 * m.length) := by rw [hh.lenBits, lenBytes_eq]
  have hout (state : Words) (hs : state = Lib.absorb 64 Lib.Fips.blockFunction Lib.Fips.initial (Lib.Fips.pad m)) :
      storeWord state.a ++ storeWord state.b ++ storeWord state.c ++ storeWord state.d ++ storeWord state.e ++
        storeWord state.f ++ storeWord state.g ++ storeWord state.h = Lib.Fips.hash m := by
    simp only [storeWord_eq, hs]
    rfl
  unfold finalize
  generalize h.buffer.set h.bufferLen 0x80 = buffer at hsetlen hmark ⊢
  dsimp only
  by_cases hfull : h.bufferLen + 1 > 56
  · -- no room for the length: this block is closed with zeros, and one more follows
    rw [if_pos hfull]
    refine hout _ ?_
    have hzeros : Lib.Fips.zeros m.length = 64 - (h.bufferLen + 1) + 56 := by
      unfold Lib.Fips.zeros
      omega
    have hfill := length_fillZero buffer (by omega : h.bufferLen + 1 ≤ 64) (by omega)
    have hfirst := hmark.keep (List.replicate (64 - (h.bufferLen + 1)) 0)
    rw [← take_fillZero buffer (by omega) (by omega), List.take_of_length_le (by omega)] at hfirst
    have hblock := lastBlock_eq (fillZero buffer (h.bufferLen + 1) 64) (Nat.zero_le 56) (hfill.trans hsetlen) h8
    rw [List.take_zero, List.nil_append, Nat.sub_zero] at hblock
    have hsecond := ((hfirst.compress (by decide) (hfill.trans hsetlen)).keep (List.replicate 56 0)).keep (lenBytes h.lenBits)
    rw [List.nil_append, ← hblock] at hsecond
    have hdone := (hsecond.compress (by decide)
      (length_lastBlock _ (Nat.zero_le 56) (hfill.trans hsetlen) h8)).eq_absorb
    rw [← compress_eq, ← compress_eq, hpad] at hdone
    rw [hpad, Lib.Fips.pad, hzeros, ← List.replicate_append_replicate, ← List.append_assoc]
    exact hdone
  · rw [if_neg hfull]
    refine hout _ ?_
    have hzeros : Lib.Fips.zeros m.length = 56 - (h.bufferLen + 1) := by
      unfold Lib.Fips.zeros
      omega
    have hblock := lastBlock_eq buffer (Nat.not_lt.mp hfull) hsetlen h8
    have hlast := (hmark.keep (List.replicate (56 - (h.bufferLen + 1)) 0)).keep (lenBytes h.lenBits)
    rw [← hblock] at hlast
    have hdone := (hlast.compress (by decide) (length_lastBlock buffer (Nat.not_lt.mp hfull) hsetlen h8)).eq_absorb
    rw [← compress_eq, hpad] at hdone
    rw [hpad, Lib.Fips.pad, hzeros]
    exact hdone

/-- A message in any pieces. -/
theorem finalize_updates (chunks : List Bytes) : (chunks.foldl update init).finalize = Lib.Fips.hash chunks.flatten :=
  finalize_eq (updates_holds init_holds chunks)

theorem digest_eq (m : Bytes) : digest m = Lib.Fips.hash m := finalize_eq (update_holds init_holds m)

/-! The digest of `abc`, the example of the standard. -/

example : digest [0x61, 0x62, 0x63] =
    [0xba, 0x78, 0x16, 0xbf, 0x8f, 0x01, 0xcf, 0xea, 0x41, 0x41, 0x40, 0xde, 0x5d, 0xae, 0x22, 0x23,
     0xb0, 0x03, 0x61, 0xa3, 0x96, 0x17, 0x7a, 0x9c, 0xb4, 0x10, 0xff, 0x61, 0xf2, 0x00, 0x15, 0xad] := by
  decide +kernel

theorem length_digest (m : Bytes) : (digest m).length = 32 := by
  rw [digest_eq]
  rfl

end Sha256

/-! ## HMAC -/

/-- `std::array<uint8_t, 32>`. -/
abbrev Key : Type := { key : Bytes // key.length = 32 }

/-- `ipad` and `opad`: a block of one byte, with the key over its front. -/
def xorPad (key : Key) (fill : UInt8) : Bytes := key.val.map (fill ^^^ ·) ++ List.replicate (64 - key.val.length) fill

def hmacSha256 (key : Key) (chunks : List Bytes) : Bytes :=
  let inner := Sha256.init.update (xorPad key 0x36)
  let inner := chunks.foldl Sha256.update inner
  let innerHash := inner.finalize
  let outer := Sha256.init.update (xorPad key 0x5c)
  let outer := outer.update innerHash
  outer.finalize

theorem xorPad_eq (key : Key) (fill : UInt8) :
    xorPad key fill = (Lib.Hmac.blockKey Lib.Fips.hash 64 key.val).map (· ^^^ fill) := by
  have hlen := key.property
  unfold xorPad Lib.Hmac.blockKey
  rw [if_pos (by omega : key.val.length ≤ 64)]
  show _ = (key.val ++ List.replicate (64 - key.val.length) 0).map (· ^^^ fill)
  rw [List.map_append, List.map_replicate, UInt8.zero_xor]
  congr 1
  exact List.map_congr_left fun b _ => UInt8.xor_comm fill b

theorem hmacSha256_eq (key : Key) (chunks : List Bytes) :
    hmacSha256 key chunks = Lib.hmac Lib.Fips.hash 64 key.val chunks.flatten := by
  have hinner := Sha256.finalize_eq (Sha256.updates_holds (Sha256.update_holds Sha256.init_holds (xorPad key 0x36)) chunks)
  have houter (c : Bytes) := Sha256.finalize_eq (Sha256.update_holds (Sha256.update_holds Sha256.init_holds (xorPad key 0x5c)) c)
  unfold hmacSha256
  dsimp only
  rw [houter, hinner, List.nil_append, List.nil_append, xorPad_eq, xorPad_eq]
  rfl

/-- What is authenticated is the concatenation. -/
theorem hmacSha256_congr (key : Key) {chunks chunks' : List Bytes} (h : chunks.flatten = chunks'.flatten) :
    hmacSha256 key chunks = hmacSha256 key chunks' := by
  rw [hmacSha256_eq, hmacSha256_eq, h]

theorem length_hmacSha256 (key : Key) (chunks : List Bytes) : (hmacSha256 key chunks).length = 32 := rfl

/-- **The class is SHA-256, however a message is cut into updates, and `hmac_sha256` is HMAC over it.** -/
theorem sha256_hmac_standard :
    (∀ chunks : List Bytes, (chunks.foldl Sha256.update Sha256.init).finalize = Lib.Fips.hash chunks.flatten) ∧
      ∀ (key : Key) (chunks : List Bytes),
        hmacSha256 key chunks = Lib.hmac Lib.Fips.hash 64 key.val chunks.flatten :=
  ⟨Sha256.finalize_updates, hmacSha256_eq⟩

end SedsNet
