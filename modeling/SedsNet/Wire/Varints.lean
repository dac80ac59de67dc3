import Mathlib.Algebra.BigOperators.Intervals
import SedsNet.Wire.Agree
import SedsNet.Tables

/-!
# What a varint means

`read_uleb128` puts its seven-bit groups together in 64 bits, so the upper six bits of a tenth group are lost, and
`deserialize_packet` looks the type up by the lower half of what was read. `varints_exact` says when nothing is lost.
-/

set_option autoImplicit false

namespace SedsNet

open Lib

/-- The seven bits of a byte. -/
def groupAt (b : Bytes) (i : Nat) : Nat := (b.getD i 0 &&& 0x7F).toNat

/-- The number that `n` groups from `i` on stand for. -/
def groupSum (b : Bytes) (i n : Nat) : Nat := ∑ k ∈ Finset.range n, groupAt b (i + k) * 2 ^ (7 * k)

section

variable {b : Bytes} {i : Nat}

theorem groupAt_lt (b : Bytes) (i : Nat) : groupAt b i < 128 := by
  unfold groupAt
  rw [UInt8.toNat_and]
  exact Nat.lt_of_le_of_lt Nat.and_le_right (by decide)

theorem groupSum_succ (b : Bytes) (i n : Nat) : groupSum b i (n + 1) = groupSum b i n + groupAt b (i + n) * 2 ^ (7 * n) :=
  Finset.sum_range_succ _ n

theorem groupSum_lt (b : Bytes) (i n : Nat) : groupSum b i n < 2 ^ (7 * n) := by
  induction n with
  | zero => exact Nat.one_pos
  | succ n ih =>
    have hgroup : groupAt b (i + n) * 2 ^ (7 * n) ≤ 127 * 2 ^ (7 * n) :=
      Nat.mul_le_mul_right _ (Nat.le_of_lt_succ (groupAt_lt b (i + n)))
    have hpow : 2 ^ (7 * (n + 1)) = 128 * 2 ^ (7 * n) := by
      rw [show 7 * (n + 1) = 7 + 7 * n by omega, Nat.pow_add]
    rw [groupSum_succ, hpow]
    omega

/-- Or-ing a group in above the groups that are there adds it, as far as the word goes. -/
theorem or_group {out : UInt64} {g : UInt8} {k : Nat} (hk : k ≤ 9) (hout : out.toNat < 2 ^ (7 * k)) :
    (out ||| (g.toUInt64 <<< UInt64.ofNat (7 * k))).toNat = (out.toNat + g.toNat * 2 ^ (7 * k)) % 2 ^ 64 := by
  have hshift : (UInt64.ofNat (7 * k)).toNat % 64 = 7 * k := by
    rw [UInt64.toNat_ofNat']
    omega
  have hword : 2 ^ 64 = 2 ^ (64 - 7 * k) * 2 ^ (7 * k) := by
    rw [← Nat.pow_add, show 64 - 7 * k + 7 * k = 64 by omega]
  -- what is left of the group, in the place it has
  have hgroup : g.toNat * 2 ^ (7 * k) % 2 ^ 64 = 2 ^ (7 * k) * (g.toNat % 2 ^ (64 - 7 * k)) := by
    rw [hword, Nat.mul_mod_mul_right, Nat.mul_comm]
  have hfits : out.toNat + 2 ^ (7 * k) * (g.toNat % 2 ^ (64 - 7 * k)) < 2 ^ 64 := by
    have hlt : g.toNat % 2 ^ (64 - 7 * k) + 1 ≤ 2 ^ (64 - 7 * k) := Nat.mod_lt _ (Nat.two_pow_pos _)
    calc out.toNat + 2 ^ (7 * k) * (g.toNat % 2 ^ (64 - 7 * k))
        < 2 ^ (7 * k) + 2 ^ (7 * k) * (g.toNat % 2 ^ (64 - 7 * k)) := Nat.add_lt_add_right hout _
      _ = (g.toNat % 2 ^ (64 - 7 * k) + 1) * 2 ^ (7 * k) := by
          rw [Nat.add_mul, Nat.one_mul, Nat.add_comm, Nat.mul_comm (2 ^ (7 * k))]
      _ ≤ 2 ^ (64 - 7 * k) * 2 ^ (7 * k) := Nat.mul_le_mul_right _ hlt
      _ = 2 ^ 64 := hword.symm
  rw [UInt64.toNat_or, UInt64.toNat_shiftLeft, UInt8.toNat_toUInt64, hshift, Nat.shiftLeft_eq, hgroup, Nat.or_comm,
    ← Nat.two_pow_add_eq_or_of_lt hout, Nat.add_comm]
  rw [← Nat.mod_eq_of_lt hfits, ← hgroup, Nat.add_mod_mod]

namespace Read

/-- The loop, from any group on: it stops after some group, with the sum of the groups so far in 64 bits. -/
theorem readUleb128Loop_sum {endp rounds k : Nat} (hk : rounds + k = 10) {out : UInt64} (hout : out.toNat = groupSum b i k)
    {v : UInt64} {j : Nat} (h : (readUleb128Loop b endp rounds (UInt64.ofNat (7 * k)) out).value (i + k) = some (v, j)) :
    ∃ n, j = i + n ∧ n ≤ 10 ∧ v.toNat = groupSum b i n % 2 ^ 64 := by
  induction rounds generalizing k out with
  | zero =>
    unfold readUleb128Loop at h
    cases h
  | succ rounds ih =>
    unfold readUleb128Loop at h
    obtain ⟨cur, _, hcur, h⟩ := Reader.value_bind_eq_some h
    simp only [Reader.value_tell, Option.some.injEq, Prod.mk.injEq] at hcur
    obtain ⟨rfl, rfl⟩ := hcur
    obtain ⟨-, h⟩ := Reader.value_rejectIf_bind_eq_some h
    obtain ⟨byte, _, hbyte, h⟩ := Reader.value_bind_eq_some h
    simp only [value_next, Option.some.injEq, Prod.mk.injEq] at hbyte
    obtain ⟨rfl, rfl⟩ := hbyte
    have hsmall : out.toNat < 2 ^ (7 * k) := by
      rw [hout]
      exact groupSum_lt b i k
    have hsum : (out ||| ((b.getD (i + k) 0 &&& 0x7F).toUInt64 <<< UInt64.ofNat (7 * k))).toNat = groupSum b i (k + 1) % 2 ^ 64 := by
      rw [or_group (by omega) hsmall, groupSum_succ, hout]
      rfl
    rw [Reader.value_ite] at h
    split at h
    · simp only [Reader.value_pure, Option.some.injEq, Prod.mk.injEq] at h
      obtain ⟨rfl, rfl⟩ := h
      exact ⟨k + 1, by omega, by omega, hsum⟩
    · cases rounds with
      | zero =>
        unfold readUleb128Loop at h
        cases h
      | succ rounds =>
        have hshift : UInt64.ofNat (7 * k) + 7 = UInt64.ofNat (7 * (k + 1)) := by
          apply UInt64.toNat_inj.mp
          simp only [UInt64.toNat_add, UInt64.toNat_ofNat', UInt64.reduceToNat]
          omega
        -- a group that is followed by another one fits
        have hfits : groupSum b i (k + 1) < 2 ^ 64 :=
          Nat.lt_of_lt_of_le (groupSum_lt b i (k + 1)) (Nat.pow_le_pow_right (by decide) (by omega))
        rw [Nat.mod_eq_of_lt hfits] at hsum
        rw [hshift, show i + k + 1 = i + (k + 1) by omega] at h
        exact ih (by omega) hsum h

theorem readUleb128_sum {endp : Nat} {v : UInt64} {j : Nat} (h : (readUleb128 b endp).value i = some (v, j)) :
    ∃ n, j = i + n ∧ n ≤ 10 ∧ v.toNat = groupSum b i n % 2 ^ 64 :=
  readUleb128Loop_sum (k := 0) rfl rfl h

end Read

end

/-- **What is read, and what is lost.** A varint is read exactly if and only if it has no tenth group, or one that is 0 or 1;
    and the type of a v4 frame is the one with the wire type's exact number if and only if that number has 32 bits. -/
theorem varints_exact (S : Schema) (Z : Codec) (b : Bytes) :
    (∀ endp i v j, (Read.readUleb128 b endp).value i = some (v, j) →
      (v.toNat = groupSum b i (j - i) ↔ (j - i = 10 → groupAt b (i + 9) ≤ 1))) ∧
    ∀ pkt, isV4FrameFlags (b.getD 0 0) = true → deserializePacket S Z b = some pkt →
      ∃ v j, (Read.readUleb128 b (b.length - kCrcBytes)).value 2 = some (v, j) ∧
        ((groupSum b 2 (j - 2) < 2 ^ 32 ∧ S.localTypeId (UInt32.ofNat (groupSum b 2 (j - 2))) = some pkt.ty) ↔
          groupSum b 2 (j - 2) < 2 ^ 32) := by
  refine ⟨?_, ?_⟩
  · intro endp i v j h
    obtain ⟨n, rfl, hn, hv⟩ := Read.readUleb128_sum h
    rw [Nat.add_sub_cancel_left, hv]
    have hexact : groupSum b i n % 2 ^ 64 = groupSum b i n ↔ groupSum b i n < 2 ^ 64 := by
      constructor
      · intro heq
        rw [← heq]
        exact Nat.mod_lt _ (Nat.two_pow_pos 64)
      · exact Nat.mod_eq_of_lt
    rw [hexact]
    by_cases hten : n = 10
    · have hrest := groupSum_lt b i 9
      rw [hten, groupSum_succ]
      constructor
      · intro hlt _
        omega
      · intro hgroup
        have hgroup := hgroup rfl
        omega
    · have hlt : groupSum b i n < 2 ^ 64 :=
        Nat.lt_of_lt_of_le (groupSum_lt b i n) (Nat.pow_le_pow_right (by decide) (by omega))
      exact ⟨fun _ h => absurd h hten, fun _ => hlt⟩
  · intro pkt hv4 hpkt
    obtain ⟨hd, i, hhead, hty, -⟩ := deserializePacket_v4Head hv4 hpkt
    obtain ⟨-, v, j, i4, i5, i6, i7, i8, hread, -, -, -, -, hlocal, -⟩ := Read.v4Head_eq_some hhead
    refine ⟨v, j, hread, fun h => h.1, ?_⟩
    intro hlt
    obtain ⟨n, rfl, -, hv⟩ := Read.readUleb128_sum hread
    rw [Nat.add_sub_cancel_left] at hlt ⊢
    -- the number that was read is the exact one, and has 32 bits
    have hnarrow : v.toUInt32 = UInt32.ofNat (groupSum b 2 n) := by
      apply UInt32.toNat_inj.mp
      rw [UInt64.toNat_toUInt32, hv, Nat.mod_eq_of_lt (Nat.lt_trans hlt (by decide)), UInt32.toNat_ofNat']
    refine ⟨hlt, ?_⟩
    rw [← hnarrow, hty]
    exact hlocal

/-- A frame of an `IMU_DATA` packet that is empty, with the bytes of its wire type. -/
def imuFrame (wireTy : Bytes) : Bytes := withCrc ([0x10, 2] ++ wireTy ++ [0, 0, 0])

/-- Wire type 101 in one byte is read as it is. -/
theorem varints_exact_imu :
    deserializePacket defaultTestSchema (.absent 16) (imuFrame [101]) = some ⟨101, ascii "@addr:0", [101, 100], 0, []⟩ ∧
    (101 : UInt64).toNat = groupSum (imuFrame [101]) 2 1 := by
  obtain ⟨hpkt, hread, hgroups⟩ : deserializePacket defaultTestSchema (.absent 16) (imuFrame [101]) =
      some ⟨101, ascii "@addr:0", [101, 100], 0, []⟩ ∧ (Read.readUleb128 (imuFrame [101]) 6).value 2 = some (101, 3) ∧
      (3 - 2 = 10 → groupAt (imuFrame [101]) (2 + 9) ≤ 1) := by
    rw [defaultTestSchema_eq]
    decide +kernel
  exact ⟨hpkt, ((varints_exact defaultTestSchema (.absent 16) (imuFrame [101])).1 6 2 101 3 hread).mpr hgroups⟩

/-- 2^64 in ten groups is read as 0, and a frame of wire type 2^32 + 101 is a frame of type 101. -/
theorem readUleb128_wraps :
    let b : Bytes := List.replicate 9 0x80 ++ [2]
    (Read.readUleb128 b 10).value 0 = some (0, 10) ∧ groupSum b 0 10 = 2 ^ 64 ∧
    deserializePacket defaultTestSchema (.absent 16) (imuFrame [0xE5, 0x80, 0x80, 0x80, 0x10]) =
      some ⟨101, ascii "@addr:0", [101, 100], 0, []⟩ ∧
    groupSum (imuFrame [0xE5, 0x80, 0x80, 0x80, 0x10]) 2 5 = 2 ^ 32 + 101 := by
  rw [defaultTestSchema_eq]
  decide +kernel

/-! ## There and back -/

theorem length_writeUleb128Loop_le (rounds : Nat) (w : UInt64) : (writeUleb128Loop rounds w).length ≤ rounds := by
  induction rounds generalizing w with
  | zero => exact Nat.le_refl 0
  | succ rounds ih =>
    unfold writeUleb128Loop
    dsimp only
    split
    · exact Nat.succ_le_succ (ih (w >>> 7))
    · exact Nat.succ_le_succ (Nat.zero_le rounds)

theorem length_writeUleb128Loop_pos (rounds : Nat) (w : UInt64) : 0 < (writeUleb128Loop (rounds + 1) w).length := by
  unfold writeUleb128Loop
  dsimp only
  split <;> exact Nat.succ_pos _

/-- Of an encoding that is cut short every byte announces another one, so the read loop comes to the end of the buffer. -/
theorem readUleb128Loop_cut {rounds : Nat} {w : UInt64} {n : Nat} (hcut : n < (writeUleb128Loop rounds w).length) {b : Bytes} {i : Nat}
    (h : b.drop i = (writeUleb128Loop rounds w).take n) (shift out : UInt64) :
    (Read.readUleb128Loop b (i + n) rounds shift out).value i = none := by
  induction n generalizing rounds w i shift out with
  | zero =>
    cases rounds with
    | zero => exact absurd hcut (Nat.not_lt_zero 0)
    | succ rounds =>
      unfold Read.readUleb128Loop
      rw [Reader.value_bind, Reader.value_tell, Option.bind_some, Reader.value_rejectIf_bind]
      exact if_pos (Nat.le_refl i)
  | succ n ih =>
    cases rounds with
    | zero => exact absurd hcut (Nat.not_lt_zero (n + 1))
    | succ rounds =>
      by_cases hmore : w >>> 7 ≠ 0
      · have hwritten : writeUleb128Loop (rounds + 1) w = ((w &&& 0x7F).toUInt8 ||| 0x80) :: writeUleb128Loop rounds (w >>> 7) :=
          if_pos hmore
        rw [hwritten, List.take_succ_cons] at h
        rw [hwritten, List.length_cons] at hcut
        have hfirst : Continues b i [(w &&& 0x7F).toUInt8 ||| 0x80] ((writeUleb128Loop rounds (w >>> 7)).take n) := h
        have hbyte : b.getD i 0 = (w &&& 0x7F).toUInt8 ||| 0x80 := hfirst.getD_zero
        have hrest : b.drop (i + 1) = (writeUleb128Loop rounds (w >>> 7)).take n := by
          rw [← List.drop_drop, h]
          rfl
        have hgroup : (w &&& 0x7F).toUInt8.toNat < 128 := by
          rw [toNat_low_seven]
          exact Nat.mod_lt _ (by decide)
        unfold Read.readUleb128Loop
        rw [Reader.value_bind, Reader.value_tell, Option.bind_some, Reader.value_rejectIf_bind]
        split
        · rfl
        · rw [Reader.value_bind, Read.value_next, Option.bind_some, Reader.value_ite, hbyte, if_neg (and_high_or _ hgroup),
            show i + (n + 1) = i + 1 + n by omega]
          exact ih (Nat.lt_of_succ_lt_succ hcut) hrest _ _
      · have hlast : (writeUleb128Loop (rounds + 1) w).length = 1 := by
          unfold writeUleb128Loop
          dsimp only
          rw [if_neg hmore]
          rfl
        omega

/-- **Varints, there and back**: whatever follows the encoding, the value is read from it and the cursor is left behind it; the
    encoding has one to ten bytes, and cut short it is not read. -/
theorem uleb128_roundTrip (v : UInt64) :
    (∀ rest : Bytes, (Read.readUleb128 (writeUleb128 v ++ rest) (writeUleb128 v ++ rest).length).value 0 =
      some (v, (writeUleb128 v).length)) ∧
    1 ≤ (writeUleb128 v).length ∧ (writeUleb128 v).length ≤ 10 ∧
    ∀ n < (writeUleb128 v).length, (Read.readUleb128 ((writeUleb128 v).take n) ((writeUleb128 v).take n).length).value 0 = none := by
  refine ⟨fun rest => ?_, length_writeUleb128Loop_pos 9 v, length_writeUleb128Loop_le 10 v, fun n hn => ?_⟩
  · have hstart : Continues (writeUleb128 v ++ rest) 0 (writeUleb128 v) rest := List.drop_zero
    rw [readUleb128_write v hstart (by rw [List.length_append]; omega), Nat.zero_add]
  · rw [List.length_take_of_le (Nat.le_of_lt hn)]
    have hcut := readUleb128Loop_cut (i := 0) hn List.drop_zero 0 0
    rw [Nat.zero_add] at hcut
    exact hcut

end SedsNet
