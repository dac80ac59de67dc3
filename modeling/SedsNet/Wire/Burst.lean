import SedsNet.Lib.Lfsr
import SedsNet.Wire.Agree

/-!
# What the checksum catches

`crc32_bytes` is a shift register with feedback that takes in a byte every eight places. A frame that passes the check, fed
through it with its trailer, ends in one fixed state; so of two frames that differ within four bytes only one can pass
(`crc_detects_burst`).
-/

set_option autoImplicit false

namespace SedsNet

open Lib Lib.Lfsr

/-- The polynomial, lowest power in the top bit. -/
def crcPoly : BitVec 32 := 0xEDB88320#32

theorem crc32Round_toBitVec (c : UInt32) : (crc32Round c).toBitVec = shift crcPoly c.toBitVec := by
  have hlow : (c &&& 1).toBitVec = BitVec.setWidth 32 (BitVec.ofBool (c.toBitVec.getLsbD 0)) := by
    rw [UInt32.toBitVec_and]
    exact BitVec.and_one_eq_setWidth_ofBool_getLsbD
  unfold crc32Round shift
  rw [UInt32.toBitVec_xor, UInt32.toBitVec_and, UInt32.toBitVec_sub, hlow]
  cases c.toBitVec.getLsbD 0 with
  | false =>
    rw [if_neg Bool.false_ne_true]
    exact BitVec.xor_zero
  | true =>
    rw [if_pos rfl]
    rfl

theorem crc32Byte_toBitVec (c : UInt32) (d : UInt8) :
    (crc32Byte c d).toBitVec = shifts crcPoly 8 (c.toBitVec ^^^ BitVec.ofNat 32 d.toNat) := by
  have hbyte : d.toUInt32.toBitVec = BitVec.ofNat 32 d.toNat := by
    apply BitVec.eq_of_toNat_eq
    rw [BitVec.toNat_ofNat, Nat.mod_eq_of_lt (Nat.lt_trans d.toNat_lt (by decide))]
    exact UInt8.toNat_toUInt32 d
  unfold crc32Byte
  simp only [crc32Round_toBitVec, UInt32.toBitVec_xor, hbyte]
  rfl

/-- Words that have no bit in common. -/
theorem ofNat_xor_shifted {d m : Nat} (hd : d < 2 ^ 8) :
    BitVec.ofNat 32 d ^^^ BitVec.ofNat 32 (2 ^ 8 * m) = BitVec.ofNat 32 (d + 256 * m) := by
  apply BitVec.eq_of_getLsbD_eq
  intro i hi
  have hsum : (d + 256 * m).testBit i = if i < 8 then d.testBit i else m.testBit (i - 8) := by
    rw [Nat.add_comm]
    exact Nat.testBit_two_pow_mul_add m hd i
  rw [BitVec.getLsbD_xor, BitVec.getLsbD_ofNat, BitVec.getLsbD_ofNat, BitVec.getLsbD_ofNat, decide_eq_true hi, Bool.true_and,
    Bool.true_and, Bool.true_and, hsum, Nat.testBit_two_pow_mul]
  by_cases hlow : i < 8
  · rw [if_pos hlow, decide_eq_false (by omega), Bool.false_and, Bool.xor_false]
  · have hzero : d.testBit i = false :=
      Nat.testBit_lt_two_pow (Nat.lt_of_lt_of_le hd (Nat.pow_le_pow_right (by decide) (Nat.le_of_not_lt hlow)))
    rw [if_neg hlow, hzero, Bool.false_xor, decide_eq_true (Nat.le_of_not_lt hlow), Bool.true_and]

/-- Up to four bytes are taken in as one word. -/
theorem foldl_crc32Byte (ds : Bytes) (hlen : ds.length ≤ 4) (c : UInt32) :
    (ds.foldl crc32Byte c).toBitVec = shifts crcPoly (8 * ds.length) (c.toBitVec ^^^ BitVec.ofNat 32 (ofLe ds)) := by
  induction ds generalizing c with
  | nil => exact BitVec.xor_zero.symm
  | cons d ds ih =>
    rw [List.length_cons] at hlen
    -- the rest of the word, eight places up
    have hrest : BitVec.ofNat 32 (ofLe ds) = shifts crcPoly 8 (BitVec.ofNat 32 (2 ^ 8 * ofLe ds)) := by
      refine (shifts_ofNat ?_).symm
      have hpow : 2 ^ 8 * 2 ^ (8 * ds.length) ≤ 2 ^ 32 := by
        rw [← Nat.pow_add]
        exact Nat.pow_le_pow_right (by decide) (by omega)
      have hlt := ofLe_lt ds
      omega
    rw [List.foldl_cons, ih (by omega), crc32Byte_toBitVec, hrest, ← shifts_xor, ← shifts_add, BitVec.xor_assoc,
      ofNat_xor_shifted d.toNat_lt, List.length_cons, show 8 + 8 * ds.length = 8 * (ds.length + 1) by omega]
    rfl

theorem crcPoly_top : crcPoly.getLsbD (32 - 1) = true := by decide

theorem crc32Byte_injective (d : UInt8) : Function.Injective fun c => crc32Byte c d := by
  intro c c' h
  have hstates := congrArg UInt32.toBitVec h
  dsimp only at hstates
  rw [crc32Byte_toBitVec, crc32Byte_toBitVec] at hstates
  exact UInt32.toBitVec_inj.mp ((BitVec.xor_left_inj _).mp (shifts_injective (by decide) crcPoly_top 8 hstates))

/-- Four bytes from one state can be told apart. -/
theorem foldl_crc32Byte_injective {ds ds' : Bytes} (hlen : ds.length = 4) (hlen' : ds'.length = 4) (c : UInt32)
    (h : ds.foldl crc32Byte c = ds'.foldl crc32Byte c) : ds = ds' := by
  have hstates := congrArg UInt32.toBitVec h
  rw [foldl_crc32Byte ds (Nat.le_of_eq hlen), foldl_crc32Byte ds' (Nat.le_of_eq hlen'), hlen, hlen'] at hstates
  have hwords := (BitVec.xor_right_inj _).mp (shifts_injective (by decide) crcPoly_top _ hstates)
  have hnat := congrArg BitVec.toNat hwords
  have hlt := ofLe_lt ds
  have hlt' := ofLe_lt ds'
  rw [hlen] at hlt
  rw [hlen'] at hlt'
  rw [BitVec.toNat_ofNat, BitVec.toNat_ofNat, Nat.mod_eq_of_lt hlt, Nat.mod_eq_of_lt hlt'] at hnat
  exact ofLe_injective (hlen.trans hlen'.symm) hnat

/-- A frame that passes the check ends in one state, whatever is in it: its trailer is the complement of the state before. -/
theorem crcValid.state {b : Bytes} (hlong : kCrcBytes ≤ b.length) (h : crcValid b) :
    (b.foldl crc32Byte 0xFFFFFFFF).toBitVec = shifts crcPoly 32 (BitVec.allOnes 32) := by
  unfold crcValid at h
  unfold kCrcBytes at h hlong
  have htrailer : (b.drop (b.length - 4)).length = 4 := by
    rw [List.length_drop]
    omega
  have hword : loadLe32 b (b.length - 4) = UInt32.ofNat (ofLe (b.drop (b.length - 4))) := by
    unfold loadLe32
    rw [List.take_of_length_le (Nat.le_of_eq htrailer)]
  have hsplit : b.foldl crc32Byte 0xFFFFFFFF =
      (b.drop (b.length - 4)).foldl crc32Byte ((b.take (b.length - 4)).foldl crc32Byte 0xFFFFFFFF) := by
    rw [← List.foldl_append, List.take_append_drop]
  rw [hword] at h
  unfold crc32Bytes at h
  rw [hsplit, foldl_crc32Byte _ (Nat.le_of_eq htrailer), htrailer]
  have hbits : BitVec.ofNat 32 (ofLe (b.drop (b.length - 4))) = ~~~((b.take (b.length - 4)).foldl crc32Byte 0xFFFFFFFF).toBitVec :=
    (congrArg UInt32.toBitVec h).symm
  rw [hbits, ← BitVec.not_xor_right, BitVec.xor_self, BitVec.not_zero]

/-- A frame, around four of its bytes. -/
theorem take_stretch_drop {b b' : Bytes} (q : Nat) (hsame : ∀ i, i < q ∨ q + 4 ≤ i → b'[i]? = b[i]?) :
    b' = b.take q ++ (b'.drop q).take 4 ++ b.drop (q + 4) := by
  have hbefore : b'.take q = b.take q := by
    apply List.ext_getElem?
    intro i
    rw [List.getElem?_take, List.getElem?_take]
    split
    · exact hsame i (.inl ‹_›)
    · rfl
  have hafter : b'.drop (q + 4) = b.drop (q + 4) := by
    apply List.ext_getElem?
    intro i
    rw [List.getElem?_drop, List.getElem?_drop]
    exact hsame (q + 4 + i) (.inr (Nat.le_add_right _ _))
  rw [← hbefore, ← hafter, List.append_assoc, ← List.drop_drop, List.take_append_drop, List.take_append_drop]

/-- **Every burst of four bytes is caught.** Of a frame that passes the CRC check and another one that is as long, and differs
    from it in some bytes, all of them among four in a row, the other one does not pass, and no parser takes it. -/
theorem crc_detects_burst (b b' : Bytes) (hlong : 2 + kCrcBytes ≤ b.length) (hcrc : crcValid b) (hlen : b'.length = b.length)
    (hdiffers : b' ≠ b) (p : Nat) (hburst : ∀ i, b'[i]? ≠ b[i]? → p ≤ i ∧ i < p + 4) :
    ¬crcValid b' ∧ ∀ S Z, deserializePacket S Z b' = none ∧ peekFrameInfo S Z b' true = none := by
  have hfails : ¬crcValid b' := by
    intro hcrc'
    have hlong : kCrcBytes ≤ b.length := by omega
    have hfour : 4 ≤ b.length := hlong
    -- near the end of the frame, the last four bytes
    have hsame : ∀ i, i < min p (b.length - 4) ∨ min p (b.length - 4) + 4 ≤ i → b'[i]? = b[i]? := by
      intro i hi
      by_cases hend : b.length ≤ i
      · rw [List.getElem?_eq_none hend, List.getElem?_eq_none (by omega)]
      · by_contra hne
        have hin := hburst i hne
        omega
    generalize hq : min p (b.length - 4) = q at hsame
    have hb := take_stretch_drop (b := b) q (fun _ _ => rfl)
    have hb' := take_stretch_drop q hsame
    have hstates : b.foldl crc32Byte 0xFFFFFFFF = b'.foldl crc32Byte 0xFFFFFFFF :=
      UInt32.toBitVec_inj.mp ((hcrc.state hlong).trans (hcrc'.state (by omega)).symm)
    have hwhole : (b.take q ++ (b.drop q).take 4 ++ b.drop (q + 4)).foldl crc32Byte 0xFFFFFFFF =
        (b.take q ++ (b'.drop q).take 4 ++ b.drop (q + 4)).foldl crc32Byte 0xFFFFFFFF := by
      rw [← hb, ← hb']
      exact hstates
    have hfull : ∀ ds : Bytes, ds.length = b.length → ((ds.drop q).take 4).length = 4 := by
      intro ds hds
      rw [List.length_take, List.length_drop]
      omega
    have hstretch := foldl_window crc32Byte_injective
      (fun c h => foldl_crc32Byte_injective (hfull b rfl) (hfull b' hlen) c h) hwhole
    apply hdiffers
    rw [hb', ← hstretch]
    exact hb.symm
  refine ⟨hfails, ?_⟩
  intro S Z
  constructor
  · unfold deserializePacket
    rw [Read.value_deserializePacket, if_pos (.inr hfails)]
    rfl
  · unfold peekFrameInfo
    rw [Read.value_peekFrameInfo, if_pos (.inr ⟨rfl, hfails⟩)]
    rfl

/-- A frame whose last byte and whose trailer are hit. -/
theorem crc_detects_burst_straddling :
    let b := withCrc [0x10, 2, 101, 0, 0, 0]
    ¬crcValid ((b.set 5 1).set 7 0) ∧
    ∀ S Z, deserializePacket S Z ((b.set 5 1).set 7 0) = none ∧ peekFrameInfo S Z ((b.set 5 1).set 7 0) true = none := by
  have hframe : 2 + kCrcBytes ≤ (withCrc [0x10, 2, 101, 0, 0, 0]).length ∧ crcValid (withCrc [0x10, 2, 101, 0, 0, 0]) ∧
      ((withCrc [0x10, 2, 101, 0, 0, 0]).set 5 1).set 7 0 ≠ withCrc [0x10, 2, 101, 0, 0, 0] := by decide +kernel
  intro b
  refine crc_detects_burst b _ hframe.1 hframe.2.1 (by rw [List.length_set, List.length_set]) hframe.2.2 5 ?_
  intro i hi
  by_contra hout
  apply hi
  rw [List.getElem?_set_ne (by omega), List.getElem?_set_ne (by omega)]

end SedsNet
