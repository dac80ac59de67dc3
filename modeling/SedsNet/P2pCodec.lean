import SedsNet.Router.P2p
import SedsNet.TopologyCodec

/-!
# Datagrams and stream frames on the wire

`encode_p2p_payload` and `encode_p2p_stream_payload` with their decoders, in both directions: what is written is read, and what is
read was written. A decoder looks at fixed offsets, and the bytes of a message are its fields one after the other (`drop_eq`).
-/

set_option autoImplicit false

namespace SedsNet

/-! ## Ports -/

theorem ofLe_appendLe16 (v : UInt16) : ofLe (appendLe16 v) = v.toNat := by
  have hv : v.toNat < 2 ^ 16 := v.toNat_lt
  simp only [appendLe16, ofLe, UInt16.toNat_toUInt8, UInt16.toNat_shiftRight, UInt16.reduceToNat,
    Nat.shiftRight_eq_div_pow, Nat.reduceMod, Nat.reducePow]
  omega

theorem loadLe16_append {b rest : Bytes} {i : Nat} (v : UInt16) (h : Continues b i (appendLe16 v) rest) : loadLe16 b i = v := by
  unfold loadLe16
  rw [show 2 = (appendLe16 v).length from rfl, h.take, ofLe_appendLe16, UInt16.ofNat_toNat]

theorem appendLe16_load {b : Bytes} {i : Nat} (h : i + 2 ≤ b.length) : appendLe16 (loadLe16 b i) = (b.drop i).take 2 := by
  have hlen := length_field h
  have hlt := ofLe_lt ((b.drop i).take 2)
  rw [hlen] at hlt
  refine ofLe_injective (hlen.symm ▸ rfl) ?_
  rw [ofLe_appendLe16, loadLe16, UInt16.toNat_ofNat_of_lt' hlt]

/-! ## Datagrams -/

theorem length_encodeP2pPayload (hostname : Bytes) (address : UInt32) (srcPort dstPort : UInt16) (payload : Bytes) :
    (encodeP2pPayload hostname address srcPort dstPort payload).length = 15 + hostname.length + payload.length := by
  unfold encodeP2pPayload
  simp only [List.length_append]
  rfl

theorem decodeP2pPayload_encode {hostname payload : Bytes} (address : UInt32) (srcPort dstPort : UInt16)
    (hhost : hostname.length ≤ 65535) (hbody : payload.length < 2 ^ 32) :
    decodeP2pPayload (encodeP2pPayload hostname address srcPort dstPort payload) =
      some ⟨hostname, address, srcPort, dstPort, payload⟩ := by
  have hlen := length_encodeP2pPayload hostname address srcPort dstPort payload
  obtain ⟨b, hb⟩ : ∃ b, b = encodeP2pPayload hostname address srcPort dstPort payload := ⟨_, rfl⟩
  rw [← hb] at hlen ⊢
  have hall : Continues b 0 (encodeP2pPayload hostname address srcPort dstPort payload) [] := by
    rw [Continues, List.drop_zero, List.append_nil]
    exact hb
  obtain ⟨hall, hpayload⟩ := hall.split
  obtain ⟨hall, hhostname⟩ := hall.split
  obtain ⟨hall, hbodyLen⟩ := hall.split
  obtain ⟨hall, hhostLen⟩ := hall.split
  obtain ⟨hall, haddress⟩ := hall.split
  obtain ⟨hall, hsrc⟩ := hall.split
  obtain ⟨hversion, hdst⟩ := hall.split
  have hhostNat : (UInt16.ofNat hostname.length).toNat = hostname.length :=
    UInt16.toNat_ofNat_of_lt' (Nat.lt_succ_of_le hhost)
  have hbodyNat : (UInt32.ofNat payload.length).toNat = payload.length := UInt32.toNat_ofNat_of_lt' hbody
  have hhead : b.getD 0 0 = 1 := hversion.getD_zero
  have hdstRead : loadLe16 b 1 = dstPort := loadLe16_append dstPort hdst
  have hsrcRead : loadLe16 b 3 = srcPort := loadLe16_append srcPort hsrc
  have haddressRead : loadLe32 b 5 = address := loadLe32_append address haddress
  have hhostRead : loadLe16 b 9 = UInt16.ofNat hostname.length := loadLe16_append _ hhostLen
  have hbodyRead : loadLe32 b 11 = UInt32.ofNat payload.length := loadLe32_append _ hbodyLen
  have hhostTaken : (b.drop 15).take hostname.length = hostname := Continues.take (i := 15) hhostname
  have hpayloadAt : Continues b (15 + hostname.length) payload [] := by
    have hoffset : 0 + ([1] ++ appendLe16 dstPort ++ appendLe16 srcPort ++ appendLe32 address ++
        appendLe16 (UInt16.ofNat hostname.length) ++ appendLe32 (UInt32.ofNat payload.length) ++ hostname).length =
        15 + hostname.length := by
      rw [Nat.zero_add, List.length_append]
      rfl
    rwa [hoffset] at hpayload
  unfold decodeP2pPayload
  rw [hdstRead, hsrcRead, haddressRead, hhostRead, hbodyRead, hhostNat, hbodyNat, hhostTaken]
  dsimp only
  rw [if_neg (not_or.mpr ⟨by omega, not_not.mpr hhead⟩), if_neg (by omega), hpayloadAt.take]

/-- Every datagram that is accepted is the encoding of what is returned. -/
theorem encodeP2pPayload_decode {b : Bytes} {d : P2pDatagram} (h : decodeP2pPayload b = some d) :
    encodeP2pPayload d.sourceHostname d.sourceAddress d.sourcePort d.destinationPort d.payload = b := by
  unfold decodeP2pPayload at h
  split at h
  · cases h
  rename_i hshort
  dsimp only at h
  split at h
  · cases h
  rename_i hlengths
  cases h
  obtain ⟨hlong, hversion⟩ := not_or.mp hshort
  obtain ⟨hhost, hbody⟩ := not_or.mp hlengths
  have hfirst : (b.drop 0).take 1 = [1] := by
    cases b with
    | nil => exact absurd (Nat.zero_lt_succ 14) hlong
    | cons x b =>
      have hx : x = 1 := not_not.mp hversion
      rw [hx]
      rfl
  have hhostLen : ((b.drop 15).take (loadLe16 b 9).toNat).length = (loadLe16 b 9).toNat := length_field (by omega)
  have hbodyLen : ((b.drop (15 + (loadLe16 b 9).toNat)).take (loadLe32 b 11).toNat).length = (loadLe32 b 11).toNat :=
    length_field (by omega)
  have hbodyAll : (b.drop (15 + (loadLe16 b 9).toNat)).take (loadLe32 b 11).toNat = b.drop (15 + (loadLe16 b 9).toNat) :=
    List.take_of_length_le (by rw [List.length_drop]; omega)
  unfold encodeP2pPayload
  dsimp only
  rw [hhostLen, hbodyLen, UInt16.ofNat_toNat, UInt32.ofNat_toNat, appendLe16_load (by omega), appendLe16_load (by omega),
    appendLe32_load (by omega), appendLe16_load (by omega), appendLe32_load (by omega), ← hfirst]
  simp only [List.append_assoc]
  rw [hbodyAll, ← drop_eq b 15, ← drop_eq b 11 4, ← drop_eq b 9 2, ← drop_eq b 5 4, ← drop_eq b 3 2, ← drop_eq b 1 2,
    ← drop_eq b 0 1, List.drop_zero]

/-! ## Stream frames -/

theorem decodeP2pStreamPayload_encode (flags : UInt8) (source destination sequence : UInt32) {payload : Bytes}
    (hbody : payload.length < 2 ^ 32) :
    decodeP2pStreamPayload (encodeP2pStreamPayload flags source destination sequence payload) =
      some ⟨flags, source, destination, sequence, payload⟩ := by
  obtain ⟨b, hb⟩ : ∃ b, b = encodeP2pStreamPayload flags source destination sequence payload := ⟨_, rfl⟩
  have hlen : b.length = 22 + payload.length := by
    rw [hb, encodeP2pStreamPayload, List.length_append]
    rfl
  have hmagic : kP2pStreamMagic.isPrefixOf b = true := by
    rw [hb, encodeP2pStreamPayload]
    simp only [List.append_assoc]
    exact List.isPrefixOf_iff_prefix.mpr (List.prefix_append _ _)
  have hall : Continues b 0 (encodeP2pStreamPayload flags source destination sequence payload) [] := by
    rw [Continues, List.drop_zero, List.append_nil]
    exact hb
  rw [← hb]
  obtain ⟨hall, hpayload⟩ := hall.split
  obtain ⟨hall, hbodyLen⟩ := hall.split
  obtain ⟨hall, hsequence⟩ := hall.split
  obtain ⟨hall, hdestination⟩ := hall.split
  obtain ⟨hall, hsource⟩ := hall.split
  obtain ⟨-, hbytes⟩ := hall.split
  have hversion : b.getD 4 0 = kP2pStreamVersion := Continues.getD_zero (i := 4) hbytes
  have hflags : b.getD 5 0 = flags := by
    have hpair : Continues b 4 ([kP2pStreamVersion] ++ [flags]) _ := hbytes
    exact Continues.getD_zero (i := 5) hpair.split.2
  have hsourceRead : loadLe32 b 6 = source := loadLe32_append source hsource
  have hdestinationRead : loadLe32 b 10 = destination := loadLe32_append destination hdestination
  have hsequenceRead : loadLe32 b 14 = sequence := loadLe32_append sequence hsequence
  have hbodyRead : loadLe32 b 18 = UInt32.ofNat payload.length := loadLe32_append _ hbodyLen
  have hpayloadRead : b.drop 22 = payload ++ [] := hpayload
  have hbodyNat : (UInt32.ofNat payload.length).toNat = payload.length := UInt32.toNat_ofNat_of_lt' hbody
  unfold decodeP2pStreamPayload
  rw [hmagic, hflags, hsourceRead, hdestinationRead, hsequenceRead, hbodyRead, hbodyNat, hpayloadRead, List.append_nil,
    if_neg (by decide), if_neg (not_or.mpr ⟨by omega, not_not.mpr hversion⟩), if_neg (by omega)]

/-- A frame is the encoding of what is returned, or malformed. -/
theorem encodeP2pStreamPayload_decode {b : Bytes} {f : P2pStreamFrame} (h : decodeP2pStreamPayload b = some f) :
    f = .malformed ∨ encodeP2pStreamPayload f.flags f.sourceStreamId f.destinationStreamId f.sequence f.payload = b := by
  unfold decodeP2pStreamPayload at h
  split at h
  · cases h
  rename_i hprefix
  split at h
  · exact Or.inl (Option.some.inj h).symm
  rename_i hshort
  split at h
  · exact Or.inl (Option.some.inj h).symm
  rename_i hlength
  right
  cases h
  obtain ⟨hlong, hversion⟩ := not_or.mp hshort
  have hmagic : b = kP2pStreamMagic ++ b.drop 4 := by
    have hpre : kP2pStreamMagic <+: b := List.isPrefixOf_iff_prefix.mp (by simpa using hprefix)
    obtain ⟨t, rfl⟩ := hpre
    rfl
  have hbyte (i : Nat) (hi : i < b.length) : (b.drop i).take 1 = [b.getD i 0] := by
    rw [List.drop_eq_getElem_cons hi, List.getD_eq_getElem _ _ hi]
    rfl
  have hrest : (b.drop 22).length = (loadLe32 b 18).toNat := by
    rw [List.length_drop]
    omega
  unfold encodeP2pStreamPayload
  dsimp only
  rw [hrest, UInt32.ofNat_toNat, appendLe32_load (by omega), appendLe32_load (by omega), appendLe32_load (by omega),
    appendLe32_load (by omega), ← not_not.mp hversion]
  show kP2pStreamMagic ++ ([b.getD 4 0] ++ [b.getD 5 0]) ++ _ ++ _ ++ _ ++ _ ++ _ = b
  rw [← hbyte 4 (by omega), ← hbyte 5 (by omega)]
  simp only [List.append_assoc]
  rw [← drop_eq b 18 4, ← drop_eq b 14 4, ← drop_eq b 10 4, ← drop_eq b 6 4, ← drop_eq b 5 1, ← drop_eq b 4 1, ← hmagic]

/-- **Both codecs, in both directions.** -/
theorem p2p_codecs :
    (∀ (hostname : Bytes) (address : UInt32) (srcPort dstPort : UInt16) (payload : Bytes), hostname.length ≤ 65535 →
      payload.length < 2 ^ 32 →
      decodeP2pPayload (encodeP2pPayload hostname address srcPort dstPort payload) =
        some ⟨hostname, address, srcPort, dstPort, payload⟩) ∧
    (∀ (b : Bytes) (d : P2pDatagram), decodeP2pPayload b = some d →
      encodeP2pPayload d.sourceHostname d.sourceAddress d.sourcePort d.destinationPort d.payload = b) ∧
    (∀ (flags : UInt8) (source destination sequence : UInt32) (payload : Bytes), payload.length < 2 ^ 32 →
      decodeP2pStreamPayload (encodeP2pStreamPayload flags source destination sequence payload) =
        some ⟨flags, source, destination, sequence, payload⟩) ∧
    ∀ (b : Bytes) (f : P2pStreamFrame), decodeP2pStreamPayload b = some f → f.flags ≠ 0 →
      encodeP2pStreamPayload f.flags f.sourceStreamId f.destinationStreamId f.sequence f.payload = b := by
  refine ⟨fun hostname address srcPort dstPort payload => decodeP2pPayload_encode address srcPort dstPort,
    fun b d => encodeP2pPayload_decode,
    fun flags source destination sequence payload => decodeP2pStreamPayload_encode flags source destination sequence,
    fun b f h hflags => ?_⟩
  rcases encodeP2pStreamPayload_decode h with rfl | henc
  · exact absurd rfl hflags
  · exact henc

/-- A datagram from `A` with one byte, and a reset without a body. -/
theorem p2p_codecs_reset :
    decodeP2pPayload (encodeP2pPayload [0x41] 7 8 9 [42]) = some ⟨[0x41], 7, 8, 9, [42]⟩ ∧
      encodeP2pPayload [] 0 0 0 [] = [1, 0, 0, 0, 0, 0, 0, 0, 0, 0, 0, 0, 0, 0, 0] ∧
      decodeP2pStreamPayload (encodeP2pStreamPayload kP2pStreamRst 3 4 5 []) = some ⟨kP2pStreamRst, 3, 4, 5, []⟩ ∧
      encodeP2pStreamPayload kP2pStreamRst 3 0 0 [] =
        [0x53, 0x44, 0x53, 0x50, 1, 8, 3, 0, 0, 0, 0, 0, 0, 0, 0, 0, 0, 0, 0, 0, 0, 0] :=
  ⟨p2p_codecs.1 [0x41] 7 8 9 [42] (by decide) (by decide),
    p2p_codecs.2.1 [1, 0, 0, 0, 0, 0, 0, 0, 0, 0, 0, 0, 0, 0, 0] ⟨[], 0, 0, 0, []⟩ (by decide),
    p2p_codecs.2.2.1 kP2pStreamRst 3 4 5 [] (by decide),
    p2p_codecs.2.2.2 [0x53, 0x44, 0x53, 0x50, 1, 8, 3, 0, 0, 0, 0, 0, 0, 0, 0, 0, 0, 0, 0, 0, 0, 0]
      ⟨kP2pStreamRst, 3, 0, 0, []⟩ (by decide) (by decide)⟩

end SedsNet
