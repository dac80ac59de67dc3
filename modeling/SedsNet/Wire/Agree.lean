import SedsNet.Wire.Head

/-!
# The two parsers agree

Ingress peeks at a frame first and parses it later, possibly after queueing it, so
everything it decides in between rests on the two parsers telling the same story.
`deserializePacket_peek` and `peek_deserializePacket` are the two directions, and
`peek_reliableHeaderOffset` ties in the offset that header rewriting uses.
-/

set_option autoImplicit false

namespace SedsNet

open Lib

/-! ## Dispatch on the first byte -/

/-- The check at the head of the CRC-checking parsers. -/
def crcValid (b : Bytes) : Prop :=
  crc32Bytes (b.take (b.length - kCrcBytes)) = loadLe32 b (b.length - kCrcBytes)

instance (b : Bytes) : Decidable (crcValid b) := inferInstanceAs (Decidable (_ = _))

theorem getD_take_drop (b : Bytes) (i : Nat) {n : Nat} (hn : 0 < n) :
    ((b.drop i).take n).getD 0 0 = b.getD i 0 := by
  rw [List.getD_eq_getElem?_getD, List.getD_eq_getElem?_getD, List.getElem?_take_of_lt hn,
    List.getElem?_drop, Nat.add_zero]

namespace Read

variable {S : Schema} {Z : Codec} {b : Bytes}

@[simp] theorem value_checkCrc (b : Bytes) (i : Nat) :
    (checkCrc b).value i = if crcValid b then some ((), i) else none := by
  unfold checkCrc
  simp only [Reader.value_bind, Reader.value_emit, Option.bind_some, Reader.value_rejectIf]
  by_cases h : crcValid b
  · rw [if_pos h]
    exact if_neg (not_not.mpr h)
  · rw [if_neg h]
    exact if_pos h

theorem value_deserializePacket : (deserializePacket S Z b).value 0 =
    if b.length < 2 + kCrcBytes ∨ ¬crcValid b then none
    else if isV4FrameFlags (b.getD 0 0) then (deserializeV4 S Z b).value 0
    else (deserializeLegacy S Z b).value 0 := by
  unfold deserializePacket
  simp only [Reader.value_bind, Reader.value_rejectIf, value_checkCrc, value_look,
    Reader.value_ite]
  by_cases hlen : b.length < 2 + kCrcBytes
  · simp [hlen]
  · by_cases hcrc : crcValid b
    · simp [hlen, hcrc]
    · simp [hlen, hcrc]

theorem value_peekFrameInfo (verifyCrc : Bool) : (peekFrameInfo S Z b verifyCrc).value 0 =
    if b.length < 2 + kCrcBytes ∨ verifyCrc = true ∧ ¬crcValid b then none
    else if isV4FrameFlags (b.getD 0 0) then (peekV4 S b).value 0
    else (peekLegacy S Z b).value 0 := by
  unfold peekFrameInfo
  cases verifyCrc <;>
  · simp only [Reader.value_bind, Reader.value_rejectIf, value_checkCrc, value_look,
      Reader.value_ite]
    by_cases hlen : b.length < 2 + kCrcBytes
    · simp [hlen]
    · by_cases hcrc : crcValid b
      · simp [hlen, hcrc]
      · simp [hlen, hcrc]

theorem value_reliableHeaderOffset : (reliableHeaderOffset S b).value 0 =
    if b.length < 2 + kCrcBytes then none
    else if isV4FrameFlags (b.getD 0 0) then (offsetV4 S b).value 0
    else (offsetLegacy S b).value 0 := by
  unfold reliableHeaderOffset
  simp only [Reader.value_bind, Reader.value_rejectIf, value_look, Reader.value_ite]
  by_cases hlen : b.length < 2 + kCrcBytes
  · simp [hlen]
  · simp [hlen]

end Read

namespace Read

variable {S : Schema} {Z : Codec} {b : Bytes}

/-- Once the checks are passed, the parser of the frame's format runs. -/
theorem mem_trace_peekFrameInfo {verifyCrc : Bool} {e : Access}
    (hchecks : ¬ (b.length < 2 + kCrcBytes ∨ verifyCrc = true ∧ ¬crcValid b))
    (he : e ∈ (if isV4FrameFlags (b.getD 0 0) = true then peekV4 S b else peekLegacy S Z b).trace 0) :
    e ∈ (peekFrameInfo S Z b verifyCrc).trace 0 := by
  have hmin : (Reader.rejectIf (b.length < 2 + kCrcBytes) : Parse Unit).value 0 = some ((), 0) := by
    rw [Reader.value_rejectIf, if_neg fun hc => hchecks (Or.inl hc)]
  have hdispatch : e ∈ (look b 1 >>= fun v4Flags =>
      if isV4FrameFlags (v4Flags.getD 0 0) = true then peekV4 S b else peekLegacy S Z b).trace 0 := by
    refine Reader.mem_trace_bind_right (value_look b 1 0) ?_
    rw [getD_take_drop b 0 Nat.one_pos]
    exact he
  unfold peekFrameInfo
  refine Reader.mem_trace_bind_right hmin ?_
  cases verifyCrc with
  | false => exact hdispatch
  | true =>
    have hcrc : crcValid b := by
      by_contra hne
      exact hchecks (Or.inr ⟨rfl, hne⟩)
    have hvalid : (checkCrc b).value 0 = some ((), 0) := by
      rw [value_checkCrc, if_pos hcrc]
    exact Reader.mem_trace_bind_right hvalid hdispatch

theorem mem_trace_reliableHeaderOffset {e : Access} (hlong : ¬ b.length < 2 + kCrcBytes)
    (he : e ∈ (if isV4FrameFlags (b.getD 0 0) = true then offsetV4 S b else offsetLegacy S b).trace 0) :
    e ∈ (reliableHeaderOffset S b).trace 0 := by
  have hmin : (Reader.rejectIf (b.length < 2 + kCrcBytes) : Parse Unit).value 0 = some ((), 0) := by
    rw [Reader.value_rejectIf, if_neg hlong]
  unfold reliableHeaderOffset
  refine Reader.mem_trace_bind_right hmin (Reader.mem_trace_bind_right (value_look b 1 0) ?_)
  rw [getD_take_drop b 0 Nat.one_pos]
  exact he

end Read

/-! ## The payload a frame states -/

/-- The second varint of a frame, in either format. -/
def Read.statedSize (b : Bytes) : Parse UInt64 := do
  let _flags ← Read.next b
  let _nep ← Read.next b
  let _ty ← Read.readUleb128 b (b.length - kCrcBytes)
  Read.readUleb128 b (b.length - kCrcBytes)

/-- The bytes of a frame from a cursor to the trailer, decompressed if the flags say so. -/
def payloadAt (Z : Codec) (b : Bytes) (flags : UInt8) (size : UInt64) (cur : Nat) : Bytes :=
  maybeDecompress Z ((b.drop cur).take (remaining (b.length - kCrcBytes) cur)) size.toNat
    (flags &&& 0x01 != 0)

/-- Where the payload of a peeked frame starts: where `peek_frame_info` stopped, except that it
    does not step over the header of a legacy reliable frame. -/
def payloadStart (b : Bytes) (f : FrameInfoLite) (cur : Nat) : Nat :=
  if isV4FrameFlags (b.getD 0 0) = false ∧ f.reliable.isSome then cur + kReliableHeaderBytes else cur

/-- The bytes after the header of a peeked frame decode to a payload of the stated size. -/
def payloadDecodes (S : Schema) (Z : Codec) (b : Bytes) : Prop :=
  ∃ f cur size, (Read.peekFrameInfo S Z b true).value 0 = some (f, cur) ∧
    ((Read.statedSize b).value 0).map Prod.fst = some size ∧
    (payloadAt Z b (b.getD 0 0) size (payloadStart b f cur)).length = size.toNat

/-- A legacy frame whose type fits 32 bits and whose sender is no longer than the frame: the
    frames on which the legacy walk is well defined. -/
def legacyInRange (b : Bytes) : Prop :=
  ∀ fs cur, (Read.legacyFields b).value 0 = some (fs, cur) →
    fs.ty.toNat < 2 ^ 32 ∧ fs.senderWireLen.toNat ≤ b.length

/-- The header `peek_frame_info` reads at an offset. -/
def headerAt (b : Bytes) (pos : Nat) : Option ReliableHeaderLite :=
  if isV4FrameFlags (b.getD 0 0) then
    ((Read.readV4ReliableHeader b (b.length - kCrcBytes)
      (b.getD 0 0 &&& kV4FlagCompactReliableHeader != 0)).value pos).map Prod.fst
  else some ⟨b.getD pos 0, loadLe32 b (pos + 1), loadLe32 b (pos + 5)⟩

namespace Read

variable {S : Schema} {Z : Codec} {b : Bytes}

/-! ## v4 -/

/-- A header that was read starts where it was announced. -/
theorem mem_trace_readV4ReliableHeader {endp pos k : Nat} {compact : Bool} {h : ReliableHeaderLite}
    (hread : (readV4ReliableHeader b endp compact).value pos = some (h, k)) :
    Access.reliableHeader pos ∈ (readV4ReliableHeader b endp compact).trace pos := by
  unfold readV4ReliableHeader at hread ⊢
  refine Reader.mem_trace_bind_right (Reader.value_tell pos) ?_
  rw [Reader.value_bind_of (Reader.value_tell pos)] at hread
  obtain ⟨hc, -⟩ := Reader.value_rejectIf_bind_eq_some hread
  have hpass : (Reader.rejectIf (pos ≥ endp) : Parse Unit).value pos = some ((), pos) := by
    rw [Reader.value_rejectIf, if_neg hc]
  refine Reader.mem_trace_bind_right hpass (Reader.mem_trace_bind_left ?_)
  rw [Reader.trace_emit]
  exact List.mem_singleton.mpr rfl

/-- The steps of a v4 walk that succeeded. -/
theorem v4Head_eq_some {hd : V4Head} {j : Nat} (h : (v4Head S b).value 0 = some (hd, j)) :
    hd.flags = b.getD 0 0 ∧ ∃ wireTy i3 i4 i5 i6 i7 i8,
      (readUleb128 b (b.length - kCrcBytes)).value 2 = some (wireTy, i3) ∧
      (readUleb128 b (b.length - kCrcBytes)).value i3 = some (hd.logicalSize, i4) ∧
      (readUleb128 b (b.length - kCrcBytes)).value i4 = some (hd.timestamp, i5) ∧
      (v4Nonce b hd.flags).value i5 = some ((), i6) ∧
      (readUleb128 b (b.length - kCrcBytes)).value i6 = some (hd.sourceAddress, i7) ∧
      S.localTypeId wireTy.toUInt32 = some hd.ty ∧ S.validType hd.ty = true ∧
      (v4Endpoints S b hd.flags hd.ty).value i7 = some (hd.endpoints, i8) ∧
      hd.endpoints.length = (b.getD 1 0).toNat ∧
      (v4Contract b hd.flags).value i8 = some ((), j) := by
  unfold v4Head at h
  obtain ⟨flags, i1, h1, h⟩ := Reader.value_bind_eq_some h
  obtain ⟨nep, i2, h2, h⟩ := Reader.value_bind_eq_some h
  simp only [value_next, Option.some.injEq, Prod.mk.injEq] at h1
  obtain ⟨rfl, rfl⟩ := h1
  simp only [value_next, Option.some.injEq, Prod.mk.injEq] at h2
  obtain ⟨rfl, rfl⟩ := h2
  obtain ⟨wireTy, i3, h3, h⟩ := Reader.value_bind_eq_some h
  obtain ⟨logicalSize, i4, h4, h⟩ := Reader.value_bind_eq_some h
  obtain ⟨timestamp, i5, h5, h⟩ := Reader.value_bind_eq_some h
  obtain ⟨_, i6, h6, h⟩ := Reader.value_bind_eq_some h
  obtain ⟨sourceAddress, i7, h7, h⟩ := Reader.value_bind_eq_some h
  unfold v4Typed at h
  cases hl : S.localTypeId wireTy.toUInt32 with
  | none => rw [hl] at h; simp at h
  | some localTy =>
    rw [hl] at h
    dsimp only at h
    obtain ⟨hvalid, h⟩ := Reader.value_rejectIf_bind_eq_some h
    obtain ⟨endpoints, i8, h8, h⟩ := Reader.value_bind_eq_some h
    obtain ⟨hcount, h⟩ := Reader.value_rejectIf_bind_eq_some h
    obtain ⟨_, i9, h9, h⟩ := Reader.value_bind_eq_some h
    simp only [Reader.value_pure, Option.some.injEq, Prod.mk.injEq] at h
    obtain ⟨rfl, rfl⟩ := h
    exact ⟨rfl, wireTy, i3, i4, i5, i6, i7, i8, h3, h4, h5, h6, h7, hl, by simpa using hvalid, h8,
      by simpa using hcount, h9⟩

theorem statedSize_of_v4Head {hd : V4Head} {j : Nat} (h : (v4Head S b).value 0 = some (hd, j)) :
    ((statedSize b).value 0).map Prod.fst = some hd.logicalSize := by
  obtain ⟨_, wireTy, i3, i4, i5, i6, i7, i8, h3, h4, _⟩ := v4Head_eq_some h
  unfold statedSize
  simp only [Reader.value_bind, value_next, Option.bind_some, h3, h4, Option.map_some]

/-- Stepping over the bitmap instead of reading it ends at the same place. -/
theorem value_v4Endpoints_skip {flags : UInt8} {ty : UInt32} {i j : Nat} {endpoints : List UInt32}
    (h : (v4Endpoints S b flags ty).value i = some (endpoints, j)) :
    if flags &&& kV4FlagEndpointBitmapPresent ≠ 0 then
      ¬ remaining (b.length - kCrcBytes) i < kV4EndpointBitmapBytes ∧ j = i + kV4EndpointBitmapBytes
    else j = i := by
  unfold v4Endpoints at h
  split
  · rw [if_pos ‹_›] at h
    obtain ⟨cur, _, hcur, h⟩ := Reader.value_bind_eq_some h
    simp only [Reader.value_tell, Option.some.injEq, Prod.mk.injEq] at hcur
    obtain ⟨rfl, rfl⟩ := hcur
    obtain ⟨hfits, h⟩ := Reader.value_rejectIf_bind_eq_some h
    simp only [Reader.value_bind, value_v4Bitmap, Option.bind_some, value_skip, Reader.value_pure,
      Option.some.injEq, Prod.mk.injEq] at h
    exact ⟨hfits, h.2.symm⟩
  · rw [if_neg ‹_›] at h
    simp only [Reader.value_bind, value_typeInfoAt, Option.bind_some, Reader.value_pure,
      Option.some.injEq, Prod.mk.injEq] at h
    exact h.2.symm

/-- Where the full walk stops on a type with a reliable header, `reliable_header_offset`
    answers that position. -/
theorem offsetV4_of_v4Head {hd : V4Head} {j : Nat} (h : (v4Head S b).value 0 = some (hd, j))
    (hr : S.hasV4ReliableHeader hd.ty = true) : (offsetV4 S b).value 0 = some (j, j) := by
  obtain ⟨hflags, wireTy, i3, i4, i5, i6, i7, i8, h3, h4, h5, h6, h7, hl, -, h8, -, h9⟩ :=
    v4Head_eq_some h
  have hskip := value_v4Endpoints_skip h8
  rw [offsetV4_eq]
  unfold v4Offset v4OffsetTyped v4SkipBitmap
  simp only [Reader.value_bind, value_next, Option.bind_some, value_skip, ← hflags, h3, h4, h5, h6, h7, hl,
    value_hasV4ReliableHeader, hr, Reader.value_rejectIf, if_false, Bool.true_eq_false]
  by_cases hbitmap : hd.flags &&& kV4FlagEndpointBitmapPresent ≠ 0
  · rw [if_pos hbitmap] at hskip
    obtain ⟨hfits, rfl⟩ := hskip
    simp only [if_pos hbitmap, Reader.value_bind, Reader.value_tell, Option.bind_some, Reader.value_rejectIf, if_neg hfits,
      value_skip, h9]
  · rw [if_neg hbitmap] at hskip
    subst hskip
    simp only [if_neg hbitmap, Reader.value_pure, h9, Option.bind_some, Reader.value_tell]

theorem value_v4Payload (hd : V4Head) (cur : Nat) : (v4Payload Z b hd).value cur =
    if (payloadAt Z b hd.flags hd.logicalSize cur).length ≠ hd.logicalSize.toNat then none
    else some (⟨hd.ty, addrSender hd.sourceAddress, hd.endpoints, hd.timestamp,
      payloadAt Z b hd.flags hd.logicalSize cur⟩, cur) := by
  unfold v4Payload
  simp only [Reader.value_bind, Reader.value_tell, value_decompress, Option.bind_some,
    Reader.value_rejectIf]
  rw [show kV4FlagCompressedPayload = 0x01 from rfl, ← payloadAt]
  split <;> simp [*]

/-- The walk behind a parsed v4 packet. -/
theorem deserializeV4_eq_some {pkt : PacketData} {k : Nat}
    (h : (deserializeV4 S Z b).value 0 = some (pkt, k)) :
    ∃ hd i reliable j, (v4Head S b).value 0 = some (hd, i) ∧
      (v4Reliable S b hd).value i = some (reliable, j) ∧ ackOnlyHeader reliable = false ∧
      pkt = ⟨hd.ty, addrSender hd.sourceAddress, hd.endpoints, hd.timestamp,
        payloadAt Z b hd.flags hd.logicalSize j⟩ ∧
      pkt.payload.length = hd.logicalSize.toNat := by
  rw [deserializeV4_eq] at h
  obtain ⟨hd, i, hhead, h⟩ := Reader.value_bind_eq_some h
  obtain ⟨reliable, j, hrel, h⟩ := Reader.value_bind_eq_some h
  obtain ⟨hack, h⟩ := Reader.value_rejectIf_bind_eq_some h
  rw [value_v4Payload] at h
  split at h
  · simp at h
  rename_i hsize
  simp only [Option.some.injEq, Prod.mk.injEq] at h
  obtain ⟨rfl, -⟩ := h
  exact ⟨hd, i, reliable, j, hhead, hrel, by simpa using hack, rfl, not_not.mp hsize⟩

theorem deserializeV4_peekV4 {pkt : PacketData} {k : Nat}
    (h : (deserializeV4 S Z b).value 0 = some (pkt, k)) :
    ∃ reliable j, (peekV4 S b).value 0 =
        some (⟨⟨pkt.ty, pkt.endpoints, pkt.sender, pkt.timestamp⟩, reliable⟩, j) ∧
      ackOnlyHeader reliable = false := by
  obtain ⟨hd, i, reliable, j, hhead, hrel, hack, rfl, -⟩ := deserializeV4_eq_some h
  refine ⟨reliable, j, ?_, hack⟩
  rw [peekV4_eq, Reader.value_bind_of hhead]
  unfold v4FrameTail
  rw [Reader.value_bind_of hrel, Reader.value_pure]

theorem peekV4_deserializeV4 {f : FrameInfoLite} {j : Nat} {size : UInt64}
    (h : (peekV4 S b).value 0 = some (f, j)) (hack : f.ackOnly = false)
    (hsize : ((statedSize b).value 0).map Prod.fst = some size)
    (hpayload : (payloadAt Z b (b.getD 0 0) size j).length = size.toNat) :
    ∃ pkt k, (deserializeV4 S Z b).value 0 = some (pkt, k) := by
  rw [peekV4_eq] at h
  obtain ⟨hd, i, hhead, h⟩ := Reader.value_bind_eq_some h
  obtain ⟨reliable, j', hrel, h⟩ := Reader.value_bind_eq_some h
  simp only [Reader.value_pure, Option.some.injEq, Prod.mk.injEq] at h
  obtain ⟨rfl, rfl⟩ := h
  rw [statedSize_of_v4Head hhead, Option.some.injEq] at hsize
  subst hsize
  rw [← (v4Head_eq_some hhead).1] at hpayload
  have hack' : ¬ ackOnlyHeader reliable = true := by
    cases reliable <;> simp_all [FrameInfoLite.ackOnly, ackOnlyHeader]
  have htail : (v4PacketTail S Z b hd).value i = (v4Payload Z b hd).value j' := by
    unfold v4PacketTail
    rw [Reader.value_bind_of hrel, Reader.value_bind, Reader.value_rejectIf, if_neg hack',
      Option.bind_some]
  have hval := value_v4Payload (Z := Z) (b := b) hd j'
  rw [if_neg (not_not.mpr hpayload)] at hval
  rw [deserializeV4_eq, Reader.value_bind_of hhead, htail]
  exact ⟨_, _, hval⟩

/-- A reliable header that a v4 walk has read. -/
theorem v4Reliable_eq_some {hd : V4Head} {i j : Nat} {h : ReliableHeaderLite}
    (hrel : (v4Reliable S b hd).value i = some (some h, j)) :
    S.hasV4ReliableHeader hd.ty = true ∧
      (readV4ReliableHeader b (b.length - kCrcBytes) (hd.flags &&& kV4FlagCompactReliableHeader != 0)).value i = some (h, j) := by
  unfold v4Reliable at hrel
  rw [Reader.value_bind_of (value_hasV4ReliableHeader S hd.ty i)] at hrel
  cases hhas : S.hasV4ReliableHeader hd.ty with
  | false => simp [hhas] at hrel
  | true =>
    rw [hhas, if_pos rfl] at hrel
    obtain ⟨h', k, hread, hrel⟩ := Reader.value_bind_eq_some hrel
    simp only [Reader.value_pure, Option.some.injEq, Prod.mk.injEq] at hrel
    obtain ⟨rfl, rfl⟩ := hrel
    exact ⟨rfl, hread⟩

/-- A v4 frame that was peeked and has a reliable header. -/
theorem peekV4_eq_some {f : FrameInfoLite} {j : Nat} {h : ReliableHeaderLite} (hpeek : (peekV4 S b).value 0 = some (f, j))
    (hr : f.reliable = some h) :
    ∃ hd pos, (v4Head S b).value 0 = some (hd, pos) ∧ S.hasV4ReliableHeader hd.ty = true ∧
      (readV4ReliableHeader b (b.length - kCrcBytes) (hd.flags &&& kV4FlagCompactReliableHeader != 0)).value pos = some (h, j) ∧
      f.envelope = ⟨hd.ty, hd.endpoints, addrSender hd.sourceAddress, hd.timestamp⟩ := by
  rw [peekV4_eq] at hpeek
  obtain ⟨hd, pos, hhead, hpeek⟩ := Reader.value_bind_eq_some hpeek
  obtain ⟨reliable, j', hrel, hpeek⟩ := Reader.value_bind_eq_some hpeek
  simp only [Reader.value_pure, Option.some.injEq, Prod.mk.injEq] at hpeek
  obtain ⟨rfl, rfl⟩ := hpeek
  dsimp only at hr
  subst hr
  obtain ⟨hhas, hread⟩ := v4Reliable_eq_some hrel
  exact ⟨hd, pos, hhead, hhas, hread, rfl⟩

theorem peekV4_reliableHeader {f : FrameInfoLite} {j : Nat} {h : ReliableHeaderLite}
    (hv4 : isV4FrameFlags (b.getD 0 0) = true)
    (hpeek : (peekV4 S b).value 0 = some (f, j)) (hr : f.reliable = some h) :
    ∃ pos, (offsetV4 S b).value 0 = some (pos, pos) ∧ headerAt b pos = some h ∧
      Access.reliableHeader pos ∈ (peekV4 S b).trace 0 := by
  obtain ⟨hd, pos, hhead, hhas, hread, -⟩ := peekV4_eq_some hpeek hr
  refine ⟨pos, offsetV4_of_v4Head hhead hhas, ?_, ?_⟩
  · unfold headerAt
    rw [if_pos hv4, ← (v4Head_eq_some hhead).1, hread]
    rfl
  · rw [peekV4_eq]
    refine Reader.mem_trace_bind_right hhead (Reader.mem_trace_bind_left ?_)
    unfold v4Reliable
    refine Reader.mem_trace_bind_right (value_hasV4ReliableHeader S hd.ty pos) ?_
    rw [hhas, if_pos rfl]
    exact Reader.mem_trace_bind_left (mem_trace_readV4ReliableHeader hread)

/-! ## Legacy -/

/-- Stepping over the endpoint count instead of reading it changes nothing else. -/
theorem value_legacyFieldsWith_skipCount : (legacyFieldsWith b skipCount).value 0 =
    ((legacyFields b).value 0).map fun r => ({ r.1 with nep := 0 }, r.2) := by
  unfold legacyFields legacyFieldsWith skipCount
  simp only [Reader.value_bind, value_next, value_skip, Reader.value_pure, Option.bind_some,
    Option.map_bind, Function.comp_def, Option.map_some]

/-- The scalar fields of a legacy walk that succeeded. -/
theorem legacyFields_eq_some {fs : LegacyFields} {j : Nat}
    (h : (legacyFields b).value 0 = some (fs, j)) :
    fs.flags = b.getD 0 0 ∧ ((statedSize b).value 0).map Prod.fst = some fs.logicalSize := by
  unfold legacyFields legacyFieldsWith at h
  obtain ⟨flags, i1, h1, h⟩ := Reader.value_bind_eq_some h
  obtain ⟨nep, i2, h2, h⟩ := Reader.value_bind_eq_some h
  simp only [value_next, Option.some.injEq, Prod.mk.injEq] at h1
  obtain ⟨rfl, rfl⟩ := h1
  simp only [value_next, Option.some.injEq, Prod.mk.injEq] at h2
  obtain ⟨rfl, rfl⟩ := h2
  obtain ⟨ty, i3, h3, h⟩ := Reader.value_bind_eq_some h
  obtain ⟨logicalSize, i4, h4, h⟩ := Reader.value_bind_eq_some h
  obtain ⟨timestamp, i5, h5, h⟩ := Reader.value_bind_eq_some h
  obtain ⟨senderLen, i6, h6, h⟩ := Reader.value_bind_eq_some h
  obtain ⟨senderWireLen, i7, h7, h⟩ := Reader.value_bind_eq_some h
  simp only [Reader.value_pure, Option.some.injEq, Prod.mk.injEq] at h
  obtain ⟨rfl, rfl⟩ := h
  refine ⟨rfl, ?_⟩
  unfold statedSize
  simp only [Reader.value_bind, value_next, Option.bind_some, h3, h4, Option.map_some]

/-- The steps of a legacy walk that succeeded. -/
theorem legacyHead_eq_some {fs : LegacyFields} {r : List UInt32 × Bytes × Bool} {j : Nat}
    (h : (legacyHead S Z b).value 0 = some ((fs, r), j)) :
    ∃ cur, (legacyFields b).value 0 = some (fs, cur) ∧
      (legacyCheck S b fs).value cur = some ((), cur) ∧
      r.2.2 = (S.typeAt fs.ty.toNat).reliable ∧
      j = cur + S.endpointBitmapBytes + fs.senderWireLen.toNat := by
  unfold legacyHead at h
  obtain ⟨fs', cur, hfields, h⟩ := Reader.value_bind_eq_some h
  obtain ⟨_, cur', hcheck, h⟩ := Reader.value_bind_eq_some h
  have hcur : cur' = cur := by
    unfold legacyCheck at hcheck
    obtain ⟨_, hcheck⟩ := Reader.value_rejectIf_bind_eq_some hcheck
    rw [Reader.value_bind_of (Reader.value_tell cur), Reader.value_rejectIf] at hcheck
    split at hcheck
    · simp at hcheck
    · simp only [Option.some.injEq, Prod.mk.injEq] at hcheck
      exact hcheck.2.symm
  rw [hcur] at hcheck h
  obtain ⟨r', k, haddr, h⟩ := Reader.value_bind_eq_some h
  simp only [Reader.value_pure, Option.some.injEq, Prod.mk.injEq] at h
  obtain ⟨⟨rfl, rfl⟩, rfl⟩ := h
  refine ⟨cur, hfields, hcheck, ?_⟩
  unfold legacyAddressing at haddr
  rw [Reader.value_bind_of (value_look b _ cur), Reader.value_bind_of (value_skip _ cur)] at haddr
  obtain ⟨_, haddr⟩ := Reader.value_rejectIf_bind_eq_some haddr
  rw [Reader.value_bind_of (value_decompress Z b _ _ _ _)] at haddr
  obtain ⟨_, haddr⟩ := Reader.value_rejectIf_bind_eq_some haddr
  rw [Reader.value_bind_of (value_skip _ _), Reader.value_bind_of (value_typeInfoAt S _ _),
    Reader.value_pure] at haddr
  simp only [Option.some.injEq, Prod.mk.injEq] at haddr
  obtain ⟨rfl, rfl⟩ := haddr
  exact ⟨rfl, rfl⟩

/-- The tail of `deserialize_packet` on a legacy frame, from the header on. -/
theorem value_legacyPacketTail (fs : LegacyFields) (endpoints : List UInt32) (sender : Bytes)
    (reliable : Bool) (cur : Nat) :
    (legacyPacketTail Z b (fs, endpoints, sender, reliable)).value cur =
      let start := if reliable then cur + kReliableHeaderBytes else cur
      if reliable ∧ (remaining (b.length - kCrcBytes) cur < kReliableHeaderBytes ∨
        b.getD cur 0 &&& 0x01 ≠ 0) then none
      else if (payloadAt Z b fs.flags fs.logicalSize start).length ≠ fs.logicalSize.toNat then none
      else some (⟨fs.ty.toUInt32, sender, endpoints, fs.timestamp,
        payloadAt Z b fs.flags fs.logicalSize start⟩, start) := by
  have hbyte := getD_take_drop b cur Nat.one_pos
  unfold legacyPacketTail payloadAt
  cases reliable with
  | false =>
    simp only [Bool.false_eq_true, if_false, Reader.value_bind_of (Reader.value_tell cur),
      Reader.value_bind_of (value_decompress Z b _ _ _ cur), Reader.value_rejectIf_bind, false_and]
    rfl
  | true =>
    simp only [if_true, Reader.value_bind_of (Reader.value_tell _), Reader.value_rejectIf_bind,
      Reader.value_bind_of (Reader.value_emit _ _), Reader.value_bind_of (value_look b _ _),
      Reader.value_bind_of (value_skip _ _), Reader.value_bind_of (value_decompress Z b _ _ _ _),
      true_and]
    by_cases hrem : remaining (b.length - kCrcBytes) cur < kReliableHeaderBytes
    · rw [if_pos hrem, if_pos (Or.inl hrem)]
    · rw [if_neg hrem, hbyte]
      by_cases hack : b.getD cur 0 &&& 0x01 ≠ 0
      · rw [if_pos hack, if_pos (Or.inr hack)]
      · have hpass : ¬ (remaining (b.length - kCrcBytes) cur < kReliableHeaderBytes ∨
            b.getD cur 0 &&& 0x01 ≠ 0) := not_or.mpr ⟨hrem, hack⟩
        rw [if_neg hack, if_neg hpass]
        rfl

theorem value_legacyFrameTail (fs : LegacyFields) (endpoints : List UInt32) (sender : Bytes)
    (reliable : Bool) (cur : Nat) :
    (legacyFrameTail b (fs, endpoints, sender, reliable)).value cur =
      if reliable ∧ remaining (b.length - kCrcBytes) cur < kReliableHeaderBytes then none
      else some (⟨⟨fs.ty.toUInt32, endpoints, sender, fs.timestamp⟩,
        if reliable then some ⟨b.getD cur 0, loadLe32 b (cur + 1), loadLe32 b (cur + 5)⟩ else none⟩,
        cur) := by
  have hbyte := getD_take_drop b cur (show 0 < kReliableHeaderBytes by decide)
  unfold legacyFrameTail
  cases reliable with
  | false => rfl
  | true =>
    simp only [if_true, Reader.value_bind_of (Reader.value_tell _),
      Reader.value_rejectIf_bind, Reader.value_bind_of (Reader.value_emit _ _),
      Reader.value_bind_of (value_look b _ _), pure_bind, true_and, hbyte]
    rfl

theorem deserializeLegacy_peekLegacy {pkt : PacketData} {k : Nat}
    (h : (deserializeLegacy S Z b).value 0 = some (pkt, k)) :
    ∃ reliable j, (peekLegacy S Z b).value 0 =
        some (⟨⟨pkt.ty, pkt.endpoints, pkt.sender, pkt.timestamp⟩, reliable⟩, j) ∧
      ackOnlyHeader reliable = false := by
  rw [deserializeLegacy_eq] at h
  obtain ⟨⟨fs, endpoints, sender, reliable⟩, cur, hhead, h⟩ := Reader.value_bind_eq_some h
  rw [value_legacyPacketTail] at h
  dsimp only at h
  generalize (if reliable = true then cur + kReliableHeaderBytes else cur) = start at h
  split at h
  · simp at h
  rename_i hpass
  split at h
  · simp at h
  simp only [Option.some.injEq, Prod.mk.injEq] at h
  obtain ⟨rfl, -⟩ := h
  have hframe := value_legacyFrameTail (b := b) fs endpoints sender reliable cur
  have hrem : ¬ (reliable = true ∧ remaining (b.length - kCrcBytes) cur < kReliableHeaderBytes) :=
    fun hr => hpass ⟨hr.1, Or.inl hr.2⟩
  rw [if_neg hrem] at hframe
  rw [peekLegacy_eq, Reader.value_bind_of hhead]
  refine ⟨_, _, hframe, ?_⟩
  cases reliable with
  | false => rfl
  | true =>
    have hack : b.getD cur 0 &&& 0x01 = 0 := by
      by_contra hne
      exact hpass ⟨rfl, Or.inr hne⟩
    simp only [if_true, ackOnlyHeader, hack, bne_self_eq_false]

theorem peekLegacy_deserializeLegacy {f : FrameInfoLite} {j : Nat} {size : UInt64}
    (hlegacy : isV4FrameFlags (b.getD 0 0) = false)
    (h : (peekLegacy S Z b).value 0 = some (f, j)) (hack : f.ackOnly = false)
    (hsize : ((statedSize b).value 0).map Prod.fst = some size)
    (hpayload : (payloadAt Z b (b.getD 0 0) size (payloadStart b f j)).length = size.toNat) :
    ∃ pkt k, (deserializeLegacy S Z b).value 0 = some (pkt, k) := by
  rw [peekLegacy_eq] at h
  obtain ⟨⟨fs, endpoints, sender, reliable⟩, cur, hhead, h⟩ := Reader.value_bind_eq_some h
  obtain ⟨start, hfields, -⟩ := legacyHead_eq_some hhead
  obtain ⟨hflags, hstated⟩ := legacyFields_eq_some hfields
  rw [hstated, Option.some.injEq] at hsize
  subst hsize
  rw [← hflags] at hpayload
  rw [value_legacyFrameTail] at h
  split at h
  · simp at h
  rename_i hrem
  simp only [Option.some.injEq, Prod.mk.injEq] at h
  obtain ⟨rfl, rfl⟩ := h
  have htail := value_legacyPacketTail (Z := Z) (b := b) fs endpoints sender reliable cur
  have hstart : payloadStart b ⟨⟨fs.ty.toUInt32, endpoints, sender, fs.timestamp⟩,
      if reliable then some ⟨b.getD cur 0, loadLe32 b (cur + 1), loadLe32 b (cur + 5)⟩ else none⟩ cur =
      if reliable then cur + kReliableHeaderBytes else cur := by
    unfold payloadStart
    rw [hlegacy]
    cases reliable <;> simp
  have hpass : ¬ (reliable = true ∧ (remaining (b.length - kCrcBytes) cur < kReliableHeaderBytes ∨
      b.getD cur 0 &&& 0x01 ≠ 0)) := by
    rintro ⟨hr, hshort | hackOnly⟩
    · exact hrem ⟨hr, hshort⟩
    · subst hr
      simp only [FrameInfoLite.ackOnly, if_true, bne_eq_false_iff_eq] at hack
      exact hackOnly hack
  rw [hstart] at hpayload
  dsimp only at htail
  rw [if_neg hpass, if_neg (not_not.mpr hpayload)] at htail
  rw [deserializeLegacy_eq, Reader.value_bind_of hhead]
  exact ⟨_, _, htail⟩

/-- On a legacy frame the two offsets are the sums `bitmap_len + sender_wire_len`, once taken
    step by step and once as a wrapping `size_t`; they agree while the sum does not wrap. -/
theorem offsetLegacy_of_legacyHead {fs : LegacyFields} {endpoints : List UInt32} {sender : Bytes} {pos : Nat}
    (hlen : b.length < 2 ^ 63) (hrange : legacyInRange b)
    (hhead : (legacyHead S Z b).value 0 = some ((fs, endpoints, sender, true), pos)) :
    (offsetLegacy S b).value 0 = some (pos, pos) := by
  obtain ⟨cur, hfields, hcheck, hrow, hpos⟩ := legacyHead_eq_some hhead
  have hoffset := value_legacyFieldsWith_skipCount (b := b)
  rw [hfields, Option.map_some] at hoffset
  have hwrap : (UInt64.ofNat S.endpointBitmapBytes + fs.senderWireLen).toNat =
      S.endpointBitmapBytes + fs.senderWireLen.toNat := by
    have hbitmap : S.endpointBitmapBytes < 2 ^ 32 := UInt32.toNat_lt _
    have hsender := (hrange fs cur hfields).2
    rw [UInt64.toNat_add, UInt64.toNat_ofNat']
    omega
  rw [offsetLegacy_eq, Reader.value_bind_of hoffset]
  have hcheck' : (legacyCheck S b { fs with nep := 0 }).value cur = some ((), cur) := hcheck
  rw [Reader.value_bind_of hcheck']
  unfold legacyOffsetTail
  dsimp only at hrow ⊢
  rw [Reader.value_bind_of (value_skip _ cur), Reader.value_bind_of (value_typeInfoAt S _ _),
    Reader.value_rejectIf_bind, ← hrow, hwrap, ← Nat.add_assoc, ← hpos]
  rfl

/-- A legacy frame that was peeked and has a reliable header. -/
theorem peekLegacy_eq_some {f : FrameInfoLite} {j : Nat} {h : ReliableHeaderLite}
    (hpeek : (peekLegacy S Z b).value 0 = some (f, j)) (hr : f.reliable = some h) :
    ∃ fs endpoints sender, (legacyHead S Z b).value 0 = some ((fs, endpoints, sender, true), j) ∧
      ¬ remaining (b.length - kCrcBytes) j < kReliableHeaderBytes ∧
      f.envelope = ⟨fs.ty.toUInt32, endpoints, sender, fs.timestamp⟩ ∧
      h = ⟨b.getD j 0, loadLe32 b (j + 1), loadLe32 b (j + 5)⟩ := by
  rw [peekLegacy_eq] at hpeek
  obtain ⟨⟨fs, endpoints, sender, reliable⟩, pos, hhead, hpeek⟩ := Reader.value_bind_eq_some hpeek
  rw [value_legacyFrameTail] at hpeek
  split at hpeek
  · simp at hpeek
  rename_i hrem
  simp only [Option.some.injEq, Prod.mk.injEq] at hpeek
  obtain ⟨rfl, rfl⟩ := hpeek
  dsimp only at hr
  cases reliable with
  | false => simp at hr
  | true =>
    rw [if_pos rfl, Option.some.injEq] at hr
    exact ⟨fs, endpoints, sender, hhead, fun hshort => hrem ⟨rfl, hshort⟩, rfl, hr.symm⟩

theorem peekLegacy_reliableHeader {f : FrameInfoLite} {j : Nat} {h : ReliableHeaderLite}
    (hlen : b.length < 2 ^ 63) (hlegacy : isV4FrameFlags (b.getD 0 0) = false) (hrange : legacyInRange b)
    (hpeek : (peekLegacy S Z b).value 0 = some (f, j)) (hr : f.reliable = some h) :
    ∃ pos, (offsetLegacy S b).value 0 = some (pos, pos) ∧ headerAt b pos = some h ∧
      Access.reliableHeader pos ∈ (peekLegacy S Z b).trace 0 := by
  obtain ⟨fs, endpoints, sender, hhead, hfits, -, hh⟩ := peekLegacy_eq_some hpeek hr
  refine ⟨j, offsetLegacy_of_legacyHead hlen hrange hhead, ?_, ?_⟩
  · unfold headerAt
    rw [hlegacy, hh]
    rfl
  · rw [peekLegacy_eq]
    refine Reader.mem_trace_bind_right hhead ?_
    unfold legacyFrameTail
    simp only [if_true]
    refine Reader.mem_trace_bind_right (Reader.value_tell j) ?_
    have hpass : (Reader.rejectIf (remaining (b.length - kCrcBytes) j < kReliableHeaderBytes) :
        Parse Unit).value j = some ((), j) := by
      rw [Reader.value_rejectIf, if_neg hfits]
    refine Reader.mem_trace_bind_right hpass (Reader.mem_trace_bind_left ?_)
    rw [Reader.trace_emit]
    exact List.mem_singleton.mpr rfl

end Read

/-! ## The parsers -/

section

variable {S : Schema} {Z : Codec} {b : Bytes}

/-- What is parsed is what is peeked. -/
theorem deserializePacket_peek {pkt : PacketData} (h : deserializePacket S Z b = some pkt) :
    ∃ f, peekFrameInfo S Z b true = some f ∧
      f.envelope = ⟨pkt.ty, pkt.endpoints, pkt.sender, pkt.timestamp⟩ ∧ f.ackOnly = false := by
  unfold deserializePacket at h
  obtain ⟨⟨pkt', k⟩, hval, rfl⟩ := Option.map_eq_some_iff.mp h
  rw [Read.value_deserializePacket] at hval
  split at hval
  · simp at hval
  rename_i hchecks
  have hpass : ¬ (b.length < 2 + kCrcBytes ∨ true = true ∧ ¬crcValid b) :=
    fun hc => hchecks (hc.imp_right And.right)
  unfold peekFrameInfo
  rw [Read.value_peekFrameInfo, if_neg hpass]
  split at hval
  · rename_i hv4
    obtain ⟨reliable, j, hpeek, hack⟩ := Read.deserializeV4_peekV4 hval
    rw [if_pos hv4, hpeek]
    exact ⟨_, rfl, rfl, by cases reliable <;> exact hack⟩
  · rename_i hv4
    obtain ⟨reliable, j, hpeek, hack⟩ := Read.deserializeLegacy_peekLegacy hval
    rw [if_neg hv4, hpeek]
    exact ⟨_, rfl, rfl, by cases reliable <;> exact hack⟩

/-- A peeked v4 frame, with the walk behind it. -/
theorem peekFrameInfo_v4Head {verifyCrc : Bool} {f : FrameInfoLite}
    (hv4 : isV4FrameFlags (b.getD 0 0) = true) (h : peekFrameInfo S Z b verifyCrc = some f) :
    ¬ b.length < 2 + kCrcBytes ∧ ∃ hd i, (Read.v4Head S b).value 0 = some (hd, i) ∧
      f.envelope = ⟨hd.ty, hd.endpoints, addrSender hd.sourceAddress, hd.timestamp⟩ := by
  unfold peekFrameInfo at h
  obtain ⟨⟨f', k⟩, hval, rfl⟩ := Option.map_eq_some_iff.mp h
  rw [Read.value_peekFrameInfo, if_pos hv4] at hval
  split at hval
  · simp at hval
  rename_i hchecks
  rw [Read.peekV4_eq] at hval
  obtain ⟨hd, i, hhead, hval⟩ := Reader.value_bind_eq_some hval
  obtain ⟨reliable, j, _, hval⟩ := Reader.value_bind_eq_some hval
  simp only [Reader.value_pure, Option.some.injEq, Prod.mk.injEq] at hval
  obtain ⟨rfl, -⟩ := hval
  exact ⟨fun hshort => hchecks (Or.inl hshort), hd, i, hhead, rfl⟩

/-- A parsed v4 frame, with the walk behind it. -/
theorem deserializePacket_v4Head {pkt : PacketData} (hv4 : isV4FrameFlags (b.getD 0 0) = true)
    (h : deserializePacket S Z b = some pkt) :
    ∃ hd i, (Read.v4Head S b).value 0 = some (hd, i) ∧ pkt.ty = hd.ty ∧
      pkt.sender = addrSender hd.sourceAddress ∧ pkt.endpoints = hd.endpoints ∧
      pkt.payload.length = hd.logicalSize.toNat := by
  unfold deserializePacket at h
  obtain ⟨⟨pkt', k⟩, hval, rfl⟩ := Option.map_eq_some_iff.mp h
  rw [Read.value_deserializePacket] at hval
  rw [if_pos hv4] at hval
  split at hval
  · simp at hval
  obtain ⟨hd, i, reliable, j, hhead, -, -, rfl, hsize⟩ := Read.deserializeV4_eq_some hval
  exact ⟨hd, i, hhead, rfl, rfl, rfl, hsize⟩

/-- A peeked frame whose payload decodes is parsed. -/
theorem peek_deserializePacket {f : FrameInfoLite} (h : peekFrameInfo S Z b true = some f)
    (hack : f.ackOnly = false) (hpayload : payloadDecodes S Z b) :
    ∃ pkt, deserializePacket S Z b = some pkt := by
  obtain ⟨f', j, size, hval, hsize, hlen⟩ := hpayload
  have hf : f' = f := by
    unfold peekFrameInfo at h
    rw [hval] at h
    simpa using h
  subst hf
  rw [Read.value_peekFrameInfo] at hval
  split at hval
  · simp at hval
  rename_i hchecks
  have hpass : ¬ (b.length < 2 + kCrcBytes ∨ ¬crcValid b) :=
    fun hc => hchecks (hc.imp_right fun hcrc => ⟨rfl, hcrc⟩)
  unfold deserializePacket
  rw [Read.value_deserializePacket, if_neg hpass]
  split at hval
  · rename_i hv4
    have hstart : payloadStart b f' j = j := by
      unfold payloadStart
      rw [hv4]
      simp
    rw [hstart] at hlen
    obtain ⟨pkt, k, hpkt⟩ := Read.peekV4_deserializeV4 (Z := Z) hval hack hsize hlen
    rw [if_pos hv4, hpkt]
    exact ⟨pkt, rfl⟩
  · rename_i hv4
    obtain ⟨pkt, k, hpkt⟩ := Read.peekLegacy_deserializeLegacy (by simpa using hv4) hval hack hsize hlen
    rw [if_neg hv4, hpkt]
    exact ⟨pkt, rfl⟩

/-- `reliable_header_offset` finds the header that was peeked. -/
theorem peek_reliableHeaderOffset {verifyCrc : Bool} {f : FrameInfoLite} {h : ReliableHeaderLite}
    (hlen : b.length < 2 ^ 63) (hdom : isV4FrameFlags (b.getD 0 0) = true ∨ legacyInRange b)
    (hpeek : peekFrameInfo S Z b verifyCrc = some f) (hr : f.reliable = some h) :
    ∃ pos, reliableHeaderOffset S b = some pos ∧ headerAt b pos = some h ∧
      Access.reliableHeader pos ∈ (Read.peekFrameInfo S Z b verifyCrc).trace 0 := by
  unfold peekFrameInfo at hpeek
  obtain ⟨⟨f', j⟩, hval, rfl⟩ := Option.map_eq_some_iff.mp hpeek
  rw [Read.value_peekFrameInfo] at hval
  split at hval
  · simp at hval
  rename_i hchecks
  have hlong : ¬ b.length < 2 + kCrcBytes := fun hc => hchecks (Or.inl hc)
  have htrace : ∀ e ∈ _, e ∈ (Read.peekFrameInfo S Z b verifyCrc).trace 0 :=
    fun e => Read.mem_trace_peekFrameInfo hchecks
  unfold reliableHeaderOffset
  rw [Read.value_reliableHeaderOffset, if_neg hlong]
  split at hval
  · rename_i hv4
    rw [if_pos hv4] at htrace
    obtain ⟨pos, hoff, hat, hmem⟩ := Read.peekV4_reliableHeader hv4 hval hr
    rw [if_pos hv4, hoff]
    exact ⟨pos, rfl, hat, htrace _ hmem⟩
  · rename_i hv4
    rw [if_neg hv4] at htrace
    have hrange : legacyInRange b := hdom.resolve_left hv4
    obtain ⟨pos, hoff, hat, hmem⟩ :=
      Read.peekLegacy_reliableHeader hlen (by simpa using hv4) hrange hval hr
    rw [if_neg hv4, hoff]
    exact ⟨pos, rfl, hat, htrace _ hmem⟩

end

/-- **The parsers agree**, on every v4 frame and on every legacy frame whose type and sender
    length are in range. The length bound is the one `end - cur` needs to be a
    `ptrdiff_t`. -/
theorem frameParsers_agree (S : Schema) (Z : Codec) (b : Bytes) (hlen : b.length < 2 ^ 63)
    (hdom : isV4FrameFlags (b.getD 0 0) = true ∨ legacyInRange b) :
    (∀ pkt, deserializePacket S Z b = some pkt →
      ∃ f, peekFrameInfo S Z b true = some f ∧
        f.envelope = ⟨pkt.ty, pkt.endpoints, pkt.sender, pkt.timestamp⟩ ∧ f.ackOnly = false) ∧
    (∀ f, peekFrameInfo S Z b true = some f → f.ackOnly = false → payloadDecodes S Z b →
      ∃ pkt, deserializePacket S Z b = some pkt) ∧
    (∀ verifyCrc f h, peekFrameInfo S Z b verifyCrc = some f → f.reliable = some h →
      ∃ pos, reliableHeaderOffset S b = some pos ∧ headerAt b pos = some h ∧
        Access.reliableHeader pos ∈ (Read.peekFrameInfo S Z b verifyCrc).trace 0) := by
  refine ⟨?_, ?_, ?_⟩
  · intro pkt hpkt
    exact deserializePacket_peek hpkt
  · intro f hpeek hack hpayload
    exact peek_deserializePacket hpeek hack hpayload
  · intro verifyCrc f h hpeek hr
    exact peek_reliableHeaderOffset hlen hdom hpeek hr

/-- The first GPS frame of a link: its header is behind two fixed bytes, eight
    bytes of varints and the bitmap. -/
theorem frameParsers_agree_gps :
    ∃ pos, reliableHeaderOffset defaultTestSchema
        (serializePacketWithReliable defaultTestSchema (.absent 16) gpsPacket ⟨0, 1, 0⟩) = some pos ∧
      headerAt (serializePacketWithReliable defaultTestSchema (.absent 16) gpsPacket ⟨0, 1, 0⟩) pos =
        some ⟨0, 1, 0⟩ ∧
      Access.reliableHeader pos ∈ (Read.peekFrameInfo defaultTestSchema (.absent 16)
        (serializePacketWithReliable defaultTestSchema (.absent 16) gpsPacket ⟨0, 1, 0⟩) true).trace 0 :=
  (frameParsers_agree defaultTestSchema (.absent 16)
    (serializePacketWithReliable defaultTestSchema (.absent 16) gpsPacket ⟨0, 1, 0⟩)
    (by decide +kernel) (Or.inl (by decide +kernel))).2.2 true
    ⟨⟨100, [100, 101], addrSender 488734002, 123⟩, some ⟨0, 1, 0⟩⟩ ⟨0, 1, 0⟩ (by decide +kernel) rfl

end SedsNet
