import Mathlib.Data.List.Nodup
import Mathlib.Data.List.Perm.Subperm
import SedsNet.Wire.Agree

/-!
# Frames read back

The two frame writers lay out the same fields and differ in the reliable header, so both are
instances of `frameBody`. `v4Head_frame` runs the shared walk over such a frame, and the round
trips of `serialize_packet` and `serialize_packet_with_reliable` follow by adding the tails.

What comes back is not the packet but what the format carries of it: the endpoints are
`wireEndpoints`, and the sender is its 32-bit address.
-/

set_option autoImplicit false

namespace SedsNet

open Lib

/-! ## The trailer -/

theorem length_withCrc (out : Bytes) : (withCrc out).length = out.length + kCrcBytes := by
  rw [withCrc, List.length_append]
  rfl

theorem crcValid_withCrc (out : Bytes) : crcValid (withCrc out) := by
  have hend : (withCrc out).length - kCrcBytes = out.length := by
    rw [length_withCrc]
    omega
  have hload : Continues (withCrc out) out.length (appendLe32 (crc32Bytes out)) [] := by
    rw [Continues, withCrc, List.drop_left, List.append_nil]
  unfold crcValid
  rw [hend, loadLe32_append _ hload, withCrc, List.take_left]

/-! ## The common layout -/

/-- The frame flags the writers use. -/
def frameFlags (compressed compact : Bool) : UInt8 :=
  let flags : UInt8 := if compressed then 0 ||| kV4FlagCompressedPayload else 0
  let flags := flags ||| kV4FlagEndpointBitmapPresent
  if compact then flags ||| kV4FlagCompactReliableHeader else flags

theorem isV4FrameFlags_frameFlags (compressed compact : Bool) :
    isV4FrameFlags (frameFlags compressed compact) = true := by
  cases compressed <;> cases compact <;> decide

/-- No nonce, no contract, a bitmap, and the two flags as given. -/
theorem frameFlags_bits (compressed compact : Bool) :
    frameFlags compressed compact &&& 0x08 = 0 ∧ frameFlags compressed compact &&& 0x04 = 0 ∧
      frameFlags compressed compact &&& kV4FlagEndpointBitmapPresent ≠ 0 ∧
      (frameFlags compressed compact &&& 0x01 != 0) = compressed ∧
      (frameFlags compressed compact &&& kV4FlagCompactReliableHeader != 0) = compact := by
  cases compressed <;> cases compact <;> decide

/-- The fields both writers put in front of the reliable header. -/
def frameHead (S : Schema) (pkt : PacketData) (flags : UInt8) : Bytes :=
  [flags, UInt8.ofNat pkt.endpoints.length] ++
    writeUleb128 (S.v4TypeId pkt.ty).toUInt64 ++
    writeUleb128 (UInt64.ofNat pkt.payload.length) ++
    writeUleb128 pkt.timestamp ++
    writeUleb128 (senderAddressU32 pkt.sender).toUInt64 ++
    v4EndpointBitmap S pkt.endpoints

/-- A frame of `pkt` with the bytes `header` for its reliable header. -/
def frameBody (S : Schema) (Z : Codec) (pkt : PacketData) (compact : Bool) (header : Bytes) : Bytes :=
  frameHead S pkt (frameFlags (maybeCompress Z pkt.payload).2 compact) ++ header ++
    (maybeCompress Z pkt.payload).1

/-- The reliable header bytes of a frame of type `ty`: the written header, or none. -/
def headerBytes (S : Schema) (ty : UInt32) (h : ReliableHeaderLite) (compact : Bool) : Bytes :=
  if S.hasV4ReliableHeader ty then writeV4ReliableHeader h compact else []

theorem reliableFrameBody_eq (S : Schema) (Z : Codec) (pkt : PacketData) (h : ReliableHeaderLite) :
    reliableFrameBody S Z pkt h = frameBody S Z pkt (shouldCompactReliableHeader h)
      (if S.hasV4ReliableHeader pkt.ty then writeV4ReliableHeader h (shouldCompactReliableHeader h)
       else []) := rfl

/-- `serialize_packet_with_reliable` writes a frame of the common layout. -/
theorem serializePacketWithReliable_frame (S : Schema) (Z : Codec) (pkt : PacketData) (h : ReliableHeaderLite) :
    serializePacketWithReliable S Z pkt h = withCrc (frameBody S Z pkt (shouldCompactReliableHeader h)
      (headerBytes S pkt.ty h (shouldCompactReliableHeader h))) := by
  rw [serializePacketWithReliable, reliableFrameBody_eq, headerBytes]

theorem plainFrameBody_eq (S : Schema) (Z : Codec) (pkt : PacketData) :
    plainFrameBody S Z pkt = frameBody S Z pkt false [] := by
  simp only [frameBody, List.append_nil]
  rfl

section

variable {S : Schema} {Z : Codec} {b : Bytes}

/-- The parts of a frame, from front to back. -/
theorem frame_layout {pkt : PacketData} {compact : Bool} {header : Bytes}
    (hb : b = withCrc (frameBody S Z pkt compact header)) :
    ∃ crc, b = frameHead S pkt (frameFlags (maybeCompress Z pkt.payload).2 compact) ++
        (header ++ ((maybeCompress Z pkt.payload).1 ++ crc)) ∧
      crc.length = kCrcBytes ∧
      kCrcBytes ≤ (header ++ ((maybeCompress Z pkt.payload).1 ++ crc)).length := by
  refine ⟨appendLe32 (crc32Bytes (frameBody S Z pkt compact header)), ?_, rfl, ?_⟩
  · rw [hb, withCrc]
    simp only [frameBody, List.append_assoc]
  · simp only [List.length_append]
    exact (Nat.le_add_left _ _).trans (Nat.le_add_left _ _)

/-- The reads over a written head, whatever follows it. -/
theorem frameHead_reads (pkt : PacketData) {flags : UInt8} {rest : Bytes}
    (hb : b = frameHead S pkt flags ++ rest) (hrest : kCrcBytes ≤ rest.length) :
    b.getD 0 0 = flags ∧ b.getD 1 0 = UInt8.ofNat pkt.endpoints.length ∧ ∃ i3 i4 i5 i7,
      (Read.readUleb128 b (b.length - kCrcBytes)).value 2 = some ((S.v4TypeId pkt.ty).toUInt64, i3) ∧
      (Read.readUleb128 b (b.length - kCrcBytes)).value i3 =
        some (UInt64.ofNat pkt.payload.length, i4) ∧
      (Read.readUleb128 b (b.length - kCrcBytes)).value i4 = some (pkt.timestamp, i5) ∧
      (Read.readUleb128 b (b.length - kCrcBytes)).value i5 =
        some ((senderAddressU32 pkt.sender).toUInt64, i7) ∧
      Continues b i7 (v4EndpointBitmap S pkt.endpoints) rest ∧
      i7 + kV4EndpointBitmapBytes = (frameHead S pkt flags).length := by
  have hlen : b.length = (frameHead S pkt flags).length + rest.length := by
    rw [hb, List.length_append]
  have hheadLen : (frameHead S pkt flags).length =
      2 + (writeUleb128 (S.v4TypeId pkt.ty).toUInt64).length +
        (writeUleb128 (UInt64.ofNat pkt.payload.length)).length +
        (writeUleb128 pkt.timestamp).length +
        (writeUleb128 (senderAddressU32 pkt.sender).toUInt64).length + kV4EndpointBitmapBytes := by
    simp only [frameHead, List.length_append, length_v4EndpointBitmap, List.length_cons,
      List.length_nil]
  -- what the buffer holds from each field on
  have h0 : Continues b 0 [flags, UInt8.ofNat pkt.endpoints.length]
      (writeUleb128 (S.v4TypeId pkt.ty).toUInt64 ++ (writeUleb128 (UInt64.ofNat pkt.payload.length) ++
        (writeUleb128 pkt.timestamp ++ (writeUleb128 (senderAddressU32 pkt.sender).toUInt64 ++
          (v4EndpointBitmap S pkt.endpoints ++ rest))))) := by
    rw [Continues, List.drop_zero, hb, frameHead]
    simp only [List.append_assoc]
  have h2 := h0.next
  have h3 := Continues.next h2
  have h4 := Continues.next h3
  have h5 := Continues.next h4
  have h7 := Continues.next h5
  have htwo : [flags, UInt8.ofNat pkt.endpoints.length].length = 2 := rfl
  rw [htwo, Nat.zero_add] at h2 h3 h4 h5 h7
  have hty : (Read.readUleb128 b (b.length - kCrcBytes)).value 2 = some (_, _) :=
    readUleb128_write _ h2 (by omega)
  have hsize : (Read.readUleb128 b (b.length - kCrcBytes)).value _ = some (_, _) :=
    readUleb128_write _ h3 (by omega)
  have hts : (Read.readUleb128 b (b.length - kCrcBytes)).value _ = some (_, _) :=
    readUleb128_write _ h4 (by omega)
  have haddr : (Read.readUleb128 b (b.length - kCrcBytes)).value _ = some (_, _) :=
    readUleb128_write _ h5 (by omega)
  exact ⟨h0.getD_zero, by rw [hb]; rfl, _, _, _, _, hty, hsize, hts, haddr, h7, by omega⟩

/-- The walk over a written frame whose type id leads back to a valid type. -/
theorem v4Head_frame (pkt : PacketData) {compressed compact : Bool} {rest : Bytes} {ty : UInt32}
    (hb : b = frameHead S pkt (frameFlags compressed compact) ++ rest)
    (hrest : kCrcBytes ≤ rest.length) (hty : S.localTypeId (S.v4TypeId pkt.ty) = some ty)
    (hvalid : S.validType ty = true) : (Read.v4Head S b).value 0 =
      if (wireEndpoints S pkt.endpoints).length ≠ pkt.endpoints.length % 256 then none
      else some (⟨frameFlags compressed compact, UInt64.ofNat pkt.payload.length, pkt.timestamp,
        (senderAddressU32 pkt.sender).toUInt64, ty, wireEndpoints S pkt.endpoints⟩,
        (frameHead S pkt (frameFlags compressed compact)).length) := by
  obtain ⟨hflags, hnep, i3, i4, i5, i7, h3, h4, h5, h7, hbitmap, hend⟩ := frameHead_reads pkt hb hrest
  obtain ⟨hnonce, hcontract, hpresent, -, -⟩ := frameFlags_bits compressed compact
  have hlen : b.length = (frameHead S pkt (frameFlags compressed compact)).length + rest.length := by
    rw [hb, List.length_append]
  have hfits : ¬ remaining (b.length - kCrcBytes) i7 < kV4EndpointBitmapBytes := by
    unfold remaining
    split <;> omega
  have htake : (b.drop i7).take kV4EndpointBitmapBytes = v4EndpointBitmap S pkt.endpoints := by
    have := hbitmap.take
    rwa [length_v4EndpointBitmap] at this
  have hcount : (UInt8.ofNat pkt.endpoints.length).toNat = pkt.endpoints.length % 256 :=
    UInt8.toNat_ofNat'
  unfold Read.v4Head Read.v4Nonce Read.v4Typed Read.v4Endpoints Read.v4Contract
  rw [Reader.value_bind_of (Read.value_next b 0), Reader.value_bind_of (Read.value_next b 1), hflags,
    hnep, Reader.value_bind_of h3, Reader.value_bind_of h4, Reader.value_bind_of h5,
    if_neg (not_not.mpr hnonce), pure_bind, Reader.value_bind_of h7, UInt32.toUInt32_toUInt64, hty]
  dsimp only
  rw [Reader.value_rejectIf_bind, hvalid, if_neg (by simp), if_pos hpresent,
    if_neg (not_not.mpr hcontract), bind_assoc, Reader.value_bind_of (Reader.value_tell i7), bind_assoc,
    Reader.value_rejectIf_bind, if_neg hfits, bind_assoc,
    Reader.value_bind_of (Read.value_v4Bitmap S b i7), bind_assoc,
    Reader.value_bind_of (Read.value_skip _ i7), pure_bind, htake, parseV4Bitmap_v4EndpointBitmap,
    Reader.value_rejectIf_bind, hcount, hend]
  rfl

theorem v4Reliable_frame (hd : Read.V4Head) {i : Nat} {h : ReliableHeaderLite} {compact : Bool}
    {rest : Bytes} (hcompact : (hd.flags &&& kV4FlagCompactReliableHeader != 0) = compact)
    (hflags : h.flags &&& 0x0C = 0)
    (hc : Continues b i (headerBytes S hd.ty h compact) rest)
    (hlen : i + (headerBytes S hd.ty h compact).length ≤ b.length - kCrcBytes) :
    (Read.v4Reliable S b hd).value i =
      some (if S.hasV4ReliableHeader hd.ty then some h else none,
        i + (headerBytes S hd.ty h compact).length) := by
  unfold Read.v4Reliable
  unfold headerBytes at hc hlen ⊢
  rw [Reader.value_bind_of (Read.value_hasV4ReliableHeader S hd.ty i)]
  cases hhas : S.hasV4ReliableHeader hd.ty with
  | false => rfl
  | true =>
    rw [hhas, if_pos rfl] at hc hlen
    rw [if_pos rfl, hcompact, Reader.value_bind_of (readV4ReliableHeader_write h compact hflags hc hlen)]
    rfl

/-- The payload of a written frame. -/
theorem payloadAt_frame (hZ : Z.Lossless) (pkt : PacketData) (hsize : pkt.payload.length < 2 ^ 64)
    {compact : Bool} {i : Nat} {crc : Bytes}
    (hi : i + (maybeCompress Z pkt.payload).1.length + kCrcBytes = b.length)
    (hc : Continues b i (maybeCompress Z pkt.payload).1 crc) :
    payloadAt Z b (frameFlags (maybeCompress Z pkt.payload).2 compact)
      (UInt64.ofNat pkt.payload.length) i = pkt.payload := by
  have hrem : remaining (b.length - kCrcBytes) i = (maybeCompress Z pkt.payload).1.length := by
    unfold remaining
    split <;> omega
  have hlen : (UInt64.ofNat pkt.payload.length).toNat = pkt.payload.length := by
    rw [UInt64.toNat_ofNat', Nat.mod_eq_of_lt hsize]
  unfold payloadAt
  rw [hrem, hc.take, hlen, (frameFlags_bits _ _).2.2.2.1, maybeDecompress_maybeCompress hZ]

/-- What a parser makes of a frame: the fields the format carries. -/
def framePacket (S : Schema) (pkt : PacketData) : PacketData :=
  { pkt with
    sender := addrSender (senderAddressU32 pkt.sender).toUInt64
    endpoints := wireEndpoints S pkt.endpoints }

/-- The head every parser reads from a frame of the common layout. -/
def frameV4Head (S : Schema) (Z : Codec) (pkt : PacketData) (compact : Bool) : Read.V4Head :=
  ⟨frameFlags (maybeCompress Z pkt.payload).2 compact, UInt64.ofNat pkt.payload.length, pkt.timestamp,
    (senderAddressU32 pkt.sender).toUInt64, pkt.ty, wireEndpoints S pkt.endpoints⟩

/-- The walk both parsers make over a frame with reliable header `h`, for a type its own wire id
    leads back to: up to the header, over it, and to the payload. -/
theorem frame_walk (pkt : PacketData) (hty : S.localTypeId (S.v4TypeId pkt.ty) = some pkt.ty)
    (hvalid : S.validType pkt.ty = true) (h : ReliableHeaderLite) (compact : Bool)
    (hflags : h.flags &&& 0x0C = 0)
    (hb : b = withCrc (frameBody S Z pkt compact (headerBytes S pkt.ty h compact))) :
    isV4FrameFlags (b.getD 0 0) = true ∧ ¬ b.length < 2 + kCrcBytes ∧ crcValid b ∧ ∃ i j crc,
      (Read.v4Head S b).value 0 =
        (if (wireEndpoints S pkt.endpoints).length ≠ pkt.endpoints.length % 256 then none
        else some (frameV4Head S Z pkt compact, i)) ∧
      (Read.v4Reliable S b (frameV4Head S Z pkt compact)).value i =
        some (if S.hasV4ReliableHeader pkt.ty then some h else none, j) ∧
      j + (maybeCompress Z pkt.payload).1.length + kCrcBytes = b.length ∧
      Continues b j (maybeCompress Z pkt.payload).1 crc := by
  have hcrc := hb ▸ crcValid_withCrc (frameBody S Z pkt compact (headerBytes S pkt.ty h compact))
  obtain ⟨crc, hlayout, hcrcLen, hrest⟩ := frame_layout hb
  have hblen : b.length = (frameHead S pkt (frameFlags (maybeCompress Z pkt.payload).2 compact)).length +
      (headerBytes S pkt.ty h compact).length + (maybeCompress Z pkt.payload).1.length + kCrcBytes := by
    rw [hlayout]
    simp only [List.length_append, hcrcLen]
    omega
  obtain ⟨hfirst, -, -, -, -, i7, -, -, -, -, -, hend⟩ := frameHead_reads pkt hlayout hrest
  have hv4 : isV4FrameFlags (b.getD 0 0) = true := by
    rw [hfirst]
    exact isV4FrameFlags_frameFlags _ _
  have hlong : ¬ b.length < 2 + kCrcBytes := by
    have : kV4EndpointBitmapBytes = 32 := rfl
    omega
  have hcont : Continues b (frameHead S pkt (frameFlags (maybeCompress Z pkt.payload).2 compact)).length
      (headerBytes S pkt.ty h compact) ((maybeCompress Z pkt.payload).1 ++ crc) := by
    rw [Continues, hlayout, List.drop_left]
  have hrel := v4Reliable_frame (b := b) (frameV4Head S Z pkt compact)
    (frameFlags_bits _ compact).2.2.2.2 hflags hcont (by dsimp only [frameV4Head]; omega)
  exact ⟨hv4, hlong, hcrc, _, _, crc, v4Head_frame pkt hlayout hrest hty hvalid, hrel,
    by dsimp only [frameV4Head]; omega, hcont.next⟩

/-- `peek_frame_info` on a written frame: rejected exactly when the endpoint count does not match
    the bitmap. -/
theorem peekFrameInfo_frame (pkt : PacketData) (hty : S.localTypeId (S.v4TypeId pkt.ty) = some pkt.ty)
    (hvalid : S.validType pkt.ty = true) (h : ReliableHeaderLite) (compact : Bool)
    (hflags : h.flags &&& 0x0C = 0)
    (hb : b = withCrc (frameBody S Z pkt compact (headerBytes S pkt.ty h compact))) (verifyCrc : Bool) :
    peekFrameInfo S Z b verifyCrc =
      if (wireEndpoints S pkt.endpoints).length ≠ pkt.endpoints.length % 256 then none
      else some ⟨⟨pkt.ty, wireEndpoints S pkt.endpoints,
          addrSender (senderAddressU32 pkt.sender).toUInt64, pkt.timestamp⟩,
        if S.hasV4ReliableHeader pkt.ty then some h else none⟩ := by
  obtain ⟨hv4, hlong, hcrc, i, j, crc, hhead, hrel, -⟩ := frame_walk pkt hty hvalid h compact hflags hb
  have hpass : ¬ (b.length < 2 + kCrcBytes ∨ verifyCrc = true ∧ ¬crcValid b) := by
    simp [hlong, hcrc]
  unfold peekFrameInfo
  rw [Read.value_peekFrameInfo, if_neg hpass, if_pos hv4, Read.peekV4_eq]
  by_cases hcount : (wireEndpoints S pkt.endpoints).length ≠ pkt.endpoints.length % 256
  · rw [if_pos hcount] at hhead
    rw [if_pos hcount, Reader.value_bind, hhead, Option.bind_none, Option.map_none]
  · rw [if_neg hcount] at hhead
    rw [if_neg hcount, Reader.value_bind_of hhead]
    unfold Read.v4FrameTail
    rw [Reader.value_bind_of hrel]
    rfl

/-- `deserialize_packet` on a written frame that is not an ACK. -/
theorem deserializePacket_frame (hZ : Z.Lossless) (pkt : PacketData) (hsize : pkt.payload.length < 2 ^ 64)
    (hty : S.localTypeId (S.v4TypeId pkt.ty) = some pkt.ty) (hvalid : S.validType pkt.ty = true)
    (h : ReliableHeaderLite) (compact : Bool) (hflags : h.flags &&& 0x0C = 0) (hack : h.flags &&& 0x01 = 0)
    (hb : b = withCrc (frameBody S Z pkt compact (headerBytes S pkt.ty h compact))) :
    deserializePacket S Z b =
      if (wireEndpoints S pkt.endpoints).length ≠ pkt.endpoints.length % 256 then none
      else some (framePacket S pkt) := by
  obtain ⟨hv4, hlong, hcrc, i, j, crc, hhead, hrel, hend, hcont⟩ :=
    frame_walk pkt hty hvalid h compact hflags hb
  have hpass : ¬ (b.length < 2 + kCrcBytes ∨ ¬crcValid b) := by
    simp [hlong, hcrc]
  unfold deserializePacket
  rw [Read.value_deserializePacket, if_neg hpass, if_pos hv4, Read.deserializeV4_eq]
  by_cases hcount : (wireEndpoints S pkt.endpoints).length ≠ pkt.endpoints.length % 256
  · rw [if_pos hcount] at hhead
    rw [if_pos hcount, Reader.value_bind, hhead, Option.bind_none, Option.map_none]
  · rw [if_neg hcount] at hhead
    rw [if_neg hcount, Reader.value_bind_of hhead]
    have hnotAck : ¬ Read.ackOnlyHeader
        (if S.hasV4ReliableHeader pkt.ty then some h else none) = true := by
      cases S.hasV4ReliableHeader pkt.ty <;> simp [Read.ackOnlyHeader, hack]
    have hfull : ¬ pkt.payload.length ≠ (UInt64.ofNat pkt.payload.length).toNat := by
      rw [UInt64.toNat_ofNat', Nat.mod_eq_of_lt hsize]
      simp
    have hpayload : payloadAt Z b (frameV4Head S Z pkt compact).flags (frameV4Head S Z pkt compact).logicalSize j =
        pkt.payload := payloadAt_frame hZ pkt hsize hend hcont
    unfold Read.v4PacketTail
    rw [Reader.value_bind_of hrel, Reader.value_rejectIf_bind, if_neg hnotAck, Read.value_v4Payload,
      hpayload]
    exact congrArg (Option.map Prod.fst) (if_neg hfull)

end

/-! ## `serialize_packet` -/

section

variable {S : Schema} {Z : Codec}

/-- Outside hop ACKs, `serialize_packet` writes a frame of the common layout with an
    unsequenced header. -/
theorem serializePacket_frame {pkt : PacketData} (hnot : isHopAck pkt = false) :
    ∃ compact, serializePacket S Z pkt = withCrc (frameBody S Z pkt compact
      (headerBytes S pkt.ty ⟨kV4ReliableFlagUnsequenced, 0, 0⟩ compact)) := by
  unfold serializePacket
  rw [hnot, if_neg (by simp)]
  cases hhas : S.hasV4ReliableHeader pkt.ty with
  | true =>
    refine ⟨shouldCompactReliableHeader ⟨kV4ReliableFlagUnsequenced, 0, 0⟩, ?_⟩
    rw [if_pos rfl, serializePacketWithReliable, reliableFrameBody_eq, headerBytes]
  | false =>
    refine ⟨false, ?_⟩
    rw [headerBytes, hhas, if_neg (by simp), if_neg (by simp), plainFrameBody_eq]

/-- Reading back what `serialize_packet` wrote, for a type its own wire id leads back to. -/
theorem deserializePacket_serializePacket (hZ : Z.Lossless) {pkt : PacketData}
    (hsize : pkt.payload.length < 2 ^ 64) (hnot : isHopAck pkt = false)
    (hty : S.localTypeId (S.v4TypeId pkt.ty) = some pkt.ty) (hvalid : S.validType pkt.ty = true) :
    deserializePacket S Z (serializePacket S Z pkt) =
      if (wireEndpoints S pkt.endpoints).length ≠ pkt.endpoints.length % 256 then none
      else some (framePacket S pkt) := by
  obtain ⟨compact, hframe⟩ := serializePacket_frame (S := S) (Z := Z) hnot
  exact deserializePacket_frame hZ pkt hsize hty hvalid ⟨kV4ReliableFlagUnsequenced, 0, 0⟩ compact
    (by decide) (by decide) hframe

/-- Whatever comes back has the type the written wire id leads to. -/
theorem deserializePacket_serializePacket_ty {pkt q : PacketData} (hnot : isHopAck pkt = false)
    (h : deserializePacket S Z (serializePacket S Z pkt) = some q) :
    S.localTypeId (S.v4TypeId pkt.ty) = some q.ty := by
  obtain ⟨compact, hframe⟩ := serializePacket_frame (S := S) (Z := Z) hnot
  obtain ⟨crc, hlayout, -, hrest⟩ := frame_layout hframe
  obtain ⟨hfirst, -, i3, -, -, -, hread, -⟩ := frameHead_reads pkt hlayout hrest
  have hv4 : isV4FrameFlags ((serializePacket S Z pkt).getD 0 0) = true := by
    rw [hfirst]
    exact isV4FrameFlags_frameFlags _ _
  obtain ⟨hd, i, hhead, hty, -⟩ := deserializePacket_v4Head hv4 h
  obtain ⟨-, wireTy, j3, -, -, -, -, -, hread', -, -, -, -, hlocal, -⟩ := Read.v4Head_eq_some hhead
  rw [hread, Option.some.injEq, Prod.mk.injEq] at hread'
  rw [← hread'.1, UInt32.toUInt32_toUInt64] at hlocal
  rw [hlocal, hty]

end

/-! ## Canonical packets -/

/-- A built-in type is reached by its wire id; any other type has a user id. -/
def canonicalType (S : Schema) (ty : UInt32) : Prop :=
  S.validType ty = true ∧
    if (S.typeAt ty.toNat).name ∈ Schema.v4TypeNames then S.localTypeId (S.v4TypeId ty) = some ty
    else 100 ≤ ty

/-- An endpoint that is on the wire under its own id. -/
def canonicalEndpoint (S : Schema) (ep : UInt32) : Prop :=
  S.validEndpoint ep = true ∧ 100 ≤ ep ∧ ep ≤ 255

/-- The packets whose wire form loses nothing but the sender. The payload is a
    `std::vector`, so its size is a `size_t`. -/
structure CanonicalPacket (S : Schema) (pkt : PacketData) : Prop where
  ty : canonicalType S pkt.ty
  endpoint : ∀ ep ∈ pkt.endpoints, canonicalEndpoint S ep
  distinct : pkt.endpoints.Nodup
  size : pkt.payload.length < 2 ^ 64
  notHopAck : isHopAck pkt = false

theorem canonicalType.localTypeId_v4TypeId {S : Schema} {ty : UInt32} (h : canonicalType S ty) :
    S.localTypeId (S.v4TypeId ty) = some ty := by
  obtain ⟨hvalid, h⟩ := h
  split at h
  · exact h
  · rename_i huser
    have hidx : Schema.v4TypeNames.idxOf? (S.typeAt ty.toNat).name = none := by
      rwa [List.idxOf?_eq_none_iff]
    have hnat : 100 ≤ ty.toNat := by simpa [UInt32.le_iff_toNat_le] using h
    have hbuiltin : Schema.v4TypeNames[ty.toNat]? = none := by
      rw [List.getElem?_eq_none_iff]
      have : Schema.v4TypeNames.length = 19 := rfl
      omega
    unfold Schema.v4TypeId Schema.localTypeId
    simp only [hvalid, if_true, hidx, ge_iff_le, h, hbuiltin]

theorem canonicalEndpoint.wire {S : Schema} {ep : UInt32} (h : canonicalEndpoint S ep) :
    S.v4EndpointId ep = ep ∧ S.localEndpointId ep = some ep ∧ ep.toNat < 256 := by
  obtain ⟨hvalid, hlo, hhi⟩ := h
  obtain ⟨name, hname⟩ := Schema.validEndpoint_iff.mp hvalid
  refine ⟨?_, ?_, ?_⟩
  · unfold Schema.v4EndpointId
    simp only [hname, ge_iff_le, hlo, if_true]
  · unfold Schema.localEndpointId
    cases Schema.builtinEndpointName ep with
    | none => simp only [ge_iff_le, hlo, hvalid, if_true]
    | some builtin => simp only [hvalid, if_true]
  · have : ep.toNat ≤ 255 := by simpa [UInt32.le_iff_toNat_le] using hhi
    omega

/-- The endpoints of a frame: whatever a wire id of the bitmap leads back to. -/
theorem mem_wireEndpoints {S : Schema} {endpoints : List UInt32} {x : UInt32} :
    x ∈ wireEndpoints S endpoints ↔ ∃ ep ∈ endpoints, (S.v4EndpointId ep).toNat < 256 ∧
      S.localEndpointId (S.v4EndpointId ep) = some x := by
  unfold wireEndpoints
  simp only [List.mem_filterMap, List.mem_range, Option.ite_none_right_eq_some, List.mem_map]
  constructor
  · rintro ⟨i, hi, ⟨ep, hep, rfl⟩, hx⟩
    rw [UInt32.ofNat_toNat] at hx
    exact ⟨ep, hep, hi, hx⟩
  · rintro ⟨ep, hep, hlt, hx⟩
    exact ⟨(S.v4EndpointId ep).toNat, hlt, ⟨ep, hep, rfl⟩, by rw [UInt32.ofNat_toNat]; exact hx⟩

/-- When every wire id of a frame leads back to the endpoint it was written for, the endpoints
    come back in the order of their wire ids. -/
theorem wireEndpoints_pairwise {S : Schema} {endpoints : List UInt32}
    (h : ∀ ep ∈ endpoints, S.localEndpointId (S.v4EndpointId ep) = some ep) :
    (wireEndpoints S endpoints).Pairwise
      fun x y => (S.v4EndpointId x).toNat < (S.v4EndpointId y).toNat := by
  have hback : ∀ i x, (if i ∈ endpoints.map (fun ep => (S.v4EndpointId ep).toNat) then
      S.localEndpointId (UInt32.ofNat i) else none) = some x → (S.v4EndpointId x).toNat = i := by
    intro i x hx
    simp only [Option.ite_none_right_eq_some, List.mem_map] at hx
    obtain ⟨⟨ep, hep, rfl⟩, hx⟩ := hx
    rw [UInt32.ofNat_toNat, h ep hep, Option.some.injEq] at hx
    rw [hx]
  unfold wireEndpoints
  rw [List.pairwise_filterMap]
  refine List.pairwise_lt_range.imp ?_
  intro i j hij x hx y hy
  rw [hback i x hx, hback j y hy]
  exact hij

/-- Canonical endpoints come back as the same set, in ascending order. -/
theorem wireEndpoints_canonical {S : Schema} {endpoints : List UInt32}
    (h : ∀ ep ∈ endpoints, canonicalEndpoint S ep) (hnodup : endpoints.Nodup) :
    wireEndpoints S endpoints = endpoints.mergeSort (fun x y => decide (x ≤ y)) := by
  have hback : ∀ ep ∈ endpoints, S.localEndpointId (S.v4EndpointId ep) = some ep := by
    intro ep hep
    rw [(h ep hep).wire.1]
    exact (h ep hep).wire.2.1
  have hmem : ∀ x, x ∈ wireEndpoints S endpoints ↔ x ∈ endpoints := by
    intro x
    rw [mem_wireEndpoints]
    constructor
    · rintro ⟨ep, hep, -, hx⟩
      rw [hback ep hep, Option.some.injEq] at hx
      exact hx ▸ hep
    · intro hx
      refine ⟨x, hx, ?_, hback x hx⟩
      rw [(h x hx).wire.1]
      exact (h x hx).wire.2.2
  have hsorted : (wireEndpoints S endpoints).Pairwise (· < ·) := by
    refine (wireEndpoints_pairwise hback).imp_of_mem ?_
    intro x y hx hy hxy
    rw [(h x ((hmem x).mp hx)).wire.1, (h y ((hmem y).mp hy)).wire.1] at hxy
    exact UInt32.lt_iff_toNat_lt.mpr hxy
  have hperm : (wireEndpoints S endpoints).Perm (endpoints.mergeSort (fun x y => decide (x ≤ y))) := by
    have hnodup' : (wireEndpoints S endpoints).Nodup := hsorted.imp UInt32.ne_of_lt
    have hset : (wireEndpoints S endpoints).Perm endpoints :=
      (List.perm_ext_iff_of_nodup hnodup' hnodup).mpr hmem
    exact hset.trans (List.mergeSort_perm endpoints _).symm
  have hsort := @List.pairwise_mergeSort UInt32 (fun x y => decide (x ≤ y))
    (fun x y z hxy hyz => by simpa using UInt32.le_trans (by simpa using hxy) (by simpa using hyz))
    (fun x y => by simpa using UInt32.le_total x y) endpoints
  exact @List.Perm.eq_of_pairwise UInt32 (· ≤ ·) _ _ (fun x y _ _ => UInt32.le_antisymm)
    (hsorted.imp UInt32.le_of_lt) (hsort.imp fun hxy => by simpa using hxy) hperm

/-- Distinct canonical endpoints fit the one-byte count. -/
theorem length_lt_of_canonical {S : Schema} {endpoints : List UInt32}
    (h : ∀ ep ∈ endpoints, canonicalEndpoint S ep) (hnodup : endpoints.Nodup) :
    endpoints.length < 256 := by
  have hids : (endpoints.map UInt32.toNat).Nodup :=
    List.Nodup.map (fun x y hxy => UInt32.toNat_inj.mp hxy) hnodup
  have hrange : endpoints.map UInt32.toNat ⊆ List.range' 100 156 := by
    intro i hi
    obtain ⟨ep, hep, rfl⟩ := List.mem_map.mp hi
    have hlo : 100 ≤ ep.toNat := UInt32.le_iff_toNat_le.mp (h ep hep).2.1
    have hlt := (h ep hep).wire.2.2
    rw [List.mem_range'_1]
    omega
  have hlen := (List.subperm_of_subset hids hrange).length_le
  rw [List.length_map, List.length_range'] at hlen
  omega

/-! ## The round trip -/

/-- The bytes of a frame do not depend on the order of the endpoints. -/
theorem serializePacket_perm {S : Schema} {Z : Codec} {pkt : PacketData} {endpoints : List UInt32}
    (h : endpoints.Perm pkt.endpoints) :
    serializePacket S Z { pkt with endpoints := endpoints } = serializePacket S Z pkt := by
  have hbitmap : v4EndpointBitmap S endpoints = v4EndpointBitmap S pkt.endpoints := by
    rw [v4EndpointBitmap_eq_setBits, v4EndpointBitmap_eq_setBits]
    exact setBits_perm ((h.map _).filter _) _
  have hack : isHopAck { pkt with endpoints := endpoints } = isHopAck pkt := rfl
  unfold serializePacket
  rw [hack]
  unfold serializePacketWithReliable reliableFrameBody plainFrameBody
  dsimp only
  rw [hbitmap, h.length_eq]

theorem flags_within (f : UInt8) (h : f &&& ~~~(0x01 ||| 0x02 ||| 0x80) = 0) : f &&& 0x0C = 0 := by
  have hsub : (0x0C : UInt8) = ~~~(0x01 ||| 0x02 ||| 0x80) &&& 0x0C := by decide
  rw [hsub, ← UInt8.and_assoc, h, UInt8.zero_and]

/-- **The v4 round trip.** A canonical packet comes back with its endpoints in ascending order
    and the sender replaced by its address; its frame does not depend on the order the
    endpoints were given in; and a reliable header comes back exactly. -/
theorem serializePacket_roundTrip (S : Schema) (Z : Codec) (hZ : Z.Lossless) (pkt : PacketData)
    (hpkt : CanonicalPacket S pkt) :
    deserializePacket S Z (serializePacket S Z pkt) =
      some { pkt with
        sender := addrSender (senderAddressU32 pkt.sender).toUInt64
        endpoints := pkt.endpoints.mergeSort (fun x y => decide (x ≤ y)) } ∧
    (∀ endpoints, endpoints.Perm pkt.endpoints →
      serializePacket S Z { pkt with endpoints := endpoints } = serializePacket S Z pkt) ∧
    (S.hasV4ReliableHeader pkt.ty = true → ∀ h : ReliableHeaderLite,
      h.flags &&& ~~~(0x01 ||| 0x02 ||| 0x80) = 0 → ∀ verifyCrc, ∃ f,
        peekFrameInfo S Z (serializePacketWithReliable S Z pkt h) verifyCrc = some f ∧
          f.reliable = some h) := by
  have hendpoints := wireEndpoints_canonical hpkt.endpoint hpkt.distinct
  have hty := hpkt.ty.localTypeId_v4TypeId
  have hcount : ¬ (wireEndpoints S pkt.endpoints).length ≠ pkt.endpoints.length % 256 := by
    have hsmall := length_lt_of_canonical hpkt.endpoint hpkt.distinct
    rw [hendpoints, (List.mergeSort_perm _ _).length_eq, Nat.mod_eq_of_lt hsmall]
    simp
  refine ⟨?_, ?_, ?_⟩
  · rw [deserializePacket_serializePacket hZ hpkt.size hpkt.notHopAck hty hpkt.ty.1, if_neg hcount,
      framePacket, hendpoints]
  · intro endpoints hperm
    exact serializePacket_perm hperm
  · intro hhas h hflags verifyCrc
    have hpeek := peekFrameInfo_frame pkt hty hpkt.ty.1 h _ (flags_within _ hflags)
      (serializePacketWithReliable_frame S Z pkt h) verifyCrc
    rw [if_neg hcount, hhas, if_pos rfl] at hpeek
    exact ⟨_, hpeek, rfl⟩

theorem serializePacket_roundTrip_gps :
    deserializePacket defaultTestSchema (.absent 16)
        (serializePacket defaultTestSchema (.absent 16) gpsPacket) =
      some ⟨100, addrSender 488734002, [100, 101], 123, gpsPacket.payload⟩ := by
  have hpkt : CanonicalPacket defaultTestSchema gpsPacket :=
    ⟨by unfold canonicalType; decide +kernel,
      by unfold canonicalEndpoint; decide +kernel, by decide, by decide, by decide⟩
  rw [(serializePacket_roundTrip defaultTestSchema (.absent 16) (Codec.absent_lossless 16) gpsPacket
    hpkt).1, ← wireEndpoints_canonical hpkt.endpoint hpkt.distinct]
  decide +kernel

end SedsNet
