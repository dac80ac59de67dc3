import SedsNet.Hash
import SedsNet.Tables
import SedsNet.Lib.BitMap

/-!
# Writing v4 frames

`write_uleb128`, `v4_endpoint_bitmap`, `write_v4_reliable_header` and the three
`serialize_*` functions of `src/serialize.cpp`.

`Codec` stands for the zstd library and the build switch around it: a build without
`SEDS_HAS_ZSTD` is the codec whose two functions answer `none`.
-/

set_option autoImplicit false

namespace SedsNet

open Lib

/-- `ZSTD_compress` at level 1 and `ZSTD_decompress` into a buffer of the given size
    (`none`: `ZSTD_isError`), with `runtime_payload_compress_threshold()`. -/
structure Codec where
  threshold : Nat
  compress : Bytes → Option Bytes
  decompress : Bytes → Nat → Option Bytes

/-- What the code relies on: decompressing a compressed buffer with its true length returns
    the buffer. -/
def Codec.Lossless (Z : Codec) : Prop :=
  ∀ data out, Z.compress data = some out → Z.decompress out data.length = some data

/-- A build without zstd. -/
def Codec.absent (threshold : Nat) : Codec := ⟨threshold, fun _ => none, fun _ _ => none⟩

theorem Codec.absent_lossless (threshold : Nat) : (Codec.absent threshold).Lossless := by
  intro data out h
  simp [Codec.absent] at h

/-! ## Fields -/

/-- The `do .. while (value != 0)` loop; ten rounds are enough for 64 bits. -/
def writeUleb128Loop : Nat → UInt64 → Bytes
  | 0, _ => []
  | rounds + 1, value =>
    let byte := (value &&& 0x7F).toUInt8
    let value := value >>> 7
    if value ≠ 0 then (byte ||| 0x80) :: writeUleb128Loop rounds value else [byte]

def writeUleb128 (value : UInt64) : Bytes := writeUleb128Loop 10 value

def v4EndpointBitmap (S : Schema) (endpoints : List UInt32) : Bytes :=
  endpoints.foldl
    (fun bitmap ep =>
      let wire := S.v4EndpointId ep
      if wire.toNat < kV4EndpointBitmapBytes * 8 then setBit bitmap wire.toNat else bitmap)
    (List.replicate kV4EndpointBitmapBytes 0)

/-- `maybe_compress`: the bytes for the wire and whether they are compressed. -/
def maybeCompress (Z : Codec) (data : Bytes) : Bytes × Bool :=
  if data.length ≥ Z.threshold then
    match Z.compress data with
    | some out => if out.length < data.length then (out, true) else (data, false)
    | none => (data, false)
  else (data, false)

def shouldCompactReliableHeader (header : ReliableHeaderLite) : Bool :=
  header.flags &&& kV4ReliableFlagAckOnly != 0 || header.seq == 0 || header.ack == 0

def writeV4ReliableHeader (header : ReliableHeaderLite) (compact : Bool) : Bytes :=
  if !compact then header.flags :: (appendLe32 header.seq ++ appendLe32 header.ack)
  else
    let seqPresent := header.flags &&& kV4ReliableFlagAckOnly == 0 || header.seq != 0
    let ackPresent := header.ack != 0 || header.flags &&& kV4ReliableFlagAckOnly != 0
    let flags := header.flags
    let flags := if seqPresent then flags ||| kV4ReliableWireSeqPresent else flags
    let flags := if ackPresent then flags ||| kV4ReliableWireAckPresent else flags
    flags :: ((if seqPresent then writeUleb128 header.seq.toUInt64 else []) ++
      (if ackPresent then writeUleb128 header.ack.toUInt64 else []))

/-! ## Frames -/

section

variable (S : Schema) (Z : Codec)

/-- The frame of `bytes`: the CRC of everything before it goes last. -/
def withCrc (out : Bytes) : Bytes := out ++ appendLe32 (crc32Bytes out)

/-- `serialize_packet_with_reliable` up to the CRC. -/
def reliableFrameBody (pkt : PacketData) (header : ReliableHeaderLite) : Bytes :=
  let (payloadWire, payloadCompressed) := maybeCompress Z pkt.payload
  let compactReliable := shouldCompactReliableHeader header
  let flags : UInt8 := 0
  let flags := if payloadCompressed then flags ||| kV4FlagCompressedPayload else flags
  let flags := flags ||| kV4FlagEndpointBitmapPresent
  let flags := if compactReliable then flags ||| kV4FlagCompactReliableHeader else flags
  [flags, UInt8.ofNat pkt.endpoints.length] ++
    writeUleb128 (S.v4TypeId pkt.ty).toUInt64 ++
    writeUleb128 (UInt64.ofNat pkt.payload.length) ++
    writeUleb128 pkt.timestamp ++
    writeUleb128 (senderAddressU32 pkt.sender).toUInt64 ++
    v4EndpointBitmap S pkt.endpoints ++
    (if S.hasV4ReliableHeader pkt.ty then writeV4ReliableHeader header compactReliable else []) ++
    payloadWire

def serializePacketWithReliable (pkt : PacketData) (header : ReliableHeaderLite) : Bytes :=
  withCrc (reliableFrameBody S Z pkt header)

/-- `serialize_reliable_ack` up to the CRC. -/
def reliableAckBody (sender : Bytes) (ty : UInt32) (timestampMs : UInt64) (ack : UInt32) : Bytes :=
  [kV4FlagEndpointBitmapPresent ||| kV4FlagCompactReliableHeader, 0] ++
    writeUleb128 (S.v4TypeId ty).toUInt64 ++
    writeUleb128 0 ++
    writeUleb128 timestampMs ++
    writeUleb128 (senderAddressU32 sender).toUInt64 ++
    List.replicate kV4EndpointBitmapBytes 0 ++
    writeV4ReliableHeader ⟨kV4ReliableFlagAckOnly, 0, ack⟩ true

def serializeReliableAck (sender : Bytes) (ty : UInt32) (timestampMs : UInt64) (ack : UInt32) : Bytes :=
  withCrc (reliableAckBody S sender ty timestampMs ack)

/-- The tail of `serialize_packet`: a frame without reliable header, up to the CRC. -/
def plainFrameBody (pkt : PacketData) : Bytes :=
  let (payloadWire, payloadCompressed) := maybeCompress Z pkt.payload
  let flags : UInt8 := 0
  let flags := if payloadCompressed then flags ||| kV4FlagCompressedPayload else flags
  let flags := flags ||| kV4FlagEndpointBitmapPresent
  [flags, UInt8.ofNat pkt.endpoints.length] ++
    writeUleb128 (S.v4TypeId pkt.ty).toUInt64 ++
    writeUleb128 (UInt64.ofNat pkt.payload.length) ++
    writeUleb128 pkt.timestamp ++
    writeUleb128 (senderAddressU32 pkt.sender).toUInt64 ++
    v4EndpointBitmap S pkt.endpoints ++
    payloadWire

/-- The packets `serialize_packet` turns into a hop ACK: an 8-byte RELIABLE_ACK whose sender
    does not start with `E2EACK:`. -/
def isHopAck (pkt : PacketData) : Bool :=
  pkt.ty == SEDS_DT_RELIABLE_ACK && pkt.payload.length == 8 && !(ascii "E2EACK:").isPrefixOf pkt.sender

def serializePacket (pkt : PacketData) : Bytes :=
  if isHopAck pkt then
    let ackedTy := loadLe32 pkt.payload 0
    let ack := loadLe32 pkt.payload 4
    let ackedTy := (S.localTypeId ackedTy).getD ackedTy
    serializeReliableAck S pkt.sender ackedTy pkt.timestamp ack
  else if S.hasV4ReliableHeader pkt.ty then
    serializePacketWithReliable S Z pkt ⟨kV4ReliableFlagUnsequenced, 0, 0⟩
  else withCrc (plainFrameBody S Z pkt)

end

end SedsNet
