import SedsNet.Lib.Reader
import SedsNet.Wire.Encode

/-!
# The three frame parsers

`deserialize_packet`, `peek_frame_info` and `reliable_header_offset` of
`src/serialize.cpp`, over both frame formats. The source writes each of them as its own
cursor walk, so each has its own body here.

The parsers run in `Lib.Reader`, whose cursor is the offset of `cur` from `bytes`, and
record what they touch as `Access`es: reads of the buffer, moves of the cursor, rows of
`kTypeInfo`, compared endpoint names. Reads past the end answer some byte and are recorded
like any other, so that staying in bounds is a property to prove and not an assumption.
The null-pointer check at the head of each function is the absence of a buffer and is not
modelled.
-/

set_option autoImplicit false

namespace SedsNet

open Lib

/-- What a parser touches. -/
inductive Access where
  /-- `n` bytes of the buffer from offset `lo` -/
  | read (lo n : Nat)
  /-- the four trailing bytes, for the CRC comparison -/
  | readCrc
  /-- the cursor was moved to this offset -/
  | seek (pos : Nat)
  /-- `kTypeInfo[i]`, outside the bounds-checked scans of `valid_type` and `by_name` -/
  | typeInfo (i : Nat)
  /-- `kEndpointNames[i]` compared with a string -/
  | endpointName (i : Nat)
  /-- a reliable header starts at this offset -/
  | reliableHeader (pos : Nat)
  deriving DecidableEq, Repr

abbrev Parse (α : Type) : Type := Reader Access α

/-- `is_v4_frame_flags`; `~(..)` leaves the bits `0x82` of a byte. -/
def isV4FrameFlags (flags : UInt8) : Bool :=
  flags &&& (0x04 ||| 0x08 ||| 0x10 ||| kV4FlagEndpointBitmapPresent ||| kV4FlagCompactReliableHeader) != 0 ||
    flags &&& ~~~(kV4FlagCompressedPayload ||| 0x04 ||| 0x08 ||| 0x10 ||| kV4FlagEndpointBitmapPresent |||
      kV4FlagCompactReliableHeader) != 0

/-- `static_cast<size_t>(end - cur)`. -/
def remaining (endp cur : Nat) : Nat := if cur ≤ endp then endp - cur else 2 ^ 64 - (cur - endp)

/-- `"@addr:" + std::to_string(address)`. -/
def addrSender (address : UInt64) : Bytes := ascii "@addr:" ++ toDecimal address.toNat

/-- What `maybe_decompress` makes of the bytes it is handed. -/
def maybeDecompress (Z : Codec) (data : Bytes) (logicalLen : Nat) (compressed : Bool) : Bytes :=
  if !compressed then data
  else
    match Z.decompress data logicalLen with
    | some out => if out.length = logicalLen then out else []
    | none => []

/-- `parse_v4_bitmap`. -/
def parseV4Bitmap (S : Schema) (bitmap : Bytes) (len : Nat) : List UInt32 :=
  (List.range (len * 8)).filterMap fun i =>
    if bitSet bitmap i then S.localEndpointId (UInt32.ofNat i) else none

/-- The endpoint names `parse_v4_bitmap` compares on the way. -/
def v4BitmapScan (S : Schema) (bitmap : Bytes) (len : Nat) : List Nat :=
  (List.range (len * 8)).flatMap fun i =>
    if bitSet bitmap i then S.endpointScan (UInt32.ofNat i) else []

/-- `parse_bitmap`. -/
def parseBitmap (S : Schema) (bitmap : Bytes) (len : Nat) : List UInt32 :=
  ((List.range (min (len * 8) S.kEndpointCount.toNat)).filter fun i => bitSet bitmap i).map UInt32.ofNat

namespace Read

/-! ## Cursor steps -/

/-- `*cur++`. -/
def next (b : Bytes) : Parse UInt8 := fun i => (some (b.getD i 0, i + 1), [.read i 1, .seek (i + 1)])

/-- Look at `n` bytes without moving. -/
def look (b : Bytes) (n : Nat) : Parse Bytes := fun i => (some ((b.drop i).take n, i), [.read i n])

/-- `cur += n`. -/
def skip (n : Nat) : Parse Unit := Reader.advance n .seek

def typeInfoAt (S : Schema) (i : Nat) : Parse TypeInfo := do
  Reader.emit (.typeInfo i)
  pure (S.typeAt i)

def hasV4ReliableHeader (S : Schema) (ty : UInt32) : Parse Bool := do
  if S.validType ty then Reader.emit (.typeInfo ty.toNat)
  pure (S.hasV4ReliableHeader ty)

/-- The `for (int i = 0; i < 10; ++i)` loop of `read_uleb128`. -/
def readUleb128Loop (b : Bytes) (endp : Nat) : Nat → UInt64 → UInt64 → Parse UInt64
  | 0, _, _ => Reader.fail
  | rounds + 1, shift, out => do
    let cur ← Reader.tell
    Reader.rejectIf (cur ≥ endp)
    let byte ← next b
    let out := out ||| ((byte &&& 0x7F).toUInt64 <<< shift)
    if byte &&& 0x80 = 0 then pure out else readUleb128Loop b endp rounds (shift + 7) out

def readUleb128 (b : Bytes) (endp : Nat) : Parse UInt64 := readUleb128Loop b endp 10 0 0

/-- A varint field of the compact reliable header: absent, or a 32-bit value. -/
def readCompactField (b : Bytes) (endp : Nat) (present : Bool) : Parse UInt32 :=
  if present then do
    let v ← readUleb128 b endp
    Reader.rejectIf (v > 0xFFFFFFFF)
    pure v.toUInt32
  else pure 0

def readV4ReliableHeader (b : Bytes) (endp : Nat) (compact : Bool) : Parse ReliableHeaderLite := do
  let cur ← Reader.tell
  Reader.rejectIf (cur ≥ endp)
  Reader.emit (.reliableHeader cur)
  let flags ← next b
  if !compact then
    let cur ← Reader.tell
    Reader.rejectIf (remaining endp cur < 8)
    let _ ← look b 8
    skip 8
    pure ⟨flags, loadLe32 b cur, loadLe32 b (cur + 4)⟩
  else
    let seq ← readCompactField b endp (flags &&& kV4ReliableWireSeqPresent != 0)
    let ack ← readCompactField b endp (flags &&& kV4ReliableWireAckPresent != 0)
    pure ⟨flags &&& ~~~(kV4ReliableWireSeqPresent ||| kV4ReliableWireAckPresent), seq, ack⟩

/-- `parse_v4_bitmap(cur, kV4EndpointBitmapBytes)`, with the bytes and names it looks at. -/
def v4Bitmap (S : Schema) (b : Bytes) : Parse (List UInt32) := do
  let bitmap ← look b kV4EndpointBitmapBytes
  Reader.emitAll ((v4BitmapScan S bitmap kV4EndpointBitmapBytes).map .endpointName)
  pure (parseV4Bitmap S bitmap kV4EndpointBitmapBytes)

/-- `maybe_decompress(cur, wire_len, logical_len, compressed)`. -/
def decompress (Z : Codec) (b : Bytes) (wireLen logicalLen : Nat) (compressed : Bool) : Parse Bytes := do
  let data ← look b wireLen
  pure (maybeDecompress Z data logicalLen compressed)

/-- The CRC comparison: everything before the trailer is summed, the trailer is loaded. -/
def checkCrc (b : Bytes) : Parse Unit := do
  Reader.emit (.read 0 (b.length - kCrcBytes))
  Reader.emit .readCrc
  Reader.rejectIf (crc32Bytes (b.take (b.length - kCrcBytes)) ≠ loadLe32 b (b.length - kCrcBytes))

/-! ## `deserialize_packet` -/

section

variable (S : Schema) (Z : Codec) (b : Bytes)

def deserializeV4 : Parse PacketData := do
  let endV4 := b.length - kCrcBytes
  let flags ← next b
  let nep ← next b
  let wireTy ← readUleb128 b endV4
  let logicalSize ← readUleb128 b endV4
  let timestamp ← readUleb128 b endV4
  if flags &&& 0x08 ≠ 0 then
    let _nonce ← readUleb128 b endV4
  let sourceAddress ← readUleb128 b endV4
  let some localTy := S.localTypeId wireTy.toUInt32 | Reader.fail
  Reader.rejectIf (S.validType localTy = false)
  let endpoints ←
    if flags &&& kV4FlagEndpointBitmapPresent ≠ 0 then do
      let cur ← Reader.tell
      Reader.rejectIf (remaining endV4 cur < kV4EndpointBitmapBytes)
      let endpoints ← v4Bitmap S b
      skip kV4EndpointBitmapBytes
      pure endpoints
    else do
      let info ← typeInfoAt S localTy.toNat
      pure info.endpoints
  Reader.rejectIf (endpoints.length ≠ nep.toNat)
  if flags &&& 0x04 ≠ 0 then
    let contractLen ← readUleb128 b endV4
    let cur ← Reader.tell
    Reader.rejectIf (remaining endV4 cur < contractLen.toNat)
    skip contractLen.toNat
  if ← hasV4ReliableHeader S localTy then
    let reliable ← readV4ReliableHeader b endV4 (flags &&& kV4FlagCompactReliableHeader != 0)
    Reader.rejectIf (reliable.flags &&& kV4ReliableFlagAckOnly ≠ 0)
  let cur ← Reader.tell
  let payload ← decompress Z b (remaining endV4 cur) logicalSize.toNat (flags &&& kV4FlagCompressedPayload != 0)
  Reader.rejectIf (payload.length ≠ logicalSize.toNat)
  pure ⟨localTy, addrSender sourceAddress, endpoints, timestamp, payload⟩

def deserializeLegacy : Parse PacketData := do
  let endp := b.length - kCrcBytes
  let flags ← next b
  let nep ← next b
  let ty ← readUleb128 b endp
  let logicalSize ← readUleb128 b endp
  let timestamp ← readUleb128 b endp
  let senderLen ← readUleb128 b endp
  let senderWireLen ←
    if flags &&& kFlagCompressedSender ≠ 0 then readUleb128 b endp else pure senderLen
  Reader.rejectIf (S.validType ty.toUInt32 = false)
  let bitmapLen := S.endpointBitmapBytes
  let cur ← Reader.tell
  -- the `size_t` sum wraps
  Reader.rejectIf (remaining endp cur < (UInt64.ofNat bitmapLen + senderWireLen).toNat)
  let bitmap ← look b bitmapLen
  let endpoints := parseBitmap S bitmap bitmapLen
  skip bitmapLen
  Reader.rejectIf (endpoints.length ≠ nep.toNat)
  let senderBytes ← decompress Z b senderWireLen.toNat senderLen.toNat (flags &&& kFlagCompressedSender != 0)
  Reader.rejectIf (senderBytes.length ≠ senderLen.toNat)
  skip senderWireLen.toNat
  let info ← typeInfoAt S ty.toNat
  if info.reliable then
    let cur ← Reader.tell
    Reader.rejectIf (remaining endp cur < kReliableHeaderBytes)
    Reader.emit (.reliableHeader cur)
    let header ← look b 1
    Reader.rejectIf (header.getD 0 0 &&& 0x01 ≠ 0)
    skip kReliableHeaderBytes
  let cur ← Reader.tell
  let payload ← decompress Z b (remaining endp cur) logicalSize.toNat (flags &&& kFlagCompressedPayload != 0)
  Reader.rejectIf (payload.length ≠ logicalSize.toNat)
  pure ⟨ty.toUInt32, senderBytes, endpoints, timestamp, payload⟩

def deserializePacket : Parse PacketData := do
  Reader.rejectIf (b.length < 2 + kCrcBytes)
  checkCrc b
  let v4Flags ← look b 1
  if isV4FrameFlags (v4Flags.getD 0 0) then deserializeV4 S Z b else deserializeLegacy S Z b

/-! ## `peek_frame_info` -/

def peekV4 : Parse FrameInfoLite := do
  let endV4 := b.length - kCrcBytes
  let flags ← next b
  let nep ← next b
  let wireTy ← readUleb128 b endV4
  let _dsz ← readUleb128 b endV4
  let ts ← readUleb128 b endV4
  if flags &&& 0x08 ≠ 0 then
    let _nonce ← readUleb128 b endV4
  let sourceAddress ← readUleb128 b endV4
  let some localTy := S.localTypeId wireTy.toUInt32 | Reader.fail
  Reader.rejectIf (S.validType localTy = false)
  let endpoints ←
    if flags &&& kV4FlagEndpointBitmapPresent ≠ 0 then do
      let cur ← Reader.tell
      Reader.rejectIf (remaining endV4 cur < kV4EndpointBitmapBytes)
      let endpoints ← v4Bitmap S b
      skip kV4EndpointBitmapBytes
      pure endpoints
    else do
      let info ← typeInfoAt S localTy.toNat
      pure info.endpoints
  Reader.rejectIf (endpoints.length ≠ nep.toNat)
  if flags &&& 0x04 ≠ 0 then
    let contractLen ← readUleb128 b endV4
    let cur ← Reader.tell
    Reader.rejectIf (remaining endV4 cur < contractLen.toNat)
    skip contractLen.toNat
  let reliable ←
    if ← hasV4ReliableHeader S localTy then do
      let reliable ← readV4ReliableHeader b endV4 (flags &&& kV4FlagCompactReliableHeader != 0)
      pure (some reliable)
    else pure none
  pure ⟨⟨localTy, endpoints, addrSender sourceAddress, ts⟩, reliable⟩

def peekLegacy : Parse FrameInfoLite := do
  let endp := b.length - kCrcBytes
  let flags ← next b
  let nep ← next b
  let ty ← readUleb128 b endp
  let _dsz ← readUleb128 b endp
  let ts ← readUleb128 b endp
  let senderLen ← readUleb128 b endp
  let senderWireLen ←
    if flags &&& kFlagCompressedSender ≠ 0 then readUleb128 b endp else pure senderLen
  let bitmapLen := S.endpointBitmapBytes
  let cur ← Reader.tell
  Reader.rejectIf (S.validType ty.toUInt32 = false ∨
    remaining endp cur < (UInt64.ofNat bitmapLen + senderWireLen).toNat)
  let bitmap ← look b bitmapLen
  let endpoints := parseBitmap S bitmap bitmapLen
  skip bitmapLen
  Reader.rejectIf (endpoints.length ≠ nep.toNat)
  let senderBytes ← decompress Z b senderWireLen.toNat senderLen.toNat (flags &&& kFlagCompressedSender != 0)
  Reader.rejectIf (senderBytes.length ≠ senderLen.toNat)
  skip senderWireLen.toNat
  let info ← typeInfoAt S ty.toNat
  let reliable ←
    if info.reliable then do
      let cur ← Reader.tell
      Reader.rejectIf (remaining endp cur < kReliableHeaderBytes)
      Reader.emit (.reliableHeader cur)
      let header ← look b kReliableHeaderBytes
      pure (some ⟨header.getD 0 0, loadLe32 b (cur + 1), loadLe32 b (cur + 5)⟩)
    else pure none
  pure ⟨⟨ty.toUInt32, endpoints, senderBytes, ts⟩, reliable⟩

def peekFrameInfo (verifyCrc : Bool) : Parse FrameInfoLite := do
  Reader.rejectIf (b.length < 2 + kCrcBytes)
  if verifyCrc then checkCrc b
  let v4Flags ← look b 1
  if isV4FrameFlags (v4Flags.getD 0 0) then peekV4 S b else peekLegacy S Z b

/-! ## `reliable_header_offset` -/

def offsetV4 : Parse Nat := do
  let endV4 := b.length - kCrcBytes
  let flags ← next b
  skip 1
  let wireTy ← readUleb128 b endV4
  let _dsz ← readUleb128 b endV4
  let _ts ← readUleb128 b endV4
  if flags &&& 0x08 ≠ 0 then
    let _nonce ← readUleb128 b endV4
  let _sourceAddress ← readUleb128 b endV4
  let some localTy := S.localTypeId wireTy.toUInt32 | Reader.fail
  let has ← hasV4ReliableHeader S localTy
  Reader.rejectIf (has = false)
  if flags &&& kV4FlagEndpointBitmapPresent ≠ 0 then
    let cur ← Reader.tell
    Reader.rejectIf (remaining endV4 cur < kV4EndpointBitmapBytes)
    skip kV4EndpointBitmapBytes
  if flags &&& 0x04 ≠ 0 then
    let contractLen ← readUleb128 b endV4
    let cur ← Reader.tell
    Reader.rejectIf (remaining endV4 cur < contractLen.toNat)
    skip contractLen.toNat
  Reader.tell

def offsetLegacy : Parse Nat := do
  let endp := b.length - kCrcBytes
  let flags ← next b
  skip 1
  let ty ← readUleb128 b endp
  let _dsz ← readUleb128 b endp
  let _ts ← readUleb128 b endp
  let senderLen ← readUleb128 b endp
  let senderWireLen ←
    if flags &&& kFlagCompressedSender ≠ 0 then readUleb128 b endp else pure senderLen
  let bitmapLen := S.endpointBitmapBytes
  let cur ← Reader.tell
  Reader.rejectIf (S.validType ty.toUInt32 = false ∨
    remaining endp cur < (UInt64.ofNat bitmapLen + senderWireLen).toNat)
  skip (UInt64.ofNat bitmapLen + senderWireLen).toNat
  let info ← typeInfoAt S ty.toNat
  Reader.rejectIf (info.reliable = false)
  Reader.tell

def reliableHeaderOffset : Parse Nat := do
  Reader.rejectIf (b.length < 2 + kCrcBytes)
  let v4Flags ← look b 1
  if isV4FrameFlags (v4Flags.getD 0 0) then offsetV4 S b else offsetLegacy S b

end

end Read

/-! ## The functions, with their traces forgotten -/

section

variable (S : Schema) (Z : Codec) (b : Bytes)

def deserializePacket : Option PacketData := ((Read.deserializePacket S Z b).value 0).map Prod.fst

def peekFrameInfo (verifyCrc : Bool) : Option FrameInfoLite :=
  ((Read.peekFrameInfo S Z b verifyCrc).value 0).map Prod.fst

def reliableHeaderOffset : Option Nat := ((Read.reliableHeaderOffset S b).value 0).map Prod.fst

def packetIdFromWire : Option UInt64 := (deserializePacket S Z b).map (packetId S)

end

end SedsNet
