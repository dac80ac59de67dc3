import SedsNet.Wire.Fields

/-!
# What the parsers have in common

`deserialize_packet` and `peek_frame_info` repeat the same walk over the head of a frame and
then differ in what they make of the rest. This module names that walk once per format
(`v4Head`, `legacyHead`) and proves that each parser **is** the walk followed by its own
tail. `reliable_header_offset` makes a shorter walk with fewer checks; where the full one
succeeds on a type with a reliable header, it stops at the same offset.

Nothing here is part of the model: the heads are a device for the proofs, and the equations
are what makes them usable for the three functions.
-/

set_option autoImplicit false

namespace SedsNet

open Lib

namespace Read

/-! ## Format v4 -/

/-- What the v4 walk has read when it stops in front of the reliable header. -/
structure V4Head where
  flags : UInt8
  logicalSize : UInt64
  timestamp : UInt64
  sourceAddress : UInt64
  ty : UInt32
  endpoints : List UInt32
  deriving DecidableEq, Repr

section

variable (S : Schema) (Z : Codec) (b : Bytes)

/-- The endpoints of a v4 frame: from the bitmap if there is one, else the schema's. -/
def v4Endpoints (flags : UInt8) (ty : UInt32) : Parse (List UInt32) :=
  if flags &&& kV4FlagEndpointBitmapPresent ≠ 0 then do
    let cur ← Reader.tell
    Reader.rejectIf (remaining (b.length - kCrcBytes) cur < kV4EndpointBitmapBytes)
    let endpoints ← v4Bitmap S b
    skip kV4EndpointBitmapBytes
    pure endpoints
  else do
    let info ← typeInfoAt S ty.toNat
    pure info.endpoints

/-- The optional nonce, read and dropped. -/
def v4Nonce (flags : UInt8) : Parse Unit :=
  if flags &&& 0x08 ≠ 0 then do
    let _nonce ← readUleb128 b (b.length - kCrcBytes)
    pure ()
  else pure ()

/-- The optional contract block, skipped. -/
def v4Contract (flags : UInt8) : Parse Unit :=
  if flags &&& 0x04 ≠ 0 then do
    let contractLen ← readUleb128 b (b.length - kCrcBytes)
    let cur ← Reader.tell
    Reader.rejectIf (remaining (b.length - kCrcBytes) cur < contractLen.toNat)
    skip contractLen.toNat
  else pure ()

/-- The walk from the type id on. -/
def v4Typed (flags nep : UInt8) (wireTy logicalSize timestamp sourceAddress : UInt64) :
    Parse V4Head :=
  match S.localTypeId wireTy.toUInt32 with
  | none => Reader.fail
  | some localTy => do
    Reader.rejectIf (S.validType localTy = false)
    let endpoints ← v4Endpoints S b flags localTy
    Reader.rejectIf (endpoints.length ≠ nep.toNat)
    v4Contract b flags
    pure ⟨flags, logicalSize, timestamp, sourceAddress, localTy, endpoints⟩

def v4Head : Parse V4Head := do
  let flags ← next b
  let nep ← next b
  let wireTy ← readUleb128 b (b.length - kCrcBytes)
  let logicalSize ← readUleb128 b (b.length - kCrcBytes)
  let timestamp ← readUleb128 b (b.length - kCrcBytes)
  v4Nonce b flags
  let sourceAddress ← readUleb128 b (b.length - kCrcBytes)
  v4Typed S b flags nep wireTy logicalSize timestamp sourceAddress

/-- The reliable header of a v4 frame, if its type has one. -/
def v4Reliable (hd : V4Head) : Parse (Option ReliableHeaderLite) := do
  if ← hasV4ReliableHeader S hd.ty then
    let reliable ← readV4ReliableHeader b (b.length - kCrcBytes) (hd.flags &&& kV4FlagCompactReliableHeader != 0)
    pure (some reliable)
  else pure none

/-- The rest of `deserialize_packet` after the reliable header: the payload. -/
def v4Payload (hd : V4Head) : Parse PacketData := do
  let cur ← Reader.tell
  let payload ← decompress Z b (remaining (b.length - kCrcBytes) cur) hd.logicalSize.toNat
    (hd.flags &&& kV4FlagCompressedPayload != 0)
  Reader.rejectIf (payload.length ≠ hd.logicalSize.toNat)
  pure ⟨hd.ty, addrSender hd.sourceAddress, hd.endpoints, hd.timestamp, payload⟩

/-- Whether a parsed header, if any, is ACK-only. -/
def ackOnlyHeader : Option ReliableHeaderLite → Bool
  | some h => h.flags &&& 0x01 != 0
  | none => false

theorem rejectIf_ackOnlyHeader_some (h : ReliableHeaderLite) :
    (Reader.rejectIf (ackOnlyHeader (some h) = true) : Parse Unit) =
      Reader.rejectIf (h.flags &&& kV4ReliableFlagAckOnly ≠ 0) :=
  Reader.rejectIf_congr (by simp [ackOnlyHeader, kV4ReliableFlagAckOnly])

theorem rejectIf_ackOnlyHeader_none :
    (Reader.rejectIf (ackOnlyHeader none = true) : Parse Unit) = pure () :=
  Reader.rejectIf_of_not (by simp [ackOnlyHeader])

def v4PacketTail (hd : V4Head) : Parse PacketData := do
  let reliable ← v4Reliable S b hd
  Reader.rejectIf (ackOnlyHeader reliable = true)
  v4Payload Z b hd

def v4FrameTail (hd : V4Head) : Parse FrameInfoLite := do
  let reliable ← v4Reliable S b hd
  pure ⟨⟨hd.ty, hd.endpoints, addrSender hd.sourceAddress, hd.timestamp⟩, reliable⟩

theorem peekV4_eq : peekV4 S b = v4Head S b >>= v4FrameTail S b := by
  unfold peekV4 v4Head v4FrameTail v4Reliable v4Nonce v4Typed v4Endpoints v4Contract
  simp only [bind_assoc, pure_bind, Reader.ite_bind]
  refine bind_congr fun flags => ?_
  refine bind_congr fun nep => ?_
  refine bind_congr fun wireTy => ?_
  refine bind_congr fun logicalSize => ?_
  refine bind_congr fun timestamp => ?_
  cases hl : S.localTypeId wireTy.toUInt32 with
  | none => simp only [Reader.fail_bind]
  | some localTy => simp only [bind_assoc, pure_bind, Reader.ite_bind]

theorem deserializeV4_eq : deserializeV4 S Z b = v4Head S b >>= v4PacketTail S Z b := by
  unfold deserializeV4 v4Head v4PacketTail v4Reliable v4Payload v4Nonce v4Typed v4Endpoints v4Contract
  simp only [bind_assoc, pure_bind, Reader.ite_bind]
  refine bind_congr fun flags => ?_
  refine bind_congr fun nep => ?_
  refine bind_congr fun wireTy => ?_
  refine bind_congr fun logicalSize => ?_
  refine bind_congr fun timestamp => ?_
  cases hl : S.localTypeId wireTy.toUInt32 with
  | none => simp only [Reader.fail_bind]
  | some localTy => simp only [bind_assoc, pure_bind, Reader.ite_bind, rejectIf_ackOnlyHeader_some,
      rejectIf_ackOnlyHeader_none]

/-- Step over the bitmap without reading it. -/
def v4SkipBitmap (flags : UInt8) : Parse Unit :=
  if flags &&& kV4FlagEndpointBitmapPresent ≠ 0 then do
    let cur ← Reader.tell
    Reader.rejectIf (remaining (b.length - kCrcBytes) cur < kV4EndpointBitmapBytes)
    skip kV4EndpointBitmapBytes
  else pure ()

def v4OffsetTyped (flags : UInt8) (wireTy : UInt64) : Parse Nat :=
  match S.localTypeId wireTy.toUInt32 with
  | none => Reader.fail
  | some localTy => do
    let has ← hasV4ReliableHeader S localTy
    Reader.rejectIf (has = false)
    v4SkipBitmap b flags
    v4Contract b flags
    Reader.tell

/-- The shorter walk of `reliable_header_offset`. -/
def v4Offset : Parse Nat := do
  let flags ← next b
  skip 1
  let wireTy ← readUleb128 b (b.length - kCrcBytes)
  let _dsz ← readUleb128 b (b.length - kCrcBytes)
  let _ts ← readUleb128 b (b.length - kCrcBytes)
  v4Nonce b flags
  let _sourceAddress ← readUleb128 b (b.length - kCrcBytes)
  v4OffsetTyped S b flags wireTy

theorem offsetV4_eq : offsetV4 S b = v4Offset S b := by
  unfold offsetV4 v4Offset v4OffsetTyped v4SkipBitmap v4Nonce v4Contract
  simp only [bind_assoc, pure_bind, Reader.ite_bind]
  refine bind_congr fun flags => ?_
  refine bind_congr fun _ => ?_
  refine bind_congr fun wireTy => ?_
  cases hl : S.localTypeId wireTy.toUInt32 with
  | none => rfl
  | some localTy => rfl

/-! ## Legacy format -/

/-- The scalar fields of a legacy frame, and the offset of the bitmap behind them. -/
structure LegacyFields where
  flags : UInt8
  nep : UInt8
  ty : UInt64
  logicalSize : UInt64
  timestamp : UInt64
  senderLen : UInt64
  senderWireLen : UInt64
  deriving DecidableEq, Repr

def legacySenderWireLen (flags : UInt8) (senderLen : UInt64) : Parse UInt64 :=
  if flags &&& kFlagCompressedSender ≠ 0 then readUleb128 b (b.length - kCrcBytes) else pure senderLen

/-- The scalar fields, with the endpoint count obtained by `count`: the parsers read it, the
    offset search steps over it. -/
def legacyFieldsWith (count : Parse UInt8) : Parse LegacyFields := do
  let flags ← next b
  let nep ← count
  let ty ← readUleb128 b (b.length - kCrcBytes)
  let logicalSize ← readUleb128 b (b.length - kCrcBytes)
  let timestamp ← readUleb128 b (b.length - kCrcBytes)
  let senderLen ← readUleb128 b (b.length - kCrcBytes)
  let senderWireLen ← legacySenderWireLen b flags senderLen
  pure ⟨flags, nep, ty, logicalSize, timestamp, senderLen, senderWireLen⟩

def legacyFields : Parse LegacyFields := legacyFieldsWith b (next b)

/-- Step over the endpoint count. -/
def skipCount : Parse UInt8 := do
  skip 1
  pure 0

/-- The length check of the legacy parsers, with its wrapping sum. -/
def legacyCheck (fs : LegacyFields) : Parse Unit := do
  Reader.rejectIf (S.validType fs.ty.toUInt32 = false)
  let cur ← Reader.tell
  Reader.rejectIf (remaining (b.length - kCrcBytes) cur <
    (UInt64.ofNat S.endpointBitmapBytes + fs.senderWireLen).toNat)

/-- The endpoints and the sender, and whether the type's row is reliable. -/
def legacyAddressing (fs : LegacyFields) : Parse (List UInt32 × Bytes × Bool) := do
  let bitmap ← look b S.endpointBitmapBytes
  let endpoints := parseBitmap S bitmap S.endpointBitmapBytes
  skip S.endpointBitmapBytes
  Reader.rejectIf (endpoints.length ≠ fs.nep.toNat)
  let senderBytes ← decompress Z b fs.senderWireLen.toNat fs.senderLen.toNat
    (fs.flags &&& kFlagCompressedSender != 0)
  Reader.rejectIf (senderBytes.length ≠ fs.senderLen.toNat)
  skip fs.senderWireLen.toNat
  let info ← typeInfoAt S fs.ty.toNat
  pure (endpoints, senderBytes, info.reliable)

def legacyHead : Parse (LegacyFields × List UInt32 × Bytes × Bool) := do
  let fs ← legacyFields b
  legacyCheck S b fs
  let r ← legacyAddressing S Z b fs
  pure (fs, r)

def legacyPacketTail (r : LegacyFields × List UInt32 × Bytes × Bool) : Parse PacketData := do
  if r.2.2.2 then
    let cur ← Reader.tell
    Reader.rejectIf (remaining (b.length - kCrcBytes) cur < kReliableHeaderBytes)
    Reader.emit (.reliableHeader cur)
    let header ← look b 1
    Reader.rejectIf (header.getD 0 0 &&& 0x01 ≠ 0)
    skip kReliableHeaderBytes
  let cur ← Reader.tell
  let payload ← decompress Z b (remaining (b.length - kCrcBytes) cur) r.1.logicalSize.toNat
    (r.1.flags &&& kFlagCompressedPayload != 0)
  Reader.rejectIf (payload.length ≠ r.1.logicalSize.toNat)
  pure ⟨r.1.ty.toUInt32, r.2.2.1, r.2.1, r.1.timestamp, payload⟩

def legacyFrameTail (r : LegacyFields × List UInt32 × Bytes × Bool) : Parse FrameInfoLite := do
  let reliable ←
    if r.2.2.2 then do
      let cur ← Reader.tell
      Reader.rejectIf (remaining (b.length - kCrcBytes) cur < kReliableHeaderBytes)
      Reader.emit (.reliableHeader cur)
      let header ← look b kReliableHeaderBytes
      pure (some ⟨header.getD 0 0, loadLe32 b (cur + 1), loadLe32 b (cur + 5)⟩)
    else pure none
  pure ⟨⟨r.1.ty.toUInt32, r.2.1, r.2.2.1, r.1.timestamp⟩, reliable⟩

theorem deserializeLegacy_eq :
    deserializeLegacy S Z b = legacyHead S Z b >>= legacyPacketTail Z b := by
  unfold deserializeLegacy legacyHead legacyFields legacyFieldsWith legacySenderWireLen legacyCheck
    legacyAddressing legacyPacketTail
  simp only [bind_assoc, pure_bind, Reader.ite_bind]

theorem peekLegacy_eq : peekLegacy S Z b = legacyHead S Z b >>= legacyFrameTail b := by
  unfold peekLegacy legacyHead legacyFields legacyFieldsWith legacySenderWireLen legacyCheck
    legacyAddressing legacyFrameTail
  simp only [bind_assoc, pure_bind, Reader.ite_bind, Reader.rejectIf_or, Reader.rejectIf_tell]

/-- `reliable_header_offset` on a legacy frame makes the same walk up to the length check,
    then steps over bitmap and sender at once. -/
def legacyOffsetTail (fs : LegacyFields) : Parse Nat := do
  skip (UInt64.ofNat S.endpointBitmapBytes + fs.senderWireLen).toNat
  let info ← typeInfoAt S fs.ty.toNat
  Reader.rejectIf (info.reliable = false)
  Reader.tell

theorem offsetLegacy_eq : offsetLegacy S b = legacyFieldsWith b skipCount >>= fun fs =>
    legacyCheck S b fs >>= fun _ => legacyOffsetTail S fs := by
  unfold offsetLegacy legacyFieldsWith legacySenderWireLen skipCount legacyCheck legacyOffsetTail
  simp only [bind_assoc, pure_bind, Reader.ite_bind, Reader.rejectIf_or, Reader.rejectIf_tell]

end

end Read

end SedsNet
