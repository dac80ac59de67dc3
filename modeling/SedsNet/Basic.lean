import Mathlib.Algebra.Ring.Nat
import Mathlib.Data.List.Basic

/-!
# Data model of the packet layer

The plain data of `Cpp-Headers/internal.hpp`: packets, reliable headers, frame envelopes
and the schema's table rows. Buffers and `std::string`s are byte lists; ids, timestamps,
sequence numbers and header flags keep the width they have in the source, so that
truncation and wrap-around stay visible in the types. Schema names are `String`s: the code
only compares and hashes them.
-/

set_option autoImplicit false

namespace SedsNet

/-- `std::vector<uint8_t>`, and the bytes of a `std::string`. -/
abbrev Bytes : Type := List UInt8

/-- What is to hold of every element is decided along the list, also for machine integers, which are finitely many. -/
instance (priority := 2000) decidableForallMem {α : Type} (p : α → Prop) [DecidablePred p] (xs : List α) :
    Decidable (∀ x ∈ xs, p x) :=
  List.decidableBAll p xs

instance (priority := 2000) decidableForallMemOption {α : Type} (p : α → Prop) [DecidablePred p] (x : Option α) :
    Decidable (∀ a ∈ x, p a) :=
  Option.decidableForallMem x

/-! ## Constants -/

def kCrcBytes : Nat := 4
def kReliableHeaderBytes : Nat := 9
def kV4EndpointBitmapBytes : Nat := 32

def kFlagCompressedPayload : UInt8 := 0x01
def kFlagCompressedSender : UInt8 := 0x02

def kV4FlagCompressedPayload : UInt8 := 0x01
def kV4FlagEndpointBitmapPresent : UInt8 := 0x20
def kV4FlagCompactReliableHeader : UInt8 := 0x40
def kV4ReliableFlagAckOnly : UInt8 := 0x01
def kV4ReliableFlagUnsequenced : UInt8 := 0x80
def kV4ReliableWireSeqPresent : UInt8 := 0x04
def kV4ReliableWireAckPresent : UInt8 := 0x08

def kReliableFlagAckOnly : UInt8 := 0x01
def kReliableFlagUnordered : UInt8 := 0x02
def kReliableFlagUnsequenced : UInt8 := 0x80

/-! The built-in ids `generate_schema.py` puts into the C enums. -/

def SEDS_DT_TELEMETRY_ERROR : UInt32 := 0
def SEDS_DT_RELIABLE_ACK : UInt32 := 1
def SEDS_DT_RELIABLE_PACKET_REQUEST : UInt32 := 2
def SEDS_DT_RELIABLE_PARTIAL_ACK : UInt32 := 3
def SEDS_DT_TIME_SYNC_ANNOUNCE : UInt32 := 4
def SEDS_DT_TIME_SYNC_REQUEST : UInt32 := 5
def SEDS_DT_TIME_SYNC_RESPONSE : UInt32 := 6
def SEDS_DT_DISCOVERY_ANNOUNCE : UInt32 := 7
def SEDS_DT_DISCOVERY_TIMESYNC_SOURCES : UInt32 := 8
def SEDS_DT_DISCOVERY_TOPOLOGY : UInt32 := 9
def kDiscoveryLeaveType : UInt32 := 1015

def SEDS_EP_TIME_SYNC : UInt32 := 200
def SEDS_EP_DISCOVERY : UInt32 := 201
def SEDS_EP_TELEMETRY_ERROR : UInt32 := 202

/-! ## Table rows -/

inductive ElementDataType where
  | NoData | Bool | UInt8 | UInt16 | UInt32 | UInt64 | UInt128
  | Int8 | Int16 | Int32 | Int64 | Int128 | Float32 | Float64 | String | Binary
  deriving DecidableEq, Repr, Inhabited

inductive MessageClass where
  | Data | Error | Warning
  deriving DecidableEq, Repr, Inhabited

inductive ReliableMode where
  | None | Ordered | Unordered
  deriving DecidableEq, Repr, Inhabited

/-- A row of `kTypeInfo`. The tables never hold a null type name (they are filled with
    literals, `""` or stored strings), so the name is a plain string. -/
structure TypeInfo where
  name : String
  elemSize : Nat
  staticCount : Nat
  dynamic : Bool
  reliableMode : ReliableMode
  dataType : ElementDataType
  messageClass : MessageClass
  linkLocalOnly : Bool
  endpoints : List UInt32
  deriving DecidableEq, Repr

/-- The filler row of `kTypeInfo.resize(..)` and of removed types. -/
def TypeInfo.empty : TypeInfo :=
  ⟨"", 0, 0, false, .None, .NoData, .Data, false, []⟩

instance : Inhabited TypeInfo := ⟨TypeInfo.empty⟩

/-- `TypeInfo::reliable()`. -/
def TypeInfo.reliable (t : TypeInfo) : Bool := t.reliableMode != .None

/-! ## Packets and frames -/

structure PacketData where
  ty : UInt32
  sender : Bytes
  endpoints : List UInt32
  timestamp : UInt64
  payload : Bytes
  deriving DecidableEq, Repr, Inhabited

structure TelemetryEnvelopeLite where
  ty : UInt32
  endpoints : List UInt32
  sender : Bytes
  timestampMs : UInt64
  deriving DecidableEq, Repr, Inhabited

structure ReliableHeaderLite where
  flags : UInt8
  seq : UInt32
  ack : UInt32
  deriving DecidableEq, Repr, Inhabited

structure FrameInfoLite where
  envelope : TelemetryEnvelopeLite
  reliable : Option ReliableHeaderLite
  deriving DecidableEq, Repr, Inhabited

/-- `FrameInfoLite::ack_only()`. -/
def FrameInfoLite.ackOnly (f : FrameInfoLite) : Bool :=
  match f.reliable with
  | some h => h.flags &&& 0x01 != 0
  | none => false

/-! ## Little-endian scalars

`append_le` and the `memcpy` loads, on the little-endian hosts the wire format is defined
for. -/

def appendLe32 (v : UInt32) : Bytes :=
  [v.toUInt8, (v >>> 8).toUInt8, (v >>> 16).toUInt8, (v >>> 24).toUInt8]

def appendLe64 (v : UInt64) : Bytes :=
  [v.toUInt8, (v >>> 8).toUInt8, (v >>> 16).toUInt8, (v >>> 24).toUInt8,
   (v >>> 32).toUInt8, (v >>> 40).toUInt8, (v >>> 48).toUInt8, (v >>> 56).toUInt8]

/-- The little-endian number a byte list spells. -/
def ofLe : Bytes → Nat
  | [] => 0
  | b :: bs => b.toNat + 256 * ofLe bs

/-- `memcpy(&v, bytes + i, 4)`. -/
def loadLe32 (b : Bytes) (i : Nat) : UInt32 := UInt32.ofNat (ofLe ((b.drop i).take 4))

/-- `memcpy(&v, bytes + i, 8)`. -/
def loadLe64 (b : Bytes) (i : Nat) : UInt64 := UInt64.ofNat (ofLe ((b.drop i).take 8))

/-- `std::to_string` of an unsigned number. -/
def toDecimal (n : Nat) : Bytes := (Nat.toDigits 10 n).map fun c => UInt8.ofNat c.toNat

/-- The bytes of an ASCII literal of the source. -/
def ascii (s : String) : Bytes := s.toList.map fun c => UInt8.ofNat c.toNat

end SedsNet
