import SedsNet.Schema

/-!
# Checksums, hashes and packet identity

`crc32_bytes`, `hash_bytes_u64`, `packet_id`, `source_packet_id` and `sender_hash`
(`src/core.cpp`), and `sender_address_u32` (`src/serialize.cpp`). All arithmetic is on the
source's own widths, so every product and shift wraps as it does there.
-/

set_option autoImplicit false

namespace SedsNet

/-- One of the eight bit rounds of `crc32_bytes`; the mask is `-(crc & 1u)`. -/
def crc32Round (crc : UInt32) : UInt32 :=
  (crc >>> 1) ^^^ (0xEDB88320 &&& (0 - (crc &&& 1)))

def crc32Byte (crc : UInt32) (b : UInt8) : UInt32 :=
  (crc32Round <| crc32Round <| crc32Round <| crc32Round <|
    crc32Round <| crc32Round <| crc32Round <| crc32Round (crc ^^^ b.toUInt32))

def crc32Bytes (data : Bytes) : UInt32 := ~~~(data.foldl crc32Byte 0xFFFFFFFF)

def hashByteU64 (h : UInt64) (b : UInt8) : UInt64 :=
  let h := (h ^^^ b.toUInt64) * 0x9E3779B1
  h ^^^ (h >>> 27)

def hashBytesU64 (h : UInt64) (data : Bytes) : UInt64 := data.foldl hashByteU64 h

/-- `hash_string` on a table name. -/
def hashName (h : UInt64) (name : String) : UInt64 := hashBytesU64 h name.toUTF8.toList

/-- The string `packet_id_with_endpoints` hashes for an endpoint: the table entry when the
    id is inside the table, the decimal id otherwise. A null entry makes the source build a
    string from a null pointer; here it hashes nothing, and `endpointsNamed` is the
    condition under which that case does not arise. -/
def endpointHashBytes (S : Schema) (ep : UInt32) : Bytes :=
  match S.kEndpointNames[ep.toNat]? with
  | some (some name) => name.toUTF8.toList
  | some none => []
  | none => toDecimal ep.toNat

/-- Every endpoint inside the table has a name. -/
def endpointsNamed (S : Schema) (endpoints : List UInt32) : Bool :=
  endpoints.all fun ep => S.kEndpointNames[ep.toNat]? != some none

def packetIdWithEndpoints (S : Schema) (pkt : PacketData) (endpoints : List UInt32) : UInt64 :=
  let h := hashBytesU64 0x9E3779B97F4A7C15 pkt.sender
  let h := match S.kTypeInfo[pkt.ty.toNat]? with
    | some info => hashName h info.name
    | none => hashBytesU64 h (toDecimal pkt.ty.toNat)
  let h := endpoints.foldl (fun h ep => hashBytesU64 h (endpointHashBytes S ep)) h
  let h := hashBytesU64 h (appendLe64 pkt.timestamp)
  let h := hashBytesU64 h (appendLe64 (UInt64.ofNat pkt.payload.length))
  hashBytesU64 h pkt.payload

def packetId (S : Schema) (pkt : PacketData) : UInt64 := packetIdWithEndpoints S pkt pkt.endpoints

/-- The endpoint order `source_packet_id` hashes in: the schema's order first, then what the
    schema does not list. -/
def sourceEndpoints (S : Schema) (pkt : PacketData) : List UInt32 :=
  let first := (S.typeAt pkt.ty.toNat).endpoints.filter fun ep => pkt.endpoints.contains ep
  pkt.endpoints.foldl (fun acc ep => if acc.contains ep then acc else acc ++ [ep]) first

def sourcePacketId (S : Schema) (pkt : PacketData) : UInt64 :=
  if pkt.ty.toNat ≥ S.kTypeInfo.length then packetId S pkt
  else packetIdWithEndpoints S pkt (sourceEndpoints S pkt)

def senderHash (sender : Bytes) : UInt64 :=
  sender.foldl (fun h ch => (h ^^^ ch.toUInt64) * 1099511628211) 0x517CC1B727220A95

def senderAddressU32 (sender : Bytes) : UInt32 :=
  let raw := (hashBytesU64 0xA6D38C214B7F19E5 sender).toUInt32
  if raw = 0 then 1 else raw

/-- The CRC of the IEEE polynomial, on its usual check string. -/
example : crc32Bytes (ascii "123456789") = 0xCBF43926 := by decide +kernel

end SedsNet
