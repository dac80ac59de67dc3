import SedsNet.Basic

/-!
# The schema tables and the two id spaces

`kTypeInfo` and `kEndpointNames` (`src/core.cpp`), the validity checks every ingress path
goes through, and the translation between local ids and the ids of the v4 wire format
(`v4_type_id` .. `local_endpoint_id`, `src/serialize.cpp`).

An endpoint id is *named* when its table slot holds a non-null pointer; the table has null
holes between the legacy ids, the runtime ids from 100 on and the built-ins from 200 on, so
the slots are `Option String`.
-/

set_option autoImplicit false

namespace SedsNet

/-- The global tables. `kEndpointCount` is not a field: every writer of the source sets it
    to `static_cast<uint32_t>(kEndpointNames.size())`. -/
structure Schema where
  kTypeInfo : List TypeInfo
  kEndpointNames : List (Option String)
  deriving DecidableEq, Repr, Inhabited

namespace Schema

def kEndpointCount (S : Schema) : UInt32 := UInt32.ofNat S.kEndpointNames.length

/-- `endpoint_bitmap_bytes()`: the `uint32_t` sum wraps before the division. -/
def endpointBitmapBytes (S : Schema) : Nat := ((S.kEndpointCount + 7) / 8).toNat

def validType (S : Schema) (ty : UInt32) : Bool :=
  match S.kTypeInfo[ty.toNat]? with
  | some info => info.name != ""
  | none => false

def validEndpoint (S : Schema) (ep : UInt32) : Bool :=
  match S.kEndpointNames[ep.toNat]? with
  | some (some _) => true
  | _ => false

/-- `kTypeInfo[i]`, with some row in place of the undefined one past the end. -/
def typeAt (S : Schema) (i : Nat) : TypeInfo := S.kTypeInfo.getD i default

/-- `is_reliable_type`. -/
def isReliableType (S : Schema) (ty : UInt32) : Bool :=
  S.validType ty && (S.typeAt ty.toNat).reliable

/-! ## Wire ids -/

/-- The names `v4_type_id` and `local_type_id` enumerate; the position is the wire id. -/
def v4TypeNames : List String :=
  ["TELEMETRY_ERROR", "RELIABLE_ACK", "RELIABLE_PACKET_REQUEST", "RELIABLE_PARTIAL_ACK",
   "TIME_SYNC_ANNOUNCE", "TIME_SYNC_REQUEST", "TIME_SYNC_RESPONSE", "DISCOVERY_ANNOUNCE",
   "DISCOVERY_TIMESYNC_SOURCES", "DISCOVERY_TOPOLOGY", "SEDSNET_DISCOVERY_SCHEMA",
   "SEDSNET_DISCOVERY_TOPOLOGY_REQUEST", "SEDSNET_DISCOVERY_SCHEMA_REQUEST",
   "SEDSNET_MANAGED_VARIABLE_REQUEST", "SEDSNET_MANAGED_VARIABLE_VALUE",
   "SEDSNET_DISCOVERY_LEAVE", "SEDSNET_DISCOVERY_LINK_CAPABILITIES",
   "SEDSNET_DISCOVERY_ADDRESS", "SEDSNET_P2P_MESSAGE"]

def isReliableControlType (S : Schema) (ty : UInt32) : Bool :=
  S.validType ty &&
    let name := (S.typeAt ty.toNat).name
    name == "RELIABLE_ACK" || name == "RELIABLE_PACKET_REQUEST" || name == "RELIABLE_PARTIAL_ACK"

def hasV4ReliableHeader (S : Schema) (ty : UInt32) : Bool :=
  S.validType ty && (S.typeAt ty.toNat).reliable && !S.isReliableControlType ty

/-- `v4_type_id`, also `wire_type_id`. -/
def v4TypeId (S : Schema) (ty : UInt32) : UInt32 :=
  if S.validType ty then
    match v4TypeNames.idxOf? (S.typeAt ty.toNat).name with
    | some wire => UInt32.ofNat wire
    | none => if ty ≥ 100 then ty else 100 + ty
  else ty

/-- The `by_name` scan over `kTypeInfo`: the first row with that name. -/
def typeByName (S : Schema) (name : String) : Option UInt32 :=
  (S.kTypeInfo.findIdx? fun info => info.name == name).map UInt32.ofNat

/-- `local_type_id`, also `local_type_from_wire_id`. -/
def localTypeId (S : Schema) (wire : UInt32) : Option UInt32 :=
  match v4TypeNames[wire.toNat]? with
  | some name => S.typeByName name
  | none =>
    if wire ≥ 100 then
      if S.validType wire then some wire
      else if S.validType (wire - 100) then some (wire - 100)
      else none
    else none

def v4EndpointId (S : Schema) (ep : UInt32) : UInt32 :=
  match S.kEndpointNames[ep.toNat]? with
  | some (some name) =>
    if ep ≥ 100 then ep
    else if name == "TIME_SYNC" then 200
    else if name == "DISCOVERY" then 201
    else if name == "TELEMETRY_ERROR" then 202
    else 100 + ep
  | _ => ep

/-- The `by_name` scan over `kEndpointNames`. Comparing a null entry is undefined in the
    source; here it does not match (`endpointScan` says which entries are compared). -/
def endpointByName (S : Schema) (name : String) : Option UInt32 :=
  (S.kEndpointNames.findIdx? fun n => n == some name).map UInt32.ofNat

/-- The name `local_endpoint_id` scans for, when it scans at all. -/
def builtinEndpointName (wire : UInt32) : Option String :=
  if wire = 200 then some "TIME_SYNC"
  else if wire = 201 then some "DISCOVERY"
  else if wire = 202 then some "TELEMETRY_ERROR"
  else none

def localEndpointId (S : Schema) (wire : UInt32) : Option UInt32 :=
  match builtinEndpointName wire with
  | some name => if S.validEndpoint wire then some wire else S.endpointByName name
  | none =>
    if wire ≥ 100 then
      if S.validEndpoint wire then some wire
      else if S.validEndpoint (wire - 100) then some (wire - 100)
      else none
    else none

/-- The table positions whose entries `local_endpoint_id` compares, in order: all up to and
    including the first match. -/
def endpointScan (S : Schema) (wire : UInt32) : List Nat :=
  match builtinEndpointName wire with
  | some name =>
    if S.validEndpoint wire then []
    else
      match S.kEndpointNames.findIdx? fun n => n == some name with
      | some i => List.range (i + 1)
      | none => List.range S.kEndpointNames.length
  | none => []

/-! ## Facts about the checks -/

theorem validType_iff {S : Schema} {ty : UInt32} :
    S.validType ty = true ↔ ∃ info, S.kTypeInfo[ty.toNat]? = some info ∧ info.name ≠ "" := by
  unfold validType
  cases h : S.kTypeInfo[ty.toNat]? with
  | none => simp
  | some info => simp

theorem validType_lt {S : Schema} {ty : UInt32} (h : S.validType ty = true) :
    ty.toNat < S.kTypeInfo.length := by
  obtain ⟨info, hi, _⟩ := validType_iff.mp h
  exact (List.getElem?_eq_some_iff.mp hi).1

theorem validEndpoint_iff {S : Schema} {ep : UInt32} :
    S.validEndpoint ep = true ↔ ∃ name, S.kEndpointNames[ep.toNat]? = some (some name) := by
  unfold validEndpoint
  cases h : S.kEndpointNames[ep.toNat]? with
  | none => simp
  | some o => cases o <;> simp

theorem typeByName_lt {S : Schema} {name : String} {ty : UInt32}
    (h : S.typeByName name = some ty) : ty.toNat < S.kTypeInfo.length ∨ 2 ^ 32 ≤ S.kTypeInfo.length := by
  unfold typeByName at h
  cases hf : S.kTypeInfo.findIdx? fun info => info.name == name with
  | none => rw [hf] at h; simp at h
  | some i =>
    rw [hf] at h
    simp only [Option.map_some, Option.some.injEq] at h
    subst h
    have hlt : i < S.kTypeInfo.length := (List.findIdx?_eq_some_iff_getElem.mp hf).1
    rw [UInt32.toNat_ofNat']
    by_cases hbig : S.kTypeInfo.length < 2 ^ 32
    · exact Or.inl (by omega)
    · exact Or.inr (by omega)

end Schema

end SedsNet
