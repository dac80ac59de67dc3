import SedsNet.Schema

/-!
# The tables a build starts with

`generate_schema.py` emits two tables, indexed by *legacy* ids: user endpoints and types
first, then the built-ins that are switched on. `make_runtime_endpoint_names` and
`make_runtime_type_info` (`src/core.cpp`) keep those entries and copy them to their runtime
ids: 100 + i for user entries, 200..202 for the built-in endpoints, 0..9 and 1010..1018 for
the built-in types. What lies in between stays null, or an empty type row.
-/

set_option autoImplicit false

namespace SedsNet

/-- `if (v.size() <= i) v.resize(i + 1, filler); v[i] = x;` -/
def assignAt {α : Type} (v : List α) (i : Nat) (filler x : α) : List α :=
  (v ++ List.replicate (i + 1 - v.length) filler).set i x

/-! ## The generated tables -/

/-- `finalize_schema` on the endpoint names, `merge_ipc_overlay` included in `user`. -/
def makeEndpointNames (user : List String) (timesync discovery : Bool) : List String :=
  user ++ (if timesync then ["TIME_SYNC"] else []) ++ (if discovery then ["DISCOVERY"] else []) ++
    ["TELEMETRY_ERROR"]

/-- The legacy id `render_generated_schema` gives a built-in endpoint (`endpoint_index`). -/
def legacyEndpoint (names : List String) (name : String) : UInt32 := UInt32.ofNat (names.idxOf name)

/-- A built-in row as `render_generated_schema` prints it: unreliable, of class `Data`, and never
    link-local, since the built-in endpoints are not. -/
def builtinRow (names : List String) (name : String) (elemSize count : Nat) (dynamic : Bool)
    (dt : ElementDataType) (endpoint : String) : TypeInfo :=
  ⟨name, elemSize, count, dynamic, .None, dt, .Data, false, [legacyEndpoint names endpoint]⟩

/-- `finalize_schema` on the types; user rows come with their legacy endpoint ids. -/
def makeTypeInfo (user : List TypeInfo) (names : List String) (timesync discovery : Bool) : List TypeInfo :=
  user ++
    (if timesync then
      [builtinRow names "TIME_SYNC_ANNOUNCE" 8 2 false .UInt64 "TIME_SYNC",
       builtinRow names "TIME_SYNC_REQUEST" 8 2 false .UInt64 "TIME_SYNC",
       builtinRow names "TIME_SYNC_RESPONSE" 8 4 false .UInt64 "TIME_SYNC"]
    else []) ++
    (if discovery then
      [builtinRow names "DISCOVERY_ANNOUNCE" 4 0 true .UInt32 "DISCOVERY",
       builtinRow names "DISCOVERY_TIMESYNC_SOURCES" 1 0 true .UInt8 "DISCOVERY",
       builtinRow names "DISCOVERY_TOPOLOGY" 1 0 true .UInt8 "DISCOVERY"]
    else []) ++
    [builtinRow names "RELIABLE_ACK" 4 2 false .UInt32 "TELEMETRY_ERROR",
     builtinRow names "RELIABLE_PARTIAL_ACK" 4 2 false .UInt32 "TELEMETRY_ERROR",
     builtinRow names "RELIABLE_PACKET_REQUEST" 4 2 false .UInt32 "TELEMETRY_ERROR",
     { builtinRow names "TELEMETRY_ERROR" 1 0 true .String "TELEMETRY_ERROR" with
        reliableMode := .Ordered, messageClass := .Error }]

/-! ## Runtime ids -/

def runtimeEndpointIdForName (name : String) (legacy : Nat) : Nat :=
  if name = "TIME_SYNC" then 200
  else if name = "DISCOVERY" then 201
  else if name = "TELEMETRY_ERROR" then 202
  else 100 + legacy

/-- `runtime_user_type_id_for_name`: the ten generated built-ins have none. -/
def runtimeUserTypeIdForName (name : String) (legacy : Nat) : Option Nat :=
  if (Schema.v4TypeNames.take 10).contains name then none else some (100 + legacy)

def makeRuntimeEndpointNames (legacy : List String) : List (Option String) :=
  (legacy.zipIdx).foldl
    (fun names p => assignAt names (runtimeEndpointIdForName p.1 p.2) none (some p.1))
    (legacy.map some)

/-- The endpoint remapping both copy loops of `make_runtime_type_info` apply to a row. -/
def remapEndpoints (names : List String) (info : TypeInfo) : TypeInfo :=
  { info with
    endpoints := info.endpoints.map fun ep =>
      match names[ep.toNat]? with
      | some name => UInt32.ofNat (runtimeEndpointIdForName name ep.toNat)
      | none => ep }

/-- `add_builtin`: `{discovery_endpoint}` is 201 whether or not the schema has DISCOVERY. -/
def addBuiltin (types : List TypeInfo) (id : Nat) (name : String) (mode : ReliableMode) : List TypeInfo :=
  assignAt types id .empty ⟨name, 1, 0, true, mode, .UInt8, .Data, false, [201]⟩

/-- `copy_builtin`: the first legacy row of that name, at its fixed id. -/
def copyBuiltin (legacy : List TypeInfo) (names : List String) (types : List TypeInfo)
    (id : Nat) (name : String) : List TypeInfo :=
  match legacy.find? fun info => info.name == name with
  | some info => assignAt types id .empty (remapEndpoints names info)
  | none => types

def makeRuntimeTypeInfo (legacy : List TypeInfo) (names : List String) : List TypeInfo :=
  let types := ((Schema.v4TypeNames.take 10).zipIdx).foldl
    (fun types p => copyBuiltin legacy names types p.2 p.1) legacy
  let types := (legacy.zipIdx).foldl
    (fun types p =>
      match runtimeUserTypeIdForName p.1.name p.2 with
      | some id => assignAt types id .empty (remapEndpoints names p.1)
      | none => types)
    types
  let types := addBuiltin types 1010 "SEDSNET_DISCOVERY_SCHEMA" .None
  let types := addBuiltin types 1011 "SEDSNET_DISCOVERY_TOPOLOGY_REQUEST" .None
  let types := addBuiltin types 1012 "SEDSNET_DISCOVERY_SCHEMA_REQUEST" .None
  let types := addBuiltin types 1013 "SEDSNET_MANAGED_VARIABLE_REQUEST" .Ordered
  let types := addBuiltin types 1014 "SEDSNET_MANAGED_VARIABLE_VALUE" .Ordered
  let types := addBuiltin types 1015 "SEDSNET_DISCOVERY_LEAVE" .None
  let types := addBuiltin types 1016 "SEDSNET_DISCOVERY_LINK_CAPABILITIES" .None
  let types := addBuiltin types 1017 "SEDSNET_DISCOVERY_ADDRESS" .Ordered
  addBuiltin types 1018 "SEDSNET_P2P_MESSAGE" .Ordered

/-- The tables of a program built from a schema with these user entries. -/
def runtimeSchema (userEndpoints : List String) (userTypes : List TypeInfo)
    (timesync discovery : Bool) : Schema :=
  let names := makeEndpointNames userEndpoints timesync discovery
  ⟨makeRuntimeTypeInfo (makeTypeInfo userTypes names timesync discovery) names,
   makeRuntimeEndpointNames names⟩

/-! ## The test schema -/

/-- A user type of a schema file, with legacy endpoint ids. -/
def userRow (name : String) (elemSize count : Nat) (dynamic : Bool) (mode : ReliableMode)
    (dt : ElementDataType) (endpoints : List UInt32) : TypeInfo :=
  ⟨name, elemSize, count, dynamic, mode, dt, .Data, false, endpoints⟩

/-- `tests/schemas/default_test_schema.json`, with both built-in groups. Endpoint 0 is `SD_CARD`
    and endpoint 1 is `RADIO`; at run time they are 100 and 101, and `GPS_DATA` is type 100. -/
def defaultTestSchema : Schema :=
  runtimeSchema ["SD_CARD", "RADIO"]
    [userRow "GPS_DATA" 4 3 false .Ordered .Float32 [1, 0],
     userRow "IMU_DATA" 4 6 false .None .Float32 [1, 0],
     userRow "BATTERY_STATUS" 4 2 false .None .Float32 [1, 0],
     userRow "SYSTEM_STATUS" 1 1 false .None .Bool [0],
     userRow "BAROMETER_DATA" 4 3 false .None .Float32 [1, 0],
     userRow "MESSAGE_DATA" 1 0 true .None .String [0, 1],
     userRow "HEARTBEAT" 0 0 false .None .NoData [0, 1]]
    true true

/-- The same tables row by row, which is quicker to evaluate. -/
def defaultTestTables : Schema :=
  ⟨[{ userRow "TELEMETRY_ERROR" 1 0 true .Ordered .String [202] with messageClass := .Error },
    userRow "RELIABLE_ACK" 4 2 false .None .UInt32 [202],
    userRow "RELIABLE_PACKET_REQUEST" 4 2 false .None .UInt32 [202],
    userRow "RELIABLE_PARTIAL_ACK" 4 2 false .None .UInt32 [202],
    userRow "TIME_SYNC_ANNOUNCE" 8 2 false .None .UInt64 [200],
    userRow "TIME_SYNC_REQUEST" 8 2 false .None .UInt64 [200],
    userRow "TIME_SYNC_RESPONSE" 8 4 false .None .UInt64 [200],
    userRow "DISCOVERY_ANNOUNCE" 4 0 true .None .UInt32 [201],
    userRow "DISCOVERY_TIMESYNC_SOURCES" 1 0 true .None .UInt8 [201],
    userRow "DISCOVERY_TOPOLOGY" 1 0 true .None .UInt8 [201],
    -- what is left of the legacy rows
    userRow "DISCOVERY_ANNOUNCE" 4 0 true .None .UInt32 [3],
    userRow "DISCOVERY_TIMESYNC_SOURCES" 1 0 true .None .UInt8 [3],
    userRow "DISCOVERY_TOPOLOGY" 1 0 true .None .UInt8 [3],
    userRow "RELIABLE_ACK" 4 2 false .None .UInt32 [4],
    userRow "RELIABLE_PARTIAL_ACK" 4 2 false .None .UInt32 [4],
    userRow "RELIABLE_PACKET_REQUEST" 4 2 false .None .UInt32 [4],
    { userRow "TELEMETRY_ERROR" 1 0 true .Ordered .String [4] with messageClass := .Error }] ++
   (List.replicate 83 .empty ++
   ([userRow "GPS_DATA" 4 3 false .Ordered .Float32 [101, 100],
     userRow "IMU_DATA" 4 6 false .None .Float32 [101, 100],
     userRow "BATTERY_STATUS" 4 2 false .None .Float32 [101, 100],
     userRow "SYSTEM_STATUS" 1 1 false .None .Bool [100],
     userRow "BAROMETER_DATA" 4 3 false .None .Float32 [101, 100],
     userRow "MESSAGE_DATA" 1 0 true .None .String [100, 101],
     userRow "HEARTBEAT" 0 0 false .None .NoData [100, 101]] ++
   (List.replicate 903 .empty ++
    [userRow "SEDSNET_DISCOVERY_SCHEMA" 1 0 true .None .UInt8 [201],
     userRow "SEDSNET_DISCOVERY_TOPOLOGY_REQUEST" 1 0 true .None .UInt8 [201],
     userRow "SEDSNET_DISCOVERY_SCHEMA_REQUEST" 1 0 true .None .UInt8 [201],
     userRow "SEDSNET_MANAGED_VARIABLE_REQUEST" 1 0 true .Ordered .UInt8 [201],
     userRow "SEDSNET_MANAGED_VARIABLE_VALUE" 1 0 true .Ordered .UInt8 [201],
     userRow "SEDSNET_DISCOVERY_LEAVE" 1 0 true .None .UInt8 [201],
     userRow "SEDSNET_DISCOVERY_LINK_CAPABILITIES" 1 0 true .None .UInt8 [201],
     userRow "SEDSNET_DISCOVERY_ADDRESS" 1 0 true .Ordered .UInt8 [201],
     userRow "SEDSNET_P2P_MESSAGE" 1 0 true .Ordered .UInt8 [201]]))),
   [some "SD_CARD", some "RADIO", some "TIME_SYNC", some "DISCOVERY", some "TELEMETRY_ERROR"] ++
    (List.replicate 95 none ++
    ([some "SD_CARD", some "RADIO"] ++
    (List.replicate 98 none ++ [some "TIME_SYNC", some "DISCOVERY", some "TELEMETRY_ERROR"])))⟩

theorem defaultTestSchema_eq : defaultTestSchema = defaultTestTables := by
  decide +kernel

/-- A position report for the radio and the card. -/
def gpsPacket : PacketData :=
  ⟨100, ascii "TEST", [101, 100], 123, [0, 0, 128, 63, 0, 0, 0, 64, 0, 0, 64, 64]⟩

end SedsNet
