import SedsNet.Ingress

/-!
# The router: state and local handlers

The members of `SedsRouter` (`Cpp-Headers/internal.hpp`) that a relay does not have, and the handlers of
its local endpoints (`dispatch_local_packet_handlers` .. `dispatch_local_from_packet`,
`src/router_core.cpp`), with the error packets they are told about (`src/core.cpp`).

A handler is a callback and answers from the `Env` like all others. Null function pointers are `false`.
-/

set_option autoImplicit false

namespace SedsNet

/-! ## Members -/

structure LocalEndpoint where
  endpoint : UInt32
  packetHandler : Bool
  serializedHandler : Bool
  deriving DecidableEq, Repr, Inhabited

structure EndToEndReliableSent where
  pkt : PacketData
  pendingDestinations : Map UInt64 Int32
  trackedDestinations : Bool
  lastSendMs : UInt64
  retries : UInt32
  queued : Bool

structure ManagedVariableEntry where
  pkt : PacketData
  packed : Bytes
  updatedMs : UInt64
  deriving DecidableEq, Repr, Inhabited

structure ManagedVariablePolicy where
  enabled : Bool
  canRead : Bool
  canWrite : Bool
  deriving DecidableEq, Repr, Inhabited

/-- The default-constructed policy `managed_variable_policy[ty]` makes. -/
def ManagedVariablePolicy.new : ManagedVariablePolicy := ⟨false, true, true⟩

structure P2pStreamSession where
  peerHostname : Bytes
  peerAddress : UInt32
  localPort : UInt16
  peerPort : UInt16
  peerStreamId : UInt32
  nextSequence : UInt32
  connected : Bool
  deriving DecidableEq, Repr, Inhabited

/-- `TimeSyncRuntime::SourceState`. -/
structure TimeSyncSource where
  priority : UInt64
  lastSeenMs : UInt64
  lastTimeMs : UInt64
  deriving DecidableEq, Repr, Inhabited

structure TimeSyncRuntime where
  enabled : Bool
  role : UInt32
  priority : UInt64
  sourceTimeoutMs : UInt64
  announceIntervalMs : UInt64
  requestIntervalMs : UInt64
  lastAnnounceMs : UInt64
  lastRequestMs : UInt64
  hasNetworkTime : Bool
  networkAnchorLocalMs : UInt64
  networkAnchorUnixMs : UInt64
  currentSource : Bytes
  currentSourcePriority : UInt64
  sources : Map Bytes TimeSyncSource

def TimeSyncRuntime.new : TimeSyncRuntime :=
  ⟨false, 0, 100, 5000, 1000, 1000, 0, 0, false, 0, 0, [], 0xFFFFFFFFFFFFFFFF, ∅⟩

/-- `SedsRouterMode`. -/
inductive RouterMode where
  | Sink | Relay
  deriving DecidableEq, Repr, Inhabited

/-- `SedsRouter`. Its `sender` is `controlSender`: `control_sender(router)` is the one place where routers
    and relays differ there. Of the peer-to-peer handlers of a port only which of them have a callback is
    kept. -/
structure Router extends Owner where
  mode : RouterMode
  locals : List LocalEndpoint
  deviceIdentifier : Bytes
  endToEndReliableTx : Map UInt64 EndToEndReliableSent
  endToEndReliableTxOrder : List UInt64
  managedVariablePolicy : Map UInt32 ManagedVariablePolicy
  managedVariableLatest : Map UInt32 ManagedVariableEntry
  managedVariableCallbacks : Map UInt32 Bool
  p2pAddress : UInt32
  p2pAddressBook : Map Bytes UInt32
  p2pHostByAddress : Map UInt32 Bytes
  p2pHandlers : Map UInt16 (List Bool)
  p2pStreamHandlers : Map UInt16 (List Bool)
  p2pStreamSessions : Map UInt32 P2pStreamSession
  p2pNextStreamId : UInt32
  timesync : TimeSyncRuntime

namespace Router

/-- A new router with these sides and local endpoints, at the default configuration. -/
def new (mode : RouterMode) (sender : Bytes) (sides : List Side) (locals : List LocalEndpoint) : Router where
  toOwner := .new sender sides
  mode := mode
  locals := locals
  deviceIdentifier := ascii "CPP"
  endToEndReliableTx := ∅
  endToEndReliableTxOrder := []
  managedVariablePolicy := ∅
  managedVariableLatest := ∅
  managedVariableCallbacks := ∅
  p2pAddress := 0
  p2pAddressBook := ∅
  p2pHostByAddress := ∅
  p2pHandlers := ∅
  p2pStreamHandlers := ∅
  p2pStreamSessions := ∅
  p2pNextStreamId := 1
  timesync := .new

abbrev sender (r : Router) : Bytes := r.controlSender

/-- The same router over another owner. -/
def setOwner (r : Router) (o : Owner) : Router := { r with toOwner := o }

@[simp] theorem setOwner_toOwner (r : Router) (o : Owner) : (r.setOwner o).toOwner = o := rfl

/-- `current_network_ms()`: the clock is read only when there is a network time. -/
def currentNetworkMs (E : Env) (r : Router) : UInt64 × Router :=
  if !r.timesync.hasNetworkTime then (0, r)
  else
    let (now, o) := r.toOwner.nowMs E
    (r.timesync.networkAnchorUnixMs + (now - r.timesync.networkAnchorLocalMs), r.setOwner o)

end Router

/-! ## Packets of the router's own -/

/-- `make_internal_packet`, with the sender its callers then put in. -/
def makeInternalPacket (S : Schema) (ty : UInt32) (ts : UInt64) (payload sender : Bytes) : PacketData :=
  ⟨ty, sender, (S.typeAt ty.toNat).endpoints, ts, payload⟩

/-- `make_e2e_reliable_ack_packet`. -/
def makeE2eReliableAckPacket (S : Schema) (id ts : UInt64) (sender : Bytes) : PacketData :=
  ⟨SEDS_DT_RELIABLE_ACK, sender, (S.typeAt SEDS_DT_RELIABLE_ACK.toNat).endpoints, ts, appendLe64 id⟩

/-- `error_string`. -/
def errorString (code : SedsResult) : String :=
  match code with
  | 0 => "OK"
  | -1 => "ERR"
  | -2 => "Generic error"
  | -3 => "Invalid type"
  | -4 => "Size mismatch"
  | -5 => "Size mismatch error"
  | -6 => "Empty endpoints"
  | -7 => "Timestamp invalid"
  | -8 => "Missing payload"
  | -9 => "Handler error"
  | -10 => "Bad arg"
  | -12 => "Serialize error"
  | -13 => "Deserialize error"
  | -14 => "I/O error"
  | -15 => "Invalid UTF-8"
  | -16 => "Type mismatch"
  | -17 => "Invalid link id"
  | -18 => "Packet too large"
  | _ => "Unknown error"

/-- `local_handler_error_message`: the name is read only when there is one. -/
def localHandlerErrorMessage (S : Schema) (endpoint : UInt32) (rc : SedsResult) : Bytes :=
  let name :=
    match S.kEndpointNames[endpoint.toNat]? with
    | some (some name) => name.toUTF8.toList
    | _ => toDecimal endpoint.toNat
  ascii "Handler for endpoint " ++ name ++ ascii " failed: " ++ ascii (errorString rc)

/-- `tx_error_message`. -/
def txErrorMessage (side : Side) (rc : SedsResult) : Bytes :=
  ascii "TX handler failed on side " ++ side.name ++ ascii ": " ++ ascii (errorString rc)

/-- `make_router_error_packet`: the message is cut at 1024 bytes. -/
def makeRouterErrorPacket (device : Bytes) (endpoints : List UInt32) (message : Bytes) : PacketData :=
  ⟨SEDS_DT_TELEMETRY_ERROR, device, endpoints, 0, message.take 1024⟩

/-- `local_endpoints_for_error`. -/
def localEndpointsForError (S : Schema) (locals : List LocalEndpoint) : List UInt32 :=
  let endpoints := locals.foldl (fun acc l => if acc.contains l.endpoint then acc else acc ++ [l.endpoint]) []
  if endpoints.isEmpty && S.validType SEDS_DT_TELEMETRY_ERROR then
    (S.typeAt SEDS_DT_TELEMETRY_ERROR.toNat).endpoints
  else endpoints

/-! ## Local handlers -/

/-- What the loop of `dispatch_local_packet_handlers` collects: the first failure, and the endpoints
    whose handlers will hear of it. -/
structure Failures where
  first : Option (UInt32 × SedsResult)
  endpoints : List UInt32

namespace Owner

section

variable (S : Schema) (Z : Codec) (E : Env) (device : Bytes) (locals : List LocalEndpoint)

/-- A packet handler is tried up to `max_handler_retries` times, until it succeeds. -/
def tryPacketHandler (i : Nat) (pkt : PacketData) : Nat → SedsResult → Owner → SedsResult × Owner
  | 0, rc, o => (rc, o)
  | tries + 1, _, o =>
    let (rc, o) := o.call E (.packetHandler i pkt)
    if rc = SEDS_OK then (rc, o) else tryPacketHandler i pkt tries rc o

/-- The other endpoints with a packet handler, each once. -/
def otherEndpoints (acc : List UInt32) (endpoint : UInt32) : List UInt32 :=
  locals.foldl (fun acc other =>
    if other.endpoint = endpoint ∨ other.packetHandler = false ∨ acc.contains other.endpoint then acc
    else acc ++ [other.endpoint]) acc

/-- One round of the loop over `locals`. -/
def dispatchLocalPacket (pkt : PacketData) (p : Failures × Owner) (l : LocalEndpoint × Nat) : Failures × Owner :=
  let (failures, o) := p
  if pkt.endpoints.contains l.1.endpoint && l.1.packetHandler then
    let (rc, o) := tryPacketHandler E l.2 pkt o.tuning.maxHandlerRetries SEDS_OK o
    if rc = SEDS_OK then (failures, o)
    else
      (⟨failures.first <|> some (l.1.endpoint, rc), otherEndpoints locals failures.endpoints l.1.endpoint⟩, o)
  else p

/-- The second loop: each handler the error packet is addressed to is called once. -/
def reportError (pkt : PacketData) (o : Owner) : Owner :=
  locals.zipIdx.foldl (fun o l =>
    if pkt.endpoints.contains l.1.endpoint && l.1.packetHandler then (o.call E (.packetHandler l.2 pkt)).2
    else o) o

/-- `dispatch_local_packet_handlers`. -/
def dispatchLocalPacketHandlers (pkt : PacketData) (o : Owner) : SedsResult × Owner :=
  let (failures, o) := locals.zipIdx.foldl (dispatchLocalPacket E locals pkt) (⟨none, []⟩, o)
  match failures.first with
  | none => (SEDS_OK, o)
  | some (endpoint, rc) =>
    if pkt.ty ≠ SEDS_DT_TELEMETRY_ERROR ∧ failures.endpoints ≠ [] then
      (SEDS_HANDLER_ERROR, reportError E locals
        (makeRouterErrorPacket device failures.endpoints (localHandlerErrorMessage S endpoint rc)) o)
    else (SEDS_HANDLER_ERROR, o)

/-- `dispatch_local_serialized_handlers`. -/
def dispatchLocalSerializedHandlers (endpoints : List UInt32) (bytes : Bytes) (o : Owner) : Owner :=
  locals.zipIdx.foldl (fun o l =>
    if endpoints.contains l.1.endpoint && l.1.serializedHandler then (o.call E (.serializedHandler l.2 bytes)).2
    else o) o

/-- `dispatch_local_from_packet`. -/
def dispatchLocalFromPacket (pkt : PacketData) (o : Owner) : Owner :=
  let (_, o) := dispatchLocalPacketHandlers S E device locals pkt o
  dispatchLocalSerializedHandlers E locals pkt.endpoints (serializePacket S Z pkt) o

end

end Owner

end SedsNet
