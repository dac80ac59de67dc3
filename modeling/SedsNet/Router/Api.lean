import SedsNet.Announce
import SedsNet.Router.Transmit
import SedsNet.Wire.Encodable

/-!
# The calls of a router

The public functions of `src/router_api.cpp`, and those of `src/upstream_api_compat.cpp` that are about one
router: time sync, managed variables, peer-to-peer ports and streams. What a call does with the packet it is
given is in the modules before this one; here is what it checks, and what it queues.

A call that ends in a drain (`transmit_message`, `log_bytes_ex` without a queue, `receive_serialized_from_side`)
stands here up to the drain, and the drains stand here round by round: a callback may call back into the router
between two rounds. `Router.Act` is the list of all of them, and a run of a router is a list of acts.

The calendar of `seds_router_set_local_network_time` and its variants is left out: the act has the time that the
fields make.
-/

set_option autoImplicit false

namespace SedsNet

def SEDS_ERR : SedsResult := -1
def SEDS_INVALID_TYPE : SedsResult := -3
def SEDS_PERMISSION_DENIED : SedsResult := -11

def kP2pStreamData : UInt8 := 0x10

namespace Owner

/-- `enqueue_tx`, with its result, and `enforce_shared_queue_budget` where the caller has it. -/
def submitTx (o : Owner) (item : TxItem) (enforced : Bool) : SedsResult × Owner :=
  if item.byteCost > o.memory.maxQueueBudget then (SEDS_PACKET_TOO_LARGE, o)
  else (SEDS_OK, if enforced then (o.enqueueTx item).enforceSharedQueueBudget else o.enqueueTx item)

/-- `enqueue_rx`, with its result, and `enforce_shared_queue_budget` where the caller has it. -/
def submitRx (o : Owner) (item : RxItem) (enforced : Bool) : SedsResult × Owner :=
  match o.enqueueRx item with
  | (false, o) => (SEDS_PACKET_TOO_LARGE, o)
  | (true, o) => (SEDS_OK, if enforced then o.enforceSharedQueueBudget else o)

end Owner

/-- The current source is not known, or has not been heard for too long. -/
def TimeSyncRuntime.currentQuiet (sync : TimeSyncRuntime) (now : UInt64) : Bool :=
  match sync.sources.lookup sync.currentSource with
  | none => true
  | some source => decide (now - source.lastSeenMs > sync.sourceTimeoutMs)

namespace Router

/-! ## Setting up -/

/-- The calls that neither queue nor send: names and addresses, ports, managed variables, time. -/
inductive Setup where
  | setSender (sender : Bytes)
  | setSenderId (sender : Bytes)
  | setRuntimeDeviceIdentifier (device : Bytes)
  | configureAddress (mode : UInt8) (requested : UInt32)
  | currentAddress
  | resolveHostnameAddress (hostname : Bytes)
  | bindP2pPort (port : UInt16)
  | clearP2pPort (port : UInt16)
  | bindP2pStreamPort (port : UInt16)
  | clearP2pStreamPort (port : UInt16)
  | enableNetworkVariable (ty : UInt32) (canRead canWrite : Bool)
  | onNetworkVariableUpdate (ty : UInt32) (installed : Bool)
  | disableManagedVariable (ty : UInt32)
  | configureTimesync (enabled : Bool) (role : UInt32)
      (priority sourceTimeoutMs announceIntervalMs requestIntervalMs : UInt64)
  | getNetworkTimeMs
  | setLocalNetworkTime (unixMs : UInt64)
  deriving DecidableEq, Repr

/-- The address of the router is written to both address books. -/
def setP2pAddress (r : Router) (address : UInt32) : Router :=
  { r with
    p2pAddress := address
    p2pAddressBook := r.p2pAddressBook.insert r.sender address
    p2pHostByAddress := r.p2pHostByAddress.insert address r.sender }

/-- `resolve_p2p_host`. -/
def resolveP2pHost (r : Router) (hostname : Bytes) : Option (Bytes × UInt32) × Router :=
  if hostname = r.sender then
    let (address, r) := r.localP2pAddress
    (some (r.sender, address), r)
  else ((r.p2pAddressBook.lookup hostname).map fun address => (hostname, address), r)

/-- `resolve_p2p_address`. -/
def resolveP2pAddress (r : Router) (address : UInt32) : Option (Bytes × UInt32) × Router :=
  let (own, r) := r.localP2pAddress
  if address = own then (some (r.sender, address), r)
  else ((r.p2pHostByAddress.lookup address).map fun host => (host, address), r)

/-- The loop of `get_network_time_ms` over the sources that are still heard: the smallest priority, and the
    latest of those. -/
def bestSource (now timeoutMs : UInt64) (best : Bytes × TimeSyncSource) (e : (_ : Bytes) × TimeSyncSource) :
    Bytes × TimeSyncSource :=
  if now - e.2.lastSeenMs > timeoutMs then best
  else if e.2.priority < best.2.priority ∨ e.2.priority = best.2.priority ∧ e.2.lastSeenMs > best.2.lastSeenMs then
    (e.1, e.2)
  else best

section

variable (S : Schema) (Z : Codec) (E : Env)

/-- `configure_timesync`. -/
def configureTimesync (r : Router) (enabled : Bool) (role : UInt32)
    (priority sourceTimeoutMs announceIntervalMs requestIntervalMs : UInt64) : Router :=
  let sync := { r.timesync with
    enabled := enabled, role := role, priority := priority, sourceTimeoutMs := sourceTimeoutMs,
    announceIntervalMs := announceIntervalMs, requestIntervalMs := requestIntervalMs }
  if enabled && role == 1 && !sync.hasNetworkTime then
    let (now, o) := r.toOwner.nowMs E
    { r.setOwner o with timesync := { sync with
        hasNetworkTime := true, networkAnchorLocalMs := now, networkAnchorUnixMs := 1700000000000 + now } }
  else { r with timesync := sync }

/-- The part of `get_network_time_ms` that looks for another source when the current one has gone quiet. -/
def switchSource (r : Router) : Router :=
  if r.timesync.currentSource.isEmpty then r
  else
    let (now, o) := r.toOwner.nowMs E
    let r := r.setOwner o
    if !r.timesync.currentQuiet now then r
    else
      let best := r.timesync.sources.entries.foldl (bestSource now r.timesync.sourceTimeoutMs)
        ([], ⟨0xFFFFFFFFFFFFFFFF, 0, 0⟩)
      if best.1.isEmpty then r
      else
        let candidate := best.2.lastTimeMs + (now - best.2.lastSeenMs)
        let (current, r) := r.currentNetworkMs E
        { r with timesync := { r.timesync with
            currentSource := best.1, currentSourcePriority := best.2.priority, networkAnchorLocalMs := now,
            networkAnchorUnixMs := max candidate current } }

/-- `get_network_time_ms`. -/
def getNetworkTimeMs (r : Router) : SedsResult × Router :=
  if !r.timesync.hasNetworkTime then (SEDS_ERR, r)
  else (SEDS_OK, (currentNetworkMs E (switchSource E r)).2)

/-- The end of `set_network_time_from_fields`. -/
def setLocalNetworkTime (r : Router) (unixMs : UInt64) : Router :=
  let (now, o) := r.toOwner.nowMs E
  let sync := { r.timesync with hasNetworkTime := true, networkAnchorLocalMs := now, networkAnchorUnixMs := unixMs }
  { r.setOwner o with timesync :=
      if sync.currentSource.isEmpty then { sync with currentSource := ascii "local", currentSourcePriority := sync.priority }
      else sync }

/-- `Router::clear_local_network_time` of the C++ wrapper (`src/router.cpp`). -/
def clearLocalNetworkTime (r : Router) : Router :=
  { r with timesync := { r.timesync with
      hasNetworkTime := false, currentSource := [], currentSourcePriority := 0xFFFFFFFFFFFFFFFF } }

/-- `Router::clear_network_time_source` of the C++ wrapper. -/
def clearNetworkTimeSource (r : Router) (source : Bytes) : Router :=
  let sync := { r.timesync with sources := r.timesync.sources.erase source }
  { r with timesync :=
      if sync.currentSource = source then { sync with currentSource := [], currentSourcePriority := 0xFFFFFFFFFFFFFFFF }
      else sync }

def setUp (r : Router) : Setup → SedsResult × Router
  | .setSender sender => (SEDS_OK, { r with controlSender := sender })
  | .setSenderId sender => (SEDS_OK, { r with controlSender := sender }.setP2pAddress (addressForSender sender))
  | .setRuntimeDeviceIdentifier device =>
    if device.isEmpty then (SEDS_BAD_ARG, r) else (SEDS_OK, { r with deviceIdentifier := device })
  | .configureAddress mode requested =>
    if mode > 2 then (SEDS_BAD_ARG, r)
    else
      (SEDS_OK, r.setP2pAddress
        (if mode = 0 then addressForSender r.sender else if requested = 0 then 1 else requested))
  | .currentAddress => (SEDS_OK, r.localP2pAddress.2)
  | .resolveHostnameAddress hostname =>
    let (found, r) := r.resolveP2pHost hostname
    (if found.isSome then SEDS_OK else SEDS_BAD_ARG, r)
  | .bindP2pPort port =>
    if port = 0 then (SEDS_BAD_ARG, r)
    else (SEDS_OK, { r with p2pHandlers := r.p2pHandlers.insert port (Map.getOr r.p2pHandlers port [] ++ [true]) })
  | .clearP2pPort port => (SEDS_OK, { r with p2pHandlers := r.p2pHandlers.erase port })
  | .bindP2pStreamPort port =>
    if port = 0 then (SEDS_BAD_ARG, r)
    else
      (SEDS_OK, { r with
        p2pStreamHandlers := r.p2pStreamHandlers.insert port (Map.getOr r.p2pStreamHandlers port [] ++ [true]) })
  | .clearP2pStreamPort port => (SEDS_OK, { r with p2pStreamHandlers := r.p2pStreamHandlers.erase port })
  | .enableNetworkVariable ty canRead canWrite =>
    if !S.validType ty then (SEDS_INVALID_TYPE, r)
    else (SEDS_OK, { r with managedVariablePolicy := r.managedVariablePolicy.insert ty ⟨true, canRead, canWrite⟩ })
  | .onNetworkVariableUpdate ty installed =>
    if !S.validType ty then (SEDS_INVALID_TYPE, r)
    else (SEDS_OK, { r with managedVariableCallbacks := r.managedVariableCallbacks.insert ty installed })
  | .disableManagedVariable ty =>
    (SEDS_OK, { r with
      managedVariablePolicy := r.managedVariablePolicy.erase ty
      managedVariableLatest := r.managedVariableLatest.erase ty
      managedVariableCallbacks := r.managedVariableCallbacks.erase ty })
  | .configureTimesync enabled role priority sourceTimeoutMs announceIntervalMs requestIntervalMs =>
    (SEDS_OK, configureTimesync E r enabled role priority sourceTimeoutMs announceIntervalMs requestIntervalMs)
  | .getNetworkTimeMs => getNetworkTimeMs E r
  | .setLocalNetworkTime unixMs => (SEDS_OK, setLocalNetworkTime E r unixMs)

/-! ## Messages -/

/-- The packet `log_bytes_ex` makes. -/
def logPacket (r : Router) (ty : UInt32) (data : Bytes) (timestamp : Option UInt64) : PacketData × Router :=
  match timestamp with
  | some ts => (⟨ty, r.sender, (S.typeAt ty.toNat).endpoints, ts, data⟩, r)
  | none =>
    let (now, o) := r.toOwner.nowMs E
    (⟨ty, r.sender, (S.typeAt ty.toNat).endpoints, now, data⟩, r.setOwner o)

/-- `log_bytes_ex`, up to its drain: local handlers are called at once, or when the queued packet is sent. -/
def logBytesEx (r : Router) (ty : UInt32) (data : Bytes) (timestamp : Option UInt64) (queue : Bool) : SedsResult × Router :=
  if !S.validType ty || !validatePayload S r.tuning ty data.length then (SEDS_SIZE_MISMATCH, r)
  else
    let (pkt, r) := logPacket S E r ty data timestamp
    let o :=
      if queue then r.toOwner
      else Owner.dispatchLocalFromPacket S Z E r.deviceIdentifier r.locals pkt r.toOwner
    let (rc, o) := o.submitTx ⟨pkt, none, none, queue⟩ queue
    (rc, r.setOwner o)

/-- `all_endpoints_local`. -/
def allEndpointsLocal (r : Router) (pkt : PacketData) : Bool :=
  !pkt.endpoints.isEmpty && pkt.endpoints.all fun ep =>
    r.locals.any fun l => l.endpoint == ep && (l.packetHandler || l.serializedHandler)

/-- `transmit_message_queue`: a packet that only this router handles goes to the receive queue. -/
def transmitMessageQueue (r : Router) (view : SedsPacketView) : SedsResult × Router :=
  match packetFromView S view with
  | none => (SEDS_BAD_ARG, r)
  | some pkt =>
    let (rc, o) :=
      if r.allEndpointsLocal pkt then r.toOwner.submitRx ⟨pkt, none, [], []⟩ true
      else r.toOwner.submitTx ⟨pkt, none, none, true⟩ true
    (rc, r.setOwner o)

/-- `transmit_message`, up to its drain. -/
def transmitMessage (r : Router) (view : SedsPacketView) : SedsResult × Router :=
  match packetFromView S view with
  | none => (SEDS_BAD_ARG, r)
  | some pkt =>
    if r.allEndpointsLocal pkt then
      let (rc, o) := Owner.dispatchLocalPacketHandlers S E r.deviceIdentifier r.locals pkt r.toOwner
      (rc, r.setOwner o)
    else transmitMessageQueue S r view

/-- `transmit_serialized_message_queue`. -/
def transmitSerializedMessageQueue (r : Router) (bytes : Bytes) : SedsResult × Router :=
  match r.toOwner.deserializePacket S Z bytes with
  | (none, o) => (SEDS_DESERIALIZE, r.setOwner o)
  | (some pkt, o) =>
    let (rc, o) := o.submitTx ⟨pkt, none, none, true⟩ false
    (rc, r.setOwner o)

/-! ## Peer to peer -/

/-- `send_p2p_to_hostname` and `send_p2p_to_address`, once the peer is looked up. -/
def sendP2p (found : Option (Bytes × UInt32) × Router) (dstPort srcPort : UInt16) (payload : Bytes) : SedsResult × Router :=
  match found with
  | (none, r) => (SEDS_BAD_ARG, r)
  | (some _, r) => enqueueP2pPacket S E r dstPort srcPort payload

/-- `open_p2p_stream_to_hostname` and `open_p2p_stream_to_address`, once the peer is looked up. -/
def openP2pStream (found : Option (Bytes × UInt32) × Router) (dstPort srcPort : UInt16) : SedsResult × Router :=
  match found with
  | (none, r) => (SEDS_BAD_ARG, r)
  | (some peer, r) =>
    if dstPort = 0 ∨ srcPort = 0 then (SEDS_BAD_ARG, r)
    else
      let (streamId, r) := r.allocateP2pStreamId
      if streamId = 0 then ( SEDS_IO, r)
      else
        let session : P2pStreamSession := ⟨peer.1, peer.2, srcPort, dstPort, 0, 1, false⟩
        let r := { r with p2pStreamSessions := r.p2pStreamSessions.insert streamId session }
        enqueueP2pPacket S E r dstPort srcPort (encodeP2pStreamPayload kP2pStreamSyn streamId 0 0 [])

/-- `open_p2p_stream_to_address` checks the ports before it looks the peer up. -/
def openP2pStreamToAddress (r : Router) (address : UInt32) (dstPort srcPort : UInt16) : SedsResult × Router :=
  if dstPort = 0 ∨ srcPort = 0 then (SEDS_BAD_ARG, r)
  else openP2pStream S E (r.resolveP2pAddress address) dstPort srcPort

/-- `send_p2p_stream_control`. -/
def sendP2pStreamControl (r : Router) (streamId : UInt32) (flags : UInt8) (payload : Bytes) : SedsResult × Router :=
  match r.p2pStreamSessions.lookup streamId with
  | none => (SEDS_BAD_ARG, r)
  | some session =>
    let next := session.nextSequence + 1
    let r := { r with p2pStreamSessions :=
      r.p2pStreamSessions.insert streamId { session with nextSequence := if next = 0 then 1 else next } }
    let (rc, r) := enqueueP2pPacket S E r session.peerPort session.localPort
      (encodeP2pStreamPayload flags streamId session.peerStreamId session.nextSequence payload)
    if rc = SEDS_OK ∧ flags &&& (kP2pStreamFin ||| kP2pStreamRst) ≠ 0 then
      (rc, { r with p2pStreamSessions := r.p2pStreamSessions.erase streamId })
    else (rc, r)

/-! ## Managed variables -/

/-- `policy = managed_variable_policy[ty]; policy.enabled = true`. -/
def enablePolicy (r : Router) (ty : UInt32) : ManagedVariablePolicy × Router :=
  let policy := { Map.getOr r.managedVariablePolicy ty .new with enabled := true }
  (policy, { r with managedVariablePolicy := r.managedVariablePolicy.insert ty policy })

/-- `queue_managed_request`. -/
def queueManagedRequest (r : Router) (ty : UInt32) : SedsResult × Router :=
  if !S.validType ty then (SEDS_INVALID_TYPE, r)
  else
    let (now, r) := r.currentNetworkMs E
    let pkt := makeInternalPacket S ((S.localTypeId 13).getD 1013) now (appendLe32 (S.v4TypeId ty)) r.sender
    (SEDS_OK, r.setOwner (r.toOwner.enqueueTx ⟨pkt, none, none, false⟩))

/-- `request_managed_variable`. -/
def requestManagedVariable (r : Router) (ty : UInt32) : SedsResult × Router :=
  if !S.validType ty then (SEDS_INVALID_TYPE, r)
  else
    let (policy, r) := r.enablePolicy ty
    if !policy.canRead then (SEDS_PERMISSION_DENIED, r) else queueManagedRequest S E r ty

/-- `remember_managed_packet(r, pkt, true)`: unlike `remember_managed_variable_packet` it enables the variable. -/
def rememberManagedPacket (r : Router) (pkt : PacketData) : SedsResult × Router :=
  if !S.validType pkt.ty then (SEDS_INVALID_TYPE, r)
  else (SEDS_OK, (r.enablePolicy pkt.ty).2.rememberManagedVariablePacket S Z E pkt)

/-- `set_network_variable_packed`. -/
def setNetworkVariablePacked (r : Router) (bytes : Bytes) : SedsResult × Router :=
  match r.toOwner.deserializePacket S Z bytes with
  | (none, o) => (SEDS_DESERIALIZE, r.setOwner o)
  | (some pkt, o) =>
    let (policy, r) := (r.setOwner o).enablePolicy pkt.ty
    if !policy.canWrite then (SEDS_PERMISSION_DENIED, r)
    else
      match rememberManagedPacket S Z E r pkt with
      | (rc, r) =>
        if rc ≠ SEDS_OK then (rc, r) else (SEDS_OK, r.setOwner (r.toOwner.enqueueTx ⟨pkt, none, none, false⟩))

/-- `seed_managed_variable_packed`. -/
def seedManagedVariablePacked (r : Router) (bytes : Bytes) : SedsResult × Router :=
  match r.toOwner.deserializePacket S Z bytes with
  | (none, o) => (SEDS_DESERIALIZE, r.setOwner o)
  | (some pkt, o) => rememberManagedPacket S Z E (r.setOwner o) pkt

/-- `get_network_variable_packed` and `get_network_variable_packed_len`: a variable that is missing or stale is
    asked for. The clock is read only when staleness is asked about. -/
def getNetworkVariablePacked (r : Router) (ty staleAfterMs : UInt32) : SedsResult × Router :=
  if (r.managedVariablePolicy.lookup ty).any (!·.canRead) then (SEDS_PERMISSION_DENIED, r)
  else
    match r.managedVariableLatest.lookup ty with
    | none => (SEDS_OK, (queueManagedRequest S E r ty).2)
    | some latest =>
      if staleAfterMs = 0 then (SEDS_OK, r)
      else
        let (now, o) := r.toOwner.nowMs E
        let r := r.setOwner o
        (SEDS_OK, if now - latest.updatedMs > staleAfterMs.toUInt64 then (queueManagedRequest S E r ty).2 else r)

/-! ## Time sync and discovery -/

/-- The loop of `poll_timesync` over the sources: those that have gone quiet are forgotten. -/
def pruneSources (sync : TimeSyncRuntime) (now : UInt64) : TimeSyncRuntime :=
  let quiet (source : TimeSyncSource) : Bool := decide (now - source.lastSeenMs > sync.sourceTimeoutMs)
  let sync' := { sync with sources := sync.sources.keepIf fun _ source => !quiet source }
  if (sync.sources.lookup sync.currentSource).any quiet then
    { sync' with currentSource := [], currentSourcePriority := 0xFFFFFFFFFFFFFFFF }
  else sync'

/-- The source a node without one asks: the first that a route knows. The containers have no order of their own;
    here it is the first route, and the least of its sources. -/
def routedSource (r : Router) : Bytes :=
  ((r.discoveryRoutes.entries.find? fun e => decide (e.2.timesyncSources ≠ ∅)).map
    fun e => e.2.timesyncSources.sort.headD []).getD []

/-- `poll_timesync` announces the time. -/
def announceTime (r : Router) (now : UInt64) : Router :=
  let (time, r) := r.currentNetworkMs E
  let pkt := makeInternalPacket S SEDS_DT_TIME_SYNC_ANNOUNCE now (appendLe64 r.timesync.priority ++ appendLe64 time) r.sender
  { r.setOwner (r.toOwner.enqueueTxFront ⟨pkt, none, none, false⟩) with
    timesync := { r.timesync with lastAnnounceMs := now } }

/-- `poll_timesync` asks for the time. -/
def requestTime (r : Router) (now : UInt64) : Router :=
  let source := if r.timesync.currentSource.isEmpty then r.routedSource else r.timesync.currentSource
  if source.isEmpty then r
  else
    let pkt := makeInternalPacket S SEDS_DT_TIME_SYNC_REQUEST now (appendLe64 now ++ appendLe64 now) r.sender
    { r.setOwner (r.toOwner.enqueueTxFront ⟨pkt, none, none, false⟩) with
      timesync := { r.timesync with currentSource := source, lastRequestMs := now } }

/-- What `poll_timesync` does in its role, once quiet sources are forgotten. -/
def pollRole (r : Router) (now : UInt64) : Router :=
  let sync := r.timesync
  if (sync.role == 1 || (sync.role == 2 && sync.sources.entries.isEmpty)) &&
      decide (now ≥ sync.lastAnnounceMs + sync.announceIntervalMs) then announceTime S E r now
  else if sync.role == 0 && decide (now ≥ sync.lastRequestMs + sync.requestIntervalMs) then requestTime S r now
  else r

/-- `poll_timesync`. -/
def pollTimesync (r : Router) : Router :=
  if !r.timesync.enabled then r
  else
    let (now, o) := r.toOwner.nowMs E
    pollRole S E { r.setOwner o with timesync := pruneSources r.timesync now } now

/-- `router_local_discovery_endpoints`. -/
def localDiscoveryEndpoints (r : Router) (linkLocalEnabled : Bool) : List UInt32 :=
  sortDedup ((r.locals.filterMap fun l =>
      if l.endpoint != SEDS_EP_DISCOVERY && (linkLocalEnabled || !S.endpointLinkLocalOnly l.endpoint) then some l.endpoint
      else none) ++
    (if r.timesync.enabled then [SEDS_EP_TIME_SYNC] else []))

/-- `local_router_topology_board`, less the connections. -/
def localBoard (r : Router) : LocalBoard where
  sender := r.sender
  endpoints := r.localDiscoveryEndpoints S
  sources :=
    if r.timesync.enabled && r.timesync.hasNetworkTime then
      [if r.timesync.currentSource.isEmpty then ascii "local" else r.timesync.currentSource]
    else []

/-- `announce_discovery`; an exception ends the call. -/
def announceDiscovery (r : Router) : Router := r.setOwner (Owner.queueDiscoveryPackets S E (r.localBoard S) r.toOwner).2

/-- `poll_discovery`. -/
def pollDiscovery (r : Router) : Router := r.setOwner (Owner.pollDiscovery S E (r.localBoard S) r.toOwner).2

/-! ## Ingress -/

/-- A packet is handed to `router_receive_impl`, on record. -/
def receivePacket (r : Router) (item : RxItem) : Router :=
  routerReceiveImpl S Z E (r.setOwner (r.toOwner.observe (.receive item))) item.pkt item.srcSide

/-- `receive_serialized`: of the control traffic only discovery and time sync are hidden from the serialized
    handlers. -/
def receiveSerialized (r : Router) (bytes : Bytes) : SedsResult × Router :=
  let (frame, o) := r.toOwner.peekFrameInfo S Z bytes
  let (pkt, o) := o.deserializePacket S Z bytes
  match frame, pkt with
  | some frame, some pkt =>
    let ty := frame.envelope.ty
    let o :=
      if isDiscoveryControlType ty || isTimeSyncType ty then o
      else Owner.dispatchLocalSerializedHandlers E r.locals frame.envelope.endpoints bytes o
    (SEDS_OK, receivePacket S Z E (r.setOwner o) ⟨pkt, none, bytes, bytes⟩)
  | _, _ => (SEDS_DESERIALIZE, r.setOwner o)

/-- `receive`. -/
def receive (r : Router) (view : SedsPacketView) : SedsResult × Router :=
  match packetFromView S view with
  | none => (SEDS_BAD_ARG, r)
  | some pkt => (SEDS_OK, receivePacket S Z E r ⟨pkt, none, [], []⟩)

/-- The end of `receive_serialized_from_side`, up to its drain: the frame is shown and received, and what it
    released goes to the queue. -/
def receiveShown (r : Router) (frame : FrameInfoLite) (item : RxItem) : Router :=
  let o :=
    if hiddenFromSerializedHandlers frame.envelope.ty then r.toOwner
    else Owner.dispatchLocalSerializedHandlers E r.locals frame.envelope.endpoints item.wireBytes r.toOwner
  let r := receivePacket S Z E (r.setOwner o) item
  r.setOwner r.toOwner.flushReleased

/-- `receive_serialized_from_side`, up to its drain. -/
def receiveSerializedFromSide (r : Router) (sideId : UInt32) (bytes : Bytes) : SedsResult × Router :=
  match r.toOwner.peekFrameInfo S Z bytes with
  | (none, o) => (SEDS_DESERIALIZE, r.setOwner o)
  | (some frame, o) =>
    if !o.ingressOpen sideId then (SEDS_INVALID_LINK_ID, r.setOwner o)
    else if frame.ackOnly then (SEDS_OK, r.setOwner (o.ingestAck S E sideId frame bytes))
    else
      match o.deserializePacket S Z bytes with
      | (none, o) => (SEDS_DESERIALIZE, r.setOwner o)
      | (some pkt, o) =>
        match o.processReliableIngress S E sideId.toInt32 frame pkt bytes with
        | (false, o) => (SEDS_OK, r.setOwner o)
        | (true, o) => (SEDS_OK, receiveShown S Z E (r.setOwner o) frame ⟨pkt, some sideId.toInt32, bytes, bytes⟩)

/-- `receive_from_side`. -/
def receiveFromSide (r : Router) (sideId : UInt32) (view : SedsPacketView) : SedsResult × Router :=
  match packetFromView S view with
  | none => (SEDS_BAD_ARG, r)
  | some pkt =>
    if !r.toOwner.ingressOpen sideId then (SEDS_INVALID_LINK_ID, r)
    else (SEDS_OK, receivePacket S Z E r ⟨pkt, some sideId.toInt32, [], []⟩)

/-- `rx_serialized_packet_to_queue`. -/
def rxSerializedPacketToQueue (r : Router) (bytes : Bytes) : SedsResult × Router :=
  match r.toOwner.deserializePacket S Z bytes with
  | (none, o) => (SEDS_DESERIALIZE, r.setOwner o)
  | (some pkt, o) =>
    let (rc, o) := o.submitRx ⟨pkt, none, bytes, bytes⟩ false
    (rc, r.setOwner o)

/-- `rx_packet_to_queue`. -/
def rxPacketToQueue (r : Router) (view : SedsPacketView) : SedsResult × Router :=
  match packetFromView S view with
  | none => (SEDS_BAD_ARG, r)
  | some pkt =>
    let (rc, o) := r.toOwner.submitRx ⟨pkt, none, [], []⟩ true
    (rc, r.setOwner o)

end

end Router

namespace Owner

/-- `seds_router_rx_packet_to_queue_from_side` and `seds_relay_rx_packet_from_side`. -/
def rxPacketFromSide (S : Schema) (o : Owner) (sideId : UInt32) (view : SedsPacketView) : SedsResult × Owner :=
  match packetFromView S view with
  | none => (SEDS_BAD_ARG, o)
  | some pkt =>
    if !o.ingressOpen sideId then (SEDS_INVALID_LINK_ID, o)
    else o.submitRx ⟨pkt, some sideId.toInt32, [], []⟩ true

end Owner

namespace Router

/-! ## Acts -/

/-- What happens to a router: a call up to its drain, a round of a drain or of the timeouts, or the begin or end
    of a tx callback, between which the router is called back. -/
inductive Act where
  | configure (setting : Setting)
  | setUp (setup : Setup)
  | logBytesEx (ty : UInt32) (data : Bytes) (timestamp : Option UInt64) (queue : Bool)
  | transmitMessage (view : SedsPacketView)
  | transmitMessageQueue (view : SedsPacketView)
  | transmitSerializedMessageQueue (bytes : Bytes)
  | sendP2pToHostname (hostname : Bytes) (dstPort srcPort : UInt16) (payload : Bytes)
  | sendP2pToAddress (address : UInt32) (dstPort srcPort : UInt16) (payload : Bytes)
  | openP2pStreamToHostname (hostname : Bytes) (dstPort srcPort : UInt16)
  | openP2pStreamToAddress (address : UInt32) (dstPort srcPort : UInt16)
  | sendP2pStream (streamId : UInt32) (payload : Bytes)
  | closeP2pStream (streamId : UInt32)
  | resetP2pStream (streamId : UInt32)
  | requestManagedVariable (ty : UInt32)
  | setNetworkVariablePacked (bytes : Bytes)
  | seedManagedVariablePacked (bytes : Bytes)
  | getNetworkVariablePacked (ty staleAfterMs : UInt32)
  | pollTimesync
  | announceDiscovery
  | pollDiscovery
  | receiveSerialized (bytes : Bytes)
  | receive (view : SedsPacketView)
  | receiveSerializedFromSide (sideId : UInt32) (bytes : Bytes)
  | receiveFromSide (sideId : UInt32) (view : SedsPacketView)
  | rxSerializedPacketToQueue (bytes : Bytes)
  | rxPacketToQueue (view : SedsPacketView)
  | rxSerializedPacketToQueueFromSide (sideId : UInt32) (bytes : Bytes)
  | rxPacketToQueueFromSide (sideId : UInt32) (view : SedsPacketView)
  | reliableTimeouts
  | endToEndTimeouts
  | receiveNext
  | transmitNext
  | sideTx (active : Bool)
  deriving DecidableEq, Repr

section

variable (S : Schema) (Z : Codec) (E : Env)

def perform (r : Router) : Act → Router
  | .configure setting => r.setOwner ((r.toOwner.observe .configures).configure S E setting).2
  | .setUp setup => (r.setUp S E setup).2
  | .logBytesEx ty data timestamp queue => (logBytesEx S Z E r ty data timestamp queue).2
  | .transmitMessage view => (transmitMessage S E r view).2
  | .transmitMessageQueue view => (transmitMessageQueue S r view).2
  | .transmitSerializedMessageQueue bytes => (transmitSerializedMessageQueue S Z r bytes).2
  | .sendP2pToHostname hostname dstPort srcPort payload =>
    (sendP2p S E (r.resolveP2pHost hostname) dstPort srcPort payload).2
  | .sendP2pToAddress address dstPort srcPort payload =>
    (sendP2p S E (r.resolveP2pAddress address) dstPort srcPort payload).2
  | .openP2pStreamToHostname hostname dstPort srcPort =>
    (openP2pStream S E (r.resolveP2pHost hostname) dstPort srcPort).2
  | .openP2pStreamToAddress address dstPort srcPort => (openP2pStreamToAddress S E r address dstPort srcPort).2
  | .sendP2pStream streamId payload => (sendP2pStreamControl S E r streamId kP2pStreamData payload).2
  | .closeP2pStream streamId => (sendP2pStreamControl S E r streamId kP2pStreamFin []).2
  | .resetP2pStream streamId => (sendP2pStreamControl S E r streamId kP2pStreamRst []).2
  | .requestManagedVariable ty => (requestManagedVariable S E r ty).2
  | .setNetworkVariablePacked bytes => (setNetworkVariablePacked S Z E r bytes).2
  | .seedManagedVariablePacked bytes => (seedManagedVariablePacked S Z E r bytes).2
  | .getNetworkVariablePacked ty staleAfterMs => (getNetworkVariablePacked S E r ty staleAfterMs).2
  | .pollTimesync => pollTimesync S E r
  | .announceDiscovery => announceDiscovery S E r
  | .pollDiscovery => pollDiscovery S E r
  | .receiveSerialized bytes => (receiveSerialized S Z E r bytes).2
  | .receive view => (receive S Z E r view).2
  | .receiveSerializedFromSide sideId bytes => (receiveSerializedFromSide S Z E r sideId bytes).2
  | .receiveFromSide sideId view => (receiveFromSide S Z E r sideId view).2
  | .rxSerializedPacketToQueue bytes => (rxSerializedPacketToQueue S Z r bytes).2
  | .rxPacketToQueue view => (rxPacketToQueue S r view).2
  | .rxSerializedPacketToQueueFromSide sideId bytes => (r.rxSerializedPacketToQueueFromSide S Z E sideId bytes).2
  | .rxPacketToQueueFromSide sideId view => r.setOwner (r.toOwner.rxPacketFromSide S sideId view).2
  | .reliableTimeouts => r.setOwner (r.toOwner.doReliableTimeouts E)
  | .endToEndTimeouts => processEndToEndReliableTimeouts S E r
  | .receiveNext => r.receiveNext S Z E
  | .transmitNext => (transmitNext S Z E r).2
  | .sideTx active => r.setOwner { r.toOwner with sideTxActive := active }

end

end Router

end SedsNet
