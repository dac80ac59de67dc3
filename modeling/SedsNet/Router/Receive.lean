import SedsNet.Router.P2p

/-!
# What a router does with a received packet

`router_receive_impl` of `src/router_core.cpp`, with everything it hands a packet to: the end-to-end
acknowledgements, managed variables, time sync (`src/timesync.cpp`), peer-to-peer messages, discovery, the
local handlers, and the transmit queue of a router that relays. Below it are the queued ingress and the
drain of `src/router_api.cpp`.
-/

set_option autoImplicit false

namespace SedsNet

/-- `SEDS_DT_TIME_SYNC_*`. -/
def isTimeSyncType (ty : UInt32) : Bool :=
  ty == SEDS_DT_TIME_SYNC_ANNOUNCE || ty == SEDS_DT_TIME_SYNC_REQUEST || ty == SEDS_DT_TIME_SYNC_RESPONSE

/-- The types whose frames the serialized handlers of a router do not see. -/
def hiddenFromSerializedHandlers (ty : UInt32) : Bool :=
  isDiscoveryControlType ty || isInternalControlType ty || isTimeSyncType ty

namespace Router

section

variable (S : Schema) (Z : Codec) (E : Env)

/-! ## End-to-end acknowledgements -/

/-- The local endpoints a packet is addressed to, of those with a handler. -/
def hasLocalHandler (r : Router) (pkt : PacketData) : Bool :=
  r.locals.any fun l => pkt.endpoints.contains l.endpoint && (l.packetHandler || l.serializedHandler)

/-- The packet of one end-to-end ACK, to the front of the transmit queue. -/
def queueE2eAck (o : Owner) (srcSide : Option Int32) (id : UInt64) : Owner :=
  let sender := kEndToEndAckPrefix ++ o.controlSender
  let (now, o) := o.nowMs E
  o.enqueueTxFront ⟨makeE2eReliableAckPacket S id now sender, none, srcSide, false⟩

/-- `queue_end_to_end_ack`: under both ids of the packet, when they differ. -/
def queueEndToEndAck (o : Owner) (pkt : PacketData) (srcSide : Option Int32) : Owner :=
  let (id, o) := o.packetId S pkt
  let (sourceId, o) := (queueE2eAck S E o srcSide id).sourcePacketId S pkt
  let (id, o) := o.packetId S pkt
  if sourceId ≠ id then queueE2eAck S E o srcSide sourceId else o

/-- An end-to-end ACK for a packet of ours: the destination is no longer pending. -/
def handleEndToEndAck (r : Router) (pkt : PacketData) : Router :=
  let ackedId := loadLe64 pkt.payload 0
  match r.endToEndReliableTx.lookup ackedId with
  | none => r
  | some sent =>
    match decodeEndToEndAckSenderHash pkt.sender with
    | none => { r with endToEndReliableTx := r.endToEndReliableTx.erase ackedId }
    | some hash =>
      let pending := sent.pendingDestinations.erase hash
      if pending.entries.isEmpty then { r with endToEndReliableTx := r.endToEndReliableTx.erase ackedId }
      else
        { r with endToEndReliableTx := r.endToEndReliableTx.insert ackedId { sent with pendingDestinations := pending } }

/-! ## Managed variables -/

/-- `remember_managed_variable_packet(r, pkt, true)`. -/
def rememberManagedVariablePacket (r : Router) (pkt : PacketData) : Router :=
  if (r.managedVariablePolicy.lookup pkt.ty).any (·.enabled) then
    let (now, o) := r.toOwner.nowMs E
    let r := { r with
      toOwner := o
      managedVariableLatest := r.managedVariableLatest.insert pkt.ty ⟨pkt, serializePacket S Z pkt, now⟩ }
    if r.managedVariableCallbacks.lookup pkt.ty = some true then
      r.setOwner (r.toOwner.call E (.managedVariable pkt.ty pkt)).2
    else r
  else r

/-- `handle_managed_variable_request`; `none` when the packet is no such request. -/
def handleManagedVariableRequest (r : Router) (pkt : PacketData) (srcSide : Option Int32) : Option Router :=
  if pkt.ty ≠ (S.localTypeId 13).getD 1013 then none
  else if pkt.payload.length ≠ 4 then some r
  else
    let wire := loadLe32 pkt.payload 0
    match r.managedVariableLatest.lookup ((S.localTypeId wire).getD wire) with
    | none => some r
    | some latest => some (r.setOwner (r.toOwner.enqueueTx ⟨latest.pkt, none, srcSide, false⟩))

/-! ## Time sync -/

/-- `TIME_SYNC_ANNOUNCE`: the source is noted, and followed if it is better than the current one, or the
    current one has gone quiet. -/
def handleTimeSyncAnnounce (r : Router) (now : UInt64) (pkt : PacketData) : Router :=
  let priority := loadLe64 pkt.payload 0
  let unixMs := loadLe64 pkt.payload 8
  let sync : TimeSyncRuntime :=
    { r.timesync with sources := r.timesync.sources.insert pkt.sender ⟨priority, now, unixMs⟩ }
  let follow (sync : TimeSyncRuntime) : Router :=
    { r with timesync := { sync with
        hasNetworkTime := true, networkAnchorLocalMs := now, networkAnchorUnixMs := unixMs,
        currentSource := pkt.sender, currentSourcePriority := priority } }
  if !sync.hasNetworkTime || priority < sync.currentSourcePriority || sync.currentSource.isEmpty then follow sync
  else
    -- `sources[current_source]` makes an entry when there is none
    let current := Map.getOr sync.sources sync.currentSource ⟨0, 0, 0⟩
    let sync := { sync with sources := sync.sources.insert sync.currentSource current }
    if now - current.lastSeenMs > sync.sourceTimeoutMs then follow sync else { r with timesync := sync }

/-- `TIME_SYNC_REQUEST`: answered by a node that serves time and has it. -/
def handleTimeSyncRequest (r : Router) (now : UInt64) (pkt : PacketData) (srcSide : Option Int32) : Router :=
  if r.timesync.enabled && (r.timesync.role == 1 || r.timesync.role == 2) && r.timesync.hasNetworkTime then
    let (t2, r) := r.currentNetworkMs E
    let (t3, r) := r.currentNetworkMs E
    let payload := appendLe64 (loadLe64 pkt.payload 0) ++ appendLe64 (loadLe64 pkt.payload 8) ++ appendLe64 t2 ++
      appendLe64 t3
    let resp := makeInternalPacket S SEDS_DT_TIME_SYNC_RESPONSE now payload r.sender
    r.setOwner (r.toOwner.enqueueTx ⟨resp, none, srcSide, false⟩)
  else r

/-- `handle_timesync_packet`. -/
def handleTimesyncPacket (r : Router) (pkt : PacketData) (srcSide : Option Int32) : Router :=
  let (now, o) := r.toOwner.nowMs E
  let r := r.setOwner o
  if pkt.ty = SEDS_DT_TIME_SYNC_ANNOUNCE ∧ pkt.payload.length ≥ 16 then r.handleTimeSyncAnnounce now pkt
  else if pkt.ty = SEDS_DT_TIME_SYNC_REQUEST ∧ pkt.payload.length ≥ 16 then
    r.handleTimeSyncRequest S E now pkt srcSide
  else if pkt.ty = SEDS_DT_TIME_SYNC_RESPONSE ∧ pkt.payload.length ≥ 32 then
    { r with timesync := { r.timesync with
        hasNetworkTime := true, networkAnchorLocalMs := now, networkAnchorUnixMs := loadLe64 pkt.payload 24 } }
  else r

/-! ## Receipt -/

/-- The end of `router_receive_impl`: a packet that is no control traffic. -/
def deliver (r : Router) (pkt : PacketData) (srcSide : Option Int32) : Router :=
  let hadLocalHandler := r.hasLocalHandler pkt
  let (_, o) := Owner.dispatchLocalPacketHandlers S E r.deviceIdentifier r.locals pkt r.toOwner
  let r := (r.setOwner o).rememberManagedVariablePacket S Z E pkt
  let r :=
    if srcSide.isSome && hadLocalHandler && S.isReliableType pkt.ty then
      r.setOwner (queueEndToEndAck S E r.toOwner pkt srcSide)
    else r
  if srcSide.isSome && r.mode == .Relay then r.setOwner (r.toOwner.enqueueTx ⟨pkt, srcSide, none, false⟩) else r

/-- Where a packet that was not seen before goes. -/
def routePacket (r : Router) (pkt : PacketData) (srcSide : Option Int32) : Router :=
  if isInternalControlType pkt.ty then
    if pkt.ty = SEDS_DT_RELIABLE_ACK ∧ isEndToEndAckSender pkt.sender ∧ pkt.payload.length = 8 then
      r.handleEndToEndAck pkt
    else r.setOwner (r.toOwner.handleReliableControl S E pkt srcSide)
  else
    match handleManagedVariableRequest S r pkt srcSide with
    | some r => r
    | none =>
      if pkt.ty = S.p2pTypeId then (dispatchP2pPacket S E r pkt).2
      else if isDiscoveryControlType pkt.ty then
        r.setOwner (r.toOwner.handleDiscoveryPacket S E (some r.sender) pkt srcSide)
      else if isTimeSyncType pkt.ty then handleTimesyncPacket S E r pkt srcSide
      else deliver S Z E r pkt srcSide

/-- `router_receive_impl`. -/
def routerReceiveImpl (r : Router) (pkt : PacketData) (srcSide : Option Int32) : Router :=
  let (id, o) := r.toOwner.packetId S pkt
  if id ∈ o.recentSet then
    -- a copy of what was received before; it may mean that our acknowledgement was lost
    if srcSide.isSome && S.isReliableType pkt.ty && !isInternalControlType pkt.ty && r.hasLocalHandler pkt then
      r.setOwner (queueEndToEndAck S E o pkt srcSide)
    else r.setOwner o
  else
    routePacket S Z E (r.setOwner ((o.pushRecent id).noteReturnRoutes S pkt srcSide id)) pkt srcSide

/-! ## Queued ingress -/

end

end Router

namespace Owner

variable (S : Schema) (Z : Codec) (E : Env)

/-- The end of `seds_router_rx_serialized_packet_to_queue_from_side`: a frame that released others goes to
    the front of the queue, and they go to the back. -/
def routerEnqueue (o : Owner) (item : RxItem) : SedsResult × Owner :=
  match o.enqueueRxAt (!o.reliableReleasedRx.isEmpty) item with
  | (false, o) => (SEDS_PACKET_TOO_LARGE, o)
  | (true, o) => (SEDS_OK, o.flushReleased)

/-- `seds_router_rx_serialized_packet_to_queue_from_side`. -/
def routerRxSerializedToQueueFromSide (o : Owner) (sideId : UInt32) (bytes : Bytes) : SedsResult × Owner :=
  match o.peekFrameInfo S Z bytes with
  | (none, o) => (SEDS_DESERIALIZE, o)
  | (some frame, o) =>
    if !o.ingressOpen sideId then (SEDS_INVALID_LINK_ID, o)
    else if frame.ackOnly then (SEDS_OK, o.ingestAck S E sideId frame bytes)
    else
      match o.deserializePacket S Z bytes with
      | (none, o) => (SEDS_DESERIALIZE, o)
      | (some pkt, o) =>
        match o.processReliableIngress S E sideId.toInt32 frame pkt bytes with
        | (false, o) => (SEDS_OK, o)
        | (true, o) => o.routerEnqueue ⟨pkt, some sideId.toInt32, bytes, bytes⟩

end Owner

namespace Router

section

variable (S : Schema) (Z : Codec) (E : Env)

def rxSerializedPacketToQueueFromSide (r : Router) (sideId : UInt32) (bytes : Bytes) : SedsResult × Router :=
  let (rc, o) := r.toOwner.routerRxSerializedToQueueFromSide S Z E sideId bytes
  (rc, r.setOwner o)

/-- The serialized handlers see the frame of a queued packet before the packet is received. -/
def showFrame (r : Router) (wireBytes : Bytes) : Router :=
  if wireBytes.isEmpty then r
  else
    let (frame, o) := r.toOwner.peekFrameInfo S Z wireBytes
    match frame with
    | none => r.setOwner o
    | some frame =>
      if hiddenFromSerializedHandlers frame.envelope.ty then r.setOwner o
      else r.setOwner (Owner.dispatchLocalSerializedHandlers E r.locals frame.envelope.endpoints wireBytes o)

/-- One round of `seds_router_process_rx_queue`. -/
def receiveNext (r : Router) : Router :=
  match r.rxQueue.pop RxItem.byteCost with
  | none => r
  | some (item, queue) =>
    let r := showFrame S Z E (r.setOwner { r.toOwner with rxQueue := queue }) item.wireBytes
    routerReceiveImpl S Z E (r.setOwner (r.toOwner.observe (.receive item))) item.pkt item.srcSide

/-- The drain, `rounds` rounds long. -/
def receiveRounds : Nat → Router → Router
  | 0, r => r
  | rounds + 1, r => receiveRounds rounds (r.receiveNext S Z E)

/-- `seds_router_process_rx_queue`: receipt puts nothing into `rx_queue`. -/
def processRxQueue (r : Router) : Router := receiveRounds S Z E r.rxQueue.items.length r

end

end Router

end SedsNet
