import SedsNet.Router.Receive
import SedsNet.Routing

/-!
# What a router does with a packet it sends

`transmit_item` for routers (`src/router_core.cpp`) and the end-to-end bookkeeping around it: which nodes a
reliable packet is expected to reach, the entry that remembers them, and the timeouts that send the packet
again (`expected_end_to_end_destinations`, `reconcile_end_to_end_reliable_destinations`,
`process_end_to_end_reliable_timeouts`). Below it is the drain of the transmit queue (`src/router_api.cpp`).
-/

set_option autoImplicit false

namespace SedsNet

/-- `is_end_to_end_destination_sender`. -/
def isEndToEndDestinationSender (sender : Bytes) : Bool := sender != ascii "RELAY" && !isEndToEndAckSender sender

/-- `board_matches_any_endpoint`. -/
def TopologyBoardNode.matchesAny (board : TopologyBoardNode) (endpoints : List UInt32) : Bool :=
  endpoints.any fun ep => board.reachableEndpoints.contains ep

namespace SenderState

/-- The destinations an announcer offers for a packet: its boards that list an endpoint of it, or the
    announcer itself when it has told nothing about boards. -/
def destinations (state : SenderState) (sender : Bytes) (endpoints : List UInt32) : List UInt64 :=
  let boards := state.topologyBoards.filter fun board =>
    isEndToEndDestinationSender board.senderId && board.matchesAny endpoints
  if state.topologyBoards.isEmpty then
    if isEndToEndDestinationSender sender && endpoints.any (fun ep => decide (ep ∈ state.endpoints)) then
      [senderHash sender]
    else []
  else boards.map fun board => senderHash board.senderId

/-- Whether an announcer still knows a destination. -/
def knows (state : SenderState) (sender : Bytes) (hash : UInt64) : Bool :=
  (state.topologyBoards.any fun board =>
    isEndToEndDestinationSender board.senderId && senderHash board.senderId == hash) ||
  (state.topologyBoards.isEmpty && isEndToEndDestinationSender sender && senderHash sender == hash)

end SenderState

/-- `out[hash] = side`, until `cap` entries are there. -/
def collectDestinations (cap : Nat) : List (UInt64 × Int32) → Map UInt64 Int32 → Map UInt64 Int32
  | [], out => out
  | (hash, side) :: rest, out =>
    let out := out.insert hash side
    if out.entries.length ≥ cap then out else collectDestinations cap rest out

namespace Owner

section

variable (S : Schema) (Z : Codec) (E : Env)

/-- What the live routes of usable sides offer for a packet, in the order of the route table. -/
def offeredDestinations (o : Owner) (pkt : PacketData) (now : UInt64) : List (UInt64 × Int32) :=
  o.discoveryRoutes.entries.flatMap fun e =>
    if now - e.2.lastSeenMs > kDiscoveryTtlMs then []
    else
      match o.sideAt e.1 with
      | none => []
      | some side =>
        if !side.egressEnabled || (S.packetRequiresLinkLocal pkt && !side.linkLocalEnabled) then []
        else
          e.2.announcers.entries.flatMap fun a =>
            (a.2.destinations a.1 pkt.endpoints).map fun hash => (hash, e.1)

/-- `expected_end_to_end_destinations`. -/
def expectedEndToEndDestinations (o : Owner) (pkt : PacketData) : Map UInt64 Int32 × Owner :=
  let (now, o) := o.nowMs E
  (collectDestinations o.tuning.reliableMaxEndToEndPending (o.offeredDestinations S pkt now) ∅, o)

/-- One pending destination in `reconcile_end_to_end_reliable_destinations`: whether it stays. The clock is
    read only when the side has a route. -/
def stillPending (o : Owner) (requireLinkLocal : Bool) (hash : UInt64) (sideId : Int32) : Bool × Owner :=
  match o.sideAt sideId with
  | none => (false, o)
  | some side =>
    if !side.egressEnabled || (requireLinkLocal && !side.linkLocalEnabled) then (false, o)
    else
      match o.discoveryRoutes.lookup sideId with
      | none => (false, o)
      | some route =>
        let (now, o) := o.nowMs E
        (decide (now - route.lastSeenMs ≤ kDiscoveryTtlMs) && route.announcers.entries.any fun a => a.2.knows a.1 hash, o)

/-- The loop over the pending destinations of one packet. -/
def reconcilePending (requireLinkLocal : Bool) (p : Map UInt64 Int32 × Owner) (e : (_ : UInt64) × Int32) :
    Map UInt64 Int32 × Owner :=
  let (stays, o) := p.2.stillPending E requireLinkLocal e.1 e.2
  (if stays then p.1 else p.1.erase e.1, o)

/-! ## Sending -/

variable (device : Bytes) (locals : List LocalEndpoint)

/-- What a router tells its handlers when a side refuses a packet. -/
def reportTxFailure (o : Owner) (side : Side) (rc : SedsResult) (pkt : PacketData) : Owner :=
  if pkt.ty ≠ SEDS_DT_TELEMETRY_ERROR then
    dispatchLocalFromPacket S Z E device locals
      (makeRouterErrorPacket device (localEndpointsForError S locals) (txErrorMessage side rc)) o
  else o

/-- The loop over the targets. A deferred frame ends it. -/
def routerTransmitTo (item : TxItem) : List Int32 → Bool → Owner → SedsResult × Owner
  | [], failed, o => (if failed then SEDS_HANDLER_ERROR else SEDS_OK, o)
  | sideId :: rest, failed, o =>
    match o.egressSide sideId with
    | none => routerTransmitTo item rest failed o
    | some side =>
      let (rc, o) := o.sendToSide S Z E sideId side item
      if rc = SEDS_OK then routerTransmitTo item rest failed o
      else if o.isDeferred side rc then ( SEDS_IO, { o with sideTxDeferred := false })
      else routerTransmitTo item rest true (reportTxFailure S Z E device locals o side rc item.pkt)

end

end Owner

namespace Router

section

variable (S : Schema) (Z : Codec) (E : Env)

/-- `remember_end_to_end_reliable_tx`, and the entry that is then written. -/
def rememberEndToEnd (r : Router) (pkt : PacketData) (pending : Map UInt64 Int32) : Router :=
  let (id, o) := r.toOwner.packetId S pkt
  let (gone, order) := rememberId r.tuning.reliableMaxEndToEndPending r.endToEndReliableTxOrder id
  let (now, o) := o.nowMs E
  { r.setOwner (o.observe (.tracks id)) with
    endToEndReliableTxOrder := order
    endToEndReliableTx :=
      (gone.foldl (fun m old => m.erase old) r.endToEndReliableTx).insert id ⟨pkt, pending, true, now, 0, false⟩ }

/-- Whether a selected side is one on which end-to-end delivery is tracked. -/
def tracksSide (o : Owner) (sideId : Int32) : Bool :=
  match o.sideAt sideId with
  | some side => side.reliableEnabled && side.serializedTx
  | none => false

/-- The end-to-end block of `transmit_item`: run for the first tracked side, and left after it. -/
def trackEndToEnd (r : Router) (pkt : PacketData) (sides : List Int32) : Router :=
  if S.isReliableType pkt.ty && !isInternalControlType pkt.ty && sides.any (tracksSide r.toOwner) then
    let (pending, o) := r.toOwner.expectedEndToEndDestinations S E pkt
    let r := r.setOwner o
    if pending.entries.isEmpty then r else rememberEndToEnd S E r pkt pending
  else r

/-- Local delivery of an item that asks for it; `false` when a handler failed, which ends `transmit_item`. -/
def deliverLocal (r : Router) (item : TxItem) : Bool × Router :=
  if item.deliverLocal then
    let (rc, o) := Owner.dispatchLocalPacketHandlers S E r.deviceIdentifier r.locals item.pkt r.toOwner
    if rc ≠ SEDS_OK then (false, r.setOwner o)
    else
      (true, r.setOwner (Owner.dispatchLocalSerializedHandlers E r.locals item.pkt.endpoints
        (serializePacket S Z item.pkt) o))
  else (true, r)

/-- The time source a time request should reach. -/
def preferredSource (r : Router) (pkt : PacketData) : Option Bytes :=
  if pkt.ty = SEDS_DT_TIME_SYNC_REQUEST ∧ r.timesync.currentSource ≠ [] then some r.timesync.currentSource else none

/-- `transmit_item`. -/
def transmitItem (r : Router) (item : TxItem) : SedsResult × Router :=
  match deliverLocal S Z E r item with
  | (false, r) => (SEDS_HANDLER_ERROR, r)
  | (true, r) =>
    let (sides, o) := r.toOwner.targets S E item (r.preferredSource item.pkt)
    let r := trackEndToEnd S E (r.setOwner o) item.pkt sides
    let (rc, o) := Owner.routerTransmitTo S Z E r.deviceIdentifier r.locals item sides false r.toOwner
    (rc, r.setOwner o)

/-! ## Timeouts -/

/-- One entry in `reconcile_end_to_end_reliable_destinations`. -/
def reconcileEntry (r : Router) (e : (_ : UInt64) × EndToEndReliableSent) : Router :=
  if !e.2.trackedDestinations then r
  else
    let (pending, o) := e.2.pendingDestinations.entries.foldl
      (Owner.reconcilePending E (S.packetRequiresLinkLocal e.2.pkt)) (e.2.pendingDestinations, r.toOwner)
    { r.setOwner o with
      endToEndReliableTx :=
        if pending.entries.isEmpty then r.endToEndReliableTx.erase e.1
        else r.endToEndReliableTx.insert e.1 { e.2 with pendingDestinations := pending } }

/-- `reconcile_end_to_end_reliable_destinations`. -/
def reconcileEndToEndReliableDestinations (r : Router) : Router :=
  r.endToEndReliableTx.entries.foldl (reconcileEntry S E) r

/-- Whether an entry is due: neither queued nor sent within the last 200 ms. -/
def endToEndDue (now : UInt64) (sent : EndToEndReliableSent) : Bool := !sent.queued && !(now - sent.lastSendMs < 200)

/-- The first loop of `process_end_to_end_reliable_timeouts`: entries that are due go after 8 retries, and
    are marked for another one before. -/
def expireEndToEnd (now : UInt64) (m : Map UInt64 EndToEndReliableSent) : Map UInt64 EndToEndReliableSent :=
  Map.mapValues (fun sent =>
      if endToEndDue now sent then { sent with retries := sent.retries + 1, queued := true } else sent)
    (m.keepIf fun _ sent => !(endToEndDue now sent && decide (sent.retries ≥ 8)))

/-- The ids that loop marks. -/
def endToEndRequeued (now : UInt64) (m : Map UInt64 EndToEndReliableSent) : List UInt64 :=
  (m.entries.filter fun e => endToEndDue now e.2 && !decide (e.2.retries ≥ 8)).map (·.1)

/-- The second loop: the packet goes to each side that still has a destination pending, ahead of everything
    in the transmit queue. -/
def requeueEndToEnd (now : UInt64) (r : Router) (id : UInt64) : Router :=
  match r.endToEndReliableTx.lookup id with
  | none => r
  | some sent =>
    let sides := sortDedup (sent.pendingDestinations.entries.map (·.2))
    if sent.trackedDestinations && sides.isEmpty then
      { r with endToEndReliableTx := r.endToEndReliableTx.erase id }
    else
      let o := sides.foldl (fun o side => o.enqueueTxFront ⟨sent.pkt, none, some side, false⟩) r.toOwner
      let o := if sent.trackedDestinations then o else o.enqueueTxFront ⟨sent.pkt, none, none, false⟩
      { r.setOwner (o.observe (.requeues id)) with
        endToEndReliableTx := r.endToEndReliableTx.insert id { sent with lastSendMs := now, queued := false } }

/-- `process_end_to_end_reliable_timeouts`. -/
def processEndToEndReliableTimeouts (r : Router) : Router :=
  let (now, o) := r.toOwner.nowMs E
  let r := reconcileEndToEndReliableDestinations S E (r.setOwner o)
  (endToEndRequeued now r.endToEndReliableTx).foldl (requeueEndToEnd now)
    { r with endToEndReliableTx := expireEndToEnd now r.endToEndReliableTx }

/-! ## The drain -/

/-- One round of the drain of the transmit queue: the code of the round, or `none` when the queue is empty.
    A deferred item goes back to the front, and the code is `SEDS_IO`. -/
def transmitNext (r : Router) : Option SedsResult × Router :=
  match r.txQueue.pop TxItem.byteCost with
  | none => (none, r)
  | some (item, queue) =>
    let (rc, r) := transmitItem S Z E (r.setOwner { r.toOwner with txQueue := queue }) item
    (some rc, if rc = SEDS_IO then r.setOwner (r.toOwner.enqueueTxFront item) else r)

/-- The drain, `rounds` rounds long: it ends at the first code that is not `SEDS_OK`. -/
def transmitRounds : Nat → Router → SedsResult × Router
  | 0, r => (SEDS_OK, r)
  | rounds + 1, r =>
    match transmitNext S Z E r with
    | (none, r) => (SEDS_OK, r)
    | (some rc, r) =>
      if rc = SEDS_OK then transmitRounds rounds r
      else (if rc = SEDS_IO then SEDS_OK else rc, r)

/-- `seds_router_process_tx_queue`: sending puts nothing into `tx_queue`, so the loop ends after as many
    rounds as there are packets in it. -/
def processTxQueue (r : Router) : SedsResult × Router :=
  let r := processEndToEndReliableTimeouts S E (r.setOwner (r.toOwner.doReliableTimeouts E))
  transmitRounds S Z E r.txQueue.items.length r

end

end Router

end SedsNet
