import SedsNet.Discovery
import SedsNet.Reliable

/-!
# What routers and relays do with arriving frames

The steps the ingress functions of `src/router_api.cpp` and `src/relay_api.cpp` are put together from,
and the parts of `router_receive_impl` and `relay_receive_impl` that are the same: hop-level control
packets and the return routes of reliable packets.
-/

set_option autoImplicit false

namespace SedsNet

/-! ## End-to-end senders -/

/-- `is_internal_control_type`. -/
def isInternalControlType (ty : UInt32) : Bool :=
  ty == SEDS_DT_RELIABLE_ACK || ty == SEDS_DT_RELIABLE_PARTIAL_ACK || ty == SEDS_DT_RELIABLE_PACKET_REQUEST

def kEndToEndAckSender : Bytes := ascii "E2EACK"
def kEndToEndAckPrefix : Bytes := ascii "E2EACK:"

def isEndToEndAckSender (sender : Bytes) : Bool :=
  sender == kEndToEndAckSender || kEndToEndAckPrefix.isPrefixOf sender

def decodeEndToEndAckSenderHash (sender : Bytes) : Option UInt64 :=
  if !kEndToEndAckPrefix.isPrefixOf sender || sender.length ≤ kEndToEndAckPrefix.length then none
  else some (senderHash (sender.drop kEndToEndAckPrefix.length))

/-- The bookkeeping of the three bounded id caches (`remember_reliable_return_route`,
    `remember_end_to_end_reliable_tx`, `note_end_to_end_acked_destination`): the id becomes the newest,
    and the oldest ids go until there is room. The ids that go, and the order after. -/
def rememberId (cap : Nat) (order : List UInt64) (id : UInt64) : List UInt64 × List UInt64 :=
  let order := order.filter (· ≠ id)
  let gone := order.length + 1 - max 1 cap
  (order.take gone, order.drop gone ++ [id])

/-- The entries of `kEndpointNames` a parser compared. -/
def comparedNames (S : Schema) (trace : List Access) : List (Option (Option String)) :=
  trace.filterMap fun
    | .endpointName i => some S.kEndpointNames[i]?
    | _ => none

namespace Owner

section

variable (S : Schema) (Z : Codec) (E : Env)

/-! ## Arrival -/

/-- `peek_frame_info(bytes, len, true)`, on record. -/
def peekFrameInfo (o : Owner) (bytes : Bytes) : Option FrameInfoLite × Owner :=
  (SedsNet.peekFrameInfo S Z bytes true,
   o.observe (.compare (comparedNames S ((Read.peekFrameInfo S Z bytes true).trace 0))))

/-- `deserialize_packet`, on record. -/
def deserializePacket (o : Owner) (bytes : Bytes) : Option PacketData × Owner :=
  (SedsNet.deserializePacket S Z bytes,
   o.observe (.compare (comparedNames S ((Read.deserializePacket S Z bytes).trace 0))))

/-- `packet_id_from_wire`, on record. -/
def packetIdFromWire (o : Owner) (bytes : Bytes) : Option UInt64 × Owner :=
  let (pkt, o) := o.deserializePacket S Z bytes
  match pkt with
  | none => (none, o)
  | some pkt =>
    let (id, o) := o.packetId S pkt
    (some id, o)

/-- The two checks on a side that end in `SEDS_INVALID_LINK_ID`. -/
def ingressOpen (o : Owner) (sideId : UInt32) : Bool :=
  match o.sides[sideId.toNat]? with
  | some side => side.ingressEnabled
  | none => false

/-- The `ack_only()` branch: the header is handled and there is no packet. -/
def ingestAck (o : Owner) (sideId : UInt32) (frame : FrameInfoLite) (bytes : Bytes) : Owner :=
  let env := frame.envelope
  (o.processReliableIngress S E sideId.toInt32 frame
    ⟨env.ty, env.sender, env.endpoints, env.timestampMs, []⟩ bytes).2

/-- The loop over `reliable_released_rx`, and its `clear()`. -/
def flushReleased (o : Owner) : Owner :=
  { o.reliableReleasedRx.foldl (fun o item => (o.enqueueRx item).2) o with reliableReleasedRx := [] }

/-! ## Receipt -/

/-- `note_reliable_return_route`. -/
def noteReliableReturnRoute (o : Owner) (sideId : Int32) (id : UInt64) : Owner :=
  let (gone, order) := rememberId o.tuning.reliableMaxReturnRoutes o.reliableReturnRouteOrder id
  { o with
    reliableReturnRouteOrder := order
    reliableReturnRoutes := (gone.foldl (fun m old => m.erase old) o.reliableReturnRoutes).insert id sideId }

/-- The way back to the source of a reliable packet is noted under both of its ids. -/
def noteReturnRoutes (o : Owner) (pkt : PacketData) (srcSide : Option Int32) (id : UInt64) : Owner :=
  match srcSide with
  | none => o
  | some sideId =>
    if S.isReliableType pkt.ty && !isInternalControlType pkt.ty then
      let (sourceId, o) := (o.noteReliableReturnRoute sideId id).sourcePacketId S pkt
      if sourceId ≠ id then o.noteReliableReturnRoute sideId sourceId else o
    else o

/-- A hop-level ACK, partial ACK or packet request: `{wire type, number}` in the payload. -/
def handleReliableControl (o : Owner) (pkt : PacketData) (srcSide : Option Int32) : Owner :=
  match srcSide with
  | none => o
  | some sideId =>
    if pkt.payload.length ≠ 8 then o
    else
      let wire := loadLe32 pkt.payload 0
      let seq := loadLe32 pkt.payload 4
      let ty := (S.localTypeId wire).getD wire
      if pkt.ty = SEDS_DT_RELIABLE_ACK then o.handleAck S sideId ty seq
      else if pkt.ty = SEDS_DT_RELIABLE_PARTIAL_ACK then o.handlePartialAck sideId ty seq
      else o.handlePacketRequest E sideId ty seq

end

end Owner

end SedsNet
