import SedsNet.Routing

/-!
# Configuration

The calls of `src/router_api.cpp` and `src/relay_api.cpp` that change how a router or relay is set up while
it runs: sides are added, removed and switched, routes and policies are set, queues are cleared. The two
files have them word for word twice, so they are written once here, on the owner. The tuning is one for the
whole process (`src/upstream_api_compat.cpp`); an owner reads it through the `runtime_*` accessors.

The other operation on both queues, `enforce_shared_queue_budget` (`Cpp-Headers/internal.hpp`), is at the
end.
-/

set_option autoImplicit false

namespace SedsNet

/-- The side `seds_router_add_side_packet` and `seds_relay_add_side_packet` push. -/
def Side.packet (name : Bytes) (reliableEnabled : Bool) : Side :=
  ⟨name, false, true, reliableEnabled, false, true, true⟩

/-- `valid_runtime_tuning_config`. -/
def Tuning.valid (t : Tuning) : Bool :=
  t.staticStringLength != 0 && t.staticHexLength != 0 && t.maxHandlerRetries != 0 && t.reliableRetransmitMs != 0 && t.reliableMaxRetries != 0 &&
    t.reliableMaxPending != 0 && t.reliableMaxReturnRoutes != 0 && t.reliableMaxEndToEndPending != 0 &&
    t.reliableMaxEndToEndAckCache != 0

namespace RoutePolicy

/-- What a policy keeps when a side goes. -/
def withoutSide (policy : RoutePolicy) (sideId : Int32) : RoutePolicy :=
  { policy with weights := policy.weights.erase sideId, priorities := policy.priorities.erase sideId }

end RoutePolicy

/-- A queued packet that comes from a side, or is addressed to it. -/
def TxItem.mentions (item : TxItem) (sideId : Int32) : Bool := item.srcSide == some sideId || item.dstSide == some sideId

namespace Owner

/-! ## Sides -/

/-- Writes to one side; the callers have checked the index. -/
def modifySide (o : Owner) (sideId : Int32) (f : Side → Side) : Owner :=
  { o with sides := o.sides.modify sideId.toNatClampNeg f }

/-- `erase_tx_items_for_side_locked`. -/
def eraseTxItemsForSide (o : Owner) (sideId : Int32) : Owner :=
  { o with txQueue := o.txQueue.eraseIf TxItem.byteCost (·.mentions sideId) }

/-- `erase_rx_items_for_side_locked`. -/
def eraseRxItemsForSide (o : Owner) (sideId : Int32) : Owner :=
  { o with rxQueue := o.rxQueue.eraseIf RxItem.byteCost (·.srcSide == some sideId) }

/-- The maps a removed side is erased from. -/
def forgetSide (o : Owner) (sideId : Int32) : Owner :=
  { o with
    routeOverrides := o.routeOverrides.keepIf fun k _ => !(k.1 == sideId || k.2 == sideId)
    typedRouteOverrides := o.typedRouteOverrides.keepIf fun k _ => !(k.1 == sideId || k.2.2 == sideId)
    sourcePolicy := Map.mapValues (·.withoutSide sideId) (o.sourcePolicy.erase sideId)
    localPolicy := o.localPolicy.withoutSide sideId
    discoveryRoutes := o.discoveryRoutes.erase sideId
    reliableTx := o.reliableTx.keepIf fun key _ => !((key >>> 32).toUInt32.toInt32 == sideId)
    reliableRx := o.reliableRx.keepIf fun key _ => !((key >>> 32).toUInt32.toInt32 == sideId)
    reliableReturnRoutes := o.reliableReturnRoutes.keepIf fun _ side => !(side == sideId) }

/-- `seds_router_remove_side` and `seds_relay_remove_side`, on a valid index. -/
def removeSide (E : Env) (o : Owner) (sideId : Int32) : Owner :=
  let (now, o) := o.nowMs E
  let o := o.modifySide sideId fun side => { side with ingressEnabled := false, egressEnabled := false }
  (((o.eraseTxItemsForSide sideId).eraseRxItemsForSide sideId).forgetSide sideId).noteDiscoveryTopologyChange now

/-- The end of the calls that switch a side: `note_discovery_change_locked(*r, r->now_ms())`. -/
def noteSideChange (E : Env) (o : Owner) : Owner :=
  let (now, o) := o.nowMs E
  o.noteDiscoveryTopologyChange now

/-- `set_side_egress_enabled`, on a valid index: what waits for a side that is switched off goes. -/
def setSideEgressEnabled (E : Env) (o : Owner) (sideId : Int32) (enabled : Bool) : Owner :=
  let o := o.modifySide sideId ({ · with egressEnabled := enabled })
  (if enabled then o else o.eraseTxItemsForSide sideId).noteSideChange E

/-! ## Settings -/

/-- `policy_for`, and what is then written to the policy. -/
def modifyPolicy (o : Owner) (srcSideId : Int32) (f : RoutePolicy → RoutePolicy) : Owner :=
  if srcSideId < 0 then { o with localPolicy := f o.localPolicy }
  else { o with sourcePolicy := o.sourcePolicy.insert srcSideId (f (Map.getOr o.sourcePolicy srcSideId .new)) }

end Owner

/-- The calls that change the configuration. `clear_source_route_mode` is `setSourceRouteMode _ .Fanout`, and
    `clear_queues` clears one queue after the other. -/
inductive Setting where
  | addSideSerialized (name : Bytes) (reliableEnabled : Bool)
  | addSidePacket (name : Bytes) (reliableEnabled : Bool)
  | removeSide (sideId : Int32)
  | setSideIngressEnabled (sideId : Int32) (enabled : Bool)
  | setSideEgressEnabled (sideId : Int32) (enabled : Bool)
  | setSideLinkLocalEnabled (sideId : Int32) (enabled : Bool)
  | setRoute (srcSideId dstSideId : Int32) (enabled : Bool)
  | clearRoute (srcSideId dstSideId : Int32)
  | setTypedRoute (srcSideId : Int32) (ty : UInt32) (dstSideId : Int32) (enabled : Bool)
  | clearTypedRoute (srcSideId : Int32) (ty : UInt32) (dstSideId : Int32)
  | setSourceRouteMode (srcSideId : Int32) (mode : RouteSelectionMode)
  | setRouteWeight (srcSideId dstSideId : Int32) (weight : UInt32)
  | clearRouteWeight (srcSideId dstSideId : Int32)
  | setRoutePriority (srcSideId dstSideId : Int32) (priority : UInt32)
  | clearRoutePriority (srcSideId dstSideId : Int32)
  | clearTxQueue
  | clearRxQueue
  | setRuntimeTuningConfig (tuning : Tuning)
  deriving DecidableEq, Repr

namespace Owner

/-- A call on one side: `SEDS_INVALID_LINK_ID` unless the side exists. -/
def onSide (o : Owner) (sideId : Int32) (f : Owner → Owner) : SedsResult × Owner :=
  match o.sideAt sideId with
  | none => (SEDS_INVALID_LINK_ID, o)
  | some _ => (SEDS_OK, f o)

def configure (S : Schema) (E : Env) (o : Owner) : Setting → SedsResult × Owner
  | .addSideSerialized name reliableEnabled => (SEDS_OK, { o with sides := o.sides ++ [.serialized name reliableEnabled] })
  | .addSidePacket name reliableEnabled => (SEDS_OK, { o with sides := o.sides ++ [.packet name reliableEnabled] })
  | .removeSide sideId => o.onSide sideId (·.removeSide E sideId)
  | .setSideIngressEnabled sideId enabled =>
    o.onSide sideId fun o => (o.modifySide sideId ({ · with ingressEnabled := enabled })).noteSideChange E
  | .setSideEgressEnabled sideId enabled => o.onSide sideId (·.setSideEgressEnabled E sideId enabled)
  | .setSideLinkLocalEnabled sideId enabled =>
    o.onSide sideId fun o => (o.modifySide sideId ({ · with linkLocalEnabled := enabled })).noteSideChange E
  | .setRoute src dst enabled => (SEDS_OK, { o with routeOverrides := o.routeOverrides.insert (src, dst) enabled })
  | .clearRoute src dst => (SEDS_OK, { o with routeOverrides := o.routeOverrides.erase (src, dst) })
  | .setTypedRoute src ty dst enabled =>
    if !S.validType ty then (SEDS_BAD_ARG, o)
    else (SEDS_OK, { o with typedRouteOverrides := o.typedRouteOverrides.insert (src, ty, dst) enabled })
  | .clearTypedRoute src ty dst => (SEDS_OK, { o with typedRouteOverrides := o.typedRouteOverrides.erase (src, ty, dst) })
  | .setSourceRouteMode src mode => (SEDS_OK, o.modifyPolicy src ({ · with mode := mode }))
  | .setRouteWeight src dst weight =>
    (SEDS_OK, o.modifyPolicy src fun policy => { policy with weights := policy.weights.insert dst weight })
  | .clearRouteWeight src dst =>
    (SEDS_OK, o.modifyPolicy src fun policy => { policy with weights := policy.weights.erase dst })
  | .setRoutePriority src dst priority =>
    (SEDS_OK, o.modifyPolicy src fun policy => { policy with priorities := policy.priorities.insert dst priority })
  | .clearRoutePriority src dst =>
    (SEDS_OK, o.modifyPolicy src fun policy => { policy with priorities := policy.priorities.erase dst })
  | .clearTxQueue => (SEDS_OK, { o with txQueue := o.txQueue.clear })
  | .clearRxQueue => (SEDS_OK, { o with rxQueue := o.rxQueue.clear })
  | .setRuntimeTuningConfig tuning =>
    if tuning.valid then (SEDS_OK, { o with tuning := tuning }) else (SEDS_BAD_ARG, o)

/-! ## The shared budget -/

/-- One round of the loop of `enforce_shared_queue_budget`: `none` when the loop is left. The front of the
    larger queue goes, and of the receive queue when they are equal. -/
def enforceNext (o : Owner) : Option Owner :=
  if o.rxQueue.bytes + o.txQueue.bytes > o.memory.maxQueueBudget then
    if !o.rxQueue.items.isEmpty && (o.txQueue.items.isEmpty || decide (o.rxQueue.bytes ≥ o.txQueue.bytes)) then
      (o.rxQueue.pop RxItem.byteCost).map fun p => { o with rxQueue := p.2 }.observe (.lost p.1)
    else (o.txQueue.pop TxItem.byteCost).map fun p => { o with txQueue := p.2 }
  else none

/-- That loop, `rounds` rounds long. -/
def enforceRounds : Nat → Owner → Owner
  | 0, o => o
  | rounds + 1, o =>
    match o.enforceNext with
    | none => o
    | some o => enforceRounds rounds o

/-- `enforce_shared_queue_budget`: each round takes one item. -/
def enforceSharedQueueBudget (o : Owner) : Owner :=
  enforceRounds (o.rxQueue.items.length + o.txQueue.items.length) o

end Owner

end SedsNet
