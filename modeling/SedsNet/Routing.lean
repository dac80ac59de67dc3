import SedsNet.Ingress

/-!
# Where a packet goes

`apply_policy` (`src/core.cpp`), `default_candidates` and `select_destinations` (`src/router_core.cpp`), and
the step both versions of `transmit_item` take for one selected side.

The candidates are sorted before they are used, so the order of the route table does not matter.
-/

set_option autoImplicit false

namespace SedsNet

/-! ## Policies -/

namespace RoutePolicy

/-- The weight of a side: 1 when it has none, and at least 1. -/
def weightOf (policy : RoutePolicy) (sideId : Int32) : UInt64 :=
  match policy.weights.lookup sideId with
  | some weight => (max 1 weight).toUInt64
  | none => 1

/-- The priority of a side: `UINT32_MAX / 2` when it has none. -/
def priorityOf (policy : RoutePolicy) (sideId : Int32) : UInt32 :=
  (policy.priorities.lookup sideId).getD 0x7FFFFFFF

/-- The loop of the failover mode: the first side with the smallest priority. -/
def failover (policy : RoutePolicy) : List Int32 → Int32 → UInt32 → Int32
  | [], best, _ => best
  | side :: sides, best, bestPri =>
    if policy.priorityOf side < bestPri then failover policy sides side (policy.priorityOf side)
    else failover policy sides best bestPri

/-- The loop of the weighted mode: the side whose share of the weights contains `pick`. -/
def share (policy : RoutePolicy) (pick : UInt64) : List Int32 → UInt64 → Option Int32
  | [], _ => none
  | side :: sides, running =>
    let running := running + policy.weightOf side
    if pick < running then some side else share policy pick sides running

/-- `apply_policy`: the sides to use, and the policy with its counter moved. -/
def apply (policy : RoutePolicy) (sides : List Int32) : List Int32 × RoutePolicy :=
  match sides with
  | [] => ([], policy)
  | first :: _ =>
    match policy.mode with
    | .Fanout => (sides, policy)
    | .Failover => ([policy.failover sides first 0xFFFFFFFF], policy)
    | .Weighted =>
      let total := sides.foldl (fun total side => total + policy.weightOf side) 0
      if total = 0 then ([first], policy)
      else
        ([(policy.share (policy.rrCounter % total) sides 0).getD first],
         { policy with rrCounter := policy.rrCounter + 1 })

end RoutePolicy

namespace Owner

/-! ## Candidates -/

section

variable (S : Schema) (E : Env)

/-- The sides with a live route that passes, other than the one the packet came from. -/
def routedSides (o : Owner) (pkt : PacketData) (srcSide : Option Int32) (now : UInt64)
    (passes : DiscoveryRoute → Bool) : List Int32 :=
  o.discoveryRoutes.entries.filterMap fun e =>
    if srcSide = some e.1 ∨ now - e.2.lastSeenMs > kDiscoveryTtlMs then none
    else
      match o.sideAt e.1 with
      | none => none
      | some side =>
        if S.packetRequiresLinkLocal pkt && !side.linkLocalEnabled then none
        else if passes e.2 then some e.1 else none

/-- All sides that may send, other than the one the packet came from. -/
def openSides (o : Owner) (pkt : PacketData) (srcSide : Option Int32) : List Int32 :=
  o.sides.zipIdx.filterMap fun p =>
    if srcSide = some (Int32.ofNat p.2) then none
    else if p.1.egressEnabled && (!S.packetRequiresLinkLocal pkt || p.1.linkLocalEnabled) then
      some (Int32.ofNat p.2)
    else none

/-- `default_candidates`: the sides that lead to the preferred time source, or to one of the endpoints, or
    all of them. -/
def defaultCandidates (o : Owner) (pkt : PacketData) (srcSide : Option Int32) (preferred : Option Bytes)
    (now : UInt64) : List Int32 :=
  let sources :=
    match preferred with
    | some source => o.routedSides S pkt srcSide now fun route => decide (source ∈ route.timesyncSources)
    | none => []
  if !sources.isEmpty then sortDedup sources
  else
    let routed := o.routedSides S pkt srcSide now fun route =>
      pkt.endpoints.any fun ep => ep == SEDS_EP_DISCOVERY || decide (ep ∈ route.endpoints)
    sortDedup (if routed.isEmpty then o.openSides S pkt srcSide else routed)

/-! ## Selection -/

/-- The checks on a candidate; `src` is -1 for a packet of the owner's own. -/
def routeAllows (o : Owner) (pkt : PacketData) (src sideId : Int32) : Bool :=
  match o.sideAt sideId with
  | none => false
  | some side =>
    if !side.egressEnabled || !S.sideAcceptsPacket side pkt then false
    else if o.routeOverrides.lookup (src, sideId) = some false then false
    else
      match o.typedRouteOverrides.lookup (src, pkt.ty, sideId) with
      | some enabled => enabled
      | none =>
        -- an entry for another side shuts this one out; a route entry can only be `true` here
        !o.typedRouteOverrides.entries.any fun e => e.1.1 == src && e.1.2.1 == pkt.ty

/-- `select_destinations`. -/
def selectDestinations (o : Owner) (policy : RoutePolicy) (item : TxItem) (preferred : Option Bytes)
    (now : UInt64) : List Int32 × RoutePolicy :=
  match item.dstSide with
  | some dst => ([dst], policy)
  | none =>
    policy.apply ((o.defaultCandidates S item.pkt item.srcSide preferred now).filter
      (o.routeAllows S item.pkt (item.srcSide.getD (-1))))

/-- The policy of a source: `source_policy[*src_side]`, or `local_policy`. -/
def policyOf (o : Owner) : Option Int32 → RoutePolicy
  | some src => Map.getOr o.sourcePolicy src .new
  | none => o.localPolicy

def setPolicyOf (o : Owner) (src : Option Int32) (policy : RoutePolicy) : Owner :=
  match src with
  | some src => { o with sourcePolicy := o.sourcePolicy.insert src policy }
  | none => { o with localPolicy := policy }

/-- The beginning of `transmit_item`: the targets of an item. -/
def targets (o : Owner) (item : TxItem) (preferred : Option Bytes) : List Int32 × Owner :=
  let (now, o) := o.nowMs E
  let (sides, policy) := o.selectDestinations S (o.policyOf item.srcSide) item preferred now
  (sides, o.setPolicyOf item.srcSide policy)

end

/-! ## One side -/

section

variable (S : Schema) (Z : Codec) (E : Env)

/-- A packet goes to the callback of a side, serialized if the side has a callback for frames. -/
def sendToSide (o : Owner) (sideId : Int32) (side : Side) (item : TxItem) : SedsResult × Owner :=
  let o := o.observe (.sends sideId item)
  if side.serializedTx then o.sendSerializedWithReliable S Z E sideId item.pkt
  else if side.packetTx then o.call E (.packetTx sideId item.pkt)
  else (SEDS_OK, o)

/-- Whether a refused frame is to be tried again later: `rc == SEDS_IO && owner.side_tx_deferred`. -/
def isDeferred (o : Owner) (side : Side) (rc : SedsResult) : Bool :=
  side.serializedTx && rc == SEDS_IO && o.sideTxDeferred

/-- The checks before a side is used: it exists, and may send. -/
def egressSide (o : Owner) (sideId : Int32) : Option Side :=
  match o.sideAt sideId with
  | none => none
  | some side => if side.egressEnabled then some side else none

end

end Owner

end SedsNet
