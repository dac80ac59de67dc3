import Mathlib.Data.Finset.Sort
import SedsNet.Config

/-!
# Discovery announcements

`queue_discovery_packets` of `src/discovery.cpp`: what a router or relay tells its neighbours about itself
and about the boards it has heard of. Routers and relays differ in what they say about themselves only, which
is a `LocalBoard` here.

The three packets for a side are built from three separate collections of what is known, each with a clock
reading of its own. `build_discovery_topology` throws when the schema has no valid topology type; the
exception ends the call and leaves what was queued before it.
-/

set_option autoImplicit false

namespace SedsNet

/-! ## Payloads -/

/-- `append_string` of `build_discovery_topology`. -/
def encodeSizedString (s : Bytes) : Bytes := appendLe32 (UInt32.ofNat s.length) ++ s

def encodeBoard (board : TopologyBoardNode) : Bytes :=
  encodeSizedString board.senderId ++
    (appendLe32 (UInt32.ofNat board.reachableEndpoints.length) ++ board.reachableEndpoints.flatMap appendLe32) ++
    (appendLe32 (UInt32.ofNat board.reachableTimesyncSources.length) ++
      board.reachableTimesyncSources.flatMap encodeSizedString) ++
    (appendLe32 (UInt32.ofNat board.connections.length) ++ board.connections.flatMap encodeSizedString)

/-- The payload of `build_discovery_topology`. -/
def encodeDiscoveryTopology (boards : List TopologyBoardNode) : Bytes :=
  let normalized := normalizeTopologyBoards boards
  appendLe32 (UInt32.ofNat normalized.length) ++ normalized.flatMap encodeBoard

def encodeDiscoveryTimesyncSources (sources : List Bytes) : Bytes :=
  appendLe32 (UInt32.ofNat sources.length) ++ sources.flatMap encodeSizedString

/-! ## What is known -/

/-- The loop body of `merge_topology_boards`. -/
def mergeBoard (dst : List TopologyBoardNode) (board : TopologyBoardNode) : List TopologyBoardNode :=
  match dst.findIdx? (·.senderId == board.senderId) with
  | none => dst ++ [board]
  | some i => dst.modify i fun b =>
    { b with
      reachableEndpoints := b.reachableEndpoints ++ board.reachableEndpoints
      reachableTimesyncSources := b.reachableTimesyncSources ++ board.reachableTimesyncSources
      connections := b.connections ++ board.connections }

/-- `merge_topology_boards`. -/
def mergeTopologyBoards (dst src : List TopologyBoardNode) : List TopologyBoardNode :=
  normalizeTopologyBoards (src.foldl mergeBoard dst)

/-- Heard from within the last 30 seconds. -/
def isLive (now lastSeenMs : UInt64) : Bool := decide (now - lastSeenMs ≤ kDiscoveryTtlMs)

/-- The inner loop of `prune_discovery_routes`. -/
def DiscoveryRoute.expire (route : DiscoveryRoute) (now : UInt64) : DiscoveryRoute :=
  DiscoveryRoute.recompute { route with announcers := route.announcers.keepIf fun _ state => isLive now state.lastSeenMs }

/-- `prune_discovery_routes`: whether anything changed, and the routes left. -/
def pruneDiscoveryRoutes (routes : Map Int32 DiscoveryRoute) (now : UInt64) : Bool × Map Int32 DiscoveryRoute :=
  let stays (route : DiscoveryRoute) : Bool := !route.announcers.entries.isEmpty && isLive now route.lastSeenMs
  (routes.entries.any fun e =>
    (e.2.announcers.entries.any fun a => !isLive now a.2.lastSeenMs) || !stays (e.2.expire now),
   (Map.mapValues (·.expire now) routes).keepIf fun _ route => stays route)

/-- What a node says about itself; link-local endpoints are only for link-local sides. -/
structure LocalBoard where
  sender : Bytes
  endpoints : Bool → List UInt32
  sources : List Bytes

/-- `local_relay_topology_board`, less the connections. -/
def LocalBoard.relay : LocalBoard := ⟨ascii "RELAY", fun _ => [], []⟩

-- the order of the names that `Finset.sort` goes by
instance : IsTrans Bytes fun x y => x ≤ y := inferInstance

instance : Std.Antisymm fun x y : Bytes => x ≤ y := inferInstance

instance : Std.Total fun x y : Bytes => x ≤ y := inferInstance

/-- The boards one announcer is good for. -/
def SenderState.advertised (state : SenderState) (announcer localSender : Bytes) : List TopologyBoardNode :=
  if state.topologyBoards.isEmpty then [⟨announcer, state.endpoints.sort, state.timesyncSources.sort, [localSender]⟩]
  else
    match state.topologyBoards.findIdx? (·.senderId == announcer) with
    | none => state.topologyBoards
    | some i => state.topologyBoards.modify i fun b => { b with connections := b.connections ++ [localSender] }

namespace Owner

/-- The live announcers on live routes. -/
def liveAnnouncers (o : Owner) (now : UInt64) : List (Bytes × SenderState) :=
  (o.discoveryRoutes.entries.filter fun e => isLive now e.2.lastSeenMs).flatMap fun e =>
    (e.2.announcers.entries.filter fun a => isLive now a.2.lastSeenMs).map fun a => (a.1, a.2)

/-- `link_local_enabled` of the side, which exists. -/
def linkLocalOn (o : Owner) (sideId : Int32) : Bool :=
  match o.sideAt sideId with
  | some side => side.linkLocalEnabled
  | none => false

/-- `advertised_discovery_topology_for_side`, at a clock reading. -/
def advertisedTopology (S : Schema) (L : LocalBoard) (o : Owner) (sideId : Int32) (now : UInt64) : List TopologyBoardNode :=
  let linkLocalEnabled := o.linkLocalOn sideId
  let own : TopologyBoardNode :=
    ⟨L.sender, L.endpoints linkLocalEnabled, L.sources, sortDedup ((o.liveAnnouncers now).map (·.1))⟩
  normalizeTopologyBoards ((o.liveAnnouncers now).foldl (fun boards a =>
    mergeTopologyBoards boards ((a.2.advertised a.1 L.sender).map
      (·.hide fun ep => !linkLocalEnabled && S.endpointLinkLocalOnly ep))) [own])

/-- `advertised_endpoints_for_side`, from the boards. -/
def advertisedEndpoints (S : Schema) (o : Owner) (sideId : Int32) (boards : List TopologyBoardNode) : List UInt32 :=
  (summarizeTopologyBoards boards).1.filter fun ep =>
    !(ep == SEDS_EP_DISCOVERY || (!o.linkLocalOn sideId && S.endpointLinkLocalOnly ep))

/-! ## What is sent -/

section

variable (S : Schema) (E : Env) (L : LocalBoard)

/-- A packet of the node's own for one side, ahead of everything in the transmit queue. -/
def queueFor (o : Owner) (sideId : Int32) (pkt : PacketData) : Owner := o.enqueueTxFront ⟨pkt, none, some sideId, false⟩

/-- `make_internal_packet`, with the sender put in. -/
def discoveryPacket (ty : UInt32) (now : UInt64) (payload : Bytes) : PacketData :=
  ⟨ty, L.sender, (S.typeAt ty.toNat).endpoints, now, payload⟩

/-- The packets for one side; `false` is the exception. -/
def announceSide (now : UInt64) (o : Owner) (sideId : Int32) : Bool × Owner :=
  let (t₁, o) := o.nowMs E
  let topology := encodeDiscoveryTopology (o.advertisedTopology S L sideId t₁)
  if !validatePayload S o.tuning SEDS_DT_DISCOVERY_TOPOLOGY topology.length then (false, o)
  else
    let (t₂, o) := o.nowMs E
    let sources := (summarizeTopologyBoards (o.advertisedTopology S L sideId t₂)).2
    let o := o.queueFor sideId ⟨SEDS_DT_DISCOVERY_TOPOLOGY, L.sender, [SEDS_EP_DISCOVERY], now, topology⟩
    let o :=
      if sources.isEmpty then o
      else
        o.queueFor sideId
          (discoveryPacket S L SEDS_DT_DISCOVERY_TIMESYNC_SOURCES now (encodeDiscoveryTimesyncSources sources))
    let (t₃, o) := o.nowMs E
    let endpoints := o.advertisedEndpoints S sideId (o.advertisedTopology S L sideId t₃)
    (true, o.queueFor sideId (discoveryPacket S L SEDS_DT_DISCOVERY_ANNOUNCE now (endpoints.flatMap appendLe32)))

/-- The loop over the sides that may send. -/
def announceSides (now : UInt64) : List (Side × Nat) → Owner → Bool × Owner
  | [], o => (true, o)
  | (side, i) :: rest, o =>
    if !side.egressEnabled then announceSides now rest o
    else
      match announceSide S E L now o (Int32.ofNat i) with
      | (true, o) => announceSides now rest o
      | (false, o) => (false, o)

/-- `queue_discovery_packets`: the announcements, and the time of the next ones. -/
def queueDiscoveryPackets (o : Owner) : Bool × Owner :=
  let (now, o) := o.nowMs E
  let (changed, routes) := pruneDiscoveryRoutes o.discoveryRoutes now
  let o := { o with discoveryRoutes := routes }
  let o := if changed then o.noteDiscoveryTopologyChange now else o
  match announceSides S E L now o.sides.zipIdx o with
  | (false, o) => (false, o)
  | (true, o) =>
    (true, { o with
      discoveryNextMs := now + o.discoveryIntervalMs
      discoveryIntervalMs := min (o.discoveryIntervalMs * 2) kDiscoverySlowMs })

/-- `seds_router_poll_discovery` and `seds_relay_poll_discovery`: when the time has come. -/
def pollDiscovery (o : Owner) : Bool × Owner :=
  let (now, o) := o.nowMs E
  if now ≥ o.discoveryNextMs then queueDiscoveryPackets S E L o else (true, o)

end

end Owner

end SedsNet
