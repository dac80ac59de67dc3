import SedsNet.Owner

/-!
# Discovery packets

`handle_discovery_packet` of `src/discovery.cpp`. The source has it twice, for routers and for relays,
with one difference: a router ignores what comes back from itself. The link-local predicates it
filters by are those of `src/core.cpp`.
-/

set_option autoImplicit false

namespace SedsNet

/-! ## Link-local endpoints -/

/-- `endpoint_link_local_only`: some type is addressed to the endpoint, and all that are stay local. -/
def Schema.endpointLinkLocalOnly (S : Schema) (ep : UInt32) : Bool :=
  let rows := S.kTypeInfo.filter (·.endpoints.contains ep)
  S.validEndpoint ep && !rows.isEmpty && rows.all (·.linkLocalOnly)

/-- `packet_requires_link_local`. -/
def Schema.packetRequiresLinkLocal (S : Schema) (pkt : PacketData) : Bool :=
  !pkt.endpoints.isEmpty && pkt.endpoints.all S.endpointLinkLocalOnly

/-- `side_accepts_packet`. -/
def Schema.sideAcceptsPacket (S : Schema) (side : Side) (pkt : PacketData) : Bool :=
  !(S.packetRequiresLinkLocal pkt && !side.linkLocalEnabled)

/-- `is_discovery_control_type`. -/
def isDiscoveryControlType (ty : UInt32) : Bool :=
  ty == SEDS_DT_DISCOVERY_ANNOUNCE || ty == SEDS_DT_DISCOVERY_TIMESYNC_SOURCES ||
    ty == SEDS_DT_DISCOVERY_TOPOLOGY || ty == kDiscoveryLeaveType

/-! ## Routes -/

/-- `prune_leaving_discovery_sender`: whether anything changed, and the routes left. -/
def pruneLeavingDiscoverySender (routes : Map Int32 DiscoveryRoute) (leaving : Bytes) :
    Bool × Map Int32 DiscoveryRoute :=
  (routes.entries.any fun e => e.2.mentions leaving,
   (Map.mapValues (·.withoutSender leaving) routes).keepIf fun _ route => !route.announcers.entries.isEmpty)

/-- What one announcement makes of its sender's state, and whether it changes what was known. In the
    `ANNOUNCE` case the comparison is made before the link-local endpoints are filtered out. -/
def SenderState.announce (S : Schema) (linkLocalEnabled : Bool) (state : SenderState) (pkt : PacketData) :
    Bool × SenderState :=
  let hidden ep := !linkLocalEnabled && S.endpointLinkLocalOnly ep
  if pkt.ty = SEDS_DT_DISCOVERY_ANNOUNCE then
    let reachable := decodeDiscoveryEndpoints S pkt.payload
    let boards := updateSenderBoard state.topologyBoards pkt.sender fun board =>
      { board with reachableEndpoints := reachable }.hide hidden
    ((senderBoard state.topologyBoards pkt.sender).reachableEndpoints != reachable,
     { state with topologyBoards := boards }.refresh)
  else if pkt.ty = SEDS_DT_DISCOVERY_TIMESYNC_SOURCES then
    let sources := decodeDiscoveryTimesyncSources pkt.payload
    let boards := updateSenderBoard state.topologyBoards pkt.sender fun board =>
      { board with reachableTimesyncSources := sources }
    ((senderBoard state.topologyBoards pkt.sender).reachableTimesyncSources != sources,
     { state with topologyBoards := boards }.refresh)
  else if pkt.ty = SEDS_DT_DISCOVERY_TOPOLOGY then
    let boards := (decodeDiscoveryTopologyPacket pkt.payload).map (·.hide hidden)
    (state.topologyBoards != boards, { state with topologyBoards := boards }.refresh)
  else (false, state)

namespace Owner

/-- `note_discovery_topology_change`. -/
def noteDiscoveryTopologyChange (o : Owner) (now : UInt64) : Owner :=
  { o with discoveryIntervalMs := kDiscoveryFastMs, discoveryNextMs := now }

section

variable (S : Schema) (E : Env)

/-- `if (changed) note_discovery_topology_change(owner, owner.now_ms())`. -/
def noteIfChanged (o : Owner) (changed : Bool) : Owner :=
  if changed then
    let (now, o) := o.nowMs E
    o.noteDiscoveryTopologyChange now
  else o

/-- `handle_discovery_packet`; `self` is the router's own sender, and `none` for a relay. -/
def handleDiscoveryPacket (o : Owner) (self : Option Bytes) (pkt : PacketData) (srcSide : Option Int32) : Owner :=
  match srcSide with
  | none => o
  | some sideId =>
    if self = some pkt.sender then o
    else if pkt.ty = kDiscoveryLeaveType then
      let (changed, routes) := pruneLeavingDiscoverySender o.discoveryRoutes pkt.sender
      { o with discoveryRoutes := routes }.noteIfChanged E changed
    else
      let route := Map.getOr o.discoveryRoutes sideId .new
      let linkLocalEnabled :=
        match o.sideAt sideId with
        | some side => side.linkLocalEnabled
        | none => false
      let (changed, state) := (Map.getOr route.announcers pkt.sender .new).announce S linkLocalEnabled pkt
      let heard := Obs.hears o.clockReads (o.nowMs E).1
      let (now, o) := o.nowMs E
      let o := o.observe heard
      let route := { route with announcers := route.announcers.insert pkt.sender { state with lastSeenMs := now } }
      { o with discoveryRoutes := o.discoveryRoutes.insert sideId route.recompute }.noteIfChanged E changed

end

end Owner

/-! ## The discovery endpoint is never advertised -/

/-- Nothing announced on a side lists the discovery endpoint. -/
def DiscoveryRoute.Public (route : DiscoveryRoute) : Prop := ∀ e ∈ route.announcers.entries, e.2.Public

/-- Nothing announced on any side does. -/
def Owner.RoutesPublic (o : Owner) : Prop := ∀ e ∈ o.discoveryRoutes.entries, e.2.Public

theorem SenderState.Public.announce {state : SenderState} (h : state.Public) (S : Schema) (linkLocalEnabled : Bool)
    (pkt : PacketData) : (state.announce S linkLocalEnabled pkt).2.Public := by
  unfold SenderState.announce
  dsimp only
  split
  · apply SenderState.refresh_public
    apply updateSenderBoard_public h.boards
    intro b _
    refine TopologyBoardNode.Public.hide ?_ _
    exact decodeDiscoveryEndpoints_public S pkt.payload
  · split
    · apply SenderState.refresh_public
      apply updateSenderBoard_public h.boards
      intro b hb
      exact hb
    · split
      · apply SenderState.refresh_public
        intro board hmem
        obtain ⟨b, hb, rfl⟩ := List.mem_map.mp hmem
        exact (decodeDiscoveryTopologyPacket_public pkt.payload b hb).hide _
      · exact h

theorem DiscoveryRoute.Public.withoutSender {route : DiscoveryRoute} (h : route.Public) (leaving : Bytes) :
    (route.withoutSender leaving).Public := by
  intro e he
  obtain ⟨old, hold, rfl⟩ := Map.mem_mapValues he
  exact (h old (Map.mem_erase hold)).withoutSender leaving

theorem DiscoveryRoute.Public.insert {route : DiscoveryRoute} (h : route.Public) {sender : Bytes} {state : SenderState}
    (hstate : state.Public) :
    (DiscoveryRoute.recompute { route with announcers := route.announcers.insert sender state }).Public := by
  intro e he
  rcases Map.mem_insert he with rfl | hold
  · exact hstate
  · exact h e hold

/-- What a sender's state is before it announces again. -/
theorem DiscoveryRoute.Public.getOr {route : DiscoveryRoute} (h : route.Public) (sender : Bytes) :
    (Map.getOr route.announcers sender .new).Public := by
  unfold Map.getOr
  cases hfind : route.announcers.lookup sender with
  | none => exact SenderState.new_public
  | some state => exact h _ (Map.mem_of_lookup hfind)

section

variable {routes : Map Int32 DiscoveryRoute}

theorem DiscoveryRoute.Public.ofSide (h : ∀ e ∈ routes.entries, e.2.Public) (sideId : Int32) :
    (Map.getOr routes sideId .new).Public := by
  unfold Map.getOr
  cases hfind : routes.lookup sideId with
  | none => exact fun _ he => nomatch he
  | some route => exact h _ (Map.mem_of_lookup hfind)

theorem DiscoveryRoute.Public.prune (h : ∀ e ∈ routes.entries, e.2.Public) (leaving : Bytes) :
    ∀ e ∈ (pruneLeavingDiscoverySender routes leaving).2.entries, e.2.Public := by
  intro e he
  obtain ⟨old, hold, rfl⟩ := Map.mem_mapValues (Map.mem_keepIf he)
  exact (h old hold).withoutSender leaving

end

end SedsNet
