import SedsNet.Rounds

/-!
# Topology packets that cannot be read

`decode_discovery_topology_packet` makes an empty list of a payload that `decode_discovery_topology_payload` rejects, and
an empty list of boards is also what a sender may tell of. `handle_discovery_packet` cannot tell the two apart: it takes
back all that the sender has told of before. Only a sender of which no board is known loses nothing (`_malformed`).
-/

set_option autoImplicit false

namespace SedsNet

open Lib

/-! ## What is known -/

namespace Owner

/-- What is kept for a side. -/
def routeOf (o : Owner) (sideId : Int32) : DiscoveryRoute := Map.getOr o.discoveryRoutes sideId .new

/-- The same is known of every announcer and every route. -/
structure SameKnowledge (o o' : Owner) : Prop where
  boards : ∀ sideId sender, (o'.announcer sideId sender).topologyBoards = (o.announcer sideId sender).topologyBoards
  endpoints : ∀ sideId sender, (o'.announcer sideId sender).endpoints = (o.announcer sideId sender).endpoints
  sources : ∀ sideId sender, (o'.announcer sideId sender).timesyncSources = (o.announcer sideId sender).timesyncSources
  routeEndpoints : ∀ sideId, (o'.routeOf sideId).endpoints = (o.routeOf sideId).endpoints
  routeSources : ∀ sideId, (o'.routeOf sideId).timesyncSources = (o.routeOf sideId).timesyncSources

/-- The same is known, and the next announcements are due as before. -/
structure Unnoticed (o o' : Owner) : Prop extends SameKnowledge o o' where
  interval : o'.discoveryIntervalMs = o.discoveryIntervalMs
  next : o'.discoveryNextMs = o.discoveryNextMs

theorem Unnoticed.refl (o : Owner) : Unnoticed o o where
  boards _ _ := rfl
  endpoints _ _ := rfl
  sources _ _ := rfl
  routeEndpoints _ := rfl
  routeSources _ := rfl
  interval := rfl
  next := rfl

theorem announcer_consistent {o : Owner} (h : RoutesConsistent o.discoveryRoutes) (sideId : Int32) (sender : Bytes) :
    (o.announcer sideId sender).Consistent := DiscoveryRoute.Consistent.getOr (h.getOr sideId) sender

/-- What announcers are known for is found by name. -/
theorem mem_announcers {route : DiscoveryRoute} {P : SenderState → Prop} (hnew : ¬ P .new) :
    (∃ a ∈ route.announcers.entries, P a.2) ↔ ∃ sender, P (Map.getOr route.announcers sender .new) := by
  unfold Map.getOr
  constructor
  · rintro ⟨a, ha, hp⟩
    have hlookup : route.announcers.lookup a.1 = some a.2 := AList.mem_lookup_iff.mpr ha
    refine ⟨a.1, ?_⟩
    rw [hlookup]
    exact hp
  · rintro ⟨sender, hp⟩
    cases hlookup : route.announcers.lookup sender with
    | none =>
      rw [hlookup] at hp
      exact absurd hp hnew
    | some state =>
      rw [hlookup] at hp
      exact ⟨⟨sender, state⟩, Map.mem_of_lookup hlookup, hp⟩

/-- The endpoints of a route are those of the announcers on the side. -/
theorem mem_routeOf_endpoints {o : Owner} (h : RoutesConsistent o.discoveryRoutes) {sideId : Int32} {ep : UInt32} :
    ep ∈ (o.routeOf sideId).endpoints ↔ ∃ sender, ep ∈ (o.announcer sideId sender).endpoints := by
  unfold announcer
  rw [← mem_announcers (P := fun state => ep ∈ state.endpoints) (Finset.notMem_empty ep)]
  unfold routeOf Map.getOr
  cases hlookup : o.discoveryRoutes.lookup sideId with
  | none =>
    constructor
    · intro hep
      exact absurd hep (Finset.notMem_empty ep)
    · rintro ⟨a, ha, -⟩
      cases ha
  | some route => exact (h _ (Map.mem_of_lookup hlookup)).endpoints ep

/-- And so are its time sources. -/
theorem mem_routeOf_sources {o : Owner} (h : RoutesConsistent o.discoveryRoutes) {sideId : Int32} {source : Bytes} :
    source ∈ (o.routeOf sideId).timesyncSources ↔ ∃ sender, source ∈ (o.announcer sideId sender).timesyncSources := by
  unfold announcer
  rw [← mem_announcers (P := fun state => source ∈ state.timesyncSources) (Finset.notMem_empty source)]
  unfold routeOf Map.getOr
  cases hlookup : o.discoveryRoutes.lookup sideId with
  | none =>
    constructor
    · intro hsource
      exact absurd hsource (Finset.notMem_empty source)
    · rintro ⟨a, ha, -⟩
      cases ha
  | some route => exact (h _ (Map.mem_of_lookup hlookup)).sources source

/-- **The boards say everything**: where these are the same, and what is kept is consistent, all of it is the same. -/
theorem SameKnowledge.of_boards {o o' : Owner} (h : RoutesConsistent o.discoveryRoutes) (h' : RoutesConsistent o'.discoveryRoutes)
    (hboards : ∀ sideId sender, (o'.announcer sideId sender).topologyBoards = (o.announcer sideId sender).topologyBoards) :
    SameKnowledge o o' := by
  have hendpoints : ∀ sideId sender, (o'.announcer sideId sender).endpoints = (o.announcer sideId sender).endpoints := by
    intro sideId sender
    ext ep
    rw [(announcer_consistent h' sideId sender).endpoints, (announcer_consistent h sideId sender).endpoints, hboards]
  have hsources : ∀ sideId sender, (o'.announcer sideId sender).timesyncSources = (o.announcer sideId sender).timesyncSources := by
    intro sideId sender
    ext source
    rw [(announcer_consistent h' sideId sender).sources, (announcer_consistent h sideId sender).sources, hboards]
  refine ⟨hboards, hendpoints, hsources, ?_, ?_⟩
  · intro sideId
    ext ep
    simp only [mem_routeOf_endpoints h', mem_routeOf_endpoints h, hendpoints]
  · intro sideId
    ext source
    simp only [mem_routeOf_sources h', mem_routeOf_sources h, hsources]

/-! ## The packet -/

section

variable {S : Schema} {E : Env} {self : Option Bytes} {sideId : Int32} {o : Owner} {pkt : PacketData}

theorem announcer_learnAnnouncement {o' : Owner} {linkLocalEnabled : Bool} {now : UInt64}
    (hroutes : o'.discoveryRoutes = learnAnnouncement S linkLocalEnabled o.discoveryRoutes sideId pkt now) (s : Int32) (sender : Bytes) :
    o'.announcer s sender = if s = sideId ∧ sender = pkt.sender then
      { ((o.announcer sideId pkt.sender).announce S linkLocalEnabled pkt).2 with lastSeenMs := now } else o.announcer s sender := by
  unfold announcer Map.getOr
  rw [hroutes]
  unfold learnAnnouncement
  dsimp only
  by_cases hside : s = sideId
  · subst hside
    rw [AList.lookup_insert]
    change ((AList.insert pkt.sender _ _).lookup sender).getD _ = _
    by_cases hsender : sender = pkt.sender
    · rw [hsender, AList.lookup_insert, if_pos ⟨rfl, rfl⟩]
      rfl
    · rw [AList.lookup_insert_ne hsender, if_neg fun h => hsender h.2]
      rfl
  · rw [AList.lookup_insert_ne hside, if_neg fun h => hside h.1]

/-- A topology that cannot be read is heard as no boards at all. -/
theorem announce_malformed (hty : pkt.ty = SEDS_DT_DISCOVERY_TOPOLOGY) (hreject : decodeDiscoveryTopologyPayload pkt.payload = none)
    (state : SenderState) (linkLocalEnabled : Bool) :
    state.announce S linkLocalEnabled pkt = (state.topologyBoards != [], { state with topologyBoards := [] }.refresh) := by
  unfold SenderState.announce decodeDiscoveryTopologyPacket
  dsimp only
  rw [hty, hreject]
  rfl

/-- **It goes unnoticed exactly where the router does not listen, or no board of the sender is known.** -/
theorem handleDiscoveryPacket_unnoticed (hconsistent : RoutesConsistent o.discoveryRoutes) (hty : pkt.ty = SEDS_DT_DISCOVERY_TOPOLOGY)
    (hreject : decodeDiscoveryTopologyPayload pkt.payload = none) :
    Unnoticed o (o.handleDiscoveryPacket S E self pkt (some sideId)) ↔
      self = some pkt.sender ∨ (o.announcer sideId pkt.sender).topologyBoards = [] := by
  by_cases hself : self = some pkt.sender
  · have hsame : o.handleDiscoveryPacket S E self pkt (some sideId) = o := by
      unfold handleDiscoveryPacket
      dsimp only
      rw [if_pos hself]
    rw [hsame]
    exact ⟨fun _ => .inl hself, fun _ => .refl o⟩
  have hleave : pkt.ty ≠ kDiscoveryLeaveType := by
    rw [hty]
    decide
  have hroutes : (o.handleDiscoveryPacket S E self pkt (some sideId)).discoveryRoutes =
      learnAnnouncement S (o.linkLocalOn sideId) o.discoveryRoutes sideId pkt (o.nowMs E).1 := handleDiscoveryPacket_routes hself hleave
  have hafter := announcer_learnAnnouncement (o := o) hroutes
  have hboards : ((o.handleDiscoveryPacket S E self pkt (some sideId)).announcer sideId pkt.sender).topologyBoards = [] := by
    rw [hafter, if_pos ⟨rfl, rfl⟩, announce_malformed hty hreject]
    rfl
  constructor
  · intro h
    right
    rw [← h.boards, hboards]
  · rintro (h | hnone)
    · exact absurd h hself
    have hquiet : o.stirs S self sideId pkt = false := by
      unfold stirs
      rw [announce_malformed hty hreject, hnone]
      exact Bool.and_false _
    obtain ⟨hinterval, hnext⟩ := handleDiscoveryPacket_due (E := E) hself hleave hquiet
    refine ⟨.of_boards hconsistent ?_ ?_, hinterval, hnext⟩
    · rw [hroutes]
      exact (Learns.heard (T := fun _ => True) o.discoveryRoutes S (o.linkLocalOn sideId) sideId pkt (o.nowMs E).1 trivial).consistent
        hconsistent
    · intro s sender
      by_cases hthis : s = sideId ∧ sender = pkt.sender
      · obtain ⟨rfl, rfl⟩ := hthis
        rw [hboards, hnone]
      · rw [hafter, if_neg hthis]

end

end Owner

/-- **What a router or relay makes of a topology that cannot be read**: in every reachable state it goes unnoticed exactly
    where no board of the sender is known on the side, or where the router takes the packet for its own. -/
theorem handleDiscoveryPacket_malformed (S : Schema) (Z : Codec) (E : Env) :
    (∀ (r s : Router) (acts : List Router.Act) (sideId : Int32) (pkt : PacketData), r.discoveryRoutes = ∅ →
      s = runFrom (Router.perform S Z E) r acts → pkt.ty = SEDS_DT_DISCOVERY_TOPOLOGY →
      decodeDiscoveryTopologyPayload pkt.payload = none →
      (Owner.Unnoticed s.toOwner (s.toOwner.handleDiscoveryPacket S E (some s.sender) pkt (some sideId)) ↔
        pkt.sender = s.sender ∨ (s.announcer sideId pkt.sender).topologyBoards = [])) ∧
    ∀ (r s : Relay) (acts : List Relay.Act) (sideId : Int32) (pkt : PacketData), r.discoveryRoutes = ∅ →
      s = runFrom (Relay.perform S Z E) r acts → pkt.ty = SEDS_DT_DISCOVERY_TOPOLOGY →
      decodeDiscoveryTopologyPayload pkt.payload = none →
      (Owner.Unnoticed s.toOwner (s.toOwner.handleDiscoveryPacket S E none pkt (some sideId)) ↔
        (s.announcer sideId pkt.sender).topologyBoards = []) := by
  constructor
  · rintro r s acts sideId pkt hnew rfl hty hreject
    have hmoves := Router.run_moves S Z E r acts
    rw [Owner.handleDiscoveryPacket_unnoticed ((hnew ▸ RoutesConsistent.empty).learns hmoves.routes) hty hreject, Option.some.injEq,
      eq_comm (a := pkt.sender)]
  · rintro r s acts sideId pkt hnew rfl hty hreject
    have hmoves := Relay.run_moves S Z E r acts
    rw [Owner.handleDiscoveryPacket_unnoticed ((hnew ▸ RoutesConsistent.empty).learns hmoves.routes) hty hreject]
    exact or_iff_right (Option.some_ne_none _).symm

/-! ## A neighbour that is forgotten -/

/-- One byte is no topology. -/
def torn (sender : Bytes) : PacketData := ⟨SEDS_DT_DISCOVERY_TOPOLOGY, sender, [SEDS_EP_DISCOVERY], 9, [1]⟩

theorem handleDiscoveryPacket_malformed_torn :
    Owner.Unnoticed tellingRouter.toOwner (tellingRouter.toOwner.handleDiscoveryPacket defaultTestSchema .calm (some tellingRouter.sender)
      (torn (ascii "C")) (some 0)) ∧
    Owner.Unnoticed Relay.gpsRelay.toOwner (Relay.gpsRelay.toOwner.handleDiscoveryPacket defaultTestSchema .calm none
      (torn (ascii "C")) (some 0)) := by
  obtain ⟨hrouter, hrelay⟩ := handleDiscoveryPacket_malformed defaultTestSchema (.absent 16) .calm
  have hrun : (tellingRouter.announcer 0 (ascii "C")).topologyBoards = [] ∧
      decodeDiscoveryTopologyPayload (torn (ascii "C")).payload = none ∧
      (Relay.gpsRelay.announcer 0 (ascii "C")).topologyBoards = [] := by
    unfold tellingRouter
    rw [defaultTestSchema_eq]
    decide +kernel
  obtain ⟨hnone, hreject, hnoneRelay⟩ := hrun
  refine ⟨(hrouter (.new .Sink (ascii "R") [.serialized [] true] []) tellingRouter
      [.receiveFromSide 0 neighbourTopology] 0 (torn (ascii "C")) rfl rfl rfl hreject).mpr (.inr hnone),
    (hrelay Relay.gpsRelay Relay.gpsRelay [] 0 (torn (ascii "C")) rfl rfl rfl hreject).mpr hnoneRelay⟩

/-- The neighbour's one torn packet takes back both of its boards, and announcements become frequent again. -/
theorem handleDiscoveryPacket_malformed_forgets :
    ¬ Owner.Unnoticed tellingRouter.toOwner (tellingRouter.toOwner.handleDiscoveryPacket defaultTestSchema .calm
      (some tellingRouter.sender) (torn (ascii "B")) (some 0)) := by
  intro h
  have hforgets : (tellingRouter.announcer 0 (ascii "B")).topologyBoards ≠
      ((tellingRouter.toOwner.handleDiscoveryPacket defaultTestSchema .calm (some tellingRouter.sender) (torn (ascii "B"))
        (some 0)).announcer 0 (ascii "B")).topologyBoards := by
    unfold tellingRouter
    rw [defaultTestSchema_eq]
    decide +kernel
  exact hforgets (h.boards 0 (ascii "B")).symm

end SedsNet
