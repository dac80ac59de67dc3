import SedsNet.Advertised
import SedsNet.Selection

/-!
# Whether what is selected was announced lately

`default_candidates` asks when a route was last heard of at all, and the time kept for a route is that of the announcer who
was heard last. The endpoints and time sources of the route are those of all its announcers, and one whose announcement has
expired is among them until `prune_discovery_routes` runs again. So traffic is attracted by what only an expired
announcement has told of. It is not exactly where someone vouches for all that is listed (`Vouched`).
-/

set_option autoImplicit false

namespace SedsNet

open Lib

/-- Someone on the side of whom this holds was last heard no longer ago than `kDiscoveryTtlMs`. -/
def DiscoveryRoute.HeardLately (route : DiscoveryRoute) (now : UInt64) (P : SenderState → Prop) : Prop :=
  ∃ a ∈ route.announcers.entries, P a.2 ∧ now - a.2.lastSeenMs ≤ kDiscoveryTtlMs

/-- Whatever an announcer on a live route has told of, one that was heard lately has told of too. -/
structure DiscoveryRoute.Vouched (route : DiscoveryRoute) (now : UInt64) : Prop where
  endpoints : ∀ a ∈ route.announcers.entries, ∀ ep ∈ a.2.endpoints, route.HeardLately now fun state => ep ∈ state.endpoints
  sources : ∀ a ∈ route.announcers.entries, ∀ source ∈ a.2.timesyncSources,
    route.HeardLately now fun state => source ∈ state.timesyncSources

/-- The same for every side with a live route. -/
def Vouched (routes : Map Int32 DiscoveryRoute) (now : UInt64) : Prop :=
  ∀ e ∈ routes.entries, 0 ≤ e.1 → now - e.2.lastSeenMs ≤ kDiscoveryTtlMs → e.2.Vouched now

namespace Owner

/-- Someone on the side of whom this holds was heard lately. -/
def HeardLately (o : Owner) (sideId : Int32) (now : UInt64) (P : SenderState → Prop) : Prop :=
  ∃ route, o.discoveryRoutes.lookup sideId = some route ∧ route.HeardLately now P

/-- Where a packet without an explicit destination goes by what was discovered, it goes to sides where it was discovered
    lately: the preferred time source, or one of the packet's endpoints. -/
structure Attracts (S : Schema) (o : Owner) (item : TxItem) (preferred : Option Bytes) (now : UInt64) (sideId : Int32) : Prop where
  source : (o.preferredSides S item.pkt item.srcSide now preferred).Nonempty →
    o.HeardLately sideId now fun state => ∃ source ∈ preferred, source ∈ state.timesyncSources
  endpoint : ¬ (o.preferredSides S item.pkt item.srcSide now preferred).Nonempty →
    (o.endpointSides S item.pkt item.srcSide now).Nonempty →
    o.HeardLately sideId now fun state => ∃ ep ∈ item.pkt.endpoints, ep = SEDS_EP_DISCOVERY ∨ ep ∈ state.endpoints

/-- All that is selected is. -/
def SelectsLately (S : Schema) (o : Owner) (now : UInt64) : Prop :=
  ∀ (policy : RoutePolicy) (item : TxItem) (preferred : Option Bytes), item.dstSide = none →
    ∀ sideId ∈ (o.selectDestinations S policy item preferred now).1, Attracts S o item preferred now sideId

section

variable {S : Schema} {o : Owner} {now : UInt64}

/-- What is selected are candidates. -/
theorem mem_candidateSides_of_selected {policy : RoutePolicy} {item : TxItem} {preferred : Option Bytes} (hfree : item.dstSide = none)
    {sideId : Int32} (hmem : sideId ∈ (o.selectDestinations S policy item preferred now).1) :
    sideId ∈ o.candidateSides S item.pkt item.srcSide now preferred := by
  obtain ⟨pkt, srcSide, dstSide, deliverLocal⟩ := item
  dsimp only at hfree
  subst hfree
  obtain ⟨routed, -, hrouted, -, -, hempty, hchooses⟩ :=
    selectDestinations_spec S o policy pkt srcSide deliverLocal preferred now
  by_cases hnone : routed = []
  · rw [hempty hnone] at hmem
    cases hmem
  · exact ((hrouted sideId).mp ((hchooses hnone).sublist.subset hmem)).1

theorem sideAt_nonneg {sideId : Int32} {side : Side} (h : o.sideAt sideId = some side) : 0 ≤ sideId := by
  unfold sideAt at h
  split at h
  · cases h
  · exact Int32.not_lt.mp ‹_›

/-- **Where all is vouched for, nothing that has expired attracts a packet.** -/
theorem selectsLately_of_vouched (hconsistent : RoutesConsistent o.discoveryRoutes) (hvouched : Vouched o.discoveryRoutes now) :
    SelectsLately S o now := by
  intro policy item preferred hfree sideId hmem
  have hcandidate := mem_candidateSides_of_selected hfree hmem
  -- a side of either tier has a live route, all of which is vouched for
  have hlive : ∀ {passes : DiscoveryRoute → Prop}, sideId ∈ o.leadsTo S item.pkt item.srcSide now passes →
      ∃ route, o.discoveryRoutes.lookup sideId = some route ∧ route.Consistent ∧ route.Vouched now ∧
        now - route.lastSeenMs ≤ kDiscoveryTtlMs ∧ passes route := by
    rintro passes ⟨-, route, side, hroute, hside, hlive, -, hpasses⟩
    have hentry := Map.mem_of_lookup hroute
    exact ⟨route, hroute, hconsistent _ hentry, hvouched _ hentry (sideAt_nonneg hside) hlive, hlive, hpasses⟩
  unfold candidateSides at hcandidate
  constructor
  · intro hpreferred
    rw [if_pos hpreferred] at hcandidate
    obtain ⟨route, hroute, hroutes, hall, -, source, hsource, hlisted⟩ := hlive hcandidate
    obtain ⟨a, ha, hknown⟩ := (hroutes.sources source).mp hlisted
    obtain ⟨b, hb, hknown', hfresh⟩ := hall.sources a ha source hknown
    exact ⟨route, hroute, b, hb, ⟨source, hsource, hknown'⟩, hfresh⟩
  · intro hpreferred hendpoint
    rw [if_neg hpreferred, if_pos hendpoint] at hcandidate
    obtain ⟨route, hroute, hroutes, hall, hfreshRoute, ep, hep, hpasses⟩ := hlive hcandidate
    rcases hpasses with hdiscovery | hlisted
    · -- the announcer heard last will do
      obtain ⟨a, ha, hlast⟩ := hroutes.last
      rw [← hlast] at hfreshRoute
      exact ⟨route, hroute, a, ha, ⟨ep, hep, .inl hdiscovery⟩, hfreshRoute⟩
    · obtain ⟨a, ha, hknown⟩ := (hroutes.endpoints ep).mp hlisted
      obtain ⟨b, hb, hknown', hfresh⟩ := hall.endpoints a ha ep hknown
      exact ⟨route, hroute, b, hb, ⟨ep, hep, .inr hknown'⟩, hfresh⟩

/-! ## Any owner with these routes -/

/-- An owner that knows these routes, with nothing to keep a packet from any of the sides up to this one. -/
def opened (routes : Map Int32 DiscoveryRoute) (sideId : Int32) : Owner :=
  { Owner.new [] (List.replicate (sideId.toNatClampNeg + 1) { Side.serialized [] false with linkLocalEnabled := true }) with
    discoveryRoutes := routes }

variable {routes : Map Int32 DiscoveryRoute} {sideId : Int32}

theorem opened_sideAt (hpos : 0 ≤ sideId) :
    (opened routes sideId).sideAt sideId = some { Side.serialized [] false with linkLocalEnabled := true } := by
  unfold sideAt opened
  rw [if_neg (Int32.not_lt.mpr hpos)]
  exact List.getElem?_replicate_of_lt (Nat.lt_succ_self _)

/-- A candidate there is selected, when all candidates are used. -/
theorem opened_selects (hpos : 0 ≤ sideId) {pkt : PacketData} {preferred : Option Bytes}
    (hcandidate : sideId ∈ (opened routes sideId).candidateSides S pkt none now preferred) :
    sideId ∈ ((opened routes sideId).selectDestinations S .new ⟨pkt, none, none, false⟩ preferred now).1 := by
  have haccepts : S.sideAcceptsPacket { Side.serialized [] false with linkLocalEnabled := true } pkt = true := by
    unfold Schema.sideAcceptsPacket
    rw [Bool.not_true, Bool.and_false]
    rfl
  have hroutable : sideId ∈ (opened routes sideId).routable S pkt none := by
    refine ⟨_, opened_sideAt hpos, rfl, haccepts, (Option.some_ne_none false).symm, ?_⟩
    rintro ⟨other, hother⟩
    cases hother
  have hlisted := mem_candidates_iff.mpr ⟨hcandidate, hroutable⟩
  unfold selectDestinations
  dsimp only
  generalize ((opened routes sideId).defaultCandidates S pkt none preferred now).filter _ = routed at hlisted ⊢
  unfold RoutePolicy.apply
  cases routed with
  | nil => cases hlisted
  | cons first rest => exact hlisted

/-- A live route leads to its side. -/
theorem opened_leadsTo (hpos : 0 ≤ sideId) {route : DiscoveryRoute} (hroute : routes.lookup sideId = some route)
    (hlive : now - route.lastSeenMs ≤ kDiscoveryTtlMs) {pkt : PacketData} {passes : DiscoveryRoute → Prop} (hpasses : passes route) :
    sideId ∈ (opened routes sideId).leadsTo S pkt none now passes := by
  refine ⟨(Option.some_ne_none sideId).symm, route, _, hroute, opened_sideAt hpos, hlive, ?_, hpasses⟩
  unfold Schema.sideAcceptsPacket
  rw [Bool.not_true, Bool.and_false]
  rfl

/-- **What no one vouches for attracts a packet**, in some owner that knows the routes. -/
theorem vouched_of_selectsLately (hconsistent : RoutesConsistent routes) (hpublic : ∀ e ∈ routes.entries, e.2.Public)
    (h : ∀ o : Owner, o.discoveryRoutes = routes → SelectsLately S o now) : Vouched routes now := by
  intro e he hpos hlive
  obtain ⟨sideId, route⟩ := e
  have hroute : routes.lookup sideId = some route := AList.mem_lookup_iff.mpr he
  have hroutes := hconsistent _ he
  have hheard : ∀ {P : SenderState → Prop}, (opened routes sideId).HeardLately sideId now P → route.HeardLately now P := by
    rintro P ⟨route', hroute', hheard⟩
    have hsame : some route' = some route := hroute'.symm.trans hroute
    cases hsame
    exact hheard
  constructor
  · intro a ha ep hep
    -- a packet for the endpoint alone
    have hlisted := (hroutes.endpoints ep).mpr ⟨a, ha, hep⟩
    have hleads : sideId ∈ (opened routes sideId).endpointSides S ⟨0, [], [ep], 0, []⟩ none now :=
      opened_leadsTo hpos hroute hlive ⟨ep, List.mem_singleton.mpr rfl, .inr hlisted⟩
    have hnone : ¬ ((opened routes sideId).preferredSides S ⟨0, [], [ep], 0, []⟩ none now none).Nonempty := by
      rintro ⟨s, -, -, -, -, -, -, -, source, hsource, -⟩
      cases hsource
    have hcandidate : sideId ∈ (opened routes sideId).candidateSides S ⟨0, [], [ep], 0, []⟩ none now none := by
      unfold candidateSides
      rw [if_neg hnone, if_pos ⟨sideId, hleads⟩]
      exact hleads
    have hattracts := h (opened routes sideId) rfl .new _ none rfl sideId (opened_selects hpos hcandidate)
    obtain ⟨b, hb, ⟨ep', hep', hmatch⟩, hfresh⟩ := hheard (hattracts.endpoint hnone ⟨sideId, hleads⟩)
    rw [List.mem_singleton.mp hep'] at hmatch
    have hother : ep ≠ SEDS_EP_DISCOVERY := by
      rintro rfl
      exact (hpublic _ he a ha).endpoints hep
    exact ⟨b, hb, hmatch.resolve_left hother, hfresh⟩
  · intro a ha source hsource
    -- a packet that is to go where the time source is
    have hlisted := (hroutes.sources source).mpr ⟨a, ha, hsource⟩
    have hleads : sideId ∈ (opened routes sideId).preferredSides S ⟨0, [], [], 0, []⟩ none now (some source) :=
      opened_leadsTo hpos hroute hlive ⟨source, rfl, hlisted⟩
    have hcandidate : sideId ∈ (opened routes sideId).candidateSides S ⟨0, [], [], 0, []⟩ none now (some source) := by
      unfold candidateSides
      rw [if_pos ⟨sideId, hleads⟩]
      exact hleads
    have hattracts := h (opened routes sideId) rfl .new _ (some source) rfl sideId (opened_selects hpos hcandidate)
    obtain ⟨b, hb, ⟨source', hsource', hknown⟩, hfresh⟩ := hheard (hattracts.source ⟨sideId, hleads⟩)
    cases hsource'
    exact ⟨b, hb, hknown, hfresh⟩

end

end Owner

/-- **When expired announcements attract no traffic**: in every reachable state and at every time, exactly where all that is
    listed is vouched for, whatever the other settings are. -/
theorem expired_attract_nothing (S : Schema) (Z : Codec) (E : Env) :
    (∀ (r : Router) (acts : List Router.Act) (now : UInt64), r.discoveryRoutes = ∅ →
      ((∀ o : Owner, o.discoveryRoutes = (runFrom (Router.perform S Z E) r acts).discoveryRoutes → Owner.SelectsLately S o now) ↔
        Vouched (runFrom (Router.perform S Z E) r acts).discoveryRoutes now)) ∧
    ∀ (r : Relay) (acts : List Relay.Act) (now : UInt64), r.discoveryRoutes = ∅ →
      ((∀ o : Owner, o.discoveryRoutes = (runFrom (Relay.perform S Z E) r acts).discoveryRoutes → Owner.SelectsLately S o now) ↔
        Vouched (runFrom (Relay.perform S Z E) r acts).discoveryRoutes now) := by
  have hiff : ∀ {routes : Map Int32 DiscoveryRoute} (now : UInt64), RoutesConsistent routes ∧ (∀ e ∈ routes.entries, e.2.Public) →
      ((∀ o : Owner, o.discoveryRoutes = routes → Owner.SelectsLately S o now) ↔ Vouched routes now) := by
    rintro routes now ⟨hconsistent, hpublic⟩
    constructor
    · exact Owner.vouched_of_selectsLately hconsistent hpublic
    · rintro hvouched o rfl
      exact Owner.selectsLately_of_vouched hconsistent hvouched
  constructor
  · intro r acts now hnew
    have hmoves := (Router.run_moves S Z E r acts).routes
    rw [hnew] at hmoves
    exact hiff now (learned hmoves).2
  · intro r acts now hnew
    have hmoves := (Relay.run_moves S Z E r acts).routes
    rw [hnew] at hmoves
    exact hiff now (learned hmoves).2

/-! ## Two announcers of different ages -/

/-- A second goes by with every reading. -/
def Env.seconds : Env := ⟨fun n => 1000 * UInt64.ofNat n, fun _ => SEDS_OK⟩

/-- A node announces one endpoint. -/
def announcementOf (sender : Bytes) (ep : UInt32) : SedsPacketView :=
  ⟨SEDS_DT_DISCOVERY_ANNOUNCE, sender, some [SEDS_EP_DISCOVERY], 7, some (appendLe32 ep), 4⟩

/-- A router that hears `A` at once and `B` after two seconds, both on side 0. -/
def hearingRouter : Router :=
  runFrom (Router.perform defaultTestSchema (.absent 16) .seconds)
    (.new .Sink (ascii "R") [.serialized [] false, .serialized [] false] [])
    [.receiveFromSide 0 (announcementOf (ascii "A") 100), .receiveFromSide 0 (announcementOf (ascii "B") 101)]

/-- A packet for the endpoint of `A`. -/
def forTheFirst : TxItem := ⟨{ gpsPacket with endpoints := [100] }, none, none, false⟩

theorem expired_attract_nothing_heard :
    (Owner.SelectsLately defaultTestSchema hearingRouter.toOwner 30000) ∧
    (Owner.SelectsLately defaultTestSchema Relay.gpsRelay.toOwner 30000) := by
  obtain ⟨hrouter, hrelay⟩ := expired_attract_nothing defaultTestSchema (.absent 16) .seconds
  have hrun : ∀ e ∈ hearingRouter.discoveryRoutes.entries, ∀ a ∈ e.2.announcers.entries,
      30000 - a.2.lastSeenMs ≤ kDiscoveryTtlMs := by
    unfold hearingRouter
    rw [defaultTestSchema_eq]
    decide +kernel
  -- all were heard lately, and vouch for themselves
  have hvouched : Vouched hearingRouter.discoveryRoutes 30000 := by
    intro e he _ _
    exact ⟨fun a ha ep hep => ⟨a, ha, hep, hrun e he a ha⟩, fun a ha source hsource => ⟨a, ha, hsource, hrun e he a ha⟩⟩
  have hlately : ∀ o : Owner, o.discoveryRoutes = hearingRouter.discoveryRoutes → o.SelectsLately defaultTestSchema 30000 := by
    unfold hearingRouter at hvouched ⊢
    exact (hrouter (.new .Sink (ascii "R") [.serialized [] false, .serialized [] false] [])
      [.receiveFromSide 0 (announcementOf (ascii "A") 100), .receiveFromSide 0 (announcementOf (ascii "B") 101)] 30000 rfl).mpr hvouched
  constructor
  · exact hlately hearingRouter.toOwner rfl
  · refine (hrelay Relay.gpsRelay [] 30000 rfl).mpr ?_ Relay.gpsRelay.toOwner rfl
    intro e he
    cases he

/-- The announcement of `A` expires while that of `B` does not: a packet for the endpoint of `A` still goes to the side. -/
theorem expired_attract_nothing_outlived : ¬ Owner.SelectsLately defaultTestSchema hearingRouter.toOwner 31500 := by
  intro h
  have hrun : (0 : Int32) ∈ (hearingRouter.toOwner.selectDestinations defaultTestSchema hearingRouter.localPolicy forTheFirst none 31500).1 ∧
      (0 : Int32) ∈ (hearingRouter.toOwner.routedSides defaultTestSchema forTheFirst.pkt none 31500 fun route =>
        forTheFirst.pkt.endpoints.any fun ep => decide (ep ∈ route.endpoints)) ∧
      ∀ route ∈ hearingRouter.discoveryRoutes.lookup 0, ∀ a ∈ route.announcers.entries,
        100 ∈ a.2.endpoints → ¬ (31500 : UInt64) - a.2.lastSeenMs ≤ kDiscoveryTtlMs := by
    unfold hearingRouter
    rw [defaultTestSchema_eq]
    decide +kernel
  obtain ⟨hselected, hrouted, hexpired⟩ := hrun
  have hattracts := h hearingRouter.localPolicy forTheFirst none rfl 0 hselected
  have hnone : ¬ (hearingRouter.toOwner.preferredSides defaultTestSchema forTheFirst.pkt forTheFirst.srcSide 31500 none).Nonempty := by
    rintro ⟨s, -, -, -, -, -, -, -, source, hsource, -⟩
    cases hsource
  obtain ⟨hsrc, route, side, hroute, hside, hlive, haccepts, hpasses⟩ := Owner.mem_routedSides_iff.mp hrouted
  obtain ⟨ep, hep, hlisted⟩ := List.any_eq_true.mp hpasses
  have hleads : (0 : Int32) ∈ hearingRouter.toOwner.endpointSides defaultTestSchema forTheFirst.pkt none 31500 :=
    ⟨hsrc, route, side, hroute, hside, hlive, haccepts, ep, hep, .inr (of_decide_eq_true hlisted)⟩
  obtain ⟨route', hroute', a, ha, ⟨ep', hep', hmatch⟩, hfresh⟩ := hattracts.endpoint hnone ⟨0, hleads⟩
  rw [List.mem_singleton.mp hep'] at hmatch
  exact hexpired route' hroute' a ha (hmatch.resolve_left (by decide)) hfresh

end SedsNet
