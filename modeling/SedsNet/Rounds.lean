import SedsNet.Advertised

/-!
# A second round of announcements

A round of announcements is heard as three packets: `ANNOUNCE`, `TIMESYNC_SOURCES` if there are sources, and `TOPOLOGY`.
All three are written to the same boards. The first two say what can be reached through the sender, all in all, and are
kept in the board of the sender itself; the third says for every board what it has itself, and takes the place of all
boards. So a second round that says the same as the first is news all the same, unless the sender's own board has all that
can be reached through it.

In the `ANNOUNCE` case the comparison is made before the link-local endpoints are filtered out, which is news again on an
ordinary side.
-/

set_option autoImplicit false

namespace SedsNet

open Lib

/-- What a round says: the payloads of its packets. The second one is left out where there are no sources. -/
structure Round where
  sender : Bytes
  announce : Bytes
  sources : Option Bytes
  topology : Bytes
  deriving DecidableEq, Repr

namespace Round

/-- The packets of a round, in the order they are sent in; times and endpoints do not matter. -/
inductive Sent (round : Round) : List PacketData → Prop
  | plain (announce topology : PacketData) (hsources : round.sources = none)
      (ha : announce.ty = SEDS_DT_DISCOVERY_ANNOUNCE ∧ announce.sender = round.sender ∧ announce.payload = round.announce)
      (ht : topology.ty = SEDS_DT_DISCOVERY_TOPOLOGY ∧ topology.sender = round.sender ∧ topology.payload = round.topology) :
      Sent round [announce, topology]
  | timed (announce sources topology : PacketData) (payload : Bytes) (hsources : round.sources = some payload)
      (ha : announce.ty = SEDS_DT_DISCOVERY_ANNOUNCE ∧ announce.sender = round.sender ∧ announce.payload = round.announce)
      (hs : sources.ty = SEDS_DT_DISCOVERY_TIMESYNC_SOURCES ∧ sources.sender = round.sender ∧ sources.payload = payload)
      (ht : topology.ty = SEDS_DT_DISCOVERY_TOPOLOGY ∧ topology.sender = round.sender ∧ topology.payload = round.topology) :
      Sent round [announce, sources, topology]

/-- The boards that are left after a round, on a side that is or is not for link-local packets. -/
def boards (S : Schema) (link : Bool) (round : Round) : List TopologyBoardNode :=
  (decodeDiscoveryTopologyPacket round.topology).map (·.hide fun ep => !link && S.endpointLinkLocalOnly ep)

/-- The sender's own board lists all that the round announces. -/
def Agrees (S : Schema) (link : Bool) (round : Round) : Prop :=
  ∃ board ∈ round.boards S link, board.senderId = round.sender ∧
    board.reachableEndpoints = decodeDiscoveryEndpoints S round.announce ∧
    ∀ payload ∈ round.sources, board.reachableTimesyncSources = decodeDiscoveryTimesyncSources payload

instance (S : Schema) (link : Bool) (round : Round) : Decidable (round.Agrees S link) :=
  inferInstanceAs (Decidable (∃ board ∈ round.boards S link, _))

end Round

/-! ## Boards -/

theorem TopologyBoardNode.Normal.hide {board : TopologyBoardNode} (h : board.Normal) (hidden : UInt32 → Bool) :
    (board.hide hidden).Normal :=
  ⟨h.endpoints.filter _, h.sources, h.connections, h.other⟩

theorem NormalBoards.hide {boards : List TopologyBoardNode} (h : NormalBoards boards) (hidden : UInt32 → Bool) :
    NormalBoards (boards.map (·.hide hidden)) := by
  refine ⟨?_, ?_⟩
  · rw [List.map_map]
    exact h.senders
  · intro board hboard
    obtain ⟨b, hb, rfl⟩ := List.mem_map.mp hboard
    exact (h.each b hb).hide hidden

theorem decodeDiscoveryTopologyPacket_normal (payload : Bytes) : NormalBoards (decodeDiscoveryTopologyPacket payload) := by
  unfold decodeDiscoveryTopologyPacket
  cases hdec : decodeDiscoveryTopologyPayload payload with
  | none => exact ⟨.nil, fun _ h => nomatch h⟩
  | some boards =>
    unfold decodeDiscoveryTopologyPayload at hdec
    simp only [Option.bind_eq_bind, Option.bind_eq_some_iff, Prod.exists] at hdec
    obtain ⟨count, off, -, decoded, off', -, hdec⟩ := hdec
    split at hdec
    · cases hdec
    · cases hdec
      exact normalizeTopologyBoards_normal decoded

theorem Round.boards_normal (S : Schema) (link : Bool) (round : Round) : NormalBoards (round.boards S link) :=
  (decodeDiscoveryTopologyPacket_normal round.topology).hide _

section

variable {boards : List TopologyBoardNode} {board : TopologyBoardNode} {sender : Bytes}

/-- Where there is one board for each sender, it is found. -/
theorem senderBoard_of_mem (h : (boards.map (·.senderId)).Nodup) (hboard : board ∈ boards) (hsender : board.senderId = sender) :
    senderBoard boards sender = board := by
  unfold senderBoard
  cases hfind : boards.find? (·.senderId == sender) with
  | none =>
    have hfalse := List.find?_eq_none.mp hfind board hboard
    rw [hsender, beq_self_eq_true] at hfalse
    exact absurd rfl hfalse
  | some b =>
    have hb := List.mem_of_find?_eq_some hfind
    have hkey := List.find?_some (p := fun board : TopologyBoardNode => board.senderId == sender) hfind
    exact eq_of_key_eq h hb hboard ((beq_iff_eq.mp hkey).trans hsender.symm)

/-- A write that changes nothing. -/
theorem updateSenderBoard_of_mem (h : (boards.map (·.senderId)).Nodup) (hboard : board ∈ boards)
    (hsender : board.senderId = sender) {f : TopologyBoardNode → TopologyBoardNode} (hf : f board = board) :
    updateSenderBoard boards sender f = boards := by
  unfold updateSenderBoard
  cases hfind : boards.findIdx? (·.senderId == sender) with
  | none =>
    have hfalse := List.findIdx?_eq_none_iff.mp hfind board hboard
    rw [hsender, beq_self_eq_true] at hfalse
    cases hfalse
  | some i =>
    obtain ⟨hlt, hi, -⟩ := List.findIdx?_eq_some_iff_getElem.mp hfind
    have hkey : boards[i].senderId = sender := beq_iff_eq.mp hi
    have hsame : boards[i] = board := eq_of_key_eq h (List.getElem_mem hlt) hboard (hkey.trans hsender.symm)
    dsimp only
    rw [List.modify_eq_take_cons_drop hlt, hsame, hf, ← hsame, List.cons_getElem_drop_succ, List.take_append_drop]

/-- The sender has a board after a write to it. -/
theorem sender_mem_updateSenderBoard {f : TopologyBoardNode → TopologyBoardNode} (hf : ∀ b, (f b).senderId = b.senderId) :
    sender ∈ (updateSenderBoard boards sender f).map (·.senderId) := by
  unfold updateSenderBoard
  cases hfind : boards.findIdx? (·.senderId == sender) with
  | none =>
    dsimp only
    rw [List.map_append, List.mem_append]
    right
    exact List.mem_singleton.mpr (hf ⟨sender, [], [], []⟩).symm
  | some i =>
    obtain ⟨hlt, hi, -⟩ := List.findIdx?_eq_some_iff_getElem.mp hfind
    dsimp only
    rw [List.modify_eq_take_cons_drop hlt, List.map_append, List.mem_append, List.map_cons]
    right
    rw [hf, beq_iff_eq.mp hi]
    exact List.mem_cons_self

end

/-! ## What is learned -/

/-- What is learned of a route, times apart. -/
def DiscoveryRoute.learned (route : DiscoveryRoute) :
    Finset UInt32 × Finset Bytes × (Bytes → Option (List TopologyBoardNode × Finset UInt32 × Finset Bytes)) :=
  (route.endpoints, route.timesyncSources,
    fun name => (route.announcers.lookup name).map fun state => (state.topologyBoards, state.endpoints, state.timesyncSources))

namespace Owner

/-- What is learned on each side. -/
def learned (o : Owner) (sideId : Int32) :
    Option (Finset UInt32 × Finset Bytes × (Bytes → Option (List TopologyBoardNode × Finset UInt32 × Finset Bytes))) :=
  (o.discoveryRoutes.lookup sideId).map DiscoveryRoute.learned

/-- The state of a sender on a side, before it announces again. -/
def announcer (o : Owner) (sideId : Int32) (sender : Bytes) : SenderState :=
  Map.getOr (Map.getOr o.discoveryRoutes sideId .new).announcers sender .new

/-- Whether the packet is news: `changed` of `handle_discovery_packet`, where the packet is listened to. -/
def stirs (S : Schema) (self : Option Bytes) (sideId : Int32) (o : Owner) (pkt : PacketData) : Bool :=
  decide (self ≠ some pkt.sender) && ((o.announcer sideId pkt.sender).announce S (o.linkLocalOn sideId) pkt).1

/-- Packets are heard one after the other. -/
def hear (S : Schema) (E : Env) (self : Option Bytes) (sideId : Int32) (o : Owner) (pkts : List PacketData) : Owner :=
  pkts.foldl (fun o pkt => o.handleDiscoveryPacket S E self pkt (some sideId)) o

/-- None of the packets is news, nothing new is learned, and the next announcements are due as before. -/
structure Settles (S : Schema) (E : Env) (name : Option Bytes) (sideId : Int32) (o : Owner) (pkts : List PacketData) : Prop where
  quiet : ∀ before pkt after, pkts = before ++ pkt :: after → (o.hear S E name sideId before).stirs S name sideId pkt = false
  learned : (o.hear S E name sideId pkts).learned = o.learned
  interval : (o.hear S E name sideId pkts).discoveryIntervalMs = o.discoveryIntervalMs
  next : (o.hear S E name sideId pkts).discoveryNextMs = o.discoveryNextMs

section

variable {S : Schema} {E : Env} {self : Option Bytes} {sideId : Int32} {o : Owner} {pkt : PacketData}

/-- A packet that is listened to, other than a leave: what it makes of the routes, and when it is news. -/
theorem handleDiscoveryPacket_eq (hself : self ≠ some pkt.sender) (hty : pkt.ty ≠ kDiscoveryLeaveType) :
    o.handleDiscoveryPacket S E self pkt (some sideId) =
      { (o.nowMs E).2.observe (.hears o.clockReads (o.nowMs E).1) with
        discoveryRoutes := learnAnnouncement S (o.linkLocalOn sideId) o.discoveryRoutes sideId pkt (o.nowMs E).1
      }.noteIfChanged E (o.stirs S self sideId pkt) := by
  unfold handleDiscoveryPacket
  dsimp only
  rw [if_neg hself, if_neg hty]
  unfold stirs
  rw [decide_eq_true hself, Bool.true_and]
  rfl

theorem noteIfChanged_discoveryRoutes (changed : Bool) : (o.noteIfChanged E changed).discoveryRoutes = o.discoveryRoutes := by
  unfold noteIfChanged
  split
  · rfl
  · rfl

theorem handleDiscoveryPacket_routes (hself : self ≠ some pkt.sender) (hty : pkt.ty ≠ kDiscoveryLeaveType) :
    (o.handleDiscoveryPacket S E self pkt (some sideId)).discoveryRoutes =
      learnAnnouncement S (o.linkLocalOn sideId) o.discoveryRoutes sideId pkt (o.nowMs E).1 := by
  rw [handleDiscoveryPacket_eq hself hty, noteIfChanged_discoveryRoutes]

theorem handleDiscoveryPacket_linkLocalOn : (o.handleDiscoveryPacket S E self pkt (some sideId)).linkLocalOn = o.linkLocalOn := by
  have hsides := (handleDiscoveryPacket_emits (P := fun _ => True) (Q := fun _ => True) S E o (fun _ => trivial) self pkt
    (some sideId)).sides
  funext s
  unfold linkLocalOn sideAt
  rw [hsides]

/-- A packet that is no news leaves the time of the next announcements alone. -/
theorem handleDiscoveryPacket_due (hself : self ≠ some pkt.sender) (hty : pkt.ty ≠ kDiscoveryLeaveType)
    (hquiet : o.stirs S self sideId pkt = false) :
    (o.handleDiscoveryPacket S E self pkt (some sideId)).discoveryIntervalMs = o.discoveryIntervalMs ∧
      (o.handleDiscoveryPacket S E self pkt (some sideId)).discoveryNextMs = o.discoveryNextMs := by
  rw [handleDiscoveryPacket_eq hself hty, hquiet]
  exact ⟨rfl, rfl⟩

end

end Owner

/-! ## One packet -/

/-- What is kept of the sender is what these boards say. -/
structure SenderState.Tells (state : SenderState) (boards : List TopologyBoardNode) : Prop where
  topology : state.topologyBoards = boards
  endpoints : state.endpoints = (summarizeTopologyBoards boards).1.toFinset
  sources : state.timesyncSources = (summarizeTopologyBoards boards).2.toFinset

theorem SenderState.refresh_tells (state : SenderState) : state.refresh.Tells (normalizeTopologyBoards state.topologyBoards) :=
  ⟨rfl, rfl, rfl⟩

/-- The sender was heard on the side, and what was heard are these boards. -/
def Owner.Knows (o : Owner) (sideId : Int32) (sender : Bytes) (boards : List TopologyBoardNode) : Prop :=
  ∃ route : DiscoveryRoute, o.discoveryRoutes.lookup sideId = some route.recompute ∧
    ∃ state, route.announcers.lookup sender = some state ∧ state.Tells boards

namespace DiscoveryRoute

theorem mem_recompute_endpoints {route : DiscoveryRoute} {ep : UInt32} :
    ep ∈ route.recompute.endpoints ↔ ∃ name state, route.announcers.lookup name = some state ∧ ep ∈ state.endpoints := by
  change ep ∈ List.foldl _ _ (List.map _ _) ↔ _
  rw [List.foldl_map, mem_foldl_union, or_iff_right (Finset.notMem_empty ep)]
  constructor
  · rintro ⟨a, ha, hep⟩
    exact ⟨a.1, a.2, AList.mem_lookup_iff.mpr ha, hep⟩
  · rintro ⟨name, state, hlookup, hep⟩
    exact ⟨⟨name, state⟩, Map.mem_of_lookup hlookup, hep⟩

theorem mem_recompute_sources {route : DiscoveryRoute} {source : Bytes} :
    source ∈ route.recompute.timesyncSources ↔
      ∃ name state, route.announcers.lookup name = some state ∧ source ∈ state.timesyncSources := by
  change source ∈ List.foldl _ _ (List.map _ _) ↔ _
  rw [List.foldl_map, mem_foldl_union, or_iff_right (Finset.notMem_empty source)]
  constructor
  · rintro ⟨a, ha, hep⟩
    exact ⟨a.1, a.2, AList.mem_lookup_iff.mpr ha, hep⟩
  · rintro ⟨name, state, hlookup, hep⟩
    exact ⟨⟨name, state⟩, Map.mem_of_lookup hlookup, hep⟩

/-- A sender that says the same again: only its time is new. -/
theorem learned_insert {route : DiscoveryRoute} {sender : Bytes} {state again : SenderState}
    {boards : List TopologyBoardNode} (hlookup : route.announcers.lookup sender = some state) (htells : state.Tells boards)
    (hagain : again.Tells boards) :
    (DiscoveryRoute.recompute { route with announcers := route.announcers.insert sender again }).learned =
      route.recompute.learned := by
  have hendpoints : again.endpoints = state.endpoints := hagain.endpoints.trans htells.endpoints.symm
  have hsources : again.timesyncSources = state.timesyncSources := hagain.sources.trans htells.sources.symm
  have hboards : again.topologyBoards = state.topologyBoards := hagain.topology.trans htells.topology.symm
  -- every name looks up to the same, times apart
  have hview : ∀ {β : Type} (view : SenderState → β), view again = view state → ∀ name,
      ((route.announcers.insert sender again).lookup name).map view = (route.announcers.lookup name).map view := by
    intro β view hview name
    by_cases hname : name = sender
    · rw [hname, AList.lookup_insert, hlookup, Option.map_some, Option.map_some, hview]
    · rw [AList.lookup_insert_ne hname]
  have hsame : ∀ {β : Type} (view : SenderState → Finset β), view again = view state → ∀ x,
      (∃ name s, (route.announcers.insert sender again).lookup name = some s ∧ x ∈ view s) ↔
        ∃ name s, route.announcers.lookup name = some s ∧ x ∈ view s := by
    intro β view hstate x
    refine exists_congr fun name => ?_
    have hname := hview view hstate name
    constructor
    · rintro ⟨s, hs, hx⟩
      rw [hs, Option.map_some, eq_comm, Option.map_eq_some_iff] at hname
      obtain ⟨s', hs', heq⟩ := hname
      exact ⟨s', hs', heq ▸ hx⟩
    · rintro ⟨s, hs, hx⟩
      rw [hs, Option.map_some, Option.map_eq_some_iff] at hname
      obtain ⟨s', hs', heq⟩ := hname
      exact ⟨s', hs', heq ▸ hx⟩
  unfold learned
  refine Prod.ext ?_ (Prod.ext ?_ ?_)
  · apply Finset.ext
    intro ep
    rw [mem_recompute_endpoints, mem_recompute_endpoints]
    exact hsame (·.endpoints) hendpoints ep
  · apply Finset.ext
    intro source
    rw [mem_recompute_sources, mem_recompute_sources]
    exact hsame (·.timesyncSources) hsources source
  · funext name
    exact hview (fun s => (s.topologyBoards, s.endpoints, s.timesyncSources))
      (Prod.ext hboards (Prod.ext hendpoints hsources)) name

end DiscoveryRoute

namespace Owner

section

variable {S : Schema} {E : Env} {self : Option Bytes} {sideId : Int32} {o : Owner} {pkt : PacketData}
  {boards : List TopologyBoardNode}

theorem Knows.announcer {sender : Bytes} (h : o.Knows sideId sender boards) :
    (o.announcer sideId sender).topologyBoards = boards := by
  obtain ⟨route, hroute, state, hstate, htells⟩ := h
  unfold Owner.announcer Map.getOr
  rw [hroute, Option.getD_some]
  change ((route.announcers.lookup sender).getD _).topologyBoards = _
  rw [hstate, Option.getD_some, htells.topology]

/-- After a packet, what is known of its sender is what the packet makes of it. -/
theorem handleDiscoveryPacket_knows (hself : self ≠ some pkt.sender) (hty : pkt.ty ≠ kDiscoveryLeaveType)
    (htells : ((o.announcer sideId pkt.sender).announce S (o.linkLocalOn sideId) pkt).2.Tells boards) :
    (o.handleDiscoveryPacket S E self pkt (some sideId)).Knows sideId pkt.sender boards := by
  unfold Knows
  rw [handleDiscoveryPacket_routes hself hty]
  unfold learnAnnouncement
  dsimp only
  rw [AList.lookup_insert]
  refine ⟨_, rfl, _, AList.lookup_insert _, ?_⟩
  exact ⟨htells.topology, htells.endpoints, htells.sources⟩

/-- A packet that leaves its sender's boards as they were: nothing is learned. -/
theorem handleDiscoveryPacket_learned (hself : self ≠ some pkt.sender) (hty : pkt.ty ≠ kDiscoveryLeaveType)
    (hknows : o.Knows sideId pkt.sender boards)
    (htells : ((o.announcer sideId pkt.sender).announce S (o.linkLocalOn sideId) pkt).2.Tells boards) :
    (o.handleDiscoveryPacket S E self pkt (some sideId)).learned = o.learned := by
  obtain ⟨route, hroute, state, hstate, hstays⟩ := hknows
  funext side
  unfold Owner.learned
  rw [handleDiscoveryPacket_routes hself hty]
  unfold learnAnnouncement
  dsimp only
  by_cases hside : side = sideId
  · rw [hside, AList.lookup_insert, hroute, Option.map_some, Option.map_some]
    have hget : Map.getOr o.discoveryRoutes sideId .new = route.recompute := by
      unfold Map.getOr
      rw [hroute, Option.getD_some]
    unfold Owner.announcer at htells
    rw [hget] at htells ⊢
    exact congrArg some (DiscoveryRoute.learned_insert hstate hstays ⟨htells.topology, htells.endpoints, htells.sources⟩)
  · rw [AList.lookup_insert_ne hside]

end

end Owner

/-! ## One packet of each kind -/

namespace SenderState

variable (S : Schema) {pkt : PacketData} (link : Bool)

/-- What an `ANNOUNCE` says is written to the sender's own board. -/
theorem announce_endpoints (hty : pkt.ty = SEDS_DT_DISCOVERY_ANNOUNCE) (state : SenderState) :
    (state.announce S link pkt).1 =
      ((senderBoard state.topologyBoards pkt.sender).reachableEndpoints != decodeDiscoveryEndpoints S pkt.payload) ∧
    (state.announce S link pkt).2.Tells (normalizeTopologyBoards (updateSenderBoard state.topologyBoards pkt.sender fun board =>
      { board with reachableEndpoints := decodeDiscoveryEndpoints S pkt.payload }.hide fun ep =>
        !link && S.endpointLinkLocalOnly ep)) := by
  unfold SenderState.announce
  dsimp only
  rw [if_pos hty]
  exact ⟨rfl, refresh_tells _⟩

/-- And so is what `TIMESYNC_SOURCES` says. -/
theorem announce_sources (hty : pkt.ty = SEDS_DT_DISCOVERY_TIMESYNC_SOURCES) (state : SenderState) :
    (state.announce S link pkt).1 =
      ((senderBoard state.topologyBoards pkt.sender).reachableTimesyncSources != decodeDiscoveryTimesyncSources pkt.payload) ∧
    (state.announce S link pkt).2.Tells (normalizeTopologyBoards (updateSenderBoard state.topologyBoards pkt.sender fun board =>
      { board with reachableTimesyncSources := decodeDiscoveryTimesyncSources pkt.payload })) := by
  unfold SenderState.announce
  dsimp only
  rw [hty, if_neg (by decide), if_pos rfl]
  exact ⟨rfl, refresh_tells _⟩

/-- A `TOPOLOGY` takes the place of all boards. -/
theorem announce_topology {round : Round} (hty : pkt.ty = SEDS_DT_DISCOVERY_TOPOLOGY) (hpayload : pkt.payload = round.topology)
    (state : SenderState) :
    (state.announce S link pkt).1 = (state.topologyBoards != round.boards S link) ∧
      (state.announce S link pkt).2.Tells (round.boards S link) := by
  unfold SenderState.announce
  dsimp only
  rw [hty, if_neg (by decide), if_neg (by decide), if_pos rfl, hpayload]
  refine ⟨rfl, ?_⟩
  have htells := refresh_tells { state with topologyBoards := round.boards S link }
  dsimp only at htells
  rwa [(round.boards_normal S link).normalize_eq] at htells

end SenderState

/-- A packet that says of its sender what is known already, and only that. -/
structure Repeats (S : Schema) (link : Bool) (sender : Bytes) (boards : List TopologyBoardNode) (pkt : PacketData) : Prop where
  sender : pkt.sender = sender
  kind : pkt.ty ≠ kDiscoveryLeaveType
  quiet : ∀ state : SenderState, state.topologyBoards = boards → (state.announce S link pkt).1 = false
  stays : ∀ state : SenderState, state.topologyBoards = boards → (state.announce S link pkt).2.Tells boards

namespace Owner

section

variable {S : Schema} {E : Env} {self : Option Bytes} {sideId : Int32} {sender : Bytes} {boards : List TopologyBoardNode}

theorem stirs_eq {o : Owner} {pkt : PacketData} (hself : self ≠ some pkt.sender) :
    o.stirs S self sideId pkt = ((o.announcer sideId pkt.sender).announce S (o.linkLocalOn sideId) pkt).1 := by
  unfold stirs
  rw [decide_eq_true hself, Bool.true_and]

/-- **Packets that say what is known already settle.** -/
theorem Knows.settles {o : Owner} {pkts : List PacketData} (hself : self ≠ some sender) (hknows : o.Knows sideId sender boards)
    (h : ∀ pkt ∈ pkts, Repeats S (o.linkLocalOn sideId) sender boards pkt) : o.Settles S E self sideId pkts := by
  induction pkts generalizing o with
  | nil =>
    refine ⟨?_, rfl, rfl, rfl⟩
    intro before pkt after heq
    exact absurd heq.symm (List.append_ne_nil_of_right_ne_nil before (List.cons_ne_nil pkt after))
  | cons pkt pkts ih =>
    have hrepeats := h pkt List.mem_cons_self
    obtain rfl := hrepeats.sender
    have hquiet : o.stirs S self sideId pkt = false := (stirs_eq hself).trans (hrepeats.quiet _ hknows.announcer)
    have htells := hrepeats.stays _ hknows.announcer
    have hdue := handleDiscoveryPacket_due (E := E) hself hrepeats.kind hquiet
    have hrest := ih (handleDiscoveryPacket_knows (E := E) hself hrepeats.kind htells) (by
      intro p hp
      rw [handleDiscoveryPacket_linkLocalOn]
      exact h p (List.mem_cons_of_mem pkt hp))
    refine ⟨?_, ?_, ?_, ?_⟩
    · intro before p after heq
      cases before with
      | nil =>
        obtain ⟨rfl, -⟩ := List.cons.inj heq
        exact hquiet
      | cons b before =>
        obtain ⟨rfl, hpkts⟩ := List.cons.inj heq
        exact hrest.quiet before p after hpkts
    · exact hrest.learned.trans (handleDiscoveryPacket_learned hself hrepeats.kind hknows htells)
    · exact hrest.interval.trans hdue.1
    · exact hrest.next.trans hdue.2

/-- A router does not listen to itself. -/
theorem settles_of_own {o : Owner} {pkts : List PacketData} (h : ∀ pkt ∈ pkts, self = some pkt.sender) :
    o.Settles S E self sideId pkts := by
  have hsame : ∀ {pkts : List PacketData}, (∀ pkt ∈ pkts, self = some pkt.sender) → o.hear S E self sideId pkts = o := by
    intro pkts h
    induction pkts with
    | nil => rfl
    | cons pkt pkts ih =>
      have hhead : o.handleDiscoveryPacket S E self pkt (some sideId) = o := by
        unfold handleDiscoveryPacket
        dsimp only
        rw [if_pos (h pkt List.mem_cons_self)]
      unfold hear
      rw [List.foldl_cons, hhead]
      exact ih fun p hp => h p (List.mem_cons_of_mem pkt hp)
  refine ⟨?_, ?_, ?_, ?_⟩
  · intro before pkt after heq
    unfold stirs
    have hmem : pkt ∈ pkts := by
      rw [heq]
      exact List.mem_append_right before List.mem_cons_self
    rw [decide_eq_false (not_not.mpr (h pkt hmem)), Bool.false_and]
  · rw [hsame h]
  · rw [hsame h]
  · rw [hsame h]

end

end Owner

/-! ## A round -/

namespace Round

variable {S : Schema} {link : Bool} {round : Round} {pkt : PacketData} {board : TopologyBoardNode}

theorem Sent.senders {pkts : List PacketData} (h : round.Sent pkts) : ∀ pkt ∈ pkts, pkt.sender = round.sender := by
  cases h with
  | plain announce topology hsources ha ht =>
    intro pkt hpkt
    rcases List.mem_cons.mp hpkt with rfl | hpkt
    · exact ha.2.1
    · rw [List.mem_singleton.mp hpkt, ht.2.1]
  | timed announce sources topology payload hsources ha hs ht =>
    intro pkt hpkt
    rcases List.mem_cons.mp hpkt with rfl | hpkt
    · exact ha.2.1
    · rcases List.mem_cons.mp hpkt with rfl | hpkt
      · exact hs.2.1
      · rw [List.mem_singleton.mp hpkt, ht.2.1]

/-- What is hidden once is hidden. -/
theorem hide_of_mem_boards (hboard : board ∈ round.boards S link) :
    board.hide (fun ep => !link && S.endpointLinkLocalOnly ep) = board := by
  obtain ⟨b, -, rfl⟩ := List.mem_map.mp hboard
  unfold TopologyBoardNode.hide
  rw [List.filter_filter]
  simp only [Bool.and_self]

theorem repeats_announce (hboard : board ∈ round.boards S link) (hsender : board.senderId = round.sender)
    (hendpoints : board.reachableEndpoints = decodeDiscoveryEndpoints S round.announce)
    (ha : pkt.ty = SEDS_DT_DISCOVERY_ANNOUNCE ∧ pkt.sender = round.sender ∧ pkt.payload = round.announce) :
    Repeats S link round.sender (round.boards S link) pkt := by
  obtain ⟨hty, hfrom, hpayload⟩ := ha
  have hnormal := round.boards_normal S link
  refine ⟨hfrom, by rw [hty]; decide, ?_, ?_⟩
  · intro state hstate
    rw [(SenderState.announce_endpoints S link hty state).1, hstate, hfrom, hpayload,
      senderBoard_of_mem hnormal.senders.nodup hboard hsender, hendpoints, bne_self_eq_false]
  · intro state hstate
    have htells := (SenderState.announce_endpoints S link hty state).2
    rwa [hstate, hfrom, hpayload, updateSenderBoard_of_mem hnormal.senders.nodup hboard hsender, hnormal.normalize_eq] at htells
    rw [← hendpoints]
    exact hide_of_mem_boards hboard

theorem repeats_sources (hboard : board ∈ round.boards S link) (hsender : board.senderId = round.sender) {payload : Bytes}
    (hsources : board.reachableTimesyncSources = decodeDiscoveryTimesyncSources payload)
    (hs : pkt.ty = SEDS_DT_DISCOVERY_TIMESYNC_SOURCES ∧ pkt.sender = round.sender ∧ pkt.payload = payload) :
    Repeats S link round.sender (round.boards S link) pkt := by
  obtain ⟨hty, hfrom, hpayload⟩ := hs
  have hnormal := round.boards_normal S link
  refine ⟨hfrom, by rw [hty]; decide, ?_, ?_⟩
  · intro state hstate
    rw [(SenderState.announce_sources S link hty state).1, hstate, hfrom, hpayload,
      senderBoard_of_mem hnormal.senders.nodup hboard hsender, hsources, bne_self_eq_false]
  · intro state hstate
    have htells := (SenderState.announce_sources S link hty state).2
    rwa [hstate, hfrom, hpayload, updateSenderBoard_of_mem hnormal.senders.nodup hboard hsender, hnormal.normalize_eq] at htells
    rw [← hsources]

theorem repeats_topology
    (ht : pkt.ty = SEDS_DT_DISCOVERY_TOPOLOGY ∧ pkt.sender = round.sender ∧ pkt.payload = round.topology) :
    Repeats S link round.sender (round.boards S link) pkt := by
  obtain ⟨hty, hfrom, hpayload⟩ := ht
  refine ⟨hfrom, by rw [hty]; decide, ?_, ?_⟩
  · intro state hstate
    rw [(SenderState.announce_topology S link hty hpayload state).1, hstate, bne_self_eq_false]
  · intro state _
    exact (SenderState.announce_topology S link hty hpayload state).2

/-- Where the sender's own board lists all that is announced, every packet of the round says what the boards say. -/
theorem Agrees.repeats (hagrees : round.Agrees S link) {pkts : List PacketData} (h : round.Sent pkts) :
    ∀ pkt ∈ pkts, Repeats S link round.sender (round.boards S link) pkt := by
  obtain ⟨board, hboard, hsender, hendpoints, hsources⟩ := hagrees
  cases h with
  | plain announce topology hnone ha ht =>
    intro pkt hpkt
    rcases List.mem_cons.mp hpkt with rfl | hpkt
    · exact repeats_announce hboard hsender hendpoints ha
    · rw [List.mem_singleton.mp hpkt]
      exact repeats_topology ht
  | timed announce sources topology payload hsome ha hs ht =>
    intro pkt hpkt
    rcases List.mem_cons.mp hpkt with rfl | hpkt
    · exact repeats_announce hboard hsender hendpoints ha
    · rcases List.mem_cons.mp hpkt with rfl | hpkt
      · exact repeats_sources hboard hsender (hsources payload hsome) hs
      · rw [List.mem_singleton.mp hpkt]
        exact repeats_topology ht

end Round

namespace Owner

section

variable {S : Schema} {E : Env} {self : Option Bytes} {sideId : Int32} {o : Owner} {round : Round} {pkts pkts' : List PacketData}

/-- The last packet of a round decides what is known of its sender. -/
theorem topology_knows (S : Schema) (E : Env) (sideId : Int32) (o : Owner) {pkt : PacketData} (hself : self ≠ some round.sender)
    (ht : pkt.ty = SEDS_DT_DISCOVERY_TOPOLOGY ∧ pkt.sender = round.sender ∧ pkt.payload = round.topology) :
    (o.handleDiscoveryPacket S E self pkt (some sideId)).Knows sideId round.sender (round.boards S (o.linkLocalOn sideId)) := by
  obtain ⟨hty, hfrom, hpayload⟩ := ht
  rw [← hfrom] at hself ⊢
  apply handleDiscoveryPacket_knows hself
  · rw [hty]
    decide
  · exact (SenderState.announce_topology S _ hty hpayload _).2

theorem hear_knows (hself : self ≠ some round.sender) (h : round.Sent pkts) :
    (o.hear S E self sideId pkts).Knows sideId round.sender (round.boards S (o.linkLocalOn sideId)) := by
  cases h with
  | plain announce topology hsources ha ht =>
    have hknows := topology_knows S E sideId (o.handleDiscoveryPacket S E self announce (some sideId)) hself ht
    rwa [handleDiscoveryPacket_linkLocalOn] at hknows
  | timed announce sources topology payload hsources ha hs ht =>
    have hknows := topology_knows S E sideId
      ((o.handleDiscoveryPacket S E self announce (some sideId)).handleDiscoveryPacket S E self sources (some sideId)) hself ht
    rwa [handleDiscoveryPacket_linkLocalOn, handleDiscoveryPacket_linkLocalOn] at hknows

theorem hear_linkLocalOn : (o.hear S E self sideId pkts).linkLocalOn = o.linkLocalOn := by
  induction pkts generalizing o with
  | nil => rfl
  | cons pkt pkts ih => exact ih.trans handleDiscoveryPacket_linkLocalOn

/-- What a packet that is no news, other than a leave, says of what is known. -/
theorem Knows.quiet {pkt : PacketData} {boards : List TopologyBoardNode} (hself : self ≠ some round.sender)
    (hfrom : pkt.sender = round.sender) (hknows : o.Knows sideId round.sender boards)
    (hquiet : o.stirs S self sideId pkt = false) :
    ∃ state : SenderState, state.topologyBoards = boards ∧ (state.announce S (o.linkLocalOn sideId) pkt).1 = false := by
  rw [← hfrom] at hself hknows
  rw [stirs_eq hself] at hquiet
  exact ⟨_, hknows.announcer, hquiet⟩

/-- The last packet of the round is no news: the boards are those it tells of. -/
theorem Knows.topology_quiet {pkt : PacketData} {boards : List TopologyBoardNode} (hself : self ≠ some round.sender)
    (ht : pkt.ty = SEDS_DT_DISCOVERY_TOPOLOGY ∧ pkt.sender = round.sender ∧ pkt.payload = round.topology)
    (hknows : o.Knows sideId round.sender boards) (hquiet : o.stirs S self sideId pkt = false) :
    boards = round.boards S (o.linkLocalOn sideId) := by
  obtain ⟨hty, hfrom, hpayload⟩ := ht
  obtain ⟨state, rfl, hsame⟩ := hknows.quiet hself hfrom hquiet
  rw [(SenderState.announce_topology S _ hty hpayload state).1] at hsame
  exact bne_eq_false_iff_eq.mp hsame

/-- The `ANNOUNCE` is no news: the sender's board lists the endpoints. What is known then, the sender having a board. -/
theorem Knows.announce_quiet (E : Env) {pkt : PacketData} {boards : List TopologyBoardNode} (hself : self ≠ some round.sender)
    (ha : pkt.ty = SEDS_DT_DISCOVERY_ANNOUNCE ∧ pkt.sender = round.sender ∧ pkt.payload = round.announce)
    (hknows : o.Knows sideId round.sender boards) (hquiet : o.stirs S self sideId pkt = false) :
    (senderBoard boards round.sender).reachableEndpoints = decodeDiscoveryEndpoints S round.announce ∧
    (o.handleDiscoveryPacket S E self pkt (some sideId)).Knows sideId round.sender (normalizeTopologyBoards
      (updateSenderBoard boards round.sender fun board =>
        { board with reachableEndpoints := decodeDiscoveryEndpoints S round.announce }.hide fun ep =>
          !o.linkLocalOn sideId && S.endpointLinkLocalOnly ep)) := by
  obtain ⟨hty, hfrom, hpayload⟩ := ha
  obtain ⟨state, hstate, hsame⟩ := hknows.quiet hself hfrom hquiet
  rw [(SenderState.announce_endpoints S _ hty state).1, hstate, hfrom, hpayload] at hsame
  refine ⟨bne_eq_false_iff_eq.mp hsame, ?_⟩
  have htells := (SenderState.announce_endpoints S (o.linkLocalOn sideId) hty (o.announcer sideId pkt.sender)).2
  rw [← hfrom] at hknows hself
  rw [hknows.announcer, hpayload] at htells
  rw [← hfrom]
  apply handleDiscoveryPacket_knows hself
  · rw [hty]
    decide
  · exact htells

theorem Knows.sources_quiet (E : Env) {pkt : PacketData} {boards : List TopologyBoardNode} {payload : Bytes}
    (hself : self ≠ some round.sender)
    (hs : pkt.ty = SEDS_DT_DISCOVERY_TIMESYNC_SOURCES ∧ pkt.sender = round.sender ∧ pkt.payload = payload)
    (hknows : o.Knows sideId round.sender boards) (hquiet : o.stirs S self sideId pkt = false) :
    (senderBoard boards round.sender).reachableTimesyncSources = decodeDiscoveryTimesyncSources payload ∧
    (o.handleDiscoveryPacket S E self pkt (some sideId)).Knows sideId round.sender (normalizeTopologyBoards
      (updateSenderBoard boards round.sender fun board =>
        { board with reachableTimesyncSources := decodeDiscoveryTimesyncSources payload })) := by
  obtain ⟨hty, hfrom, hpayload⟩ := hs
  obtain ⟨state, hstate, hsame⟩ := hknows.quiet hself hfrom hquiet
  rw [(SenderState.announce_sources S _ hty state).1, hstate, hfrom, hpayload] at hsame
  refine ⟨bne_eq_false_iff_eq.mp hsame, ?_⟩
  have htells := (SenderState.announce_sources S (o.linkLocalOn sideId) hty (o.announcer sideId pkt.sender)).2
  rw [← hfrom] at hknows hself
  rw [hknows.announcer, hpayload] at htells
  rw [← hfrom]
  apply handleDiscoveryPacket_knows hself
  · rw [hty]
    decide
  · exact htells

/-- A round that settles, where its last packet has decided what is known before: the sender has a board of its own, and the
    other packets say no more. -/
theorem Settles.agrees (hself : self ≠ some round.sender)
    (hknows : o.Knows sideId round.sender (round.boards S (o.linkLocalOn sideId))) (h : round.Sent pkts)
    (hsettles : o.Settles S E self sideId pkts) : round.Agrees S (o.linkLocalOn sideId) := by
  have hnormal := round.boards_normal S (o.linkLocalOn sideId)
  cases h with
  | plain announce topology hnone ha ht =>
    obtain ⟨hendpoints, hknows₁⟩ := hknows.announce_quiet E hself ha (hsettles.quiet [] announce [topology] rfl)
    have hboards := hknows₁.topology_quiet hself ht (hsettles.quiet [announce] topology [] rfl)
    rw [handleDiscoveryPacket_linkLocalOn] at hboards
    have hmem : round.sender ∈ (round.boards S (o.linkLocalOn sideId)).map (·.senderId) := by
      rw [← hboards, senders_normalize]
      exact sender_mem_updateSenderBoard fun _ => rfl
    obtain ⟨board, hboard, hsender⟩ := List.mem_map.mp hmem
    rw [senderBoard_of_mem hnormal.senders.nodup hboard hsender] at hendpoints
    refine ⟨board, hboard, hsender, hendpoints, ?_⟩
    intro payload hpayload
    rw [hnone] at hpayload
    cases hpayload
  | timed announce sources topology payload hsome ha hs ht =>
    obtain ⟨hendpoints, hknows₁⟩ := hknows.announce_quiet E hself ha (hsettles.quiet [] announce [sources, topology] rfl)
    obtain ⟨hsources, hknows₂⟩ := hknows₁.sources_quiet E hself hs (hsettles.quiet [announce] sources [topology] rfl)
    have hboards := hknows₂.topology_quiet hself ht (hsettles.quiet [announce, sources] topology [] rfl)
    rw [handleDiscoveryPacket_linkLocalOn, handleDiscoveryPacket_linkLocalOn] at hboards
    have hmem : round.sender ∈ (round.boards S (o.linkLocalOn sideId)).map (·.senderId) := by
      rw [← hboards, senders_normalize]
      exact sender_mem_updateSenderBoard fun _ => rfl
    obtain ⟨board, hboard, hsender⟩ := List.mem_map.mp hmem
    have hfound := senderBoard_of_mem hnormal.senders.nodup hboard hsender
    rw [hfound] at hendpoints
    -- the first packet has written what was there, so the second is compared with the same board
    rw [updateSenderBoard_of_mem hnormal.senders.nodup hboard hsender (by
      rw [← hendpoints]
      exact Round.hide_of_mem_boards hboard), hnormal.normalize_eq, hfound] at hsources
    refine ⟨board, hboard, hsender, hendpoints, ?_⟩
    intro bytes hbytes
    rw [hsome] at hbytes
    cases hbytes
    exact hsources

/-- Exactly when a second round settles on a peer that has heard the first one. -/
theorem hear_settles_iff (S : Schema) (E : Env) (o : Owner) (hfirst : round.Sent pkts) (hsecond : round.Sent pkts') :
    (o.hear S E self sideId pkts).Settles S E self sideId pkts' ↔
      self = some round.sender ∨ round.Agrees S (o.linkLocalOn sideId) := by
  have hlink : (o.hear S E self sideId pkts).linkLocalOn = o.linkLocalOn := hear_linkLocalOn
  by_cases hself : self = some round.sender
  · refine iff_of_true ?_ (.inl hself)
    apply settles_of_own
    intro pkt hpkt
    rw [hsecond.senders pkt hpkt, hself]
  · rw [or_iff_right hself, ← hlink]
    have hknows : (o.hear S E self sideId pkts).Knows sideId round.sender
        (round.boards S ((o.hear S E self sideId pkts).linkLocalOn sideId)) := by
      rw [hlink]
      exact hear_knows hself hfirst
    constructor
    · intro hsettles
      exact hsettles.agrees hself hknows hsecond
    · intro hagrees
      exact hknows.settles hself (hagrees.repeats hsecond)

end

/-! ## The rounds of a node -/

section

variable (S : Schema) (L : LocalBoard) (n : Owner) (sideId : Int32) (t₁ t₂ t₃ : UInt64)

/-- What a node says on a side; the times are those at which the topology, the sources and the endpoints are collected. -/
def round : Round where
  sender := L.sender
  announce := (n.advertisedEndpoints S sideId (n.advertisedTopology S L sideId t₃)).flatMap appendLe32
  sources :=
    let sources := (summarizeTopologyBoards (n.advertisedTopology S L sideId t₂)).2
    if sources.isEmpty then none else some (encodeDiscoveryTimesyncSources sources)
  topology := encodeDiscoveryTopology (n.advertisedTopology S L sideId t₁)

/-- The packets it says it with, in the order they are sent in. -/
def roundPackets (now : UInt64) : List PacketData :=
  let sources :=
    if (summarizeTopologyBoards (n.advertisedTopology S L sideId t₂)).2.isEmpty then []
    else [sourcesPacket S L now n sideId t₂]
  announcePacket S L now n sideId t₃ :: (sources ++ [topologyPacket S L now n sideId t₁])

theorem roundPackets_sent (now : UInt64) : (n.round S L sideId t₁ t₂ t₃).Sent (n.roundPackets S L sideId t₁ t₂ t₃ now) := by
  unfold roundPackets
  dsimp only
  split
  · rename_i hempty
    refine .plain _ _ ?_ ⟨rfl, rfl, rfl⟩ ⟨rfl, rfl, rfl⟩
    exact if_pos hempty
  · rename_i hsome
    refine .timed _ _ _ _ ?_ ⟨rfl, rfl, rfl⟩ ⟨rfl, rfl, rfl⟩ ⟨rfl, rfl, rfl⟩
    exact if_neg hsome

end

/-- The owner is `n`, but for how far the clock is read, with the packets queued. -/
def Queued (sideId : Int32) (n : Owner) (pkts : List PacketData) (o : Owner) : Prop :=
  ∃ reads, o = { pkts.foldr (fun pkt o => o.queueFor sideId pkt) n with clockReads := reads }

section

variable {S : Schema} {E : Env} {L : LocalBoard} {now : UInt64} {n o : Owner} {sideId : Int32} {pkts : List PacketData}

theorem Queued.nowMs (h : Queued sideId n pkts o) : Queued sideId n pkts (o.nowMs E).2 := by
  obtain ⟨reads, rfl⟩ := h
  exact ⟨reads + 1, rfl⟩

theorem Queued.queueFor (h : Queued sideId n pkts o) (pkt : PacketData) : Queued sideId n (pkt :: pkts) (o.queueFor sideId pkt) := by
  obtain ⟨reads, rfl⟩ := h
  refine ⟨reads, ?_⟩
  rw [List.foldr_cons]
  unfold Owner.queueFor enqueueTxFront enqueueTxAt
  dsimp only
  split
  · rfl
  · rfl

/-- What is announced does not depend on the queue. -/
theorem Queued.announcePacket (h : Queued sideId n pkts o) (t : UInt64) :
    announcePacket S L now o sideId t = announcePacket S L now n sideId t := by
  have hkeep : (pkts.foldr (fun pkt o => o.queueFor sideId pkt) n).sides = n.sides ∧
      (pkts.foldr (fun pkt o => o.queueFor sideId pkt) n).discoveryRoutes = n.discoveryRoutes := by
    clear h
    induction pkts with
    | nil => exact ⟨rfl, rfl⟩
    | cons pkt pkts ih =>
      rw [List.foldr_cons]
      unfold Owner.queueFor enqueueTxFront enqueueTxAt
      split
      · exact ih
      · exact ih
  obtain ⟨reads, rfl⟩ := h
  unfold Owner.announcePacket advertisedEndpoints advertisedTopology liveAnnouncers linkLocalOn sideAt
  dsimp only
  rw [hkeep.1, hkeep.2]

theorem Queued.announce (h : Queued sideId n pkts o) :
    ∃ t, Queued sideId n (Owner.announcePacket S L now n sideId t :: pkts)
      ((o.nowMs E).2.queueFor sideId (Owner.announcePacket S L now o sideId (E.clock o.clockReads))) := by
  refine ⟨E.clock o.clockReads, ?_⟩
  rw [h.announcePacket]
  exact h.nowMs.queueFor _

/-- The packets for a side, one after the other. -/
theorem announceSide_eq :
    announceSide S E L now n sideId =
      if !validatePayload S n.tuning SEDS_DT_DISCOVERY_TOPOLOGY
          (topologyPacket S L now n sideId (E.clock n.clockReads)).payload.length then (false, (n.nowMs E).2)
      else
        let o := ((n.nowMs E).2.nowMs E).2.queueFor sideId (topologyPacket S L now n sideId (E.clock n.clockReads))
        let o :=
          if (summarizeTopologyBoards (n.advertisedTopology S L sideId (E.clock (n.clockReads + 1)))).2.isEmpty then o
          else o.queueFor sideId (sourcesPacket S L now n sideId (E.clock (n.clockReads + 1)))
        (true, (o.nowMs E).2.queueFor sideId (announcePacket S L now o sideId (E.clock o.clockReads))) := by
  unfold announceSide
  rfl

/-- **The packets that are queued for a side are a round.** -/
theorem announceSide_round (h : (announceSide S E L now n sideId).1 = true) :
    ∃ t, Queued sideId n (n.roundPackets S L sideId (E.clock n.clockReads) (E.clock (n.clockReads + 1)) t now)
      (announceSide S E L now n sideId).2 := by
  rw [announceSide_eq] at h ⊢
  split at h
  · cases h
  · rename_i hvalid
    rw [if_neg hvalid]
    have hstart : Queued sideId n [] n := ⟨n.clockReads, rfl⟩
    have htopology := ((hstart.nowMs (E := E)).nowMs (E := E)).queueFor (topologyPacket S L now n sideId (E.clock n.clockReads))
    unfold roundPackets
    dsimp only
    split
    · exact htopology.announce
    · have hsources := htopology.queueFor (sourcesPacket S L now n sideId (E.clock (n.clockReads + 1)))
      exact hsources.announce

end

/-- **Exactly when a second round of a node settles**, on a peer that has heard the first one: the peer is the node itself, or
    the node's own board, as the peer keeps it, lists all that the node announces. -/
theorem secondRound_settles_iff (S : Schema) (E : Env) (self : Option Bytes) (sideId : Int32) (o : Owner) (N : Schema)
    (L : LocalBoard) (n n' : Owner) (side : Int32) (t₁ t₂ t₃ t₁' t₂' t₃' now now' : UInt64)
    (hsame : n'.round N L side t₁' t₂' t₃' = n.round N L side t₁ t₂ t₃) :
    (o.hear S E self sideId (n.roundPackets N L side t₁ t₂ t₃ now)).Settles S E self sideId
        (n'.roundPackets N L side t₁' t₂' t₃' now') ↔
      self = some L.sender ∨ (n.round N L side t₁ t₂ t₃).Agrees S (o.linkLocalOn sideId) := by
  apply hear_settles_iff S E o (n.roundPackets_sent N L side t₁ t₂ t₃ now)
  rw [← hsame]
  exact n'.roundPackets_sent N L side t₁' t₂' t₃' now'

/-- A router with one endpoint that has heard nobody: its second round is no news to a peer. -/
def loneRouter : Router := .new .Sink (ascii "R") [.serialized [] true] [⟨100, true, false⟩]

/-- A router that hears announcements. -/
def peerRouter : Router := .new .Sink (ascii "P") [.serialized [] true] []

theorem secondRound_settles_lone :
    (peerRouter.toOwner.hear defaultTestSchema .calm (some (ascii "P")) 0 (loneRouter.toOwner.roundPackets defaultTestSchema
        (loneRouter.localBoard defaultTestSchema) 0 9 9 9 9)).Settles defaultTestSchema .calm (some (ascii "P")) 0
      (loneRouter.toOwner.roundPackets defaultTestSchema (loneRouter.localBoard defaultTestSchema) 0 10 10 10 10) := by
  have hsame : loneRouter.toOwner.round defaultTestSchema (loneRouter.localBoard defaultTestSchema) 0 10 10 10 =
      loneRouter.toOwner.round defaultTestSchema (loneRouter.localBoard defaultTestSchema) 0 9 9 9 := by
    rw [defaultTestSchema_eq]
    decide +kernel
  exact (secondRound_settles_iff defaultTestSchema .calm (some (ascii "P")) 0 peerRouter.toOwner defaultTestSchema _
    loneRouter.toOwner loneRouter.toOwner 0 9 9 9 10 10 10 9 10 hsame).mpr (.inr (by rw [defaultTestSchema_eq]; decide +kernel))

/-- Where a node's round settles, its first packet is no news. -/
theorem Settles.first {S N : Schema} {E : Env} {self : Option Bytes} {sideId side : Int32} {o n : Owner} {L : LocalBoard}
    {t₁ t₂ t₃ now : UInt64} (h : o.Settles S E self sideId (n.roundPackets N L side t₁ t₂ t₃ now)) :
    o.stirs S self sideId (n.announcePacket N L now side t₃) = false :=
  h.quiet [] _ _ rfl

/-- A router that has heard of a third board: its second round says the same as the first, and is news. -/
theorem secondRound_stirs :
    tellingRouter.toOwner.round defaultTestSchema (tellingRouter.localBoard defaultTestSchema) 0 10 10 10 =
      tellingRouter.toOwner.round defaultTestSchema (tellingRouter.localBoard defaultTestSchema) 0 9 9 9 ∧
    ¬ (peerRouter.toOwner.hear defaultTestSchema .calm (some (ascii "P")) 0 (tellingRouter.toOwner.roundPackets defaultTestSchema
        (tellingRouter.localBoard defaultTestSchema) 0 9 9 9 9)).Settles defaultTestSchema .calm (some (ascii "P")) 0
      (tellingRouter.toOwner.roundPackets defaultTestSchema (tellingRouter.localBoard defaultTestSchema) 0 10 10 10 10) := by
  refine ⟨by unfold tellingRouter; rw [defaultTestSchema_eq]; decide +kernel, ?_⟩
  intro hsettles
  have hstirs : (peerRouter.toOwner.hear defaultTestSchema .calm (some (ascii "P")) 0 (tellingRouter.toOwner.roundPackets
      defaultTestSchema (tellingRouter.localBoard defaultTestSchema) 0 9 9 9 9)).stirs defaultTestSchema (some (ascii "P")) 0
      (tellingRouter.toOwner.announcePacket defaultTestSchema (tellingRouter.localBoard defaultTestSchema) 10 0 10) = true := by
    unfold tellingRouter
    rw [defaultTestSchema_eq]
    decide +kernel
  rw [hsettles.first] at hstirs
  cases hstirs

end Owner

end SedsNet
