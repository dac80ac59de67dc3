import Mathlib.Logic.Relation
import SedsNet.Announce
import SedsNet.Lib.Ascending

/-!
# What is known behind a side

The endpoints and time sources behind a side are kept three times: in the boards an announcer has told of, for the
announcer, and for the route. Five operations change one of the three (`Learns`): an announcement of any of the three
kinds, a sender that leaves, the expiry of what is old, and the removal of a side. `Consistent` says how the three belong
together, and that the boards are in order; every operation keeps it.

The discovery endpoint is in none of the three (`Public`).
-/

set_option autoImplicit false

namespace SedsNet

open Lib

theorem sortDedup_ascending {α : Type} [LE α] [DecidableLE α] [DecidableEq α] [Std.IsLinearOrder α] (xs : List α) :
    Ascending (sortDedup xs) := ascending_destutter_insertionSort xs

theorem mem_sortDedup {α : Type} [LE α] [DecidableLE α] [DecidableEq α] [Std.IsLinearOrder α] {xs : List α} {x : α} :
    x ∈ sortDedup xs ↔ x ∈ xs := mem_destutter_insertionSort

/-! ## Operations -/

/-- The routes after an announcement was heard on a side. -/
def learnAnnouncement (S : Schema) (linkLocalEnabled : Bool) (routes : Map Int32 DiscoveryRoute) (sideId : Int32)
    (pkt : PacketData) (now : UInt64) : Map Int32 DiscoveryRoute :=
  let route := Map.getOr routes sideId .new
  let (_, state) := (Map.getOr route.announcers pkt.sender .new).announce S linkLocalEnabled pkt
  routes.insert sideId (DiscoveryRoute.recompute
    { route with announcers := route.announcers.insert pkt.sender { state with lastSeenMs := now } })

/-- What can happen to the routes of a router or relay; announcements are heard at the times in `T`. -/
inductive Learns (T : UInt64 → Prop) : Map Int32 DiscoveryRoute → Map Int32 DiscoveryRoute → Prop
  | heard (routes : Map Int32 DiscoveryRoute) (S : Schema) (linkLocalEnabled : Bool) (sideId : Int32) (pkt : PacketData)
      (now : UInt64) (hnow : T now) : Learns T routes (learnAnnouncement S linkLocalEnabled routes sideId pkt now)
  | left (routes : Map Int32 DiscoveryRoute) (leaving : Bytes) : Learns T routes (pruneLeavingDiscoverySender routes leaving).2
  | expired (routes : Map Int32 DiscoveryRoute) (now : UInt64) : Learns T routes (pruneDiscoveryRoutes routes now).2
  | removed (routes : Map Int32 DiscoveryRoute) (sideId : Int32) : Learns T routes (routes.erase sideId)

theorem Learns.mono {T T' : UInt64 → Prop} (hT : ∀ now, T now → T' now) {routes routes' : Map Int32 DiscoveryRoute}
    (h : Learns T routes routes') : Learns T' routes routes' := by
  cases h with
  | heard S linkLocalEnabled sideId pkt now hnow => exact .heard routes S linkLocalEnabled sideId pkt now (hT now hnow)
  | left leaving => exact .left routes leaving
  | expired now => exact .expired routes now
  | removed sideId => exact .removed routes sideId

theorem Learns.mono_run {T T' : UInt64 → Prop} (hT : ∀ now, T now → T' now) {routes routes' : Map Int32 DiscoveryRoute}
    (h : Relation.ReflTransGen (Learns T) routes routes') : Relation.ReflTransGen (Learns T') routes routes' := by
  induction h with
  | refl => exact .refl
  | tail _ hstep ih => exact ih.tail (hstep.mono hT)

/-! ## Boards -/

/-- The lists of a board are in order, and it is not its own neighbour. -/
structure TopologyBoardNode.Normal (board : TopologyBoardNode) : Prop where
  endpoints : Ascending board.reachableEndpoints
  sources : Ascending board.reachableTimesyncSources
  connections : Ascending board.connections
  other : board.senderId ∉ board.connections

/-- Boards in order, one for each sender. -/
structure NormalBoards (boards : List TopologyBoardNode) : Prop where
  senders : Ascending (boards.map (·.senderId))
  each : ∀ board ∈ boards, board.Normal

theorem TopologyBoardNode.normalize_normal (board : TopologyBoardNode) : board.normalize.Normal where
  endpoints := sortDedup_ascending _
  sources := sortDedup_ascending _
  connections := sortDedup_ascending _
  other := by
    intro hmem
    have hne := (List.mem_filter.mp (mem_sortDedup.mp hmem)).2
    exact of_decide_eq_true hne rfl

theorem normalizeTopologyBoards_normal (boards : List TopologyBoardNode) : NormalBoards (normalizeTopologyBoards boards) where
  senders := by
    unfold normalizeTopologyBoards
    rw [map_destutter_insertionSort]
    exact ascending_destutter_insertionSort _
  each := by
    intro board hmem
    obtain ⟨b, -, rfl⟩ := mem_normalizeTopologyBoards hmem
    exact b.normalize_normal

/-! ## Announcers -/

/-- What is kept for an announcer is what its boards say. -/
structure SenderState.Consistent (state : SenderState) : Prop where
  boards : NormalBoards state.topologyBoards
  endpoints : ∀ ep, ep ∈ state.endpoints ↔ ∃ board ∈ state.topologyBoards, ep ∈ board.reachableEndpoints
  sources : ∀ source, source ∈ state.timesyncSources ↔
    ∃ board ∈ state.topologyBoards, source ∈ board.reachableTimesyncSources

namespace SenderState

theorem new_consistent : SenderState.new.Consistent where
  boards := ⟨.nil, fun _ h => nomatch h⟩
  endpoints := by
    intro ep
    constructor
    · exact fun h => absurd h (Finset.notMem_empty ep)
    · rintro ⟨board, h, -⟩
      cases h
  sources := by
    intro source
    constructor
    · exact fun h => absurd h (Finset.notMem_empty source)
    · rintro ⟨board, h, -⟩
      cases h

/-- `refresh_sender_topology_state` makes up for any change of the boards. -/
theorem refresh_consistent (state : SenderState) : state.refresh.Consistent where
  boards := normalizeTopologyBoards_normal _
  endpoints := by
    intro ep
    change ep ∈ (sortDedup _).toFinset ↔ _
    rw [List.mem_toFinset, mem_sortDedup, List.mem_flatMap]
    rfl
  sources := by
    intro source
    change source ∈ (sortDedup _).toFinset ↔ _
    rw [List.mem_toFinset, mem_sortDedup, List.mem_flatMap]
    rfl

theorem Consistent.announce {state : SenderState} (h : state.Consistent) (S : Schema) (linkLocalEnabled : Bool)
    (pkt : PacketData) : (state.announce S linkLocalEnabled pkt).2.Consistent := by
  unfold SenderState.announce
  dsimp only
  split
  · exact refresh_consistent _
  · split
    · exact refresh_consistent _
    · split
      · exact refresh_consistent _
      · exact h

theorem Consistent.withoutSender {state : SenderState} (h : state.Consistent) (leaving : Bytes) :
    (state.withoutSender leaving).Consistent := by
  unfold SenderState.withoutSender
  dsimp only
  split
  · exact refresh_consistent _
  · exact h

theorem Consistent.seen {state : SenderState} (h : state.Consistent) (now : UInt64) :
    { state with lastSeenMs := now }.Consistent := ⟨h.boards, h.endpoints, h.sources⟩

end SenderState

/-! ## Routes -/

/-- What is kept for a route is what is kept for its announcers, of which there is one. -/
structure DiscoveryRoute.Consistent (route : DiscoveryRoute) : Prop where
  announced : route.announcers.entries ≠ []
  announcers : ∀ a ∈ route.announcers.entries, a.2.Consistent
  endpoints : ∀ ep, ep ∈ route.endpoints ↔ ∃ a ∈ route.announcers.entries, ep ∈ a.2.endpoints
  sources : ∀ source, source ∈ route.timesyncSources ↔ ∃ a ∈ route.announcers.entries, source ∈ a.2.timesyncSources
  heard : ∀ a ∈ route.announcers.entries, a.2.lastSeenMs ≤ route.lastSeenMs
  last : ∃ a ∈ route.announcers.entries, a.2.lastSeenMs = route.lastSeenMs

/-- Everything that is known is. -/
def RoutesConsistent (routes : Map Int32 DiscoveryRoute) : Prop := ∀ e ∈ routes.entries, e.2.Consistent

theorem mem_foldl_union {α β : Type} [DecidableEq β] (f : α → Finset β) (x : β) (xs : List α) (acc : Finset β) :
    x ∈ xs.foldl (fun acc a => acc ∪ f a) acc ↔ x ∈ acc ∨ ∃ a ∈ xs, x ∈ f a := by
  induction xs generalizing acc with
  | nil => simp
  | cons a xs ih =>
    rw [List.foldl_cons, ih, Finset.mem_union, or_assoc, List.exists_mem_cons_iff]

theorem max_spec (a b : UInt64) : a ≤ max a b ∧ b ≤ max a b ∧ (max a b = a ∨ max a b = b) := by
  change a ≤ (if a ≤ b then b else a) ∧ b ≤ (if a ≤ b then b else a) ∧ ((if a ≤ b then b else a) = a ∨ (if a ≤ b then b else a) = b)
  split
  · exact ⟨‹_›, UInt64.le_refl b, .inr rfl⟩
  · rename_i hlt
    exact ⟨UInt64.le_refl a, UInt64.le_of_lt (UInt64.not_le.mp hlt), .inl rfl⟩

/-- The loop for `last_seen_ms` finds an upper bound, and a value that was there. -/
theorem foldl_max_spec {α : Type} (f : α → UInt64) (xs : List α) (acc : UInt64) :
    (∀ a ∈ xs, f a ≤ xs.foldl (fun acc a => max acc (f a)) acc) ∧ acc ≤ xs.foldl (fun acc a => max acc (f a)) acc ∧
      (xs.foldl (fun acc a => max acc (f a)) acc = acc ∨ ∃ a ∈ xs, f a = xs.foldl (fun acc a => max acc (f a)) acc) := by
  induction xs generalizing acc with
  | nil => exact ⟨(fun _ h => nomatch h), UInt64.le_refl acc, .inl rfl⟩
  | cons a xs ih =>
    obtain ⟨hrest, hacc, hreached⟩ := ih (max acc (f a))
    obtain ⟨hleft, hright, hone⟩ := max_spec acc (f a)
    rw [List.foldl_cons]
    refine ⟨?_, UInt64.le_trans hleft hacc, ?_⟩
    · intro b hb
      rcases List.mem_cons.mp hb with rfl | hb
      · exact UInt64.le_trans hright hacc
      · exact hrest b hb
    · rcases hreached with heq | ⟨b, hb, heq⟩
      · rw [heq]
        rcases hone with hmax | hmax
        · exact .inl hmax
        · exact .inr ⟨a, List.mem_cons_self, hmax.symm⟩
      · exact .inr ⟨b, List.mem_cons_of_mem a hb, heq⟩

namespace DiscoveryRoute

/-- `recompute_discovery_side_state` makes up for any change of the announcers. -/
theorem recompute_consistent {route : DiscoveryRoute} (hsome : route.announcers.entries ≠ [])
    (h : ∀ a ∈ route.announcers.entries, a.2.Consistent) : route.recompute.Consistent where
  announced := hsome
  announcers := h
  endpoints := by
    intro ep
    change ep ∈ List.foldl _ _ (List.map _ _) ↔ _
    rw [List.foldl_map, mem_foldl_union]
    exact or_iff_right (Finset.notMem_empty ep)
  sources := by
    intro source
    change source ∈ List.foldl _ _ (List.map _ _) ↔ _
    rw [List.foldl_map, mem_foldl_union]
    exact or_iff_right (Finset.notMem_empty source)
  heard := by
    have hspec := foldl_max_spec (fun a : (_ : Bytes) × SenderState => a.2.lastSeenMs) route.announcers.entries 0
    intro a ha
    change _ ≤ List.foldl _ _ (List.map _ _)
    rw [List.foldl_map]
    exact hspec.1 a ha
  last := by
    have hspec := foldl_max_spec (fun a : (_ : Bytes) × SenderState => a.2.lastSeenMs) route.announcers.entries 0
    change ∃ a ∈ route.announcers.entries, _ = List.foldl _ _ (List.map _ _)
    rw [List.foldl_map]
    rcases hspec.2.2 with hzero | hreached
    · -- nothing is later than zero, so the first announcer was heard at zero
      obtain ⟨a, ha⟩ := List.exists_mem_of_ne_nil _ hsome
      have hle := hspec.1 a ha
      rw [hzero] at hle
      rw [hzero]
      exact ⟨a, ha, UInt64.le_antisymm hle (UInt64.zero_le)⟩
    · exact hreached

theorem Consistent.getOr {route : DiscoveryRoute} (h : ∀ a ∈ route.announcers.entries, a.2.Consistent) (sender : Bytes) :
    (Map.getOr route.announcers sender .new).Consistent := by
  unfold Map.getOr
  cases hfind : route.announcers.lookup sender with
  | none => exact SenderState.new_consistent
  | some state => exact h _ (Map.mem_of_lookup hfind)

end DiscoveryRoute

/-- The announcers of a side of which something or nothing is known. -/
theorem RoutesConsistent.getOr {routes : Map Int32 DiscoveryRoute} (h : RoutesConsistent routes) (sideId : Int32) :
    ∀ a ∈ (Map.getOr routes sideId .new).announcers.entries, a.2.Consistent := by
  unfold Map.getOr
  cases hfind : routes.lookup sideId with
  | none => exact fun _ ha => nomatch ha
  | some route => exact (h _ (Map.mem_of_lookup hfind)).announcers

theorem ne_nil_of_isEmpty {α : Type} {xs : List α} (h : (!xs.isEmpty) = true) : xs ≠ [] := by
  rintro rfl
  cases h

/-- **Every operation keeps what is known consistent.** -/
theorem Learns.consistent {T : UInt64 → Prop} {routes routes' : Map Int32 DiscoveryRoute} (h : Learns T routes routes')
    (hroutes : RoutesConsistent routes) : RoutesConsistent routes' := by
  intro e he
  cases h with
  | heard S linkLocalEnabled sideId pkt now hnow =>
    rcases Map.mem_insert he with rfl | hold
    · have hannouncers := hroutes.getOr sideId
      have hstate := (DiscoveryRoute.Consistent.getOr hannouncers pkt.sender).announce S linkLocalEnabled pkt
      refine DiscoveryRoute.recompute_consistent (List.cons_ne_nil _ _) ?_
      intro a ha
      rcases Map.mem_insert ha with rfl | hold
      · exact hstate.seen now
      · exact hannouncers a hold
    · exact hroutes e hold
  | left leaving =>
    obtain ⟨hmapped, hsome⟩ := List.mem_filter.mp he
    obtain ⟨old, hold, rfl⟩ := Map.mem_mapValues hmapped
    refine DiscoveryRoute.recompute_consistent (ne_nil_of_isEmpty hsome) ?_
    intro a ha
    obtain ⟨before, hbefore, rfl⟩ := Map.mem_mapValues ha
    exact ((hroutes old hold).announcers before (Map.mem_erase hbefore)).withoutSender leaving
  | expired now =>
    obtain ⟨hmapped, hstays⟩ := List.mem_filter.mp he
    obtain ⟨old, hold, rfl⟩ := Map.mem_mapValues hmapped
    rw [Bool.and_eq_true] at hstays
    refine DiscoveryRoute.recompute_consistent (ne_nil_of_isEmpty hstays.1) ?_
    intro a ha
    exact (hroutes old hold).announcers a (Map.mem_keepIf ha)
  | removed sideId => exact hroutes e (Map.mem_erase he)

/-- The discovery endpoint is never learned. -/
theorem Learns.public {T : UInt64 → Prop} {routes routes' : Map Int32 DiscoveryRoute} (h : Learns T routes routes')
    (hroutes : ∀ e ∈ routes.entries, e.2.Public) : ∀ e ∈ routes'.entries, e.2.Public := by
  intro e he
  cases h with
  | heard S linkLocalEnabled sideId pkt now hnow =>
    rcases Map.mem_insert he with rfl | hold
    · have hroute := DiscoveryRoute.Public.ofSide hroutes sideId
      have hstate := (hroute.getOr pkt.sender).announce S linkLocalEnabled pkt
      exact hroute.insert ⟨hstate.boards, hstate.endpoints⟩
    · exact hroutes e hold
  | left leaving => exact DiscoveryRoute.Public.prune hroutes leaving e he
  | expired now =>
    obtain ⟨old, hold, rfl⟩ := Map.mem_mapValues (Map.mem_keepIf he)
    exact fun a ha => hroutes old hold a (Map.mem_keepIf ha)
  | removed sideId => exact hroutes e (Map.mem_erase he)

/-! ## Times -/

/-- What is known was heard at the times in `T`. -/
def SeenAt (T : UInt64 → Prop) (routes : Map Int32 DiscoveryRoute) : Prop :=
  ∀ e ∈ routes.entries, ∀ a ∈ e.2.announcers.entries, T a.2.lastSeenMs

theorem SenderState.withoutSender_lastSeenMs (state : SenderState) (leaving : Bytes) :
    (state.withoutSender leaving).lastSeenMs = state.lastSeenMs := by
  unfold SenderState.withoutSender
  dsimp only
  split
  · rfl
  · rfl

theorem Learns.seenAt {T : UInt64 → Prop} {routes routes' : Map Int32 DiscoveryRoute} (h : Learns T routes routes')
    (hseen : SeenAt T routes) : SeenAt T routes' := by
  intro e he a ha
  cases h with
  | heard S linkLocalEnabled sideId pkt now hnow =>
    rcases Map.mem_insert he with rfl | hold
    · rcases Map.mem_insert ha with rfl | ha
      · exact hnow
      · unfold Map.getOr at ha
        cases hfind : routes.lookup sideId with
        | none =>
          rw [hfind] at ha
          cases ha
        | some route =>
          rw [hfind] at ha
          exact hseen _ (Map.mem_of_lookup hfind) a ha
    · exact hseen e hold a ha
  | left leaving =>
    obtain ⟨old, hold, rfl⟩ := Map.mem_mapValues (Map.mem_keepIf he)
    obtain ⟨before, hbefore, rfl⟩ := Map.mem_mapValues ha
    dsimp only
    rw [SenderState.withoutSender_lastSeenMs]
    exact hseen old hold before (Map.mem_erase hbefore)
  | expired now =>
    obtain ⟨old, hold, rfl⟩ := Map.mem_mapValues (Map.mem_keepIf he)
    exact hseen old hold a (Map.mem_keepIf ha)
  | removed sideId => exact hseen e (Map.mem_erase he) a ha

/-! ## Leaving -/

/-- Nobody has heard of the sender: it announces nothing, and no board is its own or linked to it. -/
def Forgotten (sender : Bytes) (routes : Map Int32 DiscoveryRoute) : Prop :=
  ∀ e ∈ routes.entries, ∀ a ∈ e.2.announcers.entries, a.1 ≠ sender ∧
    ∀ board ∈ a.2.topologyBoards, board.senderId ≠ sender ∧ sender ∉ board.connections

theorem boardsWithout_spec {boards : List TopologyBoardNode} {leaving : Bytes} {board : TopologyBoardNode}
    (h : board ∈ boardsWithout boards leaving) : board.senderId ≠ leaving ∧ leaving ∉ board.connections := by
  obtain ⟨b, hb, rfl⟩ := List.mem_map.mp h
  refine ⟨of_decide_eq_true (List.mem_filter.mp hb).2, ?_⟩
  intro hmem
  exact of_decide_eq_true (List.mem_filter.mp hmem).2 rfl

theorem SenderState.withoutSender_spec {state : SenderState} {leaving : Bytes} {board : TopologyBoardNode}
    (h : board ∈ (state.withoutSender leaving).topologyBoards) : board.senderId ≠ leaving ∧ leaving ∉ board.connections := by
  unfold SenderState.withoutSender at h
  dsimp only at h
  split at h
  · obtain ⟨b, hb, rfl⟩ := mem_normalizeTopologyBoards h
    obtain ⟨hsender, hconnections⟩ := boardsWithout_spec hb
    refine ⟨hsender, ?_⟩
    intro hmem
    exact hconnections (List.mem_filter.mp (mem_sortDedup.mp hmem)).1
  · rename_i hsame
    rw [not_ne_iff] at hsame
    rw [← hsame] at h
    exact boardsWithout_spec h

/-- **A sender that leaves is forgotten**, whoever told of it. -/
theorem pruneLeavingDiscoverySender_forgotten (routes : Map Int32 DiscoveryRoute) (leaving : Bytes) :
    Forgotten leaving (pruneLeavingDiscoverySender routes leaving).2 := by
  intro e he a ha
  obtain ⟨old, hold, rfl⟩ := Map.mem_mapValues (Map.mem_keepIf he)
  obtain ⟨before, hbefore, rfl⟩ := Map.mem_mapValues ha
  refine ⟨?_, fun board => SenderState.withoutSender_spec⟩
  have hkey : before.1 ∈ old.2.announcers.erase leaving := List.mem_map.mpr ⟨before, hbefore, rfl⟩
  exact (AList.mem_erase.mp hkey).1

end SedsNet
