import SedsNet.Known

/-!
# What is advertised is what is known

`queue_discovery_packets` collects the boards of all live announcers, merges those of one sender pairwise, and sorts
again after every step. Whatever the order of the hash tables, the result is one board for every sender that was heard
of (`Owner.tells`), which lists what the node itself and all announcers together list for it (`Owner.tellsEndpoint`,
`Owner.tellsSource`, `Owner.tellsConnection`).

The route of a side is looked at before its announcers are: no announcer is lost by this, as the clock does not go back
and a route was heard when the last of its announcers was.
-/

set_option autoImplicit false

namespace SedsNet

open Lib

/-! ## Merging -/

/-- The boards list `y` for the sender `x`, in one of their three lists. -/
def Lists {α : Type} (f : TopologyBoardNode → List α) (boards : List TopologyBoardNode) (x : Bytes) (y : α) : Prop :=
  ∃ board ∈ boards, board.senderId = x ∧ y ∈ f board

/-- What `merge_topology_boards` makes of two boards of a sender. -/
def TopologyBoardNode.join (b c : TopologyBoardNode) : TopologyBoardNode :=
  { b with
    reachableEndpoints := b.reachableEndpoints ++ c.reachableEndpoints
    reachableTimesyncSources := b.reachableTimesyncSources ++ c.reachableTimesyncSources
    connections := b.connections ++ c.connections }

/-- A list that is joined where boards are. -/
def Joins {α : Type} (f : TopologyBoardNode → List α) : Prop := ∀ b c : TopologyBoardNode, f (b.join c) = f b ++ f c

section

variable {α : Type} {f : TopologyBoardNode → List α}

theorem lists_cons {board : TopologyBoardNode} {boards : List TopologyBoardNode} {x : Bytes} {y : α} :
    Lists f (board :: boards) x y ↔ board.senderId = x ∧ y ∈ f board ∨ Lists f boards x y := by
  unfold Lists
  rw [List.exists_mem_cons_iff]

theorem lists_append {boards boards' : List TopologyBoardNode} {x : Bytes} {y : α} :
    Lists f (boards ++ boards') x y ↔ Lists f boards x y ∨ Lists f boards' x y := by
  unfold Lists
  constructor
  · rintro ⟨board, hboard, h⟩
    rcases List.mem_append.mp hboard with hleft | hright
    · exact .inl ⟨board, hleft, h⟩
    · exact .inr ⟨board, hright, h⟩
  · rintro (⟨board, hboard, h⟩ | ⟨board, hboard, h⟩)
    · exact ⟨board, List.mem_append_left boards' hboard, h⟩
    · exact ⟨board, List.mem_append_right boards hboard, h⟩

theorem exists_mem_map {β γ : Type} {g : β → γ} {xs : List β} {p : γ → Prop} :
    (∃ y ∈ xs.map g, p y) ↔ ∃ x ∈ xs, p (g x) := by
  constructor
  · rintro ⟨y, hy, h⟩
    obtain ⟨x, hx, rfl⟩ := List.mem_map.mp hy
    exact ⟨x, hx, h⟩
  · rintro ⟨x, hx, h⟩
    exact ⟨g x, List.mem_map_of_mem hx, h⟩

/-- One board is merged into a list: its sender is there then, and nothing else is new. -/
theorem mergeBoard_senders (dst : List TopologyBoardNode) (board : TopologyBoardNode) :
    (mergeBoard dst board).map (·.senderId) =
      if board.senderId ∈ dst.map (·.senderId) then dst.map (·.senderId) else dst.map (·.senderId) ++ [board.senderId] := by
  unfold mergeBoard
  cases hfind : dst.findIdx? (·.senderId == board.senderId) with
  | none =>
    have hnone : board.senderId ∉ dst.map (·.senderId) := by
      intro hmem
      obtain ⟨b, hb, hsender⟩ := List.mem_map.mp hmem
      have hfalse := List.findIdx?_eq_none_iff.mp hfind b hb
      rw [hsender, beq_self_eq_true] at hfalse
      cases hfalse
    rw [if_neg hnone]
    dsimp only
    rw [List.map_append]
    rfl
  | some i =>
    obtain ⟨hlt, hi, -⟩ := List.findIdx?_eq_some_iff_getElem.mp hfind
    have hsome : board.senderId ∈ dst.map (·.senderId) :=
      List.mem_map.mpr ⟨dst[i], List.getElem_mem hlt, beq_iff_eq.mp hi⟩
    rw [if_pos hsome]
    dsimp only
    apply List.ext_getElem?
    intro j
    rw [List.getElem?_map, List.getElem?_map, List.getElem?_modify]
    split
    · cases dst[j]? <;> rfl
    · cases dst[j]? <;> rfl

theorem lists_mergeBoard (hf : Joins f) {dst : List TopologyBoardNode} (board : TopologyBoardNode) {x : Bytes} {y : α} :
    Lists f (mergeBoard dst board) x y ↔ Lists f dst x y ∨ board.senderId = x ∧ y ∈ f board := by
  unfold mergeBoard
  cases hfind : dst.findIdx? (·.senderId == board.senderId) with
  | none =>
    dsimp only
    rw [lists_append, lists_cons]
    simp [Lists]
  | some i =>
    obtain ⟨hlt, hi, -⟩ := List.findIdx?_eq_some_iff_getElem.mp hfind
    have hsender : dst[i].senderId = board.senderId := beq_iff_eq.mp hi
    -- the board at `i` is replaced by the two of them together
    have hsplit : dst = dst.take i ++ dst[i] :: dst.drop (i + 1) := by
      rw [List.cons_getElem_drop_succ, List.take_append_drop]
    have hmodify : dst.modify i (·.join board) = dst.take i ++ dst[i].join board :: dst.drop (i + 1) := by
      rw [List.modify_eq_take_cons_drop hlt]
    have hjoined : Lists f (dst.modify i (·.join board)) x y ↔ Lists f dst x y ∨ board.senderId = x ∧ y ∈ f board := by
      rw [hmodify, lists_append, lists_cons, hf, List.mem_append]
      conv_rhs => rw [hsplit, lists_append, lists_cons]
      have hjoin : (dst[i].join board).senderId = board.senderId := hsender
      rw [hjoin, hsender]
      tauto
    exact hjoined

/-- The loop of `merge_topology_boards`. -/
theorem lists_foldl_mergeBoard (hf : Joins f) (src dst : List TopologyBoardNode) {x : Bytes} {y : α} :
    Lists f (src.foldl mergeBoard dst) x y ↔ Lists f dst x y ∨ Lists f src x y := by
  induction src generalizing dst with
  | nil => simp [Lists]
  | cons board src ih =>
    rw [List.foldl_cons, ih, lists_mergeBoard hf, lists_cons, or_assoc]

theorem nodup_foldl_mergeBoard (src : List TopologyBoardNode) {dst : List TopologyBoardNode}
    (h : (dst.map (·.senderId)).Nodup) : ((src.foldl mergeBoard dst).map (·.senderId)).Nodup := by
  induction src generalizing dst with
  | nil => exact h
  | cons board src ih =>
    rw [List.foldl_cons]
    apply ih
    rw [mergeBoard_senders]
    split
    · exact h
    · rename_i hnew
      exact List.nodup_append.mpr ⟨h, List.nodup_singleton _, by
        intro a ha b hb heq
        rw [List.mem_singleton.mp hb] at heq
        exact hnew (heq ▸ ha)⟩

theorem senders_foldl_mergeBoard (src dst : List TopologyBoardNode) {x : Bytes} :
    x ∈ (src.foldl mergeBoard dst).map (·.senderId) ↔ x ∈ dst.map (·.senderId) ∨ x ∈ src.map (·.senderId) := by
  induction src generalizing dst with
  | nil => simp
  | cons board src ih =>
    rw [List.foldl_cons, ih, mergeBoard_senders, List.map_cons, List.mem_cons]
    split
    · rename_i hold
      constructor
      · rintro (h | h)
        · exact .inl h
        · exact .inr (.inr h)
      · rintro (h | rfl | h)
        · exact .inl h
        · exact .inl hold
        · exact .inr h
    · rw [List.mem_append, List.mem_singleton, or_assoc]

/-- Putting boards in order drops none of them, where no two are of one sender. -/
theorem normalizeTopologyBoards_perm {boards : List TopologyBoardNode} (h : (boards.map (·.senderId)).Nodup) :
    (normalizeTopologyBoards boards).Perm (boards.map TopologyBoardNode.normalize) := by
  apply perm_destutter_insertionSort
  rw [List.map_map]
  exact h

theorem senders_normalize (boards : List TopologyBoardNode) {x : Bytes} :
    x ∈ (normalizeTopologyBoards boards).map (·.senderId) ↔ x ∈ boards.map (·.senderId) := by
  unfold normalizeTopologyBoards
  rw [map_destutter_insertionSort, mem_destutter_insertionSort, List.map_map]
  rfl

/-- What boards list is what they list in order, if a board lists the same in order. -/
theorem lists_normalize {boards : List TopologyBoardNode} (h : (boards.map (·.senderId)).Nodup) {keeps : Bytes → α → Prop}
    (hf : ∀ (b : TopologyBoardNode) y, y ∈ f b.normalize ↔ y ∈ f b ∧ keeps b.senderId y) {x : Bytes} {y : α} :
    Lists f (normalizeTopologyBoards boards) x y ↔ Lists f boards x y ∧ keeps x y := by
  have hperm := normalizeTopologyBoards_perm h
  constructor
  · rintro ⟨board, hboard, rfl, hy⟩
    obtain ⟨b, hb, rfl⟩ := List.mem_map.mp (hperm.mem_iff.mp hboard)
    obtain ⟨hmem, hkeeps⟩ := (hf b y).mp hy
    exact ⟨⟨b, hb, rfl, hmem⟩, hkeeps⟩
  · rintro ⟨⟨b, hb, rfl, hmem⟩, hkeeps⟩
    exact ⟨b.normalize, hperm.mem_iff.mpr (List.mem_map.mpr ⟨b, hb, rfl⟩), rfl, (hf b y).mpr ⟨hmem, hkeeps⟩⟩

/-- **All announcers' boards**, merged one announcer after the other and put in order. -/
theorem lists_mergeAll (hjoins : Joins f) {keeps : Bytes → α → Prop}
    (hf : ∀ (b : TopologyBoardNode) y, y ∈ f b.normalize ↔ y ∈ f b ∧ keeps b.senderId y)
    (all : List (List TopologyBoardNode)) {dst : List TopologyBoardNode} (h : (dst.map (·.senderId)).Nodup) {x : Bytes} {y : α} :
    Lists f (normalizeTopologyBoards (all.foldl mergeTopologyBoards dst)) x y ↔
      (Lists f dst x y ∨ ∃ boards ∈ all, Lists f boards x y) ∧ keeps x y := by
  induction all generalizing dst with
  | nil =>
    rw [List.foldl_nil, lists_normalize h hf]
    simp
  | cons boards all ih =>
    have hmerged : ((boards.foldl mergeBoard dst).map (·.senderId)).Nodup := nodup_foldl_mergeBoard boards h
    have hnormal : ((mergeTopologyBoards dst boards).map (·.senderId)).Nodup :=
      (normalizeTopologyBoards_normal _).senders.nodup
    rw [List.foldl_cons, ih hnormal]
    unfold mergeTopologyBoards
    rw [lists_normalize hmerged hf, lists_foldl_mergeBoard hjoins, List.exists_mem_cons_iff]
    tauto

omit f in
theorem senders_mergeAll (all : List (List TopologyBoardNode)) (dst : List TopologyBoardNode) {x : Bytes} :
    x ∈ (normalizeTopologyBoards (all.foldl mergeTopologyBoards dst)).map (·.senderId) ↔
      x ∈ dst.map (·.senderId) ∨ ∃ boards ∈ all, x ∈ boards.map (·.senderId) := by
  rw [senders_normalize]
  induction all generalizing dst with
  | nil => simp
  | cons boards all ih =>
    rw [List.foldl_cons, ih]
    unfold mergeTopologyBoards
    rw [senders_normalize, senders_foldl_mergeBoard, List.exists_mem_cons_iff, or_assoc]

end

/-! ## One announcer -/

theorem joins_endpoints : Joins (·.reachableEndpoints) := fun _ _ => rfl

theorem joins_sources : Joins (·.reachableTimesyncSources) := fun _ _ => rfl

theorem joins_connections : Joins (·.connections) := fun _ _ => rfl

namespace SenderState

variable {state : SenderState} {announcer localSender : Bytes}

/-- An announcer without boards is good for no endpoint and no source. -/
theorem Consistent.nothing {state : SenderState} (h : state.Consistent)
    (hnone : state.topologyBoards = []) : state.endpoints = ∅ ∧ state.timesyncSources = ∅ := by
  constructor
  · apply Finset.eq_empty_of_forall_notMem
    intro ep hep
    obtain ⟨board, hboard, -⟩ := (h.endpoints ep).mp hep
    rw [hnone] at hboard
    cases hboard
  · apply Finset.eq_empty_of_forall_notMem
    intro source hsource
    obtain ⟨board, hboard, -⟩ := (h.sources source).mp hsource
    rw [hnone] at hboard
    cases hboard

/-- The boards an announcer is good for are those it told of, or one of its own. -/
theorem senders_advertised {x : Bytes} : x ∈ (state.advertised announcer localSender).map (·.senderId) ↔
    (∃ board ∈ state.topologyBoards, board.senderId = x) ∨ state.topologyBoards = [] ∧ announcer = x := by
  unfold advertised
  cases hboards : state.topologyBoards with
  | nil => simp [eq_comm]
  | cons first rest =>
    rw [if_neg (by simp)]
    rw [← hboards]
    have hsame : x ∈ state.topologyBoards.map (·.senderId) ↔
        (∃ board ∈ state.topologyBoards, board.senderId = x) ∨ state.topologyBoards = [] ∧ announcer = x := by
      rw [List.mem_map, hboards]
      simp
    rw [← hsame]
    cases state.topologyBoards.findIdx? (·.senderId == announcer) with
    | none => rfl
    | some i =>
      dsimp only
      have hmap : (state.topologyBoards.modify i fun b => { b with connections := b.connections ++ [localSender] }).map
          (·.senderId) = state.topologyBoards.map (·.senderId) := by
        apply List.ext_getElem?
        intro j
        rw [List.getElem?_map, List.getElem?_map, List.getElem?_modify]
        split
        · cases state.topologyBoards[j]? <;> rfl
        · cases state.topologyBoards[j]? <;> rfl
      rw [hmap]

/-- They list what was told, where the node adds nothing but itself as a neighbour. -/
theorem lists_advertised {α : Type} {f : TopologyBoardNode → List α}
    (hf : ∀ (b : TopologyBoardNode) connections, f { b with connections := connections } = f b)
    (hnone : state.topologyBoards = [] →
      f ⟨announcer, state.endpoints.sort, state.timesyncSources.sort, [localSender]⟩ = []) {x : Bytes} {y : α} :
    Lists f (state.advertised announcer localSender) x y ↔ Lists f state.topologyBoards x y := by
  unfold advertised
  cases hboards : state.topologyBoards with
  | nil =>
    have hnil := hnone hboards
    simp [Lists, hnil]
  | cons first rest =>
    rw [if_neg (by simp), ← hboards]
    cases hfind : state.topologyBoards.findIdx? (·.senderId == announcer) with
    | none => rfl
    | some i =>
      dsimp only
      obtain ⟨hlt, -⟩ := List.findIdx?_eq_some_iff_getElem.mp hfind
      have hsplit : state.topologyBoards =
          state.topologyBoards.take i ++ state.topologyBoards[i] :: state.topologyBoards.drop (i + 1) := by
        rw [List.cons_getElem_drop_succ, List.take_append_drop]
      rw [List.modify_eq_take_cons_drop hlt, lists_append, lists_cons, hf]
      conv_rhs => rw [hsplit, lists_append, lists_cons]

theorem Consistent.lists_endpoints (h : state.Consistent) {x : Bytes} {ep : UInt32} :
    Lists (·.reachableEndpoints) (state.advertised announcer localSender) x ep ↔
      Lists (·.reachableEndpoints) state.topologyBoards x ep := by
  apply lists_advertised
  · exact fun _ _ => rfl
  · intro hnone
    dsimp only
    rw [(h.nothing hnone).1]
    exact Finset.sort_empty _

theorem Consistent.lists_sources (h : state.Consistent) {x source : Bytes} :
    Lists (·.reachableTimesyncSources) (state.advertised announcer localSender) x source ↔
      Lists (·.reachableTimesyncSources) state.topologyBoards x source := by
  apply lists_advertised
  · exact fun _ _ => rfl
  · intro hnone
    dsimp only
    rw [(h.nothing hnone).2]
    exact Finset.sort_empty _

end SenderState

/-! ## What is known -/

namespace Owner

/-- A node that was heard of in time, on whatever side. -/
def Announcer (routes : Map Int32 DiscoveryRoute) (now : UInt64) (name : Bytes) (state : SenderState) : Prop :=
  ∃ e ∈ routes.entries, ⟨name, state⟩ ∈ e.2.announcers.entries ∧ now - state.lastSeenMs ≤ kDiscoveryTtlMs

/-- Nothing that is known was heard later than now. -/
def HeardBefore (now : UInt64) (routes : Map Int32 DiscoveryRoute) : Prop :=
  ∀ e ∈ routes.entries, ∀ a ∈ e.2.announcers.entries, a.2.lastSeenMs ≤ now

theorem sub_le_sub {now a b : UInt64} (hab : a ≤ b) (hb : b ≤ now) : now - b ≤ now - a := by
  rw [UInt64.le_iff_toNat_le] at hab hb ⊢
  rw [UInt64.toNat_sub_of_le _ _ (UInt64.le_iff_toNat_le.mpr hb),
    UInt64.toNat_sub_of_le _ _ (UInt64.le_iff_toNat_le.mpr (hab.trans hb))]
  omega

/-- The look at the route first loses no announcer. -/
theorem mem_liveAnnouncers {o : Owner} {now : UInt64} (hroutes : RoutesConsistent o.discoveryRoutes)
    (hpast : HeardBefore now o.discoveryRoutes) {name : Bytes} {state : SenderState} :
    (name, state) ∈ o.liveAnnouncers now ↔ Announcer o.discoveryRoutes now name state := by
  unfold liveAnnouncers Announcer isLive
  rw [List.mem_flatMap]
  constructor
  · rintro ⟨e, he, hmem⟩
    obtain ⟨a, hfiltered, heq⟩ := List.mem_map.mp hmem
    obtain ⟨ha, hlive⟩ := List.mem_filter.mp hfiltered
    cases heq
    exact ⟨e, List.mem_of_mem_filter he, ha, of_decide_eq_true hlive⟩
  · rintro ⟨e, he, ha, hlive⟩
    have hroute := hroutes e he
    have hlast : e.2.lastSeenMs ≤ now := by
      obtain ⟨a', ha', heq⟩ := hroute.last
      rw [← heq]
      exact hpast e he a' ha'
    have hrouteLive : now - e.2.lastSeenMs ≤ kDiscoveryTtlMs :=
      UInt64.le_trans (sub_le_sub (hroute.heard _ ha) hlast) hlive
    exact ⟨e, List.mem_filter.mpr ⟨he, decide_eq_true hrouteLive⟩,
      List.mem_map.mpr ⟨⟨name, state⟩, List.mem_filter.mpr ⟨ha, decide_eq_true hlive⟩, rfl⟩⟩

/-- What a node tells of the boards on a side: exactly one for each sender that is known, itself among them, with all that is
    known of it. `own` are the node's own endpoints. -/
structure Told (S : Schema) (routes : Map Int32 DiscoveryRoute) (link : Bool) (L : LocalBoard) (own : UInt32 → Prop)
    (now : UInt64) (boards : List TopologyBoardNode) : Prop where
  normal : NormalBoards boards
  senders : ∀ x, (∃ board ∈ boards, board.senderId = x) ↔ x = L.sender ∨ ∃ name state, Announcer routes now name state ∧
    ((∃ board ∈ state.topologyBoards, board.senderId = x) ∨ state.topologyBoards = [] ∧ name = x)
  endpoints : ∀ board ∈ boards, ∀ ep, ep ∈ board.reachableEndpoints ↔
    (board.senderId = L.sender ∧ own ep ∨
      ∃ name state, Announcer routes now name state ∧ Lists (·.reachableEndpoints) state.topologyBoards board.senderId ep) ∧
    ep ≠ SEDS_EP_DISCOVERY ∧ (link = true ∨ S.endpointLinkLocalOnly ep = false)
  sources : ∀ board ∈ boards, ∀ source, source ∈ board.reachableTimesyncSources ↔
    board.senderId = L.sender ∧ source ∈ L.sources ∨
    ∃ name state, Announcer routes now name state ∧
      Lists (·.reachableTimesyncSources) state.topologyBoards board.senderId source

theorem lists_of_mem {α : Type} {f : TopologyBoardNode → List α} {boards : List TopologyBoardNode}
    (h : (boards.map (·.senderId)).Nodup) {board : TopologyBoardNode} (hboard : board ∈ boards) {y : α} :
    y ∈ f board ↔ Lists f boards board.senderId y := by
  constructor
  · exact fun hy => ⟨board, hboard, rfl, hy⟩
  · rintro ⟨b, hb, hsender, hy⟩
    rwa [eq_of_key_eq h hb hboard hsender] at hy

section

variable {S : Schema} {L : LocalBoard} {o : Owner} {sideId : Int32} {now : UInt64}

/-- The boards of all live announcers, as they are merged. -/
theorem advertisedTopology_eq : o.advertisedTopology S L sideId now =
    normalizeTopologyBoards (((o.liveAnnouncers now).map fun a => (a.2.advertised a.1 L.sender).map
      (·.hide fun ep => !o.linkLocalOn sideId && S.endpointLinkLocalOnly ep)).foldl mergeTopologyBoards
        [⟨L.sender, L.endpoints (o.linkLocalOn sideId), L.sources, sortDedup ((o.liveAnnouncers now).map (·.1))⟩]) := by
  rw [List.foldl_map]
  rfl

/-- The senders of the boards. -/
theorem senders_advertisedTopology {x : Bytes} : x ∈ (o.advertisedTopology S L sideId now).map (·.senderId) ↔
    x = L.sender ∨ ∃ a ∈ o.liveAnnouncers now,
      (∃ board ∈ a.2.topologyBoards, board.senderId = x) ∨ a.2.topologyBoards = [] ∧ a.1 = x := by
  rw [advertisedTopology_eq, senders_mergeAll]
  apply or_congr
  · exact List.mem_singleton
  · constructor
    · rintro ⟨boards, hboards, hx⟩
      obtain ⟨a, ha, rfl⟩ := List.mem_map.mp hboards
      rw [List.map_map] at hx
      exact ⟨a, ha, SenderState.senders_advertised.mp hx⟩
    · rintro ⟨a, ha, hx⟩
      refine ⟨_, List.mem_map.mpr ⟨a, ha, rfl⟩, ?_⟩
      rw [List.map_map]
      exact SenderState.senders_advertised.mpr hx

/-- What the boards list, in one of their three lists. -/
theorem lists_advertisedTopology {α : Type} {f : TopologyBoardNode → List α} (hjoins : Joins f)
    (keeps : Bytes → α → Prop) (hf : ∀ (b : TopologyBoardNode) y, y ∈ f b.normalize ↔ y ∈ f b ∧ keeps b.senderId y) {x : Bytes}
    {y : α} : Lists f (o.advertisedTopology S L sideId now) x y ↔
      ((x = L.sender ∧ y ∈ f ⟨L.sender, L.endpoints (o.linkLocalOn sideId), L.sources,
          sortDedup ((o.liveAnnouncers now).map (·.1))⟩) ∨
        ∃ a ∈ o.liveAnnouncers now, Lists f ((a.2.advertised a.1 L.sender).map
          (·.hide fun ep => !o.linkLocalOn sideId && S.endpointLinkLocalOnly ep)) x y) ∧ keeps x y := by
  have hone : ([⟨L.sender, L.endpoints (o.linkLocalOn sideId), L.sources,
      sortDedup ((o.liveAnnouncers now).map (·.1))⟩].map TopologyBoardNode.senderId).Nodup := List.nodup_singleton L.sender
  rw [advertisedTopology_eq, lists_mergeAll hjoins hf _ hone, lists_cons, exists_mem_map]
  simp [Lists, eq_comm]

theorem mem_normalize_endpoints (b : TopologyBoardNode) (ep : UInt32) :
    ep ∈ b.normalize.reachableEndpoints ↔ ep ∈ b.reachableEndpoints ∧ True := by
  rw [and_true]
  exact mem_sortDedup

theorem mem_normalize_sources (b : TopologyBoardNode) (source : Bytes) :
    source ∈ b.normalize.reachableTimesyncSources ↔ source ∈ b.reachableTimesyncSources ∧ True := by
  rw [and_true]
  exact mem_sortDedup

theorem mem_normalize_connections (b : TopologyBoardNode) (peer : Bytes) :
    peer ∈ b.normalize.connections ↔ peer ∈ b.connections ∧ peer ≠ b.senderId := by
  change peer ∈ sortDedup _ ↔ _
  rw [mem_sortDedup, List.mem_filter, decide_eq_true_iff]

theorem lists_hide_endpoints {boards : List TopologyBoardNode} {hidden : UInt32 → Bool} {x : Bytes} {ep : UInt32} :
    Lists (·.reachableEndpoints) (boards.map (·.hide hidden)) x ep ↔
      Lists (·.reachableEndpoints) boards x ep ∧ hidden ep = false := by
  unfold Lists
  rw [exists_mem_map]
  constructor
  · rintro ⟨b, hb, hsender, hep⟩
    obtain ⟨hmem, hshown⟩ := List.mem_filter.mp hep
    rw [Bool.not_eq_true'] at hshown
    exact ⟨⟨b, hb, hsender, hmem⟩, hshown⟩
  · rintro ⟨⟨b, hb, hsender, hmem⟩, hshown⟩
    refine ⟨b, hb, hsender, List.mem_filter.mpr ⟨hmem, ?_⟩⟩
    rw [hshown]
    rfl

theorem lists_hide_sources {boards : List TopologyBoardNode} {hidden : UInt32 → Bool} {x source : Bytes} :
    Lists (·.reachableTimesyncSources) (boards.map (·.hide hidden)) x source ↔
      Lists (·.reachableTimesyncSources) boards x source := by
  unfold Lists
  rw [exists_mem_map]
  rfl

theorem shown_iff {link only : Bool} : (!link && only) = false ↔ link = true ∨ only = false := by
  cases link with
  | true => simp
  | false => simp

/-- The endpoints a node says it has itself. -/
def Owns (S : Schema) (L : LocalBoard) (own : UInt32 → Prop) : Prop :=
  ∀ link ep, ep ∈ L.endpoints link ↔ own ep ∧ ep ≠ SEDS_EP_DISCOVERY ∧ (link = true ∨ S.endpointLinkLocalOnly ep = false)

/-- **What is told is what is known.** -/
theorem advertisedTopology_told {own : UInt32 → Prop} (hown : Owns S L own) (hroutes : RoutesConsistent o.discoveryRoutes)
    (hpublic : ∀ e ∈ o.discoveryRoutes.entries, e.2.Public) (hpast : HeardBefore now o.discoveryRoutes) :
    Told S o.discoveryRoutes (o.linkLocalOn sideId) L own now (o.advertisedTopology S L sideId now) := by
  have hnormal : NormalBoards (o.advertisedTopology S L sideId now) := normalizeTopologyBoards_normal _
  have hconsistent : ∀ name state, Announcer o.discoveryRoutes now name state → state.Consistent ∧ state.Public := by
    rintro name state ⟨e, he, ha, -⟩
    exact ⟨(hroutes e he).announcers _ ha, hpublic e he _ ha⟩
  refine ⟨hnormal, ?_, ?_, ?_⟩
  · intro x
    rw [← List.mem_map, senders_advertisedTopology, Prod.exists]
    simp only [mem_liveAnnouncers hroutes hpast]
  · intro board hboard ep
    rw [lists_of_mem hnormal.senders.nodup hboard,
      lists_advertisedTopology joins_endpoints (fun _ _ => True) mem_normalize_endpoints, and_true, Prod.exists]
    dsimp only
    rw [hown]
    constructor
    · rintro (⟨hsender, hep, hshown⟩ | ⟨name, state, ha, hlists⟩)
      · exact ⟨.inl ⟨hsender, hep⟩, hshown⟩
      · rw [mem_liveAnnouncers hroutes hpast] at ha
        obtain ⟨hstate, hhidden⟩ := hconsistent name state ha
        rw [lists_hide_endpoints, hstate.lists_endpoints] at hlists
        refine ⟨.inr ⟨name, state, ha, hlists.1⟩, ?_, shown_iff.mp hlists.2⟩
        -- no board that was told of has the discovery endpoint
        rintro rfl
        obtain ⟨⟨b, hb, -, hep⟩, -⟩ := hlists
        exact hhidden.boards b hb hep
    · rintro ⟨⟨hsender, hep⟩ | ⟨name, state, ha, hlists⟩, hother, hshown⟩
      · exact .inl ⟨hsender, hep, hother, hshown⟩
      · refine .inr ⟨name, state, (mem_liveAnnouncers hroutes hpast).mpr ha, ?_⟩
        rw [lists_hide_endpoints, (hconsistent name state ha).1.lists_endpoints]
        exact ⟨hlists, shown_iff.mpr hshown⟩
  · intro board hboard source
    rw [lists_of_mem hnormal.senders.nodup hboard,
      lists_advertisedTopology joins_sources (fun _ _ => True) mem_normalize_sources, and_true, Prod.exists]
    apply or_congr Iff.rfl
    constructor
    · rintro ⟨name, state, ha, hlists⟩
      rw [mem_liveAnnouncers hroutes hpast] at ha
      rw [lists_hide_sources, (hconsistent name state ha).1.lists_sources] at hlists
      exact ⟨name, state, ha, hlists⟩
    · rintro ⟨name, state, ha, hlists⟩
      refine ⟨name, state, (mem_liveAnnouncers hroutes hpast).mpr ha, ?_⟩
      rw [lists_hide_sources, (hconsistent name state ha).1.lists_sources]
      exact hlists

/-- What is announced: the endpoints of the boards that are told of. -/
theorem mem_advertisedEndpoints {own : UInt32 → Prop} {boards : List TopologyBoardNode}
    (h : Told S o.discoveryRoutes (o.linkLocalOn sideId) L own now boards) {ep : UInt32} :
    ep ∈ o.advertisedEndpoints S sideId boards ↔
      (own ep ∨ ∃ name state, Announcer o.discoveryRoutes now name state ∧
        ∃ board ∈ state.topologyBoards, ep ∈ board.reachableEndpoints) ∧
      ep ≠ SEDS_EP_DISCOVERY ∧ (o.linkLocalOn sideId = true ∨ S.endpointLinkLocalOnly ep = false) := by
  unfold advertisedEndpoints summarizeTopologyBoards
  rw [List.mem_filter, mem_sortDedup, List.mem_flatMap]
  constructor
  · rintro ⟨⟨board, hboard, hep⟩, -⟩
    obtain ⟨hknown, hshown⟩ := (h.endpoints board hboard ep).mp hep
    refine ⟨?_, hshown⟩
    rcases hknown with ⟨-, hown⟩ | ⟨name, state, ha, b, hb, -, hep'⟩
    · exact .inl hown
    · exact .inr ⟨name, state, ha, b, hb, hep'⟩
  · rintro ⟨hknown, hother, hshown⟩
    refine ⟨?_, ?_⟩
    · rcases hknown with hown | ⟨name, state, ha, b, hb, hep⟩
      · obtain ⟨board, hboard, hsender⟩ := (h.senders L.sender).mpr (.inl rfl)
        exact ⟨board, hboard, (h.endpoints board hboard ep).mpr ⟨.inl ⟨hsender, hown⟩, hother, hshown⟩⟩
      · obtain ⟨board, hboard, hsender⟩ := (h.senders b.senderId).mpr (.inr ⟨name, state, ha, .inl ⟨b, hb, rfl⟩⟩)
        exact ⟨board, hboard,
          (h.endpoints board hboard ep).mpr ⟨.inr ⟨name, state, ha, b, hb, hsender.symm, hep⟩, hother, hshown⟩⟩
    · rw [Bool.not_eq_true', Bool.or_eq_false_iff, beq_eq_false_iff_ne]
      exact ⟨hother, shown_iff.mpr hshown⟩

/-! ### The order of the hash tables -/

/-- Boards in order are known by their senders and what they list. -/
theorem mem_of_lists {boards boards' : List TopologyBoardNode} (h : NormalBoards boards) (h' : NormalBoards boards')
    (hsenders : ∀ x, x ∈ boards.map (·.senderId) → x ∈ boards'.map (·.senderId))
    (hendpoints : ∀ x y, Lists (·.reachableEndpoints) boards x y ↔ Lists (·.reachableEndpoints) boards' x y)
    (hsources : ∀ x y, Lists (·.reachableTimesyncSources) boards x y ↔ Lists (·.reachableTimesyncSources) boards' x y)
    (hconnections : ∀ x y, Lists (·.connections) boards x y ↔ Lists (·.connections) boards' x y) {board : TopologyBoardNode}
    (hboard : board ∈ boards) : board ∈ boards' := by
  obtain ⟨board', hboard', hsender⟩ := List.mem_map.mp (hsenders _ (List.mem_map_of_mem hboard))
  have heq : board = board' := by
    have hlists : ∀ {α : Type} (f : TopologyBoardNode → List α), (∀ x y, Lists f boards x y ↔ Lists f boards' x y) →
        ∀ y, y ∈ f board ↔ y ∈ f board' := by
      intro α f hsame y
      rw [lists_of_mem h.senders.nodup hboard, lists_of_mem h'.senders.nodup hboard', hsender]
      exact hsame _ y
    obtain ⟨heps, hsrcs, hconns, -⟩ := h.each board hboard
    obtain ⟨heps', hsrcs', hconns', -⟩ := h'.each board' hboard'
    have hep := heps.ext heps' (hlists (·.reachableEndpoints) hendpoints)
    have hsrc := hsrcs.ext hsrcs' (hlists (·.reachableTimesyncSources) hsources)
    have hconn := hconns.ext hconns' (hlists (·.connections) hconnections)
    cases board
    cases board'
    cases hsender
    cases hep
    cases hsrc
    cases hconn
    rfl
  rw [heq]
  exact hboard'

/-- **The boards do not depend on the order** of the announcers. -/
theorem advertisedTopology_congr {o o' : Owner} (hlink : o.linkLocalOn sideId = o'.linkLocalOn sideId)
    (hlive : ∀ a, a ∈ o.liveAnnouncers now ↔ a ∈ o'.liveAnnouncers now) :
    o.advertisedTopology S L sideId now = o'.advertisedTopology S L sideId now := by
  have hnormal : ∀ o : Owner, NormalBoards (o.advertisedTopology S L sideId now) :=
    fun o => normalizeTopologyBoards_normal _
  have hsenders : ∀ x, x ∈ (o.advertisedTopology S L sideId now).map (·.senderId) ↔
      x ∈ (o'.advertisedTopology S L sideId now).map (·.senderId) := by
    intro x
    rw [senders_advertisedTopology, senders_advertisedTopology]
    simp only [hlive]
  have hlists : ∀ {α : Type} {f : TopologyBoardNode → List α} (_ : Joins f) (keeps : Bytes → α → Prop)
      (_ : ∀ (b : TopologyBoardNode) y, y ∈ f b.normalize ↔ y ∈ f b ∧ keeps b.senderId y)
      (_ : ∀ y, y ∈ f ⟨L.sender, L.endpoints (o.linkLocalOn sideId), L.sources, sortDedup ((o.liveAnnouncers now).map (·.1))⟩ ↔
        y ∈ f ⟨L.sender, L.endpoints (o'.linkLocalOn sideId), L.sources, sortDedup ((o'.liveAnnouncers now).map (·.1))⟩) (x y),
      Lists f (o.advertisedTopology S L sideId now) x y ↔ Lists f (o'.advertisedTopology S L sideId now) x y := by
    intro α f hjoins keeps hf hown x y
    rw [lists_advertisedTopology hjoins keeps hf, lists_advertisedTopology hjoins keeps hf, hown, hlink]
    simp only [hlive]
  have hendpoints := hlists joins_endpoints (fun _ _ => True) mem_normalize_endpoints fun y => by rw [hlink]
  have hsources := hlists joins_sources (fun _ _ => True) mem_normalize_sources fun y => Iff.rfl
  have hconnections := hlists joins_connections (fun x y => y ≠ x) mem_normalize_connections fun y => by
    rw [mem_sortDedup, mem_sortDedup, List.mem_map, List.mem_map]
    simp only [hlive]
  apply Ascending.ext_key (hnormal o).senders (hnormal o').senders
  intro board
  constructor
  · exact mem_of_lists (hnormal o) (hnormal o') (fun x => (hsenders x).mp) hendpoints hsources hconnections
  · exact mem_of_lists (hnormal o') (hnormal o) (fun x => (hsenders x).mpr) (fun x y => (hendpoints x y).symm)
      (fun x y => (hsources x y).symm) fun x y => (hconnections x y).symm

end

end Owner

/-! ## Boards that are in order -/

theorem sortDedup_of_ascending {α : Type} [LE α] [DecidableLE α] [DecidableEq α] [Std.IsLinearOrder α] {xs : List α}
    (h : Ascending xs) : sortDedup xs = xs :=
  (sortDedup_ascending xs).ext h fun _ => mem_sortDedup

theorem TopologyBoardNode.Normal.normalize_eq {board : TopologyBoardNode} (h : board.Normal) : board.normalize = board := by
  have hconnections : board.connections.filter (· ≠ board.senderId) = board.connections := by
    rw [List.filter_eq_self]
    intro peer hpeer
    exact decide_eq_true fun heq => h.other (heq ▸ hpeer)
  unfold TopologyBoardNode.normalize
  rw [hconnections, sortDedup_of_ascending h.endpoints, sortDedup_of_ascending h.sources, sortDedup_of_ascending h.connections]

/-- Boards that are in order stay as they are. -/
theorem NormalBoards.normalize_eq {boards : List TopologyBoardNode} (h : NormalBoards boards) :
    normalizeTopologyBoards boards = boards := by
  have hmap : boards.map TopologyBoardNode.normalize = boards := by
    rw [List.map_congr_left fun board hboard => (h.each board hboard).normalize_eq, List.map_id']
  have hperm := normalizeTopologyBoards_perm h.senders.nodup
  rw [hmap] at hperm
  exact (normalizeTopologyBoards_normal boards).senders.ext_key h.senders fun _ => hperm.mem_iff

/-! ## What is forgotten before it is told

`queue_discovery_packets` drops what is old first. What it drops is old at every later time as well. -/

namespace Owner

variable {routes : Map Int32 DiscoveryRoute} {now : UInt64}

theorem mem_pruneDiscoveryRoutes {e : (_ : Int32) × DiscoveryRoute} (h : e ∈ (pruneDiscoveryRoutes routes now).2.entries) :
    ∃ old ∈ routes.entries, e = ⟨old.1, old.2.expire now⟩ := by
  obtain ⟨hmapped, -⟩ := List.mem_filter.mp h
  exact Map.mem_mapValues hmapped

theorem HeardBefore.later {t : UInt64} (h : HeardBefore now routes) (hle : now ≤ t) : HeardBefore t routes :=
  fun e he a ha => UInt64.le_trans (h e he a ha) hle

theorem HeardBefore.pruned {t : UInt64} (h : HeardBefore t routes) : HeardBefore t (pruneDiscoveryRoutes routes now).2 := by
  intro e he a ha
  obtain ⟨old, hold, rfl⟩ := mem_pruneDiscoveryRoutes he
  exact h old hold a (Map.mem_keepIf ha)

theorem announcer_pruned (hpast : HeardBefore now routes) {t : UInt64} (hle : now ≤ t) {name : Bytes} {state : SenderState} :
    Announcer (pruneDiscoveryRoutes routes now).2 t name state ↔ Announcer routes t name state := by
  constructor
  · rintro ⟨e, he, ha, hlive⟩
    obtain ⟨old, hold, rfl⟩ := mem_pruneDiscoveryRoutes he
    exact ⟨old, hold, Map.mem_keepIf ha, hlive⟩
  · rintro ⟨e, he, ha, hlive⟩
    have hnow : now - state.lastSeenMs ≤ kDiscoveryTtlMs := by
      have hseen : state.lastSeenMs ≤ now := hpast e he _ ha
      refine UInt64.le_trans ?_ hlive
      rw [UInt64.le_iff_toNat_le] at hle ⊢
      rw [UInt64.toNat_sub_of_le _ _ hseen,
        UInt64.toNat_sub_of_le _ _ (UInt64.le_trans hseen (UInt64.le_iff_toNat_le.mpr hle))]
      omega
    have hkept : (⟨name, state⟩ : (_ : Bytes) × SenderState) ∈ (e.2.expire now).announcers.entries :=
      List.mem_filter.mpr ⟨ha, decide_eq_true hnow⟩
    -- the route was heard when the last of its announcers was, which is not before this one
    have hspec := foldl_max_spec (fun a : (_ : Bytes) × SenderState => a.2.lastSeenMs) (e.2.expire now).announcers.entries 0
    have hlast : (e.2.expire now).lastSeenMs =
        (e.2.expire now).announcers.entries.foldl (fun acc a => max acc a.2.lastSeenMs) 0 := List.foldl_map
    rw [← hlast] at hspec
    have hroute : now - (e.2.expire now).lastSeenMs ≤ kDiscoveryTtlMs := by
      have hbefore : (e.2.expire now).lastSeenMs ≤ now := by
        rcases hspec.2.2 with hzero | ⟨a, ha', heq⟩
        · rw [hzero]
          exact UInt64.zero_le
        · rw [← heq]
          exact hpast e he a (Map.mem_keepIf ha')
      exact UInt64.le_trans (sub_le_sub (hspec.1 _ hkept) hbefore) hnow
    refine ⟨⟨e.1, e.2.expire now⟩, List.mem_filter.mpr ⟨List.mem_map_of_mem he, ?_⟩, hkept, hlive⟩
    rw [Bool.and_eq_true]
    refine ⟨?_, decide_eq_true hroute⟩
    rw [Bool.not_eq_true', List.isEmpty_eq_false_iff]
    exact List.ne_nil_of_mem hkept

end Owner

/-! ## Reachable states -/

/-- The clock does not go back, as the callers promise. -/
def Env.Monotonic (E : Env) : Prop := ∀ m n, m ≤ n → E.clock m ≤ E.clock n

/-- What is known is consistent, lists no discovery endpoint, and was not heard after any later reading of the clock. -/
structure Owner.Settled (E : Env) (o : Owner) : Prop where
  consistent : RoutesConsistent o.discoveryRoutes
  hidden : ∀ e ∈ o.discoveryRoutes.entries, e.2.Public
  past : ∀ read, o.clockReads ≤ read → Owner.HeardBefore (E.clock read) o.discoveryRoutes

theorem learned {T : UInt64 → Prop} {routes : Map Int32 DiscoveryRoute} (h : Relation.ReflTransGen (Learns T) ∅ routes) :
    SeenAt T routes ∧ RoutesConsistent routes ∧ ∀ e ∈ routes.entries, e.2.Public := by
  induction h with
  | refl => exact ⟨(fun _ he => nomatch he), .empty, fun _ he => nomatch he⟩
  | tail _ hstep ih => exact ⟨hstep.seenAt ih.1, hstep.consistent ih.2.1, hstep.public ih.2.2⟩

/-- A chain of operations leads from nothing to what is settled. -/
theorem Owner.Moves.settled {P : TxItem → Prop} {R : PacketData → Prop} {E : Env} {o o' : Owner}
    (h : Owner.Moves P (Obs.Timely E) R o o') (hclock : E.Monotonic) (hnew : o.discoveryRoutes = ∅) : o'.Settled E := by
  have hsteps := h.routes
  rw [hnew] at hsteps
  obtain ⟨hseen, hconsistent, hhidden⟩ := learned hsteps
  refine ⟨hconsistent, hhidden, ?_⟩
  intro read hread e he a ha
  obtain ⟨earlier, hlt, heq⟩ := hseen e he a ha
  have htime : a.2.lastSeenMs = E.clock earlier := heq
  rw [htime]
  exact hclock earlier read (hlt.le.trans hread)

theorem Router.run_settled (S : Schema) (Z : Codec) {E : Env} (hclock : E.Monotonic) (r : Router) (acts : List Router.Act)
    (hnew : r.discoveryRoutes = ∅) : (runFrom (Router.perform S Z E) r acts).toOwner.Settled E :=
  (Router.run_moves S Z E r acts).settled hclock hnew

theorem Relay.run_settled (S : Schema) (Z : Codec) {E : Env} (hclock : E.Monotonic) (r : Relay) (acts : List Relay.Act)
    (hnew : r.discoveryRoutes = ∅) : (runFrom (Relay.perform S Z E) r acts).toOwner.Settled E :=
  (Relay.run_moves S Z E r acts).settled hclock hnew

/-! ## The packets -/

namespace Owner

section

variable (S : Schema) (L : LocalBoard) (now : UInt64) (o : Owner) (sideId : Int32) (t : UInt64)

/-- The `DISCOVERY_TOPOLOGY` packet for a side, from what is known at the time `t`. -/
def topologyPacket : PacketData :=
  ⟨SEDS_DT_DISCOVERY_TOPOLOGY, L.sender, [SEDS_EP_DISCOVERY], now, encodeDiscoveryTopology (o.advertisedTopology S L sideId t)⟩

/-- The `DISCOVERY_TIMESYNC_SOURCES` packet. -/
def sourcesPacket : PacketData :=
  discoveryPacket S L SEDS_DT_DISCOVERY_TIMESYNC_SOURCES now
    (encodeDiscoveryTimesyncSources (summarizeTopologyBoards (o.advertisedTopology S L sideId t)).2)

/-- The `DISCOVERY_ANNOUNCE` packet. -/
def announcePacket : PacketData :=
  discoveryPacket S L SEDS_DT_DISCOVERY_ANNOUNCE now
    ((o.advertisedEndpoints S sideId (o.advertisedTopology S L sideId t)).flatMap appendLe32)

end

/-- The owner `r` while it queues its announcements: what is old is gone. -/
structure Announcing (E : Env) (r o : Owner) : Prop where
  routes : o.discoveryRoutes = (pruneDiscoveryRoutes r.discoveryRoutes (r.nowMs E).1).2
  sides : o.sides = r.sides
  reads : r.clockReads ≤ o.clockReads

/-- A packet for a side that is built on the way. -/
def Builds (S : Schema) (E : Env) (L : LocalBoard) (r : Owner) (sideId : Int32) (pkt : PacketData) : Prop :=
  ∃ o read, Announcing E r o ∧ r.clockReads ≤ read ∧
    (pkt = topologyPacket S L (r.nowMs E).1 o sideId (E.clock read) ∨
      pkt = sourcesPacket S L (r.nowMs E).1 o sideId (E.clock read) ∨
      pkt = announcePacket S L (r.nowMs E).1 o sideId (E.clock read))

section

variable {S : Schema} {E : Env} {L : LocalBoard} {r o : Owner} {sideId : Int32}

theorem Announcing.nowMs (h : Announcing E r o) : Announcing E r (o.nowMs E).2 :=
  ⟨h.routes, h.sides, h.reads.trans (Nat.le_succ _)⟩

theorem Announcing.queueFor (h : Announcing E r o) (sideId : Int32) (pkt : PacketData) :
    Announcing E r (o.queueFor sideId pkt) := by
  unfold Owner.queueFor enqueueTxFront enqueueTxAt
  split
  · exact ⟨h.routes, h.sides, h.reads⟩
  · exact h

theorem mem_queueFor {pkt : PacketData} {item : TxItem} (h : item ∈ (o.queueFor sideId pkt).txQueue.items) :
    item ∈ o.txQueue.items ∨ item = ⟨pkt, none, some sideId, false⟩ :=
  (Emits.enqueueTxAt (P := fun x => x = ⟨pkt, none, some sideId, false⟩) (Q := fun _ => True) true o rfl).tx item h

/-- The packets of one side. -/
theorem announceSide_builds (h : Announcing E r o) (sideId : Int32) :
    Announcing E r (announceSide S E L (r.nowMs E).1 o sideId).2 ∧
    ∀ item ∈ (announceSide S E L (r.nowMs E).1 o sideId).2.txQueue.items,
      item ∈ o.txQueue.items ∨ ∃ pkt, item = ⟨pkt, none, some sideId, false⟩ ∧ Builds S E L r sideId pkt := by
  unfold announceSide
  dsimp only
  split
  · exact ⟨h.nowMs, fun item hitem => .inl hitem⟩
  · have htopology : Builds S E L r sideId ⟨SEDS_DT_DISCOVERY_TOPOLOGY, L.sender, [SEDS_EP_DISCOVERY], (r.nowMs E).1,
        encodeDiscoveryTopology ((o.nowMs E).2.advertisedTopology S L sideId (o.nowMs E).1)⟩ :=
      ⟨(o.nowMs E).2, o.clockReads, h.nowMs, h.reads, .inl rfl⟩
    have hsources : Builds S E L r sideId (discoveryPacket S L SEDS_DT_DISCOVERY_TIMESYNC_SOURCES (r.nowMs E).1
        (encodeDiscoveryTimesyncSources (summarizeTopologyBoards (((o.nowMs E).2.nowMs E).2.advertisedTopology S L sideId
          ((o.nowMs E).2.nowMs E).1)).2)) :=
      ⟨((o.nowMs E).2.nowMs E).2, (o.nowMs E).2.clockReads, h.nowMs.nowMs, h.nowMs.reads, .inr (.inl rfl)⟩
    generalize encodeDiscoveryTopology ((o.nowMs E).2.advertisedTopology S L sideId (o.nowMs E).1) = topology at htopology ⊢
    generalize (summarizeTopologyBoards (((o.nowMs E).2.nowMs E).2.advertisedTopology S L sideId
      ((o.nowMs E).2.nowMs E).1)).2 = sources at hsources ⊢
    have hnow : Announcing E r ((o.nowMs E).2.nowMs E).2 := h.nowMs.nowMs
    have hitems : ((o.nowMs E).2.nowMs E).2.txQueue.items = o.txQueue.items := rfl
    generalize ((o.nowMs E).2.nowMs E).2 = o₀ at hnow hitems ⊢
    have htold := hnow.queueFor sideId ⟨SEDS_DT_DISCOVERY_TOPOLOGY, L.sender, [SEDS_EP_DISCOVERY], (r.nowMs E).1, topology⟩
    have hmem₁ : ∀ item ∈ (o₀.queueFor sideId
        ⟨SEDS_DT_DISCOVERY_TOPOLOGY, L.sender, [SEDS_EP_DISCOVERY], (r.nowMs E).1, topology⟩).txQueue.items,
        item ∈ o.txQueue.items ∨ ∃ pkt, item = ⟨pkt, none, some sideId, false⟩ ∧ Builds S E L r sideId pkt := by
      intro item hitem
      rcases mem_queueFor hitem with hold | hnew
      · exact .inl (hitems ▸ hold)
      · exact .inr ⟨_, hnew, htopology⟩
    generalize o₀.queueFor sideId ⟨SEDS_DT_DISCOVERY_TOPOLOGY, L.sender, [SEDS_EP_DISCOVERY], (r.nowMs E).1, topology⟩ = o₁
      at htold hmem₁ ⊢
    have hboth : Announcing E r (if sources.isEmpty = true then o₁ else o₁.queueFor sideId
          (discoveryPacket S L SEDS_DT_DISCOVERY_TIMESYNC_SOURCES (r.nowMs E).1 (encodeDiscoveryTimesyncSources sources))) ∧
        ∀ item ∈ (if sources.isEmpty = true then o₁ else o₁.queueFor sideId
          (discoveryPacket S L SEDS_DT_DISCOVERY_TIMESYNC_SOURCES (r.nowMs E).1
            (encodeDiscoveryTimesyncSources sources))).txQueue.items,
          item ∈ o.txQueue.items ∨ ∃ pkt, item = ⟨pkt, none, some sideId, false⟩ ∧ Builds S E L r sideId pkt := by
      split
      · exact ⟨htold, hmem₁⟩
      · refine ⟨htold.queueFor sideId _, ?_⟩
        intro item hitem
        rcases mem_queueFor hitem with hold | hnew
        · exact hmem₁ item hold
        · exact .inr ⟨_, hnew, hsources⟩
    generalize (if sources.isEmpty = true then o₁ else o₁.queueFor sideId (discoveryPacket S L
      SEDS_DT_DISCOVERY_TIMESYNC_SOURCES (r.nowMs E).1 (encodeDiscoveryTimesyncSources sources))) = o₂ at hboth ⊢
    have hannounce : Builds S E L r sideId (discoveryPacket S L SEDS_DT_DISCOVERY_ANNOUNCE (r.nowMs E).1
        (((o₂.nowMs E).2.advertisedEndpoints S sideId ((o₂.nowMs E).2.advertisedTopology S L sideId
          (o₂.nowMs E).1)).flatMap appendLe32)) :=
      ⟨(o₂.nowMs E).2, o₂.clockReads, hboth.1.nowMs, hboth.1.reads, .inr (.inr rfl)⟩
    generalize discoveryPacket S L SEDS_DT_DISCOVERY_ANNOUNCE (r.nowMs E).1 (((o₂.nowMs E).2.advertisedEndpoints S sideId
      ((o₂.nowMs E).2.advertisedTopology S L sideId (o₂.nowMs E).1)).flatMap appendLe32) = pkt at hannounce ⊢
    refine ⟨hboth.1.nowMs.queueFor sideId pkt, ?_⟩
    intro item hitem
    rcases mem_queueFor hitem with hold | hnew
    · exact hboth.2 item hold
    · exact .inr ⟨pkt, hnew, hannounce⟩

/-- The loop over the sides. -/
theorem announceSides_builds (sides : List (Side × Nat)) (h : Announcing E r o) :
    ∀ item ∈ (announceSides S E L (r.nowMs E).1 sides o).2.txQueue.items, item ∈ o.txQueue.items ∨
      ∃ side i pkt, (side, i) ∈ sides ∧ side.egressEnabled = true ∧ item = ⟨pkt, none, some (Int32.ofNat i), false⟩ ∧
        Builds S E L r (Int32.ofNat i) pkt := by
  induction sides generalizing o with
  | nil => exact fun item hitem => .inl hitem
  | cons p rest ih =>
    obtain ⟨side, i⟩ := p
    have hlater : ∀ {o' : Owner} {item : TxItem}, (item ∈ o'.txQueue.items ∨ ∃ side i pkt, (side, i) ∈ rest ∧
          side.egressEnabled = true ∧ item = ⟨pkt, none, some (Int32.ofNat i), false⟩ ∧ Builds S E L r (Int32.ofNat i) pkt) →
        item ∈ o'.txQueue.items ∨ ∃ side' i' pkt, (side', i') ∈ (side, i) :: rest ∧ side'.egressEnabled = true ∧
          item = ⟨pkt, none, some (Int32.ofNat i'), false⟩ ∧ Builds S E L r (Int32.ofNat i') pkt := by
      rintro o' item (hold | ⟨side', i', pkt, hmem, hrest⟩)
      · exact .inl hold
      · exact .inr ⟨side', i', pkt, List.mem_cons_of_mem _ hmem, hrest⟩
    unfold announceSides
    split
    · exact fun item hitem => hlater (ih h item hitem)
    · rename_i hegress
      rw [Bool.not_eq_true', Bool.not_eq_false] at hegress
      have htold := announceSide_builds (S := S) (L := L) h (Int32.ofNat i)
      have hfirst : ∀ item ∈ (announceSide S E L (r.nowMs E).1 o (Int32.ofNat i)).2.txQueue.items, item ∈ o.txQueue.items ∨
          ∃ side' i' pkt, (side', i') ∈ (side, i) :: rest ∧ side'.egressEnabled = true ∧
            item = ⟨pkt, none, some (Int32.ofNat i'), false⟩ ∧ Builds S E L r (Int32.ofNat i') pkt := by
        intro item hitem
        rcases htold.2 item hitem with hold | ⟨pkt, hpkt, hbuilds⟩
        · exact .inl hold
        · exact .inr ⟨side, i, pkt, List.mem_cons_self, hegress, hpkt, hbuilds⟩
      generalize announceSide S E L (r.nowMs E).1 o (Int32.ofNat i) = q at htold hfirst ⊢
      obtain ⟨ok, o'⟩ := q
      cases ok with
      | false => exact hfirst
      | true =>
        intro item hitem
        rcases hlater (ih htold.1 item hitem) with hold | hnew
        · exact hfirst item hold
        · exact .inr hnew

/-- Everything that is queued besides what was. -/
theorem queueDiscoveryPackets_builds : ∀ item ∈ (queueDiscoveryPackets S E L r).2.txQueue.items, item ∈ r.txQueue.items ∨
    ∃ side i pkt, r.sides[i]? = some side ∧ side.egressEnabled = true ∧
      item = ⟨pkt, none, some (Int32.ofNat i), false⟩ ∧ Builds S E L r (Int32.ofNat i) pkt := by
  have hstart : ∀ changed : Bool, ∀ o, o = (if changed = true then
        ({ (r.nowMs E).2 with discoveryRoutes := (pruneDiscoveryRoutes (r.nowMs E).2.discoveryRoutes (r.nowMs E).1).2 } :
          Owner).noteDiscoveryTopologyChange (r.nowMs E).1
      else { (r.nowMs E).2 with discoveryRoutes := (pruneDiscoveryRoutes (r.nowMs E).2.discoveryRoutes (r.nowMs E).1).2 }) →
      Announcing E r o ∧ o.txQueue = r.txQueue := by
    rintro changed o rfl
    cases changed with
    | false => exact ⟨⟨rfl, rfl, Nat.le_succ _⟩, rfl⟩
    | true => exact ⟨⟨rfl, rfl, Nat.le_succ _⟩, rfl⟩
  unfold queueDiscoveryPackets
  dsimp only
  generalize ho : (if (pruneDiscoveryRoutes (r.nowMs E).2.discoveryRoutes (r.nowMs E).1).1 = true then
        ({ (r.nowMs E).2 with discoveryRoutes := (pruneDiscoveryRoutes (r.nowMs E).2.discoveryRoutes (r.nowMs E).1).2 } :
          Owner).noteDiscoveryTopologyChange (r.nowMs E).1
      else { (r.nowMs E).2 with discoveryRoutes := (pruneDiscoveryRoutes (r.nowMs E).2.discoveryRoutes (r.nowMs E).1).2 }) = o
  obtain ⟨hannouncing, hqueue⟩ := hstart _ o ho.symm
  have hbuilds : ∀ item ∈ (announceSides S E L (r.nowMs E).1 o.sides.zipIdx o).2.txQueue.items, item ∈ r.txQueue.items ∨
      ∃ side i pkt, r.sides[i]? = some side ∧ side.egressEnabled = true ∧
        item = ⟨pkt, none, some (Int32.ofNat i), false⟩ ∧ Builds S E L r (Int32.ofNat i) pkt := by
    intro item hitem
    rcases announceSides_builds o.sides.zipIdx hannouncing item hitem with hold | ⟨side, i, pkt, hside, hrest⟩
    · exact .inl (hqueue ▸ hold)
    · rw [hannouncing.sides] at hside
      exact .inr ⟨side, i, pkt, List.mem_zipIdx_iff_getElem?.mp hside, hrest⟩
  generalize announceSides S E L (r.nowMs E).1 o.sides.zipIdx o = q at hbuilds ⊢
  obtain ⟨ok, o'⟩ := q
  cases ok with
  | false => exact hbuilds
  | true => exact hbuilds

/-- The same route, with its announcers in any order. -/
def SameRoute (e e' : (_ : Int32) × DiscoveryRoute) : Prop :=
  e'.1 = e.1 ∧ e'.2.endpoints = e.2.endpoints ∧ e'.2.timesyncSources = e.2.timesyncSources ∧
    e'.2.lastSeenMs = e.2.lastSeenMs ∧ e'.2.announcers.entries.Perm e.2.announcers.entries

/-- The same hash tables, in any order. -/
structure Reorders (routes routes' : Map Int32 DiscoveryRoute) : Prop where
  there : ∀ e ∈ routes.entries, ∃ e' ∈ routes'.entries, SameRoute e e'
  back : ∀ e' ∈ routes'.entries, ∃ e ∈ routes.entries, SameRoute e e'

theorem liveAnnouncers_of_sameRoute {o o' : Owner} {now : UInt64}
    (h : ∀ e ∈ o.discoveryRoutes.entries, ∃ e' ∈ o'.discoveryRoutes.entries,
      e'.2.lastSeenMs = e.2.lastSeenMs ∧ e'.2.announcers.entries.Perm e.2.announcers.entries)
    {a : Bytes × SenderState} (ha : a ∈ o.liveAnnouncers now) : a ∈ o'.liveAnnouncers now := by
  unfold liveAnnouncers at ha ⊢
  obtain ⟨e, he, hmem⟩ := List.mem_flatMap.mp ha
  obtain ⟨he, hlive⟩ := List.mem_filter.mp he
  obtain ⟨e', he', hseen, hperm⟩ := h e he
  obtain ⟨b, hb, rfl⟩ := List.mem_map.mp hmem
  obtain ⟨hb, hblive⟩ := List.mem_filter.mp hb
  refine List.mem_flatMap.mpr ⟨e', List.mem_filter.mpr ⟨he', ?_⟩, ?_⟩
  · rw [hseen]
    exact hlive
  · exact List.mem_map.mpr ⟨b, List.mem_filter.mpr ⟨hperm.mem_iff.mpr hb, hblive⟩, rfl⟩

theorem Reorders.liveAnnouncers {o o' : Owner} (h : Reorders o.discoveryRoutes o'.discoveryRoutes) {now : UInt64}
    (a : Bytes × SenderState) : a ∈ o.liveAnnouncers now ↔ a ∈ o'.liveAnnouncers now := by
  constructor
  · apply liveAnnouncers_of_sameRoute
    intro e he
    obtain ⟨e', he', -, -, -, hseen, hperm⟩ := h.there e he
    exact ⟨e', he', hseen, hperm⟩
  · apply liveAnnouncers_of_sameRoute
    intro e' he'
    obtain ⟨e, he, -, -, -, hseen, hperm⟩ := h.back e' he'
    exact ⟨e, he, hseen.symm, hperm.symm⟩

end

/-- What an owner advertises: the packets that it queues are built for sides that may send, an `ANNOUNCE` packet carries the
    endpoints that are known, a `TOPOLOGY` packet the boards, and neither depends on the order of the hash tables. -/
structure Advertises (S : Schema) (E : Env) (L : LocalBoard) (own : UInt32 → Prop) (r : Owner) : Prop where
  queued : ∀ item ∈ (queueDiscoveryPackets S E L r).2.txQueue.items, item ∈ r.txQueue.items ∨
    ∃ side i pkt, r.sides[i]? = some side ∧ side.egressEnabled = true ∧
      item = ⟨pkt, none, some (Int32.ofNat i), false⟩ ∧ Builds S E L r (Int32.ofNat i) pkt
  announce : ∀ o sideId read, Announcing E r o → r.clockReads ≤ read → ∃ endpoints : List UInt32,
    (announcePacket S L (r.nowMs E).1 o sideId (E.clock read)).payload = endpoints.flatMap appendLe32 ∧
    Ascending endpoints ∧
    ∀ ep, ep ∈ endpoints ↔
      (own ep ∨ ∃ name state, Announcer r.discoveryRoutes (E.clock read) name state ∧
        ∃ board ∈ state.topologyBoards, ep ∈ board.reachableEndpoints) ∧
      ep ≠ SEDS_EP_DISCOVERY ∧ (r.linkLocalOn sideId = true ∨ S.endpointLinkLocalOnly ep = false)
  topology : ∀ o sideId read, Announcing E r o → r.clockReads ≤ read → ∃ boards : List TopologyBoardNode,
    (topologyPacket S L (r.nowMs E).1 o sideId (E.clock read)).payload =
      appendLe32 (UInt32.ofNat boards.length) ++ boards.flatMap encodeBoard ∧
    Told S r.discoveryRoutes (r.linkLocalOn sideId) L own (E.clock read) boards
  ordered : ∀ o o' sideId now t, o'.sides = o.sides → Reorders o.discoveryRoutes o'.discoveryRoutes →
    announcePacket S L now o' sideId t = announcePacket S L now o sideId t ∧
    topologyPacket S L now o' sideId t = topologyPacket S L now o sideId t

theorem Announcing.linkLocalOn {E : Env} {r o : Owner} (h : Announcing E r o) (sideId : Int32) :
    o.linkLocalOn sideId = r.linkLocalOn sideId := by
  unfold Owner.linkLocalOn sideAt
  rw [h.sides]

/-- The announcers while the packets are built are those that were known before. -/
theorem Announcing.told {S : Schema} {E : Env} {L : LocalBoard} {own : UInt32 → Prop} {r o : Owner} (hown : Owns S L own)
    (hclock : E.Monotonic) (hsettled : r.Settled E) (h : Announcing E r o) (sideId : Int32) {read : Nat}
    (hread : r.clockReads ≤ read) :
    (∀ name state, Announcer o.discoveryRoutes (E.clock read) name state ↔
      Announcer r.discoveryRoutes (E.clock read) name state) ∧
    Told S o.discoveryRoutes (o.linkLocalOn sideId) L own (E.clock read) (o.advertisedTopology S L sideId (E.clock read)) := by
  have hlater : (r.nowMs E).1 ≤ E.clock read := hclock _ _ hread
  have hpast : HeardBefore (r.nowMs E).1 r.discoveryRoutes := hsettled.past r.clockReads (Nat.le_refl _)
  have hpruned : Learns (fun _ => True) r.discoveryRoutes o.discoveryRoutes := by
    rw [h.routes]
    exact .expired r.discoveryRoutes (r.nowMs E).1
  constructor
  · intro name state
    rw [h.routes]
    exact announcer_pruned hpast hlater
  · apply advertisedTopology_told hown (hpruned.consistent hsettled.consistent) (hpruned.public hsettled.hidden)
    rw [h.routes]
    exact (hpast.later hlater).pruned

theorem Settled.advertises {S : Schema} {E : Env} {L : LocalBoard} {own : UInt32 → Prop} {r : Owner} (hown : Owns S L own)
    (hclock : E.Monotonic) (hsettled : r.Settled E) : Advertises S E L own r where
  queued := queueDiscoveryPackets_builds
  announce := by
    intro o sideId read ho hread
    obtain ⟨hsame, htold⟩ := ho.told hown hclock hsettled sideId hread
    refine ⟨_, rfl, (sortDedup_ascending _).filter _, ?_⟩
    intro ep
    rw [mem_advertisedEndpoints htold, ho.linkLocalOn]
    simp only [hsame]
  topology := by
    intro o sideId read ho hread
    obtain ⟨hsame, htold⟩ := ho.told hown hclock hsettled sideId hread
    refine ⟨o.advertisedTopology S L sideId (E.clock read), ?_, ?_⟩
    · unfold topologyPacket encodeDiscoveryTopology
      dsimp only
      rw [htold.normal.normalize_eq]
    · rw [ho.linkLocalOn] at htold
      refine ⟨htold.normal, ?_, ?_, ?_⟩
      · simpa only [hsame] using htold.senders
      · simpa only [hsame] using htold.endpoints
      · simpa only [hsame] using htold.sources
  ordered := by
    intro o o' sideId now t hsides horder
    have hlink : o'.linkLocalOn sideId = o.linkLocalOn sideId := by
      unfold Owner.linkLocalOn sideAt
      rw [hsides]
    have hboards : o'.advertisedTopology S L sideId t = o.advertisedTopology S L sideId t :=
      advertisedTopology_congr hlink fun a => (horder.liveAnnouncers a).symm
    refine ⟨?_, ?_⟩
    · unfold announcePacket advertisedEndpoints
      rw [hboards, hlink]
    · unfold topologyPacket
      rw [hboards]

end Owner

/-! ## Runs -/

/-- The endpoints a router has itself. -/
def Router.Own (r : Router) (ep : UInt32) : Prop :=
  (∃ l ∈ r.locals, l.endpoint = ep) ∨ r.timesync.enabled = true ∧ ep = SEDS_EP_TIME_SYNC

/-- A router says so, if time synchronisation is not for link-local sides only. -/
theorem Router.owns {S : Schema} (htimesync : S.endpointLinkLocalOnly SEDS_EP_TIME_SYNC = false) (r : Router) :
    Owner.Owns S (r.localBoard S) r.Own := by
  intro link ep
  change ep ∈ sortDedup _ ↔ _
  rw [mem_sortDedup, List.mem_append, List.mem_filterMap]
  unfold Own
  constructor
  · rintro (⟨l, hl, hep⟩ | hep)
    · split at hep
      · rename_i hshown
        cases hep
        rw [Bool.and_eq_true, bne_iff_ne, Bool.or_eq_true, Bool.not_eq_true'] at hshown
        exact ⟨.inl ⟨l, hl, rfl⟩, hshown⟩
      · cases hep
    · split at hep
      · rename_i henabled
        rw [List.mem_singleton.mp hep]
        exact ⟨.inr ⟨henabled, rfl⟩, by decide, .inr htimesync⟩
      · cases hep
  · rintro ⟨⟨l, hl, rfl⟩ | ⟨henabled, rfl⟩, hother, hshown⟩
    · refine .inl ⟨l, hl, if_pos ?_⟩
      rw [Bool.and_eq_true, bne_iff_ne, Bool.or_eq_true, Bool.not_eq_true']
      exact ⟨hother, hshown⟩
    · right
      rw [if_pos henabled]
      exact List.mem_singleton_self _

theorem Relay.owns (S : Schema) : Owner.Owns S .relay fun _ => False := by
  intro link ep
  constructor
  · exact fun h => nomatch h
  · exact fun h => h.1.elim

/-- A settled owner stays so while the clock is read. -/
theorem Owner.Settled.later {E : Env} {o : Owner} (h : o.Settled E) {reads : Nat} (hreads : o.clockReads ≤ reads) :
    Owner.Settled E { o with clockReads := reads } :=
  ⟨h.consistent, h.hidden, fun read hread => h.past read (hreads.trans hread)⟩

end SedsNet
