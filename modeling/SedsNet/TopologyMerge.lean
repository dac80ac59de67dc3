import SedsNet.Advertised
import Mathlib.Order.CompleteLattice.Basic
import Mathlib.Data.Set.Lattice

/-!
# Merging topologies

A list of boards says who is there, and of each which endpoints and time sources it has and whom it is linked to. That is its
`picture`, and pictures are ordered by what they say. Of all that lists of boards can differ in (order, repetition, a sender with
two boards, a board that names itself), a picture keeps nothing, and boards in order have nothing but their picture
(`eq_of_picture`).

In this order `merge_topology_boards` is a join, so what a node advertises is a least upper bound: it says what the node says of
itself and what each live announcer told, and it says no more.
-/

set_option autoImplicit false

namespace SedsNet

open Lib Owner

/-- Who is there; of each the endpoints, the time sources and the links. -/
abbrev Picture : Type := Set Bytes × Set (Bytes × UInt32) × Set (Bytes × Bytes) × Set (Bytes × Bytes)

/-- What boards say. No board is linked to itself. -/
def picture (boards : List TopologyBoardNode) : Picture :=
  ({x | x ∈ boards.map (·.senderId)}, {p | Lists (·.reachableEndpoints) boards p.1 p.2},
    {p | Lists (·.reachableTimesyncSources) boards p.1 p.2}, {p | Lists (·.connections) boards p.1 p.2 ∧ p.2 ≠ p.1})

section

variable {boards boards' dst : List TopologyBoardNode}

theorem picture_le_iff {c : Picture} : picture boards ≤ c ↔
    (∀ x, x ∈ boards.map (·.senderId) → x ∈ c.1) ∧
      (∀ x ep, Lists (·.reachableEndpoints) boards x ep → (x, ep) ∈ c.2.1) ∧
      (∀ x source, Lists (·.reachableTimesyncSources) boards x source → (x, source) ∈ c.2.2.1) ∧
      ∀ x peer, Lists (·.connections) boards x peer ∧ peer ≠ x → (x, peer) ∈ c.2.2.2 := by
  constructor
  · rintro ⟨hsenders, hendpoints, hsources, hlinks⟩
    exact ⟨fun x h => hsenders h, fun x ep h => hendpoints h, fun x source h => hsources h, fun x peer h => hlinks h⟩
  · rintro ⟨hsenders, hendpoints, hsources, hlinks⟩
    exact ⟨fun x h => hsenders x h, fun p h => hendpoints p.1 p.2 h, fun p h => hsources p.1 p.2 h, fun p h => hlinks p.1 p.2 h⟩

/-- A board that is in order is not linked to itself, so its picture leaves none of its links out. -/
theorem NormalBoards.lists_connections (h : NormalBoards boards) {x peer : Bytes} (hlists : Lists (·.connections) boards x peer) :
    peer ≠ x := by
  obtain ⟨board, hboard, rfl, hpeer⟩ := hlists
  rintro rfl
  exact (h.each board hboard).other hpeer

theorem mem_of_picture_eq (h : NormalBoards boards) (h' : NormalBoards boards') (heq : picture boards = picture boards')
    {board : TopologyBoardNode} (hboard : board ∈ boards) : board ∈ boards' := by
  obtain ⟨hsenders, hendpoints, hsources, hlinks⟩ := picture_le_iff.mp heq.le
  obtain ⟨-, hendpoints', hsources', hlinks'⟩ := picture_le_iff.mp heq.ge
  refine mem_of_lists h h' hsenders (fun x ep => ⟨hendpoints x ep, hendpoints' x ep⟩)
    (fun x source => ⟨hsources x source, hsources' x source⟩) ?_ hboard
  intro x peer
  constructor
  · exact fun hlists => (hlinks x peer ⟨hlists, h.lists_connections hlists⟩).1
  · exact fun hlists => (hlinks' x peer ⟨hlists, h'.lists_connections hlists⟩).1

/-- **Boards in order are known by their picture.** -/
theorem eq_of_picture (h : NormalBoards boards) (h' : NormalBoards boards') (heq : picture boards = picture boards') :
    boards = boards' := by
  refine Ascending.ext_key h.senders h'.senders ?_
  intro board
  exact ⟨mem_of_picture_eq h h' heq, mem_of_picture_eq h' h heq.symm⟩

/-- What merged lists list is what one of them lists. -/
theorem exists_lists_mergeAll {α : Type} {f : TopologyBoardNode → List α} (hjoins : Joins f) (keeps : Bytes → α → Prop)
    (hf : ∀ (b : TopologyBoardNode) y, y ∈ f b.normalize ↔ y ∈ f b ∧ keeps b.senderId y) (all : List (List TopologyBoardNode))
    (h : (dst.map (·.senderId)).Nodup) (x : Bytes) (y : α) :
    Lists f (normalizeTopologyBoards (all.foldl mergeTopologyBoards dst)) x y ∧ keeps x y ↔
      ∃ boards ∈ dst :: all, Lists f boards x y ∧ keeps x y := by
  rw [lists_mergeAll hjoins hf all h, List.exists_mem_cons_iff]
  tauto

/-- **Merging is a join**: what comes of it says what each of the lists says, and no more. -/
theorem mergeAll_isLUB (all : List (List TopologyBoardNode)) (h : (dst.map (·.senderId)).Nodup) :
    IsLUB {p | ∃ boards ∈ dst :: all, picture boards = p} (picture (normalizeTopologyBoards (all.foldl mergeTopologyBoards dst))) := by
  rw [isLUB_iff_le_iff]
  intro c
  have hbound : c ∈ upperBounds {p | ∃ boards ∈ dst :: all, picture boards = p} ↔ ∀ boards ∈ dst :: all, picture boards ≤ c := by
    constructor
    · exact fun hc boards hmem => hc ⟨boards, hmem, rfl⟩
    · rintro hc p ⟨boards, hmem, rfl⟩
      exact hc boards hmem
  have hendpoints := exists_lists_mergeAll joins_endpoints (fun _ _ => True) mem_normalize_endpoints all h
  have hsources := exists_lists_mergeAll joins_sources (fun _ _ => True) mem_normalize_sources all h
  have hlinks := exists_lists_mergeAll joins_connections (fun x y => y ≠ x) mem_normalize_connections all h
  simp only [and_true] at hendpoints hsources
  have hsenders : ∀ x, x ∈ (normalizeTopologyBoards (all.foldl mergeTopologyBoards dst)).map (·.senderId) ↔
      ∃ boards ∈ dst :: all, x ∈ boards.map (·.senderId) := by
    intro x
    rw [senders_mergeAll, List.exists_mem_cons_iff]
  rw [hbound, picture_le_iff]
  simp only [hsenders, hendpoints, hsources, hlinks, picture_le_iff]
  constructor
  · rintro ⟨hc, hceps, hcsources, hclinks⟩ boards hmem
    exact ⟨fun x hx => hc x ⟨boards, hmem, hx⟩, fun x ep hep => hceps x ep ⟨boards, hmem, hep⟩,
      fun x source hsource => hcsources x source ⟨boards, hmem, hsource⟩, fun x peer hpeer => hclinks x peer ⟨boards, hmem, hpeer⟩⟩
  · intro hc
    refine ⟨?_, ?_, ?_, ?_⟩
    · rintro x ⟨boards, hmem, hx⟩
      exact (hc boards hmem).1 x hx
    · rintro x ep ⟨boards, hmem, hep⟩
      exact (hc boards hmem).2.1 x ep hep
    · rintro x source ⟨boards, hmem, hsource⟩
      exact (hc boards hmem).2.2.1 x source hsource
    · rintro x peer ⟨boards, hmem, hpeer⟩
      exact (hc boards hmem).2.2.2 x peer hpeer

end

namespace Owner

/-- What the node says of itself, to a side. -/
def ownBoard (L : LocalBoard) (o : Owner) (sideId : Int32) (now : UInt64) : TopologyBoardNode :=
  ⟨L.sender, L.endpoints (o.linkLocalOn sideId), L.sources, sortDedup ((o.liveAnnouncers now).map (·.1))⟩

/-- What a live announcer told, as it is passed on to a side. -/
def toldBoards (S : Schema) (L : LocalBoard) (o : Owner) (sideId : Int32) (a : Bytes × SenderState) : List TopologyBoardNode :=
  (a.2.advertised a.1 L.sender).map (·.hide fun ep => !o.linkLocalOn sideId && S.endpointLinkLocalOnly ep)

/-- **What a node advertises** to a side is the one list of boards in order that says what the node says of itself and what each
    live announcer told, and that says no more. -/
theorem advertisedTopology_isLUB (S : Schema) (L : LocalBoard) (o : Owner) (sideId : Int32) (now : UInt64) :
    let said : Set Picture :=
      insert (picture [o.ownBoard L sideId now]) {p | ∃ a ∈ o.liveAnnouncers now, picture (o.toldBoards S L sideId a) = p}
    let boards := o.advertisedTopology S L sideId now
    NormalBoards boards ∧ IsLUB said (picture boards) ∧
      ∀ other, NormalBoards other → IsLUB said (picture other) → other = boards := by
  intro said boards
  have hsaid : said = {p | ∃ boards ∈ [o.ownBoard L sideId now] :: (o.liveAnnouncers now).map (o.toldBoards S L sideId),
      picture boards = p} := by
    ext p
    simp [said, eq_comm]
  have hnormal : NormalBoards boards := normalizeTopologyBoards_normal _
  have hlub : IsLUB said (picture boards) := by
    rw [hsaid]
    show IsLUB _ (picture (o.advertisedTopology S L sideId now))
    rw [advertisedTopology_eq]
    exact mergeAll_isLUB _ (List.nodup_singleton L.sender)
  exact ⟨hnormal, hlub, fun other hother hleast => eq_of_picture hother hnormal (hleast.unique hlub)⟩

end Owner

end SedsNet
