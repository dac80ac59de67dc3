import SedsNet.Advertised
import SedsNet.Retries

/-!
# Sides that are left out

A relay leaves a side out of the targets of a packet when everyone behind it has acknowledged the packet
(`filter_end_to_end_satisfied_sides`). The loop over the announcers of a side carries two flags from one announcer to the
next, and asks an announcer without boards for its own endpoints only if no destination was met before. In a reachable state
such an announcer has no endpoints (`SenderState.Consistent`), so the flags say something that has no order:
`satisfiedSides_iff`.
-/

set_option autoImplicit false

namespace SedsNet

open Lib

/-- A board of a destination. -/
def SenderState.Destination (state : SenderState) (board : TopologyBoardNode) : Prop :=
  board ∈ state.topologyBoards ∧ isEndToEndDestinationSender board.senderId = true

/-- An announcer that knows a destination, or that is one and has no boards. -/
def KnowsDestination (a : (_ : Bytes) × SenderState) : Prop :=
  (∃ board, a.2.Destination board) ∨ a.2.topologyBoards = [] ∧ isEndToEndDestinationSender a.1 = true

/-- A destination that has one of the packet's endpoints and has not acknowledged. -/
def StillPending (pkt : PacketData) (acked : Finset UInt64) (a : (_ : Bytes) × SenderState) : Prop :=
  ∃ board, a.2.Destination board ∧ board.matchesAny pkt.endpoints = true ∧ senderHash board.senderId ∉ acked

/-- Everyone behind a side has acknowledged: the route has announcers, one of them knows a destination, and every destination
    that has one of the packet's endpoints is among those that acknowledged. -/
def SideSatisfied (routes : Map Int32 DiscoveryRoute) (pkt : PacketData) (acked : Finset UInt64) (sideId : Int32) : Prop :=
  ∃ route, routes.lookup sideId = some route ∧ route.announcers.entries ≠ [] ∧
    (∃ a ∈ route.announcers.entries, KnowsDestination a) ∧
    ∀ a ∈ route.announcers.entries, ∀ board, a.2.Destination board → board.matchesAny pkt.endpoints = true →
      senderHash board.senderId ∈ acked

/-! ## The loop over the announcers -/

namespace SideDestinations

/-- Some board of the announcer is a destination that is pending. -/
theorem pendingBoard_iff (pkt : PacketData) (acked : Finset UInt64) (a : (_ : Bytes) × SenderState) :
    ((a.2.topologyBoards.filter fun board => isEndToEndDestinationSender board.senderId).any fun board =>
      board.matchesAny pkt.endpoints && decide (senderHash board.senderId ∉ acked)) = true ↔ StillPending pkt acked a := by
  rw [List.any_eq_true]
  constructor
  · rintro ⟨board, hmem, hpending⟩
    obtain ⟨hboard, hdest⟩ := List.mem_filter.mp hmem
    obtain ⟨hmatches, hunacked⟩ := Bool.and_eq_true_iff.mp hpending
    exact ⟨board, ⟨hboard, hdest⟩, hmatches, of_decide_eq_true hunacked⟩
  · rintro ⟨board, ⟨hboard, hdest⟩, hmatches, hunacked⟩
    exact ⟨board, List.mem_filter.mpr ⟨hboard, hdest⟩, Bool.and_eq_true_iff.mpr ⟨hmatches, decide_eq_true hunacked⟩⟩

/-- Some board of the announcer is a destination. -/
theorem destinationBoard_iff (a : (_ : Bytes) × SenderState) :
    (!(a.2.topologyBoards.filter fun board => isEndToEndDestinationSender board.senderId).isEmpty) = true ↔
      ∃ board, a.2.Destination board := by
  rw [Bool.not_eq_true', Bool.eq_false_iff, Ne, List.isEmpty_iff, List.filter_eq_nil_iff]
  simp [SenderState.Destination]

/-- One announcer, as long as nobody is pending. -/
theorem announcer_spec (pkt : PacketData) (acked : Finset UInt64) {found : SideDestinations} (hfound : found.stillPending = false) {a : (_ : Bytes) × SenderState}
    (hbare : a.2.topologyBoards = [] → a.2.endpoints = ∅) :
    ((found.announcer pkt acked a).stillPending = true ↔ StillPending pkt acked a) ∧
      ((found.announcer pkt acked a).hadDestinationBoard = true ↔ found.hadDestinationBoard = true ∨ KnowsDestination a) := by
  have hpending := pendingBoard_iff pkt acked a
  have hdestination := destinationBoard_iff a
  unfold announcer
  dsimp only
  rw [hfound, if_neg Bool.false_ne_true]
  generalize (a.2.topologyBoards.filter fun board => isEndToEndDestinationSender board.senderId).any _ = pending at hpending ⊢
  generalize (!(a.2.topologyBoards.filter fun board => isEndToEndDestinationSender board.senderId).isEmpty) = destination
    at hdestination ⊢
  split
  · rename_i hasked
    simp only [Bool.and_eq_true, Bool.not_eq_true', Bool.or_eq_false_iff] at hasked
    obtain ⟨⟨hnone, hempty⟩, hdest⟩ := hasked
    have hboards : a.2.topologyBoards = [] := List.isEmpty_iff.mp hempty
    -- without boards there are no endpoints to ask for
    have hnobody : pkt.endpoints.any (fun ep => decide (ep ∈ a.2.endpoints) && decide (senderHash a.1 ∉ acked)) = false := by
      rw [hbare hboards]
      simp
    rw [hnobody, Bool.or_false]
    refine ⟨hpending, iff_of_true rfl (.inr (.inr ⟨hboards, hdest⟩))⟩
  · rename_i hunasked
    refine ⟨hpending, ?_⟩
    unfold KnowsDestination
    rw [← hdestination, Bool.or_eq_true]
    constructor
    · exact fun h => h.imp_right .inl
    · rintro (hhad | hknown | ⟨hboards, hdest⟩)
      · exact .inl hhad
      · exact .inr hknown
      · by_contra hneither
        apply hunasked
        rw [hboards, hdest, ← Bool.or_eq_true] at *
        simp [Bool.eq_false_iff.mpr hneither]

/-- What the loop has found out does not depend on the order of the announcers. -/
theorem foldl_spec (pkt : PacketData) (acked : Finset UInt64) {as : List ((_ : Bytes) × SenderState)} (hbare : ∀ a ∈ as, a.2.topologyBoards = [] → a.2.endpoints = ∅)
    {found : SideDestinations} (hfound : found.stillPending = false) :
    ((as.foldl (announcer pkt acked) found).stillPending = true ↔ ∃ a ∈ as, StillPending pkt acked a) ∧
      ((as.foldl (announcer pkt acked) found).stillPending = false →
        ((as.foldl (announcer pkt acked) found).hadDestinationBoard = true ↔
          found.hadDestinationBoard = true ∨ ∃ a ∈ as, KnowsDestination a)) := by
  induction as generalizing found with
  | nil => simp [hfound]
  | cons a as ih =>
    obtain ⟨hpending, hhad⟩ := announcer_spec pkt acked hfound (hbare a List.mem_cons_self)
    rw [List.foldl_cons]
    cases hstep : (found.announcer pkt acked a).stillPending with
    | true =>
      -- nobody is asked any more
      have hstuck : ∀ (as : List ((_ : Bytes) × SenderState)) (found : SideDestinations), found.stillPending = true →
          as.foldl (announcer pkt acked) found = found := by
        intro as
        induction as with
        | nil => exact fun _ _ => rfl
        | cons b bs ih =>
          intro found hfound
          have hsame : found.announcer pkt acked b = found := if_pos hfound
          rw [List.foldl_cons, hsame]
          exact ih found hfound
      rw [hstuck as _ hstep, hstep]
      refine ⟨iff_of_true rfl ⟨a, List.mem_cons_self, hpending.mp hstep⟩, fun h => absurd h.symm Bool.false_ne_true⟩
    | false =>
      obtain ⟨hlater, hlaterHad⟩ := ih (fun b hb => hbare b (List.mem_cons_of_mem a hb)) hstep
      have hnot : ¬ StillPending pkt acked a := by
        rw [← hpending, hstep]
        exact Bool.false_ne_true
      refine ⟨?_, ?_⟩
      · rw [hlater, List.exists_mem_cons_iff]
        simp [hnot]
      · intro hdone
        rw [hlaterHad hdone, hhad, List.exists_mem_cons_iff, or_assoc]

end SideDestinations

/-! ## Sides -/

/-- An announcer without boards has no endpoints. -/
def Bare (routes : Map Int32 DiscoveryRoute) : Prop :=
  ∀ e ∈ routes.entries, ∀ a ∈ e.2.announcers.entries, a.2.topologyBoards = [] → a.2.endpoints = ∅

theorem RoutesConsistent.bare {routes : Map Int32 DiscoveryRoute} (h : RoutesConsistent routes) : Bare routes := by
  intro e he a ha hboards
  apply Finset.eq_empty_of_forall_notMem
  intro ep hep
  obtain ⟨board, hboard, -⟩ := (((h e he).announcers a ha).endpoints ep).mp hep
  rw [hboards] at hboard
  exact List.not_mem_nil hboard

namespace Owner.Reorders

variable {routes routes' : Map Int32 DiscoveryRoute}

theorem symm (h : Reorders routes routes') : Reorders routes' routes := by
  have hback : ∀ {e e'}, SameRoute e e' → SameRoute e' e := fun hsame =>
    ⟨hsame.1.symm, hsame.2.1.symm, hsame.2.2.1.symm, hsame.2.2.2.1.symm, hsame.2.2.2.2.symm⟩
  refine ⟨?_, ?_⟩
  · intro e' he'
    obtain ⟨e, he, hsame⟩ := h.back e' he'
    exact ⟨e, he, hback hsame⟩
  · intro e he
    obtain ⟨e', he', hsame⟩ := h.there e he
    exact ⟨e', he', hback hsame⟩

theorem bare (h : Reorders routes routes') (hbare : Bare routes) : Bare routes' := by
  intro e' he' a ha
  obtain ⟨e, he, -, -, -, -, hperm⟩ := h.back e' he'
  exact hbare e he a (hperm.mem_iff.mp ha)

theorem satisfied (h : Reorders routes routes') {pkt : PacketData} {acked : Finset UInt64} {sideId : Int32}
    (hsatisfied : SideSatisfied routes pkt acked sideId) : SideSatisfied routes' pkt acked sideId := by
  obtain ⟨route, hroute, hannounced, ⟨a, ha, hknows⟩, hall⟩ := hsatisfied
  obtain ⟨⟨sideId', route'⟩, he', hside, -, -, -, hperm⟩ := h.there _ (Map.mem_of_lookup hroute)
  dsimp only at hside hperm
  subst hside
  refine ⟨route', AList.mem_lookup_iff.mpr he', ?_, ⟨a, hperm.mem_iff.mpr ha, hknows⟩, ?_⟩
  · intro hnone
    rw [hnone] at hperm
    exact hannounced (List.nil_perm.mp hperm)
  · intro b hb
    exact hall b (hperm.mem_iff.mp hb)

end Owner.Reorders

namespace Relay

variable {r : Relay} {pkt : PacketData} {acked : Finset UInt64}

theorem sideUnsatisfied_iff (hbare : Bare r.discoveryRoutes) (sideId : Int32) :
    r.sideUnsatisfied pkt acked sideId = false ↔ SideSatisfied r.discoveryRoutes pkt acked sideId := by
  unfold sideUnsatisfied SideSatisfied
  cases hroute : r.discoveryRoutes.lookup sideId with
  | none => simp
  | some route =>
    obtain ⟨hpending, hhad⟩ := SideDestinations.foldl_spec pkt acked
      (fun a ha => hbare ⟨sideId, route⟩ (Map.mem_of_lookup hroute) a ha) (rfl : (⟨false, false⟩ : SideDestinations).stillPending = false)
    have hnobody : (route.announcers.entries.foldl (SideDestinations.announcer pkt acked) ⟨false, false⟩).stillPending = false ↔
        ∀ a ∈ route.announcers.entries, ∀ board, a.2.Destination board → board.matchesAny pkt.endpoints = true →
          senderHash board.senderId ∈ acked := by
      rw [Bool.eq_false_iff, Ne, hpending]
      unfold StillPending
      simp only [not_exists, not_and, not_not]
    dsimp only
    generalize route.announcers.entries.foldl (SideDestinations.announcer pkt acked) ⟨false, false⟩ = found at hhad hnobody ⊢
    simp only [Bool.or_eq_false_iff, Bool.not_eq_false', Option.some.injEq, exists_eq_left', ← hnobody]
    constructor
    · rintro ⟨⟨hannounced, hdone⟩, hknown⟩
      refine ⟨?_, ?_, hdone⟩
      · intro hnone
        rw [hnone] at hannounced
        cases hannounced
      · exact ((hhad hdone).mp hknown).resolve_left Bool.false_ne_true
    · rintro ⟨hannounced, hknown, hdone⟩
      exact ⟨⟨by simpa using hannounced, hdone⟩, (hhad hdone).mpr (.inr hknown)⟩

end Relay

/-- **A side is left out exactly when everyone behind it has acknowledged**, in every state that a relay can be in and for
    every packet with acknowledgements; the other sides stay, in their order, and in whatever order the hash tables are gone
    through. -/
theorem satisfiedSides_iff (S : Schema) (Z : Codec) (E : Env) (r₀ : Relay) (hnew : r₀.discoveryRoutes = ∅) (acts : List Relay.Act)
    (pkt : PacketData) (sides : List Int32) (acked : Finset UInt64) (hreliable : S.isReliableType pkt.ty = true)
    (hplain : isInternalControlType pkt.ty = false)
    (hacked : (runFrom (Relay.perform S Z E) r₀ acts).endToEndAckedDestinations.lookup (packetId S pkt) = some acked) :
    let r := runFrom (Relay.perform S Z E) r₀ acts
    (∃ keep : Int32 → Bool, (r.filterEndToEndSatisfiedSides S pkt sides).1 = sides.filter keep ∧
      ∀ sideId, keep sideId = false ↔ SideSatisfied r.discoveryRoutes pkt acked sideId) ∧
    ∀ r' : Relay, r'.endToEndAckedDestinations = r.endToEndAckedDestinations → Owner.Reorders r.discoveryRoutes r'.discoveryRoutes →
      (r'.filterEndToEndSatisfiedSides S pkt sides).1 = (r.filterEndToEndSatisfiedSides S pkt sides).1 := by
  intro r
  have hbare : Bare r.discoveryRoutes :=
    ((hnew ▸ RoutesConsistent.empty).learns (Relay.run_moves S Z E r₀ acts).routes).bare
  have hfilter : ∀ r' : Relay, r'.endToEndAckedDestinations = r.endToEndAckedDestinations →
      (r'.filterEndToEndSatisfiedSides S pkt sides).1 = sides.filter (r'.sideUnsatisfied pkt acked) := by
    intro r' hsame
    have hlookup : r'.endToEndAckedDestinations.lookup (packetId S pkt) = some acked := by
      rw [hsame]
      exact hacked
    unfold Relay.filterEndToEndSatisfiedSides Owner.packetId
    rw [hreliable, hplain]
    dsimp only
    rw [if_neg (by simp), hlookup]
    rfl
  refine ⟨⟨r.sideUnsatisfied pkt acked, hfilter r rfl, Relay.sideUnsatisfied_iff hbare⟩, ?_⟩
  intro r' hsame horder
  rw [hfilter r' hsame, hfilter r rfl]
  apply List.filter_congr
  intro sideId _
  have hiff : r'.sideUnsatisfied pkt acked sideId = false ↔ r.sideUnsatisfied pkt acked sideId = false := by
    rw [Relay.sideUnsatisfied_iff hbare, Relay.sideUnsatisfied_iff (horder.bare hbare)]
    exact ⟨horder.symm.satisfied, horder.satisfied⟩
  cases hkeep : r.sideUnsatisfied pkt acked sideId with
  | false => exact hiff.mpr hkeep
  | true =>
    rw [← Bool.not_eq_false, hiff, hkeep]
    exact Bool.noConfusion

/-- A relay hears of the node `A` on its first side, and then of the node's acknowledgement of the GPS report. -/
def acknowledgedActs : List Relay.Act :=
  [.rxPacketFromSide 0 (cardAnnouncement (ascii "A")), .receiveNext, .rxPacketFromSide 0 (gpsAck (ascii "A")), .receiveNext]

/-- The report then goes to the second side alone. -/
theorem satisfiedSides_iff_acknowledged :
    let r := runFrom (Relay.perform defaultTestSchema (.absent 16) .calm) (.new [.serialized [] true, .serialized [] true])
      acknowledgedActs
    (r.filterEndToEndSatisfiedSides defaultTestSchema gpsPacket [0, 1]).1 = [1] ∧
      SideSatisfied r.discoveryRoutes gpsPacket {senderHash (ascii "A")} 0 := by
  have hrun :
      let r := runFrom (Relay.perform defaultTestSchema (.absent 16) .calm) (.new [.serialized [] true, .serialized [] true])
        acknowledgedActs
      r.endToEndAckedDestinations.lookup (packetId defaultTestSchema gpsPacket) = some {senderHash (ascii "A")} ∧
        (r.filterEndToEndSatisfiedSides defaultTestSchema gpsPacket [0, 1]).1 = [1] := by
    rw [defaultTestSchema_eq]
    decide +kernel
  have hty : defaultTestSchema.isReliableType gpsPacket.ty = true := by
    rw [defaultTestSchema_eq]
    decide +kernel
  have hiff := satisfiedSides_iff defaultTestSchema (.absent 16) .calm (.new [.serialized [] true, .serialized [] true]) rfl
    acknowledgedActs gpsPacket [0, 1] {senderHash (ascii "A")} hty rfl
  generalize runFrom (Relay.perform defaultTestSchema (.absent 16) .calm) (.new [.serialized [] true, .serialized [] true])
    acknowledgedActs = r at hiff hrun
  obtain ⟨⟨keep, hkeep, hsatisfied⟩, -⟩ := hiff hrun.1
  refine ⟨hrun.2, (hsatisfied 0).mp ?_⟩
  have hleft : (0 : Int32) ∉ [0, 1].filter keep := by
    rw [← hkeep, hrun.2]
    decide
  simpa using hleft

end SedsNet
