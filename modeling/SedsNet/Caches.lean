import SedsNet.Evicted
import SedsNet.Satisfied

/-!
# The caches of a router and of a relay

A router and a relay note the side from which a packet came (`reliable_return_routes`), a router the packets that wait for
end-to-end ACKs (`end_to_end_reliable_tx`), and a relay the destinations that have acknowledged one
(`end_to_end_acked_destinations`). Each table has its list of ids, and the bound of the list is read from the tuning when an id
is remembered. `caches_bounded` says that the bounds hold in every state that is reached at one tuning.
-/

set_option autoImplicit false

namespace SedsNet

open Lib

/-- The setting, if it is one of the tuning, is this tuning. -/
def Setting.KeepsTuning (tuning : Tuning) : Setting → Prop
  | .setRuntimeTuningConfig new => new = tuning
  | _ => True

namespace Owner

/-- The tuning stays, and so does what is promised of the return routes. -/
structure Steady (o o' : Owner) : Prop where
  tuning : o'.tuning = o.tuning
  returns : o.ReturnsListed → o'.ReturnsListed

namespace Steady

variable {o o' o'' : Owner}

theorem refl (o : Owner) : Steady o o := ⟨rfl, fun hlisted => hlisted⟩

theorem trans (h : Steady o o') (h' : Steady o' o'') : Steady o o'' :=
  ⟨h'.tuning.trans h.tuning, fun hlisted => h'.returns (h.returns hlisted)⟩

theorem of_emits {P : TxItem → Prop} {Q : Obs → Prop} (h : Emits P Q o o') : Steady o o' := ⟨h.tuning, h.returns⟩

/-- Other members change. -/
theorem of_eq (htuning : o'.tuning = o.tuning) (horder : o'.reliableReturnRouteOrder = o.reliableReturnRouteOrder)
    (hroutes : o'.reliableReturnRoutes = o.reliableReturnRoutes) : Steady o o' := by
  refine ⟨htuning, fun hlisted => ?_⟩
  unfold ReturnsListed
  rw [htuning, horder, hroutes]
  exact hlisted

end Steady

section

variable (S : Schema) (E : Env)

theorem removeSide_steady (o : Owner) (sideId : Int32) : Steady o (o.removeSide E sideId) := by
  refine ⟨rfl, fun hlisted => hlisted.less ?_⟩
  intro id hid
  obtain ⟨side, hside⟩ := Map.mem_iff_lookup.mp hid
  exact Map.mem_iff_lookup.mpr ⟨side, lookup_of_keepIf hside⟩

theorem onSide_steady (o : Owner) (sideId : Int32) {f : Owner → Owner} (hf : Steady o (f o)) :
    Steady o (o.onSide sideId f).2 := by
  unfold onSide
  split
  · exact .refl o
  · exact hf

/-- A setting that is not of the tuning leaves it as it is. The routes that a removed side takes with it leave their ids in
    the list. -/
theorem configure_steady (o : Owner) {setting : Setting} (hkeeps : setting.KeepsTuning o.tuning) :
    Steady o (o.configure S E setting).2 := by
  have hpolicy : ∀ (src : Int32) (f : RoutePolicy → RoutePolicy), Steady o (o.modifyPolicy src f) := by
    intro src f
    unfold modifyPolicy
    split
    · exact .of_eq rfl rfl rfl
    · exact .of_eq rfl rfl rfl
  cases setting with
  | removeSide sideId => exact onSide_steady o sideId (removeSide_steady E o sideId)
  | setSideIngressEnabled sideId enabled => exact onSide_steady o sideId (.of_eq rfl rfl rfl)
  | setSideEgressEnabled sideId enabled =>
    apply onSide_steady
    unfold setSideEgressEnabled
    dsimp only
    split
    · exact .of_eq rfl rfl rfl
    · exact .of_eq rfl rfl rfl
  | setSideLinkLocalEnabled sideId enabled => exact onSide_steady o sideId (.of_eq rfl rfl rfl)
  | setTypedRoute src ty dst enabled =>
    dsimp only [configure]
    split
    · exact .refl o
    · exact .of_eq rfl rfl rfl
  | setSourceRouteMode src mode =>
    dsimp only [configure]
    apply hpolicy
  | setRouteWeight src dst weight =>
    dsimp only [configure]
    apply hpolicy
  | clearRouteWeight src dst =>
    dsimp only [configure]
    apply hpolicy
  | setRoutePriority src dst priority =>
    dsimp only [configure]
    apply hpolicy
  | clearRoutePriority src dst =>
    dsimp only [configure]
    apply hpolicy
  | setRuntimeTuningConfig tuning =>
    have hsame : tuning = o.tuning := hkeeps
    subst hsame
    dsimp only [configure]
    split
    · exact .of_eq rfl rfl rfl
    · exact .refl o
  | _ => exact .of_eq rfl rfl rfl

end

end Owner

/-! ## One act -/

section

variable {S : Schema} {Z : Codec} {E : Env}

namespace Router

/-- An act that keeps the tuning. -/
def Act.KeepsTuning (tuning : Tuning) : Act → Prop
  | .configure setting => setting.KeepsTuning tuning
  | _ => True

/-- What is promised of the packets that wait for end-to-end ACKs. -/
def TracksListed (r : Router) : Prop :=
  Cached r.tuning.reliableMaxEndToEndPending r.endToEndReliableTxOrder r.endToEndReliableTx

/-- **Every act** keeps the tuning and what is promised of the return routes. -/
theorem perform_steady (r : Router) {act : Act} (hkeeps : act.KeepsTuning r.tuning) :
    Owner.Steady r.toOwner (perform S Z E r act).toOwner := by
  by_cases hconf : ∃ setting, act = .configure setting
  · obtain ⟨setting, rfl⟩ := hconf
    have hnoted : Owner.Steady r.toOwner (r.toOwner.observe .configures) := .of_eq rfl rfl rfl
    exact hnoted.trans (Owner.configure_steady S E _ hkeeps)
  · have hsilent : ∀ e : Obs, e.silent = true → e ≠ .configures := by
      rintro e he rfl
      cases he
    have hsends : Sends (fun _ => True) (· ≠ .configures) (fun _ _ => True) S Z E r act :=
      .of_any hsilent (fun _ => by simp) (fun setting h => absurd ⟨setting, h⟩ hconf) (fun _ _ _ _ => by simp)
        (fun _ _ _ _ _ _ _ => by simp) (fun _ _ => by simp)
        (fun _ _ _ _ _ _ _ => ⟨by simp, fun _ => by simp, fun _ _ _ _ => by simp, by simp⟩)
    have hmoves := (perform_moves S (grants_of_silent hsilent) Z E hsends.demands).owner
    exact ⟨hmoves.tuning fun h => h rfl, hmoves.returns fun h => h rfl⟩

/-! ### Packets that wait -/

theorem processEndToEndReliableTimeouts_order (r : Router) :
    (r.processEndToEndReliableTimeouts S E).endToEndReliableTxOrder = r.endToEndReliableTxOrder := by
  have hreconciled : ∀ (entries : List ((_ : UInt64) × EndToEndReliableSent)) (r : Router),
      (entries.foldl (reconcileEntry S E) r).endToEndReliableTxOrder = r.endToEndReliableTxOrder := by
    intro entries
    induction entries with
    | nil => exact fun _ => rfl
    | cons e entries ih => exact fun r => (ih _).trans (reconcileEntry_order e)
  have hrequeued : ∀ (now : UInt64) (ids : List UInt64) (r : Router),
      (ids.foldl (requeueEndToEnd now) r).endToEndReliableTxOrder = r.endToEndReliableTxOrder := by
    intro now ids
    induction ids with
    | nil => exact fun _ => rfl
    | cons id ids ih =>
      intro r
      refine (ih _).trans ?_
      unfold requeueEndToEnd
      split
      · rfl
      · dsimp only
        split
        · rfl
        · rfl
  unfold processEndToEndReliableTimeouts reconcileEndToEndReliableDestinations
  dsimp only
  rw [hrequeued]
  exact hreconciled _ _

/-- Only where a packet is remembered the list changes. -/
theorem bookStep_order (r : Router) {e : BookEvent} (hquiet : e.Sound False) :
    (bookStep S E r e).endToEndReliableTxOrder = r.endToEndReliableTxOrder := by
  cases e with
  | rememberEndToEnd pkt pending => exact hquiet.1.elim
  | endToEndAck pkt =>
    show (r.handleEndToEndAck pkt).endToEndReliableTxOrder = _
    unfold handleEndToEndAck
    dsimp only
    split
    · rfl
    · split
      · rfl
      · split
        · rfl
        · rfl
  | endToEndTimeouts => exact processEndToEndReliableTimeouts_order r
  | timesyncPacket pkt srcSide => exact (handleTimesyncPacket_keeps pkt srcSide).1
  | pollTimesync => exact pollTimesync_keeps.1
  | configureTimesync enabled role priority sourceTimeoutMs announceIntervalMs requestIntervalMs =>
    show (r.configureTimesync E enabled role priority sourceTimeoutMs announceIntervalMs requestIntervalMs).endToEndReliableTxOrder = _
    unfold configureTimesync
    dsimp only
    split
    · rfl
    · rfl
  | getNetworkTimeMs => exact getNetworkTimeMs_keeps.1
  | setLocalNetworkTime unixMs => rfl
  | clearLocalNetworkTime => rfl
  | clearNetworkTimeSource source => rfl
  | elsewhere f => exact (KeepsPackets.of_books (f.books r)).1

theorem Writes.order {r r' : Router} (h : Writes S E False r r') : r'.endToEndReliableTxOrder = r.endToEndReliableTxOrder :=
  h.invariant (I := fun x => x.endToEndReliableTxOrder = r.endToEndReliableTxOrder) rfl
    fun x _ hquiet hkept => (bookStep_order x hquiet).trans hkept

/-- The list is within the bound that the tuning gives it. -/
def OrderCapped (r : Router) : Prop := r.endToEndReliableTxOrder.length ≤ max 1 r.tuning.reliableMaxEndToEndPending

theorem trackEndToEnd_capped {r : Router} (pkt : PacketData) (sides : List Int32) (h : r.OrderCapped) :
    (r.trackEndToEnd S E pkt sides).OrderCapped := by
  unfold trackEndToEnd
  split
  · dsimp only
    split
    · exact h
    · -- the bound that is read here is that of the tuning afterwards
      exact length_rememberId
  · exact h

theorem transmitItem_capped {r : Router} (item : TxItem) (h : r.OrderCapped) : (r.transmitItem S Z E item).2.OrderCapped := by
  have hcongr : ∀ {r r' : Router}, r.OrderCapped → r'.tuning = r.tuning → r'.books = r.books → r'.OrderCapped := by
    intro r r' h htuning hbooks
    unfold OrderCapped
    rw [htuning, (KeepsPackets.of_books hbooks).1]
    exact h
  have hallows : Owner.Allows (fun _ => True) (fun _ => True) S := (grants_of_silent fun _ _ => trivial).allows
  have hlocal : (deliverLocal S Z E r item).2.OrderCapped :=
    hcongr h (deliverLocal_does (M := fun _ => True) (K := fun _ _ => True) S hallows Z E r item).emits.tuning
      (deliverLocal_books S Z E r item)
  unfold transmitItem
  generalize deliverLocal S Z E r item = p at hlocal
  obtain ⟨ok, r₁⟩ := p
  cases ok with
  | false => exact hlocal
  | true =>
    have htargets := Owner.targets_emits (P := fun _ => True) (Q := fun _ => True) S E r₁.toOwner item (r₁.preferredSource item.pkt)
    have hchosen : (r₁.setOwner (r₁.toOwner.targets S E item (r₁.preferredSource item.pkt)).2).OrderCapped :=
      hcongr hlocal htargets.tuning rfl
    have htracked := trackEndToEnd_capped (S := S) (E := E) item.pkt (r₁.toOwner.targets S E item (r₁.preferredSource item.pkt)).1 hchosen
    dsimp only
    refine hcongr htracked ?_ rfl
    exact (Owner.routerTransmitTo_emits (P := fun _ => True) (Q := fun _ => True) S hallows Z E _ _ _ _ _
      fun _ _ _ _ => ⟨trivial, fun _ _ => trivial, fun _ _ _ _ => trivial, trivial⟩).tuning

theorem perform_capped {r : Router} {act : Act} (hkeeps : act.KeepsTuning r.tuning) (h : r.OrderCapped) :
    (perform S Z E r act).OrderCapped := by
  by_cases htransmit : act = .transmitNext
  · subst htransmit
    show (r.transmitNext S Z E).2.OrderCapped
    unfold transmitNext
    split
    · exact h
    · rename_i item queue hpop
      have hpopped : (r.setOwner { r.toOwner with txQueue := queue }).OrderCapped := h
      have hsent := transmitItem_capped (S := S) (Z := Z) (E := E) item hpopped
      dsimp only
      split
      · have hback : Owner.Emits (fun _ => True) (fun _ => True)
            ((r.setOwner { r.toOwner with txQueue := queue }).transmitItem S Z E item).2.toOwner
            (((r.setOwner { r.toOwner with txQueue := queue }).transmitItem S Z E item).2.toOwner.enqueueTxAt true item) :=
          .enqueueTxAt true _ trivial
        refine le_of_le_of_eq hsent ?_
        exact congrArg (fun tuning : Tuning => max 1 tuning.reliableMaxEndToEndPending) hback.tuning.symm
      · exact hsent
  · have hwrites : Writes S E False r (perform S Z E r act) := perform_writes S Z E r fun hsame => htransmit hsame
    unfold OrderCapped
    rw [hwrites.order, (perform_steady r hkeeps).tuning]
    exact h

/-- The caches of a router are within their bounds. -/
structure CachesBounded (r : Router) : Prop where
  returns : Cached r.tuning.reliableMaxReturnRoutes r.reliableReturnRouteOrder r.reliableReturnRoutes
  tracks : Cached r.tuning.reliableMaxEndToEndPending r.endToEndReliableTxOrder r.endToEndReliableTx

/-- A router that has noted nothing yet. -/
structure Unnoted (r : Router) : Prop where
  returns : r.reliableReturnRoutes = ∅
  returnOrder : r.reliableReturnRouteOrder = []
  tracks : r.endToEndReliableTx = ∅
  trackOrder : r.endToEndReliableTxOrder = []

end Router

/-! ## Relays -/

namespace Relay

/-- An act that keeps the tuning. -/
def Act.KeepsTuning (tuning : Tuning) : Act → Prop
  | .configure setting => setting.KeepsTuning tuning
  | _ => True

theorem perform_steady (r : Relay) {act : Act} (hkeeps : act.KeepsTuning r.tuning) :
    Owner.Steady r.toOwner (perform S Z E r act).toOwner := by
  by_cases hconf : ∃ setting, act = .configure setting
  · obtain ⟨setting, rfl⟩ := hconf
    have hnoted : Owner.Steady r.toOwner (r.toOwner.observe .configures) := .of_eq rfl rfl rfl
    exact hnoted.trans (Owner.configure_steady S E _ hkeeps)
  · have hsilent : ∀ e : Obs, e.silent = true → e ≠ .configures := by
      rintro e he rfl
      cases he
    have hsends : Sends (fun _ => True) (· ≠ .configures) S Z E r act :=
      ⟨hsilent, fun _ => by simp, fun setting h => absurd ⟨setting, h⟩ hconf, fun _ _ => trivial, fun _ _ _ _ => by simp,
        fun _ _ _ _ _ _ => by simp, fun _ _ _ _ _ => trivial,
        fun _ _ _ _ _ _ _ => ⟨by simp, fun _ => by simp, fun _ _ _ _ => by simp, by simp⟩⟩
    have hmoves := perform_moves S (Router.grants_of_silent hsilent) Z E hsends.demands
    exact ⟨hmoves.tuning fun h => h rfl, hmoves.returns fun h => h rfl⟩

/-- What is promised of the destinations that have acknowledged a packet: each listed id has its set, and no set is larger
    than the tuning allows. -/
structure AckedBounded (r : Relay) : Prop where
  cached : Cached r.tuning.reliableMaxEndToEndAckCache r.endToEndAckedDestinationOrder r.endToEndAckedDestinations
  complete : ∀ id ∈ r.endToEndAckedDestinationOrder, id ∈ r.endToEndAckedDestinations
  members : ∀ id senders, r.endToEndAckedDestinations.lookup id = some senders →
    senders.card ≤ max 1 r.tuning.reliableMaxEndToEndPending

theorem AckedBounded.congr {r r' : Relay} (h : r.AckedBounded) (htuning : r'.tuning = r.tuning)
    (hmap : r'.endToEndAckedDestinations = r.endToEndAckedDestinations)
    (horder : r'.endToEndAckedDestinationOrder = r.endToEndAckedDestinationOrder) : r'.AckedBounded := by
  refine ⟨?_, ?_, ?_⟩
  · rw [htuning, hmap, horder]
    exact h.cached
  · rw [hmap, horder]
    exact h.complete
  · rw [htuning, hmap]
    exact h.members

/-- One more destination, where there is room for it. -/
theorem card_noted {cap : Nat} {senders : Finset UInt64} {hash : UInt64} (hcap : senders.card ≤ cap) :
    (if senders.card < cap ∨ hash ∈ senders then insert hash senders else senders).card ≤ cap := by
  split
  · rename_i hroom
    rcases hroom with hroom | hknown
    · exact (Finset.card_insert_le hash senders).trans hroom
    · rw [Finset.insert_eq_of_mem hknown]
      exact hcap
  · exact hcap

theorem noteEndToEndAckedDestination_bounded {r : Relay} (h : r.AckedBounded) (id hash : UInt64) :
    (r.noteEndToEndAckedDestination id hash).AckedBounded := by
  refine ⟨h.cached.remember id _, listed_remembered h.cached.nodup h.complete id _, ?_⟩
  unfold noteEndToEndAckedDestination
  dsimp only
  generalize (rememberId r.tuning.reliableMaxEndToEndAckCache r.endToEndAckedDestinationOrder id).1 = gone
  have hleft : ∀ x senders, (gone.foldl (fun m old => m.erase old) r.endToEndAckedDestinations).lookup x = some senders →
      senders.card ≤ max 1 r.tuning.reliableMaxEndToEndPending := by
    intro x senders hsenders
    rw [Map.lookup_foldl_erase] at hsenders
    split at hsenders
    · cases hsenders
    · exact h.members x senders hsenders
  generalize gone.foldl (fun m old => m.erase old) r.endToEndAckedDestinations = acked at hleft
  intro x senders hsenders
  by_cases hsame : x = id
  · subst hsame
    rw [AList.lookup_insert, Option.some.injEq] at hsenders
    subst hsenders
    apply card_noted
    unfold Map.getOr
    cases hfound : acked.lookup x with
    | none => simp
    | some senders => exact hleft x senders hfound
  · rw [AList.lookup_insert_ne hsame] at hsenders
    exact hleft x senders hsenders

theorem forwardEndToEndAck_bounded {r : Relay} (h : r.AckedBounded) (pkt : PacketData) (srcSide : Option Int32) :
    (r.forwardEndToEndAck pkt srcSide).AckedBounded := by
  have hqueued : ∀ {r' : Relay} (item : TxItem), r'.AckedBounded → (r'.setOwner (r'.toOwner.enqueueTx item)).AckedBounded :=
    fun item h' => h'.congr (Owner.Emits.enqueueTxAt (P := fun _ => True) (Q := fun _ => True) false _ trivial).tuning rfl rfl
  unfold forwardEndToEndAck
  dsimp only
  cases decodeEndToEndAckSenderHash pkt.sender with
  | none =>
    split
    · exact hqueued _ h
    · exact h
  | some hash =>
    have hnoted := noteEndToEndAckedDestination_bounded h (loadLe64 pkt.payload 0) hash
    dsimp only
    split
    · exact hqueued _ hnoted
    · exact hnoted

/-- Only an end-to-end ACK is noted. -/
theorem relayReceiveImpl_bounded {r : Relay} (h : r.AckedBounded) (pkt : PacketData) (srcSide : Option Int32) :
    (r.relayReceiveImpl S E pkt srcSide).AckedBounded := by
  have hreceives : Receives (fun _ => True) (fun _ => True) S E r pkt srcSide :=
    ⟨fun o => .observe o trivial, fun o => .observe o trivial, fun _ => trivial, fun _ _ => trivial, fun _ _ _ => trivial, fun _ => trivial⟩
  have htuning := (relayReceiveImpl_emits hreceives).tuning
  have hnoted : Owner.Emits (fun _ => True) (fun _ => True) r.toOwner
      ((r.toOwner.packetId S pkt).2.noteReturnRoutes S pkt srcSide (r.toOwner.packetId S pkt).1) :=
    (Owner.Emits.observe _ trivial).trans (Owner.noteReturnRoutes_emits S _ (fun o => .observe o trivial) srcSide _)
  have hcases : r.relayReceiveImpl S E pkt srcSide = Relay.forwardEndToEndAck { r with
        toOwner := (r.toOwner.packetId S pkt).2.noteReturnRoutes S pkt srcSide (r.toOwner.packetId S pkt).1 } pkt srcSide ∨
      (r.relayReceiveImpl S E pkt srcSide).endToEndAckedDestinations = r.endToEndAckedDestinations ∧
        (r.relayReceiveImpl S E pkt srcSide).endToEndAckedDestinationOrder = r.endToEndAckedDestinationOrder := by
    unfold relayReceiveImpl
    dsimp only
    split
    · split
      · exact .inl rfl
      · exact .inr ⟨rfl, rfl⟩
    · exact .inr ⟨rfl, rfl⟩
  rcases hcases with hforward | ⟨hmap, horder⟩
  · have hafter : AckedBounded { r with
        toOwner := (r.toOwner.packetId S pkt).2.noteReturnRoutes S pkt srcSide (r.toOwner.packetId S pkt).1 } :=
      h.congr hnoted.tuning rfl rfl
    rw [hforward]
    exact forwardEndToEndAck_bounded hafter pkt srcSide
  · exact h.congr htuning hmap horder

theorem transmitNext_acked (r : Relay) : (transmitNext S Z E r).2.endToEndAckedDestinations = r.endToEndAckedDestinations ∧
    (transmitNext S Z E r).2.endToEndAckedDestinationOrder = r.endToEndAckedDestinationOrder := by
  unfold transmitNext
  split
  · exact ⟨rfl, rfl⟩
  · unfold transmitItem filterEndToEndSatisfiedSides
    dsimp only
    split
    · split
      · exact ⟨rfl, rfl⟩
      · exact ⟨rfl, rfl⟩
    · split
      · split
        · exact ⟨rfl, rfl⟩
        · exact ⟨rfl, rfl⟩
      · split
        · exact ⟨rfl, rfl⟩
        · exact ⟨rfl, rfl⟩

theorem perform_bounded {r : Relay} {act : Act} (hkeeps : act.KeepsTuning r.tuning) (h : r.AckedBounded) :
    (perform S Z E r act).AckedBounded := by
  have htuning := (perform_steady (S := S) (Z := Z) (E := E) r hkeeps).tuning
  cases act with
  | receiveNext =>
    show (r.receiveNext S E).AckedBounded
    unfold receiveNext
    split
    · exact h
    · rename_i item queue hpop
      have hpopped : ({ r with toOwner := { r.toOwner with rxQueue := queue }.observe (.receive item) } : Relay).AckedBounded :=
        h.congr rfl rfl rfl
      exact relayReceiveImpl_bounded hpopped item.pkt item.srcSide
  | transmitNext =>
    obtain ⟨hmap, horder⟩ := transmitNext_acked (S := S) (Z := Z) (E := E) r
    exact h.congr htuning hmap horder
  | _ => exact h.congr htuning rfl rfl

/-- The caches of a relay are within their bounds. -/
structure CachesBounded (r : Relay) : Prop extends r.AckedBounded where
  returns : Cached r.tuning.reliableMaxReturnRoutes r.reliableReturnRouteOrder r.reliableReturnRoutes

/-- A relay that has noted nothing yet. -/
structure Unnoted (r : Relay) : Prop where
  returns : r.reliableReturnRoutes = ∅
  returnOrder : r.reliableReturnRouteOrder = []
  acked : r.endToEndAckedDestinations = ∅
  ackedOrder : r.endToEndAckedDestinationOrder = []

end Relay

end

/-! ## Runs -/

section

variable (S : Schema) (Z : Codec) (E : Env)

theorem Router.Unnoted.bounded {r : Router} (h : r.Unnoted) : r.CachesBounded := by
  refine ⟨?_, ?_⟩
  · rw [h.returns, h.returnOrder]
    exact .empty
  · rw [h.tracks, h.trackOrder]
    exact .empty

theorem Relay.Unnoted.bounded {r : Relay} (h : r.Unnoted) : r.CachesBounded := by
  refine ⟨⟨?_, ?_, ?_⟩, ?_⟩
  · rw [h.acked, h.ackedOrder]
    exact .empty
  · rw [h.ackedOrder]
    exact fun _ hid => absurd hid List.not_mem_nil
  · intro id senders hsenders
    rw [h.acked, AList.lookup_empty] at hsenders
    cases hsenders
  · rw [h.returns, h.returnOrder]
    exact .empty

/-- What is kept along a run of acts that keep the tuning. -/
theorem Router.run_cached (r : Router) (acts : List Router.Act) (hkeeps : ∀ act ∈ acts, act.KeepsTuning r.tuning)
    (hcapped : r.OrderCapped) :
    Owner.Steady r.toOwner (runFrom (Router.perform S Z E) r acts).toOwner ∧
      (runFrom (Router.perform S Z E) r acts).OrderCapped := by
  induction acts generalizing r with
  | nil => exact ⟨.refl _, hcapped⟩
  | cons act acts ih =>
    have hact := hkeeps act List.mem_cons_self
    have hsteady := Router.perform_steady (S := S) (Z := Z) (E := E) r hact
    have hrest : ∀ act' ∈ acts, act'.KeepsTuning (Router.perform S Z E r act).tuning := by
      intro act' hact'
      rw [hsteady.tuning]
      exact hkeeps act' (List.mem_cons_of_mem act hact')
    obtain ⟨hrun, hended⟩ := ih (Router.perform S Z E r act) hrest (Router.perform_capped hact hcapped)
    exact ⟨hsteady.trans hrun, hended⟩

theorem Relay.run_cached (r : Relay) (acts : List Relay.Act) (hkeeps : ∀ act ∈ acts, act.KeepsTuning r.tuning)
    (hacked : r.AckedBounded) :
    Owner.Steady r.toOwner (runFrom (Relay.perform S Z E) r acts).toOwner ∧
      (runFrom (Relay.perform S Z E) r acts).AckedBounded := by
  induction acts generalizing r with
  | nil => exact ⟨.refl _, hacked⟩
  | cons act acts ih =>
    have hact := hkeeps act List.mem_cons_self
    have hsteady := Relay.perform_steady (S := S) (Z := Z) (E := E) r hact
    have hrest : ∀ act' ∈ acts, act'.KeepsTuning (Relay.perform S Z E r act).tuning := by
      intro act' hact'
      rw [hsteady.tuning]
      exact hkeeps act' (List.mem_cons_of_mem act hact')
    obtain ⟨hrun, hended⟩ := ih (Relay.perform S Z E r act) hrest (Relay.perform_bounded hact hacked)
    exact ⟨hsteady.trans hrun, hended⟩

/-- **The caches stay within their bounds.** Whatever a router or a relay does at one tuning, no list names an id twice or is
    longer than its bound, no table has an entry that is not listed, every id in the list of a relay's acknowledged packets has
    its set, and no such set is larger than its bound. -/
theorem caches_bounded :
    (∀ (r : Router) (acts : List Router.Act), r.Unnoted → (∀ act ∈ acts, act.KeepsTuning r.tuning) →
      (runFrom (Router.perform S Z E) r acts).tuning = r.tuning ∧ (runFrom (Router.perform S Z E) r acts).CachesBounded) ∧
    ∀ (r : Relay) (acts : List Relay.Act), r.Unnoted → (∀ act ∈ acts, act.KeepsTuning r.tuning) →
      (runFrom (Relay.perform S Z E) r acts).tuning = r.tuning ∧ (runFrom (Relay.perform S Z E) r acts).CachesBounded := by
  refine ⟨?_, ?_⟩
  · intro r acts hunnoted hkeeps
    have hbounded := hunnoted.bounded
    obtain ⟨hsteady, hcapped⟩ := Router.run_cached S Z E r acts hkeeps hbounded.tracks.capped
    -- which ids are listed is kept whatever the tuning
    have hstart : r.Listed := .empty hunnoted.tracks hunnoted.trackOrder
    have hlisted : (runFrom (Router.perform S Z E) r acts).Listed :=
      (Router.runFrom_writes S Z E r acts).invariant hstart fun r e hsound h => h.step hsound
    refine ⟨hsteady.tuning, hsteady.returns hbounded.returns, hlisted.nodup, hcapped, ?_⟩
    intro id hid
    obtain ⟨sent, hsent⟩ := Map.mem_iff_lookup.mp hid
    exact hlisted.listed id sent hsent
  · intro r acts hunnoted hkeeps
    have hbounded := hunnoted.bounded
    obtain ⟨hsteady, hacked⟩ := Relay.run_cached S Z E r acts hkeeps hbounded.toAckedBounded
    exact ⟨hsteady.tuning, hacked, hsteady.returns hbounded.returns⟩

end

/-- A router that remembers one packet. -/
def forgetfulRouter : Router := { reportingRouter with tuning := { Tuning.default with reliableMaxEndToEndPending := 1 } }

/-- The router knows the node `A`, and sends two reports. -/
def twoReportsActs : List Router.Act := .receiveFromSide 0 (cardAnnouncement (ascii "A")) :: (sendReport 1 ++ sendReport 2)

theorem caches_bounded_reports :
    let r := runFrom (Router.perform defaultTestSchema (.absent 16) .paced) forgetfulRouter twoReportsActs
    let relay := runFrom (Relay.perform defaultTestSchema (.absent 16) .calm) (.new [.serialized [] true, .serialized [] true])
      acknowledgedActs
    (r.endToEndReliableTxOrder = [packetId defaultTestSchema (reportAt 2)] ∧ r.CachesBounded) ∧
      relay.endToEndAckedDestinationOrder = [packetId defaultTestSchema gpsPacket] ∧ relay.CachesBounded := by
  have hrun :
      let r := runFrom (Router.perform defaultTestSchema (.absent 16) .paced) forgetfulRouter twoReportsActs
      let relay := runFrom (Relay.perform defaultTestSchema (.absent 16) .calm) (.new [.serialized [] true, .serialized [] true])
        acknowledgedActs
      r.endToEndReliableTxOrder = [packetId defaultTestSchema (reportAt 2)] ∧
        relay.endToEndAckedDestinationOrder = [packetId defaultTestSchema gpsPacket] := by
    rw [defaultTestSchema_eq]
    decide +kernel
  have hrouter := (caches_bounded defaultTestSchema (.absent 16) .paced).1 forgetfulRouter twoReportsActs ⟨rfl, rfl, rfl, rfl⟩
    (by simp [twoReportsActs, sendReport, Router.Act.KeepsTuning])
  have hrelay := (caches_bounded defaultTestSchema (.absent 16) .calm).2 (.new [.serialized [] true, .serialized [] true])
    acknowledgedActs ⟨rfl, rfl, rfl, rfl⟩ (by simp [acknowledgedActs, Relay.Act.KeepsTuning])
  exact ⟨⟨hrun.1, hrouter.2⟩, hrun.2, hrelay.2⟩

end SedsNet
