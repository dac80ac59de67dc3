import SedsNet.Silence

/-!
# Link-local isolation

A packet whose endpoints are all link-local should stay on the sides that are marked for it. The filter is part of
route selection, and a packet that is queued for one side is not routed. So isolation rests on the functions that
queue such packets: control packets and announcements of the owner's own, the reply to a managed-variable request,
an end-to-end ACK on its way back through a relay, and end-to-end retransmissions.

What a retransmission sends was sent before, and the destinations of an end-to-end packet were filtered when they
were found. The replies and the ACKs on their way back are not filtered: `Isolating` is the condition that they
happen to go to a side that takes them.
-/

set_option autoImplicit false

namespace SedsNet

open Lib

/-- The call that marks a side for link-local traffic, or takes the mark away. -/
def Setting.marksLinkLocal : Setting → Bool
  | .setSideLinkLocalEnabled _ _ => true
  | _ => false

namespace Owner

/-- The side exists and is marked for link-local traffic. -/
def linkLocalAt (o : Owner) (sideId : Int32) : Bool := (o.sideAt sideId).any (·.linkLocalEnabled)

/-- `side_accepts_packet`, by the index of the side. -/
def accepts (S : Schema) (o : Owner) (sideId : Int32) (pkt : PacketData) : Bool :=
  !(S.packetRequiresLinkLocal pkt && !o.linkLocalAt sideId)

/-- What may go to the sides as they are marked in `o`, in a step that takes `front` off the transmit queue: that
    packet to a side that accepts it, and frames that were numbered for the side before. -/
def Confined (S : Schema) (Z : Codec) (front : Option TxItem) (o : Owner) : Obs → Prop
  | .packetTx sideId pkt => o.accepts S sideId pkt = true
  | .transmit sideId bytes =>
    (∃ ty seq, .number sideId ty seq bytes ∈ o.obs) ∨
      ∃ item ∈ front, Encodes S Z bytes item.pkt ∧ o.accepts S sideId item.pkt = true
  | .number sideId _ _ bytes => ∃ item ∈ front, Encodes S Z bytes item.pkt ∧ o.accepts S sideId item.pkt = true
  | _ => True

/-- From `o` to `o'` only that has happened. -/
def Isolated (S : Schema) (Z : Codec) (front : Option TxItem) (o o' : Owner) : Prop :=
  ∀ e ∈ o'.obs.drop o.obs.length, Confined S Z front o e

/-- Packets that are queued for one side are accepted there, and held frames were numbered for their side. -/
structure Separated (S : Schema) (o : Owner) : Prop where
  tx : ∀ item ∈ o.txQueue.items, ∀ sideId ∈ item.dstSide, o.accepts S sideId item.pkt = true
  held : ∀ key seq bytes, o.Holds key seq bytes → ∃ sideId ty, key = reliableKey sideId ty ∧ .number sideId ty seq bytes ∈ o.obs

section

variable {S : Schema} {Z : Codec} {o o' : Owner}

theorem sideOfKey_reliableKey (sideId : Int32) (ty : UInt32) : sideOfKey (reliableKey sideId ty) = sideId := by
  have hnum := toNat_reliableKey sideId ty
  have hty := ty.toNat_lt
  have hside := sideId.toUInt32.toNat_lt
  have hhigh : (reliableKey sideId ty >>> 32).toUInt32 = sideId.toUInt32 := by
    apply UInt32.toNat_inj.mp
    rw [UInt64.toNat_toUInt32, UInt64.toNat_shiftRight, hnum, show (32 : UInt64).toNat % 64 = 32 from rfl, Nat.shiftRight_eq_div_pow]
    omega
  unfold sideOfKey
  rw [hhigh]
  rfl

theorem accepts_of_public {pkt : PacketData} (h : S.packetRequiresLinkLocal pkt = false) (sideId : Int32) :
    o.accepts S sideId pkt = true := by
  unfold accepts
  rw [h]
  rfl

theorem accepts_of_sideAccepts {sideId : Int32} {side : Side} {pkt : PacketData} (hside : o.sideAt sideId = some side)
    (h : S.sideAcceptsPacket side pkt = true) : o.accepts S sideId pkt = true := by
  unfold accepts linkLocalAt
  rw [hside]
  exact h

theorem accepts_of_linkLocal {sideId : Int32} {pkt : PacketData} (hkept : o.linkLocalAt sideId = true → o'.linkLocalAt sideId = true)
    (h : o.accepts S sideId pkt = true) : o'.accepts S sideId pkt = true := by
  unfold accepts at h ⊢
  cases hlocal : o.linkLocalAt sideId with
  | true =>
    rw [hkept hlocal]
    simp
  | false =>
    rw [hlocal] at h
    cases hrequires : S.packetRequiresLinkLocal pkt with
    | true =>
      rw [hrequires] at h
      cases h
    | false => rfl

/-! ## The marks stay -/

theorem linkLocalAt_of_append {more : List Side} (h : o'.sides = o.sides ++ more) {sideId : Int32}
    (hlocal : o.linkLocalAt sideId = true) : o'.linkLocalAt sideId = true := by
  unfold linkLocalAt sideAt at hlocal ⊢
  rw [h]
  split at hlocal
  · cases hlocal
  · rename_i hneg
    rw [if_neg hneg]
    cases hside : o.sides[sideId.toNatClampNeg]? with
    | none =>
      rw [hside] at hlocal
      cases hlocal
    | some side =>
      rw [List.getElem?_append_left (List.getElem?_eq_some_iff.mp hside).1, hside]
      rwa [hside] at hlocal

theorem linkLocalAt_of_modify {i : Nat} {f : Side → Side} (hf : ∀ side, (f side).linkLocalEnabled = side.linkLocalEnabled)
    (h : o'.sides = o.sides.modify i f) (sideId : Int32) : o'.linkLocalAt sideId = o.linkLocalAt sideId := by
  unfold linkLocalAt sideAt
  rw [h, List.getElem?_modify]
  split
  · rfl
  · cases o.sides[sideId.toNatClampNeg]? with
    | none => rfl
    | some side =>
      dsimp only [Option.map_eq_map, Option.map_some, Option.any_some]
      split
      · exact hf side
      · rfl

/-- A change of the configuration leaves the marks alone, unless it is the one that sets them. -/
theorem configure_linkLocalAt (E : Env) {setting : Setting} (h : setting.marksLinkLocal = false) {sideId : Int32}
    (hlocal : o.linkLocalAt sideId = true) : (o.configure S E setting).2.linkLocalAt sideId = true := by
  have hsame : ∀ o' : Owner, o'.sides = o.sides → o'.linkLocalAt sideId = true := by
    intro o' hsides
    exact linkLocalAt_of_append (hsides.trans (List.append_nil _).symm) hlocal
  have hon : ∀ (s : Int32) (f : Owner → Owner) (g : Side → Side), (f o).sides = o.sides.modify s.toNatClampNeg g →
      (∀ side, (g side).linkLocalEnabled = side.linkLocalEnabled) → (o.onSide s f).2.linkLocalAt sideId = true := by
    intro s f g hsides hg
    unfold onSide
    split
    · exact hlocal
    · exact (linkLocalAt_of_modify hg hsides sideId).trans hlocal
  have hpolicy : ∀ (src : Int32) (f : RoutePolicy → RoutePolicy), (o.modifyPolicy src f).linkLocalAt sideId = true := by
    intro src f
    unfold modifyPolicy
    split
    · exact hsame _ rfl
    · exact hsame _ rfl
  cases setting with
  | addSideSerialized name reliableEnabled => exact linkLocalAt_of_append rfl hlocal
  | addSidePacket name reliableEnabled => exact linkLocalAt_of_append rfl hlocal
  | removeSide s => exact hon s _ _ rfl fun _ => rfl
  | setSideIngressEnabled s enabled => exact hon s _ _ rfl fun _ => rfl
  | setSideEgressEnabled s enabled =>
    apply hon s _ ({ · with egressEnabled := enabled }) _ fun _ => rfl
    cases enabled with
    | false => rfl
    | true => rfl
  | setSideLinkLocalEnabled s enabled => cases h
  | setTypedRoute src ty dst enabled =>
    dsimp only [configure]
    split
    · exact hlocal
    · exact hsame _ rfl
  | setSourceRouteMode src mode => exact hpolicy src _
  | setRouteWeight src dst weight => exact hpolicy src _
  | clearRouteWeight src dst => exact hpolicy src _
  | setRoutePriority src dst priority => exact hpolicy src _
  | clearRoutePriority src dst => exact hpolicy src _
  | setRuntimeTuningConfig tuning =>
    dsimp only [configure]
    split
    · exact hsame _ rfl
    · exact hlocal
  | _ => exact hsame _ rfl

end

end Owner

/-! ## Packets of the owner's own -/

/-- The endpoints of the packets an owner makes itself and queues for one side: reliable control packets,
    end-to-end ACKs, time-sync responses and announcements. -/
def Schema.ownEndpoints (S : Schema) : List (List UInt32) :=
  [SEDS_DT_RELIABLE_ACK, SEDS_DT_RELIABLE_PARTIAL_ACK, SEDS_DT_RELIABLE_PACKET_REQUEST].map
      (fun controlTy => (makeReliableControlPacket S controlTy 0 0 0 []).endpoints) ++
    ([SEDS_DT_RELIABLE_ACK, SEDS_DT_TIME_SYNC_RESPONSE, SEDS_DT_DISCOVERY_ANNOUNCE, SEDS_DT_DISCOVERY_TIMESYNC_SOURCES,
      SEDS_DT_DISCOVERY_TOPOLOGY, kDiscoveryLeaveType].map fun ty => (S.typeAt ty.toNat).endpoints) ++
    [[SEDS_EP_DISCOVERY]]

/-- None of these packets needs a link-local side. -/
def Schema.OwnPublic (S : Schema) : Prop :=
  ∀ endpoints ∈ S.ownEndpoints, S.packetRequiresLinkLocal ⟨0, [], endpoints, 0, []⟩ = false

instance (S : Schema) : Decidable S.OwnPublic :=
  inferInstanceAs (Decidable (∀ endpoints ∈ S.ownEndpoints, _ = false))

section

variable {S : Schema} (hown : S.OwnPublic)

include hown

/-- Whatever else is in such a packet, its endpoints decide. -/
theorem Schema.OwnPublic.packet {pkt : PacketData} (h : pkt.endpoints ∈ S.ownEndpoints) :
    S.packetRequiresLinkLocal pkt = false := hown _ h

theorem Schema.OwnPublic.control {controlTy : UInt32} (hcontrol : isInternalControlType controlTy = true) (ty seq : UInt32)
    (ts : UInt64) (sender : Bytes) :
    S.packetRequiresLinkLocal (makeReliableControlPacket S controlTy ty seq ts sender) = false := by
  apply hown.packet
  unfold ownEndpoints
  refine List.mem_append_left _ (List.mem_append_left _ (List.mem_map.mpr ⟨controlTy, ?_, rfl⟩))
  unfold isInternalControlType at hcontrol
  simpa [or_assoc] using hcontrol

theorem Schema.OwnPublic.row {ty : UInt32} (hty : ty ∈ [SEDS_DT_RELIABLE_ACK, SEDS_DT_TIME_SYNC_RESPONSE,
      SEDS_DT_DISCOVERY_ANNOUNCE, SEDS_DT_DISCOVERY_TIMESYNC_SOURCES, SEDS_DT_DISCOVERY_TOPOLOGY, kDiscoveryLeaveType])
    (ts : UInt64) (payload sender : Bytes) : S.packetRequiresLinkLocal (makeInternalPacket S ty ts payload sender) = false := by
  apply hown.packet
  unfold ownEndpoints
  exact List.mem_append_left _ (List.mem_append_right _ (List.mem_map.mpr ⟨ty, hty, rfl⟩))

end

namespace Owner

/-- A packet that is queued for a side is accepted there. -/
def Addressed (S : Schema) (o : Owner) (item : TxItem) : Prop := ∀ sideId ∈ item.dstSide, o.accepts S sideId item.pkt = true

/-- `Confined`, in a step that changes the configuration or does not. -/
def Guarded (S : Schema) (Z : Codec) (front : Option TxItem) (changes : Bool) (o : Owner) (e : Obs) : Prop :=
  Confined S Z front o e ∧ (e = .configures → changes = true)

section

variable {S : Schema} {Z : Codec} {front : Option TxItem} {changes : Bool} {o o' : Owner}

theorem Addressed.of_public {item : TxItem} (h : S.packetRequiresLinkLocal item.pkt = false) : Addressed S o item :=
  fun sideId _ => accepts_of_public h sideId

theorem Guarded.of_silent {e : Obs} (h : e.silent = true) : Guarded S Z front changes o e := by
  cases e with
  | transmit => cases h
  | packetTx => cases h
  | number => cases h
  | configures => cases h
  | _ => exact ⟨trivial, fun he => nomatch he⟩

theorem Guarded.grants (hown : S.OwnPublic) : Router.Grants (Addressed S o) (Guarded S Z front changes o) S where
  allows :=
    ⟨fun _ ty seq ts sender _ hcontrol => .of_public (hown.control hcontrol ty seq ts sender),
      fun _ he => .of_silent (Obs.silent_of_plain he)⟩
  lost _ := .of_silent rfl
  own _ _ _ _ _ := fun _ h => nomatch h
  discovery ty ts payload sender sideId hty := by
    apply Addressed.of_public
    refine hown.row ?_ ts payload sender
    unfold isDiscoveryControlType at hty
    simp only [Bool.or_eq_true, beq_iff_eq] at hty
    rcases hty with ((rfl | rfl) | rfl) | rfl <;> simp
  topology ts payload sender sideId := by
    apply Addressed.of_public
    apply hown.packet
    exact List.mem_append_right _ (List.mem_singleton_self _)

/-- A held frame may go to its side again. -/
theorem Separated.again (h : Separated S o) {key : UInt64} {seq : UInt32} {bytes : Bytes} (hholds : o.Holds key seq bytes) :
    Guarded S Z front changes o (.transmit (sideOfKey key) bytes) := by
  obtain ⟨sideId, ty, rfl, hmem⟩ := h.held key seq bytes hholds
  rw [sideOfKey_reliableKey]
  exact ⟨.inl ⟨ty, seq, hmem⟩, fun he => nomatch he⟩

theorem Separated.due (h : Separated S o) {now key : UInt64} {bytes : Bytes} (hdue : o.HoldsDue now key bytes) :
    Guarded S Z front changes o (.transmit (sideOfKey key) bytes) := by
  obtain ⟨-, tx, sent, seq, htx, hsent, hbytes, -⟩ := hdue
  exact h.again ⟨tx, sent, htx, hsent, hbytes⟩

theorem Separated.request (h : Separated S o) {pkt : PacketData} {srcSide : Option Int32} {sideId : Int32} {bytes : Bytes}
    (hrequests : Requests S o pkt srcSide sideId bytes) : Guarded S Z front changes o (.transmit sideId bytes) := by
  obtain ⟨-, -, -, -, -, -, hholds⟩ := hrequests
  have hagain : Guarded S Z front changes o (.transmit (sideOfKey (reliableKey sideId (controlledType S pkt))) bytes) :=
    h.again hholds
  rwa [sideOfKey_reliableKey] at hagain

/-- The front of the queue may go to a side that it is addressed to, or that was chosen for it. -/
theorem Separated.carries (h : Separated S o) {item : TxItem} (hitem : item ∈ o.txQueue.items.head?) {sideId : Int32}
    {side : Side} (hside : o.egressSide sideId = some side)
    (hgoes : item.dstSide = some sideId ∨ S.sideAcceptsPacket side item.pkt = true) :
    Carries (Guarded S Z o.txQueue.items.head? changes o) S Z sideId item := by
  have haccepts : o.accepts S sideId item.pkt = true := by
    rcases hgoes with hdst | haccepts
    · exact h.tx item (List.mem_of_mem_head? hitem) sideId hdst
    · exact accepts_of_sideAccepts (egressSide_spec hside).1 haccepts
  refine ⟨⟨trivial, fun he => nomatch he⟩, ?_, ?_, ⟨haccepts, fun he => nomatch he⟩⟩
  · intro bytes hframes
    exact ⟨.inr ⟨item, hitem, hframes.encodes, haccepts⟩, fun he => nomatch he⟩
  · intro _ seq bytes hframes
    exact ⟨⟨item, hitem, hframes.encodes, haccepts⟩, fun he => nomatch he⟩

variable {R : PacketData → Prop}

theorem Moves.isolated (h : Moves (Addressed S o) (Guarded S Z front changes o) R o o') : Isolated S Z front o o' := by
  obtain ⟨l, hobs, hl⟩ := h.trace
  intro e he
  rw [hobs, List.drop_left] at he
  exact (hl e he).1

theorem Moves.separated (h : Moves (Addressed S o) (Guarded S Z front changes o) R o o') (hsep : Separated S o)
    (hkept : ∀ sideId, o.linkLocalAt sideId = true → o'.linkLocalAt sideId = true) : Separated S o' := by
  refine ⟨?_, ?_⟩
  · intro item hitem sideId hdst
    apply accepts_of_linkLocal (hkept sideId)
    rcases h.tx item hitem with hold | hnew
    · exact hsep.tx item hold sideId hdst
    · exact hnew sideId hdst
  · intro key seq bytes hholds
    rcases h.held key seq bytes hholds with hold | ⟨sideId, ty, hkey, -, hmem⟩
    · obtain ⟨sideId, ty, hkey, hmem⟩ := hsep.held key seq bytes hold
      exact ⟨sideId, ty, hkey, h.mem_obs hmem⟩
    · exact ⟨sideId, ty, hkey, hmem⟩

theorem Blank.separated (h : o.Blank) : Separated S o := by
  refine ⟨?_, ?_⟩
  · intro item hitem
    rw [h.tx] at hitem
    cases hitem
  · intro key seq bytes hholds
    exact absurd hholds (h.not_holds key seq bytes)

end

end Owner

/-! ## Routers -/

namespace Router

/-- A new router, of any configuration. -/
structure Blank (r : Router) : Prop where
  owner : r.toOwner.Blank
  sent : r.endToEndReliableTx = ∅
  latest : r.managedVariableLatest = ∅

def Act.marksLinkLocal : Act → Bool
  | .configure setting => setting.marksLinkLocal
  | _ => false

/-- The packet a step takes off the transmit queue to send it. -/
def drained (r : Router) : Act → Option TxItem
  | .transmitNext => r.txQueue.items.head?
  | _ => none

section

variable (S : Schema) (Z : Codec)

/-- The step leaves the marks alone, and the reply to a managed-variable request goes to a side that accepts it. -/
def Isolating (r : Router) (act : Act) : Prop :=
  act.marksLinkLocal = false ∧
    ∀ p ∈ r.taken S Z act, packetId S p.1 ∉ r.recentSet → ∀ latest ∈ requestedVariable S r p.1, ∀ sideId ∈ p.2,
      r.toOwner.accepts S sideId latest.pkt = true

instance (r : Router) (act : Act) : Decidable (r.Isolating S Z act) := inferInstanceAs (Decidable (_ ∧ _))

/-- `Owner.Separated`, and the pending destinations of end-to-end packets accept them. -/
structure Separated (r : Router) : Prop where
  owner : Owner.Separated S r.toOwner
  sent : ∀ id sent, r.endToEndReliableTx.lookup id = some sent → sent.trackedDestinations = true ∧
    ∀ hash sideId, sent.pendingDestinations.lookup hash = some sideId → r.toOwner.accepts S sideId sent.pkt = true

end

variable {S : Schema} {Z : Codec} {r : Router}

theorem Blank.separated (h : r.Blank) : r.Separated S := by
  refine ⟨h.owner.separated, ?_⟩
  intro id sent hsent
  rw [h.sent] at hsent
  cases hsent

/-- A step that does not set marks leaves them alone. -/
theorem perform_linkLocalAt (E : Env) {P : TxItem → Prop} {Q : Obs → Prop} {act : Act}
    (hmoves : Owner.Moves P Q (fun _ => True) r.toOwner (perform S Z E r act).toOwner)
    (hchanges : Q .configures → act.changes = true)
    (hfixed : act.marksLinkLocal = false) {sideId : Int32}
    (hlocal : r.toOwner.linkLocalAt sideId = true) : (perform S Z E r act).toOwner.linkLocalAt sideId = true := by
  cases hconf : act.changes with
  | false =>
    have hsides := hmoves.sides fun h => Bool.false_ne_true (hconf.symm.trans (hchanges h))
    unfold Owner.linkLocalAt Owner.sideAt at hlocal ⊢
    rwa [hsides]
  | true =>
    cases act with
    | configure setting =>
      have hobserved : (r.toOwner.observe .configures).linkLocalAt sideId = true := hlocal
      exact Owner.configure_linkLocalAt E hfixed hobserved
    | _ => cases hconf

theorem perform_isolated (hown : S.OwnPublic) (E : Env) {act : Act} (hact : r.Isolating S Z act) (hsep : r.Separated S) :
    Owner.Isolated S Z (r.drained act) r.toOwner (perform S Z E r act).toOwner ∧ (perform S Z E r act).Separated S := by
  have hsends : Sends (Owner.Addressed S r.toOwner) (Owner.Guarded S Z (r.drained act) act.changes r.toOwner)
      (fun _ sent => sent.trackedDestinations = true ∧ ∀ hash sideId, sent.pendingDestinations.lookup hash = some sideId →
        r.toOwner.accepts S sideId sent.pkt = true) S Z E r act := by
    constructor
    case silent => exact fun _ he _ => .of_silent he
    case peer => exact fun _ _ _ _ _ _ he => .of_silent (Obs.silent_of_fromPeer (peerEvent_fromPeer he))
    case hears => exact fun _ => ⟨trivial, fun he => nomatch he⟩
    case configure =>
      rintro setting rfl
      exact ⟨trivial, fun _ => rfl⟩
    case routed =>
      intro item hnone sideId hdst
      rw [hnone] at hdst
      cases hdst
    case ack =>
      intro id ts sender srcSide
      apply Owner.Addressed.of_public
      exact hown.row List.mem_cons_self ts (appendLe64 id) sender
    case response =>
      intro ts payload sender srcSide
      apply Owner.Addressed.of_public
      exact hown.row (by simp) ts payload sender
    case due => exact fun _ key bytes hdue => hsep.owner.due hdue
    case request => exact fun pkt srcSide _ _ sideId bytes hrequests => hsep.owner.request hrequests
    case latest =>
      intro pkt srcSide htaken hfresh latest hlatest sideId hdst
      exact hact.2 (pkt, srcSide) htaken hfresh latest hlatest sideId hdst
    case again => exact fun _ id => ⟨trivial, fun he => nomatch he⟩
    case requeues =>
      intro _ id sent hsent
      obtain ⟨htracked, hpending⟩ := hsep.sent id sent hsent
      refine ⟨?_, fun huntracked => absurd (htracked.symm.trans huntracked) (by simp)⟩
      intro hash sideId hlookup s hdst
      cases hdst
      exact hpending hash sideId hlookup
    case carries =>
      rintro rfl item hitem sideId side hside hgoes
      exact hsep.owner.carries hitem hside hgoes
    case entry =>
      rintro - item - - pending ts hpending
      refine ⟨rfl, ?_⟩
      intro hash sideId hlookup
      obtain ⟨side, hside, haccepts⟩ := hpending hash sideId hlookup
      exact Owner.accepts_of_sideAccepts hside haccepts
  have hmoves := perform_moves S (Owner.Guarded.grants hown) Z E hsends.demands
  have hkept : ∀ sideId, r.toOwner.linkLocalAt sideId = true → (perform S Z E r act).toOwner.linkLocalAt sideId = true :=
    fun sideId => perform_linkLocalAt E hmoves.owner (fun h => h.2 rfl) hact.1
  refine ⟨hmoves.owner.isolated, hmoves.owner.separated hsep.owner hkept, ?_⟩
  intro id sent' hsent'
  obtain ⟨sent, hages, -, hsent⟩ := hmoves.sent id sent' hsent'
  have hwas : sent.trackedDestinations = true ∧ ∀ hash sideId, sent.pendingDestinations.lookup hash = some sideId →
      r.toOwner.accepts S sideId sent.pkt = true := by
    rcases hsent with hold | ⟨hnew, -⟩
    · exact hsep.sent id sent hold
    · exact hnew
  refine ⟨hages.tracked.trans hwas.1, ?_⟩
  intro hash sideId hlookup
  rw [hages.pkt]
  exact Owner.accepts_of_linkLocal (hkept sideId) (hwas.2 hash sideId (hages.pending hash sideId hlookup))

end Router

/-! ## Relays -/

namespace Relay

def Act.marksLinkLocal : Act → Bool
  | .configure setting => setting.marksLinkLocal
  | _ => false

/-- The packet a step takes off the transmit queue to send it. -/
def drained (r : Relay) : Act → Option TxItem
  | .transmitNext => r.txQueue.items.head?
  | _ => none

/-- The step leaves the marks alone, and an end-to-end ACK goes back to a side that accepts it. -/
def Isolating (S : Schema) (r : Relay) (act : Act) : Prop :=
  act.marksLinkLocal = false ∧
    (act = .receiveNext → ∀ item ∈ r.rxQueue.items.head?, ∀ sideId ∈ returnSide r item.pkt,
      r.toOwner.accepts S sideId item.pkt = true)

instance (S : Schema) (r : Relay) (act : Act) : Decidable (r.Isolating S act) := inferInstanceAs (Decidable (_ ∧ _))

variable {S : Schema} {Z : Codec} {r : Relay}

theorem perform_linkLocalAt (E : Env) {P : TxItem → Prop} {Q : Obs → Prop} {act : Act}
    (hmoves : Owner.Moves P Q (fun _ => True) r.toOwner (perform S Z E r act).toOwner)
    (hchanges : Q .configures → act.changes = true)
    (hfixed : act.marksLinkLocal = false) {sideId : Int32}
    (hlocal : r.toOwner.linkLocalAt sideId = true) : (perform S Z E r act).toOwner.linkLocalAt sideId = true := by
  cases hconf : act.changes with
  | false =>
    have hsides := hmoves.sides fun h => Bool.false_ne_true (hconf.symm.trans (hchanges h))
    unfold Owner.linkLocalAt Owner.sideAt at hlocal ⊢
    rwa [hsides]
  | true =>
    cases act with
    | configure setting =>
      have hobserved : (r.toOwner.observe .configures).linkLocalAt sideId = true := hlocal
      exact Owner.configure_linkLocalAt E hfixed hobserved
    | _ => cases hconf

theorem perform_isolated (hown : S.OwnPublic) (E : Env) {act : Act} (hact : r.Isolating S act)
    (hsep : Owner.Separated S r.toOwner) :
    Owner.Isolated S Z (r.drained act) r.toOwner (perform S Z E r act).toOwner ∧
      Owner.Separated S (perform S Z E r act).toOwner := by
  have hsends : Sends (Owner.Addressed S r.toOwner) (Owner.Guarded S Z (r.drained act) act.changes r.toOwner) S Z E r act := by
    constructor
    case silent => exact fun _ => .of_silent
    case hears => exact fun _ => ⟨trivial, fun he => nomatch he⟩
    case configure =>
      rintro setting rfl
      exact ⟨trivial, fun _ => rfl⟩
    case routed =>
      intro item hnone sideId hdst
      rw [hnone] at hdst
      cases hdst
    case due => exact fun _ key bytes hdue => hsep.due hdue
    case request => exact fun _ item _ sideId bytes hrequests => hsep.request hrequests
    case back =>
      rintro rfl item hitem sideId hback s hdst
      cases hdst
      exact hact.2 rfl item hitem sideId hback
    case carries =>
      rintro rfl item hitem sideId side hside hgoes
      exact hsep.carries hitem hside (Owner.accepts_of_goesTo (Owner.egressSide_spec hside).1 hgoes)
  have hmoves : Owner.Moves _ _ (fun _ => True) r.toOwner (perform S Z E r act).toOwner :=
    perform_moves S (Owner.Guarded.grants hown) Z E hsends.demands
  exact ⟨hmoves.isolated, hmoves.separated hsep fun sideId => perform_linkLocalAt E hmoves (fun h => h.2 rfl) hact.1⟩

end Relay

/-! ## Runs -/

/-- **Link-local packets stay on the sides that are marked for them**: in every step of a run of a router or relay
    whose steps are isolating, what goes to a callback is the packet that is taken off the queue, at a side that
    accepts it, or a frame that went to the side before. -/
theorem linkLocal_isolated (S : Schema) (Z : Codec) (E : Env) (hown : S.OwnPublic) :
    (∀ (r : Router) (acts : List Router.Act), r.Blank → Along (Router.perform S Z E) (Router.Isolating S Z) r acts →
      ∀ before act after, acts = before ++ act :: after →
        Owner.Isolated S Z ((runFrom (Router.perform S Z E) r before).drained act)
          (runFrom (Router.perform S Z E) r before).toOwner (runFrom (Router.perform S Z E) r (before ++ [act])).toOwner) ∧
    ∀ (r : Relay) (acts : List Relay.Act), r.toOwner.Blank → Along (Relay.perform S Z E) (Relay.Isolating S) r acts →
      ∀ before act after, acts = before ++ act :: after →
        Owner.Isolated S Z ((runFrom (Relay.perform S Z E) r before).drained act)
          (runFrom (Relay.perform S Z E) r before).toOwner (runFrom (Relay.perform S Z E) r (before ++ [act])).toOwner := by
  refine ⟨?_, ?_⟩
  · rintro r acts hblank hrun before act after rfl
    obtain ⟨hsep, hact⟩ := hrun.invariant_before (I := fun r => r.Separated S) hblank.separated
      fun r act hact hsep => (Router.perform_isolated hown E hact hsep).2
    rw [runFrom_append]
    exact (Router.perform_isolated hown E hact hsep).1
  · rintro r acts hblank hrun before act after rfl
    obtain ⟨hsep, hact⟩ := hrun.invariant_before (I := fun r => Owner.Separated S r.toOwner) hblank.separated
      fun r act hact hsep => (Relay.perform_isolated hown E hact hsep).2
    rw [runFrom_append]
    exact (Relay.perform_isolated hown E hact hsep).1

/-! ## A board with a local endpoint -/

/-- Endpoint 101 is link-local: the only type addressed to it, 101, is. -/
def boardSchema : Schema :=
  runtimeSchema ["SD_CARD", "BOARD_LOCAL"]
    [userRow "GPS_DATA" 4 3 false .Ordered .Float32 [0],
     { userRow "BOARD_LOCAL_FRAME" 1 1 false .None .UInt8 [1] with linkLocalOnly := true }] true true

def boardPacket : PacketData := ⟨101, ascii "BOARD", [101], 7, [42]⟩

def boardView : SedsPacketView := ⟨101, ascii "BOARD", some [101], 7, some [42], 1⟩

/-- A link to the network, and one to the board. -/
def boardSides : List Side := [.serialized (ascii "NET") false, { Side.serialized (ascii "LL") false with linkLocalEnabled := true }]

def boardActs : List Router.Act := [.transmitMessageQueue boardView, .transmitNext]

def boardRelayActs : List Relay.Act := [.rxPacketFromSide 1 boardView, .receiveNext, .transmitNext]

def boardRouter : Router := .new .Sink (ascii "R") boardSides []

theorem linkLocal_isolated_board :
    (runFrom (Router.perform boardSchema (.absent 16) .calm) boardRouter boardActs).obs.filterMap Obs.calledSide = [1] ∧
    Owner.Isolated boardSchema (.absent 16)
      ((runFrom (Router.perform boardSchema (.absent 16) .calm) boardRouter (boardActs.take 1)).drained .transmitNext)
      (runFrom (Router.perform boardSchema (.absent 16) .calm) boardRouter (boardActs.take 1)).toOwner
      (runFrom (Router.perform boardSchema (.absent 16) .calm) boardRouter boardActs).toOwner ∧
    Owner.Isolated boardSchema (.absent 16)
      ((runFrom (Relay.perform boardSchema (.absent 16) .calm) (.new boardSides) (boardRelayActs.take 2)).drained .transmitNext)
      (runFrom (Relay.perform boardSchema (.absent 16) .calm) (.new boardSides) (boardRelayActs.take 2)).toOwner
      (runFrom (Relay.perform boardSchema (.absent 16) .calm) (.new boardSides) boardRelayActs).toOwner := by
  obtain ⟨hsent, hown, hrouter, hrelay⟩ :
      (runFrom (Router.perform boardSchema (.absent 16) .calm) boardRouter boardActs).obs.filterMap Obs.calledSide = [1] ∧
      boardSchema.OwnPublic ∧
      Along (Router.perform boardSchema (.absent 16) .calm) (Router.Isolating boardSchema (.absent 16)) boardRouter boardActs ∧
      Along (Relay.perform boardSchema (.absent 16) .calm) (Relay.Isolating boardSchema) (.new boardSides) boardRelayActs := by
    decide +kernel
  obtain ⟨hall, hall'⟩ := linkLocal_isolated boardSchema (.absent 16) .calm hown
  exact ⟨hsent, hall _ boardActs ⟨⟨rfl, rfl, rfl, rfl, rfl, rfl, rfl, rfl⟩, rfl, rfl⟩ hrouter _ .transmitNext [] rfl,
    hall' _ boardRelayActs ⟨rfl, rfl, rfl, rfl, rfl, rfl, rfl, rfl⟩ hrelay _ .transmitNext [] rfl⟩

/-- The network asks for the variable that the board keeps in its link-local type. -/
def boardRequest : PacketData := ⟨1013, ascii "NODE", [SEDS_EP_DISCOVERY], 9, appendLe32 (boardSchema.v4TypeId 101)⟩

def boardReplyActs : List Router.Act :=
  [.seedManagedVariablePacked (serializePacket boardSchema (.absent 16) boardPacket),
    .receiveSerializedFromSide 0 (serializePacket boardSchema (.absent 16) boardRequest)]

def numbersFrame : Obs → Bool
  | .number _ _ _ _ => true
  | _ => false

def reachesNetwork : Obs → Bool
  | .transmit sideId _ => sideId == 0
  | _ => false

/-- The reply goes to the network side, which is not marked. -/
theorem linkLocal_replyLeaks :
    (runFrom (Router.perform boardSchema (.absent 16) .calm) boardRouter boardReplyActs).toOwner.linkLocalAt 0 = false ∧
    (∀ item ∈ (runFrom (Router.perform boardSchema (.absent 16) .calm) boardRouter boardReplyActs).drained .transmitNext,
      boardSchema.packetRequiresLinkLocal item.pkt = true) ∧
    ¬ Owner.Isolated boardSchema (.absent 16)
      ((runFrom (Router.perform boardSchema (.absent 16) .calm) boardRouter boardReplyActs).drained .transmitNext)
      (runFrom (Router.perform boardSchema (.absent 16) .calm) boardRouter boardReplyActs).toOwner
      (runFrom (Router.perform boardSchema (.absent 16) .calm) boardRouter (boardReplyActs ++ [.transmitNext])).toOwner := by
  obtain ⟨hmark, hrequires, hunnumbered, hsent⟩ :
      (runFrom (Router.perform boardSchema (.absent 16) .calm) boardRouter boardReplyActs).toOwner.linkLocalAt 0 = false ∧
      (∀ item ∈ (runFrom (Router.perform boardSchema (.absent 16) .calm) boardRouter boardReplyActs).drained .transmitNext,
        boardSchema.packetRequiresLinkLocal item.pkt = true) ∧
      ((runFrom (Router.perform boardSchema (.absent 16) .calm) boardRouter boardReplyActs).obs.all fun e => !numbersFrame e) = true ∧
      (((runFrom (Router.perform boardSchema (.absent 16) .calm) boardRouter (boardReplyActs ++ [.transmitNext])).obs.drop
          (runFrom (Router.perform boardSchema (.absent 16) .calm) boardRouter boardReplyActs).obs.length).any reachesNetwork) = true := by decide +kernel
  refine ⟨hmark, hrequires, ?_⟩
  intro hisolated
  obtain ⟨e, he, hcalled⟩ := List.any_eq_true.mp hsent
  cases e with
  | transmit sideId bytes =>
    obtain rfl : sideId = 0 := beq_iff_eq.mp hcalled
    rcases hisolated _ he with ⟨ty, seq, hmem⟩ | ⟨item, hitem, -, haccepts⟩
    · exact absurd (List.all_eq_true.mp hunnumbered _ hmem) Bool.false_ne_true
    · unfold Owner.accepts at haccepts
      rw [hmark, hrequires item hitem] at haccepts
      cases haccepts
  | _ => cases hcalled

end SedsNet
