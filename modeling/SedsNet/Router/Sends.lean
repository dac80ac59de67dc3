import SedsNet.Router.Emits
import SedsNet.Router.Transmit
import SedsNet.Sends

/-!
# What a router can do when it sends

The lemmas of `SedsNet.Router.Emits` for the sending half of a router: `transmit_item` with its local
delivery and end-to-end bookkeeping, the end-to-end timeouts, and one round of the drain.
-/

set_option autoImplicit false

namespace SedsNet

open Owner

namespace Owner

variable {P : TxItem → Prop} {Q : Obs → Prop} (S : Schema) (A : Allows P Q S) (Z : Codec) (E : Env)

/-! ## The loop over the targets -/

include A

theorem dispatchLocalFromPacket_emits (device : Bytes) (locals : List LocalEndpoint) (pkt : PacketData) (o : Owner) :
    Emits P Q o (dispatchLocalFromPacket S Z E device locals pkt o) :=
  (dispatchLocalPacketHandlers_emits S A E device locals pkt o).trans
    (dispatchLocalSerializedHandlers_emits S A E locals _ _ _)

theorem reportTxFailure_emits (device : Bytes) (locals : List LocalEndpoint) (o : Owner) (side : Side) (rc : SedsResult)
    (pkt : PacketData) : Emits P Q o (reportTxFailure S Z E device locals o side rc pkt) := by
  unfold reportTxFailure
  split
  · exact dispatchLocalFromPacket_emits S A Z E device locals _ o
  · exact .refl o

theorem routerTransmitTo_emits {item : TxItem} (device : Bytes) (locals : List LocalEndpoint) (sides : List Int32)
    (failed : Bool) (o : Owner)
    (hcarries : ∀ sideId side, sideId ∈ sides → o.egressSide sideId = some side → Carries Q S Z sideId item) :
    Emits P Q o (routerTransmitTo S Z E device locals item sides failed o).2 := by
  induction sides generalizing failed o with
  | nil => exact .refl o
  | cons sideId rest ih =>
    -- the sides stay as they are, and with them what the callbacks may be given
    have hrest : ∀ o' : Owner, Emits P Q o o' → ∀ failed,
        Emits P Q o (routerTransmitTo S Z E device locals item rest failed o').2 := by
      intro o' hemits failed
      apply hemits.trans
      apply ih
      intro sideId' side' hmem hside'
      apply hcarries sideId' side' (List.mem_cons_of_mem sideId hmem)
      unfold egressSide sideAt at hside' ⊢
      rwa [hemits.sides] at hside'
    unfold routerTransmitTo
    cases hside : o.egressSide sideId with
    | none => exact hrest o (.refl o) failed
    | some side =>
      have hsent := sendToSide_emits (P := P) S Z E o (hcarries sideId side List.mem_cons_self hside) side
      dsimp only
      split
      · exact hrest _ hsent failed
      · split
        · exact hsent.trans (.setDeferred _ fun _ => rfl)
        · exact hrest _ (hsent.trans (reportTxFailure_emits S A Z E device locals _ side _ item.pkt)) true

end Owner

namespace Owner

/-! ## Handlers

Handlers are called without any change to what routes are chosen by. -/

/-- The members that say where a packet may go. -/
def routeView (o : Owner) :
    List Side × Map (Int32 × Int32) Bool × Map (Int32 × UInt32 × Int32) Bool × Map Int32 DiscoveryRoute :=
  (o.sides, o.routeOverrides, o.typedRouteOverrides, o.discoveryRoutes)

/-- Callbacks are called, and nothing else happens. -/
def Calls (o o' : Owner) : Prop := ∃ calls obs, o' = { o with calls := calls, obs := obs }

theorem Calls.refl (o : Owner) : Calls o o := ⟨o.calls, o.obs, rfl⟩

theorem Calls.trans {o o' o'' : Owner} (h : Calls o o') (h' : Calls o' o'') : Calls o o'' := by
  obtain ⟨_, _, rfl⟩ := h
  obtain ⟨calls, obs, rfl⟩ := h'
  exact ⟨calls, obs, rfl⟩

theorem Calls.routeView {o o' : Owner} (h : Calls o o') : o'.routeView = o.routeView := by
  obtain ⟨_, _, rfl⟩ := h
  rfl

section

variable (S : Schema) (Z : Codec) (E : Env) (device : Bytes) (locals : List LocalEndpoint)

theorem tryPacketHandler_calls (i : Nat) (pkt : PacketData) (tries : Nat) (rc : SedsResult) (o : Owner) :
    Calls o (tryPacketHandler E i pkt tries rc o).2 := by
  induction tries generalizing rc o with
  | zero => exact .refl o
  | succ tries ih =>
    have hcalled : Calls o (o.call E (.packetHandler i pkt)).2 := ⟨_, _, rfl⟩
    unfold tryPacketHandler
    dsimp only
    split
    · exact hcalled
    · exact hcalled.trans (ih _ _)

/-- A loop of steps that call callbacks. -/
theorem foldl_calls {α β : Type} {f : β → α → β} (g : β → Owner) (hf : ∀ p x, Calls (g p) (g (f p x))) (xs : List α) (p : β) :
    Calls (g p) (g (xs.foldl f p)) := by
  induction xs generalizing p with
  | nil => exact .refl _
  | cons x xs ih => exact (hf p x).trans (ih (f p x))

theorem callIf_calls (e : Obs) (b : Bool) (o : Owner) : Calls o (if b = true then (o.call E e).2 else o) := by
  cases b with
  | false => exact .refl o
  | true => exact ⟨_, _, rfl⟩

theorem dispatchLocalSerializedHandlers_calls (endpoints : List UInt32) (bytes : Bytes) (o : Owner) :
    Calls o (dispatchLocalSerializedHandlers E locals endpoints bytes o) :=
  foldl_calls id (fun o _ => callIf_calls E _ _ o) locals.zipIdx o

theorem dispatchLocalPacketHandlers_calls (pkt : PacketData) (o : Owner) :
    Calls o (dispatchLocalPacketHandlers S E device locals pkt o).2 := by
  have hround : ∀ (p : Failures × Owner) (l : LocalEndpoint × Nat), Calls p.2 (dispatchLocalPacket E locals pkt p l).2 := by
    intro p l
    unfold dispatchLocalPacket
    dsimp only
    split
    · have htry := tryPacketHandler_calls E l.2 pkt p.2.tuning.maxHandlerRetries SEDS_OK p.2
      split
      · exact htry
      · exact htry
    · exact .refl _
  have hloop := foldl_calls Prod.snd hround locals.zipIdx (⟨none, []⟩, o)
  unfold dispatchLocalPacketHandlers
  dsimp only
  split
  · exact hloop
  · split
    · exact hloop.trans (foldl_calls id (fun o _ => callIf_calls E _ _ o) locals.zipIdx _)
    · exact hloop

theorem dispatchLocalFromPacket_calls (pkt : PacketData) (o : Owner) :
    Calls o (dispatchLocalFromPacket S Z E device locals pkt o) :=
  (dispatchLocalPacketHandlers_calls S E device locals pkt o).trans (dispatchLocalSerializedHandlers_calls E locals _ _ _)

end

end Owner

namespace Router

/-! ## Destinations -/

section

variable {S : Schema} {E : Env} {o : Owner}

theorem lookup_collectDestinations {cap : Nat} {offers : List (UInt64 × Int32)} {out : Map UInt64 Int32} {hash : UInt64}
    {sideId : Int32} (h : (collectDestinations cap offers out).lookup hash = some sideId) :
    out.lookup hash = some sideId ∨ (hash, sideId) ∈ offers := by
  induction offers generalizing out with
  | nil => exact .inl h
  | cons offer rest ih =>
    have hinsert : (out.insert offer.1 offer.2).lookup hash = some sideId →
        out.lookup hash = some sideId ∨ (hash, sideId) ∈ offer :: rest := by
      intro hlookup
      by_cases hkey : hash = offer.1
      · subst hkey
        rw [AList.lookup_insert, Option.some.injEq] at hlookup
        subst hlookup
        exact .inr List.mem_cons_self
      · rw [AList.lookup_insert_ne hkey] at hlookup
        exact .inl hlookup
    unfold collectDestinations at h
    dsimp only at h
    split at h
    · exact hinsert h
    · rcases ih h with hout | hmem
      · exact hinsert hout
      · exact .inr (List.mem_cons_of_mem offer hmem)

/-- A destination is expected only behind a side that may send, and accepts the packet. -/
theorem expectedEndToEndDestinations_spec {pkt : PacketData} {hash : UInt64} {sideId : Int32}
    (h : (o.expectedEndToEndDestinations S E pkt).1.lookup hash = some sideId) :
    ∃ side, o.sideAt sideId = some side ∧ side.egressEnabled = true ∧ S.sideAcceptsPacket side pkt = true := by
  unfold expectedEndToEndDestinations at h
  dsimp only at h
  rcases lookup_collectDestinations h with hnone | hmem
  · cases hnone
  · unfold offeredDestinations at hmem
    obtain ⟨e, -, hoffer⟩ := List.mem_flatMap.mp hmem
    split at hoffer
    · cases hoffer
    · have hside' : (o.nowMs E).2.sideAt e.1 = o.sideAt e.1 := rfl
      rw [hside'] at hoffer
      cases hside : o.sideAt e.1 with
      | none =>
        rw [hside] at hoffer
        cases hoffer
      | some side =>
        rw [hside] at hoffer
        dsimp only at hoffer
        split at hoffer
        · cases hoffer
        · rename_i hopen
          rw [Bool.or_eq_true, not_or, Bool.not_eq_true', Bool.not_eq_false] at hopen
          obtain ⟨a, -, ha⟩ := List.mem_flatMap.mp hoffer
          obtain ⟨_, -, heq⟩ := List.mem_map.mp ha
          cases heq
          refine ⟨side, hside, hopen.1, ?_⟩
          unfold Schema.sideAcceptsPacket
          rw [Bool.eq_false_of_not_eq_true hopen.2]
          rfl

/-- Some route offers a destination for the packet, however long ago it was heard of. -/
def offersDestination (S : Schema) (o : Owner) (pkt : PacketData) : Bool :=
  o.discoveryRoutes.entries.any fun e =>
    (o.sideAt e.1).any (fun side => side.egressEnabled && S.sideAcceptsPacket side pkt) &&
      e.2.announcers.entries.any fun a => !(a.2.destinations a.1 pkt.endpoints).isEmpty

/-- The item may get an entry when it is sent: it is reliable, may go to a side on which delivery is tracked, and
    some destination is known. -/
def expectsAcks (S : Schema) (o : Owner) (item : TxItem) : Bool :=
  S.isReliableType item.pkt.ty && !isInternalControlType item.pkt.ty &&
    ((List.range o.sides.length).any fun i => o.goesTo S item (Int32.ofNat i) && tracksSide o (Int32.ofNat i)) &&
    offersDestination S o item.pkt

theorem expectsAcks_of_routeView {o' : Owner} (h : o'.routeView = o.routeView) (item : TxItem) :
    expectsAcks S o' item = expectsAcks S o item := by
  unfold Owner.routeView at h
  simp only [Prod.mk.injEq] at h
  obtain ⟨hsides, hroutes, htyped, hdiscovery⟩ := h
  unfold expectsAcks offersDestination goesTo routeAllows tracksSide Owner.sideAt
  rw [hsides, hroutes, htyped, hdiscovery]

theorem goesTo_of_routeView {o' : Owner} (h : o'.routeView = o.routeView) (item : TxItem) (sideId : Int32) :
    o'.goesTo S item sideId = o.goesTo S item sideId := by
  unfold Owner.routeView at h
  simp only [Prod.mk.injEq] at h
  obtain ⟨hsides, hroutes, htyped, -⟩ := h
  unfold goesTo routeAllows Owner.sideAt
  rw [hsides, hroutes, htyped]

/-- What is offered comes from a route that offers it. -/
theorem offersDestination_of_expected {pkt : PacketData}
    (h : (o.expectedEndToEndDestinations S E pkt).1.entries.isEmpty = false) : offersDestination S o pkt = true := by
  unfold expectedEndToEndDestinations at h
  dsimp only at h
  generalize hoffers : (o.nowMs E).2.offeredDestinations S pkt (o.nowMs E).1 = offers at h
  cases offers with
  | nil => cases h
  | cons offer rest =>
    have hmem : offer ∈ (o.nowMs E).2.offeredDestinations S pkt (o.nowMs E).1 := hoffers ▸ List.mem_cons_self
    unfold offeredDestinations at hmem
    obtain ⟨e, he, hoffer⟩ := List.mem_flatMap.mp hmem
    split at hoffer
    · cases hoffer
    · have hside' : (o.nowMs E).2.sideAt e.1 = o.sideAt e.1 := rfl
      rw [hside'] at hoffer
      cases hside : o.sideAt e.1 with
      | none =>
        rw [hside] at hoffer
        cases hoffer
      | some side =>
        rw [hside] at hoffer
        dsimp only at hoffer
        split at hoffer
        · cases hoffer
        · rename_i hopen
          rw [Bool.or_eq_true, not_or, Bool.not_eq_true', Bool.not_eq_false] at hopen
          obtain ⟨a, ha, hdestination⟩ := List.mem_flatMap.mp hoffer
          obtain ⟨hash, hhash, -⟩ := List.mem_map.mp hdestination
          have haccepts : S.sideAcceptsPacket side pkt = true := by
            unfold Schema.sideAcceptsPacket
            rw [Bool.eq_false_of_not_eq_true hopen.2]
            rfl
          apply List.any_eq_true.mpr
          refine ⟨e, he, Bool.and_eq_true_iff.mpr ⟨?_, List.any_eq_true.mpr ⟨a, ha, ?_⟩⟩⟩
          · rw [hside, Option.any_some, hopen.1, haccepts]
            rfl
          · rw [Bool.not_eq_true', List.isEmpty_eq_false_iff_exists_mem]
            exact ⟨hash, hhash⟩

end

section

variable {P : TxItem → Prop} {Q : Obs → Prop} {M : PacketData → Prop} {K : UInt64 → EndToEndReliableSent → Prop}
  (S : Schema) (A : Allows P Q S) (Z : Codec) (E : Env)

/-! ## Sending -/

/-- What the transmission of an item may do, besides calling handlers: it goes to sides, and a reliable packet
    gets an entry that says which destinations are expected to acknowledge it. -/
structure Transmits (Q : Obs → Prop) (K : UInt64 → EndToEndReliableSent → Prop) (S : Schema) (Z : Codec) (r : Router)
    (item : TxItem) : Prop where
  carries : ∀ sideId side, r.egressSide sideId = some side →
    (item.dstSide = some sideId ∨ S.sideAcceptsPacket side item.pkt = true) → Carries Q S Z sideId item
  hash : Q (.hash (item.pkt.endpoints.map fun ep => S.kEndpointNames[ep.toNat]?))
  tracks : Q (.tracks (packetId S item.pkt))
  entry : expectsAcks S r.toOwner item = true → ∀ pending ts, (∀ hash sideId, pending.lookup hash = some sideId →
      ∃ side, r.sideAt sideId = some side ∧ S.sideAcceptsPacket side item.pkt = true) →
    K (packetId S item.pkt) ⟨item.pkt, pending, true, ts, 0, false⟩

include A in
theorem deliverLocal_does (r : Router) (item : TxItem) : Does P Q M K r (deliverLocal S Z E r item).2 := by
  unfold deliverLocal
  split
  · have hpacket := dispatchLocalPacketHandlers_emits S A E r.deviceIdentifier r.locals item.pkt r.toOwner
    dsimp only
    split
    · exact .setOwner r hpacket
    · exact .setOwner r (hpacket.trans (dispatchLocalSerializedHandlers_emits S A E r.locals _ _ _))
  · exact .refl r

theorem deliverLocal_calls (r : Router) (item : TxItem) : Calls r.toOwner (deliverLocal S Z E r item).2.toOwner := by
  unfold deliverLocal
  split
  · have hpacket := dispatchLocalPacketHandlers_calls S E r.deviceIdentifier r.locals item.pkt r.toOwner
    dsimp only
    split
    · exact hpacket
    · exact hpacket.trans (dispatchLocalSerializedHandlers_calls E r.locals _ _ _)
  · exact .refl _

theorem targets_routeView (o : Owner) (item : TxItem) (preferred : Option Bytes) :
    (o.targets S E item preferred).2.routeView = o.routeView := by
  unfold targets setPolicyOf
  dsimp only
  cases item.srcSide with
  | none => rfl
  | some src => rfl

/-- Ids that are erased from the entries leave the others alone. -/
theorem lookup_of_eraseAll {m : Map UInt64 EndToEndReliableSent} {gone : List UInt64} {id : UInt64}
    {sent : EndToEndReliableSent} (h : (gone.foldl (fun m old => m.erase old) m).lookup id = some sent) :
    m.lookup id = some sent := by
  induction gone generalizing m with
  | nil => exact h
  | cons old rest ih => exact lookup_of_erase (ih h)

theorem rememberEndToEnd_does {r : Router} {pkt : PacketData} {pending : Map UInt64 Int32}
    (hhash : Q (.hash (pkt.endpoints.map fun ep => S.kEndpointNames[ep.toNat]?))) (htracks : Q (.tracks (packetId S pkt)))
    (hentry : ∀ ts, K (packetId S pkt) ⟨pkt, pending, true, ts, 0, false⟩) :
    Does P Q M K r (rememberEndToEnd S E r pkt pending) := by
  unfold rememberEndToEnd
  dsimp only
  refine ⟨?_, rfl, ?_, fun e he => .inl ⟨e, he, rfl⟩⟩
  · exact ((Emits.observe r.toOwner hhash).trans (.nowMs E _)).trans (.observe _ htracks)
  · intro id sent' hsent'
    by_cases hid : id = packetId S pkt
    · subst hid
      have hnew : _ = some sent' := hsent'
      dsimp only [Owner.packetId] at hnew
      rw [AList.lookup_insert, Option.some.injEq] at hnew
      subst hnew
      exact ⟨_, .refl _, .inr ⟨hentry _, List.mem_append_right _ (List.mem_singleton_self _)⟩⟩
    · have hold : _ = some sent' := hsent'
      dsimp only [Owner.packetId] at hold
      rw [AList.lookup_insert_ne hid] at hold
      exact ⟨sent', .refl sent', .inl (lookup_of_eraseAll hold)⟩

theorem trackEndToEnd_does {r : Router} {item : TxItem} (h : Transmits Q K S Z r item) {sides : List Int32}
    (hgoes : ∀ sideId ∈ sides, r.toOwner.goesTo S item sideId = true) :
    Does P Q M K r (trackEndToEnd S E r item.pkt sides) := by
  unfold trackEndToEnd
  split
  · rename_i hreliable
    have hread : Does P Q M K r (r.setOwner (r.toOwner.expectedEndToEndDestinations S E item.pkt).2) :=
      .setOwner r (.nowMs E r.toOwner)
    dsimp only
    split
    · exact hread
    · rename_i hpending
      have hexpects : expectsAcks S r.toOwner item = true := by
        rw [Bool.and_eq_true] at hreliable
        obtain ⟨sideId, hmem, htracks⟩ := List.any_eq_true.mp hreliable.2
        unfold expectsAcks
        rw [hreliable.1, offersDestination_of_expected (Bool.eq_false_of_not_eq_true hpending), Bool.true_and, Bool.and_true]
        cases hside : r.sideAt sideId with
        | none =>
          unfold tracksSide at htracks
          rw [hside] at htracks
          cases htracks
        | some side =>
          obtain ⟨i, hi, rfl⟩ := sideAt_index hside
          apply List.any_eq_true.mpr
          exact ⟨i, List.mem_range.mpr hi, Bool.and_eq_true_iff.mpr ⟨hgoes _ hmem, htracks⟩⟩
      apply hread.trans
      apply rememberEndToEnd_does S E h.hash h.tracks
      intro ts
      apply h.entry hexpects
      intro hash sideId hpending
      obtain ⟨side, hside, -, haccepts⟩ := expectedEndToEndDestinations_spec hpending
      exact ⟨side, hside, haccepts⟩
  · exact .refl r

/-- The premises of a transmission are about the item and the routes. -/
theorem Transmits.of_routeView {r r' : Router} {item : TxItem} (h : Transmits Q K S Z r item)
    (hview : r'.toOwner.routeView = r.toOwner.routeView) : Transmits Q K S Z r' item := by
  have hsides : r'.sides = r.sides := congrArg Prod.fst hview
  have hsideAt : ∀ sideId, r'.sideAt sideId = r.sideAt sideId := by
    intro sideId
    unfold Owner.sideAt
    rw [hsides]
  refine ⟨?_, h.hash, h.tracks, ?_⟩
  · intro sideId side hside
    unfold Owner.egressSide at hside
    rw [hsideAt] at hside
    exact h.carries sideId side hside
  · intro hexpects pending ts hpending
    rw [expectsAcks_of_routeView hview] at hexpects
    apply h.entry hexpects
    intro hash sideId hlookup
    rw [← hsideAt]
    exact hpending hash sideId hlookup

include A in
/-- **Transmission** sends and enters what `Transmits` says. -/
theorem transmitItem_does {r : Router} {item : TxItem} (h : Transmits Q K S Z r item) :
    Does P Q M K r (transmitItem S Z E r item).2 := by
  unfold transmitItem
  have hlocal := deliverLocal_does (M := M) (K := K) S A Z E r item
  have hview := (deliverLocal_calls S Z E r item).routeView
  generalize deliverLocal S Z E r item = p at hlocal hview ⊢
  obtain ⟨ok, r₁⟩ := p
  cases ok with
  | false => exact hlocal
  | true =>
    dsimp only at hlocal hview ⊢
    have hchosen := hlocal.trans (.setOwner r₁ (targets_emits S E r₁.toOwner item (r₁.preferredSource item.pkt)))
    have hview' := targets_routeView S E r₁.toOwner item (r₁.preferredSource item.pkt)
    have hmem : ∀ sideId ∈ (r₁.toOwner.targets S E item (r₁.preferredSource item.pkt)).1,
        r₁.toOwner.goesTo S item sideId = true := fun sideId hsideId => goesTo_of_mem_targets hsideId
    generalize r₁.toOwner.targets S E item (r₁.preferredSource item.pkt) = p at hchosen hview' hmem ⊢
    obtain ⟨sides, o⟩ := p
    dsimp only at hchosen hview' hmem ⊢
    have hmem' : ∀ sideId ∈ sides, (r₁.setOwner o).toOwner.goesTo S item sideId = true := by
      intro sideId hsideId
      rw [setOwner_toOwner, goesTo_of_routeView hview']
      exact hmem sideId hsideId
    have htracked := hchosen.trans (trackEndToEnd_does S Z E (h.of_routeView S Z (hview'.trans hview)) hmem')
    generalize trackEndToEnd S E (r₁.setOwner o) item.pkt sides = r₂ at htracked ⊢
    apply htracked.trans
    apply Does.setOwner
    apply routerTransmitTo_emits S A Z E
    intro sideId side hsideId hside
    have hsides : r₂.sides = r.sides := htracked.emits.sides
    have hsides₁ : r₁.sides = r.sides := hlocal.emits.sides
    have hat : r.egressSide sideId = some side := by
      unfold Owner.egressSide Owner.sideAt at hside ⊢
      rwa [hsides] at hside
    apply h.carries sideId side hat
    refine accepts_of_goesTo ?_ (hmem sideId hsideId)
    have hsideAt := (egressSide_spec hside).1
    unfold Owner.sideAt at hsideAt ⊢
    rwa [hsides₁, ← hsides]

/-! ## Timeouts -/

theorem reconcilePending_spec (requireLinkLocal : Bool) (p : Map UInt64 Int32 × Owner) (e : (_ : UInt64) × Int32) :
    Emits P Q p.2 (reconcilePending E requireLinkLocal p e).2 ∧
    ∀ hash sideId, (reconcilePending E requireLinkLocal p e).1.lookup hash = some sideId → p.1.lookup hash = some sideId := by
  have hread : Emits P Q p.2 (p.2.stillPending E requireLinkLocal e.1 e.2).2 := by
    unfold stillPending
    cases p.2.sideAt e.2 with
    | none => exact .refl p.2
    | some side =>
      dsimp only
      split
      · exact .refl p.2
      · cases p.2.discoveryRoutes.lookup e.2 with
        | none => exact .refl p.2
        | some route => exact .nowMs E p.2
  unfold reconcilePending
  dsimp only
  refine ⟨hread, ?_⟩
  intro hash sideId h
  split at h
  · exact h
  · exact lookup_of_erase h

theorem reconcilePending_foldl (requireLinkLocal : Bool) (entries : List ((_ : UInt64) × Int32)) (p : Map UInt64 Int32 × Owner) :
    Emits P Q p.2 (entries.foldl (reconcilePending E requireLinkLocal) p).2 ∧
    ∀ hash sideId, (entries.foldl (reconcilePending E requireLinkLocal) p).1.lookup hash = some sideId →
      p.1.lookup hash = some sideId := by
  induction entries generalizing p with
  | nil => exact ⟨.refl p.2, fun _ _ h => h⟩
  | cons e rest ih =>
    obtain ⟨hemits, hold⟩ := reconcilePending_spec (P := P) (Q := Q) E requireLinkLocal p e
    obtain ⟨hemits', hold'⟩ := ih (reconcilePending E requireLinkLocal p e)
    exact ⟨hemits.trans hemits', fun hash sideId h => hold hash sideId (hold' hash sideId h)⟩

theorem reconcileEntry_does {r : Router} {e : (_ : UInt64) × EndToEndReliableSent}
    (he : r.endToEndReliableTx.lookup e.1 = some e.2) :
    Does P Q M K r (reconcileEntry S E r e) ∧
    ∀ id, id ≠ e.1 → (reconcileEntry S E r e).endToEndReliableTx.lookup id = r.endToEndReliableTx.lookup id := by
  unfold reconcileEntry
  split
  · exact ⟨.refl r, fun _ _ => rfl⟩
  · have hloop := reconcilePending_foldl (P := P) (Q := Q) E (S.packetRequiresLinkLocal e.2.pkt)
      e.2.pendingDestinations.entries (e.2.pendingDestinations, r.toOwner)
    generalize e.2.pendingDestinations.entries.foldl (reconcilePending E (S.packetRequiresLinkLocal e.2.pkt))
      (e.2.pendingDestinations, r.toOwner) = p at hloop ⊢
    obtain ⟨pending, o⟩ := p
    obtain ⟨hemits, hpending⟩ := hloop
    dsimp only at hemits hpending ⊢
    refine ⟨⟨hemits, rfl, ?_, fun a ha => .inl ⟨a, ha, rfl⟩⟩, ?_⟩
    · intro id sent' hsent'
      dsimp only at hsent'
      split at hsent'
      · exact ⟨sent', .refl sent', .inl (lookup_of_erase hsent')⟩
      · by_cases hid : id = e.1
        · subst hid
          rw [AList.lookup_insert, Option.some.injEq] at hsent'
          subst hsent'
          exact ⟨e.2, ⟨rfl, rfl, rfl, hpending⟩, .inl he⟩
        · rw [AList.lookup_insert_ne hid] at hsent'
          exact ⟨sent', .refl sent', .inl hsent'⟩
    · intro id hid
      split
      · exact AList.lookup_erase_ne hid
      · exact AList.lookup_insert_ne hid

/-- The loop over entries the router still has. -/
theorem reconcileEntries_does (entries : List ((_ : UInt64) × EndToEndReliableSent)) (hnodup : entries.NodupKeys)
    (r : Router) (hmem : ∀ e ∈ entries, r.endToEndReliableTx.lookup e.1 = some e.2) :
    Does P Q M K r (entries.foldl (reconcileEntry S E) r) := by
  induction entries generalizing r with
  | nil => exact .refl r
  | cons e rest ih =>
    rw [List.nodupKeys_cons] at hnodup
    obtain ⟨hdoes, hothers⟩ := reconcileEntry_does (P := P) (Q := Q) (M := M) (K := K) S E (hmem e List.mem_cons_self)
    apply hdoes.trans
    apply ih hnodup.2
    intro f hf
    rw [hothers f.1 ?_]
    · exact hmem f (List.mem_cons_of_mem e hf)
    · intro heq
      exact hnodup.1 (heq ▸ List.mem_map_of_mem hf)

theorem reconcileEndToEndReliableDestinations_does (r : Router) :
    Does P Q M K r (reconcileEndToEndReliableDestinations S E r) := by
  apply reconcileEntries_does S E _ r.endToEndReliableTx.nodupKeys
  intro e he
  exact AList.mem_lookup_iff.mpr he

/-- The entry of a packet sent end to end, after time has passed: it may have been queued again, and fewer
    destinations are pending. -/
structure Ages (sent sent' : EndToEndReliableSent) : Prop where
  pkt : sent'.pkt = sent.pkt
  tracked : sent'.trackedDestinations = sent.trackedDestinations
  pending : ∀ hash side, sent'.pendingDestinations.lookup hash = some side →
    sent.pendingDestinations.lookup hash = some side

theorem Ages.refl (sent : EndToEndReliableSent) : Ages sent sent := ⟨rfl, rfl, fun _ _ h => h⟩

theorem Ages.trans {a b c : EndToEndReliableSent} (hab : Ages a b) (hbc : Ages b c) : Ages a c :=
  ⟨hbc.pkt.trans hab.pkt, hbc.tracked.trans hab.tracked, fun hash side h => hab.pending hash side (hbc.pending hash side h)⟩

theorem Narrows.ages {sent sent' : EndToEndReliableSent} (h : Narrows sent sent') : Ages sent sent' :=
  ⟨h.pkt, h.tracked, h.pending⟩

/-- An entry that is left by the first loop is one that was there, marked if it was due. -/
theorem lookup_expireEndToEnd {now : UInt64} {m : Map UInt64 EndToEndReliableSent} {id : UInt64}
    {sent' : EndToEndReliableSent} (h : (expireEndToEnd now m).lookup id = some sent') :
    ∃ sent, m.lookup id = some sent ∧
      (endToEndDue now sent = true ∧ sent.retries < 8 ∧ sent' = { sent with retries := sent.retries + 1, queued := true } ∨
        endToEndDue now sent = false ∧ sent' = sent) := by
  unfold expireEndToEnd at h
  obtain ⟨e, he, heq⟩ := Map.mem_mapValues (AList.mem_lookup_iff.mp h)
  cases heq
  obtain ⟨hmem, hstays⟩ := List.mem_filter.mp he
  dsimp only at hstays
  refine ⟨e.2, AList.mem_lookup_iff.mpr hmem, ?_⟩
  cases hdue : endToEndDue now e.2 with
  | false => exact .inr ⟨rfl, rfl⟩
  | true =>
    rw [hdue, Bool.true_and, Bool.not_eq_true', decide_eq_false_iff_not] at hstays
    exact .inl ⟨rfl, UInt32.not_le.mp hstays, rfl⟩

/-- What an entry may put into the transmit queue again. -/
structure Requeues (P : TxItem → Prop) (sent : EndToEndReliableSent) : Prop where
  pending : ∀ hash sideId, sent.pendingDestinations.lookup hash = some sideId → P ⟨sent.pkt, none, some sideId, false⟩
  untracked : sent.trackedDestinations = false → P ⟨sent.pkt, none, none, false⟩

theorem Requeues.ages {sent sent' : EndToEndReliableSent} (h : Requeues P sent) (hages : Ages sent sent') :
    Requeues P sent' := by
  refine ⟨?_, ?_⟩
  · intro hash sideId hlookup
    rw [hages.pkt]
    exact h.pending hash sideId (hages.pending hash sideId hlookup)
  · intro huntracked
    rw [hages.pkt]
    exact h.untracked (hages.tracked ▸ huntracked)

/-- An entry puts one packet into the queue for each side, and one more when there is no list of destinations. -/
theorem requeueItems_emits {sent : EndToEndReliableSent} (h : Requeues P sent) (o : Owner) :
    Emits P Q o (if sent.trackedDestinations then
        (sortDedup (sent.pendingDestinations.entries.map (·.2))).foldl
          (fun o side => o.enqueueTxFront ⟨sent.pkt, none, some side, false⟩) o
      else ((sortDedup (sent.pendingDestinations.entries.map (·.2))).foldl
          (fun o side => o.enqueueTxFront ⟨sent.pkt, none, some side, false⟩) o).enqueueTxFront ⟨sent.pkt, none, none, false⟩) := by
  have hsides : ∀ (sides : List Int32) (o : Owner), (∀ sideId ∈ sides, P ⟨sent.pkt, none, some sideId, false⟩) →
      Emits P Q o (sides.foldl (fun o side => o.enqueueTxFront ⟨sent.pkt, none, some side, false⟩) o) := by
    intro sides
    induction sides with
    | nil => exact fun o _ => .refl o
    | cons side rest ih =>
      intro o hall
      exact (Emits.enqueueTxAt true o (hall side List.mem_cons_self)).trans
        (ih _ fun sideId hmem => hall sideId (List.mem_cons_of_mem side hmem))
  have hpending : ∀ sideId ∈ sortDedup (sent.pendingDestinations.entries.map (·.2)), P ⟨sent.pkt, none, some sideId, false⟩ := by
    intro sideId hmem
    obtain ⟨e, he, rfl⟩ := List.mem_map.mp (mem_of_mem_sortDedup hmem)
    exact h.pending e.1 e.2 (AList.mem_lookup_iff.mpr he)
  split
  · exact hsides _ o hpending
  · rename_i huntracked
    exact (hsides _ o hpending).trans (.enqueueTxAt true _ (h.untracked (Bool.eq_false_of_not_eq_true huntracked)))

/-- One packet is queued again, or its entry goes. -/
theorem requeueEndToEnd_spec (now : UInt64) {id : UInt64} {r : Router} (hrequeues : Q (.requeues id))
    (hitem : ∀ sent, r.endToEndReliableTx.lookup id = some sent → Requeues P sent) :
    Emits P Q r.toOwner (requeueEndToEnd now r id).toOwner ∧ (requeueEndToEnd now r id).locals = r.locals ∧
    (requeueEndToEnd now r id).managedVariableLatest = r.managedVariableLatest ∧
    ∀ key sent', (requeueEndToEnd now r id).endToEndReliableTx.lookup key = some sent' →
      ∃ sent, r.endToEndReliableTx.lookup key = some sent ∧ Ages sent sent' := by
  unfold requeueEndToEnd
  cases hsent : r.endToEndReliableTx.lookup id with
  | none => exact ⟨.refl _, rfl, rfl, fun key sent' h => ⟨sent', h, .refl sent'⟩⟩
  | some sent =>
    dsimp only
    split
    · refine ⟨.refl _, rfl, rfl, ?_⟩
      intro key sent' h
      exact ⟨sent', lookup_of_erase h, .refl sent'⟩
    · refine ⟨?_, rfl, rfl, ?_⟩
      · exact (requeueItems_emits (hitem sent hsent) r.toOwner).trans (.observe _ hrequeues)
      · intro key sent' h
        dsimp only at h
        by_cases hkey : key = id
        · subst hkey
          rw [AList.lookup_insert, Option.some.injEq] at h
          subst h
          exact ⟨sent, hsent, rfl, rfl, fun _ _ h => h⟩
        · rw [AList.lookup_insert_ne hkey] at h
          exact ⟨sent', h, .refl sent'⟩

/-- The second loop. -/
theorem requeueEndToEnd_foldl (now : UInt64) (hrequeues : ∀ id, Q (.requeues id)) (ids : List UInt64) (r : Router)
    (hitem : ∀ id sent, r.endToEndReliableTx.lookup id = some sent → Requeues P sent) :
    Emits P Q r.toOwner (ids.foldl (requeueEndToEnd now) r).toOwner ∧ (ids.foldl (requeueEndToEnd now) r).locals = r.locals ∧
    (ids.foldl (requeueEndToEnd now) r).managedVariableLatest = r.managedVariableLatest ∧
    ∀ key sent', (ids.foldl (requeueEndToEnd now) r).endToEndReliableTx.lookup key = some sent' →
      ∃ sent, r.endToEndReliableTx.lookup key = some sent ∧ Ages sent sent' := by
  induction ids generalizing r with
  | nil => exact ⟨.refl _, rfl, rfl, fun key sent' h => ⟨sent', h, .refl sent'⟩⟩
  | cons id rest ih =>
    obtain ⟨hemits, hlocals, hlatest, hentries⟩ := requeueEndToEnd_spec now (hrequeues id) (hitem id)
    have hitem' : ∀ key sent', (requeueEndToEnd now r id).endToEndReliableTx.lookup key = some sent' → Requeues P sent' := by
      intro key sent' h
      obtain ⟨sent, hsent, hages⟩ := hentries key sent' h
      exact (hitem key sent hsent).ages hages
    obtain ⟨hemits', hlocals', hlatest', hentries'⟩ := ih (requeueEndToEnd now r id) hitem'
    refine ⟨hemits.trans hemits', hlocals'.trans hlocals, hlatest'.trans hlatest, ?_⟩
    intro key sent'' h
    obtain ⟨sent', hsent', hages'⟩ := hentries' key sent'' h
    obtain ⟨sent, hsent, hages⟩ := hentries key sent' hsent'
    exact ⟨sent, hsent, hages.trans hages'⟩

/-- **End-to-end timeouts** queue what the entries say, and make no new entry. -/
theorem processEndToEndReliableTimeouts_spec {r : Router} (hrequeues : ∀ id, Q (.requeues id))
    (hitem : ∀ id sent, r.endToEndReliableTx.lookup id = some sent → Requeues P sent) :
    Emits P Q r.toOwner (processEndToEndReliableTimeouts S E r).toOwner ∧
    (processEndToEndReliableTimeouts S E r).locals = r.locals ∧
    (∀ e ∈ (processEndToEndReliableTimeouts S E r).managedVariableLatest.entries,
      ∃ old ∈ r.managedVariableLatest.entries, old.2.pkt = e.2.pkt) ∧
    ∀ key sent', (processEndToEndReliableTimeouts S E r).endToEndReliableTx.lookup key = some sent' →
      ∃ sent, r.endToEndReliableTx.lookup key = some sent ∧ Ages sent sent' := by
  unfold processEndToEndReliableTimeouts
  dsimp only
  have hread : Does P Q (fun _ => False) (fun _ _ => False) r (r.setOwner (r.toOwner.nowMs E).2) := .setOwner r (.nowMs E r.toOwner)
  have hdoes := hread.trans (reconcileEndToEndReliableDestinations_does S E _)
  generalize reconcileEndToEndReliableDestinations S E (r.setOwner (r.toOwner.nowMs E).2) = r₁ at hdoes ⊢
  have hreconciled : ∀ key sent', r₁.endToEndReliableTx.lookup key = some sent' →
      ∃ sent, r.endToEndReliableTx.lookup key = some sent ∧ Ages sent sent' := by
    intro key sent' h
    obtain ⟨sent, hnarrows, hsent | hnone⟩ := hdoes.sent key sent' h
    · exact ⟨sent, hsent, hnarrows.ages⟩
    · exact hnone.1.elim
  have hexpired : ∀ key sent', (expireEndToEnd (r.toOwner.nowMs E).1 r₁.endToEndReliableTx).lookup key = some sent' →
      ∃ sent, r.endToEndReliableTx.lookup key = some sent ∧ Ages sent sent' := by
    intro key sent' h
    obtain ⟨sent₁, hsent₁, hmarked⟩ := lookup_expireEndToEnd h
    obtain ⟨sent, hsent, hages⟩ := hreconciled key sent₁ hsent₁
    refine ⟨sent, hsent, hages.trans ?_⟩
    rcases hmarked with ⟨-, -, rfl⟩ | ⟨-, rfl⟩
    · exact ⟨rfl, rfl, fun _ _ h => h⟩
    · exact .refl _
  obtain ⟨hemits, hlocals, hlatest, hentries⟩ := requeueEndToEnd_foldl (P := P) (r.toOwner.nowMs E).1 hrequeues
    (endToEndRequeued (r.toOwner.nowMs E).1 r₁.endToEndReliableTx)
    { r₁ with endToEndReliableTx := expireEndToEnd (r.toOwner.nowMs E).1 r₁.endToEndReliableTx } (by
      intro id sent' h
      obtain ⟨sent, hsent, hages⟩ := hexpired id sent' h
      exact (hitem id sent hsent).ages hages)
  refine ⟨hdoes.emits.trans hemits, hlocals.trans hdoes.locals, ?_, ?_⟩
  · intro e he
    rw [hlatest] at he
    rcases hdoes.latest e he with hold | hnone
    · exact hold
    · exact hnone.elim
  · intro key sent'' h
    obtain ⟨sent', hsent', hages'⟩ := hentries key sent'' h
    obtain ⟨sent, hsent, hages⟩ := hexpired key sent' hsent'
    exact ⟨sent, hsent, hages.trans hages'⟩

/-! ## The drain -/

include A in
/-- **One round of the drain** does what the transmission of the front item may do. -/
theorem transmitNext_does {r : Router}
    (h : ∀ item ∈ r.txQueue.items.head?, Transmits Q K S Z r item) : Does P Q M K r (transmitNext S Z E r).2 := by
  unfold transmitNext
  cases hpop : r.txQueue.pop TxItem.byteCost with
  | none => exact .refl r
  | some p =>
    obtain ⟨item, queue⟩ := p
    obtain ⟨hmem, hpopped⟩ := Emits.popTx (P := fun x => P x ∨ x ∈ r.txQueue.items) (Q := Q) r.toOwner hpop
    have hallows : Allows (fun x => P x ∨ x ∈ r.txQueue.items) Q S :=
      ⟨fun controlTy ty seq ts sender sideId hcontrol => .inl (A.control controlTy ty seq ts sender sideId hcontrol), A.plain⟩
    have hstart : Does (fun x => P x ∨ x ∈ r.txQueue.items) Q M K r (r.setOwner { r.toOwner with txQueue := queue }) :=
      .setOwner r hpopped
    have hitem : Transmits Q K S Z (r.setOwner { r.toOwner with txQueue := queue }) item :=
      (h item (head?_of_pop hpop)).of_routeView S Z rfl
    have hsent := hstart.trans (transmitItem_does S hallows Z E hitem)
    dsimp only
    generalize transmitItem S Z E (r.setOwner { r.toOwner with txQueue := queue }) item = p at hsent ⊢
    obtain ⟨rc, r₁⟩ := p
    dsimp only at hsent ⊢
    have hdone : Does (fun x => P x ∨ x ∈ r.txQueue.items) Q M K r
        (if rc = SEDS_IO then r₁.setOwner (r₁.toOwner.enqueueTxFront item) else r₁) := by
      split
      · exact hsent.trans (.setOwner r₁ (.enqueueTxAt true _ (.inr hmem)))
      · exact hsent
    exact ⟨hdone.emits.absorb, hdone.locals, hdone.sent, hdone.latest⟩

end

end Router

end SedsNet
