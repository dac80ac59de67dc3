import SedsNet.Moves
import SedsNet.Router.Api
import SedsNet.Router.Sends

/-!
# What a call can do to a router

`Router.Moves` is `Owner.Moves` for routers. `Grants` says what is allowed to every act, and `Demands` what one
act needs besides, of the packet it is given and of the router it is given to. `perform_moves` is the one lemma
about acts from which the invariants of runs are derived.
-/

set_option autoImplicit false

namespace SedsNet

open Owner

namespace Owner

variable {P : TxItem → Prop} {Q : Obs → Prop} {R : PacketData → Prop}

/-! ## Submission -/

theorem submitTx_performs (o : Owner) {item : TxItem} (hitem : P item) (hlost : ∀ x, Q (.lost x)) (enforced : Bool) :
    Performs P Q R o (o.submitTx item enforced).2 := by
  have hqueued : Performs P Q R o (o.enqueueTx item) := (Emits.enqueueTxAt false o hitem).performs
  unfold submitTx
  split
  · exact .refl o
  · cases enforced with
    | false => exact hqueued
    | true => exact hqueued.trans (enforceSharedQueueBudget_performs _ hlost)

theorem submitRx_performs (o : Owner) {item : RxItem} (hitem : R item.pkt) (hlost : ∀ x, Q (.lost x)) (enforced : Bool) :
    Performs P Q R o (o.submitRx item enforced).2 := by
  have hqueued : Performs P Q R o (o.enqueueRxAt false item).2 := enqueueRxAt_performs false o (.inr hitem) hlost
  unfold submitRx enqueueRx
  generalize o.enqueueRxAt false item = p at hqueued ⊢
  obtain ⟨ok, o'⟩ := p
  cases ok with
  | false => exact hqueued
  | true =>
    cases enforced with
    | false => exact hqueued
    | true => exact hqueued.trans (enforceSharedQueueBudget_performs _ hlost)

theorem rxPacketFromSide_performs (S : Schema) (o : Owner) (sideId : UInt32) {view : SedsPacketView}
    (hview : ∀ pkt, packetFromView S view = some pkt → R pkt) (hlost : ∀ x, Q (.lost x)) :
    Performs P Q R o (o.rxPacketFromSide S sideId view).2 := by
  unfold rxPacketFromSide
  cases hpkt : packetFromView S view with
  | none => exact .refl o
  | some pkt =>
    dsimp only
    split
    · exact .refl o
    · exact submitRx_performs o (hview pkt hpkt) hlost true

/-- The members that decide whether a packet is a copy, and which frame it may ask for again. -/
def requestView (o : Owner) : Map UInt64 ReliableTxState × Finset UInt64 × Bool := (o.reliableTx, o.recentSet, o.sideTxActive)

/-! ## Parsing -/

/-- `Q` allows the comparisons of the header parser. -/
def Peeks (Q : Obs → Prop) (S : Schema) (Z : Codec) (bytes : Bytes) : Prop :=
  Q (.compare (comparedNames S ((Read.peekFrameInfo S Z bytes true).trace 0)))

/-- `Q` allows the comparisons of the packet parser. -/
def Parses (Q : Obs → Prop) (S : Schema) (Z : Codec) (bytes : Bytes) : Prop :=
  Q (.compare (comparedNames S ((Read.deserializePacket S Z bytes).trace 0)))

/-! ## Arrival at the queue -/

section

variable (S : Schema) (C : Controls P Q S) (Z : Codec) (E : Env)

/-- The end of both queued arrivals: a frame and what it released go to the queue. -/
theorem enqueueAndFlush_performs (front : Bool) (o : Owner) {item : RxItem} (hitem : R item.pkt) (hlost : ∀ x, Q (.lost x)) :
    Performs P Q R o (match o.enqueueRxAt front item with
      | (false, o) => (SEDS_PACKET_TOO_LARGE, o)
      | (true, o) => (SEDS_OK, o.flushReleased)).2 := by
  have hqueued : Performs P Q R o (o.enqueueRxAt front item).2 := enqueueRxAt_performs front o (.inr hitem) hlost
  generalize o.enqueueRxAt front item = p at hqueued ⊢
  obtain ⟨ok, o'⟩ := p
  cases ok with
  | false => exact hqueued
  | true => exact hqueued.trans (flushReleased_performs o' hlost)

include C

/-- A frame that carries a packet goes through the reliable ingress, and on if it is released. -/
theorem ingestFrame_performs (o : Owner) (sideId : Int32) (frame : FrameInfoLite) {bytes : Bytes} (hparses : Parses Q S Z bytes)
    (hpkt : ∀ pkt, SedsNet.deserializePacket S Z bytes = some pkt → R pkt) {next : PacketData → Owner → SedsResult × Owner}
    (hnext : ∀ pkt o, SedsNet.deserializePacket S Z bytes = some pkt → Performs P Q R o (next pkt o).2) :
    Performs P Q R o (match o.deserializePacket S Z bytes with
      | (none, o) => (SEDS_DESERIALIZE, o)
      | (some pkt, o) =>
        match o.processReliableIngress S E sideId frame pkt bytes with
        | (false, o) => (SEDS_OK, o)
        | (true, o) => next pkt o).2 := by
  have hparsed : Performs P Q R o (o.deserializePacket S Z bytes).2 := (Emits.observe o hparses).performs
  unfold deserializePacket at hparsed ⊢
  dsimp only at hparsed ⊢
  generalize o.observe (.compare (comparedNames S ((Read.deserializePacket S Z bytes).trace 0))) = o₁ at hparsed ⊢
  cases hdecoded : SedsNet.deserializePacket S Z bytes with
  | none => exact hparsed
  | some pkt =>
    dsimp only
    have hingested := hparsed.trans (processReliableIngress_performs S C E o₁ sideId frame (hpkt pkt hdecoded) bytes)
    generalize o₁.processReliableIngress S E sideId frame pkt bytes = p at hingested ⊢
    obtain ⟨ok, o₂⟩ := p
    cases ok with
    | false => exact hingested
    | true => exact hingested.trans (hnext pkt o₂ hdecoded)

theorem routerRxSerializedToQueueFromSide_performs (o : Owner) (sideId : UInt32) {bytes : Bytes} (hpeeks : Peeks Q S Z bytes)
    (hparses : Parses Q S Z bytes) (hpkt : ∀ pkt, SedsNet.deserializePacket S Z bytes = some pkt → R pkt)
    (hlost : ∀ x, Q (.lost x)) : Performs P Q R o (o.routerRxSerializedToQueueFromSide S Z E sideId bytes).2 := by
  have hpeeked : Performs P Q R o (o.peekFrameInfo S Z bytes).2 := (Emits.observe o hpeeks).performs
  unfold routerRxSerializedToQueueFromSide
  generalize o.peekFrameInfo S Z bytes = p at hpeeked ⊢
  obtain ⟨frame, o₁⟩ := p
  cases frame with
  | none => exact hpeeked
  | some frame =>
    dsimp only at hpeeked ⊢
    split
    · exact hpeeked
    · cases hack : frame.ackOnly with
      | true => exact hpeeked.trans (ingestAck_emits S E o₁ sideId hack bytes).performs
      | false =>
        rw [if_neg (by simp)]
        apply hpeeked.trans
        apply ingestFrame_performs S C Z E o₁ sideId.toInt32 frame hparses hpkt
        intro pkt o₂ hdecoded
        exact enqueueAndFlush_performs _ o₂ (hpkt pkt hdecoded) hlost

end

/-! ## Announcements -/

section

variable (S : Schema) (E : Env) (L : LocalBoard)
  (hdiscovery : ∀ ty ts payload sender sideId, isDiscoveryControlType ty = true →
    P ⟨makeInternalPacket S ty ts payload sender, none, some sideId, false⟩)
  (htopology : ∀ ts payload sender sideId,
    P ⟨⟨SEDS_DT_DISCOVERY_TOPOLOGY, sender, [SEDS_EP_DISCOVERY], ts, payload⟩, none, some sideId, false⟩)

include hdiscovery htopology

theorem announceSide_emits (now : UInt64) (o : Owner) (sideId : Int32) : Emits P Q o (announceSide S E L now o sideId).2 := by
  have hread : Emits P Q o (o.nowMs E).2 := .nowMs E o
  have hpacket : ∀ (ty : UInt32) (payload : Bytes) (o : Owner), isDiscoveryControlType ty = true →
      Emits P Q o (o.queueFor sideId (discoveryPacket S L ty now payload)) :=
    fun ty payload o hty => .enqueueTxAt true o (hdiscovery ty now payload L.sender sideId hty)
  unfold announceSide
  dsimp only
  split
  · exact hread
  · generalize encodeDiscoveryTopology ((o.nowMs E).2.advertisedTopology S L sideId (o.nowMs E).1) = topology
    have htold : Emits P Q o (((o.nowMs E).2.nowMs E).2.queueFor sideId
        ⟨SEDS_DT_DISCOVERY_TOPOLOGY, L.sender, [SEDS_EP_DISCOVERY], now, topology⟩) :=
      (hread.trans (.nowMs E _)).trans (.enqueueTxAt true _ (htopology now topology L.sender sideId))
    generalize ((o.nowMs E).2.nowMs E).2.queueFor sideId
      ⟨SEDS_DT_DISCOVERY_TOPOLOGY, L.sender, [SEDS_EP_DISCOVERY], now, topology⟩ = o₁ at htold ⊢
    generalize (summarizeTopologyBoards (((o.nowMs E).2.nowMs E).2.advertisedTopology S L sideId
      ((o.nowMs E).2.nowMs E).1)).2 = sources
    have hsources : Emits P Q o (if sources.isEmpty = true then o₁ else o₁.queueFor sideId
        (discoveryPacket S L SEDS_DT_DISCOVERY_TIMESYNC_SOURCES now (encodeDiscoveryTimesyncSources sources))) := by
      split
      · exact htold
      · exact htold.trans (hpacket SEDS_DT_DISCOVERY_TIMESYNC_SOURCES _ o₁ (by decide))
    generalize (if sources.isEmpty = true then o₁ else o₁.queueFor sideId
      (discoveryPacket S L SEDS_DT_DISCOVERY_TIMESYNC_SOURCES now (encodeDiscoveryTimesyncSources sources))) = o₂ at hsources ⊢
    have hread₂ : Emits P Q o (o₂.nowMs E).2 := hsources.trans (.nowMs E o₂)
    generalize (o₂.nowMs E).2 = o₃ at hread₂ ⊢
    dsimp only
    exact hread₂.trans (hpacket SEDS_DT_DISCOVERY_ANNOUNCE _ o₃ (by decide))

theorem announceSides_emits (now : UInt64) (sides : List (Side × Nat)) (o : Owner) :
    Emits P Q o (announceSides S E L now sides o).2 := by
  induction sides generalizing o with
  | nil => exact .refl o
  | cons p rest ih =>
    obtain ⟨side, i⟩ := p
    unfold announceSides
    split
    · exact ih o
    · have htold := announceSide_emits (P := P) (Q := Q) S E L hdiscovery htopology now o (Int32.ofNat i)
      generalize announceSide S E L now o (Int32.ofNat i) = q at htold ⊢
      obtain ⟨ok, o'⟩ := q
      cases ok with
      | false => exact htold
      | true => exact htold.trans (ih o')

theorem queueDiscoveryPackets_performs (o : Owner) : Performs P Q R o (queueDiscoveryPackets S E L o).2 := by
  unfold queueDiscoveryPackets
  dsimp only
  generalize hpruned : pruneDiscoveryRoutes (o.nowMs E).2.discoveryRoutes (o.nowMs E).1 = p
  obtain ⟨changed, routes⟩ := p
  dsimp only
  have hnoted : Performs P Q R o (if changed = true then
      { (o.nowMs E).2 with discoveryRoutes := routes }.noteDiscoveryTopologyChange (o.nowMs E).1
    else { (o.nowMs E).2 with discoveryRoutes := routes }) := by
    have hlearns : Learns (fun now => ∃ read < o.clockReads + 1, Q (.hears read now)) o.discoveryRoutes routes := by
      have hexpired := Learns.expired (T := fun now => ∃ read < o.clockReads + 1, Q (.hears read now)) o.discoveryRoutes (o.nowMs E).1
      rwa [show pruneDiscoveryRoutes o.discoveryRoutes (o.nowMs E).1 = (changed, routes) from hpruned] at hexpired
    split
    · exact .of_eq rfl rfl (fun _ => rfl) (Nat.le_succ _) (.single hlearns) rfl rfl rfl rfl
    · exact .of_eq rfl rfl (fun _ => rfl) (Nat.le_succ _) (.single hlearns) rfl rfl rfl rfl
  generalize (if changed = true then
      { (o.nowMs E).2 with discoveryRoutes := routes }.noteDiscoveryTopologyChange (o.nowMs E).1
    else { (o.nowMs E).2 with discoveryRoutes := routes }) = o₁ at hnoted ⊢
  have htold := hnoted.trans (announceSides_emits S E L hdiscovery htopology (o.nowMs E).1 o₁.sides.zipIdx o₁).performs
  generalize announceSides S E L (o.nowMs E).1 o₁.sides.zipIdx o₁ = q at htold ⊢
  obtain ⟨ok, o₂⟩ := q
  cases ok with
  | false => exact htold
  | true => exact htold.trans (.of_eq rfl rfl (fun _ => rfl) (Nat.le_refl _) .refl rfl rfl rfl rfl)

theorem pollDiscovery_performs (o : Owner) : Performs P Q R o (pollDiscovery S E L o).2 := by
  have hread : Performs P Q R o (o.nowMs E).2 := (Emits.nowMs E o).performs
  unfold pollDiscovery
  dsimp only
  split
  · exact hread.trans (queueDiscoveryPackets_performs S E L hdiscovery htopology _)
  · exact hread

end

end Owner

namespace Router

/-- `r'` is `r` after a call that moves what `P`, `Q` and `R` allow, keeps the latest packets of managed variables in
    `M`, and makes entries of packets sent end to end in `K`. An entry is retried only where `Q` allows a packet to be
    queued again. -/
structure Moves (P : TxItem → Prop) (Q : Obs → Prop) (R : PacketData → Prop) (M : PacketData → Prop)
    (K : UInt64 → EndToEndReliableSent → Prop) (r r' : Router) : Prop where
  owner : Owner.Moves P Q R r.toOwner r'.toOwner
  locals : r'.locals = r.locals
  sent : ∀ id sent', r'.endToEndReliableTx.lookup id = some sent' →
    ∃ sent, Ages sent sent' ∧ ((∀ id, ¬ Q (.requeues id)) → sent'.retries = sent.retries) ∧
      (r.endToEndReliableTx.lookup id = some sent ∨ K id sent ∧ .tracks id ∈ r'.obs)
  latest : ∀ e ∈ r'.managedVariableLatest.entries,
    (∃ old ∈ r.managedVariableLatest.entries, old.2.pkt = e.2.pkt) ∨ M e.2.pkt

variable {P : TxItem → Prop} {Q : Obs → Prop} {R : PacketData → Prop} {M : PacketData → Prop}
  {K : UInt64 → EndToEndReliableSent → Prop} {r r' r'' : Router}

theorem Does.moves (h : Does P Q M K r r') : Moves P Q R M K r r' := by
  refine ⟨h.emits.moves, h.locals, ?_, h.latest⟩
  intro id sent' hsent'
  obtain ⟨sent, hnarrows, hsent⟩ := h.sent id sent' hsent'
  exact ⟨sent, hnarrows.ages, fun _ => hnarrows.retries, hsent⟩

namespace Moves

/-- No packet is kept that was not kept before. -/
theorem of_eq (howner : Owner.Moves P Q R r.toOwner r'.toOwner) (hlocals : r'.locals = r.locals)
    (hsent : r'.endToEndReliableTx = r.endToEndReliableTx)
    (hlatest : r'.managedVariableLatest = r.managedVariableLatest) : Moves P Q R M K r r' := by
  refine ⟨howner, hlocals, ?_, ?_⟩
  · intro id sent' h
    rw [hsent] at h
    exact ⟨sent', .refl sent', fun _ => rfl, .inl h⟩
  · intro e he
    rw [hlatest] at he
    exact .inl ⟨e, he, rfl⟩

theorem refl (r : Router) : Moves P Q R M K r r := of_eq (.refl _) rfl rfl rfl

theorem setOwner (r : Router) {o : Owner} (h : Owner.Moves P Q R r.toOwner o) : Moves P Q R M K r (r.setOwner o) :=
  of_eq h rfl rfl rfl

theorem trans (h : Moves P Q R M K r r') (h' : Moves P Q R M K r' r'') : Moves P Q R M K r r'' := by
  refine ⟨h.owner.trans h'.owner, h'.locals.trans h.locals, ?_, ?_⟩
  · intro id sent'' hsent''
    obtain ⟨sent', hages', hretries', hsent' | hnew⟩ := h'.sent id sent'' hsent''
    · obtain ⟨sent, hages, hretries, hsent | ⟨hnew, htracks⟩⟩ := h.sent id sent' hsent'
      · exact ⟨sent, hages.trans hages', fun hnone => (hretries' hnone).trans (hretries hnone), .inl hsent⟩
      · exact ⟨sent, hages.trans hages', fun hnone => (hretries' hnone).trans (hretries hnone),
          .inr ⟨hnew, h'.owner.mem_obs htracks⟩⟩
    · exact ⟨sent', hages', hretries', .inr hnew⟩
  · intro e he
    rcases h'.latest e he with ⟨old, hold, heq⟩ | hnew
    · rw [← heq]
      exact h.latest old hold
    · exact .inr hnew

end Moves

/-- `Owner.Performs` for routers. -/
structure Performs (P : TxItem → Prop) (Q : Obs → Prop) (R : PacketData → Prop) (M : PacketData → Prop)
    (K : UInt64 → EndToEndReliableSent → Prop) (r r' : Router) : Prop extends Moves P Q R M K r r' where
  calm : Calm r.toOwner r'.toOwner

theorem Does.performs (h : Does P Q M K r r') : Performs P Q R M K r r' := ⟨h.moves, h.emits.calm⟩

namespace Performs

/-- No packet is kept that was not kept before. -/
theorem of_eq (howner : Owner.Performs P Q R r.toOwner r'.toOwner) (hlocals : r'.locals = r.locals)
    (hsent : r'.endToEndReliableTx = r.endToEndReliableTx)
    (hlatest : r'.managedVariableLatest = r.managedVariableLatest) : Performs P Q R M K r r' :=
  ⟨.of_eq howner.toMoves hlocals hsent hlatest, howner.calm⟩

theorem refl (r : Router) : Performs P Q R M K r r := of_eq (.refl _) rfl rfl rfl

theorem setOwner (r : Router) {o : Owner} (h : Owner.Performs P Q R r.toOwner o) : Performs P Q R M K r (r.setOwner o) :=
  of_eq h rfl rfl rfl

theorem trans (h : Performs P Q R M K r r') (h' : Performs P Q R M K r' r'') : Performs P Q R M K r r'' :=
  ⟨h.toMoves.trans h'.toMoves, h.calm.trans h'.calm⟩

end Performs

/-! ## What acts need -/

/-- The types of the packets a router makes of itself and routes. -/
def ownTypes (S : Schema) : List UInt32 :=
  [S.p2pTypeId, (S.localTypeId 13).getD 1013, SEDS_DT_TIME_SYNC_ANNOUNCE, SEDS_DT_TIME_SYNC_REQUEST]

/-- What is allowed to every act: the packets of the router's own, handlers, and the record of what is lost. -/
structure Grants (P : TxItem → Prop) (Q : Obs → Prop) (S : Schema) : Prop where
  allows : Allows P Q S
  lost : ∀ x, Q (.lost x)
  own : ∀ ty ∈ ownTypes S, ∀ ts payload sender, P ⟨makeInternalPacket S ty ts payload sender, none, none, false⟩
  discovery : ∀ ty ts payload sender sideId, isDiscoveryControlType ty = true →
    P ⟨makeInternalPacket S ty ts payload sender, none, some sideId, false⟩
  topology : ∀ ts payload sender sideId,
    P ⟨⟨SEDS_DT_DISCOVERY_TOPOLOGY, sender, [SEDS_EP_DISCOVERY], ts, payload⟩, none, some sideId, false⟩

/-- What an act that takes a packet needs: there is a record of it, and it may be received. -/
structure Takes (P : TxItem → Prop) (Q : Obs → Prop) (M : PacketData → Prop) (S : Schema) (E : Env) (r : Router) (pkt : PacketData)
    (srcSide : Option Int32) : Prop where
  receive : ∀ x, Q (.receive x)
  admits : Admits P Q M S E r pkt srcSide

section

variable (P : TxItem → Prop) (Q : Obs → Prop) (R : PacketData → Prop) (M : PacketData → Prop)
  (K : UInt64 → EndToEndReliableSent → Prop) (S : Schema) (Z : Codec) (E : Env)

/-- What one act needs besides, in the state it is taken in. -/
def Demands (r : Router) : Act → Prop
  | .configure _ => Q .configures
  | .logBytesEx ty data timestamp queue => P ⟨(logPacket S E r ty data timestamp).1, none, none, queue⟩
  | .transmitMessage view => ∀ pkt, packetFromView S view = some pkt → R pkt ∧ P ⟨pkt, none, none, true⟩
  | .transmitMessageQueue view => ∀ pkt, packetFromView S view = some pkt → R pkt ∧ P ⟨pkt, none, none, true⟩
  | .transmitSerializedMessageQueue bytes =>
    Parses Q S Z bytes ∧ ∀ pkt, deserializePacket S Z bytes = some pkt → P ⟨pkt, none, none, true⟩
  | .setNetworkVariablePacked bytes =>
    Parses Q S Z bytes ∧ ∀ pkt, deserializePacket S Z bytes = some pkt → M pkt ∧ P ⟨pkt, none, none, false⟩
  | .seedManagedVariablePacked bytes => Parses Q S Z bytes ∧ ∀ pkt, deserializePacket S Z bytes = some pkt → M pkt
  | .receiveSerialized bytes =>
    Peeks Q S Z bytes ∧ Parses Q S Z bytes ∧
      ∀ pkt, deserializePacket S Z bytes = some pkt → Takes P Q M S E r pkt none
  | .receive view => ∀ pkt, packetFromView S view = some pkt → Takes P Q M S E r pkt none
  | .receiveSerializedFromSide sideId bytes =>
    Peeks Q S Z bytes ∧ Parses Q S Z bytes ∧
      ∀ pkt, deserializePacket S Z bytes = some pkt → R pkt ∧ Takes P Q M S E r pkt (some sideId.toInt32)
  | .receiveFromSide sideId view =>
    ∀ pkt, packetFromView S view = some pkt → Takes P Q M S E r pkt (some sideId.toInt32)
  | .rxSerializedPacketToQueue bytes => Parses Q S Z bytes ∧ ∀ pkt, deserializePacket S Z bytes = some pkt → R pkt
  | .rxPacketToQueue view => ∀ pkt, packetFromView S view = some pkt → R pkt
  | .rxSerializedPacketToQueueFromSide _ bytes =>
    Peeks Q S Z bytes ∧ Parses Q S Z bytes ∧ ∀ pkt, deserializePacket S Z bytes = some pkt → R pkt
  | .rxPacketToQueueFromSide _ view => ∀ pkt, packetFromView S view = some pkt → R pkt
  | .reliableTimeouts => ∀ key bytes, r.HoldsDue (r.nowMs E).1 key bytes → Q (.transmit (sideOfKey key) bytes)
  | .endToEndTimeouts =>
    (∀ id, Q (.requeues id)) ∧ ∀ id sent, r.endToEndReliableTx.lookup id = some sent → Requeues P sent
  | .receiveNext => ∀ item ∈ r.rxQueue.items.head?, Peeks Q S Z item.wireBytes ∧ Takes P Q M S E r item.pkt item.srcSide
  | .transmitNext => ∀ item ∈ r.txQueue.items.head?, Transmits Q K S Z r item
  | _ => True

end

/-- The packet an act may hand to `router_receive_impl`, and the side it came from. -/
def taken (S : Schema) (Z : Codec) (r : Router) : Act → Option (PacketData × Option Int32)
  | .receiveSerialized bytes => (deserializePacket S Z bytes).map (·, none)
  | .receive view => (packetFromView S view).map (·, none)
  | .receiveSerializedFromSide sideId bytes => (deserializePacket S Z bytes).map (·, some sideId.toInt32)
  | .receiveFromSide sideId view => (packetFromView S view).map (·, some sideId.toInt32)
  | .receiveNext => r.rxQueue.items.head?.map fun item => (item.pkt, item.srcSide)
  | _ => none

/-- Some serialized handler is registered on one of the endpoints. -/
def shownTo (locals : List LocalEndpoint) (endpoints : List UInt32) : Bool :=
  locals.any fun l => endpoints.contains l.endpoint && l.serializedHandler

/-- A frame goes to a serialized handler, unless its type is one that is hidden from them. -/
def shownFrame (S : Schema) (Z : Codec) (r : Router) (hides : UInt32 → Bool) (bytes : Bytes) : Bool :=
  (peekFrameInfo S Z bytes true).any fun frame => !hides frame.envelope.ty && shownTo r.locals frame.envelope.endpoints

/-- Reliable ingress passes the frame on. -/
def ingests (S : Schema) (Z : Codec) (E : Env) (r : Router) (sideId : UInt32) (bytes : Bytes) : Bool :=
  match r.toOwner.peekFrameInfo S Z bytes with
  | (none, _) => false
  | (some frame, o) =>
    match o.deserializePacket S Z bytes with
    | (none, _) => false
    | (some pkt, o) => (o.processReliableIngress S E sideId.toInt32 frame pkt bytes).1

/-- The act shows the frame of the packet it takes to a serialized handler. -/
def shows (S : Schema) (Z : Codec) (E : Env) (r : Router) : Act → Bool
  | .receiveSerialized bytes => r.shownFrame S Z (fun ty => isDiscoveryControlType ty || isTimeSyncType ty) bytes
  | .receiveSerializedFromSide sideId bytes =>
    r.ingests S Z E sideId bytes && r.shownFrame S Z hiddenFromSerializedHandlers bytes
  | .receiveNext =>
    r.rxQueue.items.head?.any fun item =>
      !item.wireBytes.isEmpty && r.shownFrame S Z hiddenFromSerializedHandlers item.wireBytes
  | _ => false

/-- What an act needs where only what goes to the sides matters: the frames it sends again, what it puts into the
    queue for one side, and the front of the transmit queue. -/
structure Sends (P : TxItem → Prop) (Q : Obs → Prop) (K : UInt64 → EndToEndReliableSent → Prop) (S : Schema) (Z : Codec)
    (E : Env) (r : Router) (act : Act) : Prop where
  silent : ∀ e : Obs, e.silent = true → e.fromPeer = false → Q e
  peer : ∀ pkt srcSide, r.taken S Z act = some (pkt, srcSide) → packetId S pkt ∉ r.recentSet → pkt.ty = S.p2pTypeId →
    ∀ e ∈ r.peerEvent pkt, Q e
  hears : ∀ read, Q (.hears read (E.clock read))
  configure : ∀ setting, act = .configure setting → Q .configures
  routed : ∀ item : TxItem, item.dstSide = none → P item
  ack : ∀ id ts sender srcSide, P ⟨makeE2eReliableAckPacket S id ts sender, none, srcSide, false⟩
  response : ∀ ts payload sender srcSide,
    P ⟨makeInternalPacket S SEDS_DT_TIME_SYNC_RESPONSE ts payload sender, none, srcSide, false⟩
  due : act = .reliableTimeouts → ∀ key bytes, r.HoldsDue (r.nowMs E).1 key bytes → Q (.transmit (sideOfKey key) bytes)
  request : ∀ pkt srcSide, r.taken S Z act = some (pkt, srcSide) → packetId S pkt ∉ r.recentSet →
    ∀ sideId bytes, Requests S r.toOwner pkt srcSide sideId bytes → Q (.transmit sideId bytes)
  latest : ∀ pkt srcSide, r.taken S Z act = some (pkt, srcSide) → packetId S pkt ∉ r.recentSet →
    ∀ latest, requestedVariable S r pkt = some latest → P ⟨latest.pkt, none, srcSide, false⟩
  again : act = .endToEndTimeouts → ∀ id, Q (.requeues id)
  requeues : act = .endToEndTimeouts → ∀ id sent, r.endToEndReliableTx.lookup id = some sent → Requeues P sent
  carries : act = .transmitNext → ∀ item ∈ r.txQueue.items.head?, ∀ sideId side, r.egressSide sideId = some side →
    (item.dstSide = some sideId ∨ S.sideAcceptsPacket side item.pkt = true) → Carries Q S Z sideId item
  entry : act = .transmitNext → ∀ item ∈ r.txQueue.items.head?, expectsAcks S r.toOwner item = true → ∀ pending ts,
    (∀ hash sideId, pending.lookup hash = some sideId →
      ∃ side, r.sideAt sideId = some side ∧ S.sideAcceptsPacket side item.pkt = true) →
    K (packetId S item.pkt) ⟨item.pkt, pending, true, ts, 0, false⟩

theorem Sends.demands {S : Schema} {Z : Codec} {E : Env} {r : Router} {act : Act} (h : Sends P Q K S Z E r act) :
    Demands P Q (fun _ => True) (fun _ => True) K S Z E r act := by
  have hadmits : ∀ pkt srcSide, r.taken S Z act = some (pkt, srcSide) → Takes P Q (fun _ => True) S E r pkt srcSide := by
    intro pkt srcSide htaken
    have hid : ∀ o : Owner, Emits P Q o (o.packetId S pkt).2 := fun o => .observe o (h.silent _ rfl rfl)
    have hsource : ∀ o : Owner, Emits P Q o (o.sourcePacketId S pkt).2 := fun o => .observe o (h.silent _ rfl rfl)
    have hack : ∀ id ts sender, P ⟨makeE2eReliableAckPacket S id ts sender, none, srcSide, false⟩ :=
      fun id ts sender => h.ack id ts sender srcSide
    refine ⟨fun _ => h.silent _ rfl rfl, hid, hsource, hack, fun _ => h.silent _ rfl rfl,
      fun hfresh => ⟨hid, hsource, hack, h.routed _ rfl, ?_, ?_, ?_, ?_, ?_, trivial, h.hears⟩⟩
    · exact h.request pkt srcSide htaken hfresh
    · exact h.latest pkt srcSide htaken hfresh
    · exact fun _ _ _ => h.routed _ rfl
    · exact h.peer pkt srcSide htaken hfresh
    · exact fun ts payload sender => h.response ts payload sender srcSide
  have hcompare : ∀ names, Q (.compare names) := fun names => h.silent _ rfl rfl
  cases act with
  | configure setting => exact h.configure setting rfl
  | logBytesEx ty data timestamp queue => exact h.routed _ rfl
  | transmitMessage view => exact fun _ _ => ⟨trivial, h.routed _ rfl⟩
  | transmitMessageQueue view => exact fun _ _ => ⟨trivial, h.routed _ rfl⟩
  | transmitSerializedMessageQueue bytes => exact ⟨hcompare _, fun _ _ => h.routed _ rfl⟩
  | setNetworkVariablePacked bytes => exact ⟨hcompare _, fun _ _ => ⟨trivial, h.routed _ rfl⟩⟩
  | seedManagedVariablePacked bytes => exact ⟨hcompare _, fun _ _ => trivial⟩
  | receiveSerialized bytes =>
    refine ⟨hcompare _, hcompare _, fun pkt hpkt => hadmits pkt none ?_⟩
    dsimp only [taken]
    rw [hpkt]
    rfl
  | receive view =>
    refine fun pkt hpkt => hadmits pkt none ?_
    dsimp only [taken]
    rw [hpkt]
    rfl
  | receiveSerializedFromSide sideId bytes =>
    refine ⟨hcompare _, hcompare _, fun pkt hpkt => ⟨trivial, hadmits pkt _ ?_⟩⟩
    dsimp only [taken]
    rw [hpkt]
    rfl
  | receiveFromSide sideId view =>
    refine fun pkt hpkt => hadmits pkt _ ?_
    dsimp only [taken]
    rw [hpkt]
    rfl
  | rxSerializedPacketToQueue bytes => exact ⟨hcompare _, fun _ _ => trivial⟩
  | rxPacketToQueue view => exact fun _ _ => trivial
  | rxSerializedPacketToQueueFromSide sideId bytes => exact ⟨hcompare _, hcompare _, fun _ _ => trivial⟩
  | rxPacketToQueueFromSide sideId view => exact fun _ _ => trivial
  | reliableTimeouts => exact h.due rfl
  | endToEndTimeouts => exact ⟨h.again rfl, h.requeues rfl⟩
  | receiveNext =>
    intro item hitem
    refine ⟨hcompare _, hadmits _ _ ?_⟩
    dsimp only [taken]
    rw [Option.mem_def.mp hitem]
    rfl
  | transmitNext =>
    intro item hitem
    exact ⟨h.carries rfl item hitem, h.silent _ rfl rfl, h.silent _ rfl rfl, h.entry rfl item hitem⟩
  | _ => trivial

/-- `Sends` where every packet may be queued. -/
theorem Sends.of_any {S : Schema} {Z : Codec} {E : Env} {r : Router} {act : Act}
    (hsilent : ∀ e : Obs, e.silent = true → Q e) (hhears : ∀ read, Q (.hears read (E.clock read)))
    (hconf : ∀ setting, act = .configure setting → Q .configures)
    (hdue : act = .reliableTimeouts → ∀ key bytes, r.HoldsDue (r.nowMs E).1 key bytes → Q (.transmit (sideOfKey key) bytes))
    (hrequest : ∀ pkt srcSide, r.taken S Z act = some (pkt, srcSide) → packetId S pkt ∉ r.recentSet →
      ∀ sideId bytes, Requests S r.toOwner pkt srcSide sideId bytes → Q (.transmit sideId bytes))
    (hagain : act = .endToEndTimeouts → ∀ id, Q (.requeues id))
    (hcarries : act = .transmitNext → ∀ item ∈ r.txQueue.items.head?, ∀ sideId side, r.egressSide sideId = some side →
      (item.dstSide = some sideId ∨ S.sideAcceptsPacket side item.pkt = true) → Carries Q S Z sideId item) :
    Sends (fun _ => True) Q (fun _ _ => True) S Z E r act where
  silent e he _ := hsilent e he
  peer _ _ _ _ _ e he := hsilent e (Obs.silent_of_fromPeer (peerEvent_fromPeer he))
  hears := hhears
  configure := hconf
  routed _ _ := trivial
  ack _ _ _ _ := trivial
  response _ _ _ _ := trivial
  due := hdue
  request := hrequest
  latest _ _ _ _ _ _ := trivial
  again := hagain
  requeues _ _ _ _ := ⟨fun _ _ _ => trivial, fun _ => trivial⟩
  carries := hcarries
  entry _ _ _ _ _ _ _ := trivial

/-- What is allowed to every act where only what goes to the sides matters. -/
theorem grants_of_silent {S : Schema} (hsilent : ∀ e : Obs, e.silent = true → Q e) : Grants (fun _ => True) Q S :=
  ⟨⟨fun _ _ _ _ _ _ _ => trivial, fun e he => hsilent e (Obs.silent_of_plain he)⟩, fun _ => hsilent _ rfl,
    fun _ _ _ _ _ => trivial, fun _ _ _ _ _ _ => trivial, fun _ _ _ _ => trivial⟩

/-! ## Acts -/

section

variable (S : Schema) (G : Grants P Q S) (Z : Codec) (E : Env)

theorem setUp_performs (r : Router) (setup : Setup) : Performs P Q R M K r (r.setUp S E setup).2 := by
  have hsame : ∀ r' : Router, r'.toOwner.emitFrame = r.toOwner.emitFrame → r.clockReads ≤ r'.clockReads → r'.discoveryRoutes = r.discoveryRoutes →
      r'.obs = r.obs → r'.locals = r.locals → r'.endToEndReliableTx = r.endToEndReliableTx →
      r'.managedVariableLatest = r.managedVariableLatest → Performs P Q R M K r r' := by
    intro r' hframe hreads hroutes hobs
    unfold Owner.emitFrame at hframe
    simp only [Prod.mk.injEq] at hframe
    obtain ⟨⟨hqueue, hreleased, hstreams, hmemory, hsides, htuning⟩, htx⟩ := hframe
    apply Performs.of_eq
    apply Owner.Performs.of_eq _ hmemory (fun _ => congrArg₂ Prod.mk hsides htuning) hreads (hroutes ▸ .refl) hqueue hreleased hstreams hobs
    unfold Owner.emitFrame
    simp only [Prod.mk.injEq]
    exact htx
  cases setup with
  | setSender sender => exact hsame _ rfl (Nat.le_refl _) rfl rfl rfl rfl rfl
  | setSenderId sender => exact hsame _ rfl (Nat.le_refl _) rfl rfl rfl rfl rfl
  | setRuntimeDeviceIdentifier device =>
    dsimp only [setUp]
    split
    · exact .refl r
    · exact hsame _ rfl (Nat.le_refl _) rfl rfl rfl rfl rfl
  | configureAddress mode requested =>
    dsimp only [setUp]
    split
    · exact .refl r
    · exact hsame _ rfl (Nat.le_refl _) rfl rfl rfl rfl rfl
  | currentAddress => exact (localP2pAddress_does r).performs
  | resolveHostnameAddress hostname =>
    dsimp only [setUp, resolveP2pHost]
    split
    · exact (localP2pAddress_does r).performs
    · exact .refl r
  | bindP2pPort port =>
    dsimp only [setUp]
    split
    · exact .refl r
    · exact hsame _ rfl (Nat.le_refl _) rfl rfl rfl rfl rfl
  | clearP2pPort port => exact hsame _ rfl (Nat.le_refl _) rfl rfl rfl rfl rfl
  | bindP2pStreamPort port =>
    dsimp only [setUp]
    split
    · exact .refl r
    · exact hsame _ rfl (Nat.le_refl _) rfl rfl rfl rfl rfl
  | clearP2pStreamPort port => exact hsame _ rfl (Nat.le_refl _) rfl rfl rfl rfl rfl
  | enableNetworkVariable ty canRead canWrite =>
    dsimp only [setUp]
    split
    · exact .refl r
    · exact hsame _ rfl (Nat.le_refl _) rfl rfl rfl rfl rfl
  | onNetworkVariableUpdate ty installed =>
    dsimp only [setUp]
    split
    · exact .refl r
    · exact hsame _ rfl (Nat.le_refl _) rfl rfl rfl rfl rfl
  | disableManagedVariable ty =>
    refine ⟨⟨.refl _, rfl, fun id sent' h => ⟨sent', .refl sent', fun _ => rfl, .inl h⟩, ?_⟩, .of_eq rfl rfl⟩
    intro e he
    exact .inl ⟨e, Map.mem_erase he, rfl⟩
  | configureTimesync enabled role priority sourceTimeoutMs announceIntervalMs requestIntervalMs =>
    dsimp only [setUp, configureTimesync]
    split
    · exact hsame _ rfl (Nat.le_succ _) rfl rfl rfl rfl rfl
    · exact hsame _ rfl (Nat.le_refl _) rfl rfl rfl rfl rfl
  | getNetworkTimeMs =>
    dsimp only [setUp, getNetworkTimeMs]
    split
    · exact .refl r
    · refine Performs.trans ?_ (currentNetworkMs_does E _).performs
      have hread : Performs P Q R M K r (r.setOwner (r.toOwner.nowMs E).2) := hsame _ rfl (Nat.le_succ _) rfl rfl rfl rfl rfl
      unfold switchSource
      split
      · exact .refl r
      · dsimp only
        split
        · exact hread
        · split
          · exact hread
          · refine (hread.trans (currentNetworkMs_does E _).performs).trans ?_
            exact .of_eq (.refl _) rfl rfl rfl
  | setLocalNetworkTime unixMs => exact hsame _ rfl (Nat.le_succ _) rfl rfl rfl rfl rfl

/-! ### Messages -/

include G

theorem logBytesEx_performs {r : Router} {ty : UInt32} {data : Bytes} {timestamp : Option UInt64} {queue : Bool}
    (hpkt : P ⟨(logPacket S E r ty data timestamp).1, none, none, queue⟩) :
    Performs P Q R M K r (logBytesEx S Z E r ty data timestamp queue).2 := by
  unfold logBytesEx
  split
  · exact .refl r
  · have hmade : Performs P Q R M K r (logPacket S E r ty data timestamp).2 := by
      unfold logPacket
      cases timestamp with
      | some ts => exact .refl r
      | none => exact .setOwner r (Emits.nowMs E r.toOwner).performs
    dsimp only
    generalize logPacket S E r ty data timestamp = p at hmade hpkt ⊢
    obtain ⟨pkt, r₁⟩ := p
    dsimp only at hmade hpkt ⊢
    apply hmade.trans
    apply Performs.setOwner
    have hshown : Owner.Performs P Q R r₁.toOwner (if queue = true then r₁.toOwner
        else dispatchLocalFromPacket S Z E r₁.deviceIdentifier r₁.locals pkt r₁.toOwner) := by
      split
      · exact .refl _
      · exact (dispatchLocalFromPacket_emits S G.allows Z E _ _ pkt _).performs
    exact hshown.trans (submitTx_performs _ hpkt G.lost queue)

theorem transmitMessageQueue_performs {r : Router} {view : SedsPacketView}
    (hview : ∀ pkt, packetFromView S view = some pkt → R pkt ∧ P ⟨pkt, none, none, true⟩) :
    Performs P Q R M K r (transmitMessageQueue S r view).2 := by
  unfold transmitMessageQueue
  cases hpkt : packetFromView S view with
  | none => exact .refl r
  | some pkt =>
    dsimp only
    apply Performs.setOwner
    split
    · exact submitRx_performs r.toOwner (hview pkt hpkt).1 G.lost true
    · exact submitTx_performs r.toOwner (hview pkt hpkt).2 G.lost true

theorem transmitMessage_performs {r : Router} {view : SedsPacketView}
    (hview : ∀ pkt, packetFromView S view = some pkt → R pkt ∧ P ⟨pkt, none, none, true⟩) :
    Performs P Q R M K r (transmitMessage S E r view).2 := by
  unfold transmitMessage
  cases packetFromView S view with
  | none => exact .refl r
  | some pkt =>
    dsimp only
    split
    · exact .setOwner r (dispatchLocalPacketHandlers_emits S G.allows E r.deviceIdentifier r.locals pkt r.toOwner).performs
    · exact transmitMessageQueue_performs S G hview

theorem transmitSerializedMessageQueue_performs {r : Router} {bytes : Bytes} (hparses : Parses Q S Z bytes)
    (hpkt : ∀ pkt, deserializePacket S Z bytes = some pkt → P ⟨pkt, none, none, true⟩) :
    Performs P Q R M K r (transmitSerializedMessageQueue S Z r bytes).2 := by
  have hparsed : Owner.Performs P Q R r.toOwner (r.toOwner.deserializePacket S Z bytes).2 := (Emits.observe _ hparses).performs
  unfold transmitSerializedMessageQueue
  unfold Owner.deserializePacket at hparsed ⊢
  dsimp only at hparsed ⊢
  cases hdecoded : deserializePacket S Z bytes with
  | none => exact .setOwner r hparsed
  | some pkt => exact .setOwner r (hparsed.trans (submitTx_performs _ (hpkt pkt hdecoded) G.lost false))

/-! ### Peer to peer -/

omit G in
theorem resolveP2pHost_performs (r : Router) (hostname : Bytes) : Performs P Q R M K r (r.resolveP2pHost hostname).2 := by
  unfold resolveP2pHost
  split
  · exact (localP2pAddress_does r).performs
  · exact .refl r

omit G in
theorem resolveP2pAddress_performs (r : Router) (address : UInt32) : Performs P Q R M K r (r.resolveP2pAddress address).2 := by
  unfold resolveP2pAddress
  dsimp only
  split
  · exact (localP2pAddress_does r).performs
  · exact (localP2pAddress_does r).performs

theorem enqueueP2pPacket_performs (r : Router) (dstPort srcPort : UInt16) (payload : Bytes) :
    Performs P Q R M K r (enqueueP2pPacket S E r dstPort srcPort payload).2 :=
  (enqueueP2pPacket_does S E (G.own S.p2pTypeId List.mem_cons_self) r dstPort srcPort payload).performs

theorem sendP2p_performs {r : Router} {found : Option (Bytes × UInt32) × Router} (hfound : Performs P Q R M K r found.2)
    (dstPort srcPort : UInt16) (payload : Bytes) : Performs P Q R M K r (sendP2p S E found dstPort srcPort payload).2 := by
  obtain ⟨peer, r₁⟩ := found
  cases peer with
  | none => exact hfound
  | some peer => exact hfound.trans (enqueueP2pPacket_performs S G E r₁ dstPort srcPort payload)

theorem openP2pStream_performs {r : Router} {found : Option (Bytes × UInt32) × Router} (hfound : Performs P Q R M K r found.2)
    (dstPort srcPort : UInt16) : Performs P Q R M K r (openP2pStream S E found dstPort srcPort).2 := by
  obtain ⟨peer, r₁⟩ := found
  cases peer with
  | none => exact hfound
  | some peer =>
    apply hfound.trans
    dsimp only [openP2pStream]
    split
    · exact .refl r₁
    · split
      · exact .of_eq (.refl _) rfl rfl rfl
      · refine Performs.trans ?_ (enqueueP2pPacket_performs S G E _ _ _ _)
        exact .of_eq (.refl _) rfl rfl rfl

theorem openP2pStreamToAddress_performs (r : Router) (address : UInt32) (dstPort srcPort : UInt16) :
    Performs P Q R M K r (openP2pStreamToAddress S E r address dstPort srcPort).2 := by
  unfold openP2pStreamToAddress
  split
  · exact .refl r
  · exact openP2pStream_performs S G E (resolveP2pAddress_performs r address) dstPort srcPort

theorem sendP2pStreamControl_performs (r : Router) (streamId : UInt32) (flags : UInt8) (payload : Bytes) :
    Performs P Q R M K r (sendP2pStreamControl S E r streamId flags payload).2 := by
  unfold sendP2pStreamControl
  cases r.p2pStreamSessions.lookup streamId with
  | none => exact .refl r
  | some session =>
    dsimp only
    generalize hcounted : ({ r with p2pStreamSessions := r.p2pStreamSessions.insert streamId { session with
      nextSequence := if session.nextSequence + 1 = 0 then 1 else session.nextSequence + 1 } } : Router) = r₁
    have hstart : Performs P Q R M K r r₁ := by
      subst hcounted
      exact .of_eq (.refl _) rfl rfl rfl
    have hsent := hstart.trans (enqueueP2pPacket_performs S G E r₁ session.peerPort session.localPort
      (encodeP2pStreamPayload flags streamId session.peerStreamId session.nextSequence payload))
    split
    · exact hsent.trans (.of_eq (.refl _) rfl rfl rfl)
    · exact hsent

/-! ### Managed variables -/

omit G in
theorem enablePolicy_performs (r : Router) (ty : UInt32) : Performs P Q R M K r (r.enablePolicy ty).2 :=
  .of_eq (.refl _) rfl rfl rfl

theorem queueManagedRequest_performs (r : Router) (ty : UInt32) : Performs P Q R M K r (queueManagedRequest S E r ty).2 := by
  unfold queueManagedRequest
  split
  · exact .refl r
  · exact (currentNetworkMs_does E r).performs.trans (.setOwner _ (Emits.enqueueTxAt false _ (G.own _ (by simp [ownTypes]) _ _ _)).performs)

theorem requestManagedVariable_performs (r : Router) (ty : UInt32) :
    Performs P Q R M K r (requestManagedVariable S E r ty).2 := by
  unfold requestManagedVariable
  split
  · exact .refl r
  · dsimp only
    split
    · exact enablePolicy_performs r ty
    · exact (enablePolicy_performs r ty).trans (queueManagedRequest_performs S G E _ ty)

theorem rememberManagedPacket_performs (r : Router) {pkt : PacketData} (hpkt : M pkt) :
    Performs P Q R M K r (rememberManagedPacket S Z E r pkt).2 := by
  unfold rememberManagedPacket
  split
  · exact .refl r
  · exact (enablePolicy_performs r pkt.ty).trans (rememberManagedVariablePacket_does S G.allows Z E hpkt _).performs

theorem setNetworkVariablePacked_performs {r : Router} {bytes : Bytes} (hparses : Parses Q S Z bytes)
    (hpkt : ∀ pkt, deserializePacket S Z bytes = some pkt → M pkt ∧ P ⟨pkt, none, none, false⟩) :
    Performs P Q R M K r (setNetworkVariablePacked S Z E r bytes).2 := by
  have hparsed : Performs P Q R M K r (r.setOwner (r.toOwner.deserializePacket S Z bytes).2) :=
    .setOwner r (Emits.observe _ hparses).performs
  unfold setNetworkVariablePacked
  unfold Owner.deserializePacket at hparsed ⊢
  dsimp only at hparsed ⊢
  cases hdecoded : deserializePacket S Z bytes with
  | none => exact hparsed
  | some pkt =>
    have henabled := hparsed.trans (enablePolicy_performs _ pkt.ty)
    dsimp only
    split
    · exact henabled
    · have hkept := henabled.trans (rememberManagedPacket_performs S G Z E _ (hpkt pkt hdecoded).1)
      split
      · exact hkept
      · exact hkept.trans (.setOwner _ (Emits.enqueueTxAt false _ (hpkt pkt hdecoded).2).performs)

theorem seedManagedVariablePacked_performs {r : Router} {bytes : Bytes} (hparses : Parses Q S Z bytes)
    (hpkt : ∀ pkt, deserializePacket S Z bytes = some pkt → M pkt) :
    Performs P Q R M K r (seedManagedVariablePacked S Z E r bytes).2 := by
  have hparsed : Performs P Q R M K r (r.setOwner (r.toOwner.deserializePacket S Z bytes).2) :=
    .setOwner r (Emits.observe _ hparses).performs
  unfold seedManagedVariablePacked
  unfold Owner.deserializePacket at hparsed ⊢
  dsimp only at hparsed ⊢
  cases hdecoded : deserializePacket S Z bytes with
  | none => exact hparsed
  | some pkt => exact hparsed.trans (rememberManagedPacket_performs S G Z E _ (hpkt pkt hdecoded))

theorem getNetworkVariablePacked_performs (r : Router) (ty staleAfterMs : UInt32) :
    Performs P Q R M K r (getNetworkVariablePacked S E r ty staleAfterMs).2 := by
  unfold getNetworkVariablePacked
  split
  · exact .refl r
  · cases r.managedVariableLatest.lookup ty with
    | none => exact queueManagedRequest_performs S G E r ty
    | some latest =>
      have hread : Performs P Q R M K r (r.setOwner (r.toOwner.nowMs E).2) := .setOwner r (Emits.nowMs E r.toOwner).performs
      dsimp only
      split
      · exact .refl r
      · split
        · exact hread.trans (queueManagedRequest_performs S G E _ ty)
        · exact hread

/-! ### Time sync and discovery -/

theorem pollRole_performs (r : Router) (now : UInt64) : Performs P Q R M K r (pollRole S E r now) := by
  unfold pollRole
  dsimp only
  split
  · apply (currentNetworkMs_does E r).performs.trans
    exact .of_eq (Emits.enqueueTxAt true _ (G.own _ (by simp [ownTypes]) _ _ _)).performs rfl rfl rfl
  · split
    · unfold requestTime
      dsimp only
      generalize (if r.timesync.currentSource.isEmpty = true then r.routedSource else r.timesync.currentSource) = source
      split
      · exact .refl r
      · exact .of_eq (Emits.enqueueTxAt true _ (G.own _ (by simp [ownTypes]) _ _ _)).performs rfl rfl rfl
    · exact .refl r

theorem pollTimesync_performs (r : Router) : Performs P Q R M K r (pollTimesync S E r) := by
  unfold pollTimesync
  split
  · exact .refl r
  · refine Performs.trans ?_ (pollRole_performs S G E _ _)
    exact .of_eq (Emits.nowMs E r.toOwner).performs rfl rfl rfl

/-! ### Ingress -/

omit G in
/-- What a receipt needs of the router is what decides about copies and requests, and its managed variables. -/
theorem Admits.of_eq {r r' : Router} {pkt : PacketData} {srcSide : Option Int32} (hadmits : Admits P Q M S E r pkt srcSide)
    (htx : r'.toOwner.requestView = r.toOwner.requestView) (hlatest : r'.managedVariableLatest = r.managedVariableLatest)
    (hpeer : r'.peerEvent pkt = r.peerEvent pkt) : Admits P Q M S E r' pkt srcSide := by
  unfold Owner.requestView at htx
  simp only [Prod.mk.injEq] at htx
  obtain ⟨hstreams, hrecent, hactive⟩ := htx
  refine ⟨hadmits.id, hadmits.source, hadmits.ack, ?_, ?_⟩
  · rw [hrecent]
    exact hadmits.remember
  rw [hrecent]
  intro hfresh
  have h := hadmits.fresh hfresh
  refine ⟨h.id, h.source, h.ack, h.forward, ?_, ?_, h.p2p, ?_, h.response, h.kept, h.hears⟩
  · intro sideId bytes hrequests
    apply h.request
    unfold Requests Holds at hrequests ⊢
    rwa [hstreams, hactive] at hrequests
  · intro latest hrequested
    apply h.latest
    unfold requestedVariable at hrequested ⊢
    rwa [hlatest] at hrequested
  · rw [hpeer]
    exact h.peer

theorem receivePacket_performs {r : Router} {item : RxItem} (h : Takes P Q M S E r item.pkt item.srcSide) :
    Performs P Q R M K r (receivePacket S Z E r item) := by
  have hnoted : Performs P Q R M K r (r.setOwner (r.toOwner.observe (.receive item))) :=
    .setOwner r (Emits.observe _ (h.receive item)).performs
  have hreceives : Admits P Q M S E (r.setOwner (r.toOwner.observe (.receive item))) item.pkt item.srcSide :=
    h.admits.of_eq S E rfl rfl rfl
  exact hnoted.trans (routerReceiveImpl_does S G.allows Z E hreceives).performs

omit G in
theorem dispatchLocalSerializedHandlers_requestView (locals : List LocalEndpoint) (endpoints : List UInt32) (bytes : Bytes)
    (o : Owner) : (dispatchLocalSerializedHandlers E locals endpoints bytes o).requestView = o.requestView := by
  obtain ⟨calls, obs, heq⟩ := dispatchLocalSerializedHandlers_calls E locals endpoints bytes o
  rw [heq]
  rfl

omit G in
theorem dispatchLocalSerializedHandlers_of_unshown {locals : List LocalEndpoint} {endpoints : List UInt32}
    (h : shownTo locals endpoints = false) (bytes : Bytes) (o : Owner) :
    dispatchLocalSerializedHandlers E locals endpoints bytes o = o := by
  have hnone : ∀ l ∈ locals.zipIdx, (endpoints.contains l.1.endpoint && l.1.serializedHandler) = false := by
    intro l hl
    have hmem : l.1 ∈ locals := (List.mem_zipIdx' hl).2 ▸ List.getElem_mem _
    exact Bool.eq_false_of_not_eq_true (List.any_eq_false.mp h l.1 hmem)
  unfold dispatchLocalSerializedHandlers
  generalize locals.zipIdx = xs at hnone
  induction xs with
  | nil => rfl
  | cons l rest ih =>
    rw [List.foldl_cons, hnone l List.mem_cons_self]
    exact ih fun l' hl' => hnone l' (List.mem_cons_of_mem l hl')

/-- How the packet an act takes comes to its receipt, or is dropped on the way. What it has released goes to the queue
    after it. -/
inductive Arrives (P : TxItem → Prop) (Q : Obs → Prop) (R : PacketData → Prop) (S : Schema) (Z : Codec) (E : Env)
    (taken : Option (PacketData × Option Int32)) (r r' : Router) : Prop where
  | drops (o : Owner) (hmoves : Owner.Performs P Q R r.toOwner o) (heq : r' = r.setOwner o)
  | takes (o : Owner) (item : RxItem) (hmoves : Owner.Performs P Q R r.toOwner o)
      (hview : o.requestView = r.toOwner.requestView) (htaken : taken = some (item.pkt, item.srcSide))
      (heq : r' = receivePacket S Z E (r.setOwner o) item ∨
        r' = (receivePacket S Z E (r.setOwner o) item).setOwner
          (receivePacket S Z E (r.setOwner o) item).toOwner.flushReleased)

theorem Arrives.performs {taken : Option (PacketData × Option Int32)} {r r' : Router} (h : Arrives P Q R S Z E taken r r')
    (htakes : ∀ pkt srcSide, taken = some (pkt, srcSide) → Takes P Q M S E r pkt srcSide) : Performs P Q R M K r r' := by
  cases h with
  | drops o hmoves heq =>
    subst heq
    exact .setOwner r hmoves
  | takes o item hmoves hview htaken heq =>
    have htakes := htakes item.pkt item.srcSide htaken
    have hreceives : Takes P Q M S E (r.setOwner o) item.pkt item.srcSide :=
      ⟨htakes.receive, htakes.admits.of_eq S E hview rfl rfl⟩
    have hreceived := (Performs.setOwner r hmoves).trans (receivePacket_performs (R := R) (K := K) S G Z E hreceives)
    rcases heq with rfl | rfl
    · exact hreceived
    · exact hreceived.trans (.setOwner _ (flushReleased_performs _ G.lost))

section

variable (C : Controls P Q S)

omit G

theorem receive_arrives (r : Router) (view : SedsPacketView) :
    Arrives P Q R S Z E (r.taken S Z (.receive view)) r (receive S Z E r view).2 := by
  unfold receive
  cases hpkt : packetFromView S view with
  | none => exact .drops r.toOwner (.refl _) rfl
  | some pkt =>
    have htaken : r.taken S Z (.receive view) = some (pkt, none) := congrArg (Option.map (·, none)) hpkt
    exact .takes r.toOwner ⟨pkt, none, [], []⟩ (.refl _) rfl htaken (.inl rfl)

theorem receiveFromSide_arrives (r : Router) (sideId : UInt32) (view : SedsPacketView) :
    Arrives P Q R S Z E (r.taken S Z (.receiveFromSide sideId view)) r (receiveFromSide S Z E r sideId view).2 := by
  unfold receiveFromSide
  cases hpkt : packetFromView S view with
  | none => exact .drops r.toOwner (.refl _) rfl
  | some pkt =>
    have htaken : r.taken S Z (.receiveFromSide sideId view) = some (pkt, some sideId.toInt32) :=
      congrArg (Option.map (·, some sideId.toInt32)) hpkt
    dsimp only
    split
    · exact .drops r.toOwner (.refl _) rfl
    · exact .takes r.toOwner ⟨pkt, some sideId.toInt32, [], []⟩ (.refl _) rfl htaken (.inl rfl)

theorem queueReliableControl_requestView (controlTy : UInt32) (o : Owner) (sideId : Int32) (ty seq : UInt32) :
    (o.queueReliableControl S E controlTy sideId ty seq).requestView = o.requestView := by
  obtain ⟨reads, queue, peak, l, heq, -⟩ := queueReliableControl_writes (S := S) (E := E) controlTy o sideId ty seq
  rw [heq]
  rfl

/-- A frame that is passed on does not touch the sending half. -/
theorem processReliableIngress_requestView {o o' : Owner} {sideId : Int32} {frame : FrameInfoLite} {pkt : PacketData} {bytes : Bytes}
    (h : o.processReliableIngress S E sideId frame pkt bytes = (true, o')) : o'.requestView = o.requestView := by
  unfold processReliableIngress at h
  cases hhdr : frame.reliable with
  | none =>
    rw [hhdr] at h
    cases h
    rfl
  | some hdr =>
    rw [hhdr] at h
    dsimp only at h
    split at h
    · cases h
    · split at h
      · cases h
        rfl
      · split at h
        · cases h
          exact queueReliableControl_requestView S E _ _ _ _ _
        · split at h
          · cases h
          · split at h
            · cases h
            · cases h
              exact queueReliableControl_requestView S E _ _ _ _ _

include C

/-- A frame is shown to the handlers that are registered on its endpoints. -/
theorem dispatchShown_emits {locals : List LocalEndpoint} {endpoints : List UInt32}
    (hcalls : shownTo locals endpoints = true → ∀ e : Obs, e.plain = true → Q e) (bytes : Bytes) (o : Owner) :
    Emits P Q o (dispatchLocalSerializedHandlers E locals endpoints bytes o) := by
  cases hshown : shownTo locals endpoints with
  | true => exact dispatchLocalSerializedHandlers_emits S ⟨C.control, hcalls hshown⟩ E locals _ bytes o
  | false =>
    rw [dispatchLocalSerializedHandlers_of_unshown E hshown]
    exact .refl o

/-- The same where some types are hidden from the handlers. -/
theorem dispatchUnlessHidden_emits {r : Router} (hides : UInt32 → Bool) {bytes : Bytes} {frame : FrameInfoLite}
    (hframe : peekFrameInfo S Z bytes true = some frame)
    (hcalls : r.shownFrame S Z hides bytes = true → ∀ e : Obs, e.plain = true → Q e) (o : Owner) :
    Emits P Q o (if hides frame.envelope.ty = true then o
      else dispatchLocalSerializedHandlers E r.locals frame.envelope.endpoints bytes o) ∧
    (if hides frame.envelope.ty = true then o
      else dispatchLocalSerializedHandlers E r.locals frame.envelope.endpoints bytes o).requestView = o.requestView := by
  split
  · exact ⟨.refl o, rfl⟩
  · rename_i hvisible
    refine ⟨dispatchShown_emits S E C ?_ bytes o, dispatchLocalSerializedHandlers_requestView E _ _ _ o⟩
    intro hshown
    apply hcalls
    unfold shownFrame
    rw [hframe, Option.any_some, hshown, Bool.eq_false_of_not_eq_true hvisible]
    rfl

theorem receiveSerialized_arrives {r : Router} {bytes : Bytes} (hpeeks : Peeks Q S Z bytes) (hparses : Parses Q S Z bytes)
    (hcalls : r.shows S Z E (.receiveSerialized bytes) = true → ∀ e : Obs, e.plain = true → Q e) :
    Arrives P Q R S Z E (r.taken S Z (.receiveSerialized bytes)) r (receiveSerialized S Z E r bytes).2 := by
  have hparsed : Emits P Q r.toOwner ((r.toOwner.peekFrameInfo S Z bytes).2.deserializePacket S Z bytes).2 :=
    (Emits.observe _ hpeeks).trans (.observe _ hparses)
  have hview₁ : ((r.toOwner.peekFrameInfo S Z bytes).2.deserializePacket S Z bytes).2.requestView = r.toOwner.requestView := rfl
  unfold receiveSerialized
  unfold Owner.deserializePacket Owner.peekFrameInfo at hparsed hview₁ ⊢
  dsimp only at hparsed hview₁ ⊢
  generalize (r.toOwner.observe (.compare (comparedNames S ((Read.peekFrameInfo S Z bytes true).trace 0)))).observe
    (.compare (comparedNames S ((Read.deserializePacket S Z bytes).trace 0))) = o at hparsed hview₁ ⊢
  cases hframe : peekFrameInfo S Z bytes true with
  | none => exact .drops _ hparsed.performs rfl
  | some frame =>
    cases hpkt : deserializePacket S Z bytes with
    | none => exact .drops _ hparsed.performs rfl
    | some pkt =>
      have htaken : r.taken S Z (.receiveSerialized bytes) = some (pkt, none) := congrArg (Option.map (·, none)) hpkt
      obtain ⟨hshown, hview⟩ := dispatchUnlessHidden_emits S Z E C (r := r)
        (fun ty => isDiscoveryControlType ty || isTimeSyncType ty) hframe hcalls o
      exact .takes _ ⟨pkt, none, bytes, bytes⟩ (hparsed.trans hshown).performs (hview.trans hview₁) htaken (.inl rfl)

theorem receiveSerializedFromSide_arrives {r : Router} {sideId : UInt32} {bytes : Bytes} (hpeeks : Peeks Q S Z bytes)
    (hparses : Parses Q S Z bytes) (hpkt : ∀ pkt, deserializePacket S Z bytes = some pkt → R pkt)
    (hcalls : r.shows S Z E (.receiveSerializedFromSide sideId bytes) = true → ∀ e : Obs, e.plain = true → Q e) :
    Arrives P Q R S Z E (r.taken S Z (.receiveSerializedFromSide sideId bytes)) r
      (receiveSerializedFromSide S Z E r sideId bytes).2 := by
  have hpeeked : Owner.Performs P Q R r.toOwner (r.toOwner.peekFrameInfo S Z bytes).2 := (Emits.observe _ hpeeks).performs
  have hingests : r.shows S Z E (.receiveSerializedFromSide sideId bytes) =
    (r.ingests S Z E sideId bytes && r.shownFrame S Z hiddenFromSerializedHandlers bytes) := rfl
  unfold receiveSerializedFromSide
  unfold ingests at hingests
  unfold Owner.peekFrameInfo at hpeeked hingests ⊢
  dsimp only at hpeeked hingests ⊢
  generalize ho₁ : r.toOwner.observe (.compare (comparedNames S ((Read.peekFrameInfo S Z bytes true).trace 0))) = o₁
    at hpeeked hingests ⊢
  have hview₁ : o₁.requestView = r.toOwner.requestView := by
    rw [← ho₁]
    rfl
  cases hframe : peekFrameInfo S Z bytes true with
  | none => exact .drops _ hpeeked rfl
  | some frame =>
    rw [hframe] at hingests
    dsimp only at hingests ⊢
    split
    · exact .drops _ hpeeked rfl
    · cases hack : frame.ackOnly with
      | true => exact .drops _ (hpeeked.trans (ingestAck_emits S E o₁ sideId hack bytes).performs) rfl
      | false =>
        have hparsed : Owner.Performs P Q R r.toOwner (o₁.deserializePacket S Z bytes).2 :=
          hpeeked.trans (Emits.observe o₁ hparses).performs
        have hview₂ : (o₁.deserializePacket S Z bytes).2.requestView = r.toOwner.requestView := hview₁
        rw [if_neg (by simp)]
        unfold Owner.deserializePacket at hparsed hingests hview₂ ⊢
        dsimp only at hparsed hingests hview₂ ⊢
        generalize o₁.observe (.compare (comparedNames S ((Read.deserializePacket S Z bytes).trace 0))) = o₂
          at hparsed hingests hview₂ ⊢
        cases hdecoded : deserializePacket S Z bytes with
        | none => exact .drops _ hparsed rfl
        | some pkt =>
          rw [hdecoded] at hingests
          dsimp only at hingests ⊢
          have hingested := hparsed.trans
            (processReliableIngress_performs S C E o₂ sideId.toInt32 frame (hpkt pkt hdecoded) bytes)
          cases hprocess : o₂.processReliableIngress S E sideId.toInt32 frame pkt bytes with
          | mk ok o₃ =>
            rw [hprocess] at hingested hingests
            cases ok with
            | false => exact .drops _ hingested rfl
            | true =>
              have hview₃ := (processReliableIngress_requestView S E hprocess).trans hview₂
              obtain ⟨hshown, hview₄⟩ := dispatchUnlessHidden_emits S Z E C (r := r) hiddenFromSerializedHandlers hframe
                (fun hshown => hcalls (hingests.trans hshown)) o₃
              have htaken : r.taken S Z (.receiveSerializedFromSide sideId bytes) = some (pkt, some sideId.toInt32) :=
                congrArg (Option.map (·, some sideId.toInt32)) hdecoded
              exact .takes _ ⟨pkt, some sideId.toInt32, bytes, bytes⟩ (hingested.trans hshown.performs) (hview₄.trans hview₃)
                htaken (.inr rfl)

theorem receiveNext_arrives {r : Router} (hpeeks : ∀ item ∈ r.rxQueue.items.head?, Peeks Q S Z item.wireBytes)
    (hcalls : r.shows S Z E .receiveNext = true → ∀ e : Obs, e.plain = true → Q e) :
    Arrives P Q R S Z E (r.taken S Z .receiveNext) r (r.receiveNext S Z E) := by
  unfold receiveNext
  cases hpop : r.rxQueue.pop RxItem.byteCost with
  | none => exact .drops _ (.refl _) rfl
  | some p =>
    obtain ⟨item, queue⟩ := p
    have hhead := head?_of_pop hpop
    have hpopped : Owner.Performs P Q R r.toOwner { r.toOwner with rxQueue := queue } := (popRx_performs hpop).2
    have hshows : r.shows S Z E .receiveNext =
        (!item.wireBytes.isEmpty && r.shownFrame S Z hiddenFromSerializedHandlers item.wireBytes) := by
      unfold shows
      rw [Option.mem_def.mp hhead]
      rfl
    have htaken : r.taken S Z .receiveNext = some (item.pkt, item.srcSide) :=
      congrArg (Option.map fun item : RxItem => (item.pkt, item.srcSide)) (Option.mem_def.mp hhead)
    -- showing the frame changes the owner only
    have hshown : ∃ o, Owner.Performs P Q R r.toOwner o ∧ o.requestView = r.toOwner.requestView ∧
        showFrame S Z E (r.setOwner { r.toOwner with rxQueue := queue }) item.wireBytes = r.setOwner o := by
      unfold showFrame
      split
      · exact ⟨_, hpopped, rfl, rfl⟩
      · rename_i hwire
        unfold Owner.peekFrameInfo
        dsimp only
        have hpeeked : Owner.Performs P Q R r.toOwner ({ r.toOwner with rxQueue := queue }.observe
            (.compare (comparedNames S ((Read.peekFrameInfo S Z item.wireBytes true).trace 0)))) :=
          hpopped.trans (Emits.observe _ (hpeeks item hhead)).performs
        cases hframe : peekFrameInfo S Z item.wireBytes true with
        | none => exact ⟨_, hpeeked, rfl, rfl⟩
        | some frame =>
          obtain ⟨hshown, hview⟩ := dispatchUnlessHidden_emits S Z E C (r := r) hiddenFromSerializedHandlers hframe (fun hshown => hcalls (by
            rw [hshows, hshown, Bool.eq_false_of_not_eq_true hwire]
            rfl)) ({ r.toOwner with rxQueue := queue }.observe
              (.compare (comparedNames S ((Read.peekFrameInfo S Z item.wireBytes true).trace 0))))
          refine ⟨_, hpeeked.trans hshown.performs, hview, ?_⟩
          dsimp only
          split
          · rfl
          · rfl
    obtain ⟨o, hmoves, hview, heq⟩ := hshown
    dsimp only
    rw [heq]
    exact .takes o item hmoves hview htaken (.inl rfl)

end

theorem rxSerializedPacketToQueue_performs {r : Router} {bytes : Bytes} (hparses : Parses Q S Z bytes)
    (hpkt : ∀ pkt, deserializePacket S Z bytes = some pkt → R pkt) :
    Performs P Q R M K r (rxSerializedPacketToQueue S Z r bytes).2 := by
  have hparsed : Owner.Performs P Q R r.toOwner (r.toOwner.deserializePacket S Z bytes).2 := (Emits.observe _ hparses).performs
  unfold rxSerializedPacketToQueue
  unfold Owner.deserializePacket at hparsed ⊢
  dsimp only at hparsed ⊢
  cases hdecoded : deserializePacket S Z bytes with
  | none => exact .setOwner r hparsed
  | some pkt =>
    have hsubmitted : Owner.Performs P Q R (r.toOwner.observe (.compare (comparedNames S ((Read.deserializePacket S Z bytes).trace 0))))
        (submitRx _ ⟨pkt, none, bytes, bytes⟩ false).2 := submitRx_performs _ (hpkt pkt hdecoded) G.lost false
    exact .setOwner r (hparsed.trans hsubmitted)

theorem rxPacketToQueue_performs {r : Router} {view : SedsPacketView}
    (hview : ∀ pkt, packetFromView S view = some pkt → R pkt) : Performs P Q R M K r (rxPacketToQueue S r view).2 := by
  unfold rxPacketToQueue
  cases hpkt : packetFromView S view with
  | none => exact .refl r
  | some pkt =>
    have hsubmitted : Owner.Performs P Q R r.toOwner (r.toOwner.submitRx ⟨pkt, none, [], []⟩ true).2 :=
      submitRx_performs r.toOwner (hview pkt hpkt) G.lost true
    exact .setOwner r hsubmitted

/-! ### Rounds -/

omit G in
theorem processEndToEndReliableTimeouts_performs {r : Router} (hrequeues : ∀ id, Q (.requeues id))
    (hitem : ∀ id sent, r.endToEndReliableTx.lookup id = some sent → Requeues P sent) :
    Performs P Q R M K r (processEndToEndReliableTimeouts S E r) := by
  obtain ⟨hemits, hlocals, hlatest, hsent⟩ := processEndToEndReliableTimeouts_spec S E hrequeues hitem
  refine ⟨⟨hemits.moves, hlocals, ?_, fun e he => .inl (hlatest e he)⟩, hemits.calm⟩
  intro id sent' hsent'
  obtain ⟨sent, hold, hages⟩ := hsent id sent' hsent'
  exact ⟨sent, hages, fun hnone => absurd (hrequeues id) (hnone id), .inl hold⟩

/-- **Every act** moves what is granted to all acts and demanded for this one, and defers no transmission unless one is going on. -/
theorem perform_performs {r : Router} {act : Act} (h : Demands P Q R M K S Z E r act) (hact : ∀ active, act ≠ .sideTx active) :
    Performs P Q R M K r (perform S Z E r act) := by
  cases act with
  | configure setting =>
    exact .setOwner r ((Emits.observe _ h).performs.trans (configure_performs S E h (r.toOwner.observe .configures) setting))
  | setUp setup => exact setUp_performs S E r setup
  | logBytesEx ty data timestamp queue => exact logBytesEx_performs S G Z E h
  | transmitMessage view => exact transmitMessage_performs S G E h
  | transmitMessageQueue view => exact transmitMessageQueue_performs S G h
  | transmitSerializedMessageQueue bytes => exact transmitSerializedMessageQueue_performs S G Z h.1 h.2
  | sendP2pToHostname hostname dstPort srcPort payload =>
    exact sendP2p_performs S G E (resolveP2pHost_performs r hostname) dstPort srcPort payload
  | sendP2pToAddress address dstPort srcPort payload =>
    exact sendP2p_performs S G E (resolveP2pAddress_performs r address) dstPort srcPort payload
  | openP2pStreamToHostname hostname dstPort srcPort =>
    exact openP2pStream_performs S G E (resolveP2pHost_performs r hostname) dstPort srcPort
  | openP2pStreamToAddress address dstPort srcPort => exact openP2pStreamToAddress_performs S G E r address dstPort srcPort
  | sendP2pStream streamId payload => exact sendP2pStreamControl_performs S G E r streamId _ payload
  | closeP2pStream streamId => exact sendP2pStreamControl_performs S G E r streamId _ []
  | resetP2pStream streamId => exact sendP2pStreamControl_performs S G E r streamId _ []
  | requestManagedVariable ty => exact requestManagedVariable_performs S G E r ty
  | setNetworkVariablePacked bytes => exact setNetworkVariablePacked_performs S G Z E h.1 h.2
  | seedManagedVariablePacked bytes => exact seedManagedVariablePacked_performs S G Z E h.1 h.2
  | getNetworkVariablePacked ty staleAfterMs => exact getNetworkVariablePacked_performs S G E r ty staleAfterMs
  | pollTimesync => exact pollTimesync_performs S G E r
  | announceDiscovery => exact .setOwner r (queueDiscoveryPackets_performs S E _ G.discovery G.topology r.toOwner)
  | pollDiscovery => exact .setOwner r (pollDiscovery_performs S E _ G.discovery G.topology r.toOwner)
  | receiveSerialized bytes =>
    apply (receiveSerialized_arrives S Z E G.allows.controls h.1 h.2.1 fun _ => G.allows.plain).performs S G Z E
    intro pkt srcSide htaken
    obtain ⟨pkt', hpkt', heq⟩ := Option.map_eq_some_iff.mp htaken
    cases heq
    exact h.2.2 pkt hpkt'
  | receive view =>
    apply (receive_arrives S Z E r view).performs S G Z E
    intro pkt srcSide htaken
    obtain ⟨pkt', hpkt', heq⟩ := Option.map_eq_some_iff.mp htaken
    cases heq
    exact h pkt hpkt'
  | receiveSerializedFromSide sideId bytes =>
    apply (receiveSerializedFromSide_arrives S Z E G.allows.controls h.1 h.2.1 (fun pkt hpkt => (h.2.2 pkt hpkt).1)
      fun _ => G.allows.plain).performs S G Z E
    intro pkt srcSide htaken
    obtain ⟨pkt', hpkt', heq⟩ := Option.map_eq_some_iff.mp htaken
    cases heq
    exact (h.2.2 pkt hpkt').2
  | receiveFromSide sideId view =>
    apply (receiveFromSide_arrives S Z E r sideId view).performs S G Z E
    intro pkt srcSide htaken
    obtain ⟨pkt', hpkt', heq⟩ := Option.map_eq_some_iff.mp htaken
    cases heq
    exact h pkt hpkt'
  | rxSerializedPacketToQueue bytes => exact rxSerializedPacketToQueue_performs S G Z h.1 h.2
  | rxPacketToQueue view => exact rxPacketToQueue_performs S G h
  | rxSerializedPacketToQueueFromSide sideId bytes =>
    exact .setOwner r (routerRxSerializedToQueueFromSide_performs S G.allows.controls Z E r.toOwner sideId h.1 h.2.1 h.2.2 G.lost)
  | rxPacketToQueueFromSide sideId view => exact .setOwner r (rxPacketFromSide_performs S r.toOwner sideId h G.lost)
  | reliableTimeouts => exact .setOwner r (doReliableTimeouts_emits E r.toOwner h).performs
  | endToEndTimeouts => exact processEndToEndReliableTimeouts_performs S E h.1 h.2
  | receiveNext =>
    apply (receiveNext_arrives S Z E G.allows.controls (fun item hitem => (h item hitem).1) fun _ => G.allows.plain).performs S G Z E
    intro pkt srcSide htaken
    obtain ⟨item, hitem, heq⟩ := Option.map_eq_some_iff.mp htaken
    cases heq
    exact (h item hitem).2
  | transmitNext => exact (transmitNext_does S G.allows Z E h).performs
  | sideTx active => exact absurd rfl (hact active)

/-- So does the begin or end of a callback, which decides whether one is going on. -/
theorem perform_moves {r : Router} {act : Act} (h : Demands P Q R M K S Z E r act) : Moves P Q R M K r (perform S Z E r act) := by
  by_cases hact : ∃ active, act = .sideTx active
  · obtain ⟨active, rfl⟩ := hact
    exact .setOwner r (.sideTx r.toOwner active)
  · exact (perform_performs S G Z E h fun active heq => hact ⟨active, heq⟩).toMoves

end

end Router

end SedsNet
