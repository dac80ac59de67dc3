import SedsNet.Emits
import SedsNet.Router.Receive

/-!
# What a received packet can do to a router

`Router.Does` is `Owner.Emits` for routers: besides what the owner emits, a router keeps packets in two
more places, the ones it sent end to end and the latest ones of its managed variables. One lemma for
each function of the receive path; `routerReceiveImpl_does` is what they add up to.
-/

set_option autoImplicit false

namespace SedsNet

open Owner

namespace Owner

variable {P : TxItem → Prop} {Q : Obs → Prop} (S : Schema) (A : Allows P Q S) (Z : Codec) (E : Env)

/-! ## Handlers -/

theorem callEach_emits {e : Obs} {handlers : List Bool} (he : handlers.any id = true → Q e) (o : Owner) :
    Emits P Q o (callEach E e handlers o).2 := by
  induction handlers generalizing o with
  | nil => exact .refl o
  | cons cb rest ih =>
    have ih := ih fun hany => he (by rw [List.any_cons, hany, Bool.or_true])
    unfold callEach
    split
    · exact ih o
    · rename_i hcb
      have hbound : cb = true := by simpa using hcb
      have hcall := Emits.call (P := P) E o (he (by rw [List.any_cons, hbound]; rfl))
      dsimp only
      split
      · exact hcall
      · exact hcall.trans (ih _)

include A

theorem tryPacketHandler_emits (i : Nat) (pkt : PacketData) (tries : Nat) (rc : SedsResult) (o : Owner) :
    Emits P Q o (tryPacketHandler E i pkt tries rc o).2 := by
  induction tries generalizing rc o with
  | zero => exact .refl o
  | succ tries ih =>
    unfold tryPacketHandler
    have hcall := Emits.call (P := P) E o (A.plain (.packetHandler i pkt) rfl)
    dsimp only
    split
    · exact hcall
    · exact hcall.trans (ih _ _)

omit A in
/-- A loop of steps that each emit what is allowed. -/
theorem foldl_emits {α : Type} {f : Owner → α → Owner} (hf : ∀ o x, Emits P Q o (f o x)) (xs : List α) (o : Owner) :
    Emits P Q o (xs.foldl f o) := by
  induction xs generalizing o with
  | nil => exact .refl o
  | cons x xs ih => exact (hf o x).trans (ih (f o x))

theorem callIf_emits {e : Obs} (he : e.plain = true) (b : Bool) (o : Owner) :
    Emits P Q o (if b = true then (o.call E e).2 else o) := by
  cases b with
  | false => exact .refl o
  | true => exact .call E o (A.plain e he)

theorem reportError_emits (locals : List LocalEndpoint) (pkt : PacketData) (o : Owner) :
    Emits P Q o (reportError E locals pkt o) :=
  foldl_emits (fun o _ => callIf_emits S A E rfl _ o) locals.zipIdx o

theorem dispatchLocalSerializedHandlers_emits (locals : List LocalEndpoint) (endpoints : List UInt32) (bytes : Bytes)
    (o : Owner) : Emits P Q o (dispatchLocalSerializedHandlers E locals endpoints bytes o) :=
  foldl_emits (fun o _ => callIf_emits S A E rfl _ o) locals.zipIdx o

theorem dispatchLocalPacket_emits (locals : List LocalEndpoint) (pkt : PacketData) (p : Failures × Owner)
    (l : LocalEndpoint × Nat) : Emits P Q p.2 (dispatchLocalPacket E locals pkt p l).2 := by
  obtain ⟨failures, o⟩ := p
  unfold dispatchLocalPacket
  dsimp only
  split
  · have htry := tryPacketHandler_emits S A E l.2 pkt o.tuning.maxHandlerRetries SEDS_OK o
    split
    · exact htry
    · exact htry
  · exact .refl o

theorem dispatchLocalPacketHandlers_emits (device : Bytes) (locals : List LocalEndpoint) (pkt : PacketData)
    (o : Owner) : Emits P Q o (dispatchLocalPacketHandlers S E device locals pkt o).2 := by
  have hloop : ∀ (xs : List (LocalEndpoint × Nat)) (p : Failures × Owner),
      Emits P Q p.2 (xs.foldl (dispatchLocalPacket E locals pkt) p).2 := by
    intro xs
    induction xs with
    | nil => exact fun p => .refl p.2
    | cons x xs ih => exact fun p => (dispatchLocalPacket_emits S A E locals pkt p x).trans (ih _)
  have hdone := hloop locals.zipIdx (⟨none, []⟩, o)
  unfold dispatchLocalPacketHandlers
  dsimp only
  split
  · exact hdone
  · split
    · exact hdone.trans (reportError_emits S A E locals _ _)
    · exact hdone

/-! ## End-to-end acknowledgements -/

omit A

variable {srcSide : Option Int32} (hack : ∀ id ts sender, P ⟨makeE2eReliableAckPacket S id ts sender, none, srcSide, false⟩)

include hack

theorem queueE2eAck_emits (o : Owner) (id : UInt64) : Emits P Q o (Router.queueE2eAck S E o srcSide id) :=
  (Emits.nowMs E o).trans (.enqueueTxAt true _ (hack _ _ _))

theorem queueEndToEndAck_emits {pkt : PacketData} (hid : ∀ o : Owner, Emits P Q o (o.packetId S pkt).2)
    (hsource : ∀ o : Owner, Emits P Q o (o.sourcePacketId S pkt).2) (o : Owner) :
    Emits P Q o (Router.queueEndToEndAck S E o pkt srcSide) := by
  have hmark : Emits P Q o (Router.queueE2eAck S E (o.packetId S pkt).2 srcSide (o.packetId S pkt).1) :=
    (hid o).trans (queueE2eAck_emits S E hack _ _)
  have hhashed := (hmark.trans (hsource _)).trans (hid _)
  unfold Router.queueEndToEndAck
  dsimp only
  split
  · exact hhashed.trans (queueE2eAck_emits S E hack _ _)
  · exact hhashed

end Owner

namespace Router

/-- The entry of a packet sent end to end, after acknowledgements or changes of the routes: fewer
    destinations are pending. -/
structure Narrows (sent sent' : EndToEndReliableSent) : Prop where
  pkt : sent'.pkt = sent.pkt
  tracked : sent'.trackedDestinations = sent.trackedDestinations
  retries : sent'.retries = sent.retries
  pending : ∀ hash side, sent'.pendingDestinations.lookup hash = some side →
    sent.pendingDestinations.lookup hash = some side

theorem Narrows.refl (sent : EndToEndReliableSent) : Narrows sent sent := ⟨rfl, rfl, rfl, fun _ _ h => h⟩

theorem Narrows.trans {a b c : EndToEndReliableSent} (hab : Narrows a b) (hbc : Narrows b c) : Narrows a c :=
  ⟨hbc.pkt.trans hab.pkt, hbc.tracked.trans hab.tracked, hbc.retries.trans hab.retries, fun hash side h => hab.pending hash side (hbc.pending hash side h)⟩

/-- `r'` is `r` after something that emits what `P` and `Q` allow, keeps the latest packets of managed
    variables in `M`, and makes entries of packets sent end to end in `K`, of which there is a record. -/
structure Does (P : TxItem → Prop) (Q : Obs → Prop) (M : PacketData → Prop)
    (K : UInt64 → EndToEndReliableSent → Prop) (r r' : Router) : Prop where
  emits : Emits P Q r.toOwner r'.toOwner
  locals : r'.locals = r.locals
  sent : ∀ id sent', r'.endToEndReliableTx.lookup id = some sent' →
    ∃ sent, Narrows sent sent' ∧ (r.endToEndReliableTx.lookup id = some sent ∨ K id sent ∧ .tracks id ∈ r'.obs)
  latest : ∀ e ∈ r'.managedVariableLatest.entries,
    (∃ old ∈ r.managedVariableLatest.entries, old.2.pkt = e.2.pkt) ∨ M e.2.pkt

namespace Does

variable {P : TxItem → Prop} {Q : Obs → Prop} {M : PacketData → Prop} {K : UInt64 → EndToEndReliableSent → Prop}
  {r r' r'' : Router}

/-- No packet is kept that was not kept before. -/
theorem of_eq (hemits : Emits P Q r.toOwner r'.toOwner) (hlocals : r'.locals = r.locals)
    (hsent : r'.endToEndReliableTx = r.endToEndReliableTx)
    (hlatest : r'.managedVariableLatest = r.managedVariableLatest) : Does P Q M K r r' := by
  refine ⟨hemits, hlocals, ?_, ?_⟩
  · intro id sent' h
    rw [hsent] at h
    exact ⟨sent', .refl sent', .inl h⟩
  · intro e he
    rw [hlatest] at he
    exact .inl ⟨e, he, rfl⟩

theorem refl (r : Router) : Does P Q M K r r := of_eq (.refl _) rfl rfl rfl

theorem trans (h : Does P Q M K r r') (h' : Does P Q M K r' r'') : Does P Q M K r r'' := by
  refine ⟨h.emits.trans h'.emits, h'.locals.trans h.locals, ?_, ?_⟩
  · intro id sent'' hsent''
    obtain ⟨sent', hnarrows', hsent' | hnew⟩ := h'.sent id sent'' hsent''
    · obtain ⟨sent, hnarrows, hsent | ⟨hnew, htracks⟩⟩ := h.sent id sent' hsent'
      · exact ⟨sent, hnarrows.trans hnarrows', .inl hsent⟩
      · exact ⟨sent, hnarrows.trans hnarrows', .inr ⟨hnew, h'.emits.mem_obs htracks⟩⟩
    · exact ⟨sent', hnarrows', .inr hnew⟩
  · intro e he
    rcases h'.latest e he with ⟨old, hold, heq⟩ | hnew
    · rw [← heq]
      exact h.latest old hold
    · exact .inr hnew

theorem setOwner (r : Router) {o : Owner} (h : Emits P Q r.toOwner o) : Does P Q M K r (r.setOwner o) :=
  of_eq h rfl rfl rfl

end Does

section

variable {P : TxItem → Prop} {Q : Obs → Prop} {M : PacketData → Prop} {K : UInt64 → EndToEndReliableSent → Prop}
  (S : Schema) (A : Allows P Q S) (Z : Codec) (E : Env)

theorem currentNetworkMs_does (r : Router) : Does P Q M K r (r.currentNetworkMs E).2 := by
  unfold currentNetworkMs
  split
  · exact .refl r
  · exact .setOwner r (.nowMs E r.toOwner)

/-! ## Peer to peer -/

theorem localP2pAddress_does (r : Router) : Does P Q M K r r.localP2pAddress.2 := by
  unfold localP2pAddress
  split
  · exact .of_eq (.refl _) rfl rfl rfl
  · exact .refl r

section

variable (hp2p : ∀ ts payload sender, P ⟨makeInternalPacket S S.p2pTypeId ts payload sender, none, none, false⟩)

include hp2p in
theorem enqueueP2pPacket_does (r : Router) (dstPort srcPort : UInt16) (payload : Bytes) :
    Does P Q M K r (enqueueP2pPacket S E r dstPort srcPort payload).2 := by
  unfold enqueueP2pPacket
  split
  · exact .refl r
  · exact ((localP2pAddress_does r).trans (currentNetworkMs_does E _)).trans
      (.setOwner _ (.enqueueTxAt false _ (hp2p _ _ _)))

theorem callStreamHandlers_does {r : Router} {port : UInt16} {kind : UInt8} {streamId : UInt32} {payload : Bytes}
    (h : r.listensTo (.streamEvent port kind streamId payload) = true → Q (.streamEvent port kind streamId payload)) :
    Does P Q M K r (r.callStreamHandlers E port kind streamId payload).2 :=
  .setOwner r (callEach_emits E h r.toOwner)

theorem dispatchSynAck_does {r : Router} {frame : P2pStreamFrame}
    (h : ∀ session, r.p2pStreamSessions.lookup frame.destinationStreamId = some session →
      r.listensTo (.streamEvent session.localPort 2 frame.destinationStreamId frame.payload) = true →
      Q (.streamEvent session.localPort 2 frame.destinationStreamId frame.payload)) :
    Does P Q M K r (dispatchSynAck E r frame).2 := by
  unfold dispatchSynAck
  split
  · exact .refl r
  · rename_i session hsession
    refine Does.trans ?_ (callStreamHandlers_does E (h session hsession))
    exact .of_eq (.refl _) rfl rfl rfl

theorem dispatchStreamData_does {r : Router} {msg : P2pDatagram} {frame : P2pStreamFrame}
    (hplain : frame.flags ≠ 0) (hsyn : frame.flags &&& kP2pStreamSyn = 0)
    (h : ∀ e ∈ r.streamEventOf msg frame, r.listensTo e = true → Q e) :
    Does P Q M K r (dispatchStreamData E r msg frame).2 := by
  unfold streamEventOf at h
  rw [if_neg hplain, if_neg fun hopens => hopens.1 hsyn, if_neg fun hopens => hopens hsyn] at h
  unfold dispatchStreamData
  dsimp only at h ⊢
  generalize (if frame.destinationStreamId = 0 then (r.findSession msg frame).getD 0 else frame.destinationStreamId) = sessionId
    at h ⊢
  generalize (if frame.flags &&& kP2pStreamRst ≠ 0 then (5 : UInt8) else if frame.flags &&& kP2pStreamFin ≠ 0 then 4 else 3) = kind
    at h ⊢
  cases hsession : r.p2pStreamSessions.lookup sessionId with
  | none => exact .refl r
  | some session =>
    rw [hsession] at h
    have hcalled := callStreamHandlers_does (P := P) (M := M) (K := K) E (h _ rfl)
    dsimp only
    split
    · exact hcalled
    · split
      · exact hcalled.trans (.of_eq (.refl _) rfl rfl rfl)
      · exact hcalled

include hp2p

theorem openSession_does {r : Router} {msg : P2pDatagram} {frame : P2pStreamFrame}
    (h : r.allocateP2pStreamId.1 ≠ 0 → r.listensTo (.streamEvent msg.destinationPort 1 r.allocateP2pStreamId.1 frame.payload) = true →
      Q (.streamEvent msg.destinationPort 1 r.allocateP2pStreamId.1 frame.payload)) :
    Does P Q M K r (dispatchSyn.openSession S E msg frame r).2 := by
  unfold dispatchSyn.openSession
  dsimp only
  split
  · exact .of_eq (.refl _) rfl rfl rfl
  · rename_i hid
    have hopened : Does P Q M K r { r.allocateP2pStreamId.2 with
        p2pStreamSessions := r.allocateP2pStreamId.2.p2pStreamSessions.insert r.allocateP2pStreamId.1
          ⟨msg.sourceHostname, msg.sourceAddress, msg.destinationPort, msg.sourcePort, frame.sourceStreamId, 1, true⟩ } :=
      .of_eq (.refl _) rfl rfl rfl
    have hcalled := hopened.trans (callStreamHandlers_does E (h hid))
    split
    · exact hcalled
    · exact hcalled.trans (enqueueP2pPacket_does S E hp2p _ _ _ _)

theorem dispatchSyn_does {r : Router} {msg : P2pDatagram} {frame : P2pStreamFrame}
    (h : (r.findSession msg frame).getD 0 = 0 → r.allocateP2pStreamId.1 ≠ 0 →
      r.listensTo (.streamEvent msg.destinationPort 1 r.allocateP2pStreamId.1 frame.payload) = true →
      Q (.streamEvent msg.destinationPort 1 r.allocateP2pStreamId.1 frame.payload)) :
    Does P Q M K r (dispatchSyn S E r msg frame).2 := by
  unfold dispatchSyn
  cases hfound : r.findSession msg frame with
  | none =>
    rw [hfound] at h
    exact openSession_does S E hp2p (h rfl)
  | some localId =>
    rw [hfound] at h
    dsimp only
    split
    · exact enqueueP2pPacket_does S E hp2p r _ _ _
    · rename_i hzero
      exact openSession_does S E hp2p (h (not_not.mp hzero))

theorem dispatchP2pStream_does {r : Router} {msg : P2pDatagram} {frame : P2pStreamFrame}
    (h : ∀ e ∈ r.streamEventOf msg frame, r.listensTo e = true → Q e) :
    Does P Q M K r (dispatchP2pStream S E r msg frame).2 := by
  unfold dispatchP2pStream
  split
  · exact .refl r
  · rename_i hplain
    split
    · rename_i hopens
      apply dispatchSyn_does S E hp2p
      intro hnone hid
      apply h
      unfold streamEventOf
      rw [if_neg hplain, if_pos hopens, if_neg (not_or.mpr ⟨not_not.mpr hnone, hid⟩)]
      rfl
    · rename_i hopens
      split
      · rename_i hsyn
        apply dispatchSynAck_does E
        intro session hsession
        apply h
        unfold streamEventOf
        rw [if_neg hplain, if_neg hopens, if_pos hsyn, hsession]
        rfl
      · rename_i hsyn
        exact dispatchStreamData_does E hplain (not_not.mp hsyn) h

omit hp2p in
theorem streamEventOf_fromPeer {r : Router} {msg : P2pDatagram} {frame : P2pStreamFrame} {e : Obs}
    (h : e ∈ r.streamEventOf msg frame) : e.fromPeer = true := by
  unfold streamEventOf at h
  split at h
  · cases h
  · split at h
    · split at h
      · cases h
      · cases h
        rfl
    · split at h
      · obtain ⟨session, -, rfl⟩ := Option.map_eq_some_iff.mp h
        rfl
      · obtain ⟨session, -, rfl⟩ := Option.map_eq_some_iff.mp h
        rfl

omit hp2p in
theorem peerEvent_fromPeer {r : Router} {pkt : PacketData} {e : Obs} (h : e ∈ r.peerEvent pkt) : e.fromPeer = true := by
  obtain ⟨h, -⟩ := Option.filter_eq_some_iff.mp h
  unfold eventOf at h
  split at h
  · cases h
  · split at h
    · exact streamEventOf_fromPeer h
    · cases h
      rfl

omit hp2p in
/-- What the handlers are told depends on the sessions only. -/
theorem streamEventOf_of_sessions {r r' : Router} (hsessions : r'.p2pStreamSessions = r.p2pStreamSessions)
    (hnext : r'.p2pNextStreamId = r.p2pNextStreamId) (msg : P2pDatagram) (frame : P2pStreamFrame) :
    r'.streamEventOf msg frame = r.streamEventOf msg frame := by
  unfold streamEventOf findSession allocateP2pStreamId
  rw [hsessions, hnext]

theorem dispatchP2pPacket_does {r : Router} {pkt : PacketData} (h : ∀ e ∈ r.peerEvent pkt, Q e) :
    Does P Q M K r (dispatchP2pPacket S E r pkt).2 := by
  have hevent : ∀ e ∈ r.eventOf pkt, r.listensTo e = true → Q e :=
    fun e he hlistens => h e (Option.filter_eq_some_iff.mpr ⟨he, hlistens⟩)
  unfold eventOf at hevent
  unfold dispatchP2pPacket
  cases hmsg : decodeP2pPayload pkt.payload with
  | none => exact .refl r
  | some msg =>
    rw [hmsg] at hevent
    have hlearned : Does P Q M K r (r.learnPeer msg) := by
      unfold learnPeer
      split
      · exact .refl r
      · exact .of_eq (.refl _) rfl rfl rfl
    -- the address books say nothing about sessions and handlers
    have hsame : ∀ frame, (r.learnPeer msg).streamEventOf msg frame = r.streamEventOf msg frame := by
      intro frame
      apply streamEventOf_of_sessions
      · unfold learnPeer
        split
        · rfl
        · rfl
      · unfold learnPeer
        split
        · rfl
        · rfl
    have hlistens : ∀ e, (r.learnPeer msg).listensTo e = r.listensTo e := by
      intro e
      unfold learnPeer
      split
      · rfl
      · rfl
    dsimp only at hevent ⊢
    cases hframe : decodeP2pStreamPayload msg.payload with
    | some frame =>
      rw [hframe] at hevent
      apply hlearned.trans
      apply dispatchP2pStream_does S E hp2p
      intro e he htold
      rw [hsame] at he
      rw [hlistens] at htold
      exact hevent e he htold
    | none =>
      rw [hframe] at hevent
      apply hlearned.trans
      apply Does.setOwner
      apply callEach_emits
      intro hany
      apply hevent _ rfl
      rw [← hlistens]
      exact hany

end

/-! ## Managed variables and time sync -/

theorem handleEndToEndAck_does (r : Router) (pkt : PacketData) : Does P Q M K r (r.handleEndToEndAck pkt) := by
  have herase : ∀ id, Does P Q M K r { r with endToEndReliableTx := r.endToEndReliableTx.erase id } := by
    intro id
    refine ⟨.refl _, rfl, ?_, fun e he => .inl ⟨e, he, rfl⟩⟩
    intro key sent' hsent'
    exact ⟨sent', .refl sent', .inl (lookup_of_erase hsent')⟩
  unfold handleEndToEndAck
  dsimp only
  cases hsent : r.endToEndReliableTx.lookup (loadLe64 pkt.payload 0) with
  | none => exact .refl r
  | some sent =>
    dsimp only
    split
    · exact herase _
    · split
      · exact herase _
      · refine ⟨.refl _, rfl, ?_, fun e he => .inl ⟨e, he, rfl⟩⟩
        intro key sent' hsent'
        by_cases hkey : key = loadLe64 pkt.payload 0
        · subst hkey
          rw [AList.lookup_insert, Option.some.injEq] at hsent'
          subst hsent'
          exact ⟨sent, ⟨rfl, rfl, rfl, fun hash side h => lookup_of_erase h⟩, .inl hsent⟩
        · rw [AList.lookup_insert_ne hkey] at hsent'
          exact ⟨sent', .refl sent', .inl hsent'⟩

include A in
theorem rememberManagedVariablePacket_does {pkt : PacketData} (hpkt : M pkt) (r : Router) :
    Does P Q M K r (r.rememberManagedVariablePacket S Z E pkt) := by
  unfold rememberManagedVariablePacket
  split
  · have hkept : Does P Q M K r { r with
        toOwner := (r.toOwner.nowMs E).2
        managedVariableLatest :=
          r.managedVariableLatest.insert pkt.ty ⟨pkt, serializePacket S Z pkt, (r.toOwner.nowMs E).1⟩ } := by
      refine ⟨.nowMs E r.toOwner, rfl, fun id sent' h => ⟨sent', .refl sent', .inl h⟩, ?_⟩
      intro e he
      rcases Map.mem_insert he with rfl | hold
      · exact .inr hpkt
      · exact .inl ⟨e, hold, rfl⟩
    dsimp only
    split
    · exact hkept.trans (.setOwner _ (.call E _ (A.plain _ rfl)))
    · exact hkept
  · exact .refl r

/-- The entry a managed-variable request asks for. -/
def requestedVariable (r : Router) (pkt : PacketData) : Option ManagedVariableEntry :=
  if pkt.ty = (S.localTypeId 13).getD 1013 ∧ pkt.payload.length = 4 then
    r.managedVariableLatest.lookup ((S.localTypeId (loadLe32 pkt.payload 0)).getD (loadLe32 pkt.payload 0))
  else none

theorem handleManagedVariableRequest_does {r r' : Router} {pkt : PacketData} {srcSide : Option Int32}
    (hlatest : ∀ latest, requestedVariable S r pkt = some latest → P ⟨latest.pkt, none, srcSide, false⟩)
    (h : handleManagedVariableRequest S r pkt srcSide = some r') : Does P Q M K r r' := by
  unfold handleManagedVariableRequest at h
  dsimp only at h
  split at h
  · cases h
  · rename_i hty
    split at h
    · cases h
      exact .refl r
    · rename_i hlength
      split at h
      · cases h
        exact .refl r
      · rename_i latest hfind
        cases h
        apply Does.setOwner r
        apply Emits.enqueueTxAt false
        apply hlatest
        unfold requestedVariable
        rw [if_pos ⟨Decidable.of_not_not hty, Decidable.of_not_not hlength⟩]
        exact hfind

theorem handleTimeSyncAnnounce_does (r : Router) (now : UInt64) (pkt : PacketData) :
    Does P Q M K r (r.handleTimeSyncAnnounce now pkt) := by
  unfold handleTimeSyncAnnounce
  dsimp only
  split
  · exact .of_eq (.refl _) rfl rfl rfl
  · split
    · exact .of_eq (.refl _) rfl rfl rfl
    · exact .of_eq (.refl _) rfl rfl rfl

theorem handleTimesyncPacket_does
    {srcSide : Option Int32} (hresponse : ∀ ts payload sender,
      P ⟨makeInternalPacket S SEDS_DT_TIME_SYNC_RESPONSE ts payload sender, none, srcSide, false⟩)
    (r : Router) (pkt : PacketData) : Does P Q M K r (handleTimesyncPacket S E r pkt srcSide) := by
  have hnow : Does P Q M K r (r.setOwner (r.toOwner.nowMs E).2) := .setOwner r (.nowMs E r.toOwner)
  unfold handleTimesyncPacket
  dsimp only
  split
  · exact hnow.trans (handleTimeSyncAnnounce_does _ _ pkt)
  · split
    · refine hnow.trans ?_
      unfold handleTimeSyncRequest
      split
      · exact ((currentNetworkMs_does E _).trans (currentNetworkMs_does E _)).trans
          (.setOwner _ (.enqueueTxAt false _ (hresponse _ _ _)))
      · exact .refl _
    · split
      · exact hnow.trans (.of_eq (.refl _) rfl rfl rfl)
      · exact hnow

/-! ## Receipt -/

/-- What the receipt of `pkt` may send and keep: the packet itself, the latest packet of a managed variable,
    a frame that is asked for again, and answers of the router's own. -/
structure Receives (P : TxItem → Prop) (Q : Obs → Prop) (M : PacketData → Prop) (S : Schema) (E : Env) (r : Router)
    (pkt : PacketData) (srcSide : Option Int32) : Prop where
  id : ∀ o : Owner, Emits P Q o (o.packetId S pkt).2
  source : ∀ o : Owner, Emits P Q o (o.sourcePacketId S pkt).2
  ack : ∀ id ts sender, P ⟨makeE2eReliableAckPacket S id ts sender, none, srcSide, false⟩
  forward : P ⟨pkt, srcSide, none, false⟩
  request : ∀ sideId bytes, Requests S r.toOwner pkt srcSide sideId bytes → Q (.transmit sideId bytes)
  latest : ∀ latest, requestedVariable S r pkt = some latest → P ⟨latest.pkt, none, srcSide, false⟩
  p2p : ∀ ts payload sender, P ⟨makeInternalPacket S S.p2pTypeId ts payload sender, none, none, false⟩
  peer : pkt.ty = S.p2pTypeId → ∀ e ∈ r.peerEvent pkt, Q e
  response : ∀ ts payload sender,
    P ⟨makeInternalPacket S SEDS_DT_TIME_SYNC_RESPONSE ts payload sender, none, srcSide, false⟩
  kept : M pkt
  hears : ∀ read, Q (.hears read (E.clock read))

include A

theorem deliver_does {r : Router} {pkt : PacketData} {srcSide : Option Int32} (h : Receives P Q M S E r pkt srcSide) :
    Does P Q M K r (deliver S Z E r pkt srcSide) := by
  unfold deliver
  have hdispatched := Does.setOwner (M := M) (K := K) r
    (dispatchLocalPacketHandlers_emits S A E r.deviceIdentifier r.locals pkt r.toOwner)
  have hremembered := hdispatched.trans (rememberManagedVariablePacket_does S A Z E h.kept _)
  dsimp only
  generalize ((r.setOwner (dispatchLocalPacketHandlers S E r.deviceIdentifier r.locals pkt
    r.toOwner).2).rememberManagedVariablePacket S Z E pkt) = r₁ at hremembered ⊢
  have hmark : Does P Q M K r (if (srcSide.isSome && r.hasLocalHandler pkt && S.isReliableType pkt.ty) = true then
      r₁.setOwner (queueEndToEndAck S E r₁.toOwner pkt srcSide) else r₁) := by
    split
    · exact hremembered.trans (.setOwner r₁ (queueEndToEndAck_emits S E h.ack h.id h.source r₁.toOwner))
    · exact hremembered
  generalize (if (srcSide.isSome && r.hasLocalHandler pkt && S.isReliableType pkt.ty) = true then
      r₁.setOwner (queueEndToEndAck S E r₁.toOwner pkt srcSide) else r₁) = r₂ at hmark ⊢
  split
  · exact hmark.trans (.setOwner r₂ (.enqueueTxAt false _ h.forward))
  · exact hmark

theorem routePacket_does {r : Router} {pkt : PacketData} {srcSide : Option Int32} (h : Receives P Q M S E r pkt srcSide) :
    Does P Q M K r (routePacket S Z E r pkt srcSide) := by
  unfold routePacket
  split
  · rename_i hcontrol
    split
    · exact handleEndToEndAck_does r pkt
    · exact .setOwner r (handleReliableControl_emits S E r.toOwner hcontrol h.request)
  · split
    · rename_i r' hrequest
      exact handleManagedVariableRequest_does S h.latest hrequest
    · split
      · rename_i hty
        exact dispatchP2pPacket_does S E h.p2p (h.peer hty)
      · split
        · exact .setOwner r (handleDiscoveryPacket_emits S E r.toOwner h.hears _ pkt srcSide)
        · split
          · exact handleTimesyncPacket_does S E h.response r pkt
          · exact deliver_does S A Z E h

omit A in
/-- A copy of a packet that was received before is at most acknowledged again. -/
theorem receiveCopy_emits {r : Router} {pkt : PacketData} {srcSide : Option Int32}
    (hack : ∀ id ts sender, P ⟨makeE2eReliableAckPacket S id ts sender, none, srcSide, false⟩)
    (hid : ∀ o : Owner, Emits P Q o (o.packetId S pkt).2) (hsource : ∀ o : Owner, Emits P Q o (o.sourcePacketId S pkt).2)
    (hcopy : packetId S pkt ∈ r.recentSet) : Does P Q M K r (routerReceiveImpl S Z E r pkt srcSide) := by
  unfold routerReceiveImpl
  dsimp only
  have hmem : (r.toOwner.packetId S pkt).1 ∈ (r.toOwner.packetId S pkt).2.recentSet := hcopy
  rw [if_pos hmem]
  split
  · exact .setOwner r ((hid r.toOwner).trans (queueEndToEndAck_emits S E hack hid hsource _))
  · exact .setOwner r (hid r.toOwner)

/-- What the receipt of `pkt` may do, when it may be a copy of a packet that was received before. -/
structure Admits (P : TxItem → Prop) (Q : Obs → Prop) (M : PacketData → Prop) (S : Schema) (E : Env) (r : Router)
    (pkt : PacketData) (srcSide : Option Int32) : Prop where
  id : ∀ o : Owner, Emits P Q o (o.packetId S pkt).2
  source : ∀ o : Owner, Emits P Q o (o.sourcePacketId S pkt).2
  ack : ∀ id ts sender, P ⟨makeE2eReliableAckPacket S id ts sender, none, srcSide, false⟩
  remember : packetId S pkt ∉ r.recentSet → Q (.remember (packetId S pkt))
  fresh : packetId S pkt ∉ r.recentSet → Receives P Q M S E r pkt srcSide

omit A in
theorem Receives.admits {r : Router} {pkt : PacketData} {srcSide : Option Int32} (h : Receives P Q M S E r pkt srcSide)
    (hremember : Q (.remember (packetId S pkt))) : Admits P Q M S E r pkt srcSide :=
  ⟨h.id, h.source, h.ack, fun _ => hremember, fun _ => h⟩

/-- **Receipt** sends and keeps what `Admits` says, and leaves the receiving half alone. -/
theorem routerReceiveImpl_does {r : Router} {pkt : PacketData} {srcSide : Option Int32}
    (hadmits : Admits P Q M S E r pkt srcSide) : Does P Q M K r (routerReceiveImpl S Z E r pkt srcSide) := by
  by_cases hcopy : packetId S pkt ∈ r.recentSet
  · exact receiveCopy_emits S Z E hadmits.ack hadmits.id hadmits.source hcopy
  · have h := hadmits.fresh hcopy
    have hmem : (r.toOwner.packetId S pkt).1 ∉ (r.toOwner.packetId S pkt).2.recentSet := hcopy
    unfold routerReceiveImpl
    dsimp only
    rw [if_neg hmem]
    have hnoted := ((h.id r.toOwner).trans (pushRecent_emits _ (hadmits.remember hcopy))).trans
      (noteReturnRoutes_emits S _ h.source srcSide (packetId S pkt))
    apply (Does.setOwner (M := M) (K := K) r hnoted).trans
    apply routePacket_does S A Z E
    refine ⟨h.id, h.source, h.ack, h.forward, ?_, h.latest, h.p2p, h.peer, h.response, h.kept, h.hears⟩
    intro sideId bytes hrequests
    apply h.request
    -- noting the packet and the way back leaves the window alone
    have hsame : (((r.toOwner.packetId S pkt).2.pushRecent (packetId S pkt)).noteReturnRoutes S pkt srcSide
        (packetId S pkt)).reliableTx = r.reliableTx :=
      (noteReturnRoutes_reliableTx S _ pkt srcSide _).trans (pushRecent_reliableTx _ _)
    unfold Requests Holds at hrequests ⊢
    rw [setOwner_toOwner, hsame, hnoted.active] at hrequests
    exact hrequests

end

end Router

end SedsNet
