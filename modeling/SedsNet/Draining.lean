import SedsNet.Drain
import SedsNet.Lib.Loops
import SedsNet.Retries
import SedsNet.Router.Order

/-!
# Draining both queues

`seds_router_process_all_queues` and `seds_relay_process_all_queues` go on until both queues are empty. A round takes one packet off
the receive queue, which may put packets into the transmit queue, and one off the transmit queue, and before that the timeouts may
put packets back that were sent end to end. The loop ends all the same: nothing puts a packet into the receive queue, and at a time
that stands still an entry is due once at most, since it is written anew when its packet is queued again or sent.

It ends with `SEDS_OK` and packets left in the queue only where a transmission is deferred, which takes a callback that calls back.
-/

set_option autoImplicit false

namespace SedsNet

open Lib Owner

namespace Owner

section

variable (S : Schema) (Z : Codec) (E : Env)

/-! ## Sending leaves the transmit queue alone -/

@[simp] theorem callSerializedTx_txQueue (o : Owner) (sideId : Int32) (bytes : Bytes) :
    (o.callSerializedTx E sideId bytes).2.txQueue = o.txQueue := by
  unfold callSerializedTx
  split <;> rfl

theorem sendSerializedWithReliable_txQueue (o : Owner) (sideId : Int32) (pkt : PacketData) :
    (o.sendSerializedWithReliable S Z E sideId pkt).2.txQueue = o.txQueue := by
  unfold sendSerializedWithReliable
  cases o.sideAt sideId with
  | none => rfl
  | some side =>
    dsimp only
    split
    · rfl
    · split
      · exact callSerializedTx_txQueue E o sideId _
      · split
        · rfl
        · generalize serializePacketWithReliable S Z pkt _ = bytes
          split
          · exact callSerializedTx_txQueue E _ sideId bytes
          · exact callSerializedTx_txQueue E _ sideId bytes

theorem sendToSide_txQueue (o : Owner) (sideId : Int32) (side : Side) (item : TxItem) :
    (o.sendToSide S Z E sideId side item).2.txQueue = o.txQueue := by
  unfold sendToSide
  dsimp only
  split
  · exact sendSerializedWithReliable_txQueue S Z E _ sideId item.pkt
  · split
    · rfl
    · rfl

theorem retransmit_txQueue (now : UInt64) (sideId : Int32) (p : Owner × ReliableTxState) (seq : UInt32) :
    (retransmit E now sideId p seq).1.txQueue = p.1.txQueue := by
  obtain ⟨o, tx⟩ := p
  unfold retransmit
  dsimp only
  cases tx.sent.lookup seq with
  | none => rfl
  | some sent =>
    dsimp only
    split
    · rfl
    · split
      · rfl
      · split
        · exact callSerializedTx_txQueue E o sideId _
        · exact callSerializedTx_txQueue E o sideId _

theorem timeoutStream_txQueue (now : UInt64) (o : Owner) (key : UInt64) (tx : ReliableTxState) :
    (timeoutStream E now o key tx).txQueue = o.txQueue := by
  have hloop : ∀ (sideId : Int32) (seqs : List UInt32) (p : Owner × ReliableTxState),
      (seqs.foldl (retransmit E now sideId) p).1.txQueue = p.1.txQueue := by
    intro sideId seqs
    induction seqs with
    | nil => exact fun _ => rfl
    | cons seq seqs ih => exact fun p => (ih _).trans (retransmit_txQueue E now sideId p seq)
  unfold timeoutStream
  dsimp only
  cases o.sideAt (key >>> 32).toUInt32.toInt32 with
  | none => rfl
  | some side =>
    dsimp only
    split
    · rfl
    · exact hloop _ tx.sentOrder (o, tx)

theorem doReliableTimeouts_txQueue (o : Owner) : (o.doReliableTimeouts E).txQueue = o.txQueue := by
  have hloop : ∀ (now : UInt64) (entries : List ((_ : UInt64) × ReliableTxState)) (o : Owner),
      (entries.foldl (fun o e => timeoutStream E now o e.1 e.2) o).txQueue = o.txQueue := by
    intro now entries
    induction entries with
    | nil => exact fun _ => rfl
    | cons e entries ih => exact fun o => (ih _).trans (timeoutStream_txQueue E now o e.1 e.2)
  unfold doReliableTimeouts
  exact hloop _ _ (o.nowMs E).2

/-- A side is sent to without a deferral, unless another transmission is going on. -/
theorem sendToSide_calm (o : Owner) (sideId : Int32) (side : Side) (item : TxItem) : Calm o (o.sendToSide S Z E sideId side item).2 := by
  have hcarries : Carries (fun _ => True) S Z sideId item := ⟨trivial, fun _ _ => trivial, fun _ _ _ _ => trivial, trivial⟩
  exact (sendToSide_emits (P := fun _ => True) S Z E o hcarries side).calm

theorem isDeferred_of_none {o : Owner} (h : o.sideTxDeferred = false) (side : Side) (rc : SedsResult) : o.isDeferred side rc = false := by
  unfold isDeferred
  rw [h, Bool.and_false]

theorem routerTransmitTo_txQueue (device : Bytes) (locals : List LocalEndpoint) (item : TxItem) (sides : List Int32) (failed : Bool)
    (o : Owner) : (routerTransmitTo S Z E device locals item sides failed o).2.txQueue = o.txQueue := by
  induction sides generalizing failed o with
  | nil => rfl
  | cons sideId rest ih =>
    unfold routerTransmitTo
    cases o.egressSide sideId with
    | none => exact ih failed o
    | some side =>
      have hsent := sendToSide_txQueue S Z E o sideId side item
      dsimp only
      split
      · exact (ih failed _).trans hsent
      · split
        · exact hsent
        · have hreported := Router.reportTxFailure_calls (S := S) (Z := Z) (E := E) device locals (o.sendToSide S Z E sideId side item).2 side
            (o.sendToSide S Z E sideId side item).1 item.pkt
          exact ((ih true _).trans (Router.SameQueue.of_calls hreported).1).trans hsent

/-- Where no callback is calling back, no transmission is deferred. -/
theorem routerTransmitTo_idle (device : Bytes) (locals : List LocalEndpoint) (item : TxItem) (sides : List Int32) (failed : Bool)
    {o : Owner} (hidle : o.sideTxActive = false) (hnone : o.sideTxDeferred = false) :
    (routerTransmitTo S Z E device locals item sides failed o).1 ≠ SEDS_IO := by
  induction sides generalizing failed o with
  | nil =>
    unfold routerTransmitTo
    cases failed with
    | false => exact (by decide : SEDS_OK ≠ SEDS_IO)
    | true => exact (by decide : SEDS_HANDLER_ERROR ≠ SEDS_IO)
  | cons sideId rest ih =>
    unfold routerTransmitTo
    cases o.egressSide sideId with
    | none => exact ih failed hidle hnone
    | some side =>
      have hcalm := sendToSide_calm S Z E o sideId side item
      dsimp only
      generalize o.sendToSide S Z E sideId side item = p at hcalm ⊢
      obtain ⟨rc, o₁⟩ := p
      have hidle₁ : o₁.sideTxActive = false := hcalm.active.trans hidle
      have hnone₁ : o₁.sideTxDeferred = false := hcalm.deferred hidle hnone
      dsimp only
      rw [isDeferred_of_none hnone₁, if_neg Bool.false_ne_true]
      split
      · exact ih failed hidle₁ hnone₁
      · have hreported := Router.reportTxFailure_calls (S := S) (Z := Z) (E := E) device locals o₁ side rc item.pkt
        obtain ⟨_, _, heq⟩ := hreported
        rw [heq]
        exact ih true hidle₁ hnone₁

theorem relayTransmitTo_txQueue (item : TxItem) (sides : List Int32) (o : Owner) :
    (relayTransmitTo S Z E item sides o).2.txQueue = o.txQueue := by
  induction sides generalizing o with
  | nil => rfl
  | cons sideId rest ih =>
    unfold relayTransmitTo
    cases o.egressSide sideId with
    | none => exact ih o
    | some side =>
      have hsent := sendToSide_txQueue S Z E o sideId side item
      dsimp only
      split
      · exact (ih _).trans hsent
      · split
        · exact hsent
        · exact hsent

theorem relayTransmitTo_idle (item : TxItem) (sides : List Int32) {o : Owner} (hidle : o.sideTxActive = false)
    (hnone : o.sideTxDeferred = false) : (relayTransmitTo S Z E item sides o).1 ≠ SEDS_IO := by
  induction sides generalizing o with
  | nil => exact (by decide : SEDS_OK ≠ SEDS_IO)
  | cons sideId rest ih =>
    unfold relayTransmitTo
    cases o.egressSide sideId with
    | none => exact ih hidle hnone
    | some side =>
      have hcalm := sendToSide_calm S Z E o sideId side item
      dsimp only
      generalize o.sendToSide S Z E sideId side item = p at hcalm ⊢
      obtain ⟨rc, o₁⟩ := p
      have hnone₁ : o₁.sideTxDeferred = false := hcalm.deferred hidle hnone
      dsimp only
      rw [isDeferred_of_none hnone₁, if_neg Bool.false_ne_true]
      split
      · exact ih (hcalm.active.trans hidle) hnone₁
      · exact (by decide : SEDS_HANDLER_ERROR ≠ SEDS_IO)

end

end Owner

/-! ## Entries that are due -/

namespace Router

/-- Some packet that was sent end to end is due at this time. -/
def anyDue (now : UInt64) (r : Router) : Bool := r.endToEndReliableTx.entries.any fun e => endToEndDue now e.2

theorem anyDue_eq_false_iff {now : UInt64} {r : Router} :
    r.anyDue now = false ↔ ∀ id sent, r.endToEndReliableTx.lookup id = some sent → endToEndDue now sent = false := by
  unfold anyDue
  rw [List.any_eq_false]
  constructor
  · intro h id sent hsent
    exact Bool.eq_false_of_not_eq_true (h ⟨id, sent⟩ (AList.mem_lookup_iff.mp hsent))
  · intro h e he
    rw [h e.1 e.2 (AList.mem_lookup_iff.mpr he)]
    exact Bool.false_ne_true

/-- What has been written now is not due now. -/
theorem endToEndDue_now {now : UInt64} {sent : EndToEndReliableSent} (h : sent.lastSendMs = now) : endToEndDue now sent = false := by
  unfold endToEndDue
  rw [h, UInt64.sub_self, decide_eq_true (by decide : (0 : UInt64) < 200), Bool.not_true, Bool.and_false]

theorem anyDue_insert {now : UInt64} {r r' : Router} {id : UInt64} {sent : EndToEndReliableSent} {m : Map UInt64 EndToEndReliableSent}
    (h : r.anyDue now = false) (hsent : endToEndDue now sent = false)
    (hold : ∀ id sent, m.lookup id = some sent → r.endToEndReliableTx.lookup id = some sent)
    (hentries : r'.endToEndReliableTx = m.insert id sent) : r'.anyDue now = false := by
  refine anyDue_eq_false_iff.mpr fun id' sent' hsent' => ?_
  rw [hentries] at hsent'
  by_cases hid : id' = id
  · subst hid
    rw [AList.lookup_insert, Option.some.injEq] at hsent'
    exact hsent' ▸ hsent
  · rw [AList.lookup_insert_ne hid] at hsent'
    exact anyDue_eq_false_iff.mp h id' sent' (hold id' sent' hsent')

section

variable (S : Schema) (Z : Codec) (E : Env)

/-! ### Timeouts -/

theorem reconcilePending_foldl_txQueue (requireLinkLocal : Bool) (entries : List ((_ : UInt64) × Int32)) (p : Map UInt64 Int32 × Owner) :
    (entries.foldl (reconcilePending E requireLinkLocal) p).2.txQueue = p.2.txQueue := by
  have hone : ∀ (p : Map UInt64 Int32 × Owner) (e : (_ : UInt64) × Int32),
      (reconcilePending E requireLinkLocal p e).2.txQueue = p.2.txQueue := by
    intro p e
    unfold reconcilePending stillPending
    cases p.2.sideAt e.2 with
    | none => rfl
    | some side =>
      dsimp only
      split
      · rfl
      · cases p.2.discoveryRoutes.lookup e.2 with
        | none => rfl
        | some route => rfl
  induction entries generalizing p with
  | nil => rfl
  | cons e entries ih => exact (ih _).trans (hone p e)

/-- An entry whose destinations are looked through stays as due as it was. -/
theorem reconcileEntry_waits {now : UInt64} {r : Router} {e : (_ : UInt64) × EndToEndReliableSent} (h : r.anyDue now = false)
    (he : endToEndDue now e.2 = false) :
    (reconcileEntry S E r e).anyDue now = false ∧ (reconcileEntry S E r e).txQueue = r.txQueue := by
  unfold reconcileEntry
  split
  · exact ⟨h, rfl⟩
  · have hqueue := reconcilePending_foldl_txQueue E (S.packetRequiresLinkLocal e.2.pkt) e.2.pendingDestinations.entries
      (e.2.pendingDestinations, r.toOwner)
    generalize e.2.pendingDestinations.entries.foldl (reconcilePending E (S.packetRequiresLinkLocal e.2.pkt))
      (e.2.pendingDestinations, r.toOwner) = p at hqueue ⊢
    obtain ⟨pending, o⟩ := p
    have hstill : endToEndDue now { e.2 with pendingDestinations := pending } = false := he
    refine ⟨?_, hqueue⟩
    dsimp only
    split
    · refine anyDue_eq_false_iff.mpr fun id sent hsent => ?_
      exact anyDue_eq_false_iff.mp h id sent (lookup_of_erase hsent)
    · exact anyDue_insert h hstill (fun _ _ hold => hold) rfl

theorem reconcileEndToEndReliableDestinations_waits {now : UInt64} {r : Router} (h : r.anyDue now = false) :
    (reconcileEndToEndReliableDestinations S E r).anyDue now = false ∧
    (reconcileEndToEndReliableDestinations S E r).txQueue = r.txQueue := by
  have hloop : ∀ (entries : List ((_ : UInt64) × EndToEndReliableSent)) (r : Router), r.anyDue now = false →
      (∀ e ∈ entries, endToEndDue now e.2 = false) →
      (entries.foldl (reconcileEntry S E) r).anyDue now = false ∧ (entries.foldl (reconcileEntry S E) r).txQueue = r.txQueue := by
    intro entries
    induction entries with
    | nil => exact fun r h _ => ⟨h, rfl⟩
    | cons e entries ih =>
      intro r h hentries
      obtain ⟨hone, hqueue⟩ := reconcileEntry_waits S E h (hentries e List.mem_cons_self)
      obtain ⟨hrest, hqueue'⟩ := ih _ hone fun f hf => hentries f (List.mem_cons_of_mem e hf)
      exact ⟨hrest, hqueue'.trans hqueue⟩
  refine hloop _ r h fun e he => ?_
  exact anyDue_eq_false_iff.mp h e.1 e.2 (AList.mem_lookup_iff.mpr he)

/-- **After the timeouts nothing is due**: what was due is marked, or has been written anew. -/
theorem processEndToEndReliableTimeouts_waits (r : Router) :
    (processEndToEndReliableTimeouts S E r).anyDue (E.clock r.clockReads) = false := by
  unfold processEndToEndReliableTimeouts
  dsimp only
  have hnow : (r.toOwner.nowMs E).1 = E.clock r.clockReads := rfl
  rw [hnow]
  generalize reconcileEndToEndReliableDestinations S E (r.setOwner (r.toOwner.nowMs E).2) = r₁
  generalize E.clock r.clockReads = now
  refine anyDue_eq_false_iff.mpr fun id sent' hsent' => ?_
  by_cases hmem : id ∈ endToEndRequeued now r₁.endToEndReliableTx
  · rcases requeueEndToEnd_foldl_mem now _ (endToEndRequeued_nodup now _)
      { r₁ with endToEndReliableTx := expireEndToEnd now r₁.endToEndReliableTx } hmem with ⟨-, hnone⟩ | ⟨-, sent, -, hlast⟩
    · rw [hnone] at hsent'
      cases hsent'
    · rw [hlast, Option.some.injEq] at hsent'
      exact endToEndDue_now (congrArg EndToEndReliableSent.lastSendMs hsent').symm
  · obtain ⟨-, hlookup⟩ := requeueEndToEnd_foldl_ne now (endToEndRequeued now r₁.endToEndReliableTx)
      { r₁ with endToEndReliableTx := expireEndToEnd now r₁.endToEndReliableTx } hmem
    rw [hlookup] at hsent'
    obtain ⟨sent, -, ⟨-, -, rfl⟩ | ⟨hnot, rfl⟩⟩ := lookup_expireEndToEnd hsent'
    · rfl
    · exact hnot

/-- Where nothing is due, nothing is put into the queue. -/
theorem processEndToEndReliableTimeouts_idle {r : Router} (h : r.anyDue (E.clock r.clockReads) = false) :
    (processEndToEndReliableTimeouts S E r).txQueue = r.txQueue := by
  unfold processEndToEndReliableTimeouts
  dsimp only
  have hread : (r.setOwner (r.toOwner.nowMs E).2).anyDue (E.clock r.clockReads) = false := h
  obtain ⟨hwaits, hqueue⟩ := reconcileEndToEndReliableDestinations_waits S E hread
  have hnow : (r.toOwner.nowMs E).1 = E.clock r.clockReads := rfl
  rw [hnow]
  generalize reconcileEndToEndReliableDestinations S E (r.setOwner (r.toOwner.nowMs E).2) = r₁ at hwaits hqueue ⊢
  have hnone : endToEndRequeued (E.clock r.clockReads) r₁.endToEndReliableTx = [] := by
    refine List.eq_nil_iff_forall_not_mem.mpr fun id hid => ?_
    obtain ⟨sent, hsent, hdue, -⟩ := mem_endToEndRequeued.mp hid
    rw [anyDue_eq_false_iff.mp hwaits id sent hsent] at hdue
    cases hdue
  rw [hnone]
  exact hqueue

/-! ### Transmission -/

/-- The packet that is sent is written down with the time. -/
theorem trackEndToEnd_waits {now : UInt64} {r : Router} (hclock : ∀ n ≥ r.clockReads, E.clock n = now) (h : r.anyDue now = false)
    (pkt : PacketData) (sides : List Int32) : (trackEndToEnd S E r pkt sides).anyDue now = false := by
  unfold trackEndToEnd
  split
  · dsimp only
    split
    · exact h
    · refine anyDue_insert (r := r) h (endToEndDue_now ?_) (fun _ _ => lookup_of_eraseAll) rfl
      exact hclock (r.clockReads + 1) (Nat.le_succ _)
  · exact h

theorem transmitItem_txQueue (r : Router) (item : TxItem) : (transmitItem S Z E r item).2.txQueue = r.txQueue := by
  unfold transmitItem
  have hlocal := SameQueue.of_calls (deliverLocal_calls S Z E r item)
  generalize deliverLocal S Z E r item = p at hlocal ⊢
  obtain ⟨ok, r₁⟩ := p
  cases ok with
  | false => exact hlocal.1
  | true =>
    dsimp only at hlocal ⊢
    have hchosen := hlocal.trans (targets_sameQueue (S := S) (E := E) r₁.toOwner item (r₁.preferredSource item.pkt))
    generalize r₁.toOwner.targets S E item (r₁.preferredSource item.pkt) = p at hchosen ⊢
    obtain ⟨sides, o⟩ := p
    have htracked := hchosen.trans (trackEndToEnd_sameQueue (S := S) (E := E) (r₁.setOwner o) item.pkt sides)
    exact (routerTransmitTo_txQueue S Z E _ _ item sides false _).trans htracked.1

theorem deliverLocal_entries (r : Router) (item : TxItem) :
    (deliverLocal S Z E r item).2.endToEndReliableTx = r.endToEndReliableTx := by
  unfold deliverLocal
  split
  · dsimp only
    split
    · rfl
    · rfl
  · rfl

theorem transmitItem_waits {now : UInt64} {r : Router} (hclock : ∀ n ≥ r.clockReads, E.clock n = now) (h : r.anyDue now = false)
    (item : TxItem) : (transmitItem S Z E r item).2.anyDue now = false := by
  unfold transmitItem
  have hcalls := deliverLocal_calls S Z E r item
  have hentries := deliverLocal_entries S Z E r item
  generalize deliverLocal S Z E r item = p at hcalls hentries ⊢
  obtain ⟨ok, r₁⟩ := p
  have hwaits : r₁.anyDue now = false := by
    unfold anyDue at h ⊢
    rwa [hentries]
  have hreads : r₁.clockReads = r.clockReads := by
    obtain ⟨_, _, heq⟩ := hcalls
    dsimp only at heq
    rw [heq]
  cases ok with
  | false => exact hwaits
  | true =>
    have hchosen := targets_emits (P := fun _ => True) (Q := fun _ => True) S E r₁.toOwner item (r₁.preferredSource item.pkt)
    dsimp only
    generalize r₁.toOwner.targets S E item (r₁.preferredSource item.pkt) = p at hchosen ⊢
    obtain ⟨sides, o⟩ := p
    have hlater : ∀ n ≥ (r₁.setOwner o).clockReads, E.clock n = now := fun n hn => hclock n (hreads ▸ hchosen.reads.trans hn)
    exact trackEndToEnd_waits S E hlater hwaits item.pkt sides

/-- Where no callback is calling back, the transmission is not deferred. -/
theorem transmitItem_idle {r : Router} (hidle : r.sideTxActive = false) (hnone : r.sideTxDeferred = false) (item : TxItem) :
    (transmitItem S Z E r item).1 ≠ SEDS_IO := by
  unfold transmitItem
  have hlocal : Calm r.toOwner (deliverLocal S Z E r item).2.toOwner := by
    obtain ⟨_, _, heq⟩ := deliverLocal_calls S Z E r item
    rw [heq]
    exact .of_eq rfl rfl
  generalize deliverLocal S Z E r item = p at hlocal ⊢
  obtain ⟨ok, r₁⟩ := p
  cases ok with
  | false => exact (by decide : SEDS_HANDLER_ERROR ≠ SEDS_IO)
  | true =>
    have hchosen := targets_emits (P := fun _ => True) (Q := fun _ => True) S E r₁.toOwner item (r₁.preferredSource item.pkt)
    dsimp only at hlocal ⊢
    generalize r₁.toOwner.targets S E item (r₁.preferredSource item.pkt) = p at hchosen ⊢
    obtain ⟨sides, o⟩ := p
    have htracked : Calm o (trackEndToEnd S E (r₁.setOwner o) item.pkt sides).toOwner := by
      unfold trackEndToEnd
      split
      · dsimp only
        split
        · exact .of_eq rfl rfl
        · exact .of_eq rfl rfl
      · exact .of_eq rfl rfl
    have hcalm := (hlocal.trans hchosen.calm).trans htracked
    exact routerTransmitTo_idle S Z E _ _ item sides false (hcalm.active.trans hidle) (hcalm.deferred hidle hnone)

/-! ### One round -/

/-- One round of the loop of `seds_router_process_all_queues`: how the drain ends, or where it goes on. -/
def allRound (r : Router) : Drained Router ⊕ Router :=
  let r := receiveNext S Z E (timeouts S E r)
  match transmitFront S Z E r with
  | none => if idle r.toOwner then .inl ⟨SEDS_OK, r, none⟩ else .inr r
  | some (item, rc, r) =>
    if rc = SEDS_OK then if idle r.toOwner then .inl ⟨SEDS_OK, r, none⟩ else .inr r
    else if rc = SEDS_IO then .inl ⟨SEDS_OK, r.putBack item, some item⟩
    else .inl ⟨rc, r, none⟩

theorem allDrain_eq (n : Nat) (r : Router) : allDrain S Z E n r = runLoop (allRound S Z E) (fun r => ⟨SEDS_OK, r, none⟩) n r := by
  induction n generalizing r with
  | zero => rfl
  | succ n ih =>
    unfold allDrain runLoop allRound
    dsimp only
    cases transmitFront S Z E (receiveNext S Z E (timeouts S E r)) with
    | none =>
      dsimp only
      split
      · rfl
      · exact ih _
    | some p =>
      obtain ⟨item, rc, r'⟩ := p
      dsimp only
      split
      · split
        · rfl
        · exact ih r'
      · split
        · rfl
        · rfl

/-- The clock shows this time, and goes on showing it. -/
def Stopped (now : UInt64) (r : Router) : Prop := ∀ n ≥ r.clockReads, E.clock n = now

variable {E}

theorem Stopped.later {now : UInt64} {r r' : Router} (h : Stopped E now r) (hreads : r.clockReads ≤ r'.clockReads) : Stopped E now r' :=
  fun n hn => h n (hreads.trans hn)

variable {S Z}

theorem timeouts_waits {now : UInt64} {r : Router} (h : Stopped E now r) : (timeouts S E r).anyDue now = false := by
  have htimeouts : Sending r.toOwner (r.toOwner.doReliableTimeouts E) := doReliableTimeouts_emits E r.toOwner fun _ _ _ => trivial
  rw [← h _ htimeouts.reads]
  exact processEndToEndReliableTimeouts_waits S E (r.setOwner (r.toOwner.doReliableTimeouts E))

theorem timeouts_txQueue {now : UInt64} {r : Router} (h : Stopped E now r) (hwaits : r.anyDue now = false) :
    (timeouts S E r).txQueue = r.txQueue := by
  have htimeouts : Sending r.toOwner (r.toOwner.doReliableTimeouts E) := doReliableTimeouts_emits E r.toOwner fun _ _ _ => trivial
  rw [← h _ htimeouts.reads] at hwaits
  exact (processEndToEndReliableTimeouts_idle S E (r := r.setOwner (r.toOwner.doReliableTimeouts E)) hwaits).trans
    (doReliableTimeouts_txQueue E r.toOwner)

/-- A packet is received, or there is none. -/
theorem receiveNext_shorter (r : Router) :
    r.rxQueue.items = [] ∧ r.receiveNext S Z E = r ∨
    (r.receiveNext S Z E).rxQueue.items.length < r.rxQueue.items.length ∧ Calm r.toOwner (r.receiveNext S Z E).toOwner ∧
      r.clockReads ≤ (r.receiveNext S Z E).clockReads := by
  rcases receiveNext_spec (S := S) (Z := Z) (E := E) r with hnone | ⟨item, queue, o, hitems, hshown, hkeeps⟩
  · exact .inl hnone
  · have hpopped : Calm r.toOwner { r.toOwner with rxQueue := queue } := .of_eq rfl rfl
    have hnoted : Calm o (o.observe (.receive item)) := .of_eq rfl rfl
    refine .inr ⟨?_, ((hpopped.trans hshown.calm).trans hnoted).trans hkeeps.calm, hshown.reads.trans hkeeps.reads⟩
    have hqueue : (r.receiveNext S Z E).rxQueue = queue := hkeeps.queue.trans hshown.queue
    rw [hqueue, hitems, List.length_cons]
    exact Nat.lt_succ_self _

/-- A packet is taken off the queue and sent, or there is none. -/
theorem transmitFront_none {r : Router} (h : transmitFront S Z E r = none) : r.txQueue.items = [] := by
  unfold transmitFront at h
  cases hpop : r.txQueue.pop TxItem.byteCost with
  | none => exact items_of_pop_none hpop
  | some p =>
    rw [hpop] at h
    cases h

theorem transmitFront_sent {r r' : Router} {item : TxItem} {rc : SedsResult} (h : transmitFront S Z E r = some (item, rc, r')) :
    r'.txQueue.items.length < r.txQueue.items.length ∧
    (∀ now, Stopped E now r → r.anyDue now = false → r'.anyDue now = false) ∧
    (r.sideTxActive = false → r.sideTxDeferred = false → rc ≠ SEDS_IO) := by
  unfold transmitFront at h
  cases hpop : r.txQueue.pop TxItem.byteCost with
  | none =>
    rw [hpop] at h
    cases h
  | some p =>
    rw [hpop] at h
    obtain ⟨item', queue⟩ := p
    dsimp only at h
    rw [Option.some.injEq, Prod.mk.injEq] at h
    obtain ⟨rfl, hsent⟩ := h
    have hqueue := transmitItem_txQueue S Z E (r.setOwner { r.toOwner with txQueue := queue }) item'
    have hwaits : ∀ now, Stopped E now r → r.anyDue now = false → _ := fun now hstopped hwaits =>
      transmitItem_waits S Z E (r := r.setOwner { r.toOwner with txQueue := queue }) hstopped hwaits item'
    have hidle := transmitItem_idle S Z E (r := r.setOwner { r.toOwner with txQueue := queue })
    rw [hsent] at hqueue hwaits
    refine ⟨?_, hwaits, fun hactive hnone => ?_⟩
    · rw [hqueue, length_of_pop hpop]
      exact Nat.lt_succ_self _
    · have hcode := hidle hactive hnone item'
      rwa [hsent] at hcode

/-- What the rounds make smaller: the packets to be received, whether some entry is due, and the packets to be sent. -/
def work (now : UInt64) (r : Router) : Nat × Nat × Nat := (r.rxQueue.items.length, (r.anyDue now).toNat, r.txQueue.items.length)

/-- The first half of a round: a packet is received, or nothing is due any more, and the timeouts have put nothing into the queue
    where nothing was. -/
theorem received_cases {now : UInt64} {r : Router} (h : Stopped E now r) :
    Calm r.toOwner (receiveNext S Z E (timeouts S E r)).toOwner ∧ r.clockReads ≤ (receiveNext S Z E (timeouts S E r)).clockReads ∧
    ((receiveNext S Z E (timeouts S E r)).rxQueue.items.length < r.rxQueue.items.length ∨
      r.rxQueue.items = [] ∧ (receiveNext S Z E (timeouts S E r)).rxQueue.items = [] ∧
        (receiveNext S Z E (timeouts S E r)).anyDue now = false ∧
        (r.anyDue now = false → (receiveNext S Z E (timeouts S E r)).txQueue = r.txQueue)) := by
  have htimeouts := timeouts_sending S E r
  rcases receiveNext_shorter (S := S) (Z := Z) (E := E) (timeouts S E r) with ⟨hempty, heq⟩ | ⟨hshorter, hcalm, hreads⟩
  · rw [heq]
    refine ⟨htimeouts.calm, htimeouts.reads, .inr ⟨?_, hempty, timeouts_waits h, timeouts_txQueue h⟩⟩
    rwa [htimeouts.queue] at hempty
  · refine ⟨htimeouts.calm.trans hcalm, htimeouts.reads.trans hreads, .inl ?_⟩
    rwa [htimeouts.queue] at hshorter

theorem idle_eq_true_iff {o : Owner} : idle o = true ↔ o.rxQueue.items = [] ∧ o.txQueue.items = [] := by
  unfold idle
  rw [Bool.and_eq_true, List.isEmpty_iff, List.isEmpty_iff]

/-- **A round that is not the last** leaves less work. -/
theorem allRound_next {now : UInt64} {r r' : Router} (h : Stopped E now r) (hround : allRound S Z E r = .inr r') :
    Calm r.toOwner r'.toOwner ∧ r.clockReads ≤ r'.clockReads ∧ WellFoundedRelation.rel (r'.work now) (r.work now) := by
  obtain ⟨hcalm, hreads, hcases⟩ := received_cases (S := S) (Z := Z) h
  unfold allRound at hround
  dsimp only at hround
  generalize receiveNext S Z E (timeouts S E r) = m at hround hcalm hreads hcases
  cases hfront : transmitFront S Z E m with
  | none =>
    rw [hfront] at hround
    dsimp only at hround
    split at hround
    · cases hround
    · rename_i hbusy
      cases hround
      rcases hcases with hshorter | ⟨-, hempty, -, -⟩
      · exact ⟨hcalm, hreads, .left _ _ hshorter⟩
      · exact absurd (idle_eq_true_iff.mpr ⟨hempty, transmitFront_none hfront⟩) hbusy
  | some p =>
    obtain ⟨item, rc, r₁⟩ := p
    rw [hfront] at hround
    dsimp only at hround
    have hsending := (transmitFront_spec hfront).1
    obtain ⟨hshort, hwaits, -⟩ := transmitFront_sent hfront
    split at hround
    · split at hround
      · cases hround
      · cases hround
        refine ⟨hcalm.trans hsending.calm, hreads.trans hsending.reads, ?_⟩
        rcases hcases with hshorter | ⟨hempty, hempty', hnone, hsame⟩
        · exact .left _ _ (by rwa [hsending.queue])
        · have hnone₁ := hwaits now (h.later hreads) hnone
          unfold work
          rw [hsending.queue, hempty, hempty', hnone₁]
          refine .right _ ?_
          cases hdue : r.anyDue now with
          | true => exact .left _ _ Nat.zero_lt_one
          | false =>
            refine .right _ ?_
            rwa [hsame hdue] at hshort
    · split at hround
      · cases hround
      · cases hround

/-- **The last round** ends with an error, with an item put back, or with nothing left. -/
theorem allRound_last {now : UInt64} {r : Router} {d : Drained Router} (h : Stopped E now r) (hidle : r.sideTxActive = false)
    (hnone : r.sideTxDeferred = false) (hround : allRound S Z E r = .inl d) (hok : d.rc = SEDS_OK) : idle d.state.toOwner = true := by
  obtain ⟨hcalm, -, -⟩ := received_cases (S := S) (Z := Z) h
  unfold allRound at hround
  dsimp only at hround
  generalize receiveNext S Z E (timeouts S E r) = m at hround hcalm
  cases hfront : transmitFront S Z E m with
  | none =>
    rw [hfront] at hround
    dsimp only at hround
    split at hround
    · rename_i hdone
      cases hround
      exact hdone
    · cases hround
  | some p =>
    obtain ⟨item, rc, r₁⟩ := p
    rw [hfront] at hround
    dsimp only at hround
    obtain ⟨-, -, hcode⟩ := transmitFront_sent hfront
    split at hround
    · split at hround
      · rename_i hdone
        cases hround
        exact hdone
      · cases hround
    · rename_i hfailed
      rw [if_neg (hcode (hcalm.active.trans hidle) (hcalm.deferred hidle hnone))] at hround
      cases hround
      exact absurd hok hfailed

/-- **The drain ends**, and where no callback is calling back, it ends with an error or with both queues empty. -/
theorem allDrain_ends {now : UInt64} {r : Router} (h : Stopped E now r) :
    ∃ d, Ends (allRound S Z E) r d ∧
      (r.sideTxActive = false → r.sideTxDeferred = false → d.rc = SEDS_OK → idle d.state.toOwner = true) := by
  apply ends_of_variant (work now) (I := fun s => Calm r.toOwner s.toOwner ∧ Stopped E now s)
  case hlast =>
    rintro s d ⟨hcalm, hstopped⟩ hround hidle hnone hok
    exact allRound_last hstopped (hcalm.active.trans hidle) (hcalm.deferred hidle hnone) hround hok
  case hnext =>
    rintro s s' ⟨hcalm, hstopped⟩ hround
    obtain ⟨hcalm', hreads, hless⟩ := allRound_next hstopped hround
    exact ⟨⟨hcalm.trans hcalm', hstopped.later hreads⟩, hless⟩
  case hs => exact ⟨.of_eq rfl rfl, h⟩

end

end Router

/-! ## Relays -/

namespace Relay

section

variable (S : Schema) (Z : Codec) (E : Env)

theorem filterEndToEndSatisfiedSides_calm (r : Relay) (pkt : PacketData) (sides : List Int32) :
    Calm r.toOwner (filterEndToEndSatisfiedSides S r pkt sides).2.toOwner ∧
    (filterEndToEndSatisfiedSides S r pkt sides).2.txQueue = r.txQueue := by
  unfold filterEndToEndSatisfiedSides
  split
  · exact ⟨.of_eq rfl rfl, rfl⟩
  · dsimp only
    split
    · exact ⟨.of_eq rfl rfl, rfl⟩
    · exact ⟨.of_eq rfl rfl, rfl⟩

theorem transmitItem_txQueue (r : Relay) (item : TxItem) : (transmitItem S Z E r item).2.txQueue = r.txQueue := by
  have htargets := (Router.targets_sameQueue (S := S) (E := E) r.toOwner item none).1
  have hfiltered := (filterEndToEndSatisfiedSides_calm S { r with toOwner := (r.toOwner.targets S E item none).2 } item.pkt
    (r.toOwner.targets S E item none).1).2
  exact ((relayTransmitTo_txQueue S Z E item _ _).trans hfiltered).trans htargets

/-- Where no callback is calling back, the transmission is not deferred. -/
theorem transmitItem_idle {r : Relay} (hidle : r.sideTxActive = false) (hnone : r.sideTxDeferred = false) (item : TxItem) :
    (transmitItem S Z E r item).1 ≠ SEDS_IO := by
  have htargets := targets_emits (P := fun _ => True) (Q := fun _ => True) S E r.toOwner item none
  have hfiltered := (filterEndToEndSatisfiedSides_calm S { r with toOwner := (r.toOwner.targets S E item none).2 } item.pkt
    (r.toOwner.targets S E item none).1).1
  have hcalm := htargets.calm.trans hfiltered
  exact relayTransmitTo_idle S Z E item _ (hcalm.active.trans hidle) (hcalm.deferred hidle hnone)

/-- The end of a round as it is in `allDrain`. -/
def nextRound (startMs : UInt64) (timeoutMs : UInt32) (r : Relay) : Drained Relay ⊕ Relay :=
  match goesOn E startMs timeoutMs r with
  | (true, r) => .inr r
  | (false, r) => .inl ⟨SEDS_OK, r, none⟩

/-- One round of the loop of `seds_relay_process_all_queues_with_timeout`. -/
def allRound (startMs : UInt64) (timeoutMs : UInt32) (r : Relay) : Drained Relay ⊕ Relay :=
  let r := receiveNext S E (r.setOwner (r.toOwner.doReliableTimeouts E))
  let (now, o) := r.toOwner.nowMs E
  let r := r.setOwner o
  if timeoutExpired startMs now timeoutMs then nextRound E startMs timeoutMs r
  else
    match transmitFront S Z E r with
    | none => nextRound E startMs timeoutMs r
    | some (item, rc, r) =>
      if rc = SEDS_OK then nextRound E startMs timeoutMs r
      else if rc = SEDS_IO then .inl ⟨SEDS_OK, r.putBack item, some item⟩
      else .inl ⟨rc, r, none⟩

theorem allDrain_eq (startMs : UInt64) (timeoutMs : UInt32) (n : Nat) (r : Relay) :
    allDrain S Z E startMs timeoutMs n r = runLoop (allRound S Z E startMs timeoutMs) (fun r => ⟨SEDS_OK, r, none⟩) n r := by
  induction n generalizing r with
  | zero => rfl
  | succ n ih =>
    unfold allDrain runLoop
    rw [allRound]
    dsimp only
    generalize (receiveNext S E (r.setOwner (r.toOwner.doReliableTimeouts E))).setOwner _ = r₁
    unfold nextRound
    split
    · rcases goesOn E startMs timeoutMs r₁ with ⟨_ | _, r'⟩
      · rfl
      · exact ih r'
    · rcases transmitFront S Z E r₁ with _ | ⟨item, rc, r₂⟩
      · dsimp only
        rcases goesOn E startMs timeoutMs r₁ with ⟨_ | _, r'⟩
        · rfl
        · exact ih r'
      · dsimp only
        split
        · rcases goesOn E startMs timeoutMs r₂ with ⟨_ | _, r'⟩
          · rfl
          · exact ih r'
        · split
          · rfl
          · rfl

variable {S Z E}

/-- A packet is received, or there is none. -/
theorem receiveNext_shorter (r : Relay) :
    r.rxQueue.items = [] ∧ r.receiveNext S E = r ∨
    (r.receiveNext S E).rxQueue.items.length < r.rxQueue.items.length ∧ Calm r.toOwner (r.receiveNext S E).toOwner := by
  rcases receiveNext_cases (S := S) (E := E) r with hnone | ⟨item, queue, hitems, hkeeps⟩
  · exact .inl hnone
  · have hnoted : Calm r.toOwner ({ r.toOwner with rxQueue := queue }.observe (.receive item)) := .of_eq rfl rfl
    refine .inr ⟨?_, hnoted.trans hkeeps.calm⟩
    have hqueue : (r.receiveNext S E).rxQueue = queue := hkeeps.queue
    rw [hqueue, hitems, List.length_cons]
    exact Nat.lt_succ_self _

theorem transmitFront_none {r : Relay} (h : transmitFront S Z E r = none) : r.txQueue.items = [] := by
  unfold transmitFront at h
  cases hpop : r.txQueue.pop TxItem.byteCost with
  | none => exact items_of_pop_none hpop
  | some p =>
    rw [hpop] at h
    cases h

theorem transmitFront_sent {r r' : Relay} {item : TxItem} {rc : SedsResult} (h : transmitFront S Z E r = some (item, rc, r')) :
    r'.txQueue.items.length < r.txQueue.items.length ∧ (r.sideTxActive = false → r.sideTxDeferred = false → rc ≠ SEDS_IO) := by
  unfold transmitFront at h
  cases hpop : r.txQueue.pop TxItem.byteCost with
  | none =>
    rw [hpop] at h
    cases h
  | some p =>
    rw [hpop] at h
    obtain ⟨item', queue⟩ := p
    dsimp only at h
    rw [Option.some.injEq, Prod.mk.injEq] at h
    obtain ⟨rfl, hsent⟩ := h
    have hqueue := transmitItem_txQueue S Z E (r.setOwner { r.toOwner with txQueue := queue }) item'
    have hidle := transmitItem_idle S Z E (r := r.setOwner { r.toOwner with txQueue := queue })
    rw [hsent] at hqueue
    refine ⟨?_, fun hactive hnone => ?_⟩
    · rw [hqueue, length_of_pop hpop]
      exact Nat.lt_succ_self _
    · have hcode := hidle hactive hnone item'
      rwa [hsent] at hcode

/-- What the rounds make smaller: the packets to be received, and the packets to be sent. -/
def work (r : Relay) : Nat × Nat := (r.rxQueue.items.length, r.txQueue.items.length)

/-- The first half of a round: a packet is received, or nothing is put into the queue. -/
theorem received_cases (r : Relay) :
    Calm r.toOwner (receiveNext S E (r.setOwner (r.toOwner.doReliableTimeouts E))).toOwner ∧
    ((receiveNext S E (r.setOwner (r.toOwner.doReliableTimeouts E))).rxQueue.items.length < r.rxQueue.items.length ∨
      r.rxQueue.items = [] ∧ (receiveNext S E (r.setOwner (r.toOwner.doReliableTimeouts E))).rxQueue.items = [] ∧
        (receiveNext S E (r.setOwner (r.toOwner.doReliableTimeouts E))).txQueue = r.txQueue) := by
  have htimeouts : Sending r.toOwner (r.toOwner.doReliableTimeouts E) := doReliableTimeouts_emits E r.toOwner fun _ _ _ => trivial
  rcases receiveNext_shorter (S := S) (E := E) (r.setOwner (r.toOwner.doReliableTimeouts E)) with ⟨hempty, heq⟩ | ⟨hshorter, hcalm⟩
  · rw [heq]
    rw [setOwner_toOwner, htimeouts.queue] at hempty
    refine ⟨htimeouts.calm, .inr ⟨hempty, ?_, doReliableTimeouts_txQueue E r.toOwner⟩⟩
    rw [setOwner_toOwner, htimeouts.queue, hempty]
  · rw [setOwner_toOwner, htimeouts.queue] at hshorter
    exact ⟨htimeouts.calm.trans hcalm, .inl hshorter⟩

/-- Without a time limit another round follows until both queues are empty. -/
theorem nextRound_eq (startMs : UInt64) (r : Relay) :
    nextRound E startMs 0 r =
      if Router.idle r.toOwner then .inl ⟨SEDS_OK, r, none⟩ else .inr (r.setOwner (r.toOwner.nowMs E).2) := by
  unfold nextRound goesOn
  cases Router.idle r.toOwner with
  | true => rfl
  | false => rfl

/-- **A round that is not the last** leaves less work. -/
theorem allRound_next {startMs : UInt64} {r r' : Relay} (hround : allRound S Z E startMs 0 r = .inr r') :
    Calm r.toOwner r'.toOwner ∧ WellFoundedRelation.rel r'.work r.work := by
  obtain ⟨hcalm, hcases⟩ := received_cases (S := S) (E := E) r
  unfold allRound at hround
  dsimp only at hround
  rw [if_neg (by simp [timeoutExpired])] at hround
  generalize receiveNext S E (r.setOwner (r.toOwner.doReliableTimeouts E)) = m at hround hcalm hcases
  have hread : Calm m.toOwner (m.setOwner (m.toOwner.nowMs E).2).toOwner := .of_eq rfl rfl
  rcases hfront : transmitFront S Z E (m.setOwner (m.toOwner.nowMs E).2) with _ | ⟨item, rc, r₁⟩
  · rw [hfront] at hround
    dsimp only at hround
    rw [nextRound_eq] at hround
    split at hround
    · cases hround
    · rename_i hbusy
      cases hround
      rcases hcases with hshorter | ⟨-, hempty, -⟩
      · exact ⟨(hcalm.trans hread).trans (.of_eq rfl rfl), .left _ _ hshorter⟩
      · have hdone : (m.setOwner (m.toOwner.nowMs E).2).txQueue.items = [] := transmitFront_none hfront
        exact absurd (Router.idle_eq_true_iff.mpr ⟨hempty, hdone⟩) hbusy
  · rw [hfront] at hround
    dsimp only at hround
    have hsending := (transmitFront_spec hfront).1
    obtain ⟨hshort, -⟩ := transmitFront_sent hfront
    split at hround
    · rw [nextRound_eq] at hround
      split at hround
      · cases hround
      · cases hround
        refine ⟨((hcalm.trans hread).trans hsending.calm).trans (.of_eq rfl rfl), ?_⟩
        have hqueue : r₁.rxQueue = m.rxQueue := hsending.queue
        unfold work
        rw [setOwner_toOwner]
        rcases hcases with hshorter | ⟨hempty, hempty', hsame⟩
        · exact .left _ _ (by rwa [← hqueue] at hshorter)
        · have hrx : (r₁.toOwner.nowMs E).2.rxQueue.items.length = r.rxQueue.items.length := by
            rw [hempty, ← hempty', ← hqueue]
            rfl
          rw [hrx]
          refine .right _ ?_
          rw [← hsame]
          exact hshort
    · split at hround
      · cases hround
      · cases hround

/-- **The last round** ends with an error, with an item put back, or with nothing left. -/
theorem allRound_last {startMs : UInt64} {r : Relay} {d : Drained Relay} (hidle : r.sideTxActive = false)
    (hnone : r.sideTxDeferred = false) (hround : allRound S Z E startMs 0 r = .inl d) (hok : d.rc = SEDS_OK) :
    Router.idle d.state.toOwner = true := by
  obtain ⟨hcalm, -⟩ := received_cases (S := S) (E := E) r
  unfold allRound at hround
  dsimp only at hround
  rw [if_neg (by simp [timeoutExpired])] at hround
  generalize receiveNext S E (r.setOwner (r.toOwner.doReliableTimeouts E)) = m at hround hcalm
  have hread : Calm m.toOwner (m.setOwner (m.toOwner.nowMs E).2).toOwner := .of_eq rfl rfl
  have hends : ∀ r : Relay, nextRound E startMs 0 r = .inl d → Router.idle d.state.toOwner = true := by
    intro r hend
    rw [nextRound_eq] at hend
    split at hend
    · rename_i hdone
      cases hend
      exact hdone
    · cases hend
  rcases hfront : transmitFront S Z E (m.setOwner (m.toOwner.nowMs E).2) with _ | ⟨item, rc, r₁⟩
  · rw [hfront] at hround
    exact hends _ hround
  · rw [hfront] at hround
    dsimp only at hround
    obtain ⟨-, hcode⟩ := transmitFront_sent hfront
    split at hround
    · exact hends _ hround
    · rename_i hfailed
      have hcalm' := hcalm.trans hread
      rw [if_neg (hcode (hcalm'.active.trans hidle) (hcalm'.deferred hidle hnone))] at hround
      cases hround
      exact absurd hok hfailed

/-- **The drain ends**, and where no callback is calling back, it ends with an error or with both queues empty. -/
theorem allDrain_ends (startMs : UInt64) (r : Relay) :
    ∃ d, Ends (allRound S Z E startMs 0) r d ∧
      (r.sideTxActive = false → r.sideTxDeferred = false → d.rc = SEDS_OK → Router.idle d.state.toOwner = true) := by
  apply ends_of_variant work (I := fun s => Calm r.toOwner s.toOwner)
  case hlast =>
    rintro s d hcalm hround hidle hnone hok
    exact allRound_last (hcalm.active.trans hidle) (hcalm.deferred hidle hnone) hround hok
  case hnext =>
    rintro s s' hcalm hround
    obtain ⟨hcalm', hless⟩ := allRound_next hround
    exact ⟨hcalm.trans hcalm', hless⟩
  case hs => exact .of_eq rfl rfl

end

end Relay

/-! ## Runs without callbacks that call back -/

section

variable (S : Schema) (Z : Codec) (E : Env)

/-- A run in which no callback calls back defers no transmission. -/
theorem Router.run_calm (r : Router) (acts : List Router.Act) (hcallbacks : ∀ act ∈ acts, ∀ active, act ≠ .sideTx active) :
    Calm r.toOwner (runFrom (Router.perform S Z E) r acts).toOwner := by
  have halong : Along (Router.perform S Z E) (fun _ act => ∀ active, act ≠ .sideTx active) r acts := along_of_forall hcallbacks
  refine halong.invariant (I := fun s => Calm r.toOwner s.toOwner) (.of_eq rfl rfl) fun s act hact hcalm => ?_
  exact hcalm.trans (Router.perform_performs S (Router.grants_of_silent fun _ => Obs.timely_of_silent E) Z E
    (Router.demands_timely S Z E s act) hact).calm

theorem Relay.run_calm (r : Relay) (acts : List Relay.Act) (hcallbacks : ∀ act ∈ acts, ∀ active, act ≠ .sideTx active) :
    Calm r.toOwner (runFrom (Relay.perform S Z E) r acts).toOwner := by
  have halong : Along (Relay.perform S Z E) (fun _ act => ∀ active, act ≠ .sideTx active) r acts := along_of_forall hcallbacks
  refine halong.invariant (I := fun s => Calm r.toOwner s.toOwner) (.of_eq rfl rfl) fun s act hact hcalm => ?_
  exact hcalm.trans (Relay.perform_performs S (Router.grants_of_silent fun _ => Obs.timely_of_silent E) Z E
    (Relay.demands_timely S Z E s act) hact).calm

/-- **Draining ends and drains.** A drain of both queues without a time limit takes only so many rounds: any greater number gives
    the same. After a run in which no callback calls back, it ends with an error or with both queues empty. The clock of a router
    stands still in the meantime. -/
theorem processAllQueues_drains :
    (∀ r : Router, (∀ n ≥ r.clockReads, E.clock n = E.clock r.clockReads) →
      ∃ N d, (∀ rounds ≥ N, r.processAllQueues S Z E 0 rounds = d) ∧
        ∀ (r₀ : Router) (acts : List Router.Act), r₀.sideTxActive = false → r₀.sideTxDeferred = false →
          (∀ act ∈ acts, ∀ active, act ≠ .sideTx active) → r = runFrom (Router.perform S Z E) r₀ acts →
          d.rc = SEDS_OK → d.state.rxQueue.items = [] ∧ d.state.txQueue.items = []) ∧
    ∀ r : Relay, ∃ N d, (∀ rounds ≥ N, r.processAllQueues S Z E 0 rounds = d) ∧
      ∀ (r₀ : Relay) (acts : List Relay.Act), r₀.sideTxActive = false → r₀.sideTxDeferred = false →
        (∀ act ∈ acts, ∀ active, act ≠ .sideTx active) → r = runFrom (Relay.perform S Z E) r₀ acts →
        d.rc = SEDS_OK → d.state.rxQueue.items = [] ∧ d.state.txQueue.items = [] := by
  refine ⟨?_, ?_⟩
  · intro r hclock
    obtain ⟨d, hends, hdrained⟩ := Router.allDrain_ends (S := S) (Z := Z) hclock
    obtain ⟨N, hrounds⟩ := hends.runLoop fun r => ⟨SEDS_OK, r, none⟩
    refine ⟨N, d, fun rounds hrounds' => ?_, ?_⟩
    · unfold Router.processAllQueues
      rw [if_pos rfl, Router.allDrain_eq]
      exact hrounds rounds hrounds'
    · intro r₀ acts hidle hnone hcallbacks hr hok
      have hcalm := Router.run_calm S Z E r₀ acts hcallbacks
      rw [← hr] at hcalm
      exact Router.idle_eq_true_iff.mp (hdrained (hcalm.active.trans hidle) (hcalm.deferred hidle hnone) hok)
  · intro r
    obtain ⟨d, hends, hdrained⟩ := Relay.allDrain_ends (S := S) (Z := Z) (E := E) (r.toOwner.nowMs E).1 (r.setOwner (r.toOwner.nowMs E).2)
    obtain ⟨N, hrounds⟩ := hends.runLoop fun r => ⟨SEDS_OK, r, none⟩
    refine ⟨N, d, fun rounds hrounds' => ?_, ?_⟩
    · unfold Relay.processAllQueues
      dsimp only
      rw [Relay.allDrain_eq]
      exact hrounds rounds hrounds'
    · intro r₀ acts hidle hnone hcallbacks hr hok
      have hcalm := Relay.run_calm S Z E r₀ acts hcallbacks
      rw [← hr] at hcalm
      exact Router.idle_eq_true_iff.mp (hdrained (hcalm.active.trans hidle) (hcalm.deferred hidle hnone) hok)

end

/-- A report is received, and another is logged: both wait in their queues. -/
def gpsWaitingActs : List Router.Act := [.rxSerializedPacketToQueue (Relay.gpsFrame 1), .logBytesEx 100 gpsPacket.payload none true]

theorem processAllQueues_drains_gps :
    Router.idle (runFrom (Router.perform defaultTestSchema (.absent 16) .calm) (.new .Sink (ascii "R") [.serialized [] true] [])
      gpsWaitingActs).toOwner = false ∧
    (∃ N d, (∀ rounds ≥ N, (runFrom (Router.perform defaultTestSchema (.absent 16) .calm) (.new .Sink (ascii "R") [.serialized [] true] [])
        gpsWaitingActs).processAllQueues defaultTestSchema (.absent 16) .calm 0 rounds = d) ∧
      (d.rc = SEDS_OK → d.state.rxQueue.items = [] ∧ d.state.txQueue.items = [])) ∧
    ∃ N d, (∀ rounds ≥ N, (runFrom (Relay.perform defaultTestSchema (.absent 16) .calm) Relay.gpsRelay gpsRelayActs).processAllQueues
        defaultTestSchema (.absent 16) .calm 0 rounds = d) ∧
      (d.rc = SEDS_OK → d.state.rxQueue.items = [] ∧ d.state.txQueue.items = []) := by
  obtain ⟨hrouter, hrelay⟩ := processAllQueues_drains defaultTestSchema (.absent 16) .calm
  refine ⟨?_, ?_, ?_⟩
  · rw [defaultTestSchema_eq]
    decide +kernel
  · obtain ⟨N, d, hends, hdrains⟩ := hrouter (runFrom (Router.perform defaultTestSchema (.absent 16) .calm)
      (.new .Sink (ascii "R") [.serialized [] true] []) gpsWaitingActs) fun _ _ => rfl
    exact ⟨N, d, hends, hdrains _ gpsWaitingActs rfl rfl (by simp [gpsWaitingActs]) rfl⟩
  · obtain ⟨N, d, hends, hdrains⟩ := hrelay (runFrom (Relay.perform defaultTestSchema (.absent 16) .calm) Relay.gpsRelay gpsRelayActs)
    exact ⟨N, d, hends, hdrains _ gpsRelayActs rfl rfl (by simp [gpsRelayActs]) rfl⟩

end SedsNet
