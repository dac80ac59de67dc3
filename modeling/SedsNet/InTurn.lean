import SedsNet.Draining
import SedsNet.Eviction
import SedsNet.Integrity
import SedsNet.Lib.Channels
import SedsNet.Relay.Moves

/-!
# Unreliable traffic keeps its order

A relay has two queues, and a packet that is not reliable waits in one and then in the other. What it hands to a side is, packet
for packet, what came in on the other sides: some is lost (there is no room, a side is closed, a route leads elsewhere), but nothing
overtakes, and nothing goes out twice. So a row of relays is one channel, however long it is, as long as the links between them
lose at most.

This takes that no callback calls back: a packet whose transmission is deferred goes to all its sides again.
-/

set_option autoImplicit false

namespace SedsNet

open Lib Owner

/-! ## Reliable headers -/

/-- **Only reliable types have a header**, in a frame on which the walk of the parser is well defined. -/
theorem peekFrameInfo_reliable {S : Schema} {Z : Codec} {bytes : Bytes} {frame : FrameInfoLite} {hdr : ReliableHeaderLite}
    (hdom : isV4FrameFlags (bytes.getD 0 0) = true ∨ legacyInRange bytes) (hpeek : peekFrameInfo S Z bytes true = some frame)
    (hreliable : frame.reliable = some hdr) : S.isReliableType frame.envelope.ty = true := by
  unfold peekFrameInfo at hpeek
  obtain ⟨⟨f, j⟩, hval, rfl⟩ := Option.map_eq_some_iff.mp hpeek
  rw [Read.value_peekFrameInfo] at hval
  unfold Schema.isReliableType
  split at hval
  · cases hval
  · by_cases hv4 : isV4FrameFlags (bytes.getD 0 0) = true
    · rw [if_pos hv4] at hval
      obtain ⟨hd, pos, -, hhas, -, henvelope⟩ := Read.peekV4_eq_some hval hreliable
      rw [henvelope]
      unfold Schema.hasV4ReliableHeader at hhas
      exact (Bool.and_eq_true_iff.mp hhas).1
    · rw [if_neg hv4] at hval
      obtain ⟨fs, endpoints, sender, hhead, -, henvelope, -⟩ := Read.peekLegacy_eq_some hval hreliable
      obtain ⟨cur, hfields, hcheck, hrow, -⟩ := Read.legacyHead_eq_some hhead
      obtain ⟨hfits, -⟩ := hdom.resolve_left hv4 fs cur hfields
      have hsame : fs.ty.toUInt32.toNat = fs.ty.toNat := by
        rw [UInt64.toNat_toUInt32]
        exact Nat.mod_eq_of_lt hfits
      have hvalid : S.validType fs.ty.toUInt32 = true := by
        unfold Read.legacyCheck at hcheck
        exact Bool.of_not_eq_false (Reader.value_rejectIf_bind_eq_some hcheck).1
      rw [henvelope]
      show (S.validType fs.ty.toUInt32 && (S.typeAt fs.ty.toUInt32.toNat).reliable) = true
      rw [hvalid, hsame, ← hrow]
      rfl

/-! ## What waits -/

/-- The packet, if it has the type and may go out on the side: it did not come from there. -/
def passenger (ty : UInt32) (exit : Int32) (pkt : PacketData) (srcSide : Option Int32) : Option PacketData :=
  if pkt.ty = ty ∧ srcSide ≠ some exit then some pkt else none

/-- Of a packet that waits to be sent, the side it is addressed to is known, too. -/
def TxItem.passenger (ty : UInt32) (exit : Int32) (item : TxItem) : Option PacketData :=
  if item.pkt.ty = ty ∧ (item.dstSide = some exit ∨ item.dstSide = none ∧ item.srcSide ≠ some exit) then some item.pkt else none

section

variable {ty : UInt32} {exit : Int32}

theorem passenger_of_ne {pkt : PacketData} (h : pkt.ty ≠ ty) (srcSide : Option Int32) : passenger ty exit pkt srcSide = none :=
  if_neg fun hboth => h hboth.1

theorem TxItem.passenger_of_ne {item : TxItem} (h : item.pkt.ty ≠ ty) : item.passenger ty exit = none := if_neg fun hboth => h hboth.1

/-- A packet that is routed is a passenger as it was when it came in. -/
theorem TxItem.passenger_routed (pkt : PacketData) (srcSide : Option Int32) (deliverLocal : Bool) :
    (⟨pkt, srcSide, none, deliverLocal⟩ : TxItem).passenger ty exit = SedsNet.passenger ty exit pkt srcSide := by
  unfold TxItem.passenger SedsNet.passenger
  simp

end

section

variable {α β : Type} {cost : α → UInt64} {queue queue' : Bounded α} {item : α} {front : Bool} {budget : UInt64} {f : α → Option β}

/-- Some of what was in the queue is left, in the same order, and the new item is at an end of it. -/
theorem enqueueBounded_items (h : enqueueBounded cost queue item front budget = some queue') :
    ∃ kept : List α, kept.Sublist queue.items ∧ queue'.items = if front then item :: kept else kept ++ [item] := by
  unfold enqueueBounded at h
  split at h
  · cases h
  · cases h
    exact ⟨_, (evict_suffix (cost item) budget queue.items queue.bytes queue.wrapped).sublist, rfl⟩

theorem items_of_pop (h : queue.pop cost = some (item, queue')) : queue.items = item :: queue'.items := by
  unfold Bounded.pop at h
  split at h
  · cases h
  · cases h
    assumption

theorem filterMap_enqueueBounded_of_none (h : enqueueBounded cost queue item front budget = some queue') (hitem : f item = none) :
    (queue'.items.filterMap f).Sublist (queue.items.filterMap f) := by
  obtain ⟨kept, hkept, hitems⟩ := enqueueBounded_items h
  have hsame : queue'.items.filterMap f = kept.filterMap f := by
    rw [hitems]
    cases front with
    | true => exact List.filterMap_cons_none hitem
    | false => simp [hitem]
  rw [hsame]
  exact hkept.filterMap f

theorem filterMap_enqueueBounded (h : enqueueBounded cost queue item false budget = some queue') :
    (queue'.items.filterMap f).Sublist (queue.items.filterMap f ++ (f item).toList) := by
  obtain ⟨kept, hkept, hitems⟩ := enqueueBounded_items h
  have hsame : queue'.items.filterMap f = kept.filterMap f ++ (f item).toList := by
    rw [hitems]
    cases hitem : f item <;> simp [hitem]
  rw [hsame]
  exact (hkept.filterMap f).append_right _

end

namespace Owner

section

variable (ty : UInt32) (exit : Int32)

def txWaits (o : Owner) : List PacketData := o.txQueue.items.filterMap (·.passenger ty exit)

def rxWaits (o : Owner) : List PacketData := o.rxQueue.items.filterMap fun item => passenger ty exit item.pkt item.srcSide

/-- What may still go out on the side, in the order in which it will. -/
def inTransit (o : Owner) : List PacketData := o.txWaits ty exit ++ o.rxWaits ty exit

/-- What a stream buffers or releases is of other types. -/
structure Apart (o : Owner) : Prop where
  released : ∀ x ∈ o.reliableReleasedRx, x.pkt.ty ≠ ty
  buffered : ∀ key rx seq bf, o.reliableRx.lookup key = some rx → rx.buffered.lookup seq = some bf → bf.pkt.ty ≠ ty

/-- Some of what waited may be lost, and `new` may have come to the receive queue. -/
structure TakesOn (new : List PacketData) (o o' : Owner) : Prop where
  tx : (o'.txWaits ty exit).Sublist (o.txWaits ty exit)
  rx : o.Apart ty → (o'.rxWaits ty exit).Sublist (o.rxWaits ty exit ++ new)
  apart : o.Apart ty → o'.Apart ty

end

variable {ty : UInt32} {exit : Int32} {new new' : List PacketData} {o o' o'' : Owner}

namespace TakesOn

theorem trans (h : TakesOn ty exit new o o') (h' : TakesOn ty exit new' o' o'') : TakesOn ty exit (new ++ new') o o'' := by
  refine ⟨h'.tx.trans h.tx, fun hapart => ?_, fun hapart => h'.apart (h.apart hapart)⟩
  have hboth := (h'.rx (h.apart hapart)).trans ((h.rx hapart).append_right new')
  rwa [List.append_assoc] at hboth

theorem loses (h : TakesOn ty exit new o o') (h' : TakesOn ty exit [] o' o'') : TakesOn ty exit new o o'' := by
  have hboth := h.trans h'
  rwa [List.append_nil] at hboth

theorem after (h : TakesOn ty exit [] o o') (h' : TakesOn ty exit new o' o'') : TakesOn ty exit new o o'' := h.trans h'

/-- The receiving half stays as it is. -/
theorem of_tx (htx : (o'.txWaits ty exit).Sublist (o.txWaits ty exit)) (hqueue : o'.rxQueue = o.rxQueue)
    (hreleased : o'.reliableReleasedRx = o.reliableReleasedRx) (hstreams : o'.reliableRx = o.reliableRx) : TakesOn ty exit [] o o' := by
  refine ⟨htx, fun _ => ?_, fun hapart => ⟨hreleased ▸ hapart.released, hstreams ▸ hapart.buffered⟩⟩
  rw [List.append_nil]
  unfold rxWaits
  rw [hqueue]

theorem of_emits {P : TxItem → Prop} {Q : Obs → Prop} (h : Emits P Q o o') (htx : o'.txQueue = o.txQueue) : TakesOn ty exit [] o o' := by
  refine of_tx ?_ h.queue h.released h.streams
  unfold txWaits
  rw [htx]

theorem refl (o : Owner) : TakesOn ty exit [] o o := .of_tx (List.Sublist.refl _) rfl rfl rfl

theorem more (h : TakesOn ty exit [] o o') (new : List PacketData) : TakesOn ty exit new o o' := by
  refine ⟨h.tx, fun hapart => ?_, h.apart⟩
  have hrx := h.rx hapart
  rw [List.append_nil] at hrx
  exact hrx.trans (List.sublist_append_left _ new)

theorem inTransit (h : TakesOn ty exit new o o') (hapart : o.Apart ty) : (o'.inTransit ty exit).Sublist (o.inTransit ty exit ++ new) := by
  unfold Owner.inTransit
  rw [List.append_assoc]
  exact h.tx.append (h.rx hapart)

end TakesOn

/-! ## The transmit queue -/

theorem observe_takesOn (o : Owner) (e : Obs) : TakesOn ty exit [] o (o.observe e) := .of_tx (List.Sublist.refl _) rfl rfl rfl

/-- An item at the back of the queue. -/
theorem enqueueTx_txWaits (ty : UInt32) (exit : Int32) (o : Owner) (item : TxItem) :
    ((o.enqueueTx item).txWaits ty exit).Sublist (o.txWaits ty exit ++ (item.passenger ty exit).toList) := by
  unfold enqueueTx enqueueTxAt
  split
  · rename_i queue hqueue
    exact filterMap_enqueueBounded hqueue
  · exact List.sublist_append_left _ _

/-- An item that is no passenger, at either end. -/
theorem enqueueTxAt_takesOn (front : Bool) (o : Owner) (item : TxItem) (h : item.pkt.ty ≠ ty) :
    TakesOn ty exit [] o (o.enqueueTxAt front item) := by
  have hemits : Emits (fun _ => True) (fun _ => True) o (o.enqueueTxAt front item) := .enqueueTxAt front o trivial
  refine .of_tx ?_ hemits.queue hemits.released hemits.streams
  unfold enqueueTxAt
  split
  · rename_i queue hqueue
    exact filterMap_enqueueBounded_of_none hqueue (TxItem.passenger_of_ne h)
  · exact List.Sublist.refl _

section

variable (S : Schema) (Z : Codec) (E : Env)

theorem queueReliableControl_takesOn {controlTy : UInt32} (h : controlTy ≠ ty) (o : Owner) (sideId : Int32) (streamTy seq : UInt32) :
    TakesOn ty exit [] o (queueReliableControl S E controlTy o sideId streamTy seq) := by
  unfold queueReliableControl
  cases o.sideAt sideId with
  | none => exact .refl o
  | some side =>
    dsimp only
    split
    · exact .refl o
    · have hread : TakesOn ty exit [] o (o.nowMs E).2 := .of_tx (List.Sublist.refl _) rfl rfl rfl
      have hqueued := hread.loses (enqueueTxAt_takesOn true (o.nowMs E).2 ⟨makeReliableControlPacket S controlTy streamTy seq
        (o.nowMs E).1 o.controlSender, none, some sideId, false⟩ h)
      exact hqueued.loses (observe_takesOn _ _)

theorem handleReliableControl_txQueue (o : Owner) (pkt : PacketData) (srcSide : Option Int32) :
    (o.handleReliableControl S E pkt srcSide).txQueue = o.txQueue := by
  have hack : ∀ sideId ty seq, (o.handleAck S sideId ty seq).txQueue = o.txQueue := by
    intro sideId ty seq
    unfold handleAck
    cases o.reliableTx.lookup (reliableKey sideId ty) with
    | none => rfl
    | some tx =>
      dsimp only
      split <;> rfl
  have hpart : ∀ sideId ty seq, (o.handlePartialAck sideId ty seq).txQueue = o.txQueue := by
    intro sideId ty seq
    unfold handlePartialAck
    cases o.reliableTx.lookup (reliableKey sideId ty) with
    | none => rfl
    | some tx =>
      dsimp only
      cases tx.sent.lookup seq <;> rfl
  have hrequest : ∀ sideId ty seq, (o.handlePacketRequest E sideId ty seq).txQueue = o.txQueue := by
    intro sideId ty seq
    unfold handlePacketRequest
    cases o.sideAt sideId with
    | none => rfl
    | some side =>
      dsimp only
      cases o.reliableTx.lookup (reliableKey sideId ty) with
      | none => rfl
      | some tx =>
        dsimp only
        cases tx.sent.lookup seq with
        | none => rfl
        | some sent =>
          dsimp only
          split
          · rfl
          · exact callSerializedTx_txQueue E o sideId sent.bytes
  unfold handleReliableControl
  cases srcSide with
  | none => rfl
  | some sideId =>
    dsimp only
    split
    · rfl
    · split
      · exact hack _ _ _
      · split
        · exact hpart _ _ _
        · exact hrequest _ _ _

/-! ## The receive queue -/

theorem enqueueRx_takesOn (o : Owner) (item : RxItem) :
    TakesOn ty exit (passenger ty exit item.pkt item.srcSide).toList o (o.enqueueRx item).2 := by
  unfold enqueueRx enqueueRxAt
  split
  · rename_i queue hqueue
    exact ⟨List.Sublist.refl _, fun _ => filterMap_enqueueBounded (f := fun item : RxItem => passenger ty exit item.pkt item.srcSide) hqueue,
      fun hapart => ⟨hapart.released, hapart.buffered⟩⟩
  · exact (observe_takesOn o _).more _

/-- What was released is of other types, so that it brings no passengers. -/
theorem flushReleased_takesOn (o : Owner) : TakesOn ty exit [] o o.flushReleased := by
  have hloop : ∀ (items : List RxItem) (o' : Owner),
      TakesOn ty exit (items.filterMap fun item => passenger ty exit item.pkt item.srcSide) o'
        (items.foldl (fun o item => (o.enqueueRx item).2) o') := by
    intro items
    induction items with
    | nil => exact fun o' => .refl o'
    | cons item rest ih =>
      intro o'
      have hone : TakesOn ty exit (passenger ty exit item.pkt item.srcSide).toList o' (o'.enqueueRx item).2 := enqueueRx_takesOn o' item
      have hboth := hone.trans (ih (o'.enqueueRx item).2)
      rw [List.filterMap_cons]
      cases hitem : passenger ty exit item.pkt item.srcSide with
      | none => rwa [hitem] at hboth
      | some pkt => rwa [hitem] at hboth
  have hdone := hloop o.reliableReleasedRx o
  unfold flushReleased
  refine ⟨hdone.tx, fun hapart => ?_, fun hapart => ⟨fun x hx => absurd hx List.not_mem_nil, (hdone.apart hapart).buffered⟩⟩
  have hnone : o.reliableReleasedRx.filterMap (fun item => passenger ty exit item.pkt item.srcSide) = [] :=
    List.filterMap_eq_nil_iff.mpr fun item hitem => passenger_of_ne (hapart.released item hitem) item.srcSide
  have hrx := hdone.rx hapart
  rwa [hnone] at hrx

/-! ## Reliable ingress -/

/-- The receiving half of a stream is written, and packets are released: all of other types. -/
theorem setRxState_takesOn (o : Owner) (sideId : Int32) (streamTy : UInt32) {rx : ReliableRxState} {items : List RxItem}
    (hbuffered : o.Apart ty → ∀ seq bf, rx.buffered.lookup seq = some bf → bf.pkt.ty ≠ ty)
    (hitems : o.Apart ty → ∀ x ∈ items, x.pkt.ty ≠ ty) :
    TakesOn ty exit [] o ((o.setRxState sideId streamTy rx).pushReleased items) := by
  refine ⟨List.Sublist.refl _, fun _ => ?_, fun hapart => ⟨?_, ?_⟩⟩
  · rw [List.append_nil]
    exact List.Sublist.refl _
  · intro x hx
    rcases List.mem_append.mp hx with hold | hnew
    · exact hapart.released x hold
    · exact hitems hapart x hnew
  · intro key rx' seq bf hrx' hbf
    by_cases hkey : key = reliableKey sideId streamTy
    · subst hkey
      have hwritten : (o.reliableRx.insert (reliableKey sideId streamTy) rx).lookup (reliableKey sideId streamTy) = some rx' := hrx'
      rw [AList.lookup_insert, Option.some.injEq] at hwritten
      subst hwritten
      exact hbuffered hapart seq bf hbf
    · have hother : (o.reliableRx.insert (reliableKey sideId streamTy) rx).lookup key = some rx' := hrx'
      rw [AList.lookup_insert_ne hkey] at hother
      exact hapart.buffered key rx' seq bf hother hbf

theorem Apart.rxState (h : o.Apart ty) {sideId : Int32} {streamTy seq : UInt32} {bf : Buffered}
    (hbf : (o.rxState sideId streamTy).buffered.lookup seq = some bf) : bf.pkt.ty ≠ ty := by
  unfold Owner.rxState at hbf
  cases hrx : o.reliableRx.lookup (reliableKey sideId streamTy) with
  | none =>
    rw [hrx] at hbf
    cases hbf
  | some rx =>
    rw [hrx] at hbf
    exact h.buffered _ rx seq bf hrx hbf

/-- Nothing is released, and what was buffered still is. -/
theorem keepRxState_takesOn (o : Owner) (sideId : Int32) (streamTy : UInt32) {rx : ReliableRxState}
    (hbuffered : o.Apart ty → ∀ seq bf, rx.buffered.lookup seq = some bf → bf.pkt.ty ≠ ty) :
    TakesOn ty exit [] o (o.setRxState sideId streamTy rx) := by
  have hpushed : TakesOn ty exit [] o ((o.setRxState sideId streamTy rx).pushReleased []) :=
    setRxState_takesOn o sideId streamTy hbuffered fun _ _ hx => nomatch hx
  unfold pushReleased at hpushed
  rwa [List.append_nil] at hpushed

theorem handleAck_takesOn (o : Owner) (sideId : Int32) (streamTy ack : UInt32) :
    TakesOn ty exit [] o (o.handleAck S sideId streamTy ack) := by
  unfold handleAck
  cases o.reliableTx.lookup (reliableKey sideId streamTy) with
  | none => exact .refl o
  | some tx =>
    dsimp only
    split
    · exact .of_tx (List.Sublist.refl _) rfl rfl rfl
    · exact .of_tx (List.Sublist.refl _) rfl rfl rfl

theorem ingressEarly_takesOn (hpart : SEDS_DT_RELIABLE_PARTIAL_ACK ≠ ty) (hrequest : SEDS_DT_RELIABLE_PACKET_REQUEST ≠ ty) (o : Owner)
    (sideId : Int32) (streamTy seq : UInt32) {pkt : PacketData} (hpkt : pkt.ty ≠ ty) (wireBytes : Bytes) :
    TakesOn ty exit [] o (o.ingressEarly S E sideId streamTy seq pkt wireBytes) := by
  unfold ingressEarly
  dsimp only
  generalize hrx : (if (o.rxState sideId streamTy).buffered.entries.length < o.tuning.reliableMaxPending then
      { o.rxState sideId streamTy with buffered := Map.emplace (o.rxState sideId streamTy).buffered seq ⟨pkt, wireBytes⟩ }
    else o.rxState sideId streamTy) = rx
  have hbuffered : o.Apart ty → ∀ q bf, rx.buffered.lookup q = some bf → bf.pkt.ty ≠ ty := by
    intro hapart q bf hbf
    rw [← hrx] at hbf
    split at hbf
    · rcases lookup_emplace hbf with hold | ⟨rfl, rfl⟩
      · exact hapart.rxState hold
      · exact hpkt
    · exact hapart.rxState hbf
  refine TakesOn.loses ?_ (queueReliableControl_takesOn S E hrequest _ sideId streamTy _)
  refine TakesOn.loses ?_ (queueReliableControl_takesOn S E hpart _ sideId streamTy seq)
  exact keepRxState_takesOn o sideId streamTy hbuffered

theorem ingressNext_takesOn (hack : SEDS_DT_RELIABLE_ACK ≠ ty) (o : Owner) (sideId : Int32) (streamTy : UInt32) :
    TakesOn ty exit [] o (o.ingressNext S E sideId streamTy) := by
  unfold ingressNext
  dsimp only
  generalize hrx : ({ o.rxState sideId streamTy with
    expectedSeq := nextSeq (o.rxState sideId streamTy).expectedSeq, lastAck := (o.rxState sideId streamTy).expectedSeq } : ReliableRxState) = rx
  have hsame : rx.buffered = (o.rxState sideId streamTy).buffered := by rw [← hrx]
  obtain ⟨hreleased, hleft⟩ := releaseBuffered_of_buffered sideId rx.buffered.entries.length rx
  rw [hsame] at hreleased hleft
  refine TakesOn.loses ?_ (queueReliableControl_takesOn S E hack _ sideId streamTy _)
  apply setRxState_takesOn
  · intro hapart seq bf hbf
    exact hapart.rxState (hleft seq bf hbf)
  · intro hapart x hx
    obtain ⟨seq, bf, hbf, hpkt⟩ := hreleased x hx
    rw [← hpkt]
    exact hapart.rxState hbf

/-- **Reliable ingress** brings no passengers: a frame with a reliable header is of another type. -/
theorem processReliableIngress_takesOn (hown : ty ∉ S.ownTraffic) (o : Owner) (sideId : Int32) (frame : FrameInfoLite) (pkt : PacketData)
    (hpkt : frame.reliable ≠ none → pkt.ty ≠ ty) (wireBytes : Bytes) :
    TakesOn ty exit [] o (o.processReliableIngress S E sideId frame pkt wireBytes).2 := by
  have hack : SEDS_DT_RELIABLE_ACK ≠ ty := ne_of_mem_of_not_mem (by simp [Schema.ownTraffic]) hown
  have hpart : SEDS_DT_RELIABLE_PARTIAL_ACK ≠ ty := ne_of_mem_of_not_mem (by simp [Schema.ownTraffic]) hown
  have hrequest : SEDS_DT_RELIABLE_PACKET_REQUEST ≠ ty := ne_of_mem_of_not_mem (by simp [Schema.ownTraffic]) hown
  unfold processReliableIngress
  cases hreliable : frame.reliable with
  | none => exact .refl o
  | some hdr =>
    have hother : pkt.ty ≠ ty := hpkt (by simp [hreliable])
    dsimp only
    split
    · exact handleAck_takesOn S o sideId _ _
    · split
      · exact .refl o
      · split
        · refine TakesOn.loses ?_ (queueReliableControl_takesOn S E hack _ sideId _ _)
          exact keepRxState_takesOn o sideId _ fun hapart seq bf hbf => hapart.rxState hbf
        · split
          · unfold ingressOld
            refine TakesOn.loses ?_ (queueReliableControl_takesOn S E hack _ sideId _ _)
            exact keepRxState_takesOn o sideId _ fun hapart seq bf hbf => hapart.rxState hbf
          · split
            · exact ingressEarly_takesOn S E hpart hrequest o sideId _ _ hother wireBytes
            · exact ingressNext_takesOn S E hack o sideId _

/-! ## Arrival -/

theorem packetIdFromWire_takesOn (o : Owner) (bytes : Bytes) : TakesOn ty exit [] o (o.packetIdFromWire S Z bytes).2 := by
  unfold packetIdFromWire
  have hparsed : TakesOn ty exit [] o (o.deserializePacket S Z bytes).2 := observe_takesOn o _
  generalize o.deserializePacket S Z bytes = p at hparsed ⊢
  obtain ⟨pkt, o₁⟩ := p
  cases pkt with
  | none => exact hparsed
  | some pkt => exact hparsed.loses (observe_takesOn o₁ _)

theorem pushRecent_takesOn (o : Owner) (id : UInt64) : TakesOn ty exit [] o (o.pushRecent id) := by
  refine .of_emits (pushRecent_emits (P := fun _ => True) (Q := fun _ => True) o trivial) ?_
  unfold pushRecent
  split
  · rfl
  · dsimp only
    split <;> rfl

theorem relayDuplicate_takesOn (o : Owner) (sideId : UInt32) (frame : FrameInfoLite) (bytes : Bytes) :
    TakesOn ty exit [] o (o.relayDuplicate S Z sideId frame bytes).2 := by
  unfold relayDuplicate
  cases frame.reliable with
  | some hdr => exact .refl o
  | none =>
    have hid : TakesOn ty exit [] o (o.packetIdFromWire S Z bytes).2 := packetIdFromWire_takesOn S Z o bytes
    dsimp only
    generalize o.packetIdFromWire S Z bytes = p at hid ⊢
    obtain ⟨id, o₁⟩ := p
    cases id with
    | none => exact hid
    | some id =>
      dsimp only at hid ⊢
      split
      · exact hid
      · exact hid.loses (pushRecent_takesOn o₁ _)

theorem relayEnqueue_takesOn (o : Owner) (item : RxItem) :
    TakesOn ty exit (passenger ty exit item.pkt item.srcSide).toList o (o.relayEnqueue item).2 := by
  unfold relayEnqueue
  have hone : TakesOn ty exit (passenger ty exit item.pkt item.srcSide).toList o (o.enqueueRx item).2 := enqueueRx_takesOn o item
  generalize o.enqueueRx item = p at hone ⊢
  obtain ⟨ok, o₁⟩ := p
  cases ok with
  | false => exact hone
  | true => exact hone.loses (flushReleased_takesOn o₁)

/-- **A frame arrives** at a relay, and the packet that is read from it may get into the receive queue. -/
theorem relayRxSerializedFromSide_takesOn (hty : S.isReliableType ty = false) (hown : ty ∉ S.ownTraffic) (o : Owner) (sideId : UInt32)
    {bytes : Bytes} (hdom : isV4FrameFlags (bytes.getD 0 0) = true ∨ legacyInRange bytes) :
    TakesOn ty exit ((SedsNet.deserializePacket S Z bytes).bind fun pkt => passenger ty exit pkt (some sideId.toInt32)).toList o
      (o.relayRxSerializedFromSide S Z E sideId bytes).2 := by
  have hother : ∀ {frame : FrameInfoLite}, SedsNet.peekFrameInfo S Z bytes true = some frame → frame.reliable ≠ none →
      frame.envelope.ty ≠ ty := by
    intro frame hpeek hreliable heq
    obtain ⟨hdr, hhdr⟩ := Option.ne_none_iff_exists'.mp hreliable
    have htrue := peekFrameInfo_reliable hdom hpeek hhdr
    rw [heq, hty] at htrue
    cases htrue
  unfold relayRxSerializedFromSide
  have hpeeked : TakesOn ty exit [] o (o.peekFrameInfo S Z bytes).2 := observe_takesOn o _
  have hpeek : (o.peekFrameInfo S Z bytes).1 = SedsNet.peekFrameInfo S Z bytes true := rfl
  generalize o.peekFrameInfo S Z bytes = p at hpeeked hpeek ⊢
  obtain ⟨frame, o₁⟩ := p
  dsimp only at hpeeked hpeek
  cases frame with
  | none => exact hpeeked.more _
  | some frame =>
    have hheader := hother hpeek.symm
    dsimp only
    split
    · exact hpeeked.more _
    · cases hack : frame.ackOnly with
      | true =>
        rw [if_pos rfl]
        exact (hpeeked.loses (processReliableIngress_takesOn S E hown o₁ sideId.toInt32 frame _ hheader bytes)).more _
      | false =>
        rw [if_neg Bool.false_ne_true]
        have hchecked := hpeeked.loses (relayDuplicate_takesOn S Z o₁ sideId frame bytes)
        generalize o₁.relayDuplicate S Z sideId frame bytes = p at hchecked ⊢
        obtain ⟨duplicate, o₂⟩ := p
        cases duplicate with
        | true => exact hchecked.more _
        | false =>
          have hparsed := hchecked.loses (observe_takesOn o₂
            (.compare (comparedNames S ((Read.deserializePacket S Z bytes).trace 0))))
          unfold deserializePacket
          dsimp only
          generalize o₂.observe (.compare (comparedNames S ((Read.deserializePacket S Z bytes).trace 0))) = o₃ at hparsed ⊢
          cases hpkt : SedsNet.deserializePacket S Z bytes with
          | none => exact hparsed.more _
          | some pkt =>
            have hsame : frame.envelope.ty = pkt.ty := by
              obtain ⟨f, hf, henvelope, -⟩ := deserializePacket_peek hpkt
              rw [← hpeek, Option.some.injEq] at hf
              rw [hf, henvelope]
            have hin := hparsed.loses (processReliableIngress_takesOn S E hown o₃ sideId.toInt32 frame pkt
              (fun hreliable => hsame ▸ hheader hreliable) bytes)
            dsimp only
            generalize o₃.processReliableIngress S E sideId.toInt32 frame pkt bytes = p at hin ⊢
            obtain ⟨ok, o₄⟩ := p
            cases ok with
            | false => exact hin.more _
            | true => exact hin.after (relayEnqueue_takesOn o₄ ⟨pkt, some sideId.toInt32, [], bytes⟩)

/-! ## The other calls -/

variable {S Z E}

theorem enforceNext_takesOn (h : o.enforceNext = some o') : TakesOn ty exit [] o o' := by
  unfold enforceNext at h
  split at h
  · split at h
    · obtain ⟨⟨item, queue⟩, hpop, rfl⟩ := Option.map_eq_some_iff.mp h
      refine ⟨List.Sublist.refl _, fun _ => ?_, fun hapart => ⟨hapart.released, hapart.buffered⟩⟩
      unfold rxWaits
      rw [List.append_nil, items_of_pop hpop]
      exact (List.sublist_cons_self item queue.items).filterMap _
    · obtain ⟨⟨item, queue⟩, hpop, rfl⟩ := Option.map_eq_some_iff.mp h
      refine .of_tx ?_ rfl rfl rfl
      unfold txWaits
      rw [items_of_pop hpop]
      exact (List.sublist_cons_self item queue.items).filterMap _
  · cases h

theorem enforceSharedQueueBudget_takesOn (o : Owner) : TakesOn ty exit [] o o.enforceSharedQueueBudget := by
  have hloop : ∀ (rounds : Nat) (o : Owner), TakesOn ty exit [] o (enforceRounds rounds o) := by
    intro rounds
    induction rounds with
    | zero => exact fun o => .refl o
    | succ rounds ih =>
      intro o
      unfold enforceRounds
      cases hnext : o.enforceNext with
      | none => exact .refl o
      | some o' => exact (enforceNext_takesOn hnext).loses (ih o')
  exact hloop _ o

theorem rxPacketFromSide_takesOn (o : Owner) (sideId : UInt32) (view : SedsPacketView) :
    TakesOn ty exit ((packetFromView S view).bind fun pkt => passenger ty exit pkt (some sideId.toInt32)).toList o
      (o.rxPacketFromSide S sideId view).2 := by
  unfold rxPacketFromSide
  cases packetFromView S view with
  | none => exact .refl o
  | some pkt =>
    dsimp only
    split
    · exact (TakesOn.refl o).more _
    · unfold submitRx
      have hone : TakesOn ty exit (passenger ty exit pkt (some sideId.toInt32)).toList o (o.enqueueRx ⟨pkt, some sideId.toInt32, [], []⟩).2 :=
        enqueueRx_takesOn o ⟨pkt, some sideId.toInt32, [], []⟩
      generalize o.enqueueRx ⟨pkt, some sideId.toInt32, [], []⟩ = p at hone ⊢
      obtain ⟨ok, o₁⟩ := p
      cases ok with
      | false => exact hone
      | true => exact hone.loses (enforceSharedQueueBudget_takesOn o₁)

/-! ### Announcements -/

theorem nowMs_takesOn (o : Owner) : TakesOn ty exit [] o (o.nowMs E).2 := .of_tx (List.Sublist.refl _) rfl rfl rfl

theorem announceSide_takesOn (hown : ty ∉ S.ownTraffic) (L : LocalBoard) (now : UInt64) (o : Owner) (sideId : Int32) :
    TakesOn ty exit [] o (announceSide S E L now o sideId).2 := by
  have hqueued : ∀ (o : Owner) (pkt : PacketData), pkt.ty ∈ S.ownTraffic → TakesOn ty exit [] o (o.queueFor sideId pkt) :=
    fun o pkt hpkt => enqueueTxAt_takesOn true o ⟨pkt, none, some sideId, false⟩ (ne_of_mem_of_not_mem hpkt hown)
  unfold announceSide
  dsimp only
  have hread : TakesOn ty exit [] o (o.nowMs E).2 := nowMs_takesOn o
  generalize o.nowMs E = p at hread ⊢
  obtain ⟨t₁, o₁⟩ := p
  dsimp only at hread ⊢
  split
  · exact hread
  · have hread₂ := hread.loses (nowMs_takesOn (E := E) o₁)
    generalize o₁.nowMs E = p at hread₂ ⊢
    obtain ⟨t₂, o₂⟩ := p
    dsimp only at hread₂ ⊢
    have htopology := hread₂.loses (hqueued o₂ ⟨SEDS_DT_DISCOVERY_TOPOLOGY, L.sender, [SEDS_EP_DISCOVERY], now,
      encodeDiscoveryTopology (o₁.advertisedTopology S L sideId t₁)⟩ (by simp [Schema.ownTraffic]))
    generalize o₂.queueFor sideId ⟨SEDS_DT_DISCOVERY_TOPOLOGY, L.sender, [SEDS_EP_DISCOVERY], now,
      encodeDiscoveryTopology (o₁.advertisedTopology S L sideId t₁)⟩ = o₃ at htopology ⊢
    refine TakesOn.loses ?_ (hqueued _ _ (by simp [Schema.ownTraffic, discoveryPacket]))
    refine TakesOn.loses ?_ (nowMs_takesOn (E := E) _)
    split
    · exact htopology
    · exact htopology.loses (hqueued o₃ _ (by simp [Schema.ownTraffic, discoveryPacket]))

theorem announceSides_takesOn (hown : ty ∉ S.ownTraffic) (L : LocalBoard) (now : UInt64) (sides : List (Side × Nat)) (o : Owner) :
    TakesOn ty exit [] o (announceSides S E L now sides o).2 := by
  induction sides generalizing o with
  | nil => exact .refl o
  | cons side rest ih =>
    obtain ⟨side, i⟩ := side
    unfold announceSides
    split
    · exact ih o
    · have hone : TakesOn ty exit [] o (announceSide S E L now o (Int32.ofNat i)).2 := announceSide_takesOn hown L now o (Int32.ofNat i)
      generalize announceSide S E L now o (Int32.ofNat i) = p at hone ⊢
      obtain ⟨ok, o₁⟩ := p
      cases ok with
      | false => exact hone
      | true => exact hone.loses (ih o₁)

theorem queueDiscoveryPackets_takesOn (hown : ty ∉ S.ownTraffic) (L : LocalBoard) (o : Owner) :
    TakesOn ty exit [] o (queueDiscoveryPackets S E L o).2 := by
  unfold queueDiscoveryPackets
  dsimp only
  generalize hstart : (if (pruneDiscoveryRoutes (o.nowMs E).2.discoveryRoutes (o.nowMs E).1).1 = true then
      ({ (o.nowMs E).2 with discoveryRoutes :=
        (pruneDiscoveryRoutes (o.nowMs E).2.discoveryRoutes (o.nowMs E).1).2 } : Owner).noteDiscoveryTopologyChange (o.nowMs E).1
    else { (o.nowMs E).2 with discoveryRoutes := (pruneDiscoveryRoutes (o.nowMs E).2.discoveryRoutes (o.nowMs E).1).2 }) = o₁
  have hpruned : TakesOn ty exit [] o o₁ := by
    rw [← hstart]
    split
    · exact .of_tx (List.Sublist.refl _) rfl rfl rfl
    · exact .of_tx (List.Sublist.refl _) rfl rfl rfl
  have hall := hpruned.loses (announceSides_takesOn (E := E) hown L (o.nowMs E).1 o₁.sides.zipIdx o₁)
  generalize announceSides S E L (o.nowMs E).1 o₁.sides.zipIdx o₁ = p at hall ⊢
  obtain ⟨ok, o₂⟩ := p
  cases ok with
  | false => exact hall
  | true => exact hall.loses (.of_tx (List.Sublist.refl _) rfl rfl rfl)

theorem pollDiscovery_takesOn (hown : ty ∉ S.ownTraffic) (L : LocalBoard) (o : Owner) :
    TakesOn ty exit [] o (pollDiscovery S E L o).2 := by
  unfold pollDiscovery
  dsimp only
  split
  · exact (nowMs_takesOn (E := E) o).loses (queueDiscoveryPackets_takesOn hown L _)
  · exact nowMs_takesOn (E := E) o

/-! ### Configuration -/

theorem eraseTxItemsForSide_takesOn (o : Owner) (sideId : Int32) : TakesOn ty exit [] o (o.eraseTxItemsForSide sideId) := by
  refine .of_tx ?_ rfl rfl rfl
  have hitems : (o.eraseTxItemsForSide sideId).txQueue.items = o.txQueue.items.filter (fun x => !x.mentions sideId) := eraseLoop_items
  unfold txWaits
  rw [hitems]
  exact List.filter_sublist.filterMap _

theorem eraseRxItemsForSide_takesOn (o : Owner) (sideId : Int32) : TakesOn ty exit [] o (o.eraseRxItemsForSide sideId) := by
  refine ⟨List.Sublist.refl _, fun _ => ?_, fun hapart => ⟨hapart.released, hapart.buffered⟩⟩
  have hitems : (o.eraseRxItemsForSide sideId).rxQueue.items = o.rxQueue.items.filter (fun x => !(x.srcSide == some sideId)) :=
    eraseLoop_items
  unfold rxWaits
  rw [List.append_nil, hitems]
  exact List.filter_sublist.filterMap _

theorem forgetSide_takesOn (o : Owner) (sideId : Int32) : TakesOn ty exit [] o (o.forgetSide sideId) := by
  refine ⟨List.Sublist.refl _, fun _ => ?_, fun hapart => ⟨hapart.released, fun key rx seq bf hrx hbf => ?_⟩⟩
  · rw [List.append_nil]
    exact List.Sublist.refl _
  · exact hapart.buffered key rx seq bf (lookup_of_keepIf hrx) hbf

theorem noteSideChange_takesOn (o : Owner) : TakesOn ty exit [] o (o.noteSideChange E) := .of_tx (List.Sublist.refl _) rfl rfl rfl

theorem removeSide_takesOn (o : Owner) (sideId : Int32) : TakesOn ty exit [] o (o.removeSide E sideId) := by
  have hclosed : TakesOn ty exit [] o ((o.nowMs E).2.modifySide sideId
      fun side => { side with ingressEnabled := false, egressEnabled := false }) := .of_tx (List.Sublist.refl _) rfl rfl rfl
  have herased := (hclosed.loses (eraseTxItemsForSide_takesOn _ sideId)).loses (eraseRxItemsForSide_takesOn _ sideId)
  exact (herased.loses (forgetSide_takesOn _ sideId)).loses (.of_tx (List.Sublist.refl _) rfl rfl rfl)

theorem setSideEgressEnabled_takesOn (o : Owner) (sideId : Int32) (enabled : Bool) :
    TakesOn ty exit [] o (o.setSideEgressEnabled E sideId enabled) := by
  have hwritten : TakesOn ty exit [] o (o.modifySide sideId ({ · with egressEnabled := enabled })) := .of_tx (List.Sublist.refl _) rfl rfl rfl
  unfold setSideEgressEnabled
  dsimp only
  split
  · exact hwritten.loses (noteSideChange_takesOn _)
  · exact (hwritten.loses (eraseTxItemsForSide_takesOn _ sideId)).loses (noteSideChange_takesOn _)

theorem onSide_takesOn (o : Owner) (sideId : Int32) {f : Owner → Owner} (hf : TakesOn ty exit [] o (f o)) :
    TakesOn ty exit [] o (o.onSide sideId f).2 := by
  unfold onSide
  cases o.sideAt sideId with
  | none => exact .refl o
  | some side => exact hf

theorem configure_takesOn (o : Owner) (setting : Setting) : TakesOn ty exit [] o (o.configure S E setting).2 := by
  have hpolicy : ∀ (src : Int32) (f : RoutePolicy → RoutePolicy), TakesOn ty exit [] o (o.modifyPolicy src f) := by
    intro src f
    unfold modifyPolicy
    split
    · exact .of_tx (List.Sublist.refl _) rfl rfl rfl
    · exact .of_tx (List.Sublist.refl _) rfl rfl rfl
  cases setting with
  | addSideSerialized name reliableEnabled => exact .of_tx (List.Sublist.refl _) rfl rfl rfl
  | addSidePacket name reliableEnabled => exact .of_tx (List.Sublist.refl _) rfl rfl rfl
  | removeSide sideId => exact onSide_takesOn o sideId (removeSide_takesOn o sideId)
  | setSideIngressEnabled sideId enabled => exact onSide_takesOn o sideId (.of_tx (List.Sublist.refl _) rfl rfl rfl)
  | setSideEgressEnabled sideId enabled => exact onSide_takesOn o sideId (setSideEgressEnabled_takesOn o sideId enabled)
  | setSideLinkLocalEnabled sideId enabled => exact onSide_takesOn o sideId (.of_tx (List.Sublist.refl _) rfl rfl rfl)
  | setRoute src dst enabled => exact .of_tx (List.Sublist.refl _) rfl rfl rfl
  | clearRoute src dst => exact .of_tx (List.Sublist.refl _) rfl rfl rfl
  | setTypedRoute src streamTy dst enabled =>
    dsimp only [configure]
    split
    · exact .refl o
    · exact .of_tx (List.Sublist.refl _) rfl rfl rfl
  | clearTypedRoute src streamTy dst => exact .of_tx (List.Sublist.refl _) rfl rfl rfl
  | setSourceRouteMode src mode =>
    dsimp only [configure]
    apply hpolicy
  | setRouteWeight src dst weight =>
    dsimp only [configure]
    apply hpolicy
  | clearRouteWeight src dst =>
    dsimp only [configure]
    apply hpolicy
  | setRoutePriority src dst priority =>
    dsimp only [configure]
    apply hpolicy
  | clearRoutePriority src dst =>
    dsimp only [configure]
    apply hpolicy
  | clearTxQueue => exact .of_tx (List.nil_sublist _) rfl rfl rfl
  | clearRxQueue => exact ⟨List.Sublist.refl _, fun _ => List.nil_sublist _, fun hapart => ⟨hapart.released, hapart.buffered⟩⟩
  | setRuntimeTuningConfig tuning =>
    dsimp only [configure]
    split
    · exact .of_tx (List.Sublist.refl _) rfl rfl rfl
    · exact .refl o

/-! ### Timeouts -/

theorem doReliableTimeouts_takesOn (o : Owner) : TakesOn ty exit [] o (o.doReliableTimeouts E) :=
  .of_emits (doReliableTimeouts_emits (P := fun _ => True) (Q := fun _ => True) E o fun _ _ _ => trivial) (doReliableTimeouts_txQueue E o)

/-! ### Receipt -/

theorem noteReturnRoutes_txQueue (o : Owner) (pkt : PacketData) (srcSide : Option Int32) (id : UInt64) :
    (o.noteReturnRoutes S pkt srcSide id).txQueue = o.txQueue := by
  unfold noteReturnRoutes
  cases srcSide with
  | none => rfl
  | some sideId =>
    dsimp only
    split
    · split
      · rfl
      · rfl
    · rfl

theorem handleDiscoveryPacket_txQueue (o : Owner) (self : Option Bytes) (pkt : PacketData) (srcSide : Option Int32) :
    (o.handleDiscoveryPacket S E self pkt srcSide).txQueue = o.txQueue := by
  have hnoted : ∀ (o : Owner) (changed : Bool), (o.noteIfChanged E changed).txQueue = o.txQueue := by
    intro o changed
    cases changed <;> rfl
  unfold handleDiscoveryPacket
  cases srcSide with
  | none => rfl
  | some sideId =>
    dsimp only
    split
    · rfl
    · split
      · exact hnoted _ _
      · exact hnoted _ _

end

end Owner

namespace Relay

open Owner

variable {S : Schema} {Z : Codec} {E : Env} {ty : UInt32} {exit : Int32}

theorem forwardEndToEndAck_txWaits (r : Relay) {pkt : PacketData} (hpkt : pkt.ty ≠ ty) (srcSide : Option Int32) :
    ((r.forwardEndToEndAck pkt srcSide).txWaits ty exit).Sublist (r.txWaits ty exit) := by
  have hqueued : ∀ sideId : Int32, ((r.toOwner.enqueueTx ⟨pkt, srcSide, some sideId, false⟩).txWaits ty exit).Sublist (r.txWaits ty exit) :=
    fun sideId => (enqueueTxAt_takesOn false r.toOwner ⟨pkt, srcSide, some sideId, false⟩ hpkt).tx
  unfold forwardEndToEndAck
  dsimp only
  cases decodeEndToEndAckSenderHash pkt.sender with
  | none =>
    split
    · exact hqueued _
    · exact List.Sublist.refl _
  | some hash =>
    split
    · exact hqueued _
    · exact List.Sublist.refl _

/-- What is received goes to the back of the transmit queue, if it is a passenger. -/
theorem relayReceiveImpl_txWaits (exit : Int32) (hown : ty ∉ S.ownTraffic) (r : Relay) (pkt : PacketData) (srcSide : Option Int32) :
    ((relayReceiveImpl S E r pkt srcSide).txWaits ty exit).Sublist (r.txWaits ty exit ++ (passenger ty exit pkt srcSide).toList) := by
  have hnoted : ((r.toOwner.packetId S pkt).2.noteReturnRoutes S pkt srcSide (r.toOwner.packetId S pkt).1).txQueue = r.txQueue :=
    noteReturnRoutes_txQueue _ pkt srcSide _
  have hnotedWaits : ((r.toOwner.packetId S pkt).2.noteReturnRoutes S pkt srcSide (r.toOwner.packetId S pkt).1).txWaits ty exit =
      r.txWaits ty exit := by
    unfold txWaits
    rw [hnoted]
  unfold relayReceiveImpl
  dsimp only
  generalize (r.toOwner.packetId S pkt).2.noteReturnRoutes S pkt srcSide (r.toOwner.packetId S pkt).1 = o at hnotedWaits ⊢
  rw [← hnotedWaits]
  split
  · refine List.Sublist.trans ?_ (List.sublist_append_left _ _)
    split
    · rename_i hack
      have hother : pkt.ty ≠ ty := by
        rw [hack.1]
        exact ne_of_mem_of_not_mem (by simp [Schema.ownTraffic]) hown
      exact forwardEndToEndAck_txWaits { r with toOwner := o } hother srcSide
    · show ((o.handleReliableControl S E pkt srcSide).txWaits ty exit).Sublist _
      unfold txWaits
      rw [handleReliableControl_txQueue]
  · have hdiscovery : (if isDiscoveryControlType pkt.ty = true then o.handleDiscoveryPacket S E none pkt srcSide else o).txQueue =
        o.txQueue := by
      split
      · exact handleDiscoveryPacket_txQueue o none pkt srcSide
      · rfl
    have hqueued := enqueueTx_txWaits ty exit
      (if isDiscoveryControlType pkt.ty = true then o.handleDiscoveryPacket S E none pkt srcSide else o) ⟨pkt, srcSide, none, false⟩
    generalize (if isDiscoveryControlType pkt.ty = true then o.handleDiscoveryPacket S E none pkt srcSide else o) = o₁ at hdiscovery hqueued ⊢
    have hsame : o₁.txWaits ty exit = o.txWaits ty exit := by
      unfold txWaits
      rw [hdiscovery]
    rwa [hsame, TxItem.passenger_routed] at hqueued

/-- **Receipt**: the front packet changes queues. -/
theorem receiveNext_waits (exit : Int32) (hown : ty ∉ S.ownTraffic) (r : Relay) :
    ((r.receiveNext S E).inTransit ty exit).Sublist (r.inTransit ty exit) ∧ (r.Apart ty → (r.receiveNext S E).Apart ty) := by
  unfold receiveNext
  cases hpop : r.rxQueue.pop RxItem.byteCost with
  | none => exact ⟨List.Sublist.refl _, id⟩
  | some p =>
    obtain ⟨item, queue⟩ := p
    dsimp only
    have htx := relayReceiveImpl_txWaits (E := E) exit hown
      { r with toOwner := { r.toOwner with rxQueue := queue }.observe (.receive item) } item.pkt item.srcSide
    have hkeeps := relayReceiveImpl_keepsRx (S := S) (E := E)
      { r with toOwner := { r.toOwner with rxQueue := queue }.observe (.receive item) } item.pkt item.srcSide
    generalize relayReceiveImpl S E { r with toOwner := { r.toOwner with rxQueue := queue }.observe (.receive item) }
      item.pkt item.srcSide = r' at htx hkeeps ⊢
    refine ⟨?_, fun hapart => ⟨hkeeps.released ▸ hapart.released, hkeeps.streams ▸ hapart.buffered⟩⟩
    have hrx : r.rxWaits ty exit = (passenger ty exit item.pkt item.srcSide).toList ++ r'.rxWaits ty exit := by
      unfold rxWaits
      rw [hkeeps.queue, items_of_pop hpop, List.filterMap_cons]
      cases passenger ty exit item.pkt item.srcSide <;> rfl
    unfold inTransit
    rw [hrx, ← List.append_assoc]
    exact htx.append_right _

section

variable (S Z ty exit)

/-- The frame that comes in. -/
def Act.frame : Act → Option Bytes
  | .rxSerializedFromSide _ bytes => some bytes
  | _ => none

/-- The packet that comes in, if it is a passenger. -/
def Act.arrival : Act → Option PacketData
  | .rxSerializedFromSide sideId bytes => (deserializePacket S Z bytes).bind (passenger ty exit · (some sideId.toInt32))
  | .rxPacketFromSide sideId view => (packetFromView S view).bind (passenger ty exit · (some sideId.toInt32))
  | _ => none

end

/-- **Waiting**: between two transmissions, packets come in at the back. -/
theorem perform_waits (exit : Int32) (hty : S.isReliableType ty = false) (hown : ty ∉ S.ownTraffic) {r : Relay} (hapart : r.Apart ty) {act : Act}
    (hdom : ∀ bytes ∈ act.frame, isV4FrameFlags (bytes.getD 0 0) = true ∨ legacyInRange bytes)
    (hact : act ≠ .transmitNext) :
    ((perform S Z E r act).inTransit ty exit).Sublist (r.inTransit ty exit ++ (act.arrival S Z ty exit).toList) ∧ (perform S Z E r act).Apart ty := by
  have htakes : ∀ {new : List PacketData} {o' : Owner}, TakesOn ty exit new r.toOwner o' →
      (o'.inTransit ty exit).Sublist (r.inTransit ty exit ++ new) ∧ o'.Apart ty := fun h => ⟨h.inTransit hapart, h.apart hapart⟩
  cases act with
  | configure setting => exact htakes ((observe_takesOn r.toOwner .configures).loses (configure_takesOn (S := S) (E := E) _ setting))
  | announceDiscovery => exact htakes (queueDiscoveryPackets_takesOn (E := E) hown .relay r.toOwner)
  | pollDiscovery => exact htakes (pollDiscovery_takesOn (E := E) hown .relay r.toOwner)
  | rxSerializedFromSide sideId bytes =>
    exact htakes (relayRxSerializedFromSide_takesOn S Z E hty hown r.toOwner sideId (hdom bytes rfl))
  | rxPacketFromSide sideId view => exact htakes (rxPacketFromSide_takesOn r.toOwner sideId view)
  | reliableTimeouts => exact htakes (doReliableTimeouts_takesOn (E := E) r.toOwner)
  | receiveNext =>
    obtain ⟨hwaits, hkept⟩ := receiveNext_waits (E := E) exit hown r
    exact ⟨hwaits.trans (List.sublist_append_left _ _), hkept hapart⟩
  | transmitNext => exact absurd rfl hact
  | sideTx active =>
    have hnoted : TakesOn ty exit [] r.toOwner { r.toOwner with sideTxActive := active } := .of_tx (List.Sublist.refl _) rfl rfl rfl
    exact htakes hnoted

end Relay

/-! ## What goes out -/

section

variable (S : Schema) (Z : Codec) (ty : UInt32) (exit : Int32)

/-- The packet of the type that is handed to the side: the frame is read as the node behind it will. -/
def Obs.outgoing : Obs → Option PacketData
  | .transmit sideId bytes => if sideId = exit then (deserializePacket S Z bytes).filter (·.ty == ty) else none
  | .packetTx sideId pkt => if sideId = exit ∧ pkt.ty = ty then some pkt else none
  | _ => none

/-- All of them, in order. -/
def Owner.handedTo (o : Owner) : List PacketData := o.obs.filterMap (Obs.outgoing S Z ty exit)

/-- No frame of the type gets a number. -/
def Obs.NumbersOthers (e : Obs) : Prop :=
  ∀ sideId streamTy seq bytes, e = .number sideId streamTy seq bytes → ∀ q ∈ deserializePacket S Z bytes, q.ty ≠ ty

/-- Nothing of the type is handed to the side, and no frame of it gets a number. -/
structure Obs.Quiet (e : Obs) : Prop where
  handed : e.outgoing S Z ty exit = none
  numbers : e.NumbersOthers S Z ty

end

section

variable {S : Schema} {Z : Codec} {ty : UInt32} {exit : Int32}

theorem Obs.NumbersOthers.of_silent {e : Obs} (h : e.silent = true) : e.NumbersOthers S Z ty := by
  intro sideId streamTy seq bytes heq
  rw [heq] at h
  cases h

theorem Obs.Quiet.of_silent {e : Obs} (h : e.silent = true) : e.Quiet S Z ty exit := by
  refine ⟨?_, .of_silent h⟩
  cases e with
  | transmit => cases h
  | packetTx => cases h
  | _ => rfl

/-- A frame that is not read as a packet of the type. -/
theorem Obs.Quiet.transmit (sideId : Int32) {bytes : Bytes} (h : ∀ q ∈ deserializePacket S Z bytes, q.ty ≠ ty) :
    Obs.Quiet S Z ty exit (.transmit sideId bytes) := by
  refine ⟨?_, fun _ _ _ _ heq => nomatch heq⟩
  show (if sideId = exit then (deserializePacket S Z bytes).filter (·.ty == ty) else none) = none
  split
  · exact Option.filter_eq_none_iff.mpr fun q hq heq => h q hq (beq_iff_eq.mp heq)
  · rfl

theorem Obs.Quiet.packetTx {sideId : Int32} {pkt : PacketData} (h : sideId = exit → pkt.ty ≠ ty) :
    Obs.Quiet S Z ty exit (.packetTx sideId pkt) :=
  ⟨if_neg fun hboth => h hboth.1 hboth.2, fun _ _ _ _ heq => nomatch heq⟩

/-- A frame for another side. -/
theorem Obs.Quiet.elsewhere {sideId : Int32} (h : sideId ≠ exit) (bytes : Bytes) : Obs.Quiet S Z ty exit (.transmit sideId bytes) :=
  ⟨if_neg h, fun _ _ _ _ heq => nomatch heq⟩

/-- What is read from the frame of a genuine packet as a packet of the type is a copy of that packet. -/
theorem Genuine.copied (hZ : Z.Lossless) (hreturns : S.OwnReturns) (hown : ty ∉ S.ownTraffic) {known : List PacketData} {pkt q : PacketData}
    {bytes : Bytes} (h : Genuine S known pkt) (hframes : Frames S Z bytes pkt) (hread : deserializePacket S Z bytes = some q)
    (hq : q.ty = ty) : pkt.ty = ty ∧ CopyOf pkt q := by
  rcases h with hcontrol | ⟨p, -, hsettled, hcopy⟩
  · have hgenuine : GenuineFrame S Z [] bytes := ⟨pkt, .inl hcontrol, hframes⟩
    rcases hgenuine.read hZ hreturns hread with hcontrol' | ⟨p, hp, -⟩
    · exact absurd (hq ▸ hcontrol') hown
    · cases hp
  · have hgenuine : GenuineFrame S Z [pkt] bytes :=
      ⟨pkt, .inr ⟨pkt, List.mem_singleton_self pkt, hsettled.copy hcopy, .refl pkt⟩, hframes⟩
    rcases hgenuine.read hZ hreturns hread with hcontrol | ⟨p', hp', -, hcopied⟩
    · exact absurd (hq ▸ hcontrol) hown
    · rw [List.mem_singleton.mp hp'] at hcopied
      exact ⟨hcopied.ty.symm.trans hq, hcopied⟩

end

namespace Owner

variable {S : Schema} {Z : Codec} {E : Env} {ty : UInt32} {exit : Int32} {known : List PacketData}

theorem handed_of_quiet {o o' : Owner} (h : ∃ l, o'.obs = o.obs ++ l ∧ ∀ e ∈ l, e.Quiet S Z ty exit) :
    o'.handedTo S Z ty exit = o.handedTo S Z ty exit := by
  obtain ⟨l, hobs, hl⟩ := h
  unfold handedTo
  rw [hobs, List.filterMap_append, List.filterMap_eq_nil_iff.mpr fun e he => (hl e he).handed, List.append_nil]

/-- An item that is no passenger, or a side that is another one. -/
theorem quiet_carries (hZ : Z.Lossless) (hreturns : S.OwnReturns) (hown : ty ∉ S.ownTraffic) (hty : S.isReliableType ty = false)
    {item : TxItem} (h : Genuine S known item.pkt) {sideId : Int32} (hother : sideId = exit → item.pkt.ty ≠ ty) :
    Carries (Obs.Quiet S Z ty exit) S Z sideId item := by
  have hread : item.pkt.ty ≠ ty → ∀ bytes, Frames S Z bytes item.pkt → ∀ q ∈ SedsNet.deserializePacket S Z bytes, q.ty ≠ ty :=
    fun hne bytes hframes q hq heq => hne (h.copied hZ hreturns hown hframes hq heq).1
  refine ⟨⟨rfl, fun _ _ _ _ heq => nomatch heq⟩, ?_, ?_, .packetTx hother⟩
  · intro bytes hframes
    by_cases hside : sideId = exit
    · exact .transmit sideId (hread (hother hside) bytes hframes)
    · exact .elsewhere hside bytes
  · intro hreliable seq bytes hframes
    refine ⟨rfl, ?_⟩
    intro _ _ _ _ heq
    cases heq
    refine hread (fun hsame => ?_) bytes hframes
    rw [hsame, hty] at hreliable
    cases hreliable

theorem observe_handed (o : Owner) (e : Obs) : (o.observe e).handedTo S Z ty exit = o.handedTo S Z ty exit ++ (e.outgoing S Z ty exit).toList := by
  unfold handedTo observe
  rw [List.filterMap_append, List.filterMap_cons, List.filterMap_nil]
  cases e.outgoing S Z ty exit <;> rfl

/-- A frame goes to the callback, or its transmission is deferred. -/
theorem callSerializedTx_handed (S : Schema) (Z : Codec) (E : Env) (ty : UInt32) (exit : Int32) (o : Owner) (sideId : Int32)
    (bytes : Bytes) :
    ∃ new : Option PacketData, (o.callSerializedTx E sideId bytes).2.handedTo S Z ty exit = o.handedTo S Z ty exit ++ new.toList ∧
      ∀ q ∈ new, q ∈ SedsNet.deserializePacket S Z bytes ∧ q.ty = ty := by
  unfold callSerializedTx
  split
  · exact ⟨none, (List.append_nil _).symm, fun _ hq => nomatch hq⟩
  · refine ⟨(Obs.transmit sideId bytes).outgoing S Z ty exit, observe_handed o _, ?_⟩
    intro q hq
    have hq : q ∈ (if sideId = exit then (SedsNet.deserializePacket S Z bytes).filter (·.ty == ty) else none) := hq
    split at hq
    · obtain ⟨hread, hsame⟩ := Option.filter_eq_some_iff.mp hq
      exact ⟨hread, beq_iff_eq.mp hsame⟩
    · cases hq

/-- **One side**: a passenger goes out on it once at most. -/
theorem sendToSide_handed (exit : Int32) (hZ : Z.Lossless) (hreturns : S.OwnReturns) (hown : ty ∉ S.ownTraffic) (hty : S.isReliableType ty = false)
    (o : Owner) {item : TxItem} (h : Genuine S known item.pkt) (hitem : item.pkt.ty = ty) (sideId : Int32) (side : Side) :
    ∃ new : Option PacketData, (o.sendToSide S Z E sideId side item).2.handedTo S Z ty exit = o.handedTo S Z ty exit ++ new.toList ∧
      ∀ q ∈ new, CopyOf item.pkt q := by
  have hnoted : (o.observe (.sends sideId item)).handedTo S Z ty exit = o.handedTo S Z ty exit := by
    rw [observe_handed]
    exact List.append_nil _
  have hnothing : ∃ new : Option PacketData, (o.observe (.sends sideId item)).handedTo S Z ty exit = o.handedTo S Z ty exit ++ new.toList ∧
      ∀ q ∈ new, CopyOf item.pkt q := ⟨none, hnoted.trans (List.append_nil _).symm, fun _ hq => nomatch hq⟩
  unfold sendToSide
  dsimp only
  split
  · unfold sendSerializedWithReliable
    split
    · exact hnothing
    · split
      · exact hnothing
      · rw [if_pos (by rw [hitem, hty, Bool.not_false, Bool.or_true])]
        obtain ⟨new, hhanded, hnew⟩ := callSerializedTx_handed S Z E ty exit
          (o.observe (.sends sideId item)) sideId (serializePacket S Z item.pkt)
        refine ⟨new, by rw [hhanded, hnoted], fun q hq => ?_⟩
        obtain ⟨hread, hsame⟩ := hnew q hq
        exact (h.copied hZ hreturns hown (.inl rfl) hread hsame).2
  · split
    · refine ⟨(Obs.packetTx sideId item.pkt).outgoing S Z ty exit, ?_, ?_⟩
      · exact (observe_handed _ _).trans (by rw [hnoted])
      · intro q hq
        have hq : q ∈ (if sideId = exit ∧ item.pkt.ty = ty then some item.pkt else none) := hq
        split at hq
        · cases hq
          exact .refl _
        · cases hq
    · exact hnothing

/-- **All sides**: a passenger is handed to `exit` once at most, and what is no passenger is not. -/
theorem relayTransmitTo_handed (exit : Int32) (hZ : Z.Lossless) (hreturns : S.OwnReturns) (hown : ty ∉ S.ownTraffic) (hty : S.isReliableType ty = false)
    {item : TxItem} (h : Genuine S known item.pkt) {sides : List Int32} (hnodup : sides.Nodup) (o : Owner) :
    ∃ new : Option PacketData, (relayTransmitTo S Z E item sides o).2.handedTo S Z ty exit = o.handedTo S Z ty exit ++ new.toList ∧
      ∀ q ∈ new, exit ∈ sides ∧ item.pkt.ty = ty ∧ CopyOf item.pkt q := by
  induction sides generalizing o with
  | nil => exact ⟨none, (List.append_nil _).symm, fun _ hq => nomatch hq⟩
  | cons sideId rest ih =>
    obtain ⟨hfirst, hrest⟩ := List.nodup_cons.mp hnodup
    have hlater : ∀ o' : Owner, o'.handedTo S Z ty exit = o.handedTo S Z ty exit →
        ∃ new : Option PacketData, (relayTransmitTo S Z E item rest o').2.handedTo S Z ty exit = o.handedTo S Z ty exit ++ new.toList ∧
          ∀ q ∈ new, exit ∈ sideId :: rest ∧ item.pkt.ty = ty ∧ CopyOf item.pkt q := by
      intro o' hsame
      obtain ⟨new, hhanded, hnew⟩ := ih hrest o'
      exact ⟨new, hsame ▸ hhanded, fun q hq => ⟨List.mem_cons_of_mem sideId (hnew q hq).1, (hnew q hq).2⟩⟩
    unfold relayTransmitTo
    cases o.egressSide sideId with
    | none => exact hlater o rfl
    | some side =>
      by_cases hgoes : sideId = exit ∧ item.pkt.ty = ty
      · -- the side is not among the rest, so that nothing more is handed to it
        obtain ⟨rfl, hitem⟩ := hgoes
        obtain ⟨new, hhanded, hnew⟩ := sendToSide_handed (E := E) sideId hZ hreturns hown hty o h hitem sideId side
        dsimp only
        generalize o.sendToSide S Z E sideId side item = p at hhanded ⊢
        obtain ⟨rc, o₁⟩ := p
        refine ⟨new, ?_, fun q hq => ⟨List.mem_cons_self, hitem, hnew q hq⟩⟩
        dsimp only at hhanded ⊢
        split
        · obtain ⟨more, hmore, hnone⟩ := ih hrest o₁
          cases more with
          | none => rw [hmore, hhanded, Option.toList_none, List.append_nil]
          | some q => exact absurd (hnone q rfl).1 hfirst
        · split
          · exact hhanded
          · exact hhanded
      · have hother : sideId = exit → item.pkt.ty ≠ ty := fun hside hitem => hgoes ⟨hside, hitem⟩
        have hsame := handed_of_quiet (sendToSide_emits (P := fun _ => True) S Z E o
          (quiet_carries hZ hreturns hown hty h hother) side).trace
        have hdone : ∃ new : Option PacketData, o.handedTo S Z ty exit = o.handedTo S Z ty exit ++ new.toList ∧
            ∀ q ∈ new, exit ∈ sideId :: rest ∧ item.pkt.ty = ty ∧ CopyOf item.pkt q :=
          ⟨none, (List.append_nil _).symm, fun _ hq => nomatch hq⟩
        dsimp only
        generalize o.sendToSide S Z E sideId side item = p at hsame ⊢
        obtain ⟨rc, o₁⟩ := p
        dsimp only at hsame ⊢
        split
        · exact hlater o₁ hsame
        · rw [← hsame] at hdone
          split
          · exact hsame ▸ hdone
          · exact hsame ▸ hdone

end Owner

namespace RoutePolicy

/-- A policy chooses no side twice. -/
theorem apply_nodup (policy : RoutePolicy) {sides : List Int32} (h : sides.Nodup) : (policy.apply sides).1.Nodup := by
  unfold apply
  cases sides with
  | nil => exact h
  | cons first rest =>
    dsimp only
    split
    · exact h
    · exact List.nodup_singleton _
    · split
      · exact List.nodup_singleton _
      · exact List.nodup_singleton _

end RoutePolicy

namespace Owner

variable {S : Schema} {E : Env}

/-- The targets of an item are distinct. -/
theorem targets_nodup (o : Owner) (item : TxItem) (preferred : Option Bytes) : (o.targets S E item preferred).1.Nodup := by
  unfold targets selectDestinations
  dsimp only
  cases item.dstSide with
  | some dst => exact List.nodup_singleton dst
  | none =>
    have hsorted : ∀ sides : List Int32, (sortDedup sides).Nodup := fun sides => (sortDedup_ascending sides).nodup
    refine RoutePolicy.apply_nodup _ (List.Nodup.filter _ ?_)
    unfold defaultCandidates
    cases preferred with
    | none => exact hsorted _
    | some source =>
      dsimp only
      split
      · exact hsorted _
      · exact hsorted _

end Owner

namespace Relay

open Owner

variable {S : Schema} {Z : Codec} {E : Env} {ty : UInt32} {exit : Int32} {known : List PacketData}

/-- **One transmission**: the front packet goes out on the side, or does not. -/
theorem transmitItem_handed (exit : Int32) (hZ : Z.Lossless) (hreturns : S.OwnReturns) (hown : ty ∉ S.ownTraffic) (hty : S.isReliableType ty = false)
    (r : Relay) {item : TxItem} (h : Genuine S known item.pkt) :
    ∃ new : Option PacketData, (transmitItem S Z E r item).2.handedTo S Z ty exit = r.handedTo S Z ty exit ++ new.toList ∧
      ∀ q ∈ new, ∃ p ∈ item.passenger ty exit, CopyOf p q := by
  unfold transmitItem
  have hchosen := handed_of_quiet (targets_emits (P := fun _ => True) (Q := Obs.Quiet S Z ty exit) S E r.toOwner item none).trace
  have hnodup := targets_nodup (S := S) (E := E) r.toOwner item none
  have hgoes : ∀ sideId, sideId ∈ (r.toOwner.targets S E item none).1 → r.toOwner.goesTo S item sideId = true :=
    fun sideId hsideId => goesTo_of_mem_targets hsideId
  generalize r.toOwner.targets S E item none = p at hchosen hnodup hgoes ⊢
  obtain ⟨sides, o⟩ := p
  dsimp only at hchosen hnodup hgoes ⊢
  have hhash : (Obs.hash (item.pkt.endpoints.map fun ep => S.kEndpointNames[ep.toNat]?)).Quiet S Z ty exit := .of_silent rfl
  obtain ⟨hemits, hsub⟩ := filterEndToEndSatisfiedSides_spec (P := fun _ => True) (Q := Obs.Quiet S Z ty exit) S
    (r := { r with toOwner := o }) hhash sides
  have hfiltered : (filterEndToEndSatisfiedSides S { r with toOwner := o } item.pkt sides).1.Nodup := by
    unfold filterEndToEndSatisfiedSides
    split
    · exact hnodup
    · dsimp only
      split
      · exact hnodup
      · exact hnodup.filter _
  have hsame := (handed_of_quiet hemits.trace).trans hchosen
  generalize filterEndToEndSatisfiedSides S { r with toOwner := o } item.pkt sides = p at hsub hfiltered hsame ⊢
  obtain ⟨sides', r₁⟩ := p
  dsimp only at hsub hfiltered hsame ⊢
  obtain ⟨new, hhanded, hnew⟩ := relayTransmitTo_handed (E := E) exit hZ hreturns hown hty h hfiltered r₁.toOwner
  refine ⟨new, by rw [← hsame]; exact hhanded, fun q hq => ?_⟩
  obtain ⟨hmem, hitem, hcopy⟩ := hnew q hq
  refine ⟨item.pkt, ?_, hcopy⟩
  have hmay := hgoes exit (hsub exit hmem)
  unfold goesTo at hmay
  unfold TxItem.passenger
  refine if_pos ⟨hitem, ?_⟩
  cases hdst : item.dstSide with
  | some dst =>
    rw [hdst] at hmay
    exact .inl (congrArg some (beq_iff_eq.mp hmay))
  | none =>
    rw [hdst] at hmay
    exact .inr ⟨rfl, bne_iff_ne.mp (Bool.and_eq_true_iff.mp hmay).1⟩

theorem transmits_true (S : Schema) (Z : Codec) (r : Relay) (item : TxItem) : Transmits (fun _ => True) S Z r item :=
  ⟨fun _ _ _ _ => ⟨trivial, fun _ _ => trivial, fun _ _ _ _ => trivial, trivial⟩, trivial⟩

/-- What a relay keeps while nothing calls back: it is sound, its streams are of other types, and no transmission is deferred. -/
structure Ready (S : Schema) (Z : Codec) (known : List PacketData) (ty : UInt32) (r : Relay) : Prop where
  sound : r.toOwner.Sound S Z known
  held : ∀ key seq bytes, r.Holds key seq bytes → ∀ q ∈ deserializePacket S Z bytes, q.ty ≠ ty
  apart : r.Apart ty
  idle : r.sideTxActive = false
  undeferred : r.sideTxDeferred = false

/-- **The drain of the transmit queue**: its front leaves, and goes out on the side once at most. -/
theorem transmitNext_letsGo (hZ : Z.Lossless) (hreturns : S.OwnReturns) (hown : ty ∉ S.ownTraffic) (hty : S.isReliableType ty = false)
    {r : Relay} (h : r.Ready S Z known ty) :
    ∃ new, (transmitNext S Z E r).2.handedTo S Z ty exit = r.handedTo S Z ty exit ++ new ∧
      LetsGo (fun q p => CopyOf p q) (r.inTransit ty exit) [] new ((transmitNext S Z E r).2.inTransit ty exit) := by
  unfold transmitNext
  cases hpop : r.txQueue.pop TxItem.byteCost with
  | none => exact ⟨[], (List.append_nil _).symm, .of_sublist (List.sublist_append_left _ _)⟩
  | some p =>
    obtain ⟨item, queue⟩ := p
    dsimp only
    have hitems := items_of_pop hpop
    have hgenuine := h.sound.tx item (by rw [hitems]; exact List.mem_cons_self)
    obtain ⟨new, hhanded, hnew⟩ := transmitItem_handed (E := E) exit hZ hreturns hown hty
      { r with toOwner := { r.toOwner with txQueue := queue } } hgenuine
    have hqueue := transmitItem_txQueue S Z E { r with toOwner := { r.toOwner with txQueue := queue } } item
    have hidle := transmitItem_idle S Z E (r := { r with toOwner := { r.toOwner with txQueue := queue } }) h.idle h.undeferred item
    have hrx := (transmitItem_emits (P := fun _ => True) (Q := fun _ => True) S Z E
      (transmits_true S Z { r with toOwner := { r.toOwner with txQueue := queue } } item)).queue
    generalize transmitItem S Z E { r with toOwner := { r.toOwner with txQueue := queue } } item = p at hhanded hqueue hidle hrx ⊢
    obtain ⟨rc, r₁⟩ := p
    dsimp only at hhanded hqueue hidle hrx ⊢
    rw [if_neg hidle]
    refine ⟨new.toList, hhanded, ?_⟩
    have hwaits : r.inTransit ty exit = (item.passenger ty exit).toList ++ r₁.inTransit ty exit := by
      unfold Owner.inTransit txWaits rxWaits
      rw [hqueue, hrx, hitems, List.filterMap_cons]
      cases item.passenger ty exit <;> rfl
    refine ⟨(item.passenger ty exit).toList, ?_, ?_⟩
    · cases new with
      | none => exact .nil
      | some q =>
        obtain ⟨p, hp, hcopy⟩ := hnew q rfl
        rw [hp]
        exact .cons hcopy .nil
    · rw [hwaits, List.append_nil]

/-- What no act but a transmission does: it hands nothing of the type to a side. -/
theorem perform_quiet (exit : Int32) {r : Relay} (h : r.Ready S Z known ty) {act : Act} (hact : act ≠ .transmitNext)
    (hcallback : ∀ active, act ≠ .sideTx active) :
    Owner.Performs (fun _ => True) (Obs.Quiet S Z ty exit) (fun _ => True) r.toOwner (perform S Z E r act).toOwner := by
  have hsilent : ∀ e : Obs, e.silent = true → e.Quiet S Z ty exit := fun e he => .of_silent he
  refine perform_performs S (Router.grants_of_silent hsilent) Z E (Sends.demands ?_) hcallback
  refine ⟨hsilent, fun _ => ⟨rfl, fun _ _ _ _ heq => nomatch heq⟩, fun _ _ => ⟨rfl, fun _ _ _ _ heq => nomatch heq⟩, fun _ _ => trivial, ?_, ?_,
    fun _ _ _ _ _ => trivial, fun heq => absurd heq hact⟩
  · intro _ key bytes hdue
    obtain ⟨-, tx, sent, seq, htx, hsent, hbytes, -⟩ := hdue
    exact .transmit _ (h.held key seq bytes ⟨tx, sent, htx, hsent, hbytes⟩)
  · intro _ item _ sideId bytes hrequests
    obtain ⟨-, -, -, -, -, -, hholds⟩ := hrequests
    exact .transmit sideId (h.held _ _ bytes hholds)

/-- What no act does: it gives no frame of the type a number. -/
theorem perform_numbersOthers (hZ : Z.Lossless) (hreturns : S.OwnReturns) (hown : ty ∉ S.ownTraffic) (hty : S.isReliableType ty = false)
    {r : Relay} (h : r.Ready S Z known ty) {act : Act} (hcallback : ∀ active, act ≠ .sideTx active) :
    Owner.Performs (fun _ => True) (Obs.NumbersOthers S Z ty) (fun _ => True) r.toOwner (perform S Z E r act).toOwner := by
  have hsilent : ∀ e : Obs, e.silent = true → e.NumbersOthers S Z ty := fun e he => .of_silent he
  have htransmit : ∀ sideId bytes, Obs.NumbersOthers S Z ty (.transmit sideId bytes) := fun _ _ _ _ _ _ heq => nomatch heq
  refine perform_performs S (Router.grants_of_silent hsilent) Z E (Sends.demands ?_) hcallback
  refine ⟨hsilent, (fun _ _ _ _ _ heq => nomatch heq), (fun _ _ _ _ _ _ heq => nomatch heq), fun _ _ => trivial,
    fun _ _ _ _ => htransmit _ _, fun _ _ _ _ _ _ => htransmit _ _, fun _ _ _ _ _ => trivial, ?_⟩
  intro _ item hitem sideId side _ _
  have hgenuine := h.sound.tx item (List.mem_of_mem_head? hitem)
  refine ⟨(fun _ _ _ _ heq => nomatch heq), fun _ _ => htransmit _ _, ?_, (fun _ _ _ _ heq => nomatch heq)⟩
  intro hreliable seq bytes hframes _ _ _ _ heq q hq hsame
  cases heq
  rw [(hgenuine.copied hZ hreturns hown hframes hq hsame).1, hty] at hreliable
  cases hreliable

/-- The packet that is read from what arrives. -/
def Act.read (S : Schema) (Z : Codec) (act : Act) : Option PacketData := act.parcel.bind (·.read S Z)

/-- What may happen: no callback calls back, what arrives is a frame on which the walk of the parser is well defined, and the
    packet that is read from it is settled. -/
structure Act.Ordinary (S : Schema) (Z : Codec) (act : Act) : Prop where
  callback : act ≠ .sideTx true
  frame : ∀ bytes ∈ act.frame, isV4FrameFlags (bytes.getD 0 0) = true ∨ legacyInRange bytes
  settled : ∀ pkt ∈ act.read S Z, Settled S pkt

/-- **One step** keeps a relay ready. -/
theorem perform_ready (hZ : Z.Lossless) (hreturns : S.OwnReturns) (hown : ty ∉ S.ownTraffic) (hty : S.isReliableType ty = false)
    (r : Relay) (act : Act) (h : r.Ready S Z known ty) (hact : act.Ordinary S Z ∧ ∀ pkt ∈ act.read S Z, pkt ∈ known) :
    (perform S Z E r act).Ready S Z known ty := by
  obtain ⟨hordinary, hknown⟩ := hact
  have hsound : (perform S Z E r act).toOwner.Sound S Z known := by
    refine perform_sound h.sound fun parcel hparcel pkt hpkt => ?_
    have hread : pkt ∈ act.read S Z := Option.mem_bind_iff.mpr ⟨parcel, hparcel, hpkt⟩
    exact .inr ⟨pkt, hknown pkt hread, hordinary.settled pkt hread, .refl pkt⟩
  by_cases hcallback : ∃ active, act = .sideTx active
  · obtain ⟨active, rfl⟩ := hcallback
    cases active with
    | true => exact absurd rfl hordinary.callback
    | false => exact ⟨hsound, h.held, ⟨h.apart.released, h.apart.buffered⟩, rfl, h.undeferred⟩
  · have hnumbers := perform_numbersOthers (E := E) hZ hreturns hown hty h fun active heq => hcallback ⟨active, heq⟩
    refine ⟨hsound, ?_, ?_, hnumbers.calm.active.trans h.idle, hnumbers.calm.deferred h.idle h.undeferred⟩
    · intro key seq bytes hholds
      rcases hnumbers.held key seq bytes hholds with hold | ⟨sideId, streamTy, -, hnumber, -⟩
      · exact h.held key seq bytes hold
      · exact hnumber sideId streamTy seq bytes rfl
    · by_cases hsends : act = .transmitNext
      · subst hsends
        have hkeeps := transmitNext_emits (P := fun _ => True) (Q := fun _ => True) S Z E fun item _ => transmits_true S Z r item
        exact ⟨hkeeps.released ▸ h.apart.released, hkeeps.streams ▸ h.apart.buffered⟩
      · exact (perform_waits 0 hty hown h.apart hordinary.frame hsends).2

/-- **One step of a relay is one of a channel.** -/
theorem perform_letsGo (hZ : Z.Lossless) (hreturns : S.OwnReturns) (hown : ty ∉ S.ownTraffic) (hty : S.isReliableType ty = false)
    (r : Relay) (act : Act) (h : r.Ready S Z known ty) (hordinary : act.Ordinary S Z) :
    ∃ new, (perform S Z E r act).handedTo S Z ty exit = r.handedTo S Z ty exit ++ new ∧
      LetsGo (fun q p => CopyOf p q) (r.inTransit ty exit) (act.arrival S Z ty exit).toList new ((perform S Z E r act).inTransit ty exit) := by
  by_cases hsends : act = .transmitNext
  · subst hsends
    exact transmitNext_letsGo hZ hreturns hown hty h
  · have hwaits := (perform_waits (Z := Z) (E := E) exit hty hown h.apart hordinary.frame hsends).1
    refine ⟨[], ?_, .of_sublist hwaits⟩
    rw [List.append_nil]
    by_cases hcallback : ∃ active, act = .sideTx active
    · obtain ⟨active, rfl⟩ := hcallback
      rfl
    · exact handed_of_quiet (perform_quiet (E := E) exit h hsends fun active heq => hcallback ⟨active, heq⟩).trace

/-- A new relay, with no callback going on. -/
structure Unused (r : Relay) : Prop where
  blank : r.toOwner.Blank
  idle : r.sideTxActive = false
  undeferred : r.sideTxDeferred = false

theorem Unused.ready {r : Relay} (h : r.Unused) : r.Ready S Z known ty := by
  refine ⟨h.blank.sound, fun key seq bytes hholds => absurd hholds (h.blank.not_holds key seq bytes), ⟨?_, ?_⟩, h.idle, h.undeferred⟩
  · intro x hx
    rw [h.blank.released] at hx
    cases hx
  · intro key rx seq bf hrx _
    rw [h.blank.receiving] at hrx
    cases hrx

/-- **A relay is a channel** for traffic that is not reliable: what it hands to a side is in the order in which it came in on the
    other sides, and nothing is handed on twice. -/
theorem run_channel (hZ : Z.Lossless) (hreturns : S.OwnReturns) (hown : ty ∉ S.ownTraffic) (hty : S.isReliableType ty = false)
    {r : Relay} (hnew : r.Unused) {acts : List Act} (hacts : ∀ act ∈ acts, act.Ordinary S Z) :
    List.SublistForall₂ (fun q p => CopyOf p q) ((runFrom (perform S Z E) r acts).handedTo S Z ty exit)
      (acts.filterMap (Act.arrival S Z ty exit)) := by
  have hstart : Passed (fun q p => CopyOf p q) (r.handedTo S Z ty exit) (r.inTransit ty exit) [] := by
    refine ⟨[], ?_, ?_⟩
    · unfold handedTo
      rw [hnew.blank.obs]
      exact .nil
    · unfold Owner.inTransit txWaits rxWaits
      rw [hnew.blank.tx, hnew.blank.rx]
      exact List.Sublist.refl _
  have hknown : ∀ act ∈ acts, act.Ordinary S Z ∧ ∀ pkt ∈ act.read S Z, pkt ∈ acts.filterMap (Act.read S Z) :=
    fun act hact => ⟨hacts act hact, fun pkt hpkt => List.mem_filterMap.mpr ⟨act, hact, hpkt⟩⟩
  have hkeeps : ∀ (r : Relay) (act : Act), r.Ready S Z (acts.filterMap (Act.read S Z)) ty →
      (act.Ordinary S Z ∧ ∀ pkt ∈ act.read S Z, pkt ∈ acts.filterMap (Act.read S Z)) →
      (perform S Z E r act).Ready S Z (acts.filterMap (Act.read S Z)) ty :=
    fun r act h hact => perform_ready hZ hreturns hown hty r act h hact
  have hpassed := passed_run (fun r : Relay => r.handedTo S Z ty exit) (fun r : Relay => r.inTransit ty exit)
    (fun act : Act => (act.arrival S Z ty exit).toList) hkeeps
    (fun r act h hact => perform_letsGo hZ hreturns hown hty r act h hact.1) hknown hnew.ready hstart
  rw [List.nil_append, ← List.filterMap_eq_flatMap_toList] at hpassed
  exact hpassed.inOrder

/-! ## Relays in a row -/

/-- A relay on the way: what happens to it, and the side on which its successor is. -/
structure Hop where
  relay : Relay
  env : Env
  acts : List Act
  exit : Int32

end Relay

instance : IsTrans PacketData fun q p => CopyOf p q := ⟨fun _ _ _ h h' => h'.trans h⟩

namespace Relay.Hop

section

variable (S : Schema) (Z : Codec) (ty : UInt32)

/-- The packets of the type that come in on the other sides. -/
def arrived (hop : Hop) : List PacketData := hop.acts.filterMap (Act.arrival S Z ty hop.exit)

/-- The packets of the type that are handed on. -/
def handedOn (hop : Hop) : List PacketData := (runFrom (perform S Z hop.env) hop.relay hop.acts).handedTo S Z ty hop.exit

/-- A new relay, and what may happen to it. -/
structure Ordinary (hop : Hop) : Prop where
  fresh : hop.relay.Unused
  acts : ∀ act ∈ hop.acts, act.Ordinary S Z

end

/-- **Traffic that is not reliable keeps its order**, over any number of relays: what the last relay of a row hands on are copies
    of packets that came in at the first one, in the order in which they came in, and none of them twice. This holds for every run
    of the relays in which no callback calls back, whatever else they carry and however they are set up meanwhile, as long as each
    is given no more than its predecessor hands on, in that order. -/
theorem row_inOrder (S : Schema) (Z : Codec) (hZ : Z.Lossless) (hreturns : S.OwnReturns) (ty : UInt32) (hown : ty ∉ S.ownTraffic)
    (hty : S.isReliableType ty = false) (first : Hop) (rest : List Hop) (hrow : ∀ hop ∈ first :: rest, hop.Ordinary S Z)
    (hlinks : List.IsChain (fun hop next => (next.arrived S Z ty).Sublist (hop.handedOn S Z ty)) (first :: rest)) :
    List.SublistForall₂ (fun q p => CopyOf p q) (((first :: rest).getLast (List.cons_ne_nil _ _)).handedOn S Z ty)
      (first.arrived S Z ty) :=
  inOrder_row first rest (fun hop hhop => run_channel hZ hreturns hown hty (hrow hop hhop).fresh (hrow hop hhop).acts) hlinks

/-- A report of the motion, and its frame. -/
def imuReport (sender : String) (timestamp : UInt64) : PacketData := ⟨101, ascii sender, [101, 100], timestamp, List.replicate 24 0⟩

def imuFrame (sender : String) (timestamp : UInt64) : Bytes := serializePacket defaultTestSchema (.absent 16) (imuReport sender timestamp)

/-- Two reports come in, and are handed on. -/
def imuFirst : Hop where
  relay := .new [.serialized [] true, .serialized [] true]
  env := .calm
  acts := [.rxSerializedFromSide 0 (imuFrame "TEST" 1), .rxSerializedFromSide 0 (imuFrame "TEST" 2), .receiveNext, .receiveNext,
    .transmitNext, .transmitNext]
  exit := 1

/-- The first of them is lost on the way to this relay. -/
def imuSecond : Hop where
  relay := .new [.serialized [] true, .serialized [] true]
  env := .calm
  acts := [.rxSerializedFromSide 0 (imuFrame "@addr:488734002" 2), .receiveNext, .transmitNext]
  exit := 1

theorem imu_unused : ∀ hop ∈ [imuFirst, imuSecond], hop.relay.Unused := by
  intro hop hhop
  rcases List.mem_pair.mp hhop with rfl | rfl
  · exact ⟨⟨rfl, rfl, rfl, rfl, rfl, rfl, rfl, rfl⟩, rfl, rfl⟩
  · exact ⟨⟨rfl, rfl, rfl, rfl, rfl, rfl, rfl, rfl⟩, rfl, rfl⟩

theorem imu_ordinary : ∀ hop ∈ [imuFirst, imuSecond], hop.Ordinary defaultTestSchema (.absent 16) := by
  have hpackets : ∀ hop ∈ [imuFirst, imuSecond], ∀ act ∈ hop.acts, act ≠ .sideTx true ∧
      (∀ bytes ∈ act.frame, isV4FrameFlags (bytes.getD 0 0) = true) ∧
      ∀ pkt ∈ act.read defaultTestSchema (.absent 16), Settled defaultTestSchema pkt := by
    unfold imuFirst imuSecond imuFrame
    rw [defaultTestSchema_eq]
    decide +kernel
  intro hop hhop
  refine ⟨imu_unused hop hhop, fun act hact => ?_⟩
  obtain ⟨hcallback, hframe, hsettled⟩ := hpackets hop hhop act hact
  exact ⟨hcallback, fun bytes hbytes => .inl (hframe bytes hbytes), hsettled⟩

theorem imu_link : (imuSecond.arrived defaultTestSchema (.absent 16) 101).Sublist (imuFirst.handedOn defaultTestSchema (.absent 16) 101) := by
  have hhanded : imuFirst.handedOn defaultTestSchema (.absent 16) 101 =
      [{ imuReport "@addr:1975590578" 1 with endpoints := [100, 101] }, { imuReport "@addr:1975590578" 2 with endpoints := [100, 101] }] := by
    unfold imuFirst imuFrame
    rw [defaultTestSchema_eq]
    decide +kernel
  have harrived : imuSecond.arrived defaultTestSchema (.absent 16) 101 = [{ imuReport "@addr:1975590578" 2 with endpoints := [100, 101] }] := by
    unfold imuSecond imuFrame
    rw [defaultTestSchema_eq]
    decide +kernel
  rw [hhanded, harrived]
  exact List.sublist_cons_self _ _

/-- Two reports come in at the first relay, and the second of them is handed on by the second relay. -/
theorem imu_timestamps : (imuFirst.arrived defaultTestSchema (.absent 16) 101).map (·.timestamp) = [1, 2] ∧
    (imuSecond.handedOn defaultTestSchema (.absent 16) 101).map (·.timestamp) = [2] := by
  unfold imuFirst imuSecond imuFrame
  rw [defaultTestSchema_eq]
  decide +kernel

theorem row_inOrder_imu :
    List.SublistForall₂ (fun q p => CopyOf p q) (imuSecond.handedOn defaultTestSchema (.absent 16) 101)
      (imuFirst.arrived defaultTestSchema (.absent 16) 101) ∧
    (imuFirst.arrived defaultTestSchema (.absent 16) 101).map (·.timestamp) = [1, 2] ∧
    (imuSecond.handedOn defaultTestSchema (.absent 16) 101).map (·.timestamp) = [2] := by
  have hschema : defaultTestSchema.OwnReturns ∧ 101 ∉ defaultTestSchema.ownTraffic ∧ defaultTestSchema.isReliableType 101 = false := by
    rw [defaultTestSchema_eq]
    decide +kernel
  obtain ⟨hreturns, hown, hty⟩ := hschema
  refine ⟨?_, imu_timestamps⟩
  have hrow := row_inOrder defaultTestSchema (.absent 16) (Codec.absent_lossless 16) hreturns 101 hown hty imuFirst [imuSecond]
    imu_ordinary (List.isChain_pair.mpr imu_link)
  rw [List.getLast_cons_cons, List.getLast_singleton] at hrow
  exact hrow

end Relay.Hop

end SedsNet
