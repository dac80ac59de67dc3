import SedsNet.Delivery

/-!
# Logging at once, and logging later

`seds_router_log_bytes_ex` sends a packet at once or queues it for `seds_router_process_tx_queue`. The two paths dispatch the packet
to the local handlers with different functions: `dispatch_local_from_packet` does not ask what the packet handlers answer, and
`transmit_item` ends when one of them refuses the packet. Two runs that do the same are compared in lockstep (`Lockstep`).
-/

set_option autoImplicit false

namespace SedsNet

open Lib Owner

/-- A callback of a side is called with a frame or a packet. -/
def Obs.isSide : Obs → Bool
  | .transmit _ _ => true
  | .packetTx _ _ => true
  | _ => false

/-- If it is a call, it is the call of a local handler or of a side. -/
def Obs.ForHandlersOrSides (e : Obs) : Prop := e.isCall = true → e.isLocal = true ∨ e.isSide = true

theorem Obs.isCall_of_isLocal {e : Obs} (h : e.isLocal = true) : e.isCall = true := by
  cases e with
  | packetHandler => rfl
  | serializedHandler => rfl
  | _ => cases h

theorem Obs.isCall_of_isSide {e : Obs} (h : e.isSide = true) : e.isCall = true := by
  cases e with
  | transmit => rfl
  | packetTx => rfl
  | _ => cases h

namespace Owner

/-- From `o` on, `now` and `later` have called the same local handlers with the same arguments in the same order, and have given the
    same frames and packets to the same sides. -/
def SameOutput (o now later : Owner) : Prop :=
  ∃ l l', now.obs = o.obs ++ l ∧ later.obs = o.obs ++ l' ∧ l.filter Obs.isLocal = l'.filter Obs.isLocal ∧
    l.filter Obs.isSide = l'.filter Obs.isSide

/-! ## Lockstep -/

/-- What decides on the callbacks that come next is the same in both states: the sides, the answers, and the send windows for
    packets of type `ty`. -/
structure Twin (ty : UInt32) (o o' : Owner) : Prop where
  sides : o'.sides = o.sides
  tuning : o'.tuning = o.tuning
  active : o'.sideTxActive = o.sideTxActive
  deferred : o'.sideTxDeferred = o.sideTxDeferred
  calls : o'.calls = o.calls
  nextSeq : ∀ sideId, (o'.txState sideId ty).nextSeq = (o.txState sideId ty).nextSeq
  held : ∀ sideId, (o'.txState sideId ty).sent.keys = (o.txState sideId ty).sent.keys

/-- The same callbacks are called from `o` to `p` as from `o'` to `p'`. -/
def Echo (o p o' p' : Owner) : Prop :=
  ∃ l l', p.obs = o.obs ++ l ∧ p'.obs = o'.obs ++ l' ∧ l.filter Obs.isCall = l'.filter Obs.isCall

/-- Two runs, from `o` to `p` and from `o'` to `p'`, that call the same callbacks and are twins at the end. -/
structure Lockstep (ty : UInt32) (o p o' p' : Owner) : Prop where
  twin : Twin ty p p'
  echo : Echo o p o' p'

section

variable {ty : UInt32} {o p q o' p' q' : Owner}

theorem Twin.refl (ty : UInt32) (o : Owner) : Twin ty o o := ⟨rfl, rfl, rfl, rfl, rfl, fun _ => rfl, fun _ => rfl⟩

theorem Twin.trans (h : Twin ty o p) (h' : Twin ty p q) : Twin ty o q :=
  ⟨h'.sides.trans h.sides, h'.tuning.trans h.tuning, h'.active.trans h.active, h'.deferred.trans h.deferred, h'.calls.trans h.calls,
    fun sideId => (h'.nextSeq sideId).trans (h.nextSeq sideId), fun sideId => (h'.held sideId).trans (h.held sideId)⟩

theorem Twin.symm (h : Twin ty o p) : Twin ty p o :=
  ⟨h.sides.symm, h.tuning.symm, h.active.symm, h.deferred.symm, h.calls.symm, fun sideId => (h.nextSeq sideId).symm,
    fun sideId => (h.held sideId).symm⟩

theorem Twin.nowMs (h : Twin ty o o') (E : Env) : Twin ty (o.nowMs E).2 (o'.nowMs E).2 :=
  ⟨h.sides, h.tuning, h.active, h.deferred, h.calls, h.nextSeq, h.held⟩

theorem Twin.heldLength (h : Twin ty o o') (sideId : Int32) :
    (o'.txState sideId ty).sent.entries.length = (o.txState sideId ty).sent.entries.length := by
  have hkeys := congrArg List.length (h.held sideId)
  simpa [AList.keys, List.keys] using hkeys

/-- Both windows are written in the same way. -/
theorem Twin.setTxState (h : Twin ty o o') (sideId : Int32) {tx tx' : ReliableTxState} (hseq : tx'.nextSeq = tx.nextSeq)
    (hheld : tx'.sent.keys = tx.sent.keys) : Twin ty (o.setTxState sideId ty tx) (o'.setTxState sideId ty tx') := by
  have hwritten : ∀ (o : Owner) (tx : ReliableTxState) (other : Int32), (o.setTxState sideId ty tx).txState other ty =
      if reliableKey other ty = reliableKey sideId ty then tx else o.txState other ty := by
    intro o tx other
    unfold Owner.setTxState txState
    dsimp only
    split
    · rename_i hsame
      rw [hsame, AList.lookup_insert]
      rfl
    · rename_i hother
      rw [AList.lookup_insert_ne hother]
  refine ⟨h.sides, h.tuning, h.active, h.deferred, h.calls, fun other => ?_, fun other => ?_⟩
  · rw [hwritten, hwritten]
    split
    · exact hseq
    · exact h.nextSeq other
  · rw [hwritten, hwritten]
    split
    · exact hheld
    · exact h.held other

namespace Echo

theorem refl (o o' : Owner) : Echo o o o' o' := ⟨[], [], (List.append_nil _).symm, (List.append_nil _).symm, rfl⟩

theorem trans (h : Echo o p o' p') (h' : Echo p q p' q') : Echo o q o' q' := by
  obtain ⟨l, l', hl, hl', hsame⟩ := h
  obtain ⟨m, m', hm, hm', hsame'⟩ := h'
  refine ⟨l ++ m, l' ++ m', by rw [hm, hl, List.append_assoc], by rw [hm', hl', List.append_assoc], ?_⟩
  rw [List.filter_append, List.filter_append, hsame, hsame']

/-- Where no callback is called, nothing has to be the same. -/
theorem of_quiet (h : Quiet o p) (h' : Quiet o' p') : Echo o p o' p' := by
  obtain ⟨l, hl, hquiet⟩ := h
  obtain ⟨l', hl', hquiet'⟩ := h'
  refine ⟨l, l', hl, hl', ?_⟩
  have hnone : ∀ m : List Obs, (∀ e ∈ m, e.isCall = false) → m.filter Obs.isCall = [] := by
    intro m hm
    apply List.filter_eq_nil_iff.mpr
    intro e he
    rw [hm e he]
    exact Bool.false_ne_true
  rw [hnone l hquiet, hnone l' hquiet']

/-- The same is put on record. -/
theorem observe (o o' : Owner) (e : Obs) : Echo o (o.observe e) o' (o'.observe e) := ⟨[e], [e], rfl, rfl, rfl⟩

end Echo

/-- Of the same calls those of one kind are the same. -/
theorem filter_of_isCall {kind : Obs → Bool} (hkind : ∀ e, kind e = true → e.isCall = true) {l l' : List Obs}
    (hsame : l.filter Obs.isCall = l'.filter Obs.isCall) : l.filter kind = l'.filter kind := by
  have hnested : ∀ m : List Obs, (m.filter Obs.isCall).filter kind = m.filter kind := by
    intro m
    rw [List.filter_filter]
    congr 1
    funext e
    cases hkinded : kind e with
    | false => rfl
    | true =>
      rw [hkind e hkinded]
      rfl
  rw [← hnested l, ← hnested l', hsame]

theorem Echo.sameOutput (h : Echo o p o p') : SameOutput o p p' := by
  obtain ⟨l, l', hl, hl', hsame⟩ := h
  exact ⟨l, l', hl, hl', filter_of_isCall (fun _ => Obs.isCall_of_isLocal) hsame, filter_of_isCall (fun _ => Obs.isCall_of_isSide) hsame⟩

/-- Where the one run goes on, it must not call anybody. -/
theorem Echo.sameOutput_iff (h : Echo o p o p') (hrest : Adds Obs.ForHandlersOrSides p q) : SameOutput o q p' ↔ Quiet p q := by
  constructor
  · intro hsame
    obtain ⟨a, a', ha, ha', hcalls⟩ := h
    obtain ⟨b, hb, hkinds⟩ := hrest
    obtain ⟨l, l', hl, hl', hlocal, hside⟩ := hsame
    have hwhole : l = a ++ b := by
      refine @List.append_cancel_left _ o.obs _ _ ?_
      rw [← hl, hb, ha, List.append_assoc]
    have hshort : l' = a' := List.append_cancel_left (hl'.symm.trans ha')
    subst hwhole
    subst hshort
    rw [List.filter_append, ← filter_of_isCall (fun _ => Obs.isCall_of_isLocal) hcalls, List.append_right_eq_self] at hlocal
    rw [List.filter_append, ← filter_of_isCall (fun _ => Obs.isCall_of_isSide) hcalls, List.append_right_eq_self] at hside
    refine ⟨b, hb, fun e he => Bool.eq_false_of_not_eq_true fun hcall => ?_⟩
    rcases hkinds e he hcall with hhandler | hsent
    · exact List.filter_eq_nil_iff.mp hlocal e he hhandler
    · exact List.filter_eq_nil_iff.mp hside e he hsent
  · intro hquiet
    exact (h.trans (.of_quiet hquiet (.refl p'))).sameOutput

namespace Lockstep

theorem refl (h : Twin ty o o') : Lockstep ty o o o' o' := ⟨h, .refl o o'⟩

theorem trans (h : Lockstep ty o p o' p') (h' : Lockstep ty p q p' q') : Lockstep ty o q o' q' := ⟨h'.twin, h.echo.trans h'.echo⟩

theorem call (h : Twin ty o o') (E : Env) (e : Obs) : Lockstep ty o (o.call E e).2 o' (o'.call E e).2 :=
  ⟨⟨h.sides, h.tuning, h.active, h.deferred, congrArg (· + 1) h.calls, h.nextSeq, h.held⟩, [e], [e], rfl, rfl, rfl⟩

theorem foldl {α : Type} {f : Owner → α → Owner} (hf : ∀ o o' x, Twin ty o o' → Lockstep ty o (f o x) o' (f o' x)) (xs : List α)
    (h : Twin ty o o') : Lockstep ty o (xs.foldl f o) o' (xs.foldl f o') := by
  induction xs generalizing o o' with
  | nil => exact .refl h
  | cons x xs ih =>
    have hround := hf o o' x h
    exact hround.trans (ih hround.twin)

end Lockstep

/-- Both callbacks give the same answer. -/
theorem call_rc (h : Twin ty o o') (E : Env) (e : Obs) : (o'.call E e).1 = (o.call E e).1 := congrArg E.callback h.calls

end

/-! ## Handlers in lockstep -/

section

variable {S : Schema} {Z : Codec} {E : Env} (device : Bytes) (locals : List LocalEndpoint) {ty : UInt32} {o o' : Owner}

theorem tryPacketHandler_lockstep (i : Nat) (pkt : PacketData) (tries : Nat) (rc : SedsResult) (h : Twin ty o o') :
    (tryPacketHandler E i pkt tries rc o').1 = (tryPacketHandler E i pkt tries rc o).1 ∧
      Lockstep ty o (tryPacketHandler E i pkt tries rc o).2 o' (tryPacketHandler E i pkt tries rc o').2 := by
  induction tries generalizing rc o o' with
  | zero => exact ⟨rfl, .refl h⟩
  | succ tries ih =>
    have hcalled := Lockstep.call h E (.packetHandler i pkt)
    unfold tryPacketHandler
    dsimp only
    rw [call_rc h E (.packetHandler i pkt)]
    split
    · exact ⟨rfl, hcalled⟩
    · obtain ⟨hrc, hrest⟩ := ih (o.call E (.packetHandler i pkt)).1 hcalled.twin
      exact ⟨hrc, hcalled.trans hrest⟩

theorem dispatchLocalPacket_lockstep (pkt : PacketData) (failures : Failures) (l : LocalEndpoint × Nat) (h : Twin ty o o') :
    (dispatchLocalPacket E locals pkt (failures, o') l).1 = (dispatchLocalPacket E locals pkt (failures, o) l).1 ∧
      Lockstep ty o (dispatchLocalPacket E locals pkt (failures, o) l).2 o' (dispatchLocalPacket E locals pkt (failures, o') l).2 := by
  unfold dispatchLocalPacket
  dsimp only
  rw [h.tuning]
  obtain ⟨hrc, hstep⟩ := tryPacketHandler_lockstep (E := E) l.2 pkt o.tuning.maxHandlerRetries SEDS_OK h
  rw [hrc]
  split
  · split
    · exact ⟨rfl, hstep⟩
    · exact ⟨rfl, hstep⟩
  · exact ⟨rfl, .refl h⟩

theorem dispatchLocalPackets_lockstep (pkt : PacketData) (xs : List (LocalEndpoint × Nat)) (failures : Failures) (h : Twin ty o o') :
    (xs.foldl (dispatchLocalPacket E locals pkt) (failures, o')).1 = (xs.foldl (dispatchLocalPacket E locals pkt) (failures, o)).1 ∧
      Lockstep ty o (xs.foldl (dispatchLocalPacket E locals pkt) (failures, o)).2 o'
        (xs.foldl (dispatchLocalPacket E locals pkt) (failures, o')).2 := by
  induction xs generalizing failures o o' with
  | nil => exact ⟨rfl, .refl h⟩
  | cons x xs ih =>
    obtain ⟨hfailures, hround⟩ := dispatchLocalPacket_lockstep (E := E) locals pkt failures x h
    rw [List.foldl_cons, List.foldl_cons]
    generalize dispatchLocalPacket E locals pkt (failures, o) x = p at hfailures hround
    generalize dispatchLocalPacket E locals pkt (failures, o') x = p' at hfailures hround
    obtain ⟨failures₁, o₁⟩ := p
    obtain ⟨failures₂, o₂⟩ := p'
    dsimp only at hfailures hround
    subst hfailures
    obtain ⟨hrest, hlater⟩ := ih failures₂ hround.twin
    exact ⟨hrest, hround.trans hlater⟩

theorem dispatchLocalPacketHandlers_lockstep (pkt : PacketData) (h : Twin ty o o') :
    (dispatchLocalPacketHandlers S E device locals pkt o').1 = (dispatchLocalPacketHandlers S E device locals pkt o).1 ∧
      Lockstep ty o (dispatchLocalPacketHandlers S E device locals pkt o).2 o' (dispatchLocalPacketHandlers S E device locals pkt o').2 := by
  obtain ⟨hfailures, hloop⟩ := dispatchLocalPackets_lockstep (E := E) locals pkt locals.zipIdx ⟨none, []⟩ h
  unfold dispatchLocalPacketHandlers
  dsimp only
  rw [hfailures]
  split
  · exact ⟨rfl, hloop⟩
  · split
    · refine ⟨rfl, hloop.trans (.foldl ?_ locals.zipIdx hloop.twin)⟩
      intro o o' l h
      split
      · exact .call h E _
      · exact .refl h
    · exact ⟨rfl, hloop⟩

theorem dispatchLocalSerializedHandlers_lockstep (endpoints : List UInt32) (bytes : Bytes) (h : Twin ty o o') :
    Lockstep ty o (dispatchLocalSerializedHandlers E locals endpoints bytes o) o'
      (dispatchLocalSerializedHandlers E locals endpoints bytes o') := by
  unfold dispatchLocalSerializedHandlers
  refine .foldl ?_ locals.zipIdx h
  intro o o' l h
  split
  · exact .call h E _
  · exact .refl h

theorem dispatchLocalFromPacket_lockstep (pkt : PacketData) (h : Twin ty o o') :
    Lockstep ty o (dispatchLocalFromPacket S Z E device locals pkt o) o' (dispatchLocalFromPacket S Z E device locals pkt o') := by
  obtain ⟨-, hpackets⟩ := dispatchLocalPacketHandlers_lockstep (S := S) (E := E) device locals pkt h
  exact hpackets.trans (dispatchLocalSerializedHandlers_lockstep locals pkt.endpoints (serializePacket S Z pkt) hpackets.twin)

end

/-! ## Sides in lockstep -/

section

variable {S : Schema} {Z : Codec} {E : Env} {device : Bytes} {locals : List LocalEndpoint} {ty : UInt32} {o o' : Owner}

theorem Lockstep.observe (h : Twin ty o o') (e : Obs) : Lockstep ty o (o.observe e) o' (o'.observe e) :=
  ⟨⟨h.sides, h.tuning, h.active, h.deferred, h.calls, h.nextSeq, h.held⟩, .observe o o' e⟩

/-- What is not on record and does not decide on a callback may differ. -/
theorem Lockstep.write {o o' p p' : Owner} (h : Twin ty p p') (hobs : p.obs = o.obs) (hobs' : p'.obs = o'.obs) : Lockstep ty o p o' p' :=
  ⟨h, .of_quiet (.of_obs hobs) (.of_obs hobs')⟩

theorem callSerializedTx_lockstep (sideId : Int32) (bytes : Bytes) (h : Twin ty o o') :
    (o'.callSerializedTx E sideId bytes).1 = (o.callSerializedTx E sideId bytes).1 ∧
      Lockstep ty o (o.callSerializedTx E sideId bytes).2 o' (o'.callSerializedTx E sideId bytes).2 := by
  unfold callSerializedTx
  by_cases hactive : o.sideTxActive = true
  · have hactive' : o'.sideTxActive = true := h.active.trans hactive
    rw [if_pos hactive, if_pos hactive']
    exact ⟨rfl, .write ⟨h.sides, h.tuning, h.active, rfl, h.calls, h.nextSeq, h.held⟩ rfl rfl⟩
  · have hactive' : ¬ o'.sideTxActive = true := fun hbusy => hactive (h.active.symm.trans hbusy)
    rw [if_neg hactive, if_neg hactive']
    exact ⟨call_rc h E _, .call h E _⟩

theorem keys_emplace {m m' : Map UInt32 Sent} (hkeys : m'.keys = m.keys) (seq : UInt32) (sent sent' : Sent) :
    (m'.emplace seq sent').keys = (m.emplace seq sent).keys := by
  unfold Map.emplace
  by_cases hseq : seq ∈ m
  · have hseq' : seq ∈ m' := by
      rw [AList.mem_keys, hkeys]
      exact hseq
    rw [if_pos hseq, if_pos hseq', hkeys]
  · have hseq' : seq ∉ m' := by
      rw [AList.mem_keys, hkeys]
      exact hseq
    rw [if_neg hseq, if_neg hseq', AList.keys_insert, AList.keys_insert, hkeys]

theorem sendSerializedWithReliable_lockstep (sideId : Int32) (pkt : PacketData) (h : Twin pkt.ty o o') :
    (o'.sendSerializedWithReliable S Z E sideId pkt).1 = (o.sendSerializedWithReliable S Z E sideId pkt).1 ∧
      Lockstep pkt.ty o (o.sendSerializedWithReliable S Z E sideId pkt).2 o' (o'.sendSerializedWithReliable S Z E sideId pkt).2 := by
  have hside : o'.sideAt sideId = o.sideAt sideId := by
    unfold sideAt
    rw [h.sides]
  unfold sendSerializedWithReliable
  rw [hside]
  cases o.sideAt sideId with
  | none => exact ⟨rfl, .refl h⟩
  | some side =>
    dsimp only
    split
    · exact ⟨rfl, .refl h⟩
    · split
      · exact callSerializedTx_lockstep sideId _ h
      · rw [h.heldLength, h.tuning]
        split
        · exact ⟨rfl, .write (h.setTxState sideId (h.nextSeq sideId) (h.held sideId)) rfl rfl⟩
        · rw [h.nextSeq sideId]
          generalize serializePacketWithReliable S Z pkt _ = bytes
          -- the number is taken in both runs
          have hwritten : Twin pkt.ty
              (o.setTxState sideId pkt.ty { o.txState sideId pkt.ty with nextSeq := nextSeq (o.txState sideId pkt.ty).nextSeq })
              (o'.setTxState sideId pkt.ty { o'.txState sideId pkt.ty with nextSeq := nextSeq (o.txState sideId pkt.ty).nextSeq }) :=
            h.setTxState sideId rfl (h.held sideId)
          have htaken : Lockstep pkt.ty o _ o' _ := .write hwritten rfl rfl
          have hnumbered := htaken.trans (.observe hwritten (.number sideId pkt.ty (o.txState sideId pkt.ty).nextSeq bytes))
          obtain ⟨hrc, hcalled⟩ := callSerializedTx_lockstep (E := E) sideId bytes hnumbered.twin
          have hstep := hnumbered.trans hcalled
          rw [hrc]
          split
          · exact ⟨rfl, hstep⟩
          · -- the frame is held until it is acknowledged
            refine ⟨rfl, hstep.trans (.write (Twin.setTxState (hstep.twin.nowMs E) sideId rfl ?_) rfl rfl)⟩
            exact keys_emplace (h.held sideId) _ _ _

/-- The items may say different things about local delivery. -/
theorem sendToSide_lockstep {item item' : TxItem} (hpkt : item'.pkt = item.pkt) (sideId : Int32) (side : Side)
    (h : Twin item.pkt.ty o o') : (o'.sendToSide S Z E sideId side item').1 = (o.sendToSide S Z E sideId side item).1 ∧
      Lockstep item.pkt.ty o (o.sendToSide S Z E sideId side item).2 o' (o'.sendToSide S Z E sideId side item').2 := by
  have hnoted : Lockstep item.pkt.ty o (o.observe (.sends sideId item)) o' (o'.observe (.sends sideId item')) :=
    ⟨⟨h.sides, h.tuning, h.active, h.deferred, h.calls, h.nextSeq, h.held⟩, .of_quiet (.observe o rfl) (.observe o' rfl)⟩
  unfold sendToSide
  dsimp only
  rw [hpkt]
  split
  · obtain ⟨hrc, hsent⟩ := sendSerializedWithReliable_lockstep (S := S) (Z := Z) (E := E) sideId item.pkt hnoted.twin
    exact ⟨hrc, hnoted.trans hsent⟩
  · split
    · exact ⟨call_rc hnoted.twin E _, hnoted.trans (.call hnoted.twin E _)⟩
    · exact ⟨rfl, hnoted⟩

theorem isDeferred_twin (h : Twin ty o o') (side : Side) (rc : SedsResult) : o'.isDeferred side rc = o.isDeferred side rc := by
  unfold isDeferred
  rw [h.deferred]

theorem egressSide_twin (h : Twin ty o o') (sideId : Int32) : o'.egressSide sideId = o.egressSide sideId := by
  unfold egressSide sideAt
  rw [h.sides]

variable (device locals) in
theorem reportTxFailure_lockstep (side : Side) (rc : SedsResult) (pkt : PacketData) (h : Twin ty o o') :
    Lockstep ty o (reportTxFailure S Z E device locals o side rc pkt) o' (reportTxFailure S Z E device locals o' side rc pkt) := by
  unfold reportTxFailure
  split
  · exact dispatchLocalFromPacket_lockstep device locals _ h
  · exact .refl h

/-- **The loop over the targets** in lockstep. -/
theorem routerTransmitTo_lockstep {item item' : TxItem} (hpkt : item'.pkt = item.pkt) (sides : List Int32) (failed : Bool)
    (h : Twin item.pkt.ty o o') :
    Lockstep item.pkt.ty o (routerTransmitTo S Z E device locals item sides failed o).2 o'
      (routerTransmitTo S Z E device locals item' sides failed o').2 := by
  induction sides generalizing failed o o' with
  | nil => exact .refl h
  | cons sideId rest ih =>
    unfold routerTransmitTo
    rw [egressSide_twin h]
    cases o.egressSide sideId with
    | none => exact ih failed h
    | some side =>
      obtain ⟨hrc, hsent⟩ := sendToSide_lockstep (S := S) (Z := Z) (E := E) hpkt sideId side h
      dsimp only
      generalize o.sendToSide S Z E sideId side item = p at hrc hsent ⊢
      generalize o'.sendToSide S Z E sideId side item' = p' at hrc hsent ⊢
      obtain ⟨rc, o₁⟩ := p
      obtain ⟨rc', o₁'⟩ := p'
      dsimp only at hrc hsent ⊢
      subst hrc
      rw [isDeferred_twin hsent.twin, hpkt]
      split
      · exact hsent.trans (ih failed hsent.twin)
      · split
        · have htwin := hsent.twin
          exact hsent.trans (.write ⟨htwin.sides, htwin.tuning, htwin.active, rfl, htwin.calls, htwin.nextSeq, htwin.held⟩ rfl rfl)
        · have hreported := hsent.trans (reportTxFailure_lockstep (S := S) (Z := Z) (E := E) device locals side rc' item.pkt hsent.twin)
          exact hreported.trans (ih true hreported.twin)

/-! ## Sides that hear nothing -/

theorem dispatchLocalFromPacket_adds {Q : Obs → Prop} (hpackets : ∀ i pkt, Q (.packetHandler i pkt))
    (hframes : ∀ i bytes, Q (.serializedHandler i bytes)) (pkt : PacketData) (o : Owner) :
    Adds Q o (dispatchLocalFromPacket S Z E device locals pkt o) :=
  (dispatchLocalPacketHandlers_adds S E device locals hpackets pkt o).trans
    (dispatchLocalSerializedHandlers_adds E locals pkt.endpoints (serializePacket S Z pkt) (fun i => hframes i _) _)

/-- In the loop over the targets handlers and sides are called, and nobody else. -/
theorem routerTransmitTo_adds (item : TxItem) (sides : List Int32) (failed : Bool) (o : Owner) :
    Adds Obs.ForHandlersOrSides o (routerTransmitTo S Z E device locals item sides failed o).2 := by
  induction sides generalizing failed o with
  | nil => exact .refl o
  | cons sideId rest ih =>
    unfold routerTransmitTo
    cases o.egressSide sideId with
    | none => exact ih failed o
    | some side =>
      have hsent : Emits (fun _ => True) Obs.ForHandlersOrSides o (o.sendToSide S Z E sideId side item).2 :=
        sendToSide_emits S Z E (o := o) ⟨fun h => Bool.noConfusion h, fun _ _ _ => .inr rfl, fun _ _ _ _ h => Bool.noConfusion h, fun _ => .inr rfl⟩ side
      dsimp only
      generalize o.sendToSide S Z E sideId side item = p at hsent ⊢
      obtain ⟨rc, o₁⟩ := p
      dsimp only at hsent ⊢
      split
      · exact hsent.adds.trans (ih failed o₁)
      · split
        · exact hsent.adds.trans (.of_obs rfl)
        · have hreported : Adds Obs.ForHandlersOrSides o₁ (reportTxFailure S Z E device locals o₁ side rc item.pkt) := by
            unfold reportTxFailure
            split
            · exact dispatchLocalFromPacket_adds (fun _ _ _ => .inl rfl) (fun _ _ _ => .inl rfl) _ o₁
            · exact .refl o₁
          exact (hsent.adds.trans hreported).trans (ih true _)

/-- A frame that finds room goes to the callback. -/
theorem sendToSide_called {item : TxItem} {sideId : Int32} {side : Side} (hactive : o.sideTxActive = false)
    (hside : o.sideAt sideId = some side) (hframes : side.serializedTx = true)
    (hroom : (side.reliableEnabled && S.isReliableType item.pkt.ty) = true →
      (o.txState sideId item.pkt.ty).sent.entries.length < o.tuning.reliableMaxPending) :
    ¬ Quiet o (o.sendToSide S Z E sideId side item).2 := by
  intro hquiet
  have hhappens : ∃ bytes, Happens o (o.sendToSide S Z E sideId side item).2 (.transmit sideId bytes) := by
    have hat : (o.observe (.sends sideId item)).sideAt sideId = some side := hside
    have hcalls : ∀ (o : Owner) (bytes : Bytes), o.sideTxActive = false → Happens o (o.callSerializedTx E sideId bytes).2 (.transmit sideId bytes) := by
      intro o bytes hactive
      unfold callSerializedTx
      rw [hactive, if_neg Bool.false_ne_true]
      exact .call E o _
    unfold sendToSide sendSerializedWithReliable
    dsimp only
    rw [if_pos hframes, hat]
    dsimp only
    rw [hframes, Bool.not_true, if_neg Bool.false_ne_true]
    have hfirst : o.obs <+: (o.observe (.sends sideId item)).obs := ⟨[.sends sideId item], rfl⟩
    split
    · exact ⟨_, Happens.before hfirst (hcalls _ _ hactive)⟩
    · rename_i hnumbered
      rw [← Bool.not_and, Bool.not_eq_true', Bool.not_eq_false] at hnumbered
      have hpending : ¬ ((o.observe (.sends sideId item)).txState sideId item.pkt.ty).sent.entries.length ≥
          (o.observe (.sends sideId item)).tuning.reliableMaxPending := Nat.not_le.mpr (hroom hnumbered)
      rw [if_neg hpending]
      generalize serializePacketWithReliable S Z item.pkt _ = bytes
      refine ⟨bytes, ?_⟩
      -- the number comes before the call, and the bookkeeping after it
      have hsecond : o.obs <+: (((o.observe (.sends sideId item)).setTxState sideId item.pkt.ty
          { (o.observe (.sends sideId item)).txState sideId item.pkt.ty with
            nextSeq := nextSeq ((o.observe (.sends sideId item)).txState sideId item.pkt.ty).nextSeq }).observe
          (.number sideId item.pkt.ty ((o.observe (.sends sideId item)).txState sideId item.pkt.ty).nextSeq bytes)).obs :=
        hfirst.trans ⟨[.number sideId item.pkt.ty _ bytes], rfl⟩
      have hcalled := Happens.before hsecond (hcalls _ bytes hactive)
      split
      · exact hcalled
      · exact hcalled
  obtain ⟨bytes, hhappens⟩ := hhappens
  have hnever := Adds.of_happens (Q := fun e => e.isCall = false) hquiet hhappens
  cases hnever

theorem PassesOver.twin {pkt : PacketData} (h : Twin pkt.ty o o') {sideId : Int32}
    (hpasses : PassesOver S o locals pkt sideId) : PassesOver S o' locals pkt sideId := by
  intro side hside
  rw [egressSide_twin h] at hside
  obtain ⟨hframes, hpackets⟩ := hpasses side hside
  refine ⟨fun htx => ?_, hpackets⟩
  obtain ⟨hreliable, hfull, hnone⟩ := hframes htx
  unfold Unreported Unheard at hnone ⊢
  rw [h.tuning, h.heldLength]
  exact ⟨hreliable, hfull, hnone⟩

/-- **The loop over the targets** calls nothing exactly when it passes over all of them. -/
theorem routerTransmitTo_quiet (device : Bytes) (locals : List LocalEndpoint) (item : TxItem) (sides : List Int32) (failed : Bool) (o : Owner)
    (hactive : o.sideTxActive = false) :
    Quiet o (routerTransmitTo S Z E device locals item sides failed o).2 ↔ ∀ sideId ∈ sides, PassesOver S o locals item.pkt sideId := by
  induction sides generalizing failed o with
  | nil => exact ⟨fun _ _ h => absurd h List.not_mem_nil, fun _ => .refl o⟩
  | cons sideId rest ih =>
    have hgoes : ∀ (failed : Bool) (o' : Owner), Alike o o' → o.obs <+: o'.obs → (Quiet o o' ↔ PassesOver S o locals item.pkt sideId) →
        (Quiet o (routerTransmitTo S Z E device locals item rest failed o').2 ↔
          ∀ sideId' ∈ sideId :: rest, PassesOver S o locals item.pkt sideId') := by
      intro failed o' halike hprefix hquiet
      have hrest := ih failed o' (halike.active.trans hactive)
      have hemits := routerTransmitTo_anything (S := S) (Z := Z) (E := E) device locals item rest failed o'
      rw [List.forall_mem_cons]
      constructor
      · intro hwhole
        obtain ⟨hfirst, hlater⟩ := hwhole.parts hprefix hemits.prefix_obs
        exact ⟨hquiet.mp hfirst, fun sideId' hmem => (hrest.mp hlater sideId' hmem).congr halike.symm⟩
      · rintro ⟨hpasses, hall⟩
        exact (hquiet.mpr hpasses).trans (hrest.mpr fun sideId' hmem => (hall sideId' hmem).congr halike)
    unfold routerTransmitTo
    cases hside : o.egressSide sideId with
    | none =>
      refine hgoes failed o (.refl o) List.prefix_rfl ⟨fun _ side hsome => ?_, fun _ => .refl o⟩
      rw [hside] at hsome
      cases hsome
    | some side =>
      have hat : o.sideAt sideId = some side := (egressSide_spec hside).1
      have hpassesOver : PassesOver S o locals item.pkt sideId ↔
          (side.serializedTx = true → (side.reliableEnabled && S.isReliableType item.pkt.ty) = true ∧
            o.tuning.reliableMaxPending ≤ (o.txState sideId item.pkt.ty).sent.entries.length ∧ Unreported S o locals item.pkt) ∧
          (side.serializedTx = false → side.packetTx = false) := by
        unfold PassesOver
        simp [hside]
      have hemits := sendToSide_anything (S := S) (Z := Z) (E := E) o sideId side item
      dsimp only
      -- a callback was called, and nothing that comes later changes that
      have hheard : ¬ Quiet o (o.sendToSide S Z E sideId side item).2 → ¬ PassesOver S o locals item.pkt sideId →
          ∀ o' : Owner, (o.sendToSide S Z E sideId side item).2.obs <+: o'.obs →
          (Quiet o o' ↔ ∀ sideId' ∈ sideId :: rest, PassesOver S o locals item.pkt sideId') := by
        intro hcalled hnot o' hlater
        exact ⟨fun hquiet => absurd (hquiet.parts hemits.prefix_obs hlater).1 hcalled, fun hall => absurd (hall sideId List.mem_cons_self) hnot⟩
      have hlater : ∀ (rc : SedsResult) (o₁ : Owner), o₁.obs <+: (if rc = SEDS_OK then routerTransmitTo S Z E device locals item rest failed o₁
          else if o₁.isDeferred side rc = true then ( SEDS_IO, { o₁ with sideTxDeferred := false })
          else routerTransmitTo S Z E device locals item rest true (reportTxFailure S Z E device locals o₁ side rc item.pkt)).2.obs := by
        intro rc o₁
        split
        · exact (routerTransmitTo_anything device locals item rest failed o₁).prefix_obs
        · split
          · exact List.prefix_rfl
          · exact (reportTxFailure_emits (P := fun _ => True) (Q := fun _ => True) S allowed Z E device locals o₁ side rc item.pkt).prefix_obs.trans
              (routerTransmitTo_anything device locals item rest true _).prefix_obs
      cases hframes : side.serializedTx with
      | false =>
        obtain ⟨halike, hquiet, hok⟩ := sendToSide_packet (S := S) (Z := Z) (E := E) o item sideId hframes
        rw [hframes] at hpassesOver
        simp only [Bool.false_eq_true, false_implies, true_and, forall_const] at hpassesOver
        cases hpacket : side.packetTx with
        | false =>
          rw [if_pos (hok hpacket)]
          exact hgoes failed _ halike hemits.prefix_obs (hquiet.trans hpassesOver.symm)
        | true =>
          rw [hpacket] at hquiet hpassesOver
          exact hheard (fun h => Bool.noConfusion (hquiet.mp h)) (fun h => Bool.noConfusion (hpassesOver.mp h)) _ (hlater _ _)
      | true =>
        rw [hframes] at hpassesOver
        simp only [forall_const, Bool.true_eq_false, false_implies, and_true] at hpassesOver
        by_cases hroom : (side.reliableEnabled && S.isReliableType item.pkt.ty) = true →
            (o.txState sideId item.pkt.ty).sent.entries.length < o.tuning.reliableMaxPending
        · refine hheard (sendToSide_called hactive hat hframes hroom) (fun h => ?_) _ (hlater _ _)
          obtain ⟨hnumbered, hfull, -⟩ := hpassesOver.mp h
          exact absurd (hroom hnumbered) (Nat.not_lt.mpr hfull)
        · rw [Classical.not_imp, Nat.not_lt] at hroom
          obtain ⟨hrc, hquiet, halike⟩ := sendToSide_full (S := S) (Z := Z) (E := E) item hat hframes hroom.1 hroom.2
          generalize o.sendToSide S Z E sideId side item = p at hrc halike hquiet hemits ⊢
          obtain ⟨rc, o₁⟩ := p
          dsimp only at hrc halike hquiet hemits ⊢
          subst hrc
          have hnever : o₁.isDeferred side SEDS_PACKET_TOO_LARGE = false := by
            unfold isDeferred
            rw [hframes]
            rfl
          rw [if_neg (by decide), hnever, if_neg Bool.false_ne_true]
          have hreport := reportTxFailure_emits (P := fun _ => True) (Q := fun _ => True) S allowed Z E device locals o₁ side
            SEDS_PACKET_TOO_LARGE item.pkt
          have hsilent := (reportTxFailure_quiet (S := S) (Z := Z) (E := E) device locals o₁ side SEDS_PACKET_TOO_LARGE item.pkt).1
          refine hgoes true _ (halike.trans (.of_calls (Router.reportTxFailure_calls device locals o₁ side SEDS_PACKET_TOO_LARGE item.pkt)))
            (hemits.prefix_obs.trans hreport.prefix_obs) ?_
          rw [hpassesOver]
          constructor
          · intro h
            exact ⟨hroom.1, hroom.2, halike.symm.unreported (hsilent.mp (h.parts hemits.prefix_obs hreport.prefix_obs).2)⟩
          · rintro ⟨-, -, hnone⟩
            exact hquiet.trans (hsilent.mpr (halike.unreported hnone))

end

end Owner

/-! ## Timeouts that pass -/

namespace Owner

/-- A held frame is not up for another transmission: it is queued, was acknowledged, or was sent a short while ago. -/
def waits (tuning : Tuning) (now : UInt64) (sent : Sent) : Bool :=
  sent.queued || sent.partialAcked || decide (now - sent.lastSendMs < tuning.reliableRetransmitMs.toUInt64)

/-- No held frame goes out again at this time. Those that were tried often enough are dropped; none of them is of type `ty`. -/
def NoFrameDue (o : Owner) (now : UInt64) (ty : UInt32) : Prop :=
  ∀ key tx side, o.reliableTx.lookup key = some tx → o.sideAt (sideOfKey key) = some side → side.serializedTx = true →
    ∀ seq ∈ tx.sentOrder, ∀ sent, tx.sent.lookup seq = some sent →
      dueAgain o.tuning now sent = false ∧ ((∃ sideId, key = reliableKey sideId ty) → waits o.tuning now sent = true)

section

variable {E : Env}

/-- A round of the inner loop drops a frame, or leaves the window alone. -/
theorem retransmit_passes {now : UInt64} (sideId : Int32) {o : Owner} {tx : ReliableTxState} {seq : UInt32}
    (hnone : ∀ sent, tx.sent.lookup seq = some sent → dueAgain o.tuning now sent = false) :
    ∃ tx', retransmit E now sideId (o, tx) seq = (o, tx') ∧
      (∀ k sent, tx'.sent.lookup k = some sent → tx.sent.lookup k = some sent) ∧
      ((∀ sent, tx.sent.lookup seq = some sent → waits o.tuning now sent = true) → tx' = tx) := by
  cases hsent : tx.sent.lookup seq with
  | none =>
    refine ⟨tx, ?_, fun _ _ h => h, fun _ => rfl⟩
    unfold retransmit
    dsimp only
    rw [hsent]
  | some sent =>
    have hnot := hnone sent hsent
    simp only [Option.some.injEq, forall_eq']
    by_cases hwaits : waits o.tuning now sent = true
    · refine ⟨tx, ?_, fun _ _ h => h, fun _ => rfl⟩
      unfold waits at hwaits
      unfold retransmit
      dsimp only
      rw [hsent]
      dsimp only
      rw [if_pos hwaits]
    · have hexhausted : sent.retries ≥ o.tuning.reliableMaxRetries := by
        have hdue : dueAgain o.tuning now sent = (!waits o.tuning now sent && decide (sent.retries < o.tuning.reliableMaxRetries)) := rfl
        rw [hdue, Bool.eq_false_of_not_eq_true hwaits, Bool.not_false, Bool.true_and, decide_eq_false_iff_not, UInt32.not_lt] at hnot
        exact hnot
      refine ⟨{ tx with sent := tx.sent.erase seq, sentOrder := tx.sentOrder.filter (· ≠ seq) }, ?_, ?_, fun h => absurd h hwaits⟩
      · unfold waits at hwaits
        unfold retransmit
        dsimp only
        rw [hsent]
        dsimp only
        rw [if_neg hwaits, if_pos hexhausted]
      · intro k sent' hk
        by_cases hsame : k = seq
        · rw [hsame, AList.lookup_erase] at hk
          cases hk
        · rwa [AList.lookup_erase_ne hsame] at hk

theorem retransmit_foldl_passes {now : UInt64} (sideId : Int32) {o : Owner} {tx : ReliableTxState} (xs : List UInt32)
    (hnone : ∀ seq ∈ xs, ∀ sent, tx.sent.lookup seq = some sent → dueAgain o.tuning now sent = false) :
    ∃ tx', xs.foldl (retransmit E now sideId) (o, tx) = (o, tx') ∧
      ((∀ seq ∈ xs, ∀ sent, tx.sent.lookup seq = some sent → waits o.tuning now sent = true) → tx' = tx) := by
  induction xs generalizing tx with
  | nil => exact ⟨tx, rfl, fun _ => rfl⟩
  | cons seq xs ih =>
    obtain ⟨tx₁, hround, hsub, hwindow⟩ := retransmit_passes (E := E) sideId (hnone seq List.mem_cons_self)
    have hnone' : ∀ seq' ∈ xs, ∀ sent, tx₁.sent.lookup seq' = some sent → dueAgain o.tuning now sent = false :=
      fun seq' hseq' sent hsent => hnone seq' (List.mem_cons_of_mem seq hseq') sent (hsub seq' sent hsent)
    obtain ⟨tx', hrest, hwindow'⟩ := ih hnone'
    refine ⟨tx', by rw [List.foldl_cons, hround, hrest], fun hwait => ?_⟩
    have hsame := hwindow (hwait seq List.mem_cons_self)
    rw [hsame] at hwindow'
    exact hwindow' fun seq' hseq' => hwait seq' (List.mem_cons_of_mem seq hseq')

/-- A round of the outer loop writes one stream, and a stream of type `ty` as it was. -/
theorem timeoutStream_passes {o : Owner} {now : UInt64} {ty : UInt32} (hnone : o.NoFrameDue now ty) {key : UInt64} {tx : ReliableTxState}
    (hentry : o.reliableTx.lookup key = some tx) (reads : Nat) (windows : Map UInt64 ReliableTxState)
    (hkept : ∀ sideId, windows.lookup (reliableKey sideId ty) = o.reliableTx.lookup (reliableKey sideId ty)) :
    ∃ windows' : Map UInt64 ReliableTxState,
      timeoutStream E now { o with clockReads := reads, reliableTx := windows } key tx = { o with clockReads := reads, reliableTx := windows' } ∧
      ∀ sideId, windows'.lookup (reliableKey sideId ty) = o.reliableTx.lookup (reliableKey sideId ty) := by
  have hat : { o with clockReads := reads, reliableTx := windows }.sideAt (sideOfKey key) = o.sideAt (sideOfKey key) := rfl
  unfold timeoutStream
  unfold sideOfKey at hat
  dsimp only at hat ⊢
  rw [hat]
  cases hside : o.sideAt (key >>> 32).toUInt32.toInt32 with
  | none => exact ⟨windows, rfl, hkept⟩
  | some side =>
    dsimp only
    by_cases hframes : side.serializedTx = true
    · rw [hframes, Bool.not_true, if_neg Bool.false_ne_true]
      have hdue := hnone key tx side hentry hside hframes
      have hnotDue : ∀ seq ∈ tx.sentOrder, ∀ sent, tx.sent.lookup seq = some sent →
          dueAgain { o with clockReads := reads, reliableTx := windows }.tuning now sent = false :=
        fun seq hseq sent hsent => (hdue seq hseq sent hsent).1
      obtain ⟨tx', hloop, hwindow⟩ := retransmit_foldl_passes (E := E) (key >>> 32).toUInt32.toInt32 tx.sentOrder hnotDue
      rw [hloop]
      refine ⟨windows.insert key tx', rfl, fun sideId => ?_⟩
      by_cases hkey : reliableKey sideId ty = key
      · rw [hkey, AList.lookup_insert, hentry, hwindow fun seq hseq sent hsent => (hdue seq hseq sent hsent).2 ⟨sideId, hkey.symm⟩]
      · rw [AList.lookup_insert_ne hkey]
        exact hkept sideId
    · rw [Bool.eq_false_of_not_eq_true hframes, Bool.not_false, if_pos rfl]
      exact ⟨windows, rfl, hkept⟩

/-- **The reliable timeouts**, where no frame goes out again: nothing happens, and the windows for packets of type `ty` stay. -/
theorem doReliableTimeouts_passes {o : Owner} {ty : UInt32} (hnone : o.NoFrameDue (E.clock o.clockReads) ty) :
    ∃ windows : Map UInt64 ReliableTxState, o.doReliableTimeouts E = { o with clockReads := o.clockReads + 1, reliableTx := windows } ∧
      ∀ sideId, windows.lookup (reliableKey sideId ty) = o.reliableTx.lookup (reliableKey sideId ty) := by
  have hloop : ∀ (xs : List ((_ : UInt64) × ReliableTxState)) (windows : Map UInt64 ReliableTxState),
      (∀ e ∈ xs, o.reliableTx.lookup e.1 = some e.2) →
      (∀ sideId, windows.lookup (reliableKey sideId ty) = o.reliableTx.lookup (reliableKey sideId ty)) →
      ∃ windows' : Map UInt64 ReliableTxState,
        xs.foldl (fun p entry => timeoutStream E (E.clock o.clockReads) p entry.1 entry.2)
          { o with clockReads := o.clockReads + 1, reliableTx := windows } =
          { o with clockReads := o.clockReads + 1, reliableTx := windows' } ∧
        ∀ sideId, windows'.lookup (reliableKey sideId ty) = o.reliableTx.lookup (reliableKey sideId ty) := by
    intro xs
    induction xs with
    | nil => exact fun windows _ hkept => ⟨windows, rfl, hkept⟩
    | cons e xs ih =>
      intro windows hentries hkept
      obtain ⟨windows', hround, hkept'⟩ := timeoutStream_passes (E := E) hnone (hentries e List.mem_cons_self) (o.clockReads + 1) windows hkept
      rw [List.foldl_cons, hround]
      exact ih windows' (fun e' he' => hentries e' (List.mem_cons_of_mem e he')) hkept'
  exact hloop o.reliableTx.entries o.reliableTx (fun e he => List.mem_dlookup o.reliableTx.nodupKeys he) fun _ => rfl

/-- A destination is still on the side over which it was expected, at some reading of the clock from here on. -/
def Reaches (E : Env) (o : Owner) (requireLinkLocal : Bool) (hash : UInt64) (sideId : Int32) : Prop :=
  ∃ side route read, o.sideAt sideId = some side ∧ side.egressEnabled = true ∧ (requireLinkLocal = true → side.linkLocalEnabled = true) ∧
    o.discoveryRoutes.lookup sideId = some route ∧ (route.announcers.entries.any fun a => a.2.knows a.1 hash) = true ∧
    o.clockReads ≤ read ∧ E.clock read - route.lastSeenMs ≤ kDiscoveryTtlMs

/-- Looking for a destination reads the clock at most. -/
theorem stillPending_reads (o : Owner) (requireLinkLocal : Bool) (hash : UInt64) (sideId : Int32) :
    ∃ reads, o.clockReads ≤ reads ∧ (o.stillPending E requireLinkLocal hash sideId).2 = { o with clockReads := reads } := by
  unfold stillPending
  split
  · exact ⟨o.clockReads, Nat.le_refl _, rfl⟩
  · split
    · exact ⟨o.clockReads, Nat.le_refl _, rfl⟩
    · split
      · exact ⟨o.clockReads, Nat.le_refl _, rfl⟩
      · exact ⟨o.clockReads + 1, Nat.le_succ _, rfl⟩

theorem stillPending_lost {o : Owner} {requireLinkLocal : Bool} {hash : UInt64} {sideId : Int32}
    (hlost : ¬ Reaches E o requireLinkLocal hash sideId) : (o.stillPending E requireLinkLocal hash sideId).1 = false := by
  apply Bool.eq_false_of_not_eq_true
  intro hstays
  apply hlost
  unfold stillPending at hstays
  cases hside : o.sideAt sideId with
  | none =>
    rw [hside] at hstays
    cases hstays
  | some side =>
    rw [hside] at hstays
    dsimp only at hstays
    split at hstays
    · cases hstays
    · rename_i hopen
      simp only [Bool.or_eq_true, Bool.not_eq_true', Bool.and_eq_true, not_or, not_and, Bool.not_eq_false] at hopen
      cases hroute : o.discoveryRoutes.lookup sideId with
      | none =>
        rw [hroute] at hstays
        cases hstays
      | some route =>
        rw [hroute] at hstays
        dsimp only at hstays
        rw [Bool.and_eq_true, decide_eq_true_eq] at hstays
        exact ⟨side, route, o.clockReads, hside, hopen.1, hopen.2, hroute, hstays.2, Nat.le_refl _, hstays.1⟩

theorem Reaches.earlier {o : Owner} {reads : Nat} (hreads : o.clockReads ≤ reads) {requireLinkLocal : Bool} {hash : UInt64} {sideId : Int32}
    (h : Reaches E { o with clockReads := reads } requireLinkLocal hash sideId) : Reaches E o requireLinkLocal hash sideId := by
  obtain ⟨side, route, read, hside, hegress, hlocal, hroute, hknows, hread, hfresh⟩ := h
  exact ⟨side, route, read, hside, hegress, hlocal, hroute, hknows, hreads.trans hread, hfresh⟩

/-- The loop over the pending destinations reads the clock at most, and where none is reached, none stays. -/
theorem reconcilePendings_passes (requireLinkLocal : Bool) (xs : List ((_ : UInt64) × Int32)) (pending : Map UInt64 Int32) (o : Owner) :
    ∃ reads, o.clockReads ≤ reads ∧ (xs.foldl (reconcilePending E requireLinkLocal) (pending, o)).2 = { o with clockReads := reads } ∧
      ((∀ e ∈ xs, ¬ Reaches E o requireLinkLocal e.1 e.2) →
        (xs.foldl (reconcilePending E requireLinkLocal) (pending, o)).1 = (xs.map (·.1)).foldl (fun m old => m.erase old) pending) := by
  induction xs generalizing pending o with
  | nil => exact ⟨o.clockReads, Nat.le_refl _, rfl, fun _ => rfl⟩
  | cons e xs ih =>
    obtain ⟨reads, hreads, hread⟩ := stillPending_reads (E := E) o requireLinkLocal e.1 e.2
    have hlost : ¬ Reaches E o requireLinkLocal e.1 e.2 → (o.stillPending E requireLinkLocal e.1 e.2).1 = false := stillPending_lost
    rw [List.foldl_cons]
    unfold reconcilePending at ih ⊢
    dsimp only at ih ⊢
    generalize o.stillPending E requireLinkLocal e.1 e.2 = p at hread hlost ⊢
    obtain ⟨stays, o₁⟩ := p
    dsimp only at hread hlost ⊢
    subst hread
    obtain ⟨reads', hreads', hrest, hgone⟩ := ih (if stays = true then pending else pending.erase e.1) { o with clockReads := reads }
    refine ⟨reads', hreads.trans hreads', hrest, fun hnone => ?_⟩
    rw [hgone fun e' he' hreaches => hnone e' (List.mem_cons_of_mem e he') (hreaches.earlier hreads), hlost (hnone e List.mem_cons_self)]
    rfl

end

end Owner

namespace Router

section

variable {S : Schema} {Z : Codec} {E : Env} {r r' : Router}

/-- The packet is due for another retry, and a destination that it waits for is still reached. -/
def Overdue (S : Schema) (E : Env) (o : Owner) (now : UInt64) (sent : EndToEndReliableSent) : Prop :=
  endToEndDue now sent = true ∧ sent.retries < 8 ∧ (sent.trackedDestinations = true →
    ∃ e ∈ sent.pendingDestinations.entries, Reaches E o (S.packetRequiresLinkLocal sent.pkt) e.1 e.2)

/-- A reconciled entry is the entry with fewer destinations. It is gone where none is reached. -/
theorem reconcileEntry_passes (r : Router) (e : (_ : UInt64) × EndToEndReliableSent) :
    ∃ reads entries, r.clockReads ≤ reads ∧
      reconcileEntry S E r e = { r.setOwner { r.toOwner with clockReads := reads } with endToEndReliableTx := entries } ∧
      (∀ id ≠ e.1, entries.lookup id = r.endToEndReliableTx.lookup id) ∧
      (∀ sent', entries.lookup e.1 = some sent' → r.endToEndReliableTx.lookup e.1 = some sent' ∨
        ∃ pending, sent' = { e.2 with pendingDestinations := pending }) ∧
      (e.2.trackedDestinations = true → (∀ d ∈ e.2.pendingDestinations.entries,
        ¬ Reaches E r.toOwner (S.packetRequiresLinkLocal e.2.pkt) d.1 d.2) → entries.lookup e.1 = none) := by
  unfold reconcileEntry
  cases htracked : e.2.trackedDestinations with
  | false =>
    rw [Bool.not_false, if_pos rfl]
    exact ⟨r.clockReads, r.endToEndReliableTx, Nat.le_refl _, rfl, fun _ _ => rfl, fun _ h => .inl h, fun h => Bool.noConfusion h⟩
  | true =>
    rw [Bool.not_true, if_neg Bool.false_ne_true]
    obtain ⟨reads, hreads, howner, hgone⟩ := reconcilePendings_passes (E := E) (S.packetRequiresLinkLocal e.2.pkt)
      e.2.pendingDestinations.entries e.2.pendingDestinations r.toOwner
    dsimp only
    generalize e.2.pendingDestinations.entries.foldl (Owner.reconcilePending E (S.packetRequiresLinkLocal e.2.pkt))
      (e.2.pendingDestinations, r.toOwner) = p at howner hgone ⊢
    obtain ⟨pending, o⟩ := p
    dsimp only at howner hgone ⊢
    subst howner
    refine ⟨reads, _, hreads, rfl, fun id hid => ?_, fun sent' hsent' => ?_, fun _ hnone => ?_⟩
    · split
      · exact AList.lookup_erase_ne hid
      · exact AList.lookup_insert_ne hid
    · split at hsent'
      · rw [AList.lookup_erase] at hsent'
        cases hsent'
      · rw [AList.lookup_insert, Option.some.injEq] at hsent'
        exact .inr ⟨pending, hsent'.symm⟩
    · have hempty : pending.entries.isEmpty = true := by
        rw [List.isEmpty_iff]
        apply List.eq_nil_iff_forall_not_mem.mpr
        intro d hd
        have hlookup := List.mem_dlookup pending.nodupKeys hd
        have hnever : pending.lookup d.1 = none := by
          rw [hgone hnone, Map.lookup_foldl_erase]
          split
          · rfl
          · rename_i hkey
            rw [AList.lookup_eq_none]
            intro hmem
            exact hkey (AList.mem_keys.mp hmem)
        rw [show pending.lookup d.1 = some d.2 from hlookup] at hnever
        cases hnever
      rw [if_pos hempty]
      exact AList.lookup_erase ..

/-- The entry of a packet that waits for destinations none of which is reached. -/
def Lost (S : Schema) (E : Env) (r : Router) (id : UInt64) : Prop :=
  ∃ sent, r.endToEndReliableTx.lookup id = some sent ∧ sent.trackedDestinations = true ∧
    ∀ d ∈ sent.pendingDestinations.entries, ¬ Reaches E r.toOwner (S.packetRequiresLinkLocal sent.pkt) d.1 d.2

/-- What the entries of `r` may have become while they are reconciled. -/
structure Reconciled (S : Schema) (E : Env) (r : Router) (entries : Map UInt64 EndToEndReliableSent) (seen : List UInt64) : Prop where
  narrowed : ∀ id sent', entries.lookup id = some sent' →
    ∃ sent pending, r.endToEndReliableTx.lookup id = some sent ∧ sent' = { sent with pendingDestinations := pending }
  lost : ∀ id ∈ seen, Lost S E r id → entries.lookup id = none

theorem reconcileEntries_passes (r : Router) (xs : List ((_ : UInt64) × EndToEndReliableSent))
    (hentries : ∀ e ∈ xs, r.endToEndReliableTx.lookup e.1 = some e.2) (seen : List UInt64) (reads : Nat)
    (entries : Map UInt64 EndToEndReliableSent) (hreads : r.clockReads ≤ reads) (hreconciled : Reconciled S E r entries seen) :
    ∃ reads' entries', xs.foldl (reconcileEntry S E)
        { r.setOwner { r.toOwner with clockReads := reads } with endToEndReliableTx := entries } =
        { r.setOwner { r.toOwner with clockReads := reads' } with endToEndReliableTx := entries' } ∧
      Reconciled S E r entries' (seen ++ xs.map (·.1)) := by
  induction xs generalizing seen reads entries with
  | nil =>
    rw [List.map_nil, List.append_nil]
    exact ⟨reads, entries, rfl, hreconciled⟩
  | cons e xs ih =>
    obtain ⟨reads₁, entries₁, hreads₁, hround, hothers, hnarrowed, hgone⟩ := reconcileEntry_passes (S := S) (E := E)
      { r.setOwner { r.toOwner with clockReads := reads } with endToEndReliableTx := entries } e
    have hentry := hentries e List.mem_cons_self
    have hstep : Reconciled S E r entries₁ (seen ++ [e.1]) := by
      have hlost : Lost S E r e.1 → entries₁.lookup e.1 = none := by
        rintro ⟨sent, hsent, htracked, hnone⟩
        rw [hentry, Option.some.injEq] at hsent
        subst hsent
        exact hgone htracked fun d hd hreaches => hnone d hd (Reaches.earlier hreads hreaches)
      refine ⟨fun id sent' hsent' => ?_, fun id hid hlostId => ?_⟩
      · by_cases hsame : id = e.1
        · subst hsame
          rcases hnarrowed sent' hsent' with hold | ⟨pending, rfl⟩
          · exact hreconciled.narrowed _ _ hold
          · exact ⟨e.2, pending, hentry, rfl⟩
        · rw [hothers id hsame] at hsent'
          exact hreconciled.narrowed id sent' hsent'
      · by_cases hsame : id = e.1
        · subst hsame
          exact hlost hlostId
        · rw [hothers id hsame]
          rcases List.mem_append.mp hid with hold | hnew
          · exact hreconciled.lost id hold hlostId
          · exact absurd (List.mem_singleton.mp hnew) hsame
    obtain ⟨reads', entries', hrest, hdone⟩ := ih (fun e' he' => hentries e' (List.mem_cons_of_mem e he')) (seen ++ [e.1]) reads₁ entries₁
      (hreads.trans hreads₁) hstep
    refine ⟨reads', entries', ?_, ?_⟩
    · rw [List.foldl_cons, hround]
      exact hrest
    · rw [List.append_assoc] at hdone
      exact hdone

/-- **The end-to-end timeouts**, where no packet is overdue: no packet is queued again. -/
theorem processEndToEndReliableTimeouts_passes (r : Router)
    (hnone : ∀ id sent, r.endToEndReliableTx.lookup id = some sent → ¬ Overdue S E r.toOwner (E.clock r.clockReads) sent) :
    ∃ reads entries, processEndToEndReliableTimeouts S E r =
      { r.setOwner { r.toOwner with clockReads := reads } with endToEndReliableTx := entries } := by
  obtain ⟨reads, entries, hloop, hnarrowed, hlost⟩ := reconcileEntries_passes (S := S) (E := E) r r.endToEndReliableTx.entries
    (fun e he => List.mem_dlookup r.endToEndReliableTx.nodupKeys he) [] (r.clockReads + 1) r.endToEndReliableTx (Nat.le_succ _)
    ⟨fun id sent hsent => ⟨sent, sent.pendingDestinations, hsent, rfl⟩, fun _ h => absurd h List.not_mem_nil⟩
  have hreconciled : reconcileEndToEndReliableDestinations S E (r.setOwner (r.toOwner.nowMs E).2) =
      { r.setOwner { r.toOwner with clockReads := reads } with endToEndReliableTx := entries } := hloop
  have hidle : endToEndRequeued (E.clock r.clockReads) entries = [] := by
    unfold endToEndRequeued
    rw [List.map_eq_nil_iff, List.filter_eq_nil_iff]
    intro e he hdue
    rw [Bool.and_eq_true, Bool.not_eq_true', decide_eq_false_iff_not, ge_iff_le, UInt32.not_le] at hdue
    have hkept : entries.lookup e.1 = some e.2 := List.mem_dlookup entries.nodupKeys he
    obtain ⟨sent, pending, hsent, hsame⟩ := hnarrowed e.1 e.2 hkept
    rw [hsame] at hdue
    -- the entry was due before, so that no destination is reached, and it is gone
    have hgone := hlost e.1
    rw [List.nil_append, hkept] at hgone
    refine hnone e.1 sent hsent ⟨hdue.1, hdue.2, fun htracked => ?_⟩
    by_contra hunreached
    push Not at hunreached
    have hmem : e.1 ∈ r.endToEndReliableTx.entries.map (·.1) := List.mem_map.mpr ⟨⟨e.1, sent⟩, List.of_mem_dlookup hsent, rfl⟩
    cases hgone hmem ⟨sent, hsent, htracked, hunreached⟩
  unfold processEndToEndReliableTimeouts
  dsimp only [Owner.nowMs] at hreconciled ⊢
  rw [hreconciled]
  dsimp only
  rw [hidle]
  exact ⟨reads, _, rfl⟩

/-- **The timeouts**, where nothing is due. -/
theorem timeouts_passes (r : Router) {ty : UInt32} (hframes : r.NoFrameDue (E.clock r.clockReads) ty)
    (hpackets : ∀ id sent, r.endToEndReliableTx.lookup id = some sent → ¬ Overdue S E r.toOwner (E.clock (r.clockReads + 1)) sent) :
    ∃ reads windows entries,
      timeouts S E r = { r.setOwner { r.toOwner with clockReads := reads, reliableTx := windows } with endToEndReliableTx := entries } ∧
      ∀ sideId, windows.lookup (reliableKey sideId ty) = r.reliableTx.lookup (reliableKey sideId ty) := by
  obtain ⟨windows, hframed, hkept⟩ := doReliableTimeouts_passes (E := E) hframes
  have hlater : ∀ id sent, (r.setOwner (r.toOwner.doReliableTimeouts E)).endToEndReliableTx.lookup id = some sent →
      ¬ Overdue S E (r.toOwner.doReliableTimeouts E) (E.clock (r.toOwner.doReliableTimeouts E).clockReads) sent := by
    intro id sent hsent
    rw [hframed]
    rintro ⟨hdue, hretries, hreaches⟩
    refine hpackets id sent hsent ⟨hdue, hretries, fun htracked => ?_⟩
    obtain ⟨e, he, side, route, read, hside, hegress, hlocal, hroute, hknows, hread, hfresh⟩ := hreaches htracked
    exact ⟨e, he, side, route, read, hside, hegress, hlocal, hroute, hknows, (Nat.le_succ _).trans hread, hfresh⟩
  obtain ⟨reads, entries, hpassed⟩ := processEndToEndReliableTimeouts_passes (r.setOwner (r.toOwner.doReliableTimeouts E)) hlater
  refine ⟨reads, windows, entries, ?_, hkept⟩
  unfold timeouts
  rw [hpassed, hframed]
  rfl

/-! ## The two paths -/

/-- The end of `transmit_item`, after local delivery. -/
def transmitTargets (S : Schema) (Z : Codec) (E : Env) (r : Router) (item : TxItem) : Owner :=
  let (sides, o) := r.toOwner.targets S E item (r.preferredSource item.pkt)
  let r := trackEndToEnd S E (r.setOwner o) item.pkt sides
  (Owner.routerTransmitTo S Z E r.deviceIdentifier r.locals item sides false r.toOwner).2

theorem transmitItem_delivered {item : TxItem} {r₁ : Router} (hlocal : deliverLocal S Z E r item = (true, r₁)) :
    (transmitItem S Z E r item).2.toOwner = r₁.transmitTargets S Z E item := by
  unfold transmitItem transmitTargets
  rw [hlocal]
  rfl

theorem trackEndToEnd_twin (r : Router) (pkt : PacketData) (sides : List Int32) (ty : UInt32) :
    Twin ty r.toOwner (r.trackEndToEnd S E pkt sides).toOwner ∧
      (r.trackEndToEnd S E pkt sides).deviceIdentifier = r.deviceIdentifier := by
  unfold trackEndToEnd
  split
  · dsimp only
    split
    · exact ⟨⟨rfl, rfl, rfl, rfl, rfl, fun _ => rfl, fun _ => rfl⟩, rfl⟩
    · exact ⟨⟨rfl, rfl, rfl, rfl, rfl, fun _ => rfl, fun _ => rfl⟩, rfl⟩
  · exact ⟨.refl ty _, rfl⟩

theorem targets_twin (o : Owner) (item : TxItem) (preferred : Option Bytes) (ty : UInt32) :
    Twin ty o (o.targets S E item preferred).2 := by
  unfold targets setPolicyOf
  dsimp only
  cases item.srcSide with
  | none => exact ⟨rfl, rfl, rfl, rfl, rfl, fun _ => rfl, fun _ => rfl⟩
  | some src => exact ⟨rfl, rfl, rfl, rfl, rfl, fun _ => rfl, fun _ => rfl⟩

/-- Up to the loop over the targets nothing is called. -/
theorem transmitTargets_starts (r : Router) (item : TxItem) :
    ∃ o, Twin item.pkt.ty r.toOwner o ∧ Owner.Quiet r.toOwner o ∧ r.transmitTargets S Z E item =
      (routerTransmitTo S Z E r.deviceIdentifier r.locals item (r.targetsOf S E item) false o).2 := by
  have hchosen := targets_twin (S := S) (E := E) r.toOwner item (r.preferredSource item.pkt) item.pkt.ty
  obtain ⟨-, hobs⟩ := targets_alike (S := S) (E := E) r.toOwner item (r.preferredSource item.pkt)
  unfold transmitTargets targetsOf
  generalize r.toOwner.targets S E item (r.preferredSource item.pkt) = p at hchosen hobs ⊢
  obtain ⟨sides, o⟩ := p
  dsimp only at hchosen hobs ⊢
  obtain ⟨hnoted, hdevice⟩ := trackEndToEnd_twin (S := S) (E := E) (r.setOwner o) item.pkt sides item.pkt.ty
  obtain ⟨-, hquiet, hlocals⟩ := trackEndToEnd_alike (S := S) (E := E) (r.setOwner o) item.pkt sides
  refine ⟨_, hchosen.trans hnoted, (Owner.Quiet.of_obs hobs).trans hquiet, ?_⟩
  rw [hdevice, hlocals]
  rfl

/-- The same frames go to the same sides, when the same sides are chosen. -/
theorem transmitTargets_lockstep {item item' : TxItem} (hpkt : item'.pkt = item.pkt) (h : Twin item.pkt.ty r.toOwner r'.toOwner)
    (hlocals : r'.locals = r.locals) (hdevice : r'.deviceIdentifier = r.deviceIdentifier)
    (hsides : r'.targetsOf S E item' = r.targetsOf S E item) :
    Lockstep item.pkt.ty r.toOwner (r.transmitTargets S Z E item) r'.toOwner (r'.transmitTargets S Z E item') := by
  obtain ⟨o, htwin, hquiet, hloop⟩ := transmitTargets_starts (S := S) (Z := Z) (E := E) r item
  obtain ⟨o', htwin', hquiet', hloop'⟩ := transmitTargets_starts (S := S) (Z := Z) (E := E) r' item'
  rw [hpkt] at htwin'
  rw [hloop, hloop', hlocals, hdevice, hsides]
  have hstart : Lockstep item.pkt.ty r.toOwner o r'.toOwner o' := ⟨(htwin.symm.trans h).trans htwin', .of_quiet hquiet hquiet'⟩
  exact hstart.trans (routerTransmitTo_lockstep hpkt (r.targetsOf S E item) false hstart.twin)

/-- Nothing is queued. -/
structure EmptyQueues (o : Owner) : Prop where
  tx : o.txQueue.items = []
  txBytes : o.txQueue.bytes = 0
  rx : o.rxQueue.items = []
  rxBytes : o.rxQueue.bytes = 0

/-- An item that fits into the budget is put into the empty queue, and taken from it again. -/
theorem enqueueTx_empty {o : Owner} (hempty : EmptyQueues o) {item : TxItem} (hfits : item.byteCost ≤ o.memory.maxQueueBudget) :
    ∃ queue peak, o.enqueueTx item = { o with txQueue := queue, peak := peak } ∧ queue.items = [item] ∧ queue.bytes = item.byteCost := by
  unfold enqueueTx enqueueTxAt enqueueBounded
  rw [if_neg (UInt64.not_lt.mpr hfits), hempty.tx, hempty.txBytes]
  exact ⟨_, _, rfl, rfl, UInt64.zero_add _⟩

theorem submitTx_within {o : Owner} {item : TxItem} (hfits : item.byteCost ≤ o.memory.maxQueueBudget) (enforced : Bool) :
    o.submitTx item enforced = (SEDS_OK, if enforced then (o.enqueueTx item).enforceSharedQueueBudget else o.enqueueTx item) := by
  unfold Owner.submitTx
  rw [if_neg (UInt64.not_lt.mpr hfits)]

/-- Nothing is evicted for it. -/
theorem enforce_within {o : Owner} (hwithin : o.rxQueue.bytes + o.txQueue.bytes ≤ o.memory.maxQueueBudget) :
    o.enforceSharedQueueBudget = o := by
  unfold enforceSharedQueueBudget
  cases o.rxQueue.items.length + o.txQueue.items.length with
  | zero => rfl
  | succ rounds =>
    have hleft : o.enforceNext = none := by
      unfold enforceNext
      rw [if_neg (UInt64.not_lt.mpr hwithin)]
    unfold enforceRounds
    rw [hleft]

theorem pop_single {queue : Bounded TxItem} {item : TxItem} (hsingle : queue.items = [item]) :
    ∃ rest, queue.pop TxItem.byteCost = some (item, rest) := by
  unfold Bounded.pop
  rw [hsingle]
  exact ⟨_, rfl⟩

/-- The one round of each drain. -/
theorem logDrain_single (r : Router) {item : TxItem} (hsingle : r.txQueue.items = [item]) :
    ∃ rest, (logDrain S Z E r.txQueue.items.length r).state.obs =
      (transmitItem S Z E (r.setOwner { r.toOwner with txQueue := rest }) item).2.obs := by
  obtain ⟨rest, hpop⟩ := pop_single hsingle
  have hone : r.txQueue.items.length = 0 + 1 := by
    rw [hsingle]
    rfl
  refine ⟨rest, ?_⟩
  rw [hone]
  unfold logDrain transmitFront
  dsimp only
  rw [hpop]
  dsimp only
  split
  · rfl
  · split
    · split
      · exact enqueueTxAt_obs true _ _
      · rfl
    · rfl

theorem txDrain_single (r : Router) {item : TxItem} (hsingle : r.txQueue.items = [item]) :
    ∃ rest, (txDrain S Z E r.txQueue.items.length r).state.obs =
      (transmitItem S Z E (r.setOwner { r.toOwner with txQueue := rest }) item).2.obs := by
  obtain ⟨rest, hpop⟩ := pop_single hsingle
  have hone : r.txQueue.items.length = 0 + 1 := by
    rw [hsingle]
    rfl
  refine ⟨rest, ?_⟩
  rw [hone]
  unfold txDrain transmitFront
  dsimp only
  rw [hpop]
  dsimp only
  split
  · rfl
  · split
    · exact enqueueTxAt_obs true _ _
    · rfl

/-- `p` is `r` with another queue, other windows and other entries, at another time. -/
def Sibling (r p : Router) : Prop := ∃ queue peak reads windows entries calls obs, p = { r.setOwner { r.toOwner with
  txQueue := queue, peak := peak, clockReads := reads, reliableTx := windows, calls := calls, obs := obs } with endToEndReliableTx := entries }

theorem Sibling.constants {p : Router} (h : Sibling r p) :
    p.locals = r.locals ∧ p.deviceIdentifier = r.deviceIdentifier ∧ p.tuning = r.tuning ∧ p.sideTxActive = r.sideTxActive := by
  obtain ⟨_, _, _, _, _, _, _, rfl⟩ := h
  exact ⟨rfl, rfl, rfl, rfl⟩

theorem Sibling.of_calls {p : Router} (h : Sibling r p) {o : Owner} (hcalls : Calls p.toOwner o) : Sibling r (p.setOwner o) := by
  obtain ⟨_, _, _, _, _, _, _, rfl⟩ := h
  obtain ⟨_, _, rfl⟩ := hcalls
  exact ⟨_, _, _, _, _, _, _, rfl⟩

/-- The sides for a packet of the router's own, by the routes that are known at this time. -/
def selectedAt (S : Schema) (r : Router) (pkt : PacketData) (now : UInt64) : List Int32 :=
  (r.toOwner.selectDestinations S r.localPolicy ⟨pkt, none, none, true⟩ (r.preferredSource pkt) now).1

theorem Sibling.targetsOf {p : Router} (h : Sibling r p) (pkt : PacketData) (deliverLocal : Bool) :
    p.targetsOf S E ⟨pkt, none, none, deliverLocal⟩ = r.selectedAt S pkt (E.clock p.clockReads) := by
  obtain ⟨_, _, _, _, _, _, _, rfl⟩ := h
  rfl

/-- Making the packet reads the clock at most. -/
theorem logPacket_reads (r : Router) (ty : UInt32) (data : Bytes) (timestamp : Option UInt64) :
    ∃ reads, (logPacket S E r ty data timestamp).2 = r.setOwner { r.toOwner with clockReads := reads } := by
  cases timestamp with
  | none => exact ⟨r.clockReads + 1, rfl⟩
  | some ts => exact ⟨r.clockReads, rfl⟩

/-- The call can make a packet. -/
def Loggable (S : Schema) (r : Router) (ty : UInt32) (data : Bytes) : Prop :=
  S.validType ty = true ∧ validatePayload S r.tuning ty data.length = true

theorem logBytesEx_loggable {ty : UInt32} {data : Bytes} (hloggable : Loggable S r ty data) (timestamp : Option UInt64) (queue : Bool) :
    logBytesEx S Z E r ty data timestamp queue =
      let made := logPacket S E r ty data timestamp
      let o := if queue then made.2.toOwner
        else dispatchLocalFromPacket S Z E made.2.deviceIdentifier made.2.locals made.1 made.2.toOwner
      ((o.submitTx ⟨made.1, none, none, queue⟩ queue).1, made.2.setOwner (o.submitTx ⟨made.1, none, none, queue⟩ queue).2) := by
  unfold logBytesEx
  rw [hloggable.1, hloggable.2]
  rfl

/-- The packet is sent after the local handlers were called. -/
theorem logBytesNow_sends {ty : UInt32} {data : Bytes} (hloggable : Loggable S r ty data) (timestamp : Option UInt64)
    (hempty : EmptyQueues r.toOwner)
    (hfits : (⟨(logPacket S E r ty data timestamp).1, none, none, false⟩ : TxItem).byteCost ≤ r.memory.maxQueueBudget) (ty' : UInt32) :
    ∃ p, Sibling r p ∧ p.clockReads = (logPacket S E r ty data timestamp).2.clockReads ∧
      Twin ty' (dispatchLocalFromPacket S Z E r.deviceIdentifier r.locals (logPacket S E r ty data timestamp).1
        (logPacket S E r ty data timestamp).2.toOwner) p.toOwner ∧
      p.obs = (dispatchLocalFromPacket S Z E r.deviceIdentifier r.locals (logPacket S E r ty data timestamp).1
        (logPacket S E r ty data timestamp).2.toOwner).obs ∧
      (logBytesNow S Z E r ty data timestamp).state.obs =
        (p.transmitTargets S Z E ⟨(logPacket S E r ty data timestamp).1, none, none, false⟩).obs := by
  obtain ⟨reads, hreads⟩ := logPacket_reads (S := S) (E := E) r ty data timestamp
  unfold logBytesNow
  rw [logBytesEx_loggable hloggable]
  generalize logPacket S E r ty data timestamp = made at hfits hreads ⊢
  obtain ⟨pkt, r₁⟩ := made
  dsimp only at hfits hreads ⊢
  subst hreads
  rw [if_neg Bool.false_ne_true]
  have hdispatched := dispatchLocalFromPacket_calls S Z E r.deviceIdentifier r.locals pkt (r.setOwner { r.toOwner with clockReads := reads }).toOwner
  have hsame : dispatchLocalFromPacket S Z E (r.setOwner { r.toOwner with clockReads := reads }).deviceIdentifier
      (r.setOwner { r.toOwner with clockReads := reads }).locals pkt (r.setOwner { r.toOwner with clockReads := reads }).toOwner =
      dispatchLocalFromPacket S Z E r.deviceIdentifier r.locals pkt (r.setOwner { r.toOwner with clockReads := reads }).toOwner := rfl
  rw [hsame]
  generalize dispatchLocalFromPacket S Z E r.deviceIdentifier r.locals pkt (r.setOwner { r.toOwner with clockReads := reads }).toOwner = o₁
    at hdispatched ⊢
  have hcalls : Calls { r.toOwner with clockReads := reads } o₁ := hdispatched
  obtain ⟨calls, obs, rfl⟩ := hcalls
  obtain ⟨queue, peak, hqueued, hitems, -⟩ := enqueueTx_empty (o := { r.toOwner with clockReads := reads, calls := calls, obs := obs })
    ⟨hempty.tx, hempty.txBytes, hempty.rx, hempty.rxBytes⟩ hfits
  unfold Owner.submitTx
  rw [if_neg (UInt64.not_lt.mpr hfits), if_neg Bool.false_ne_true, hqueued]
  dsimp only
  rw [if_pos rfl]
  obtain ⟨rest, hdone⟩ := logDrain_single (S := S) (Z := Z) (E := E)
    (r.setOwner { r.toOwner with clockReads := reads, calls := calls, obs := obs, txQueue := queue, peak := peak }) hitems
  refine ⟨r.setOwner { r.toOwner with clockReads := reads, calls := calls, obs := obs, txQueue := rest, peak := peak },
    ⟨_, _, _, _, _, _, _, rfl⟩, rfl, ⟨rfl, rfl, rfl, rfl, rfl, fun _ => rfl, fun _ => rfl⟩, rfl, ?_⟩
  refine Eq.trans hdone ?_
  exact congrArg Owner.obs (transmitItem_delivered (S := S) (Z := Z) (E := E) rfl)

/-- While the packet waits in the queue of `r`, nothing else becomes due that the drain would send, and the sides for the packet are
    the ones that were selected before the drain. -/
structure Undisturbed (S : Schema) (E : Env) (r : Router) (pkt : PacketData) : Prop where
  frames : r.NoFrameDue (E.clock r.clockReads) pkt.ty
  packets : ∀ id sent, r.endToEndReliableTx.lookup id = some sent → ¬ Overdue S E r.toOwner (E.clock (r.clockReads + 1)) sent
  sides : r.selectedAt S pkt (E.clock (timeouts S E r).clockReads) = r.selectedAt S pkt (E.clock r.clockReads)

/-- The queued packet is sent as if it had just been queued. -/
theorem drainTxQueue_sends {ty : UInt32} {data : Bytes} (hloggable : Loggable S r ty data) (timestamp : Option UInt64)
    (hempty : EmptyQueues r.toOwner)
    (hfits : (⟨(logPacket S E r ty data timestamp).1, none, none, true⟩ : TxItem).byteCost ≤ r.memory.maxQueueBudget)
    (hnothing : (logBytesEx S Z E r ty data timestamp true).2.Undisturbed S E (logPacket S E r ty data timestamp).1) :
    ∃ p, Sibling r p ∧ Twin (logPacket S E r ty data timestamp).1.ty (logPacket S E r ty data timestamp).2.toOwner p.toOwner ∧
      p.obs = r.obs ∧
      r.selectedAt S (logPacket S E r ty data timestamp).1 (E.clock p.clockReads) =
        r.selectedAt S (logPacket S E r ty data timestamp).1 (E.clock (logPacket S E r ty data timestamp).2.clockReads) ∧
      (drainTxQueue S Z E (logBytesEx S Z E r ty data timestamp true).2).state.obs =
        (transmitItem S Z E p ⟨(logPacket S E r ty data timestamp).1, none, none, true⟩).2.obs := by
  obtain ⟨reads, hreads⟩ := logPacket_reads (S := S) (E := E) r ty data timestamp
  rw [logBytesEx_loggable hloggable] at hnothing ⊢
  generalize logPacket S E r ty data timestamp = made at hfits hreads hnothing ⊢
  obtain ⟨pkt, r₁⟩ := made
  dsimp only at hfits hreads hnothing ⊢
  subst hreads
  rw [if_pos rfl] at hnothing ⊢
  obtain ⟨queue, peak, hqueued, hitems, hbytes⟩ := enqueueTx_empty (o := (r.setOwner { r.toOwner with clockReads := reads }).toOwner)
    ⟨hempty.tx, hempty.txBytes, hempty.rx, hempty.rxBytes⟩ hfits
  have hkept : ((r.setOwner { r.toOwner with clockReads := reads }).toOwner.enqueueTx ⟨pkt, none, none, true⟩).enforceSharedQueueBudget =
      { r.toOwner with clockReads := reads, txQueue := queue, peak := peak } := by
    rw [hqueued]
    apply enforce_within
    show r.rxQueue.bytes + queue.bytes ≤ r.memory.maxQueueBudget
    rw [hempty.rxBytes, hbytes, UInt64.zero_add]
    exact hfits
  have hsubmitted : ((r.setOwner { r.toOwner with clockReads := reads }).toOwner.submitTx ⟨pkt, none, none, true⟩ true).2 =
      { r.toOwner with clockReads := reads, txQueue := queue, peak := peak } := by
    rw [submitTx_within (o := (r.setOwner { r.toOwner with clockReads := reads }).toOwner) hfits true]
    exact hkept
  rw [hsubmitted] at hnothing ⊢
  obtain ⟨hframes, hpackets, hsides⟩ := hnothing
  obtain ⟨reads', windows, entries, hpassed, hwindows⟩ := timeouts_passes (S := S) (E := E) _ hframes hpackets
  unfold drainTxQueue
  rw [hpassed] at hsides ⊢
  obtain ⟨rest, hdone⟩ := txDrain_single (S := S) (Z := Z) (E := E) { r.setOwner { r.toOwner with
    txQueue := queue, peak := peak, clockReads := reads', reliableTx := windows } with endToEndReliableTx := entries } hitems
  refine ⟨{ r.setOwner { r.toOwner with txQueue := rest, peak := peak, clockReads := reads', reliableTx := windows } with
    endToEndReliableTx := entries }, ⟨_, _, _, _, _, _, _, rfl⟩, ⟨rfl, rfl, rfl, rfl, rfl, fun sideId => ?_, fun sideId => ?_⟩, rfl, hsides, hdone⟩
  · unfold txState
    exact congrArg (fun tx : Option ReliableTxState => (tx.getD .new).nextSeq) (hwindows sideId)
  · unfold txState
    exact congrArg (fun tx : Option ReliableTxState => (tx.getD .new).sent.keys) (hwindows sideId)

/-- Nothing is called for the targets exactly when they are passed over. -/
theorem transmitTargets_quiet (r : Router) (item : TxItem) (hactive : r.sideTxActive = false) :
    Owner.Quiet r.toOwner (r.transmitTargets S Z E item) ↔
      ∀ sideId ∈ r.targetsOf S E item, PassesOver S r.toOwner r.locals item.pkt sideId := by
  obtain ⟨o, htwin, hquiet, hloop⟩ := transmitTargets_starts (S := S) (Z := Z) (E := E) r item
  have hrest := routerTransmitTo_quiet (S := S) (Z := Z) (E := E) r.deviceIdentifier r.locals item (r.targetsOf S E item) false o (htwin.active.trans hactive)
  have hemits := routerTransmitTo_anything (S := S) (Z := Z) (E := E) r.deviceIdentifier r.locals item (r.targetsOf S E item) false o
  rw [hloop]
  constructor
  · intro hwhole sideId hmem
    exact (hrest.mp (hwhole.parts hquiet.prefix_obs hemits.prefix_obs).2 sideId hmem).twin htwin.symm
  · intro hall
    exact hquiet.trans (hrest.mpr fun sideId hmem => (hall sideId hmem).twin htwin)

theorem transmitTargets_adds (r : Router) (item : TxItem) : Adds Obs.ForHandlersOrSides r.toOwner (r.transmitTargets S Z E item) := by
  obtain ⟨o, -, hquiet, hloop⟩ := transmitTargets_starts (S := S) (Z := Z) (E := E) r item
  have hnobody : Adds Obs.ForHandlersOrSides r.toOwner o := by
    refine Adds.mono ?_ (show Adds (fun e => e.isCall = false) r.toOwner o from hquiet)
    intro e he hcall
    rw [he] at hcall
    cases hcall
  rw [hloop]
  exact hnobody.trans (routerTransmitTo_adds item _ false o)

/-- What the two paths need to do the same. A packet that does not fit into the queue must not have a handler. One that fits must be
    accepted by the packet handlers, or there must be nothing to do after them: no serialized handler, and no side that would be
    called. -/
def LogsAlike (S : Schema) (E : Env) (r : Router) (pkt : PacketData) (now : UInt64) : Prop :=
  if (⟨pkt, none, none, true⟩ : TxItem).byteCost ≤ r.memory.maxQueueBudget then
    r.HandlersAccept E pkt ∨
      (∀ l ∈ r.locals, pkt.endpoints.contains l.endpoint = true → l.serializedHandler = false) ∧
        ∀ sideId ∈ r.selectedAt S pkt now, PassesOver S r.toOwner r.locals pkt sideId
  else Unheard r.toOwner r.locals pkt.endpoints

/-- The drain of an empty queue, where nothing is due. -/
theorem drainTxQueue_idle {ty : UInt32} (hitems : r.txQueue.items = []) (hframes : r.NoFrameDue (E.clock r.clockReads) ty)
    (hpackets : ∀ id sent, r.endToEndReliableTx.lookup id = some sent → ¬ Overdue S E r.toOwner (E.clock (r.clockReads + 1)) sent) :
    (drainTxQueue S Z E r).state.obs = r.obs := by
  obtain ⟨reads, windows, entries, hpassed, -⟩ := timeouts_passes (S := S) (E := E) r hframes hpackets
  unfold drainTxQueue
  rw [hpassed]
  dsimp only
  rw [show (r.setOwner { r.toOwner with clockReads := reads, reliableTx := windows }).txQueue.items = [] from hitems]
  rfl

/-- A packet that the packet handlers accept. -/
theorem transmitItem_accepted {p : Router} {pkt : PacketData} (hretries : p.tuning.maxHandlerRetries ≠ 0) (haccepts : p.HandlersAccept E pkt) :
    (transmitItem S Z E p ⟨pkt, none, none, true⟩).2.toOwner =
      (p.setOwner (dispatchLocalFromPacket S Z E p.deviceIdentifier p.locals pkt p.toOwner)).transmitTargets S Z E ⟨pkt, none, none, true⟩ := by
  apply transmitItem_delivered
  have hok := (dispatchLocalPacketHandlers_ok S E p.deviceIdentifier p.locals pkt (o := p.toOwner) hretries).mpr haccepts
  unfold deliverLocal dispatchLocalFromPacket
  generalize dispatchLocalPacketHandlers S E p.deviceIdentifier p.locals pkt p.toOwner = result at hok ⊢
  obtain ⟨rc, o⟩ := result
  dsimp only at hok ⊢
  rw [if_pos rfl, if_neg (not_not_intro hok)]

theorem transmitItem_refused {p : Router} {pkt : PacketData} (hretries : p.tuning.maxHandlerRetries ≠ 0) (hrefuses : ¬ p.HandlersAccept E pkt) :
    (transmitItem S Z E p ⟨pkt, none, none, true⟩).2.toOwner =
      (dispatchLocalPacketHandlers S E p.deviceIdentifier p.locals pkt p.toOwner).2 := by
  have hrefused := mt (dispatchLocalPacketHandlers_ok S E p.deviceIdentifier p.locals pkt (o := p.toOwner) hretries).mp hrefuses
  unfold transmitItem deliverLocal
  generalize dispatchLocalPacketHandlers S E p.deviceIdentifier p.locals pkt p.toOwner = result at hrefused ⊢
  obtain ⟨rc, o⟩ := result
  dsimp only at hrefused ⊢
  rw [if_pos rfl, if_pos hrefused]
  rfl

/-! ### What comes of the two paths -/

/-- A call that cannot make a packet. -/
theorem logBytes_unloggable {ty : UInt32} {data : Bytes} (hnot : ¬ Loggable S r ty data) (timestamp : Option UInt64)
    (hempty : EmptyQueues r.toOwner) {pkt : PacketData} (hnothing : (logBytesEx S Z E r ty data timestamp true).2.Undisturbed S E pkt) :
    SameOutput r.toOwner (logBytesNow S Z E r ty data timestamp).state.toOwner
      (drainTxQueue S Z E (logBytesEx S Z E r ty data timestamp true).2).state.toOwner := by
  have hrefused : ∀ queue, logBytesEx S Z E r ty data timestamp queue = (SEDS_SIZE_MISMATCH, r) := by
    intro queue
    unfold logBytesEx
    unfold Loggable at hnot
    rw [if_pos (by
      rw [Bool.or_eq_true, Bool.not_eq_true', Bool.not_eq_true', ← Bool.not_eq_true, ← Bool.not_eq_true]
      exact not_and_or.mp hnot)]
  rw [hrefused] at hnothing ⊢
  have hdrained := drainTxQueue_idle (S := S) (Z := Z) (E := E) hempty.tx hnothing.frames hnothing.packets
  have hnow : (logBytesNow S Z E r ty data timestamp).state = r := by
    unfold logBytesNow
    rw [hrefused]
    rfl
  rw [hnow]
  exact ⟨[], [], (List.append_nil _).symm, by rw [hdrained, List.append_nil], rfl, rfl⟩

/-- A packet that does not fit into the queue has been shown to the handlers at once, and is not queued. -/
theorem logBytes_tooLarge {ty : UInt32} {data : Bytes} (hloggable : Loggable S r ty data)
    (timestamp : Option UInt64) (hempty : EmptyQueues r.toOwner)
    (hlarge : ¬ (⟨(logPacket S E r ty data timestamp).1, none, none, true⟩ : TxItem).byteCost ≤ r.memory.maxQueueBudget)
    (hnothing : (logBytesEx S Z E r ty data timestamp true).2.Undisturbed S E (logPacket S E r ty data timestamp).1) :
    SameOutput r.toOwner (logBytesNow S Z E r ty data timestamp).state.toOwner
        (drainTxQueue S Z E (logBytesEx S Z E r ty data timestamp true).2).state.toOwner ↔
      Unheard r.toOwner r.locals (logPacket S E r ty data timestamp).1.endpoints := by
  obtain ⟨reads, hreads⟩ := logPacket_reads (S := S) (E := E) r ty data timestamp
  unfold logBytesNow
  rw [logBytesEx_loggable hloggable] at hnothing
  rw [logBytesEx_loggable hloggable, logBytesEx_loggable hloggable]
  generalize logPacket S E r ty data timestamp = made at hlarge hreads hnothing ⊢
  obtain ⟨pkt, r₁⟩ := made
  dsimp only at hlarge hreads hnothing ⊢
  subst hreads
  have hrefused : ∀ (o : Owner) (deliverLocal enforced : Bool), o.memory = r.memory →
      o.submitTx ⟨pkt, none, none, deliverLocal⟩ enforced = (SEDS_PACKET_TOO_LARGE, o) := by
    intro o deliverLocal enforced hmemory
    unfold Owner.submitTx
    rw [hmemory]
    exact if_pos (UInt64.not_le.mp hlarge)
  have hcalls := dispatchLocalFromPacket_calls S Z E r.deviceIdentifier r.locals pkt (r.setOwner { r.toOwner with clockReads := reads }).toOwner
  have hmemory : (dispatchLocalFromPacket S Z E r.deviceIdentifier r.locals pkt
      (r.setOwner { r.toOwner with clockReads := reads }).toOwner).memory = r.memory := by
    obtain ⟨_, _, hdispatched⟩ := hcalls
    rw [hdispatched]
    rfl
  have hsame : dispatchLocalFromPacket S Z E (r.setOwner { r.toOwner with clockReads := reads }).deviceIdentifier
      (r.setOwner { r.toOwner with clockReads := reads }).locals pkt (r.setOwner { r.toOwner with clockReads := reads }).toOwner =
      dispatchLocalFromPacket S Z E r.deviceIdentifier r.locals pkt (r.setOwner { r.toOwner with clockReads := reads }).toOwner := rfl
  have hqueue := hrefused (r.setOwner { r.toOwner with clockReads := reads }).toOwner true true rfl
  rw [if_pos rfl, hqueue] at hnothing
  rw [if_pos rfl, hqueue, if_neg Bool.false_ne_true, hsame, hrefused _ false false hmemory]
  dsimp only
  rw [if_neg (by decide)]
  have hdrained := drainTxQueue_idle (S := S) (Z := Z) (E := E) (r := r.setOwner { r.toOwner with clockReads := reads }) hempty.tx
    hnothing.frames hnothing.packets
  have hquiet := (dispatchLocalFromPacket_quiet (S := S) (Z := Z) (E := E) r.deviceIdentifier r.locals pkt
    (r.setOwner { r.toOwner with clockReads := reads }).toOwner).1
  have hstart : Echo r.toOwner (r.setOwner { r.toOwner with clockReads := reads }).toOwner r.toOwner
      (drainTxQueue S Z E (r.setOwner { r.toOwner with clockReads := reads })).state.toOwner := .of_quiet (.of_obs rfl) (.of_obs hdrained)
  exact (hstart.sameOutput_iff (dispatchLocalFromPacket_adds (fun _ _ _ => .inl rfl) (fun _ _ _ => .inl rfl) pkt _)).trans hquiet

/-- A packet that fits. -/
theorem logBytes_within (hvalid : r.tuning.valid = true) (hactive : r.sideTxActive = false) {ty : UInt32} {data : Bytes}
    (hloggable : Loggable S r ty data) (timestamp : Option UInt64) (hempty : EmptyQueues r.toOwner)
    (hfits : (⟨(logPacket S E r ty data timestamp).1, none, none, true⟩ : TxItem).byteCost ≤ r.memory.maxQueueBudget)
    (hnothing : (logBytesEx S Z E r ty data timestamp true).2.Undisturbed S E (logPacket S E r ty data timestamp).1) :
    SameOutput r.toOwner (logBytesNow S Z E r ty data timestamp).state.toOwner
        (drainTxQueue S Z E (logBytesEx S Z E r ty data timestamp true).2).state.toOwner ↔
      r.HandlersAccept E (logPacket S E r ty data timestamp).1 ∨
        (∀ l ∈ r.locals, (logPacket S E r ty data timestamp).1.endpoints.contains l.endpoint = true → l.serializedHandler = false) ∧
          ∀ sideId ∈ r.selectedAt S (logPacket S E r ty data timestamp).1 (E.clock (logPacket S E r ty data timestamp).2.clockReads),
            PassesOver S r.toOwner r.locals (logPacket S E r ty data timestamp).1 sideId := by
  have htries := Tuning.tries_of_valid hvalid
  obtain ⟨reads, hreads⟩ := logPacket_reads (S := S) (E := E) r ty data timestamp
  obtain ⟨p₀, hsibling₀, hclock₀, htwin₀, hobs₀, hnow⟩ := logBytesNow_sends (S := S) (Z := Z) (E := E) hloggable timestamp hempty hfits
    (logPacket S E r ty data timestamp).1.ty
  obtain ⟨p, hsibling, htwin, hobs, hselected, hlater⟩ := drainTxQueue_sends hloggable timestamp hempty hfits hnothing
  generalize (logBytesNow S Z E r ty data timestamp).state = now at hnow ⊢
  generalize (drainTxQueue S Z E (logBytesEx S Z E r ty data timestamp true).2).state = later at hlater ⊢
  clear hnothing
  generalize logPacket S E r ty data timestamp = made at hfits hreads hclock₀ htwin₀ hobs₀ hnow htwin hobs hselected hlater ⊢
  obtain ⟨pkt, r₁⟩ := made
  dsimp only at hfits hreads hclock₀ htwin₀ hobs₀ hnow htwin hobs hselected hlater ⊢
  have hreadsOf : Twin pkt.ty r.toOwner r₁.toOwner := by
    rw [hreads]
    exact ⟨rfl, rfl, rfl, rfl, rfl, fun _ => rfl, fun _ => rfl⟩
  have hobs₁ : r₁.obs = r.obs := by
    rw [hreads]
    rfl
  obtain ⟨hlocals, hdevice, htuning, -⟩ := hsibling.constants
  obtain ⟨hlocals₀, hdevice₀, -, hactive₀⟩ := hsibling₀.constants
  have hchosen : p₀.targetsOf S E ⟨pkt, none, none, false⟩ = r.selectedAt S pkt (E.clock r₁.clockReads) := by
    rw [hsibling₀.targetsOf, hclock₀]
  have hpossible : p.HandlersAccept E pkt ↔ r.HandlersAccept E pkt := by
    unfold HandlersAccept
    rw [htuning, hlocals, htwin.calls, hreadsOf.calls]
  have hstart : Echo r.toOwner r₁.toOwner r.toOwner p.toOwner := .of_quiet (.of_obs hobs₁) (.of_obs hobs)
  by_cases haccepts : r.HandlersAccept E pkt
  · -- both paths show the packet to all its handlers, and then give it to the same sides
    refine ⟨fun _ => .inl haccepts, fun _ => ?_⟩
    rw [transmitItem_accepted (htuning ▸ htries) (hpossible.mpr haccepts), hlocals, hdevice] at hlater
    have hdispatched := dispatchLocalFromPacket_lockstep (S := S) (Z := Z) (E := E) r.deviceIdentifier r.locals pkt htwin
    have hcalls := dispatchLocalFromPacket_calls S Z E r.deviceIdentifier r.locals pkt p.toOwner
    have hsibling' := hsibling.of_calls hcalls
    generalize dispatchLocalFromPacket S Z E r.deviceIdentifier r.locals pkt r₁.toOwner = o₁ at htwin₀ hobs₀ hdispatched
    generalize dispatchLocalFromPacket S Z E r.deviceIdentifier r.locals pkt p.toOwner = o₂ at hlater hdispatched hcalls hsibling'
    have hsides : (p.setOwner o₂).targetsOf S E ⟨pkt, none, none, true⟩ = p₀.targetsOf S E ⟨pkt, none, none, false⟩ := by
      have hclock : (p.setOwner o₂).clockReads = p.clockReads := by
        obtain ⟨_, _, rfl⟩ := hcalls
        rfl
      rw [hsibling'.targetsOf, hclock, hchosen, hselected]
    have hequal : Twin pkt.ty p₀.toOwner (p.setOwner o₂).toOwner := htwin₀.symm.trans hdispatched.twin
    have hsent : Lockstep pkt.ty p₀.toOwner (p₀.transmitTargets S Z E ⟨pkt, none, none, false⟩) o₂
        ((p.setOwner o₂).transmitTargets S Z E ⟨pkt, none, none, true⟩) :=
      @transmitTargets_lockstep S Z E p₀ (p.setOwner o₂) ⟨pkt, none, none, false⟩ ⟨pkt, none, none, true⟩ rfl hequal
        (hlocals.trans hlocals₀.symm) (hdevice.trans hdevice₀.symm) hsides
    have hqueued : Echo o₁ p₀.toOwner o₂ o₂ := .of_quiet (.of_obs hobs₀) (.refl o₂)
    have hended : Echo (p₀.transmitTargets S Z E ⟨pkt, none, none, false⟩) now.toOwner
        ((p.setOwner o₂).transmitTargets S Z E ⟨pkt, none, none, true⟩) later.toOwner := .of_quiet (.of_obs hnow) (.of_obs hlater)
    exact ((((hstart.trans hdispatched.echo).trans hqueued).trans hsent.echo).trans hended).sameOutput
  · -- the later path ends with the packet handlers, so that the other must have nothing left to do
    rw [or_iff_right haccepts]
    rw [transmitItem_refused (htuning ▸ htries) (mt hpossible.mp haccepts), hlocals, hdevice] at hlater
    obtain ⟨-, hdispatched⟩ := dispatchLocalPacketHandlers_lockstep (S := S) (E := E) r.deviceIdentifier r.locals pkt htwin
    have hcalls := dispatchLocalFromPacket_calls S Z E r.deviceIdentifier r.locals pkt r₁.toOwner
    have hframes := dispatchLocalSerializedHandlers_quiet (E := E) r.locals pkt.endpoints (serializePacket S Z pkt)
      (dispatchLocalPacketHandlers S E r.deviceIdentifier r.locals pkt r₁.toOwner).2
    have hsplit : dispatchLocalFromPacket S Z E r.deviceIdentifier r.locals pkt r₁.toOwner =
        dispatchLocalSerializedHandlers E r.locals pkt.endpoints (serializePacket S Z pkt)
          (dispatchLocalPacketHandlers S E r.deviceIdentifier r.locals pkt r₁.toOwner).2 := rfl
    have hshown : Adds Obs.ForHandlersOrSides (dispatchLocalPacketHandlers S E r.deviceIdentifier r.locals pkt r₁.toOwner).2
        (dispatchLocalFromPacket S Z E r.deviceIdentifier r.locals pkt r₁.toOwner) :=
      dispatchLocalSerializedHandlers_adds E r.locals pkt.endpoints (serializePacket S Z pkt) (fun _ _ => .inl rfl) _
    rw [← hsplit] at hframes
    generalize (dispatchLocalPacketHandlers S E r.deviceIdentifier r.locals pkt r₁.toOwner).2 = m at hdispatched hframes hshown
    generalize (dispatchLocalPacketHandlers S E r.deviceIdentifier r.locals pkt p.toOwner).2 = m' at hlater hdispatched
    generalize dispatchLocalFromPacket S Z E r.deviceIdentifier r.locals pkt r₁.toOwner = o₁ at htwin₀ hobs₀ hcalls hframes hshown
    have hcommon : Echo r.toOwner m r.toOwner later.toOwner :=
      (hstart.trans hdispatched.echo).trans (.of_quiet (.refl m) (.of_obs hlater))
    have hsent := transmitTargets_adds (S := S) (Z := Z) (E := E) p₀ ⟨pkt, none, none, false⟩
    have hsilent := transmitTargets_quiet (S := S) (Z := Z) (E := E) p₀ ⟨pkt, none, none, false⟩ (hactive₀.trans hactive)
    generalize p₀.transmitTargets S Z E ⟨pkt, none, none, false⟩ = o₂ at hnow hsent hsilent
    have hafter : Adds Obs.ForHandlersOrSides o₁ now.toOwner := ((Adds.of_obs hobs₀).trans hsent).trans (.of_obs hnow)
    have hafterQuiet : Owner.Quiet o₁ now.toOwner ↔ Owner.Quiet p₀.toOwner o₂ := by
      unfold Owner.Quiet
      rw [hobs₀, hnow]
    have hpassed : ∀ sideId, PassesOver S r.toOwner r.locals pkt sideId ↔ PassesOver S p₀.toOwner r.locals pkt sideId := by
      intro sideId
      have hlike := Alike.of_calls hcalls
      exact ⟨fun h => ((h.twin hreadsOf).congr hlike).twin htwin₀, fun h => ((h.twin htwin₀.symm).congr hlike.symm).twin hreadsOf.symm⟩
    rw [hcommon.sameOutput_iff (hshown.trans hafter)]
    have hquiet : Owner.Quiet m now.toOwner ↔ Owner.Quiet m o₁ ∧ Owner.Quiet o₁ now.toOwner :=
      ⟨fun h => h.parts hshown.prefix_obs hafter.prefix_obs, fun h => h.1.trans h.2⟩
    rw [hquiet, hframes.1, hafterQuiet, hsilent, hchosen, hlocals₀]
    refine and_congr ?_ (forall₂_congr fun sideId _ => (hpassed sideId).symm)
    refine forall₂_congr fun l _ => ?_
    cases pkt.endpoints.contains l.endpoint with
    | false => exact ⟨fun _ h => Bool.noConfusion h, fun _ => rfl⟩
    | true => exact ⟨fun h _ => h, fun h => h rfl⟩

end

end Router

end SedsNet
