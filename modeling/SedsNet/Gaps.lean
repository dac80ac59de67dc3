import SedsNet.Window

/-!
# What a call leaves behind when it fails

Two calls of the reliable layer commit themselves before they know that they can keep the promise. `send_serialized_with_reliable`
gives the next number of the stream to a frame, and then offers the frame to the callback of the side: when the callback does
not take it, the number is gone. `process_reliable_ingress` reports a frame above the expected one as received, also when the
reorder buffer has no room for it.

Both conditions are exact: `sendSerializedWithReliable_noGap_iff`, `processReliableIngress_keepsReported_iff`.
-/

set_option autoImplicit false

namespace SedsNet

namespace Owner

/-! ## A send that fails -/

/-- The side has a serialized callback, and numbers the frames of reliable types. -/
def numbersFrames (o : Owner) (sideId : Int32) : Bool :=
  match o.sideAt sideId with
  | none => false
  | some side => side.serializedTx && side.reliableEnabled

/-- The send gets past the window, and has a number for its frame. -/
def GivesNumber (S : Schema) (o : Owner) (sideId : Int32) (ty : UInt32) : Prop :=
  o.numbersFrames sideId = true ∧ S.isReliableType ty = true ∧
    (o.txState sideId ty).sent.entries.length < o.tuning.reliableMaxPending

/-- The callback takes the frame it is called with next, and is not called from inside another transmission. -/
def CallbackTakes (E : Env) (o : Owner) : Prop := o.sideTxActive = false ∧ E.callback o.calls = SEDS_OK

section

variable {S : Schema} {Z : Codec} {E : Env} {o : Owner}

theorem callSerializedTx_ok_iff (sideId : Int32) (bytes : Bytes) :
    (o.callSerializedTx E sideId bytes).1 = SEDS_OK ↔ CallbackTakes E o := by
  unfold callSerializedTx CallbackTakes
  cases o.sideTxActive with
  | true =>
    refine ⟨fun h => ?_, fun h => nomatch h.1⟩
    have hio : SEDS_IO = SEDS_OK := h
    exact absurd hio (by decide)
  | false => exact ⟨fun h => ⟨rfl, h⟩, And.right⟩

theorem txState_setTxState (sideId : Int32) (ty : UInt32) (tx : ReliableTxState) : (o.setTxState sideId ty tx).txState sideId ty = tx := by
  unfold txState setTxState
  dsimp only
  rw [AList.lookup_insert]
  rfl

/-- The streams do not change while a callback is called or the clock is read. -/
theorem txState_congr {o' : Owner} (h : o'.reliableTx = o.reliableTx) (sideId : Int32) (ty : UInt32) :
    o'.txState sideId ty = o.txState sideId ty := by
  unfold txState
  rw [h]

/-- A send without a number leaves the stream as it is. -/
theorem sendSerializedWithReliable_unnumbered {sideId : Int32} {pkt : PacketData} (h : ¬ GivesNumber S o sideId pkt.ty) :
    (o.sendSerializedWithReliable S Z E sideId pkt).2.txState sideId pkt.ty = o.txState sideId pkt.ty := by
  unfold GivesNumber numbersFrames at h
  unfold sendSerializedWithReliable
  cases hside : o.sideAt sideId with
  | none => rfl
  | some side =>
    rw [hside] at h
    dsimp only at h ⊢
    split
    · rfl
    · rename_i htx
      split
      · exact txState_congr (callSerializedTx_reliableTx o sideId _) sideId pkt.ty
      · rename_i hrel
        split
        · exact txState_setTxState sideId pkt.ty _
        · rename_i hroom
          simp at htx hrel hroom
          exact absurd ⟨by simp [htx, hrel.1], hrel.2, hroom⟩ h

/-- A send with a number uses it up. The frame waits for its ACK if the callback takes it. -/
theorem sendSerializedWithReliable_numbered {sideId : Int32} {pkt : PacketData} (h : GivesNumber S o sideId pkt.ty) :
    let tx := o.txState sideId pkt.ty
    (¬ CallbackTakes E o ∧ (o.sendSerializedWithReliable S Z E sideId pkt).1 ≠ SEDS_OK ∧
      (o.sendSerializedWithReliable S Z E sideId pkt).2.txState sideId pkt.ty = { tx with nextSeq := nextSeq tx.nextSeq }) ∨
    ∃ sent, sent.retries = 0 ∧ sent.partialAcked = false ∧
      CallbackTakes E o ∧ (o.sendSerializedWithReliable S Z E sideId pkt).1 = SEDS_OK ∧
      (o.sendSerializedWithReliable S Z E sideId pkt).2.txState sideId pkt.ty =
        { nextSeq := nextSeq tx.nextSeq, sentOrder := tx.sentOrder ++ [tx.nextSeq], sent := tx.sent.emplace tx.nextSeq sent } := by
  obtain ⟨hside, hty, hroom⟩ := h
  unfold numbersFrames at hside
  unfold sendSerializedWithReliable
  cases hat : o.sideAt sideId with
  | none =>
    rw [hat] at hside
    cases hside
  | some side =>
    rw [hat] at hside
    simp only [Bool.and_eq_true] at hside
    simp only [hside.1, hside.2, hty, Bool.not_true, Bool.false_eq_true, if_false, Bool.or_self]
    rw [if_neg (Nat.not_le.mpr hroom)]
    generalize serializePacketWithReliable S Z pkt _ = bytes
    -- the owner as the callback finds it
    generalize ho₁ : (o.setTxState sideId pkt.ty { o.txState sideId pkt.ty with nextSeq := nextSeq (o.txState sideId pkt.ty).nextSeq }).observe
      (.number sideId pkt.ty (o.txState sideId pkt.ty).nextSeq bytes) = o₁
    have htakes : CallbackTakes E o₁ ↔ CallbackTakes E o := by rw [← ho₁]; rfl
    have hstate : o₁.txState sideId pkt.ty =
        { o.txState sideId pkt.ty with nextSeq := nextSeq (o.txState sideId pkt.ty).nextSeq } := by
      rw [← ho₁]
      exact txState_setTxState sideId pkt.ty _
    have hcalled := txState_congr (callSerializedTx_reliableTx (E := E) o₁ sideId bytes) sideId pkt.ty
    have hiff := callSerializedTx_ok_iff (E := E) (o := o₁) sideId bytes
    rw [htakes] at hiff
    by_cases hok : (o₁.callSerializedTx E sideId bytes).1 = SEDS_OK
    · right
      rw [if_neg (not_not.mpr hok)]
      exact ⟨_, rfl, rfl, hiff.mp hok, rfl, txState_setTxState sideId pkt.ty _⟩
    · left
      rw [if_pos hok]
      exact ⟨fun h => hok (hiff.mpr h), hok, hcalled.trans hstate⟩

theorem nextSeq_ne (seq : UInt32) : nextSeq seq ≠ seq := by
  intro h
  unfold nextSeq at h
  split at h
  · rename_i hwrap
    rw [← h] at hwrap
    exact absurd hwrap (by decide)
  · have hnum := congrArg UInt32.toNat h
    rw [UInt32.toNat_add] at hnum
    have hlt := seq.toNat_lt
    simp at hnum
    omega

/-- A send that succeeds with a number appends the next one. -/
theorem sentOrder_of_sent {sideId : Int32} {pkt : PacketData} (h : GivesNumber S o sideId pkt.ty)
    (hok : (o.sendSerializedWithReliable S Z E sideId pkt).1 = SEDS_OK) :
    ((o.sendSerializedWithReliable S Z E sideId pkt).2.txState sideId pkt.ty).sentOrder =
      (o.txState sideId pkt.ty).sentOrder ++ [(o.txState sideId pkt.ty).nextSeq] := by
  rcases sendSerializedWithReliable_numbered (Z := Z) (E := E) h with ⟨-, hfailed, -⟩ | ⟨sent, -, -, -, -, hstate⟩
  · exact absurd hok hfailed
  · rw [hstate]

end

/-- **A failed send leaves no gap** exactly when it fails before it has given a number: then the stream is as before, and
    the next send that succeeds gets the number this one would have got. -/
theorem sendSerializedWithReliable_noGap_iff (S : Schema) (Z : Codec) (E : Env) (o : Owner) (sideId : Int32) (pkt : PacketData) :
    ((o.sendSerializedWithReliable S Z E sideId pkt).1 ≠ SEDS_OK →
      (o.sendSerializedWithReliable S Z E sideId pkt).2.txState sideId pkt.ty = o.txState sideId pkt.ty ∧
      ∀ (E' : Env) (next : PacketData), next.ty = pkt.ty →
        GivesNumber S (o.sendSerializedWithReliable S Z E sideId pkt).2 sideId next.ty →
        ((o.sendSerializedWithReliable S Z E sideId pkt).2.sendSerializedWithReliable S Z E' sideId next).1 = SEDS_OK →
        (((o.sendSerializedWithReliable S Z E sideId pkt).2.sendSerializedWithReliable S Z E' sideId next).2.txState
          sideId pkt.ty).sentOrder = (o.txState sideId pkt.ty).sentOrder ++ [(o.txState sideId pkt.ty).nextSeq]) ↔
    (GivesNumber S o sideId pkt.ty → CallbackTakes E o) := by
  constructor
  · intro hkeeps hgives
    by_contra htakes
    rcases sendSerializedWithReliable_numbered (Z := Z) (E := E) hgives with ⟨-, hfailed, hstate⟩ | ⟨sent, -, -, hcallback, -⟩
    · have hsame := congrArg ReliableTxState.nextSeq (hstate.symm.trans (hkeeps hfailed).1)
      exact nextSeq_ne _ hsame
    · exact htakes hcallback
  · intro htakes hfailed
    have hsame : (o.sendSerializedWithReliable S Z E sideId pkt).2.txState sideId pkt.ty = o.txState sideId pkt.ty := by
      by_cases hgives : GivesNumber S o sideId pkt.ty
      · rcases sendSerializedWithReliable_numbered (Z := Z) (E := E) hgives with ⟨hnot, -⟩ | ⟨sent, -, -, -, hok, -⟩
        · exact absurd (htakes hgives) hnot
        · exact absurd hok hfailed
      · exact sendSerializedWithReliable_unnumbered hgives
    refine ⟨hsame, ?_⟩
    intro E' next hty hgives hok
    have hnext := sentOrder_of_sent hgives hok
    rw [hty, hsame] at hnext
    exact hnext

/-- A link that is down: the callback takes nothing. -/
def downEnv : Env := ⟨fun _ => 0, fun _ => SEDS_IO⟩

def gpsOwner : Owner := .new (ascii "A") [.serialized [] true]

/-- The first report is not taken, and the stream goes on with number 2. -/
theorem sendSerializedWithReliable_gap :
    defaultTestSchema.isReliableType gpsPacket.ty = true ∧
    (gpsOwner.sendSerializedWithReliable defaultTestSchema (.absent 16) downEnv 0 gpsPacket).1 ≠ SEDS_OK ∧
    ((gpsOwner.sendSerializedWithReliable defaultTestSchema (.absent 16) downEnv 0 gpsPacket).2.txState 0 gpsPacket.ty).nextSeq ≠
      (gpsOwner.txState 0 gpsPacket.ty).nextSeq := by
  rw [defaultTestSchema_eq]
  decide +kernel

/-! ## A frame that is reported -/

/-- A frame of an ordered stream above the expected number, on a side where it is reported. -/
structure ReportsEarly (o : Owner) (sideId : Int32) (frame : FrameInfoLite) (hdr : ReliableHeaderLite) : Prop where
  header : frame.reliable = some hdr
  ordered : orderedFlags hdr.flags = true
  early : (o.rxState sideId frame.envelope.ty).expectedSeq < hdr.seq
  reports : o.numbersFrames sideId = true

section

variable {S : Schema} {E : Env} {o : Owner}

theorem queueReliableControl_obs (controlTy : UInt32) (o : Owner) (sideId : Int32) (ty seq : UInt32) :
    (queueReliableControl S E controlTy o sideId ty seq).obs =
      o.obs ++ bif o.numbersFrames sideId then [.control controlTy sideId ty seq] else [] := by
  unfold queueReliableControl numbersFrames
  cases o.sideAt sideId with
  | none => exact (List.append_nil _).symm
  | some side =>
    dsimp only
    have hflags : (!side.reliableEnabled || !side.serializedTx) = !(side.serializedTx && side.reliableEnabled) := by
      cases side.serializedTx <;> cases side.reliableEnabled <;> rfl
    rw [hflags]
    cases side.serializedTx && side.reliableEnabled with
    | false => exact (List.append_nil _).symm
    | true =>
      rw [Bool.not_true, if_neg Bool.false_ne_true]
      unfold enqueueTxFront enqueueTxAt nowMs observe
      dsimp only [cond_true]
      split <;> rfl

theorem queueReliableControl_keeps (controlTy : UInt32) (o : Owner) (sideId : Int32) (ty seq : UInt32) :
    (queueReliableControl S E controlTy o sideId ty seq).reliableRx = o.reliableRx ∧
    (queueReliableControl S E controlTy o sideId ty seq).sides = o.sides := by
  obtain ⟨reads, queue, peak, l, heq, -⟩ := queueReliableControl_writes (S := S) (E := E) controlTy o sideId ty seq
  rw [heq]
  exact ⟨rfl, rfl⟩

theorem numbersFrames_congr {o' : Owner} (h : o'.sides = o.sides) (sideId : Int32) : o'.numbersFrames sideId = o.numbersFrames sideId := by
  unfold numbersFrames sideAt
  rw [h]

theorem rxState_congr {o' : Owner} (h : o'.reliableRx = o.reliableRx) (sideId : Int32) (ty : UInt32) :
    o'.rxState sideId ty = o.rxState sideId ty := by
  unfold rxState
  rw [h]

/-- The control packets that one call queues. -/
def queues (o o' : Owner) (controlTy : UInt32) (sideId : Int32) (ty seq : UInt32) : Prop :=
  .control controlTy sideId ty seq ∈ o'.obs.drop o.obs.length

theorem queues_control {o₁ : Owner} {controlTy c : UInt32} {sideId : Int32} {ty seq q : UInt32}
    (h : queues o (queueReliableControl S E controlTy o₁ sideId ty seq) c sideId ty q) (hobs : o₁.obs = o.obs) : c = controlTy := by
  unfold queues at h
  rw [queueReliableControl_obs, hobs, List.drop_left] at h
  cases hnumbers : o₁.numbersFrames sideId with
  | false =>
    rw [hnumbers] at h
    exact absurd h List.not_mem_nil
  | true =>
    rw [hnumbers] at h
    obtain heq := List.mem_singleton.mp h
    cases heq
    rfl

theorem partialAck_ne_ack : SEDS_DT_RELIABLE_PARTIAL_ACK ≠ SEDS_DT_RELIABLE_ACK := by decide

/-- A frame that comes too early is reported, and stored if there is room. -/
theorem ingressEarly_queues {sideId : Int32} {ty seq q : UInt32} {pkt : PacketData} {wireBytes : Bytes} :
    queues o (o.ingressEarly S E sideId ty seq pkt wireBytes) SEDS_DT_RELIABLE_PARTIAL_ACK sideId ty q ↔
      o.numbersFrames sideId = true ∧ q = seq := by
  unfold queues ingressEarly queueReliablePacketRequest queueReliablePartialAck
  dsimp only
  generalize (if (o.rxState sideId ty).buffered.entries.length < o.tuning.reliableMaxPending then
    { o.rxState sideId ty with buffered := Map.emplace (o.rxState sideId ty).buffered seq ⟨pkt, wireBytes⟩ }
    else o.rxState sideId ty : ReliableRxState) = rx
  have hstored : (o.setRxState sideId ty rx).numbersFrames sideId = o.numbersFrames sideId := numbersFrames_congr rfl sideId
  have hobs : (o.setRxState sideId ty rx).obs = o.obs := rfl
  rw [queueReliableControl_obs, queueReliableControl_obs, numbersFrames_congr (queueReliableControl_keeps _ _ _ _ _).2, hstored,
    hobs, List.append_assoc, List.drop_left]
  cases o.numbersFrames sideId with
  | false => simp
  | true =>
    have hother : SEDS_DT_RELIABLE_PARTIAL_ACK ≠ SEDS_DT_RELIABLE_PACKET_REQUEST := by decide
    simp [hother]

theorem ingressEarly_rxState {sideId : Int32} {ty seq : UInt32} {pkt : PacketData} {wireBytes : Bytes} :
    seq ∈ ((o.ingressEarly S E sideId ty seq pkt wireBytes).rxState sideId ty).buffered ↔
      (o.rxState sideId ty).buffered.entries.length < o.tuning.reliableMaxPending ∨ seq ∈ (o.rxState sideId ty).buffered := by
  unfold ingressEarly queueReliablePacketRequest queueReliablePartialAck
  rw [rxState_congr (queueReliableControl_keeps _ _ _ _ _).1, rxState_congr (queueReliableControl_keeps _ _ _ _ _).1,
    rxState_setRxState]
  split
  · rename_i hroom
    exact iff_of_true (Link.mem_emplace_iff.mpr (.inr rfl)) (.inl hroom)
  · rename_i hfull
    exact (or_iff_right hfull).symm

theorem handleAck_obs (sideId : Int32) (ty ack : UInt32) : (o.handleAck S sideId ty ack).obs = o.obs := by
  unfold handleAck
  cases o.reliableTx.lookup (reliableKey sideId ty) with
  | none => rfl
  | some tx =>
    dsimp only
    split
    · rfl
    · rfl

theorem processReliableIngress_early {sideId : Int32} {frame : FrameInfoLite} {hdr : ReliableHeaderLite} {pkt : PacketData}
    {wireBytes : Bytes} (h : ReportsEarly o sideId frame hdr) :
    (o.processReliableIngress S E sideId frame pkt wireBytes).2 =
      o.ingressEarly S E sideId frame.envelope.ty hdr.seq pkt wireBytes := by
  have hflags := h.ordered
  unfold orderedFlags at hflags
  simp only [Bool.and_eq_true, beq_iff_eq] at hflags
  obtain ⟨⟨hack, huns⟩, hunord⟩ := hflags
  unfold processReliableIngress
  rw [h.header]
  simp only [hack, huns, hunord, ne_eq, not_true_eq_false, if_false]
  rw [if_neg (UInt32.not_lt.mpr (UInt32.le_of_lt h.early)), if_pos h.early]

/-- Nothing else is reported. -/
theorem early_of_queues {sideId : Int32} {frame : FrameInfoLite} {pkt : PacketData} {wireBytes : Bytes} {q : UInt32}
    (h : queues o (o.processReliableIngress S E sideId frame pkt wireBytes).2 SEDS_DT_RELIABLE_PARTIAL_ACK sideId
      frame.envelope.ty q) : ∃ hdr, ReportsEarly o sideId frame hdr ∧ q = hdr.seq := by
  have hsame : ∀ c ty, ¬ queues o o c sideId ty q := by
    intro c ty hmem
    unfold queues at hmem
    rw [List.drop_length] at hmem
    exact absurd hmem List.not_mem_nil
  unfold processReliableIngress at h
  cases hheader : frame.reliable with
  | none =>
    rw [hheader] at h
    exact absurd h (hsame _ _)
  | some hdr =>
    rw [hheader] at h
    dsimp only at h
    split at h
    · -- an ACK
      unfold queues at h
      rw [handleAck_obs, List.drop_length] at h
      exact absurd h List.not_mem_nil
    · split at h
      · exact absurd h (hsame _ _)
      · split at h
        · exact absurd (queues_control h rfl) partialAck_ne_ack
        · split at h
          · exact absurd (queues_control h rfl) partialAck_ne_ack
          · split at h
            · rename_i hack huns hunord hge hearly
              rw [not_not] at hack huns hunord
              obtain ⟨hreports, rfl⟩ := ingressEarly_queues.mp h
              exact ⟨hdr, ⟨hheader, by simp [orderedFlags, hack, huns, hunord], hearly, hreports⟩, rfl⟩
            · exact absurd (queues_control h rfl) partialAck_ne_ack

end

/-- **A partial ACK is no lie** exactly when there is room in the reorder buffer for every frame that is reported, or the
    frame is in it already. -/
theorem processReliableIngress_keepsReported_iff (S : Schema) (E : Env) (o : Owner) (sideId : Int32) (frame : FrameInfoLite)
    (pkt : PacketData) (wireBytes : Bytes) :
    (∀ q, queues o (o.processReliableIngress S E sideId frame pkt wireBytes).2 SEDS_DT_RELIABLE_PARTIAL_ACK sideId
        frame.envelope.ty q →
      q ∈ ((o.processReliableIngress S E sideId frame pkt wireBytes).2.rxState sideId frame.envelope.ty).buffered) ↔
    ∀ hdr, ReportsEarly o sideId frame hdr →
      (o.rxState sideId frame.envelope.ty).buffered.entries.length < o.tuning.reliableMaxPending ∨
        hdr.seq ∈ (o.rxState sideId frame.envelope.ty).buffered := by
  constructor
  · intro hkeeps hdr hearly
    have hresult : (o.processReliableIngress S E sideId frame pkt wireBytes).2 =
        o.ingressEarly S E sideId frame.envelope.ty hdr.seq pkt wireBytes := processReliableIngress_early hearly
    rw [hresult] at hkeeps
    exact ingressEarly_rxState.mp (hkeeps hdr.seq (ingressEarly_queues.mpr ⟨hearly.reports, rfl⟩))
  · intro hroom q hqueues
    obtain ⟨hdr, hearly, rfl⟩ := early_of_queues hqueues
    rw [processReliableIngress_early hearly]
    exact ingressEarly_rxState.mpr (hroom hdr hearly)

/-- A receiver that keeps one frame, and has it: number 2, while it waits for number 1. -/
def fullOwner : Owner :=
  ({ gpsOwner with tuning := { Tuning.default with reliableMaxPending := 1 } }.processReliableIngress defaultTestSchema .calm 0
    ⟨⟨100, [100, 101], ascii "B", 0⟩, some ⟨0, 2, 0⟩⟩ gpsPacket []).2

/-- Number 3 is reported, and is not there. -/
theorem processReliableIngress_lies :
    queues fullOwner (fullOwner.processReliableIngress defaultTestSchema .calm 0
      ⟨⟨100, [100, 101], ascii "B", 0⟩, some ⟨0, 3, 0⟩⟩ gpsPacket []).2 SEDS_DT_RELIABLE_PARTIAL_ACK 0 100 3 ∧
    3 ∉ ((fullOwner.processReliableIngress defaultTestSchema .calm 0
      ⟨⟨100, [100, 101], ascii "B", 0⟩, some ⟨0, 3, 0⟩⟩ gpsPacket []).2.rxState 0 100).buffered := by
  unfold queues fullOwner
  rw [defaultTestSchema_eq]
  decide +kernel

end Owner

end SedsNet
