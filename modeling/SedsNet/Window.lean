import SedsNet.Link

/-!
# The send window of an ordered stream

Frames of a stream wait in the sender's window until a cumulative ACK covers them. A frame the receiver has
reported by a partial ACK is not sent again, so a window in which every frame is reported can only be
emptied by an ACK that may never come.

`Link.run_window_open` says when this cannot happen: over any lossy link, with the receiver's own ACKs and
partial ACKs coming back in any order, the lowest frame the receiver still lacks is in the window and is not
reported, as long as every number goes to a frame the callback takes, the receiver keeps what it reports,
and no frame the receiver lacks is given up.
-/

set_option autoImplicit false

namespace SedsNet

open Lib

namespace Owner

variable {S : Schema} {Z : Codec} {E : Env} {o o' : Owner}

/-! ## The window -/

/-- The partial ACKs queued for a stream, in order. -/
def queuedPartialAcks (o : Owner) (sideId : Int32) (ty : UInt32) : List UInt32 :=
  o.obs.filterMap fun
    | .control controlTy s t seq =>
      if controlTy = SEDS_DT_RELIABLE_PARTIAL_ACK ∧ s = sideId ∧ t = ty then some seq else none
    | _ => none

/-- Whether `do_reliable_timeouts` gives a frame up. -/
def retires (tuning : Tuning) (now : UInt64) (sent : Sent) : Bool :=
  !(sent.queued || sent.partialAcked || decide (now - sent.lastSendMs < tuning.reliableRetransmitMs.toUInt64)) &&
    decide (sent.retries ≥ tuning.reliableMaxRetries)

/-- The frame `seq` of a window is reported. -/
def Reported (tx : ReliableTxState) (seq : UInt32) : Prop :=
  ∃ sent, tx.sent.lookup seq = some sent ∧ sent.partialAcked = true

/-- A window in order: its frames are listed by their numbers, all below the next one. -/
structure WindowOk (tx : ReliableTxState) : Prop where
  sorted : tx.sentOrder.Pairwise (· < ·)
  listed : ∀ seq ∈ tx.sent, seq ∈ tx.sentOrder
  below : ∀ seq ∈ tx.sentOrder, seq < tx.nextSeq

/-- From `tx` to `tx'` the window loses frames, in order. -/
structure Shrinks (tx tx' : ReliableTxState) : Prop where
  order : tx'.sentOrder.Sublist tx.sentOrder
  listed : (∀ seq ∈ tx.sent, seq ∈ tx.sentOrder) → ∀ seq ∈ tx'.sent, seq ∈ tx'.sentOrder
  next : tx'.nextSeq = tx.nextSeq
  reported : ∀ seq, Reported tx' seq → Reported tx seq
  sent : ∀ seq ∈ tx'.sent, seq ∈ tx.sent

theorem Shrinks.refl (tx : ReliableTxState) : Shrinks tx tx := ⟨.refl _, id, rfl, fun _ => id, fun _ => id⟩

theorem Shrinks.trans {a b c : ReliableTxState} (hab : Shrinks a b) (hbc : Shrinks b c) : Shrinks a c :=
  ⟨hbc.order.trans hab.order, fun h => hbc.listed (hab.listed h), hbc.next.trans hab.next,
    fun seq h => hab.reported seq (hbc.reported seq h), fun seq h => hab.sent seq (hbc.sent seq h)⟩

theorem WindowOk.shrinks {tx tx' : ReliableTxState} (h : WindowOk tx) (hs : Shrinks tx tx') : WindowOk tx' where
  sorted := h.sorted.sublist hs.order
  listed := hs.listed h.listed
  below seq hseq := hs.next ▸ h.below seq (hs.order.subset hseq)

/-! ## ACKs -/

/-- A cumulative ACK empties the window up to its number, and no further. -/
theorem ackThrough_spec {ack : UInt32} {order : List UInt32} {sent : Map UInt32 Sent}
    (hsorted : order.Pairwise (· < ·)) (hlisted : ∀ seq ∈ sent, seq ∈ order) :
    (ackThrough ack order sent).1.Sublist order ∧
    (∀ seq ∈ (ackThrough ack order sent).2, seq ∈ (ackThrough ack order sent).1) ∧
    ∀ seq, seq ∈ (ackThrough ack order sent).2 ↔ seq ∈ sent ∧ ack < seq := by
  induction order generalizing sent with
  | nil =>
    refine ⟨.refl _, hlisted, fun seq => ⟨fun h => ?_, fun h => h.1⟩⟩
    exact absurd (hlisted seq h) List.not_mem_nil
  | cons first rest ih =>
    obtain ⟨hfirst, hrest⟩ := List.pairwise_cons.mp hsorted
    unfold ackThrough
    by_cases hle : first ≤ ack
    · rw [if_pos hle]
      have hlisted' : ∀ seq ∈ sent.erase first, seq ∈ rest := by
        intro seq hseq
        obtain ⟨hne, hold⟩ := AList.mem_erase.mp hseq
        exact (List.mem_cons.mp (hlisted seq hold)).resolve_left hne
      obtain ⟨hsub, hkept, hiff⟩ := ih hrest hlisted'
      refine ⟨hsub.trans (List.sublist_cons_self first rest), hkept, fun seq => ?_⟩
      rw [hiff, AList.mem_erase]
      constructor
      · exact fun h => ⟨h.1.2, h.2⟩
      · intro h
        refine ⟨⟨?_, h.1⟩, h.2⟩
        rintro rfl
        exact UInt32.not_lt.mpr hle h.2
    · rw [if_neg hle]
      have hlt : ack < first := UInt32.not_le.mp hle
      refine ⟨.refl _, hlisted, fun seq => ⟨fun h => ⟨h, ?_⟩, fun h => h.1⟩⟩
      rcases List.mem_cons.mp (hlisted seq h) with rfl | hmem
      · exact hlt
      · exact UInt32.lt_trans hlt (hfirst seq hmem)

theorem handleAck_window {sideId : Int32} {ty : UInt32} (hmode : (S.typeAt ty.toNat).reliableMode = .Ordered)
    (hok : WindowOk (o.txState sideId ty)) (ack : UInt32) :
    Shrinks (o.txState sideId ty) ((o.handleAck S sideId ty ack).txState sideId ty) ∧
    ∀ seq, seq ∈ ((o.handleAck S sideId ty ack).txState sideId ty).sent ↔
      seq ∈ (o.txState sideId ty).sent ∧ ack < seq := by
  unfold handleAck txState at *
  cases htx : o.reliableTx.lookup (reliableKey sideId ty) with
  | none =>
    rw [htx]
    refine ⟨.refl _, fun seq => ⟨fun h => ?_, And.left⟩⟩
    exact absurd h (AList.notMem_empty seq)
  | some tx =>
    rw [htx] at hok
    dsimp only
    rw [if_neg (by rw [hmode]; exact fun h => nomatch h)]
    unfold setTxState
    dsimp only
    rw [AList.lookup_insert]
    dsimp only [Option.getD_some] at hok ⊢
    obtain ⟨hsub, hkept, hiff⟩ := @ackThrough_spec ack _ _ hok.sorted hok.listed
    refine ⟨⟨hsub, fun _ => hkept, rfl, ?_, fun seq h => ((hiff seq).mp h).1⟩, hiff⟩
    rintro seq ⟨sent, hsent, hmark⟩
    exact ⟨sent, lookup_ackThrough hsent, hmark⟩

/-! ## Reports and requests -/

/-- Bookkeeping of one frame of the window changes. -/
theorem shrinks_insert {tx : ReliableTxState} {seq : UInt32} {old new : Sent} (hold : tx.sent.lookup seq = some old)
    (hmark : new.partialAcked = true → old.partialAcked = true) :
    Shrinks tx { tx with sent := tx.sent.insert seq new } := by
  have hmem : seq ∈ tx.sent := Map.mem_iff_lookup.mpr ⟨old, hold⟩
  have hsent : ∀ q ∈ tx.sent.insert seq new, q ∈ tx.sent := by
    intro q hq
    rcases (AList.mem_insert _).mp hq with rfl | hq
    · exact hmem
    · exact hq
  refine ⟨.refl _, fun hlisted q hq => hlisted q (hsent q hq), rfl, ?_, hsent⟩
  rintro q ⟨sent, hlookup, hset⟩
  by_cases hq : q = seq
  · subst hq
    rw [AList.lookup_insert, Option.some.injEq] at hlookup
    subst hlookup
    exact ⟨old, hold, hmark hset⟩
  · rw [AList.lookup_insert_ne hq] at hlookup
    exact ⟨sent, hlookup, hset⟩

theorem mem_insert_of_mem {tx : ReliableTxState} {seq q : UInt32} {new : Sent} (hq : q ∈ tx.sent) :
    q ∈ tx.sent.insert seq new :=
  (AList.mem_insert _).mpr (.inr hq)

/-- A partial ACK reports its frame, if the window has it. -/
theorem handlePartialAck_window (o : Owner) (sideId : Int32) (ty seq : UInt32) :
    ((o.handlePartialAck sideId ty seq).txState sideId ty).sentOrder = (o.txState sideId ty).sentOrder ∧
    ((o.handlePartialAck sideId ty seq).txState sideId ty).nextSeq = (o.txState sideId ty).nextSeq ∧
    (∀ q, q ∈ ((o.handlePartialAck sideId ty seq).txState sideId ty).sent ↔ q ∈ (o.txState sideId ty).sent) ∧
    ∀ q, Reported ((o.handlePartialAck sideId ty seq).txState sideId ty) q →
      Reported (o.txState sideId ty) q ∨ q = seq := by
  unfold handlePartialAck
  cases htx : o.reliableTx.lookup (reliableKey sideId ty) with
  | none => exact ⟨rfl, rfl, fun _ => .rfl, fun _ => .inl⟩
  | some tx =>
    dsimp only
    cases hsent : tx.sent.lookup seq with
    | none => exact ⟨rfl, rfl, fun _ => .rfl, fun _ => .inl⟩
    | some sent =>
      dsimp only
      unfold txState setTxState
      dsimp only
      rw [AList.lookup_insert, htx]
      refine ⟨rfl, rfl, fun q => ⟨fun h => ?_, mem_insert_of_mem⟩, ?_⟩
      · rcases (AList.mem_insert _).mp h with rfl | h
        · exact Map.mem_iff_lookup.mpr ⟨sent, hsent⟩
        · exact h
      · rintro q ⟨s, hlookup, hset⟩
        by_cases hq : q = seq
        · exact .inr hq
        · dsimp only [Option.getD_some] at hlookup
          rw [AList.lookup_insert_ne hq] at hlookup
          exact .inl ⟨s, hlookup, hset⟩

/-- A packet request leaves the window as it is, but for its reports. -/
theorem handlePacketRequest_window (o : Owner) (sideId : Int32) (ty seq : UInt32) :
    Shrinks (o.txState sideId ty) ((o.handlePacketRequest E sideId ty seq).txState sideId ty) ∧
    ∀ q ∈ (o.txState sideId ty).sent, q ∈ ((o.handlePacketRequest E sideId ty seq).txState sideId ty).sent := by
  unfold handlePacketRequest
  cases o.sideAt sideId with
  | none => exact ⟨.refl _, fun _ => id⟩
  | some side =>
    dsimp only
    cases htx : o.reliableTx.lookup (reliableKey sideId ty) with
    | none => exact ⟨.refl _, fun _ => id⟩
    | some tx =>
      dsimp only
      cases hsent : tx.sent.lookup seq with
      | none => exact ⟨.refl _, fun _ => id⟩
      | some sent =>
        dsimp only
        split
        · exact ⟨.refl _, fun _ => id⟩
        · unfold txState setTxState
          dsimp only
          rw [AList.lookup_insert, htx]
          exact ⟨shrinks_insert hsent (fun h => nomatch h), fun q => mem_insert_of_mem⟩

/-! ## Timeouts -/

/-- One round of the loop over a window: nothing but its own frame changes, and that leaves only when it is
    given up. -/
theorem retransmit_window (now : UInt64) (sideId : Int32) (o : Owner) (tx : ReliableTxState) (seq : UInt32) :
    (retransmit E now sideId (o, tx) seq).1.tuning = o.tuning ∧
    Shrinks tx (retransmit E now sideId (o, tx) seq).2 ∧
    (∀ q, q ≠ seq → (retransmit E now sideId (o, tx) seq).2.sent.lookup q = tx.sent.lookup q) ∧
    ∀ sent, tx.sent.lookup seq = some sent →
      (retires o.tuning now sent = false ↔ seq ∈ (retransmit E now sideId (o, tx) seq).2.sent) := by
  have htuning : ∀ bytes, (o.callSerializedTx E sideId bytes).2.tuning = o.tuning := by
    intro bytes
    unfold callSerializedTx
    split <;> rfl
  unfold retransmit
  dsimp only
  cases hsent : tx.sent.lookup seq with
  | none => exact ⟨rfl, .refl tx, fun _ _ => rfl, fun sent h => nomatch h⟩
  | some sent =>
    have hmem : seq ∈ tx.sent := Map.mem_iff_lookup.mpr ⟨sent, hsent⟩
    dsimp only
    split
    · rename_i hwaits
      refine ⟨rfl, .refl tx, fun _ _ => rfl, ?_⟩
      rintro _ ⟨rfl⟩
      unfold retires
      rw [hwaits]
      exact iff_of_true rfl hmem
    · rename_i hdue
      split
      · -- the frame is given up
        rename_i hretries
        refine ⟨rfl, ⟨List.filter_sublist, ?_, rfl, ?_, fun q hq => (AList.mem_erase.mp hq).2⟩,
          fun q hq => AList.lookup_erase_ne hq, ?_⟩
        · intro hlisted q hq
          obtain ⟨hne, hold⟩ := AList.mem_erase.mp hq
          exact List.mem_filter.mpr ⟨hlisted q hold, by simpa using hne⟩
        · rintro q ⟨s, hlookup, hset⟩
          exact ⟨s, lookup_of_erase hlookup, hset⟩
        · rintro _ ⟨rfl⟩
          unfold retires
          rw [Bool.eq_false_iff.mpr hdue, decide_eq_true hretries]
          exact iff_of_false (fun h => nomatch h) (fun h => (AList.mem_erase.mp h).1 rfl)
      · rename_i hretries
        have hstays : ∀ s, some sent = some s → retires o.tuning now s = false := by
          rintro _ ⟨rfl⟩
          unfold retires
          rw [decide_eq_false hretries, Bool.and_false]
        split
        · exact ⟨htuning _, shrinks_insert hsent id, fun q hq => AList.lookup_insert_ne hq,
            fun s hs => iff_of_true (hstays s hs) ((AList.mem_insert _).mpr (.inl rfl))⟩
        · exact ⟨htuning _, .refl tx, fun _ _ => rfl, fun s hs => iff_of_true (hstays s hs) hmem⟩

/-- The loop over a window. -/
theorem retransmit_foldl_window (now : UInt64) (sideId : Int32) (seqs : List UInt32) (hnodup : seqs.Nodup)
    (o : Owner) (tx : ReliableTxState) :
    Shrinks tx (seqs.foldl (retransmit E now sideId) (o, tx)).2 ∧
    (∀ q ∉ seqs, (seqs.foldl (retransmit E now sideId) (o, tx)).2.sent.lookup q = tx.sent.lookup q) ∧
    ∀ q ∈ seqs, ∀ sent, tx.sent.lookup q = some sent →
      (retires o.tuning now sent = false ↔ q ∈ (seqs.foldl (retransmit E now sideId) (o, tx)).2.sent) := by
  induction seqs generalizing o tx with
  | nil => exact ⟨.refl tx, fun _ _ => rfl, fun q hq => nomatch hq⟩
  | cons seq seqs ih =>
    obtain ⟨hnot, hnodup'⟩ := List.nodup_cons.mp hnodup
    obtain ⟨htuning, hshrinks, hothers, hstays⟩ := retransmit_window (E := E) now sideId o tx seq
    rw [List.foldl_cons]
    obtain ⟨hshrinks', hothers', hstays'⟩ := ih hnodup' (retransmit E now sideId (o, tx) seq).1
      (retransmit E now sideId (o, tx) seq).2
    refine ⟨hshrinks.trans hshrinks', ?_, ?_⟩
    · intro q hq
      rw [List.mem_cons, not_or] at hq
      exact (hothers' q hq.2).trans (hothers q hq.1)
    · intro q hq sent hsent
      by_cases hq' : q = seq
      · -- the later rounds are about other frames
        subst hq'
        rw [hstays sent hsent, Map.mem_iff_lookup, Map.mem_iff_lookup, hothers' q hnot]
      · rw [← hstays' q ((List.mem_cons.mp hq).resolve_left hq') sent ((hothers q hq').trans hsent), htuning]

/-- A round of timeouts: the frames it gives up leave the window, if the side can send at all. -/
structure Ages (tuning : Tuning) (now : UInt64) (tx tx' : ReliableTxState) : Prop where
  shrinks : Shrinks tx tx'
  stays : tx' = tx ∨ ∀ q sent, tx.sent.lookup q = some sent → (retires tuning now sent = false ↔ q ∈ tx'.sent)

theorem Ages.refl (tuning : Tuning) (now : UInt64) (tx : ReliableTxState) : Ages tuning now tx tx :=
  ⟨.refl tx, .inl rfl⟩

theorem timeoutStream_window (now : UInt64) (o : Owner) (key : UInt64) {tx : ReliableTxState}
    (htx : o.reliableTx.lookup key = some tx) (hok : WindowOk tx) :
    ∃ tx', (timeoutStream E now o key tx).reliableTx.lookup key = some tx' ∧ Ages o.tuning now tx tx' := by
  unfold timeoutStream
  dsimp only
  cases o.sideAt (key >>> 32).toUInt32.toInt32 with
  | none => exact ⟨tx, htx, .refl _ _ tx⟩
  | some side =>
    dsimp only
    split
    · exact ⟨tx, htx, .refl _ _ tx⟩
    · obtain ⟨hshrinks, -, hstays⟩ := retransmit_foldl_window (E := E) now (key >>> 32).toUInt32.toInt32
        tx.sentOrder (hok.sorted.imp fun h => UInt32.ne_of_lt h) o tx
      refine ⟨_, AList.lookup_insert _, hshrinks, .inr fun q sent hsent => ?_⟩
      exact hstays q (hok.listed q (Map.mem_iff_lookup.mpr ⟨sent, hsent⟩)) sent hsent

theorem timeoutStream_tuning (now : UInt64) (o : Owner) (key : UInt64) (tx : ReliableTxState) :
    (timeoutStream E now o key tx).tuning = o.tuning := by
  have hloop : ∀ (seqs : List UInt32) (p : Owner × ReliableTxState),
      (seqs.foldl (retransmit E now (key >>> 32).toUInt32.toInt32) p).1.tuning = p.1.tuning := by
    intro seqs
    induction seqs with
    | nil => exact fun p => rfl
    | cons seq seqs ih => exact fun p => (ih _).trans (retransmit_window now _ p.1 p.2 seq).1
  unfold timeoutStream
  dsimp only
  cases o.sideAt (key >>> 32).toUInt32.toInt32 with
  | none => rfl
  | some side =>
    dsimp only
    split
    · rfl
    · exact hloop tx.sentOrder (o, tx)

theorem timeoutStreams_window (now : UInt64) (entries : List (Sigma fun _ : UInt64 => ReliableTxState))
    (hnodup : entries.NodupKeys) {key : UInt64} {tx : ReliableTxState} (hok : WindowOk tx) (o : Owner)
    (hmem : ∀ e ∈ entries, o.reliableTx.lookup e.1 = some e.2) (htx : o.reliableTx.lookup key = some tx) :
    ∃ tx', (entries.foldl (fun o entry => timeoutStream E now o entry.1 entry.2) o).reliableTx.lookup key = some tx' ∧
      Ages o.tuning now tx tx' ∧ (key ∉ entries.keys → tx' = tx) := by
  induction entries generalizing o tx with
  | nil => exact ⟨tx, htx, .refl _ _ tx, fun _ => rfl⟩
  | cons e entries ih =>
    obtain ⟨hnot, hnodup'⟩ := List.nodupKeys_cons.mp hnodup
    obtain ⟨-, hother⟩ := timeoutStream_retains (E := E) now (hmem e List.mem_cons_self)
    have hmem' : ∀ f ∈ entries, (timeoutStream E now o e.1 e.2).reliableTx.lookup f.1 = some f.2 := by
      intro f hf
      rw [hother f.1 (fun h => hnot (h ▸ List.mem_keys_of_mem hf))]
      exact hmem f (List.mem_cons_of_mem e hf)
    rw [List.foldl_cons]
    by_cases hkey : key = e.1
    · -- this round is the stream's own, and no later one is
      subst hkey
      have hsame : e.2 = tx := Option.some.inj ((hmem e List.mem_cons_self).symm.trans htx)
      obtain ⟨tx₁, htx₁, hages⟩ := timeoutStream_window (E := E) now o e.1 (hmem e List.mem_cons_self) (hsame ▸ hok)
      obtain ⟨tx₂, htx₂, -, hlast⟩ := ih hnodup' (hok.shrinks (hsame ▸ hages.shrinks)) _ hmem' htx₁
      refine ⟨tx₂, htx₂, ?_, fun h => absurd (List.mem_cons_self) h⟩
      rw [hlast hnot]
      exact hsame ▸ hages
    · obtain ⟨tx₂, htx₂, hages, hlast⟩ := ih hnodup' hok _ hmem' ((hother key hkey).trans htx)
      refine ⟨tx₂, htx₂, timeoutStream_tuning now o e.1 e.2 ▸ hages, fun h => hlast (fun hin => h ?_)⟩
      exact List.mem_cons_of_mem _ hin

/-- Timeouts and a window. -/
theorem doReliableTimeouts_window (o : Owner) {sideId : Int32} {ty : UInt32} (hok : WindowOk (o.txState sideId ty)) :
    Ages o.tuning (o.nowMs E).1 (o.txState sideId ty) ((o.doReliableTimeouts E).txState sideId ty) := by
  cases htx : o.reliableTx.lookup (reliableKey sideId ty) with
  | some tx =>
    unfold txState at hok ⊢
    rw [htx] at hok ⊢
    obtain ⟨tx', htx', hages, -⟩ := timeoutStreams_window (E := E) (o.nowMs E).1 o.reliableTx.entries
      o.reliableTx.nodupKeys hok (o.nowMs E).2 (fun e he => AList.mem_lookup_iff.mpr he) htx
    unfold doReliableTimeouts
    dsimp only
    rw [nowMs_reliableTx, htx']
    exact hages
  | none =>
    -- a stream that is not there does not appear
    have hnone := (doReliableTimeouts_retains (E := E) o).streams (reliableKey sideId ty)
    rw [htx, Option.map_none, Option.map_eq_none_iff] at hnone
    unfold txState
    rw [htx, hnone]
    exact .refl _ _ _

/-! ## Sending -/

/-- A send that is not refused by the callback: the window is full and stays, or the next number goes to a
    frame that enters the window. -/
theorem sendSerializedWithReliable_window {sideId : Int32} {side : Side} {pkt : PacketData}
    (hside : o.sideAt sideId = some side) (htx : side.serializedTx = true) (hrel : side.reliableEnabled = true)
    (hty : S.isReliableType pkt.ty = true)
    (htaken : (o.txState sideId pkt.ty).sent.entries.length ≥ o.tuning.reliableMaxPending ∨
      o.sideTxActive = false ∧ E.callback o.calls = SEDS_OK) :
    let o' := (o.sendSerializedWithReliable S Z E sideId pkt).2
    (o'.txState sideId pkt.ty = o.txState sideId pkt.ty ∧ o'.obs = o.obs) ∨
    ∃ sent bytes, sent.partialAcked = false ∧
      o'.txState sideId pkt.ty =
        { nextSeq := nextSeq (o.txState sideId pkt.ty).nextSeq
          sentOrder := (o.txState sideId pkt.ty).sentOrder ++ [(o.txState sideId pkt.ty).nextSeq]
          sent := (o.txState sideId pkt.ty).sent.emplace (o.txState sideId pkt.ty).nextSeq sent } ∧
      o'.obs = o.obs ++ [.number sideId pkt.ty (o.txState sideId pkt.ty).nextSeq bytes, .transmit sideId bytes] := by
  unfold sendSerializedWithReliable
  rw [hside]
  simp only [htx, hrel, hty, Bool.not_true, Bool.false_eq_true, if_false, Bool.or_self]
  split
  · left
    refine ⟨?_, rfl⟩
    unfold setTxState
    conv_lhs => unfold txState
    rw [AList.lookup_insert]
    rfl
  · rename_i hroom
    right
    obtain ⟨hidle, hok⟩ := htaken.resolve_left hroom
    generalize serializePacketWithReliable S Z pkt _ = bytes
    unfold callSerializedTx call observe setTxState nowMs
    simp only [hidle, Bool.false_eq_true, if_false, hok, ne_eq, not_true_eq_false]
    refine ⟨⟨bytes, E.clock o.clockReads, 0, false, false⟩, bytes, rfl, ?_, by rw [List.append_assoc]; rfl⟩
    conv_lhs => unfold txState
    rw [AList.lookup_insert]
    rfl

/-! ## What the receiver says -/

theorem mem_queuedAcks {o : Owner} {sideId : Int32} {ty ack : UInt32} :
    ack ∈ o.queuedAcks sideId ty ↔ .control SEDS_DT_RELIABLE_ACK sideId ty ack ∈ o.obs := by
  unfold queuedAcks
  rw [List.mem_filterMap]
  constructor
  · rintro ⟨e, he, heq⟩
    split at heq
    · split at heq
      · rename_i h
        obtain ⟨rfl, rfl, rfl⟩ := h
        cases heq
        exact he
      · cases heq
    · cases heq
  · intro h
    exact ⟨_, h, by simp⟩

theorem mem_queuedPartialAcks {o : Owner} {sideId : Int32} {ty seq : UInt32} :
    seq ∈ o.queuedPartialAcks sideId ty ↔ .control SEDS_DT_RELIABLE_PARTIAL_ACK sideId ty seq ∈ o.obs := by
  unfold queuedPartialAcks
  rw [List.mem_filterMap]
  constructor
  · rintro ⟨e, he, heq⟩
    split at heq
    · split at heq
      · rename_i h
        obtain ⟨rfl, rfl, rfl⟩ := h
        cases heq
        exact he
      · cases heq
    · cases heq
  · intro h
    exact ⟨_, h, by simp⟩

/-- What an ordered frame numbered `seq` makes a receiver keep and say, whose stream moves from position
    `n` to position `n'`. -/
structure Replies (o o' : Owner) (sideId : Int32) (ty seq : UInt32) (n n' : Nat) : Prop where
  acks : ∀ ack ∈ o'.queuedAcks sideId ty, ack ∈ o.queuedAcks sideId ty ∨ ack.toNat = n'
  reports : ∀ q ∈ o'.queuedPartialAcks sideId ty,
    q ∈ o.queuedPartialAcks sideId ty ∨ q = seq ∧ (o.rxState sideId ty).expectedSeq < seq
  keeps : ∀ q ∈ (o.rxState sideId ty).buffered, q ∈ (o'.rxState sideId ty).buffered ∨ q.toNat ≤ n'
  stops : (o.rxState sideId ty).expectedSeq ∉ (o.rxState sideId ty).buffered →
    (o'.rxState sideId ty).expectedSeq ∉ (o'.rxState sideId ty).buffered
  stores : (o.rxState sideId ty).expectedSeq < seq →
    (o.rxState sideId ty).buffered.entries.length < o.tuning.reliableMaxPending ∨ seq ∈ (o.rxState sideId ty).buffered →
    seq ∈ (o'.rxState sideId ty).buffered

/-- New entries of the trace that are all one control packet. -/
theorem mem_obs_control {l : List Obs} {controlTy controlTy' : UInt32} {sideId : Int32} {ty seq q : UInt32}
    (hobs : o'.obs = o.obs ++ l) (hl : ∀ e ∈ l, e = .control controlTy sideId ty seq)
    (h : .control controlTy' sideId ty q ∈ o'.obs) :
    .control controlTy' sideId ty q ∈ o.obs ∨ controlTy' = controlTy ∧ q = seq := by
  rw [hobs] at h
  rcases List.mem_append.mp h with hold | hnew
  · exact .inl hold
  · cases hl _ hnew
    exact .inr ⟨rfl, rfl⟩

theorem ingressOld_replies {sideId : Int32} {ty seq : UInt32} {n : Nat}
    (hexp : (o.rxState sideId ty).expectedSeq = seqAt n) (hn : n < 2 ^ 32 - 1)
    (hold : seq < (o.rxState sideId ty).expectedSeq) : Replies o (o.ingressOld S E sideId ty) sideId ty seq n n := by
  have hlast : (if (o.rxState sideId ty).expectedSeq > 0 then (o.rxState sideId ty).expectedSeq - 1 else 0).toNat = n := by
    have hpos : (1 : UInt32) ≤ seqAt n := by
      rw [UInt32.le_iff_toNat_le, toNat_seqAt]
      exact Nat.le_add_left 1 _
    rw [hexp, if_pos (UInt32.lt_of_lt_of_le (by decide) hpos), UInt32.toNat_sub_of_le _ _ hpos, toNat_seqAt_of_lt hn]
    rfl
  unfold ingressOld queueReliableAck
  dsimp only
  generalize (if (o.rxState sideId ty).expectedSeq > 0 then (o.rxState sideId ty).expectedSeq - 1 else 0) = last at hlast ⊢
  obtain ⟨reads, queue, peak, l, heq, hl⟩ := queueReliableControl_writes (S := S) (E := E) SEDS_DT_RELIABLE_ACK
    (o.setRxState sideId ty { o.rxState sideId ty with lastAck := last }) sideId ty last
  have hrx : (queueReliableControl S E SEDS_DT_RELIABLE_ACK
      (o.setRxState sideId ty { o.rxState sideId ty with lastAck := last }) sideId ty last).rxState sideId ty =
        { o.rxState sideId ty with lastAck := last } := by
    rw [heq]
    exact rxState_setRxState o sideId ty _
  have hobs : (queueReliableControl S E SEDS_DT_RELIABLE_ACK
      (o.setRxState sideId ty { o.rxState sideId ty with lastAck := last }) sideId ty last).obs = o.obs ++ l := by
    rw [heq]
    rfl
  refine ⟨?_, ?_, ?_, ?_, ?_⟩
  · intro ack hack
    rcases mem_obs_control hobs hl (mem_queuedAcks.mp hack) with hold | ⟨-, rfl⟩
    · exact .inl (mem_queuedAcks.mpr hold)
    · exact .inr hlast
  · intro q hq
    rcases mem_obs_control hobs hl (mem_queuedPartialAcks.mp hq) with hold | ⟨hctl, -⟩
    · exact .inl (mem_queuedPartialAcks.mpr hold)
    · cases hctl
  · intro q hq
    rw [hrx]
    exact .inl hq
  · rw [hrx]
    exact id
  · intro hearly
    exact absurd hearly (UInt32.lt_asymm hold)

theorem ingressEarly_replies {sideId : Int32} {ty seq : UInt32} {n : Nat} (pkt : PacketData) (wireBytes : Bytes)
    (hearly : (o.rxState sideId ty).expectedSeq < seq) :
    Replies o (o.ingressEarly S E sideId ty seq pkt wireBytes) sideId ty seq n n := by
  unfold ingressEarly queueReliablePartialAck queueReliablePacketRequest
  dsimp only
  generalize hrx : (if (o.rxState sideId ty).buffered.entries.length < o.tuning.reliableMaxPending then
    { o.rxState sideId ty with buffered := Map.emplace (o.rxState sideId ty).buffered seq ⟨pkt, wireBytes⟩ }
    else o.rxState sideId ty : ReliableRxState) = rx
  -- the stream gains this frame at most, and does gain it when there is room
  have hstays : rx.expectedSeq = (o.rxState sideId ty).expectedSeq ∧
      (∀ q, q ∈ rx.buffered → q ∈ (o.rxState sideId ty).buffered ∨ q = seq) ∧
      (∀ q ∈ (o.rxState sideId ty).buffered, q ∈ rx.buffered) ∧
      ((o.rxState sideId ty).buffered.entries.length < o.tuning.reliableMaxPending → seq ∈ rx.buffered) := by
    rw [← hrx]
    split
    · refine ⟨rfl, ?_, ?_, fun _ => ?_⟩
      · intro q hq
        obtain ⟨bf, hbf⟩ := Map.mem_iff_lookup.mp hq
        rcases lookup_emplace hbf with hold | ⟨rfl, -⟩
        · exact .inl (Map.mem_iff_lookup.mpr ⟨bf, hold⟩)
        · exact .inr rfl
      · intro q hq
        unfold Map.emplace
        split
        · exact hq
        · exact (AList.mem_insert _).mpr (.inr hq)
      · unfold Map.emplace
        split
        · assumption
        · exact (AList.mem_insert _).mpr (.inl rfl)
    · rename_i hfull
      exact ⟨rfl, fun q => .inl, fun q => id, fun hroom => absurd hroom hfull⟩
  obtain ⟨hexpected, hgains, hkeeps, hstores⟩ := hstays
  -- two control packets, one after the other
  obtain ⟨reads, queue, peak, l, heq, hl⟩ := queueReliableControl_writes (S := S) (E := E)
    SEDS_DT_RELIABLE_PARTIAL_ACK (o.setRxState sideId ty rx) sideId ty seq
  obtain ⟨reads', queue', peak', l', heq', hl'⟩ := queueReliableControl_writes (S := S) (E := E)
    SEDS_DT_RELIABLE_PACKET_REQUEST (queueReliableControl S E SEDS_DT_RELIABLE_PARTIAL_ACK
      (o.setRxState sideId ty rx) sideId ty seq) sideId ty rx.expectedSeq
  have hobs : (queueReliableControl S E SEDS_DT_RELIABLE_PARTIAL_ACK (o.setRxState sideId ty rx) sideId ty seq).obs =
      o.obs ++ l := by
    rw [heq]
    rfl
  have hrx' : (queueReliableControl S E SEDS_DT_RELIABLE_PACKET_REQUEST (queueReliableControl S E
      SEDS_DT_RELIABLE_PARTIAL_ACK (o.setRxState sideId ty rx) sideId ty seq) sideId ty rx.expectedSeq).rxState
        sideId ty = rx := by
    rw [heq', heq]
    exact rxState_setRxState o sideId ty rx
  have hobs' : (queueReliableControl S E SEDS_DT_RELIABLE_PACKET_REQUEST (queueReliableControl S E
      SEDS_DT_RELIABLE_PARTIAL_ACK (o.setRxState sideId ty rx) sideId ty seq) sideId ty rx.expectedSeq).obs =
        (queueReliableControl S E SEDS_DT_RELIABLE_PARTIAL_ACK (o.setRxState sideId ty rx) sideId ty seq).obs ++ l' := by
    rw [heq']
  refine ⟨?_, ?_, ?_, ?_, ?_⟩
  · intro ack hack
    rcases mem_obs_control hobs' hl' (mem_queuedAcks.mp hack) with hold | ⟨hctl, -⟩
    · rcases mem_obs_control hobs hl hold with hold | ⟨hctl, -⟩
      · exact .inl (mem_queuedAcks.mpr hold)
      · cases hctl
    · cases hctl
  · intro q hq
    rcases mem_obs_control hobs' hl' (mem_queuedPartialAcks.mp hq) with hold | ⟨hctl, -⟩
    · rcases mem_obs_control hobs hl hold with hold | ⟨-, rfl⟩
      · exact .inl (mem_queuedPartialAcks.mpr hold)
      · exact .inr ⟨rfl, hearly⟩
    · cases hctl
  · intro q hq
    rw [hrx']
    exact .inl (hkeeps q hq)
  · rw [hrx', hexpected]
    intro hnot hin
    rcases hgains _ hin with hold | heqseq
    · exact hnot hold
    · exact absurd hearly (heqseq ▸ UInt32.lt_irrefl _)
  · intro _ hroom
    rw [hrx']
    exact hroom.elim hstores (hkeeps seq)

/-- The release loop ends at a gap: what it has not released is still there, and the next number is not. -/
theorem releaseBuffered_drains (sideId : Int32) (rounds n : Nat) (rx : ReliableRxState)
    (hexp : rx.expectedSeq = seqAt n) (hrounds : rx.buffered.entries.length ≤ rounds) :
    (releaseBuffered sideId rounds rx).1.expectedSeq ∉ (releaseBuffered sideId rounds rx).1.buffered ∧
    ∀ q ∈ rx.buffered, q ∈ (releaseBuffered sideId rounds rx).1.buffered ∨
      ∃ m, m < n + (releaseBuffered sideId rounds rx).2.length ∧ q = seqAt m := by
  induction rounds generalizing n rx with
  | zero =>
    have hempty : ∀ q, q ∉ rx.buffered := by
      intro q hq
      have hkeys : rx.buffered.keys = [] := by
        rw [← List.length_eq_zero_iff, AList.keys, List.keys, List.length_map]
        omega
      rw [AList.mem_keys, hkeys] at hq
      cases hq
    exact ⟨hempty _, fun q hq => absurd hq (hempty q)⟩
  | succ rounds ih =>
    unfold releaseBuffered
    cases hbf : rx.buffered.lookup rx.expectedSeq with
    | none =>
      refine ⟨?_, fun q hq => .inl hq⟩
      rw [Map.mem_iff_lookup]
      rintro ⟨bf, hsome⟩
      rw [hbf] at hsome
      cases hsome
    | some bf =>
      dsimp only
      have hin : rx.expectedSeq ∈ rx.buffered.keys := AList.mem_keys.mp (Map.mem_iff_lookup.mpr ⟨bf, hbf⟩)
      have hlength : (rx.buffered.erase rx.expectedSeq).entries.length ≤ rounds := by
        have hkeys := congrArg List.length (AList.keys_erase rx.expectedSeq rx.buffered)
        rw [List.length_erase_of_mem hin] at hkeys
        simp only [AList.keys, List.keys, List.length_map] at hkeys
        omega
      obtain ⟨hgap, hkept⟩ := ih (n + 1) ⟨nextSeq rx.expectedSeq, rx.expectedSeq, rx.buffered.erase rx.expectedSeq⟩
        (by rw [hexp, nextSeq_seqAt]) hlength
      refine ⟨hgap, fun q hq => ?_⟩
      rw [List.length_cons]
      by_cases hq' : q = rx.expectedSeq
      · exact .inr ⟨n, by omega, hq'.trans hexp⟩
      · rcases hkept q (AList.mem_erase.mpr ⟨hq', hq⟩) with hstill | ⟨m, hm, hqm⟩
        · exact .inl hstill
        · exact .inr ⟨m, by omega, hqm⟩

theorem ingressNext_replies {sideId : Int32} {ty seq : UInt32} {n : Nat} {items : List RxItem}
    (hexp : (o.rxState sideId ty).expectedSeq = seqAt n) (hseq : ¬ (o.rxState sideId ty).expectedSeq < seq)
    (hpushes : (o.ingressNext S E sideId ty).reliableReleasedRx = o.reliableReleasedRx ++ items)
    (hn : n + 1 + items.length < 2 ^ 32 - 1) :
    Replies o (o.ingressNext S E sideId ty) sideId ty seq n (n + 1 + items.length) := by
  unfold ingressNext at hpushes ⊢
  dsimp only at hpushes ⊢
  generalize hrx : ({ o.rxState sideId ty with
    expectedSeq := nextSeq (o.rxState sideId ty).expectedSeq
    lastAck := (o.rxState sideId ty).expectedSeq } : ReliableRxState) = rx at hpushes ⊢
  have hexp₁ : rx.expectedSeq = seqAt (n + 1) := by rw [← hrx, ← nextSeq_seqAt, ← hexp]
  have hbuffered : rx.buffered = (o.rxState sideId ty).buffered := by rw [← hrx]
  obtain ⟨hack, hexp', -, -⟩ := releaseBuffered_spec sideId (o.rxState sideId ty).buffered.entries.length n rx
    (by rw [← hrx]; exact hexp) hexp₁
  obtain ⟨hgap, hkept⟩ := releaseBuffered_drains sideId (o.rxState sideId ty).buffered.entries.length (n + 1) rx
    hexp₁ (Nat.le_of_eq (by rw [hbuffered]))
  generalize releaseBuffered sideId (o.rxState sideId ty).buffered.entries.length rx = r at hpushes hack hexp' hgap hkept ⊢
  obtain ⟨rx', released⟩ := r
  dsimp only at hpushes hack hexp' hgap hkept ⊢
  obtain ⟨reads, queue, peak, l, heq, hl⟩ := queueReliableControl_writes (S := S) (E := E) SEDS_DT_RELIABLE_ACK
    ((o.setRxState sideId ty rx').pushReleased released) sideId ty rx'.lastAck
  unfold queueReliableAck at hpushes ⊢
  have hobs : (queueReliableControl S E SEDS_DT_RELIABLE_ACK
      ((o.setRxState sideId ty rx').pushReleased released) sideId ty rx'.lastAck).obs = o.obs ++ l := by
    rw [heq]
    rfl
  have hrx' : (queueReliableControl S E SEDS_DT_RELIABLE_ACK
      ((o.setRxState sideId ty rx').pushReleased released) sideId ty rx'.lastAck).rxState sideId ty = rx' := by
    rw [heq]
    exact rxState_setRxState o sideId ty rx'
  have hsame : released = items := by
    rw [heq] at hpushes
    exact List.append_cancel_left hpushes
  subst hsame
  refine ⟨?_, ?_, ?_, ?_, fun hearly => absurd hearly hseq⟩
  · intro ack hmem
    rcases mem_obs_control hobs hl (mem_queuedAcks.mp hmem) with hold | ⟨-, rfl⟩
    · exact .inl (mem_queuedAcks.mpr hold)
    · right
      rw [hack, toNat_seqAt_of_lt (by omega)]
      omega
  · intro q hq
    rcases mem_obs_control hobs hl (mem_queuedPartialAcks.mp hq) with hold | ⟨hctl, -⟩
    · exact .inl (mem_queuedPartialAcks.mpr hold)
    · cases hctl
  · intro q hq
    rw [hrx']
    rcases hkept q (hbuffered ▸ hq) with hstill | ⟨m, hm, rfl⟩
    · exact .inl hstill
    · right
      rw [toNat_seqAt_of_lt (by omega)]
      omega
  · intro _
    rw [hrx']
    exact hgap

/-- What an ordered frame makes a receiver say. -/
theorem processReliableIngress_replies {sideId : Int32} {frame : FrameInfoLite} {pkt : PacketData}
    {wireBytes : Bytes} {hdr : ReliableHeaderLite} {n : Nat} {items : List RxItem} (hhdr : frame.reliable = some hdr)
    (hflags : orderedFlags hdr.flags = true)
    (hexp : (o.rxState sideId frame.envelope.ty).expectedSeq = seqAt n)
    (hin : Ingests o (o.processReliableIngress S E sideId frame pkt wireBytes).2 sideId frame.envelope.ty
      hdr.seq ⟨pkt, wireBytes⟩ n (o.processReliableIngress S E sideId frame pkt wireBytes).1 items)
    (hn : n + (passedOn (o.processReliableIngress S E sideId frame pkt wireBytes).1
      (releasedItem sideId ⟨pkt, wireBytes⟩) items).length < 2 ^ 32 - 1) :
    Replies o (o.processReliableIngress S E sideId frame pkt wireBytes).2 sideId frame.envelope.ty hdr.seq n
      (n + (passedOn (o.processReliableIngress S E sideId frame pkt wireBytes).1
        (releasedItem sideId ⟨pkt, wireBytes⟩) items).length) := by
  have halone := hin.alone
  have hpushes := hin.pushes
  clear hin
  unfold orderedFlags at hflags
  simp only [Bool.and_eq_true, beq_iff_eq] at hflags
  obtain ⟨⟨hack, huns⟩, hunord⟩ := hflags
  unfold processReliableIngress at *
  rw [hhdr] at *
  simp only [hack, huns, hunord, ne_eq, not_true_eq_false, if_false] at *
  split at halone
  · rename_i hlt
    rw [halone rfl] at hn ⊢
    rw [if_pos hlt] at hn ⊢
    exact ingressOld_replies hexp (by simpa [passedOn] using hn) hlt
  · rename_i hge
    rw [if_neg hge] at hn hpushes ⊢
    split at halone
    · rename_i hearly
      rw [halone rfl, if_pos hearly] at hn ⊢
      exact ingressEarly_replies pkt wireBytes hearly
    · rename_i hle
      rw [if_neg hle] at hn hpushes ⊢
      have hlength : (passedOn true (releasedItem sideId ⟨pkt, wireBytes⟩) items).length = 1 + items.length := by
        unfold passedOn
        rw [if_pos rfl, List.singleton_append, List.length_cons, Nat.add_comm]
      rw [hlength, ← Nat.add_assoc] at hn ⊢
      exact ingressNext_replies hexp hle hpushes hn

/-! ## Other streams -/

section

variable {sideId : Int32} {ty : UInt32} {key : UInt64}

theorem txState_insert_ne {m : Map UInt64 ReliableTxState} {tx : ReliableTxState}
    (hset : o'.reliableTx = m.insert key tx) (hm : m = o.reliableTx) (hne : reliableKey sideId ty ≠ key) :
    o'.txState sideId ty = o.txState sideId ty := by
  unfold txState
  rw [hset, AList.lookup_insert_ne hne, hm]

theorem handleAck_txState_ne {s : Int32} {t : UInt32} (hne : reliableKey sideId ty ≠ reliableKey s t) (ack : UInt32) :
    (o.handleAck S s t ack).txState sideId ty = o.txState sideId ty := by
  unfold handleAck
  split
  · rfl
  · split <;> exact txState_insert_ne rfl rfl hne

theorem handlePartialAck_txState_ne {s : Int32} {t : UInt32} (hne : reliableKey sideId ty ≠ reliableKey s t)
    (seq : UInt32) : (o.handlePartialAck s t seq).txState sideId ty = o.txState sideId ty := by
  unfold handlePartialAck
  split
  · rfl
  · split
    · rfl
    · exact txState_insert_ne rfl rfl hne

theorem handlePacketRequest_txState_ne {s : Int32} {t : UInt32} (hne : reliableKey sideId ty ≠ reliableKey s t)
    (seq : UInt32) : (o.handlePacketRequest E s t seq).txState sideId ty = o.txState sideId ty := by
  unfold handlePacketRequest
  split
  · rfl
  · split
    · rfl
    · split
      · rfl
      · dsimp only
        split
        · rfl
        · exact txState_insert_ne rfl (callSerializedTx_reliableTx o s _) hne

end

end Owner

/-! ## The link -/

namespace Link

open Owner

section

variable (C : LinkConfig)

/-- The sender's window. -/
def window (L : Link) : ReliableTxState := L.sender.txState C.txSide C.ty

/-- The numbers the receiver has reported. -/
def reports (L : Link) : List UInt32 := L.receiver.queuedPartialAcks C.rxSide C.ty

/-- The ACKs and partial ACKs that reach the stream are the receiver's own. -/
def Conforms (L : Link) : LinkEvent C.ty → Prop
  | .ack sideId ty ack => sideId = C.txSide → ty = C.ty → ack ∈ L.receiver.queuedAcks C.rxSide C.ty
  | .partialAck sideId ty seq => sideId = C.txSide → ty = C.ty → seq ∈ L.reports C
  | _ => True

/-- What keeps the window open. A number goes only to a frame that the callback takes; the receiver has room
    for a frame it will report; and a frame is given up only when the receiver has it already, and has
    reported none of those that stay. -/
def KeepsOpen (L : Link) : LinkEvent C.ty → Prop
  | .send _ _ =>
    (L.window C).sent.entries.length ≥ L.sender.tuning.reliableMaxPending ∨
      L.sender.sideTxActive = false ∧ C.txEnv.callback L.sender.calls = SEDS_OK
  | .timeouts =>
    ∀ e ∈ (L.window C).sent.entries, retires L.sender.tuning (L.sender.nowMs C.txEnv).1 e.2 = true →
      e.1.toNat ≤ L.released.length ∧
      ∀ f ∈ (L.window C).sent.entries, retires L.sender.tuning (L.sender.nowMs C.txEnv).1 f.2 = false →
        f.1 ∉ L.reports C
  | .arrive i =>
    ∀ bytes ∈ (L.sender.handed C.txSide)[i]?, ∀ seq ∈ frameSeq C.schema C.codec bytes,
      (L.receiver.rxState C.rxSide C.ty).expectedSeq < seq →
      (L.receiver.rxState C.rxSide C.ty).buffered.entries.length < L.receiver.tuning.reliableMaxPending ∨
        seq ∈ (L.receiver.rxState C.rxSide C.ty).buffered
  | _ => True

/-- Every step of a run is taken in a state that allows it. -/
def Along (P : Link → LinkEvent C.ty → Prop) (L : Link) : List (LinkEvent C.ty) → Prop
  | [] => True
  | e :: events => P L e ∧ Along P (L.step C e) events

instance : (L : Link) → (e : LinkEvent C.ty) → Decidable (L.Conforms C e)
  | _, .ack .. => inferInstanceAs (Decidable (_ → _ → _))
  | _, .partialAck .. => inferInstanceAs (Decidable (_ → _ → _))
  | _, .send .. | _, .packetRequest .. | _, .timeouts | _, .arrive _ | _, .takeReleased | _, .inCallback _
  | _, .tuneSender _ | _, .tuneReceiver _ => inferInstanceAs (Decidable True)

instance : (L : Link) → (e : LinkEvent C.ty) → Decidable (L.KeepsOpen C e)
  | _, .send .. => inferInstanceAs (Decidable (_ ∨ _))
  | _, .timeouts => inferInstanceAs (Decidable (∀ e ∈ _, _ → _))
  | _, .arrive _ => inferInstanceAs (Decidable (∀ bytes ∈ _, ∀ seq ∈ _, _ → _))
  | _, .ack .. | _, .partialAck .. | _, .packetRequest .. | _, .takeReleased | _, .inCallback _
  | _, .tuneSender _ | _, .tuneReceiver _ => inferInstanceAs (Decidable True)

instance decidableAlong (P : Link → LinkEvent C.ty → Prop) [∀ L e, Decidable (P L e)] :
    (L : Link) → (events : List (LinkEvent C.ty)) → Decidable (L.Along C P events)
  | _, [] => inferInstanceAs (Decidable True)
  | L, e :: events => @instDecidableAnd _ _ _ (decidableAlong P (L.step C e) events)

/-- The window against the receiver. Whatever the receiver lacks is in the window, whatever it has reported it
    keeps, and beyond every ACK it has sent the window has a frame it has not reported, if any. -/
structure WindowInv (L : Link) : Prop where
  ok : WindowOk (L.window C)
  lacking : ∀ p ∈ L.sender.numbered C.txSide C.ty, L.released.length < p.1.toNat → p.1 ∈ (L.window C).sent
  reported : ∀ q, Reported (L.window C) q → q ∈ L.reports C
  numbered : ∀ q ∈ L.reports C, ∃ bytes, (q, bytes) ∈ L.sender.numbered C.txSide C.ty
  kept : ∀ q ∈ L.reports C, q ∈ (L.receiver.rxState C.rxSide C.ty).buffered ∨ q.toNat ≤ L.released.length
  gap : (L.receiver.rxState C.rxSide C.ty).expectedSeq ∉ (L.receiver.rxState C.rxSide C.ty).buffered
  opens : ∀ ack, ack = 0 ∨ ack ∈ L.receiver.queuedAcks C.rxSide C.ty →
    ∀ q ∈ (L.window C).sent, ack < q → ∃ p ∈ (L.window C).sent, ack < p ∧ p ∉ L.reports C

end

section

variable {C : LinkConfig} {L L' : Link}

/-- The receiver has no more than was numbered. -/
theorem Inv.released_le (hinv : Inv C L) : L.released.length ≤ (L.sender.numbered C.txSide C.ty).length := by
  have hprefix : L.released <+: (L.sender.numbered C.txSide C.ty).map Prod.snd := by
    rw [← InSequence.prefix_iff]
    refine hinv.receiver.inOrder.imp ?_
    intro n bytes hn
    rw [List.getElem?_map, hn.1]
    rfl
  have := hprefix.length_le
  rwa [List.length_map] at this

/-- A frame of the window is numbered. -/
theorem Inv.window_numbered (hinv : Inv C L) {q : UInt32} (hq : q ∈ (L.window C).sent) :
    ∃ bytes, (q, bytes) ∈ L.sender.numbered C.txSide C.ty := by
  obtain ⟨sent, hsent⟩ := Map.mem_iff_lookup.mp hq
  unfold window txState at hsent
  cases htx : L.sender.reliableTx.lookup (reliableKey C.txSide C.ty) with
  | none =>
    rw [htx] at hsent
    exact absurd (Map.mem_iff_lookup.mpr ⟨sent, hsent⟩) (AList.notMem_empty q)
  | some tx =>
    rw [htx] at hsent
    exact ⟨sent.bytes, hinv.sender.held _ q sent.bytes ⟨tx, sent, htx, hsent, rfl⟩⟩

/-- A numbered frame has one of the numbers `1, 2, ..`. -/
theorem Inv.number_bounds (hinv : Inv C L) (hused : (L.sender.numbered C.txSide C.ty).length < 2 ^ 32 - 1)
    {p : UInt32 × Bytes} (hp : p ∈ L.sender.numbered C.txSide C.ty) :
    0 < p.1.toNat ∧ p.1.toNat ≤ (L.sender.numbered C.txSide C.ty).length := by
  obtain ⟨i, hi⟩ := List.mem_iff_getElem?.mp hp
  obtain ⟨hlt, -⟩ := List.getElem?_eq_some_iff.mp hi
  have hseq := hinv.sender.numbers i p hi
  rw [Nat.zero_add] at hseq
  rw [hseq, toNat_seqAt_of_lt (by omega)]
  omega

/-- The number the receiver waits for is not reported. -/
theorem expected_notReported (hinv : Inv C L) (hn : L.released.length < 2 ^ 32 - 1)
    (hkept : ∀ q ∈ L.reports C, q ∈ (L.receiver.rxState C.rxSide C.ty).buffered ∨ q.toNat ≤ L.released.length)
    (hgap : (L.receiver.rxState C.rxSide C.ty).expectedSeq ∉ (L.receiver.rxState C.rxSide C.ty).buffered) :
    seqAt L.released.length ∉ L.reports C := by
  intro hmem
  rcases hkept _ hmem with hbuffered | hle
  · exact hgap (hinv.receiver.position ▸ hbuffered)
  · rw [toNat_seqAt_of_lt hn] at hle
    omega

/-- If anything beyond the receiver's position is numbered, the number the receiver waits for is in the
    window. -/
theorem expected_mem (hinv : Inv C L) (hused : (L.sender.numbered C.txSide C.ty).length < 2 ^ 32 - 1)
    (hlacking : ∀ p ∈ L.sender.numbered C.txSide C.ty, L.released.length < p.1.toNat → p.1 ∈ (L.window C).sent)
    {p : UInt32 × Bytes} (hp : p ∈ L.sender.numbered C.txSide C.ty) (hbeyond : L.released.length < p.1.toNat) :
    seqAt L.released.length ∈ (L.window C).sent := by
  have hlt := (hinv.number_bounds hused hp).2
  obtain ⟨p', hp'⟩ : ∃ p', (L.sender.numbered C.txSide C.ty)[L.released.length]? = some p' :=
    ⟨_, List.getElem?_eq_getElem (by omega)⟩
  have hseq := hinv.sender.numbers _ p' hp'
  rw [Nat.zero_add] at hseq
  rw [← hseq]
  apply hlacking p' (List.mem_of_getElem? hp')
  rw [hseq, toNat_seqAt_of_lt (by omega)]
  omega

/-! ## Steps of the sender -/

/-- The sender has done something that leaves the frames of its window where they are. -/
theorem WindowInv.stays (h : WindowInv C L) (hreceiver : L'.receiver = L.receiver) (hreleased : L'.released = L.released)
    (hnumbered : L'.sender.numbered C.txSide C.ty = L.sender.numbered C.txSide C.ty)
    (hok : WindowOk (L'.window C)) (hsent : ∀ q, q ∈ (L'.window C).sent ↔ q ∈ (L.window C).sent)
    (hreported : ∀ q, Reported (L'.window C) q → q ∈ L.reports C) : WindowInv C L' := by
  have hreports : L'.reports C = L.reports C := by
    unfold reports
    rw [hreceiver]
  refine ⟨hok, ?_, hreports ▸ hreported, ?_, ?_, hreceiver ▸ h.gap, ?_⟩
  · rw [hnumbered, hreleased]
    intro p hp hbeyond
    exact (hsent p.1).mpr (h.lacking p hp hbeyond)
  · rw [hreports, hnumbered]
    exact h.numbered
  · rw [hreports, hreceiver, hreleased]
    exact h.kept
  · rw [hreports, hreceiver]
    intro ack hack q hq hlt
    obtain ⟨p, hp, hlt', hnot⟩ := h.opens ack hack q ((hsent q).mp hq) hlt
    exact ⟨p, (hsent p).mpr hp, hlt', hnot⟩

/-- The window is not touched at all. -/
theorem WindowInv.of_window_eq (h : WindowInv C L) (hreceiver : L'.receiver = L.receiver)
    (hreleased : L'.released = L.released)
    (hnumbered : L'.sender.numbered C.txSide C.ty = L.sender.numbered C.txSide C.ty)
    (hwindow : L'.window C = L.window C) : WindowInv C L' :=
  h.stays hreceiver hreleased hnumbered (hwindow ▸ h.ok) (fun q => by rw [hwindow]) (fun q hq => h.reported q (hwindow ▸ hq))

/-- A stream other than this one. -/
theorem key_ne {sideId : Int32} {ty : UInt32} (h : ¬ (sideId = C.txSide ∧ ty = C.ty)) :
    reliableKey C.txSide C.ty ≠ reliableKey sideId ty := by
  intro heq
  obtain ⟨rfl, rfl⟩ := reliableKey_inj.mp heq
  exact h ⟨rfl, rfl⟩

theorem WindowInv.ack (h : WindowInv C L) (hty : OrderedType C.schema C.ty) {ack : UInt32}
    (hack : ack ∈ L.receiver.queuedAcks C.rxSide C.ty) (hinv : Inv C L) :
    WindowInv C { L with sender := L.sender.handleAck C.schema C.txSide C.ty ack } := by
  obtain ⟨hshrinks, hsent⟩ := handleAck_window hty.ordered h.ok ack
  have hnumbered := (hinv.sender.retains (handleAck_retains (S := C.schema) L.sender C.txSide C.ty ack)).2
  have hle := hinv.receiver.acks ack hack
  refine ⟨h.ok.shrinks hshrinks, ?_, fun q hq => h.reported q (hshrinks.reported q hq), ?_, h.kept, h.gap, ?_⟩
  · intro p hp hbeyond
    rw [hnumbered] at hp
    refine (hsent p.1).mpr ⟨h.lacking p hp hbeyond, ?_⟩
    rw [UInt32.lt_iff_toNat_lt]
    exact Nat.lt_of_le_of_lt hle hbeyond
  · intro q hq
    rw [hnumbered]
    exact h.numbered q hq
  · -- what is left lies beyond both ACKs, and the later of them opens it
    intro other hother q hq hlt
    obtain ⟨hold, hackq⟩ := (hsent q).mp hq
    by_cases hcmp : other ≤ ack
    · obtain ⟨p, hp, hackp, hnot⟩ := h.opens ack (.inr hack) q hold hackq
      exact ⟨p, (hsent p).mpr ⟨hp, hackp⟩, UInt32.lt_of_le_of_lt hcmp hackp, hnot⟩
    · obtain ⟨p, hp, hotherp, hnot⟩ := h.opens other hother q hold hlt
      exact ⟨p, (hsent p).mpr ⟨hp, UInt32.lt_trans (UInt32.not_le.mp hcmp) hotherp⟩, hotherp, hnot⟩

theorem WindowInv.partialAck (h : WindowInv C L) {seq : UInt32} (hseq : seq ∈ L.reports C) (hinv : Inv C L) :
    WindowInv C { L with sender := L.sender.handlePartialAck C.txSide C.ty seq } := by
  obtain ⟨horder, hnext, hsent, hreported⟩ := handlePartialAck_window L.sender C.txSide C.ty seq
  refine h.stays rfl rfl (hinv.sender.retains (handlePartialAck_retains L.sender C.txSide C.ty seq)).2 ?_ hsent ?_
  · refine ⟨?_, ?_, ?_⟩
    · exact horder ▸ h.ok.sorted
    · intro q hq
      exact horder ▸ h.ok.listed q ((hsent q).mp hq)
    · intro q hq
      exact hnext ▸ h.ok.below q (horder ▸ hq)
  · intro q hq
    rcases hreported q hq with hold | rfl
    · exact h.reported q hold
    · exact hseq

theorem WindowInv.packetRequest (h : WindowInv C L) (seq : UInt32) (hinv : Inv C L) :
    WindowInv C { L with sender := L.sender.handlePacketRequest C.txEnv C.txSide C.ty seq } := by
  obtain ⟨hshrinks, hkeeps⟩ := handlePacketRequest_window (E := C.txEnv) L.sender C.txSide C.ty seq
  exact h.stays rfl rfl (hinv.sender.retains (handlePacketRequest_retains L.sender C.txSide C.ty seq)).2
    (h.ok.shrinks hshrinks) (fun q => ⟨hshrinks.sent q, hkeeps q⟩) (fun q hq => h.reported q (hshrinks.reported q hq))

/-- Timeouts: either every frame stays, or the receiver has reported none of those that do. -/
theorem WindowInv.timeouts (h : WindowInv C L) (hinv : Inv C L) (hkeeps : L.KeepsOpen C .timeouts) :
    WindowInv C { L with sender := L.sender.doReliableTimeouts C.txEnv } := by
  have hages := doReliableTimeouts_window (E := C.txEnv) L.sender h.ok
  have hnumbered := (hinv.sender.retains (doReliableTimeouts_retains (E := C.txEnv) L.sender)).2
  generalize hL' : ({ L with sender := L.sender.doReliableTimeouts C.txEnv } : Link) = L'
  have hwindow : (L.sender.doReliableTimeouts C.txEnv).txState C.txSide C.ty = L'.window C := by
    rw [← hL']
    rfl
  rw [hwindow] at hages
  rcases hages.stays with hsame | hstays
  · subst hL'
    exact h.of_window_eq rfl rfl hnumbered hsame
  have hok' := h.ok.shrinks hages.shrinks
  have hreported' : ∀ q, Reported (L'.window C) q → q ∈ L.reports C :=
    fun q hq => h.reported q (hages.shrinks.reported q hq)
  by_cases hall : ∀ e ∈ (L.window C).sent.entries, retires L.sender.tuning (L.sender.nowMs C.txEnv).1 e.2 = false
  · subst hL'
    refine h.stays rfl rfl hnumbered hok' (fun q => ⟨hages.shrinks.sent q, fun hq => ?_⟩) hreported'
    obtain ⟨sent, hsent⟩ := Map.mem_iff_lookup.mp hq
    exact (hstays q sent hsent).mp (hall _ (Map.mem_of_lookup hsent))
  · push Not at hall
    obtain ⟨e, he, hretired⟩ := hall
    have hnone := (hkeeps e he (Bool.eq_true_of_not_eq_false hretired)).2
    have hclear : ∀ q ∈ (L'.window C).sent, q ∉ L.reports C := by
      intro q hq
      obtain ⟨sent, hsent⟩ := Map.mem_iff_lookup.mp (hages.shrinks.sent q hq)
      exact hnone _ (Map.mem_of_lookup hsent) ((hstays q sent hsent).mpr hq)
    subst hL'
    refine ⟨hok', ?_, hreported', ?_, h.kept, h.gap, fun ack _ q hq hlt => ⟨q, hq, hlt, hclear q hq⟩⟩
    · intro p hp hbeyond
      rw [hnumbered] at hp
      obtain ⟨sent, hsent⟩ := Map.mem_iff_lookup.mp (h.lacking p hp hbeyond)
      apply (hstays p.1 sent hsent).mp
      -- a frame that is given up is one the receiver has
      cases hgone : retires L.sender.tuning (L.sender.nowMs C.txEnv).1 sent with
      | false => rfl
      | true => exact absurd (hkeeps _ (Map.mem_of_lookup hsent) hgone).1 (Nat.not_le.mpr hbeyond)
    · intro q hq
      rw [hnumbered]
      exact h.numbered q hq

theorem mem_emplace_iff {κ α : Type} [DecidableEq κ] {m : Map κ α} {k a : κ} {v : α} :
    a ∈ m.emplace k v ↔ a ∈ m ∨ a = k := by
  unfold Map.emplace
  split
  · rename_i hk
    refine ⟨.inl, ?_⟩
    rintro (h | rfl)
    · exact h
    · exact hk
  · rw [AList.mem_insert, or_comm]

/-- A new frame enters the window: nothing has been said about it yet, so it opens the window. -/
theorem WindowInv.grows (h : WindowInv C L) (hinv : Inv C L) (hreceiver : L'.receiver = L.receiver)
    (hreleased : L'.released = L.released) {sent : Sent} {bytes : Bytes} (hmark : sent.partialAcked = false)
    (hwindow : L'.window C =
      { nextSeq := nextSeq (L.window C).nextSeq
        sentOrder := (L.window C).sentOrder ++ [(L.window C).nextSeq]
        sent := (L.window C).sent.emplace (L.window C).nextSeq sent })
    (hnumbered : L'.sender.numbered C.txSide C.ty =
      L.sender.numbered C.txSide C.ty ++ [((L.window C).nextSeq, bytes)])
    (hused : (L'.sender.numbered C.txSide C.ty).length < 2 ^ 32 - 1) : WindowInv C L' := by
  rw [hnumbered, List.length_append, List.length_singleton] at hused
  have hnext : (L.window C).nextSeq = seqAt (L.sender.numbered C.txSide C.ty).length := hinv.sender.next
  have hnum : (L.window C).nextSeq.toNat = (L.sender.numbered C.txSide C.ty).length + 1 := by
    rw [hnext, toNat_seqAt_of_lt (by omega)]
  have hnum' : (nextSeq (L.window C).nextSeq).toNat = (L.sender.numbered C.txSide C.ty).length + 2 := by
    rw [hnext, nextSeq_seqAt, toNat_seqAt_of_lt (by omega)]
  have hmem : ∀ q, q ∈ (L'.window C).sent ↔ q ∈ (L.window C).sent ∨ q = (L.window C).nextSeq := by
    intro q
    rw [hwindow]
    exact mem_emplace_iff
  have hreports : L'.reports C = L.reports C := by
    unfold reports
    rw [hreceiver]
  have hnew : (L.window C).nextSeq ∉ L.reports C := by
    intro hin
    obtain ⟨b, hb⟩ := h.numbered _ hin
    have := (hinv.number_bounds (by omega) hb).2
    dsimp only at this
    omega
  refine ⟨?_, ?_, ?_, ?_, ?_, hreceiver ▸ h.gap, ?_⟩
  · refine ⟨?_, ?_, ?_⟩
    · rw [hwindow, List.pairwise_append]
      refine ⟨h.ok.sorted, List.pairwise_singleton _ _, ?_⟩
      intro q hq p hp
      rw [List.mem_singleton.mp hp]
      exact h.ok.below q hq
    · intro q hq
      rw [hwindow, List.mem_append, List.mem_singleton]
      rcases (hmem q).mp hq with hold | rfl
      · exact .inl (h.ok.listed q hold)
      · exact .inr rfl
    · intro q hq
      rw [hwindow] at hq ⊢
      rw [UInt32.lt_iff_toNat_lt, hnum']
      rcases List.mem_append.mp hq with hold | hlast
      · have := UInt32.lt_iff_toNat_lt.mp (h.ok.below q hold)
        omega
      · rw [List.mem_singleton.mp hlast]
        omega
  · rw [hnumbered, hreleased]
    intro p hp hbeyond
    rcases List.mem_append.mp hp with hold | hlast
    · exact (hmem p.1).mpr (.inl (h.lacking p hold hbeyond))
    · rw [List.mem_singleton.mp hlast]
      exact (hmem _).mpr (.inr rfl)
  · rw [hreports]
    rintro q ⟨s, hlookup, hset⟩
    rw [hwindow] at hlookup
    rcases lookup_emplace hlookup with hold | ⟨-, rfl⟩
    · exact h.reported q ⟨s, hold, hset⟩
    · rw [hmark] at hset
      cases hset
  · rw [hreports, hnumbered]
    intro q hq
    obtain ⟨b, hb⟩ := h.numbered q hq
    exact ⟨b, List.mem_append_left _ hb⟩
  · rw [hreports, hreceiver, hreleased]
    exact h.kept
  · rw [hreports, hreceiver]
    intro ack hack q _ _
    refine ⟨(L.window C).nextSeq, (hmem _).mpr (.inr rfl), ?_, hnew⟩
    rw [UInt32.lt_iff_toNat_lt, hnum]
    rcases hack with rfl | hack
    · exact Nat.succ_pos _
    · have hmark := hinv.receiver.acks ack hack
      have hle := hinv.released_le
      omega

theorem WindowInv.send (h : WindowInv C L) (hty : OrderedType C.schema C.ty) (hinv : Inv C L) {pkt : PacketData}
    (hpkt : pkt.ty = C.ty) (hkeeps : L.KeepsOpen C (.send pkt hpkt))
    (hused : ((L.step C (.send pkt hpkt)).sender.numbered C.txSide C.ty).length < 2 ^ 32 - 1) :
    WindowInv C (L.step C (.send pkt hpkt)) := by
  obtain ⟨side, hside, htx, hrel⟩ := hinv.sender.side
  have hreliable : C.schema.isReliableType pkt.ty = true := by
    unfold Schema.isReliableType TypeInfo.reliable
    rw [hpkt, hty.valid, hty.ordered]
    rfl
  have hspec := sendSerializedWithReliable_window (Z := C.codec) (E := C.txEnv) hside htx hrel hreliable
    (hpkt ▸ hkeeps)
  rw [hpkt] at hspec
  rcases hspec with ⟨hwindow, hobs⟩ | ⟨sent, bytes, hmark, hwindow, hobs⟩
  · refine h.of_window_eq rfl rfl ?_ hwindow
    exact congrArg (List.filterMap _) hobs
  · refine h.grows hinv rfl rfl hmark hwindow (?_ : _ = _ ++ [(_, bytes)]) hused
    refine (congrArg (List.filterMap _) hobs).trans ?_
    rw [List.filterMap_append]
    simp [Owner.numbered, window]

/-! ## Arrivals -/

/-- A numbered frame is taken in: the receiver may report it, and whatever it says or keeps, the number it
    waits for is in the window and not reported. -/
theorem WindowInv.receives (h : WindowInv C L) (hinv : Inv C L) (hinv' : Inv C L')
    (hused : (L.sender.numbered C.txSide C.ty).length < 2 ^ 32 - 1) (hsender : L'.sender = L.sender)
    {seq : UInt32} {bytes : Bytes} (hmem : (seq, bytes) ∈ L.sender.numbered C.txSide C.ty)
    (hgrows : L.released.length ≤ L'.released.length) (hobs : ∃ l, L'.receiver.obs = L.receiver.obs ++ l)
    (hreplies : Replies L.receiver L'.receiver C.rxSide C.ty seq L.released.length L'.released.length)
    (hroom : (L.receiver.rxState C.rxSide C.ty).expectedSeq < seq →
      (L.receiver.rxState C.rxSide C.ty).buffered.entries.length < L.receiver.tuning.reliableMaxPending ∨
        seq ∈ (L.receiver.rxState C.rxSide C.ty).buffered) : WindowInv C L' := by
  have hwindow : L'.window C = L.window C := by
    unfold window
    rw [hsender]
  have hn := hinv.released_le
  have hn' := hinv'.released_le
  rw [hsender] at hn'
  have hlacking : ∀ p ∈ L'.sender.numbered C.txSide C.ty, L'.released.length < p.1.toNat → p.1 ∈ (L'.window C).sent := by
    rw [hsender, hwindow]
    intro p hp hbeyond
    exact h.lacking p hp (Nat.lt_of_le_of_lt hgrows hbeyond)
  have hkept : ∀ q ∈ L'.reports C,
      q ∈ (L'.receiver.rxState C.rxSide C.ty).buffered ∨ q.toNat ≤ L'.released.length := by
    intro q hq
    rcases hreplies.reports q hq with hold | ⟨rfl, hearly⟩
    · rcases h.kept q hold with hbuffered | hle
      · exact hreplies.keeps q hbuffered
      · exact .inr (Nat.le_trans hle hgrows)
    · exact .inl (hreplies.stores hearly (hroom hearly))
  have hgap := hreplies.stops h.gap
  have hmore : ∀ q ∈ L.reports C, q ∈ L'.reports C := by
    obtain ⟨l, hl⟩ := hobs
    intro q hq
    refine mem_queuedPartialAcks.mpr ?_
    rw [hl]
    exact List.mem_append_left _ (mem_queuedPartialAcks.mp hq)
  refine ⟨hwindow ▸ h.ok, hlacking, fun q hq => hmore q (h.reported q (hwindow ▸ hq)), ?_, hkept, hgap, ?_⟩
  · rw [hsender]
    intro q hq
    rcases hreplies.reports q hq with hold | ⟨rfl, -⟩
    · exact h.numbered q hold
    · exact ⟨bytes, hmem⟩
  · intro ack hack q hq hlt
    have hcase : (ack = 0 ∨ ack ∈ L.receiver.queuedAcks C.rxSide C.ty) ∨ ack.toNat = L'.released.length := by
      rcases hack with rfl | hack
      · exact .inl (.inl rfl)
      · exact (hreplies.acks ack hack).imp_left .inr
    rcases hcase with hold | hlast
    · rw [hwindow] at hq ⊢
      obtain ⟨p, hp, hackp, hnot⟩ := h.opens ack hold q hq hlt
      by_cases hreported : p ∈ L'.reports C
      · -- the frame that opened the window is the one that is reported now
        obtain ⟨rfl, hearly⟩ := (hreplies.reports p hreported).resolve_left hnot
        rw [hinv.receiver.position] at hearly
        have hbeyond := UInt32.lt_iff_toNat_lt.mp hearly
        rw [toNat_seqAt_of_lt (by omega)] at hbeyond
        refine ⟨seqAt L.released.length, expected_mem hinv hused h.lacking hmem (Nat.lt_of_succ_lt hbeyond), ?_, ?_⟩
        · rw [UInt32.lt_iff_toNat_lt, toNat_seqAt_of_lt (by omega)]
          rcases hold with rfl | hack
          · exact Nat.succ_pos _
          · exact Nat.lt_succ_of_le (hinv.receiver.acks ack hack)
        · intro hin
          rcases hreplies.reports _ hin with hold | ⟨heq, -⟩
          · exact expected_notReported hinv (by omega) h.kept h.gap hold
          · exact absurd hearly (heq ▸ UInt32.lt_irrefl _)
      · exact ⟨p, hp, hackp, hreported⟩
    · -- beyond the receiver's new position
      obtain ⟨b, hb⟩ := hinv'.window_numbered hq
      have hbeyond := UInt32.lt_iff_toNat_lt.mp hlt
      rw [hlast] at hbeyond
      refine ⟨seqAt L'.released.length, expected_mem hinv' (by rwa [hsender]) hlacking hb hbeyond, ?_,
        expected_notReported hinv' (by omega) hkept hgap⟩
      rw [UInt32.lt_iff_toNat_lt, hlast, toNat_seqAt_of_lt (by omega)]
      exact Nat.lt_succ_self _

/-- A numbered frame arrives: it is dropped, or the receiver takes it in. -/
theorem receive_replies (hty : OrderedType C.schema C.ty) (hinv : Inv C L) {seq : UInt32} {bytes : Bytes}
    (hmem : (seq, bytes) ∈ L.sender.numbered C.txSide C.ty)
    (hused : (L.receive C bytes).released.length < 2 ^ 32 - 1) :
    (L.receive C bytes).receiver = L.receiver ∧ (L.receive C bytes).released = L.released ∨
    frameSeq C.schema C.codec bytes = some seq ∧ L.released.length ≤ (L.receive C bytes).released.length ∧
      (∃ l, (L.receive C bytes).receiver.obs = L.receiver.obs ++ l) ∧
      Replies L.receiver (L.receive C bytes).receiver C.rxSide C.ty seq L.released.length
        (L.receive C bytes).released.length := by
  obtain ⟨pkt, hpkt, hbytes⟩ := hinv.sender.framed (seq, bytes) hmem
  dsimp only at hbytes
  unfold receive at hused ⊢
  rcases Owner.ingest_cases (E := C.rxEnv) (o := L.receiver) C.schema C.codec C.rxSide bytes with
    hdrop | ⟨frame, hpeek, hack | ⟨q, hpass⟩⟩
  · left
    rw [hdrop]
    simp
  · -- a numbered frame is no ACK
    obtain ⟨-, hhdr⟩ := peek_numbered hty hpkt (hbytes ▸ hpeek)
    unfold FrameInfoLite.ackOnly at hack
    rw [hhdr] at hack
    simp at hack
  · right
    obtain ⟨hframeTy, hhdr⟩ := peek_numbered hty hpkt (hbytes ▸ hpeek)
    have hseq : frameSeq C.schema C.codec bytes = some seq := by
      unfold frameSeq
      rw [hpeek, Option.bind_some, hhdr]
      rfl
    have hexp : (L.receiver.rxState C.rxSide frame.envelope.ty).expectedSeq = seqAt L.released.length :=
      hframeTy.symm ▸ hinv.receiver.position
    obtain ⟨items, hin⟩ := Owner.processReliableIngress_ordered (S := C.schema) (E := C.rxEnv)
      C.rxSide frame q bytes hhdr (by decide : Owner.orderedFlags 0 = true) hexp
    have hreplies := processReliableIngress_replies hhdr (by decide : Owner.orderedFlags 0 = true) hexp hin
    obtain ⟨l, hobs, -⟩ := hin.controls
    have hpushes := hin.pushes
    rw [hpass] at hused ⊢
    dsimp only at hused ⊢
    generalize L.receiver.processReliableIngress C.schema C.rxEnv C.rxSide frame q bytes = r at hreplies hobs hpushes hused ⊢
    obtain ⟨ok, receiver⟩ := r
    have hlength : (L.released ++ ((if ok = true then [bytes] else []) ++ (receiver.reliableReleasedRx.drop
          L.receiver.reliableReleasedRx.length).map (·.wireBytes))).length =
        L.released.length + (Owner.passedOn ok (Owner.releasedItem C.rxSide ⟨q, bytes⟩) items).length := by
      rw [hpushes, List.drop_left]
      cases ok <;> simp [Owner.passedOn]
    dsimp only at hused ⊢
    rw [hlength] at hused ⊢
    exact ⟨hseq, Nat.le_add_right _ _, ⟨l, hobs⟩, hframeTy ▸ hreplies hused⟩

theorem WindowInv.arrive (h : WindowInv C L) (hty : OrderedType C.schema C.ty) (hinv : Inv C L) {i : Nat}
    (hinv' : Inv C (L.step C (.arrive i))) (hkeeps : L.KeepsOpen C (.arrive i))
    (hused : (L.sender.numbered C.txSide C.ty).length < 2 ^ 32 - 1) : WindowInv C (L.step C (.arrive i)) := by
  unfold step KeepsOpen at *
  dsimp only at *
  cases hget : (L.sender.handed C.txSide)[i]? with
  | none => exact h
  | some bytes =>
    rw [hget] at hinv' hkeeps
    dsimp only at hinv' ⊢
    obtain ⟨seq, hmem⟩ := hinv.sender.handed bytes (List.mem_of_getElem? hget)
    have hn : (L.receive C bytes).released.length < 2 ^ 32 - 1 := Nat.lt_of_le_of_lt hinv'.released_le hused
    rcases receive_replies hty hinv hmem hn with ⟨hreceiver, hreleased⟩ | ⟨hseq, hgrows, hobs, hreplies⟩
    · exact h.of_window_eq hreceiver hreleased rfl rfl
    · exact h.receives hinv hinv' hused rfl hmem hgrows hobs hreplies (hkeeps bytes rfl seq hseq)

/-! ## Runs -/

theorem step_window (hty : OrderedType C.schema C.ty) (h : WindowInv C L) (hinv : Inv C L) {e : LinkEvent C.ty}
    (hconforms : L.Conforms C e) (hkeeps : L.KeepsOpen C e)
    (hused : ((L.step C e).sender.numbered C.txSide C.ty).length < 2 ^ 32 - 1) : WindowInv C (L.step C e) := by
  have hinv' := step_inv hty hinv e hused
  cases e with
  | send pkt hpkt => exact h.send hty hinv hpkt hkeeps hused
  | ack sideId ty ack =>
    by_cases hstream : sideId = C.txSide ∧ ty = C.ty
    · obtain ⟨rfl, rfl⟩ := hstream
      exact h.ack hty (hconforms rfl rfl) hinv
    · exact h.of_window_eq rfl rfl (hinv.sender.retains (handleAck_retains L.sender sideId ty ack)).2
        (handleAck_txState_ne (key_ne hstream) ack)
  | partialAck sideId ty seq =>
    by_cases hstream : sideId = C.txSide ∧ ty = C.ty
    · obtain ⟨rfl, rfl⟩ := hstream
      exact h.partialAck (hconforms rfl rfl) hinv
    · exact h.of_window_eq rfl rfl (hinv.sender.retains (handlePartialAck_retains L.sender sideId ty seq)).2
        (handlePartialAck_txState_ne (key_ne hstream) seq)
  | packetRequest sideId ty seq =>
    by_cases hstream : sideId = C.txSide ∧ ty = C.ty
    · obtain ⟨rfl, rfl⟩ := hstream
      exact h.packetRequest seq hinv
    · exact h.of_window_eq rfl rfl (hinv.sender.retains (handlePacketRequest_retains L.sender sideId ty seq)).2
        (handlePacketRequest_txState_ne (key_ne hstream) seq)
  | timeouts => exact h.timeouts hinv hkeeps
  | arrive i =>
    have hused' : (L.sender.numbered C.txSide C.ty).length < 2 ^ 32 - 1 :=
      Nat.lt_of_le_of_lt (step_sender hty hinv.sender (.arrive i)).2.length_le hused
    exact h.arrive hty hinv hinv' hkeeps hused'
  | takeReleased => exact ⟨h.ok, h.lacking, h.reported, h.numbered, h.kept, h.gap, h.opens⟩
  | inCallback active => exact h.of_window_eq rfl rfl rfl rfl
  | tuneSender tuning => exact h.of_window_eq rfl rfl rfl rfl
  | tuneReceiver tuning => exact ⟨h.ok, h.lacking, h.reported, h.numbered, h.kept, h.gap, h.opens⟩

theorem Fresh.window (h : Fresh C L) : WindowInv C L := by
  have htx : L.window C = .new := by
    unfold Link.window txState
    rw [h.sender.1]
    rfl
  have hrx : L.receiver.rxState C.rxSide C.ty = .new := by
    unfold rxState
    rw [h.receiver.1]
    rfl
  have hnumbered : L.sender.numbered C.txSide C.ty = [] := by
    unfold Owner.numbered
    rw [h.sender.2]
    rfl
  have hreports : L.reports C = [] := by
    unfold reports queuedPartialAcks
    rw [h.receiver.2]
    rfl
  refine ⟨?_, ?_, ?_, ?_, ?_, ?_, ?_⟩
  · rw [htx]
    exact ⟨.nil, fun q hq => absurd hq (AList.notMem_empty q), fun q hq => nomatch hq⟩
  · rw [hnumbered]
    exact fun p hp => nomatch hp
  · rw [htx]
    rintro q ⟨sent, hsent, -⟩
    exact absurd (Map.mem_iff_lookup.mpr ⟨sent, hsent⟩) (AList.notMem_empty q)
  · rw [hreports]
    exact fun q hq => nomatch hq
  · rw [hreports]
    exact fun q hq => nomatch hq
  · rw [hrx]
    exact AList.notMem_empty _
  · rw [htx]
    exact fun ack _ q hq => absurd hq (AList.notMem_empty q)

theorem run_window (hty : OrderedType C.schema C.ty) (events : List (LinkEvent C.ty)) {L : Link} (hinv : Inv C L)
    (hwindow : WindowInv C L) (hconforms : L.Along C (Conforms C) events) (hkeeps : L.Along C (KeepsOpen C) events)
    (hused : ((L.run C events).sender.numbered C.txSide C.ty).length < 2 ^ 32 - 1) :
    Inv C (L.run C events) ∧ WindowInv C (L.run C events) := by
  induction events generalizing L with
  | nil => exact ⟨hinv, hwindow⟩
  | cons e events ih =>
    -- the numbers used by one event are among those used by the run
    have hgrows : ∀ (events : List (LinkEvent C.ty)) (L : Link), SenderInv C L.sender →
        L.sender.numbered C.txSide C.ty <+: (L.run C events).sender.numbered C.txSide C.ty := by
      intro events
      induction events with
      | nil => exact fun L _ => List.prefix_refl _
      | cons e events ih =>
        intro L hsender
        obtain ⟨hsender', hstep⟩ := step_sender hty hsender e
        exact hstep.trans (ih (L.step C e) hsender')
    have hused' : ((L.step C e).sender.numbered C.txSide C.ty).length < 2 ^ 32 - 1 :=
      Nat.lt_of_le_of_lt (hgrows events _ (step_sender hty hinv.sender e).1).length_le hused
    exact ih (step_inv hty hinv e hused') (step_window hty hwindow hinv hconforms.1 hkeeps.1 hused')
      hconforms.2 hkeeps.2 hused

/-- **The window of an ordered stream stays open.** Over a link that loses, repeats and reorders frames as it
    likes, with the receiver's own ACKs and partial ACKs coming back in any order and any number of times:
    in every state of a run whose steps all keep the window open, a window that holds frames holds one that
    is not reported, as long as the numbers have not wrapped. -/
theorem run_window_open (C : LinkConfig) (hty : OrderedType C.schema C.ty) (L : Link) (h : Fresh C L)
    (events : List (LinkEvent C.ty)) (hconforms : L.Along C (Conforms C) events) (hkeeps : L.Along C (KeepsOpen C) events)
    (hused : ((L.run C events).sender.numbered C.txSide C.ty).length < 2 ^ 32 - 1)
    (hfull : ((L.run C events).sender.txState C.txSide C.ty).sent.entries ≠ []) :
    ∃ seq sent, ((L.run C events).sender.txState C.txSide C.ty).sent.lookup seq = some sent ∧
      sent.partialAcked = false := by
  obtain ⟨hinv, hwindow⟩ := run_window hty events h.inv h.window hconforms hkeeps hused
  generalize L.run C events = R at hinv hwindow hused hfull
  obtain ⟨e, he⟩ := List.exists_mem_of_ne_nil _ hfull
  have hmem : e.1 ∈ (R.window C).sent := List.mem_keys_of_mem he
  obtain ⟨b, hb⟩ := hinv.window_numbered hmem
  have hpos : (0 : UInt32) < e.1 := UInt32.lt_iff_toNat_lt.mpr (hinv.number_bounds hused hb).1
  obtain ⟨p, hp, -, hnot⟩ := hwindow.opens 0 (.inl rfl) e.1 hmem hpos
  obtain ⟨sent, hsent⟩ := Map.mem_iff_lookup.mp hp
  refine ⟨p, sent, hsent, ?_⟩
  rw [Bool.eq_false_iff]
  intro hset
  exact hnot (hwindow.reported p ⟨sent, hsent, hset⟩)

end

/-- Two reports are sent, the first is lost on the way, and the second is reported. -/
def lostEvents : List (LinkEvent gpsLinkConfig.ty) :=
  [.send gpsPacket gpsPacket_ty, .send gpsPacket gpsPacket_ty, .arrive 1, .partialAck 0 100 2]

theorem run_window_open_gps :
    ((gpsLink.run gpsLinkConfig lostEvents).sender.txState 0 100).sent.entries.length = 2 ∧
    ∃ seq sent, ((gpsLink.run gpsLinkConfig lostEvents).sender.txState 0 100).sent.lookup seq = some sent ∧
      sent.partialAcked = false := by
  have hty : OrderedType gpsLinkConfig.schema gpsLinkConfig.ty :=
    ⟨by decide +kernel, by decide +kernel, by decide +kernel, by decide +kernel⟩
  have hfresh : Fresh gpsLinkConfig gpsLink := ⟨⟨.serialized [] true, by decide, rfl, rfl⟩, ⟨rfl, rfl⟩, ⟨rfl, rfl⟩, rfl⟩
  obtain ⟨hconforms, hkeeps, hused, hlength⟩ : gpsLink.Along gpsLinkConfig (Conforms gpsLinkConfig) lostEvents ∧
      gpsLink.Along gpsLinkConfig (KeepsOpen gpsLinkConfig) lostEvents ∧
      ((gpsLink.run gpsLinkConfig lostEvents).sender.numbered 0 100).length < 2 ^ 32 - 1 ∧
      ((gpsLink.run gpsLinkConfig lostEvents).sender.txState 0 100).sent.entries.length = 2 := by decide +kernel
  refine ⟨hlength, run_window_open gpsLinkConfig hty gpsLink hfresh lostEvents hconforms hkeeps hused ?_⟩
  intro hempty
  rw [show gpsLinkConfig.txSide = 0 from rfl, show gpsLinkConfig.ty = 100 from rfl] at hempty
  rw [hempty] at hlength
  cases hlength

/-- The same link, a second between two readings of the clock. -/
def slowLinkConfig : LinkConfig := { gpsLinkConfig with txEnv := ⟨fun n => 1000 * UInt64.ofNat n, fun _ => SEDS_OK⟩ }

/-- The lost report is sent eight times more, and then given up. -/
def givenUpEvents : List (LinkEvent slowLinkConfig.ty) :=
  [.send gpsPacket gpsPacket_ty, .send gpsPacket gpsPacket_ty, .arrive 1, .partialAck 0 100 2] ++ List.replicate 9 .timeouts

/-- The report that is left is reported: no timeout sends it again or gives it up, and the ACK that would clear
    it needs the one that was given up. -/
theorem run_window_shut :
    gpsLink.Along slowLinkConfig (Conforms slowLinkConfig) givenUpEvents ∧
    (((gpsLink.run slowLinkConfig givenUpEvents).sender.txState 0 100).sent.entries.map fun e =>
      (e.1, e.2.partialAcked)) = [(2, true)] := by decide +kernel

end Link

end SedsNet
