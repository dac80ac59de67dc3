import SedsNet.Lib.Sequence
import SedsNet.Reliable

/-!
# What a step of the reliable layer can do

Specifications of the functions of `SedsNet.Reliable`, one for each, so that nothing above has to
unfold them again.

* `queueReliableControl_writes`, `callSerializedTx_writes`: what the two output helpers write.
* `Retains`: what every handler of the sending half other than a send keeps. No stream changes its
  next number, frames only leave the windows, and what goes to a callback was held in a window.
* `releaseBuffered_spec`: what the release loop frees, and where it leaves the stream.
-/

set_option autoImplicit false

namespace SedsNet

open Lib

/-! ## Sequence numbers -/

/-- The `n`-th number a stream uses, from 0: `1, 2, .., 2^32 - 1`, and then 1 again. -/
def seqAt (n : Nat) : UInt32 := UInt32.ofNat (n % (2 ^ 32 - 1) + 1)

theorem toNat_seqAt (n : Nat) : (seqAt n).toNat = n % (2 ^ 32 - 1) + 1 := by
  unfold seqAt
  rw [UInt32.toNat_ofNat', Nat.mod_eq_of_lt (by omega)]

theorem toNat_seqAt_of_lt {n : Nat} (h : n < 2 ^ 32 - 1) : (seqAt n).toNat = n + 1 := by
  rw [toNat_seqAt, Nat.mod_eq_of_lt h]

theorem seqAt_inj {m n : Nat} (hm : m < 2 ^ 32 - 1) (hn : n < 2 ^ 32 - 1) (h : seqAt m = seqAt n) :
    m = n := by
  have := congrArg UInt32.toNat h
  rw [toNat_seqAt_of_lt hm, toNat_seqAt_of_lt hn] at this
  omega

theorem nextSeq_seqAt (n : Nat) : nextSeq (seqAt n) = seqAt (n + 1) := by
  have hsucc : (seqAt n + 1).toNat = (n % (2 ^ 32 - 1) + 2) % 2 ^ 32 := by
    rw [UInt32.toNat_add, toNat_seqAt]
    rfl
  have hmod : n % (2 ^ 32 - 1) < 2 ^ 32 - 1 := Nat.mod_lt _ (by omega)
  unfold nextSeq
  -- the number wraps exactly when the position is the last one of a round
  by_cases hlast : n % (2 ^ 32 - 1) = 2 ^ 32 - 2
  · have hzero : seqAt n + 1 = 0 := by
      apply UInt32.toNat_inj.mp
      rw [hsucc, hlast]
      rfl
    rw [if_pos hzero]
    apply UInt32.toNat_inj.mp
    rw [toNat_seqAt, Nat.add_mod, hlast]
    rfl
  · have hne : seqAt n + 1 ≠ 0 := by
      intro h0
      rw [h0, UInt32.toNat_zero] at hsucc
      omega
    rw [if_neg hne]
    apply UInt32.toNat_inj.mp
    rw [hsucc, toNat_seqAt]
    omega

/-- Before they wrap, the numbers of the first `k` positions are `1, .., k`. -/
theorem map_toNat_seqAt {k : Nat} (hk : k ≤ 2 ^ 32 - 1) :
    (List.range' 0 k).map (fun n => (seqAt n).toNat) = List.range' 1 k := by
  have hshift : (List.range' 0 k).map (1 + ·) = List.range' 1 k := List.map_add_range' ..
  rw [← hshift]
  apply List.map_congr_left
  intro n hn
  have hlt := (List.mem_range'_1.mp hn).2
  rw [toNat_seqAt_of_lt (by omega), Nat.add_comm]

@[simp] theorem seqAt_zero : seqAt 0 = 1 := rfl

namespace Owner

variable {S : Schema} {E : Env} {o : Owner}

/-! ## Output -/

/-- Queueing a control packet writes the transmit queue, the clock and the trace. -/
theorem queueReliableControl_writes (controlTy : UInt32) (o : Owner) (sideId : Int32) (ty seq : UInt32) :
    ∃ reads queue peak l, queueReliableControl S E controlTy o sideId ty seq =
        { o with clockReads := reads, txQueue := queue, peak := peak, obs := o.obs ++ l } ∧
      ∀ e ∈ l, e = .control controlTy sideId ty seq := by
  unfold queueReliableControl
  cases o.sideAt sideId with
  | none => exact ⟨o.clockReads, o.txQueue, o.peak, [], by simp, by simp⟩
  | some side =>
    dsimp only
    split
    · exact ⟨o.clockReads, o.txQueue, o.peak, [], by simp, by simp⟩
    · let queued := (o.nowMs E).2.enqueueTxFront ⟨makeReliableControlPacket S controlTy ty seq
        (o.nowMs E).1 o.controlSender, none, some sideId, false⟩
      refine ⟨o.clockReads + 1, queued.txQueue, queued.peak, [.control controlTy sideId ty seq], ?_, by simp⟩
      · unfold queued enqueueTxFront enqueueTxAt observe nowMs
        dsimp only
        split <;> rfl

/-- A transmit callback writes its bookkeeping and the trace. -/
theorem callSerializedTx_writes (o : Owner) (sideId : Int32) (bytes : Bytes) :
    ∃ deferred calls l, (o.callSerializedTx E sideId bytes).2 =
        { o with sideTxDeferred := deferred, calls := calls, obs := o.obs ++ l } ∧
      ∀ e ∈ l, e = .transmit sideId bytes := by
  unfold callSerializedTx
  split
  · exact ⟨true, o.calls, [], by simp, by simp⟩
  · exact ⟨o.sideTxDeferred, o.calls + 1, [.transmit sideId bytes], rfl, by simp⟩

@[simp] theorem callSerializedTx_reliableTx (o : Owner) (sideId : Int32) (bytes : Bytes) :
    (o.callSerializedTx E sideId bytes).2.reliableTx = o.reliableTx := by
  unfold callSerializedTx
  split <;> rfl

/-! ## The sending half -/

/-- The stream `key` holds a frame under the number `seq`. -/
def Holds (o : Owner) (key : UInt64) (seq : UInt32) (bytes : Bytes) : Prop :=
  ∃ tx sent, o.reliableTx.lookup key = some tx ∧ tx.sent.lookup seq = some sent ∧ sent.bytes = bytes

/-- A stream loses frames or changes their bookkeeping, and numbers nothing. -/
structure Thins (tx tx' : ReliableTxState) : Prop where
  nextSeq : tx'.nextSeq = tx.nextSeq
  sent : ∀ seq s', tx'.sent.lookup seq = some s' → ∃ s, tx.sent.lookup seq = some s ∧ s.bytes = s'.bytes

theorem Thins.refl (tx : ReliableTxState) : Thins tx tx := ⟨rfl, fun _ s h => ⟨s, h, rfl⟩⟩

theorem Thins.trans {a b c : ReliableTxState} (hab : Thins a b) (hbc : Thins b c) : Thins a c where
  nextSeq := hbc.nextSeq.trans hab.nextSeq
  sent seq s h := by
    obtain ⟨t, ht, hbytes⟩ := hbc.sent seq s h
    obtain ⟨u, hu, hbytes'⟩ := hab.sent seq t ht
    exact ⟨u, hu, hbytes'.trans hbytes⟩

/-- From `o` to `o'` the sending half numbers nothing: no stream appears or changes its next
    number, held frames were held before, and what is transmitted was held. -/
structure Retains (o o' : Owner) : Prop where
  sides : o'.sides = o.sides
  streams : ∀ key, (o'.reliableTx.lookup key).map (·.nextSeq) = (o.reliableTx.lookup key).map (·.nextSeq)
  held : ∀ key seq bytes, o'.Holds key seq bytes → o.Holds key seq bytes
  transmits : ∃ l, o'.obs = o.obs ++ l ∧
    ∀ e ∈ l, ∃ sideId key seq bytes, o.Holds key seq bytes ∧ e = .transmit sideId bytes

namespace Retains

theorem refl (o : Owner) : Retains o o :=
  ⟨rfl, fun _ => rfl, fun _ _ _ h => h, [], by simp, by simp⟩

theorem trans {a b c : Owner} (hab : Retains a b) (hbc : Retains b c) : Retains a c where
  sides := hbc.sides.trans hab.sides
  streams key := (hbc.streams key).trans (hab.streams key)
  held key seq bytes h := hab.held key seq bytes (hbc.held key seq bytes h)
  transmits := by
    obtain ⟨l, hl, hfrom⟩ := hab.transmits
    obtain ⟨l', hl', hfrom'⟩ := hbc.transmits
    refine ⟨l ++ l', by rw [hl', hl, List.append_assoc], ?_⟩
    intro e he
    rcases List.mem_append.mp he with he | he
    · exact hfrom e he
    · obtain ⟨sideId, key, seq, bytes, hheld, heq⟩ := hfrom' e he
      exact ⟨sideId, key, seq, bytes, hab.held key seq bytes hheld, heq⟩

/-- A stream is replaced by a thinner one. -/
theorem setTx {key : UInt64} {tx tx' : ReliableTxState} (htx : o.reliableTx.lookup key = some tx)
    (hthin : Thins tx tx') :
    Retains o { o with reliableTx := o.reliableTx.insert key tx' } where
  sides := rfl
  streams k := by
    dsimp only
    by_cases hk : k = key
    · subst hk
      rw [AList.lookup_insert, htx, Option.map_some, Option.map_some, hthin.nextSeq]
    · rw [AList.lookup_insert_ne hk]
  held k seq bytes := by
    intro ⟨t, sent, ht, hsent', hbytes⟩
    dsimp only at ht
    by_cases hk : k = key
    · subst hk
      rw [AList.lookup_insert, Option.some.injEq] at ht
      subst ht
      obtain ⟨old, hold, heq⟩ := hthin.sent seq sent hsent'
      exact ⟨tx, old, htx, hold, heq.trans hbytes⟩
    · rw [AList.lookup_insert_ne hk] at ht
      exact ⟨t, sent, ht, hsent', hbytes⟩
  transmits := ⟨[], by simp, by simp⟩

/-- A held frame goes to a callback. -/
theorem transmit {key : UInt64} {seq : UInt32} {bytes : Bytes} (sideId : Int32)
    (h : o.Holds key seq bytes) : Retains o (o.callSerializedTx E sideId bytes).2 := by
  obtain ⟨deferred, calls, l, heq, hl⟩ := callSerializedTx_writes (E := E) o sideId bytes
  rw [heq]
  refine ⟨rfl, fun _ => rfl, fun _ _ _ h => h, l, rfl, ?_⟩
  intro e he
  exact ⟨sideId, key, seq, bytes, h, hl e he⟩

/-- The sending half is not touched. -/
theorem of_eq {o' : Owner} (hsides : o'.sides = o.sides) (htx : o'.reliableTx = o.reliableTx)
    (hobs : o'.obs = o.obs) : Retains o o' := by
  refine ⟨hsides, fun key => by rw [htx], ?_, [], by rw [hobs, List.append_nil], by simp⟩
  intro key seq bytes hheld
  unfold Holds at hheld
  rwa [htx] at hheld

theorem clock (E : Env) (o : Owner) : Retains o (o.nowMs E).2 := of_eq rfl rfl rfl

end Retains

@[simp] theorem nowMs_reliableTx (E : Env) (o : Owner) : (o.nowMs E).2.reliableTx = o.reliableTx := rfl

theorem lookup_of_erase {κ α : Type} [DecidableEq κ] {m : Map κ α} {a k : κ} {v : α}
    (h : (m.erase k).lookup a = some v) : m.lookup a = some v := by
  by_cases hk : a = k
  · subst hk
    rw [AList.lookup_erase] at h
    cases h
  · rwa [AList.lookup_erase_ne hk] at h

/-- What `ackThrough` leaves in the window was there. -/
theorem lookup_ackThrough {ack seq : UInt32} {s : Sent} {order : List UInt32} {sent : Map UInt32 Sent}
    (h : (ackThrough ack order sent).2.lookup seq = some s) : sent.lookup seq = some s := by
  induction order generalizing sent with
  | nil => exact h
  | cons q rest ih =>
    unfold ackThrough at h
    by_cases hq : q ≤ ack
    · rw [if_pos hq] at h
      exact lookup_of_erase (ih h)
    · rw [if_neg hq] at h
      exact h

theorem handleAck_retains (o : Owner) (sideId : Int32) (ty ack : UInt32) :
    Retains o (o.handleAck S sideId ty ack) := by
  unfold handleAck
  cases htx : o.reliableTx.lookup (reliableKey sideId ty) with
  | none => exact .refl o
  | some tx =>
    dsimp only
    split
    · apply Retains.setTx htx
      exact ⟨rfl, fun seq sent h => ⟨sent, lookup_of_erase h, rfl⟩⟩
    · apply Retains.setTx htx
      exact ⟨rfl, fun seq sent h => ⟨sent, lookup_ackThrough h, rfl⟩⟩

/-- Overwriting the bookkeeping of a held frame leaves the frame. -/
theorem lookup_insert_bytes {sent : Map UInt32 Sent} {seq q : UInt32} {old new s : Sent}
    (hold : sent.lookup seq = some old) (h : (sent.insert seq new).lookup q = some s)
    (hbytes : new.bytes = old.bytes) :
    ∃ t, sent.lookup q = some t ∧ t.bytes = s.bytes := by
  by_cases hq : q = seq
  · subst hq
    rw [AList.lookup_insert, Option.some.injEq] at h
    subst h
    exact ⟨old, hold, hbytes.symm⟩
  · rw [AList.lookup_insert_ne hq] at h
    exact ⟨s, h, rfl⟩

theorem handlePartialAck_retains (o : Owner) (sideId : Int32) (ty seq : UInt32) :
    Retains o (o.handlePartialAck sideId ty seq) := by
  unfold handlePartialAck
  cases htx : o.reliableTx.lookup (reliableKey sideId ty) with
  | none => exact .refl o
  | some tx =>
    dsimp only
    cases hsent : tx.sent.lookup seq with
    | none => exact .refl o
    | some sent =>
      apply Retains.setTx htx
      exact ⟨rfl, fun q s h => lookup_insert_bytes hsent h rfl⟩

theorem handlePacketRequest_retains (o : Owner) (sideId : Int32) (ty seq : UInt32) :
    Retains o (o.handlePacketRequest E sideId ty seq) := by
  unfold handlePacketRequest
  cases o.sideAt sideId with
  | none => exact .refl o
  | some side =>
    cases htx : o.reliableTx.lookup (reliableKey sideId ty) with
    | none => exact .refl o
    | some tx =>
      dsimp only
      cases hsent : tx.sent.lookup seq with
      | none => exact .refl o
      | some sent =>
        dsimp only
        split
        · exact .refl o
        · -- the callback, the clock, then the new bookkeeping
          have hcall := Retains.transmit (E := E) sideId ⟨tx, sent, htx, hsent, rfl⟩
          apply (hcall.trans (.clock E _)).trans
          have htx' : ((o.callSerializedTx E sideId sent.bytes).2.nowMs E).2.reliableTx.lookup
              (reliableKey sideId ty) = some tx := by
            rw [nowMs_reliableTx, callSerializedTx_reliableTx]
            exact htx
          apply Retains.setTx htx'
          exact ⟨rfl, fun q s h => lookup_insert_bytes hsent h rfl⟩

/-! ### Timeouts -/

/-- One round of the inner loop, for a stream that came from the owner's entry `tx`. -/
theorem retransmit_spec (now : UInt64) (sideId : Int32) {key : UInt64} {tx tx₁ : ReliableTxState}
    (htx : o.reliableTx.lookup key = some tx) (hthin : Thins tx tx₁) (seq : UInt32) :
    Retains o (retransmit E now sideId (o, tx₁) seq).1 ∧
    (retransmit E now sideId (o, tx₁) seq).1.reliableTx = o.reliableTx ∧
    Thins tx (retransmit E now sideId (o, tx₁) seq).2 := by
  unfold retransmit
  dsimp only
  cases hsent : tx₁.sent.lookup seq with
  | none => exact ⟨.refl o, rfl, hthin⟩
  | some sent =>
    dsimp only
    split
    · exact ⟨.refl o, rfl, hthin⟩
    · split
      · -- out of retries: the frame leaves the window
        refine ⟨.refl o, rfl, hthin.trans ⟨rfl, ?_⟩⟩
        intro q s h
        exact ⟨s, lookup_of_erase h, rfl⟩
      · obtain ⟨s, hs, hbytes⟩ := hthin.sent seq sent hsent
        have hcall := Retains.transmit (E := E) sideId ⟨tx, s, htx, hs, hbytes⟩
        split
        · refine ⟨hcall, callSerializedTx_reliableTx o sideId sent.bytes, hthin.trans ⟨rfl, ?_⟩⟩
          intro q t h
          exact lookup_insert_bytes hsent h rfl
        · exact ⟨hcall, callSerializedTx_reliableTx o sideId sent.bytes, hthin⟩

/-- The inner loop. -/
theorem retransmit_foldl (now : UInt64) (sideId : Int32) {key : UInt64} {tx tx₁ : ReliableTxState}
    (htx : o.reliableTx.lookup key = some tx) (hthin : Thins tx tx₁) (seqs : List UInt32) :
    Retains o (seqs.foldl (retransmit E now sideId) (o, tx₁)).1 ∧
    (seqs.foldl (retransmit E now sideId) (o, tx₁)).1.reliableTx = o.reliableTx ∧
    Thins tx (seqs.foldl (retransmit E now sideId) (o, tx₁)).2 := by
  induction seqs generalizing o tx₁ with
  | nil => exact ⟨.refl o, rfl, hthin⟩
  | cons seq seqs ih =>
    obtain ⟨hret, hsame, hthin'⟩ := retransmit_spec (E := E) now sideId htx hthin seq
    rw [List.foldl_cons]
    obtain ⟨hret', hsame', hthin''⟩ := ih (by rw [hsame]; exact htx) hthin'
    exact ⟨hret.trans hret', hsame'.trans hsame, hthin''⟩

theorem timeoutStream_retains {key : UInt64} {tx : ReliableTxState} (now : UInt64)
    (htx : o.reliableTx.lookup key = some tx) :
    Retains o (timeoutStream E now o key tx) ∧
    ∀ k, k ≠ key → (timeoutStream E now o key tx).reliableTx.lookup k = o.reliableTx.lookup k := by
  unfold timeoutStream
  dsimp only
  cases o.sideAt (key >>> 32).toUInt32.toInt32 with
  | none => exact ⟨.refl o, fun _ _ => rfl⟩
  | some side =>
    dsimp only
    split
    · exact ⟨.refl o, fun _ _ => rfl⟩
    · obtain ⟨hret, hsame, hthin⟩ := retransmit_foldl (E := E) now
        (key >>> 32).toUInt32.toInt32 htx (.refl tx) tx.sentOrder
      have htx' : _ := hsame.symm ▸ htx
      refine ⟨hret.trans (.setTx htx' hthin), ?_⟩
      intro k hk
      dsimp only
      rw [AList.lookup_insert_ne hk, hsame]

theorem timeoutStreams_retains (now : UInt64) (entries : List (Sigma fun _ : UInt64 => ReliableTxState))
    (hnodup : entries.NodupKeys) (hmem : ∀ e ∈ entries, o.reliableTx.lookup e.1 = some e.2) :
    Retains o (entries.foldl (fun o entry => timeoutStream E now o entry.1 entry.2) o) := by
  induction entries generalizing o with
  | nil => exact .refl o
  | cons e entries ih =>
    obtain ⟨hret, hother⟩ := timeoutStream_retains (E := E) now (hmem e List.mem_cons_self)
    obtain ⟨hnot, hnodup'⟩ := List.nodupKeys_cons.mp hnodup
    rw [List.foldl_cons]
    apply hret.trans
    apply ih hnodup'
    intro f hf
    -- an entry still to come is another stream, which this round has not touched
    have hne : f.1 ≠ e.1 := fun h => hnot (h ▸ List.mem_keys_of_mem hf)
    rw [hother f.1 hne]
    exact hmem f (List.mem_cons_of_mem e hf)

theorem doReliableTimeouts_retains (o : Owner) : Retains o (o.doReliableTimeouts E) := by
  unfold doReliableTimeouts
  apply (Retains.clock E o).trans
  apply timeoutStreams_retains
  · exact o.reliableTx.nodupKeys
  · intro e he
    exact AList.mem_lookup_iff.mpr he

/-! ### Sending -/

/-- `o'` is `o` after a send on the stream `key` that used a number: the stream moves on to its next
    number and holds at most the new frame in addition. -/
structure Numbers (o o' : Owner) (sideId : Int32) (ty : UInt32) (seq : UInt32) (bytes : Bytes) : Prop where
  sides : o'.sides = o.sides
  stream : ∃ tx, o'.reliableTx.lookup (reliableKey sideId ty) = some tx ∧ tx.nextSeq = nextSeq seq
  others : ∀ key, key ≠ reliableKey sideId ty → o'.reliableTx.lookup key = o.reliableTx.lookup key
  held : ∀ key q b, o'.Holds key q b → o.Holds key q b ∨ q = seq ∧ b = bytes
  trace : ∃ l, o'.obs = o.obs ++ .number sideId ty seq bytes :: l ∧ ∀ e ∈ l, e = .transmit sideId bytes

/-- `o'` is `o` after a send the window has no room for. -/
structure Refuses (o o' : Owner) (sideId : Int32) (ty : UInt32) : Prop where
  sides : o'.sides = o.sides
  stream : ∃ tx, o'.reliableTx.lookup (reliableKey sideId ty) = some tx ∧
    tx.nextSeq = (o.txState sideId ty).nextSeq
  others : ∀ key, key ≠ reliableKey sideId ty → o'.reliableTx.lookup key = o.reliableTx.lookup key
  held : ∀ key q b, o'.Holds key q b → o.Holds key q b
  trace : o'.obs = o.obs

/-- Storing a stream whose window is that of `reliable_tx[key]`, plus frames that satisfy `P`. -/
theorem holds_of_insert {o' : Owner} {sideId : Int32} {ty : UInt32} {t : ReliableTxState}
    {P : UInt32 → Bytes → Prop} {m : Map UInt64 ReliableTxState}
    (hset : o'.reliableTx = m.insert (reliableKey sideId ty) t)
    (hm : ∀ k, k ≠ reliableKey sideId ty → m.lookup k = o.reliableTx.lookup k)
    (hsent : ∀ q s, t.sent.lookup q = some s → (o.txState sideId ty).sent.lookup q = some s ∨ P q s.bytes)
    {key : UInt64} {q : UInt32} {b : Bytes} (h : o'.Holds key q b) : o.Holds key q b ∨ P q b := by
  obtain ⟨u, s, ht, hs, rfl⟩ := h
  rw [hset] at ht
  by_cases hk : key = reliableKey sideId ty
  · subst hk
    rw [AList.lookup_insert, Option.some.injEq] at ht
    subst ht
    rcases hsent q s hs with hold | hnew
    · unfold txState at hold
      cases htx : o.reliableTx.lookup (reliableKey sideId ty) with
      | none =>
        rw [htx] at hold
        simp [ReliableTxState.new] at hold
      | some old =>
        rw [htx] at hold
        exact .inl ⟨old, s, htx, hold, rfl⟩
    · exact .inr hnew
  · rw [AList.lookup_insert_ne hk, hm key hk] at ht
    exact .inl ⟨u, s, ht, hs, rfl⟩

theorem lookup_emplace {κ α : Type} [DecidableEq κ] {m : Map κ α} {k a : κ} {v w : α}
    (h : (m.emplace k v).lookup a = some w) : m.lookup a = some w ∨ a = k ∧ w = v := by
  unfold Map.emplace at h
  split at h
  · exact .inl h
  · by_cases ha : a = k
    · subst ha
      rw [AList.lookup_insert, Option.some.injEq] at h
      exact .inr ⟨rfl, h.symm⟩
    · rw [AList.lookup_insert_ne ha] at h
      exact .inl h

/-- A send on a reliable side, of a reliable type: the window is full, or the next number goes to
    the frame. -/
theorem sendSerializedWithReliable_spec {Z : Codec} {sideId : Int32} {side : Side} {pkt : PacketData}
    (hside : o.sideAt sideId = some side) (htx : side.serializedTx = true)
    (hrel : side.reliableEnabled = true) (hty : S.isReliableType pkt.ty = true) {flags : UInt8}
    (hflags : (if (S.typeAt pkt.ty.toNat).reliableMode = .Unordered then kReliableFlagUnordered else 0) = flags) :
    Refuses o (o.sendSerializedWithReliable S Z E sideId pkt).2 sideId pkt.ty ∨
    Numbers o (o.sendSerializedWithReliable S Z E sideId pkt).2 sideId pkt.ty (o.txState sideId pkt.ty).nextSeq
      (serializePacketWithReliable S Z pkt ⟨flags, (o.txState sideId pkt.ty).nextSeq, 0⟩) := by
  unfold sendSerializedWithReliable
  rw [hside]
  simp only [htx, hrel, hty, Bool.not_true, Bool.false_eq_true, if_false, Bool.or_self, hflags]
  generalize hseq : (o.txState sideId pkt.ty).nextSeq = seq
  generalize hbytes : serializePacketWithReliable S Z pkt ⟨flags, seq, 0⟩ = bytes
  split
  · left
    exact
      { sides := rfl
        stream := ⟨_, AList.lookup_insert _, rfl⟩
        others := fun key hkey => AList.lookup_insert_ne hkey
        held := fun key q b h =>
          (holds_of_insert (P := fun _ _ => False) rfl (fun _ _ => rfl) (fun q s hs => .inl hs) h).resolve_right id
        trace := rfl }
  · right
    -- the stream as the callback sees it: its next number is used
    have hstream : ∀ tx₁ : ReliableTxState, tx₁ = { o.txState sideId pkt.ty with nextSeq := nextSeq seq } →
        tx₁.nextSeq = nextSeq seq ∧ tx₁.sent = (o.txState sideId pkt.ty).sent := by
      intro tx₁ h
      rw [h]
      exact ⟨rfl, rfl⟩
    generalize htx₁ : ({ o.txState sideId pkt.ty with nextSeq := nextSeq seq } : ReliableTxState) = tx₁
    obtain ⟨hnext, hsent⟩ := hstream tx₁ htx₁.symm
    obtain ⟨deferred, calls, l, heq, hl⟩ := callSerializedTx_writes (E := E)
      ((o.setTxState sideId pkt.ty tx₁).observe (.number sideId pkt.ty seq bytes)) sideId bytes
    have htrace : o.obs ++ [.number sideId pkt.ty seq bytes] ++ l = o.obs ++ .number sideId pkt.ty seq bytes :: l := by
      rw [List.append_assoc, List.singleton_append]
    let P : UInt32 → Bytes → Prop := fun q b => q = seq ∧ b = bytes
    rw [apply_ite Prod.snd]
    dsimp only
    rw [heq]
    split
    · exact
        { sides := rfl
          stream := ⟨tx₁, AList.lookup_insert _, hnext⟩
          others := fun key hkey => AList.lookup_insert_ne hkey
          held := fun key q b h => by
            refine holds_of_insert (P := P) (m := o.reliableTx) (t := tx₁) rfl (fun _ _ => rfl) (fun q s hs => ?_) h
            exact .inl (hsent ▸ hs)
          trace := ⟨l, htrace, hl⟩ }
    · exact
        { sides := rfl
          stream := ⟨_, AList.lookup_insert _, rfl⟩
          others := fun key hkey => (AList.lookup_insert_ne hkey).trans (AList.lookup_insert_ne hkey)
          held := fun key q b h => by
            refine holds_of_insert (P := P) (m := o.reliableTx.insert _ tx₁) rfl
              (fun k hk => AList.lookup_insert_ne hk) (fun q s hs => ?_) h
            rcases lookup_emplace hs with hold | ⟨rfl, rfl⟩
            · exact .inl hold
            · exact .inr ⟨rfl, rfl⟩
          trace := ⟨l, htrace, hl⟩ }

/-! ## The receiving half -/

/-- The item a buffered frame is released as. -/
def releasedItem (sideId : Int32) (buffered : Buffered) : RxItem :=
  ⟨buffered.pkt, some sideId, buffered.wireBytes, buffered.wireBytes⟩

/-- The release loop takes the buffered frames of the next positions, as many as there are without a
    gap, and leaves the stream at the position after them. -/
theorem releaseBuffered_spec (sideId : Int32) (rounds n : Nat) (rx : ReliableRxState)
    (hack : rx.lastAck = seqAt n) (hexp : rx.expectedSeq = seqAt (n + 1)) :
    let r := releaseBuffered sideId rounds rx
    r.1.lastAck = seqAt (n + r.2.length) ∧ r.1.expectedSeq = seqAt (n + 1 + r.2.length) ∧
    (∀ seq bf, r.1.buffered.lookup seq = some bf → rx.buffered.lookup seq = some bf) ∧
    InSequence (fun m item => ∃ bf, rx.buffered.lookup (seqAt m) = some bf ∧ item = releasedItem sideId bf)
      (n + 1) r.2 := by
  induction rounds generalizing n rx with
  | zero => exact ⟨hack, hexp, fun _ _ h => h, .nil _ _⟩
  | succ rounds ih =>
    unfold releaseBuffered
    cases hbf : rx.buffered.lookup rx.expectedSeq with
    | none => exact ⟨hack, hexp, fun _ _ h => h, .nil _ _⟩
    | some bf =>
      dsimp only
      obtain ⟨hack', hexp', hsub, hseq⟩ := ih (n + 1)
        ⟨nextSeq rx.expectedSeq, rx.expectedSeq, rx.buffered.erase rx.expectedSeq⟩ hexp
        (by rw [hexp, nextSeq_seqAt])
      rw [List.length_cons]
      refine ⟨?_, ?_, fun seq b h => lookup_of_erase (hsub seq b h), ?_⟩
      · rw [hack']
        congr 1
        omega
      · rw [hexp']
        congr 1
        omega
      · rw [InSequence.cons_iff]
        refine ⟨⟨bf, hexp ▸ hbf, rfl⟩, hseq.imp ?_⟩
        rintro m item ⟨b, hb, hitem⟩
        exact ⟨b, lookup_of_erase hb, hitem⟩

/-- The header flags of a frame whose number counts: neither an ACK nor outside the sequence. -/
def orderedFlags (flags : UInt8) : Bool :=
  flags &&& kReliableFlagAckOnly == 0 && flags &&& kReliableFlagUnsequenced == 0 &&
    flags &&& kReliableFlagUnordered == 0

@[simp] theorem rxState_setRxState (o : Owner) (sideId : Int32) (ty : UInt32) (rx : ReliableRxState) :
    (o.setRxState sideId ty rx).rxState sideId ty = rx := by
  unfold rxState setRxState
  rw [AList.lookup_insert, Option.getD_some]

/-- What one call passes on: the frame itself when it returns true, and what it pushes to
    `reliable_released_rx`. -/
def passedOn (ok : Bool) (item : RxItem) (items : List RxItem) : List RxItem :=
  (if ok then [item] else []) ++ items

/-- `o'` is `o` after an ordered frame `cur`, numbered `seq`, for a stream that stands at position
    `n`. -/
structure Ingests (o o' : Owner) (sideId : Int32) (ty seq : UInt32) (cur : Buffered) (n : Nat) (ok : Bool)
    (items : List RxItem) : Prop where
  writes : ∃ rxs released reads queue peak obs, o' =
    { o with reliableRx := rxs, reliableReleasedRx := released, clockReads := reads, txQueue := queue, peak := peak,
             obs := obs }
  pushes : o'.reliableReleasedRx = o.reliableReleasedRx ++ items
  alone : ok = false → items = []
  others : ∀ key, key ≠ reliableKey sideId ty → o'.reliableRx.lookup key = o.reliableRx.lookup key
  position : (o'.rxState sideId ty).expectedSeq = seqAt (n + (passedOn ok (releasedItem sideId cur) items).length)
  buffers : ∀ q bf, (o'.rxState sideId ty).buffered.lookup q = some bf →
    (o.rxState sideId ty).buffered.lookup q = some bf ∨
      q = seq ∧ bf = cur ∧ (o.rxState sideId ty).expectedSeq < seq
  inSequence : InSequence (fun m item =>
      (∃ bf, (o.rxState sideId ty).buffered.lookup (seqAt m) = some bf ∧ item = releasedItem sideId bf) ∨
        seqAt m = seq ∧ item = releasedItem sideId cur)
    n (passedOn ok (releasedItem sideId cur) items)
  frees : InSequence (fun m item =>
      ∃ bf, (o.rxState sideId ty).buffered.lookup (seqAt m) = some bf ∧ item = releasedItem sideId bf) (n + 1) items
  controls : ∃ l, o'.obs = o.obs ++ l ∧ ∀ e ∈ l, ∃ controlTy q, e = .control controlTy sideId ty q ∧
    (controlTy = SEDS_DT_RELIABLE_ACK → q.toNat ≤ n + (passedOn ok (releasedItem sideId cur) items).length)

section

variable {sideId : Int32} {ty seq : UInt32} {cur : Buffered} {n : Nat}

theorem ingressNext_ingests (hexp : (o.rxState sideId ty).expectedSeq = seqAt n) (hseq : seq = seqAt n) :
    ∃ items, Ingests o (o.ingressNext S E sideId ty) sideId ty seq cur n true items := by
  unfold ingressNext
  dsimp only
  -- the loop runs on the stream as it stands after the frame itself
  generalize hrx : ({ o.rxState sideId ty with
    expectedSeq := nextSeq (o.rxState sideId ty).expectedSeq
    lastAck := (o.rxState sideId ty).expectedSeq } : ReliableRxState) = rx
  have hbuffered : rx.buffered = (o.rxState sideId ty).buffered := by rw [← hrx]
  obtain ⟨hack, hexp', hsub, hin⟩ := releaseBuffered_spec sideId (o.rxState sideId ty).buffered.entries.length n rx
    (by rw [← hrx]; exact hexp) (by rw [← hrx, ← nextSeq_seqAt, ← hexp])
  generalize releaseBuffered sideId (o.rxState sideId ty).buffered.entries.length rx = r at hack hexp' hsub hin ⊢
  obtain ⟨rx', items⟩ := r
  dsimp only at hack hexp' hsub hin ⊢
  obtain ⟨reads, queue, peak, l, heq, hl⟩ := queueReliableControl_writes (S := S) (E := E) SEDS_DT_RELIABLE_ACK
    ((o.setRxState sideId ty rx').pushReleased items) sideId ty rx'.lastAck
  unfold queueReliableAck
  rw [heq]
  refine ⟨items, ⟨_, _, _, _, _, _, rfl⟩, rfl, fun h => (by cases h), fun key hkey => AList.lookup_insert_ne hkey,
    ?_, ?_, ?_, hbuffered ▸ hin, l, rfl, ?_⟩
  · refine (congrArg ReliableRxState.expectedSeq (rxState_setRxState o sideId ty rx')).trans (hexp'.trans ?_)
    simp only [passedOn, if_true, List.length_append, List.length_singleton, Nat.add_assoc]
  · intro q bf h
    have h' : rx'.buffered.lookup q = some bf := by
      rw [← rxState_setRxState o sideId ty rx']
      exact h
    exact .inl (hbuffered ▸ hsub q bf h')
  · unfold passedOn
    rw [if_pos rfl, List.singleton_append, InSequence.cons_iff]
    refine ⟨.inr ⟨hseq.symm, rfl⟩, hin.imp ?_⟩
    rintro m item ⟨bf, hbf, hitem⟩
    exact .inl ⟨bf, hbuffered ▸ hbf, hitem⟩
  · intro e he
    refine ⟨SEDS_DT_RELIABLE_ACK, rx'.lastAck, hl e he, fun _ => ?_⟩
    rw [hack, toNat_seqAt]
    have := Nat.mod_le (n + items.length) (2 ^ 32 - 1)
    simp only [passedOn, if_true, List.length_append, List.length_singleton]
    omega

/-- A stream that stays where it is passes nothing on. -/
theorem ingests_of_stays {o' : Owner} {rx : ReliableRxState} (reads : Nat) (queue : Bounded TxItem)
    (peak : Nat) (l : List Obs)
    (heq : o' = { o.setRxState sideId ty rx with
      clockReads := reads, txQueue := queue, peak := peak, obs := o.obs ++ l })
    (hexp : rx.expectedSeq = seqAt n)
    (hbuf : ∀ q bf, rx.buffered.lookup q = some bf →
      (o.rxState sideId ty).buffered.lookup q = some bf ∨
        q = seq ∧ bf = cur ∧ (o.rxState sideId ty).expectedSeq < seq)
    (hl : ∀ e ∈ l, ∃ controlTy q, e = .control controlTy sideId ty q ∧
      (controlTy = SEDS_DT_RELIABLE_ACK → q.toNat ≤ n)) :
    Ingests o o' sideId ty seq cur n false [] := by
  subst heq
  have hrx := rxState_setRxState o sideId ty rx
  refine ⟨⟨_, _, _, _, _, _, rfl⟩, (List.append_nil _).symm, fun _ => rfl,
    fun key hkey => AList.lookup_insert_ne hkey, ?_, ?_, .nil _ _, .nil _ _, l, rfl, hl⟩
  · exact (congrArg ReliableRxState.expectedSeq hrx).trans hexp
  · intro q bf h
    apply hbuf
    rw [← hrx]
    exact h

theorem ingressOld_ingests (hexp : (o.rxState sideId ty).expectedSeq = seqAt n) :
    Ingests o (o.ingressOld S E sideId ty) sideId ty seq cur n false [] := by
  unfold ingressOld queueReliableAck
  dsimp only
  obtain ⟨reads, queue, peak, l, heq, hl⟩ := queueReliableControl_writes (S := S) (E := E) SEDS_DT_RELIABLE_ACK
    (o.setRxState sideId ty { o.rxState sideId ty with
      lastAck := if (o.rxState sideId ty).expectedSeq > 0 then (o.rxState sideId ty).expectedSeq - 1 else 0 })
    sideId ty (if (o.rxState sideId ty).expectedSeq > 0 then (o.rxState sideId ty).expectedSeq - 1 else 0)
  apply ingests_of_stays reads queue peak l heq hexp
  · intro q bf h
    exact .inl h
  · intro e he
    refine ⟨SEDS_DT_RELIABLE_ACK, _, hl e he, fun _ => ?_⟩
    rw [hexp]
    split
    · have hpos : (1 : UInt32) ≤ seqAt n := by
        rw [UInt32.le_iff_toNat_le, toNat_seqAt]
        exact Nat.le_add_left 1 _
      rw [UInt32.toNat_sub_of_le _ _ hpos, toNat_seqAt]
      exact Nat.mod_le n _
    · exact Nat.zero_le n

theorem ingressEarly_ingests (cur : Buffered) (hexp : (o.rxState sideId ty).expectedSeq = seqAt n)
    (hearly : (o.rxState sideId ty).expectedSeq < seq) :
    Ingests o (o.ingressEarly S E sideId ty seq cur.pkt cur.wireBytes) sideId ty seq cur n false [] := by
  unfold ingressEarly queueReliablePartialAck queueReliablePacketRequest
  dsimp only
  generalize hrx : (if (o.rxState sideId ty).buffered.entries.length < o.tuning.reliableMaxPending then
    { o.rxState sideId ty with
      buffered := Map.emplace (o.rxState sideId ty).buffered seq ⟨cur.pkt, cur.wireBytes⟩ }
    else o.rxState sideId ty : ReliableRxState) = rx
  have hstays : rx.expectedSeq = seqAt n ∧ ∀ q bf, rx.buffered.lookup q = some bf →
      (o.rxState sideId ty).buffered.lookup q = some bf ∨
        q = seq ∧ bf = cur ∧ (o.rxState sideId ty).expectedSeq < seq := by
    rw [← hrx]
    split
    · exact ⟨hexp, fun q bf h => (lookup_emplace h).imp_right fun ⟨hq, hbf⟩ => ⟨hq, hbf, hearly⟩⟩
    · exact ⟨hexp, fun q bf h => .inl h⟩
  -- two control packets, one after the other
  obtain ⟨reads, queue, peak, l, heq, hl⟩ := queueReliableControl_writes (S := S) (E := E)
    SEDS_DT_RELIABLE_PARTIAL_ACK (o.setRxState sideId ty rx) sideId ty seq
  rw [heq]
  obtain ⟨reads', queue', peak', l', heq', hl'⟩ := queueReliableControl_writes (S := S) (E := E)
    SEDS_DT_RELIABLE_PACKET_REQUEST { o.setRxState sideId ty rx with
      clockReads := reads, txQueue := queue, peak := peak, obs := (o.setRxState sideId ty rx).obs ++ l }
    sideId ty rx.expectedSeq
  rw [heq']
  refine ingests_of_stays reads' queue' peak' (l ++ l') ?_ hstays.1 hstays.2 ?_
  · rw [← List.append_assoc]
    rfl
  · intro e he
    rcases List.mem_append.mp he with he | he
    · exact ⟨_, _, hl e he, fun h => (by cases h)⟩
    · exact ⟨_, _, hl' e he, fun h => (by cases h)⟩

end

/-- **What an ordered frame does to a receiver whose stream stands at position `n`.** The frame and
    the buffered ones it frees are passed on, in sequence from `n`; the stream moves past them; at
    most this frame is buffered in addition; no acknowledgement goes beyond what is passed on. -/
theorem processReliableIngress_ordered (sideId : Int32) (frame : FrameInfoLite) (pkt : PacketData)
    (wireBytes : Bytes) {hdr : ReliableHeaderLite} {n : Nat} (hhdr : frame.reliable = some hdr)
    (hflags : orderedFlags hdr.flags = true)
    (hexp : (o.rxState sideId frame.envelope.ty).expectedSeq = seqAt n) :
    ∃ items, Ingests o (o.processReliableIngress S E sideId frame pkt wireBytes).2 sideId frame.envelope.ty
      hdr.seq ⟨pkt, wireBytes⟩ n (o.processReliableIngress S E sideId frame pkt wireBytes).1 items := by
  unfold orderedFlags at hflags
  simp only [Bool.and_eq_true, beq_iff_eq] at hflags
  obtain ⟨⟨hack, huns⟩, hunord⟩ := hflags
  unfold processReliableIngress
  rw [hhdr]
  simp only [hack, huns, hunord, ne_eq, not_true_eq_false, if_false]
  split
  · exact ⟨[], ingressOld_ingests hexp⟩
  · split
    · rename_i hearly
      exact ⟨[], ingressEarly_ingests ⟨pkt, wireBytes⟩ hexp hearly⟩
    · rename_i hge hle
      have hseq : hdr.seq = seqAt n := by
        rw [← hexp]
        exact UInt32.le_antisymm (UInt32.not_lt.mp hle) (UInt32.not_lt.mp hge)
      exact ingressNext_ingests hexp hseq

end Owner

end SedsNet
