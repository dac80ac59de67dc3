import SedsNet.Emits
import SedsNet.Gaps
import SedsNet.Lib.Machine

/-!
# The frames that wait for an ACK

The sending half of a reliable stream changes in five places: `send_serialized_with_reliable`, `handle_ack`,
`handle_partial_ack`, `handle_packet_request` and `do_reliable_timeouts`, which routers and relays share. A run is a list of
such calls, in any order, with anything in between that leaves the streams and the tuning alone; a side that is removed takes
its streams with it.

`Turn` says once what can happen to a stream, and every call is a sequence of turns (`step_turns`). What holds of a stream
along a run is shown turn by turn: the window invariant and the bound on retransmissions (`window_bounded`). Both are about a
counter that has not come round to 1 again.
-/

set_option autoImplicit false

namespace SedsNet

open Lib

/-- What the rest of a router or relay does between two calls. -/
structure Elsewhere where
  change : Owner → Owner
  streams : ∀ o, (change o).reliableTx = o.reliableTx
  tuning : ∀ o, (change o).tuning = o.tuning

/-- The calls that touch the sending half. -/
inductive StreamEvent where
  | send (sideId : Int32) (pkt : PacketData)
  | ack (sideId : Int32) (ty ack : UInt32)
  | partialAck (sideId : Int32) (ty seq : UInt32)
  | packetRequest (sideId : Int32) (ty seq : UInt32)
  | timeouts
  | removeSide (sideId : Int32)
  | elsewhere (f : Elsewhere)

/-- The call is a packet request. -/
def StreamEvent.asks : StreamEvent → Bool
  | .packetRequest _ _ _ => true
  | _ => false

/-- The stream goes with its side. -/
def StreamEvent.ends (key : UInt64) : StreamEvent → Bool
  | .removeSide sideId => sideOfKey key == sideId
  | _ => false

namespace Owner

/-! ## Turns -/

/-- What can happen to a stream that `G` allows to give a number, and the frames that the callback takes from it meanwhile. -/
inductive Turn (G : ReliableTxState → Prop) (tuning : Tuning) (asks : Bool) : ReliableTxState → List UInt32 → ReliableTxState → Prop where
  /-- A number is given, and the callback does not take the frame. -/
  | burns (tx : ReliableTxState) (hgives : G tx) : Turn G tuning asks tx [] { tx with nextSeq := nextSeq tx.nextSeq }
  /-- A number is given, and the frame waits. -/
  | enters (tx : ReliableTxState) (sent : Sent) (hgives : G tx)
      (hroom : tx.sent.entries.length < tuning.reliableMaxPending) (hretries : sent.retries = 0) :
      Turn G tuning asks tx [tx.nextSeq]
        { nextSeq := nextSeq tx.nextSeq, sentOrder := tx.sentOrder ++ [tx.nextSeq], sent := tx.sent.emplace tx.nextSeq sent }
  /-- A cumulative ACK. -/
  | clears (tx : ReliableTxState) (ack : UInt32) :
      Turn G tuning asks tx []
        { tx with sent := (ackThrough ack tx.sentOrder tx.sent).2, sentOrder := (ackThrough ack tx.sentOrder tx.sent).1 }
  /-- One frame is acknowledged, or given up. -/
  | drops (tx : ReliableTxState) (seq : UInt32) :
      Turn G tuning asks tx [] { tx with sent := tx.sent.erase seq, sentOrder := tx.sentOrder.filter (· ≠ seq) }
  /-- The frame is marked. -/
  | marks (tx : ReliableTxState) {seq : UInt32} {old : Sent} (new : Sent) (hold : tx.sent.lookup seq = some old)
      (hretries : new.retries = old.retries) : Turn G tuning asks tx [] { tx with sent := tx.sent.insert seq new }
  /-- The frame goes out again. -/
  | repeats (tx : ReliableTxState) {seq : UInt32} {old : Sent} (new : Sent) (hold : tx.sent.lookup seq = some old)
      (hless : old.retries < tuning.reliableMaxRetries) (hretries : new.retries = old.retries + 1) :
      Turn G tuning asks tx [seq] { tx with sent := tx.sent.insert seq new }
  /-- The frame is asked for. -/
  | asked (tx : ReliableTxState) {seq : UInt32} {old : Sent} (new : Sent) (taken : List UInt32) (hasks : asks = true)
      (hold : tx.sent.lookup seq = some old) : Turn G tuning asks tx taken { tx with sent := tx.sent.insert seq new }

/-- One turn after the other. -/
inductive Turns (G : ReliableTxState → Prop) (tuning : Tuning) (asks : Bool) : ReliableTxState → List UInt32 → ReliableTxState → Prop where
  | refl (tx : ReliableTxState) : Turns G tuning asks tx [] tx
  | cons {tx tx' tx'' : ReliableTxState} {taken taken' : List UInt32} (h : Turn G tuning asks tx taken tx')
      (hrest : Turns G tuning asks tx' taken' tx'') : Turns G tuning asks tx (taken ++ taken') tx''

section

variable {G : ReliableTxState → Prop} {tuning : Tuning} {asks : Bool} {tx tx' tx'' : ReliableTxState} {taken taken' : List UInt32}

theorem Turn.turns (h : Turn G tuning asks tx taken tx') : Turns G tuning asks tx taken tx' := by
  have hone := Turns.cons h (.refl tx')
  rw [List.append_nil] at hone
  exact hone

theorem Turns.trans (h : Turns G tuning asks tx taken tx') (h' : Turns G tuning asks tx' taken' tx'') :
    Turns G tuning asks tx (taken ++ taken') tx'' := by
  induction h with
  | refl tx => exact h'
  | cons hturn hrest ih =>
    rw [List.append_assoc]
    exact .cons hturn (ih h')

/-! ## Windows -/

/-- The stream's last number is still to come. -/
def Below (tx : ReliableTxState) : Prop := tx.nextSeq + 1 ≠ 0

/-- A window in order: its frames are listed by their numbers, all below the next one, and there are not too many. -/
structure Windowed (tuning : Tuning) (tx : ReliableTxState) : Prop where
  sorted : tx.sentOrder.Pairwise (· < ·)
  keys : ∀ seq, seq ∈ tx.sent ↔ seq ∈ tx.sentOrder
  below : ∀ seq ∈ tx.sentOrder, seq < tx.nextSeq
  room : tx.sentOrder.length ≤ tuning.reliableMaxPending

theorem lt_nextSeq {seq : UInt32} (h : seq + 1 ≠ 0) : seq < nextSeq seq := by
  unfold nextSeq
  rw [if_neg h, UInt32.lt_iff_toNat_lt, UInt32.toNat_add]
  have hlt := seq.toNat_lt
  have hne : seq.toNat + 1 ≠ 2 ^ 32 := by
    intro hmax
    apply h
    apply UInt32.toNat.inj
    rw [UInt32.toNat_add]
    simp [hmax]
  simp
  omega

theorem Windowed.new (tuning : Tuning) : Windowed tuning .new :=
  ⟨.nil, fun _ => ⟨fun h => absurd h (AList.notMem_empty _), fun h => absurd h List.not_mem_nil⟩,
    fun _ h => absurd h List.not_mem_nil, Nat.zero_le _⟩

/-- The frames that wait are as many as are listed. -/
theorem Windowed.length_eq (h : Windowed tuning tx) : tx.sent.entries.length = tx.sentOrder.length := by
  have hperm : tx.sent.keys.Perm tx.sentOrder := by
    rw [List.perm_ext_iff_of_nodup tx.sent.keys_nodup (h.sorted.imp fun hlt => UInt32.ne_of_lt hlt)]
    exact h.keys
  have hlength := hperm.length_eq
  rw [AList.keys, List.keys, List.length_map] at hlength
  exact hlength

theorem mem_insert_iff {sent : Map UInt32 Sent} {seq : UInt32} {old new : Sent} (hold : sent.lookup seq = some old) (q : UInt32) :
    q ∈ sent.insert seq new ↔ q ∈ sent := by
  rw [AList.mem_insert]
  refine ⟨?_, .inr⟩
  rintro (rfl | hq)
  · exact Map.mem_iff_lookup.mpr ⟨old, hold⟩
  · exact hq

/-- A frame's bookkeeping is no matter of the window. -/
theorem Windowed.insert (h : Windowed tuning tx) {seq : UInt32} {old : Sent} (new : Sent) (hold : tx.sent.lookup seq = some old) :
    Windowed tuning { tx with sent := tx.sent.insert seq new } :=
  ⟨h.sorted, fun q => (mem_insert_iff hold q).trans (h.keys q), h.below, h.room⟩

theorem ackThrough_keys {ack : UInt32} {order : List UInt32} {sent : Map UInt32 Sent} (hsorted : order.Pairwise (· < ·))
    (hkeys : ∀ seq, seq ∈ sent ↔ seq ∈ order) :
    (ackThrough ack order sent).1.Sublist order ∧
    ∀ seq, seq ∈ (ackThrough ack order sent).2 ↔ seq ∈ (ackThrough ack order sent).1 := by
  induction order generalizing sent with
  | nil => exact ⟨.refl _, hkeys⟩
  | cons first rest ih =>
    obtain ⟨hfirst, hrest⟩ := List.pairwise_cons.mp hsorted
    unfold ackThrough
    split
    · have hkeys' : ∀ seq, seq ∈ sent.erase first ↔ seq ∈ rest := by
        intro seq
        rw [AList.mem_erase, hkeys, List.mem_cons]
        constructor
        · intro hseq
          exact hseq.2.resolve_left hseq.1
        · intro hseq
          exact ⟨(UInt32.ne_of_lt (hfirst seq hseq)).symm, .inr hseq⟩
      obtain ⟨hsub, hiff⟩ := ih hrest hkeys'
      exact ⟨hsub.trans (List.sublist_cons_self first rest), hiff⟩
    · exact ⟨.refl _, hkeys⟩

theorem Windowed.turn (h : Windowed tuning tx) (hturn : Turn Below tuning asks tx taken tx') : Windowed tuning tx' := by
  cases hturn with
  | burns hcounts => exact ⟨h.sorted, h.keys, fun q hq => UInt32.lt_trans (h.below q hq) (lt_nextSeq hcounts), h.room⟩
  | enters sent hcounts hroom hretries =>
    refine ⟨?_, ?_, ?_, ?_⟩
    · rw [List.pairwise_append]
      refine ⟨h.sorted, List.pairwise_singleton _ _, ?_⟩
      intro q hq last hlast
      rw [List.mem_singleton.mp hlast]
      exact h.below q hq
    · intro q
      rw [Link.mem_emplace_iff, List.mem_append, List.mem_singleton, h.keys]
    · intro q hq
      rcases List.mem_append.mp hq with hq | hq
      · exact UInt32.lt_trans (h.below q hq) (lt_nextSeq hcounts)
      · rw [List.mem_singleton.mp hq]
        exact lt_nextSeq hcounts
    · rw [List.length_append, List.length_singleton]
      rw [h.length_eq] at hroom
      exact hroom
  | clears ack =>
    obtain ⟨hsub, hkeys⟩ := @ackThrough_keys ack _ _ h.sorted h.keys
    exact ⟨h.sorted.sublist hsub, hkeys, fun q hq => h.below q (hsub.subset hq), hsub.length_le.trans h.room⟩
  | drops seq =>
    refine ⟨h.sorted.sublist List.filter_sublist, ?_, ?_, List.filter_sublist.length_le.trans h.room⟩
    · intro q
      rw [AList.mem_erase, h.keys, List.mem_filter]
      simp [and_comm]
    · intro q hq
      exact h.below q (List.mem_of_mem_filter hq)
  | marks new hold hretries => exact h.insert new hold
  | repeats new hold hless hretries => exact h.insert new hold
  | asked new taken hasks hold => exact h.insert new hold

theorem Windowed.turns (h : Windowed tuning tx) (hturns : Turns Below tuning asks tx taken tx') : Windowed tuning tx' := by
  induction hturns with
  | refl tx => exact h
  | cons hturn hrest ih => exact ih (h.turn hturn)

/-! ## Retransmissions -/

/-- Without packet requests, a frame that waits was taken once, and once more for every retry. -/
structure Counted (tuning : Tuning) (taken : List UInt32) (tx : ReliableTxState) : Prop where
  windowed : Windowed tuning tx
  given : ∀ seq ∈ taken, seq < tx.nextSeq
  bound : ∀ seq, taken.count seq ≤ 1 + tuning.reliableMaxRetries.toNat
  exact : ∀ seq sent, tx.sent.lookup seq = some sent →
    sent.retries ≤ tuning.reliableMaxRetries ∧ taken.count seq = 1 + sent.retries.toNat

theorem Counted.new (tuning : Tuning) : Counted tuning [] .new :=
  ⟨.new tuning, fun _ h => absurd h List.not_mem_nil, fun _ => Nat.zero_le _, fun _ _ h => nomatch h⟩

/-- Frames that leave the window, or stay in it as they are, keep their counts. -/
theorem Counted.of_less (h : Counted tuning taken tx) (hwindowed : Windowed tuning tx') (hnext : tx'.nextSeq = tx.nextSeq)
    (hless : ∀ seq sent, tx'.sent.lookup seq = some sent →
      ∃ old, tx.sent.lookup seq = some old ∧ sent.retries = old.retries) : Counted tuning taken tx' := by
  refine ⟨hwindowed, fun seq hseq => hnext ▸ h.given seq hseq, h.bound, ?_⟩
  intro seq sent hsent
  obtain ⟨old, hold, hretries⟩ := hless seq sent hsent
  rw [hretries]
  exact h.exact seq old hold

theorem count_append_of_ne {q seq : UInt32} (hne : q ≠ seq) : (taken ++ [seq]).count q = taken.count q := by
  rw [List.count_append, List.count_singleton, if_neg (by simpa using hne.symm)]
  rfl

theorem count_append_self (seq : UInt32) : (taken ++ [seq]).count seq = taken.count seq + 1 := by
  rw [List.count_append, List.count_singleton_self]

theorem Counted.turn (h : Counted tuning taken tx) (hturn : Turn Below tuning false tx taken' tx') :
    Counted tuning (taken ++ taken') tx' := by
  have hwindowed := h.windowed.turn hturn
  cases hturn with
  | burns hcounts =>
    rw [List.append_nil]
    exact ⟨hwindowed, fun q hq => UInt32.lt_trans (h.given q hq) (lt_nextSeq hcounts), h.bound, h.exact⟩
  | enters sent hcounts hroom hretries =>
    have hnew : taken.count tx.nextSeq = 0 := by
      rw [List.count_eq_zero]
      intro hmem
      exact UInt32.lt_irrefl _ (h.given _ hmem)
    refine ⟨hwindowed, ?_, ?_, ?_⟩
    · intro q hq
      rcases List.mem_append.mp hq with hq | hq
      · exact UInt32.lt_trans (h.given q hq) (lt_nextSeq hcounts)
      · rw [List.mem_singleton.mp hq]
        exact lt_nextSeq hcounts
    · intro q
      by_cases hq : q = tx.nextSeq
      · rw [hq, count_append_self, hnew]
        exact Nat.le_add_right 1 _
      · rw [count_append_of_ne hq]
        exact h.bound q
    · intro q s hs
      rcases lookup_emplace hs with hold | ⟨rfl, rfl⟩
      · have hlt := h.windowed.below q ((h.windowed.keys q).mp (Map.mem_iff_lookup.mpr ⟨s, hold⟩))
        rw [count_append_of_ne (UInt32.ne_of_lt hlt)]
        exact h.exact q s hold
      · rw [count_append_self, hnew, hretries]
        exact ⟨UInt32.zero_le, rfl⟩
  | clears ack =>
    rw [List.append_nil]
    exact h.of_less hwindowed rfl fun q s hs => ⟨s, lookup_ackThrough hs, rfl⟩
  | drops seq =>
    rw [List.append_nil]
    exact h.of_less hwindowed rfl fun q s hs => ⟨s, lookup_of_erase hs, rfl⟩
  | @marks seq old new hold hretries =>
    rw [List.append_nil]
    refine h.of_less hwindowed rfl fun q s hs => ?_
    by_cases hq : q = seq
    · subst hq
      rw [AList.lookup_insert, Option.some.injEq] at hs
      subst hs
      exact ⟨old, hold, hretries⟩
    · rw [AList.lookup_insert_ne hq] at hs
      exact ⟨s, hs, rfl⟩
  | @repeats seq old new hold hless hretries =>
    obtain ⟨-, hcount⟩ := h.exact seq old hold
    have hlt := UInt32.lt_iff_toNat_lt.mp hless
    have hmax := tuning.reliableMaxRetries.toNat_lt
    have hnum : new.retries.toNat = old.retries.toNat + 1 := by
      rw [hretries, UInt32.toNat_add]
      simp
      omega
    refine ⟨hwindowed, ?_, ?_, ?_⟩
    · intro q hq
      rcases List.mem_append.mp hq with hq | hq
      · exact h.given q hq
      · rw [List.mem_singleton.mp hq]
        exact h.windowed.below seq ((h.windowed.keys seq).mp (Map.mem_iff_lookup.mpr ⟨old, hold⟩))
    · intro q
      by_cases hq : q = seq
      · rw [hq, count_append_self, hcount]
        omega
      · rw [count_append_of_ne hq]
        exact h.bound q
    · intro q s hs
      by_cases hq : q = seq
      · subst hq
        rw [AList.lookup_insert, Option.some.injEq] at hs
        subst hs
        rw [count_append_self, hcount, hnum]
        refine ⟨UInt32.le_iff_toNat_le.mpr ?_, by omega⟩
        rw [hnum]
        exact hlt
      · rw [AList.lookup_insert_ne hq] at hs
        rw [count_append_of_ne hq]
        exact h.exact q s hs
  | asked new taken hasks hold => cases hasks

theorem Counted.turns (h : Counted tuning taken tx) (hturns : Turns Below tuning false tx taken' tx') :
    Counted tuning (taken ++ taken') tx' := by
  induction hturns generalizing taken with
  | refl tx =>
    rw [List.append_nil]
    exact h
  | cons hturn hrest ih =>
    rw [← List.append_assoc]
    exact ih (h.turn hturn)

end

/-! ## Calls -/

/-- `reliable_tx[key]`. -/
def stream (o : Owner) (key : UInt64) : ReliableTxState := (o.reliableTx.lookup key).getD .new

instance (S : Schema) (o : Owner) (sideId : Int32) (ty : UInt32) : Decidable (GivesNumber S o sideId ty) :=
  inferInstanceAs (Decidable (_ ∧ _ ∧ _))

instance (E : Env) (o : Owner) : Decidable (CallbackTakes E o) := inferInstanceAs (Decidable (_ ∧ _))

/-- The frame, if the callback takes it in its round of the inner loop of `do_reliable_timeouts`. -/
def takenAgain (E : Env) (now : UInt64) (sideId : Int32) (o : Owner) (tx : ReliableTxState) (seq : UInt32) : List UInt32 :=
  match tx.sent.lookup seq with
  | none => []
  | some sent =>
    if dueAgain o.tuning now sent = true ∧ (o.callSerializedTx E sideId sent.bytes).1 = SEDS_OK then [seq] else []

/-- The frames taken in the inner loop. -/
def takenOf (E : Env) (now : UInt64) (sideId : Int32) : Owner × ReliableTxState → List UInt32 → List UInt32
  | _, [] => []
  | p, seq :: seqs => takenAgain E now sideId p.1 p.2 seq ++ takenOf E now sideId (retransmit E now sideId p seq) seqs

/-- The side of a stream can send. -/
def sendsOn (o : Owner) (sideId : Int32) : Bool :=
  match o.sideAt sideId with
  | none => false
  | some side => side.serializedTx

/-- The frames taken in the outer loop, with the keys of their streams. -/
def takenBy (E : Env) (now : UInt64) : Owner → List (Sigma fun _ : UInt64 => ReliableTxState) → List (UInt64 × UInt32)
  | _, [] => []
  | o, e :: entries =>
    (if o.sendsOn (sideOfKey e.1) then (takenOf E now (sideOfKey e.1) (o, e.2) e.2.sentOrder).map fun seq => (e.1, seq) else []) ++
    takenBy E now (timeoutStream E now o e.1 e.2) entries

section

variable (S : Schema) (Z : Codec) (E : Env)

/-- One call, or what lies between two. -/
def streamStep (o : Owner) : StreamEvent → Owner
  | .send sideId pkt => (o.sendSerializedWithReliable S Z E sideId pkt).2
  | .ack sideId ty ack => o.handleAck S sideId ty ack
  | .partialAck sideId ty seq => o.handlePartialAck sideId ty seq
  | .packetRequest sideId ty seq => o.handlePacketRequest E sideId ty seq
  | .timeouts => o.doReliableTimeouts E
  | .removeSide sideId => o.removeSide E sideId
  | .elsewhere f => f.change o

/-- The numbered frames that a callback takes in a call. -/
def taken (o : Owner) : StreamEvent → List (UInt64 × UInt32)
  | .send sideId pkt =>
    if GivesNumber S o sideId pkt.ty ∧ CallbackTakes E o then [(reliableKey sideId pkt.ty, (o.txState sideId pkt.ty).nextSeq)]
    else []
  | .packetRequest sideId ty seq =>
    if o.sendsOn sideId = true ∧ seq ∈ (o.txState sideId ty).sent ∧ CallbackTakes E o then [(reliableKey sideId ty, seq)] else []
  | .timeouts => takenBy E (o.nowMs E).1 (o.nowMs E).2 o.reliableTx.entries
  | _ => []

/-- When the call gives a number of the stream, then in a state that `G` allows to. -/
def Gives (G : ReliableTxState → Prop) (key : UInt64) (o : Owner) : StreamEvent → Prop
  | .send sideId pkt => reliableKey sideId pkt.ty = key → GivesNumber S o sideId pkt.ty → G (o.stream key)
  | _ => True

/-- The stream's counter does not come round to 1 in this call. -/
abbrev Counts (key : UInt64) (o : Owner) (e : StreamEvent) : Prop := Gives S Below key o e

end

/-- The frames of one stream. -/
def ofKey (key : UInt64) (taken : List (UInt64 × UInt32)) : List UInt32 :=
  taken.filterMap fun p => if p.1 = key then some p.2 else none

theorem ofKey_append (key : UInt64) (taken taken' : List (UInt64 × UInt32)) :
    ofKey key (taken ++ taken') = ofKey key taken ++ ofKey key taken' := List.filterMap_append

theorem ofKey_self (key : UInt64) (seqs : List UInt32) : ofKey key (seqs.map fun seq => (key, seq)) = seqs := by
  induction seqs with
  | nil => rfl
  | cons seq seqs ih => simp [ofKey] at ih ⊢

theorem ofKey_of_ne {key key' : UInt64} (h : key' ≠ key) (seqs : List UInt32) :
    ofKey key (seqs.map fun seq => (key', seq)) = [] := by
  induction seqs with
  | nil => rfl
  | cons seq seqs ih => simp [ofKey, h] at ih ⊢

section

variable {S : Schema} {Z : Codec} {E : Env} {G : ReliableTxState → Prop} {o : Owner}

theorem stream_setTxState (sideId : Int32) (ty : UInt32) (tx : ReliableTxState) (key : UInt64) :
    (o.setTxState sideId ty tx).stream key = if key = reliableKey sideId ty then tx else o.stream key := by
  unfold stream setTxState
  dsimp only
  split
  · rename_i hkey
    rw [hkey, AList.lookup_insert]
    rfl
  · rename_i hkey
    rw [AList.lookup_insert_ne hkey]

theorem stream_congr {o' : Owner} (h : o'.reliableTx = o.reliableTx) (key : UInt64) : o'.stream key = o.stream key := by
  unfold stream
  rw [h]

/-- What a call does to one stream. -/
def TurnsOn (G : ReliableTxState → Prop) (key : UInt64) (e : StreamEvent) (o o' : Owner) (taken : List (UInt64 × UInt32)) : Prop :=
  Turns G o.tuning e.asks (o.stream key) (ofKey key taken) (o'.stream key)

theorem turns_of_eq {tuning : Tuning} {asks : Bool} {tx tx' : ReliableTxState} (h : tx' = tx) : Turns G tuning asks tx [] tx' := by
  rw [h]
  exact .refl tx

theorem handleAck_turns (key : UInt64) (sideId : Int32) (ty ack : UInt32) :
    TurnsOn G key (.ack sideId ty ack) o (o.handleAck S sideId ty ack) [] := by
  unfold TurnsOn handleAck
  cases htx : o.reliableTx.lookup (reliableKey sideId ty) with
  | none => exact .refl _
  | some tx =>
    have hstream : o.stream (reliableKey sideId ty) = tx := by
      unfold stream
      rw [htx]
      rfl
    dsimp only
    split
    · rw [stream_setTxState]
      split
      · rename_i hkey
        rw [hkey, hstream]
        exact (Turn.drops tx ack).turns
      · exact .refl _
    · rw [stream_setTxState]
      split
      · rename_i hkey
        rw [hkey, hstream]
        exact (Turn.clears tx ack).turns
      · exact .refl _

theorem handlePartialAck_turns (key : UInt64) (sideId : Int32) (ty seq : UInt32) :
    TurnsOn G key (.partialAck sideId ty seq) o (o.handlePartialAck sideId ty seq) [] := by
  unfold TurnsOn handlePartialAck
  cases htx : o.reliableTx.lookup (reliableKey sideId ty) with
  | none => exact .refl _
  | some tx =>
    have hstream : o.stream (reliableKey sideId ty) = tx := by
      unfold stream
      rw [htx]
      rfl
    dsimp only
    cases hsent : tx.sent.lookup seq with
    | none => exact .refl _
    | some sent =>
      dsimp only
      rw [stream_setTxState]
      split
      · rename_i hkey
        rw [hkey, hstream]
        exact (@Turn.marks G _ _ tx seq sent { sent with partialAcked := true } hsent rfl).turns
      · exact .refl _

theorem handlePacketRequest_turns (key : UInt64) (sideId : Int32) (ty seq : UInt32) :
    TurnsOn G key (.packetRequest sideId ty seq) o (o.handlePacketRequest E sideId ty seq)
      (taken S E o (.packetRequest sideId ty seq)) := by
  have hother : ∀ l : List (UInt64 × UInt32), (l = [(reliableKey sideId ty, seq)] ∨ l = []) → key ≠ reliableKey sideId ty →
      ofKey key l = [] := by
    rintro l (rfl | rfl) hkey
    · simp [ofKey, hkey.symm]
    · rfl
  have hcases : taken S E o (.packetRequest sideId ty seq) = [(reliableKey sideId ty, seq)] ∨
      taken S E o (.packetRequest sideId ty seq) = [] := by
    unfold taken
    dsimp only
    split
    · exact .inl rfl
    · exact .inr rfl
  unfold TurnsOn
  by_cases hkey : key = reliableKey sideId ty
  · subst hkey
    unfold handlePacketRequest taken sendsOn
    dsimp only
    cases o.sideAt sideId with
    | none =>
      dsimp only
      rw [if_neg fun h => Bool.false_ne_true h.1]
      exact .refl _
    | some side =>
      dsimp only
      cases htx : o.reliableTx.lookup (reliableKey sideId ty) with
      | none =>
        have hstate : o.txState sideId ty = .new := by
          unfold txState
          rw [htx]
          rfl
        rw [hstate, if_neg fun h => AList.notMem_empty seq h.2.1]
        exact .refl _
      | some tx =>
        have hstate : o.txState sideId ty = tx := by
          unfold txState
          rw [htx]
          rfl
        have hstream : o.stream (reliableKey sideId ty) = tx := hstate
        rw [hstate]
        dsimp only
        cases hsent : tx.sent.lookup seq with
        | none =>
          rw [if_neg]
          · exact .refl _
          · rintro ⟨-, hmem, -⟩
            obtain ⟨sent, hsome⟩ := Map.mem_iff_lookup.mp hmem
            rw [hsent] at hsome
            cases hsome
        | some sent =>
          dsimp only
          by_cases hserialized : side.serializedTx = true
          · have hcall : ¬ (!side.serializedTx) = true := by simp [hserialized]
            rw [if_neg hcall, stream_setTxState, if_pos rfl, hstream]
            exact (Turn.asked tx _ _ rfl hsent).turns
          · have hcall : (!side.serializedTx) = true := by simp [hserialized]
            rw [if_neg fun h => hserialized h.1, if_pos hcall]
            exact .refl _
  · rw [hother _ hcases hkey]
    apply turns_of_eq
    unfold handlePacketRequest
    cases o.sideAt sideId with
    | none => rfl
    | some side =>
      dsimp only
      cases o.reliableTx.lookup (reliableKey sideId ty) with
      | none => rfl
      | some tx =>
        dsimp only
        cases tx.sent.lookup seq with
        | none => rfl
        | some sent =>
          dsimp only
          split
          · rfl
          · rw [stream_setTxState, if_neg hkey]
            apply stream_congr
            rw [nowMs_reliableTx, callSerializedTx_reliableTx]

/-- A send is about its own stream only. -/
theorem sendSerializedWithReliable_others {sideId : Int32} {pkt : PacketData} {key : UInt64} (hkey : key ≠ reliableKey sideId pkt.ty) :
    (o.sendSerializedWithReliable S Z E sideId pkt).2.stream key = o.stream key := by
  unfold sendSerializedWithReliable
  cases o.sideAt sideId with
  | none => rfl
  | some side =>
    dsimp only
    split
    · rfl
    · split
      · exact stream_congr (callSerializedTx_reliableTx o sideId _) key
      · split
        · rw [stream_setTxState, if_neg hkey]
        · generalize serializePacketWithReliable S Z pkt _ = bytes
          have hcalled : ∀ tx, (((o.setTxState sideId pkt.ty tx).observe
              (.number sideId pkt.ty (o.txState sideId pkt.ty).nextSeq bytes)).callSerializedTx E sideId bytes).2.stream key =
                o.stream key := by
            intro tx
            rw [stream_congr (callSerializedTx_reliableTx _ sideId bytes)]
            exact (stream_setTxState sideId pkt.ty tx key).trans (if_neg hkey)
          split
          · exact hcalled _
          · rw [stream_setTxState, if_neg hkey]
            exact hcalled _

theorem send_turns (key : UInt64) (sideId : Int32) (pkt : PacketData) (hallowed : Gives S G key o (.send sideId pkt)) :
    TurnsOn G key (.send sideId pkt) o (o.sendSerializedWithReliable S Z E sideId pkt).2 (taken S E o (.send sideId pkt)) := by
  unfold TurnsOn taken
  dsimp only
  by_cases hkey : key = reliableKey sideId pkt.ty
  · subst hkey
    have hstate : ∀ o : Owner, o.stream (reliableKey sideId pkt.ty) = o.txState sideId pkt.ty := fun _ => rfl
    rw [hstate, hstate]
    by_cases hgives : GivesNumber S o sideId pkt.ty
    · have hallows : G (o.txState sideId pkt.ty) := hallowed rfl hgives
      rcases sendSerializedWithReliable_numbered (Z := Z) (E := E) hgives with
        ⟨hnot, -, htx⟩ | ⟨sent, hretries, -, htakes, -, htx⟩
      · rw [htx, if_neg fun h => hnot h.2]
        exact (Turn.burns _ hallows).turns
      · rw [htx, if_pos ⟨hgives, htakes⟩]
        have hone : ofKey (reliableKey sideId pkt.ty) [(reliableKey sideId pkt.ty, (o.txState sideId pkt.ty).nextSeq)] =
            [(o.txState sideId pkt.ty).nextSeq] := ofKey_self _ [_]
        rw [hone]
        exact (Turn.enters _ sent hallows hgives.2.2 hretries).turns
    · rw [sendSerializedWithReliable_unnumbered hgives, if_neg fun h => hgives h.1]
      exact .refl _
  · rw [sendSerializedWithReliable_others hkey]
    have hnone : ofKey key (if GivesNumber S o sideId pkt.ty ∧ CallbackTakes E o then
        [(reliableKey sideId pkt.ty, (o.txState sideId pkt.ty).nextSeq)] else []) = [] := by
      split
      · exact ofKey_of_ne (Ne.symm hkey) [_]
      · rfl
    rw [hnone]
    exact .refl _

/-- One round of the inner loop. -/
theorem retransmit_turns (now : UInt64) (sideId : Int32) (o : Owner) (tx : ReliableTxState) (seq : UInt32) :
    Turns G o.tuning false tx (takenAgain E now sideId o tx seq) (retransmit E now sideId (o, tx) seq).2 := by
  unfold takenAgain retransmit
  dsimp only
  cases hsent : tx.sent.lookup seq with
  | none => exact .refl tx
  | some sent =>
    dsimp only
    by_cases hwaits : (sent.queued || sent.partialAcked ||
        decide (now - sent.lastSendMs < o.tuning.reliableRetransmitMs.toUInt64)) = true
    · have hnot : ¬ dueAgain o.tuning now sent = true := by
        unfold dueAgain
        rw [hwaits]
        exact Bool.false_ne_true
      rw [if_pos hwaits, if_neg fun h => hnot h.1]
      exact .refl tx
    · rw [if_neg hwaits]
      by_cases hretries : sent.retries ≥ o.tuning.reliableMaxRetries
      · -- the frame is given up
        have hnot : ¬ dueAgain o.tuning now sent = true := by
          unfold dueAgain
          rw [decide_eq_false (UInt32.not_lt.mpr hretries), Bool.and_false]
          exact Bool.false_ne_true
        rw [if_pos hretries, if_neg fun h => hnot h.1]
        exact (Turn.drops tx seq).turns
      · have hless := UInt32.not_le.mp hretries
        have hagain : dueAgain o.tuning now sent = true := by
          unfold dueAgain
          rw [Bool.eq_false_of_not_eq_true hwaits, decide_eq_true hless]
          rfl
        rw [if_neg hretries]
        by_cases hok : (o.callSerializedTx E sideId sent.bytes).1 = SEDS_OK
        · rw [if_pos hok, if_pos ⟨hagain, hok⟩]
          exact (@Turn.repeats G _ _ tx seq sent { sent with lastSendMs := now, retries := sent.retries + 1 } hsent hless rfl).turns
        · rw [if_neg hok, if_neg fun h => hok h.2]
          exact .refl tx

/-- The inner loop. -/
theorem retransmit_foldl_turns (now : UInt64) (sideId : Int32) (seqs : List UInt32) (o : Owner) (tx : ReliableTxState) :
    Turns G o.tuning false tx (takenOf E now sideId (o, tx) seqs) (seqs.foldl (retransmit E now sideId) (o, tx)).2 := by
  induction seqs generalizing o tx with
  | nil => exact .refl tx
  | cons seq seqs ih =>
    have hone := retransmit_turns (E := E) (G := G) now sideId o tx seq
    have htuning := (retransmit_window (E := E) now sideId o tx seq).1
    have hrest := ih (retransmit E now sideId (o, tx) seq).1 (retransmit E now sideId (o, tx) seq).2
    rw [htuning] at hrest
    exact hone.trans hrest

/-- One round of the outer loop. -/
theorem timeoutStream_turns (now : UInt64) (o : Owner) {key : UInt64} {tx : ReliableTxState} (htx : o.reliableTx.lookup key = some tx) :
    Turns G o.tuning false (o.stream key)
      (if o.sendsOn (sideOfKey key) then takenOf E now (sideOfKey key) (o, tx) tx.sentOrder else [])
      ((timeoutStream E now o key tx).stream key) := by
  have hstream : o.stream key = tx := by
    unfold stream
    rw [htx]
    rfl
  unfold timeoutStream sendsOn sideOfKey
  dsimp only
  cases o.sideAt (key >>> 32).toUInt32.toInt32 with
  | none => exact .refl _
  | some side =>
    dsimp only
    by_cases hserialized : side.serializedTx = true
    · have hsends : ¬ (!side.serializedTx) = true := by simp [hserialized]
      rw [if_pos hserialized, if_neg hsends, hstream]
      have hafter : ({ (tx.sentOrder.foldl (retransmit E now (key >>> 32).toUInt32.toInt32) (o, tx)).1 with
          reliableTx := (tx.sentOrder.foldl (retransmit E now (key >>> 32).toUInt32.toInt32) (o, tx)).1.reliableTx.insert key
            (tx.sentOrder.foldl (retransmit E now (key >>> 32).toUInt32.toInt32) (o, tx)).2 } : Owner).stream key =
          (tx.sentOrder.foldl (retransmit E now (key >>> 32).toUInt32.toInt32) (o, tx)).2 := by
        unfold stream
        dsimp only
        rw [AList.lookup_insert]
        rfl
      rw [hafter]
      exact retransmit_foldl_turns now _ tx.sentOrder o tx
    · have hsends : (!side.serializedTx) = true := by simp [hserialized]
      rw [if_neg hserialized, if_pos hsends]
      exact .refl _

/-- The outer loop. -/
theorem timeoutStreams_turns (now : UInt64) (key : UInt64) (entries : List (Sigma fun _ : UInt64 => ReliableTxState))
    (hnodup : entries.NodupKeys) (o : Owner) (hmem : ∀ e ∈ entries, o.reliableTx.lookup e.1 = some e.2) :
    Turns G o.tuning false (o.stream key) (ofKey key (takenBy E now o entries))
      ((entries.foldl (fun o entry => timeoutStream E now o entry.1 entry.2) o).stream key) := by
  induction entries generalizing o with
  | nil => exact .refl _
  | cons e entries ih =>
    obtain ⟨hnot, hnodup'⟩ := List.nodupKeys_cons.mp hnodup
    have htx := hmem e List.mem_cons_self
    obtain ⟨-, hother⟩ := timeoutStream_retains (E := E) now htx
    have hmem' : ∀ f ∈ entries, (timeoutStream E now o e.1 e.2).reliableTx.lookup f.1 = some f.2 := by
      intro f hf
      rw [hother f.1 (fun h => hnot (h ▸ List.mem_keys_of_mem hf))]
      exact hmem f (List.mem_cons_of_mem e hf)
    have hrest := ih hnodup' (timeoutStream E now o e.1 e.2) hmem'
    rw [timeoutStream_tuning] at hrest
    rw [List.foldl_cons]
    unfold takenBy
    rw [ofKey_append]
    refine Turns.trans ?_ hrest
    by_cases hkey : e.1 = key
    · subst hkey
      have hone := timeoutStream_turns (E := E) (G := G) now o htx
      split
      · rename_i hsends
        rw [if_pos hsends] at hone
        rw [ofKey_self]
        exact hone
      · rename_i hsends
        rw [if_neg hsends] at hone
        exact hone
    · have hnone : ofKey key (if o.sendsOn (sideOfKey e.1) then
          (takenOf E now (sideOfKey e.1) (o, e.2) e.2.sentOrder).map fun seq => (e.1, seq) else []) = [] := by
        split
        · exact ofKey_of_ne hkey _
        · rfl
      rw [hnone]
      apply turns_of_eq
      unfold stream
      rw [hother key (Ne.symm hkey)]

theorem doReliableTimeouts_turns (key : UInt64) :
    TurnsOn G key .timeouts o (o.doReliableTimeouts E) (taken S E o .timeouts) := by
  have hloop := timeoutStreams_turns (E := E) (G := G) (o.nowMs E).1 key o.reliableTx.entries o.reliableTx.nodupKeys (o.nowMs E).2
    (fun e he => AList.mem_lookup_iff.mpr he)
  exact hloop

theorem removeSide_stream (sideId : Int32) (key : UInt64) :
    (o.removeSide E sideId).stream key = if sideOfKey key = sideId then .new else o.stream key := by
  have hlookup : (o.removeSide E sideId).reliableTx.lookup key = if sideOfKey key = sideId then none else o.reliableTx.lookup key := by
    apply Option.ext
    intro tx
    have hiff : (o.removeSide E sideId).reliableTx.lookup key = some tx ↔
        o.reliableTx.lookup key = some tx ∧ (!(sideOfKey key == sideId)) = true := Map.lookup_keepIf_iff
    rw [hiff]
    split
    · rename_i hside
      simp [hside]
    · rename_i hside
      simp [hside]
  unfold stream
  rw [hlookup]
  split <;> rfl

/-- **Every call is a sequence of turns of every stream**, unless it ends the stream. -/
theorem step_turns {key : UInt64} {e : StreamEvent} (hallowed : Gives S G key o e) (hends : e.ends key = false) :
    TurnsOn G key e o (streamStep S Z E o e) (taken S E o e) := by
  cases e with
  | send sideId pkt => exact send_turns key sideId pkt hallowed
  | ack sideId ty ack => exact handleAck_turns key sideId ty ack
  | partialAck sideId ty seq => exact handlePartialAck_turns key sideId ty seq
  | packetRequest sideId ty seq => exact handlePacketRequest_turns key sideId ty seq
  | timeouts => exact doReliableTimeouts_turns key
  | removeSide sideId =>
    apply turns_of_eq
    show (o.removeSide E sideId).stream key = o.stream key
    rw [removeSide_stream, if_neg (by simpa [StreamEvent.ends] using hends)]
  | elsewhere f => exact turns_of_eq (stream_congr (f.streams o) key)

theorem step_ends {key : UInt64} {e : StreamEvent} (hends : e.ends key = true) : (streamStep S Z E o e).stream key = .new := by
  cases e with
  | removeSide sideId =>
    show (o.removeSide E sideId).stream key = .new
    rw [removeSide_stream, if_pos (by simpa [StreamEvent.ends] using hends)]
  | _ => cases hends

theorem streamStep_tuning (e : StreamEvent) : (streamStep S Z E o e).tuning = o.tuning := by
  cases e with
  | send sideId pkt =>
    exact (sendSerializedWithReliable_emits (P := fun _ => True) (Q := fun _ => True) S Z E o (fun _ _ => trivial)
      fun _ _ _ _ => trivial).tuning
  | ack sideId ty ack => exact (handleAck_emits (P := fun _ => True) (Q := fun _ => True) S o sideId ty ack).tuning
  | partialAck sideId ty seq => exact (handlePartialAck_emits (P := fun _ => True) (Q := fun _ => True) o sideId ty seq).tuning
  | packetRequest sideId ty seq =>
    exact (handlePacketRequest_emits (P := fun _ => True) (Q := fun _ => True) E o fun _ _ _ => trivial).tuning
  | timeouts => exact (doReliableTimeouts_emits (P := fun _ => True) (Q := fun _ => True) E o fun _ _ _ => trivial).tuning
  | removeSide sideId => rfl
  | elsewhere f => exact f.tuning o

end

/-! ## Runs -/

section

variable (S : Schema) (Z : Codec) (E : Env)

/-- The frames of a stream that the callback has taken at the end of a run, `past` at its beginning. -/
def takenAlong (key : UInt64) : List UInt32 → Owner → List StreamEvent → List UInt32
  | past, _, [] => past
  | past, o, e :: events =>
    takenAlong key (if e.ends key then [] else past ++ ofKey key (taken S E o e)) (streamStep S Z E o e) events

variable {S Z E}

instance (tx : ReliableTxState) : Decidable (Below tx) := inferInstanceAs (Decidable (_ ≠ _))

theorem windowed_runFrom {tuning : Tuning} {key : UInt64} {events : List StreamEvent} {o : Owner} (htuning : o.tuning = tuning)
    (hstart : Windowed tuning (o.stream key)) (hcounts : Along (streamStep S Z E) (Counts S key) o events) :
    Windowed tuning ((runFrom (streamStep S Z E) o events).stream key) := by
  refine (hcounts.invariant (I := fun o => o.tuning = tuning ∧ Windowed tuning (o.stream key)) ⟨htuning, hstart⟩ ?_).2
  rintro o e hcount ⟨rfl, hwindowed⟩
  refine ⟨streamStep_tuning e, ?_⟩
  cases hends : e.ends key with
  | true =>
    rw [step_ends hends]
    exact .new o.tuning
  | false => exact hwindowed.turns (step_turns hcount hends)

theorem counted_runFrom {tuning : Tuning} {key : UInt64} {events : List StreamEvent} {o : Owner} {past : List UInt32}
    (htuning : o.tuning = tuning) (hstart : Counted tuning past (o.stream key))
    (hcounts : Along (streamStep S Z E) (Counts S key) o events) (hasks : ∀ e ∈ events, e.asks = false) :
    Counted tuning (takenAlong S Z E key past o events) ((runFrom (streamStep S Z E) o events).stream key) := by
  induction events generalizing o past with
  | nil => exact hstart
  | cons e events ih =>
    apply ih ((streamStep_tuning e).trans htuning) ?_ hcounts.2 fun f hf => hasks f (List.mem_cons_of_mem e hf)
    cases hends : e.ends key with
    | true =>
      rw [step_ends hends]
      exact .new tuning
    | false =>
      have hturns := step_turns (Z := Z) (E := E) hcounts.1 hends
      unfold TurnsOn at hturns
      rw [htuning, hasks e List.mem_cons_self] at hturns
      exact hstart.turns hturns

instance (G : ReliableTxState → Prop) [DecidablePred G] (key : UInt64) (o : Owner) : ∀ e : StreamEvent, Decidable (Gives S G key o e)
  | .send sideId pkt => inferInstanceAs (Decidable (reliableKey sideId pkt.ty = key → GivesNumber S o sideId pkt.ty → G (o.stream key)))
  | .ack _ _ _ | .partialAck _ _ _ | .packetRequest _ _ _ | .timeouts | .removeSide _ | .elsewhere _ => .isTrue trivial

end

/-- Two reports, sent again after a while; the first is acknowledged. -/
def gpsEvents : List StreamEvent := [.send 0 gpsPacket, .send 0 gpsPacket, .timeouts, .ack 0 gpsPacket.ty 1]

/-- Ten seconds pass between two looks at the clock. -/
def slowEnv : Env := ⟨fun read => read.toUInt64 * 10000, fun _ => SEDS_OK⟩

end Owner

end SedsNet
