import SedsNet.Emits

/-!
# Streams through the receive queue

A stream is ordered by `process_reliable_ingress`, and then its packets wait in `rx_queue` with those
of every other stream. Here is what the two containers do to the order of one stream.

* `KeepsRx`: a step that has nothing to do with ingress. Every function a received packet runs through
  is one, so that a drain only moves packets from the queue to their receiver.
* `RxItem.number`: the number with which a packet of a stream came in.
* `processReliableIngress_arrives`: what any frame, of any stream, does to any other.
-/

set_option autoImplicit false

namespace SedsNet

open Lib

/-! ## What is not ingress -/

/-- A packet is handed to its receiver, or lost on the way. -/
def Obs.ingress : Obs → Bool
  | .receive _ => true
  | .lost _ => true
  | _ => false

theorem Obs.not_ingress_of_fromPeer {e : Obs} (h : e.fromPeer = true) : e.ingress = false := by
  cases e <;> first | rfl | cases h

namespace Owner

/-- The receiving half of `o'` is that of `o`, and nothing was received or lost on the way. -/
abbrev KeepsRx (o o' : Owner) : Prop := Emits (fun _ => True) (fun e => e.ingress = false) o o'

theorem allows_keepsRx (S : Schema) : Allows (fun _ => True) (fun e => e.ingress = false) S := by
  refine ⟨fun _ _ _ _ _ _ _ => trivial, ?_⟩
  intro e he
  cases e <;> first | rfl | cases he

theorem packetId_keepsRx (S : Schema) (o : Owner) (pkt : PacketData) : KeepsRx o (o.packetId S pkt).2 := .observe o rfl

theorem sourcePacketId_keepsRx (S : Schema) (o : Owner) (pkt : PacketData) : KeepsRx o (o.sourcePacketId S pkt).2 :=
  .observe o rfl

theorem KeepsRx.rxState {o o' : Owner} (h : KeepsRx o o') (sideId : Int32) (ty : UInt32) :
    o'.rxState sideId ty = o.rxState sideId ty := by
  unfold Owner.rxState
  rw [h.streams]

end Owner

/-! ## The stream of a packet -/

/-- The type and the number of an ordered frame. -/
def orderedNumber (S : Schema) (Z : Codec) (bytes : Bytes) : Option (UInt32 × UInt32) :=
  match peekFrameInfo S Z bytes true with
  | none => none
  | some frame =>
    match frame.reliable with
    | none => none
    | some hdr => if Owner.orderedFlags hdr.flags then some (frame.envelope.ty, hdr.seq) else none

/-- The number with which a packet of the stream of `ty` on `sideId` came in. -/
def RxItem.number (S : Schema) (Z : Codec) (sideId : Int32) (ty : UInt32) (item : RxItem) : Option UInt32 :=
  match orderedNumber S Z item.origin with
  | none => none
  | some (t, q) => if item.srcSide = some sideId ∧ t = ty then some q else none

/-- The numbers of one stream among packets of many. -/
def numbersOf (S : Schema) (Z : Codec) (sideId : Int32) (ty : UInt32) (items : List RxItem) : List UInt32 :=
  items.filterMap (RxItem.number S Z sideId ty)

section

variable {S : Schema} {Z : Codec} {sideId : Int32} {ty : UInt32}

theorem number_eq_some {item : RxItem} {q : UInt32} : item.number S Z sideId ty = some q ↔
    item.srcSide = some sideId ∧ orderedNumber S Z item.origin = some (ty, q) := by
  unfold RxItem.number
  cases orderedNumber S Z item.origin with
  | none => simp
  | some p =>
    obtain ⟨t, q'⟩ := p
    dsimp only
    constructor
    · intro h
      split at h
      · rename_i hstream
        cases h
        exact ⟨hstream.1, by rw [hstream.2]⟩
      · cases h
    · intro ⟨hside, hnumber⟩
      cases hnumber
      rw [if_pos ⟨hside, rfl⟩]

/-- A packet is in one stream. -/
theorem number_unique {item : RxItem} {q q' : UInt32} {sideId' : Int32} {ty' : UInt32}
    (h : item.number S Z sideId ty = some q) (h' : item.number S Z sideId' ty' = some q') :
    sideId = sideId' ∧ ty = ty' := by
  rw [number_eq_some] at h h'
  have hside := h.1.symm.trans h'.1
  have hnumber := h.2.symm.trans h'.2
  cases hside
  cases hnumber
  exact ⟨rfl, rfl⟩

/-- The number depends on where a packet came from, and on nothing else. -/
theorem number_congr {item item' : RxItem} (hside : item.srcSide = item'.srcSide)
    (horigin : item.origin = item'.origin) : item.number S Z sideId ty = item'.number S Z sideId ty := by
  unfold RxItem.number
  rw [hside, horigin]

theorem numbersOf_append (xs ys : List RxItem) :
    numbersOf S Z sideId ty (xs ++ ys) = numbersOf S Z sideId ty xs ++ numbersOf S Z sideId ty ys :=
  List.filterMap_append

theorem numbersOf_cons_of_none {item : RxItem} (h : item.number S Z sideId ty = none) (items : List RxItem) :
    numbersOf S Z sideId ty (item :: items) = numbersOf S Z sideId ty items :=
  List.filterMap_cons_none h

/-- The numbers of packets that belong, one after the other, at the positions of the stream. -/
theorem numbersOf_inSequence {n : Nat} {items : List RxItem}
    (h : InSequence (fun m item => item.number S Z sideId ty = some (seqAt m)) n items) :
    (numbersOf S Z sideId ty items).length = items.length ∧
      InSequence (fun m q => q = seqAt m) n (numbersOf S Z sideId ty items) := by
  induction items generalizing n with
  | nil => exact ⟨rfl, .nil _ _⟩
  | cons item items ih =>
    obtain ⟨hitem, hitems⟩ := InSequence.cons_iff.mp h
    obtain ⟨hlength, hseq⟩ := ih hitems
    unfold numbersOf at hlength hseq ⊢
    rw [List.filterMap_cons_some hitem, List.length_cons, List.length_cons, hlength, InSequence.cons_iff]
    exact ⟨rfl, rfl, hseq⟩

theorem numbersOf_eq_nil {items : List RxItem} (h : ∀ item ∈ items, item.number S Z sideId ty = none) :
    numbersOf S Z sideId ty items = [] :=
  List.filterMap_eq_nil_iff.mpr h

end

/-! ## Arrival -/

namespace Owner

variable {S : Schema} {Z : Codec} {E : Env} {o o' : Owner}

/-- Every stream expects some number of the cycle, and buffers frames of its own under their own
    numbers. Nothing released is left over from an earlier arrival. -/
structure StreamsOk (S : Schema) (Z : Codec) (o : Owner) : Prop where
  position : ∀ sideId ty, ∃ n, (o.rxState sideId ty).expectedSeq = seqAt n
  buffered : ∀ sideId ty q bf, (o.rxState sideId ty).buffered.lookup q = some bf →
    orderedNumber S Z bf.wireBytes = some (ty, q)
  released : o.reliableReleasedRx = []

/-- `o'` is `o` after `process_reliable_ingress` on the frame `cur` came in with. -/
structure Arrives (S : Schema) (Z : Codec) (o o' : Owner) (cur : RxItem) (ok : Bool) (items : List RxItem) :
    Prop where
  queue : o'.rxQueue = o.rxQueue
  memory : o'.memory = o.memory
  trace : ∃ l, o'.obs = o.obs ++ l ∧ ∀ e ∈ l, e.ingress = false
  pushes : o'.reliableReleasedRx = o.reliableReleasedRx ++ items
  alone : ok = false → items = []
  own : ∀ sideId ty, cur.number S Z sideId ty = none → numbersOf S Z sideId ty items = []
  expected : ∀ sideId ty q, ok = true → cur.number S Z sideId ty = some q → q = (o.rxState sideId ty).expectedSeq
  frees : ∀ sideId ty q, cur.number S Z sideId ty = some q → items ≠ [] →
    (o.rxState sideId ty).buffered.lookup (nextSeq q) ≠ none
  freed : ∀ sideId ty, ∀ q ∈ numbersOf S Z sideId ty items, (o.rxState sideId ty).buffered.lookup q ≠ none
  inSequence : ∀ sideId ty n, (o.rxState sideId ty).expectedSeq = seqAt n →
    (o'.rxState sideId ty).expectedSeq =
        seqAt (n + (numbersOf S Z sideId ty (passedOn ok cur items)).length) ∧
      InSequence (fun m q => q = seqAt m) n (numbersOf S Z sideId ty (passedOn ok cur items))
  buffered : ∀ sideId ty q bf, (o'.rxState sideId ty).buffered.lookup q = some bf →
    orderedNumber S Z bf.wireBytes = some (ty, q) ∧
      ((o.rxState sideId ty).buffered.lookup q ≠ none ∨ (o.rxState sideId ty).expectedSeq < q)

/-- A frame outside every sequence is passed on alone, and moves no stream. -/
theorem arrives_unnumbered (h : StreamsOk S Z o) {cur : RxItem} (hcur : orderedNumber S Z cur.origin = none)
    (hqueue : o'.rxQueue = o.rxQueue) (hmemory : o'.memory = o.memory)
    (hreleased : o'.reliableReleasedRx = o.reliableReleasedRx)
    (htrace : ∃ l, o'.obs = o.obs ++ l ∧ ∀ e ∈ l, e.ingress = false)
    (hstreams : ∀ sideId ty, (o'.rxState sideId ty).expectedSeq = (o.rxState sideId ty).expectedSeq ∧
      (o'.rxState sideId ty).buffered = (o.rxState sideId ty).buffered) : Arrives S Z o o' cur true [] := by
  have hnone : ∀ sideId ty, numbersOf S Z sideId ty (passedOn true cur []) = [] := by
    intro sideId ty
    apply numbersOf_eq_nil
    intro item hitem
    cases hitem with
    | tail _ hrest => cases hrest
    | head =>
      unfold RxItem.number
      rw [hcur]
  refine ⟨hqueue, hmemory, htrace, hreleased.trans (List.append_nil _).symm, fun hf => (by cases hf),
    fun _ _ _ => rfl, ?_, fun _ _ _ _ hitems => absurd rfl hitems, fun _ _ _ hq => (by cases hq), ?_, ?_⟩
  · intro sideId ty q _ hq
    unfold RxItem.number at hq
    rw [hcur] at hq
    cases hq
  · intro sideId ty n hn
    rw [hnone]
    exact ⟨(hstreams sideId ty).1.trans hn, .nil _ _⟩
  · intro sideId ty q bf hbf
    rw [(hstreams sideId ty).2] at hbf
    refine ⟨h.buffered sideId ty q bf hbf, .inl ?_⟩
    rw [hbf]
    exact Option.some_ne_none bf

/-- The other streams do not see the arrival of an ordered frame. -/
theorem rxState_of_ingests {sideId sideId' : Int32} {ty ty' seq : UInt32} {cur : Buffered} {n : Nat} {ok : Bool}
    {items : List RxItem} (h : Ingests o o' sideId ty seq cur n ok items) (hne : ¬ (sideId' = sideId ∧ ty' = ty)) :
    o'.rxState sideId' ty' = o.rxState sideId' ty' := by
  unfold rxState
  rw [h.others _ fun hkey => hne (reliableKey_inj.mp hkey)]

/-- What an ordered frame passes on carries the numbers of its stream's positions. -/
theorem Ingests.numbers (h : StreamsOk S Z o) {sideId : Int32} {ty seq : UInt32} {cur : Buffered} {n : Nat}
    {ok : Bool} {items : List RxItem} (hin : Ingests o o' sideId ty seq cur n ok items)
    (hcur : orderedNumber S Z cur.wireBytes = some (ty, seq)) :
    InSequence (fun m item => item.number S Z sideId ty = some (seqAt m)) n
      (passedOn ok (releasedItem sideId cur) items) := by
  refine hin.inSequence.imp ?_
  intro m item hitem
  rw [number_eq_some]
  rcases hitem with ⟨bf, hbf, rfl⟩ | ⟨rfl, rfl⟩
  · exact ⟨rfl, h.buffered sideId ty _ bf hbf⟩
  · exact ⟨rfl, hcur⟩

/-- A frame that is passed on carries the expected number. -/
theorem Ingests.seq_eq (h : StreamsOk S Z o) {sideId : Int32} {ty seq : UInt32} {cur : Buffered} {n : Nat}
    {items : List RxItem} (hin : Ingests o o' sideId ty seq cur n true items)
    (hcur : orderedNumber S Z cur.wireBytes = some (ty, seq)) : seq = seqAt n := by
  have hfirst : (releasedItem sideId cur).number S Z sideId ty = some (seqAt n) := hin.numbers h hcur 0 _ rfl
  have hown : (releasedItem sideId cur).number S Z sideId ty = some seq := number_eq_some.mpr ⟨rfl, hcur⟩
  exact Option.some.inj (hown.symm.trans hfirst)

/-- An ordered frame continues its own stream, and no other. -/
theorem arrives_ordered (h : StreamsOk S Z o) {sideId : Int32} {ty seq : UInt32} {cur : Buffered} {ok : Bool}
    (hcur : orderedNumber S Z cur.wireBytes = some (ty, seq))
    (hin : ∀ n, (o.rxState sideId ty).expectedSeq = seqAt n →
      ∃ items, Ingests o o' sideId ty seq cur n ok items) :
    ∃ items, Arrives S Z o o' (releasedItem sideId cur) ok items := by
  obtain ⟨n₀, hn₀⟩ := h.position sideId ty
  obtain ⟨items, hin₀⟩ := hin n₀ hn₀
  obtain ⟨rxs, released, reads, queue, peak, obs, hwrites⟩ := hin₀.writes
  obtain ⟨l, hobs, hl⟩ := hin₀.controls
  have hquiet : ∀ e ∈ l, e.ingress = false := by
    intro e he
    obtain ⟨controlTy, q, rfl, -⟩ := hl e he
    rfl
  have hown : (releasedItem sideId cur).number S Z sideId ty = some seq := number_eq_some.mpr ⟨rfl, hcur⟩
  -- every packet that is passed on is in the stream of the frame
  have hstreamOf : ∀ item ∈ passedOn ok (releasedItem sideId cur) items,
      ∃ m, item.number S Z sideId ty = some (seqAt m) := by
    intro item hitem
    obtain ⟨i, hi⟩ := List.mem_iff_getElem?.mp hitem
    exact ⟨_, hin₀.numbers h hcur i item hi⟩
  have hnone : ∀ sideId' ty', ¬ (sideId' = sideId ∧ ty' = ty) →
      numbersOf S Z sideId' ty' (passedOn ok (releasedItem sideId cur) items) = [] := by
    intro sideId' ty' hstream
    apply numbersOf_eq_nil
    intro item hitem
    obtain ⟨m, hm⟩ := hstreamOf item hitem
    cases hother : item.number S Z sideId' ty' with
    | none => rfl
    | some q => exact absurd (number_unique hother hm) hstream
  refine ⟨items, by rw [hwrites], by rw [hwrites], ⟨l, hobs, hquiet⟩, hin₀.pushes, hin₀.alone, ?_, ?_, ?_, ?_, ?_, ?_⟩
  · intro sideId' ty' hcurNone
    have hstream : ¬ (sideId' = sideId ∧ ty' = ty) := by
      rintro ⟨rfl, rfl⟩
      rw [hown] at hcurNone
      cases hcurNone
    have hall := hnone sideId' ty' hstream
    unfold passedOn at hall
    rw [numbersOf_append] at hall
    exact (List.append_eq_nil_iff.mp hall).2
  · rintro sideId' ty' q rfl hq
    obtain ⟨rfl, rfl⟩ := number_unique hq hown
    cases Option.some.inj (hq.symm.trans hown)
    exact (hin₀.seq_eq h hcur).trans hn₀.symm
  · intro sideId' ty' q hq hitems
    obtain ⟨rfl, rfl⟩ := number_unique hq hown
    cases Option.some.inj (hq.symm.trans hown)
    cases items with
    | nil => exact absurd rfl hitems
    | cons item rest =>
      cases ok with
      | false => cases hin₀.alone rfl
      | true =>
        obtain ⟨bf, hbf, -⟩ := hin₀.frees 0 item rfl
        rw [hin₀.seq_eq h hcur, nextSeq_seqAt, hbf]
        exact Option.some_ne_none bf
  · intro sideId' ty' q hq
    obtain ⟨item, hitem, hnumber⟩ := List.mem_filterMap.mp hq
    obtain ⟨i, hi⟩ := List.mem_iff_getElem?.mp hitem
    obtain ⟨bf, hbf, rfl⟩ := hin₀.frees i item hi
    have hposition : (releasedItem sideId bf).number S Z sideId ty = some (seqAt (n₀ + 1 + i)) :=
      number_eq_some.mpr ⟨rfl, h.buffered sideId ty _ bf hbf⟩
    obtain ⟨rfl, rfl⟩ := number_unique hnumber hposition
    cases Option.some.inj (hnumber.symm.trans hposition)
    rw [hbf]
    exact Option.some_ne_none bf
  · intro sideId' ty' n hn
    by_cases hstream : sideId' = sideId ∧ ty' = ty
    · obtain ⟨rfl, rfl⟩ := hstream
      -- the position decides what is released, so the released items are the same ones
      obtain ⟨items', hin'⟩ := hin n hn
      have hitems : items' = items := List.append_cancel_left (hin'.pushes.symm.trans hin₀.pushes)
      rw [hitems] at hin'
      obtain ⟨hlength, hseq⟩ := numbersOf_inSequence (hin'.numbers h hcur)
      rw [hlength]
      exact ⟨hin'.position, hseq⟩
    · rw [hnone sideId' ty' hstream, rxState_of_ingests hin₀ hstream]
      exact ⟨hn, .nil _ _⟩
  · intro sideId' ty' q bf hbf
    by_cases hstream : sideId' = sideId ∧ ty' = ty
    · obtain ⟨rfl, rfl⟩ := hstream
      rcases hin₀.buffers q bf hbf with hold | ⟨rfl, rfl, hearly⟩
      · exact ⟨h.buffered sideId' ty' q bf hold, .inl (by rw [hold]; exact Option.some_ne_none bf)⟩
      · exact ⟨hcur, .inr hearly⟩
    · rw [rxState_of_ingests hin₀ hstream] at hbf
      exact ⟨h.buffered sideId' ty' q bf hbf, .inl (by rw [hbf]; exact Option.some_ne_none bf)⟩

/-- The state of a stream after another one's, or its own, is written. -/
theorem rxState_setRxState_cases (o : Owner) (sideId sideId' : Int32) (ty ty' : UInt32) (rx : ReliableRxState) :
    (o.setRxState sideId ty rx).rxState sideId' ty' =
      if sideId' = sideId ∧ ty' = ty then rx else o.rxState sideId' ty' := by
  unfold rxState setRxState
  split
  · rename_i hstream
    rw [hstream.1, hstream.2, AList.lookup_insert, Option.getD_some]
  · rename_i hstream
    rw [AList.lookup_insert_ne fun hkey => hstream (reliableKey_inj.mp hkey)]

/-- A sequenced frame outside the order is acknowledged by its number, and that is all its stream
    remembers. -/
theorem arrives_unordered (h : StreamsOk S Z o) {sideId : Int32} {ty seq : UInt32} {cur : RxItem}
    (hcur : orderedNumber S Z cur.origin = none) :
    Arrives S Z o ((o.setRxState sideId ty { o.rxState sideId ty with lastAck := seq }).queueReliableAck S E
      sideId ty seq) cur true [] := by
  have hkeeps : KeepsRx (o.setRxState sideId ty { o.rxState sideId ty with lastAck := seq }) _ :=
    queueReliableControl_emits S (allows_keepsRx S).controls E _ (by decide : isInternalControlType SEDS_DT_RELIABLE_ACK = true)
      sideId ty seq
  refine arrives_unnumbered h hcur hkeeps.queue hkeeps.memory hkeeps.released hkeeps.trace ?_
  intro sideId' ty'
  have hstate := (hkeeps.rxState sideId' ty').trans (rxState_setRxState_cases o sideId sideId' ty ty' _)
  unfold queueReliableAck
  rw [hstate]
  split
  · rename_i hstream
    rw [hstream.1, hstream.2]
    exact ⟨rfl, rfl⟩
  · exact ⟨rfl, rfl⟩

theorem orderedNumber_of_flags {bytes : Bytes} {frame : FrameInfoLite} {hdr : ReliableHeaderLite}
    (hpeek : SedsNet.peekFrameInfo S Z bytes true = some frame) (hhdr : frame.reliable = some hdr) :
    orderedNumber S Z bytes = if orderedFlags hdr.flags then some (frame.envelope.ty, hdr.seq) else none := by
  unfold orderedNumber
  rw [hpeek]
  dsimp only
  rw [hhdr]

/-- The reliable layer receives and loses nothing by itself. -/
theorem processReliableIngress_trace (o : Owner) (sideId : Int32) (frame : FrameInfoLite) (pkt : PacketData)
    (bytes : Bytes) : ∃ l, (o.processReliableIngress S E sideId frame pkt bytes).2.obs = o.obs ++ l ∧
      ∀ e ∈ l, e.ingress = false := by
  have hcontrol : ∀ controlTy o sideId ty seq, isInternalControlType controlTy = true →
      KeepsRx o (queueReliableControl S E controlTy o sideId ty seq) :=
    fun controlTy o sideId ty seq hty => queueReliableControl_emits S (allows_keepsRx S).controls E o hty sideId ty seq
  unfold processReliableIngress
  cases frame.reliable with
  | none => exact (Emits.refl o : KeepsRx o o).trace
  | some hdr =>
    dsimp only
    split
    · exact (handleAck_emits S o _ _ _ : KeepsRx o _).trace
    · split
      · exact (Emits.refl o : KeepsRx o o).trace
      · split
        · exact (hcontrol SEDS_DT_RELIABLE_ACK (o.setRxState _ _ _) _ _ _ rfl).trace
        · split
          · exact (hcontrol SEDS_DT_RELIABLE_ACK (o.setRxState _ _ _) _ _ _ rfl).trace
          · split
            · exact ((hcontrol SEDS_DT_RELIABLE_PARTIAL_ACK (o.setRxState _ _ _) _ _ _ rfl).trans
                (hcontrol SEDS_DT_RELIABLE_PACKET_REQUEST _ _ _ _ rfl)).trace
            · exact (hcontrol SEDS_DT_RELIABLE_ACK ((o.setRxState _ _ _).pushReleased _) _ _ _ rfl).trace

/-- **Any frame, any stream.** Whatever frame arrives, what it passes on continues every stream where
    it stood: the frame's own stream by the numbers released, all others by nothing. -/
theorem processReliableIngress_arrives (h : StreamsOk S Z o) (sideId : Int32) {bytes : Bytes}
    {frame : FrameInfoLite} (hpeek : SedsNet.peekFrameInfo S Z bytes true = some frame)
    (hack : frame.ackOnly = false) (pkt : PacketData) :
    ∃ items, Arrives S Z o (o.processReliableIngress S E sideId frame pkt bytes).2
      (releasedItem sideId ⟨pkt, bytes⟩) (o.processReliableIngress S E sideId frame pkt bytes).1 items := by
  cases hhdr : frame.reliable with
  | none =>
    have hcur : orderedNumber S Z bytes = none := by
      unfold orderedNumber
      rw [hpeek]
      dsimp only
      rw [hhdr]
    unfold processReliableIngress
    rw [hhdr]
    exact ⟨[], arrives_unnumbered h hcur rfl rfl rfl ⟨[], (List.append_nil _).symm, by simp⟩
      fun _ _ => ⟨rfl, rfl⟩⟩
  | some hdr =>
    cases hflags : orderedFlags hdr.flags with
    | true =>
      have hcur : orderedNumber S Z bytes = some (frame.envelope.ty, hdr.seq) := by
        rw [orderedNumber_of_flags hpeek hhdr, if_pos hflags]
      exact arrives_ordered h hcur fun n hn => processReliableIngress_ordered sideId frame pkt bytes hhdr hflags hn
    | false =>
      have hcur : orderedNumber S Z bytes = none := by
        rw [orderedNumber_of_flags hpeek hhdr, hflags]
        rfl
      -- not an ACK and not ordered: unsequenced, or unordered
      have hnoack : ¬ hdr.flags &&& kReliableFlagAckOnly ≠ 0 := by
        unfold FrameInfoLite.ackOnly at hack
        rw [hhdr] at hack
        exact not_not.mpr (bne_eq_false_iff_eq.mp hack)
      unfold processReliableIngress
      rw [hhdr]
      dsimp only
      rw [if_neg hnoack]
      split
      · exact ⟨[], arrives_unnumbered h hcur rfl rfl rfl ⟨[], (List.append_nil _).symm, by simp⟩
          fun _ _ => ⟨rfl, rfl⟩⟩
      · split
        · exact ⟨[], arrives_unordered h hcur⟩
        · rename_i hseq hord
          unfold orderedFlags at hflags
          rw [not_not] at hnoack hseq hord
          rw [hnoack, hseq, hord] at hflags
          cases hflags

/-! ## Waiting in the queue -/

/-- The packets handed to the receiver, in order. -/
def received (o : Owner) : List RxItem :=
  o.obs.filterMap fun
    | .receive item => some item
    | _ => none

/-- The packets that have passed `process_reliable_ingress`: those received, and those that wait. -/
def passed (o : Owner) : List RxItem := o.received ++ o.rxQueue.items

/-- Nothing was turned away by `rx_queue` or evicted from it. -/
def Lossless (o : Owner) : Prop := ∀ item, Obs.lost item ∉ o.obs

def Lossless.check (o : Owner) : Bool :=
  o.obs.all fun
    | .lost _ => false
    | _ => true

theorem lossless_iff_check : Lossless.check o = true ↔ Lossless o := by
  unfold Lossless.check Lossless
  rw [List.all_eq_true]
  constructor
  · intro h item hitem
    cases h _ hitem
  · intro h e he
    cases e with
    | lost item => exact absurd he (h item)
    | _ => rfl

instance (o : Owner) : Decidable (Lossless o) := decidable_of_iff _ lossless_iff_check

/-- Losses are not forgotten. -/
theorem Lossless.of_append {l : List Obs} (h : Lossless o') (hobs : o'.obs = o.obs ++ l) : Lossless o := by
  intro item hitem
  apply h item
  rw [hobs]
  exact List.mem_append_left l hitem

theorem enqueueRxAt_obs (front : Bool) (o : Owner) (item : RxItem) :
    ∃ l, (o.enqueueRxAt front item).2.obs = o.obs ++ l := by
  unfold enqueueRxAt
  split
  · exact ⟨_, rfl⟩
  · exact ⟨_, rfl⟩

/-- An item that costs no other one its place goes to its end of the queue. -/
theorem enqueueRxAt_of_lossless (front : Bool) {item : RxItem} (h : Lossless (o.enqueueRxAt front item).2) :
    ∃ bytes peak, o.enqueueRxAt front item = (true, { o with
      rxQueue := ⟨if front then item :: o.rxQueue.items else o.rxQueue.items ++ [item], bytes, o.rxQueue.wrapped⟩, peak := peak }) := by
  unfold enqueueRxAt enqueueBounded at h ⊢
  split at h
  · rename_i queue hqueue
    split at hqueue
    · cases hqueue
    · cases hqueue
      rename_i hcost
      have hgone : evicted RxItem.byteCost item.byteCost o.memory.maxQueueBudget o.rxQueue.items
          o.rxQueue.bytes = [] := by
        rw [List.eq_nil_iff_forall_not_mem]
        intro lost hlost
        exact h lost (List.mem_append_right _ (List.mem_map_of_mem hlost))
      rw [evict_of_evicted_eq_nil hgone, hgone]
      dsimp only
      rw [List.map_nil, List.append_nil]
      exact ⟨_, _, rfl⟩
  · exact absurd (List.mem_append_right _ (List.mem_singleton_self _)) (h item)

theorem foldl_enqueueRx_obs (items : List RxItem) (o : Owner) :
    ∃ l, (items.foldl (fun o item => (o.enqueueRx item).2) o).obs = o.obs ++ l := by
  induction items generalizing o with
  | nil => exact ⟨[], (List.append_nil _).symm⟩
  | cons item items ih =>
    obtain ⟨l, hl⟩ := enqueueRxAt_obs false o item
    obtain ⟨l', hl'⟩ := ih (o.enqueueRx item).2
    exact ⟨l ++ l', by rw [List.foldl_cons, hl', ← List.append_assoc, ← hl]; rfl⟩

theorem foldl_enqueueRx_of_lossless (items : List RxItem) (o : Owner)
    (h : Lossless (items.foldl (fun o item => (o.enqueueRx item).2) o)) :
    ∃ bytes peak, items.foldl (fun o item => (o.enqueueRx item).2) o =
      { o with rxQueue := ⟨o.rxQueue.items ++ items, bytes, o.rxQueue.wrapped⟩, peak := peak } := by
  induction items generalizing o with
  | nil => exact ⟨o.rxQueue.bytes, o.peak, by simp⟩
  | cons item items ih =>
    rw [List.foldl_cons] at h ⊢
    obtain ⟨l, hl⟩ := foldl_enqueueRx_obs items (o.enqueueRx item).2
    obtain ⟨bytes, peak, hone⟩ := enqueueRxAt_of_lossless false (h.of_append hl)
    have hone' : (o.enqueueRx item).2 = { o with rxQueue := ⟨o.rxQueue.items ++ [item], bytes, o.rxQueue.wrapped⟩, peak := peak } :=
      congrArg Prod.snd hone
    rw [hone'] at h ⊢
    obtain ⟨bytes', peak', hrest⟩ := ih _ h
    exact ⟨bytes', peak', by rw [hrest, List.append_assoc, List.singleton_append]⟩

/-- The released packets follow what waits already. -/
theorem flushReleased_of_lossless (h : Lossless o.flushReleased) :
    ∃ bytes peak, o.flushReleased =
      { o with rxQueue := ⟨o.rxQueue.items ++ o.reliableReleasedRx, bytes, o.rxQueue.wrapped⟩, reliableReleasedRx := [], peak := peak } := by
  unfold flushReleased at h ⊢
  obtain ⟨bytes, peak, heq⟩ := foldl_enqueueRx_of_lossless o.reliableReleasedRx o h
  exact ⟨bytes, peak, by rw [heq]⟩

theorem flushReleased_obs (o : Owner) : ∃ l, o.flushReleased.obs = o.obs ++ l :=
  foldl_enqueueRx_obs o.reliableReleasedRx o

/-! ## One stream in order -/

/-- The stream of `ty` on `sideId` has passed its packets on in the order of its numbers, and expects
    the next one. -/
structure InOrder (S : Schema) (Z : Codec) (o : Owner) (sideId : Int32) (ty : UInt32) : Prop where
  inSequence : InSequence (fun m q => q = seqAt m) 0 (numbersOf S Z sideId ty o.passed)
  position : (o.rxState sideId ty).expectedSeq = seqAt (numbersOf S Z sideId ty o.passed).length

theorem received_of_trace {l : List Obs} (hobs : o'.obs = o.obs ++ l) (hl : ∀ e ∈ l, e.ingress = false) :
    o'.received = o.received := by
  unfold received
  rw [hobs, List.filterMap_append]
  apply List.append_right_eq_self.mpr
  apply List.filterMap_eq_nil_iff.mpr
  intro e he
  cases e with
  | receive item => cases hl _ he
  | _ => rfl

theorem KeepsRx.passed (h : KeepsRx o o') : o'.passed = o.passed := by
  obtain ⟨l, hobs, hl⟩ := h.trace
  unfold Owner.passed
  rw [received_of_trace hobs hl, h.queue]

theorem KeepsRx.streamsOk (h : KeepsRx o o') (hok : StreamsOk S Z o) : StreamsOk S Z o' := by
  refine ⟨?_, ?_, h.released.trans hok.released⟩
  · intro sideId ty
    rw [h.rxState]
    exact hok.position sideId ty
  · intro sideId ty q bf hbf
    rw [h.rxState] at hbf
    exact hok.buffered sideId ty q bf hbf

theorem KeepsRx.inOrder (h : KeepsRx o o') {sideId : Int32} {ty : UInt32} (hin : InOrder S Z o sideId ty) :
    InOrder S Z o' sideId ty := by
  refine ⟨?_, ?_⟩
  · rw [h.passed]
    exact hin.inSequence
  · rw [h.passed, h.rxState]
    exact hin.position

/-- After an arrival, the streams are as they should be once the released packets are taken out. -/
theorem Arrives.streamsOk {cur : RxItem} {ok : Bool} {items : List RxItem} (h : Arrives S Z o o' cur ok items)
    (hok : StreamsOk S Z o) {o'' : Owner} (hstreams : o''.reliableRx = o'.reliableRx)
    (hreleased : o''.reliableReleasedRx = []) : StreamsOk S Z o'' := by
  have hstate : ∀ sideId ty, o''.rxState sideId ty = o'.rxState sideId ty := by
    intro sideId ty
    unfold rxState
    rw [hstreams]
  refine ⟨?_, ?_, hreleased⟩
  · intro sideId ty
    obtain ⟨n, hn⟩ := hok.position sideId ty
    rw [hstate]
    exact ⟨_, (h.inSequence sideId ty n hn).1⟩
  · intro sideId ty q bf hbf
    rw [hstate] at hbf
    exact (h.buffered sideId ty q bf hbf).1

/-- A stream stays in order when what an arrival passes on comes after everything the stream has
    passed on before. -/
theorem Arrives.inOrder {cur : RxItem} {ok : Bool} {items : List RxItem} (h : Arrives S Z o o' cur ok items)
    {sideId : Int32} {ty : UInt32} (hin : InOrder S Z o sideId ty) {o'' : Owner}
    (hstreams : o''.reliableRx = o'.reliableRx)
    (hpassed : numbersOf S Z sideId ty o''.passed =
      numbersOf S Z sideId ty o.passed ++ numbersOf S Z sideId ty (passedOn ok cur items)) :
    InOrder S Z o'' sideId ty := by
  obtain ⟨hposition, hseq⟩ := h.inSequence sideId ty _ hin.position
  refine ⟨?_, ?_⟩
  · rw [hpassed, InSequence.append_iff, Nat.zero_add]
    exact ⟨hin.inSequence, hseq⟩
  · rw [hpassed, List.length_append, ← hposition]
    unfold rxState
    rw [hstreams]

/-! ## From the link to the queue -/

/-- A frame that arrives at an owner is dropped before it reaches the reliable layer, is held back by it,
    or goes to the queue by `enqueue`. -/
inductive FrameArrives (S : Schema) (Z : Codec) (E : Env) (enqueue : Owner → RxItem → Owner) (o : Owner)
    (sideId : UInt32) (bytes : Bytes) : Owner → Prop
  | dropped {o' : Owner} (keeps : KeepsRx o o') : FrameArrives S Z E enqueue o sideId bytes o'
  | held {o₁ o' : Owner} {frame : FrameInfoLite} {pkt : PacketData} (keeps : KeepsRx o o₁)
      (peek : SedsNet.peekFrameInfo S Z bytes true = some frame) (noAck : frame.ackOnly = false)
      (ingress : o₁.processReliableIngress S E sideId.toInt32 frame pkt bytes = (false, o')) :
      FrameArrives S Z E enqueue o sideId bytes o'
  | queued {o₁ o₂ : Owner} {frame : FrameInfoLite} {pkt : PacketData} {wireBytes : Bytes} (keeps : KeepsRx o o₁)
      (peek : SedsNet.peekFrameInfo S Z bytes true = some frame) (noAck : frame.ackOnly = false)
      (ingress : o₁.processReliableIngress S E sideId.toInt32 frame pkt bytes = (true, o₂)) :
      FrameArrives S Z E enqueue o sideId bytes (enqueue o₂ ⟨pkt, some sideId.toInt32, wireBytes, bytes⟩)

theorem KeepsRx.arrives {o₁ : Owner} (h : KeepsRx o o₁) {cur : RxItem} {ok : Bool} {items : List RxItem}
    (hin : Arrives S Z o₁ o' cur ok items) : Arrives S Z o o' cur ok items := by
  obtain ⟨l, hl, hquiet⟩ := h.trace
  obtain ⟨l', hl', hquiet'⟩ := hin.trace
  obtain ⟨hqueue, hmemory, -, hpushes, halone, hown, hexpected, hfrees, hfreed, hseq, hbuffered⟩ := hin
  rw [hl, List.append_assoc] at hl'
  rw [h.released] at hpushes
  simp only [h.rxState] at hexpected hfrees hfreed hseq hbuffered
  refine ⟨hqueue.trans h.queue, hmemory.trans h.memory, ⟨l ++ l', hl', ?_⟩, hpushes, halone, hown, hexpected, hfrees,
    hfreed, hseq, hbuffered⟩
  intro e he
  rcases List.mem_append.mp he with he | he
  · exact hquiet e he
  · exact hquiet' e he

/-- The copy of the frame that goes to the queue has its number. -/
theorem Arrives.copy {cur : RxItem} {ok : Bool} {items : List RxItem} (hin : Arrives S Z o o' cur ok items)
    (cur' : RxItem) (hside : cur.srcSide = cur'.srcSide) (horigin : cur.origin = cur'.origin) : Arrives S Z o o' cur' ok items := by
  have hnumber : ∀ sideId ty, cur.number S Z sideId ty = cur'.number S Z sideId ty :=
    fun sideId ty => number_congr hside horigin
  have hpassed : ∀ sideId ty, numbersOf S Z sideId ty (passedOn ok cur items) =
      numbersOf S Z sideId ty (passedOn ok cur' items) := by
    intro sideId ty
    cases ok with
    | false => rfl
    | true =>
      unfold numbersOf passedOn
      rw [if_pos rfl, if_pos rfl, List.singleton_append, List.singleton_append, List.filterMap_cons,
        List.filterMap_cons, hnumber]
  obtain ⟨hqueue, hmemory, htrace, hpushes, halone, hown, hexpected, hfrees, hfreed, hseq, hbuffered⟩ := hin
  simp only [hnumber] at hown hexpected hfrees
  simp only [hpassed] at hseq
  exact ⟨hqueue, hmemory, htrace, hpushes, halone, hown, hexpected, hfrees, hfreed, hseq, hbuffered⟩

section

variable {enqueue : Owner → RxItem → Owner} {sideId : UInt32} {bytes : Bytes}

theorem FrameArrives.obs (h : FrameArrives S Z E enqueue o sideId bytes o')
    (henqueue : ∀ o item, ∃ l, (enqueue o item).obs = o.obs ++ l) : ∃ l, o'.obs = o.obs ++ l := by
  have hingress : ∀ {o₁ o₂ : Owner} {frame : FrameInfoLite} {pkt : PacketData} {ok : Bool}, KeepsRx o o₁ →
      o₁.processReliableIngress S E sideId.toInt32 frame pkt bytes = (ok, o₂) → ∃ l, o₂.obs = o.obs ++ l := by
    intro o₁ o₂ frame pkt ok hkeeps hproc
    obtain ⟨l, hl, -⟩ := hkeeps.trace
    obtain ⟨l', hl', -⟩ := processReliableIngress_trace (S := S) (E := E) o₁ sideId.toInt32 frame pkt bytes
    rw [hproc, hl, List.append_assoc] at hl'
    exact ⟨l ++ l', hl'⟩
  cases h with
  | dropped hkeeps =>
    obtain ⟨l, hl, -⟩ := hkeeps.trace
    exact ⟨l, hl⟩
  | held hkeeps hpeek hack hproc => exact hingress hkeeps hproc
  | @queued o₁ o₂ frame pkt wireBytes hkeeps hpeek hack hproc =>
    obtain ⟨l, hl⟩ := hingress hkeeps hproc
    obtain ⟨l', hl'⟩ := henqueue o₂ ⟨pkt, some sideId.toInt32, wireBytes, bytes⟩
    exact ⟨l ++ l', by rw [hl', hl, List.append_assoc]⟩

/-- An arrival at an owner that loses nothing, and whose `enqueue` puts the frame and what it released
    where `place` says. -/
theorem FrameArrives.spec (h : FrameArrives S Z E enqueue o sideId bytes o')
    (place : List RxItem → RxItem → List RxItem → List RxItem)
    (henqueue : ∀ o item, Lossless (enqueue o item) → ∃ size peak, enqueue o item =
      { o with rxQueue := ⟨place o.rxQueue.items item o.reliableReleasedRx, size, o.rxQueue.wrapped⟩, reliableReleasedRx := [], peak := peak })
    (hok : StreamsOk S Z o) (hloss : Lossless o') :
    KeepsRx o o' ∨ ∃ o₂ cur ok items, Arrives S Z o o₂ cur ok items ∧ cur.srcSide = some sideId.toInt32 ∧
      cur.origin = bytes ∧ o'.reliableRx = o₂.reliableRx ∧ o'.reliableReleasedRx = [] ∧ o'.obs = o₂.obs ∧
      o'.rxQueue.items = if ok then place o.rxQueue.items cur items else o.rxQueue.items := by
  cases h with
  | dropped hkeeps => exact .inl hkeeps
  | @held o₁ _ frame pkt hkeeps hpeek hack hproc =>
    obtain ⟨items, hin⟩ := processReliableIngress_arrives (E := E) (hkeeps.streamsOk hok) sideId.toInt32 hpeek hack pkt
    rw [hproc] at hin
    replace hin := hkeeps.arrives hin
    have hreleased : o'.reliableReleasedRx = [] := by
      rw [hin.pushes, hok.released, hin.alone rfl]
      rfl
    exact .inr ⟨o', _, false, items, hin, rfl, rfl, rfl, hreleased, rfl, by rw [hin.queue]; rfl⟩
  | @queued o₁ o₂ frame pkt wireBytes hkeeps hpeek hack hproc =>
    obtain ⟨items, hin⟩ := processReliableIngress_arrives (E := E) (hkeeps.streamsOk hok) sideId.toInt32 hpeek hack pkt
    rw [hproc] at hin
    replace hin := (hkeeps.arrives hin).copy ⟨pkt, some sideId.toInt32, wireBytes, bytes⟩ rfl rfl
    have hpushed : o₂.reliableReleasedRx = items := by
      rw [hin.pushes, hok.released, List.nil_append]
    obtain ⟨size, peak, hqueued⟩ := henqueue o₂ _ hloss
    refine .inr ⟨o₂, _, true, items, hin, rfl, rfl, ?_, ?_, ?_, ?_⟩
    · rw [hqueued]
    · rw [hqueued]
    · rw [hqueued]
    · rw [hqueued, if_pos rfl, hpushed, hin.queue]

end

/-- What a stream has passed on grows at its end by what an arrival passes on, when the queue does. -/
theorem Arrives.numbers_passed {cur : RxItem} {ok : Bool} {items : List RxItem} (hin : Arrives S Z o o' cur ok items)
    {o'' : Owner} (hobs : o''.obs = o'.obs) {sideId : Int32} {ty : UInt32}
    (hqueue : numbersOf S Z sideId ty o''.rxQueue.items =
      numbersOf S Z sideId ty o.rxQueue.items ++ numbersOf S Z sideId ty (passedOn ok cur items)) :
    numbersOf S Z sideId ty o''.passed =
      numbersOf S Z sideId ty o.passed ++ numbersOf S Z sideId ty (passedOn ok cur items) := by
  obtain ⟨l, hl, hquiet⟩ := hin.trace
  have hreceived : o''.received = o.received := received_of_trace (hobs.trans hl) hquiet
  unfold passed
  rw [numbersOf_append, numbersOf_append, hqueue, hreceived, List.append_assoc]

end Owner

end SedsNet
