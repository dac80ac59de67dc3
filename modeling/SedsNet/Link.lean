import SedsNet.Stream
import SedsNet.Wire.RoundTrip

/-!
# One ordered stream over a lossy link

Two owners, one ordered type. The sender numbers frames and hands them to a side's callback; the
channel behind the callback may lose, repeat and reorder what it gets, so any frame ever handed over
may arrive at any time, any number of times, or never. The receiver runs the ingress of
`process_reliable_ingress`. Control traffic reaches the sender as it likes: any ACK, partial ACK or
packet request may come at any time, also ones the receiver never sent.

`Link.Inv` ties the two ends together. The sender's half says that everything in its window and
everything on the wire is a frame it has numbered; the receiver's half, that what has been released
is an initial part of the numbered frames, and that what is buffered are numbered frames under
their own numbers.
-/

set_option autoImplicit false

namespace SedsNet

open Lib

/-! ## What the trace of an owner says -/

namespace Owner

/-- The frames a stream's numbers went to, in order. -/
def numbered (o : Owner) (sideId : Int32) (ty : UInt32) : List (UInt32 × Bytes) :=
  o.obs.filterMap fun
    | .number s t seq bytes => if s = sideId ∧ t = ty then some (seq, bytes) else none
    | _ => none

/-- The frames handed to a side's callback, in order. -/
def handed (o : Owner) (sideId : Int32) : List Bytes :=
  o.obs.filterMap fun
    | .transmit s bytes => if s = sideId then some bytes else none
    | _ => none

/-- The cumulative ACKs queued for a stream, in order. -/
def queuedAcks (o : Owner) (sideId : Int32) (ty : UInt32) : List UInt32 :=
  o.obs.filterMap fun
    | .control controlTy s t ack =>
      if controlTy = SEDS_DT_RELIABLE_ACK ∧ s = sideId ∧ t = ty then some ack else none
    | _ => none

/-- A frame arrives at a side: the ingress functions up to and including
    `process_reliable_ingress`. -/
def ingest (S : Schema) (Z : Codec) (E : Env) (o : Owner) (sideId : Int32) (bytes : Bytes) : Bool × Owner :=
  match SedsNet.peekFrameInfo S Z bytes true with
  | none => (false, o)
  | some frame =>
    if frame.ackOnly then
      let env := frame.envelope
      (false, (o.processReliableIngress S E sideId frame
        ⟨env.ty, env.sender, env.endpoints, env.timestampMs, []⟩ bytes).2)
    else
      match SedsNet.deserializePacket S Z bytes with
      | none => (false, o)
      | some pkt => o.processReliableIngress S E sideId frame pkt bytes

end Owner

/-- A frame that arrives is dropped, is an ACK, or reaches `process_reliable_ingress`. -/
theorem Owner.ingest_cases {E : Env} {o : Owner} (S : Schema) (Z : Codec) (sideId : Int32) (bytes : Bytes) :
    o.ingest S Z E sideId bytes = (false, o) ∨
    ∃ frame, SedsNet.peekFrameInfo S Z bytes true = some frame ∧
      (frame.ackOnly = true ∨
        ∃ pkt, o.ingest S Z E sideId bytes = o.processReliableIngress S E sideId frame pkt bytes) := by
  unfold Owner.ingest
  cases hpeek : SedsNet.peekFrameInfo S Z bytes true with
  | none => exact .inl rfl
  | some frame =>
    dsimp only
    cases hack : frame.ackOnly with
    | true => exact .inr ⟨frame, rfl, .inl hack⟩
    | false =>
      rw [if_neg (by simp)]
      cases SedsNet.deserializePacket S Z bytes with
      | none => exact .inl rfl
      | some pkt => exact .inr ⟨frame, rfl, .inr ⟨pkt, rfl⟩⟩

/-- The number in a frame's reliable header. -/
def frameSeq (S : Schema) (Z : Codec) (bytes : Bytes) : Option UInt32 :=
  (peekFrameInfo S Z bytes true).bind fun frame => frame.reliable.map (·.seq)

/-! ## The system -/

/-- The schema and codec both ends use, the stream, the side it has at either end, and the two
    environments. -/
structure LinkConfig where
  schema : Schema
  codec : Codec
  ty : UInt32
  txSide : Int32
  rxSide : Int32
  txEnv : Env
  rxEnv : Env

/-- `released` is a ghost: the frames the receiver has passed on. -/
structure Link where
  sender : Owner
  receiver : Owner
  released : List Bytes

inductive LinkEvent (ty : UInt32) where
  /-- A packet of the stream's type is sent. -/
  | send (pkt : PacketData) (h : pkt.ty = ty)
  | ack (sideId : Int32) (ty ack : UInt32)
  | partialAck (sideId : Int32) (ty seq : UInt32)
  | packetRequest (sideId : Int32) (ty seq : UInt32)
  | timeouts
  /-- The `i`-th frame handed to the sender's callback arrives. -/
  | arrive (i : Nat)
  /-- The receiver's caller takes `reliable_released_rx`. -/
  | takeReleased
  /-- The sender is entered from inside a side callback, or that callback returns. -/
  | inCallback (active : Bool)
  | tuneSender (tuning : Tuning)
  | tuneReceiver (tuning : Tuning)

namespace Link

section

variable (C : LinkConfig)

/-- A frame arrives; what it makes the receiver pass on is noted. -/
def receive (L : Link) (bytes : Bytes) : Link :=
  let (ok, receiver) := L.receiver.ingest C.schema C.codec C.rxEnv C.rxSide bytes
  let pushed := receiver.reliableReleasedRx.drop L.receiver.reliableReleasedRx.length
  { L with
    receiver := receiver
    released := L.released ++ ((if ok then [bytes] else []) ++ pushed.map (·.wireBytes)) }

def step (L : Link) : LinkEvent C.ty → Link
  | .send pkt _ =>
    { L with sender := (L.sender.sendSerializedWithReliable C.schema C.codec C.txEnv C.txSide pkt).2 }
  | .ack sideId ty ack => { L with sender := L.sender.handleAck C.schema sideId ty ack }
  | .partialAck sideId ty seq => { L with sender := L.sender.handlePartialAck sideId ty seq }
  | .packetRequest sideId ty seq => { L with sender := L.sender.handlePacketRequest C.txEnv sideId ty seq }
  | .timeouts => { L with sender := L.sender.doReliableTimeouts C.txEnv }
  | .arrive i =>
    match (L.sender.handed C.txSide)[i]? with
    | none => L
    | some bytes => L.receive C bytes
  | .takeReleased => { L with receiver := { L.receiver with reliableReleasedRx := [] } }
  | .inCallback active => { L with sender := { L.sender with sideTxActive := active } }
  | .tuneSender tuning => { L with sender := { L.sender with tuning := tuning } }
  | .tuneReceiver tuning => { L with receiver := { L.receiver with tuning := tuning } }

def run (L : Link) (events : List (LinkEvent C.ty)) : Link := events.foldl (step C) L

/-- The stream's type, as both ends have it: ordered, not one of the control messages (which carry
    no number), and decoded as itself. -/
structure OrderedType (S : Schema) (ty : UInt32) : Prop where
  valid : S.validType ty = true
  ordered : (S.typeAt ty.toNat).reliableMode = .Ordered
  data : S.isReliableControlType ty = false
  wire : S.localTypeId (S.v4TypeId ty) = some ty

/-- Before the first event: the sender's side is reliable, and neither end knows the stream. -/
structure Fresh (L : Link) : Prop where
  side : ∃ side, L.sender.sideAt C.txSide = some side ∧ side.serializedTx = true ∧ side.reliableEnabled = true
  sender : L.sender.reliableTx = ∅ ∧ L.sender.obs = []
  receiver : L.receiver.reliableRx.lookup (reliableKey C.rxSide C.ty) = none ∧ L.receiver.obs = []
  released : L.released = []

/-! ## The invariant -/

/-- The sending end: numbers go out in order, and windows and wire hold numbered frames only. -/
structure SenderInv (o : Owner) : Prop where
  side : ∃ side, o.sideAt C.txSide = some side ∧ side.serializedTx = true ∧ side.reliableEnabled = true
  next : (o.txState C.txSide C.ty).nextSeq = seqAt (o.numbered C.txSide C.ty).length
  numbers : InSequence (fun n p => p.1 = seqAt n) 0 (o.numbered C.txSide C.ty)
  framed : ∀ p ∈ o.numbered C.txSide C.ty, ∃ pkt, pkt.ty = C.ty ∧
    p.2 = serializePacketWithReliable C.schema C.codec pkt ⟨0, p.1, 0⟩
  held : ∀ key seq bytes, o.Holds key seq bytes → (seq, bytes) ∈ o.numbered C.txSide C.ty
  handed : ∀ bytes ∈ o.handed C.txSide, ∃ seq, (seq, bytes) ∈ o.numbered C.txSide C.ty

/-- The receiving end, against the frames that have been numbered. -/
structure ReceiverInv (numbered : List (UInt32 × Bytes)) (released : List Bytes) (o : Owner) : Prop where
  inOrder : InSequence (fun n bytes => numbered[n]? = some (seqAt n, bytes) ∧
    frameSeq C.schema C.codec bytes = some (seqAt n)) 0 released
  position : (o.rxState C.rxSide C.ty).expectedSeq = seqAt released.length
  buffered : ∀ seq bf, (o.rxState C.rxSide C.ty).buffered.lookup seq = some bf →
    (seq, bf.wireBytes) ∈ numbered ∧ frameSeq C.schema C.codec bf.wireBytes = some seq
  acks : ∀ ack ∈ o.queuedAcks C.rxSide C.ty, ack.toNat ≤ released.length

end

/-! ## The sending end -/

section

variable {C : LinkConfig} {o o' : Owner}

/-- Steps that number nothing keep the sending end. -/
theorem SenderInv.retains (h : SenderInv C o) (hret : Owner.Retains o o') :
    SenderInv C o' ∧ o'.numbered C.txSide C.ty = o.numbered C.txSide C.ty := by
  obtain ⟨l, hobs, hl⟩ := hret.transmits
  -- transmissions do not show up among the numbered frames
  have hnumbered : o'.numbered C.txSide C.ty = o.numbered C.txSide C.ty := by
    unfold Owner.numbered
    rw [hobs, List.filterMap_append, List.append_right_eq_self, List.filterMap_eq_nil_iff]
    intro e he
    obtain ⟨sideId, key, seq, bytes, -, rfl⟩ := hl e he
    rfl
  have hnext : (o'.txState C.txSide C.ty).nextSeq = (o.txState C.txSide C.ty).nextSeq := by
    have := hret.streams (reliableKey C.txSide C.ty)
    unfold Owner.txState
    cases htx : o.reliableTx.lookup (reliableKey C.txSide C.ty) with
    | none =>
      rw [htx, Option.map_none, Option.map_eq_none_iff] at this
      rw [this]
    | some tx =>
      rw [htx, Option.map_some, Option.map_eq_some_iff] at this
      obtain ⟨tx', htx', hseq⟩ := this
      rw [htx']
      exact hseq
  have hside : o'.sideAt C.txSide = o.sideAt C.txSide := by
    unfold Owner.sideAt
    rw [hret.sides]
  refine ⟨⟨hside ▸ h.side, by rw [hnext, hnumbered]; exact h.next, by rw [hnumbered]; exact h.numbers,
    by rw [hnumbered]; exact h.framed, ?_, ?_⟩, hnumbered⟩
  · intro key seq bytes hheld
    rw [hnumbered]
    exact h.held key seq bytes (hret.held key seq bytes hheld)
  · intro bytes hbytes
    rw [hnumbered]
    unfold Owner.handed at hbytes
    rw [hobs, List.filterMap_append, List.mem_append] at hbytes
    rcases hbytes with hold | hnew
    · exact h.handed bytes hold
    · -- what is transmitted now was held
      obtain ⟨e, he, heq⟩ := List.mem_filterMap.mp hnew
      obtain ⟨sideId, key, seq, b, hheld, rfl⟩ := hl e he
      dsimp only at heq
      split at heq
      · cases heq
        exact ⟨seq, h.held key seq bytes hheld⟩
      · cases heq

/-- A send the window refuses keeps the sending end. -/
theorem SenderInv.refuses (h : SenderInv C o) (href : Owner.Refuses o o' C.txSide C.ty) :
    SenderInv C o' ∧ o'.numbered C.txSide C.ty = o.numbered C.txSide C.ty := by
  have hnumbered : o'.numbered C.txSide C.ty = o.numbered C.txSide C.ty := by
    unfold Owner.numbered
    rw [href.trace]
  have hhanded : o'.handed C.txSide = o.handed C.txSide := by
    unfold Owner.handed
    rw [href.trace]
  have hside : o'.sideAt C.txSide = o.sideAt C.txSide := by
    unfold Owner.sideAt
    rw [href.sides]
  obtain ⟨tx, htx, hnext⟩ := href.stream
  refine ⟨⟨hside ▸ h.side, ?_, by rw [hnumbered]; exact h.numbers, by rw [hnumbered]; exact h.framed, ?_, ?_⟩,
    hnumbered⟩
  · rw [hnumbered, ← h.next, ← hnext]
    unfold Owner.txState
    rw [htx]
    rfl
  · intro key seq bytes hheld
    rw [hnumbered]
    exact h.held key seq bytes (href.held key seq bytes hheld)
  · rw [hhanded, hnumbered]
    exact h.handed

/-- A send that uses a number adds its frame to the numbered ones. -/
theorem SenderInv.sends (h : SenderInv C o) {pkt : PacketData} (hty : pkt.ty = C.ty) {seq : UInt32}
    (hseq : seq = (o.txState C.txSide C.ty).nextSeq)
    (hnum : Owner.Numbers o o' C.txSide C.ty seq
      (serializePacketWithReliable C.schema C.codec pkt ⟨0, seq, 0⟩)) :
    SenderInv C o' ∧ o'.numbered C.txSide C.ty = o.numbered C.txSide C.ty ++
      [(seq, serializePacketWithReliable C.schema C.codec pkt ⟨0, seq, 0⟩)] := by
  generalize hbytes : serializePacketWithReliable C.schema C.codec pkt ⟨0, seq, 0⟩ = bytes at hnum ⊢
  obtain ⟨l, hobs, hl⟩ := hnum.trace
  have hnumbered : o'.numbered C.txSide C.ty = o.numbered C.txSide C.ty ++ [(seq, bytes)] := by
    unfold Owner.numbered
    rw [hobs, List.filterMap_append, List.filterMap_cons_some (b := (seq, bytes)) (by simp)]
    congr 2
    rw [List.filterMap_eq_nil_iff]
    intro e he
    rw [hl e he]
  have hside : o'.sideAt C.txSide = o.sideAt C.txSide := by
    unfold Owner.sideAt
    rw [hnum.sides]
  obtain ⟨tx, htx, hnext⟩ := hnum.stream
  refine ⟨⟨hside ▸ h.side, ?_, ?_, ?_, ?_, ?_⟩, hnumbered⟩
  · rw [hnumbered, List.length_append, List.length_singleton, ← nextSeq_seqAt, ← h.next, ← hseq, ← hnext]
    unfold Owner.txState
    rw [htx]
    rfl
  · rw [hnumbered]
    apply h.numbers.concat
    rw [Nat.zero_add, ← h.next]
    exact hseq
  · intro p hp
    rw [hnumbered, List.mem_append, List.mem_singleton] at hp
    rcases hp with hold | rfl
    · exact h.framed p hold
    · exact ⟨pkt, hty, hbytes.symm⟩
  · intro key q b hheld
    rw [hnumbered, List.mem_append, List.mem_singleton]
    rcases hnum.held key q b hheld with hold | ⟨rfl, rfl⟩
    · exact .inl (h.held key q b hold)
    · exact .inr rfl
  · intro b hb
    unfold Owner.handed at hb
    rw [hobs, List.filterMap_append, List.mem_append] at hb
    rw [hnumbered]
    rcases hb with hold | hnew
    · obtain ⟨q, hq⟩ := h.handed b hold
      exact ⟨q, List.mem_append_left _ hq⟩
    · -- the trace after the number holds transmissions of this frame only
      obtain ⟨e, he, heq⟩ := List.mem_filterMap.mp hnew
      rcases List.mem_cons.mp he with rfl | he
      · cases heq
      · rw [hl e he] at heq
        dsimp only at heq
        split at heq
        · cases heq
          exact ⟨seq, List.mem_append_right _ List.mem_cons_self⟩
        · cases heq

/-! ## The receiving end -/

theorem ReceiverInv.mono {numbered numbered' : List (UInt32 × Bytes)} {released : List Bytes}
    (h : ReceiverInv C numbered released o) (hgrow : numbered <+: numbered') :
    ReceiverInv C numbered' released o := by
  refine ⟨h.inOrder.imp ?_, h.position, ?_, h.acks⟩
  · intro n bytes hn
    refine ⟨?_, hn.2⟩
    obtain ⟨hlt, -⟩ := List.getElem?_eq_some_iff.mp hn.1
    obtain ⟨more, rfl⟩ := hgrow
    rw [List.getElem?_append_left hlt]
    exact hn.1
  · intro seq bf hbf
    obtain ⟨hmem, hseq⟩ := h.buffered seq bf hbf
    exact ⟨hgrow.subset hmem, hseq⟩

/-- The header of a numbered frame, when the frame parses at all. -/
theorem peek_numbered (hty : OrderedType C.schema C.ty) {pkt : PacketData} (hpkt : pkt.ty = C.ty)
    {seq : UInt32} {frame : FrameInfoLite}
    (hpeek : peekFrameInfo C.schema C.codec
      (serializePacketWithReliable C.schema C.codec pkt ⟨0, seq, 0⟩) true = some frame) :
    frame.envelope.ty = C.ty ∧ frame.reliable = some ⟨0, seq, 0⟩ := by
  have hhas : C.schema.hasV4ReliableHeader pkt.ty = true := by
    unfold Schema.hasV4ReliableHeader TypeInfo.reliable
    rw [hpkt, hty.valid, hty.ordered, hty.data]
    rfl
  rw [peekFrameInfo_frame pkt (hpkt ▸ hty.wire) (hpkt ▸ hty.valid) ⟨0, seq, 0⟩ _ (by decide : (0 : UInt8) &&& 0x0C = 0)
    (serializePacketWithReliable_frame C.schema C.codec pkt ⟨0, seq, 0⟩) true, if_pos hhas] at hpeek
  split at hpeek
  · cases hpeek
  · rw [Option.some.injEq] at hpeek
    subst hpeek
    exact ⟨hpkt, rfl⟩

/-- Among fewer than `2^32 - 1` numbered frames, the one under the `n`-th number is the `n`-th. -/
theorem getElem?_of_numbered {numbered : List (UInt32 × Bytes)} {n : Nat} {bytes : Bytes}
    (hnumbers : InSequence (fun n p => p.1 = seqAt n) 0 numbered)
    (hused : numbered.length < 2 ^ 32 - 1) (hn : n ≤ numbered.length)
    (hmem : (seqAt n, bytes) ∈ numbered) : numbered[n]? = some (seqAt n, bytes) := by
  obtain ⟨i, hi, hget⟩ := List.getElem_of_mem hmem
  have hseq := hnumbers i (seqAt n, bytes) (by rw [List.getElem?_eq_getElem hi, hget])
  rw [Nat.zero_add] at hseq
  have hin : n = i := seqAt_inj (by omega) (by omega) hseq
  rw [hin, List.getElem?_eq_getElem hi, hget, ← hin]

/-- Frames found among the numbered ones under the numbers of consecutive positions are the frames
    at those positions. -/
theorem inSequence_of_numbered {numbered : List (UInt32 × Bytes)} {n : Nat} {frames : List Bytes}
    (hnumbers : InSequence (fun n p => p.1 = seqAt n) 0 numbered)
    (hused : numbered.length < 2 ^ 32 - 1) (hn : n ≤ numbered.length)
    (h : InSequence (fun m bytes => (seqAt m, bytes) ∈ numbered) n frames) :
    InSequence (fun m bytes => numbered[m]? = some (seqAt m, bytes)) n frames := by
  induction frames generalizing n with
  | nil => exact .nil _ _
  | cons bytes frames ih =>
    rw [InSequence.cons_iff] at h ⊢
    have hget := getElem?_of_numbered hnumbers hused hn h.1
    -- the position is taken, so the next one is still within reach
    obtain ⟨hlt, -⟩ := List.getElem?_eq_some_iff.mp hget
    exact ⟨hget, ih hlt h.2⟩

/-- An ordered frame of the stream, numbered as its header says, keeps the receiving end. -/
theorem ReceiverInv.ingests {numbered : List (UInt32 × Bytes)} {released : List Bytes}
    (hnumbers : InSequence (fun n p => p.1 = seqAt n) 0 numbered) (hused : numbered.length < 2 ^ 32 - 1)
    (h : ReceiverInv C numbered released o) {seq : UInt32} {bytes : Bytes}
    (hmem : (seq, bytes) ∈ numbered ∧ frameSeq C.schema C.codec bytes = some seq) {pkt : PacketData}
    {ok : Bool} {items : List RxItem}
    (hin : Owner.Ingests o o' C.rxSide C.ty seq ⟨pkt, bytes⟩ released.length ok items) :
    ReceiverInv C numbered (released ++
      (Owner.passedOn ok (Owner.releasedItem C.rxSide ⟨pkt, bytes⟩) items).map (·.wireBytes)) o' := by
  generalize hpassed : Owner.passedOn ok (Owner.releasedItem C.rxSide ⟨pkt, bytes⟩) items = passed at hin
  have hpos := hpassed ▸ hin.position
  have hseqs := hpassed ▸ hin.inSequence
  obtain ⟨l, hobs, hl⟩ := hpassed ▸ hin.controls
  -- what is passed on comes from the buffer or is the frame itself: numbered either way
  have hfound : InSequence (fun m b => (seqAt m, b) ∈ numbered ∧ frameSeq C.schema C.codec b = some (seqAt m))
      released.length (passed.map (·.wireBytes)) := by
    rw [InSequence.map_iff]
    refine hseqs.imp ?_
    rintro m item (⟨bf, hbf, rfl⟩ | ⟨rfl, rfl⟩)
    · exact h.buffered (seqAt m) bf hbf
    · exact hmem
  have hle : released.length ≤ numbered.length := by
    have hprefix : released <+: numbered.map Prod.snd := by
      rw [← InSequence.prefix_iff]
      refine h.inOrder.imp ?_
      intro n b hn
      rw [List.getElem?_map, hn.1]
      rfl
    have := hprefix.length_le
    rwa [List.length_map] at this
  have hplaced := inSequence_of_numbered hnumbers hused hle (hfound.imp fun m b hm => hm.1)
  refine ⟨InSequence.append_iff.mpr ⟨h.inOrder, ?_⟩, ?_, ?_, ?_⟩
  · intro i b hb
    rw [Nat.zero_add]
    exact ⟨hplaced i b hb, (hfound i b hb).2⟩
  · rw [List.length_append, List.length_map]
    exact hpos
  · intro q bf hbf
    rcases hin.buffers q bf hbf with hold | ⟨rfl, rfl, -⟩
    · exact h.buffered q bf hold
    · exact hmem
  · intro ack hack
    unfold Owner.queuedAcks at hack
    rw [hobs, List.filterMap_append, List.mem_append] at hack
    rw [List.length_append, List.length_map]
    rcases hack with hold | hnew
    · exact Nat.le_trans (h.acks ack hold) (Nat.le_add_right _ _)
    · obtain ⟨e, he, heq⟩ := List.mem_filterMap.mp hnew
      obtain ⟨controlTy, q, rfl, hbound⟩ := hl e he
      dsimp only at heq
      split at heq
      · rename_i hctl
        cases heq
        exact hbound hctl.1
      · cases heq

/-- **A numbered frame arrives.** The receiving end keeps its invariant, whatever frame it is. -/
theorem ReceiverInv.receive (hty : OrderedType C.schema C.ty) {L : Link} {numbered : List (UInt32 × Bytes)}
    (hnumbers : InSequence (fun n p => p.1 = seqAt n) 0 numbered)
    (hframed : ∀ p ∈ numbered, ∃ pkt, pkt.ty = C.ty ∧
      p.2 = serializePacketWithReliable C.schema C.codec pkt ⟨0, p.1, 0⟩)
    (hused : numbered.length < 2 ^ 32 - 1) (h : ReceiverInv C numbered L.released L.receiver)
    {seq : UInt32} {bytes : Bytes} (hmem : (seq, bytes) ∈ numbered) :
    ReceiverInv C numbered (L.receive C bytes).released (L.receive C bytes).receiver := by
  unfold Link.receive
  rcases Owner.ingest_cases (E := C.rxEnv) (o := L.receiver) C.schema C.codec C.rxSide bytes with
    hdrop | ⟨frame, hpeek, hack | ⟨q, hpass⟩⟩
  · rw [hdrop]
    simpa using h
  · -- a numbered frame is no ACK
    obtain ⟨pkt, hpkt, hbytes⟩ := hframed (seq, bytes) hmem
    dsimp only at hbytes
    obtain ⟨-, hhdr⟩ := peek_numbered hty hpkt (hbytes ▸ hpeek)
    unfold FrameInfoLite.ackOnly at hack
    rw [hhdr] at hack
    simp at hack
  · obtain ⟨pkt, hpkt, hbytes⟩ := hframed (seq, bytes) hmem
    dsimp only at hbytes
    obtain ⟨hframeTy, hhdr⟩ := peek_numbered hty hpkt (hbytes ▸ hpeek)
    have hseq : frameSeq C.schema C.codec bytes = some seq := by
      unfold frameSeq
      rw [hpeek, Option.bind_some, hhdr]
      rfl
    obtain ⟨items, hin⟩ := Owner.processReliableIngress_ordered (S := C.schema) (E := C.rxEnv)
      C.rxSide frame q bytes hhdr (by decide : Owner.orderedFlags 0 = true) (hframeTy.symm ▸ h.position)
    rw [hframeTy] at hin
    rw [hpass]
    generalize L.receiver.processReliableIngress C.schema C.rxEnv C.rxSide frame q bytes = r at hin ⊢
    obtain ⟨ok, receiver⟩ := r
    have hpushed : (if ok = true then [bytes] else []) ++ (receiver.reliableReleasedRx.drop
          L.receiver.reliableReleasedRx.length).map (·.wireBytes) =
        (Owner.passedOn ok (Owner.releasedItem C.rxSide ⟨q, bytes⟩) items).map (·.wireBytes) := by
      rw [hin.pushes, List.drop_left]
      cases ok <;> rfl
    dsimp only
    rw [hpushed]
    exact h.ingests hnumbers hused ⟨hmem, hseq⟩ hin

/-! ## Runs -/

/-- Both ends, as they stand after some events. -/
structure Inv (C : LinkConfig) (L : Link) : Prop where
  sender : SenderInv C L.sender
  receiver : ReceiverInv C (L.sender.numbered C.txSide C.ty) L.released L.receiver

theorem Fresh.inv {L : Link} (h : Fresh C L) : Inv C L := by
  obtain ⟨htx, hobs⟩ := h.sender
  obtain ⟨hrx, hobs'⟩ := h.receiver
  have hnumbered : L.sender.numbered C.txSide C.ty = [] := by
    unfold Owner.numbered
    rw [hobs]
    rfl
  have hrxState : L.receiver.rxState C.rxSide C.ty = .new := by
    unfold Owner.rxState
    rw [hrx]
    rfl
  refine ⟨⟨h.side, ?_, hnumbered ▸ .nil _ _, ?_, ?_, ?_⟩, ⟨h.released ▸ .nil _ _, ?_, ?_, ?_⟩⟩
  · rw [hnumbered]
    unfold Owner.txState
    rw [htx]
    rfl
  · rw [hnumbered]
    intro p hp
    cases hp
  · rintro key seq bytes ⟨tx, sent, hkey, -⟩
    rw [htx] at hkey
    cases hkey
  · unfold Owner.handed
    rw [hobs]
    intro bytes hbytes
    cases hbytes
  · rw [hrxState, h.released]
    rfl
  · rw [hrxState]
    intro seq bf hbf
    cases hbf
  · unfold Owner.queuedAcks
    rw [hobs']
    intro ack hack
    cases hack

/-- What one event does to the sending end. -/
theorem step_sender (hty : OrderedType C.schema C.ty) {L : Link} (h : SenderInv C L.sender)
    (e : LinkEvent C.ty) : SenderInv C (L.step C e).sender ∧
      L.sender.numbered C.txSide C.ty <+: (L.step C e).sender.numbered C.txSide C.ty := by
  -- events that number nothing
  have hkeep : ∀ {o' : Owner}, Owner.Retains L.sender o' →
      SenderInv C o' ∧ L.sender.numbered C.txSide C.ty <+: o'.numbered C.txSide C.ty := by
    intro o' hret
    obtain ⟨hinv, hsame⟩ := h.retains hret
    exact ⟨hinv, hsame ▸ List.prefix_refl _⟩
  cases e with
  | send pkt hpkt =>
    obtain ⟨side, hside, htx, hrel⟩ := h.side
    have hreliable : C.schema.isReliableType pkt.ty = true := by
      unfold Schema.isReliableType TypeInfo.reliable
      rw [hpkt, hty.valid, hty.ordered]
      rfl
    have hflags : (if (C.schema.typeAt pkt.ty.toNat).reliableMode = .Unordered then kReliableFlagUnordered
        else 0) = (0 : UInt8) := by
      rw [hpkt, hty.ordered]
      rfl
    rcases Owner.sendSerializedWithReliable_spec (Z := C.codec) (E := C.txEnv) hside htx hrel hreliable hflags with
      href | hnum
    · obtain ⟨hinv, hsame⟩ := h.refuses (hpkt ▸ href)
      exact ⟨hinv, ⟨[], (List.append_nil _).trans hsame.symm⟩⟩
    · rw [hpkt] at hnum
      obtain ⟨hinv, happend⟩ := h.sends hpkt rfl hnum
      exact ⟨hinv, ⟨_, happend.symm⟩⟩
  | ack sideId ty ack => exact hkeep (Owner.handleAck_retains L.sender sideId ty ack)
  | partialAck sideId ty seq => exact hkeep (Owner.handlePartialAck_retains L.sender sideId ty seq)
  | packetRequest sideId ty seq => exact hkeep (Owner.handlePacketRequest_retains L.sender sideId ty seq)
  | timeouts => exact hkeep (Owner.doReliableTimeouts_retains L.sender)
  | arrive i =>
    have hsender : (L.step C (.arrive i)).sender = L.sender := by
      unfold step
      dsimp only
      cases (L.sender.handed C.txSide)[i]? <;> rfl
    rw [hsender]
    exact ⟨h, List.prefix_refl _⟩
  | takeReleased => exact ⟨h, List.prefix_refl _⟩
  | inCallback active => exact hkeep (.of_eq rfl rfl rfl)
  | tuneSender tuning => exact hkeep (.of_eq rfl rfl rfl)
  | tuneReceiver tuning => exact ⟨h, List.prefix_refl _⟩

/-- One event keeps the invariant, while numbers last. -/
theorem step_inv (hty : OrderedType C.schema C.ty) {L : Link} (h : Inv C L) (e : LinkEvent C.ty)
    (hused : ((L.step C e).sender.numbered C.txSide C.ty).length < 2 ^ 32 - 1) : Inv C (L.step C e) := by
  obtain ⟨hsender, hgrow⟩ := step_sender hty h.sender e
  have hreceiver := h.receiver.mono hgrow
  refine ⟨hsender, ?_⟩
  cases e with
  | arrive i =>
    unfold step at hreceiver hused ⊢
    dsimp only at hreceiver hused ⊢
    cases hget : (L.sender.handed C.txSide)[i]? with
    | none =>
      rw [hget] at hreceiver
      exact hreceiver
    | some bytes =>
      rw [hget] at hused
      obtain ⟨seq, hmem⟩ := h.sender.handed bytes (List.mem_of_getElem? hget)
      exact h.receiver.receive hty h.sender.numbers h.sender.framed hused hmem
  | takeReleased => exact ⟨h.receiver.inOrder, h.receiver.position, h.receiver.buffered, h.receiver.acks⟩
  | tuneReceiver tuning => exact ⟨h.receiver.inOrder, h.receiver.position, h.receiver.buffered, h.receiver.acks⟩
  | send pkt hpkt => exact hreceiver
  | ack sideId ty ack => exact hreceiver
  | partialAck sideId ty seq => exact hreceiver
  | packetRequest sideId ty seq => exact hreceiver
  | timeouts => exact hreceiver
  | inCallback active => exact hreceiver
  | tuneSender tuning => exact hreceiver

theorem run_concat (L : Link) (events : List (LinkEvent C.ty)) (e : LinkEvent C.ty) :
    L.run C (events ++ [e]) = (L.run C events).step C e := by
  unfold run
  rw [List.foldl_append]
  rfl

theorem run_sender (hty : OrderedType C.schema C.ty) {L : Link} (h : Fresh C L)
    (events : List (LinkEvent C.ty)) : SenderInv C (L.run C events).sender := by
  induction events using List.reverseRecOn with
  | nil => exact h.inv.sender
  | append_singleton events e ih =>
    rw [run_concat]
    exact (step_sender hty ih e).1

/-- The invariant holds after every run that has not used up the numbers. -/
theorem run_inv (hty : OrderedType C.schema C.ty) {L : Link} (h : Fresh C L) (events : List (LinkEvent C.ty))
    (hused : ((L.run C events).sender.numbered C.txSide C.ty).length < 2 ^ 32 - 1) : Inv C (L.run C events) := by
  induction events using List.reverseRecOn with
  | nil => exact h.inv
  | append_singleton events e ih =>
    rw [run_concat] at hused ⊢
    -- numbers are never given back, so there were enough before the last event
    have hgrow := (step_sender hty (run_sender hty h events) e).2
    exact step_inv hty (ih (Nat.lt_of_le_of_lt hgrow.length_le hused)) e hused

/-- **An ordered stream arrives in order, over any link.** Whatever is sent, lost, repeated,
    reordered, retransmitted, requested or acknowledged, and however the callbacks and clocks
    answer: while fewer than `2^32 - 1` numbers are used, the frames the receiver has released carry
    the numbers `1, .., k`, they are the first `k` frames the sender has numbered, and no cumulative
    ACK the receiver has queued is above `k`. -/
theorem run_releases_inOrder (C : LinkConfig) (hty : OrderedType C.schema C.ty) (L : Link) (h : Fresh C L)
    (events : List (LinkEvent C.ty))
    (hused : ((L.run C events).sender.numbered C.txSide C.ty).length < 2 ^ 32 - 1) :
    ∃ k,
      (L.run C events).released.map (fun bytes => (frameSeq C.schema C.codec bytes).map UInt32.toNat) =
        (List.range' 1 k).map some ∧
      (L.run C events).released = (((L.run C events).sender.numbered C.txSide C.ty).take k).map Prod.snd ∧
      ((L.run C events).sender.numbered C.txSide C.ty).map (·.1.toNat) =
        List.range' 1 ((L.run C events).sender.numbered C.txSide C.ty).length ∧
      ∀ ack ∈ (L.run C events).receiver.queuedAcks C.rxSide C.ty, ack.toNat ≤ k := by
  obtain ⟨hsender, hreceiver⟩ := run_inv hty h events hused
  generalize L.run C events = R at hsender hreceiver hused ⊢
  have hprefix : R.released <+: (R.sender.numbered C.txSide C.ty).map Prod.snd := by
    rw [← InSequence.prefix_iff]
    refine hreceiver.inOrder.imp ?_
    intro n bytes hn
    rw [List.getElem?_map, hn.1]
    rfl
  have hle := hprefix.length_le
  rw [List.length_map] at hle
  refine ⟨R.released.length, ?_, ?_, ?_, hreceiver.acks⟩
  · have hseqs : InSequence (fun n bytes => (frameSeq C.schema C.codec bytes).map UInt32.toNat =
        some (seqAt n).toNat) 0 R.released := by
      refine hreceiver.inOrder.imp ?_
      intro n bytes hn
      rw [hn.2]
      rfl
    rw [hseqs.map_eq, ← map_toNat_seqAt (by omega : R.released.length ≤ 2 ^ 32 - 1), List.map_map]
    rfl
  · rw [List.map_take]
    exact List.prefix_iff_eq_take.mp hprefix
  · have hseqs : InSequence (fun n (p : UInt32 × Bytes) => p.1.toNat = (seqAt n).toNat) 0
        (R.sender.numbered C.txSide C.ty) := by
      refine hsender.numbers.imp ?_
      intro n p hp
      rw [hp]
    rw [hseqs.map_eq, map_toNat_seqAt (by omega)]

end

/-- Position reports from one router to another. -/
def gpsLinkConfig : LinkConfig := ⟨defaultTestSchema, .absent 16, 100, 0, 0, .calm, .calm⟩

def gpsLink : Link := ⟨.new (ascii "A") [.serialized [] true], .new (ascii "B") [.serialized [] true], []⟩

theorem gpsPacket_ty : gpsPacket.ty = gpsLinkConfig.ty := rfl

/-- Two reports arrive in the wrong order, and the first one twice. -/
def gpsLinkEvents : List (LinkEvent gpsLinkConfig.ty) :=
  [.send gpsPacket gpsPacket_ty, .send gpsPacket gpsPacket_ty, .arrive 1, .arrive 0, .arrive 0]

theorem run_releases_inOrder_gps : ∃ k,
    (gpsLink.run gpsLinkConfig gpsLinkEvents).released.map
      (fun bytes => (frameSeq defaultTestSchema (.absent 16) bytes).map UInt32.toNat) =
        (List.range' 1 k).map some ∧
    (gpsLink.run gpsLinkConfig gpsLinkEvents).released.length = 2 := by
  have hty : OrderedType gpsLinkConfig.schema gpsLinkConfig.ty :=
    ⟨by decide +kernel, by decide +kernel, by decide +kernel, by decide +kernel⟩
  have hfresh : Fresh gpsLinkConfig gpsLink := ⟨⟨.serialized [] true, by decide, rfl, rfl⟩, ⟨rfl, rfl⟩, ⟨rfl, rfl⟩, rfl⟩
  obtain ⟨k, hk, -⟩ := run_releases_inOrder gpsLinkConfig hty gpsLink hfresh gpsLinkEvents (by decide +kernel)
  exact ⟨k, hk, by decide +kernel⟩

end Link

end SedsNet
