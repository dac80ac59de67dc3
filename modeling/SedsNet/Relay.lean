import Mathlib.Data.Finset.Card
import SedsNet.Order
import SedsNet.Tables

/-!
# The relay

`SedsRelay`: `seds_relay_rx_serialized_from_side` and the drain of `src/relay_api.cpp`, over
`relay_receive_impl` of `src/router_core.cpp`. A relay has no endpoints of its own: what it receives
it acknowledges, learns from, and queues for its other sides.

The main result is `Relay.run_receives_inOrder`: whatever arrives, on whichever sides and in whichever
order, and whenever the queue is drained, each stream is received by its numbers.
-/

set_option autoImplicit false

namespace SedsNet

open Lib

structure Relay extends Owner where
  endToEndAckedDestinations : Map UInt64 (Finset UInt64)
  endToEndAckedDestinationOrder : List UInt64

namespace Relay

/-- A new relay with these sides, at the default configuration. -/
def new (sides : List Side) : Relay := ⟨.new (ascii "RELAY") sides, ∅, []⟩

section

variable (S : Schema) (Z : Codec) (E : Env)

/-! ## Receipt -/

/-- `note_end_to_end_acked_destination`. -/
def noteEndToEndAckedDestination (r : Relay) (id hash : UInt64) : Relay :=
  let (gone, order) := rememberId r.tuning.reliableMaxEndToEndAckCache r.endToEndAckedDestinationOrder id
  let acked := gone.foldl (fun m old => m.erase old) r.endToEndAckedDestinations
  let senders := Map.getOr acked id ∅
  let senders :=
    if senders.card < max 1 r.tuning.reliableMaxEndToEndPending ∨ hash ∈ senders then insert hash senders else senders
  { r with endToEndAckedDestinationOrder := order, endToEndAckedDestinations := acked.insert id senders }

/-- An end-to-end ACK on its way back: the destination is noted, and the packet goes where the packet it
    acknowledges came from. -/
def forwardEndToEndAck (r : Relay) (pkt : PacketData) (srcSide : Option Int32) : Relay :=
  let ackedId := loadLe64 pkt.payload 0
  let r :=
    match decodeEndToEndAckSenderHash pkt.sender with
    | some hash => r.noteEndToEndAckedDestination ackedId hash
    | none => r
  match srcSide, r.reliableReturnRoutes.lookup ackedId with
  | some _, some side => { r with toOwner := r.toOwner.enqueueTx ⟨pkt, srcSide, some side, false⟩ }
  | _, _ => r

/-- `relay_receive_impl`. -/
def relayReceiveImpl (r : Relay) (pkt : PacketData) (srcSide : Option Int32) : Relay :=
  let (id, o) := r.toOwner.packetId S pkt
  let r := { r with toOwner := o.noteReturnRoutes S pkt srcSide id }
  if isInternalControlType pkt.ty then
    if pkt.ty = SEDS_DT_RELIABLE_ACK ∧ isEndToEndAckSender pkt.sender ∧ pkt.payload.length = 8 then
      r.forwardEndToEndAck pkt srcSide
    else { r with toOwner := r.toOwner.handleReliableControl S E pkt srcSide }
  else
    let o :=
      if isDiscoveryControlType pkt.ty then r.toOwner.handleDiscoveryPacket S E none pkt srcSide else r.toOwner
    { r with toOwner := o.enqueueTx ⟨pkt, srcSide, none, false⟩ }

/-! ## Ingress -/

end

end Relay

namespace Owner

variable (S : Schema) (Z : Codec) (E : Env)

/-- The duplicate check of a relay: frames without a reliable header, by packet id and side. Whether the
    frame is to be dropped. -/
def relayDuplicate (o : Owner) (sideId : UInt32) (frame : FrameInfoLite) (bytes : Bytes) : Bool × Owner :=
  match frame.reliable with
  | some _ => (false, o)
  | none =>
    match o.packetIdFromWire S Z bytes with
    | (none, o) => (false, o)
    | (some id, o) =>
      let dedupeId := id ^^^ (sideId.toUInt64 <<< 56)
      if dedupeId ∈ o.recentSet then (true, o) else (false, o.pushRecent dedupeId)

/-- The end of `seds_relay_rx_serialized_from_side`: the frame goes to the back of the queue, and what it
    released follows it. -/
def relayEnqueue (o : Owner) (item : RxItem) : SedsResult × Owner :=
  match o.enqueueRx item with
  | (false, o) => (SEDS_PACKET_TOO_LARGE, o)
  | (true, o) => (SEDS_OK, o.flushReleased)

/-- `seds_relay_rx_serialized_from_side`. -/
def relayRxSerializedFromSide (o : Owner) (sideId : UInt32) (bytes : Bytes) : SedsResult × Owner :=
  match o.peekFrameInfo S Z bytes with
  | (none, o) => (SEDS_DESERIALIZE, o)
  | (some frame, o) =>
    if !o.ingressOpen sideId then (SEDS_INVALID_LINK_ID, o)
    else if frame.ackOnly then (SEDS_OK, o.ingestAck S E sideId frame bytes)
    else
      match o.relayDuplicate S Z sideId frame bytes with
      | (true, o) => (SEDS_OK, o)
      | (false, o) =>
        match o.deserializePacket S Z bytes with
        | (none, o) => (SEDS_DESERIALIZE, o)
        | (some pkt, o) =>
          match o.processReliableIngress S E sideId.toInt32 frame pkt bytes with
          | (false, o) => (SEDS_OK, o)
          | (true, o) => o.relayEnqueue ⟨pkt, some sideId.toInt32, [], bytes⟩

end Owner

namespace Relay

section

variable (S : Schema) (Z : Codec) (E : Env)

def rxSerializedFromSide (r : Relay) (sideId : UInt32) (bytes : Bytes) : SedsResult × Relay :=
  let (rc, o) := r.toOwner.relayRxSerializedFromSide S Z E sideId bytes
  (rc, { r with toOwner := o })

/-- One round of `seds_relay_process_rx_queue`. -/
def receiveNext (r : Relay) : Relay :=
  match r.rxQueue.pop RxItem.byteCost with
  | none => r
  | some (item, queue) =>
    relayReceiveImpl S E { r with toOwner := { r.toOwner with rxQueue := queue }.observe (.receive item) }
      item.pkt item.srcSide

/-- The drain, `rounds` rounds long. -/
def receiveRounds : Nat → Relay → Relay
  | 0, r => r
  | rounds + 1, r => receiveRounds rounds (r.receiveNext S E)

/-- `seds_relay_process_rx_queue`: receipt puts nothing into `rx_queue`, so the loop ends after as many
    rounds as there are packets in it. -/
def processRxQueue (r : Relay) : Relay := receiveRounds S E r.rxQueue.items.length r

/-! ## Runs -/

/-- What happens to a relay. A callback that is called during the drain may call back into the relay
    (`mu` is recursive); `receiveNext` is a round of the drain on its own, so that arrivals may come
    between two of them. -/
inductive Event where
  | rx (sideId : UInt32) (bytes : Bytes)
  | processRxQueue
  | receiveNext

def step (r : Relay) : Event → Relay
  | .rx sideId bytes => (r.rxSerializedFromSide S Z E sideId bytes).2
  | .processRxQueue => r.processRxQueue S E
  | .receiveNext => r.receiveNext S E

def run (r : Relay) (events : List Event) : Relay := events.foldl (fun r e => r.step S Z E e) r

end

/-- A relay before its first frame, whatever its sides and configuration. -/
structure Fresh (r : Relay) : Prop where
  queue : r.rxQueue.items = []
  released : r.reliableReleasedRx = []
  streams : r.reliableRx = ∅
  obs : r.obs = []

end Relay

/-! ## One arrival -/

namespace Owner

variable {S : Schema} {Z : Codec} {E : Env}

theorem relayDuplicate_keepsRx (o : Owner) (sideId : UInt32) (frame : FrameInfoLite) (bytes : Bytes) :
    KeepsRx o (o.relayDuplicate S Z sideId frame bytes).2 := by
  unfold relayDuplicate
  cases frame.reliable with
  | some hdr => exact .refl o
  | none =>
    have hkeeps : KeepsRx o (o.packetIdFromWire S Z bytes).2 :=
      packetIdFromWire_emits S Z o rfl fun pkt o _ => packetId_keepsRx S o pkt
    dsimp only
    generalize o.packetIdFromWire S Z bytes = r at hkeeps ⊢
    obtain ⟨id, o'⟩ := r
    cases id with
    | none => exact hkeeps
    | some id =>
      dsimp only at hkeeps ⊢
      split
      · exact hkeeps
      · exact hkeeps.trans (pushRecent_emits o' rfl)

theorem relayRxSerializedFromSide_arrives (o : Owner) (sideId : UInt32) (bytes : Bytes) :
    FrameArrives S Z E (fun o item => (o.relayEnqueue item).2) o sideId bytes
      (o.relayRxSerializedFromSide S Z E sideId bytes).2 := by
  unfold relayRxSerializedFromSide peekFrameInfo
  have hpeeked : KeepsRx o (o.observe (.compare (comparedNames S ((Read.peekFrameInfo S Z bytes true).trace 0)))) :=
    .observe o rfl
  generalize o.observe (.compare (comparedNames S ((Read.peekFrameInfo S Z bytes true).trace 0))) = o₀ at hpeeked ⊢
  cases hpeek : SedsNet.peekFrameInfo S Z bytes true with
  | none => exact .dropped hpeeked
  | some frame =>
    dsimp only
    split
    · exact .dropped hpeeked
    · cases hack : frame.ackOnly with
      | true => exact .dropped (hpeeked.trans (ingestAck_emits S E o₀ sideId hack bytes))
      | false =>
        rw [if_neg (by simp)]
        have hkeeps := hpeeked.trans (relayDuplicate_keepsRx (S := S) (Z := Z) o₀ sideId frame bytes)
        generalize o₀.relayDuplicate S Z sideId frame bytes = r at hkeeps ⊢
        obtain ⟨duplicate, o₁⟩ := r
        cases duplicate with
        | true => exact .dropped hkeeps
        | false =>
          unfold deserializePacket
          dsimp only at hkeeps ⊢
          have hparsed := hkeeps.trans (.observe o₁ (e := .compare (comparedNames S
            ((Read.deserializePacket S Z bytes).trace 0))) rfl)
          generalize o₁.observe (.compare (comparedNames S ((Read.deserializePacket S Z bytes).trace 0))) = o₂ at hparsed ⊢
          cases SedsNet.deserializePacket S Z bytes with
          | none => exact .dropped hparsed
          | some pkt =>
            dsimp only
            cases hproc : o₂.processReliableIngress S E sideId.toInt32 frame pkt bytes with
            | mk ok o₃ =>
              cases ok with
              | false => exact .held hparsed hpeek hack hproc
              | true => exact .queued hparsed hpeek hack hproc

theorem relayEnqueue_obs (o : Owner) (item : RxItem) : ∃ l, (o.relayEnqueue item).2.obs = o.obs ++ l := by
  unfold relayEnqueue
  obtain ⟨l, hl⟩ := enqueueRxAt_obs false o item
  unfold enqueueRx
  generalize o.enqueueRxAt false item = r at hl ⊢
  obtain ⟨ok, o'⟩ := r
  cases ok with
  | false => exact ⟨l, hl⟩
  | true =>
    obtain ⟨l', hl'⟩ := flushReleased_obs o'
    exact ⟨l ++ l', by rw [← List.append_assoc, ← hl]; exact hl'⟩

/-- With room for everything, the frame and what it released are at the back of the queue, in that
    order. -/
theorem relayEnqueue_of_lossless {o : Owner} {item : RxItem} (h : Lossless (o.relayEnqueue item).2) :
    ∃ bytes peak, (o.relayEnqueue item).2 =
      { o with rxQueue := ⟨o.rxQueue.items ++ item :: o.reliableReleasedRx, bytes, o.rxQueue.wrapped⟩, reliableReleasedRx := [],
               peak := peak } := by
  have hone : Lossless (o.enqueueRxAt false item).2 := by
    unfold relayEnqueue enqueueRx at h
    generalize o.enqueueRxAt false item = r at h ⊢
    obtain ⟨ok, o'⟩ := r
    cases ok with
    | false => exact h
    | true =>
      obtain ⟨l, hl⟩ := flushReleased_obs o'
      exact h.of_append hl
  obtain ⟨bytes, peak, heq⟩ := enqueueRxAt_of_lossless false hone
  unfold relayEnqueue enqueueRx at h ⊢
  rw [heq] at h ⊢
  obtain ⟨bytes', peak', hflush⟩ := flushReleased_of_lossless h
  exact ⟨bytes', peak', by simpa using hflush⟩

/-- Every stream of the owner is in order. -/
structure OrderInv (S : Schema) (Z : Codec) (o : Owner) : Prop where
  streams : StreamsOk S Z o
  inOrder : ∀ sideId ty, InOrder S Z o sideId ty

theorem KeepsRx.orderInv {o o' : Owner} (h : KeepsRx o o') (hinv : OrderInv S Z o) : OrderInv S Z o' :=
  ⟨h.streamsOk hinv.streams, fun sideId ty => h.inOrder (hinv.inOrder sideId ty)⟩

theorem relayRxSerializedFromSide_obs (o : Owner) (sideId : UInt32) (bytes : Bytes) :
    ∃ l, (o.relayRxSerializedFromSide S Z E sideId bytes).2.obs = o.obs ++ l :=
  (relayRxSerializedFromSide_arrives o sideId bytes).obs relayEnqueue_obs

/-- **A frame arrives at a relay.** With room in the queue, every stream stays in order: the packets of
    a stream reach the back of the queue in the order in which the stream releases them. -/
theorem relayRxSerializedFromSide_inv {o : Owner} (hinv : OrderInv S Z o) {sideId : UInt32} {bytes : Bytes}
    (hloss : Lossless (o.relayRxSerializedFromSide S Z E sideId bytes).2) :
    OrderInv S Z (o.relayRxSerializedFromSide S Z E sideId bytes).2 := by
  have harrives := relayRxSerializedFromSide_arrives (S := S) (Z := Z) (E := E) o sideId bytes
  generalize (o.relayRxSerializedFromSide S Z E sideId bytes).2 = o' at harrives hloss ⊢
  rcases harrives.spec (fun queue item released => queue ++ item :: released)
      (fun o item => relayEnqueue_of_lossless) hinv.streams hloss with
    hkeeps | ⟨o₂, cur, ok, items, hin, -, -, hstreams, hreleased, hobs, hqueue⟩
  · exact hkeeps.orderInv hinv
  · refine ⟨hin.streamsOk hinv.streams hstreams hreleased, fun s t => ?_⟩
    refine hin.inOrder (hinv.inOrder s t) hstreams (hin.numbers_passed hobs ?_)
    rw [hqueue]
    cases ok with
    | false =>
      rw [hin.alone rfl]
      exact (List.append_nil _).symm
    | true => exact numbersOf_append o.rxQueue.items (cur :: items)

end Owner

/-! ## Drains and runs -/

namespace Relay

open Owner

variable {S : Schema} {Z : Codec} {E : Env}

theorem noteEndToEndAckedDestination_toOwner (r : Relay) (id hash : UInt64) :
    (r.noteEndToEndAckedDestination id hash).toOwner = r.toOwner := rfl

section

variable {P : TxItem → Prop} {Q : Obs → Prop}

/-- Where an end-to-end ACK goes: the way the packet it acknowledges came. -/
def returnSide (r : Relay) (pkt : PacketData) : Option Int32 :=
  if isInternalControlType pkt.ty ∧ pkt.ty = SEDS_DT_RELIABLE_ACK ∧ isEndToEndAckSender pkt.sender ∧
      pkt.payload.length = 8 then
    r.reliableReturnRoutes.lookup (loadLe64 pkt.payload 0)
  else none

/-- What the receipt of `pkt` may send: the packet itself, to the other sides or back the way of what it
    acknowledges, and a frame that is asked for again. -/
structure Receives (P : TxItem → Prop) (Q : Obs → Prop) (S : Schema) (E : Env) (r : Relay) (pkt : PacketData)
    (srcSide : Option Int32) : Prop where
  id : ∀ o : Owner, Emits P Q o (o.packetId S pkt).2
  source : ∀ o : Owner, Emits P Q o (o.sourcePacketId S pkt).2
  forward : isInternalControlType pkt.ty = false → P ⟨pkt, srcSide, none, false⟩
  back : ∀ sideId, returnSide r pkt = some sideId → P ⟨pkt, srcSide, some sideId, false⟩
  request : ∀ sideId bytes, Requests S r.toOwner pkt srcSide sideId bytes → Q (.transmit sideId bytes)
  hears : ∀ read, Q (.hears read (E.clock read))

theorem forwardEndToEndAck_emits {r : Relay} {pkt : PacketData} {srcSide : Option Int32}
    (hback : ∀ sideId, r.reliableReturnRoutes.lookup (loadLe64 pkt.payload 0) = some sideId →
      P ⟨pkt, srcSide, some sideId, false⟩) :
    Emits P Q r.toOwner (r.forwardEndToEndAck pkt srcSide).toOwner := by
  unfold forwardEndToEndAck
  dsimp only
  have hnoted : ∀ hash : Option UInt64, (match hash with
      | some hash => r.noteEndToEndAckedDestination (loadLe64 pkt.payload 0) hash
      | none => r).toOwner = r.toOwner := by
    intro hash
    cases hash <;> rfl
  generalize hr : (match decodeEndToEndAckSenderHash pkt.sender with
      | some hash => r.noteEndToEndAckedDestination (loadLe64 pkt.payload 0) hash
      | none => r) = r'
  have hsame : r'.toOwner = r.toOwner := hr ▸ hnoted _
  split
  · rename_i side _ hside
    rw [hsame] at hside
    exact hsame ▸ Emits.enqueueTxAt false r'.toOwner (hback _ hside)
  · exact hsame ▸ Emits.refl r'.toOwner

/-- **Receipt** sends what `Receives` says, and leaves the receiving half alone. -/
theorem relayReceiveImpl_emits {r : Relay} {pkt : PacketData} {srcSide : Option Int32} (h : Receives P Q S E r pkt srcSide) :
    Emits P Q r.toOwner (relayReceiveImpl S E r pkt srcSide).toOwner := by
  unfold relayReceiveImpl
  dsimp only
  have hnoted : Emits P Q r.toOwner ((r.toOwner.packetId S pkt).2.noteReturnRoutes S pkt srcSide
      (r.toOwner.packetId S pkt).1) :=
    (h.id r.toOwner).trans (noteReturnRoutes_emits S _ h.source srcSide _)
  split
  · rename_i hcontrol
    -- the way back is noted for data only
    have hsame : (r.toOwner.packetId S pkt).2.noteReturnRoutes S pkt srcSide (r.toOwner.packetId S pkt).1 =
        (r.toOwner.packetId S pkt).2 := by
      unfold noteReturnRoutes
      cases srcSide with
      | none => rfl
      | some sideId =>
        dsimp only
        rw [hcontrol, Bool.not_true, Bool.and_false, if_neg (by simp)]
    rw [hsame] at hnoted ⊢
    split
    · rename_i hack
      apply hnoted.trans
      refine forwardEndToEndAck_emits (r := { r with toOwner := (r.toOwner.packetId S pkt).2 }) ?_
      intro sideId hside
      apply h.back
      unfold returnSide
      rw [if_pos ⟨hcontrol, hack⟩]
      exact hside
    · apply hnoted.trans
      apply handleReliableControl_emits S E _ hcontrol
      exact h.request
  · rename_i hcontrol
    refine Emits.trans (hnoted.trans ?_) (.enqueueTxAt false _ (h.forward (Bool.eq_false_of_not_eq_true hcontrol)))
    split
    · exact handleDiscoveryPacket_emits S E _ h.hears none pkt srcSide
    · exact .refl _

end

/-- Receipt leaves the receiving half alone. -/
theorem relayReceiveImpl_keepsRx (r : Relay) (pkt : PacketData) (srcSide : Option Int32) :
    KeepsRx r.toOwner (relayReceiveImpl S E r pkt srcSide).toOwner :=
  relayReceiveImpl_emits ⟨fun o => packetId_keepsRx S o pkt, fun o => sourcePacketId_keepsRx S o pkt,
    fun _ => trivial, fun _ _ => trivial, (fun _ _ _ => rfl), fun _ => rfl⟩

/-- A round of the drain takes the front packet from the queue to the receiver, or finds it empty. -/
theorem receiveNext_cases (r : Relay) :
    r.rxQueue.items = [] ∧ r.receiveNext S E = r ∨
    ∃ item queue, r.rxQueue.items = item :: queue.items ∧
      KeepsRx ({ r.toOwner with rxQueue := queue }.observe (.receive item)) (r.receiveNext S E).toOwner := by
  unfold receiveNext Bounded.pop
  cases hitems : r.rxQueue.items with
  | nil => exact .inl ⟨rfl, rfl⟩
  | cons item rest => exact .inr ⟨item, _, rfl, relayReceiveImpl_keepsRx ⟨_, _, _⟩ item.pkt item.srcSide⟩

theorem receiveNext_obs (r : Relay) : ∃ l, (r.receiveNext S E).obs = r.obs ++ l := by
  rcases receiveNext_cases (S := S) (E := E) r with ⟨-, heq⟩ | ⟨item, queue, -, hkeeps⟩
  · exact ⟨[], by rw [heq, List.append_nil]⟩
  · obtain ⟨l, hl, -⟩ := hkeeps.trace
    exact ⟨.receive item :: l, by rw [hl, Owner.observe, List.append_assoc, List.singleton_append]⟩

/-- A round keeps every stream in order: the packet only changes places. -/
theorem receiveNext_inv {r : Relay} (hinv : OrderInv S Z r.toOwner) : OrderInv S Z (r.receiveNext S E).toOwner := by
  rcases receiveNext_cases (S := S) (E := E) r with ⟨-, heq⟩ | ⟨item, queue, hitems, hkeeps⟩
  · rw [heq]
    exact hinv
  · have hpassed : ({ r.toOwner with rxQueue := queue }.observe (.receive item)).passed = r.toOwner.passed := by
      unfold passed received Owner.observe
      rw [hitems, List.filterMap_append, List.append_assoc]
      rfl
    refine hkeeps.orderInv ⟨⟨hinv.streams.position, hinv.streams.buffered, hinv.streams.released⟩, ?_⟩
    intro sideId ty
    exact ⟨hpassed ▸ (hinv.inOrder sideId ty).inSequence, hpassed ▸ (hinv.inOrder sideId ty).position⟩

theorem receiveRounds_obs (rounds : Nat) (r : Relay) : ∃ l, (receiveRounds S E rounds r).obs = r.obs ++ l := by
  induction rounds generalizing r with
  | zero => exact ⟨[], (List.append_nil _).symm⟩
  | succ rounds ih =>
    obtain ⟨l, hl⟩ := receiveNext_obs (S := S) (E := E) r
    obtain ⟨l', hl'⟩ := ih (r.receiveNext S E)
    exact ⟨l ++ l', by rw [← List.append_assoc, ← hl]; exact hl'⟩

theorem receiveRounds_inv (rounds : Nat) {r : Relay} (hinv : OrderInv S Z r.toOwner) :
    OrderInv S Z (receiveRounds S E rounds r).toOwner := by
  induction rounds generalizing r with
  | zero => exact hinv
  | succ rounds ih => exact ih (receiveNext_inv hinv)

/-- The drain drains. -/
theorem processRxQueue_items (r : Relay) : (r.processRxQueue S E).rxQueue.items = [] := by
  have hrounds : ∀ rounds (r : Relay), r.rxQueue.items.length = rounds →
      (receiveRounds S E rounds r).rxQueue.items = [] := by
    intro rounds
    induction rounds with
    | zero =>
      intro r hlength
      exact List.length_eq_zero_iff.mp hlength
    | succ rounds ih =>
      intro r hlength
      apply ih
      rcases receiveNext_cases (S := S) (E := E) r with ⟨hempty, -⟩ | ⟨item, queue, hitems, hkeeps⟩
      · rw [hempty] at hlength
        cases hlength
      · rw [hitems, List.length_cons] at hlength
        rw [hkeeps.queue]
        exact Nat.succ.inj hlength
  exact hrounds _ r rfl

theorem step_obs (r : Relay) (e : Event) : ∃ l, (r.step S Z E e).obs = r.obs ++ l := by
  cases e with
  | rx sideId bytes => exact relayRxSerializedFromSide_obs r.toOwner sideId bytes
  | processRxQueue => exact receiveRounds_obs _ r
  | receiveNext => exact receiveNext_obs r

theorem step_inv {r : Relay} (hinv : OrderInv S Z r.toOwner) (e : Event)
    (hloss : Lossless (r.step S Z E e).toOwner) : OrderInv S Z (r.step S Z E e).toOwner := by
  cases e with
  | rx sideId bytes => exact relayRxSerializedFromSide_inv hinv hloss
  | processRxQueue => exact receiveRounds_inv _ hinv
  | receiveNext => exact receiveNext_inv hinv

theorem Fresh.inv {r : Relay} (h : Fresh r) : OrderInv S Z r.toOwner := by
  have hpassed : r.toOwner.passed = [] := by
    unfold passed received
    rw [h.obs, h.queue]
    rfl
  have hnew : ∀ sideId ty, r.toOwner.rxState sideId ty = .new := by
    intro sideId ty
    unfold rxState
    rw [h.streams]
    rfl
  refine ⟨⟨?_, ?_, h.released⟩, ?_⟩
  · intro sideId ty
    exact ⟨0, by rw [hnew]; rfl⟩
  · intro sideId ty q bf hbf
    rw [hnew] at hbf
    cases hbf
  · intro sideId ty
    refine ⟨?_, ?_⟩
    · rw [hpassed]
      exact .nil _ _
    · rw [hpassed, hnew]
      rfl

/-- The invariant holds after every run that loses nothing. -/
theorem run_inv {r : Relay} (h : Fresh r) (events : List Event) (hloss : Lossless (r.run S Z E events).toOwner) :
    OrderInv S Z (r.run S Z E events).toOwner := by
  induction events using List.reverseRecOn with
  | nil => exact h.inv
  | append_singleton events e ih =>
    unfold run at hloss ih ⊢
    rw [List.foldl_append, List.foldl_cons, List.foldl_nil] at hloss ⊢
    -- what the last event loses does not undo an earlier loss
    obtain ⟨l, hl⟩ := step_obs (S := S) (Z := Z) (E := E) (events.foldl (fun r e => r.step S Z E e) r) e
    exact step_inv (ih (hloss.of_append hl)) e hloss

/-- **A relay receives each stream by its numbers.** Whatever frames arrive, of whatever streams and on
    whatever sides, and however the drains fall between them: as long as the queue loses nothing and the
    numbers of the stream have not wrapped, the packets of the stream handed to `relay_receive_impl` so
    far came with the numbers `1, .., k`, in that order, and once the queue is drained `k` is the number
    before the expected one. -/
theorem run_receives_inOrder (S : Schema) (Z : Codec) (E : Env) (r : Relay) (h : Fresh r) (events : List Event)
    (sideId : Int32) (ty : UInt32) (hloss : Lossless (r.run S Z E events).toOwner)
    (hused : (numbersOf S Z sideId ty (r.run S Z E events).toOwner.passed).length < 2 ^ 32 - 1) :
    ∃ k, (numbersOf S Z sideId ty (r.run S Z E events).toOwner.received).map UInt32.toNat = List.range' 1 k ∧
      ((r.run S Z E events).rxQueue.items = [] →
        k = ((r.run S Z E events).toOwner.rxState sideId ty).expectedSeq.toNat - 1) := by
  obtain ⟨hseq, hposition⟩ := (run_inv h events hloss).inOrder sideId ty
  generalize (r.run S Z E events).toOwner = o at hseq hposition hused ⊢
  refine ⟨(numbersOf S Z sideId ty o.received).length, ?_, ?_⟩
  · -- what has been received is the first part of what has been passed on
    unfold passed at hseq hused
    rw [numbersOf_append, List.length_append] at hused
    rw [numbersOf_append, InSequence.append_iff] at hseq
    have hnumbers : InSequence (fun m (q : UInt32) => q.toNat = (seqAt m).toNat) 0
        (numbersOf S Z sideId ty o.received) := by
      refine hseq.1.imp ?_
      intro m q hq
      rw [hq]
    rw [hnumbers.map_eq, map_toNat_seqAt (by omega)]
  · intro hdrained
    have hall : o.passed = o.received := by
      unfold passed
      rw [hdrained, List.append_nil]
    rw [hall] at hposition hused
    rw [hposition, toNat_seqAt_of_lt hused, Nat.add_sub_cancel]

/-- A position report under the number `seq`. -/
def gpsFrame (seq : UInt32) : Bytes := serializePacketWithReliable defaultTestSchema (.absent 16) gpsPacket ⟨0, seq, 0⟩

/-- Two reports in the wrong order, and a drain. -/
def gpsRelayEvents : List Event := [.rx 0 (gpsFrame 2), .rx 0 (gpsFrame 1), .processRxQueue]

def gpsRelay : Relay := .new [.serialized [] true]

theorem run_receives_inOrder_gps : ∃ k,
    (numbersOf defaultTestSchema (.absent 16) 0 100
      (gpsRelay.run defaultTestSchema (.absent 16) .calm gpsRelayEvents).toOwner.received).map UInt32.toNat =
        List.range' 1 k ∧ k = 2 := by
  have hfresh : Fresh gpsRelay := ⟨rfl, rfl, rfl, rfl⟩
  obtain ⟨hloss, hused, hdrained, hexpected⟩ :
      Lossless (gpsRelay.run defaultTestSchema (.absent 16) .calm gpsRelayEvents).toOwner ∧
      (numbersOf defaultTestSchema (.absent 16) 0 100
        (gpsRelay.run defaultTestSchema (.absent 16) .calm gpsRelayEvents).toOwner.passed).length < 2 ^ 32 - 1 ∧
      (gpsRelay.run defaultTestSchema (.absent 16) .calm gpsRelayEvents).rxQueue.items = [] ∧
      ((gpsRelay.run defaultTestSchema (.absent 16) .calm gpsRelayEvents).toOwner.rxState 0 100).expectedSeq.toNat - 1 =
        2 := by decide +kernel
  obtain ⟨k, hk, hlast⟩ := run_receives_inOrder defaultTestSchema (.absent 16) .calm gpsRelay hfresh gpsRelayEvents
    0 100 hloss hused
  exact ⟨k, hk, (hlast hdrained).trans hexpected⟩

end Relay

end SedsNet
