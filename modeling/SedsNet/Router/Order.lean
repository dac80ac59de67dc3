import SedsNet.Relay
import SedsNet.Router.Emits

/-!
# Streams through the queue of a router

`seds_router_rx_serialized_packet_to_queue_from_side` and `seds_router_process_rx_queue`. Where a relay
puts every frame at the back of its queue, a router puts a frame that released others at the front, and
what it released at the back. Packets of the same stream that still wait are then overtaken.

`Orderly` is the condition under which this does not happen, on the frame that arrives and the router it
arrives at; `Router.run_receives_increasing` is what holds of a run that keeps to it, and
`run_overtakes` a run that does not.
-/

set_option autoImplicit false

namespace SedsNet

open Lib

/-! ## One arrival -/

namespace Owner

variable {S : Schema} {Z : Codec} {E : Env}

theorem routerRxSerializedToQueueFromSide_arrives (o : Owner) (sideId : UInt32) (bytes : Bytes) :
    FrameArrives S Z E (fun o item => (o.routerEnqueue item).2) o sideId bytes
      (o.routerRxSerializedToQueueFromSide S Z E sideId bytes).2 := by
  unfold routerRxSerializedToQueueFromSide peekFrameInfo
  have hpeeked : KeepsRx o (o.observe (.compare (comparedNames S ((Read.peekFrameInfo S Z bytes true).trace 0)))) :=
    .observe o rfl
  generalize o.observe (.compare (comparedNames S ((Read.peekFrameInfo S Z bytes true).trace 0))) = o₀ at hpeeked ⊢
  cases hpeek : SedsNet.peekFrameInfo S Z bytes true with
  | none => exact .dropped hpeeked
  | some frame =>
    dsimp only
    split
    · exact .dropped hpeeked
    · cases hack : frame.ackOnly with
      | true => exact .dropped (hpeeked.trans (ingestAck_emits S E o₀ sideId hack bytes))
      | false =>
        rw [if_neg (by simp)]
        unfold deserializePacket
        have hparsed := hpeeked.trans (.observe o₀ (e := .compare (comparedNames S
          ((Read.deserializePacket S Z bytes).trace 0))) rfl)
        generalize o₀.observe (.compare (comparedNames S ((Read.deserializePacket S Z bytes).trace 0))) = o₁ at hparsed ⊢
        cases SedsNet.deserializePacket S Z bytes with
        | none => exact .dropped hparsed
        | some pkt =>
          dsimp only
          cases hproc : o₁.processReliableIngress S E sideId.toInt32 frame pkt bytes with
          | mk ok o₂ =>
            cases ok with
            | false => exact .held hparsed hpeek hack hproc
            | true => exact .queued hparsed hpeek hack hproc

theorem routerEnqueue_obs (o : Owner) (item : RxItem) : ∃ l, (o.routerEnqueue item).2.obs = o.obs ++ l := by
  unfold routerEnqueue
  obtain ⟨l, hl⟩ := enqueueRxAt_obs (!o.reliableReleasedRx.isEmpty) o item
  generalize o.enqueueRxAt (!o.reliableReleasedRx.isEmpty) item = r at hl ⊢
  obtain ⟨ok, o'⟩ := r
  cases ok with
  | false => exact ⟨l, hl⟩
  | true =>
    obtain ⟨l', hl'⟩ := flushReleased_obs o'
    exact ⟨l ++ l', by rw [← List.append_assoc, ← hl]; exact hl'⟩

/-- Where a router puts a frame, and what it released, in its queue. -/
def routerPlace (queue : List RxItem) (item : RxItem) (released : List RxItem) : List RxItem :=
  if released.isEmpty then queue ++ [item] else item :: queue ++ released

theorem routerEnqueue_of_lossless {o : Owner} {item : RxItem} (h : Lossless (o.routerEnqueue item).2) :
    ∃ size peak, (o.routerEnqueue item).2 =
      { o with rxQueue := ⟨routerPlace o.rxQueue.items item o.reliableReleasedRx, size, o.rxQueue.wrapped⟩, reliableReleasedRx := [],
               peak := peak } := by
  have hone : Lossless (o.enqueueRxAt (!o.reliableReleasedRx.isEmpty) item).2 := by
    unfold routerEnqueue at h
    generalize o.enqueueRxAt (!o.reliableReleasedRx.isEmpty) item = r at h ⊢
    obtain ⟨ok, o'⟩ := r
    cases ok with
    | false => exact h
    | true =>
      obtain ⟨l, hl⟩ := flushReleased_obs o'
      exact h.of_append hl
  obtain ⟨size, peak, heq⟩ := enqueueRxAt_of_lossless _ hone
  unfold routerEnqueue at h ⊢
  rw [heq] at h ⊢
  obtain ⟨size', peak', hflush⟩ := flushReleased_of_lossless h
  refine ⟨size', peak', hflush.trans ?_⟩
  unfold routerPlace
  cases o.reliableReleasedRx with
  | nil => simp
  | cons first rest => rfl

theorem routerRxSerializedToQueueFromSide_obs (o : Owner) (sideId : UInt32) (bytes : Bytes) :
    ∃ l, (o.routerRxSerializedToQueueFromSide S Z E sideId bytes).2.obs = o.obs ++ l :=
  (routerRxSerializedToQueueFromSide_arrives o sideId bytes).obs routerEnqueue_obs

/-! ## Orderly arrivals -/

/-- The frame `bytes`, on `side`, does not disturb the stream of `ty` on `sideId`. Only the frame with the
    stream's expected number can: when the next number is buffered already, and packets of the stream still
    wait in `rx_queue`; or when its number has been used before, after the numbers have wrapped. -/
def Orderly (S : Schema) (Z : Codec) (sideId : Int32) (ty : UInt32) (o : Owner) (side : UInt32) (bytes : Bytes) : Prop :=
  side.toInt32 = sideId → orderedNumber S Z bytes = some (ty, (o.rxState sideId ty).expectedSeq) →
    ((o.rxState sideId ty).buffered.lookup (nextSeq (o.rxState sideId ty).expectedSeq) ≠ none →
      numbersOf S Z sideId ty o.rxQueue.items = []) ∧
    ((o.rxState sideId ty).expectedSeq = 1 → numbersOf S Z sideId ty o.passed = [])

instance (S : Schema) (Z : Codec) (sideId : Int32) (ty : UInt32) (o : Owner) (side : UInt32) (bytes : Bytes) :
    Decidable (Orderly S Z sideId ty o side bytes) :=
  inferInstanceAs (Decidable (_ → _ → _ ∧ _))

/-- The stream of `ty` on `sideId` is in order, and its numbers have not wrapped. -/
structure StreamInv (S : Schema) (Z : Codec) (sideId : Int32) (ty : UInt32) (o : Owner) : Prop where
  streams : StreamsOk S Z o
  inOrder : InOrder S Z o sideId ty
  unwrapped : (numbersOf S Z sideId ty o.passed).length ≤ 2 ^ 32 - 1
  buffered : (o.rxState sideId ty).buffered.lookup 1 = none

section

variable {sideId : Int32} {ty : UInt32} {o o' : Owner}

theorem KeepsRx.streamInv (h : KeepsRx o o') (hinv : StreamInv S Z sideId ty o) : StreamInv S Z sideId ty o' := by
  refine ⟨h.streamsOk hinv.streams, h.inOrder hinv.inOrder, ?_, ?_⟩
  · rw [h.passed]
    exact hinv.unwrapped
  · rw [h.rxState]
    exact hinv.buffered

/-- The number of an orderly frame that is passed on is the expected one, and has its conditions. -/
theorem Arrives.orderly {o₂ : Owner} {cur : RxItem} {items : List RxItem} (hin : Arrives S Z o o₂ cur true items)
    {side : UInt32} {bytes : Bytes} (hside : cur.srcSide = some side.toInt32) (horigin : cur.origin = bytes)
    (horderly : Orderly S Z sideId ty o side bytes) {q : UInt32} (hq : cur.number S Z sideId ty = some q) :
    (items ≠ [] → numbersOf S Z sideId ty o.rxQueue.items = []) ∧ (q = 1 → numbersOf S Z sideId ty o.passed = []) := by
  have hexpected := hin.expected sideId ty q rfl hq
  obtain ⟨hcur, hnumber⟩ := number_eq_some.mp hq
  rw [horigin, hexpected] at hnumber
  obtain ⟨hwaits, hfirst⟩ := horderly (Option.some.inj (hside.symm.trans hcur)) hnumber
  rw [← hexpected] at hwaits hfirst
  exact ⟨fun hitems => hwaits (hin.frees sideId ty q hq hitems), hfirst⟩

/-- An orderly frame, and what it released, follow what waits of their stream. -/
theorem Arrives.numbers_routerPlace {o₂ : Owner} {cur : RxItem} {items : List RxItem}
    (hin : Arrives S Z o o₂ cur true items) {side : UInt32} {bytes : Bytes} (hside : cur.srcSide = some side.toInt32)
    (horigin : cur.origin = bytes) (horderly : Orderly S Z sideId ty o side bytes) :
    numbersOf S Z sideId ty (routerPlace o.rxQueue.items cur items) =
      numbersOf S Z sideId ty o.rxQueue.items ++ numbersOf S Z sideId ty (cur :: items) := by
  unfold routerPlace
  cases hitems : items with
  | nil => exact numbersOf_append o.rxQueue.items [cur]
  | cons first rest =>
    have hne : items ≠ [] := hitems ▸ List.cons_ne_nil first rest
    rw [← hitems]
    have hplace : (if items.isEmpty = true then o.rxQueue.items ++ [cur] else cur :: o.rxQueue.items ++ items) =
        [cur] ++ o.rxQueue.items ++ items := by
      rw [hitems]
      rfl
    have hsplit : numbersOf S Z sideId ty (cur :: items) = numbersOf S Z sideId ty [cur] ++ numbersOf S Z sideId ty items :=
      numbersOf_append [cur] items
    rw [hplace, hsplit, numbersOf_append, numbersOf_append]
    cases hcur : cur.number S Z sideId ty with
    | none =>
      -- a frame of another stream
      have hnone : numbersOf S Z sideId ty [cur] = [] := numbersOf_eq_nil (by simpa using hcur)
      rw [hin.own sideId ty hcur, hnone]
      simp
    | some q =>
      rw [(hin.orderly hside horigin horderly hcur).1 hne]
      simp

/-- An orderly frame does not take its stream past the last number. -/
theorem Arrives.unwrapped {o₂ : Owner} {cur : RxItem} {items : List RxItem} (hin : Arrives S Z o o₂ cur true items)
    {side : UInt32} {bytes : Bytes} (hside : cur.srcSide = some side.toInt32) (horigin : cur.origin = bytes)
    (horderly : Orderly S Z sideId ty o side bytes) (hinv : StreamInv S Z sideId ty o) :
    (numbersOf S Z sideId ty o.passed).length + (numbersOf S Z sideId ty (cur :: items)).length ≤ 2 ^ 32 - 1 := by
  have hbound := hinv.unwrapped
  have hposition := hinv.inOrder.position
  have hlast : seqAt (2 ^ 32 - 1) = 1 := by decide
  have hsplit : numbersOf S Z sideId ty (cur :: items) = numbersOf S Z sideId ty [cur] ++ numbersOf S Z sideId ty items :=
    numbersOf_append [cur] items
  rw [hsplit]
  cases hcur : cur.number S Z sideId ty with
  | none =>
    have hnone : numbersOf S Z sideId ty [cur] = [] := numbersOf_eq_nil (by simpa using hcur)
    rw [hin.own sideId ty hcur, hnone]
    simpa using hbound
  | some q =>
    have hone : numbersOf S Z sideId ty [cur] = [q] := by
      unfold numbersOf
      rw [List.filterMap_cons_some hcur, List.filterMap_nil]
    have hseq := (hin.inSequence sideId ty _ hposition).2
    unfold passedOn at hseq
    rw [if_pos rfl, numbersOf_append, InSequence.append_iff, hone] at hseq
    rw [hone, List.length_append, List.length_singleton]
    by_contra hover
    by_cases hfull : (numbersOf S Z sideId ty o.passed).length = 2 ^ 32 - 1
    · -- the number 1, for the second time
      have hq : q = 1 := by
        rw [hin.expected sideId ty q rfl hcur, hposition, hfull, hlast]
      have hnone := (hin.orderly hside horigin horderly hcur).2 hq
      rw [hnone] at hfull
      cases hfull
    · -- the number 1, out of the buffer
      have hi : 2 ^ 32 - 1 - ((numbersOf S Z sideId ty o.passed).length + 1) < (numbersOf S Z sideId ty items).length := by
        omega
      have hwrapped := hseq.2 _ _ (List.getElem?_eq_getElem hi)
      have hat : (numbersOf S Z sideId ty o.passed).length + [q].length +
          (2 ^ 32 - 1 - ((numbersOf S Z sideId ty o.passed).length + 1)) = 2 ^ 32 - 1 := by
        rw [List.length_singleton]
        omega
      rw [hat, hlast] at hwrapped
      exact hin.freed sideId ty 1 (hwrapped ▸ List.getElem_mem hi) hinv.buffered

/-- **An orderly frame arrives at a router.** With room in the queue, its stream stays in order. -/
theorem routerRxSerializedToQueueFromSide_inv (hinv : StreamInv S Z sideId ty o) {side : UInt32} {bytes : Bytes}
    (horderly : Orderly S Z sideId ty o side bytes)
    (hloss : Lossless (o.routerRxSerializedToQueueFromSide S Z E side bytes).2) :
    StreamInv S Z sideId ty (o.routerRxSerializedToQueueFromSide S Z E side bytes).2 := by
  have harrives := routerRxSerializedToQueueFromSide_arrives (S := S) (Z := Z) (E := E) o side bytes
  generalize (o.routerRxSerializedToQueueFromSide S Z E side bytes).2 = o' at harrives hloss ⊢
  rcases harrives.spec routerPlace (fun o item => routerEnqueue_of_lossless) hinv.streams hloss with
    hkeeps | ⟨o₂, cur, ok, items, hin, hside, horigin, hstreams, hreleased, hobs, hqueue⟩
  · exact hkeeps.streamInv hinv
  · have hplaced : numbersOf S Z sideId ty o'.rxQueue.items =
        numbersOf S Z sideId ty o.rxQueue.items ++ numbersOf S Z sideId ty (passedOn ok cur items) := by
      rw [hqueue]
      cases ok with
      | false =>
        rw [hin.alone rfl]
        exact (List.append_nil _).symm
      | true => exact hin.numbers_routerPlace hside horigin horderly
    have hpassed := hin.numbers_passed hobs hplaced
    refine ⟨hin.streamsOk hinv.streams hstreams hreleased, hin.inOrder hinv.inOrder hstreams hpassed, ?_, ?_⟩
    · rw [hpassed, List.length_append]
      cases ok with
      | false =>
        rw [hin.alone rfl]
        exact hinv.unwrapped
      | true => exact hin.unwrapped hside horigin horderly hinv
    · have hstate : o'.rxState sideId ty = o₂.rxState sideId ty := by
        unfold rxState
        rw [hstreams]
      rw [hstate]
      cases hone : (o₂.rxState sideId ty).buffered.lookup 1 with
      | none => rfl
      | some bf =>
        rcases (hin.buffered sideId ty 1 bf hone).2 with hold | hearly
        · exact absurd hinv.buffered hold
        · rw [hinv.inOrder.position, UInt32.lt_iff_toNat_lt, toNat_seqAt] at hearly
          exact absurd hearly (Nat.not_lt.mpr (Nat.le_add_left 1 _))

end

end Owner

/-! ## Drains and runs -/

namespace Router

open Owner

section

variable (S : Schema) (Z : Codec) (E : Env)

/-- What happens to a router: arrivals, drains, and single rounds of a drain that ran out of time, or that
    an arrival interrupts from a callback (`mu` is recursive). -/
inductive Event where
  | rx (sideId : UInt32) (bytes : Bytes)
  | processRxQueue
  | receiveNext

def step (r : Router) : Event → Router
  | .rx sideId bytes => (r.rxSerializedPacketToQueueFromSide S Z E sideId bytes).2
  | .processRxQueue => r.processRxQueue S Z E
  | .receiveNext => r.receiveNext S Z E

def run (r : Router) (events : List Event) : Router := events.foldl (fun r e => r.step S Z E e) r

/-- The event does not disturb the stream of `ty` on `sideId`. -/
def OrderlyStep (sideId : Int32) (ty : UInt32) (r : Router) : Event → Prop
  | .rx side bytes => Orderly S Z sideId ty r.toOwner side bytes
  | _ => True

/-- None of the events does. -/
def OrderlyRun (sideId : Int32) (ty : UInt32) (r : Router) : List Event → Prop
  | [] => True
  | e :: events => OrderlyStep S Z sideId ty r e ∧ OrderlyRun sideId ty (r.step S Z E e) events

instance decidableOrderlyStep (sideId : Int32) (ty : UInt32) (r : Router) :
    (e : Event) → Decidable (OrderlyStep S Z sideId ty r e)
  | .rx side bytes => inferInstanceAs (Decidable (Orderly S Z sideId ty r.toOwner side bytes))
  | .processRxQueue => .isTrue trivial
  | .receiveNext => .isTrue trivial

instance decidableOrderlyRun (sideId : Int32) (ty : UInt32) :
    (r : Router) → (events : List Event) → Decidable (OrderlyRun S Z E sideId ty r events)
  | _, [] => .isTrue trivial
  | r, e :: events =>
    have := decidableOrderlyRun sideId ty (r.step S Z E e) events
    inferInstanceAs (Decidable (OrderlyStep S Z sideId ty r e ∧ OrderlyRun S Z E sideId ty (r.step S Z E e) events))

/-- A router before its first frame, whatever its sides, endpoints and configuration. -/
structure Fresh (r : Router) : Prop where
  queue : r.rxQueue.items = []
  released : r.reliableReleasedRx = []
  streams : r.reliableRx = ∅
  obs : r.obs = []

end

variable {S : Schema} {Z : Codec} {E : Env} {sideId : Int32} {ty : UInt32}

theorem showFrame_keepsRx (r : Router) (wireBytes : Bytes) :
    KeepsRx r.toOwner (showFrame S Z E r wireBytes).toOwner := by
  unfold showFrame
  split
  · exact .refl _
  · unfold Owner.peekFrameInfo
    have hpeeked : KeepsRx r.toOwner (r.toOwner.observe
        (.compare (comparedNames S ((Read.peekFrameInfo S Z wireBytes true).trace 0)))) := .observe r.toOwner rfl
    dsimp only
    split
    · exact hpeeked
    · split
      · exact hpeeked
      · exact hpeeked.trans (dispatchLocalSerializedHandlers_emits S (allows_keepsRx S) E r.locals _ _ _)

/-- Receipt leaves the receiving half alone. -/
theorem routerReceiveImpl_keepsRx (r : Router) (pkt : PacketData) (srcSide : Option Int32) :
    KeepsRx r.toOwner (routerReceiveImpl S Z E r pkt srcSide).toOwner := by
  have hreceives : Receives (fun _ => True) (fun e => e.ingress = false) (fun _ => True) S E r pkt srcSide :=
    ⟨fun o => packetId_keepsRx S o pkt, fun o => sourcePacketId_keepsRx S o pkt, fun _ _ _ => trivial, trivial,
      fun _ _ _ => rfl, fun _ _ => trivial, fun _ _ _ => trivial, fun _ e he => Obs.not_ingress_of_fromPeer (peerEvent_fromPeer he),
      fun _ _ _ => trivial, trivial, fun _ => rfl⟩
  exact (routerReceiveImpl_does (K := fun _ _ => True) S (allows_keepsRx S) Z E (hreceives.admits S E rfl)).emits

/-- A round of the drain takes the front packet from the queue, shows its frame, and hands it to the
    receiver; or it finds the queue empty. -/
theorem receiveNext_spec (r : Router) :
    r.rxQueue.items = [] ∧ r.receiveNext S Z E = r ∨
    ∃ item queue o, r.rxQueue.items = item :: queue.items ∧ KeepsRx { r.toOwner with rxQueue := queue } o ∧
      KeepsRx (o.observe (.receive item)) (r.receiveNext S Z E).toOwner := by
  unfold receiveNext Bounded.pop
  cases hitems : r.rxQueue.items with
  | nil => exact .inl ⟨rfl, rfl⟩
  | cons item rest =>
    exact .inr ⟨item, ⟨rest, _, _⟩, _, rfl,
      showFrame_keepsRx (r.setOwner { r.toOwner with rxQueue := ⟨rest, _, _⟩ }) item.wireBytes,
      routerReceiveImpl_keepsRx (Router.setOwner _ _) item.pkt item.srcSide⟩

theorem receiveNext_obs (r : Router) : ∃ l, (r.receiveNext S Z E).obs = r.obs ++ l := by
  rcases receiveNext_spec (S := S) (Z := Z) (E := E) r with ⟨-, heq⟩ | ⟨item, queue, o, -, hshown, hkeeps⟩
  · exact ⟨[], by rw [heq, List.append_nil]⟩
  · obtain ⟨l, hl, -⟩ := hshown.trace
    obtain ⟨l', hl', -⟩ := hkeeps.trace
    exact ⟨l ++ (.receive item :: l'), by rw [hl', Owner.observe, hl]; simp⟩

/-- A round keeps the stream in order: the packet only changes places. -/
theorem receiveNext_inv {r : Router} (hinv : StreamInv S Z sideId ty r.toOwner) :
    StreamInv S Z sideId ty (r.receiveNext S Z E).toOwner := by
  rcases receiveNext_spec (S := S) (Z := Z) (E := E) r with ⟨-, heq⟩ | ⟨item, queue, o, hitems, hshown, hkeeps⟩
  · rw [heq]
    exact hinv
  · obtain ⟨l, hl, hquiet⟩ := hshown.trace
    have hpassed : (o.observe (.receive item)).passed = r.toOwner.passed := by
      have hreceived : o.received = r.toOwner.received := received_of_trace hl hquiet
      unfold passed received Owner.observe at *
      rw [List.filterMap_append, hreceived, hshown.queue, hitems, List.append_assoc]
      rfl
    have hstate : ∀ s t, (o.observe (.receive item)).rxState s t = r.toOwner.rxState s t :=
      fun s t => hshown.rxState s t
    refine hkeeps.streamInv ⟨⟨?_, ?_, hshown.released.trans hinv.streams.released⟩, ⟨?_, ?_⟩, ?_, ?_⟩
    · intro s t
      rw [hstate]
      exact hinv.streams.position s t
    · intro s t q bf hbf
      rw [hstate] at hbf
      exact hinv.streams.buffered s t q bf hbf
    · rw [hpassed]
      exact hinv.inOrder.inSequence
    · rw [hpassed, hstate]
      exact hinv.inOrder.position
    · rw [hpassed]
      exact hinv.unwrapped
    · rw [hstate]
      exact hinv.buffered

theorem receiveRounds_obs (rounds : Nat) (r : Router) : ∃ l, (receiveRounds S Z E rounds r).obs = r.obs ++ l := by
  induction rounds generalizing r with
  | zero => exact ⟨[], (List.append_nil _).symm⟩
  | succ rounds ih =>
    obtain ⟨l, hl⟩ := receiveNext_obs (S := S) (Z := Z) (E := E) r
    obtain ⟨l', hl'⟩ := ih (r.receiveNext S Z E)
    exact ⟨l ++ l', by rw [← List.append_assoc, ← hl]; exact hl'⟩

theorem receiveRounds_inv (rounds : Nat) {r : Router} (hinv : StreamInv S Z sideId ty r.toOwner) :
    StreamInv S Z sideId ty (receiveRounds S Z E rounds r).toOwner := by
  induction rounds generalizing r with
  | zero => exact hinv
  | succ rounds ih => exact ih (receiveNext_inv hinv)

theorem step_obs (r : Router) (e : Event) : ∃ l, (r.step S Z E e).obs = r.obs ++ l := by
  cases e with
  | rx side bytes => exact routerRxSerializedToQueueFromSide_obs r.toOwner side bytes
  | processRxQueue => exact receiveRounds_obs _ r
  | receiveNext => exact receiveNext_obs r

theorem step_inv {r : Router} (hinv : StreamInv S Z sideId ty r.toOwner) {e : Event}
    (horderly : OrderlyStep S Z sideId ty r e) (hloss : Lossless (r.step S Z E e).toOwner) :
    StreamInv S Z sideId ty (r.step S Z E e).toOwner := by
  cases e with
  | rx side bytes => exact routerRxSerializedToQueueFromSide_inv hinv horderly hloss
  | processRxQueue => exact receiveRounds_inv _ hinv
  | receiveNext => exact receiveNext_inv hinv

theorem run_obs (r : Router) (events : List Event) : ∃ l, (r.run S Z E events).obs = r.obs ++ l := by
  induction events generalizing r with
  | nil => exact ⟨[], (List.append_nil _).symm⟩
  | cons e events ih =>
    obtain ⟨l, hl⟩ := step_obs (S := S) (Z := Z) (E := E) r e
    obtain ⟨l', hl'⟩ := ih (r.step S Z E e)
    exact ⟨l ++ l', by rw [← List.append_assoc, ← hl]; exact hl'⟩

/-- The invariant holds after every orderly run that loses nothing. -/
theorem run_inv {r : Router} (hinv : StreamInv S Z sideId ty r.toOwner) {events : List Event}
    (horderly : OrderlyRun S Z E sideId ty r events) (hloss : Lossless (r.run S Z E events).toOwner) :
    StreamInv S Z sideId ty (r.run S Z E events).toOwner := by
  induction events generalizing r with
  | nil => exact hinv
  | cons e events ih =>
    obtain ⟨l, hl⟩ := run_obs (S := S) (Z := Z) (E := E) (r.step S Z E e) events
    exact ih (step_inv hinv horderly.1 (hloss.of_append hl)) horderly.2 hloss

theorem Fresh.inv {r : Router} (h : Fresh r) : StreamInv S Z sideId ty r.toOwner := by
  have hpassed : r.toOwner.passed = [] := by
    unfold passed received
    rw [h.obs, h.queue]
    rfl
  have hnew : ∀ s t, r.toOwner.rxState s t = .new := by
    intro s t
    unfold rxState
    rw [h.streams]
    rfl
  refine ⟨⟨?_, ?_, h.released⟩, ⟨?_, ?_⟩, ?_, ?_⟩
  · intro s t
    exact ⟨0, by rw [hnew]; rfl⟩
  · intro s t q bf hbf
    rw [hnew] at hbf
    cases hbf
  · rw [hpassed]
    exact .nil _ _
  · rw [hpassed, hnew]
    rfl
  · rw [hpassed]
    exact Nat.zero_le _
  · rw [hnew]
    rfl

/-- **An orderly run receives its stream by the numbers.** Whatever frames arrive, of whatever streams and
    on whatever sides, and however the drains fall between them: as long as the queue loses nothing, and no
    arrival disturbs the stream, its packets are handed to `router_receive_impl` with rising numbers. -/
theorem run_receives_increasing (S : Schema) (Z : Codec) (E : Env) (r : Router) (h : Fresh r) (events : List Event)
    (sideId : Int32) (ty : UInt32) (horderly : OrderlyRun S Z E sideId ty r events)
    (hloss : Lossless (r.run S Z E events).toOwner) :
    (numbersOf S Z sideId ty (r.run S Z E events).toOwner.received).Pairwise (· < ·) := by
  obtain ⟨-, ⟨hseq, -⟩, hbound, -⟩ := run_inv h.inv horderly hloss
  generalize (r.run S Z E events).toOwner = o at hseq hbound ⊢
  unfold passed at hseq hbound
  rw [numbersOf_append, List.length_append] at hbound
  rw [numbersOf_append, InSequence.append_iff] at hseq
  have hnumbers : InSequence (fun m (q : UInt32) => q.toNat = (seqAt m).toNat) 0
      (numbersOf S Z sideId ty o.received) := by
    refine hseq.1.imp ?_
    intro m q hq
    rw [hq]
  have hrange := hnumbers.map_eq
  rw [map_toNat_seqAt (by omega)] at hrange
  have hrising : ((numbersOf S Z sideId ty o.received).map UInt32.toNat).Pairwise (· < ·) := by
    rw [hrange]
    exact List.pairwise_lt_range'
  rw [List.pairwise_map] at hrising
  exact hrising.imp UInt32.lt_iff_toNat_lt.mpr

def gpsRouter : Router := .new .Sink (ascii "R") [.serialized [] true] []

/-- Three reports in the wrong order, with a drain before the gap is filled. -/
def drainedEvents : List Event :=
  [.rx 0 (Relay.gpsFrame 1), .rx 0 (Relay.gpsFrame 3), .processRxQueue, .rx 0 (Relay.gpsFrame 2), .processRxQueue]

theorem run_receives_increasing_drained :
    numbersOf defaultTestSchema (.absent 16) 0 100
        (gpsRouter.run defaultTestSchema (.absent 16) .calm drainedEvents).toOwner.received = [1, 2, 3] ∧
      (numbersOf defaultTestSchema (.absent 16) 0 100
        (gpsRouter.run defaultTestSchema (.absent 16) .calm drainedEvents).toOwner.received).Pairwise (· < ·) := by
  have hfresh : Fresh gpsRouter := ⟨rfl, rfl, rfl, rfl⟩
  obtain ⟨horderly, hloss, hnumbers⟩ :
      OrderlyRun defaultTestSchema (.absent 16) .calm 0 100 gpsRouter drainedEvents ∧
      Lossless (gpsRouter.run defaultTestSchema (.absent 16) .calm drainedEvents).toOwner ∧
      numbersOf defaultTestSchema (.absent 16) 0 100
        (gpsRouter.run defaultTestSchema (.absent 16) .calm drainedEvents).toOwner.received = [1, 2, 3] := by
    unfold drainedEvents Relay.gpsFrame
    rw [defaultTestSchema_eq]
    decide +kernel
  exact ⟨hnumbers, run_receives_increasing defaultTestSchema (.absent 16) .calm gpsRouter hfresh drainedEvents 0 100
    horderly hloss⟩

/-- The same three reports, with no drain before the gap is filled. -/
def undrainedEvents : List Event :=
  [.rx 0 (Relay.gpsFrame 1), .rx 0 (Relay.gpsFrame 3), .rx 0 (Relay.gpsFrame 2), .processRxQueue]

/-- The report that fills the gap overtakes the one that waits. -/
theorem run_overtakes :
    Lossless (gpsRouter.run defaultTestSchema (.absent 16) .calm undrainedEvents).toOwner ∧
      numbersOf defaultTestSchema (.absent 16) 0 100
        (gpsRouter.run defaultTestSchema (.absent 16) .calm undrainedEvents).toOwner.received = [2, 1, 3] ∧
      ¬ (numbersOf defaultTestSchema (.absent 16) 0 100
        (gpsRouter.run defaultTestSchema (.absent 16) .calm undrainedEvents).toOwner.received).Pairwise (· < ·) := by
  unfold undrainedEvents Relay.gpsFrame
  rw [defaultTestSchema_eq]
  decide +kernel

end Router

end SedsNet
