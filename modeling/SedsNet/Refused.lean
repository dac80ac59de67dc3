import SedsNet.Lib.Machine
import SedsNet.Relay.Moves

/-!
# Frames that are refused

A frame that a side delivers for the receive queue may be refused: it cannot be parsed, its side is closed, or its packet is
larger than the budget of the queues. The last of these is found out last. By then the reliable layer has counted the frame:
its number is taken, its acknowledgement is queued, and the frames that have waited for it are released, with nobody to put
them into the queue. A relay has noted the packet as a recent one as well.

`routerSpills` and `relaySpills` are the frames for which that happens. Any other frame that is refused leaves no trace, and
no released frame is left behind.
-/

set_option autoImplicit false

namespace SedsNet

open Lib Owner

namespace Owner

/-! ## What refusal means -/

/-- What serialized ingress writes to is as before. -/
structure SameIngress (o o' : Owner) : Prop where
  streams : o'.reliableRx = o.reliableRx
  released : o'.reliableReleasedRx = o.reliableReleasedRx
  recentIds : o'.recentIds = o.recentIds
  recentSet : o'.recentSet = o.recentSet
  rx : o'.rxQueue = o.rxQueue
  tx : o'.txQueue = o.txQueue

/-- A call that fails leaves no trace, and no call leaves released frames behind. -/
structure Clean (o : Owner) (p : SedsResult × Owner) : Prop where
  refused : p.1 ≠ SEDS_OK → SameIngress o p.2
  released : o.reliableReleasedRx = [] → p.2.reliableReleasedRx = []

/-- The reliable layer counts the frame as received: it takes its number, or acknowledges it out of order. -/
def counts (o : Owner) (sideId : UInt32) (frame : FrameInfoLite) : Bool :=
  match frame.reliable with
  | none => false
  | some hdr =>
    hdr.flags &&& kReliableFlagUnsequenced == 0 &&
      (hdr.flags &&& kReliableFlagUnordered != 0 || hdr.seq == (o.rxState sideId.toInt32 frame.envelope.ty).expectedSeq)

section

variable (S : Schema) (Z : Codec)

/-- A router counts the frame, and has no room for it. -/
def routerSpills (o : Owner) (sideId : UInt32) (bytes : Bytes) : Bool :=
  match SedsNet.peekFrameInfo S Z bytes true, SedsNet.deserializePacket S Z bytes with
  | some frame, some pkt =>
    o.ingressOpen sideId && !frame.ackOnly && o.counts sideId frame &&
      decide (RxItem.byteCost ⟨pkt, some sideId.toInt32, bytes, bytes⟩ > o.memory.maxQueueBudget)
  | _, _ => false

/-- A relay counts the frame or notes it as a recent one, and has no room for it. -/
def relaySpills (o : Owner) (sideId : UInt32) (bytes : Bytes) : Bool :=
  match SedsNet.peekFrameInfo S Z bytes true, SedsNet.deserializePacket S Z bytes with
  | some frame, some pkt =>
    o.ingressOpen sideId && !frame.ackOnly &&
      (o.counts sideId frame ||
        frame.reliable.isNone && decide (SedsNet.packetId S pkt ^^^ (sideId.toUInt64 <<< 56) ∉ o.recentSet)) &&
      decide (RxItem.byteCost ⟨pkt, some sideId.toInt32, [], bytes⟩ > o.memory.maxQueueBudget)
  | _, _ => false

end

/-! ## The steps -/

section

variable {o o' o'' : Owner}

theorem SameIngress.refl (o : Owner) : SameIngress o o := ⟨rfl, rfl, rfl, rfl, rfl, rfl⟩

theorem SameIngress.clean (h : SameIngress o o') (rc : SedsResult) : Clean o (rc, o') :=
  ⟨fun _ => h, fun hempty => h.released.trans hempty⟩

/-- A call that succeeds. -/
theorem Clean.of_ok (h : o.reliableReleasedRx = [] → o'.reliableReleasedRx = []) : Clean o (SEDS_OK, o') :=
  ⟨fun hrc => absurd rfl hrc, h⟩

theorem SameIngress.trans (h : SameIngress o o') (h' : SameIngress o' o'') : SameIngress o o'' :=
  ⟨h'.streams.trans h.streams, h'.released.trans h.released, h'.recentIds.trans h.recentIds,
    h'.recentSet.trans h.recentSet, h'.rx.trans h.rx, h'.tx.trans h.tx⟩

theorem SameIngress.trans_clean (h : SameIngress o o') {p : SedsResult × Owner} (hp : Clean o' p) : Clean o p :=
  ⟨fun hrc => h.trans (hp.refused hrc), fun hempty => hp.released (h.released.trans hempty)⟩

/-- The last step, where the frame was not counted or there is room for it. -/
theorem enqueueAndFlush_clean (front : Bool) (item : RxItem)
    (h : SameIngress o o' ∨ item.byteCost ≤ o'.memory.maxQueueBudget) :
    Clean o (match o'.enqueueRxAt front item with
      | (false, o) => (SEDS_PACKET_TOO_LARGE, o)
      | (true, o) => (SEDS_OK, o.flushReleased)) := by
  unfold enqueueRxAt enqueueBounded
  by_cases hcost : item.byteCost > o'.memory.maxQueueBudget
  · rw [if_pos hcost]
    have hsame := h.resolve_right (UInt64.not_le.mpr hcost)
    have hlost : SameIngress o (o'.observe (.lost item)) :=
      ⟨hsame.streams, hsame.released, hsame.recentIds, hsame.recentSet, hsame.rx, hsame.tx⟩
    exact hlost.clean _
  · rw [if_neg hcost]
    exact .of_ok fun _ => rfl

end

section

variable {S : Schema} {E : Env} {o : Owner} {sideId : Int32}

theorem queueReliableControl_released {controlTy ty seq : UInt32} (hcontrol : isInternalControlType controlTy = true) :
    (o.queueReliableControl S E controlTy sideId ty seq).reliableReleasedRx = o.reliableReleasedRx :=
  (queueReliableControl_emits (P := fun _ => True) (Q := fun _ => True) S ⟨fun _ _ _ _ _ _ _ => trivial, fun _ _ _ _ => trivial⟩ E o
    hcontrol sideId ty seq).released

/-- A frame that is held back releases nothing. -/
theorem processReliableIngress_held {frame : FrameInfoLite} {pkt : PacketData} {bytes : Bytes} {o' : Owner}
    (h : o.processReliableIngress S E sideId frame pkt bytes = (false, o')) : o'.reliableReleasedRx = o.reliableReleasedRx := by
  unfold processReliableIngress at h
  cases hhdr : frame.reliable with
  | none =>
    rw [hhdr] at h
    cases h
  | some hdr =>
    rw [hhdr] at h
    dsimp only at h
    split at h
    · cases h
      exact (handleAck_emits (P := fun _ => True) (Q := fun _ => True) S o sideId frame.envelope.ty hdr.ack).released
    · split at h
      · cases h
      · split at h
        · cases h
        · split at h
          · cases h
            exact queueReliableControl_released (by decide)
          · split at h
            · cases h
              exact (queueReliableControl_released (by decide)).trans (queueReliableControl_released (by decide))
            · cases h

/-- A frame that is passed on without being counted leaves the owner as it is. -/
theorem processReliableIngress_uncounted {sideId : UInt32} {frame : FrameInfoLite} {pkt : PacketData} {bytes : Bytes} {o' : Owner}
    (hack : frame.ackOnly = false) (hcounts : o.counts sideId frame = false)
    (h : o.processReliableIngress S E sideId.toInt32 frame pkt bytes = (true, o')) : o' = o := by
  unfold FrameInfoLite.ackOnly at hack
  unfold counts at hcounts
  unfold processReliableIngress at h
  cases hhdr : frame.reliable with
  | none =>
    rw [hhdr] at h
    cases h
    rfl
  | some hdr =>
    rw [hhdr] at h hcounts hack
    dsimp only at h hcounts hack
    rw [if_neg (by rw [ne_eq, not_not]; exact bne_eq_false_iff_eq.mp hack)] at h
    split at h
    · cases h
      rfl
    · rename_i hsequenced
      rw [ne_eq, not_not] at hsequenced
      rw [hsequenced, beq_self_eq_true, Bool.true_and, Bool.or_eq_false_iff] at hcounts
      rw [if_neg (by rw [ne_eq, not_not]; exact bne_eq_false_iff_eq.mp hcounts.1)] at h
      split at h
      · cases h
      · split at h
        · cases h
        · rename_i hold hearly
          have hseq := UInt32.le_antisymm (UInt32.not_lt.mp hearly) (UInt32.not_lt.mp hold)
          rw [hseq, beq_self_eq_true] at hcounts
          cases hcounts.2

end

/-- A look at the frame changes nothing that matters here. -/
structure Looks (o o' : Owner) : Prop where
  same : SameIngress o o'
  counts : o'.counts = o.counts
  ingressOpen : o'.ingressOpen = o.ingressOpen
  memory : o'.memory = o.memory

theorem Looks.observe (o : Owner) (e : Obs) : Looks o (o.observe e) := ⟨⟨rfl, rfl, rfl, rfl, rfl, rfl⟩, rfl, rfl, rfl⟩

section

variable (S : Schema) (Z : Codec) (E : Env)

/-- A frame that carries a packet, from the parser to the queue: nothing has happened so far and there is room for it if it
    is counted, or there is room for it in any case. -/
theorem ingestFrame_clean {o o₀ : Owner} {sideId : UInt32} {frame : FrameInfoLite} {bytes : Bytes} (hack : frame.ackOnly = false)
    (front : Owner → Bool) (item : PacketData → RxItem) (hreleased : o₀.reliableReleasedRx = o.reliableReleasedRx)
    (hcase : SameIngress o o₀ ∧ (∀ pkt, SedsNet.deserializePacket S Z bytes = some pkt → o₀.counts sideId frame = true →
        (item pkt).byteCost ≤ o₀.memory.maxQueueBudget) ∨
      ∃ pkt, SedsNet.deserializePacket S Z bytes = some pkt ∧ (item pkt).byteCost ≤ o₀.memory.maxQueueBudget) :
    Clean o (match o₀.deserializePacket S Z bytes with
      | (none, o) => (SEDS_DESERIALIZE, o)
      | (some pkt, o) =>
        match o.processReliableIngress S E sideId.toInt32 frame pkt bytes with
        | (false, o) => (SEDS_OK, o)
        | (true, o) =>
          match o.enqueueRxAt (front o) (item pkt) with
          | (false, o) => (SEDS_PACKET_TOO_LARGE, o)
          | (true, o) => (SEDS_OK, o.flushReleased)) := by
  unfold deserializePacket
  have hparsed := Looks.observe o₀ (.compare (comparedNames S ((Read.deserializePacket S Z bytes).trace 0)))
  generalize o₀.observe (.compare (comparedNames S ((Read.deserializePacket S Z bytes).trace 0))) = o₁ at hparsed ⊢
  cases hdecoded : SedsNet.deserializePacket S Z bytes with
  | none =>
    rcases hcase with ⟨hsame, -⟩ | ⟨pkt, hpkt, -⟩
    · exact (hsame.trans hparsed.same).clean _
    · rw [hdecoded] at hpkt
      cases hpkt
  | some pkt =>
    dsimp only
    cases hingress : o₁.processReliableIngress S E sideId.toInt32 frame pkt bytes with
    | mk ok o₂ =>
      have hmoved : Performs (fun _ => True) (fun _ => True) (fun _ => True) o₁
          (o₁.processReliableIngress S E sideId.toInt32 frame pkt bytes).2 :=
        processReliableIngress_performs S ⟨fun _ _ _ _ _ _ _ => trivial, fun _ _ _ _ => trivial⟩ E o₁ _ frame trivial bytes
      rw [hingress] at hmoved
      have hmemory : o₂.memory = o₀.memory := hmoved.memory.trans hparsed.memory
      cases ok with
      | false =>
        have hheld := (processReliableIngress_held hingress).trans (hparsed.same.released.trans hreleased)
        exact .of_ok hheld.trans
      | true =>
        apply enqueueAndFlush_clean
        rw [hmemory]
        rcases hcase with ⟨hsame, hroom⟩ | ⟨pkt', hpkt', hroom⟩
        · cases hcounted : o₀.counts sideId frame with
          | false =>
            rw [← hparsed.counts] at hcounted
            rw [processReliableIngress_uncounted hack hcounted hingress]
            exact .inl (hsame.trans hparsed.same)
          | true => exact .inr (hroom pkt hdecoded hcounted)
        · rw [hdecoded, Option.some.injEq] at hpkt'
          subst hpkt'
          exact .inr hroom

/-- A frame that only acknowledges. -/
theorem ingestAck_clean {o : Owner} {sideId : UInt32} {frame : FrameInfoLite} (hack : frame.ackOnly = true) (bytes : Bytes) :
    Clean o (SEDS_OK, o.ingestAck S E sideId frame bytes) :=
  .of_ok (ingestAck_emits (P := fun _ => True) (Q := fun _ => True) S E o sideId hack bytes).released.trans

/-- **A router's serialized ingress is clean**, unless the frame spills. -/
theorem routerRx_clean {o : Owner} {sideId : UInt32} {bytes : Bytes} (h : o.routerSpills S Z sideId bytes = false) :
    Clean o (o.routerRxSerializedToQueueFromSide S Z E sideId bytes) := by
  unfold routerRxSerializedToQueueFromSide peekFrameInfo
  unfold routerSpills at h
  have hpeeked := Looks.observe o (.compare (comparedNames S ((Read.peekFrameInfo S Z bytes true).trace 0)))
  generalize o.observe (.compare (comparedNames S ((Read.peekFrameInfo S Z bytes true).trace 0))) = o₁ at hpeeked ⊢
  cases hframe : SedsNet.peekFrameInfo S Z bytes true with
  | none => exact hpeeked.same.clean _
  | some frame =>
    dsimp only
    split
    · exact hpeeked.same.clean _
    · rename_i hclosed
      have hopen : o.ingressOpen sideId = true := by
        rw [← hpeeked.ingressOpen]
        simpa using hclosed
      cases hack : frame.ackOnly with
      | true => exact hpeeked.same.trans_clean (ingestAck_clean S E hack bytes)
      | false =>
        rw [if_neg (by simp)]
        apply hpeeked.same.trans_clean
        refine ingestFrame_clean S Z E hack (fun o => !o.reliableReleasedRx.isEmpty)
          (fun pkt => ⟨pkt, some sideId.toInt32, bytes, bytes⟩) rfl (.inl ⟨.refl _, ?_⟩)
        intro pkt hdecoded hcounted
        rw [hpeeked.counts] at hcounted
        rw [hframe, hdecoded] at h
        dsimp only at h
        rw [hopen, hack, hcounted, Bool.not_false, Bool.true_and, Bool.true_and, Bool.true_and, decide_eq_false_iff_not] at h
        rw [hpeeked.memory]
        exact UInt64.not_lt.mp h

/-- The check for a frame that was received already: nothing happens to one with a reliable header. -/
theorem relayDuplicate_reliable {o : Owner} {sideId : UInt32} {frame : FrameInfoLite} {bytes : Bytes}
    (h : frame.reliable.isNone = false) : o.relayDuplicate S Z sideId frame bytes = (false, o) := by
  unfold relayDuplicate
  cases hhdr : frame.reliable with
  | none =>
    rw [hhdr] at h
    cases h
  | some hdr => rfl

/-- A frame without a reliable header is not counted. -/
theorem counts_of_isNone {o : Owner} {sideId : UInt32} {frame : FrameInfoLite} (h : frame.reliable.isNone = true) :
    o.counts sideId frame = false := by
  unfold counts
  rw [Option.isNone_iff_eq_none.mp h]

/-- The check for a frame without one: it was received, or it is noted if it can be parsed. -/
theorem relayDuplicate_plain (o : Owner) (sideId : UInt32) {frame : FrameInfoLite} (bytes : Bytes)
    (h : frame.reliable.isNone = true) :
    (o.relayDuplicate S Z sideId frame bytes).2.memory = o.memory ∧
    (o.relayDuplicate S Z sideId frame bytes).2.reliableReleasedRx = o.reliableReleasedRx ∧
    (SameIngress o (o.relayDuplicate S Z sideId frame bytes).2 ∨
      (o.relayDuplicate S Z sideId frame bytes).1 = false ∧
        ∃ pkt, SedsNet.deserializePacket S Z bytes = some pkt ∧ SedsNet.packetId S pkt ^^^ (sideId.toUInt64 <<< 56) ∉ o.recentSet) := by
  unfold relayDuplicate packetIdFromWire
  rw [Option.isNone_iff_eq_none.mp h]
  cases hdecoded : SedsNet.deserializePacket S Z bytes with
  | none =>
    unfold deserializePacket
    rw [hdecoded]
    exact ⟨rfl, rfl, .inl ⟨rfl, rfl, rfl, rfl, rfl, rfl⟩⟩
  | some pkt =>
    unfold deserializePacket packetId
    rw [hdecoded]
    dsimp only
    split
    · exact ⟨rfl, rfl, .inl ⟨rfl, rfl, rfl, rfl, rfl, rfl⟩⟩
    · rename_i hfresh
      have hpushed : ∀ (o : Owner) (id : UInt64), Emits (fun _ => True) (fun _ => True) o (o.pushRecent id) :=
        fun o _ => pushRecent_emits o trivial
      exact ⟨(hpushed _ _).memory, (hpushed _ _).released, .inr ⟨rfl, pkt, rfl, hfresh⟩⟩

/-- **A relay's serialized ingress is clean**, unless the frame spills. -/
theorem relayRx_clean {o : Owner} {sideId : UInt32} {bytes : Bytes} (h : o.relaySpills S Z sideId bytes = false) :
    Clean o (o.relayRxSerializedFromSide S Z E sideId bytes) := by
  unfold relayRxSerializedFromSide peekFrameInfo
  unfold relaySpills at h
  have hpeeked := Looks.observe o (.compare (comparedNames S ((Read.peekFrameInfo S Z bytes true).trace 0)))
  generalize o.observe (.compare (comparedNames S ((Read.peekFrameInfo S Z bytes true).trace 0))) = o₁ at hpeeked ⊢
  cases hframe : SedsNet.peekFrameInfo S Z bytes true with
  | none => exact hpeeked.same.clean _
  | some frame =>
    dsimp only
    split
    · exact hpeeked.same.clean _
    · rename_i hclosed
      have hopen : o.ingressOpen sideId = true := by
        rw [← hpeeked.ingressOpen]
        simpa using hclosed
      cases hack : frame.ackOnly with
      | true => exact hpeeked.same.trans_clean (ingestAck_clean S E hack bytes)
      | false =>
        rw [if_neg (by simp)]
        apply hpeeked.same.trans_clean
        -- a packet that is counted or noted fits
        have hroom : ∀ pkt, SedsNet.deserializePacket S Z bytes = some pkt → (o₁.counts sideId frame = true ∨
            frame.reliable.isNone = true ∧ SedsNet.packetId S pkt ^^^ (sideId.toUInt64 <<< 56) ∉ o₁.recentSet) →
            RxItem.byteCost ⟨pkt, some sideId.toInt32, [], bytes⟩ ≤ o₁.memory.maxQueueBudget := by
          intro pkt hdecoded hcounted
          rw [hpeeked.counts, hpeeked.same.recentSet] at hcounted
          rw [hframe, hdecoded] at h
          dsimp only at h
          have htaken : (o.counts sideId frame || frame.reliable.isNone &&
              decide (SedsNet.packetId S pkt ^^^ (sideId.toUInt64 <<< 56) ∉ o.recentSet)) = true := by
            rw [Bool.or_eq_true, Bool.and_eq_true, decide_eq_true_iff]
            exact hcounted
          rw [hopen, hack, htaken, Bool.not_false, Bool.true_and, Bool.true_and, Bool.true_and, decide_eq_false_iff_not] at h
          rw [hpeeked.memory]
          exact UInt64.not_lt.mp h
        cases hnone : frame.reliable.isNone with
        | false =>
          rw [relayDuplicate_reliable S Z hnone]
          exact ingestFrame_clean S Z E hack (fun _ => false) (fun pkt => ⟨pkt, some sideId.toInt32, [], bytes⟩) rfl
            (.inl ⟨.refl _, fun pkt hdecoded hcounted => hroom pkt hdecoded (.inl hcounted)⟩)
        | true =>
          obtain ⟨hmemory, hreleased, hcase⟩ := relayDuplicate_plain S Z o₁ sideId bytes hnone
          generalize o₁.relayDuplicate S Z sideId frame bytes = p at hmemory hreleased hcase ⊢
          obtain ⟨duplicate, o₂⟩ := p
          cases duplicate with
          | true => exact .of_ok hreleased.trans
          | false =>
            apply ingestFrame_clean S Z E hack (fun _ => false) (fun pkt => ⟨pkt, some sideId.toInt32, [], bytes⟩) hreleased
            rcases hcase with hsame | ⟨-, pkt, hdecoded, hfresh⟩
            · refine .inl ⟨hsame, ?_⟩
              intro pkt hdecoded hcounted
              rw [counts_of_isNone hnone] at hcounted
              cases hcounted
            · refine .inr ⟨pkt, hdecoded, ?_⟩
              rw [hmemory]
              exact hroom pkt hdecoded (.inr ⟨hnone, hfresh⟩)

end

end Owner

/-! ## No act leaves released frames behind -/

namespace Router

/-- The act takes a frame that spills. -/
def spills (S : Schema) (Z : Codec) (r : Router) : Act → Bool
  | .rxSerializedPacketToQueueFromSide sideId bytes => r.toOwner.routerSpills S Z sideId bytes
  | _ => false

end Router

namespace Owner

theorem submitRx_released (o : Owner) (item : RxItem) (enforced : Bool) (h : o.reliableReleasedRx = []) :
    (o.submitRx item enforced).2.reliableReleasedRx = [] := by
  have hqueued := enqueueRxAt_released false o item
  unfold submitRx enqueueRx
  generalize o.enqueueRxAt false item = p at hqueued ⊢
  obtain ⟨ok, o'⟩ := p
  have hempty : o'.reliableReleasedRx = [] := hqueued.trans h
  cases ok with
  | false => exact hempty
  | true =>
    dsimp only
    split
    · exact (enforceSharedQueueBudget_performs (P := fun _ => True) (Q := fun _ => True) (R := fun _ => False) o' fun _ => trivial).released
        (fun _ h => h) hempty
    · exact hempty

theorem rxPacketFromSide_released (S : Schema) {o : Owner} {sideId : UInt32} {view : SedsPacketView}
    (h : o.reliableReleasedRx = []) : (o.rxPacketFromSide S sideId view).2.reliableReleasedRx = [] := by
  unfold rxPacketFromSide
  cases packetFromView S view with
  | none => exact h
  | some pkt =>
    dsimp only
    split
    · exact h
    · exact submitRx_released o _ true h

end Owner

namespace Router

section

variable (S : Schema) (Z : Codec) (E : Env)

/-- The packet is received after its frame has released others, and they go to the queue. -/
theorem receiveSerializedFromSide_released {r : Router} {sideId : UInt32} {bytes : Bytes} (h : r.reliableReleasedRx = []) :
    (receiveSerializedFromSide S Z E r sideId bytes).2.reliableReleasedRx = [] := by
  unfold receiveSerializedFromSide Owner.peekFrameInfo
  have hpeeked := Looks.observe r.toOwner (.compare (comparedNames S ((Read.peekFrameInfo S Z bytes true).trace 0)))
  generalize r.toOwner.observe (.compare (comparedNames S ((Read.peekFrameInfo S Z bytes true).trace 0))) = o₁ at hpeeked ⊢
  have hempty : o₁.reliableReleasedRx = [] := hpeeked.same.released.trans h
  cases SedsNet.peekFrameInfo S Z bytes true with
  | none => exact hempty
  | some frame =>
    dsimp only
    split
    · exact hempty
    · cases hack : frame.ackOnly with
      | true => exact (ingestAck_clean S E hack bytes).released hempty
      | false =>
        rw [if_neg (by simp)]
        unfold Owner.deserializePacket
        have hparsed := Looks.observe o₁ (.compare (comparedNames S ((Read.deserializePacket S Z bytes).trace 0)))
        generalize o₁.observe (.compare (comparedNames S ((Read.deserializePacket S Z bytes).trace 0))) = o₂ at hparsed ⊢
        cases SedsNet.deserializePacket S Z bytes with
        | none => exact hparsed.same.released.trans hempty
        | some pkt =>
          dsimp only
          cases hingress : o₂.processReliableIngress S E sideId.toInt32 frame pkt bytes with
          | mk ok o₃ =>
            cases ok with
            | false => exact (processReliableIngress_held hingress).trans (hparsed.same.released.trans hempty)
            | true => rfl

omit Z E in
theorem transmitMessageQueue_released {r : Router} {view : SedsPacketView} (h : r.reliableReleasedRx = []) :
    (transmitMessageQueue S r view).2.reliableReleasedRx = [] := by
  unfold transmitMessageQueue
  cases packetFromView S view with
  | none => exact h
  | some pkt =>
    dsimp only
    split
    · exact submitRx_released r.toOwner _ true h
    · exact (submitTx_performs (P := fun _ => True) (Q := fun _ => True) (R := fun _ => False) r.toOwner trivial
        (fun _ => trivial) true).released (fun _ h => h) h

/-- **No act leaves released frames behind**, unless it takes a frame that spills. -/
theorem perform_released {r : Router} {act : Act} (hspills : r.spills S Z act = false) (h : r.reliableReleasedRx = []) :
    (perform S Z E r act).reliableReleasedRx = [] := by
  have hdemands : Demands (fun _ => True) (fun _ => True) (fun _ => True) (fun _ => True) (fun _ _ => True) S Z E r act :=
    (Sends.of_any (fun _ _ => trivial) (fun _ => trivial) (fun _ _ => trivial) (fun _ _ _ _ => trivial)
      (fun _ _ _ _ _ _ _ => trivial) (fun _ _ => trivial) (fun _ _ _ _ _ _ _ =>
        ⟨trivial, fun _ _ => trivial, fun _ _ _ _ => trivial, trivial⟩)).demands
  have hgrants : Grants (fun _ => True) (fun _ => True) S := grants_of_silent fun _ _ => trivial
  have hkept : Demands (fun _ => True) (fun _ => True) (fun _ => False) (fun _ => True) (fun _ _ => True) S Z E r act →
      (perform S Z E r act).reliableReleasedRx = [] :=
    fun hdemands => (perform_moves S hgrants Z E hdemands).owner.released (fun _ h => h) h
  cases act with
  | transmitMessageQueue view => exact transmitMessageQueue_released S h
  | transmitMessage view =>
    change (transmitMessage S E r view).2.reliableReleasedRx = []
    unfold transmitMessage
    cases packetFromView S view with
    | none => exact h
    | some pkt =>
      dsimp only
      split
      · exact (dispatchLocalPacketHandlers_emits (P := fun _ => True) S hgrants.allows E _ _ pkt r.toOwner).released.trans h
      · exact transmitMessageQueue_released S h
  | receiveSerializedFromSide sideId bytes => exact receiveSerializedFromSide_released S Z E h
  | rxSerializedPacketToQueue bytes =>
    change (rxSerializedPacketToQueue S Z r bytes).2.reliableReleasedRx = []
    unfold rxSerializedPacketToQueue Owner.deserializePacket
    cases SedsNet.deserializePacket S Z bytes with
    | none => exact h
    | some pkt => exact submitRx_released _ _ false h
  | rxPacketToQueue view =>
    change (rxPacketToQueue S r view).2.reliableReleasedRx = []
    unfold rxPacketToQueue
    cases packetFromView S view with
    | none => exact h
    | some pkt => exact submitRx_released _ _ true h
  | rxSerializedPacketToQueueFromSide sideId bytes => exact (routerRx_clean S Z E hspills).released h
  | rxPacketToQueueFromSide sideId view => exact rxPacketFromSide_released S h
  | _ => exact hkept hdemands

end

end Router

namespace Relay

/-- The act takes a frame that spills. -/
def spills (S : Schema) (Z : Codec) (r : Relay) : Act → Bool
  | .rxSerializedFromSide sideId bytes => r.toOwner.relaySpills S Z sideId bytes
  | _ => false

theorem perform_released (S : Schema) (Z : Codec) (E : Env) {r : Relay} {act : Act} (hspills : r.spills S Z act = false)
    (h : r.reliableReleasedRx = []) : (perform S Z E r act).reliableReleasedRx = [] := by
  have hdemands : Demands (fun _ => True) (fun _ => True) (fun _ => True) S Z E r act :=
    Sends.demands ⟨fun _ _ => trivial, fun _ => trivial, fun _ _ => trivial, fun _ _ => trivial, fun _ _ _ _ => trivial,
      fun _ _ _ _ _ _ => trivial, fun _ _ _ _ _ => trivial,
      fun _ _ _ _ _ _ _ => ⟨trivial, fun _ _ => trivial, fun _ _ _ _ => trivial, trivial⟩⟩
  have hgrants : Router.Grants (fun _ => True) (fun _ => True) S := Router.grants_of_silent fun _ _ => trivial
  have hkept : Demands (fun _ => True) (fun _ => True) (fun _ => False) S Z E r act →
      (perform S Z E r act).reliableReleasedRx = [] :=
    fun hdemands => (perform_moves S hgrants Z E hdemands).released (fun _ h => h) h
  cases act with
  | rxSerializedFromSide sideId bytes => exact (relayRx_clean S Z E hspills).released h
  | rxPacketFromSide sideId view => exact rxPacketFromSide_released S h
  | _ => exact hkept hdemands

end Relay

/-! ## Runs -/

/-- **A frame that is refused leaves no trace**: in every run in which no frame spills, a call of serialized ingress that fails
    leaves the streams, the recent ids and the queues alone, and released frames are never left behind. -/
theorem refusedFrame_unnoticed (S : Schema) (Z : Codec) (E : Env) :
    (∀ (r : Router) (acts : List Router.Act), r.reliableReleasedRx = [] →
      Along (Router.perform S Z E) (fun r act => r.spills S Z act = false) r acts →
      (runFrom (Router.perform S Z E) r acts).reliableReleasedRx = [] ∧
      ∀ before sideId bytes after, acts = before ++ .rxSerializedPacketToQueueFromSide sideId bytes :: after →
        ((runFrom (Router.perform S Z E) r before).rxSerializedPacketToQueueFromSide S Z E sideId bytes).1 ≠ SEDS_OK →
        SameIngress (runFrom (Router.perform S Z E) r before).toOwner
          ((runFrom (Router.perform S Z E) r before).rxSerializedPacketToQueueFromSide S Z E sideId bytes).2.toOwner) ∧
    ∀ (r : Relay) (acts : List Relay.Act), r.reliableReleasedRx = [] →
      Along (Relay.perform S Z E) (fun r act => r.spills S Z act = false) r acts →
      (runFrom (Relay.perform S Z E) r acts).reliableReleasedRx = [] ∧
      ∀ before sideId bytes after, acts = before ++ .rxSerializedFromSide sideId bytes :: after →
        ((runFrom (Relay.perform S Z E) r before).rxSerializedFromSide S Z E sideId bytes).1 ≠ SEDS_OK →
        SameIngress (runFrom (Relay.perform S Z E) r before).toOwner
          ((runFrom (Relay.perform S Z E) r before).rxSerializedFromSide S Z E sideId bytes).2.toOwner := by
  refine ⟨?_, ?_⟩
  · intro r acts hnew hfits
    refine ⟨hfits.invariant hnew fun r act hspills h => Router.perform_released S Z E hspills h, ?_⟩
    rintro before sideId bytes after rfl hrc
    obtain ⟨-, hact, -⟩ := along_append.mp hfits
    exact (routerRx_clean S Z E hact).refused hrc
  · intro r acts hnew hfits
    refine ⟨hfits.invariant hnew fun r act hspills h => Relay.perform_released S Z E hspills h, ?_⟩
    rintro before sideId bytes after rfl hrc
    obtain ⟨-, hact, -⟩ := along_append.mp hfits
    exact (relayRx_clean S Z E hact).refused hrc

/-- A router whose queues have room for a hundred bytes, which is less than a report takes. -/
def tightRouter : Router :=
  { Router.new .Sink (ascii "R") [.serialized [] true] [] with memory := ⟨100, 128⟩ }

/-- A relay with half of that. -/
def tightRelay : Relay := { Relay.gpsRelay with memory := ⟨50, 128⟩ }

/-- The second report comes first and is held; what comes then is no frame. -/
theorem refusedFrame_unnoticed_garbled :
    SameIngress (runFrom (Router.perform defaultTestSchema (.absent 16) .calm) tightRouter
        [.rxSerializedPacketToQueueFromSide 0 (Relay.gpsFrame 2)]).toOwner
      ((runFrom (Router.perform defaultTestSchema (.absent 16) .calm) tightRouter
        [.rxSerializedPacketToQueueFromSide 0 (Relay.gpsFrame 2)]).rxSerializedPacketToQueueFromSide defaultTestSchema (.absent 16)
          .calm 0 [1]).2.toOwner ∧
    SameIngress (runFrom (Relay.perform defaultTestSchema (.absent 16) .calm) tightRelay
        [.rxSerializedFromSide 0 (Relay.gpsFrame 2)]).toOwner
      ((runFrom (Relay.perform defaultTestSchema (.absent 16) .calm) tightRelay
        [.rxSerializedFromSide 0 (Relay.gpsFrame 2)]).rxSerializedFromSide defaultTestSchema (.absent 16) .calm 0 [1]).2.toOwner := by
  obtain ⟨hrouter, hrelay⟩ := refusedFrame_unnoticed defaultTestSchema (.absent 16) .calm
  refine ⟨?_, ?_⟩
  · exact (hrouter tightRouter [.rxSerializedPacketToQueueFromSide 0 (Relay.gpsFrame 2), .rxSerializedPacketToQueueFromSide 0 [1]]
      rfl (by decide +kernel)).2 [.rxSerializedPacketToQueueFromSide 0 (Relay.gpsFrame 2)] 0 [1] [] rfl (by decide +kernel)
  · exact (hrelay tightRelay [.rxSerializedFromSide 0 (Relay.gpsFrame 2), .rxSerializedFromSide 0 [1]] rfl (by decide +kernel)).2
      [.rxSerializedFromSide 0 (Relay.gpsFrame 2)] 0 [1] [] rfl (by decide +kernel)

/-- The first report is refused after the second was held: its number is taken, it is acknowledged, and the second report is
    released and left behind. -/
theorem refusedFrame_noticed :
    ((runFrom (Router.perform defaultTestSchema (.absent 16) .calm) tightRouter
      [.rxSerializedPacketToQueueFromSide 0 (Relay.gpsFrame 2)]).rxSerializedPacketToQueueFromSide defaultTestSchema (.absent 16)
        .calm 0 (Relay.gpsFrame 1)).1 = SEDS_PACKET_TOO_LARGE ∧
    ¬ SameIngress (runFrom (Router.perform defaultTestSchema (.absent 16) .calm) tightRouter
        [.rxSerializedPacketToQueueFromSide 0 (Relay.gpsFrame 2)]).toOwner
      ((runFrom (Router.perform defaultTestSchema (.absent 16) .calm) tightRouter
        [.rxSerializedPacketToQueueFromSide 0 (Relay.gpsFrame 2)]).rxSerializedPacketToQueueFromSide defaultTestSchema (.absent 16)
          .calm 0 (Relay.gpsFrame 1)).2.toOwner ∧
    ((runFrom (Router.perform defaultTestSchema (.absent 16) .calm) tightRouter
      [.rxSerializedPacketToQueueFromSide 0 (Relay.gpsFrame 2)]).rxSerializedPacketToQueueFromSide defaultTestSchema (.absent 16)
        .calm 0 (Relay.gpsFrame 1)).2.reliableReleasedRx.length = 1 := by
  obtain ⟨hrc, hbefore, hafter⟩ :
      ((runFrom (Router.perform defaultTestSchema (.absent 16) .calm) tightRouter
        [.rxSerializedPacketToQueueFromSide 0 (Relay.gpsFrame 2)]).rxSerializedPacketToQueueFromSide defaultTestSchema (.absent 16)
          .calm 0 (Relay.gpsFrame 1)).1 = SEDS_PACKET_TOO_LARGE ∧
      (runFrom (Router.perform defaultTestSchema (.absent 16) .calm) tightRouter
        [.rxSerializedPacketToQueueFromSide 0 (Relay.gpsFrame 2)]).reliableReleasedRx.length = 0 ∧
      ((runFrom (Router.perform defaultTestSchema (.absent 16) .calm) tightRouter
        [.rxSerializedPacketToQueueFromSide 0 (Relay.gpsFrame 2)]).rxSerializedPacketToQueueFromSide defaultTestSchema (.absent 16)
          .calm 0 (Relay.gpsFrame 1)).2.reliableReleasedRx.length = 1 := by
    unfold Relay.gpsFrame
    rw [defaultTestSchema_eq]
    decide +kernel
  refine ⟨hrc, ?_, hafter⟩
  intro hsame
  rw [hsame.released, hbefore] at hafter
  cases hafter

end SedsNet
