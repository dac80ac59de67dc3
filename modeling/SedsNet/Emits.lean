import SedsNet.Cache
import SedsNet.Routes
import SedsNet.Stream

/-!
# What a packet can do to an owner

A packet that is received, and a packet that is sent, run through many functions: hop and end-to-end
acknowledgements, return routes, discovery, callbacks. None of them touches the receiving half, and all
they leave behind is packets in the transmit queue, held frames and entries in the trace.

`Emits P Q o o'` says this: from `o` to `o'` the receiving half and the configuration stay, new packets in
the transmit queue are in `P`, new entries of the trace and newly held frames are in `Q`, and the transmit
queue stays accounted for. There is one lemma for each function, over any `P` and `Q` that allow what the
function does.
-/

set_option autoImplicit false

namespace SedsNet

/-- A handler is called, or a control packet is queued: what every function may do. -/
def Obs.plain : Obs → Bool
  | .packetHandler _ _ => true
  | .serializedHandler _ _ => true
  | .managedVariable _ _ => true
  | .control _ _ _ _ => true
  | _ => false

/-- A peer-to-peer handler is called. -/
def Obs.fromPeer : Obs → Bool
  | .datagram _ _ _ => true
  | .streamEvent _ _ _ _ => true
  | _ => false

/-- Neither goes to a side, nor queues a packet again, nor changes the configuration, nor is an announcement. -/
def Obs.silent : Obs → Bool
  | .requeues _ => false
  | .transmit _ _ => false
  | .packetTx _ _ => false
  | .sends _ _ => false
  | .number _ _ _ _ => false
  | .hears _ _ => false
  | .configures => false
  | _ => true

theorem Obs.silent_of_plain {e : Obs} (h : e.plain = true) : e.silent = true := by
  cases e <;> first | rfl | cases h

theorem Obs.silent_of_fromPeer {e : Obs} (h : e.fromPeer = true) : e.silent = true := by
  cases e <;> first | rfl | cases h

/-- The side a stream's key names. -/
def sideOfKey (key : UInt64) : Int32 := (key >>> 32).toUInt32.toInt32

/-- Some frame made from a packet: bare, or with a reliable header. -/
def Encodes (S : Schema) (Z : Codec) (bytes : Bytes) (pkt : PacketData) : Prop :=
  bytes = serializePacket S Z pkt ∨ ∃ hdr, bytes = serializePacketWithReliable S Z pkt hdr

/-- A frame that goes to a side: the header, if there is one, has a number, and no acknowledgement. -/
def Frames (S : Schema) (Z : Codec) (bytes : Bytes) (pkt : PacketData) : Prop :=
  bytes = serializePacket S Z pkt ∨
    ∃ flags ∈ [0, kReliableFlagUnordered], ∃ seq, bytes = serializePacketWithReliable S Z pkt ⟨flags, seq, 0⟩

theorem Frames.encodes {S : Schema} {Z : Codec} {bytes : Bytes} {pkt : PacketData} (h : Frames S Z bytes pkt) : Encodes S Z bytes pkt := by
  rcases h with hbare | ⟨flags, -, seq, hframe⟩
  · exact .inl hbare
  · exact .inr ⟨⟨flags, seq, 0⟩, hframe⟩

namespace Owner

/-- The transmit queue is accounted for. -/
abbrev TxSound (o : Owner) : Prop := o.txQueue.Sound TxItem.byteCost o.memory.maxQueueBudget

/-- The receive queue is accounted for. -/
abbrev RxSound (o : Owner) : Prop := o.rxQueue.Sound RxItem.byteCost o.memory.maxQueueBudget

/-- `size_t` can count what is queued: no more bytes than that ever were in memory at one time, or the budget is
    far below them. -/
def Countable (o : Owner) : Prop := o.peak < 2 ^ 64 ∨ 3 * o.memory.maxQueueBudget.toNat < 2 ^ 64

/-- Every item of the transmit queue is within the budget. -/
def TxFits (o : Owner) : Prop := ∀ item ∈ o.txQueue.items, item.byteCost ≤ o.memory.maxQueueBudget

/-- Both queues are accounted for. -/
def Accounted (o : Owner) : Prop := o.TxSound ∧ o.RxSound

/-- The return routes are kept within their bound. -/
def ReturnsListed (o : Owner) : Prop :=
  Cached o.tuning.reliableMaxReturnRoutes o.reliableReturnRouteOrder o.reliableReturnRoutes

/-- Whether a transmission is going on stays the same, and unless one is, none is deferred. -/
structure Calm (o o' : Owner) : Prop where
  active : o'.sideTxActive = o.sideTxActive
  deferred : o.sideTxActive = false → o.sideTxDeferred = false → o'.sideTxDeferred = false

theorem Calm.of_eq {o o' : Owner} (hactive : o'.sideTxActive = o.sideTxActive) (hdeferred : o'.sideTxDeferred = o.sideTxDeferred) :
    Calm o o' := ⟨hactive, fun _ hnone => hdeferred.trans hnone⟩

theorem Calm.trans {o o' o'' : Owner} (h : Calm o o') (h' : Calm o' o'') : Calm o o'' :=
  ⟨h'.active.trans h.active, fun hidle hnone => h'.deferred (h.active.trans hidle) (h.deferred hidle hnone)⟩

structure Emits (P : TxItem → Prop) (Q : Obs → Prop) (o o' : Owner) : Prop where
  queue : o'.rxQueue = o.rxQueue
  released : o'.reliableReleasedRx = o.reliableReleasedRx
  streams : o'.reliableRx = o.reliableRx
  memory : o'.memory = o.memory
  sides : o'.sides = o.sides
  tuning : o'.tuning = o.tuning
  calm : Calm o o'
  reads : o.clockReads ≤ o'.clockReads
  routes : Relation.ReflTransGen (Learns fun now => ∃ read < o'.clockReads, Q (.hears read now)) o.discoveryRoutes o'.discoveryRoutes
  tx : ∀ item ∈ o'.txQueue.items, item ∈ o.txQueue.items ∨ P item
  held : ∀ key seq bytes, o'.Holds key seq bytes →
    o.Holds key seq bytes ∨
      ∃ sideId ty, key = reliableKey sideId ty ∧ Q (.number sideId ty seq bytes) ∧ .number sideId ty seq bytes ∈ o'.obs
  recent : (∀ id, ¬ Q (.remember id)) → o'.recentIds = o.recentIds ∧ o'.recentSet = o.recentSet
  peak : o.peak ≤ o'.peak
  accounts : o'.Countable → o.Accounted → o'.Accounted
  fits : o.TxFits → o'.TxFits
  returns : o.ReturnsListed → o'.ReturnsListed
  trace : ∃ l, o'.obs = o.obs ++ l ∧ ∀ e ∈ l, Q e

/-- `P` and `Q` allow control packets to be queued. -/
structure Controls (P : TxItem → Prop) (Q : Obs → Prop) (S : Schema) : Prop where
  control : ∀ controlTy ty seq ts sender sideId, isInternalControlType controlTy = true →
    P ⟨makeReliableControlPacket S controlTy ty seq ts sender, none, some sideId, false⟩
  noted : ∀ controlTy sideId ty seq, Q (.control controlTy sideId ty seq)

/-- `P` and `Q` allow what every function may do: queue control packets, and call handlers. -/
structure Allows (P : TxItem → Prop) (Q : Obs → Prop) (S : Schema) : Prop where
  control : ∀ controlTy ty seq ts sender sideId, isInternalControlType controlTy = true →
    P ⟨makeReliableControlPacket S controlTy ty seq ts sender, none, some sideId, false⟩
  plain : ∀ e, e.plain = true → Q e

theorem Allows.controls {P : TxItem → Prop} {Q : Obs → Prop} {S : Schema} (A : Allows P Q S) : Controls P Q S :=
  ⟨A.control, fun _ _ _ _ => A.plain _ rfl⟩

theorem Countable.of_le {o o' : Owner} (h : o'.Countable) (hpeak : o.peak ≤ o'.peak) (hmemory : o'.memory = o.memory) :
    o.Countable := by
  unfold Countable at h ⊢
  rw [hmemory] at h
  exact h.imp_left (Nat.lt_of_le_of_lt hpeak)

/-- An item that is let in fits: both queues and the item were in memory at the same time, or all three are within
    the budget. -/
theorem Countable.fits {o o' : Owner} {cost : UInt64} (h : o'.Countable) (hsound : o.Accounted)
    (hmemory : o'.memory = o.memory) (hcost : cost ≤ o.memory.maxQueueBudget) (hpeak : o.load + cost.toNat ≤ o'.peak) :
    o.load + cost.toNat < 2 ^ 64 := by
  rcases h with hsmall | hbudget
  · exact Nat.lt_of_le_of_lt hpeak hsmall
  · have htx := UInt64.le_iff_toNat_le.mp hsound.1.within
    have hrx := UInt64.le_iff_toNat_le.mp hsound.2.within
    have hcost' := UInt64.le_iff_toNat_le.mp hcost
    rw [hsound.1.bytes] at htx
    rw [hsound.2.bytes] at hrx
    unfold load
    rw [hmemory] at hbudget
    omega

/-- The members `Emits` speaks of, routes and trace apart. -/
def emitFrame (o : Owner) :
    (Bounded RxItem × List RxItem × Map UInt64 ReliableRxState × Memory × List Side × Tuning) ×
      (Bounded TxItem × Map UInt64 ReliableTxState × List UInt64 × Finset UInt64 × Nat × Bool × Bool) × Map UInt64 Int32 × List UInt64 :=
  ((o.rxQueue, o.reliableReleasedRx, o.reliableRx, o.memory, o.sides, o.tuning),
   (o.txQueue, o.reliableTx, o.recentIds, o.recentSet, o.peak, o.sideTxActive, o.sideTxDeferred), o.reliableReturnRoutes, o.reliableReturnRouteOrder)

namespace Emits

variable {P : TxItem → Prop} {Q : Obs → Prop} {o o' o'' : Owner}

theorem active (h : Emits P Q o o') : o'.sideTxActive = o.sideTxActive := h.calm.active

/-- Only routes, the trace and members that `Emits` does not speak of change. -/
theorem of_frame (h : o'.emitFrame = o.emitFrame) (hreads : o.clockReads ≤ o'.clockReads)
    (hroutes : Relation.ReflTransGen (Learns fun now => ∃ read < o'.clockReads, Q (.hears read now)) o.discoveryRoutes
      o'.discoveryRoutes) {l : List Obs}
    (hobs : o'.obs = o.obs ++ l) (hl : ∀ e ∈ l, Q e) : Emits P Q o o' := by
  unfold emitFrame at h
  simp only [Prod.mk.injEq] at h
  obtain ⟨⟨hqueue, hreleased, hstreams, hmemory, hsides, htuning⟩, ⟨htx, hheld, hids, hset, hpeak, hactive, hdeferred⟩, hreturns, horder⟩ := h
  refine ⟨hqueue, hreleased, hstreams, hmemory, hsides, htuning, .of_eq hactive hdeferred, hreads, hroutes, ?_, ?_, fun _ => ⟨hids, hset⟩,
    Nat.le_of_eq hpeak.symm, ?_, ?_, ?_, l, hobs, hl⟩
  · intro item hitem
    rw [htx] at hitem
    exact .inl hitem
  · intro key seq bytes hholds
    unfold Holds at hholds ⊢
    rw [hheld] at hholds
    exact .inl hholds
  · intro _ hsound
    unfold Accounted TxSound RxSound
    rw [htx, hqueue, hmemory]
    exact hsound
  · intro hfits
    unfold TxFits
    rw [htx, hmemory]
    exact hfits
  · intro hlisted
    unfold ReturnsListed
    rw [htuning, hreturns, horder]
    exact hlisted

/-- Only members that `Emits` does not speak of change. -/
theorem of_eq (h : o'.emitFrame = o.emitFrame) (hreads : o.clockReads ≤ o'.clockReads) (hroutes : o'.discoveryRoutes = o.discoveryRoutes)
    (hobs : o'.obs = o.obs) : Emits P Q o o' := by
  refine of_frame h hreads ?_ (hobs.trans (List.append_nil _).symm) (fun _ he => nomatch he)
  rw [hroutes]

theorem refl (o : Owner) : Emits P Q o o := of_eq rfl (Nat.le_refl _) rfl rfl

/-- Only the note of a deferred transmission changes. -/
theorem setDeferred (o : Owner) {deferred : Bool} (h : o.sideTxActive = false → deferred = false) :
    Emits P Q o { o with sideTxDeferred := deferred } :=
  ⟨rfl, rfl, rfl, rfl, rfl, rfl, ⟨rfl, fun hidle _ => h hidle⟩, Nat.le_refl _, .refl, fun _ h => .inl h, fun _ _ _ h => .inl h,
    fun _ => ⟨rfl, rfl⟩, Nat.le_refl _, fun _ h => h, fun h => h, fun h => h, [], (List.append_nil _).symm, fun _ he => absurd he List.not_mem_nil⟩

/-- What has happened stays in the record. -/
theorem mem_obs (h : Emits P Q o o') {e : Obs} (he : e ∈ o.obs) : e ∈ o'.obs := by
  obtain ⟨l, hobs, -⟩ := h.trace
  rw [hobs]
  exact List.mem_append_left l he

/-- What was read earlier was read before a later time. -/
theorem readBefore {m n : Nat} (hle : m ≤ n) (now : UInt64) (h : ∃ read < m, Q (.hears read now)) :
    ∃ read < n, Q (.hears read now) := by
  obtain ⟨read, hlt, hQ⟩ := h
  exact ⟨read, Nat.lt_of_lt_of_le hlt hle, hQ⟩

theorem trans (h : Emits P Q o o') (h' : Emits P Q o' o'') : Emits P Q o o'' := by
  obtain ⟨l, hl, hQ⟩ := h.trace
  obtain ⟨l', hl', hQ'⟩ := h'.trace
  refine ⟨h'.queue.trans h.queue, h'.released.trans h.released, h'.streams.trans h.streams,
    h'.memory.trans h.memory, h'.sides.trans h.sides, h'.tuning.trans h.tuning, h.calm.trans h'.calm,
    h.reads.trans h'.reads, (Learns.mono_run (readBefore h'.reads) h.routes).trans h'.routes, ?_, ?_, ?_, h.peak.trans h'.peak, ?_, ?_,
    fun hlisted => h'.returns (h.returns hlisted), l ++ l', by rw [hl', hl, List.append_assoc], ?_⟩
  · intro item hitem
    rcases h'.tx item hitem with hold | hnew
    · exact h.tx item hold
    · exact .inr hnew
  · intro key seq bytes hholds
    rcases h'.held key seq bytes hholds with hold | hnew
    · rcases h.held key seq bytes hold with hold | ⟨sideId, ty, hkey, hnumber, hmem⟩
      · exact .inl hold
      · exact .inr ⟨sideId, ty, hkey, hnumber, h'.mem_obs hmem⟩
    · exact .inr hnew
  · intro hnone
    exact ⟨(h'.recent hnone).1.trans (h.recent hnone).1, (h'.recent hnone).2.trans (h.recent hnone).2⟩
  · intro hcount hsound
    exact h'.accounts hcount (h.accounts (hcount.of_le h'.peak h'.memory) hsound)
  · exact fun hfits => h'.fits (h.fits hfits)
  · intro e he
    rcases List.mem_append.mp he with he | he
    · exact hQ e he
    · exact hQ' e he

theorem observe (o : Owner) {e : Obs} (he : Q e) : Emits P Q o (o.observe e) := by
  refine of_frame rfl (Nat.le_refl _) .refl rfl ?_
  intro e' he'
  rw [List.mem_singleton.mp he']
  exact he

theorem nowMs (E : Env) (o : Owner) : Emits P Q o (o.nowMs E).2 := of_eq rfl (Nat.le_succ _) rfl rfl

theorem call (E : Env) (o : Owner) {e : Obs} (he : Q e) : Emits P Q o (o.call E e).2 :=
  (observe o he).trans (of_eq rfl (Nat.le_refl _) rfl rfl)

/-- The sending half of a stream is written: what it holds then was held, or is numbered now. -/
theorem setTx (o : Owner) {key : UInt64} {tx : ReliableTxState}
    (hheld : ∀ seq sent, tx.sent.lookup seq = some sent →
      o.Holds key seq sent.bytes ∨ ∃ sideId ty, key = reliableKey sideId ty ∧ Q (.number sideId ty seq sent.bytes) ∧
        .number sideId ty seq sent.bytes ∈ o.obs) :
    Emits P Q o { o with reliableTx := o.reliableTx.insert key tx } := by
  refine ⟨rfl, rfl, rfl, rfl, rfl, rfl, .of_eq rfl rfl, Nat.le_refl _, .refl, fun _ h => .inl h, ?_, fun _ => ⟨rfl, rfl⟩, Nat.le_refl _, fun _ => id,
    id, id, [], (List.append_nil _).symm, fun _ he => nomatch he⟩
  intro k seq bytes ⟨tx', sent, htx', hsent, hbytes⟩
  dsimp only at htx'
  by_cases hk : k = key
  · subst hk
    rw [AList.lookup_insert, Option.some.injEq] at htx'
    subst htx'
    rw [← hbytes]
    exact hheld seq sent hsent
  · rw [AList.lookup_insert_ne hk] at htx'
    exact .inl ⟨tx', sent, htx', hsent, hbytes⟩

/-- A thinner stream takes the place of a stream. -/
theorem thin (o : Owner) {key : UInt64} {tx tx' : ReliableTxState} (htx : o.reliableTx.lookup key = some tx)
    (h : Thins tx tx') : Emits P Q o { o with reliableTx := o.reliableTx.insert key tx' } := by
  apply setTx
  intro seq sent hsent
  obtain ⟨old, hold, hbytes⟩ := h.sent seq sent hsent
  exact .inl ⟨tx, old, htx, hold, hbytes⟩

/-- A queue after `enqueue_bounded` holds the new item and some of the old ones. -/
theorem mem_enqueueBounded {α : Type} {cost : α → UInt64} {queue queue' : Bounded α} {item x : α} {front : Bool}
    {budget : UInt64} (h : enqueueBounded cost queue item front budget = some queue') (hx : x ∈ queue'.items) :
    x ∈ queue.items ∨ x = item := by
  unfold enqueueBounded at h
  split at h
  · cases h
  · cases h
    have hkept : ∀ (xs : List α) (bytes : UInt64) (wrapped : Bool),
        x ∈ (evict cost (cost item) budget xs bytes wrapped).items → x ∈ xs := by
      intro xs
      induction xs with
      | nil =>
        intro bytes wrapped hmem
        exact hmem
      | cons y ys ih =>
        intro bytes wrapped hmem
        unfold evict at hmem
        split at hmem
        · exact List.mem_cons_of_mem y (ih _ _ hmem)
        · exact hmem
    dsimp only at hx
    split at hx
    · rcases List.mem_cons.mp hx with rfl | hold
      · exact .inr rfl
      · exact .inl (hkept _ _ _ hold)
    · rcases List.mem_append.mp hx with hold | hnew
      · exact .inl (hkept _ _ _ hold)
      · exact .inr (List.mem_singleton.mp hnew)

theorem enqueueTxAt (front : Bool) (o : Owner) {item : TxItem} (hitem : P item) :
    Emits P Q o (o.enqueueTxAt front item) := by
  unfold Owner.enqueueTxAt
  split
  · rename_i queue hqueue
    refine ⟨rfl, rfl, rfl, rfl, rfl, rfl, .of_eq rfl rfl, Nat.le_refl _, .refl, ?_, fun _ _ _ h => .inl h, fun _ => ⟨rfl, rfl⟩, Nat.le_max_left _ _, ?_, ?_,
      id, [], (List.append_nil _).symm, fun _ he => nomatch he⟩
    · intro x hx
      rcases mem_enqueueBounded hqueue hx with hold | rfl
      · exact .inl hold
      · exact .inr hitem
    · intro hcount hsound
      have hfits := hcount.fits hsound rfl (cost_le_of_enqueueBounded hqueue) (Nat.le_max_right _ _)
      unfold Owner.load at hfits
      exact ⟨hsound.1.enqueueBounded (by omega) hqueue, hsound.2⟩
    · intro hfits x hx
      rcases mem_enqueueBounded hqueue hx with hold | rfl
      · exact hfits x hold
      · exact cost_le_of_enqueueBounded hqueue
  · exact refl o

end Emits

section

variable {P : TxItem → Prop} {Q : Obs → Prop} (S : Schema) (C : Controls P Q S) (Z : Codec) (E : Env) (o : Owner)

/-! ## The reliable layer -/

theorem callSerializedTx_emits {sideId : Int32} {bytes : Bytes} (hsend : o.sideTxActive = false → Q (.transmit sideId bytes)) :
    Emits P Q o (o.callSerializedTx E sideId bytes).2 := by
  unfold callSerializedTx
  split
  · rename_i hactive
    exact .setDeferred o fun hidle => absurd hactive (by rw [hidle]; exact Bool.false_ne_true)
  · rename_i hactive
    exact .call E o (hsend (Bool.eq_false_of_not_eq_true hactive))

include C in
theorem queueReliableControl_emits {controlTy : UInt32} (hcontrol : isInternalControlType controlTy = true)
    (sideId : Int32) (ty seq : UInt32) : Emits P Q o (o.queueReliableControl S E controlTy sideId ty seq) := by
  unfold queueReliableControl
  cases o.sideAt sideId with
  | none => exact .refl o
  | some side =>
    dsimp only
    split
    · exact .refl o
    · have hqueued := (Emits.nowMs (P := P) (Q := Q) E o).trans
        (Emits.enqueueTxAt true _ (C.control controlTy ty seq (o.nowMs E).1 o.controlSender sideId hcontrol))
      exact hqueued.trans (.observe _ (C.noted _ _ _ _))

theorem handleAck_emits (sideId : Int32) (ty ack : UInt32) : Emits P Q o (o.handleAck S sideId ty ack) := by
  unfold handleAck
  cases htx : o.reliableTx.lookup (reliableKey sideId ty) with
  | none => exact .refl o
  | some tx =>
    dsimp only
    split
    · apply Emits.thin o htx
      exact ⟨rfl, fun seq sent h => ⟨sent, lookup_of_erase h, rfl⟩⟩
    · apply Emits.thin o htx
      exact ⟨rfl, fun seq sent h => ⟨sent, lookup_ackThrough h, rfl⟩⟩

theorem handlePartialAck_emits (sideId : Int32) (ty seq : UInt32) :
    Emits P Q o (o.handlePartialAck sideId ty seq) := by
  unfold handlePartialAck
  cases htx : o.reliableTx.lookup (reliableKey sideId ty) with
  | none => exact .refl o
  | some tx =>
    dsimp only
    cases hsent : tx.sent.lookup seq with
    | none => exact .refl o
    | some sent =>
      apply Emits.thin o htx
      exact ⟨rfl, fun q s h => lookup_insert_bytes hsent h rfl⟩

theorem handlePacketRequest_emits {sideId : Int32} {ty seq : UInt32}
    (hsend : ∀ bytes, o.Holds (reliableKey sideId ty) seq bytes → o.sideTxActive = false → Q (.transmit sideId bytes)) :
    Emits P Q o (o.handlePacketRequest E sideId ty seq) := by
  unfold handlePacketRequest
  cases o.sideAt sideId with
  | none => exact .refl o
  | some side =>
    dsimp only
    cases htx : o.reliableTx.lookup (reliableKey sideId ty) with
    | none => exact .refl o
    | some tx =>
      dsimp only
      cases hsent : tx.sent.lookup seq with
      | none => exact .refl o
      | some sent =>
        dsimp only
        split
        · exact .refl o
        · have hcall : Emits P Q o ((o.callSerializedTx E sideId sent.bytes).2.nowMs E).2 :=
            (callSerializedTx_emits E o (hsend _ ⟨tx, sent, htx, hsent, rfl⟩)).trans (.nowMs E _)
          have htx' : ((o.callSerializedTx E sideId sent.bytes).2.nowMs E).2.reliableTx.lookup
              (reliableKey sideId ty) = some tx := by
            rw [nowMs_reliableTx, callSerializedTx_reliableTx]
            exact htx
          apply hcall.trans
          apply Emits.thin _ htx'
          exact ⟨rfl, fun q s h => lookup_insert_bytes hsent h rfl⟩

/-- The type a hop-level control packet is about. -/
def controlledType (S : Schema) (pkt : PacketData) : UInt32 :=
  (S.localTypeId (loadLe32 pkt.payload 0)).getD (loadLe32 pkt.payload 0)

/-- `pkt` asks for a frame of `sideId` again, this is the frame, and no other transmission is going on. -/
def Requests (S : Schema) (o : Owner) (pkt : PacketData) (srcSide : Option Int32) (sideId : Int32) (bytes : Bytes) : Prop :=
  o.sideTxActive = false ∧ srcSide = some sideId ∧ isInternalControlType pkt.ty = true ∧ pkt.ty ≠ SEDS_DT_RELIABLE_ACK ∧ pkt.ty ≠ SEDS_DT_RELIABLE_PARTIAL_ACK ∧
    pkt.payload.length = 8 ∧ o.Holds (reliableKey sideId (controlledType S pkt)) (loadLe32 pkt.payload 4) bytes

theorem handleReliableControl_emits {pkt : PacketData} {srcSide : Option Int32} (hcontrol : isInternalControlType pkt.ty = true)
    (hsend : ∀ sideId bytes, Requests S o pkt srcSide sideId bytes → Q (.transmit sideId bytes)) :
    Emits P Q o (o.handleReliableControl S E pkt srcSide) := by
  unfold handleReliableControl
  cases hsrc : srcSide with
  | none => exact .refl o
  | some sideId =>
    dsimp only
    split
    · exact .refl o
    · rename_i hlength
      split
      · exact handleAck_emits S o sideId _ _
      · rename_i hack
        split
        · exact handlePartialAck_emits o sideId _ _
        · rename_i hmark
          apply handlePacketRequest_emits
          intro bytes hheld hactive
          exact hsend sideId bytes ⟨hactive, hsrc, hcontrol, hack, hmark, Decidable.of_not_not hlength, hheld⟩

theorem sendSerializedWithReliable_emits {sideId : Int32} {pkt : PacketData}
    (hsend : ∀ bytes, Frames S Z bytes pkt → Q (.transmit sideId bytes))
    (hnumber : S.isReliableType pkt.ty = true → ∀ seq bytes, Frames S Z bytes pkt → Q (.number sideId pkt.ty seq bytes)) :
    Emits P Q o (o.sendSerializedWithReliable S Z E sideId pkt).2 := by
  have hkeep : ∀ (o : Owner) (n : UInt32) (order : List UInt32), Emits P Q o (o.setTxState sideId pkt.ty
      ⟨n, order, (o.txState sideId pkt.ty).sent⟩) := by
    intro o n order
    apply Emits.setTx
    intro q s hs
    unfold txState at hs
    cases htx : o.reliableTx.lookup (reliableKey sideId pkt.ty) with
    | none =>
      rw [htx] at hs
      cases hs
    | some tx =>
      rw [htx] at hs
      exact .inl ⟨tx, s, htx, hs, rfl⟩
  unfold sendSerializedWithReliable
  cases o.sideAt sideId with
  | none => exact .refl o
  | some side =>
    dsimp only
    split
    · exact .refl o
    · split
      · exact callSerializedTx_emits E o fun _ => hsend _ (.inl rfl)
      · rename_i hreliable
        rw [Bool.or_eq_true, not_or, Bool.not_eq_true', Bool.not_eq_true', Bool.not_eq_false, Bool.not_eq_false] at hreliable
        replace hnumber := hnumber hreliable.2
        split
        · exact hkeep o _ _
        · generalize hflags : (if (S.typeAt pkt.ty.toNat).reliableMode = .Unordered then kReliableFlagUnordered
            else 0 : UInt8) = flags
          generalize hbytes : serializePacketWithReliable S Z pkt ⟨flags, (o.txState sideId pkt.ty).nextSeq, 0⟩ = bytes
          have hmember : flags ∈ [0, kReliableFlagUnordered] := by
            rw [← hflags]
            split <;> simp
          have hframe : Frames S Z bytes pkt := .inr ⟨flags, hmember, _, hbytes.symm⟩
          have hnumbered := (hkeep o (nextSeq (o.txState sideId pkt.ty).nextSeq)
            (o.txState sideId pkt.ty).sentOrder).trans
              (.observe _ (hnumber (o.txState sideId pkt.ty).nextSeq bytes hframe))
          have hcalled := hnumbered.trans (callSerializedTx_emits E _ fun _ => hsend bytes hframe)
          split
          · exact hcalled
          · -- the frame enters the window
            apply (hcalled.trans (.nowMs E _)).trans
            apply Emits.setTx
            intro q s hs
            have hwas : ∀ q s, (o.txState sideId pkt.ty).sent.lookup q = some s →
                (((o.setTxState sideId pkt.ty ⟨nextSeq (o.txState sideId pkt.ty).nextSeq,
                  (o.txState sideId pkt.ty).sentOrder, (o.txState sideId pkt.ty).sent⟩).observe
                    (.number sideId pkt.ty (o.txState sideId pkt.ty).nextSeq bytes)).callSerializedTx E sideId bytes).2.Holds
                      (reliableKey sideId pkt.ty) q s.bytes := by
              intro q s hq
              refine ⟨⟨nextSeq (o.txState sideId pkt.ty).nextSeq, (o.txState sideId pkt.ty).sentOrder,
                (o.txState sideId pkt.ty).sent⟩, s, ?_, hq, rfl⟩
              rw [callSerializedTx_reliableTx]
              exact AList.lookup_insert o.reliableTx
            rcases lookup_emplace hs with hold | ⟨rfl, rfl⟩
            · exact .inl (hwas q s hold)
            · refine .inr ⟨sideId, pkt.ty, rfl, hnumber _ bytes hframe, ?_⟩
              obtain ⟨l, hl, -⟩ := (callSerializedTx_emits (P := P) (Q := Q) E _ fun _ => hsend bytes hframe).trace
              have hsame : ∀ o : Owner, (o.nowMs E).2.obs = o.obs := fun _ => rfl
              rw [hsame, hl]
              exact List.mem_append_left l (List.mem_append_right _ (List.mem_singleton_self _))

/-! ### Timeouts -/

/-- A held frame is due for another transmission. -/
def dueAgain (tuning : Tuning) (now : UInt64) (sent : Sent) : Bool :=
  !(sent.queued || sent.partialAcked || decide (now - sent.lastSendMs < tuning.reliableRetransmitMs.toUInt64)) &&
    decide (sent.retries < tuning.reliableMaxRetries)

/-- The stream `key` holds a frame that is due, and no other transmission is going on. -/
def HoldsDue (o : Owner) (now : UInt64) (key : UInt64) (bytes : Bytes) : Prop :=
  o.sideTxActive = false ∧ ∃ tx sent seq, o.reliableTx.lookup key = some tx ∧ tx.sent.lookup seq = some sent ∧ sent.bytes = bytes ∧
    dueAgain o.tuning now sent = true

/-- `tx'` is the stream `tx` in the middle of the inner loop: what is due then was due when it began. -/
structure Rounds (tuning : Tuning) (now : UInt64) (tx tx' : ReliableTxState) : Prop where
  thins : Thins tx tx'
  due : ∀ seq s', tx'.sent.lookup seq = some s' → dueAgain tuning now s' = true →
    ∃ s, tx.sent.lookup seq = some s ∧ s.bytes = s'.bytes ∧ dueAgain tuning now s = true

theorem retransmit_emits {tuning : Tuning} {now : UInt64} {sideId : Int32} {tx tx₁ : ReliableTxState} {o : Owner}
    (htuning : o.tuning = tuning)
    (hsend : o.sideTxActive = false → ∀ seq s, tx.sent.lookup seq = some s → dueAgain tuning now s = true →
      Q (.transmit sideId s.bytes))
    (h : Rounds tuning now tx tx₁) (seq : UInt32) :
    Emits P Q o (retransmit E now sideId (o, tx₁) seq).1 ∧
    (retransmit E now sideId (o, tx₁) seq).1.reliableTx = o.reliableTx ∧
    Rounds tuning now tx (retransmit E now sideId (o, tx₁) seq).2 := by
  unfold retransmit
  dsimp only
  cases hsent : tx₁.sent.lookup seq with
  | none => exact ⟨.refl o, rfl, h⟩
  | some sent =>
    dsimp only
    rw [htuning]
    split
    · exact ⟨.refl o, rfl, h⟩
    · rename_i hwaits
      split
      · -- out of retries: the frame leaves the window
        refine ⟨.refl o, rfl, h.thins.trans ⟨rfl, fun q s hq => ⟨s, lookup_of_erase hq, rfl⟩⟩, ?_⟩
        intro q s hq
        exact h.due q s (lookup_of_erase hq)
      · rename_i hretries
        have hdue : dueAgain tuning now sent = true := by
          unfold dueAgain
          rw [Bool.eq_false_of_not_eq_true hwaits, decide_eq_true (UInt32.not_le.mp hretries)]
          rfl
        obtain ⟨s, hs, hbytes, hwas⟩ := h.due seq sent hsent hdue
        have hcall : Emits P Q o (o.callSerializedTx E sideId sent.bytes).2 :=
          callSerializedTx_emits E o fun hactive => hbytes ▸ hsend hactive seq s hs hwas
        split
        · refine ⟨hcall, callSerializedTx_reliableTx o sideId sent.bytes,
            h.thins.trans ⟨rfl, fun q t hq => lookup_insert_bytes hsent hq rfl⟩, ?_⟩
          intro q t hq hq'
          by_cases heq : q = seq
          · subst heq
            rw [AList.lookup_insert, Option.some.injEq] at hq
            subst hq
            exact ⟨s, hs, hbytes, hwas⟩
          · rw [AList.lookup_insert_ne heq] at hq
            exact h.due q t hq hq'
        · exact ⟨hcall, callSerializedTx_reliableTx o sideId sent.bytes, h⟩

/-- The inner loop. -/
theorem retransmit_foldl_emits {tuning : Tuning} {now : UInt64} {sideId : Int32} {tx tx₁ : ReliableTxState} {o : Owner}
    (htuning : o.tuning = tuning)
    (hsend : o.sideTxActive = false → ∀ seq s, tx.sent.lookup seq = some s → dueAgain tuning now s = true →
      Q (.transmit sideId s.bytes))
    (h : Rounds tuning now tx tx₁) (seqs : List UInt32) :
    Emits P Q o (seqs.foldl (retransmit E now sideId) (o, tx₁)).1 ∧
    (seqs.foldl (retransmit E now sideId) (o, tx₁)).1.reliableTx = o.reliableTx ∧
    Rounds tuning now tx (seqs.foldl (retransmit E now sideId) (o, tx₁)).2 := by
  induction seqs generalizing o tx₁ with
  | nil => exact ⟨.refl o, rfl, h⟩
  | cons seq seqs ih =>
    rw [List.foldl_cons]
    have hone := retransmit_emits (P := P) (Q := Q) E htuning hsend h seq
    generalize retransmit E now sideId (o, tx₁) seq = p at hone ⊢
    obtain ⟨o₁, tx₂⟩ := p
    obtain ⟨hemits, hstreams, hrounds⟩ := hone
    obtain ⟨hemits', hstreams', hrounds'⟩ :=
      ih (hemits.tuning.trans htuning) (fun hactive => hsend (hemits.active ▸ hactive)) hrounds
    exact ⟨hemits.trans hemits', hstreams'.trans hstreams, hrounds'⟩

/-- One round of the outer loop, on the stream's entry. -/
theorem timeoutStream_emits {now : UInt64} {key : UInt64} {tx : ReliableTxState}
    (hsend : o.sideTxActive = false → ∀ seq s, tx.sent.lookup seq = some s → dueAgain o.tuning now s = true →
      Q (.transmit (sideOfKey key) s.bytes))
    (htx : o.reliableTx.lookup key = some tx) :
    Emits P Q o (timeoutStream E now o key tx) ∧
    ∀ k, k ≠ key → (timeoutStream E now o key tx).reliableTx.lookup k = o.reliableTx.lookup k := by
  unfold timeoutStream
  dsimp only
  cases o.sideAt (key >>> 32).toUInt32.toInt32 with
  | none => exact ⟨.refl o, fun _ _ => rfl⟩
  | some side =>
    dsimp only
    split
    · exact ⟨.refl o, fun _ _ => rfl⟩
    · have hbegin : Rounds o.tuning now tx tx := ⟨.refl tx, fun seq s hs hdue => ⟨s, hs, rfl, hdue⟩⟩
      have hloop := retransmit_foldl_emits (P := P) (Q := Q) E rfl hsend hbegin tx.sentOrder
      unfold sideOfKey at hloop
      generalize tx.sentOrder.foldl (retransmit E now (key >>> 32).toUInt32.toInt32) (o, tx) = p at hloop ⊢
      obtain ⟨o₁, tx₁⟩ := p
      obtain ⟨hemits, hstreams, hrounds⟩ := hloop
      dsimp only at hemits hstreams hrounds ⊢
      refine ⟨hemits.trans (.thin o₁ ?_ hrounds.thins), ?_⟩
      · rw [hstreams]
        exact htx
      · intro k hk
        rw [AList.lookup_insert_ne hk, hstreams]

/-- The outer loop, over entries the owner still has. -/
theorem timeoutStreams_emits {tuning : Tuning} {now : UInt64} (entries : List ((_ : UInt64) × ReliableTxState))
    (hnodup : entries.NodupKeys) (htuning : o.tuning = tuning)
    (hsend : o.sideTxActive = false → ∀ e ∈ entries, ∀ seq s, e.2.sent.lookup seq = some s →
      dueAgain tuning now s = true → Q (.transmit (sideOfKey e.1) s.bytes))
    (hmem : ∀ e ∈ entries, o.reliableTx.lookup e.1 = some e.2) :
    Emits P Q o (entries.foldl (fun o e => timeoutStream E now o e.1 e.2) o) := by
  induction entries generalizing o with
  | nil => exact .refl o
  | cons e rest ih =>
    rw [List.foldl_cons]
    rw [List.nodupKeys_cons] at hnodup
    have hfirst : o.sideTxActive = false → ∀ seq s, e.2.sent.lookup seq = some s → dueAgain o.tuning now s = true →
        Q (.transmit (sideOfKey e.1) s.bytes) := fun hactive => htuning ▸ hsend hactive e List.mem_cons_self
    obtain ⟨hemits, hothers⟩ := timeoutStream_emits (P := P) (Q := Q) E o hfirst (hmem e List.mem_cons_self)
    apply hemits.trans
    apply ih _ hnodup.2 (hemits.tuning.trans htuning)
    · intro hactive f hf
      exact hsend (hemits.active ▸ hactive) f (List.mem_cons_of_mem e hf)
    · intro f hf
      rw [hothers f.1 ?_]
      · exact hmem f (List.mem_cons_of_mem e hf)
      · intro heq
        exact hnodup.1 (heq ▸ List.mem_map_of_mem hf)

/-- `do_reliable_timeouts` sends held frames that are due, and nothing else. -/
theorem doReliableTimeouts_emits
    (hsend : ∀ key bytes, o.HoldsDue (o.nowMs E).1 key bytes → Q (.transmit (sideOfKey key) bytes)) :
    Emits P Q o (o.doReliableTimeouts E) := by
  unfold doReliableTimeouts
  apply (Emits.nowMs E o).trans
  apply timeoutStreams_emits E _ _ o.reliableTx.nodupKeys rfl
  · intro hactive e he seq s hs hdue
    exact hsend e.1 s.bytes ⟨hactive, e.2, s, seq, AList.mem_lookup_iff.mpr he, hs, rfl, hdue⟩
  · intro e he
    exact AList.mem_lookup_iff.mpr he

/-! ## Receipt -/

theorem noteReliableReturnRoute_emits (sideId : Int32) (id : UInt64) :
    Emits P Q o (o.noteReliableReturnRoute sideId id) := by
  refine ⟨rfl, rfl, rfl, rfl, rfl, rfl, .of_eq rfl rfl, Nat.le_refl _, .refl, fun _ h => .inl h, fun _ _ _ h => .inl h, fun _ => ⟨rfl, rfl⟩,
    Nat.le_refl _, fun _ h => h, fun h => h, ?_, [], (List.append_nil _).symm, fun _ he => nomatch he⟩
  intro hlisted
  exact hlisted.remember id sideId

theorem noteReturnRoutes_emits {pkt : PacketData} (hhash : ∀ o : Owner, Emits P Q o (o.sourcePacketId S pkt).2)
    (srcSide : Option Int32) (id : UInt64) : Emits P Q o (o.noteReturnRoutes S pkt srcSide id) := by
  unfold noteReturnRoutes
  cases srcSide with
  | none => exact .refl o
  | some sideId =>
    dsimp only
    split
    · have hnoted := (noteReliableReturnRoute_emits (P := P) (Q := Q) o sideId id).trans (hhash _)
      split
      · exact hnoted.trans (noteReliableReturnRoute_emits _ sideId _)
      · exact hnoted
    · exact .refl o

theorem pushRecent_emits {id : UInt64} (hid : Q (.remember id)) : Emits P Q o (o.pushRecent id) := by
  have hnoted : ∀ (ids : List UInt64) (set : Finset UInt64),
      Emits P Q o ({ o with recentIds := ids, recentSet := set }.observe (.remember id)) := by
    intro ids set
    refine ⟨rfl, rfl, rfl, rfl, rfl, rfl, .of_eq rfl rfl, Nat.le_refl _, .refl, fun _ h => .inl h, fun _ _ _ h => .inl h,
      fun hnone => absurd hid (hnone id), Nat.le_refl _, fun _ h => h, fun h => h, fun h => h, [.remember id], rfl, ?_⟩
    intro e he
    rw [List.mem_singleton.mp he]
    exact hid
  unfold pushRecent
  split
  · exact .refl o
  · dsimp only
    split
    · exact hnoted _ _
    · exact hnoted _ _

theorem pushRecent_reliableTx (id : UInt64) : (o.pushRecent id).reliableTx = o.reliableTx := by
  unfold pushRecent
  split
  · rfl
  · dsimp only
    split <;> rfl

theorem noteReturnRoutes_reliableTx (pkt : PacketData) (srcSide : Option Int32) (id : UInt64) :
    (o.noteReturnRoutes S pkt srcSide id).reliableTx = o.reliableTx := by
  unfold noteReturnRoutes
  cases srcSide with
  | none => rfl
  | some sideId =>
    dsimp only
    split
    · split <;> rfl
    · rfl

theorem noteIfChanged_emits (changed : Bool) : Emits P Q o (o.noteIfChanged E changed) := by
  cases changed with
  | false => exact .refl o
  | true => exact .of_eq rfl (Nat.le_succ _) rfl rfl

theorem handleDiscoveryPacket_emits (hhears : ∀ read, Q (.hears read (E.clock read))) (self : Option Bytes) (pkt : PacketData) (srcSide : Option Int32) :
    Emits P Q o (o.handleDiscoveryPacket S E self pkt srcSide) := by
  unfold handleDiscoveryPacket
  cases srcSide with
  | none => exact .refl o
  | some sideId =>
    dsimp only
    split
    · exact .refl o
    · split
      · refine Emits.trans ?_ (noteIfChanged_emits E _ _)
        refine .of_frame rfl (Nat.le_refl _) ?_ (List.append_nil _).symm (fun _ he => nomatch he)
        exact .single (.left o.discoveryRoutes pkt.sender)
      · refine Emits.trans ?_ (noteIfChanged_emits E _ _)
        refine .of_frame rfl (Nat.le_succ _) ?_ rfl ?_
        · exact .single (.heard o.discoveryRoutes S _ sideId pkt (o.nowMs E).1 ⟨o.clockReads, Nat.lt_succ_self _, hhears _⟩)
        · intro e he
          rw [List.mem_singleton.mp he]
          exact hhears o.clockReads

/-! ## Arrival -/

theorem packetIdFromWire_emits {bytes : Bytes}
    (hcompare : Q (.compare (comparedNames S ((Read.deserializePacket S Z bytes).trace 0))))
    (hhash : ∀ (pkt : PacketData) (o : Owner), SedsNet.deserializePacket S Z bytes = some pkt →
      Emits P Q o (o.packetId S pkt).2) : Emits P Q o (o.packetIdFromWire S Z bytes).2 := by
  unfold packetIdFromWire deserializePacket
  dsimp only
  cases hpkt : SedsNet.deserializePacket S Z bytes with
  | none => exact .observe o hcompare
  | some pkt => exact (Emits.observe o hcompare).trans (hhash pkt _ hpkt)

/-- An ACK frame never touches the receiving half. -/
theorem ingestAck_emits (sideId : UInt32) {frame : FrameInfoLite} (hack : frame.ackOnly = true)
    (bytes : Bytes) : Emits P Q o (o.ingestAck S E sideId frame bytes) := by
  unfold ingestAck processReliableIngress
  unfold FrameInfoLite.ackOnly at hack
  dsimp only
  cases hhdr : frame.reliable with
  | none => exact .refl o
  | some hdr =>
    rw [hhdr] at hack
    have hflag : hdr.flags &&& kReliableFlagAckOnly ≠ 0 := bne_iff_ne.mp hack
    dsimp only
    rw [if_pos hflag]
    exact handleAck_emits S o _ _ _

end

end Owner

end SedsNet
