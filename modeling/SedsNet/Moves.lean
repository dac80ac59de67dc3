import SedsNet.Config
import SedsNet.Sends

/-!
# What a call can do to an owner

`Owner.Moves` is `Owner.Emits` for whole calls: the receiving half may change as well. Packets enter the
receive queue, the buffers of the streams and the list of released packets only if they are in `R`, and both
queues stay accounted for. Where a function only emits, `Emits.moves` is its lemma; below are the functions
that do more: the reliable ingress, the receive queue, and the calls that change the configuration.
-/

set_option autoImplicit false

namespace SedsNet

namespace Owner

/-- A received packet that waits somewhere: in the queue, among the released ones, or in the buffer of a
    stream. -/
def Stores (o : Owner) (pkt : PacketData) : Prop :=
  (∃ item ∈ o.rxQueue.items, item.pkt = pkt) ∨ (∃ item ∈ o.reliableReleasedRx, item.pkt = pkt) ∨
    ∃ key rx seq bf, o.reliableRx.lookup key = some rx ∧ rx.buffered.lookup seq = some bf ∧ bf.pkt = pkt

/-- A new owner, of any configuration: nothing is queued, held or remembered, and nothing has happened. -/
structure Blank (o : Owner) : Prop where
  tx : o.txQueue = ⟨[], 0, false⟩
  rx : o.rxQueue = ⟨[], 0, false⟩
  released : o.reliableReleasedRx = []
  sending : o.reliableTx = ∅
  receiving : o.reliableRx = ∅
  recentIds : o.recentIds = []
  recentSet : o.recentSet = ∅
  obs : o.obs = []

structure Moves (P : TxItem → Prop) (Q : Obs → Prop) (R : PacketData → Prop) (o o' : Owner) : Prop where
  memory : o'.memory = o.memory
  sides : ¬ Q .configures → o'.sides = o.sides
  tuning : ¬ Q .configures → o'.tuning = o.tuning
  reads : o.clockReads ≤ o'.clockReads
  routes : Relation.ReflTransGen (Learns fun now => ∃ read < o'.clockReads, Q (.hears read now)) o.discoveryRoutes o'.discoveryRoutes
  tx : ∀ item ∈ o'.txQueue.items, item ∈ o.txQueue.items ∨ P item
  stored : ∀ pkt, o'.Stores pkt → o.Stores pkt ∨ R pkt
  released : (∀ pkt, ¬ R pkt) → o.reliableReleasedRx = [] → o'.reliableReleasedRx = []
  held : ∀ key seq bytes, o'.Holds key seq bytes →
    o.Holds key seq bytes ∨
      ∃ sideId ty, key = reliableKey sideId ty ∧ Q (.number sideId ty seq bytes) ∧ .number sideId ty seq bytes ∈ o'.obs
  recent : (∀ id, ¬ Q (.remember id)) → o'.recentIds = o.recentIds ∧ o'.recentSet = o.recentSet
  peak : o.peak ≤ o'.peak
  accounts : o'.Countable → o.Accounted → o'.Accounted
  fits : o.TxFits → o'.TxFits
  returns : ¬ Q .configures → o.ReturnsListed → o'.ReturnsListed
  trace : ∃ l, o'.obs = o.obs ++ l ∧ ∀ e ∈ l, Q e

variable {P : TxItem → Prop} {Q : Obs → Prop} {R : PacketData → Prop} {o o' o'' : Owner}

theorem Emits.moves (h : Emits P Q o o') : Moves P Q R o o' := by
  refine ⟨h.memory, fun _ => h.sides, fun _ => h.tuning, h.reads, h.routes, h.tx, ?_, fun _ => h.released.trans, h.held, h.recent, h.peak,
    h.accounts, h.fits, fun _ => h.returns, h.trace⟩
  intro pkt hstores
  unfold Stores at hstores ⊢
  rw [h.queue, h.released, h.streams] at hstores
  exact .inl hstores

namespace Moves

theorem refl (o : Owner) : Moves P Q R o o := (Emits.refl o).moves

/-- What has happened stays in the record. -/
theorem mem_obs (h : Moves P Q R o o') {e : Obs} (he : e ∈ o.obs) : e ∈ o'.obs := by
  obtain ⟨l, hobs, -⟩ := h.trace
  rw [hobs]
  exact List.mem_append_left l he

theorem trans (h : Moves P Q R o o') (h' : Moves P Q R o' o'') : Moves P Q R o o'' := by
  obtain ⟨l, hl, hQ⟩ := h.trace
  obtain ⟨l', hl', hQ'⟩ := h'.trace
  refine ⟨h'.memory.trans h.memory, fun hfixed => (h'.sides hfixed).trans (h.sides hfixed),
    fun hfixed => (h'.tuning hfixed).trans (h.tuning hfixed), h.reads.trans h'.reads,
    (Learns.mono_run (Emits.readBefore h'.reads) h.routes).trans h'.routes, ?_, ?_,
    fun hnone hempty => h'.released hnone (h.released hnone hempty), ?_, ?_, h.peak.trans h'.peak, ?_,
    fun hfits => h'.fits (h.fits hfits), fun hfixed hlisted => h'.returns hfixed (h.returns hfixed hlisted), l ++ l', by rw [hl', hl, List.append_assoc], ?_⟩
  · intro item hitem
    rcases h'.tx item hitem with hold | hnew
    · exact h.tx item hold
    · exact .inr hnew
  · intro pkt hstores
    rcases h'.stored pkt hstores with hold | hnew
    · exact h.stored pkt hold
    · exact .inr hnew
  · intro key seq bytes hholds
    rcases h'.held key seq bytes hholds with hold | hnew
    · rcases h.held key seq bytes hold with hold | ⟨sideId, ty, hkey, hnumber, hmem⟩
      · exact .inl hold
      · exact .inr ⟨sideId, ty, hkey, hnumber, h'.mem_obs hmem⟩
    · exact .inr hnew
  · intro hnone
    exact ⟨(h'.recent hnone).1.trans (h.recent hnone).1, (h'.recent hnone).2.trans (h.recent hnone).2⟩
  · intro hcount hsound
    exact h'.accounts hcount (h.accounts (hcount.of_le h'.peak h'.memory) hsound)
  · intro e he
    rcases List.mem_append.mp he with he | he
    · exact hQ e he
    · exact hQ' e he

/-- Only the receiving half and members that `Moves` does not speak of change. -/
theorem of_rx (hreturns : o.ReturnsListed → o'.ReturnsListed) (htuning : o'.tuning = o.tuning)
    (hmemory : o'.memory = o.memory) (hsides : o'.sides = o.sides)
    (hreads : o.clockReads ≤ o'.clockReads) (hroutes : o'.discoveryRoutes = o.discoveryRoutes) (htx : o'.txQueue = o.txQueue) (hheld : o'.reliableTx = o.reliableTx)
    (hids : o'.recentIds = o.recentIds) (hset : o'.recentSet = o.recentSet) (hpeak : o.peak ≤ o'.peak)
    (hstored : ∀ pkt, o'.Stores pkt → o.Stores pkt ∨ R pkt)
    (hreleased : (∀ pkt, ¬ R pkt) → o.reliableReleasedRx = [] → o'.reliableReleasedRx = [])
    (hrx : o'.Countable → o.Accounted → o'.RxSound) {l : List Obs}
    (hobs : o'.obs = o.obs ++ l) (hl : ∀ e ∈ l, Q e) : Moves P Q R o o' := by
  refine ⟨hmemory, fun _ => hsides, fun _ => htuning, hreads, hroutes ▸ .refl, ?_, hstored, hreleased, ?_, fun _ => ⟨hids, hset⟩,
    hpeak, ?_, ?_, fun _ => hreturns, l, hobs, hl⟩
  · intro item hitem
    rw [htx] at hitem
    exact .inl hitem
  · intro key seq bytes hholds
    unfold Holds at hholds ⊢
    rw [hheld] at hholds
    exact .inl hholds
  · intro hcount hsound
    refine ⟨?_, hrx hcount hsound⟩
    unfold TxSound
    rw [htx, hmemory]
    exact hsound.1
  · intro hfits
    unfold TxFits
    rw [htx, hmemory]
    exact hfits

end Moves

/-- `Moves` of what is neither the begin nor the end of a callback: unless a transmission is going on, none is deferred. -/
structure Performs (P : TxItem → Prop) (Q : Obs → Prop) (R : PacketData → Prop) (o o' : Owner) : Prop extends Moves P Q R o o' where
  calm : Calm o o'

theorem Emits.performs (h : Emits P Q o o') : Performs P Q R o o' := ⟨h.moves, h.calm⟩

namespace Performs

theorem refl (o : Owner) : Performs P Q R o o := (Emits.refl o).performs

theorem trans (h : Performs P Q R o o') (h' : Performs P Q R o' o'') : Performs P Q R o o'' :=
  ⟨h.toMoves.trans h'.toMoves, h.calm.trans h'.calm⟩

end Performs

/-! ## The receive queue -/

theorem mem_evicted {α : Type} {cost : α → UInt64} {need budget : UInt64} {x : α} {xs : List α} {bytes : UInt64}
    (h : x ∈ evicted cost need budget xs bytes) : x ∈ xs := by
  induction xs generalizing bytes with
  | nil => exact h
  | cons y ys ih =>
    unfold evicted at h
    split at h
    · rcases List.mem_cons.mp h with rfl | hrest
      · exact List.mem_cons_self
      · exact List.mem_cons_of_mem y (ih hrest)
    · cases h

theorem enqueueRxAt_released (front : Bool) (o : Owner) (item : RxItem) :
    (o.enqueueRxAt front item).2.reliableReleasedRx = o.reliableReleasedRx := by
  unfold enqueueRxAt
  split
  · rfl
  · rfl

/-- A packet goes to the receive queue: it is in it then, or lost. -/
theorem enqueueRxAt_performs (front : Bool) (o : Owner) {item : RxItem} (hitem : o.Stores item.pkt ∨ R item.pkt)
    (hlost : ∀ x, Q (.lost x)) : Performs P Q R o (o.enqueueRxAt front item).2 := by
  unfold enqueueRxAt
  split
  · rename_i queue hqueue
    have hgone : ∀ e ∈ (evicted RxItem.byteCost item.byteCost o.memory.maxQueueBudget o.rxQueue.items
        o.rxQueue.bytes).map Obs.lost, Q e := by
      intro e he
      obtain ⟨x, -, rfl⟩ := List.mem_map.mp he
      exact hlost x
    refine ⟨.of_rx id rfl rfl rfl (Nat.le_refl _) rfl rfl rfl rfl rfl (Nat.le_max_left _ _) ?_ (fun _ h => h) ?_ rfl hgone, .of_eq rfl rfl⟩
    · rintro pkt (⟨x, hx, rfl⟩ | hrest)
      · rcases Emits.mem_enqueueBounded hqueue hx with hold | rfl
        · exact .inl (.inl ⟨x, hold, rfl⟩)
        · exact hitem
      · exact .inl (.inr hrest)
    · intro hcount hsound
      have hfits := hcount.fits hsound rfl (cost_le_of_enqueueBounded hqueue) (Nat.le_max_right _ _)
      unfold load at hfits
      exact hsound.2.enqueueBounded (by omega) hqueue
  · exact (Emits.observe o (hlost item)).performs

/-- `flushReleased`: released packets that fit go to the queue. -/
theorem flushReleased_performs (o : Owner) (hlost : ∀ x, Q (.lost x)) : Performs P Q R o o.flushReleased := by
  have hloop : ∀ (items : List RxItem) (o' : Owner), Performs P Q R o o' → (∀ x ∈ items, x ∈ o.reliableReleasedRx) →
      Performs P Q R o (items.foldl (fun o item => (o.enqueueRx item).2) o') := by
    intro items
    induction items with
    | nil => exact fun o' h _ => h
    | cons item rest ih =>
      intro o' h hmem
      apply ih
      · -- a released packet was stored before, so it is no news
        have hstep : Performs P Q (fun pkt => R pkt ∨ o.Stores pkt) o' (o'.enqueueRx item).2 :=
          enqueueRxAt_performs false o' (.inr (.inr (.inr (.inl ⟨item, hmem item List.mem_cons_self, rfl⟩)))) hlost
        have hwide : Moves P Q (fun pkt => R pkt ∨ o.Stores pkt) o o' := by
          refine ⟨h.memory, h.sides, h.tuning, h.reads, h.routes, h.tx, ?_, fun hnone => h.released fun pkt hpkt => hnone pkt (.inl hpkt),
            h.held, h.recent, h.peak, h.accounts, h.fits, h.returns, h.trace⟩
          intro pkt hpkt
          exact (h.stored pkt hpkt).imp_right .inl
        have hboth := hwide.trans hstep.toMoves
        refine ⟨⟨hboth.memory, hboth.sides, hboth.tuning, hboth.reads, hboth.routes, hboth.tx, ?_,
          fun hnone hempty => (enqueueRxAt_released false o' item).trans (h.released hnone hempty), hboth.held, hboth.recent,
          hboth.peak, hboth.accounts, hboth.fits, hboth.returns, hboth.trace⟩, h.calm.trans hstep.calm⟩
        intro pkt hpkt
        rcases hboth.stored pkt hpkt with hold | hnew | hold
        · exact .inl hold
        · exact .inr hnew
        · exact .inl hold
      · exact fun x hx => hmem x (List.mem_cons_of_mem item hx)
  have hdone := hloop o.reliableReleasedRx o (.refl o) fun x hx => hx
  unfold flushReleased
  generalize o.reliableReleasedRx.foldl (fun o item => (o.enqueueRx item).2) o = o₁ at hdone ⊢
  apply hdone.trans
  refine ⟨.of_rx id rfl rfl rfl (Nat.le_refl _) rfl rfl rfl rfl rfl (Nat.le_refl _) ?_ (fun _ _ => rfl) (fun _ h => h.2)
    (List.append_nil _).symm (fun _ he => nomatch he), .of_eq rfl rfl⟩
  rintro pkt (hqueue | ⟨x, hx, -⟩ | hstream)
  · exact .inl (.inl hqueue)
  · cases hx
  · exact .inl (.inr (.inr hstream))

/-- The front packet is taken off the receive queue. -/
theorem popRx_performs {item : RxItem} {queue : Bounded RxItem} (hpop : o.rxQueue.pop RxItem.byteCost = some (item, queue)) :
    o.Stores item.pkt ∧ Performs P Q R o { o with rxQueue := queue } := by
  have hitems : o.rxQueue.items = item :: queue.items := by
    unfold Bounded.pop at hpop
    split at hpop
    · cases hpop
    · cases hpop
      assumption
  refine ⟨.inl ⟨item, by rw [hitems]; exact List.mem_cons_self, rfl⟩, ?_⟩
  refine ⟨.of_rx id rfl rfl rfl (Nat.le_refl _) rfl rfl rfl rfl rfl (Nat.le_refl _) ?_ (fun _ h => h) (fun _ hsound => hsound.2.pop hpop)
    (List.append_nil _).symm (fun _ he => nomatch he), .of_eq rfl rfl⟩
  rintro pkt (⟨x, hx, rfl⟩ | hrest)
  · exact .inl (.inl ⟨x, by rw [hitems]; exact List.mem_cons_of_mem item hx, rfl⟩)
  · exact .inl (.inr hrest)

/-! ## Reliable ingress -/

/-- What the release loop releases was buffered, and what it leaves was too. -/
theorem releaseBuffered_of_buffered (sideId : Int32) (rounds : Nat) (rx : ReliableRxState) :
    (∀ x ∈ (releaseBuffered sideId rounds rx).2, ∃ seq bf, rx.buffered.lookup seq = some bf ∧ bf.pkt = x.pkt) ∧
    ∀ seq bf, (releaseBuffered sideId rounds rx).1.buffered.lookup seq = some bf → rx.buffered.lookup seq = some bf := by
  induction rounds generalizing rx with
  | zero => exact ⟨fun _ h => absurd h List.not_mem_nil, fun _ _ h => h⟩
  | succ rounds ih =>
    unfold releaseBuffered
    cases hnext : rx.buffered.lookup rx.expectedSeq with
    | none => exact ⟨fun _ h => absurd h List.not_mem_nil, fun _ _ h => h⟩
    | some buffered =>
      obtain ⟨hreleased, hleft⟩ := ih ⟨nextSeq rx.expectedSeq, rx.expectedSeq, rx.buffered.erase rx.expectedSeq⟩
      dsimp only
      refine ⟨?_, ?_⟩
      · intro x hx
        rcases List.mem_cons.mp hx with rfl | hrest
        · exact ⟨rx.expectedSeq, buffered, hnext, rfl⟩
        · obtain ⟨seq, bf, hbf, hpkt⟩ := hreleased x hrest
          exact ⟨seq, bf, lookup_of_erase hbf, hpkt⟩
      · intro seq bf hbf
        exact lookup_of_erase (hleft seq bf hbf)

theorem stores_of_rxState {sideId : Int32} {ty seq : UInt32} {bf : Buffered}
    (h : (o.rxState sideId ty).buffered.lookup seq = some bf) : o.Stores bf.pkt := by
  unfold rxState at h
  cases hrx : o.reliableRx.lookup (reliableKey sideId ty) with
  | none =>
    rw [hrx] at h
    cases h
  | some rx =>
    rw [hrx] at h
    exact .inr (.inr ⟨_, rx, seq, bf, hrx, h, rfl⟩)

/-- The receiving half of a stream is written, and packets are released. -/
theorem setRxState_performs {sideId : Int32} {ty : UInt32} {rx : ReliableRxState} {items : List RxItem}
    (hbuffered : ∀ seq bf, rx.buffered.lookup seq = some bf → o.Stores bf.pkt ∨ R bf.pkt)
    (hitems : ∀ x ∈ items, o.Stores x.pkt) (hnone : (∀ pkt, ¬ R pkt) → items = []) :
    Performs P Q R o ((o.setRxState sideId ty rx).pushReleased items) := by
  refine ⟨.of_rx id rfl rfl rfl (Nat.le_refl _) rfl rfl rfl rfl rfl (Nat.le_refl _) ?_
    (fun hR hempty => List.append_eq_nil_iff.mpr ⟨hempty, hnone hR⟩) (fun _ h => h.2) (List.append_nil _).symm (fun _ he => nomatch he),
    .of_eq rfl rfl⟩
  rintro pkt (hqueue | ⟨x, hx, rfl⟩ | ⟨key, rx', seq, bf, hrx', hbf, rfl⟩)
  · exact .inl (.inl hqueue)
  · rcases List.mem_append.mp hx with hold | hnew
    · exact .inl (.inr (.inl ⟨x, hold, rfl⟩))
    · exact .inl (hitems x hnew)
  · by_cases hkey : key = reliableKey sideId ty
    · subst hkey
      have hwritten : (o.reliableRx.insert (reliableKey sideId ty) rx).lookup (reliableKey sideId ty) = some rx' := hrx'
      rw [AList.lookup_insert, Option.some.injEq] at hwritten
      subst hwritten
      exact hbuffered seq bf hbf
    · have hother : (o.reliableRx.insert (reliableKey sideId ty) rx).lookup key = some rx' := hrx'
      rw [AList.lookup_insert_ne hkey] at hother
      exact .inl (.inr (.inr ⟨key, rx', seq, bf, hother, hbf, rfl⟩))

section

variable (S : Schema) (C : Controls P Q S) (E : Env)

include C

theorem ingressEarly_performs (o : Owner) (sideId : Int32) (ty seq : UInt32) {pkt : PacketData} (hpkt : R pkt) (wireBytes : Bytes) :
    Performs P Q R o (o.ingressEarly S E sideId ty seq pkt wireBytes) := by
  unfold ingressEarly
  dsimp only
  generalize hrx : (if (o.rxState sideId ty).buffered.entries.length < o.tuning.reliableMaxPending then
      { o.rxState sideId ty with buffered := Map.emplace (o.rxState sideId ty).buffered seq ⟨pkt, wireBytes⟩ }
    else o.rxState sideId ty) = rx
  have hbuffered : ∀ q bf, rx.buffered.lookup q = some bf → o.Stores bf.pkt ∨ R bf.pkt := by
    intro q bf hbf
    rw [← hrx] at hbf
    split at hbf
    · rcases lookup_emplace hbf with hold | ⟨rfl, rfl⟩
      · exact .inl (stores_of_rxState hold)
      · exact .inr hpkt
    · exact .inl (stores_of_rxState hbf)
  have hkept : Performs P Q R o ((o.setRxState sideId ty rx).pushReleased []) :=
    setRxState_performs hbuffered (fun _ h => nomatch h) fun _ => rfl
  have hsame : (o.setRxState sideId ty rx).pushReleased [] = o.setRxState sideId ty rx := by
    unfold pushReleased
    rw [List.append_nil]
  rw [hsame] at hkept
  exact (hkept.trans (queueReliableControl_emits S C E _ (by decide) sideId ty seq).performs).trans
    (queueReliableControl_emits S C E _ (by decide) sideId ty _).performs

theorem ingressNext_performs (o : Owner) (sideId : Int32) (ty : UInt32) {pkt : PacketData} (hpkt : R pkt) :
    Performs P Q R o (o.ingressNext S E sideId ty) := by
  unfold ingressNext
  dsimp only
  generalize hrx : ({ o.rxState sideId ty with
    expectedSeq := nextSeq (o.rxState sideId ty).expectedSeq, lastAck := (o.rxState sideId ty).expectedSeq } : ReliableRxState) = rx
  have hsame : rx.buffered = (o.rxState sideId ty).buffered := by rw [← hrx]
  obtain ⟨hreleased, hleft⟩ := releaseBuffered_of_buffered sideId rx.buffered.entries.length rx
  rw [hsame] at hreleased hleft
  refine (setRxState_performs ?_ ?_ fun hnone => absurd hpkt (hnone pkt)).trans
    (queueReliableControl_emits S C E _ (by decide) sideId ty _).performs
  · intro seq bf hbf
    exact .inl (stores_of_rxState (hleft seq bf hbf))
  · intro x hx
    obtain ⟨seq, bf, hbf, hsame⟩ := hreleased x hx
    rw [← hsame]
    exact stores_of_rxState hbf

/-- **Reliable ingress**: a frame is buffered at most, and control packets are queued. -/
theorem processReliableIngress_performs (o : Owner) (sideId : Int32) (frame : FrameInfoLite) {pkt : PacketData} (hpkt : R pkt)
    (wireBytes : Bytes) : Performs P Q R o (o.processReliableIngress S E sideId frame pkt wireBytes).2 := by
  have hwrite : ∀ (ty lastAck : UInt32),
      Performs P Q R o (o.setRxState sideId ty { o.rxState sideId ty with lastAck := lastAck }) := by
    intro ty lastAck
    have hkept : Performs P Q R o ((o.setRxState sideId ty { o.rxState sideId ty with lastAck := lastAck }).pushReleased []) :=
      setRxState_performs (fun seq bf hbf => .inl (stores_of_rxState hbf)) (fun _ h => nomatch h) fun _ => rfl
    unfold pushReleased at hkept
    rw [List.append_nil] at hkept
    exact hkept
  unfold processReliableIngress
  cases frame.reliable with
  | none => exact .refl o
  | some hdr =>
    dsimp only
    split
    · exact (handleAck_emits S o _ _ _).performs
    · split
      · exact .refl o
      · split
        · exact (hwrite _ _).trans (queueReliableControl_emits S C E _ (by decide) sideId _ _).performs
        · split
          · unfold ingressOld
            dsimp only
            exact (hwrite _ _).trans (queueReliableControl_emits S C E _ (by decide) sideId _ _).performs
          · split
            · exact ingressEarly_performs S C E o sideId _ _ hpkt wireBytes
            · exact ingressNext_performs S C E o sideId _ hpkt

end

/-! ## Configuration -/

/-- Everything `Moves` speaks of is as it was, or less of it. -/
theorem Moves.of_less (hmemory : o'.memory = o.memory)
    (hsides : ¬ Q .configures → (o'.sides, o'.tuning) = (o.sides, o.tuning))
    (hreads : o.clockReads ≤ o'.clockReads)
    (hroutes : Relation.ReflTransGen (Learns fun now => ∃ read < o'.clockReads, Q (.hears read now)) o.discoveryRoutes
      o'.discoveryRoutes)
    (htx : ∀ item ∈ o'.txQueue.items, item ∈ o.txQueue.items)
    (hstored : ∀ pkt, o'.Stores pkt → o.Stores pkt) (hreleased : o'.reliableReleasedRx = o.reliableReleasedRx)
    (hheld : ∀ key seq bytes, o'.Holds key seq bytes → o.Holds key seq bytes)
    (hids : o'.recentIds = o.recentIds) (hset : o'.recentSet = o.recentSet) (hpeak : o'.peak = o.peak)
    (htxSound : o.TxSound → o'.TxSound) (hrxSound : o.RxSound → o'.RxSound)
    (hreturns : ¬ Q .configures → o.ReturnsListed → o'.ReturnsListed) (hobs : o'.obs = o.obs) : Moves P Q R o o' :=
  ⟨hmemory, fun hfixed => congrArg Prod.fst (hsides hfixed), fun hfixed => congrArg Prod.snd (hsides hfixed), hreads, hroutes,
    fun item h => .inl (htx item h), fun pkt h => .inl (hstored pkt h),
    fun _ => hreleased.trans, fun key seq bytes h => .inl (hheld key seq bytes h), fun _ => ⟨hids, hset⟩, Nat.le_of_eq hpeak.symm,
    fun _ h => ⟨htxSound h.1, hrxSound h.2⟩, fun hfits item h => hmemory ▸ hfits item (htx item h), hreturns, [], hobs.trans (List.append_nil _).symm, fun _ he => nomatch he⟩

/-- A callback begins or ends. -/
theorem Moves.sideTx (o : Owner) (active : Bool) : Moves P Q R o { o with sideTxActive := active } :=
  .of_less rfl (fun _ => rfl) (Nat.le_refl _) .refl (fun _ h => h) (fun _ h => h) rfl (fun _ _ _ h => h) rfl rfl rfl
    (fun h => h) (fun h => h) (fun _ h => h) rfl

/-- Of what `Performs` speaks of, nothing changes. -/
theorem Performs.of_eq (h : o'.emitFrame.2 = o.emitFrame.2) (hmemory : o'.memory = o.memory)
    (hsides : ¬ Q .configures → (o'.sides, o'.tuning) = (o.sides, o.tuning))
    (hreads : o.clockReads ≤ o'.clockReads)
    (hroutes : Relation.ReflTransGen (Learns fun now => ∃ read < o'.clockReads, Q (.hears read now)) o.discoveryRoutes
      o'.discoveryRoutes) (hqueue : o'.rxQueue = o.rxQueue)
    (hreleased : o'.reliableReleasedRx = o.reliableReleasedRx) (hstreams : o'.reliableRx = o.reliableRx)
    (hobs : o'.obs = o.obs) : Performs P Q R o o' := by
  unfold emitFrame at h
  simp only [Prod.mk.injEq] at h
  obtain ⟨⟨htx, hheld, hids, hset, hpeak, hactive, hdeferred⟩, hreturns, horder⟩ := h
  refine ⟨.of_less hmemory hsides hreads hroutes ?_ ?_ hreleased ?_ hids hset hpeak ?_ ?_ ?_ hobs, .of_eq hactive hdeferred⟩
  · rw [htx]
    exact fun _ h => h
  · intro pkt hstores
    unfold Stores at hstores ⊢
    rwa [hqueue, hreleased, hstreams] at hstores
  · intro key seq bytes hholds
    unfold Holds at hholds ⊢
    rwa [hheld] at hholds
  · intro hsound
    unfold TxSound
    rw [htx, hmemory]
    exact hsound
  · intro hsound
    unfold RxSound
    rw [hqueue, hmemory]
    exact hsound
  · intro hfixed hlisted
    have htuning : o'.tuning = o.tuning := congrArg Prod.snd (hsides hfixed)
    unfold ReturnsListed
    rw [htuning, hreturns, horder]
    exact hlisted

theorem eraseTxItemsForSide_performs (o : Owner) (sideId : Int32) : Performs P Q R o (o.eraseTxItemsForSide sideId) := by
  refine ⟨.of_less rfl (fun _ => rfl) (Nat.le_refl _) .refl ?_ (fun _ h => h) rfl (fun _ _ _ h => h) rfl rfl rfl
    (fun h => h.eraseIf _) (fun h => h) (fun _ h => h) rfl, .of_eq rfl rfl⟩
  intro item hitem
  have hitems : (o.eraseTxItemsForSide sideId).txQueue.items = o.txQueue.items.filter (fun x => !x.mentions sideId) :=
    eraseLoop_items
  rw [hitems] at hitem
  exact List.mem_of_mem_filter hitem

theorem eraseRxItemsForSide_performs (o : Owner) (sideId : Int32) : Performs P Q R o (o.eraseRxItemsForSide sideId) := by
  refine ⟨.of_less rfl (fun _ => rfl) (Nat.le_refl _) .refl (fun _ h => h) ?_ rfl (fun _ _ _ h => h) rfl rfl rfl
    (fun h => h) (fun h => h.eraseIf _) (fun _ h => h) rfl, .of_eq rfl rfl⟩
  have hitems : (o.eraseRxItemsForSide sideId).rxQueue.items = o.rxQueue.items.filter (fun x => !(x.srcSide == some sideId)) :=
    eraseLoop_items
  rintro pkt (⟨x, hx, rfl⟩ | hrest)
  · rw [hitems] at hx
    exact .inl ⟨x, List.mem_of_mem_filter hx, rfl⟩
  · exact .inr hrest

theorem lookup_of_keepIf {κ α : Type} [DecidableEq κ] {m : Map κ α} {p : κ → α → Bool} {k : κ} {v : α}
    (h : (m.keepIf p).lookup k = some v) : m.lookup k = some v :=
  AList.mem_lookup_iff.mpr (Map.mem_keepIf (AList.mem_lookup_iff.mp h))

theorem forgetSide_performs (o : Owner) (sideId : Int32) : Performs P Q R o (o.forgetSide sideId) := by
  refine ⟨.of_less rfl (fun _ => rfl) (Nat.le_refl _) (.single (.removed o.discoveryRoutes sideId)) (fun _ h => h) ?_ rfl ?_
    rfl rfl rfl (fun h => h) (fun h => h) (fun _ h => h.less fun id hid => ?_) rfl, .of_eq rfl rfl⟩
  · rintro pkt (hqueue | hreleased | ⟨key, rx, seq, bf, hrx, hbf⟩)
    · exact .inl hqueue
    · exact .inr (.inl hreleased)
    · exact .inr (.inr ⟨key, rx, seq, bf, lookup_of_keepIf hrx, hbf⟩)
  · rintro key seq bytes ⟨tx, sent, htx, hsent⟩
    exact ⟨tx, sent, lookup_of_keepIf htx, hsent⟩
  · obtain ⟨v, hv⟩ := Map.mem_iff_lookup.mp hid
    exact Map.mem_iff_lookup.mpr ⟨v, lookup_of_keepIf hv⟩

section

variable (S : Schema) (E : Env)

theorem noteSideChange_performs (o : Owner) : Performs P Q R o (o.noteSideChange E) :=
  .of_eq rfl rfl (fun _ => rfl) (Nat.le_succ _) .refl rfl rfl rfl rfl

theorem removeSide_performs (hconf : Q .configures) (o : Owner) (sideId : Int32) : Performs P Q R o (o.removeSide E sideId) := by
  have hclosed : Performs P Q R o ((o.nowMs E).2.modifySide sideId
      fun side => { side with ingressEnabled := false, egressEnabled := false }) := .of_eq rfl rfl (absurd hconf) (Nat.le_succ _) .refl rfl rfl rfl rfl
  have herased := (hclosed.trans (eraseTxItemsForSide_performs _ sideId)).trans (eraseRxItemsForSide_performs _ sideId)
  exact (herased.trans (forgetSide_performs _ sideId)).trans (.of_eq rfl rfl (fun _ => rfl) (Nat.le_refl _) .refl rfl rfl rfl rfl)

theorem setSideEgressEnabled_performs (hconf : Q .configures) (o : Owner) (sideId : Int32) (enabled : Bool) :
    Performs P Q R o (o.setSideEgressEnabled E sideId enabled) := by
  unfold setSideEgressEnabled
  have hwritten : Performs P Q R o (o.modifySide sideId ({ · with egressEnabled := enabled })) := .of_eq rfl rfl (absurd hconf) (Nat.le_refl _) .refl rfl rfl rfl rfl
  dsimp only
  refine Performs.trans ?_ (noteSideChange_performs E _)
  split
  · exact hwritten
  · exact hwritten.trans (eraseTxItemsForSide_performs _ sideId)

theorem onSide_performs (o : Owner) (sideId : Int32) {f : Owner → Owner} (hf : Performs P Q R o (f o)) :
    Performs P Q R o (o.onSide sideId f).2 := by
  unfold onSide
  split
  · exact .refl o
  · exact hf

/-- **A change of the configuration** queues nothing, sends nothing and keeps the accounts. -/
theorem configure_performs (hconf : Q .configures) (o : Owner) (setting : Setting) : Performs P Q R o (o.configure S E setting).2 := by
  have hpolicy : ∀ (src : Int32) (f : RoutePolicy → RoutePolicy), Performs P Q R o (o.modifyPolicy src f) := by
    intro src f
    unfold modifyPolicy
    split
    · exact .of_eq rfl rfl (fun _ => rfl) (Nat.le_refl _) .refl rfl rfl rfl rfl
    · exact .of_eq rfl rfl (fun _ => rfl) (Nat.le_refl _) .refl rfl rfl rfl rfl
  cases setting with
  | addSideSerialized name reliableEnabled => exact .of_eq rfl rfl (absurd hconf) (Nat.le_refl _) .refl rfl rfl rfl rfl
  | addSidePacket name reliableEnabled => exact .of_eq rfl rfl (absurd hconf) (Nat.le_refl _) .refl rfl rfl rfl rfl
  | removeSide sideId => exact onSide_performs o sideId (removeSide_performs E hconf o sideId)
  | setSideIngressEnabled sideId enabled => exact onSide_performs o sideId (.of_eq rfl rfl (absurd hconf) (Nat.le_succ _) .refl rfl rfl rfl rfl)
  | setSideEgressEnabled sideId enabled => exact onSide_performs o sideId (setSideEgressEnabled_performs E hconf o sideId enabled)
  | setSideLinkLocalEnabled sideId enabled => exact onSide_performs o sideId (.of_eq rfl rfl (absurd hconf) (Nat.le_succ _) .refl rfl rfl rfl rfl)
  | setRoute src dst enabled => exact .of_eq rfl rfl (fun _ => rfl) (Nat.le_refl _) .refl rfl rfl rfl rfl
  | clearRoute src dst => exact .of_eq rfl rfl (fun _ => rfl) (Nat.le_refl _) .refl rfl rfl rfl rfl
  | setTypedRoute src ty dst enabled =>
    dsimp only [configure]
    split
    · exact .refl o
    · exact .of_eq rfl rfl (fun _ => rfl) (Nat.le_refl _) .refl rfl rfl rfl rfl
  | clearTypedRoute src ty dst => exact .of_eq rfl rfl (fun _ => rfl) (Nat.le_refl _) .refl rfl rfl rfl rfl
  | setSourceRouteMode src mode =>
    dsimp only [configure]
    apply hpolicy
  | setRouteWeight src dst weight =>
    dsimp only [configure]
    apply hpolicy
  | clearRouteWeight src dst =>
    dsimp only [configure]
    apply hpolicy
  | setRoutePriority src dst priority =>
    dsimp only [configure]
    apply hpolicy
  | clearRoutePriority src dst =>
    dsimp only [configure]
    apply hpolicy
  | clearTxQueue =>
    exact ⟨.of_less rfl (fun _ => rfl) (Nat.le_refl _) .refl (fun _ h => absurd h List.not_mem_nil) (fun _ h => h) rfl
      (fun _ _ _ h => h) rfl rfl rfl (fun h => h.clear) (fun h => h) (fun _ h => h) rfl, .of_eq rfl rfl⟩
  | clearRxQueue =>
    refine ⟨.of_less rfl (fun _ => rfl) (Nat.le_refl _) .refl (fun _ h => h) ?_ rfl (fun _ _ _ h => h) rfl rfl rfl
      (fun h => h) (fun h => h.clear) (fun _ h => h) rfl, .of_eq rfl rfl⟩
    rintro pkt (⟨x, hx, -⟩ | hrest)
    · cases hx
    · exact .inr hrest
  | setRuntimeTuningConfig tuning =>
    dsimp only [configure]
    split
    · exact .of_eq rfl rfl (absurd hconf) (Nat.le_refl _) .refl rfl rfl rfl rfl
    · exact .refl o

end

/-! ## The shared budget -/

/-- One round of `enforce_shared_queue_budget` takes one packet out. -/
theorem enforceNext_performs {o o' : Owner} (hlost : ∀ x, Q (.lost x)) (h : o.enforceNext = some o') : Performs P Q R o o' := by
  unfold enforceNext at h
  split at h
  · split at h
    · cases hpop : o.rxQueue.pop RxItem.byteCost with
      | none =>
        rw [hpop] at h
        cases h
      | some p =>
        rw [hpop] at h
        cases h
        exact (popRx_performs hpop).2.trans (Emits.observe _ (hlost _)).performs
    · cases hpop : o.txQueue.pop TxItem.byteCost with
      | none =>
        rw [hpop] at h
        cases h
      | some p =>
        rw [hpop] at h
        cases h
        exact (Emits.popTx o hpop).2.performs
  · cases h

theorem enforceSharedQueueBudget_performs (o : Owner) (hlost : ∀ x, Q (.lost x)) :
    Performs P Q R o o.enforceSharedQueueBudget := by
  have hloop : ∀ (rounds : Nat) (o : Owner), Performs P Q R o (enforceRounds rounds o) := by
    intro rounds
    induction rounds with
    | zero => exact fun o => .refl o
    | succ rounds ih =>
      intro o
      unfold enforceRounds
      cases hnext : o.enforceNext with
      | none => exact .refl o
      | some o' => exact (enforceNext_performs hlost hnext).trans (ih o')
  exact hloop _ o

/-! ## The start of a run -/

theorem Blank.accounted (h : o.Blank) : o.Accounted := by
  unfold Accounted TxSound RxSound
  rw [h.tx, h.rx]
  exact ⟨Bounded.empty_sound _, Bounded.empty_sound _⟩

theorem Blank.not_stores (h : o.Blank) (pkt : PacketData) : ¬ o.Stores pkt := by
  unfold Stores
  rw [h.rx, h.released, h.receiving]
  rintro (⟨x, hx, -⟩ | ⟨x, hx, -⟩ | ⟨key, rx, seq, bf, hrx, -⟩)
  · cases hx
  · cases hx
  · cases hrx

theorem Blank.not_holds (h : o.Blank) (key : UInt64) (seq : UInt32) (bytes : Bytes) : ¬ o.Holds key seq bytes := by
  unfold Holds
  rw [h.sending]
  rintro ⟨tx, sent, htx, -⟩
  cases htx

end Owner

end SedsNet
