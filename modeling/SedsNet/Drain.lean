import SedsNet.Accounts
import SedsNet.Lib.Machine

/-!
# Draining the transmit queue

A side's tx callback may call back into the router or relay (`mu` is recursive). A transmission that is started then is
deferred: `transmit_item` returns `SEDS_IO`, and the drain that has taken the item off the queue is to put it back. The drains
of `src/router_api.cpp` and `src/relay_api.cpp` are written out here as the source has them; the rounds of `Router.Act` are
the rounds of the ones that put the item back.

`seds_router_log_bytes_ex` asks for `side_tx_deferred` as well, which `transmit_item` has cleared by then, and drops the item.
The timed drain of a router goes on to receive packets, and what they queue may push the item out.
-/

set_option autoImplicit false

namespace SedsNet

open Lib Owner

/-- How a drain ends. `deferred` is a ghost: the item whose transmission was deferred. -/
structure Drained (σ : Type) where
  rc : SedsResult
  state : σ
  deferred : Option TxItem

/-- `timeout_expired`. -/
def timeoutExpired (startMs nowMs : UInt64) (timeoutMs : UInt32) : Bool :=
  timeoutMs != 0 && decide (nowMs - startMs ≥ timeoutMs.toUInt64)

/-! ## Routers -/

namespace Router

section

variable (S : Schema) (Z : Codec) (E : Env)

/-- `pop_tx` and `transmit_item`. -/
def transmitFront (r : Router) : Option (TxItem × SedsResult × Router) :=
  match r.txQueue.pop TxItem.byteCost with
  | none => none
  | some (item, queue) => some (item, transmitItem S Z E (r.setOwner { r.toOwner with txQueue := queue }) item)

/-- `enqueue_tx_front` of a deferred item. -/
def putBack (r : Router) (item : TxItem) : Router := r.setOwner (r.toOwner.enqueueTxFront item)

/-- The loop of `seds_router_log_bytes_ex`. -/
def logDrain : Nat → Router → Drained Router
  | 0, r => ⟨SEDS_OK, r, none⟩
  | rounds + 1, r =>
    match transmitFront S Z E r with
    | none => ⟨SEDS_OK, r, none⟩
    | some (item, rc, r) =>
      if rc = SEDS_OK then logDrain rounds r
      else if rc = SEDS_IO then
        if r.sideTxDeferred then ⟨SEDS_OK, putBack (r.setOwner { r.toOwner with sideTxDeferred := false }) item, some item⟩
        else ⟨rc, r, some item⟩
      else ⟨rc, r, none⟩

/-- `seds_router_log_bytes_ex` with `queue` = 0: sending puts nothing into `tx_queue`, so the loop ends after as many rounds
    as there are packets in it. -/
def logBytesNow (r : Router) (ty : UInt32) (data : Bytes) (timestamp : Option UInt64) : Drained Router :=
  let (rc, r) := logBytesEx S Z E r ty data timestamp false
  if rc = SEDS_OK then logDrain S Z E r.txQueue.items.length r else ⟨rc, r, none⟩

/-- The loop of `seds_router_process_tx_queue_with_timeout`. -/
def txDrain : Nat → Router → Drained Router
  | 0, r => ⟨SEDS_OK, r, none⟩
  | rounds + 1, r =>
    match transmitFront S Z E r with
    | none => ⟨SEDS_OK, r, none⟩
    | some (item, rc, r) =>
      if rc = SEDS_OK then txDrain rounds r
      else if rc = SEDS_IO then ⟨SEDS_OK, r.putBack item, some item⟩
      else ⟨rc, r, none⟩

/-- `process_reliable_timeouts` and `process_end_to_end_reliable_timeouts`. -/
def timeouts (r : Router) : Router := processEndToEndReliableTimeouts S E (r.setOwner (r.toOwner.doReliableTimeouts E))

/-- `seds_router_process_tx_queue_with_timeout`. -/
def drainTxQueue (r : Router) : Drained Router :=
  let r := timeouts S E r
  txDrain S Z E r.txQueue.items.length r

/-- Both queues are empty. -/
def idle (o : Owner) : Bool := o.rxQueue.items.isEmpty && o.txQueue.items.isEmpty

/-- The loop of `seds_router_process_all_queues`, at most `rounds` rounds of it; the source has no such bound. -/
def allDrain : Nat → Router → Drained Router
  | 0, r => ⟨SEDS_OK, r, none⟩
  | rounds + 1, r =>
    let r := receiveNext S Z E (timeouts S E r)
    match transmitFront S Z E r with
    | none => if idle r.toOwner then ⟨SEDS_OK, r, none⟩ else allDrain rounds r
    | some (item, rc, r) =>
      if rc = SEDS_OK then if idle r.toOwner then ⟨SEDS_OK, r, none⟩ else allDrain rounds r
      else if rc = SEDS_IO then ⟨SEDS_OK, r.putBack item, some item⟩
      else ⟨rc, r, none⟩

/-- The first loop of the timed drain, at most `rounds` rounds of it. -/
def txPhase (startMs : UInt64) (budgetMs : UInt32) : Nat → Router → Drained Router
  | 0, r => ⟨SEDS_OK, r, none⟩
  | rounds + 1, r =>
    let r := timeouts S E r
    match transmitFront S Z E r with
    | none => ⟨SEDS_OK, r, none⟩
    | some (item, rc, r) =>
      if rc = SEDS_OK then
        let (now, o) := r.toOwner.nowMs E
        if timeoutExpired startMs now budgetMs then ⟨SEDS_OK, r.setOwner o, none⟩
        else txPhase startMs budgetMs rounds (r.setOwner o)
      else if rc = SEDS_IO then ⟨SEDS_OK, r.putBack item, some item⟩
      else ⟨rc, r, none⟩

/-- The second loop: receipt puts nothing into `rx_queue`. -/
def rxPhase (startMs : UInt64) (budgetMs : UInt32) : Nat → Router → Router
  | 0, r => r
  | rounds + 1, r =>
    if r.rxQueue.items.isEmpty then r
    else
      let r := receiveNext S Z E r
      let (now, o) := r.toOwner.nowMs E
      if timeoutExpired startMs now budgetMs then r.setOwner o else rxPhase startMs budgetMs rounds (r.setOwner o)

/-- `seds_router_process_all_queues_with_timeout`. -/
def processAllQueues (r : Router) (timeoutMs : UInt32) (rounds : Nat) : Drained Router :=
  if timeoutMs = 0 then allDrain S Z E rounds r
  else
    let txBudget := timeoutMs / 2
    let (start, o) := r.toOwner.nowMs E
    let sent := txPhase S Z E start txBudget rounds (r.setOwner o)
    if sent.rc = SEDS_OK then
      let (start, o) := sent.state.toOwner.nowMs E
      let r := sent.state.setOwner o
      { sent with state := rxPhase S Z E start (timeoutMs - txBudget) r.rxQueue.items.length r }
    else sent

/-- What happens to a router: an act, or a call that drains the transmit queue. -/
inductive Call where
  | act (act : Act)
  | logBytesNow (ty : UInt32) (data : Bytes) (timestamp : Option UInt64)
  | drainTxQueue
  | processAllQueues (timeoutMs : UInt32) (rounds : Nat)
  deriving DecidableEq, Repr

def answer (r : Router) : Call → Drained Router
  | .act act => ⟨SEDS_OK, perform S Z E r act, none⟩
  | .logBytesNow ty data timestamp => r.logBytesNow S Z E ty data timestamp
  | .drainTxQueue => r.drainTxQueue S Z E
  | .processAllQueues timeoutMs rounds => r.processAllQueues S Z E timeoutMs rounds

end

end Router

/-! ## Relays -/

namespace Relay

section

variable (S : Schema) (Z : Codec) (E : Env)

/-- `pop_tx` and `transmit_item`. -/
def transmitFront (r : Relay) : Option (TxItem × SedsResult × Relay) :=
  match r.txQueue.pop TxItem.byteCost with
  | none => none
  | some (item, queue) => some (item, transmitItem S Z E (r.setOwner { r.toOwner with txQueue := queue }) item)

def putBack (r : Relay) (item : TxItem) : Relay := r.setOwner (r.toOwner.enqueueTxFront item)

/-- The loop of `seds_relay_process_tx_queue_with_timeout`. -/
def txDrain : Nat → Relay → Drained Relay
  | 0, r => ⟨SEDS_OK, r, none⟩
  | rounds + 1, r =>
    match transmitFront S Z E r with
    | none => ⟨SEDS_OK, r, none⟩
    | some (item, rc, r) =>
      if rc = SEDS_OK then txDrain rounds r
      else if rc = SEDS_IO then ⟨SEDS_OK, r.putBack item, some item⟩
      else ⟨rc, r, none⟩

/-- `seds_relay_process_tx_queue_with_timeout`. -/
def drainTxQueue (r : Relay) : Drained Relay :=
  let r := r.setOwner (r.toOwner.doReliableTimeouts E)
  txDrain S Z E r.txQueue.items.length r

/-- The end of a round of the drain of both queues: whether there is another one. -/
def goesOn (startMs : UInt64) (timeoutMs : UInt32) (r : Relay) : Bool × Relay :=
  if Router.idle r.toOwner then (false, r)
  else
    let (now, o) := r.toOwner.nowMs E
    (!timeoutExpired startMs now timeoutMs, r.setOwner o)

/-- The loop of `seds_relay_process_all_queues_with_timeout`, at most `rounds` rounds of it. -/
def allDrain (startMs : UInt64) (timeoutMs : UInt32) : Nat → Relay → Drained Relay
  | 0, r => ⟨SEDS_OK, r, none⟩
  | rounds + 1, r =>
    let r := receiveNext S E (r.setOwner (r.toOwner.doReliableTimeouts E))
    let (now, o) := r.toOwner.nowMs E
    let r := r.setOwner o
    let next (r : Relay) : Drained Relay :=
      match goesOn E startMs timeoutMs r with
      | (true, r) => allDrain startMs timeoutMs rounds r
      | (false, r) => ⟨SEDS_OK, r, none⟩
    if timeoutExpired startMs now timeoutMs then next r
    else
      match transmitFront S Z E r with
      | none => next r
      | some (item, rc, r) =>
        if rc = SEDS_OK then next r
        else if rc = SEDS_IO then ⟨SEDS_OK, r.putBack item, some item⟩
        else ⟨rc, r, none⟩

/-- `seds_relay_process_all_queues_with_timeout`. -/
def processAllQueues (r : Relay) (timeoutMs : UInt32) (rounds : Nat) : Drained Relay :=
  let (start, o) := r.toOwner.nowMs E
  allDrain S Z E start timeoutMs rounds (r.setOwner o)

/-- What happens to a relay: an act, or a call that drains the transmit queue. -/
inductive Call where
  | act (act : Act)
  | drainTxQueue
  | processAllQueues (timeoutMs : UInt32) (rounds : Nat)
  deriving DecidableEq, Repr

def answer (r : Relay) : Call → Drained Relay
  | .act act => ⟨SEDS_OK, perform S Z E r act, none⟩
  | .drainTxQueue => r.drainTxQueue S Z E
  | .processAllQueues timeoutMs rounds => r.processAllQueues S Z E timeoutMs rounds

end

end Relay

/-! ## What the steps of a drain can do -/

namespace Owner

/-- A step that sends: whatever it queues fits, and the receive queue is left alone. -/
abbrev Sending (o o' : Owner) : Prop := Emits (fun _ => True) (fun _ => True) o o'

/-- Any step: whatever it queues fits. -/
abbrev Working (o o' : Owner) : Prop := Moves (fun _ => True) (fun _ => True) (fun _ => True) o o'

/-- A drain returns what it could not send: the items in the queue fit, and the deferred one is the first of them. -/
structure Returned (deferred : Option TxItem) (o : Owner) : Prop where
  fits : o.TxFits
  front : ∀ item ∈ deferred, o.txQueue.items.head? = some item

theorem Returned.of_fits {o : Owner} (h : o.TxFits) : Returned none o := ⟨h, fun _ hitem => nomatch hitem⟩

theorem Returned.of_eq {o o' : Owner} {deferred : Option TxItem} (h : Returned deferred o) (hqueue : o'.txQueue = o.txQueue)
    (hmemory : o'.memory = o.memory) : Returned deferred o' := by
  refine ⟨?_, ?_⟩
  · intro item hitem
    rw [hqueue] at hitem
    rw [hmemory]
    exact h.fits item hitem
  · intro item hitem
    rw [hqueue]
    exact h.front item hitem

/-- An item that fits is put back to the front. -/
theorem enqueueTxFront_returned {o : Owner} {item : TxItem} (hfits : o.TxFits) (hcost : item.byteCost ≤ o.memory.maxQueueBudget) :
    Returned (some item) (o.enqueueTxFront item) := by
  have hemits : Sending o (o.enqueueTxFront item) := .enqueueTxAt true o trivial
  refine ⟨hemits.fits hfits, ?_⟩
  intro _ hitem
  cases hitem
  unfold enqueueTxFront enqueueTxAt enqueueBounded
  rw [if_neg (UInt64.not_lt.mpr hcost)]
  rfl

end Owner

namespace Router

section

variable (S : Schema) (Z : Codec) (E : Env)

theorem transmitItem_sending (r : Router) (item : TxItem) : Sending r.toOwner (transmitItem S Z E r item).2.toOwner := by
  have htransmits : Transmits (fun _ => True) (fun _ _ => True) S Z r item :=
    ⟨fun _ _ _ _ => ⟨trivial, fun _ _ => trivial, fun _ _ _ _ => trivial, trivial⟩, trivial, trivial, fun _ _ _ _ => trivial⟩
  have hallows : Allows (fun _ => True) (fun _ => True) S := ⟨fun _ _ _ _ _ _ _ => trivial, fun _ _ => trivial⟩
  exact (transmitItem_does (M := fun _ => True) S hallows Z E htransmits).emits

theorem timeouts_sending (r : Router) : Sending r.toOwner (timeouts S E r).toOwner := by
  have htimeouts : Sending r.toOwner (r.toOwner.doReliableTimeouts E) := doReliableTimeouts_emits E r.toOwner fun _ _ _ => trivial
  have hagain := (processEndToEndReliableTimeouts_spec (P := fun _ => True) (Q := fun _ => True) S E
    (r := r.setOwner (r.toOwner.doReliableTimeouts E)) (fun _ => trivial)
    fun _ _ _ => ⟨fun _ _ _ => trivial, fun _ => trivial⟩).1
  exact htimeouts.trans hagain

variable {S Z E}

/-- What is taken off the queue fits into it. -/
theorem transmitFront_spec {r r' : Router} {item : TxItem} {rc : SedsResult} (h : transmitFront S Z E r = some (item, rc, r')) :
    Sending r.toOwner r'.toOwner ∧ (r.TxFits → item.byteCost ≤ r'.memory.maxQueueBudget) := by
  unfold transmitFront at h
  cases hpop : r.txQueue.pop TxItem.byteCost with
  | none =>
    rw [hpop] at h
    cases h
  | some p =>
    rw [hpop] at h
    obtain ⟨item', queue⟩ := p
    dsimp only at h
    rw [Option.some.injEq, Prod.mk.injEq] at h
    obtain ⟨rfl, hsent⟩ := h
    obtain ⟨hmem, hpopped⟩ := Emits.popTx (P := fun _ => True) (Q := fun _ => True) r.toOwner hpop
    have hsending := hpopped.trans (transmitItem_sending S Z E (r.setOwner { r.toOwner with txQueue := queue }) item')
    rw [hsent] at hsending
    refine ⟨hsending, fun hfits => ?_⟩
    rw [hsending.memory]
    exact hfits item' hmem

theorem putBack_returned {r r' : Router} {item : TxItem} {rc : SedsResult} (h : transmitFront S Z E r = some (item, rc, r'))
    (hfits : r.TxFits) : Returned (some item) (r'.putBack item).toOwner := by
  obtain ⟨hsending, hcost⟩ := transmitFront_spec h
  exact enqueueTxFront_returned (hsending.fits hfits) (hcost hfits)

/-- **The rule for a round** of a drain that puts a deferred item back: it is enough to look at the rounds after it. -/
theorem round_returned {r : Router} (hfits : r.TxFits) (done : Drained Router) (next : Router → Drained Router)
    (hdone : Returned done.deferred done.state.toOwner)
    (hnext : ∀ r' : Router, Sending r.toOwner r'.toOwner → Returned (next r').deferred (next r').state.toOwner)
    {d : Drained Router}
    (h : d = match transmitFront S Z E r with
      | none => done
      | some (item, rc, r') =>
        if rc = SEDS_OK then next r' else if rc = SEDS_IO then ⟨SEDS_OK, r'.putBack item, some item⟩ else ⟨rc, r', none⟩) :
    Returned d.deferred d.state.toOwner := by
  subst h
  cases hfront : transmitFront S Z E r with
  | none => exact hdone
  | some p =>
    obtain ⟨item, rc, r'⟩ := p
    have hsending := (transmitFront_spec hfront).1
    dsimp only
    split
    · exact hnext r' hsending
    · split
      · exact putBack_returned hfront hfits
      · exact .of_fits (hsending.fits hfits)

theorem txDrain_returned (rounds : Nat) {r : Router} (hfits : r.TxFits) :
    Returned (txDrain S Z E rounds r).deferred (txDrain S Z E rounds r).state.toOwner := by
  induction rounds generalizing r with
  | zero => exact .of_fits hfits
  | succ rounds ih =>
    apply round_returned hfits ⟨SEDS_OK, r, none⟩ (txDrain S Z E rounds) (.of_fits hfits)
    · intro r' hsending
      exact ih (hsending.fits hfits)
    · rfl

/-- The rounds of the drain are those of `Router.Act`. -/
theorem txDrain_eq (rounds : Nat) (r : Router) :
    ((txDrain S Z E rounds r).rc, (txDrain S Z E rounds r).state) = transmitRounds S Z E rounds r := by
  induction rounds generalizing r with
  | zero => rfl
  | succ rounds ih =>
    unfold txDrain transmitRounds transmitNext transmitFront
    cases r.txQueue.pop TxItem.byteCost with
    | none => rfl
    | some p =>
      obtain ⟨item, queue⟩ := p
      dsimp only
      generalize transmitItem S Z E (r.setOwner { r.toOwner with txQueue := queue }) item = p
      obtain ⟨rc, r'⟩ := p
      dsimp only
      by_cases hok : rc = SEDS_OK
      · subst hok
        exact ih r'
      · rw [if_neg hok, if_neg hok]
        by_cases hio : rc = SEDS_IO
        · rw [if_pos hio, if_pos hio, if_pos hio]
          rfl
        · rw [if_neg hio, if_neg hio, if_neg hio]

theorem drainTxQueue_eq (r : Router) : ((drainTxQueue S Z E r).rc, (drainTxQueue S Z E r).state) = processTxQueue S Z E r :=
  txDrain_eq _ (timeouts S E r)

theorem drainTxQueue_returned {r : Router} (hfits : r.TxFits) :
    Returned (drainTxQueue S Z E r).deferred (drainTxQueue S Z E r).state.toOwner :=
  txDrain_returned _ ((timeouts_sending S E r).fits hfits)

theorem receiveNext_fits {r : Router} (hfits : r.TxFits) : (receiveNext S Z E r).TxFits :=
  (perform_accounted S Z E r .receiveNext).fits hfits

theorem allDrain_returned (rounds : Nat) {r : Router} (hfits : r.TxFits) :
    Returned (allDrain S Z E rounds r).deferred (allDrain S Z E rounds r).state.toOwner := by
  induction rounds generalizing r with
  | zero => exact .of_fits hfits
  | succ rounds ih =>
    have hreceived : (receiveNext S Z E (timeouts S E r)).TxFits := receiveNext_fits ((timeouts_sending S E r).fits hfits)
    -- a round ends the drain when both queues are empty
    have hnext : ∀ r' : Router, r'.TxFits →
        Returned (if idle r'.toOwner then (⟨SEDS_OK, r', none⟩ : Drained Router) else allDrain S Z E rounds r').deferred
          (if idle r'.toOwner then (⟨SEDS_OK, r', none⟩ : Drained Router) else allDrain S Z E rounds r').state.toOwner := by
      intro r' hfits'
      split
      · exact .of_fits hfits'
      · exact ih hfits'
    apply round_returned hreceived _ (fun r' => if idle r'.toOwner then ⟨SEDS_OK, r', none⟩ else allDrain S Z E rounds r')
      (hnext _ hreceived)
    · intro r' hsending
      exact hnext r' (hsending.fits hreceived)
    · rfl

theorem txPhase_returned (startMs : UInt64) (budgetMs : UInt32) (rounds : Nat) {r : Router} (hfits : r.TxFits) :
    Returned (txPhase S Z E startMs budgetMs rounds r).deferred (txPhase S Z E startMs budgetMs rounds r).state.toOwner := by
  induction rounds generalizing r with
  | zero => exact .of_fits hfits
  | succ rounds ih =>
    have htimeouts := (timeouts_sending S E r).fits hfits
    apply round_returned htimeouts ⟨SEDS_OK, timeouts S E r, none⟩ (fun r' =>
        if timeoutExpired startMs (r'.toOwner.nowMs E).1 budgetMs then ⟨SEDS_OK, r'.setOwner (r'.toOwner.nowMs E).2, none⟩
        else txPhase S Z E startMs budgetMs rounds (r'.setOwner (r'.toOwner.nowMs E).2)) (.of_fits htimeouts)
    · intro r' hsending
      have hread : (r'.toOwner.nowMs E).2.TxFits := hsending.fits htimeouts
      split
      · exact .of_fits hread
      · exact ih hread
    · rfl

/-- The first phase leaves the receive queue alone. -/
theorem txPhase_rxQueue (startMs : UInt64) (budgetMs : UInt32) (rounds : Nat) (r : Router) :
    (txPhase S Z E startMs budgetMs rounds r).state.rxQueue = r.rxQueue := by
  induction rounds generalizing r with
  | zero => rfl
  | succ rounds ih =>
    have htimeouts := (timeouts_sending S E r).queue
    unfold txPhase
    dsimp only
    cases hfront : transmitFront S Z E (timeouts S E r) with
    | none => exact htimeouts
    | some p =>
      obtain ⟨item, rc, r'⟩ := p
      have hsent := (transmitFront_spec hfront).1.queue.trans htimeouts
      dsimp only
      split
      · split
        · exact hsent
        · exact (ih _).trans hsent
      · split
        · have hback : Sending r'.toOwner (r'.toOwner.enqueueTxFront item) := .enqueueTxAt true _ trivial
          exact hback.queue.trans hsent
        · exact hsent

theorem rxPhase_fits (startMs : UInt64) (budgetMs : UInt32) (rounds : Nat) {r : Router} (hfits : r.TxFits) :
    (rxPhase S Z E startMs budgetMs rounds r).TxFits := by
  induction rounds generalizing r with
  | zero => exact hfits
  | succ rounds ih =>
    have hreceived : (receiveNext S Z E r).TxFits := receiveNext_fits hfits
    unfold rxPhase
    dsimp only
    split
    · exact hfits
    · split
      · exact hreceived
      · exact ih hreceived

/-- Where there is nothing to receive, the second phase does nothing. -/
theorem rxPhase_idle (startMs : UInt64) (budgetMs : UInt32) {r : Router} (h : r.rxQueue.items = []) :
    rxPhase S Z E startMs budgetMs r.rxQueue.items.length r = r := by
  rw [h]
  rfl

theorem processAllQueues_fits (timeoutMs : UInt32) (rounds : Nat) {r : Router} (hfits : r.TxFits) :
    (processAllQueues S Z E r timeoutMs rounds).state.TxFits := by
  unfold processAllQueues
  split
  · exact (allDrain_returned rounds hfits).fits
  · have hsent := txPhase_returned (S := S) (Z := Z) (E := E) (r.toOwner.nowMs E).1 (timeoutMs / 2) rounds
      (r := r.setOwner (r.toOwner.nowMs E).2) hfits
    dsimp only
    split
    · exact rxPhase_fits _ _ _ hsent.fits
    · exact hsent.fits

theorem processAllQueues_returned {timeoutMs : UInt32} (rounds : Nat) {r : Router} (hfits : r.TxFits)
    (hidle : timeoutMs ≠ 0 → r.rxQueue.items = []) :
    Returned (processAllQueues S Z E r timeoutMs rounds).deferred (processAllQueues S Z E r timeoutMs rounds).state.toOwner := by
  unfold processAllQueues
  split
  · exact allDrain_returned rounds hfits
  · rename_i htimed
    have hsent := txPhase_returned (S := S) (Z := Z) (E := E) (r.toOwner.nowMs E).1 (timeoutMs / 2) rounds
      (r := r.setOwner (r.toOwner.nowMs E).2) hfits
    have hqueue := txPhase_rxQueue (S := S) (Z := Z) (E := E) (r.toOwner.nowMs E).1 (timeoutMs / 2) rounds
      (r.setOwner (r.toOwner.nowMs E).2)
    dsimp only
    split
    · rw [rxPhase_idle]
      · exact hsent.of_eq rfl rfl
      · exact (congrArg Bounded.items hqueue).trans (hidle htimed)
    · exact hsent

/-! ## Sides without a callback for frames -/

/-- The transmission of the item may be deferred: it may go to a side that takes frames. -/
def deferrable (S : Schema) (o : Owner) (item : TxItem) : Bool :=
  (List.range o.sides.length).any fun i =>
    (o.egressSide (Int32.ofNat i)).any (fun side => side.serializedTx) && o.goesTo S item (Int32.ofNat i)

theorem deferrable_spec {o : Owner} {item : TxItem} (h : deferrable S o item = false) {sideId : Int32} {side : Side}
    (hside : o.egressSide sideId = some side) (hgoes : o.goesTo S item sideId = true) : side.serializedTx = false := by
  obtain ⟨i, hi, rfl⟩ := sideAt_index (egressSide_spec hside).1
  have hnot := List.any_eq_false.mp h i (List.mem_range.mpr hi)
  rw [hside, hgoes, Bool.and_true, Option.any_some] at hnot
  exact Bool.eq_false_of_not_eq_true hnot

theorem deferrable_of_routeView {o o' : Owner} (h : o'.routeView = o.routeView) (item : TxItem) :
    deferrable S o' item = deferrable S o item := by
  have hsides : o'.sides = o.sides := congrArg Prod.fst h
  unfold deferrable Owner.egressSide Owner.sideAt
  simp only [hsides, goesTo_of_routeView h]

/-- The queue and the routes are as before. -/
def SameQueue (o o' : Owner) : Prop := o'.txQueue = o.txQueue ∧ o'.routeView = o.routeView

theorem SameQueue.trans {o o' o'' : Owner} (h : SameQueue o o') (h' : SameQueue o' o'') : SameQueue o o'' :=
  ⟨h'.1.trans h.1, h'.2.trans h.2⟩

theorem SameQueue.of_calls {o o' : Owner} (h : Calls o o') : SameQueue o o' := by
  obtain ⟨_, _, rfl⟩ := h
  exact ⟨rfl, rfl⟩

theorem reportTxFailure_calls (device : Bytes) (locals : List LocalEndpoint) (o : Owner) (side : Side) (rc : SedsResult)
    (pkt : PacketData) : Calls o (reportTxFailure S Z E device locals o side rc pkt) := by
  unfold reportTxFailure
  split
  · exact dispatchLocalFromPacket_calls S Z E device locals _ o
  · exact .refl o

theorem sendToSide_calls (o : Owner) (sideId : Int32) {side : Side} (h : side.serializedTx = false) (item : TxItem) :
    Calls o (o.sendToSide S Z E sideId side item).2 := by
  unfold sendToSide
  rw [h]
  dsimp only
  cases side.packetTx with
  | false => exact ⟨_, _, rfl⟩
  | true => exact ⟨_, _, rfl⟩

/-- Packets that only go to sides without a callback for frames are not deferred. -/
theorem routerTransmitTo_calls (device : Bytes) (locals : List LocalEndpoint) (item : TxItem) (sides : List Int32) (failed : Bool)
    (o : Owner) (h : ∀ sideId ∈ sides, ∀ side, o.egressSide sideId = some side → side.serializedTx = false) :
    (routerTransmitTo S Z E device locals item sides failed o).1 ≠ SEDS_IO ∧
    Calls o (routerTransmitTo S Z E device locals item sides failed o).2 := by
  induction sides generalizing failed o with
  | nil =>
    refine ⟨?_, .refl o⟩
    unfold routerTransmitTo
    cases failed with
    | false => exact (by decide : SEDS_OK ≠ SEDS_IO)
    | true => exact (by decide : SEDS_HANDLER_ERROR ≠ SEDS_IO)
  | cons sideId rest ih =>
    have hrest : ∀ (failed : Bool) (o' : Owner), Calls o o' →
        (routerTransmitTo S Z E device locals item rest failed o').1 ≠ SEDS_IO ∧
        Calls o (routerTransmitTo S Z E device locals item rest failed o').2 := by
      intro failed o' hcalls
      obtain ⟨hrc, hmore⟩ := ih failed o' (by
        intro sideId' hmem side hside
        obtain ⟨_, _, rfl⟩ := hcalls
        exact h sideId' (List.mem_cons_of_mem sideId hmem) side hside)
      exact ⟨hrc, hcalls.trans hmore⟩
    unfold routerTransmitTo
    cases hside : o.egressSide sideId with
    | none => exact hrest failed o (.refl o)
    | some side =>
      have hplain := h sideId List.mem_cons_self side hside
      have hsent := sendToSide_calls (S := S) (Z := Z) (E := E) o sideId hplain item
      dsimp only
      split
      · exact hrest failed _ hsent
      · have hnot : ∀ (o : Owner) (rc : SedsResult), o.isDeferred side rc = false := by
          intro o rc
          unfold isDeferred
          rw [hplain, Bool.false_and, Bool.false_and]
        rw [hnot, if_neg Bool.false_ne_true]
        exact hrest true _ (hsent.trans (reportTxFailure_calls device locals _ side _ item.pkt))

theorem targets_sameQueue (o : Owner) (item : TxItem) (preferred : Option Bytes) :
    SameQueue o (o.targets S E item preferred).2 := by
  refine ⟨?_, targets_routeView S E o item preferred⟩
  unfold targets setPolicyOf
  dsimp only
  cases item.srcSide with
  | none => rfl
  | some src => rfl

theorem trackEndToEnd_sameQueue (r : Router) (pkt : PacketData) (sides : List Int32) :
    SameQueue r.toOwner (trackEndToEnd S E r pkt sides).toOwner := by
  unfold trackEndToEnd
  split
  · dsimp only
    split
    · exact ⟨rfl, rfl⟩
    · exact ⟨rfl, rfl⟩
  · exact ⟨rfl, rfl⟩

theorem transmitItem_undeferred {r : Router} {item : TxItem} (h : deferrable S r.toOwner item = false) :
    (transmitItem S Z E r item).1 ≠ SEDS_IO ∧ SameQueue r.toOwner (transmitItem S Z E r item).2.toOwner := by
  unfold transmitItem
  have hlocal := SameQueue.of_calls (deliverLocal_calls S Z E r item)
  generalize deliverLocal S Z E r item = p at hlocal ⊢
  obtain ⟨ok, r₁⟩ := p
  cases ok with
  | false => exact ⟨(by decide : SEDS_HANDLER_ERROR ≠ SEDS_IO), hlocal⟩
  | true =>
    dsimp only at hlocal ⊢
    have hchosen := hlocal.trans (targets_sameQueue (S := S) (E := E) r₁.toOwner item (r₁.preferredSource item.pkt))
    have hmem : ∀ sideId ∈ (r₁.toOwner.targets S E item (r₁.preferredSource item.pkt)).1,
        r₁.toOwner.goesTo S item sideId = true := fun sideId hsideId => goesTo_of_mem_targets hsideId
    generalize r₁.toOwner.targets S E item (r₁.preferredSource item.pkt) = p at hchosen hmem ⊢
    obtain ⟨sides, o⟩ := p
    dsimp only at hchosen hmem ⊢
    have htracked := hchosen.trans (trackEndToEnd_sameQueue (S := S) (E := E) (r₁.setOwner o) item.pkt sides)
    generalize trackEndToEnd S E (r₁.setOwner o) item.pkt sides = r₂ at htracked ⊢
    obtain ⟨hrc, hcalls⟩ := routerTransmitTo_calls (S := S) (Z := Z) (E := E) r₂.deviceIdentifier r₂.locals item sides false
      r₂.toOwner (by
        intro sideId hsideId side hside
        have hat : r.egressSide sideId = some side := by
          have hsides : r₂.sides = r.sides := congrArg Prod.fst htracked.2
          unfold Owner.egressSide Owner.sideAt at hside ⊢
          rwa [hsides] at hside
        apply deferrable_spec h hat
        rw [← goesTo_of_routeView hlocal.2]
        exact hmem sideId hsideId)
    exact ⟨hrc, htracked.trans (.of_calls hcalls)⟩

theorem logDrain_fits (rounds : Nat) {r : Router} (hfits : r.TxFits) : (logDrain S Z E rounds r).state.TxFits := by
  induction rounds generalizing r with
  | zero => exact hfits
  | succ rounds ih =>
    unfold logDrain
    cases hfront : transmitFront S Z E r with
    | none => exact hfits
    | some p =>
      obtain ⟨item, rc, r'⟩ := p
      have hsent : r'.TxFits := (transmitFront_spec hfront).1.fits hfits
      dsimp only
      split
      · exact ih hsent
      · split
        · split
          · have hback : Sending { r'.toOwner with sideTxDeferred := false }
                (Owner.enqueueTxFront { r'.toOwner with sideTxDeferred := false } item) := .enqueueTxAt true _ trivial
            exact hback.fits hsent
          · exact hsent
        · exact hsent

/-- **The loop of `log_bytes_ex` loses nothing** where no item may be deferred. -/
theorem logDrain_undeferred (rounds : Nat) {r : Router} (h : ∀ item ∈ r.txQueue.items, deferrable S r.toOwner item = false) :
    (logDrain S Z E rounds r).deferred = none := by
  induction rounds generalizing r with
  | zero => rfl
  | succ rounds ih =>
    unfold logDrain transmitFront
    cases hpop : r.txQueue.pop TxItem.byteCost with
    | none => rfl
    | some p =>
      obtain ⟨item, queue⟩ := p
      obtain ⟨hmem, hpopped⟩ := Emits.popTx (P := fun _ => False) (Q := fun _ => True) r.toOwner hpop
      obtain ⟨hrc, hsame⟩ := transmitItem_undeferred (S := S) (Z := Z) (E := E)
        (r := r.setOwner { r.toOwner with txQueue := queue }) (h item hmem)
      have hleft : ∀ x ∈ queue.items, deferrable S r.toOwner x = false := by
        intro x hx
        rcases hpopped.tx x hx with hold | hnone
        · exact h x hold
        · exact hnone.elim
      dsimp only
      generalize transmitItem S Z E (r.setOwner { r.toOwner with txQueue := queue }) item = p at hrc hsame ⊢
      obtain ⟨rc, r'⟩ := p
      dsimp only at hrc hsame ⊢
      rw [if_neg hrc]
      split
      · apply ih
        intro x hx
        rw [hsame.1] at hx
        rw [deferrable_of_routeView hsame.2]
        exact hleft x hx
      · rfl

/-- The item `log_bytes_ex` puts into the queue. -/
def loggedItem (S : Schema) (E : Env) (r : Router) (ty : UInt32) (data : Bytes) (timestamp : Option UInt64) : TxItem :=
  ⟨(logPacket S E r ty data timestamp).1, none, none, false⟩

theorem logBytesEx_spec (r : Router) (ty : UInt32) (data : Bytes) (timestamp : Option UInt64) :
    (logBytesEx S Z E r ty data timestamp false).2.toOwner.routeView = r.toOwner.routeView ∧
    ∀ item ∈ (logBytesEx S Z E r ty data timestamp false).2.txQueue.items,
      item = loggedItem S E r ty data timestamp ∨ item ∈ r.txQueue.items := by
  unfold logBytesEx loggedItem
  split
  · exact ⟨rfl, fun _ h => .inr h⟩
  · have hstamped : SameQueue r.toOwner (logPacket S E r ty data timestamp).2.toOwner := by
      cases timestamp with
      | none => exact ⟨rfl, rfl⟩
      | some ts => exact ⟨rfl, rfl⟩
    generalize logPacket S E r ty data timestamp = p at hstamped ⊢
    obtain ⟨pkt, r₁⟩ := p
    dsimp only at hstamped ⊢
    have hshown := hstamped.trans
      (.of_calls (dispatchLocalFromPacket_calls S Z E r₁.deviceIdentifier r₁.locals pkt r₁.toOwner))
    rw [if_neg Bool.false_ne_true]
    generalize dispatchLocalFromPacket S Z E r₁.deviceIdentifier r₁.locals pkt r₁.toOwner = o at hshown ⊢
    unfold submitTx
    split
    · refine ⟨hshown.2, ?_⟩
      intro item hitem
      rw [setOwner_toOwner, hshown.1] at hitem
      exact .inr hitem
    · dsimp only
      rw [if_neg Bool.false_ne_true]
      have hqueued : Emits (· = (⟨pkt, none, none, false⟩ : TxItem)) (fun _ => True) o (o.enqueueTx ⟨pkt, none, none, false⟩) :=
        .enqueueTxAt false o rfl
      refine ⟨?_, ?_⟩
      · rw [← hshown.2]
        unfold enqueueTx enqueueTxAt
        split
        · rfl
        · rfl
      · intro item hitem
        rcases hqueued.tx item hitem with hold | hnew
        · rw [hshown.1] at hold
          exact .inr hold
        · exact .inl hnew

theorem logBytesNow_fits (ty : UInt32) (data : Bytes) (timestamp : Option UInt64) {r : Router} (hfits : r.TxFits) :
    (logBytesNow S Z E r ty data timestamp).state.TxFits := by
  have hlogged := (perform_accounted S Z E r (.logBytesEx ty data timestamp false)).fits hfits
  unfold logBytesNow
  dsimp only
  split
  · exact logDrain_fits _ hlogged
  · exact hlogged

theorem logBytesNow_undeferred {ty : UInt32} {data : Bytes} {timestamp : Option UInt64} {r : Router}
    (h : ∀ item ∈ loggedItem S E r ty data timestamp :: r.txQueue.items, deferrable S r.toOwner item = false) :
    (logBytesNow S Z E r ty data timestamp).deferred = none := by
  obtain ⟨hroutes, hitems⟩ := logBytesEx_spec (S := S) (Z := Z) (E := E) r ty data timestamp
  unfold logBytesNow
  dsimp only
  split
  · apply logDrain_undeferred
    intro item hitem
    rw [deferrable_of_routeView hroutes]
    exact h item (List.mem_cons.mpr (hitems item hitem))
  · rfl

/-! ## Runs of a router -/

/-- Nothing is sent at once from inside a tx callback that may be deferred, and the timed drain is called there only when
    there is nothing to receive. -/
def Careful (S : Schema) (E : Env) (r : Router) : Call → Prop
  | .logBytesNow ty data timestamp => r.sideTxActive = true →
    ∀ item ∈ loggedItem S E r ty data timestamp :: r.txQueue.items, deferrable S r.toOwner item = false
  | .processAllQueues timeoutMs _ => r.sideTxActive = true → timeoutMs ≠ 0 → r.rxQueue.items = []
  | _ => True

theorem answer_fits (r : Router) (call : Call) (hfits : r.TxFits) : (answer S Z E r call).state.TxFits := by
  cases call with
  | act act => exact (perform_accounted S Z E r act).fits hfits
  | logBytesNow ty data timestamp => exact logBytesNow_fits ty data timestamp hfits
  | drainTxQueue => exact (drainTxQueue_returned hfits).fits
  | processAllQueues timeoutMs rounds => exact processAllQueues_fits timeoutMs rounds hfits

theorem answer_front {r : Router} {call : Call} (hcareful : Careful S E r call) (hactive : r.sideTxActive = true)
    (hfits : r.TxFits) : ∀ item ∈ (answer S Z E r call).deferred, (answer S Z E r call).state.txQueue.items.head? = some item := by
  cases call with
  | act act =>
    intro item hitem
    cases hitem
  | logBytesNow ty data timestamp =>
    intro item hitem
    have hnone : (answer S Z E r (.logBytesNow ty data timestamp)).deferred = none :=
      logBytesNow_undeferred (hcareful hactive)
    rw [hnone] at hitem
    cases hitem
  | drainTxQueue => exact (drainTxQueue_returned hfits).front
  | processAllQueues timeoutMs rounds => exact (processAllQueues_returned rounds hfits (hcareful hactive)).front

end

end Router

/-! ## Runs of a relay

Every drain of a relay ends where an item is deferred. -/

namespace Relay

section

variable {S : Schema} {Z : Codec} {E : Env}

theorem transmitFront_spec {r r' : Relay} {item : TxItem} {rc : SedsResult} (h : transmitFront S Z E r = some (item, rc, r')) :
    Sending r.toOwner r'.toOwner ∧ (r.TxFits → item.byteCost ≤ r'.memory.maxQueueBudget) := by
  unfold transmitFront at h
  cases hpop : r.txQueue.pop TxItem.byteCost with
  | none =>
    rw [hpop] at h
    cases h
  | some p =>
    rw [hpop] at h
    obtain ⟨item', queue⟩ := p
    dsimp only at h
    rw [Option.some.injEq, Prod.mk.injEq] at h
    obtain ⟨rfl, hsent⟩ := h
    obtain ⟨hmem, hpopped⟩ := Emits.popTx (P := fun _ => True) (Q := fun _ => True) r.toOwner hpop
    have htransmits : Transmits (fun _ => True) S Z (r.setOwner { r.toOwner with txQueue := queue }) item' :=
      ⟨fun _ _ _ _ => ⟨trivial, fun _ _ => trivial, fun _ _ _ _ => trivial, trivial⟩, trivial⟩
    have hsending := hpopped.trans (transmitItem_emits S Z E htransmits)
    rw [hsent] at hsending
    refine ⟨hsending, fun hfits => ?_⟩
    rw [hsending.memory]
    exact hfits item' hmem

/-- **The rule for a round**, as for routers. -/
theorem round_returned {r : Relay} (hfits : r.TxFits) (done : Drained Relay) (next : Relay → Drained Relay)
    (hdone : Returned done.deferred done.state.toOwner)
    (hnext : ∀ r' : Relay, Sending r.toOwner r'.toOwner → Returned (next r').deferred (next r').state.toOwner)
    {d : Drained Relay}
    (h : d = match transmitFront S Z E r with
      | none => done
      | some (item, rc, r') =>
        if rc = SEDS_OK then next r' else if rc = SEDS_IO then ⟨SEDS_OK, r'.putBack item, some item⟩ else ⟨rc, r', none⟩) :
    Returned d.deferred d.state.toOwner := by
  subst h
  cases hfront : transmitFront S Z E r with
  | none => exact hdone
  | some p =>
    obtain ⟨item, rc, r'⟩ := p
    obtain ⟨hsending, hcost⟩ := transmitFront_spec hfront
    dsimp only
    split
    · exact hnext r' hsending
    · split
      · exact enqueueTxFront_returned (hsending.fits hfits) (hcost hfits)
      · exact .of_fits (hsending.fits hfits)

theorem txDrain_returned (rounds : Nat) {r : Relay} (hfits : r.TxFits) :
    Returned (txDrain S Z E rounds r).deferred (txDrain S Z E rounds r).state.toOwner := by
  induction rounds generalizing r with
  | zero => exact .of_fits hfits
  | succ rounds ih =>
    apply round_returned hfits ⟨SEDS_OK, r, none⟩ (txDrain S Z E rounds) (.of_fits hfits)
    · intro r' hsending
      exact ih (hsending.fits hfits)
    · rfl

theorem allDrain_returned (startMs : UInt64) (timeoutMs : UInt32) (rounds : Nat) {r : Relay} (hfits : r.TxFits) :
    Returned (allDrain S Z E startMs timeoutMs rounds r).deferred (allDrain S Z E startMs timeoutMs rounds r).state.toOwner := by
  induction rounds generalizing r with
  | zero => exact .of_fits hfits
  | succ rounds ih =>
    have htimeouts := (perform_accounted S Z E r .reliableTimeouts).fits hfits
    have hreceived := (perform_accounted S Z E _ .receiveNext).fits htimeouts
    unfold allDrain
    dsimp only
    generalize hr : (receiveNext S E (r.setOwner (r.toOwner.doReliableTimeouts E))).setOwner
      ((receiveNext S E (r.setOwner (r.toOwner.doReliableTimeouts E))).toOwner.nowMs E).2 = r₁
    have hfits₁ : r₁.TxFits := by
      rw [← hr]
      exact hreceived
    -- a round ends the drain when both queues are empty, or the time is up
    let next (r : Relay) : Drained Relay :=
      match goesOn E startMs timeoutMs r with
      | (true, r) => allDrain S Z E startMs timeoutMs rounds r
      | (false, r) => ⟨SEDS_OK, r, none⟩
    have hnext : ∀ r' : Relay, r'.TxFits → Returned (next r').deferred (next r').state.toOwner := by
      intro r' hfits'
      have hread : (goesOn E startMs timeoutMs r').2.TxFits := by
        unfold goesOn
        split
        · exact hfits'
        · exact hfits'
      dsimp only [next]
      generalize goesOn E startMs timeoutMs r' = p at hread ⊢
      obtain ⟨on, r''⟩ := p
      cases on with
      | true => exact ih hread
      | false => exact .of_fits hread
    split
    · exact hnext r₁ hfits₁
    · apply round_returned hfits₁ (next r₁) next (hnext r₁ hfits₁)
      · intro r' hsending
        exact hnext r' (hsending.fits hfits₁)
      · rfl

theorem answer_returned (r : Relay) (call : Call) (hfits : r.TxFits) :
    Returned (answer S Z E r call).deferred (answer S Z E r call).state.toOwner := by
  cases call with
  | act act => exact .of_fits ((perform_accounted S Z E r act).fits hfits)
  | drainTxQueue => exact txDrain_returned _ ((perform_accounted S Z E r .reliableTimeouts).fits hfits)
  | processAllQueues timeoutMs rounds => exact allDrain_returned _ timeoutMs rounds hfits

end

end Relay

section

variable (S : Schema) (Z : Codec) (E : Env)

/-- **A deferred item is the first of the queue when the call returns**, in every run of a router that is careful inside
    tx callbacks, and in every run of a relay. -/
theorem deferred_returned :
    (∀ (r : Router) (calls : List Router.Call), r.txQueue.items = [] →
      Along (fun r call => (r.answer S Z E call).state) (Router.Careful S E) r calls →
      ∀ before call after, calls = before ++ call :: after →
        let r' := runFrom (fun r call => (r.answer S Z E call).state) r before
        r'.sideTxActive = true →
          ∀ item ∈ (r'.answer S Z E call).deferred, (r'.answer S Z E call).state.txQueue.items.head? = some item) ∧
    ∀ (r : Relay) (calls : List Relay.Call), r.txQueue.items = [] →
      let r' := runFrom (fun r call => (r.answer S Z E call).state) r calls
      ∀ call, ∀ item ∈ (r'.answer S Z E call).deferred, (r'.answer S Z E call).state.txQueue.items.head? = some item := by
  have hempty : ∀ o : Owner, o.txQueue.items = [] → o.TxFits := by
    intro o h item hitem
    rw [h] at hitem
    cases hitem
  refine ⟨?_, ?_⟩
  · intro r calls hstart hcareful before call after heq r' hactive
    subst heq
    obtain ⟨hfits, hcall⟩ := hcareful.invariant_before (I := fun r => r.TxFits) (hempty r.toOwner hstart)
      fun r call _ hfits => Router.answer_fits r call hfits
    exact Router.answer_front hcall hactive hfits
  · intro r calls hstart r' call
    have hfits : r'.TxFits := by
      have hrun : ∀ (calls : List Relay.Call) (r : Relay), r.TxFits →
          (runFrom (fun r call => (Relay.answer S Z E r call).state) r calls).TxFits := by
        intro calls
        induction calls with
        | nil => exact fun r h => h
        | cons call calls ih => exact fun r h => ih _ (Relay.answer_returned r call h).fits
      exact hrun calls r (hempty r.toOwner hstart)
    exact (Relay.answer_returned r' call hfits).front

end

/-- A router that has a side for frames, and handles the endpoint of the reports. -/
def calledRouter : Router := .new .Sink (ascii "R") [.serialized [] true] [⟨100, true, false⟩]

def calledRelay : Relay := .new [.serialized [] true, .serialized [] true]

/-- A report is queued, or waits to be relayed, and the queue is drained inside a tx callback. -/
def calledCalls : List Router.Call := [.act (.logBytesEx 100 gpsPacket.payload none true), .act (.sideTx true), .drainTxQueue]

def calledRelayCalls : List Relay.Call := [.act (.rxSerializedFromSide 0 (Relay.gpsFrame 1)), .act .receiveNext, .act (.sideTx true)]

theorem deferred_returned_called :
    (∃ r : Router, (r.answer defaultTestSchema (.absent 16) .calm .drainTxQueue).deferred.isSome = true ∧
      ∀ item ∈ (r.answer defaultTestSchema (.absent 16) .calm .drainTxQueue).deferred,
        (r.answer defaultTestSchema (.absent 16) .calm .drainTxQueue).state.txQueue.items.head? = some item) ∧
    ∃ r : Relay, (r.answer defaultTestSchema (.absent 16) .calm .drainTxQueue).deferred.isSome = true ∧
      ∀ item ∈ (r.answer defaultTestSchema (.absent 16) .calm .drainTxQueue).deferred,
        (r.answer defaultTestSchema (.absent 16) .calm .drainTxQueue).state.txQueue.items.head? = some item := by
  have hcareful : Along (fun r call => (Router.answer defaultTestSchema (.absent 16) .calm r call).state)
      (Router.Careful defaultTestSchema .calm) calledRouter calledCalls := ⟨trivial, trivial, trivial, trivial⟩
  refine ⟨⟨runFrom (fun r call => (Router.answer defaultTestSchema (.absent 16) .calm r call).state) calledRouter
      (calledCalls.take 2), by decide +kernel,
      (deferred_returned defaultTestSchema (.absent 16) .calm).1 calledRouter calledCalls rfl hcareful (calledCalls.take 2)
        .drainTxQueue [] rfl (by decide +kernel)⟩,
    ⟨runFrom (fun r call => (Relay.answer defaultTestSchema (.absent 16) .calm r call).state) calledRelay calledRelayCalls,
      by decide +kernel, (deferred_returned defaultTestSchema (.absent 16) .calm).2 calledRelay calledRelayCalls rfl .drainTxQueue⟩⟩

/-- A report that is sent at once inside a tx callback is gone, and the timed drain of a router puts two acknowledgements
    before the packet it has deferred. -/
theorem deferred_lost :
    (let r := runFrom (fun r call => (Router.answer defaultTestSchema (.absent 16) .calm r call).state) calledRouter [.act (.sideTx true)]
      let d := r.answer defaultTestSchema (.absent 16) .calm (.logBytesNow 100 gpsPacket.payload none)
      r.sideTxActive = true ∧ d.rc = SEDS_IO ∧ d.state.txQueue.items = [] ∧
        ¬ ∀ item ∈ d.deferred, d.state.txQueue.items.head? = some item) ∧
    let r := runFrom (fun r call => (Router.answer defaultTestSchema (.absent 16) .calm r call).state) calledRouter
      [.act (.rxSerializedPacketToQueueFromSide 0 (Relay.gpsFrame 1)), .act (.sideTx true)]
    let d := r.answer defaultTestSchema (.absent 16) .calm (.processAllQueues 10 5)
    r.sideTxActive = true ∧ d.deferred = d.state.txQueue.items[2]? ∧
      ¬ ∀ item ∈ d.deferred, d.state.txQueue.items.head? = some item := by
  decide +kernel

end SedsNet
