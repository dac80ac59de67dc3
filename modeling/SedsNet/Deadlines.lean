import SedsNet.Drain

/-!
# Deadlines of the timed drain

`seds_router_process_all_queues_with_timeout` splits its time: half of it, rounded down, is for sending, and the rest for
receiving. `timeout_expired` takes a budget of zero for no limit, so with a timeout of one millisecond nothing stops the
first loop but an empty queue (`processAllQueues_honoured`).

The two loops are written out once more with what the clock shows after each item.
-/

set_option autoImplicit false

namespace SedsNet

open Lib Owner

/-! ## What the clock shows -/

/-- The items of a phase: how much time had gone by after each of them, where the clock was read. -/
abbrev Turns : Type := List (Option UInt64)

/-- Nothing is done after the clock has shown that the time is over. -/
def Honoured (timeoutMs : UInt32) (turns : Turns) : Prop :=
  ∀ before elapsed after, turns = before ++ some elapsed :: after → timeoutMs.toUInt64 ≤ elapsed → after = []

namespace Honoured

variable {timeoutMs : UInt32}

theorem nil : Honoured timeoutMs [] := by
  intro before elapsed after hsplit
  exact absurd hsplit.symm (List.append_ne_nil_of_right_ne_nil before (List.cons_ne_nil _ _))

/-- The last item. -/
theorem last (shown : Option UInt64) : Honoured timeoutMs [shown] := by
  intro before elapsed after hsplit _
  cases before with
  | nil => exact (List.cons_eq_cons.mp hsplit).2.symm
  | cons b before =>
    have hnil := (List.cons_eq_cons.mp hsplit).2
    exact absurd hnil.symm (List.append_ne_nil_of_right_ne_nil before (List.cons_ne_nil _ _))

/-- An item before the time is over. -/
theorem cons {turns : Turns} (h : Honoured timeoutMs turns) {elapsed : UInt64} (hearly : elapsed < timeoutMs.toUInt64) :
    Honoured timeoutMs (some elapsed :: turns) := by
  intro before elapsed' after hsplit hlate
  cases before with
  | nil =>
    obtain ⟨hshown, -⟩ := List.cons_eq_cons.mp hsplit
    rw [← Option.some.inj hshown] at hlate
    exact absurd hearly (UInt64.not_lt.mpr hlate)
  | cons b before => exact h before elapsed' after (List.cons_eq_cons.mp hsplit).2 hlate

end Honoured

/-- A budget that is not over, and is a limit. -/
theorem elapsed_lt_of_not_expired {startMs nowMs : UInt64} {budgetMs : UInt32} (hlimit : budgetMs ≠ 0)
    (hleft : timeoutExpired startMs nowMs budgetMs = false) : nowMs - startMs < budgetMs.toUInt64 := by
  unfold timeoutExpired at hleft
  rw [bne_iff_ne.mpr hlimit, Bool.true_and, decide_eq_false_iff_not] at hleft
  exact UInt64.not_le.mp hleft

namespace Router

section

variable (S : Schema) (Z : Codec) (E : Env)

/-- `txPhase`, with what the clock shows. -/
def txPhaseTimed (startMs : UInt64) (budgetMs : UInt32) : Nat → Router → Turns × Drained Router
  | 0, r => ([], ⟨SEDS_OK, r, none⟩)
  | rounds + 1, r =>
    let r := timeouts S E r
    match transmitFront S Z E r with
    | none => ([], ⟨SEDS_OK, r, none⟩)
    | some (item, rc, r) =>
      if rc = SEDS_OK then
        let (now, o) := r.toOwner.nowMs E
        if timeoutExpired startMs now budgetMs then ([some (now - startMs)], ⟨SEDS_OK, r.setOwner o, none⟩)
        else
          let (turns, d) := txPhaseTimed startMs budgetMs rounds (r.setOwner o)
          (some (now - startMs) :: turns, d)
      else if rc = SEDS_IO then ([none], ⟨SEDS_OK, r.putBack item, some item⟩)
      else ([none], ⟨rc, r, none⟩)

/-- `rxPhase`, with what the clock shows. -/
def rxPhaseTimed (startMs : UInt64) (budgetMs : UInt32) : Nat → Router → Turns × Router
  | 0, r => ([], r)
  | rounds + 1, r =>
    if r.rxQueue.items.isEmpty then ([], r)
    else
      let r := receiveNext S Z E r
      let (now, o) := r.toOwner.nowMs E
      if timeoutExpired startMs now budgetMs then ([some (now - startMs)], r.setOwner o)
      else
        let (turns, r) := rxPhaseTimed startMs budgetMs rounds (r.setOwner o)
        (some (now - startMs) :: turns, r)

/-- `processAllQueues` with a timeout, with what the clock shows in the transmit phase and in the receive phase. -/
def processAllQueuesTimed (r : Router) (timeoutMs : UInt32) (rounds : Nat) : Turns × Turns × Drained Router :=
  let txBudget := timeoutMs / 2
  let (start, o) := r.toOwner.nowMs E
  let (txTurns, sent) := txPhaseTimed S Z E start txBudget rounds (r.setOwner o)
  if sent.rc = SEDS_OK then
    let (start, o) := sent.state.toOwner.nowMs E
    let r := sent.state.setOwner o
    let (rxTurns, r) := rxPhaseTimed S Z E start (timeoutMs - txBudget) r.rxQueue.items.length r
    (txTurns, rxTurns, { sent with state := r })
  else (txTurns, [], sent)

variable {S Z E}

/-! ## The same drain -/

theorem txPhaseTimed_run (startMs : UInt64) (budgetMs : UInt32) (rounds : Nat) (r : Router) :
    (txPhaseTimed S Z E startMs budgetMs rounds r).2 = txPhase S Z E startMs budgetMs rounds r := by
  induction rounds generalizing r with
  | zero => rfl
  | succ rounds ih =>
    unfold txPhaseTimed txPhase
    dsimp only
    cases transmitFront S Z E (timeouts S E r) with
    | none => rfl
    | some p =>
      obtain ⟨item, rc, r'⟩ := p
      dsimp only
      split
      · split
        · rfl
        · exact ih _
      · split
        · rfl
        · rfl

theorem rxPhaseTimed_run (startMs : UInt64) (budgetMs : UInt32) (rounds : Nat) (r : Router) :
    (rxPhaseTimed S Z E startMs budgetMs rounds r).2 = rxPhase S Z E startMs budgetMs rounds r := by
  induction rounds generalizing r with
  | zero => rfl
  | succ rounds ih =>
    unfold rxPhaseTimed rxPhase
    dsimp only
    split
    · rfl
    · split
      · rfl
      · exact ih _

/-- Reading off the clock changes nothing. -/
theorem processAllQueuesTimed_run (r : Router) {timeoutMs : UInt32} (htimeout : timeoutMs ≠ 0) (rounds : Nat) :
    (processAllQueuesTimed S Z E r timeoutMs rounds).2.2 = processAllQueues S Z E r timeoutMs rounds := by
  unfold processAllQueuesTimed processAllQueues
  rw [if_neg htimeout]
  dsimp only
  rw [txPhaseTimed_run]
  split
  · dsimp only
    rw [rxPhaseTimed_run]
  · rfl

/-! ## Deadlines -/

/-- A phase with a limit stops in time. -/
theorem txPhaseTimed_honoured (startMs : UInt64) {budgetMs timeoutMs : UInt32} (hlimit : budgetMs ≠ 0) (hle : budgetMs ≤ timeoutMs)
    (rounds : Nat) (r : Router) : Honoured timeoutMs (txPhaseTimed S Z E startMs budgetMs rounds r).1 := by
  have hwide : budgetMs.toUInt64 ≤ timeoutMs.toUInt64 := hle
  induction rounds generalizing r with
  | zero => exact .nil
  | succ rounds ih =>
    unfold txPhaseTimed
    dsimp only
    cases transmitFront S Z E (timeouts S E r) with
    | none => exact .nil
    | some p =>
      obtain ⟨item, rc, r'⟩ := p
      dsimp only
      split
      · cases hover : timeoutExpired startMs (r'.toOwner.nowMs E).1 budgetMs with
        | true => exact .last _
        | false =>
          have hearly := elapsed_lt_of_not_expired hlimit hover
          exact (ih _).cons (UInt64.lt_of_lt_of_le hearly hwide)
      · split
        · exact .last none
        · exact .last none

theorem rxPhaseTimed_honoured (startMs : UInt64) {budgetMs timeoutMs : UInt32} (hlimit : budgetMs ≠ 0) (hle : budgetMs ≤ timeoutMs)
    (rounds : Nat) (r : Router) : Honoured timeoutMs (rxPhaseTimed S Z E startMs budgetMs rounds r).1 := by
  have hwide : budgetMs.toUInt64 ≤ timeoutMs.toUInt64 := hle
  induction rounds generalizing r with
  | zero => exact .nil
  | succ rounds ih =>
    unfold rxPhaseTimed
    dsimp only
    split
    · exact .nil
    · cases hover : timeoutExpired startMs ((receiveNext S Z E r).toOwner.nowMs E).1 budgetMs with
      | true => exact .last _
      | false =>
        have hearly := elapsed_lt_of_not_expired hlimit hover
        exact (ih _).cons (UInt64.lt_of_lt_of_le hearly hwide)

end

/-- How the time is split: the receive phase always has a limit, and the transmit phase has one from two milliseconds on. -/
theorem budgets {timeoutMs : UInt32} (hone : 1 ≤ timeoutMs) :
    timeoutMs / 2 ≤ timeoutMs ∧ timeoutMs - timeoutMs / 2 ≤ timeoutMs ∧ timeoutMs - timeoutMs / 2 ≠ 0 ∧
      (timeoutMs ≠ 1 → timeoutMs / 2 ≠ 0) := by
  grind

/-! ## A hurried router -/

/-- Two packets are queued. -/
def hurriedRouter : Router :=
  (Router.new .Sink (ascii "R") [] []).setOwner
    (((Router.new .Sink (ascii "R") [] []).toOwner.enqueueTx ⟨gpsPacket, none, none, false⟩).enqueueTx ⟨gpsPacket, none, none, false⟩)

end Router

/-- A second goes by with every reading. -/
def Env.hurried : Env := ⟨fun n => 1000 * UInt64.ofNat n, fun _ => SEDS_OK⟩

namespace Router

/-- With a timeout of one millisecond both packets are sent, seconds apart. -/
theorem hurriedRouter_turns :
    (processAllQueuesTimed defaultTestSchema (.absent 16) .hurried hurriedRouter 1 2).1 = [some 4000, some 8000] := by
  rw [defaultTestSchema_eq]
  decide +kernel

theorem not_honoured_hurried : ¬ Honoured 1 [some 4000, some 8000] := by
  intro h
  have hlast := h [] 4000 [some 8000] rfl (by decide)
  cases hlast

/-- **When the timeouts are honoured**: the receive phase always is, and the transmit phase with every timeout but one. -/
theorem processAllQueues_honoured (timeoutMs : UInt32) (hone : 1 ≤ timeoutMs) :
    (∀ (S : Schema) (Z : Codec) (E : Env) (r : Router) (rounds : Nat),
      Honoured timeoutMs (processAllQueuesTimed S Z E r timeoutMs rounds).2.1) ∧
    ((∀ (S : Schema) (Z : Codec) (E : Env) (r : Router) (rounds : Nat),
      Honoured timeoutMs (processAllQueuesTimed S Z E r timeoutMs rounds).1) ↔ timeoutMs ≠ 1) := by
  obtain ⟨htxLe, hrxLe, hrx, htx⟩ := budgets hone
  refine ⟨?_, ?_, ?_⟩
  · intro S Z E r rounds
    unfold processAllQueuesTimed
    dsimp only
    split
    · exact rxPhaseTimed_honoured _ hrx hrxLe _ _
    · exact .nil
  · rintro h rfl
    have hhurried := h defaultTestSchema (.absent 16) .hurried hurriedRouter 2
    rw [hurriedRouter_turns] at hhurried
    exact not_honoured_hurried hhurried
  · intro hne S Z E r rounds
    have hphase := txPhaseTimed_honoured (S := S) (Z := Z) (E := E) (r.toOwner.nowMs E).1 (htx hne) htxLe rounds
      (r.setOwner (r.toOwner.nowMs E).2)
    unfold processAllQueuesTimed
    dsimp only
    split
    · exact hphase
    · exact hphase

theorem processAllQueues_honoured_ten :
    Honoured 10 (processAllQueuesTimed defaultTestSchema (.absent 16) .hurried hurriedRouter 10 2).1 ∧
    Honoured 10 (processAllQueuesTimed defaultTestSchema (.absent 16) .hurried hurriedRouter 10 2).2.1 := by
  obtain ⟨hrx, htx⟩ := processAllQueues_honoured 10 (by decide)
  exact ⟨htx.mpr (by decide) _ _ _ _ _, hrx _ _ _ _ _⟩

/-- The second packet goes out when four seconds have been shown to be over. -/
theorem processAllQueues_honoured_late :
    ¬ ∀ (r : Router) (rounds : Nat), Honoured 1 (processAllQueuesTimed defaultTestSchema (.absent 16) .hurried r 1 rounds).1 := by
  intro h
  have hhurried := h hurriedRouter 2
  rw [hurriedRouter_turns] at hhurried
  exact not_honoured_hurried hhurried

end Router

end SedsNet
