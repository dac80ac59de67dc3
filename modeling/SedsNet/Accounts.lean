import SedsNet.Lib.Machine
import SedsNet.Relay.Moves

/-!
# The accounts of the queues

About twenty functions change a queue and its byte counter by hand. Over every run of a router or relay the
counters say what is in the queues, they never go below zero, each queue stays within the budget, and the loops
that make room come to an end.

The only thing a counter cannot take is more bytes than a `size_t` counts (`Owner.Countable`): a budget near
`SIZE_MAX`, and as many bytes in memory.
-/

set_option autoImplicit false

namespace SedsNet

open Lib

/-! ## The loops that make room -/

section

variable {α : Type} {cost : α → UInt64}

/-- The loop of `enqueue_bounded` takes items off the front, and is left where its condition fails. -/
theorem evict_exit (need budget : UInt64) (xs : List α) (bytes : UInt64) (wrapped : Bool) :
    (evict cost need budget xs bytes wrapped).items <:+ xs ∧
    ((evict cost need budget xs bytes wrapped).items = [] ∨
      (evict cost need budget xs bytes wrapped).bytes + need ≤ budget) := by
  induction xs generalizing bytes wrapped with
  | nil => exact ⟨List.suffix_refl [], .inl rfl⟩
  | cons x xs ih =>
    unfold evict
    split
    · obtain ⟨hsuffix, hexit⟩ := ih (bytes - cost x) (wrapped || decide (bytes < cost x))
      exact ⟨hsuffix.trans (List.suffix_cons x xs), hexit⟩
    · rename_i hroom
      exact ⟨List.suffix_refl _, .inr (UInt64.not_lt.mp hroom)⟩

theorem length_of_pop {queue queue' : Bounded α} {item : α} (h : queue.pop cost = some (item, queue')) :
    queue.items.length = queue'.items.length + 1 := by
  unfold Bounded.pop at h
  split at h
  · cases h
  · rename_i x xs hitems
    cases h
    rw [hitems]
    rfl

end

namespace Owner

/-- Each round of `enforce_shared_queue_budget` takes one item out of the queues. -/
theorem length_of_enforceNext {o o' : Owner} (h : o.enforceNext = some o') :
    o.rxQueue.items.length + o.txQueue.items.length = o'.rxQueue.items.length + o'.txQueue.items.length + 1 := by
  unfold enforceNext at h
  split at h
  · split at h
    · obtain ⟨p, hpop, rfl⟩ := Option.map_eq_some_iff.mp h
      rw [length_of_pop hpop]
      exact Nat.add_right_comm _ _ _
    · obtain ⟨p, hpop, rfl⟩ := Option.map_eq_some_iff.mp h
      rw [length_of_pop hpop]
      rfl
  · cases h

theorem enforceNext_enforceRounds (rounds : Nat) (o : Owner)
    (h : o.rxQueue.items.length + o.txQueue.items.length ≤ rounds) : (enforceRounds rounds o).enforceNext = none := by
  induction rounds generalizing o with
  | zero =>
    unfold enforceRounds
    cases hnext : o.enforceNext with
    | none => rfl
    | some o' =>
      have hlength := length_of_enforceNext hnext
      omega
  | succ rounds ih =>
    unfold enforceRounds
    cases hnext : o.enforceNext with
    | none => exact hnext
    | some o' =>
      have hlength := length_of_enforceNext hnext
      exact ih o' (by omega)

/-- The loop of `enforce_shared_queue_budget` ends within as many rounds as there are items. -/
theorem enforceSharedQueueBudget_ends (o : Owner) : o.enforceSharedQueueBudget.enforceNext = none :=
  enforceNext_enforceRounds _ o (Nat.le_refl _)

/-! ## Runs -/

/-- What the counters of the two queues promise: they add up, they never went below zero, each is within the
    budget, and both loops that make room end. -/
structure Balanced (o : Owner) : Prop where
  tx : o.txQueue.bytes.toNat = totalCost TxItem.byteCost o.txQueue.items
  rx : o.rxQueue.bytes.toNat = totalCost RxItem.byteCost o.rxQueue.items
  txUnwrapped : o.txQueue.wrapped = false
  rxUnwrapped : o.rxQueue.wrapped = false
  txWithin : o.txQueue.bytes ≤ o.memory.maxQueueBudget
  rxWithin : o.rxQueue.bytes ≤ o.memory.maxQueueBudget
  txEnds : ∀ need, let kept := evict TxItem.byteCost need o.memory.maxQueueBudget o.txQueue.items o.txQueue.bytes false
    kept.items <:+ o.txQueue.items ∧ (kept.items = [] ∨ kept.bytes + need ≤ o.memory.maxQueueBudget)
  rxEnds : ∀ need, let kept := evict RxItem.byteCost need o.memory.maxQueueBudget o.rxQueue.items o.rxQueue.bytes false
    kept.items <:+ o.rxQueue.items ∧ (kept.items = [] ∨ kept.bytes + need ≤ o.memory.maxQueueBudget)
  enforceEnds : o.enforceSharedQueueBudget.enforceNext = none

theorem Accounted.balanced {o : Owner} (h : o.Accounted) : o.Balanced where
  tx := h.1.bytes
  rx := h.2.bytes
  txUnwrapped := h.1.unwrapped
  rxUnwrapped := h.2.unwrapped
  txWithin := h.1.within
  rxWithin := h.2.within
  txEnds need := evict_exit need _ _ _ _
  rxEnds need := evict_exit need _ _ _ _
  enforceEnds := enforceSharedQueueBudget_ends o

end Owner

/-- Announcements are heard at the time the clock shows. -/
def Obs.Timely (E : Env) : Obs → Prop
  | .hears read now => now = E.clock read
  | _ => True

theorem Obs.timely_of_silent (E : Env) {e : Obs} (h : e.silent = true) : e.Timely E := by
  cases e with
  | hears read now => cases h
  | _ => trivial

section

variable (S : Schema) (Z : Codec) (E : Env)

/-- Every act of a router may do what it does, if only announcements have to be timely. -/
theorem Router.demands_timely (r : Router) (act : Router.Act) :
    Router.Demands (fun _ => True) (Obs.Timely E) (fun _ => True) (fun _ => True) (fun _ _ => True) S Z E r act := by
  have hsends : Router.Sends (fun _ => True) (Obs.Timely E) (fun _ _ => True) S Z E r act :=
    .of_any (fun _ => Obs.timely_of_silent E) (fun _ => rfl) (fun _ _ => trivial) (fun _ _ _ _ => trivial)
      (fun _ _ _ _ _ _ _ => trivial) (fun _ _ => trivial) (fun _ _ _ _ _ _ _ => ⟨trivial, fun _ _ => trivial, fun _ _ _ _ => trivial, trivial⟩)
  exact hsends.demands

theorem Relay.demands_timely (r : Relay) (act : Relay.Act) :
    Relay.Demands (fun _ => True) (Obs.Timely E) (fun _ => True) S Z E r act := by
  have hsends : Relay.Sends (fun _ => True) (Obs.Timely E) S Z E r act :=
    ⟨fun _ => Obs.timely_of_silent E, fun _ => rfl, fun _ _ => trivial, fun _ _ => trivial, fun _ _ _ _ => trivial, fun _ _ _ _ _ _ => trivial,
      fun _ _ _ _ _ => trivial, fun _ _ _ _ _ _ _ => ⟨trivial, fun _ _ => trivial, fun _ _ _ _ => trivial, trivial⟩⟩
  exact hsends.demands

theorem Router.perform_accounted (r : Router) (act : Router.Act) :
    Owner.Moves (fun _ => True) (Obs.Timely E) (fun _ => True) r.toOwner (Router.perform S Z E r act).toOwner :=
  (Router.perform_moves S (Router.grants_of_silent fun _ => Obs.timely_of_silent E) Z E (Router.demands_timely S Z E r act)).owner

theorem Relay.perform_accounted (r : Relay) (act : Relay.Act) :
    Owner.Moves (fun _ => True) (Obs.Timely E) (fun _ => True) r.toOwner (Relay.perform S Z E r act).toOwner :=
  Relay.perform_moves S (Router.grants_of_silent fun _ => Obs.timely_of_silent E) Z E (Relay.demands_timely S Z E r act)

theorem Router.run_moves (r : Router) (acts : List Router.Act) :
    Owner.Moves (fun _ => True) (Obs.Timely E) (fun _ => True) r.toOwner (runFrom (Router.perform S Z E) r acts).toOwner := by
  induction acts generalizing r with
  | nil => exact .refl _
  | cons act acts ih => exact (Router.perform_accounted S Z E r act).trans (ih _)

theorem Relay.run_moves (r : Relay) (acts : List Relay.Act) :
    Owner.Moves (fun _ => True) (Obs.Timely E) (fun _ => True) r.toOwner (runFrom (Relay.perform S Z E) r acts).toOwner := by
  induction acts generalizing r with
  | nil => exact .refl _
  | cons act acts ih => exact (Relay.perform_accounted S Z E r act).trans (ih _)

/-- **The accounts are balanced in every reachable state** of a router and of a relay, at the memory configuration
    they were made with. -/
theorem queueBytes_balanced :
    (∀ (r : Router) (acts : List Router.Act), r.toOwner.Blank →
      (runFrom (Router.perform S Z E) r acts).toOwner.Countable →
      (runFrom (Router.perform S Z E) r acts).memory = r.memory ∧
        (runFrom (Router.perform S Z E) r acts).toOwner.Balanced) ∧
    ∀ (r : Relay) (acts : List Relay.Act), r.toOwner.Blank →
      (runFrom (Relay.perform S Z E) r acts).toOwner.Countable →
      (runFrom (Relay.perform S Z E) r acts).memory = r.memory ∧
        (runFrom (Relay.perform S Z E) r acts).toOwner.Balanced := by
  refine ⟨?_, ?_⟩
  · intro r acts hblank hcount
    have hmoves := Router.run_moves S Z E r acts
    exact ⟨hmoves.memory, (hmoves.accounts hcount hblank.accounted).balanced⟩
  · intro r acts hblank hcount
    have hmoves := Relay.run_moves S Z E r acts
    exact ⟨hmoves.memory, (hmoves.accounts hcount hblank.accounted).balanced⟩

end

/-- A report arrives, and another is logged, sent and received. -/
def gpsActs : List Router.Act :=
  [.rxSerializedPacketToQueue (Relay.gpsFrame 1), .logBytesEx 100 gpsPacket.payload none true, .transmitNext, .receiveNext]

def gpsRelayActs : List Relay.Act := [.rxSerializedFromSide 0 (Relay.gpsFrame 2), .rxSerializedFromSide 0 (Relay.gpsFrame 1)]

theorem queueBytes_balanced_gps :
    (runFrom (Router.perform defaultTestSchema (.absent 16) .calm) (.new .Sink (ascii "R") [.serialized [] true] [])
      gpsActs).toOwner.Balanced ∧
    (runFrom (Relay.perform defaultTestSchema (.absent 16) .calm) Relay.gpsRelay gpsRelayActs).rxQueue.items.length = 2 ∧
    (runFrom (Relay.perform defaultTestSchema (.absent 16) .calm) Relay.gpsRelay gpsRelayActs).toOwner.Balanced := by
  obtain ⟨hrouter, hrelay⟩ := queueBytes_balanced defaultTestSchema (.absent 16) .calm
  have hqueued : (runFrom (Relay.perform defaultTestSchema (.absent 16) .calm) Relay.gpsRelay
      gpsRelayActs).rxQueue.items.length = 2 := by decide +kernel
  refine ⟨(hrouter _ gpsActs ⟨rfl, rfl, rfl, rfl, rfl, rfl, rfl, rfl⟩ ?_).2, hqueued,
    (hrelay _ gpsRelayActs ⟨rfl, rfl, rfl, rfl, rfl, rfl, rfl, rfl⟩ ?_).2⟩
  · right
    rw [(Router.run_moves defaultTestSchema (.absent 16) .calm _ gpsActs).memory]
    decide
  · right
    rw [(Relay.run_moves defaultTestSchema (.absent 16) .calm _ gpsRelayActs).memory]
    decide

end SedsNet
