import SedsNet.Basic

/-!
# The bounded queues

`src/queue.cpp`: the byte cost of a queued item, `enqueue_bounded` with its eviction loop, and
the pops. `size_t` counters are `UInt64`, so that the sums and differences the source forms wrap
where the source's do. A `std::deque` is a list with its front first.
-/

set_option autoImplicit false

namespace SedsNet

/-! ## Items -/

structure TxItem where
  pkt : PacketData
  srcSide : Option Int32
  dstSide : Option Int32
  deliverLocal : Bool
  deriving DecidableEq, Repr, Inhabited

/-- A queued ingress packet. `origin` is a ghost: the frame the packet was decoded from, which a
    relay does not keep in `wireBytes` (empty for a packet that came in as a view). No function of
    the model reads it. -/
structure RxItem where
  pkt : PacketData
  srcSide : Option Int32
  wireBytes : Bytes
  origin : Bytes
  deriving DecidableEq, Repr, Inhabited

/-- `byte_cost(const PacketData &)`: two scalars of 4 and 8 bytes, and the three buffers. -/
def PacketData.byteCost (pkt : PacketData) : UInt64 :=
  UInt64.ofNat (4 + 8 + pkt.sender.length + pkt.endpoints.length * 4 + pkt.payload.length)

def TxItem.byteCost (item : TxItem) : UInt64 := item.pkt.byteCost + 1 + 4 * 2

def RxItem.byteCost (item : RxItem) : UInt64 :=
  item.pkt.byteCost + 4 + UInt64.ofNat item.wireBytes.length

/-! ## Operations -/

/-- A queue with its byte counter (`rx_queue` and `rx_queue_bytes`, `tx_queue` and
    `tx_queue_bytes`). `wrapped` is a ghost: some subtraction from the counter went below zero. No
    function of the model reads it. -/
structure Bounded (α : Type) where
  items : List α
  bytes : UInt64
  wrapped : Bool
  deriving DecidableEq, Repr, Inhabited

section

variable {α : Type} (cost : α → UInt64)

/-- The eviction loop: oldest items go while the new one does not fit. -/
def evict (need budget : UInt64) : List α → UInt64 → Bool → Bounded α
  | [], bytes, wrapped => ⟨[], bytes, wrapped⟩
  | x :: xs, bytes, wrapped =>
    if bytes + need > budget then evict need budget xs (bytes - cost x) (wrapped || decide (bytes < cost x))
    else ⟨x :: xs, bytes, wrapped⟩

/-- What that loop drops. -/
def evicted (need budget : UInt64) : List α → UInt64 → List α
  | [], _ => []
  | x :: xs, bytes => if bytes + need > budget then x :: evicted need budget xs (bytes - cost x) else []

/-- `enqueue_bounded`; `none` is the rejection, which leaves the queue alone. -/
def enqueueBounded (queue : Bounded α) (item : α) (front : Bool) (budget : UInt64) : Option (Bounded α) :=
  if cost item > budget then none
  else
    let kept := evict cost (cost item) budget queue.items queue.bytes queue.wrapped
    some ⟨if front then item :: kept.items else kept.items ++ [item], kept.bytes + cost item, kept.wrapped⟩

/-- The costs of some items, added up without a bound. -/
def totalCost (xs : List α) : Nat := (xs.map fun x => (cost x).toNat).sum

/-- `pop_tx` and `pop_rx`. -/
def Bounded.pop (queue : Bounded α) : Option (α × Bounded α) :=
  match queue.items with
  | [] => none
  | x :: xs => some (x, ⟨xs, queue.bytes - cost x, queue.wrapped || decide (queue.bytes < cost x)⟩)

/-- The loop of `erase_tx_items_for_side_locked` and `erase_rx_items_for_side_locked`. -/
def eraseLoop (gone : α → Bool) : List α → UInt64 → Bool → Bounded α
  | [], bytes, wrapped => ⟨[], bytes, wrapped⟩
  | x :: xs, bytes, wrapped =>
    if gone x then eraseLoop gone xs (bytes - cost x) (wrapped || decide (bytes < cost x))
    else
      let rest := eraseLoop gone xs bytes wrapped
      ⟨x :: rest.items, rest.bytes, rest.wrapped⟩

def Bounded.eraseIf (gone : α → Bool) (queue : Bounded α) : Bounded α :=
  eraseLoop cost gone queue.items queue.bytes queue.wrapped

/-- `clear_tx_queue` and `clear_rx_queue`. -/
def Bounded.clear (queue : Bounded α) : Bounded α := ⟨[], 0, queue.wrapped⟩

end

section

variable {α : Type} {cost : α → UInt64}

/-- A queue from which nothing is evicted stays as it is. -/
theorem evict_of_evicted_eq_nil {need budget bytes : UInt64} {xs : List α} {wrapped : Bool}
    (h : evicted cost need budget xs bytes = []) : evict cost need budget xs bytes wrapped = ⟨xs, bytes, wrapped⟩ := by
  cases xs with
  | nil => rfl
  | cons x xs =>
    unfold evicted at h
    unfold evict
    split at h
    · cases h
    · rename_i hroom
      rw [if_neg hroom]

/-! ## Accounting -/

@[simp] theorem totalCost_nil : totalCost cost [] = 0 := rfl

@[simp] theorem totalCost_cons (x : α) (xs : List α) : totalCost cost (x :: xs) = (cost x).toNat + totalCost cost xs := by
  unfold totalCost
  rw [List.map_cons, List.sum_cons]

@[simp] theorem totalCost_append (xs ys : List α) :
    totalCost cost (xs ++ ys) = totalCost cost xs + totalCost cost ys := by
  unfold totalCost
  rw [List.map_append, List.sum_append]

/-- What is taken out of a queue does not cost more than the queue. -/
theorem totalCost_le_of_sublist {xs ys : List α} (h : xs.Sublist ys) : totalCost cost xs ≤ totalCost cost ys := by
  induction h with
  | slnil => exact Nat.le_refl _
  | cons y _ ih =>
    rw [totalCost_cons]
    exact Nat.le_add_left_of_le ih
  | cons_cons y _ ih =>
    rw [totalCost_cons, totalCost_cons]
    exact Nat.add_le_add_left ih _

/-- The counter of a queue says what is in it, that is within the budget, and it never went below zero. -/
structure Bounded.Sound (cost : α → UInt64) (budget : UInt64) (queue : Bounded α) : Prop where
  bytes : queue.bytes.toNat = totalCost cost queue.items
  within : queue.bytes ≤ budget
  unwrapped : queue.wrapped = false

theorem Bounded.empty_sound (budget : UInt64) : (⟨[], 0, false⟩ : Bounded α).Sound cost budget :=
  ⟨rfl, UInt64.zero_le, rfl⟩

theorem Bounded.Sound.clear {budget : UInt64} {queue : Bounded α} (h : queue.Sound cost budget) :
    queue.clear.Sound cost budget :=
  ⟨rfl, UInt64.zero_le, h.unwrapped⟩

/-- Taking one item off a counter that counts it. -/
theorem sub_cost_spec {x : α} {bytes : UInt64} {rest : Nat} (h : bytes.toNat = (cost x).toNat + rest) :
    (bytes - cost x).toNat = rest ∧ decide (bytes < cost x) = false := by
  have hle : cost x ≤ bytes := UInt64.le_iff_toNat_le.mpr (by omega)
  refine ⟨?_, decide_eq_false (UInt64.not_lt.mpr hle)⟩
  rw [UInt64.toNat_sub_of_le _ _ hle]
  omega

/-- The eviction loop keeps the count, and ends with room for the new item. -/
theorem evict_spec {need budget bytes : UInt64} {xs : List α} (hneed : need ≤ budget)
    (hbytes : bytes.toNat = totalCost cost xs) (hfits : totalCost cost xs + need.toNat < 2 ^ 64) :
    (evict cost need budget xs bytes false).bytes.toNat = totalCost cost (evict cost need budget xs bytes false).items ∧
    (evict cost need budget xs bytes false).bytes.toNat + need.toNat ≤ budget.toNat ∧
    (evict cost need budget xs bytes false).wrapped = false := by
  induction xs generalizing bytes with
  | nil =>
    unfold evict
    refine ⟨hbytes, ?_, rfl⟩
    rw [hbytes, totalCost_nil, Nat.zero_add]
    exact UInt64.le_iff_toNat_le.mp hneed
  | cons x xs ih =>
    unfold evict
    split
    · rw [totalCost_cons] at hbytes hfits
      obtain ⟨hrest, hnowrap⟩ := sub_cost_spec hbytes
      rw [hnowrap, Bool.or_false]
      exact ih hrest (by omega)
    · rename_i hroom
      refine ⟨hbytes, ?_, rfl⟩
      rw [← hbytes] at hfits
      have hsum : (bytes + need).toNat = bytes.toNat + need.toNat := by
        rw [UInt64.toNat_add, Nat.mod_eq_of_lt hfits]
      rw [← hsum]
      exact UInt64.le_iff_toNat_le.mp (UInt64.not_lt.mp hroom)

section

variable {budget : UInt64} {queue queue' : Bounded α} {item : α}

theorem cost_le_of_enqueueBounded {front : Bool} (h : enqueueBounded cost queue item front budget = some queue') :
    cost item ≤ budget := by
  unfold enqueueBounded at h
  split at h
  · cases h
  · exact UInt64.not_lt.mp ‹_›

/-- `enqueue_bounded` keeps the count, when `size_t` can hold it. -/
theorem Bounded.Sound.enqueueBounded (h : queue.Sound cost budget) {front : Bool}
    (hfits : totalCost cost queue.items + (cost item).toNat < 2 ^ 64)
    (henqueue : enqueueBounded cost queue item front budget = some queue') : queue'.Sound cost budget := by
  unfold SedsNet.enqueueBounded at henqueue
  split at henqueue
  · cases henqueue
  · rename_i hcost
    cases henqueue
    obtain ⟨hcount, hroom, hnowrap⟩ := evict_spec (UInt64.not_lt.mp hcost) h.bytes hfits
    rw [h.unwrapped]
    have hlt := budget.toNat_lt
    have hsum : ((evict cost (cost item) budget queue.items queue.bytes false).bytes + cost item).toNat =
        (evict cost (cost item) budget queue.items queue.bytes false).bytes.toNat + (cost item).toNat := by
      rw [UInt64.toNat_add, Nat.mod_eq_of_lt (by omega)]
    refine ⟨?_, ?_, hnowrap⟩
    · rw [hsum, hcount]
      split
      · rw [totalCost_cons, Nat.add_comm]
      · rw [totalCost_append, totalCost_cons, totalCost_nil, Nat.add_zero]
    · rw [UInt64.le_iff_toNat_le, hsum]
      exact hroom

theorem Bounded.Sound.pop (h : queue.Sound cost budget) (hpop : queue.pop cost = some (item, queue')) :
    queue'.Sound cost budget := by
  unfold Bounded.pop at hpop
  split at hpop
  · cases hpop
  · rename_i x xs hitems
    cases hpop
    have hbytes := h.bytes
    rw [hitems, totalCost_cons] at hbytes
    obtain ⟨hcount, hnowrap⟩ := sub_cost_spec hbytes
    refine ⟨hcount, ?_, ?_⟩
    · have hwithin := UInt64.le_iff_toNat_le.mp h.within
      rw [UInt64.le_iff_toNat_le, hcount]
      omega
    · rw [h.unwrapped, hnowrap]
      rfl

theorem eraseLoop_items {gone : α → Bool} {bytes : UInt64} {wrapped : Bool} {xs : List α} :
    (eraseLoop cost gone xs bytes wrapped).items = xs.filter (fun x => !gone x) := by
  induction xs generalizing bytes wrapped with
  | nil => rfl
  | cons x xs ih =>
    unfold eraseLoop
    cases hgone : gone x with
    | true =>
      rw [if_pos rfl, List.filter_cons_of_neg (by simp [hgone])]
      exact ih
    | false =>
      rw [if_neg (by simp), List.filter_cons_of_pos (by simp [hgone])]
      dsimp only
      rw [ih]

/-- The erase loop keeps the count of what it has not looked at yet. -/
theorem eraseLoop_bytes {gone : α → Bool} {bytes : UInt64} {xs : List α} {rest : Nat}
    (hbytes : bytes.toNat = totalCost cost xs + rest) :
    (eraseLoop cost gone xs bytes false).bytes.toNat = totalCost cost (eraseLoop cost gone xs bytes false).items + rest ∧
    (eraseLoop cost gone xs bytes false).wrapped = false := by
  induction xs generalizing bytes rest with
  | nil => exact ⟨hbytes, rfl⟩
  | cons x xs ih =>
    unfold eraseLoop
    rw [totalCost_cons, Nat.add_assoc] at hbytes
    cases hgone : gone x with
    | true =>
      obtain ⟨hrest, hnowrap⟩ := sub_cost_spec hbytes
      rw [if_pos rfl, hnowrap]
      exact ih hrest
    | false =>
      rw [if_neg (by simp)]
      have hrest : bytes.toNat = totalCost cost xs + ((cost x).toNat + rest) := by omega
      obtain ⟨hcount, hnowrap⟩ := ih hrest
      dsimp only
      refine ⟨?_, hnowrap⟩
      rw [hcount, totalCost_cons]
      omega

theorem Bounded.Sound.eraseIf (h : queue.Sound cost budget) (gone : α → Bool) :
    (queue.eraseIf cost gone).Sound cost budget := by
  have hitems : (queue.eraseIf cost gone).items = queue.items.filter (fun x => !gone x) := eraseLoop_items
  have hloop : (queue.eraseIf cost gone).bytes.toNat = totalCost cost (queue.eraseIf cost gone).items + 0 ∧
      (queue.eraseIf cost gone).wrapped = false := by
    unfold Bounded.eraseIf
    rw [h.unwrapped]
    exact eraseLoop_bytes h.bytes
  obtain ⟨hcount, hnowrap⟩ := hloop
  refine ⟨hcount, ?_, hnowrap⟩
  have hsub : totalCost cost (queue.items.filter fun x => !gone x) ≤ totalCost cost queue.items :=
    totalCost_le_of_sublist List.filter_sublist
  rw [← hitems, ← h.bytes] at hsub
  have hwithin := UInt64.le_iff_toNat_le.mp h.within
  rw [UInt64.le_iff_toNat_le]
  omega

end

end

end SedsNet
