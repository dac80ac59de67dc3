import SedsNet.Queue

/-!
# What a full queue keeps

`enqueue_bounded` makes room from the front. `enqueueBounded_longest` says that it makes no more room than the new item needs:
what is left is the longest end of the queue that fits in the budget together with the item.
-/

set_option autoImplicit false

namespace SedsNet

section

variable {α : Type} {cost : α → UInt64}

/-- The eviction loop leaves an end of the queue. -/
theorem evict_suffix (need budget : UInt64) (xs : List α) (bytes : UInt64) (wrapped : Bool) :
    (evict cost need budget xs bytes wrapped).items <:+ xs := by
  induction xs generalizing bytes wrapped with
  | nil => exact List.suffix_refl []
  | cons x xs ih =>
    unfold evict
    split
    · exact (ih _ _).trans (List.suffix_cons x xs)
    · exact List.suffix_refl (x :: xs)

/-- Every end that fits is part of it: an item goes only while the counter, which is exact, says that the rest does not fit. -/
theorem evict_longest {need budget bytes : UInt64} {xs : List α} {wrapped : Bool} (hbytes : bytes.toNat = totalCost cost xs)
    (hfits : totalCost cost xs + need.toNat < 2 ^ 64) {kept : List α} (hkept : kept <:+ xs)
    (hroom : totalCost cost kept + need.toNat ≤ budget.toNat) : kept <:+ (evict cost need budget xs bytes wrapped).items := by
  induction xs generalizing bytes wrapped with
  | nil => exact hkept
  | cons x xs ih =>
    unfold evict
    split
    · rename_i hover
      have hsum : (bytes + need).toNat = totalCost cost (x :: xs) + need.toNat := by
        rw [UInt64.toNat_add, hbytes, Nat.mod_eq_of_lt hfits]
      cases List.suffix_cons_iff.mp hkept with
      | inl hall =>
        rw [gt_iff_lt, UInt64.lt_iff_toNat_lt, hsum, ← hall] at hover
        omega
      | inr hrest =>
        rw [totalCost_cons] at hbytes hfits
        exact ih (sub_cost_spec hbytes).1 (by omega) hrest
    · exact hkept

/-- The ghost does not matter. -/
theorem evict_ghost (cost : α → UInt64) (need budget : UInt64) (xs : List α) (bytes : UInt64) (wrapped : Bool) :
    (evict cost need budget xs bytes wrapped).items = (evict cost need budget xs bytes false).items ∧
    (evict cost need budget xs bytes wrapped).bytes = (evict cost need budget xs bytes false).bytes := by
  induction xs generalizing bytes wrapped with
  | nil => exact ⟨rfl, rfl⟩
  | cons x xs ih =>
    unfold evict
    split
    · obtain ⟨hitems, hbytes⟩ := ih (bytes - cost x) (wrapped || decide (bytes < cost x))
      obtain ⟨hitems', hbytes'⟩ := ih (bytes - cost x) (false || decide (bytes < cost x))
      exact ⟨hitems.trans hitems'.symm, hbytes.trans hbytes'.symm⟩
    · exact ⟨rfl, rfl⟩

/-- **Bounded enqueue.** With an exact counter: an item that costs more than the budget is rejected; any other is put at its
    end of the longest end of the queue that fits in the budget together with it, and the counter is exact again. The items are
    in memory, so that `size_t` holds what they cost. -/
theorem enqueueBounded_longest (cost : α → UInt64) (queue : Bounded α) (item : α) (front : Bool) (budget : UInt64)
    (hexact : queue.bytes.toNat = totalCost cost queue.items)
    (hmemory : totalCost cost queue.items + (cost item).toNat < 2 ^ 64) :
    (cost item > budget ∧ enqueueBounded cost queue item front budget = none) ∨
    cost item ≤ budget ∧ ∃ kept queue', enqueueBounded cost queue item front budget = some queue' ∧
      kept <:+ queue.items ∧ totalCost cost kept + (cost item).toNat ≤ budget.toNat ∧
      (∀ longer, longer <:+ queue.items → totalCost cost longer + (cost item).toNat ≤ budget.toNat → longer <:+ kept) ∧
      queue'.items = (if front then item :: kept else kept ++ [item]) ∧ queue'.bytes.toNat = totalCost cost queue'.items := by
  unfold enqueueBounded
  by_cases hcost : cost item > budget
  · rw [if_pos hcost]
    exact .inl ⟨hcost, rfl⟩
  · rw [if_neg hcost]
    have hcost := UInt64.not_lt.mp hcost
    obtain ⟨hitems, hbytes⟩ := evict_ghost cost (cost item) budget queue.items queue.bytes queue.wrapped
    obtain ⟨hcount, hroom, -⟩ := evict_spec hcost hexact hmemory
    refine .inr ⟨hcost, _, _, rfl, evict_suffix _ _ _ _ _, ?_, ?_, rfl, ?_⟩
    · rw [hitems, ← hcount]
      exact hroom
    · exact fun longer hlonger hfits => evict_longest hexact hmemory hlonger hfits
    · have hlt := budget.toNat_lt
      have hsum : ((evict cost (cost item) budget queue.items queue.bytes queue.wrapped).bytes + cost item).toNat =
          (evict cost (cost item) budget queue.items queue.bytes false).bytes.toNat + (cost item).toNat := by
        rw [hbytes, UInt64.toNat_add, Nat.mod_eq_of_lt (by omega)]
      show ((evict cost (cost item) budget queue.items queue.bytes queue.wrapped).bytes + cost item).toNat = _
      rw [hsum, hcount, ← hitems]
      split
      · rw [totalCost_cons, Nat.add_comm]
      · rw [totalCost_append, totalCost_cons, totalCost_nil, Nat.add_zero]

end

/-- An empty packet of 21 bytes, for a side. -/
def emptyItem (side : Int32) : TxItem := ⟨⟨100, [], [], 0, []⟩, none, some side, false⟩

/-- There are three, and the budget is used up. One more, to the front, takes the place of the oldest. -/
theorem enqueueBounded_longest_front :
    enqueueBounded TxItem.byteCost ⟨[emptyItem 1, emptyItem 2, emptyItem 3], 63, false⟩ (emptyItem 4) true 63 =
      some ⟨[emptyItem 4, emptyItem 2, emptyItem 3], 63, false⟩ ∧
    ∀ longer, longer <:+ [emptyItem 1, emptyItem 2, emptyItem 3] →
      totalCost TxItem.byteCost longer + (TxItem.byteCost (emptyItem 4)).toNat ≤ 63 → longer <:+ [emptyItem 2, emptyItem 3] := by
  have henqueue : enqueueBounded TxItem.byteCost ⟨[emptyItem 1, emptyItem 2, emptyItem 3], 63, false⟩ (emptyItem 4) true 63 =
      some ⟨[emptyItem 4, emptyItem 2, emptyItem 3], 63, false⟩ := by decide
  refine ⟨henqueue, ?_⟩
  rcases enqueueBounded_longest TxItem.byteCost ⟨[emptyItem 1, emptyItem 2, emptyItem 3], 63, false⟩ (emptyItem 4) true 63 (by decide) (by decide)
    with ⟨hcost, -⟩ | ⟨-, kept, queue', hqueue, -, -, hlongest, hitems, -⟩
  · exact absurd hcost (by decide)
  · rw [henqueue, Option.some.injEq] at hqueue
    rw [← hqueue] at hitems
    cases hitems
    exact hlongest

end SedsNet
