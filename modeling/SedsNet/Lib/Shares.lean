import Mathlib.Data.List.Count
import Mathlib.Data.Nat.Periodic

/-!
# Shares

A stretch of numbers is cut into pieces, one for each element of a list and as long as its weight. Whoever goes through the
numbers one after the other, and round again at the end of the stretch, meets every element as often as it weighs.
-/

set_option autoImplicit false

namespace SedsNet.Lib

variable {α : Type}

/-- The element whose piece the number is in. -/
def pieceAt (weight : α → Nat) : List α → Nat → Option α
  | [], _ => none
  | x :: xs, k => if k < weight x then some x else pieceAt weight xs (k - weight x)

theorem mem_of_pieceAt {weight : α → Nat} {xs : List α} {k : Nat} {x : α} (h : pieceAt weight xs k = some x) : x ∈ xs := by
  induction xs generalizing k with
  | nil => cases h
  | cons y ys ih =>
    unfold pieceAt at h
    split at h
    · cases h
      exact List.mem_cons_self
    · exact List.mem_cons_of_mem y (ih h)

/-- The pieces leave no gap. -/
theorem pieceAt_isSome {weight : α → Nat} {xs : List α} {k : Nat} (h : k < (xs.map weight).sum) : (pieceAt weight xs k).isSome = true := by
  induction xs generalizing k with
  | nil => exact absurd h (Nat.not_lt_zero k)
  | cons y ys ih =>
    rw [List.map_cons, List.sum_cons] at h
    unfold pieceAt
    split
    · rfl
    · apply ih
      omega

variable [DecidableEq α]

/-- **Each piece is as long as its element weighs.** -/
theorem count_pieceAt (weight : α → Nat) {xs : List α} (hdistinct : xs.Nodup) {x : α} (hx : x ∈ xs) :
    Nat.count (fun k => pieceAt weight xs k = some x) (xs.map weight).sum = weight x := by
  induction xs with
  | nil => cases hx
  | cons y ys ih =>
    obtain ⟨hnew, hrest⟩ := List.nodup_cons.mp hdistinct
    rw [List.map_cons, List.sum_cons, Nat.count_add]
    have hfirst : ∀ k < weight y, pieceAt weight (y :: ys) k = some y := fun k hk => if_pos hk
    have hlater : ∀ k, pieceAt weight (y :: ys) (weight y + k) = pieceAt weight ys k := by
      intro k
      rw [pieceAt, if_neg (Nat.not_lt.mpr (Nat.le_add_right _ k)), Nat.add_sub_cancel_left]
    simp only [hlater]
    by_cases hsame : x = y
    · -- the first piece, and `x` does not come again
      subst hsame
      have hwhole : Nat.count (fun k => pieceAt weight (x :: ys) k = some x) (weight x) = weight x :=
        Nat.count_iff_forall.mpr hfirst
      have hnone : Nat.count (fun k => pieceAt weight ys k = some x) (ys.map weight).sum = 0 :=
        Nat.count_iff_forall_not.mpr fun k _ h => hnew (mem_of_pieceAt h)
      rw [hwhole, hnone, Nat.add_zero]
    · have hother : Nat.count (fun k => pieceAt weight (y :: ys) k = some x) (weight y) = 0 :=
        Nat.count_iff_forall_not.mpr fun k hk h => hsame (Option.some.inj (h.symm.trans (hfirst k hk)))
      rw [hother, Nat.zero_add]
      exact ih hrest ((List.mem_cons.mp hx).resolve_left hsame)

omit [DecidableEq α] in
theorem countP_range'_of_periodic (p : Nat → Prop) [DecidablePred p] {a : Nat} (hperiodic : Function.Periodic p a) (start : Nat) :
    (List.range' start a).countP (fun k => decide (p k)) = Nat.count p a := by
  rw [← Nat.filter_multiset_Ico_card_eq_of_periodic start a p hperiodic, List.countP_eq_length_filter]
  show _ = Multiset.card (Multiset.filter p (List.range' start (start + a - start) : Multiset Nat))
  rw [Nat.add_sub_cancel_left, Multiset.filter_coe, Multiset.coe_card]

/-- **In every block of as many consecutive numbers as the weights sum up to, each element is met as often as it weighs**, whatever
    number the block begins with. -/
theorem count_pieceAt_block (weight : α → Nat) {xs : List α} (hdistinct : xs.Nodup) {x : α} (hx : x ∈ xs) (start : Nat) :
    ((List.range' start (xs.map weight).sum).map fun k => pieceAt weight xs (k % (xs.map weight).sum)).count (some x) = weight x := by
  have hperiodic : Function.Periodic (fun k => pieceAt weight xs (k % (xs.map weight).sum) = some x) (xs.map weight).sum := by
    intro k
    dsimp only
    rw [Nat.add_mod_right]
  rw [List.count_eq_countP, List.countP_map]
  refine Eq.trans ?_ ((countP_range'_of_periodic _ hperiodic start).trans ?_)
  · refine List.countP_congr fun k _ => ?_
    simp
  · rw [← count_pieceAt weight hdistinct hx]
    refine Nat.le_antisymm (Nat.count_mono_left fun k hk h => ?_) (Nat.count_mono_left fun k hk h => ?_)
    · rwa [Nat.mod_eq_of_lt hk] at h
    · rwa [Nat.mod_eq_of_lt hk]

end SedsNet.Lib
