import Mathlib.Data.List.Destutter
import Mathlib.Data.List.Sort
import Mathlib.Data.List.Dedup

/-!
# Ascending lists

A list is ascending if it is sorted and nothing stands in it twice. Such a list is known by its members alone, and
sorting a list and dropping its repeats gives the ascending list of the same members.

The same for records that are sorted by a key, of which the first of each key is kept: the keys are ascending then,
and nothing is lost where no two records had the same key.
-/

set_option autoImplicit false

namespace SedsNet.Lib

variable {α : Type} [LE α]

/-- Sorted, and without repeats. -/
structure Ascending (xs : List α) : Prop where
  sorted : xs.Pairwise (· ≤ ·)
  nodup : xs.Nodup

theorem Ascending.nil : Ascending ([] : List α) := ⟨.nil, .nil⟩

theorem Ascending.singleton (x : α) : Ascending [x] := ⟨List.pairwise_singleton _ x, List.nodup_singleton x⟩

theorem Ascending.sublist {xs ys : List α} (h : Ascending ys) (hsub : xs.Sublist ys) : Ascending xs :=
  ⟨h.sorted.sublist hsub, h.nodup.sublist hsub⟩

theorem Ascending.filter {xs : List α} (h : Ascending xs) (p : α → Bool) : Ascending (xs.filter p) :=
  h.sublist List.filter_sublist

section

variable [DecidableLE α] [DecidableEq α] [Std.IsLinearOrder α]

omit [DecidableLE α] [DecidableEq α] in
/-- **Ascending lists with the same members are equal.** -/
theorem Ascending.ext {xs ys : List α} (h : Ascending xs) (h' : Ascending ys) (hmem : ∀ x, x ∈ xs ↔ x ∈ ys) : xs = ys := by
  have hperm : xs.Perm ys := (List.perm_ext_iff_of_nodup h.nodup h'.nodup).mpr hmem
  exact hperm.eq_of_pairwise' h.sorted h'.sorted

theorem destutter_insertionSort (xs : List α) :
    (xs.insertionSort (· ≤ ·)).destutter (· ≠ ·) = (xs.insertionSort (· ≤ ·)).dedup :=
  (List.pairwise_insertionSort (· ≤ ·) xs).destutter_eq_dedup

theorem ascending_destutter_insertionSort (xs : List α) : Ascending ((xs.insertionSort (· ≤ ·)).destutter (· ≠ ·)) := by
  rw [destutter_insertionSort]
  exact ⟨(List.pairwise_insertionSort (· ≤ ·) xs).sublist (List.dedup_sublist _), List.nodup_dedup _⟩

theorem mem_destutter_insertionSort {xs : List α} {x : α} :
    x ∈ (xs.insertionSort (· ≤ ·)).destutter (· ≠ ·) ↔ x ∈ xs := by
  rw [destutter_insertionSort, List.mem_dedup]
  exact List.mem_insertionSort (· ≤ ·)

end

/-! ## By a key -/

section

variable {β : Type} {key : β → α}

omit [LE α] in
theorem eq_of_key_eq {xs : List β} (hnodup : (xs.map key).Nodup) {x y : β} (hx : x ∈ xs) (hy : y ∈ xs)
    (h : key x = key y) : x = y :=
  List.inj_on_of_nodup_map hnodup hx hy h

/-- Records whose keys are ascending are known by what they are. -/
theorem Ascending.ext_key [Std.IsLinearOrder α] {xs ys : List β} (h : Ascending (xs.map key)) (h' : Ascending (ys.map key))
    (hmem : ∀ x, x ∈ xs ↔ x ∈ ys) : xs = ys := by
  have hperm : xs.Perm ys :=
    (List.perm_ext_iff_of_nodup (List.Nodup.of_map key h.nodup) (List.Nodup.of_map key h'.nodup)).mpr hmem
  refine hperm.eq_of_pairwise ?_ (List.pairwise_map.mp h.sorted) (List.pairwise_map.mp h'.sorted)
  intro x y hx hy hle hge
  exact eq_of_key_eq h.nodup hx ((hmem y).mpr hy) (Std.IsPartialOrder.le_antisymm _ _ hle hge)

variable [DecidableLE α] [DecidableEq α]

/-- The keys of what is kept are the keys there were. -/
theorem map_destutter_insertionSort (xs : List β) :
    ((xs.insertionSort (key · ≤ key ·)).destutter (key · ≠ key ·)).map key =
      ((xs.map key).insertionSort (· ≤ ·)).destutter (· ≠ ·) := by
  have hsort : (xs.insertionSort (key · ≤ key ·)).map key = (xs.map key).insertionSort (· ≤ ·) :=
    List.map_insertionSort _ (· ≤ ·) key xs fun _ _ _ _ => Iff.rfl
  rw [← hsort]
  exact List.map_destutter fun _ _ _ _ => Iff.rfl

/-- Where no two records have the same key, all are kept. -/
theorem perm_destutter_insertionSort {xs : List β} (h : (xs.map key).Nodup) :
    ((xs.insertionSort (key · ≤ key ·)).destutter (key · ≠ key ·)).Perm xs := by
  have hperm := List.perm_insertionSort (key · ≤ key ·) xs
  have hne : (xs.insertionSort (key · ≤ key ·)).Pairwise (key · ≠ key ·) :=
    List.pairwise_map.mp ((hperm.map key).nodup_iff.mpr h)
  rw [List.destutter_of_isChain _ _ hne.isChain]
  exact hperm

end

end SedsNet.Lib
