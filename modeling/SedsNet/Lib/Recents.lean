import Mathlib.Data.List.DropRight
import Mathlib.Data.List.Nodup

/-!
# The last few that were new

A window of bounded size remembers what was seen lately: what is in the window is not remembered again, and what is new
pushes out the oldest once the window is full. `Recents` says what such a window holds, in terms of everything that was new
when it came: the last `n` of that, without repeats. Something comes back as new only after `n` others (`apart`).
-/

set_option autoImplicit false

namespace SedsNet.Lib

variable {α : Type} [DecidableEq α]

/-- One more comes; a full window loses its oldest. -/
def remember (n : Nat) (window : List α) (x : α) : List α :=
  if x ∈ window then window else (if n ≤ window.length then window.tail else window) ++ [x]

/-- Those that are new when they come. -/
def news (n : Nat) : List α → List α → List α
  | _, [] => []
  | window, x :: xs => if x ∈ window then news n window xs else x :: news n (remember n window x) xs

/-- The window holds the last `n` of `seen`, all of which were new when they came. -/
structure Recents (n : Nat) (window seen : List α) : Prop where
  last : window = seen.rtake n
  nodup : window.Nodup
  spaced : ∀ before x after, seen = before ++ x :: after → x ∉ before.rtake n

namespace Recents

variable {n : Nat} {window seen : List α} {x : α}

omit [DecidableEq α] in
theorem nil (n : Nat) : Recents n ([] : List α) [] where
  last := (List.rtake_nil n).symm
  nodup := List.nodup_nil
  spaced before x after hsplit := absurd hsplit.symm (List.append_ne_nil_of_right_ne_nil before (List.cons_ne_nil x after))

omit [DecidableEq α] in
theorem length_le (h : Recents n window seen) : window.length ≤ n := by
  rw [h.last, List.rtake, List.length_drop]
  omega

omit [DecidableEq α] in
/-- A full window without its oldest, and any other as it is, has room for one more. -/
theorem rtake_eq (xs : List α) (n : Nat) :
    xs.rtake n = if n + 1 ≤ (xs.rtake (n + 1)).length then (xs.rtake (n + 1)).tail else xs.rtake (n + 1) := by
  unfold List.rtake
  rw [List.length_drop]
  split
  · rw [List.tail_drop]
    congr 1
    omega
  · have hshort : xs.length - n = xs.length - (n + 1) := by omega
    rw [hshort]

/-- **One more that is new.** -/
theorem remember (hn : n ≠ 0) (h : Recents n window seen) (hnew : x ∉ window) :
    Recents n (remember n window x) (seen ++ [x]) := by
  obtain ⟨m, rfl⟩ := Nat.exists_eq_succ_of_ne_zero hn
  have hrest : (if m + 1 ≤ window.length then window.tail else window) = seen.rtake m := by
    rw [rtake_eq seen m, h.last]
  have hsub : (if m + 1 ≤ window.length then window.tail else window).Sublist window := by
    split
    · exact List.tail_sublist window
    · exact List.Sublist.refl window
  unfold Lib.remember
  rw [if_neg hnew]
  refine ⟨?_, ?_, ?_⟩
  · rw [List.rtake_concat_succ]
    exact congrArg (· ++ [x]) hrest
  · refine List.nodup_append.mpr ⟨h.nodup.sublist hsub, List.nodup_singleton x, ?_⟩
    rintro a ha b hb rfl
    rw [List.mem_singleton] at hb
    exact hnew (hb ▸ hsub.subset ha)
  · intro before y after hsplit
    rcases List.eq_nil_or_concat' after with rfl | ⟨after, z, rfl⟩
    · obtain ⟨rfl, hlast⟩ := List.append_inj' hsplit rfl
      rw [← (List.cons_eq_cons.mp hlast).1, ← h.last]
      exact hnew
    · rw [← List.cons_append, ← List.append_assoc] at hsplit
      exact h.spaced before y after (List.append_inj' hsplit rfl).1

/-- **Any number more.** -/
theorem foldl (hn : n ≠ 0) (h : Recents n window seen) (xs : List α) :
    Recents n (xs.foldl (Lib.remember n) window) (seen ++ news n window xs) := by
  induction xs generalizing window seen with
  | nil =>
    unfold news
    rwa [List.append_nil]
  | cons x xs ih =>
    rw [List.foldl_cons]
    unfold news
    split
    · rename_i hmem
      have hsame : Lib.remember n window x = window := if_pos hmem
      rw [hsame]
      exact ih h
    · rename_i hnew
      have hrest := ih (h.remember hn hnew)
      rwa [List.append_assoc] at hrest

omit [DecidableEq α] in
/-- What comes back as new comes after `n` others. -/
theorem apart (h : Recents n window seen) {before between after : List α}
    (hsplit : seen = before ++ x :: between ++ x :: after) : n ≤ between.length := by
  have hgone := h.spaced (before ++ x :: between) x after hsplit
  by_contra hfew
  apply hgone
  -- the last `n` would reach back to it
  unfold List.rtake
  have hlength : (before ++ x :: between).length - n ≤ before.length := by
    rw [List.length_append, List.length_cons]
    omega
  rw [List.drop_append_of_le_length hlength]
  exact List.mem_append_right _ List.mem_cons_self

end Recents

end SedsNet.Lib
