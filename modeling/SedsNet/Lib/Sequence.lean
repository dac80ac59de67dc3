import Mathlib.Data.List.Basic
import Mathlib.Data.List.Infix

/-!
# Lists in sequence

An in-order stream looks the same at every point it passes: the items a sender has produced, the
ones a receiver has passed on, the ones waiting in between. Each is a list whose items are, one
after the other, the ones that belong at positions `first`, `first + 1`, ... Which item belongs at
a position is a predicate `P`: it may say what number the item carries, or that it is the very item
another list has there.

The lemmas are the ones an argument about such a stream needs: how a list in sequence splits and
grows, that it is a prefix of the list it is measured against, and that the labels its items carry
are the labels of its positions, so that they rise when those do.
-/

set_option autoImplicit false

namespace SedsNet.Lib

variable {α β : Type}

/-- The items of `xs` belong at positions `first`, `first + 1`, .. -/
def InSequence (P : Nat → α → Prop) (first : Nat) (xs : List α) : Prop :=
  ∀ i x, xs[i]? = some x → P (first + i) x

namespace InSequence

variable {P Q : Nat → α → Prop} {first : Nat} {xs ys : List α} {x : α}

theorem nil (P : Nat → α → Prop) (first : Nat) : InSequence P first [] := by
  intro i x h
  simp at h

theorem cons_iff : InSequence P first (x :: xs) ↔ P first x ∧ InSequence P (first + 1) xs := by
  constructor
  · intro h
    refine ⟨h 0 x rfl, fun i y hy => ?_⟩
    have := h (i + 1) y hy
    rwa [show first + (i + 1) = first + 1 + i by omega] at this
  · intro ⟨hx, hxs⟩ i y hy
    cases i with
    | zero =>
      rw [List.getElem?_cons_zero, Option.some.injEq] at hy
      exact hy ▸ hx
    | succ i =>
      rw [show first + (i + 1) = first + 1 + i by omega]
      exact hxs i y hy

theorem append_iff : InSequence P first (xs ++ ys) ↔
    InSequence P first xs ∧ InSequence P (first + xs.length) ys := by
  induction xs generalizing first with
  | nil => simp [nil]
  | cons x xs ih =>
    rw [List.cons_append, cons_iff, cons_iff, ih, List.length_cons, and_assoc,
      show first + 1 + xs.length = first + (xs.length + 1) by omega]

theorem singleton_iff : InSequence P first [x] ↔ P first x := by
  rw [cons_iff]
  exact and_iff_left (nil P _)

/-- A list in sequence grows by an item that belongs at its end. -/
theorem concat (h : InSequence P first xs) (hx : P (first + xs.length) x) :
    InSequence P first (xs ++ [x]) :=
  append_iff.mpr ⟨h, singleton_iff.mpr hx⟩

theorem imp (h : InSequence P first xs) (hPQ : ∀ n y, P n y → Q n y) : InSequence Q first xs :=
  fun i x hx => hPQ _ _ (h i x hx)

theorem map_iff {Q : Nat → β → Prop} {f : α → β} :
    InSequence Q first (xs.map f) ↔ InSequence (fun n y => Q n (f y)) first xs := by
  induction xs generalizing first with
  | nil => exact iff_of_true (nil _ _) (nil _ _)
  | cons x xs ih => rw [List.map_cons, cons_iff, cons_iff, ih]

/-- Measured against another list, being in sequence from the start is being a prefix. -/
theorem prefix_iff : InSequence (fun n y => ys[n]? = some y) 0 xs ↔ xs <+: ys := by
  rw [List.prefix_iff_getElem?]
  constructor
  · intro h i hi
    have := h i xs[i] (List.getElem?_eq_getElem hi)
    rwa [Nat.zero_add] at this
  · intro h i y hy
    obtain ⟨hi, rfl⟩ := List.getElem?_eq_some_iff.mp hy
    rw [Nat.zero_add]
    exact h i hi

/-- Items that carry their position's label have the labels of the positions, in order. -/
theorem map_eq {num : α → β} {label : Nat → β}
    (h : InSequence (fun n y => num y = label n) first xs) :
    xs.map num = (List.range' first xs.length).map label := by
  induction xs generalizing first with
  | nil => rfl
  | cons x xs ih =>
    obtain ⟨hx, hxs⟩ := cons_iff.mp h
    rw [List.map_cons, List.length_cons, List.range'_succ, List.map_cons, hx, ih hxs]

end InSequence

end SedsNet.Lib
