import Mathlib.Data.List.Basic
import Mathlib.Algebra.Order.Group.Nat

/-!
# Reading a message block by block

A block function `f` turns a state and one block of `n` elements into a state. `absorb` folds it over the whole blocks of a
message, as a standard words it: the message is parsed into `N` blocks, and block `i` is what stands at its place.

A program that is handed the message in pieces keeps a state and a buffer. `Absorbed m s buf` says that it has read `m`: the
blocks that are complete went into `s`, and `buf` is what is left over. Its three moves are to keep more (`keep`), to give up a
full buffer (`compress`), and to be at the end of a message that came out even (`eq_absorb`).
-/

set_option autoImplicit false

namespace SedsNet.Lib

variable {σ α : Type} (n : Nat) (f : σ → List α → σ)

/-- Block `i` of a message. -/
def blockAt (m : List α) (i : Nat) : List α := (m.drop (n * i)).take n

/-- The whole blocks of a message, in order. -/
def absorb (s : σ) (m : List α) : σ := (List.range (m.length / n)).foldl (fun s i => f s (blockAt n m i)) s

section Absorb

variable {n} {f}

theorem blockAt_append_left {a b : List α} {i : Nat} (hi : n * i + n ≤ a.length) :
    blockAt n (a ++ b) i = blockAt n a i := by
  unfold blockAt
  rw [List.drop_append_of_le_length (by omega), List.take_append_of_le_length (by rw [List.length_drop]; omega)]

/-- Behind a part that came out even, the blocks are those of the rest. -/
theorem blockAt_append_right {a b : List α} {k : Nat} (ha : a.length = n * k) (i : Nat) :
    blockAt n (a ++ b) (k + i) = blockAt n b i := by
  unfold blockAt
  rw [Nat.mul_add, ← ha, List.drop_append, Nat.add_sub_cancel_left, List.drop_of_length_le (Nat.le_add_right _ _), List.nil_append]

/-- Nothing is lost at a boundary between two blocks. -/
theorem absorb_append (hn : 0 < n) (s : σ) {a : List α} (b : List α) (ha : n ∣ a.length) :
    absorb n f s (a ++ b) = absorb n f (absorb n f s a) b := by
  obtain ⟨k, hk⟩ := ha
  have hka : a.length / n = k := by rw [hk, Nat.mul_div_cancel_left _ hn]
  have hkb : (a ++ b).length / n = k + b.length / n := by
    rw [List.length_append, hk, Nat.add_comm, Nat.add_mul_div_left _ _ hn, Nat.add_comm]
  unfold absorb
  rw [hka, hkb, List.range_add, List.foldl_append, List.foldl_map]
  have hleft : (List.range k).foldl (fun s i => f s (blockAt n (a ++ b) i)) s =
      (List.range k).foldl (fun s i => f s (blockAt n a i)) s := by
    refine List.foldl_ext _ _ _ fun s i hi => ?_
    have hi' : i + 1 ≤ k := List.mem_range.mp hi
    have hle : n * (i + 1) ≤ a.length := hk ▸ Nat.mul_le_mul_left n hi'
    rw [blockAt_append_left (by rw [Nat.mul_add, Nat.mul_one] at hle; exact hle)]
  rw [hleft]
  exact List.foldl_ext _ _ _ fun s i _ => by rw [blockAt_append_right hk]

/-- One block is one application of the block function. -/
theorem absorb_block (hn : 0 < n) (s : σ) {b : List α} (hb : b.length = n) : absorb n f s b = f s b := by
  unfold absorb
  rw [hb, Nat.div_self hn]
  show f s (blockAt n b 0) = f s b
  unfold blockAt
  rw [Nat.mul_zero, List.drop_zero, List.take_of_length_le (Nat.le_of_eq hb)]

theorem absorb_nil (s : σ) : absorb n f s [] = s := by
  unfold absorb
  rw [List.length_nil, Nat.zero_div]
  rfl

end Absorb

variable (s₀ : σ)

/-- The message `m` has been read from the state `s₀` on: its complete blocks are in `s`, and `buf` waits for its block to
    become full. -/
def Absorbed (m : List α) (s : σ) (buf : List α) : Prop :=
  ∃ w : List α, m = w ++ buf ∧ n ∣ w.length ∧ s = absorb n f s₀ w

namespace Absorbed

variable {n} {f} {s₀} {m : List α} {s : σ} {buf : List α}

theorem init : Absorbed n f s₀ [] s₀ [] := ⟨[], rfl, Nat.dvd_zero n, (absorb_nil s₀).symm⟩

/-- What arrives may wait. -/
theorem keep (h : Absorbed n f s₀ m s buf) (c : List α) : Absorbed n f s₀ (m ++ c) s (buf ++ c) := by
  obtain ⟨w, rfl, hd, hs⟩ := h
  exact ⟨w, List.append_assoc w buf c, hd, hs⟩

/-- A full buffer goes into the state. -/
theorem compress (hn : 0 < n) (h : Absorbed n f s₀ m s buf) (hb : buf.length = n) : Absorbed n f s₀ m (f s buf) [] := by
  obtain ⟨w, rfl, hd, rfl⟩ := h
  refine ⟨w ++ buf, (List.append_nil _).symm, ?_, ?_⟩
  · rw [List.length_append, hb]
    exact Nat.dvd_add hd (Nat.dvd_refl n)
  · rw [absorb_append hn s₀ buf hd, absorb_block hn _ hb]

/-- A message with nothing left over is absorbed. -/
theorem eq_absorb (h : Absorbed n f s₀ m s []) : s = absorb n f s₀ m := by
  obtain ⟨w, rfl, -, rfl⟩ := h
  rw [List.append_nil]

end Absorbed

end SedsNet.Lib
