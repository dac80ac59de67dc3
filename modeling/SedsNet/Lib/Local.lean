import SedsNet.Lib.Reader

/-!
# Readers that look no further than they get

Two readers over two buffers that are equal up to some place read alike as long as they stop before it, whatever stands
behind. `Reader.LikeUpTo n p p'` says so of two readers, and is closed under what readers are put together with: a reader
that never goes back, and whose answer, if it stops by `n`, is the answer of the other.
-/

set_option autoImplicit false

namespace SedsNet.Lib.Reader

variable {ε α β : Type}

/-- Where the reader answers, it has moved by `m` at least. -/
def Moves (m : Nat) (p : Reader ε α) : Prop := ∀ i a j, p.value i = some (a, j) → i + m ≤ j

theorem Moves.zero_of {m : Nat} {p : Reader ε α} (h : Moves m p) : Moves 0 p := by
  intro i a j hv
  have hmoved := h i a j hv
  omega

theorem Moves.bind {m k : Nat} {p : Reader ε α} {f : α → Reader ε β} (hp : Moves m p) (hf : ∀ a, Moves k (f a)) :
    Moves (m + k) (p >>= f) := by
  intro i b j hv
  obtain ⟨a, i', ha, hb⟩ := value_bind_eq_some hv
  have hfirst := hp i a i' ha
  have hsecond := hf a i' b j hb
  omega

theorem Moves.advance {n : Nat} {e : Nat → ε} : Moves n (advance n e) := by
  intro i a j hv
  simp only [value_advance, Option.some.injEq, Prod.mk.injEq] at hv
  exact Nat.le_of_eq hv.2

theorem Moves.pure {a : α} : Moves 0 (pure a : Reader ε α) := by
  intro i b j hv
  simp only [value_pure, Option.some.injEq, Prod.mk.injEq] at hv
  exact Nat.le_of_eq hv.2

theorem Moves.fail : Moves 0 (fail : Reader ε α) := by
  intro i a j hv
  cases hv

theorem Moves.tell : Moves 0 (tell : Reader ε Nat) := by
  intro i a j hv
  simp only [value_tell, Option.some.injEq, Prod.mk.injEq] at hv
  exact Nat.le_of_eq hv.2

theorem Moves.emitAll {l : List ε} : Moves 0 (emitAll l) := by
  intro i a j hv
  simp only [value_emitAll, Option.some.injEq, Prod.mk.injEq] at hv
  exact Nat.le_of_eq hv.2

theorem Moves.emit {e : ε} : Moves 0 (emit e) := by
  intro i a j hv
  simp only [value_emit, Option.some.injEq, Prod.mk.injEq] at hv
  exact Nat.le_of_eq hv.2

theorem Moves.rejectIf {c : Prop} [Decidable c] : Moves 0 (rejectIf c : Reader ε Unit) := by
  intro i a j hv
  rw [value_rejectIf] at hv
  split at hv
  · cases hv
  · simp only [Option.some.injEq, Prod.mk.injEq] at hv
    exact Nat.le_of_eq hv.2

/-- The first part moves far enough. -/
theorem Moves.bind_left {m : Nat} {p : Reader ε α} {f : α → Reader ε β} (hp : Moves m p) (hf : ∀ a, Moves 0 (f a)) :
    Moves m (p >>= f) := hp.bind hf

/-- The second part moves far enough. -/
theorem Moves.bind_right {m : Nat} {p : Reader ε α} {f : α → Reader ε β} (hp : Moves 0 p) (hf : ∀ a, Moves m (f a)) :
    Moves m (p >>= f) := by
  have hmoves := hp.bind hf
  rwa [Nat.zero_add] at hmoves

/-- Up to `n` the second reader reads what the first one reads. -/
structure LikeUpTo (n : Nat) (p p' : Reader ε α) : Prop where
  forward : Moves 0 p
  same : ∀ i a j, p.value i = some (a, j) → j ≤ n → p'.value i = some (a, j)

variable {n : Nat}

/-- A reader that does not look at a buffer. -/
theorem LikeUpTo.of_moves {p : Reader ε α} (h : Moves 0 p) : LikeUpTo n p p := ⟨h, fun _ _ _ hv _ => hv⟩

theorem LikeUpTo.pure {a : α} : LikeUpTo n (pure a : Reader ε α) (pure a) := .of_moves .pure

theorem LikeUpTo.fail : LikeUpTo n (fail : Reader ε α) fail := .of_moves .fail

theorem LikeUpTo.tell : LikeUpTo n (tell : Reader ε Nat) tell := .of_moves .tell

theorem LikeUpTo.emitAll {l : List ε} : LikeUpTo n (emitAll l) (emitAll l) := .of_moves .emitAll

theorem LikeUpTo.emit {e : ε} : LikeUpTo n (emit e) (emit e) := .of_moves .emit

theorem LikeUpTo.rejectIf {c : Prop} [Decidable c] : LikeUpTo n (rejectIf c : Reader ε Unit) (rejectIf c) := .of_moves .rejectIf

theorem LikeUpTo.advance {m : Nat} {e : Nat → ε} : LikeUpTo n (advance m e) (advance m e) := .of_moves Moves.advance.zero_of

theorem LikeUpTo.bind {p p' : Reader ε α} {f f' : α → Reader ε β} (hp : LikeUpTo n p p') (hf : ∀ a, LikeUpTo n (f a) (f' a)) :
    LikeUpTo n (p >>= f) (p' >>= f') := by
  refine ⟨hp.forward.bind fun a => (hf a).forward, ?_⟩
  intro i b k hv hk
  obtain ⟨a, j, ha, hb⟩ := value_bind_eq_some hv
  -- the first part stopped before the second one did
  have hj : j ≤ k := (hf a).forward j b k hb
  rw [value_bind_of (hp.same i a j ha (by omega))]
  exact (hf a).same j b k hb hk

theorem LikeUpTo.ite {c : Prop} [Decidable c] {p p' q q' : Reader ε α} (hp : LikeUpTo n p p') (hq : LikeUpTo n q q') :
    LikeUpTo n (if c then p else q) (if c then p' else q') := by
  split
  · exact hp
  · exact hq

end SedsNet.Lib.Reader
