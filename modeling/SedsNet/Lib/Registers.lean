import SedsNet.Lib.Machine

/-!
# Registers

A machine that keeps values under keys, of which an action writes at most one: it puts a value under a key, or takes the one that
is there away. Where that is so, what is read under a key after a run is what was written there last (`read_run`).
-/

set_option autoImplicit false

namespace SedsNet.Lib

/-- A value is put under the key, or taken away. -/
structure Write (κ ν : Type) where
  key : κ
  value : Option ν
deriving DecidableEq, Repr

section

variable {σ α κ ν : Type}

/-- The writes of a run, in order. -/
def writesOf (step : σ → α → σ) (write : σ → α → Option (Write κ ν)) : σ → List α → List (Write κ ν)
  | _, [] => []
  | s, a :: acts => (write s a).toList ++ writesOf step write (step s a) acts

theorem writesOf_cons (step : σ → α → σ) (write : σ → α → Option (Write κ ν)) (s : σ) (a : α) (acts : List α) :
    writesOf step write s (a :: acts) = (write s a).toList ++ writesOf step write (step s a) acts := rfl

variable [DecidableEq κ]

/-- What is read under a key after a write, or after none. -/
def readAfter (w : Option (Write κ ν)) (k : κ) (old : Option ν) : Option ν :=
  w.elim old fun w => if w.key = k then w.value else old

/-- The last of the writes to a key. -/
def lastWrite (k : κ) (ws : List (Write κ ν)) : Option (Write κ ν) := (ws.filter (·.key = k)).getLast?

theorem lastWrite_append (k : κ) (ws ws' : List (Write κ ν)) :
    lastWrite k (ws ++ ws') = (lastWrite k ws').or (lastWrite k ws) := by
  unfold lastWrite
  rw [List.filter_append, List.getLast?_append]

theorem readAfter_eq (w : Option (Write κ ν)) (k : κ) (old : Option ν) :
    readAfter w k old = (lastWrite k w.toList).elim old (·.value) := by
  cases w with
  | none => rfl
  | some w =>
    unfold readAfter lastWrite
    by_cases hkey : w.key = k
    · simp [hkey]
    · simp [hkey]

variable {step : σ → α → σ} {write : σ → α → Option (Write κ ν)} {read : σ → κ → Option ν}

/-- **The last write is read.** -/
theorem read_run (hstep : ∀ s a k, read (step s a) k = readAfter (write s a) k (read s k)) (s : σ) (acts : List α) (k : κ) :
    read (runFrom step s acts) k = (lastWrite k (writesOf step write s acts)).elim (read s k) (·.value) := by
  induction acts generalizing s with
  | nil => rfl
  | cons a acts ih =>
    rw [runFrom_cons, ih, hstep, readAfter_eq, writesOf_cons, lastWrite_append]
    cases lastWrite k (writesOf step write (step s a) acts) with
    | none => rfl
    | some w => rfl

end

end SedsNet.Lib
