/-!
# Runs under a condition

A machine is a step function, and a run is a list of actions. `Along C s acts` says that every action of the run
meets the condition `C` in the state it is taken in. An invariant that every such step keeps holds at the end of
the run, and so, since the beginning of a run is a run, in every state on the way.
-/

set_option autoImplicit false

namespace SedsNet.Lib

variable {σ α : Type} (step : σ → α → σ)

/-- The state after a run. -/
def runFrom (s : σ) (acts : List α) : σ := acts.foldl step s

/-- Every action of the run meets the condition in the state it is taken in. -/
def Along (C : σ → α → Prop) : σ → List α → Prop
  | _, [] => True
  | s, a :: acts => C s a ∧ Along C (step s a) acts

instance decidableAlong {C : σ → α → Prop} [∀ s a, Decidable (C s a)] :
    ∀ (s : σ) (acts : List α), Decidable (Along step C s acts)
  | _, [] => isTrue trivial
  | s, a :: acts =>
    @instDecidableAnd (C s a) (Along step C (step s a) acts) _ (decidableAlong (step s a) acts)

variable {step}

@[simp] theorem runFrom_nil (s : σ) : runFrom step s [] = s := rfl

@[simp] theorem runFrom_cons (s : σ) (a : α) (acts : List α) :
    runFrom step s (a :: acts) = runFrom step (step s a) acts := rfl

@[simp] theorem runFrom_append (s : σ) (acts acts' : List α) :
    runFrom step s (acts ++ acts') = runFrom step (runFrom step s acts) acts' :=
  List.foldl_append

variable {C : σ → α → Prop}

theorem along_append {s : σ} {acts acts' : List α} :
    Along step C s (acts ++ acts') ↔ Along step C s acts ∧ Along step C (runFrom step s acts) acts' := by
  induction acts generalizing s with
  | nil => exact ⟨fun h => ⟨trivial, h⟩, fun h => h.2⟩
  | cons a acts ih =>
    constructor
    · intro h
      obtain ⟨hrest, hmore⟩ := ih.mp h.2
      exact ⟨⟨h.1, hrest⟩, hmore⟩
    · intro h
      exact ⟨h.1.1, ih.mpr ⟨h.1.2, h.2⟩⟩

/-- **The invariant rule**: what holds at the start, and is kept by every step that meets the condition, holds at
    the end of the run. -/
theorem Along.invariant {I : σ → Prop} {s : σ} {acts : List α} (h : Along step C s acts) (hstart : I s)
    (hstep : ∀ s a, C s a → I s → I (step s a)) : I (runFrom step s acts) := by
  induction acts generalizing s with
  | nil => exact hstart
  | cons a acts ih => exact ih h.2 (hstep s a h.1 hstart)

/-- The same for the state that an action on the way is taken in, which meets the condition there. -/
theorem Along.invariant_before {I : σ → Prop} {s : σ} {before after : List α} {a : α}
    (h : Along step C s (before ++ a :: after)) (hstart : I s) (hstep : ∀ s a, C s a → I s → I (step s a)) :
    I (runFrom step s before) ∧ C (runFrom step s before) a := by
  obtain ⟨hbefore, ha, -⟩ := along_append.mp h
  exact ⟨hbefore.invariant hstart hstep, ha⟩

/-- A condition on the actions alone. -/
theorem along_of_forall {A : α → Prop} {s : σ} {acts : List α} (h : ∀ a ∈ acts, A a) : Along step (fun _ a => A a) s acts := by
  induction acts generalizing s with
  | nil => trivial
  | cons a acts ih => exact ⟨h a List.mem_cons_self, ih fun b hb => h b (List.mem_cons_of_mem a hb)⟩

/-- **The record of a run**: where every step adds to it only what is allowed, so does the run. -/
theorem Along.record {τ : Type} {I : σ → Prop} {P : τ → Prop} {s : σ} {acts : List α} (h : Along step C s acts) (record : σ → List τ)
    (hstart : I s) (hstep : ∀ s a, C s a → I s → I (step s a) ∧ ∃ l, record (step s a) = record s ++ l ∧ ∀ e ∈ l, P e) :
    ∃ l, record (runFrom step s acts) = record s ++ l ∧ ∀ e ∈ l, P e := by
  induction acts generalizing s with
  | nil => exact ⟨[], (List.append_nil _).symm, fun _ he => absurd he List.not_mem_nil⟩
  | cons a acts ih =>
    obtain ⟨hnext, l, hl, hallowed⟩ := hstep s a h.1 hstart
    obtain ⟨l', hl', hallowed'⟩ := ih h.2 hnext
    refine ⟨l ++ l', by rw [runFrom_cons, hl', hl, List.append_assoc], fun e he => ?_⟩
    rcases List.mem_append.mp he with he | he
    · exact hallowed e he
    · exact hallowed' e he

end SedsNet.Lib
