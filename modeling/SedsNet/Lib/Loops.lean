/-!
# Loops

A loop is a function that takes a state through one round: it ends with an answer, or goes on from another state. Nothing
bounds the number of its rounds. `runLoop` runs at most so many of them, and `Ends` says that the loop ends by itself, and
with what: then every bound that is large enough gives that answer.
-/

set_option autoImplicit false

namespace SedsNet.Lib

variable {σ δ : Type} (round : σ → δ ⊕ σ) (out : σ → δ)

/-- At most so many rounds. `out` is the answer where they do not suffice. -/
def runLoop : Nat → σ → δ
  | 0, s => out s
  | n + 1, s =>
    match round s with
    | .inl d => d
    | .inr s' => runLoop n s'

/-- The loop ends with this answer. -/
inductive Ends : σ → δ → Prop where
  | last {s : σ} {d : δ} (h : round s = .inl d) : Ends s d
  | next {s s' : σ} {d : δ} (h : round s = .inr s') (hends : Ends s' d) : Ends s d

variable {round}

/-- A loop that ends does so within every number of rounds from some number on. -/
theorem Ends.runLoop {s : σ} {d : δ} (h : Ends round s d) : ∃ n, ∀ m ≥ n, runLoop round out m s = d := by
  induction h with
  | last h =>
    refine ⟨1, fun m hm => ?_⟩
    obtain ⟨m, rfl⟩ := Nat.exists_eq_add_of_le' hm
    simp [Lib.runLoop, h]
  | next h _ ih =>
    obtain ⟨n, hn⟩ := ih
    refine ⟨n + 1, fun m hm => ?_⟩
    obtain ⟨m, rfl⟩ := Nat.exists_eq_add_of_le' hm
    simp only [Lib.runLoop, h]
    exact hn _ (Nat.le_add_left n m)

/-- **The rule for loops**: where the rounds keep the invariant, the variant gets smaller with every round that is not the last, and the
    last round meets the postcondition, the loop ends and meets it. -/
theorem ends_of_variant {ρ : Type} [WellFoundedRelation ρ] (variant : σ → ρ) {I : σ → Prop} {P : δ → Prop}
    (hlast : ∀ s d, I s → round s = .inl d → P d)
    (hnext : ∀ s s', I s → round s = .inr s' → I s' ∧ WellFoundedRelation.rel (variant s') (variant s))
    {s : σ} (hs : I s) : ∃ d, Ends round s d ∧ P d := by
  induction h : variant s using (@WellFoundedRelation.wf ρ _).induction generalizing s with
  | _ v ih =>
    cases hround : round s with
    | inl d => exact ⟨d, .last hround, hlast s d hs hround⟩
    | inr s' =>
      obtain ⟨hs', hlt⟩ := hnext s s' hs hround
      obtain ⟨d, hends, hd⟩ := ih (variant s') (h ▸ hlt) hs' rfl
      exact ⟨d, .next hround hends, hd⟩

end SedsNet.Lib
