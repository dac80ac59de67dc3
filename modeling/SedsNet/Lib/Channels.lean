import Mathlib.Data.List.Chain
import Mathlib.Data.List.Forall2
import SedsNet.Lib.Machine

/-!
# Channels that lose, but keep the order

Things go into a channel, wait in it, and come out, changed in ways that a relation `R` allows. Some are lost, but what comes
out comes out in the order it went in, and each thing once at most: `List.SublistForall₂ R out inp`.

A machine is such a channel if in each of its steps what it lets go, followed by what it keeps, is what it kept before followed
by what it is given, less what it loses (`LetsGo`). And channels one behind the other are one channel, as long as the links
between them lose at most, too.
-/

set_option autoImplicit false

namespace SedsNet.Lib

section

variable {α β γ : Type} {R : γ → β → Prop}

theorem sublistForall₂_of_sublist_right {out : List γ} {inp inp' : List β} (hsub : inp.Sublist inp')
    (h : List.SublistForall₂ R out inp) : List.SublistForall₂ R out inp' := by
  obtain ⟨kept, hkept, hkeptSub⟩ := List.sublistForall₂_iff.mp h
  exact List.sublistForall₂_iff.mpr ⟨kept, hkept, hkeptSub.trans hsub⟩

theorem sublistForall₂_append {out out' : List γ} {inp inp' : List β} (h : List.SublistForall₂ R out inp)
    (h' : List.SublistForall₂ R out' inp') : List.SublistForall₂ R (out ++ out') (inp ++ inp') := by
  obtain ⟨kept, hkept, hsub⟩ := List.sublistForall₂_iff.mp h
  obtain ⟨kept', hkept', hsub'⟩ := List.sublistForall₂_iff.mp h'
  exact List.sublistForall₂_iff.mpr ⟨kept ++ kept', List.rel_append hkept hkept', hsub.append hsub'⟩

/-! ## One channel -/

/-- What has come out is in order, and what waits may follow it. -/
def Passed (R : γ → β → Prop) (out : List γ) (waits given : List β) : Prop :=
  ∃ gone, List.SublistForall₂ R out gone ∧ (gone ++ waits).Sublist given

/-- A step that is given `new`, and puts out `out`. -/
def LetsGo (R : γ → β → Prop) (waits new : List β) (out : List γ) (waits' : List β) : Prop :=
  Passed R out waits' (waits ++ new)

theorem Passed.inOrder {out : List γ} {waits given : List β} (h : Passed R out waits given) :
    List.SublistForall₂ R out given := by
  obtain ⟨gone, hout, hsub⟩ := h
  exact sublistForall₂_of_sublist_right ((List.sublist_append_left gone waits).trans hsub) hout

theorem Passed.step {out out' : List γ} {waits waits' given new : List β} (h : Passed R out waits given)
    (hstep : LetsGo R waits new out' waits') : Passed R (out ++ out') waits' (given ++ new) := by
  obtain ⟨gone, hout, hsub⟩ := h
  obtain ⟨gone', hout', hsub'⟩ := hstep
  refine ⟨gone ++ gone', sublistForall₂_append hout hout', ?_⟩
  have hmore : (gone ++ (waits ++ new)).Sublist (given ++ new) := by
    rw [← List.append_assoc]
    exact hsub.append_right new
  rw [List.append_assoc]
  exact (hsub'.append_left gone).trans hmore

/-- A step that puts nothing out, and keeps no more than it had and was given. -/
theorem LetsGo.of_sublist {waits new waits' : List β} (h : waits'.Sublist (waits ++ new)) : LetsGo R waits new [] waits' :=
  ⟨[], .nil, h⟩

/-- **A machine whose steps are those of a channel is a channel**: what has come out of it after a run is in the order of what
    it was given on the way. -/
theorem passed_run {σ : Type} {step : σ → α → σ} {I : σ → Prop} {C : α → Prop} (out : σ → List γ) (waits : σ → List β)
    (given : α → List β) (hkeeps : ∀ s a, I s → C a → I (step s a))
    (hstep : ∀ s a, I s → C a → ∃ new, out (step s a) = out s ++ new ∧ LetsGo R (waits s) (given a) new (waits (step s a)))
    {s : σ} {acts : List α} (hacts : ∀ a ∈ acts, C a) (hstart : I s) {before : List β}
    (hpassed : Passed R (out s) (waits s) before) :
    Passed R (out (runFrom step s acts)) (waits (runFrom step s acts)) (before ++ acts.flatMap given) := by
  induction acts generalizing s before with
  | nil =>
    rw [List.flatMap_nil, List.append_nil]
    exact hpassed
  | cons a acts ih =>
    have ha := hacts a List.mem_cons_self
    obtain ⟨new, hout, hgo⟩ := hstep s a hstart ha
    have hnext : Passed R (out (step s a)) (waits (step s a)) (before ++ given a) := by
      rw [hout]
      exact hpassed.step hgo
    rw [runFrom_cons, List.flatMap_cons, ← List.append_assoc]
    exact ih (fun b hb => hacts b (List.mem_cons_of_mem a hb)) (hkeeps s a hstart ha) hnext

end

/-! ## One channel behind the other -/

section

variable {ι α : Type} {R : α → α → Prop} [IsTrans α R] {out inp : ι → List α}

/-- **Channels in a row are one channel**: what the last one puts out is in the order of what the first one was given, if each
    is given no more than what the one before it puts out, in that order. -/
theorem inOrder_row (first : ι) (rest : List ι) (h : ∀ i ∈ first :: rest, List.SublistForall₂ R (out i) (inp i))
    (hlinks : List.IsChain (fun i j => (inp j).Sublist (out i)) (first :: rest)) :
    List.SublistForall₂ R (out ((first :: rest).getLast (List.cons_ne_nil _ _))) (inp first) := by
  induction rest generalizing first with
  | nil => exact h first List.mem_cons_self
  | cons next rest ih =>
    obtain ⟨hlink, hlinks⟩ := List.isChain_cons_cons.mp hlinks
    have hrest := ih next (fun i hi => h i (List.mem_cons_of_mem first hi)) hlinks
    rw [List.getLast_cons (List.cons_ne_nil _ _)]
    exact IsTrans.trans _ _ _ (sublistForall₂_of_sublist_right hlink hrest) (h first List.mem_cons_self)

end

end SedsNet.Lib
