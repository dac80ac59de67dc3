import Mathlib.Data.List.Basic

/-!
# A cursor reader that leaves a trace

Hand-written parsers over a raw buffer move a cursor, may stop at any point, and touch
memory on the way. `Reader ε α` keeps the three apart: a reader started at a cursor
position answers an optional value with the position it stopped at, and a list of events
`ε`, the accesses it made, **whether or not it failed**. The events never influence the
result, so a proof about *what* is parsed (`Reader.value`) can forget them, and a proof
about *where* the parser looked (`Reader.Safe`) can forget the values.

`Reader.Safe I p Q G` is the partial-correctness judgment used for the second kind: from
a position satisfying `I`, every access satisfies `G`, and if `p` answers then the answer
and the final position satisfy `Q`.
-/

set_option autoImplicit false

namespace SedsNet.Lib

/-- A reader: cursor position in; optional answer with the new position, and the accesses
    made, out. -/
def Reader (ε α : Type) : Type := Nat → Option (α × Nat) × List ε

namespace Reader

variable {ε α β : Type}

/-- The outcome of a reader, its accesses forgotten. -/
def value (p : Reader ε α) (i : Nat) : Option (α × Nat) := (p i).1

/-- The accesses of a reader, its outcome forgotten. -/
def trace (p : Reader ε α) (i : Nat) : List ε := (p i).2

protected def pure (a : α) : Reader ε α := fun i => (some (a, i), [])

protected def bind (p : Reader ε α) (f : α → Reader ε β) : Reader ε β := fun i =>
  match p i with
  | (none, l) => (none, l)
  | (some (a, j), l) => ((f a j).1, l ++ (f a j).2)

instance : Monad (Reader ε) where
  pure := Reader.pure
  bind := Reader.bind

theorem map_id_apply (x : Reader ε α) : id <$> x = x := by
  funext i
  show Reader.bind x (fun a => Reader.pure (id a)) i = x i
  unfold Reader.bind Reader.pure
  rcases x i with ⟨_ | ⟨a, j⟩, l⟩
  · rfl
  · simp

theorem bind_bind {γ : Type} (x : Reader ε α) (f : α → Reader ε β) (g : β → Reader ε γ) :
    x >>= f >>= g = x >>= fun a => f a >>= g := by
  funext i
  show Reader.bind (Reader.bind x f) g i = Reader.bind x (fun a => Reader.bind (f a) g) i
  unfold Reader.bind
  rcases x i with ⟨_ | ⟨a, j⟩, l⟩
  · rfl
  · simp only
    rcases f a j with ⟨_ | ⟨b, k⟩, m⟩
    · rfl
    · simp

instance : LawfulMonad (Reader ε) :=
  LawfulMonad.mk' (Reader ε) map_id_apply (fun _ _ => rfl) bind_bind

/-- Give up here. -/
def fail : Reader ε α := fun _ => (none, [])

/-- The current position. -/
def tell : Reader ε Nat := fun i => (some (i, i), [])

/-- Record an access. -/
def emit (e : ε) : Reader ε Unit := fun i => (some ((), i), [e])

/-- Record several accesses. -/
def emitAll (l : List ε) : Reader ε Unit := fun i => (some ((), i), l)

/-- A part that is given by its outcome, and accesses nothing. -/
def lift (f : Nat → Option (α × Nat)) : Reader ε α := fun i => (f i, [])

/-- Give up if `c` holds. -/
def rejectIf (c : Prop) [Decidable c] : Reader ε Unit := if c then fail else pure ()

/-- Move the cursor forward, recording where it lands. -/
def advance (n : Nat) (e : Nat → ε) : Reader ε Unit := fun i => (some ((), i + n), [e (i + n)])

theorem fail_bind (f : α → Reader ε β) : (fail : Reader ε α) >>= f = fail := rfl

theorem ite_bind {c : Prop} [Decidable c] (p q : Reader ε α) (f : α → Reader ε β) :
    (if c then p else q) >>= f = if c then p >>= f else q >>= f := by
  split <;> rfl

theorem rejectIf_congr {c d : Prop} [Decidable c] [Decidable d] (h : c ↔ d) :
    (rejectIf c : Reader ε Unit) = rejectIf d := by
  unfold rejectIf
  by_cases hd : d
  · rw [if_pos hd, if_pos (h.mpr hd)]
  · rw [if_neg hd, if_neg (fun hc => hd (h.mp hc))]

theorem rejectIf_of_not {c : Prop} [Decidable c] (h : ¬c) : (rejectIf c : Reader ε Unit) = pure () :=
  if_neg h

theorem rejectIf_or {c d : Prop} [Decidable c] [Decidable d] :
    (rejectIf (c ∨ d) : Reader ε Unit) = rejectIf c >>= fun _ => rejectIf d := by
  unfold rejectIf
  by_cases hc : c
  · rw [if_pos (Or.inl hc), if_pos hc]
    rfl
  · by_cases hd : d
    · rw [if_pos (Or.inr hd), if_neg hc, if_pos hd]
      rfl
    · rw [if_neg (fun h => h.elim hc hd), if_neg hc, if_neg hd]
      rfl

/-- Asking for the position commutes with a check. -/
theorem rejectIf_tell {c : Prop} [Decidable c] (f : Nat → Reader ε α) :
    (rejectIf c >>= fun _ => tell >>= f) = tell >>= fun i => rejectIf c >>= fun _ => f i := by
  unfold rejectIf
  split <;> rfl

/-! ## Outcomes -/

@[simp] theorem value_pure (a : α) (i : Nat) : (pure a : Reader ε α).value i = some (a, i) := rfl

@[simp] theorem value_fail (i : Nat) : (fail : Reader ε α).value i = none := rfl

@[simp] theorem value_tell (i : Nat) : (tell : Reader ε Nat).value i = some (i, i) := rfl

@[simp] theorem value_emit (e : ε) (i : Nat) : (emit e).value i = some ((), i) := rfl

@[simp] theorem value_emitAll (l : List ε) (i : Nat) : (emitAll l).value i = some ((), i) := rfl

@[simp] theorem value_lift (f : Nat → Option (α × Nat)) (i : Nat) : (lift f : Reader ε α).value i = f i := rfl

@[simp] theorem value_rejectIf (c : Prop) [Decidable c] (i : Nat) :
    (rejectIf c : Reader ε Unit).value i = if c then none else some ((), i) := by
  unfold rejectIf
  split <;> rfl

@[simp] theorem value_advance (n : Nat) (e : Nat → ε) (i : Nat) :
    (advance n e).value i = some ((), i + n) := rfl

theorem bind_apply (p : Reader ε α) (f : α → Reader ε β) (i : Nat) :
    (p >>= f) i = match p i with
      | (none, l) => (none, l)
      | (some (a, j), l) => ((f a j).1, l ++ (f a j).2) := rfl

@[simp] theorem value_bind (p : Reader ε α) (f : α → Reader ε β) (i : Nat) :
    (p >>= f).value i = (p.value i).bind fun r => (f r.1).value r.2 := by
  simp only [value, bind_apply]
  cases hp : p i with
  | mk r l =>
    cases r with
    | none => rfl
    | some r => rfl

@[simp] theorem value_ite {c : Prop} [Decidable c] (p q : Reader ε α) (i : Nat) :
    (if c then p else q).value i = if c then p.value i else q.value i := by
  split <;> rfl

/-- A composite that answers has an answering first part, and continues from there. -/
theorem value_bind_eq_some {p : Reader ε α} {f : α → Reader ε β} {i k : Nat} {b : β}
    (h : (p >>= f).value i = some (b, k)) :
    ∃ a j, p.value i = some (a, j) ∧ (f a).value j = some (b, k) := by
  rw [value_bind] at h
  obtain ⟨r, hr, hf⟩ := Option.bind_eq_some_iff.mp h
  exact ⟨r.1, r.2, hr, hf⟩

theorem value_rejectIf_bind {c : Prop} [Decidable c] (f : Unit → Reader ε α) (i : Nat) :
    (rejectIf c >>= f).value i = if c then none else (f ()).value i := by
  rw [value_bind, value_rejectIf]
  split <;> rfl

/-- A check that was passed. -/
theorem value_rejectIf_bind_eq_some {c : Prop} [Decidable c] {f : Unit → Reader ε α} {i k : Nat}
    {a : α} (h : (rejectIf c >>= f).value i = some (a, k)) : ¬c ∧ (f ()).value i = some (a, k) := by
  rw [value_rejectIf_bind] at h
  by_cases hc : c
  · simp [hc] at h
  · rw [if_neg hc] at h
    exact ⟨hc, h⟩

/-- The converse, for building an outcome part by part. -/
theorem value_bind_of {p : Reader ε α} {f : α → Reader ε β} {i j : Nat} {a : α}
    (h : p.value i = some (a, j)) : (p >>= f).value i = (f a).value j := by
  rw [value_bind, h, Option.bind_some]

/-! ## Accesses -/

@[simp] theorem trace_pure (a : α) (i : Nat) : (pure a : Reader ε α).trace i = [] := rfl

@[simp] theorem trace_fail (i : Nat) : (fail : Reader ε α).trace i = [] := rfl

@[simp] theorem trace_tell (i : Nat) : (tell : Reader ε Nat).trace i = [] := rfl

@[simp] theorem trace_emit (e : ε) (i : Nat) : (emit e).trace i = [e] := rfl

@[simp] theorem trace_emitAll (l : List ε) (i : Nat) : (emitAll l).trace i = l := rfl

@[simp] theorem trace_lift (f : Nat → Option (α × Nat)) (i : Nat) : (lift f : Reader ε α).trace i = [] := rfl

@[simp] theorem trace_rejectIf (c : Prop) [Decidable c] (i : Nat) :
    (rejectIf c : Reader ε Unit).trace i = [] := by
  unfold rejectIf
  split <;> rfl

@[simp] theorem trace_advance (n : Nat) (e : Nat → ε) (i : Nat) :
    (advance n e).trace i = [e (i + n)] := rfl

theorem trace_bind_of_some {p : Reader ε α} {f : α → Reader ε β} {i j : Nat} {a : α}
    (h : p.value i = some (a, j)) : (p >>= f).trace i = p.trace i ++ (f a).trace j := by
  simp only [value, trace, bind_apply] at *
  cases hp : p i with
  | mk r l =>
    rw [hp] at h
    subst h
    rfl

theorem trace_bind_of_none {p : Reader ε α} {f : α → Reader ε β} {i : Nat}
    (h : p.value i = none) : (p >>= f).trace i = p.trace i := by
  simp only [value, trace, bind_apply] at *
  cases hp : p i with
  | mk r l =>
    rw [hp] at h
    subst h
    rfl

/-- Whatever the first part accessed, the composite accessed. -/
theorem mem_trace_bind_left {p : Reader ε α} {f : α → Reader ε β} {i : Nat} {e : ε}
    (h : e ∈ p.trace i) : e ∈ (p >>= f).trace i := by
  cases hv : p.value i with
  | none => rw [trace_bind_of_none hv]; exact h
  | some r =>
    rw [trace_bind_of_some (show p.value i = some (r.1, r.2) from hv)]
    exact List.mem_append_left _ h

/-- Whatever the continuation accessed, the composite accessed. -/
theorem mem_trace_bind_right {p : Reader ε α} {f : α → Reader ε β} {i j : Nat} {a : α} {e : ε}
    (hv : p.value i = some (a, j)) (h : e ∈ (f a).trace j) : e ∈ (p >>= f).trace i := by
  rw [trace_bind_of_some hv]
  exact List.mem_append_right _ h

/-- An access of a composite is one of its first part, or of the rest from where the first part stopped. -/
theorem mem_trace_bind {p : Reader ε α} {f : α → Reader ε β} {i : Nat} {e : ε} :
    e ∈ (p >>= f).trace i ↔ e ∈ p.trace i ∨ ∃ a j, p.value i = some (a, j) ∧ e ∈ (f a).trace j := by
  cases hv : p.value i with
  | none =>
    rw [trace_bind_of_none hv]
    simp
  | some r =>
    rw [trace_bind_of_some (show p.value i = some (r.1, r.2) from hv), List.mem_append]
    refine or_congr_right ⟨fun h => ⟨r.1, r.2, rfl, h⟩, fun ⟨a, j, hr, h⟩ => ?_⟩
    cases hr
    exact h

@[simp] theorem trace_ite {c : Prop} [Decidable c] (p q : Reader ε α) (i : Nat) :
    (if c then p else q).trace i = if c then p.trace i else q.trace i := by
  split <;> rfl

/-! ## The safety judgment -/

/-- From a position in `I`, `p` accesses only what `G` allows, and answers only in `Q`. -/
structure Safe (I : Nat → Prop) (p : Reader ε α) (Q : α → Nat → Prop) (G : ε → Prop) : Prop where
  access : ∀ i, I i → ∀ e ∈ p.trace i, G e
  answer : ∀ i, I i → ∀ a j, p.value i = some (a, j) → Q a j

variable {I : Nat → Prop} {Q : α → Nat → Prop} {G : ε → Prop}

theorem Safe.pure {a : α} (h : ∀ i, I i → Q a i) : Safe I (pure a : Reader ε α) Q G where
  access := by simp
  answer := by
    intro i hi b j hv
    simp only [value_pure, Option.some.injEq, Prod.mk.injEq] at hv
    obtain ⟨rfl, rfl⟩ := hv
    exact h i hi

theorem Safe.fail : Safe I (fail : Reader ε α) Q G where
  access := by simp
  answer := by simp

theorem Safe.tell : Safe I (tell : Reader ε Nat) (fun a j => a = j ∧ I j) G where
  access := by simp
  answer := by
    intro i hi a j hv
    simp only [value_tell, Option.some.injEq, Prod.mk.injEq] at hv
    obtain ⟨rfl, rfl⟩ := hv
    exact ⟨rfl, hi⟩

theorem Safe.emit {e : ε} (h : ∀ i, I i → G e) : Safe I (emit e) (fun _ j => I j) G where
  access := by
    intro i hi e' he'
    rw [trace_emit, List.mem_singleton] at he'
    subst he'
    exact h i hi
  answer := by
    intro i hi a j hv
    simp only [value_emit, Option.some.injEq, Prod.mk.injEq] at hv
    exact hv.2 ▸ hi

theorem Safe.emitAll {l : List ε} (h : ∀ i, I i → ∀ e ∈ l, G e) :
    Safe I (emitAll l) (fun _ j => I j) G where
  access := by
    intro i hi e he
    rw [trace_emitAll] at he
    exact h i hi e he
  answer := by
    intro i hi a j hv
    simp only [value_emitAll, Option.some.injEq, Prod.mk.injEq] at hv
    exact hv.2 ▸ hi

/-- After a passed check its negation is known. -/
theorem Safe.rejectIf {c : Prop} [Decidable c] :
    Safe I (rejectIf c) (fun _ j => ¬c ∧ I j) G where
  access := by simp
  answer := by
    intro i hi a j hv
    rw [value_rejectIf] at hv
    split at hv
    · simp at hv
    · simp only [Option.some.injEq, Prod.mk.injEq] at hv
      exact ⟨‹_›, hv.2 ▸ hi⟩

theorem Safe.advance {n : Nat} {e : Nat → ε} {J : Nat → Prop} (hG : ∀ i, I i → G (e (i + n)))
    (hJ : ∀ i, I i → J (i + n)) : Safe I (advance n e) (fun _ j => J j) G where
  access := by
    intro i hi e' he'
    rw [trace_advance, List.mem_singleton] at he'
    subst he'
    exact hG i hi
  answer := by
    intro i hi a j hv
    simp only [value_advance, Option.some.injEq, Prod.mk.injEq] at hv
    exact hv.2 ▸ hJ i hi

/-- Sequencing: the continuation is judged from the positions the first part can stop at. -/
theorem Safe.bind {p : Reader ε α} {f : α → Reader ε β} {R : β → Nat → Prop}
    (hp : Safe I p Q G) (hf : ∀ a, Safe (Q a) (f a) R G) : Safe I (p >>= f) R G where
  access := by
    intro i hi e he
    cases hv : p.value i with
    | none =>
      rw [trace_bind_of_none hv] at he
      exact hp.access i hi e he
    | some r =>
      have hq : Q r.1 r.2 := hp.answer i hi r.1 r.2 hv
      rw [trace_bind_of_some (show p.value i = some (r.1, r.2) from hv)] at he
      rcases List.mem_append.mp he with h | h
      · exact hp.access i hi e h
      · exact (hf r.1).access r.2 hq e h
  answer := by
    intro i hi b k hv
    obtain ⟨a, j, ha, hb⟩ := value_bind_eq_some hv
    exact (hf a).answer j (hp.answer i hi a j ha) b k hb

theorem Safe.ite {c : Prop} [Decidable c] {p q : Reader ε α} (hp : c → Safe I p Q G)
    (hq : ¬c → Safe I q Q G) : Safe I (if c then p else q) Q G := by
  split
  · exact hp ‹_›
  · exact hq ‹_›

/-- From a fixed position, what is known of the answer includes that it is the answer. -/
theorem Safe.withValue {p : Reader ε α} {i : Nat} (h : Safe (· = i) p Q G) :
    Safe (· = i) p (fun a j => p.value i = some (a, j) ∧ Q a j) G where
  access := h.access
  answer := by
    rintro _ rfl a j hv
    exact ⟨hv, h.answer _ rfl a j hv⟩

/-- A judgment from a set of positions is one from each of them. -/
theorem Safe.ofEach {p : Reader ε α} (h : ∀ i, I i → Safe (· = i) p Q G) : Safe I p Q G where
  access := fun i hi => (h i hi).access i rfl
  answer := fun i hi => (h i hi).answer i rfl

/-- Strengthen what is required before, weaken what is promised after. -/
theorem Safe.conseq {p : Reader ε α} {J : Nat → Prop} {R : α → Nat → Prop}
    (h : Safe I p Q G) (hJ : ∀ i, J i → I i) (hR : ∀ a j, Q a j → R a j) : Safe J p R G where
  access := fun i hi => h.access i (hJ i hi)
  answer := fun i hi a j hv => hR a j (h.answer i (hJ i hi) a j hv)

end Reader

end SedsNet.Lib
