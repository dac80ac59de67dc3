import SedsNet.Lib.Json

/-!
# Numbers in fields

Decimal numbers filled up with zeros to a width, and texts made of fields: a number, and behind it bytes the first of which is
no digit. Such a text can be read from the left, so the numbers of a text are determined by it, and so is the byte behind the
first of them.
-/

set_option autoImplicit false

namespace SedsNet.Lib

open Json

/-- `n` in decimal, filled up with zeros in front. -/
def padded (width n : Nat) : List UInt8 := (decimal n).leftpad width zero

theorem padded_zero (n : Nat) : padded 0 n = decimal n := by
  unfold padded List.leftpad
  simp

theorem isDigit_of_mem_padded {width n : Nat} {x : UInt8} (hx : x ∈ padded width n) : isDigit x = true := by
  rcases List.mem_append.mp hx with hzero | hdigit
  · rw [(List.mem_replicate.mp hzero).2]
    rfl
  · exact (decimal_digits n).all x hdigit

/-- Zeros in front do not count. -/
theorem digitsValue_zeros (k : Nat) (b : List UInt8) : digitsValue (List.replicate k zero ++ b) = digitsValue b := by
  induction k with
  | zero => rfl
  | succ k ih => exact ih

theorem digitsValue_padded (width n : Nat) : digitsValue (padded width n) = n :=
  (digitsValue_zeros _ _).trans (digitsValue_decimal n)

/-- What comes before the first element that does not satisfy `p` is determined. -/
theorem append_cons_inj_of_all {α : Type} {p : α → Bool} {a b s t : List α} {c d : α} (ha : ∀ x ∈ a, p x = true) (hb : ∀ x ∈ b, p x = true)
    (hc : p c = false) (hd : p d = false) (h : a ++ c :: s = b ++ d :: t) : a = b ∧ c = d ∧ s = t := by
  have hleft : (a ++ c :: s).takeWhile p = a := by
    rw [List.takeWhile_append_of_pos ha, List.takeWhile_cons_of_neg (by rw [hc]; exact Bool.false_ne_true), List.append_nil]
  have hright : (b ++ d :: t).takeWhile p = b := by
    rw [List.takeWhile_append_of_pos hb, List.takeWhile_cons_of_neg (by rw [hd]; exact Bool.false_ne_true), List.append_nil]
  have hab : a = b := by rw [← hleft, h, hright]
  subst hab
  exact ⟨rfl, List.cons.inj (List.append_cancel_left h)⟩

/-- A number of at least `width` digits, and what stands behind it. -/
structure Field where
  width : Nat
  stop : UInt8
  rest : List UInt8
  stop_not_digit : isDigit stop = false

namespace Field

/-- The numbers in their fields. -/
def text : List Field → List Nat → List UInt8
  | f :: fs, n :: ns => padded f.width n ++ f.stop :: (f.rest ++ text fs ns)
  | _, _ => []

/-- The first number and the byte behind it can be read off. -/
theorem text_cons_inj {f g : Field} {fs gs : List Field} {n m : Nat} {ns ms : List Nat}
    (h : text (f :: fs) (n :: ns) = text (g :: gs) (m :: ms)) :
    n = m ∧ f.stop = g.stop ∧ f.rest ++ text fs ns = g.rest ++ text gs ms := by
  obtain ⟨hnumber, hstop, hrest⟩ := append_cons_inj_of_all (p := isDigit) (fun _ => isDigit_of_mem_padded)
    (fun _ => isDigit_of_mem_padded) f.stop_not_digit g.stop_not_digit h
  refine ⟨?_, hstop, hrest⟩
  have hvalue := congrArg digitsValue hnumber
  rwa [digitsValue_padded, digitsValue_padded] at hvalue

/-- **The numbers of a text are determined by it.** -/
theorem text_inj {fs : List Field} {ns ms : List Nat} (hns : ns.length = fs.length) (hms : ms.length = fs.length)
    (h : text fs ns = text fs ms) : ns = ms := by
  induction fs generalizing ns ms with
  | nil => rw [List.length_eq_zero_iff.mp hns, List.length_eq_zero_iff.mp hms]
  | cons f fs ih =>
    cases ns with
    | nil => cases hns
    | cons n ns =>
      cases ms with
      | nil => cases hms
      | cons m ms =>
        obtain ⟨hnumber, -, hrest⟩ := text_cons_inj h
        rw [hnumber, ih (Nat.succ.inj hns) (Nat.succ.inj hms) (List.append_cancel_left hrest)]

end Field

end SedsNet.Lib
