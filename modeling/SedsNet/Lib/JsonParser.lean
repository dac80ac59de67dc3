import SedsNet.Lib.Json

/-!
# A parser for JSON

`parse` reads a text from left to right. `parse_text`: of a text of a value it makes that value, whatever the text, so a text is a
text of one value at most.
-/

set_option autoImplicit false

namespace SedsNet.Lib.Json

def skipSpaces (b : List UInt8) : List UInt8 := b.dropWhile isSpace

/-! ## Numbers -/

def parseDigits (b : List UInt8) : Option (List UInt8 × List UInt8) :=
  if (b.takeWhile isDigit).isEmpty then none else some (b.takeWhile isDigit, b.dropWhile isDigit)

def parseFraction : List UInt8 → Option (List UInt8 × List UInt8)
  | [] => some ([], [])
  | x :: b => if x = point then parseDigits b else some ([], x :: b)

/-- Digits, with a sign in front. -/
def parseSigned : List UInt8 → Option (Int × List UInt8)
  | [] => none
  | x :: b =>
    if x = minus then (parseDigits b).map fun (ds, rest) => (-(digitsValue ds : Int), rest)
    else (parseDigits (if x = 0x2B then b else x :: b)).map fun (ds, rest) => ((digitsValue ds : Int), rest)

def parseExponent : List UInt8 → Option (Int × List UInt8)
  | [] => some (0, [])
  | x :: b => if isExponentMark x then parseSigned b else some (0, x :: b)

def parseMagnitude (b : List UInt8) : Option (Nat × Int × List UInt8) :=
  match parseDigits b with
  | none => none
  | some (int, b) =>
    if int.head? = some zero ∧ int ≠ [zero] then none
    else
      match parseFraction b with
      | none => none
      | some (frac, b) => (parseExponent b).map fun (e, rest) => (digitsValue (int ++ frac), e - frac.length, rest)

def parseNumber : List UInt8 → Option (Json × List UInt8)
  | [] => none
  | x :: b =>
    if x = minus then (parseMagnitude b).map fun (n, e, rest) => (.number (-(n : Int)) e, rest)
    else (parseMagnitude (x :: b)).map fun (n, e, rest) => (.number n e, rest)

/-! ## Strings -/

/-- What stands behind `\u`. -/
def parseUnicode : List UInt8 → Option (List UInt8 × List UInt8)
  | a :: b :: c :: d :: rest =>
    match hex4 a b c d with
    | none => none
    | some u =>
      if isHighSurrogate u then
        match rest with
        | x :: y :: a :: b :: c :: d :: rest =>
          match hex4 a b c d with
          | none => none
          | some w =>
            if x = backslash ∧ y = letterU ∧ isLowSurrogate w then some (utf8 (surrogatePair u w), rest) else none
        | _ => none
      else if isLowSurrogate u then none
      else some (utf8 u, rest)
  | _ => none

/-- An escape, or a byte that stands for itself. -/
def parseCharacter : List UInt8 → Option (List UInt8 × List UInt8)
  | [] => none
  | x :: b =>
    if x = backslash then
      match b with
      | [] => none
      | y :: b => if y = letterU then parseUnicode b else (shortEscape y).map fun z => ([z], b)
    else if x < 0x20 then none
    else some ([x], b)

/-- Up to the quote that ends the string. -/
def parseCharacters : Nat → List UInt8 → Option (List UInt8 × List UInt8)
  | 0, _ => none
  | _ + 1, [] => none
  | n + 1, x :: b =>
    if x = quote then some ([], b)
    else
      match parseCharacter (x :: b) with
      | none => none
      | some (s, b) => (parseCharacters n b).map fun (ss, rest) => (s ++ ss, rest)

/-! ## Values -/

def parseLiteral (text : List UInt8) (v : Json) (b : List UInt8) : Option (Json × List UInt8) :=
  if text.isPrefixOf b then some (v, b.drop text.length) else none

/-- A value between spaces. -/
def parseElement (value : List UInt8 → Option (Json × List UInt8)) (b : List UInt8) : Option (Json × List UInt8) :=
  (value (skipSpaces b)).map fun (v, rest) => (v, skipSpaces rest)

def parseMember (value : List UInt8 → Option (Json × List UInt8)) (b : List UInt8) :
    Option ((List UInt8 × Json) × List UInt8) :=
  match skipSpaces b with
  | [] => none
  | x :: b =>
    if x = quote then
      match parseCharacters (b.length + 1) b with
      | none => none
      | some (s, b) =>
        match skipSpaces b with
        | [] => none
        | y :: b => if y = colon then (parseElement value b).map fun (v, rest) => ((s, v), rest) else none
    else none

mutual

def parseValue : Nat → List UInt8 → Option (Json × List UInt8)
  | 0, _ => none
  | _ + 1, [] => none
  | n + 1, x :: b =>
    if x = quote then (parseCharacters (b.length + 1) b).map fun (s, rest) => (.string s, rest)
    else if x = openBracket then
      match skipSpaces b with
      | [] => none
      | y :: rest =>
        if y = closeBracket then some (.array [], rest) else (parseElements n b).map fun (vs, rest) => (.array vs, rest)
    else if x = openBrace then
      match skipSpaces b with
      | [] => none
      | y :: rest =>
        if y = closeBrace then some (.object [], rest) else (parseMembers n b).map fun (ms, rest) => (.object ms, rest)
    else if x = 0x6E then parseLiteral nullText .null (x :: b)
    else if x = 0x74 then parseLiteral trueText (.bool true) (x :: b)
    else if x = 0x66 then parseLiteral falseText (.bool false) (x :: b)
    else parseNumber (x :: b)

/-- Up to the bracket. -/
def parseElements : Nat → List UInt8 → Option (List Json × List UInt8)
  | 0, _ => none
  | n + 1, b =>
    match parseElement (parseValue n) b with
    | none => none
    | some (_, []) => none
    | some (v, x :: rest) =>
      if x = comma then (parseElements n rest).map fun (vs, rest) => (v :: vs, rest)
      else if x = closeBracket then some ([v], rest)
      else none

/-- Up to the brace. -/
def parseMembers : Nat → List UInt8 → Option (List (List UInt8 × Json) × List UInt8)
  | 0, _ => none
  | n + 1, b =>
    match parseMember (parseValue n) b with
    | none => none
    | some (_, []) => none
    | some (m, x :: rest) =>
      if x = comma then (parseMembers n rest).map fun (ms, rest) => (m :: ms, rest)
      else if x = closeBrace then some ([m], rest)
      else none

end

/-- A text of one value, and nothing else. -/
def parse (b : List UInt8) : Option Json :=
  match parseElement (parseValue (2 * b.length + 1)) b with
  | some (v, []) => some v
  | _ => none

/-! ## Digits and numbers are read -/

/-- What can stand behind a value. -/
def Delimited (b : List UInt8) : Prop := ∀ x ∈ b.head?, isDigit x = false ∧ x ≠ point ∧ isExponentMark x = false

theorem takeWhile_stop {p : UInt8 → Bool} {ds rest : List UInt8} (hds : ∀ x ∈ ds, p x = true) (hrest : ∀ x ∈ rest.head?, p x = false) :
    (ds ++ rest).takeWhile p = ds ∧ (ds ++ rest).dropWhile p = rest := by
  rw [List.takeWhile_append_of_pos hds, List.dropWhile_append_of_pos hds]
  cases rest with
  | nil => exact ⟨List.append_nil _, rfl⟩
  | cons x rest =>
    have hx : ¬ p x = true := by rw [hrest x rfl]; exact Bool.false_ne_true
    rw [List.takeWhile_cons_of_neg hx, List.dropWhile_cons_of_neg hx]
    exact ⟨List.append_nil _, rfl⟩

theorem skipSpaces_append {w b : List UInt8} (hw : Spaces w) (hb : ∀ x ∈ b.head?, isSpace x = false) : skipSpaces (w ++ b) = b :=
  (takeWhile_stop hw hb).2

theorem parseDigits_append {ds rest : List UInt8} (h : Digits ds) (hrest : ∀ x ∈ rest.head?, isDigit x = false) :
    parseDigits (ds ++ rest) = some (ds, rest) := by
  obtain ⟨htake, hdrop⟩ := takeWhile_stop h.all hrest
  unfold parseDigits
  rw [htake, hdrop, if_neg]
  rw [List.isEmpty_iff]
  exact h.some

theorem digit_ne {x y : UInt8} (hx : isDigit x = true) (hy : isDigit y = false) : x ≠ y := by
  rintro rfl
  rw [hx] at hy
  cases hy

theorem mark_cases {x : UInt8} (h : isExponentMark x = true) : isDigit x = false ∧ x ≠ point := by
  simp only [isExponentMark, Bool.or_eq_true, decide_eq_true_eq] at h
  rcases h with rfl | rfl <;> decide

theorem space_cases {x : UInt8} (h : isSpace x = true) : isDigit x = false ∧ x ≠ point ∧ isExponentMark x = false := by
  simp only [isSpace, Bool.or_eq_true, decide_eq_true_eq] at h
  rcases h with ((rfl | rfl) | rfl) | rfl <;> decide

theorem isSpace_of_digit {x : UInt8} (hx : isDigit x = true) : isSpace x = false := by
  rw [Bool.eq_false_iff]
  intro h
  rw [(space_cases h).1] at hx
  cases hx

theorem Digits.head {ds : List UInt8} (h : Digits ds) : ∃ x b, ds = x :: b ∧ isDigit x = true := by
  cases ds with
  | nil => exact absurd rfl h.some
  | cons x b => exact ⟨x, b, rfl, h.all x List.mem_cons_self⟩

theorem parseFraction_append {ds t rest : List UInt8} (h : Fraction ds t)
    (hrest : ∀ x ∈ rest.head?, isDigit x = false ∧ x ≠ point) : parseFraction (t ++ rest) = some (ds, rest) := by
  cases h with
  | none =>
    cases rest with
    | nil => rfl
    | cons x rest =>
      rw [List.nil_append, parseFraction, if_neg (hrest x rfl).2]
  | some h => exact parseDigits_append h fun x hx => (hrest x hx).1

theorem parseSigned_digits {ds rest : List UInt8} (h : Digits ds) (hrest : ∀ x ∈ rest.head?, isDigit x = false) :
    parseSigned (ds ++ rest) = some ((digitsValue ds : Int), rest) := by
  obtain ⟨x, b, rfl, hx⟩ := h.head
  rw [List.cons_append, parseSigned, if_neg (digit_ne hx rfl), if_neg (digit_ne hx rfl), ← List.cons_append, parseDigits_append h hrest]
  rfl

theorem parseExponent_append {e : Int} {t rest : List UInt8} (h : Exponent e t) (hrest : Delimited rest) :
    parseExponent (t ++ rest) = some (e, rest) := by
  have hdigit : ∀ x ∈ rest.head?, isDigit x = false := fun x hx => (hrest x hx).1
  cases h with
  | none =>
    cases rest with
    | nil => rfl
    | cons x rest =>
      rw [List.nil_append, parseExponent, (hrest x rfl).2.2]
      rfl
  | plain hx h =>
    rw [List.cons_append, parseExponent, if_pos hx, parseSigned_digits h hdigit]
  | plus hx h =>
    rw [List.cons_append, List.cons_append, parseExponent, if_pos hx, parseSigned, if_neg (by decide), if_pos rfl,
      parseDigits_append h hdigit]
    rfl
  | minus hx h =>
    rw [List.cons_append, List.cons_append, parseExponent, if_pos hx, parseSigned, if_pos rfl, parseDigits_append h hdigit]
    rfl

theorem Exponent.head {e : Int} {t rest : List UInt8} (h : Exponent e t) (hrest : Delimited rest) :
    ∀ x ∈ (t ++ rest).head?, isDigit x = false ∧ x ≠ point := by
  intro x hmem
  cases h with
  | none => exact ⟨(hrest x hmem).1, (hrest x hmem).2.1⟩
  | plain hx _ => rw [← Option.some.inj hmem]; exact mark_cases hx
  | plus hx _ => rw [← Option.some.inj hmem]; exact mark_cases hx
  | minus hx _ => rw [← Option.some.inj hmem]; exact mark_cases hx

theorem parseMagnitude_append {n : Nat} {e : Int} {t rest : List UInt8} (h : Magnitude n e t) (hrest : Delimited rest) :
    parseMagnitude (t ++ rest) = some (n, e, rest) := by
  obtain ⟨hint, hzero, hfrac, hexp⟩ := h
  rename_i int frac fracText expText e
  have hbehind : ∀ x ∈ (fracText ++ (expText ++ rest)).head?, isDigit x = false := by
    intro x hx
    cases hfrac with
    | none => exact (hexp.head hrest x hx).1
    | some _ => rw [← Option.some.inj hx]; rfl
  unfold parseMagnitude
  rw [List.append_assoc, List.append_assoc, parseDigits_append hint hbehind]
  dsimp only
  rw [if_neg (fun h => h.2 (hzero h.1)), parseFraction_append hfrac (hexp.head hrest)]
  dsimp only
  rw [parseExponent_append hexp hrest]
  rfl

theorem Magnitude.head {n : Nat} {e : Int} {t : List UInt8} (h : Magnitude n e t) : ∃ x b, t = x :: b ∧ isDigit x = true := by
  obtain ⟨hint, -, -, -⟩ := h
  obtain ⟨x, b, rfl, hx⟩ := hint.head
  exact ⟨x, _, rfl, hx⟩

theorem parseNumber_append {m e : Int} {t rest : List UInt8} (h : Number m e t) (hrest : Delimited rest) :
    parseNumber (t ++ rest) = some (.number m e, rest) := by
  cases h with
  | positive h =>
    obtain ⟨x, b, rfl, hx⟩ := h.head
    rw [List.cons_append, parseNumber, if_neg (digit_ne hx rfl), ← List.cons_append, parseMagnitude_append h hrest]
    rfl
  | negative h =>
    rw [List.cons_append, parseNumber, if_pos rfl, parseMagnitude_append h hrest]
    rfl

/-! ## Strings are read -/

/-- The bytes of a character beyond ASCII are beyond ASCII. -/
theorem utf8EncodeChar_high {c : Char} (h : 0x80 ≤ c.toNat) : ∀ x ∈ String.utf8EncodeChar c, 0x80 ≤ x.toNat := by
  intro x hx
  have hval : c.val.toNat = c.toNat := rfl
  simp only [String.utf8EncodeChar, hval] at hx
  split at hx
  · omega
  · split at hx
    · simp only [List.mem_cons, List.not_mem_nil, or_false] at hx
      rcases hx with rfl | rfl <;> simp <;> omega
    · split at hx
      · simp only [List.mem_cons, List.not_mem_nil, or_false] at hx
        rcases hx with rfl | rfl | rfl <;> simp <;> omega
      · simp only [List.mem_cons, List.not_mem_nil, or_false] at hx
        rcases hx with rfl | rfl | rfl | rfl <;> simp <;> omega

theorem utf8EncodeChar_ascii {c : Char} (h : c.toNat < 0x80) : String.utf8EncodeChar c = [UInt8.ofNat c.toNat] := by
  have hval : c.val.toNat = c.toNat := rfl
  simp only [String.utf8EncodeChar, hval]
  rw [if_pos (by omega)]

/-- A byte that stands for itself. -/
structure Plain (x : UInt8) : Prop where
  printable : 0x20 ≤ x.toNat
  noQuote : x ≠ quote
  noBackslash : x ≠ backslash

theorem utf8EncodeChar_plain {c : Char} (h : 0x20 ≤ c.toNat) (hquote : c.toNat ≠ 0x22) (hbackslash : c.toNat ≠ 0x5C) :
    ∀ x ∈ String.utf8EncodeChar c, Plain x := by
  intro x hx
  by_cases hascii : c.toNat < 0x80
  · rw [utf8EncodeChar_ascii hascii, List.mem_singleton] at hx
    have hx : x.toNat = c.toNat := by
      rw [hx, UInt8.toNat_ofNat_of_lt' (show c.toNat < 256 by omega)]
    refine ⟨by omega, ?_, ?_⟩
    · rintro rfl
      exact hquote hx.symm
    · rintro rfl
      exact hbackslash hx.symm
  · have hhigh := utf8EncodeChar_high (Nat.le_of_not_lt hascii) x hx
    refine ⟨by omega, ?_, ?_⟩
    · rintro rfl
      exact absurd hhigh (by decide)
    · rintro rfl
      exact absurd hhigh (by decide)

theorem parseCharacter_plain {x : UInt8} (hx : Plain x) (b : List UInt8) : parseCharacter (x :: b) = some ([x], b) := by
  have hnot : ¬ x < 0x20 := by
    rw [UInt8.lt_iff_toNat_lt]
    exact Nat.not_lt.mpr hx.printable
  unfold parseCharacter
  simp only [if_neg hx.noBackslash, if_neg hnot]

theorem parseCharacter_escape (x : UInt8) (b : List UInt8) :
    parseCharacter (backslash :: x :: b) = if x = letterU then parseUnicode b else (shortEscape x).map fun y => ([y], b) := by
  unfold parseCharacter
  simp only [if_pos]

theorem parseCharacters_plain {u : List UInt8} (hu : ∀ x ∈ u, Plain x) (n : Nat) (b : List UInt8) :
    parseCharacters (u.length + n) (u ++ b) = (parseCharacters n b).map fun p => (u ++ p.1, p.2) := by
  induction u with
  | nil => simp
  | cons x u ih =>
    have hx := hu x List.mem_cons_self
    rw [List.length_cons, Nat.add_right_comm, List.cons_append, parseCharacters, if_neg hx.noQuote, parseCharacter_plain hx]
    dsimp only
    rw [ih fun y hy => hu y (List.mem_cons_of_mem _ hy), Option.map_map]
    rfl

/-- One character is read in some turns. -/
theorem Character.read {s t : List UInt8} (h : Character s t) :
    ∃ k, 0 < k ∧ k ≤ t.length ∧
      ∀ n b, parseCharacters (k + n) (t ++ b) = (parseCharacters n b).map fun p => (s ++ p.1, p.2) := by
  -- an escape is read in one
  have hescape : ∀ t' : List UInt8, t = backslash :: t' → (∀ b, parseCharacter (t ++ b) = some (s, b)) →
      ∃ k, 0 < k ∧ k ≤ t.length ∧
        ∀ n b, parseCharacters (k + n) (t ++ b) = (parseCharacters n b).map fun p => (s ++ p.1, p.2) := by
    rintro t' rfl hone
    refine ⟨1, Nat.one_pos, Nat.succ_le_succ (Nat.zero_le _), fun n b => ?_⟩
    have hone := hone b
    rw [List.cons_append] at hone ⊢
    rw [Nat.add_comm, parseCharacters, if_neg (by decide), hone]
  cases h with
  | plain c hprintable hquote hbackslash =>
    refine ⟨_, List.length_pos_iff.mpr String.utf8EncodeChar_ne_nil, Nat.le_refl _, fun n b => ?_⟩
    exact parseCharacters_plain (utf8EncodeChar_plain hprintable hquote hbackslash) n b
  | short h =>
    rename_i x y
    refine hescape _ rfl fun b => ?_
    have hx : x ≠ letterU := by
      rintro rfl
      cases h
    rw [List.cons_append, List.cons_append, parseCharacter_escape, if_neg hx, h]
    rfl
  | unicode h hhigh hlow =>
    refine hescape _ rfl fun b => ?_
    simp only [List.cons_append, List.nil_append]
    rw [parseCharacter_escape, if_pos rfl, parseUnicode, h]
    dsimp only
    rw [hhigh, hlow]
    rfl
  | surrogates h h' hhigh hlow =>
    refine hescape _ rfl fun b => ?_
    simp only [List.cons_append, List.nil_append]
    rw [parseCharacter_escape, if_pos rfl, parseUnicode, h]
    dsimp only
    rw [hhigh, if_pos rfl, h']
    dsimp only
    rw [if_pos ⟨rfl, rfl, hlow⟩]

theorem parseCharacters_append {s t : List UInt8} (h : Characters s t) {n : Nat} (hn : t.length < n) (rest : List UInt8) :
    parseCharacters n (t ++ quote :: rest) = some (s, rest) := by
  induction h generalizing n with
  | nil =>
    obtain ⟨n, rfl⟩ := Nat.exists_eq_add_of_lt hn
    rw [List.nil_append, List.length_nil, Nat.zero_add, parseCharacters, if_pos rfl]
  | cons h _ ih =>
    obtain ⟨k, hpos, hle, hread⟩ := h.read
    rw [List.length_append] at hn
    obtain ⟨m, rfl⟩ := Nat.exists_eq_add_of_le (show k ≤ n by omega)
    rw [List.append_assoc, hread, ih (by omega)]
    rfl

/-! ## Values are read -/

theorem Number.head {m e : Int} {t : List UInt8} (h : Number m e t) : ∃ x b, t = x :: b ∧ (x = minus ∨ isDigit x = true) := by
  cases h with
  | positive h =>
    obtain ⟨x, b, rfl, hx⟩ := h.head
    exact ⟨x, b, rfl, .inr hx⟩
  | negative h => exact ⟨_, _, rfl, .inl rfl⟩

/-- A text of a value starts with a byte of its own. -/
theorem Derives.head {v : Json} {t : List UInt8} (h : Derives (.value v) t) :
    ∃ x b, t = x :: b ∧ isSpace x = false ∧ x ≠ closeBracket := by
  cases h with
  | null => exact ⟨_, _, rfl, rfl, by decide⟩
  | bool b => cases b <;> exact ⟨_, _, rfl, rfl, by decide⟩
  | number h =>
    obtain ⟨x, b, rfl, rfl | hx⟩ := h.head
    · exact ⟨_, _, rfl, rfl, by decide⟩
    · exact ⟨_, _, rfl, isSpace_of_digit hx, digit_ne hx rfl⟩
  | string _ => exact ⟨_, _, rfl, rfl, by decide⟩
  | emptyArray _ => exact ⟨_, _, rfl, rfl, by decide⟩
  | array _ => exact ⟨_, _, rfl, rfl, by decide⟩
  | emptyObject _ => exact ⟨_, _, rfl, rfl, by decide⟩
  | object _ => exact ⟨_, _, rfl, rfl, by decide⟩

theorem Derives.skipSpaces_element {v : Json} {t : List UInt8} (h : Derives (.element v) t) (rest : List UInt8) :
    ∃ x b, skipSpaces (t ++ rest) = x :: b ∧ x ≠ closeBracket := by
  cases h with
  | element hw hw' h =>
    obtain ⟨x, b, rfl, hspace, hx⟩ := h.head
    rw [List.append_assoc, List.append_assoc, List.cons_append, skipSpaces_append hw]
    · exact ⟨_, _, rfl, hx⟩
    · intro y hy
      rw [← Option.some.inj hy]
      exact hspace

theorem Derives.skipSpaces_elements {vs : List Json} {t : List UInt8} (h : Derives (.elements vs) t) (rest : List UInt8) :
    ∃ x b, skipSpaces (t ++ rest) = x :: b ∧ x ≠ closeBracket := by
  cases h with
  | lastElement h => exact h.skipSpaces_element rest
  | elements h _ =>
    rw [List.append_assoc]
    exact h.skipSpaces_element _

theorem Derives.skipSpaces_member {m : List UInt8 × Json} {t : List UInt8} (h : Derives (.member m) t) (rest : List UInt8) :
    ∃ b, skipSpaces (t ++ rest) = quote :: b := by
  cases h with
  | member hw _ _ _ =>
    rw [List.append_assoc, skipSpaces_append hw]
    · exact ⟨_, rfl⟩
    · intro y hy
      rw [← Option.some.inj hy]
      rfl

theorem Derives.skipSpaces_members {ms : List (List UInt8 × Json)} {t : List UInt8} (h : Derives (.members ms) t)
    (rest : List UInt8) : ∃ b, skipSpaces (t ++ rest) = quote :: b := by
  cases h with
  | lastMember h => exact h.skipSpaces_member rest
  | members h _ =>
    rw [List.append_assoc]
    exact h.skipSpaces_member _

/-- Behind an element stands a separator, or nothing. -/
structure Closed (b : List UInt8) : Prop where
  delimited : Delimited b
  noSpace : ∀ x ∈ b.head?, isSpace x = false

theorem closed_nil : Closed [] := ⟨(fun _ h => nomatch h), (fun _ h => nomatch h)⟩

theorem closed_cons {x : UInt8} (hx : x = comma ∨ x = closeBracket ∨ x = closeBrace) (b : List UInt8) : Closed (x :: b) := by
  constructor
  · intro y hy
    rw [← Option.some.inj hy]
    rcases hx with rfl | rfl | rfl <;> decide
  · intro y hy
    rw [← Option.some.inj hy]
    rcases hx with rfl | rfl | rfl <;> decide

/-- Spaces delimit as well. -/
theorem delimited_append {w rest : List UInt8} (hw : Spaces w) (hrest : Delimited rest) : Delimited (w ++ rest) := by
  cases w with
  | nil => exact hrest
  | cons x w =>
    intro y hy
    rw [← Option.some.inj hy]
    exact space_cases (hw x List.mem_cons_self)

/-- What the functions of the parser make of a text of their node, given enough turns. -/
def Reads : Node → List UInt8 → Prop
  | .value v, t => ∀ n rest, 2 * t.length < n → Delimited rest → parseValue n (t ++ rest) = some (v, rest)
  | .element v, t => ∀ n rest, 2 * t.length < n → Closed rest → parseElement (parseValue n) (t ++ rest) = some (v, rest)
  | .elements vs, t => ∀ n rest, 2 * t.length + 1 < n → parseElements n (t ++ closeBracket :: rest) = some (vs, rest)
  | .member m, t => ∀ n rest, 2 * t.length < n → Closed rest → parseMember (parseValue n) (t ++ rest) = some (m, rest)
  | .members ms, t => ∀ n rest, 2 * t.length + 1 < n → parseMembers n (t ++ closeBrace :: rest) = some (ms, rest)

theorem parseLiteral_append (text : List UInt8) (v : Json) (rest : List UInt8) :
    parseLiteral text v (text ++ rest) = some (v, rest) := by
  unfold parseLiteral
  rw [if_pos (List.isPrefixOf_iff_prefix.mpr (List.prefix_append _ _)), List.drop_left]

theorem parseValue_number {m e : Int} {t : List UInt8} (h : Number m e t) {n : Nat} {rest : List UInt8} (hrest : Delimited rest) :
    parseValue (n + 1) (t ++ rest) = some (.number m e, rest) := by
  have hparse := parseNumber_append h hrest
  obtain ⟨x, b, rfl, hx⟩ := h.head
  have hne : ∀ y, y ≠ minus → isDigit y = false → x ≠ y := by
    rintro y hminus hdigit rfl
    rcases hx with hx | hx
    · exact hminus hx
    · rw [hx] at hdigit
      cases hdigit
  rw [List.cons_append] at hparse ⊢
  rw [parseValue, if_neg (hne _ (by decide) rfl), if_neg (hne _ (by decide) rfl), if_neg (hne _ (by decide) rfl),
    if_neg (hne _ (by decide) rfl), if_neg (hne _ (by decide) rfl), if_neg (hne _ (by decide) rfl)]
  exact hparse

/-- By induction on the derivation: at each node the function of the parser does what the rule says. -/
theorem Derives.reads {node : Node} {t : List UInt8} (h : Derives node t) : Reads node t := by
  induction h with
  | null =>
    intro n rest hn _
    obtain ⟨n, rfl⟩ := Nat.exists_eq_add_of_lt hn
    exact parseLiteral_append nullText .null rest
  | bool b =>
    intro n rest hn _
    obtain ⟨n, rfl⟩ := Nat.exists_eq_add_of_lt hn
    cases b with
    | true => exact parseLiteral_append trueText (.bool true) rest
    | false => exact parseLiteral_append falseText (.bool false) rest
  | number h =>
    intro n rest hn hrest
    obtain ⟨n, rfl⟩ := Nat.exists_eq_add_of_lt hn
    exact parseValue_number h hrest
  | string h =>
    intro n rest hn _
    obtain ⟨n, rfl⟩ := Nat.exists_eq_add_of_lt hn
    rw [List.cons_append, List.append_assoc, List.singleton_append, parseValue, if_pos rfl, parseCharacters_append h]
    · rfl
    · rw [List.length_append]
      omega
  | emptyArray hw =>
    intro n rest hn _
    obtain ⟨n, rfl⟩ := Nat.exists_eq_add_of_lt hn
    rw [List.cons_append, List.append_assoc, List.singleton_append, parseValue, if_neg (by decide), if_pos rfl,
      skipSpaces_append hw (fun x hx => by rw [← Option.some.inj hx]; rfl)]
    exact if_pos rfl
  | array h ih =>
    intro n rest hn _
    rw [List.length_cons, List.length_append, List.length_singleton] at hn
    obtain ⟨n, rfl⟩ := Nat.exists_eq_succ_of_ne_zero (show n ≠ 0 by omega)
    rw [List.cons_append, List.append_assoc, List.singleton_append, parseValue, if_neg (by decide), if_pos rfl]
    obtain ⟨x, b, hskip, hx⟩ := h.skipSpaces_elements (closeBracket :: rest)
    rw [hskip]
    dsimp only
    rw [if_neg hx, ih n rest (by omega)]
    rfl
  | emptyObject hw =>
    intro n rest hn _
    obtain ⟨n, rfl⟩ := Nat.exists_eq_add_of_lt hn
    rw [List.cons_append, List.append_assoc, List.singleton_append, parseValue, if_neg (by decide), if_neg (by decide), if_pos rfl,
      skipSpaces_append hw (fun x hx => by rw [← Option.some.inj hx]; rfl)]
    exact if_pos rfl
  | object h ih =>
    intro n rest hn _
    rw [List.length_cons, List.length_append, List.length_singleton] at hn
    obtain ⟨n, rfl⟩ := Nat.exists_eq_succ_of_ne_zero (show n ≠ 0 by omega)
    rw [List.cons_append, List.append_assoc, List.singleton_append, parseValue, if_neg (by decide), if_neg (by decide), if_pos rfl]
    obtain ⟨b, hskip⟩ := h.skipSpaces_members (closeBrace :: rest)
    rw [hskip]
    dsimp only
    rw [if_neg (by decide), ih n rest (by omega)]
    rfl
  | element hw hw' h ih =>
    intro n rest hn hrest
    rw [List.length_append, List.length_append] at hn
    obtain ⟨x, b, rfl, hspace, -⟩ := h.head
    have hnoSpace : ∀ c, ∀ y ∈ (x :: b ++ c).head?, isSpace y = false := by
      intro c y hy
      rw [← Option.some.inj hy]
      exact hspace
    rw [parseElement, List.append_assoc, List.append_assoc, skipSpaces_append hw (hnoSpace _), ih n _ (by omega) (delimited_append hw' hrest.delimited)]
    dsimp only [Option.map_some]
    rw [skipSpaces_append hw' hrest.noSpace]
  | lastElement h ih =>
    intro n rest hn
    obtain ⟨n, rfl⟩ := Nat.exists_eq_succ_of_ne_zero (show n ≠ 0 by omega)
    rw [parseElements, ih n _ (by omega) (closed_cons (.inr (.inl rfl)) rest)]
    dsimp only
    rw [if_neg (by decide), if_pos rfl]
  | elements h hs ih ihs =>
    intro n rest hn
    rw [List.length_append, List.length_cons] at hn
    obtain ⟨n, rfl⟩ := Nat.exists_eq_succ_of_ne_zero (show n ≠ 0 by omega)
    rw [parseElements, List.append_assoc, List.cons_append, ih n _ (by omega) (closed_cons (.inl rfl) _)]
    dsimp only
    rw [if_pos rfl, ihs n rest (by omega)]
    rfl
  | member hw hw' hs h ih =>
    intro n rest hn hrest
    rw [List.length_append, List.length_cons, List.length_append, List.length_cons, List.length_append, List.length_cons] at hn
    simp only [List.append_assoc, List.cons_append]
    rw [parseMember, skipSpaces_append hw (fun x hx => by rw [← Option.some.inj hx]; rfl)]
    dsimp only
    rw [if_pos rfl, parseCharacters_append hs (by rw [List.length_append]; omega)]
    dsimp only
    rw [skipSpaces_append hw' (fun x hx => by rw [← Option.some.inj hx]; rfl)]
    dsimp only
    rw [if_pos rfl, ih n rest (by omega) hrest]
    rfl
  | lastMember h ih =>
    intro n rest hn
    obtain ⟨n, rfl⟩ := Nat.exists_eq_succ_of_ne_zero (show n ≠ 0 by omega)
    rw [parseMembers, ih n _ (by omega) (closed_cons (.inr (.inr rfl)) rest)]
    dsimp only
    rw [if_neg (by decide), if_pos rfl]
  | members h hs ih ihs =>
    intro n rest hn
    rw [List.length_append, List.length_cons] at hn
    obtain ⟨n, rfl⟩ := Nat.exists_eq_succ_of_ne_zero (show n ≠ 0 by omega)
    rw [parseMembers, List.append_assoc, List.cons_append, ih n _ (by omega) (closed_cons (.inl rfl) _)]
    dsimp only
    rw [if_pos rfl, ihs n rest (by omega)]
    rfl

/-- **The parser reads every text of a value.** -/
theorem parse_text {v : Json} {b : List UInt8} (h : IsText v b) : parse b = some v := by
  have hread := h.reads (2 * b.length + 1) [] (Nat.lt_succ_self _) closed_nil
  rw [List.append_nil] at hread
  rw [parse, hread]

/-- A text is a text of one value only. -/
theorem IsText.unique {v v' : Json} {b : List UInt8} (h : IsText v b) (h' : IsText v' b) : v = v' := by
  have hparse := parse_text h
  rw [parse_text h'] at hparse
  exact (Option.some.inj hparse).symm

end SedsNet.Lib.Json
