import Mathlib.Data.List.Basic

/-!
# JSON texts

The grammar of RFC 8259 over bytes: which bytes stand for which value. The names of the sorts (`value`, `element`, `elements`,
`member`, `members`) are those of the grammar as it is usually drawn. A text is in UTF-8, and so are the strings of a value; a
character that is not ASCII stands for itself, and a pair of surrogates for the character they encode.

The second half is for programs that write JSON by appending texts: `arrayText` and `objectText` put separators between texts,
and what they make of texts of values is a text of a value again.
-/

set_option autoImplicit false

namespace SedsNet.Lib

/-- A number is `mantissa * 10 ^ exponent`. A member of an object is a name and a value; they are kept in the order of the text. -/
inductive Json where
  | null
  | bool (b : Bool)
  | number (mantissa exponent : Int)
  | string (s : List UInt8)
  | array (elements : List Json)
  | object (members : List (List UInt8 × Json))

namespace Json

/-! ## Bytes -/

def quote : UInt8 := 0x22
def backslash : UInt8 := 0x5C
def comma : UInt8 := 0x2C
def colon : UInt8 := 0x3A
def openBracket : UInt8 := 0x5B
def closeBracket : UInt8 := 0x5D
def openBrace : UInt8 := 0x7B
def closeBrace : UInt8 := 0x7D
def minus : UInt8 := 0x2D
def point : UInt8 := 0x2E
def zero : UInt8 := 0x30
def letterU : UInt8 := 0x75

def nullText : List UInt8 := [0x6E, 0x75, 0x6C, 0x6C]
def trueText : List UInt8 := [0x74, 0x72, 0x75, 0x65]
def falseText : List UInt8 := [0x66, 0x61, 0x6C, 0x73, 0x65]

def boolText (b : Bool) : List UInt8 := if b then trueText else falseText

def isSpace (x : UInt8) : Bool := x = 0x20 || x = 0x09 || x = 0x0A || x = 0x0D

def isDigit (x : UInt8) : Bool := zero ≤ x && x ≤ 0x39

/-- `e` and `E`. -/
def isExponentMark (x : UInt8) : Bool := x = 0x65 || x = 0x45

def Spaces (b : List UInt8) : Prop := ∀ x ∈ b, isSpace x = true

structure Digits (b : List UInt8) : Prop where
  all : ∀ x ∈ b, isDigit x = true
  some : b ≠ []

def digitsValue (b : List UInt8) : Nat := b.foldl (fun n x => 10 * n + (x.toNat - 0x30)) 0

def hexValue (x : UInt8) : Option Nat :=
  if isDigit x then some (x.toNat - 0x30)
  else if 0x41 ≤ x && x ≤ 0x46 then some (x.toNat - 0x37)
  else if 0x61 ≤ x && x ≤ 0x66 then some (x.toNat - 0x57)
  else none

/-- The number that four digits spell. -/
def hex4 (a b c d : UInt8) : Option Nat := do
  let a ← hexValue a
  let b ← hexValue b
  let c ← hexValue c
  let d ← hexValue d
  return ((a * 16 + b) * 16 + c) * 16 + d

/-- What stands behind a backslash, other than `u`. -/
def shortEscape (x : UInt8) : Option UInt8 :=
  if x = quote || x = backslash || x = 0x2F then some x
  else if x = 0x62 then some 0x08
  else if x = 0x66 then some 0x0C
  else if x = 0x6E then some 0x0A
  else if x = 0x72 then some 0x0D
  else if x = 0x74 then some 0x09
  else none

def isHighSurrogate (u : Nat) : Bool := 0xD800 ≤ u && u < 0xDC00

def isLowSurrogate (u : Nat) : Bool := 0xDC00 ≤ u && u < 0xE000

/-- The character of two surrogates. -/
def surrogatePair (u w : Nat) : Nat := 0x10000 + (u - 0xD800) * 0x400 + (w - 0xDC00)

def utf8 (n : Nat) : List UInt8 := String.utf8EncodeChar (Char.ofNat n)

/-- Bytes that encode characters. -/
def Utf8 (b : List UInt8) : Prop := ∃ cs : List Char, b = cs.flatMap String.utf8EncodeChar

/-! ## The grammar -/

/-- The fraction: its digits, and its text. -/
inductive Fraction : List UInt8 → List UInt8 → Prop
  | none : Fraction [] []
  | some {ds : List UInt8} (h : Digits ds) : Fraction ds (point :: ds)

inductive Exponent : Int → List UInt8 → Prop
  | none : Exponent 0 []
  | plain {x : UInt8} {ds : List UInt8} (hx : isExponentMark x = true) (h : Digits ds) : Exponent (digitsValue ds) (x :: ds)
  | plus {x : UInt8} {ds : List UInt8} (hx : isExponentMark x = true) (h : Digits ds) : Exponent (digitsValue ds) (x :: 0x2B :: ds)
  | minus {x : UInt8} {ds : List UInt8} (hx : isExponentMark x = true) (h : Digits ds) :
    Exponent (-(digitsValue ds : Int)) (x :: Json.minus :: ds)

/-- A number before its sign. There is no zero in front of other digits. -/
inductive Magnitude : Nat → Int → List UInt8 → Prop
  | mk {int frac fracText expText : List UInt8} {e : Int} (hint : Digits int) (hzero : int.head? = some zero → int = [zero])
    (hfrac : Fraction frac fracText) (hexp : Exponent e expText) :
    Magnitude (digitsValue (int ++ frac)) (e - frac.length) (int ++ (fracText ++ expText))

inductive Number : Int → Int → List UInt8 → Prop
  | positive {n : Nat} {e : Int} {t : List UInt8} (h : Magnitude n e t) : Number n e t
  | negative {n : Nat} {e : Int} {t : List UInt8} (h : Magnitude n e t) : Number (-(n : Int)) e (minus :: t)

/-- A character of a string: its bytes, and its text. -/
inductive Character : List UInt8 → List UInt8 → Prop
  | plain (c : Char) (h : 0x20 ≤ c.toNat) (hquote : c.toNat ≠ 0x22) (hbackslash : c.toNat ≠ 0x5C) :
    Character (String.utf8EncodeChar c) (String.utf8EncodeChar c)
  | short {x y : UInt8} (h : shortEscape x = some y) : Character [y] [backslash, x]
  | unicode {a b c d : UInt8} {u : Nat} (h : hex4 a b c d = some u) (hhigh : isHighSurrogate u = false)
    (hlow : isLowSurrogate u = false) : Character (utf8 u) [backslash, letterU, a, b, c, d]
  | surrogates {a b c d a' b' c' d' : UInt8} {u w : Nat} (h : hex4 a b c d = some u) (h' : hex4 a' b' c' d' = some w)
    (hhigh : isHighSurrogate u = true) (hlow : isLowSurrogate w = true) :
    Character (utf8 (surrogatePair u w)) [backslash, letterU, a, b, c, d, backslash, letterU, a', b', c', d']

/-- What stands between the quotes. -/
inductive Characters : List UInt8 → List UInt8 → Prop
  | nil : Characters [] []
  | cons {s t ss ts : List UInt8} (h : Character s t) (hs : Characters ss ts) : Characters (s ++ ss) (t ++ ts)

/-- What a text can be a text of. -/
inductive Node where
  | value (v : Json)
  | element (v : Json)
  | elements (vs : List Json)
  | member (m : List UInt8 × Json)
  | members (ms : List (List UInt8 × Json))

inductive Derives : Node → List UInt8 → Prop
  | null : Derives (.value .null) nullText
  | bool (b : Bool) : Derives (.value (.bool b)) (boolText b)
  | number {m e : Int} {t : List UInt8} (h : Number m e t) : Derives (.value (.number m e)) t
  | string {s t : List UInt8} (h : Characters s t) : Derives (.value (.string s)) (quote :: (t ++ [quote]))
  | emptyArray {w : List UInt8} (hw : Spaces w) : Derives (.value (.array [])) (openBracket :: (w ++ [closeBracket]))
  | array {vs : List Json} {t : List UInt8} (h : Derives (.elements vs) t) :
    Derives (.value (.array vs)) (openBracket :: (t ++ [closeBracket]))
  | emptyObject {w : List UInt8} (hw : Spaces w) : Derives (.value (.object [])) (openBrace :: (w ++ [closeBrace]))
  | object {ms : List (List UInt8 × Json)} {t : List UInt8} (h : Derives (.members ms) t) :
    Derives (.value (.object ms)) (openBrace :: (t ++ [closeBrace]))
  | element {v : Json} {w t w' : List UInt8} (hw : Spaces w) (hw' : Spaces w') (h : Derives (.value v) t) :
    Derives (.element v) (w ++ (t ++ w'))
  | lastElement {v : Json} {t : List UInt8} (h : Derives (.element v) t) : Derives (.elements [v]) t
  | elements {v : Json} {vs : List Json} {t ts : List UInt8} (h : Derives (.element v) t) (hs : Derives (.elements vs) ts) :
    Derives (.elements (v :: vs)) (t ++ comma :: ts)
  | member {s st w w' t : List UInt8} {v : Json} (hw : Spaces w) (hw' : Spaces w') (hs : Characters s st)
    (h : Derives (.element v) t) : Derives (.member (s, v)) (w ++ quote :: (st ++ quote :: (w' ++ colon :: t)))
  | lastMember {m : List UInt8 × Json} {t : List UInt8} (h : Derives (.member m) t) : Derives (.members [m]) t
  | members {m : List UInt8 × Json} {ms : List (List UInt8 × Json)} {t ts : List UInt8} (h : Derives (.member m) t)
    (hs : Derives (.members ms) ts) : Derives (.members (m :: ms)) (t ++ comma :: ts)

/-- A JSON text is an element. -/
def IsText (v : Json) (b : List UInt8) : Prop := Derives (.element v) b

theorem spaces_nil : Spaces [] := fun _ h => nomatch h

theorem Derives.tight {v : Json} {t : List UInt8} (h : Derives (.value v) t) : Derives (.element v) t := by
  have hspaced := Derives.element spaces_nil spaces_nil h
  rw [List.append_nil, List.nil_append] at hspaced
  exact hspaced

/-! ## Decimal numbers -/

def decimal (n : Nat) : List UInt8 := (Nat.toDigits 10 n).map fun c => UInt8.ofNat c.toNat

theorem digitChar_byte : ∀ d < 10, isDigit (UInt8.ofNat d.digitChar.toNat) = true ∧
    (UInt8.ofNat d.digitChar.toNat).toNat - 0x30 = d ∧ (UInt8.ofNat d.digitChar.toNat = zero → d = 0) := by
  decide

theorem decimal_of_lt {n : Nat} (h : n < 10) : decimal n = [UInt8.ofNat n.digitChar.toNat] := by
  unfold decimal
  rw [Nat.toDigits_of_lt_base h]
  rfl

theorem decimal_of_le {n : Nat} (h : 10 ≤ n) : decimal n = decimal (n / 10) ++ [UInt8.ofNat (n % 10).digitChar.toNat] := by
  unfold decimal
  rw [Nat.toDigits_of_base_le (by decide) h, List.map_append]
  rfl

theorem decimal_ne_nil (n : Nat) : decimal n ≠ [] := by
  unfold decimal
  rw [Ne, List.map_eq_nil_iff]
  exact Nat.toDigits_ne_nil

theorem decimal_digits (n : Nat) : Digits (decimal n) := by
  refine ⟨?_, decimal_ne_nil n⟩
  induction n using Nat.strongRecOn with
  | ind n ih =>
    intro x hx
    by_cases hlt : n < 10
    · rw [decimal_of_lt hlt, List.mem_singleton] at hx
      rw [hx]
      exact (digitChar_byte n hlt).1
    · rw [decimal_of_le (Nat.le_of_not_lt hlt), List.mem_append, List.mem_singleton] at hx
      rcases hx with hx | rfl
      · exact ih (n / 10) (by omega) x hx
      · exact (digitChar_byte _ (Nat.mod_lt _ (by decide))).1

theorem digitsValue_decimal (n : Nat) : digitsValue (decimal n) = n := by
  induction n using Nat.strongRecOn with
  | ind n ih =>
    by_cases hlt : n < 10
    · rw [decimal_of_lt hlt]
      show 10 * 0 + _ = n
      rw [(digitChar_byte n hlt).2.1]
      omega
    · have hrest := ih (n / 10) (by omega)
      unfold digitsValue at hrest ⊢
      rw [decimal_of_le (Nat.le_of_not_lt hlt), List.foldl_append, hrest]
      show 10 * (n / 10) + _ = n
      rw [(digitChar_byte _ (Nat.mod_lt _ (by decide))).2.1]
      omega

/-- There is no zero in front. -/
theorem decimal_head {n : Nat} (h : (decimal n).head? = some zero) : n = 0 := by
  induction n using Nat.strongRecOn with
  | ind n ih =>
    by_cases hlt : n < 10
    · rw [decimal_of_lt hlt] at h
      exact (digitChar_byte n hlt).2.2 (Option.some.inj h)
    · rw [decimal_of_le (Nat.le_of_not_lt hlt), List.head?_append_of_ne_nil _ (decimal_ne_nil _)] at h
      have hzero := ih (n / 10) (by omega) h
      omega

theorem magnitude_decimal (n : Nat) : Magnitude n 0 (decimal n) := by
  have h := Magnitude.mk (decimal_digits n) (fun hhead => by rw [decimal_head hhead]; rfl) .none .none
  simp only [List.append_nil, digitsValue_decimal] at h
  exact h

theorem derives_decimal (n : Nat) : Derives (.value (.number n 0)) (decimal n) := .number (.positive (magnitude_decimal n))

/-- An integer, with its sign. -/
def integerText (n : Int) : List UInt8 := if n < 0 then minus :: decimal n.natAbs else decimal n.natAbs

theorem derives_integer (n : Int) : Derives (.value (.number n 0)) (integerText n) := by
  unfold integerText
  refine .number ?_
  split
  · have h := Number.negative (magnitude_decimal n.natAbs)
    rwa [show -(n.natAbs : Int) = n by omega] at h
  · have h := Number.positive (magnitude_decimal n.natAbs)
    rwa [show (n.natAbs : Int) = n by omega] at h

/-! ## Texts put together -/

/-- Texts with commas between them. -/
def separated : List (List UInt8) → List UInt8
  | [] => []
  | [t] => t
  | t :: t' :: ts => t ++ comma :: separated (t' :: ts)

def arrayText (ts : List (List UInt8)) : List UInt8 := openBracket :: (separated ts ++ [closeBracket])

def memberText (m : List UInt8 × List UInt8) : List UInt8 := quote :: (m.1 ++ quote :: colon :: m.2)

def objectText (ms : List (List UInt8 × List UInt8)) : List UInt8 :=
  openBrace :: (separated (ms.map memberText) ++ [closeBrace])

/-- A list of values with their texts. -/
theorem derives_array (ts : List (Json × List UInt8)) (h : ∀ t ∈ ts, Derives (.value t.1) t.2) :
    Derives (.value (.array (ts.map (·.1)))) (arrayText (ts.map (·.2))) := by
  cases ts with
  | nil => exact .emptyArray spaces_nil
  | cons t ts =>
    refine .array ?_
    induction ts generalizing t with
    | nil => exact .lastElement (v := t.1) (t := t.2) (h t List.mem_cons_self).tight
    | cons t' ts ih =>
      exact .elements (h t List.mem_cons_self).tight (ih t' fun t'' ht'' => h t'' (List.mem_cons_of_mem _ ht''))

/-- A text of some value. -/
def IsValue (t : List UInt8) : Prop := ∃ v, Derives (.value v) t

theorem isValue_array {ts : List (List UInt8)} (h : ∀ t ∈ ts, IsValue t) : IsValue (arrayText ts) := by
  choose value hvalue using h
  have hderives := derives_array (ts.attach.map fun t => (value t.1 t.2, t.1)) (by
    intro t ht
    obtain ⟨t, -, rfl⟩ := List.mem_map.mp ht
    exact hvalue t.1 t.2)
  rw [List.map_map, List.map_map] at hderives
  have htexts : ts.attach.map ((·.2) ∘ fun t => (value t.1 t.2, t.1)) = ts := List.attach_map_subtype_val ts
  rw [htexts] at hderives
  exact ⟨_, hderives⟩

/-- A list of members, each with the text of its name and that of its value. -/
theorem derives_object (ms : List ((List UInt8 × List UInt8) × Json × List UInt8))
    (h : ∀ m ∈ ms, Characters m.1.1 m.1.2 ∧ Derives (.value m.2.1) m.2.2) :
    Derives (.value (.object (ms.map fun m => (m.1.1, m.2.1)))) (objectText (ms.map fun m => (m.1.2, m.2.2))) := by
  have hmember : ∀ m ∈ ms, Derives (.member (m.1.1, m.2.1)) (memberText (m.1.2, m.2.2)) := fun m hm =>
    .member spaces_nil spaces_nil (h m hm).1 (h m hm).2.tight
  unfold objectText
  rw [List.map_map]
  cases ms with
  | nil => exact .emptyObject spaces_nil
  | cons m ms =>
    refine .object ?_
    clear h
    induction ms generalizing m with
    | nil => exact .lastMember (m := (m.1.1, m.2.1)) (t := memberText (m.1.2, m.2.2)) (hmember m List.mem_cons_self)
    | cons m' ms ih =>
      exact .members (hmember m List.mem_cons_self) (ih m' fun m'' hm'' => hmember m'' (List.mem_cons_of_mem _ hm''))

end Json

end SedsNet.Lib
