import Mathlib.Tactic.IntervalCases
import SedsNet.Basic
import SedsNet.Lib.JsonParser

/-!
# Writing JSON

`json_push_escaped` and the loops that push arrays, as `src/packet_api.cpp` and `src/upstream_api_compat.cpp` both have them, and
the numbers of `std::to_string`. Here the text that a function appends is its value. What is appended is a text of the value that
is meant: for strings because their bytes are escaped one at a time, which leaves the bytes of a character beyond ASCII together.
-/

set_option autoImplicit false

namespace SedsNet

open Lib Lib.Json

/-- `std::setw(4)`, `std::setfill('0')` and `std::hex`. -/
def hexWidth4 (n : Nat) : Bytes := ((Nat.toDigits 16 n).leftpad 4 '0').map fun c => UInt8.ofNat c.toNat

/-- The text of one byte of a string. -/
def jsonEscaped (ch : UInt8) : Bytes :=
  if ch = 0x22 then ascii "\\\""
  else if ch = 0x5C then ascii "\\\\"
  else if ch = 0x08 then ascii "\\b"
  else if ch = 0x0C then ascii "\\f"
  else if ch = 0x0A then ascii "\\n"
  else if ch = 0x0D then ascii "\\r"
  else if ch = 0x09 then ascii "\\t"
  else if ch < 0x20 then ascii "\\u" ++ hexWidth4 ch.toNat
  else [ch]

def jsonPushEscaped (value : Bytes) : Bytes := ascii "\"" ++ value.flatMap jsonEscaped ++ ascii "\""

/-- A loop that pushes a comma before each but the first. -/
def jsonPushEach {α : Type} (push : α → Bytes) : List α → Bytes
  | [] => []
  | x :: xs => push x ++ xs.flatMap fun y => ascii "," ++ push y

def jsonPushNumberArray (vals : List Nat) : Bytes := ascii "[" ++ jsonPushEach toDecimal vals ++ ascii "]"

def jsonPushStringArray (vals : List Bytes) : Bytes := ascii "[" ++ jsonPushEach jsonPushEscaped vals ++ ascii "]"

/-- `b ? "true" : "false"`. -/
def jsonBool (b : Bool) : Bytes := if b then ascii "true" else ascii "false"

/-! ## Strings -/

/-- The bytes that are escaped, each with the value of its escape. -/
theorem jsonEscaped_control : ∀ n < 0x20,
    (∃ x, jsonEscaped (UInt8.ofNat n) = [backslash, x] ∧ shortEscape x = some (UInt8.ofNat n)) ∨
    ∃ a b c d, jsonEscaped (UInt8.ofNat n) = [backslash, letterU, a, b, c, d] ∧ hex4 a b c d = some n ∧
      utf8 n = [UInt8.ofNat n] := by
  intro n hn
  interval_cases n
  all_goals first
    | exact .inl ⟨_, rfl, rfl⟩
    | exact .inr ⟨_, _, _, _, rfl, rfl, rfl⟩

theorem jsonEscaped_plain {ch : UInt8} (h : Plain ch) : jsonEscaped ch = [ch] := by
  have hne : ∀ y : UInt8, y.toNat < 0x20 → ch ≠ y := by
    rintro y hy rfl
    exact absurd h.printable (Nat.not_le.mpr hy)
  have hlt : ¬ ch < 0x20 := by
    rw [UInt8.lt_iff_toNat_lt]
    exact Nat.not_lt.mpr h.printable
  unfold jsonEscaped
  rw [if_neg (show ch ≠ 0x22 from h.noQuote), if_neg (show ch ≠ 0x5C from h.noBackslash), if_neg (hne _ (by decide)),
    if_neg (hne _ (by decide)), if_neg (hne _ (by decide)), if_neg (hne _ (by decide)), if_neg (hne _ (by decide)), if_neg hlt]

/-- A character of the string, escaped byte by byte. -/
theorem character_escaped (c : Char) :
    Character (String.utf8EncodeChar c) ((String.utf8EncodeChar c).flatMap jsonEscaped) := by
  have hplain : 0x20 ≤ c.toNat → c.toNat ≠ 0x22 → c.toNat ≠ 0x5C →
      Character (String.utf8EncodeChar c) ((String.utf8EncodeChar c).flatMap jsonEscaped) := by
    intro hprintable hquote hbackslash
    have hsame : (String.utf8EncodeChar c).flatMap jsonEscaped = String.utf8EncodeChar c := by
      have hbytes := utf8EncodeChar_plain hprintable hquote hbackslash
      generalize String.utf8EncodeChar c = u at hbytes
      induction u with
      | nil => rfl
      | cons x u ih =>
        rw [List.flatMap_cons, jsonEscaped_plain (hbytes x List.mem_cons_self), ih fun y hy => hbytes y (List.mem_cons_of_mem _ hy)]
        rfl
    rw [hsame]
    exact .plain c hprintable hquote hbackslash
  by_cases hcontrol : c.toNat < 0x20
  · rw [utf8EncodeChar_ascii (Nat.lt_trans hcontrol (by decide)), List.flatMap_singleton]
    rcases jsonEscaped_control c.toNat hcontrol with ⟨x, htext, hx⟩ | ⟨a, b, c', d, htext, hhex, hutf8⟩
    · rw [htext]
      exact .short hx
    · rw [htext, ← hutf8]
      refine .unicode hhex ?_ ?_
      · simp only [isHighSurrogate, Bool.and_eq_false_iff, decide_eq_false_iff_not]
        omega
      · simp only [isLowSurrogate, Bool.and_eq_false_iff, decide_eq_false_iff_not]
        omega
  · by_cases hquote : c.toNat = 0x22
    · rw [utf8EncodeChar_ascii (by omega), hquote]
      exact .short (x := 0x22) rfl
    · by_cases hbackslash : c.toNat = 0x5C
      · rw [utf8EncodeChar_ascii (by omega), hbackslash]
        exact .short (x := 0x5C) rfl
      · exact hplain (Nat.le_of_not_lt hcontrol) hquote hbackslash

theorem characters_escaped {value : Bytes} (h : Utf8 value) : Characters value (value.flatMap jsonEscaped) := by
  obtain ⟨cs, rfl⟩ := h
  induction cs with
  | nil => exact .nil
  | cons c cs ih =>
    rw [List.flatMap_cons, List.flatMap_append]
    exact .cons (character_escaped c) ih

theorem derives_escaped {value : Bytes} (h : Utf8 value) : Derives (.value (.string value)) (jsonPushEscaped value) :=
  .string (characters_escaped h)

/-! ## Arrays, numbers and objects -/

theorem jsonPushEach_eq {α : Type} (push : α → Bytes) (xs : List α) : jsonPushEach push xs = separated (xs.map push) := by
  cases xs with
  | nil => rfl
  | cons x xs =>
    unfold jsonPushEach
    induction xs generalizing x with
    | nil => exact List.append_nil _
    | cons y xs ih =>
      rw [List.map_cons, List.map_cons, separated, ← List.map_cons, ← ih y]
      rfl

/-- An array of things that are pushed as texts of values. -/
theorem derives_each {α : Type} {push : α → Bytes} {value : α → Json} {xs : List α}
    (h : ∀ x ∈ xs, Derives (.value (value x)) (push x)) :
    Derives (.value (.array (xs.map value))) (ascii "[" ++ jsonPushEach push xs ++ ascii "]") := by
  have hderives := derives_array (xs.map fun x => (value x, push x)) (by
    intro t ht
    obtain ⟨x, hx, rfl⟩ := List.mem_map.mp ht
    exact h x hx)
  rw [List.map_map, List.map_map] at hderives
  rw [jsonPushEach_eq]
  exact hderives

theorem derives_numbers (vals : List Nat) :
    Derives (.value (.array (vals.map fun n : Nat => .number n 0))) (jsonPushNumberArray vals) :=
  derives_each fun n _ => derives_decimal n

theorem derives_strings {vals : List Bytes} (h : ∀ value ∈ vals, Utf8 value) :
    Derives (.value (.array (vals.map .string))) (jsonPushStringArray vals) :=
  derives_each fun value hvalue => derives_escaped (h value hvalue)

theorem derives_bool (b : Bool) : Derives (.value (.bool b)) (jsonBool b) := by
  cases b with
  | true => exact .bool true
  | false => exact .bool false

/-- A character that is written as it is. -/
def PlainChar (c : Char) : Prop := 0x20 ≤ c.toNat ∧ c.toNat < 0x80 ∧ c.toNat ≠ 0x22 ∧ c.toNat ≠ 0x5C

instance (c : Char) : Decidable (PlainChar c) := inferInstanceAs (Decidable (_ ∧ _))

/-- The bytes of a literal, from its characters. -/
theorem ascii_ofList (cs : List Char) : ascii (String.ofList cs) = cs.map fun c => UInt8.ofNat c.toNat := by
  unfold ascii
  rw [String.toList_ofList]

theorem utf8EncodeChar_plainChar {c : Char} (h : PlainChar c) : String.utf8EncodeChar c = [UInt8.ofNat c.toNat] :=
  utf8EncodeChar_ascii h.2.1

/-- Plain characters are in UTF-8, and stand for themselves. -/
theorem utf8_plain {cs : List Char} (h : ∀ c ∈ cs, PlainChar c) : Utf8 (ascii (String.ofList cs)) := by
  refine ⟨cs, ?_⟩
  rw [ascii_ofList]
  induction cs with
  | nil => rfl
  | cons c cs ih =>
    rw [List.map_cons, List.flatMap_cons, utf8EncodeChar_plainChar (h c List.mem_cons_self),
      ih fun c' hc' => h c' (List.mem_cons_of_mem _ hc')]
    rfl

theorem characters_plain {cs : List Char} (h : ∀ c ∈ cs, PlainChar c) :
    Characters (ascii (String.ofList cs)) (ascii (String.ofList cs)) := by
  rw [ascii_ofList]
  induction cs with
  | nil => exact .nil
  | cons c cs ih =>
    have hplain := h c List.mem_cons_self
    have hc := Character.plain c hplain.1 hplain.2.2.1 hplain.2.2.2
    rw [utf8EncodeChar_plainChar hplain] at hc
    exact .cons hc (ih fun c' hc' => h c' (List.mem_cons_of_mem _ hc'))

/-- Members with their names, values and texts. -/
def AreFields (ms : List (String × Json × Bytes)) : Prop :=
  ∀ m ∈ ms, Characters (ascii m.1) (ascii m.1) ∧ Derives (.value m.2.1) m.2.2

theorem AreFields.nil : AreFields [] := fun _ h => nomatch h

theorem AreFields.cons (name : String) {cs : List Char} {v : Json} {t : Bytes} {ms : List (String × Json × Bytes)}
    (hname : name = String.ofList cs) (hplain : ∀ c ∈ cs, PlainChar c) (h : Derives (.value v) t) (hs : AreFields ms) :
    AreFields ((name, v, t) :: ms) := by
  subst hname
  exact List.forall_mem_cons.mpr ⟨⟨characters_plain hplain, h⟩, hs⟩

/-- An object by the names of its members. -/
def jsonFields (ms : List (String × Json)) : Json := .object (ms.map fun m => (ascii m.1, m.2))

/-- The texts of members that stand behind others. -/
def fieldsTail (ms : List (String × Json × Bytes)) : Bytes := ms.flatMap fun m => comma :: memberText (ascii m.1, m.2.2)

@[simp] theorem fieldsTail_nil : fieldsTail [] = [] := rfl

@[simp] theorem fieldsTail_cons (m : String × Json × Bytes) (ms : List (String × Json × Bytes)) :
    fieldsTail (m :: ms) = comma :: (memberText (ascii m.1, m.2.2) ++ fieldsTail ms) := by
  unfold fieldsTail
  rw [List.flatMap_cons, List.cons_append]

theorem AreFields.append {ms ms' : List (String × Json × Bytes)} (h : AreFields ms) (h' : AreFields ms') : AreFields (ms ++ ms') :=
  List.forall_mem_append.mpr ⟨h, h'⟩

theorem derives_fields {m : String × Json × Bytes} {ms : List (String × Json × Bytes)} (h : AreFields (m :: ms)) :
    Derives (.value (jsonFields ((m :: ms).map fun m => (m.1, m.2.1))))
      (openBrace :: (memberText (ascii m.1, m.2.2) ++ (fieldsTail ms ++ [closeBrace]))) := by
  have hderives := derives_object ((m :: ms).map fun m => ((ascii m.1, ascii m.1), m.2.1, m.2.2)) (by
    intro m hm
    obtain ⟨m, hmem, rfl⟩ := List.mem_map.mp hm
    exact h m hmem)
  have htail : ∀ (m : String × Json × Bytes) (ms : List (String × Json × Bytes)),
      separated (((m :: ms).map fun m => (ascii m.1, m.2.2)).map memberText) = memberText (ascii m.1, m.2.2) ++ fieldsTail ms := by
    intro m ms
    induction ms generalizing m with
    | nil => exact (List.append_nil _).symm
    | cons m' ms ih =>
      rw [fieldsTail_cons, ← ih m']
      rfl
  rw [List.map_map, List.map_map] at hderives
  unfold objectText at hderives
  change Derives _ (openBrace :: (separated (((m :: ms).map fun m => (ascii m.1, m.2.2)).map memberText) ++ _)) at hderives
  rw [htail, List.append_assoc] at hderives
  unfold jsonFields
  rw [List.map_map]
  exact hderives

/-! ## Reading values -/

/-- The first member of this name. -/
def jsonField (name : String) : Json → Option Json
  | .object ms => (ms.find? fun m => m.1 == ascii name).map (·.2)
  | _ => none

theorem jsonField_head (name : String) (v : Json) (ms : List (String × Json)) :
    jsonField name (jsonFields ((name, v) :: ms)) = some v := by
  simp only [jsonField, jsonFields, List.map_cons, List.find?_cons, beq_self_eq_true, Option.map_some]

theorem jsonField_tail {name other : String} (h : ascii other ≠ ascii name) (v : Json) (ms : List (String × Json)) :
    jsonField name (jsonFields ((other, v) :: ms)) = jsonField name (jsonFields ms) := by
  simp only [jsonField, jsonFields, List.map_cons, List.find?_cons, beq_false_of_ne h]

def jsonString : Json → Option Bytes
  | .string s => some s
  | _ => none

def jsonNat : Json → Option Nat
  | .number m 0 => some m.toNat
  | _ => none

def jsonArray {α : Type} (read : Json → Option α) : Json → Option (List α)
  | .array vs => vs.mapM read
  | _ => none

theorem jsonArray_map {α : Type} {read : Json → Option α} {write : α → Json} (h : ∀ x, read (write x) = some x) (xs : List α) :
    jsonArray read (.array (xs.map write)) = some xs := by
  unfold jsonArray
  dsimp only
  induction xs with
  | nil => rfl
  | cons x xs ih =>
    rw [List.map_cons, List.mapM_cons, h, ih]
    rfl

end SedsNet
