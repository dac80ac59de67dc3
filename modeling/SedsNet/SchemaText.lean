import SedsNet.JsonSchema

/-!
# The text of a schema

How `register_schema_json_text` (`src/upstream_api_compat.cpp`) takes a text apart. The values under a key are found by searching
for the key, in the text of an object as in that of the whole; there is no parser behind it. The loops over the text follow
strings with one machine of three states, written out in each of them (`Quoting`). Only `split_string_array` has no way on where
a string does not end: it starts over at the same quote. That it is given no such text is due to `json_array_value`, which
returns nothing before the machine is outside of all strings.
-/

set_option autoImplicit false

namespace SedsNet

def kQuote : UInt8 := 0x22
def kBackslash : UInt8 := 0x5C
def kColon : UInt8 := 0x3A
def kOpenBracket : UInt8 := 0x5B
def kCloseBracket : UInt8 := 0x5D
def kOpenBrace : UInt8 := 0x7B
def kCloseBrace : UInt8 := 0x7D

/-- The string of these bytes, one character for each. -/
def textOf (b : Bytes) : String := String.ofList (b.map fun x => Char.ofNat x.toNat)

/-- `in_string` and `escaped`. -/
inductive Quoting where
  | outside
  | inside
  | escaped
  deriving DecidableEq, Repr

/-- What a byte does to them. -/
def Quoting.next (ch : UInt8) : Quoting → Quoting
  | .outside => if ch = kQuote then .inside else .outside
  | .inside => if ch = kBackslash then .escaped else if ch = kQuote then .outside else .inside
  | .escaped => .inside

/-- And a text. -/
def Quoting.scan (q : Quoting) (b : Bytes) : Quoting := b.foldl (fun q ch => q.next ch) q

/-! ## Searching -/

/-- What follows the first occurrence: `find`, and the position behind it. -/
def behindText (needle : Bytes) : Bytes → Option Bytes
  | [] => if needle.isEmpty then some [] else none
  | ch :: rest =>
    if needle.isPrefixOf (ch :: rest) then some ((ch :: rest).drop needle.length) else behindText needle rest

/-- The same for one byte. -/
def behindByte (needle : UInt8) : Bytes → Option Bytes
  | [] => none
  | ch :: rest => if ch = needle then some rest else behindByte needle rest

/-- What follows the key, in quotes. -/
def behindKey (obj : Bytes) (key : String) : Option Bytes := behindText ([kQuote] ++ ascii key ++ [kQuote]) obj

/-- The index of the quote that ends a string. -/
def closingQuote : Bytes → Bool → Option Nat
  | [], _ => none
  | ch :: rest, escaped =>
    if escaped then (closingQuote rest false).map (· + 1)
    else if ch = kBackslash then (closingQuote rest true).map (· + 1)
    else if ch = kQuote then some 0
    else (closingQuote rest false).map (· + 1)

def unescapeJsonString : Bytes → Bytes
  | [] => []
  | [ch] => [ch]
  | ch :: next :: rest =>
    if ch = kBackslash then
      -- n, r and t
      (if next = 0x6E then 0x0A else if next = 0x72 then 0x0D else if next = 0x74 then 0x09 else next) :: unescapeJsonString rest
    else ch :: unescapeJsonString (next :: rest)

def jsonStringValue (obj : Bytes) (key : String) : Option String :=
  match behindKey obj key with
  | none => none
  | some rest =>
    match behindByte kColon rest with
    | none => none
    | some rest =>
      match behindByte kQuote rest with
      | none => none
      | some rest => (closingQuote rest false).map fun i => textOf (unescapeJsonString (rest.take i))

def isSpace (ch : UInt8) : Bool := ch = 0x20 || (0x09 ≤ ch && ch ≤ 0x0D)

def isDigit (ch : UInt8) : Bool := 0x30 ≤ ch && ch ≤ 0x39

/-- The number that digits spell. -/
def digitsValue (digits : Bytes) : Nat := digits.foldl (fun n ch => 10 * n + (ch.toNat - 0x30)) 0

/-- `json_size_value`, before the number is converted: `std::stoull` throws where it is `2 ^ 64` or more. -/
def jsonSizeValue (obj : Bytes) (key : String) : Option Nat :=
  match behindKey obj key with
  | none => none
  | some rest =>
    match behindByte kColon rest with
    | none => none
    | some rest =>
      let digits := (rest.dropWhile isSpace).takeWhile isDigit
      if digits.isEmpty then none else some (digitsValue digits)

def jsonBoolValue (obj : Bytes) (key : String) : Option Bool :=
  match behindKey obj key with
  | none => none
  | some rest =>
    match behindByte kColon rest with
    | none => none
    | some rest =>
      let rest := rest.dropWhile isSpace
      if (ascii "true").isPrefixOf rest then some true
      else if (ascii "false").isPrefixOf rest then some false
      else none

/-- The loop of `json_array_value`: the index of the bracket that closes the first one. -/
def closingBracket : Bytes → Int → Quoting → Option Nat
  | [], _, _ => none
  | ch :: rest, depth, q =>
    if q ≠ .outside ∨ ch = kQuote then (closingBracket rest depth (q.next ch)).map (· + 1)
    else if ch = kOpenBracket then (closingBracket rest (depth + 1) q).map (· + 1)
    else if ch = kCloseBracket then
      if depth - 1 = 0 then some 0 else (closingBracket rest (depth - 1) q).map (· + 1)
    else (closingBracket rest depth q).map (· + 1)

/-- `json_array_value`: what stands between the brackets. -/
def jsonArrayValue (obj : Bytes) (key : String) : Option Bytes :=
  match behindKey obj key with
  | none => none
  | some rest =>
    match behindByte kOpenBracket rest with
    | none => none
    | some rest => (closingBracket (kOpenBracket :: rest) 0 .outside).map fun i => rest.take (i - 1)

/-- The loop of `split_top_level_objects`, at the index `i` of the array. -/
def splitObjectsFrom (array : Bytes) : Bytes → Nat → Int → Quoting → Option Nat → List Bytes
  | [], _, _, _, _ => []
  | ch :: rest, i, depth, q, start =>
    if q ≠ .outside ∨ ch = kQuote then splitObjectsFrom array rest (i + 1) depth (q.next ch) start
    else if ch = kOpenBrace then
      splitObjectsFrom array rest (i + 1) (depth + 1) q (if depth = 0 then some i else start)
    else if ch = kCloseBrace then
      match start with
      | some s =>
        if depth - 1 = 0 then
          (array.drop s).take (i - s + 1) :: splitObjectsFrom array rest (i + 1) (depth - 1) q none
        else splitObjectsFrom array rest (i + 1) (depth - 1) q start
      | none => splitObjectsFrom array rest (i + 1) (depth - 1) q start
    else splitObjectsFrom array rest (i + 1) depth q start

def splitTopLevelObjects (array : Bytes) : List Bytes := splitObjectsFrom array array 0 0 .outside none

/-! ## `split_string_array` -/

/-- One turn of the outer loop at a position: the string that is found, if its end is, and the next position. The loop ends where
    there is no quote. -/
def splitNext (array : Bytes) (pos : Nat) : Option (Option Bytes × Nat) :=
  match (array.drop pos).findIdx? (· == kQuote) with
  | none => none
  | some k =>
    let start := pos + k + 1
    match closingQuote (array.drop start) false with
    | some n => some (some (unescapeJsonString ((array.drop start).take n)), start + n + 1)
    | none => some (none, pos + k)

/-- The loop, for a number of turns: `none` when it is not over after them. -/
def splitStringsFrom (array : Bytes) : Nat → Nat → Option (List Bytes)
  | 0, _ => none
  | turns + 1, pos =>
    match splitNext array pos with
    | none => some []
    | some (found, pos) => (splitStringsFrom array turns pos).map (found.toList ++ ·)

/-- `split_string_array`: `none` when it does not return. -/
def splitStringArray (array : Bytes) : Option (List Bytes) := splitStringsFrom array (array.length + 1) 0

/-! ## Where strings end -/

namespace Quoting

@[simp] theorem scan_nil (q : Quoting) : q.scan [] = q := rfl

@[simp] theorem scan_cons (q : Quoting) (ch : UInt8) (b : Bytes) : q.scan (ch :: b) = (q.next ch).scan b := rfl

theorem next_outside {ch : UInt8} (h : ch ≠ kQuote) : Quoting.outside.next ch = .outside := if_neg h

/-- Bytes that are no quotes do not matter outside of strings. -/
theorem scan_outside {b : Bytes} {k : Nat} (h : ∀ ch ∈ b.take k, ch ≠ kQuote) :
    Quoting.outside.scan b = Quoting.outside.scan (b.drop k) := by
  induction b generalizing k with
  | nil => rw [List.drop_nil]
  | cons ch b ih =>
    cases k with
    | zero => rfl
    | succ k =>
      rw [scan_cons, next_outside (h ch List.mem_cons_self), List.drop_succ_cons]
      exact ih fun ch' hch' => h ch' (List.mem_cons_of_mem _ hch')

/-- The state in a string. -/
def ofEscaped (escaped : Bool) : Quoting := if escaped then .escaped else .inside

end Quoting

/-- Strings that begin end, for the scanner of `split_string_array`. -/
def Balanced (array : Bytes) : Prop := Quoting.outside.scan array = .outside

instance (array : Bytes) : Decidable (Balanced array) := inferInstanceAs (Decidable (_ = _))

/-- What the inner loop finds is where the machine leaves the string. -/
theorem closingQuote_spec (b : Bytes) (escaped : Bool) :
    (∀ n, closingQuote b escaped = some n →
      n < b.length ∧ (Quoting.ofEscaped escaped).scan b = Quoting.outside.scan (b.drop (n + 1))) ∧
    (closingQuote b escaped = none → (Quoting.ofEscaped escaped).scan b ≠ .outside) := by
  induction b generalizing escaped with
  | nil =>
    constructor
    · intro n h
      cases h
    · cases escaped <;> exact fun _ h => nomatch h
  | cons ch b ih =>
    -- the string goes on behind this byte
    have hcontinue : ∀ escaped' : Bool, (Quoting.ofEscaped escaped).next ch = .ofEscaped escaped' →
        closingQuote (ch :: b) escaped = (closingQuote b escaped').map (· + 1) →
        (∀ n, closingQuote (ch :: b) escaped = some n →
          n < (ch :: b).length ∧ (Quoting.ofEscaped escaped).scan (ch :: b) = Quoting.outside.scan ((ch :: b).drop (n + 1))) ∧
        (closingQuote (ch :: b) escaped = none → (Quoting.ofEscaped escaped).scan (ch :: b) ≠ .outside) := by
      intro escaped' hnext heq
      obtain ⟨hsome, hnone⟩ := ih escaped'
      rw [heq, Quoting.scan_cons, hnext]
      constructor
      · intro n hn
        obtain ⟨m, hm, rfl⟩ := Option.map_eq_some_iff.mp hn
        obtain ⟨hlt, hscan⟩ := hsome m hm
        exact ⟨Nat.succ_lt_succ hlt, hscan⟩
      · intro hn
        exact hnone (Option.map_eq_none_iff.mp hn)
    cases escaped with
    | true => exact hcontinue false rfl rfl
    | false =>
      by_cases hback : ch = kBackslash
      · subst hback
        exact hcontinue true rfl rfl
      · by_cases hquote : ch = kQuote
        · subst hquote
          constructor
          · intro n hn
            cases hn
            exact ⟨Nat.zero_lt_succ _, rfl⟩
          · intro h
            cases h
        · refine hcontinue false ?_ ?_
          · show (if ch = kBackslash then Quoting.escaped else if ch = kQuote then .outside else .inside) = .inside
            rw [if_neg hback, if_neg hquote]
          · conv_lhs => unfold closingQuote
            rw [if_neg Bool.false_ne_true, if_neg hback, if_neg hquote]

/-- One turn, seen by the machine. -/
inductive SplitTurn (array : Bytes) (pos : Nat) : Option (Option Bytes × Nat) → Prop
  | ended (h : Balanced (array.drop pos)) : SplitTurn array pos none
  | found (piece : Bytes) (pos' : Nat) (hlt : pos < pos') (hle : pos' ≤ array.length)
    (h : Balanced (array.drop pos) ↔ Balanced (array.drop pos')) : SplitTurn array pos (some (some piece, pos'))
  | stuck (pos' : Nat) (h : ¬ Balanced (array.drop pos)) (h' : ¬ Balanced (array.drop pos')) :
    SplitTurn array pos (some (none, pos'))

theorem splitNext_turn (array : Bytes) (pos : Nat) : SplitTurn array pos (splitNext array pos) := by
  unfold splitNext
  cases hquote : (array.drop pos).findIdx? (· == kQuote) with
  | none =>
    refine .ended ?_
    have hno := List.findIdx?_eq_none_iff.mp hquote
    have hscan := Quoting.scan_outside (b := array.drop pos) (k := (array.drop pos).length) (by
      rw [List.take_length]
      exact fun ch hch hsame => by simpa [hsame] using hno ch hch)
    rw [List.drop_length] at hscan
    exact hscan
  | some k =>
    obtain ⟨hlt, hat, hbefore⟩ := List.findIdx?_eq_some_iff_getElem.mp hquote
    have hat : (array.drop pos)[k] = kQuote := eq_of_beq hat
    have hlen : pos + k < array.length := by
      rw [List.length_drop] at hlt
      omega
    -- up to the quote nothing happens
    have hscan := Quoting.scan_outside (b := array.drop pos) (k := k) (by
      intro ch hch hsame
      obtain ⟨i, hi, heq⟩ := List.mem_take_iff_getElem.mp hch
      have hne := hbefore i (by omega)
      rw [heq, hsame] at hne
      exact hne (beq_self_eq_true _))
    have hstep : (array.drop pos).drop k = kQuote :: array.drop (pos + k + 1) := by
      rw [List.drop_eq_getElem_cons hlt, hat, List.drop_drop]
      rfl
    have hinside : Quoting.outside.scan (array.drop pos) = Quoting.inside.scan (array.drop (pos + k + 1)) := by
      rw [hscan, hstep]
      rfl
    have hclosing := closingQuote_spec (array.drop (pos + k + 1)) false
    dsimp only
    cases hclose : closingQuote (array.drop (pos + k + 1)) false with
    | some n =>
      obtain ⟨hn, hleft⟩ := hclosing.1 n hclose
      rw [List.length_drop] at hn
      refine .found _ _ (by omega) (by omega) ?_
      unfold Balanced
      rw [hinside, show Quoting.inside = .ofEscaped false from rfl, hleft, List.drop_drop]
      rfl
    | none =>
      have hnever : Quoting.inside.scan (array.drop (pos + k + 1)) ≠ .outside := hclosing.2 hclose
      refine .stuck _ ?_ ?_
      · unfold Balanced
        rw [hinside]
        exact hnever
      · unfold Balanced
        rw [← List.drop_drop, hstep]
        exact hnever

/-- If the loop is over after some turns, strings ended. -/
theorem balanced_of_split {array : Bytes} {turns pos : Nat} {out : List Bytes} (h : splitStringsFrom array turns pos = some out) :
    Balanced (array.drop pos) := by
  induction turns generalizing pos out with
  | zero => cases h
  | succ turns ih =>
    unfold splitStringsFrom at h
    have hturn := splitNext_turn array pos
    cases hnext : splitNext array pos with
    | none =>
      rw [hnext] at hturn
      cases hturn with
      | ended hbalanced => exact hbalanced
    | some next =>
      rw [hnext] at hturn h
      obtain ⟨rest, hrest, -⟩ := Option.map_eq_some_iff.mp h
      cases hturn with
      | found piece pos' _ _ hiff => exact hiff.mpr (ih hrest)
      | stuck pos' _ hstuck => exact absurd (ih hrest) hstuck

/-- Each turn takes the loop nearer to the end. -/
theorem split_of_balanced {array : Bytes} {turns pos : Nat} (hbalanced : Balanced (array.drop pos)) (hpos : pos ≤ array.length)
    (hturns : array.length - pos < turns) : (splitStringsFrom array turns pos).isSome = true := by
  induction turns generalizing pos with
  | zero => exact absurd hturns (Nat.not_lt_zero _)
  | succ turns ih =>
    unfold splitStringsFrom
    have hturn := splitNext_turn array pos
    cases hnext : splitNext array pos with
    | none => rfl
    | some next =>
      rw [hnext] at hturn
      cases hturn with
      | found piece pos' hlt hle hiff =>
        dsimp only
        rw [Option.isSome_map]
        exact ih (hiff.mp hbalanced) hle (by omega)
      | stuck pos' hstuck _ => exact absurd hbalanced hstuck

/-- **`split_string_array` returns exactly on the arrays in which strings end.** -/
theorem splitStringArray_isSome_iff (array : Bytes) :
    ((splitStringArray array).isSome = true ↔ Balanced array) ∧
    ∀ turns, (splitStringArray array).isSome = false → splitStringsFrom array turns 0 = none := by
  have hreturns : Balanced array → (splitStringArray array).isSome = true := fun h =>
    @split_of_balanced _ _ 0 h (Nat.zero_le _) (Nat.lt_succ_self _)
  have hbalanced : ∀ {turns : Nat} {out : List Bytes}, splitStringsFrom array turns 0 = some out → Balanced array := fun h =>
    @balanced_of_split _ _ 0 _ h
  refine ⟨⟨fun h => ?_, hreturns⟩, fun turns hnone => ?_⟩
  · obtain ⟨out, hout⟩ := Option.isSome_iff_exists.mp h
    exact hbalanced hout
  · cases hturns : splitStringsFrom array turns 0 with
    | none => rfl
    | some out =>
      rw [hreturns (hbalanced hturns)] at hnone
      cases hnone

/-! ## What `json_array_value` returns -/

/-- The loop ends outside of strings. -/
theorem scan_of_closingBracket {b : Bytes} {depth : Int} {q : Quoting} {i : Nat} (h : closingBracket b depth q = some i) :
    q.scan (b.take i) = .outside := by
  induction b generalizing depth q i with
  | nil => cases h
  | cons ch b ih =>
    have hcontinue : ∀ {depth' : Int} {q' : Quoting}, q.next ch = q' → (closingBracket b depth' q').map (· + 1) = some i →
        q.scan ((ch :: b).take i) = .outside := by
      intro depth' q' hnext hrest
      obtain ⟨j, hj, rfl⟩ := Option.map_eq_some_iff.mp hrest
      rw [List.take_succ_cons, Quoting.scan_cons, hnext]
      exact ih hj
    unfold closingBracket at h
    split at h
    · exact hcontinue rfl h
    · rename_i hplain
      obtain ⟨hq, hch⟩ := not_or.mp hplain
      have hq : q = .outside := not_not.mp hq
      have hnext : q.next ch = q := by
        rw [hq]
        exact Quoting.next_outside hch
      split at h
      · exact hcontinue hnext h
      · split at h
        · split at h
          · cases h
            exact hq
          · exact hcontinue hnext h
        · exact hcontinue hnext h

theorem jsonArrayValue_balanced {obj : Bytes} {key : String} {slice : Bytes} (h : jsonArrayValue obj key = some slice) :
    Balanced slice := by
  unfold jsonArrayValue at h
  split at h
  · cases h
  · split at h
    · cases h
    · rename_i rest _
      obtain ⟨i, hi, rfl⟩ := Option.map_eq_some_iff.mp h
      have hscan := scan_of_closingBracket hi
      cases i with
      | zero => rfl
      | succ i => exact hscan

/-- The positions the outer loop gets to. -/
inductive Visits (array : Bytes) : Nat → Prop
  | start : Visits array 0
  | next {pos pos' : Nat} {piece : Option Bytes} (h : Visits array pos) (hnext : splitNext array pos = some (piece, pos')) :
    Visits array pos'

/-- In a balanced array the loop is outside of strings at every turn, and each turn takes it on. -/
theorem visits_balanced {array : Bytes} (hbalanced : Balanced array) {pos : Nat} (h : Visits array pos) :
    Balanced (array.drop pos) ∧ ∀ piece pos', splitNext array pos = some (piece, pos') → pos < pos' := by
  have hadvances : ∀ {pos : Nat}, Balanced (array.drop pos) → ∀ piece pos', splitNext array pos = some (piece, pos') →
      pos < pos' ∧ Balanced (array.drop pos') := by
    intro pos hpos piece pos' hnext
    have hturn := splitNext_turn array pos
    rw [hnext] at hturn
    cases hturn with
    | found piece _ hlt _ hiff => exact ⟨hlt, hiff.mp hpos⟩
    | stuck _ hstuck _ => exact absurd hpos hstuck
  have hthere : Balanced (array.drop pos) := by
    induction h with
    | start => exact hbalanced
    | next _ hnext ih => exact (hadvances ih _ _ hnext).2
  exact ⟨hthere, fun piece pos' hnext => (hadvances hthere piece pos' hnext).1⟩

/-! ## `register_schema_json_text` -/

/-- How a call ends: with a code, with the exception of `std::stoull`, or not at all. -/
inductive TextOutcome where
  | returned (rc : SedsResult)
  | threw
  | hangs
  deriving DecidableEq, Repr

def jsonEndpoint (obj : Bytes) : JsonEndpoint where
  rust := jsonStringValue obj "rust"
  name := jsonStringValue obj "name"
  description := jsonStringValue obj "description"
  doc := jsonStringValue obj "doc"
  linkLocalOnly := jsonBoolValue obj "link_local_only"
  broadcastMode := jsonStringValue obj "broadcast_mode"

/-- The values of a type. The listed endpoints are there if the array is, and ends. -/
def jsonType (obj : Bytes) : JsonType where
  name := jsonStringValue obj "name"
  kind := jsonStringValue obj "kind"
  dataType := jsonStringValue obj "data_type"
  reliableMode := jsonStringValue obj "reliable_mode"
  reliable := jsonBoolValue obj "reliable"
  description := jsonStringValue obj "description"
  doc := jsonStringValue obj "doc"
  priority := jsonSizeValue obj "priority"
  messageClass := jsonStringValue obj "class"
  endpoints := ((jsonArrayValue obj "endpoints").bind splitStringArray).map (·.map textOf)
  count := jsonSizeValue obj "count"

/-- `std::stoull` throws. -/
def outOfRange (n : Option Nat) : Bool := n.any fun n => 2 ^ 64 ≤ n

namespace Registry

/-- The loop over the types. -/
def registerTypeTexts (ids : Map String UInt32) : List Bytes → UInt32 → Registry → TextOutcome × Registry
  | [], _, R => (.returned SEDS_OK, R)
  | obj :: objs, next, R =>
    let ty := jsonType obj
    match ty.name with
    | none => (.returned SEDS_DESERIALIZE, R)
    | some name =>
      if outOfRange ty.priority then (.threw, R)
      else
        match jsonArrayValue obj "endpoints" with
        | none => (.returned SEDS_DESERIALIZE, R)
        | some array =>
          match splitStringArray array with
          | none => (.hangs, R)
          | some rusts =>
            let endpoints := (rusts.map textOf).filterMap ids.lookup
            if endpoints.isEmpty then (.returned SEDS_BAD_ARG, R)
            -- the count of a dynamic type is not read
            else if ty.kind.getD "Static" != "Dynamic" && outOfRange ty.count then (.threw, R)
            else
              let next' := R.nextType (next + 1)
              let (rc, R) := R.dtypeRegisterEx next ty.text (ty.spec name endpoints)
              if rc ≠ SEDS_OK then (.returned rc, R) else registerTypeTexts ids objs next' R

/-- `register_schema_json_text`. -/
def registerSchemaJsonText (R : Registry) (text : Bytes) : TextOutcome × Registry :=
  match jsonArrayValue text "endpoints", jsonArrayValue text "types" with
  | some endpointArray, some typeArray =>
    let (rc, ids, R) := registerJsonEndpoints ((splitTopLevelObjects endpointArray).map jsonEndpoint) (R.nextEndpoint 100) ∅ R
    if rc ≠ SEDS_OK then (.returned rc, R)
    else registerTypeTexts ids (splitTopLevelObjects typeArray) (R.nextType 100) R
  | _, _ => (.returned SEDS_DESERIALIZE, R)

/-- An array that was found is taken apart. -/
theorem split_of_jsonArrayValue {obj : Bytes} {key : String} {array : Bytes} (h : jsonArrayValue obj key = some array) :
    ∃ out, splitStringArray array = some out :=
  Option.isSome_iff_exists.mp ((splitStringArray_isSome_iff array).1.mpr (jsonArrayValue_balanced h))

theorem registerTypeTexts_returns (ids : Map String UInt32) (objs : List Bytes) (next : UInt32) (R : Registry) :
    (registerTypeTexts ids objs next R).1 ≠ .hangs := by
  induction objs generalizing next R with
  | nil => exact fun h => nomatch h
  | cons obj objs ih =>
    unfold registerTypeTexts
    dsimp only
    split
    · exact fun h => nomatch h
    · split
      · exact fun h => nomatch h
      · split
        · exact fun h => nomatch h
        · rename_i array harray
          obtain ⟨out, hout⟩ := split_of_jsonArrayValue harray
          rw [hout]
          dsimp only
          split
          · exact fun h => nomatch h
          · split
            · exact fun h => nomatch h
            · split
              · exact fun h => nomatch h
              · exact ih _ _

end Registry

/-- **The text of a schema is read to an end.** In what `json_array_value` returns every string ends, each turn of
    `split_string_array` gets further, and the registration comes to a return or an exception. -/
theorem schemaText_terminates :
    (∀ (obj : Bytes) (key : String) (array : Bytes), jsonArrayValue obj key = some array →
      Balanced array ∧
      (∀ pos piece pos', Visits array pos → splitNext array pos = some (piece, pos') → pos < pos') ∧
      ∃ out, splitStringArray array = some out) ∧
    ∀ (R : Registry) (text : Bytes), (R.registerSchemaJsonText text).1 ≠ .hangs := by
  constructor
  · intro obj key array harray
    have hbalanced := jsonArrayValue_balanced harray
    exact ⟨hbalanced, fun pos piece pos' hvisits => (visits_balanced hbalanced hvisits).2 piece pos',
      Registry.split_of_jsonArrayValue harray⟩
  · intro R text
    unfold Registry.registerSchemaJsonText
    split
    · dsimp only
      split
      · exact fun h => nomatch h
      · exact Registry.registerTypeTexts_returns _ _ _ _
    · exact fun h => nomatch h

/-- An array in which a string does not end keeps the loop at its quote. -/
example : splitNext (ascii "a" ++ [kQuote] ++ ascii "b") 0 = some (none, 1) ∧
    splitNext (ascii "a" ++ [kQuote] ++ ascii "b") 1 = some (none, 1) := by decide

end SedsNet
