import SedsNet.Registered
import SedsNet.SchemaText

/-!
# Schemas that are registered in part

`register_schema_json_text` registers the entries of a text one after the other, while it reads them, and takes nothing back when
one of them is refused. `endpointsFit` and `typesFit` say of a text which entries will be: against the names that are taken
before the call, and those that earlier entries take.
-/

set_option autoImplicit false

namespace SedsNet

open Lib Registry

/-! ## Entries that can be registered -/

/-- An endpoint that can be registered when these names are taken. -/
def JsonEndpoint.fits (ep : JsonEndpoint) (taken : List String) : Bool :=
  ep.rust.isSome && ep.name.any fun name => !taken.contains name

def endpointsFit : List JsonEndpoint → List String → Bool
  | [], _ => true
  | ep :: eps, taken => ep.fits taken && endpointsFit eps ((ep.name.map cString).toList ++ taken)

/-- A type that can be registered when these names are taken, and the endpoints of the text have these `rust` names. -/
def typeFits (rusts : List String) (ty : JsonType) (taken : List String) : Bool :=
  (ty.name.any fun name => !taken.contains name) && !outOfRange ty.priority &&
    (ty.endpoints.any fun listed => listed.any rusts.contains) &&
    !(ty.kind.getD "Static" != "Dynamic" && outOfRange ty.count)

def typesFit (rusts : List String) : List JsonType → List String → Bool
  | [], _ => true
  | ty :: tys, taken =>
    typeFits rusts ty taken && typesFit rusts tys ((ty.name.map cString).toList.filter (· != "") ++ taken)

def textEndpoints (text : Bytes) : Option (List JsonEndpoint) :=
  (jsonArrayValue text "endpoints").map fun array => (splitTopLevelObjects array).map jsonEndpoint

def textTypes (text : Bytes) : Option (List JsonType) :=
  (jsonArrayValue text "types").map fun array => (splitTopLevelObjects array).map jsonType

namespace Registry

variable {R : Registry}

def endpointNames (R : Registry) : List String := R.schema.kEndpointNames.filterMap id

def typeNames (R : Registry) : List String := (R.schema.kTypeInfo.map (·.name)).filter (· != "")

/-- The text has no entries to register, its first endpoint is refused, or all its entries are accepted. -/
def allOrNone (R : Registry) (text : Bytes) : Bool :=
  match textEndpoints text, textTypes text with
  | some (ep :: eps), some tys =>
    !ep.fits R.endpointNames ||
      endpointsFit (ep :: eps) R.endpointNames && typesFit ((ep :: eps).filterMap (·.rust)) tys R.typeNames
  | _, _ => true

/-- There are ids for the entries of the text, and one more. -/
structure HasRoom (R : Registry) (text : Bytes) : Prop where
  endpoints : max 100 R.schema.kEndpointNames.length + ((textEndpoints text).getD []).length < 2 ^ 32
  types : max 100 R.schema.kTypeInfo.length + ((textTypes text).getD []).length < 2 ^ 32

/-! ## Free ids -/

theorem takeWhile_stops {α : Type} {p : α → Bool} {l : List α} {x : α} (h : l[(l.takeWhile p).length]? = some x) : p x = false := by
  induction l with
  | nil => cases h
  | cons y l ih =>
    cases hy : p y with
    | true =>
      rw [List.takeWhile_cons_of_pos hy, List.length_cons, List.getElem?_cons_succ] at h
      exact ih h
    | false =>
      rw [List.takeWhile_cons_of_neg (by rw [hy]; exact Bool.false_ne_true), List.length_nil, List.getElem?_cons_zero] at h
      rw [← Option.some.inj h]
      exact hy

/-- The search for the next id stops within the table, or behind it. -/
theorem next_free {α : Type} {p : α → Bool} {v : List α} {next : UInt32} {bound : Nat} (hnext : next.toNat ≤ bound)
    (hv : v.length ≤ bound) (hbound : bound < 2 ^ 32) :
    next.toNat ≤ (next + UInt32.ofNat ((v.drop next.toNat).takeWhile p).length).toNat ∧
      (next + UInt32.ofNat ((v.drop next.toNat).takeWhile p).length).toNat ≤ bound ∧
      ∀ x, v[(next + UInt32.ofNat ((v.drop next.toNat).takeWhile p).length).toNat]? = some x → p x = false := by
  have hlen : ((v.drop next.toNat).takeWhile p).length ≤ v.length - next.toNat := by
    rw [← List.length_drop]
    exact (List.takeWhile_prefix p).length_le
  have hsum : (next + UInt32.ofNat ((v.drop next.toNat).takeWhile p).length).toNat =
      next.toNat + ((v.drop next.toNat).takeWhile p).length := by
    rw [UInt32.toNat_add, UInt32.toNat_ofNat_of_lt' (show _ < 2 ^ 32 by omega), Nat.mod_eq_of_lt (by omega)]
  rw [hsum]
  refine ⟨Nat.le_add_right _ _, by omega, fun x hx => ?_⟩
  rw [← List.getElem?_drop] at hx
  exact takeWhile_stops hx

theorem succ_toNat {i : UInt32} {bound : Nat} (hi : i.toNat ≤ bound) (hbound : bound + 1 < 2 ^ 32) : (i + 1).toNat = i.toNat + 1 := by
  rw [UInt32.toNat_add, Nat.mod_eq_of_lt]
  · rfl
  · show i.toNat + 1 < 2 ^ 32
    omega

theorem ne_last {i : UInt32} {bound : Nat} (hi : i.toNat ≤ bound) (hbound : bound + 1 < 2 ^ 32) : i ≠ 0xFFFFFFFF := by
  rintro rfl
  have hlast : (0xFFFFFFFF : UInt32).toNat = 4294967295 := rfl
  omega

theorem length_set_growFor_le {α : Type} {v : List α} {i : UInt32} {filler x : α} {bound : Nat} (hi : i.toNat ≤ bound)
    (hv : v.length ≤ bound) (hbound : bound + 1 < 2 ^ 32) : ((growFor v i filler).set i.toNat x).length ≤ bound + 1 := by
  rw [growFor_eq (ne_last hi hbound), List.length_set, List.length_append, List.length_replicate]
  omega

/-! ## The endpoints of a text -/

/-- What the loop over the endpoints comes to. -/
structure EndpointsDone (eps : List JsonEndpoint) (next : UInt32) (taken : List String) (ids : Map String UInt32) (R : Registry)
    (out : SedsResult × Map String UInt32 × Registry) : Prop where
  ok_iff : out.1 = SEDS_OK ↔ endpointsFit eps taken = true
  /-- The first endpoint is refused, and nothing has happened, or it is registered, and stays. -/
  refused : ∀ ep ∈ eps.head?, ep.fits taken = false → out.2.2 = R
  first : ∀ ep ∈ eps.head?, ep.fits taken = true → out.2.2.schema.validEndpoint next = true
  kept : ∀ (ep : UInt32), R.schema.validEndpoint ep = true → out.2.2.schema.validEndpoint ep = true
  rows : out.2.2.schema.kTypeInfo = R.schema.kTypeInfo
  known : out.1 = SEDS_OK → ∀ rust, (out.2.1.lookup rust).isSome = true ↔ (ids.lookup rust).isSome = true ∨ some rust ∈ eps.map (·.rust)
  valid : (∀ rust ep, ids.lookup rust = some ep → R.schema.validEndpoint ep = true) →
    ∀ rust ep, out.2.1.lookup rust = some ep → out.2.2.schema.validEndpoint ep = true

/-- A name is taken in the table when it is in the list. -/
def NamesTaken (R : Registry) (taken : List String) : Prop := ∀ name, R.schema.kEndpointNames.contains (some name) = taken.contains name

theorem namesTaken_endpointNames (R : Registry) : R.NamesTaken R.endpointNames := by
  intro name
  rw [Bool.eq_iff_iff, List.contains_iff_mem, List.contains_iff_mem, endpointNames, List.mem_filterMap]
  simp

theorem NamesTaken.withEndpoint {taken : List String} (h : R.NamesTaken taken) {endpoint : UInt32} (hlast : endpoint ≠ 0xFFFFFFFF)
    (hfree : R.schema.validEndpoint endpoint = false) (name description : String) (linkLocalOnly : Bool) :
    (R.withEndpoint endpoint name description linkLocalOnly).NamesTaken (cString name :: taken) := by
  intro other
  have hold := h other
  rw [Bool.eq_iff_iff, List.contains_iff_mem, List.contains_iff_mem] at hold ⊢
  rw [List.mem_cons, ← hold]
  constructor
  · intro hmem
    obtain ⟨k, hk⟩ := List.mem_iff_getElem?.mp hmem
    rcases of_getElem?_set_growFor hlast hk with hthere | hfiller | ⟨-, hnew⟩
    · exact .inr (List.mem_of_getElem? hthere)
    · cases hfiller
    · exact .inl (Option.some.inj hnew)
  · rintro (rfl | hmem)
    · exact List.mem_of_getElem? (getElem?_set_growFor_self hlast)
    · obtain ⟨k, hk⟩ := List.mem_iff_getElem?.mp hmem
      refine List.mem_of_getElem? (getElem?_set_growFor (i := endpoint) hlast ?_ hk)
      rintro rfl
      rw [Schema.validEndpoint_iff.mpr ⟨other, hk⟩] at hfree
      cases hfree

theorem validEndpoint_withEndpoint {endpoint : UInt32} (hlast : endpoint ≠ 0xFFFFFFFF) (name description : String)
    (linkLocalOnly : Bool) {ep : UInt32} (h : R.schema.validEndpoint ep = true ∨ ep = endpoint) :
    (R.withEndpoint endpoint name description linkLocalOnly).schema.validEndpoint ep = true := by
  by_cases hsame : ep = endpoint
  · subst hsame
    exact Schema.validEndpoint_iff.mpr ⟨_, getElem?_set_growFor_self hlast⟩
  · obtain ⟨name, hname⟩ := Schema.validEndpoint_iff.mp (h.resolve_right hsame)
    exact Schema.validEndpoint_iff.mpr ⟨name, getElem?_set_growFor hlast (fun h => hsame (UInt32.toNat_inj.mp h)) hname⟩

theorem EndpointsDone.stopped {ep : JsonEndpoint} {eps : List JsonEndpoint} {next : UInt32} {taken : List String}
    {ids : Map String UInt32} {rc : SedsResult} (hrc : rc ≠ SEDS_OK) (hfits : ep.fits taken = false) :
    EndpointsDone (ep :: eps) next taken ids R (rc, ids, R) where
  ok_iff := by
    unfold endpointsFit
    rw [hfits, Bool.false_and]
    exact ⟨fun h => absurd h hrc, fun h => nomatch h⟩
  refused _ _ _ := rfl
  first first hfirst h := by
    rw [← Option.some.inj hfirst, hfits] at h
    cases h
  kept _ h := h
  rows := rfl
  known h := absurd h hrc
  valid h := h

theorem registerJsonEndpoints_done (eps : List JsonEndpoint) (ids : Map String UInt32) {next : UInt32} {taken : List String}
    {bound : Nat} (hfree : R.schema.validEndpoint next = false) (hnext : next.toNat ≤ bound)
    (hnames : R.schema.kEndpointNames.length ≤ bound) (hbound : bound + eps.length < 2 ^ 32) (htaken : R.NamesTaken taken) :
    EndpointsDone eps next taken ids R (registerJsonEndpoints eps next ids R) := by
  induction eps generalizing next taken ids R bound with
  | nil =>
    refine ⟨⟨fun _ => rfl, fun _ => rfl⟩, (fun _ h => nomatch h), (fun _ h => nomatch h), fun _ h => h, rfl,
      fun _ rust => ?_, fun h => h⟩
    rw [List.map_nil]
    exact ⟨.inl, fun h => h.resolve_right fun hmem => nomatch hmem⟩
  | cons ep eps ih =>
    rw [List.length_cons] at hbound
    unfold registerJsonEndpoints
    cases hrust : ep.rust with
    | none => exact .stopped (by decide) (by rw [JsonEndpoint.fits, hrust]; rfl)
    | some rust =>
      cases hname : ep.name with
      | none => exact .stopped (by decide) (by rw [JsonEndpoint.fits, hrust, hname]; rfl)
      | some name =>
        have hfits : ep.fits taken = !taken.contains name := by
          rw [JsonEndpoint.fits, hrust, hname]
          rfl
        dsimp only
        rw [endpointRegisterEx_free hfree, htaken name]
        by_cases hdup : taken.contains name = true
        · rw [if_pos hdup]
          exact .stopped (show SEDS_BAD_ARG ≠ SEDS_OK by decide) (by rw [hfits, hdup]; rfl)
        · rw [if_neg hdup]
          have hlast := ne_last hnext (by omega)
          have hsucc := succ_toNat hnext (by omega)
          obtain ⟨hahead, hwithin, hstop⟩ := next_free (p := Option.isSome) (v := R.schema.kEndpointNames)
            (show (next + 1).toNat ≤ bound + 1 by omega) (by omega) (by omega)
          have hrest := @ih (R.withEndpoint next name ep.text ep.linkLocal) (ids.insert rust next) (R.nextEndpoint (next + 1))
            (cString name :: taken) (bound + 1) ?_ hwithin (length_set_growFor_le hnext hnames (by omega)) (by omega)
            (htaken.withEndpoint hlast hfree _ _ _)
          · refine ⟨?_, ?_, ?_, ?_, hrest.rows, ?_, ?_⟩
            · rw [endpointsFit, hfits, hname]
              rw [Bool.eq_false_of_not_eq_true hdup]
              exact hrest.ok_iff
            · intro first hfirst hrefused
              rw [← Option.some.inj hfirst, hfits, Bool.eq_false_of_not_eq_true hdup] at hrefused
              cases hrefused
            · intro _ _ _
              exact hrest.kept next (validEndpoint_withEndpoint hlast _ _ _ (.inr rfl))
            · intro other hvalid
              exact hrest.kept other (validEndpoint_withEndpoint hlast _ _ _ (.inl hvalid))
            · intro hok other
              rw [List.map_cons, List.mem_cons, hrust]
              have hknown := hrest.known hok other
              by_cases hsame : other = rust
              · rw [hsame] at hknown ⊢
                rw [AList.lookup_insert] at hknown
                exact ⟨fun _ => .inr (.inl rfl), fun _ => hknown.mpr (.inl rfl)⟩
              · rw [AList.lookup_insert_ne hsame] at hknown
                refine hknown.trans (or_congr_right ?_)
                exact ⟨.inr, fun h => h.resolve_left fun heq => hsame (Option.some.inj heq)⟩
            · intro hids
              refine hrest.valid fun other place hplace => validEndpoint_withEndpoint hlast _ _ _ ?_
              by_cases hsame : other = rust
              · rw [hsame, AList.lookup_insert] at hplace
                exact .inr (Option.some.inj hplace).symm
              · rw [AList.lookup_insert_ne hsame] at hplace
                exact .inl (hids other place hplace)
          · -- the next id is free, and is not the one that has been taken
            rw [Bool.eq_false_iff]
            intro hvalid
            obtain ⟨other, hother⟩ := Schema.validEndpoint_iff.mp hvalid
            rcases of_getElem?_set_growFor hlast hother with hold | hfiller | ⟨hsame, -⟩
            · cases hstop _ hold
            · cases hfiller
            · have hsame : (next + 1 + UInt32.ofNat ((R.schema.kEndpointNames.drop (next + 1).toNat).takeWhile Option.isSome).length).toNat =
                  next.toNat := hsame
              omega

/-! ## The types of a text -/

/-- A name is that of a row when it is in the list. -/
def TypesTaken (R : Registry) (taken : List String) : Prop :=
  ∀ name, (R.schema.kTypeInfo.any fun info => info.name != "" && info.name == name) = taken.contains name

theorem typesTaken_typeNames (R : Registry) : R.TypesTaken R.typeNames := by
  intro name
  rw [Bool.eq_iff_iff, List.contains_iff_mem, typeNames, List.mem_filter, List.mem_map, List.any_eq_true]
  simp only [Bool.and_eq_true, bne_iff_ne, beq_iff_eq]
  constructor
  · rintro ⟨info, hinfo, hnamed, rfl⟩
    exact ⟨⟨info, hinfo, rfl⟩, hnamed⟩
  · rintro ⟨⟨info, hinfo, rfl⟩, hnamed⟩
    exact ⟨info, hinfo, hnamed, rfl⟩

theorem TypesTaken.withType {taken : List String} (h : R.TypesTaken taken) {place : UInt32} (hlast : place ≠ 0xFFFFFFFF)
    (hfree : R.schema.validType place = false) (description : String) (spec : TypeSpec) :
    (R.withType place description spec).TypesTaken ([cString spec.name].filter (· != "") ++ taken) := by
  intro name
  have hold := h name
  rw [Bool.eq_iff_iff, List.contains_iff_mem, List.any_eq_true] at hold ⊢
  rw [List.mem_append, ← hold, List.mem_filter, List.mem_singleton]
  simp only [Bool.and_eq_true, bne_iff_ne, beq_iff_eq]
  constructor
  · rintro ⟨info, hmem, hnamed, rfl⟩
    obtain ⟨k, hk⟩ := List.mem_iff_getElem?.mp hmem
    rcases of_getElem?_set_growFor hlast hk with hthere | rfl | ⟨-, rfl⟩
    · exact .inr ⟨info, List.mem_of_getElem? hthere, hnamed, rfl⟩
    · exact absurd rfl hnamed
    · exact .inl ⟨rfl, hnamed⟩
  · rintro (⟨rfl, hnamed⟩ | ⟨info, hmem, hnamed, rfl⟩)
    · exact ⟨spec.row, List.mem_of_getElem? (getElem?_set_growFor_self hlast), hnamed, rfl⟩
    · obtain ⟨k, hk⟩ := List.mem_iff_getElem?.mp hmem
      refine ⟨info, List.mem_of_getElem? (getElem?_set_growFor (i := place) hlast ?_ hk), hnamed, rfl⟩
      rintro rfl
      rw [Schema.validType_iff.mpr ⟨info, hk, hnamed⟩] at hfree
      cases hfree

/-- Ids from 100 on stand for themselves. -/
theorem cApiTypeId_high {S : Schema} {ty : UInt32} (hhigh : 100 ≤ ty.toNat) : S.cApiTypeId ty = ty := by
  unfold Schema.cApiTypeId
  rw [List.getElem?_eq_none (by exact Nat.le_trans (by decide) hhigh)]
  split
  · rfl
  · rfl

theorem dtypeRegisterEx_names (ty : UInt32) (description : String) (spec : TypeSpec) :
    (R.dtypeRegisterEx ty description spec).2.schema.kEndpointNames = R.schema.kEndpointNames := by
  by_cases hknows : R.knowsEndpoints spec
  · cases htaken : R.schema.validType (R.schema.cApiTypeId ty) with
    | true => rw [dtypeRegisterEx_taken description hknows htaken]
    | false =>
      rw [dtypeRegisterEx_free description hknows htaken]
      split
      · rfl
      · rfl
  · rw [dtypeRegisterEx_unknown description hknows]

theorem registerTypeTexts_names (ids : Map String UInt32) (objs : List Bytes) (next : UInt32) (R : Registry) :
    (registerTypeTexts ids objs next R).2.schema.kEndpointNames = R.schema.kEndpointNames := by
  induction objs generalizing next R with
  | nil => rfl
  | cons obj objs ih =>
    unfold registerTypeTexts
    dsimp only
    split
    · rfl
    · split
      · rfl
      · split
        · rfl
        · split
          · rfl
          · split
            · rfl
            · split
              · rfl
              · split
                · exact dtypeRegisterEx_names _ _ _
                · exact (ih _ _).trans (dtypeRegisterEx_names _ _ _)

/-- Without endpoints no type is registered. -/
theorem registerTypeTexts_nobody {ids : Map String UInt32} (hids : ∀ rust, ids.lookup rust = none) (objs : List Bytes) (next : UInt32)
    (R : Registry) : (registerTypeTexts ids objs next R).2 = R := by
  cases objs with
  | nil => rfl
  | cons obj objs =>
    unfold registerTypeTexts
    dsimp only
    split
    · rfl
    · split
      · rfl
      · split
        · rfl
        · split
          · rfl
          · rename_i rusts _
            have hnone : (rusts.map textOf).filterMap ids.lookup = [] := by
              rw [List.filterMap_eq_nil_iff]
              exact fun rust _ => hids rust
            rw [hnone, List.isEmpty_nil, if_pos rfl]

/-- Whether a listed endpoint is found. -/
theorem filterMap_lookup_isEmpty {ids : Map String UInt32} {rusts : List String}
    (hids : ∀ rust, (ids.lookup rust).isSome = rusts.contains rust) (listed : List String) :
    (listed.filterMap ids.lookup).isEmpty = !listed.any rusts.contains := by
  induction listed with
  | nil => rfl
  | cons rust listed ih =>
    rw [List.any_cons, ← hids rust]
    cases hrust : ids.lookup rust with
    | none =>
      rw [List.filterMap_cons, hrust]
      exact ih
    | some ep =>
      rw [List.filterMap_cons, hrust]
      rfl

theorem jsonType_endpoints_none {obj : Bytes} (h : jsonArrayValue obj "endpoints" = none) : (jsonType obj).endpoints = none := by
  unfold jsonType
  dsimp only
  rw [h]
  rfl

theorem jsonType_endpoints_some {obj array : Bytes} {out : List Bytes} (h : jsonArrayValue obj "endpoints" = some array)
    (hsplit : splitStringArray array = some out) : (jsonType obj).endpoints = some (out.map textOf) := by
  unfold jsonType
  dsimp only
  rw [h, Option.bind_some, hsplit]
  rfl

/-- The next free id for a type, after one has been given out. -/
theorem nextType_free {place : UInt32} {bound : Nat} (hplace : place.toNat ≤ bound) (hrows : R.schema.kTypeInfo.length ≤ bound)
    (hbound : bound + 1 < 2 ^ 32) (description : String) (spec : TypeSpec) :
    place.toNat < (R.nextType (place + 1)).toNat ∧ (R.nextType (place + 1)).toNat ≤ bound + 1 ∧
      (R.withType place description spec).schema.validType (R.nextType (place + 1)) = false := by
  have hsucc := succ_toNat hplace hbound
  obtain ⟨hahead, hwithin, hstop⟩ := next_free (p := fun info : TypeInfo => info.name != "") (v := R.schema.kTypeInfo)
    (show (place + 1).toNat ≤ bound + 1 by omega) (Nat.le_succ_of_le hrows) hbound
  have hahead : place.toNat < (R.nextType (place + 1)).toNat := Nat.lt_of_lt_of_le (by omega) hahead
  refine ⟨hahead, hwithin, Bool.eq_false_iff.mpr fun hvalid => ?_⟩
  obtain ⟨row, hrow, hnamed⟩ := Schema.validType_iff.mp hvalid
  rcases of_getElem?_set_growFor (ne_last hplace hbound) hrow with hold | hfiller | ⟨hsame, -⟩
  · exact hnamed (bne_eq_false_iff_eq.mp (hstop row hold))
  · exact hnamed (congrArg TypeInfo.name hfiller)
  · exact absurd hsame (Nat.ne_of_gt hahead)

/-- All types are registered exactly if they can be, one after the other. -/
theorem registerTypeTexts_ok_iff {ids : Map String UInt32} {rusts : List String}
    (hids : ∀ rust, (ids.lookup rust).isSome = rusts.contains rust) (objs : List Bytes) {next : UInt32} {taken : List String}
    {bound : Nat} (hvalid : ∀ rust ep, ids.lookup rust = some ep → R.schema.validEndpoint ep = true)
    (hfree : R.schema.validType next = false) (hhigh : 100 ≤ next.toNat) (hnext : next.toNat ≤ bound)
    (hrows : R.schema.kTypeInfo.length ≤ bound) (hbound : bound + objs.length < 2 ^ 32) (htaken : R.TypesTaken taken) :
    (registerTypeTexts ids objs next R).1 = .returned SEDS_OK ↔ typesFit rusts (objs.map jsonType) taken = true := by
  induction objs generalizing next taken bound R with
  | nil => exact ⟨fun _ => rfl, fun _ => rfl⟩
  | cons obj objs ih =>
    rw [List.length_cons] at hbound
    rw [List.map_cons, typesFit, Bool.and_eq_true]
    unfold registerTypeTexts typeFits
    dsimp only
    cases hname : (jsonType obj).name with
    | none => exact iff_of_false (by intro h; cases h) (by simp)
    | some name =>
      cases hpriority : outOfRange (jsonType obj).priority with
      | true => exact iff_of_false (by intro h; cases h) (by simp)
      | false =>
        dsimp only
        rw [if_neg Bool.false_ne_true]
        cases harray : jsonArrayValue obj "endpoints" with
        | none =>
          rw [jsonType_endpoints_none harray]
          exact iff_of_false (by intro h; cases h) (by simp)
        | some array =>
          obtain ⟨out, hout⟩ := split_of_jsonArrayValue harray
          rw [jsonType_endpoints_some harray hout]
          dsimp only
          rw [hout]
          dsimp only
          rw [filterMap_lookup_isEmpty hids]
          simp only [Option.any_some]
          cases hlisted : (out.map textOf).any rusts.contains with
          | false => exact iff_of_false (by intro h; cases h) (by simp)
          | true =>
            rw [if_neg (by decide)]
            cases hcount : ((jsonType obj).kind.getD "Static" != "Dynamic") && outOfRange (jsonType obj).count with
            | true => exact iff_of_false (by intro h; cases h) (by simp)
            | false =>
              have hself := cApiTypeId_high (S := R.schema) hhigh
              have hknows : R.knowsEndpoints ((jsonType obj).spec name ((out.map textOf).filterMap ids.lookup)) := by
                intro ep hep
                obtain ⟨rust, -, hrust⟩ := List.mem_filterMap.mp hep
                exact hvalid rust ep hrust
              rw [if_neg Bool.false_ne_true, dtypeRegisterEx_free _ hknows (by rw [hself]; exact hfree), hself]
              have hname' : (R.schema.kTypeInfo.any fun info => info.name != "" && info.name == name) = taken.contains name :=
                htaken name
              rw [show ((jsonType obj).spec name ((out.map textOf).filterMap ids.lookup)).name = name from rfl, hname']
              cases hdup : taken.contains name with
              | true => exact iff_of_false (by intro h; cases h) (by simp)
              | false =>
                rw [if_neg Bool.false_ne_true, if_neg (not_not_intro rfl)]
                obtain ⟨hahead, hwithin, hfree'⟩ := nextType_free hnext hrows (by omega) (jsonType obj).text
                  ((jsonType obj).spec name ((out.map textOf).filterMap ids.lookup))
                have hlast := ne_last hnext (show bound + 1 < 2 ^ 32 by omega)
                have hrest := ih (R := R.withType next (jsonType obj).text
                  ((jsonType obj).spec name ((out.map textOf).filterMap ids.lookup))) (fun rust ep h => hvalid rust ep h) hfree'
                  (by omega) hwithin (length_set_growFor_le hnext hrows (by omega)) (by omega) (htaken.withType hlast hfree _ _)
                refine hrest.trans ?_
                exact ⟨fun h => ⟨by simp, h⟩, fun h => h.2⟩

/-! ## What is left of a registration that fails -/

theorem endpoint_free (hroom : max 100 R.schema.kEndpointNames.length < 2 ^ 32) :
    (R.nextEndpoint 100).toNat ≤ max 100 R.schema.kEndpointNames.length ∧ R.schema.validEndpoint (R.nextEndpoint 100) = false := by
  obtain ⟨-, hwithin, hstop⟩ := next_free (p := Option.isSome) (v := R.schema.kEndpointNames)
    (show (100 : UInt32).toNat ≤ max 100 R.schema.kEndpointNames.length from Nat.le_max_left _ _) (Nat.le_max_right _ _) hroom
  refine ⟨hwithin, Bool.eq_false_iff.mpr fun hvalid => ?_⟩
  obtain ⟨name, hname⟩ := Schema.validEndpoint_iff.mp hvalid
  cases hstop _ hname

theorem type_free (hroom : max 100 R.schema.kTypeInfo.length < 2 ^ 32) :
    100 ≤ (R.nextType 100).toNat ∧ (R.nextType 100).toNat ≤ max 100 R.schema.kTypeInfo.length ∧
      R.schema.validType (R.nextType 100) = false := by
  obtain ⟨hahead, hwithin, hstop⟩ := next_free (p := fun info : TypeInfo => info.name != "") (v := R.schema.kTypeInfo)
    (show (100 : UInt32).toNat ≤ max 100 R.schema.kTypeInfo.length from Nat.le_max_left _ _) (Nat.le_max_right _ _) hroom
  refine ⟨hahead, hwithin, Bool.eq_false_iff.mpr fun hvalid => ?_⟩
  obtain ⟨row, hrow, hnamed⟩ := Schema.validType_iff.mp hvalid
  exact hnamed (bne_eq_false_iff_eq.mp (hstop row hrow))

/-- The call, by the entries of the text. -/
theorem registerSchemaJsonText_entries {text : Bytes} {eps : List JsonEndpoint} {tys : List JsonType} (heps : textEndpoints text = some eps)
    (htys : textTypes text = some tys) :
    ∃ objs : List Bytes, objs.map jsonType = tys ∧ R.registerSchemaJsonText text =
      if (registerJsonEndpoints eps (R.nextEndpoint 100) ∅ R).1 ≠ SEDS_OK then
        (.returned (registerJsonEndpoints eps (R.nextEndpoint 100) ∅ R).1, (registerJsonEndpoints eps (R.nextEndpoint 100) ∅ R).2.2)
      else
        registerTypeTexts (registerJsonEndpoints eps (R.nextEndpoint 100) ∅ R).2.1 objs
          ((registerJsonEndpoints eps (R.nextEndpoint 100) ∅ R).2.2.nextType 100)
          (registerJsonEndpoints eps (R.nextEndpoint 100) ∅ R).2.2 := by
  obtain ⟨endpointArray, hendpoints, rfl⟩ := Option.map_eq_some_iff.mp heps
  obtain ⟨typeArray, htypes, rfl⟩ := Option.map_eq_some_iff.mp htys
  refine ⟨splitTopLevelObjects typeArray, rfl, ?_⟩
  unfold registerSchemaJsonText
  rw [hendpoints, htypes]

/-- A text without one of the arrays. -/
theorem registerSchemaJsonText_missing {text : Bytes} (h : textEndpoints text = none ∨ textTypes text = none) :
    (R.registerSchemaJsonText text).2 = R := by
  unfold registerSchemaJsonText
  rcases h with h | h
  · rw [Option.map_eq_none_iff.mp h]
  · rw [Option.map_eq_none_iff.mp h]
    split
    · rename_i hsome
      cases hsome
    · rfl

/-- All entries are registered exactly if each can be. -/
theorem registerSchemaJsonText_ok_iff {text : Bytes} {eps : List JsonEndpoint} {tys : List JsonType} (hroom : R.HasRoom text)
    (heps : textEndpoints text = some eps) (htys : textTypes text = some tys) :
    (R.registerSchemaJsonText text).1 = .returned SEDS_OK ↔
      endpointsFit eps R.endpointNames = true ∧ typesFit (eps.filterMap (·.rust)) tys R.typeNames = true := by
  obtain ⟨hendpoints, htypes⟩ := hroom
  rw [heps, Option.getD_some] at hendpoints
  rw [htys, Option.getD_some] at htypes
  obtain ⟨hnext, hfree⟩ := R.endpoint_free (by omega)
  have hdone := registerJsonEndpoints_done eps ∅ hfree hnext (Nat.le_max_right _ _) hendpoints R.namesTaken_endpointNames
  obtain ⟨objs, rfl, hcall⟩ := R.registerSchemaJsonText_entries heps htys
  rw [hcall]
  generalize registerJsonEndpoints eps (R.nextEndpoint 100) ∅ R = out at hdone ⊢
  by_cases hok : out.1 = SEDS_OK
  · rw [if_neg (not_not_intro hok)]
    rw [List.length_map, ← hdone.rows] at htypes
    obtain ⟨hhigh, hnextType, hfreeType⟩ := out.2.2.type_free (by omega)
    have hknown : ∀ rust, (out.2.1.lookup rust).isSome = (eps.filterMap (·.rust)).contains rust := by
      intro rust
      rw [Bool.eq_iff_iff, List.contains_iff_mem, hdone.known hok rust, List.mem_filterMap, List.mem_map]
      exact ⟨fun h => h.resolve_left (by simp), .inr⟩
    have htaken : out.2.2.TypesTaken R.typeNames := by
      intro name
      rw [hdone.rows]
      exact R.typesTaken_typeNames name
    rw [registerTypeTexts_ok_iff hknown objs (hdone.valid fun rust ep hnone => nomatch hnone) hfreeType hhigh hnextType
      (Nat.le_max_right _ _) htypes htaken]
    exact ⟨fun h => ⟨hdone.ok_iff.mp hok, h⟩, fun h => h.2⟩
  · rw [if_pos hok]
    exact iff_of_false (fun h => hok (TextOutcome.returned.inj h)) fun h => hok (hdone.ok_iff.mpr h.1)

/-- **A schema text that is not registered leaves the registry as it was** exactly if nothing of it could be registered, or all. -/
theorem registerSchemaJsonText_atomic_iff (R : Registry) (text : Bytes) (hroom : R.HasRoom text) :
    ((R.registerSchemaJsonText text).1 ≠ .returned SEDS_OK → (R.registerSchemaJsonText text).2 = R) ↔ R.allOrNone text = true := by
  unfold allOrNone
  cases heps : textEndpoints text with
  | none => exact ⟨fun _ => rfl, fun _ _ => registerSchemaJsonText_missing (.inl heps)⟩
  | some eps =>
    cases htys : textTypes text with
    | none =>
      refine ⟨fun _ => ?_, fun _ _ => registerSchemaJsonText_missing (.inr htys)⟩
      cases eps <;> rfl
    | some tys =>
      have hok := registerSchemaJsonText_ok_iff hroom heps htys
      obtain ⟨objs, -, hcall⟩ := R.registerSchemaJsonText_entries heps htys
      cases eps with
      | nil =>
        -- there are no endpoints a type could go to
        refine ⟨fun _ => rfl, fun _ _ => ?_⟩
        rw [hcall, registerJsonEndpoints, if_neg (not_not_intro rfl)]
        exact registerTypeTexts_nobody (fun rust => rfl) objs _ R
      | cons ep eps =>
        obtain ⟨hendpoints, -⟩ := hroom
        rw [heps, Option.getD_some] at hendpoints
        obtain ⟨hnext, hfree⟩ := R.endpoint_free (by omega)
        have hdone := registerJsonEndpoints_done (ep :: eps) ∅ hfree hnext (Nat.le_max_right _ _) hendpoints
          R.namesTaken_endpointNames
        dsimp only
        rw [Bool.or_eq_true, Bool.not_eq_true', Bool.and_eq_true, ← hok]
        cases hfits : ep.fits R.endpointNames with
        | false =>
          refine ⟨fun _ => .inl rfl, fun _ _ => ?_⟩
          have hrefused : (registerJsonEndpoints (ep :: eps) (R.nextEndpoint 100) ∅ R).1 ≠ SEDS_OK := by
            rw [Ne, hdone.ok_iff, endpointsFit, hfits]
            exact Bool.false_ne_true
          rw [hcall, if_pos hrefused]
          exact hdone.refused ep rfl hfits
        | true =>
          constructor
          · intro hkept
            right
            by_contra hnot
            have hthere : (R.registerSchemaJsonText text).2.schema.validEndpoint (R.nextEndpoint 100) = true := by
              rw [hcall]
              split
              · exact hdone.first ep rfl hfits
              · unfold Schema.validEndpoint
                rw [registerTypeTexts_names]
                exact hdone.first ep rfl hfits
            rw [hkept hnot, hfree] at hthere
            cases hthere
          · exact fun h hnot => absurd (h.resolve_left fun h => nomatch h) hnot

/-- A text of one endpoint with this name, and one type that is sent to these endpoints. -/
def benchText (name : String) (endpoints : Bytes) : Bytes :=
  let quoted (text : String) := [kQuote] ++ ascii text ++ [kQuote]
  [kOpenBrace] ++ quoted "endpoints" ++ [kColon, kOpenBracket, kOpenBrace] ++
    quoted "rust" ++ [kColon] ++ quoted "Bench" ++ ascii "," ++ quoted "name" ++ [kColon] ++ quoted name ++
    [kCloseBrace, kCloseBracket] ++ ascii "," ++ quoted "types" ++ [kColon, kOpenBracket, kOpenBrace] ++
    quoted "name" ++ [kColon] ++ quoted "PROBE" ++ endpoints ++ [kCloseBrace, kCloseBracket, kCloseBrace]

/-- The name of the endpoint is taken, and the registry stays as it is. -/
theorem registerSchemaJsonText_atomic_iff_taken :
    ((new defaultTestSchema).registerSchemaJsonText (benchText "SD_CARD" [])).1 = .returned SEDS_BAD_ARG ∧
    ((new defaultTestSchema).registerSchemaJsonText (benchText "SD_CARD" [])).2 = new defaultTestSchema := by
  obtain ⟨hends, htypes, hcondition, hcode⟩ :
      max 100 (new defaultTestSchema).schema.kEndpointNames.length +
        ((textEndpoints (benchText "SD_CARD" [])).getD []).length < 2 ^ 32 ∧
      max 100 (new defaultTestSchema).schema.kTypeInfo.length + ((textTypes (benchText "SD_CARD" [])).getD []).length < 2 ^ 32 ∧
      (new defaultTestSchema).allOrNone (benchText "SD_CARD" []) = true ∧
      ((new defaultTestSchema).registerSchemaJsonText (benchText "SD_CARD" [])).1 = .returned SEDS_BAD_ARG := by
    rw [defaultTestSchema_eq]
    decide +kernel
  refine ⟨hcode, (registerSchemaJsonText_atomic_iff _ _ ⟨hends, htypes⟩).mpr hcondition ?_⟩
  rw [hcode]
  exact fun h => nomatch h

/-- The type is sent nowhere, and the endpoint has been registered. -/
theorem registerSchemaJsonText_not_atomic :
    ((new defaultTestSchema).registerSchemaJsonText (benchText "BENCH" [])).1 = .returned SEDS_DESERIALIZE ∧
    ((new defaultTestSchema).registerSchemaJsonText (benchText "BENCH" [])).2.schema.kEndpointNames ≠
      (new defaultTestSchema).schema.kEndpointNames := by
  rw [defaultTestSchema_eq]
  decide +kernel

end Registry

end SedsNet
