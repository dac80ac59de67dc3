import SedsNet.Builtins

/-!
# What is registered stays registered

`seds_endpoint_register_ex` and `seds_dtype_register_ex` of `src/upstream_api_compat.cpp` take a call that says what the tables
already say: it returns SEDS_OK and changes nothing. Registrations only add to the tables (`Extends`), so this is a matter of
what a call compares with what it has written itself. For a type these are two different descriptions: `seds_dtype_register`
compares the stored one with the empty one, before `seds_dtype_register_ex` gets to compare it with its own.
-/

set_option autoImplicit false

namespace SedsNet

open Lib

namespace Registry

variable {R R' : Registry}

/-! ## What a registration writes -/

/-- The registry with a new endpoint. -/
def withEndpoint (R : Registry) (endpoint : UInt32) (name description : String) (linkLocalOnly : Bool) : Registry :=
  { R with
    schema := { R.schema with
      kEndpointNames := (growFor R.schema.kEndpointNames endpoint none).set endpoint.toNat (some (cString name)) }
    endpointDescriptions := R.endpointDescriptions.insert endpoint description
    endpointLinkLocal := R.endpointLinkLocal.insert endpoint linkLocalOnly }

/-- The registry with a new type. -/
def withType (R : Registry) (place : UInt32) (description : String) (spec : TypeSpec) : Registry :=
  { R with
    schema := { R.schema with kTypeInfo := (growFor R.schema.kTypeInfo place .empty).set place.toNat spec.row }
    typeDescriptions := R.typeDescriptions.insert place description
    typePriorities := R.typePriorities.insert place spec.priority }

section

variable {endpoint place : UInt32} {name description : String} {linkLocalOnly : Bool} {spec : TypeSpec}

@[simp] theorem withEndpoint_description :
    (R.withEndpoint endpoint name description linkLocalOnly).endpointDescription endpoint = description := by
  unfold endpointDescription withEndpoint
  rw [AList.lookup_insert, Option.getD_some]

@[simp] theorem withEndpoint_flag : (R.withEndpoint endpoint name description linkLocalOnly).endpointFlag endpoint = linkLocalOnly := by
  unfold endpointFlag withEndpoint
  rw [AList.lookup_insert, Option.getD_some]

@[simp] theorem withType_description : (R.withType place description spec).typeDescription place = description := by
  unfold typeDescription withType
  rw [AList.lookup_insert, Option.getD_some]

@[simp] theorem withType_priority : (R.withType place description spec).typePriority place = spec.priority := by
  unfold typePriority withType
  rw [AList.lookup_insert, Option.getD_some]

end

theorem endpointRegisterEx_taken {endpoint : UInt32} {old : String}
    (hold : R.schema.kEndpointNames[endpoint.toNat]? = some (some old)) (name description : String) (linkLocalOnly : Bool) :
    R.endpointRegisterEx endpoint name description linkLocalOnly =
      (if name = old ∧ description = R.endpointDescription endpoint ∧ linkLocalOnly = R.endpointFlag endpoint then SEDS_OK
       else SEDS_BAD_ARG, R) := by
  unfold endpointRegisterEx
  rw [hold]
  dsimp only
  split
  · rfl
  · rfl

theorem endpointRegisterEx_free {endpoint : UInt32} (hfree : R.schema.validEndpoint endpoint = false)
    (name description : String) (linkLocalOnly : Bool) :
    R.endpointRegisterEx endpoint name description linkLocalOnly =
      if R.schema.kEndpointNames.contains (some name) then (SEDS_BAD_ARG, R)
      else (SEDS_OK, R.withEndpoint endpoint name description linkLocalOnly) := by
  unfold endpointRegisterEx
  split
  · rename_i old hold
    rw [Schema.validEndpoint_iff.mpr ⟨old, hold⟩] at hfree
    cases hfree
  · rfl

/-- The endpoints of a type have to be there. -/
def knowsEndpoints (R : Registry) (spec : TypeSpec) : Prop := ∀ ep ∈ spec.endpoints, R.schema.validEndpoint ep = true

theorem any_unknown_eq_false {spec : TypeSpec} (h : R.knowsEndpoints spec) :
    (spec.endpoints.any fun ep => !R.schema.validEndpoint ep) = false := by
  rw [List.any_eq_false]
  intro ep hep
  rw [h ep hep]
  exact Bool.false_ne_true

theorem dtypeRegister_unknown {ty : UInt32} {spec : TypeSpec} (h : ¬ R.knowsEndpoints spec) :
    R.dtypeRegister ty spec = (SEDS_BAD_ARG, R) := by
  unfold dtypeRegister
  dsimp only
  rw [if_pos]
  unfold knowsEndpoints at h
  push Not at h
  obtain ⟨ep, hep, hunknown⟩ := h
  exact List.any_eq_true.mpr ⟨ep, hep, by simpa using hunknown⟩

theorem dtypeRegister_taken {ty : UInt32} {spec : TypeSpec} (hknows : R.knowsEndpoints spec)
    (htaken : R.schema.validType (R.schema.cApiTypeId ty) = true) :
    R.dtypeRegister ty spec =
      (if spec.describes (R.schema.typeAt (R.schema.cApiTypeId ty).toNat) ∧ R.typePriority (R.schema.cApiTypeId ty) = spec.priority ∧
          R.typeDescription (R.schema.cApiTypeId ty) = "" then SEDS_OK else SEDS_BAD_ARG, R) := by
  unfold dtypeRegister
  dsimp only
  rw [any_unknown_eq_false hknows, if_neg Bool.false_ne_true, if_pos htaken]
  simp only [Bool.and_eq_true, beq_iff_eq, and_assoc]
  split
  · rfl
  · rfl

theorem dtypeRegister_free {ty : UInt32} {spec : TypeSpec} (hknows : R.knowsEndpoints spec)
    (hfree : R.schema.validType (R.schema.cApiTypeId ty) = false) :
    R.dtypeRegister ty spec =
      if R.schema.kTypeInfo.any (fun info => info.name != "" && info.name == spec.name) then (SEDS_BAD_ARG, R)
      else (SEDS_OK, R.withType (R.schema.cApiTypeId ty) "" spec) := by
  unfold dtypeRegister
  dsimp only
  rw [any_unknown_eq_false hknows, if_neg Bool.false_ne_true, hfree, if_neg Bool.false_ne_true]
  rfl

theorem dtypeRegisterEx_unknown {ty : UInt32} (description : String) {spec : TypeSpec} (h : ¬ R.knowsEndpoints spec) :
    R.dtypeRegisterEx ty description spec = (SEDS_BAD_ARG, R) := by
  unfold dtypeRegisterEx
  rw [dtypeRegister_unknown h]
  rfl

theorem dtypeRegisterEx_taken {ty : UInt32} (description : String) {spec : TypeSpec} (hknows : R.knowsEndpoints spec)
    (htaken : R.schema.validType (R.schema.cApiTypeId ty) = true) :
    R.dtypeRegisterEx ty description spec =
      (if spec.describes (R.schema.typeAt (R.schema.cApiTypeId ty).toNat) ∧ R.typePriority (R.schema.cApiTypeId ty) = spec.priority ∧
          R.typeDescription (R.schema.cApiTypeId ty) = "" ∧ description = "" then SEDS_OK else SEDS_BAD_ARG, R) := by
  unfold dtypeRegisterEx
  dsimp only
  rw [dtypeRegister_taken hknows htaken, htaken]
  dsimp only
  by_cases hsame : spec.describes (R.schema.typeAt (R.schema.cApiTypeId ty).toNat) = true ∧
      R.typePriority (R.schema.cApiTypeId ty) = spec.priority ∧ R.typeDescription (R.schema.cApiTypeId ty) = ""
  · rw [if_pos hsame, if_neg (not_not_intro rfl), if_pos rfl, hsame.2.2]
    congr 1
    simp only [hsame.1, hsame.2.1, hsame.2.2, true_and, eq_comm]
  · rw [if_neg hsame, if_pos (by decide), if_neg]
    exact fun h => hsame ⟨h.1, h.2.1, h.2.2.1⟩

theorem dtypeRegisterEx_free {ty : UInt32} (description : String) {spec : TypeSpec} (hknows : R.knowsEndpoints spec)
    (hfree : R.schema.validType (R.schema.cApiTypeId ty) = false) :
    R.dtypeRegisterEx ty description spec =
      if R.schema.kTypeInfo.any (fun info => info.name != "" && info.name == spec.name) then (SEDS_BAD_ARG, R)
      else (SEDS_OK, R.withType (R.schema.cApiTypeId ty) description spec) := by
  unfold dtypeRegisterEx
  dsimp only
  rw [dtypeRegister_free hknows hfree, hfree]
  split
  · rfl
  · dsimp only
    rw [if_neg (not_not_intro rfl), if_neg Bool.false_ne_true]
    unfold withType
    dsimp only
    rw [AList.insert_insert]

/-! ## Registrations add -/

/-- What the tables and maps say of the entries of `R` they say in `R'`. -/
structure Extends (R R' : Registry) : Prop where
  endpoint : ∀ (ep : UInt32) (name : String), R.schema.kEndpointNames[ep.toNat]? = some (some name) →
    R'.schema.kEndpointNames[ep.toNat]? = some (some name) ∧ R'.endpointDescription ep = R.endpointDescription ep ∧
      R'.endpointFlag ep = R.endpointFlag ep
  type : ∀ ty : UInt32, R.schema.validType ty = true →
    R'.schema.kTypeInfo[ty.toNat]? = R.schema.kTypeInfo[ty.toNat]? ∧ R'.typeDescription ty = R.typeDescription ty ∧
      R'.typePriority ty = R.typePriority ty
  place : ∀ ty : UInt32, R.schema.validType (R.schema.cApiTypeId ty) = true → R'.schema.cApiTypeId ty = R.schema.cApiTypeId ty
  fits : R'.schema.kTypeInfo.length ≤ 2 ^ 32

namespace Extends

theorem refl (hfits : R.schema.kTypeInfo.length ≤ 2 ^ 32) : R.Extends R :=
  ⟨fun _ _ h => ⟨h, rfl, rfl⟩, fun _ _ => ⟨rfl, rfl, rfl⟩, fun _ _ => rfl, hfits⟩

theorem validType (h : R.Extends R') {ty : UInt32} (hvalid : R.schema.validType ty = true) : R'.schema.validType ty = true := by
  obtain ⟨row, hrow, hname⟩ := Schema.validType_iff.mp hvalid
  exact Schema.validType_iff.mpr ⟨row, (h.type ty hvalid).1.trans hrow, hname⟩

theorem validEndpoint (h : R.Extends R') {ep : UInt32} (hvalid : R.schema.validEndpoint ep = true) :
    R'.schema.validEndpoint ep = true := by
  obtain ⟨name, hname⟩ := Schema.validEndpoint_iff.mp hvalid
  exact Schema.validEndpoint_iff.mpr ⟨name, (h.endpoint ep name hname).1⟩

theorem knowsEndpoints (h : R.Extends R') {spec : TypeSpec} (hknows : R.knowsEndpoints spec) : R'.knowsEndpoints spec :=
  fun ep hep => h.validEndpoint (hknows ep hep)

theorem trans {R'' : Registry} (h : R.Extends R') (h' : R'.Extends R'') : R.Extends R'' where
  endpoint ep name hname := by
    obtain ⟨hname', hdescription, hflag⟩ := h.endpoint ep name hname
    obtain ⟨hname'', hdescription', hflag'⟩ := h'.endpoint ep name hname'
    exact ⟨hname'', hdescription'.trans hdescription, hflag'.trans hflag⟩
  type ty hvalid := by
    obtain ⟨hrow, hdescription, hpriority⟩ := h.type ty hvalid
    obtain ⟨hrow', hdescription', hpriority'⟩ := h'.type ty (h.validType hvalid)
    exact ⟨hrow'.trans hrow, hdescription'.trans hdescription, hpriority'.trans hpriority⟩
  place ty hvalid := by
    have hplace := h.place ty hvalid
    have hvalid' := h.validType hvalid
    rw [← hplace] at hvalid'
    rw [h'.place ty hvalid', hplace]
  fits := h'.fits

end Extends

/-- An id is looked up by name, or stands for itself. -/
theorem cApiTypeId_of_free {S : Schema} (hfits : S.kTypeInfo.length ≤ 2 ^ 32) {ty : UInt32}
    (hfree : S.validType (S.cApiTypeId ty) = false) : S.cApiTypeId ty = ty := by
  unfold Schema.cApiTypeId at hfree ⊢
  split
  · rfl
  · rename_i hself
    rw [if_neg hself] at hfree
    cases hwire : Schema.v4TypeNames[ty.toNat]? with
    | none => rfl
    | some name =>
      rw [hwire] at hfree
      dsimp only at hfree ⊢
      cases hplace : S.kTypeInfo.findIdx? fun info => info.name == name with
      | none => rw [Schema.typeByName, hplace]; rfl
      | some i =>
        obtain ⟨hlt, hnamed, -⟩ := List.findIdx?_eq_some_iff_getElem.mp hplace
        have hvalid : S.validType (UInt32.ofNat i) = true := by
          rw [Schema.validType_iff, UInt32.toNat_ofNat_of_lt' (Nat.lt_of_lt_of_le hlt hfits)]
          refine ⟨_, List.getElem?_eq_getElem hlt, ?_⟩
          rw [eq_of_beq hnamed]
          exact v4TypeNames_ne_empty name (List.mem_of_getElem? hwire)
        rw [Schema.typeByName, hplace] at hfree
        rw [Option.map_some, Option.getD_some, hvalid] at hfree
        cases hfree

theorem length_set_growFor {α : Type} {v : List α} {i : UInt32} {filler x : α} (hi : i ≠ 0xFFFFFFFF) (hv : v.length ≤ 2 ^ 32) :
    ((growFor v i filler).set i.toNat x).length ≤ 2 ^ 32 := by
  have hlt := i.toNat_lt
  rw [growFor_eq hi, List.length_set, List.length_append, List.length_replicate]
  omega

theorem withEndpoint_extends (hfits : R.schema.kTypeInfo.length ≤ 2 ^ 32) {endpoint : UInt32} (hlast : endpoint ≠ 0xFFFFFFFF)
    (hfree : R.schema.validEndpoint endpoint = false) (name description : String) (linkLocalOnly : Bool) :
    R.Extends (R.withEndpoint endpoint name description linkLocalOnly) where
  endpoint ep old hold := by
    have hne : ep ≠ endpoint := by
      rintro rfl
      rw [Schema.validEndpoint_iff.mpr ⟨old, hold⟩] at hfree
      cases hfree
    have hplace : ep.toNat ≠ endpoint.toNat := fun h => hne (UInt32.toNat_inj.mp h)
    refine ⟨getElem?_set_growFor hlast hplace hold, ?_, ?_⟩
    · exact congrArg (fun d => Option.getD d "") (AList.lookup_insert_ne hne)
    · exact congrArg (fun d => Option.getD d false) (AList.lookup_insert_ne hne)
  type _ _ := ⟨rfl, rfl, rfl⟩
  place _ _ := rfl
  fits := hfits

/-- The names of handlers' endpoints. -/
theorem ensureHandlerEndpoint_extends (hfits : R.schema.kTypeInfo.length ≤ 2 ^ 32) {endpoint : UInt32}
    (hlast : endpoint ≠ 0xFFFFFFFF) : R.Extends (R.ensureHandlerEndpoint endpoint) := by
  unfold ensureHandlerEndpoint
  split
  · exact .refl hfits
  · rename_i hfree
    refine ⟨fun ep old hold => ⟨getElem?_set_growFor hlast ?_ hold, rfl, rfl⟩, fun _ _ => ⟨rfl, rfl, rfl⟩, fun _ _ => rfl, hfits⟩
    intro hplace
    rw [UInt32.toNat_inj.mp hplace] at hold
    exact hfree (Schema.validEndpoint_iff.mpr ⟨old, hold⟩)

/-- A row comes to a free place, under a name no row has. -/
theorem withType_extends (hfits : R.schema.kTypeInfo.length ≤ 2 ^ 32) {ty : UInt32} (hlast : ty ≠ 0xFFFFFFFF)
    (hfree : R.schema.validType (R.schema.cApiTypeId ty) = false) {spec : TypeSpec} (hname : cString spec.name = spec.name)
    (hfresh : ∀ info ∈ R.schema.kTypeInfo, info.name ≠ "" → info.name ≠ spec.name) (description : String) :
    R.Extends (R.withType (R.schema.cApiTypeId ty) description spec) := by
  have hplace := cApiTypeId_of_free hfits hfree
  rw [hplace] at hfree ⊢
  have hfreeRow : ∀ k row, R.schema.kTypeInfo[k]? = some row → row.name ≠ "" → k ≠ ty.toNat := by
    rintro k row hrow hnamed rfl
    rw [Schema.validType_iff.mpr ⟨row, hrow, hnamed⟩] at hfree
    cases hfree
  refine ⟨fun _ _ h => ⟨h, rfl, rfl⟩, ?_, ?_, length_set_growFor hlast hfits⟩
  · intro other hvalid
    obtain ⟨row, hrow, hnamed⟩ := Schema.validType_iff.mp hvalid
    have hne : other ≠ ty := by
      rintro rfl
      rw [hvalid] at hfree
      cases hfree
    refine ⟨(getElem?_set_growFor hlast (hfreeRow _ row hrow hnamed) hrow).trans hrow.symm, ?_, ?_⟩
    · exact congrArg (fun d => Option.getD d "") (AList.lookup_insert_ne hne)
    · exact congrArg (fun p => Option.getD p 0) (AList.lookup_insert_ne hne)
  · intro other hvalid
    have hfreeOther : R.schema.validType other = false →
        (R.withType ty description spec).schema.validType other = false := by
      intro hother
      rw [Bool.eq_false_iff]
      intro hvalid'
      obtain ⟨row, hrow, hnamed⟩ := Schema.validType_iff.mp hvalid'
      rcases of_getElem?_set_growFor hlast hrow with hold | hfiller | ⟨hsame, -⟩
      · rw [Schema.validType_iff.mpr ⟨row, hold, hnamed⟩] at hother
        cases hother
      · exact hnamed (congrArg TypeInfo.name hfiller)
      · rw [UInt32.toNat_inj.mp hsame, hplace, hfree] at hvalid
        cases hvalid
    cases hself : R.schema.validType other with
    | true =>
      have hrow := Schema.validType_iff.mp hself
      obtain ⟨row, hrow, hnamed⟩ := hrow
      have hself' : (R.withType ty description spec).schema.validType other = true :=
        Schema.validType_iff.mpr ⟨row, getElem?_set_growFor hlast (hfreeRow _ row hrow hnamed) hrow, hnamed⟩
      unfold Schema.cApiTypeId
      rw [hself, hself', if_pos rfl, if_pos rfl]
    | false =>
      have hself' := hfreeOther hself
      unfold Schema.cApiTypeId at hvalid ⊢
      rw [hself, if_neg Bool.false_ne_true] at hvalid
      rw [hself, hself', if_neg Bool.false_ne_true, if_neg Bool.false_ne_true]
      cases hwire : Schema.v4TypeNames[other.toNat]? with
      | none => rfl
      | some name =>
        rw [hwire] at hvalid
        dsimp only at hvalid ⊢
        cases hfound : R.schema.kTypeInfo.findIdx? fun info => info.name == name with
        | none =>
          rw [Schema.typeByName, hfound, Option.map_none, Option.getD_none, hself] at hvalid
          cases hvalid
        | some k =>
          obtain ⟨hlt, hnamed, -⟩ := List.findIdx?_eq_some_iff_getElem.mp hfound
          obtain ⟨i, row, -, hfirst⟩ := Schema.FirstNamed.of_row (List.getElem?_eq_getElem hlt) (eq_of_beq hnamed)
          have hbuiltin := v4TypeNames_ne_empty name (List.mem_of_getElem? hwire)
          have hnameRow : row.name ≠ "" := by
            rw [hfirst.named]
            exact hbuiltin
          have hkept : (R.withType ty description spec).schema.FirstNamed name i row := by
            refine hfirst.keep (getElem?_set_growFor hlast (hfreeRow _ row hfirst.there hnameRow) hfirst.there) ?_
            intro j _ row' hrow'
            rcases of_getElem?_set_growFor hlast hrow' with hold | hfiller | ⟨-, hnew⟩
            · exact .inl hold
            · refine .inr fun h => hbuiltin ?_
              rw [← h, hfiller]
              rfl
            · -- the new row has no name that is in use
              refine .inr fun h => hfresh row (List.mem_of_getElem? hfirst.there) hnameRow ?_
              rw [hfirst.named, ← h, hnew]
              exact hname
          rw [hfirst.typeByName, hkept.typeByName]

/-- A call that adds to the tables: its id has a successor, and its name is read whole by C. -/
def Registers : Op → Prop
  | .endpointRegisterEx endpoint _ _ _ => endpoint ≠ 0xFFFFFFFF
  | .ensureHandlerEndpoint endpoint => endpoint ≠ 0xFFFFFFFF
  | .dtypeRegister ty spec => ty ≠ 0xFFFFFFFF ∧ cString spec.name = spec.name
  | .dtypeRegisterEx ty _ spec => ty ≠ 0xFFFFFFFF ∧ cString spec.name = spec.name
  | _ => False

theorem any_named_eq_false {rows : List TypeInfo} {name : String}
    (h : ¬ (rows.any fun info => info.name != "" && info.name == name) = true) : ∀ info ∈ rows, info.name ≠ "" → info.name ≠ name := by
  intro info hinfo hnamed hsame
  refine h (List.any_eq_true.mpr ⟨info, hinfo, ?_⟩)
  rw [bne_iff_ne.mpr hnamed, hsame]
  exact beq_self_eq_true name

theorem dtypeRegister_extends (hfits : R.schema.kTypeInfo.length ≤ 2 ^ 32) {ty : UInt32} (hlast : ty ≠ 0xFFFFFFFF)
    {spec : TypeSpec} (hname : cString spec.name = spec.name) : R.Extends (R.dtypeRegister ty spec).2 := by
  by_cases hknows : R.knowsEndpoints spec
  · cases htaken : R.schema.validType (R.schema.cApiTypeId ty) with
    | true =>
      rw [dtypeRegister_taken hknows htaken]
      exact .refl hfits
    | false =>
      rw [dtypeRegister_free hknows htaken]
      split
      · exact .refl hfits
      · rename_i hnew
        exact withType_extends hfits hlast htaken hname (any_named_eq_false hnew) ""
  · rw [dtypeRegister_unknown hknows]
    exact .refl hfits

theorem dtypeRegisterEx_extends (hfits : R.schema.kTypeInfo.length ≤ 2 ^ 32) {ty : UInt32} (hlast : ty ≠ 0xFFFFFFFF)
    (description : String) {spec : TypeSpec} (hname : cString spec.name = spec.name) :
    R.Extends (R.dtypeRegisterEx ty description spec).2 := by
  by_cases hknows : R.knowsEndpoints spec
  · cases htaken : R.schema.validType (R.schema.cApiTypeId ty) with
    | true =>
      rw [dtypeRegisterEx_taken description hknows htaken]
      exact .refl hfits
    | false =>
      rw [dtypeRegisterEx_free description hknows htaken]
      split
      · exact .refl hfits
      · rename_i hnew
        exact withType_extends hfits hlast htaken hname (any_named_eq_false hnew) description
  · rw [dtypeRegisterEx_unknown description hknows]
    exact .refl hfits

theorem step_extends (hfits : R.schema.kTypeInfo.length ≤ 2 ^ 32) {op : Op} (hop : Registers op) : R.Extends (R.step op) := by
  cases op with
  | endpointRegisterEx endpoint name description linkLocalOnly =>
    show R.Extends (R.endpointRegisterEx endpoint name description linkLocalOnly).2
    cases htaken : R.schema.validEndpoint endpoint with
    | true =>
      obtain ⟨old, hold⟩ := Schema.validEndpoint_iff.mp htaken
      rw [endpointRegisterEx_taken hold]
      exact .refl hfits
    | false =>
      rw [endpointRegisterEx_free htaken]
      split
      · exact .refl hfits
      · exact withEndpoint_extends hfits hop htaken _ _ _
  | ensureHandlerEndpoint endpoint => exact ensureHandlerEndpoint_extends hfits hop
  | dtypeRegister ty spec => exact dtypeRegister_extends hfits hop.1 hop.2
  | dtypeRegisterEx ty description spec => exact dtypeRegisterEx_extends hfits hop.1 description hop.2
  | _ => exact hop.elim

/-- **However much is registered, what is there stays.** -/
theorem run_extends (hfits : R.schema.kTypeInfo.length ≤ 2 ^ 32) {ops : List Op} (hops : ∀ op ∈ ops, Registers op) :
    R.Extends (R.run ops) := by
  induction ops generalizing R with
  | nil => exact .refl hfits
  | cons op ops ih =>
    have hstep := step_extends hfits (hops op List.mem_cons_self)
    exact hstep.trans (ih hstep.fits fun op' hop' => hops op' (List.mem_cons_of_mem _ hop'))

/-! ## The same call again -/

/-- A call of one of the two extended functions. -/
inductive Registration where
  | endpoint (endpoint : UInt32) (name description : String) (linkLocalOnly : Bool)
  | dtype (ty : UInt32) (description : String) (spec : TypeSpec)

def register (R : Registry) : Registration → SedsResult × Registry
  | .endpoint endpoint name description linkLocalOnly => R.endpointRegisterEx endpoint name description linkLocalOnly
  | .dtype ty description spec => R.dtypeRegisterEx ty description spec

/-- The id is taken. -/
def Knows (R : Registry) : Registration → Prop
  | .endpoint endpoint _ _ _ => R.schema.validEndpoint endpoint = true
  | .dtype ty _ _ => R.schema.validType (R.schema.cApiTypeId ty) = true

/-- What the call writes is what it compares with: the id has a successor, the name is read whole by C, and a type has a name
    and no description. -/
def Repeatable : Registration → Prop
  | .endpoint endpoint name _ _ => endpoint ≠ 0xFFFFFFFF ∧ cString name = name
  | .dtype ty description spec => ty ≠ 0xFFFFFFFF ∧ cString spec.name = spec.name ∧ spec.name ≠ "" ∧ description = ""

instance (R : Registry) : (c : Registration) → Decidable (R.Knows c)
  | .endpoint endpoint _ _ _ => inferInstanceAs (Decidable (R.schema.validEndpoint endpoint = true))
  | .dtype ty _ _ => inferInstanceAs (Decidable (R.schema.validType (R.schema.cApiTypeId ty) = true))

instance : (c : Registration) → Decidable (Repeatable c)
  | .endpoint endpoint name _ _ => inferInstanceAs (Decidable (endpoint ≠ 0xFFFFFFFF ∧ cString name = name))
  | .dtype ty description spec =>
    inferInstanceAs (Decidable (ty ≠ 0xFFFFFFFF ∧ cString spec.name = spec.name ∧ spec.name ≠ "" ∧ description = ""))

theorem ok_of_ite {p : Prop} [Decidable p] (h : (if p then SEDS_OK else SEDS_BAD_ARG) = SEDS_OK) : p := by
  by_contra hp
  rw [if_neg hp] at h
  exact absurd h (by decide)

/-- What is known is confirmed, now and after every registration. -/
theorem register_known {c : Registration} (hknown : R.Knows c) (hok : (R.register c).1 = SEDS_OK) (hextends : R.Extends R') :
    R.register c = (SEDS_OK, R) ∧ R'.register c = (SEDS_OK, R') := by
  cases c with
  | endpoint endpoint name description linkLocalOnly =>
    obtain ⟨old, hold⟩ := Schema.validEndpoint_iff.mp hknown
    obtain ⟨hold', hdescription, hflag⟩ := hextends.endpoint endpoint old hold
    unfold register at hok ⊢
    dsimp only at hok ⊢
    rw [endpointRegisterEx_taken hold] at hok ⊢
    have hsame := ok_of_ite hok
    rw [endpointRegisterEx_taken hold', hdescription, hflag, if_pos hsame]
    exact ⟨rfl, rfl⟩
  | dtype ty description spec =>
    have htaken : R.schema.validType (R.schema.cApiTypeId ty) = true := hknown
    unfold register at hok ⊢
    dsimp only at hok ⊢
    by_cases hknows : R.knowsEndpoints spec
    · obtain ⟨hrow, hdescription, hpriority⟩ := hextends.type _ htaken
      have htaken' := hextends.validType htaken
      rw [← hextends.place ty htaken] at htaken'
      have hat : R'.schema.typeAt (R.schema.cApiTypeId ty).toNat = R.schema.typeAt (R.schema.cApiTypeId ty).toNat := by
        unfold Schema.typeAt
        rw [List.getD_eq_getElem?_getD, List.getD_eq_getElem?_getD, hrow]
      rw [dtypeRegisterEx_taken description hknows htaken] at hok ⊢
      have hsame := ok_of_ite hok
      rw [dtypeRegisterEx_taken description (hextends.knowsEndpoints hknows) htaken', hextends.place ty htaken, hat, hdescription,
        hpriority, if_pos hsame]
      exact ⟨rfl, rfl⟩
    · rw [dtypeRegisterEx_unknown description hknows] at hok
      exact absurd hok (show SEDS_BAD_ARG ≠ SEDS_OK by decide)

theorem getElem?_set_growFor_self {α : Type} {v : List α} {i : UInt32} {filler x : α} (hi : i ≠ 0xFFFFFFFF) :
    ((growFor v i filler).set i.toNat x)[i.toNat]? = some x := by
  rw [growFor_eq hi, List.getElem?_set_self]
  rw [List.length_append, List.length_replicate]
  omega

/-- The row of a specification is described by it. -/
theorem describes_row {spec : TypeSpec} (hname : cString spec.name = spec.name) : spec.describes spec.row = true := by
  unfold TypeSpec.describes TypeSpec.row
  rw [hname]
  simp

/-- A repeatable call that has added its entry is confirmed at once. -/
theorem register_new {c : Registration} (hfits : R.schema.kTypeInfo.length ≤ 2 ^ 32) (hnew : ¬ R.Knows c)
    (hok : (R.register c).1 = SEDS_OK) (hrepeatable : Repeatable c) :
    (R.register c).2.schema.kTypeInfo.length ≤ 2 ^ 32 ∧ (R.register c).2.Knows c ∧
      ((R.register c).2.register c).1 = SEDS_OK := by
  cases c with
  | endpoint endpoint name description linkLocalOnly =>
    obtain ⟨hlast, hname⟩ := hrepeatable
    have hfree : R.schema.validEndpoint endpoint = false := Bool.eq_false_of_not_eq_true hnew
    unfold register at hok ⊢
    dsimp only at hok ⊢
    rw [endpointRegisterEx_free hfree] at hok ⊢
    split at hok
    · exact absurd hok (show SEDS_BAD_ARG ≠ SEDS_OK by decide)
    · rename_i hfresh
      rw [if_neg hfresh]
      have hplaced : (R.withEndpoint endpoint name description linkLocalOnly).schema.kEndpointNames[endpoint.toNat]? =
          some (some (cString name)) := getElem?_set_growFor_self hlast
      refine ⟨hfits, Schema.validEndpoint_iff.mpr ⟨_, hplaced⟩, ?_⟩
      rw [endpointRegisterEx_taken hplaced, if_pos]
      exact ⟨hname.symm, withEndpoint_description.symm, withEndpoint_flag.symm⟩
  | dtype ty description spec =>
    obtain ⟨hlast, hname, hnamed, rfl⟩ := hrepeatable
    have hfree : R.schema.validType (R.schema.cApiTypeId ty) = false := Bool.eq_false_of_not_eq_true hnew
    unfold register at hok ⊢
    dsimp only at hok ⊢
    by_cases hknows : R.knowsEndpoints spec
    · rw [dtypeRegisterEx_free "" hknows hfree] at hok ⊢
      rw [cApiTypeId_of_free hfits hfree] at hok ⊢
      split at hok
      · exact absurd hok (show SEDS_BAD_ARG ≠ SEDS_OK by decide)
      · rename_i hfresh
        rw [if_neg hfresh]
        have hplaced : (R.withType ty "" spec).schema.kTypeInfo[ty.toNat]? = some spec.row := getElem?_set_growFor_self hlast
        have htaken : (R.withType ty "" spec).schema.validType ty = true :=
          Schema.validType_iff.mpr ⟨_, hplaced, by rw [show spec.row.name = cString spec.name from rfl, hname]; exact hnamed⟩
        have hplace : (R.withType ty "" spec).schema.cApiTypeId ty = ty := by
          unfold Schema.cApiTypeId
          rw [if_pos htaken]
        have hat : (R.withType ty "" spec).schema.typeAt ty.toNat = spec.row := by
          unfold Schema.typeAt
          rw [List.getD_eq_getElem?_getD, hplaced, Option.getD_some]
        refine ⟨length_set_growFor hlast hfits, ?_, ?_⟩
        · show (R.withType ty "" spec).schema.validType ((R.withType ty "" spec).schema.cApiTypeId ty) = true
          rw [hplace]
          exact htaken
        · rw [dtypeRegisterEx_taken "" (R := R.withType ty "" spec) hknows (by rw [hplace]; exact htaken), hplace, hat, if_pos]
          exact ⟨describes_row hname, withType_priority, withType_description, rfl⟩
    · rw [dtypeRegisterEx_unknown "" hknows] at hok
      exact absurd hok (show SEDS_BAD_ARG ≠ SEDS_OK by decide)

/-! ## Calls that are not repeatable -/

/-- The last id has no successor: the table is resized to nothing. -/
theorem growFor_last {α : Type} {v : List α} {filler : α} (hv : v.length < 2 ^ 32) : growFor v 0xFFFFFFFF filler = [] := by
  have hlast : (0xFFFFFFFF : UInt32).toNat = 4294967295 := rfl
  unfold growFor
  have hsucc : ((0xFFFFFFFF : UInt32) + 1).toNat = 0 := rfl
  rw [if_neg (by rw [hlast]; omega), hsucc, List.take_zero, Nat.zero_sub]
  rfl

theorem exists_longer (names : List String) : ∃ n, ∀ name ∈ names, name.length < n := by
  induction names with
  | nil => exact ⟨0, fun name hname => nomatch hname⟩
  | cons name names ih =>
    obtain ⟨n, hn⟩ := ih
    refine ⟨max n (name.length + 1), fun other hother => ?_⟩
    cases hother with
    | head => exact Nat.lt_of_lt_of_le (Nat.lt_succ_self _) (Nat.le_max_right _ _)
    | tail _ hmem => exact Nat.lt_of_lt_of_le (hn other hmem) (Nat.le_max_left _ _)

/-- There is always another name. -/
theorem exists_fresh (names : List String) : ∃ name : String, cString name = name ∧ name ≠ "" ∧ name ∉ names := by
  obtain ⟨n, hn⟩ := exists_longer names
  refine ⟨String.ofList (List.replicate (n + 1) 'A'), ?_, ?_, ?_⟩
  · unfold cString
    rw [String.toList_ofList, List.takeWhile_replicate]
    rfl
  · intro hempty
    have hlist := congrArg String.toList hempty
    rw [String.toList_ofList] at hlist
    cases hlist
  · intro hmem
    have hlt := hn _ hmem
    rw [String.length_ofList, List.length_replicate] at hlt
    omega

/-- A type of no bytes, addressed to nobody. -/
def bareSpec (name : String) : TypeSpec := ⟨name, true, 0, 0, 0, 0, 0, []⟩

theorem bareSpec_added {ty : UInt32} {name : String} (hplace : R.schema.cApiTypeId ty = ty) (hfree : R.schema.validType ty = false)
    (hfresh : ∀ info ∈ R.schema.kTypeInfo, info.name ≠ name) :
    (R.dtypeRegister ty (bareSpec name)).2 = R.withType ty "" (bareSpec name) := by
  have hknows : R.knowsEndpoints (bareSpec name) := fun ep hep => nomatch hep
  rw [dtypeRegister_free hknows (by rw [hplace]; exact hfree), if_neg, hplace]
  intro hany
  obtain ⟨info, hinfo, hsame⟩ := List.any_eq_true.mp hany
  rw [Bool.and_eq_true] at hsame
  exact hfresh info hinfo (eq_of_beq hsame.2)

/-- An endpoint that is new is confirmed after every other registration only if it is repeatable. -/
theorem repeatable_of_endpoint {endpoint : UInt32} {name description : String} {linkLocalOnly : Bool}
    (hnames : R.schema.kEndpointNames.length < 2 ^ 32) (hfree : R.schema.validEndpoint endpoint = false)
    (hok : (R.endpointRegisterEx endpoint name description linkLocalOnly).1 = SEDS_OK)
    (hagain : ∀ ops : List Op, (∀ op ∈ ops, Registers op) →
      ((R.endpointRegisterEx endpoint name description linkLocalOnly).2.run ops).endpointRegisterEx endpoint name description
        linkLocalOnly = (SEDS_OK, (R.endpointRegisterEx endpoint name description linkLocalOnly).2.run ops)) :
    endpoint ≠ 0xFFFFFFFF ∧ cString name = name := by
  rw [endpointRegisterEx_free hfree] at hok hagain
  split at hok
  · exact absurd hok (show SEDS_BAD_ARG ≠ SEDS_OK by decide)
  rename_i hfresh
  rw [if_neg hfresh] at hagain
  by_cases hlast : endpoint = 0xFFFFFFFF
  · -- another endpoint is registered, and then goes with the rest of the table
    exfalso
    subst hlast
    have hgone : ∀ R : Registry, R.schema.kEndpointNames.length < 2 ^ 32 →
        (R.withEndpoint 0xFFFFFFFF name description linkLocalOnly).schema.kEndpointNames = [] := by
      intro R hlength
      show (growFor R.schema.kEndpointNames 0xFFFFFFFF none).set _ _ = []
      rw [growFor_last hlength]
      rfl
    obtain ⟨other, hother, -, hne⟩ := exists_fresh [name]
    have hadded := hagain [.endpointRegisterEx 0 other "" false] (by
      intro op hop
      rw [List.mem_singleton.mp hop]
      exact fun h => absurd h (by decide))
    have hempty := hgone R hnames
    generalize R.withEndpoint 0xFFFFFFFF name description linkLocalOnly = R₁ at hadded hempty
    have hfirst : R₁.run [.endpointRegisterEx 0 other "" false] = R₁.withEndpoint 0 other "" false := by
      have hfree₁ : R₁.schema.validEndpoint 0 = false := by
        unfold Schema.validEndpoint
        rw [hempty]
        rfl
      show (R₁.endpointRegisterEx 0 other "" false).2 = _
      rw [endpointRegisterEx_free hfree₁, hempty]
      rfl
    have hone : (R₁.withEndpoint 0 other "" false).schema.kEndpointNames = [some other] := by
      show (growFor R₁.schema.kEndpointNames 0 none).set _ (some (cString other)) = _
      rw [hempty, hother]
      rfl
    rw [hfirst] at hadded
    generalize R₁.withEndpoint 0 other "" false = R₂ at hadded hone
    have hfree₂ : R₂.schema.validEndpoint 0xFFFFFFFF = false := by
      unfold Schema.validEndpoint
      rw [hone]
      rfl
    have hnew : R₂.schema.kEndpointNames.contains (some name) = false := by
      rw [hone]
      simpa using Ne.symm (List.ne_of_not_mem_cons hne)
    rw [endpointRegisterEx_free hfree₂, hnew, if_neg Bool.false_ne_true] at hadded
    have hsame := congrArg (fun p => p.2.schema.kEndpointNames) hadded
    dsimp only at hsame
    rw [hgone R₂ (by rw [hone]; exact Nat.one_lt_two_pow (by decide)), hone] at hsame
    cases hsame
  · have hsecond := hagain [] fun op hop => nomatch hop
    have hplaced : (R.withEndpoint endpoint name description linkLocalOnly).schema.kEndpointNames[endpoint.toNat]? =
        some (some (cString name)) := getElem?_set_growFor_self hlast
    change (R.withEndpoint endpoint name description linkLocalOnly).endpointRegisterEx endpoint name description linkLocalOnly = _
      at hsecond
    rw [endpointRegisterEx_taken hplaced, Prod.mk.injEq] at hsecond
    exact ⟨hlast, (ok_of_ite hsecond.1).1.symm⟩

/-- A named row at its place is found there. -/
theorem placed_row {ty : UInt32} {row : TypeInfo} (hrow : R.schema.kTypeInfo[ty.toNat]? = some row) (hnamed : row.name ≠ "") :
    R.schema.validType ty = true ∧ R.schema.cApiTypeId ty = ty ∧ R.schema.typeAt ty.toNat = row := by
  have htaken : R.schema.validType ty = true := Schema.validType_iff.mpr ⟨row, hrow, hnamed⟩
  refine ⟨htaken, ?_, ?_⟩
  · unfold Schema.cApiTypeId
    rw [if_pos htaken]
  · unfold Schema.typeAt
    rw [List.getD_eq_getElem?_getD, hrow, Option.getD_some]

/-- A row without a name leaves its place free. -/
theorem withType_unnamed {ty : UInt32} {spec : TypeSpec} (hfits : R.schema.kTypeInfo.length < 2 ^ 32) (hlast : ty ≠ 0xFFFFFFFF)
    (hself : R.schema.cApiTypeId ty = ty) (hfree : R.schema.validType ty = false) (hempty : cString spec.name = "")
    (description : String) :
    (R.withType ty description spec).schema.cApiTypeId ty = ty ∧ (R.withType ty description spec).schema.validType ty = false := by
  have hnamed : ∀ (k : Nat) (row : TypeInfo), (R.withType ty description spec).schema.kTypeInfo[k]? = some row → row.name ≠ "" →
      R.schema.kTypeInfo[k]? = some row := by
    intro k row hrow hnamed
    rcases of_getElem?_set_growFor hlast hrow with hold | hfiller | ⟨-, hnew⟩
    · exact hold
    · exact absurd (congrArg TypeInfo.name hfiller) hnamed
    · exact absurd ((congrArg TypeInfo.name hnew).trans hempty) hnamed
  have hfree₁ : (R.withType ty description spec).schema.validType ty = false := by
    rw [Bool.eq_false_iff]
    intro hvalid
    obtain ⟨row, hrow, hname⟩ := Schema.validType_iff.mp hvalid
    rw [Schema.validType_iff.mpr ⟨row, hnamed _ row hrow hname, hname⟩] at hfree
    cases hfree
  refine ⟨?_, hfree₁⟩
  unfold Schema.cApiTypeId at hself ⊢
  rw [hfree, if_neg Bool.false_ne_true] at hself
  rw [hfree₁, if_neg Bool.false_ne_true]
  cases hwire : Schema.v4TypeNames[ty.toNat]? with
  | none => rfl
  | some name =>
    rw [hwire] at hself
    dsimp only at hself ⊢
    have hbuiltin := v4TypeNames_ne_empty name (List.mem_of_getElem? hwire)
    cases hfound : (R.withType ty description spec).schema.kTypeInfo.findIdx? fun info => info.name == name with
    | none => rw [Schema.typeByName, hfound]; rfl
    | some k =>
      -- a row with the name of the built-in was there before, and would have been found
      obtain ⟨hlt, hname, -⟩ := List.findIdx?_eq_some_iff_getElem.mp hfound
      have hname := eq_of_beq hname
      have hold := hnamed k _ (List.getElem?_eq_getElem hlt) (by rw [hname]; exact hbuiltin)
      obtain ⟨i, row, -, hfirst⟩ := Schema.FirstNamed.of_row hold hname
      have hi := (List.getElem?_eq_some_iff.mp hfirst.there).1
      rw [hfirst.typeByName, Option.getD_some] at hself
      rw [← hself, hfirst.validType (Nat.lt_trans hi hfits) hbuiltin] at hfree
      cases hfree

/-- And a type. -/
theorem repeatable_of_dtype {ty : UInt32} {description : String} {spec : TypeSpec}
    (hfits : R.schema.kTypeInfo.length < 2 ^ 32) (hfree : R.schema.validType (R.schema.cApiTypeId ty) = false)
    (hok : (R.dtypeRegisterEx ty description spec).1 = SEDS_OK)
    (hagain : ∀ ops : List Op, (∀ op ∈ ops, Registers op) →
      ((R.dtypeRegisterEx ty description spec).2.run ops).dtypeRegisterEx ty description spec =
        (SEDS_OK, (R.dtypeRegisterEx ty description spec).2.run ops)) :
    ty ≠ 0xFFFFFFFF ∧ cString spec.name = spec.name ∧ spec.name ≠ "" ∧ description = "" := by
  by_cases hknows : R.knowsEndpoints spec
  swap
  · rw [dtypeRegisterEx_unknown description hknows] at hok
    exact absurd hok (show SEDS_BAD_ARG ≠ SEDS_OK by decide)
  rw [dtypeRegisterEx_free description hknows hfree, cApiTypeId_of_free (Nat.le_of_lt hfits) hfree] at hok hagain
  have hself := cApiTypeId_of_free (Nat.le_of_lt hfits) hfree
  rw [hself] at hfree
  split at hok
  · exact absurd hok (show SEDS_BAD_ARG ≠ SEDS_OK by decide)
  rename_i hfresh
  rw [if_neg hfresh] at hagain
  by_cases hlast : ty = 0xFFFFFFFF
  · -- another type is registered, and then goes with the rest of the table
    exfalso
    subst hlast
    have hgone : ∀ R : Registry, R.schema.kTypeInfo.length < 2 ^ 32 →
        (R.withType 0xFFFFFFFF description spec).schema.kTypeInfo = [] := by
      intro R hlength
      show (growFor R.schema.kTypeInfo 0xFFFFFFFF .empty).set _ _ = []
      rw [growFor_last hlength]
      rfl
    obtain ⟨other, hother, hnamed, hne⟩ := exists_fresh [spec.name]
    have hadded := hagain [.dtypeRegister 100 (bareSpec other)] (by
      intro op hop
      rw [List.mem_singleton.mp hop]
      exact ⟨fun h => absurd h (by decide), hother⟩)
    have hempty := hgone R hfits
    have hknows₁ : (R.withType 0xFFFFFFFF description spec).knowsEndpoints spec := hknows
    generalize R.withType 0xFFFFFFFF description spec = R₁ at hadded hempty hknows₁
    have hplace₁ : R₁.schema.cApiTypeId 100 = 100 ∧ R₁.schema.validType 100 = false := by
      unfold Schema.cApiTypeId Schema.validType
      rw [hempty]
      exact ⟨rfl, rfl⟩
    have hfirst : R₁.run [.dtypeRegister 100 (bareSpec other)] = R₁.withType 100 "" (bareSpec other) := by
      refine bareSpec_added hplace₁.1 hplace₁.2 ?_
      rw [hempty]
      exact fun info hinfo => nomatch hinfo
    have htable : (R₁.withType 100 "" (bareSpec other)).schema.kTypeInfo = List.replicate 100 .empty ++ [(bareSpec other).row] := by
      show (growFor R₁.schema.kTypeInfo 100 .empty).set _ (bareSpec other).row = _
      rw [hempty]
      rfl
    rw [hfirst] at hadded
    have hknows₂ : (R₁.withType 100 "" (bareSpec other)).knowsEndpoints spec := hknows₁
    generalize R₁.withType 100 "" (bareSpec other) = R₂ at hadded htable hknows₂
    have hlength : R₂.schema.kTypeInfo.length = 101 := by rw [htable]; rfl
    have hfree₂ : R₂.schema.validType 0xFFFFFFFF = false := by
      unfold Schema.validType
      rw [List.getElem?_eq_none (by rw [hlength]; decide)]
    have hself₂ : R₂.schema.cApiTypeId 0xFFFFFFFF = 0xFFFFFFFF := by
      unfold Schema.cApiTypeId
      rw [hfree₂]
      rfl
    have hnew : (R₂.schema.kTypeInfo.any fun info => info.name != "" && info.name == spec.name) = false := by
      rw [htable, List.any_append, List.any_replicate]
      have hrow : ((bareSpec other).row.name == spec.name) = false := by
        show (cString other == spec.name) = false
        rw [hother]
        exact beq_false_of_ne (List.ne_of_not_mem_cons hne)
      rw [List.any_cons, List.any_nil, hrow, Bool.and_false]
      rfl
    rw [dtypeRegisterEx_free description hknows₂ (by rw [hself₂]; exact hfree₂), hnew, if_neg Bool.false_ne_true, hself₂] at hadded
    have hsame := congrArg (fun p => p.2.schema.kTypeInfo.length) hadded
    dsimp only at hsame
    rw [hgone R₂ (by rw [hlength]; decide), hlength] at hsame
    cases hsame
  have hplaced : (R.withType ty description spec).schema.kTypeInfo[ty.toNat]? = some spec.row := getElem?_set_growFor_self hlast
  by_cases hempty : cString spec.name = ""
  · -- the place is still free, and another type takes it
    exfalso
    obtain ⟨hself₁, hfree₁⟩ := withType_unnamed hfits hlast hself hfree hempty description
    obtain ⟨other, hother, hnamed, hnew⟩ :=
      exists_fresh (spec.name :: (R.withType ty description spec).schema.kTypeInfo.map (·.name))
    obtain ⟨hne, hnew⟩ := not_or.mp fun h => hnew (List.mem_cons.mpr h)
    have hadded := hagain [.dtypeRegister ty (bareSpec other)] (by
      intro op hop
      rw [List.mem_singleton.mp hop]
      exact ⟨hlast, hother⟩)
    have hknows₁ : (R.withType ty description spec).knowsEndpoints spec := hknows
    generalize R.withType ty description spec = R₁ at hadded hself₁ hfree₁ hnew hknows₁
    have hfirst : R₁.run [.dtypeRegister ty (bareSpec other)] = R₁.withType ty "" (bareSpec other) :=
      bareSpec_added hself₁ hfree₁ fun info hinfo hsame => hnew (List.mem_map.mpr ⟨info, hinfo, hsame⟩)
    have hplaced₂ : (R₁.withType ty "" (bareSpec other)).schema.kTypeInfo[ty.toNat]? = some (bareSpec other).row :=
      getElem?_set_growFor_self hlast
    rw [hfirst] at hadded
    have hknows₂ : (R₁.withType ty "" (bareSpec other)).knowsEndpoints spec := hknows₁
    generalize R₁.withType ty "" (bareSpec other) = R₂ at hadded hplaced₂ hknows₂
    have hrow : (bareSpec other).row.name = other := hother
    obtain ⟨htaken₂, hself₂, hat₂⟩ := placed_row hplaced₂ (by rw [hrow]; exact hnamed)
    rw [dtypeRegisterEx_taken description hknows₂ (by rw [hself₂]; exact htaken₂), hself₂, hat₂, Prod.mk.injEq] at hadded
    have hdescribes := (ok_of_ite hadded.1).1
    simp only [TypeSpec.describes, Bool.and_eq_true, beq_iff_eq] at hdescribes
    exact hne (hrow.symm.trans hdescribes.1.1.1.1.1.1.symm)
  · have hsecond := hagain [] fun op hop => nomatch hop
    change (R.withType ty description spec).dtypeRegisterEx ty description spec = _ at hsecond
    obtain ⟨htaken₁, hself₁, hat₁⟩ := placed_row hplaced hempty
    rw [dtypeRegisterEx_taken (R := R.withType ty description spec) description hknows (by rw [hself₁]; exact htaken₁), hself₁, hat₁,
      Prod.mk.injEq] at hsecond
    obtain ⟨hdescribes, -, -, hdescription⟩ := ok_of_ite hsecond.1
    simp only [TypeSpec.describes, Bool.and_eq_true, beq_iff_eq] at hdescribes
    have hname : spec.name = cString spec.name := hdescribes.1.1.1.1.1.1
    exact ⟨hlast, hname.symm, fun h => hempty (hname.symm.trans h), hdescription⟩

/-- **A registration is confirmed when it is repeated**, after any others, exactly if its id was taken already or what it writes
    is what it compares with. -/
theorem register_again_iff (hfits : R.schema.kTypeInfo.length < 2 ^ 32) (hnames : R.schema.kEndpointNames.length < 2 ^ 32)
    (c : Registration) (hok : (R.register c).1 = SEDS_OK) :
    (∀ ops : List Op, (∀ op ∈ ops, Registers op) →
      ((R.register c).2.run ops).register c = (SEDS_OK, (R.register c).2.run ops)) ↔ R.Knows c ∨ Repeatable c := by
  constructor
  · intro hagain
    by_cases hknown : R.Knows c
    · exact .inl hknown
    · right
      cases c with
      | endpoint endpoint name description linkLocalOnly =>
        exact repeatable_of_endpoint hnames (Bool.eq_false_of_not_eq_true hknown) hok hagain
      | dtype ty description spec => exact repeatable_of_dtype hfits (Bool.eq_false_of_not_eq_true hknown) hok hagain
  · intro hcondition ops hops
    by_cases hknown : R.Knows c
    · have hsame := (register_known hknown hok (.refl (Nat.le_of_lt hfits))).1
      rw [hsame]
      exact (register_known hknown hok (run_extends (Nat.le_of_lt hfits) hops)).2
    · obtain ⟨hfits₁, hknown₁, hok₁⟩ := register_new (Nat.le_of_lt hfits) hknown hok (hcondition.resolve_left hknown)
      exact (register_known hknown₁ hok₁ (run_extends hfits₁ hops)).2

/-- An endpoint for a bench is registered, and again after a console. -/
theorem register_again_iff_bench :
    let R := new defaultTestSchema
    let c : Registration := .endpoint 110 "BENCH" "on the desk" true
    ((R.register c).2.run [.endpointRegisterEx 111 "CONSOLE" "" false]).register c =
      (SEDS_OK, (R.register c).2.run [.endpointRegisterEx 111 "CONSOLE" "" false]) := by
  intro R c
  obtain ⟨hfits, hnames, hok, hrepeatable⟩ : R.schema.kTypeInfo.length < 2 ^ 32 ∧ R.schema.kEndpointNames.length < 2 ^ 32 ∧
      (R.register c).1 = SEDS_OK ∧ Repeatable c := by
    unfold R
    rw [defaultTestSchema_eq]
    decide +kernel
  refine (register_again_iff hfits hnames c hok).mpr (.inr hrepeatable) _ ?_
  intro op hop
  rw [List.mem_singleton.mp hop]
  exact fun h => absurd h (by decide)

/-- A type with a description is registered, and is refused when it is registered again. -/
theorem register_again_not :
    let R := new defaultTestSchema
    let c : Registration := .dtype 120 "keys that were pressed" (byteSpec "KEYSTROKE" [100])
    (R.register c).1 = SEDS_OK ∧ ((R.register c).2.register c).1 = SEDS_BAD_ARG := by
  intro R c
  unfold R
  rw [defaultTestSchema_eq]
  decide +kernel

end Registry

end SedsNet
