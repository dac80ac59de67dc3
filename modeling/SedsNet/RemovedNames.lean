import SedsNet.Builtins

/-!
# Removal by name

`seds_endpoint_remove_by_name` and `seds_dtype_remove_by_name` of `src/upstream_api_compat.cpp` remove the first entry of the
name. The generated tables have an entry under its legacy index and once more under its runtime id, and the lookups by name take
the latter first: they find what the removal has left. The legacy entries of the built-in endpoints, which come first, are not
protected.
-/

set_option autoImplicit false

namespace SedsNet

open Lib

/-! ## The first of a kind in a table -/

section

variable {α : Type} {kind : α → Bool} {v : List α} {filler x : α} {start k : Nat}

/-- The first of a kind from `start` on. The index of the loop is a `uint32_t`. -/
def firstFrom (kind : α → Bool) (v : List α) (start : Nat) : Option UInt32 :=
  ((v.drop start).findIdx? kind).map fun i => UInt32.ofNat (start + i)

/-- There is at most one of the kind. -/
def Once (kind : α → Bool) (v : List α) : Prop :=
  ∀ (i j : Nat) (y z : α), v[i]? = some y → v[j]? = some z → kind y = true → kind z = true → i = j

theorem firstFrom_eq_some (hfits : v.length ≤ 2 ^ 32) {found : UInt32} (h : firstFrom kind v start = some found) :
    ∃ y, v[found.toNat]? = some y ∧ kind y = true := by
  unfold firstFrom at h
  obtain ⟨i, hi, rfl⟩ := Option.map_eq_some_iff.mp h
  obtain ⟨hlt, hkind, -⟩ := List.findIdx?_eq_some_iff_getElem.mp hi
  have hlt' : start + i < v.length := by
    rw [List.length_drop] at hlt
    omega
  rw [UInt32.toNat_ofNat_of_lt' (Nat.lt_of_lt_of_le hlt' hfits), ← List.getElem?_drop, List.getElem?_eq_getElem hlt]
  exact ⟨_, rfl, hkind⟩

theorem firstFrom_eq_none (h : firstFrom kind v 0 = none) : ∀ y ∈ v, kind y = false := by
  unfold firstFrom at h
  rw [Option.map_eq_none_iff, List.findIdx?_eq_none_iff, List.drop_zero] at h
  exact h

/-- None is left of a kind when one of them goes, exactly if it was the only one. -/
theorem none_left_iff (hk : v[k]? = some x) (hx : kind x = true) (hfiller : kind filler = false) :
    (∀ y ∈ v.set k filler, kind y = false) ↔ Once kind v := by
  have hlt := (List.getElem?_eq_some_iff.mp hk).1
  constructor
  · intro hnone
    have honly : ∀ (i : Nat) (y : α), v[i]? = some y → kind y = true → i = k := by
      intro i y hi hy
      by_contra hne
      rw [← List.getElem?_set_ne (Ne.symm hne)] at hi
      rw [hnone y (List.mem_of_getElem? hi)] at hy
      cases hy
    intro i j y z hi hj hy hz
    rw [honly i y hi hy, honly j z hj hz]
  · intro honce y hy
    obtain ⟨i, hi⟩ := List.mem_iff_getElem?.mp hy
    by_cases hik : i = k
    · rw [hik, List.getElem?_set_self hlt, Option.some.injEq] at hi
      rw [← hi]
      exact hfiller
    · rw [List.getElem?_set_ne (Ne.symm hik)] at hi
      rw [Bool.eq_false_iff]
      exact fun hkind => hik (honce i k y x hi hk hkind hx)

end

def builtinEndpointNames : List String := ["TIME_SYNC", "DISCOVERY", "TELEMETRY_ERROR"]

/-- `wanted == kEndpointNames[i]`. -/
def hasEndpointName (wanted : String) (name : Option String) : Bool := name == some wanted

/-- The same of a row. A row without a name is nobody's. -/
def hasTypeName (wanted : String) (info : TypeInfo) : Bool := info.name != "" && wanted == info.name

namespace Registry

/-- `seds_endpoint_get_info_by_name`: `none` when `exists` is false. -/
def endpointGetInfoByName (R : Registry) (name : String) : Option Bool :=
  match firstFrom (hasEndpointName name) R.schema.kEndpointNames 100 with
  | some endpoint => R.endpointGetInfo endpoint
  | none =>
    match firstFrom (hasEndpointName name) R.schema.kEndpointNames 0 with
    | some endpoint => R.endpointGetInfo endpoint
    | none => none

/-- `seds_dtype_get_info`: the id, the row, the priority and the description. -/
def dtypeGetInfo (R : Registry) (ty : UInt32) : Option (UInt32 × TypeInfo × UInt8 × String) :=
  let ty := R.schema.cApiTypeId ty
  if R.schema.validType ty then some (ty, R.schema.typeAt ty.toNat, R.typePriority ty, R.typeDescription ty) else none

/-- `seds_dtype_get_info_by_name`. -/
def dtypeGetInfoByName (R : Registry) (name : String) : Option (UInt32 × TypeInfo × UInt8 × String) :=
  match firstFrom (hasTypeName name) R.schema.kTypeInfo 100 with
  | some ty => R.dtypeGetInfo ty
  | none =>
    match firstFrom (hasTypeName name) R.schema.kTypeInfo 0 with
    | some ty => R.dtypeGetInfo ty
    | none => none

/-- What is asked of the two removals, for one name. -/
structure RemovesByName (R : Registry) (name : String) : Prop where
  endpoint : name ∉ builtinEndpointNames → (R.endpointRemoveByName name).1 = SEDS_OK →
    (R.endpointRemoveByName name).2.endpointGetInfoByName name = none
  builtinEndpoint : name ∈ builtinEndpointNames → some name ∈ R.schema.kEndpointNames →
    (R.endpointRemoveByName name).1 = SEDS_BAD_ARG
  type : name ∉ Schema.v4TypeNames → (R.dtypeRemoveByName name).1 = SEDS_OK →
    (R.dtypeRemoveByName name).2.dtypeGetInfoByName name = none
  builtinType : name ∈ Schema.v4TypeNames → (∃ info ∈ R.schema.kTypeInfo, info.name = name) →
    (R.dtypeRemoveByName name).1 = SEDS_BAD_ARG

/-- The first endpoint of the name is one of the three that are protected. -/
def ProtectsFirst (R : Registry) (name : String) : Prop :=
  ∃ endpoint, R.schema.endpointByName name = some endpoint ∧ isInternalEndpointId endpoint = true

/-- The name is there once at most, or cannot be removed; and of a built-in endpoint the protected entry comes first. -/
structure NamedOnce (R : Registry) (name : String) : Prop where
  endpoint : name ∉ builtinEndpointNames → R.ProtectsFirst name ∨ Once (hasEndpointName name) R.schema.kEndpointNames
  builtinEndpoint : name ∈ builtinEndpointNames → some name ∈ R.schema.kEndpointNames → R.ProtectsFirst name
  type : name ∉ Schema.v4TypeNames → Once (hasTypeName name) R.schema.kTypeInfo

variable {R : Registry} {name : String}

/-! ## Endpoints -/

theorem endpointGetInfoByName_eq_none (hfits : R.schema.kEndpointNames.length ≤ 2 ^ 32) :
    R.endpointGetInfoByName name = none ↔ ∀ n ∈ R.schema.kEndpointNames, hasEndpointName name n = false := by
  have hfound : ∀ {start : Nat} {endpoint : UInt32}, firstFrom (hasEndpointName name) R.schema.kEndpointNames start = some endpoint →
      (R.endpointGetInfo endpoint = none ↔ ∀ n ∈ R.schema.kEndpointNames, hasEndpointName name n = false) := by
    intro start endpoint h
    obtain ⟨n, hthere, hname⟩ := firstFrom_eq_some hfits h
    have hn : n = some name := eq_of_beq hname
    subst hn
    have hsome : R.endpointGetInfo endpoint ≠ none := by
      unfold endpointGetInfo
      rw [if_pos (Schema.validEndpoint_iff.mpr ⟨name, hthere⟩)]
      exact fun h => nomatch h
    refine ⟨fun h => absurd h hsome, fun h => ?_⟩
    rw [h _ (List.mem_of_getElem? hthere)] at hname
    cases hname
  unfold endpointGetInfoByName
  cases hhigh : firstFrom (hasEndpointName name) R.schema.kEndpointNames 100 with
  | some endpoint => exact hfound hhigh
  | none =>
    dsimp only
    cases hlow : firstFrom (hasEndpointName name) R.schema.kEndpointNames 0 with
    | some endpoint => exact hfound hlow
    | none => exact ⟨fun _ => firstFrom_eq_none hlow, fun _ => rfl⟩

/-- The first of a name, if there is one. -/
theorem endpointByName_spec (name : String) (hfits : R.schema.kEndpointNames.length ≤ 2 ^ 32) :
    (R.schema.endpointByName name = none ∧ ∀ n ∈ R.schema.kEndpointNames, hasEndpointName name n = false) ∨
    ∃ endpoint, R.schema.endpointByName name = some endpoint ∧ R.schema.kEndpointNames[endpoint.toNat]? = some (some name) := by
  have hfirst : R.schema.endpointByName name = firstFrom (hasEndpointName name) R.schema.kEndpointNames 0 := by
    unfold Schema.endpointByName firstFrom
    simp only [Nat.zero_add]
    rfl
  rw [hfirst]
  cases hfound : firstFrom (hasEndpointName name) R.schema.kEndpointNames 0 with
  | none => exact .inl ⟨rfl, firstFrom_eq_none hfound⟩
  | some endpoint =>
    obtain ⟨n, hthere, hname⟩ := firstFrom_eq_some hfits hfound
    have hn : n = some name := eq_of_beq hname
    subst hn
    exact .inr ⟨endpoint, rfl, hthere⟩

/-- The removal of an endpoint of the name. -/
theorem endpointRemoveByName_spec {endpoint : UInt32} (hfound : R.schema.endpointByName name = some endpoint)
    (hthere : R.schema.kEndpointNames[endpoint.toNat]? = some (some name)) :
    (R.ProtectsFirst name ∧ R.endpointRemoveByName name = (SEDS_BAD_ARG, R)) ∨
    (¬ R.ProtectsFirst name ∧ (R.endpointRemoveByName name).1 = SEDS_OK ∧
      (R.endpointRemoveByName name).2.schema.kEndpointNames = R.schema.kEndpointNames.set endpoint.toNat none) := by
  have hvalid := Schema.validEndpoint_iff.mpr ⟨name, hthere⟩
  unfold ProtectsFirst endpointRemoveByName endpointRemove
  rw [hfound]
  dsimp only
  rw [hvalid, Bool.not_true, if_neg Bool.false_ne_true]
  cases hinternal : isInternalEndpointId endpoint with
  | true => exact .inl ⟨⟨endpoint, rfl, hinternal⟩, rfl⟩
  | false =>
    refine .inr ⟨?_, rfl, rfl⟩
    rintro ⟨endpoint', hsame, hinternal'⟩
    rw [← Option.some.inj hsame, hinternal] at hinternal'
    cases hinternal'

theorem endpoint_goes_iff (hfits : R.schema.kEndpointNames.length ≤ 2 ^ 32) :
    ((R.endpointRemoveByName name).1 = SEDS_OK → (R.endpointRemoveByName name).2.endpointGetInfoByName name = none) ↔
      R.ProtectsFirst name ∨ Once (hasEndpointName name) R.schema.kEndpointNames := by
  rcases endpointByName_spec name hfits with ⟨hnone, habsent⟩ | ⟨endpoint, hfound, hthere⟩
  · refine ⟨fun _ => .inr fun i j y z hi _ hy _ => ?_, fun _ _ => ?_⟩
    · rw [habsent y (List.mem_of_getElem? hi)] at hy
      cases hy
    · unfold endpointRemoveByName
      rw [hnone]
      exact (endpointGetInfoByName_eq_none hfits).mpr habsent
  · have hname : hasEndpointName name (some name) = true := beq_self_eq_true _
    rcases endpointRemoveByName_spec hfound hthere with ⟨hprotects, heq⟩ | ⟨hplain, hok, hnames⟩
    · rw [heq]
      exact ⟨fun _ => .inl hprotects, fun _ h => absurd h (show SEDS_BAD_ARG ≠ SEDS_OK by decide)⟩
    · rw [endpointGetInfoByName_eq_none (by rw [hnames, List.length_set]; exact hfits), hnames, none_left_iff hthere hname rfl]
      exact ⟨fun h => .inr (h hok), fun h _ => h.resolve_left hplain⟩

theorem builtinEndpoint_refused_iff (hfits : R.schema.kEndpointNames.length ≤ 2 ^ 32) (hthere : some name ∈ R.schema.kEndpointNames) :
    (R.endpointRemoveByName name).1 = SEDS_BAD_ARG ↔ R.ProtectsFirst name := by
  rcases endpointByName_spec name hfits with ⟨-, habsent⟩ | ⟨endpoint, hfound, hat⟩
  · have hname := habsent _ hthere
    rw [hasEndpointName, beq_self_eq_true] at hname
    cases hname
  · rcases endpointRemoveByName_spec hfound hat with ⟨hprotects, heq⟩ | ⟨hplain, hok, -⟩
    · rw [heq]
      exact ⟨fun _ => hprotects, fun _ => rfl⟩
    · rw [hok]
      exact ⟨fun h => absurd h (show SEDS_OK ≠ SEDS_BAD_ARG by decide), fun h => absurd h hplain⟩

/-! ## Types -/

theorem dtypeGetInfo_of_row {ty : UInt32} {row : TypeInfo} (hthere : R.schema.kTypeInfo[ty.toNat]? = some row) (hnamed : row.name ≠ "") :
    R.dtypeGetInfo ty ≠ none := by
  have hvalid : R.schema.validType ty = true := Schema.validType_iff.mpr ⟨row, hthere, hnamed⟩
  have hself : R.schema.cApiTypeId ty = ty := by
    unfold Schema.cApiTypeId
    rw [if_pos hvalid]
  unfold dtypeGetInfo
  dsimp only
  rw [hself, if_pos hvalid]
  exact fun h => nomatch h

theorem hasTypeName_iff {info : TypeInfo} : hasTypeName name info = true ↔ info.name ≠ "" ∧ info.name = name := by
  unfold hasTypeName
  rw [Bool.and_eq_true, bne_iff_ne, beq_iff_eq, eq_comm (a := name)]

theorem dtypeGetInfoByName_eq_none (hfits : R.schema.kTypeInfo.length ≤ 2 ^ 32) :
    R.dtypeGetInfoByName name = none ↔ ∀ info ∈ R.schema.kTypeInfo, hasTypeName name info = false := by
  have hfound : ∀ {start : Nat} {ty : UInt32}, firstFrom (hasTypeName name) R.schema.kTypeInfo start = some ty →
      (R.dtypeGetInfo ty = none ↔ ∀ info ∈ R.schema.kTypeInfo, hasTypeName name info = false) := by
    intro start ty h
    obtain ⟨row, hthere, hname⟩ := firstFrom_eq_some hfits h
    refine ⟨fun h => absurd h (dtypeGetInfo_of_row hthere (hasTypeName_iff.mp hname).1), fun h => ?_⟩
    rw [h _ (List.mem_of_getElem? hthere)] at hname
    cases hname
  unfold dtypeGetInfoByName
  cases hhigh : firstFrom (hasTypeName name) R.schema.kTypeInfo 100 with
  | some ty => exact hfound hhigh
  | none =>
    dsimp only
    cases hlow : firstFrom (hasTypeName name) R.schema.kTypeInfo 0 with
    | some ty => exact hfound hlow
    | none => exact ⟨fun _ => firstFrom_eq_none hlow, fun _ => rfl⟩

/-- The removal of a type of a name: the built-ins are refused, whatever their ids. -/
theorem dtypeRemoveByName_spec (name : String) (hfits : R.schema.kTypeInfo.length ≤ 2 ^ 32) :
    ((∀ info ∈ R.schema.kTypeInfo, hasTypeName name info = false) ∧ R.dtypeRemoveByName name = (SEDS_OK, R)) ∨
    (∃ info ∈ R.schema.kTypeInfo, hasTypeName name info = true) ∧
      ((name ∈ Schema.v4TypeNames ∧ R.dtypeRemoveByName name = (SEDS_BAD_ARG, R)) ∨
       (name ∉ Schema.v4TypeNames ∧ (R.dtypeRemoveByName name).1 = SEDS_OK ∧
        ∃ (k : Nat) (row : TypeInfo), R.schema.kTypeInfo[k]? = some row ∧ hasTypeName name row = true ∧
          (R.dtypeRemoveByName name).2.schema.kTypeInfo = R.schema.kTypeInfo.set k .empty)) := by
  unfold dtypeRemoveByName
  by_cases hempty : name = ""
  · rw [if_pos hempty]
    refine .inl ⟨fun info _ => ?_, rfl⟩
    rw [Bool.eq_false_iff]
    intro hname
    obtain ⟨hnamed, hsame⟩ := hasTypeName_iff.mp hname
    exact hnamed (hsame.trans hempty)
  rw [if_neg hempty]
  have hfirst : R.schema.typeByName name = firstFrom (hasTypeName name) R.schema.kTypeInfo 0 := by
    have hkind : (fun info : TypeInfo => info.name == name) = hasTypeName name := by
      funext info
      rw [Bool.eq_iff_iff, hasTypeName_iff, beq_iff_eq]
      exact ⟨fun h => ⟨fun h' => hempty (h.symm.trans h'), h⟩, fun h => h.2⟩
    unfold Schema.typeByName firstFrom
    rw [hkind]
    simp only [Nat.zero_add]
    rfl
  rw [hfirst]
  cases hfound : firstFrom (hasTypeName name) R.schema.kTypeInfo 0 with
  | none => exact .inl ⟨firstFrom_eq_none hfound, rfl⟩
  | some ty =>
    obtain ⟨row, hthere, hname⟩ := firstFrom_eq_some hfits hfound
    obtain ⟨hnamed, hsame⟩ := hasTypeName_iff.mp hname
    have hvalid : R.schema.validType ty = true := Schema.validType_iff.mpr ⟨row, hthere, hnamed⟩
    have hself : R.schema.cApiTypeId ty = ty := by
      unfold Schema.cApiTypeId
      rw [if_pos hvalid]
    have hinternal : R.schema.isInternalTypeId ty = Schema.v4TypeNames.contains name := by
      unfold Schema.isInternalTypeId Schema.typeAt
      rw [hself, hvalid, Bool.true_and, List.getD_eq_getElem?_getD, hthere, Option.getD_some, hsame]
    refine .inr ⟨⟨row, List.mem_of_getElem? hthere, hname⟩, ?_⟩
    dsimp only
    unfold dtypeRemove
    dsimp only
    rw [hself, hvalid, Bool.not_true, if_neg Bool.false_ne_true, hinternal]
    by_cases hbuiltin : name ∈ Schema.v4TypeNames
    · rw [if_pos (List.contains_iff_mem.mpr hbuiltin)]
      exact .inl ⟨hbuiltin, rfl⟩
    · rw [if_neg fun h => hbuiltin (List.contains_iff_mem.mp h)]
      exact .inr ⟨hbuiltin, rfl, ty.toNat, row, hthere, hname, rfl⟩

theorem type_goes_iff (hfits : R.schema.kTypeInfo.length ≤ 2 ^ 32) (hplain : name ∉ Schema.v4TypeNames) :
    ((R.dtypeRemoveByName name).1 = SEDS_OK → (R.dtypeRemoveByName name).2.dtypeGetInfoByName name = none) ↔
      Once (hasTypeName name) R.schema.kTypeInfo := by
  rcases dtypeRemoveByName_spec name hfits with ⟨habsent, heq⟩ | ⟨-, ⟨hbuiltin, -⟩ | ⟨-, hok, k, row, hthere, hname, hrows⟩⟩
  · refine ⟨fun _ i j y z hi _ hy _ => ?_, fun _ _ => ?_⟩
    · rw [habsent y (List.mem_of_getElem? hi)] at hy
      cases hy
    · rw [heq]
      exact (dtypeGetInfoByName_eq_none hfits).mpr habsent
  · exact absurd hbuiltin hplain
  · rw [dtypeGetInfoByName_eq_none (by rw [hrows, List.length_set]; exact hfits), hrows, none_left_iff hthere hname rfl]
    exact ⟨fun h => h hok, fun h _ => h⟩

theorem builtinType_refused (hfits : R.schema.kTypeInfo.length ≤ 2 ^ 32) (hbuiltin : name ∈ Schema.v4TypeNames)
    (hthere : ∃ info ∈ R.schema.kTypeInfo, info.name = name) : (R.dtypeRemoveByName name).1 = SEDS_BAD_ARG := by
  rcases dtypeRemoveByName_spec name hfits with ⟨habsent, -⟩ | ⟨-, ⟨-, heq⟩ | ⟨hplain, -⟩⟩
  · obtain ⟨info, hinfo, hname⟩ := hthere
    have hfalse := habsent info hinfo
    rw [hasTypeName_iff.mpr ⟨by rw [hname]; exact v4TypeNames_ne_empty name hbuiltin, hname⟩] at hfalse
    cases hfalse
  · rw [heq]
  · exact absurd hbuiltin hplain

/-! ## Runs -/

/-- The ids of both tables are numbers of 32 bits. -/
structure Fits (R : Registry) : Prop where
  types : R.schema.kTypeInfo.length ≤ 2 ^ 32
  names : R.schema.kEndpointNames.length ≤ 2 ^ 32

theorem length_growFor_le {α : Type} {v : List α} (hv : v.length ≤ 2 ^ 32) (i : UInt32) (filler : α) :
    (growFor v i filler).length ≤ 2 ^ 32 := by
  have hlt := (i + 1).toNat_lt
  unfold growFor
  split
  · exact hv
  · rw [List.length_append, List.length_take, List.length_replicate]
    omega

theorem Fits.grow_names {R' : Registry} (h : R.Fits) {endpoint : UInt32} {name : Option String}
    (htypes : R'.schema.kTypeInfo = R.schema.kTypeInfo)
    (hnames : R'.schema.kEndpointNames = (growFor R.schema.kEndpointNames endpoint none).set endpoint.toNat name) : R'.Fits := by
  refine ⟨htypes ▸ h.types, ?_⟩
  rw [hnames, List.length_set]
  exact length_growFor_le h.names endpoint none

theorem dtypeRegister_fits (h : R.Fits) (ty : UInt32) (spec : TypeSpec) : (R.dtypeRegister ty spec).2.Fits := by
  unfold dtypeRegister
  dsimp only
  split
  · exact h
  · split
    · split
      · exact h
      · exact h
    · split
      · exact h
      · refine ⟨?_, h.names⟩
        dsimp only
        rw [List.length_set]
        exact length_growFor_le h.types _ _

theorem endpointRemove_fits (h : R.Fits) (endpoint : UInt32) : (R.endpointRemove endpoint).2.Fits := by
  unfold endpointRemove
  split
  · exact h
  · split
    · exact h
    · refine ⟨?_, ?_⟩
      · show (List.map _ R.schema.kTypeInfo).length ≤ 2 ^ 32
        rw [List.length_map]
        exact h.types
      · show (R.schema.kEndpointNames.set endpoint.toNat none).length ≤ 2 ^ 32
        rw [List.length_set]
        exact h.names

theorem dtypeRemove_fits (h : R.Fits) (ty : UInt32) : (R.dtypeRemove ty).2.Fits := by
  unfold dtypeRemove
  dsimp only
  split
  · exact h
  · split
    · exact h
    · refine ⟨?_, h.names⟩
      dsimp only
      rw [List.length_set]
      exact h.types

theorem step_fits (h : R.Fits) (op : Op) : (R.step op).Fits := by
  cases op with
  | endpointRegisterEx endpoint name description linkLocalOnly =>
    show (R.endpointRegisterEx endpoint name description linkLocalOnly).2.Fits
    unfold endpointRegisterEx
    split
    · split
      · exact h
      · exact h
    · split
      · exact h
      · exact h.grow_names rfl rfl
  | ensureHandlerEndpoint endpoint =>
    show (R.ensureHandlerEndpoint endpoint).Fits
    unfold ensureHandlerEndpoint
    split
    · exact h
    · exact h.grow_names rfl rfl
  | endpointRemove endpoint => exact endpointRemove_fits h endpoint
  | endpointRemoveByName name =>
    show (R.endpointRemoveByName name).2.Fits
    unfold endpointRemoveByName
    split
    · exact endpointRemove_fits h _
    · exact h
  | dtypeRegister ty spec => exact dtypeRegister_fits h ty spec
  | dtypeRegisterEx ty description spec =>
    have hregistered := dtypeRegister_fits h ty spec
    show (R.dtypeRegisterEx ty description spec).2.Fits
    unfold dtypeRegisterEx
    dsimp only
    split
    · exact hregistered
    · split
      · exact hregistered
      · exact ⟨hregistered.types, hregistered.names⟩
  | dtypeRemove ty => exact dtypeRemove_fits h ty
  | dtypeRemoveByName name =>
    show (R.dtypeRemoveByName name).2.Fits
    unfold dtypeRemoveByName
    split
    · exact h
    · split
      · exact dtypeRemove_fits h _
      · exact h

theorem run_fits (h : R.Fits) (ops : List Op) : (R.run ops).Fits := by
  induction ops generalizing R with
  | nil => exact h
  | cons op ops ih => exact ih (step_fits h op)

theorem perform_fits (h : R.Fits) (call : Call) : (R.perform call).Fits := by
  cases call with
  | op op => exact step_fits h op
  | registerJson endpoints types =>
    show (R.registerSchemaJson endpoints types).2.Fits
    rw [registerSchemaJson_run]
    exact run_fits h _

/-- **A name is gone when it is removed, and a built-in one is refused**, in every state a program gets its tables to, exactly if
    the name is there once at most, and the protected entry comes first of a built-in endpoint. -/
theorem removesByName_iff (S : Schema) (htypes : S.kTypeInfo.length ≤ 2 ^ 32) (hnames : S.kEndpointNames.length ≤ 2 ^ 32)
    (calls : List Call) (name : String) :
    (runFrom perform (new S) calls).RemovesByName name ↔ (runFrom perform (new S) calls).NamedOnce name := by
  have hfits : (runFrom perform (new S) calls).Fits := by
    have hstart : (new S).Fits := ⟨htypes, hnames⟩
    generalize new S = R at hstart
    induction calls generalizing R with
    | nil => exact hstart
    | cons call calls ih => exact ih (R.perform call) (perform_fits hstart call)
  generalize runFrom perform (new S) calls = R at hfits
  constructor
  · rintro ⟨hendpoint, hbuiltin, htype, -⟩
    exact ⟨fun hplain => (endpoint_goes_iff hfits.names).mp (hendpoint hplain),
      fun hmem hthere => (builtinEndpoint_refused_iff hfits.names hthere).mp (hbuiltin hmem hthere),
      fun hplain => (type_goes_iff hfits.types hplain).mp (htype hplain)⟩
  · rintro ⟨hendpoint, hbuiltin, htype⟩
    exact ⟨fun hplain => (endpoint_goes_iff hfits.names).mpr (hendpoint hplain),
      fun hmem hthere => (builtinEndpoint_refused_iff hfits.names hthere).mpr (hbuiltin hmem hthere),
      fun hplain => (type_goes_iff hfits.types hplain).mpr (htype hplain), builtinType_refused hfits.types⟩

/-- `GPS_DATA`, which has no legacy row left, is gone when it is removed. -/
theorem removesByName_iff_gps :
    (runFrom perform (new defaultTestSchema) []).RemovesByName "GPS_DATA" := by
  obtain ⟨htypes, hnames, hendpoint, htype⟩ : defaultTestSchema.kTypeInfo.length ≤ 2 ^ 32 ∧
      defaultTestSchema.kEndpointNames.length ≤ 2 ^ 32 ∧ some "GPS_DATA" ∉ defaultTestSchema.kEndpointNames ∧
      (defaultTestSchema.kTypeInfo.drop 101).all (fun info => !hasTypeName "GPS_DATA" info) ∧
        (defaultTestSchema.kTypeInfo.take 100).all (fun info => !hasTypeName "GPS_DATA" info) := by
    rw [defaultTestSchema_eq]
    decide +kernel
  refine (removesByName_iff defaultTestSchema htypes hnames [] "GPS_DATA").mpr ⟨fun _ => .inr ?_, fun h => absurd h (by decide), fun _ => ?_⟩
  · intro i j y z hi _ hy _
    rw [eq_of_beq hy] at hi
    exact absurd (List.mem_of_getElem? hi) hendpoint
  · have honly : ∀ (k : Nat) (row : TypeInfo), defaultTestSchema.kTypeInfo[k]? = some row → hasTypeName "GPS_DATA" row = true → k = 100 := by
      intro k row hk hrow
      by_contra hne
      rcases Nat.lt_or_gt_of_ne hne with hlt | hgt
      · have hmem : row ∈ defaultTestSchema.kTypeInfo.take 100 := by
          refine List.mem_iff_getElem?.mpr ⟨k, ?_⟩
          rw [List.getElem?_take, if_pos hlt, hk]
        have hfalse := List.all_eq_true.mp htype.2 row hmem
        rw [hrow] at hfalse
        cases hfalse
      · have hmem : row ∈ defaultTestSchema.kTypeInfo.drop 101 := by
          refine List.mem_iff_getElem?.mpr ⟨k - 101, ?_⟩
          rw [List.getElem?_drop, Nat.add_sub_cancel' hgt, hk]
        have hfalse := List.all_eq_true.mp htype.1 row hmem
        rw [hrow] at hfalse
        cases hfalse
    intro i j y z hi hj hy hz
    rw [honly i y hi hy, honly j z hj hz]

/-- An endpoint of the schema is found when it has been removed, and time sync is removed. -/
theorem removesByName_not :
    ((new defaultTestSchema).endpointRemoveByName "SD_CARD").1 = SEDS_OK ∧
    ((new defaultTestSchema).endpointRemoveByName "SD_CARD").2.endpointGetInfoByName "SD_CARD" ≠ none ∧
    ((new defaultTestSchema).endpointRemoveByName "TIME_SYNC").1 = SEDS_OK := by
  rw [defaultTestSchema_eq]
  decide +kernel

end Registry

end SedsNet
