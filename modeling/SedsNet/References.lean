import SedsNet.Registered

/-!
# References between the tables

A row of the type table lists endpoints by their ids. `seds_dtype_register` takes no row with an endpoint that is not there, and
`seds_endpoint_remove` empties the rows that list the endpoint, so a row never lists an endpoint that is gone, whatever a program
registers and removes (`references_kept`). The exception is the registration of the last id: its successor is zero, the table of
names is emptied for it, and the rows still list what was there.
-/

set_option autoImplicit false

namespace SedsNet

open Lib

/-- Every endpoint that a row lists is there. -/
def Schema.Closed (S : Schema) : Prop := ∀ info ∈ S.kTypeInfo, ∀ ep ∈ info.endpoints, S.validEndpoint ep = true

instance (S : Schema) : Decidable S.Closed := inferInstanceAs (Decidable (∀ info ∈ S.kTypeInfo, _))

namespace Registry

/-- The call does not register the last id as an endpoint. -/
def Op.SparesLast : Op → Prop
  | .endpointRegisterEx endpoint _ _ _ | .ensureHandlerEndpoint endpoint => endpoint ≠ 0xFFFFFFFF
  | _ => True

instance : (op : Op) → Decidable op.SparesLast
  | .endpointRegisterEx .. | .ensureHandlerEndpoint _ => inferInstanceAs (Decidable (_ ≠ _))
  | .endpointRemove _ | .endpointRemoveByName _ | .dtypeRegister .. | .dtypeRegisterEx .. | .dtypeRemove _
  | .dtypeRemoveByName _ => .isTrue trivial

def SparesLast (R : Registry) : Call → Prop
  | .op op => op.SparesLast
  | .registerJson endpoints types => ∀ op ∈ R.jsonOps endpoints types, op.SparesLast

instance (R : Registry) : (call : Call) → Decidable (R.SparesLast call)
  | .op op => inferInstanceAs (Decidable op.SparesLast)
  | .registerJson endpoints types => inferInstanceAs (Decidable (∀ op ∈ R.jsonOps endpoints types, op.SparesLast))

variable {R R' : Registry}

/-! ## What keeps the tables closed -/

/-- Endpoints stay, and rows are old ones, empty ones, or list what is there. -/
theorem closed_of_rows (h : R.schema.Closed)
    (hnames : ∀ ep, R.schema.validEndpoint ep = true → R'.schema.validEndpoint ep = true)
    (hrows : ∀ info ∈ R'.schema.kTypeInfo, info ∈ R.schema.kTypeInfo ∨ info = .empty ∨
      ∀ ep ∈ info.endpoints, R.schema.validEndpoint ep = true) : R'.schema.Closed := by
  intro info hinfo ep hep
  rcases hrows info hinfo with hold | rfl | hthere
  · exact hnames ep (h info hold ep hep)
  · cases hep
  · exact hnames ep (hthere ep hep)

/-- A name comes to a place that has none. -/
theorem validEndpoint_set_growFor {endpoint : UInt32} (hlast : endpoint ≠ 0xFFFFFFFF) (hfree : R.schema.validEndpoint endpoint = false)
    {name : Option String} (hnames : R'.schema.kEndpointNames =
      (growFor R.schema.kEndpointNames endpoint none).set endpoint.toNat name) {ep : UInt32}
    (h : R.schema.validEndpoint ep = true) : R'.schema.validEndpoint ep = true := by
  obtain ⟨old, hold⟩ := Schema.validEndpoint_iff.mp h
  have hne : ep.toNat ≠ endpoint.toNat := by
    intro heq
    rw [UInt32.toNat_inj.mp heq, hfree] at h
    cases h
  refine Schema.validEndpoint_iff.mpr ⟨old, ?_⟩
  rw [hnames]
  exact getElem?_set_growFor hlast hne hold

theorem endpointRegisterEx_closed (h : R.schema.Closed) {endpoint : UInt32} (hlast : endpoint ≠ 0xFFFFFFFF)
    (name description : String) (linkLocalOnly : Bool) :
    (R.endpointRegisterEx endpoint name description linkLocalOnly).2.schema.Closed := by
  cases hthere : R.schema.validEndpoint endpoint with
  | true =>
    obtain ⟨old, hold⟩ := Schema.validEndpoint_iff.mp hthere
    rw [endpointRegisterEx_taken hold]
    exact h
  | false =>
    rw [endpointRegisterEx_free hthere]
    split
    · exact h
    · exact closed_of_rows h (fun ep => validEndpoint_set_growFor hlast hthere rfl) fun info hinfo => .inl hinfo

theorem ensureHandlerEndpoint_closed (h : R.schema.Closed) {endpoint : UInt32} (hlast : endpoint ≠ 0xFFFFFFFF) :
    (R.ensureHandlerEndpoint endpoint).schema.Closed := by
  unfold ensureHandlerEndpoint
  split
  · exact h
  · rename_i hfree
    exact closed_of_rows h (fun ep => validEndpoint_set_growFor hlast (Bool.eq_false_iff.mpr hfree) rfl) fun info hinfo => .inl hinfo

theorem dtypeRegister_closed (h : R.schema.Closed) (ty : UInt32) (spec : TypeSpec) : (R.dtypeRegister ty spec).2.schema.Closed := by
  by_cases hknows : R.knowsEndpoints spec
  · unfold dtypeRegister
    dsimp only
    rw [if_neg (by rw [any_unknown_eq_false hknows]; exact Bool.false_ne_true)]
    split
    · split
      · exact h
      · exact h
    · split
      · exact h
      · refine closed_of_rows h (fun ep hep => hep) ?_
        intro info hinfo
        rcases mem_set_growFor hinfo with hold | hempty | rfl
        · exact .inl hold
        · exact .inr (.inl hempty)
        · exact .inr (.inr hknows)
  · rw [dtypeRegister_unknown hknows]
    exact h

theorem dtypeRegisterEx_schema (R : Registry) (ty : UInt32) (description : String) (spec : TypeSpec) :
    (R.dtypeRegisterEx ty description spec).2.schema = (R.dtypeRegister ty spec).2.schema := by
  unfold dtypeRegisterEx
  dsimp only
  split
  · rfl
  · split
    · rfl
    · rfl

theorem dtypeRemove_closed (h : R.schema.Closed) (ty : UInt32) : (R.dtypeRemove ty).2.schema.Closed := by
  unfold dtypeRemove
  dsimp only
  split
  · exact h
  · split
    · exact h
    · refine closed_of_rows h (fun ep hep => hep) ?_
      intro info hinfo
      rcases List.mem_or_eq_of_mem_set hinfo with hold | hempty
      · exact .inl hold
      · exact .inr (.inl hempty)

/-! ## An endpoint goes -/

/-- The endpoint is gone, and so is every type that lists it. All the rest is as it was. -/
structure Drops (endpoint : UInt32) (R R' : Registry) : Prop where
  gone : R'.schema.validEndpoint endpoint = false
  endpoints : ∀ ep, ep ≠ endpoint → R'.schema.kEndpointNames[ep.toNat]? = R.schema.kEndpointNames[ep.toNat]? ∧
    R'.endpointDescription ep = R.endpointDescription ep ∧ R'.endpointFlag ep = R.endpointFlag ep
  unlisted : ∀ ty, R'.schema.validType ty = true ↔
    R.schema.validType ty = true ∧ endpoint ∉ (R.schema.typeAt ty.toNat).endpoints
  types : ∀ ty, R'.schema.validType ty = true → R'.schema.typeAt ty.toNat = R.schema.typeAt ty.toNat ∧
    R'.typeDescription ty = R.typeDescription ty ∧ R'.typePriority ty = R.typePriority ty

/-- The row of a type after the rows that list the endpoint were emptied. -/
theorem forgetTypes_row (R : Registry) (endpoint : UInt32) (i : Nat) : (R.forgetTypes endpoint).schema.kTypeInfo[i]? =
    (R.schema.kTypeInfo[i]?).map fun info => if info.endpoints.contains endpoint then .empty else info := by
  show (List.map _ R.schema.kTypeInfo)[i]? = _
  rw [List.getElem?_map]

theorem typeAt_of_row {S : Schema} {i : Nat} {info : TypeInfo} (h : S.kTypeInfo[i]? = some info) : S.typeAt i = info := by
  unfold Schema.typeAt
  rw [List.getD_eq_getElem?_getD, h, Option.getD_some]

theorem forgetTypes_validType {endpoint ty : UInt32} : (R.forgetTypes endpoint).schema.validType ty = true ↔
    ∃ info, R.schema.kTypeInfo[ty.toNat]? = some info ∧ info.name ≠ "" ∧ endpoint ∉ info.endpoints := by
  rw [Schema.validType_iff, forgetTypes_row]
  constructor
  · rintro ⟨info', hinfo', hnamed⟩
    obtain ⟨info, hinfo, rfl⟩ := Option.map_eq_some_iff.mp hinfo'
    split at hnamed
    · exact absurd rfl hnamed
    · rename_i hlists
      exact ⟨info, hinfo, hnamed, fun hmem => hlists (List.contains_iff_mem.mpr hmem)⟩
  · rintro ⟨info, hinfo, hnamed, hlists⟩
    refine ⟨info, ?_, hnamed⟩
    rw [hinfo, Option.map_some, if_neg fun hmem => hlists (List.contains_iff_mem.mp hmem)]

/-- What the maps know of a type that stays. -/
theorem lookup_of_kept {α : Type} {m : Map UInt32 α} {goes : UInt32 → Bool} {ty : UInt32} (h : goes ty = false) :
    (m.keepIf fun ty _ => !goes ty).lookup ty = m.lookup ty := by
  apply Option.ext
  intro v
  rw [Map.lookup_keepIf_iff, h]
  simp

theorem forgetTypes_kept {endpoint ty : UInt32} (h : (R.forgetTypes endpoint).schema.validType ty = true) :
    (R.forgetTypes endpoint).schema.typeAt ty.toNat = R.schema.typeAt ty.toNat ∧
      (R.forgetTypes endpoint).typeDescription ty = R.typeDescription ty ∧
      (R.forgetTypes endpoint).typePriority ty = R.typePriority ty := by
  obtain ⟨info, hinfo, -, hlists⟩ := forgetTypes_validType.mp h
  have hstays : info.endpoints.contains endpoint = false :=
    Bool.eq_false_iff.mpr fun hmem => hlists (List.contains_iff_mem.mp hmem)
  refine ⟨?_, ?_, ?_⟩
  · have hrow : (R.forgetTypes endpoint).schema.kTypeInfo[ty.toNat]? = some info := by
      rw [forgetTypes_row, hinfo, Option.map_some, if_neg fun hmem => hlists (List.contains_iff_mem.mp hmem)]
    rw [typeAt_of_row hrow, typeAt_of_row hinfo]
  · refine congrArg (fun d => Option.getD d "") (lookup_of_kept ?_)
    rw [hinfo]
    exact hstays
  · refine congrArg (fun p => Option.getD p 0) (lookup_of_kept ?_)
    rw [hinfo]
    exact hstays

/-- **An endpoint is removed with the types that list it**, and nothing else is. -/
theorem endpointRemove_drops {endpoint : UInt32} (hthere : R.schema.validEndpoint endpoint = true)
    (hplain : isInternalEndpointId endpoint = false) : Drops endpoint R (R.endpointRemove endpoint).2 := by
  have hremove : (R.endpointRemove endpoint).2 = ({ R with
      schema := { R.schema with kEndpointNames := R.schema.kEndpointNames.set endpoint.toNat none }
      endpointDescriptions := R.endpointDescriptions.erase endpoint
      endpointLinkLocal := R.endpointLinkLocal.erase endpoint } : Registry).forgetTypes endpoint := by
    unfold endpointRemove
    rw [hthere, hplain]
    rfl
  rw [hremove]
  refine ⟨?_, ?_, ?_, fun ty => forgetTypes_kept⟩
  · rw [Bool.eq_false_iff]
    intro hvalid
    obtain ⟨name, hname⟩ := Schema.validEndpoint_iff.mp hvalid
    have hnone : (R.schema.kEndpointNames.set endpoint.toNat none)[endpoint.toNat]? = some (some name) := hname
    rw [List.getElem?_set_self'] at hnone
    obtain ⟨_, _, heq⟩ := Option.map_eq_some_iff.mp hnone
    cases heq
  · intro ep hne
    refine ⟨List.getElem?_set_ne fun heq => hne (UInt32.toNat_inj.mp heq).symm, ?_, ?_⟩
    · exact congrArg (fun d => Option.getD d "") (AList.lookup_erase_ne hne)
    · exact congrArg (fun flag => Option.getD flag false) (AList.lookup_erase_ne hne)
  · intro ty
    rw [forgetTypes_validType, Schema.validType_iff]
    constructor
    · rintro ⟨info, hinfo, hnamed, hlists⟩
      have hrow : R.schema.typeAt ty.toNat = info := typeAt_of_row hinfo
      refine ⟨⟨info, hinfo, hnamed⟩, ?_⟩
      rwa [hrow]
    · rintro ⟨⟨info, hinfo, hnamed⟩, hlists⟩
      have hrow : R.schema.typeAt ty.toNat = info := typeAt_of_row hinfo
      rw [hrow] at hlists
      exact ⟨info, hinfo, hnamed, hlists⟩

theorem endpointRemove_closed (h : R.schema.Closed) (endpoint : UInt32) : (R.endpointRemove endpoint).2.schema.Closed := by
  by_cases hgoes : R.schema.validEndpoint endpoint = true ∧ isInternalEndpointId endpoint = false
  · have hdrops := endpointRemove_drops hgoes.1 hgoes.2
    intro info hinfo ep hep
    have hrows : (R.endpointRemove endpoint).2.schema.kTypeInfo =
        R.schema.kTypeInfo.map fun info => if info.endpoints.contains endpoint then .empty else info := by
      unfold endpointRemove
      rw [hgoes.1, hgoes.2]
      rfl
    rw [hrows] at hinfo
    obtain ⟨old, hold, rfl⟩ := List.mem_map.mp hinfo
    split at hep
    · cases hep
    · rename_i hlists
      have hne : ep ≠ endpoint := by
        rintro rfl
        exact hlists (List.contains_iff_mem.mpr hep)
      obtain ⟨name, hname⟩ := Schema.validEndpoint_iff.mp (h old hold ep hep)
      exact Schema.validEndpoint_iff.mpr ⟨name, (hdrops.endpoints ep hne).1.trans hname⟩
  · unfold endpointRemove
    split
    · exact h
    · rename_i hthere
      split
      · exact h
      · rename_i hplain
        exact absurd ⟨by simpa using hthere, Bool.eq_false_iff.mpr hplain⟩ hgoes

/-! ## Runs -/

theorem step_closed (h : R.schema.Closed) {op : Op} (hop : op.SparesLast) : (R.step op).schema.Closed := by
  cases op with
  | endpointRegisterEx endpoint name description linkLocalOnly => exact endpointRegisterEx_closed h hop name description linkLocalOnly
  | ensureHandlerEndpoint endpoint => exact ensureHandlerEndpoint_closed h hop
  | endpointRemove endpoint => exact endpointRemove_closed h endpoint
  | endpointRemoveByName name =>
    show (R.endpointRemoveByName name).2.schema.Closed
    unfold endpointRemoveByName
    split
    · exact endpointRemove_closed h _
    · exact h
  | dtypeRegister ty spec => exact dtypeRegister_closed h ty spec
  | dtypeRegisterEx ty description spec =>
    show (R.dtypeRegisterEx ty description spec).2.schema.Closed
    rw [dtypeRegisterEx_schema]
    exact dtypeRegister_closed h ty spec
  | dtypeRemove ty => exact dtypeRemove_closed h ty
  | dtypeRemoveByName name =>
    show (R.dtypeRemoveByName name).2.schema.Closed
    unfold dtypeRemoveByName
    split
    · exact h
    · split
      · exact dtypeRemove_closed h _
      · exact h

theorem run_closed (h : R.schema.Closed) {ops : List Op} (hops : ∀ op ∈ ops, op.SparesLast) : (R.run ops).schema.Closed := by
  induction ops generalizing R with
  | nil => exact h
  | cons op ops ih => exact ih (step_closed h (hops op List.mem_cons_self)) fun op' hop' => hops op' (List.mem_cons_of_mem op hop')

theorem perform_closed (h : R.schema.Closed) {call : Call} (hcall : R.SparesLast call) : (R.perform call).schema.Closed := by
  cases call with
  | op op => exact step_closed h hcall
  | registerJson endpoints types =>
    show (R.registerSchemaJson endpoints types).2.schema.Closed
    rw [registerSchemaJson_run]
    exact run_closed h hcall

/-- **References are kept**: after every run of registrations and removals, no type lists an endpoint that is not there, and the
    removal of an endpoint takes the types that list it along and nothing else. -/
theorem references_kept (S : Schema) (hclosed : S.Closed) (calls : List Call) (hcalls : Along perform SparesLast (new S) calls) :
    let R := runFrom perform (new S) calls
    (∀ ty, R.schema.validType ty = true → ∀ ep ∈ (R.schema.typeAt ty.toNat).endpoints, R.schema.validEndpoint ep = true) ∧
      ∀ endpoint, R.schema.validEndpoint endpoint = true → isInternalEndpointId endpoint = false →
        Drops endpoint R (R.endpointRemove endpoint).2 := by
  intro R
  have hkept : R.schema.Closed := hcalls.invariant (I := fun R => R.schema.Closed) hclosed fun _ _ hcall h => perform_closed h hcall
  refine ⟨?_, fun endpoint hthere hplain => endpointRemove_drops hthere hplain⟩
  intro ty hvalid ep hep
  obtain ⟨info, hinfo, -⟩ := Schema.validType_iff.mp hvalid
  rw [typeAt_of_row hinfo] at hep
  exact hkept info (List.mem_of_getElem? hinfo) ep hep

/-- A program that registers an endpoint and a type for it, from a text and from calls, and removes another endpoint. -/
def stationCalls : List Call :=
  [.op (.endpointRegisterEx 120 "STATION" "" false), .op (.dtypeRegister 140 (byteSpec "STATION_DATA" [120, 101])),
    .op (.endpointRemove 101)]

theorem references_kept_station :
    let R := runFrom perform (new defaultTestSchema) stationCalls
    R.schema.validType 140 = false ∧ R.schema.validEndpoint 120 = true ∧ Drops 120 R (R.endpointRemove 120).2 := by
  have hrun : defaultTestSchema.Closed ∧ Along perform SparesLast (new defaultTestSchema) stationCalls ∧
      (runFrom perform (new defaultTestSchema) stationCalls).schema.validType 140 = false ∧
      (runFrom perform (new defaultTestSchema) stationCalls).schema.validEndpoint 120 = true := by
    rw [defaultTestSchema_eq]
    decide +kernel
  exact ⟨hrun.2.2.1, hrun.2.2.2,
    (references_kept defaultTestSchema hrun.1 stationCalls hrun.2.1).2 120 hrun.2.2.2 (by decide)⟩

end Registry

end SedsNet
