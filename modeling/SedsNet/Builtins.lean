import SedsNet.Lib.Machine
import SedsNet.JsonSchema
import SedsNet.Slots

/-!
# The built-ins and the registry

A program starts with the tables of `generate_schema.py`, and registers and removes endpoints and types as it runs. What it
does to itself it should not do to the built-ins: the ids of the wire format still mean the same types, and the three built-in
endpoints keep their names. `builtins_kept` proves it for every sequence of calls that meet `Protects`; the calls that do not
are those where the checks of the code are passed by: the last id, whose successor is zero and empties the table, a name that
C reads shorter than it was compared, and an endpoint whose types go with it although one of them is a built-in.
-/

set_option autoImplicit false

namespace SedsNet

open Lib

/-! ## The first row of a name -/

/-- The row at `i` is the first with this name. -/
structure Schema.FirstNamed (S : Schema) (name : String) (i : Nat) (row : TypeInfo) : Prop where
  there : S.kTypeInfo[i]? = some row
  named : row.name = name
  first : ∀ j < i, ∀ other, S.kTypeInfo[j]? = some other → other.name ≠ name

namespace Schema.FirstNamed

variable {S S' : Schema} {name : String} {i : Nat} {row : TypeInfo}

theorem findIdx (h : S.FirstNamed name i row) : S.kTypeInfo.findIdx? (fun info => info.name == name) = some i := by
  obtain ⟨hlt, hrow⟩ := List.getElem?_eq_some_iff.mp h.there
  refine List.findIdx?_eq_some_iff_getElem.mpr ⟨hlt, ?_, ?_⟩
  · rw [hrow, h.named]
    exact beq_self_eq_true name
  · intro j hj
    have hother := h.first j hj _ (List.getElem?_eq_getElem (Nat.lt_trans hj hlt))
    simpa using hother

theorem typeByName (h : S.FirstNamed name i row) : S.typeByName name = some (UInt32.ofNat i) := by
  unfold Schema.typeByName
  rw [h.findIdx]
  rfl

/-- There is one as soon as there is a row of that name. -/
theorem of_row {k : Nat} {other : TypeInfo} (hrow : S.kTypeInfo[k]? = some other) (hname : other.name = name) :
    ∃ i row, i ≤ k ∧ S.FirstNamed name i row := by
  cases hfind : S.kTypeInfo.findIdx? (fun info => info.name == name) with
  | none =>
    have hnone := List.findIdx?_eq_none_iff.mp hfind other (List.mem_of_getElem? hrow)
    rw [hname, beq_self_eq_true] at hnone
    cases hnone
  | some i =>
    obtain ⟨hlt, hnamed, hfirst⟩ := List.findIdx?_eq_some_iff_getElem.mp hfind
    refine ⟨i, S.kTypeInfo[i], ?_, List.getElem?_eq_getElem hlt, by simpa using hnamed, ?_⟩
    · by_contra hki
      obtain ⟨hklt, hk⟩ := List.getElem?_eq_some_iff.mp hrow
      have hother := hfirst k (Nat.lt_of_not_le hki)
      rw [hk, hname, beq_self_eq_true] at hother
      exact hother rfl
    · intro j hj other' hother'
      obtain ⟨hjlt, hj'⟩ := List.getElem?_eq_some_iff.mp hother'
      have hfirst := hfirst j hj
      rw [hj'] at hfirst
      simpa using hfirst

/-- The row stays, and what comes before it is what it was, or has another name. -/
theorem keep (h : S.FirstNamed name i row) (hthere : S'.kTypeInfo[i]? = some row)
    (hbefore : ∀ j < i, ∀ other, S'.kTypeInfo[j]? = some other → S.kTypeInfo[j]? = some other ∨ other.name ≠ name) :
    S'.FirstNamed name i row := by
  refine ⟨hthere, h.named, ?_⟩
  intro j hj other hother
  cases hbefore j hj other hother with
  | inl hold => exact h.first j hj other hold
  | inr hname => exact hname

theorem toNat_ofNat (hi : i < 2 ^ 32) : (UInt32.ofNat i).toNat = i := UInt32.toNat_ofNat_of_lt' hi

theorem validType (h : S.FirstNamed name i row) (hi : i < 2 ^ 32) (hname : name ≠ "") : S.validType (UInt32.ofNat i) = true := by
  rw [Schema.validType_iff, toNat_ofNat hi]
  exact ⟨row, h.there, by rw [h.named]; exact hname⟩

theorem typeAt (h : S.FirstNamed name i row) : S.typeAt i = row := by
  unfold Schema.typeAt
  rw [List.getD_eq_getElem?_getD, h.there, Option.getD_some]

/-- The wire id of a built-in means its first row, and the row's wire id is that. -/
theorem wireIds (h : S.FirstNamed name i row) (hi : i < 2 ^ 32) {wire : Nat} (hwire : Schema.v4TypeNames[wire]? = some name) :
    S.localTypeId (UInt32.ofNat wire) = some (UInt32.ofNat i) ∧ S.v4TypeId (UInt32.ofNat i) = UInt32.ofNat wire := by
  have hlt : wire < 19 := (List.getElem?_eq_some_iff.mp hwire).1
  have hindex : ∀ wire < 19, ∀ name, Schema.v4TypeNames[wire]? = some name → Schema.v4TypeNames.idxOf? name = some wire ∧ name ≠ "" := by
    decide
  obtain ⟨hidx, hname⟩ := hindex wire hlt name hwire
  constructor
  · unfold Schema.localTypeId
    rw [UInt32.toNat_ofNat_of_lt' (Nat.lt_trans hlt (by decide)), hwire]
    exact h.typeByName
  · unfold Schema.v4TypeId
    rw [if_pos (h.validType hi hname), toNat_ofNat hi, h.typeAt, h.named, hidx]

end Schema.FirstNamed

/-! ## Tables that grow -/

section

variable {α : Type} {v : List α} {i : UInt32} {filler x : α}

theorem growFor_eq (hi : i ≠ 0xFFFFFFFF) : growFor v i filler = v ++ List.replicate (i.toNat + 1 - v.length) filler := by
  have hsucc : (i + 1).toNat = i.toNat + 1 := by
    have hne : i.toNat ≠ 4294967295 := fun h => hi (UInt32.toNat_inj.mp h)
    have hlt := UInt32.toNat_lt i
    rw [UInt32.toNat_add]
    show (i.toNat + 1) % 2 ^ 32 = i.toNat + 1
    omega
  unfold growFor
  split
  · rename_i hlt
    rw [Nat.sub_eq_zero_of_le hlt, List.replicate_zero, List.append_nil]
  · rename_i hge
    rw [hsucc, List.take_of_length_le (by omega)]

/-- What was in a table that has grown for an entry, and is not the entry. -/
theorem getElem?_set_growFor (hi : i ≠ 0xFFFFFFFF) {k : Nat} {y : α} (hk : k ≠ i.toNat) (h : v[k]? = some y) :
    ((growFor v i filler).set i.toNat x)[k]? = some y := by
  have hlt := (List.getElem?_eq_some_iff.mp h).1
  rw [growFor_eq hi, List.getElem?_set_ne (Ne.symm hk), List.getElem?_append_left hlt, h]

/-- What is in it now. -/
theorem of_getElem?_set_growFor (hi : i ≠ 0xFFFFFFFF) {k : Nat} {y : α}
    (h : ((growFor v i filler).set i.toNat x)[k]? = some y) : v[k]? = some y ∨ y = filler ∨ k = i.toNat ∧ y = x := by
  rw [growFor_eq hi] at h
  by_cases hk : k = i.toNat
  · subst hk
    rw [List.getElem?_set_self' ] at h
    obtain ⟨_, _, heq⟩ := Option.map_eq_some_iff.mp h
    exact .inr (.inr ⟨rfl, heq.symm⟩)
  · rw [List.getElem?_set_ne (Ne.symm hk)] at h
    by_cases hlt : k < v.length
    · rw [List.getElem?_append_left hlt] at h
      exact .inl h
    · rw [List.getElem?_append_right (Nat.le_of_not_lt hlt)] at h
      exact .inr (.inl (List.eq_of_mem_replicate (List.mem_of_getElem? h)))

end

/-! ## What has to stay -/

/-- The built-ins of `S₀` are those of `S`. -/
structure Schema.SameBuiltins (S₀ S : Schema) : Prop where
  types : ∀ name ∈ Schema.v4TypeNames, ∃ i row, i < 2 ^ 32 ∧ S₀.FirstNamed name i row ∧ S.FirstNamed name i row
  endpoints : ∀ ep, isInternalEndpointId ep = true →
    ∃ name, S₀.kEndpointNames[ep.toNat]? = some (some name) ∧ S.kEndpointNames[ep.toNat]? = some (some name)

namespace Registry

/-- `seds_endpoint_register_ex` gets to the table. -/
def addsEndpoint (R : Registry) (endpoint : UInt32) (name : String) : Bool :=
  !R.schema.validEndpoint endpoint && !R.schema.kEndpointNames.contains (some name)

/-- `seds_dtype_register` gets to the table. -/
def addsType (R : Registry) (ty : UInt32) (spec : TypeSpec) : Bool :=
  spec.endpoints.all (fun ep => R.schema.validEndpoint ep) && !R.schema.validType (R.schema.cApiTypeId ty) &&
    !R.schema.kTypeInfo.any fun info => info.name != "" && info.name == spec.name

/-- The endpoint may go: no built-in type is addressed to it. -/
def SparesTypes (R : Registry) (endpoint : UInt32) : Prop :=
  R.schema.validEndpoint endpoint = true → isInternalEndpointId endpoint = false →
    ∀ name ∈ Schema.v4TypeNames, ∀ ty ∈ R.schema.typeByName name, endpoint ∉ (R.schema.typeAt ty.toNat).endpoints

/-- The type may come: its id has a successor, and it does not stand in front of a built-in of its name. -/
def AddsBehind (R : Registry) (ty : UInt32) (spec : TypeSpec) : Prop :=
  R.addsType ty spec = true → R.schema.cApiTypeId ty ≠ 0xFFFFFFFF ∧
    (cString spec.name ∈ Schema.v4TypeNames → ∀ builtin ∈ R.schema.typeByName (cString spec.name), builtin < R.schema.cApiTypeId ty)

/-- The calls that leave the built-ins alone. -/
def Protects (R : Registry) : Op → Prop
  | .endpointRegisterEx endpoint name _ _ => R.addsEndpoint endpoint name = true → endpoint ≠ 0xFFFFFFFF
  | .ensureHandlerEndpoint endpoint => R.schema.validEndpoint endpoint = false → endpoint ≠ 0xFFFFFFFF
  | .endpointRemove endpoint => R.SparesTypes endpoint
  | .endpointRemoveByName name => ∀ endpoint ∈ R.schema.endpointByName name, R.SparesTypes endpoint
  | .dtypeRegister ty spec => R.AddsBehind ty spec
  | .dtypeRegisterEx ty _ spec => R.AddsBehind ty spec
  | .dtypeRemove _ => True
  | .dtypeRemoveByName _ => True

instance (R : Registry) (endpoint : UInt32) : Decidable (R.SparesTypes endpoint) :=
  inferInstanceAs (Decidable (_ → _ → ∀ name ∈ Schema.v4TypeNames, ∀ ty ∈ R.schema.typeByName name, endpoint ∉ (R.schema.typeAt ty.toNat).endpoints))

instance (R : Registry) (ty : UInt32) (spec : TypeSpec) : Decidable (R.AddsBehind ty spec) :=
  inferInstanceAs (Decidable (R.addsType ty spec = true → R.schema.cApiTypeId ty ≠ 0xFFFFFFFF ∧
    (cString spec.name ∈ Schema.v4TypeNames → ∀ builtin ∈ R.schema.typeByName (cString spec.name), builtin < R.schema.cApiTypeId ty)))

instance (R : Registry) : (op : Op) → Decidable (R.Protects op)
  | .endpointRegisterEx endpoint name _ _ => inferInstanceAs (Decidable (R.addsEndpoint endpoint name = true → endpoint ≠ 0xFFFFFFFF))
  | .ensureHandlerEndpoint endpoint => inferInstanceAs (Decidable (R.schema.validEndpoint endpoint = false → endpoint ≠ 0xFFFFFFFF))
  | .endpointRemove endpoint => inferInstanceAs (Decidable (R.SparesTypes endpoint))
  | .endpointRemoveByName name => inferInstanceAs (Decidable (∀ endpoint ∈ R.schema.endpointByName name, R.SparesTypes endpoint))
  | .dtypeRegister ty spec => inferInstanceAs (Decidable (R.AddsBehind ty spec))
  | .dtypeRegisterEx ty _ spec => inferInstanceAs (Decidable (R.AddsBehind ty spec))
  | .dtypeRemove _ => .isTrue trivial
  | .dtypeRemoveByName _ => .isTrue trivial

variable {S₀ : Schema} {R : Registry}

theorem isInternalEndpointId_ne_last {ep : UInt32} (h : isInternalEndpointId ep = true) : ep ≠ 0xFFFFFFFF := by
  rintro rfl
  exact absurd h (by decide)

/-- Endpoint names come to places that had none. -/
theorem SameBuiltins.endpoints_set (h : S₀.SameBuiltins R.schema) {endpoint : UInt32} {name : String}
    (hnew : R.schema.validEndpoint endpoint = false) (hlast : endpoint ≠ 0xFFFFFFFF) :
    S₀.SameBuiltins { R.schema with
      kEndpointNames := (growFor R.schema.kEndpointNames endpoint none).set endpoint.toNat (some name) } := by
  refine ⟨?_, ?_⟩
  · intro builtin hbuiltin
    obtain ⟨i, row, hi, hstart, hnow⟩ := h.types builtin hbuiltin
    exact ⟨i, row, hi, hstart, hnow.keep hnow.there fun _ _ _ hother => .inl hother⟩
  intro ep hep
  obtain ⟨builtin, hstart, hnow⟩ := h.endpoints ep hep
  refine ⟨builtin, hstart, getElem?_set_growFor hlast ?_ hnow⟩
  intro hsame
  have hvalid : R.schema.validEndpoint endpoint = true := Schema.validEndpoint_iff.mpr ⟨builtin, by rw [← hsame]; exact hnow⟩
  rw [hvalid] at hnew
  cases hnew

theorem endpointRegisterEx_keeps (h : S₀.SameBuiltins R.schema) (endpoint : UInt32) (name description : String) (linkLocalOnly : Bool)
    (hprotects : R.addsEndpoint endpoint name = true → endpoint ≠ 0xFFFFFFFF) :
    S₀.SameBuiltins (R.endpointRegisterEx endpoint name description linkLocalOnly).2.schema := by
  unfold endpointRegisterEx
  split
  · split
    · exact h
    · exact h
  · rename_i hslot
    have hnew : R.schema.validEndpoint endpoint = false := by
      unfold Schema.validEndpoint
      split
      · rename_i old hold
        exact absurd hold (hslot old)
      · rfl
    split
    · exact h
    · rename_i hname
      refine SameBuiltins.endpoints_set h hnew (hprotects ?_)
      unfold addsEndpoint
      rw [hnew, Bool.eq_false_of_not_eq_true hname]
      rfl

theorem ensureHandlerEndpoint_keeps (h : S₀.SameBuiltins R.schema) (endpoint : UInt32)
    (hprotects : R.schema.validEndpoint endpoint = false → endpoint ≠ 0xFFFFFFFF) :
    S₀.SameBuiltins (R.ensureHandlerEndpoint endpoint).schema := by
  unfold ensureHandlerEndpoint
  by_cases hvalid : R.schema.validEndpoint endpoint = true
  · rw [if_pos hvalid]
    exact h
  · rw [if_neg hvalid]
    have hnew := Bool.eq_false_of_not_eq_true hvalid
    exact SameBuiltins.endpoints_set h hnew (hprotects hnew)

theorem v4TypeNames_ne_empty : ∀ name ∈ Schema.v4TypeNames, name ≠ "" := by decide

/-- The rows that list an endpoint are emptied; no built-in does. -/
theorem endpointRemove_keeps (h : S₀.SameBuiltins R.schema) (endpoint : UInt32) (hspares : R.SparesTypes endpoint) :
    S₀.SameBuiltins (R.endpointRemove endpoint).2.schema := by
  unfold endpointRemove
  by_cases hvalid : R.schema.validEndpoint endpoint = true
  · rw [hvalid, Bool.not_true, if_neg Bool.false_ne_true]
    by_cases hinternal : isInternalEndpointId endpoint = true
    · rw [if_pos hinternal]
      exact h
    · rw [if_neg hinternal]
      unfold forgetTypes
      refine ⟨?_, ?_⟩
      · intro name hname
        obtain ⟨i, row, hi, hstart, hnow⟩ := h.types name hname
        have hunlisted := hspares hvalid (Bool.eq_false_of_not_eq_true hinternal) name hname _ hnow.typeByName
        rw [Schema.FirstNamed.toNat_ofNat hi, hnow.typeAt] at hunlisted
        refine ⟨i, row, hi, hstart, hnow.keep ?_ ?_⟩
        · dsimp only
          rw [List.getElem?_map, hnow.there, Option.map_some, if_neg (by simpa using hunlisted)]
        · intro j hj other hother
          dsimp only at hother
          rw [List.getElem?_map] at hother
          obtain ⟨old, hold, heq⟩ := Option.map_eq_some_iff.mp hother
          split at heq
          · refine .inr ?_
            rw [← heq]
            exact (v4TypeNames_ne_empty name hname).symm
          · rw [heq] at hold
            exact .inl hold
      · intro ep hep
        obtain ⟨name, hstart, hnow⟩ := h.endpoints ep hep
        refine ⟨name, hstart, ?_⟩
        dsimp only
        rw [List.getElem?_set_ne]
        · exact hnow
        · intro hsame
          rw [UInt32.toNat_inj.mp hsame] at hinternal
          exact hinternal hep
  · rw [Bool.eq_false_of_not_eq_true hvalid, Bool.not_false, if_pos rfl]
    exact h

theorem endpointRemoveByName_keeps (h : S₀.SameBuiltins R.schema) (name : String)
    (hspares : ∀ endpoint ∈ R.schema.endpointByName name, R.SparesTypes endpoint) :
    S₀.SameBuiltins (R.endpointRemoveByName name).2.schema := by
  unfold endpointRemoveByName
  cases hfind : R.schema.endpointByName name with
  | none => exact h
  | some endpoint => exact endpointRemove_keeps h endpoint (hspares endpoint hfind)

/-- A row comes to a place that had none, behind the built-in of its name. -/
theorem dtypeRegister_keeps (h : S₀.SameBuiltins R.schema) (ty : UInt32) (spec : TypeSpec) (hbehind : R.AddsBehind ty spec) :
    S₀.SameBuiltins (R.dtypeRegister ty spec).2.schema := by
  unfold AddsBehind addsType at hbehind
  unfold dtypeRegister
  generalize R.schema.cApiTypeId ty = place at hbehind ⊢
  dsimp only
  by_cases hendpoints : (spec.endpoints.any fun ep => !R.schema.validEndpoint ep) = true
  · rw [if_pos hendpoints]
    exact h
  · rw [if_neg hendpoints]
    by_cases hvalid : R.schema.validType place = true
    · rw [if_pos hvalid]
      split
      · exact h
      · exact h
    · rw [if_neg hvalid]
      split
      · exact h
      · rename_i hfresh
        have hadds : (spec.endpoints.all (fun ep => R.schema.validEndpoint ep) && !R.schema.validType place &&
            !R.schema.kTypeInfo.any fun info => info.name != "" && info.name == spec.name) = true := by
          rw [Bool.eq_false_of_not_eq_true hvalid, Bool.eq_false_of_not_eq_true hfresh]
          simpa using hendpoints
        obtain ⟨hlast, hfront⟩ := hbehind hadds
        refine ⟨?_, h.endpoints⟩
        intro name hname
        obtain ⟨i, row, hi, hstart, hnow⟩ := h.types name hname
        have hplace : i ≠ place.toNat := by
          intro hsame
          have hrow := hnow.validType hi (v4TypeNames_ne_empty name hname)
          rw [hsame, UInt32.ofNat_toNat] at hrow
          exact hvalid hrow
        refine ⟨i, row, hi, hstart, hnow.keep (getElem?_set_growFor hlast hplace hnow.there) ?_⟩
        intro j hj other hother
        rcases of_getElem?_set_growFor hlast hother with hold | hfiller | ⟨hnew, hrow⟩
        · exact .inl hold
        · refine .inr ?_
          rw [hfiller]
          exact (v4TypeNames_ne_empty name hname).symm
        · refine .inr ?_
          rw [hrow]
          intro hnamed
          have hnamed : cString spec.name = name := hnamed
          rw [hnamed] at hfront
          have hlt := hfront hname _ hnow.typeByName
          rw [UInt32.lt_iff_toNat_lt, Schema.FirstNamed.toNat_ofNat hi, ← hnew] at hlt
          exact absurd hj (Nat.lt_asymm hlt)

theorem dtypeRegisterEx_keeps (h : S₀.SameBuiltins R.schema) (ty : UInt32) (description : String) (spec : TypeSpec)
    (hbehind : R.AddsBehind ty spec) : S₀.SameBuiltins (R.dtypeRegisterEx ty description spec).2.schema := by
  have hregistered := dtypeRegister_keeps h ty spec hbehind
  unfold dtypeRegisterEx
  dsimp only
  split
  · exact hregistered
  · split
    · exact hregistered
    · exact hregistered

/-- A type that may go has the name of no built-in. -/
theorem dtypeRemove_keeps (h : S₀.SameBuiltins R.schema) (ty : UInt32) : S₀.SameBuiltins (R.dtypeRemove ty).2.schema := by
  unfold dtypeRemove
  dsimp only
  split
  · exact h
  · rename_i hvalid
    split
    · exact h
    · rename_i hinternal
      refine ⟨?_, h.endpoints⟩
      intro name hname
      obtain ⟨i, row, hi, hstart, hnow⟩ := h.types name hname
      generalize R.schema.cApiTypeId ty = place at hvalid hinternal ⊢
      have hvalid : R.schema.validType place = true := by simpa using hvalid
      have hplace : i ≠ place.toNat := by
        intro hsame
        apply hinternal
        have hown : R.schema.cApiTypeId place = place := by
          unfold Schema.cApiTypeId
          rw [if_pos hvalid]
        unfold Schema.isInternalTypeId
        rw [hown, hvalid, Bool.true_and, ← hsame, hnow.typeAt, hnow.named]
        exact List.contains_iff_mem.mpr hname
      refine ⟨i, row, hi, hstart, hnow.keep ?_ ?_⟩
      · dsimp only
        rw [List.getElem?_set_ne (Ne.symm hplace)]
        exact hnow.there
      · intro j hj other hother
        dsimp only at hother
        by_cases hj' : j = place.toNat
        · refine .inr ?_
          subst hj'
          rw [List.getElem?_set_self'] at hother
          obtain ⟨_, _, heq⟩ := Option.map_eq_some_iff.mp hother
          rw [← heq]
          exact (v4TypeNames_ne_empty name hname).symm
        · rw [List.getElem?_set_ne (Ne.symm hj')] at hother
          exact .inl hother

theorem dtypeRemoveByName_keeps (h : S₀.SameBuiltins R.schema) (name : String) :
    S₀.SameBuiltins (R.dtypeRemoveByName name).2.schema := by
  unfold dtypeRemoveByName
  split
  · exact h
  · split
    · exact dtypeRemove_keeps h _
    · exact h

theorem step_keeps (h : S₀.SameBuiltins R.schema) {op : Op} (hop : R.Protects op) : S₀.SameBuiltins (R.step op).schema := by
  cases op with
  | endpointRegisterEx endpoint name description linkLocalOnly => exact endpointRegisterEx_keeps h endpoint name description linkLocalOnly hop
  | ensureHandlerEndpoint endpoint => exact ensureHandlerEndpoint_keeps h endpoint hop
  | endpointRemove endpoint => exact endpointRemove_keeps h endpoint hop
  | endpointRemoveByName name => exact endpointRemoveByName_keeps h name hop
  | dtypeRegister ty spec => exact dtypeRegister_keeps h ty spec hop
  | dtypeRegisterEx ty description spec => exact dtypeRegisterEx_keeps h ty description spec hop
  | dtypeRemove ty => exact dtypeRemove_keeps h ty
  | dtypeRemoveByName name => exact dtypeRemoveByName_keeps h name

/-! ## Runs of calls -/

/-- What a program calls: one of the functions, or `seds_schema_register_json_bytes`. -/
inductive Call where
  | op (op : Op)
  | registerJson (endpoints : Option (List JsonEndpoint)) (types : Option (List JsonType))

def perform (R : Registry) : Call → Registry
  | .op op => R.step op
  | .registerJson endpoints types => (R.registerSchemaJson endpoints types).2

/-- A call leaves the built-ins alone; what is registered from a text, one entry after the other. -/
def Spares (R : Registry) : Call → Prop
  | .op op => R.Protects op
  | .registerJson endpoints types => Along step Protects R (R.jsonOps endpoints types)

theorem perform_keeps (h : S₀.SameBuiltins R.schema) {call : Call} (hcall : R.Spares call) : S₀.SameBuiltins (R.perform call).schema := by
  cases call with
  | op op => exact step_keeps h hcall
  | registerJson endpoints types =>
    show S₀.SameBuiltins (R.registerSchemaJson endpoints types).2.schema
    rw [registerSchemaJson_run]
    exact Along.invariant (I := fun R => S₀.SameBuiltins R.schema) hcall h fun R op hop h => step_keeps h hop

instance (R : Registry) : (call : Call) → Decidable (R.Spares call)
  | .op op => inferInstanceAs (Decidable (R.Protects op))
  | .registerJson endpoints types => inferInstanceAs (Decidable (Along step Protects R (R.jsonOps endpoints types)))

end Registry

/-! ## The tables a build starts with -/

section

variable {userEndpoints : List String} {userTypes : List TypeInfo}

theorem makeTypeInfo_builtins (names : List String) :
    (makeTypeInfo userTypes names true true).map (·.name) = userTypes.map (·.name) ++
      ["TIME_SYNC_ANNOUNCE", "TIME_SYNC_REQUEST", "TIME_SYNC_RESPONSE", "DISCOVERY_ANNOUNCE", "DISCOVERY_TIMESYNC_SOURCES",
       "DISCOVERY_TOPOLOGY", "RELIABLE_ACK", "RELIABLE_PARTIAL_ACK", "RELIABLE_PACKET_REQUEST", "TELEMETRY_ERROR"] := by
  unfold makeTypeInfo
  simp only [List.map_append, List.append_assoc]
  rfl

/-- Every built-in type has a row. -/
theorem runtimeSchema_row (names : List String) {name : String} (hname : name ∈ Schema.v4TypeNames) :
    ∃ k row, k ≤ 1018 ∧ (makeRuntimeTypeInfo (makeTypeInfo userTypes names true true) names)[k]? = some row ∧ row.name = name := by
  generalize hlegacy : makeTypeInfo userTypes names true true = legacy
  -- a place whose row has a name is in the table
  have hthere : ∀ k, ((makeRuntimeTypeInfo legacy names).getD k .empty).name = name →
      ∃ row, (makeRuntimeTypeInfo legacy names)[k]? = some row ∧ row.name = name := by
    intro k hk
    rw [List.getD_eq_getElem?_getD] at hk
    cases hrow : (makeRuntimeTypeInfo legacy names)[k]? with
    | none =>
      rw [hrow] at hk
      exact absurd hk.symm (Registry.v4TypeNames_ne_empty name hname)
    | some row =>
      rw [hrow] at hk
      exact ⟨row, rfl, hk⟩
  have hsplit : ∀ name ∈ Schema.v4TypeNames, (∃ wire, wire < 10 ∧ Schema.v4TypeNames.getD wire "" = name) ∨
      ∃ p ∈ addedBuiltins, p.1 ≤ 1018 ∧ p.2.1 = name := by decide
  cases hsplit name hname with
  | inl hcopied =>
    obtain ⟨wire, hwire, hat⟩ := hcopied
    have hmem : name ∈ legacy.map (·.name) := by
      have hten : ∀ wire < 10, Schema.v4TypeNames.getD wire "" ∈
          ["TIME_SYNC_ANNOUNCE", "TIME_SYNC_REQUEST", "TIME_SYNC_RESPONSE", "DISCOVERY_ANNOUNCE", "DISCOVERY_TIMESYNC_SOURCES",
           "DISCOVERY_TOPOLOGY", "RELIABLE_ACK", "RELIABLE_PARTIAL_ACK", "RELIABLE_PACKET_REQUEST", "TELEMETRY_ERROR"] := by decide
      rw [← hlegacy, makeTypeInfo_builtins, ← hat]
      exact List.mem_append_right _ (hten wire hwire)
    obtain ⟨info, hinfo, hnamed⟩ := List.mem_map.mp hmem
    have hsome : (legacy.find? fun info => info.name == Schema.v4TypeNames.getD wire "").isSome = true := by
      rw [List.find?_isSome, hat]
      exact ⟨info, hinfo, by rw [hnamed]; exact beq_self_eq_true name⟩
    obtain ⟨first, hfirst⟩ := Option.isSome_iff_exists.mp hsome
    have hrow : (makeRuntimeTypeInfo legacy names).getD wire .empty = remapEndpoints names first := runtimeRow_copied hwire hfirst
    have hfirstNamed : first.name = name := by
      have hbeq := List.find?_some hfirst
      rw [hat] at hbeq
      exact eq_of_beq hbeq
    obtain ⟨row, hrow, hrowNamed⟩ := hthere wire (by rw [hrow]; exact hfirstNamed)
    exact ⟨wire, row, by omega, hrow, hrowNamed⟩
  | inr hadded =>
    obtain ⟨p, hp, hplace, hnamed⟩ := hadded
    have hrow : (makeRuntimeTypeInfo legacy names).getD p.1 .empty = addedRow p := runtimeRow_added hp
    obtain ⟨row, hrow, hrowNamed⟩ := hthere p.1 (by rw [hrow]; exact hnamed)
    exact ⟨p.1, row, hplace, hrow, hrowNamed⟩

/-- The built-in endpoints have their runtime ids, unless there are more user endpoints than ids before them. -/
theorem runtimeSchema_endpoint (hfew : userEndpoints.length < 100) {name : String} {id : Nat}
    (hbuiltin : (name, id) ∈ [("TIME_SYNC", 200), ("DISCOVERY", 201), ("TELEMETRY_ERROR", 202)]) :
    (makeRuntimeEndpointNames (makeEndpointNames userEndpoints true true))[id]? = some (some name) := by
  have hnames : makeEndpointNames userEndpoints true true = userEndpoints ++ ["TIME_SYNC", "DISCOVERY", "TELEMETRY_ERROR"] := by
    unfold makeEndpointNames
    simp only [List.append_assoc]
    rfl
  have hid : ∀ i, runtimeEndpointIdForName name i = id := by
    intro i
    simp only [List.mem_cons, Prod.mk.injEq, List.not_mem_nil, or_false] at hbuiltin
    rcases hbuiltin with ⟨rfl, rfl⟩ | ⟨rfl, rfl⟩ | ⟨rfl, rfl⟩ <;> rfl
  have hmem : name ∈ makeEndpointNames userEndpoints true true := by
    rw [hnames]
    refine List.mem_append_right _ ?_
    have hthree : ∀ p ∈ [("TIME_SYNC", 200), ("DISCOVERY", 201), ("TELEMETRY_ERROR", 202)],
        p.1 ∈ ["TIME_SYNC", "DISCOVERY", "TELEMETRY_ERROR"] := by decide
    exact hthree (name, id) hbuiltin
  obtain ⟨i, hi⟩ := List.mem_iff_getElem?.mp hmem
  have hslot : (makeRuntimeEndpointNames (makeEndpointNames userEndpoints true true)).getD id none = some name := by
    rw [makeRuntimeEndpointNames_fills]
    refine foldl_fillStep_only (b := (name, i)) (List.mem_zipIdx_iff_getElem?.mpr hi) (congrArg some (hid i)) ?_ _
    intro p hp hplace
    have hplace : runtimeEndpointIdForName p.1 p.2 = id := Option.some.inj hplace
    have hat := List.mem_zipIdx_iff_getElem?.mp hp
    have hids : ∀ q ∈ [("TIME_SYNC", 200), ("DISCOVERY", 201), ("TELEMETRY_ERROR", 202)], 200 ≤ q.2 := by decide
    have hlow : 200 ≤ id := hids (name, id) hbuiltin
    by_cases hthree : p.1 ∈ ["TIME_SYNC", "DISCOVERY", "TELEMETRY_ERROR"]
    -- the three have different ids
    · have hdistinct : ∀ q ∈ [("TIME_SYNC", 200), ("DISCOVERY", 201), ("TELEMETRY_ERROR", 202)],
          ∀ other ∈ ["TIME_SYNC", "DISCOVERY", "TELEMETRY_ERROR"], runtimeEndpointIdForName other 0 = q.2 → other = q.1 := by decide
      have hfixed : runtimeEndpointIdForName p.1 0 = runtimeEndpointIdForName p.1 p.2 := by
        simp only [List.mem_cons, List.not_mem_nil, or_false] at hthree
        rcases hthree with hsame | hsame | hsame <;> rw [hsame] <;> rfl
      exact congrArg some (hdistinct (name, id) hbuiltin p.1 hthree (hfixed.trans hplace))
    -- a user endpoint comes before them
    · have huser : p.2 < userEndpoints.length := by
        by_contra hge
        rw [hnames, List.getElem?_append_right (Nat.le_of_not_lt hge)] at hat
        exact hthree (List.mem_of_getElem? hat)
      have hplain : runtimeEndpointIdForName p.1 p.2 = 100 + p.2 := by
        simp only [List.mem_cons, List.not_mem_nil, or_false, not_or] at hthree
        unfold runtimeEndpointIdForName
        rw [if_neg hthree.1, if_neg hthree.2.1, if_neg hthree.2.2]
      omega
  rw [List.getD_eq_getElem?_getD] at hslot
  cases hat : (makeRuntimeEndpointNames (makeEndpointNames userEndpoints true true))[id]? with
  | none =>
    rw [hat] at hslot
    cases hslot
  | some slot =>
    rw [hat] at hslot
    exact congrArg some hslot

theorem runtimeSchema_types (timesync discovery : Bool) :
    (runtimeSchema userEndpoints userTypes timesync discovery).kTypeInfo =
      makeRuntimeTypeInfo (makeTypeInfo userTypes (makeEndpointNames userEndpoints timesync discovery) timesync discovery)
        (makeEndpointNames userEndpoints timesync discovery) := by
  unfold runtimeSchema
  dsimp only

theorem runtimeSchema_names (timesync discovery : Bool) :
    (runtimeSchema userEndpoints userTypes timesync discovery).kEndpointNames =
      makeRuntimeEndpointNames (makeEndpointNames userEndpoints timesync discovery) := by
  unfold runtimeSchema
  dsimp only

theorem runtimeSchema_builtins (hfew : userEndpoints.length < 100) :
    (runtimeSchema userEndpoints userTypes true true).SameBuiltins (runtimeSchema userEndpoints userTypes true true) := by
  have hrows : ∀ {name}, name ∈ Schema.v4TypeNames → ∃ k row, k ≤ 1018 ∧
      (runtimeSchema userEndpoints userTypes true true).kTypeInfo[k]? = some row ∧ row.name = name := by
    rw [runtimeSchema_types]
    exact runtimeSchema_row _
  have hnames : ∀ {name id}, (name, id) ∈ [("TIME_SYNC", 200), ("DISCOVERY", 201), ("TELEMETRY_ERROR", 202)] →
      (runtimeSchema userEndpoints userTypes true true).kEndpointNames[id]? = some (some name) := by
    rw [runtimeSchema_names]
    exact runtimeSchema_endpoint hfew
  generalize runtimeSchema userEndpoints userTypes true true = S at hrows hnames
  refine ⟨?_, ?_⟩
  · intro name hname
    obtain ⟨k, row, hk, hrow, hnamed⟩ := hrows hname
    obtain ⟨i, first, hi, hfirst⟩ := Schema.FirstNamed.of_row hrow hnamed
    exact ⟨i, first, by omega, hfirst, hfirst⟩
  · intro ep hep
    unfold isInternalEndpointId at hep
    simp only [Bool.or_eq_true, beq_iff_eq, or_assoc] at hep
    rcases hep with rfl | rfl | rfl
    · have hname := @hnames "TIME_SYNC" 200 (by decide)
      exact ⟨_, hname, hname⟩
    · have hname := @hnames "DISCOVERY" 201 (by decide)
      exact ⟨_, hname, hname⟩
    · have hname := @hnames "TELEMETRY_ERROR" 202 (by decide)
      exact ⟨_, hname, hname⟩

end

/-- **The built-ins survive.** From the tables of a build with time sync and discovery, and after every sequence of calls that
    spare the built-ins: the wire ids 0..18 mean the types they meant, with the same rows, those types have these wire ids, and
    endpoints 200, 201 and 202 have their names. -/
theorem builtins_kept (userEndpoints : List String) (userTypes : List TypeInfo) (hfew : userEndpoints.length < 100)
    (calls : List Registry.Call)
    (hspares : Along Registry.perform Registry.Spares (Registry.new (runtimeSchema userEndpoints userTypes true true)) calls) :
    let S₀ := runtimeSchema userEndpoints userTypes true true
    let S := (runFrom Registry.perform (Registry.new S₀) calls).schema
    (∀ wire : UInt32, wire ≤ 18 → ∃ ty, S₀.localTypeId wire = some ty ∧ S.localTypeId wire = some ty ∧
      S.kTypeInfo[ty.toNat]? = S₀.kTypeInfo[ty.toNat]? ∧ S.v4TypeId ty = wire) ∧
    S.kEndpointNames[200]? = some (some "TIME_SYNC") ∧ S.kEndpointNames[201]? = some (some "DISCOVERY") ∧
    S.kEndpointNames[202]? = some (some "TELEMETRY_ERROR") := by
  intro S₀ S
  have hnames : ∀ name id, (name, id) ∈ [("TIME_SYNC", 200), ("DISCOVERY", 201), ("TELEMETRY_ERROR", 202)] →
      S₀.kEndpointNames[id]? = some (some name) := by
    intro name id hbuiltin
    rw [runtimeSchema_names]
    exact runtimeSchema_endpoint hfew hbuiltin
  have hkept : S₀.SameBuiltins S :=
    hspares.invariant (I := fun R => S₀.SameBuiltins R.schema) (runtimeSchema_builtins hfew) fun R call hcall h =>
      Registry.perform_keeps h hcall
  generalize S₀ = S₀ at hkept hnames
  generalize S = S at hkept
  have hendpoint : ∀ name id, (name, id) ∈ [("TIME_SYNC", 200), ("DISCOVERY", 201), ("TELEMETRY_ERROR", 202)] →
      isInternalEndpointId (UInt32.ofNat id) = true → (UInt32.ofNat id).toNat = id → S.kEndpointNames[id]? = some (some name) := by
    intro name id hbuiltin hinternal hid
    obtain ⟨name', hstart, hnow⟩ := hkept.endpoints _ hinternal
    rw [hid] at hstart hnow
    rw [hnames name id hbuiltin] at hstart
    rw [hnow, ← hstart]
  refine ⟨?_, hendpoint "TIME_SYNC" 200 (by decide) rfl rfl, hendpoint "DISCOVERY" 201 (by decide) rfl rfl,
    hendpoint "TELEMETRY_ERROR" 202 (by decide) rfl rfl⟩
  intro wire hwire
  have hlt : wire.toNat < 19 := Nat.lt_succ_of_le (UInt32.le_iff_toNat_le.mp hwire)
  have hsome : Schema.v4TypeNames[wire.toNat]? = some (Schema.v4TypeNames[wire.toNat]) := List.getElem?_eq_getElem hlt
  obtain ⟨i, row, hi, hstart, hnow⟩ := hkept.types _ (List.mem_of_getElem? hsome)
  have hids := hnow.wireIds hi hsome
  rw [UInt32.ofNat_toNat] at hids
  have hstartIds := hstart.wireIds hi hsome
  rw [UInt32.ofNat_toNat] at hstartIds
  refine ⟨UInt32.ofNat i, hstartIds.1, hids.1, ?_, hids.2⟩
  rw [Schema.FirstNamed.toNat_ofNat hi, hnow.there, hstart.there]

/-! ## A name that is compared whole and read in part -/

/-- A bench and its type come and go, the card goes with everything that was meant for it, and the built-ins stay. -/
def benchCalls : List Registry.Call :=
  [.op (.endpointRegisterEx 110 "BENCH" "" false), .op (.dtypeRegister 120 (Registry.byteSpec "PROBE" [110])),
   .registerJson (some [⟨some "Console", some "CONSOLE", none, none, none, none⟩])
     (some [⟨some "KEYSTROKE", none, some "UInt8", none, none, none, none, none, none, some ["Console"], some 1⟩]),
   .op (.endpointRemoveByName "SD_CARD"), .op (.endpointRemove 100), .op (.endpointRemove 200), .op (.dtypeRemove 18),
   .op (.dtypeRemoveByName "PROBE")]

theorem defaultTestSchema_built : ∃ userTypes, defaultTestSchema = runtimeSchema ["SD_CARD", "RADIO"] userTypes true true := by
  unfold defaultTestSchema
  exact ⟨_, rfl⟩

/-- The last row of the table is still the one of peer-to-peer messages. -/
theorem builtins_kept_bench :
    let S := (runFrom Registry.perform (Registry.new defaultTestSchema) benchCalls).schema
    S.validType 100 = false ∧ (S.typeAt 107).name = "KEYSTROKE" ∧ S.localTypeId 18 = some 1018 ∧
    S.kEndpointNames[200]? = some (some "TIME_SYNC") := by
  have hrun : Along Registry.perform Registry.Spares (Registry.new defaultTestSchema) benchCalls ∧
      let S := (runFrom Registry.perform (Registry.new defaultTestSchema) benchCalls).schema
      S.validType 100 = false ∧ (S.typeAt 107).name = "KEYSTROKE" ∧ defaultTestSchema.localTypeId 18 = some 1018 := by
    rw [defaultTestSchema_eq]
    decide +kernel
  obtain ⟨hspares, hcard, hkeystroke, hstart⟩ := hrun
  obtain ⟨userTypes, hbuilt⟩ := defaultTestSchema_built
  rw [hbuilt] at hspares hcard hkeystroke hstart ⊢
  obtain ⟨hwires, hname, -⟩ := builtins_kept ["SD_CARD", "RADIO"] userTypes (by decide) benchCalls hspares
  obtain ⟨ty, hty, hnow, -⟩ := hwires 18 (by decide)
  refine ⟨hcard, hkeystroke, ?_, hname⟩
  rw [← hstart]
  exact hnow.trans hty.symm

/-- A type is registered as `SEDSNET_P2P_MESSAGE`, with a zero byte at the end of the name: no row has that name, so that it is
    taken, and every reader of the row sees the name of the built-in. Wire id 18 is type 500 from then on. -/
theorem dtypeRegister_shadows :
    let R := (Registry.new defaultTestSchema).perform (.op (.dtypeRegister 500 (Registry.byteSpec "SEDSNET_P2P_MESSAGE\x00" [101])))
    defaultTestSchema.localTypeId 18 = some 1018 ∧ R.schema.localTypeId 18 = some 500 := by
  rw [defaultTestSchema_eq]
  decide +kernel

end SedsNet
