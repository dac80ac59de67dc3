import Mathlib.Data.List.Induction
import SedsNet.Tables

/-!
# What stands where in the tables

`make_runtime_endpoint_names` and `make_runtime_type_info` fill their tables by assignments, one after the other, and a later
one may hit the place of an earlier one. The lemmas here say what stands at an index when the loops are done.
-/

set_option autoImplicit false

namespace SedsNet

/-! ## Loops of assignments -/

section

variable {α β : Type}

theorem getD_assignAt (v : List α) (i k : Nat) (filler x : α) :
    (assignAt v i filler x).getD k filler = if k = i then x else v.getD k filler := by
  unfold assignAt
  simp only [List.getD_eq_getElem?_getD, List.getElem?_set, List.length_append, List.length_replicate]
  by_cases hk : k = i
  · subst hk
    rw [if_pos rfl, if_pos rfl, if_pos (by omega)]
    rfl
  · rw [if_neg (Ne.symm hk), if_neg hk, List.getElem?_append]
    split
    · rfl
    · rename_i hlen
      rw [List.getElem?_replicate, List.getElem?_eq_none (Nat.le_of_not_lt hlen)]
      split <;> rfl

theorem length_assignAt (v : List α) (i : Nat) (filler x : α) : (assignAt v i filler x).length = max v.length (i + 1) := by
  unfold assignAt
  rw [List.length_set, List.length_append, List.length_replicate]
  omega

/-- One assignment of a loop: at the place the item has, if it has one. -/
def fillStep (place : β → Option Nat) (value : β → α) (filler : α) (v : List α) (b : β) : List α :=
  match place b with
  | some i => assignAt v i filler (value b)
  | none => v

variable {place : β → Option Nat} {value : β → α} {filler : α}

/-- A place that no item has is as it was. -/
theorem foldl_fillStep_other {bs : List β} {k : Nat} (h : ∀ b ∈ bs, place b ≠ some k) (v : List α) :
    (bs.foldl (fillStep place value filler) v).getD k filler = v.getD k filler := by
  induction bs generalizing v with
  | nil => rfl
  | cons b bs ih =>
    rw [List.foldl_cons, ih fun b' hb' => h b' (List.mem_cons_of_mem b hb')]
    have hb := h b List.mem_cons_self
    unfold fillStep
    cases hplace : place b with
    | none => rfl
    | some i =>
      rw [hplace, ne_eq, Option.some.injEq] at hb
      dsimp only
      rw [getD_assignAt, if_neg (Ne.symm hb)]

/-- The last item with a place is what stands there. -/
theorem foldl_fillStep_last {before after : List β} {b : β} {k : Nat} (hplace : place b = some k)
    (hlast : ∀ b' ∈ after, place b' ≠ some k) (v : List α) :
    ((before ++ b :: after).foldl (fillStep place value filler) v).getD k filler = value b := by
  rw [List.foldl_append, List.foldl_cons, foldl_fillStep_other hlast]
  unfold fillStep
  rw [hplace]
  dsimp only
  rw [getD_assignAt, if_pos rfl]

/-- A place that only one item has holds it. -/
theorem foldl_fillStep_only {bs : List β} {b : β} {k : Nat} (hb : b ∈ bs) (hplace : place b = some k)
    (honly : ∀ b' ∈ bs, place b' = some k → value b' = value b) (v : List α) :
    (bs.foldl (fillStep place value filler) v).getD k filler = value b := by
  induction bs using List.reverseRecOn generalizing b with
  | nil => cases hb
  | append_singleton bs b' ih =>
    by_cases hlast : place b' = some k
    · rw [foldl_fillStep_last hlast (fun _ hmem => absurd hmem List.not_mem_nil)]
      exact honly b' (List.mem_append_right bs List.mem_cons_self) hlast
    · have hmem : b ∈ bs := by
        cases List.mem_append.mp hb with
        | inl hmem => exact hmem
        | inr hsame =>
          rw [List.mem_singleton.mp hsame] at hplace
          exact absurd hplace hlast
      rw [List.foldl_append, List.foldl_cons, List.foldl_nil]
      have hsame : (fillStep place value filler (bs.foldl (fillStep place value filler) v) b').getD k filler =
          (bs.foldl (fillStep place value filler) v).getD k filler :=
        @foldl_fillStep_other _ _ _ _ _ [b'] _ (fun b'' hb'' => by rw [List.mem_singleton.mp hb'']; exact hlast) _
      rw [hsame]
      exact ih hmem hplace fun b'' hb'' => honly b'' (List.mem_append_left _ hb'')

end

/-! ## Endpoints -/

theorem makeRuntimeEndpointNames_fills (legacy : List String) :
    makeRuntimeEndpointNames legacy =
      legacy.zipIdx.foldl (fillStep (fun p => some (runtimeEndpointIdForName p.1 p.2)) (fun p => some p.1) none) (legacy.map some) := rfl

/-! ## Types -/

/-- The place of a generated built-in, if the schema has it. -/
def copiedPlace (legacy : List TypeInfo) (p : String × Nat) : Option Nat :=
  (legacy.find? fun info => info.name == p.1).map fun _ => p.2

def copiedRow (legacy : List TypeInfo) (names : List String) (p : String × Nat) : TypeInfo :=
  remapEndpoints names ((legacy.find? fun info => info.name == p.1).getD .empty)

theorem copyBuiltin_fills (legacy : List TypeInfo) (names : List String) (types : List TypeInfo) (p : String × Nat) :
    copyBuiltin legacy names types p.2 p.1 = fillStep (copiedPlace legacy) (copiedRow legacy names) .empty types p := by
  unfold copyBuiltin fillStep copiedPlace copiedRow
  cases hfind : legacy.find? fun info => info.name == p.1 with
  | none => simp only [Option.map_none]
  | some info => simp only [Option.map_some, Option.getD_some]

/-- The place of a legacy row that is no generated built-in. -/
def userPlace (p : TypeInfo × Nat) : Option Nat := runtimeUserTypeIdForName p.1.name p.2

/-- The built-ins that `add_builtin` adds. -/
def addedBuiltins : List (Nat × String × ReliableMode) :=
  [(1010, "SEDSNET_DISCOVERY_SCHEMA", .None), (1011, "SEDSNET_DISCOVERY_TOPOLOGY_REQUEST", .None),
   (1012, "SEDSNET_DISCOVERY_SCHEMA_REQUEST", .None), (1013, "SEDSNET_MANAGED_VARIABLE_REQUEST", .Ordered),
   (1014, "SEDSNET_MANAGED_VARIABLE_VALUE", .Ordered), (1015, "SEDSNET_DISCOVERY_LEAVE", .None),
   (1016, "SEDSNET_DISCOVERY_LINK_CAPABILITIES", .None), (1017, "SEDSNET_DISCOVERY_ADDRESS", .Ordered),
   (1018, "SEDSNET_P2P_MESSAGE", .Ordered)]

def addedRow (p : Nat × String × ReliableMode) : TypeInfo := ⟨p.2.1, 1, 0, true, p.2.2, .UInt8, .Data, false, [201]⟩

theorem makeRuntimeTypeInfo_fills (legacy : List TypeInfo) (names : List String) :
    makeRuntimeTypeInfo legacy names =
      addedBuiltins.foldl (fillStep (fun p => some p.1) addedRow .empty)
        (legacy.zipIdx.foldl (fillStep userPlace (fun p => remapEndpoints names p.1) .empty)
          ((Schema.v4TypeNames.take 10).zipIdx.foldl (fillStep (copiedPlace legacy) (copiedRow legacy names) .empty) legacy)) := by
  have hcopies : (fun types p => copyBuiltin legacy names types p.2 p.1) =
      fillStep (copiedPlace legacy) (copiedRow legacy names) .empty := by
    funext types p
    exact copyBuiltin_fills legacy names types p
  unfold makeRuntimeTypeInfo
  dsimp only
  rw [hcopies]
  generalize (Schema.v4TypeNames.take 10).zipIdx.foldl _ _ = copied
  have husers : ∀ ps : List (TypeInfo × Nat), ps.foldl (fun types p =>
      match runtimeUserTypeIdForName p.1.name p.2 with
      | some id => assignAt types id .empty (remapEndpoints names p.1)
      | none => types) copied = ps.foldl (fillStep userPlace (fun p => remapEndpoints names p.1) .empty) copied := by
    intro ps
    rfl
  generalize hfilled : legacy.zipIdx.foldl (fillStep userPlace (fun p => remapEndpoints names p.1) .empty) copied = filled
  have hadded : ∀ types, types = filled → addedBuiltins.foldl (fillStep (fun p => some p.1) addedRow .empty) filled =
      addBuiltin (addBuiltin (addBuiltin (addBuiltin (addBuiltin (addBuiltin (addBuiltin (addBuiltin (addBuiltin types
        1010 "SEDSNET_DISCOVERY_SCHEMA" .None) 1011 "SEDSNET_DISCOVERY_TOPOLOGY_REQUEST" .None)
        1012 "SEDSNET_DISCOVERY_SCHEMA_REQUEST" .None) 1013 "SEDSNET_MANAGED_VARIABLE_REQUEST" .Ordered)
        1014 "SEDSNET_MANAGED_VARIABLE_VALUE" .Ordered) 1015 "SEDSNET_DISCOVERY_LEAVE" .None)
        1016 "SEDSNET_DISCOVERY_LINK_CAPABILITIES" .None) 1017 "SEDSNET_DISCOVERY_ADDRESS" .Ordered)
        1018 "SEDSNET_P2P_MESSAGE" .Ordered := by
    intro types htypes
    rw [htypes]
    simp only [addedBuiltins, List.foldl_cons, List.foldl_nil, fillStep, addedRow, addBuiltin]
  exact (hadded _ ((husers legacy.zipIdx).trans hfilled)).symm

variable {legacy : List TypeInfo} {names : List String}

/-- A row at one of the nine places that `add_builtin` writes. -/
def isAddedPlace (k : Nat) : Bool := decide (1010 ≤ k) && decide (k ≤ 1018)

/-- The row of a built-in that is always there. -/
theorem runtimeRow_added {p : Nat × String × ReliableMode} (hp : p ∈ addedBuiltins) :
    (makeRuntimeTypeInfo legacy names).getD p.1 .empty = addedRow p := by
  rw [makeRuntimeTypeInfo_fills]
  apply foldl_fillStep_only hp rfl
  intro p' hp' hplace
  -- no two of them have the same place
  have hdistinct : ∀ p ∈ addedBuiltins, ∀ p' ∈ addedBuiltins, p'.1 = p.1 → p' = p := by decide
  rw [hdistinct p hp p' hp' (Option.some.inj hplace)]

theorem runtimeRow_notAdded {k : Nat} (hk : isAddedPlace k = false) :
    (makeRuntimeTypeInfo legacy names).getD k .empty =
      (legacy.zipIdx.foldl (fillStep userPlace (fun p => remapEndpoints names p.1) .empty)
        ((Schema.v4TypeNames.take 10).zipIdx.foldl (fillStep (copiedPlace legacy) (copiedRow legacy names) .empty) legacy)).getD k .empty := by
  rw [makeRuntimeTypeInfo_fills]
  apply foldl_fillStep_other
  intro p hp hplace
  rw [Option.some.injEq] at hplace
  have hrange : ∀ p ∈ addedBuiltins, 1010 ≤ p.1 ∧ p.1 ≤ 1018 := by decide
  have hp := hrange p hp
  unfold isAddedPlace at hk
  simp only [Bool.and_eq_false_iff, decide_eq_false_iff_not] at hk
  omega

/-- The row of a user type: its own, unless the place is one of a built-in's. -/
theorem runtimeRow_user {i : Nat} {info : TypeInfo} (hi : legacy[i]? = some info) (hname : info.name ∉ Schema.v4TypeNames.take 10)
    (hk : isAddedPlace (100 + i) = false) :
    (makeRuntimeTypeInfo legacy names).getD (100 + i) .empty = remapEndpoints names info := by
  rw [runtimeRow_notAdded hk]
  have hplace : userPlace (info, i) = some (100 + i) := by
    unfold userPlace runtimeUserTypeIdForName
    rw [if_neg (by simpa using hname)]
  refine foldl_fillStep_only (b := (info, i)) (List.mem_zipIdx_iff_getElem?.mpr hi) hplace ?_ _
  intro p hp hsame
  unfold userPlace runtimeUserTypeIdForName at hsame
  split at hsame
  · cases hsame
  · rw [Option.some.injEq, Nat.add_left_cancel_iff] at hsame
    have hrow := List.mem_zipIdx_iff_getElem?.mp hp
    rw [hsame, hi, Option.some.injEq] at hrow
    rw [hrow]

/-- Below 100 the user types have no place. -/
theorem runtimeRow_low {k : Nat} (hk : ∀ i info, legacy[i]? = some info → info.name ∉ Schema.v4TypeNames.take 10 → k ≠ 100 + i)
    (hadded : isAddedPlace k = false) :
    (makeRuntimeTypeInfo legacy names).getD k .empty =
      ((Schema.v4TypeNames.take 10).zipIdx.foldl (fillStep (copiedPlace legacy) (copiedRow legacy names) .empty) legacy).getD k .empty := by
  rw [runtimeRow_notAdded hadded]
  apply foldl_fillStep_other
  intro p hp hplace
  unfold userPlace runtimeUserTypeIdForName at hplace
  split at hplace
  · cases hplace
  · rename_i hname
    rw [Option.some.injEq] at hplace
    exact hk p.2 p.1 (List.mem_zipIdx_iff_getElem?.mp hp) (by simpa using hname) hplace.symm

/-- The row of a generated built-in is the first of its name. -/
theorem runtimeRow_copied {wire : Nat} (hwire : wire < 10) {info : TypeInfo}
    (hfind : (legacy.find? fun info => info.name == Schema.v4TypeNames.getD wire "") = some info) :
    (makeRuntimeTypeInfo legacy names).getD wire .empty = remapEndpoints names info := by
  rw [runtimeRow_low (fun i _ _ _ => by omega) (by unfold isAddedPlace; simp; omega)]
  have hpairs : ∀ wire < 10, (Schema.v4TypeNames.getD wire "", wire) ∈ (Schema.v4TypeNames.take 10).zipIdx := by decide
  have hmem := hpairs wire hwire
  rw [foldl_fillStep_only (b := (Schema.v4TypeNames.getD wire "", wire)) hmem]
  · unfold copiedRow
    rw [hfind]
    rfl
  · unfold copiedPlace
    rw [hfind]
    rfl
  · intro p hp hplace
    have hsecond : p.2 = wire := by
      unfold copiedPlace at hplace
      cases hfound : legacy.find? fun info => info.name == p.1 with
      | none =>
        rw [hfound] at hplace
        cases hplace
      | some info' =>
        rw [hfound] at hplace
        exact Option.some.inj hplace
    have hsame : p = (Schema.v4TypeNames.getD wire "", wire) := by
      have hat := List.mem_zipIdx_iff_getElem?.mp hp
      rw [hsecond] at hat
      have hfirst : p.1 = Schema.v4TypeNames.getD wire "" := by
        rw [List.getElem?_take_of_lt hwire] at hat
        rw [List.getD_eq_getElem?_getD, hat]
        rfl
      exact Prod.ext hfirst hsecond
    rw [hsame]

/-- From 10 on, what no user type takes is the legacy row. -/
theorem runtimeRow_legacy {k : Nat} (hlow : 10 ≤ k)
    (hk : ∀ i info, legacy[i]? = some info → info.name ∉ Schema.v4TypeNames.take 10 → k ≠ 100 + i)
    (hadded : isAddedPlace k = false) :
    (makeRuntimeTypeInfo legacy names).getD k .empty = legacy.getD k .empty := by
  rw [runtimeRow_low hk hadded]
  apply foldl_fillStep_other
  intro p hp hplace
  have hseconds : ∀ p ∈ (Schema.v4TypeNames.take 10).zipIdx, p.2 < 10 := by decide
  have hsecond := hseconds p hp
  unfold copiedPlace at hplace
  cases hfound : legacy.find? fun info => info.name == p.1 with
  | none =>
    rw [hfound] at hplace
    cases hplace
  | some info' =>
    rw [hfound] at hplace
    have hsame : p.2 = k := Option.some.inj hplace
    omega

end SedsNet
