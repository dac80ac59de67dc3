import SedsNet.Registry

/-!
# Schemas registered from JSON text

`register_schema_json_text` (`src/upstream_api_compat.cpp`), from the point on where the text has been taken apart: the objects
of the two arrays, each with the values that were found under its keys. It gives ids to the entries, and registers them one
after the other through `seds_endpoint_register_ex` and `seds_dtype_register_ex`; it stops at the first that fails, and what
was registered before stays. `registerSchemaJson_run` says which calls it makes.
-/

set_option autoImplicit false

namespace SedsNet

def elementCodeFromName (name : String) : UInt8 :=
  match ["NoData", "Bool", "UInt8", "UInt16", "UInt32", "UInt64"].idxOf? name with
  | some code => UInt8.ofNat code
  | none =>
    match ["Int8", "Int16", "Int32", "Int64"].idxOf? name with
    | some code => UInt8.ofNat (7 + code)
    | none =>
      match ["Float32", "Float64", "String", "Binary"].idxOf? name with
      | some code => UInt8.ofNat (12 + code)
      | none => 2

def reliableCodeFromName (name : String) : UInt8 := if name = "Ordered" then 1 else if name = "Unordered" then 2 else 0

def messageClassCodeFromName (name : String) : UInt8 := if name = "Error" then 1 else if name = "Warning" then 2 else 0

/-- An object of `endpoints`, with the keys that are read of it. -/
structure JsonEndpoint where
  rust : Option String
  name : Option String
  description : Option String
  doc : Option String
  linkLocalOnly : Option Bool
  broadcastMode : Option String
  deriving DecidableEq, Repr, Inhabited

/-- `description`, or else `doc`. -/
def JsonEndpoint.text (ep : JsonEndpoint) : String := (ep.description.orElse fun _ => ep.doc).getD ""

def JsonEndpoint.linkLocal (ep : JsonEndpoint) : Bool := ep.linkLocalOnly.getD false || ep.broadcastMode.getD "" == "Never"

/-- An object of `types`. -/
structure JsonType where
  name : Option String
  kind : Option String
  dataType : Option String
  reliableMode : Option String
  reliable : Option Bool
  description : Option String
  doc : Option String
  priority : Option Nat
  messageClass : Option String
  endpoints : Option (List String)
  count : Option Nat
  deriving DecidableEq, Repr, Inhabited

def JsonType.text (ty : JsonType) : String := (ty.description.orElse fun _ => ty.doc).getD ""

/-- The arguments of `seds_dtype_register_ex` besides the id and the description. -/
def JsonType.spec (ty : JsonType) (name : String) (endpoints : List UInt32) : TypeSpec :=
  let isStatic := ty.kind.getD "Static" != "Dynamic"
  { name := name
    isStatic := isStatic
    elementCount := if isStatic then ty.count.getD 0 else 0
    messageDataType := elementCodeFromName (ty.dataType.getD "UInt8")
    messageClass := messageClassCodeFromName (ty.messageClass.getD "Data")
    reliable := if ty.reliable.getD false then 1 else reliableCodeFromName (ty.reliableMode.getD "None")
    priority := UInt8.ofNat (ty.priority.getD 0)
    endpoints := endpoints }

namespace Registry

/-- The loop `while (next < size && kEndpointNames[next] != nullptr) ++next`. -/
def nextEndpoint (R : Registry) (next : UInt32) : UInt32 :=
  next + UInt32.ofNat ((R.schema.kEndpointNames.drop next.toNat).takeWhile (·.isSome)).length

/-- The same over `kTypeInfo`. -/
def nextType (R : Registry) (next : UInt32) : UInt32 :=
  next + UInt32.ofNat ((R.schema.kTypeInfo.drop next.toNat).takeWhile (·.name != "")).length

/-- The loop over the endpoints: the code, the ids by their `rust` names, and the registry. -/
def registerJsonEndpoints : List JsonEndpoint → UInt32 → Map String UInt32 → Registry → SedsResult × Map String UInt32 × Registry
  | [], _, ids, R => (SEDS_OK, ids, R)
  | ep :: eps, next, ids, R =>
    match ep.rust, ep.name with
    | some rust, some name =>
      let next' := R.nextEndpoint (next + 1)
      let (rc, R) := R.endpointRegisterEx next name ep.text ep.linkLocal
      if rc ≠ SEDS_OK then (rc, ids, R) else registerJsonEndpoints eps next' (ids.insert rust next) R
    | _, _ => (SEDS_DESERIALIZE, ids, R)

/-- The loop over the types. Names of endpoints that are not in this schema are passed over. -/
def registerJsonTypes (ids : Map String UInt32) : List JsonType → UInt32 → Registry → SedsResult × Registry
  | [], _, R => (SEDS_OK, R)
  | ty :: tys, next, R =>
    match ty.name, ty.endpoints with
    | some name, some rusts =>
      let endpoints := rusts.filterMap ids.lookup
      if endpoints.isEmpty then (SEDS_BAD_ARG, R)
      else
        let next' := R.nextType (next + 1)
        let (rc, R) := R.dtypeRegisterEx next ty.text (ty.spec name endpoints)
        if rc ≠ SEDS_OK then (rc, R) else registerJsonTypes ids tys next' R
    | _, _ => (SEDS_DESERIALIZE, R)

/-- `register_schema_json_text`; `none` when the text has no such array. -/
def registerSchemaJson (R : Registry) (endpoints : Option (List JsonEndpoint)) (types : Option (List JsonType)) :
    SedsResult × Registry :=
  match endpoints, types with
  | some eps, some tys =>
    let (rc, ids, R) := registerJsonEndpoints eps (R.nextEndpoint 100) ∅ R
    if rc ≠ SEDS_OK then (rc, R) else registerJsonTypes ids tys (R.nextType 100) R
  | _, _ => (SEDS_DESERIALIZE, R)

/-! ## The calls it makes -/

def jsonEndpointOps : List JsonEndpoint → UInt32 → Registry → List Op
  | [], _, _ => []
  | ep :: eps, next, R =>
    match ep.rust, ep.name with
    | some _, some name =>
      .endpointRegisterEx next name ep.text ep.linkLocal ::
        if (R.endpointRegisterEx next name ep.text ep.linkLocal).1 = SEDS_OK then
          jsonEndpointOps eps (R.nextEndpoint (next + 1)) (R.endpointRegisterEx next name ep.text ep.linkLocal).2
        else []
    | _, _ => []

def jsonTypeOps (ids : Map String UInt32) : List JsonType → UInt32 → Registry → List Op
  | [], _, _ => []
  | ty :: tys, next, R =>
    match ty.name, ty.endpoints with
    | some name, some rusts =>
      let endpoints := rusts.filterMap ids.lookup
      if endpoints.isEmpty then []
      else
        .dtypeRegisterEx next ty.text (ty.spec name endpoints) ::
          if (R.dtypeRegisterEx next ty.text (ty.spec name endpoints)).1 = SEDS_OK then
            jsonTypeOps ids tys (R.nextType (next + 1)) (R.dtypeRegisterEx next ty.text (ty.spec name endpoints)).2
          else []
    | _, _ => []

def jsonOps (R : Registry) (endpoints : Option (List JsonEndpoint)) (types : Option (List JsonType)) : List Op :=
  match endpoints, types with
  | some eps, some tys =>
    let (rc, ids, R') := registerJsonEndpoints eps (R.nextEndpoint 100) ∅ R
    jsonEndpointOps eps (R.nextEndpoint 100) R ++ if rc ≠ SEDS_OK then [] else jsonTypeOps ids tys (R'.nextType 100) R'
  | _, _ => []

theorem run_cons (R : Registry) (op : Op) (ops : List Op) : R.run (op :: ops) = (R.step op).run ops := rfl

theorem run_append (R : Registry) (ops ops' : List Op) : R.run (ops ++ ops') = (R.run ops).run ops' := List.foldl_append

theorem registerJsonEndpoints_run (eps : List JsonEndpoint) (next : UInt32) (ids : Map String UInt32) (R : Registry) :
    (registerJsonEndpoints eps next ids R).2.2 = R.run (jsonEndpointOps eps next R) := by
  induction eps generalizing next ids R with
  | nil => rfl
  | cons ep eps ih =>
    unfold registerJsonEndpoints jsonEndpointOps
    cases hrust : ep.rust with
    | none => rfl
    | some rust =>
      cases hname : ep.name with
      | none => rfl
      | some name =>
        dsimp only
        by_cases hok : (R.endpointRegisterEx next name ep.text ep.linkLocal).1 = SEDS_OK
        · rw [if_neg (not_not_intro hok), if_pos hok]
          exact ih _ _ _
        · rw [if_pos hok, if_neg hok]
          rfl

theorem registerJsonTypes_run (ids : Map String UInt32) (tys : List JsonType) (next : UInt32) (R : Registry) :
    (registerJsonTypes ids tys next R).2 = R.run (jsonTypeOps ids tys next R) := by
  induction tys generalizing next R with
  | nil => rfl
  | cons ty tys ih =>
    unfold registerJsonTypes jsonTypeOps
    cases hname : ty.name with
    | none => rfl
    | some name =>
      cases hrusts : ty.endpoints with
      | none => rfl
      | some rusts =>
        dsimp only
        split
        · rfl
        · by_cases hok : (R.dtypeRegisterEx next ty.text (ty.spec name (rusts.filterMap ids.lookup))).1 = SEDS_OK
          · rw [if_neg (not_not_intro hok), if_pos hok]
            exact ih _ _
          · rw [if_pos hok, if_neg hok]
            rfl

/-- Registering a schema is a run of the registration functions. -/
theorem registerSchemaJson_run (R : Registry) (endpoints : Option (List JsonEndpoint)) (types : Option (List JsonType)) :
    (R.registerSchemaJson endpoints types).2 = R.run (R.jsonOps endpoints types) := by
  unfold registerSchemaJson jsonOps
  cases endpoints with
  | none => rfl
  | some eps =>
    cases types with
    | none => rfl
    | some tys =>
      dsimp only
      have hendpoints := registerJsonEndpoints_run eps (R.nextEndpoint 100) ∅ R
      rw [run_append, ← hendpoints]
      by_cases hok : (registerJsonEndpoints eps (R.nextEndpoint 100) ∅ R).1 = SEDS_OK
      · rw [if_neg (not_not_intro hok), if_neg (not_not_intro hok)]
        exact registerJsonTypes_run _ tys _ _
      · rw [if_pos hok, if_pos hok]
        rfl

end Registry

end SedsNet
