import SedsNet.Discovery
import SedsNet.Tables

/-!
# The run-time registry

`seds_endpoint_register_ex` .. `seds_dtype_remove_by_name` of `src/upstream_api_compat.cpp`, which change the
tables of a running program, and `ensure_handler_endpoint` of `src/router_api.cpp`, by which a new router
names the endpoints of its handlers. What a program registers from JSON text it registers through the same
functions, one entry after the other.

An endpoint's link-local flag is kept in two places: in the map that `seds_endpoint_get_info` reports from,
and in the rows of the types addressed to it, which routing and discovery read. `run_linkLocal_agrees` says
when the two agree.
-/

set_option autoImplicit false

namespace SedsNet

/-- The tables, and the maps beside them that the registration functions read. -/
structure Registry where
  schema : Schema
  endpointDescriptions : Map UInt32 String
  endpointLinkLocal : Map UInt32 Bool
  typeDescriptions : Map UInt32 String
  typePriorities : Map UInt32 UInt8

/-- A program that has registered nothing yet. -/
def Registry.new (S : Schema) : Registry := ⟨S, ∅, ∅, ∅, ∅⟩

/-! ## Codes -/

/-- What a reader of `c_str()` sees of a string. -/
def cString (s : String) : String := String.ofList (s.toList.takeWhile (· ≠ '\x00'))

def elementTypeFromCode (code : UInt8) : ElementDataType :=
  [ElementDataType.NoData, .Bool, .UInt8, .UInt16, .UInt32, .UInt64, .UInt128, .Int8, .Int16, .Int32, .Int64,
    .Int128, .Float32, .Float64, .String, .Binary].getD code.toNat .UInt8

def messageClassFromCode (code : UInt8) : MessageClass := [MessageClass.Data, .Error, .Warning].getD code.toNat .Data

def reliableFromCode (code : UInt8) : ReliableMode := [ReliableMode.None, .Ordered, .Unordered].getD code.toNat .None

def elemSizeFromType : ElementDataType → Nat
  | .Bool | .UInt8 | .Int8 | .String | .Binary => 1
  | .UInt16 | .Int16 => 2
  | .UInt32 | .Int32 | .Float32 => 4
  | .UInt64 | .Int64 | .Float64 => 8
  | .UInt128 | .Int128 => 16
  | .NoData => 0

/-- `if (i >= v.size()) v.resize(i + 1u, filler)`: the sum is a `uint32_t`, and the last id empties the
    table. -/
def growFor {α : Type} (v : List α) (i : UInt32) (filler : α) : List α :=
  if i.toNat < v.length then v else v.take (i + 1).toNat ++ List.replicate ((i + 1).toNat - v.length) filler

/-- `c_api_type_id`: the fixed ids of the C header, by name where the table has the type elsewhere. -/
def Schema.cApiTypeId (S : Schema) (ty : UInt32) : UInt32 :=
  if S.validType ty then ty
  else
    match v4TypeNames[ty.toNat]? with
    | some name => (S.typeByName name).getD ty
    | none => ty

def isInternalEndpointId (endpoint : UInt32) : Bool :=
  endpoint == SEDS_EP_TIME_SYNC || endpoint == SEDS_EP_DISCOVERY || endpoint == SEDS_EP_TELEMETRY_ERROR

def Schema.isInternalTypeId (S : Schema) (ty : UInt32) : Bool :=
  S.validType (S.cApiTypeId ty) && v4TypeNames.contains (S.typeAt (S.cApiTypeId ty).toNat).name

/-- The arguments of `seds_dtype_register` besides the id. -/
structure TypeSpec where
  name : String
  isStatic : Bool
  elementCount : Nat
  messageDataType : UInt8
  messageClass : UInt8
  reliable : UInt8
  priority : UInt8
  endpoints : List UInt32
  deriving DecidableEq, Repr, Inhabited

/-- The row it writes. A type registered at run time is never link-local. -/
def TypeSpec.row (spec : TypeSpec) : TypeInfo where
  name := cString spec.name
  elemSize := elemSizeFromType (elementTypeFromCode spec.messageDataType)
  staticCount := if spec.isStatic then spec.elementCount else 0
  dynamic := !spec.isStatic
  reliableMode := reliableFromCode spec.reliable
  dataType := elementTypeFromCode spec.messageDataType
  messageClass := messageClassFromCode spec.messageClass
  linkLocalOnly := false
  endpoints := spec.endpoints

/-- The comparison with a row that is there. The row's size and link-local flag are not compared. -/
def TypeSpec.describes (spec : TypeSpec) (row : TypeInfo) : Bool :=
  spec.name == row.name && row.dynamic == !spec.isStatic &&
    row.staticCount == (if spec.isStatic then spec.elementCount else 0) &&
    row.dataType == elementTypeFromCode spec.messageDataType &&
    row.messageClass == messageClassFromCode spec.messageClass &&
    row.reliableMode == reliableFromCode spec.reliable && row.endpoints == spec.endpoints

namespace Registry

/-! ## Endpoints -/

/-- `endpoint_link_local`. -/
def endpointFlag (R : Registry) (endpoint : UInt32) : Bool := (R.endpointLinkLocal.lookup endpoint).getD false

/-- `endpoint_description`. -/
def endpointDescription (R : Registry) (endpoint : UInt32) : String :=
  (R.endpointDescriptions.lookup endpoint).getD ""

/-- What `seds_endpoint_get_info` reports: `none` when the endpoint does not exist. -/
def endpointGetInfo (R : Registry) (endpoint : UInt32) : Option Bool :=
  if R.schema.validEndpoint endpoint then
    some (R.endpointFlag endpoint || R.schema.endpointLinkLocalOnly endpoint)
  else none

/-- `seds_endpoint_register_ex`. -/
def endpointRegisterEx (R : Registry) (endpoint : UInt32) (name description : String) (linkLocalOnly : Bool) :
    SedsResult × Registry :=
  match R.schema.kEndpointNames[endpoint.toNat]? with
  | some (some old) =>
    if name = old ∧ description = R.endpointDescription endpoint ∧ linkLocalOnly = R.endpointFlag endpoint then
      (SEDS_OK, R)
    else (SEDS_BAD_ARG, R)
  | _ =>
    if R.schema.kEndpointNames.contains (some name) then (SEDS_BAD_ARG, R)
    else
      (SEDS_OK, { R with
        schema := { R.schema with
          kEndpointNames := (growFor R.schema.kEndpointNames endpoint none).set endpoint.toNat (some (cString name)) }
        endpointDescriptions := R.endpointDescriptions.insert endpoint description
        endpointLinkLocal := R.endpointLinkLocal.insert endpoint linkLocalOnly })

/-- `ensure_handler_endpoint`. -/
def ensureHandlerEndpoint (R : Registry) (endpoint : UInt32) : Registry :=
  if R.schema.validEndpoint endpoint then R
  else
    { R with schema := { R.schema with
        kEndpointNames := (growFor R.schema.kEndpointNames endpoint none).set endpoint.toNat
          (some ("ENDPOINT_" ++ toString endpoint.toNat)) } }

/-- The loop of `seds_endpoint_remove` over `kTypeInfo`: the rows that list the endpoint are emptied, and
    what the maps know of their types goes too. -/
def forgetTypes (R : Registry) (endpoint : UInt32) : Registry :=
  let goes (ty : UInt32) : Bool :=
    match R.schema.kTypeInfo[ty.toNat]? with
    | some info => info.endpoints.contains endpoint
    | none => false
  { R with
    schema := { R.schema with
      kTypeInfo := R.schema.kTypeInfo.map fun info => if info.endpoints.contains endpoint then .empty else info }
    typeDescriptions := R.typeDescriptions.keepIf fun ty _ => !goes ty
    typePriorities := R.typePriorities.keepIf fun ty _ => !goes ty }

/-- `seds_endpoint_remove`. -/
def endpointRemove (R : Registry) (endpoint : UInt32) : SedsResult × Registry :=
  if !R.schema.validEndpoint endpoint then (SEDS_OK, R)
  else if isInternalEndpointId endpoint then (SEDS_BAD_ARG, R)
  else
    let R := { R with
      schema := { R.schema with kEndpointNames := R.schema.kEndpointNames.set endpoint.toNat none }
      endpointDescriptions := R.endpointDescriptions.erase endpoint
      endpointLinkLocal := R.endpointLinkLocal.erase endpoint }
    (SEDS_OK, R.forgetTypes endpoint)

/-- `seds_endpoint_remove_by_name`. -/
def endpointRemoveByName (R : Registry) (name : String) : SedsResult × Registry :=
  match R.schema.endpointByName name with
  | some endpoint => R.endpointRemove endpoint
  | none => (SEDS_OK, R)

/-! ## Types -/

/-- `type_description`. -/
def typeDescription (R : Registry) (ty : UInt32) : String := (R.typeDescriptions.lookup ty).getD ""

/-- `type_priority`. -/
def typePriority (R : Registry) (ty : UInt32) : UInt8 := (R.typePriorities.lookup ty).getD 0

/-- `seds_dtype_register`. -/
def dtypeRegister (R : Registry) (ty : UInt32) (spec : TypeSpec) : SedsResult × Registry :=
  let ty := R.schema.cApiTypeId ty
  if spec.endpoints.any fun ep => !R.schema.validEndpoint ep then (SEDS_BAD_ARG, R)
  else if R.schema.validType ty then
    if spec.describes (R.schema.typeAt ty.toNat) && R.typePriority ty == spec.priority && R.typeDescription ty == "" then
      (SEDS_OK, R)
    else (SEDS_BAD_ARG, R)
  else if R.schema.kTypeInfo.any fun info => info.name != "" && info.name == spec.name then (SEDS_BAD_ARG, R)
  else
    (SEDS_OK, { R with
      schema := { R.schema with
        kTypeInfo := (growFor R.schema.kTypeInfo ty .empty).set ty.toNat spec.row }
      typeDescriptions := R.typeDescriptions.insert ty ""
      typePriorities := R.typePriorities.insert ty spec.priority })

/-- `seds_dtype_register_ex`. -/
def dtypeRegisterEx (R : Registry) (ty : UInt32) (description : String) (spec : TypeSpec) : SedsResult × Registry :=
  let localTy := R.schema.cApiTypeId ty
  let existed := R.schema.validType localTy
  let (rc, R) := R.dtypeRegister ty spec
  if rc ≠ SEDS_OK then (rc, R)
  else if existed then (if R.typeDescription localTy = description then SEDS_OK else SEDS_BAD_ARG, R)
  else (SEDS_OK, { R with typeDescriptions := R.typeDescriptions.insert localTy description })

/-- `seds_dtype_remove`. -/
def dtypeRemove (R : Registry) (ty : UInt32) : SedsResult × Registry :=
  let ty := R.schema.cApiTypeId ty
  if !R.schema.validType ty then (SEDS_OK, R)
  else if R.schema.isInternalTypeId ty then (SEDS_BAD_ARG, R)
  else
    (SEDS_OK, { R with
      schema := { R.schema with kTypeInfo := R.schema.kTypeInfo.set ty.toNat .empty }
      typeDescriptions := R.typeDescriptions.erase ty
      typePriorities := R.typePriorities.erase ty })

/-- `seds_dtype_remove_by_name`: an empty name is nobody's. -/
def dtypeRemoveByName (R : Registry) (name : String) : SedsResult × Registry :=
  if name = "" then (SEDS_OK, R)
  else
    match R.schema.typeByName name with
    | some ty => R.dtypeRemove ty
    | none => (SEDS_OK, R)

/-! ## Runs -/

inductive Op where
  | endpointRegisterEx (endpoint : UInt32) (name description : String) (linkLocalOnly : Bool)
  | ensureHandlerEndpoint (endpoint : UInt32)
  | endpointRemove (endpoint : UInt32)
  | endpointRemoveByName (name : String)
  | dtypeRegister (ty : UInt32) (spec : TypeSpec)
  | dtypeRegisterEx (ty : UInt32) (description : String) (spec : TypeSpec)
  | dtypeRemove (ty : UInt32)
  | dtypeRemoveByName (name : String)

def step (R : Registry) : Op → Registry
  | .endpointRegisterEx endpoint name description linkLocalOnly =>
    (R.endpointRegisterEx endpoint name description linkLocalOnly).2
  | .ensureHandlerEndpoint endpoint => R.ensureHandlerEndpoint endpoint
  | .endpointRemove endpoint => (R.endpointRemove endpoint).2
  | .endpointRemoveByName name => (R.endpointRemoveByName name).2
  | .dtypeRegister ty spec => (R.dtypeRegister ty spec).2
  | .dtypeRegisterEx ty description spec => (R.dtypeRegisterEx ty description spec).2
  | .dtypeRemove ty => (R.dtypeRemove ty).2
  | .dtypeRemoveByName name => (R.dtypeRemoveByName name).2

def run (R : Registry) (ops : List Op) : Registry := ops.foldl step R

/-! ## The two link-local flags -/

/-- Some registered type is addressed to the endpoint. -/
def addressed (R : Registry) (endpoint : UInt32) : Bool :=
  R.schema.kTypeInfo.any fun info => info.name != "" && info.endpoints.contains endpoint

/-- A new type with this row keeps clear of the endpoints that were registered as link-local. -/
def AvoidsFlagged (R : Registry) (ty : UInt32) (spec : TypeSpec) : Prop :=
  R.schema.validType (R.schema.cApiTypeId ty) = false → spec.row.name ≠ "" →
    ∀ ep ∈ spec.endpoints, R.endpointFlag ep = false

/-- What keeps the two flags of every endpoint together: an endpoint that is registered as link-local has no
    type yet, and gets none. -/
def Isolating (R : Registry) : Op → Prop
  | .endpointRegisterEx endpoint _ _ linkLocalOnly =>
    R.schema.validEndpoint endpoint = false → linkLocalOnly = true → R.addressed endpoint = false
  | .dtypeRegister ty spec => R.AvoidsFlagged ty spec
  | .dtypeRegisterEx ty _ spec => R.AvoidsFlagged ty spec
  | _ => True

/-- Every step of a run does. -/
def IsolatingRun (R : Registry) : List Op → Prop
  | [] => True
  | op :: ops => R.Isolating op ∧ (R.step op).IsolatingRun ops

instance (R : Registry) (ty : UInt32) (spec : TypeSpec) : Decidable (R.AvoidsFlagged ty spec) :=
  inferInstanceAs (Decidable (_ → _ → _))

instance (R : Registry) : (op : Op) → Decidable (R.Isolating op)
  | .endpointRegisterEx .. => inferInstanceAs (Decidable (_ → _ → _))
  | .ensureHandlerEndpoint _ => inferInstanceAs (Decidable True)
  | .endpointRemove _ => inferInstanceAs (Decidable True)
  | .endpointRemoveByName _ => inferInstanceAs (Decidable True)
  | .dtypeRegister ty spec => inferInstanceAs (Decidable (R.AvoidsFlagged ty spec))
  | .dtypeRegisterEx ty _ spec => inferInstanceAs (Decidable (R.AvoidsFlagged ty spec))
  | .dtypeRemove _ => inferInstanceAs (Decidable True)
  | .dtypeRemoveByName _ => inferInstanceAs (Decidable True)

instance decidableIsolatingRun (R : Registry) : (ops : List Op) → Decidable (R.IsolatingRun ops)
  | [] => inferInstanceAs (Decidable True)
  | op :: ops => @instDecidableAnd _ _ _ (decidableIsolatingRun (R.step op) ops)

/-- The endpoints the map knows as link-local have no types. -/
def Apart (R : Registry) : Prop := ∀ ep, R.endpointFlag ep = true → R.addressed ep = false

theorem addressed_iff {R : Registry} {ep : UInt32} :
    R.addressed ep = true ↔ ∃ info ∈ R.schema.kTypeInfo, info.name ≠ "" ∧ ep ∈ info.endpoints := by
  unfold addressed
  simp

/-- Rows that are there after a table has grown and one row is written. -/
theorem mem_set_growFor {α : Type} {v : List α} {i : UInt32} {filler x y : α} {j : Nat}
    (h : y ∈ (growFor v i filler).set j x) : y ∈ v ∨ y = filler ∨ y = x := by
  rcases List.mem_or_eq_of_mem_set h with hgrown | rfl
  · unfold growFor at hgrown
    split at hgrown
    · exact .inl hgrown
    · rcases List.mem_append.mp hgrown with hold | hfiller
      · exact .inl (List.mem_of_mem_take hold)
      · exact .inr (.inl (List.eq_of_mem_replicate hfiller))
  · exact .inr (.inr rfl)

/-- Endpoints lose types, and the map is the same. -/
theorem Apart.shrink {R R' : Registry} (h : R.Apart) (hflag : ∀ ep, R'.endpointFlag ep = true → R.endpointFlag ep = true)
    (hrows : ∀ info ∈ R'.schema.kTypeInfo, info.name ≠ "" → info ∈ R.schema.kTypeInfo) : R'.Apart := by
  intro ep hset
  have hnone := h ep (hflag ep hset)
  rw [Bool.eq_false_iff] at hnone ⊢
  intro hsome
  obtain ⟨info, hmem, hname, hep⟩ := addressed_iff.mp hsome
  exact hnone (addressed_iff.mpr ⟨info, hrows info hmem hname, hname, hep⟩)

theorem endpointRegisterEx_apart {R : Registry} (h : R.Apart) (endpoint : UInt32) (name description : String)
    (linkLocalOnly : Bool) (hop : R.Isolating (.endpointRegisterEx endpoint name description linkLocalOnly)) :
    (R.endpointRegisterEx endpoint name description linkLocalOnly).2.Apart := by
  unfold endpointRegisterEx
  split
  · split
    · exact h
    · exact h
  · rename_i hslot
    split
    · exact h
    · intro ep hflag
      unfold endpointFlag at hflag
      by_cases hep : ep = endpoint
      · subst hep
        rw [AList.lookup_insert] at hflag
        have hnew : R.schema.validEndpoint ep = false := by
          unfold Schema.validEndpoint
          split
          · rename_i old hold
            exact absurd hold (hslot old)
          · rfl
        exact hop hnew hflag
      · rw [AList.lookup_insert_ne hep] at hflag
        exact h ep hflag

theorem endpointRemove_apart {R : Registry} (h : R.Apart) (endpoint : UInt32) : (R.endpointRemove endpoint).2.Apart := by
  unfold endpointRemove
  split
  · exact h
  · split
    · exact h
    · apply h.shrink
      · intro ep hflag
        unfold endpointFlag forgetTypes at hflag
        dsimp only at hflag
        by_cases hep : ep = endpoint
        · rw [hep, AList.lookup_erase] at hflag
          cases hflag
        · rwa [AList.lookup_erase_ne hep] at hflag
      · intro info hmem hname
        obtain ⟨old, hold, rfl⟩ := List.mem_map.mp hmem
        split at hname
        · exact absurd rfl hname
        · rename_i hkept
          rwa [if_neg hkept]

theorem ensureHandlerEndpoint_apart {R : Registry} (h : R.Apart) (endpoint : UInt32) :
    (R.ensureHandlerEndpoint endpoint).Apart := by
  unfold ensureHandlerEndpoint
  split
  · exact h
  · exact h

theorem endpointRemoveByName_apart {R : Registry} (h : R.Apart) (name : String) :
    (R.endpointRemoveByName name).2.Apart := by
  unfold endpointRemoveByName
  split
  · exact endpointRemove_apart h _
  · exact h

theorem dtypeRegister_apart {R : Registry} (h : R.Apart) (ty : UInt32) (spec : TypeSpec)
    (havoids : R.AvoidsFlagged ty spec) : (R.dtypeRegister ty spec).2.Apart := by
  unfold dtypeRegister
  dsimp only
  split
  · exact h
  · split
    · split
      · exact h
      · exact h
    · rename_i hnew
      split
      · exact h
      · intro ep hflag
        rw [Bool.eq_false_iff]
        intro hsome
        obtain ⟨info, hmem, hname, hep⟩ := addressed_iff.mp hsome
        rcases mem_set_growFor hmem with hold | rfl | rfl
        · exact Bool.eq_false_iff.mp (h ep hflag) (addressed_iff.mpr ⟨info, hold, hname, hep⟩)
        · exact absurd rfl hname
        · -- the new row lists no flagged endpoint
          have hclear := havoids (Bool.eq_false_iff.mpr hnew) hname ep hep
          exact absurd hflag (Bool.eq_false_iff.mp hclear)

/-- A description does not matter. -/
theorem dtypeRegisterEx_apart {R : Registry} (h : R.Apart) (ty : UInt32) (description : String) (spec : TypeSpec)
    (havoids : R.AvoidsFlagged ty spec) : (R.dtypeRegisterEx ty description spec).2.Apart := by
  have hregistered := dtypeRegister_apart h ty spec havoids
  unfold dtypeRegisterEx
  dsimp only
  split
  · exact hregistered
  · split
    · exact hregistered
    · exact hregistered

theorem dtypeRemove_apart {R : Registry} (h : R.Apart) (ty : UInt32) : (R.dtypeRemove ty).2.Apart := by
  unfold dtypeRemove
  dsimp only
  split
  · exact h
  · split
    · exact h
    · refine h.shrink (fun _ hflag => hflag) ?_
      intro info hmem hname
      rcases List.mem_or_eq_of_mem_set hmem with hold | rfl
      · exact hold
      · exact absurd rfl hname

theorem dtypeRemoveByName_apart {R : Registry} (h : R.Apart) (name : String) : (R.dtypeRemoveByName name).2.Apart := by
  unfold dtypeRemoveByName
  split
  · exact h
  · split
    · exact dtypeRemove_apart h _
    · exact h

theorem step_apart {R : Registry} (h : R.Apart) {op : Op} (hop : R.Isolating op) : (R.step op).Apart := by
  cases op with
  | endpointRegisterEx endpoint name description linkLocalOnly =>
    exact endpointRegisterEx_apart h endpoint name description linkLocalOnly hop
  | ensureHandlerEndpoint endpoint => exact ensureHandlerEndpoint_apart h endpoint
  | endpointRemove endpoint => exact endpointRemove_apart h endpoint
  | endpointRemoveByName name => exact endpointRemoveByName_apart h name
  | dtypeRegister ty spec => exact dtypeRegister_apart h ty spec hop
  | dtypeRegisterEx ty description spec => exact dtypeRegisterEx_apart h ty description spec hop
  | dtypeRemove ty => exact dtypeRemove_apart h ty
  | dtypeRemoveByName name => exact dtypeRemoveByName_apart h name

theorem run_apart {R : Registry} (h : R.Apart) {ops : List Op} (hops : R.IsolatingRun ops) : (R.run ops).Apart := by
  induction ops generalizing R with
  | nil => exact h
  | cons op ops ih => exact ih (step_apart h hops.1) hops.2

/-- **The registry and routing agree on link-local endpoints**, as long as the endpoints that are registered
    as link-local at run time have no types: for every endpoint that exists and that a registered type is
    addressed to, the reported flag is the one routing and discovery use, and packets for endpoints that are
    reported as link-local are turned away by the other sides. -/
theorem run_linkLocal_agrees (S : Schema) (ops : List Op) (hops : (new S).IsolatingRun ops) :
    (∀ ep, ((new S).run ops).schema.validEndpoint ep = true → ((new S).run ops).addressed ep = true →
      ((new S).run ops).endpointGetInfo ep = some (((new S).run ops).schema.endpointLinkLocalOnly ep)) ∧
    ∀ (pkt : PacketData) (side : Side), pkt.endpoints ≠ [] → side.linkLocalEnabled = false →
      (∀ ep ∈ pkt.endpoints, ((new S).run ops).addressed ep = true ∧
        ((new S).run ops).endpointGetInfo ep = some true) →
      ((new S).run ops).schema.sideAcceptsPacket side pkt = false := by
  have hempty : (new S).Apart := by
    intro ep hflag
    cases hflag
  have hapart := run_apart hempty hops
  generalize (new S).run ops = R at hapart
  have hagrees : ∀ ep, R.schema.validEndpoint ep = true → R.addressed ep = true →
      R.endpointGetInfo ep = some (R.schema.endpointLinkLocalOnly ep) := by
    intro ep hvalid haddressed
    have hflag : R.endpointFlag ep = false := by
      rw [Bool.eq_false_iff]
      intro hset
      exact absurd haddressed (Bool.eq_false_iff.mp (hapart ep hset))
    unfold endpointGetInfo
    rw [if_pos hvalid, hflag, Bool.false_or]
  refine ⟨hagrees, ?_⟩
  intro pkt side hnonempty hside hall
  have hlocal : ∀ ep ∈ pkt.endpoints, R.schema.endpointLinkLocalOnly ep = true := by
    intro ep hep
    obtain ⟨haddressed, hinfo⟩ := hall ep hep
    have hvalid : R.schema.validEndpoint ep = true := by
      unfold endpointGetInfo at hinfo
      split at hinfo
      · assumption
      · cases hinfo
    rw [hagrees ep hvalid haddressed] at hinfo
    exact Option.some.inj hinfo
  have hrequires : R.schema.packetRequiresLinkLocal pkt = true := by
    unfold Schema.packetRequiresLinkLocal
    rw [Bool.and_eq_true, List.all_eq_true]
    refine ⟨?_, hlocal⟩
    cases hlist : pkt.endpoints with
    | nil => exact absurd hlist hnonempty
    | cons ep eps => rfl
  unfold Schema.sideAcceptsPacket
  rw [hrequires, hside]
  rfl

/-- A type of one byte for these endpoints. -/
def byteSpec (name : String) (endpoints : List UInt32) : TypeSpec := ⟨name, true, 1, 2, 0, 0, 0, endpoints⟩

/-- A bench that keeps to itself, and a console with a type. -/
def benchOps : List Op :=
  [.endpointRegisterEx 110 "BENCH" "" true, .endpointRegisterEx 111 "CONSOLE" "" false,
   .dtypeRegister 120 (byteSpec "KEYSTROKE" [111])]

theorem run_linkLocal_agrees_bench :
    ((new defaultTestSchema).run benchOps).schema.validEndpoint 111 = true ∧
    ((new defaultTestSchema).run benchOps).addressed 111 = true ∧
    ((new defaultTestSchema).run benchOps).endpointGetInfo 111 =
      some (((new defaultTestSchema).run benchOps).schema.endpointLinkLocalOnly 111) := by
  obtain ⟨hops, hvalid, haddressed⟩ : (new defaultTestSchema).IsolatingRun benchOps ∧
      ((new defaultTestSchema).run benchOps).schema.validEndpoint 111 = true ∧
      ((new defaultTestSchema).run benchOps).addressed 111 = true := by
    rw [defaultTestSchema_eq]
    decide +kernel
  exact ⟨hvalid, haddressed, (run_linkLocal_agrees defaultTestSchema benchOps hops).1 111 hvalid haddressed⟩

/-- The bench gets a type of its own. -/
def probeOps : List Op :=
  [.endpointRegisterEx 110 "BENCH" "" true, .dtypeRegister 120 (byteSpec "PROBE" [110])]

/-- An endpoint that is registered as link-local and then used is reported as link-local, and is not: its
    packets pass on every side. -/
theorem run_linkLocal_disagrees :
    ((new defaultTestSchema).run probeOps).addressed 110 = true ∧
    ((new defaultTestSchema).run probeOps).endpointGetInfo 110 = some true ∧
    ((new defaultTestSchema).run probeOps).schema.endpointLinkLocalOnly 110 = false ∧
    ((new defaultTestSchema).run probeOps).schema.sideAcceptsPacket (.serialized [] false)
      ⟨120, ascii "BENCH", [110], 0, [1]⟩ = true := by
  rw [defaultTestSchema_eq]
  decide +kernel

end Registry

end SedsNet
