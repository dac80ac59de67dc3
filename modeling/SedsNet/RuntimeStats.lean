import SedsNet.JsonText
import SedsNet.Owner

/-!
# Runtime statistics

`runtime_stats_json` (`src/upstream_api_compat.cpp`), the template that both `seds_router_export_runtime_stats_json` and its relay
counterpart return the text of. Six of its arrays are filled by loops over containers, with a flag that says whether an element has
been pushed; `JsonItems.Holds` is what such a loop keeps.
-/

set_option autoImplicit false

namespace SedsNet

open Lib Lib.Json

/-! ## What is read besides the owner -/

/-- `SedsSideTransportProfile`. -/
inductive SideTransportProfile where
  | canonical | template | ipv6Like | ipv4Like
  deriving DecidableEq, Repr, Inhabited

/-- The members of `Side` that only the statistics read. -/
structure SideTransport where
  headerTemplateEnabled : Bool
  maxFrameBytes : UInt64
  compactHeaderTargetBytes : UInt64
  maxSideTransportTemplates : UInt64
  sideTransportProfile : SideTransportProfile
  deriving DecidableEq, Repr, Inhabited

def sideTransportProfileName : SideTransportProfile → String
  | .template => "template"
  | .ipv6Like => "ipv6_like"
  | .ipv4Like => "ipv4_like"
  | .canonical => "canonical"

def routeModeName : RouteSelectionMode → String
  | .Weighted => "Weighted"
  | .Failover => "Failover"
  | .Fanout => "Fanout"

/-! ## `runtime_stats_json` -/

/-- `std::to_string` of an `int32_t`. -/
def i32Text (n : Int32) : Bytes := integerText n.toInt

def u64Text (n : UInt64) : Bytes := toDecimal n.toNat

/-- The elements of an array so far, and `first`. -/
structure JsonItems where
  out : Bytes
  first : Bool

def JsonItems.empty : JsonItems := ⟨[], true⟩

def JsonItems.push (items : JsonItems) (text : Bytes) : JsonItems :=
  ⟨items.out ++ (if items.first then [] else ascii ",") ++ text, false⟩

/-- `src_side ? std::to_string(*src_side) : "null"`. -/
def srcSideText (srcSide : Option Int32) : Bytes :=
  match srcSide with
  | some side => i32Text side
  | none => ascii "null"

/-- What the text of every side ends with. -/
def sideStatsConstants : Bytes :=
  ascii ",\"tx_packets\":0,\"tx_bytes\":0,\"rx_packets\":0,\"rx_bytes\":0" ++
  ascii ",\"relayed_tx_packets\":0,\"relayed_tx_bytes\":0,\"relayed_rx_packets\":0,\"relayed_rx_bytes\":0" ++
  ascii ",\"local_delivery_packets\":0,\"tx_retries\":0,\"tx_handler_failures\":0,\"local_handler_failures\":0" ++
  ascii ",\"total_handler_retries\":0,\"side_transport_full_frames\":0,\"side_transport_compact_frames\":0" ++
  ascii ",\"side_transport_compact_delta_frames\":0,\"side_transport_compact_omitted_timestamp_frames\":0" ++
  ascii ",\"side_transport_chunk_frames\":0,\"side_transport_raw_bytes\":0,\"side_transport_wire_bytes\":0" ++
  ascii ",\"side_transport_bytes_saved\":0,\"side_transport_compact_target_misses\":0" ++
  ascii ",\"side_transport_template_evictions\":0,\"side_transport_tx_template_count\":0" ++
  ascii ",\"side_transport_rx_template_count\":0,\"side_transport_min_compact_overhead_bytes\":null" ++
  ascii ",\"side_transport_max_compact_overhead_bytes\":null" ++
  ascii ",\"adaptive\":\x7b\"auto_balancing_enabled\":false,\"estimated_capacity_bps\":0,\"peak_capacity_bps\":0" ++
  ascii ",\"current_usage_bps\":0,\"peak_usage_bps\":0,\"available_headroom_bps\":0,\"effective_weight\":1" ++
  ascii ",\"last_observed_ms\":0,\"sample_count\":0\x7d,\"data_types\":[]\x7d"

/-- The body of the loop over the sides. -/
def sideStats (i : Nat) (side : Side) (transport : SideTransport) : Bytes :=
  ascii "\x7b\"side_id\":" ++ toDecimal i ++
  ascii ",\"side_name\":" ++ jsonPushEscaped side.name ++
  ascii ",\"reliable_enabled\":" ++ jsonBool side.reliableEnabled ++
  ascii ",\"link_local_enabled\":" ++ jsonBool side.linkLocalEnabled ++
  ascii ",\"header_template_enabled\":" ++ jsonBool transport.headerTemplateEnabled ++
  ascii ",\"max_frame_bytes\":" ++ u64Text transport.maxFrameBytes ++
  ascii ",\"compact_header_target_bytes\":" ++ u64Text transport.compactHeaderTargetBytes ++
  ascii ",\"max_side_transport_templates\":" ++ u64Text transport.maxSideTransportTemplates ++
  ascii ",\"side_transport_profile\":" ++ jsonPushEscaped (ascii (sideTransportProfileName transport.sideTransportProfile)) ++
  ascii ",\"ingress_enabled\":" ++ jsonBool side.ingressEnabled ++
  ascii ",\"egress_enabled\":" ++ jsonBool side.egressEnabled ++
  sideStatsConstants

/-- The text that `push_route_mode` pushes. -/
def routeModeStats (srcSide : Option Int32) (policy : RoutePolicy) : Bytes :=
  ascii "\x7b\"src_side_id\":" ++ srcSideText srcSide ++
  ascii ",\"selection_mode\":" ++ jsonPushEscaped (ascii (routeModeName policy.mode)) ++
  ascii ",\"cursor\":" ++ u64Text policy.rrCounter ++
  ascii "\x7d"

/-- `key.src_side >= 0 ? std::to_string(key.src_side) : "null"`. -/
def keySideText (srcSide : Int32) : Bytes := if 0 ≤ srcSide then i32Text srcSide else ascii "null"

def routeOverrideStats (key : Int32 × Int32) (enabled : Bool) : Bytes :=
  ascii "\x7b\"src_side_id\":" ++ keySideText key.1 ++
  ascii ",\"dst_side_id\":" ++ i32Text key.2 ++
  ascii ",\"enabled\":" ++ jsonBool enabled ++
  ascii "\x7d"

def typedRouteOverrideStats (S : Schema) (key : Int32 × UInt32 × Int32) (enabled : Bool) : Bytes :=
  ascii "\x7b\"src_side_id\":" ++ keySideText key.1 ++
  ascii ",\"data_type\":" ++ toDecimal (S.v4TypeId key.2.1).toNat ++
  ascii ",\"dst_side_id\":" ++ i32Text key.2.2 ++
  ascii ",\"enabled\":" ++ jsonBool enabled ++
  ascii "\x7d"

/-- The text of one weight or priority. -/
def policyValueStats (priorities : Bool) (srcSide : Option Int32) (dstSide : Int32) (value : UInt32) : Bytes :=
  ascii "\x7b\"src_side_id\":" ++ srcSideText srcSide ++
  ascii ",\"dst_side_id\":" ++ i32Text dstSide ++
  (if priorities then ascii ",\"priority\":" else ascii ",\"weight\":") ++ toDecimal value.toNat ++
  ascii "\x7d"

namespace Owner

def routeModes (o : Owner) : JsonItems :=
  let items :=
    if o.localPolicy.mode ≠ .Fanout ∨ o.localPolicy.weights.entries ≠ [] ∨ o.localPolicy.priorities.entries ≠ [] then
      JsonItems.empty.push (routeModeStats none o.localPolicy)
    else .empty
  o.sourcePolicy.entries.foldl (fun items e => items.push (routeModeStats (some e.1) e.2)) items

def routeOverrideItems (o : Owner) : JsonItems :=
  o.routeOverrides.entries.foldl (fun items e => items.push (routeOverrideStats e.1 e.2)) .empty

def typedRouteOverrideItems (o : Owner) (S : Schema) : JsonItems :=
  o.typedRouteOverrides.entries.foldl (fun items e => items.push (typedRouteOverrideStats S e.1 e.2)) .empty

/-- `push_one_policy`. -/
def pushOnePolicy (priorities : Bool) (srcSide : Option Int32) (policy : RoutePolicy) (items : JsonItems) : JsonItems :=
  (if priorities then policy.priorities else policy.weights).entries.foldl
    (fun items e => items.push (policyValueStats priorities srcSide e.1 e.2)) items

def routePolicyValues (o : Owner) (priorities : Bool) : JsonItems :=
  o.sourcePolicy.entries.foldl (fun items e => pushOnePolicy priorities (some e.1) e.2 items)
    (pushOnePolicy priorities none o.localPolicy .empty)

/-- `push_route_policy_values`. -/
def pushRoutePolicyValues (o : Owner) (fieldName : String) (priorities : Bool) : Bytes :=
  ascii ",\"" ++ ascii fieldName ++ ascii "\":[" ++ (o.routePolicyValues priorities).out ++ ascii "]"

def announcerCount (o : Owner) : Nat := (o.discoveryRoutes.entries.map fun e => e.2.announcers.entries.length).sum

/-- `runtime_stats_json`. -/
def runtimeStatsJson (o : Owner) (S : Schema) (transport : Nat → SideTransport) : Bytes :=
  ascii "\x7b" ++
  ascii "\"sides\":[" ++ jsonPushEach (fun p => sideStats p.2 p.1 (transport p.2)) o.sides.zipIdx ++
  ascii "],\"route_modes\":[" ++ o.routeModes.out ++
  ascii "],\"route_overrides\":[" ++ o.routeOverrideItems.out ++
  ascii "],\"typed_route_overrides\":[" ++ (o.typedRouteOverrideItems S).out ++
  ascii "]" ++
  o.pushRoutePolicyValues "route_weights" false ++
  o.pushRoutePolicyValues "route_priorities" true ++
  ascii ",\"queues\":\x7b\"rx_len\":" ++ toDecimal o.rxQueue.items.length ++
  ascii ",\"rx_bytes\":" ++ u64Text o.rxQueue.bytes ++
  ascii ",\"tx_len\":" ++ toDecimal o.txQueue.items.length ++
  ascii ",\"tx_bytes\":" ++ u64Text o.txQueue.bytes ++
  ascii ",\"replay_len\":" ++ toDecimal o.reliableReleasedRx.length ++
  ascii ",\"replay_bytes\":0,\"recent_rx_len\":" ++ toDecimal o.recentIds.length ++
  ascii ",\"recent_rx_bytes\":" ++ u64Text (UInt64.ofNat o.recentIds.length * 8) ++
  ascii ",\"reliable_rx_buffered_len\":0,\"reliable_rx_buffered_bytes\":0,\"shared_queue_bytes_used\":" ++
  u64Text (o.rxQueue.bytes + o.txQueue.bytes) ++
  ascii "\x7d,\"reliable\":\x7b\"reliable_return_route_count\":" ++ toDecimal o.reliableReturnRoutes.entries.length ++
  ascii ",\"end_to_end_pending_count\":0,\"end_to_end_pending_destination_count\":0,\"end_to_end_acked_cache_count\":0\x7d" ++
  ascii ",\"discovery\":\x7b\"route_count\":" ++ toDecimal o.discoveryRoutes.entries.length ++
  ascii ",\"announcer_count\":" ++ toDecimal o.announcerCount ++
  ascii ",\"current_announce_interval_ms\":" ++ u64Text o.discoveryIntervalMs ++
  ascii ",\"next_announce_ms\":" ++ u64Text o.discoveryNextMs ++
  ascii "\x7d,\"total_handler_failures\":0,\"total_handler_retries\":0\x7d"

end Owner

/-! ## Pieces -/

theorem derives_u64Text (n : UInt64) : Derives (.value (.number n.toNat 0)) (u64Text n) := derives_decimal n.toNat

theorem derives_i32Text (n : Int32) : Derives (.value (.number n.toInt 0)) (i32Text n) := derives_integer n.toInt

theorem derives_zero : Derives (.value (.number (0 : Nat) 0)) (ascii "0") := derives_decimal 0

theorem derives_null : Derives (.value .null) (ascii "null") := .null

theorem isValue_srcSideText (srcSide : Option Int32) : IsValue (srcSideText srcSide) := by
  cases srcSide with
  | some side => exact ⟨_, derives_i32Text side⟩
  | none => exact ⟨_, derives_null⟩

theorem isValue_keySideText (srcSide : Int32) : IsValue (keySideText srcSide) := by
  unfold keySideText
  split
  · exact ⟨_, derives_i32Text srcSide⟩
  · exact ⟨_, derives_null⟩

theorem utf8_profile (profile : SideTransportProfile) : Utf8 (ascii (sideTransportProfileName profile)) := by
  cases profile <;> exact utf8_plain (by decide)

theorem utf8_mode (mode : RouteSelectionMode) : Utf8 (ascii (routeModeName mode)) := by
  cases mode <;> exact utf8_plain (by decide)

/-! ## Sides -/

/-- Counters that are always zero. -/
def sideCounters : List String :=
  ["tx_packets", "tx_bytes", "rx_packets", "rx_bytes", "relayed_tx_packets", "relayed_tx_bytes", "relayed_rx_packets",
    "relayed_rx_bytes", "local_delivery_packets", "tx_retries", "tx_handler_failures", "local_handler_failures",
    "total_handler_retries", "side_transport_full_frames", "side_transport_compact_frames", "side_transport_compact_delta_frames",
    "side_transport_compact_omitted_timestamp_frames", "side_transport_chunk_frames", "side_transport_raw_bytes",
    "side_transport_wire_bytes", "side_transport_bytes_saved", "side_transport_compact_target_misses",
    "side_transport_template_evictions", "side_transport_tx_template_count", "side_transport_rx_template_count"]

def zeros (names : List String) : List (String × Json × Bytes) := names.map fun name => (name, .number (0 : Nat) 0, ascii "0")

theorem areFields_zeros {names : List String} (h : ∀ name ∈ names, Characters (ascii name) (ascii name)) : AreFields (zeros names) := by
  intro m hm
  obtain ⟨name, hname, rfl⟩ := List.mem_map.mp hm
  exact ⟨h name hname, derives_zero⟩

theorem sideCounters_plain : ∀ name ∈ sideCounters, Characters (ascii name) (ascii name) := by
  unfold sideCounters
  repeat rw [List.forall_mem_cons]
  refine ⟨?_, ?_, ?_, ?_, ?_, ?_, ?_, ?_, ?_, ?_, ?_, ?_, ?_, ?_, ?_, ?_, ?_, ?_, ?_, ?_, ?_, ?_, ?_, ?_, ?_, fun _ h => nomatch h⟩
  all_goals exact characters_plain (by decide)

theorem adaptive_fields : AreFields
    [("auto_balancing_enabled", .bool false, ascii "false"), ("estimated_capacity_bps", .number (0 : Nat) 0, ascii "0"),
      ("peak_capacity_bps", .number (0 : Nat) 0, ascii "0"), ("current_usage_bps", .number (0 : Nat) 0, ascii "0"),
      ("peak_usage_bps", .number (0 : Nat) 0, ascii "0"), ("available_headroom_bps", .number (0 : Nat) 0, ascii "0"),
      ("effective_weight", .number (1 : Nat) 0, ascii "1"), ("last_observed_ms", .number (0 : Nat) 0, ascii "0"),
      ("sample_count", .number (0 : Nat) 0, ascii "0")] :=
  .cons _ rfl (by decide) (derives_bool false) <|
  .cons _ rfl (by decide) derives_zero <|
  .cons _ rfl (by decide) derives_zero <|
  .cons _ rfl (by decide) derives_zero <|
  .cons _ rfl (by decide) derives_zero <|
  .cons _ rfl (by decide) derives_zero <|
  .cons _ rfl (by decide) (derives_decimal 1) <|
  .cons _ rfl (by decide) derives_zero <|
  .cons _ rfl (by decide) derives_zero .nil

set_option maxRecDepth 4000 in
/-- The members that every side ends with. -/
theorem sideConstants_fields : ∃ ms, AreFields ms ∧ sideStatsConstants = fieldsTail ms ++ [closeBrace] := by
  have hfields := (areFields_zeros sideCounters_plain).append
    (.cons "side_transport_min_compact_overhead_bytes" rfl (by decide) derives_null <|
    .cons "side_transport_max_compact_overhead_bytes" rfl (by decide) derives_null <|
    .cons "adaptive" rfl (by decide) (derives_fields adaptive_fields) <|
    .cons "data_types" rfl (by decide) (.emptyArray spaces_nil) .nil)
  refine ⟨_, hfields, ?_⟩
  unfold sideStatsConstants sideCounters zeros
  simp only [List.map_cons, List.map_nil, List.nil_append, memberText, fieldsTail_cons,
    fieldsTail_nil, List.append_assoc, List.cons_append]
  repeat rw [ascii_ofList]
  rfl

set_option maxRecDepth 2000 in
theorem isValue_sideStats (i : Nat) {side : Side} (h : Utf8 side.name) (transport : SideTransport) :
    IsValue (sideStats i side transport) := by
  obtain ⟨ms, hms, hconstants⟩ := sideConstants_fields
  have hfields := derives_fields
    (.cons "side_id" rfl (by decide) (derives_decimal i) <|
    .cons "side_name" rfl (by decide) (derives_escaped h) <|
    .cons "reliable_enabled" rfl (by decide) (derives_bool side.reliableEnabled) <|
    .cons "link_local_enabled" rfl (by decide) (derives_bool side.linkLocalEnabled) <|
    .cons "header_template_enabled" rfl (by decide) (derives_bool transport.headerTemplateEnabled) <|
    .cons "max_frame_bytes" rfl (by decide) (derives_u64Text transport.maxFrameBytes) <|
    .cons "compact_header_target_bytes" rfl (by decide) (derives_u64Text transport.compactHeaderTargetBytes) <|
    .cons "max_side_transport_templates" rfl (by decide) (derives_u64Text transport.maxSideTransportTemplates) <|
    .cons "side_transport_profile" rfl (by decide) (derives_escaped (utf8_profile transport.sideTransportProfile)) <|
    .cons "ingress_enabled" rfl (by decide) (derives_bool side.ingressEnabled) <|
    .cons "egress_enabled" rfl (by decide) (derives_bool side.egressEnabled) hms)
  unfold sideStats
  simp only [hconstants, memberText, fieldsTail_cons, List.append_assoc, List.cons_append] at hfields ⊢
  repeat rw [ascii_ofList] at hfields
  repeat rw [ascii_ofList]
  exact ⟨_, hfields⟩

/-! ## Routes -/

theorem isValue_routeModeStats (srcSide : Option Int32) (policy : RoutePolicy) : IsValue (routeModeStats srcSide policy) := by
  obtain ⟨v, hside⟩ := isValue_srcSideText srcSide
  have hfields := derives_fields
    (.cons "src_side_id" rfl (by decide) hside <|
    .cons "selection_mode" rfl (by decide) (derives_escaped (utf8_mode policy.mode)) <|
    .cons "cursor" rfl (by decide) (derives_u64Text policy.rrCounter) .nil)
  unfold routeModeStats
  simp only [memberText, fieldsTail_cons, fieldsTail_nil, List.append_assoc, List.cons_append] at hfields ⊢
  repeat rw [ascii_ofList] at hfields
  repeat rw [ascii_ofList]
  exact ⟨_, hfields⟩

theorem isValue_routeOverrideStats (key : Int32 × Int32) (enabled : Bool) : IsValue (routeOverrideStats key enabled) := by
  obtain ⟨v, hside⟩ := isValue_keySideText key.1
  have hfields := derives_fields
    (.cons "src_side_id" rfl (by decide) hside <|
    .cons "dst_side_id" rfl (by decide) (derives_i32Text key.2) <|
    .cons "enabled" rfl (by decide) (derives_bool enabled) .nil)
  unfold routeOverrideStats
  simp only [memberText, fieldsTail_cons, fieldsTail_nil, List.append_assoc, List.cons_append] at hfields ⊢
  repeat rw [ascii_ofList] at hfields
  repeat rw [ascii_ofList]
  exact ⟨_, hfields⟩

theorem isValue_typedRouteOverrideStats (S : Schema) (key : Int32 × UInt32 × Int32) (enabled : Bool) :
    IsValue (typedRouteOverrideStats S key enabled) := by
  obtain ⟨v, hside⟩ := isValue_keySideText key.1
  have hfields := derives_fields
    (.cons "src_side_id" rfl (by decide) hside <|
    .cons "data_type" rfl (by decide) (derives_decimal (S.v4TypeId key.2.1).toNat) <|
    .cons "dst_side_id" rfl (by decide) (derives_i32Text key.2.2) <|
    .cons "enabled" rfl (by decide) (derives_bool enabled) .nil)
  unfold typedRouteOverrideStats
  simp only [memberText, fieldsTail_cons, fieldsTail_nil, List.append_assoc, List.cons_append] at hfields ⊢
  repeat rw [ascii_ofList] at hfields
  repeat rw [ascii_ofList]
  exact ⟨_, hfields⟩

theorem isValue_policyValueStats (priorities : Bool) (srcSide : Option Int32) (dstSide : Int32) (value : UInt32) :
    IsValue (policyValueStats priorities srcSide dstSide value) := by
  obtain ⟨v, hside⟩ := isValue_srcSideText srcSide
  cases priorities with
  | true =>
    have hfields := derives_fields
      (.cons "src_side_id" rfl (by decide) hside <|
      .cons "dst_side_id" rfl (by decide) (derives_i32Text dstSide) <|
      .cons "priority" rfl (by decide) (derives_decimal value.toNat) .nil)
    unfold policyValueStats
    simp only [memberText, fieldsTail_cons, fieldsTail_nil, List.append_assoc, List.cons_append] at hfields ⊢
    repeat rw [ascii_ofList] at hfields
    repeat rw [ascii_ofList]
    exact ⟨_, hfields⟩
  | false =>
    have hfields := derives_fields
      (.cons "src_side_id" rfl (by decide) hside <|
      .cons "dst_side_id" rfl (by decide) (derives_i32Text dstSide) <|
      .cons "weight" rfl (by decide) (derives_decimal value.toNat) .nil)
    unfold policyValueStats
    simp only [memberText, fieldsTail_cons, fieldsTail_nil, List.append_assoc, List.cons_append] at hfields ⊢
    repeat rw [ascii_ofList] at hfields
    repeat rw [ascii_ofList]
    exact ⟨_, hfields⟩

/-! ## Loops -/

/-- What the loops keep: values with commas between them, and `first` while there are none. -/
structure JsonItems.Holds (items : JsonItems) (ts : List Bytes) : Prop where
  out : items.out = separated ts
  first : items.first = ts.isEmpty
  values : ∀ t ∈ ts, IsValue t

theorem separated_append_single {ts : List Bytes} (h : ts ≠ []) (t : Bytes) : separated (ts ++ [t]) = separated ts ++ comma :: t := by
  induction ts with
  | nil => exact absurd rfl h
  | cons t' ts ih =>
    cases ts with
    | nil => rfl
    | cons t'' ts =>
      have hrest := ih (List.cons_ne_nil _ _)
      rw [List.cons_append] at hrest
      rw [List.cons_append, List.cons_append, separated, hrest, separated, List.append_assoc, List.cons_append]

namespace JsonItems

theorem holds_empty : empty.Holds [] := ⟨rfl, rfl, fun _ h => nomatch h⟩

/-- One turn of a loop. -/
theorem Holds.push {items : JsonItems} {ts : List Bytes} (h : items.Holds ts) {t : Bytes} (ht : IsValue t) :
    (items.push t).Holds (ts ++ [t]) := by
  refine ⟨?_, ?_, List.forall_mem_append.mpr ⟨h.values, List.forall_mem_singleton.mpr ht⟩⟩
  · unfold JsonItems.push
    rw [h.out, h.first]
    cases ts with
    | nil => rfl
    | cons t' ts =>
      rw [separated_append_single (List.cons_ne_nil _ _)]
      exact List.append_assoc _ _ _
  · unfold JsonItems.push
    cases ts <;> rfl

/-- A whole loop. -/
theorem Holds.foldl {α : Type} {step : JsonItems → α → JsonItems}
    (hstep : ∀ items ts a, items.Holds ts → ∃ ts', (step items a).Holds ts') (as : List α) {items : JsonItems} {ts : List Bytes}
    (h : items.Holds ts) : ∃ ts', (as.foldl step items).Holds ts' := by
  induction as generalizing items ts with
  | nil => exact ⟨ts, h⟩
  | cons a as ih =>
    obtain ⟨ts', h'⟩ := hstep items ts a h
    exact ih h'

/-- The array of the elements. -/
theorem Holds.isValue {items : JsonItems} {ts : List Bytes} (h : items.Holds ts) :
    IsValue (openBracket :: (items.out ++ [closeBracket])) := by
  rw [h.out]
  exact isValue_array h.values

end JsonItems

namespace Owner

theorem routeModes_holds (o : Owner) : ∃ ts, o.routeModes.Holds ts := by
  have hlocal : ∃ ts, (if o.localPolicy.mode ≠ .Fanout ∨ o.localPolicy.weights.entries ≠ [] ∨ o.localPolicy.priorities.entries ≠ [] then
      JsonItems.empty.push (routeModeStats none o.localPolicy) else .empty).Holds ts := by
    split
    · exact ⟨_, JsonItems.holds_empty.push (isValue_routeModeStats none o.localPolicy)⟩
    · exact ⟨_, JsonItems.holds_empty⟩
  obtain ⟨ts, hts⟩ := hlocal
  exact hts.foldl (fun items ts e h => ⟨_, h.push (isValue_routeModeStats (some e.1) e.2)⟩) _

theorem routeOverrideItems_holds (o : Owner) : ∃ ts, o.routeOverrideItems.Holds ts :=
  JsonItems.holds_empty.foldl (fun _ _ e h => ⟨_, h.push (isValue_routeOverrideStats e.1 e.2)⟩) _

theorem typedRouteOverrideItems_holds (o : Owner) (S : Schema) : ∃ ts, (o.typedRouteOverrideItems S).Holds ts :=
  JsonItems.holds_empty.foldl (fun _ _ e h => ⟨_, h.push (isValue_typedRouteOverrideStats S e.1 e.2)⟩) _

theorem pushOnePolicy_holds (priorities : Bool) (srcSide : Option Int32) (policy : RoutePolicy) {items : JsonItems} {ts : List Bytes}
    (h : items.Holds ts) : ∃ ts', (pushOnePolicy priorities srcSide policy items).Holds ts' :=
  h.foldl (fun _ _ e h => ⟨_, h.push (isValue_policyValueStats priorities srcSide e.1 e.2)⟩) _

theorem routePolicyValues_holds (o : Owner) (priorities : Bool) : ∃ ts, (o.routePolicyValues priorities).Holds ts := by
  obtain ⟨ts, hts⟩ := pushOnePolicy_holds priorities none o.localPolicy JsonItems.holds_empty
  exact hts.foldl (fun _ _ e h => pushOnePolicy_holds priorities (some e.1) e.2 h) _

set_option maxRecDepth 4000 in
/-- **Runtime statistics are one JSON object**, whatever the state of the owner, if the names of its sides are in UTF-8. -/
theorem runtimeStatsJson_isObject (o : Owner) (S : Schema) (transport : Nat → SideTransport) (h : ∀ side ∈ o.sides, Utf8 side.name) :
    ∃ ms, IsText (.object ms) (o.runtimeStatsJson S transport) := by
  have hsides : IsValue (openBracket :: (jsonPushEach (fun p => sideStats p.2 p.1 (transport p.2)) o.sides.zipIdx ++ [closeBracket])) := by
    rw [jsonPushEach_eq]
    refine isValue_array fun t ht => ?_
    obtain ⟨p, hp, rfl⟩ := List.mem_map.mp ht
    exact isValue_sideStats p.2 (h p.1 (List.mem_of_getElem? (List.mk_mem_zipIdx_iff_getElem?.mp hp))) (transport p.2)
  obtain ⟨sides, hsides⟩ := hsides
  obtain ⟨modes, hmodes⟩ := o.routeModes_holds.choose_spec.isValue
  obtain ⟨overrides, hoverrides⟩ := o.routeOverrideItems_holds.choose_spec.isValue
  obtain ⟨typed, htyped⟩ := (o.typedRouteOverrideItems_holds S).choose_spec.isValue
  obtain ⟨weights, hweights⟩ := (o.routePolicyValues_holds false).choose_spec.isValue
  obtain ⟨priorities, hpriorities⟩ := (o.routePolicyValues_holds true).choose_spec.isValue
  have hqueues := derives_fields
    (.cons "rx_len" rfl (by decide) (derives_decimal o.rxQueue.items.length) <|
    .cons "rx_bytes" rfl (by decide) (derives_u64Text o.rxQueue.bytes) <|
    .cons "tx_len" rfl (by decide) (derives_decimal o.txQueue.items.length) <|
    .cons "tx_bytes" rfl (by decide) (derives_u64Text o.txQueue.bytes) <|
    .cons "replay_len" rfl (by decide) (derives_decimal o.reliableReleasedRx.length) <|
    .cons "replay_bytes" rfl (by decide) derives_zero <|
    .cons "recent_rx_len" rfl (by decide) (derives_decimal o.recentIds.length) <|
    .cons "recent_rx_bytes" rfl (by decide) (derives_u64Text (UInt64.ofNat o.recentIds.length * 8)) <|
    .cons "reliable_rx_buffered_len" rfl (by decide) derives_zero <|
    .cons "reliable_rx_buffered_bytes" rfl (by decide) derives_zero <|
    .cons "shared_queue_bytes_used" rfl (by decide) (derives_u64Text (o.rxQueue.bytes + o.txQueue.bytes)) .nil)
  have hreliable := derives_fields
    (.cons "reliable_return_route_count" rfl (by decide) (derives_decimal o.reliableReturnRoutes.entries.length) <|
    .cons "end_to_end_pending_count" rfl (by decide) derives_zero <|
    .cons "end_to_end_pending_destination_count" rfl (by decide) derives_zero <|
    .cons "end_to_end_acked_cache_count" rfl (by decide) derives_zero .nil)
  have hdiscovery := derives_fields
    (.cons "route_count" rfl (by decide) (derives_decimal o.discoveryRoutes.entries.length) <|
    .cons "announcer_count" rfl (by decide) (derives_decimal o.announcerCount) <|
    .cons "current_announce_interval_ms" rfl (by decide) (derives_u64Text o.discoveryIntervalMs) <|
    .cons "next_announce_ms" rfl (by decide) (derives_u64Text o.discoveryNextMs) .nil)
  have hfields := derives_fields
    (.cons "sides" rfl (by decide) hsides <|
    .cons "route_modes" rfl (by decide) hmodes <|
    .cons "route_overrides" rfl (by decide) hoverrides <|
    .cons "typed_route_overrides" rfl (by decide) htyped <|
    .cons "route_weights" rfl (by decide) hweights <|
    .cons "route_priorities" rfl (by decide) hpriorities <|
    .cons "queues" rfl (by decide) hqueues <|
    .cons "reliable" rfl (by decide) hreliable <|
    .cons "discovery" rfl (by decide) hdiscovery <|
    .cons "total_handler_failures" rfl (by decide) derives_zero <|
    .cons "total_handler_retries" rfl (by decide) derives_zero .nil)
  unfold runtimeStatsJson pushRoutePolicyValues
  simp only [memberText, fieldsTail_cons, fieldsTail_nil, List.append_assoc, List.cons_append] at hfields ⊢
  repeat rw [ascii_ofList] at hfields
  repeat rw [ascii_ofList]
  exact ⟨_, hfields.tight⟩

/-- Two sides, the first with a weight in the policy for packets of the second. -/
theorem runtimeStatsJson_isObject_weighted :
    let o := { Owner.new (ascii "R") [.serialized (ascii "gps") true, .serialized [0xC3, 0xA9] false] with
      sourcePolicy := (∅ : Map Int32 RoutePolicy).insert 1 ⟨.Weighted, (∅ : Map Int32 UInt32).insert 0 3, ∅, 0⟩ }
    ∃ ms, IsText (.object ms) (o.runtimeStatsJson ⟨[], []⟩ fun _ => default) := by
  refine runtimeStatsJson_isObject _ _ _ fun side hside => ?_
  rcases List.mem_cons.mp hside with rfl | hside
  · exact utf8_plain (by decide)
  · rw [List.mem_singleton.mp hside]
    exact ⟨[Char.ofNat 0xE9], by decide⟩

end Owner

end SedsNet
