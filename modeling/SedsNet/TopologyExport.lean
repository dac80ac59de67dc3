import SedsNet.JsonText
import SedsNet.Topology

/-!
# The topology as JSON

`topology_snapshot_to_json` (`src/packet_api.cpp`) appends the text of a snapshot piece by piece. `toJson` says which value that
is the text of, and `ofJson` reads a snapshot from a value, by the names of the members.
-/

set_option autoImplicit false

namespace SedsNet

open Lib Lib.Json

structure TopologyAnnouncerRoute where
  senderId : Bytes
  reachableEndpoints : List UInt32
  reachableTimesyncSources : List Bytes
  routers : List TopologyBoardNode
  lastSeenMs : UInt64
  ageMs : UInt64
  deriving DecidableEq, Repr

structure TopologySideRoute where
  sideId : UInt64
  sideName : Bytes
  reachableEndpoints : List UInt32
  reachableTimesyncSources : List Bytes
  announcers : List TopologyAnnouncerRoute
  lastSeenMs : UInt64
  ageMs : UInt64
  deriving DecidableEq, Repr

structure TopologySnapshot where
  advertisedEndpoints : List UInt32
  advertisedTimesyncSources : List Bytes
  routers : List TopologyBoardNode
  routes : List TopologySideRoute
  currentAnnounceIntervalMs : UInt64
  nextAnnounceMs : UInt64
  deriving DecidableEq, Repr

/-! ## `topology_snapshot_to_json` -/

def pushU32Array (vals : List UInt32) : Bytes := jsonPushNumberArray (vals.map UInt32.toNat)

def pushBoard (board : TopologyBoardNode) : Bytes :=
  ascii "\x7b\"sender_id\":" ++ jsonPushEscaped board.senderId ++
  ascii ",\"reachable_endpoints\":" ++ pushU32Array board.reachableEndpoints ++
  ascii ",\"reachable_timesync_sources\":" ++ jsonPushStringArray board.reachableTimesyncSources ++
  ascii ",\"connections\":" ++ jsonPushStringArray board.connections ++
  ascii "\x7d"

/-- The body of the loop over the announcers of a route. -/
def pushAnnouncer (announcer : TopologyAnnouncerRoute) : Bytes :=
  ascii "\x7b\"sender_id\":" ++ jsonPushEscaped announcer.senderId ++
  ascii ",\"reachable_endpoints\":" ++ pushU32Array announcer.reachableEndpoints ++
  ascii ",\"reachable_timesync_sources\":" ++ jsonPushStringArray announcer.reachableTimesyncSources ++
  ascii ",\"routers\":[" ++ jsonPushEach pushBoard announcer.routers ++
  ascii "],\"last_seen_ms\":" ++ toDecimal announcer.lastSeenMs.toNat ++
  ascii ",\"age_ms\":" ++ toDecimal announcer.ageMs.toNat ++
  ascii "\x7d"

/-- The body of the loop over the routes. -/
def pushRoute (route : TopologySideRoute) : Bytes :=
  ascii "\x7b\"side_id\":" ++ toDecimal route.sideId.toNat ++
  ascii ",\"side_name\":" ++ jsonPushEscaped route.sideName ++
  ascii ",\"reachable_endpoints\":" ++ pushU32Array route.reachableEndpoints ++
  ascii ",\"reachable_timesync_sources\":" ++ jsonPushStringArray route.reachableTimesyncSources ++
  ascii ",\"announcers\":[" ++ jsonPushEach pushAnnouncer route.announcers ++
  ascii "],\"last_seen_ms\":" ++ toDecimal route.lastSeenMs.toNat ++
  ascii ",\"age_ms\":" ++ toDecimal route.ageMs.toNat ++
  ascii "\x7d"

def topologySnapshotToJson (snap : TopologySnapshot) : Bytes :=
  ascii "\x7b\"advertised_endpoints\":" ++ pushU32Array snap.advertisedEndpoints ++
  ascii ",\"advertised_timesync_sources\":" ++ jsonPushStringArray snap.advertisedTimesyncSources ++
  ascii ",\"routers\":[" ++ jsonPushEach pushBoard snap.routers ++
  ascii "],\"routes\":[" ++ jsonPushEach pushRoute snap.routes ++
  ascii "],\"current_announce_interval_ms\":" ++ toDecimal snap.currentAnnounceIntervalMs.toNat ++
  ascii ",\"next_announce_ms\":" ++ toDecimal snap.nextAnnounceMs.toNat ++
  ascii "\x7d"

/-! ## The value of the text -/

def u32Json (n : UInt32) : Json := .number n.toNat 0

def u64Json (n : UInt64) : Json := .number n.toNat 0

def TopologyBoardNode.toJson (board : TopologyBoardNode) : Json :=
  jsonFields [("sender_id", .string board.senderId),
    ("reachable_endpoints", .array (board.reachableEndpoints.map u32Json)),
    ("reachable_timesync_sources", .array (board.reachableTimesyncSources.map .string)),
    ("connections", .array (board.connections.map .string))]

def TopologyAnnouncerRoute.toJson (announcer : TopologyAnnouncerRoute) : Json :=
  jsonFields [("sender_id", .string announcer.senderId),
    ("reachable_endpoints", .array (announcer.reachableEndpoints.map u32Json)),
    ("reachable_timesync_sources", .array (announcer.reachableTimesyncSources.map .string)),
    ("routers", .array (announcer.routers.map (·.toJson))),
    ("last_seen_ms", u64Json announcer.lastSeenMs),
    ("age_ms", u64Json announcer.ageMs)]

def TopologySideRoute.toJson (route : TopologySideRoute) : Json :=
  jsonFields [("side_id", u64Json route.sideId),
    ("side_name", .string route.sideName),
    ("reachable_endpoints", .array (route.reachableEndpoints.map u32Json)),
    ("reachable_timesync_sources", .array (route.reachableTimesyncSources.map .string)),
    ("announcers", .array (route.announcers.map (·.toJson))),
    ("last_seen_ms", u64Json route.lastSeenMs),
    ("age_ms", u64Json route.ageMs)]

def TopologySnapshot.toJson (snap : TopologySnapshot) : Json :=
  jsonFields [("advertised_endpoints", .array (snap.advertisedEndpoints.map u32Json)),
    ("advertised_timesync_sources", .array (snap.advertisedTimesyncSources.map .string)),
    ("routers", .array (snap.routers.map (·.toJson))),
    ("routes", .array (snap.routes.map (·.toJson))),
    ("current_announce_interval_ms", u64Json snap.currentAnnounceIntervalMs),
    ("next_announce_ms", u64Json snap.nextAnnounceMs)]

/-! ## Strings in UTF-8 -/

structure TopologyBoardNode.Utf8 (board : TopologyBoardNode) : Prop where
  sender : Json.Utf8 board.senderId
  sources : ∀ s ∈ board.reachableTimesyncSources, Json.Utf8 s
  connections : ∀ s ∈ board.connections, Json.Utf8 s

structure TopologyAnnouncerRoute.Utf8 (announcer : TopologyAnnouncerRoute) : Prop where
  sender : Json.Utf8 announcer.senderId
  sources : ∀ s ∈ announcer.reachableTimesyncSources, Json.Utf8 s
  routers : ∀ board ∈ announcer.routers, board.Utf8

structure TopologySideRoute.Utf8 (route : TopologySideRoute) : Prop where
  name : Json.Utf8 route.sideName
  sources : ∀ s ∈ route.reachableTimesyncSources, Json.Utf8 s
  announcers : ∀ announcer ∈ route.announcers, announcer.Utf8

structure TopologySnapshot.Utf8 (snap : TopologySnapshot) : Prop where
  sources : ∀ s ∈ snap.advertisedTimesyncSources, Json.Utf8 s
  routers : ∀ board ∈ snap.routers, board.Utf8
  routes : ∀ route ∈ snap.routes, route.Utf8

/-! ## The text is one of the value -/

theorem derives_u32Array (vals : List UInt32) : Derives (.value (.array (vals.map u32Json))) (pushU32Array vals) := by
  have h := derives_numbers (vals.map UInt32.toNat)
  rw [List.map_map] at h
  exact h

theorem derives_u64 (n : UInt64) : Derives (.value (u64Json n)) (toDecimal n.toNat) := derives_decimal n.toNat

/-- The pieces of a text against those of an object. -/
theorem derives_board {board : TopologyBoardNode} (h : board.Utf8) : Derives (.value board.toJson) (pushBoard board) := by
  have hfields := derives_fields
    (.cons "sender_id" rfl (by decide) (derives_escaped h.sender)
    (.cons "reachable_endpoints" rfl (by decide) (derives_u32Array board.reachableEndpoints)
    (.cons "reachable_timesync_sources" rfl (by decide) (derives_strings h.sources)
    (.cons "connections" rfl (by decide) (derives_strings h.connections) .nil))))
  unfold pushBoard
  simp only [memberText, fieldsTail_cons, fieldsTail_nil, List.append_assoc, List.cons_append] at hfields ⊢
  repeat rw [ascii_ofList] at hfields
  repeat rw [ascii_ofList]
  exact hfields

theorem derives_announcer {announcer : TopologyAnnouncerRoute} (h : announcer.Utf8) :
    Derives (.value announcer.toJson) (pushAnnouncer announcer) := by
  have hfields := derives_fields
    (.cons "sender_id" rfl (by decide) (derives_escaped h.sender)
    (.cons "reachable_endpoints" rfl (by decide) (derives_u32Array announcer.reachableEndpoints)
    (.cons "reachable_timesync_sources" rfl (by decide) (derives_strings h.sources)
    (.cons "routers" rfl (by decide) (derives_each fun board hboard => derives_board (h.routers board hboard))
    (.cons "last_seen_ms" rfl (by decide) (derives_u64 announcer.lastSeenMs)
    (.cons "age_ms" rfl (by decide) (derives_u64 announcer.ageMs) .nil))))))
  unfold pushAnnouncer
  simp only [memberText, fieldsTail_cons, fieldsTail_nil, List.append_assoc, List.cons_append] at hfields ⊢
  repeat rw [ascii_ofList] at hfields
  repeat rw [ascii_ofList]
  exact hfields

theorem derives_route {route : TopologySideRoute} (h : route.Utf8) : Derives (.value route.toJson) (pushRoute route) := by
  have hfields := derives_fields
    (.cons "side_id" rfl (by decide) (derives_u64 route.sideId)
    (.cons "side_name" rfl (by decide) (derives_escaped h.name)
    (.cons "reachable_endpoints" rfl (by decide) (derives_u32Array route.reachableEndpoints)
    (.cons "reachable_timesync_sources" rfl (by decide) (derives_strings h.sources)
    (.cons "announcers" rfl (by decide) (derives_each fun announcer hannouncer => derives_announcer (h.announcers announcer hannouncer))
    (.cons "last_seen_ms" rfl (by decide) (derives_u64 route.lastSeenMs)
    (.cons "age_ms" rfl (by decide) (derives_u64 route.ageMs) .nil)))))))
  unfold pushRoute
  simp only [memberText, fieldsTail_cons, fieldsTail_nil, List.append_assoc, List.cons_append] at hfields ⊢
  repeat rw [ascii_ofList] at hfields
  repeat rw [ascii_ofList]
  exact hfields

theorem derives_snapshot {snap : TopologySnapshot} (h : snap.Utf8) : Derives (.value snap.toJson) (topologySnapshotToJson snap) := by
  have hfields := derives_fields
    (.cons "advertised_endpoints" rfl (by decide) (derives_u32Array snap.advertisedEndpoints)
    (.cons "advertised_timesync_sources" rfl (by decide) (derives_strings h.sources)
    (.cons "routers" rfl (by decide) (derives_each fun board hboard => derives_board (h.routers board hboard))
    (.cons "routes" rfl (by decide) (derives_each fun route hroute => derives_route (h.routes route hroute))
    (.cons "current_announce_interval_ms" rfl (by decide) (derives_u64 snap.currentAnnounceIntervalMs)
    (.cons "next_announce_ms" rfl (by decide) (derives_u64 snap.nextAnnounceMs) .nil))))))
  unfold topologySnapshotToJson
  simp only [memberText, fieldsTail_cons, fieldsTail_nil, List.append_assoc, List.cons_append] at hfields ⊢
  repeat rw [ascii_ofList] at hfields
  repeat rw [ascii_ofList]
  exact hfields

/-! ## Reading a snapshot -/

def u32OfJson (v : Json) : Option UInt32 := (jsonNat v).map UInt32.ofNat

def u64OfJson (v : Json) : Option UInt64 := (jsonNat v).map UInt64.ofNat

def TopologyBoardNode.ofJson (v : Json) : Option TopologyBoardNode := do
  return {
    senderId := ← (jsonField "sender_id" v).bind jsonString
    reachableEndpoints := ← (jsonField "reachable_endpoints" v).bind (jsonArray u32OfJson)
    reachableTimesyncSources := ← (jsonField "reachable_timesync_sources" v).bind (jsonArray jsonString)
    connections := ← (jsonField "connections" v).bind (jsonArray jsonString) }

def TopologyAnnouncerRoute.ofJson (v : Json) : Option TopologyAnnouncerRoute := do
  return {
    senderId := ← (jsonField "sender_id" v).bind jsonString
    reachableEndpoints := ← (jsonField "reachable_endpoints" v).bind (jsonArray u32OfJson)
    reachableTimesyncSources := ← (jsonField "reachable_timesync_sources" v).bind (jsonArray jsonString)
    routers := ← (jsonField "routers" v).bind (jsonArray TopologyBoardNode.ofJson)
    lastSeenMs := ← (jsonField "last_seen_ms" v).bind u64OfJson
    ageMs := ← (jsonField "age_ms" v).bind u64OfJson }

def TopologySideRoute.ofJson (v : Json) : Option TopologySideRoute := do
  return {
    sideId := ← (jsonField "side_id" v).bind u64OfJson
    sideName := ← (jsonField "side_name" v).bind jsonString
    reachableEndpoints := ← (jsonField "reachable_endpoints" v).bind (jsonArray u32OfJson)
    reachableTimesyncSources := ← (jsonField "reachable_timesync_sources" v).bind (jsonArray jsonString)
    announcers := ← (jsonField "announcers" v).bind (jsonArray TopologyAnnouncerRoute.ofJson)
    lastSeenMs := ← (jsonField "last_seen_ms" v).bind u64OfJson
    ageMs := ← (jsonField "age_ms" v).bind u64OfJson }

def TopologySnapshot.ofJson (v : Json) : Option TopologySnapshot := do
  return {
    advertisedEndpoints := ← (jsonField "advertised_endpoints" v).bind (jsonArray u32OfJson)
    advertisedTimesyncSources := ← (jsonField "advertised_timesync_sources" v).bind (jsonArray jsonString)
    routers := ← (jsonField "routers" v).bind (jsonArray TopologyBoardNode.ofJson)
    routes := ← (jsonField "routes" v).bind (jsonArray TopologySideRoute.ofJson)
    currentAnnounceIntervalMs := ← (jsonField "current_announce_interval_ms" v).bind u64OfJson
    nextAnnounceMs := ← (jsonField "next_announce_ms" v).bind u64OfJson }

theorem u32OfJson_u32Json (n : UInt32) : u32OfJson (u32Json n) = some n := by
  show some (UInt32.ofNat (n.toNat : Int).toNat) = some n
  rw [Int.toNat_natCast, UInt32.ofNat_toNat]

theorem u64OfJson_u64Json (n : UInt64) : u64OfJson (u64Json n) = some n := by
  show some (UInt64.ofNat (n.toNat : Int).toNat) = some n
  rw [Int.toNat_natCast, UInt64.ofNat_toNat]

theorem jsonString_string (s : Bytes) : jsonString (.string s) = some s := rfl

theorem TopologyBoardNode.ofJson_toJson (board : TopologyBoardNode) : ofJson board.toJson = some board := by
  unfold ofJson toJson
  simp (disch := decide) only [jsonField_head, jsonField_tail, Option.bind_some, jsonArray_map u32OfJson_u32Json,
    jsonArray_map jsonString_string, jsonString_string]
  rfl

theorem TopologyAnnouncerRoute.ofJson_toJson (announcer : TopologyAnnouncerRoute) : ofJson announcer.toJson = some announcer := by
  unfold ofJson toJson
  simp (disch := decide) only [jsonField_head, jsonField_tail, Option.bind_some, jsonArray_map u32OfJson_u32Json,
    jsonArray_map jsonString_string, jsonString_string, jsonArray_map TopologyBoardNode.ofJson_toJson, u64OfJson_u64Json]
  rfl

theorem TopologySideRoute.ofJson_toJson (route : TopologySideRoute) : ofJson route.toJson = some route := by
  unfold ofJson toJson
  simp (disch := decide) only [jsonField_head, jsonField_tail, Option.bind_some, jsonArray_map u32OfJson_u32Json,
    jsonArray_map jsonString_string, jsonString_string, jsonArray_map TopologyAnnouncerRoute.ofJson_toJson, u64OfJson_u64Json]
  rfl

theorem TopologySnapshot.ofJson_toJson (snap : TopologySnapshot) : ofJson snap.toJson = some snap := by
  unfold ofJson toJson
  simp (disch := decide) only [jsonField_head, jsonField_tail, Option.bind_some, jsonArray_map u32OfJson_u32Json,
    jsonArray_map jsonString_string, jsonArray_map TopologyBoardNode.ofJson_toJson,
    jsonArray_map TopologySideRoute.ofJson_toJson, u64OfJson_u64Json]
  rfl

/-- **Exporting a topology loses nothing.** The text of a snapshot whose strings are in UTF-8 is a JSON object, what a parser
    makes of it has the snapshot in it, and so no other snapshot has the same text. -/
theorem topologySnapshotToJson_faithful (snap : TopologySnapshot) (h : snap.Utf8) :
    (∃ ms, IsText (.object ms) (topologySnapshotToJson snap)) ∧
    (Json.parse (topologySnapshotToJson snap)).bind TopologySnapshot.ofJson = some snap ∧
    ∀ other : TopologySnapshot, other.Utf8 → topologySnapshotToJson other = topologySnapshotToJson snap → other = snap := by
  have htext : IsText snap.toJson (topologySnapshotToJson snap) := (derives_snapshot h).tight
  refine ⟨⟨_, htext⟩, ?_, fun other hother hsame => ?_⟩
  · rw [parse_text htext, Option.bind_some, snap.ofJson_toJson]
  · have hvalue : other.toJson = snap.toJson := by
      have hothers : IsText other.toJson (topologySnapshotToJson other) := (derives_snapshot hother).tight
      rw [hsame] at hothers
      exact hothers.unique htext
    have hread := other.ofJson_toJson
    rw [hvalue, snap.ofJson_toJson] at hread
    exact (Option.some.inj hread).symm

/-- A side whose name is a quote, a backslash, a line feed, another control character and a character beyond ASCII. -/
def oddSnapshot : TopologySnapshot where
  advertisedEndpoints := [100, 4294967295]
  advertisedTimesyncSources := []
  routers := [⟨ascii "GS", [], [], []⟩]
  routes := [⟨0, [0x22, 0x5C, 0x0A, 0x01, 0xE9].flatMap utf8, [], [ascii "GS"], [], 18446744073709551615, 0⟩]
  currentAnnounceIntervalMs := 500
  nextAnnounceMs := 1500

theorem topologySnapshotToJson_faithful_odd :
    (Json.parse (topologySnapshotToJson oddSnapshot)).bind TopologySnapshot.ofJson = some oddSnapshot := by
  have hstation : Json.Utf8 (ascii "GS") := ⟨[Char.ofNat 0x47, Char.ofNat 0x53], by decide⟩
  refine (topologySnapshotToJson_faithful oddSnapshot ⟨(fun s hs => nomatch hs), ?_, ?_⟩).2.1
  · intro board hboard
    rw [List.mem_singleton.mp hboard]
    exact ⟨hstation, (fun s hs => nomatch hs), (fun s hs => nomatch hs)⟩
  · intro route hroute
    rw [List.mem_singleton.mp hroute]
    refine ⟨⟨[0x22, 0x5C, 0x0A, 0x01, 0xE9].map Char.ofNat, by decide⟩, ?_, (fun announcer hannouncer => nomatch hannouncer)⟩
    intro s hs
    rw [List.mem_singleton.mp hs]
    exact hstation

end SedsNet
