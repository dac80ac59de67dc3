import Mathlib.Data.List.AList
import Mathlib.Data.List.Destutter
import Mathlib.Data.List.Sort
import Mathlib.Data.Finset.Basic
import SedsNet.Schema

/-!
# Topology boards

`Cpp-Headers/discovery_helpers.hpp` and the pure half of `src/discovery.cpp`: what a discovery packet
says about the boards behind a side, and what a side's route remembers of it. A board lists the
endpoints and time sources that can be reached through it, and its neighbours.

Hash sets are finite sets and hash maps association lists; where the source iterates over one, the
order of the list stands for the order of the hash table. Memory is not bounded: the `reserve` calls
on counts from the wire have no counterpart.
-/

set_option autoImplicit false

namespace SedsNet

/-- `std::map` and `std::unordered_map`. -/
abbrev Map (κ α : Type) : Type := AList fun _ : κ => α

namespace Map

variable {κ α β : Type}

/-- Every value is rewritten in place. -/
def mapValues (f : α → β) (m : Map κ α) : Map κ β :=
  ⟨m.entries.map fun e => ⟨e.1, f e.2⟩, by
    have h := m.nodupKeys
    rwa [List.NodupKeys, List.keys, List.map_map]⟩

/-- The erase loop over an iterator: entries that do not pass are dropped. -/
def keepIf (p : κ → α → Bool) (m : Map κ α) : Map κ α :=
  ⟨m.entries.filter fun e => p e.1 e.2, m.nodupKeys.sublist List.filter_sublist⟩

/-- `operator[]`: a missing entry is made. -/
def getOr [DecidableEq κ] (m : Map κ α) (k : κ) (new : α) : α := (m.lookup k).getD new

end Map

/-- `std::ranges::sort` and then `unique`. -/
def sortDedup {α : Type} [LE α] [DecidableLE α] [DecidableEq α] (xs : List α) : List α :=
  (xs.insertionSort (· ≤ ·)).destutter (· ≠ ·)

/-! ## Boards -/

structure TopologyBoardNode where
  senderId : Bytes
  reachableEndpoints : List UInt32
  reachableTimesyncSources : List Bytes
  connections : List Bytes
  deriving DecidableEq, Repr, Inhabited

/-- The loop body of `normalize_topology_boards`. -/
def TopologyBoardNode.normalize (board : TopologyBoardNode) : TopologyBoardNode :=
  { board with
    reachableEndpoints := sortDedup board.reachableEndpoints
    reachableTimesyncSources := sortDedup board.reachableTimesyncSources
    connections := sortDedup (board.connections.filter (· ≠ board.senderId)) }

/-- `normalize_topology_boards`: boards sorted by sender, one for each sender. -/
def normalizeTopologyBoards (boards : List TopologyBoardNode) : List TopologyBoardNode :=
  ((boards.map TopologyBoardNode.normalize).insertionSort (·.senderId ≤ ·.senderId)).destutter
    (·.senderId ≠ ·.senderId)

/-- `summarize_topology_boards`. -/
def summarizeTopologyBoards (boards : List TopologyBoardNode) : List UInt32 × List Bytes :=
  (sortDedup (boards.flatMap (·.reachableEndpoints)), sortDedup (boards.flatMap (·.reachableTimesyncSources)))

/-- The `erase(remove_if(..))` that keeps link-local endpoints off an ordinary side. -/
def TopologyBoardNode.hide (hidden : UInt32 → Bool) (board : TopologyBoardNode) : TopologyBoardNode :=
  { board with reachableEndpoints := board.reachableEndpoints.filter fun ep => !hidden ep }

/-! ## Routes -/

/-- `DiscoveryRoute::SenderState`. -/
structure SenderState where
  endpoints : Finset UInt32
  timesyncSources : Finset Bytes
  topologyBoards : List TopologyBoardNode
  lastSeenMs : UInt64
  deriving DecidableEq

structure DiscoveryRoute where
  endpoints : Finset UInt32
  timesyncSources : Finset Bytes
  lastSeenMs : UInt64
  announcers : Map Bytes SenderState

def SenderState.new : SenderState := ⟨∅, ∅, [], 0⟩

def DiscoveryRoute.new : DiscoveryRoute := ⟨∅, ∅, 0, ∅⟩

/-- `refresh_sender_topology_state`. -/
def SenderState.refresh (state : SenderState) : SenderState :=
  let boards := normalizeTopologyBoards state.topologyBoards
  let (reachable, sources) := summarizeTopologyBoards boards
  { state with topologyBoards := boards, endpoints := reachable.toFinset, timesyncSources := sources.toFinset }

/-- `recompute_discovery_side_state`. -/
def DiscoveryRoute.recompute (route : DiscoveryRoute) : DiscoveryRoute :=
  let states := route.announcers.entries.map (·.2)
  { route with
    endpoints := states.foldl (fun acc state => acc ∪ state.endpoints) ∅
    timesyncSources := states.foldl (fun acc state => acc ∪ state.timesyncSources) ∅
    lastSeenMs := states.foldl (fun acc state => max acc state.lastSeenMs) 0 }

/-- `sender_topology_board_mut`, with what is then written to the board: the sender's own board, or
    a new one at the end. -/
def updateSenderBoard (boards : List TopologyBoardNode) (senderId : Bytes)
    (f : TopologyBoardNode → TopologyBoardNode) : List TopologyBoardNode :=
  match boards.findIdx? (·.senderId == senderId) with
  | some i => boards.modify i f
  | none => boards ++ [f ⟨senderId, [], [], []⟩]

/-- The board `sender_topology_board_mut` points to. -/
def senderBoard (boards : List TopologyBoardNode) (senderId : Bytes) : TopologyBoardNode :=
  (boards.find? (·.senderId == senderId)).getD ⟨senderId, [], [], []⟩

/-- The boards a leaving sender leaves behind: its own go, and so do links to it. -/
def boardsWithout (boards : List TopologyBoardNode) (leaving : Bytes) : List TopologyBoardNode :=
  (boards.filter (·.senderId ≠ leaving)).map fun board =>
    { board with connections := board.connections.filter (· ≠ leaving) }

/-- The inner loop of `prune_leaving_discovery_sender`. -/
def SenderState.withoutSender (state : SenderState) (leaving : Bytes) : SenderState :=
  let boards := boardsWithout state.topologyBoards leaving
  if boards ≠ state.topologyBoards then { state with topologyBoards := boards }.refresh else state

/-- Whether a leaving sender changes a route: it announced here, or some other sender's boards
    mention it. -/
def DiscoveryRoute.mentions (route : DiscoveryRoute) (leaving : Bytes) : Bool :=
  (route.announcers.lookup leaving).isSome ||
    (route.announcers.erase leaving).entries.any fun e =>
      boardsWithout e.2.topologyBoards leaving != e.2.topologyBoards

/-- The outer loop, for one route. -/
def DiscoveryRoute.withoutSender (route : DiscoveryRoute) (leaving : Bytes) : DiscoveryRoute :=
  DiscoveryRoute.recompute { route with
    announcers := Map.mapValues (·.withoutSender leaving) (route.announcers.erase leaving) }

/-! ## Payloads -/

/-- The loop of `decode_discovery_endpoints`, before sorting. -/
def announcedEndpoints (S : Schema) : Bytes → List UInt32
  | b0 :: b1 :: b2 :: b3 :: rest =>
    let ep := loadLe32 [b0, b1, b2, b3] 0
    if S.validEndpoint ep ∧ ep ≠ SEDS_EP_DISCOVERY then ep :: announcedEndpoints S rest
    else announcedEndpoints S rest
  | _ => []

/-- `decode_discovery_endpoints`. -/
def decodeDiscoveryEndpoints (S : Schema) (payload : Bytes) : List UInt32 :=
  sortDedup (announcedEndpoints S payload)

/-- The loop of `decode_discovery_timesync_sources_packet`: it stops at the first string that is cut
    short, and keeps those before it. -/
def announcedSources (payload : Bytes) : Nat → Nat → List Bytes
  | 0, _ => []
  | count + 1, off =>
    if off + 4 ≤ payload.length then
      let len := (loadLe32 payload off).toNat
      if off + 4 + len > payload.length then []
      else
        let rest := announcedSources payload count (off + 4 + len)
        if len ≠ 0 then (payload.drop (off + 4)).take len :: rest else rest
    else []

/-- `decode_discovery_timesync_sources_packet`. -/
def decodeDiscoveryTimesyncSources (payload : Bytes) : List Bytes :=
  if payload.length < 4 then [] else sortDedup (announcedSources payload (loadLe32 payload 0).toNat 4)

/-- A `uint32_t` of the payload and the offset behind it; `none` is the exception. -/
def decodeCount (payload : Bytes) (off : Nat) : Option (Nat × Nat) :=
  if off + 4 > payload.length then none else some ((loadLe32 payload off).toNat, off + 4)

/-- `decode_sized_string`. -/
def decodeSizedString (payload : Bytes) (off : Nat) : Option (Bytes × Nat) := do
  let (len, off) ← decodeCount payload off
  if off + len > payload.length then none else some ((payload.drop off).take len, off + len)

/-- The source and connection loops of `decode_discovery_topology_payload`: empty strings are
    dropped. -/
def decodeStrings (payload : Bytes) : Nat → Nat → Option (List Bytes × Nat)
  | 0, off => some ([], off)
  | count + 1, off => do
    let (s, off) ← decodeSizedString payload off
    let (rest, off) ← decodeStrings payload count off
    some (if s.isEmpty then rest else s :: rest, off)

/-- `n` endpoint ids from an offset on. -/
def loadEndpoints (payload : Bytes) (off n : Nat) : List UInt32 :=
  (List.range n).map fun i => loadLe32 payload (off + 4 * i)

def decodeBoard (payload : Bytes) (off : Nat) : Option (TopologyBoardNode × Nat) := do
  let (senderId, off) ← decodeSizedString payload off
  let (endpointCount, off) ← decodeCount payload off
  if off + endpointCount * 4 > payload.length then none
  else
    let endpoints := (loadEndpoints payload off endpointCount).filter (· ≠ SEDS_EP_DISCOVERY)
    let (sourceCount, off) ← decodeCount payload (off + endpointCount * 4)
    let (sources, off) ← decodeStrings payload sourceCount off
    let (connectionCount, off) ← decodeCount payload off
    let (connections, off) ← decodeStrings payload connectionCount off
    some (⟨senderId, endpoints, sources, connections⟩, off)

def decodeBoards (payload : Bytes) : Nat → Nat → Option (List TopologyBoardNode × Nat)
  | 0, off => some ([], off)
  | count + 1, off => do
    let (board, off) ← decodeBoard payload off
    let (rest, off) ← decodeBoards payload count off
    some (board :: rest, off)

/-- `decode_discovery_topology_payload`; a malformed payload throws, trailing bytes included. -/
def decodeDiscoveryTopologyPayload (payload : Bytes) : Option (List TopologyBoardNode) := do
  let (count, off) ← decodeCount payload 0
  let (boards, off) ← decodeBoards payload count off
  if off ≠ payload.length then none else some (normalizeTopologyBoards boards)

/-- `decode_discovery_topology_packet`: the exception becomes an empty list. -/
def decodeDiscoveryTopologyPacket (payload : Bytes) : List TopologyBoardNode :=
  (decodeDiscoveryTopologyPayload payload).getD []

/-! ## The discovery endpoint is never advertised

The decoders drop `SEDS_EP_DISCOVERY`, and nothing after them adds endpoints. -/

namespace Map

variable {κ α β : Type}

theorem mem_insert [DecidableEq κ] {m : Map κ α} {k : κ} {v : α} {e : (_ : κ) × α}
    (h : e ∈ (m.insert k v).entries) : e = ⟨k, v⟩ ∨ e ∈ m.entries := by
  rcases List.mem_cons.mp h with rfl | hold
  · exact .inl rfl
  · exact .inr ((List.kerase_sublist k m.entries).subset hold)

theorem mem_erase [DecidableEq κ] {m : Map κ α} {k : κ} {e : (_ : κ) × α} (h : e ∈ (m.erase k).entries) :
    e ∈ m.entries :=
  (List.kerase_sublist k m.entries).subset h

theorem mem_mapValues {f : α → β} {m : Map κ α} {e : (_ : κ) × β} (h : e ∈ (m.mapValues f).entries) :
    ∃ old ∈ m.entries, e = ⟨old.1, f old.2⟩ := by
  obtain ⟨old, hold, rfl⟩ := List.mem_map.mp h
  exact ⟨old, hold, rfl⟩

theorem mem_keepIf {p : κ → α → Bool} {m : Map κ α} {e : (_ : κ) × α} (h : e ∈ (m.keepIf p).entries) :
    e ∈ m.entries :=
  (List.mem_filter.mp h).1

theorem mem_iff_lookup [DecidableEq κ] {m : Map κ α} {k : κ} : k ∈ m ↔ ∃ v, m.lookup k = some v := by
  rw [← AList.lookup_isSome, Option.isSome_iff_exists]

theorem lookup_keepIf_iff [DecidableEq κ] {p : κ → α → Bool} {m : Map κ α} {k : κ} {v : α} :
    (m.keepIf p).lookup k = some v ↔ m.lookup k = some v ∧ p k v = true := by
  constructor
  · intro h
    obtain ⟨hmem, hkeep⟩ := List.mem_filter.mp (List.of_mem_dlookup h)
    exact ⟨List.mem_dlookup m.nodupKeys hmem, hkeep⟩
  · rintro ⟨h, hkeep⟩
    exact List.mem_dlookup (m.keepIf p).nodupKeys (List.mem_filter.mpr ⟨List.of_mem_dlookup h, hkeep⟩)

theorem lookup_foldl_erase [DecidableEq κ] (gone : List κ) (m : Map κ α) (k : κ) :
    (gone.foldl (fun m old => m.erase old) m).lookup k = if k ∈ gone then none else m.lookup k := by
  induction gone generalizing m with
  | nil => simp
  | cons first gone ih =>
    rw [List.foldl_cons, ih]
    by_cases hk : k = first
    · subst hk
      simp
    · simp [hk]

theorem mem_of_lookup [DecidableEq κ] {m : Map κ α} {k : κ} {v : α} (h : m.lookup k = some v) :
    (⟨k, v⟩ : (_ : κ) × α) ∈ m.entries :=
  List.of_mem_dlookup h

end Map

theorem mem_of_mem_sortDedup {α : Type} [LE α] [DecidableLE α] [DecidableEq α] {xs : List α} {x : α}
    (h : x ∈ sortDedup xs) : x ∈ xs :=
  (List.mem_insertionSort _).mp ((List.destutter_sublist _ _).subset h)

theorem mem_normalizeTopologyBoards {boards : List TopologyBoardNode} {board : TopologyBoardNode}
    (h : board ∈ normalizeTopologyBoards boards) : ∃ b ∈ boards, b.normalize = board :=
  List.mem_map.mp ((List.mem_insertionSort _).mp ((List.destutter_sublist _ _).subset h))

theorem mem_summarizeTopologyBoards {boards : List TopologyBoardNode} {ep : UInt32}
    (h : ep ∈ (summarizeTopologyBoards boards).1) : ∃ b ∈ boards, ep ∈ b.reachableEndpoints :=
  List.mem_flatMap.mp (mem_of_mem_sortDedup h)

/-- A board does not list the discovery endpoint. -/
def TopologyBoardNode.Public (board : TopologyBoardNode) : Prop := SEDS_EP_DISCOVERY ∉ board.reachableEndpoints

/-- Nothing a sender announced lists the discovery endpoint. -/
structure SenderState.Public (state : SenderState) : Prop where
  boards : ∀ board ∈ state.topologyBoards, board.Public
  endpoints : SEDS_EP_DISCOVERY ∉ state.endpoints

theorem TopologyBoardNode.Public.normalize {board : TopologyBoardNode} (h : board.Public) : board.normalize.Public :=
  fun hmem => h (mem_of_mem_sortDedup hmem)

theorem TopologyBoardNode.Public.hide {board : TopologyBoardNode} (h : board.Public) (hidden : UInt32 → Bool) :
    (board.hide hidden).Public :=
  fun hmem => h (List.mem_filter.mp hmem).1

theorem normalizeTopologyBoards_public {boards : List TopologyBoardNode} (h : ∀ b ∈ boards, b.Public) :
    ∀ b ∈ normalizeTopologyBoards boards, b.Public := by
  intro board hmem
  obtain ⟨b, hb, rfl⟩ := mem_normalizeTopologyBoards hmem
  exact (h b hb).normalize

theorem SenderState.refresh_public {state : SenderState} (h : ∀ b ∈ state.topologyBoards, b.Public) :
    state.refresh.Public := by
  refine ⟨normalizeTopologyBoards_public h, ?_⟩
  intro hmem
  obtain ⟨b, hb, hep⟩ := mem_summarizeTopologyBoards (List.mem_toFinset.mp hmem)
  exact normalizeTopologyBoards_public h b hb hep

theorem SenderState.new_public : SenderState.new.Public := ⟨fun _ h => (nomatch h), Finset.notMem_empty _⟩

theorem updateSenderBoard_public {boards : List TopologyBoardNode} {senderId : Bytes}
    {f : TopologyBoardNode → TopologyBoardNode} (h : ∀ b ∈ boards, b.Public)
    (hf : ∀ b : TopologyBoardNode, b.Public → (f b).Public) : ∀ b ∈ updateSenderBoard boards senderId f, b.Public := by
  unfold updateSenderBoard
  intro board hmem
  cases hfind : boards.findIdx? (·.senderId == senderId) with
  | none =>
    rw [hfind] at hmem
    rcases List.mem_append.mp hmem with hold | hnew
    · exact h board hold
    · rw [List.mem_singleton.mp hnew]
      exact hf _ (fun hep => nomatch hep)
  | some i =>
    rw [hfind] at hmem
    obtain ⟨j, hj⟩ := List.mem_iff_getElem?.mp hmem
    rw [List.getElem?_modify] at hj
    cases hget : boards[j]? with
    | none =>
      rw [hget] at hj
      cases hj
    | some b =>
      rw [hget] at hj
      have hb := h b (List.mem_of_getElem? hget)
      split at hj
      · cases hj
        exact hf b hb
      · cases hj
        exact hb

theorem announcedEndpoints_public (S : Schema) (payload : Bytes) : SEDS_EP_DISCOVERY ∉ announcedEndpoints S payload := by
  fun_induction announcedEndpoints S payload with
  | case1 b0 b1 b2 b3 rest ep hkeep ih =>
    intro hmem
    rcases List.mem_cons.mp hmem with heq | hrest
    · exact hkeep.2 heq.symm
    · exact ih hrest
  | case2 b0 b1 b2 b3 rest ep hdrop ih => exact ih
  | case3 payload hshort => exact List.not_mem_nil

theorem decodeDiscoveryEndpoints_public (S : Schema) (payload : Bytes) :
    SEDS_EP_DISCOVERY ∉ decodeDiscoveryEndpoints S payload :=
  fun hmem => announcedEndpoints_public S payload (mem_of_mem_sortDedup hmem)

theorem decodeBoard_public {payload : Bytes} {off off' : Nat} {board : TopologyBoardNode}
    (h : decodeBoard payload off = some (board, off')) : board.Public := by
  unfold decodeBoard at h
  simp only [Option.bind_eq_bind, Option.bind_eq_some_iff, Prod.exists] at h
  obtain ⟨senderId, off₁, -, count, off₂, -, h⟩ := h
  split at h
  · cases h
  · simp only [Option.bind_eq_some_iff, Prod.exists, Option.some.injEq, Prod.mk.injEq] at h
    obtain ⟨_, _, -, sources, _, -, _, _, -, connections, _, -, rfl, -⟩ := h
    intro hmem
    exact (by simpa using (List.mem_filter.mp hmem).2)

theorem decodeBoards_public {payload : Bytes} {count off off' : Nat} {boards : List TopologyBoardNode}
    (h : decodeBoards payload count off = some (boards, off')) : ∀ b ∈ boards, b.Public := by
  induction count generalizing off off' boards with
  | zero =>
    cases h
    exact fun _ hb => nomatch hb
  | succ count ih =>
    unfold decodeBoards at h
    simp only [Option.bind_eq_bind, Option.bind_eq_some_iff, Prod.exists, Option.some.injEq, Prod.mk.injEq] at h
    obtain ⟨board, off₁, hboard, rest, off₂, hrest, rfl, -⟩ := h
    intro b hb
    rcases List.mem_cons.mp hb with rfl | hb
    · exact decodeBoard_public hboard
    · exact ih hrest b hb

theorem decodeDiscoveryTopologyPacket_public (payload : Bytes) :
    ∀ b ∈ decodeDiscoveryTopologyPacket payload, b.Public := by
  unfold decodeDiscoveryTopologyPacket
  cases hdec : decodeDiscoveryTopologyPayload payload with
  | none => exact fun _ hb => nomatch hb
  | some boards =>
    unfold decodeDiscoveryTopologyPayload at hdec
    simp only [Option.bind_eq_bind, Option.bind_eq_some_iff, Prod.exists] at hdec
    obtain ⟨count, off, -, decoded, off', hboards, hdec⟩ := hdec
    split at hdec
    · cases hdec
    · cases hdec
      exact normalizeTopologyBoards_public (decodeBoards_public hboards)

theorem SenderState.Public.withoutSender {state : SenderState} (h : state.Public) (leaving : Bytes) :
    (state.withoutSender leaving).Public := by
  unfold SenderState.withoutSender
  dsimp only
  split
  · apply SenderState.refresh_public
    intro board hmem
    obtain ⟨b, hb, rfl⟩ := List.mem_map.mp hmem
    exact h.boards b (List.mem_filter.mp hb).1
  · exact h

end SedsNet
