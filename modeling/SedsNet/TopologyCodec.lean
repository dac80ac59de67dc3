import SedsNet.Advertised
import SedsNet.Wire.Fields

/-!
# Topologies on the wire

`build_discovery_topology` writes boards with a count before every list and every string, and
`decode_discovery_topology_payload` reads them back. Each decoder is compared with its writer where the payload continues with what
was written (`Continues`), and reads the same when more bytes follow.
-/

set_option autoImplicit false

namespace SedsNet

/-! ## What is written is read -/

section

variable {b rest : Bytes} {i : Nat}

/-- What continues with two parts continues with the first, and then with the second. -/
theorem Continues.split {l l' : Bytes} (h : Continues b i (l ++ l') rest) :
    Continues b i l (l' ++ rest) ∧ Continues b (i + l.length) l' rest := by
  have hfirst : Continues b i l (l' ++ rest) := by
    rw [Continues, ← List.append_assoc]
    exact h
  exact ⟨hfirst, hfirst.next⟩

theorem length_appendLe32 (v : UInt32) : (appendLe32 v).length = 4 := rfl

theorem decodeCount_append {v : UInt32} (h : Continues b i (appendLe32 v) rest) : decodeCount b i = some (v.toNat, i + 4) := by
  have hlength := congrArg List.length h
  rw [List.length_drop, List.length_append, length_appendLe32] at hlength
  unfold decodeCount
  rw [if_neg (by omega), loadLe32_append v h]

/-- The count before a list. -/
theorem decodeCount_length {n : Nat} (hn : n < 2 ^ 32) (h : Continues b i (appendLe32 (UInt32.ofNat n)) rest) :
    decodeCount b i = some (n, i + 4) := by
  rw [decodeCount_append h, UInt32.toNat_ofNat_of_lt' hn]

theorem length_encodeSizedString (s : Bytes) : (encodeSizedString s).length = 4 + s.length := by
  unfold encodeSizedString
  rw [List.length_append]
  rfl

theorem decodeSizedString_encode {s : Bytes} (hs : s.length < 2 ^ 32) (h : Continues b i (encodeSizedString s) rest) :
    decodeSizedString b i = some (s, i + (encodeSizedString s).length) := by
  obtain ⟨hcount, hstring⟩ := Continues.split h
  have hlength := congrArg List.length hcount
  rw [List.length_drop, List.length_append, List.length_append, length_appendLe32] at hlength
  unfold decodeSizedString
  rw [decodeCount_length hs hcount]
  show (if i + 4 + s.length > b.length then none else some ((b.drop (i + 4)).take s.length, i + 4 + s.length)) = _
  rw [if_neg (by omega), show (b.drop (i + 4)).take s.length = s from hstring.take, length_encodeSizedString, Nat.add_assoc]

theorem decodeStrings_encode {strings : List Bytes} (hstrings : ∀ s ∈ strings, s.length < 2 ^ 32)
    (h : Continues b i (strings.flatMap encodeSizedString) rest) :
    decodeStrings b strings.length i =
      some (strings.filter (!·.isEmpty), i + (strings.flatMap encodeSizedString).length) := by
  induction strings generalizing i with
  | nil => rfl
  | cons s strings ih =>
    obtain ⟨hfirst, hrest⟩ := Continues.split h
    rw [List.length_cons, decodeStrings, decodeSizedString_encode (hstrings s List.mem_cons_self) hfirst, List.flatMap_cons,
      List.length_append, List.filter_cons]
    dsimp only [Option.bind_eq_bind, Option.bind_some]
    rw [ih (fun s' hs' => hstrings s' (List.mem_cons_of_mem s hs')) hrest]
    dsimp only [Option.bind_some]
    rw [Nat.add_assoc]
    cases s with
    | nil => rfl
    | cons c s => rfl

theorem loadEndpoints_succ (b : Bytes) (i n : Nat) : loadEndpoints b i (n + 1) = loadLe32 b i :: loadEndpoints b (i + 4) n := by
  unfold loadEndpoints
  rw [List.range_succ_eq_map, List.map_cons, List.map_map]
  congr 1
  refine List.map_congr_left fun k _ => ?_
  show loadLe32 b (i + 4 * (k + 1)) = _
  congr 1
  omega

theorem length_flatMap_appendLe32 (endpoints : List UInt32) : (endpoints.flatMap appendLe32).length = endpoints.length * 4 := by
  induction endpoints with
  | nil => rfl
  | cons ep endpoints ih =>
    rw [List.flatMap_cons, List.length_append, ih, List.length_cons, length_appendLe32]
    omega

theorem loadEndpoints_append {endpoints : List UInt32} (h : Continues b i (endpoints.flatMap appendLe32) rest) :
    loadEndpoints b i endpoints.length = endpoints := by
  induction endpoints generalizing i with
  | nil => rfl
  | cons ep endpoints ih =>
    obtain ⟨hfirst, hrest⟩ := Continues.split h
    have hlater : loadEndpoints b (i + 4) endpoints.length = endpoints := ih hrest
    rw [List.length_cons, loadEndpoints_succ, loadLe32_append ep hfirst, hlater]

end

/-- A board whose strings and lists have lengths that can be written. -/
structure TopologyBoardNode.Sized (board : TopologyBoardNode) : Prop where
  sender : board.senderId.length < 2 ^ 32
  endpoints : board.reachableEndpoints.length < 2 ^ 32
  sources : board.reachableTimesyncSources.length < 2 ^ 32
  eachSource : ∀ s ∈ board.reachableTimesyncSources, s.length < 2 ^ 32
  connections : board.connections.length < 2 ^ 32
  eachConnection : ∀ s ∈ board.connections, s.length < 2 ^ 32

/-- What the decoder keeps of a board. -/
def TopologyBoardNode.kept (board : TopologyBoardNode) : TopologyBoardNode :=
  ⟨board.senderId, board.reachableEndpoints.filter (· ≠ SEDS_EP_DISCOVERY),
    board.reachableTimesyncSources.filter (!·.isEmpty), board.connections.filter (!·.isEmpty)⟩

/-- A board that fits the format: strings that are not empty, no discovery endpoint, and lengths below 2^32. -/
structure TopologyBoardNode.Encodable (board : TopologyBoardNode) : Prop where
  sender : board.senderId.length < 2 ^ 32
  endpoints : board.reachableEndpoints.length < 2 ^ 32
  isPublic : board.Public
  sources : board.reachableTimesyncSources.length < 2 ^ 32
  eachSource : ∀ s ∈ board.reachableTimesyncSources, s ≠ [] ∧ s.length < 2 ^ 32
  connections : board.connections.length < 2 ^ 32
  eachConnection : ∀ s ∈ board.connections, s ≠ [] ∧ s.length < 2 ^ 32

theorem TopologyBoardNode.Encodable.sized {board : TopologyBoardNode} (h : board.Encodable) : board.Sized :=
  ⟨h.sender, h.endpoints, h.sources, fun s hs => (h.eachSource s hs).2, h.connections, fun s hs => (h.eachConnection s hs).2⟩

theorem TopologyBoardNode.Encodable.kept_eq {board : TopologyBoardNode} (h : board.Encodable) : board.kept = board := by
  have hfull {strings : List Bytes} (hstrings : ∀ s ∈ strings, s ≠ [] ∧ s.length < 2 ^ 32) :
      strings.filter (!·.isEmpty) = strings := by
    rw [List.filter_eq_self]
    intro s hs
    simpa using (hstrings s hs).1
  have hlisted : board.reachableEndpoints.filter (· ≠ SEDS_EP_DISCOVERY) = board.reachableEndpoints := by
    rw [List.filter_eq_self]
    intro ep hep
    exact decide_eq_true fun heq => h.isPublic (heq ▸ hep)
  unfold TopologyBoardNode.kept
  rw [hlisted, hfull h.eachSource, hfull h.eachConnection]

section

variable {b rest : Bytes} {i : Nat}

theorem decodeBoard_encode {board : TopologyBoardNode} (hboard : board.Sized) (h : Continues b i (encodeBoard board) rest) :
    decodeBoard b i = some (board.kept, i + (encodeBoard board).length) := by
  unfold encodeBoard at h ⊢
  obtain ⟨hsenders, hconnections⟩ := Continues.split h
  obtain ⟨hendpoints, hsources⟩ := Continues.split hsenders
  obtain ⟨hsender, hendpoints⟩ := Continues.split hendpoints
  obtain ⟨hendpointCount, hendpoints⟩ := Continues.split hendpoints
  obtain ⟨hsourceCount, hsources⟩ := Continues.split hsources
  obtain ⟨hconnectionCount, hconnections⟩ := Continues.split hconnections
  simp only [length_appendLe32] at hendpoints
  simp only [List.length_append, length_appendLe32, length_flatMap_appendLe32, ← Nat.add_assoc] at hsourceCount hsources
  simp only [List.length_append, length_appendLe32, length_flatMap_appendLe32, ← Nat.add_assoc] at hconnectionCount hconnections
  simp only [List.length_append, length_appendLe32, length_flatMap_appendLe32, ← Nat.add_assoc]
  have hroom := congrArg List.length hendpointCount
  rw [List.length_drop, List.length_append, length_appendLe32, List.length_append, length_flatMap_appendLe32] at hroom
  unfold decodeBoard
  rw [decodeSizedString_encode hboard.sender hsender]
  dsimp only [Option.bind_eq_bind, Option.bind_some]
  rw [decodeCount_length hboard.endpoints hendpointCount]
  dsimp only [Option.bind_some]
  rw [if_neg (by omega), loadEndpoints_append hendpoints, decodeCount_length hboard.sources hsourceCount]
  dsimp only [Option.bind_some]
  rw [decodeStrings_encode hboard.eachSource hsources]
  dsimp only [Option.bind_some]
  rw [decodeCount_length hboard.connections hconnectionCount]
  dsimp only [Option.bind_some]
  rw [decodeStrings_encode hboard.eachConnection hconnections]
  rfl

theorem decodeBoards_encode {boards : List TopologyBoardNode} (hboards : ∀ board ∈ boards, board.Sized)
    (h : Continues b i (boards.flatMap encodeBoard) rest) :
    decodeBoards b boards.length i = some (boards.map (·.kept), i + (boards.flatMap encodeBoard).length) := by
  induction boards generalizing i with
  | nil => rfl
  | cons board boards ih =>
    obtain ⟨hfirst, hrest⟩ := Continues.split h
    rw [List.length_cons, decodeBoards, decodeBoard_encode (hboards board List.mem_cons_self) hfirst, List.flatMap_cons,
      List.length_append]
    dsimp only [Option.bind_eq_bind, Option.bind_some]
    rw [ih (fun other hother => hboards other (List.mem_cons_of_mem board hother)) hrest]
    dsimp only [Option.bind_some]
    rw [Nat.add_assoc]
    rfl

end

/-! ## What is read was written

A reading that succeeds stands for a stretch of the payload: the encoding of what was read, with what the decoder does not keep. -/

section

variable {b : Bytes} {i j : Nat}

/-- From offset `i` on the payload reads `l`, up to offset `j`. -/
structure Stretch (b : Bytes) (i : Nat) (l : Bytes) (j : Nat) : Prop where
  continues : Continues b i l (b.drop j)
  stop : j = i + l.length

namespace Stretch

variable {l l' rest : Bytes} {k : Nat}

theorem of_continues (h : Continues b i l rest) : Stretch b i l (i + l.length) :=
  ⟨by rw [h.next]; exact h, rfl⟩

theorem nil : Stretch b i [] i := ⟨rfl, rfl⟩

theorem append (h : Stretch b i l j) (h' : Stretch b j l' k) : Stretch b i (l ++ l') k where
  continues := by
    have hfirst : b.drop i = l ++ b.drop j := h.continues
    have hrest : b.drop j = l' ++ b.drop k := h'.continues
    rw [Continues, hfirst, hrest, List.append_assoc]
  stop := by rw [h'.stop, h.stop, List.length_append, Nat.add_assoc]

/-- The bytes between two offsets. -/
theorem take {n : Nat} (h : i + n ≤ b.length) : Stretch b i ((b.drop i).take n) (i + n) :=
  ⟨drop_eq b i n, by rw [length_field h]⟩

end Stretch

theorem decodeCount_stretch {n : Nat} (h : decodeCount b i = some (n, j)) :
    ∃ v : UInt32, v.toNat = n ∧ Stretch b i (appendLe32 v) j := by
  unfold decodeCount at h
  split at h
  · cases h
  · rename_i hroom
    cases h
    refine ⟨loadLe32 b i, rfl, ?_⟩
    rw [appendLe32_load (by omega)]
    exact Stretch.take (by omega)

theorem decodeSizedString_stretch {s : Bytes} (h : decodeSizedString b i = some (s, j)) :
    s.length < 2 ^ 32 ∧ Stretch b i (encodeSizedString s) j := by
  unfold decodeSizedString at h
  rw [Option.bind_eq_bind, Option.bind_eq_some_iff] at h
  obtain ⟨⟨n, k⟩, hcount, h⟩ := h
  obtain ⟨v, rfl, hv⟩ := decodeCount_stretch hcount
  dsimp only at h
  split at h
  · cases h
  · rename_i hroom
    rw [Option.some.injEq, Prod.mk.injEq] at h
    obtain ⟨rfl, rfl⟩ := h
    have hlen : ((b.drop k).take v.toNat).length = v.toNat := length_field (by omega)
    unfold encodeSizedString
    rw [hlen, UInt32.ofNat_toNat]
    exact ⟨v.toNat_lt, hv.append (Stretch.take (by omega))⟩

theorem decodeStrings_stretch {n : Nat} {strings : List Bytes} (h : decodeStrings b n i = some (strings, j)) :
    ∃ written : List Bytes, written.length = n ∧ (∀ s ∈ written, s.length < 2 ^ 32) ∧
      written.filter (!·.isEmpty) = strings ∧ Stretch b i (written.flatMap encodeSizedString) j := by
  induction n generalizing i strings with
  | zero =>
    cases h
    exact ⟨[], rfl, by simp, rfl, Stretch.nil⟩
  | succ n ih =>
    unfold decodeStrings at h
    simp only [Option.bind_eq_bind, Option.bind_eq_some_iff, Prod.exists] at h
    obtain ⟨s, k, hfirst, others, k', hrest, h⟩ := h
    rw [Option.some.injEq, Prod.mk.injEq] at h
    obtain ⟨rfl, rfl⟩ := h
    obtain ⟨hs, hstring⟩ := decodeSizedString_stretch hfirst
    obtain ⟨written, rfl, hwritten, rfl, hothers⟩ := ih hrest
    refine ⟨s :: written, rfl, List.forall_mem_cons.mpr ⟨hs, hwritten⟩, ?_, hstring.append hothers⟩
    cases s with
    | nil => rfl
    | cons c s => rfl

theorem length_loadEndpoints (b : Bytes) (i n : Nat) : (loadEndpoints b i n).length = n := by
  unfold loadEndpoints
  rw [List.length_map, List.length_range]

theorem loadEndpoints_stretch {n : Nat} (h : i + n * 4 ≤ b.length) :
    Stretch b i ((loadEndpoints b i n).flatMap appendLe32) (i + n * 4) := by
  induction n generalizing i with
  | zero => exact Stretch.nil
  | succ n ih =>
    have hfirst : Stretch b i (appendLe32 (loadLe32 b i)) (i + 4) := by
      rw [appendLe32_load (by omega)]
      exact Stretch.take (by omega)
    rw [loadEndpoints_succ, List.flatMap_cons, show i + (n + 1) * 4 = i + 4 + n * 4 by omega]
    exact hfirst.append (ih (by omega))

/-- The ids of a board with their count, where there is room for them. -/
theorem countedEndpoints_stretch {n k : Nat} (h : decodeCount b i = some (n, k)) (hroom : k + n * 4 ≤ b.length) :
    ∃ endpoints : List UInt32, endpoints.length < 2 ^ 32 ∧ endpoints = loadEndpoints b k n ∧
      Stretch b i (appendLe32 (UInt32.ofNat endpoints.length) ++ endpoints.flatMap appendLe32) (k + n * 4) := by
  obtain ⟨v, rfl, hv⟩ := decodeCount_stretch h
  refine ⟨loadEndpoints b k v.toNat, ?_, rfl, ?_⟩
  · rw [length_loadEndpoints]
    exact v.toNat_lt
  · rw [length_loadEndpoints, UInt32.ofNat_toNat]
    exact hv.append (loadEndpoints_stretch hroom)

/-- Strings with their count. -/
theorem countedStrings_stretch {n k : Nat} {strings : List Bytes} (h : decodeCount b i = some (n, k))
    (hstrings : decodeStrings b n k = some (strings, j)) :
    ∃ written : List Bytes, written.length < 2 ^ 32 ∧ (∀ s ∈ written, s.length < 2 ^ 32) ∧
      written.filter (!·.isEmpty) = strings ∧
      Stretch b i (appendLe32 (UInt32.ofNat written.length) ++ written.flatMap encodeSizedString) j := by
  obtain ⟨v, rfl, hv⟩ := decodeCount_stretch h
  obtain ⟨written, hlen, hwritten, hkept, hrest⟩ := decodeStrings_stretch hstrings
  refine ⟨written, hlen ▸ v.toNat_lt, hwritten, hkept, ?_⟩
  rw [hlen, UInt32.ofNat_toNat]
  exact hv.append hrest

theorem decodeBoard_stretch {board : TopologyBoardNode} (h : decodeBoard b i = some (board, j)) :
    ∃ written : TopologyBoardNode, written.Sized ∧ written.kept = board ∧ Stretch b i (encodeBoard written) j := by
  unfold decodeBoard at h
  simp only [Option.bind_eq_bind, Option.bind_eq_some_iff, Prod.exists] at h
  obtain ⟨sender, k₁, hsender, n, k₂, hcount, h⟩ := h
  split at h
  · cases h
  rename_i hroom
  simp only [Option.bind_eq_some_iff, Prod.exists] at h
  obtain ⟨m, k₃, hm, sources, k₄, hsources, m', k₅, hm', connections, k₆, hconnections, h⟩ := h
  rw [Option.some.injEq, Prod.mk.injEq] at h
  obtain ⟨rfl, rfl⟩ := h
  obtain ⟨hsenderLt, hsenderRead⟩ := decodeSizedString_stretch hsender
  obtain ⟨endpoints, hendpointsLt, hloaded, hendpointsRead⟩ := countedEndpoints_stretch hcount (by omega)
  obtain ⟨written, hsourcesLt, heachSource, rfl, hsourcesRead⟩ := countedStrings_stretch hm hsources
  obtain ⟨written', hconnectionsLt, heachConnection, rfl, hconnectionsRead⟩ := countedStrings_stretch hm' hconnections
  refine ⟨⟨sender, endpoints, written, written'⟩,
    ⟨hsenderLt, hendpointsLt, hsourcesLt, heachSource, hconnectionsLt, heachConnection⟩, ?_, ?_⟩
  · rw [hloaded]
    rfl
  · exact ((hsenderRead.append hendpointsRead).append hsourcesRead).append hconnectionsRead

end

/-! ## Putting boards in order -/

theorem length_sortDedup {α : Type} [LE α] [DecidableLE α] [DecidableEq α] (xs : List α) : (sortDedup xs).length ≤ xs.length := by
  unfold sortDedup
  refine (List.destutter_sublist _ _).length_le.trans ?_
  rw [List.length_insertionSort]

theorem TopologyBoardNode.Encodable.normalize {board : TopologyBoardNode} (h : board.Encodable) : board.normalize.Encodable where
  sender := h.sender
  endpoints := (length_sortDedup _).trans_lt h.endpoints
  isPublic := h.isPublic.normalize
  sources := (length_sortDedup _).trans_lt h.sources
  eachSource := fun s hs => h.eachSource s (mem_sortDedup.mp hs)
  connections := ((length_sortDedup _).trans (List.length_filter_le _ _)).trans_lt h.connections
  eachConnection := fun s hs => h.eachConnection s (List.mem_filter.mp (mem_sortDedup.mp hs)).1

theorem length_normalizeTopologyBoards (boards : List TopologyBoardNode) : (normalizeTopologyBoards boards).length ≤ boards.length := by
  unfold normalizeTopologyBoards
  refine (List.destutter_sublist _ _).length_le.trans ?_
  rw [List.length_insertionSort, List.length_map]

/-- Boards that fit the format, at most one for each sender. -/
structure EncodableBoards (boards : List TopologyBoardNode) : Prop where
  distinct : (boards.map (·.senderId)).Nodup
  count : boards.length < 2 ^ 32
  each : ∀ board ∈ boards, board.Encodable

/-! ## More bytes -/

section

variable {b : Bytes} {i j : Nat}

theorem take_drop_append (suffix : Bytes) {n : Nat} (h : i + n ≤ b.length) : ((b ++ suffix).drop i).take n = (b.drop i).take n := by
  rw [List.drop_append_of_le_length (by omega), List.take_append_of_le_length (by rw [List.length_drop]; omega)]

theorem loadLe32_of_append (suffix : Bytes) (h : i + 4 ≤ b.length) : loadLe32 (b ++ suffix) i = loadLe32 b i := by
  unfold loadLe32
  rw [take_drop_append suffix h]

theorem decodeCount_stable {n : Nat} (h : decodeCount b i = some (n, j)) (suffix : Bytes) : decodeCount (b ++ suffix) i = some (n, j) := by
  unfold decodeCount at h ⊢
  rw [List.length_append]
  split at h
  · cases h
  · rename_i hroom
    rw [if_neg (by omega), loadLe32_of_append suffix (by omega)]
    exact h

theorem decodeSizedString_stable {s : Bytes} (h : decodeSizedString b i = some (s, j)) (suffix : Bytes) :
    decodeSizedString (b ++ suffix) i = some (s, j) := by
  unfold decodeSizedString at h ⊢
  rw [Option.bind_eq_bind, Option.bind_eq_some_iff] at h
  obtain ⟨⟨n, k⟩, hcount, h⟩ := h
  rw [decodeCount_stable hcount suffix]
  dsimp only [Option.bind_eq_bind, Option.bind_some] at h ⊢
  rw [List.length_append]
  split at h
  · cases h
  · rename_i hroom
    rw [if_neg (by omega), take_drop_append suffix (by omega)]
    exact h

theorem decodeStrings_stable {count : Nat} {strings : List Bytes} (h : decodeStrings b count i = some (strings, j)) (suffix : Bytes) :
    decodeStrings (b ++ suffix) count i = some (strings, j) := by
  induction count generalizing i strings with
  | zero => exact h
  | succ count ih =>
    unfold decodeStrings at h ⊢
    simp only [Option.bind_eq_bind, Option.bind_eq_some_iff, Prod.exists] at h
    obtain ⟨s, k, hfirst, others, k', hrest, h⟩ := h
    rw [Option.some.injEq, Prod.mk.injEq] at h
    obtain ⟨rfl, rfl⟩ := h
    rw [decodeSizedString_stable hfirst suffix]
    dsimp only [Option.bind_eq_bind, Option.bind_some]
    rw [ih hrest]
    rfl

theorem loadEndpoints_stable (suffix : Bytes) {n : Nat} (h : i + n * 4 ≤ b.length) : loadEndpoints (b ++ suffix) i n = loadEndpoints b i n := by
  refine List.map_congr_left fun k hk => ?_
  have hlt := List.mem_range.mp hk
  exact loadLe32_of_append suffix (by omega)

theorem decodeBoard_stable {board : TopologyBoardNode} (h : decodeBoard b i = some (board, j)) (suffix : Bytes) :
    decodeBoard (b ++ suffix) i = some (board, j) := by
  unfold decodeBoard at h ⊢
  simp only [Option.bind_eq_bind, Option.bind_eq_some_iff, Prod.exists] at h
  obtain ⟨senderId, k₁, hsender, n, k₂, hcount, h⟩ := h
  rw [decodeSizedString_stable hsender suffix]
  dsimp only [Option.bind_eq_bind, Option.bind_some]
  rw [decodeCount_stable hcount suffix, List.length_append]
  dsimp only [Option.bind_some]
  split at h
  · cases h
  · rename_i hroom
    simp only [Option.bind_eq_some_iff, Prod.exists] at h
    obtain ⟨m, k₃, hsources, sources, k₄, hsourced, m', k₅, hconnections, connections, k₆, hconnected, h⟩ := h
    rw [if_neg (by omega), loadEndpoints_stable suffix (by omega), decodeCount_stable hsources suffix]
    dsimp only [Option.bind_some]
    rw [decodeStrings_stable hsourced suffix]
    dsimp only [Option.bind_some]
    rw [decodeCount_stable hconnections suffix]
    dsimp only [Option.bind_some]
    rw [decodeStrings_stable hconnected suffix]
    exact h

theorem decodeBoards_stable {count : Nat} {boards : List TopologyBoardNode} (h : decodeBoards b count i = some (boards, j)) (suffix : Bytes) :
    decodeBoards (b ++ suffix) count i = some (boards, j) := by
  induction count generalizing i boards with
  | zero => exact h
  | succ count ih =>
    unfold decodeBoards at h ⊢
    simp only [Option.bind_eq_bind, Option.bind_eq_some_iff, Prod.exists] at h
    obtain ⟨board, k, hfirst, others, k', hrest, h⟩ := h
    rw [Option.some.injEq, Prod.mk.injEq] at h
    obtain ⟨rfl, rfl⟩ := h
    rw [decodeBoard_stable hfirst suffix]
    dsimp only [Option.bind_eq_bind, Option.bind_some]
    rw [ih hrest]
    rfl

/-- With more bytes behind it, an accepted payload is one with trailing bytes. -/
theorem decodeDiscoveryTopologyPayload_append {boards : List TopologyBoardNode} (h : decodeDiscoveryTopologyPayload b = some boards)
    {suffix : Bytes} (hsuffix : suffix ≠ []) : decodeDiscoveryTopologyPayload (b ++ suffix) = none := by
  unfold decodeDiscoveryTopologyPayload at h ⊢
  simp only [Option.bind_eq_bind, Option.bind_eq_some_iff, Prod.exists] at h
  obtain ⟨count, k, hcount, decoded, k', hboards, h⟩ := h
  rw [decodeCount_stable hcount suffix]
  dsimp only [Option.bind_eq_bind, Option.bind_some]
  rw [decodeBoards_stable hboards suffix]
  dsimp only [Option.bind_some]
  split at h
  · cases h
  · rename_i hend
    have hmore := List.length_pos_of_ne_nil hsuffix
    rw [not_not] at hend
    rw [if_pos (by rw [List.length_append]; omega)]

end

/-! ## The codec -/

/-- **The topology codec**: what is built from boards that fit the format decodes to the same boards in order, and of an accepted payload
    no proper prefix and no proper extension is accepted. -/
theorem topology_codec :
    (∀ boards, EncodableBoards boards →
      decodeDiscoveryTopologyPayload (encodeDiscoveryTopology boards) = some (normalizeTopologyBoards boards)) ∧
    ∀ payload, (decodeDiscoveryTopologyPayload payload).isSome = true →
      (∀ suffix ≠ [], decodeDiscoveryTopologyPayload (payload ++ suffix) = none) ∧
        ∀ n < payload.length, decodeDiscoveryTopologyPayload (payload.take n) = none := by
  refine ⟨fun boards hboards => ?_, fun payload haccepted => ?_⟩
  · have hcount := (length_normalizeTopologyBoards boards).trans_lt hboards.count
    have hwhole : Continues (encodeDiscoveryTopology boards) 0 (encodeDiscoveryTopology boards) [] := by
      rw [Continues, List.drop_zero, List.append_nil]
    have hfinal : normalizeTopologyBoards (normalizeTopologyBoards boards) = normalizeTopologyBoards boards :=
      (normalizeTopologyBoards_normal boards).normalize_eq
    have heach : ∀ board ∈ normalizeTopologyBoards boards, board.Encodable := by
      intro board hboard
      obtain ⟨old, hold, rfl⟩ := mem_normalizeTopologyBoards hboard
      exact (hboards.each old hold).normalize
    obtain ⟨hfirst, hrest⟩ := Continues.split hwhole
    rw [length_appendLe32] at hrest
    unfold decodeDiscoveryTopologyPayload
    rw [decodeCount_length hcount hfirst]
    dsimp only [Option.bind_eq_bind, Option.bind_some]
    have hkept : (normalizeTopologyBoards boards).map (·.kept) = normalizeTopologyBoards boards :=
      List.map_congr_left (fun board hboard => (heach board hboard).kept_eq) |>.trans (List.map_id' _)
    rw [decodeBoards_encode (fun board hboard => (heach board hboard).sized) hrest, hkept]
    dsimp only [Option.bind_some]
    rw [hfinal]
    refine if_neg (not_not_intro ?_)
    unfold encodeDiscoveryTopology
    rw [List.length_append]
    rfl
  · obtain ⟨boards, hdecoded⟩ := Option.isSome_iff_exists.mp haccepted
    refine ⟨fun suffix hsuffix => decodeDiscoveryTopologyPayload_append hdecoded hsuffix, fun n hn => ?_⟩
    cases hprefix : decodeDiscoveryTopologyPayload (payload.take n) with
    | none => rfl
    | some early =>
      -- the rest of the payload would be trailing bytes
      have hrest : payload.drop n ≠ [] := by
        intro hnil
        have hlength := congrArg List.length hnil
        rw [List.length_drop, List.length_nil] at hlength
        omega
      have hrejected := decodeDiscoveryTopologyPayload_append hprefix hrest
      rw [List.take_append_drop, hdecoded] at hrejected
      cases hrejected

/-- Two boards that know each other, in no order. -/
theorem topology_codec_two :
    let boards : List TopologyBoardNode := [⟨ascii "B", [101, 100, 101], [ascii "B"], [ascii "A", ascii "B"]⟩, ⟨ascii "A", [], [], [ascii "B"]⟩]
    decodeDiscoveryTopologyPayload (encodeDiscoveryTopology boards) =
      some [⟨ascii "A", [], [], [ascii "B"]⟩, ⟨ascii "B", [100, 101], [ascii "B"], [ascii "A"]⟩] := by
  intro boards
  have hfits : EncodableBoards boards := by
    have hshort : ∀ board ∈ boards, board.senderId.length < 2 ^ 32 ∧ board.reachableEndpoints.length < 2 ^ 32 ∧ board.Public ∧
        (board.reachableTimesyncSources.length < 2 ^ 32 ∧ ∀ s ∈ board.reachableTimesyncSources, s ≠ [] ∧ s.length < 2 ^ 32) ∧
        board.connections.length < 2 ^ 32 ∧ ∀ s ∈ board.connections, s ≠ [] ∧ s.length < 2 ^ 32 := by
      unfold TopologyBoardNode.Public
      decide
    refine ⟨by decide, by decide, fun board hboard => ?_⟩
    obtain ⟨hsender, hendpoints, hpublic, ⟨hsources, heachSource⟩, hconnections, heachConnection⟩ := hshort board hboard
    exact ⟨hsender, hendpoints, hpublic, hsources, heachSource, hconnections, heachConnection⟩
  rw [topology_codec.1 boards hfits]
  decide

end SedsNet
