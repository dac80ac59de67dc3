import SedsNet.TopologyCodec

/-!
# What a topology asks of memory

`decode_discovery_topology_payload` sizes its vectors by counts that it reads from the payload. The endpoint count is compared with
the bytes that are left before the vector is resized; the counts of boards, of sources and of connections are reserved for at
once. Here the decoder is a reader whose accesses are the element counts it passes to `reserve` and `resize`, in order, whether or
not it goes on to reject the payload.

The storage is a parameter: which element counts it grants. A request that is refused is an exception of another kind than the one
that `decode_discovery_topology_packet` catches.
-/

set_option autoImplicit false

namespace SedsNet

open Lib

/-! ## The decoder, with its requests -/

namespace Topology

def readCount (b : Bytes) : Reader Nat Nat := Reader.lift (decodeCount b)

def readString (b : Bytes) : Reader Nat Bytes := Reader.lift (decodeSizedString b)

/-- The endpoints of a board: room for them is checked, then the vector is resized. -/
def readEndpoints (b : Bytes) : Reader Nat (List UInt32) := do
  let endpointCount ← readCount b
  let off ← Reader.tell
  Reader.rejectIf (off + endpointCount * 4 > b.length)
  Reader.emit endpointCount
  Reader.lift fun off =>
    some ((loadEndpoints b off endpointCount).filter (· ≠ SEDS_EP_DISCOVERY), off + endpointCount * 4)

/-- The sources or the connections of a board: the vector is reserved before the first string is looked at. -/
def readStrings (b : Bytes) : Reader Nat (List Bytes) := do
  let count ← readCount b
  Reader.emit count
  Reader.lift (decodeStrings b count)

def readBoard (b : Bytes) : Reader Nat TopologyBoardNode := do
  let senderId ← readString b
  let endpoints ← readEndpoints b
  let sources ← readStrings b
  let connections ← readStrings b
  pure ⟨senderId, endpoints, sources, connections⟩

def readBoards (b : Bytes) : Nat → Reader Nat (List TopologyBoardNode)
  | 0 => pure []
  | count + 1 => do
    let board ← readBoard b
    let rest ← readBoards b count
    pure (board :: rest)

def readPayload (b : Bytes) : Reader Nat (List TopologyBoardNode) := do
  let count ← readCount b
  Reader.emit count
  let boards ← readBoards b count
  let off ← Reader.tell
  Reader.rejectIf (off ≠ b.length)
  pure (normalizeTopologyBoards boards)

/-- The element counts passed to `reserve` and `resize` for a payload. -/
def requests (b : Bytes) : List Nat := (readPayload b).trace 0

inductive Thrown where
  | invalidArgument
  | badAlloc
deriving DecidableEq, Repr

/-- `decode_discovery_topology_payload` over a storage: the first request that is refused ends it. -/
def decodePayload (grants : Nat → Bool) (b : Bytes) : Except Thrown (List TopologyBoardNode) :=
  if (requests b).all grants then
    match (readPayload b).value 0 with
    | none => .error .invalidArgument
    | some (boards, _) => .ok boards
  else .error .badAlloc

/-- `decode_discovery_topology_packet`. -/
def decodePacket (grants : Nat → Bool) (b : Bytes) : Except Thrown (List TopologyBoardNode) :=
  match decodePayload grants b with
  | .error .invalidArgument => .ok []
  | result => result

/-! ## The same boards -/

section

variable (b : Bytes)

theorem value_readEndpoints (i : Nat) : (readEndpoints b).value i = (decodeCount b i).bind fun r =>
    if r.2 + r.1 * 4 > b.length then none
    else some ((loadEndpoints b r.2 r.1).filter (· ≠ SEDS_EP_DISCOVERY), r.2 + r.1 * 4) := by
  simp only [readEndpoints, readCount, Reader.value_bind, Reader.value_lift, Reader.value_tell, Reader.value_rejectIf,
    Reader.value_emit, Option.bind_some]
  congr 1
  funext r
  split <;> rfl

theorem value_readStrings (i : Nat) :
    (readStrings b).value i = (decodeCount b i).bind fun r => decodeStrings b r.1 r.2 := by
  simp only [readStrings, readCount, Reader.value_bind, Reader.value_lift, Reader.value_emit, Option.bind_some]

theorem value_readBoard (i : Nat) : (readBoard b).value i = decodeBoard b i := by
  simp only [readBoard, readString, decodeBoard, Reader.value_bind, Reader.value_lift, Reader.value_pure, value_readEndpoints,
    value_readStrings, Option.bind_eq_bind, Option.bind_assoc]
  congr 1
  funext sender
  congr 1
  funext r
  split <;> rfl

theorem value_readBoards (count i : Nat) : (readBoards b count).value i = decodeBoards b count i := by
  induction count generalizing i with
  | zero => rfl
  | succ count ih =>
    simp only [readBoards, decodeBoards, Reader.value_bind, Reader.value_pure, value_readBoard, ih, Option.bind_eq_bind]

/-- The requests aside, the reader is the decoder. -/
theorem value_readPayload : ((readPayload b).value 0).map (·.1) = decodeDiscoveryTopologyPayload b := by
  simp only [readPayload, readCount, decodeDiscoveryTopologyPayload, Reader.value_bind, Reader.value_lift, Reader.value_tell,
    Reader.value_emit, Reader.value_rejectIf, Reader.value_pure, value_readBoards, Option.bind_eq_bind, Option.bind_some,
    Option.map_bind]
  congr 1
  funext r
  dsimp only [Function.comp]
  rw [Option.map_bind]
  congr 1
  funext r'
  dsimp only [Function.comp]
  split <;> rfl

end

/-- Where everything is granted, a packet decodes as it does without a storage. -/
theorem decodePacket_granted {grants : Nat → Bool} {b : Bytes} (h : ∀ n ∈ requests b, grants n = true) :
    decodePacket grants b = .ok (decodeDiscoveryTopologyPacket b) := by
  unfold decodePacket decodePayload decodeDiscoveryTopologyPacket
  rw [if_pos (List.all_eq_true.mpr h), ← value_readPayload]
  cases (readPayload b).value 0 with
  | none => rfl
  | some r => rfl

/-! ## What the payload states -/

/-- A board that starts at offset `i` gets as far as stating `n` sources, or `n` connections. -/
inductive BoardStates (b : Bytes) (i : Nat) (n : UInt32) : Prop
  | sources (senderId : Bytes) (endpoints : List UInt32) (rest : Bytes) (hsender : senderId.length < 2 ^ 32)
      (hendpoints : endpoints.length < 2 ^ 32)
      (h : Continues b i (encodeSizedString senderId ++
        (appendLe32 (UInt32.ofNat endpoints.length) ++ endpoints.flatMap appendLe32) ++ appendLe32 n) rest)
  | connections (senderId : Bytes) (endpoints : List UInt32) (sources : List Bytes) (rest : Bytes)
      (hsender : senderId.length < 2 ^ 32) (hendpoints : endpoints.length < 2 ^ 32) (hsources : sources.length < 2 ^ 32)
      (heach : ∀ s ∈ sources, s.length < 2 ^ 32)
      (h : Continues b i (encodeSizedString senderId ++
        (appendLe32 (UInt32.ofNat endpoints.length) ++ endpoints.flatMap appendLe32) ++
        (appendLe32 (UInt32.ofNat sources.length) ++ sources.flatMap encodeSizedString) ++ appendLe32 n) rest)

/-- A payload states `n` boards, or, after fewer complete boards than it states, `n` sources or connections. -/
inductive StatesCount (b : Bytes) (n : UInt32) : Prop
  | boards (rest : Bytes) (h : Continues b 0 (appendLe32 n) rest)
  | board (count : UInt32) (boards : List TopologyBoardNode) (rest : Bytes) (hboards : ∀ board ∈ boards, board.Sized)
      (hmore : boards.length < count.toNat) (h : Continues b 0 (appendLe32 count ++ boards.flatMap encodeBoard) rest)
      (hstates : BoardStates b (4 + (boards.flatMap encodeBoard).length) n)

/-! ## What is requested is stated -/

section

variable {b rest : Bytes} {i j : Nat}

theorem value_readEndpoints_encode {endpoints : List UInt32} (hlen : endpoints.length < 2 ^ 32)
    (h : Continues b i (appendLe32 (UInt32.ofNat endpoints.length) ++ endpoints.flatMap appendLe32) rest) :
    (readEndpoints b).value i = some (endpoints.filter (· ≠ SEDS_EP_DISCOVERY),
      i + (appendLe32 (UInt32.ofNat endpoints.length) ++ endpoints.flatMap appendLe32).length) := by
  obtain ⟨hcount, hids⟩ := Continues.split h
  rw [length_appendLe32] at hids
  have hroom := congrArg List.length hcount
  rw [List.length_drop, List.length_append, length_appendLe32, List.length_append, length_flatMap_appendLe32] at hroom
  rw [value_readEndpoints, decodeCount_length hlen hcount, Option.bind_some, if_neg (by dsimp only; omega),
    loadEndpoints_append hids, List.length_append, length_appendLe32, length_flatMap_appendLe32, Nat.add_assoc]

theorem value_readStrings_encode {strings : List Bytes} (hlen : strings.length < 2 ^ 32) (heach : ∀ s ∈ strings, s.length < 2 ^ 32)
    (h : Continues b i (appendLe32 (UInt32.ofNat strings.length) ++ strings.flatMap encodeSizedString) rest) :
    (readStrings b).value i = some (strings.filter (!·.isEmpty),
      i + (appendLe32 (UInt32.ofNat strings.length) ++ strings.flatMap encodeSizedString).length) := by
  obtain ⟨hcount, hstrings⟩ := Continues.split h
  rw [length_appendLe32] at hstrings
  rw [value_readStrings, decodeCount_length hlen hcount, Option.bind_some, List.length_append, length_appendLe32,
    decodeStrings_encode heach hstrings, Nat.add_assoc]

/-- Endpoints are asked for when there is room for them. -/
theorem le_length_of_mem_readEndpoints {m : Nat} (h : m ∈ (readEndpoints b).trace i) : m ≤ b.length := by
  unfold readEndpoints readCount at h
  simp only [Reader.mem_trace_bind, Reader.trace_lift, Reader.trace_tell, Reader.trace_rejectIf, Reader.trace_emit,
    Reader.value_rejectIf, List.not_mem_nil, false_or, List.mem_singleton, and_false, exists_false, or_false] at h
  obtain ⟨n, k, -, off, k', -, _, k'', hroom, rfl⟩ := h
  split at hroom
  · cases hroom
  · omega

/-- A list of strings is asked for as soon as its count is read. -/
theorem mem_readStrings {m : Nat} : m ∈ (readStrings b).trace i ↔ ∃ k, decodeCount b i = some (m, k) := by
  unfold readStrings readCount
  simp only [Reader.mem_trace_bind, Reader.trace_lift, Reader.value_lift, Reader.trace_emit, List.not_mem_nil, false_or,
    List.mem_singleton, and_false, exists_false, or_false]
  constructor
  · rintro ⟨n, k, hcount, rfl⟩
    exact ⟨k, hcount⟩
  · rintro ⟨k, hcount⟩
    exact ⟨m, k, hcount, rfl⟩

theorem mem_readBoard {m : Nat} : m ∈ (readBoard b).trace i ↔
    ∃ sender k, decodeSizedString b i = some (sender, k) ∧
      (m ∈ (readEndpoints b).trace k ∨ ∃ endpoints k', (readEndpoints b).value k = some (endpoints, k') ∧
        (m ∈ (readStrings b).trace k' ∨ ∃ sources k'', (readStrings b).value k' = some (sources, k'') ∧
          m ∈ (readStrings b).trace k'')) := by
  unfold readBoard readString
  simp only [Reader.mem_trace_bind, Reader.trace_lift, Reader.value_lift, Reader.trace_pure, List.not_mem_nil, false_or,
    and_false, exists_false, or_false]

theorem BoardStates.requested {n : UInt32} (h : BoardStates b i n) : n.toNat ∈ (readBoard b).trace i := by
  rw [mem_readBoard]
  cases h with
  | sources sender endpoints rest hsender hendpoints h =>
    obtain ⟨hhead, hcount⟩ := Continues.split h
    obtain ⟨hname, hids⟩ := Continues.split hhead
    rw [List.length_append, ← Nat.add_assoc] at hcount
    exact ⟨_, _, decodeSizedString_encode hsender hname, .inr ⟨_, _, value_readEndpoints_encode hendpoints hids,
      .inl (mem_readStrings.mpr ⟨_, decodeCount_append hcount⟩)⟩⟩
  | connections sender endpoints sources rest hsender hendpoints hsources heach h =>
    obtain ⟨hhead, hcount⟩ := Continues.split h
    obtain ⟨hhead, hstrings⟩ := Continues.split hhead
    obtain ⟨hname, hids⟩ := Continues.split hhead
    rw [List.length_append, ← Nat.add_assoc] at hstrings
    rw [List.length_append, List.length_append, ← Nat.add_assoc, ← Nat.add_assoc] at hcount
    exact ⟨_, _, decodeSizedString_encode hsender hname, .inr ⟨_, _, value_readEndpoints_encode hendpoints hids,
      .inr ⟨_, _, value_readStrings_encode hsources heach hstrings, mem_readStrings.mpr ⟨_, decodeCount_append hcount⟩⟩⟩⟩

theorem boardStates_of_mem {m : Nat} (h : m ∈ (readBoard b).trace i) : m ≤ b.length ∨ ∃ n : UInt32, n.toNat = m ∧ BoardStates b i n := by
  obtain ⟨sender, k, hsender, h⟩ := mem_readBoard.mp h
  obtain ⟨hsenderLt, hname⟩ := decodeSizedString_stretch hsender
  rcases h with h | ⟨endpoints, k', hendpoints, h⟩
  · exact .inl (le_length_of_mem_readEndpoints h)
  right
  rw [value_readEndpoints, Option.bind_eq_some_iff] at hendpoints
  obtain ⟨⟨count, start⟩, hcount, hendpoints⟩ := hendpoints
  dsimp only at hendpoints
  split at hendpoints
  · cases hendpoints
  rename_i hroom
  obtain ⟨written, hwrittenLt, -, hids⟩ := countedEndpoints_stretch hcount (by omega)
  rw [Option.some.injEq, Prod.mk.injEq] at hendpoints
  obtain ⟨-, rfl⟩ := hendpoints
  rcases h with h | ⟨sources, k'', hsources, h⟩
  · obtain ⟨stop, hstated⟩ := mem_readStrings.mp h
    obtain ⟨n, rfl, hn⟩ := decodeCount_stretch hstated
    exact ⟨n, rfl, .sources sender written _ hsenderLt hwrittenLt ((hname.append hids).append hn).continues⟩
  · rw [value_readStrings, Option.bind_eq_some_iff] at hsources
    obtain ⟨⟨count', start'⟩, hcount', hsources⟩ := hsources
    obtain ⟨strings, hstringsLt, heach, -, hstrings⟩ := countedStrings_stretch hcount' hsources
    obtain ⟨stop, hstated⟩ := mem_readStrings.mp h
    obtain ⟨n, rfl, hn⟩ := decodeCount_stretch hstated
    exact ⟨n, rfl, .connections sender written strings _ hsenderLt hwrittenLt hstringsLt heach
      (((hname.append hids).append hstrings).append hn).continues⟩

/-- The boards loop asks for what its boards ask for, each after the complete boards before it. -/
theorem mem_readBoards {count m : Nat} : m ∈ (readBoards b count).trace i ↔
    ∃ boards : List TopologyBoardNode, (∀ board ∈ boards, board.Sized) ∧ boards.length < count ∧
      ∃ j, Stretch b i (boards.flatMap encodeBoard) j ∧ m ∈ (readBoard b).trace j := by
  induction count generalizing i with
  | zero => simp [readBoards]
  | succ count ih =>
    simp only [readBoards, Reader.mem_trace_bind, Reader.trace_pure, List.not_mem_nil, and_false, exists_false, or_false,
      value_readBoard, ih]
    constructor
    · rintro (h | ⟨board, k, hboard, boards, hboards, hlen, j, hbefore, h⟩)
      · exact ⟨[], by simp, Nat.succ_pos count, i, Stretch.nil, h⟩
      · obtain ⟨written, hsized, -, hwritten⟩ := decodeBoard_stretch hboard
        exact ⟨written :: boards, List.forall_mem_cons.mpr ⟨hsized, hboards⟩, Nat.succ_lt_succ hlen, j,
          hwritten.append hbefore, h⟩
    · rintro ⟨boards, hboards, hlen, j, hbefore, h⟩
      cases boards with
      | nil =>
        have hj : j = i := hbefore.stop
        exact .inl (hj ▸ h)
      | cons board boards =>
        obtain ⟨hboard, hboards⟩ := List.forall_mem_cons.mp hboards
        obtain ⟨hfirst, hrest⟩ := Continues.split hbefore.continues
        refine .inr ⟨board.kept, _, decodeBoard_encode hboard hfirst, boards, hboards, Nat.lt_of_succ_lt_succ hlen, j, ⟨hrest, ?_⟩, h⟩
        rw [hbefore.stop, List.flatMap_cons, List.length_append, Nat.add_assoc]

theorem mem_requests {m : Nat} : m ∈ requests b ↔
    ∃ count k, decodeCount b 0 = some (count, k) ∧ (m = count ∨ m ∈ (readBoards b count).trace k) := by
  unfold requests readPayload readCount
  simp only [Reader.mem_trace_bind, Reader.trace_lift, Reader.value_lift, Reader.trace_emit, Reader.value_emit, Reader.trace_tell,
    Reader.trace_rejectIf, Reader.trace_pure, List.not_mem_nil, false_or, List.mem_singleton, and_false, exists_false, or_false]
  simp

theorem StatesCount.requested {n : UInt32} (h : StatesCount b n) : n.toNat ∈ requests b := by
  rw [mem_requests]
  cases h with
  | boards rest h => exact ⟨_, _, decodeCount_append h, .inl rfl⟩
  | board count boards rest hboards hmore h hstates =>
    obtain ⟨hcount, hbefore⟩ := Continues.split h
    have hbefore := Stretch.of_continues hbefore
    rw [length_appendLe32, Nat.zero_add] at hbefore
    exact ⟨_, _, decodeCount_append hcount, .inr (mem_readBoards.mpr ⟨boards, hboards, hmore, _, hbefore, hstates.requested⟩)⟩

theorem statesCount_of_mem {m : Nat} (h : m ∈ requests b) : m ≤ b.length ∨ ∃ n : UInt32, n.toNat = m ∧ StatesCount b n := by
  obtain ⟨count, k, hcount, h⟩ := mem_requests.mp h
  obtain ⟨v, rfl, hv⟩ := decodeCount_stretch hcount
  rcases h with rfl | h
  · exact .inr ⟨v, rfl, .boards _ hv.continues⟩
  · obtain ⟨boards, hboards, hlen, j, hbefore, h⟩ := mem_readBoards.mp h
    refine (boardStates_of_mem h).imp_right ?_
    rintro ⟨n, rfl, hstates⟩
    have hj : j = 4 + (boards.flatMap encodeBoard).length := by
      rw [hbefore.stop, hv.stop, length_appendLe32, Nat.zero_add]
    exact ⟨n, rfl, .board v boards _ hboards hlen (hv.append hbefore).continues (hj ▸ hstates)⟩

end

/-! ## Requests within the payload -/

/-- Nothing larger than the payload is asked for, so a storage that grants as much as that is never the reason to stop. -/
structure AsksWithin (b : Bytes) : Prop where
  requests : ∀ n ∈ requests b, n ≤ b.length
  thrown : ∀ grants : Nat → Bool, (∀ n ≤ b.length, grants n = true) → decodePayload grants b ≠ .error .badAlloc

end Topology

open Topology

/-- **What a topology asks of memory**: the element counts requested while a payload is decoded are at most the number of its bytes
    exactly if the counts it states are, of the boards and of the sources and connections of each board that it gets to. -/
theorem topology_asksWithin (b : Bytes) : AsksWithin b ↔ ∀ n, StatesCount b n → n.toNat ≤ b.length := by
  constructor
  · intro h n hn
    exact h.requests n.toNat hn.requested
  · intro h
    have hwithin : ∀ n ∈ requests b, n ≤ b.length := by
      intro m hm
      rcases statesCount_of_mem hm with hle | ⟨n, rfl, hn⟩
      · exact hle
      · exact h n hn
    refine ⟨hwithin, fun grants hgrants => ?_⟩
    unfold decodePayload
    rw [if_pos (List.all_eq_true.mpr fun n hn => hgrants n (hwithin n hn))]
    cases (readPayload b).value 0 with
    | none => simp
    | some r => simp

/-- Four bytes ask for 4294967295 boards, and where they are refused the exception is not caught. -/
theorem topology_asksWithin_four :
    requests [0xFF, 0xFF, 0xFF, 0xFF] = [4294967295] ∧
      decodePacket (· ≤ 4) [0xFF, 0xFF, 0xFF, 0xFF] = .error .badAlloc ∧ ¬AsksWithin [0xFF, 0xFF, 0xFF, 0xFF] := by
  have hall : requests [0xFF, 0xFF, 0xFF, 0xFF] = [4294967295] := by
    rfl
  refine ⟨hall, ?_, fun h => ?_⟩
  · rfl
  · exact absurd (h.requests 4294967295 (by rw [hall]; exact List.mem_singleton_self _)) (by decide)

end SedsNet
