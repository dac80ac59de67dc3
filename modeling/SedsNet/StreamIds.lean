import SedsNet.Sessions

/-!
# Stream ids

`allocate_p2p_stream_id` of `src/upstream_api_compat.cpp` counts through the ids from the one to try next, and passes over 0
where the counter wraps. The tries of one search are `2 ^ 32 - 1`, as many as there are ids: each id is tried once, wherever
the search begins. It begins at an id that is not 0, for no act ever stores 0.
-/

set_option autoImplicit false

namespace SedsNet

open Lib

/-- The id that is tried after `id`. -/
def nextStreamId (id : UInt32) : UInt32 := max 1 (id + 1)

theorem max_one (id : UInt32) : (max 1 id).toNat = max 1 id.toNat := by
  have hone : (1 : UInt32).toNat = 1 := rfl
  change (if 1 ≤ id then id else 1).toNat = _
  split
  · rename_i h
    rw [UInt32.le_iff_toNat_le, hone] at h
    omega
  · rename_i h
    rw [UInt32.le_iff_toNat_le, hone] at h
    omega

theorem toNat_ne_zero {id : UInt32} (h : id ≠ 0) : 0 < id.toNat := by
  apply Nat.pos_of_ne_zero
  exact fun hzero => h (UInt32.toNat_inj.mp hzero)

theorem nextStreamId_ne_zero (id : UInt32) : nextStreamId id ≠ 0 := by
  intro h
  have hvalue : (nextStreamId id).toNat = 0 := congrArg UInt32.toNat h
  unfold nextStreamId at hvalue
  rw [max_one] at hvalue
  omega

/-- The ids are counted round, 1 after the last. -/
theorem nextStreamId_toNat (id : UInt32) : (nextStreamId id).toNat = id.toNat % (2 ^ 32 - 1) + 1 := by
  have hlt := id.toNat_lt
  unfold nextStreamId
  rw [max_one, UInt32.toNat_add]
  have hone : (1 : UInt32).toNat = 1 := rfl
  rw [hone]
  by_cases hlast : id.toNat = 2 ^ 32 - 1
  · rw [hlast]
    rfl
  · rw [Nat.mod_eq_of_lt (show id.toNat + 1 < 2 ^ 32 by omega), Nat.mod_eq_of_lt (show id.toNat < 2 ^ 32 - 1 by omega)]
    omega

/-- The id of the `k`-th try. -/
theorem tried_toNat {next : UInt32} (hnext : next ≠ 0) (k : Nat) :
    (nextStreamId^[k] next).toNat = (next.toNat - 1 + k) % (2 ^ 32 - 1) + 1 := by
  have hpos := toNat_ne_zero hnext
  have hlt := next.toNat_lt
  induction k with
  | zero =>
    have hstart : (next.toNat - 1 + 0) % (2 ^ 32 - 1) = next.toNat - 1 := Nat.mod_eq_of_lt (by omega)
    rw [Function.iterate_zero, id_eq, hstart]
    omega
  | succ k ih =>
    rw [Function.iterate_succ_apply', nextStreamId_toNat, ih, Nat.mod_add_mod]
    rfl

/-- **Each id is tried**, wherever the search begins. -/
theorem exists_try {next id : UInt32} (hnext : next ≠ 0) (hid : id ≠ 0) : ∃ k < 2 ^ 32 - 1, nextStreamId^[k] next = id := by
  have hnextPos := toNat_ne_zero hnext
  have hidPos := toNat_ne_zero hid
  have hnextLt := next.toNat_lt
  have hidLt := id.toNat_lt
  refine ⟨(id.toNat + (2 ^ 32 - 1) - next.toNat) % (2 ^ 32 - 1), Nat.mod_lt _ (by decide), ?_⟩
  apply UInt32.toNat_inj.mp
  rw [tried_toNat hnext, Nat.add_mod_mod]
  have hround : next.toNat - 1 + (id.toNat + (2 ^ 32 - 1) - next.toNat) = id.toNat - 1 + (2 ^ 32 - 1) := by omega
  rw [hround, Nat.add_mod_right, Nat.mod_eq_of_lt (show id.toNat - 1 < 2 ^ 32 - 1 by omega)]
  omega

/-! ## The search -/

theorem allocateStreamId_succ {sessions : Map UInt32 P2pStreamSession} {tries : Nat} {next : UInt32} (hnext : next ≠ 0) :
    allocateStreamId sessions (tries + 1) next =
      if next ∈ sessions then allocateStreamId sessions tries (nextStreamId next) else (next, nextStreamId next) := by
  have hmax : max 1 next = next := by
    apply UInt32.toNat_inj.mp
    have hpos := toNat_ne_zero hnext
    rw [max_one]
    omega
  conv_lhs => unfold allocateStreamId
  dsimp only
  rw [hmax]
  rfl

/-- The search is without an id only where all its tries are taken. -/
theorem allocateStreamId_full {sessions : Map UInt32 P2pStreamSession} {tries : Nat} {next : UInt32} (hnext : next ≠ 0)
    (h : (allocateStreamId sessions tries next).1 = 0) : ∀ k < tries, nextStreamId^[k] next ∈ sessions := by
  induction tries generalizing next with
  | zero => exact fun k hk => absurd hk (Nat.not_lt_zero k)
  | succ tries ih =>
    rw [allocateStreamId_succ hnext] at h
    by_cases htaken : next ∈ sessions
    · rw [if_pos htaken] at h
      intro k hk
      cases k with
      | zero => exact htaken
      | succ k => exact ih (nextStreamId_ne_zero next) h k (Nat.lt_of_succ_lt_succ hk)
    · rw [if_neg htaken] at h
      exact absurd h hnext

theorem allocateStreamId_next {sessions : Map UInt32 P2pStreamSession} {tries : Nat} {next : UInt32} (hnext : next ≠ 0) :
    (allocateStreamId sessions tries next).2 ≠ 0 := by
  induction tries generalizing next with
  | zero => exact hnext
  | succ tries ih =>
    rw [allocateStreamId_succ hnext]
    split
    · exact ih (nextStreamId_ne_zero next)
    · exact nextStreamId_ne_zero next

namespace Router

theorem StreamStep.next_ne_zero {sessions : Map UInt32 P2pStreamSession} {next : UInt32}
    {after : Map UInt32 P2pStreamSession × UInt32} (h : StreamStep sessions next after) (hnext : next ≠ 0) : after.2 ≠ 0 := by
  cases h with
  | same => exact hnext
  | full => exact allocateStreamId_next hnext
  | opens session hid => exact allocateStreamId_next hnext
  | updates id session hid => exact hnext
  | closes id => exact hnext

variable (S : Schema) (Z : Codec) (E : Env)

/-- In a run the id to try next is never 0. -/
theorem next_ne_zero_of_run {r : Router} (hnext : r.p2pNextStreamId ≠ 0) (acts : List Act) :
    (runFrom (perform S Z E) r acts).p2pNextStreamId ≠ 0 := by
  induction acts generalizing r with
  | nil => exact hnext
  | cons act rest ih => exact ih ((perform_streams S Z E r act).next_ne_zero hnext)

/-- **A stream id that is given out is not 0 and not in use**, and none is given out only where all of them are in use. -/
theorem allocateP2pStreamId_complete (mode : RouterMode) (sender : Bytes) (sides : List Side) (locals : List LocalEndpoint)
    (acts : List Act) {r : Router} (hnext : r.p2pNextStreamId ≠ 0) :
    (runFrom (perform S Z E) (.new mode sender sides locals) acts).p2pNextStreamId ≠ 0 ∧
      r.allocateP2pStreamId.2.p2pNextStreamId ≠ 0 ∧ r.allocateP2pStreamId.2.p2pStreamSessions = r.p2pStreamSessions ∧
      (r.allocateP2pStreamId.1 ≠ 0 → r.allocateP2pStreamId.1 ∉ r.p2pStreamSessions) ∧
      (r.allocateP2pStreamId.1 = 0 → ∀ id : UInt32, id ≠ 0 → id ∈ r.p2pStreamSessions) := by
  have hfirst : (1 : UInt32) ≠ 0 := by decide
  refine ⟨next_ne_zero_of_run S Z E hfirst acts, ?_⟩
  rw [allocateP2pStreamId_eq]
  refine ⟨allocateStreamId_next hnext, rfl, allocateStreamId_fresh _ _ _, ?_⟩
  intro hfull id hid
  obtain ⟨k, hk, rfl⟩ := exists_try hnext hid
  exact allocateStreamId_full hnext hfull k hk

/-- The counter is at the last id, which is in use, as is 1: 2 is given out. -/
theorem allocateP2pStreamId_complete_wraps :
    let session : P2pStreamSession := ⟨ascii "H", 7, 7, 8, 1, 1, true⟩
    let r : Router := { streamRouter with
      p2pNextStreamId := 4294967295
      p2pStreamSessions := (AList.insert 4294967295 session ∅ : Map UInt32 P2pStreamSession).insert 1 session }
    r.allocateP2pStreamId.1 = 2 ∧ r.allocateP2pStreamId.2.p2pNextStreamId = 3 ∧ (2 : UInt32) ∉ r.p2pStreamSessions := by
  intro session r
  obtain ⟨-, -, -, hfresh, -⟩ := allocateP2pStreamId_complete defaultTestSchema (.absent 16) .calm .Sink (ascii "R") [] [] [] (r := r)
    (by decide)
  have hgiven : r.allocateP2pStreamId.1 = 2 ∧ r.allocateP2pStreamId.2.p2pNextStreamId = 3 := by
    rw [allocateP2pStreamId_eq, show 2 ^ 32 - 1 = 4294967292 + 3 from rfl]
    decide +kernel
  refine ⟨hgiven.1, hgiven.2, ?_⟩
  rw [hgiven.1] at hfresh
  exact hfresh (by decide)

end Router

end SedsNet
