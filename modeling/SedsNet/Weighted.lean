import SedsNet.Lib.Shares
import SedsNet.Selection

/-!
# Weighted selection

In the weighted mode `apply_policy` takes the round counter modulo the sum of the weights, and looks for the side whose piece of
the sum the remainder is in. As long as the counter does not wrap, that is going round and round through the pieces.
-/

set_option autoImplicit false

namespace SedsNet

open Lib

namespace RoutePolicy

/-- Consecutive calls of `apply_policy` for the same sides. -/
def applyTimes (policy : RoutePolicy) (sides : List Int32) : Nat → List (List Int32)
  | 0 => []
  | calls + 1 => (policy.apply sides).1 :: applyTimes (policy.apply sides).2 sides calls

/-- What a side weighs: at least 1, and 1 when no weight was set. -/
def weight (policy : RoutePolicy) (sideId : Int32) : Nat := max 1 ((policy.weights.lookup sideId).getD 1).toNat

/-- The weight of all sides together. -/
def weightSum (policy : RoutePolicy) (sides : List Int32) : Nat := (sides.map policy.weight).sum

section

variable {policy : RoutePolicy} {sides : List Int32}

theorem weightOf_toNat (policy : RoutePolicy) (sideId : Int32) : (policy.weightOf sideId).toNat = policy.weight sideId := by
  unfold weightOf weight
  cases policy.weights.lookup sideId with
  | none => rfl
  | some w =>
    show (max 1 w).toUInt64.toNat = max 1 w.toNat
    rw [UInt32.toNat_toUInt64]
    show (if 1 ≤ w then w else 1).toNat = if 1 ≤ w.toNat then w.toNat else 1
    have hone : 1 ≤ w ↔ 1 ≤ w.toNat := UInt32.le_iff_toNat_le
    by_cases h : 1 ≤ w
    · rw [if_pos h, if_pos (hone.mp h)]
    · rw [if_neg h, if_neg (mt hone.mpr h)]
      rfl

theorem weightSum_cons (side : Int32) : policy.weightSum (side :: sides) = policy.weight side + policy.weightSum sides := by
  unfold weightSum
  rw [List.map_cons, List.sum_cons]

theorem weightSum_pos (hsome : sides ≠ []) : 0 < policy.weightSum sides := by
  cases sides with
  | nil => exact absurd rfl hsome
  | cons side sides =>
    have hone : 1 ≤ policy.weight side := Nat.le_max_left 1 _
    rw [weightSum_cons]
    omega

/-- These are the weights the loop adds up. -/
theorem weightSum_eq : policy.totalWeight sides = policy.weightSum sides := by
  unfold totalWeight weightSum
  simp only [weightOf_toNat]

/-- The loop that looks for the piece. -/
theorem share_eq_pieceAt {pick running : UInt64} (hreached : running.toNat ≤ pick.toNat)
    (hfits : running.toNat + policy.weightSum sides < 2 ^ 64) :
    policy.share pick sides running = pieceAt policy.weight sides (pick.toNat - running.toNat) := by
  induction sides generalizing running with
  | nil => rfl
  | cons side sides ih =>
    rw [weightSum_cons] at hfits
    have hadd : (running + policy.weightOf side).toNat = running.toNat + policy.weight side := by
      rw [UInt64.toNat_add, weightOf_toNat, Nat.mod_eq_of_lt (by omega)]
    unfold share pieceAt
    dsimp only
    by_cases hinside : pick.toNat - running.toNat < policy.weight side
    · rw [if_pos hinside, if_pos (UInt64.lt_iff_toNat_lt.mpr (by omega))]
    · rw [if_neg hinside, if_neg (fun h => hinside (by rw [UInt64.lt_iff_toNat_lt] at h; omega)), ih (by omega) (by omega), hadd,
        Nat.sub_add_eq]

/-- One call: the side whose piece the counter is in, modulo the weight of all. -/
theorem apply_weighted (hmode : policy.mode = .Weighted) (hsome : sides ≠ []) (hfits : policy.weightSum sides < 2 ^ 64) :
    policy.apply sides = ((pieceAt policy.weight sides (policy.rrCounter.toNat % policy.weightSum sides)).toList,
      { policy with rrCounter := policy.rrCounter + 1 }) := by
  have htotal : (sides.foldl (fun total side => total + policy.weightOf side) 0).toNat = policy.weightSum sides := by
    rw [policy.foldl_weightOf sides 0 (by rwa [UInt64.toNat_zero, Nat.zero_add, weightSum_eq]), UInt64.toNat_zero, Nat.zero_add, weightSum_eq]
  have hpos : 0 < policy.weightSum sides := weightSum_pos hsome
  have hinside := Nat.mod_lt policy.rrCounter.toNat hpos
  obtain ⟨side, hside⟩ := Option.isSome_iff_exists.mp (pieceAt_isSome hinside)
  cases sides with
  | nil => exact absurd rfl hsome
  | cons first rest =>
    generalize hsum : (first :: rest).foldl (fun total side => total + policy.weightOf side) 0 = total at htotal
    unfold apply
    rw [hmode]
    dsimp only
    have hnonzero : total ≠ 0 := by
      rintro rfl
      rw [← htotal] at hpos
      exact absurd hpos (Nat.lt_irrefl 0)
    have hpick : (policy.rrCounter % total).toNat = policy.rrCounter.toNat % policy.weightSum (first :: rest) := by
      rw [UInt64.toNat_mod, htotal]
    rw [hsum, if_neg hnonzero, share_eq_pieceAt (Nat.zero_le _) (by rwa [UInt64.toNat_zero, Nat.zero_add]), UInt64.toNat_zero,
      Nat.sub_zero, hpick, hside]
    rfl

/-- A block of calls goes through as many consecutive numbers. -/
theorem applyTimes_weighted (hmode : policy.mode = .Weighted) (hsome : sides ≠ []) (hfits : policy.weightSum sides < 2 ^ 64)
    (calls : Nat) (hwrap : policy.rrCounter.toNat + calls < 2 ^ 64) :
    policy.applyTimes sides calls =
      (List.range' policy.rrCounter.toNat calls).map fun k => (pieceAt policy.weight sides (k % policy.weightSum sides)).toList := by
  induction calls generalizing policy with
  | zero => rfl
  | succ calls ih =>
    have hnext : (policy.rrCounter + 1).toNat = policy.rrCounter.toNat + 1 := by
      rw [UInt64.toNat_add, UInt64.toNat_one, Nat.mod_eq_of_lt (by omega)]
    have hrest := @ih { policy with rrCounter := policy.rrCounter + 1 } hmode hfits (by
      show (policy.rrCounter + 1).toNat + calls < 2 ^ 64
      omega)
    unfold applyTimes
    rw [apply_weighted hmode hsome hfits, hrest, List.range'_succ, List.map_cons]
    show _ :: (List.range' (policy.rrCounter + 1).toNat calls).map _ = _
    rw [hnext]
    rfl

end

end RoutePolicy

open RoutePolicy in
/-- **Weighted selection is proportional**: whatever the counter is, in as many consecutive calls as the sides weigh together, each
    side is chosen as often as it weighs, and each call chooses one side. -/
theorem apply_proportional (policy : RoutePolicy) (hmode : policy.mode = .Weighted) (sides : List Int32) (hsome : sides ≠ [])
    (hdistinct : sides.Nodup) (hwrap : policy.rrCounter.toNat + policy.weightSum sides < 2 ^ 64) :
    (∀ side ∈ sides, (policy.applyTimes sides (policy.weightSum sides)).count [side] = policy.weight side) ∧
      ∀ chosen ∈ policy.applyTimes sides (policy.weightSum sides), ∃ side ∈ sides, chosen = [side] := by
  rw [applyTimes_weighted hmode hsome (by omega) _ hwrap]
  constructor
  · intro side hside
    have hcount := count_pieceAt_block policy.weight hdistinct hside policy.rrCounter.toNat
    have hinjective : Function.Injective (Option.toList : Option Int32 → List Int32) := by
      intro x y h
      cases x <;> cases y <;> simp_all
    rw [← List.count_map_of_injective _ _ hinjective, List.map_map] at hcount
    exact hcount
  · intro chosen hchosen
    obtain ⟨k, -, rfl⟩ := List.mem_map.mp hchosen
    have hinside : k % policy.weightSum sides < policy.weightSum sides := Nat.mod_lt k (weightSum_pos hsome)
    obtain ⟨side, hside⟩ := Option.isSome_iff_exists.mp (pieceAt_isSome hinside)
    rw [hside]
    exact ⟨side, mem_of_pieceAt hside, rfl⟩

/-- Two sides of weight 2 and 1, and a counter in the middle of a round. -/
theorem apply_proportional_two :
    let policy : RoutePolicy := ⟨.Weighted, (∅ : Map Int32 UInt32).insert 0 2, ∅, 5⟩
    (policy.applyTimes [0, 1] 3).count [0] = 2 ∧ (policy.applyTimes [0, 1] 3).count [1] = 1 := by
  intro policy
  obtain ⟨hcounts, -⟩ := apply_proportional policy rfl [0, 1] (by decide) (by decide) (by decide)
  exact ⟨hcounts 0 (by decide), hcounts 1 (by decide)⟩

end SedsNet
