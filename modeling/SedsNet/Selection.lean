import SedsNet.Lib.Ascending
import SedsNet.Sends

/-!
# What route selection selects

`select_destinations` has three tiers of candidates, two layers of overrides and three policies. The sets below say
what each of them stands for, without lists and without an order: `candidateSides` the tiers, and `routable` the
checks on a candidate. `selectDestinations_spec` says that the list that is built is the ascending list of the sides in
both, and what each policy makes of it.

The candidates of a tier are looked for among the sides a packet may go to at all: not back to its source, and for a
link-local packet only to marked sides.
-/

set_option autoImplicit false

namespace SedsNet

open Lib

namespace Owner

/-! ## The specification -/

section

variable (S : Schema) (o : Owner) (pkt : PacketData) (srcSide : Option Int32) (now : UInt64)

/-- The sides with a live route that passes, among those the packet may go to. -/
def leadsTo (passes : DiscoveryRoute → Prop) : Set Int32 :=
  { sideId | srcSide ≠ some sideId ∧ ∃ route side, o.discoveryRoutes.lookup sideId = some route ∧
      o.sideAt sideId = some side ∧ now - route.lastSeenMs ≤ kDiscoveryTtlMs ∧ S.sideAcceptsPacket side pkt = true ∧
      passes route }

/-- The first tier: the sides that lead to the preferred time source. -/
def preferredSides (preferred : Option Bytes) : Set Int32 :=
  o.leadsTo S pkt srcSide now fun route => ∃ source ∈ preferred, source ∈ route.timesyncSources

/-- The second tier: the sides that lead to one of the endpoints. -/
def endpointSides : Set Int32 :=
  o.leadsTo S pkt srcSide now fun route => ∃ ep ∈ pkt.endpoints, ep = SEDS_EP_DISCOVERY ∨ ep ∈ route.endpoints

/-- The third tier: all sides that may send. -/
def fallbackSides : Set Int32 :=
  { sideId | srcSide ≠ some sideId ∧ ∃ side, o.sideAt sideId = some side ∧ side.egressEnabled = true ∧
      S.sideAcceptsPacket side pkt = true }

open Classical in
/-- The first tier that is not empty. -/
noncomputable def candidateSides (preferred : Option Bytes) : Set Int32 :=
  if (o.preferredSides S pkt srcSide now preferred).Nonempty then o.preferredSides S pkt srcSide now preferred
  else if (o.endpointSides S pkt srcSide now).Nonempty then o.endpointSides S pkt srcSide now
  else o.fallbackSides S pkt srcSide

/-- The sides that may send, accept the packet, and are not shut by an override. A typed override shuts all sides that
    have none set to true. -/
def routable : Set Int32 :=
  { sideId | ∃ side, o.sideAt sideId = some side ∧ side.egressEnabled = true ∧ S.sideAcceptsPacket side pkt = true ∧
      o.routeOverrides.lookup (srcSide.getD (-1), sideId) ≠ some false ∧
      ((∃ other, (o.typedRouteOverrides.lookup (srcSide.getD (-1), pkt.ty, other)).isSome) →
        o.typedRouteOverrides.lookup (srcSide.getD (-1), pkt.ty, sideId) = some true) }

end

/-! ## Candidates -/

section

variable {S : Schema} {o : Owner} {pkt : PacketData} {srcSide : Option Int32} {now : UInt64} {preferred : Option Bytes}

theorem mem_routedSides_iff {passes : DiscoveryRoute → Bool} {sideId : Int32} :
    sideId ∈ o.routedSides S pkt srcSide now passes ↔ sideId ∈ o.leadsTo S pkt srcSide now fun route => passes route = true := by
  unfold routedSides leadsTo
  rw [List.mem_filterMap]
  constructor
  · rintro ⟨⟨s, route⟩, hmem, h⟩
    dsimp only at h
    split at h
    · cases h
    · rename_i hlive
      rw [not_or] at hlive
      cases hside : o.sideAt s with
      | none =>
        rw [hside] at h
        cases h
      | some side =>
        rw [hside] at h
        dsimp only at h
        split at h
        · cases h
        · rename_i hlocal
          split at h
          · cases h
            refine ⟨hlive.1, route, side, AList.mem_lookup_iff.mpr hmem, hside, UInt64.not_lt.mp hlive.2, ?_, ‹_›⟩
            unfold Schema.sideAcceptsPacket
            rw [Bool.eq_false_of_not_eq_true hlocal]
            rfl
          · cases h
  · rintro ⟨hsrc, route, side, hroute, hside, hlive, haccepts, hpasses⟩
    refine ⟨⟨sideId, route⟩, AList.mem_lookup_iff.mp hroute, ?_⟩
    have hopen : ¬(srcSide = some sideId ∨ now - route.lastSeenMs > kDiscoveryTtlMs) :=
      not_or.mpr ⟨hsrc, UInt64.not_lt.mpr hlive⟩
    have hlocal : ¬(S.packetRequiresLinkLocal pkt && !side.linkLocalEnabled) = true := by
      unfold Schema.sideAcceptsPacket at haccepts
      rw [Bool.not_eq_true'] at haccepts
      rw [haccepts]
      exact Bool.false_ne_true
    dsimp only
    rw [if_neg hopen, hside]
    dsimp only
    rw [if_neg hlocal, if_pos hpasses]

/-- The loop over all sides finds the sides of the third tier. -/
theorem mem_openSides_of_fallback {sideId : Int32} (h : sideId ∈ o.fallbackSides S pkt srcSide) :
    sideId ∈ o.openSides S pkt srcSide := by
  obtain ⟨hsrc, side, hside, hegress, haccepts⟩ := h
  obtain ⟨-, hsome, hindex⟩ := sideAt_getElem hside
  unfold openSides
  refine List.mem_filterMap.mpr ⟨(side, sideId.toNatClampNeg), List.mem_zipIdx_iff_getElem?.mpr hsome, ?_⟩
  dsimp only
  rw [hindex, if_neg hsrc, hegress, Bool.true_and, if_pos]
  unfold Schema.sideAcceptsPacket at haccepts
  rw [Bool.not_and, Bool.not_not] at haccepts
  exact haccepts

theorem mem_routable_iff {sideId : Int32} :
    sideId ∈ o.routable S pkt srcSide ↔ o.routeAllows S pkt (srcSide.getD (-1)) sideId = true := by
  generalize hsrc : srcSide.getD (-1) = src
  unfold routable routeAllows
  rw [hsrc, Set.mem_ofPred_eq]
  cases hside : o.sideAt sideId with
  | none =>
    constructor
    · rintro ⟨side, h, -⟩
      cases h
    · exact fun h => nomatch h
  | some side =>
    have hpresent : (∃ other, (o.typedRouteOverrides.lookup (src, pkt.ty, other)).isSome) ↔
        (o.typedRouteOverrides.entries.any fun e => e.1.1 == src && e.1.2.1 == pkt.ty) = true := by
      rw [List.any_eq_true]
      constructor
      · rintro ⟨other, hother⟩
        obtain ⟨enabled, henabled⟩ := Option.isSome_iff_exists.mp hother
        exact ⟨⟨(src, pkt.ty, other), enabled⟩, AList.mem_lookup_iff.mp henabled, by simp⟩
      · rintro ⟨⟨⟨s, ty, other⟩, enabled⟩, hmem, hkey⟩
        rw [Bool.and_eq_true, beq_iff_eq, beq_iff_eq] at hkey
        obtain ⟨rfl, rfl⟩ := hkey
        exact ⟨other, Option.isSome_of_eq_some (AList.mem_lookup_iff.mpr hmem)⟩
    rw [hpresent]
    dsimp only
    split
    · rename_i hshut
      constructor
      · rintro ⟨side', heq, hegress, haccepts, -⟩
        cases heq
        rw [hegress, haccepts] at hshut
        cases hshut
      · exact fun h => nomatch h
    · rename_i hopen
      rw [Bool.or_eq_true, not_or, Bool.not_eq_true', Bool.not_eq_true', Bool.not_eq_false, Bool.not_eq_false] at hopen
      split
      · rename_i hfalse
        exact ⟨fun ⟨_, _, _, _, hbase, _⟩ => absurd hfalse hbase, fun h => nomatch h⟩
      · rename_i hbase
        cases htyped : o.typedRouteOverrides.lookup (src, pkt.ty, sideId) with
        | none =>
          dsimp only
          constructor
          · rintro ⟨-, -, -, -, -, hlist⟩
            rw [Bool.not_eq_true']
            apply Bool.eq_false_of_not_eq_true
            intro hany
            cases hlist hany
          · intro hany
            refine ⟨side, rfl, hopen.1, hopen.2, hbase, fun h => ?_⟩
            rw [h] at hany
            cases hany
        | some enabled =>
          have hany : (o.typedRouteOverrides.entries.any fun e => e.1.1 == src && e.1.2.1 == pkt.ty) = true :=
            hpresent.mp ⟨sideId, Option.isSome_of_eq_some htyped⟩
          dsimp only
          constructor
          · rintro ⟨-, -, -, -, -, hlist⟩
            exact Option.some.inj (hlist hany)
          · rintro rfl
            exact ⟨side, rfl, hopen.1, hopen.2, hbase, fun _ => rfl⟩

theorem isEmpty_iff_not_nonempty {xs : List Int32} {s : Set Int32} (h : ∀ sideId, sideId ∈ xs ↔ sideId ∈ s) :
    xs.isEmpty = true ↔ ¬ s.Nonempty := by
  rw [List.isEmpty_iff, List.eq_nil_iff_forall_not_mem, Set.not_nonempty_iff_eq_empty, Set.eq_empty_iff_forall_notMem]
  exact forall_congr' fun sideId => not_congr (h sideId)

/-- **The list before the policy** has the candidates that are routable. -/
theorem mem_candidates_iff {sideId : Int32} :
    sideId ∈ (o.defaultCandidates S pkt srcSide preferred now).filter (o.routeAllows S pkt (srcSide.getD (-1))) ↔
      sideId ∈ o.candidateSides S pkt srcSide now preferred ∧ sideId ∈ o.routable S pkt srcSide := by
  rw [List.mem_filter, mem_routable_iff]
  apply and_congr_left
  intro hallows
  obtain ⟨side, hside, hegress, haccepts, -⟩ := mem_routable_iff.mpr hallows
  have hendpoints : ∀ s, s ∈ (o.routedSides S pkt srcSide now fun route =>
      pkt.endpoints.any fun ep => ep == SEDS_EP_DISCOVERY || decide (ep ∈ route.endpoints)) ↔
        s ∈ o.endpointSides S pkt srcSide now := by
    intro s
    rw [mem_routedSides_iff]
    unfold endpointSides leadsTo
    simp
  generalize hrouted : (o.routedSides S pkt srcSide now fun route =>
    pkt.endpoints.any fun ep => ep == SEDS_EP_DISCOVERY || decide (ep ∈ route.endpoints)) = routed at hendpoints
  -- the choice of the tier, once the first one is known to be listed
  have hchoice : ∀ sources : List Int32, (∀ s, s ∈ sources ↔ s ∈ o.preferredSides S pkt srcSide now preferred) →
      (sideId ∈ (if !sources.isEmpty then sortDedup sources
        else sortDedup (if routed.isEmpty then o.openSides S pkt srcSide else routed)) ↔
          sideId ∈ o.candidateSides S pkt srcSide now preferred) := by
    intro sources hpreferred
    unfold candidateSides
    split
    · rename_i hsources
      rw [Bool.not_eq_true'] at hsources
      rw [if_pos, mem_sortDedup]
      · exact hpreferred sideId
      · by_contra hnone
        exact Bool.false_ne_true (hsources.symm.trans ((isEmpty_iff_not_nonempty hpreferred).mpr hnone))
    · rename_i hsources
      rw [Bool.not_eq_true', Bool.not_eq_false] at hsources
      rw [if_neg ((isEmpty_iff_not_nonempty hpreferred).mp hsources), mem_sortDedup]
      split
      · rename_i hnone
        rw [if_neg ((isEmpty_iff_not_nonempty hendpoints).mp hnone)]
        constructor
        · intro hopen
          exact ⟨mem_openSides hopen, side, hside, hegress, haccepts⟩
        · exact mem_openSides_of_fallback
      · rename_i hsome
        rw [if_pos]
        · exact hendpoints sideId
        · by_contra hnone
          exact hsome ((isEmpty_iff_not_nonempty hendpoints).mpr hnone)
  unfold defaultCandidates
  rw [hrouted]
  cases preferred with
  | none =>
    apply hchoice []
    intro s
    constructor
    · exact fun h => nomatch h
    · rintro ⟨-, -, -, -, -, -, -, source, hsource, -⟩
      cases hsource
  | some source =>
    apply hchoice (o.routedSides S pkt srcSide now fun route => decide (source ∈ route.timesyncSources))
    intro s
    rw [mem_routedSides_iff]
    unfold preferredSides leadsTo
    simp

end

end Owner

/-! ## Policies -/

namespace RoutePolicy

variable (policy : RoutePolicy)

/-- The first of the sides with the smallest priority. -/
def Best (sides : List Int32) (best : Int32) : Prop :=
  ∃ before after, sides = before ++ best :: after ∧ (∀ side ∈ before, policy.priorityOf best < policy.priorityOf side) ∧
    ∀ side ∈ after, policy.priorityOf best ≤ policy.priorityOf side

/-- The weights of some sides together, as a number. -/
def totalWeight (sides : List Int32) : Nat := (sides.map fun side => (policy.weightOf side).toNat).sum

/-- The side whose share of the weights the number falls into. -/
def Shares (sides : List Int32) (pick : Nat) (chosen : Int32) : Prop :=
  ∃ before after, sides = before ++ chosen :: after ∧ policy.totalWeight before ≤ pick ∧
    pick < policy.totalWeight before + (policy.weightOf chosen).toNat

/-- The loop keeps the best side so far, or finds the best of the rest. -/
theorem failover_cases (sides : List Int32) (best : Int32) (bestPri : UInt32) :
    (policy.failover sides best bestPri = best ∧ ∀ side ∈ sides, bestPri ≤ policy.priorityOf side) ∨
    policy.Best sides (policy.failover sides best bestPri) ∧
      policy.priorityOf (policy.failover sides best bestPri) < bestPri := by
  induction sides generalizing best bestPri with
  | nil => exact .inl ⟨rfl, fun _ h => nomatch h⟩
  | cons side rest ih =>
    unfold failover
    split
    · rename_i hbetter
      right
      rcases ih side (policy.priorityOf side) with ⟨heq, hall⟩ | ⟨⟨before, after, hrest, hbefore, hafter⟩, hlt⟩
      · rw [heq]
        exact ⟨⟨[], rest, rfl, (fun _ h => nomatch h), hall⟩, hbetter⟩
      · refine ⟨⟨side :: before, after, congrArg (side :: ·) hrest, ?_, hafter⟩, UInt32.lt_trans hlt hbetter⟩
        intro t ht
        rcases List.mem_cons.mp ht with rfl | ht
        · exact hlt
        · exact hbefore t ht
    · rename_i hworse
      have hle := UInt32.not_lt.mp hworse
      rcases ih best bestPri with ⟨heq, hall⟩ | ⟨⟨before, after, hrest, hbefore, hafter⟩, hlt⟩
      · left
        refine ⟨heq, ?_⟩
        intro t ht
        rcases List.mem_cons.mp ht with rfl | ht
        · exact hle
        · exact hall t ht
      · right
        refine ⟨⟨side :: before, after, congrArg (side :: ·) hrest, ?_, hafter⟩, hlt⟩
        intro t ht
        rcases List.mem_cons.mp ht with rfl | ht
        · exact UInt32.lt_of_lt_of_le hlt hle
        · exact hbefore t ht

theorem failover_best (first : Int32) (rest : List Int32) :
    policy.Best (first :: rest) (policy.failover (first :: rest) first 0xFFFFFFFF) := by
  rcases policy.failover_cases (first :: rest) first 0xFFFFFFFF with ⟨heq, hall⟩ | ⟨hbest, -⟩
  · rw [heq]
    refine ⟨[], rest, rfl, (fun _ h => nomatch h), ?_⟩
    intro side hside
    have hmax : policy.priorityOf first ≤ 0xFFFFFFFF := by
      rw [UInt32.le_iff_toNat_le]
      exact Nat.le_of_lt_succ (policy.priorityOf first).toNat_lt
    exact UInt32.le_trans hmax (hall side (List.mem_cons_of_mem first hside))
  · exact hbest

theorem weightOf_pos (side : Int32) : 0 < (policy.weightOf side).toNat := by
  unfold weightOf
  split
  · rename_i weight _
    rw [UInt32.toNat_toUInt64]
    have hle : (1 : UInt32) ≤ if 1 ≤ weight then weight else 1 := by
      split
      · assumption
      · exact UInt32.le_refl 1
    exact UInt32.le_iff_toNat_le.mp hle
  · exact Nat.one_pos

theorem weightOf_lt (side : Int32) : (policy.weightOf side).toNat < 2 ^ 32 := by
  unfold weightOf
  split
  · rw [UInt32.toNat_toUInt64]
    exact UInt32.toNat_lt _
  · decide

theorem totalWeight_cons (side : Int32) (rest : List Int32) :
    policy.totalWeight (side :: rest) = (policy.weightOf side).toNat + policy.totalWeight rest := List.sum_cons

/-- Sides are 32-bit numbers, and weights, too: 64 bits hold all weights together. -/
theorem totalWeight_lt {sides : List Int32} (h : sides.Nodup) : policy.totalWeight sides < 2 ^ 64 := by
  have hlength : sides.length ≤ 2 ^ 32 := by
    have hinj : Function.Injective fun side : Int32 => side.toUInt32.toNat := by
      intro a b hab
      cases a
      cases b
      exact congrArg Int32.ofUInt32 (UInt32.toNat_inj.mp hab)
    have hsub : (sides.map fun side => side.toUInt32.toNat) ⊆ List.range (2 ^ 32) := by
      intro n hn
      obtain ⟨side, -, rfl⟩ := List.mem_map.mp hn
      exact List.mem_range.mpr side.toUInt32.toNat_lt
    have hle := ((h.map hinj).subperm hsub).length_le
    rwa [List.length_map, List.length_range] at hle
  have hsum : ∀ xs : List Int32, policy.totalWeight xs ≤ xs.length * (2 ^ 32 - 1) := by
    intro xs
    induction xs with
    | nil => exact Nat.le_refl 0
    | cons side rest ih =>
      have hside := policy.weightOf_lt side
      rw [totalWeight_cons, List.length_cons]
      omega
  have hmul := Nat.mul_le_mul_right (2 ^ 32 - 1) hlength
  have hall := hsum sides
  omega

theorem foldl_weightOf (sides : List Int32) (total : UInt64) (h : total.toNat + policy.totalWeight sides < 2 ^ 64) :
    (sides.foldl (fun total side => total + policy.weightOf side) total).toNat = total.toNat + policy.totalWeight sides := by
  induction sides generalizing total with
  | nil => rfl
  | cons side rest ih =>
    rw [totalWeight_cons] at h
    have hadd : (total + policy.weightOf side).toNat = total.toNat + (policy.weightOf side).toNat := by
      rw [UInt64.toNat_add]
      exact Nat.mod_eq_of_lt (by omega)
    rw [List.foldl_cons, ih _ (by omega), totalWeight_cons]
    omega

/-- The loop finds the share of the number. -/
theorem share_spec (pick : UInt64) (sides : List Int32) (running : UInt64)
    (hsmall : running.toNat + policy.totalWeight sides < 2 ^ 64) (hle : running.toNat ≤ pick.toNat)
    (hlt : pick.toNat < running.toNat + policy.totalWeight sides) :
    ∃ chosen, policy.share pick sides running = some chosen ∧ policy.Shares sides (pick.toNat - running.toNat) chosen := by
  induction sides generalizing running with
  | nil => exact absurd hlt (Nat.not_lt.mpr hle)
  | cons side rest ih =>
    rw [totalWeight_cons] at hsmall hlt
    have hadd : (running + policy.weightOf side).toNat = running.toNat + (policy.weightOf side).toNat := by
      rw [UInt64.toNat_add]
      exact Nat.mod_eq_of_lt (by omega)
    unfold share
    dsimp only
    split
    · rename_i hpick
      rw [UInt64.lt_iff_toNat_lt, hadd] at hpick
      refine ⟨side, rfl, [], rest, rfl, Nat.zero_le _, ?_⟩
      change _ < 0 + _
      omega
    · rename_i hpick
      rw [UInt64.lt_iff_toNat_lt, hadd, Nat.not_lt] at hpick
      obtain ⟨chosen, hchosen, before, after, hrest, hbefore, hwithin⟩ :=
        ih (running + policy.weightOf side) (by omega) (by omega) (by omega)
      refine ⟨chosen, hchosen, side :: before, after, congrArg (side :: ·) hrest, ?_, ?_⟩
      · rw [totalWeight_cons]
        omega
      · rw [totalWeight_cons]
        omega

/-- What a policy makes of the sides that are left to choose from. -/
def Chooses (sides : List Int32) (chosen : List Int32) (policy' : RoutePolicy) : Prop :=
  match policy.mode with
  | .Fanout => chosen = sides ∧ policy' = policy
  | .Failover => (∃ best, chosen = [best] ∧ policy.Best sides best) ∧ policy' = policy
  | .Weighted =>
    (∃ share, chosen = [share] ∧ policy.Shares sides (policy.rrCounter.toNat % policy.totalWeight sides) share) ∧
      policy' = { policy with rrCounter := policy.rrCounter + 1 }

/-- **`apply_policy`** chooses as its mode says. -/
theorem apply_chooses {sides : List Int32} (hnodup : sides.Nodup) (hne : sides ≠ []) :
    policy.Chooses sides (policy.apply sides).1 (policy.apply sides).2 := by
  cases sides with
  | nil => exact absurd rfl hne
  | cons first rest =>
    unfold Chooses apply
    cases policy.mode with
    | Fanout => exact ⟨rfl, rfl⟩
    | Failover => exact ⟨⟨_, rfl, policy.failover_best first rest⟩, rfl⟩
    | Weighted =>
      have hsmall := policy.totalWeight_lt hnodup
      have htotal := policy.foldl_weightOf (first :: rest) 0 (by simpa using hsmall)
      rw [UInt64.toNat_zero, Nat.zero_add] at htotal
      have hpos : 0 < policy.totalWeight (first :: rest) := by
        have hfirst := policy.weightOf_pos first
        rw [totalWeight_cons]
        omega
      dsimp only
      generalize (first :: rest).foldl (fun total side => total + policy.weightOf side) 0 = total at htotal ⊢
      have hne0 : total ≠ 0 := by
        rintro rfl
        rw [UInt64.toNat_zero] at htotal
        omega
      rw [if_neg hne0]
      have hpick : (policy.rrCounter % total).toNat = policy.rrCounter.toNat % policy.totalWeight (first :: rest) := by
        rw [UInt64.toNat_mod, htotal]
      have hlt := Nat.mod_lt policy.rrCounter.toNat hpos
      obtain ⟨chosen, hchosen, hshares⟩ := policy.share_spec (policy.rrCounter % total) (first :: rest) 0
        (by simpa using hsmall) (Nat.zero_le _) (by simpa [hpick] using hlt)
      rw [hpick] at hshares
      rw [hchosen]
      exact ⟨⟨chosen, rfl, hshares⟩, rfl⟩

theorem Chooses.ne_nil {policy policy' : RoutePolicy} {sides chosen : List Int32} (h : policy.Chooses sides chosen policy')
    (hne : sides ≠ []) : chosen ≠ [] := by
  unfold Chooses at h
  cases hmode : policy.mode with
  | Fanout =>
    rw [hmode] at h
    rw [h.1]
    exact hne
  | Failover =>
    rw [hmode] at h
    obtain ⟨⟨best, rfl, -⟩, -⟩ := h
    exact List.cons_ne_nil best []
  | Weighted =>
    rw [hmode] at h
    obtain ⟨⟨share, rfl, -⟩, -⟩ := h
    exact List.cons_ne_nil share []

/-- What is chosen is an ascending list of the sides there were. -/
theorem Chooses.sublist {policy policy' : RoutePolicy} {sides chosen : List Int32} (h : policy.Chooses sides chosen policy') :
    chosen.Sublist sides := by
  unfold Chooses at h
  cases hmode : policy.mode with
  | Fanout =>
    rw [hmode] at h
    obtain ⟨rfl, -⟩ := h
    exact List.Sublist.refl _
  | Failover =>
    rw [hmode] at h
    obtain ⟨⟨best, rfl, before, after, rfl, -⟩, -⟩ := h
    exact List.singleton_sublist.mpr (List.mem_append_right before List.mem_cons_self)
  | Weighted =>
    rw [hmode] at h
    obtain ⟨⟨share, rfl, before, after, rfl, -⟩, -⟩ := h
    exact List.singleton_sublist.mpr (List.mem_append_right before List.mem_cons_self)

end RoutePolicy

namespace Owner

/-! ## Selection -/

theorem defaultCandidates_ascending (S : Schema) (o : Owner) (pkt : PacketData) (srcSide : Option Int32)
    (preferred : Option Bytes) (now : UInt64) : Ascending (o.defaultCandidates S pkt srcSide preferred now) := by
  have hchoice : ∀ sources others : List Int32, Ascending (if !sources.isEmpty then sortDedup sources else sortDedup others) := by
    intro sources others
    split
    · exact sortDedup_ascending sources
    · exact sortDedup_ascending others
  unfold defaultCandidates
  cases preferred with
  | none => exact hchoice _ _
  | some source => exact hchoice _ _

theorem ne_source_of_mem_candidateSides {S : Schema} {o : Owner} {pkt : PacketData} {srcSide : Option Int32} {now : UInt64}
    {preferred : Option Bytes} {sideId : Int32} (h : sideId ∈ o.candidateSides S pkt srcSide now preferred) :
    srcSide ≠ some sideId := by
  unfold candidateSides at h
  split at h
  · exact h.1
  · split at h
    · exact h.1
    · exact h.1

/-- **Route selection is its specification.** The list the policy is applied to has, in ascending order, the candidates that
    are routable; what is selected is part of it, does not name the source, and names sides that exist. -/
theorem selectDestinations_spec (S : Schema) (o : Owner) (policy : RoutePolicy) (pkt : PacketData) (srcSide : Option Int32)
    (deliverLocal : Bool) (preferred : Option Bytes) (now : UInt64) :
    ∃ routed : List Int32, Ascending routed ∧
      (∀ sideId, sideId ∈ routed ↔
        sideId ∈ o.candidateSides S pkt srcSide now preferred ∧ sideId ∈ o.routable S pkt srcSide) ∧
      Ascending (o.selectDestinations S policy ⟨pkt, srcSide, none, deliverLocal⟩ preferred now).1 ∧
      (∀ sideId ∈ (o.selectDestinations S policy ⟨pkt, srcSide, none, deliverLocal⟩ preferred now).1,
        srcSide ≠ some sideId ∧ 0 ≤ sideId ∧ sideId.toNatClampNeg < o.sides.length) ∧
      (routed = [] → o.selectDestinations S policy ⟨pkt, srcSide, none, deliverLocal⟩ preferred now = ([], policy)) ∧
      (routed ≠ [] → policy.Chooses routed
        (o.selectDestinations S policy ⟨pkt, srcSide, none, deliverLocal⟩ preferred now).1
        (o.selectDestinations S policy ⟨pkt, srcSide, none, deliverLocal⟩ preferred now).2) := by
  have hmem : ∀ sideId, sideId ∈ (o.defaultCandidates S pkt srcSide preferred now).filter
      (o.routeAllows S pkt (srcSide.getD (-1))) ↔
        sideId ∈ o.candidateSides S pkt srcSide now preferred ∧ sideId ∈ o.routable S pkt srcSide :=
    fun _ => mem_candidates_iff
  have hascending : Ascending ((o.defaultCandidates S pkt srcSide preferred now).filter
      (o.routeAllows S pkt (srcSide.getD (-1)))) := (defaultCandidates_ascending S o pkt srcSide preferred now).filter _
  unfold selectDestinations
  dsimp only
  generalize (o.defaultCandidates S pkt srcSide preferred now).filter (o.routeAllows S pkt (srcSide.getD (-1))) = routed
    at hmem hascending ⊢
  have hempty : routed = [] → policy.apply routed = ([], policy) := by
    rintro rfl
    rfl
  have hchooses : routed ≠ [] → policy.Chooses routed (policy.apply routed).1 (policy.apply routed).2 :=
    policy.apply_chooses hascending.nodup
  have hsub : (policy.apply routed).1.Sublist routed := by
    by_cases hne : routed = []
    · rw [hempty hne]
      exact List.nil_sublist routed
    · exact (hchooses hne).sublist
  refine ⟨routed, hascending, hmem, hascending.sublist hsub, ?_, hempty, hchooses⟩
  intro sideId hsideId
  obtain ⟨hcandidate, side, hside, -⟩ := (hmem sideId).mp (hsub.subset hsideId)
  obtain ⟨hpos, hsome, -⟩ := sideAt_getElem hside
  exact ⟨ne_source_of_mem_candidateSides hcandidate, hpos, (List.getElem?_eq_some_iff.mp hsome).1⟩

/-! ### A time source that a packet may not be sent to -/

/-- The sides that advertise a time source and were heard of in time, whether or not they accept a packet. -/
def advertisers (o : Owner) (srcSide : Option Int32) (now : UInt64) (source : Bytes) : Set Int32 :=
  { sideId | srcSide ≠ some sideId ∧ ∃ route side, o.discoveryRoutes.lookup sideId = some route ∧
      o.sideAt sideId = some side ∧ now - route.lastSeenMs ≤ kDiscoveryTtlMs ∧ source ∈ route.timesyncSources }

/-- A schema with one local type, for the endpoint 100. -/
def localSchema : Schema :=
  runtimeSchema ["BOARD_LOCAL"] [{ userRow "BOARD_LOCAL_FRAME" 1 1 false .None .UInt8 [0] with linkLocalOnly := true }]
    true true

/-- A link to the network, behind which there is a clock, and one to the board. -/
def clockOwner : Owner :=
  { Owner.new (ascii "R") [.serialized (ascii "NET") false, { Side.serialized (ascii "LL") false with linkLocalEnabled := true }]
    with discoveryRoutes := (∅ : Map Int32 DiscoveryRoute).insert 0 ⟨∅, {ascii "CLOCK"}, 5, ∅⟩ }

/-- The side that advertises the time source does not accept the packet, and the packet goes to the other side. -/
theorem selectDestinations_skipsSource :
    0 ∈ clockOwner.advertisers none 10 (ascii "CLOCK") ∧ 1 ∉ clockOwner.advertisers none 10 (ascii "CLOCK") ∧
    (clockOwner.selectDestinations localSchema .new ⟨⟨100, ascii "R", [100], 7, [42]⟩, none, none, false⟩
      (some (ascii "CLOCK")) 10).1 = [1] := by
  refine ⟨⟨by decide, ⟨∅, {ascii "CLOCK"}, 5, ∅⟩, .serialized (ascii "NET") false, rfl, rfl, by decide, by decide⟩, ?_, by decide +kernel⟩
  rintro ⟨-, route, side, hroute, -⟩
  cases hroute

/-! ## Sides that are switched off

The first two tiers do not ask whether a side may send. A side that is switched off, but alone in its tier, is chosen and
then dropped by the checks, and the tiers below it are not tried. -/

/-- The owner has discovered nothing behind the side. -/
def forgetRoute (o : Owner) (sideId : Int32) : Owner := { o with discoveryRoutes := o.discoveryRoutes.erase sideId }

section

variable (S : Schema) (o : Owner) (pkt : PacketData) (srcSide : Option Int32) (now : UInt64) (preferred : Option Bytes)

/-- The side is alone in the first tier, or in the second when the first is empty, and in the tier that would be next there
    is a side the packet could go to. -/
def Suppresses (sideId : Int32) : Prop :=
  o.preferredSides S pkt srcSide now preferred = {sideId} ∧
      ((o.endpointSides S pkt srcSide now \ {sideId}).Nonempty ∧
          (o.endpointSides S pkt srcSide now \ {sideId} ∩ o.routable S pkt srcSide).Nonempty ∨
        o.endpointSides S pkt srcSide now \ {sideId} = ∅ ∧
          (o.fallbackSides S pkt srcSide ∩ o.routable S pkt srcSide).Nonempty) ∨
    o.preferredSides S pkt srcSide now preferred = ∅ ∧ o.endpointSides S pkt srcSide now = {sideId} ∧
      (o.fallbackSides S pkt srcSide ∩ o.routable S pkt srcSide).Nonempty

end

section

variable {S : Schema} {o : Owner} {pkt : PacketData} {srcSide : Option Int32} {now : UInt64} {preferred : Option Bytes}
  {sideId : Int32}

theorem leadsTo_forgetRoute (passes : DiscoveryRoute → Prop) :
    (o.forgetRoute sideId).leadsTo S pkt srcSide now passes = o.leadsTo S pkt srcSide now passes \ {sideId} := by
  ext s
  unfold leadsTo forgetRoute
  constructor
  · rintro ⟨hsrc, route, side, hroute, hrest⟩
    have hne : s ≠ sideId := by
      rintro rfl
      rw [AList.lookup_erase] at hroute
      cases hroute
    rw [AList.lookup_erase_ne hne] at hroute
    exact ⟨⟨hsrc, route, side, hroute, hrest⟩, hne⟩
  · rintro ⟨⟨hsrc, route, side, hroute, hrest⟩, hne⟩
    refine ⟨hsrc, route, side, ?_, hrest⟩
    rw [AList.lookup_erase_ne hne]
    exact hroute

/-- A side that may not send is not routable. -/
theorem not_mem_routable (hoff : o.egressSide sideId = none) : sideId ∉ o.routable S pkt srcSide := by
  rintro ⟨side, hside, hegress, -⟩
  unfold egressSide at hoff
  rw [hside] at hoff
  dsimp only at hoff
  rw [if_pos hegress] at hoff
  cases hoff

open Classical in
/-- The candidates that are left when nothing was discovered behind the side. -/
theorem candidateSides_forgetRoute : (o.forgetRoute sideId).candidateSides S pkt srcSide now preferred =
    if (o.preferredSides S pkt srcSide now preferred \ {sideId}).Nonempty then
      o.preferredSides S pkt srcSide now preferred \ {sideId}
    else if (o.endpointSides S pkt srcSide now \ {sideId}).Nonempty then o.endpointSides S pkt srcSide now \ {sideId}
    else o.fallbackSides S pkt srcSide := by
  unfold candidateSides preferredSides endpointSides
  rw [leadsTo_forgetRoute, leadsTo_forgetRoute]
  rfl

/-- What is selected depends on the candidates that are routable, and on nothing else about them. -/
theorem selectDestinations_congr {o o' : Owner} (policy : RoutePolicy) (deliverLocal : Bool)
    (h : o.candidateSides S pkt srcSide now preferred ∩ o.routable S pkt srcSide =
      o'.candidateSides S pkt srcSide now preferred ∩ o'.routable S pkt srcSide) :
    o.selectDestinations S policy ⟨pkt, srcSide, none, deliverLocal⟩ preferred now =
      o'.selectDestinations S policy ⟨pkt, srcSide, none, deliverLocal⟩ preferred now := by
  unfold selectDestinations
  dsimp only
  apply congrArg policy.apply
  apply Ascending.ext ((defaultCandidates_ascending S o pkt srcSide preferred now).filter _)
    ((defaultCandidates_ascending S o' pkt srcSide preferred now).filter _)
  intro s
  rw [mem_candidates_iff, mem_candidates_iff]
  exact Set.ext_iff.mp h s

/-- Nothing is selected only where no candidate is routable: a policy chooses at least one side. -/
theorem selectDestinations_eq_nil_iff {policy : RoutePolicy} {deliverLocal : Bool} :
    (o.selectDestinations S policy ⟨pkt, srcSide, none, deliverLocal⟩ preferred now).1 = [] ↔
      ¬(o.candidateSides S pkt srcSide now preferred ∩ o.routable S pkt srcSide).Nonempty := by
  unfold selectDestinations
  dsimp only
  have hmem : ∀ s, s ∈ (o.defaultCandidates S pkt srcSide preferred now).filter (o.routeAllows S pkt (srcSide.getD (-1))) ↔
      s ∈ o.candidateSides S pkt srcSide now preferred ∩ o.routable S pkt srcSide := fun _ => mem_candidates_iff
  have hascending := (defaultCandidates_ascending S o pkt srcSide preferred now).filter
    (o.routeAllows S pkt (srcSide.getD (-1)))
  rw [← isEmpty_iff_not_nonempty hmem, List.isEmpty_iff]
  generalize (o.defaultCandidates S pkt srcSide preferred now).filter (o.routeAllows S pkt (srcSide.getD (-1))) = routed
    at hascending ⊢
  constructor
  · intro h
    by_contra hne
    exact (policy.apply_chooses hascending.nodup hne).ne_nil hne h
  · rintro rfl
    rfl

/-- Where no candidate is routable, another owner selects the same only if none of its candidates is, either. -/
theorem selectDestinations_eq_iff_of_none {o o' : Owner} {policy : RoutePolicy} {deliverLocal : Bool}
    (h : ¬(o.candidateSides S pkt srcSide now preferred ∩ o.routable S pkt srcSide).Nonempty) :
    (o.selectDestinations S policy ⟨pkt, srcSide, none, deliverLocal⟩ preferred now).1 =
        (o'.selectDestinations S policy ⟨pkt, srcSide, none, deliverLocal⟩ preferred now).1 ↔
      ¬(o'.candidateSides S pkt srcSide now preferred ∩ o'.routable S pkt srcSide).Nonempty := by
  rw [selectDestinations_eq_nil_iff.mpr h, eq_comm]
  exact selectDestinations_eq_nil_iff

open Classical in
/-- A packet without a destination goes where it would go if nothing had been discovered behind the side. -/
theorem routed_forgetRoute (policy : RoutePolicy) (deliverLocal : Bool) (hoff : o.egressSide sideId = none) :
    (o.selectDestinations S policy ⟨pkt, srcSide, none, deliverLocal⟩ preferred now).1 =
        ((o.forgetRoute sideId).selectDestinations S policy ⟨pkt, srcSide, none, deliverLocal⟩ preferred now).1 ↔
      ¬ o.Suppresses S pkt srcSide now preferred sideId := by
  have hside : sideId ∉ o.routable S pkt srcSide := not_mem_routable hoff
  have hroutable : (o.forgetRoute sideId).routable S pkt srcSide = o.routable S pkt srcSide := rfl
  have hdiff : ∀ tier : Set Int32, tier ∩ o.routable S pkt srcSide = (tier \ {sideId}) ∩ o.routable S pkt srcSide := by
    intro tier
    ext s
    constructor
    · rintro ⟨htier, hs⟩
      exact ⟨⟨htier, fun h => hside (h ▸ hs)⟩, hs⟩
    · rintro ⟨⟨htier, -⟩, hs⟩
      exact ⟨htier, hs⟩
  have halone : ¬(({sideId} : Set Int32) ∩ o.routable S pkt srcSide).Nonempty := by
    rintro ⟨s, rfl, hs⟩
    exact hside hs
  have hlone : ∀ {tier : Set Int32}, tier.Nonempty → ¬(tier \ {sideId}).Nonempty → tier = {sideId} := by
    intro tier htier hrest
    rw [Set.not_nonempty_iff_eq_empty, Set.sdiff_eq_empty, Set.subset_singleton_iff_eq] at hrest
    exact hrest.resolve_left htier.ne_empty
  have hshared : o.candidateSides S pkt srcSide now preferred ∩ o.routable S pkt srcSide =
      (o.forgetRoute sideId).candidateSides S pkt srcSide now preferred ∩ o.routable S pkt srcSide →
      (o.selectDestinations S policy ⟨pkt, srcSide, none, deliverLocal⟩ preferred now).1 =
        ((o.forgetRoute sideId).selectDestinations S policy ⟨pkt, srcSide, none, deliverLocal⟩ preferred now).1 :=
    fun h => congrArg Prod.fst (selectDestinations_congr policy deliverLocal h)
  unfold Suppresses
  rw [candidateSides_forgetRoute] at hshared
  by_cases hpreferred : (o.preferredSides S pkt srcSide now preferred).Nonempty
  · have hchosen : o.candidateSides S pkt srcSide now preferred = o.preferredSides S pkt srcSide now preferred := if_pos hpreferred
    by_cases hother : (o.preferredSides S pkt srcSide now preferred \ {sideId}).Nonempty
    · -- the first tier has another side, and that is what both choose from
      rw [hchosen, if_pos hother] at hshared
      refine iff_of_true (hshared (hdiff _)) ?_
      rintro (⟨hlast, -⟩ | ⟨hempty, -⟩)
      · rw [hlast, Set.sdiff_self] at hother
        exact Set.not_nonempty_empty hother
      · exact hpreferred.ne_empty hempty
    · rw [selectDestinations_eq_iff_of_none (hchosen ▸ hlone hpreferred hother ▸ halone), candidateSides_forgetRoute,
        if_neg hother, hroutable]
      apply not_congr
      constructor
      · intro hnext
        left
        refine ⟨hlone hpreferred hother, ?_⟩
        split at hnext
        · exact .inl ⟨‹_›, hnext⟩
        · exact .inr ⟨Set.not_nonempty_iff_eq_empty.mp ‹_›, hnext⟩
      · rintro (⟨-, ⟨hnext, h⟩ | ⟨hnext, h⟩⟩ | ⟨hempty, -⟩)
        · rw [if_pos hnext]
          exact h
        · rw [if_neg (Set.not_nonempty_iff_eq_empty.mpr hnext)]
          exact h
        · exact absurd hempty hpreferred.ne_empty
  · have hempty := Set.not_nonempty_iff_eq_empty.mp hpreferred
    have hnever : o.preferredSides S pkt srcSide now preferred ≠ {sideId} := by
      rw [hempty]
      exact (Set.singleton_ne_empty sideId).symm
    have hrest : ¬(o.preferredSides S pkt srcSide now preferred \ {sideId}).Nonempty :=
      fun h => hpreferred (h.mono Set.sdiff_subset)
    have hchosen : o.candidateSides S pkt srcSide now preferred =
        if (o.endpointSides S pkt srcSide now).Nonempty then o.endpointSides S pkt srcSide now
        else o.fallbackSides S pkt srcSide := if_neg hpreferred
    rw [hchosen, if_neg hrest] at hshared
    by_cases hendpoint : (o.endpointSides S pkt srcSide now).Nonempty
    · rw [if_pos hendpoint] at hchosen hshared
      by_cases hother : (o.endpointSides S pkt srcSide now \ {sideId}).Nonempty
      · rw [if_pos hother] at hshared
        refine iff_of_true (hshared (hdiff _)) ?_
        rintro (⟨hlast, -⟩ | ⟨-, hlast, -⟩)
        · exact hnever hlast
        · rw [hlast, Set.sdiff_self] at hother
          exact Set.not_nonempty_empty hother
      · rw [selectDestinations_eq_iff_of_none (hchosen ▸ hlone hendpoint hother ▸ halone), candidateSides_forgetRoute,
          if_neg hrest, if_neg hother, hroutable]
        apply not_congr
        constructor
        · exact fun hnext => .inr ⟨hempty, hlone hendpoint hother, hnext⟩
        · rintro (⟨hlast, -⟩ | ⟨-, -, hnext⟩)
          · exact absurd hlast hnever
          · exact hnext
    · -- nothing was discovered, and both use the third tier
      rw [if_neg hendpoint, if_neg fun h => hendpoint (h.mono Set.sdiff_subset)] at hshared
      refine iff_of_true (hshared rfl) ?_
      rintro (⟨hlast, -⟩ | ⟨-, hlast, -⟩)
      · exact hnever hlast
      · rw [hlast] at hendpoint
        exact hendpoint (Set.singleton_nonempty sideId)

/-- **A side that is switched off** counts as one behind which nothing was discovered, unless it keeps a lower tier from
    being tried. -/
theorem selectDestinations_forgetRoute (policy : RoutePolicy) (dstSide : Option Int32) (deliverLocal : Bool)
    (hoff : o.egressSide sideId = none) :
    (o.selectDestinations S policy ⟨pkt, srcSide, dstSide, deliverLocal⟩ preferred now).1 =
        ((o.forgetRoute sideId).selectDestinations S policy ⟨pkt, srcSide, dstSide, deliverLocal⟩ preferred now).1 ↔
      ¬(dstSide = none ∧ o.Suppresses S pkt srcSide now preferred sideId) := by
  cases dstSide with
  | some dst => exact iff_of_true rfl fun h => nomatch h.1
  | none =>
    rw [eq_self, true_and]
    exact routed_forgetRoute policy deliverLocal hoff

end

/-- Two links behind which the endpoint 100 was discovered, or one of the two. -/
def discovered (egressEnabled : Bool) (announced : List Int32) : Owner :=
  { Owner.new (ascii "R") [{ Side.serialized (ascii "A") false with egressEnabled := egressEnabled }, .serialized (ascii "B") false]
    with discoveryRoutes := announced.foldl (fun routes sideId => routes.insert sideId ⟨{100}, ∅, 5, ∅⟩) ∅ }

/-- Both links were discovered, and the one that is off does not count. -/
theorem selectDestinations_forgetRoute_both :
    (discovered false [0, 1]).egressSide 0 = none ∧
    ((discovered false [0, 1]).selectDestinations defaultTestSchema .new ⟨⟨100, ascii "R", [100], 7, [42]⟩, none, none, false⟩ none 10).1 =
      (((discovered false [0, 1]).forgetRoute 0).selectDestinations defaultTestSchema .new
        ⟨⟨100, ascii "R", [100], 7, [42]⟩, none, none, false⟩ none 10).1 := by
  refine ⟨rfl, (selectDestinations_forgetRoute .new none false rfl).mpr ?_⟩
  rintro ⟨-, ⟨hpreferred, -⟩ | ⟨-, hendpoint, -⟩⟩
  · have hzero := hpreferred.symm.subset (Set.mem_singleton 0)
    obtain ⟨-, -, -, -, -, -, -, source, hsource, -⟩ := hzero
    cases hsource
  · have hone := hendpoint.subset (show (1 : Int32) ∈ _ from ⟨by decide, ⟨{100}, ∅, 5, ∅⟩, .serialized (ascii "B") false, rfl,
      rfl, by decide, by decide +kernel, 100, by decide, .inr (by decide)⟩)
    exact absurd hone (by decide)

/-- The only link that was discovered is off. The packet goes nowhere, and to the other link if nothing had been discovered. -/
theorem selectDestinations_suppressed :
    (discovered false [0]).egressSide 0 = none ∧
    ((discovered false [0]).selectDestinations defaultTestSchema .new ⟨⟨100, ascii "R", [100], 7, [42]⟩, none, none, false⟩ none 10).1 = [] ∧
    (((discovered false [0]).forgetRoute 0).selectDestinations defaultTestSchema .new
      ⟨⟨100, ascii "R", [100], 7, [42]⟩, none, none, false⟩ none 10).1 = [1] := by
  refine ⟨rfl, by decide +kernel, by decide +kernel⟩

end Owner

end SedsNet
