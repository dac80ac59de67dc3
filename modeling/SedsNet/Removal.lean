import SedsNet.Silence
import SedsNet.LinkLocal

/-!
# A side goes

`remove_side` switches a side off in both directions and goes through the two queues and eight maps for what refers to
it. `Removed` says what is left: nothing that refers to the side, and everything that does not, as it was. A side that
nothing holds frames for stays silent for as long as it is not switched on again, and what comes in under its name is
turned away.
-/

set_option autoImplicit false

namespace SedsNet

open Lib

namespace Map

variable {κ α β : Type} [DecidableEq κ]

theorem lookup_mapValues (f : α → β) (m : Map κ α) (k : κ) : (m.mapValues f).lookup k = (m.lookup k).map f := by
  apply Option.ext
  intro v
  rw [Option.map_eq_some_iff]
  constructor
  · intro h
    obtain ⟨old, hold, heq⟩ := mem_mapValues (mem_of_lookup h)
    obtain ⟨rfl, hv⟩ := Sigma.mk.inj heq
    exact ⟨old.2, List.mem_dlookup m.nodupKeys hold, (eq_of_heq hv).symm⟩
  · rintro ⟨v, h, rfl⟩
    exact List.mem_dlookup (m.mapValues f).nodupKeys (List.mem_map.mpr ⟨⟨k, v⟩, mem_of_lookup h, rfl⟩)

/-- What is kept, said by what goes. -/
theorem lookup_keepIf (m : Map κ α) (keep : κ → Bool) (gone : κ → Prop) [DecidablePred gone] (hkeep : ∀ k, keep k = true ↔ ¬ gone k)
    (k : κ) : (m.keepIf fun k _ => keep k).lookup k = if gone k then none else m.lookup k := by
  apply Option.ext
  intro v
  rw [lookup_keepIf_iff, hkeep]
  split
  · rename_i hgone
    exact ⟨fun h => absurd hgone h.2, fun h => by cases h⟩
  · rename_i hkept
    exact and_iff_left hkept

theorem lookup_erase_ite (m : Map κ α) (gone k : κ) : (m.erase gone).lookup k = if k = gone then none else m.lookup k := by
  split
  · rename_i hk
    rw [hk]
    exact AList.lookup_erase gone m
  · rename_i hk
    exact AList.lookup_erase_ne hk

end Map

/-! ## What is left -/

/-- A policy without the weight and the priority of a side. -/
structure RoutePolicy.Without (sideId : Int32) (policy policy' : RoutePolicy) : Prop where
  mode : policy'.mode = policy.mode
  counter : policy'.rrCounter = policy.rrCounter
  weight : ∀ dst, policy'.weights.lookup dst = if dst = sideId then none else policy.weights.lookup dst
  priority : ∀ dst, policy'.priorities.lookup dst = if dst = sideId then none else policy.priorities.lookup dst

theorem RoutePolicy.withoutSide_without (policy : RoutePolicy) (sideId : Int32) :
    policy.Without sideId (policy.withoutSide sideId) where
  mode := rfl
  counter := rfl
  weight dst := Map.lookup_erase_ite policy.weights sideId dst
  priority dst := Map.lookup_erase_ite policy.priorities sideId dst

namespace Owner

/-- From `o` to `o'`, a side goes: what refers to it is gone, and all else is as it was. -/
structure Removed (sideId : Int32) (o o' : Owner) : Prop where
  tx : o'.txQueue.items = o.txQueue.items.filter fun item => !item.mentions sideId
  rx : o'.rxQueue.items = o.rxQueue.items.filter fun item => !(item.srcSide == some sideId)
  accounts : o.Accounted → o'.Accounted
  override : ∀ src dst, o'.routeOverrides.lookup (src, dst) =
    if src = sideId ∨ dst = sideId then none else o.routeOverrides.lookup (src, dst)
  typedOverride : ∀ src ty dst, o'.typedRouteOverrides.lookup (src, ty, dst) =
    if src = sideId ∨ dst = sideId then none else o.typedRouteOverrides.lookup (src, ty, dst)
  source : ∀ src, if src = sideId then o'.sourcePolicy.lookup src = none
    else Option.Rel (RoutePolicy.Without sideId) (o.sourcePolicy.lookup src) (o'.sourcePolicy.lookup src)
  own : o.localPolicy.Without sideId o'.localPolicy
  route : ∀ side, o'.discoveryRoutes.lookup side = if side = sideId then none else o.discoveryRoutes.lookup side
  sending : ∀ key, o'.reliableTx.lookup key = if sideOfKey key = sideId then none else o.reliableTx.lookup key
  receiving : ∀ key, o'.reliableRx.lookup key = if sideOfKey key = sideId then none else o.reliableRx.lookup key
  back : ∀ id side, o'.reliableReturnRoutes.lookup id = some side ↔ side ≠ sideId ∧ o.reliableReturnRoutes.lookup id = some side
  side : ∀ i, o'.sides[i]? = if i = sideId.toNatClampNeg
    then o.sides[i]?.map fun side => { side with ingressEnabled := false, egressEnabled := false } else o.sides[i]?
  rest : o' = { o with
    sides := o'.sides, txQueue := o'.txQueue, rxQueue := o'.rxQueue, routeOverrides := o'.routeOverrides,
    typedRouteOverrides := o'.typedRouteOverrides, sourcePolicy := o'.sourcePolicy, localPolicy := o'.localPolicy,
    discoveryRoutes := o'.discoveryRoutes, reliableTx := o'.reliableTx, reliableRx := o'.reliableRx,
    reliableReturnRoutes := o'.reliableReturnRoutes, discoveryIntervalMs := kDiscoveryFastMs,
    discoveryNextMs := o'.discoveryNextMs, clockReads := o'.clockReads, obs := o'.obs }

theorem removeSide_removed (E : Env) (o : Owner) (sideId : Int32) : Removed sideId o (o.removeSide E sideId) where
  tx := eraseLoop_items
  rx := eraseLoop_items
  accounts h := ⟨h.1.eraseIf _, h.2.eraseIf _⟩
  override src dst :=
    Map.lookup_keepIf o.routeOverrides (fun k => !(k.1 == sideId || k.2 == sideId)) (fun k => k.1 = sideId ∨ k.2 = sideId) (by simp) (src, dst)
  typedOverride src ty dst :=
    Map.lookup_keepIf o.typedRouteOverrides (fun k => !(k.1 == sideId || k.2.2 == sideId)) (fun k => k.1 = sideId ∨ k.2.2 = sideId)
      (by simp) (src, ty, dst)
  source src := by
    have hkept : (o.removeSide E sideId).sourcePolicy.lookup src =
        ((o.sourcePolicy.erase sideId).lookup src).map (·.withoutSide sideId) := Map.lookup_mapValues _ _ _
    rw [hkept, Map.lookup_erase_ite]
    split
    · rfl
    · cases o.sourcePolicy.lookup src with
      | none => exact .none
      | some policy => exact .some (policy.withoutSide_without sideId)
  own := o.localPolicy.withoutSide_without sideId
  route side := Map.lookup_erase_ite o.discoveryRoutes sideId side
  sending key :=
    Map.lookup_keepIf o.reliableTx (fun key => !(sideOfKey key == sideId)) (fun key => sideOfKey key = sideId) (by simp) key
  receiving key :=
    Map.lookup_keepIf o.reliableRx (fun key => !(sideOfKey key == sideId)) (fun key => sideOfKey key = sideId) (by simp) key
  back id side := by
    have hkept : (o.removeSide E sideId).reliableReturnRoutes.lookup id = some side ↔
        o.reliableReturnRoutes.lookup id = some side ∧ (!(side == sideId)) = true := Map.lookup_keepIf_iff
    rw [hkept, and_comm]
    simp
  side i := by
    change (o.sides.modify _ _)[i]? = _
    rw [List.getElem?_modify]
    by_cases hi : i = sideId.toNatClampNeg
    · rw [if_pos hi]
      cases o.sides[i]? with
      | none => rfl
      | some side =>
        rw [Option.map_eq_map, Option.map_some, if_pos hi.symm]
        rfl
    · rw [if_neg hi]
      cases o.sides[i]? with
      | none => rfl
      | some side =>
        rw [Option.map_eq_map, Option.map_some, if_neg (Ne.symm hi)]
  rest := rfl

end Owner

/-! ## Switches -/

namespace Setting

/-- What a change of the configuration makes of the side at an index. -/
def edits (sideId : Int32) (side : Side) : Setting → Side
  | .removeSide s => if s = sideId then { side with ingressEnabled := false, egressEnabled := false } else side
  | .setSideIngressEnabled s enabled => if s = sideId then { side with ingressEnabled := enabled } else side
  | .setSideEgressEnabled s enabled => if s = sideId then { side with egressEnabled := enabled } else side
  | .setSideLinkLocalEnabled s enabled => if s = sideId then { side with linkLocalEnabled := enabled } else side
  | _ => side

def opensIngress (sideId : Int32) : Setting → Bool
  | .setSideIngressEnabled s enabled => s == sideId && enabled
  | _ => false

def opensEgress (sideId : Int32) : Setting → Bool
  | .setSideEgressEnabled s enabled => s == sideId && enabled
  | _ => false

variable {sideId : Int32} {side : Side} {setting : Setting}

theorem edits_ingress (hopens : setting.opensIngress sideId = false) (hoff : side.ingressEnabled = false) :
    (setting.edits sideId side).ingressEnabled = false := by
  cases setting with
  | removeSide s =>
    dsimp only [edits]
    split
    · rfl
    · exact hoff
  | setSideIngressEnabled s enabled =>
    dsimp only [edits, opensIngress] at hopens ⊢
    split
    · rename_i hs
      rwa [hs, beq_self_eq_true, Bool.true_and] at hopens
    · exact hoff
  | setSideEgressEnabled s enabled =>
    dsimp only [edits]
    split
    · exact hoff
    · exact hoff
  | setSideLinkLocalEnabled s enabled =>
    dsimp only [edits]
    split
    · exact hoff
    · exact hoff
  | _ => exact hoff

theorem edits_egress (hopens : setting.opensEgress sideId = false) (hoff : side.egressEnabled = false) :
    (setting.edits sideId side).egressEnabled = false := by
  cases setting with
  | removeSide s =>
    dsimp only [edits]
    split
    · rfl
    · exact hoff
  | setSideEgressEnabled s enabled =>
    dsimp only [edits, opensEgress] at hopens ⊢
    split
    · rename_i hs
      rwa [hs, beq_self_eq_true, Bool.true_and] at hopens
    · exact hoff
  | setSideIngressEnabled s enabled =>
    dsimp only [edits]
    split
    · exact hoff
    · exact hoff
  | setSideLinkLocalEnabled s enabled =>
    dsimp only [edits]
    split
    · exact hoff
    · exact hoff
  | _ => exact hoff

end Setting

namespace Owner

theorem toNat_toUInt32_of_nonneg {sideId : Int32} (h : 0 ≤ sideId) : sideId.toUInt32.toNat = sideId.toNatClampNeg := by
  have hpos : 0 ≤ sideId.toInt := by simpa [Int32.le_iff_toInt_le] using h
  have hint : sideId.toInt = sideId.toBitVec.toInt := rfl
  have hclamp : sideId.toNatClampNeg = sideId.toInt.toNat := rfl
  have hnat : sideId.toUInt32.toNat = sideId.toBitVec.toNat := rfl
  rw [BitVec.toInt_eq_toNat_cond] at hint
  have hlt := sideId.toBitVec.isLt
  omega

/-- Two sides at one index are one. -/
theorem sideAt_inj {o : Owner} {s t : Int32} {side side' : Side} (hs : o.sideAt s = some side) (ht : o.sideAt t = some side') :
    s.toNatClampNeg = t.toNatClampNeg ↔ s = t := by
  refine ⟨fun h => ?_, fun h => h ▸ rfl⟩
  rw [← (sideAt_getElem hs).2.2, h]
  exact (sideAt_getElem ht).2.2

/-- **The sides after a change of the configuration.** Those that exist keep their places. -/
theorem configure_sideAt (S : Schema) (E : Env) {o : Owner} {sideId : Int32} {side : Side} (h : o.sideAt sideId = some side)
    (setting : Setting) : (o.configure S E setting).2.sideAt sideId = some (setting.edits sideId side) := by
  have hsame : ∀ o' : Owner, o'.sides = o.sides → o'.sideAt sideId = some side := by
    intro o' hsides
    unfold sideAt at h ⊢
    rwa [hsides]
  have hadded : ∀ (o' : Owner) (new : Side), o'.sides = o.sides ++ [new] → o'.sideAt sideId = some side := by
    intro o' new hsides
    obtain ⟨hpos, hsome, -⟩ := sideAt_getElem h
    unfold sideAt
    rw [if_neg (Int32.not_lt.mpr hpos), hsides, List.getElem?_append_left (List.getElem?_eq_some_iff.mp hsome).1]
    exact hsome
  have hon : ∀ (s : Int32) (f : Owner → Owner) (g : Side → Side), (f o).sides = o.sides.modify s.toNatClampNeg g →
      (o.onSide s f).2.sideAt sideId = some (if s = sideId then g side else side) := by
    intro s f g hsides
    obtain ⟨hpos, hsome, -⟩ := sideAt_getElem h
    unfold onSide
    cases hs : o.sideAt s with
    | none =>
      have hne : s ≠ sideId := fun heq => by
        rw [heq, h] at hs
        cases hs
      rw [if_neg hne]
      exact h
    | some other =>
      dsimp only
      unfold sideAt
      rw [if_neg (Int32.not_lt.mpr hpos), hsides, List.getElem?_modify, hsome, Option.map_eq_map, Option.map_some]
      by_cases heq : s = sideId
      · rw [if_pos heq, if_pos ((sideAt_inj hs h).mpr heq)]
      · rw [if_neg heq, if_neg fun hindex => heq ((sideAt_inj hs h).mp hindex)]
  have hpolicy : ∀ (src : Int32) (f : RoutePolicy → RoutePolicy), (o.modifyPolicy src f).sideAt sideId = some side := by
    intro src f
    unfold modifyPolicy
    split
    · exact hsame _ rfl
    · exact hsame _ rfl
  cases setting with
  | addSideSerialized name reliableEnabled => exact hadded _ _ rfl
  | addSidePacket name reliableEnabled => exact hadded _ _ rfl
  | removeSide s => exact hon s (·.removeSide E s) (fun side => { side with ingressEnabled := false, egressEnabled := false }) rfl
  | setSideIngressEnabled s enabled => exact hon s _ ({ · with ingressEnabled := enabled }) rfl
  | setSideEgressEnabled s enabled =>
    apply hon s _ ({ · with egressEnabled := enabled })
    cases enabled with
    | false => rfl
    | true => rfl
  | setSideLinkLocalEnabled s enabled => exact hon s _ ({ · with linkLocalEnabled := enabled }) rfl
  | setTypedRoute src ty dst enabled =>
    dsimp only [configure]
    split
    · exact h
    · exact hsame _ rfl
  | setSourceRouteMode src mode => exact hpolicy src _
  | setRouteWeight src dst weight => exact hpolicy src _
  | clearRouteWeight src dst => exact hpolicy src _
  | setRoutePriority src dst priority => exact hpolicy src _
  | clearRoutePriority src dst => exact hpolicy src _
  | setRuntimeTuningConfig tuning =>
    dsimp only [configure]
    split
    · exact hsame _ rfl
    · exact h
  | _ => exact hsame _ rfl

/-- The call that removes a side, on a valid index. -/
theorem configure_removeSide (S : Schema) (E : Env) {o : Owner} {sideId : Int32} {side : Side} (h : o.sideAt sideId = some side) :
    o.configure S E (.removeSide sideId) = (SEDS_OK, o.removeSide E sideId) := by
  change o.onSide sideId (·.removeSide E sideId) = _
  unfold onSide
  rw [h]

/-! ## Silence -/

/-- The side exists, may not send, and no frames are held for it. -/
structure Shut (sideId : Int32) (o : Owner) : Prop where
  side : ∃ side, o.sideAt sideId = some side ∧ side.egressEnabled = false
  held : ∀ key seq bytes, o.Holds key seq bytes → sideOfKey key ≠ sideId

/-- What may happen while a side is shut: it is not called, and gets no frames to hold. -/
def Avoids (sideId : Int32) (changes : Bool) : Obs → Prop
  | .configures => changes = true
  | .number s _ _ _ => s ≠ sideId
  | e => e.calledSide ≠ some sideId

variable {sideId : Int32} {changes : Bool} {o o' : Owner}

theorem Avoids.of_silent {e : Obs} (h : e.silent = true) : Avoids sideId changes e := by
  cases e with
  | transmit => cases h
  | packetTx => cases h
  | number => cases h
  | configures => cases h
  | _ => exact (Option.some_ne_none sideId).symm

theorem Avoids.uncalled {e : Obs} (h : Avoids sideId changes e) : e.calledSide ≠ some sideId := by
  cases e with
  | configures => exact (Option.some_ne_none sideId).symm
  | number => exact (Option.some_ne_none sideId).symm
  | _ => exact h

/-- What goes to a side that may send spares the one that may not. -/
theorem Avoids.carries {S : Schema} {Z : Codec} (hshut : o.Shut sideId) {s : Int32} {side : Side} (hside : o.egressSide s = some side)
    (item : TxItem) : Carries (Avoids sideId changes) S Z s item := by
  have hne : s ≠ sideId := by
    rintro rfl
    obtain ⟨hat, hopen⟩ := egressSide_spec hside
    obtain ⟨shut, hshut, hoff⟩ := hshut.side
    rw [hat, Option.some_inj] at hshut
    rw [← hshut, hopen] at hoff
    cases hoff
  have hcalled : some s ≠ some sideId := fun h => hne (Option.some_inj.mp h)
  exact ⟨(Option.some_ne_none sideId).symm, fun _ _ => hcalled, fun _ _ _ _ => hne, hcalled⟩

theorem Shut.due (h : o.Shut sideId) {now key : UInt64} {bytes : Bytes} (hdue : o.HoldsDue now key bytes) : sideOfKey key ≠ sideId := by
  obtain ⟨-, tx, sent, seq, htx, hsent, hbytes, -⟩ := hdue
  exact h.held key seq bytes ⟨tx, sent, htx, hsent, hbytes⟩

theorem Shut.requests (h : o.Shut sideId) {S : Schema} {pkt : PacketData} {srcSide : Option Int32} {s : Int32} {bytes : Bytes}
    (hrequests : Requests S o pkt srcSide s bytes) : s ≠ sideId := by
  obtain ⟨-, -, -, -, -, -, hholds⟩ := hrequests
  have hside := h.held _ _ _ hholds
  rwa [sideOfKey_reliableKey] at hside

/-- A step that spares the side and leaves its switch off leaves it shut. -/
theorem Shut.of_moves {P : TxItem → Prop} {R : PacketData → Prop} (h : o.Shut sideId) (hmoves : Moves P (Avoids sideId changes) R o o')
    (hside : ∃ side, o'.sideAt sideId = some side ∧ side.egressEnabled = false) :
    o'.Shut sideId ∧ ∃ l, o'.obs = o.obs ++ l ∧ ∀ e ∈ l, e.calledSide ≠ some sideId := by
  refine ⟨⟨hside, ?_⟩, ?_⟩
  · intro key seq bytes hholds
    rcases hmoves.held key seq bytes hholds with hold | ⟨s, ty, rfl, hne, -⟩
    · exact h.held key seq bytes hold
    · rw [sideOfKey_reliableKey]
      exact hne
  · obtain ⟨l, hobs, hl⟩ := hmoves.trace
    exact ⟨l, hobs, fun e he => (hl e he).uncalled⟩

theorem Removed.of_observe {e : Obs} (h : Removed sideId (o.observe e) o') : Removed sideId o o' :=
  ⟨h.tx, h.rx, h.accounts, h.override, h.typedOverride, h.source, h.own, h.route, h.sending, h.receiving, h.back, h.side, h.rest⟩

theorem Removed.sideAt {side : Side} (h : Removed sideId o o') (hside : o.sideAt sideId = some side) :
    o'.sideAt sideId = some { side with ingressEnabled := false, egressEnabled := false } := by
  obtain ⟨hpos, hsome, -⟩ := sideAt_getElem hside
  unfold Owner.sideAt
  rw [if_neg (Int32.not_lt.mpr hpos), h.side, if_pos rfl, hsome]
  rfl

theorem Removed.closed {side : Side} (h : Removed sideId o o') (hside : o.sideAt sideId = some side) :
    ∃ side, o'.sideAt sideId = some side ∧ side.ingressEnabled = false := ⟨_, h.sideAt hside, rfl⟩

/-- A side that has gone is shut. -/
theorem Removed.shut {side : Side} (h : Removed sideId o o') (hside : o.sideAt sideId = some side) : o'.Shut sideId where
  side := ⟨_, h.sideAt hside, rfl⟩
  held key seq bytes hholds := by
    obtain ⟨tx, sent, htx, -⟩ := hholds
    rw [h.sending] at htx
    split at htx
    · cases htx
    · assumption

end Owner

/-! ## What comes in -/

/-- The answer to a frame from a side that is closed. -/
def frameRefusal (S : Schema) (Z : Codec) (bytes : Bytes) : SedsResult :=
  if (peekFrameInfo S Z bytes true).isSome then SEDS_INVALID_LINK_ID else SEDS_DESERIALIZE

/-- The answer to a packet from a side that is closed. -/
def viewRefusal (S : Schema) (view : SedsPacketView) : SedsResult :=
  if (packetFromView S view).isSome then SEDS_INVALID_LINK_ID else SEDS_BAD_ARG

namespace Owner

variable {S : Schema} {o : Owner} {sideId : UInt32}

theorem ingressOpen_of_sideAt {sideId : Int32} {side : Side} (h : o.sideAt sideId = some side) :
    o.ingressOpen sideId.toUInt32 = side.ingressEnabled := by
  obtain ⟨hpos, hsome, -⟩ := sideAt_getElem h
  unfold ingressOpen
  rw [toNat_toUInt32_of_nonneg hpos, hsome]

theorem rxPacketFromSide_of_closed (hclosed : o.ingressOpen sideId = false) (view : SedsPacketView) :
    o.rxPacketFromSide S sideId view = (viewRefusal S view, o) := by
  unfold rxPacketFromSide viewRefusal
  cases packetFromView S view with
  | none => rfl
  | some pkt =>
    dsimp only
    rw [hclosed]
    rfl

end Owner

/-! ## Routers -/

namespace Router

/-- The act switches the side on for what comes in. -/
def Act.opensIngress (sideId : Int32) : Act → Bool
  | .configure setting => setting.opensIngress sideId
  | _ => false

def Act.opensEgress (sideId : Int32) : Act → Bool
  | .configure setting => setting.opensEgress sideId
  | _ => false

/-- What an act makes of the side at an index. -/
def Act.edits (sideId : Int32) (side : Side) : Act → Side
  | .configure setting => setting.edits sideId side
  | _ => side

/-- **Ingress under the name of a side is refused**, whatever arrives and by whichever call. Nothing changes but the
    record, which tells of the names that parsing compares. -/
structure RefusesFrom (S : Schema) (Z : Codec) (E : Env) (r : Router) (sideId : UInt32) : Prop where
  frame : ∀ bytes, ∃ names, receiveSerializedFromSide S Z E r sideId bytes =
    (frameRefusal S Z bytes, r.setOwner (r.toOwner.observe (.compare names)))
  packet : ∀ view, receiveFromSide S Z E r sideId view = (viewRefusal S view, r)
  queuedFrame : ∀ bytes, ∃ names, r.rxSerializedPacketToQueueFromSide S Z E sideId bytes =
    (frameRefusal S Z bytes, r.setOwner (r.toOwner.observe (.compare names)))
  queuedPacket : ∀ view, r.toOwner.rxPacketFromSide S sideId view = (viewRefusal S view, r.toOwner)

variable {S : Schema} {Z : Codec} {E : Env} {r : Router} {sideId : Int32} {side : Side}

theorem refusesFrom_of_closed {sideId : UInt32} (hclosed : r.toOwner.ingressOpen sideId = false) : RefusesFrom S Z E r sideId where
  frame bytes := by
    unfold receiveSerializedFromSide frameRefusal Owner.peekFrameInfo
    cases SedsNet.peekFrameInfo S Z bytes true with
    | none => exact ⟨_, rfl⟩
    | some frame =>
      dsimp only
      have hstill : ∀ e : Obs, (r.toOwner.observe e).ingressOpen sideId = false := fun _ => hclosed
      rw [hstill]
      exact ⟨_, rfl⟩
  packet view := by
    unfold receiveFromSide viewRefusal
    cases packetFromView S view with
    | none => rfl
    | some pkt =>
      dsimp only
      rw [hclosed]
      rfl
  queuedFrame bytes := by
    unfold rxSerializedPacketToQueueFromSide Owner.routerRxSerializedToQueueFromSide frameRefusal Owner.peekFrameInfo
    cases SedsNet.peekFrameInfo S Z bytes true with
    | none => exact ⟨_, rfl⟩
    | some frame =>
      dsimp only
      have hstill : ∀ e : Obs, (r.toOwner.observe e).ingressOpen sideId = false := fun _ => hclosed
      rw [hstill]
      exact ⟨_, rfl⟩
  queuedPacket view := Owner.rxPacketFromSide_of_closed hclosed view

variable (S Z E) in
/-- **The sides after an act.** -/
theorem perform_sideAt (hside : r.toOwner.sideAt sideId = some side) (act : Act) :
    (perform S Z E r act).toOwner.sideAt sideId = some (act.edits sideId side) := by
  cases hconf : act.changes with
  | true =>
    cases act with
    | configure setting =>
      have hobserved : (r.toOwner.observe .configures).sideAt sideId = some side := hside
      exact Owner.configure_sideAt S E hobserved setting
    | _ => cases hconf
  | false =>
    -- whatever else an act does, only one that configures touches the sides
    have hsends : Sends (fun _ => True) (· ≠ .configures) (fun _ _ => True) S Z E r act := by
      have hothers : ∀ e : Obs, e.silent = true → e ≠ .configures := by
        rintro e he rfl
        cases he
      refine .of_any hothers (fun _ => Obs.noConfusion) ?_ (fun _ _ _ _ => Obs.noConfusion) (fun _ _ _ _ _ _ _ => Obs.noConfusion)
        (fun _ _ => Obs.noConfusion) fun _ _ _ _ _ _ _ =>
          ⟨Obs.noConfusion, fun _ _ => Obs.noConfusion, fun _ _ _ _ => Obs.noConfusion, Obs.noConfusion⟩
      rintro setting rfl
      cases hconf
    have hmoves := (perform_moves S (grants_of_silent fun e he => by rintro rfl; cases he) Z E hsends.demands).owner
    have hsame : act.edits sideId side = side := by
      cases act with
      | configure setting => cases hconf
      | _ => rfl
    unfold Owner.sideAt at hside ⊢
    rw [hmoves.sides fun h => h rfl, hsame]
    exact hside

theorem perform_shut (h : r.toOwner.Shut sideId) {act : Act} (hopens : act.opensEgress sideId = false) :
    (perform S Z E r act).toOwner.Shut sideId ∧
      ∃ l, (perform S Z E r act).obs = r.obs ++ l ∧ ∀ e ∈ l, e.calledSide ≠ some sideId := by
  have hsends : Sends (fun _ => True) (Owner.Avoids sideId act.changes) (fun _ _ => True) S Z E r act := by
    apply Sends.of_any fun _ => .of_silent
    · exact fun _ => (Option.some_ne_none sideId).symm
    · rintro setting rfl
      rfl
    · exact fun _ key bytes hdue hcalled => h.due hdue (Option.some_inj.mp hcalled)
    · exact fun pkt srcSide _ _ s bytes hrequests hcalled => h.requests hrequests (Option.some_inj.mp hcalled)
    · exact fun _ _ => (Option.some_ne_none sideId).symm
    · exact fun _ item _ s side hside _ => Owner.Avoids.carries h hside item
  have hmoves := (perform_moves S (grants_of_silent fun _ => .of_silent) Z E hsends.demands).owner
  obtain ⟨side, hside, hoff⟩ := h.side
  refine h.of_moves hmoves ⟨_, perform_sideAt S Z E hside act, ?_⟩
  cases act with
  | configure setting => exact Setting.edits_egress hopens hoff
  | _ => exact hoff

/-- **Silence**: a run that does not switch a shut side on never calls it. -/
theorem run_shut (h : r.toOwner.Shut sideId) {acts : List Act} (hopens : ∀ act ∈ acts, act.opensEgress sideId = false) :
    ∃ l, (runFrom (perform S Z E) r acts).obs = r.obs ++ l ∧ ∀ e ∈ l, e.calledSide ≠ some sideId :=
  (along_of_forall hopens).record (I := fun r : Router => r.toOwner.Shut sideId) (fun r => r.obs) h fun _ _ hact hshut => perform_shut hshut hact

/-- A run that does not switch a closed side on leaves it closed. -/
theorem run_closed (h : ∃ side, r.toOwner.sideAt sideId = some side ∧ side.ingressEnabled = false) {acts : List Act}
    (hopens : ∀ act ∈ acts, act.opensIngress sideId = false) :
    ∃ side, (runFrom (perform S Z E) r acts).toOwner.sideAt sideId = some side ∧ side.ingressEnabled = false := by
  refine (along_of_forall hopens).invariant
    (I := fun r : Router => ∃ side, r.toOwner.sideAt sideId = some side ∧ side.ingressEnabled = false) h ?_
  rintro r act hact ⟨side, hside, hoff⟩
  refine ⟨_, perform_sideAt S Z E hside act, ?_⟩
  cases act with
  | configure setting => exact Setting.edits_ingress hact hoff
  | _ => exact hoff

end Router

/-! ## Relays -/

namespace Relay

def Act.opensIngress (sideId : Int32) : Act → Bool
  | .configure setting => setting.opensIngress sideId
  | _ => false

def Act.opensEgress (sideId : Int32) : Act → Bool
  | .configure setting => setting.opensEgress sideId
  | _ => false

def Act.edits (sideId : Int32) (side : Side) : Act → Side
  | .configure setting => setting.edits sideId side
  | _ => side

/-- `Router.RefusesFrom` for relays. -/
structure RefusesFrom (S : Schema) (Z : Codec) (E : Env) (r : Relay) (sideId : UInt32) : Prop where
  frame : ∀ bytes, ∃ names, r.rxSerializedFromSide S Z E sideId bytes =
    (frameRefusal S Z bytes, { r with toOwner := r.toOwner.observe (.compare names) })
  packet : ∀ view, r.toOwner.rxPacketFromSide S sideId view = (viewRefusal S view, r.toOwner)

variable {S : Schema} {Z : Codec} {E : Env} {r : Relay} {sideId : Int32} {side : Side}

theorem refusesFrom_of_closed {sideId : UInt32} (hclosed : r.toOwner.ingressOpen sideId = false) : RefusesFrom S Z E r sideId where
  frame bytes := by
    unfold rxSerializedFromSide Owner.relayRxSerializedFromSide frameRefusal Owner.peekFrameInfo
    cases SedsNet.peekFrameInfo S Z bytes true with
    | none => exact ⟨_, rfl⟩
    | some frame =>
      dsimp only
      have hstill : ∀ e : Obs, (r.toOwner.observe e).ingressOpen sideId = false := fun _ => hclosed
      rw [hstill]
      exact ⟨_, rfl⟩
  packet view := Owner.rxPacketFromSide_of_closed hclosed view

variable (S Z E) in
theorem perform_sideAt (hside : r.toOwner.sideAt sideId = some side) (act : Act) :
    (perform S Z E r act).toOwner.sideAt sideId = some (act.edits sideId side) := by
  cases hconf : act.changes with
  | true =>
    cases act with
    | configure setting =>
      have hobserved : (r.toOwner.observe .configures).sideAt sideId = some side := hside
      exact Owner.configure_sideAt S E hobserved setting
    | _ => cases hconf
  | false =>
    have hothers : ∀ e : Obs, e.silent = true → e ≠ .configures := by
      rintro e he rfl
      cases he
    have hsends : Sends (fun _ => True) (· ≠ .configures) S Z E r act := by
      refine ⟨hothers, fun _ => Obs.noConfusion, ?_, fun _ _ => trivial, fun _ _ _ _ => Obs.noConfusion,
        fun _ _ _ _ _ _ => Obs.noConfusion, fun _ _ _ _ _ => trivial, fun _ _ _ _ _ _ _ =>
          ⟨Obs.noConfusion, fun _ _ => Obs.noConfusion, fun _ _ _ _ => Obs.noConfusion, Obs.noConfusion⟩⟩
      rintro setting rfl
      cases hconf
    have hmoves : Owner.Moves _ _ (fun _ => True) r.toOwner (perform S Z E r act).toOwner :=
      perform_moves S (Router.grants_of_silent hothers) Z E hsends.demands
    have hsame : act.edits sideId side = side := by
      cases act with
      | configure setting => cases hconf
      | _ => rfl
    unfold Owner.sideAt at hside ⊢
    rw [hmoves.sides fun h => h rfl, hsame]
    exact hside

theorem perform_shut (h : r.toOwner.Shut sideId) {act : Act} (hopens : act.opensEgress sideId = false) :
    (perform S Z E r act).toOwner.Shut sideId ∧
      ∃ l, (perform S Z E r act).obs = r.obs ++ l ∧ ∀ e ∈ l, e.calledSide ≠ some sideId := by
  have hsends : Sends (fun _ => True) (Owner.Avoids sideId act.changes) S Z E r act := by
    refine ⟨fun _ => .of_silent, fun _ => (Option.some_ne_none sideId).symm, ?_, fun _ _ => trivial, ?_, ?_, fun _ _ _ _ _ => trivial, ?_⟩
    · rintro setting rfl
      rfl
    · exact fun _ key bytes hdue hcalled => h.due hdue (Option.some_inj.mp hcalled)
    · exact fun _ item _ s bytes hrequests hcalled => h.requests hrequests (Option.some_inj.mp hcalled)
    · exact fun _ item _ s side hside _ => Owner.Avoids.carries h hside item
  have hmoves : Owner.Moves _ _ (fun _ => True) r.toOwner (perform S Z E r act).toOwner :=
    perform_moves S (Router.grants_of_silent fun _ => .of_silent) Z E hsends.demands
  obtain ⟨side, hside, hoff⟩ := h.side
  refine h.of_moves hmoves ⟨_, perform_sideAt S Z E hside act, ?_⟩
  cases act with
  | configure setting => exact Setting.edits_egress hopens hoff
  | _ => exact hoff

theorem run_shut (h : r.toOwner.Shut sideId) {acts : List Act} (hopens : ∀ act ∈ acts, act.opensEgress sideId = false) :
    ∃ l, (runFrom (perform S Z E) r acts).obs = r.obs ++ l ∧ ∀ e ∈ l, e.calledSide ≠ some sideId :=
  (along_of_forall hopens).record (I := fun r : Relay => r.toOwner.Shut sideId) (fun r => r.obs) h fun _ _ hact hshut => perform_shut hshut hact

theorem run_closed (h : ∃ side, r.toOwner.sideAt sideId = some side ∧ side.ingressEnabled = false) {acts : List Act}
    (hopens : ∀ act ∈ acts, act.opensIngress sideId = false) :
    ∃ side, (runFrom (perform S Z E) r acts).toOwner.sideAt sideId = some side ∧ side.ingressEnabled = false := by
  refine (along_of_forall hopens).invariant
    (I := fun r : Relay => ∃ side, r.toOwner.sideAt sideId = some side ∧ side.ingressEnabled = false) h ?_
  rintro r act hact ⟨side, hside, hoff⟩
  refine ⟨_, perform_sideAt S Z E hside act, ?_⟩
  cases act with
  | configure setting => exact Setting.edits_ingress hact hoff
  | _ => exact hoff

end Relay

/-- **A side goes**: what refers to it is gone and all else is as it was, it is silent for as long as it is not switched on
    for what goes out, and what comes in under its name is refused for as long as it is not switched on for that. -/
theorem removeSide_complete (S : Schema) (Z : Codec) (E : Env) (sideId : Int32) :
    (∀ (r r' : Router) (side : Side), r.toOwner.sideAt sideId = some side →
      r' = Router.perform S Z E r (.configure (.removeSide sideId)) →
      r' = r.setOwner r'.toOwner ∧ Owner.Removed sideId r.toOwner r'.toOwner ∧
      (∀ (r₀ : Router) (acts : List Router.Act), r₀.toOwner.Blank → r = runFrom (Router.perform S Z E) r₀ acts →
        r.toOwner.Countable → r'.toOwner.Balanced) ∧
      (∀ acts : List Router.Act, (∀ act ∈ acts, act.opensEgress sideId = false) →
        ∃ l, (runFrom (Router.perform S Z E) r' acts).obs = r'.obs ++ l ∧ ∀ e ∈ l, e.calledSide ≠ some sideId) ∧
      ∀ acts : List Router.Act, (∀ act ∈ acts, act.opensIngress sideId = false) →
        (runFrom (Router.perform S Z E) r' acts).RefusesFrom S Z E sideId.toUInt32) ∧
    ∀ (r r' : Relay) (side : Side), r.toOwner.sideAt sideId = some side →
      r' = Relay.perform S Z E r (.configure (.removeSide sideId)) →
      r' = r.setOwner r'.toOwner ∧ Owner.Removed sideId r.toOwner r'.toOwner ∧
      (∀ (r₀ : Relay) (acts : List Relay.Act), r₀.toOwner.Blank → r = runFrom (Relay.perform S Z E) r₀ acts →
        r.toOwner.Countable → r'.toOwner.Balanced) ∧
      (∀ acts : List Relay.Act, (∀ act ∈ acts, act.opensEgress sideId = false) →
        ∃ l, (runFrom (Relay.perform S Z E) r' acts).obs = r'.obs ++ l ∧ ∀ e ∈ l, e.calledSide ≠ some sideId) ∧
      ∀ acts : List Relay.Act, (∀ act ∈ acts, act.opensIngress sideId = false) →
        (runFrom (Relay.perform S Z E) r' acts).RefusesFrom S Z E sideId.toUInt32 := by
  have hremoved : ∀ (o : Owner) (side : Side), o.sideAt sideId = some side →
      Owner.Removed sideId o ((o.observe .configures).configure S E (.removeSide sideId)).2 := by
    intro o side hside
    have hobserved : (o.observe .configures).sideAt sideId = some side := hside
    rw [Owner.configure_removeSide S E hobserved]
    exact (Owner.removeSide_removed E _ sideId).of_observe
  refine ⟨?_, ?_⟩
  · intro r r' side hside hr'
    have hgone : Owner.Removed sideId r.toOwner r'.toOwner := by
      rw [hr']
      exact hremoved r.toOwner side hside
    refine ⟨by rw [hr']; rfl, hgone, ?_, ?_, ?_⟩
    · rintro r₀ acts hblank rfl hcount
      exact (hgone.accounts ((Router.run_moves S Z E r₀ acts).accounts hcount hblank.accounted)).balanced
    · exact fun acts hopens => Router.run_shut (hgone.shut hside) hopens
    · intro acts hopens
      obtain ⟨closed, hclosed, hstill⟩ := Router.run_closed (S := S) (Z := Z) (E := E) (hgone.closed hside) hopens
      exact Router.refusesFrom_of_closed ((Owner.ingressOpen_of_sideAt hclosed).trans hstill)
  · intro r r' side hside hr'
    have hgone : Owner.Removed sideId r.toOwner r'.toOwner := by
      rw [hr']
      exact hremoved r.toOwner side hside
    refine ⟨by rw [hr']; rfl, hgone, ?_, ?_, ?_⟩
    · rintro r₀ acts hblank rfl hcount
      exact (hgone.accounts ((Relay.run_moves S Z E r₀ acts).accounts hcount hblank.accounted)).balanced
    · exact fun acts hopens => Relay.run_shut (hgone.shut hside) hopens
    · intro acts hopens
      obtain ⟨closed, hclosed, hstill⟩ := Relay.run_closed (S := S) (Z := Z) (E := E) (hgone.closed hside) hopens
      exact Relay.refusesFrom_of_closed ((Owner.ingressOpen_of_sideAt hclosed).trans hstill)

/-- Two reports come in from the side that then goes. -/
theorem removeSide_complete_gps :
    ∃ r : Relay, r = runFrom (Relay.perform defaultTestSchema (.absent 16) .calm) Relay.gpsRelay gpsRelayActs ∧
      r.rxQueue.items.length = 2 ∧
      (Relay.perform defaultTestSchema (.absent 16) .calm r (.configure (.removeSide 0))).rxQueue.items = [] ∧
      (Relay.perform defaultTestSchema (.absent 16) .calm r (.configure (.removeSide 0))).RefusesFrom defaultTestSchema (.absent 16)
        .calm 0 := by
  obtain ⟨r, hr⟩ : ∃ r : Relay, r = runFrom (Relay.perform defaultTestSchema (.absent 16) .calm) Relay.gpsRelay gpsRelayActs := ⟨_, rfl⟩
  have hqueued : r.sideAt 0 = some (.serialized [] true) ∧ r.rxQueue.items.map (·.srcSide) = [some 0, some 0] := by
    rw [hr]
    unfold gpsRelayActs Relay.gpsFrame
    rw [defaultTestSchema_eq]
    decide +kernel
  have hlength := congrArg List.length hqueued.2
  rw [List.length_map] at hlength
  obtain ⟨-, hgone, -, -, hrefused⟩ :=
    (removeSide_complete defaultTestSchema (.absent 16) .calm 0).2 r _ (.serialized [] true) hqueued.1 rfl
  refine ⟨r, hr, hlength, ?_, hrefused [] fun _ hact => absurd hact List.not_mem_nil⟩
  rw [hgone.rx, List.filter_eq_nil_iff]
  intro item hitem
  have hfrom : item.srcSide ∈ [some (0 : Int32), some 0] := hqueued.2 ▸ List.mem_map_of_mem hitem
  simp only [List.mem_cons, List.not_mem_nil, or_false, or_self] at hfrom
  simp [hfrom]

end SedsNet
