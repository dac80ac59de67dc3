import SedsNet.Relay.Transmit
import SedsNet.Selection

/-!
# Which sides a relay's packet gets to

`transmit_item` for relays returns at the first side that fails, whether its callback refuses the packet, its reliable
window is full, or the frame is deferred. The item has left the queue by then, so the sides after that one never see the
packet. The router's version goes on with the next side.

Here the sides are listed that the packet is handed to, and the states in which these are all that were selected.
-/

set_option autoImplicit false

namespace SedsNet

/-- The side a queued packet is handed to. -/
def Obs.handed : Obs → Option (Int32 × TxItem)
  | .sends sideId item => some (sideId, item)
  | _ => none

namespace Owner

/-! ## Handing over -/

/-- Between the two states the item is handed to these sides, in this order, and no other item is to any. -/
def Hands (item : TxItem) (sides : List Int32) (o o' : Owner) : Prop :=
  ∃ l, o'.obs = o.obs ++ l ∧ l.filterMap Obs.handed = sides.map fun sideId => (sideId, item)

namespace Hands

variable {item : TxItem} {sides sides' : List Int32} {o o' o'' : Owner}

theorem of_obs (h : o'.obs = o.obs) : Hands item [] o o' := ⟨[], by rw [h, List.append_nil], rfl⟩

theorem observe (o : Owner) {e : Obs} (he : e.handed = none) : Hands item [] o (o.observe e) := by
  refine ⟨[e], rfl, ?_⟩
  rw [List.filterMap_cons_none he]
  rfl

theorem trans (h : Hands item sides o o') (h' : Hands item sides' o' o'') : Hands item (sides ++ sides') o o'' := by
  obtain ⟨l, hobs, hsides⟩ := h
  obtain ⟨l', hobs', hsides'⟩ := h'
  refine ⟨l ++ l', ?_, ?_⟩
  · rw [hobs', hobs, List.append_assoc]
  · rw [List.filterMap_append, hsides, hsides', List.map_append]

/-- What is on the record says which sides these are. -/
theorem unique (h : Hands item sides o o') (h' : Hands item sides' o o') : sides = sides' := by
  obtain ⟨l, hobs, hsides⟩ := h
  obtain ⟨l', hobs', hsides'⟩ := h'
  have hl : l = l' := List.append_cancel_left (hobs.symm.trans hobs')
  subst hl
  have hinj : Function.Injective fun sideId : Int32 => (sideId, item) := fun s t hst => (Prod.mk.inj hst).1
  exact (List.map_injective_iff.mpr hinj) (hsides.symm.trans hsides')

end Hands

/-! ## One side -/

/-- What a transmission leaves alone, which goes to these sides at most. -/
structure Spares (touched : List Int32) (o o' : Owner) : Prop where
  sides : o'.sides = o.sides
  tuning : o'.tuning = o.tuning
  active : o'.sideTxActive = o.sideTxActive
  windows : ∀ s ty, s ∉ touched → o'.txState s ty = o.txState s ty

namespace Spares

variable {touched : List Int32} {sideId : Int32} {o o' o'' : Owner}

theorem trans (h : Spares touched o o') (h' : Spares touched o' o'') : Spares touched o o'' where
  sides := h'.sides.trans h.sides
  tuning := h'.tuning.trans h.tuning
  active := h'.active.trans h.active
  windows s ty hs := (h'.windows s ty hs).trans (h.windows s ty hs)

theorem observe (touched : List Int32) (o : Owner) (e : Obs) : Spares touched o (o.observe e) := ⟨rfl, rfl, rfl, fun _ _ _ => rfl⟩

theorem nowMs (touched : List Int32) (E : Env) (o : Owner) : Spares touched o (o.nowMs E).2 := ⟨rfl, rfl, rfl, fun _ _ _ => rfl⟩

theorem setTxState (sideId : Int32) (o : Owner) (ty : UInt32) (tx : ReliableTxState) : Spares [sideId] o (o.setTxState sideId ty tx) := by
  refine ⟨rfl, rfl, rfl, fun s ty' hs => ?_⟩
  have hkey : reliableKey s ty' ≠ reliableKey sideId ty := fun h => hs (List.mem_singleton.mpr (reliableKey_inj.mp h).1)
  unfold txState Owner.setTxState
  dsimp only
  rw [AList.lookup_insert_ne hkey]

end Spares

variable (S : Schema) (Z : Codec) (E : Env)

/-- A frame that is to be numbered finds no room in the window of the side. -/
def windowFull (o : Owner) (side : Side) (sideId : Int32) (ty : UInt32) : Bool :=
  side.reliableEnabled && S.isReliableType ty && decide (o.tuning.reliableMaxPending ≤ (o.txState sideId ty).sent.entries.length)

/-- Whether a side takes the item, when its callback is the `n`-th to be called: a frame is not to be deferred and finds
    room in the window, and the callback answers `SEDS_OK`. -/
def takes (o : Owner) (item : TxItem) (sideId : Int32) (n : Nat) : Bool :=
  match o.egressSide sideId with
  | none => false
  | some side =>
    if side.serializedTx then
      !o.windowFull S side sideId item.pkt.ty && !o.sideTxActive && E.callback n == SEDS_OK
    else !side.packetTx || E.callback n == SEDS_OK

/-- A side with a callback. -/
def answers (o : Owner) (sideId : Int32) : Bool :=
  match o.egressSide sideId with
  | none => false
  | some side => side.serializedTx || side.packetTx

section

variable {S E} {item : TxItem} {o o' : Owner} {sideId : Int32} {touched : List Int32}

theorem Spares.egressSide (h : Spares touched o o') (s : Int32) : o'.egressSide s = o.egressSide s := by
  unfold Owner.egressSide sideAt
  rw [h.sides]

theorem Spares.answers (h : Spares touched o o') (s : Int32) : o'.answers s = o.answers s := by
  unfold Owner.answers
  rw [h.egressSide]

/-- No other side takes less, or more. -/
theorem Spares.takes (h : Spares touched o o') {s : Int32} (hs : s ∉ touched) (n : Nat) :
    o'.takes S E item s n = o.takes S E item s n := by
  unfold Owner.takes windowFull
  rw [h.egressSide, h.tuning, h.active, h.windows s item.pkt.ty hs]

/-- A callback is called for a frame, unless it is deferred. -/
theorem callSerializedTx_taken (sideId : Int32) (bytes : Bytes) (o : Owner) :
    ((o.callSerializedTx E sideId bytes).1 = SEDS_OK ↔ (!o.sideTxActive && E.callback o.calls == SEDS_OK) = true) ∧
    ((o.callSerializedTx E sideId bytes).1 = SEDS_OK → (o.callSerializedTx E sideId bytes).2.calls = o.calls + 1) ∧
    Hands item [] o (o.callSerializedTx E sideId bytes).2 ∧ Spares [sideId] o (o.callSerializedTx E sideId bytes).2 := by
  unfold callSerializedTx
  cases hactive : o.sideTxActive with
  | true =>
    rw [if_pos rfl]
    have hrefused : SEDS_IO ≠ SEDS_OK := by decide
    exact ⟨⟨fun h => absurd h hrefused, fun h => Bool.noConfusion h⟩, fun h => absurd h hrefused, .of_obs rfl,
      ⟨rfl, rfl, hactive.symm, fun _ _ _ => rfl⟩⟩
  | false =>
    rw [if_neg Bool.false_ne_true, Bool.not_false, Bool.true_and, beq_iff_eq]
    exact ⟨Iff.rfl, fun _ => rfl, ⟨_, rfl, rfl⟩, ⟨rfl, rfl, rfl, fun _ _ _ => rfl⟩⟩

/-- What one turn of the loop over the targets comes to. -/
structure Served (S : Schema) (E : Env) (item : TxItem) (sideId : Int32) (o : Owner) (p : SedsResult × Owner) : Prop where
  taken : p.1 = SEDS_OK ↔ o.takes S E item sideId o.calls = true
  calls : p.1 = SEDS_OK → p.2.calls = o.calls + (if o.answers sideId then 1 else 0)
  hands : Hands item [sideId] o p.2
  spares : Spares [sideId] o p.2

/-- A framed side. -/
theorem sendSerializedWithReliable_taken {side : Side} (hside : o.egressSide sideId = some side) (hat : o.sideAt sideId = some side)
    (hframes : side.serializedTx = true) :
    ((o.sendSerializedWithReliable S Z E sideId item.pkt).1 = SEDS_OK ↔ o.takes S E item sideId o.calls = true) ∧
    ((o.sendSerializedWithReliable S Z E sideId item.pkt).1 = SEDS_OK →
      (o.sendSerializedWithReliable S Z E sideId item.pkt).2.calls = o.calls + 1) ∧
    Hands item [] o (o.sendSerializedWithReliable S Z E sideId item.pkt).2 ∧
    Spares [sideId] o (o.sendSerializedWithReliable S Z E sideId item.pkt).2 := by
  unfold takes windowFull sendSerializedWithReliable
  rw [hside, hat]
  dsimp only
  rw [hframes, Bool.not_true, if_neg Bool.false_ne_true, if_pos rfl]
  cases hnumbered : side.reliableEnabled && S.isReliableType item.pkt.ty with
  | false =>
    have hplain : (!side.reliableEnabled || !S.isReliableType item.pkt.ty) = true := by
      rw [← Bool.not_and, hnumbered]
      rfl
    rw [if_pos hplain, Bool.false_and, Bool.not_false, Bool.true_and]
    exact callSerializedTx_taken sideId _ o
  | true =>
    have hnumbers : (!side.reliableEnabled || !S.isReliableType item.pkt.ty) = false := by
      rw [← Bool.not_and, hnumbered]
      rfl
    rw [hnumbers, if_neg Bool.false_ne_true, Bool.true_and]
    by_cases hfull : o.tuning.reliableMaxPending ≤ (o.txState sideId item.pkt.ty).sent.entries.length
    · rw [if_pos hfull, decide_eq_true hfull]
      have hrefused : SEDS_PACKET_TOO_LARGE ≠ SEDS_OK := by decide
      exact ⟨⟨fun h => absurd h hrefused, fun h => Bool.noConfusion h⟩, fun h => absurd h hrefused, .of_obs rfl,
        .setTxState sideId o _ _⟩
    · rw [if_neg hfull, decide_eq_false hfull, Bool.not_false, Bool.true_and]
      generalize serializePacketWithReliable S Z item.pkt _ = bytes
      generalize ho₁ : (o.setTxState sideId item.pkt.ty _).observe _ = o₁
      have hactive : o₁.sideTxActive = o.sideTxActive := by rw [← ho₁]; rfl
      have hcalls : o₁.calls = o.calls := by rw [← ho₁]; rfl
      have hhands : Hands item [] o o₁ := by
        rw [← ho₁]
        exact (Hands.of_obs rfl).trans (.observe _ rfl)
      have hspares : Spares [sideId] o o₁ := by
        rw [← ho₁]
        exact (Spares.setTxState sideId o _ _).trans (.observe [sideId] _ _)
      obtain ⟨hok, hcalled, hcallHands, hcallSpares⟩ := @callSerializedTx_taken E item sideId bytes o₁
      rw [hactive, hcalls] at hok
      rw [hcalls] at hcalled
      generalize o₁.callSerializedTx E sideId bytes = p at hok hcalled hcallHands hcallSpares
      obtain ⟨rc, o₂⟩ := p
      dsimp only at hok hcalled hcallHands hcallSpares ⊢
      by_cases hrc : rc = SEDS_OK
      · rw [if_neg (not_not.mpr hrc)]
        refine ⟨⟨fun _ => hok.mp hrc, fun _ => rfl⟩, fun _ => hcalled hrc, (hhands.trans hcallHands).trans (.of_obs rfl), ?_⟩
        exact ((hspares.trans hcallSpares).trans (.nowMs [sideId] E o₂)).trans (.setTxState sideId _ _ _)
      · rw [if_pos hrc]
        exact ⟨hok, fun h => absurd h hrc, hhands.trans hcallHands, hspares.trans hcallSpares⟩

theorem sideAt_of_egressSide {side : Side} (h : o.egressSide sideId = some side) : o.sideAt sideId = some side := by
  unfold egressSide at h
  cases hat : o.sideAt sideId with
  | none =>
    rw [hat] at h
    cases h
  | some side' =>
    rw [hat] at h
    dsimp only at h
    split at h
    · exact h
    · cases h

/-- **One side**: it is handed the item, and the answer is `SEDS_OK` exactly when it takes it. -/
theorem sendToSide_served {side : Side} (hside : o.egressSide sideId = some side) :
    Served S E item sideId o (o.sendToSide S Z E sideId side item) := by
  have hat : o.sideAt sideId = some side := sideAt_of_egressSide hside
  have hhanded : Hands item [sideId] o (o.observe (.sends sideId item)) := ⟨_, rfl, rfl⟩
  have hnoted : Spares [sideId] o (o.observe (.sends sideId item)) := .observe [sideId] o _
  have hanswers : o.answers sideId = (side.serializedTx || side.packetTx) := by
    unfold answers
    rw [hside]
  unfold sendToSide
  dsimp only
  cases hframes : side.serializedTx with
  | true =>
    rw [if_pos rfl]
    have hside' : (o.observe (.sends sideId item)).egressSide sideId = some side := hside
    obtain ⟨hok, hcalls, hhands, hspares⟩ := sendSerializedWithReliable_taken (S := S) (E := E) (Z := Z) hside' hat hframes
    refine ⟨hok, fun h => ?_, hhanded.trans hhands, hnoted.trans hspares⟩
    rw [hcalls h, hanswers, hframes]
    rfl
  | false =>
    rw [if_neg Bool.false_ne_true]
    have htakes : o.takes S E item sideId o.calls = (!side.packetTx || E.callback o.calls == SEDS_OK) := by
      unfold takes
      rw [hside]
      dsimp only
      rw [hframes, if_neg Bool.false_ne_true]
    cases hpacket : side.packetTx with
    | true =>
      rw [if_pos rfl]
      refine ⟨?_, fun _ => ?_, ⟨_, List.append_assoc _ _ _, rfl⟩, ⟨rfl, rfl, rfl, fun _ _ _ => rfl⟩⟩
      · rw [htakes, hpacket, Bool.not_true, Bool.false_or, beq_iff_eq]
        rfl
      · rw [hanswers, hframes, hpacket]
        rfl
    | false =>
      rw [if_neg Bool.false_ne_true]
      refine ⟨⟨fun _ => ?_, fun _ => rfl⟩, fun _ => ?_, hhanded, hnoted⟩
      · rw [htakes, hpacket]
        rfl
      · rw [hanswers, hframes, hpacket]
        rfl

/-! ## All of them -/

/-- The sides up to the first that does not take the item; the next callback to be called is the `n`-th. -/
def reached (S : Schema) (E : Env) (o : Owner) (item : TxItem) : List Int32 → Nat → List Int32
  | [], _ => []
  | sideId :: rest, n =>
    sideId :: if o.takes S E item sideId n then reached S E o item rest (n + if o.answers sideId then 1 else 0) else []

theorem Spares.reached (h : Spares touched o o') {sides : List Int32} (hnot : ∀ s ∈ sides, s ∉ touched) (n : Nat) :
    Owner.reached S E o' item sides n = Owner.reached S E o item sides n := by
  induction sides generalizing n with
  | nil => rfl
  | cons s rest ih =>
    unfold Owner.reached
    rw [h.takes (hnot s List.mem_cons_self), h.answers, ih fun t ht => hnot t (List.mem_cons_of_mem s ht)]

theorem Spares.filter_egressSide (h : Spares touched o o') (sides : List Int32) :
    (sides.filter fun s => (o'.egressSide s).isSome) = sides.filter fun s => (o.egressSide s).isSome := by
  refine List.filter_congr fun s _ => ?_
  rw [h.egressSide]

/-- **The loop over the targets** hands the item to the sides that may send, up to the first that does not take it. -/
theorem relayTransmitTo_hands (item : TxItem) (sides : List Int32) (o : Owner) (hnodup : sides.Nodup) :
    Hands item (o.reached S E item (sides.filter fun s => (o.egressSide s).isSome) o.calls) o
      (relayTransmitTo S Z E item sides o).2 := by
  induction sides generalizing o with
  | nil => exact .of_obs rfl
  | cons sideId rest ih =>
    obtain ⟨hnot, hrest⟩ := List.nodup_cons.mp hnodup
    unfold relayTransmitTo
    cases hside : o.egressSide sideId with
    | none =>
      rw [List.filter_cons_of_neg (by rw [hside]; exact Bool.false_ne_true)]
      exact ih o hrest
    | some side =>
      rw [List.filter_cons_of_pos (by rw [hside]; rfl)]
      have hserved : Served S E item sideId o (o.sendToSide S Z E sideId side item) := sendToSide_served Z hside
      dsimp only
      generalize o.sendToSide S Z E sideId side item = p at hserved
      obtain ⟨rc, o₁⟩ := p
      obtain ⟨htaken, hcalls, hhands, hspares⟩ := hserved
      dsimp only at htaken hcalls hhands hspares ⊢
      unfold reached
      by_cases hrc : rc = SEDS_OK
      · have hafter := ih o₁ hrest
        have hothers : ∀ s ∈ rest.filter (fun s => (o.egressSide s).isSome), s ∉ [sideId] := by
          intro s hs hmem
          rw [List.mem_singleton] at hmem
          exact hnot (hmem ▸ List.mem_of_mem_filter hs)
        rw [hspares.filter_egressSide, hspares.reached hothers, hcalls hrc] at hafter
        rw [if_pos hrc, if_pos (htaken.mp hrc)]
        exact hhands.trans hafter
      · -- the first that does not take the item is the last that sees it
        rw [if_neg hrc, if_neg fun h => hrc (htaken.mpr h)]
        split
        · exact hhands.trans (.of_obs rfl)
        · exact hhands

/-- The side takes the item when its turn comes, if all that were asked before it do. -/
def TakesInTurn (S : Schema) (E : Env) (o : Owner) (item : TxItem) (before : List Int32) (sideId : Int32) : Prop :=
  o.takes S E item sideId (o.calls + before.countP o.answers) = true

/-- All sides are reached exactly when each but the last takes the item in turn. -/
theorem reached_eq_iff (o : Owner) (sides : List Int32) (n : Nat) :
    o.reached S E item sides n = sides ↔
      ∀ before sideId after, sides = before ++ sideId :: after → after ≠ [] →
        o.takes S E item sideId (n + before.countP o.answers) = true := by
  induction sides generalizing n with
  | nil =>
    refine ⟨fun _ before sideId after hsplit => ?_, fun _ => rfl⟩
    exact absurd hsplit.symm (List.append_ne_nil_of_right_ne_nil before (List.cons_ne_nil sideId after))
  | cons s rest ih =>
    unfold reached
    rw [List.cons_eq_cons, eq_self, true_and]
    have hcount : ∀ before : List Int32, n + (s :: before).countP o.answers =
        n + (if o.answers s then 1 else 0) + before.countP o.answers := by
      intro before
      rw [List.countP_cons, Nat.add_comm (before.countP o.answers), Nat.add_assoc]
    by_cases htakes : o.takes S E item s n = true
    · rw [if_pos htakes, ih]
      constructor
      · intro h before sideId after hsplit hafter
        cases before with
        | nil =>
          obtain ⟨rfl, rfl⟩ := List.cons_eq_cons.mp hsplit
          exact htakes
        | cons b before =>
          obtain ⟨rfl, hrest⟩ := List.cons_eq_cons.mp hsplit
          rw [hcount]
          exact h before sideId after hrest hafter
      · intro h before sideId after hsplit hafter
        rw [← hcount]
        exact h (s :: before) sideId after (by rw [hsplit]; rfl) hafter
    · rw [if_neg htakes]
      constructor
      · rintro rfl before sideId after hsplit hafter
        cases before with
        | nil => exact absurd (List.cons_eq_cons.mp hsplit).2.symm hafter
        | cons b before =>
          have hnil := (List.cons_eq_cons.mp hsplit).2
          exact absurd hnil.symm (List.append_ne_nil_of_right_ne_nil before (List.cons_ne_nil sideId after))
      · intro h
        by_contra hne
        exact htakes (h [] s rest rfl (Ne.symm hne))

end

/-! ## What is selected -/

theorem selectDestinations_nodup (o : Owner) (policy : RoutePolicy) (item : TxItem) (preferred : Option Bytes) (now : UInt64) :
    (o.selectDestinations S policy item preferred now).1.Nodup := by
  unfold selectDestinations
  cases item.dstSide with
  | some dst => exact List.nodup_singleton dst
  | none =>
    have hnodup := ((defaultCandidates_ascending S o item.pkt item.srcSide preferred now).filter
      (o.routeAllows S item.pkt (item.srcSide.getD (-1)))).nodup
    dsimp only
    generalize (o.defaultCandidates S item.pkt item.srcSide preferred now).filter _ = routed at hnodup ⊢
    by_cases hne : routed = []
    · rw [hne]
      exact List.nodup_nil
    · exact hnodup.sublist (policy.apply_chooses hnodup hne).sublist

/-- Choosing the targets touches no side. -/
theorem targets_spares (o : Owner) (item : TxItem) (preferred : Option Bytes) :
    Hands item [] o (o.targets S E item preferred).2 ∧ Spares [] o (o.targets S E item preferred).2 ∧
      (o.targets S E item preferred).2.calls = o.calls ∧ (o.targets S E item preferred).1.Nodup := by
  have hset : ∀ (o' : Owner) (policy : RoutePolicy), Hands item [] o' (o'.setPolicyOf item.srcSide policy) ∧
      Spares [] o' (o'.setPolicyOf item.srcSide policy) ∧ (o'.setPolicyOf item.srcSide policy).calls = o'.calls := by
    intro o' policy
    unfold setPolicyOf
    cases item.srcSide with
    | none => exact ⟨.of_obs rfl, ⟨rfl, rfl, rfl, fun _ _ _ => rfl⟩, rfl⟩
    | some src => exact ⟨.of_obs rfl, ⟨rfl, rfl, rfl, fun _ _ _ => rfl⟩, rfl⟩
  unfold targets
  obtain ⟨hhands, hspares, hcalls⟩ := hset (o.nowMs E).2
    ((o.nowMs E).2.selectDestinations S ((o.nowMs E).2.policyOf item.srcSide) item preferred (o.nowMs E).1).2
  exact ⟨(Hands.of_obs rfl).trans hhands, (Spares.nowMs [] E o).trans hspares, hcalls, selectDestinations_nodup S _ _ item _ _⟩

end Owner

namespace Relay

variable (S : Schema) (Z : Codec) (E : Env)

/-- The sides an item is meant for: `filtered_targets`, less those that may not send. -/
def selected (r : Relay) (item : TxItem) : List Int32 :=
  let (sides, o) := r.toOwner.targets S E item none
  (filterEndToEndSatisfiedSides S { r with toOwner := o } item.pkt sides).1.filter fun s => (r.egressSide s).isSome

theorem filterEndToEndSatisfiedSides_spares (r : Relay) (item : TxItem) (sides : List Int32) :
    Owner.Hands item [] r.toOwner (filterEndToEndSatisfiedSides S r item.pkt sides).2.toOwner ∧
      Owner.Spares [] r.toOwner (filterEndToEndSatisfiedSides S r item.pkt sides).2.toOwner ∧
      (filterEndToEndSatisfiedSides S r item.pkt sides).2.calls = r.calls ∧
      (filterEndToEndSatisfiedSides S r item.pkt sides).1.Sublist sides := by
  unfold filterEndToEndSatisfiedSides
  split
  · exact ⟨.of_obs rfl, ⟨rfl, rfl, rfl, fun _ _ _ => rfl⟩, rfl, List.Sublist.refl sides⟩
  · have hhands : Owner.Hands item [] r.toOwner (r.toOwner.packetId S item.pkt).2 := .observe r.toOwner rfl
    have hspares : Owner.Spares [] r.toOwner (r.toOwner.packetId S item.pkt).2 := .observe [] r.toOwner _
    dsimp only
    split
    · exact ⟨hhands, hspares, rfl, List.Sublist.refl sides⟩
    · exact ⟨hhands, hspares, rfl, List.filter_sublist⟩

/-- The item is handed to the selected sides up to the first that does not take it. -/
theorem transmitItem_hands (r : Relay) (item : TxItem) :
    (selected S E r item).Nodup ∧ Owner.Hands item (r.toOwner.reached S E item (selected S E r item) r.calls) r.toOwner
      (transmitItem S Z E r item).2.toOwner := by
  unfold selected transmitItem
  obtain ⟨hhands, hspares, hcalls, hnodup⟩ := Owner.targets_spares S E r.toOwner item none
  generalize r.toOwner.targets S E item none = p at hhands hspares hcalls hnodup
  obtain ⟨sides, o⟩ := p
  dsimp only at hhands hspares hcalls hnodup ⊢
  obtain ⟨hhands', hspares', hcalls', hsub⟩ := filterEndToEndSatisfiedSides_spares S { r with toOwner := o } item sides
  generalize filterEndToEndSatisfiedSides S { r with toOwner := o } item.pkt sides = p at hhands' hspares' hcalls' hsub
  obtain ⟨sides', r'⟩ := p
  dsimp only at hhands' hspares' hcalls' hsub ⊢
  have hbefore := hspares.trans hspares'
  have hloop := Owner.relayTransmitTo_hands (S := S) (E := E) Z item sides' r'.toOwner (hnodup.sublist hsub)
  rw [hbefore.filter_egressSide, hbefore.reached fun s _ => List.not_mem_nil, hcalls', hcalls] at hloop
  exact ⟨(hnodup.sublist hsub).filter _, (hhands.trans hhands').trans hloop⟩

/-- **The item gets to every selected side, once each, exactly when each of them but the last takes it.** -/
theorem transmitItem_fansOut (r : Relay) (item : TxItem) :
    (selected S E r item).Nodup ∧
    (Owner.Hands item (selected S E r item) r.toOwner (transmitItem S Z E r item).2.toOwner ↔
      ∀ before sideId after, selected S E r item = before ++ sideId :: after → after ≠ [] →
        Owner.TakesInTurn S E r.toOwner item before sideId) := by
  obtain ⟨hnodup, hhands⟩ := transmitItem_hands S Z E r item
  refine ⟨hnodup, ?_⟩
  unfold Owner.TakesInTurn
  rw [← Owner.reached_eq_iff]
  constructor
  · exact fun h => hhands.unique h
  · intro hall
    rwa [hall] at hhands

/-! ## A side that refuses -/

/-- The first callback refuses, and the others accept. -/
def refusesFirst : Env := ⟨fun _ => 0, fun n => if n = 0 then SEDS_BAD_ARG else SEDS_OK⟩

/-- A packet from side 0 is selected for sides 1 and 2. Side 1 refuses it, and side 2 never sees it. -/
theorem transmitItem_fansOut_starved :
    ¬ Owner.Hands ⟨gpsPacket, some 0, none, false⟩
      (selected defaultTestSchema refusesFirst (.new [.serialized [] false, .serialized [] false, .serialized [] false])
        ⟨gpsPacket, some 0, none, false⟩)
      (Relay.new [.serialized [] false, .serialized [] false, .serialized [] false]).toOwner
      (transmitItem defaultTestSchema (.absent 16) refusesFirst
        (.new [.serialized [] false, .serialized [] false, .serialized [] false]) ⟨gpsPacket, some 0, none, false⟩).2.toOwner := by
  rintro ⟨l, hobs, hsides⟩
  have hrun : (selected defaultTestSchema refusesFirst (.new [.serialized [] false, .serialized [] false, .serialized [] false])
        ⟨gpsPacket, some 0, none, false⟩).length = 2 ∧
      ((transmitItem defaultTestSchema (.absent 16) refusesFirst
        (.new [.serialized [] false, .serialized [] false, .serialized [] false])
        ⟨gpsPacket, some 0, none, false⟩).2.obs.filterMap Obs.handed).length = 1 := by
    rw [defaultTestSchema_eq]
    decide +kernel
  rw [hobs, List.filterMap_append, hsides, List.length_append, List.length_map, hrun.1] at hrun
  exact absurd hrun.2 (by omega)

end Relay

end SedsNet
