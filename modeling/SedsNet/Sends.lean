import SedsNet.Emits
import SedsNet.Routing

/-!
# What the transmission of a packet can do

The lemmas of `SedsNet.Emits` for the sending half: which sides `select_destinations` may choose, and what
goes to the callback of a side that was chosen. Only a packet with an explicit destination side is sent
without the checks of `routeAllows`.
-/

set_option autoImplicit false

namespace SedsNet

/-! ## Policies -/

namespace RoutePolicy

variable (policy : RoutePolicy)

theorem mem_failover (sides : List Int32) (best : Int32) (bestPri : UInt32) :
    policy.failover sides best bestPri = best ∨ policy.failover sides best bestPri ∈ sides := by
  induction sides generalizing best bestPri with
  | nil => exact .inl rfl
  | cons side sides ih =>
    unfold failover
    split
    · rcases ih side (policy.priorityOf side) with heq | hmem
      · rw [heq]
        exact .inr List.mem_cons_self
      · exact .inr (List.mem_cons_of_mem side hmem)
    · rcases ih best bestPri with heq | hmem
      · exact .inl heq
      · exact .inr (List.mem_cons_of_mem side hmem)

theorem mem_share {pick running : UInt64} {sides : List Int32} {side : Int32}
    (h : policy.share pick sides running = some side) : side ∈ sides := by
  induction sides generalizing running with
  | nil => cases h
  | cons first sides ih =>
    unfold share at h
    dsimp only at h
    split at h
    · cases h
      exact List.mem_cons_self
    · exact List.mem_cons_of_mem first (ih h)

/-- A policy chooses among the sides it is given. -/
theorem mem_apply {sides : List Int32} {side : Int32} (h : side ∈ (policy.apply sides).1) : side ∈ sides := by
  unfold apply at h
  cases sides with
  | nil => exact h
  | cons first rest =>
    dsimp only at h
    split at h
    · exact h
    · rw [List.mem_singleton] at h
      rcases policy.mem_failover (first :: rest) first 0xFFFFFFFF with heq | hmem
      · rw [h, heq]
        exact List.mem_cons_self
      · exact h ▸ hmem
    · split at h
      · rw [List.mem_singleton.mp h]
        exact List.mem_cons_self
      · rw [List.mem_singleton] at h
        generalize hshare : policy.share _ (first :: rest) 0 = found at h
        cases found with
        | none =>
          rw [h]
          exact List.mem_cons_self
        | some side' =>
          rw [h]
          exact policy.mem_share hshare

end RoutePolicy

namespace Owner

/-! ## Targets -/

section

variable {S : Schema} {E : Env}

/-- What `routeAllows` lets out, the side accepts. -/
theorem accepts_of_routeAllows {o : Owner} {pkt : PacketData} {src sideId : Int32} {side : Side}
    (hside : o.sideAt sideId = some side) (h : o.routeAllows S pkt src sideId = true) :
    S.sideAcceptsPacket side pkt = true := by
  unfold routeAllows at h
  rw [hside] at h
  dsimp only at h
  split at h
  · cases h
  · rename_i hopen
    rw [Bool.or_eq_true, not_or, Bool.not_eq_true', Bool.not_eq_false] at hopen
    simpa using hopen.2

theorem mem_routedSides {o : Owner} {pkt : PacketData} {srcSide : Option Int32} {now : UInt64} {passes : DiscoveryRoute → Bool}
    {sideId : Int32} (h : sideId ∈ o.routedSides S pkt srcSide now passes) : srcSide ≠ some sideId := by
  unfold routedSides at h
  obtain ⟨e, -, he⟩ := List.mem_filterMap.mp h
  split at he
  · cases he
  · rename_i hother
    cases hside : o.sideAt e.1 with
    | none =>
      rw [hside] at he
      cases he
    | some side =>
      rw [hside] at he
      dsimp only at he
      split at he
      · cases he
      · split at he
        · cases he
          exact fun heq => hother (.inl heq)
        · cases he

theorem mem_openSides {o : Owner} {pkt : PacketData} {srcSide : Option Int32} {sideId : Int32}
    (h : sideId ∈ o.openSides S pkt srcSide) : srcSide ≠ some sideId := by
  unfold openSides at h
  obtain ⟨p, -, hp⟩ := List.mem_filterMap.mp h
  split at hp
  · cases hp
  · rename_i hother
    split at hp
    · cases hp
      exact hother
    · cases hp

/-- No packet is routed back to the side it came from. -/
theorem mem_defaultCandidates {o : Owner} {pkt : PacketData} {srcSide : Option Int32} {preferred : Option Bytes} {now : UInt64}
    {sideId : Int32} (h : sideId ∈ o.defaultCandidates S pkt srcSide preferred now) : srcSide ≠ some sideId := by
  -- the sides that lead to a preferred source are among those routed, too
  have hsources : ∀ sources : List Int32, (∀ id ∈ sources, srcSide ≠ some id) →
      ∀ routed : List Int32, (∀ id ∈ routed, srcSide ≠ some id) →
      sideId ∈ (if !sources.isEmpty then sortDedup sources
        else sortDedup (if routed.isEmpty then o.openSides S pkt srcSide else routed)) → srcSide ≠ some sideId := by
    intro sources hsources routed hrouted hmem
    split at hmem
    · exact hsources sideId (mem_of_mem_sortDedup hmem)
    · have hmem := mem_of_mem_sortDedup hmem
      split at hmem
      · exact mem_openSides hmem
      · exact hrouted sideId hmem
  unfold defaultCandidates at h
  cases preferred with
  | none => exact hsources [] (fun id hid => absurd hid List.not_mem_nil) _ (fun id hid => mem_routedSides hid) h
  | some source => exact hsources _ (fun id hid => mem_routedSides hid) _ (fun id hid => mem_routedSides hid) h

/-- The rules for routes let the item out to the side: it is addressed to it, or it may be routed there. -/
def goesTo (S : Schema) (o : Owner) (item : TxItem) (sideId : Int32) : Bool :=
  match item.dstSide with
  | some dst => dst == sideId
  | none => item.srcSide != some sideId && o.routeAllows S item.pkt (item.srcSide.getD (-1)) sideId

theorem goesTo_of_mem_targets {o : Owner} {item : TxItem} {preferred : Option Bytes} {sideId : Int32}
    (h : sideId ∈ (o.targets S E item preferred).1) : o.goesTo S item sideId = true := by
  unfold targets selectDestinations at h
  unfold goesTo
  dsimp only at h
  cases hdst : item.dstSide with
  | some dst =>
    rw [hdst] at h
    exact beq_iff_eq.mpr (List.mem_singleton.mp h).symm
  | none =>
    rw [hdst] at h
    obtain ⟨hcandidate, hallows⟩ := List.mem_filter.mp (RoutePolicy.mem_apply _ h)
    exact Bool.and_eq_true_iff.mpr ⟨bne_iff_ne.mpr (mem_defaultCandidates hcandidate), hallows⟩

/-- The item is addressed to the side, or the side accepts the packet. -/
theorem accepts_of_goesTo {o : Owner} {item : TxItem} {sideId : Int32} {side : Side} (hside : o.sideAt sideId = some side)
    (h : o.goesTo S item sideId = true) : item.dstSide = some sideId ∨ S.sideAcceptsPacket side item.pkt = true := by
  unfold goesTo at h
  cases hdst : item.dstSide with
  | some dst =>
    rw [hdst] at h
    exact .inl (congrArg some (beq_iff_eq.mp h))
  | none =>
    rw [hdst] at h
    exact .inr (accepts_of_routeAllows hside (Bool.and_eq_true_iff.mp h).2)

/-- A target is the side the packet is addressed to, or one that accepts the packet. -/
theorem mem_targets {o : Owner} {item : TxItem} {preferred : Option Bytes} {sideId : Int32} {side : Side}
    (hside : o.sideAt sideId = some side) (h : sideId ∈ (o.targets S E item preferred).1) :
    item.dstSide = some sideId ∨ S.sideAcceptsPacket side item.pkt = true :=
  accepts_of_goesTo hside (goesTo_of_mem_targets h)

theorem egressSide_spec {o : Owner} {sideId : Int32} {side : Side} (h : o.egressSide sideId = some side) :
    o.sideAt sideId = some side ∧ side.egressEnabled = true := by
  unfold egressSide at h
  cases hside : o.sideAt sideId with
  | none =>
    rw [hside] at h
    cases h
  | some side' =>
    rw [hside] at h
    dsimp only at h
    split at h
    · cases h
      exact ⟨rfl, ‹_›⟩
    · cases h

/-- A side is at some place in the list of sides. -/
theorem sideAt_getElem {o : Owner} {sideId : Int32} {side : Side} (h : o.sideAt sideId = some side) :
    0 ≤ sideId ∧ o.sides[sideId.toNatClampNeg]? = some side ∧ Int32.ofNat sideId.toNatClampNeg = sideId := by
  unfold sideAt at h
  split at h
  · cases h
  · rename_i hneg
    have hpos := Int32.not_lt.mp hneg
    exact ⟨hpos, h, Int32.ofNat_toNatClampNeg sideId hpos⟩

theorem sideAt_index {o : Owner} {sideId : Int32} {side : Side} (h : o.sideAt sideId = some side) :
    ∃ i < o.sides.length, Int32.ofNat i = sideId := by
  obtain ⟨-, hsome, hindex⟩ := sideAt_getElem h
  exact ⟨sideId.toNatClampNeg, (List.getElem?_eq_some_iff.mp hsome).1, hindex⟩

end

section

variable {P : TxItem → Prop} {Q : Obs → Prop} (S : Schema) (Z : Codec) (E : Env) (o : Owner)

theorem targets_emits (item : TxItem) (preferred : Option Bytes) :
    Emits P Q o (o.targets S E item preferred).2 := by
  unfold targets setPolicyOf
  dsimp only
  cases item.srcSide with
  | none => exact .of_eq rfl (Nat.le_succ _) rfl rfl
  | some src => exact .of_eq rfl (Nat.le_succ _) rfl rfl

/-! ## One side -/

/-- `Q` allows an item to go to the callback of a side, in whichever form. -/
structure Carries (Q : Obs → Prop) (S : Schema) (Z : Codec) (sideId : Int32) (item : TxItem) : Prop where
  sends : Q (.sends sideId item)
  transmit : ∀ bytes, Frames S Z bytes item.pkt → Q (.transmit sideId bytes)
  number : S.isReliableType item.pkt.ty = true → ∀ seq bytes, Frames S Z bytes item.pkt → Q (.number sideId item.pkt.ty seq bytes)
  packetTx : Q (.packetTx sideId item.pkt)

theorem sendToSide_emits {sideId : Int32} {item : TxItem} (h : Carries Q S Z sideId item) (side : Side) :
    Emits P Q o (o.sendToSide S Z E sideId side item).2 := by
  have hnoted : Emits P Q o (o.observe (.sends sideId item)) := .observe o h.sends
  unfold sendToSide
  dsimp only
  split
  · exact hnoted.trans (sendSerializedWithReliable_emits S Z E _ h.transmit h.number)
  · split
    · exact hnoted.trans (.call E _ h.packetTx)
    · exact hnoted

/-! ## The drain -/

omit o in
theorem head?_of_pop {α : Type} {cost : α → UInt64} {queue queue' : Bounded α} {item : α}
    (h : queue.pop cost = some (item, queue')) : item ∈ queue.items.head? := by
  unfold Bounded.pop at h
  split at h
  · cases h
  · rename_i x xs hitems
    cases h
    rw [hitems]
    rfl

omit o in
theorem items_of_pop_none {α : Type} {cost : α → UInt64} {queue : Bounded α} (h : queue.pop cost = none) : queue.items = [] := by
  unfold Bounded.pop at h
  cases hitems : queue.items with
  | nil => rfl
  | cons item rest =>
    rw [hitems] at h
    cases h

/-- A packet that is taken off the queue, and may come back to it. -/
theorem Emits.popTx {item : TxItem} {queue : Bounded TxItem} (hpop : o.txQueue.pop TxItem.byteCost = some (item, queue)) :
    item ∈ o.txQueue.items ∧ Emits P Q o { o with txQueue := queue } := by
  have hitems : o.txQueue.items = item :: queue.items := by
    unfold Bounded.pop at hpop
    split at hpop
    · cases hpop
    · cases hpop
      assumption
  refine ⟨by rw [hitems]; exact List.mem_cons_self, rfl, rfl, rfl, rfl, rfl, rfl, .of_eq rfl rfl, Nat.le_refl _, .refl, ?_, fun _ _ _ h => .inl h,
    fun _ => ⟨rfl, rfl⟩, Nat.le_refl _, fun _ hsound => ⟨hsound.1.pop hpop, hsound.2⟩, ?_, fun hlisted => hlisted, [], (List.append_nil _).symm,
    fun _ he => nomatch he⟩
  · intro x hx
    rw [hitems]
    exact .inl (List.mem_cons_of_mem item hx)
  · intro hfits x hx
    apply hfits x
    rw [hitems]
    exact List.mem_cons_of_mem item hx

/-- What was in the queue before is no news. -/
theorem Emits.absorb {o o' : Owner} (h : Emits (fun x => P x ∨ x ∈ o.txQueue.items) Q o o') : Emits P Q o o' := by
  refine ⟨h.queue, h.released, h.streams, h.memory, h.sides, h.tuning, h.calm, h.reads, h.routes, ?_, h.held, h.recent, h.peak,
    h.accounts, h.fits, h.returns, h.trace⟩
  intro x hx
  rcases h.tx x hx with hold | hnew | hold
  · exact .inl hold
  · exact .inr hnew
  · exact .inl hold

end

end Owner

end SedsNet
