import SedsNet.Relay
import SedsNet.Router.Transmit
import SedsNet.Sends

/-!
# What a relay does with a packet it sends

`transmit_item` for relays (`src/router_core.cpp`) and the drain of the transmit queue
(`src/relay_api.cpp`). A relay keeps no entries for packets sent end to end; it leaves a side out when every
destination behind it has acknowledged the packet already (`filter_end_to_end_satisfied_sides`). The first
side that fails ends the transmission.
-/

set_option autoImplicit false

namespace SedsNet

open Owner

/-! ## Satisfied sides -/

/-- What the loop over the announcers of a route has found out: whether a destination has not acknowledged
    yet, and whether there is any destination. -/
structure SideDestinations where
  stillPending : Bool
  hadDestinationBoard : Bool
  deriving DecidableEq, Repr, Inhabited

/-- One round of that loop. -/
def SideDestinations.announcer (pkt : PacketData) (acked : Finset UInt64) (found : SideDestinations)
    (a : (_ : Bytes) × SenderState) : SideDestinations :=
  let boards := a.2.topologyBoards.filter fun board => isEndToEndDestinationSender board.senderId
  let pendingBoard := boards.any fun board => board.matchesAny pkt.endpoints && decide (senderHash board.senderId ∉ acked)
  let had := found.hadDestinationBoard || !boards.isEmpty
  if found.stillPending then found
  else if !had && a.2.topologyBoards.isEmpty && isEndToEndDestinationSender a.1 then
    ⟨pendingBoard || pkt.endpoints.any (fun ep => decide (ep ∈ a.2.endpoints) && decide (senderHash a.1 ∉ acked)), true⟩
  else ⟨pendingBoard, had⟩

namespace Relay

section

variable (S : Schema) (Z : Codec) (E : Env)

/-- Whether a side is left in, for a packet that some destinations have acknowledged. -/
def sideUnsatisfied (r : Relay) (pkt : PacketData) (acked : Finset UInt64) (sideId : Int32) : Bool :=
  match r.discoveryRoutes.lookup sideId with
  | none => true
  | some route =>
    let found := route.announcers.entries.foldl (SideDestinations.announcer pkt acked) ⟨false, false⟩
    route.announcers.entries.isEmpty || found.stillPending || !found.hadDestinationBoard

/-- `filter_end_to_end_satisfied_sides`. -/
def filterEndToEndSatisfiedSides (r : Relay) (pkt : PacketData) (sides : List Int32) : List Int32 × Relay :=
  if !S.isReliableType pkt.ty || isInternalControlType pkt.ty then (sides, r)
  else
    let (id, o) := r.toOwner.packetId S pkt
    let r := { r with toOwner := o }
    match r.endToEndAckedDestinations.lookup id with
    | none => (sides, r)
    | some acked => (sides.filter (r.sideUnsatisfied pkt acked), r)

/-! ## Sending -/

end

end Relay

namespace Owner

section

variable (S : Schema) (Z : Codec) (E : Env)

/-- The loop over the targets: the first failure ends it. -/
def relayTransmitTo (item : TxItem) : List Int32 → Owner → SedsResult × Owner
  | [], o => (SEDS_OK, o)
  | sideId :: rest, o =>
    match o.egressSide sideId with
    | none => relayTransmitTo item rest o
    | some side =>
      let (rc, o) := o.sendToSide S Z E sideId side item
      if rc = SEDS_OK then relayTransmitTo item rest o
      else if o.isDeferred side rc then ( SEDS_IO, { o with sideTxDeferred := false })
      else (SEDS_HANDLER_ERROR, o)

end

end Owner

namespace Relay

section

variable (S : Schema) (Z : Codec) (E : Env)

/-- `transmit_item`. -/
def transmitItem (r : Relay) (item : TxItem) : SedsResult × Relay :=
  let (sides, o) := r.toOwner.targets S E item none
  let (sides, r) := filterEndToEndSatisfiedSides S { r with toOwner := o } item.pkt sides
  let (rc, o) := Owner.relayTransmitTo S Z E item sides r.toOwner
  (rc, { r with toOwner := o })

/-- One round of the drain of the transmit queue: the code of the round, or `none` when the queue is empty.
    A deferred item goes back to the front, and the code is `SEDS_IO`. -/
def transmitNext (r : Relay) : Option SedsResult × Relay :=
  match r.txQueue.pop TxItem.byteCost with
  | none => (none, r)
  | some (item, queue) =>
    let (rc, r) := transmitItem S Z E { r with toOwner := { r.toOwner with txQueue := queue } } item
    (some rc, if rc = SEDS_IO then { r with toOwner := r.toOwner.enqueueTxFront item } else r)

end

end Relay

/-! ## What a transmission can do -/

namespace Owner

variable {P : TxItem → Prop} {Q : Obs → Prop} (S : Schema) (Z : Codec) (E : Env)

theorem relayTransmitTo_emits {item : TxItem} (sides : List Int32) (o : Owner)
    (hcarries : ∀ sideId side, sideId ∈ sides → o.egressSide sideId = some side → Carries Q S Z sideId item) :
    Emits P Q o (relayTransmitTo S Z E item sides o).2 := by
  induction sides generalizing o with
  | nil => exact .refl o
  | cons sideId rest ih =>
    have hrest : ∀ o' : Owner, Emits P Q o o' → Emits P Q o (relayTransmitTo S Z E item rest o').2 := by
      intro o' hemits
      apply hemits.trans
      apply ih
      intro sideId' side' hmem hside'
      apply hcarries sideId' side' (List.mem_cons_of_mem sideId hmem)
      unfold egressSide sideAt at hside' ⊢
      rwa [hemits.sides] at hside'
    unfold relayTransmitTo
    cases hside : o.egressSide sideId with
    | none => exact hrest o (.refl o)
    | some side =>
      have hsent := sendToSide_emits (P := P) S Z E o (hcarries sideId side List.mem_cons_self hside) side
      dsimp only
      split
      · exact hrest _ hsent
      · split
        · exact hsent.trans (.setDeferred _ fun _ => rfl)
        · exact hsent

end Owner

namespace Relay

variable {P : TxItem → Prop} {Q : Obs → Prop} (S : Schema) (Z : Codec) (E : Env)

/-- What the transmission of an item may do: it goes to sides. -/
structure Transmits (Q : Obs → Prop) (S : Schema) (Z : Codec) (r : Relay) (item : TxItem) : Prop where
  carries : ∀ sideId side, r.egressSide sideId = some side → r.toOwner.goesTo S item sideId = true → Carries Q S Z sideId item
  hash : Q (.hash (item.pkt.endpoints.map fun ep => S.kEndpointNames[ep.toNat]?))

theorem filterEndToEndSatisfiedSides_spec {r : Relay} {pkt : PacketData}
    (hhash : Q (.hash (pkt.endpoints.map fun ep => S.kEndpointNames[ep.toNat]?))) (sides : List Int32) :
    Emits P Q r.toOwner (filterEndToEndSatisfiedSides S r pkt sides).2.toOwner ∧
    ∀ sideId ∈ (filterEndToEndSatisfiedSides S r pkt sides).1, sideId ∈ sides := by
  unfold filterEndToEndSatisfiedSides
  split
  · exact ⟨.refl _, fun _ h => h⟩
  · have hhashed : Emits P Q r.toOwner (r.toOwner.packetId S pkt).2 := .observe r.toOwner hhash
    dsimp only
    split
    · exact ⟨hhashed, fun _ h => h⟩
    · exact ⟨hhashed, fun _ h => List.mem_of_mem_filter h⟩

/-- **Transmission** sends what `Transmits` says. -/
theorem transmitItem_emits {r : Relay} {item : TxItem} (h : Transmits Q S Z r item) :
    Emits P Q r.toOwner (transmitItem S Z E r item).2.toOwner := by
  unfold transmitItem
  have hchosen := targets_emits (P := P) (Q := Q) S E r.toOwner item none
  have hmem : ∀ sideId, sideId ∈ (r.toOwner.targets S E item none).1 → r.toOwner.goesTo S item sideId = true :=
    fun sideId hsideId => goesTo_of_mem_targets hsideId
  generalize r.toOwner.targets S E item none = p at hchosen hmem ⊢
  obtain ⟨sides, o⟩ := p
  dsimp only at hchosen hmem ⊢
  obtain ⟨hfiltered, hsubset⟩ := filterEndToEndSatisfiedSides_spec (P := P) S (r := { r with toOwner := o }) h.hash sides
  generalize filterEndToEndSatisfiedSides S { r with toOwner := o } item.pkt sides = p at hfiltered hsubset ⊢
  obtain ⟨sides', r'⟩ := p
  dsimp only at hfiltered hsubset ⊢
  have hbefore := hchosen.trans hfiltered
  apply hbefore.trans
  apply relayTransmitTo_emits
  intro sideId side hsideId hside
  unfold egressSide sideAt at hside
  rw [hbefore.sides] at hside
  exact h.carries sideId side hside (hmem sideId (hsubset sideId hsideId))

/-- **One round of the drain** does what the transmission of the front item may do. -/
theorem transmitNext_emits {r : Relay} (h : ∀ item ∈ r.txQueue.items.head?, Transmits Q S Z r item) :
    Emits P Q r.toOwner (transmitNext S Z E r).2.toOwner := by
  unfold transmitNext
  cases hpop : r.txQueue.pop TxItem.byteCost with
  | none => exact .refl _
  | some p =>
    obtain ⟨item, queue⟩ := p
    obtain ⟨hmem, hpopped⟩ := Emits.popTx (P := fun x => P x ∨ x ∈ r.txQueue.items) (Q := Q) r.toOwner hpop
    have hitem : Transmits Q S Z { r with toOwner := { r.toOwner with txQueue := queue } } item := by
      have hfront := h item (head?_of_pop hpop)
      exact ⟨hfront.carries, hfront.hash⟩
    have hsent := hpopped.trans (transmitItem_emits S Z E hitem)
    dsimp only
    generalize transmitItem S Z E { r with toOwner := { r.toOwner with txQueue := queue } } item = p at hsent ⊢
    obtain ⟨rc, r₁⟩ := p
    dsimp only at hsent ⊢
    split
    · exact (hsent.trans (.enqueueTxAt true _ (.inr hmem))).absorb
    · exact hsent.absorb

end Relay

end SedsNet
