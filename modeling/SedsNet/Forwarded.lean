import SedsNet.LinkLocal

/-!
# Forwarded discovery

A relay hides link-local endpoints in what it learns from an announcement (`handle_discovery_packet`) and in what it
announces itself. The announcement it has received is forwarded all the same, like every other packet, and its
payload is not looked at again: the filter of the sides asks for the endpoints a packet is addressed to, and
discovery packets are addressed to `DISCOVERY`.

So an announcement that names a link-local endpoint goes wherever the routes let it. `Discreet` is the condition
that they let it out to marked sides only.
-/

set_option autoImplicit false

namespace SedsNet

open Lib

namespace Schema

/-- The endpoints an announcement names, as the two decoders of `handle_discovery_packet` read them. -/
def namedEndpoints (S : Schema) (pkt : PacketData) : List UInt32 :=
  if pkt.ty = SEDS_DT_DISCOVERY_ANNOUNCE then decodeDiscoveryEndpoints S pkt.payload
  else if pkt.ty = SEDS_DT_DISCOVERY_TOPOLOGY then
    (decodeDiscoveryTopologyPacket pkt.payload).flatMap (·.reachableEndpoints)
  else []

/-- The packet announces a link-local endpoint. -/
def namesLinkLocal (S : Schema) (pkt : PacketData) : Bool := (S.namedEndpoints pkt).any S.endpointLinkLocalOnly

/-- Announcements are not sent reliably. -/
def PlainDiscovery (S : Schema) : Prop :=
  S.isReliableType SEDS_DT_DISCOVERY_ANNOUNCE = false ∧ S.isReliableType SEDS_DT_DISCOVERY_TOPOLOGY = false

instance (S : Schema) : Decidable S.PlainDiscovery := inferInstanceAs (Decidable (_ ∧ _))

theorem PlainDiscovery.namesLinkLocal {S : Schema} (h : S.PlainDiscovery) {pkt : PacketData}
    (hreliable : S.isReliableType pkt.ty = true) : S.namesLinkLocal pkt = false := by
  unfold Schema.namesLinkLocal namedEndpoints
  split
  · rename_i hty
    rw [hty, h.1] at hreliable
    cases hreliable
  · split
    · rename_i hty
      rw [hty, h.2] at hreliable
      cases hreliable
    · rfl

end Schema

namespace Owner

/-- The item was received, and tells a side that is not marked of a link-local endpoint. -/
def reveals (S : Schema) (o : Owner) (item : TxItem) (sideId : Int32) : Bool :=
  item.srcSide.isSome && S.namesLinkLocal item.pkt && !o.linkLocalAt sideId

/-- A frame of a packet of the type that announces no link-local endpoint. -/
def Unrevealing (S : Schema) (Z : Codec) (ty : UInt32) (bytes : Bytes) : Prop :=
  ∃ pkt : PacketData, pkt.ty = ty ∧ Encodes S Z bytes pkt ∧ S.namesLinkLocal pkt = false

/-- What may go to the sides as they are marked in `o`, in a step that takes `front` off the transmit queue: that
    packet where it reveals nothing, and frames that were numbered for the side before and announce no link-local
    endpoint. -/
def Veiled (S : Schema) (Z : Codec) (front : Option TxItem) (o : Owner) : Obs → Prop
  | .packetTx sideId pkt => ∃ item ∈ front, item.pkt = pkt ∧ o.reveals S item sideId = false
  | .transmit sideId bytes =>
    (∃ ty seq, .number sideId ty seq bytes ∈ o.obs ∧ Unrevealing S Z ty bytes) ∨
      ∃ item ∈ front, Encodes S Z bytes item.pkt ∧ o.reveals S item sideId = false
  | .number _ ty _ bytes => Unrevealing S Z ty bytes
  | _ => True

/-- From `o` to `o'` only that has happened. -/
def Hidden (S : Schema) (Z : Codec) (front : Option TxItem) (o o' : Owner) : Prop :=
  ∀ e ∈ o'.obs.drop o.obs.length, Veiled S Z front o e

/-- The frames that wait for an ACK were numbered for their side, and announce no link-local endpoint. -/
def HoldsVeiled (S : Schema) (Z : Codec) (o : Owner) : Prop :=
  ∀ key seq bytes, o.Holds key seq bytes →
    ∃ sideId ty, key = reliableKey sideId ty ∧ .number sideId ty seq bytes ∈ o.obs ∧ Unrevealing S Z ty bytes

section

variable {S : Schema} {Z : Codec} {front : Option TxItem} {o o' : Owner}

theorem Veiled.of_silent {e : Obs} (h : e.silent = true) : Veiled S Z front o e := by
  cases e with
  | transmit sideId bytes => cases h
  | packetTx sideId pkt => cases h
  | number sideId ty seq bytes => cases h
  | _ => trivial

theorem Veiled.carries (hplain : S.PlainDiscovery) {item : TxItem} (hitem : item ∈ front) {sideId : Int32}
    (hquiet : o.reveals S item sideId = false) : Carries (Veiled S Z front o) S Z sideId item where
  sends := trivial
  transmit _ hframes := .inr ⟨item, hitem, hframes.encodes, hquiet⟩
  number hreliable _ _ hframes := ⟨item.pkt, rfl, hframes.encodes, hplain.namesLinkLocal hreliable⟩
  packetTx := ⟨item, hitem, rfl, hquiet⟩

theorem Moves.hidden {P : TxItem → Prop} {R : PacketData → Prop} (h : Moves P (Veiled S Z front o) R o o') :
    Hidden S Z front o o' := by
  obtain ⟨l, hobs, hl⟩ := h.trace
  intro e he
  rw [hobs, List.drop_left] at he
  exact hl e he

theorem Moves.holdsVeiled {P : TxItem → Prop} {R : PacketData → Prop} (h : Moves P (Veiled S Z front o) R o o')
    (hheld : HoldsVeiled S Z o) : HoldsVeiled S Z o' := by
  intro key seq bytes hholds
  rcases h.held key seq bytes hholds with hold | ⟨sideId, ty, hkey, hnumber, hmem⟩
  · obtain ⟨sideId, ty, hkey, hmem, hquiet⟩ := hheld key seq bytes hold
    exact ⟨sideId, ty, hkey, h.mem_obs hmem, hquiet⟩
  · exact ⟨sideId, ty, hkey, hmem, hnumber⟩

theorem HoldsVeiled.again (h : HoldsVeiled S Z o) {key : UInt64} {seq : UInt32} {bytes : Bytes} (hholds : o.Holds key seq bytes) :
    Veiled S Z front o (.transmit (sideOfKey key) bytes) := by
  obtain ⟨sideId, ty, rfl, hmem, hquiet⟩ := h key seq bytes hholds
  rw [sideOfKey_reliableKey]
  exact .inl ⟨ty, seq, hmem, hquiet⟩

end

end Owner

namespace Relay

section

variable (S : Schema) (Z : Codec) (E : Env) (r : Relay)

/-- A received announcement of a link-local endpoint is not taken off the queue while an unmarked side is open to it:
    one that is enabled, and that the rules for routes let it out to. -/
def Discreet (act : Act) : Prop :=
  act = .transmitNext → ∀ item ∈ r.txQueue.items.head?, item.srcSide.isSome = true → S.namesLinkLocal item.pkt = true →
    ∀ i < r.sides.length, r.egressSide (Int32.ofNat i) ≠ none → r.toOwner.goesTo S item (Int32.ofNat i) = true →
      r.toOwner.linkLocalAt (Int32.ofNat i) = true

instance (act : Act) : Decidable (r.Discreet S act) :=
  inferInstanceAs (Decidable (_ → ∀ item ∈ r.txQueue.items.head?, _))

variable {S Z r}

theorem Discreet.reveals (h : r.Discreet S .transmitNext) {item : TxItem} (hitem : item ∈ r.txQueue.items.head?)
    {sideId : Int32} {side : Side} (hside : r.egressSide sideId = some side) (hgoes : r.toOwner.goesTo S item sideId = true) :
    r.toOwner.reveals S item sideId = false := by
  unfold Owner.reveals
  cases hreceived : item.srcSide.isSome with
  | false => rfl
  | true =>
    cases hnames : S.namesLinkLocal item.pkt with
    | false => rfl
    | true =>
      obtain ⟨i, hi, rfl⟩ := Owner.sideAt_index (Owner.egressSide_spec hside).1
      have hopen : r.egressSide (Int32.ofNat i) ≠ none := by
        rw [hside]
        exact Option.some_ne_none side
      rw [h rfl item hitem hreceived hnames i hi hopen hgoes]
      rfl

theorem perform_hidden (hplain : S.PlainDiscovery) {act : Act} (hact : r.Discreet S act)
    (hheld : Owner.HoldsVeiled S Z r.toOwner) :
    Owner.Hidden S Z (r.drained act) r.toOwner (perform S Z E r act).toOwner ∧
      Owner.HoldsVeiled S Z (perform S Z E r act).toOwner := by
  have hsends : Sends (fun _ => True) (Owner.Veiled S Z (r.drained act) r.toOwner) S Z E r act := by
    constructor
    case silent => exact fun _ => .of_silent
    case hears => exact fun _ => trivial
    case configure => exact fun _ _ => trivial
    case routed => exact fun _ _ => trivial
    case back => exact fun _ _ _ _ _ => trivial
    case due =>
      rintro - key bytes ⟨-, tx, sent, seq, htx, hsent, hbytes, -⟩
      exact hheld.again ⟨tx, sent, htx, hsent, hbytes⟩
    case request =>
      rintro - item - sideId bytes ⟨-, -, -, -, -, -, hholds⟩
      have hagain : Owner.Veiled S Z (r.drained act) r.toOwner
          (.transmit (sideOfKey (reliableKey sideId (Owner.controlledType S item.pkt))) bytes) := hheld.again hholds
      rwa [Owner.sideOfKey_reliableKey] at hagain
    case carries =>
      rintro rfl item hitem sideId side hside hgoes
      exact Owner.Veiled.carries hplain hitem (hact.reveals hitem hside hgoes)
  have hmoves : Owner.Moves _ _ (fun _ => True) r.toOwner (perform S Z E r act).toOwner :=
    perform_moves S (Router.grants_of_silent hsends.silent) Z E hsends.demands
  exact ⟨hmoves.hidden, hmoves.holdsVeiled hheld⟩

end

end Relay

/-! ## Runs -/

/-- **A relay that is discreet tells no unmarked side of a link-local endpoint** in an announcement it forwards. -/
theorem forwardedDiscovery_hidden (S : Schema) (Z : Codec) (E : Env) (hplain : S.PlainDiscovery) (r : Relay)
    (acts : List Relay.Act) (hblank : r.toOwner.Blank) (hrun : Along (Relay.perform S Z E) (fun r act => r.Discreet S act) r acts) :
    ∀ before act after, acts = before ++ act :: after →
      Owner.Hidden S Z ((runFrom (Relay.perform S Z E) r before).drained act)
        (runFrom (Relay.perform S Z E) r before).toOwner (runFrom (Relay.perform S Z E) r (before ++ [act])).toOwner := by
  rintro before act after rfl
  have hstart : Owner.HoldsVeiled S Z r.toOwner := fun key seq bytes hholds => absurd hholds (hblank.not_holds key seq bytes)
  obtain ⟨hheld, hact⟩ := hrun.invariant_before (I := fun r => Owner.HoldsVeiled S Z r.toOwner) hstart
    fun r act hact hheld => (Relay.perform_hidden E hplain hact hheld).2
  rw [runFrom_append]
  exact (Relay.perform_hidden E hplain hact hheld).1

/-! ## An announcement from the board -/

/-- The board announces both of its endpoints. -/
def boardAnnouncement : PacketData :=
  ⟨SEDS_DT_DISCOVERY_ANNOUNCE, ascii "BOARD", [SEDS_EP_DISCOVERY], 7, appendLe32 100 ++ appendLe32 101⟩

def boardAnnouncementActs : List Relay.Act :=
  [.rxPacketFromSide 1 ⟨SEDS_DT_DISCOVERY_ANNOUNCE, ascii "BOARD", some [SEDS_EP_DISCOVERY], 7, some boardAnnouncement.payload, 8⟩,
    .receiveNext]

/-- The link to the board, and another one with a callback for packets. -/
def boardLinks (linkLocalEnabled : Bool) : List Side :=
  [⟨ascii "NET", false, true, false, linkLocalEnabled, true, true⟩,
    { Side.serialized (ascii "LL") false with linkLocalEnabled := true }]

theorem forwardedDiscovery_hidden_board :
    (runFrom (Relay.perform boardSchema (.absent 16) .calm) (.new (boardLinks true))
      (boardAnnouncementActs ++ [.transmitNext])).obs.filterMap Obs.calledSide = [0] ∧
    Owner.Hidden boardSchema (.absent 16)
      ((runFrom (Relay.perform boardSchema (.absent 16) .calm) (.new (boardLinks true)) boardAnnouncementActs).drained
        .transmitNext)
      (runFrom (Relay.perform boardSchema (.absent 16) .calm) (.new (boardLinks true)) boardAnnouncementActs).toOwner
      (runFrom (Relay.perform boardSchema (.absent 16) .calm) (.new (boardLinks true))
        (boardAnnouncementActs ++ [.transmitNext])).toOwner := by
  obtain ⟨hsent, hplain, hrun⟩ :
      (runFrom (Relay.perform boardSchema (.absent 16) .calm) (.new (boardLinks true))
        (boardAnnouncementActs ++ [.transmitNext])).obs.filterMap Obs.calledSide = [0] ∧
      boardSchema.PlainDiscovery ∧
      Along (Relay.perform boardSchema (.absent 16) .calm) (fun r act => r.Discreet boardSchema act)
        (.new (boardLinks true)) (boardAnnouncementActs ++ [.transmitNext]) := by
    decide +kernel
  exact ⟨hsent, forwardedDiscovery_hidden boardSchema (.absent 16) .calm hplain (.new (boardLinks true)) _
    ⟨rfl, rfl, rfl, rfl, rfl, rfl, rfl, rfl⟩ hrun boardAnnouncementActs .transmitNext [] rfl⟩

/-- The announcement reaches the callback of the network side as it was received, with the endpoint of the board. -/
theorem forwardedDiscovery_leaks :
    (runFrom (Relay.perform boardSchema (.absent 16) .calm) (.new (boardLinks false)) boardAnnouncementActs).toOwner.linkLocalAt 0
      = false ∧
    boardSchema.namedEndpoints boardAnnouncement = [100, 101] ∧ boardSchema.endpointLinkLocalOnly 101 = true ∧
    .packetTx 0 boardAnnouncement ∈ (runFrom (Relay.perform boardSchema (.absent 16) .calm) (.new (boardLinks false))
      (boardAnnouncementActs ++ [.transmitNext])).obs ∧
    ¬ Owner.Hidden boardSchema (.absent 16)
      ((runFrom (Relay.perform boardSchema (.absent 16) .calm) (.new (boardLinks false)) boardAnnouncementActs).drained
        .transmitNext)
      (runFrom (Relay.perform boardSchema (.absent 16) .calm) (.new (boardLinks false)) boardAnnouncementActs).toOwner
      (runFrom (Relay.perform boardSchema (.absent 16) .calm) (.new (boardLinks false))
        (boardAnnouncementActs ++ [.transmitNext])).toOwner := by
  obtain ⟨hmark, hnames, hlocal, hmem, hreveals, hnew⟩ :
      (runFrom (Relay.perform boardSchema (.absent 16) .calm) (.new (boardLinks false)) boardAnnouncementActs).toOwner.linkLocalAt 0
        = false ∧
      boardSchema.namedEndpoints boardAnnouncement = [100, 101] ∧ boardSchema.endpointLinkLocalOnly 101 = true ∧
      .packetTx 0 boardAnnouncement ∈ (runFrom (Relay.perform boardSchema (.absent 16) .calm) (.new (boardLinks false))
        (boardAnnouncementActs ++ [.transmitNext])).obs ∧
      (∀ item ∈ (runFrom (Relay.perform boardSchema (.absent 16) .calm) (.new (boardLinks false)) boardAnnouncementActs).drained
          .transmitNext,
        (runFrom (Relay.perform boardSchema (.absent 16) .calm) (.new (boardLinks false)) boardAnnouncementActs).toOwner.reveals
          boardSchema item 0 = true) ∧
      .packetTx 0 boardAnnouncement ∈ (runFrom (Relay.perform boardSchema (.absent 16) .calm) (.new (boardLinks false))
        (boardAnnouncementActs ++ [.transmitNext])).obs.drop
          (runFrom (Relay.perform boardSchema (.absent 16) .calm) (.new (boardLinks false)) boardAnnouncementActs).obs.length := by
    decide +kernel
  refine ⟨hmark, hnames, hlocal, hmem, ?_⟩
  intro hhidden
  obtain ⟨item, hitem, -, hquiet⟩ := hhidden _ hnew
  exact Bool.false_ne_true (hquiet.symm.trans (hreveals item hitem))

end SedsNet
