import SedsNet.Relay.Api
import SedsNet.Router.Moves

/-!
# What a call can do to a relay

`SedsNet.Router.Moves` for relays: what is allowed to every act (`Router.Grants` says it for both), what one act
needs besides, and `Relay.perform_moves`.
-/

set_option autoImplicit false

namespace SedsNet

open Owner

variable {P : TxItem → Prop} {Q : Obs → Prop} {R : PacketData → Prop}

namespace Owner

variable (S : Schema) (C : Controls P Q S) (Z : Codec) (E : Env)

theorem relayDuplicate_emits (o : Owner) (sideId : UInt32) (frame : FrameInfoLite) {bytes : Bytes} (hparses : Parses Q S Z bytes)
    (hhash : ∀ pkt, SedsNet.deserializePacket S Z bytes = some pkt →
      Q (.hash (pkt.endpoints.map fun ep => S.kEndpointNames[ep.toNat]?)))
    (hremember : ∀ id, Q (.remember id)) : Emits P Q o (o.relayDuplicate S Z sideId frame bytes).2 := by
  unfold relayDuplicate
  cases frame.reliable with
  | some hdr => exact .refl o
  | none =>
    have hid : Emits P Q o (o.packetIdFromWire S Z bytes).2 :=
      packetIdFromWire_emits S Z o hparses fun pkt o hpkt => .observe o (hhash pkt hpkt)
    dsimp only
    generalize o.packetIdFromWire S Z bytes = p at hid ⊢
    obtain ⟨id, o'⟩ := p
    cases id with
    | none => exact hid
    | some id =>
      dsimp only at hid ⊢
      split
      · exact hid
      · exact hid.trans (pushRecent_emits o' (hremember _))

include C

theorem relayRxSerializedFromSide_performs (o : Owner) (sideId : UInt32) {bytes : Bytes} (hpeeks : Peeks Q S Z bytes)
    (hparses : Parses Q S Z bytes)
    (hpkt : ∀ pkt, SedsNet.deserializePacket S Z bytes = some pkt →
      R pkt ∧ Q (.hash (pkt.endpoints.map fun ep => S.kEndpointNames[ep.toNat]?)))
    (hremember : ∀ id, Q (.remember id)) (hlost : ∀ x, Q (.lost x)) :
    Performs P Q R o (o.relayRxSerializedFromSide S Z E sideId bytes).2 := by
  have hpeeked : Performs P Q R o (o.peekFrameInfo S Z bytes).2 := (Emits.observe o hpeeks).performs
  unfold relayRxSerializedFromSide
  generalize o.peekFrameInfo S Z bytes = p at hpeeked ⊢
  obtain ⟨frame, o₁⟩ := p
  cases frame with
  | none => exact hpeeked
  | some frame =>
    dsimp only at hpeeked ⊢
    split
    · exact hpeeked
    · cases hack : frame.ackOnly with
      | true => exact hpeeked.trans (ingestAck_emits S E o₁ sideId hack bytes).performs
      | false =>
        rw [if_neg (by simp)]
        have hchecked := hpeeked.trans (relayDuplicate_emits (P := P) (Q := Q) S Z o₁ sideId frame
          hparses (fun pkt h => (hpkt pkt h).2) hremember).performs
        generalize o₁.relayDuplicate S Z sideId frame bytes = p at hchecked ⊢
        obtain ⟨duplicate, o₂⟩ := p
        cases duplicate with
        | true => exact hchecked
        | false =>
          apply hchecked.trans
          apply ingestFrame_performs S C Z E o₂ sideId.toInt32 frame hparses fun pkt h => (hpkt pkt h).1
          intro pkt o₃ hdecoded
          exact enqueueAndFlush_performs false o₃ (hpkt pkt hdecoded).1 hlost

end Owner

namespace Relay

section

variable (P : TxItem → Prop) (Q : Obs → Prop) (R : PacketData → Prop) (S : Schema) (Z : Codec) (E : Env)

/-- What one act needs, in the state it is taken in. -/
def Demands (r : Relay) : Act → Prop
  | .configure _ => Q .configures
  | .rxSerializedFromSide _ bytes =>
    Peeks Q S Z bytes ∧ Parses Q S Z bytes ∧ (∀ id, Q (.remember id)) ∧
      ∀ pkt, deserializePacket S Z bytes = some pkt →
        R pkt ∧ Q (.hash (pkt.endpoints.map fun ep => S.kEndpointNames[ep.toNat]?))
  | .rxPacketFromSide _ view => ∀ pkt, packetFromView S view = some pkt → R pkt
  | .reliableTimeouts => ∀ key bytes, r.HoldsDue (r.nowMs E).1 key bytes → Q (.transmit (sideOfKey key) bytes)
  | .receiveNext => (∀ x, Q (.receive x)) ∧ ∀ item ∈ r.rxQueue.items.head?, Receives P Q S E r item.pkt item.srcSide
  | .transmitNext => ∀ item ∈ r.txQueue.items.head?, Transmits Q S Z r item
  | _ => True

end

/-- `Router.Sends` for relays. -/
structure Sends (P : TxItem → Prop) (Q : Obs → Prop) (S : Schema) (Z : Codec) (E : Env) (r : Relay) (act : Act) : Prop where
  silent : ∀ e : Obs, e.silent = true → Q e
  hears : ∀ read, Q (.hears read (E.clock read))
  configure : ∀ setting, act = .configure setting → Q .configures
  routed : ∀ item : TxItem, item.dstSide = none → P item
  due : act = .reliableTimeouts → ∀ key bytes, r.HoldsDue (r.nowMs E).1 key bytes → Q (.transmit (sideOfKey key) bytes)
  request : act = .receiveNext → ∀ item ∈ r.rxQueue.items.head?, ∀ sideId bytes,
    Requests S r.toOwner item.pkt item.srcSide sideId bytes → Q (.transmit sideId bytes)
  back : act = .receiveNext → ∀ item ∈ r.rxQueue.items.head?, ∀ sideId, returnSide r item.pkt = some sideId →
    P ⟨item.pkt, item.srcSide, some sideId, false⟩
  carries : act = .transmitNext → ∀ item ∈ r.txQueue.items.head?, ∀ sideId side, r.egressSide sideId = some side →
    r.toOwner.goesTo S item sideId = true → Carries Q S Z sideId item

theorem Sends.demands {S : Schema} {Z : Codec} {E : Env} {r : Relay} {act : Act} (h : Sends P Q S Z E r act) :
    Demands P Q (fun _ => True) S Z E r act := by
  cases act with
  | configure setting => exact h.configure setting rfl
  | rxSerializedFromSide sideId bytes =>
    exact ⟨h.silent _ rfl, h.silent _ rfl, fun _ => h.silent _ rfl, fun _ _ => ⟨trivial, h.silent _ rfl⟩⟩
  | rxPacketFromSide sideId view => exact fun _ _ => trivial
  | reliableTimeouts => exact h.due rfl
  | receiveNext =>
    refine ⟨fun _ => h.silent _ rfl, fun item hitem => ?_⟩
    exact ⟨fun o => .observe o (h.silent _ rfl), fun o => .observe o (h.silent _ rfl), fun _ => h.routed _ rfl,
      h.back rfl item hitem, h.request rfl item hitem, h.hears⟩
  | transmitNext =>
    intro item hitem
    exact ⟨h.carries rfl item hitem, h.silent _ rfl⟩
  | _ => trivial

variable (S : Schema) (G : Router.Grants P Q S) (Z : Codec) (E : Env)

include G

omit G in
theorem receiveNext_performs {r : Relay} (hreceive : ∀ x, Q (.receive x)) (h : ∀ item ∈ r.rxQueue.items.head?, Receives P Q S E r item.pkt item.srcSide) :
    Owner.Performs P Q R r.toOwner (r.receiveNext S E).toOwner := by
  unfold receiveNext
  cases hpop : r.rxQueue.pop RxItem.byteCost with
  | none => exact .refl _
  | some p =>
    obtain ⟨item, queue⟩ := p
    have hreceives := h item (head?_of_pop hpop)
    have htaken : Owner.Performs P Q R r.toOwner ({ r.toOwner with rxQueue := queue }.observe (.receive item)) :=
      (popRx_performs hpop).2.trans (Emits.observe _ (hreceive item)).performs
    apply htaken.trans
    refine (relayReceiveImpl_emits (r := { r with toOwner := { r.toOwner with rxQueue := queue }.observe (.receive item) })
      ?_).performs
    exact ⟨hreceives.id, hreceives.source, hreceives.forward, hreceives.back, hreceives.request, hreceives.hears⟩

/-- **Every act** moves what is granted to all acts and demanded for this one, and defers no transmission unless one is going on. -/
theorem perform_performs {r : Relay} {act : Act} (h : Demands P Q R S Z E r act) (hact : ∀ active, act ≠ .sideTx active) :
    Owner.Performs P Q R r.toOwner (perform S Z E r act).toOwner := by
  cases act with
  | configure setting =>
    exact (Emits.observe _ h).performs.trans (configure_performs S E h (r.toOwner.observe .configures) setting)
  | announceDiscovery => exact queueDiscoveryPackets_performs S E _ G.discovery G.topology r.toOwner
  | pollDiscovery => exact pollDiscovery_performs S E _ G.discovery G.topology r.toOwner
  | rxSerializedFromSide sideId bytes =>
    exact relayRxSerializedFromSide_performs S G.allows.controls Z E r.toOwner sideId h.1 h.2.1 h.2.2.2 h.2.2.1 G.lost
  | rxPacketFromSide sideId view => exact rxPacketFromSide_performs S r.toOwner sideId h G.lost
  | reliableTimeouts => exact (doReliableTimeouts_emits E r.toOwner h).performs
  | receiveNext => exact receiveNext_performs S E h.1 h.2
  | transmitNext => exact (transmitNext_emits S Z E h).performs
  | sideTx active => exact absurd rfl (hact active)

/-- So does the begin or end of a callback. -/
theorem perform_moves {r : Relay} {act : Act} (h : Demands P Q R S Z E r act) :
    Owner.Moves P Q R r.toOwner (perform S Z E r act).toOwner := by
  by_cases hact : ∃ active, act = .sideTx active
  · obtain ⟨active, rfl⟩ := hact
    exact .sideTx r.toOwner active
  · exact (perform_performs S G Z E h fun active heq => hact ⟨active, heq⟩).toMoves

end Relay

end SedsNet
