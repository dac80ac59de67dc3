import SedsNet.Accounts

/-!
# What is known stays consistent

Over every run of a router or relay the boards, the announcers and the routes say the same (`RoutesConsistent`), and a
sender that leaves is forgotten. A router does not listen to packets in its own name: a leave in that name is not for it,
and the boards that others have told of keep theirs.
-/

set_option autoImplicit false

namespace SedsNet

open Lib

theorem RoutesConsistent.empty : RoutesConsistent ∅ := fun _ h => nomatch h

/-- **A chain of operations keeps what is known consistent.** -/
theorem RoutesConsistent.learns {T : UInt64 → Prop} {routes routes' : Map Int32 DiscoveryRoute} (h : RoutesConsistent routes)
    (hsteps : Relation.ReflTransGen (Learns T) routes routes') : RoutesConsistent routes' := by
  induction hsteps with
  | refl => exact h
  | tail _ hstep ih => exact hstep.consistent ih

/-- A leave that is listened to. -/
theorem Owner.handleDiscoveryPacket_forgotten (S : Schema) (E : Env) (o : Owner) {self : Option Bytes} {pkt : PacketData}
    (sideId : Int32) (hleave : pkt.ty = kDiscoveryLeaveType) (hself : self ≠ some pkt.sender) :
    Forgotten pkt.sender (o.handleDiscoveryPacket S E self pkt (some sideId)).discoveryRoutes := by
  have hforgotten := pruneLeavingDiscoverySender_forgotten o.discoveryRoutes pkt.sender
  unfold handleDiscoveryPacket
  dsimp only
  rw [if_neg hself, if_pos hleave]
  unfold noteIfChanged
  split
  · exact hforgotten
  · exact hforgotten

/-- **What is known is consistent in every reachable state** of a router and of a relay, and a sender that leaves is
    forgotten at once, a router's own name apart. -/
theorem discovery_consistent (S : Schema) (Z : Codec) (E : Env) :
    (∀ (r : Router) (acts : List Router.Act), r.discoveryRoutes = ∅ →
      RoutesConsistent (runFrom (Router.perform S Z E) r acts).discoveryRoutes) ∧
    (∀ (r : Relay) (acts : List Relay.Act), r.discoveryRoutes = ∅ →
      RoutesConsistent (runFrom (Relay.perform S Z E) r acts).discoveryRoutes) ∧
    (∀ (r : Router) (pkt : PacketData) (sideId : Int32), pkt.ty = kDiscoveryLeaveType → pkt.sender ≠ r.sender →
      Forgotten pkt.sender (r.toOwner.handleDiscoveryPacket S E (some r.sender) pkt (some sideId)).discoveryRoutes) ∧
    ∀ (r : Relay) (pkt : PacketData) (sideId : Int32), pkt.ty = kDiscoveryLeaveType →
      Forgotten pkt.sender (r.toOwner.handleDiscoveryPacket S E none pkt (some sideId)).discoveryRoutes := by
  refine ⟨?_, ?_, ?_, ?_⟩
  · intro r acts hnew
    have hmoves := Router.run_moves S Z E r acts
    exact (hnew ▸ RoutesConsistent.empty).learns hmoves.routes
  · intro r acts hnew
    have hmoves := Relay.run_moves S Z E r acts
    exact (hnew ▸ RoutesConsistent.empty).learns hmoves.routes
  · intro r pkt sideId hleave hother
    exact Owner.handleDiscoveryPacket_forgotten S E r.toOwner sideId hleave fun h => hother (Option.some.inj h).symm
  · intro r pkt sideId hleave
    exact Owner.handleDiscoveryPacket_forgotten S E r.toOwner sideId hleave fun h => nomatch h

/-! ## A router that hears of itself -/

/-- A neighbour tells of its own board, and of the router's. -/
def neighbourBoards : List TopologyBoardNode :=
  [⟨ascii "B", [100], [], [ascii "R"]⟩, ⟨ascii "R", [101], [], [ascii "B"]⟩]

def neighbourTopology : SedsPacketView :=
  ⟨SEDS_DT_DISCOVERY_TOPOLOGY, ascii "B", some [SEDS_EP_DISCOVERY], 7, some (encodeDiscoveryTopology neighbourBoards),
    UInt64.ofNat (encodeDiscoveryTopology neighbourBoards).length⟩

def leave (sender : Bytes) : PacketData := ⟨kDiscoveryLeaveType, sender, [SEDS_EP_DISCOVERY], 9, []⟩

/-- The router `R` after it has heard its neighbour. -/
def tellingRouter : Router :=
  runFrom (Router.perform defaultTestSchema (.absent 16) .calm) (.new .Sink (ascii "R") [.serialized [] true] [])
    [.receiveFromSide 0 neighbourTopology]

/-- Whether a board of the sender is known. -/
def boardKnown (sender : Bytes) (routes : Map Int32 DiscoveryRoute) : Bool :=
  routes.entries.any fun e => e.2.announcers.entries.any fun a => a.2.topologyBoards.any (·.senderId == sender)

theorem discovery_consistent_neighbour :
    boardKnown (ascii "B") tellingRouter.discoveryRoutes = true ∧ RoutesConsistent tellingRouter.discoveryRoutes ∧
    Forgotten (ascii "B") (tellingRouter.toOwner.handleDiscoveryPacket defaultTestSchema .calm (some tellingRouter.sender)
      (leave (ascii "B")) (some 0)).discoveryRoutes ∧
    RoutesConsistent (runFrom (Relay.perform defaultTestSchema (.absent 16) .calm) Relay.gpsRelay gpsRelayActs).discoveryRoutes ∧
    Forgotten (ascii "B") (Relay.gpsRelay.toOwner.handleDiscoveryPacket defaultTestSchema .calm none
      (leave (ascii "B")) (some 0)).discoveryRoutes := by
  obtain ⟨hrouter, hrelay, hleaves, hleavesRelay⟩ := discovery_consistent defaultTestSchema (.absent 16) .calm
  have hrun : boardKnown (ascii "B") tellingRouter.discoveryRoutes = true ∧ (leave (ascii "B")).sender ≠ tellingRouter.sender := by
    unfold tellingRouter
    rw [defaultTestSchema_eq]
    decide +kernel
  obtain ⟨htold, hother⟩ := hrun
  have hheard : RoutesConsistent tellingRouter.discoveryRoutes := by
    unfold tellingRouter
    exact hrouter (.new .Sink (ascii "R") [.serialized [] true] []) [.receiveFromSide 0 neighbourTopology] rfl
  exact ⟨htold, hheard, hleaves tellingRouter (leave (ascii "B")) 0 rfl hother,
    hrelay _ gpsRelayActs rfl, hleavesRelay _ _ 0 rfl⟩

/-- A leave in the router's own name: its board is still known. -/
theorem discovery_ownLeave :
    ¬ Forgotten (ascii "R") (runFrom (Router.perform defaultTestSchema (.absent 16) .calm) tellingRouter
      [.receiveFromSide 0 ⟨kDiscoveryLeaveType, ascii "R", some [SEDS_EP_DISCOVERY], 9, some [], 0⟩]).discoveryRoutes := by
  intro hforgotten
  have hknown : boardKnown (ascii "R") (runFrom (Router.perform defaultTestSchema (.absent 16) .calm) tellingRouter
      [.receiveFromSide 0 ⟨kDiscoveryLeaveType, ascii "R", some [SEDS_EP_DISCOVERY], 9, some [], 0⟩]).discoveryRoutes = true := by
    unfold tellingRouter
    rw [defaultTestSchema_eq]
    decide +kernel
  obtain ⟨e, he, ha⟩ := List.any_eq_true.mp hknown
  obtain ⟨a, ha, hboard⟩ := List.any_eq_true.mp ha
  obtain ⟨board, hboard, hsender⟩ := List.any_eq_true.mp hboard
  exact ((hforgotten e he a ha).2 board hboard).1 (beq_iff_eq.mp hsender)

end SedsNet
