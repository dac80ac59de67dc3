import SedsNet.Link
import SedsNet.Sessions

/-!
# Peer-to-peer messages in a network

`seds_router_send_p2p_to_hostname` and `seds_router_send_p2p_to_address` look the destination up, and then queue a packet that
does not name it: it carries ports, and where it comes from. On a shared bus, or behind a relay, it comes to every router, and
`dispatch_p2p_packet` tells whoever has bound the port.

A network is any number of routers, and a run is a list of acts of theirs. What arrives at a router is not restricted, so the
runs cover every medium between the routers, relays included, whether it loses, repeats or reorders frames.
-/

set_option autoImplicit false

namespace SedsNet

open Lib Owner

/-! ## What is submitted -/

namespace Router

section

variable (S : Schema) (E : Env)

/-- The packet `enqueue_p2p_packet` makes. -/
def p2pPacket (r : Router) (dstPort srcPort : UInt16) (payload : Bytes) : PacketData :=
  let (address, r) := r.localP2pAddress
  makeInternalPacket S S.p2pTypeId (r.currentNetworkMs E).1 (encodeP2pPayload r.sender address srcPort dstPort payload) r.sender

/-- The packet of a message, once the peer is looked up. -/
def sentP2p (found : Option (Bytes × UInt32) × Router) (dstPort srcPort : UInt16) (payload : Bytes) : Option PacketData :=
  if found.1.isNone ∨ dstPort = 0 then none else some (found.2.p2pPacket S E dstPort srcPort payload)

/-- The packet an act submits to a peer. -/
def submits (r : Router) : Act → Option PacketData
  | .sendP2pToHostname hostname dstPort srcPort payload => sentP2p S E (r.resolveP2pHost hostname) dstPort srcPort payload
  | .sendP2pToAddress address dstPort srcPort payload => sentP2p S E (r.resolveP2pAddress address) dstPort srcPort payload
  | _ => none

end

section

variable {S : Schema} {Z : Codec} {E : Env}

/-- The members that a message leaves alone before it is queued. -/
theorem localP2pAddress_owner (r : Router) : r.localP2pAddress.2.toOwner = r.toOwner := by
  unfold localP2pAddress
  split
  · rfl
  · rfl

theorem currentNetworkMs_queue (r : Router) :
    (r.currentNetworkMs E).2.txQueue = r.txQueue ∧ (r.currentNetworkMs E).2.memory = r.memory := by
  unfold currentNetworkMs
  split
  · exact ⟨rfl, rfl⟩
  · exact ⟨rfl, rfl⟩

theorem currentNetworkMs_sender (r : Router) : (r.currentNetworkMs E).2.sender = r.sender := by
  unfold currentNetworkMs
  split
  · rfl
  · rfl

/-- What `enqueue_tx` makes of the queue depends on the queue and the budget only. -/
theorem enqueueTx_queue {o o' : Owner} (hqueue : o'.txQueue = o.txQueue) (hmemory : o'.memory = o.memory) (item : TxItem) :
    (o'.enqueueTx item).txQueue = (o.enqueueTx item).txQueue := by
  unfold enqueueTx enqueueTxAt
  rw [hqueue, hmemory]
  cases enqueueBounded TxItem.byteCost o.txQueue item false o.memory.maxQueueBudget with
  | none => exact hqueue
  | some queue => rfl

theorem enqueueP2pPacket_queue (r : Router) {dstPort : UInt16} (hport : dstPort ≠ 0) (srcPort : UInt16) (payload : Bytes) :
    (enqueueP2pPacket S E r dstPort srcPort payload).2.txQueue =
      (r.toOwner.enqueueTx ⟨r.p2pPacket S E dstPort srcPort payload, none, none, false⟩).txQueue := by
  have howner := localP2pAddress_owner r
  obtain ⟨hqueue, hmemory⟩ := currentNetworkMs_queue (E := E) r.localP2pAddress.2
  have hsender := currentNetworkMs_sender (E := E) r.localP2pAddress.2
  unfold enqueueP2pPacket p2pPacket
  rw [if_neg hport]
  dsimp only
  rw [setOwner_toOwner, hsender]
  apply enqueueTx_queue
  · rw [hqueue, howner]
  · rw [hmemory, howner]

theorem resolveP2pHost_owner (r : Router) (hostname : Bytes) : (r.resolveP2pHost hostname).2.toOwner = r.toOwner := by
  unfold resolveP2pHost
  split
  · exact localP2pAddress_owner r
  · rfl

theorem resolveP2pAddress_owner (r : Router) (address : UInt32) : (r.resolveP2pAddress address).2.toOwner = r.toOwner := by
  unfold resolveP2pAddress
  dsimp only
  split
  · exact localP2pAddress_owner r
  · exact localP2pAddress_owner r

theorem sendP2p_queue {found : Option (Bytes × UInt32) × Router} {dstPort srcPort : UInt16} {payload : Bytes} {pkt : PacketData}
    (h : sentP2p S E found dstPort srcPort payload = some pkt) :
    (sendP2p S E found dstPort srcPort payload).2.txQueue = (found.2.toOwner.enqueueTx ⟨pkt, none, none, false⟩).txQueue := by
  obtain ⟨peer, r⟩ := found
  unfold sentP2p at h
  split at h
  · cases h
  · rename_i hsent
    rw [not_or] at hsent
    cases h
    cases peer with
    | none => exact absurd rfl hsent.1
    | some peer => exact enqueueP2pPacket_queue r hsent.2 srcPort payload

/-- **What is submitted is what is queued.** -/
theorem submits_queued {r : Router} {act : Act} {pkt : PacketData} (h : r.submits S E act = some pkt) :
    (perform S Z E r act).txQueue = (r.toOwner.enqueueTx ⟨pkt, none, none, false⟩).txQueue := by
  cases act with
  | sendP2pToHostname hostname dstPort srcPort payload =>
    rw [← resolveP2pHost_owner r hostname]
    exact sendP2p_queue h
  | sendP2pToAddress address dstPort srcPort payload =>
    rw [← resolveP2pAddress_owner r address]
    exact sendP2p_queue h
  | _ => cases h

end

end Router

/-! ## Networks -/

/-- The routers of a network. -/
abbrev Net := Nat → Router

namespace Net

/-- The act sends to the host: by its name, or by the address of the router of that name. -/
inductive Addresses (net : Net) (host : Bytes) : Router.Act → Prop where
  | hostname (dstPort srcPort : UInt16) (payload : Bytes) : Addresses net host (.sendP2pToHostname host dstPort srcPort payload)
  | address (i : Nat) (hname : (net i).sender = host) (dstPort srcPort : UInt16) (payload : Bytes) :
      Addresses net host (.sendP2pToAddress (net i).localP2pAddress.1 dstPort srcPort payload)

section

variable (S : Schema) (Z : Codec) (E : Nat → Env)

/-- An act of one router. -/
def step (net : Net) (p : Nat × Router.Act) : Net := Function.update net p.1 (Router.perform S Z (E p.1) (net p.1) p.2)

/-- The message was submitted to the host in the run. -/
def Submitted (net : Net) (run : List (Nat × Router.Act)) (host message : Bytes) : Prop :=
  ∃ before i act after, run = before ++ (i, act) :: after ∧ Addresses (runFrom (step S Z E) net before) host act ∧
    ∃ pkt, (runFrom (step S Z E) net before i).submits S (E i) act = some pkt ∧ pkt.payload = message

/-- After the run, router `j` takes a packet with a message that was submitted, and to others only. -/
def TakesForeign (net : Net) (run : List (Nat × Router.Act)) (j : Nat) (act : Router.Act) (pkt : PacketData) : Prop :=
  ∃ srcSide, (runFrom (step S Z E) net run j).taken S Z act = some (pkt, srcSide) ∧
    (∃ host, Submitted S Z E net run host pkt.payload) ∧
    ¬ Submitted S Z E net run (runFrom (step S Z E) net run j).sender pkt.payload

/-- Whatever is taken and was meant for others is seen already, or there is no handler for it. -/
def Unheard (net : Net) (run : List (Nat × Router.Act)) (j : Nat) (act : Router.Act) : Prop :=
  ∀ pkt, TakesForeign S Z E net run j act pkt → packetId S pkt ∉ (runFrom (step S Z E) net run j).recentSet →
    ∀ e ∈ (runFrom (step S Z E) net run j).eventOf pkt, (runFrom (step S Z E) net run j).listensTo e = false

end

/-! ## Three routers on a bus -/

/-- `A` is router 0, `B` router 1, and all others are `C`. -/
def bus : Net
  | 0 => .new .Sink (ascii "A") [.serialized [] true] []
  | 1 => .new .Sink (ascii "B") [.serialized [] true] []
  | _ => .new .Sink (ascii "C") [.serialized [] true] []

/-- `A` has heard of `B`, sends it a message for port 8, and the frame goes onto the bus. -/
def busRun : List (Nat × Router.Act) :=
  [(0, .receiveFromSide 0 (Router.messageFrom (ascii "B") [1])), (0, .sendP2pToHostname (ascii "B") 8 7 [42]), (0, .transmitNext)]

/-- The same with a handler at port 8 of `C`. -/
def boundRun : List (Nat × Router.Act) := (2, .setUp (.bindP2pPort 8)) :: busRun

/-- The packet of the message, the frame `A` sends, and the packet that others read from it: names travel as addresses. -/
def busPacket : PacketData :=
  ⟨1018, ascii "A", [201], 0, encodeP2pPayload (ascii "A") (addressForSender (ascii "A")) 7 8 [42]⟩

def busFrame : Bytes := serializePacketWithReliable defaultTestSchema (.absent 16) busPacket ⟨0, 1, 0⟩

def readPacket : PacketData := { busPacket with sender := ascii "@addr:2815558820" }

abbrev afterRun (run : List (Nat × Router.Act)) : Net := runFrom (step defaultTestSchema (.absent 16) fun _ => .calm) bus run

/-- The message is submitted to `B`, and to nobody else. -/
theorem submitted_bus {run : List (Nat × Router.Act)} (h : ∀ p ∈ run, p ∈ boundRun) {host message : Bytes}
    (hsubmitted : Submitted defaultTestSchema (.absent 16) (fun _ => .calm) bus run host message) : host = ascii "B" := by
  obtain ⟨before, i, act, after, rfl, haddresses, -⟩ := hsubmitted
  have hmem := h (i, act) (List.mem_append_right _ List.mem_cons_self)
  unfold boundRun busRun at hmem
  cases haddresses with
  | hostname dstPort srcPort payload =>
    simp at hmem
    exact hmem.2.1
  | address j hname dstPort srcPort payload => simp at hmem

theorem listensTo_of_unbound {r : Router} (h : r.p2pHandlers.entries = []) (h' : r.p2pStreamHandlers.entries = []) (e : Obs) :
    r.listensTo e = false := by
  have hdatagrams : r.p2pHandlers = ∅ := AList.ext h
  have hstreams : r.p2pStreamHandlers = ∅ := AList.ext h'
  unfold Router.listensTo
  rw [hdatagrams, hstreams]
  cases e <;> rfl

/-- The run in which `C` takes the frame. -/
def takenRun : List (Nat × Router.Act) := busRun ++ [(2, .receiveSerializedFromSide 0 busFrame)]

/-- Nobody ever has a handler in it. -/
theorem takenRun_unheard (before : List (Nat × Router.Act)) (j : Nat) (act : Router.Act) (after : List (Nat × Router.Act))
    (h : takenRun = before ++ (j, act) :: after) : Unheard defaultTestSchema (.absent 16) (fun _ => .calm) bus before j act := by
  have hunbound : ∀ n < 4, ∀ j < 3, (afterRun (takenRun.take n) j).p2pHandlers.entries = [] ∧
      (afterRun (takenRun.take n) j).p2pStreamHandlers.entries = [] := by
    unfold takenRun busFrame afterRun
    rw [defaultTestSchema_eq]
    decide +kernel
  have hlength : before.length < 4 := by
    have htotal := congrArg List.length h
    rw [List.length_append, List.length_cons] at htotal
    have hfour : takenRun.length = 4 := rfl
    omega
  have hbefore : before = takenRun.take before.length := by rw [h, List.take_left]
  have hj : j < 3 := by
    have hmem : (j, act) ∈ takenRun := h ▸ List.mem_append_right _ List.mem_cons_self
    have hall : ∀ p ∈ takenRun, p.1 < 3 := by decide +kernel
    exact hall (j, act) hmem
  obtain ⟨hdatagrams, hstreams⟩ := hunbound before.length hlength j hj
  rw [← hbefore] at hdatagrams hstreams
  intro pkt _ _ e _
  exact listensTo_of_unbound hdatagrams hstreams e

end Net

end SedsNet
