import SedsNet.Router.Api
import SedsNet.Lib.Machine

/-!
# The books of a router

A router keeps two sets of books that only a few functions write: what it knows about time (`timesync`), and the packets that
wait for end-to-end ACKs, with the order in which they were remembered. `BookEvent` lists the functions that write them, and
every act of a router is a sequence of such events with something in between that leaves the books alone (`perform_books`).
What every event keeps, every run keeps.
-/

set_option autoImplicit false

namespace SedsNet

open Lib

namespace Router

/-- The members that this module is about. -/
def books (r : Router) : TimeSyncRuntime × Map UInt64 EndToEndReliableSent × List UInt64 :=
  (r.timesync, r.endToEndReliableTx, r.endToEndReliableTxOrder)

@[simp] theorem setOwner_books (r : Router) (o : Owner) : (r.setOwner o).books = r.books := rfl

section

variable (S : Schema) (Z : Codec) (E : Env) (r : Router)

/-! ## What leaves the books alone -/

@[simp] theorem currentNetworkMs_books : (r.currentNetworkMs E).2.books = r.books := by
  unfold currentNetworkMs
  split <;> rfl

@[simp] theorem localP2pAddress_books : r.localP2pAddress.2.books = r.books := by
  unfold localP2pAddress
  split <;> rfl

@[simp] theorem enqueueP2pPacket_books (dstPort srcPort : UInt16) (payload : Bytes) :
    (enqueueP2pPacket S E r dstPort srcPort payload).2.books = r.books := by
  unfold enqueueP2pPacket
  split
  · rfl
  · simp

@[simp] theorem callStreamHandlers_books (port : UInt16) (kind : UInt8) (streamId : UInt32) (payload : Bytes) :
    (r.callStreamHandlers E port kind streamId payload).2.books = r.books := rfl

theorem dispatchSyn_books (msg : P2pDatagram) (frame : P2pStreamFrame) : (dispatchSyn S E r msg frame).2.books = r.books := by
  have hopen : (dispatchSyn.openSession S E msg frame r).2.books = r.books := by
    unfold dispatchSyn.openSession
    dsimp only
    split
    · rfl
    · split
      · rfl
      · exact enqueueP2pPacket_books S E _ _ _ _
  unfold dispatchSyn
  split
  · split
    · exact enqueueP2pPacket_books S E _ _ _ _
    · exact hopen
  · exact hopen

theorem dispatchSynAck_books (frame : P2pStreamFrame) : (dispatchSynAck E r frame).2.books = r.books := by
  unfold dispatchSynAck
  split <;> rfl

theorem dispatchStreamData_books (msg : P2pDatagram) (frame : P2pStreamFrame) :
    (dispatchStreamData E r msg frame).2.books = r.books := by
  unfold dispatchStreamData
  dsimp only
  generalize (if frame.flags &&& kP2pStreamRst ≠ 0 then 5 else if frame.flags &&& kP2pStreamFin ≠ 0 then 4 else 3 : UInt8) = kind
  generalize (if frame.destinationStreamId = 0 then (r.findSession msg frame).getD 0 else frame.destinationStreamId) = sessionId
  split
  · rfl
  · split
    · rfl
    · split <;> rfl

theorem dispatchP2pPacket_books (pkt : PacketData) : (dispatchP2pPacket S E r pkt).2.books = r.books := by
  have hlearn : ∀ msg, (r.learnPeer msg).books = r.books := by
    intro msg
    unfold learnPeer
    split <;> rfl
  unfold dispatchP2pPacket
  split
  · rfl
  · rename_i msg hmsg
    dsimp only
    split
    · rename_i frame hframe
      unfold dispatchP2pStream
      split
      · exact hlearn msg
      · split
        · exact (dispatchSyn_books S E _ msg frame).trans (hlearn msg)
        · split
          · exact (dispatchSynAck_books E _ frame).trans (hlearn msg)
          · exact (dispatchStreamData_books E _ msg frame).trans (hlearn msg)
    · exact hlearn msg

@[simp] theorem rememberManagedVariablePacket_books (pkt : PacketData) :
    (r.rememberManagedVariablePacket S Z E pkt).books = r.books := by
  unfold rememberManagedVariablePacket
  dsimp only
  split
  · split <;> rfl
  · rfl

theorem handleManagedVariableRequest_books {pkt : PacketData} {srcSide : Option Int32} {r' : Router}
    (h : handleManagedVariableRequest S r pkt srcSide = some r') : r'.books = r.books := by
  unfold handleManagedVariableRequest at h
  split at h
  · cases h
  · split at h
    · rw [← Option.some.inj h]
    · dsimp only at h
      split at h
      · rw [← Option.some.inj h]
      · rw [← Option.some.inj h]
        rfl

theorem handleTimeSyncRequest_books (now : UInt64) (pkt : PacketData) (srcSide : Option Int32) :
    (handleTimeSyncRequest S E r now pkt srcSide).books = r.books := by
  have hfirst := currentNetworkMs_books E r
  have hsecond := currentNetworkMs_books E (r.currentNetworkMs E).2
  unfold handleTimeSyncRequest
  split
  · dsimp only
    rw [setOwner_books]
    exact hsecond.trans hfirst
  · rfl

theorem deliver_books (pkt : PacketData) (srcSide : Option Int32) : (deliver S Z E r pkt srcSide).books = r.books := by
  unfold deliver
  dsimp only
  generalize hr₁ : (r.setOwner (Owner.dispatchLocalPacketHandlers S E r.deviceIdentifier r.locals pkt r.toOwner).2).rememberManagedVariablePacket
    S Z E pkt = r₁
  have hbooks₁ : r₁.books = r.books := by
    rw [← hr₁]
    exact rememberManagedVariablePacket_books S Z E _ pkt
  generalize hr₂ : (if srcSide.isSome && r.hasLocalHandler pkt && S.isReliableType pkt.ty then
    r₁.setOwner (queueEndToEndAck S E r₁.toOwner pkt srcSide) else r₁) = r₂
  have hbooks₂ : r₂.books = r₁.books := by
    rw [← hr₂]
    split <;> rfl
  split
  · exact hbooks₂.trans hbooks₁
  · exact hbooks₂.trans hbooks₁

theorem sendP2p_books {found : Option (Bytes × UInt32) × Router} (h : found.2.books = r.books) (dstPort srcPort : UInt16)
    (payload : Bytes) : (sendP2p S E found dstPort srcPort payload).2.books = r.books := by
  obtain ⟨peer, r'⟩ := found
  cases peer with
  | none => exact h
  | some peer => exact (enqueueP2pPacket_books S E r' dstPort srcPort payload).trans h

theorem resolveP2pHost_books (hostname : Bytes) : (r.resolveP2pHost hostname).2.books = r.books := by
  unfold resolveP2pHost
  split
  · exact localP2pAddress_books r
  · rfl

theorem resolveP2pAddress_books (address : UInt32) : (r.resolveP2pAddress address).2.books = r.books := by
  unfold resolveP2pAddress
  dsimp only
  split
  · exact localP2pAddress_books r
  · exact localP2pAddress_books r

theorem openP2pStream_books {found : Option (Bytes × UInt32) × Router} (h : found.2.books = r.books) (dstPort srcPort : UInt16) :
    (openP2pStream S E found dstPort srcPort).2.books = r.books := by
  obtain ⟨peer, r'⟩ := found
  cases peer with
  | none => exact h
  | some peer =>
    unfold openP2pStream
    dsimp only
    split
    · exact h
    · split
      · exact h
      · exact (enqueueP2pPacket_books S E _ _ _ _).trans h

theorem sendP2pStreamControl_books (streamId : UInt32) (flags : UInt8) (payload : Bytes) :
    (sendP2pStreamControl S E r streamId flags payload).2.books = r.books := by
  unfold sendP2pStreamControl
  split
  · rfl
  · rename_i session hsession
    dsimp only
    generalize (if session.nextSequence + 1 = 0 then 1 else session.nextSequence + 1 : UInt32) = next
    split
    · exact enqueueP2pPacket_books S E _ _ _ _
    · exact enqueueP2pPacket_books S E _ _ _ _

@[simp] theorem queueManagedRequest_books (ty : UInt32) : (queueManagedRequest S E r ty).2.books = r.books := by
  unfold queueManagedRequest
  split
  · rfl
  · simp

theorem requestManagedVariable_books (ty : UInt32) : (requestManagedVariable S E r ty).2.books = r.books := by
  unfold requestManagedVariable
  split
  · rfl
  · dsimp only
    split
    · rfl
    · exact queueManagedRequest_books S E _ ty

theorem rememberManagedPacket_books (pkt : PacketData) : (rememberManagedPacket S Z E r pkt).2.books = r.books := by
  unfold rememberManagedPacket
  split
  · rfl
  · exact rememberManagedVariablePacket_books S Z E _ pkt

theorem setNetworkVariablePacked_books (bytes : Bytes) : (setNetworkVariablePacked S Z E r bytes).2.books = r.books := by
  unfold setNetworkVariablePacked
  split
  · rfl
  · rename_i pkt o hpkt
    dsimp only
    split
    · rfl
    · split
      · exact rememberManagedPacket_books S Z E _ pkt
      · exact rememberManagedPacket_books S Z E _ pkt

theorem seedManagedVariablePacked_books (bytes : Bytes) : (seedManagedVariablePacked S Z E r bytes).2.books = r.books := by
  unfold seedManagedVariablePacked
  split
  · rfl
  · exact rememberManagedPacket_books S Z E _ _

theorem getNetworkVariablePacked_books (ty staleAfterMs : UInt32) :
    (getNetworkVariablePacked S E r ty staleAfterMs).2.books = r.books := by
  unfold getNetworkVariablePacked
  split
  · rfl
  · split
    · exact queueManagedRequest_books S E r ty
    · split
      · rfl
      · dsimp only
        split
        · exact queueManagedRequest_books S E _ ty
        · rfl

theorem logBytesEx_books (ty : UInt32) (data : Bytes) (timestamp : Option UInt64) (queue : Bool) :
    (logBytesEx S Z E r ty data timestamp queue).2.books = r.books := by
  unfold logBytesEx
  split
  · rfl
  · cases timestamp <;> rfl

theorem transmitMessageQueue_books (view : SedsPacketView) : (transmitMessageQueue S r view).2.books = r.books := by
  unfold transmitMessageQueue
  split <;> rfl

theorem transmitMessage_books (view : SedsPacketView) : (transmitMessage S E r view).2.books = r.books := by
  unfold transmitMessage
  split
  · rfl
  · split
    · rfl
    · exact transmitMessageQueue_books S r view

theorem transmitSerializedMessageQueue_books (bytes : Bytes) : (transmitSerializedMessageQueue S Z r bytes).2.books = r.books := by
  unfold transmitSerializedMessageQueue
  split <;> rfl

theorem rxSerializedPacketToQueue_books (bytes : Bytes) : (rxSerializedPacketToQueue S Z r bytes).2.books = r.books := by
  unfold rxSerializedPacketToQueue
  split <;> rfl

theorem rxPacketToQueue_books (view : SedsPacketView) : (rxPacketToQueue S r view).2.books = r.books := by
  unfold rxPacketToQueue
  split <;> rfl

theorem showFrame_books (bytes : Bytes) : (showFrame S Z E r bytes).books = r.books := by
  unfold showFrame
  split
  · rfl
  · dsimp only
    split
    · rfl
    · split <;> rfl

theorem deliverLocal_books (item : TxItem) : (deliverLocal S Z E r item).2.books = r.books := by
  unfold deliverLocal
  split
  · dsimp only
    split <;> rfl
  · rfl

end

/-! ## What writes them -/

/-- Anything that leaves the books alone. -/
structure BooksKept where
  change : Router → Router
  books : ∀ r, (change r).books = r.books

/-- The functions that write the books. -/
inductive BookEvent where
  | rememberEndToEnd (pkt : PacketData) (pending : Map UInt64 Int32)
  | endToEndAck (pkt : PacketData)
  | endToEndTimeouts
  | timesyncPacket (pkt : PacketData) (srcSide : Option Int32)
  | pollTimesync
  | configureTimesync (enabled : Bool) (role : UInt32)
      (priority sourceTimeoutMs announceIntervalMs requestIntervalMs : UInt64)
  | getNetworkTimeMs
  | setLocalNetworkTime (unixMs : UInt64)
  | clearLocalNetworkTime
  | clearNetworkTimeSource (source : Bytes)
  | elsewhere (f : BooksKept)

/-- Only packets that somebody is expected to acknowledge are remembered, and they only where `T` allows it. -/
def BookEvent.Sound (T : Prop) : BookEvent → Prop
  | .rememberEndToEnd _ pending => T ∧ pending.entries ≠ []
  | _ => True

section

variable {T : Prop} (S : Schema) (Z : Codec) (E : Env)

def bookStep (r : Router) : BookEvent → Router
  | .rememberEndToEnd pkt pending => r.rememberEndToEnd S E pkt pending
  | .endToEndAck pkt => r.handleEndToEndAck pkt
  | .endToEndTimeouts => r.processEndToEndReliableTimeouts S E
  | .timesyncPacket pkt srcSide => r.handleTimesyncPacket S E pkt srcSide
  | .pollTimesync => r.pollTimesync S E
  | .configureTimesync enabled role priority sourceTimeoutMs announceIntervalMs requestIntervalMs =>
    r.configureTimesync E enabled role priority sourceTimeoutMs announceIntervalMs requestIntervalMs
  | .getNetworkTimeMs => (r.getNetworkTimeMs E).2
  | .setLocalNetworkTime unixMs => r.setLocalNetworkTime E unixMs
  | .clearLocalNetworkTime => r.clearLocalNetworkTime
  | .clearNetworkTimeSource source => r.clearNetworkTimeSource source
  | .elsewhere f => f.change r

/-- From `r` to `r'` the books are written by these functions only. -/
def Writes (T : Prop) (r r' : Router) : Prop :=
  ∃ events : List BookEvent, (∀ e ∈ events, e.Sound T) ∧ runFrom (bookStep S E) r events = r'

variable {S E}

namespace Writes

theorem trans {r r' r'' : Router} (h : Writes S E T r r') (h' : Writes S E T r' r'') : Writes S E T r r'' := by
  obtain ⟨events, hsound, hrun⟩ := h
  obtain ⟨events', hsound', hrun'⟩ := h'
  refine ⟨events ++ events', ?_, ?_⟩
  · intro e he
    exact (List.mem_append.mp he).elim (hsound e) (hsound' e)
  · rw [runFrom_append, hrun, hrun']

theorem event (r : Router) {e : BookEvent} (hsound : e.Sound T) : Writes S E T r (bookStep S E r e) := by
  refine ⟨[e], ?_, rfl⟩
  intro e' he'
  rw [List.mem_singleton.mp he']
  exact hsound

open Classical in
theorem keeps {r r' : Router} (h : r'.books = r.books) : Writes S E T r r' := by
  have hchange : ∀ x, (if x = r then r' else x).books = x.books := by
    intro x
    split
    · rename_i hx
      rw [hx, h]
    · rfl
  refine ⟨[.elsewhere ⟨fun x => if x = r then r' else x, hchange⟩], ?_, if_pos rfl⟩
  intro e he
  rw [List.mem_singleton.mp he]
  trivial

end Writes

variable (S E)

theorem trackEndToEnd_writes (hT : T) (r : Router) (pkt : PacketData) (sides : List Int32) : Writes S E T r (r.trackEndToEnd S E pkt sides) := by
  unfold trackEndToEnd
  split
  · dsimp only
    split
    · exact .keeps rfl
    · rename_i hpending
      have hsound : (BookEvent.rememberEndToEnd pkt (r.toOwner.expectedEndToEndDestinations S E pkt).1).Sound T :=
        ⟨hT, fun hnone => hpending (List.isEmpty_iff.mpr hnone)⟩
      exact (Writes.keeps (setOwner_books r _)).trans (.event _ hsound)
  · exact .keeps rfl

theorem transmitItem_writes (hT : T) (r : Router) (item : TxItem) : Writes S E T r (r.transmitItem S Z E item).2 := by
  have hlocal := deliverLocal_books S Z E r item
  unfold transmitItem
  generalize deliverLocal S Z E r item = p at hlocal
  obtain ⟨ok, r₁⟩ := p
  cases ok with
  | false => exact .keeps hlocal
  | true =>
    have hstart : Writes S E T r (r₁.setOwner (r₁.toOwner.targets S E item (r₁.preferredSource item.pkt)).2) := .keeps hlocal
    exact (hstart.trans (trackEndToEnd_writes S E hT _ item.pkt _)).trans (.keeps rfl)

theorem transmitNext_writes (hT : T) (r : Router) : Writes S E T r (r.transmitNext S Z E).2 := by
  unfold transmitNext
  cases r.txQueue.pop TxItem.byteCost with
  | none => exact .keeps rfl
  | some p =>
    dsimp only
    have hpopped : Writes S E T r (r.setOwner { r.toOwner with txQueue := p.2 }) := .keeps rfl
    refine (hpopped.trans (transmitItem_writes S Z E hT _ p.1)).trans ?_
    split
    · exact .keeps rfl
    · exact .keeps rfl

theorem routerReceiveImpl_writes (r : Router) (pkt : PacketData) (srcSide : Option Int32) :
    Writes S E T r (r.routerReceiveImpl S Z E pkt srcSide) := by
  have hroute : ∀ r : Router, Writes S E T r (r.routePacket S Z E pkt srcSide) := by
    intro r
    unfold routePacket
    split
    · split
      · exact .event r (e := .endToEndAck pkt) trivial
      · exact .keeps rfl
    · split
      · rename_i r' hrequest
        exact .keeps (handleManagedVariableRequest_books S r hrequest)
      · split
        · exact .keeps (dispatchP2pPacket_books S E r pkt)
        · split
          · exact .keeps rfl
          · split
            · exact .event r (e := .timesyncPacket pkt srcSide) trivial
            · exact .keeps (deliver_books S Z E r pkt srcSide)
  unfold routerReceiveImpl
  dsimp only
  split
  · split
    · exact .keeps rfl
    · exact .keeps rfl
  · exact (Writes.keeps (setOwner_books r _)).trans (hroute _)

theorem receivePacket_writes (r : Router) (item : RxItem) : Writes S E T r (r.receivePacket S Z E item) :=
  (Writes.keeps (setOwner_books r _)).trans (routerReceiveImpl_writes S Z E _ item.pkt item.srcSide)

theorem receiveNext_writes (r : Router) : Writes S E T r (r.receiveNext S Z E) := by
  unfold receiveNext
  split
  · exact .keeps rfl
  · rename_i item queue hpop
    have hshown : Writes S E T r (showFrame S Z E (r.setOwner { r.toOwner with rxQueue := queue }) item.wireBytes) :=
      .keeps (showFrame_books S Z E _ item.wireBytes)
    exact hshown.trans (receivePacket_writes S Z E _ item)

theorem receiveSerialized_writes (r : Router) (bytes : Bytes) : Writes S E T r (r.receiveSerialized S Z E bytes).2 := by
  unfold receiveSerialized
  dsimp only
  split
  · exact (Writes.keeps (setOwner_books r _)).trans (receivePacket_writes S Z E _ _)
  · exact .keeps rfl

theorem receive_writes (r : Router) (view : SedsPacketView) : Writes S E T r (r.receive S Z E view).2 := by
  unfold receive
  split
  · exact .keeps rfl
  · exact receivePacket_writes S Z E r _

theorem receiveShown_writes (r : Router) (frame : FrameInfoLite) (item : RxItem) :
    Writes S E T r (r.receiveShown S Z E frame item) := by
  unfold receiveShown
  dsimp only
  exact ((Writes.keeps (setOwner_books r _)).trans (receivePacket_writes S Z E _ item)).trans (.keeps rfl)

theorem receiveSerializedFromSide_writes (r : Router) (sideId : UInt32) (bytes : Bytes) :
    Writes S E T r (r.receiveSerializedFromSide S Z E sideId bytes).2 := by
  unfold receiveSerializedFromSide
  split
  · exact .keeps rfl
  · split
    · exact .keeps rfl
    · split
      · exact .keeps rfl
      · split
        · exact .keeps rfl
        · split
          · exact .keeps rfl
          · exact (Writes.keeps (setOwner_books r _)).trans (receiveShown_writes S Z E _ _ _)

theorem receiveFromSide_writes (r : Router) (sideId : UInt32) (view : SedsPacketView) :
    Writes S E T r (r.receiveFromSide S Z E sideId view).2 := by
  unfold receiveFromSide
  split
  · exact .keeps rfl
  · split
    · exact .keeps rfl
    · exact receivePacket_writes S Z E r _

theorem setUp_writes (r : Router) (setup : Setup) : Writes S E T r (r.setUp S E setup).2 := by
  cases setup with
  | configureTimesync enabled role priority sourceTimeoutMs announceIntervalMs requestIntervalMs =>
    exact .event r (e := .configureTimesync enabled role priority sourceTimeoutMs announceIntervalMs requestIntervalMs) trivial
  | getNetworkTimeMs => exact .event r (e := .getNetworkTimeMs) trivial
  | setLocalNetworkTime unixMs => exact .event r (e := .setLocalNetworkTime unixMs) trivial
  | currentAddress => exact .keeps (localP2pAddress_books r)
  | resolveHostnameAddress hostname => exact .keeps (resolveP2pHost_books r hostname)
  | _ =>
    apply Writes.keeps
    unfold setUp
    dsimp only
    first
      | rfl
      | split <;> rfl

/-- **Every act writes the books by these functions only**, and packets are remembered when one is sent. -/
theorem perform_writes (r : Router) {act : Act} (hT : act = .transmitNext → T) : Writes S E T r (r.perform S Z E act) := by
  cases act with
  | setUp setup => exact setUp_writes S E r setup
  | logBytesEx ty data timestamp queue => exact .keeps (logBytesEx_books S Z E r ty data timestamp queue)
  | transmitMessage view => exact .keeps (transmitMessage_books S E r view)
  | transmitMessageQueue view => exact .keeps (transmitMessageQueue_books S r view)
  | transmitSerializedMessageQueue bytes => exact .keeps (transmitSerializedMessageQueue_books S Z r bytes)
  | sendP2pToHostname hostname dstPort srcPort payload =>
    exact .keeps (sendP2p_books S E r (resolveP2pHost_books r hostname) dstPort srcPort payload)
  | sendP2pToAddress address dstPort srcPort payload =>
    exact .keeps (sendP2p_books S E r (resolveP2pAddress_books r address) dstPort srcPort payload)
  | openP2pStreamToHostname hostname dstPort srcPort =>
    exact .keeps (openP2pStream_books S E r (resolveP2pHost_books r hostname) dstPort srcPort)
  | openP2pStreamToAddress address dstPort srcPort =>
    apply Writes.keeps
    show (openP2pStreamToAddress S E r address dstPort srcPort).2.books = r.books
    unfold openP2pStreamToAddress
    split
    · rfl
    · exact openP2pStream_books S E r (resolveP2pAddress_books r address) dstPort srcPort
  | sendP2pStream streamId payload => exact .keeps (sendP2pStreamControl_books S E r streamId kP2pStreamData payload)
  | closeP2pStream streamId => exact .keeps (sendP2pStreamControl_books S E r streamId kP2pStreamFin [])
  | resetP2pStream streamId => exact .keeps (sendP2pStreamControl_books S E r streamId kP2pStreamRst [])
  | requestManagedVariable ty => exact .keeps (requestManagedVariable_books S E r ty)
  | setNetworkVariablePacked bytes => exact .keeps (setNetworkVariablePacked_books S Z E r bytes)
  | seedManagedVariablePacked bytes => exact .keeps (seedManagedVariablePacked_books S Z E r bytes)
  | getNetworkVariablePacked ty staleAfterMs => exact .keeps (getNetworkVariablePacked_books S E r ty staleAfterMs)
  | pollTimesync => exact .event r (e := .pollTimesync) trivial
  | receiveSerialized bytes => exact receiveSerialized_writes S Z E r bytes
  | receive view => exact receive_writes S Z E r view
  | receiveSerializedFromSide sideId bytes => exact receiveSerializedFromSide_writes S Z E r sideId bytes
  | receiveFromSide sideId view => exact receiveFromSide_writes S Z E r sideId view
  | rxSerializedPacketToQueue bytes => exact .keeps (rxSerializedPacketToQueue_books S Z r bytes)
  | rxPacketToQueue view => exact .keeps (rxPacketToQueue_books S r view)
  | endToEndTimeouts => exact .event r (e := .endToEndTimeouts) trivial
  | receiveNext => exact receiveNext_writes S Z E r
  | transmitNext => exact transmitNext_writes S Z E (hT rfl) r
  | _ => exact .keeps rfl

theorem runFrom_writes (r : Router) (acts : List Act) : Writes S E True r (runFrom (perform S Z E) r acts) := by
  induction acts generalizing r with
  | nil => exact .keeps rfl
  | cons act acts ih => exact (perform_writes S Z E r fun _ => trivial).trans (ih _)

variable {S E}

/-- What the events keep, the router keeps. -/
theorem Writes.invariant {I : Router → Prop} {r r' : Router} (h : Writes S E T r r') (hstart : I r)
    (hstep : ∀ r e, e.Sound T → I r → I (bookStep S E r e)) : I r' := by
  obtain ⟨events, hsound, rfl⟩ := h
  induction events generalizing r with
  | nil => exact hstart
  | cons e events ih =>
    exact ih (hstep r e (hsound e List.mem_cons_self) hstart) fun f hf => hsound f (List.mem_cons_of_mem e hf)

end

end Router

end SedsNet
