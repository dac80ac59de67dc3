import SedsNet.AtMostOnce
import SedsNet.Lib.Registers

/-!
# Network variables

A network variable is a type of which a router keeps the latest packet. It is written in three ways (`src/upstream_api_compat.cpp`,
`src/router_core.cpp`): the application sets it, which its policy may forbid; the application seeds it; and a packet of the type is
received while the variable is enabled. Requests for it, reads, and whatever else the router does leave it alone, and when the
variable is disabled it is forgotten. So it is a register, and what is read is what was written last (`cached_lastWrite`).
-/

set_option autoImplicit false

namespace SedsNet

open Lib Owner

namespace Router

/-- The bytes that `seds_router_cached_managed_variable_packed` copies, and `seds_router_get_network_variable_packed` where reading
    is allowed; with none the answer is 0. -/
def cachedManagedVariablePacked (r : Router) (ty : UInt32) : Option Bytes := (r.managedVariableLatest.lookup ty).map (·.packed)

section

variable (S : Schema) (Z : Codec) (E : Env) (r : Router)

/-! ## What leaves the variables alone -/

theorem currentNetworkMs_latest : (r.currentNetworkMs E).2.managedVariableLatest = r.managedVariableLatest := by
  unfold currentNetworkMs
  split
  · rfl
  · rfl

theorem localP2pAddress_latest : r.localP2pAddress.2.managedVariableLatest = r.managedVariableLatest := by
  unfold localP2pAddress
  split
  · rfl
  · rfl

theorem resolveP2pHost_latest (hostname : Bytes) : (r.resolveP2pHost hostname).2.managedVariableLatest = r.managedVariableLatest := by
  unfold resolveP2pHost
  split
  · exact localP2pAddress_latest r
  · rfl

theorem resolveP2pAddress_latest (address : UInt32) :
    (r.resolveP2pAddress address).2.managedVariableLatest = r.managedVariableLatest := by
  unfold resolveP2pAddress
  dsimp only
  split
  · exact localP2pAddress_latest r
  · exact localP2pAddress_latest r

theorem enqueueP2pPacket_latest (dstPort srcPort : UInt16) (payload : Bytes) :
    (enqueueP2pPacket S E r dstPort srcPort payload).2.managedVariableLatest = r.managedVariableLatest := by
  unfold enqueueP2pPacket
  split
  · rfl
  · dsimp only
    show (r.localP2pAddress.2.currentNetworkMs E).2.managedVariableLatest = _
    rw [currentNetworkMs_latest, localP2pAddress_latest]

theorem sendP2p_latest {found : Option (Bytes × UInt32) × Router} (h : found.2.managedVariableLatest = r.managedVariableLatest)
    (dstPort srcPort : UInt16) (payload : Bytes) :
    (sendP2p S E found dstPort srcPort payload).2.managedVariableLatest = r.managedVariableLatest := by
  obtain ⟨peer, r'⟩ := found
  cases peer with
  | none => exact h
  | some peer => exact (enqueueP2pPacket_latest S E r' dstPort srcPort payload).trans h

theorem openP2pStream_latest {found : Option (Bytes × UInt32) × Router} (h : found.2.managedVariableLatest = r.managedVariableLatest)
    (dstPort srcPort : UInt16) : (openP2pStream S E found dstPort srcPort).2.managedVariableLatest = r.managedVariableLatest := by
  obtain ⟨peer, r'⟩ := found
  cases peer with
  | none => exact h
  | some peer =>
    unfold openP2pStream
    dsimp only
    split
    · exact h
    · split
      · exact h
      · exact (enqueueP2pPacket_latest S E _ _ _ _).trans h

theorem sendP2pStreamControl_latest (streamId : UInt32) (flags : UInt8) (payload : Bytes) :
    (sendP2pStreamControl S E r streamId flags payload).2.managedVariableLatest = r.managedVariableLatest := by
  unfold sendP2pStreamControl
  split
  · rfl
  · rename_i session hsession
    dsimp only
    generalize (if session.nextSequence + 1 = 0 then 1 else session.nextSequence + 1 : UInt32) = next
    split
    · exact enqueueP2pPacket_latest S E _ _ _ _
    · exact enqueueP2pPacket_latest S E _ _ _ _

theorem dispatchSyn_latest (msg : P2pDatagram) (frame : P2pStreamFrame) :
    (dispatchSyn S E r msg frame).2.managedVariableLatest = r.managedVariableLatest := by
  have hopen : (dispatchSyn.openSession S E msg frame r).2.managedVariableLatest = r.managedVariableLatest := by
    unfold dispatchSyn.openSession
    dsimp only
    split
    · rfl
    · split
      · rfl
      · exact enqueueP2pPacket_latest S E _ _ _ _
  unfold dispatchSyn
  split
  · split
    · exact enqueueP2pPacket_latest S E _ _ _ _
    · exact hopen
  · exact hopen

theorem dispatchP2pStream_latest (msg : P2pDatagram) (frame : P2pStreamFrame) :
    (dispatchP2pStream S E r msg frame).2.managedVariableLatest = r.managedVariableLatest := by
  unfold dispatchP2pStream
  split
  · rfl
  · split
    · exact dispatchSyn_latest S E r msg frame
    · split
      · unfold dispatchSynAck
        split
        · rfl
        · rfl
      · unfold dispatchStreamData
        dsimp only
        generalize (if frame.flags &&& kP2pStreamRst ≠ 0 then 5 else if frame.flags &&& kP2pStreamFin ≠ 0 then 4 else 3 : UInt8) = kind
        generalize (if frame.destinationStreamId = 0 then (r.findSession msg frame).getD 0 else frame.destinationStreamId) = sessionId
        split
        · rfl
        · split
          · rfl
          · split
            · rfl
            · rfl

theorem dispatchP2pPacket_latest (pkt : PacketData) :
    (dispatchP2pPacket S E r pkt).2.managedVariableLatest = r.managedVariableLatest := by
  have hlearn : ∀ msg, (r.learnPeer msg).managedVariableLatest = r.managedVariableLatest := by
    intro msg
    unfold learnPeer
    split
    · rfl
    · rfl
  unfold dispatchP2pPacket
  split
  · rfl
  · rename_i msg hmsg
    dsimp only
    split
    · exact (dispatchP2pStream_latest S E _ msg _).trans (hlearn msg)
    · exact hlearn msg

theorem handleManagedVariableRequest_latest {r r' : Router} {pkt : PacketData} {srcSide : Option Int32}
    (h : handleManagedVariableRequest S r pkt srcSide = some r') : r'.managedVariableLatest = r.managedVariableLatest := by
  unfold handleManagedVariableRequest at h
  split at h
  · cases h
  · split at h
    · rw [← Option.some.inj h]
    · dsimp only at h
      split at h
      · rw [← Option.some.inj h]
      · rw [← Option.some.inj h]
        rfl

/-- A request is handled, whatever it asks for. -/
theorem handleManagedVariableRequest_isSome {pkt : PacketData} (h : pkt.ty = (S.localTypeId 13).getD 1013) (srcSide : Option Int32) :
    (handleManagedVariableRequest S r pkt srcSide).isSome = true := by
  unfold handleManagedVariableRequest
  rw [if_neg (not_not_intro h)]
  split
  · rfl
  · dsimp only
    split
    · rfl
    · rfl

theorem handleTimesyncPacket_latest (pkt : PacketData) (srcSide : Option Int32) :
    (handleTimesyncPacket S E r pkt srcSide).managedVariableLatest = r.managedVariableLatest := by
  unfold handleTimesyncPacket
  dsimp only
  split
  · unfold handleTimeSyncAnnounce
    dsimp only
    split
    · rfl
    · split
      · rfl
      · rfl
  · split
    · unfold handleTimeSyncRequest
      split
      · dsimp only
        exact (currentNetworkMs_latest E _).trans (currentNetworkMs_latest E _)
      · rfl
    · split
      · rfl
      · rfl

theorem handleEndToEndAck_latest (pkt : PacketData) : (r.handleEndToEndAck pkt).managedVariableLatest = r.managedVariableLatest := by
  unfold handleEndToEndAck
  dsimp only
  split
  · rfl
  · split
    · rfl
    · split
      · rfl
      · rfl

/-- What the router keeps for itself is no value of a variable. -/
theorem routePacket_latest {pkt : PacketData} (hown : isInternalControlType pkt.ty = true ∨ keptForItself S pkt.ty = true)
    (srcSide : Option Int32) : (routePacket S Z E r pkt srcSide).managedVariableLatest = r.managedVariableLatest := by
  unfold routePacket
  split
  · split
    · exact handleEndToEndAck_latest r pkt
    · rfl
  · rename_i hplain
    split
    · rename_i r' hrequest
      exact handleManagedVariableRequest_latest S hrequest
    · rename_i hnone
      split
      · exact dispatchP2pPacket_latest S E r pkt
      · rename_i hp2p
        split
        · rfl
        · rename_i hdiscovery
          split
          · exact handleTimesyncPacket_latest S E r pkt srcSide
          · rename_i htimesync
            -- what is left is a request, and those were handled
            have hkept := hown.resolve_left hplain
            unfold keptForItself at hkept
            rw [beq_eq_false_iff_ne.mpr hp2p, Bool.eq_false_of_not_eq_true hdiscovery, Bool.eq_false_of_not_eq_true htimesync,
              Bool.or_false, Bool.or_false, Bool.or_false, beq_iff_eq] at hkept
            have hhandled := handleManagedVariableRequest_isSome S r hkept srcSide
            rw [hnone] at hhandled
            cases hhandled

/-! ## What writes them -/

/-- The packet an act hands to `router_receive_impl`. -/
def received : Act → Option PacketData
  | .receiveSerialized bytes => if (peekFrameInfo S Z bytes true).isSome then deserializePacket S Z bytes else none
  | .receive view => packetFromView S view
  | .receiveSerializedFromSide sideId bytes => if r.passes S Z E sideId bytes then deserializePacket S Z bytes else none
  | .receiveFromSide sideId view => if r.toOwner.ingressOpen sideId then packetFromView S view else none
  | .receiveNext => r.rxQueue.items.head?.map (·.pkt)
  | _ => none

/-- A packet that is received becomes the value of its variable: it was not received before, is not for the router itself, and the
    variable is enabled. -/
def keeps (pkt : PacketData) : Bool :=
  decide (packetId S pkt ∉ r.recentSet) && !isInternalControlType pkt.ty && !keptForItself S pkt.ty &&
    (r.managedVariablePolicy.lookup pkt.ty).any (·.enabled)

/-- The write of a packet to its variable, if it is accepted. -/
def writeIf (accepted : Bool) (pkt : PacketData) : Option (Write UInt32 Bytes) :=
  if accepted then some ⟨pkt.ty, some (serializePacket S Z pkt)⟩ else none

/-- What the packet of a receipt, if there is one, writes. -/
def receivedWrite (pkt : Option PacketData) : Option (Write UInt32 Bytes) := do
  let pkt ← pkt
  writeIf S Z (r.keeps S pkt) pkt

/-- What an act writes: `disable_managed_variable` forgets, a packet that is set where the policy allows it or seeded is kept, and
    so is one that is received. -/
def variableWrite : Act → Option (Write UInt32 Bytes)
  | .setUp (.disableManagedVariable ty) => some ⟨ty, none⟩
  | .setNetworkVariablePacked bytes => do
    let pkt ← deserializePacket S Z bytes
    writeIf S Z ((Map.getOr r.managedVariablePolicy pkt.ty .new).canWrite && S.validType pkt.ty) pkt
  | .seedManagedVariablePacked bytes => do
    let pkt ← deserializePacket S Z bytes
    writeIf S Z (S.validType pkt.ty) pkt
  | act => r.receivedWrite S Z (r.received S Z E act)

variable {S Z E r}

theorem cached_of_latest {r' : Router} (h : r'.managedVariableLatest = r.managedVariableLatest) (ty : UInt32) :
    r'.cachedManagedVariablePacked ty = r.cachedManagedVariablePacked ty := by
  unfold cachedManagedVariablePacked
  rw [h]

/-- **`remember_managed_variable_packet`** writes the variable if it is enabled. -/
theorem rememberManagedVariablePacket_cached (r : Router) (pkt : PacketData) (ty : UInt32) :
    (r.rememberManagedVariablePacket S Z E pkt).cachedManagedVariablePacked ty =
      readAfter (writeIf S Z ((r.managedVariablePolicy.lookup pkt.ty).any (·.enabled)) pkt) ty (r.cachedManagedVariablePacked ty) := by
  have hinserted : ∀ (r' : Router) (entry : ManagedVariableEntry), entry.packed = serializePacket S Z pkt →
      r'.managedVariableLatest = r.managedVariableLatest.insert pkt.ty entry →
      r'.cachedManagedVariablePacked ty =
        readAfter (some ⟨pkt.ty, some (serializePacket S Z pkt)⟩) ty (r.cachedManagedVariablePacked ty) := by
    intro r' entry hpacked hlatest
    unfold cachedManagedVariablePacked readAfter
    rw [hlatest]
    by_cases hty : pkt.ty = ty
    · subst hty
      rw [AList.lookup_insert, Option.map_some, hpacked]
      exact (if_pos rfl).symm
    · rw [AList.lookup_insert_ne (Ne.symm hty)]
      exact (if_neg hty).symm
  unfold rememberManagedVariablePacket writeIf
  split
  · dsimp only
    refine hinserted _ ⟨pkt, serializePacket S Z pkt, (r.toOwner.nowMs E).1⟩ rfl ?_
    split
    · rfl
    · rfl
  · rfl

theorem deliver_cached (r : Router) (pkt : PacketData) (srcSide : Option Int32) (ty : UInt32) :
    (deliver S Z E r pkt srcSide).cachedManagedVariablePacked ty =
      readAfter (writeIf S Z ((r.managedVariablePolicy.lookup pkt.ty).any (·.enabled)) pkt) ty (r.cachedManagedVariablePacked ty) := by
  have hremembered := rememberManagedVariablePacket_cached (S := S) (Z := Z) (E := E)
    (r.setOwner (dispatchLocalPacketHandlers S E r.deviceIdentifier r.locals pkt r.toOwner).2) pkt ty
  refine Eq.trans (cached_of_latest ?_ ty) hremembered
  -- the acknowledgement and the copy for the other sides concern the owner only
  unfold deliver
  dsimp only
  split
  · split
    · rfl
    · rfl
  · split
    · rfl
    · rfl

/-- **Receipt** writes a variable if the packet is kept, and is nothing to the variables otherwise. -/
theorem receivePacket_cached (r : Router) (item : RxItem) (ty : UInt32) :
    (receivePacket S Z E r item).cachedManagedVariablePacked ty =
      readAfter (writeIf S Z (r.keeps S item.pkt) item.pkt) ty (r.cachedManagedVariablePacked ty) := by
  have hleft : r.keeps S item.pkt = false → (receivePacket S Z E r item).managedVariableLatest = r.managedVariableLatest →
      (receivePacket S Z E r item).cachedManagedVariablePacked ty =
        readAfter (writeIf S Z (r.keeps S item.pkt) item.pkt) ty (r.cachedManagedVariablePacked ty) := by
    intro hkeeps hlatest
    rw [hkeeps]
    exact cached_of_latest hlatest ty
  by_cases hfresh : packetId S item.pkt ∈ r.recentSet
  · refine hleft (by unfold keeps; rw [decide_eq_false (not_not_intro hfresh)]; rfl) ?_
    have hcopy : (Owner.packetId S (r.setOwner (r.toOwner.observe (.receive item))).toOwner item.pkt).1 ∈
        (Owner.packetId S (r.setOwner (r.toOwner.observe (.receive item))).toOwner item.pkt).2.recentSet := hfresh
    unfold receivePacket routerReceiveImpl
    dsimp only
    rw [if_pos hcopy]
    split
    · rfl
    · rfl
  · obtain ⟨o, -, hrouted⟩ := routerReceiveImpl_routes (S := S) (Z := Z) (E := E)
      (r := r.setOwner (r.toOwner.observe (.receive item))) item.srcSide hfresh
    by_cases hown : isInternalControlType item.pkt.ty = true ∨ keptForItself S item.pkt.ty = true
    · refine hleft ?_ ?_
      · unfold keeps
        rcases hown with h | h
        · rw [h]
          simp
        · rw [h]
          simp
      · unfold receivePacket
        rw [hrouted]
        exact routePacket_latest S Z E _ hown _
    · obtain ⟨hcontrol, hkept⟩ := not_or.mp hown
      have hkeeps : r.keeps S item.pkt = (r.managedVariablePolicy.lookup item.pkt.ty).any (·.enabled) := by
        unfold keeps
        rw [decide_eq_true hfresh, Bool.eq_false_of_not_eq_true hcontrol, Bool.eq_false_of_not_eq_true hkept]
        rfl
      unfold receivePacket
      rw [hrouted, routePacket_delivers (Bool.eq_false_of_not_eq_true hcontrol) (Bool.eq_false_of_not_eq_true hkept), hkeeps]
      exact deliver_cached _ item.pkt item.srcSide ty

/-! ## Acts -/

variable (S Z E)

theorem receive_cached (r : Router) (view : SedsPacketView) (ty : UInt32) :
    (receive S Z E r view).2.cachedManagedVariablePacked ty =
      readAfter (r.receivedWrite S Z (packetFromView S view)) ty (r.cachedManagedVariablePacked ty) := by
  unfold receive
  cases packetFromView S view with
  | none => rfl
  | some pkt => exact receivePacket_cached r _ ty

theorem receiveFromSide_cached (r : Router) (sideId : UInt32) (view : SedsPacketView) (ty : UInt32) :
    (receiveFromSide S Z E r sideId view).2.cachedManagedVariablePacked ty =
      readAfter (r.receivedWrite S Z (if r.toOwner.ingressOpen sideId then packetFromView S view else none)) ty
        (r.cachedManagedVariablePacked ty) := by
  unfold receiveFromSide
  cases packetFromView S view with
  | none =>
    rw [ite_self]
    rfl
  | some pkt =>
    dsimp only
    cases r.toOwner.ingressOpen sideId with
    | false => rfl
    | true => exact receivePacket_cached r _ ty

/-- The owner may change on the way to the receipt, but not what decides about the packet. -/
theorem receivePacket_cached_of {r : Router} {o : Owner} (hwindow : o.recentSet = r.recentSet) (item : RxItem) (ty : UInt32) :
    (receivePacket S Z E (r.setOwner o) item).cachedManagedVariablePacked ty =
      readAfter (r.receivedWrite S Z (some item.pkt)) ty (r.cachedManagedVariablePacked ty) := by
  have hkeeps : (r.setOwner o).keeps S item.pkt = r.keeps S item.pkt := by
    have hrecent : (r.setOwner o).recentSet = r.recentSet := hwindow
    unfold keeps
    rw [hrecent]
    rfl
  rw [receivePacket_cached, hkeeps]
  rfl

theorem dispatchLocalSerializedHandlers_recentSet (locals : List LocalEndpoint) (endpoints : List UInt32) (bytes : Bytes) (o : Owner) :
    (dispatchLocalSerializedHandlers E locals endpoints bytes o).recentSet = o.recentSet :=
  congrArg (fun view => view.2.1) (dispatchLocalSerializedHandlers_requestView E locals endpoints bytes o)

theorem receiveSerialized_cached (r : Router) (bytes : Bytes) (ty : UInt32) :
    (receiveSerialized S Z E r bytes).2.cachedManagedVariablePacked ty =
      readAfter (r.receivedWrite S Z (if (peekFrameInfo S Z bytes true).isSome then deserializePacket S Z bytes else none)) ty
        (r.cachedManagedVariablePacked ty) := by
  unfold receiveSerialized Owner.peekFrameInfo Owner.deserializePacket
  dsimp only
  cases peekFrameInfo S Z bytes true with
  | none => rfl
  | some frame =>
    cases deserializePacket S Z bytes with
    | none => rfl
    | some pkt =>
      refine receivePacket_cached_of S Z E ?_ _ ty
      split
      · rfl
      · exact dispatchLocalSerializedHandlers_recentSet E _ _ _ _

theorem receiveSerializedFromSide_cached (r : Router) (sideId : UInt32) (bytes : Bytes) (ty : UInt32) :
    (receiveSerializedFromSide S Z E r sideId bytes).2.cachedManagedVariablePacked ty =
      readAfter (r.receivedWrite S Z (if r.passes S Z E sideId bytes then deserializePacket S Z bytes else none)) ty
        (r.cachedManagedVariablePacked ty) := by
  have hdropped : r.passes S Z E sideId bytes = false → ∀ o : Owner, (r.setOwner o).cachedManagedVariablePacked ty =
      readAfter (r.receivedWrite S Z (if r.passes S Z E sideId bytes then deserializePacket S Z bytes else none)) ty
        (r.cachedManagedVariablePacked ty) := by
    intro hpasses o
    rw [hpasses]
    rfl
  have hpasses : r.passes S Z E sideId bytes =
      (r.toOwner.ingressOpen sideId && (peekFrameInfo S Z bytes true).any (fun frame => !frame.ackOnly) && r.ingests S Z E sideId bytes) := rfl
  unfold ingests Owner.peekFrameInfo at hpasses
  unfold receiveSerializedFromSide Owner.peekFrameInfo
  generalize ho : r.toOwner.observe (.compare (comparedNames S ((Read.peekFrameInfo S Z bytes true).trace 0))) = o at hpasses ⊢
  have hopen : o.ingressOpen sideId = r.toOwner.ingressOpen sideId := by
    rw [← ho]
    rfl
  have hview : o.requestView = r.toOwner.requestView := by
    rw [← ho]
    rfl
  cases hframe : peekFrameInfo S Z bytes true with
  | none =>
    rw [hframe, Option.any_none, Bool.and_false] at hpasses
    exact hdropped hpasses o
  | some frame =>
    rw [hframe, Option.any_some] at hpasses
    dsimp only at hpasses ⊢
    rw [hopen]
    cases hside : r.toOwner.ingressOpen sideId with
    | false =>
      rw [hside] at hpasses
      exact hdropped hpasses o
    | true =>
      cases hack : frame.ackOnly with
      | true =>
        rw [hack, Bool.not_true, Bool.and_false] at hpasses
        exact hdropped hpasses _
      | false =>
        rw [hside, hack] at hpasses
        unfold Owner.deserializePacket at hpasses ⊢
        rw [if_neg (by simp), if_neg (by simp)]
        generalize ho' : o.observe (.compare (comparedNames S ((Read.deserializePacket S Z bytes).trace 0))) = o' at hpasses ⊢
        cases hpkt : deserializePacket S Z bytes with
        | none =>
          rw [hpkt] at hpasses hdropped
          exact hdropped hpasses o'
        | some pkt =>
          rw [hpkt] at hpasses hdropped
          dsimp only at hpasses ⊢
          have hview' : o'.requestView = r.toOwner.requestView := by
            rw [← ho']
            exact hview
          cases hprocess : o'.processReliableIngress S E sideId.toInt32 frame pkt bytes with
          | mk ok passed =>
            rw [hprocess] at hpasses
            cases ok with
            | false => exact hdropped hpasses passed
            | true =>
              have hpassed : passed.recentSet = r.recentSet :=
                congrArg (fun view => view.2.1) ((processReliableIngress_requestView S E hprocess).trans hview')
              have hshown : (if hiddenFromSerializedHandlers frame.envelope.ty then passed
                  else dispatchLocalSerializedHandlers E r.locals frame.envelope.endpoints bytes passed).recentSet = r.recentSet := by
                split
                · exact hpassed
                · exact (dispatchLocalSerializedHandlers_recentSet E _ _ _ _).trans hpassed
              rw [show r.passes S Z E sideId bytes = true from hpasses]
              exact receivePacket_cached_of S Z E hshown ⟨pkt, some sideId.toInt32, bytes, bytes⟩ ty

theorem showFrame_eq (r : Router) (wireBytes : Bytes) :
    ∃ o, showFrame S Z E r wireBytes = r.setOwner o ∧ o.recentSet = r.recentSet := by
  unfold showFrame Owner.peekFrameInfo
  split
  · exact ⟨r.toOwner, rfl, rfl⟩
  · cases peekFrameInfo S Z wireBytes true with
    | none => exact ⟨_, rfl, rfl⟩
    | some frame =>
      dsimp only
      split
      · exact ⟨_, rfl, rfl⟩
      · exact ⟨_, rfl, dispatchLocalSerializedHandlers_recentSet E _ _ _ _⟩

theorem receiveNext_cached (r : Router) (ty : UInt32) :
    (r.receiveNext S Z E).cachedManagedVariablePacked ty =
      readAfter (r.receivedWrite S Z (r.rxQueue.items.head?.map (·.pkt))) ty (r.cachedManagedVariablePacked ty) := by
  unfold receiveNext
  cases hpop : r.rxQueue.pop RxItem.byteCost with
  | none =>
    rw [items_of_pop_none hpop]
    rfl
  | some p =>
    obtain ⟨item, queue⟩ := p
    obtain ⟨o, hshown, hwindow⟩ := showFrame_eq S Z E (r.setOwner { r.toOwner with rxQueue := queue }) item.wireBytes
    rw [Option.mem_def.mp (head?_of_pop hpop), Option.map_some]
    dsimp only
    rw [hshown]
    exact receivePacket_cached_of S Z E hwindow item ty

/-! ## The calls of the application -/

theorem queueManagedRequest_latest (r : Router) (ty : UInt32) :
    (queueManagedRequest S E r ty).2.managedVariableLatest = r.managedVariableLatest := by
  unfold queueManagedRequest
  split
  · rfl
  · exact currentNetworkMs_latest E r

theorem requestManagedVariable_latest (r : Router) (ty : UInt32) :
    (requestManagedVariable S E r ty).2.managedVariableLatest = r.managedVariableLatest := by
  unfold requestManagedVariable
  split
  · rfl
  · dsimp only
    split
    · rfl
    · exact queueManagedRequest_latest S E _ ty

theorem getNetworkVariablePacked_latest (r : Router) (ty staleAfterMs : UInt32) :
    (getNetworkVariablePacked S E r ty staleAfterMs).2.managedVariableLatest = r.managedVariableLatest := by
  unfold getNetworkVariablePacked
  split
  · rfl
  · split
    · exact queueManagedRequest_latest S E r ty
    · split
      · rfl
      · dsimp only
        split
        · exact queueManagedRequest_latest S E _ ty
        · rfl

/-- A packet that the application hands over enables its variable and is kept. -/
theorem rememberManagedPacket_cached (r : Router) (pkt : PacketData) (ty : UInt32) :
    (rememberManagedPacket S Z E r pkt).2.cachedManagedVariablePacked ty =
      readAfter (writeIf S Z (S.validType pkt.ty) pkt) ty (r.cachedManagedVariablePacked ty) := by
  unfold rememberManagedPacket
  cases S.validType pkt.ty with
  | false => rfl
  | true =>
    have henabled : ((r.enablePolicy pkt.ty).2.managedVariablePolicy.lookup pkt.ty).any (·.enabled) = true := by
      unfold enablePolicy
      dsimp only
      rw [AList.lookup_insert]
      rfl
    have hremembered := rememberManagedVariablePacket_cached (S := S) (Z := Z) (E := E) (r.enablePolicy pkt.ty).2 pkt ty
    rw [henabled] at hremembered
    exact hremembered

theorem seedManagedVariablePacked_cached (r : Router) (bytes : Bytes) (ty : UInt32) :
    (seedManagedVariablePacked S Z E r bytes).2.cachedManagedVariablePacked ty =
      readAfter (do let pkt ← deserializePacket S Z bytes; writeIf S Z (S.validType pkt.ty) pkt) ty
        (r.cachedManagedVariablePacked ty) := by
  unfold seedManagedVariablePacked Owner.deserializePacket
  cases deserializePacket S Z bytes with
  | none => rfl
  | some pkt => exact rememberManagedPacket_cached S Z E _ pkt ty

theorem setNetworkVariablePacked_cached (r : Router) (bytes : Bytes) (ty : UInt32) :
    (setNetworkVariablePacked S Z E r bytes).2.cachedManagedVariablePacked ty =
      readAfter (do
        let pkt ← deserializePacket S Z bytes
        writeIf S Z ((Map.getOr r.managedVariablePolicy pkt.ty .new).canWrite && S.validType pkt.ty) pkt) ty
        (r.cachedManagedVariablePacked ty) := by
  unfold setNetworkVariablePacked Owner.deserializePacket
  generalize r.toOwner.observe (.compare (comparedNames S ((Read.deserializePacket S Z bytes).trace 0))) = o
  cases deserializePacket S Z bytes with
  | none => rfl
  | some pkt =>
    have hremembered := rememberManagedPacket_cached S Z E ((r.setOwner o).enablePolicy pkt.ty).2 pkt ty
    have hpolicy : ((r.setOwner o).enablePolicy pkt.ty).1.canWrite = (Map.getOr r.managedVariablePolicy pkt.ty .new).canWrite := rfl
    dsimp only [Option.bind_eq_bind, Option.bind_some]
    rw [hpolicy]
    cases (Map.getOr r.managedVariablePolicy pkt.ty .new).canWrite with
    | false => rfl
    | true =>
      -- a packet that is sent on is kept as well
      split
      · contradiction
      · split
        · exact hremembered
        · exact hremembered

/-- The other calls leave the values alone; of them `disable_managed_variable` takes one away. -/
theorem setUp_cached (r : Router) (setup : Setup) (ty : UInt32) :
    (r.setUp S E setup).2.cachedManagedVariablePacked ty =
      readAfter (r.variableWrite S Z E (.setUp setup)) ty (r.cachedManagedVariablePacked ty) := by
  cases setup with
  | disableManagedVariable erased =>
    show ((r.managedVariableLatest.erase erased).lookup ty).map (·.packed) = if erased = ty then none else _
    by_cases hty : erased = ty
    · subst hty
      rw [if_pos rfl, AList.lookup_erase]
      rfl
    · rw [if_neg hty, AList.lookup_erase_ne (Ne.symm hty)]
      rfl
  | currentAddress => exact cached_of_latest (localP2pAddress_latest r) ty
  | resolveHostnameAddress hostname => exact cached_of_latest (resolveP2pHost_latest r hostname) ty
  | configureTimesync enabled role priority sourceTimeoutMs announceIntervalMs requestIntervalMs =>
    refine cached_of_latest ?_ ty
    change (configureTimesync E r enabled role priority sourceTimeoutMs announceIntervalMs requestIntervalMs).managedVariableLatest = _
    unfold configureTimesync
    dsimp only
    split
    · rfl
    · rfl
  | getNetworkTimeMs =>
    refine cached_of_latest ?_ ty
    have hswitched : (switchSource E r).managedVariableLatest = r.managedVariableLatest := by
      unfold switchSource
      split
      · rfl
      · dsimp only
        split
        · rfl
        · split
          · rfl
          · exact currentNetworkMs_latest E _
    change (getNetworkTimeMs E r).2.managedVariableLatest = _
    unfold getNetworkTimeMs
    split
    · rfl
    · exact (currentNetworkMs_latest E _).trans hswitched
  | setSender _ => rfl
  | setSenderId _ => rfl
  | clearP2pPort _ => rfl
  | clearP2pStreamPort _ => rfl
  | setLocalNetworkTime _ => rfl
  | _ =>
    refine cached_of_latest ?_ ty
    unfold setUp
    dsimp only
    split
    · rfl
    · rfl

theorem pollRole_latest (r : Router) (now : UInt64) : (pollRole S E r now).managedVariableLatest = r.managedVariableLatest := by
  unfold pollRole
  dsimp only
  split
  · exact currentNetworkMs_latest E r
  · split
    · unfold requestTime
      dsimp only
      generalize (if r.timesync.currentSource.isEmpty = true then r.routedSource else r.timesync.currentSource) = source
      split
      · rfl
      · rfl
    · rfl

theorem pollTimesync_latest (r : Router) : (pollTimesync S E r).managedVariableLatest = r.managedVariableLatest := by
  unfold pollTimesync
  split
  · rfl
  · exact pollRole_latest S E _ _

theorem transmitItem_latest (r : Router) (item : TxItem) :
    (transmitItem S Z E r item).2.managedVariableLatest = r.managedVariableLatest := by
  have hlocal : (deliverLocal S Z E r item).2.managedVariableLatest = r.managedVariableLatest := by
    unfold deliverLocal
    split
    · dsimp only
      split
      · rfl
      · rfl
    · rfl
  have htracked : ∀ (r : Router) (sides : List Int32),
      (trackEndToEnd S E r item.pkt sides).managedVariableLatest = r.managedVariableLatest := by
    intro r sides
    unfold trackEndToEnd
    split
    · dsimp only
      split
      · rfl
      · rfl
    · rfl
  unfold transmitItem
  generalize deliverLocal S Z E r item = p at hlocal
  obtain ⟨ok, r₁⟩ := p
  cases ok with
  | false => exact hlocal
  | true => exact (htracked _ _).trans hlocal

theorem transmitNext_latest (r : Router) : (transmitNext S Z E r).2.managedVariableLatest = r.managedVariableLatest := by
  unfold transmitNext
  cases r.txQueue.pop TxItem.byteCost with
  | none => rfl
  | some p =>
    have hsent := transmitItem_latest S Z E (r.setOwner { r.toOwner with txQueue := p.2 }) p.1
    dsimp only
    split
    · exact hsent
    · exact hsent

theorem processEndToEndReliableTimeouts_latest (r : Router) :
    (processEndToEndReliableTimeouts S E r).managedVariableLatest = r.managedVariableLatest := by
  have hreconciled : ∀ (entries : List ((_ : UInt64) × EndToEndReliableSent)) (r : Router),
      (entries.foldl (reconcileEntry S E) r).managedVariableLatest = r.managedVariableLatest := by
    intro entries
    induction entries with
    | nil => exact fun _ => rfl
    | cons e rest ih =>
      intro r
      rw [List.foldl_cons, ih]
      unfold reconcileEntry
      split
      · rfl
      · rfl
  have hrequeued : ∀ (now : UInt64) (ids : List UInt64) (r : Router),
      (ids.foldl (requeueEndToEnd now) r).managedVariableLatest = r.managedVariableLatest := by
    intro now ids
    induction ids with
    | nil => exact fun _ => rfl
    | cons id rest ih =>
      intro r
      rw [List.foldl_cons, ih]
      unfold requeueEndToEnd
      split
      · rfl
      · dsimp only
        split
        · rfl
        · rfl
  unfold processEndToEndReliableTimeouts
  dsimp only
  rw [hrequeued]
  exact hreconciled _ _

/-- **Every act** writes what `variableWrite` says, and nothing else. -/
theorem perform_cached (r : Router) (act : Act) (ty : UInt32) :
    (perform S Z E r act).cachedManagedVariablePacked ty =
      readAfter (r.variableWrite S Z E act) ty (r.cachedManagedVariablePacked ty) := by
  cases act with
  | setUp setup => exact setUp_cached S Z E r setup ty
  | receiveSerialized bytes => exact receiveSerialized_cached S Z E r bytes ty
  | receive view => exact receive_cached S Z E r view ty
  | receiveSerializedFromSide sideId bytes => exact receiveSerializedFromSide_cached S Z E r sideId bytes ty
  | receiveFromSide sideId view => exact receiveFromSide_cached S Z E r sideId view ty
  | receiveNext => exact receiveNext_cached S Z E r ty
  | setNetworkVariablePacked bytes => exact setNetworkVariablePacked_cached S Z E r bytes ty
  | seedManagedVariablePacked bytes => exact seedManagedVariablePacked_cached S Z E r bytes ty
  | requestManagedVariable asked => exact cached_of_latest (requestManagedVariable_latest S E r asked) ty
  | getNetworkVariablePacked asked staleAfterMs => exact cached_of_latest (getNetworkVariablePacked_latest S E r asked staleAfterMs) ty
  | sendP2pToHostname hostname dstPort srcPort payload =>
    exact cached_of_latest (sendP2p_latest S E r (resolveP2pHost_latest r hostname) dstPort srcPort payload) ty
  | sendP2pToAddress address dstPort srcPort payload =>
    exact cached_of_latest (sendP2p_latest S E r (resolveP2pAddress_latest r address) dstPort srcPort payload) ty
  | openP2pStreamToHostname hostname dstPort srcPort =>
    exact cached_of_latest (openP2pStream_latest S E r (resolveP2pHost_latest r hostname) dstPort srcPort) ty
  | openP2pStreamToAddress address dstPort srcPort =>
    refine cached_of_latest ?_ ty
    show (openP2pStreamToAddress S E r address dstPort srcPort).2.managedVariableLatest = r.managedVariableLatest
    unfold openP2pStreamToAddress
    split
    · rfl
    · exact openP2pStream_latest S E r (resolveP2pAddress_latest r address) dstPort srcPort
  | sendP2pStream streamId payload => exact cached_of_latest (sendP2pStreamControl_latest S E r streamId kP2pStreamData payload) ty
  | closeP2pStream streamId => exact cached_of_latest (sendP2pStreamControl_latest S E r streamId kP2pStreamFin []) ty
  | resetP2pStream streamId => exact cached_of_latest (sendP2pStreamControl_latest S E r streamId kP2pStreamRst []) ty
  | pollTimesync => exact cached_of_latest (pollTimesync_latest S E r) ty
  | transmitNext => exact cached_of_latest (transmitNext_latest S Z E r) ty
  | endToEndTimeouts => exact cached_of_latest (processEndToEndReliableTimeouts_latest S E r) ty
  | logBytesEx logged data timestamp queue =>
    refine cached_of_latest ?_ ty
    change (logBytesEx S Z E r logged data timestamp queue).2.managedVariableLatest = _
    unfold logBytesEx
    split
    · rfl
    · cases timestamp with
      | none => rfl
      | some ts => rfl
  | transmitMessage view =>
    refine cached_of_latest ?_ ty
    change (transmitMessage S E r view).2.managedVariableLatest = _
    unfold transmitMessage transmitMessageQueue
    cases packetFromView S view with
    | none => rfl
    | some pkt =>
      dsimp only
      split
      · rfl
      · rfl
  | transmitMessageQueue view =>
    refine cached_of_latest ?_ ty
    change (transmitMessageQueue S r view).2.managedVariableLatest = _
    unfold transmitMessageQueue
    split
    · rfl
    · rfl
  | transmitSerializedMessageQueue bytes =>
    refine cached_of_latest ?_ ty
    change (transmitSerializedMessageQueue S Z r bytes).2.managedVariableLatest = _
    unfold transmitSerializedMessageQueue
    split
    · rfl
    · rfl
  | rxSerializedPacketToQueue bytes =>
    refine cached_of_latest ?_ ty
    change (rxSerializedPacketToQueue S Z r bytes).2.managedVariableLatest = _
    unfold rxSerializedPacketToQueue
    split
    · rfl
    · rfl
  | rxPacketToQueue view =>
    refine cached_of_latest ?_ ty
    change (rxPacketToQueue S r view).2.managedVariableLatest = _
    unfold rxPacketToQueue
    split
    · rfl
    · rfl
  | _ => rfl

/-- **What is read is what was written last**: after any run of a router the bytes of a variable are those of the last write to it,
    and there are none where there was no write, or the last one took the value away. -/
theorem cached_lastWrite (mode : RouterMode) (sender : Bytes) (sides : List Side) (locals : List LocalEndpoint) (acts : List Act)
    (ty : UInt32) :
    (runFrom (perform S Z E) (Router.new mode sender sides locals) acts).cachedManagedVariablePacked ty =
      (lastWrite ty (writesOf (perform S Z E) (variableWrite S Z E) (Router.new mode sender sides locals) acts)).bind (·.value) := by
  have hread : (runFrom (perform S Z E) (Router.new mode sender sides locals) acts).cachedManagedVariablePacked ty =
      (lastWrite ty (writesOf (perform S Z E) (variableWrite S Z E) (Router.new mode sender sides locals) acts)).elim
        ((Router.new mode sender sides locals).cachedManagedVariablePacked ty) (·.value) :=
    read_run (perform_cached S Z E) (Router.new mode sender sides locals) acts ty
  rw [hread]
  cases lastWrite ty (writesOf (perform S Z E) (variableWrite S Z E) (Router.new mode sender sides locals) acts) with
  | none => rfl
  | some w => rfl

end

end Router

end SedsNet
