import SedsNet.Lib.Machine
import SedsNet.Router.Moves

/-!
# Stream sessions and their peers

A stream session of `src/upstream_api_compat.cpp` knows its peer: hostname, address, port, and the local port. A SYN, and a
frame without a stream id of ours, are matched against all four. A frame that names a session by its id is not: whoever sends
it, the session is connected by it, told of it, or closed by it, and ids are small numbers that are easily met.

Where no frame that names a session by its id comes from anybody but the peer, a session only listens to its peer. That takes
an invariant: the search for a frame without an id may end with id 0, and no session has that id.
-/

set_option autoImplicit false

namespace SedsNet

open Lib Owner

/-- The message comes from the peer of the session, and goes to its port. -/
def P2pStreamSession.peerIs (session : P2pStreamSession) (msg : P2pDatagram) : Prop :=
  msg.sourceHostname = session.peerHostname ∧ msg.sourceAddress = session.peerAddress ∧ msg.sourcePort = session.peerPort ∧
    msg.destinationPort = session.localPort

instance (session : P2pStreamSession) (msg : P2pDatagram) : Decidable (session.peerIs msg) :=
  inferInstanceAs (Decidable (_ ∧ _ ∧ _ ∧ _))

/-- The frame names a session by its id: it answers a SYN, or is data, FIN or RST with an id. -/
def P2pStreamFrame.namesSession (frame : P2pStreamFrame) : Bool :=
  frame.flags != 0 &&
    if frame.flags &&& kP2pStreamSyn ≠ 0 then frame.flags &&& kP2pStreamAck != 0 else frame.destinationStreamId != 0

/-- The stream frame in a packet, with the message that carries it. -/
def Schema.streamFrame (S : Schema) (pkt : PacketData) : Option (P2pDatagram × P2pStreamFrame) :=
  if pkt.ty = S.p2pTypeId then
    match decodeP2pPayload pkt.payload with
    | none => none
    | some msg => (decodeP2pStreamPayload msg.payload).map (msg, ·)
  else none

namespace Router

/-! ## The members of the peer-to-peer layer -/

/-- The handlers and the sessions. -/
def p2pPart (r : Router) :
    Map UInt16 (List Bool) × Map UInt16 (List Bool) × Map UInt32 P2pStreamSession × UInt32 :=
  (r.p2pHandlers, r.p2pStreamHandlers, r.p2pStreamSessions, r.p2pNextStreamId)

theorem sessions_of_p2pPart {r r' : Router} (h : r'.p2pPart = r.p2pPart) : r'.p2pStreamSessions = r.p2pStreamSessions :=
  congrArg (fun part => part.2.2.1) h

/-- The sessions, and the id to try next. -/
def streams (r : Router) : Map UInt32 P2pStreamSession × UInt32 := (r.p2pStreamSessions, r.p2pNextStreamId)

theorem streams_of_p2pPart {r r' : Router} (h : r'.p2pPart = r.p2pPart) : r'.streams = r.streams :=
  congrArg (fun part => part.2.2) h

@[simp] theorem setOwner_p2pPart (r : Router) (o : Owner) : (r.setOwner o).p2pPart = r.p2pPart := rfl

section

variable (S : Schema) (Z : Codec) (E : Env)

theorem currentNetworkMs_p2pPart (r : Router) : (r.currentNetworkMs E).2.p2pPart = r.p2pPart := by
  unfold currentNetworkMs
  split
  · rfl
  · rfl

theorem localP2pAddress_p2pPart (r : Router) : r.localP2pAddress.2.p2pPart = r.p2pPart := by
  unfold localP2pAddress
  split
  · rfl
  · rfl

theorem resolveP2pHost_p2pPart (r : Router) (hostname : Bytes) : (r.resolveP2pHost hostname).2.p2pPart = r.p2pPart := by
  unfold resolveP2pHost
  split
  · exact localP2pAddress_p2pPart r
  · rfl

theorem resolveP2pAddress_p2pPart (r : Router) (address : UInt32) :
    (r.resolveP2pAddress address).2.p2pPart = r.p2pPart := by
  unfold resolveP2pAddress
  dsimp only
  split
  · exact localP2pAddress_p2pPart r
  · exact localP2pAddress_p2pPart r

theorem enqueueP2pPacket_p2pPart (r : Router) (dstPort srcPort : UInt16) (payload : Bytes) :
    (enqueueP2pPacket S E r dstPort srcPort payload).2.p2pPart = r.p2pPart := by
  unfold enqueueP2pPacket
  split
  · rfl
  · dsimp only
    rw [setOwner_p2pPart, currentNetworkMs_p2pPart, localP2pAddress_p2pPart]

theorem rememberManagedVariablePacket_p2pPart (r : Router) (pkt : PacketData) :
    (r.rememberManagedVariablePacket S Z E pkt).p2pPart = r.p2pPart := by
  unfold rememberManagedVariablePacket
  split
  · dsimp only
    split
    · rfl
    · rfl
  · rfl

theorem handleTimesyncPacket_p2pPart (r : Router) (pkt : PacketData) (srcSide : Option Int32) :
    (handleTimesyncPacket S E r pkt srcSide).p2pPart = r.p2pPart := by
  unfold handleTimesyncPacket
  dsimp only
  split
  · unfold handleTimeSyncAnnounce
    dsimp only
    split
    · rfl
    · split
      · rfl
      · rfl
  · split
    · unfold handleTimeSyncRequest
      split
      · dsimp only
        rw [setOwner_p2pPart, currentNetworkMs_p2pPart, currentNetworkMs_p2pPart, setOwner_p2pPart]
      · rfl
    · split
      · rfl
      · rfl

theorem deliver_p2pPart (r : Router) (pkt : PacketData) (srcSide : Option Int32) :
    (deliver S Z E r pkt srcSide).p2pPart = r.p2pPart := by
  have hremembered := rememberManagedVariablePacket_p2pPart S Z E
    (r.setOwner (dispatchLocalPacketHandlers S E r.deviceIdentifier r.locals pkt r.toOwner).2) pkt
  unfold deliver
  dsimp only
  split
  · split
    · exact hremembered
    · exact hremembered
  · split
    · exact hremembered
    · exact hremembered

/-- Of the packets that are received only peer-to-peer messages reach the peer-to-peer layer. -/
theorem routePacket_p2pPart (r : Router) (pkt : PacketData) (srcSide : Option Int32) :
    (routePacket S Z E r pkt srcSide).p2pPart = r.p2pPart ∨
    pkt.ty = S.p2pTypeId ∧ (routePacket S Z E r pkt srcSide).p2pPart = (dispatchP2pPacket S E r pkt).2.p2pPart := by
  unfold routePacket
  split
  · split
    · left
      unfold handleEndToEndAck
      dsimp only
      split
      · rfl
      · split
        · rfl
        · split
          · rfl
          · rfl
    · exact .inl rfl
  · split
    · rename_i r' hrequest
      left
      unfold handleManagedVariableRequest at hrequest
      split at hrequest
      · cases hrequest
      · split at hrequest
        · cases hrequest
          rfl
        · dsimp only at hrequest
          split at hrequest
          · cases hrequest
            rfl
          · cases hrequest
            rfl
    · split
      · rename_i hty
        exact .inr ⟨hty, rfl⟩
      · split
        · exact .inl rfl
        · split
          · exact .inl (handleTimesyncPacket_p2pPart S E r pkt srcSide)
          · exact .inl (deliver_p2pPart S Z E r pkt srcSide)

end

/-! ## What a frame does to the sessions -/

section

variable {S : Schema} {Z : Codec} {E : Env}

/-- The search compares all four members. -/
theorem findSession_spec {r : Router} {msg : P2pDatagram} {frame : P2pStreamFrame} {id : UInt32}
    (h : r.findSession msg frame = some id) : ∃ session, r.p2pStreamSessions.lookup id = some session ∧ session.peerIs msg := by
  unfold findSession at h
  obtain ⟨e, hfound, rfl⟩ := Option.map_eq_some_iff.mp h
  have hmatches := List.find?_some hfound
  simp only [Bool.and_eq_true, beq_iff_eq] at hmatches
  obtain ⟨⟨⟨⟨-, hlocal⟩, hport⟩, haddress⟩, hname⟩ := hmatches
  exact ⟨e.2, AList.mem_lookup_iff.mpr (List.mem_of_find?_eq_some hfound), hname.symm, haddress.symm, hport.symm, hlocal.symm⟩

/-- An id that is given out is a new one. -/
theorem allocateStreamId_fresh (sessions : Map UInt32 P2pStreamSession) (tries : Nat) (next : UInt32)
    (h : (allocateStreamId sessions tries next).1 ≠ 0) : (allocateStreamId sessions tries next).1 ∉ sessions := by
  induction tries generalizing next with
  | zero => exact absurd rfl h
  | succ tries ih =>
    unfold allocateStreamId at h ⊢
    dsimp only at h ⊢
    by_cases htaken : max 1 next ∈ sessions
    · rw [if_pos htaken] at h ⊢
      exact ih _ h
    · rw [if_neg htaken]
      exact htaken

theorem allocateP2pStreamId_eq (r : Router) :
    r.allocateP2pStreamId = ((allocateStreamId r.p2pStreamSessions (2 ^ 32 - 1) r.p2pNextStreamId).1,
      { r with p2pNextStreamId := (allocateStreamId r.p2pStreamSessions (2 ^ 32 - 1) r.p2pNextStreamId).2 }) := by
  unfold allocateP2pStreamId
  generalize allocateStreamId r.p2pStreamSessions (2 ^ 32 - 1) r.p2pNextStreamId = p
  rfl

theorem allocateP2pStreamId_fresh {r : Router} (h : r.allocateP2pStreamId.1 ≠ 0) :
    r.p2pStreamSessions.lookup r.allocateP2pStreamId.1 = none := by
  rw [allocateP2pStreamId_eq] at h ⊢
  exact AList.lookup_eq_none.mpr (allocateStreamId_fresh _ _ _ h)

/-- The session a SYN opens. -/
def openedSession (msg : P2pDatagram) (frame : P2pStreamFrame) : P2pStreamSession :=
  ⟨msg.sourceHostname, msg.sourceAddress, msg.destinationPort, msg.sourcePort, frame.sourceStreamId, 1, true⟩

theorem openSession_sessions (r : Router) (msg : P2pDatagram) (frame : P2pStreamFrame) :
    (dispatchSyn.openSession S E msg frame r).2.p2pStreamSessions =
      if r.allocateP2pStreamId.1 = 0 then r.p2pStreamSessions
      else r.p2pStreamSessions.insert r.allocateP2pStreamId.1 (openedSession msg frame) := by
  unfold dispatchSyn.openSession
  dsimp only
  split
  · rfl
  · split
    · rfl
    · exact sessions_of_p2pPart (enqueueP2pPacket_p2pPart S E _ _ _ _)

/-- A SYN opens a session under a new id, or changes nothing. -/
theorem dispatchSyn_sessions (r : Router) (msg : P2pDatagram) (frame : P2pStreamFrame) :
    (dispatchSyn S E r msg frame).2.p2pStreamSessions =
      if (r.findSession msg frame).getD 0 ≠ 0 ∨ r.allocateP2pStreamId.1 = 0 then r.p2pStreamSessions
      else r.p2pStreamSessions.insert r.allocateP2pStreamId.1 (openedSession msg frame) := by
  have hopened := openSession_sessions (S := S) (E := E) r msg frame
  unfold dispatchSyn
  cases r.findSession msg frame with
  | none =>
    rw [Option.getD_none]
    simp only [ne_eq, not_true_eq_false, false_or]
    exact hopened
  | some localId =>
    rw [Option.getD_some]
    dsimp only
    by_cases hzero : localId = 0
    · rw [if_neg (not_not.mpr hzero)]
      simp only [ne_eq, hzero, not_true_eq_false, false_or]
      exact hopened
    · rw [if_pos hzero, if_pos (.inl hzero)]
      exact sessions_of_p2pPart (enqueueP2pPacket_p2pPart S E r _ _ _)

theorem dispatchSynAck_sessions (r : Router) (frame : P2pStreamFrame) :
    (dispatchSynAck E r frame).2.p2pStreamSessions =
      match r.p2pStreamSessions.lookup frame.destinationStreamId with
      | none => r.p2pStreamSessions
      | some session =>
        r.p2pStreamSessions.insert frame.destinationStreamId
          { session with peerStreamId := frame.sourceStreamId, connected := true } := by
  unfold dispatchSynAck
  cases r.p2pStreamSessions.lookup frame.destinationStreamId with
  | none => rfl
  | some session => rfl

/-- The session that data, FIN or RST goes to. -/
def dataSession (r : Router) (msg : P2pDatagram) (frame : P2pStreamFrame) : UInt32 :=
  if frame.destinationStreamId = 0 then (r.findSession msg frame).getD 0 else frame.destinationStreamId

theorem dispatchStreamData_sessions (r : Router) (msg : P2pDatagram) (frame : P2pStreamFrame) :
    (dispatchStreamData E r msg frame).2.p2pStreamSessions = r.p2pStreamSessions ∨
    (dispatchStreamData E r msg frame).2.p2pStreamSessions = r.p2pStreamSessions.erase (r.dataSession msg frame) ∧
      r.dataSession msg frame ∈ r.p2pStreamSessions := by
  unfold dispatchStreamData dataSession
  dsimp only
  generalize (if frame.destinationStreamId = 0 then (r.findSession msg frame).getD 0 else frame.destinationStreamId) = sessionId
  generalize (if frame.flags &&& kP2pStreamRst ≠ 0 then (5 : UInt8) else if frame.flags &&& kP2pStreamFin ≠ 0 then 4 else 3) = kind
  cases hsession : r.p2pStreamSessions.lookup sessionId with
  | none => exact .inl rfl
  | some session =>
    have hmem : sessionId ∈ r.p2pStreamSessions := by
      apply AList.lookup_isSome.mp
      rw [hsession]
      rfl
    dsimp only
    split
    · exact .inl rfl
    · split
      · exact .inr ⟨rfl, hmem⟩
      · exact .inl rfl

/-! ## Whom a session listens to -/

/-- The session under the id is one of the sender's: it was there before, or is a new one. -/
def OfSender (msg : P2pDatagram) (before after : Map UInt32 P2pStreamSession) (id : UInt32) : Prop :=
  ∃ session : P2pStreamSession, session.peerIs msg ∧
    (before.lookup id = some session ∨ before.lookup id = none ∧ after.lookup id = some session)

/-- A session that the frame names by its id is the sender's. -/
def NamesOwn (r : Router) (msg : P2pDatagram) (frame : P2pStreamFrame) : Prop :=
  frame.namesSession = true → ∀ session ∈ r.p2pStreamSessions.lookup frame.destinationStreamId, session.peerIs msg

instance (r : Router) (msg : P2pDatagram) (frame : P2pStreamFrame) : Decidable (r.NamesOwn msg frame) :=
  inferInstanceAs (Decidable (frame.namesSession = true →
    ∀ session ∈ r.p2pStreamSessions.lookup frame.destinationStreamId, session.peerIs msg))

theorem namesSession_of_data {frame : P2pStreamFrame} (hplain : frame.flags ≠ 0) (hsyn : frame.flags &&& kP2pStreamSyn = 0)
    (hid : frame.destinationStreamId ≠ 0) : frame.namesSession = true := by
  unfold P2pStreamFrame.namesSession
  rw [if_neg (not_not.mpr hsyn), bne_iff_ne.mpr hplain, bne_iff_ne.mpr hid]
  rfl

theorem namesSession_of_synAck {frame : P2pStreamFrame} (hplain : frame.flags ≠ 0) (hsyn : frame.flags &&& kP2pStreamSyn ≠ 0)
    (hack : frame.flags &&& kP2pStreamAck ≠ 0) : frame.namesSession = true := by
  unfold P2pStreamFrame.namesSession
  rw [if_pos hsyn, bne_iff_ne.mpr hplain, bne_iff_ne.mpr hack]
  rfl

/-- Data, FIN and RST go to a session of the sender. -/
theorem dataSession_ofSender {r : Router} {msg : P2pDatagram} {frame : P2pStreamFrame} (hzero : 0 ∉ r.p2pStreamSessions)
    (hplain : frame.flags ≠ 0) (hsyn : frame.flags &&& kP2pStreamSyn = 0) (hown : r.NamesOwn msg frame)
    (hmem : r.dataSession msg frame ∈ r.p2pStreamSessions) (after : Map UInt32 P2pStreamSession) :
    OfSender msg r.p2pStreamSessions after (r.dataSession msg frame) := by
  unfold dataSession at hmem ⊢
  by_cases hid : frame.destinationStreamId = 0
  · rw [if_pos hid] at hmem ⊢
    cases hfound : r.findSession msg frame with
    | none =>
      -- the search has failed, and no session has id 0
      rw [hfound] at hmem
      exact absurd hmem hzero
    | some id =>
      obtain ⟨session, hsession, hpeer⟩ := findSession_spec hfound
      exact ⟨session, hpeer, .inl hsession⟩
  · rw [if_neg hid] at hmem ⊢
    obtain ⟨session, hsession⟩ := Option.isSome_iff_exists.mp (AList.lookup_isSome.mpr hmem)
    exact ⟨session, hown (namesSession_of_data hplain hsyn hid) session hsession, .inl hsession⟩

/-- **A frame that names no foreign session only changes sessions of its sender.** -/
theorem dispatchP2pStream_ofSender {r : Router} {msg : P2pDatagram} {frame : P2pStreamFrame} (hzero : 0 ∉ r.p2pStreamSessions)
    (hown : r.NamesOwn msg frame) (id : UInt32)
    (h : (dispatchP2pStream S E r msg frame).2.p2pStreamSessions.lookup id ≠ r.p2pStreamSessions.lookup id) :
    OfSender msg r.p2pStreamSessions (dispatchP2pStream S E r msg frame).2.p2pStreamSessions id := by
  unfold dispatchP2pStream at h ⊢
  by_cases hplain : frame.flags = 0
  · rw [if_pos hplain] at h
    exact absurd rfl h
  rw [if_neg hplain] at h ⊢
  by_cases hopens : frame.flags &&& kP2pStreamSyn ≠ 0 ∧ frame.flags &&& kP2pStreamAck = 0
  · rw [if_pos hopens, dispatchSyn_sessions] at h ⊢
    by_cases hknown : (r.findSession msg frame).getD 0 ≠ 0 ∨ r.allocateP2pStreamId.1 = 0
    · rw [if_pos hknown] at h
      exact absurd rfl h
    · rw [if_neg hknown] at h ⊢
      have hfresh := allocateP2pStreamId_fresh (not_or.mp hknown).2
      have hid : id = r.allocateP2pStreamId.1 := by
        by_contra hne
        exact h (AList.lookup_insert_ne hne)
      subst hid
      exact ⟨openedSession msg frame, ⟨rfl, rfl, rfl, rfl⟩, .inr ⟨hfresh, AList.lookup_insert _⟩⟩
  rw [if_neg hopens] at h ⊢
  by_cases hsyn : frame.flags &&& kP2pStreamSyn ≠ 0
  · rw [if_pos hsyn, dispatchSynAck_sessions] at h ⊢
    have hnames := hown (namesSession_of_synAck hplain hsyn fun hack => hopens ⟨hsyn, hack⟩)
    cases hsession : r.p2pStreamSessions.lookup frame.destinationStreamId with
    | none =>
      rw [hsession] at h
      exact absurd rfl h
    | some session =>
      rw [hsession] at h
      have hid : id = frame.destinationStreamId := by
        by_contra hne
        exact h (AList.lookup_insert_ne hne)
      subst hid
      exact ⟨session, hnames session hsession, .inl hsession⟩
  · rw [if_neg hsyn] at h ⊢
    rcases dispatchStreamData_sessions (E := E) r msg frame with hsame | ⟨herased, hmem⟩
    · rw [hsame] at h
      exact absurd rfl h
    · rw [herased] at h
      have hid : id = r.dataSession msg frame := by
        by_contra hne
        exact h (AList.lookup_erase_ne hne)
      subst hid
      exact dataSession_ofSender hzero hplain (not_not.mp hsyn) hown hmem _

/-- Nor are the handlers of other sessions told of it. Kind 1 is the event of a new session. -/
theorem streamEventOf_ofSender {r : Router} {msg : P2pDatagram} {frame : P2pStreamFrame} (hzero : 0 ∉ r.p2pStreamSessions)
    (hown : r.NamesOwn msg frame) {port : UInt16} {kind : UInt8} {id : UInt32} {payload : Bytes} (hkind : kind ≠ 1)
    (h : .streamEvent port kind id payload ∈ r.streamEventOf msg frame) (after : Map UInt32 P2pStreamSession) :
    OfSender msg r.p2pStreamSessions after id := by
  unfold streamEventOf at h
  by_cases hplain : frame.flags = 0
  · rw [if_pos hplain] at h
    cases h
  rw [if_neg hplain] at h
  by_cases hopens : frame.flags &&& kP2pStreamSyn ≠ 0 ∧ frame.flags &&& kP2pStreamAck = 0
  · rw [if_pos hopens] at h
    split at h
    · cases h
    · cases h
      exact absurd rfl hkind
  rw [if_neg hopens] at h
  by_cases hsyn : frame.flags &&& kP2pStreamSyn ≠ 0
  · rw [if_pos hsyn] at h
    obtain ⟨session, hsession, hevent⟩ := Option.map_eq_some_iff.mp h
    cases hevent
    exact ⟨session, hown (namesSession_of_synAck hplain hsyn fun hack => hopens ⟨hsyn, hack⟩) session hsession, .inl hsession⟩
  · rw [if_neg hsyn] at h
    obtain ⟨session, hsession, hevent⟩ := Option.map_eq_some_iff.mp h
    cases hevent
    have hmem : r.dataSession msg frame ∈ r.p2pStreamSessions := by
      apply AList.lookup_isSome.mp
      unfold dataSession
      rw [hsession]
      rfl
    exact dataSession_ofSender hzero hplain (not_not.mp hsyn) hown hmem after

/-! ## What can happen to the sessions -/

/-- What one act does to the sessions and to the id to try next. -/
inductive StreamStep (sessions : Map UInt32 P2pStreamSession) (next : UInt32) : Map UInt32 P2pStreamSession × UInt32 → Prop
  | same : StreamStep sessions next (sessions, next)
  | full : StreamStep sessions next (sessions, (allocateStreamId sessions (2 ^ 32 - 1) next).2)
  | opens (session : P2pStreamSession) (h : (allocateStreamId sessions (2 ^ 32 - 1) next).1 ≠ 0) :
    StreamStep sessions next (sessions.insert (allocateStreamId sessions (2 ^ 32 - 1) next).1 session,
      (allocateStreamId sessions (2 ^ 32 - 1) next).2)
  | updates (id : UInt32) (session : P2pStreamSession) (h : id ∈ sessions) : StreamStep sessions next (sessions.insert id session, next)
  | closes (id : UInt32) : StreamStep sessions next (sessions.erase id, next)

theorem StreamStep.of_streams {r r₁ : Router} {after : Map UInt32 P2pStreamSession × UInt32}
    (h : StreamStep r₁.p2pStreamSessions r₁.p2pNextStreamId after) (hstreams : r₁.streams = r.streams) :
    StreamStep r.p2pStreamSessions r.p2pNextStreamId after := by
  obtain ⟨hsessions, hnext⟩ := Prod.mk.inj hstreams
  rw [← hsessions, ← hnext]
  exact h

theorem StreamStep.of_eq {r r' : Router} (h : r'.streams = r.streams) :
    StreamStep r.p2pStreamSessions r.p2pNextStreamId r'.streams := by
  rw [h]
  exact .same

/-- **No session ever has id 0.** -/
theorem StreamStep.zero {sessions : Map UInt32 P2pStreamSession} {next : UInt32} {after : Map UInt32 P2pStreamSession × UInt32}
    (h : StreamStep sessions next after) (hzero : 0 ∉ sessions) : 0 ∉ after.1 := by
  cases h with
  | same => exact hzero
  | full => exact hzero
  | opens session hid =>
    rw [AList.mem_insert]
    rintro (heq | hmem)
    · exact hid heq.symm
    · exact hzero hmem
  | updates id session hid =>
    rw [AList.mem_insert]
    rintro (heq | hmem)
    · exact hzero (heq ▸ hid)
    · exact hzero hmem
  | closes id =>
    rw [AList.mem_erase]
    exact fun hmem => hzero hmem.2

theorem ne_zero_of_lookup {sessions : Map UInt32 P2pStreamSession} {id : UInt32} {session : P2pStreamSession}
    (hzero : 0 ∉ sessions) (h : sessions.lookup id = some session) : id ≠ 0 := by
  rintro rfl
  rw [AList.lookup_eq_none.mpr hzero] at h
  cases h

theorem openSession_streams (r : Router) (msg : P2pDatagram) (frame : P2pStreamFrame) :
    StreamStep r.p2pStreamSessions r.p2pNextStreamId (dispatchSyn.openSession S E msg frame r).2.streams := by
  unfold dispatchSyn.openSession
  rw [allocateP2pStreamId_eq]
  dsimp only
  split
  · exact .full
  · rename_i hid
    split
    · exact .opens _ hid
    · unfold replySyn
      rw [streams_of_p2pPart (enqueueP2pPacket_p2pPart S E _ _ _ _)]
      exact .opens _ hid

theorem dispatchP2pStream_streams (r : Router) (msg : P2pDatagram) (frame : P2pStreamFrame) :
    StreamStep r.p2pStreamSessions r.p2pNextStreamId (dispatchP2pStream S E r msg frame).2.streams := by
  unfold dispatchP2pStream
  split
  · exact .same
  split
  · unfold dispatchSyn
    split
    · split
      · exact .of_eq (streams_of_p2pPart (enqueueP2pPacket_p2pPart S E r _ _ _))
      · exact openSession_streams r msg frame
    · exact openSession_streams r msg frame
  split
  · unfold dispatchSynAck
    cases hsession : r.p2pStreamSessions.lookup frame.destinationStreamId with
    | none => exact .same
    | some session => exact .updates _ _ (Map.mem_iff_lookup.mpr ⟨session, hsession⟩)
  · unfold dispatchStreamData
    dsimp only
    generalize (if frame.destinationStreamId = 0 then (r.findSession msg frame).getD 0 else frame.destinationStreamId) = sessionId
    generalize (if frame.flags &&& kP2pStreamRst ≠ 0 then (5 : UInt8) else if frame.flags &&& kP2pStreamFin ≠ 0 then 4 else 3) = kind
    split
    · exact .same
    · split
      · exact .same
      · split
        · exact .closes _
        · exact .same

theorem dispatchP2pStream_zero {r : Router} (hzero : 0 ∉ r.p2pStreamSessions) (msg : P2pDatagram) (frame : P2pStreamFrame) :
    0 ∉ (dispatchP2pStream S E r msg frame).2.p2pStreamSessions :=
  (dispatchP2pStream_streams r msg frame).zero hzero

theorem learnPeer_p2pPart (r : Router) (msg : P2pDatagram) : (r.learnPeer msg).p2pPart = r.p2pPart := by
  unfold learnPeer
  split
  · rfl
  · rfl

/-- What a message does to the sessions is what its stream frame does. -/
theorem dispatchP2pPacket_sessions (r : Router) (pkt : PacketData) (hty : pkt.ty = S.p2pTypeId) :
    (S.streamFrame pkt = none ∧ (dispatchP2pPacket S E r pkt).2.p2pStreamSessions = r.p2pStreamSessions) ∨
    ∃ msg frame, S.streamFrame pkt = some (msg, frame) ∧
      (dispatchP2pPacket S E r pkt).2.p2pStreamSessions = (dispatchP2pStream S E (r.learnPeer msg) msg frame).2.p2pStreamSessions := by
  unfold Schema.streamFrame dispatchP2pPacket
  rw [if_pos hty]
  cases decodeP2pPayload pkt.payload with
  | none => exact .inl ⟨rfl, rfl⟩
  | some msg =>
    dsimp only
    cases decodeP2pStreamPayload msg.payload with
    | none => exact .inl ⟨rfl, sessions_of_p2pPart (learnPeer_p2pPart r msg)⟩
    | some frame => exact .inr ⟨msg, frame, rfl, rfl⟩

theorem dispatchP2pPacket_streams (r : Router) (pkt : PacketData) :
    StreamStep r.p2pStreamSessions r.p2pNextStreamId (dispatchP2pPacket S E r pkt).2.streams := by
  unfold dispatchP2pPacket
  cases decodeP2pPayload pkt.payload with
  | none => exact .same
  | some msg =>
    have hlearned := streams_of_p2pPart (learnPeer_p2pPart r msg)
    dsimp only
    split
    · exact (dispatchP2pStream_streams _ _ _).of_streams hlearned
    · exact .of_eq hlearned

/-- The receipt of a packet either leaves the layer alone, or hands the packet to the peer-to-peer layer. -/
theorem routerReceiveImpl_p2pPart (r : Router) (pkt : PacketData) (srcSide : Option Int32) :
    (routerReceiveImpl S Z E r pkt srcSide).p2pPart = r.p2pPart ∨
    pkt.ty = S.p2pTypeId ∧ packetId S pkt ∉ r.recentSet ∧
      ∃ o, (routerReceiveImpl S Z E r pkt srcSide).p2pPart = (dispatchP2pPacket S E (r.setOwner o) pkt).2.p2pPart := by
  unfold routerReceiveImpl
  dsimp only
  split
  · left
    split
    · rfl
    · rfl
  · rename_i hfresh
    rcases routePacket_p2pPart S Z E (r.setOwner ((((r.toOwner.packetId S pkt).2.pushRecent (r.toOwner.packetId S pkt).1)).noteReturnRoutes S pkt
      srcSide (r.toOwner.packetId S pkt).1)) pkt srcSide with hsame | ⟨hty, heq⟩
    · exact .inl hsame
    · exact .inr ⟨hty, hfresh, _, heq⟩

/-- The same for every act that takes a packet. -/
theorem Arrives.p2pPart {taken : Option (PacketData × Option Int32)} {r r' : Router}
    (h : Arrives (fun _ => True) (fun _ => True) (fun _ => True) S Z E taken r r') :
    r'.p2pPart = r.p2pPart ∨
    ∃ pkt srcSide o, taken = some (pkt, srcSide) ∧ pkt.ty = S.p2pTypeId ∧ packetId S pkt ∉ r.recentSet ∧
      r'.p2pPart = (dispatchP2pPacket S E (r.setOwner o) pkt).2.p2pPart := by
  cases h with
  | drops o _ heq =>
    subst heq
    exact .inl rfl
  | takes o item _ hview htaken heq =>
    have hpart : r'.p2pPart = (receivePacket S Z E (r.setOwner o) item).p2pPart := by
      rcases heq with rfl | rfl
      · rfl
      · rfl
    have hrecent : o.recentSet = r.recentSet := congrArg (fun view => view.2.1) hview
    rcases routerReceiveImpl_p2pPart (S := S) (Z := Z) (E := E) ((r.setOwner o).setOwner (o.observe (.receive item))) item.pkt
      item.srcSide with hsame | ⟨hty, hfresh, o', heq'⟩
    · exact .inl (hpart.trans hsame)
    · refine .inr ⟨item.pkt, item.srcSide, o', htaken, hty, ?_, hpart.trans heq'⟩
      rw [← hrecent]
      exact hfresh

/-! ## Acts -/

variable (S Z E)

/-- The acts that take packets. -/
def receives : Act → Bool
  | .receiveSerialized _ => true
  | .receive _ => true
  | .receiveSerializedFromSide _ _ => true
  | .receiveFromSide _ _ => true
  | .receiveNext => true
  | _ => false

theorem perform_arrives (r : Router) {act : Act} (h : receives act = true) :
    Arrives (fun _ => True) (fun _ => True) (fun _ => True) S Z E (r.taken S Z act) r (perform S Z E r act) := by
  have hcontrols : Controls (fun _ => True) (fun _ => True) S := ⟨fun _ _ _ _ _ _ _ => trivial, fun _ _ _ _ => trivial⟩
  cases act with
  | receiveSerialized bytes => exact receiveSerialized_arrives S Z E hcontrols trivial trivial fun _ _ _ => trivial
  | receive view => exact receive_arrives S Z E r view
  | receiveSerializedFromSide sideId bytes =>
    exact receiveSerializedFromSide_arrives S Z E hcontrols trivial trivial (fun _ _ => trivial) fun _ _ _ => trivial
  | receiveFromSide sideId view => exact receiveFromSide_arrives S Z E r sideId view
  | receiveNext => exact receiveNext_arrives S Z E hcontrols (fun _ _ => trivial) fun _ _ _ => trivial
  | _ => cases h

theorem setUp_streams (r : Router) (setup : Setup) : (r.setUp S E setup).2.streams = r.streams := by
  cases setup with
  | currentAddress => exact streams_of_p2pPart (localP2pAddress_p2pPart r)
  | resolveHostnameAddress hostname => exact streams_of_p2pPart (resolveP2pHost_p2pPart r hostname)
  | configureTimesync enabled role priority sourceTimeoutMs announceIntervalMs requestIntervalMs =>
    change (configureTimesync E r enabled role priority sourceTimeoutMs announceIntervalMs requestIntervalMs).streams = _
    unfold configureTimesync
    dsimp only
    split
    · rfl
    · rfl
  | getNetworkTimeMs =>
    have hswitched : (switchSource E r).p2pPart = r.p2pPart := by
      unfold switchSource
      split
      · rfl
      · dsimp only
        split
        · rfl
        · split
          · rfl
          · exact currentNetworkMs_p2pPart E _
    change (getNetworkTimeMs E r).2.streams = _
    unfold getNetworkTimeMs
    split
    · rfl
    · exact streams_of_p2pPart ((currentNetworkMs_p2pPart E _).trans hswitched)
  | setSender _ => rfl
  | setSenderId _ => rfl
  | clearP2pPort _ => rfl
  | clearP2pStreamPort _ => rfl
  | disableManagedVariable _ => rfl
  | setLocalNetworkTime _ => rfl
  | _ =>
    unfold setUp
    dsimp only
    split
    · rfl
    · rfl

theorem openP2pStream_streams (found : Option (Bytes × UInt32) × Router) (dstPort srcPort : UInt16) :
    StreamStep found.2.p2pStreamSessions found.2.p2pNextStreamId (openP2pStream S E found dstPort srcPort).2.streams := by
  obtain ⟨peer, r⟩ := found
  cases peer with
  | none => exact .same
  | some peer =>
    unfold openP2pStream
    dsimp only
    rw [allocateP2pStreamId_eq]
    split
    · exact .same
    · split
      · exact .full
      · rename_i hid
        rw [streams_of_p2pPart (enqueueP2pPacket_p2pPart S E _ _ _ _)]
        exact .opens _ hid

theorem erase_insert (sessions : Map UInt32 P2pStreamSession) (id : UInt32) (session : P2pStreamSession) :
    (sessions.insert id session).erase id = sessions.erase id := by
  apply AList.ext
  exact List.kerase_cons_eq rfl

theorem sendP2pStreamControl_streams (r : Router) (streamId : UInt32) (flags : UInt8) (payload : Bytes) :
    StreamStep r.p2pStreamSessions r.p2pNextStreamId (sendP2pStreamControl S E r streamId flags payload).2.streams := by
  unfold sendP2pStreamControl
  cases hsession : r.p2pStreamSessions.lookup streamId with
  | none => exact .same
  | some session =>
    dsimp only
    generalize hcounted : ({ session with nextSequence := if session.nextSequence + 1 = 0 then 1 else session.nextSequence + 1 } :
      P2pStreamSession) = counted
    generalize hr : ({ r with p2pStreamSessions := r.p2pStreamSessions.insert streamId counted } : Router) = r₁
    have hstreams : r₁.streams = (r.p2pStreamSessions.insert streamId counted, r.p2pNextStreamId) := by
      rw [← hr]
      rfl
    split
    · have hqueued := Prod.mk.inj (streams_of_p2pPart (enqueueP2pPacket_p2pPart S E r₁ session.peerPort session.localPort
        (encodeP2pStreamPayload flags streamId session.peerStreamId session.nextSequence payload)))
      obtain ⟨hsessions, hnext⟩ := Prod.mk.inj hstreams
      unfold streams
      dsimp only
      rw [hqueued.1, hqueued.2, hsessions, hnext, erase_insert]
      exact .closes streamId
    · rw [streams_of_p2pPart (enqueueP2pPacket_p2pPart S E r₁ _ _ _), hstreams]
      exact .updates _ _ (Map.mem_iff_lookup.mpr ⟨session, hsession⟩)

theorem queueManagedRequest_streams (r : Router) (ty : UInt32) :
    (queueManagedRequest S E r ty).2.streams = r.streams := by
  unfold queueManagedRequest
  split
  · rfl
  · dsimp only
    exact streams_of_p2pPart (currentNetworkMs_p2pPart E r)

theorem rememberManagedPacket_streams (r : Router) (pkt : PacketData) :
    (rememberManagedPacket S Z E r pkt).2.streams = r.streams := by
  unfold rememberManagedPacket
  split
  · rfl
  · exact streams_of_p2pPart (rememberManagedVariablePacket_p2pPart S Z E _ pkt)

theorem pollRole_streams (r : Router) (now : UInt64) : (pollRole S E r now).streams = r.streams := by
  unfold pollRole
  dsimp only
  split
  · exact streams_of_p2pPart (currentNetworkMs_p2pPart E r)
  · split
    · unfold requestTime
      dsimp only
      generalize (if r.timesync.currentSource.isEmpty = true then r.routedSource else r.timesync.currentSource) = source
      split
      · rfl
      · rfl
    · rfl

theorem pollTimesync_streams (r : Router) : (pollTimesync S E r).streams = r.streams := by
  unfold pollTimesync
  split
  · rfl
  · exact pollRole_streams S E _ _

theorem transmitNext_streams (r : Router) : (transmitNext S Z E r).2.streams = r.streams := by
  have htracked : ∀ (r : Router) (pkt : PacketData) (sides : List Int32),
      (trackEndToEnd S E r pkt sides).streams = r.streams := by
    intro r pkt sides
    unfold trackEndToEnd
    split
    · dsimp only
      split
      · rfl
      · rfl
    · rfl
  have hlocal : ∀ (r : Router) (item : TxItem), (deliverLocal S Z E r item).2.streams = r.streams := by
    intro r item
    unfold deliverLocal
    split
    · dsimp only
      split
      · rfl
      · rfl
    · rfl
  have hsent : ∀ (r : Router) (item : TxItem), (transmitItem S Z E r item).2.streams = r.streams := by
    intro r item
    have hdelivered := hlocal r item
    unfold transmitItem
    generalize deliverLocal S Z E r item = p at hdelivered ⊢
    obtain ⟨ok, r₁⟩ := p
    cases ok with
    | false => exact hdelivered
    | true => exact (htracked _ _ _).trans hdelivered
  unfold transmitNext
  cases r.txQueue.pop TxItem.byteCost with
  | none => rfl
  | some p =>
    obtain ⟨item, queue⟩ := p
    have hround := hsent (r.setOwner { r.toOwner with txQueue := queue }) item
    dsimp only
    split
    · exact hround
    · exact hround

theorem processEndToEndReliableTimeouts_streams (r : Router) :
    (processEndToEndReliableTimeouts S E r).streams = r.streams := by
  have hreconciled : ∀ (entries : List ((_ : UInt64) × EndToEndReliableSent)) (r : Router),
      (entries.foldl (reconcileEntry S E) r).streams = r.streams := by
    intro entries
    induction entries with
    | nil => exact fun _ => rfl
    | cons e rest ih =>
      intro r
      rw [List.foldl_cons, ih]
      unfold reconcileEntry
      split
      · rfl
      · rfl
  have hrequeued : ∀ (now : UInt64) (ids : List UInt64) (r : Router),
      (ids.foldl (requeueEndToEnd now) r).streams = r.streams := by
    intro now ids
    induction ids with
    | nil => exact fun _ => rfl
    | cons id rest ih =>
      intro r
      rw [List.foldl_cons, ih]
      unfold requeueEndToEnd
      split
      · rfl
      · dsimp only
        split
        · rfl
        · rfl
  unfold processEndToEndReliableTimeouts
  dsimp only
  rw [hrequeued]
  exact hreconciled _ _

theorem perform_streams (r : Router) (act : Act) :
    StreamStep r.p2pStreamSessions r.p2pNextStreamId (perform S Z E r act).streams := by
  have hsame : ∀ r' : Router, r'.streams = r.streams → StreamStep r.p2pStreamSessions r.p2pNextStreamId r'.streams :=
    fun _ heq => .of_eq heq
  cases hreceives : receives act with
  | true =>
    rcases (perform_arrives S Z E r hreceives).p2pPart with heq | ⟨pkt, srcSide, o, -, -, -, heq⟩
    · exact hsame _ (streams_of_p2pPart heq)
    · rw [streams_of_p2pPart heq]
      exact dispatchP2pPacket_streams (r.setOwner o) pkt
  | false =>
    cases act with
    | configure setting => exact .same
    | setUp setup => exact hsame _ (setUp_streams S E r setup)
    | logBytesEx ty data timestamp queue =>
      apply hsame
      change (logBytesEx S Z E r ty data timestamp queue).2.streams = _
      unfold logBytesEx
      split
      · rfl
      · cases timestamp with
        | none => rfl
        | some ts => rfl
    | transmitMessage view =>
      apply hsame
      change (transmitMessage S E r view).2.streams = _
      unfold transmitMessage transmitMessageQueue
      cases packetFromView S view with
      | none => rfl
      | some pkt =>
        dsimp only
        split
        · rfl
        · rfl
    | transmitMessageQueue view =>
      apply hsame
      change (transmitMessageQueue S r view).2.streams = _
      unfold transmitMessageQueue
      cases packetFromView S view with
      | none => rfl
      | some pkt => rfl
    | transmitSerializedMessageQueue bytes =>
      apply hsame
      change (transmitSerializedMessageQueue S Z r bytes).2.streams = _
      unfold transmitSerializedMessageQueue
      split
      · rfl
      · rfl
    | sendP2pToHostname hostname dstPort srcPort payload =>
      apply hsame
      have hfound := streams_of_p2pPart (resolveP2pHost_p2pPart r hostname)
      change (sendP2p S E (r.resolveP2pHost hostname) dstPort srcPort payload).2.streams = _
      unfold sendP2p
      split
      · rename_i heq
        rw [heq] at hfound
        exact hfound
      · rename_i heq
        rw [heq] at hfound
        exact (streams_of_p2pPart (enqueueP2pPacket_p2pPart S E _ _ _ _)).trans hfound
    | sendP2pToAddress address dstPort srcPort payload =>
      apply hsame
      have hfound := streams_of_p2pPart (resolveP2pAddress_p2pPart r address)
      change (sendP2p S E (r.resolveP2pAddress address) dstPort srcPort payload).2.streams = _
      unfold sendP2p
      split
      · rename_i heq
        rw [heq] at hfound
        exact hfound
      · rename_i heq
        rw [heq] at hfound
        exact (streams_of_p2pPart (enqueueP2pPacket_p2pPart S E _ _ _ _)).trans hfound
    | openP2pStreamToHostname hostname dstPort srcPort =>
      exact (openP2pStream_streams S E _ dstPort srcPort).of_streams (streams_of_p2pPart (resolveP2pHost_p2pPart r hostname))
    | openP2pStreamToAddress address dstPort srcPort =>
      change StreamStep _ _ (openP2pStreamToAddress S E r address dstPort srcPort).2.streams
      unfold openP2pStreamToAddress
      split
      · exact .same
      · exact (openP2pStream_streams S E _ dstPort srcPort).of_streams (streams_of_p2pPart (resolveP2pAddress_p2pPart r address))
    | sendP2pStream streamId payload => exact sendP2pStreamControl_streams S E r streamId kP2pStreamData payload
    | closeP2pStream streamId => exact sendP2pStreamControl_streams S E r streamId kP2pStreamFin []
    | resetP2pStream streamId => exact sendP2pStreamControl_streams S E r streamId kP2pStreamRst []
    | requestManagedVariable ty =>
      apply hsame
      change (requestManagedVariable S E r ty).2.streams = _
      unfold requestManagedVariable
      split
      · rfl
      · dsimp only
        split
        · rfl
        · exact queueManagedRequest_streams S E _ ty
    | setNetworkVariablePacked bytes =>
      apply hsame
      change (setNetworkVariablePacked S Z E r bytes).2.streams = _
      unfold setNetworkVariablePacked
      split
      · rfl
      · rename_i pkt o _
        dsimp only
        split
        · rfl
        · have hremembered := rememberManagedPacket_streams S Z E ((r.setOwner o).enablePolicy pkt.ty).2 pkt
          split
          · exact hremembered
          · exact hremembered
    | seedManagedVariablePacked bytes =>
      apply hsame
      change (seedManagedVariablePacked S Z E r bytes).2.streams = _
      unfold seedManagedVariablePacked
      split
      · rfl
      · rename_i pkt o _
        exact rememberManagedPacket_streams S Z E (r.setOwner o) pkt
    | getNetworkVariablePacked ty staleAfterMs =>
      apply hsame
      change (getNetworkVariablePacked S E r ty staleAfterMs).2.streams = _
      unfold getNetworkVariablePacked
      split
      · rfl
      · split
        · exact queueManagedRequest_streams S E r ty
        · split
          · rfl
          · dsimp only
            split
            · exact queueManagedRequest_streams S E _ ty
            · rfl
    | pollTimesync => exact hsame _ (pollTimesync_streams S E r)
    | announceDiscovery => exact .same
    | pollDiscovery => exact .same
    | rxSerializedPacketToQueue bytes =>
      apply hsame
      change (rxSerializedPacketToQueue S Z r bytes).2.streams = _
      unfold rxSerializedPacketToQueue
      split
      · rfl
      · rfl
    | rxPacketToQueue view =>
      apply hsame
      change (rxPacketToQueue S r view).2.streams = _
      unfold rxPacketToQueue
      split
      · rfl
      · rfl
    | rxSerializedPacketToQueueFromSide sideId bytes => exact .same
    | rxPacketToQueueFromSide sideId view => exact .same
    | reliableTimeouts => exact .same
    | endToEndTimeouts => exact hsame _ (processEndToEndReliableTimeouts_streams S E r)
    | transmitNext => exact hsame _ (transmitNext_streams S Z E r)
    | sideTx active => exact .same
    | _ => cases hreceives

theorem perform_zero {r : Router} (hzero : 0 ∉ r.p2pStreamSessions) (act : Act) : 0 ∉ (perform S Z E r act).p2pStreamSessions :=
  (perform_streams S Z E r act).zero hzero

/-- The event is that of the packet which the act takes. -/
def Told (r : Router) (act : Act) (e : Obs) : Prop :=
  e.fromPeer = true → ∃ pkt srcSide, r.taken S Z act = some (pkt, srcSide) ∧ packetId S pkt ∉ r.recentSet ∧
    pkt.ty = S.p2pTypeId ∧ e ∈ r.peerEvent pkt

/-- **Peer-to-peer handlers are told of nothing but the packet that is received.** -/
theorem perform_told (r : Router) (act : Act) : ∃ l, (perform S Z E r act).obs = r.obs ++ l ∧ ∀ e ∈ l, Told S Z r act e := by
  have hother : ∀ e : Obs, e.fromPeer = false → Told S Z r act e := by
    intro e hnot htold
    rw [hnot] at htold
    cases htold
  have hsends : Sends (fun _ => True) (Told S Z r act) (fun _ _ => True) S Z E r act := by
    constructor
    case silent => exact fun e _ hnot => hother e hnot
    case peer => exact fun pkt srcSide htaken hfresh hty e he _ => ⟨pkt, srcSide, htaken, hfresh, hty, he⟩
    case hears => exact fun _ => hother _ rfl
    case configure => exact fun _ _ => hother _ rfl
    case routed => exact fun _ _ => trivial
    case ack => exact fun _ _ _ _ => trivial
    case response => exact fun _ _ _ _ => trivial
    case due => exact fun _ _ _ _ => hother _ rfl
    case request => exact fun _ _ _ _ _ _ _ => hother _ rfl
    case latest => exact fun _ _ _ _ _ _ => trivial
    case again => exact fun _ _ => hother _ rfl
    case requeues => exact fun _ _ _ _ => ⟨fun _ _ _ => trivial, fun _ => trivial⟩
    case carries => exact fun _ _ _ _ _ _ _ => ⟨hother _ rfl, fun _ _ => hother _ rfl, fun _ _ _ _ => hother _ rfl, hother _ rfl⟩
    case entry => exact fun _ _ _ _ _ _ _ => trivial
  have hplain : ∀ e : Obs, e.plain = true → Told S Z r act e := by
    intro e he
    apply hother
    cases e <;> first | rfl | cases he
  have hgrants : Grants (fun _ => True) (Told S Z r act) S :=
    ⟨⟨fun _ _ _ _ _ _ _ => trivial, hplain⟩, fun _ => hother _ rfl, fun _ _ _ _ _ => trivial, fun _ _ _ _ _ _ => trivial,
      fun _ _ _ _ => trivial⟩
  exact (perform_moves S hgrants Z E hsends.demands).owner.trace

/-! ## Runs -/

/-- A session that is changed by the packet, or whose handlers are told of it, is one of its sender. Kind 1 is the event
    of a new session. -/
def Listens (pkt : PacketData) (r r' : Router) : Prop :=
  ∀ id, (r'.p2pStreamSessions.lookup id ≠ r.p2pStreamSessions.lookup id ∨
      ∃ port kind payload, kind ≠ 1 ∧ .streamEvent port kind id payload ∈ r'.obs.drop r.obs.length) →
    ∃ msg frame, S.streamFrame pkt = some (msg, frame) ∧ OfSender msg r.p2pStreamSessions r'.p2pStreamSessions id

/-- No new packet that is taken names a foreign session by its id. -/
def Unforged (r : Router) (act : Act) : Prop :=
  ∀ p ∈ r.taken S Z act, packetId S p.1 ∉ r.recentSet → ∀ q ∈ S.streamFrame p.1, r.NamesOwn q.1 q.2

instance (r : Router) (act : Act) : Decidable (r.Unforged S Z act) :=
  inferInstanceAs (Decidable (∀ p ∈ r.taken S Z act, packetId S p.1 ∉ r.recentSet → ∀ q ∈ S.streamFrame p.1, r.NamesOwn q.1 q.2))

theorem NamesOwn.of_sessions {r r' : Router} {msg : P2pDatagram} {frame : P2pStreamFrame} (h : r.NamesOwn msg frame)
    (hsessions : r'.p2pStreamSessions = r.p2pStreamSessions) : r'.NamesOwn msg frame := by
  unfold NamesOwn
  rw [hsessions]
  exact h

theorem perform_listens {r : Router} {act : Act} (hzero : 0 ∉ r.p2pStreamSessions) (hunforged : r.Unforged S Z act)
    {pkt : PacketData} {srcSide : Option Int32} (htaken : r.taken S Z act = some (pkt, srcSide)) :
    Listens S pkt r (perform S Z E r act) := by
  have hreceives : receives act = true := by
    cases act <;> first | rfl | cases htaken
  obtain ⟨l, hobs, htold⟩ := perform_told S Z E r act
  have hnames : ∀ msg frame, S.streamFrame pkt = some (msg, frame) → packetId S pkt ∉ r.recentSet → r.NamesOwn msg frame :=
    fun msg frame hframe hfresh => hunforged (pkt, srcSide) htaken hfresh (msg, frame) hframe
  intro id htouched
  rw [hobs, List.drop_left] at htouched
  rcases htouched with hchanged | ⟨port, kind, payload, hkind, hevent⟩
  · rcases (perform_arrives S Z E r hreceives).p2pPart with hsame | ⟨pkt', srcSide', o, htaken', hty, hfresh, hpart⟩
    · exact absurd (by rw [sessions_of_p2pPart hsame]) hchanged
    · have hsessions := sessions_of_p2pPart hpart
      rw [htaken, Option.some.injEq, Prod.mk.injEq] at htaken'
      obtain ⟨rfl, -⟩ := htaken'
      rcases dispatchP2pPacket_sessions (E := E) (r.setOwner o) pkt hty with ⟨-, hsame⟩ | ⟨msg, frame, hframe, heq⟩
      · exact absurd (by rw [hsessions, hsame]; rfl) hchanged
      · have hlearned : ((r.setOwner o).learnPeer msg).p2pStreamSessions = r.p2pStreamSessions :=
          sessions_of_p2pPart (learnPeer_p2pPart (r.setOwner o) msg)
        refine ⟨msg, frame, hframe, ?_⟩
        rw [hsessions, heq] at hchanged ⊢
        rw [← hlearned] at hchanged ⊢
        exact dispatchP2pStream_ofSender (hlearned ▸ hzero) ((hnames msg frame hframe hfresh).of_sessions hlearned) id hchanged
  · obtain ⟨pkt', srcSide', htaken', hfresh, hty, hmem⟩ := htold _ hevent rfl
    rw [htaken, Option.some.injEq, Prod.mk.injEq] at htaken'
    obtain ⟨rfl, -⟩ := htaken'
    obtain ⟨hmem, -⟩ := Option.filter_eq_some_iff.mp hmem
    unfold eventOf at hmem
    cases hmsg : decodeP2pPayload pkt.payload with
    | none =>
      rw [hmsg] at hmem
      cases hmem
    | some msg =>
      rw [hmsg] at hmem
      dsimp only at hmem
      cases hstream : decodeP2pStreamPayload msg.payload with
      | none =>
        rw [hstream] at hmem
        cases hmem
      | some frame =>
        rw [hstream] at hmem
        have hframe : S.streamFrame pkt = some (msg, frame) := by
          unfold Schema.streamFrame
          rw [if_pos hty, hmsg]
          dsimp only
          rw [hstream]
          rfl
        exact ⟨msg, frame, hframe, streamEventOf_ofSender hzero (hnames msg frame hframe hfresh) hkind hmem _⟩

/-- **A stream session only listens to its peer**, in every run in which no frame names a foreign session by its id. -/
theorem session_listens (r : Router) (acts : List Act) (hstart : r.p2pStreamSessions = ∅)
    (hunforged : Along (perform S Z E) (Unforged S Z) r acts) :
    ∀ before act after, acts = before ++ act :: after →
      let r' := runFrom (perform S Z E) r before
      ∀ pkt srcSide, r'.taken S Z act = some (pkt, srcSide) → Listens S pkt r' (perform S Z E r' act) := by
  rintro before act after rfl r' pkt srcSide htaken
  have hzero : 0 ∉ r.p2pStreamSessions := by
    rw [hstart]
    exact AList.notMem_empty 0
  obtain ⟨hinv, hact⟩ := hunforged.invariant_before (I := fun r => 0 ∉ r.p2pStreamSessions) hzero
    fun r act _ h => perform_zero S Z E h act
  exact perform_listens S Z E hinv hact htaken

end

/-! ## A stream to `H`, and frames that name it -/

/-- A peer-to-peer message from a host, from port 7 to port 8. -/
def messageFrom (host payload : Bytes) : SedsPacketView :=
  let data := encodeP2pPayload host (addressForSender host) 7 8 payload
  ⟨1018, host, some [201], 0, some data, UInt64.ofNat data.length⟩

/-- RST for stream 1. -/
def resetFrom (host : Bytes) : SedsPacketView := messageFrom host (encodeP2pStreamPayload kP2pStreamRst 1 1 0 [])

/-- `H` is heard of, a stream to it is opened, and a reset comes for that stream. -/
def resetActs (host : Bytes) : List Act :=
  [.receiveFromSide 0 (messageFrom (ascii "H") [1]), .openP2pStreamToHostname (ascii "H") 7 8, .receiveFromSide 0 (resetFrom host)]

def streamRouter : Router := .new .Sink (ascii "R") [.serialized [] true] []

/-- `H` resets the stream. -/
theorem session_listens_reset :
    let r := runFrom (perform defaultTestSchema (.absent 16) .calm) streamRouter ((resetActs (ascii "H")).take 2)
    let r' := perform defaultTestSchema (.absent 16) .calm r (.receiveFromSide 0 (resetFrom (ascii "H")))
    (1 ∈ r.p2pStreamSessions ∧ 1 ∉ r'.p2pStreamSessions) ∧
      ∀ pkt srcSide, r.taken defaultTestSchema (.absent 16) (.receiveFromSide 0 (resetFrom (ascii "H"))) = some (pkt, srcSide) →
        Listens defaultTestSchema pkt r r' := by
  intro r r'
  have hrun : Along (perform defaultTestSchema (.absent 16) .calm) (Unforged defaultTestSchema (.absent 16)) streamRouter
      (resetActs (ascii "H")) ∧ 1 ∈ r.p2pStreamSessions ∧ 1 ∉ r'.p2pStreamSessions := by
    unfold r' r
    rw [defaultTestSchema_eq]
    decide +kernel
  obtain ⟨hunforged, hgone⟩ := hrun
  exact ⟨hgone, session_listens defaultTestSchema (.absent 16) .calm streamRouter (resetActs (ascii "H")) rfl hunforged
    ((resetActs (ascii "H")).take 2) _ [] rfl⟩

/-- `X` resets the stream to `H`. -/
theorem session_obeys_stranger :
    let r := runFrom (perform defaultTestSchema (.absent 16) .calm) streamRouter ((resetActs (ascii "X")).take 2)
    let r' := perform defaultTestSchema (.absent 16) .calm r (.receiveFromSide 0 (resetFrom (ascii "X")))
    (1 ∈ r.p2pStreamSessions ∧ 1 ∉ r'.p2pStreamSessions) ∧
      ∃ pkt srcSide, r.taken defaultTestSchema (.absent 16) (.receiveFromSide 0 (resetFrom (ascii "X"))) = some (pkt, srcSide) ∧
        ¬ Listens defaultTestSchema pkt r r' := by
  intro r r'
  have hrun : (∀ p ∈ r.taken defaultTestSchema (.absent 16) (.receiveFromSide 0 (resetFrom (ascii "X"))),
      ∀ q ∈ defaultTestSchema.streamFrame p.1, ∀ session ∈ r.p2pStreamSessions.lookup 1, ¬ session.peerIs q.1) ∧
      (1 ∈ r.p2pStreamSessions ∧ 1 ∉ r'.p2pStreamSessions) ∧
      (r.taken defaultTestSchema (.absent 16) (.receiveFromSide 0 (resetFrom (ascii "X")))).isSome = true := by
    unfold r' r
    rw [defaultTestSchema_eq]
    decide +kernel
  obtain ⟨hforged, hgone, hsome⟩ := hrun
  refine ⟨hgone, ?_⟩
  cases htaken : r.taken defaultTestSchema (.absent 16) (.receiveFromSide 0 (resetFrom (ascii "X"))) with
  | none =>
    rw [htaken] at hsome
    cases hsome
  | some p =>
    refine ⟨p.1, p.2, rfl, ?_⟩
    intro hlistens
    obtain ⟨session, hsession⟩ := Option.isSome_iff_exists.mp (AList.lookup_isSome.mpr hgone.1)
    obtain ⟨msg, frame, hframe, found, hpeer, hfound⟩ := hlistens 1 (.inl (by
      rw [AList.lookup_eq_none.mpr hgone.2, hsession]
      exact fun h => nomatch h))
    rcases hfound with hfound | ⟨hnone, -⟩
    · exact hforged p htaken (msg, frame) hframe found hfound hpeer
    · rw [hsession] at hnone
      cases hnone

end Router

end SedsNet
