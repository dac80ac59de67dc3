import SedsNet.Sessions

/-!
# Streams that are rejected

`dispatch_p2p_stream` opens the session of a SYN before the handlers of the port are told of it. A handler that rejects the stream
ends the call, and the session stays: to the next SYN from the same source, which every peer without an answer sends, it is the
session of a peer that repeats itself, and the reply goes out without anybody being asked.
-/

set_option autoImplicit false

namespace SedsNet

open Lib

/-- A SYN without ACK. -/
def P2pStreamFrame.isSyn (frame : P2pStreamFrame) : Bool :=
  frame.flags &&& kP2pStreamSyn != 0 && frame.flags &&& kP2pStreamAck == 0

/-- A stream frame, with the message that carries it. -/
abbrev Syn : Type := P2pDatagram × P2pStreamFrame

/-- Host, address, ports and stream id are the same. -/
def Syn.SameSource (s t : Syn) : Prop :=
  t.1.sourceHostname = s.1.sourceHostname ∧ t.1.sourceAddress = s.1.sourceAddress ∧ t.1.sourcePort = s.1.sourcePort ∧
    t.1.destinationPort = s.1.destinationPort ∧ t.2.sourceStreamId = s.2.sourceStreamId

instance (s t : Syn) : Decidable (s.SameSource t) := inferInstanceAs (Decidable (_ ∧ _ ∧ _ ∧ _ ∧ _))

/-- A queued SYN with ACK. -/
def TxItem.isSynAck (item : TxItem) : Bool :=
  match decodeP2pPayload item.pkt.payload with
  | none => false
  | some msg =>
    match decodeP2pStreamPayload msg.payload with
    | none => false
    | some frame => frame.flags == kP2pStreamSyn ||| kP2pStreamAck

namespace Router

/-- There is a session for the source. -/
def HasSession (r : Router) (s : Syn) : Prop :=
  ∃ id session, r.p2pStreamSessions.lookup id = some session ∧ session.peerIs s.1 ∧ session.peerStreamId = s.2.sourceStreamId

/-- A SYN makes an accept event: its source has no session, and there is an id for a new one. -/
def Offers (r : Router) (s : Syn) : Prop :=
  s.2.isSyn ∧ (r.findSession s.1 s.2).getD 0 = 0 ∧ r.allocateP2pStreamId.1 ≠ 0

instance (r : Router) (s : Syn) : Decidable (r.Offers s) := inferInstanceAs (Decidable (_ ∧ _ ∧ _))

/-- The router the handlers are called in, the session made. -/
def opened (r : Router) (s : Syn) : Router :=
  { r.allocateP2pStreamId.2 with
    p2pStreamSessions := r.allocateP2pStreamId.2.p2pStreamSessions.insert r.allocateP2pStreamId.1 (openedSession s.1 s.2) }

section

variable (S : Schema) (E : Env)

/-- What the handlers of the port say to the accept event. -/
def answerTo (r : Router) (s : Syn) : Bool :=
  ((r.opened s).callStreamHandlers E s.1.destinationPort 1 r.allocateP2pStreamId.1 s.2.payload).1

/-- The accept event is offered, and a handler rejects it. -/
def Rejects (r : Router) (s : Syn) : Prop := r.Offers s ∧ r.answerTo E s = false

instance (r : Router) (s : Syn) : Decidable (r.Rejects E s) := inferInstanceAs (Decidable (_ ∧ _))

/-- The accept event is offered, and no handler rejects it. -/
def Accepts (r : Router) (s : Syn) : Prop := r.Offers s ∧ r.answerTo E s = true

/-- `dispatch_p2p_stream`, the result dropped. -/
def takeSyn (r : Router) (s : Syn) : Router := (dispatchP2pStream S E r s.1 s.2).2

/-- A SYN with ACK is queued on the way from one state to the other. -/
def QueuesSynAck (r r' : Router) : Prop :=
  r.txQueue.items.countP TxItem.isSynAck < r'.txQueue.items.countP TxItem.isSynAck

/-- What is to hold of a stream that was rejected, when these SYNs from its source follow: it has no session, and gets no reply
    but after an accept event that the handlers accept. -/
def StaysRejected (r : Router) (s : Syn) (syns : List Syn) : Prop :=
  ¬HasSession (runFrom (takeSyn S E) r (s :: syns)) s ∧
    ∀ before t after, syns = before ++ t :: after →
      QueuesSynAck (runFrom (takeSyn S E) r (s :: before)) (runFrom (takeSyn S E) r (s :: (before ++ [t]))) →
      ∃ before' t' after', before ++ [t] = before' ++ t' :: after' ∧ Accepts E (runFrom (takeSyn S E) r (s :: before')) t'

variable {S E}

/-! ## One frame -/

theorem takeSyn_of_syn (r : Router) {s : Syn} (hsyn : s.2.isSyn) :
    dispatchP2pStream S E r s.1 s.2 = dispatchSyn S E r s.1 s.2 := by
  obtain ⟨hflag, hack⟩ : s.2.flags &&& kP2pStreamSyn ≠ 0 ∧ s.2.flags &&& kP2pStreamAck = 0 := by
    simpa [P2pStreamFrame.isSyn] using hsyn
  have hflags : s.2.flags ≠ 0 := by
    intro h0
    rw [h0] at hflag
    exact hflag (by decide)
  unfold dispatchP2pStream
  rw [if_neg hflags, if_pos ⟨hflag, hack⟩]

/-- The search finds a session of the source, if there is one. -/
theorem findSession_of_hasSession {r : Router} {s : Syn} (h : HasSession r s) : (r.findSession s.1 s.2).isSome = true := by
  obtain ⟨id, session, hsession, ⟨hname, haddress, hport, hlocal⟩, hid⟩ := h
  unfold findSession
  rw [Option.isSome_map, List.find?_isSome]
  refine ⟨⟨id, session⟩, AList.mem_lookup_iff.mp hsession, ?_⟩
  simp [hid, hname, haddress, hport, hlocal]

/-- A session of the source stays, whatever a SYN does. -/
theorem takeSyn_hasSession {r : Router} {s t : Syn} (h : HasSession r s) (hsyn : t.2.isSyn) : HasSession (takeSyn S E r t) s := by
  obtain ⟨id, session, hsession, hpeer⟩ := h
  refine ⟨id, session, ?_, hpeer⟩
  unfold takeSyn
  rw [takeSyn_of_syn r hsyn, dispatchSyn_sessions]
  split
  · exact hsession
  · rename_i hknown
    have hfresh := allocateP2pStreamId_fresh (not_or.mp hknown).2
    refine (AList.lookup_insert_ne ?_).trans hsession
    rintro rfl
    rw [hfresh] at hsession
    cases hsession

/-- **A rejection leaves the session behind.** -/
theorem rejects_hasSession {r : Router} {s : Syn} (h : r.Rejects E s) : HasSession (takeSyn S E r s) s := by
  obtain ⟨⟨hsyn, hnone, hid⟩, -⟩ := h
  refine ⟨r.allocateP2pStreamId.1, openedSession s.1 s.2, ?_, ⟨rfl, rfl, rfl, rfl⟩, rfl⟩
  unfold takeSyn
  rw [takeSyn_of_syn r hsyn, dispatchSyn_sessions, if_neg (not_or.mpr ⟨not_not.mpr hnone, hid⟩)]
  exact AList.lookup_insert _

theorem openSession_eq (r : Router) (s : Syn) :
    dispatchSyn.openSession S E s.1 s.2 r =
      if r.allocateP2pStreamId.1 = 0 then ( SEDS_IO, r.allocateP2pStreamId.2)
      else
        let called := (r.opened s).callStreamHandlers E s.1.destinationPort 1 r.allocateP2pStreamId.1 s.2.payload
        if !r.answerTo E s then (SEDS_HANDLER_ERROR, called.2)
        else replySyn S E called.2 s.1 s.2 r.allocateP2pStreamId.1 := rfl

/-- The rejection is what the caller is told. -/
theorem rejects_rc {r : Router} {s : Syn} (h : r.Rejects E s) : (dispatchP2pStream S E r s.1 s.2).1 = SEDS_HANDLER_ERROR := by
  obtain ⟨⟨hsyn, hnone, hid⟩, hno⟩ := h
  have hopen : (dispatchSyn.openSession S E s.1 s.2 r).1 = SEDS_HANDLER_ERROR := by
    rw [openSession_eq, if_neg hid, hno]
    rfl
  rw [takeSyn_of_syn r hsyn]
  unfold dispatchSyn
  cases hfound : r.findSession s.1 s.2 with
  | none => exact hopen
  | some localId =>
    rw [hfound, Option.getD_some] at hnone
    dsimp only
    rw [if_neg (not_not.mpr hnone)]
    exact hopen

/-- A SYN from a source with a session is answered, and no handler is asked. -/
theorem answers_of_hasSession {r : Router} {s t : Syn} (hzero : 0 ∉ r.p2pStreamSessions) (h : HasSession r s) (hsyn : t.2.isSyn)
    (hsame : s.SameSource t) :
    ¬r.Offers t ∧ ∃ id ≠ 0, dispatchP2pStream S E r t.1 t.2 = replySyn S E r t.1 t.2 id := by
  obtain ⟨hname, haddress, hport, hlocal, hstream⟩ := hsame
  have ht : HasSession r t := by
    obtain ⟨id, session, hsession, ⟨hname', haddress', hport', hlocal'⟩, hid⟩ := h
    exact ⟨id, session, hsession, ⟨hname.trans hname', haddress.trans haddress', hport.trans hport', hlocal.trans hlocal'⟩,
      hid.trans hstream.symm⟩
  obtain ⟨id, hfound⟩ := Option.isSome_iff_exists.mp (findSession_of_hasSession ht)
  obtain ⟨session, hsession, -⟩ := findSession_spec hfound
  have hid : id ≠ 0 := ne_zero_of_lookup hzero hsession
  refine ⟨fun hoffers => hid ?_, id, hid, ?_⟩
  · have := hoffers.2.1
    rwa [hfound, Option.getD_some] at this
  · rw [takeSyn_of_syn r hsyn]
    unfold dispatchSyn
    rw [hfound]
    exact if_pos hid

/-! ## A run of SYNs -/

theorem takeSyns_hasSession {r : Router} {s : Syn} (h : HasSession r s) {syns : List Syn} (hsyns : ∀ t ∈ syns, t.2.isSyn) :
    HasSession (runFrom (takeSyn S E) r syns) s :=
  (along_of_forall hsyns).invariant (I := fun r => HasSession r s) h fun _ _ hsyn h => takeSyn_hasSession h hsyn

theorem takeSyns_zero {r : Router} (hzero : 0 ∉ r.p2pStreamSessions) (syns : List Syn) :
    0 ∉ (runFrom (takeSyn S E) r syns).p2pStreamSessions :=
  (along_of_forall (A := fun _ => True) fun _ _ => trivial).invariant (I := fun r : Router => 0 ∉ r.p2pStreamSessions) hzero
    fun _ s _ h => dispatchP2pStream_zero h s.1 s.2

variable (S E)

/-- **A rejected stream never stays rejected**: its session is there after any SYNs from its source, and each of them is answered
    over the heads of the handlers. -/
theorem rejected_answered (r : Router) (s : Syn) (hrejects : r.Rejects E s) (syns : List Syn)
    (hsyns : ∀ t ∈ syns, t.2.isSyn ∧ s.SameSource t) :
    ¬StaysRejected S E r s syns ∧
      (0 ∉ r.p2pStreamSessions → ∀ before t after, syns = before ++ t :: after →
        ¬(runFrom (takeSyn S E) r (s :: before)).Offers t ∧
          ∃ id ≠ 0, dispatchP2pStream S E (runFrom (takeSyn S E) r (s :: before)) t.1 t.2 =
            replySyn S E (runFrom (takeSyn S E) r (s :: before)) t.1 t.2 id) := by
  have hfirst : HasSession (takeSyn S E r s) s := rejects_hasSession hrejects
  constructor
  · rintro ⟨hgone, -⟩
    exact hgone (takeSyns_hasSession hfirst fun t ht => (hsyns t ht).1)
  · rintro hzero before t after rfl
    have hbefore : ∀ t ∈ before, t.2.isSyn := fun u hu => (hsyns u (List.mem_append_left _ hu)).1
    obtain ⟨hsyn, hsame⟩ := hsyns t (List.mem_append_right _ List.mem_cons_self)
    rw [runFrom_cons]
    exact answers_of_hasSession (takeSyns_zero (dispatchP2pStream_zero hzero s.1 s.2) before)
      (takeSyns_hasSession hfirst hbefore) hsyn hsame

end

/-! ## A handler that says no -/

/-- SYN for port 8 from port 7 of `H`, under the stream id 5. -/
def synFrom : Syn := (⟨ascii "H", 9, 7, 8, encodeP2pStreamPayload kP2pStreamSyn 5 0 0 []⟩, ⟨kP2pStreamSyn, 5, 0, 0, []⟩)

/-- A router with a handler on port 8. -/
def listening : Router :=
  { Router.new .Sink (ascii "R") [.serialized [] true] [] with p2pStreamHandlers := AList.singleton 8 [true] }

/-- Callbacks that fail. -/
def refusing : Env := ⟨fun _ => 0, fun _ => SEDS_HANDLER_ERROR⟩

theorem rejected_answered_twice : ¬StaysRejected defaultTestSchema refusing listening synFrom [synFrom] :=
  (rejected_answered defaultTestSchema refusing listening synFrom (by decide +kernel) [synFrom] (by decide)).1

/-- The second SYN is answered, and the handler has been asked once. -/
theorem rejected_answered_syn :
    Rejects refusing listening synFrom ∧ ¬StaysRejected defaultTestSchema refusing listening synFrom [synFrom] ∧
      QueuesSynAck (runFrom (takeSyn defaultTestSchema refusing) listening [synFrom])
        (runFrom (takeSyn defaultTestSchema refusing) listening [synFrom, synFrom]) ∧
      (runFrom (takeSyn defaultTestSchema refusing) listening [synFrom, synFrom]).obs = [.streamEvent 8 1 1 []] := by
  have hrejects : Rejects refusing listening synFrom := by decide +kernel
  refine ⟨hrejects, fun h => h.1 (takeSyn_hasSession (rejects_hasSession hrejects) (by decide)), ?_⟩
  unfold QueuesSynAck
  rw [defaultTestSchema_eq]
  decide +kernel

end Router

end SedsNet
