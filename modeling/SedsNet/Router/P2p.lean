import SedsNet.Router.State

/-!
# Peer-to-peer messages

The peer-to-peer layer of `src/upstream_api_compat.cpp`, as far as receipt goes: the datagram and stream
formats, the address books, and `dispatch_p2p_packet` with the stream state machine behind it. A stream
is opened by SYN, answered by SYN and ACK, and closed by FIN or RST.
-/

set_option autoImplicit false

namespace SedsNet

def kP2pStreamMagic : Bytes := ascii "SDSP"
def kP2pStreamVersion : UInt8 := 1
def kP2pStreamSyn : UInt8 := 0x01
def kP2pStreamAck : UInt8 := 0x02
def kP2pStreamFin : UInt8 := 0x04
def kP2pStreamRst : UInt8 := 0x08

/-! ## Formats -/

def appendLe16 (v : UInt16) : Bytes := [v.toUInt8, (v >>> 8).toUInt8]

/-- `read_u16_le`. -/
def loadLe16 (b : Bytes) (i : Nat) : UInt16 := UInt16.ofNat (ofLe ((b.drop i).take 2))

structure P2pDatagram where
  sourceHostname : Bytes
  sourceAddress : UInt32
  sourcePort : UInt16
  destinationPort : UInt16
  payload : Bytes
  deriving DecidableEq, Repr, Inhabited

structure P2pStreamFrame where
  flags : UInt8
  sourceStreamId : UInt32
  destinationStreamId : UInt32
  sequence : UInt32
  payload : Bytes
  deriving DecidableEq, Repr, Inhabited

/-- `encode_p2p_payload`: the hostname's length is cut to 16 bits, the body's to 32. -/
def encodeP2pPayload (hostname : Bytes) (address : UInt32) (srcPort dstPort : UInt16) (payload : Bytes) : Bytes :=
  [1] ++ appendLe16 dstPort ++ appendLe16 srcPort ++ appendLe32 address ++
    appendLe16 (UInt16.ofNat hostname.length) ++ appendLe32 (UInt32.ofNat payload.length) ++ hostname ++ payload

/-- `decode_p2p_payload`. -/
def decodeP2pPayload (payload : Bytes) : Option P2pDatagram :=
  if payload.length < 15 ∨ payload.getD 0 0 ≠ 1 then none
  else
    let hostEnd := 15 + (loadLe16 payload 9).toNat
    let bodyLen := (loadLe32 payload 11).toNat
    if hostEnd > payload.length ∨ hostEnd + bodyLen ≠ payload.length then none
    else
      some ⟨(payload.drop 15).take (loadLe16 payload 9).toNat, loadLe32 payload 5, loadLe16 payload 3,
        loadLe16 payload 1, (payload.drop hostEnd).take bodyLen⟩

/-- `encode_p2p_stream_payload`. -/
def encodeP2pStreamPayload (flags : UInt8) (source destination sequence : UInt32) (payload : Bytes) : Bytes :=
  kP2pStreamMagic ++ [kP2pStreamVersion, flags] ++ appendLe32 source ++ appendLe32 destination ++
    appendLe32 sequence ++ appendLe32 (UInt32.ofNat payload.length) ++ payload

/-- `P2pStreamFrame{}`, which stands for a malformed frame: its flags are 0. -/
def P2pStreamFrame.malformed : P2pStreamFrame := ⟨0, 0, 0, 0, []⟩

/-- `decode_p2p_stream_payload`: `none` is a plain datagram. -/
def decodeP2pStreamPayload (payload : Bytes) : Option P2pStreamFrame :=
  if !kP2pStreamMagic.isPrefixOf payload then none
  else if payload.length < 22 ∨ payload.getD 4 0 ≠ kP2pStreamVersion then some .malformed
  else if 22 + (loadLe32 payload 18).toNat ≠ payload.length then some .malformed
  else
    some ⟨payload.getD 5 0, loadLe32 payload 6, loadLe32 payload 10, loadLe32 payload 14, payload.drop 22⟩

/-! ## Addresses -/

/-- `address_for_sender`. -/
def addressForSender (sender : Bytes) : UInt32 :=
  let raw := (senderHash sender).toUInt32
  if raw = 0 then 1 else raw

/-- `p2p_type_id`. -/
def Schema.p2pTypeId (S : Schema) : UInt32 := (S.localTypeId 18).getD 1018

/-- Handlers are called until one of them fails; whether none did. -/
def Owner.callEach (E : Env) (e : Obs) : List Bool → Owner → Bool × Owner
  | [], o => (true, o)
  | cb :: rest, o =>
    if !cb then Owner.callEach E e rest o
    else
      let (rc, o) := o.call E e
      if rc ≠ SEDS_OK then (false, o) else Owner.callEach E e rest o

/-- The search of `allocate_p2p_stream_id`: the id, or 0, and the next one to try. -/
def allocateStreamId (sessions : Map UInt32 P2pStreamSession) : Nat → UInt32 → UInt32 × UInt32
  | 0, next => (0, next)
  | tries + 1, next =>
    let id := max 1 next
    let next := max 1 (next + 1)
    if id ∈ sessions then allocateStreamId sessions tries next else (id, next)

namespace Router

/-- `local_p2p_address`: set up on first use. -/
def localP2pAddress (r : Router) : UInt32 × Router :=
  if r.p2pAddress = 0 then
    let address := addressForSender r.sender
    (address, { r with
      p2pAddress := address
      p2pAddressBook := r.p2pAddressBook.insert r.sender address
      p2pHostByAddress := r.p2pHostByAddress.insert address r.sender })
  else (r.p2pAddress, r)

/-- `allocate_p2p_stream_id`. -/
def allocateP2pStreamId (r : Router) : UInt32 × Router :=
  let (id, next) := allocateStreamId r.p2pStreamSessions (2 ^ 32 - 1) r.p2pNextStreamId
  (id, { r with p2pNextStreamId := next })

section

variable (S : Schema) (E : Env)

/-- `enqueue_p2p_packet`. -/
def enqueueP2pPacket (r : Router) (dstPort srcPort : UInt16) (payload : Bytes) : SedsResult × Router :=
  if dstPort = 0 then (SEDS_BAD_ARG, r)
  else
    let (address, r) := r.localP2pAddress
    let payload := encodeP2pPayload r.sender address srcPort dstPort payload
    let (now, r) := r.currentNetworkMs E
    let pkt := makeInternalPacket S S.p2pTypeId now payload r.sender
    (SEDS_OK, r.setOwner (r.toOwner.enqueueTx ⟨pkt, none, none, false⟩))

/-- The session a frame without a stream id of ours belongs to. -/
def findSession (r : Router) (msg : P2pDatagram) (frame : P2pStreamFrame) : Option UInt32 :=
  (r.p2pStreamSessions.entries.find? fun e =>
    e.2.peerStreamId == frame.sourceStreamId && e.2.localPort == msg.destinationPort &&
      e.2.peerPort == msg.sourcePort && e.2.peerAddress == msg.sourceAddress &&
      e.2.peerHostname == msg.sourceHostname).map (·.1)

/-- Stream handlers of a port are told of an event. -/
def callStreamHandlers (r : Router) (port : UInt16) (kind : UInt8) (streamId : UInt32) (payload : Bytes) : Bool × Router :=
  let (ok, o) := Owner.callEach E (.streamEvent port kind streamId payload) (Map.getOr r.p2pStreamHandlers port []) r.toOwner
  (ok, r.setOwner o)

/-- The reply to a SYN. -/
def replySyn (r : Router) (msg : P2pDatagram) (frame : P2pStreamFrame) (localId : UInt32) : SedsResult × Router :=
  enqueueP2pPacket S E r msg.sourcePort msg.destinationPort
    (encodeP2pStreamPayload (kP2pStreamSyn ||| kP2pStreamAck) localId frame.sourceStreamId 0 [])

/-- A SYN: a new session, unless the peer repeats itself. -/
def dispatchSyn (r : Router) (msg : P2pDatagram) (frame : P2pStreamFrame) : SedsResult × Router :=
  match r.findSession msg frame with
  | some localId =>
    -- a session under id 0 counts as none
    if localId ≠ 0 then replySyn S E r msg frame localId else openSession r
  | none => openSession r
where
  openSession (r : Router) : SedsResult × Router :=
    let (localId, r) := r.allocateP2pStreamId
    if localId = 0 then ( SEDS_IO, r)
    else
      let session : P2pStreamSession :=
        ⟨msg.sourceHostname, msg.sourceAddress, msg.destinationPort, msg.sourcePort, frame.sourceStreamId, 1, true⟩
      let r := { r with p2pStreamSessions := r.p2pStreamSessions.insert localId session }
      let (ok, r) := r.callStreamHandlers E msg.destinationPort 1 localId frame.payload
      if !ok then (SEDS_HANDLER_ERROR, r) else replySyn S E r msg frame localId

/-- A SYN with ACK: the session it names is connected, whoever sent it. -/
def dispatchSynAck (r : Router) (frame : P2pStreamFrame) : SedsResult × Router :=
  match r.p2pStreamSessions.lookup frame.destinationStreamId with
  | none => (SEDS_OK, r)
  | some session =>
    let session := { session with peerStreamId := frame.sourceStreamId, connected := true }
    let r := { r with p2pStreamSessions := r.p2pStreamSessions.insert frame.destinationStreamId session }
    let (ok, r) := r.callStreamHandlers E session.localPort 2 frame.destinationStreamId frame.payload
    (if ok then SEDS_OK else SEDS_HANDLER_ERROR, r)

/-- Data, FIN or RST. -/
def dispatchStreamData (r : Router) (msg : P2pDatagram) (frame : P2pStreamFrame) : SedsResult × Router :=
  let kind : UInt8 :=
    if frame.flags &&& kP2pStreamRst ≠ 0 then 5 else if frame.flags &&& kP2pStreamFin ≠ 0 then 4 else 3
  let sessionId :=
    if frame.destinationStreamId = 0 then (r.findSession msg frame).getD 0 else frame.destinationStreamId
  match r.p2pStreamSessions.lookup sessionId with
  | none => (SEDS_OK, r)
  | some session =>
    let (ok, r) := r.callStreamHandlers E session.localPort kind sessionId frame.payload
    if !ok then (SEDS_HANDLER_ERROR, r)
    else if kind = 4 ∨ kind = 5 then
      (SEDS_OK, { r with p2pStreamSessions := r.p2pStreamSessions.erase sessionId })
    else (SEDS_OK, r)

/-- `dispatch_p2p_stream`. -/
def dispatchP2pStream (r : Router) (msg : P2pDatagram) (frame : P2pStreamFrame) : SedsResult × Router :=
  if frame.flags = 0 then (SEDS_DESERIALIZE, r)
  else if frame.flags &&& kP2pStreamSyn ≠ 0 ∧ frame.flags &&& kP2pStreamAck = 0 then dispatchSyn S E r msg frame
  else if frame.flags &&& kP2pStreamSyn ≠ 0 then dispatchSynAck E r frame
  else dispatchStreamData E r msg frame

/-- The sender of a datagram enters the address books, under the name and address it gives. -/
def learnPeer (r : Router) (msg : P2pDatagram) : Router :=
  if msg.sourceHostname.isEmpty then r
  else
    { r with
      p2pAddressBook := r.p2pAddressBook.insert msg.sourceHostname msg.sourceAddress
      p2pHostByAddress := r.p2pHostByAddress.insert msg.sourceAddress msg.sourceHostname }

/-- `dispatch_p2p_packet`; the type has been checked. -/
def dispatchP2pPacket (r : Router) (pkt : PacketData) : SedsResult × Router :=
  match decodeP2pPayload pkt.payload with
  | none => (SEDS_DESERIALIZE, r)
  | some msg =>
    let r := r.learnPeer msg
    match decodeP2pStreamPayload msg.payload with
    | some frame => dispatchP2pStream S E r msg frame
    | none =>
      let (ok, o) := Owner.callEach E (.datagram msg.destinationPort msg.sourceHostname msg.payload)
        (Map.getOr r.p2pHandlers msg.destinationPort []) r.toOwner
      (if ok then SEDS_OK else SEDS_HANDLER_ERROR, r.setOwner o)

/-! ## What handlers are told

One packet is one event at most, whatever the number of handlers. -/

/-- The event of a stream frame. -/
def streamEventOf (r : Router) (msg : P2pDatagram) (frame : P2pStreamFrame) : Option Obs :=
  if frame.flags = 0 then none
  else if frame.flags &&& kP2pStreamSyn ≠ 0 ∧ frame.flags &&& kP2pStreamAck = 0 then
    if (r.findSession msg frame).getD 0 ≠ 0 ∨ r.allocateP2pStreamId.1 = 0 then none
    else some (.streamEvent msg.destinationPort 1 r.allocateP2pStreamId.1 frame.payload)
  else if frame.flags &&& kP2pStreamSyn ≠ 0 then
    (r.p2pStreamSessions.lookup frame.destinationStreamId).map fun session =>
      .streamEvent session.localPort 2 frame.destinationStreamId frame.payload
  else
    let kind : UInt8 :=
      if frame.flags &&& kP2pStreamRst ≠ 0 then 5 else if frame.flags &&& kP2pStreamFin ≠ 0 then 4 else 3
    let sessionId :=
      if frame.destinationStreamId = 0 then (r.findSession msg frame).getD 0 else frame.destinationStreamId
    (r.p2pStreamSessions.lookup sessionId).map fun session => .streamEvent session.localPort kind sessionId frame.payload

/-- The event of a packet. -/
def eventOf (r : Router) (pkt : PacketData) : Option Obs :=
  match decodeP2pPayload pkt.payload with
  | none => none
  | some msg =>
    match decodeP2pStreamPayload msg.payload with
    | some frame => r.streamEventOf msg frame
    | none => some (.datagram msg.destinationPort msg.sourceHostname msg.payload)

/-- Some handler is bound to the port of the event. -/
def listensTo (r : Router) : Obs → Bool
  | .datagram port _ _ => (Map.getOr r.p2pHandlers port []).any id
  | .streamEvent port _ _ _ => (Map.getOr r.p2pStreamHandlers port []).any id
  | _ => false

/-- The event of a packet, if a handler is told of it. -/
def peerEvent (r : Router) (pkt : PacketData) : Option Obs := (r.eventOf pkt).filter r.listensTo

end

end Router

end SedsNet
