import SedsNet.Owner
import SedsNet.Wire.Decode

/-!
# The reliable layer

The templates of `src/router_core.cpp` that number, acknowledge, retransmit, buffer and release the
frames of a reliable stream: `handle_ack_impl` .. `do_reliable_timeouts`. A stream is a side and a
type; its sending half is an entry of `reliable_tx`, its receiving half an entry of `reliable_rx`.

Side callbacks and the clock answer from the `Env`; a callback that calls back into its owner is
the `sideTxActive` case of `callSerializedTx`.
-/

set_option autoImplicit false

namespace SedsNet

/-- `++seq`, where 0 is skipped. -/
def nextSeq (seq : UInt32) : UInt32 := if seq + 1 = 0 then 1 else seq + 1

/-- `std::map::emplace`: an entry that is there stays. -/
def Map.emplace {κ α : Type} [DecidableEq κ] (m : Map κ α) (k : κ) (v : α) : Map κ α :=
  if k ∈ m then m else AList.insert k v m

/-! ## Control packets -/

/-- `make_reliable_control_packet`: addressed to the endpoint named TELEMETRY_ERROR, wherever the
    table has it. -/
def makeReliableControlPacket (S : Schema) (controlTy ty seq : UInt32) (ts : UInt64) (sender : Bytes) :
    PacketData :=
  ⟨controlTy, sender,
   match S.endpointByName "TELEMETRY_ERROR" with
   | some ep => [ep]
   | none => (S.typeAt controlTy.toNat).endpoints,
   ts, appendLe32 (S.v4TypeId ty) ++ appendLe32 seq⟩

namespace Owner

section

variable (S : Schema) (Z : Codec) (E : Env)

/-- The body the three `queue_reliable_*` functions share: a control packet for the side, ahead of
    everything in the transmit queue. -/
def queueReliableControl (controlTy : UInt32) (o : Owner) (sideId : Int32) (ty seq : UInt32) : Owner :=
  match o.sideAt sideId with
  | none => o
  | some side =>
    if !side.reliableEnabled || !side.serializedTx then o
    else
      let (now, o) := o.nowMs E
      let pkt := makeReliableControlPacket S controlTy ty seq now o.controlSender
      (o.enqueueTxFront ⟨pkt, none, some sideId, false⟩).observe (.control controlTy sideId ty seq)

def queueReliableAck (o : Owner) (sideId : Int32) (ty seq : UInt32) : Owner :=
  queueReliableControl S E SEDS_DT_RELIABLE_ACK o sideId ty seq

def queueReliablePacketRequest (o : Owner) (sideId : Int32) (ty seq : UInt32) : Owner :=
  queueReliableControl S E SEDS_DT_RELIABLE_PACKET_REQUEST o sideId ty seq

def queueReliablePartialAck (o : Owner) (sideId : Int32) (ty seq : UInt32) : Owner :=
  queueReliableControl S E SEDS_DT_RELIABLE_PARTIAL_ACK o sideId ty seq

/-! ## The sending half -/

/-- `reliable_tx[key]`. -/
def txState (o : Owner) (sideId : Int32) (ty : UInt32) : ReliableTxState :=
  (o.reliableTx.lookup (reliableKey sideId ty)).getD .new

def setTxState (o : Owner) (sideId : Int32) (ty : UInt32) (tx : ReliableTxState) : Owner :=
  { o with reliableTx := o.reliableTx.insert (reliableKey sideId ty) tx }

/-- The loop of `handle_ack_impl` over the front of `sent_order`. -/
def ackThrough (ack : UInt32) : List UInt32 → Map UInt32 Sent → List UInt32 × Map UInt32 Sent
  | [], sent => ([], sent)
  | seq :: rest, sent => if seq ≤ ack then ackThrough ack rest (sent.erase seq) else (seq :: rest, sent)

/-- `handle_ack_impl`. -/
def handleAck (o : Owner) (sideId : Int32) (ty ack : UInt32) : Owner :=
  match o.reliableTx.lookup (reliableKey sideId ty) with
  | none => o
  | some tx =>
    if (S.typeAt ty.toNat).reliableMode = .Unordered then
      o.setTxState sideId ty
        { tx with sent := tx.sent.erase ack, sentOrder := tx.sentOrder.filter (· ≠ ack) }
    else
      let (sentOrder, sent) := ackThrough ack tx.sentOrder tx.sent
      o.setTxState sideId ty { tx with sent := sent, sentOrder := sentOrder }

/-- `handle_partial_ack_impl`. -/
def handlePartialAck (o : Owner) (sideId : Int32) (ty seq : UInt32) : Owner :=
  match o.reliableTx.lookup (reliableKey sideId ty) with
  | none => o
  | some tx =>
    match tx.sent.lookup seq with
    | none => o
    | some sent =>
      o.setTxState sideId ty { tx with sent := tx.sent.insert seq { sent with partialAcked := true } }

/-- `handle_packet_request_impl`: the frame goes out again at once, and its retry count goes up
    whatever the callback says. -/
def handlePacketRequest (o : Owner) (sideId : Int32) (ty seq : UInt32) : Owner :=
  match o.sideAt sideId with
  | none => o
  | some side =>
    match o.reliableTx.lookup (reliableKey sideId ty) with
    | none => o
    | some tx =>
      match tx.sent.lookup seq with
      | none => o
      | some sent =>
        if !side.serializedTx then o
        else
          let (_, o) := o.callSerializedTx E sideId sent.bytes
          let (now, o) := o.nowMs E
          let sent :=
            { sent with lastSendMs := now, retries := sent.retries + 1, queued := false, partialAcked := false }
          o.setTxState sideId ty { tx with sent := tx.sent.insert seq sent }

/-- `send_serialized_with_reliable`. A number is used up as soon as the window has room, whether or
    not the callback takes the frame. The callers have checked the side's index. -/
def sendSerializedWithReliable (o : Owner) (sideId : Int32) (pkt : PacketData) : SedsResult × Owner :=
  match o.sideAt sideId with
  | none => (SEDS_OK, o)
  | some side =>
    if !side.serializedTx then (SEDS_OK, o)
    else if !side.reliableEnabled || !S.isReliableType pkt.ty then
      o.callSerializedTx E sideId (serializePacket S Z pkt)
    else
      let tx := o.txState sideId pkt.ty
      if tx.sent.entries.length ≥ o.tuning.reliableMaxPending then
        (SEDS_PACKET_TOO_LARGE, o.setTxState sideId pkt.ty tx)
      else
        let flags : UInt8 :=
          if (S.typeAt pkt.ty.toNat).reliableMode = .Unordered then kReliableFlagUnordered else 0
        let seq := tx.nextSeq
        let bytes := serializePacketWithReliable S Z pkt ⟨flags, seq, 0⟩
        let tx := { tx with nextSeq := nextSeq seq }
        let o := (o.setTxState sideId pkt.ty tx).observe (.number sideId pkt.ty seq bytes)
        let (rc, o) := o.callSerializedTx E sideId bytes
        if rc ≠ SEDS_OK then (rc, o)
        else
          let (now, o) := o.nowMs E
          let tx := { tx with sentOrder := tx.sentOrder ++ [seq],
                              sent := tx.sent.emplace seq ⟨bytes, now, 0, false, false⟩ }
          (SEDS_OK, o.setTxState sideId pkt.ty tx)

/-- One round of the inner loop of `do_reliable_timeouts`. -/
def retransmit (now : UInt64) (sideId : Int32) (p : Owner × ReliableTxState) (seq : UInt32) :
    Owner × ReliableTxState :=
  let (o, tx) := p
  match tx.sent.lookup seq with
  | none => (o, tx)
  | some sent =>
    if sent.queued || sent.partialAcked ||
        now - sent.lastSendMs < o.tuning.reliableRetransmitMs.toUInt64 then (o, tx)
    else if sent.retries ≥ o.tuning.reliableMaxRetries then
      (o, { tx with sent := tx.sent.erase seq, sentOrder := tx.sentOrder.filter (· ≠ seq) })
    else
      let (rc, o) := o.callSerializedTx E sideId sent.bytes
      if rc = SEDS_OK then
        (o, { tx with sent := tx.sent.insert seq { sent with lastSendMs := now, retries := sent.retries + 1 } })
      else (o, tx)

/-- One round of the outer loop. -/
def timeoutStream (now : UInt64) (o : Owner) (key : UInt64) (tx : ReliableTxState) : Owner :=
  let sideId := (key >>> 32).toUInt32.toInt32
  match o.sideAt sideId with
  | none => o
  | some side =>
    if !side.serializedTx then o
    else
      let (o, tx) := tx.sentOrder.foldl (retransmit E now sideId) (o, tx)
      { o with reliableTx := o.reliableTx.insert key tx }

/-- `do_reliable_timeouts`. The streams are visited in the order of the map, which the source
    leaves to the hash table. -/
def doReliableTimeouts (o : Owner) : Owner :=
  let (now, o) := o.nowMs E
  o.reliableTx.entries.foldl (fun o entry => timeoutStream E now o entry.1 entry.2) o

/-! ## The receiving half -/

/-- The release loop of `process_reliable_ingress_impl`: buffered frames leave while the next one is
    there. It takes at most one round for each buffered frame. -/
def releaseBuffered (sideId : Int32) : Nat → ReliableRxState → ReliableRxState × List RxItem
  | 0, rx => (rx, [])
  | rounds + 1, rx =>
    match rx.buffered.lookup rx.expectedSeq with
    | none => (rx, [])
    | some buffered =>
      let (after, items) := releaseBuffered sideId rounds
        ⟨nextSeq rx.expectedSeq, rx.expectedSeq, rx.buffered.erase rx.expectedSeq⟩
      (after, ⟨buffered.pkt, some sideId, buffered.wireBytes, buffered.wireBytes⟩ :: items)

/-- `reliable_rx[key]`. -/
def rxState (o : Owner) (sideId : Int32) (ty : UInt32) : ReliableRxState :=
  (o.reliableRx.lookup (reliableKey sideId ty)).getD .new

def setRxState (o : Owner) (sideId : Int32) (ty : UInt32) (rx : ReliableRxState) : Owner :=
  { o with reliableRx := o.reliableRx.insert (reliableKey sideId ty) rx }

/-- `reliable_released_rx.push_back`, for each. -/
def pushReleased (o : Owner) (items : List RxItem) : Owner :=
  { o with reliableReleasedRx := o.reliableReleasedRx ++ items }

/-- A frame below the expected number: acknowledged again. -/
def ingressOld (o : Owner) (sideId : Int32) (ty : UInt32) : Owner :=
  let rx := o.rxState sideId ty
  let lastAck := if rx.expectedSeq > 0 then rx.expectedSeq - 1 else 0
  (o.setRxState sideId ty { rx with lastAck := lastAck }).queueReliableAck S E sideId ty lastAck

/-- A frame above it: kept while there is room, reported, and the gap asked for. -/
def ingressEarly (o : Owner) (sideId : Int32) (ty seq : UInt32) (pkt : PacketData) (wireBytes : Bytes) :
    Owner :=
  let rx := o.rxState sideId ty
  let rx :=
    if rx.buffered.entries.length < o.tuning.reliableMaxPending then
      { rx with buffered := Map.emplace rx.buffered seq ⟨pkt, wireBytes⟩ }
    else rx
  ((o.setRxState sideId ty rx).queueReliablePartialAck S E sideId ty seq).queueReliablePacketRequest S E
    sideId ty rx.expectedSeq

/-- The expected frame: it and what it frees are released and acknowledged together. -/
def ingressNext (o : Owner) (sideId : Int32) (ty : UInt32) : Owner :=
  let rx := o.rxState sideId ty
  let rx := { rx with expectedSeq := nextSeq rx.expectedSeq, lastAck := rx.expectedSeq }
  let (rx, items) := releaseBuffered sideId rx.buffered.entries.length rx
  ((o.setRxState sideId ty rx).pushReleased items).queueReliableAck S E sideId ty rx.lastAck

/-- `process_reliable_ingress_impl`: whether the frame itself is released. -/
def processReliableIngress (o : Owner) (sideId : Int32) (frame : FrameInfoLite) (pkt : PacketData)
    (wireBytes : Bytes) : Bool × Owner :=
  match frame.reliable with
  | none => (true, o)
  | some hdr =>
    let ty := frame.envelope.ty
    if hdr.flags &&& kReliableFlagAckOnly ≠ 0 then (false, o.handleAck S sideId ty hdr.ack)
    else if hdr.flags &&& kReliableFlagUnsequenced ≠ 0 then (true, o)
    else
      let rx := o.rxState sideId ty
      if hdr.flags &&& kReliableFlagUnordered ≠ 0 then
        (true, (o.setRxState sideId ty { rx with lastAck := hdr.seq }).queueReliableAck S E sideId ty hdr.seq)
      else if hdr.seq < rx.expectedSeq then (false, o.ingressOld S E sideId ty)
      else if hdr.seq > rx.expectedSeq then (false, o.ingressEarly S E sideId ty hdr.seq pkt wireBytes)
      else (true, o.ingressNext S E sideId ty)

end

end Owner

end SedsNet
