import SedsNet.Relay
import SedsNet.Router.Api
import SedsNet.Silence
import SedsNet.Wire.RoundTrip

/-!
# Hop ACKs on the wire

An ACK of one hop exists in three forms: as a control packet with the wire id of the type and the number in its payload, as a
frame without payload whose header says that it is an ACK only, and as the header a receiver reads from this frame.
`serialize_packet` makes the second from the first, `peek_frame_info` the third from the second. `hopAck_transcodes` follows
an ACK all the way. A packet whose sender starts with `E2EACK:` is left as it is: `hopAck_prefixed`.
-/

set_option autoImplicit false

namespace SedsNet

open Lib

section

variable {S : Schema} {Z : Codec} {ty seq : UInt32} {ts : UInt64} {sender : Bytes}

/-! ## The frame -/

/-- The header of an ACK. -/
def ackHeader (seq : UInt32) : ReliableHeaderLite := ⟨kV4ReliableFlagAckOnly, 0, seq⟩

/-- What the frame of an ACK would be the frame of. -/
def ackPacket (ty : UInt32) (sender : Bytes) (ts : UInt64) : PacketData := ⟨ty, sender, [], ts, []⟩

theorem ackHeader_flags (seq : UInt32) : (ackHeader seq).flags &&& 0x0C = 0 ∧ (ackHeader seq).flags &&& 0x01 ≠ 0 := by
  show kV4ReliableFlagAckOnly &&& 0x0C = 0 ∧ kV4ReliableFlagAckOnly &&& 0x01 ≠ 0
  decide

theorem maybeCompress_nil (Z : Codec) : maybeCompress Z [] = ([], false) := by
  unfold maybeCompress
  split
  · split
    · exact if_neg (Nat.not_lt_zero _)
    · rfl
  · rfl

/-- The frame of an ACK has the layout of the others. -/
theorem serializeReliableAck_frame (Z : Codec) (hheader : S.hasV4ReliableHeader ty = true) :
    serializeReliableAck S sender ty ts seq =
      withCrc (frameBody S Z (ackPacket ty sender ts) true (headerBytes S ty (ackHeader seq) true)) := by
  have hflags : frameFlags false true = kV4FlagEndpointBitmapPresent ||| kV4FlagCompactReliableHeader := by decide
  have hempty : maybeCompress Z (ackPacket ty sender ts).payload = ([], false) := maybeCompress_nil Z
  unfold serializeReliableAck frameBody headerBytes
  rw [hheader, if_pos rfl, hempty, hflags]
  dsimp only
  rw [List.append_nil]
  rfl

/-- A receiver reads the type and the number. -/
theorem peekFrameInfo_ack (Z : Codec) (hty : canonicalType S ty) (hheader : S.hasV4ReliableHeader ty = true) (verifyCrc : Bool) :
    peekFrameInfo S Z (serializeReliableAck S sender ty ts seq) verifyCrc =
      some ⟨⟨ty, [], addrSender (senderAddressU32 sender).toUInt64, ts⟩, some (ackHeader seq)⟩ := by
  have hpeek := peekFrameInfo_frame (ackPacket ty sender ts) hty.localTypeId_v4TypeId hty.1 (ackHeader seq) true (ackHeader_flags seq).1
    (serializeReliableAck_frame Z hheader) verifyCrc
  rw [hpeek]
  have hendpoints : wireEndpoints S (ackPacket ty sender ts).endpoints = [] := by
    unfold wireEndpoints ackPacket
    simp
  rw [hendpoints]
  have hhas : S.hasV4ReliableHeader (ackPacket ty sender ts).ty = true := hheader
  rw [hhas]
  rfl

/-- There is no packet in it. -/
theorem deserializePacket_ack (Z : Codec) (hty : canonicalType S ty) (hheader : S.hasV4ReliableHeader ty = true) :
    deserializePacket S Z (serializeReliableAck S sender ty ts seq) = none := by
  obtain ⟨hv4, hlong, hcrc, i, j, crc, hhead, hrel, -⟩ := frame_walk (ackPacket ty sender ts) hty.localTypeId_v4TypeId hty.1
    (ackHeader seq) true (ackHeader_flags seq).1 (serializeReliableAck_frame Z hheader)
  have hpass : ¬ ((serializeReliableAck S sender ty ts seq).length < 2 + kCrcBytes ∨
      ¬crcValid (serializeReliableAck S sender ty ts seq)) := by
    simp [hlong, hcrc]
  unfold deserializePacket
  rw [Read.value_deserializePacket, if_neg hpass, if_pos hv4, Read.deserializeV4_eq]
  split at hhead
  · rw [Reader.value_bind, hhead]
    rfl
  · rw [Reader.value_bind_of hhead]
    have hhas : S.hasV4ReliableHeader (ackPacket ty sender ts).ty = true := hheader
    rw [hhas, if_pos rfl] at hrel
    have hack : Read.ackOnlyHeader (some (ackHeader seq)) = true := by
      show ((ackHeader seq).flags &&& 0x01 != 0) = true
      simpa using (ackHeader_flags seq).2
    unfold Read.v4PacketTail
    rw [Reader.value_bind_of hrel, Reader.value_rejectIf_bind, if_pos hack]
    rfl

/-! ## The control packet -/

theorem loadLe32_payload (wire : UInt32) :
    loadLe32 (appendLe32 wire ++ appendLe32 seq) 0 = wire ∧ loadLe32 (appendLe32 wire ++ appendLe32 seq) 4 = seq := by
  have hwire : Continues (appendLe32 wire ++ appendLe32 seq) 0 (appendLe32 wire) (appendLe32 seq) := by
    rw [Continues, List.drop_zero]
  have hseq : Continues (appendLe32 wire ++ appendLe32 seq) 4 (appendLe32 seq) [] := by
    rw [Continues, List.append_nil]
    exact List.drop_left' rfl
  exact ⟨loadLe32_append wire hwire, loadLe32_append seq hseq⟩

/-- The control packet is serialized as the frame of the ACK. -/
theorem serializePacket_hopAck (Z : Codec) (hty : canonicalType S ty) (hsender : (ascii "E2EACK:").isPrefixOf sender = false) :
    serializePacket S Z (makeReliableControlPacket S SEDS_DT_RELIABLE_ACK ty seq ts sender) = serializeReliableAck S sender ty ts seq := by
  have hack : isHopAck (makeReliableControlPacket S SEDS_DT_RELIABLE_ACK ty seq ts sender) = true := by
    show (SEDS_DT_RELIABLE_ACK == SEDS_DT_RELIABLE_ACK && (8 : Nat) == 8 && !(ascii "E2EACK:").isPrefixOf sender) = true
    rw [hsender]
    rfl
  obtain ⟨hwire, hseq⟩ := @loadLe32_payload seq (S.v4TypeId ty)
  unfold serializePacket
  rw [hack, if_pos rfl]
  unfold makeReliableControlPacket
  dsimp only
  rw [hwire, hseq, hty.localTypeId_v4TypeId]
  rfl

/-- An ACK that is received is handled, and that is all. -/
theorem ingestAck_eq (E : Env) (o : Owner) (sideId : UInt32) (bytes : Bytes) {envelope : TelemetryEnvelopeLite} (henvelope : envelope.ty = ty) :
    o.ingestAck S E sideId ⟨envelope, some (ackHeader seq)⟩ bytes = o.handleAck S sideId.toInt32 ty seq := by
  have hack : (ackHeader seq).flags &&& kReliableFlagAckOnly ≠ 0 := by
    show kV4ReliableFlagAckOnly &&& kReliableFlagAckOnly ≠ 0
    decide
  unfold Owner.ingestAck Owner.processReliableIngress
  dsimp only
  rw [if_pos hack, henvelope]
  rfl

end

/-- **A hop ACK keeps its meaning** on its way: the control packet of a reliable type that has a canonical id is sent as a frame
    which is read as an ACK for this type and number, which is no packet, and which does to the router or relay that takes it
    from an open side what `handle_ack` does, and nothing else. -/
theorem hopAck_transcodes (S : Schema) (Z : Codec) (E : Env) (ty seq : UInt32) (ts : UInt64) (sender : Bytes)
    (hty : canonicalType S ty) (hreliable : (S.typeAt ty.toNat).reliable = true) (hcontrol : S.isReliableControlType ty = false)
    (hsender : (ascii "E2EACK:").isPrefixOf sender = false) :
    let frame := serializePacket S Z (makeReliableControlPacket S SEDS_DT_RELIABLE_ACK ty seq ts sender)
    (∃ info, peekFrameInfo S Z frame true = some info ∧ info.ackOnly = true ∧ info.envelope.ty = ty ∧
      info.reliable.map (·.ack) = some seq) ∧
    deserializePacket S Z frame = none ∧
    ∀ sideId : UInt32,
      (∀ r : Router, r.toOwner.ingressOpen sideId = true →
        r.receiveSerializedFromSide S Z E sideId frame =
          (SEDS_OK, r.setOwner ((r.toOwner.peekFrameInfo S Z frame).2.handleAck S sideId.toInt32 ty seq)) ∧
        r.rxSerializedPacketToQueueFromSide S Z E sideId frame =
          (SEDS_OK, r.setOwner ((r.toOwner.peekFrameInfo S Z frame).2.handleAck S sideId.toInt32 ty seq))) ∧
      (∀ o : Owner, o.ingressOpen sideId = true →
        o.relayRxSerializedFromSide S Z E sideId frame =
          (SEDS_OK, (o.peekFrameInfo S Z frame).2.handleAck S sideId.toInt32 ty seq)) := by
  intro frame
  have hheader : S.hasV4ReliableHeader ty = true := by
    unfold Schema.hasV4ReliableHeader
    rw [hty.1, hreliable, hcontrol]
    rfl
  have hframe : frame = serializeReliableAck S sender ty ts seq := serializePacket_hopAck Z hty hsender
  have hpeek : peekFrameInfo S Z (serializeReliableAck S sender ty ts seq) true =
      some ⟨⟨ty, [], addrSender (senderAddressU32 sender).toUInt64, ts⟩, some (ackHeader seq)⟩ :=
    peekFrameInfo_ack Z hty hheader true
  rw [← hframe] at hpeek
  have hackOnly : ∀ envelope, FrameInfoLite.ackOnly ⟨envelope, some (ackHeader seq)⟩ = true := by
    intro envelope
    show ((ackHeader seq).flags &&& 0x01 != 0) = true
    simpa using (ackHeader_flags seq).2
  -- the owner's own peek answers the same
  have hpeeked : ∀ o : Owner, o.peekFrameInfo S Z frame =
      (some ⟨⟨ty, [], addrSender (senderAddressU32 sender).toUInt64, ts⟩, some (ackHeader seq)⟩, (o.peekFrameInfo S Z frame).2) := by
    intro o
    rw [← hpeek]
    rfl
  refine ⟨⟨_, hpeek, hackOnly _, rfl, rfl⟩, ?_, ?_⟩
  · rw [hframe]
    exact deserializePacket_ack Z hty hheader
  · intro sideId
    refine ⟨?_, ?_⟩
    · intro r hopen
      have hopen' : (r.toOwner.peekFrameInfo S Z frame).2.ingressOpen sideId = true := hopen
      constructor
      · unfold Router.receiveSerializedFromSide
        rw [hpeeked]
        dsimp only
        rw [hopen', hackOnly, if_neg (by decide), if_pos rfl, ingestAck_eq E _ sideId frame rfl]
      · unfold Router.rxSerializedPacketToQueueFromSide Owner.routerRxSerializedToQueueFromSide
        rw [hpeeked]
        dsimp only
        rw [hopen', hackOnly, if_neg (by decide), if_pos rfl, ingestAck_eq E _ sideId frame rfl]
    · intro o hopen
      have hopen' : (o.peekFrameInfo S Z frame).2.ingressOpen sideId = true := hopen
      unfold Owner.relayRxSerializedFromSide
      rw [hpeeked]
      dsimp only
      rw [hopen', hackOnly, if_neg (by decide), if_pos rfl, ingestAck_eq E _ sideId frame rfl]

/-- The ACK of report 7, as the router of the reports takes it from its side. -/
theorem hopAck_transcodes_gps :
    canonicalType defaultTestSchema 100 ∧ (defaultTestSchema.typeAt 100).reliable = true ∧
    reportingRouter.receiveSerializedFromSide defaultTestSchema (.absent 16) .calm 0
        (serializePacket defaultTestSchema (.absent 16)
          (makeReliableControlPacket defaultTestSchema SEDS_DT_RELIABLE_ACK 100 7 0 (ascii "B"))) =
      (SEDS_OK, reportingRouter.setOwner ((reportingRouter.toOwner.peekFrameInfo defaultTestSchema (.absent 16)
        (serializePacket defaultTestSchema (.absent 16)
          (makeReliableControlPacket defaultTestSchema SEDS_DT_RELIABLE_ACK 100 7 0 (ascii "B")))).2.handleAck
        defaultTestSchema 0 100 7)) := by
  have hgps : canonicalType defaultTestSchema 100 ∧ (defaultTestSchema.typeAt (100 : UInt32).toNat).reliable = true ∧
      defaultTestSchema.isReliableControlType 100 = false := by
    unfold canonicalType
    rw [defaultTestSchema_eq]
    decide +kernel
  obtain ⟨hty, hreliable, hcontrol⟩ := hgps
  have hopen : reportingRouter.toOwner.ingressOpen 0 = true := by decide
  have hback := (hopAck_transcodes defaultTestSchema (.absent 16) .calm 100 7 0 (ascii "B") hty hreliable hcontrol (by decide)).2.2 0
  exact ⟨hty, hreliable, (hback.1 reportingRouter hopen).1⟩

/-- The same ACK from a sender whose name starts with `E2EACK:` is a packet, and no ACK. -/
theorem hopAck_prefixed :
    let frame := serializePacket defaultTestSchema (.absent 16)
      (makeReliableControlPacket defaultTestSchema SEDS_DT_RELIABLE_ACK 100 7 0 (ascii "E2EACK:B"))
    (peekFrameInfo defaultTestSchema (.absent 16) frame true).map (·.ackOnly) = some false ∧
    (deserializePacket defaultTestSchema (.absent 16) frame).isSome = true := by
  rw [defaultTestSchema_eq]
  decide +kernel

end SedsNet
