import SedsNet.HopAcks
import SedsNet.LinkLocal

/-!
# Integrity

No packet arises in a network but the control traffic of its routers and relays, and what an application submits. Whatever
else a router delivers, keeps or hands to a side is a copy of a submitted packet: it has its type, its time stamp and its
payload, and no endpoint that was not among those submitted. The sender is not part of this: it is replaced by its address at
each hop.

The frames between the nodes may be lost, repeated, reordered, and given to any node and any side: `Net.Admits` says only that
what arrives was handed to some side before.
-/

set_option autoImplicit false

namespace SedsNet

open Lib Owner

/-! ## Copies -/

/-- The type comes back from the wire as itself, if it comes back. -/
def Schema.returnsType (S : Schema) (ty : UInt32) : Prop := ∀ ty' ∈ S.localTypeId (S.v4TypeId ty), ty' = ty

instance (S : Schema) (ty : UInt32) : Decidable (S.returnsType ty) := inferInstanceAs (Decidable (∀ _ ∈ _, _))

/-- So does the endpoint. -/
def Schema.returnsEndpoint (S : Schema) (ep : UInt32) : Prop :=
  (S.v4EndpointId ep).toNat < 256 → ∀ ep' ∈ S.localEndpointId (S.v4EndpointId ep), ep' = ep

instance (S : Schema) (ep : UInt32) : Decidable (S.returnsEndpoint ep) := inferInstanceAs (Decidable (_ → _))

/-- The ids of the packet mean on the wire what they mean here. The payload is a `std::vector`, so its size is a `size_t`. -/
structure Settled (S : Schema) (pkt : PacketData) : Prop where
  ty : S.returnsType pkt.ty
  endpoint : ∀ ep ∈ pkt.endpoints, S.returnsEndpoint ep
  size : pkt.payload.length < 2 ^ 64

instance (S : Schema) (pkt : PacketData) : Decidable (Settled S pkt) :=
  decidable_of_iff (S.returnsType pkt.ty ∧ (∀ ep ∈ pkt.endpoints, S.returnsEndpoint ep) ∧ pkt.payload.length < 2 ^ 64)
    ⟨fun h => ⟨h.1, h.2.1, h.2.2⟩, fun h => ⟨h.ty, h.endpoint, h.size⟩⟩

/-- `q` is `p` but for the sender, and for endpoints and repetitions that were dropped on the way. -/
structure CopyOf (p q : PacketData) : Prop where
  ty : q.ty = p.ty
  timestamp : q.timestamp = p.timestamp
  payload : q.payload = p.payload
  endpoints : q.endpoints ⊆ p.endpoints

theorem CopyOf.refl (p : PacketData) : CopyOf p p := ⟨rfl, rfl, rfl, List.Subset.refl _⟩

theorem CopyOf.trans {p q s : PacketData} (h : CopyOf p q) (h' : CopyOf q s) : CopyOf p s :=
  ⟨h'.ty.trans h.ty, h'.timestamp.trans h.timestamp, h'.payload.trans h.payload, List.Subset.trans h'.endpoints h.endpoints⟩

theorem Settled.copy {S : Schema} {p q : PacketData} (h : Settled S p) (hcopy : CopyOf p q) : Settled S q := by
  refine ⟨?_, fun ep hep => h.endpoint ep (hcopy.endpoints hep), ?_⟩
  · rw [hcopy.ty]
    exact h.ty
  · rw [hcopy.payload]
    exact h.size

/-- The types of the packets that routers and relays make of their own. -/
def Schema.ownTraffic (S : Schema) : List UInt32 :=
  [SEDS_DT_RELIABLE_ACK, SEDS_DT_RELIABLE_PARTIAL_ACK, SEDS_DT_RELIABLE_PACKET_REQUEST, SEDS_DT_TIME_SYNC_RESPONSE,
    SEDS_DT_DISCOVERY_ANNOUNCE, SEDS_DT_DISCOVERY_TIMESYNC_SOURCES, SEDS_DT_DISCOVERY_TOPOLOGY, kDiscoveryLeaveType] ++
    Router.ownTypes S

/-- Control traffic is read as what it is. -/
def Schema.OwnReturns (S : Schema) : Prop := ∀ ty ∈ S.ownTraffic, S.returnsType ty

instance (S : Schema) : Decidable S.OwnReturns := inferInstanceAs (Decidable (∀ _ ∈ _, _))

/-- The packet is control traffic, or a copy of one that is known. -/
def Genuine (S : Schema) (known : List PacketData) (q : PacketData) : Prop :=
  q.ty ∈ S.ownTraffic ∨ ∃ p ∈ known, Settled S p ∧ CopyOf p q

/-- A frame of such a packet. -/
def GenuineFrame (S : Schema) (Z : Codec) (known : List PacketData) (bytes : Bytes) : Prop :=
  ∃ pkt, Genuine S known pkt ∧ Frames S Z bytes pkt

section

variable {S : Schema} {Z : Codec} {known known' : List PacketData} {q : PacketData} {bytes : Bytes}

theorem Genuine.mono (hsub : known ⊆ known') (h : Genuine S known q) : Genuine S known' q := by
  rcases h with hown | ⟨p, hp, hcopy⟩
  · exact .inl hown
  · exact .inr ⟨p, hsub hp, hcopy⟩

theorem GenuineFrame.mono (hsub : known ⊆ known') (h : GenuineFrame S Z known bytes) : GenuineFrame S Z known' bytes := by
  obtain ⟨pkt, hpkt, hframes⟩ := h
  exact ⟨pkt, hpkt.mono hsub, hframes⟩

/-! ## Through a frame -/

/-- The parts of the frame of an ACK. -/
theorem serializeReliableAck_layout (S : Schema) (sender : Bytes) (ty : UInt32) (ts : UInt64) (seq : UInt32) :
    serializeReliableAck S sender ty ts seq = frameHead S (ackPacket ty sender ts) (frameFlags false true) ++
        (writeV4ReliableHeader (ackHeader seq) true ++ appendLe32 (crc32Bytes (reliableAckBody S sender ty ts seq))) ∧
      writeV4ReliableHeader (ackHeader seq) true ≠ [] := by
  have hflags : frameFlags false true = kV4FlagEndpointBitmapPresent ||| kV4FlagCompactReliableHeader := by decide
  refine ⟨?_, List.cons_ne_nil _ _⟩
  unfold serializeReliableAck withCrc frameHead
  rw [hflags, ← List.append_assoc]
  rfl

/-- The frame of an ACK is no packet, whatever the type is: for a type that has a header it is an ACK only, and for any other
    it has a payload where none is announced. -/
theorem deserializePacket_ackFrame (S : Schema) (Z : Codec) (sender : Bytes) (ty : UInt32) (ts : UInt64) (seq : UInt32) :
    deserializePacket S Z (serializeReliableAck S sender ty ts seq) = none := by
  obtain ⟨hlayout, hheader⟩ := serializeReliableAck_layout S sender ty ts seq
  generalize serializeReliableAck S sender ty ts seq = b at hlayout ⊢
  generalize hcrc : appendLe32 (crc32Bytes (reliableAckBody S sender ty ts seq)) = crc at hlayout
  have hcrcLen : crc.length = kCrcBytes := by
    rw [← hcrc]
    rfl
  have hrest : kCrcBytes ≤ (writeV4ReliableHeader (ackHeader seq) true ++ crc).length := by
    rw [List.length_append]
    omega
  have hblen : b.length = (frameHead S (ackPacket ty sender ts) (frameFlags false true)).length +
      (writeV4ReliableHeader (ackHeader seq) true).length + kCrcBytes := by
    rw [hlayout]
    simp only [List.length_append]
    omega
  have hcont : Continues b (frameHead S (ackPacket ty sender ts) (frameFlags false true)).length
      (writeV4ReliableHeader (ackHeader seq) true) crc := by
    rw [Continues, hlayout, List.drop_left]
  have hv4 : isV4FrameFlags (b.getD 0 0) = true := by
    rw [(frameHead_reads _ hlayout hrest).1]
    exact isV4FrameFlags_frameFlags _ _
  obtain ⟨-, -, i3, -, -, -, htype, -⟩ := frameHead_reads _ hlayout hrest
  cases hwalk : (Read.deserializeV4 S Z b).value 0 with
  | none =>
    unfold deserializePacket
    rw [Read.value_deserializePacket, if_pos hv4, hwalk]
    split <;> rfl
  | some read =>
    exfalso
    obtain ⟨q, k⟩ := read
    obtain ⟨hd, i, reliable, j, hhead, hrel, hack, rfl, hsize⟩ := Read.deserializeV4_eq_some hwalk
    obtain ⟨-, wireTy, j3, -, -, -, -, -, htype', -, -, -, -, hlocal, hvalid, -⟩ := Read.v4Head_eq_some hhead
    rw [htype, Option.some.injEq, Prod.mk.injEq] at htype'
    rw [← htype'.1, UInt32.toUInt32_toUInt64] at hlocal
    rw [v4Head_frame (ackPacket ty sender ts) hlayout hrest hlocal hvalid] at hhead
    split at hhead
    · cases hhead
    simp only [Option.some.injEq, Prod.mk.injEq] at hhead
    obtain ⟨hhd, rfl⟩ := hhead
    have hcompact : (hd.flags &&& kV4FlagCompactReliableHeader != 0) = true := by
      rw [← hhd]
      exact (frameFlags_bits false true).2.2.2.2
    cases hhas : S.hasV4ReliableHeader hd.ty with
    | true =>
      have hread := v4Reliable_frame hd hcompact (ackHeader_flags seq).1
        (show Continues b _ (headerBytes S hd.ty (ackHeader seq) true) crc by rwa [headerBytes, hhas, if_pos rfl])
        (show _ + (headerBytes S hd.ty (ackHeader seq) true).length ≤ _ by rw [headerBytes, hhas, if_pos rfl]; omega)
      rw [hread, hhas, if_pos rfl] at hrel
      simp only [Option.some.injEq, Prod.mk.injEq] at hrel
      rw [← hrel.1] at hack
      have hset : ((ackHeader seq).flags &&& 0x01 != 0) = true := by simpa using (ackHeader_flags seq).2
      exact Bool.false_ne_true (hack.symm.trans hset)
    | false =>
      have hstays := v4Reliable_frame hd hcompact (ackHeader_flags seq).1
        (show Continues b _ (headerBytes S hd.ty (ackHeader seq) true) (writeV4ReliableHeader (ackHeader seq) true ++ crc) by
          rw [headerBytes, hhas, if_neg Bool.false_ne_true, Continues, hlayout, List.drop_left]
          rfl)
        (show _ + (headerBytes S hd.ty (ackHeader seq) true).length ≤ _ by
          rw [headerBytes, hhas, if_neg Bool.false_ne_true]
          simp only [List.length_nil]
          omega)
      rw [hstays] at hrel
      simp only [Option.some.injEq, Prod.mk.injEq] at hrel
      obtain ⟨-, rfl⟩ := hrel
      have hbare : (hd.flags &&& 0x01 != 0) = false := by
        rw [← hhd]
        exact (frameFlags_bits false true).2.2.2.1
      have hzero : hd.logicalSize.toNat = 0 := by
        rw [← hhd]
        rfl
      have hnone : (headerBytes S hd.ty (ackHeader seq) true).length = 0 := by
        rw [headerBytes, hhas, if_neg Bool.false_ne_true]
        rfl
      have hrem : remaining (b.length - kCrcBytes) (frameHead S (ackPacket ty sender ts) (frameFlags false true)).length =
          (writeV4ReliableHeader (ackHeader seq) true).length := by
        unfold remaining
        split <;> omega
      have hpayload : payloadAt Z b hd.flags hd.logicalSize
          (frameHead S (ackPacket ty sender ts) (frameFlags false true)).length = writeV4ReliableHeader (ackHeader seq) true := by
        unfold payloadAt maybeDecompress
        rw [hbare, hrem, hcont.take]
        rfl
      rw [hnone, Nat.add_zero, hpayload, hzero] at hsize
      exact hheader (List.eq_nil_of_length_eq_zero hsize)

/-- What a frame is read as has the type its wire id leads to. -/
theorem deserializePacket_frame_ty {pkt : PacketData} {compact : Bool} {header : Bytes}
    (hb : bytes = withCrc (frameBody S Z pkt compact header)) (h : deserializePacket S Z bytes = some q) :
    S.localTypeId (S.v4TypeId pkt.ty) = some q.ty ∧ S.validType q.ty = true := by
  obtain ⟨crc, hlayout, -, hrest⟩ := frame_layout hb
  obtain ⟨hfirst, -, i3, -, -, -, hread, -⟩ := frameHead_reads pkt hlayout hrest
  have hv4 : isV4FrameFlags (bytes.getD 0 0) = true := by
    rw [hfirst]
    exact isV4FrameFlags_frameFlags _ _
  obtain ⟨hd, i, hhead, hty, -⟩ := deserializePacket_v4Head hv4 h
  obtain ⟨-, wireTy, j3, -, -, -, -, -, hread', -, -, -, -, hlocal, hvalid, -⟩ := Read.v4Head_eq_some hhead
  rw [hread, Option.some.injEq, Prod.mk.injEq] at hread'
  rw [← hread'.1, UInt32.toUInt32_toUInt64] at hlocal
  rw [hlocal, hty]
  exact ⟨rfl, hvalid⟩

/-- The frames that go to a side are ACKs, or have the common layout and a header that is no ACK. -/
theorem Frames.layout {pkt : PacketData} (h : Frames S Z bytes pkt) :
    (∃ sender ty ts seq, bytes = serializeReliableAck S sender ty ts seq) ∨
      ∃ hdr compact, hdr.flags &&& 0x0C = 0 ∧ hdr.flags &&& 0x01 = 0 ∧
        bytes = withCrc (frameBody S Z pkt compact (headerBytes S pkt.ty hdr compact)) := by
  rcases h with rfl | ⟨flags, hflags, seq, rfl⟩
  · cases hnot : isHopAck pkt with
    | true =>
      left
      unfold serializePacket
      rw [hnot, if_pos rfl]
      exact ⟨_, _, _, _, rfl⟩
    | false =>
      right
      obtain ⟨compact, hframe⟩ := serializePacket_frame (S := S) (Z := Z) hnot
      exact ⟨⟨kV4ReliableFlagUnsequenced, 0, 0⟩, compact, by decide, by decide, hframe⟩
  · right
    have hbits : ∀ f ∈ [0, kReliableFlagUnordered], f &&& 0x0C = 0 ∧ f &&& 0x01 = 0 := by decide
    exact ⟨⟨flags, seq, 0⟩, _, (hbits flags hflags).1, (hbits flags hflags).2,
      serializePacketWithReliable_frame S Z pkt ⟨flags, seq, 0⟩⟩

/-- **One hop**: what is read from a frame of a genuine packet is genuine. -/
theorem GenuineFrame.read (hZ : Z.Lossless) (hown : S.OwnReturns) (h : GenuineFrame S Z known bytes)
    (hread : deserializePacket S Z bytes = some q) : Genuine S known q := by
  obtain ⟨pkt, hpkt, hframes⟩ := h
  rcases hframes.layout with ⟨sender, ty, ts, seq, rfl⟩ | ⟨hdr, compact, hflags, hack, hb⟩
  · rw [deserializePacket_ackFrame] at hread
    cases hread
  · obtain ⟨hlocal, hvalid⟩ := deserializePacket_frame_ty hb hread
    rcases hpkt with hcontrol | ⟨p, hp, hsettled, hcopy⟩
    · left
      rw [hown pkt.ty hcontrol q.ty hlocal]
      exact hcontrol
    · have hpkt := hsettled.copy hcopy
      have hty := hpkt.ty q.ty hlocal
      rw [hty] at hlocal hvalid
      rw [deserializePacket_frame hZ pkt hpkt.size hlocal hvalid hdr compact hflags hack hb] at hread
      split at hread
      · cases hread
      · cases hread
        refine .inr ⟨p, hp, hsettled, hcopy.trans ⟨rfl, rfl, rfl, ?_⟩⟩
        intro x hx
        obtain ⟨ep, hep, hlt, hback⟩ := mem_wireEndpoints.mp hx
        rw [hpkt.endpoint ep hep hlt x hback]
        exact hep

end

/-! ## What a node holds -/

namespace Owner

section

variable (S : Schema) (Z : Codec) (known : List PacketData)

/-- What is numbered or handed to a side is genuine. -/
def HandsGenuine : Obs → Prop
  | .transmit _ bytes => GenuineFrame S Z known bytes
  | .packetTx _ pkt => Genuine S known pkt
  | .number _ _ _ bytes => GenuineFrame S Z known bytes
  | _ => True

/-- All packets and frames the owner has, and all it handed to its sides, are genuine. -/
structure Sound (o : Owner) : Prop where
  tx : ∀ item ∈ o.txQueue.items, Genuine S known item.pkt
  stored : ∀ pkt, o.Stores pkt → Genuine S known pkt
  held : ∀ key seq bytes, o.Holds key seq bytes → GenuineFrame S Z known bytes
  obs : ∀ e ∈ o.obs, HandsGenuine S Z known e

end

variable {S : Schema} {Z : Codec} {known known' : List PacketData} {o o' : Owner}

theorem HandsGenuine.mono (hsub : known ⊆ known') {e : Obs} (h : HandsGenuine S Z known e) : HandsGenuine S Z known' e := by
  cases e with
  | transmit sideId bytes => exact GenuineFrame.mono hsub h
  | packetTx sideId pkt => exact Genuine.mono hsub h
  | number sideId ty seq bytes => exact GenuineFrame.mono hsub h
  | _ => trivial

theorem HandsGenuine.of_silent {e : Obs} (h : e.silent = true) : HandsGenuine S Z known e := by
  cases e with
  | transmit => cases h
  | packetTx => cases h
  | number => cases h
  | _ => trivial

theorem Sound.mono (hsub : known ⊆ known') (h : o.Sound S Z known) : o.Sound S Z known' :=
  ⟨fun item hitem => (h.tx item hitem).mono hsub, fun pkt hpkt => (h.stored pkt hpkt).mono hsub,
    fun key seq bytes hholds => (h.held key seq bytes hholds).mono hsub, fun e he => (h.obs e he).mono hsub⟩

theorem Blank.sound (h : o.Blank) : o.Sound S Z known := by
  refine ⟨?_, ?_, ?_, ?_⟩
  · intro item hitem
    rw [h.tx] at hitem
    cases hitem
  · intro pkt hstores
    unfold Stores at hstores
    rw [h.rx, h.released, h.receiving] at hstores
    rcases hstores with ⟨item, hitem, -⟩ | ⟨item, hitem, -⟩ | ⟨key, rx, seq, bf, hrx, -⟩
    · cases hitem
    · cases hitem
    · cases hrx
  · intro key seq bytes hholds
    exact absurd hholds (h.not_holds key seq bytes)
  · intro e he
    rw [h.obs] at he
    cases he

/-- A step that moves only genuine packets keeps the owner sound. -/
theorem Moves.sound (h : Moves (fun item => Genuine S known item.pkt) (HandsGenuine S Z known) (Genuine S known) o o')
    (hsound : o.Sound S Z known) : o'.Sound S Z known := by
  refine ⟨?_, ?_, ?_, ?_⟩
  · intro item hitem
    exact (h.tx item hitem).elim (hsound.tx item) id
  · intro pkt hstores
    exact (h.stored pkt hstores).elim (hsound.stored pkt) id
  · intro key seq bytes hholds
    rcases h.held key seq bytes hholds with hold | ⟨sideId, ty, -, hnumber, -⟩
    · exact hsound.held key seq bytes hold
    · exact hnumber
  · intro e he
    obtain ⟨l, hobs, hl⟩ := h.trace
    rw [hobs] at he
    exact (List.mem_append.mp he).elim (hsound.obs e) (hl e)

/-- A genuine packet may go to any side. -/
theorem HandsGenuine.carries {item : TxItem} (h : Genuine S known item.pkt) (sideId : Int32) :
    Carries (HandsGenuine S Z known) S Z sideId item :=
  ⟨trivial, fun _ hframes => ⟨item.pkt, h, hframes⟩, fun _ _ _ hframes => ⟨item.pkt, h, hframes⟩, h⟩

theorem Sound.due (h : o.Sound S Z known) {now key : UInt64} {bytes : Bytes} (hdue : o.HoldsDue now key bytes) :
    GenuineFrame S Z known bytes := by
  obtain ⟨-, tx, sent, seq, htx, hsent, hbytes, -⟩ := hdue
  exact h.held key seq bytes ⟨tx, sent, htx, hsent, hbytes⟩

theorem Sound.request (h : o.Sound S Z known) {pkt : PacketData} {srcSide : Option Int32} {sideId : Int32} {bytes : Bytes}
    (hrequests : Requests S o pkt srcSide sideId bytes) : GenuineFrame S Z known bytes := by
  obtain ⟨-, -, -, -, -, -, hholds⟩ := hrequests
  exact h.held _ _ bytes hholds

/-- Control traffic is genuine whatever it says. -/
theorem own_grants (S : Schema) (Z : Codec) (known : List PacketData) :
    Router.Grants (fun item => Genuine S known item.pkt) (HandsGenuine S Z known) S where
  allows := by
    refine ⟨?_, fun _ he => .of_silent (Obs.silent_of_plain he)⟩
    intro controlTy ty seq ts sender sideId hcontrol
    left
    unfold isInternalControlType at hcontrol
    simp only [Bool.or_eq_true, beq_iff_eq] at hcontrol
    rcases hcontrol with (rfl | rfl) | rfl <;> simp [makeReliableControlPacket, Schema.ownTraffic]
  lost _ := trivial
  own ty hty ts payload sender := .inl (List.mem_append_right _ hty)
  discovery ty ts payload sender sideId hty := by
    left
    unfold isDiscoveryControlType at hty
    simp only [Bool.or_eq_true, beq_iff_eq] at hty
    rcases hty with ((rfl | rfl) | rfl) | rfl <;> simp [makeInternalPacket, Schema.ownTraffic]
  topology ts payload sender sideId := .inl (by simp [Schema.ownTraffic])

end Owner

/-- What one side hands over: the bytes of a frame, or a view of a packet. -/
inductive Parcel where
  | frame (bytes : Bytes)
  | packet (view : SedsPacketView)

/-- The packet that is read from it. -/
def Parcel.read (S : Schema) (Z : Codec) : Parcel → Option PacketData
  | .frame bytes => deserializePacket S Z bytes
  | .packet view => packetFromView S view

/-! ## Routers -/

namespace Router

section

variable (S : Schema) (Z : Codec) (E : Env) (known : List PacketData)

/-- The packet an application submits. -/
def submission (r : Router) : Act → Option PacketData
  | .logBytesEx ty data timestamp _ => some (logPacket S E r ty data timestamp).1
  | .transmitMessage view => packetFromView S view
  | .transmitMessageQueue view => packetFromView S view
  | .transmitSerializedMessageQueue bytes => deserializePacket S Z bytes
  | .setNetworkVariablePacked bytes => deserializePacket S Z bytes
  | .seedManagedVariablePacked bytes => deserializePacket S Z bytes
  | _ => none

/-- What is given to the router as coming from the network. -/
def Act.parcel : Act → Option Parcel
  | .receiveSerialized bytes => some (.frame bytes)
  | .receive view => some (.packet view)
  | .receiveSerializedFromSide _ bytes => some (.frame bytes)
  | .receiveFromSide _ view => some (.packet view)
  | .rxSerializedPacketToQueue bytes => some (.frame bytes)
  | .rxPacketToQueue view => some (.packet view)
  | .rxSerializedPacketToQueueFromSide _ bytes => some (.frame bytes)
  | .rxPacketToQueueFromSide _ view => some (.packet view)
  | _ => none

/-- `Owner.Sound`, and so are the packets sent end to end and the values of managed variables. -/
structure Sound (r : Router) : Prop where
  owner : r.toOwner.Sound S Z known
  sent : ∀ id sent, r.endToEndReliableTx.lookup id = some sent → Genuine S known sent.pkt
  latest : ∀ e ∈ r.managedVariableLatest.entries, Genuine S known e.2.pkt

end

variable {S : Schema} {Z : Codec} {E : Env} {known known' : List PacketData} {r : Router}

theorem Sound.mono (hsub : known ⊆ known') (h : r.Sound S Z known) : r.Sound S Z known' :=
  ⟨h.owner.mono hsub, fun id sent hsent => (h.sent id sent hsent).mono hsub, fun e he => (h.latest e he).mono hsub⟩

theorem Blank.sound (h : r.Blank) : r.Sound S Z known := by
  refine ⟨h.owner.sound, ?_, ?_⟩
  · intro id sent hsent
    rw [h.sent] at hsent
    cases hsent
  · intro e he
    rw [h.latest] at he
    cases he

/-- A router takes a packet from the network, or from its queue. -/
theorem Sound.taken (h : r.Sound S Z known) {act : Act} (harrives : ∀ parcel ∈ act.parcel, ∀ pkt ∈ parcel.read S Z, Genuine S known pkt)
    {pkt : PacketData} {srcSide : Option Int32} (htaken : r.taken S Z act = some (pkt, srcSide)) : Genuine S known pkt := by
  have hmap : ∀ (found : Option PacketData) (src : Option Int32), found.map (·, src) = some (pkt, srcSide) → pkt ∈ found := by
    intro found src hfound
    obtain ⟨pkt', hpkt', heq⟩ := Option.map_eq_some_iff.mp hfound
    cases heq
    exact hpkt'
  cases act with
  | receiveSerialized bytes => exact harrives _ rfl pkt (hmap _ _ htaken)
  | receive view => exact harrives _ rfl pkt (hmap _ _ htaken)
  | receiveSerializedFromSide sideId bytes => exact harrives _ rfl pkt (hmap _ _ htaken)
  | receiveFromSide sideId view => exact harrives _ rfl pkt (hmap _ _ htaken)
  | receiveNext =>
    obtain ⟨item, hitem, heq⟩ := Option.map_eq_some_iff.mp htaken
    cases heq
    exact h.owner.stored _ (.inl ⟨item, List.mem_of_mem_head? hitem, rfl⟩)
  | _ => cases htaken

/-- What the receipt of a genuine packet does is allowed. -/
theorem Sound.takes (h : r.Sound S Z known) {pkt : PacketData} (hpkt : Genuine S known pkt) (srcSide : Option Int32) :
    Takes (fun item => Genuine S known item.pkt) (Owner.HandsGenuine S Z known) (Genuine S known) S E r pkt srcSide := by
  have hid : ∀ o : Owner, Emits (fun item => Genuine S known item.pkt) (Owner.HandsGenuine S Z known) o (o.packetId S pkt).2 :=
    fun o => .observe o trivial
  have hsource : ∀ o : Owner,
      Emits (fun item => Genuine S known item.pkt) (Owner.HandsGenuine S Z known) o (o.sourcePacketId S pkt).2 :=
    fun o => .observe o trivial
  have hown : ∀ ty ∈ S.ownTraffic, ∀ q : PacketData, q.ty = ty → Genuine S known q := by
    intro ty hty q hq
    left
    rw [hq]
    exact hty
  have hack : ∀ id ts sender, Genuine S known (makeE2eReliableAckPacket S id ts sender) :=
    fun _ _ _ => hown SEDS_DT_RELIABLE_ACK (by simp [Schema.ownTraffic]) _ rfl
  refine ⟨fun _ => trivial, hid, hsource, hack, fun _ => trivial, fun _ => ⟨hid, hsource, hack, hpkt, ?_, ?_, ?_, ?_, ?_, hpkt, ?_⟩⟩
  · exact fun sideId bytes hrequests => h.owner.request hrequests
  · intro latest hlatest
    unfold requestedVariable at hlatest
    split at hlatest
    · exact h.latest _ (AList.mem_lookup_iff.mp hlatest)
    · cases hlatest
  · exact fun _ _ _ => hown S.p2pTypeId (by simp [Schema.ownTraffic, ownTypes]) _ rfl
  · exact fun _ e he => .of_silent (Obs.silent_of_fromPeer (peerEvent_fromPeer he))
  · exact fun _ _ _ => hown SEDS_DT_TIME_SYNC_RESPONSE (by simp [Schema.ownTraffic]) _ rfl
  · exact fun _ => trivial

/-- What an act demands is allowed when the packet it is given is genuine. -/
theorem Sound.demands (h : r.Sound S Z known) {act : Act} (harrives : ∀ parcel ∈ act.parcel, ∀ pkt ∈ parcel.read S Z, Genuine S known pkt)
    (hsubmits : ∀ pkt ∈ r.submission S Z E act, Genuine S known pkt) :
    Demands (fun item => Genuine S known item.pkt) (Owner.HandsGenuine S Z known) (Genuine S known) (Genuine S known)
      (fun _ sent => Genuine S known sent.pkt) S Z E r act := by
  cases act with
  | configure setting => trivial
  | logBytesEx ty data timestamp queue => exact hsubmits _ rfl
  | transmitMessage view => exact fun pkt hpkt => ⟨hsubmits pkt hpkt, hsubmits pkt hpkt⟩
  | transmitMessageQueue view => exact fun pkt hpkt => ⟨hsubmits pkt hpkt, hsubmits pkt hpkt⟩
  | transmitSerializedMessageQueue bytes => exact ⟨trivial, fun pkt hpkt => hsubmits pkt hpkt⟩
  | setNetworkVariablePacked bytes => exact ⟨trivial, fun pkt hpkt => ⟨hsubmits pkt hpkt, hsubmits pkt hpkt⟩⟩
  | seedManagedVariablePacked bytes => exact ⟨trivial, fun pkt hpkt => hsubmits pkt hpkt⟩
  | receiveSerialized bytes => exact ⟨trivial, trivial, fun pkt hpkt => h.takes (harrives _ rfl pkt hpkt) _⟩
  | receive view => exact fun pkt hpkt => h.takes (harrives _ rfl pkt hpkt) _
  | receiveSerializedFromSide sideId bytes =>
    exact ⟨trivial, trivial, fun pkt hpkt => ⟨harrives _ rfl pkt hpkt, h.takes (harrives _ rfl pkt hpkt) _⟩⟩
  | receiveFromSide sideId view => exact fun pkt hpkt => h.takes (harrives _ rfl pkt hpkt) _
  | rxSerializedPacketToQueue bytes => exact ⟨trivial, fun pkt hpkt => harrives _ rfl pkt hpkt⟩
  | rxPacketToQueue view => exact fun pkt hpkt => harrives _ rfl pkt hpkt
  | rxSerializedPacketToQueueFromSide sideId bytes => exact ⟨trivial, trivial, fun pkt hpkt => harrives _ rfl pkt hpkt⟩
  | rxPacketToQueueFromSide sideId view => exact fun pkt hpkt => harrives _ rfl pkt hpkt
  | reliableTimeouts => exact fun key bytes hdue => h.owner.due hdue
  | endToEndTimeouts =>
    exact ⟨fun _ => trivial, fun id sent hsent => ⟨fun _ _ _ => h.sent id sent hsent, fun _ => h.sent id sent hsent⟩⟩
  | receiveNext =>
    intro item hitem
    exact ⟨trivial, h.takes (h.owner.stored _ (.inl ⟨item, List.mem_of_mem_head? hitem, rfl⟩)) _⟩
  | transmitNext =>
    intro item hitem
    have hpkt := h.owner.tx item (List.mem_of_mem_head? hitem)
    exact ⟨fun sideId _ _ _ => Owner.HandsGenuine.carries hpkt sideId, trivial, trivial, fun _ _ _ _ => hpkt⟩
  | _ => trivial

/-- **One step of a router** that is given only genuine packets keeps it sound. -/
theorem perform_sound (h : r.Sound S Z known) {act : Act} (harrives : ∀ parcel ∈ act.parcel, ∀ pkt ∈ parcel.read S Z, Genuine S known pkt)
    (hsubmits : ∀ pkt ∈ r.submission S Z E act, Genuine S known pkt) : (perform S Z E r act).Sound S Z known := by
  have hmoves := perform_moves S (Owner.own_grants S Z known) Z E (h.demands harrives hsubmits)
  refine ⟨hmoves.owner.sound h.owner, ?_, ?_⟩
  · intro id sent' hsent'
    obtain ⟨sent, hages, -, hsent⟩ := hmoves.sent id sent' hsent'
    rw [hages.pkt]
    rcases hsent with hold | ⟨hnew, -⟩
    · exact h.sent id sent hold
    · exact hnew
  · intro e he
    rcases hmoves.latest e he with ⟨old, hold, heq⟩ | hnew
    · rw [← heq]
      exact h.latest old hold
    · exact hnew

end Router

/-! ## Relays -/

namespace Relay

/-- What is given to the relay. -/
def Act.parcel : Act → Option Parcel
  | .rxSerializedFromSide _ bytes => some (.frame bytes)
  | .rxPacketFromSide _ view => some (.packet view)
  | _ => none

variable {S : Schema} {Z : Codec} {E : Env} {known : List PacketData} {r : Relay}

/-- **One step of a relay** that is given only genuine packets keeps it sound. -/
theorem perform_sound (h : r.toOwner.Sound S Z known) {act : Act} (harrives : ∀ parcel ∈ act.parcel, ∀ pkt ∈ parcel.read S Z, Genuine S known pkt) :
    (perform S Z E r act).toOwner.Sound S Z known := by
  have hdemands : Demands (fun item => Genuine S known item.pkt) (Owner.HandsGenuine S Z known) (Genuine S known) S Z E r act := by
    cases act with
    | configure setting => trivial
    | rxSerializedFromSide sideId bytes =>
      exact ⟨trivial, trivial, fun _ => trivial, fun pkt hpkt => ⟨harrives _ rfl pkt hpkt, trivial⟩⟩
    | rxPacketFromSide sideId view => exact fun pkt hpkt => harrives _ rfl pkt hpkt
    | reliableTimeouts => exact fun key bytes hdue => h.due hdue
    | receiveNext =>
      refine ⟨fun _ => trivial, fun item hitem => ?_⟩
      have hpkt := h.stored _ (.inl ⟨item, List.mem_of_mem_head? hitem, rfl⟩)
      exact ⟨fun o => .observe o trivial, fun o => .observe o trivial, fun _ => hpkt, fun _ _ => hpkt,
        fun sideId bytes hrequests => h.request hrequests, fun _ => trivial⟩
    | transmitNext =>
      intro item hitem
      exact ⟨fun sideId _ _ _ => Owner.HandsGenuine.carries (h.tx item (List.mem_of_mem_head? hitem)) sideId, trivial⟩
    | _ => trivial
  exact (perform_moves S (Owner.own_grants S Z known) Z E hdemands).sound h

end Relay

/-! ## Networks -/

/-- Routers and relays, and what was submitted to the routers. -/
structure Mesh where
  routers : Nat → Router
  relays : Nat → Relay
  submitted : List PacketData

namespace Mesh

/-- An act of one node. -/
inductive Act where
  | router (i : Nat) (act : Router.Act)
  | relay (j : Nat) (act : Relay.Act)

/-- Some node has done this. -/
def Done (m : Mesh) (e : Obs) : Prop := (∃ i, e ∈ (m.routers i).obs) ∨ ∃ j, e ∈ (m.relays j).obs

/-- The packet that is read from the parcel comes from one that was handed to a side. -/
def HandsOver (m : Mesh) (pkt : PacketData) : Parcel → Prop
  | .frame bytes => ∃ sideId, m.Done (.transmit sideId bytes)
  | .packet _ => ∃ sideId, m.Done (.packetTx sideId pkt)

section

variable (S : Schema) (Z : Codec) (E F : Nat → Env)

def step (m : Mesh) : Act → Mesh
  | .router i act =>
    { m with
      routers := Function.update m.routers i (Router.perform S Z (E i) (m.routers i) act)
      submitted := m.submitted ++ ((m.routers i).submission S Z (E i) act).toList }
  | .relay j act => { m with relays := Function.update m.relays j (Relay.perform S Z (F j) (m.relays j) act) }

/-- What arrives was handed over, unless nothing is read from it, and what is submitted is settled. -/
def Admits (m : Mesh) : Act → Prop
  | .router i act =>
    (∀ parcel ∈ act.parcel, ∀ pkt ∈ parcel.read S Z, m.HandsOver pkt parcel) ∧
      ∀ pkt ∈ (m.routers i).submission S Z (E i) act, Settled S pkt
  | .relay _ act => ∀ parcel ∈ act.parcel, ∀ pkt ∈ parcel.read S Z, m.HandsOver pkt parcel

/-- Every node is sound. -/
structure Sound (m : Mesh) : Prop where
  routers : ∀ i, (m.routers i).Sound S Z m.submitted
  relays : ∀ j, (m.relays j).toOwner.Sound S Z m.submitted

end

variable {S : Schema} {Z : Codec} {E F : Nat → Env} {m : Mesh}

theorem Sound.done (h : m.Sound S Z) {e : Obs} (he : m.Done e) : Owner.HandsGenuine S Z m.submitted e := by
  rcases he with ⟨i, he⟩ | ⟨j, he⟩
  · exact (h.routers i).owner.obs e he
  · exact (h.relays j).obs e he

/-- **One hop of a network**: what is read from a parcel that was handed over is genuine. -/
theorem Sound.reads (hZ : Z.Lossless) (hown : S.OwnReturns) (h : m.Sound S Z) {parcel : Parcel} {pkt : PacketData}
    (hread : pkt ∈ parcel.read S Z) (hhands : m.HandsOver pkt parcel) : Genuine S m.submitted pkt := by
  cases parcel with
  | frame bytes =>
    obtain ⟨sideId, hdone⟩ := hhands
    exact GenuineFrame.read hZ hown (h.done hdone) hread
  | packet view =>
    obtain ⟨sideId, hdone⟩ := hhands
    exact h.done hdone

theorem step_sound (hZ : Z.Lossless) (hown : S.OwnReturns) (act : Act) (hadmits : m.Admits S Z E act) (h : m.Sound S Z) :
    (m.step S Z E F act).Sound S Z := by
  cases act with
  | router i act =>
    obtain ⟨harrives, hsubmits⟩ := hadmits
    have hsub : m.submitted ⊆ m.submitted ++ ((m.routers i).submission S Z (E i) act).toList := List.subset_append_left _ _
    refine ⟨?_, fun j => (h.relays j).mono hsub⟩
    intro k
    show (Function.update m.routers i _ k).Sound S Z _
    by_cases hk : k = i
    · subst hk
      rw [Function.update_self]
      apply Router.perform_sound ((h.routers k).mono hsub)
      · exact fun parcel hparcel pkt hread => (h.reads hZ hown hread (harrives parcel hparcel pkt hread)).mono hsub
      · intro pkt hpkt
        exact .inr ⟨pkt, List.mem_append_right _ (Option.mem_toList.mpr hpkt), hsubmits pkt hpkt, .refl pkt⟩
    · rw [Function.update_of_ne hk]
      exact (h.routers k).mono hsub
  | relay j act =>
    refine ⟨h.routers, ?_⟩
    intro k
    show (Function.update m.relays j _ k).toOwner.Sound S Z _
    by_cases hk : k = j
    · subst hk
      rw [Function.update_self]
      exact Relay.perform_sound (h.relays k) fun parcel hparcel pkt hread => h.reads hZ hown hread (hadmits parcel hparcel pkt hread)
    · rw [Function.update_of_ne hk]
      exact h.relays k

/-- `A` is router 0, and all others are `B`. -/
def chain : Mesh where
  routers
    | 0 => .new .Sink (ascii "A") [.serialized [] true] []
    | _ => .new .Sink (ascii "B") [.serialized [] true] []
  relays _ := .new [.serialized [] true, .serialized [] true]
  submitted := []

/-- What `A` submits, and what the relay makes of it. -/
def chainPacket : PacketData := { gpsPacket with sender := ascii "A" }

def relayedPacket : PacketData := { gpsPacket with sender := ascii "@addr:2815558820" }

def chainFrame (pkt : PacketData) : Bytes := serializePacketWithReliable defaultTestSchema (.absent 16) pkt ⟨0, 1, 0⟩

/-- `A` sends the packet to the relay, and the relay sends it on: the first frame it sends is an ACK. -/
def chainActs : List Act :=
  [.router 0 (.logBytesEx 100 gpsPacket.payload (some 123) true), .router 0 .transmitNext,
    .relay 0 (.rxSerializedFromSide 0 (chainFrame chainPacket)), .relay 0 .receiveNext, .relay 0 .transmitNext, .relay 0 .transmitNext]

abbrev afterChain (acts : List Act) : Mesh := runFrom (step defaultTestSchema (.absent 16) (fun _ => .calm) fun _ => .calm) chain acts

end Mesh

end SedsNet
