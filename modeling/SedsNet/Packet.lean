import SedsNet.Owner
import SedsNet.Wire.Hops
import SedsNet.Wire.Rewrite

/-!
# The class `Packet`

`Packet` of `src/packet.cpp` has a constructor that throws unless the type is valid, the endpoints are not empty and the
payload fits the type. `deserialize_packet` asks for the first of the three alone, and `Packet::deserialize` and the bridge to
the packet handlers of `src/router.cpp` construct a packet from what it accepts. `accepted_constructs` says of which frames
they can.
-/

set_option autoImplicit false

namespace SedsNet

open Lib

/-- What the constructor of `Packet` asks for. -/
def validPacket (S : Schema) (tuning : Tuning) (pkt : PacketData) : Prop :=
  S.validType pkt.ty = true ∧ pkt.endpoints ≠ [] ∧ validatePayload S tuning pkt.ty pkt.payload.length = true

instance (S : Schema) (tuning : Tuning) (pkt : PacketData) : Decidable (validPacket S tuning pkt) :=
  inferInstanceAs (Decidable (_ ∧ _ ∧ _))

/-- `class Packet`. -/
structure Packet (S : Schema) (tuning : Tuning) extends PacketData where
  valid : validPacket S tuning toPacketData

namespace Packet

variable (S : Schema) (tuning : Tuning)

/-- `Packet::Packet`. What a `std::invalid_argument` says stands for the exception. -/
def new (pkt : PacketData) : Except String (Packet S tuning) :=
  if h : validPacket S tuning pkt then .ok ⟨pkt, h⟩ else .error "invalid packet"

/-- `Packet::from_view`. -/
def fromView (view : SedsPacketView) : Except String (Packet S tuning) :=
  match packetFromView S view with
  | none => .error "invalid packet view"
  | some pkt => new S tuning pkt

/-- `Packet::deserialize`. -/
def deserialize (Z : Codec) (bytes : Bytes) : Except String (Option (Packet S tuning)) :=
  match deserializePacket S Z bytes with
  | none => .ok none
  | some pkt => (new S tuning pkt).map some

end Packet

/-- `fill_view`. -/
def fillView (pkt : PacketData) : SedsPacketView :=
  ⟨pkt.ty, pkt.sender, some pkt.endpoints, pkt.timestamp, some pkt.payload, UInt64.ofNat pkt.payload.length⟩

/-- `Router::packet_bridge`, for a handler that does not throw. -/
def packetBridge (S : Schema) (tuning : Tuning) (fn : Packet S tuning → SedsResult) (view : SedsPacketView) : Except String SedsResult :=
  (Packet.fromView S tuning view).map fn

section

variable {S : Schema} {tuning : Tuning} {Z : Codec} {b : Bytes} {pkt : PacketData}

theorem Packet.new_ok_iff : (∃ p, Packet.new S tuning pkt = .ok p) ↔ validPacket S tuning pkt := by
  unfold Packet.new
  by_cases h : validPacket S tuning pkt
  · simp [h]
  · simp [h]

/-- An accepted packet comes back out of its view, if there is an endpoint and all are valid. -/
theorem packetFromView_fillView (hty : S.validType pkt.ty = true) (hsize : pkt.payload.length < 2 ^ 64) :
    packetFromView S (fillView pkt) =
      if pkt.endpoints ≠ [] ∧ ∀ ep ∈ pkt.endpoints, S.validEndpoint ep = true then some pkt else none := by
  have hlength : (UInt64.ofNat pkt.payload.length).toNat = pkt.payload.length := by
    rw [UInt64.toNat_ofNat', Nat.mod_eq_of_lt hsize]
  have hpayload : (if UInt64.ofNat pkt.payload.length ≠ 0 then
      ((some pkt.payload).getD []).take (UInt64.ofNat pkt.payload.length).toNat else []) = pkt.payload := by
    split
    · rw [hlength]
      exact List.take_length
    · rename_i hzero
      have hnil : pkt.payload.length = 0 := by
        rw [← hlength, not_not.mp hzero]
        rfl
      exact (List.eq_nil_of_length_eq_zero hnil).symm
  have htype : viewType S pkt.ty = some pkt.ty := if_pos hty
  have hall : (pkt.endpoints.any fun ep => !S.validEndpoint ep) = true ↔ ¬ ∀ ep ∈ pkt.endpoints, S.validEndpoint ep = true := by
    simp
  unfold packetFromView fillView
  simp only [Option.bind_eq_bind, Option.bind_some, htype, hpayload, List.length_eq_zero_iff, reduceCtorEq, and_false, if_false]
  by_cases hnil : pkt.endpoints = []
  · simp [hnil]
  · by_cases hvalid : ∀ ep ∈ pkt.endpoints, S.validEndpoint ep = true
    · have hgood : ¬ (pkt.endpoints.any fun ep => !S.validEndpoint ep) = true := fun hbad => hall.mp hbad hvalid
      have hboth : pkt.endpoints ≠ [] ∧ ∀ ep ∈ pkt.endpoints, S.validEndpoint ep = true := ⟨hnil, hvalid⟩
      rw [if_neg hnil, if_neg hgood, if_pos hboth]
    · have hbad : (pkt.endpoints.any fun ep => !S.validEndpoint ep) = true := hall.mpr hvalid
      have hnot : ¬ (pkt.endpoints ≠ [] ∧ ∀ ep ∈ pkt.endpoints, S.validEndpoint ep = true) := fun h => hvalid h.2
      rw [if_neg hnil, if_pos hbad, if_neg hnot]
      rfl

/-- Neither way of constructing a packet throws, exactly when it is valid and so are its endpoints. -/
theorem constructs_iff (hty : S.validType pkt.ty = true) (hsize : pkt.payload.length < 2 ^ 64) :
    (∀ fn : Packet S tuning → SedsResult, ∃ r, packetBridge S tuning fn (fillView pkt) = .ok r) ↔
      validPacket S tuning pkt ∧ ∀ ep ∈ pkt.endpoints, S.validEndpoint ep = true := by
  have hbridge : ∀ fn : Packet S tuning → SedsResult, (∃ r, packetBridge S tuning fn (fillView pkt) = .ok r) ↔
      validPacket S tuning pkt ∧ ∀ ep ∈ pkt.endpoints, S.validEndpoint ep = true := by
    intro fn
    unfold packetBridge Packet.fromView
    rw [packetFromView_fillView hty hsize]
    by_cases hvalid : pkt.endpoints ≠ [] ∧ ∀ ep ∈ pkt.endpoints, S.validEndpoint ep = true
    · rw [if_pos hvalid]
      unfold Packet.new
      by_cases hpacket : validPacket S tuning pkt
      · simp [hpacket, Except.map]
        exact hvalid.2
      · simp [hpacket, Except.map]
    · rw [if_neg hvalid]
      simp only [Except.map, reduceCtorEq, exists_false, false_iff]
      intro hpacket
      exact hvalid ⟨hpacket.1.2.1, hpacket.2⟩
  constructor
  · intro hall
    exact (hbridge fun _ => SEDS_OK).mp (hall fun _ => SEDS_OK)
  · intro hpacket fn
    exact (hbridge fn).mpr hpacket

end

/-! ## What a frame says -/

/-- The type a frame states in its first varint. -/
def statedType (S : Schema) (b : Bytes) : Option UInt32 :=
  ((Read.readUleb128 b (b.length - kCrcBytes)).value 2).bind fun (wire, _) =>
    if isV4FrameFlags (b.getD 0 0) then S.localTypeId wire.toUInt32 else some wire.toUInt32

/-- The stated size fits the stated type. -/
def statesFit (S : Schema) (tuning : Tuning) (b : Bytes) : Prop :=
  ∀ ty size cur, statedType S b = some ty → (Read.statedSize b).value 0 = some (size, cur) →
    validatePayload S tuning ty size.toNat = true

/-- Every endpoint of a frame without a v4 bitmap is a valid one: those of the type's row in a v4 frame, and those that the
    bits of a legacy bitmap stand for. -/
def statesValidEndpoints (S : Schema) (b : Bytes) : Prop :=
  if isV4FrameFlags (b.getD 0 0) then
    b.getD 0 0 &&& kV4FlagEndpointBitmapPresent = 0 → ∀ ty, statedType S b = some ty →
      ∀ ep ∈ (S.typeAt ty.toNat).endpoints, S.validEndpoint ep = true
  else
    ∀ fs cur, (Read.legacyFields b).value 0 = some (fs, cur) →
      ∀ ep ∈ parseBitmap S ((b.drop cur).take S.endpointBitmapBytes) S.endpointBitmapBytes, S.validEndpoint ep = true

section

variable {S : Schema} {tuning : Tuning} {Z : Codec} {b : Bytes} {pkt : PacketData}

/-- What an accepted frame says is what is in the packet. -/
structure Says (S : Schema) (b : Bytes) (pkt : PacketData) : Prop where
  ty : statedType S b = some pkt.ty
  valid : S.validType pkt.ty = true
  size : ∃ size cur, (Read.statedSize b).value 0 = some (size, cur) ∧ pkt.payload.length = size.toNat
  count : pkt.endpoints.length = (b.getD 1 0).toNat

theorem says_v4 {hd : Read.V4Head} {i : Nat} (hv4 : isV4FrameFlags (b.getD 0 0) = true)
    (hhead : (Read.v4Head S b).value 0 = some (hd, i)) (hty : pkt.ty = hd.ty) (hendpoints : pkt.endpoints = hd.endpoints)
    (hlength : pkt.payload.length = hd.logicalSize.toNat) : Says S b pkt := by
  obtain ⟨-, wireTy, i3, i4, i5, i6, i7, i8, h3, -, -, -, -, hlocal, hvalid, -, hcount, -⟩ := Read.v4Head_eq_some hhead
  obtain ⟨⟨size, cur⟩, hstated, hsize⟩ := Option.map_eq_some_iff.mp (Read.statedSize_of_v4Head hhead)
  dsimp only at hsize
  subst hsize
  refine ⟨?_, ?_, ⟨_, cur, hstated, hlength⟩, ?_⟩
  · unfold statedType
    rw [h3, Option.bind_some, hv4, hty]
    exact hlocal
  · rw [hty]
    exact hvalid
  · rw [hendpoints]
    exact hcount

/-- The endpoints of a v4 frame with a bitmap are valid; without one they are those of the type's row. -/
theorem v4Endpoints_valid (hcap : S.kEndpointNames.length ≤ 2 ^ 32) {hd : Read.V4Head} {i : Nat}
    (hv4 : isV4FrameFlags (b.getD 0 0) = true) (hhead : (Read.v4Head S b).value 0 = some (hd, i))
    (hstated : statedType S b = some hd.ty) :
    (∀ ep ∈ hd.endpoints, S.validEndpoint ep = true) ↔ statesValidEndpoints S b := by
  obtain ⟨hflags, wireTy, i3, i4, i5, i6, i7, i8, -, -, -, -, -, -, -, hread, -, -⟩ := Read.v4Head_eq_some hhead
  unfold statesValidEndpoints
  rw [if_pos hv4, ← hflags]
  unfold Read.v4Endpoints at hread
  by_cases hbitmap : hd.flags &&& kV4FlagEndpointBitmapPresent ≠ 0
  · rw [if_pos hbitmap, Reader.value_bind_of (Reader.value_tell i7)] at hread
    obtain ⟨-, hread⟩ := Reader.value_rejectIf_bind_eq_some hread
    rw [Reader.value_bind_of (Read.value_v4Bitmap S b i7), Reader.value_bind_of (Read.value_skip _ i7), Reader.value_pure] at hread
    rw [Option.some.injEq, Prod.mk.injEq] at hread
    refine iff_of_true ?_ fun hclear => absurd hclear hbitmap
    intro ep hep
    rw [← hread.1] at hep
    obtain ⟨j, -, hj⟩ := List.mem_filterMap.mp hep
    rw [Option.ite_none_right_eq_some] at hj
    exact localEndpointId_valid hcap hj.2
  · rw [if_neg hbitmap, Reader.value_bind_of (Read.value_typeInfoAt S _ i7), Reader.value_pure, Option.some.injEq,
      Prod.mk.injEq] at hread
    rw [← hread.1]
    constructor
    · intro hvalid _ ty hty
      rw [hstated, Option.some.injEq] at hty
      rw [← hty]
      exact hvalid
    · intro hvalid
      exact hvalid (not_not.mp hbitmap) hd.ty hstated

/-- The count and the type of a legacy frame. -/
theorem legacyFields_count_ty {fs : Read.LegacyFields} {j : Nat} (h : (Read.legacyFields b).value 0 = some (fs, j)) :
    fs.nep = b.getD 1 0 ∧ ∃ i, (Read.readUleb128 b (b.length - kCrcBytes)).value 2 = some (fs.ty, i) := by
  unfold Read.legacyFields Read.legacyFieldsWith at h
  rw [Reader.value_bind_of (Read.value_next b 0), Reader.value_bind_of (Read.value_next b 1)] at h
  obtain ⟨ty, i3, h3, h⟩ := Reader.value_bind_eq_some h
  obtain ⟨logicalSize, i4, h4, h⟩ := Reader.value_bind_eq_some h
  obtain ⟨timestamp, i5, h5, h⟩ := Reader.value_bind_eq_some h
  obtain ⟨senderLen, i6, h6, h⟩ := Reader.value_bind_eq_some h
  obtain ⟨senderWireLen, i7, h7, h⟩ := Reader.value_bind_eq_some h
  simp only [Reader.value_pure, Option.some.injEq, Prod.mk.injEq] at h
  obtain ⟨rfl, -⟩ := h
  exact ⟨rfl, i3, h3⟩

/-- An accepted legacy frame says what is in the packet, and its endpoints are those of its bitmap. -/
theorem says_legacy {k : Nat} (hlegacy : isV4FrameFlags (b.getD 0 0) = false)
    (h : (Read.deserializeLegacy S Z b).value 0 = some (pkt, k)) :
    Says S b pkt ∧ ((∀ ep ∈ pkt.endpoints, S.validEndpoint ep = true) ↔ statesValidEndpoints S b) := by
  rw [Read.deserializeLegacy_eq] at h
  obtain ⟨⟨fs, endpoints, sender, reliable⟩, stop, hhead, h⟩ := Reader.value_bind_eq_some h
  rw [Read.value_legacyPacketTail] at h
  dsimp only at h
  generalize (if reliable = true then stop + kReliableHeaderBytes else stop) = start at h
  split at h
  · simp at h
  split at h
  · simp at h
  rename_i hlength
  simp only [Option.some.injEq, Prod.mk.injEq] at h
  obtain ⟨rfl, -⟩ := h
  unfold Read.legacyHead at hhead
  obtain ⟨fs', cur, hfields, hhead⟩ := Reader.value_bind_eq_some hhead
  obtain ⟨_, cur', hcheck, hhead⟩ := Reader.value_bind_eq_some hhead
  obtain ⟨r, stop', haddr, hhead⟩ := Reader.value_bind_eq_some hhead
  simp only [Reader.value_pure, Option.some.injEq, Prod.mk.injEq] at hhead
  obtain ⟨⟨rfl, rfl⟩, rfl⟩ := hhead
  -- the check of the type and of the room for bitmap and sender leaves the cursor where it is
  unfold Read.legacyCheck at hcheck
  obtain ⟨hvalid, hcheck⟩ := Reader.value_rejectIf_bind_eq_some hcheck
  rw [Reader.value_bind_of (Reader.value_tell cur), Reader.value_rejectIf] at hcheck
  split at hcheck
  · simp at hcheck
  simp only [Option.some.injEq, Prod.mk.injEq, true_and] at hcheck
  subst hcheck
  unfold Read.legacyAddressing at haddr
  rw [Reader.value_bind_of (Read.value_look b _ cur), Reader.value_bind_of (Read.value_skip _ cur)] at haddr
  obtain ⟨hcount, haddr⟩ := Reader.value_rejectIf_bind_eq_some haddr
  rw [Reader.value_bind_of (Read.value_decompress Z b _ _ _ _)] at haddr
  obtain ⟨-, haddr⟩ := Reader.value_rejectIf_bind_eq_some haddr
  rw [Reader.value_bind_of (Read.value_skip _ _), Reader.value_bind_of (Read.value_typeInfoAt S _ _),
    Reader.value_pure, Option.some.injEq, Prod.mk.injEq, Prod.mk.injEq] at haddr
  obtain ⟨⟨rfl, -⟩, -⟩ := haddr
  obtain ⟨⟨size, stop⟩, hstated, hsize⟩ := Option.map_eq_some_iff.mp (Read.legacyFields_eq_some hfields).2
  dsimp only at hsize
  subst hsize
  obtain ⟨hnep, i, hty⟩ := legacyFields_count_ty hfields
  refine ⟨⟨?_, ?_, ⟨_, stop, hstated, not_not.mp hlength⟩, ?_⟩, ?_⟩
  · unfold statedType
    rw [hty, Option.bind_some, hlegacy]
    rfl
  · simpa using hvalid
  · rw [← hnep]
    exact not_not.mp hcount
  · unfold statesValidEndpoints
    rw [hlegacy, if_neg Bool.false_ne_true]
    constructor
    · intro hall fs' cur' hfields'
      rw [hfields, Option.some.injEq, Prod.mk.injEq] at hfields'
      obtain ⟨-, rfl⟩ := hfields'
      exact hall
    · intro hall
      exact hall fs' cur hfields

/-- The packet is valid if the frame counts an endpoint and its size fits. -/
theorem Says.validPacket_iff (h : Says S b pkt) : validPacket S tuning pkt ↔ b.getD 1 0 ≠ 0 ∧ statesFit S tuning b := by
  obtain ⟨size, cur, hstated, hlength⟩ := h.size
  have hcount : pkt.endpoints ≠ [] ↔ b.getD 1 0 ≠ 0 := by
    rw [Ne, ← List.length_eq_zero_iff, h.count, ← UInt8.toNat_zero, UInt8.toNat_inj]
  have hfit : validatePayload S tuning pkt.ty pkt.payload.length = true ↔ statesFit S tuning b := by
    constructor
    · intro hvalid ty size' cur' hty hstated'
      rw [h.ty, Option.some.injEq] at hty
      rw [hstated, Option.some.injEq, Prod.mk.injEq] at hstated'
      rw [← hty, ← hstated'.1, ← hlength]
      exact hvalid
    · intro hfits
      rw [hlength]
      exact hfits pkt.ty size cur h.ty hstated
  unfold validPacket
  rw [hcount, hfit]
  exact and_iff_right h.valid

end

end SedsNet
