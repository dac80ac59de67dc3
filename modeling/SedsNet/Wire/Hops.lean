import Mathlib.Logic.Function.Iterate
import SedsNet.Wire.Encodable

/-!
# Packets across hops

A relay parses a frame and serializes the packet again, and de-duplication compares
`packet_id`s taken at different hops. The sender of a v4 packet is on the wire as a hash of
its name; parsing turns the hash into the name `@addr:N`, and the next hop hashes that name.
`relayHop_identity_iff` says when a frame passes unchanged: in particular `N` must be a fixed
point of that second hash.
-/

set_option autoImplicit false

namespace SedsNet

open Lib

/-! ## Decimal names are injective -/

theorem toDigits_of_toDecimal (n : Nat) :
    (toDecimal n).map (fun b => Char.ofNat b.toNat) = Nat.toDigits 10 n := by
  unfold toDecimal
  rw [List.map_map]
  refine (List.map_congr_left ?_).trans (List.map_id _)
  intro c hc
  have hdigit := Nat.isDigit_of_mem_toDigits (by decide) (by decide) hc
  have hlt : c.toNat < 256 := by
    simp only [Char.isDigit, ge_iff_le, Bool.and_eq_true, decide_eq_true_eq] at hdigit
    have : c.toNat ≤ 57 := UInt32.le_iff_toNat_le.mp hdigit.2
    omega
  simp only [Function.comp_apply, UInt8.toNat_ofNat', Nat.mod_eq_of_lt hlt, Char.ofNat_toNat, id_eq]

theorem toDecimal_injective {m n : Nat} (h : toDecimal m = toDecimal n) : m = n := by
  have hdigits : Nat.toDigits 10 m = Nat.toDigits 10 n := by
    rw [← toDigits_of_toDecimal, ← toDigits_of_toDecimal, h]
  have hm := @Nat.ofDigitChars_toDigits 10 m (by decide) (by decide)
  rw [hdigits, Nat.ofDigitChars_toDigits (by decide) (by decide)] at hm
  exact hm.symm

theorem addrSender_injective {x y : UInt64} (h : addrSender x = addrSender y) : x = y :=
  UInt64.toNat_inj.mp (toDecimal_injective (List.append_cancel_left h))

/-! ## Hops -/

/-- One relay hop: parse and serialize. A frame that does not parse is not forwarded. -/
def relayHop (S : Schema) (Z : Codec) (b : Bytes) : Bytes :=
  match deserializePacket S Z b with
  | some pkt => serializePacket S Z pkt
  | none => b

/-- The source address field of a v4 frame. -/
def Read.sourceAddress (b : Bytes) : Parse UInt64 := do
  let flags ← Read.next b
  let _nep ← Read.next b
  let _ty ← Read.readUleb128 b (b.length - kCrcBytes)
  let _size ← Read.readUleb128 b (b.length - kCrcBytes)
  let _timestamp ← Read.readUleb128 b (b.length - kCrcBytes)
  Read.v4Nonce b flags
  Read.readUleb128 b (b.length - kCrcBytes)

theorem Read.sourceAddress_of_v4Head {S : Schema} {b : Bytes} {hd : Read.V4Head} {j : Nat}
    (h : (Read.v4Head S b).value 0 = some (hd, j)) :
    ((Read.sourceAddress b).value 0).map Prod.fst = some hd.sourceAddress := by
  obtain ⟨hflags, wireTy, i3, i4, i5, i6, i7, i8, h3, h4, h5, h6, h7, -⟩ := Read.v4Head_eq_some h
  unfold Read.sourceAddress
  rw [hflags] at h6
  rw [Reader.value_bind_of (Read.value_next b 0), Reader.value_bind_of (Read.value_next b 1),
    Reader.value_bind_of h3, Reader.value_bind_of h4, Reader.value_bind_of h5, Reader.value_bind_of h6,
    h7]
  rfl

/-- The frames that a hop leaves alone: the type and the endpoints are on the wire under their
    own ids, the endpoints are listed in the order of the bitmap, and the address is the hash of
    its own name. -/
structure HopStable (S : Schema) (b : Bytes) (pkt : PacketData) : Prop where
  ty : S.localTypeId (S.v4TypeId pkt.ty) = some pkt.ty
  endpoint : ∀ ep ∈ pkt.endpoints, survivesWire S ep
  order : pkt.endpoints.Pairwise fun x y => (S.v4EndpointId x).toNat < (S.v4EndpointId y).toNat
  address : ∀ address, ((Read.sourceAddress b).value 0).map Prod.fst = some address →
    (senderAddressU32 (addrSender address)).toUInt64 = address

/-- Endpoints in bitmap order come back in that order. -/
theorem wireEndpoints_of_ordered {S : Schema} {endpoints : List UInt32}
    (h : ∀ ep ∈ endpoints, survivesWire S ep)
    (horder : endpoints.Pairwise fun x y => (S.v4EndpointId x).toNat < (S.v4EndpointId y).toNat) :
    wireEndpoints S endpoints = endpoints := by
  have hnodup : endpoints.Nodup := by
    refine horder.imp ?_
    rintro x y hlt rfl
    exact Nat.lt_irrefl _ hlt
  have hperm := wireEndpoints_perm_dedup h
  rw [hnodup.dedup] at hperm
  exact @List.Perm.eq_of_pairwise UInt32
    (fun x y => (S.v4EndpointId x).toNat < (S.v4EndpointId y).toNat) _ _
    (fun x y _ _ hxy hyx => absurd hyx (Nat.lt_asymm hxy))
    (wireEndpoints_pairwise fun ep hep => (h ep hep).2) horder hperm

/-- An endpoint that a bit leads to is valid. -/
theorem localEndpointId_valid {S : Schema} (hcap : S.kEndpointNames.length ≤ 2 ^ 32) {w x : UInt32}
    (h : S.localEndpointId w = some x) : S.validEndpoint x = true := by
  unfold Schema.localEndpointId at h
  split at h
  · split at h
    · simp only [Option.some.injEq] at h
      exact h ▸ ‹_›
    · unfold Schema.endpointByName at h
      obtain ⟨i, hi, rfl⟩ := Option.map_eq_some_iff.mp h
      obtain ⟨hlt, hmatch, -⟩ := List.findIdx?_eq_some_iff_getElem.mp hi
      have hnat : (UInt32.ofNat i).toNat = i := by
        rw [UInt32.toNat_ofNat', Nat.mod_eq_of_lt (by omega)]
      rw [Schema.validEndpoint_iff, hnat, List.getElem?_eq_getElem hlt]
      exact ⟨_, by simpa using hmatch⟩
  · split at h
    · split at h
      · simp only [Option.some.injEq] at h
        exact h ▸ ‹_›
      · split at h
        · simp only [Option.some.injEq] at h
          exact h ▸ ‹_›
        · simp at h
    · simp at h

theorem relayHop_iterate {S : Schema} {Z : Codec} {b : Bytes} {pkt : PacketData}
    (hdec : deserializePacket S Z b = some pkt)
    (hsame : deserializePacket S Z (serializePacket S Z pkt) = some pkt) (n : Nat) :
    deserializePacket S Z ((relayHop S Z)^[n] b) = some pkt := by
  induction n with
  | zero => exact hdec
  | succ n ih =>
    rw [Function.iterate_succ_apply']
    have hhop : relayHop S Z ((relayHop S Z)^[n] b) = serializePacket S Z pkt := by
      unfold relayHop
      unfold relayHop at ih
      rw [ih]
    rw [hhop, hsame]

/-- **Exactly the stable frames keep their identity**: the packet parsed from the forwarded frame
    is the packet itself, and with it the packet id is the same after any number of hops.
    The table bound is that of 32-bit endpoint ids. -/
theorem relayHop_identity_iff (S : Schema) (Z : Codec) (hZ : Z.Lossless)
    (hcap : S.kEndpointNames.length ≤ 2 ^ 32) (b : Bytes) (pkt : PacketData)
    (hv4 : isV4FrameFlags (b.getD 0 0) = true) (hdec : deserializePacket S Z b = some pkt)
    (hack : ¬ (pkt.ty = SEDS_DT_RELIABLE_ACK ∧ pkt.payload.length = 8)) :
    (deserializePacket S Z (serializePacket S Z pkt) = some pkt ∧
      ∀ n, packetIdFromWire S Z ((relayHop S Z)^[n] b) = packetIdFromWire S Z b) ↔
    HopStable S b pkt := by
  obtain ⟨hd, i, hhead, hty, hsender, hendpoints, hlen⟩ := deserializePacket_v4Head hv4 hdec
  have haddress := Read.sourceAddress_of_v4Head hhead
  obtain ⟨-, _, _, _, _, _, _, _, -, -, -, -, -, -, hvalid, -, hcount, -⟩ := Read.v4Head_eq_some hhead
  rw [← hty] at hvalid
  rw [← hendpoints] at hcount
  have hnot := isHopAck_eq_false hack
  have hsize : pkt.payload.length < 2 ^ 64 := by
    rw [hlen]
    exact UInt64.toNat_lt _
  have hsmall : pkt.endpoints.length < 256 := by
    rw [hcount]
    exact UInt8.toNat_lt _
  constructor
  · rintro ⟨hsame, -⟩
    have hback := deserializePacket_serializePacket_ty hnot hsame
    rw [deserializePacket_serializePacket hZ hsize hnot hback hvalid] at hsame
    split at hsame
    · simp at hsame
    rw [Option.some.injEq, framePacket] at hsame
    have hwire : wireEndpoints S pkt.endpoints = pkt.endpoints := congrArg PacketData.endpoints hsame
    have hname : addrSender (senderAddressU32 pkt.sender).toUInt64 = pkt.sender :=
      congrArg PacketData.sender hsame
    -- every endpoint is one a bit led to, so it is valid, and then it survives
    have hsurvive : ∀ ep ∈ pkt.endpoints, survivesWire S ep := by
      refine survives_of_mem_wireEndpoints ?_ ?_
      · intro ep hep
        rw [← hwire] at hep
        obtain ⟨_, _, -, hx⟩ := mem_wireEndpoints.mp hep
        exact localEndpointId_valid hcap hx
      · intro ep hep
        rw [hwire]
        exact hep
    refine ⟨hback, hsurvive, ?_, ?_⟩
    · have horder := wireEndpoints_pairwise fun ep hep => (hsurvive ep hep).2
      rwa [hwire] at horder
    · intro address haddr
      rw [haddress, Option.some.injEq] at haddr
      rw [hsender, haddr] at hname
      exact addrSender_injective hname
  · intro hstable
    have hwire := wireEndpoints_of_ordered hstable.endpoint hstable.order
    have hsame : deserializePacket S Z (serializePacket S Z pkt) = some pkt := by
      have hmatch : ¬ (wireEndpoints S pkt.endpoints).length ≠ pkt.endpoints.length % 256 := by
        rw [hwire, Nat.mod_eq_of_lt hsmall]
        exact not_not.mpr rfl
      have hname : addrSender (senderAddressU32 pkt.sender).toUInt64 = pkt.sender := by
        rw [hsender, hstable.address _ haddress]
      rw [deserializePacket_serializePacket hZ hsize hnot hstable.ty hvalid, if_neg hmatch, framePacket,
        hwire, hname]
    refine ⟨hsame, ?_⟩
    intro n
    unfold packetIdFromWire
    rw [relayHop_iterate hdec hsame, hdec]

/-- The one 32-bit address that is the hash of its own name: a report from there is stable. -/
theorem relayHop_identity_fixedPoint :
    packetIdFromWire defaultTestSchema (.absent 16) ((relayHop defaultTestSchema (.absent 16))^[3]
      (serializePacket defaultTestSchema (.absent 16)
        { gpsPacket with sender := ascii "@addr:1340886709" })) =
    packetIdFromWire defaultTestSchema (.absent 16) (serializePacket defaultTestSchema (.absent 16)
      { gpsPacket with sender := ascii "@addr:1340886709" }) :=
  ((relayHop_identity_iff defaultTestSchema (.absent 16) (Codec.absent_lossless 16) (by decide +kernel) _
    { gpsPacket with sender := ascii "@addr:1340886709", endpoints := [100, 101] }
    (by decide +kernel) (by decide +kernel) (by decide)).mpr
    ⟨by decide +kernel, by decide +kernel, by decide +kernel, by
      intro address haddr
      have hfield : ((Read.sourceAddress (serializePacket defaultTestSchema (.absent 16)
        { gpsPacket with sender := ascii "@addr:1340886709" })).value 0).map Prod.fst =
          some 1340886709 := by decide +kernel
      rw [hfield, Option.some.injEq] at haddr
      subst haddr
      decide +kernel⟩).2 3

/-- A report from `TEST` is not: after one more hop it has another sender, and another id. -/
theorem relayHop_identity_fails :
    ∃ (S : Schema) (Z : Codec) (b : Bytes) (pkt : PacketData), Z.Lossless ∧
      isV4FrameFlags (b.getD 0 0) = true ∧ deserializePacket S Z b = some pkt ∧
      ¬ (pkt.ty = SEDS_DT_RELIABLE_ACK ∧ pkt.payload.length = 8) ∧
      deserializePacket S Z (serializePacket S Z pkt) ≠ some pkt ∧
      packetIdFromWire S Z (relayHop S Z b) ≠ packetIdFromWire S Z b := by
  refine ⟨defaultTestSchema, .absent 16, serializePacket defaultTestSchema (.absent 16) gpsPacket,
    { gpsPacket with sender := addrSender 488734002, endpoints := [100, 101] },
    Codec.absent_lossless 16, by decide +kernel, by decide +kernel, by decide, ?_, ?_⟩
  · decide +kernel
  · decide +kernel

end SedsNet
