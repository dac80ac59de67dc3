import Mathlib.Data.List.Dedup
import SedsNet.Wire.RoundTrip

/-!
# Which packets can be encoded

`packet_from_view` (`src/core.cpp`) accepts any packet of a valid type with at least one
endpoint, all valid. The v4 format stores the number of endpoints in a byte and the
endpoints themselves in a 256-bit map of wire ids, so an accepted packet need not survive.
`packetFromView_encodable_iff` says exactly which ones do.
-/

set_option autoImplicit false

namespace SedsNet

open Lib

/-! ## `packet_from_view` -/

/-- The fields of the C view that `packet_from_view` reads. A pointer with its length is the
    data behind it, and `none` is a null pointer; the payload keeps its length, which the
    null check looks at. A null sender is the empty string. -/
structure SedsPacketView where
  ty : UInt32
  sender : Bytes
  endpoints : Option (List UInt32)
  timestamp : UInt64
  payload : Option Bytes
  payloadLen : UInt64
  deriving DecidableEq, Repr

/-- The type a view means: its own id, or else the local type of that wire id. -/
def viewType (S : Schema) (ty : UInt32) : Option UInt32 :=
  if S.validType ty then some ty
  else
    match S.localTypeId ty with
    | some localTy => if S.validType localTy then some localTy else none
    | none => none

def packetFromView (S : Schema) (view : SedsPacketView) : Option PacketData := do
  let endpoints ← view.endpoints
  if endpoints.length = 0 then none
  let ty ← viewType S view.ty
  if endpoints.any fun ep => !S.validEndpoint ep then none
  if view.payloadLen ≠ 0 ∧ view.payload = none then none
  let payload := if view.payloadLen ≠ 0 then (view.payload.getD []).take view.payloadLen.toNat else []
  some ⟨ty, view.sender, endpoints, view.timestamp, payload⟩

theorem viewType_valid {S : Schema} {ty ty' : UInt32} (h : viewType S ty = some ty') :
    S.validType ty' = true := by
  unfold viewType at h
  split at h
  · simp only [Option.some.injEq] at h
    exact h ▸ ‹_›
  · split at h
    · split at h
      · simp only [Option.some.injEq] at h
        exact h ▸ ‹_›
      · simp at h
    · simp at h

/-- What an accepted view guarantees. -/
theorem packetFromView_eq_some {S : Schema} {view : SedsPacketView} {pkt : PacketData}
    (h : packetFromView S view = some pkt) :
    S.validType pkt.ty = true ∧ (∀ ep ∈ pkt.endpoints, S.validEndpoint ep = true) ∧
      pkt.payload.length < 2 ^ 64 := by
  unfold packetFromView at h
  cases hep : view.endpoints with
  | none => rw [hep] at h; simp at h
  | some endpoints =>
    cases hty : viewType S view.ty with
    | none => rw [hep, hty] at h; simp at h
    | some ty =>
      rw [hep, hty] at h
      simp only [Option.bind_eq_bind, Option.bind_some] at h
      split at h
      · simp at h
      split at h
      · simp at h
      split at h
      · simp at h
      rename_i hvalid _
      simp only [Option.some.injEq] at h
      subst h
      refine ⟨viewType_valid hty, ?_, ?_⟩
      · intro ep hmem
        have hnone : ∀ ep ∈ endpoints, S.validEndpoint ep = true := by simpa using hvalid
        exact hnone ep hmem
      · dsimp only
        split
        · rw [List.length_take]
          have := view.payloadLen.toNat_lt
          omega
        · exact Nat.two_pow_pos 64

/-! ## Endpoint ids on the wire -/

/-- The first entry with a name is not behind any other one. -/
theorem endpointByName_eq_some {S : Schema} {name : String} {ep x : UInt32}
    (hep : S.kEndpointNames[ep.toNat]? = some (some name)) (h : S.endpointByName name = some x) :
    x.toNat ≤ ep.toNat ∧ S.kEndpointNames[x.toNat]? = some (some name) := by
  unfold Schema.endpointByName at h
  obtain ⟨i, hi, rfl⟩ := Option.map_eq_some_iff.mp h
  obtain ⟨hlt, hmatch, hfirst⟩ := List.findIdx?_eq_some_iff_getElem.mp hi
  obtain ⟨hlen, hget⟩ := List.getElem?_eq_some_iff.mp hep
  have hle : i ≤ ep.toNat := by
    by_contra hgt
    have := hfirst ep.toNat (by omega)
    rw [hget] at this
    simp at this
  have hnat : (UInt32.ofNat i).toNat = i := by
    rw [UInt32.toNat_ofNat', Nat.mod_eq_of_lt]
    have := ep.toNat_lt
    omega
  rw [hnat]
  refine ⟨hle, ?_⟩
  rw [List.getElem?_eq_getElem hlt]
  simpa using hmatch

/-- A legacy id of a built-in endpoint is on the wire as the built-in id; any other one is
    shifted by 100. -/
theorem v4EndpointId_of_lt {S : Schema} {ep : UInt32} {name : String}
    (hname : S.kEndpointNames[ep.toNat]? = some (some name)) (hlt : ¬ ep ≥ 100) :
    (Schema.builtinEndpointName (S.v4EndpointId ep) = some name ∧
      ∀ x : UInt32, S.kEndpointNames[x.toNat]? = some (some name) → ¬ x ≥ 100 →
        S.v4EndpointId x = S.v4EndpointId ep) ∨
    (Schema.builtinEndpointName (S.v4EndpointId ep) = none ∧ S.v4EndpointId ep = 100 + ep) := by
  have hsame : ∀ x : UInt32, S.kEndpointNames[x.toNat]? = some (some name) → ¬ x ≥ 100 →
      S.v4EndpointId x = if name == "TIME_SYNC" then 200 else if name == "DISCOVERY" then 201
        else if name == "TELEMETRY_ERROR" then 202 else 100 + x := by
    intro x hx hlo
    unfold Schema.v4EndpointId
    simp only [hx, if_neg hlo]
  have hsmall : ep.toNat < 100 := by
    have : ¬ 100 ≤ ep.toNat := fun hle => hlt (UInt32.le_iff_toNat_le.mpr hle)
    omega
  rw [hsame ep hname hlt]
  by_cases h1 : name = "TIME_SYNC"
  · subst h1
    exact Or.inl ⟨rfl, fun x hx hlo => by rw [hsame x hx hlo]; rfl⟩
  by_cases h2 : name = "DISCOVERY"
  · subst h2
    exact Or.inl ⟨rfl, fun x hx hlo => by rw [hsame x hx hlo]; rfl⟩
  by_cases h3 : name = "TELEMETRY_ERROR"
  · subst h3
    exact Or.inl ⟨rfl, fun x hx hlo => by rw [hsame x hx hlo]; rfl⟩
  · right
    have hshift : (100 + ep).toNat = 100 + ep.toNat := by
      simp only [UInt32.toNat_add, UInt32.reduceToNat]
      omega
    have hne : ∀ k : UInt32, 200 ≤ k.toNat → ¬ 100 + ep = k := by
      intro k hk heq
      rw [← heq, hshift] at hk
      omega
    simp only [beq_iff_eq, h1, h2, h3, if_false, Schema.builtinEndpointName, hne 200 (by decide),
      hne 201 (by decide), hne 202 (by decide), and_self]

/-- Translating to the wire and back is idempotent: the endpoint that comes back is on the wire
    under an id that leads to itself. -/
theorem localEndpointId_v4EndpointId_idem {S : Schema} {ep x : UInt32}
    (hvalid : S.validEndpoint ep = true) (hlt : (S.v4EndpointId ep).toNat < 256)
    (h : S.localEndpointId (S.v4EndpointId ep) = some x) :
    (S.v4EndpointId x).toNat < 256 ∧ S.localEndpointId (S.v4EndpointId x) = some x := by
  obtain ⟨name, hname⟩ := Schema.validEndpoint_iff.mp hvalid
  by_cases hhigh : ep ≥ 100
  · -- an id from 100 on is its own wire id and comes back as itself
    have hself : S.v4EndpointId ep = ep := by
      unfold Schema.v4EndpointId
      simp only [hname, hhigh, if_true]
    rw [hself] at hlt h
    have hle : ep ≤ 255 := UInt32.le_iff_toNat_le.mpr (Nat.le_of_lt_succ hlt)
    have hcanon : canonicalEndpoint S ep := ⟨hvalid, hhigh, hle⟩
    rw [hcanon.wire.2.1, Option.some.injEq] at h
    subst h
    rw [hself]
    exact ⟨hlt, hcanon.wire.2.1⟩
  · have hsmall : ep.toNat < 100 := by
      have : ¬ 100 ≤ ep.toNat := fun hle => hhigh (UInt32.le_iff_toNat_le.mpr hle)
      omega
    -- a wire id that is itself a valid id comes back as itself
    have hwireSelf : ∀ w : UInt32, S.validEndpoint w = true → 100 ≤ w → w.toNat < 256 →
        (S.v4EndpointId w).toNat < 256 ∧ S.localEndpointId (S.v4EndpointId w) = some w := by
      intro w hw hlo hhi
      have hcanon : canonicalEndpoint S w := ⟨hw, hlo, UInt32.le_iff_toNat_le.mpr (Nat.le_of_lt_succ hhi)⟩
      rw [hcanon.wire.1]
      exact ⟨hhi, hcanon.wire.2.1⟩
    rcases v4EndpointId_of_lt hname hhigh with ⟨hbuiltin, hsame⟩ | ⟨hbuiltin, hshift⟩
    · have hlo : 100 ≤ S.v4EndpointId ep := by
        unfold Schema.builtinEndpointName at hbuiltin
        split at hbuiltin
        · simp [*]
        split at hbuiltin
        · simp [*]
        split at hbuiltin
        · simp [*]
        · simp at hbuiltin
      have hback := h
      unfold Schema.localEndpointId at h
      simp only [hbuiltin] at h
      split at h
      · simp only [Option.some.injEq] at h
        subst h
        exact hwireSelf _ ‹_› hlo hlt
      · obtain ⟨hle, hx⟩ := endpointByName_eq_some hname h
        have hxlow : ¬ x ≥ 100 := by
          intro hge
          have : 100 ≤ x.toNat := UInt32.le_iff_toNat_le.mp hge
          omega
        rw [hsame x hx hxlow]
        exact ⟨hlt, hback⟩
    · have hback := h
      have hsub : (100 + ep) - 100 = ep := by
        apply UInt32.toNat_inj.mp
        simp only [UInt32.toNat_sub, UInt32.toNat_add, UInt32.reduceToNat]
        omega
      have hlo : (100 : UInt32) ≤ 100 + ep := by
        simp only [UInt32.le_iff_toNat_le, UInt32.toNat_add, UInt32.reduceToNat]
        omega
      unfold Schema.localEndpointId at h
      simp only [hbuiltin] at h
      rw [hshift] at h hlt
      rw [if_pos hlo] at h
      split at h
      · simp only [Option.some.injEq] at h
        subst h
        exact hwireSelf _ ‹_› hlo hlt
      · rw [hsub, if_pos hvalid, Option.some.injEq] at h
        subst h
        rw [hshift] at hback ⊢
        exact ⟨hlt, hback⟩

/-- An endpoint the bitmap can hold and that its bit leads back to. -/
def survivesWire (S : Schema) (ep : UInt32) : Prop :=
  (S.v4EndpointId ep).toNat < 256 ∧ S.localEndpointId (S.v4EndpointId ep) = some ep

instance (S : Schema) (ep : UInt32) : Decidable (survivesWire S ep) :=
  inferInstanceAs (Decidable (_ ∧ _))

theorem mem_wireEndpoints_of_survives {S : Schema} {endpoints : List UInt32}
    (h : ∀ ep ∈ endpoints, survivesWire S ep) (x : UInt32) :
    x ∈ wireEndpoints S endpoints ↔ x ∈ endpoints := by
  rw [mem_wireEndpoints]
  constructor
  · rintro ⟨ep, hep, -, hx⟩
    rw [(h ep hep).2, Option.some.injEq] at hx
    exact hx ▸ hep
  · intro hx
    exact ⟨x, hx, (h x hx).1, (h x hx).2⟩

/-- Endpoints that survive come back once each. -/
theorem wireEndpoints_perm_dedup {S : Schema} {endpoints : List UInt32}
    (h : ∀ ep ∈ endpoints, survivesWire S ep) :
    (wireEndpoints S endpoints).Perm endpoints.dedup := by
  have hnodup : (wireEndpoints S endpoints).Nodup := by
    refine (wireEndpoints_pairwise fun ep hep => (h ep hep).2).imp ?_
    rintro x y hlt rfl
    exact Nat.lt_irrefl _ hlt
  refine (List.perm_ext_iff_of_nodup hnodup endpoints.nodup_dedup).mpr ?_
  intro x
  rw [mem_wireEndpoints_of_survives h, List.mem_dedup]

/-- A set of valid endpoints comes back as itself only if each of its members does: going to the
    wire and back is idempotent, so it cannot permute them. -/
theorem survives_of_mem_wireEndpoints {S : Schema} {endpoints : List UInt32}
    (hvalid : ∀ ep ∈ endpoints, S.validEndpoint ep = true)
    (h : ∀ ep ∈ endpoints, ep ∈ wireEndpoints S endpoints) :
    ∀ ep ∈ endpoints, survivesWire S ep := by
  intro x hx
  obtain ⟨ep, hep, hlt, hback⟩ := mem_wireEndpoints.mp (h x hx)
  exact localEndpointId_v4EndpointId_idem (hvalid ep hep) hlt hback

/-! ## The condition -/

theorem isHopAck_eq_false {pkt : PacketData}
    (hack : ¬ (pkt.ty = SEDS_DT_RELIABLE_ACK ∧ pkt.payload.length = 8)) : isHopAck pkt = false := by
  unfold isHopAck
  by_cases hty : pkt.ty = SEDS_DT_RELIABLE_ACK
  · have hlen : pkt.payload.length ≠ 8 := fun hlen => hack ⟨hty, hlen⟩
    simp [hlen]
  · simp [hty]

/-- The packets a frame can carry: the type is the one its wire id leads back to, every endpoint
    survives, and the one-byte count is the number of distinct endpoints. -/
structure EncodablePacket (S : Schema) (pkt : PacketData) : Prop where
  ty : S.localTypeId (S.v4TypeId pkt.ty) = some pkt.ty
  endpoint : ∀ ep ∈ pkt.endpoints, survivesWire S ep
  count : pkt.endpoints.dedup.length = pkt.endpoints.length % 256

/-- **Exactly the encodable packets come back** with their type and their set of endpoints. -/
theorem packetFromView_encodable_iff (S : Schema) (Z : Codec) (hZ : Z.Lossless)
    (view : SedsPacketView) (pkt : PacketData) (hview : packetFromView S view = some pkt)
    (hack : ¬ (pkt.ty = SEDS_DT_RELIABLE_ACK ∧ pkt.payload.length = 8)) :
    (∃ q, deserializePacket S Z (serializePacket S Z pkt) = some q ∧ q.ty = pkt.ty ∧
      ∀ ep, ep ∈ q.endpoints ↔ ep ∈ pkt.endpoints) ↔ EncodablePacket S pkt := by
  obtain ⟨hvalid, hendpoints, hsize⟩ := packetFromView_eq_some hview
  have hnot := isHopAck_eq_false hack
  constructor
  · rintro ⟨q, hq, hqty, hset⟩
    have hty : S.localTypeId (S.v4TypeId pkt.ty) = some pkt.ty := by
      rw [deserializePacket_serializePacket_ty hnot hq, hqty]
    rw [deserializePacket_serializePacket hZ hsize hnot hty hvalid] at hq
    split at hq
    · simp at hq
    rename_i hcount
    simp only [Option.some.injEq] at hq
    subst hq
    have hsurvive := survives_of_mem_wireEndpoints hendpoints fun ep hep => (hset ep).mpr hep
    refine ⟨hty, hsurvive, ?_⟩
    rw [← (wireEndpoints_perm_dedup hsurvive).length_eq]
    exact not_not.mp hcount
  · rintro ⟨hty, hsurvive, hcount⟩
    refine ⟨framePacket S pkt, ?_, rfl, mem_wireEndpoints_of_survives hsurvive⟩
    rw [deserializePacket_serializePacket hZ hsize hnot hty hvalid, if_neg]
    rw [(wireEndpoints_perm_dedup hsurvive).length_eq, hcount]
    exact not_not.mpr rfl

/-- A position report is encodable. -/
theorem packetFromView_encodable_gps :
    ∃ q, deserializePacket defaultTestSchema (.absent 16)
        (serializePacket defaultTestSchema (.absent 16) gpsPacket) = some q ∧ q.ty = gpsPacket.ty ∧
      ∀ ep, ep ∈ q.endpoints ↔ ep ∈ gpsPacket.endpoints :=
  (packetFromView_encodable_iff defaultTestSchema (.absent 16) (Codec.absent_lossless 16)
    ⟨100, ascii "TEST", some [101, 100], 123, some gpsPacket.payload, 12⟩ gpsPacket
    (by decide +kernel) (by decide)).mpr
    ⟨by decide +kernel, by decide +kernel, by decide +kernel⟩

/-- The same report with the card listed twice is accepted, and its frame is not: the count says
    two endpoints and the bitmap has one. -/
theorem packetFromView_duplicate_rejected :
    ∃ (S : Schema) (Z : Codec) (view : SedsPacketView) (pkt : PacketData), Z.Lossless ∧
      packetFromView S view = some pkt ∧
      ¬ (pkt.ty = SEDS_DT_RELIABLE_ACK ∧ pkt.payload.length = 8) ∧
      ¬ ∃ q, deserializePacket S Z (serializePacket S Z pkt) = some q ∧ q.ty = pkt.ty ∧
        ∀ ep, ep ∈ q.endpoints ↔ ep ∈ pkt.endpoints := by
  refine ⟨defaultTestSchema, .absent 16, ⟨100, ascii "TEST", some [100, 100], 123, some gpsPacket.payload, 12⟩,
    { gpsPacket with endpoints := [100, 100] }, Codec.absent_lossless 16, by decide +kernel, by decide, ?_⟩
  have hnone : deserializePacket defaultTestSchema (.absent 16) (serializePacket defaultTestSchema
      (.absent 16) { gpsPacket with endpoints := [100, 100] }) = none := by decide +kernel
  rintro ⟨q, hq, -⟩
  rw [hnone] at hq
  simp at hq

end SedsNet
