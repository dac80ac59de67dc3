import SedsNet.Wire.Agree

/-!
# Where the parsers look

The parsers take lengths and ids from the peer. `Lib.Reader.Safe` judges their traces: on a v4
frame every read and every cursor position stays in front of the CRC trailer, and every table
index is a valid type (`v4Parsing_inBounds`). On a legacy frame two things go wrong: the type
is checked at 32 bits and used at 64, and the sum of the bitmap and sender lengths wraps.
`legacyParsing_inBounds_iff` is the exact condition.
-/

set_option autoImplicit false

namespace SedsNet

open Lib

/-! ## Cursor steps -/

/-- A guard on accesses that lets the cursor roam in front of `endp`. -/
structure CursorGuard (endp : Nat) (G : Access → Prop) : Prop where
  read : ∀ lo n, lo + n ≤ endp → G (.read lo n)
  seek : ∀ pos, pos ≤ endp → G (.seek pos)

namespace Read

variable {S : Schema} {Z : Codec} {b : Bytes} {endp : Nat} {G : Access → Prop}

theorem safe_next (hG : CursorGuard endp G) : Reader.Safe (· < endp) (next b) (fun _ j => j ≤ endp) G where
  access := by
    intro i hi e he
    rcases List.mem_pair.mp (show e ∈ [Access.read i 1, Access.seek (i + 1)] from he) with rfl | rfl
    · exact hG.read i 1 hi
    · exact hG.seek (i + 1) hi
  answer := by
    intro i hi a j hv
    simp only [value_next, Option.some.injEq, Prod.mk.injEq] at hv
    have : i < endp := hi
    omega

/-- At a known position, the step lands on the next one. -/
theorem safe_nextAt (hG : CursorGuard endp G) {i : Nat} (hi : i < endp) :
    Reader.Safe (· = i) (next b) (fun _ j => j = i + 1) G where
  access := fun _ h => (safe_next hG).access _ (h ▸ hi)
  answer := by
    rintro _ rfl a j hv
    simp only [value_next, Option.some.injEq, Prod.mk.injEq] at hv
    exact hv.2.symm

theorem safe_look (hG : CursorGuard endp G) {n : Nat} :
    Reader.Safe (· + n ≤ endp) (look b n) (fun _ j => j + n ≤ endp) G where
  access := by
    intro i hi e he
    rw [List.mem_singleton.mp (show e ∈ [Access.read i n] from he)]
    exact hG.read i n hi
  answer := by
    intro i hi a j hv
    simp only [value_look, Option.some.injEq, Prod.mk.injEq] at hv
    exact hv.2 ▸ hi

theorem safe_skip (hG : CursorGuard endp G) {n : Nat} :
    Reader.Safe (· + n ≤ endp) (skip n) (fun _ j => j ≤ endp) G :=
  Reader.Safe.advance (fun i hi => hG.seek (i + n) hi) (fun _ hi => hi)

/-- `end - cur` is what is left, as long as the cursor has not passed the end. -/
theorem le_remaining {cur n : Nat} (hcur : cur ≤ endp) :
    ¬ remaining endp cur < n ↔ cur + n ≤ endp := by
  unfold remaining
  rw [if_pos hcur]
  omega

theorem safe_readUleb128Loop (hG : CursorGuard endp G) (rounds : Nat) (shift out : UInt64) :
    Reader.Safe (· ≤ endp) (readUleb128Loop b endp rounds shift out) (fun _ j => j ≤ endp) G := by
  induction rounds generalizing shift out with
  | zero => exact Reader.Safe.fail
  | succ rounds ih =>
    unfold readUleb128Loop
    refine Reader.Safe.bind Reader.Safe.tell fun cur => ?_
    refine Reader.Safe.bind Reader.Safe.rejectIf fun _ => ?_
    refine Reader.Safe.bind ((safe_next hG).conseq ?_ fun _ _ h => h) fun byte => ?_
    · rintro i ⟨hcur, rfl, -⟩
      exact Nat.lt_of_not_le hcur
    · refine Reader.Safe.ite (fun _ => Reader.Safe.pure fun _ h => h) (fun _ => ?_)
      exact ih _ _

theorem safe_readUleb128 (hG : CursorGuard endp G) :
    Reader.Safe (· ≤ endp) (readUleb128 b endp) (fun _ j => j ≤ endp) G :=
  safe_readUleb128Loop hG 10 0 0

theorem safe_readCompactField (hG : CursorGuard endp G) (present : Bool) :
    Reader.Safe (· ≤ endp) (readCompactField b endp present) (fun _ j => j ≤ endp) G := by
  unfold readCompactField
  refine Reader.Safe.ite (fun _ => ?_) (fun _ => Reader.Safe.pure fun _ h => h)
  refine Reader.Safe.bind (safe_readUleb128 hG) fun v => ?_
  exact Reader.Safe.bind Reader.Safe.rejectIf fun _ => Reader.Safe.pure fun _ h => h.2

theorem safe_readV4ReliableHeader (hG : CursorGuard endp G) (hheader : ∀ pos, G (.reliableHeader pos))
    (compact : Bool) :
    Reader.Safe (· ≤ endp) (readV4ReliableHeader b endp compact) (fun _ j => j ≤ endp) G := by
  unfold readV4ReliableHeader
  refine Reader.Safe.bind Reader.Safe.tell fun cur => ?_
  refine Reader.Safe.bind Reader.Safe.rejectIf fun _ => ?_
  refine Reader.Safe.bind (Reader.Safe.emit fun _ _ => hheader cur) fun _ => ?_
  refine Reader.Safe.bind ((safe_next hG).conseq ?_ fun _ _ h => h) fun flags => ?_
  · rintro i ⟨hcur, rfl, -⟩
    exact Nat.lt_of_not_le hcur
  · refine Reader.Safe.ite (fun _ => ?_) (fun _ => ?_)
    · refine Reader.Safe.bind Reader.Safe.tell fun cur => ?_
      refine Reader.Safe.bind Reader.Safe.rejectIf fun _ => ?_
      refine Reader.Safe.bind ((safe_look hG).conseq ?_ fun _ _ h => h) fun _ => ?_
      · rintro i ⟨hfits, rfl, hcur⟩
        exact (le_remaining hcur).mp hfits
      · exact Reader.Safe.bind (safe_skip hG) fun _ => Reader.Safe.pure fun _ h => h
    · refine Reader.Safe.bind (safe_readCompactField hG _) fun seq => ?_
      exact Reader.Safe.bind (safe_readCompactField hG _) fun ack => Reader.Safe.pure fun _ h => h

theorem safe_checkCrc {I : Nat → Prop} (hG : CursorGuard (b.length - kCrcBytes) G) (hcrc : G .readCrc) :
    Reader.Safe I (checkCrc b) (fun _ j => I j) G := by
  unfold checkCrc
  refine Reader.Safe.bind (Reader.Safe.emit fun _ _ => ?_) fun _ => ?_
  · exact hG.read 0 _ (Nat.le_of_eq (Nat.zero_add _))
  · refine Reader.Safe.bind (Reader.Safe.emit fun _ _ => hcrc) fun _ => ?_
    exact Reader.Safe.rejectIf.conseq (fun _ h => h) fun _ _ h => h.2

/-- Everything from the cursor to the trailer is in bounds. -/
theorem safe_decompress_remaining (hG : CursorGuard endp G) (cur logicalLen : Nat) (compressed : Bool) :
    Reader.Safe (fun j => cur = j ∧ j ≤ endp)
      (decompress Z b (remaining endp cur) logicalLen compressed) (fun _ _ => True) G := by
  unfold decompress
  refine Reader.Safe.bind ((safe_look hG).conseq ?_ fun _ _ h => h) fun _ => Reader.Safe.pure fun _ _ => trivial
  rintro j ⟨rfl, hcur⟩
  unfold remaining
  rw [if_pos hcur]
  omega

end Read

/-! ## Format v4 -/

/-- What a v4 parser may touch: bytes in front of the trailer and the trailer itself, positions
    up to the trailer, rows of valid types, and entries of named endpoints. -/
def inBounds (S : Schema) (endp : Nat) : Access → Prop
  | .read lo n => lo + n ≤ endp
  | .readCrc => True
  | .seek pos => pos ≤ endp
  | .typeInfo i => ∃ ty : UInt32, ty.toNat = i ∧ S.validType ty = true
  | .endpointName i => ∃ name, S.kEndpointNames[i]? = some (some name)
  | .reliableHeader _ => True

theorem inBounds_cursorGuard (S : Schema) (endp : Nat) : CursorGuard endp (inBounds S endp) where
  read := fun _ _ h => h
  seek := fun _ h => h

/-- The three built-in endpoints have their names, under either build switch. -/
structure HasBuiltinEndpoints (S : Schema) : Prop where
  timeSync : S.validEndpoint SEDS_EP_TIME_SYNC = true
  discovery : S.validEndpoint SEDS_EP_DISCOVERY = true
  telemetryError : S.validEndpoint SEDS_EP_TELEMETRY_ERROR = true

namespace HasBuiltinEndpoints

variable {S : Schema}

theorem builtin_valid (h : HasBuiltinEndpoints S) {wire : UInt32} {name : String}
    (hname : Schema.builtinEndpointName wire = some name) : S.validEndpoint wire = true := by
  unfold Schema.builtinEndpointName at hname
  split at hname
  · exact ‹wire = 200› ▸ h.timeSync
  split at hname
  · exact ‹wire = 201› ▸ h.discovery
  split at hname
  · exact ‹wire = 202› ▸ h.telemetryError
  · simp at hname

/-- With the built-ins in place, `by_name` is never called. -/
theorem endpointScan_eq_nil (h : HasBuiltinEndpoints S) (wire : UInt32) : S.endpointScan wire = [] := by
  unfold Schema.endpointScan
  cases hname : Schema.builtinEndpointName wire with
  | none => rfl
  | some name => simp only [h.builtin_valid hname, if_true]

theorem localEndpointId_valid (h : HasBuiltinEndpoints S) {wire ep : UInt32}
    (hlocal : S.localEndpointId wire = some ep) : S.validEndpoint ep = true := by
  unfold Schema.localEndpointId at hlocal
  cases hname : Schema.builtinEndpointName wire with
  | some name =>
    simp only [hname, h.builtin_valid hname, if_true, Option.some.injEq] at hlocal
    exact hlocal ▸ h.builtin_valid hname
  | none =>
    simp only [hname] at hlocal
    split at hlocal
    · split at hlocal
      · simp only [Option.some.injEq] at hlocal
        exact hlocal ▸ ‹_›
      · split at hlocal
        · simp only [Option.some.injEq] at hlocal
          exact hlocal ▸ ‹_›
        · simp at hlocal
    · simp at hlocal

theorem parseV4Bitmap_valid (h : HasBuiltinEndpoints S) {bitmap : Bytes} {len : Nat} {ep : UInt32}
    (hep : ep ∈ parseV4Bitmap S bitmap len) : S.validEndpoint ep = true := by
  unfold parseV4Bitmap at hep
  obtain ⟨i, -, hi⟩ := List.mem_filterMap.mp hep
  rw [Option.ite_none_right_eq_some] at hi
  exact h.localEndpointId_valid hi.2

theorem v4BitmapScan_eq_nil (h : HasBuiltinEndpoints S) (bitmap : Bytes) (len : Nat) :
    v4BitmapScan S bitmap len = [] := by
  unfold v4BitmapScan
  rw [List.flatMap_eq_nil_iff]
  intro i _
  rw [h.endpointScan_eq_nil, ite_self]

end HasBuiltinEndpoints

namespace Read

section

variable {S : Schema} {Z : Codec} {b : Bytes}

/-- Endpoints that came from a bitmap are valid. -/
def endpointsFromBitmap (S : Schema) (flags : UInt8) (endpoints : List UInt32) : Prop :=
  flags &&& kV4FlagEndpointBitmapPresent ≠ 0 → ∀ ep ∈ endpoints, S.validEndpoint ep = true

theorem safe_typeInfoAt {G : Access → Prop} {I : Nat → Prop} {i : Nat} (h : G (.typeInfo i)) :
    Reader.Safe I (typeInfoAt S i) (fun _ j => I j) G :=
  Reader.Safe.bind (Reader.Safe.emit fun _ _ => h) fun _ => Reader.Safe.pure fun _ h => h

theorem safe_hasV4ReliableHeader {endp : Nat} (ty : UInt32) :
    Reader.Safe (· ≤ endp) (hasV4ReliableHeader S ty) (fun _ j => j ≤ endp) (inBounds S endp) := by
  unfold hasV4ReliableHeader
  refine Reader.Safe.ite (fun hvalid => ?_) (fun _ => Reader.Safe.pure fun _ h => h)
  exact Reader.Safe.bind (Reader.Safe.emit fun _ _ => ⟨ty, rfl, hvalid⟩) fun _ => Reader.Safe.pure fun _ h => h

theorem safe_v4Endpoints (hS : HasBuiltinEndpoints S) (flags : UInt8) {ty : UInt32}
    (hty : S.validType ty = true) :
    Reader.Safe (· ≤ b.length - kCrcBytes) (v4Endpoints S b flags ty)
      (fun endpoints j => endpointsFromBitmap S flags endpoints ∧ j ≤ b.length - kCrcBytes)
      (inBounds S (b.length - kCrcBytes)) := by
  have hG := inBounds_cursorGuard S (b.length - kCrcBytes)
  unfold v4Endpoints
  refine Reader.Safe.ite (fun _ => ?_) (fun hnone => ?_)
  · refine Reader.Safe.bind Reader.Safe.tell fun cur => ?_
    refine Reader.Safe.bind Reader.Safe.rejectIf fun _ => ?_
    have hbitmap : Reader.Safe (fun j => j + kV4EndpointBitmapBytes ≤ b.length - kCrcBytes) (v4Bitmap S b)
        (fun endpoints j => (∀ ep ∈ endpoints, S.validEndpoint ep = true) ∧
          j + kV4EndpointBitmapBytes ≤ b.length - kCrcBytes) (inBounds S (b.length - kCrcBytes)) := by
      unfold v4Bitmap
      refine Reader.Safe.bind (safe_look hG) fun bitmap => ?_
      rw [hS.v4BitmapScan_eq_nil]
      refine Reader.Safe.bind (Reader.Safe.emitAll (by simp)) fun _ => ?_
      exact Reader.Safe.pure fun _ hj => ⟨fun _ => hS.parseV4Bitmap_valid, hj⟩
    refine Reader.Safe.bind (hbitmap.conseq ?_ fun _ _ h => h) fun endpoints => ?_
    · rintro j ⟨hfits, rfl, hcur⟩
      exact (le_remaining hcur).mp hfits
    · by_cases hep : ∀ ep ∈ endpoints, S.validEndpoint ep = true
      · refine Reader.Safe.bind ((safe_skip hG).conseq (fun _ h => h.2) fun _ _ h => h) fun _ => ?_
        exact Reader.Safe.pure fun _ hj => ⟨fun _ => hep, hj⟩
      · exact Reader.Safe.ofEach fun _ h => absurd h.1 hep
  · refine Reader.Safe.bind (safe_typeInfoAt ⟨ty, rfl, hty⟩) fun info => ?_
    exact Reader.Safe.pure fun _ hj => ⟨fun hpresent => absurd hpresent hnone, hj⟩

theorem safe_v4Nonce (flags : UInt8) :
    Reader.Safe (· ≤ b.length - kCrcBytes) (v4Nonce b flags) (fun _ j => j ≤ b.length - kCrcBytes)
      (inBounds S (b.length - kCrcBytes)) := by
  unfold v4Nonce
  refine Reader.Safe.ite (fun _ => ?_) (fun _ => Reader.Safe.pure fun _ h => h)
  exact Reader.Safe.bind (safe_readUleb128 (inBounds_cursorGuard S _)) fun _ => Reader.Safe.pure fun _ h => h

theorem safe_v4Contract (flags : UInt8) :
    Reader.Safe (· ≤ b.length - kCrcBytes) (v4Contract b flags) (fun _ j => j ≤ b.length - kCrcBytes)
      (inBounds S (b.length - kCrcBytes)) := by
  have hG := inBounds_cursorGuard S (b.length - kCrcBytes)
  unfold v4Contract
  refine Reader.Safe.ite (fun _ => ?_) (fun _ => Reader.Safe.pure fun _ h => h)
  refine Reader.Safe.bind (safe_readUleb128 hG) fun contractLen => ?_
  refine Reader.Safe.bind Reader.Safe.tell fun cur => ?_
  refine Reader.Safe.bind Reader.Safe.rejectIf fun _ => ?_
  refine (safe_skip hG).conseq ?_ fun _ _ h => h
  rintro j ⟨hfits, rfl, hcur⟩
  exact (le_remaining hcur).mp hfits

theorem safe_v4Typed (hS : HasBuiltinEndpoints S) (flags nep : UInt8)
    (wireTy logicalSize timestamp sourceAddress : UInt64) :
    Reader.Safe (· ≤ b.length - kCrcBytes)
      (v4Typed S b flags nep wireTy logicalSize timestamp sourceAddress)
      (fun hd j => (hd.flags = flags ∧ endpointsFromBitmap S hd.flags hd.endpoints) ∧
        j ≤ b.length - kCrcBytes)
      (inBounds S (b.length - kCrcBytes)) := by
  unfold v4Typed
  cases S.localTypeId wireTy.toUInt32 with
  | none => exact Reader.Safe.fail
  | some localTy =>
    refine Reader.Safe.bind Reader.Safe.rejectIf fun _ => ?_
    cases hty : S.validType localTy with
    | false => exact Reader.Safe.ofEach fun _ h => absurd rfl h.1
    | true =>
      refine Reader.Safe.bind ((safe_v4Endpoints hS flags hty).conseq (fun _ h => h.2) fun _ _ h => h)
        fun endpoints => ?_
      refine Reader.Safe.bind Reader.Safe.rejectIf fun _ => ?_
      refine Reader.Safe.ofEach ?_
      rintro i ⟨-, hep, hi⟩
      refine Reader.Safe.bind ((safe_v4Contract flags).conseq (fun _ h => h ▸ hi) fun _ _ h => h) fun _ => ?_
      exact Reader.Safe.pure fun _ hj => ⟨⟨rfl, hep⟩, hj⟩

theorem safe_v4Head (hS : HasBuiltinEndpoints S) (hlong : 2 ≤ b.length - kCrcBytes) :
    Reader.Safe (· = 0) (v4Head S b)
      (fun hd j => endpointsFromBitmap S hd.flags hd.endpoints ∧ j ≤ b.length - kCrcBytes)
      (inBounds S (b.length - kCrcBytes)) := by
  have hG := inBounds_cursorGuard S (b.length - kCrcBytes)
  unfold v4Head
  refine Reader.Safe.bind (safe_nextAt hG (by omega)) fun flags => ?_
  refine Reader.Safe.bind (safe_nextAt hG (by omega)) fun nep => ?_
  refine Reader.Safe.bind ((safe_readUleb128 hG).conseq (fun _ h => h ▸ hlong) fun _ _ h => h) fun wireTy => ?_
  refine Reader.Safe.bind (safe_readUleb128 hG) fun logicalSize => ?_
  refine Reader.Safe.bind (safe_readUleb128 hG) fun timestamp => ?_
  refine Reader.Safe.bind (safe_v4Nonce flags) fun _ => ?_
  refine Reader.Safe.bind (safe_readUleb128 hG) fun sourceAddress => ?_
  exact (safe_v4Typed hS flags nep wireTy logicalSize timestamp sourceAddress).conseq (fun _ h => h)
    fun _ _ h => ⟨h.1.2, h.2⟩

theorem safe_v4Reliable (hd : V4Head) :
    Reader.Safe (· ≤ b.length - kCrcBytes) (v4Reliable S b hd) (fun _ j => j ≤ b.length - kCrcBytes)
      (inBounds S (b.length - kCrcBytes)) := by
  unfold v4Reliable
  refine Reader.Safe.bind (safe_hasV4ReliableHeader hd.ty) fun has => ?_
  refine Reader.Safe.ite (fun _ => ?_) (fun _ => Reader.Safe.pure fun _ h => h)
  refine Reader.Safe.bind
    (safe_readV4ReliableHeader (inBounds_cursorGuard S _) (fun _ => trivial) _) fun _ => ?_
  exact Reader.Safe.pure fun _ h => h

theorem safe_v4Payload (hd : V4Head) :
    Reader.Safe (· ≤ b.length - kCrcBytes) (v4Payload Z b hd)
      (fun pkt _ => pkt.endpoints = hd.endpoints) (inBounds S (b.length - kCrcBytes)) := by
  unfold v4Payload
  refine Reader.Safe.bind Reader.Safe.tell fun cur => ?_
  refine Reader.Safe.bind (safe_decompress_remaining (inBounds_cursorGuard S _) cur _ _) fun payload => ?_
  exact Reader.Safe.bind Reader.Safe.rejectIf fun _ => Reader.Safe.pure fun _ _ => rfl

theorem safe_deserializeV4 (hS : HasBuiltinEndpoints S) (hlong : 2 ≤ b.length - kCrcBytes) :
    Reader.Safe (· = 0) (deserializeV4 S Z b) (fun _ _ => True) (inBounds S (b.length - kCrcBytes)) := by
  rw [deserializeV4_eq]
  refine Reader.Safe.bind (safe_v4Head hS hlong) fun hd => ?_
  unfold v4PacketTail
  refine Reader.Safe.bind ((safe_v4Reliable hd).conseq (fun _ h => h.2) fun _ _ h => h) fun reliable => ?_
  refine Reader.Safe.bind Reader.Safe.rejectIf fun _ => ?_
  exact (safe_v4Payload hd).conseq (fun _ h => h.2) fun _ _ _ => trivial

theorem safe_peekV4 (hS : HasBuiltinEndpoints S) (hlong : 2 ≤ b.length - kCrcBytes) :
    Reader.Safe (· = 0) (peekV4 S b) (fun _ _ => True) (inBounds S (b.length - kCrcBytes)) := by
  rw [peekV4_eq]
  refine Reader.Safe.bind (safe_v4Head hS hlong) fun hd => ?_
  unfold v4FrameTail
  refine Reader.Safe.bind ((safe_v4Reliable hd).conseq (fun _ h => h.2) fun _ _ h => h) fun reliable => ?_
  exact Reader.Safe.pure fun _ _ => trivial

theorem safe_v4SkipBitmap (flags : UInt8) :
    Reader.Safe (· ≤ b.length - kCrcBytes) (v4SkipBitmap b flags) (fun _ j => j ≤ b.length - kCrcBytes)
      (inBounds S (b.length - kCrcBytes)) := by
  unfold v4SkipBitmap
  refine Reader.Safe.ite (fun _ => ?_) (fun _ => Reader.Safe.pure fun _ h => h)
  refine Reader.Safe.bind Reader.Safe.tell fun cur => ?_
  refine Reader.Safe.bind Reader.Safe.rejectIf fun _ => ?_
  refine (safe_skip (inBounds_cursorGuard S _)).conseq ?_ fun _ _ h => h
  rintro j ⟨hfits, rfl, hcur⟩
  exact (le_remaining hcur).mp hfits

theorem safe_v4OffsetTyped (flags : UInt8) (wireTy : UInt64) :
    Reader.Safe (· ≤ b.length - kCrcBytes) (v4OffsetTyped S b flags wireTy) (fun _ _ => True)
      (inBounds S (b.length - kCrcBytes)) := by
  unfold v4OffsetTyped
  cases S.localTypeId wireTy.toUInt32 with
  | none => exact Reader.Safe.fail
  | some localTy =>
    refine Reader.Safe.bind (safe_hasV4ReliableHeader localTy) fun has => ?_
    refine Reader.Safe.bind Reader.Safe.rejectIf fun _ => ?_
    refine Reader.Safe.bind ((safe_v4SkipBitmap flags).conseq (fun _ h => h.2) fun _ _ h => h) fun _ => ?_
    refine Reader.Safe.bind (safe_v4Contract flags) fun _ => ?_
    exact Reader.Safe.tell.conseq (fun _ h => h) fun _ _ _ => trivial

theorem safe_offsetV4 (hlong : 2 ≤ b.length - kCrcBytes) :
    Reader.Safe (· = 0) (offsetV4 S b) (fun _ _ => True) (inBounds S (b.length - kCrcBytes)) := by
  have hG := inBounds_cursorGuard S (b.length - kCrcBytes)
  rw [offsetV4_eq]
  unfold v4Offset
  refine Reader.Safe.bind (safe_nextAt hG (by omega)) fun flags => ?_
  refine Reader.Safe.bind ((safe_skip hG).conseq ?_ fun _ _ h => h) fun _ => ?_
  · rintro _ rfl
    exact hlong
  · refine Reader.Safe.bind (safe_readUleb128 hG) fun wireTy => ?_
    refine Reader.Safe.bind (safe_readUleb128 hG) fun _ => ?_
    refine Reader.Safe.bind (safe_readUleb128 hG) fun _ => ?_
    refine Reader.Safe.bind (safe_v4Nonce flags) fun _ => ?_
    refine Reader.Safe.bind (safe_readUleb128 hG) fun _ => ?_
    exact safe_v4OffsetTyped flags wireTy

end

/-! ## The head of the parsers -/

/-- A minimum length, perhaps the CRC, a look at the flags, and then the parser of the format. -/
def dispatch {α : Type} (b : Bytes) (verifyCrc : Bool) (p q : Parse α) : Parse α := do
  Reader.rejectIf (b.length < 2 + kCrcBytes)
  if verifyCrc then checkCrc b
  let v4Flags ← look b 1
  if isV4FrameFlags (v4Flags.getD 0 0) then p else q

theorem deserializePacket_eq (S : Schema) (Z : Codec) (b : Bytes) :
    deserializePacket S Z b = dispatch b true (deserializeV4 S Z b) (deserializeLegacy S Z b) := rfl

theorem peekFrameInfo_eq (S : Schema) (Z : Codec) (b : Bytes) (verifyCrc : Bool) :
    peekFrameInfo S Z b verifyCrc = dispatch b verifyCrc (peekV4 S b) (peekLegacy S Z b) := rfl

theorem reliableHeaderOffset_eq (S : Schema) (b : Bytes) :
    reliableHeaderOffset S b = dispatch b false (offsetV4 S b) (offsetLegacy S b) := rfl

theorem safe_dispatch {α : Type} {b : Bytes} (verifyCrc : Bool) {p q : Parse α} {G : Access → Prop}
    (hG : CursorGuard (b.length - kCrcBytes) G) (hcrc : G .readCrc)
    (hp : isV4FrameFlags (b.getD 0 0) = true → 2 ≤ b.length - kCrcBytes →
      Reader.Safe (· = 0) p (fun _ _ => True) G)
    (hq : isV4FrameFlags (b.getD 0 0) = false → 2 ≤ b.length - kCrcBytes →
      Reader.Safe (· = 0) q (fun _ _ => True) G) :
    Reader.Safe (· = 0) (dispatch b verifyCrc p q) (fun _ _ => True) G := by
  by_cases hshort : b.length < 2 + kCrcBytes
  · refine Reader.Safe.bind Reader.Safe.rejectIf fun _ => ?_
    exact Reader.Safe.ofEach fun _ h => absurd hshort h.1
  have hlong : 2 ≤ b.length - kCrcBytes := by omega
  have hformat : Reader.Safe (· = 0) (look b 1 >>= fun v4Flags =>
      if isV4FrameFlags (v4Flags.getD 0 0) = true then p else q) (fun _ _ => True) G := by
    refine Reader.Safe.bind ((safe_look hG).conseq ?_ fun _ _ h => h).withValue fun v4Flags => ?_
    · rintro _ rfl
      omega
    · refine Reader.Safe.ofEach ?_
      rintro i ⟨hv, -⟩
      simp only [value_look, Option.some.injEq, Prod.mk.injEq] at hv
      obtain ⟨rfl, rfl⟩ := hv
      rw [getD_take_drop b 0 Nat.one_pos]
      exact Reader.Safe.ite (fun hv4 => hp hv4 hlong) (fun hv4 => hq (by simpa using hv4) hlong)
  unfold dispatch
  refine Reader.Safe.bind Reader.Safe.rejectIf fun _ => ?_
  cases verifyCrc with
  | false => exact hformat.conseq (fun _ h => h.2) fun _ _ h => h
  | true =>
    refine Reader.Safe.bind (safe_checkCrc hG hcrc) fun _ => ?_
    exact hformat.conseq (fun _ h => h.2) fun _ _ h => h

end Read

/-- **v4 parsing stays in bounds**, on every frame and every table with the built-in endpoints: the
    three parsers read only in front of the trailer, move only up to it, index `kTypeInfo` only
    with valid types, and answer only valid endpoints from a bitmap. -/
theorem v4Parsing_inBounds (S : Schema) (Z : Codec) (b : Bytes) (hS : HasBuiltinEndpoints S)
    (hv4 : isV4FrameFlags (b.getD 0 0) = true) :
    (∀ e ∈ (Read.deserializePacket S Z b).trace 0, inBounds S (b.length - kCrcBytes) e) ∧
    (∀ verifyCrc, ∀ e ∈ (Read.peekFrameInfo S Z b verifyCrc).trace 0,
      inBounds S (b.length - kCrcBytes) e) ∧
    (∀ e ∈ (Read.reliableHeaderOffset S b).trace 0, inBounds S (b.length - kCrcBytes) e) ∧
    (b.getD 0 0 &&& kV4FlagEndpointBitmapPresent ≠ 0 →
      (∀ pkt, deserializePacket S Z b = some pkt → ∀ ep ∈ pkt.endpoints, S.validEndpoint ep = true) ∧
      (∀ verifyCrc f, peekFrameInfo S Z b verifyCrc = some f →
        ∀ ep ∈ f.envelope.endpoints, S.validEndpoint ep = true)) := by
  have hG := inBounds_cursorGuard S (b.length - kCrcBytes)
  have hnot : ∀ {P : Prop}, isV4FrameFlags (b.getD 0 0) = false → P := by
    intro P hfalse
    rw [hv4] at hfalse
    exact absurd hfalse (by simp)
  refine ⟨?_, ?_, ?_, ?_⟩
  · rw [Read.deserializePacket_eq]
    exact (Read.safe_dispatch true hG trivial (fun _ => Read.safe_deserializeV4 hS) hnot).access 0 rfl
  · intro verifyCrc
    rw [Read.peekFrameInfo_eq]
    exact (Read.safe_dispatch verifyCrc hG trivial (fun _ => Read.safe_peekV4 hS) hnot).access 0 rfl
  · rw [Read.reliableHeaderOffset_eq]
    exact (Read.safe_dispatch false hG trivial (fun _ => Read.safe_offsetV4) hnot).access 0 rfl
  · intro hbitmap
    have hpeek : ∀ verifyCrc f, peekFrameInfo S Z b verifyCrc = some f →
        ∀ ep ∈ f.envelope.endpoints, S.validEndpoint ep = true := by
      intro verifyCrc f hf
      obtain ⟨hlong, hd, i, hhead, henv⟩ := peekFrameInfo_v4Head hv4 hf
      have hfrom := ((Read.safe_v4Head hS (by omega)).answer 0 rfl hd i hhead).1
      rw [henv]
      exact hfrom (by rwa [(Read.v4Head_eq_some hhead).1])
    refine ⟨?_, hpeek⟩
    intro pkt hpkt
    obtain ⟨f, hf, henv, -⟩ := deserializePacket_peek hpkt
    have hvalid := hpeek true f hf
    rwa [henv] at hvalid

/-- A GPS frame cut off in the middle of its bitmap. -/
def truncatedGpsFrame : Bytes := (serializePacket defaultTestSchema (.absent 16) gpsPacket).take 20

theorem v4Parsing_inBounds_truncated :
    isV4FrameFlags (truncatedGpsFrame.getD 0 0) = true ∧
    ∀ e ∈ (Read.peekFrameInfo defaultTestSchema (.absent 16) truncatedGpsFrame false).trace 0,
      inBounds defaultTestSchema (truncatedGpsFrame.length - kCrcBytes) e := by
  have hbuiltin : HasBuiltinEndpoints defaultTestSchema := by
    rw [defaultTestSchema_eq]
    exact ⟨by decide +kernel, by decide +kernel, by decide +kernel⟩
  have hv4 : isV4FrameFlags (truncatedGpsFrame.getD 0 0) = true := by
    unfold truncatedGpsFrame
    rw [defaultTestSchema_eq]
    decide +kernel
  exact ⟨hv4, (v4Parsing_inBounds defaultTestSchema (.absent 16) truncatedGpsFrame hbuiltin hv4).2.1 false⟩

/-! ## Legacy format -/

/-- What a legacy parser may touch: bytes in front of the trailer, the trailer itself, and rows
    inside the table. -/
def legacyInBounds (S : Schema) (endp : Nat) : Access → Prop
  | .read lo n => lo + n ≤ endp
  | .typeInfo i => i < S.kTypeInfo.length
  | _ => True

theorem legacyInBounds_cursorGuard (S : Schema) (endp : Nat) :
    CursorGuard endp (legacyInBounds S endp) where
  read := fun _ _ h => h
  seek := fun _ _ => trivial

/-- The scalar fields of a legacy frame that gets past the checks, and where they end. -/
def legacyAdmitted (S : Schema) (b : Bytes) (fs : Read.LegacyFields) (cur : Nat) : Prop :=
  2 + kCrcBytes ≤ b.length ∧ (Read.legacyFields b).value 0 = some (fs, cur) ∧
    S.validType fs.ty.toUInt32 = true ∧
    ¬ remaining (b.length - kCrcBytes) cur <
      (UInt64.ofNat S.endpointBitmapBytes + fs.senderWireLen).toNat

/-- The admitted frames on which the walk is well defined. The 64-bit type is a row of the table,
    and not only its low half; and the two lengths do not add up to 2^64 or more, or else the
    bitmap is still inside the frame and disagrees with the count, so that the sender is never
    looked at. -/
def legacyWellFormed (S : Schema) (b : Bytes) : Prop :=
  ∀ fs cur, legacyAdmitted S b fs cur →
    fs.ty.toNat < S.kTypeInfo.length ∧
    (S.endpointBitmapBytes + fs.senderWireLen.toNat < 2 ^ 64 ∨
      cur + S.endpointBitmapBytes ≤ b.length - kCrcBytes ∧
      (parseBitmap S ((b.drop cur).take S.endpointBitmapBytes) S.endpointBitmapBytes).length ≠
        fs.nep.toNat)

namespace Read

variable {S : Schema} {Z : Codec} {b : Bytes}

theorem safe_legacySenderWireLen (flags : UInt8) (senderLen : UInt64) :
    Reader.Safe (· ≤ b.length - kCrcBytes) (legacySenderWireLen b flags senderLen)
      (fun _ j => j ≤ b.length - kCrcBytes) (legacyInBounds S (b.length - kCrcBytes)) := by
  unfold legacySenderWireLen
  exact Reader.Safe.ite (fun _ => safe_readUleb128 (legacyInBounds_cursorGuard S _))
    (fun _ => Reader.Safe.pure fun _ h => h)

theorem safe_legacyFieldsWith {count : Parse UInt8} (hlong : 2 ≤ b.length - kCrcBytes)
    (hcount : Reader.Safe (· = 1) count (fun _ j => j = 2) (legacyInBounds S (b.length - kCrcBytes))) :
    Reader.Safe (· = 0) (legacyFieldsWith b count) (fun _ j => j ≤ b.length - kCrcBytes)
      (legacyInBounds S (b.length - kCrcBytes)) := by
  have hG := legacyInBounds_cursorGuard S (b.length - kCrcBytes)
  unfold legacyFieldsWith
  refine Reader.Safe.bind (safe_nextAt hG (by omega)) fun flags => ?_
  refine Reader.Safe.bind hcount fun nep => ?_
  refine Reader.Safe.bind ((safe_readUleb128 hG).conseq (fun _ h => h ▸ hlong) fun _ _ h => h) fun ty => ?_
  refine Reader.Safe.bind (safe_readUleb128 hG) fun logicalSize => ?_
  refine Reader.Safe.bind (safe_readUleb128 hG) fun timestamp => ?_
  refine Reader.Safe.bind (safe_readUleb128 hG) fun senderLen => ?_
  refine Reader.Safe.bind (safe_legacySenderWireLen flags senderLen) fun senderWireLen => ?_
  exact Reader.Safe.pure fun _ h => h

theorem safe_legacyFields (hlong : 2 ≤ b.length - kCrcBytes) :
    Reader.Safe (· = 0) (legacyFields b)
      (fun fs j => (legacyFields b).value 0 = some (fs, j) ∧ j ≤ b.length - kCrcBytes)
      (legacyInBounds S (b.length - kCrcBytes)) :=
  (safe_legacyFieldsWith hlong
    (safe_nextAt (legacyInBounds_cursorGuard S _) (by omega))).withValue

/-- The check of the type and the lengths, at the position behind the scalar fields. -/
theorem safe_legacyCheck {fs : LegacyFields} {cur : Nat} :
    Reader.Safe (· = cur) (legacyCheck S b fs)
      (fun _ j => j = cur ∧ S.validType fs.ty.toUInt32 = true ∧
        ¬ remaining (b.length - kCrcBytes) cur <
          (UInt64.ofNat S.endpointBitmapBytes + fs.senderWireLen).toNat)
      (legacyInBounds S (b.length - kCrcBytes)) := by
  unfold legacyCheck
  refine Reader.Safe.bind Reader.Safe.rejectIf fun _ => ?_
  refine Reader.Safe.bind Reader.Safe.tell fun i => ?_
  refine Reader.Safe.rejectIf.conseq (fun _ h => h) ?_
  rintro _ j ⟨hfits, rfl, hvalid, rfl⟩
  exact ⟨rfl, by simpa using hvalid, hfits⟩

/-- What an admitted, well-formed frame leaves room for. -/
theorem legacy_bitmap_fits (hwf : legacyWellFormed S b) {fs : LegacyFields} {cur : Nat}
    (hadm : legacyAdmitted S b fs cur) (hcur : cur ≤ b.length - kCrcBytes) :
    cur + S.endpointBitmapBytes ≤ b.length - kCrcBytes ∧
      ((parseBitmap S ((b.drop cur).take S.endpointBitmapBytes) S.endpointBitmapBytes).length =
        fs.nep.toNat →
        cur + S.endpointBitmapBytes + fs.senderWireLen.toNat ≤ b.length - kCrcBytes) := by
  rcases (hwf fs cur hadm).2 with hsum | ⟨hfits, hcount⟩
  · have hexact : (UInt64.ofNat S.endpointBitmapBytes + fs.senderWireLen).toNat =
        S.endpointBitmapBytes + fs.senderWireLen.toNat := by
      rw [UInt64.toNat_add, UInt64.toNat_ofNat']
      omega
    have hroom := (le_remaining hcur).mp hadm.2.2.2
    rw [hexact] at hroom
    exact ⟨by omega, fun _ => by omega⟩
  · exact ⟨hfits, fun heq => absurd heq hcount⟩

theorem safe_legacyAddressing (hwf : legacyWellFormed S b) {fs : LegacyFields} {cur : Nat}
    (hadm : legacyAdmitted S b fs cur) (hcur : cur ≤ b.length - kCrcBytes) :
    Reader.Safe (· = cur) (legacyAddressing S Z b fs) (fun _ j => j ≤ b.length - kCrcBytes)
      (legacyInBounds S (b.length - kCrcBytes)) := by
  have hG := legacyInBounds_cursorGuard S (b.length - kCrcBytes)
  obtain ⟨hbitmap, hsender⟩ := legacy_bitmap_fits hwf hadm hcur
  unfold legacyAddressing
  refine Reader.Safe.bind ((safe_look hG).conseq (fun _ h => h ▸ hbitmap) fun _ _ h => h).withValue
    fun bitmap => ?_
  refine Reader.Safe.ofEach ?_
  rintro i ⟨hv, -⟩
  simp only [value_look, Option.some.injEq, Prod.mk.injEq] at hv
  obtain ⟨rfl, rfl⟩ := hv
  refine Reader.Safe.bind (Reader.Safe.advance (J := (· = cur + S.endpointBitmapBytes))
    (fun _ _ => trivial) (fun _ h => h ▸ rfl)) fun _ => ?_
  refine Reader.Safe.bind Reader.Safe.rejectIf fun _ => ?_
  -- past the count check, the sender fits as well
  refine Reader.Safe.ofEach ?_
  rintro _ ⟨hcount, rfl⟩
  have hroom := hsender (not_not.mp hcount)
  have hread : Reader.Safe (· = cur + S.endpointBitmapBytes)
      (decompress Z b fs.senderWireLen.toNat fs.senderLen.toNat (fs.flags &&& kFlagCompressedSender != 0))
      (fun _ j => j + fs.senderWireLen.toNat ≤ b.length - kCrcBytes)
      (legacyInBounds S (b.length - kCrcBytes)) := by
    unfold decompress
    refine Reader.Safe.bind ((safe_look hG).conseq (fun _ h => h ▸ hroom) fun _ _ h => h) fun _ => ?_
    exact Reader.Safe.pure fun _ h => h
  refine Reader.Safe.bind hread fun senderBytes => ?_
  refine Reader.Safe.bind Reader.Safe.rejectIf fun _ => ?_
  refine Reader.Safe.bind ((safe_skip hG).conseq (fun _ h => h.2) fun _ _ h => h) fun _ => ?_
  refine Reader.Safe.bind (safe_typeInfoAt (hwf fs cur hadm).1) fun info => ?_
  exact Reader.Safe.pure fun _ h => h

theorem safe_legacyHead (hwf : legacyWellFormed S b) (hlong : 2 ≤ b.length - kCrcBytes) :
    Reader.Safe (· = 0) (legacyHead S Z b) (fun _ j => j ≤ b.length - kCrcBytes)
      (legacyInBounds S (b.length - kCrcBytes)) := by
  unfold legacyHead
  refine Reader.Safe.bind (safe_legacyFields hlong) fun fs => ?_
  refine Reader.Safe.ofEach ?_
  rintro cur ⟨hfields, hcur⟩
  refine Reader.Safe.bind safe_legacyCheck fun _ => ?_
  refine Reader.Safe.ofEach ?_
  rintro _ ⟨rfl, hvalid, hfits⟩
  have hadm : legacyAdmitted S b fs _ := ⟨by omega, hfields, hvalid, hfits⟩
  refine Reader.Safe.bind (safe_legacyAddressing hwf hadm hcur) fun r => ?_
  exact Reader.Safe.pure fun _ h => h

theorem safe_legacyPacketTail (r : LegacyFields × List UInt32 × Bytes × Bool) :
    Reader.Safe (· ≤ b.length - kCrcBytes) (legacyPacketTail Z b r) (fun _ _ => True)
      (legacyInBounds S (b.length - kCrcBytes)) := by
  have hG := legacyInBounds_cursorGuard S (b.length - kCrcBytes)
  have hpayload : Reader.Safe (· ≤ b.length - kCrcBytes) (do
      let cur ← Reader.tell
      let payload ← decompress Z b (remaining (b.length - kCrcBytes) cur) r.1.logicalSize.toNat
        (r.1.flags &&& kFlagCompressedPayload != 0)
      Reader.rejectIf (payload.length ≠ r.1.logicalSize.toNat)
      pure (⟨r.1.ty.toUInt32, r.2.2.1, r.2.1, r.1.timestamp, payload⟩ : PacketData)) (fun _ _ => True)
      (legacyInBounds S (b.length - kCrcBytes)) := by
    refine Reader.Safe.bind Reader.Safe.tell fun cur => ?_
    refine Reader.Safe.bind (safe_decompress_remaining hG cur _ _) fun payload => ?_
    exact Reader.Safe.bind Reader.Safe.rejectIf fun _ => Reader.Safe.pure fun _ _ => trivial
  unfold legacyPacketTail
  refine Reader.Safe.ite (fun _ => ?_) (fun _ => hpayload)
  refine Reader.Safe.bind Reader.Safe.tell fun cur => ?_
  refine Reader.Safe.bind Reader.Safe.rejectIf fun _ => ?_
  refine Reader.Safe.bind (Reader.Safe.emit fun _ _ => trivial) fun _ => ?_
  refine Reader.Safe.ofEach ?_
  rintro _ ⟨hfits, rfl, hcur⟩
  have hroom := (le_remaining hcur).mp hfits
  have hone : cur + 1 ≤ b.length - kCrcBytes := by
    have : kReliableHeaderBytes = 9 := rfl
    omega
  refine Reader.Safe.bind (((safe_look hG).conseq (fun _ h => h ▸ hone) fun _ _ h => h).withValue) fun header => ?_
  refine Reader.Safe.bind Reader.Safe.rejectIf fun _ => ?_
  refine Reader.Safe.bind ((safe_skip hG).conseq ?_ fun _ _ h => h) fun _ => hpayload
  rintro i ⟨-, hv, -⟩
  simp only [value_look, Option.some.injEq, Prod.mk.injEq] at hv
  exact hv.2 ▸ hroom

theorem safe_legacyFrameTail (r : LegacyFields × List UInt32 × Bytes × Bool) :
    Reader.Safe (· ≤ b.length - kCrcBytes) (legacyFrameTail b r) (fun _ _ => True)
      (legacyInBounds S (b.length - kCrcBytes)) := by
  have hG := legacyInBounds_cursorGuard S (b.length - kCrcBytes)
  unfold legacyFrameTail
  refine Reader.Safe.ite (fun _ => ?_) (fun _ => Reader.Safe.pure fun _ _ => trivial)
  refine Reader.Safe.bind Reader.Safe.tell fun cur => ?_
  refine Reader.Safe.bind Reader.Safe.rejectIf fun _ => ?_
  refine Reader.Safe.bind (Reader.Safe.emit fun _ _ => trivial) fun _ => ?_
  refine Reader.Safe.bind ((safe_look hG).conseq ?_ fun _ _ h => h) fun header => ?_
  · rintro i ⟨hfits, rfl, hcur⟩
    exact (le_remaining hcur).mp hfits
  · exact Reader.Safe.pure fun _ _ => trivial

theorem safe_offsetLegacy (hwf : legacyWellFormed S b) (hlong : 2 ≤ b.length - kCrcBytes) :
    Reader.Safe (· = 0) (offsetLegacy S b) (fun _ _ => True)
      (legacyInBounds S (b.length - kCrcBytes)) := by
  have hcount : Reader.Safe (· = 1) skipCount (fun _ j => j = 2)
      (legacyInBounds S (b.length - kCrcBytes)) :=
    Reader.Safe.bind (Reader.Safe.advance (fun _ _ => trivial) (fun _ h => show _ = 2 by rw [h]))
      fun _ => Reader.Safe.pure fun _ h => h
  rw [offsetLegacy_eq]
  refine Reader.Safe.bind (safe_legacyFieldsWith hlong hcount).withValue fun fs => ?_
  refine Reader.Safe.ofEach ?_
  rintro cur ⟨hskipped, hcur⟩
  refine Reader.Safe.bind safe_legacyCheck fun _ => ?_
  refine Reader.Safe.ofEach ?_
  rintro _ ⟨rfl, hvalid, hfits⟩
  rw [value_legacyFieldsWith_skipCount] at hskipped
  obtain ⟨⟨fs', j⟩, hfields, hsame⟩ := Option.map_eq_some_iff.mp hskipped
  simp only [Prod.mk.injEq] at hsame
  obtain ⟨rfl, rfl⟩ := hsame
  have hty := (hwf fs' _ ⟨by omega, hfields, hvalid, hfits⟩).1
  unfold legacyOffsetTail
  refine Reader.Safe.bind (Reader.Safe.advance (J := fun _ => True) (fun _ _ => trivial)
    (fun _ _ => trivial)) fun _ => ?_
  refine Reader.Safe.bind (safe_typeInfoAt hty) fun info => ?_
  refine Reader.Safe.bind Reader.Safe.rejectIf fun _ => ?_
  exact Reader.Safe.tell.conseq (fun _ h => h) fun _ _ _ => trivial

end Read

section

variable {S : Schema} {Z : Codec} {b : Bytes}

theorem legacyAdmitted.check {fs : Read.LegacyFields} {cur : Nat} (hadm : legacyAdmitted S b fs cur) :
    (Read.legacyCheck S b fs).value cur = some ((), cur) := by
  obtain ⟨-, -, hvalid, hfits⟩ := hadm
  unfold Read.legacyCheck
  rw [Reader.value_rejectIf_bind, hvalid, if_neg (by simp), Reader.value_bind_of (Reader.value_tell cur),
    Reader.value_rejectIf, if_neg hfits]

/-- Past the checks, `peek_frame_info` goes on to the endpoints and the sender. -/
theorem legacyAdmitted.mem_trace_peek {fs : Read.LegacyFields} {cur : Nat}
    (hadm : legacyAdmitted S b fs cur) {e : Access}
    (he : e ∈ (Read.legacyAddressing S Z b fs).trace cur) : e ∈ (Read.peekLegacy S Z b).trace 0 := by
  rw [Read.peekLegacy_eq]
  refine Reader.mem_trace_bind_left (Reader.mem_trace_bind_right hadm.2.1 ?_)
  exact Reader.mem_trace_bind_right hadm.check (Reader.mem_trace_bind_left he)

theorem mem_trace_legacyAddressing_bitmap (fs : Read.LegacyFields) (cur : Nat) :
    Access.read cur S.endpointBitmapBytes ∈ (Read.legacyAddressing S Z b fs).trace cur :=
  Reader.mem_trace_bind_left (List.mem_singleton.mpr rfl)

/-- The sender is looked at when the bitmap agrees with the count. -/
theorem mem_trace_legacyAddressing_sender {fs : Read.LegacyFields} {cur : Nat}
    (hcount : (parseBitmap S ((b.drop cur).take S.endpointBitmapBytes) S.endpointBitmapBytes).length =
      fs.nep.toNat) :
    Access.read (cur + S.endpointBitmapBytes) fs.senderWireLen.toNat ∈
      (Read.legacyAddressing S Z b fs).trace cur := by
  have hpass : (Reader.rejectIf ((parseBitmap S ((b.drop cur).take S.endpointBitmapBytes)
      S.endpointBitmapBytes).length ≠ fs.nep.toNat) : Parse Unit).value (cur + S.endpointBitmapBytes) =
      some ((), cur + S.endpointBitmapBytes) := by
    rw [Reader.value_rejectIf, if_neg (not_not.mpr hcount)]
  unfold Read.legacyAddressing
  refine Reader.mem_trace_bind_right (Read.value_look b _ cur) ?_
  refine Reader.mem_trace_bind_right (Read.value_skip _ cur) ?_
  refine Reader.mem_trace_bind_right hpass (Reader.mem_trace_bind_left ?_)
  exact Reader.mem_trace_bind_left (List.mem_singleton.mpr rfl)

/-- `reliable_header_offset` indexes the table with the 64-bit type. -/
theorem legacyAdmitted.mem_trace_offset {fs : Read.LegacyFields} {cur : Nat}
    (hadm : legacyAdmitted S b fs cur) :
    Access.typeInfo fs.ty.toNat ∈ (Read.offsetLegacy S b).trace 0 := by
  have hskipped := Read.value_legacyFieldsWith_skipCount (b := b)
  rw [hadm.2.1, Option.map_some] at hskipped
  have hcheck : (Read.legacyCheck S b { fs with nep := 0 }).value cur = some ((), cur) := hadm.check
  rw [Read.offsetLegacy_eq]
  refine Reader.mem_trace_bind_right hskipped (Reader.mem_trace_bind_right hcheck ?_)
  unfold Read.legacyOffsetTail
  refine Reader.mem_trace_bind_right (Read.value_skip _ cur) (Reader.mem_trace_bind_left ?_)
  exact Reader.mem_trace_bind_left (List.mem_singleton.mpr rfl)

end

/-- **Legacy parsing stays in bounds exactly on the well-formed frames.** The length of a buffer is
    a `size_t`. -/
theorem legacyParsing_inBounds_iff (S : Schema) (Z : Codec) (b : Bytes) (hlen : b.length < 2 ^ 64)
    (hlegacy : isV4FrameFlags (b.getD 0 0) = false) :
    ((∀ e ∈ (Read.deserializePacket S Z b).trace 0, legacyInBounds S (b.length - kCrcBytes) e) ∧
     (∀ verifyCrc, ∀ e ∈ (Read.peekFrameInfo S Z b verifyCrc).trace 0,
      legacyInBounds S (b.length - kCrcBytes) e) ∧
     (∀ e ∈ (Read.reliableHeaderOffset S b).trace 0, legacyInBounds S (b.length - kCrcBytes) e)) ↔
    legacyWellFormed S b := by
  have hG := legacyInBounds_cursorGuard S (b.length - kCrcBytes)
  have hnot : ∀ {P : Prop}, isV4FrameFlags (b.getD 0 0) = true → P := by
    intro P htrue
    rw [hlegacy] at htrue
    exact absurd htrue (by simp)
  constructor
  · rintro ⟨-, hpeek, hoffset⟩ fs cur hadm
    have hlong : ¬ b.length < 2 + kCrcBytes := Nat.not_lt.mpr hadm.1
    have hpeek' : ∀ e ∈ (Read.peekLegacy S Z b).trace 0, legacyInBounds S (b.length - kCrcBytes) e := by
      intro e he
      refine hpeek false e (Read.mem_trace_peekFrameInfo (by simp [hlong]) ?_)
      rwa [hlegacy, if_neg (by simp)]
    have hbitmap := hpeek' _ (hadm.mem_trace_peek (mem_trace_legacyAddressing_bitmap fs cur))
    refine ⟨?_, ?_⟩
    · have hrow := hoffset (.typeInfo fs.ty.toNat) (Read.mem_trace_reliableHeaderOffset hlong (by
        rw [hlegacy, if_neg (by simp)]
        exact hadm.mem_trace_offset))
      exact hrow
    · by_cases hsum : S.endpointBitmapBytes + fs.senderWireLen.toNat < 2 ^ 64
      · exact Or.inl hsum
      · -- the sum wraps, so a sender that is looked at ends beyond the frame
        refine Or.inr ⟨hbitmap, fun hcount => ?_⟩
        have hsender : cur + S.endpointBitmapBytes + fs.senderWireLen.toNat ≤ b.length - kCrcBytes :=
          hpeek' _ (hadm.mem_trace_peek (mem_trace_legacyAddressing_sender hcount))
        omega
  · intro hwf
    refine ⟨?_, ?_, ?_⟩
    · rw [Read.deserializePacket_eq]
      refine (Read.safe_dispatch true hG trivial hnot fun _ hlong => ?_).access 0 rfl
      rw [Read.deserializeLegacy_eq]
      exact Reader.Safe.bind (Read.safe_legacyHead hwf hlong) Read.safe_legacyPacketTail
    · intro verifyCrc
      rw [Read.peekFrameInfo_eq]
      refine (Read.safe_dispatch verifyCrc hG trivial hnot fun _ hlong => ?_).access 0 rfl
      rw [Read.peekLegacy_eq]
      exact Reader.Safe.bind (Read.safe_legacyHead hwf hlong) Read.safe_legacyFrameTail
    · rw [Read.reliableHeaderOffset_eq]
      refine (Read.safe_dispatch false hG trivial hnot fun _ hlong => ?_).access 0 rfl
      exact Read.safe_offsetLegacy hwf hlong

/-- A legacy frame without endpoints, sender or payload, of the type whose varint is `ty`. -/
def bareLegacyFrame (ty : Bytes) : Bytes :=
  withCrc ([0, 0] ++ ty ++ [0, 0, 0] ++ List.replicate 26 0)

theorem legacyParsing_inBounds_bare :
    isV4FrameFlags ((bareLegacyFrame [100]).getD 0 0) = false ∧
    ∀ e ∈ (Read.deserializePacket defaultTestSchema (.absent 16) (bareLegacyFrame [100])).trace 0,
      legacyInBounds defaultTestSchema ((bareLegacyFrame [100]).length - kCrcBytes) e := by
  have hfields : (Read.legacyFields (bareLegacyFrame [100])).value 0 =
      some (⟨0, 0, 100, 0, 0, 0, 0⟩, 6) := by decide +kernel
  have hlegacy : isV4FrameFlags ((bareLegacyFrame [100]).getD 0 0) = false := by decide +kernel
  refine ⟨hlegacy, ((legacyParsing_inBounds_iff defaultTestSchema (.absent 16) (bareLegacyFrame [100])
    (by decide +kernel) hlegacy).mpr ?_).1⟩
  rintro fs cur ⟨-, hfs, -⟩
  rw [hfields, Option.some.injEq, Prod.mk.injEq] at hfs
  obtain ⟨rfl, rfl⟩ := hfs
  exact ⟨by decide +kernel, Or.inl (by decide +kernel)⟩

/-- The type 2^32 passes the check as type 0, and `kTypeInfo` is indexed with 2^32. -/
theorem legacyParsing_type_outOfBounds :
    ∃ (S : Schema) (Z : Codec) (b : Bytes), b.length < 2 ^ 64 ∧ isV4FrameFlags (b.getD 0 0) = false ∧
      ¬ ((∀ e ∈ (Read.deserializePacket S Z b).trace 0, legacyInBounds S (b.length - kCrcBytes) e) ∧
         (∀ verifyCrc, ∀ e ∈ (Read.peekFrameInfo S Z b verifyCrc).trace 0,
          legacyInBounds S (b.length - kCrcBytes) e) ∧
         (∀ e ∈ (Read.reliableHeaderOffset S b).trace 0, legacyInBounds S (b.length - kCrcBytes) e)) := by
  refine ⟨defaultTestSchema, .absent 16, bareLegacyFrame [0x80, 0x80, 0x80, 0x80, 0x10],
    by decide +kernel, by decide +kernel, ?_⟩
  rintro ⟨hparse, -⟩
  have hmem : Access.typeInfo 4294967296 ∈ (Read.deserializePacket defaultTestSchema (.absent 16)
      (bareLegacyFrame [0x80, 0x80, 0x80, 0x80, 0x10])).trace 0 := by decide +kernel
  have hrows : defaultTestSchema.kTypeInfo.length = 1019 := by decide +kernel
  have hrow : 4294967296 < defaultTestSchema.kTypeInfo.length := hparse _ hmem
  omega

end SedsNet
