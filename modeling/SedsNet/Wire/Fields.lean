import SedsNet.Wire.Decode

/-!
# Reading back what was written, field by field

One lemma per field of the v4 format: at a cursor where the buffer continues with the
encoding of a value, the reader answers that value and stops right behind it. The frame
round trips are chained from these; `Continues` keeps track of what the buffer holds from
the cursor on.
-/

set_option autoImplicit false

namespace SedsNet

open Lib

/-- From offset `i` on, the buffer holds `l` and then `rest`. -/
def Continues (b : Bytes) (i : Nat) (l rest : Bytes) : Prop := b.drop i = l ++ rest

namespace Continues

variable {b l rest : Bytes} {i : Nat}

theorem next (h : Continues b i l rest) : b.drop (i + l.length) = rest := by
  rw [← List.drop_drop, h, List.drop_left]

theorem length_eq (h : Continues b i l rest) (hi : i ≤ b.length) :
    i + l.length + rest.length = b.length := by
  have hlen := congrArg List.length h
  rw [List.length_drop, List.length_append] at hlen
  omega

theorem take (h : Continues b i l rest) : (b.drop i).take l.length = l := by
  rw [h, List.take_left]

theorem getD_zero {x : UInt8} {l : Bytes} (h : Continues b i (x :: l) rest) : b.getD i 0 = x := by
  have h0 : (b.drop i)[0]? = some x := by rw [h]; rfl
  rw [List.getElem?_drop, Nat.add_zero] at h0
  rw [List.getD_eq_getElem?_getD, h0, Option.getD_some]

end Continues

namespace Read

@[simp] theorem value_next (b : Bytes) (i : Nat) : (next b).value i = some (b.getD i 0, i + 1) := rfl

@[simp] theorem value_look (b : Bytes) (n i : Nat) :
    (look b n).value i = some ((b.drop i).take n, i) := rfl

@[simp] theorem value_skip (n i : Nat) : (skip n).value i = some ((), i + n) := rfl

@[simp] theorem value_typeInfoAt (S : Schema) (k i : Nat) :
    (typeInfoAt S k).value i = some (S.typeAt k, i) := rfl

@[simp] theorem value_hasV4ReliableHeader (S : Schema) (ty : UInt32) (i : Nat) :
    (hasV4ReliableHeader S ty).value i = some (S.hasV4ReliableHeader ty, i) := by
  unfold hasV4ReliableHeader
  split <;> rfl

@[simp] theorem value_v4Bitmap (S : Schema) (b : Bytes) (i : Nat) :
    (v4Bitmap S b).value i =
      some (parseV4Bitmap S ((b.drop i).take kV4EndpointBitmapBytes) kV4EndpointBitmapBytes, i) := rfl

@[simp] theorem value_decompress (Z : Codec) (b : Bytes) (wireLen logicalLen : Nat)
    (compressed : Bool) (i : Nat) :
    (decompress Z b wireLen logicalLen compressed).value i =
      some (maybeDecompress Z ((b.drop i).take wireLen) logicalLen compressed, i) := rfl

end Read

/-! ## Varints -/

theorem toNat_shiftRight_seven (v : UInt64) : (v >>> 7).toNat = v.toNat / 128 := by
  rw [UInt64.toNat_shiftRight]
  simp [Nat.shiftRight_eq_div_pow]

theorem toNat_low_seven (v : UInt64) : ((v &&& 0x7F).toUInt8).toNat = v.toNat % 128 := by
  have h7 : (0x7F : UInt64).toNat = 2 ^ 7 - 1 := rfl
  rw [UInt64.toNat_toUInt8, UInt64.toNat_and, h7, Nat.and_two_pow_sub_one_eq_mod]
  omega

theorem and_low_seven_or (x : UInt8) (h : x.toNat < 128) : (x ||| 0x80) &&& 0x7F = x := by
  have hall : ∀ k : Fin 128, (UInt8.ofNat k.val ||| 0x80) &&& 0x7F = UInt8.ofNat k.val := by decide
  have hx : UInt8.ofNat x.toNat = x := UInt8.ofNat_toNat
  rw [← hx]
  exact hall ⟨x.toNat, h⟩

theorem and_high_or (x : UInt8) (h : x.toNat < 128) : (x ||| 0x80) &&& 0x80 ≠ 0 := by
  have hall : ∀ k : Fin 128, (UInt8.ofNat k.val ||| 0x80) &&& 0x80 ≠ 0 := by decide
  have hx : UInt8.ofNat x.toNat = x := UInt8.ofNat_toNat
  rw [← hx]
  exact hall ⟨x.toNat, h⟩

theorem and_seven_of_lt (x : UInt8) (h : x.toNat < 128) : x &&& 0x7F = x ∧ x &&& 0x80 = 0 := by
  have hall : ∀ k : Fin 128, UInt8.ofNat k.val &&& 0x7F = UInt8.ofNat k.val ∧
      UInt8.ofNat k.val &&& 0x80 = 0 := by decide
  have hx : UInt8.ofNat x.toNat = x := UInt8.ofNat_toNat
  rw [← hx]
  exact hall ⟨x.toNat, h⟩

/-- Or-ing the next seven-bit group in at its shift: the groups below it are already there,
    and the value fits, so nothing is cut off. -/
theorem accumulate_group {v w out : UInt64} {k : Nat} (hk : k ≤ 9)
    (hw : w.toNat = v.toNat / 2 ^ (7 * k)) (hout : out.toNat = v.toNat % 2 ^ (7 * k)) :
    (out ||| ((w &&& 0x7F).toUInt8.toUInt64 <<< UInt64.ofNat (7 * k))).toNat =
      v.toNat % 2 ^ (7 * (k + 1)) := by
  have hv : v.toNat < 2 ^ 64 := v.toNat_lt
  have hshift : (UInt64.ofNat (7 * k)).toNat % 64 = 7 * k := by
    rw [UInt64.toNat_ofNat']
    omega
  have hgroup : w.toNat % 128 * 2 ^ (7 * k) < 2 ^ 64 := by
    have h1 : w.toNat % 128 ≤ w.toNat := Nat.mod_le _ _
    have h2 : w.toNat * 2 ^ (7 * k) ≤ v.toNat := by
      rw [hw]
      exact Nat.div_mul_le_self _ _
    calc w.toNat % 128 * 2 ^ (7 * k) ≤ w.toNat * 2 ^ (7 * k) := Nat.mul_le_mul_right _ h1
      _ ≤ v.toNat := h2
      _ < 2 ^ 64 := hv
  have hlt : out.toNat < 2 ^ (7 * k) := by
    rw [hout]
    exact Nat.mod_lt _ (Nat.two_pow_pos _)
  have hsplit : v.toNat % 2 ^ (7 * (k + 1)) =
      v.toNat % 2 ^ (7 * k) + 2 ^ (7 * k) * (v.toNat / 2 ^ (7 * k) % 128) := by
    have hpow : 2 ^ (7 * (k + 1)) = 2 ^ (7 * k) * 128 := by
      rw [show 7 * (k + 1) = 7 * k + 7 by omega, Nat.pow_add]
    rw [hpow, Nat.mod_mul]
  rw [UInt64.toNat_or, UInt64.toNat_shiftLeft, UInt8.toNat_toUInt64, toNat_low_seven, hshift,
    Nat.shiftLeft_eq, Nat.mod_eq_of_lt hgroup, Nat.or_comm, Nat.mul_comm,
    ← Nat.two_pow_add_eq_or_of_lt hlt, hsplit, hout, hw]
  omega

/-- The read loop on the write loop, from any group on. The accumulator holds the groups
    already read; ten rounds cannot run out because 64 bits have at most ten groups. -/
theorem readUleb128Loop_write {b rest : Bytes} {endp : Nat} (v : UInt64) :
    ∀ (rounds k : Nat), rounds + k = 10 → ∀ (w out : UInt64) (i : Nat),
      (k = 0 ∨ w ≠ 0) → w.toNat = v.toNat / 2 ^ (7 * k) → out.toNat = v.toNat % 2 ^ (7 * k) →
      Continues b i (writeUleb128Loop rounds w) rest → i + (writeUleb128Loop rounds w).length ≤ endp →
      (Read.readUleb128Loop b endp rounds (UInt64.ofNat (7 * k)) out).value i =
        some (v, i + (writeUleb128Loop rounds w).length) := by
  intro rounds
  induction rounds with
  | zero =>
    intro k hk w out i hne hw
    have hv : v.toNat < 2 ^ 64 := v.toNat_lt
    have hw0 : w = 0 := by
      apply UInt64.toNat_inj.mp
      rw [hw, show k = 10 by omega]
      simp only [UInt64.toNat_zero]
      omega
    rcases hne with h | h
    · omega
    · exact absurd hw0 h
  | succ rounds ih =>
    intro k hk w out i hne hw hout hc hlen
    have hgroup : ((w &&& 0x7F).toUInt8).toNat < 128 := by
      rw [toNat_low_seven]
      omega
    have hacc := accumulate_group (show k ≤ 9 by omega) hw hout
    have hshift : UInt64.ofNat (7 * k) + 7 = UInt64.ofNat (7 * (k + 1)) := by
      apply UInt64.toNat_inj.mp
      simp only [UInt64.toNat_add, UInt64.toNat_ofNat', UInt64.reduceToNat]
      omega
    have hnext : (w >>> 7).toNat = v.toNat / 2 ^ (7 * (k + 1)) := by
      rw [toNat_shiftRight_seven, hw, Nat.div_div_eq_div_mul,
        show 7 * (k + 1) = 7 * k + 7 by omega, Nat.pow_add]
    unfold Read.readUleb128Loop
    unfold writeUleb128Loop at hc hlen ⊢
    by_cases hlast : w >>> 7 = 0
    · -- the last group: no continuation bit, and the accumulator is the whole value
      rw [if_neg (not_not.mpr hlast)] at hc hlen ⊢
      have hfull : v.toNat % 2 ^ (7 * (k + 1)) = v.toNat := by
        rw [hlast] at hnext
        have hdm := Nat.div_add_mod v.toNat (2 ^ (7 * (k + 1)))
        rw [← hnext] at hdm
        simpa using hdm
      have hval : out ||| ((w &&& 0x7F).toUInt8.toUInt64 <<< UInt64.ofNat (7 * k)) = v :=
        UInt64.toNat_inj.mp (by rw [hacc, hfull])
      have hcur : ¬ i ≥ endp := by
        simp only [List.length_singleton] at hlen
        omega
      obtain ⟨h7, h80⟩ := and_seven_of_lt _ hgroup
      simp only [Reader.value_bind, Reader.value_tell, Reader.value_rejectIf, hcur, if_false,
        Option.bind_some, Read.value_next, hc.getD_zero, h7, h80, if_true, Reader.value_pure,
        List.length_singleton, hval]
    · rw [if_pos hlast] at hc hlen ⊢
      have hcur : ¬ i ≥ endp := by
        simp only [List.length_cons] at hlen
        omega
      have htail : Continues b (i + 1) (writeUleb128Loop rounds (w >>> 7)) rest := by
        have hone : Continues b i [(w &&& 0x7F).toUInt8 ||| 0x80]
            (writeUleb128Loop rounds (w >>> 7) ++ rest) := by simpa [Continues] using hc
        simpa [Continues] using hone.next
      have hrec := ih (k + 1) (by omega) (w >>> 7)
        (out ||| ((w &&& 0x7F).toUInt8.toUInt64 <<< UInt64.ofNat (7 * k))) (i + 1)
        (Or.inr hlast) hnext hacc htail (by simp only [List.length_cons] at hlen; omega)
      simp only [Reader.value_bind, Reader.value_tell, Reader.value_rejectIf, hcur, if_false,
        Option.bind_some, Read.value_next, hc.getD_zero, and_low_seven_or _ hgroup,
        and_high_or _ hgroup, Reader.value_ite, hshift, hrec, List.length_cons]
      congr 2
      omega

/-- **A varint reads back.** -/
theorem readUleb128_write {b rest : Bytes} {endp i : Nat} (v : UInt64)
    (hc : Continues b i (writeUleb128 v) rest) (hlen : i + (writeUleb128 v).length ≤ endp) :
    (Read.readUleb128 b endp).value i = some (v, i + (writeUleb128 v).length) := by
  have h0 : v.toNat = v.toNat / 2 ^ (7 * 0) := by simp
  have hm : (0 : UInt64).toNat = v.toNat % 2 ^ (7 * 0) := by simp [Nat.mod_one]
  exact readUleb128Loop_write v 10 0 rfl v 0 i (Or.inl rfl) h0 hm hc hlen

/-! ## Little-endian words -/

theorem ofLe_appendLe32 (v : UInt32) : ofLe (appendLe32 v) = v.toNat := by
  have hv : v.toNat < 2 ^ 32 := v.toNat_lt
  simp only [appendLe32, ofLe, UInt32.toNat_toUInt8, UInt32.toNat_shiftRight, UInt32.reduceToNat,
    Nat.shiftRight_eq_div_pow, Nat.reduceMod, Nat.reducePow]
  omega

theorem loadLe32_append {b rest : Bytes} {i : Nat} (v : UInt32)
    (h : Continues b i (appendLe32 v) rest) : loadLe32 b i = v := by
  unfold loadLe32
  rw [show 4 = (appendLe32 v).length from rfl, h.take, ofLe_appendLe32, UInt32.ofNat_toNat]

theorem ofLe_appendLe64 (v : UInt64) : ofLe (appendLe64 v) = v.toNat := by
  have hv : v.toNat < 2 ^ 64 := v.toNat_lt
  simp only [appendLe64, ofLe, UInt64.toNat_toUInt8, UInt64.toNat_shiftRight, UInt64.reduceToNat,
    Nat.shiftRight_eq_div_pow, Nat.reduceMod, Nat.reducePow]
  omega

theorem loadLe64_append {b rest : Bytes} {i : Nat} (v : UInt64) (h : Continues b i (appendLe64 v) rest) : loadLe64 b i = v := by
  unfold loadLe64
  rw [show 8 = (appendLe64 v).length from rfl, h.take, ofLe_appendLe64, UInt64.ofNat_toNat]

/-! ## The reliable header

The writer marks which numbers it wrote in the bits `0x0C` of the flags, and the reader
clears them again; a header that uses these bits itself would not survive. -/

theorem presenceBits_readBack (f : UInt8) (h : f &&& 0x0C = 0) (seqPresent ackPresent : Bool) :
    let g := if seqPresent then f ||| kV4ReliableWireSeqPresent else f
    let g := if ackPresent then g ||| kV4ReliableWireAckPresent else g
    (g &&& kV4ReliableWireSeqPresent != 0) = seqPresent ∧
      (g &&& kV4ReliableWireAckPresent != 0) = ackPresent ∧
      g &&& ~~~(kV4ReliableWireSeqPresent ||| kV4ReliableWireAckPresent) = f := by
  have hall : ∀ k : Fin 256, UInt8.ofNat k.val &&& 0x0C = 0 → ∀ s a : Bool,
      let g := if s then UInt8.ofNat k.val ||| kV4ReliableWireSeqPresent else UInt8.ofNat k.val
      let g := if a then g ||| kV4ReliableWireAckPresent else g
      (g &&& kV4ReliableWireSeqPresent != 0) = s ∧ (g &&& kV4ReliableWireAckPresent != 0) = a ∧
        g &&& ~~~(kV4ReliableWireSeqPresent ||| kV4ReliableWireAckPresent) = UInt8.ofNat k.val := by
    decide +kernel
  have hf : UInt8.ofNat f.toNat = f := UInt8.ofNat_toNat
  rw [← hf] at h ⊢
  exact hall ⟨f.toNat, f.toNat_lt⟩ h seqPresent ackPresent

theorem readCompactField_write {b rest : Bytes} {endp i : Nat} (v : UInt32) (present : Bool)
    (habsent : present = false → v = 0)
    (hc : Continues b i (if present then writeUleb128 v.toUInt64 else []) rest)
    (hlen : i + (if present then writeUleb128 v.toUInt64 else []).length ≤ endp) :
    (Read.readCompactField b endp present).value i =
      some (v, i + (if present then writeUleb128 v.toUInt64 else []).length) := by
  cases present with
  | false =>
    rw [habsent rfl]
    rfl
  | true =>
    simp only [if_true] at hc hlen ⊢
    have hfits : ¬ v.toUInt64 > 0xFFFFFFFF := by
      have hv : v.toNat < 2 ^ 32 := v.toNat_lt
      simp only [gt_iff_lt, UInt64.lt_iff_toNat_lt, UInt32.toNat_toUInt64, UInt64.reduceToNat]
      omega
    unfold Read.readCompactField
    simp only [if_true, Reader.value_bind, readUleb128_write _ hc hlen, Option.bind_some,
      Reader.value_rejectIf, hfits, if_false, Reader.value_pure, UInt32.toUInt32_toUInt64]

/-- The compact layout, for flags whose presence bits say what follows. -/
theorem readV4ReliableHeader_compact {b rest : Bytes} {endp i : Nat} {g f : UInt8}
    {seq ack : UInt32} {seqPresent ackPresent : Bool}
    (hsp : (g &&& kV4ReliableWireSeqPresent != 0) = seqPresent)
    (hap : (g &&& kV4ReliableWireAckPresent != 0) = ackPresent)
    (hclear : g &&& ~~~(kV4ReliableWireSeqPresent ||| kV4ReliableWireAckPresent) = f)
    (hseqAbsent : seqPresent = false → seq = 0) (hackAbsent : ackPresent = false → ack = 0)
    (hc : Continues b i (g :: ((if seqPresent then writeUleb128 seq.toUInt64 else []) ++
      (if ackPresent then writeUleb128 ack.toUInt64 else []))) rest)
    (hlen : i + (g :: ((if seqPresent then writeUleb128 seq.toUInt64 else []) ++
      (if ackPresent then writeUleb128 ack.toUInt64 else []))).length ≤ endp) :
    (Read.readV4ReliableHeader b endp true).value i =
      some (⟨f, seq, ack⟩, i + (g :: ((if seqPresent then writeUleb128 seq.toUInt64 else []) ++
        (if ackPresent then writeUleb128 ack.toUInt64 else []))).length) := by
  have hone : Continues b i [g] ((if seqPresent then writeUleb128 seq.toUInt64 else []) ++
      ((if ackPresent then writeUleb128 ack.toUInt64 else []) ++ rest)) := by
    simpa [Continues] using hc
  have hseq := hone.next
  have hack := Continues.next hseq
  rw [List.length_cons, List.length_append] at hlen ⊢
  have hcur : ¬ i ≥ endp := by omega
  have hreadSeq := readCompactField_write seq seqPresent hseqAbsent hseq
    (show i + 1 + _ ≤ endp by omega)
  have hreadAck := readCompactField_write ack ackPresent hackAbsent hack
    (show i + 1 + _ + _ ≤ endp by omega)
  rw [List.length_singleton] at hreadSeq hreadAck
  simp only [Read.readV4ReliableHeader, Reader.value_bind, Reader.value_tell, Option.bind_some,
    Reader.value_rejectIf, hcur, if_false, Reader.value_emit, Read.value_next, hc.getD_zero,
    Bool.not_true, Bool.false_eq_true, hsp, hap, hclear, hreadSeq, hreadAck, Reader.value_pure]
  congr 2
  omega

/-- **A reliable header reads back**, in either layout. -/
theorem readV4ReliableHeader_write {b rest : Bytes} {endp i : Nat} (h : ReliableHeaderLite)
    (compact : Bool) (hflags : h.flags &&& 0x0C = 0)
    (hc : Continues b i (writeV4ReliableHeader h compact) rest)
    (hlen : i + (writeV4ReliableHeader h compact).length ≤ endp) :
    (Read.readV4ReliableHeader b endp compact).value i =
      some (h, i + (writeV4ReliableHeader h compact).length) := by
  cases compact with
  | false =>
    have hlayout : writeV4ReliableHeader h false = h.flags :: (appendLe32 h.seq ++ appendLe32 h.ack) := rfl
    rw [hlayout] at hc hlen ⊢
    have hlen9 : (h.flags :: (appendLe32 h.seq ++ appendLe32 h.ack)).length = 9 := rfl
    rw [hlen9] at hlen ⊢
    have hflag : Continues b i [h.flags] (appendLe32 h.seq ++ (appendLe32 h.ack ++ rest)) := by
      simpa [Continues] using hc
    have hseq : Continues b (i + 1) (appendLe32 h.seq) (appendLe32 h.ack ++ rest) := hflag.next
    have hack : Continues b (i + 1 + 4) (appendLe32 h.ack) rest := hseq.next
    have hcur : ¬ i ≥ endp := by omega
    have hrem : ¬ remaining endp (i + 1) < 8 := by
      unfold remaining
      split <;> omega
    simp only [Read.readV4ReliableHeader, Reader.value_bind, Reader.value_tell, Option.bind_some,
      Reader.value_rejectIf, hcur, if_false, Reader.value_emit, Read.value_next, hc.getD_zero,
      Bool.not_false, if_true, hrem, Read.value_look, Read.value_skip, Reader.value_pure,
      loadLe32_append _ hseq, loadLe32_append _ hack]
  | true =>
    obtain ⟨hsp, hap, hclear⟩ := presenceBits_readBack h.flags hflags
      (h.flags &&& kV4ReliableFlagAckOnly == 0 || h.seq != 0)
      (h.ack != 0 || h.flags &&& kV4ReliableFlagAckOnly != 0)
    refine readV4ReliableHeader_compact hsp hap hclear ?_ ?_ hc hlen
    · intro hs
      simpa using (Bool.or_eq_false_iff.mp hs).2
    · intro ha
      simpa using (Bool.or_eq_false_iff.mp ha).1

/-! ## The payload -/

theorem maybeDecompress_maybeCompress {Z : Codec} (hZ : Z.Lossless) (data : Bytes) :
    maybeDecompress Z (maybeCompress Z data).1 data.length (maybeCompress Z data).2 = data := by
  unfold maybeCompress
  split
  · cases hout : Z.compress data with
    | none => rfl
    | some out =>
      dsimp only
      split
      · simp [maybeDecompress, hZ data out hout]
      · rfl
  · rfl

/-! ## The endpoint bitmap -/

/-- The endpoints a frame for `endpoints` is read back as: the wire ids the bitmap can hold, in
    ascending order, each translated back. -/
def wireEndpoints (S : Schema) (endpoints : List UInt32) : List UInt32 :=
  (List.range (kV4EndpointBitmapBytes * 8)).filterMap fun i =>
    if i ∈ endpoints.map (fun ep => (S.v4EndpointId ep).toNat) then S.localEndpointId (UInt32.ofNat i)
    else none

theorem v4EndpointBitmap_eq_setBits (S : Schema) (endpoints : List UInt32) :
    v4EndpointBitmap S endpoints = setBits (List.replicate kV4EndpointBitmapBytes 0)
      ((endpoints.map fun ep => (S.v4EndpointId ep).toNat).filter
        (· < kV4EndpointBitmapBytes * 8)) := by
  unfold v4EndpointBitmap setBits
  generalize List.replicate kV4EndpointBitmapBytes (0 : UInt8) = bitmap
  induction endpoints generalizing bitmap with
  | nil => rfl
  | cons ep endpoints ih =>
    rw [List.foldl_cons, ih, List.map_cons, List.filter_cons]
    by_cases hfits : (S.v4EndpointId ep).toNat < kV4EndpointBitmapBytes * 8
    · simp only [hfits, if_true, decide_true, List.foldl_cons]
    · simp only [hfits, if_false, decide_false, Bool.false_eq_true]

@[simp] theorem length_v4EndpointBitmap (S : Schema) (endpoints : List UInt32) :
    (v4EndpointBitmap S endpoints).length = kV4EndpointBitmapBytes := by
  rw [v4EndpointBitmap_eq_setBits, length_setBits, List.length_replicate]

theorem parseV4Bitmap_v4EndpointBitmap (S : Schema) (endpoints : List UInt32) :
    parseV4Bitmap S (v4EndpointBitmap S endpoints) kV4EndpointBitmapBytes =
      wireEndpoints S endpoints := by
  unfold parseV4Bitmap wireEndpoints
  apply List.filterMap_congr
  intro i hi
  have hlt : i < kV4EndpointBitmapBytes * 8 := List.mem_range.mp hi
  have hbit : bitSet (v4EndpointBitmap S endpoints) i =
      decide (i ∈ endpoints.map fun ep => (S.v4EndpointId ep).toNat) := by
    rw [v4EndpointBitmap_eq_setBits, bitSet_setBits, bitSet_replicate_zero, Bool.false_or]
    · simp [hlt]
    · intro j hj
      have := of_decide_eq_true (List.mem_filter.mp hj).2
      rw [List.length_replicate]
      omega
  rw [hbit]
  simp only [decide_eq_true_eq]

/-! ## Fields at fixed offsets -/

theorem ofLe_lt (ds : Bytes) : ofLe ds < 2 ^ (8 * ds.length) := by
  induction ds with
  | nil => exact Nat.one_pos
  | cons d ds ih =>
    have hd := d.toNat_lt
    have hpow : 2 ^ (8 * (d :: ds).length) = 256 * 2 ^ (8 * ds.length) := by
      rw [List.length_cons, show 8 * (ds.length + 1) = 8 + 8 * ds.length by omega, Nat.pow_add]
    rw [hpow]
    show d.toNat + 256 * ofLe ds < _
    omega

theorem ofLe_injective {ds ds' : Bytes} (hlen : ds.length = ds'.length) (h : ofLe ds = ofLe ds') : ds = ds' := by
  induction ds generalizing ds' with
  | nil => exact (List.length_eq_zero_iff.mp hlen.symm).symm
  | cons d ds ih =>
    cases ds' with
    | nil => cases hlen
    | cons d' ds' =>
      have hd := d.toNat_lt
      have hd' := d'.toNat_lt
      have h : d.toNat + 256 * ofLe ds = d'.toNat + 256 * ofLe ds' := h
      have hfirst : d = d' := UInt8.toNat_inj.mp (by omega)
      rw [hfirst, ih (Nat.succ.inj hlen) (by omega)]

section

variable {b : Bytes} {i : Nat}

theorem length_field {k : Nat} (h : i + k ≤ b.length) : ((b.drop i).take k).length = k := by
  rw [List.length_take, List.length_drop]
  omega

/-- A number that is read is written as the bytes it was read from. -/
theorem appendLe32_load (h : i + 4 ≤ b.length) : appendLe32 (loadLe32 b i) = (b.drop i).take 4 := by
  have hlen := length_field h
  have hlt := ofLe_lt ((b.drop i).take 4)
  rw [hlen] at hlt
  refine ofLe_injective (hlen.symm ▸ rfl) ?_
  rw [ofLe_appendLe32, loadLe32, UInt32.toNat_ofNat_of_lt' hlt]

theorem appendLe64_load (h : i + 8 ≤ b.length) : appendLe64 (loadLe64 b i) = (b.drop i).take 8 := by
  have hlen := length_field h
  have hlt := ofLe_lt ((b.drop i).take 8)
  rw [hlen] at hlt
  refine ofLe_injective (hlen.symm ▸ rfl) ?_
  rw [ofLe_appendLe64, loadLe64, UInt64.toNat_ofNat_of_lt' hlt]

/-- What stands at an offset is a field and what stands behind it. -/
theorem drop_eq (b : Bytes) (i k : Nat) : b.drop i = (b.drop i).take k ++ b.drop (i + k) := by
  rw [← List.drop_drop, List.take_append_drop]

end

end SedsNet
