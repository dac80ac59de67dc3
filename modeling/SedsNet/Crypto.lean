import SedsNet.Owner
import SedsNet.Sha256

/-!
# Sealing and opening

The software fallback of `seds_crypto_seal` and `seds_crypto_open`: the payload is combined with a keystream of HMAC blocks, and
the tag is the front half of an HMAC over key id, nonce, associated data and ciphertext, one after the other. A buffer is a
pointer with the length that comes with it. Buffers a function writes to do not overlap those it reads.
-/

set_option autoImplicit false

namespace SedsNet

def kSoftwareKeyMinLen : Nat := 16
def kSoftwareTagLen : Nat := 16

/-! ## Buffers -/

/-- A pointer and a length. What a pointer that is not null points at has that length: this is the caller's part. -/
structure Buffer where
  data : Option Bytes
  len : Nat
  length_data : ∀ b ∈ data, b.length = len

namespace Buffer

/-- The buffer that holds these bytes. -/
def mem (b : Bytes) : Buffer := ⟨some b, b.length, by simp⟩

/-- `ptr == nullptr && len != 0`. -/
def missing (x : Buffer) : Bool := x.data.isNone && x.len != 0

/-- `std::span(ptr, len)`. -/
def bytes (x : Buffer) : Bytes := x.data.getD []

@[simp] theorem mem_bytes (b : Bytes) : (mem b).bytes = b := rfl

@[simp] theorem mem_len (b : Bytes) : (mem b).len = b.length := rfl

@[simp] theorem mem_data (b : Bytes) : (mem b).data = some b := rfl

@[simp] theorem mem_missing (b : Bytes) : (mem b).missing = false := rfl

theorem length_bytes {x : Buffer} (h : x.missing = false) : x.bytes.length = x.len := by
  obtain ⟨data, len, hlen⟩ := x
  cases data with
  | none =>
    have h0 : len = 0 := by simpa [missing] using h
    exact h0.symm
  | some b => exact hlen b rfl

end Buffer

/-! ## Tag and keystream -/

/-- `normalize_software_key`. -/
def normalizeSoftwareKey (key : Bytes) : Key :=
  if h : key.length = 32 then ⟨key, h⟩ else ⟨Sha256.digest key, Sha256.length_digest key⟩

def constantTimeEq (a b : Bytes) : Bool :=
  if a.length ≠ b.length then false
  else (List.range a.length).foldl (fun diff i => diff ||| (a.getD i 0 ^^^ b.getD i 0)) 0 == 0

def softwareTag (key : Key) (keyId : UInt32) (nonce aad ciphertext : Bytes) : Bytes :=
  hmacSha256 key [ascii "SEDS-HMAC-TAG", appendLe32 keyId, nonce, aad, ciphertext]

/-- The block of the keystream at a counter. -/
def streamBlock (key : Key) (keyId : UInt32) (nonce aad : Bytes) (counter : UInt64) : Bytes :=
  hmacSha256 key [ascii "SEDS-HMAC-STREAM", appendLe32 keyId, nonce, aad, appendLe64 counter]

/-- The loop of `apply_hmac_stream` from a counter on, for at most `n` turns: what it writes for the rest of the input. -/
def applyBlocks (block : UInt64 → Bytes) : Nat → UInt64 → Bytes → Bytes
  | 0, _, _ => []
  | n + 1, counter, input =>
    if input.isEmpty then []
    else
      let take := min (block counter).length input.length
      List.zipWith (· ^^^ ·) (input.take take) (block counter) ++ applyBlocks block n (counter + 1) (input.drop take)

def applyHmacStream (key : Key) (keyId : UInt32) (nonce aad input : Bytes) : Bytes :=
  applyBlocks (streamBlock key keyId nonce aad) input.length 0 input

/-! ## The calls -/

structure SealArgs where
  keyId : UInt32
  nonce : Buffer
  aad : Buffer
  plaintext : Buffer
  ciphertextOut : Buffer
  ciphertextLenOut : Option Nat
  tagOut : Buffer
  tagLenOut : Option Nat

/-- The result code, and the caller's memory after the call. -/
structure SealOut where
  rc : SedsResult
  ciphertext : Option Bytes
  ciphertextLen : Option Nat
  tag : Option Bytes
  tagLen : Option Nat
  deriving DecidableEq

/-- The ciphertext the caller has after the call. -/
def SealOut.sealedText (s : SealOut) : Bytes := (s.ciphertext.getD []).take (s.ciphertextLen.getD 0)

/-- And the tag. -/
def SealOut.sealedTag (s : SealOut) : Bytes := (s.tag.getD []).take (s.tagLen.getD 0)

structure OpenArgs where
  keyId : UInt32
  nonce : Buffer
  aad : Buffer
  ciphertext : Buffer
  tag : Buffer
  plaintextOut : Buffer
  plaintextLenOut : Option Nat

structure OpenOut where
  rc : SedsResult
  plaintext : Option Bytes
  plaintextLen : Option Nat
  deriving DecidableEq

/-- The globals: the registered provider, and `g_software_keys`. -/
structure Crypto where
  provider : Option ((SealArgs → SealOut) × (OpenArgs → OpenOut))
  softwareKeys : Map UInt32 Key

/-- `seds_crypto_register_software_key`. -/
def Crypto.registerSoftwareKey (c : Crypto) (keyId : UInt32) (key : Buffer) : SedsResult × Crypto :=
  if key.data.isNone || key.len < kSoftwareKeyMinLen then (SEDS_BAD_ARG, c)
  else (SEDS_OK, { c with softwareKeys := c.softwareKeys.insert keyId (normalizeSoftwareKey key.bytes) })

/-- `seds_crypto_clear_software_keys`. -/
def Crypto.clearSoftwareKeys (c : Crypto) : Crypto := { c with softwareKeys := ∅ }

/-- `seds_crypto_register_provider`, both functions given. -/
def Crypto.registerProvider (c : Crypto) (p : (SealArgs → SealOut) × (OpenArgs → OpenOut)) : Crypto :=
  { c with provider := some p }

/-- `seds_crypto_clear_provider`. -/
def Crypto.clearProvider (c : Crypto) : Crypto := { c with provider := none }

/-- `seds_crypto_seal`. -/
def Crypto.cryptoSeal (c : Crypto) (x : SealArgs) : SealOut :=
  if x.nonce.missing || x.aad.missing || x.plaintext.missing || x.ciphertextOut.missing || x.tagOut.missing ||
      x.ciphertextLenOut.isNone || x.tagLenOut.isNone then
    ⟨SEDS_BAD_ARG, x.ciphertextOut.data, x.ciphertextLenOut, x.tagOut.data, x.tagLenOut⟩
  else
    match c.provider with
    | some (sealFn, _) => sealFn x
    | none =>
      match c.softwareKeys.lookup x.keyId with
      | none => ⟨SEDS_BAD_ARG, x.ciphertextOut.data, x.ciphertextLenOut, x.tagOut.data, x.tagLenOut⟩
      | some key =>
        match x.ciphertextOut.data, x.tagOut.data with
        | some ciphertextOut, some tagOut =>
          if x.ciphertextOut.len < x.plaintext.len ∨ x.tagOut.len < kSoftwareTagLen then
            ⟨SEDS_SIZE_MISMATCH, some ciphertextOut, some 0, some tagOut, some 0⟩
          else
            let ciphertext := applyHmacStream key x.keyId x.nonce.bytes x.aad.bytes x.plaintext.bytes
            let tag := softwareTag key x.keyId x.nonce.bytes x.aad.bytes ciphertext
            ⟨SEDS_OK, some (copyAt ciphertextOut 0 ciphertext), some x.plaintext.len,
              some (copyAt tagOut 0 (tag.take kSoftwareTagLen)), some kSoftwareTagLen⟩
        | ciphertextOut, tagOut => ⟨SEDS_SIZE_MISMATCH, ciphertextOut, some 0, tagOut, some 0⟩

/-- `seds_crypto_open`. -/
def Crypto.cryptoOpen (c : Crypto) (x : OpenArgs) : OpenOut :=
  if x.nonce.missing || x.aad.missing || x.ciphertext.missing || x.tag.missing || x.plaintextOut.missing ||
      x.plaintextLenOut.isNone then
    ⟨SEDS_BAD_ARG, x.plaintextOut.data, x.plaintextLenOut⟩
  else
    match c.provider with
    | some (_, openFn) => openFn x
    | none =>
      match c.softwareKeys.lookup x.keyId with
      | none => ⟨SEDS_BAD_ARG, x.plaintextOut.data, x.plaintextLenOut⟩
      | some key =>
        if x.tag.len ≠ kSoftwareTagLen then ⟨SEDS_BAD_ARG, x.plaintextOut.data, x.plaintextLenOut⟩
        else
          match x.plaintextOut.data with
          | none => ⟨SEDS_SIZE_MISMATCH, none, some 0⟩
          | some plaintextOut =>
            if x.plaintextOut.len < x.ciphertext.len then ⟨SEDS_SIZE_MISMATCH, some plaintextOut, some 0⟩
            else
              let expected := softwareTag key x.keyId x.nonce.bytes x.aad.bytes x.ciphertext.bytes
              if !constantTimeEq (expected.take kSoftwareTagLen) x.tag.bytes then
                ⟨SEDS_HANDLER_ERROR, some plaintextOut, some 0⟩
              else
                ⟨SEDS_OK,
                  some (copyAt plaintextOut 0 (applyHmacStream key x.keyId x.nonce.bytes x.aad.bytes x.ciphertext.bytes)),
                  some x.ciphertext.len⟩

/-! ## The comparison looks at every byte -/

theorem foldl_or_eq_zero (f : Nat → UInt8) (l : List Nat) (d : UInt8) :
    l.foldl (fun d i => d ||| f i) d = 0 ↔ d = 0 ∧ ∀ i ∈ l, f i = 0 := by
  induction l generalizing d with
  | nil => simp
  | cons i l ih =>
    rw [List.foldl_cons, ih, UInt8.or_eq_zero_iff, List.forall_mem_cons, and_assoc]

theorem constantTimeEq_iff {a b : Bytes} : constantTimeEq a b = true ↔ a = b := by
  unfold constantTimeEq
  constructor
  · intro h
    split at h
    · exact absurd h Bool.false_ne_true
    · rename_i hlen
      have hlen' : a.length = b.length := not_not.mp hlen
      obtain ⟨-, hall⟩ := (foldl_or_eq_zero _ _ 0).mp (beq_iff_eq.mp h)
      refine List.ext_getElem hlen' fun i hi hi' => ?_
      have := UInt8.xor_eq_zero_iff.mp (hall i (List.mem_range.mpr hi))
      rwa [List.getD_eq_getElem _ _ hi, List.getD_eq_getElem _ _ hi'] at this
  · rintro rfl
    rw [if_neg (not_not.mpr rfl)]
    refine beq_iff_eq.mpr ((foldl_or_eq_zero _ _ 0).mpr ⟨rfl, fun i _ => ?_⟩)
    exact UInt8.xor_self

/-! ## The keystream cancels -/

theorem zipWith_xor_cancel {a b : Bytes} (h : a.length ≤ b.length) :
    List.zipWith (· ^^^ ·) (List.zipWith (· ^^^ ·) a b) b = a := by
  induction a generalizing b with
  | nil => rfl
  | cons x a ih =>
    cases b with
    | nil => exact absurd h (Nat.not_succ_le_zero _)
    | cons y b =>
      have hcancel : x ^^^ y ^^^ y = x := by rw [UInt8.xor_assoc, UInt8.xor_self, UInt8.xor_zero]
      show (x ^^^ y ^^^ y) :: _ = x :: a
      rw [hcancel, ih (Nat.le_of_succ_le_succ h)]

section Blocks

variable {block : UInt64 → Bytes} (hpos : ∀ c, 0 < (block c).length)
include hpos

theorem length_applyBlocks {n : Nat} (counter : UInt64) {input : Bytes} (hn : input.length ≤ n) :
    (applyBlocks block n counter input).length = input.length := by
  induction n generalizing counter input with
  | zero => exact (Nat.le_zero.mp hn).symm
  | succ n ih =>
    have := hpos counter
    unfold applyBlocks
    cases input with
    | nil => rfl
    | cons x input =>
      have hrest : ((x :: input).drop (min (block counter).length (x :: input).length)).length ≤ n := by
        rw [List.length_drop]
        simp only [List.length_cons] at hn ⊢
        omega
      show (List.zipWith _ _ _ ++ applyBlocks block n (counter + 1) _).length = _
      rw [List.length_append, ih (counter + 1) hrest, List.length_zipWith, List.length_take, List.length_drop]
      omega

/-- Written twice over, the stream gives the input back: the turns fall on the same places. -/
theorem applyBlocks_twice {n : Nat} (counter : UInt64) {input : Bytes} (hn : input.length ≤ n) :
    applyBlocks block n counter (applyBlocks block n counter input) = input := by
  induction n generalizing counter input with
  | zero => exact (List.length_eq_zero_iff.mp (Nat.le_zero.mp hn)).symm
  | succ n ih =>
    cases input with
    | nil => rfl
    | cons x input =>
      have hblock := hpos counter
      have hlen := length_applyBlocks hpos counter hn
      obtain ⟨take, htake⟩ : ∃ t, t = min (block counter).length (x :: input).length := ⟨_, rfl⟩
      have htaken : ((x :: input).take take).length = take := by rw [List.length_take]; omega
      have hfirst : (List.zipWith (· ^^^ ·) ((x :: input).take take) (block counter)).length = take := by
        rw [List.length_zipWith, htaken]
        omega
      have hrest : ((x :: input).drop take).length ≤ n := by
        rw [List.length_drop]
        simp only [List.length_cons] at hn htake ⊢
        omega
      have hout : applyBlocks block (n + 1) counter (x :: input) =
          List.zipWith (· ^^^ ·) ((x :: input).take take) (block counter) ++
            applyBlocks block n (counter + 1) ((x :: input).drop take) := by
        rw [htake]
        rfl
      generalize hwritten : applyBlocks block (n + 1) counter (x :: input) = written at hlen hout
      have hne : written.isEmpty = false := by
        cases written with
        | nil => exact absurd hlen (by simp)
        | cons y written => rfl
      unfold applyBlocks
      rw [if_neg (by simp [hne]), hlen, ← htake]
      show List.zipWith _ (written.take take) _ ++ applyBlocks block n (counter + 1) (written.drop take) = _
      rw [hout, List.take_append_of_le_length (Nat.le_of_eq hfirst.symm), List.take_of_length_le (Nat.le_of_eq hfirst),
        zipWith_xor_cancel (by rw [htaken]; omega), List.drop_append_of_le_length (Nat.le_of_eq hfirst.symm),
        List.drop_of_length_le (Nat.le_of_eq hfirst), List.nil_append, ih (counter + 1) hrest, List.take_append_drop]

end Blocks

theorem length_streamBlock_pos (key : Key) (keyId : UInt32) (nonce aad : Bytes) (counter : UInt64) :
    0 < (streamBlock key keyId nonce aad counter).length := by
  unfold streamBlock
  rw [length_hmacSha256]
  decide

theorem length_applyHmacStream (key : Key) (keyId : UInt32) (nonce aad input : Bytes) :
    (applyHmacStream key keyId nonce aad input).length = input.length :=
  length_applyBlocks (length_streamBlock_pos key keyId nonce aad) 0 (Nat.le_refl _)

theorem applyHmacStream_twice (key : Key) (keyId : UInt32) (nonce aad input : Bytes) :
    applyHmacStream key keyId nonce aad (applyHmacStream key keyId nonce aad input) = input := by
  unfold applyHmacStream
  rw [length_applyBlocks (length_streamBlock_pos key keyId nonce aad) 0 (Nat.le_refl _)]
  exact applyBlocks_twice (length_streamBlock_pos key keyId nonce aad) 0 (Nat.le_refl _)

/-! ## What the calls do with a software key -/

namespace Crypto

/-- The key that the calls use: there is one for the id, and no provider stands before it. -/
structure Uses (c : Crypto) (keyId : UInt32) (key : Key) : Prop where
  provider : c.provider = none
  key : c.softwareKeys.lookup keyId = some key

theorem registerSoftwareKey_uses {c : Crypto} (hc : c.provider = none) (keyId : UInt32) {key : Bytes}
    (hkey : kSoftwareKeyMinLen ≤ key.length) :
    (c.registerSoftwareKey keyId (Buffer.mem key)).1 = SEDS_OK ∧
      Uses (c.registerSoftwareKey keyId (Buffer.mem key)).2 keyId (normalizeSoftwareKey key) := by
  unfold registerSoftwareKey
  rw [if_neg (by simp [Nat.not_lt.mpr hkey])]
  exact ⟨rfl, hc, AList.lookup_insert _⟩

variable {c : Crypto} {keyId : UInt32} {key : Key} {nonce aad : Buffer}

theorem cryptoSeal_eq (hc : c.Uses keyId key) (hnonce : nonce.missing = false) (haad : aad.missing = false)
    {plaintext : Buffer} (hplain : plaintext.missing = false) {out tagOut : Bytes} (hout : plaintext.len ≤ out.length)
    (htag : kSoftwareTagLen ≤ tagOut.length) (n₁ n₂ : Nat) :
    c.cryptoSeal ⟨keyId, nonce, aad, plaintext, .mem out, some n₁, .mem tagOut, some n₂⟩ =
      ⟨SEDS_OK, some (copyAt out 0 (applyHmacStream key keyId nonce.bytes aad.bytes plaintext.bytes)), some plaintext.len,
        some (copyAt tagOut 0 ((softwareTag key keyId nonce.bytes aad.bytes
          (applyHmacStream key keyId nonce.bytes aad.bytes plaintext.bytes)).take kSoftwareTagLen)), some kSoftwareTagLen⟩ := by
  have hroom : ¬((Buffer.mem out).len < plaintext.len ∨ (Buffer.mem tagOut).len < kSoftwareTagLen) := by
    simp only [Buffer.mem_len]
    omega
  unfold cryptoSeal
  simp only [hnonce, haad, hplain, Buffer.mem_missing, hc.provider, hc.key, Buffer.mem_data]
  rw [if_neg (by simp), if_neg hroom]

theorem cryptoOpen_eq (hc : c.Uses keyId key) (hnonce : nonce.missing = false) (haad : aad.missing = false)
    {ciphertext tag : Buffer} (hcipher : ciphertext.missing = false) (hmissing : tag.missing = false)
    (htag : tag.len = kSoftwareTagLen) {out : Bytes} (hout : ciphertext.len ≤ out.length) (n : Nat) :
    c.cryptoOpen ⟨keyId, nonce, aad, ciphertext, tag, .mem out, some n⟩ =
      if tag.bytes = (softwareTag key keyId nonce.bytes aad.bytes ciphertext.bytes).take kSoftwareTagLen then
        ⟨SEDS_OK, some (copyAt out 0 (applyHmacStream key keyId nonce.bytes aad.bytes ciphertext.bytes)), some ciphertext.len⟩
      else ⟨SEDS_HANDLER_ERROR, some out, some 0⟩ := by
  have hroom : ¬(Buffer.mem out).len < ciphertext.len := Nat.not_lt.mpr hout
  unfold cryptoOpen
  simp only [hnonce, haad, hcipher, hmissing, Buffer.mem_missing, hc.provider, hc.key, Buffer.mem_data]
  rw [if_neg (by simp), if_neg (not_not.mpr htag), if_neg hroom]
  by_cases heq : tag.bytes = (softwareTag key keyId nonce.bytes aad.bytes ciphertext.bytes).take kSoftwareTagLen
  · rw [if_pos heq, constantTimeEq_iff.mpr heq.symm]
    rfl
  · have hno : constantTimeEq ((softwareTag key keyId nonce.bytes aad.bytes ciphertext.bytes).take kSoftwareTagLen) tag.bytes =
        false := Bool.eq_false_iff.mpr fun h => heq (constantTimeEq_iff.mp h).symm
    rw [if_neg heq, hno]
    rfl

theorem badArg_ne_ok : SEDS_BAD_ARG ≠ SEDS_OK := by decide

theorem sizeMismatch_ne_ok : SEDS_SIZE_MISMATCH ≠ SEDS_OK := by decide

theorem handlerError_ne_ok : SEDS_HANDLER_ERROR ≠ SEDS_OK := by decide

/-- A call that fails on the tag says so, and leaves the buffer as it is. -/
theorem cryptoOpen_refuses {x : OpenArgs} (hc : c.Uses x.keyId key)
    (hargs : x.nonce.missing = false ∧ x.aad.missing = false ∧ x.ciphertext.missing = false ∧ x.tag.missing = false)
    (hlen : x.plaintextLenOut.isSome) (htag : x.tag.len = kSoftwareTagLen)
    (hne : x.tag.bytes ≠ (softwareTag key x.keyId x.nonce.bytes x.aad.bytes x.ciphertext.bytes).take kSoftwareTagLen) :
    (c.cryptoOpen x).rc ≠ SEDS_OK ∧ (c.cryptoOpen x).plaintext = x.plaintextOut.data ∧
      (x.plaintextOut.missing = false → (c.cryptoOpen x).plaintextLen = some 0) := by
  obtain ⟨keyId, nonce, aad, ciphertext, tag, out, lenOut⟩ := x
  obtain ⟨hnonce, haad, hcipher, hmissing⟩ := hargs
  obtain ⟨n, rfl⟩ := Option.isSome_iff_exists.mp hlen
  cases hnull : out.missing with
  | true =>
    unfold cryptoOpen
    rw [if_pos (by simp [hnull])]
    exact ⟨badArg_ne_ok, rfl, fun h => nomatch h⟩
  | false =>
    cases hdata : out.data with
    | none =>
      unfold cryptoOpen
      simp only [hnonce, haad, hcipher, hmissing, hnull, hc.provider, hc.key, hdata]
      rw [if_neg (by simp), if_neg (not_not.mpr htag)]
      exact ⟨sizeMismatch_ne_ok, rfl, fun _ => rfl⟩
    | some mem =>
      obtain rfl : out = .mem mem := by
        obtain ⟨data, len, hd⟩ := out
        obtain rfl : data = some mem := hdata
        obtain rfl : mem.length = len := hd mem rfl
        rfl
      by_cases hroom : ciphertext.len ≤ mem.length
      · rw [cryptoOpen_eq hc hnonce haad hcipher hmissing htag hroom, if_neg hne]
        exact ⟨handlerError_ne_ok, rfl, fun _ => rfl⟩
      · have hsmall : (Buffer.mem mem).len < ciphertext.len := Nat.lt_of_not_ge hroom
        unfold cryptoOpen
        simp only [hnonce, haad, hcipher, hmissing, hnull, hc.provider, hc.key, hdata]
        rw [if_neg (by simp), if_neg (not_not.mpr htag), if_pos hsmall]
        exact ⟨sizeMismatch_ne_ok, rfl, fun _ => rfl⟩

/-- A call that succeeds has found the expected tag. -/
theorem cryptoOpen_ok {x : OpenArgs} (hc : c.Uses x.keyId key) (hok : (c.cryptoOpen x).rc = SEDS_OK) :
    x.tag.bytes = (softwareTag key x.keyId x.nonce.bytes x.aad.bytes x.ciphertext.bytes).take kSoftwareTagLen := by
  unfold cryptoOpen at hok
  rw [hc.provider, hc.key] at hok
  dsimp only at hok
  split at hok
  · exact absurd hok badArg_ne_ok
  split at hok
  · exact absurd hok badArg_ne_ok
  split at hok
  · exact absurd hok sizeMismatch_ne_ok
  split at hok
  · exact absurd hok sizeMismatch_ne_ok
  split at hok
  · exact absurd hok handlerError_ne_ok
  · rename_i heq
    exact (constantTimeEq_iff.mp (by simpa using heq)).symm

theorem take_copyAt_zero (out src : Bytes) {n : Nat} (hn : src.length = n) : (copyAt out 0 src).take n = src := by
  have := take_copyAt out src 0 (Nat.zero_le _)
  rwa [Nat.zero_add, List.take_zero, List.nil_append, hn] at this

theorem length_tag (key : Key) (keyId : UInt32) (nonce aad ciphertext : Bytes) :
    ((softwareTag key keyId nonce aad ciphertext).take kSoftwareTagLen).length = kSoftwareTagLen := by
  rw [List.length_take, softwareTag, length_hmacSha256]
  rfl

/-- What a successful call has left with the caller: the plaintext under the keystream, and the tag of that. -/
theorem cryptoSeal_ok {x : SealArgs} (hc : c.Uses x.keyId key) (hok : (c.cryptoSeal x).rc = SEDS_OK) :
    (c.cryptoSeal x).sealedText = applyHmacStream key x.keyId x.nonce.bytes x.aad.bytes x.plaintext.bytes ∧
      (c.cryptoSeal x).sealedTag =
        (softwareTag key x.keyId x.nonce.bytes x.aad.bytes
          (applyHmacStream key x.keyId x.nonce.bytes x.aad.bytes x.plaintext.bytes)).take kSoftwareTagLen := by
  cases hplain : x.plaintext.missing with
  | true =>
    have hbad : (c.cryptoSeal x).rc = SEDS_BAD_ARG := by
      unfold cryptoSeal
      rw [if_pos (by simp [hplain])]
    exact absurd (hbad.symm.trans hok) badArg_ne_ok
  | false =>
    have hlen : (applyHmacStream key x.keyId x.nonce.bytes x.aad.bytes x.plaintext.bytes).length = x.plaintext.len :=
      (length_applyHmacStream _ _ _ _ _).trans (Buffer.length_bytes hplain)
    revert hok
    unfold cryptoSeal
    rw [hc.provider, hc.key]
    dsimp only
    split
    · exact fun hok => absurd hok badArg_ne_ok
    split
    · split
      · exact fun hok => absurd hok sizeMismatch_ne_ok
      · exact fun _ => ⟨take_copyAt_zero _ _ hlen, take_copyAt_zero _ _ (length_tag _ _ _ _ _)⟩
    · exact fun hok => absurd hok sizeMismatch_ne_ok

/-- **Opening undoes sealing**, over buffers of any size that suffices, and a tag that is not the expected one opens nothing. -/
theorem cryptoOpen_cryptoSeal {c c' : Crypto} {keyId : UInt32} {key : Key} (hc : c.Uses keyId key) (hc' : c'.Uses keyId key) :
    (∀ (nonce aad plaintext : Buffer) (out tagOut plainOut : Bytes) (n₁ n₂ n₃ : Nat), nonce.missing = false →
      aad.missing = false → plaintext.missing = false → plaintext.len ≤ out.length → kSoftwareTagLen ≤ tagOut.length →
      plaintext.len ≤ plainOut.length →
      let s := c.cryptoSeal ⟨keyId, nonce, aad, plaintext, .mem out, some n₁, .mem tagOut, some n₂⟩
      s.rc = SEDS_OK ∧ s.ciphertextLen = some plaintext.len ∧ s.tagLen = some kSoftwareTagLen ∧
        c'.cryptoOpen ⟨keyId, nonce, aad, .mem s.sealedText, .mem s.sealedTag, .mem plainOut, some n₃⟩ =
          ⟨SEDS_OK, some (plaintext.bytes ++ plainOut.drop plaintext.len), some plaintext.len⟩) ∧
      ∀ x : OpenArgs, x.keyId = keyId → x.nonce.missing = false → x.aad.missing = false → x.ciphertext.missing = false →
        x.tag.missing = false → x.plaintextLenOut.isSome → x.tag.len = kSoftwareTagLen →
        x.tag.bytes ≠ (softwareTag key keyId x.nonce.bytes x.aad.bytes x.ciphertext.bytes).take kSoftwareTagLen →
        (c'.cryptoOpen x).rc ≠ SEDS_OK ∧ (c'.cryptoOpen x).plaintext = x.plaintextOut.data ∧
          (x.plaintextOut.missing = false → (c'.cryptoOpen x).plaintextLen = some 0) := by
  constructor
  · intro nonce aad plaintext out tagOut plainOut n₁ n₂ n₃ hnonce haad hplain hout htag hroom s
    have hs : s = _ := cryptoSeal_eq hc hnonce haad hplain hout htag n₁ n₂
    have hok : s.rc = SEDS_OK := congrArg SealOut.rc hs
    obtain ⟨htext, htagged⟩ := cryptoSeal_ok hc hok
    have hlen : (applyHmacStream key keyId nonce.bytes aad.bytes plaintext.bytes).length = plaintext.len :=
      (length_applyHmacStream _ _ _ _ _).trans (Buffer.length_bytes hplain)
    have htext' : s.sealedText = applyHmacStream key keyId nonce.bytes aad.bytes plaintext.bytes := htext
    have hfits : (Buffer.mem s.sealedText).len ≤ plainOut.length := by
      rw [Buffer.mem_len, htext', hlen]
      exact hroom
    have htaglen : (Buffer.mem s.sealedTag).len = kSoftwareTagLen := by
      rw [show s.sealedTag = _ from htagged]
      exact length_tag _ _ _ _ _
    have hopen := cryptoOpen_eq hc' hnonce haad (Buffer.mem_missing s.sealedText) (Buffer.mem_missing s.sealedTag) htaglen hfits n₃
    rw [if_pos (by rw [Buffer.mem_bytes, Buffer.mem_bytes, htext']; exact htagged), Buffer.mem_bytes, Buffer.mem_len, htext',
      applyHmacStream_twice, hlen] at hopen
    refine ⟨hok, congrArg SealOut.ciphertextLen hs, congrArg SealOut.tagLen hs, ?_⟩
    rw [htext', hopen, copyAt, List.take_zero, List.nil_append, Nat.zero_add, Buffer.length_bytes hplain]
  · rintro x rfl hnonce haad hcipher hmissing hlen htag hne
    exact cryptoOpen_refuses hc' ⟨hnonce, haad, hcipher, hmissing⟩ hlen htag hne

/-- One key, registered under the id 1. -/
def one : Crypto := ⟨none, AList.singleton 1 ⟨List.replicate 32 7, rfl⟩⟩

theorem one_uses : one.Uses 1 ⟨List.replicate 32 7, rfl⟩ := ⟨rfl, rfl⟩

/-- Three bytes, into buffers of four, sixteen and five bytes; and a tag of zeros. -/
theorem cryptoOpen_cryptoSeal_three :
    one.cryptoOpen ⟨1, .mem [9], .mem [],
        .mem (one.cryptoSeal ⟨1, .mem [9], .mem [], .mem [1, 2, 3], .mem [0, 0, 0, 0], some 0,
          .mem (List.replicate 16 0), some 0⟩).sealedText,
        .mem (one.cryptoSeal ⟨1, .mem [9], .mem [], .mem [1, 2, 3], .mem [0, 0, 0, 0], some 0,
          .mem (List.replicate 16 0), some 0⟩).sealedTag,
        .mem [5, 5, 5, 5, 5], some 0⟩ = ⟨SEDS_OK, some [1, 2, 3, 5, 5], some 3⟩ ∧
      (one.cryptoOpen ⟨1, .mem [9], .mem [], .mem [1, 2, 3], .mem (List.replicate 16 0), .mem [5, 5, 5, 5, 5], some 8⟩).rc ≠
        SEDS_OK :=
  ⟨((cryptoOpen_cryptoSeal one_uses one_uses).1 (.mem [9]) (.mem []) (.mem [1, 2, 3]) [0, 0, 0, 0] (List.replicate 16 0)
      [5, 5, 5, 5, 5] 0 0 0 rfl rfl rfl (by decide) (by decide) (by decide)).2.2.2,
    ((cryptoOpen_cryptoSeal one_uses one_uses).2
      ⟨1, .mem [9], .mem [], .mem [1, 2, 3], .mem (List.replicate 16 0), .mem [5, 5, 5, 5, 5], some 8⟩
      rfl rfl rfl rfl rfl rfl rfl (by decide +kernel)).1⟩

/-! ## What the tag binds -/

/-- The message under the tag. -/
def tagMessage (keyId : UInt32) (nonce aad ciphertext : Bytes) : Bytes :=
  [ascii "SEDS-HMAC-TAG", appendLe32 keyId, nonce, aad, ciphertext].flatten

/-- The front half of HMAC, as a function of key and message. -/
def mac (key : Key) (m : Bytes) : Bytes := (Lib.hmac Lib.Fips.hash 64 key.val m).take kSoftwareTagLen

/-- The two messages are not a collision. -/
def NoCollision (key : Key) (m m' : Bytes) : Prop := mac key m = mac key m' → m = m'

theorem take_softwareTag (key : Key) (keyId : UInt32) (nonce aad ciphertext : Bytes) :
    (softwareTag key keyId nonce aad ciphertext).take kSoftwareTagLen = mac key (tagMessage keyId nonce aad ciphertext) := by
  rw [softwareTag, hmacSha256_eq]
  rfl

theorem tagMessage_inj {keyId : UInt32} {nonce aad ciphertext nonce' aad' ciphertext' : Bytes} :
    tagMessage keyId nonce aad ciphertext = tagMessage keyId nonce' aad' ciphertext' ↔
      nonce ++ aad ++ ciphertext = nonce' ++ aad' ++ ciphertext' := by
  unfold tagMessage
  simp only [List.flatten_cons, List.flatten_nil, List.append_nil, List.append_assoc, List.append_cancel_left_eq]

/-- The three parts of an opened message are those of a sealed one. -/
def SameParts (y : OpenArgs) (x : SealArgs) (s : SealOut) : Prop :=
  y.nonce.bytes = x.nonce.bytes ∧ y.aad.bytes = x.aad.bytes ∧ y.ciphertext.bytes = s.sealedText

/-- **A tag binds the bytes of nonce, associated data and ciphertext in their order**, if no two messages share it; it binds the
    parts where their lengths are known. -/
theorem tag_binds {c c' : Crypto} {key : Key} {x : SealArgs} {y : OpenArgs} (hc : c.Uses x.keyId key) (hid : y.keyId = x.keyId)
    (hc' : c'.Uses x.keyId key) (hseal : (c.cryptoSeal x).rc = SEDS_OK) (htag : y.tag.bytes = (c.cryptoSeal x).sealedTag)
    (hmac : NoCollision key (tagMessage x.keyId y.nonce.bytes y.aad.bytes y.ciphertext.bytes)
      (tagMessage x.keyId x.nonce.bytes x.aad.bytes (c.cryptoSeal x).sealedText))
    (hopen : (c'.cryptoOpen y).rc = SEDS_OK) :
    y.nonce.bytes ++ y.aad.bytes ++ y.ciphertext.bytes =
        x.nonce.bytes ++ x.aad.bytes ++ (c.cryptoSeal x).sealedText ∧
      (SameParts y x (c.cryptoSeal x) ↔
        y.nonce.bytes.length = x.nonce.bytes.length ∧ y.aad.bytes.length = x.aad.bytes.length) := by
  rw [← hid] at hc'
  have hgot := cryptoOpen_ok hc' hopen
  obtain ⟨htext, hmade⟩ := cryptoSeal_ok hc hseal
  rw [← htext] at hmade
  rw [htag, hmade, hid, take_softwareTag, take_softwareTag] at hgot
  have hall := tagMessage_inj.mp (hmac hgot.symm)
  refine ⟨hall, fun h => ⟨congrArg List.length h.1, congrArg List.length h.2.1⟩, fun ⟨hn, ha⟩ => ?_⟩
  have hfront := List.append_inj hall (by rw [List.length_append, List.length_append, hn, ha])
  have hparts := List.append_inj hfront.1 hn
  exact ⟨hparts.1, hparts.2, hfront.2⟩

/-- One byte, sealed under the nonce `1` without associated data. -/
def sealedByte : SealArgs := ⟨1, .mem [1], .mem [], .mem [5], .mem [0], some 0, .mem (List.replicate 16 0), some 0⟩

theorem sealedByte_rc : (one.cryptoSeal sealedByte).rc = SEDS_OK :=
  congrArg SealOut.rc (cryptoSeal_eq one_uses rfl rfl rfl (by decide) (by decide) 0 0)

theorem length_sealedByte : (one.cryptoSeal sealedByte).sealedText.length = 1 := by
  rw [(cryptoSeal_ok (x := sealedByte) one_uses sealedByte_rc).1, length_applyHmacStream]
  rfl

/-- The byte is opened with any nonce and associated data that come to `1`. -/
theorem opens_sealedByte {nonce aad : Bytes} (h : nonce ++ aad = [1]) :
    (one.cryptoOpen ⟨1, .mem nonce, .mem aad, .mem (one.cryptoSeal sealedByte).sealedText,
      .mem (one.cryptoSeal sealedByte).sealedTag, .mem [0], some 0⟩).rc = SEDS_OK := by
  obtain ⟨htext, htag⟩ := cryptoSeal_ok (x := sealedByte) one_uses sealedByte_rc
  have htextlen := length_sealedByte
  rw [← htext] at htag
  generalize one.cryptoSeal sealedByte = s at htag htextlen
  have hmade : s.sealedTag = mac ⟨List.replicate 32 7, rfl⟩ (tagMessage 1 nonce aad s.sealedText) := by
    refine htag.trans ((take_softwareTag _ _ _ _ _).trans (congrArg _ (tagMessage_inj.mpr ?_)))
    rw [h]
    rfl
  have hlen : (Buffer.mem s.sealedTag).len = kSoftwareTagLen := by
    rw [Buffer.mem_len, htag]
    exact length_tag _ _ _ _ _
  have hfits : (Buffer.mem s.sealedText).len ≤ ([0] : Bytes).length := by
    rw [Buffer.mem_len, htextlen]
    rfl
  have hopen := cryptoOpen_eq one_uses (Buffer.mem_missing nonce) (Buffer.mem_missing aad) (Buffer.mem_missing s.sealedText)
    (Buffer.mem_missing s.sealedTag) hlen hfits 0
  have hfound : (Buffer.mem s.sealedTag).bytes = (softwareTag ⟨List.replicate 32 7, rfl⟩ 1 (Buffer.mem nonce).bytes
      (Buffer.mem aad).bytes (Buffer.mem s.sealedText).bytes).take kSoftwareTagLen := by
    rw [Buffer.mem_bytes, Buffer.mem_bytes, Buffer.mem_bytes, Buffer.mem_bytes, take_softwareTag]
    exact hmade
  rw [if_pos hfound] at hopen
  exact congrArg OpenOut.rc hopen

theorem tag_binds_sealedByte :
    SameParts ⟨1, .mem [1], .mem [], .mem (one.cryptoSeal sealedByte).sealedText, .mem (one.cryptoSeal sealedByte).sealedTag,
      .mem [0], some 0⟩ sealedByte (one.cryptoSeal sealedByte) :=
  (tag_binds (x := sealedByte) one_uses rfl one_uses sealedByte_rc rfl (fun _ => rfl) (opens_sealedByte rfl)).2.mpr ⟨rfl, rfl⟩

/-- The byte of the nonce is taken as associated data, under the same tag. -/
theorem tag_binds_not_parts :
    (one.cryptoSeal sealedByte).rc = SEDS_OK ∧
      NoCollision ⟨List.replicate 32 7, rfl⟩ (tagMessage 1 [] [1] (one.cryptoSeal sealedByte).sealedText)
        (tagMessage 1 [1] [] (one.cryptoSeal sealedByte).sealedText) ∧
      (one.cryptoOpen ⟨1, .mem [], .mem [1], .mem (one.cryptoSeal sealedByte).sealedText,
        .mem (one.cryptoSeal sealedByte).sealedTag, .mem [0], some 0⟩).rc = SEDS_OK ∧
      ¬SameParts ⟨1, .mem [], .mem [1], .mem (one.cryptoSeal sealedByte).sealedText,
        .mem (one.cryptoSeal sealedByte).sealedTag, .mem [0], some 0⟩ sealedByte (one.cryptoSeal sealedByte) :=
  ⟨sealedByte_rc, fun _ => tagMessage_inj.mpr rfl, opens_sealedByte rfl, fun h => nomatch h.1⟩

end Crypto

end SedsNet
