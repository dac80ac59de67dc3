import SedsNet.Crypto
import SedsNet.P2pCodec

/-!
# Managed credentials

A managed credential of `src/upstream_api_compat.cpp` is eighty bytes: a magic, six packed fields, and an HMAC over both under
the root key. Issue and verify have their own offsets. Here they are held against the one layout, in both directions, so that a
credential that is accepted is the one that is issued for what it says.
-/

set_option autoImplicit false

namespace SedsNet

def kManagedCredentialLen : Nat := 80
def kManagedCredentialBodyLen : Nat := 48

def kManagedCredentialMagic : Bytes := ascii "SEDSCR1" ++ [0]

/-- `SedsManagedCredentialInfo`. -/
structure ManagedCredentialInfo where
  subjectId : UInt64
  keyId : UInt32
  epoch : UInt64
  notBeforeMs : UInt64
  notAfterMs : UInt64
  permissions : UInt32
  deriving DecidableEq

def ManagedCredentialInfo.zero : ManagedCredentialInfo := ⟨0, 0, 0, 0, 0, 0⟩

def managedCredentialTag (key : Key) (body : Bytes) : Bytes := hmacSha256 key [ascii "SEDS-MASTER-CREDENTIAL", body]

/-- The result code, and the caller's memory after the call. -/
structure IssueOut where
  rc : SedsResult
  out : Option Bytes
  outLen : Option Nat
  deriving DecidableEq

/-- The credential the caller has after the call. -/
def IssueOut.credential (s : IssueOut) : Bytes := (s.out.getD []).take (s.outLen.getD 0)

/-- `seds_crypto_issue_managed_credential`. -/
def cryptoIssueManagedCredential (rootKey : Buffer) (info : ManagedCredentialInfo) (out : Buffer) (outLen : Option Nat) : IssueOut :=
  if rootKey.data.isNone || rootKey.len < kSoftwareKeyMinLen || out.data.isNone || outLen.isNone then
    ⟨SEDS_BAD_ARG, out.data, outLen⟩
  else if out.len < kManagedCredentialLen then ⟨SEDS_SIZE_MISMATCH, out.data, some 0⟩
  else
    let out := copyAt out.bytes 0 kManagedCredentialMagic
    let out := copyAt out 8 (appendLe64 info.subjectId)
    let out := copyAt out 16 (appendLe32 info.keyId)
    let out := copyAt out 20 (appendLe64 info.epoch)
    let out := copyAt out 28 (appendLe64 info.notBeforeMs)
    let out := copyAt out 36 (appendLe64 info.notAfterMs)
    let out := copyAt out 44 (appendLe32 info.permissions)
    let key := normalizeSoftwareKey rootKey.bytes
    let tag := managedCredentialTag key (out.take kManagedCredentialBodyLen)
    ⟨SEDS_OK, some (copyAt out kManagedCredentialBodyLen tag), some kManagedCredentialLen⟩

/-- `seds_crypto_verify_managed_credential`, with `*out_info` before and after it. -/
def cryptoVerifyManagedCredential (rootKey credential : Buffer) (nowMs : UInt64) (outInfo : Option ManagedCredentialInfo) :
    SedsResult × Option ManagedCredentialInfo :=
  if rootKey.data.isNone || rootKey.len < kSoftwareKeyMinLen || credential.data.isNone || outInfo.isNone ||
      credential.len != kManagedCredentialLen then (SEDS_BAD_ARG, outInfo)
  else
    let b := credential.bytes
    if !kManagedCredentialMagic.isPrefixOf b then (SEDS_BAD_ARG, some .zero)
    else
      let key := normalizeSoftwareKey rootKey.bytes
      let tag := managedCredentialTag key (b.take kManagedCredentialBodyLen)
      if !constantTimeEq tag ((b.drop kManagedCredentialBodyLen).take 32) then (SEDS_HANDLER_ERROR, some .zero)
      else
        let notBeforeMs := loadLe64 b 28
        let notAfterMs := loadLe64 b 36
        if nowMs < notBeforeMs ∨ nowMs > notAfterMs then (SEDS_HANDLER_ERROR, some .zero)
        else
          (SEDS_OK, some ⟨loadLe64 b 8, loadLe32 b 16, loadLe64 b 20, notBeforeMs, notAfterMs, loadLe32 b 44⟩)

/-! ## The layout -/

namespace ManagedCredentialInfo

/-- What the tag is over. -/
def body (info : ManagedCredentialInfo) : Bytes :=
  kManagedCredentialMagic ++ appendLe64 info.subjectId ++ appendLe32 info.keyId ++ appendLe64 info.epoch ++
    appendLe64 info.notBeforeMs ++ appendLe64 info.notAfterMs ++ appendLe32 info.permissions

/-- The credential of these fields under a key. -/
def credential (key : Key) (info : ManagedCredentialInfo) : Bytes := info.body ++ managedCredentialTag key info.body

/-- The fields at their offsets. -/
def load (b : Bytes) : ManagedCredentialInfo :=
  ⟨loadLe64 b 8, loadLe32 b 16, loadLe64 b 20, loadLe64 b 28, loadLe64 b 36, loadLe32 b 44⟩

theorem length_body (info : ManagedCredentialInfo) : info.body.length = kManagedCredentialBodyLen := rfl

theorem length_credential (key : Key) (info : ManagedCredentialInfo) : (info.credential key).length = kManagedCredentialLen := rfl

/-- What is packed is found at the offsets. -/
theorem load_body (info : ManagedCredentialInfo) (rest : Bytes) : load (info.body ++ rest) = info := by
  have hall : Continues (info.body ++ rest) 0 info.body rest := List.drop_zero
  obtain ⟨hall, hpermissions⟩ := hall.split
  obtain ⟨hall, hafter⟩ := hall.split
  obtain ⟨hall, hbefore⟩ := hall.split
  obtain ⟨hall, hepoch⟩ := hall.split
  obtain ⟨hall, hkey⟩ := hall.split
  obtain ⟨-, hsubject⟩ := hall.split
  unfold load
  rw [loadLe64_append (i := 8) _ hsubject, loadLe32_append (i := 16) _ hkey, loadLe64_append (i := 20) _ hepoch,
    loadLe64_append (i := 28) _ hbefore, loadLe64_append (i := 36) _ hafter, loadLe32_append (i := 44) _ hpermissions]

/-- What is found at the offsets is packed into the same bytes. -/
theorem body_load {b : Bytes} (hlen : kManagedCredentialBodyLen ≤ b.length) (hmagic : kManagedCredentialMagic.isPrefixOf b = true) :
    (load b).body = b.take kManagedCredentialBodyLen := by
  have hfirst : b.take 8 = kManagedCredentialMagic := (List.prefix_iff_eq_take.mp (List.isPrefixOf_iff_prefix.mp hmagic)).symm
  unfold kManagedCredentialBodyLen at hlen ⊢
  unfold body load
  dsimp only
  rw [appendLe64_load (by omega), appendLe32_load (by omega), appendLe64_load (by omega), appendLe64_load (by omega),
    appendLe64_load (by omega), appendLe32_load (by omega), ← hfirst]
  rw [show 48 = 8 + 8 + 4 + 8 + 8 + 8 + 4 from rfl]
  simp only [List.take_add, List.drop_take]

end ManagedCredentialInfo

/-! ## Issue and verify -/

/-- A piece that is copied behind what is already in place. -/
theorem copyAt_append {l rest src : Bytes} {k : Nat} (hk : l.length = k) :
    copyAt (l ++ rest) k src = l ++ src ++ rest.drop src.length := by
  unfold copyAt
  rw [← hk, List.take_left, ← List.drop_drop, List.drop_left]

/-- The checks of the arguments that both calls make of the key. -/
theorem rootKey_usable {root : Bytes} (hroot : kSoftwareKeyMinLen ≤ root.length) :
    ((Buffer.mem root).data.isNone || decide ((Buffer.mem root).len < kSoftwareKeyMinLen)) = false := by
  rw [Buffer.mem_data, Buffer.mem_len, decide_eq_false (Nat.not_lt.mpr hroot)]
  rfl

theorem cryptoIssueManagedCredential_ok {root : Bytes} (hroot : kSoftwareKeyMinLen ≤ root.length) (info : ManagedCredentialInfo)
    {out : Bytes} (hout : kManagedCredentialLen ≤ out.length) (outLen : Nat) :
    cryptoIssueManagedCredential (.mem root) info (.mem out) (some outLen) =
      ⟨SEDS_OK, some (info.credential (normalizeSoftwareKey root) ++ out.drop kManagedCredentialLen), some kManagedCredentialLen⟩ := by
  have hfirst : copyAt out 0 kManagedCredentialMagic = kManagedCredentialMagic ++ out.drop 8 := rfl
  have hbody : kManagedCredentialMagic ++ appendLe64 info.subjectId ++ appendLe32 info.keyId ++ appendLe64 info.epoch ++
      appendLe64 info.notBeforeMs ++ appendLe64 info.notAfterMs ++ appendLe32 info.permissions = info.body := rfl
  unfold cryptoIssueManagedCredential
  rw [rootKey_usable hroot, if_neg (by exact Bool.false_ne_true), Buffer.mem_len, if_neg (Nat.not_lt.mpr hout)]
  dsimp only [Buffer.mem_bytes]
  rw [hfirst, copyAt_append (k := 8) rfl, copyAt_append (k := 16) rfl, copyAt_append (k := 20) rfl, copyAt_append (k := 28) rfl,
    copyAt_append (k := 36) rfl, copyAt_append (k := 44) rfl, hbody, List.take_left' info.length_body,
    copyAt_append info.length_body]
  simp only [List.drop_drop]
  rfl

/-- Bytes whose magic and tag are right are the credential of the fields in them. -/
theorem credential_load {key : Key} {b : Bytes} (hlen : b.length = kManagedCredentialLen)
    (hmagic : kManagedCredentialMagic.isPrefixOf b = true)
    (htag : managedCredentialTag key (b.take kManagedCredentialBodyLen) = (b.drop kManagedCredentialBodyLen).take 32) :
    (ManagedCredentialInfo.load b).credential key = b := by
  have hbody := ManagedCredentialInfo.body_load (b := b) (by rw [hlen]; decide) hmagic
  have hrest : (b.drop kManagedCredentialBodyLen).take 32 = b.drop kManagedCredentialBodyLen := by
    apply List.take_of_length_le
    rw [List.length_drop, hlen]
    decide
  unfold ManagedCredentialInfo.credential
  rw [hbody, htag, hrest, List.take_append_drop]

/-- A call that returns SEDS_OK was given the credential of what it returns, in time. -/
theorem cryptoVerifyManagedCredential_ok {root b : Bytes} {nowMs : UInt64} {outInfo : Option ManagedCredentialInfo}
    (hok : (cryptoVerifyManagedCredential (.mem root) (.mem b) nowMs outInfo).1 = SEDS_OK) :
    ∃ info : ManagedCredentialInfo, (cryptoVerifyManagedCredential (.mem root) (.mem b) nowMs outInfo).2 = some info ∧
      kSoftwareKeyMinLen ≤ root.length ∧ info.credential (normalizeSoftwareKey root) = b := by
  unfold cryptoVerifyManagedCredential at hok ⊢
  split at hok
  · exact absurd hok Crypto.badArg_ne_ok
  rename_i hargs
  rw [if_neg hargs]
  dsimp only [Buffer.mem_bytes] at hok ⊢
  split at hok
  · exact absurd hok Crypto.badArg_ne_ok
  rename_i hmagic
  rw [if_neg hmagic]
  split at hok
  · exact absurd hok Crypto.handlerError_ne_ok
  rename_i htag
  rw [if_neg htag]
  split at hok
  · exact absurd hok Crypto.handlerError_ne_ok
  rename_i htime
  rw [if_neg htime]
  simp only [Buffer.mem_data, Buffer.mem_len, Bool.or_eq_true, Option.isNone_some, bne_iff_ne, not_or, Bool.false_eq_true,
    not_false_eq_true, true_and, not_not, and_true] at hargs
  obtain ⟨⟨hroot, -⟩, hlen⟩ := hargs
  have hroot : kSoftwareKeyMinLen ≤ root.length := Nat.not_lt.mp fun hlt => hroot (decide_eq_true hlt)
  rw [Bool.not_eq_true, Bool.not_eq_false'] at hmagic htag
  exact ⟨.load b, rfl, hroot, credential_load hlen hmagic (constantTimeEq_iff.mp htag)⟩

/-- A credential is accepted in its time only. -/
theorem cryptoVerifyManagedCredential_credential {root : Bytes} (hroot : kSoftwareKeyMinLen ≤ root.length)
    (info : ManagedCredentialInfo) (nowMs : UInt64) (outInfo : ManagedCredentialInfo) :
    cryptoVerifyManagedCredential (.mem root) (.mem (info.credential (normalizeSoftwareKey root))) nowMs (some outInfo) =
      if info.notBeforeMs ≤ nowMs ∧ nowMs ≤ info.notAfterMs then (SEDS_OK, some info) else (SEDS_HANDLER_ERROR, some .zero) := by
  have hlength : (Buffer.mem (info.credential (normalizeSoftwareKey root))).len = kManagedCredentialLen := info.length_credential _
  have hmagic : kManagedCredentialMagic.isPrefixOf (info.credential (normalizeSoftwareKey root)) = true := by
    apply List.isPrefixOf_iff_prefix.mpr
    unfold ManagedCredentialInfo.credential ManagedCredentialInfo.body
    simp only [List.append_assoc]
    exact List.prefix_append _ _
  have hbody : (info.credential (normalizeSoftwareKey root)).take kManagedCredentialBodyLen = info.body :=
    List.take_left' info.length_body
  have htag : ((info.credential (normalizeSoftwareKey root)).drop kManagedCredentialBodyLen).take 32 =
      managedCredentialTag (normalizeSoftwareKey root) info.body := by
    unfold ManagedCredentialInfo.credential
    rw [List.drop_left' info.length_body]
    exact List.take_of_length_le (Nat.le_of_eq (length_hmacSha256 _ _))
  have hload : ManagedCredentialInfo.load (info.credential (normalizeSoftwareKey root)) = info := info.load_body _
  generalize info.credential (normalizeSoftwareKey root) = b at hlength hmagic hbody htag hload ⊢
  unfold cryptoVerifyManagedCredential
  rw [rootKey_usable hroot, hlength, if_neg (by exact Bool.false_ne_true)]
  dsimp only [Buffer.mem_bytes]
  rw [hmagic, hbody, htag, constantTimeEq_iff.mpr rfl, if_neg (by exact Bool.false_ne_true), if_neg (by exact Bool.false_ne_true)]
  have hafter : loadLe64 b 28 = info.notBeforeMs ∧ loadLe64 b 36 = info.notAfterMs := by
    rw [← hload]
    exact ⟨rfl, rfl⟩
  rw [hafter.1, hafter.2]
  by_cases htime : info.notBeforeMs ≤ nowMs ∧ nowMs ≤ info.notAfterMs
  · rw [if_pos htime, if_neg (not_or.mpr ⟨UInt64.not_lt.mpr htime.1, UInt64.not_lt.mpr htime.2⟩)]
    rw [← hload]
    rfl
  · rw [if_neg htime, if_pos]
    rw [not_and_or, UInt64.not_le, UInt64.not_le] at htime
    exact htime

/-- **A credential that is issued is accepted in its time, with its fields, and what is accepted was issued.** -/
theorem managedCredential_exact {root : Bytes} (hroot : 16 ≤ root.length) :
    (∀ (info outInfo : ManagedCredentialInfo) (out : Bytes) (outLen : Nat) (nowMs : UInt64), 80 ≤ out.length →
      (cryptoIssueManagedCredential (.mem root) info (.mem out) (some outLen)).rc = SEDS_OK ∧
      (cryptoVerifyManagedCredential (.mem root)
          (.mem (cryptoIssueManagedCredential (.mem root) info (.mem out) (some outLen)).credential) nowMs (some outInfo) =
        if info.notBeforeMs ≤ nowMs ∧ nowMs ≤ info.notAfterMs then (SEDS_OK, some info) else (SEDS_HANDLER_ERROR, some .zero))) ∧
    ∀ (b : Bytes) (nowMs : UInt64) (outInfo : ManagedCredentialInfo), b.length = 80 →
      (cryptoVerifyManagedCredential (.mem root) (.mem b) nowMs (some outInfo)).1 = SEDS_OK →
      ∃ info : ManagedCredentialInfo, (cryptoVerifyManagedCredential (.mem root) (.mem b) nowMs (some outInfo)).2 = some info ∧
        ∀ (out : Bytes) (outLen : Nat), 80 ≤ out.length →
          (cryptoIssueManagedCredential (.mem root) info (.mem out) (some outLen)).credential = b := by
  have hissued : ∀ (info : ManagedCredentialInfo) (out : Bytes) (outLen : Nat), 80 ≤ out.length →
      (cryptoIssueManagedCredential (.mem root) info (.mem out) (some outLen)).credential =
        info.credential (normalizeSoftwareKey root) := by
    intro info out outLen hout
    rw [cryptoIssueManagedCredential_ok hroot info hout]
    exact List.take_left' (info.length_credential _)
  constructor
  · intro info outInfo out outLen nowMs hout
    rw [hissued info out outLen hout, cryptoVerifyManagedCredential_credential hroot, cryptoIssueManagedCredential_ok hroot info hout]
    exact ⟨rfl, rfl⟩
  · intro b nowMs outInfo hlen hok
    obtain ⟨info, hinfo, -, hcredential⟩ := cryptoVerifyManagedCredential_ok hok
    refine ⟨info, hinfo, fun out outLen hout => ?_⟩
    rw [hissued info out outLen hout, hcredential]

/-- Sixteen zeros as the root key, a credential for the times 10 to 20, and the time 15. -/
theorem managedCredential_exact_inTime :
    cryptoVerifyManagedCredential (.mem (List.replicate 16 0))
      (.mem (cryptoIssueManagedCredential (.mem (List.replicate 16 0)) ⟨7, 1, 2, 10, 20, 3⟩ (.mem (List.replicate 80 0)) (some 0)).credential)
      15 (some .zero) = (SEDS_OK, some ⟨7, 1, 2, 10, 20, 3⟩) := by
  obtain ⟨-, hverified⟩ := (managedCredential_exact (show 16 ≤ (List.replicate 16 0).length by decide)).1 ⟨7, 1, 2, 10, 20, 3⟩ .zero
    (List.replicate 80 0) 0 15 (by decide)
  rw [hverified, if_pos (by decide)]

end SedsNet
