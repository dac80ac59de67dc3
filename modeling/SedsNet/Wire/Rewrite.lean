import SedsNet.Lib.Local
import SedsNet.Wire.RoundTrip
import SedsNet.Tables

/-!
# Rewriting a reliable header

`rewrite_reliable_header` of `src/serialize.cpp` puts nine bytes where the header starts: the flags and two 32-bit numbers.
That is the layout of a full header. A compact one is as long as its flags and its numbers make it, so the same nine bytes
end elsewhere in the frame. `rewrite_only_header` says for which frames the header alone changes.
-/

set_option autoImplicit false

namespace SedsNet

open Lib

/-- `memcpy(bytes + off, new)`. -/
def overwrite (b : Bytes) (off : Nat) (new : Bytes) : Bytes := b.take off ++ new ++ b.drop (off + new.length)

/-- `rewrite_reliable_header`, with the buffer it leaves behind. -/
def rewriteReliableHeader (S : Schema) (b : Bytes) (flags : UInt8) (seq ack : UInt32) : Bool × Bytes :=
  match reliableHeaderOffset S b with
  | none => (false, b)
  | some off =>
    if b.length < off + kReliableHeaderBytes + kCrcBytes then (false, b)
    else
      let b := overwrite b off [flags]
      let b := overwrite b (off + 1) (appendLe32 seq)
      let b := overwrite b (off + 5) (appendLe32 ack)
      let crc := crc32Bytes (b.take (b.length - kCrcBytes))
      (true, overwrite b (b.length - kCrcBytes) (appendLe32 crc))

/-- What `deserialize_packet` takes the payload to be, of the bytes that are left for it. -/
def decodePayload (Z : Codec) (flags : UInt8) (size : UInt64) (data : Bytes) : Option Bytes :=
  let payload := maybeDecompress Z data size.toNat (flags &&& 0x01 != 0)
  if payload.length = size.toNat then some payload else none

/-- The payload of a peeked frame, whether or not its header is ACK-only. -/
def framePayload (S : Schema) (Z : Codec) (b : Bytes) : Option Bytes :=
  match (Read.peekFrameInfo S Z b false).value 0, (Read.statedSize b).value 0 with
  | some (f, cur), some (size, _) =>
    let start := payloadStart b f cur
    decodePayload Z (b.getD 0 0) size ((b.drop start).take (remaining (b.length - kCrcBytes) start))
  | _, _ => none

/-! ## The bytes after the rewrite -/

section

variable {S : Schema} {Z : Codec} {b : Bytes} {off : Nat}

theorem length_overwrite {new : Bytes} (h : off + new.length ≤ b.length) : (overwrite b off new).length = b.length := by
  unfold overwrite
  rw [List.length_append, List.length_append, List.length_take_of_le (by omega), List.length_drop]
  omega

/-- Two stretches that follow each other are one. -/
theorem overwrite_overwrite {new next : Bytes} (h : off ≤ b.length) :
    overwrite (overwrite b off new) (off + new.length) next = overwrite b off (new ++ next) := by
  have hfront : (b.take off ++ new).length = off + new.length := by
    rw [List.length_append, List.length_take_of_le h]
  unfold overwrite
  rw [← hfront, List.take_left, ← List.drop_drop, List.drop_left, List.drop_drop, List.length_append, List.length_take_of_le h, List.length_append,
    List.append_assoc (b.take off), Nat.add_assoc]

/-- The last bytes of a buffer are replaced. -/
theorem overwrite_end {new : Bytes} (h : new.length ≤ b.length) :
    overwrite b (b.length - new.length) new = b.take (b.length - new.length) ++ new := by
  unfold overwrite
  rw [List.drop_eq_nil_of_le (by omega), List.append_nil]

/-- The frame with nine other bytes at the offset, without the trailer. -/
def rewrittenBody (b : Bytes) (off : Nat) (flags : UInt8) (seq ack : UInt32) : Bytes :=
  b.take off ++ (flags :: (appendLe32 seq ++ appendLe32 ack)) ++ (b.take (b.length - kCrcBytes)).drop (off + kReliableHeaderBytes)

theorem rewriteReliableHeader_eq (hoff : reliableHeaderOffset S b = some off) (flags : UInt8) (seq ack : UInt32) :
    rewriteReliableHeader S b flags seq ack =
      if b.length < off + kReliableHeaderBytes + kCrcBytes then (false, b)
      else (true, withCrc (rewrittenBody b off flags seq ack)) := by
  unfold rewriteReliableHeader
  rw [hoff]
  dsimp only
  by_cases hshort : b.length < off + kReliableHeaderBytes + kCrcBytes
  · rw [if_pos hshort, if_pos hshort]
  · rw [if_neg hshort, if_neg hshort]
    unfold kReliableHeaderBytes kCrcBytes at hshort
    have hheader : overwrite (overwrite (overwrite b off [flags]) (off + 1) (appendLe32 seq)) (off + 5) (appendLe32 ack) =
        overwrite b off (flags :: (appendLe32 seq ++ appendLe32 ack)) := by
      have hflags : overwrite (overwrite b off [flags]) (off + 1) (appendLe32 seq) = overwrite b off (flags :: appendLe32 seq) :=
        overwrite_overwrite (by omega)
      rw [hflags]
      exact overwrite_overwrite (by omega)
    rw [hheader]
    have hlength : (overwrite b off (flags :: (appendLe32 seq ++ appendLe32 ack))).length = b.length := by
      apply length_overwrite
      show off + 9 ≤ b.length
      omega
    have hbody : (overwrite b off (flags :: (appendLe32 seq ++ appendLe32 ack))).take (b.length - kCrcBytes) =
        rewrittenBody b off flags seq ack := by
      unfold overwrite rewrittenBody
      have hfront : (b.take off ++ (flags :: (appendLe32 seq ++ appendLe32 ack))).length = off + 9 := by
        rw [List.length_append, List.length_take_of_le (by omega)]
        rfl
      rw [List.take_append, List.take_of_length_le (by rw [hfront]; unfold kCrcBytes; omega), hfront, List.drop_take]
      rfl
    have hend := @overwrite_end (overwrite b off (flags :: (appendLe32 seq ++ appendLe32 ack)))
      (appendLe32 (crc32Bytes (rewrittenBody b off flags seq ack))) (by rw [hlength]; show 4 ≤ b.length; omega)
    rw [hlength] at hend ⊢
    rw [hbody]
    show (true, overwrite _ (b.length - 4) _) = _
    rw [show b.length - 4 = b.length - (appendLe32 (crc32Bytes (rewrittenBody b off flags seq ack))).length from rfl, hend]
    show (true, List.take (b.length - kCrcBytes) _ ++ _) = _
    rw [hbody]
    rfl

end

/-! ## What is in front of the header is read as before -/

namespace Read

/-- Two buffers of one length that are equal up to `n`. -/
structure SameUpTo (n : Nat) (b b' : Bytes) : Prop where
  length_eq : b'.length = b.length
  take_eq : b'.take n = b.take n

section

variable {n : Nat} {b b' : Bytes} {S : Schema} {Z : Codec}

theorem SameUpTo.getD (h : SameUpTo n b b') {i : Nat} (hi : i < n) : b'.getD i 0 = b.getD i 0 := by
  have hat : (b'.take n).getD i 0 = (b.take n).getD i 0 := by rw [h.take_eq]
  rwa [List.getD_eq_getElem?_getD, List.getD_eq_getElem?_getD, List.getElem?_take_of_lt hi, List.getElem?_take_of_lt hi,
    ← List.getD_eq_getElem?_getD, ← List.getD_eq_getElem?_getD] at hat

theorem SameUpTo.window (h : SameUpTo n b b') {i m : Nat} (hi : i + m ≤ n) : (b'.drop i).take m = (b.drop i).take m := by
  have hwindow : ∀ c : Bytes, (c.drop i).take m = ((c.take n).drop i).take m := by
    intro c
    rw [List.drop_take, List.take_take, Nat.min_eq_left (by omega)]
  rw [hwindow b', hwindow b, h.take_eq]

theorem likeUpTo_next (h : SameUpTo n b b') : Reader.LikeUpTo n (next b) (next b') := by
  have hforward : Reader.Moves 1 (next b) := by
    intro i a j hv
    rw [value_next] at hv
    cases hv
    exact Nat.le_refl _
  refine ⟨hforward.zero_of, ?_⟩
  intro i a j hv hj
  rw [value_next] at hv
  cases hv
  rw [value_next, h.getD (by omega)]

/-- Bytes that the reader looks at and then steps over. -/
theorem likeUpTo_look (h : SameUpTo n b b') {α : Type} {m : Nat} {f f' : Bytes → Parse α}
    (hf : ∀ x, Reader.LikeUpTo n (f x) (f' x)) (hmoves : ∀ x, Reader.Moves m (f x)) :
    Reader.LikeUpTo n (look b m >>= f) (look b' m >>= f') := by
  refine ⟨?_, ?_⟩
  · intro i a j hv
    rw [Reader.value_bind_of (value_look b m i)] at hv
    exact (hf _).forward i a j hv
  · intro i a j hv hj
    rw [Reader.value_bind_of (value_look b m i)] at hv
    have hreach := hmoves _ i a j hv
    rw [Reader.value_bind_of (value_look b' m i), h.window (by omega)]
    exact (hf _).same i a j hv hj

theorem likeUpTo_skip (m : Nat) : Reader.LikeUpTo n (skip m) (skip m) := Reader.LikeUpTo.advance

theorem likeUpTo_readUleb128 (h : SameUpTo n b b') (endp : Nat) :
    Reader.LikeUpTo n (readUleb128 b endp) (readUleb128 b' endp) := by
  have hloop : ∀ rounds shift out,
      Reader.LikeUpTo n (readUleb128Loop b endp rounds shift out) (readUleb128Loop b' endp rounds shift out) := by
    intro rounds
    induction rounds with
    | zero => exact fun _ _ => .fail
    | succ rounds ih =>
      intro shift out
      unfold readUleb128Loop
      exact .bind .tell fun cur => .bind .rejectIf fun _ => .bind (likeUpTo_next h) fun byte => .ite .pure (ih _ _)
  exact hloop 10 0 0

theorem likeUpTo_typeInfoAt (S : Schema) (i : Nat) : Reader.LikeUpTo n (typeInfoAt S i) (typeInfoAt S i) :=
  .bind .emit fun _ => .pure

/-- A length that is left is checked, and stepped over. -/
theorem likeUpTo_v4Contract (h : SameUpTo n b b') (flags : UInt8) :
    Reader.LikeUpTo n (v4Contract b flags) (v4Contract b' flags) := by
  unfold v4Contract
  rw [h.length_eq]
  exact .ite (.bind (likeUpTo_readUleb128 h _) fun _ => .bind .tell fun _ => .bind .rejectIf fun _ => likeUpTo_skip _) .pure

theorem likeUpTo_v4Nonce (h : SameUpTo n b b') (flags : UInt8) :
    Reader.LikeUpTo n (v4Nonce b flags) (v4Nonce b' flags) := by
  unfold v4Nonce
  rw [h.length_eq]
  exact .ite (.bind (likeUpTo_readUleb128 h _) fun _ => .pure) .pure

theorem likeUpTo_v4Endpoints (h : SameUpTo n b b') (flags : UInt8) (ty : UInt32) :
    Reader.LikeUpTo n (v4Endpoints S b flags ty) (v4Endpoints S b' flags ty) := by
  unfold v4Endpoints v4Bitmap
  rw [h.length_eq]
  refine .ite (.bind .tell fun _ => .bind .rejectIf fun _ => ?_) (.bind (likeUpTo_typeInfoAt S _) fun _ => .pure)
  simp only [bind_assoc, pure_bind]
  apply likeUpTo_look h
  · exact fun _ => .bind .emitAll fun _ => .bind (likeUpTo_skip _) fun _ => .pure
  · intro bitmap
    exact .bind_right .emitAll fun _ => .bind_left .advance fun _ => .pure

theorem likeUpTo_v4Head (h : SameUpTo n b b') : Reader.LikeUpTo n (v4Head S b) (v4Head S b') := by
  unfold v4Head
  rw [h.length_eq]
  refine .bind (likeUpTo_next h) fun flags => .bind (likeUpTo_next h) fun nep => ?_
  refine .bind (likeUpTo_readUleb128 h _) fun wireTy => .bind (likeUpTo_readUleb128 h _) fun logicalSize => ?_
  refine .bind (likeUpTo_readUleb128 h _) fun timestamp => .bind (likeUpTo_v4Nonce h _) fun _ => ?_
  refine .bind (likeUpTo_readUleb128 h _) fun sourceAddress => ?_
  unfold v4Typed
  cases S.localTypeId wireTy.toUInt32 with
  | none => exact .fail
  | some localTy =>
    exact .bind .rejectIf fun _ => .bind (likeUpTo_v4Endpoints h _ _) fun endpoints => .bind .rejectIf fun _ =>
      .bind (likeUpTo_v4Contract h _) fun _ => .pure

theorem likeUpTo_legacyFields (h : SameUpTo n b b') : Reader.LikeUpTo n (legacyFields b) (legacyFields b') := by
  unfold legacyFields legacyFieldsWith legacySenderWireLen
  rw [h.length_eq]
  refine .bind (likeUpTo_next h) fun flags => .bind (likeUpTo_next h) fun nep => ?_
  refine .bind (likeUpTo_readUleb128 h _) fun ty => .bind (likeUpTo_readUleb128 h _) fun logicalSize => ?_
  refine .bind (likeUpTo_readUleb128 h _) fun timestamp => .bind (likeUpTo_readUleb128 h _) fun senderLen => ?_
  exact .bind (.ite (likeUpTo_readUleb128 h _) .pure) fun senderWireLen => .pure

theorem likeUpTo_legacyHead (h : SameUpTo n b b') : Reader.LikeUpTo n (legacyHead S Z b) (legacyHead S Z b') := by
  unfold legacyHead legacyCheck legacyAddressing decompress
  rw [h.length_eq]
  refine .bind (likeUpTo_legacyFields h) fun fs => .bind (.bind .rejectIf fun _ => .bind .tell fun _ => .rejectIf) fun _ => ?_
  refine .bind ?_ fun r => .pure
  simp only [bind_assoc, pure_bind]
  have hrow : Reader.LikeUpTo n (typeInfoAt S fs.ty.toNat) (typeInfoAt S fs.ty.toNat) := likeUpTo_typeInfoAt S _
  apply likeUpTo_look h
  · intro bitmap
    refine .bind (likeUpTo_skip _) fun _ => .bind .rejectIf fun _ => ?_
    apply likeUpTo_look h
    · exact fun sender => .bind .rejectIf fun _ => .bind (likeUpTo_skip _) fun _ => .bind hrow fun _ => .pure
    · exact fun sender => .bind_right .rejectIf fun _ => .bind_left .advance fun _ => .bind_left hrow.forward fun _ => .pure
  · intro bitmap
    refine .bind_left .advance fun _ => .bind_left .rejectIf fun _ => ?_
    have hsender : ∀ k, Reader.Moves 0 (look b k) := by
      intro k i a j hv
      rw [value_look] at hv
      cases hv
      exact Nat.le_refl _
    exact .bind_left (hsender _) fun _ => .bind_left .rejectIf fun _ => .bind_left (Reader.Moves.zero_of .advance) fun _ =>
      .bind_left hrow.forward fun _ => .pure

end

end Read

/-! ## What is peeked, once the header is read -/

section

variable {S : Schema} {Z : Codec} {b : Bytes} {off : Nat}

/-- The bytes of a frame from a cursor to the trailer. -/
theorem withCrc_window {out : Bytes} {cur : Nat} (hcur : cur ≤ out.length) :
    ((withCrc out).drop cur).take (remaining ((withCrc out).length - kCrcBytes) cur) = out.drop cur := by
  have hrem : remaining ((withCrc out).length - kCrcBytes) cur = (out.drop cur).length := by
    rw [length_withCrc, Nat.add_sub_cancel, List.length_drop]
    exact if_pos hcur
  rw [hrem, withCrc, List.drop_append_of_le_length hcur, List.take_left]

/-- The bytes from a cursor to the trailer, of any frame. -/
theorem take_window {cur : Nat} (hcur : cur ≤ b.length - kCrcBytes) :
    (b.drop cur).take (remaining (b.length - kCrcBytes) cur) = (b.take (b.length - kCrcBytes)).drop cur := by
  unfold remaining
  rw [if_pos hcur, List.drop_take]

/-- A v4 frame whose head and whose reliable header are read is peeked, and its payload starts behind the header. -/
theorem peek_of_v4Header {hd : Read.V4Head} {h : ReliableHeaderLite} {k : Nat} (hlong : ¬ b.length < 2 + kCrcBytes)
    (hv4 : isV4FrameFlags (b.getD 0 0) = true) (hhead : (Read.v4Head S b).value 0 = some (hd, off))
    (hhas : S.hasV4ReliableHeader hd.ty = true)
    (hread : (Read.readV4ReliableHeader b (b.length - kCrcBytes) (hd.flags &&& kV4FlagCompactReliableHeader != 0)).value off =
      some (h, k)) :
    (∀ verifyCrc, (verifyCrc = true → crcValid b) → peekFrameInfo S Z b verifyCrc =
      some ⟨⟨hd.ty, hd.endpoints, addrSender hd.sourceAddress, hd.timestamp⟩, some h⟩) ∧
    framePayload S Z b = decodePayload Z hd.flags hd.logicalSize ((b.drop k).take (remaining (b.length - kCrcBytes) k)) := by
  have hpeek : (Read.peekV4 S b).value 0 =
      some (⟨⟨hd.ty, hd.endpoints, addrSender hd.sourceAddress, hd.timestamp⟩, some h⟩, k) := by
    rw [Read.peekV4_eq, Reader.value_bind_of hhead]
    unfold Read.v4FrameTail Read.v4Reliable
    rw [bind_assoc, Reader.value_bind_of (Read.value_hasV4ReliableHeader S hd.ty off), hhas, if_pos rfl, bind_assoc,
      Reader.value_bind_of hread]
    rfl
  have hpass : ∀ verifyCrc, (verifyCrc = true → crcValid b) →
      ¬ (b.length < 2 + kCrcBytes ∨ verifyCrc = true ∧ ¬crcValid b) := by
    rintro verifyCrc hcrc (hshort | ⟨hverify, hbad⟩)
    · exact hlong hshort
    · exact hbad (hcrc hverify)
  refine ⟨?_, ?_⟩
  · intro verifyCrc hcrc
    unfold peekFrameInfo
    rw [Read.value_peekFrameInfo, if_neg (hpass verifyCrc hcrc), if_pos hv4, hpeek]
    rfl
  · have hsize := Read.statedSize_of_v4Head hhead
    obtain ⟨⟨size, cur⟩, hstated, rfl⟩ := Option.map_eq_some_iff.mp hsize
    unfold framePayload
    rw [Read.value_peekFrameInfo, if_neg (hpass false (by simp)), if_pos hv4, hpeek, hstated, (Read.v4Head_eq_some hhead).1]
    have hstart : payloadStart b ⟨⟨hd.ty, hd.endpoints, addrSender hd.sourceAddress, hd.timestamp⟩, some h⟩ k = k := by
      unfold payloadStart
      rw [hv4]
      simp
    dsimp only
    rw [hstart]

/-- A legacy frame of a reliable type whose head is read and that has nine bytes left. -/
theorem peek_of_legacyHead {fs : Read.LegacyFields} {endpoints : List UInt32} {sender : Bytes}
    (hlong : ¬ b.length < 2 + kCrcBytes) (hlegacy : isV4FrameFlags (b.getD 0 0) = false)
    (hhead : (Read.legacyHead S Z b).value 0 = some ((fs, endpoints, sender, true), off))
    (hfits : ¬ remaining (b.length - kCrcBytes) off < kReliableHeaderBytes) :
    (∀ verifyCrc, (verifyCrc = true → crcValid b) → peekFrameInfo S Z b verifyCrc =
      some ⟨⟨fs.ty.toUInt32, endpoints, sender, fs.timestamp⟩,
        some ⟨b.getD off 0, loadLe32 b (off + 1), loadLe32 b (off + 5)⟩⟩) ∧
    framePayload S Z b = decodePayload Z fs.flags fs.logicalSize
      ((b.drop (off + kReliableHeaderBytes)).take (remaining (b.length - kCrcBytes) (off + kReliableHeaderBytes))) := by
  have hpeek : (Read.peekLegacy S Z b).value 0 =
      some (⟨⟨fs.ty.toUInt32, endpoints, sender, fs.timestamp⟩,
        some ⟨b.getD off 0, loadLe32 b (off + 1), loadLe32 b (off + 5)⟩⟩, off) := by
    rw [Read.peekLegacy_eq, Reader.value_bind_of hhead, Read.value_legacyFrameTail, if_neg fun h => hfits h.2]
    rfl
  have hv4 : ¬ isV4FrameFlags (b.getD 0 0) = true := by
    rw [hlegacy]
    exact Bool.false_ne_true
  have hpass : ∀ verifyCrc, (verifyCrc = true → crcValid b) →
      ¬ (b.length < 2 + kCrcBytes ∨ verifyCrc = true ∧ ¬crcValid b) := by
    rintro verifyCrc hcrc (hshort | ⟨hverify, hbad⟩)
    · exact hlong hshort
    · exact hbad (hcrc hverify)
  refine ⟨?_, ?_⟩
  · intro verifyCrc hcrc
    unfold peekFrameInfo
    rw [Read.value_peekFrameInfo, if_neg (hpass verifyCrc hcrc), if_neg hv4, hpeek]
    rfl
  · obtain ⟨cur, hfields, -⟩ := Read.legacyHead_eq_some hhead
    obtain ⟨hflags, hsize⟩ := Read.legacyFields_eq_some hfields
    obtain ⟨⟨size, cur'⟩, hstated, rfl⟩ := Option.map_eq_some_iff.mp hsize
    unfold framePayload
    rw [Read.value_peekFrameInfo, if_neg (hpass false (by simp)), if_neg hv4, hpeek, hstated, hflags]
    have hstart : payloadStart b ⟨⟨fs.ty.toUInt32, endpoints, sender, fs.timestamp⟩,
        some ⟨b.getD off 0, loadLe32 b (off + 1), loadLe32 b (off + 5)⟩⟩ off = off + kReliableHeaderBytes := by
      unfold payloadStart
      rw [hlegacy]
      exact if_pos ⟨rfl, rfl⟩
    dsimp only
    rw [hstart]

end

/-- `deserialize_packet` makes a packet of what is peeked and of the payload, if the header is not ACK-only. -/
theorem deserializePacket_eq_framePayload {S : Schema} {Z : Codec} {b : Bytes} {f : FrameInfoLite}
    (hpeek : peekFrameInfo S Z b true = some f) (hack : f.ackOnly = false) :
    deserializePacket S Z b = (framePayload S Z b).map fun payload =>
      ⟨f.envelope.ty, f.envelope.sender, f.envelope.endpoints, f.envelope.timestampMs, payload⟩ := by
  unfold peekFrameInfo at hpeek
  obtain ⟨⟨f', j⟩, hval, rfl⟩ := Option.map_eq_some_iff.mp hpeek
  rw [Read.value_peekFrameInfo] at hval
  split at hval
  · simp at hval
  rename_i hchecks
  have hpass : ¬ (b.length < 2 + kCrcBytes ∨ ¬crcValid b) := fun hc => hchecks (hc.imp_right fun hcrc => ⟨rfl, hcrc⟩)
  have hfalse : ¬ (b.length < 2 + kCrcBytes ∨ false = true ∧ ¬crcValid b) := by
    rintro (hshort | ⟨hverify, -⟩)
    · exact hpass (Or.inl hshort)
    · cases hverify
  unfold deserializePacket framePayload
  rw [Read.value_deserializePacket, if_neg hpass, Read.value_peekFrameInfo, if_neg hfalse, hval]
  by_cases hv4 : isV4FrameFlags (b.getD 0 0) = true
  · rw [if_pos hv4] at hval ⊢
    have hwalk := hval
    rw [Read.peekV4_eq] at hwalk
    obtain ⟨hd, i, hhead, hwalk⟩ := Reader.value_bind_eq_some hwalk
    obtain ⟨reliable, j', hrel, hwalk⟩ := Reader.value_bind_eq_some hwalk
    simp only [Reader.value_pure, Option.some.injEq, Prod.mk.injEq] at hwalk
    obtain ⟨rfl, rfl⟩ := hwalk
    obtain ⟨⟨size, cur⟩, hstated, hsize⟩ := Option.map_eq_some_iff.mp (Read.statedSize_of_v4Head hhead)
    dsimp only at hsize
    subst hsize
    have hnot : ¬ Read.ackOnlyHeader reliable = true := by
      cases reliable <;> simp_all [FrameInfoLite.ackOnly, Read.ackOnlyHeader]
    have hstart : payloadStart b ⟨⟨hd.ty, hd.endpoints, addrSender hd.sourceAddress, hd.timestamp⟩, reliable⟩ j' = j' := by
      unfold payloadStart
      rw [hv4]
      simp
    rw [Read.deserializeV4_eq, Reader.value_bind_of hhead]
    unfold Read.v4PacketTail
    rw [Reader.value_bind_of hrel, Reader.value_rejectIf_bind, if_neg hnot, Read.value_v4Payload, hstated,
      ← (Read.v4Head_eq_some hhead).1]
    dsimp only
    rw [hstart]
    unfold decodePayload payloadAt
    split <;> simp_all
  · rw [if_neg hv4] at hval ⊢
    have hwalk := hval
    rw [Read.peekLegacy_eq] at hwalk
    obtain ⟨⟨fs, endpoints, sender, reliable⟩, cur, hhead, hwalk⟩ := Reader.value_bind_eq_some hwalk
    rw [Read.value_legacyFrameTail] at hwalk
    split at hwalk
    · cases hwalk
    rename_i hroom
    simp only [Option.some.injEq, Prod.mk.injEq] at hwalk
    obtain ⟨rfl, rfl⟩ := hwalk
    obtain ⟨start, hfields, -⟩ := Read.legacyHead_eq_some hhead
    obtain ⟨hflags, hsize⟩ := Read.legacyFields_eq_some hfields
    obtain ⟨⟨size, cur'⟩, hstated, hsize⟩ := Option.map_eq_some_iff.mp hsize
    dsimp only at hsize
    subst hsize
    rw [Read.deserializeLegacy_eq, Reader.value_bind_of hhead, Read.value_legacyPacketTail, hstated, hflags]
    have hstart : payloadStart b ⟨⟨fs.ty.toUInt32, endpoints, sender, fs.timestamp⟩,
        if reliable = true then some ⟨b.getD cur 0, loadLe32 b (cur + 1), loadLe32 b (cur + 5)⟩ else none⟩ cur =
        if reliable = true then cur + kReliableHeaderBytes else cur := by
      have hlegacy : isV4FrameFlags (b.getD 0 0) = false := Bool.eq_false_iff.mpr hv4
      unfold payloadStart
      rw [hlegacy]
      cases reliable <;> simp
    have hpassed : ¬ (reliable = true ∧ (remaining (b.length - kCrcBytes) cur < kReliableHeaderBytes ∨
        b.getD cur 0 &&& 0x01 ≠ 0)) := by
      rintro ⟨hreliable, hshort | hackOnly⟩
      · exact hroom ⟨hreliable, hshort⟩
      · subst hreliable
        simp only [FrameInfoLite.ackOnly, if_true, bne_eq_false_iff_eq] at hack
        exact hackOnly hack
    dsimp only
    rw [if_neg hpassed, hstart]
    unfold decodePayload payloadAt
    split <;> simp_all

/-! ## The rewrite -/

/-- The frame is peeked with the new header and everything else it had, and its payload is the one it had. -/
structure OnlyHeaderChanges (S : Schema) (Z : Codec) (b b' : Bytes) (f : FrameInfoLite) (header : ReliableHeaderLite) : Prop where
  crc : crcValid b'
  peek : peekFrameInfo S Z b' true = some ⟨f.envelope, some header⟩
  payload : framePayload S Z b' = framePayload S Z b

/-- What a compact frame makes of the nine bytes: its header is the flags alone, which say that there are no numbers, and the
    eight bytes of the numbers are taken for the first ones of the payload. -/
def compactTakes (S : Schema) (Z : Codec) (b : Bytes) (seq ack : UInt32) : Prop :=
  seq = 0 ∧ ack = 0 ∧ ∀ off size cur, reliableHeaderOffset S b = some off → (Read.statedSize b).value 0 = some (size, cur) →
    decodePayload Z (b.getD 0 0) size
      (List.replicate 8 0 ++ (b.take (b.length - kCrcBytes)).drop (off + kReliableHeaderBytes)) = framePayload S Z b

section

variable {S : Schema} {Z : Codec} {b : Bytes} {off : Nat} {flags : UInt8} {seq ack : UInt32}

theorem length_rewrittenBody (flags : UInt8) (seq ack : UInt32) (hfits : ¬ b.length < off + kReliableHeaderBytes + kCrcBytes) :
    (rewrittenBody b off flags seq ack).length = b.length - kCrcBytes := by
  unfold kReliableHeaderBytes kCrcBytes at hfits
  have hheader : (flags :: (appendLe32 seq ++ appendLe32 ack)).length = 9 := rfl
  unfold rewrittenBody kReliableHeaderBytes kCrcBytes
  rw [List.length_append, List.length_append, hheader, List.length_take_of_le (by omega), List.length_drop,
    List.length_take_of_le (by omega)]
  omega

/-- In front of the header nothing changes. -/
theorem sameUpTo_rewritten (flags : UInt8) (seq ack : UInt32) (hfits : ¬ b.length < off + kReliableHeaderBytes + kCrcBytes) :
    Read.SameUpTo off b (withCrc (rewrittenBody b off flags seq ack)) := by
  have hlength := length_rewrittenBody flags seq ack hfits
  unfold kReliableHeaderBytes kCrcBytes at hfits
  refine ⟨?_, ?_⟩
  · rw [length_withCrc, hlength]
    unfold kCrcBytes
    omega
  · have hfront : (b.take off).length = off := List.length_take_of_le (by omega)
    unfold withCrc rewrittenBody
    rw [List.append_assoc, List.append_assoc, List.take_append_of_le_length (Nat.le_of_eq hfront.symm),
      List.take_of_length_le (Nat.le_of_eq hfront)]

/-- At the offset there are the flags and the numbers, and then what was there from the tenth byte on. -/
theorem drop_rewrittenBody (flags : UInt8) (seq ack : UInt32) (hfits : ¬ b.length < off + kReliableHeaderBytes + kCrcBytes) :
    (rewrittenBody b off flags seq ack).drop off =
      (flags :: (appendLe32 seq ++ appendLe32 ack)) ++ (b.take (b.length - kCrcBytes)).drop (off + kReliableHeaderBytes) := by
  unfold kReliableHeaderBytes kCrcBytes at hfits
  have hfront : (b.take off).length = off := List.length_take_of_le (by omega)
  unfold rewrittenBody
  rw [List.append_assoc]
  exact List.drop_left' hfront

theorem continues_rewritten (flags : UInt8) (seq ack : UInt32) (hfits : ¬ b.length < off + kReliableHeaderBytes + kCrcBytes) :
    Continues (withCrc (rewrittenBody b off flags seq ack)) off (flags :: (appendLe32 seq ++ appendLe32 ack))
      ((b.take (b.length - kCrcBytes)).drop (off + kReliableHeaderBytes) ++
        appendLe32 (crc32Bytes (rewrittenBody b off flags seq ack))) := by
  have hlength := length_rewrittenBody flags seq ack hfits
  have hdrop := drop_rewrittenBody flags seq ack hfits
  unfold kReliableHeaderBytes kCrcBytes at hfits
  unfold kCrcBytes at hlength
  rw [Continues, withCrc, List.drop_append_of_le_length (by omega), hdrop, List.append_assoc]

/-- What stands behind the nine bytes stays where it is. -/
theorem window_rewritten (flags : UInt8) (seq ack : UInt32) (hfits : ¬ b.length < off + kReliableHeaderBytes + kCrcBytes) :
    ((withCrc (rewrittenBody b off flags seq ack)).drop (off + kReliableHeaderBytes)).take
        (remaining ((withCrc (rewrittenBody b off flags seq ack)).length - kCrcBytes) (off + kReliableHeaderBytes)) =
      (b.drop (off + kReliableHeaderBytes)).take (remaining (b.length - kCrcBytes) (off + kReliableHeaderBytes)) := by
  have hlength := length_rewrittenBody flags seq ack hfits
  have hdrop := drop_rewrittenBody flags seq ack hfits
  have hend : off + kReliableHeaderBytes ≤ b.length - kCrcBytes := by
    unfold kReliableHeaderBytes kCrcBytes at *
    omega
  rw [withCrc_window (by rw [hlength]; exact hend), take_window hend, ← List.drop_drop, hdrop]
  rfl

/-- A full header that was read is nine bytes long. -/
theorem readV4ReliableHeader_full {endp k : Nat} {h : ReliableHeaderLite}
    (hread : (Read.readV4ReliableHeader b endp false).value off = some (h, k)) : k = off + kReliableHeaderBytes := by
  unfold Read.readV4ReliableHeader at hread
  rw [Reader.value_bind_of (Reader.value_tell off)] at hread
  obtain ⟨-, hread⟩ := Reader.value_rejectIf_bind_eq_some hread
  rw [Reader.value_bind_of (Reader.value_emit _ off), Reader.value_bind_of (Read.value_next b off)] at hread
  simp only [Bool.not_false, if_true] at hread
  rw [Reader.value_bind_of (Reader.value_tell (off + 1))] at hread
  obtain ⟨-, hread⟩ := Reader.value_rejectIf_bind_eq_some hread
  rw [Reader.value_bind_of (Read.value_look b 8 _), Reader.value_bind_of (Read.value_skip 8 _), Reader.value_pure] at hread
  cases hread
  rfl

/-- The flags that a router gives a data frame or an unsequenced one leave the bits free that say which numbers follow. -/
theorem plainFlags_bits (hflags : flags ∈ [0x00, 0x02, 0x80]) :
    (flags &&& kV4ReliableWireSeqPresent != 0) = false ∧ (flags &&& kV4ReliableWireAckPresent != 0) = false ∧
      flags &&& ~~~(kV4ReliableWireSeqPresent ||| kV4ReliableWireAckPresent) = flags ∧ flags &&& 0x0C = 0 := by
  have hall : ∀ flags ∈ [(0x00 : UInt8), 0x02, 0x80],
      (flags &&& kV4ReliableWireSeqPresent != 0) = false ∧ (flags &&& kV4ReliableWireAckPresent != 0) = false ∧
        flags &&& ~~~(kV4ReliableWireSeqPresent ||| kV4ReliableWireAckPresent) = flags ∧ flags &&& 0x0C = 0 := by decide
  exact hall flags hflags

/-- The walk to the header is the same one in both frames, and it has seen the first byte. -/
theorem v4Head_rewritten (flags : UInt8) (seq ack : UInt32) {hd : Read.V4Head} (hhead : (Read.v4Head S b).value 0 = some (hd, off))
    (hfits : ¬ b.length < off + kReliableHeaderBytes + kCrcBytes) :
    (Read.v4Head S (withCrc (rewrittenBody b off flags seq ack))).value 0 = some (hd, off) ∧
      (withCrc (rewrittenBody b off flags seq ack)).getD 0 0 = b.getD 0 0 := by
  have hsame := sameUpTo_rewritten flags seq ack hfits
  have hhead' := (Read.likeUpTo_v4Head (S := S) hsame).same 0 hd off hhead (Nat.le_refl _)
  refine ⟨hhead', ?_⟩
  rw [← (Read.v4Head_eq_some hhead).1, (Read.v4Head_eq_some hhead').1]

/-- A v4 frame with a full header. -/
theorem rewritten_full {hd : Read.V4Head} {h : ReliableHeaderLite} {k : Nat} (hflags : flags ∈ [0x00, 0x02, 0x80])
    (hlong : ¬ b.length < 2 + kCrcBytes) (hv4 : isV4FrameFlags (b.getD 0 0) = true)
    (hhead : (Read.v4Head S b).value 0 = some (hd, off)) (hhas : S.hasV4ReliableHeader hd.ty = true)
    (hfull : (hd.flags &&& kV4FlagCompactReliableHeader != 0) = false)
    (hread : (Read.readV4ReliableHeader b (b.length - kCrcBytes) (hd.flags &&& kV4FlagCompactReliableHeader != 0)).value off =
      some (h, k))
    (hfits : ¬ b.length < off + kReliableHeaderBytes + kCrcBytes) {f : FrameInfoLite}
    (henvelope : f.envelope = ⟨hd.ty, hd.endpoints, addrSender hd.sourceAddress, hd.timestamp⟩) :
    OnlyHeaderChanges S Z b (withCrc (rewrittenBody b off flags seq ack)) f ⟨flags, seq, ack⟩ := by
  obtain ⟨hhead', hfirst⟩ := v4Head_rewritten flags seq ack hhead hfits
  have hsame := sameUpTo_rewritten flags seq ack hfits
  have hcrc := crcValid_withCrc (rewrittenBody b off flags seq ack)
  have hread' : (Read.readV4ReliableHeader (withCrc (rewrittenBody b off flags seq ack))
      ((withCrc (rewrittenBody b off flags seq ack)).length - kCrcBytes) (hd.flags &&& kV4FlagCompactReliableHeader != 0)).value off =
      some (⟨flags, seq, ack⟩, off + kReliableHeaderBytes) := by
    rw [hfull, hsame.length_eq]
    apply readV4ReliableHeader_write ⟨flags, seq, ack⟩ false (plainFlags_bits hflags).2.2.2 (continues_rewritten flags seq ack hfits)
    show off + 9 ≤ b.length - 4
    unfold kReliableHeaderBytes kCrcBytes at hfits
    omega
  have hlong' : ¬ (withCrc (rewrittenBody b off flags seq ack)).length < 2 + kCrcBytes := by
    rw [hsame.length_eq]
    exact hlong
  obtain ⟨-, hpayload⟩ := peek_of_v4Header (Z := Z) hlong hv4 hhead hhas hread
  obtain ⟨hpeek', hpayload'⟩ := peek_of_v4Header (Z := Z) hlong' (by rw [hfirst]; exact hv4) hhead' hhas hread'
  refine ⟨hcrc, ?_, ?_⟩
  · rw [hpeek' true fun _ => hcrc, henvelope]
  · rw [hfull] at hread
    rw [hpayload', hpayload, window_rewritten flags seq ack hfits, readV4ReliableHeader_full hread]

/-- A v4 frame with a compact header. -/
theorem rewritten_compact (seq ack : UInt32) {hd : Read.V4Head} (hflags : flags ∈ [0x00, 0x02, 0x80])
    (hlong : ¬ b.length < 2 + kCrcBytes) (hv4 : isV4FrameFlags (b.getD 0 0) = true)
    (hhead : (Read.v4Head S b).value 0 = some (hd, off)) (hhas : S.hasV4ReliableHeader hd.ty = true)
    (hcompact : (hd.flags &&& kV4FlagCompactReliableHeader != 0) = true)
    (hfits : ¬ b.length < off + kReliableHeaderBytes + kCrcBytes) :
    peekFrameInfo S Z (withCrc (rewrittenBody b off flags seq ack)) true =
      some ⟨⟨hd.ty, hd.endpoints, addrSender hd.sourceAddress, hd.timestamp⟩, some ⟨flags, 0, 0⟩⟩ ∧
    framePayload S Z (withCrc (rewrittenBody b off flags seq ack)) =
      decodePayload Z hd.flags hd.logicalSize
        (appendLe32 seq ++ appendLe32 ack ++ (b.take (b.length - kCrcBytes)).drop (off + kReliableHeaderBytes)) := by
  obtain ⟨hhead', hfirst⟩ := v4Head_rewritten flags seq ack hhead hfits
  have hsame := sameUpTo_rewritten flags seq ack hfits
  have hcrc := crcValid_withCrc (rewrittenBody b off flags seq ack)
  have hlength := length_rewrittenBody flags seq ack hfits
  have hdrop := drop_rewrittenBody flags seq ack hfits
  obtain ⟨hseqBit, hackBit, hclear, -⟩ := plainFlags_bits hflags
  have hread' : (Read.readV4ReliableHeader (withCrc (rewrittenBody b off flags seq ack))
      ((withCrc (rewrittenBody b off flags seq ack)).length - kCrcBytes) (hd.flags &&& kV4FlagCompactReliableHeader != 0)).value off =
      some (⟨flags, 0, 0⟩, off + 1) := by
    rw [hcompact, hsame.length_eq]
    have hcontinues := continues_rewritten flags seq ack hfits
    have hflag : Continues (withCrc (rewrittenBody b off flags seq ack)) off [flags] _ := hcontinues
    apply readV4ReliableHeader_compact hseqBit hackBit hclear (fun _ => rfl) (fun _ => rfl) hflag
    show off + 1 ≤ b.length - 4
    unfold kReliableHeaderBytes kCrcBytes at hfits
    omega
  have hlong' : ¬ (withCrc (rewrittenBody b off flags seq ack)).length < 2 + kCrcBytes := by
    rw [hsame.length_eq]
    exact hlong
  obtain ⟨hpeek', hpayload'⟩ := peek_of_v4Header (Z := Z) hlong' (by rw [hfirst]; exact hv4) hhead' hhas hread'
  refine ⟨hpeek' true fun _ => hcrc, ?_⟩
  have hend : off + 1 ≤ (rewrittenBody b off flags seq ack).length := by
    rw [hlength]
    unfold kReliableHeaderBytes kCrcBytes at *
    omega
  rw [hpayload', withCrc_window hend, ← List.drop_drop, hdrop]
  rfl

/-- A legacy frame. -/
theorem rewritten_legacy {fs : Read.LegacyFields} {endpoints : List UInt32} {sender : Bytes}
    (hlong : ¬ b.length < 2 + kCrcBytes) (hlegacy : isV4FrameFlags (b.getD 0 0) = false)
    (hhead : (Read.legacyHead S Z b).value 0 = some ((fs, endpoints, sender, true), off))
    (hfits : ¬ b.length < off + kReliableHeaderBytes + kCrcBytes) {f : FrameInfoLite}
    (henvelope : f.envelope = ⟨fs.ty.toUInt32, endpoints, sender, fs.timestamp⟩) :
    OnlyHeaderChanges S Z b (withCrc (rewrittenBody b off flags seq ack)) f ⟨flags, seq, ack⟩ := by
  have hsame := sameUpTo_rewritten flags seq ack hfits
  have hcrc := crcValid_withCrc (rewrittenBody b off flags seq ack)
  have hhead' := (Read.likeUpTo_legacyHead (S := S) (Z := Z) hsame).same 0 _ off hhead (Nat.le_refl _)
  have hfirst : (withCrc (rewrittenBody b off flags seq ack)).getD 0 0 = b.getD 0 0 := by
    obtain ⟨cur, hfields, -⟩ := Read.legacyHead_eq_some hhead
    obtain ⟨cur', hfields', -⟩ := Read.legacyHead_eq_some hhead'
    rw [← (Read.legacyFields_eq_some hfields).1, (Read.legacyFields_eq_some hfields').1]
  have hlong' : ¬ (withCrc (rewrittenBody b off flags seq ack)).length < 2 + kCrcBytes := by
    rw [hsame.length_eq]
    exact hlong
  have hroom : ¬ remaining (b.length - kCrcBytes) off < kReliableHeaderBytes := by
    unfold remaining kReliableHeaderBytes kCrcBytes at *
    split <;> omega
  obtain ⟨-, hpayload⟩ := peek_of_legacyHead hlong hlegacy hhead hroom
  obtain ⟨hpeek', hpayload'⟩ := peek_of_legacyHead hlong' (by rw [hfirst]; exact hlegacy) hhead' (by rw [hsame.length_eq]; exact hroom)
  obtain ⟨rest, hheader⟩ : ∃ rest, Continues (withCrc (rewrittenBody b off flags seq ack)) off
      (flags :: (appendLe32 seq ++ appendLe32 ack)) rest := ⟨_, continues_rewritten flags seq ack hfits⟩
  have hflag : Continues (withCrc (rewrittenBody b off flags seq ack)) off [flags] (appendLe32 seq ++ (appendLe32 ack ++ rest)) := by
    simpa [Continues] using hheader
  have hseq : Continues (withCrc (rewrittenBody b off flags seq ack)) (off + 1) (appendLe32 seq) (appendLe32 ack ++ rest) :=
    hflag.next
  have hack : Continues (withCrc (rewrittenBody b off flags seq ack)) (off + 5) (appendLe32 ack) rest := hseq.next
  refine ⟨hcrc, ?_, ?_⟩
  · rw [hpeek' true fun _ => hcrc, henvelope, hheader.getD_zero, loadLe32_append seq hseq, loadLe32_append ack hack]
  · rw [hpayload', hpayload, window_rewritten flags seq ack hfits]

end

/-- The bit of a compact header makes a frame a v4 frame. -/
theorem isV4FrameFlags_of_compact {flags : UInt8} (h : flags &&& kV4FlagCompactReliableHeader ≠ 0) : isV4FrameFlags flags = true := by
  have hall : ∀ k : Fin 256, UInt8.ofNat k.val &&& kV4FlagCompactReliableHeader ≠ 0 → isV4FrameFlags (UInt8.ofNat k.val) = true := by
    decide +kernel
  have hflags : UInt8.ofNat flags.toNat = flags := UInt8.ofNat_toNat
  rw [← hflags] at h ⊢
  exact hall ⟨flags.toNat, flags.toNat_lt⟩ h

/-- **When a rewrite changes the header alone**: for every frame with a full header, whatever was in it and whatever is put
    there, and for a compact one if it takes the nine bytes for what they are meant to say. -/
theorem rewrite_only_header (S : Schema) (Z : Codec) (b b' : Bytes) (verifyCrc : Bool) (f : FrameInfoLite) (h : ReliableHeaderLite)
    (flags : UInt8) (seq ack : UInt32) (hlen : b.length < 2 ^ 63) (hdom : isV4FrameFlags (b.getD 0 0) = true ∨ legacyInRange b)
    (hpeek : peekFrameInfo S Z b verifyCrc = some f) (hr : f.reliable = some h) (hflags : flags ∈ [0x00, 0x02, 0x80])
    (hdone : rewriteReliableHeader S b flags seq ack = (true, b')) :
    OnlyHeaderChanges S Z b b' f ⟨flags, seq, ack⟩ ↔
      (b.getD 0 0 &&& kV4FlagCompactReliableHeader ≠ 0 → compactTakes S Z b seq ack) := by
  unfold peekFrameInfo at hpeek
  obtain ⟨⟨f', j⟩, hval, rfl⟩ := Option.map_eq_some_iff.mp hpeek
  rw [Read.value_peekFrameInfo] at hval
  split at hval
  · simp at hval
  rename_i hchecks
  have hlong : ¬ b.length < 2 + kCrcBytes := fun hshort => hchecks (Or.inl hshort)
  -- the rewrite succeeded where the walk stopped
  have hrewrite : ∀ off, reliableHeaderOffset S b = some off →
      ¬ b.length < off + kReliableHeaderBytes + kCrcBytes ∧ b' = withCrc (rewrittenBody b off flags seq ack) := by
    intro off hoff
    rw [rewriteReliableHeader_eq hoff] at hdone
    split at hdone
    · cases hdone
    · rename_i hfits
      cases hdone
      exact ⟨hfits, rfl⟩
  have hoffset : ∀ off, (if isV4FrameFlags (b.getD 0 0) then (Read.offsetV4 S b).value 0 else (Read.offsetLegacy S b).value 0) =
      some (off, off) → reliableHeaderOffset S b = some off := by
    intro off hoff
    unfold reliableHeaderOffset
    rw [Read.value_reliableHeaderOffset, if_neg hlong, hoff]
    rfl
  by_cases hv4 : isV4FrameFlags (b.getD 0 0) = true
  · rw [if_pos hv4] at hval hoffset
    obtain ⟨hd, off, hhead, hhas, hread, henvelope⟩ := Read.peekV4_eq_some hval hr
    have hat := hoffset off (Read.offsetV4_of_v4Head hhead hhas)
    obtain ⟨hfits, rfl⟩ := hrewrite off hat
    have hfirst := (Read.v4Head_eq_some hhead).1
    cases hcompact : hd.flags &&& kV4FlagCompactReliableHeader != 0 with
    | false =>
      have hnot : ¬ b.getD 0 0 &&& kV4FlagCompactReliableHeader ≠ 0 := by
        rw [← hfirst]
        simpa using hcompact
      exact iff_of_true (rewritten_full hflags hlong hv4 hhead hhas hcompact hread hfits henvelope) fun h => absurd h hnot
    | true =>
      have hbit : b.getD 0 0 &&& kV4FlagCompactReliableHeader ≠ 0 := by
        rw [← hfirst]
        simpa using hcompact
      obtain ⟨hpeek', hpayload'⟩ := rewritten_compact (Z := Z) seq ack hflags hlong hv4 hhead hhas hcompact hfits
      obtain ⟨⟨size, cur⟩, hstated, hsize⟩ := Option.map_eq_some_iff.mp (Read.statedSize_of_v4Head hhead)
      dsimp only at hsize
      subst hsize
      have hzeros : appendLe32 0 ++ appendLe32 0 = List.replicate 8 0 := rfl
      constructor
      · intro honly _
        have hsame := honly.peek
        rw [hpeek', henvelope, Option.some.injEq, FrameInfoLite.mk.injEq, Option.some.injEq, ReliableHeaderLite.mk.injEq] at hsame
        obtain ⟨-, -, rfl, rfl⟩ := hsame
        refine ⟨rfl, rfl, ?_⟩
        intro off' size' cur' hoff' hstated'
        rw [hat, Option.some.injEq] at hoff'
        rw [hstated, Option.some.injEq, Prod.mk.injEq] at hstated'
        obtain ⟨rfl, -⟩ := hstated'
        subst hoff'
        rw [← honly.payload, hpayload', hzeros, hfirst]
      · intro htakes
        obtain ⟨rfl, rfl, hdecodes⟩ := htakes hbit
        refine ⟨crcValid_withCrc _, ?_, ?_⟩
        · rw [hpeek', henvelope]
        · rw [hpayload', hzeros, hfirst]
          exact hdecodes off _ cur hat hstated
  · rw [if_neg hv4] at hval hoffset
    obtain ⟨fs, endpoints, sender, hhead, -, henvelope, -⟩ := Read.peekLegacy_eq_some hval hr
    obtain ⟨hfits, rfl⟩ := hrewrite j (hoffset j (Read.offsetLegacy_of_legacyHead hlen (hdom.resolve_left hv4) hhead))
    refine iff_of_true (rewritten_legacy hlong (by simpa using hv4) hhead hfits henvelope) ?_
    intro hbit
    exact absurd (isV4FrameFlags_of_compact hbit) hv4

/-- A GPS frame with numbers in both directions gets two others. -/
theorem rewrite_only_header_gps :
    OnlyHeaderChanges defaultTestSchema (.absent 16)
      (serializePacketWithReliable defaultTestSchema (.absent 16) gpsPacket ⟨0, 11, 5⟩)
      (rewriteReliableHeader defaultTestSchema
        (serializePacketWithReliable defaultTestSchema (.absent 16) gpsPacket ⟨0, 11, 5⟩) 0 12 6).2
      ⟨⟨100, [100, 101], addrSender 488734002, 123⟩, some ⟨0, 11, 5⟩⟩ ⟨0, 12, 6⟩ := by
  refine (rewrite_only_header defaultTestSchema (.absent 16) _ _ true _ ⟨0, 11, 5⟩ 0 12 6 ?_ (Or.inl ?_) ?_ rfl (by decide) ?_).mpr ?_
  · rw [defaultTestSchema_eq]
    decide +kernel
  · rw [defaultTestSchema_eq]
    decide +kernel
  · rw [defaultTestSchema_eq]
    decide +kernel
  · rw [defaultTestSchema_eq]
    decide +kernel
  · intro hcompact
    refine absurd ?_ hcompact
    rw [defaultTestSchema_eq]
    decide +kernel

/-- The first frame of a link has nothing to acknowledge, so its header is compact: with the next number put in it, it is
    peeked without one, and what is left for its payload is not as long as the frame says. -/
theorem rewriteReliableHeader_compact :
    ∃ b f b', b = serializePacketWithReliable defaultTestSchema (.absent 16) gpsPacket ⟨0, 1, 0⟩ ∧
      peekFrameInfo defaultTestSchema (.absent 16) b true = some f ∧ f.reliable = some ⟨0, 1, 0⟩ ∧
      rewriteReliableHeader defaultTestSchema b 0 2 0 = (true, b') ∧
      peekFrameInfo defaultTestSchema (.absent 16) b' true = some ⟨f.envelope, some ⟨0, 0, 0⟩⟩ ∧
      framePayload defaultTestSchema (.absent 16) b = some gpsPacket.payload ∧
      framePayload defaultTestSchema (.absent 16) b' = none ∧
      ¬ OnlyHeaderChanges defaultTestSchema (.absent 16) b b' f ⟨0, 2, 0⟩ := by
  refine ⟨_, ⟨⟨100, [100, 101], addrSender 488734002, 123⟩, some ⟨0, 1, 0⟩⟩,
    (rewriteReliableHeader defaultTestSchema
      (serializePacketWithReliable defaultTestSchema (.absent 16) gpsPacket ⟨0, 1, 0⟩) 0 2 0).2, rfl, ?_, rfl, ?_, ?_, ?_, ?_, ?_⟩
  · rw [defaultTestSchema_eq]
    decide +kernel
  · rw [defaultTestSchema_eq]
    decide +kernel
  · rw [defaultTestSchema_eq]
    decide +kernel
  · rw [defaultTestSchema_eq]
    decide +kernel
  · rw [defaultTestSchema_eq]
    decide +kernel
  · intro honly
    have hpeek := honly.peek
    revert hpeek
    rw [defaultTestSchema_eq]
    decide +kernel

end SedsNet
