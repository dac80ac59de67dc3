import SedsNet.Outstanding

/-!
# Cumulative ACKs

An ACK of an ordered stream names one number, and stands for all frames that were sent before it. `handle_ack` takes frames
from the front of the window as long as their numbers are not above the one it is called with, so it goes by the order of the
numbers. This is the order of sending exactly as long as no frame is sent with a number that is not above those before it:
`handleAck_exact` is about runs without such a send, and `handleAck_straddles` is a window that holds the last number and,
behind it, number 1.
-/

set_option autoImplicit false

namespace SedsNet

open Lib

namespace Owner

/-! ## Taking frames from the front -/

section

variable {ack : UInt32} {sent : Map UInt32 Sent}

theorem ackThrough_prefix {front : List UInt32} (hfront : ∀ seq ∈ front, seq ≤ ack) (rest : List UInt32) :
    ackThrough ack (front ++ rest) sent = ackThrough ack rest (front.foldl (fun sent seq => sent.erase seq) sent) := by
  induction front generalizing sent with
  | nil => rfl
  | cons seq front ih =>
    have hle := hfront seq List.mem_cons_self
    rw [List.cons_append, ackThrough, if_pos hle, ih fun q hq => hfront q (List.mem_cons_of_mem seq hq)]
    rfl

theorem ackThrough_stops {rest : List UInt32} (hrest : ∀ seq ∈ rest, ack < seq) : ackThrough ack rest sent = (rest, sent) := by
  cases rest with
  | nil => rfl
  | cons seq rest => rw [ackThrough, if_neg (UInt32.not_le.mpr (hrest seq List.mem_cons_self))]

/-- What an ordered stream is after an ACK. -/
theorem handleAck_stream {S : Schema} {o : Owner} {ty : UInt32} (hordered : (S.typeAt ty.toNat).reliableMode = .Ordered)
    (sideId : Int32) (ack : UInt32) :
    (o.handleAck S sideId ty ack).stream (reliableKey sideId ty) =
      { o.stream (reliableKey sideId ty) with
        sent := (ackThrough ack (o.stream (reliableKey sideId ty)).sentOrder (o.stream (reliableKey sideId ty)).sent).2
        sentOrder := (ackThrough ack (o.stream (reliableKey sideId ty)).sentOrder (o.stream (reliableKey sideId ty)).sent).1 } := by
  unfold handleAck
  cases htx : o.reliableTx.lookup (reliableKey sideId ty) with
  | none =>
    have hnew : o.stream (reliableKey sideId ty) = .new := by
      unfold stream
      rw [htx]
      rfl
    show o.stream (reliableKey sideId ty) = _
    rw [hnew]
    rfl
  | some tx =>
    have hstream : o.stream (reliableKey sideId ty) = tx := by
      unfold stream
      rw [htx]
      rfl
    dsimp only
    rw [hordered, if_neg (by decide), stream_setTxState, if_pos rfl, hstream]

end

/-! ## The numbers sent so far -/

section

variable (S : Schema) (Z : Codec) (E : Env)

/-- The number of the frame that the call sends for the first time. -/
def entered (key : UInt64) (o : Owner) : StreamEvent → List UInt32
  | .send sideId pkt =>
    if reliableKey sideId pkt.ty = key ∧ GivesNumber S o sideId pkt.ty ∧ CallbackTakes E o then [(o.stream key).nextSeq] else []
  | _ => []

/-- A call, and a record of the numbers that frames of the stream were sent with, in the order of sending. -/
def recordStep (key : UInt64) (p : Owner × List UInt32) (e : StreamEvent) : Owner × List UInt32 :=
  (streamStep S Z E p.1 e, if e.ends key then [] else p.2 ++ entered S E key p.1 e)

/-- A frame is sent with a number above all numbers before it. -/
def Ascends (key : UInt64) (p : Owner × List UInt32) (e : StreamEvent) : Prop :=
  ∀ seq ∈ entered S E key p.1 e, ∀ q ∈ p.2, q < seq

instance (key : UInt64) (p : Owner × List UInt32) (e : StreamEvent) : Decidable (Ascends S E key p e) :=
  inferInstanceAs (Decidable (∀ seq ∈ entered S E key p.1 e, ∀ q ∈ p.2, q < seq))

end

/-- The frames that wait were sent in the order in which they are listed, and in that of their numbers. -/
structure Recorded (past : List UInt32) (tx : ReliableTxState) : Prop where
  order : tx.sentOrder.Sublist past
  sorted : past.Pairwise (· < ·)
  keys : ∀ seq, seq ∈ tx.sent ↔ seq ∈ tx.sentOrder

section

variable {past : List UInt32} {tx tx' : ReliableTxState} {tuning : Tuning} {asks : Bool} {taken : List UInt32}

theorem Recorded.new : Recorded [] .new :=
  ⟨.slnil, .nil, fun _ => ⟨fun h => absurd h (AList.notMem_empty _), fun h => absurd h List.not_mem_nil⟩⟩

theorem Recorded.insert (h : Recorded past tx) {seq : UInt32} {old : Sent} (new : Sent) (hold : tx.sent.lookup seq = some old) :
    Recorded past { tx with sent := tx.sent.insert seq new } :=
  ⟨h.order, h.sorted, fun q => (mem_insert_iff hold q).trans (h.keys q)⟩

/-- A turn that gives no number. -/
theorem Recorded.turn (h : Recorded past tx) (hturn : Turn (fun _ => False) tuning asks tx taken tx') : Recorded past tx' := by
  cases hturn with
  | burns hgives => exact hgives.elim
  | enters sent hgives hroom hretries => exact hgives.elim
  | clears ack =>
    obtain ⟨hsub, hkeys⟩ := @ackThrough_keys ack _ _ (h.sorted.sublist h.order) h.keys
    exact ⟨hsub.trans h.order, h.sorted, hkeys⟩
  | drops seq =>
    refine ⟨List.filter_sublist.trans h.order, h.sorted, ?_⟩
    intro q
    rw [AList.mem_erase, h.keys, List.mem_filter]
    simp [and_comm]
  | marks new hold hretries => exact h.insert new hold
  | repeats new hold hless hretries => exact h.insert new hold
  | asked new taken hasks hold => exact h.insert new hold

theorem Recorded.turns (h : Recorded past tx) (hturns : Turns (fun _ => False) tuning asks tx taken tx') : Recorded past tx' := by
  induction hturns with
  | refl tx => exact h
  | cons hturn hrest ih => exact ih (h.turn hturn)

/-- The next frame is sent. -/
theorem Recorded.enters (h : Recorded past tx) (sent : Sent) (habove : ∀ q ∈ past, q < tx.nextSeq) (next : UInt32) :
    Recorded (past ++ [tx.nextSeq]) ⟨next, tx.sentOrder ++ [tx.nextSeq], tx.sent.emplace tx.nextSeq sent⟩ := by
  refine ⟨h.order.append (.refl _), ?_, ?_⟩
  · rw [List.pairwise_append]
    refine ⟨h.sorted, List.pairwise_singleton _ _, ?_⟩
    intro q hq last hlast
    rw [List.mem_singleton.mp hlast]
    exact habove q hq
  · intro q
    rw [Link.mem_emplace_iff, List.mem_append, List.mem_singleton, h.keys]

variable {S : Schema} {Z : Codec} {E : Env} {key : UInt64}

theorem Recorded.send {o : Owner} (h : Recorded past (o.stream key)) (sideId : Int32) (pkt : PacketData)
    (hascends : Ascends S E key (o, past) (.send sideId pkt)) :
    Recorded (past ++ entered S E key o (.send sideId pkt)) ((o.sendSerializedWithReliable S Z E sideId pkt).2.stream key) := by
  unfold Ascends at hascends
  unfold entered at hascends ⊢
  dsimp only at hascends ⊢
  by_cases hkey : reliableKey sideId pkt.ty = key
  · subst hkey
    have hstate : ∀ o : Owner, o.stream (reliableKey sideId pkt.ty) = o.txState sideId pkt.ty := fun _ => rfl
    rw [hstate] at h hascends ⊢
    rw [hstate]
    by_cases hgives : GivesNumber S o sideId pkt.ty
    · rcases sendSerializedWithReliable_numbered (Z := Z) (E := E) hgives with ⟨hnot, -, htx⟩ | ⟨sent, -, -, htakes, -, htx⟩
      · rw [htx, if_neg fun hall => hnot hall.2.2, List.append_nil]
        exact ⟨h.order, h.sorted, h.keys⟩
      · rw [if_pos ⟨rfl, hgives, htakes⟩] at hascends
        rw [htx, if_pos ⟨rfl, hgives, htakes⟩]
        exact h.enters sent (hascends _ List.mem_cons_self) _
    · rw [sendSerializedWithReliable_unnumbered hgives, if_neg fun hall => hgives hall.2.1, List.append_nil]
      exact h
  · rw [sendSerializedWithReliable_others (Ne.symm hkey), if_neg fun hall => hkey hall.1, List.append_nil]
    exact h

theorem Recorded.step {p : Owner × List UInt32} {e : StreamEvent} (h : Recorded p.2 (p.1.stream key))
    (hascends : Ascends S E key p e) : Recorded (recordStep S Z E key p e).2 ((recordStep S Z E key p e).1.stream key) := by
  obtain ⟨o, past⟩ := p
  unfold recordStep
  dsimp only at h ⊢
  cases hends : e.ends key with
  | true =>
    rw [step_ends hends]
    exact .new
  | false =>
    rw [if_neg Bool.false_ne_true]
    by_cases hsend : ∃ sideId pkt, e = .send sideId pkt
    · obtain ⟨sideId, pkt, rfl⟩ := hsend
      exact h.send sideId pkt hascends
    · -- no other call gives a number
      have hnone : Gives S (fun _ => False) key o e ∧ entered S E key o e = [] := by
        cases e with
        | send sideId pkt => exact absurd ⟨sideId, pkt, rfl⟩ hsend
        | _ => exact ⟨trivial, rfl⟩
      rw [hnone.2, List.append_nil]
      exact h.turns (step_turns hnone.1 hends)

theorem recorded_runFrom {o : Owner} (hfresh : o.reliableTx = ∅) {events : List StreamEvent}
    (hascends : Along (recordStep S Z E key) (Ascends S E key) (o, []) events) :
    Recorded (runFrom (recordStep S Z E key) (o, []) events).2 ((runFrom (recordStep S Z E key) (o, []) events).1.stream key) := by
  have hstart : Recorded [] (o.stream key) := by
    unfold stream
    rw [hfresh]
    exact .new
  exact hascends.invariant (I := fun p => Recorded p.2 (p.1.stream key)) hstart fun p e ha h => h.step ha

end

/-- **A cumulative ACK clears what it says**, as long as no frame is sent with a number that is not above those before it: the
    ACK of a frame that waits takes it and the frames before it from the window, and nothing else; the ACK of a frame that
    does not, and was sent before all that do, takes nothing. -/
theorem handleAck_exact (S : Schema) (Z : Codec) (E : Env) (o : Owner) (hfresh : o.reliableTx = ∅) (sideId : Int32) (ty : UInt32)
    (hordered : (S.typeAt ty.toNat).reliableMode = .Ordered) (events : List StreamEvent)
    (hascends : Along (recordStep S Z E (reliableKey sideId ty)) (Ascends S E (reliableKey sideId ty)) (o, []) events) :
    let o' := (runFrom (recordStep S Z E (reliableKey sideId ty)) (o, []) events).1
    let past := (runFrom (recordStep S Z E (reliableKey sideId ty)) (o, []) events).2
    let tx := o'.stream (reliableKey sideId ty)
    (∀ front ack rest, tx.sentOrder = front ++ ack :: rest →
      ((o'.handleAck S sideId ty ack).stream (reliableKey sideId ty)).sentOrder = rest ∧
      ∀ seq, ((o'.handleAck S sideId ty ack).stream (reliableKey sideId ty)).sent.lookup seq =
        if seq ∈ front ++ [ack] then none else tx.sent.lookup seq) ∧
    (∀ older ack newer, past = older ++ ack :: newer → (∀ seq ∈ tx.sentOrder, seq ∈ newer) →
      (o'.handleAck S sideId ty ack).stream (reliableKey sideId ty) = tx) := by
  intro o' past tx
  have hrecorded : Recorded past tx := recorded_runFrom hfresh hascends
  constructor
  · intro front ack rest hsplit
    have hsorted := hrecorded.sorted.sublist hrecorded.order
    rw [hsplit, List.pairwise_append, List.pairwise_cons] at hsorted
    obtain ⟨-, ⟨hrest, -⟩, hfront⟩ := hsorted
    have hlow : ∀ seq ∈ front ++ [ack], seq ≤ ack := by
      intro seq hseq
      rcases List.mem_append.mp hseq with hseq | hseq
      · exact UInt32.le_of_lt (hfront seq hseq ack List.mem_cons_self)
      · rw [List.mem_singleton.mp hseq]
        exact UInt32.le_refl ack
    have hthrough : ackThrough ack tx.sentOrder tx.sent =
        (rest, (front ++ [ack]).foldl (fun sent seq => sent.erase seq) tx.sent) := by
      rw [hsplit, List.append_cons, ackThrough_prefix hlow, ackThrough_stops hrest]
    rw [handleAck_stream hordered]
    show (ackThrough ack tx.sentOrder tx.sent).1 = rest ∧ ∀ seq, (ackThrough ack tx.sentOrder tx.sent).2.lookup seq = _
    rw [hthrough]
    exact ⟨rfl, fun seq => Map.lookup_foldl_erase _ _ seq⟩
  · intro older ack newer hsplit hnewer
    have hsorted := hrecorded.sorted
    rw [hsplit, List.pairwise_append, List.pairwise_cons] at hsorted
    have habove : ∀ seq ∈ tx.sentOrder, ack < seq := fun seq hseq => hsorted.2.1.1 seq (hnewer seq hseq)
    have hthrough : ackThrough ack tx.sentOrder tx.sent = (tx.sentOrder, tx.sent) := ackThrough_stops habove
    rw [handleAck_stream hordered]
    show (⟨tx.nextSeq, (ackThrough ack tx.sentOrder tx.sent).1, (ackThrough ack tx.sentOrder tx.sent).2⟩ : ReliableTxState) = tx
    rw [hthrough]

theorem gps_ordered : (defaultTestSchema.typeAt gpsPacket.ty.toNat).reliableMode = .Ordered := by
  rw [defaultTestSchema_eq]
  decide +kernel

theorem gps_reliable : defaultTestSchema.isReliableType gpsPacket.ty = true := by
  rw [defaultTestSchema_eq]
  decide +kernel

/-- The first of two reports is acknowledged, and then once more. -/
theorem handleAck_exact_gps :
    let events : List StreamEvent := [.send 0 gpsPacket, .send 0 gpsPacket, .ack 0 gpsPacket.ty 1]
    let o := (runFrom (recordStep defaultTestSchema (.absent 16) .calm (reliableKey 0 gpsPacket.ty)) (gpsOwner, []) events).1
    Along (recordStep defaultTestSchema (.absent 16) .calm (reliableKey 0 gpsPacket.ty))
      (Ascends defaultTestSchema .calm (reliableKey 0 gpsPacket.ty)) (gpsOwner, []) events ∧
    (o.stream (reliableKey 0 gpsPacket.ty)).sentOrder = [2] ∧
    (o.handleAck defaultTestSchema 0 gpsPacket.ty 1).stream (reliableKey 0 gpsPacket.ty) = o.stream (reliableKey 0 gpsPacket.ty) ∧
    ((o.handleAck defaultTestSchema 0 gpsPacket.ty 2).stream (reliableKey 0 gpsPacket.ty)).sentOrder = [] := by
  intro events o
  have hrun : Along (recordStep defaultTestSchema (.absent 16) .calm (reliableKey 0 gpsPacket.ty))
      (Ascends defaultTestSchema .calm (reliableKey 0 gpsPacket.ty)) (gpsOwner, []) events ∧
      (o.stream (reliableKey 0 gpsPacket.ty)).sentOrder = [2] ∧
      (runFrom (recordStep defaultTestSchema (.absent 16) .calm (reliableKey 0 gpsPacket.ty)) (gpsOwner, []) events).2 = [1, 2] := by
    simp only [o, events, defaultTestSchema_eq]
    decide +kernel
  obtain ⟨hascends, horder, hpast⟩ := hrun
  obtain ⟨htakes, hold⟩ := handleAck_exact defaultTestSchema (.absent 16) .calm gpsOwner rfl 0 gpsPacket.ty gps_ordered events hascends
  refine ⟨hascends, horder, hold [] 1 [2] hpast ?_, (htakes [] 2 [] horder).1⟩
  intro seq hseq
  exact horder ▸ hseq

/-! ## The counter comes round -/

/-- One report after the other, each acknowledged before the next. -/
def rounds : Nat → List StreamEvent
  | 0 => []
  | n + 1 => rounds n ++ [.send 0 gpsPacket, .ack 0 gpsPacket.ty (UInt32.ofNat (n + 1))]

/-- Configured as in the beginning, and idle. -/
structure Ready (o : Owner) : Prop where
  sides : o.sides = gpsOwner.sides
  tuning : o.tuning = gpsOwner.tuning
  active : o.sideTxActive = false

section

variable {o : Owner}

theorem Ready.emits {o' : Owner} (h : Ready o) (hemits : Emits (fun _ => True) (fun _ => True) o o') : Ready o' :=
  ⟨hemits.sides.trans h.sides, hemits.tuning.trans h.tuning, hemits.active.trans h.active⟩

theorem Ready.ack (h : Ready o) (sideId : Int32) (ty ack : UInt32) : Ready (o.handleAck defaultTestSchema sideId ty ack) :=
  h.emits (handleAck_emits defaultTestSchema o sideId ty ack)

/-- A report is sent while there is room. -/
theorem Ready.send (h : Ready o) (hroom : (o.stream (reliableKey 0 gpsPacket.ty)).sent.entries.length < 2) :
    Ready (streamStep defaultTestSchema (.absent 16) .calm o (.send 0 gpsPacket)) ∧
    ∃ sent, (streamStep defaultTestSchema (.absent 16) .calm o (.send 0 gpsPacket)).stream (reliableKey 0 gpsPacket.ty) =
      { nextSeq := nextSeq (o.stream (reliableKey 0 gpsPacket.ty)).nextSeq
        sentOrder := (o.stream (reliableKey 0 gpsPacket.ty)).sentOrder ++ [(o.stream (reliableKey 0 gpsPacket.ty)).nextSeq]
        sent := (o.stream (reliableKey 0 gpsPacket.ty)).sent.emplace (o.stream (reliableKey 0 gpsPacket.ty)).nextSeq sent } := by
  refine ⟨h.emits (sendSerializedWithReliable_emits defaultTestSchema (.absent 16) .calm o (fun _ _ => trivial) fun _ _ _ _ => trivial), ?_⟩
  have hgives : GivesNumber defaultTestSchema o 0 gpsPacket.ty := by
    refine ⟨?_, gps_reliable, ?_⟩
    · rw [numbersFrames_congr h.sides]
      decide
    · rw [h.tuning]
      exact Nat.lt_of_lt_of_le hroom (by decide)
  rcases sendSerializedWithReliable_numbered (Z := .absent 16) (E := .calm) hgives with ⟨hnot, -⟩ | ⟨sent, -, -, -, -, htx⟩
  · exact absurd ⟨h.active, rfl⟩ hnot
  · exact ⟨sent, htx⟩

end

theorem nextSeq_ofNat {n : Nat} (hn : n + 1 < 2 ^ 32 - 1) : nextSeq (UInt32.ofNat (n + 1)) = UInt32.ofNat (n + 1 + 1) := by
  have hadd : UInt32.ofNat (n + 1) + 1 = UInt32.ofNat (n + 1 + 1) := (UInt32.ofNat_add (n + 1) 1).symm
  unfold nextSeq
  rw [hadd, if_neg]
  intro hzero
  have hnat := congrArg UInt32.toNat hzero
  rw [UInt32.toNat_ofNat', Nat.mod_eq_of_lt (by omega)] at hnat
  exact Nat.succ_ne_zero _ hnat

theorem erase_emplace (seq : UInt32) (sent : Sent) : ((∅ : Map UInt32 Sent).emplace seq sent).erase seq = ∅ := by
  apply AList.ext
  show List.kerase seq [(⟨seq, sent⟩ : (_ : UInt32) × Sent)] = []
  simp

/-- After `n` rounds the next number is `n + 1`, and no frame waits. -/
theorem rounds_idle (n : Nat) (hn : n < 2 ^ 32 - 1) :
    Ready (runFrom (streamStep defaultTestSchema (.absent 16) .calm) gpsOwner (rounds n)) ∧
    (runFrom (streamStep defaultTestSchema (.absent 16) .calm) gpsOwner (rounds n)).stream (reliableKey 0 gpsPacket.ty) =
      ⟨UInt32.ofNat (n + 1), [], ∅⟩ := by
  induction n with
  | zero => exact ⟨⟨rfl, rfl, rfl⟩, rfl⟩
  | succ n ih =>
    obtain ⟨hready, hidle⟩ := ih (by omega)
    unfold rounds
    rw [runFrom_append]
    generalize runFrom (streamStep defaultTestSchema (.absent 16) .calm) gpsOwner (rounds n) = o at hready hidle
    obtain ⟨hsent, sent, htx⟩ := hready.send (by rw [hidle]; exact Nat.zero_lt_two)
    refine ⟨hsent.ack 0 gpsPacket.ty _, ?_⟩
    show ((streamStep defaultTestSchema (.absent 16) .calm o (.send 0 gpsPacket)).handleAck defaultTestSchema 0 gpsPacket.ty
      (UInt32.ofNat (n + 1))).stream (reliableKey 0 gpsPacket.ty) = _
    rw [handleAck_stream gps_ordered, htx, hidle]
    dsimp only
    rw [List.nil_append, ackThrough, if_pos (UInt32.le_refl _), ackThrough]
    rw [nextSeq_ofNat hn, erase_emplace]

/-- The last number is sent, and number 1 behind it. -/
theorem rounds_straddle {n : Nat} (hn : n + 1 = 2 ^ 32 - 1) :
    let o := runFrom (streamStep defaultTestSchema (.absent 16) .calm) gpsOwner (rounds n ++ [.send 0 gpsPacket, .send 0 gpsPacket])
    (o.stream (reliableKey 0 gpsPacket.ty)).sentOrder = [4294967295, 1] := by
  -- all numbers but the last are used up
  obtain ⟨hready, hidle⟩ := rounds_idle n (by omega)
  rw [runFrom_append]
  generalize runFrom (streamStep defaultTestSchema (.absent 16) .calm) gpsOwner (rounds n) = o at hready hidle
  have hlast : UInt32.ofNat (n + 1) = 4294967295 := by
    rw [hn]
    rfl
  rw [hlast] at hidle
  obtain ⟨hsent, sent, htx⟩ := hready.send (by rw [hidle]; exact Nat.zero_lt_two)
  rw [hidle] at htx
  obtain ⟨-, sent', htx'⟩ := hsent.send (by rw [htx]; exact Nat.one_lt_two)
  rw [htx] at htx'
  show (ReliableTxState.sentOrder ((streamStep defaultTestSchema (.absent 16) .calm
    (streamStep defaultTestSchema (.absent 16) .calm o (.send 0 gpsPacket)) (.send 0 gpsPacket)).stream _)) = _
  rw [htx']
  rfl

theorem handleAck_of_straddling {o : Owner} (hwindow : (o.stream (reliableKey 0 gpsPacket.ty)).sentOrder = [4294967295, 1]) :
    ((o.handleAck defaultTestSchema 0 gpsPacket.ty 1).stream (reliableKey 0 gpsPacket.ty)).sentOrder = [4294967295, 1] := by
  rw [handleAck_stream gps_ordered]
  dsimp only
  rw [hwindow, ackThrough, if_neg (by decide)]

/-- The ACK of number 1, which is for both, takes neither. -/
theorem handleAck_straddles :
    let o := runFrom (streamStep defaultTestSchema (.absent 16) .calm) gpsOwner
      (rounds 4294967294 ++ [.send 0 gpsPacket, .send 0 gpsPacket])
    (o.stream (reliableKey 0 gpsPacket.ty)).sentOrder = [4294967295, 1] ∧
    ((o.handleAck defaultTestSchema 0 gpsPacket.ty 1).stream (reliableKey 0 gpsPacket.ty)).sentOrder = [4294967295, 1] := by
  have hlast : 4294967294 + 1 = 2 ^ 32 - 1 := by decide
  have hwindow := rounds_straddle hlast
  exact ⟨hwindow, handleAck_of_straddling hwindow⟩

end Owner

end SedsNet
