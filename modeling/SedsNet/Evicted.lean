import SedsNet.Retries
import SedsNet.Router.Books
import SedsNet.Window

/-!
# Packets that make room

`remember_end_to_end_reliable_tx` keeps the ids of the packets that wait for end-to-end ACKs in the order in which they were
sent, and lets the oldest go when there are too many. Acknowledgements, timeouts and reconciliation take packets from the map,
and leave their ids in the order, where they go on taking up room. `rememberEndToEnd_spares_iff` says exactly when a packet
that still waits has to go although there is room for it.
-/

set_option autoImplicit false

namespace SedsNet

open Lib

namespace Router

/-- The packets that still wait for a destination. -/
def waiting (r : Router) : List UInt64 :=
  (r.endToEndReliableTx.entries.filter fun e => !e.2.pendingDestinations.entries.isEmpty).map (·.1)

/-- The ids in the order whose packets do not wait any more. -/
def stale (r : Router) : List UInt64 := r.endToEndReliableTxOrder.filter (· ∉ r.waiting)

/-- The number of packets that are remembered at one time. -/
def endToEndCap (r : Router) : Nat := max 1 r.tuning.reliableMaxEndToEndPending

/-- If a packet that waits is among the oldest, which go to make room for `id`, then no room is taken up by stale ids: there
    are no more of them than there are ids too many. -/
def SparesWaiting (r : Router) (id : UInt64) : Prop :=
  ∀ old ∈ (rememberId r.tuning.reliableMaxEndToEndPending r.endToEndReliableTxOrder id).1, old ∈ r.waiting →
    r.stale.length + r.endToEndCap ≤ r.endToEndReliableTxOrder.length

instance (r : Router) (id : UInt64) : Decidable (r.SparesWaiting id) :=
  inferInstanceAs (Decidable (∀ old ∈ (rememberId _ _ id).1, _ → _))

/-- The books of end-to-end delivery: every packet in the map waits for somebody, and its id is listed, once. -/
structure Listed (r : Router) : Prop where
  nodup : r.endToEndReliableTxOrder.Nodup
  listed : ∀ id sent, r.endToEndReliableTx.lookup id = some sent → id ∈ r.endToEndReliableTxOrder
  waits : ∀ id sent, r.endToEndReliableTx.lookup id = some sent → sent.pendingDestinations.entries ≠ []

namespace Listed

variable {r r' : Router}

/-- Packets leave the map, or stop waiting for some destinations. -/
theorem of_less (h : Listed r) (horder : r'.endToEndReliableTxOrder = r.endToEndReliableTxOrder)
    (hless : ∀ id sent, r'.endToEndReliableTx.lookup id = some sent →
      id ∈ r.endToEndReliableTxOrder ∧ sent.pendingDestinations.entries ≠ []) : Listed r' := by
  refine ⟨horder ▸ h.nodup, ?_, fun id sent hsent => (hless id sent hsent).2⟩
  intro id sent hsent
  rw [horder]
  exact (hless id sent hsent).1

theorem empty (hmap : r.endToEndReliableTx = ∅) (horder : r.endToEndReliableTxOrder = []) : Listed r := by
  refine ⟨?_, ?_, ?_⟩
  · rw [horder]
    exact .nil
  · intro id sent hsent
    rw [hmap] at hsent
    cases hsent
  · intro id sent hsent
    rw [hmap] at hsent
    cases hsent

theorem congr (h : Listed r) (horder : r'.endToEndReliableTxOrder = r.endToEndReliableTxOrder)
    (hmap : r'.endToEndReliableTx = r.endToEndReliableTx) : Listed r' := by
  refine h.of_less horder ?_
  intro id sent hsent
  rw [hmap] at hsent
  exact ⟨h.listed id sent hsent, h.waits id sent hsent⟩

theorem erase (h : Listed r) {old : UInt64} (horder : r'.endToEndReliableTxOrder = r.endToEndReliableTxOrder)
    (hmap : r'.endToEndReliableTx = r.endToEndReliableTx.erase old) : Listed r' := by
  refine h.of_less horder ?_
  intro id sent hsent
  rw [hmap] at hsent
  have hold := Owner.lookup_of_erase hsent
  exact ⟨h.listed id sent hold, h.waits id sent hold⟩

/-- An entry of a listed packet is written. -/
theorem insert (h : Listed r) {id : UInt64} (hid : id ∈ r.endToEndReliableTxOrder) {sent : EndToEndReliableSent}
    (hwaits : sent.pendingDestinations.entries ≠ []) (horder : r'.endToEndReliableTxOrder = r.endToEndReliableTxOrder)
    (hmap : r'.endToEndReliableTx = r.endToEndReliableTx.insert id sent) : Listed r' := by
  refine h.of_less horder ?_
  intro id' sent' hsent'
  rw [hmap] at hsent'
  by_cases hsame : id' = id
  · subst hsame
    rw [AList.lookup_insert, Option.some.injEq] at hsent'
    subst hsent'
    exact ⟨hid, hwaits⟩
  · rw [AList.lookup_insert_ne hsame] at hsent'
    exact ⟨h.listed id' sent' hsent', h.waits id' sent' hsent'⟩

end Listed

/-! ## One event -/

section

variable {S : Schema} {E : Env} {r : Router}

/-- The packets in the map after one was remembered. -/
theorem mem_rememberEndToEnd (pkt : PacketData) (pending : Map UInt64 Int32) (id : UInt64) :
    id ∈ (r.rememberEndToEnd S E pkt pending).endToEndReliableTx ↔
      id = packetId S pkt ∨ id ∈ r.endToEndReliableTx ∧
        id ∉ (rememberId r.tuning.reliableMaxEndToEndPending r.endToEndReliableTxOrder (packetId S pkt)).1 := mem_remembered _

theorem Listed.rememberEndToEnd (h : Listed r) (pkt : PacketData) {pending : Map UInt64 Int32} (hpending : pending.entries ≠ []) :
    Listed (r.rememberEndToEnd S E pkt pending) := by
  refine ⟨nodup_rememberId h.nodup, ?_, ?_⟩
  · intro x sent hx
    have hmem : x ∈ (r.rememberEndToEnd S E pkt pending).endToEndReliableTx := Map.mem_iff_lookup.mpr ⟨sent, hx⟩
    rcases (mem_rememberEndToEnd pkt pending x).mp hmem with hsame | ⟨hold, hkept⟩
    · exact (mem_rememberId h.nodup).mpr (.inl hsame)
    · obtain ⟨old, hold⟩ := Map.mem_iff_lookup.mp hold
      exact (mem_rememberId h.nodup).mpr (.inr ⟨h.listed x old hold, hkept⟩)
  · unfold Router.rememberEndToEnd Owner.packetId
    dsimp only
    intro x sent hx
    by_cases hsame : x = packetId S pkt
    · subst hsame
      rw [AList.lookup_insert, Option.some.injEq] at hx
      rw [← hx]
      exact hpending
    · rw [AList.lookup_insert_ne hsame, Map.lookup_foldl_erase] at hx
      split at hx
      · cases hx
      · exact h.waits x sent hx

theorem Listed.handleEndToEndAck (h : Listed r) (pkt : PacketData) : Listed (r.handleEndToEndAck pkt) := by
  unfold Router.handleEndToEndAck
  dsimp only
  cases hsent : r.endToEndReliableTx.lookup (loadLe64 pkt.payload 0) with
  | none => exact h
  | some sent =>
    dsimp only
    split
    · exact h.erase rfl rfl
    · split
      · exact h.erase rfl rfl
      · rename_i hpending
        exact h.insert (h.listed _ _ hsent) (fun hnone => hpending (List.isEmpty_iff.mpr hnone)) rfl rfl

theorem Listed.reconcileEntry (h : Listed r) {e : (_ : UInt64) × EndToEndReliableSent} (he : e.1 ∈ r.endToEndReliableTxOrder) :
    Listed (r.reconcileEntry S E e) := by
  unfold Router.reconcileEntry
  split
  · exact h
  · dsimp only
    split
    · exact h.erase rfl rfl
    · rename_i hpending
      exact h.insert he (fun hnone => hpending (List.isEmpty_iff.mpr hnone)) rfl rfl

theorem reconcileEntry_order (e : (_ : UInt64) × EndToEndReliableSent) :
    (r.reconcileEntry S E e).endToEndReliableTxOrder = r.endToEndReliableTxOrder := by
  unfold reconcileEntry
  split <;> rfl

theorem Listed.reconcile_foldl (entries : List ((_ : UInt64) × EndToEndReliableSent)) (h : Listed r)
    (hentries : ∀ e ∈ entries, e.1 ∈ r.endToEndReliableTxOrder) : Listed (entries.foldl (Router.reconcileEntry S E) r) := by
  induction entries generalizing r with
  | nil => exact h
  | cons e entries ih =>
    rw [List.foldl_cons]
    refine ih (h.reconcileEntry (hentries e List.mem_cons_self)) ?_
    intro f hf
    rw [reconcileEntry_order]
    exact hentries f (List.mem_cons_of_mem e hf)

theorem Listed.requeueEndToEnd (now : UInt64) (h : Listed r) (id : UInt64) : Listed (Router.requeueEndToEnd now r id) := by
  unfold Router.requeueEndToEnd
  cases hsent : r.endToEndReliableTx.lookup id with
  | none => exact h
  | some sent =>
    dsimp only
    split
    · exact h.erase rfl rfl
    · have hwaits : ({ sent with lastSendMs := now, queued := false } : EndToEndReliableSent).pendingDestinations.entries ≠ [] :=
        h.waits id sent hsent
      exact h.insert (h.listed id sent hsent) hwaits rfl rfl

theorem Listed.endToEndTimeouts (h : Listed r) : Listed (r.processEndToEndReliableTimeouts S E) := by
  unfold processEndToEndReliableTimeouts reconcileEndToEndReliableDestinations
  dsimp only
  generalize (r.toOwner.nowMs E).1 = now
  have hread : Listed (r.setOwner (r.toOwner.nowMs E).2) := h.congr rfl rfl
  generalize r.setOwner (r.toOwner.nowMs E).2 = r₁ at hread
  have hreconciled : Listed (r₁.endToEndReliableTx.entries.foldl (Router.reconcileEntry S E) r₁) := by
    refine hread.reconcile_foldl _ ?_
    intro e he
    exact hread.listed e.1 e.2 (AList.mem_lookup_iff.mpr he)
  generalize r₁.endToEndReliableTx.entries.foldl (Router.reconcileEntry S E) r₁ = r₂ at hreconciled
  -- the first loop marks entries, or erases them
  have hexpired : Listed { r₂ with endToEndReliableTx := expireEndToEnd now r₂.endToEndReliableTx } := by
    refine hreconciled.of_less rfl ?_
    intro id sent hsent
    obtain ⟨old, hold, heq⟩ := Map.mem_mapValues (List.of_mem_dlookup hsent)
    have hkept := List.mem_dlookup r₂.endToEndReliableTx.nodupKeys (Map.mem_keepIf hold)
    cases heq
    have hwaits := hreconciled.waits old.1 old.2 hkept
    refine ⟨hreconciled.listed _ _ hkept, ?_⟩
    split
    · exact hwaits
    · exact hwaits
  generalize endToEndRequeued now r₂.endToEndReliableTx = requeued
  generalize ({ r₂ with endToEndReliableTx := expireEndToEnd now r₂.endToEndReliableTx } : Router) = r₃ at hexpired
  induction requeued generalizing r₃ with
  | nil => exact hexpired
  | cons id requeued ih => exact ih _ (hexpired.requeueEndToEnd now id)

/-! ## Time sync -/

/-- End-to-end delivery is left alone. -/
def KeepsPackets (r r' : Router) : Prop :=
  r'.endToEndReliableTxOrder = r.endToEndReliableTxOrder ∧ r'.endToEndReliableTx = r.endToEndReliableTx

theorem KeepsPackets.of_books {r r' : Router} (h : r'.books = r.books) : KeepsPackets r r' := by
  unfold books at h
  simp only [Prod.mk.injEq] at h
  exact ⟨h.2.2, h.2.1⟩

theorem KeepsPackets.trans {r r' r'' : Router} (h : KeepsPackets r r') (h' : KeepsPackets r' r'') : KeepsPackets r r'' :=
  ⟨h'.1.trans h.1, h'.2.trans h.2⟩

theorem handleTimesyncPacket_keeps (pkt : PacketData) (srcSide : Option Int32) : KeepsPackets r (r.handleTimesyncPacket S E pkt srcSide) := by
  unfold handleTimesyncPacket
  dsimp only
  have hread : KeepsPackets r (r.setOwner (r.toOwner.nowMs E).2) := ⟨rfl, rfl⟩
  generalize (r.toOwner.nowMs E).1 = now
  generalize r.setOwner (r.toOwner.nowMs E).2 = r₁ at hread
  apply hread.trans
  split
  · unfold handleTimeSyncAnnounce
    dsimp only
    split
    · exact ⟨rfl, rfl⟩
    · split
      · exact ⟨rfl, rfl⟩
      · exact ⟨rfl, rfl⟩
  · split
    · exact .of_books (handleTimeSyncRequest_books S E _ now pkt srcSide)
    · split
      · exact ⟨rfl, rfl⟩
      · exact ⟨rfl, rfl⟩

theorem pollTimesync_keeps : KeepsPackets r (r.pollTimesync S E) := by
  unfold pollTimesync
  split
  · exact ⟨rfl, rfl⟩
  · dsimp only
    generalize (r.toOwner.nowMs E).1 = now
    have hpruned : KeepsPackets r { r.setOwner (r.toOwner.nowMs E).2 with timesync := pruneSources r.timesync now } := ⟨rfl, rfl⟩
    generalize ({ r.setOwner (r.toOwner.nowMs E).2 with timesync := pruneSources r.timesync now } : Router) = r₁ at hpruned
    apply hpruned.trans
    unfold pollRole
    dsimp only
    split
    · have htime : KeepsPackets r₁ (r₁.currentNetworkMs E).2 := .of_books (currentNetworkMs_books E r₁)
      exact htime.trans ⟨rfl, rfl⟩
    · split
      · unfold requestTime
        generalize (if r₁.timesync.currentSource.isEmpty then r₁.routedSource else r₁.timesync.currentSource) = source
        dsimp only
        split
        · exact ⟨rfl, rfl⟩
        · exact ⟨rfl, rfl⟩
      · exact ⟨rfl, rfl⟩

theorem getNetworkTimeMs_keeps : KeepsPackets r (r.getNetworkTimeMs E).2 := by
  have hswitch : KeepsPackets r (r.switchSource E) := by
    unfold switchSource
    split
    · exact ⟨rfl, rfl⟩
    · dsimp only
      split
      · exact ⟨rfl, rfl⟩
      · split
        · exact ⟨rfl, rfl⟩
        · have htime := KeepsPackets.of_books (currentNetworkMs_books E (r.setOwner (r.toOwner.nowMs E).2))
          exact (KeepsPackets.trans ⟨rfl, rfl⟩ htime).trans ⟨rfl, rfl⟩
  unfold getNetworkTimeMs
  split
  · exact ⟨rfl, rfl⟩
  · exact hswitch.trans (.of_books (currentNetworkMs_books E _))

theorem Listed.keeps (h : Listed r) {r' : Router} (hkeeps : KeepsPackets r r') : Listed r' := h.congr hkeeps.1 hkeeps.2

theorem Listed.step {T : Prop} (h : Listed r) {e : BookEvent} (hsound : e.Sound T) : Listed (r.bookStep S E e) := by
  cases e with
  | rememberEndToEnd pkt pending => exact h.rememberEndToEnd pkt hsound.2
  | endToEndAck pkt => exact h.handleEndToEndAck pkt
  | endToEndTimeouts => exact h.endToEndTimeouts
  | timesyncPacket pkt srcSide => exact h.keeps (handleTimesyncPacket_keeps pkt srcSide)
  | pollTimesync => exact h.keeps pollTimesync_keeps
  | configureTimesync enabled role priority sourceTimeoutMs announceIntervalMs requestIntervalMs =>
    show Listed (r.configureTimesync E enabled role priority sourceTimeoutMs announceIntervalMs requestIntervalMs)
    unfold configureTimesync
    dsimp only
    split
    · exact h.congr rfl rfl
    · exact h.congr rfl rfl
  | getNetworkTimeMs => exact h.keeps getNetworkTimeMs_keeps
  | setLocalNetworkTime unixMs => exact h.congr rfl rfl
  | clearLocalNetworkTime => exact h.congr rfl rfl
  | clearNetworkTimeSource source => exact h.congr rfl rfl
  | elsewhere f => exact h.keeps (.of_books (f.books r))

/-! ## Counting -/

/-- In listed books the packets of the map are the ids of the order that are not stale. -/
theorem Listed.waiting_length (h : Listed r) : r.waiting.length + r.stale.length = r.endToEndReliableTxOrder.length := by
  have hnodup : r.waiting.Nodup := by
    have hkeys : r.endToEndReliableTx.keys.Nodup := r.endToEndReliableTx.keys_nodup
    exact hkeys.sublist (List.filter_sublist.map _)
  have hlive : r.waiting.Perm (r.endToEndReliableTxOrder.filter (· ∈ r.waiting)) := by
    rw [List.perm_ext_iff_of_nodup hnodup (h.nodup.filter _)]
    intro id
    rw [List.mem_filter]
    refine ⟨fun hid => ⟨?_, by simpa using hid⟩, fun hid => by simpa using hid.2⟩
    obtain ⟨e, he, rfl⟩ := List.mem_map.mp hid
    exact h.listed e.1 e.2 (AList.mem_lookup_iff.mpr (List.mem_filter.mp he).1)
  have hsplit := List.length_eq_length_filter_add (l := r.endToEndReliableTxOrder) (fun id => decide (id ∈ r.waiting))
  rw [hlive.length_eq, hsplit]
  unfold stale
  simp

theorem mem_of_waiting {id : UInt64} (h : id ∈ r.waiting) : id ∈ r.endToEndReliableTx := by
  obtain ⟨e, he, rfl⟩ := List.mem_map.mp h
  exact AList.mem_keys.mpr (List.mem_map_of_mem (List.mem_filter.mp he).1)

/-- The id itself never goes. -/
theorem not_mem_gone {cap : Nat} {order : List UInt64} {id : UInt64} : id ∉ (rememberId cap order id).1 := by
  intro hmem
  have hfiltered := (List.mem_filter.mp (List.mem_of_mem_take hmem)).2
  simp at hfiltered

theorem Listed.spares_iff (h : Listed r) (pkt : PacketData) (pending : Map UInt64 Int32) :
    (∀ id ∈ r.waiting, id ∉ (r.rememberEndToEnd S E pkt pending).endToEndReliableTx → r.endToEndCap ≤ r.waiting.length) ↔
      r.SparesWaiting (packetId S pkt) := by
  have hcount := h.waiting_length
  constructor
  · intro hspares old hold hwaiting
    have hgone : old ∉ (r.rememberEndToEnd S E pkt pending).endToEndReliableTx := by
      rw [mem_rememberEndToEnd]
      rintro (rfl | ⟨-, hkept⟩)
      · exact not_mem_gone hold
      · exact hkept hold
    have hroom := hspares old hwaiting hgone
    omega
  · intro hspares id hwaiting hgone
    rw [mem_rememberEndToEnd, not_or, not_and, not_not] at hgone
    have hold := hgone.2 (mem_of_waiting hwaiting)
    have hroom := hspares id hold hwaiting
    omega

end

end Router

/-- **A packet that waits goes only when there is no room**, in every run of a router and for every packet that is remembered
    then, exactly when none goes to make room for what stale ids take up. -/
theorem rememberEndToEnd_spares_iff (S : Schema) (Z : Codec) (E : Env) (r : Router) (hmap : r.endToEndReliableTx = ∅)
    (horder : r.endToEndReliableTxOrder = []) (acts : List Router.Act) (pkt : PacketData) (pending : Map UInt64 Int32) :
    let r' := runFrom (Router.perform S Z E) r acts
    (∀ id ∈ r'.waiting, id ∉ (r'.rememberEndToEnd S E pkt pending).endToEndReliableTx →
      max 1 r'.tuning.reliableMaxEndToEndPending ≤ r'.waiting.length) ↔ r'.SparesWaiting (packetId S pkt) := by
  intro r'
  have hstart : r.Listed := .empty hmap horder
  have hlisted : r'.Listed := (Router.runFrom_writes S Z E r acts).invariant hstart fun r e hsound h => h.step hsound
  exact hlisted.spares_iff pkt pending

/-! ## A report that has to go -/

/-- The report of a time. -/
def reportAt (time : UInt64) : PacketData := { gpsPacket with timestamp := time }

/-- A report is sent. -/
def sendReport (time : UInt64) : List Router.Act := [.transmitMessageQueue { gpsView with timestamp := time }, .transmitNext]

/-- A router that remembers two packets knows the node `A`, and sends two reports. `A` acknowledges the second. -/
def secondDoneActs : List Router.Act :=
  [.configure (.setRuntimeTuningConfig { Tuning.default with reliableMaxEndToEndPending := 2 }),
    .receiveFromSide 0 (cardAnnouncement (ascii "A"))] ++ sendReport 1 ++ sendReport 2 ++
    [.receiveFromSide 0 ⟨SEDS_DT_RELIABLE_ACK, kEndToEndAckPrefix ++ ascii "A", some [SEDS_EP_DISCOVERY], 9,
      some (appendLe64 (packetId defaultTestSchema (reportAt 2))), 8⟩]

/-- While both wait, the first makes room for a third. -/
theorem rememberEndToEnd_spares_third :
    let r := runFrom (Router.perform defaultTestSchema (.absent 16) .paced) reportingRouter (secondDoneActs.take 6)
    r.waiting = [packetId defaultTestSchema (reportAt 2), packetId defaultTestSchema (reportAt 1)] ∧
    ∀ id ∈ r.waiting, id ∉ (r.rememberEndToEnd defaultTestSchema .paced (reportAt 3) ∅).endToEndReliableTx →
      max 1 r.tuning.reliableMaxEndToEndPending ≤ r.waiting.length := by
  have hiff := rememberEndToEnd_spares_iff defaultTestSchema (.absent 16) .paced reportingRouter rfl rfl (secondDoneActs.take 6)
    (reportAt 3) ∅
  have hrun :
      let r := runFrom (Router.perform defaultTestSchema (.absent 16) .paced) reportingRouter (secondDoneActs.take 6)
      r.waiting = [packetId defaultTestSchema (reportAt 2), packetId defaultTestSchema (reportAt 1)] ∧
      r.SparesWaiting (packetId defaultTestSchema (reportAt 3)) := by
    simp only [secondDoneActs, defaultTestSchema_eq]
    decide +kernel
  generalize runFrom (Router.perform defaultTestSchema (.absent 16) .paced) reportingRouter (secondDoneActs.take 6) = r at hiff hrun
  exact ⟨hrun.1, hiff.mpr hrun.2⟩

/-- The second is done, and the first has to go all the same when a third is sent: one packet waits, and two may. -/
theorem rememberEndToEnd_evicts :
    let r := runFrom (Router.perform defaultTestSchema (.absent 16) .paced) reportingRouter (secondDoneActs ++ (sendReport 3).take 1)
    r.waiting = [packetId defaultTestSchema (reportAt 1)] ∧ r.endToEndCap = 2 ∧
    packetId defaultTestSchema (reportAt 1) ∉
      (r.perform defaultTestSchema (.absent 16) .paced .transmitNext).endToEndReliableTx := by
  simp only [secondDoneActs, defaultTestSchema_eq]
  decide +kernel

end SedsNet
