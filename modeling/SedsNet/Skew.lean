import SedsNet.SetTime

/-!
# How far network times are apart

The network time of a router is an anchor: a network time, and the reading of the local clock that belongs to it. A reference
runs beside the local clock, `ν` ahead of it, and what is known about the time is measured against it: `behind` is how much
later the reference is. All of it is 64-bit arithmetic that wraps, and none of what follows needs it not to.

A time that a packet states is old by the time the packet is handled. If no such time is ever more than `D` behind, the network
time never is, whatever else happens: sources that come and go, failover, polls. So two routers that follow one reference are
never more than `D` apart, and what either of them tells others is no older.
-/

set_option autoImplicit false

namespace SedsNet

open Lib

/-- How far `time` is behind the reference at the reading `now` of the local clock. -/
def behind (ν now time : UInt64) : UInt64 := now + ν - time

/-- The network time at a reading of the clock. -/
def TimeSyncRuntime.shown (sync : TimeSyncRuntime) (now : UInt64) : UInt64 :=
  sync.networkAnchorUnixMs + (now - sync.networkAnchorLocalMs)

/-- The anchor and the sources are at most `D` behind. An entry without a time is one that `operator[]` made. -/
structure TimeSyncRuntime.Accurate (ν D : UInt64) (sync : TimeSyncRuntime) : Prop where
  anchor : sync.hasNetworkTime = true → behind ν sync.networkAnchorLocalMs sync.networkAnchorUnixMs ≤ D
  sources : ∀ name source, sync.sources.lookup name = some source →
    behind ν source.lastSeenMs source.lastTimeMs ≤ D ∨ source.lastSeenMs = 0

section

variable {ν D : UInt64} {sync sync' : TimeSyncRuntime}

/-- A clock that runs on is behind by what it was. -/
theorem behind_shown (ν now : UInt64) (sync : TimeSyncRuntime) :
    behind ν now (sync.shown now) = behind ν sync.networkAnchorLocalMs sync.networkAnchorUnixMs := by
  unfold behind TimeSyncRuntime.shown
  grind

namespace TimeSyncRuntime

theorem Accurate.shown (h : sync.Accurate ν D) (hknown : sync.hasNetworkTime = true) (now : UInt64) :
    behind ν now (sync.shown now) ≤ D := by
  rw [behind_shown]
  exact h.anchor hknown

/-- Fewer sources, and the same anchor. -/
theorem Accurate.of_anchored (h : sync.Accurate ν D) (hanchor : sync.Anchored sync')
    (hsources : ∀ name source, sync'.sources.lookup name = some source → sync.sources.lookup name = some source) :
    sync'.Accurate ν D := by
  refine ⟨?_, fun name source hsource => h.sources name source (hsources name source hsource)⟩
  rw [hanchor.known, hanchor.localMs, hanchor.unixMs]
  exact h.anchor

theorem Accurate.anchoredAt (h : sync.Accurate ν D) {now unixMs : UInt64} (hnow : behind ν now unixMs ≤ D)
    (hlocal : sync'.networkAnchorLocalMs = now) (hunix : sync'.networkAnchorUnixMs = unixMs) (hsources : sync'.sources = sync.sources) :
    sync'.Accurate ν D := by
  refine ⟨?_, ?_⟩
  · intro _
    rw [hlocal, hunix]
    exact hnow
  · rw [hsources]
    exact h.sources

end TimeSyncRuntime

end

namespace Router

/-! ## Events -/

/-- The event states no time that is more than `D` behind when it is handled. The router turns to another source only once its
    clock is past the timeout, so that entries without a time are quiet, and does not see the clock tick while it does. -/
def Timely (E : Env) (ν D : UInt64) (r : Router) : BookEvent → Prop
  | .timesyncPacket pkt _ =>
    (pkt.ty = SEDS_DT_TIME_SYNC_ANNOUNCE ∧ pkt.payload.length ≥ 16 → behind ν (E.clock r.clockReads) (loadLe64 pkt.payload 8) ≤ D) ∧
      (pkt.ty = SEDS_DT_TIME_SYNC_RESPONSE ∧ pkt.payload.length ≥ 32 → behind ν (E.clock r.clockReads) (loadLe64 pkt.payload 24) ≤ D)
  | .configureTimesync enabled role _ _ _ _ =>
    enabled = true ∧ role = 1 ∧ r.timesync.hasNetworkTime = false →
      behind ν (E.clock r.clockReads) (1700000000000 + E.clock r.clockReads) ≤ D
  | .setLocalNetworkTime unixMs => behind ν (E.clock r.clockReads) unixMs ≤ D
  | .getNetworkTimeMs =>
    E.clock r.clockReads > r.timesync.sourceTimeoutMs ∧ E.clock (r.clockReads + 1) = E.clock r.clockReads
  | _ => True

instance (E : Env) (ν D : UInt64) (r : Router) : (e : BookEvent) → Decidable (r.Timely E ν D e)
  | .timesyncPacket _ _ => inferInstanceAs (Decidable (_ ∧ _))
  | .configureTimesync _ _ _ _ _ _ => inferInstanceAs (Decidable (_ → _))
  | .setLocalNetworkTime _ => inferInstanceAs (Decidable (_ ≤ _))
  | .getNetworkTimeMs => inferInstanceAs (Decidable (_ ∧ _))
  | .rememberEndToEnd _ _ | .endToEndAck _ | .endToEndTimeouts | .pollTimesync | .clearLocalNetworkTime
  | .clearNetworkTimeSource _ | .elsewhere _ => .isTrue trivial

section

variable {S : Schema} {E : Env} {ν D : UInt64} {r : Router}

theorem handleTimeSyncAnnounce_accurate (h : r.timesync.Accurate ν D) {now : UInt64} {pkt : PacketData}
    (htime : behind ν now (loadLe64 pkt.payload 8) ≤ D) : (r.handleTimeSyncAnnounce now pkt).timesync.Accurate ν D := by
  have hnoted : ∀ name source, (r.timesync.sources.insert pkt.sender
      ⟨loadLe64 pkt.payload 0, now, loadLe64 pkt.payload 8⟩).lookup name = some source →
      behind ν source.lastSeenMs source.lastTimeMs ≤ D ∨ source.lastSeenMs = 0 := by
    intro name source hsource
    by_cases hname : name = pkt.sender
    · rw [hname, AList.lookup_insert] at hsource
      cases hsource
      exact .inl htime
    · rw [AList.lookup_insert_ne hname] at hsource
      exact h.sources name source hsource
  unfold handleTimeSyncAnnounce
  dsimp only
  split
  · exact ⟨fun _ => htime, hnoted⟩
  · -- the current source is entered, without a time if it had no entry
    have hentered : ∀ name source, ((r.timesync.sources.insert pkt.sender ⟨loadLe64 pkt.payload 0, now, loadLe64 pkt.payload 8⟩).insert
        r.timesync.currentSource (Map.getOr (r.timesync.sources.insert pkt.sender
          ⟨loadLe64 pkt.payload 0, now, loadLe64 pkt.payload 8⟩) r.timesync.currentSource ⟨0, 0, 0⟩)).lookup name = some source →
        behind ν source.lastSeenMs source.lastTimeMs ≤ D ∨ source.lastSeenMs = 0 := by
      intro name source hsource
      by_cases hname : name = r.timesync.currentSource
      · rw [hname, AList.lookup_insert, Option.some.injEq] at hsource
        unfold Map.getOr at hsource
        cases hold : (r.timesync.sources.insert pkt.sender ⟨loadLe64 pkt.payload 0, now, loadLe64 pkt.payload 8⟩).lookup
            r.timesync.currentSource with
        | none =>
          rw [hold] at hsource
          cases hsource
          exact .inr rfl
        | some current =>
          rw [hold] at hsource
          cases hsource
          exact hnoted _ _ hold
      · rw [AList.lookup_insert_ne hname] at hsource
        exact hnoted name source hsource
    split
    · exact ⟨fun _ => htime, hentered⟩
    · exact ⟨h.anchor, hentered⟩

theorem eq_or_eq_max (a b : UInt64) : max a b = a ∨ max a b = b := by
  show (if a ≤ b then b else a) = a ∨ (if a ≤ b then b else a) = b
  split
  · exact .inr rfl
  · exact .inl rfl

/-- A source that is heard and has a time is what the search ends with, if it ends with one. -/
theorem foldl_bestSource_mem {now : UInt64} {sync : TimeSyncRuntime} {name : Bytes} {source : TimeSyncSource} (hname : name ≠ [])
    (hloop : sync.sources.entries.foldl (bestSource now sync.sourceTimeoutMs) ([], ⟨0xFFFFFFFFFFFFFFFF, 0, 0⟩) = (name, source)) :
    sync.sources.lookup name = some source ∧ now - source.lastSeenMs ≤ sync.sourceTimeoutMs := by
  obtain ⟨best, hargmin, hloop'⟩ := foldl_bestSource sync now
  rw [hloop', Prod.mk.injEq] at hloop
  have hbest : best = ⟨name, source⟩ := Sigma.ext hloop.1 (heq_of_eq hloop.2)
  subst hbest
  rcases List.mem_cons.mp (List.argmin_mem (Option.mem_def.mpr hargmin)) with hnone | hheard
  · rw [Sigma.mk.injEq] at hnone
    exact absurd hnone.1 hname
  · obtain ⟨hmem, hlive⟩ := List.mem_filter.mp hheard
    exact ⟨AList.mem_lookup_iff.mpr hmem, by simpa using hlive⟩

theorem switchSource_accurate (h : r.timesync.Accurate ν D) (hknown : r.timesync.hasNetworkTime = true)
    (hpast : E.clock r.clockReads > r.timesync.sourceTimeoutMs) (hstill : E.clock (r.clockReads + 1) = E.clock r.clockReads) :
    (switchSource E r).timesync.Accurate ν D := by
  unfold switchSource
  split
  · exact h
  · dsimp only
    rw [show (r.toOwner.nowMs E).1 = E.clock r.clockReads from rfl]
    split
    · exact h
    · generalize hbest : r.timesync.sources.entries.foldl (bestSource (E.clock r.clockReads) r.timesync.sourceTimeoutMs)
        ([], ⟨0xFFFFFFFFFFFFFFFF, 0, 0⟩) = best
      have hsame : (r.setOwner (r.toOwner.nowMs E).2).timesync.sources.entries.foldl (bestSource (E.clock r.clockReads)
          (r.setOwner (r.toOwner.nowMs E).2).timesync.sourceTimeoutMs) ([], ⟨0xFFFFFFFFFFFFFFFF, 0, 0⟩) = best := hbest
      rw [hsame]
      split
      · exact h
      · rename_i hempty
        have hname : best.1 ≠ [] := mt List.isEmpty_iff.mpr hempty
        obtain ⟨hentry, hlive⟩ := foldl_bestSource_mem hname hbest
        have hcurrent : ((r.setOwner (r.toOwner.nowMs E).2).currentNetworkMs E).1 = r.timesync.shown (E.clock r.clockReads) := by
          rw [currentNetworkMs_known (r := r.setOwner (r.toOwner.nowMs E).2) hknown]
          show r.timesync.networkAnchorUnixMs + (E.clock (r.clockReads + 1) - r.timesync.networkAnchorLocalMs) = _
          rw [hstill]
          rfl
        have hcandidate : behind ν (E.clock r.clockReads) (best.2.lastTimeMs + (E.clock r.clockReads - best.2.lastSeenMs)) ≤ D := by
          rcases h.sources _ _ hentry with htime | hzero
          · have heq : behind ν (E.clock r.clockReads) (best.2.lastTimeMs + (E.clock r.clockReads - best.2.lastSeenMs)) =
                behind ν best.2.lastSeenMs best.2.lastTimeMs := by
              unfold behind
              grind
            rw [heq]
            exact htime
          · -- an entry without a time is quiet
            rw [hzero, UInt64.sub_zero] at hlive
            exact absurd hpast (UInt64.not_lt.mpr hlive)
        rw [currentNetworkMs_timesync]
        refine ⟨fun _ => ?_, h.sources⟩
        dsimp only
        rw [hcurrent]
        rcases eq_or_eq_max (best.2.lastTimeMs + (E.clock r.clockReads - best.2.lastSeenMs)) (r.timesync.shown (E.clock r.clockReads)) with
          hmax | hmax
        · rw [hmax]
          exact hcandidate
        · rw [hmax]
          exact h.shown hknown _

theorem pollRole_sources (S : Schema) (E : Env) (r : Router) (now : UInt64) :
    (pollRole S E r now).timesync.sources = r.timesync.sources := by
  unfold pollRole
  dsimp only
  split
  · unfold announceTime
    dsimp only
    rw [currentNetworkMs_timesync]
  · split
    · unfold requestTime
      generalize (if r.timesync.currentSource.isEmpty then r.routedSource else r.timesync.currentSource) = asked
      dsimp only
      split
      · rfl
      · rfl
    · rfl

/-- A poll forgets sources, and learns of none. -/
theorem pollTimesync_sources (S : Schema) (E : Env) (r : Router) {name : Bytes} {source : TimeSyncSource}
    (h : (pollTimesync S E r).timesync.sources.lookup name = some source) : r.timesync.sources.lookup name = some source := by
  unfold pollTimesync at h
  split at h
  · exact h
  · dsimp only at h
    rw [pollRole_sources] at h
    unfold pruneSources at h
    dsimp only at h
    split at h
    · exact (Map.lookup_keepIf_iff.mp h).1
    · exact (Map.lookup_keepIf_iff.mp h).1

/-- **One event** keeps what is known about the time accurate. -/
theorem bookStep_accurate (h : r.timesync.Accurate ν D) {e : BookEvent} (htimely : r.Timely E ν D e) :
    (bookStep S E r e).timesync.Accurate ν D := by
  cases e with
  | timesyncPacket pkt srcSide =>
    show (r.handleTimesyncPacket S E pkt srcSide).timesync.Accurate ν D
    unfold handleTimesyncPacket
    dsimp only
    split
    · rename_i hannounce
      exact handleTimeSyncAnnounce_accurate (r := r.setOwner (r.toOwner.nowMs E).2) h (htimely.1 hannounce)
    · split
      · have hsame := congrArg Prod.fst (handleTimeSyncRequest_books S E (r.setOwner (r.toOwner.nowMs E).2) (r.toOwner.nowMs E).1 pkt srcSide)
        show (handleTimeSyncRequest S E (r.setOwner (r.toOwner.nowMs E).2) (r.toOwner.nowMs E).1 pkt srcSide).books.1.Accurate ν D
        rw [show _ = r.timesync from hsame]
        exact h
      · split
        · rename_i hresponse
          exact h.anchoredAt (htimely.2 hresponse) rfl rfl rfl
        · exact h
  | pollTimesync => exact h.of_anchored (pollTimesync_anchored S E r).2 fun _ _ => pollTimesync_sources S E r
  | configureTimesync enabled role priority sourceTimeoutMs announceIntervalMs requestIntervalMs =>
    show (r.configureTimesync E enabled role priority sourceTimeoutMs announceIntervalMs requestIntervalMs).timesync.Accurate ν D
    unfold configureTimesync
    dsimp only
    split
    · rename_i hsource
      simp only [Bool.and_eq_true, beq_iff_eq, Bool.not_eq_true'] at hsource
      exact h.anchoredAt (htimely ⟨hsource.1.1, hsource.1.2, hsource.2⟩) rfl rfl rfl
    · exact ⟨h.anchor, h.sources⟩
  | getNetworkTimeMs =>
    show (getNetworkTimeMs E r).2.timesync.Accurate ν D
    unfold getNetworkTimeMs
    cases hknown : r.timesync.hasNetworkTime with
    | false => exact h
    | true =>
      rw [if_neg (by simp), currentNetworkMs_timesync]
      exact switchSource_accurate h hknown htimely.1 htimely.2
  | setLocalNetworkTime unixMs =>
    show (setLocalNetworkTime E r unixMs).timesync.Accurate ν D
    unfold setLocalNetworkTime
    dsimp only
    split
    · exact h.anchoredAt htimely rfl rfl rfl
    · exact h.anchoredAt htimely rfl rfl rfl
  | clearLocalNetworkTime => exact ⟨fun hknown => absurd hknown Bool.false_ne_true, h.sources⟩
  | clearNetworkTimeSource source =>
    show (r.clearNetworkTimeSource source).timesync.Accurate ν D
    have herased : ∀ name entry, (r.timesync.sources.erase source).lookup name = some entry →
        behind ν entry.lastSeenMs entry.lastTimeMs ≤ D ∨ entry.lastSeenMs = 0 := by
      intro name entry hentry
      by_cases hname : name = source
      · rw [hname, AList.lookup_erase] at hentry
        cases hentry
      · rw [AList.lookup_erase_ne hname] at hentry
        exact h.sources name entry hentry
    unfold clearNetworkTimeSource
    dsimp only
    split
    · exact ⟨h.anchor, herased⟩
    · exact ⟨h.anchor, herased⟩
  | rememberEndToEnd pkt pending => exact h
  | endToEndAck pkt =>
    show (r.handleEndToEndAck pkt).timesync.Accurate ν D
    rw [handleEndToEndAck_timesync]
    exact h
  | endToEndTimeouts =>
    show (r.processEndToEndReliableTimeouts S E).timesync.Accurate ν D
    rw [endToEndTimeouts_timesync]
    exact h
  | elsewhere f =>
    have hbooks : (f.change r).timesync = r.timesync := congrArg Prod.fst (f.books r)
    show (f.change r).timesync.Accurate ν D
    rw [hbooks]
    exact h

/-! ## What is told to others -/

/-- The time that an announcement or a response states. -/
def statedTime (pkt : PacketData) : Option UInt64 :=
  if pkt.ty = SEDS_DT_TIME_SYNC_ANNOUNCE then some (loadLe64 pkt.payload 8)
  else if pkt.ty = SEDS_DT_TIME_SYNC_RESPONSE then some (loadLe64 pkt.payload 24)
  else none

/-- The packet states a time that is at most `D` behind at a reading from `read` on, if it states one. -/
def TellsTime (E : Env) (ν D : UInt64) (read : Nat) (pkt : PacketData) : Prop :=
  ∀ time ∈ statedTime pkt, ∃ k, read ≤ k ∧ behind ν (E.clock k) time ≤ D

theorem currentNetworkMs_txQueue (r : Router) : (r.currentNetworkMs E).2.txQueue = r.txQueue := by
  unfold currentNetworkMs
  split
  · rfl
  · rfl

/-- What a queue has more of than before is one item. -/
theorem mem_enqueueTxAt {front : Bool} {o : Owner} {item x : TxItem} (h : x ∈ (o.enqueueTxAt front item).txQueue.items) :
    x ∈ o.txQueue.items ∨ x = item :=
  (Owner.Emits.enqueueTxAt (P := (· = item)) (Q := fun _ => True) front o rfl).tx x h

theorem statedTime_announce (S : Schema) (now priority time : UInt64) (sender : Bytes) :
    statedTime (makeInternalPacket S SEDS_DT_TIME_SYNC_ANNOUNCE now (appendLe64 priority ++ appendLe64 time) sender) = some time := by
  have htime : Continues (appendLe64 priority ++ appendLe64 time) 8 (appendLe64 time) [] := by
    rw [Continues, List.append_nil]
    exact List.drop_left' rfl
  show some (loadLe64 (appendLe64 priority ++ appendLe64 time) 8) = some time
  rw [loadLe64_append time htime]

theorem statedTime_response (S : Schema) (now seq t1 t2 t3 : UInt64) (sender : Bytes) :
    statedTime (makeInternalPacket S SEDS_DT_TIME_SYNC_RESPONSE now
      (appendLe64 seq ++ appendLe64 t1 ++ appendLe64 t2 ++ appendLe64 t3) sender) = some t3 := by
  have htime : Continues (appendLe64 seq ++ appendLe64 t1 ++ appendLe64 t2 ++ appendLe64 t3) 24 (appendLe64 t3) [] := by
    rw [Continues, List.append_nil]
    exact List.drop_left' rfl
  show some (loadLe64 (appendLe64 seq ++ appendLe64 t1 ++ appendLe64 t2 ++ appendLe64 t3) 24) = some t3
  rw [loadLe64_append t3 htime]

/-- What a router that knows the time reads at some reading of its clock. -/
theorem Accurate.currentNetworkMs {p : Router} (h : r.timesync.Accurate ν D) (hknown : r.timesync.hasNetworkTime = true)
    (hanchor : r.timesync.Anchored p.timesync) :
    behind ν (E.clock p.clockReads) (p.currentNetworkMs E).1 ≤ D := by
  rw [currentNetworkMs_known (hanchor.known.trans hknown), hanchor.unixMs, hanchor.localMs]
  exact h.shown hknown _

/-- **A poll** tells no time that is further behind. -/
theorem pollTimesync_tells (S : Schema) (h : r.timesync.Accurate ν D) (hknown : r.timesync.hasNetworkTime = true) {item : TxItem}
    (hitem : item ∈ (pollTimesync S E r).txQueue.items) : item ∈ r.txQueue.items ∨ TellsTime E ν D r.clockReads item.pkt := by
  unfold pollTimesync at hitem
  split at hitem
  · exact .inl hitem
  · dsimp only at hitem
    generalize hr₁ : ({ r.setOwner (r.toOwner.nowMs E).2 with
      timesync := pruneSources r.timesync (r.toOwner.nowMs E).1 } : Router) = r₁ at hitem
    have hanchor : r.timesync.Anchored r₁.timesync := by
      rw [← hr₁]
      exact pruneSources_anchored r.timesync _
    have hqueue : r₁.txQueue = r.txQueue := by
      rw [← hr₁]
      rfl
    have hread : r.clockReads ≤ r₁.clockReads := by
      rw [← hr₁]
      exact Nat.le_succ _
    unfold pollRole at hitem
    dsimp only at hitem
    split at hitem
    · unfold announceTime at hitem
      rcases mem_enqueueTxAt hitem with hold | rfl
      · rw [currentNetworkMs_txQueue, hqueue] at hold
        exact .inl hold
      · right
        intro time htime
        dsimp only at htime
        rw [statedTime_announce] at htime
        cases htime
        exact ⟨r₁.clockReads, hread, Accurate.currentNetworkMs h hknown hanchor⟩
    · split at hitem
      · unfold requestTime at hitem
        generalize (if r₁.timesync.currentSource.isEmpty then r₁.routedSource else r₁.timesync.currentSource) = asked at hitem
        dsimp only at hitem
        split at hitem
        · rw [hqueue] at hitem
          exact .inl hitem
        · rcases mem_enqueueTxAt hitem with hold | rfl
          · rw [hqueue] at hold
            exact .inl hold
          · right
            intro time htime
            cases htime
      · rw [hqueue] at hitem
        exact .inl hitem

/-- **An answer** tells no time that is further behind. -/
theorem handleTimesyncPacket_tells (S : Schema) (h : r.timesync.Accurate ν D) (hknown : r.timesync.hasNetworkTime = true)
    {pkt : PacketData} {srcSide : Option Int32} {item : TxItem}
    (hitem : item ∈ (r.handleTimesyncPacket S E pkt srcSide).txQueue.items) :
    item ∈ r.txQueue.items ∨ TellsTime E ν D r.clockReads item.pkt := by
  unfold handleTimesyncPacket at hitem
  dsimp only at hitem
  split at hitem
  · left
    unfold handleTimeSyncAnnounce at hitem
    dsimp only at hitem
    split at hitem
    · exact hitem
    · split at hitem
      · exact hitem
      · exact hitem
  · split at hitem
    · unfold handleTimeSyncRequest at hitem
      split at hitem
      · dsimp only at hitem
        rcases mem_enqueueTxAt hitem with hold | rfl
        · rw [currentNetworkMs_txQueue, currentNetworkMs_txQueue] at hold
          exact .inl hold
        · right
          intro time htime
          dsimp only at htime
          rw [statedTime_response] at htime
          cases htime
          refine ⟨_, ?_, Accurate.currentNetworkMs h hknown ?_⟩
          · exact (Nat.le_succ _).trans (clockReads_currentNetworkMs E (r.setOwner (r.toOwner.nowMs E).2))
          · rw [currentNetworkMs_timesync]
            exact .refl _
      · exact .inl hitem
    · split at hitem
      · exact .inl hitem
      · exact .inl hitem

end

/-! ## Runs -/

theorem run_accurate (S : Schema) {E : Env} {ν D : UInt64} {r : Router} (hstart : r.timesync.Accurate ν D) {events : List BookEvent}
    (hrun : Along (bookStep S E) (Timely E ν D) r events) : (runFrom (bookStep S E) r events).timesync.Accurate ν D :=
  hrun.invariant (I := fun r => r.timesync.Accurate ν D) hstart fun _ _ htimely h => bookStep_accurate h htimely

/-- Two times that are at most `D` behind one reference are at most `D` apart. -/
theorem apart_of_behind {D reference time time' : UInt64} (h : reference - time ≤ D) (h' : reference - time' ≤ D) :
    time - time' ≤ D ∨ time' - time ≤ D := by
  have hdiff : time - time' = (reference - time') - (reference - time) := by grind
  have hdiff' : time' - time = (reference - time) - (reference - time') := by grind
  rw [hdiff, hdiff']
  generalize reference - time = lag at h ⊢
  generalize reference - time' = lag' at h' ⊢
  simp only [UInt64.le_iff_toNat_le] at h h' ⊢
  by_cases hle : lag ≤ lag'
  · left
    rw [UInt64.toNat_sub_of_le _ _ hle]
    omega
  · right
    rw [UInt64.toNat_sub_of_le _ _ (UInt64.le_of_lt (UInt64.not_le.mp hle))]
    omega

/-- A router that was started when its clock stood at 0. -/
def freshRouter (sender : Bytes) : Router := .new .Sink sender [] []

theorem freshRouter_accurate (ν D : UInt64) (sender : Bytes) : (freshRouter sender).timesync.Accurate ν D := by
  refine ⟨fun hknown => absurd hknown Bool.false_ne_true, ?_⟩
  intro name source hsource
  cases hsource

/-- A clock that stands still. -/
def stillAt (now : UInt64) : Env := ⟨fun _ => now, fun _ => SEDS_OK⟩

/-- The source announces the time, which is 1 700 000 100 000 now, 20 ms late. -/
def gpsAnnounce : PacketData :=
  ⟨SEDS_DT_TIME_SYNC_ANNOUNCE, ascii "GPS", [], 0, appendLe64 10 ++ appendLe64 1700000099980⟩

def heardEvents : List BookEvent := [.timesyncPacket gpsAnnounce (some 0), .pollTimesync, .getNetworkTimeMs]

/-- The operator sets the time 50 ms late. -/
def setEvents : List BookEvent := [.setLocalNetworkTime 1700000099950, .pollTimesync, .clearNetworkTimeSource (ascii "GPS")]

abbrev hearing : Router := runFrom (bookStep ⟨[], []⟩ (stillAt 9000)) (freshRouter (ascii "A")) heardEvents

abbrev setting : Router := runFrom (bookStep ⟨[], []⟩ (stillAt 20000)) (freshRouter (ascii "B")) setEvents

theorem heard_timely :
    Along (bookStep ⟨[], []⟩ (stillAt 9000)) (Timely (stillAt 9000) 1700000091000 50) (freshRouter (ascii "A")) heardEvents ∧
    hearing.timesync.hasNetworkTime = true ∧
    Along (bookStep ⟨[], []⟩ (stillAt 20000)) (Timely (stillAt 20000) 1700000080000 50) (freshRouter (ascii "B")) setEvents ∧
    setting.timesync.hasNetworkTime = true := by
  decide +kernel

end Router

end SedsNet
