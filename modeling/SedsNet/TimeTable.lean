import SedsNet.Router.Books
import SedsNet.Silence

/-!
# The table of time sources

A router keeps what it last heard from each source of time, and which of them it follows, under the name of the source and
with a copy of its priority. `timeTable_agrees` says that table and copy agree with the announcements, along every run whose
events meet `KeepsTable`. The events that do not are those in which the code takes a name for a source that is none, or leaves
the copy behind: `handleTimeSyncAnnounce_phantom` is the entry that `operator[]` makes for the name `local`.
-/

set_option autoImplicit false

namespace SedsNet

open Lib

/-- What each source announced last: its priority, and its time. -/
abbrev Heard : Type := Bytes → Option (UInt64 × UInt64)

/-- A `TIME_SYNC_ANNOUNCE` with a priority and a time. -/
def isTimeAnnounce (pkt : PacketData) : Bool := pkt.ty == SEDS_DT_TIME_SYNC_ANNOUNCE && decide (pkt.payload.length ≥ 16)

/-- The table holds what was announced, and the priority of the current source, if it is one of the table. -/
structure TimeTable (heard : Heard) (sync : TimeSyncRuntime) : Prop where
  entries : ∀ name source, sync.sources.lookup name = some source → heard name = some (source.priority, source.lastTimeMs)
  current : ∀ source, sync.sources.lookup sync.currentSource = some source → sync.currentSourcePriority = source.priority

namespace TimeSyncRuntime

/-- The first three tests of an announcement: it is followed without a look at the table. -/
def followsAt (sync : TimeSyncRuntime) (priority : UInt64) : Bool :=
  !sync.hasNetworkTime || priority < sync.currentSourcePriority || sync.currentSource.isEmpty

/-- The name is none of the table's, or has this priority there. -/
def Suits (sync : TimeSyncRuntime) (name : Bytes) (priority : UInt64) : Prop :=
  ∀ source, sync.sources.lookup name = some source → priority = source.priority

instance (sync : TimeSyncRuntime) (name : Bytes) (priority : UInt64) : Decidable (sync.Suits name priority) :=
  match h : sync.sources.lookup name with
  | none => .isTrue fun source hsource => absurd (h.symm.trans hsource) (Option.some_ne_none source).symm
  | some source =>
    if heq : priority = source.priority then .isTrue fun other hother => by rw [heq, Option.some.inj (h.symm.trans hother)]
    else .isFalse fun hsuits => heq (hsuits source h)

end TimeSyncRuntime

namespace Router

/-- `poll_timesync` takes the source it asks from the routes. -/
def adoptsRouted (r : Router) (sync : TimeSyncRuntime) (now : UInt64) : Bool :=
  sync.role == 0 && decide (now ≥ sync.lastRequestMs + sync.requestIntervalMs) && sync.currentSource.isEmpty && !r.routedSource.isEmpty

/-- What is left after the quiet sources are forgotten, and the name that is cleared or taken from the routes. -/
def PollKeeps (r : Router) (sync : TimeSyncRuntime) (now : UInt64) : Prop :=
  (sync.currentSource ≠ r.timesync.currentSource → sync.Suits [] 0xFFFFFFFFFFFFFFFF) ∧
  (r.adoptsRouted sync now = true → sync.Suits r.routedSource sync.currentSourcePriority)

instance (r : Router) (sync : TimeSyncRuntime) (now : UInt64) : Decidable (r.PollKeeps sync now) :=
  inferInstanceAs (Decidable ((sync.currentSource ≠ r.timesync.currentSource → sync.Suits [] 0xFFFFFFFFFFFFFFFF) ∧
    (r.adoptsRouted sync now = true → sync.Suits r.routedSource sync.currentSourcePriority)))

/-- The events that keep the table: an announcement that is compared with the current source finds it in the table, and
    is not its own with a higher number; and a name that becomes the current source without an announcement is none of the
    table's, or has the priority that is noted. -/
def KeepsTable (E : Env) (r : Router) : BookEvent → Prop
  | .timesyncPacket pkt _ =>
    isTimeAnnounce pkt = true → r.timesync.followsAt (loadLe64 pkt.payload 0) = false →
      if r.timesync.currentSource = pkt.sender then loadLe64 pkt.payload 0 = r.timesync.currentSourcePriority
      else r.timesync.currentSource ∈ r.timesync.sources
  | .pollTimesync => r.timesync.enabled = true → r.PollKeeps (pruneSources r.timesync (r.toOwner.nowMs E).1) (r.toOwner.nowMs E).1
  | .setLocalNetworkTime _ =>
    r.timesync.currentSource.isEmpty = true → r.timesync.Suits (ascii "local") r.timesync.priority
  | .clearLocalNetworkTime => r.timesync.Suits [] 0xFFFFFFFFFFFFFFFF
  | .clearNetworkTimeSource source =>
    r.timesync.currentSource = source → { r.timesync with sources := r.timesync.sources.erase source }.Suits [] 0xFFFFFFFFFFFFFFFF
  | _ => True

instance (E : Env) (r : Router) : (e : BookEvent) → Decidable (r.KeepsTable E e)
  | .timesyncPacket pkt _ =>
    inferInstanceAs (Decidable (isTimeAnnounce pkt = true → r.timesync.followsAt (loadLe64 pkt.payload 0) = false →
      if r.timesync.currentSource = pkt.sender then loadLe64 pkt.payload 0 = r.timesync.currentSourcePriority
      else r.timesync.currentSource ∈ r.timesync.sources))
  | .pollTimesync =>
    inferInstanceAs (Decidable (r.timesync.enabled = true →
      r.PollKeeps (pruneSources r.timesync (r.toOwner.nowMs E).1) (r.toOwner.nowMs E).1))
  | .setLocalNetworkTime _ =>
    inferInstanceAs (Decidable (r.timesync.currentSource.isEmpty = true → r.timesync.Suits (ascii "local") r.timesync.priority))
  | .clearLocalNetworkTime => inferInstanceAs (Decidable (r.timesync.Suits [] 0xFFFFFFFFFFFFFFFF))
  | .clearNetworkTimeSource source =>
    inferInstanceAs (Decidable (r.timesync.currentSource = source →
      { r.timesync with sources := r.timesync.sources.erase source }.Suits [] 0xFFFFFFFFFFFFFFFF))
  | .rememberEndToEnd _ _ | .endToEndAck _ | .endToEndTimeouts | .configureTimesync _ _ _ _ _ _ | .getNetworkTimeMs | .elsewhere _ =>
    .isTrue trivial

/-- What has been announced after an event. -/
def heardAfter (heard : Heard) : BookEvent → Heard
  | .timesyncPacket pkt _ =>
    if isTimeAnnounce pkt then
      fun name => if name = pkt.sender then some (loadLe64 pkt.payload 0, loadLe64 pkt.payload 8) else heard name
    else heard
  | _ => heard

/-- An event, and the record of what was announced. -/
def heardStep (S : Schema) (E : Env) (p : Router × Heard) (e : BookEvent) : Router × Heard :=
  (bookStep S E p.1 e, heardAfter p.2 e)

end Router

/-! ## Announcements -/

section

variable {heard : Heard} {sync : TimeSyncRuntime}

theorem lookup_insert_same {κ α : Type} [DecidableEq κ] {m : Map κ α} {k : κ} {v : α} (h : m.lookup k = some v) (k' : κ) :
    (m.insert k v).lookup k' = m.lookup k' := by
  by_cases hk : k' = k
  · rw [hk, AList.lookup_insert, h]
  · rw [AList.lookup_insert_ne hk]

/-- The table of the sender's announcement. -/
theorem TimeTable.entries_insert (h : TimeTable heard sync) (sender : Bytes) (priority now time : UInt64) (name : Bytes)
    (source : TimeSyncSource) (hsource : (sync.sources.insert sender ⟨priority, now, time⟩).lookup name = some source) :
    (if name = sender then some (priority, time) else heard name) = some (source.priority, source.lastTimeMs) := by
  by_cases hname : name = sender
  · rw [hname, AList.lookup_insert, Option.some.injEq] at hsource
    rw [if_pos hname, ← hsource]
  · rw [AList.lookup_insert_ne hname] at hsource
    rw [if_neg hname]
    exact h.entries name source hsource

theorem not_quiet_now (now timeout : UInt64) : ¬ now - now > timeout := by
  rw [UInt64.sub_self]
  exact UInt64.not_lt.mpr UInt64.zero_le

theorem handleTimeSyncAnnounce_table {r : Router} (h : TimeTable heard r.timesync) (now : UInt64) (pkt : PacketData)
    (hkeeps : r.timesync.followsAt (loadLe64 pkt.payload 0) = false →
      if r.timesync.currentSource = pkt.sender then loadLe64 pkt.payload 0 = r.timesync.currentSourcePriority
      else r.timesync.currentSource ∈ r.timesync.sources) :
    TimeTable (fun name => if name = pkt.sender then some (loadLe64 pkt.payload 0, loadLe64 pkt.payload 8) else heard name)
      (r.handleTimeSyncAnnounce now pkt).timesync := by
  have hentries := h.entries_insert pkt.sender (loadLe64 pkt.payload 0) now (loadLe64 pkt.payload 8)
  unfold Router.handleTimeSyncAnnounce
  dsimp only
  by_cases hfollows : r.timesync.followsAt (loadLe64 pkt.payload 0) = true
  · unfold TimeSyncRuntime.followsAt at hfollows
    rw [if_pos hfollows]
    refine ⟨hentries, ?_⟩
    intro source hsource
    rw [AList.lookup_insert, Option.some.injEq] at hsource
    rw [← hsource]
  · have hcompared := hkeeps (Bool.eq_false_of_not_eq_true hfollows)
    unfold TimeSyncRuntime.followsAt at hfollows
    rw [if_neg hfollows]
    -- the current source is in the table by now, so looking it up makes no entry
    by_cases hsender : r.timesync.currentSource = pkt.sender
    · rw [if_pos hsender] at hcompared
      have hcurrent : (r.timesync.sources.insert pkt.sender ⟨loadLe64 pkt.payload 0, now, loadLe64 pkt.payload 8⟩).lookup
          pkt.sender = some ⟨loadLe64 pkt.payload 0, now, loadLe64 pkt.payload 8⟩ := AList.lookup_insert r.timesync.sources
      rw [hsender, Map.getOr, hcurrent, Option.getD_some, if_neg (not_quiet_now now r.timesync.sourceTimeoutMs)]
      refine ⟨?_, ?_⟩
      · intro name source hsource
        rw [lookup_insert_same hcurrent] at hsource
        exact hentries name source hsource
      · intro source hsource
        dsimp only at hsource
        rw [lookup_insert_same hcurrent, hcurrent, Option.some.injEq] at hsource
        rw [← hsource]
        exact hcompared.symm
    · rw [if_neg hsender] at hcompared
      obtain ⟨current, hcurrent⟩ := Option.isSome_iff_exists.mp (AList.lookup_isSome.mpr hcompared)
      have hinserted : (r.timesync.sources.insert pkt.sender ⟨loadLe64 pkt.payload 0, now, loadLe64 pkt.payload 8⟩).lookup
          r.timesync.currentSource = some current := by
        rw [AList.lookup_insert_ne hsender]
        exact hcurrent
      rw [Map.getOr, hinserted, Option.getD_some]
      have hentries' : ∀ name source,
          ((r.timesync.sources.insert pkt.sender ⟨loadLe64 pkt.payload 0, now, loadLe64 pkt.payload 8⟩).insert
            r.timesync.currentSource current).lookup name = some source →
          (if name = pkt.sender then some (loadLe64 pkt.payload 0, loadLe64 pkt.payload 8) else heard name) =
            some (source.priority, source.lastTimeMs) := by
        intro name source hsource
        rw [lookup_insert_same hinserted] at hsource
        exact hentries name source hsource
      split
      -- the current source has gone quiet
      · refine ⟨hentries', ?_⟩
        intro source hsource
        rw [lookup_insert_same hinserted, AList.lookup_insert, Option.some.injEq] at hsource
        rw [← hsource]
      · refine ⟨hentries', ?_⟩
        intro source hsource
        rw [lookup_insert_same hinserted, AList.lookup_insert_ne hsender] at hsource
        exact h.current source hsource

/-! ## The other events -/

/-- The table stays, and the current source, if it is another, suits it. -/
theorem TimeTable.adopt (h : TimeTable heard sync) {sync' : TimeSyncRuntime} (hsources : sync'.sources = sync.sources)
    (hsuits : sync.Suits sync'.currentSource sync'.currentSourcePriority) : TimeTable heard sync' := by
  refine ⟨?_, ?_⟩
  · intro name source hsource
    rw [hsources] at hsource
    exact h.entries name source hsource
  · intro source hsource
    rw [hsources] at hsource
    exact hsuits source hsource

theorem TimeTable.keep (h : TimeTable heard sync) {sync' : TimeSyncRuntime} (hsources : sync'.sources = sync.sources)
    (hcurrent : sync'.currentSource = sync.currentSource) (hpriority : sync'.currentSourcePriority = sync.currentSourcePriority) :
    TimeTable heard sync' := by
  refine h.adopt hsources ?_
  rw [hcurrent, hpriority]
  exact h.current

theorem TimeTable.of_books {r r' : Router} (h : TimeTable heard r.timesync) (hbooks : r'.books = r.books) :
    TimeTable heard r'.timesync := by
  rw [show r'.timesync = r.timesync from congrArg Prod.fst hbooks]
  exact h

/-- Entries only go, and the current source, if it is another, suits what is left. -/
theorem TimeTable.fewer (h : TimeTable heard sync) {sync' : TimeSyncRuntime}
    (hsources : ∀ name source, sync'.sources.lookup name = some source → sync.sources.lookup name = some source)
    (hcurrent : sync'.currentSource = sync.currentSource ∧ sync'.currentSourcePriority = sync.currentSourcePriority ∨
      sync'.Suits sync'.currentSource sync'.currentSourcePriority) : TimeTable heard sync' := by
  refine ⟨fun name source hsource => h.entries name source (hsources name source hsource), ?_⟩
  intro source hsource
  cases hcurrent with
  | inl hsame =>
    rw [hsame.2]
    rw [hsame.1] at hsource
    exact h.current source (hsources _ source hsource)
  | inr hsuits => exact hsuits source hsource

theorem TimeTable.prune (h : TimeTable heard sync) (now : UInt64)
    (hsuits : (Router.pruneSources sync now).currentSource ≠ sync.currentSource → (Router.pruneSources sync now).Suits [] 0xFFFFFFFFFFFFFFFF) :
    TimeTable heard (Router.pruneSources sync now) := by
  unfold Router.pruneSources at hsuits ⊢
  dsimp only at hsuits ⊢
  split at hsuits
  · rename_i hquiet
    rw [if_pos hquiet]
    refine h.fewer (fun name source hsource => (Map.lookup_keepIf_iff.mp hsource).1) (.inr ?_)
    by_cases hcurrent : sync.currentSource = []
    -- the entry of the empty name is the one that went
    · intro source hsource
      obtain ⟨hsource, hheard⟩ := Map.lookup_keepIf_iff.mp hsource
      rw [hcurrent, hsource, Option.any_some] at hquiet
      rw [hquiet] at hheard
      exact absurd hheard Bool.false_ne_true
    · exact hsuits (Ne.symm hcurrent)
  · rename_i hheard
    rw [if_neg hheard]
    exact h.fewer (fun name source hsource => (Map.lookup_keepIf_iff.mp hsource).1) (.inl ⟨rfl, rfl⟩)

namespace Router

variable {S : Schema} {E : Env} {r : Router}

theorem requestTime_table (h : TimeTable heard r.timesync) (now : UInt64)
    (hsuits : r.timesync.currentSource.isEmpty = true → r.routedSource.isEmpty = false →
      r.timesync.Suits r.routedSource r.timesync.currentSourcePriority) :
    TimeTable heard (r.requestTime S now).timesync := by
  unfold requestTime
  dsimp only
  by_cases hcurrent : r.timesync.currentSource.isEmpty = true
  · rw [if_pos hcurrent]
    split
    · exact h
    · rename_i hrouted
      exact h.adopt rfl (hsuits hcurrent (Bool.eq_false_of_not_eq_true hrouted))
  · rw [if_neg hcurrent, if_neg hcurrent]
    exact h.keep rfl rfl rfl

theorem pollTimesync_table (h : TimeTable heard r.timesync) (hkeeps : r.KeepsTable E .pollTimesync) :
    TimeTable heard (r.pollTimesync S E).timesync := by
  unfold pollTimesync
  dsimp only
  split
  · exact h
  · rename_i henabled
    obtain ⟨hcleared, hadopts⟩ := hkeeps (by simpa using henabled)
    have hpruned := h.prune _ hcleared
    unfold adoptsRouted at hadopts
    generalize (r.toOwner.nowMs E).1 = now at hadopts hpruned ⊢
    unfold pollRole
    dsimp only
    split
    · unfold announceTime
      have htime : TimeTable heard (({ r.setOwner (r.toOwner.nowMs E).2 with timesync := pruneSources r.timesync now } : Router).currentNetworkMs
          E).2.timesync := TimeTable.of_books (r := { r.setOwner (r.toOwner.nowMs E).2 with timesync := pruneSources r.timesync now }) hpruned
        (currentNetworkMs_books E _)
      exact htime.keep rfl rfl rfl
    · split
      · rename_i hasks
        apply requestTime_table hpruned now
        intro hcurrent hrouted
        refine hadopts ?_
        rw [Bool.and_eq_true, Bool.and_eq_true]
        exact ⟨⟨hasks, hcurrent⟩, by rw [show r.routedSource.isEmpty = false from hrouted]; rfl⟩
      · exact hpruned

/-- The best of the sources is an entry of the table. -/
theorem bestSource_mem (now timeoutMs : UInt64) (entries : List ((_ : Bytes) × TimeSyncSource)) (best : Bytes × TimeSyncSource) :
    entries.foldl (bestSource now timeoutMs) best = best ∨
      ∃ e ∈ entries, entries.foldl (bestSource now timeoutMs) best = (e.1, e.2) := by
  induction entries generalizing best with
  | nil => exact .inl rfl
  | cons e entries ih =>
    rw [List.foldl_cons]
    have hone : bestSource now timeoutMs best e = best ∨ bestSource now timeoutMs best e = (e.1, e.2) := by
      unfold bestSource
      split
      · exact .inl rfl
      · split
        · exact .inr rfl
        · exact .inl rfl
    cases ih (bestSource now timeoutMs best e) with
    | inl hsame =>
      rw [hsame]
      cases hone with
      | inl hbest => exact .inl hbest
      | inr hbest => exact .inr ⟨e, List.mem_cons_self, hbest⟩
    | inr hlater =>
      obtain ⟨f, hf, hbest⟩ := hlater
      exact .inr ⟨f, List.mem_cons_of_mem e hf, hbest⟩

theorem switchSource_table (h : TimeTable heard r.timesync) : TimeTable heard (r.switchSource E).timesync := by
  unfold switchSource
  dsimp only
  split
  · exact h
  · generalize (r.toOwner.nowMs E).1 = now
    split
    · exact h
    · have hmem := bestSource_mem now r.timesync.sourceTimeoutMs r.timesync.sources.entries ([], ⟨0xFFFFFFFFFFFFFFFF, 0, 0⟩)
      split
      · exact h
      · rename_i hfound
        have hread : TimeTable heard ((r.setOwner (r.toOwner.nowMs E).2).currentNetworkMs E).2.timesync :=
          TimeTable.of_books (r := r.setOwner (r.toOwner.nowMs E).2) h (currentNetworkMs_books E _)
        have hsources : ((r.setOwner (r.toOwner.nowMs E).2).currentNetworkMs E).2.timesync = r.timesync :=
          congrArg Prod.fst (currentNetworkMs_books E (r.setOwner (r.toOwner.nowMs E).2))
        refine hread.adopt rfl ?_
        intro source hsource
        cases hmem with
        | inl hnone => exact absurd (congrArg (fun best => best.1.isEmpty) hnone) hfound
        | inr hsome =>
          obtain ⟨e, he, hbest⟩ := hsome
          have hentry : r.timesync.sources.lookup e.1 = some e.2 := List.mem_dlookup r.timesync.sources.nodupKeys he
          change (((r.setOwner (r.toOwner.nowMs E).2).currentNetworkMs E).2.timesync).sources.lookup
            (List.foldl (bestSource now r.timesync.sourceTimeoutMs) ([], ⟨0xFFFFFFFFFFFFFFFF, 0, 0⟩) r.timesync.sources.entries).1 =
              some source at hsource
          rw [hsources, hbest, hentry, Option.some.injEq] at hsource
          show (List.foldl (bestSource now r.timesync.sourceTimeoutMs) ([], ⟨0xFFFFFFFFFFFFFFFF, 0, 0⟩)
            r.timesync.sources.entries).2.priority = source.priority
          rw [hbest, hsource]

theorem foldl_timesync {β : Type} {f : Router → β → Router} (hf : ∀ r b, (f r b).timesync = r.timesync) (bs : List β) (r : Router) :
    (bs.foldl f r).timesync = r.timesync := by
  induction bs generalizing r with
  | nil => rfl
  | cons b bs ih =>
    rw [List.foldl_cons, ih]
    exact hf r b

theorem reconcileEntry_timesync (r : Router) (e : (_ : UInt64) × EndToEndReliableSent) :
    (r.reconcileEntry S E e).timesync = r.timesync := by
  unfold reconcileEntry
  split <;> rfl

theorem requeueEndToEnd_timesync (now : UInt64) (r : Router) (id : UInt64) : (requeueEndToEnd now r id).timesync = r.timesync := by
  unfold requeueEndToEnd
  cases r.endToEndReliableTx.lookup id with
  | none => rfl
  | some sent =>
    dsimp only
    split <;> rfl

theorem endToEndTimeouts_timesync (r : Router) : (r.processEndToEndReliableTimeouts S E).timesync = r.timesync := by
  unfold processEndToEndReliableTimeouts reconcileEndToEndReliableDestinations
  dsimp only
  rw [foldl_timesync (requeueEndToEnd_timesync _)]
  exact foldl_timesync reconcileEntry_timesync _ _

theorem handleEndToEndAck_timesync (r : Router) (pkt : PacketData) : (r.handleEndToEndAck pkt).timesync = r.timesync := by
  unfold handleEndToEndAck
  dsimp only
  cases r.endToEndReliableTx.lookup (loadLe64 pkt.payload 0) with
  | none => rfl
  | some sent =>
    dsimp only
    split
    · rfl
    · split <;> rfl

/-! ## Runs -/

theorem handleTimesyncPacket_table (h : TimeTable heard r.timesync) (pkt : PacketData) (srcSide : Option Int32)
    (hkeeps : r.KeepsTable E (.timesyncPacket pkt srcSide)) :
    TimeTable (heardAfter heard (.timesyncPacket pkt srcSide)) (r.handleTimesyncPacket S E pkt srcSide).timesync := by
  unfold handleTimesyncPacket heardAfter
  dsimp only
  by_cases hannounce : pkt.ty = SEDS_DT_TIME_SYNC_ANNOUNCE ∧ pkt.payload.length ≥ 16
  · have htrue : isTimeAnnounce pkt = true := by
      unfold isTimeAnnounce
      rw [hannounce.1, decide_eq_true hannounce.2]
      rfl
    rw [if_pos hannounce, if_pos htrue]
    exact handleTimeSyncAnnounce_table (r := r.setOwner (r.toOwner.nowMs E).2) h _ pkt (hkeeps htrue)
  · have hfalse : isTimeAnnounce pkt ≠ true := by
      unfold isTimeAnnounce
      simpa using hannounce
    rw [if_neg hannounce, if_neg hfalse]
    split
    · exact TimeTable.of_books (r := r.setOwner (r.toOwner.nowMs E).2) h (handleTimeSyncRequest_books S E _ _ pkt srcSide)
    · split
      · exact h.keep rfl rfl rfl
      · exact h

/-- One event: what was announced is what the table holds. -/
theorem bookStep_table (h : TimeTable heard r.timesync) {e : BookEvent} (hkeeps : r.KeepsTable E e) :
    TimeTable (heardAfter heard e) (r.bookStep S E e).timesync := by
  cases e with
  | rememberEndToEnd pkt pending => exact h
  | endToEndAck pkt =>
    show TimeTable heard (r.handleEndToEndAck pkt).timesync
    rw [handleEndToEndAck_timesync]
    exact h
  | endToEndTimeouts =>
    show TimeTable heard (r.processEndToEndReliableTimeouts S E).timesync
    rw [endToEndTimeouts_timesync]
    exact h
  | timesyncPacket pkt srcSide => exact handleTimesyncPacket_table h pkt srcSide hkeeps
  | pollTimesync => exact pollTimesync_table h hkeeps
  | configureTimesync enabled role priority sourceTimeoutMs announceIntervalMs requestIntervalMs =>
    show TimeTable heard (r.configureTimesync E enabled role priority sourceTimeoutMs announceIntervalMs requestIntervalMs).timesync
    unfold configureTimesync
    dsimp only
    split
    · exact h.keep rfl rfl rfl
    · exact h.keep rfl rfl rfl
  | getNetworkTimeMs =>
    show TimeTable heard (r.getNetworkTimeMs E).2.timesync
    unfold getNetworkTimeMs
    split
    · exact h
    · exact (switchSource_table h).of_books (currentNetworkMs_books E _)
  | setLocalNetworkTime unixMs =>
    show TimeTable heard (r.setLocalNetworkTime E unixMs).timesync
    unfold setLocalNetworkTime
    dsimp only
    split
    · rename_i hcurrent
      exact h.adopt rfl (hkeeps hcurrent)
    · exact h.keep rfl rfl rfl
  | clearLocalNetworkTime => exact h.adopt rfl hkeeps
  | clearNetworkTimeSource source =>
    have herased : ∀ name entry, (r.timesync.sources.erase source).lookup name = some entry → r.timesync.sources.lookup name = some entry := by
      intro name entry hentry
      by_cases hname : name = source
      · rw [hname, AList.lookup_erase] at hentry
        exact absurd hentry.symm (Option.some_ne_none entry)
      · rw [AList.lookup_erase_ne hname] at hentry
        exact hentry
    show TimeTable heard (r.clearNetworkTimeSource source).timesync
    unfold clearNetworkTimeSource
    dsimp only
    split
    · rename_i hcurrent
      exact h.fewer herased (.inr (hkeeps hcurrent))
    · exact h.fewer herased (.inl ⟨rfl, rfl⟩)
  | elsewhere f => exact h.of_books (f.books r)

end Router

end

/-- `name` announces a time. -/
def timeAnnouncement (name : Bytes) (priority time : UInt64) : SedsPacketView :=
  ⟨SEDS_DT_TIME_SYNC_ANNOUNCE, name, some [SEDS_EP_TIME_SYNC], time, some (appendLe64 priority ++ appendLe64 time), 16⟩

/-- `A` is followed, and `B` after it; `A` goes on announcing, the router asks for the time, and `B` is forgotten. -/
def followingEvents : List Router.BookEvent :=
  let heard (name : Bytes) (priority time : UInt64) : Router.BookEvent :=
    .timesyncPacket ⟨SEDS_DT_TIME_SYNC_ANNOUNCE, name, [SEDS_EP_TIME_SYNC], time, appendLe64 priority ++ appendLe64 time⟩ (some 0)
  [.configureTimesync true 0 100 5000 1000 1000, heard (ascii "A") 20 1000, heard (ascii "B") 10 2000, heard (ascii "A") 30 3000,
    .pollTimesync, .getNetworkTimeMs, .clearNetworkTimeSource (ascii "B"), .setLocalNetworkTime 4000]

end SedsNet
