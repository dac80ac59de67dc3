import Mathlib.Data.List.MinMax
import Mathlib.Data.Prod.Lex
import SedsNet.Calendar
import SedsNet.NetworkTime
import SedsNet.TimeTable

/-!
# Setting the network time by its fields

`set_network_time_from_fields` puts the fields that it is given over those that the network time has, and sets the anchor to the
result. The time is then read as it was set, unless the milliseconds do not fit 64 bits, or the router turns to another source as
it reads: it does so when the source it follows is not in the table (`local` never is) or has gone quiet, and a source that is
heard tells a later time (`Overruled`). `setNetworkTimeFromFields_takesEffect_iff` says that these are the only reasons.

The loop over the sources finds the first of the smallest priority, and of those the latest (`foldl_bestSource`).
-/

set_option autoImplicit false

namespace SedsNet

open Lib

/-! ## The fields -/

/-- The arguments of `set_local_network_time`: a field is given if its flag is. -/
structure TimeFields where
  year : Option Int32
  month : Option UInt8
  day : Option UInt8
  hour : Option UInt8
  minute : Option UInt8
  second : Option UInt8
  nanosecond : Option UInt32
deriving DecidableEq, Repr

/-- The fields that are given, and those of `current` for the others. -/
def TimeFields.putOver (given : TimeFields) (current : CivilTime) : CivilTime :=
  ⟨given.year.getD current.year, given.month.getD current.month, given.day.getD current.day, given.hour.getD current.hour,
    given.minute.getD current.minute, given.second.getD current.second, given.nanosecond.getD current.nanosecond⟩

/-- What a router without a network time starts from. -/
def epoch : CivilTime := ⟨1970, 1, 1, 0, 0, 0, 0⟩

/-- What `fill_network_time` writes: all flags are set. -/
structure SedsNetworkTime where
  unixTimeMs : UInt64
  fields : CivilTime
deriving DecidableEq, Repr

/-- `fill_network_time`; `none` if a signed operation overflows. -/
def fillNetworkTime (unixMs : UInt64) : Option SedsNetworkTime := (splitUnixMs unixMs).map (⟨unixMs, ·⟩)

namespace Router

variable {E : Env} {r : Router}

/-- `set_network_time_from_fields`. -/
def setNetworkTimeFromFields (E : Env) (r : Router) (given : TimeFields) : Option (SedsResult × Router) := do
  let (current, r) ←
    if r.timesync.hasNetworkTime then
      let (ms, r) := r.currentNetworkMs E
      (fillNetworkTime ms).map (·.fields, r)
    else some (epoch, r)
  match ← networkTimeToUnixMs (given.putOver current) with
  | none => some (SEDS_BAD_ARG, r)
  | some unixMs => some (SEDS_OK, setLocalNetworkTime E r unixMs)

/-- `get_network_time`: the result, and what is written to `out`. -/
def getNetworkTime (E : Env) (r : Router) : Option (SedsResult × Option SedsNetworkTime × Router) :=
  let (rc, r') := getNetworkTimeMs E r
  match networkTimeMs E r with
  | none => some (rc, none, r')
  | some ms => (fillNetworkTime ms).map fun time => (rc, some time, r')

/-! ## The best source -/

/-- What the sources are compared by: a smaller priority is better, then a later sign of life. -/
def sourceKey (e : (_ : Bytes) × TimeSyncSource) : ℕ ×ₗ ℕᵒᵈ :=
  toLex (e.2.priority.toNat, OrderDual.toDual e.2.lastSeenMs.toNat)

/-- What the search starts with. -/
def noSource : (_ : Bytes) × TimeSyncSource := ⟨[], ⟨0xFFFFFFFFFFFFFFFF, 0, 0⟩⟩

/-- The sources that have been heard within the timeout. -/
def heardSources (sync : TimeSyncRuntime) (now : UInt64) : List ((_ : Bytes) × TimeSyncSource) :=
  sync.sources.entries.filter fun e => decide (now - e.2.lastSeenMs ≤ sync.sourceTimeoutMs)

theorem sourceKey_lt (e best : (_ : Bytes) × TimeSyncSource) : sourceKey e < sourceKey best ↔
    e.2.priority < best.2.priority ∨ e.2.priority = best.2.priority ∧ e.2.lastSeenMs > best.2.lastSeenMs := by
  unfold sourceKey
  rw [Prod.Lex.toLex_lt_toLex, UInt64.lt_iff_toNat_lt, ← UInt64.toNat_inj, gt_iff_lt, UInt64.lt_iff_toNat_lt]
  rfl

/-- The loop over the sources, from any of them. -/
theorem foldl_bestSource_some (now timeoutMs : UInt64) (l : List ((_ : Bytes) × TimeSyncSource)) (best : (_ : Bytes) × TimeSyncSource) :
    (l.filter fun e => decide (now - e.2.lastSeenMs ≤ timeoutMs)).foldl (List.argAux fun b c => sourceKey b < sourceKey c) (some best) =
      some ⟨(l.foldl (bestSource now timeoutMs) (best.1, best.2)).1, (l.foldl (bestSource now timeoutMs) (best.1, best.2)).2⟩ := by
  induction l generalizing best with
  | nil => rfl
  | cons e l ih =>
    rw [List.filter_cons, List.foldl_cons]
    unfold bestSource
    by_cases hquiet : now - e.2.lastSeenMs > timeoutMs
    · rw [if_neg (by simpa using hquiet), if_pos hquiet]
      exact ih best
    · rw [if_pos (by simpa using hquiet), if_neg hquiet, List.foldl_cons]
      show List.foldl _ (if sourceKey e < sourceKey best then some e else some best) _ = _
      simp only [sourceKey_lt]
      split
      · exact ih e
      · exact ih best

/-- **The search of `get_network_time_ms`** finds the first of the best. -/
theorem foldl_bestSource (sync : TimeSyncRuntime) (now : UInt64) :
    ∃ best, (noSource :: heardSources sync now).argmin sourceKey = some best ∧
      sync.sources.entries.foldl (bestSource now sync.sourceTimeoutMs) ([], ⟨0xFFFFFFFFFFFFFFFF, 0, 0⟩) = (best.1, best.2) :=
  ⟨_, foldl_bestSource_some now sync.sourceTimeoutMs sync.sources.entries noSource, rfl⟩

/-! ## Set, then read -/

/-- The source that is followed once the time is set is not in the table, or quiet, and the best one that is heard tells a later
    time than `time`. -/
def Overruled (sync : TimeSyncRuntime) (now : UInt64) (time : Int) : Prop :=
  (∀ source, sync.sources.lookup (if sync.currentSource = [] then ascii "local" else sync.currentSource) = some source →
    now - source.lastSeenMs > sync.sourceTimeoutMs) ∧
  ∃ best, (noSource :: heardSources sync now).argmin sourceKey = some best ∧ best.1 ≠ [] ∧
    time < (best.2.lastTimeMs + (now - best.2.lastSeenMs)).toNat

/-- The fields of the network time: those of its milliseconds, or 1 January 1970 if there is none. -/
def Shows (E : Env) (r : Router) (before : CivilTime) : Prop :=
  if r.timesync.hasNetworkTime then before.IsTimeOf (r.currentNetworkMs E).1.toNat else before = epoch

/-- The fields that are given have been set, and can be read; or they were refused, and nothing has changed. -/
def TakesEffect (E : Env) (r : Router) (given : TimeFields) (before : CivilTime) : Prop :=
  ∃ rc r', setNetworkTimeFromFields E r given = some (rc, r') ∧
    (rc = SEDS_OK → ∃ time r'', getNetworkTime E r' = some (SEDS_OK, some time, r'') ∧
      time.fields = (given.putOver before).truncated) ∧
    (rc = SEDS_BAD_ARG → r'.timesync = r.timesync)

/-- The setter, in the fields that the network time shows. -/
theorem setNetworkTimeFromFields_eq (given : TimeFields) {before : CivilTime} (h : Shows E r before) :
    ∃ r₁ : Router, r₁.timesync = r.timesync ∧ r.clockReads ≤ r₁.clockReads ∧
      setNetworkTimeFromFields E r given = (networkTimeToUnixMs (given.putOver before)).bind fun
        | none => some (SEDS_BAD_ARG, r₁)
        | some unixMs => some (SEDS_OK, setLocalNetworkTime E r₁ unixMs) := by
  unfold Shows at h
  unfold setNetworkTimeFromFields
  by_cases hknown : r.timesync.hasNetworkTime = true
  · rw [if_pos hknown] at h ⊢
    obtain ⟨fields, hsplit, htime⟩ := splitUnixMs_isTimeOf (r.currentNetworkMs E).1
    refine ⟨(r.currentNetworkMs E).2, currentNetworkMs_timesync E r, clockReads_currentNetworkMs E r, ?_⟩
    unfold fillNetworkTime
    dsimp only
    rw [hsplit, htime.unique h]
    rfl
  · rw [if_neg hknown] at h ⊢
    exact ⟨r, rfl, Nat.le_refl _, by rw [h]; rfl⟩

/-- The state once the time is set: the anchor is the present, and some name is followed. -/
structure IsSet (E : Env) (r r' : Router) (unixMs : UInt64) : Prop where
  followed : r'.timesync.currentSource ≠ []
  name : r'.timesync.currentSource = if r.timesync.currentSource = [] then ascii "local" else r.timesync.currentSource
  sources : r'.timesync.sources = r.timesync.sources
  timeout : r'.timesync.sourceTimeoutMs = r.timesync.sourceTimeoutMs
  known : r'.timesync.hasNetworkTime = true
  anchorLocal : r'.timesync.networkAnchorLocalMs = E.clock r.clockReads
  anchorUnix : r'.timesync.networkAnchorUnixMs = unixMs
  reads : r'.clockReads = r.clockReads + 1

theorem setLocalNetworkTime_isSet (E : Env) (r : Router) (unixMs : UInt64) : r.IsSet E (setLocalNetworkTime E r unixMs) unixMs := by
  unfold setLocalNetworkTime
  dsimp only
  by_cases hnone : r.timesync.currentSource = []
  · rw [if_pos (List.isEmpty_iff.mpr hnone)]
    exact ⟨show ascii "local" ≠ [] by decide, (if_pos hnone).symm, rfl, rfl, rfl, rfl, rfl, rfl⟩
  · rw [if_neg (mt List.isEmpty_iff.mp hnone)]
    exact ⟨hnone, (if_neg hnone).symm, rfl, rfl, rfl, rfl, rfl, rfl⟩

/-- The source that is followed is quiet, or no source of the table. -/
theorem IsSet.currentQuiet_iff {r' : Router} {unixMs : UInt64} (h : r.IsSet E r' unixMs) (now : UInt64) :
    r'.timesync.currentQuiet now = true ↔
      ∀ source, r.timesync.sources.lookup (if r.timesync.currentSource = [] then ascii "local" else r.timesync.currentSource) =
        some source → now - source.lastSeenMs > r.timesync.sourceTimeoutMs := by
  unfold TimeSyncRuntime.currentQuiet
  rw [h.name, h.sources, h.timeout]
  cases r.timesync.sources.lookup _ with
  | none => simp
  | some source => simp

/-- Whether the search finds a source to turn to. -/
def Turns (r : Router) (now : UInt64) (best : (_ : Bytes) × TimeSyncSource) : Prop :=
  r.timesync.currentQuiet now = true ∧ best.1 ≠ []

/-- What the search does to the anchor. -/
theorem switchSource_anchor {now : UInt64} (hnow : E.clock r.clockReads = now) (hfollowed : r.timesync.currentSource ≠ [])
    {best : (_ : Bytes) × TimeSyncSource}
    (hloop : r.timesync.sources.entries.foldl (bestSource now r.timesync.sourceTimeoutMs) ([], ⟨0xFFFFFFFFFFFFFFFF, 0, 0⟩) =
      (best.1, best.2)) :
    r.clockReads ≤ (switchSource E r).clockReads ∧
    (Turns r now best → (switchSource E r).timesync.networkAnchorLocalMs = now ∧
      (switchSource E r).timesync.networkAnchorUnixMs =
        max (best.2.lastTimeMs + (now - best.2.lastSeenMs)) ((r.setOwner (r.toOwner.nowMs E).2).currentNetworkMs E).1) ∧
    (¬Turns r now best → r.timesync.Anchored (switchSource E r).timesync) := by
  unfold switchSource Turns
  rw [if_neg (mt List.isEmpty_iff.mp hfollowed)]
  dsimp only
  rw [show (r.toOwner.nowMs E).1 = now from hnow]
  have hreads : r.clockReads ≤ (r.setOwner (r.toOwner.nowMs E).2).clockReads := Nat.le_succ _
  have hsync : (r.setOwner (r.toOwner.nowMs E).2).timesync = r.timesync := rfl
  generalize r.setOwner (r.toOwner.nowMs E).2 = r₁ at hreads hsync ⊢
  rw [hsync, hloop]
  split
  · rename_i hheard
    exact ⟨hreads, fun hturns => absurd hturns.1 (by simpa using hheard), fun _ => hsync ▸ .refl _⟩
  · rename_i hquiet
    split
    · rename_i hname
      exact ⟨hreads, fun hturns => absurd (List.isEmpty_iff.mp hname) hturns.2, fun _ => hsync ▸ .refl _⟩
    · rename_i hname
      refine ⟨hreads.trans (clockReads_currentNetworkMs E r₁), fun _ => ⟨rfl, rfl⟩, fun hnot => ?_⟩
      exact absurd ⟨by simpa using hquiet, mt List.isEmpty_iff.mpr hname⟩ hnot

/-- What is read at the reading of the clock at which the time was set. -/
theorem IsSet.networkTimeMs_eq {r' : Router} {now unixMs : UInt64} (h : r.IsSet E r' unixMs)
    (hclock : ∀ n, r.clockReads ≤ n → E.clock n = now) :
    ∃ ms, networkTimeMs E r' = some ms ∧ (ms = unixMs ↔ ¬Overruled r.timesync now unixMs.toNat) := by
  obtain ⟨best, hbest, hloop⟩ := foldl_bestSource r.timesync now
  rw [← h.sources, ← h.timeout] at hloop
  have hoverruled : Overruled r.timesync now unixMs.toNat ↔
      Turns r' now best ∧ unixMs.toNat < (best.2.lastTimeMs + (now - best.2.lastSeenMs)).toNat := by
    unfold Overruled Turns
    rw [h.currentQuiet_iff now]
    constructor
    · rintro ⟨hquiet, best', hbest', hname, hlater⟩
      cases hbest.symm.trans hbest'
      exact ⟨⟨hquiet, hname⟩, Int.ofNat_lt.mp hlater⟩
    · rintro ⟨⟨hquiet, hname⟩, hlater⟩
      exact ⟨hquiet, best, hbest, hname, Int.ofNat_lt.mpr hlater⟩
  have hreads := h.reads
  have hnow : ∀ n, r'.clockReads ≤ n → E.clock n = now := fun n hn => hclock n (by omega)
  -- no time has passed since, whichever source is followed
  have hstill : ∀ r'' : Router, r''.timesync.networkAnchorLocalMs = now → r'.clockReads ≤ r''.clockReads →
      r''.timesync.networkAnchorUnixMs + (E.clock r''.clockReads - r''.timesync.networkAnchorLocalMs) =
        r''.timesync.networkAnchorUnixMs := fun r'' hlocal hle => by
    rw [hnow _ hle, hlocal, UInt64.sub_self, UInt64.add_zero]
  have hlocal : r'.timesync.networkAnchorLocalMs = now := h.anchorLocal.trans (hclock _ (Nat.le_refl _))
  obtain ⟨hlater, hturns, hstays⟩ := switchSource_anchor (hnow _ (Nat.le_refl _)) h.followed hloop
  have hknown := (switchSource_known E r').trans h.known
  unfold networkTimeMs
  rw [if_pos h.known, hoverruled, currentNetworkMs_known hknown]
  refine ⟨_, rfl, ?_⟩
  by_cases hturn : Turns r' now best
  · obtain ⟨hanchor, hunix⟩ := hturns hturn
    have hset : ((r'.setOwner (r'.toOwner.nowMs E).2).currentNetworkMs E).1 = unixMs := by
      rw [currentNetworkMs_known (r := r'.setOwner (r'.toOwner.nowMs E).2) h.known]
      exact (hstill (r'.setOwner (r'.toOwner.nowMs E).2) hlocal (Nat.le_succ _)).trans h.anchorUnix
    dsimp only
    rw [hstill _ hanchor hlater, hunix, hset, ← UInt64.lt_iff_toNat_lt]
    show (if _ ≤ unixMs then unixMs else _) = unixMs ↔ _
    split
    · rename_i hle
      exact iff_of_true rfl fun hover => UInt64.not_lt.mpr hle hover.2
    · rename_i hlt
      exact iff_of_false (fun heq => hlt (heq ▸ UInt64.le_refl _)) fun hnot => hnot ⟨hturn, UInt64.not_le.mp hlt⟩
  · obtain ⟨-, hanchor, hunix⟩ := hstays hturn
    dsimp only
    rw [hstill _ (hanchor.trans hlocal) hlater, hunix, h.anchorUnix]
    exact iff_of_true rfl fun hover => hturn hover.1

/-- The year of what is set is not before 1970. -/
theorem Shows.year_le {before : CivilTime} (h : Shows E r before) : 1970 ≤ before.year.toInt := by
  unfold Shows at h
  split at h
  · refine Gregorian.Date.year_of_number_nonneg (d := h.valid.date) ?_
    have hday := h.day
    show 0 ≤ Gregorian.dayNumber before.year.toInt before.month.toNat before.day.toNat
    omega
  · rw [h]
    decide

theorem exactMs_nonneg {t : CivilTime} (h : t.Valid) (hyear : 1970 ≤ t.year.toInt) : 0 ≤ t.exactMs := by
  have hday := h.date.number_mem_year.1
  have hstart : Gregorian.yearStart 1970 ≤ Gregorian.yearStart h.date.year := Gregorian.yearStart_monotone hyear
  have hnumber : 0 ≤ Gregorian.dayNumber t.year.toInt t.month.toNat t.day.toNat := by
    show 0 ≤ h.date.number
    omega
  unfold CivilTime.exactMs
  omega

/-- What is read, if there is a network time. -/
theorem getNetworkTime_eq {ms : UInt64} {fields : CivilTime} (hms : networkTimeMs E r = some ms) (hsplit : splitUnixMs ms = some fields) :
    getNetworkTime E r = some (SEDS_OK, some ⟨ms, fields⟩, (getNetworkTimeMs E r).2) := by
  have hok : (getNetworkTimeMs E r).1 = SEDS_OK := by
    unfold networkTimeMs at hms
    unfold getNetworkTimeMs
    split at hms
    · rename_i hknown
      rw [hknown]
      rfl
    · cases hms
  unfold getNetworkTime fillNetworkTime
  dsimp only
  rw [hms, hok]
  dsimp only
  rw [hsplit]
  rfl

/-- A time that has been set takes effect if its fields are read. -/
theorem takesEffect_iff_read {r' : Router} {given : TimeFields} {before : CivilTime} {ms : UInt64} {fields : CivilTime}
    (hdone : setNetworkTimeFromFields E r given = some (SEDS_OK, r')) (hms : networkTimeMs E r' = some ms)
    (hsplit : splitUnixMs ms = some fields) : TakesEffect E r given before ↔ fields = (given.putOver before).truncated := by
  constructor
  · rintro ⟨rc, r'', hdone', hread, -⟩
    cases hdone.symm.trans hdone'
    obtain ⟨time, r₃, hread, hsame⟩ := hread rfl
    cases (getNetworkTime_eq hms hsplit).symm.trans hread
    exact hsame
  · intro h
    exact ⟨SEDS_OK, r', hdone, fun _ => ⟨_, _, getNetworkTime_eq hms hsplit, h⟩, fun hbad => absurd hbad (by decide)⟩

/-- **When setting the time takes effect**: the fields are no date and time, or their milliseconds fit 64 bits and no source that
    is heard overrules them. -/
theorem setNetworkTimeFromFields_takesEffect_iff (E : Env) (r : Router) (given : TimeFields) (before : CivilTime) (now : UInt64)
    (hclock : ∀ n, r.clockReads ≤ n → E.clock n = now) (hbefore : Shows E r before)
    (hyear : ∀ year, given.year = some year → 1970 ≤ year.toInt) :
    TakesEffect E r given before ↔
      ((given.putOver before).Valid → (given.putOver before).exactMs < 2 ^ 64 ∧
        ¬Overruled r.timesync now (given.putOver before).exactMs) := by
  obtain ⟨r₁, hsync, hreads, hset⟩ := setNetworkTimeFromFields_eq given hbefore
  have hyears : 1970 ≤ (given.putOver before).year.toInt := by
    have hyear' := hbefore.year_le
    unfold TimeFields.putOver
    cases hgiven : given.year with
    | none => exact hyear'
    | some year => exact hyear year hgiven
  generalize hwanted : given.putOver before = wanted at hset hyears ⊢
  by_cases hvalid : wanted.Valid
  · have hpos := exactMs_nonneg hvalid hyears
    have hmod := toNat_ofInt64 wanted.exactMs
    have hdone : setNetworkTimeFromFields E r given =
        some (SEDS_OK, setLocalNetworkTime E r₁ (UInt64.ofInt wanted.exactMs)) := by
      rw [hset, hvalid.toUnixMs hpos]
      rfl
    obtain ⟨ms, hms, hsame⟩ := (setLocalNetworkTime_isSet E r₁ (UInt64.ofInt wanted.exactMs)).networkTimeMs_eq
      (fun n hn => hclock n (hreads.trans hn))
    rw [hsync] at hsame
    obtain ⟨fields, hsplit, htime⟩ := splitUnixMs_isTimeOf ms
    -- what is read are the fields of `ms`, so all is a question of these milliseconds
    have hfields : fields = wanted.truncated ↔ (ms.toNat : Int) = wanted.exactMs := by
      constructor
      · intro h
        rw [← htime.exactMs_eq, h, CivilTime.exactMs_truncated]
      · intro h
        rw [← htime.truncated_eq, htime.valid.truncated_eq hvalid (htime.exactMs_eq.trans h)]
    rw [takesEffect_iff_read hdone hms hsplit, hwanted, hfields]
    have hlt := ms.toNat_lt
    have hcond : wanted.exactMs < 2 ^ 64 → (ms = UInt64.ofInt wanted.exactMs ↔ ¬Overruled r.timesync now wanted.exactMs) := by
      intro hfits
      have hexact : ((UInt64.ofInt wanted.exactMs).toNat : Int) = wanted.exactMs := by omega
      rwa [hexact] at hsame
    constructor
    · intro h _
      have hfits : wanted.exactMs < 2 ^ 64 := by omega
      exact ⟨hfits, (hcond hfits).mp (UInt64.toNat_inj.mp (by omega))⟩
    · intro h
      obtain ⟨hfits, hnot⟩ := h hvalid
      rw [(hcond hfits).mpr hnot]
      omega
  · have hrejected : wanted.rejected = true := by
      rw [← Bool.not_eq_false]
      exact mt CivilTime.rejected_iff.mp hvalid
    have hrefused : networkTimeToUnixMs wanted = some none := by
      unfold networkTimeToUnixMs
      rw [if_pos hrejected]
    rw [hrefused] at hset
    refine iff_of_true ⟨SEDS_BAD_ARG, r₁, hset, fun hok => absurd hok (by decide), fun _ => hsync⟩ fun h => absurd h hvalid

/-- The date and the time of day of a router that has not been told the time. -/
theorem setNetworkTimeFromFields_takesEffect_iff_new :
    TakesEffect .calm (new .Sink (ascii "R") [] []) ⟨some 2026, some 3, some 21, some 12, some 34, none, some 250000001⟩ epoch := by
  refine (setNetworkTimeFromFields_takesEffect_iff .calm (new .Sink (ascii "R") [] []) _ epoch 0 (fun _ _ => rfl) ?_ ?_).mpr ?_
  · show epoch = epoch
    rfl
  · intro year hyear
    cases hyear
    decide
  · intro hvalid
    refine ⟨by decide, ?_⟩
    rintro ⟨-, best, hbest, hname, -⟩
    cases hbest
    exact hname rfl

/-- The clock stands at 1000 ms, and then at 1500 ms. -/
def lateEnv : Env := ⟨fun n => if n < 2 then 1000 else 1500, fun _ => 0⟩

/-- A router that set its time, and then hears a source of lower rank. -/
def overruledRouter : Router :=
  runFrom (Router.perform defaultTestSchema (.absent 16) lateEnv) reportingRouter
    [.setUp (.configureTimesync true 0 100 1000 1000 1000), .setUp (.setLocalNetworkTime 1000),
      .receiveFromSide 0 (timeAnnouncement (ascii "A") 120 1700000000000)]

def newYear2020 : TimeFields := ⟨some 2020, some 1, some 1, some 0, some 0, some 0, some 0⟩

/-- The router set its time and heard `A`, which it does not follow. New Year 2020 is set, and what is read is the time of `A`. -/
theorem setNetworkTimeFromFields_overruled :
    (∀ n, overruledRouter.clockReads ≤ n → lateEnv.clock n = 1500) ∧
    Shows lateEnv overruledRouter ⟨1970, 1, 1, 0, 0, 1, 500000000⟩ ∧
    ¬TakesEffect lateEnv overruledRouter newYear2020 ⟨1970, 1, 1, 0, 0, 1, 500000000⟩ := by
  obtain ⟨hreads, hknown, hnow, hread⟩ : overruledRouter.clockReads = 2 ∧ overruledRouter.timesync.hasNetworkTime = true ∧
      (overruledRouter.currentNetworkMs lateEnv).1 = 1500 ∧
      ((setNetworkTimeFromFields lateEnv overruledRouter newYear2020).bind fun p => (getNetworkTime lateEnv p.2).bind fun q =>
        q.2.1.map fun time => (p.1, time.fields.year)) = some (SEDS_OK, 2023) := by
    unfold overruledRouter
    rw [defaultTestSchema_eq]
    decide +kernel
  refine ⟨fun n hn => ?_, ?_, ?_⟩
  · unfold lateEnv
    dsimp only
    rw [if_neg (by omega)]
  · unfold Shows
    rw [if_pos hknown, hnow]
    exact ⟨⟨by decide, by decide, by decide, by decide, by decide, by decide⟩, by decide, rfl, rfl, rfl, rfl⟩
  · rintro ⟨rc, r', hset, hok, hbad⟩
    rw [hset, Option.bind_some] at hread
    obtain ⟨⟨rc', out, r₃⟩, hgot, hout⟩ := Option.bind_eq_some_iff.mp hread
    obtain ⟨time, htime, hpair⟩ := Option.map_eq_some_iff.mp hout
    obtain ⟨hrc, hyear⟩ := Prod.mk.inj hpair
    obtain ⟨time', r'', hgot', hsame⟩ := hok hrc
    cases hgot.symm.trans hgot'
    cases htime
    have hset : time.fields.year = 2020 := congrArg CivilTime.year hsame
    exact absurd (hyear.symm.trans hset) (by decide)

end Router

end SedsNet
