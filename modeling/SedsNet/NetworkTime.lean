import SedsNet.Advertised
import SedsNet.Router.Books

/-!
# Reading the network time

`get_network_time_ms` may find that the source it follows has gone quiet, follow another, and set the anchor of the network time
anew; `poll_timesync` forgets quiet sources and may take up a name from the routes. Here is what the two do to the anchor
(`Anchored`, `switchSource_anchor`), and that the times that are read one after the other never go back.

The exact time of an anchor is an integer (`TimeSyncRuntime.timeAt`); the 64-bit sum is the same where the integer fits
(`TimeSyncRuntime.Tells`).
-/

set_option autoImplicit false

namespace SedsNet

open Lib

/-! ## The anchor -/

namespace TimeSyncRuntime

/-- The network time at a clock reading, without a bound. -/
def timeAt (sync : TimeSyncRuntime) (now : UInt64) : Int :=
  sync.networkAnchorUnixMs.toNat + now.toNat - sync.networkAnchorLocalMs.toNat

/-- 64 bits can tell the network time at a clock reading. -/
def Tells (sync : TimeSyncRuntime) (now : UInt64) : Prop := 0 ≤ sync.timeAt now ∧ sync.timeAt now < 2 ^ 64

instance (sync : TimeSyncRuntime) (now : UInt64) : Decidable (sync.Tells now) :=
  inferInstanceAs (Decidable (0 ≤ sync.timeAt now ∧ sync.timeAt now < 2 ^ 64))

theorem Tells.toNat_eq {sync : TimeSyncRuntime} {now : UInt64} (h : sync.Tells now) :
    ((sync.networkAnchorUnixMs + (now - sync.networkAnchorLocalMs)).toNat : Int) = sync.timeAt now := by
  have hunix := sync.networkAnchorUnixMs.toNat_lt
  have hlocal := sync.networkAnchorLocalMs.toNat_lt
  have hnow := now.toNat_lt
  obtain ⟨hlow, hhigh⟩ := h
  unfold timeAt at hlow hhigh ⊢
  rw [UInt64.toNat_add, UInt64.toNat_sub]
  omega

theorem timeAt_mono (sync : TimeSyncRuntime) {now later : UInt64} (h : now ≤ later) : sync.timeAt now ≤ sync.timeAt later := by
  have hle := UInt64.le_iff_toNat_le.mp h
  unfold timeAt
  omega

/-- Nothing that the network time is told from changes. -/
structure Anchored (sync sync' : TimeSyncRuntime) : Prop where
  known : sync'.hasNetworkTime = sync.hasNetworkTime
  localMs : sync'.networkAnchorLocalMs = sync.networkAnchorLocalMs
  unixMs : sync'.networkAnchorUnixMs = sync.networkAnchorUnixMs

theorem Anchored.refl (sync : TimeSyncRuntime) : Anchored sync sync := ⟨rfl, rfl, rfl⟩

theorem Anchored.timeAt_eq {sync sync' : TimeSyncRuntime} (h : Anchored sync sync') (now : UInt64) : sync'.timeAt now = sync.timeAt now := by
  unfold timeAt
  rw [h.localMs, h.unixMs]

end TimeSyncRuntime

namespace Router

variable {S : Schema} {E : Env} {r : Router}

/-- What `get_network_time_ms` writes to `out_ms`. -/
def networkTimeMs (E : Env) (r : Router) : Option UInt64 :=
  if r.timesync.hasNetworkTime then some (currentNetworkMs E (switchSource E r)).1 else none

theorem currentNetworkMs_timesync (E : Env) (r : Router) : (r.currentNetworkMs E).2.timesync = r.timesync :=
  congrArg Prod.fst (currentNetworkMs_books E r)

theorem currentNetworkMs_known (h : r.timesync.hasNetworkTime = true) :
    r.currentNetworkMs E = (r.timesync.networkAnchorUnixMs + (E.clock r.clockReads - r.timesync.networkAnchorLocalMs),
      r.setOwner (r.toOwner.nowMs E).2) := by
  unfold currentNetworkMs
  rw [h]
  rfl

/-! ## One call -/

theorem toNat_le_max (a b : UInt64) : b.toNat ≤ (max a b).toNat := by
  rw [← UInt64.le_iff_toNat_le]
  show b ≤ if a ≤ b then b else a
  split
  · exact UInt64.le_refl b
  · rename_i hnot
    exact UInt64.le_of_lt (UInt64.not_le.mp hnot)

/-- No earlier reading, and no other bound, is above the network time from now on. -/
def Ahead (E : Env) (r : Router) (bound : Int) : Prop := ∀ n, r.clockReads ≤ n → bound ≤ r.timesync.timeAt (E.clock n)

theorem Ahead.anchored {r' : Router} {bound : Int} (h : r.Ahead E bound) (hreads : r.clockReads ≤ r'.clockReads)
    (hanchor : r.timesync.Anchored r'.timesync) : r'.Ahead E bound := by
  intro n hn
  rw [hanchor.timeAt_eq]
  exact h n (Nat.le_trans hreads hn)

theorem switchSource_known (E : Env) (r : Router) : (switchSource E r).timesync.hasNetworkTime = r.timesync.hasNetworkTime := by
  unfold switchSource
  split
  · rfl
  · dsimp only
    split
    · rfl
    · split
      · rfl
      · have hsame := currentNetworkMs_timesync E (r.setOwner (r.toOwner.nowMs E).2)
        have hknown := congrArg TimeSyncRuntime.hasNetworkTime hsame
        exact hknown

/-- What the search for another source does to the anchor: nothing, or it is set to the present or later. -/
theorem switchSource_ahead (hclock : E.Monotonic) (hknown : r.timesync.hasNetworkTime = true)
    (htells : r.timesync.currentSource ≠ [] → r.timesync.Tells (E.clock (r.clockReads + 1))) {bound : Int} (h : r.Ahead E bound) :
    (switchSource E r).Ahead E bound := by
  unfold switchSource
  by_cases hsource : r.timesync.currentSource.isEmpty = true
  · rw [if_pos hsource]
    exact h
  rw [if_neg hsource]
  dsimp only
  have hread : (r.setOwner (r.toOwner.nowMs E).2).Ahead E bound := h.anchored (Nat.le_succ _) (.refl _)
  split
  · exact hread
  · split
    · exact hread
    · intro n hn
      have hcurrent := currentNetworkMs_known (E := E) (r := r.setOwner (r.toOwner.nowMs E).2) hknown
      have hexact : (((r.setOwner (r.toOwner.nowMs E).2).currentNetworkMs E).1.toNat : Int) =
          r.timesync.timeAt (E.clock (r.clockReads + 1)) := by
        rw [hcurrent]
        exact (htells fun hnone => hsource (List.isEmpty_iff.mpr hnone)).toNat_eq
      have hbound := h (r.clockReads + 1) (Nat.le_succ _)
      rw [← hexact] at hbound
      generalize ((r.setOwner (r.toOwner.nowMs E).2).currentNetworkMs E).1 = current at hbound
      generalize List.foldl _ _ _ = best at hn ⊢
      have hmax := toNat_le_max (best.2.lastTimeMs + (E.clock r.clockReads - best.2.lastSeenMs)) current
      have hlater := UInt64.le_iff_toNat_le.mp (hclock r.clockReads n (by
        rw [hcurrent] at hn
        exact Nat.le_of_succ_le (Nat.le_of_succ_le hn)))
      show bound ≤ ((max (best.2.lastTimeMs + (E.clock r.clockReads - best.2.lastSeenMs)) current).toNat : Int) +
        (E.clock n).toNat - (E.clock r.clockReads).toNat
      omega

theorem pruneSources_anchored (sync : TimeSyncRuntime) (now : UInt64) : sync.Anchored (pruneSources sync now) := by
  unfold pruneSources
  dsimp only
  split
  · exact ⟨rfl, rfl, rfl⟩
  · exact ⟨rfl, rfl, rfl⟩

theorem clockReads_currentNetworkMs (E : Env) (r : Router) : r.clockReads ≤ (r.currentNetworkMs E).2.clockReads := by
  unfold currentNetworkMs
  split
  · exact Nat.le_refl _
  · exact Nat.le_succ _

theorem clockReads_enqueueTxFront (o : Owner) (item : TxItem) : (o.enqueueTxFront item).clockReads = o.clockReads := by
  unfold Owner.enqueueTxFront Owner.enqueueTxAt
  split <;> rfl

/-- Polling leaves the anchor alone, in whatever role. -/
theorem pollTimesync_anchored (S : Schema) (E : Env) (r : Router) :
    r.clockReads ≤ (pollTimesync S E r).clockReads ∧ r.timesync.Anchored (pollTimesync S E r).timesync := by
  have hprune := pruneSources_anchored r.timesync (E.clock r.clockReads)
  have hread := Nat.le_succ r.clockReads
  unfold pollTimesync
  split
  · exact ⟨Nat.le_refl _, .refl _⟩
  · generalize hr₁ : ({ r.setOwner (r.toOwner.nowMs E).2 with
      timesync := pruneSources r.timesync (r.toOwner.nowMs E).1 } : Router) = r₁
    have hanchor : r.timesync.Anchored r₁.timesync := by
      rw [← hr₁]
      exact hprune
    have hreads : r.clockReads ≤ r₁.clockReads := by
      rw [← hr₁]
      exact hread
    dsimp only
    rw [hr₁]
    unfold pollRole
    dsimp only
    split
    · unfold announceTime
      dsimp only
      refine ⟨?_, ?_⟩
      · show _ ≤ (Owner.enqueueTxFront _ _).clockReads
        rw [clockReads_enqueueTxFront]
        exact Nat.le_trans hreads (clockReads_currentNetworkMs E r₁)
      · rw [currentNetworkMs_timesync]
        exact ⟨hanchor.known, hanchor.localMs, hanchor.unixMs⟩
    · split
      · unfold requestTime
        generalize (if r₁.timesync.currentSource.isEmpty then r₁.routedSource else r₁.timesync.currentSource) = source
        dsimp only
        split
        · exact ⟨hreads, hanchor⟩
        · refine ⟨?_, ⟨hanchor.known, hanchor.localMs, hanchor.unixMs⟩⟩
          show _ ≤ (Owner.enqueueTxFront _ _).clockReads
          rw [clockReads_enqueueTxFront]
          exact hreads
      · exact ⟨hreads, hanchor⟩

/-! ## Runs -/

inductive TimeCall where
  | getNetworkTimeMs
  | pollTimesync
  deriving DecidableEq, Repr

/-- A call, and the times that have been returned. -/
def timeStep (S : Schema) (E : Env) (s : Router × List UInt64) : TimeCall → Router × List UInt64
  | .getNetworkTimeMs => ((getNetworkTimeMs E s.1).2, s.2 ++ (networkTimeMs E s.1).toList)
  | .pollTimesync => (pollTimesync S E s.1, s.2)

/-- The times that a call works out fit 64 bits: that of the current source, and the one that is returned. -/
def NoOverflow (E : Env) (s : Router × List UInt64) : TimeCall → Prop
  | .getNetworkTimeMs => s.1.timesync.hasNetworkTime = true →
    (s.1.timesync.currentSource ≠ [] → s.1.timesync.Tells (E.clock (s.1.clockReads + 1))) ∧
      (switchSource E s.1).timesync.Tells (E.clock (switchSource E s.1).clockReads)
  | .pollTimesync => True

instance (E : Env) (s : Router × List UInt64) (c : TimeCall) : Decidable (NoOverflow E s c) := by
  cases c
  · exact inferInstanceAs (Decidable (_ → (_ → _) ∧ _))
  · exact inferInstanceAs (Decidable True)

/-- The times so far are in order, and the network time is not behind any of them. -/
structure InOrder (E : Env) (s : Router × List UInt64) : Prop where
  sorted : s.2.Pairwise (· ≤ ·)
  ahead : ∀ t ∈ s.2, s.1.Ahead E t.toNat

theorem InOrder.step {s : Router × List UInt64} (hclock : E.Monotonic) (h : InOrder E s) {c : TimeCall} (hfits : NoOverflow E s c) :
    InOrder E (timeStep S E s c) := by
  obtain ⟨r, ts⟩ := s
  cases c with
  | pollTimesync =>
    obtain ⟨hreads, hanchor⟩ := pollTimesync_anchored S E r
    exact ⟨h.sorted, fun t ht => (h.ahead t ht).anchored hreads hanchor⟩
  | getNetworkTimeMs =>
    unfold timeStep getNetworkTimeMs networkTimeMs
    dsimp only
    cases hknown : r.timesync.hasNetworkTime with
    | false => exact ⟨(List.append_nil ts).symm ▸ h.sorted, fun t ht => h.ahead t (by simpa using ht)⟩
    | true =>
      obtain ⟨htells, hreturned⟩ := hfits hknown
      have hswitch := fun bound (hbound : r.Ahead E bound) => switchSource_ahead hclock hknown htells hbound
      have hknown' := (switchSource_known E r).trans hknown
      rw [if_pos rfl, Option.toList_some]
      rw [show (if (!true) = true then (SEDS_ERR, r) else (SEDS_OK, (currentNetworkMs E (switchSource E r)).2)) =
        (SEDS_OK, (currentNetworkMs E (switchSource E r)).2) from rfl]
      have hexact := hreturned.toNat_eq
      rw [currentNetworkMs_known hknown']
      dsimp only
      generalize switchSource E r = r' at hswitch hexact ⊢
      refine ⟨?_, ?_⟩
      · rw [List.pairwise_append]
        refine ⟨h.sorted, List.pairwise_singleton _ _, fun t ht t' ht' => ?_⟩
        rw [List.mem_singleton.mp ht', UInt64.le_iff_toNat_le]
        have hahead := hswitch t.toNat (h.ahead t ht) r'.clockReads (Nat.le_refl _)
        rw [← hexact] at hahead
        exact Int.ofNat_le.mp hahead
      · intro t ht n hn
        have hn : r'.clockReads + 1 ≤ n := hn
        rcases List.mem_append.mp ht with ht | ht
        · exact hswitch t.toNat (h.ahead t ht) n (Nat.le_of_succ_le hn)
        · rw [List.mem_singleton.mp ht, hexact]
          exact r'.timesync.timeAt_mono (hclock _ _ (Nat.le_of_succ_le hn))

/-- **The network time never goes back.** Whatever sources go quiet and are chosen on the way, the times that are returned one
    after the other do not decrease, as long as the clock does not and 64 bits can tell them. -/
theorem networkTime_inOrder (S : Schema) (E : Env) (hclock : E.Monotonic) (r : Router) (calls : List TimeCall)
    (hfits : Along (timeStep S E) (NoOverflow E) (r, []) calls) :
    (runFrom (timeStep S E) (r, []) calls).2.Pairwise (· ≤ ·) := by
  have hstart : InOrder E (r, []) := ⟨.nil, fun t ht => nomatch ht⟩
  exact (hfits.invariant hstart fun s c hfits h => h.step hclock hfits).sorted

/-- A clock that goes 40 ms further with each reading, a hundred times. -/
def tickingEnv : Env := ⟨fun n => UInt64.ofNat (1000 + 40 * min n 100), fun _ => 0⟩

/-- A router that follows a source heard at 1000, and knows of another, with an earlier time, heard at 1100. -/
def failoverRouter : Router :=
  { new .Sink (ascii "R") [] [] with
    timesync := { TimeSyncRuntime.new with
      enabled := true, sourceTimeoutMs := 100, hasNetworkTime := true, networkAnchorLocalMs := 1000,
      networkAnchorUnixMs := 1700000000000, currentSource := ascii "SRC_A", currentSourcePriority := 10,
      sources := ((∅ : Map Bytes TimeSyncSource).insert (ascii "SRC_A") ⟨10, 1000, 1700000000000⟩).insert (ascii "SRC_B")
        ⟨20, 1100, 1699999990000⟩ } }

theorem networkTime_inOrder_failover :
    let s := runFrom (timeStep ⟨[], []⟩ tickingEnv) (failoverRouter, [])
      [.getNetworkTimeMs, .getNetworkTimeMs, .getNetworkTimeMs, .pollTimesync]
    s.1.timesync.networkAnchorLocalMs = 1160 ∧ s.2.length = 3 ∧ s.2.Pairwise (· ≤ ·) := by
  have hclock : tickingEnv.Monotonic := by
    intro m n hmn
    have htick : ∀ k, (tickingEnv.clock k).toNat = 1000 + 40 * min k 100 := fun k =>
      UInt64.toNat_ofNat_of_lt' (show 1000 + 40 * min k 100 < 2 ^ 64 by omega)
    rw [UInt64.le_iff_toNat_le, htick, htick]
    omega
  obtain ⟨hanchor, hlength, hfits⟩ :
      (runFrom (timeStep ⟨[], []⟩ tickingEnv) (failoverRouter, [])
        [.getNetworkTimeMs, .getNetworkTimeMs, .getNetworkTimeMs, .pollTimesync]).1.timesync.networkAnchorLocalMs = 1160 ∧
      (runFrom (timeStep ⟨[], []⟩ tickingEnv) (failoverRouter, [])
        [.getNetworkTimeMs, .getNetworkTimeMs, .getNetworkTimeMs, .pollTimesync]).2.length = 3 ∧
      Along (timeStep ⟨[], []⟩ tickingEnv) (NoOverflow tickingEnv) (failoverRouter, [])
        [.getNetworkTimeMs, .getNetworkTimeMs, .getNetworkTimeMs, .pollTimesync] := by
    decide +kernel
  exact ⟨hanchor, hlength, networkTime_inOrder _ _ hclock _ _ hfits⟩

end Router

end SedsNet
