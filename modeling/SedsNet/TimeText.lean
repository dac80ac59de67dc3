import SedsNet.Basic
import SedsNet.Calendar
import SedsNet.Lib.Fields

/-!
# Times as texts

`human_time` of `src/packet_api.cpp`, which prints the timestamp of a packet: a time of less than 10^12 ms as hours, minutes,
seconds and milliseconds since the node started, any other as a date. The date comes from a second copy of `civil_from_days`, in
which the day of the cycle, the day of the year and the month are signed; what it prints is the date of `split_unix_ms`.
-/

set_option autoImplicit false

namespace SedsNet

open Lib Lib.Gregorian

def kEpochMsThreshold : UInt64 := 1000000000000

/-- `civil_from_days` of `format_epoch_ms`. -/
def civilFromDays (days : Int) : Option (Int × UInt32 × UInt32) := do
  let z ← signed 64 (days + 719468)
  let dividend ← (if z ≥ 0 then some z else signed 64 (z - 146096))
  let era := dividend.tdiv 146097
  let eraDays ← signed 64 (era * 146097)
  let doe ← signed 64 (z - eraDays)
  let noFours ← signed 64 (doe - doe.tdiv 1460)
  let centuries ← signed 64 (noFours + doe.tdiv 36524)
  let counted ← signed 64 (centuries - doe.tdiv 146096)
  let yoe := counted.tdiv 365
  let eraYears ← signed 32 ((Int32.ofInt era).toInt * 400)
  let y ← signed 32 ((Int32.ofInt yoe).toInt + eraYears)
  let years ← signed 64 (365 * yoe)
  let leaps ← signed 64 (years + yoe.tdiv 4)
  let start ← signed 64 (leaps - yoe.tdiv 100)
  let left ← signed 64 (doe - start)
  let doy := (Int32.ofInt left).toInt
  let fives ← signed 32 (5 * doy)
  let scaled ← signed 32 (fives + 2)
  let mp := scaled.tdiv 153
  let months ← signed 32 (153 * mp)
  let shifted ← signed 32 (months + 2)
  let dayIndex ← signed 32 (doy - shifted.tdiv 5)
  let d ← signed 32 (dayIndex + 1)
  let m ← signed 32 (mp + if mp < 10 then 3 else -9)
  let year ← signed 32 (y + if m ≤ 2 then 1 else 0)
  some (year, UInt32.ofInt m, UInt32.ofInt d)

/-- `std::setw(4) << year`, the sign of a negative year behind what fills it up. -/
def yearText (year : Int) : Bytes := (Json.integerText year).leftpad 4 Json.zero

/-- The text of `format_epoch_ms`, of its variables. -/
def epochText (year : Int) (month day hour min sec subMs : Nat) : Bytes :=
  yearText year ++ ascii "-" ++ padded 2 month ++ ascii "-" ++ padded 2 day ++ ascii " " ++ padded 2 hour ++ ascii ":" ++
    padded 2 min ++ ascii ":" ++ padded 2 sec ++ ascii "." ++ padded 3 subMs ++ ascii "Z"

/-- `format_epoch_ms`; `none` where a signed operation overflows. -/
def formatEpochMs (totalMs : UInt64) : Option Bytes := do
  let secs := totalMs / 1000
  let subMs := totalMs % 1000
  let days := (secs / 86400).toInt64.toInt
  let sod := (secs % 86400).toUInt32
  let (year, month, day) ← civilFromDays days
  some (epochText year month.toNat day.toNat (sod / 3600).toNat (sod % 3600 / 60).toNat (sod % 60).toNat subMs.toNat)

/-- `human_time`. -/
def humanTime (totalMs : UInt64) : Option Bytes :=
  if totalMs ≥ kEpochMsThreshold then formatEpochMs totalMs
  else
    let hours := (totalMs / 3600000).toNat
    let minutes := (totalMs % 3600000 / 60000).toNat
    let seconds := (totalMs % 60000 / 1000).toNat
    let milliseconds := (totalMs % 1000).toNat
    some <|
      if hours > 0 then
        toDecimal hours ++ ascii "h " ++ padded 2 minutes ++ ascii "m " ++ padded 2 seconds ++ ascii "s " ++
          padded 3 milliseconds ++ ascii "ms"
      else if minutes > 0 then
        toDecimal minutes ++ ascii "m " ++ padded 2 seconds ++ ascii "s " ++ padded 3 milliseconds ++ ascii "ms"
      else toDecimal seconds ++ ascii "s " ++ padded 3 milliseconds ++ ascii "ms"

/-! ## The two copies of the calendar -/

/-- **`civil_from_days` of `format_epoch_ms`** overflows nowhere that a timestamp can reach, and gives the date of the day. -/
theorem civilFromDays_eq {days : Int} (hpos : 0 ≤ days) (hlt : days < 2 ^ 38) :
    ∃ d : Date, d.number = days ∧ civilFromDays days = some (d.year, UInt32.ofInt d.month, UInt32.ofInt d.day) := by
  obtain ⟨z, hz⟩ : ∃ z : Int, days + 719468 = z := ⟨_, rfl⟩
  obtain ⟨era, hera⟩ : ∃ era : Int, era = z / 146097 := ⟨_, rfl⟩
  obtain ⟨y, doy, hy, hcycle, hdoy⟩ := exists_day_of_cycle (n := (z % 146097).toNat) (by omega)
  have hdoy365 : doy ≤ 365 := by
    unfold InMarchYear at hdoy
    omega
  have hdoy' : InMarchYear (400 * era + y) doy := by
    unfold InMarchYear at hdoy ⊢
    rwa [Int.add_assoc, isLeap_cycle]
  obtain ⟨p, hmp⟩ : ∃ p : Nat, p = (5 * doy + 2) / 153 := ⟨_, rfl⟩
  obtain ⟨hp, hlow, hhigh⟩ := month_of_day hdoy365
  rw [← hmp] at hp hlow hhigh
  have hyear := year_of_day hy hdoy hcycle
  have hnumber := Date.number_ofMarch hp hlow hhigh hdoy'
  rw [yearStart_cycle era hy] at hnumber
  refine ⟨Date.ofMarch (400 * era + y) p doy hp hlow hhigh hdoy', by omega, ?_⟩
  have htdiv : z.tdiv 146097 = era := by
    rw [Int.tdiv_eq_ediv_of_nonneg (by omega), hera]
  obtain ⟨n, hn⟩ : ∃ n : Nat, n = (z % 146097).toNat := ⟨_, rfl⟩
  rw [← hn] at hcycle hyear
  have hdoe : z - era * 146097 = (n : Int) := by omega
  have hfours : (n : Int).tdiv 1460 = (n / 1460 : Nat) := rfl
  have hcenturies : (n : Int).tdiv 36524 = (n / 36524 : Nat) := rfl
  have hlast : (n : Int).tdiv 146096 = (n / 146096 : Nat) := rfl
  have hcounted : ((n : Int) - (n / 1460 : Nat) + (n / 36524 : Nat) - (n / 146096 : Nat)).tdiv 365 = y := by
    rw [Int.tdiv_eq_ediv_of_nonneg (by omega)]
    omega
  have hleaps : (y : Int).tdiv 4 = (y / 4 : Nat) := rfl
  have hskipped : (y : Int).tdiv 100 = (y / 100 : Nat) := rfl
  have hera32 : (Int32.ofInt era).toInt = era := Int32.toInt_ofInt_of_le (by omega) (by omega)
  have hyoe32 : (Int32.ofInt (y : Int)).toInt = y := Int32.toInt_ofInt_of_le (by omega) (by omega)
  have hleft : (n : Int) - (365 * y + (y / 4 : Nat) - (y / 100 : Nat)) = doy := by
    unfold cycleStart at hcycle
    omega
  have hdoy32 : (Int32.ofInt (doy : Int)).toInt = doy := Int32.toInt_ofInt_of_le (by omega) (by omega)
  have hmonth : (5 * (doy : Int) + 2).tdiv 153 = p := by
    rw [Int.tdiv_eq_ediv_of_nonneg (by omega)]
    omega
  have hstart : (153 * (p : Int) + 2).tdiv 5 = (marchStart p : Nat) := by
    rw [Int.tdiv_eq_ediv_of_nonneg (by omega)]
    unfold marchStart
    omega
  unfold civilFromDays
  dsimp only [Option.bind_eq_bind]
  rw [hz, signed_of_mem (by omega) (by omega), Option.bind_some, if_pos (by omega), Option.bind_some, htdiv,
    signed_of_mem (by omega) (by omega), Option.bind_some, signed_of_mem (by omega) (by omega), Option.bind_some, hdoe, hfours, hcenturies,
    hlast]
  -- the day of the cycle, and its year
  rw [signed_of_mem (by omega) (by omega), Option.bind_some, signed_of_mem (by omega) (by omega), Option.bind_some,
    signed_of_mem (by omega) (by omega), Option.bind_some, hcounted, hera32, signed_of_mem (by omega) (by omega), Option.bind_some, hyoe32,
    signed_of_mem (by omega) (by omega), Option.bind_some]
  -- the day of the year, and its month
  rw [hleaps, hskipped, signed_of_mem (by omega) (by omega), Option.bind_some, signed_of_mem (by omega) (by omega), Option.bind_some,
    signed_of_mem (by omega) (by omega), Option.bind_some, hleft, signed_of_mem (by omega) (by omega), Option.bind_some, hdoy32,
    signed_of_mem (by omega) (by omega), Option.bind_some, signed_of_mem (by omega) (by omega), Option.bind_some, hmonth]
  rw [signed_of_mem (by omega) (by omega), Option.bind_some, signed_of_mem (by omega) (by omega), Option.bind_some, hstart]
  have hlength : marchStart (p + 1) ≤ marchStart p + 31 ∧ marchStart p ≤ 337 := by
    unfold marchStart
    omega
  have hday : (doy : Int) - marchStart p + 1 = (doy - marchStart p + 1 : Nat) := by omega
  rw [signed_of_mem (by omega) (by omega), Option.bind_some, signed_of_mem (by omega) (by omega), Option.bind_some, hday]
  -- January and February are in the next year
  by_cases hfirst : p < 10
  · have hmonths : (p : Int) + (if (p : Int) < 10 then 3 else -9) = (p + 3 : Nat) := by
      rw [if_pos (by omega)]
      omega
    have hdate : (Date.ofMarch (400 * era + y) p doy hp hlow hhigh hdoy').year = y + era * 400 ∧
        (Date.ofMarch (400 * era + y) p doy hp hlow hhigh hdoy').month = p + 3 := by
      unfold Date.ofMarch
      dsimp only
      rw [if_pos hfirst, if_pos hfirst]
      exact ⟨by omega, rfl⟩
    rw [hmonths, signed_of_mem (by omega) (by omega), Option.bind_some, if_neg (by omega), Int.add_zero,
      signed_of_mem (by omega) (by omega), Option.bind_some, hdate.1, hdate.2]
    rfl
  · have hmonths : (p : Int) + (if (p : Int) < 10 then 3 else -9) = (p - 9 : Nat) := by
      rw [if_neg (by omega)]
      omega
    have hdate : (Date.ofMarch (400 * era + y) p doy hp hlow hhigh hdoy').year = y + era * 400 + 1 ∧
        (Date.ofMarch (400 * era + y) p doy hp hlow hhigh hdoy').month = p - 9 := by
      unfold Date.ofMarch
      dsimp only
      rw [if_neg hfirst, if_neg hfirst]
      exact ⟨by omega, rfl⟩
    rw [hmonths, signed_of_mem (by omega) (by omega), Option.bind_some, if_pos (by omega), signed_of_mem (by omega) (by omega),
      Option.bind_some, hdate.1, hdate.2]
    rfl

/-- The text of `format_epoch_ms`, of the fields of `split_unix_ms`. -/
def CivilTime.text (t : CivilTime) : Bytes :=
  epochText t.year.toInt t.month.toNat t.day.toNat t.hour.toNat t.minute.toNat t.second.toNat (t.nanosecond.toNat / 1000000)

/-- The time of day of `format_epoch_ms`. -/
theorem epochTime_toNat (totalMs : UInt64) :
    ((totalMs / 1000 % 86400).toUInt32 / 3600).toNat = totalMs.toNat / 3600000 % 24 ∧
      ((totalMs / 1000 % 86400).toUInt32 % 3600 / 60).toNat = totalMs.toNat / 60000 % 60 ∧
      ((totalMs / 1000 % 86400).toUInt32 % 60).toNat = totalMs.toNat / 1000 % 60 ∧
      (totalMs % 1000).toNat = totalMs.toNat % 1000 := by
  simp only [UInt32.toNat_div, UInt32.toNat_mod, UInt64.toNat_toUInt32, UInt64.toNat_div, UInt64.toNat_mod, UInt64.reduceToNat,
    UInt32.reduceToNat, and_true]
  omega

/-- The two copies agree. -/
theorem formatEpochMs_eq {totalMs : UInt64} {t : CivilTime} (ht : t.IsTimeOf totalMs.toNat) : formatEpochMs totalMs = some t.text := by
  have hlt := totalMs.toNat_lt
  obtain ⟨d, hnumber, hdate⟩ := @civilFromDays_eq (totalMs.toNat / 86400000) (by omega) (by omega)
  have hsame : d = ht.valid.date := Date.number_injective (hnumber.trans ht.day.symm)
  have hyear : d.year = t.year.toInt := congrArg Date.year hsame
  have hmonth : d.month = t.month.toNat := congrArg Date.month hsame
  have hday : d.day = t.day.toNat := congrArg Date.day hsame
  have hmonth32 : (UInt32.ofInt (t.month.toNat : Int)).toNat = t.month.toNat := toNat_ofInt32 (by omega) (by have := t.month.toNat_lt; omega)
  have hday32 : (UInt32.ofInt (t.day.toNat : Int)).toNat = t.day.toNat := toNat_ofInt32 (by omega) (by have := t.day.toNat_lt; omega)
  obtain ⟨hhour, hminute, hsecond, hms⟩ := epochTime_toNat totalMs
  have hnanosecond := ht.nanosecond
  unfold formatEpochMs CivilTime.text
  dsimp only [Option.bind_eq_bind]
  rw [days_toInt, hdate, Option.bind_some]
  dsimp only
  rw [hyear, hmonth, hday, hmonth32, hday32, hhour, hminute, hsecond, hms, ht.hour, ht.minute, ht.second, hnanosecond,
    Nat.mul_div_cancel _ (by decide)]

/-! ## Reading the texts -/

/-- The forms of the text. -/
inductive Layout where
  | date
  | hours
  | minutes
  | seconds

/-- The fields of a text: up to `-`, ` `, `:`, `.` and `Z`, or up to the units. -/
def Layout.fields : Layout → List Field
  | .date =>
    [⟨4, 0x2D, [], rfl⟩, ⟨2, 0x2D, [], rfl⟩, ⟨2, 0x20, [], rfl⟩, ⟨2, 0x3A, [], rfl⟩, ⟨2, 0x3A, [], rfl⟩, ⟨2, 0x2E, [], rfl⟩,
      ⟨3, 0x5A, [], rfl⟩]
  | .hours => [⟨0, 0x68, [0x20], rfl⟩, ⟨2, 0x6D, [0x20], rfl⟩, ⟨2, 0x73, [0x20], rfl⟩, ⟨3, 0x6D, [0x73], rfl⟩]
  | .minutes => [⟨0, 0x6D, [0x20], rfl⟩, ⟨2, 0x73, [0x20], rfl⟩, ⟨3, 0x6D, [0x73], rfl⟩]
  | .seconds => [⟨0, 0x73, [0x20], rfl⟩, ⟨3, 0x6D, [0x73], rfl⟩]

/-- The milliseconds are shown by these numbers. -/
def Layout.Shows (n : Nat) (ns : List Nat) : Layout → Prop
  | .date => ∃ t : CivilTime, t.IsTimeOf n ∧ 0 ≤ t.year.toInt ∧ ns =
      [t.year.toInt.toNat, t.month.toNat, t.day.toNat, t.hour.toNat, t.minute.toNat, t.second.toNat, t.nanosecond.toNat / 1000000]
  | .hours => ns = [n / 3600000, n % 3600000 / 60000, n % 60000 / 1000, n % 1000]
  | .minutes => n < 3600000 ∧ ns = [n % 3600000 / 60000, n % 60000 / 1000, n % 1000]
  | .seconds => n < 60000 ∧ ns = [n % 60000 / 1000, n % 1000]

theorem Layout.Shows.length {layout : Layout} {n : Nat} {ns : List Nat} (h : layout.Shows n ns) : ns.length = layout.fields.length := by
  cases layout with
  | date =>
    obtain ⟨t, -, -, rfl⟩ := h
    rfl
  | hours =>
    cases h
    rfl
  | minutes =>
    obtain ⟨-, rfl⟩ := h
    rfl
  | seconds =>
    obtain ⟨-, rfl⟩ := h
    rfl

/-- The numbers determine what they show. -/
theorem Layout.Shows.unique {layout : Layout} {n m : Nat} {ns : List Nat} (h : layout.Shows n ns) (h' : layout.Shows m ns) : n = m := by
  cases layout with
  | date =>
    obtain ⟨t, ht, hyear, rfl⟩ := h
    obtain ⟨t', ht', hyear', hsame⟩ := h'
    simp only [List.cons.injEq, and_true] at hsame
    obtain ⟨hyears, hmonths, hdays, hhours, hminutes, hseconds, hms⟩ := hsame
    have hexact := ht.exactMs_eq
    have hexact' := ht'.exactMs_eq
    unfold CivilTime.exactMs at hexact hexact'
    rw [show t.year.toInt = t'.year.toInt by omega, hmonths, hdays, hhours, hminutes, hseconds] at hexact
    omega
  | hours =>
    have hsame := h.symm.trans h'
    simp only [List.cons.injEq, and_true] at hsame
    omega
  | minutes =>
    obtain ⟨hlt, rfl⟩ := h
    obtain ⟨hlt', hsame⟩ := h'
    simp only [List.cons.injEq, and_true] at hsame
    omega
  | seconds =>
    obtain ⟨hlt, rfl⟩ := h
    obtain ⟨hlt', hsame⟩ := h'
    simp only [List.cons.injEq, and_true] at hsame
    omega

/-- What stands behind the first number tells the form. -/
theorem Layout.eq_of_text {layout layout' : Layout} {ns ns' : List Nat} (hlength : ns.length = layout.fields.length)
    (hlength' : ns'.length = layout'.fields.length) (h : Field.text layout.fields ns = Field.text layout'.fields ns') :
    layout = layout' := by
  cases ns with
  | nil => cases layout <;> cases hlength
  | cons n ns =>
    cases ns' with
    | nil => cases layout' <;> cases hlength'
    | cons n' ns' =>
      cases layout <;> cases layout' <;> first | rfl | exact absurd (Field.text_cons_inj h).2.1 (by decide)

theorem yearText_eq {year : Int} (h : 0 ≤ year) : yearText year = padded 4 year.toNat := by
  have habs : year.natAbs = year.toNat := by omega
  unfold yearText Json.integerText
  rw [if_neg (Int.not_lt.mpr h), habs]
  rfl

theorem CivilTime.IsTimeOf.year_nonneg {t : CivilTime} {n : Nat} (ht : t.IsTimeOf n) : 0 ≤ t.year.toInt := by
  have hyear : 1970 ≤ t.year.toInt := by
    refine Date.year_of_number_nonneg (d := ht.valid.date) ?_
    show 0 ≤ dayNumber t.year.toInt t.month.toNat t.day.toNat
    rw [ht.day]
    omega
  omega

theorem toDecimal_eq_padded (n : Nat) : toDecimal n = padded 0 n := (padded_zero n).symm

/-- Every time is shown in one of the forms. -/
theorem humanTime_shows (totalMs : UInt64) : ∃ (layout : Layout) (ns : List Nat), layout.Shows totalMs.toNat ns ∧
    humanTime totalMs = some (Field.text layout.fields ns) := by
  unfold humanTime
  simp only [UInt64.toNat_div, UInt64.toNat_mod, UInt64.reduceToNat, toDecimal_eq_padded]
  split
  · obtain ⟨t, -, ht⟩ := splitUnixMs_isTimeOf totalMs
    refine ⟨.date, _, ⟨t, ht, ht.year_nonneg, rfl⟩, ?_⟩
    rw [formatEpochMs_eq ht]
    unfold CivilTime.text epochText
    rw [yearText_eq ht.year_nonneg]
    simp only [List.append_assoc]
    rfl
  · split
    · refine ⟨.hours, _, rfl, ?_⟩
      simp only [List.append_assoc]
      rfl
    · split
      · refine ⟨.minutes, _, ⟨by omega, rfl⟩, ?_⟩
        simp only [List.append_assoc]
        rfl
      · refine ⟨.seconds, _, ⟨by omega, rfl⟩, ?_⟩
        simp only [List.append_assoc]
        rfl

/-- **A text tells its time**: no operation overflows, the texts of two times are different, and from the threshold on the text is
    the date and the time of day that `split_unix_ms` gives. -/
theorem humanTime_exact :
    (∀ totalMs, humanTime totalMs ≠ none) ∧ Function.Injective humanTime ∧
    ∀ (totalMs : UInt64) (t : CivilTime), kEpochMsThreshold ≤ totalMs → splitUnixMs totalMs = some t →
      humanTime totalMs = some t.text := by
  refine ⟨?_, ?_, ?_⟩
  · intro totalMs
    obtain ⟨layout, ns, -, htext⟩ := humanTime_shows totalMs
    rw [htext]
    exact Option.some_ne_none _
  · intro a b hsame
    obtain ⟨layout, ns, hshows, htext⟩ := humanTime_shows a
    obtain ⟨layout', ns', hshows', htext'⟩ := humanTime_shows b
    have htexts : Field.text layout.fields ns = Field.text layout'.fields ns' :=
      Option.some.inj ((htext.symm.trans hsame).trans htext')
    have hlayout := Layout.eq_of_text hshows.length hshows'.length htexts
    subst hlayout
    have hnumbers := Field.text_inj hshows.length hshows'.length htexts
    subst hnumbers
    exact UInt64.toNat_inj.mp (hshows.unique hshows')
  · intro totalMs t hepoch hsplit
    obtain ⟨t', hsplit', ht⟩ := splitUnixMs_isTimeOf totalMs
    cases hsplit'.symm.trans hsplit
    unfold humanTime
    rw [if_pos hepoch, formatEpochMs_eq ht]

/-- The second before 29 February 2024, and two minutes after a start. -/
example : humanTime 1709164799999 = some (ascii "2024-02-28 23:59:59.999Z") ∧ humanTime 120005 = some (ascii "2m 00s 005ms") := by
  decide +kernel

end SedsNet
