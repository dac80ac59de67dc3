import Mathlib.Tactic.NormNum
import SedsNet.Lib.Gregorian

/-!
# Calendar conversion

`split_unix_ms` and `network_time_to_unix_ms` of `src/core.cpp`: milliseconds since 1970 as a date with a time of day, and back.

Unsigned operations wrap and casts narrow, as the types here do. An operation on signed integers is checked (`signed`): where it
overflows C++ defines nothing, and the result is `none`.
-/

set_option autoImplicit false

namespace SedsNet

open Lib Lib.Gregorian

/-! ## The conversions -/

/-- The result of a signed operation of `w` bits. -/
def signed (w : Nat) (x : Int) : Option Int := if -2 ^ (w - 1) ≤ x ∧ x < 2 ^ (w - 1) then some x else none

/-- The fields that are passed around as a tuple. -/
structure CivilTime where
  year : Int32
  month : UInt8
  day : UInt8
  hour : UInt8
  minute : UInt8
  second : UInt8
  nanosecond : UInt32
deriving DecidableEq, Repr

/-- `split_unix_ms`. -/
def splitUnixMs (unixMs : UInt64) : Option CivilTime := do
  let totalSeconds := unixMs / 1000
  let millisecond := (unixMs % 1000).toUInt32
  let days := (totalSeconds / 86400).toInt64.toInt
  let sod := (totalSeconds % 86400).toUInt32
  let z ← signed 64 (days + 719468)
  let dividend ← (if z ≥ 0 then some z else signed 64 (z - 146096))
  let era := dividend.tdiv 146097
  let eraDays ← signed 64 (era * 146097)
  let offset ← signed 64 (z - eraDays)
  let doe := UInt32.ofInt offset
  let yoe := (doe - doe / 1460 + doe / 36524 - doe / 146096) / 365
  let eraYears ← signed 32 ((Int32.ofInt era).toInt * 400)
  let year ← signed 32 (yoe.toInt32.toInt + eraYears)
  let doy := doe - (365 * yoe + yoe / 4 - yoe / 100)
  let mp := (5 * doy + 2) / 153
  let day := (doy - (153 * mp + 2) / 5 + 1).toUInt8
  let month := (mp + if mp < 10 then 3 else -9).toUInt8
  let year ← signed 32 (year + if month ≤ 2 then 1 else 0)
  let hour := (sod / 3600).toUInt8
  let minute := (sod % 3600 / 60).toUInt8
  let second := (sod % 60).toUInt8
  some ⟨Int32.ofInt year, month, day, hour, minute, second, millisecond * 1000000⟩

def isLeapYear (year : Int32) : Bool :=
  (year.toInt.tmod 4 == 0 && year.toInt.tmod 100 != 0) || year.toInt.tmod 400 == 0

def daysInMonth (year : Int32) (month : UInt8) : UInt8 :=
  match month.toNat with
  | 1 | 3 | 5 | 7 | 8 | 10 | 12 => 31
  | 4 | 6 | 9 | 11 => 30
  | 2 => if isLeapYear year then 29 else 28
  | _ => 0

def daysFromCivil (year : Int32) (month day : UInt8) : Option Int := do
  let year ← signed 32 (year.toInt - if month ≤ 2 then 1 else 0)
  let dividend ← (if year ≥ 0 then some year else signed 32 (year - 399))
  let era := dividend.tdiv 400
  let eraYears ← signed 32 (era * 400)
  let offset ← signed 32 (year - eraYears)
  let yoe := UInt32.ofInt offset
  let monthIndex := if month > 2 then UInt32.ofInt (month.toNat - 3) else UInt32.ofInt (month.toNat + 9)
  let doy := (153 * monthIndex + 2) / 5 + day.toUInt32 - 1
  let doe := yoe * 365 + yoe / 4 - yoe / 100 + doy
  let eraDays ← signed 64 (era * 146097)
  let days ← signed 64 (eraDays + doe.toNat)
  signed 64 (days - 719468)

/-- The check of `network_time_to_unix_ms`. -/
def CivilTime.rejected (t : CivilTime) : Bool :=
  t.month < 1 || t.month > 12 || t.day < 1 || t.day > daysInMonth t.year t.month || t.hour > 23 || t.minute > 59 ||
    t.second > 59 || t.nanosecond ≥ 1000000000

/-- `network_time_to_unix_ms`: the outer `none` is an overflow, the inner one the `nullopt`. -/
def networkTimeToUnixMs (t : CivilTime) : Option (Option UInt64) :=
  if t.rejected then some none
  else do
    let days ← daysFromCivil t.year t.month t.day
    let seconds := UInt64.ofInt days * 86400 + t.hour.toUInt64 * 3600 + t.minute.toUInt64 * 60 + t.second.toUInt64
    some (some (seconds * 1000 + (t.nanosecond / 1000000).toUInt64))

/-! ## Dates and times -/

namespace CivilTime

/-- The milliseconds from the start of 1970 to a time, whether or not they can be told in 64 bits. -/
def exactMs (t : CivilTime) : Int :=
  dayNumber t.year.toInt t.month.toNat t.day.toNat * 86400000 + t.hour.toNat * 3600000 + t.minute.toNat * 60000 +
    t.second.toNat * 1000 + t.nanosecond.toNat / 1000000

/-- A date of the calendar and a time of day. -/
structure Valid (t : CivilTime) : Prop where
  month : 1 ≤ t.month.toNat ∧ t.month.toNat ≤ 12
  day : 1 ≤ t.day.toNat ∧ t.day.toNat ≤ monthLength t.year.toInt t.month.toNat
  hour : t.hour.toNat < 24
  minute : t.minute.toNat < 60
  second : t.second.toNat < 60
  nanosecond : t.nanosecond.toNat < 1000000000

def Valid.date {t : CivilTime} (h : t.Valid) : Date :=
  ⟨t.year.toInt, t.month.toNat, t.day.toNat, h.month.1, h.month.2, h.day.1, h.day.2⟩

/-- A time with its nanoseconds cut down to milliseconds. -/
def truncated (t : CivilTime) : CivilTime := { t with nanosecond := t.nanosecond / 1000000 * 1000000 }

end CivilTime

/-! ## Checked arithmetic -/

section

variable {w : Nat} {x : Int}

theorem signed_of_mem (hlow : -2 ^ (w - 1) ≤ x) (hhigh : x < 2 ^ (w - 1)) : signed w x = some x := if_pos ⟨hlow, hhigh⟩

theorem signed_of_lt (h : x < -2 ^ (w - 1)) : signed w x = none := if_neg fun hmem => Int.not_le.mpr h hmem.1

/-- Truncated division of a dividend that is moved down where it is negative rounds down. -/
theorem tdiv_floor (z : Int) {n : Int} (hn : 0 < n) : (if z ≥ 0 then z else z - (n - 1)).tdiv n = z / n := by
  split
  · rename_i hz
    exact Int.tdiv_eq_ediv_of_nonneg hz
  · rename_i hz
    have hlow := Int.emod_nonneg z (Int.ne_of_gt hn)
    have hhigh := Int.emod_lt_of_pos z hn
    have hup : -(z - (n - 1)) = (n - 1 - z % n) + n * -(z / n) := by
      have hdiv := Int.mul_ediv_add_emod z n
      rw [Int.mul_neg]
      omega
    rw [← Int.neg_neg (z - (n - 1)), Int.neg_tdiv, Int.tdiv_eq_ediv_of_nonneg (by omega), hup,
      Int.add_mul_ediv_left _ _ (Int.ne_of_gt hn), Int.ediv_eq_zero_of_lt (by omega) (by omega)]
    omega

end

/-! ## The fields -/

theorem isLeapYear_iff (year : Int32) : isLeapYear year = true ↔ IsLeap year.toInt := by
  unfold isLeapYear IsLeap
  simp [Int.dvd_iff_tmod_eq_zero]

theorem daysInMonth_toNat (year : Int32) (month : UInt8) : (daysInMonth year month).toNat = monthLength year.toInt month.toNat := by
  have hfebruary : (if isLeapYear year then (29 : UInt8) else 28).toNat = if IsLeap year.toInt then 29 else 28 := by
    by_cases h : IsLeap year.toInt
    · rw [if_pos h, if_pos ((isLeapYear_iff year).mpr h)]
      rfl
    · rw [if_neg h, if_neg (mt (isLeapYear_iff year).mp h)]
      rfl
  unfold daysInMonth
  generalize month.toNat = m
  unfold monthLength
  split <;> first | rfl | exact hfebruary | simp_all

theorem CivilTime.rejected_iff {t : CivilTime} : t.rejected = false ↔ t.Valid := by
  have hlength := daysInMonth_toNat t.year t.month
  unfold CivilTime.rejected
  simp only [Bool.or_eq_false_iff, decide_eq_false_iff_not, UInt8.lt_iff_toNat_lt, UInt32.le_iff_toNat_le, ge_iff_le,
    gt_iff_lt, hlength]
  constructor
  · rintro ⟨⟨⟨⟨⟨⟨⟨hm, hm'⟩, hd⟩, hd'⟩, hh⟩, hmin⟩, hs⟩, hns⟩
    simp at hm hm' hd hd' hh hmin hs hns
    exact ⟨by omega, by omega, by omega, by omega, by omega, by omega⟩
  · rintro ⟨hm, hd, hh, hmin, hs, hns⟩
    simp
    omega

/-! ## From a date to a day -/

theorem toNat_ofInt32 {x : Int} (hlow : 0 ≤ x) (hhigh : x < 2 ^ 32) : (UInt32.ofInt x).toNat = x.toNat := by
  unfold UInt32.ofInt
  rw [Int.emod_eq_of_lt hlow hhigh, UInt32.toNat_ofNat']
  omega

/-- The month of `days_from_civil`. -/
theorem monthIndex_toNat {month : UInt8} (hpos : 1 ≤ month.toNat) (hle : month.toNat ≤ 12) :
    (if month > 2 then UInt32.ofInt (month.toNat - 3) else UInt32.ofInt (month.toNat + 9)).toNat = marchMonth month.toNat := by
  unfold marchMonth
  have hlt : month > 2 ↔ 2 < month.toNat := UInt8.lt_iff_toNat_lt
  by_cases h : month > 2
  · have hlate := hlt.mp h
    rw [if_pos h, if_neg (by omega), toNat_ofInt32 (by omega) (by omega)]
    omega
  · have hearly := mt hlt.mpr h
    rw [if_neg h, if_pos (by omega), toNat_ofInt32 (by omega) (by omega)]
    omega

theorem cycleStart_toNat {yoe : UInt32} (hyoe : yoe.toNat < 400) : (yoe * 365 + yoe / 4 - yoe / 100).toNat = cycleStart yoe.toNat := by
  have hdays : (yoe * 365).toNat = yoe.toNat * 365 := by
    rw [UInt32.toNat_mul]
    exact Nat.mod_eq_of_lt (by show yoe.toNat * 365 < 2 ^ 32; omega)
  have hfours : (yoe / 4).toNat = yoe.toNat / 4 := UInt32.toNat_div yoe 4
  have hcenturies : (yoe / 100).toNat = yoe.toNat / 100 := UInt32.toNat_div yoe 100
  unfold cycleStart
  rw [UInt32.toNat_sub, UInt32.toNat_add, hdays, hfours, hcenturies]
  omega

theorem marchStart_toNat {p : UInt32} (hp : p.toNat ≤ 12) : ((153 * p + 2) / 5).toNat = marchStart p.toNat := by
  have hdays : (153 * p).toNat = 153 * p.toNat := by
    rw [UInt32.toNat_mul]
    exact Nat.mod_eq_of_lt (by show 153 * p.toNat < 2 ^ 32; omega)
  have hsum : (153 * p + 2).toNat = 153 * p.toNat + 2 := by
    rw [UInt32.toNat_add, hdays]
    exact Nat.mod_eq_of_lt (by show 153 * p.toNat + 2 < 2 ^ 32; omega)
  unfold marchStart
  rw [UInt32.toNat_div, hsum]
  rfl

/-- The unsigned part of `days_from_civil`: the day of a cycle. -/
theorem doe_toNat {yoe p : UInt32} {day : UInt8} (hyoe : yoe.toNat < 400) (hp : p.toNat ≤ 11) (hday : 1 ≤ day.toNat) :
    (yoe * 365 + yoe / 4 - yoe / 100 + ((153 * p + 2) / 5 + day.toUInt32 - 1)).toNat =
      cycleStart yoe.toNat + marchStart p.toNat + day.toNat - 1 := by
  have hbyte := day.toNat_lt
  have hone : (1 : UInt32).toNat = 1 := rfl
  have hcycle : cycleStart yoe.toNat ≤ 146097 := by
    unfold cycleStart
    omega
  have hmonths : marchStart p.toNat ≤ 337 := by
    unfold marchStart
    omega
  rw [UInt32.toNat_add, cycleStart_toNat hyoe, UInt32.toNat_sub, UInt32.toNat_add, marchStart_toNat (by omega), UInt8.toNat_toUInt32, hone]
  omega

/-- `days_from_civil` numbers the days right, as far back as its signed operations go. -/
theorem daysFromCivil_eq {year : Int32} {month day : UInt8} (hm : 1 ≤ month.toNat) (hm' : month.toNat ≤ 12) (hd : 1 ≤ day.toNat)
    (hd' : day.toNat ≤ monthLength year.toInt month.toNat) :
    daysFromCivil year month day =
      if -2 ^ 31 + 399 ≤ marchYear year.toInt month.toNat then some (dayNumber year.toInt month.toNat day.toNat) else none := by
  have hlow := year.le_toInt
  have hhigh := year.toInt_lt
  have hbyte := day.toNat_lt
  have hyear : year.toInt - (if month ≤ 2 then 1 else 0) = marchYear year.toInt month.toNat := by
    have hle : month ≤ 2 ↔ month.toNat ≤ 2 := UInt8.le_iff_toNat_le
    unfold marchYear
    by_cases h : month ≤ 2
    · rw [if_pos h, if_pos (hle.mp h)]
    · rw [if_neg h, if_neg (mt hle.mpr h), Int.sub_zero]
  have hnumber := Date.number_march ⟨year.toInt, month.toNat, day.toNat, hm, hm', hd, hd'⟩
  change dayNumber year.toInt month.toNat day.toNat = _ at hnumber
  have hindex := monthIndex_toNat hm hm'
  have hmarch : marchMonth month.toNat ≤ 11 := by
    unfold marchMonth
    split <;> omega
  have hsame : marchYear year.toInt month.toNat ≤ year.toInt := by
    unfold marchYear
    split <;> omega
  unfold daysFromCivil
  rw [hyear, hnumber]
  dsimp only
  generalize marchYear year.toInt month.toNat = y at *
  generalize (if month > 2 then UInt32.ofInt (month.toNat - 3) else UInt32.ofInt (month.toNat + 9)) = p at *
  rw [← hindex] at hmarch ⊢
  by_cases hback : -2 ^ 31 + 399 ≤ y
  · have hdividend : (if y ≥ 0 then some y else signed 32 (y - 399)) = some (if y ≥ 0 then y else y - (400 - 1)) := by
      split
      · rfl
      · exact signed_of_mem (by omega) (by omega)
    obtain ⟨k, hk⟩ : ∃ k : Nat, (k : Int) = y - y / 400 * 400 := ⟨(y - y / 400 * 400).toNat, by omega⟩
    have hyoe : (UInt32.ofInt (y - y / 400 * 400)).toNat = k := by
      rw [toNat_ofInt32 (by omega) (by omega)]
      omega
    have hcycle := yearStart_cycle (y / 400) (y := k) (by omega)
    have hcycleDays : 1 ≤ cycleStart k + marchStart p.toNat + day.toNat ∧ cycleStart k + marchStart p.toNat + day.toNat ≤ 147000 := by
      unfold cycleStart marchStart
      omega
    rw [if_pos hback, signed_of_mem (by omega) (by omega)]
    dsimp only [Option.bind_eq_bind, Option.bind_some]
    rw [hdividend]
    dsimp only [Option.bind_some]
    rw [tdiv_floor y (by decide), signed_of_mem (by omega) (by omega)]
    dsimp only [Option.bind_some]
    rw [signed_of_mem (by omega) (by omega)]
    dsimp only [Option.bind_some]
    rw [doe_toNat (by omega) hmarch hd, hyoe, signed_of_mem (by omega) (by omega)]
    dsimp only [Option.bind_some]
    rw [signed_of_mem (by omega) (by omega)]
    dsimp only [Option.bind_some]
    rw [signed_of_mem (by omega) (by omega), show y + 1 = 400 * (y / 400) + k + 1 by omega, hcycle]
    congr 1
    omega
  · rw [if_neg hback]
    by_cases hyear : y < -2 ^ 31
    · rw [signed_of_lt (by omega)]
      rfl
    · rw [signed_of_mem (by omega) (by omega)]
      dsimp only [Option.bind_eq_bind, Option.bind_some]
      rw [if_neg (by omega), signed_of_lt (by omega)]
      rfl

theorem toNat_ofInt64 (x : Int) : ((UInt64.ofInt x).toNat : Int) = x % 2 ^ 64 := by
  unfold UInt64.ofInt
  rw [UInt64.toNat_ofNat']
  omega

/-- What is accepted is the time in milliseconds, as far as 64 bits hold it. -/
theorem networkTimeToUnixMs_eq {t : CivilTime} (h : t.Valid) :
    networkTimeToUnixMs t =
      if -2 ^ 31 + 399 ≤ marchYear t.year.toInt t.month.toNat then some (some (UInt64.ofInt t.exactMs)) else none := by
  unfold networkTimeToUnixMs
  rw [CivilTime.rejected_iff.mpr h, daysFromCivil_eq h.month.1 h.month.2 h.day.1 h.day.2]
  split
  · contradiction
  split
  · dsimp only [Option.bind_eq_bind, Option.bind_some]
    congr 2
    apply UInt64.toNat_inj.mp
    have hexact := toNat_ofInt64 t.exactMs
    have hdays := toNat_ofInt64 (dayNumber t.year.toInt t.month.toNat t.day.toNat)
    have hhour := h.hour
    have hminute := h.minute
    have hsecond := h.second
    have hns := h.nanosecond
    unfold CivilTime.exactMs at hexact ⊢
    simp only [UInt64.toNat_add, UInt64.toNat_mul, UInt8.toNat_toUInt64, UInt32.toNat_toUInt64, UInt32.toNat_div, UInt64.reduceToNat,
      UInt32.reduceToNat]
    omega
  · rfl

/-! ## From a day to a date -/

theorem days_toInt (unixMs : UInt64) : (unixMs / 1000 / 86400).toInt64.toInt = unixMs.toNat / 86400000 := by
  have hlt := unixMs.toNat_lt
  have hdays : (unixMs / 1000 / 86400).toNat = unixMs.toNat / 86400000 := by
    rw [UInt64.toNat_div, UInt64.toNat_div]
    exact Nat.div_div_eq_div_mul _ 1000 86400
  have hsmall : 2 * (unixMs / 1000 / 86400).toNat < 2 ^ 64 := by omega
  show (unixMs / 1000 / 86400).toBitVec.toInt = _
  rw [BitVec.toInt_eq_toNat_of_lt hsmall]
  show ((unixMs / 1000 / 86400).toNat : Int) = _
  rw [hdays]
  omega

section

variable {doe yoe doy p : UInt32}

theorem yoe_toNat (hdoe : doe.toNat < 146097) :
    ((doe - doe / 1460 + doe / 36524 - doe / 146096) / 365).toNat =
      (doe.toNat - doe.toNat / 1460 + doe.toNat / 36524 - doe.toNat / 146096) / 365 := by
  have hfours : (doe / 1460).toNat = doe.toNat / 1460 := UInt32.toNat_div doe 1460
  have hcenturies : (doe / 36524).toNat = doe.toNat / 36524 := UInt32.toNat_div doe 36524
  have hlast : (doe / 146096).toNat = doe.toNat / 146096 := UInt32.toNat_div doe 146096
  have hless : (doe - doe / 1460).toNat = doe.toNat - doe.toNat / 1460 := by
    rw [UInt32.toNat_sub_of_le _ _ (UInt32.le_iff_toNat_le.mpr (by omega)), hfours]
  have hmore : (doe - doe / 1460 + doe / 36524).toNat = doe.toNat - doe.toNat / 1460 + doe.toNat / 36524 := by
    rw [UInt32.toNat_add, hless, hcenturies]
    exact Nat.mod_eq_of_lt (by omega)
  rw [UInt32.toNat_div, UInt32.toNat_sub_of_le _ _ (UInt32.le_iff_toNat_le.mpr (by omega)), hmore, hlast]
  rfl

theorem doy_toNat {y d : Nat} (hy : y < 400) (hyoe : yoe.toNat = y) (hd : d ≤ 365) (hdoe : doe.toNat = cycleStart y + d) :
    (doe - (365 * yoe + yoe / 4 - yoe / 100)).toNat = d := by
  have hstart : (365 * yoe + yoe / 4 - yoe / 100).toNat = cycleStart y := by
    rw [UInt32.mul_comm, cycleStart_toNat (by omega), hyoe]
  have hlt := doe.toNat_lt
  rw [UInt32.toNat_sub, hstart, hdoe]
  omega

theorem mp_toNat (hdoy : doy.toNat ≤ 365) : ((5 * doy + 2) / 153).toNat = (5 * doy.toNat + 2) / 153 := by
  simp only [UInt32.toNat_div, UInt32.toNat_add, UInt32.toNat_mul, UInt32.reduceToNat]
  omega

theorem splitDay_toNat (hp : p.toNat ≤ 11) (hlow : marchStart p.toNat ≤ doy.toNat) (hhigh : doy.toNat < marchStart (p.toNat + 1)) :
    (doy - (153 * p + 2) / 5 + 1).toUInt8.toNat = doy.toNat - marchStart p.toNat + 1 := by
  have hlength : marchStart (p.toNat + 1) ≤ marchStart p.toNat + 31 := by
    unfold marchStart
    omega
  have hlt := doy.toNat_lt
  have hstart := marchStart_toNat (p := p) (by omega)
  have hrest : (doy - (153 * p + 2) / 5).toNat = doy.toNat - marchStart p.toNat := by
    rw [UInt32.toNat_sub_of_le _ _ (UInt32.le_iff_toNat_le.mpr (by omega)), hstart]
  have hone : (1 : UInt32).toNat = 1 := rfl
  rw [UInt32.toNat_toUInt8, UInt32.toNat_add, hrest, hone]
  omega

theorem splitMonth_toNat (hp : p.toNat ≤ 11) :
    (p + if p < 10 then 3 else -9).toUInt8.toNat = if p.toNat < 10 then p.toNat + 3 else p.toNat - 9 := by
  have hlt : p < 10 ↔ p.toNat < 10 := UInt32.lt_iff_toNat_lt
  have hminus : (-9 : UInt32).toNat = 4294967287 := rfl
  rw [UInt32.toNat_toUInt8, UInt32.toNat_add]
  by_cases h : p < 10
  · have hthree : (3 : UInt32).toNat = 3 := rfl
    rw [if_pos h, if_pos (hlt.mp h), hthree]
    omega
  · have hlate := mt hlt.mpr h
    rw [if_neg h, if_neg hlate, hminus]
    omega

end

/-- A time is the one of a number of milliseconds: its date is that of the day, and its other fields are what is left of the day. -/
structure CivilTime.IsTimeOf (t : CivilTime) (n : Nat) : Prop where
  valid : t.Valid
  day : dayNumber t.year.toInt t.month.toNat t.day.toNat = n / 86400000
  hour : t.hour.toNat = n / 3600000 % 24
  minute : t.minute.toNat = n / 60000 % 60
  second : t.second.toNat = n / 1000 % 60
  nanosecond : t.nanosecond.toNat = n % 1000 * 1000000

theorem CivilTime.IsTimeOf.exactMs_eq {t : CivilTime} {n : Nat} (h : t.IsTimeOf n) : t.exactMs = n := by
  unfold CivilTime.exactMs
  rw [h.day, h.hour, h.minute, h.second, h.nanosecond]
  omega

/-- The time of day of `split_unix_ms`. -/
theorem timeOfDay_toNat (unixMs : UInt64) :
    ((unixMs / 1000 % 86400).toUInt32 / 3600).toUInt8.toNat = unixMs.toNat / 3600000 % 24 ∧
      ((unixMs / 1000 % 86400).toUInt32 % 3600 / 60).toUInt8.toNat = unixMs.toNat / 60000 % 60 ∧
      ((unixMs / 1000 % 86400).toUInt32 % 60).toUInt8.toNat = unixMs.toNat / 1000 % 60 ∧
      ((unixMs % 1000).toUInt32 * 1000000).toNat = unixMs.toNat % 1000 * 1000000 := by
  simp only [UInt32.toNat_toUInt8, UInt32.toNat_div, UInt32.toNat_mod, UInt32.toNat_mul, UInt64.toNat_toUInt32, UInt64.toNat_div,
    UInt64.toNat_mod, UInt64.reduceToNat, UInt32.reduceToNat]
  omega

/-- **`split_unix_ms`** overflows nowhere, and gives the time of its argument. -/
theorem splitUnixMs_isTimeOf (unixMs : UInt64) : ∃ t, splitUnixMs unixMs = some t ∧ t.IsTimeOf unixMs.toNat := by
  have hlt := unixMs.toNat_lt
  -- the days since 1 March of the year 0
  obtain ⟨z, hz⟩ : ∃ z : Int, (unixMs.toNat : Int) / 86400000 + 719468 = z := ⟨_, rfl⟩
  obtain ⟨era, hera⟩ : ∃ era : Int, era = z / 146097 := ⟨_, rfl⟩
  obtain ⟨y, d, hy, hcycle, hd⟩ := exists_day_of_cycle (n := (z % 146097).toNat) (by omega)
  have hd365 : d ≤ 365 := by
    unfold InMarchYear at hd
    omega
  have hd' : InMarchYear (400 * era + y) d := by
    unfold InMarchYear at hd ⊢
    rwa [Int.add_assoc, isLeap_cycle]
  obtain ⟨hp, hlow, hhigh⟩ := month_of_day hd365
  have htdiv : z.tdiv 146097 = era := by
    rw [Int.tdiv_eq_ediv_of_nonneg (by omega), hera]
  have hdoe : (UInt32.ofInt (z - era * 146097)).toNat = cycleStart y + d := by
    rw [toNat_ofInt32 (by omega) (by omega)]
    omega
  have hera32 : (Int32.ofInt era).toInt = era := Int32.toInt_ofInt_of_le (by omega) (by omega)
  obtain ⟨hhour, hminute, hsecond, hnanosecond⟩ := timeOfDay_toNat unixMs
  unfold splitUnixMs
  dsimp only [Option.bind_eq_bind]
  rw [days_toInt, hz, signed_of_mem (by omega) (by omega)]
  rw [Option.bind_some]
  rw [if_pos (by omega)]
  rw [Option.bind_some]
  rw [htdiv, signed_of_mem (by omega) (by omega)]
  rw [Option.bind_some]
  rw [signed_of_mem (by omega) (by omega)]
  rw [Option.bind_some]
  -- the unsigned part, one variable after the other
  generalize UInt32.ofInt (z - era * 146097) = doe at *
  have hyoe := yoe_toNat (show doe.toNat < 146097 by omega)
  rw [year_of_day hy hd hdoe] at hyoe
  generalize (doe - doe / 1460 + doe / 36524 - doe / 146096) / 365 = yoe at *
  have hdoy := doy_toNat hy hyoe hd365 hdoe
  generalize doe - (365 * yoe + yoe / 4 - yoe / 100) = doy at *
  subst hdoy
  have hmp := mp_toNat (show doy.toNat ≤ 365 by omega)
  rw [← hmp] at hp hlow hhigh
  generalize (5 * doy + 2) / 153 = p at *
  have hday := splitDay_toNat hp hlow hhigh
  have hmonth := splitMonth_toNat hp
  generalize (doy - (153 * p + 2) / 5 + 1).toUInt8 = day at *
  generalize (p + if p < 10 then 3 else -9).toUInt8 = month at *
  have hyoe32 : yoe.toInt32.toInt = y := by
    show yoe.toBitVec.toInt = y
    rw [BitVec.toInt_eq_toNat_of_lt (by show 2 * yoe.toNat < 2 ^ 32; omega)]
    exact congrArg Nat.cast hyoe
  have hyear : (y : Int) + era * 400 + (if month ≤ 2 then 1 else 0) =
      if p.toNat < 10 then 400 * era + y else 400 * era + y + 1 := by
    have hle : month ≤ 2 ↔ month.toNat ≤ 2 := UInt8.le_iff_toNat_le
    by_cases hfirst : p.toNat < 10
    · rw [if_pos hfirst] at hmonth ⊢
      rw [if_neg (mt hle.mp (by omega))]
      omega
    · rw [if_neg hfirst] at hmonth ⊢
      rw [if_pos (hle.mpr (by omega))]
      omega
  rw [hera32, signed_of_mem (by omega) (by omega)]
  rw [Option.bind_some]
  rw [hyoe32, signed_of_mem (by omega) (by omega)]
  rw [Option.bind_some]
  rw [hyear, signed_of_mem (by omega) (by omega)]
  rw [Option.bind_some]
  refine ⟨_, rfl, ?_⟩
  obtain ⟨date, hdate⟩ : ∃ date : Date, date = Date.ofMarch (400 * era + y) p.toNat doy.toNat hp hlow hhigh hd' := ⟨_, rfl⟩
  have hnumber := Date.number_ofMarch hp hlow hhigh hd'
  rw [← hdate, yearStart_cycle era hy] at hnumber
  have hyears : date.year = (Int32.ofInt (if p.toNat < 10 then 400 * era + y else 400 * era + y + 1)).toInt := by
    rw [Int32.toInt_ofInt_of_le (by split <;> omega) (by split <;> omega), hdate]
    rfl
  have hmonths : date.month = month.toNat := by
    rw [hmonth, hdate]
    rfl
  have hdayOfMonth : date.day = day.toNat := by
    rw [hday, hdate]
    rfl
  have hlength := date.day_le
  rw [hyears, hmonths, hdayOfMonth] at hlength
  refine ⟨⟨hmonths ▸ ⟨date.month_pos, date.month_le⟩, ⟨hdayOfMonth ▸ date.day_pos, hlength⟩, ?_, ?_, ?_, ?_⟩, ?_, hhour, hminute,
    hsecond, hnanosecond⟩
  · rw [hhour]; omega
  · rw [hminute]; omega
  · rw [hsecond]; omega
  · rw [hnanosecond]; omega
  · rw [← hyears, ← hmonths, ← hdayOfMonth]
    show date.number = _
    rw [hnumber]
    omega

/-! ## There and back -/

namespace CivilTime

theorem toNat_cut (ns : UInt32) : (ns / 1000000 * 1000000).toNat = ns.toNat / 1000000 * 1000000 := by
  have hlt := ns.toNat_lt
  have hcut : (ns / 1000000).toNat = ns.toNat / 1000000 := UInt32.toNat_div ns 1000000
  rw [UInt32.toNat_mul, hcut]
  exact Nat.mod_eq_of_lt (by show ns.toNat / 1000000 * 1000000 < 2 ^ 32; omega)

theorem Valid.withNanosecond {t : CivilTime} (h : t.Valid) {ns : UInt32} (hns : ns.toNat < 1000000000) :
    ({ t with nanosecond := ns } : CivilTime).Valid :=
  ⟨h.month, h.day, h.hour, h.minute, h.second, hns⟩

theorem exactMs_withNanosecond (t : CivilTime) {ns : UInt32} (hsame : ns.toNat / 1000000 = t.nanosecond.toNat / 1000000) :
    ({ t with nanosecond := ns } : CivilTime).exactMs = t.exactMs := by
  have hcast : (ns.toNat : Int) / 1000000 = t.nanosecond.toNat / 1000000 := by omega
  unfold exactMs
  rw [hcast]

theorem Valid.truncated {t : CivilTime} (h : t.Valid) : t.truncated.Valid := by
  have hns := h.nanosecond
  refine h.withNanosecond ?_
  rw [toNat_cut]
  omega

theorem exactMs_truncated (t : CivilTime) : t.truncated.exactMs = t.exactMs := by
  refine t.exactMs_withNanosecond ?_
  rw [toNat_cut]
  omega

/-- Times in the same millisecond differ in what a millisecond leaves open only. -/
theorem Valid.truncated_eq {t t' : CivilTime} (h : t.Valid) (h' : t'.Valid) (hsame : t.exactMs = t'.exactMs) :
    t.truncated = t'.truncated := by
  obtain ⟨hm, hd, hh, hmin, hs, hns⟩ := h
  obtain ⟨hm', hd', hh', hmin', hs', hns'⟩ := h'
  unfold exactMs at hsame
  have hdate : Valid.date ⟨hm, hd, hh, hmin, hs, hns⟩ = Valid.date ⟨hm', hd', hh', hmin', hs', hns'⟩ := by
    apply Date.number_injective
    show dayNumber t.year.toInt t.month.toNat t.day.toNat = dayNumber t'.year.toInt t'.month.toNat t'.day.toNat
    omega
  have hyear : t.year = t'.year := Int32.toInt_inj.mp (congrArg Date.year hdate)
  have hmonth : t.month = t'.month := UInt8.toNat_inj.mp (congrArg Date.month hdate)
  have hday : t.day = t'.day := UInt8.toNat_inj.mp (congrArg Date.day hdate)
  rw [hyear, hmonth, hday] at hsame
  have hhour : t.hour = t'.hour := UInt8.toNat_inj.mp (by omega)
  have hminute : t.minute = t'.minute := UInt8.toNat_inj.mp (by omega)
  have hsecond : t.second = t'.second := UInt8.toNat_inj.mp (by omega)
  have hnanosecond : t.nanosecond / 1000000 = t'.nanosecond / 1000000 := by
    apply UInt32.toNat_inj.mp
    rw [UInt32.toNat_div, UInt32.toNat_div]
    show t.nanosecond.toNat / 1000000 = t'.nanosecond.toNat / 1000000
    omega
  unfold CivilTime.truncated
  rw [hyear, hmonth, hday, hhour, hminute, hsecond, hnanosecond]

theorem IsTimeOf.truncated_eq {t : CivilTime} {n : Nat} (h : t.IsTimeOf n) : t.truncated = t := by
  have hns : t.nanosecond / 1000000 * 1000000 = t.nanosecond := by
    apply UInt32.toNat_inj.mp
    rw [toNat_cut, h.nanosecond]
    omega
  unfold CivilTime.truncated
  rw [hns]

theorem IsTimeOf.unique {t t' : CivilTime} {n : Nat} (h : t.IsTimeOf n) (h' : t'.IsTimeOf n) : t = t' := by
  rw [← h.truncated_eq, ← h'.truncated_eq]
  exact h.valid.truncated_eq h'.valid (h.exactMs_eq.trans h'.exactMs_eq.symm)

/-- A valid time since 1970 is back far enough for no operation to overflow. -/
theorem Valid.marchYear_le {t : CivilTime} (h : t.Valid) (hpos : 0 ≤ t.exactMs) :
    -2 ^ 31 + 399 ≤ marchYear t.year.toInt t.month.toNat := by
  have hyear : 1970 ≤ t.year.toInt := by
    refine Date.year_of_number_nonneg (d := h.date) ?_
    have hhour := h.hour
    have hminute := h.minute
    have hsecond := h.second
    have hns := h.nanosecond
    show 0 ≤ dayNumber t.year.toInt t.month.toNat t.day.toNat
    unfold exactMs at hpos
    omega
  unfold marchYear
  split <;> omega

/-- A valid time that 64 bits can tell is converted to it. -/
theorem Valid.toUnixMs {t : CivilTime} (h : t.Valid) (hpos : 0 ≤ t.exactMs) :
    networkTimeToUnixMs t = some (some (UInt64.ofInt t.exactMs)) := by
  rw [networkTimeToUnixMs_eq h, if_pos (h.marchYear_le hpos)]

/-- The year, the month and the day. -/
def date (t : CivilTime) : Int32 × UInt8 × UInt8 := (t.year, t.month, t.day)

/-- The date of the day after. -/
def nextDate (t : CivilTime) : Int32 × UInt8 × UInt8 :=
  if t.day < daysInMonth t.year t.month then (t.year, t.month, t.day + 1)
  else if t.month < 12 then (t.year, t.month + 1, 1)
  else (t.year + 1, 1, 1)

theorem Valid.date_eq {t t' : CivilTime} (h : t.Valid) (h' : t'.Valid) (hdate : h'.date = h.date) : t'.date = t.date := by
  have hyear : t'.year = t.year := Int32.toInt_inj.mp (congrArg Date.year hdate)
  have hmonth : t'.month = t.month := UInt8.toNat_inj.mp (congrArg Date.month hdate)
  have hday : t'.day = t.day := UInt8.toNat_inj.mp (congrArg Date.day hdate)
  unfold CivilTime.date
  rw [hyear, hmonth, hday]

/-- The day after, in the fields. -/
theorem Valid.date_next {t t' : CivilTime} (h : t.Valid) (h' : t'.Valid) (hnext : h'.date = h.date.next) : t'.date = t.nextDate := by
  have hlength := daysInMonth_toNat t.year t.month
  have hmonthLe : t.month.toNat ≤ 12 := h.month.2
  have hlengthLe : monthLength t.year.toInt t.month.toNat ≤ 31 := by
    rw [← hlength]
    unfold daysInMonth
    split <;> first | decide | (split <;> decide)
  have hone : (1 : UInt8).toNat = 1 := rfl
  have htwelve : (12 : UInt8).toNat = 12 := rfl
  unfold CivilTime.date CivilTime.nextDate
  simp only [UInt8.lt_iff_toNat_lt, hlength, htwelve]
  by_cases hday : t.day.toNat < monthLength t.year.toInt t.month.toNat
  · have hstep : h.date.next.year = t.year.toInt ∧ h.date.next.month = t.month.toNat ∧ h.date.next.day = t.day.toNat + 1 := by
      rw [show h.date.next = _ from dif_pos hday]
      exact ⟨rfl, rfl, rfl⟩
    rw [← hnext] at hstep
    have hdays : (t.day + 1).toNat = t.day.toNat + 1 := by
      rw [UInt8.toNat_add, hone]
      omega
    rw [if_pos hday, Int32.toInt_inj.mp hstep.1, UInt8.toNat_inj.mp hstep.2.1, UInt8.toNat_inj.mp (hstep.2.2.trans hdays.symm)]
  · by_cases hmonth : t.month.toNat < 12
    · have hstep : h.date.next.year = t.year.toInt ∧ h.date.next.month = t.month.toNat + 1 ∧ h.date.next.day = 1 := by
        rw [show h.date.next = _ from (dif_neg hday).trans (dif_pos hmonth)]
        exact ⟨rfl, rfl, rfl⟩
      rw [← hnext] at hstep
      have hmonths : (t.month + 1).toNat = t.month.toNat + 1 := by
        rw [UInt8.toNat_add, hone]
        omega
      rw [if_neg hday, if_pos hmonth, Int32.toInt_inj.mp hstep.1, UInt8.toNat_inj.mp (hstep.2.1.trans hmonths.symm),
        UInt8.toNat_inj.mp (hstep.2.2.trans hone.symm)]
    · have hstep : h.date.next.year = t.year.toInt + 1 ∧ h.date.next.month = 1 ∧ h.date.next.day = 1 := by
        rw [show h.date.next = _ from (dif_neg hday).trans (dif_neg hmonth)]
        exact ⟨rfl, rfl, rfl⟩
      rw [← hnext] at hstep
      -- the year after is one of the type, so the sum does not wrap
      have hyears : (t.year + 1).toInt = t.year.toInt + 1 := by
        have hlow := t'.year.le_toInt
        have hhigh := t'.year.toInt_lt
        have hafter : t'.year.toInt = t.year.toInt + 1 := hstep.1
        rw [Int32.toInt_add, show (1 : Int32).toInt = 1 from rfl, ← hafter]
        exact Int.bmod_eq_of_le (by omega) (by omega)
      rw [if_neg hday, if_neg hmonth, Int32.toInt_inj.mp (hstep.1.trans hyears.symm), UInt8.toNat_inj.mp (hstep.2.1.trans hone.symm),
        UInt8.toNat_inj.mp (hstep.2.2.trans hone.symm)]

end CivilTime

/-- **Calendar conversion is exact for all times.** A time is split, without overflow, into its date and time of day, which convert
    back to it; the dates of two times on one day are the same, the date of the next day is the next date, and day 0 is 1 January 1970. -/
theorem splitUnixMs_exact :
    (∀ unixMs : UInt64, ∃ t, splitUnixMs unixMs = some t ∧ t.IsTimeOf unixMs.toNat ∧ networkTimeToUnixMs t = some (some unixMs)) ∧
    (∀ (unixMs unixMs' : UInt64) (t t' : CivilTime), splitUnixMs unixMs = some t → splitUnixMs unixMs' = some t' →
      (unixMs'.toNat / 86400000 = unixMs.toNat / 86400000 → t'.date = t.date) ∧
      (unixMs'.toNat / 86400000 = unixMs.toNat / 86400000 + 1 → t'.date = t.nextDate)) ∧
    (splitUnixMs 0).map (·.date) = some (1970, 1, 1) := by
  refine ⟨fun unixMs => ?_, fun unixMs unixMs' t t' hsplit hsplit' => ?_, by decide⟩
  · obtain ⟨t, hsplit, ht⟩ := splitUnixMs_isTimeOf unixMs
    have hback := ht.valid.toUnixMs (by rw [ht.exactMs_eq]; exact Int.natCast_nonneg _)
    have hsame : UInt64.ofInt (unixMs.toNat : Int) = unixMs := by
      have hlt := unixMs.toNat_lt
      have hmod := toNat_ofInt64 unixMs.toNat
      exact UInt64.toNat_inj.mp (by omega)
    rw [ht.exactMs_eq, hsame] at hback
    exact ⟨t, hsplit, ht, hback⟩
  · obtain ⟨s, hs, ht⟩ := splitUnixMs_isTimeOf unixMs
    obtain ⟨s', hs', ht'⟩ := splitUnixMs_isTimeOf unixMs'
    cases hs.symm.trans hsplit
    cases hs'.symm.trans hsplit'
    have hnumber : ht.valid.date.number = unixMs.toNat / 86400000 := ht.day
    have hnumber' : ht'.valid.date.number = unixMs'.toNat / 86400000 := ht'.day
    constructor
    · intro hday
      refine ht.valid.date_eq ht'.valid (Date.number_injective ?_)
      omega
    · intro hday
      refine ht.valid.date_next ht'.valid (Date.number_injective ?_)
      rw [Date.number_next]
      omega

/-- The day after 28 February 2024, a second later. -/
theorem splitUnixMs_exact_leap : (splitUnixMs 1709164800000).map (·.date) = some (2024, 2, 29) := by
  have hday : splitUnixMs 1709164799000 = some ⟨2024, 2, 28, 23, 59, 59, 0⟩ := by decide
  have hnext : splitUnixMs 1709164800000 = some ⟨2024, 2, 29, 0, 0, 0, 0⟩ := by decide
  rw [hnext, Option.map_some, (splitUnixMs_exact.2.1 1709164799000 1709164800000 _ _ hday hnext).2 (by decide)]
  decide

/-- A time is represented: where it is converted nothing overflows, and the result splits into the same fields, the nanoseconds cut
    down to milliseconds. -/
def CivilTime.Represented (t : CivilTime) : Prop :=
  ∃ answer, networkTimeToUnixMs t = some answer ∧ ∀ unixMs, answer = some unixMs → splitUnixMs unixMs = some t.truncated

/-- **Which dates are representable**: of the valid ones those from 1970 on whose milliseconds 64 bits can hold. -/
theorem represented_iff (t : CivilTime) : t.Represented ↔ (t.Valid → 0 ≤ t.exactMs ∧ t.exactMs < 2 ^ 64) := by
  constructor
  · rintro ⟨answer, hanswer, hsplit⟩ hvalid
    rw [networkTimeToUnixMs_eq hvalid] at hanswer
    split at hanswer
    · cases hanswer
      obtain ⟨s, hs, hs'⟩ := splitUnixMs_isTimeOf (UInt64.ofInt t.exactMs)
      cases hs.symm.trans (hsplit _ rfl)
      have hexact := hs'.exactMs_eq
      rw [CivilTime.exactMs_truncated] at hexact
      have hlt := (UInt64.ofInt t.exactMs).toNat_lt
      omega
    · cases hanswer
  · intro h
    by_cases hvalid : t.Valid
    · obtain ⟨hpos, hlt⟩ := h hvalid
      refine ⟨_, hvalid.toUnixMs hpos, ?_⟩
      rintro _ ⟨⟩
      obtain ⟨s, hs, hs'⟩ := splitUnixMs_isTimeOf (UInt64.ofInt t.exactMs)
      have hmod := toNat_ofInt64 t.exactMs
      have hsame : s.exactMs = t.exactMs := by
        rw [hs'.exactMs_eq]
        omega
      rw [hs, ← hs'.truncated_eq, hs'.valid.truncated_eq hvalid hsame]
    · have hrejected : t.rejected = true := by
        rw [← Bool.not_eq_false]
        exact mt CivilTime.rejected_iff.mp hvalid
      refine ⟨none, ?_, by simp⟩
      unfold networkTimeToUnixMs
      rw [if_pos hrejected]

/-- 31 December 1969 becomes a date of the year 584556019, and the first year of the type cannot be computed with. -/
theorem represented_iff_not :
    networkTimeToUnixMs ⟨1969, 12, 31, 0, 0, 0, 0⟩ = some (some 18446744073623151616) ∧
      (splitUnixMs 18446744073623151616).map (·.date) = some (584556019, 4, 2) ∧
      networkTimeToUnixMs ⟨-2147483648, 1, 1, 0, 0, 0, 0⟩ = none ∧ ¬CivilTime.Represented ⟨1969, 12, 31, 0, 0, 0, 0⟩ := by
  have hwrap : networkTimeToUnixMs ⟨1969, 12, 31, 0, 0, 0, 0⟩ = some (some 18446744073623151616) := by decide
  refine ⟨hwrap, by decide, by decide, ?_⟩
  rintro ⟨answer, hanswer, hsplit⟩
  cases hwrap.symm.trans hanswer
  exact absurd (hsplit _ rfl) (by decide)

end SedsNet
