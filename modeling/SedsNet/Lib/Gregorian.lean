import Mathlib.Order.SuccPred.Basic
import Mathlib.Algebra.Order.SuccPred
import Mathlib.Algebra.Order.Ring.Int
import Mathlib.Data.Int.SuccPred
import Mathlib.Tactic.IntervalCases

/-!
# The Gregorian calendar

Dates of the proleptic calendar over all integer years, the day after a date, and the number of a day counted from 1 January 1970.
Numbers go up by one from each date to the next (`Date.number_next`), and a number belongs to one date (`Date.number_injective`),
so a date is known by its number.

Conversions in programs count years from March, which puts the leap day last. The second half has the facts they rest on: the
number of a date in March years (`Date.number_march`), the days of a cycle of 400 March years (`exists_day_of_cycle`), and the
closed forms for the year and the month of a day.
-/

set_option autoImplicit false

namespace SedsNet.Lib.Gregorian

def IsLeap (y : Int) : Prop := (4 ∣ y ∧ ¬100 ∣ y) ∨ 400 ∣ y

instance (y : Int) : Decidable (IsLeap y) := inferInstanceAs (Decidable ((4 ∣ y ∧ ¬100 ∣ y) ∨ 400 ∣ y))

/-- The days of a month; what is no month has none. -/
def monthLength (y : Int) : Nat → Nat
  | 1 | 3 | 5 | 7 | 8 | 10 | 12 => 31
  | 4 | 6 | 9 | 11 => 30
  | 2 => if IsLeap y then 29 else 28
  | _ => 0

@[ext] structure Date where
  year : Int
  month : Nat
  day : Nat
  month_pos : 1 ≤ month
  month_le : month ≤ 12
  day_pos : 1 ≤ day
  day_le : day ≤ monthLength year month

theorem monthLength_pos (y : Int) {m : Nat} (hpos : 1 ≤ m) (hle : m ≤ 12) : 1 ≤ monthLength y m := by
  interval_cases m
  case «2» =>
    show 1 ≤ if IsLeap y then 29 else 28
    split <;> decide
  all_goals exact Nat.le_of_ble_eq_true rfl

namespace Date

/-- The day after. -/
def next (d : Date) : Date :=
  if hday : d.day < monthLength d.year d.month then
    ⟨d.year, d.month, d.day + 1, d.month_pos, d.month_le, Nat.le_add_left 1 d.day, hday⟩
  else if hmonth : d.month < 12 then
    ⟨d.year, d.month + 1, 1, Nat.le_add_left 1 d.month, hmonth, Nat.le_refl 1,
      monthLength_pos d.year (Nat.le_add_left 1 d.month) hmonth⟩
  else ⟨d.year + 1, 1, 1, Nat.le_refl 1, by decide, Nat.le_refl 1, monthLength_pos (d.year + 1) (Nat.le_refl 1) (by decide)⟩

end Date

/-! ## Numbering the days -/

/-- The days before 1 January of a year, counted from 1 January of the year 1. -/
def yearStart (y : Int) : Int := 365 * (y - 1) + (y - 1) / 4 - (y - 1) / 100 + (y - 1) / 400

/-- The days of a year before a month. -/
def monthStart (y : Int) : Nat → Nat
  | 0 => 0
  | m + 1 => monthStart y m + monthLength y m

/-- A year has a leap day or it has none. -/
theorem yearStart_succ (y : Int) : yearStart (y + 1) = yearStart y + 365 + if IsLeap y then 1 else 0 := by
  unfold yearStart
  split
  · rename_i hleap
    unfold IsLeap at hleap
    omega
  · rename_i hcommon
    unfold IsLeap at hcommon
    omega

theorem yearStart_monotone {y y' : Int} (h : y ≤ y') : yearStart y ≤ yearStart y' := by
  refine monotone_int_of_le_succ (f := yearStart) (fun y => ?_) h
  rw [yearStart_succ]
  split <;> omega

theorem monthStart_monotone (y : Int) : Monotone (monthStart y) :=
  monotone_nat_of_le_succ fun m => Nat.le_add_right (monthStart y m) (monthLength y m)

/-- The twelve months fill the year. -/
theorem monthStart_end (y : Int) : (monthStart y 13 : Int) = 365 + if IsLeap y then 1 else 0 := by
  show ((0 + 0 + 31 + (if IsLeap y then 29 else 28) + 31 + 30 + 31 + 30 + 31 + 31 + 30 + 31 + 30 + 31 : Nat) : Int) = _
  split <;> rfl

/-- The days from 1 January 1970 to a day of a month. -/
def dayNumber (y : Int) (m day : Nat) : Int := yearStart y + monthStart y m + day - 1 - yearStart 1970

namespace Date

def number (d : Date) : Int := dayNumber d.year d.month d.day

/-- A date, within its year. -/
theorem number_mem_year (d : Date) : yearStart d.year - yearStart 1970 ≤ d.number ∧ d.number < yearStart (d.year + 1) - yearStart 1970 := by
  have hday := d.day_le
  have hpos := d.day_pos
  have hmonth : monthStart d.year d.month + monthLength d.year d.month ≤ monthStart d.year 13 :=
    monthStart_monotone d.year (Nat.succ_le_succ d.month_le)
  have hend := monthStart_end d.year
  have hnext := yearStart_succ d.year
  unfold number dayNumber
  omega

theorem year_of_number_nonneg {d : Date} (h : 0 ≤ d.number) : 1970 ≤ d.year := by
  obtain ⟨-, hhigh⟩ := d.number_mem_year
  by_contra hbefore
  have hstart : yearStart (d.year + 1) ≤ yearStart 1970 := yearStart_monotone (by omega)
  omega

theorem number_next (d : Date) : d.next.number = d.number + 1 := by
  have hday := d.day_le
  unfold next
  split
  · show yearStart d.year + monthStart d.year d.month + ((d.day + 1 : Nat) : Int) - 1 - _ = _
    unfold number dayNumber
    omega
  · rename_i hlast
    have hend : d.day = monthLength d.year d.month := by omega
    split
    · show yearStart d.year + ((monthStart d.year d.month + monthLength d.year d.month : Nat) : Int) + ((1 : Nat) : Int) - 1 - _ = _
      unfold number dayNumber
      omega
    · rename_i hmonth
      have hdecember : d.month = 12 := Nat.le_antisymm d.month_le (Nat.le_of_not_lt hmonth)
      have hyear := monthStart_end d.year
      have hsplit : monthStart d.year 13 = monthStart d.year d.month + monthLength d.year d.month := by
        rw [hdecember]
        rfl
      show yearStart (d.year + 1) + ((monthStart (d.year + 1) 1 : Nat) : Int) + ((1 : Nat) : Int) - 1 - _ = _
      rw [yearStart_succ, show monthStart (d.year + 1) 1 = 0 from rfl]
      unfold number dayNumber
      omega

end Date

/-- Of stretches that follow one another, a point lies in one only. -/
theorem eq_of_between {α β : Type} [LinearOrder α] [SuccOrder α] [LinearOrder β] {f : α → β} (hf : Monotone f) {a b : α} {x : β}
    (ha : f a ≤ x) (ha' : x < f (Order.succ a)) (hb : f b ≤ x) (hb' : x < f (Order.succ b)) : a = b := by
  refine le_antisymm (le_of_not_gt fun h => ?_) (le_of_not_gt fun h => ?_)
  · exact absurd (hb'.trans_le (hf (Order.succ_le_of_lt h))) (not_lt_of_ge ha)
  · exact absurd (ha'.trans_le (hf (Order.succ_le_of_lt h))) (not_lt_of_ge hb)

/-- A day has one date. -/
theorem Date.number_injective : Function.Injective Date.number := by
  intro d d' h
  have hyear : d.year = d'.year := by
    obtain ⟨hlow, hhigh⟩ := d.number_mem_year
    obtain ⟨hlow', hhigh'⟩ := d'.number_mem_year
    refine eq_of_between (x := d.number + yearStart 1970) (fun _ _ => yearStart_monotone) ?_ ?_ ?_ ?_
    · omega
    · rw [Int.succ_eq_succ]
      show _ < yearStart (d.year + 1)
      omega
    · omega
    · rw [Int.succ_eq_succ]
      show _ < yearStart (d'.year + 1)
      omega
  have hinYear : monthStart d.year d.month + d.day = monthStart d'.year d'.month + d'.day := by
    unfold Date.number dayNumber at h
    rw [hyear] at h ⊢
    omega
  have hmonth : d.month = d'.month := by
    have hday := d.day_le
    have hpos := d.day_pos
    have hday' := d'.day_le
    have hpos' := d'.day_pos
    have hsucc : monthStart d.year (d.month + 1) = monthStart d.year d.month + monthLength d.year d.month := rfl
    have hsucc' : monthStart d'.year (d'.month + 1) = monthStart d'.year d'.month + monthLength d'.year d'.month := rfl
    rw [← hyear] at hsucc' hday' hinYear
    refine eq_of_between (x := monthStart d.year d.month + d.day - 1) (monthStart_monotone d.year) ?_ ?_ ?_ ?_
    · omega
    · rw [Nat.succ_eq_succ, Nat.succ_eq_add_one]; omega
    · omega
    · rw [Nat.succ_eq_succ, Nat.succ_eq_add_one]; omega
  have hday : d.day = d'.day := by
    rw [hyear, hmonth] at hinYear
    omega
  exact Date.ext hyear hmonth hday

/-! ## Years from March -/

/-- The year a date is in when years start in March. -/
def marchYear (y : Int) (m : Nat) : Int := if m ≤ 2 then y - 1 else y

/-- Months since March. -/
def marchMonth (m : Nat) : Nat := if m ≤ 2 then m + 9 else m - 3

/-- The days of a March year before a month: three months of 31, 30 and 31 days and two of 31 and 30, over and over. -/
def marchStart (p : Nat) : Nat := (153 * p + 2) / 5

theorem Date.number_march (d : Date) : d.number =
    yearStart (marchYear d.year d.month + 1) + marchStart (marchMonth d.month) + d.day - 1 - 719468 := by
  obtain ⟨y, m, day, hm, hm', hday, hday'⟩ := d
  have hepoch : yearStart 1970 = 719162 := by decide
  unfold number dayNumber marchYear marchMonth
  dsimp only
  rw [hepoch]
  by_cases hfirst : m ≤ 2
  · -- January and February are still in the year before
    rw [if_pos hfirst, if_pos hfirst, Int.sub_add_cancel]
    obtain rfl | rfl : m = 1 ∨ m = 2 := by omega
    · show yearStart y + ((0 : Nat) : Int) + day - 1 - 719162 = yearStart y + ((306 : Nat) : Int) + day - 1 - 719468
      omega
    · show yearStart y + ((31 : Nat) : Int) + day - 1 - 719162 = yearStart y + ((337 : Nat) : Int) + day - 1 - 719468
      omega
  · rw [if_neg hfirst, if_neg hfirst, yearStart_succ]
    have hmarch : (monthStart y 3 : Int) = 59 + if IsLeap y then 1 else 0 := by
      show ((0 + 0 + 31 + (if IsLeap y then 29 else 28) : Nat) : Int) = _
      split <;> rfl
    -- from March on the lengths of the months are the same in every year
    have hmonths : monthStart y m = monthStart y 3 + marchStart (m - 3) := by
      interval_cases m <;> first | omega | rfl
    rw [hmonths]
    push_cast
    omega

/-! ## A cycle of 400 March years -/

/-- The days of a cycle before a March year of it. -/
def cycleStart (y : Nat) : Nat := 365 * y + y / 4 - y / 100

/-- A day of a March year, from 0: the year has a 366th only if its February has 29 days. -/
def InMarchYear (y : Int) (doy : Nat) : Prop := doy < 365 ∨ doy = 365 ∧ IsLeap (y + 1)

theorem yearStart_cycle (era : Int) {y : Nat} (hy : y < 400) : yearStart (400 * era + y + 1) = 146097 * era + cycleStart y := by
  unfold yearStart cycleStart
  omega

theorem isLeap_cycle (era : Int) (y : Int) : IsLeap (400 * era + y) ↔ IsLeap y := by
  unfold IsLeap
  omega

theorem cycleStart_eq (c : Nat) {q b : Nat} (hq : q ≤ 24) (hb : b ≤ 3) :
    cycleStart (100 * c + 4 * q + b) = 36524 * c + 1461 * q + 365 * b := by
  have hfours : (100 * c + 4 * q + b) / 4 = 25 * c + q := by omega
  have hcenturies : (100 * c + 4 * q + b) / 100 = c := by omega
  unfold cycleStart
  omega

/-- A year of a cycle: the year of the four, of the 25 times four, of the century. -/
theorem exists_year_of_cycle {y : Nat} (hy : y < 400) : ∃ c q b : Nat, c ≤ 3 ∧ q ≤ 24 ∧ b ≤ 3 ∧ y = 100 * c + 4 * q + b :=
  ⟨y / 100, y % 100 / 4, y % 4, by omega⟩

/-- Four centuries, each of 25 times four years, of which the last may be a day short. -/
theorem exists_day_of_cycle {n : Nat} (hn : n < 146097) :
    ∃ y doy : Nat, y < 400 ∧ n = cycleStart y + doy ∧ InMarchYear y doy := by
  obtain ⟨c, r, hc, hr, hr'⟩ : ∃ c r : Nat, c ≤ 3 ∧ n = 36524 * c + r ∧ (r < 36524 ∨ r = 36524 ∧ c = 3) := by
    by_cases hlast : n = 146096
    · exact ⟨3, 36524, by omega⟩
    · exact ⟨n / 36524, n % 36524, by omega⟩
  obtain ⟨q, s, hq, hs, hs'⟩ : ∃ q s : Nat, q ≤ 24 ∧ r = 1461 * q + s ∧ s < 1461 := ⟨r / 1461, r % 1461, by omega⟩
  obtain ⟨b, d, hb, hd, hd'⟩ : ∃ b d : Nat, b ≤ 3 ∧ s = 365 * b + d ∧ (d < 365 ∨ d = 365 ∧ b = 3) := by
    by_cases hlast : s = 1460
    · exact ⟨3, 365, by omega⟩
    · exact ⟨s / 365, s % 365, by omega⟩
  refine ⟨100 * c + 4 * q + b, d, by omega, ?_, ?_⟩
  · rw [cycleStart_eq c hq hb]
    omega
  · unfold InMarchYear IsLeap
    omega

/-- The year of a day of a cycle: the leap days up to it are taken out, and what is left is in years of 365 days. -/
theorem year_of_day {y doy n : Nat} (hy : y < 400) (hdoy : InMarchYear y doy) (hn : n = cycleStart y + doy) :
    (n - n / 1460 + n / 36524 - n / 146096) / 365 = y := by
  obtain ⟨c, q, b, hc, hq, hb, rfl⟩ := exists_year_of_cycle hy
  rw [cycleStart_eq c hq hb] at hn
  -- a leap day is in the last year of four, but at the end of a century only in the last century
  have hlast : doy < 365 ∨ doy = 365 ∧ b = 3 ∧ (q < 24 ∨ c = 3) := by
    unfold InMarchYear IsLeap at hdoy
    omega
  by_cases hend : n = 146096
  · omega
  · have hcycle : n / 146096 = 0 := by omega
    have hcenturies : n / 36524 = c := by omega
    have hfours : n / 1460 = 25 * c + q ∧ doy < 365 ∨ n / 1460 = 25 * c + q + 1 ∧ 1 ≤ doy := by omega
    omega

/-- The month of a day of a March year. -/
theorem month_of_day {doy : Nat} (hdoy : doy ≤ 365) :
    (5 * doy + 2) / 153 ≤ 11 ∧ marchStart ((5 * doy + 2) / 153) ≤ doy ∧ doy < marchStart ((5 * doy + 2) / 153 + 1) := by
  unfold marchStart
  omega

/-- February, the last month, aside, the months of a March year have the same lengths in every year. -/
theorem marchStart_succ (y : Int) {p : Nat} (hp : p ≤ 10) :
    marchStart (p + 1) = marchStart p + monthLength y (if p < 10 then p + 3 else p - 9) := by
  interval_cases p <;> rfl

/-- A day of a March year, in a month after its March. -/
def Date.ofMarch (y : Int) (p doy : Nat) (hp : p ≤ 11) (hlow : marchStart p ≤ doy) (hhigh : doy < marchStart (p + 1))
    (hdoy : InMarchYear y doy) : Date where
  year := if p < 10 then y else y + 1
  month := if p < 10 then p + 3 else p - 9
  day := doy - marchStart p + 1
  month_pos := by split <;> omega
  month_le := by split <;> omega
  day_pos := Nat.le_add_left 1 _
  day_le := by
    by_cases hlast : p = 11
    · subst hlast
      show doy - 337 + 1 ≤ if IsLeap (y + 1) then 29 else 28
      rcases hdoy with h | ⟨rfl, hleap⟩
      · split <;> omega
      · rw [if_pos hleap]
    · have hlength := marchStart_succ (if p < 10 then y else y + 1) (p := p) (by omega)
      omega

theorem Date.number_ofMarch {y : Int} {p doy : Nat} (hp : p ≤ 11) (hlow : marchStart p ≤ doy) (hhigh : doy < marchStart (p + 1))
    (hdoy : InMarchYear y doy) :
    (Date.ofMarch y p doy hp hlow hhigh hdoy).number = yearStart (y + 1) + doy - 719468 := by
  have hday : ((doy - marchStart p + 1 : Nat) : Int) = doy - marchStart p + 1 := by omega
  have hyear : marchYear (if p < 10 then y else y + 1) (if p < 10 then p + 3 else p - 9) = y := by
    unfold marchYear
    split <;> split <;> omega
  have hmonth : marchMonth (if p < 10 then p + 3 else p - 9) = p := by
    unfold marchMonth
    split <;> split <;> omega
  refine (Date.number_march _).trans ?_
  show yearStart (marchYear (if p < 10 then y else y + 1) (if p < 10 then p + 3 else p - 9) + 1) +
    marchStart (marchMonth (if p < 10 then p + 3 else p - 9)) + ((doy - marchStart p + 1 : Nat) : Int) - 1 - 719468 = _
  rw [hyear, hmonth, hday]
  omega

end SedsNet.Lib.Gregorian
