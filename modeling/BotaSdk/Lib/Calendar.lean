import Mathlib.Tactic.IntervalCases
import Mathlib.Tactic.Linarith
import Mathlib.Tactic.Ring
import Mathlib.Data.Nat.Basic
import Mathlib.Data.Int.Basic

/-!
# The proleptic Gregorian calendar

Dates from the year 0 on, counted from the first of January of that year, and the civil-day
arithmetic that starts its years in March.
-/

namespace Calendar

def IsLeap (year : Nat) : Prop :=
  year % 4 = 0 ∧ (year % 100 ≠ 0 ∨ year % 400 = 0)

instance : DecidablePred IsLeap := fun _ => inferInstanceAs (Decidable (_ ∧ _))

def leapDay (year : Nat) : Nat :=
  if IsLeap year then 1 else 0

def monthLength (year month : Nat) : Nat :=
  if month = 2 then 28 + leapDay year
  else if month = 4 ∨ month = 6 ∨ month = 9 ∨ month = 11 then 30
  else 31

/-- The days before the first of January of a year. -/
def yearStart : Nat → Nat
  | 0 => 0
  | year + 1 => yearStart year + (365 + leapDay year)

/-- The days of a year before the first of a month. -/
def monthStart (year : Nat) : Nat → Nat
  | 0 => 0
  | 1 => 0
  | month + 2 => monthStart year (month + 1) + monthLength year (month + 1)

structure Date where
  year : Nat
  month : Nat
  day : Nat
  month_pos : 1 ≤ month
  month_le : month ≤ 12
  day_pos : 1 ≤ day
  day_le : day ≤ monthLength year month

@[ext] theorem Date.ext {a b : Date} (hyear : a.year = b.year) (hmonth : a.month = b.month)
    (hday : a.day = b.day) : a = b := by
  cases a
  cases b
  cases hyear
  cases hmonth
  cases hday
  rfl

/-- The days before a date. -/
def Date.number (date : Date) : Nat :=
  yearStart date.year + monthStart date.year date.month + (date.day - 1)

theorem leapDay_le (year : Nat) : leapDay year ≤ 1 := by
  unfold leapDay
  split <;> omega

/-! ## Years and months in closed form -/

theorem leapDay_int (year : Nat) :
    ((year : Int) - 1) / 4 - ((year : Int) - 1) / 100 + ((year : Int) - 1) / 400 + leapDay year =
      year / 4 - year / 100 + (year : Int) / 400 := by
  by_cases hleap : IsLeap year
  · rw [leapDay, if_pos hleap]
    unfold IsLeap at hleap
    omega
  · rw [leapDay, if_neg hleap]
    unfold IsLeap at hleap
    omega

theorem yearStart_eq (year : Nat) :
    (yearStart year : Int) =
      365 * year + (((year : Int) - 1) / 4 - ((year : Int) - 1) / 100 + ((year : Int) - 1) / 400) +
        1 := by
  induction year with
  | zero => rfl
  | succ year ih =>
    have hleap := leapDay_int year
    have hsame : ((year + 1 : Nat) : Int) - 1 = year := by omega
    rw [yearStart, hsame]
    push_cast
    linarith

/-- From March on the months follow one straight line. -/
theorem monthStart_eq (year : Nat) {month : Nat} (hlow : 3 ≤ month) (hhigh : month ≤ 12) :
    monthStart year month = 59 + leapDay year + (153 * (month - 3) + 2) / 5 := by
  interval_cases month <;> simp [monthStart, monthLength] <;> omega

theorem monthStart_succ {year month : Nat} (hpos : 1 ≤ month) :
    monthStart year (month + 1) = monthStart year month + monthLength year month := by
  obtain ⟨month, rfl⟩ := Nat.exists_eq_add_of_le' hpos
  rfl

theorem monthLength_le (year month : Nat) : monthLength year month ≤ 31 := by
  have hleap := leapDay_le year
  unfold monthLength
  split_ifs <;> omega

/-! ## A date is told by its number -/

theorem yearStart_mono : Monotone yearStart :=
  monotone_nat_of_le_succ fun _ => Nat.le_add_right _ _

theorem monthStart_mono (year : Nat) : Monotone (monthStart year) :=
  monotone_nat_of_le_succ fun month => by
    cases month with
    | zero => exact Nat.le_refl 0
    | succ month => exact Nat.le_add_right _ _

theorem monthStart_end (year : Nat) : monthStart year 13 = 365 + leapDay year := by
  rw [monthStart_succ (by decide), monthStart_eq year (by decide) (by decide), monthLength]
  simp
  omega

namespace Date

theorem monthStart_lt (date : Date) :
    monthStart date.year date.month + (date.day - 1) < monthStart date.year (date.month + 1) := by
  have hday := date.day_pos
  have hle := date.day_le
  rw [monthStart_succ date.month_pos]
  omega

theorem number_lt (date : Date) : date.number < yearStart (date.year + 1) := by
  have hmonth := date.monthStart_lt
  have hend : monthStart date.year (date.month + 1) ≤ monthStart date.year 13 :=
    monthStart_mono date.year (Nat.succ_le_succ date.month_le)
  have hyear := monthStart_end date.year
  rw [number, yearStart]
  omega

theorem yearStart_le (date : Date) : yearStart date.year ≤ date.number := by
  rw [number]
  omega

theorem number_injective : Function.Injective number := by
  intro a b h
  have hyear : a.year = b.year := by
    rcases Nat.lt_trichotomy a.year b.year with hlt | heq | hgt
    · have hle := (yearStart_mono hlt).trans b.yearStart_le
      exact absurd (a.number_lt.trans_le hle) (by omega)
    · exact heq
    · have hle := (yearStart_mono hgt).trans a.yearStart_le
      exact absurd (b.number_lt.trans_le hle) (by omega)
  have ha := a.monthStart_lt
  have hb := b.monthStart_lt
  rw [number, number, hyear] at h
  rw [hyear] at ha
  have hmonth : a.month = b.month := by
    rcases Nat.lt_trichotomy a.month b.month with hlt | heq | hgt
    · have hle : monthStart b.year (a.month + 1) ≤ _ := monthStart_mono b.year hlt
      omega
    · exact heq
    · have hle : monthStart b.year (b.month + 1) ≤ _ := monthStart_mono b.year hgt
      omega
  have hday : a.day = b.day := by
    have hfirst := a.day_pos
    have hsecond := b.day_pos
    rw [hmonth] at h
    omega
  exact Date.ext hyear hmonth hday

end Date

/-! ## Years that start in March

A leap day is then the last day of its year, and the months follow one straight line. -/

/-- The number of a date, from an era of 400 years, a year of the era and a month after March. -/
theorem Date.number_eq (date : Date) (year era yo mp : Int)
    (hyear : year = date.year - if (date.month : Int) ≤ 2 then 1 else 0) (hera : era = year / 400)
    (hyo : yo = year - era * 400)
    (hmp : mp = date.month + if (date.month : Int) > 2 then -3 else 9) :
    (date.number : Int) =
      era * 146097 + yo * 365 + yo / 4 - yo / 100 + (153 * mp + 2) / 5 + date.day - 1 + 60 := by
  have hday := date.day_pos
  have hmonth := date.month_pos
  have hstart := yearStart_eq date.year
  have hlast : ((date.day - 1 : Nat) : Int) = date.day - 1 := by omega
  have hcycle : era * 146097 + yo * 365 + yo / 4 - yo / 100 =
      365 * year + year / 4 - year / 100 + year / 400 := by
    have hquarter : year / 4 = 100 * era + yo / 4 := by omega
    have hcentury : year / 100 = 4 * era + yo / 100 := by omega
    omega
  rw [Date.number, hcycle]
  by_cases hearly : date.month ≤ 2
  · have hprior : (date.year : Int) - 1 = year := by
      rw [hyear, if_pos (by omega)]
    rw [if_neg (by omega)] at hmp
    have hmonths : monthStart date.year date.month = 31 * (date.month - 1) := by
      have htwo : date.month = 1 ∨ date.month = 2 := by omega
      rcases htwo with h | h <;> rw [h] <;> rfl
    have hline : (153 * mp + 2) / 5 = 306 + 31 * ((date.month : Int) - 1) := by omega
    have hfirst : ((31 * (date.month - 1) : Nat) : Int) = 31 * ((date.month : Int) - 1) := by omega
    rw [hprior] at hstart
    rw [hmonths, hline, Nat.cast_add, Nat.cast_add, hfirst, hlast]
    linarith
  · have hsame : (date.year : Int) = year := by
      rw [hyear, if_neg (by omega), Int.sub_zero]
    rw [if_pos (by omega)] at hmp
    have hmonths := monthStart_eq date.year (by omega) date.month_le
    have hline : (153 * mp + 2) / 5 = ((153 * (date.month - 3) + 2) / 5 : Nat) := by omega
    have hleap := leapDay_int date.year
    rw [hsame] at hleap hstart
    rw [hmonths, hline, Nat.cast_add, Nat.cast_add, hlast]
    push_cast
    linarith

/-- The year of an era that a day of the era falls in. -/
theorem eraYear_spec {doe yo : Nat} (h : doe < 146097)
    (hyo : yo = (doe - doe / 1460 + doe / 36524 - doe / 146096) / 365) :
    yo < 400 ∧ 365 * yo + yo / 4 ≤ doe + yo / 100 ∧
      doe + (yo + 1) / 100 < 365 * (yo + 1) + (yo + 1) / 4 + (yo + 1) / 400 := by
  by_cases hlast : doe = 146096
  · subst hlast
    have hyear : yo = 399 := hyo
    subst hyear
    decide
  -- a century, a leap cycle of four years in it, and a day of the cycle
  obtain ⟨c, hc⟩ : ∃ c, c = doe / 36524 := ⟨_, rfl⟩
  obtain ⟨q, hq⟩ : ∃ q, q = (doe - 36524 * c) / 1461 := ⟨_, rfl⟩
  obtain ⟨s, hs⟩ : ∃ s, s = doe - 36524 * c - 1461 * q := ⟨_, rfl⟩
  have hcentury : c ≤ 3 := by omega
  have hcycle : q ≤ 24 := by omega
  have hday : s < 1461 := by omega
  have hdoe : doe = 36524 * c + 1461 * q + s := by omega
  have hsmall : doe / 146096 = 0 := by omega
  have hyear : yo = 100 * c + 4 * q + min 3 (s / 365) := by
    rw [hyo, hsmall, ← hc]
    have hleaps : s = 1460 ∨ s < 1460 := by omega
    omega
  obtain ⟨r, hr⟩ : ∃ r, r = min 3 (s / 365) := ⟨_, rfl⟩
  rw [← hr] at hyear
  have hstart : 365 * r ≤ s := by omega
  have hend : s < 365 * (r + 1) ∨ r = 3 := by omega
  have hrest : r ≤ 3 := by omega
  have hin : 1461 * q + s < 36524 := by omega
  clear hyo hsmall hs hq hc hr
  have hquarter : yo / 4 = 25 * c + q := by omega
  have hcenturies : yo / 100 = c := by omega
  rw [hquarter, hcenturies]
  refine ⟨by omega, by omega, ?_⟩
  by_cases hthree : r = 3
  · have hnext : (yo + 1) / 4 = 25 * c + q + 1 := by omega
    rw [hnext]
    by_cases hfull : q = 24
    · have hsum : (yo + 1) / 100 = c + 1 := by omega
      rw [hsum]
      omega
    · have hsum : (yo + 1) / 100 = c := by omega
      rw [hsum]
      omega
  · have hnext : (yo + 1) / 4 = 25 * c + q := by omega
    have hsum : (yo + 1) / 100 = c := by omega
    rw [hnext, hsum]
    omega

theorem eraYear_int {doe yo : Int} (hpos : 0 ≤ doe) (h : doe < 146097)
    (hyo : yo = (doe - doe / 1460 + doe / 36524 - doe / 146096) / 365) :
    (0 ≤ yo ∧ yo < 400) ∧ 365 * yo + yo / 4 ≤ doe + yo / 100 ∧
      doe + (yo + 1) / 100 < 365 * (yo + 1) + (yo + 1) / 4 + (yo + 1) / 400 := by
  lift doe to Nat using hpos
  obtain ⟨y, hy⟩ : ∃ y, y = (doe - doe / 1460 + doe / 36524 - doe / 146096) / 365 := ⟨_, rfl⟩
  have hspec := eraYear_spec (by omega) hy
  have hnat : yo = (y : Int) := by
    rw [hyo, hy]
    omega
  rw [hnat]
  refine ⟨⟨by omega, by omega⟩, ?_, ?_⟩
  · exact_mod_cast hspec.2.1
  · exact_mod_cast hspec.2.2

/-- A day of a year that starts in March, as a month after March and a day of the month. -/
theorem marchMonth_spec {day mp : Int} (hpos : 0 ≤ day) (h : day ≤ 365)
    (hmp : mp = (5 * day + 2) / 153) :
    (0 ≤ mp ∧ mp ≤ 11) ∧ (153 * mp + 2) / 5 ≤ day ∧ day < (153 * (mp + 1) + 2) / 5 := by
  omega

/-- The last month of a year that starts in March is as long as February of the next year. -/
theorem february_length {year : Nat} {yo era day : Int} (hyo : 0 ≤ yo ∧ yo < 400)
    (hyear : (year : Int) = yo + era * 400 + 1)
    (hend : day + (365 * yo + yo / 4 - yo / 100) + (yo + 1) / 100 <
      365 * (yo + 1) + (yo + 1) / 4 + (yo + 1) / 400) : day < 365 + leapDay year := by
  have hleap := leapDay_int year
  have hprior : (year : Int) - 1 = yo + era * 400 := by omega
  rw [hprior, hyear] at hleap
  have hquarter : (yo + era * 400) / 4 = yo / 4 + 100 * era := by omega
  have hcentury : (yo + era * 400) / 100 = yo / 100 + 4 * era := by omega
  have hera : (yo + era * 400) / 400 = era := by omega
  have hquarter' : (yo + era * 400 + 1) / 4 = (yo + 1) / 4 + 100 * era := by omega
  have hcentury' : (yo + era * 400 + 1) / 100 = (yo + 1) / 100 + 4 * era := by omega
  have hera' : (yo + era * 400 + 1) / 400 = (yo + 1) / 400 + era := by omega
  rw [hquarter, hcentury, hera, hquarter', hcentury', hera'] at hleap
  linarith

theorem le_monthLength (year : Nat) {month : Nat} {day mp : Int} (hlow : 0 ≤ mp) (hhigh : mp ≤ 11)
    (hday : day < (153 * (mp + 1) + 2) / 5)
    (hmonth : (month : Int) = mp + if mp < 10 then 3 else -9)
    (hfebruary : mp = 11 → day < 365 + leapDay year) :
    day - (153 * mp + 2) / 5 + 1 ≤ monthLength year month := by
  by_cases hlast : mp = 11
  · have htwo : month = 2 := by
      rw [if_neg (by omega)] at hmonth
      omega
    have hlength : monthLength year 2 = 28 + leapDay year := rfl
    have hleap := hfebruary hlast
    rw [htwo, hlength, hlast]
    push_cast
    omega
  · have hcases : monthLength year month = 30 ∧ (mp = 1 ∨ mp = 3 ∨ mp = 6 ∨ mp = 8) ∨
        monthLength year month = 31 := by
      unfold monthLength
      split_ifs at hmonth ⊢ <;> omega
    rcases hcases with ⟨hlength, hmp⟩ | hlength <;> rw [hlength] <;> omega

theorem exists_date {z era doe yo day mp : Int} (hz : 0 ≤ z) (hera : era = z / 146097)
    (hdoe : doe = z - era * 146097)
    (hyo : yo = (doe - doe / 1460 + doe / 36524 - doe / 146096) / 365)
    (hday : day = doe - (365 * yo + yo / 4 - yo / 100)) (hmp : mp = (5 * day + 2) / 153) :
    ∃ date : Date,
      (date.number : Int) = z + 60 ∧
      (date.year : Int) =
        yo + era * 400 + (if mp + (if mp < 10 then 3 else -9) ≤ 2 then 1 else 0) ∧
      (date.month : Int) = mp + (if mp < 10 then 3 else -9) ∧
      (date.day : Int) = day - (153 * mp + 2) / 5 + 1 := by
  have hrange : 0 ≤ doe ∧ doe < 146097 := by
    clear hyo hday hmp
    omega
  have hyear := eraYear_int hrange.1 hrange.2 hyo
  clear hyo
  have hlast : 0 ≤ day ∧ day ≤ 365 := by
    clear hmp hera hdoe
    -- a year of the era has 366 days at most, also the last one
    have hnext : (yo + 1) / 4 ≤ yo / 4 + 1 := by omega
    have hcentury : (yo + 1) / 400 + yo / 100 ≤ (yo + 1) / 100 := by
      by_cases hend : yo = 399
      · rw [hend]
        decide
      · have hzero : (yo + 1) / 400 = 0 := by omega
        omega
    omega
  have hmonth := marchMonth_spec hlast.1 hlast.2 hmp
  obtain ⟨month, hm⟩ : ∃ month : Nat, (month : Int) = mp + if mp < 10 then 3 else -9 :=
    Int.eq_ofNat_of_zero_le (by split_ifs <;> omega) |>.imp fun _ h => h.symm
  obtain ⟨year, hy⟩ : ∃ year : Nat,
      (year : Int) = yo + era * 400 + if (month : Int) ≤ 2 then 1 else 0 :=
    Int.eq_ofNat_of_zero_le (by split_ifs <;> omega) |>.imp fun _ h => h.symm
  obtain ⟨last, hd⟩ : ∃ last : Nat, (last : Int) = day - (153 * mp + 2) / 5 + 1 :=
    Int.eq_ofNat_of_zero_le (by omega) |>.imp fun _ h => h.symm
  have hlength := le_monthLength year hmonth.1.1 hmonth.1.2 hmonth.2.2 hm (by
    intro hfebruary
    have hnext : (year : Int) = yo + era * 400 + 1 := by
      rw [hy, if_pos (by rw [hm, hfebruary]; decide)]
    exact february_length hyear.1 hnext (by linarith only [hyear.2.2, hday]))
  have hmonths : 1 ≤ month ∧ month ≤ 12 := by
    split_ifs at hm <;> omega
  obtain ⟨date, hyears, hmonths, hdays⟩ :
      ∃ date : Date, date.year = year ∧ date.month = month ∧ date.day = last :=
    ⟨⟨year, month, last, hmonths.1, hmonths.2, by omega, by omega⟩, rfl, rfl, rfl⟩
  have hnumber := date.number_eq (yo + era * 400) era yo mp
    (by rw [hyears, hmonths, hy]; ring) (by omega) (by ring)
    (by rw [hmonths, hm]; split_ifs <;> omega)
  refine ⟨date, ?_, by rw [hyears, hy, hm], by rw [hmonths, hm], by rw [hdays, hd]⟩
  rw [hnumber, hdays, hd]
  linarith only [hday, hdoe]

end Calendar
