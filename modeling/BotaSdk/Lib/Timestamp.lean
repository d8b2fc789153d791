import Mathlib.Data.Rat.Floor
import BotaSdk.Lib.Calendar
import BotaSdk.Lib.Decimal

/-!
# Timestamps

The date and time texts of RFC 3339, with what instant they denote.
-/

namespace Timestamp

inductive Zone where
  | utc
  | offset (west : Bool) (hours : Fin 24) (minutes : Fin 60)
  deriving DecidableEq

namespace Zone

/-- The minutes that local time is ahead. -/
def ahead : Zone → Int
  | utc => 0
  | offset true hours minutes => -(hours.val * 60 + minutes.val : Nat)
  | offset false hours minutes => (hours.val * 60 + minutes.val : Nat)

def text : Zone → List UInt8
  | utc => [90]
  | offset west hours minutes =>
    (if west then 45 else 43) :: (Decimal.fixed 2 hours.val ++ 58 :: Decimal.fixed 2 minutes.val)

end Zone

/-- A date and a time of day, to any fraction of a second, in a zone. -/
structure Stamp where
  date : Calendar.Date
  hour : Nat
  minute : Nat
  second : Nat
  fraction : List UInt8
  zone : Zone
  year_lt : date.year < 10000
  hour_lt : hour < 24
  minute_lt : minute < 60
  second_lt : second < 60
  isDigit : ∀ byte ∈ fraction, Decimal.IsDigit byte

/-- The first of January 1970. -/
def epoch : Nat :=
  Calendar.yearStart 1970

theorem epoch_eq : (epoch : Int) = 719528 :=
  Calendar.yearStart_eq 1970

namespace Stamp

def fractionText (stamp : Stamp) : List UInt8 :=
  if stamp.fraction = [] then [] else 46 :: stamp.fraction

def text (stamp : Stamp) : List UInt8 :=
  Decimal.fixed 4 stamp.date.year ++ 45 :: (Decimal.fixed 2 stamp.date.month ++ 45 ::
    (Decimal.fixed 2 stamp.date.day ++ 84 :: (Decimal.fixed 2 stamp.hour ++ 58 ::
      (Decimal.fixed 2 stamp.minute ++ 58 :: (Decimal.fixed 2 stamp.second ++
        (stamp.fractionText ++ stamp.zone.text))))))

/-- The whole seconds since the epoch. -/
def seconds (stamp : Stamp) : Int :=
  ((stamp.date.number : Int) - epoch) * 86400 + stamp.hour * 3600 + stamp.minute * 60 +
    stamp.second - stamp.zone.ahead * 60

/-- The milliseconds since the epoch. -/
def instant (stamp : Stamp) : ℚ :=
  1000 * (stamp.seconds + Decimal.value stamp.fraction / 10 ^ stamp.fraction.length)

theorem floor_instant (stamp : Stamp) :
    ⌊stamp.instant⌋ = stamp.seconds * 1000 + (Decimal.thousandths stamp.fraction : Nat) := by
  have hpow : ((10 ^ stamp.fraction.length : Nat) : ℚ) ≠ 0 := by positivity
  have hsum : stamp.instant = (stamp.seconds * 1000 : Int) +
      ((1000 * Decimal.value stamp.fraction : Nat) : ℚ) / (10 ^ stamp.fraction.length : Nat) := by
    rw [instant]
    push_cast
    ring
  rw [Decimal.thousandths_eq stamp.isDigit, hsum, Int.floor_intCast_add,
    ← Int.cast_natCast (1000 * Decimal.value stamp.fraction), Rat.floor_intCast_div_natCast]
  norm_cast

/-- With at most three digits of fraction, an instant is a whole count of milliseconds. -/
theorem instant_eq_floor {stamp : Stamp} (h : stamp.fraction.length ≤ 3) :
    stamp.instant = ⌊stamp.instant⌋ := by
  have hscale : (10 : ℚ) ^ (3 - stamp.fraction.length) * 10 ^ stamp.fraction.length = 1000 := by
    rw [← pow_add, Nat.sub_add_cancel h]
    norm_num
  have hpow : (10 : ℚ) ^ stamp.fraction.length ≠ 0 := by positivity
  rw [floor_instant, Decimal.thousandths, List.take_of_length_le h, Nat.min_eq_left h, instant]
  push_cast
  rw [mul_add, mul_comm (1000 : ℚ) stamp.seconds, ← hscale]
  field_simp

/-! ## A text denotes one stamp -/

/-- A zone starts with no digit and no point. -/
theorem zoneText_cons (zone : Zone) :
    ∃ byte rest, zone.text = byte :: rest ∧ ¬Decimal.IsDigit byte ∧ byte ≠ 46 := by
  cases zone with
  | utc => exact ⟨90, [], rfl, by decide, by decide⟩
  | offset west hours minutes =>
    cases west with
    | true => exact ⟨45, _, rfl, by decide, by decide⟩
    | false => exact ⟨43, _, rfl, by decide, by decide⟩

theorem fixed_inj {width a b : Nat} (ha : a < 10 ^ width) (hb : b < 10 ^ width)
    (h : Decimal.fixed width a = Decimal.fixed width b) : a = b := by
  rw [← Decimal.value_fixed ha, h, Decimal.value_fixed hb]

theorem fixed_append_inj {width a b : Nat} {r s : List UInt8} (ha : a < 10 ^ width)
    (hb : b < 10 ^ width) (h : Decimal.fixed width a ++ r = Decimal.fixed width b ++ s) :
    a = b ∧ r = s := by
  have hlength : (Decimal.fixed width a).length = (Decimal.fixed width b).length := by
    rw [Decimal.length_fixed, Decimal.length_fixed]
  exact ⟨fixed_inj ha hb (List.append_inj_left h hlength), List.append_inj_right h hlength⟩

theorem zoneText_inj {a b : Zone} (h : a.text = b.text) : a = b := by
  cases a with
  | utc =>
    cases b with
    | utc => rfl
    | offset west hours minutes => cases west <;> exact absurd (List.cons.inj h).1 (by decide)
  | offset west hours minutes =>
    cases b with
    | utc => cases west <;> exact absurd (List.cons.inj h).1 (by decide)
    | offset east hours' minutes' =>
      have hsign : west = east := by
        have hhead := (List.cons.inj h).1
        revert hhead
        cases west <;> cases east <;> decide
      have hrest := fixed_append_inj (by omega) (by omega) (List.cons.inj h).2
      have hminutes := fixed_inj (by omega) (by omega) (List.cons.inj hrest.2).2
      rw [hsign, Fin.ext hrest.1, Fin.ext hminutes]

theorem fractionText_inj {a b : Stamp}
    (h : a.fractionText ++ a.zone.text = b.fractionText ++ b.zone.text) :
    a.fraction = b.fraction ∧ a.zone = b.zone := by
  obtain ⟨x, r, hx, hxDigit, hxPoint⟩ := zoneText_cons a.zone
  obtain ⟨y, s, hy, hyDigit, hyPoint⟩ := zoneText_cons b.zone
  unfold fractionText at h
  by_cases ha : a.fraction = []
  · by_cases hb : b.fraction = []
    · rw [if_pos ha, if_pos hb] at h
      exact ⟨ha.trans hb.symm, zoneText_inj h⟩
    · rw [if_pos ha, if_neg hb, hx] at h
      exact absurd (List.cons.inj h).1 hxPoint
  · by_cases hb : b.fraction = []
    · rw [if_neg ha, if_pos hb, hy] at h
      exact absurd (List.cons.inj h).1.symm hyPoint
    · rw [if_neg ha, if_neg hb, hx, hy] at h
      have hdigits :=
        Decimal.append_inj a.isDigit b.isDigit hxDigit hyDigit (List.cons.inj h).2
      exact ⟨hdigits.1, zoneText_inj (by rw [hx, hy, hdigits.2])⟩

theorem text_injective : Function.Injective text := by
  intro a b h
  have hdays := a.date.day_le.trans (Calendar.monthLength_le _ _)
  have hdays' := b.date.day_le.trans (Calendar.monthLength_le _ _)
  have hmonths := a.date.month_le
  have hmonths' := b.date.month_le
  obtain ⟨hyear, h⟩ := fixed_append_inj a.year_lt b.year_lt h
  obtain ⟨hmonth, h⟩ := fixed_append_inj (by omega) (by omega) (List.cons.inj h).2
  obtain ⟨hday, h⟩ := fixed_append_inj (by omega) (by omega) (List.cons.inj h).2
  obtain ⟨hhour, h⟩ := fixed_append_inj (a.hour_lt.trans (by decide)) (b.hour_lt.trans (by decide))
    (List.cons.inj h).2
  obtain ⟨hminute, h⟩ := fixed_append_inj (a.minute_lt.trans (by decide))
    (b.minute_lt.trans (by decide)) (List.cons.inj h).2
  obtain ⟨hsecond, h⟩ := fixed_append_inj (a.second_lt.trans (by decide))
    (b.second_lt.trans (by decide)) (List.cons.inj h).2
  obtain ⟨hfraction, hzone⟩ := fractionText_inj h
  have hdate : a.date = b.date := Calendar.Date.ext hyear hmonth hday
  cases a
  cases b
  cases hdate
  cases hhour
  cases hminute
  cases hsecond
  cases hfraction
  cases hzone
  rfl

/-! ## The form that instants are written in -/

/-- In UTC, to the millisecond. -/
def IsIso (stamp : Stamp) : Prop :=
  stamp.zone = .utc ∧ stamp.fraction.length = 3

/-- An instant has one such form. -/
theorem iso_unique {a b : Stamp} (ha : a.IsIso) (hb : b.IsIso) (h : a.instant = b.instant) :
    a = b := by
  have hfloor : ⌊a.instant⌋ = ⌊b.instant⌋ := by rw [h]
  have hlength := ha.2
  have hlength' := hb.2
  rw [floor_instant, floor_instant, Decimal.thousandths, Decimal.thousandths,
    List.take_of_length_le hlength.le, List.take_of_length_le hlength'.le, hlength, hlength',
    Nat.min_self, Nat.sub_self, Nat.pow_zero, Nat.mul_one, Nat.mul_one] at hfloor
  have hlt := Decimal.value_lt a.isDigit
  have hlt' := Decimal.value_lt b.isDigit
  rw [hlength] at hlt
  rw [hlength'] at hlt'
  have hvalue : Decimal.value a.fraction = Decimal.value b.fraction := by omega
  have hseconds : a.seconds = b.seconds := by omega
  have hfraction : a.fraction = b.fraction := by
    rw [← Decimal.fixed_value a.isDigit, ← Decimal.fixed_value b.isDigit, hlength, hlength', hvalue]
  have hzone : a.zone = b.zone := ha.1.trans hb.1.symm
  unfold seconds at hseconds
  rw [hzone] at hseconds
  have hclock := a.hour_lt
  have hclock' := b.hour_lt
  have hminutes := a.minute_lt
  have hminutes' := b.minute_lt
  have hsecond := a.second_lt
  have hsecond' := b.second_lt
  have hday : a.date.number = b.date.number := by omega
  have hhour : a.hour = b.hour := by omega
  have hminute : a.minute = b.minute := by omega
  have hsecond : a.second = b.second := by omega
  have hdate := Calendar.Date.number_injective hday
  cases a
  cases b
  cases hdate
  cases hhour
  cases hminute
  cases hsecond
  cases hfraction
  cases hzone
  rfl

end Stamp

end Timestamp
