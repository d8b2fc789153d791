import BotaSdk.Model.ManagedUploadDateText

/-!
# The instants of `date` and `iso_date` (`model/managed_upload.rs`)

`date` reads each timestamp at or after the epoch to the millisecond, rounded down; `iso_date` writes
the one timestamp in UTC with three digits of fraction that denotes its instant.
-/

namespace BotaSdk

namespace ManagedUpload

open Byo Timestamp

/-! ## Reading a stamp -/

theorem fixed_ascii (width n : Nat) : ∀ c ∈ Decimal.fixed width n, c.toNat < 128 :=
  fun _ hc => toNat_lt_of_isDigit (Decimal.isDigit_of_mem_fixed hc)

theorem stampText_ascii (stamp : Stamp) : ∀ c ∈ stamp.text, c.toNat < 128 := by
  have hfraction : ∀ c ∈ stamp.fractionText, c.toNat < 128 := by
    unfold Stamp.fractionText
    split
    · exact fun _ hc => absurd hc List.not_mem_nil
    · exact List.forall_mem_cons.mpr
        ⟨by decide, fun c hc => toNat_lt_of_isDigit (stamp.isDigit c hc)⟩
  unfold Stamp.text
  simp only [List.forall_mem_append, List.forall_mem_cons]
  exact ⟨fixed_ascii _ _, by decide, fixed_ascii _ _, by decide, fixed_ascii _ _, by decide,
    fixed_ascii _ _, by decide, fixed_ascii _ _, by decide, fixed_ascii _ _, hfraction,
    fun _ => zoneText_ascii⟩

theorem number_lt_of_year_lt {date : Calendar.Date} (h : date.year < 10000) :
    date.number < 3652425 := by
  have hnumber := date.number_lt
  have hyear : Calendar.yearStart (date.year + 1) ≤ Calendar.yearStart 10000 :=
    Calendar.yearStart_mono h
  have hlast : (Calendar.yearStart 10000 : Int) = 3652425 := Calendar.yearStart_eq 10000
  omega

theorem year_lt_of_number_lt {date : Calendar.Date} (h : date.number < 3652425) :
    date.year < 10000 := by
  by_contra hyear
  have hstart := date.yearStart_le
  have hle : Calendar.yearStart 10000 ≤ Calendar.yearStart date.year :=
    Calendar.yearStart_mono (Nat.le_of_not_lt hyear)
  have hlast : (Calendar.yearStart 10000 : Int) = 3652425 := Calendar.yearStart_eq 10000
  omega

theorem epochDay_eq {date : Calendar.Date} (h : date.year < 10000) :
    epochDay date.year date.month date.day = .ok ((date.number : Int) - epoch) := by
  have hlt := number_lt_of_year_lt h
  have hepoch := epoch_eq
  have hday := date.number_eq _ _ _ _ rfl rfl rfl rfl
  unfold epochDay
  dsimp only
  rw [show (date.number : Int) - epoch = date.number - 60 - 719468 by omega]
  rw [show ∀ x : Int, x - 1 - 719468 = x - 1 + 60 - 60 - 719468 by omega, ← hday]
  exact if_pos (by omega)

/-- The fields of a stamp pass the checks. -/
theorem civil (stamp : Stamp) : Civil stamp.date.year stamp.date.month stamp.date.day stamp.hour
    stamp.minute stamp.second :=
  ⟨stamp.date.month_pos, stamp.date.month_le, stamp.date.day_pos, stamp.date.day_le,
    stamp.hour_lt, stamp.minute_lt, stamp.second_lt⟩

theorem fraction_text (stamp : Stamp) : fraction (stamp.fractionText ++ stamp.zone.text) =
    .ok ((Decimal.thousandths stamp.fraction : Nat), stamp.zone.text) := by
  obtain ⟨byte, rest, hzone, hdigit, hpoint⟩ := Stamp.zoneText_cons stamp.zone
  unfold Stamp.fractionText
  by_cases hnone : stamp.fraction = []
  · rw [if_pos hnone, hnone, hzone]
    unfold fraction
    split
    case h_1 part heq => exact absurd (List.cons.inj heq).1 hpoint
    case h_2 => rfl
  · have hend : stamp.zone.text.takeWhile isAsciiDigit = [] := by
      rw [hzone, List.takeWhile_cons_of_neg (fun hc => hdigit (isAsciiDigit_iff.mp hc))]
    rw [if_neg hnone]
    refine fractionPart_eq _ ?_ hnone stamp.isDigit hend
    exact List.forall_mem_append.mpr
      ⟨fun c hc => toNat_lt_of_isDigit (stamp.isDigit c hc), fun _ => zoneText_ascii⟩

theorem header_of_stamp (stamp : Stamp) :
    Header stamp.text stamp.date.year stamp.date.month stamp.date.day stamp.hour stamp.minute stamp.second ∧
      stamp.text.drop 19 = stamp.fractionText ++ stamp.zone.text := by
  have hday := stamp.date.day_le.trans (Calendar.monthLength_le _ _)
  have hmonth := stamp.date.month_le
  exact header_of_text stamp.year_lt (by omega) (by omega) (stamp.hour_lt.trans (by decide))
    (stamp.minute_lt.trans (by decide)) (stamp.second_lt.trans (by decide)) rfl

theorem length_stampText (stamp : Stamp) : 20 ≤ stamp.text.length := by
  obtain ⟨byte, rest, hzone, -, -⟩ := Stamp.zoneText_cons stamp.zone
  unfold Stamp.text
  rw [hzone]
  simp only [List.length_append, List.length_cons, Decimal.length_fixed]
  omega

theorem ahead_bounds (zone : Zone) : -1440 < zone.ahead ∧ zone.ahead < 1440 := by
  cases zone with
  | utc => decide
  | offset west hours minutes =>
    have hhours := hours.isLt
    have hminutes := minutes.isLt
    cases west with
    | true => show -1440 < -((_ : Nat) : Int) ∧ -((_ : Nat) : Int) < 1440; omega
    | false => show -1440 < ((_ : Nat) : Int) ∧ ((_ : Nat) : Int) < 1440; omega

/-- The arithmetic of `date` gives the instant and stays within `i64`. -/
theorem epochMillis_eq (stamp : Stamp) (y m d : Int) :
    epochMillis ((stamp.date.number : Int) - epoch)
        ⟨y, m, d, stamp.hour, stamp.minute, stamp.second⟩ stamp.zone.ahead
        (Decimal.thousandths stamp.fraction : Nat) = .ok ⌊stamp.instant⌋ := by
  have hfloor := stamp.floor_instant
  have hnumber := number_lt_of_year_lt stamp.year_lt
  have hepoch := epoch_eq
  have hzone := ahead_bounds stamp.zone
  have hhour := stamp.hour_lt
  have hminute := stamp.minute_lt
  have hsecond := stamp.second_lt
  have hthousandths := Decimal.thousandths_lt stamp.isDigit
  unfold epochMillis i64
  dsimp only
  rw [hfloor, Stamp.seconds, if_pos (by omega)]
  rfl

theorem date_of_text {v : String} {stamp : Stamp} (h : asBytes v = stamp.text) :
    date v = if ⌊stamp.instant⌋ < 0 then .error invalid else .ok ⌊stamp.instant⌋.toNat := by
  have hascii := stampText_ascii stamp
  have hlength := length_stampText stamp
  obtain ⟨hheader, htail⟩ := header_of_stamp stamp
  have hall : stamp.text.all (· < 128) = true :=
    List.all_eq_true.mpr fun c hc => decide_eq_true (hascii c hc)
  have hslice : slice stamp.text 19 stamp.text.length =
      .ok (stamp.fractionText ++ stamp.zone.text) := by
    rw [slice_of_ascii hascii (by omega) (Nat.le_refl _), htail, List.take_of_length_le]
    rw [← htail, List.length_drop]
  unfold date
  dsimp only
  rw [h, if_neg (by omega), if_neg (not_not.mpr hall), civilFields_eq hascii (by omega) hheader,
    ok_bind, checkFields_eq (civil stamp), ok_bind, hslice, ok_bind, fraction_text, ok_bind,
    offset_eq, ok_bind, epochDay_eq stamp.year_lt, ok_bind, epochMillis_eq, ok_bind]
  generalize ⌊stamp.instant⌋ = ms
  by_cases hneg : ms < 0
  · rw [if_pos hneg, if_pos hneg]
    rfl
  · rw [if_neg hneg, if_neg hneg]
    rfl

/-- The stamp whose parts `date` read. -/
theorem stamp_of_parts {v digits : List UInt8} {y m d hour minute second : Nat} {zone : Zone}
    (hheader : Header v y m d hour minute second) (hcivil : Civil y m d hour minute second)
    (hdigits : ∀ c ∈ digits, Decimal.IsDigit c)
    (htail : v.drop 19 = (if digits = [] then [] else 46 :: digits) ++ zone.text) :
    ∃ stamp : Stamp, v = stamp.text ∧
      (stamp.date.year = y ∧ stamp.date.month = m ∧ stamp.date.day = d) ∧
      (stamp.hour = hour ∧ stamp.minute = minute ∧ stamp.second = second) ∧
      stamp.fraction = digits ∧ stamp.zone = zone := by
  have htext := hheader.text
  rw [htail] at htext
  exact ⟨⟨⟨y, m, d, hcivil.month_pos, hcivil.month_le, hcivil.day_pos, hcivil.day_le⟩, hour,
    minute, second, digits, zone, hheader.y.2, hcivil.hour_lt, hcivil.minute_lt, hcivil.second_lt,
    hdigits⟩, htext, ⟨rfl, rfl, rfl⟩, ⟨rfl, rfl, rfl⟩, rfl, rfl⟩

/-- `date` accepts timestamps only, and never panics. -/
theorem date_returns (v : String) :
    Returns (date v) fun _ => ∃ stamp : Stamp, asBytes v = stamp.text := by
  unfold date
  dsimp only
  refine Returns.check fun hlength => ?_
  refine Returns.check fun hall => ?_
  have hascii : ∀ c ∈ asBytes v, c.toNat < 128 := fun c hc =>
    of_decide_eq_true (List.all_eq_true.mp (not_not.mp hall) c hc)
  refine (civilFields_returns hascii (by omega)).bind fun fields hfields => ?_
  obtain ⟨y, m, d, hour, minute, second, rfl, hheader⟩ := hfields
  refine checkFields_returns.bind fun _ hcivil => ?_
  have htail : ∀ c ∈ (asBytes v).drop 19, c.toNat < 128 := fun c hc =>
    hascii c (List.mem_of_mem_drop hc)
  rw [slice_of_ascii hascii (by omega) (Nat.le_refl _), List.take_of_length_le (by simp)]
  refine (fraction_returns htail).bind fun parts hparts => ?_
  obtain ⟨digits, hdigits, htext, hms⟩ := hparts
  have hrest : ∀ c ∈ parts.2, c.toNat < 128 := fun c hc =>
    htail c (htext ▸ List.mem_append_right _ hc)
  refine (offset_returns hrest).bind fun minutes hzone => ?_
  obtain ⟨zone, hzone, hminutes⟩ := hzone
  obtain ⟨stamp, hstamp, ⟨rfl, rfl, rfl⟩, ⟨rfl, rfl, rfl⟩, rfl, rfl⟩ :=
    stamp_of_parts hheader hcivil hdigits (hzone ▸ htext)
  -- the arithmetic on the fields is that on the stamp
  rw [epochDay_eq stamp.year_lt, ok_bind, hminutes, hms, epochMillis_eq, ok_bind]
  refine Returns.check fun _ => ?_
  exact ⟨stamp, hstamp⟩

theorem date_eq_ok {v : String} {ms : Nat} (h : date v = .ok ms) :
    ∃ stamp : Stamp, asBytes v = stamp.text ∧ ⌊stamp.instant⌋ = ms := by
  obtain ⟨stamp, htext⟩ := (date_returns v).of_ok h
  rw [date_of_text htext] at h
  by_cases hneg : ⌊stamp.instant⌋ < 0
  · rw [if_pos hneg] at h
    exact nomatch h
  · rw [if_neg hneg] at h
    have hms := Except.ok.inj h
    exact ⟨stamp, htext, by omega⟩

/-! ## Writing a stamp -/

/-- The fields that `iso_date` computes are those of a date. -/
theorem civilDate_eq (days : Nat) : ∃ date : Calendar.Date,
    civilDate days = ((date.year : Int), (date.month : Int), (date.day : Int)) ∧ date.number = days + epoch := by
  obtain ⟨date, hnumber, hyear, hmonth, hday⟩ := Calendar.exists_date
    (show 0 ≤ ((days : Nat) : Int) + 719468 by omega) rfl rfl rfl rfl rfl
  have hepoch := epoch_eq
  refine ⟨date, ?_, by omega⟩
  rw [hyear, hmonth, hday]
  rfl

theorem thousandths_fixed {n : Nat} (h : n < 1000) : Decimal.thousandths (Decimal.fixed 3 n) = n := by
  have hlength := Decimal.length_fixed 3 n
  rw [Decimal.thousandths, List.take_of_length_le hlength.le, hlength, Decimal.value_fixed h]
  exact Nat.mul_one n

/-- The timestamp of an instant of a day. -/
theorem exists_iso {date : Calendar.Date} {day ms : Nat} (hyear : date.year < 10000)
    (hday : date.number = day + epoch) (hms : ms / 86400000 = day) : ∃ stamp : Stamp,
    (stamp.IsIso ∧ stamp.instant = ms) ∧
      stamp.date = date ∧ stamp.hour = ms / 1000 % 86400 / 3600 ∧
      stamp.minute = ms / 1000 % 86400 / 60 % 60 ∧ stamp.second = ms / 1000 % 86400 % 60 ∧
      stamp.fraction = Decimal.fixed 3 (ms % 1000) := by
  have hlength := Decimal.length_fixed 3 (ms % 1000)
  obtain ⟨stamp, hdate, hhour, hminute, hsecond, hfraction, hzone⟩ : ∃ stamp : Stamp,
      stamp.date = date ∧ stamp.hour = ms / 1000 % 86400 / 3600 ∧
      stamp.minute = ms / 1000 % 86400 / 60 % 60 ∧ stamp.second = ms / 1000 % 86400 % 60 ∧
      stamp.fraction = Decimal.fixed 3 (ms % 1000) ∧ stamp.zone = .utc :=
    ⟨⟨date, ms / 1000 % 86400 / 3600, ms / 1000 % 86400 / 60 % 60, ms / 1000 % 86400 % 60,
      Decimal.fixed 3 (ms % 1000), .utc, hyear, by omega, by omega, by omega,
      fun _ => Decimal.isDigit_of_mem_fixed⟩, rfl, rfl, rfl, rfl, rfl, rfl⟩
  refine ⟨stamp, ⟨⟨hzone, hfraction ▸ hlength⟩, ?_⟩, hdate, hhour, hminute, hsecond, hfraction⟩
  have hseconds : stamp.seconds = (ms / 1000 : Nat) := by
    rw [Stamp.seconds, hdate, hhour, hminute, hsecond, hzone, hday]
    show _ - 0 * 60 = _
    omega
  have hfloor : ⌊stamp.instant⌋ = (ms : Int) := by
    rw [Stamp.floor_instant, hseconds, hfraction, thousandths_fixed (Nat.mod_lt _ (by decide))]
    omega
  rw [Stamp.instant_eq_floor (hfraction ▸ hlength.le), hfloor]
  rfl

/-- `iso_date` writes the timestamp of its instant. -/
theorem asBytes_isoDate {ms : Nat} (h : ms ≤ DATE_MAX) : ∃ stamp : Stamp,
    (stamp.IsIso ∧ stamp.instant = ms) ∧ asBytes (isoDate ms) = stamp.text := by
  obtain ⟨date, hcivil, hnumber⟩ := civilDate_eq (ms / 86400000)
  have hepoch := epoch_eq
  have hyear : date.year < 10000 := by
    apply year_lt_of_number_lt
    unfold DATE_MAX at h
    omega
  obtain ⟨stamp, hiso, hdate, hhour, hminute, hsecond, hfraction⟩ := exists_iso hyear hnumber rfl
  refine ⟨stamp, hiso, ?_⟩
  have hmonth := date.month_le
  have hday := date.day_le.trans (Calendar.monthLength_le _ _)
  have hpart : stamp.fractionText = 46 :: Decimal.fixed 3 (ms % 1000) := by
    have hne : Decimal.fixed 3 (ms % 1000) ≠ [] := List.ne_nil_of_length_pos (by
      rw [Decimal.length_fixed]
      decide)
    rw [Stamp.fractionText, hfraction, if_neg hne]
  have htext : isoDate ms = Ascii.text stamp.text := by
    unfold isoDate Stamp.text
    rw [hcivil]
    dsimp only
    rw [Int.toNat_natCast, Int.toNat_natCast, Int.toNat_natCast, Decimal.pad_of_lt (by decide) hyear,
      Decimal.pad_of_lt (by decide) (by omega), Decimal.pad_of_lt (by decide) (by omega),
      Decimal.pad_of_lt (by decide) (by omega), Decimal.pad_of_lt (by decide) (by omega),
      Decimal.pad_of_lt (by decide) (by omega), Decimal.pad_of_lt (by decide) (by omega),
      hdate, hhour, hminute, hsecond, hpart, hiso.1.1]
    rfl
  rw [htext]
  exact Ascii.toUTF8_text (stampText_ascii stamp)

/-- `iso_date` and `date` are inverse on the instants up to the year 9999, `iso_date` writing the
one timestamp in UTC to the millisecond; whatever `date` reads is a timestamp, rounded down to the
millisecond, and it never panics. -/
theorem date_isoDate :
    (∀ ms ≤ DATE_MAX,
      (∃! stamp : Stamp, stamp.IsIso ∧ stamp.instant = ms) ∧
      (∀ stamp : Stamp, stamp.IsIso → stamp.instant = ms →
        asBytes (isoDate ms) = stamp.text) ∧
      date (isoDate ms) = .ok ms) ∧
    ∀ v : String, date v ≠ .error .panicked ∧
      ∀ ms, date v = .ok ms → ∃ stamp : Stamp, asBytes v = stamp.text ∧
        ⌊stamp.instant⌋ = ms ∧ (stamp.fraction.length ≤ 3 → stamp.instant = ms) := by
  constructor
  · intro ms hms
    obtain ⟨stamp, hiso, htext⟩ := asBytes_isoDate hms
    have hunique : ∀ other : Stamp, other.IsIso ∧ other.instant = ms → other = stamp :=
      fun other hother => Stamp.iso_unique hother.1 hiso.1 (hother.2.trans hiso.2.symm)
    have hfloor : ⌊stamp.instant⌋ = (ms : Int) := by
      rw [hiso.2]
      exact Int.floor_natCast ms
    refine ⟨⟨stamp, hiso, hunique⟩, fun other hother hinstant => ?_, ?_⟩
    · rw [hunique other ⟨hother, hinstant⟩, htext]
    · rw [date_of_text htext, hfloor, if_neg (by omega), Int.toNat_natCast]
  · intro v
    refine ⟨(date_returns v).ne_panicked, fun ms hms => ?_⟩
    obtain ⟨stamp, htext, hfloor⟩ := date_eq_ok hms
    refine ⟨stamp, htext, hfloor, fun hshort => ?_⟩
    rw [Stamp.instant_eq_floor hshort, hfloor]
    rfl

theorem date_isoDate_last :
    date (isoDate DATE_MAX) = .ok DATE_MAX ∧
      ∃ stamp : Stamp, asBytes "1970-01-01T01:00:00.5+01:00" = stamp.text ∧
        ⌊stamp.instant⌋ = (500 : Nat) := by
  have hread : date "1970-01-01T01:00:00.5+01:00" = .ok 500 := rfl
  obtain ⟨stamp, htext, hfloor, -⟩ := (date_isoDate.2 "1970-01-01T01:00:00.5+01:00").2 500 hread
  exact ⟨(date_isoDate.1 DATE_MAX (Nat.le_refl _)).2.2, stamp, htext, hfloor⟩

/-- The epoch, and nine tenths of a millisecond more. -/
def lateEpoch : Stamp where
  date := ⟨1970, 1, 1, by decide, by decide, by decide, by decide⟩
  hour := 0
  minute := 0
  second := 0
  fraction := [48, 48, 48, 57]
  zone := .utc
  year_lt := by decide
  hour_lt := by decide
  minute_lt := by decide
  second_lt := by decide
  isDigit := List.forall_mem_cons.mpr ⟨by decide, List.forall_mem_cons.mpr ⟨by decide,
    List.forall_mem_cons.mpr ⟨by decide, List.forall_mem_cons.mpr ⟨by decide,
      List.forall_mem_nil _⟩⟩⟩⟩

/-- Digits after the third are dropped. -/
theorem date_truncates :
    date "1970-01-01T00:00:00.0009Z" = .ok 0 ∧
      ¬∃ stamp : Stamp, asBytes "1970-01-01T00:00:00.0009Z" = stamp.text ∧ stamp.instant = 0 := by
  have htext : asBytes "1970-01-01T00:00:00.0009Z" = lateEpoch.text := by decide +kernel
  constructor
  · rfl
  · rintro ⟨stamp, hstamp, hzero⟩
    have hsame : stamp = lateEpoch := Stamp.text_injective (hstamp.symm.trans htext)
    have hseconds : lateEpoch.seconds = 0 := by
      have hnumber := lateEpoch.date.number_eq 1969 4 369 10 (by decide) (by decide) (by decide)
        (by decide)
      have hzero : (lateEpoch.date.number : Int) - epoch = 0 := by
        rw [hnumber, epoch_eq]
        decide
      rw [Stamp.seconds, hzero]
      decide
    have hvalue : Decimal.value lateEpoch.fraction = 9 := rfl
    rw [hsame, Stamp.instant, hseconds, hvalue] at hzero
    norm_num at hzero

end ManagedUpload

end BotaSdk
