import BotaSdk.Model.ManagedUploadDates

/-!
# The texts that `date` reads (`model/managed_upload.rs`)

What each part of a text spells when `date` gets past it, and that no part panics.
-/

namespace BotaSdk

namespace ManagedUpload

open Byo Timestamp

variable {α β : Type}

/-- A call returns a value with a property, or says that the text is invalid. -/
def Returns (x : Dated α) (P : α → Prop) : Prop :=
  match x with
  | .ok a => P a
  | .error fault => fault = invalid

namespace Returns

variable {P Q : α → Prop}

theorem throw : Returns (MonadExcept.throw invalid : Dated α) P := rfl

theorem bind {R : β → Prop} {x : Dated α} {f : α → Dated β} (hx : Returns x P)
    (hf : ∀ a, P a → Returns (f a) R) : Returns (x >>= f) R := by
  cases x with
  | ok a => exact hf a hx
  | error fault => exact hx

/-- A check: past it, its condition fails. -/
theorem check {R : β → Prop} {c : Prop} [Decidable c] {x : Dated β}
    (h : ¬c → Returns x R) : Returns (if c then MonadExcept.throw invalid else x) R := by
  by_cases hc : c
  · rw [if_pos hc]
    exact throw
  · rw [if_neg hc]
    exact h hc

/-- A property of the value that is known from another place. -/
theorem of_ok_imp {R : α → Prop} {x : Dated α} (h : Returns x P)
    (himp : ∀ a, x = .ok a → P a → R a) : Returns x R := by
  cases x with
  | ok a => exact himp a rfl h
  | error fault => exact h

theorem ne_panicked {x : Dated α} (h : Returns x P) : x ≠ .error .panicked := by
  intro hx
  rw [hx] at h
  have hfault : DateFault.panicked = invalid := h
  exact DateFault.noConfusion hfault

theorem of_ok {x : Dated α} {a : α} (h : Returns x P) (hx : x = .ok a) : P a := by
  rw [hx] at h
  exact h

end Returns

/-- The step after one that returned. -/
theorem ok_bind (a : α) (f : α → Dated β) : (Except.ok a >>= f) = f a := rfl

/-! ## Slices and numbers -/

theorem isAsciiDigit_iff {c : UInt8} : isAsciiDigit c = true ↔ Decimal.IsDigit c := by
  unfold isAsciiDigit Decimal.IsDigit
  rw [Bool.and_eq_true, decide_eq_true_iff, decide_eq_true_iff]
  exact Iff.rfl

theorem slice_of_ascii {v : List UInt8} {a b : Nat} (hv : ∀ c ∈ v, c.toNat < 128) (hab : a ≤ b)
    (hb : b ≤ v.length) : slice v a b = .ok ((v.drop a).take (b - a)) := by
  have hboundary : ∀ i ≤ v.length, isCharBoundary v i = true := by
    intro i hi
    unfold isCharBoundary
    cases hc : v[i]? with
    | none =>
      have hlast := List.getElem?_eq_none_iff.mp hc
      exact decide_eq_true (by omega)
    | some c =>
      have hascii : c < 128 := hv c (List.mem_of_getElem? hc)
      show (decide (c < 128) || decide (192 ≤ c)) = true
      rw [decide_eq_true hascii, Bool.true_or]
  exact if_pos ⟨hab, hboundary a (hab.trans hb), hboundary b hb⟩

theorem number_of_digits {s : List UInt8} (hshort : s.length ≤ 18) (hpos : s ≠ [])
    (hdigits : ∀ c ∈ s, Decimal.IsDigit c) : number s = .ok (Decimal.value s : Int) := by
  cases s with
  | nil => exact absurd rfl hpos
  | cons c s =>
    have hall : (c :: s).all isAsciiDigit = true :=
      List.all_eq_true.mpr fun d hd => isAsciiDigit_iff.mpr (hdigits d hd)
    have hlt := (Decimal.value_lt hdigits).trans_le (Nat.pow_le_pow_right (by decide) hshort)
    have hmax : Decimal.value (c :: s) ≤ 9223372036854775807 := hlt.le.trans (by decide)
    have hdecimal : Byo.decimal (c :: s) = some (Decimal.value (c :: s)) := if_pos hall
    unfold number
    rw [hdecimal]
    exact if_pos hmax

theorem number_returns {s : List UInt8} (hshort : s.length ≤ 18) :
    Returns (number s) fun n =>
      (s ≠ [] ∧ ∀ c ∈ s, Decimal.IsDigit c) ∧ n = (Decimal.value s : Int) := by
  cases s with
  | nil => exact Returns.throw
  | cons c s =>
    by_cases hdigits : (c :: s).all isAsciiDigit = true
    · have hall : ∀ d ∈ c :: s, Decimal.IsDigit d := fun d hd =>
        isAsciiDigit_iff.mp (List.all_eq_true.mp hdigits d hd)
      rw [number_of_digits hshort (List.cons_ne_nil c s) hall]
      exact ⟨⟨List.cons_ne_nil c s, hall⟩, rfl⟩
    · have hdecimal : Byo.decimal (c :: s) = none := if_neg hdigits
      unfold number
      rw [hdecimal]
      exact Returns.throw

/-! ## The header: a date and a time of day -/

section Header

variable {v : List UInt8} {a width n i : Nat} {c : UInt8}

/-- A number of fixed width stands at a place of a text. -/
def Field (v : List UInt8) (a width n : Nat) : Prop :=
  (v.drop a).take width = Decimal.fixed width n ∧ n < 10 ^ width

theorem Field.split (h : Field v a width n) :
    v.drop a = Decimal.fixed width n ++ v.drop (a + width) := by
  rw [← h.1, ← List.drop_drop, List.take_append_drop]

theorem field_of_split {rest : List UInt8} (hn : n < 10 ^ width)
    (h : v.drop a = Decimal.fixed width n ++ rest) :
    Field v a width n ∧ v.drop (a + width) = rest := by
  have hlength := Decimal.length_fixed width n
  constructor
  · exact ⟨by rw [h, List.take_left' hlength], hn⟩
  · rw [← List.drop_drop, h, List.drop_left' hlength]

theorem drop_of_getElem? (h : v[i]? = some c) : v.drop i = c :: v.drop (i + 1) := by
  obtain ⟨hi, hc⟩ := List.getElem?_eq_some_iff.mp h
  rw [List.drop_eq_getElem_cons hi, hc]

theorem getElem?_of_drop {rest : List UInt8} (h : v.drop i = c :: rest) :
    v[i]? = some c ∧ v.drop (i + 1) = rest := by
  constructor
  · have hhead := congrArg List.head? h
    rwa [List.head?_drop] at hhead
  · rw [← List.drop_drop, h]
    rfl

theorem separator_returns (hv : ∀ c ∈ v, c.toNat < 128) (hi : i < v.length) :
    Returns (separator v i c) fun _ => v[i]? = some c := by
  unfold separator
  rw [slice_of_ascii hv (Nat.le_succ i) hi]
  have hone : (v.drop i).take (i + 1 - i) = [v[i]] := by
    rw [Nat.add_sub_cancel_left, List.drop_eq_getElem_cons hi]
    rfl
  rw [hone]
  refine Returns.check fun hc => ?_
  have hsame : v[i] = c := (List.cons.inj (not_not.mp hc)).1
  show v[i]? = some c
  rw [List.getElem?_eq_getElem hi, hsame]

theorem separator_eq (hv : ∀ c ∈ v, c.toNat < 128) (h : v[i]? = some c) :
    separator v i c = .ok () := by
  obtain ⟨hi, hc⟩ := List.getElem?_eq_some_iff.mp h
  have hone : (v.drop i).take (i + 1 - i) = [c] := by
    rw [Nat.add_sub_cancel_left, List.drop_eq_getElem_cons hi, hc]
    rfl
  unfold separator
  rw [slice_of_ascii hv (Nat.le_succ i) hi, hone]
  exact if_neg (not_not.mpr rfl)

/-- The number in a slice. -/
theorem field_returns {b : Nat} (hv : ∀ c ∈ v, c.toNat < 128) (hb : b ≤ v.length)
    (hwidth : a + width = b) (hshort : width ≤ 18) :
    Returns (slice v a b >>= number) fun n => ∃ k : Nat, n = (k : Int) ∧ Field v a width k := by
  have hlength : ((v.drop a).take width).length = width := by
    rw [List.length_take, List.length_drop]
    omega
  rw [slice_of_ascii hv (by omega) hb, show b - a = width by omega]
  show Returns (number _) _
  have hreturns := number_returns (s := (v.drop a).take width) (by omega)
  cases hn : number ((v.drop a).take width) with
  | error fault =>
    rw [hn] at hreturns
    exact hreturns
  | ok n =>
    obtain ⟨⟨-, hdigits⟩, hvalue⟩ := hreturns.of_ok hn
    have hfixed := Decimal.fixed_value hdigits
    have hlt := Decimal.value_lt hdigits
    rw [hlength] at hfixed hlt
    exact ⟨_, hvalue, hfixed.symm, hlt⟩

theorem field_bind (w : Nat) {b : Nat} {R : β → Prop} {f : Int → Dated β} (hv : ∀ c ∈ v, c.toNat < 128)
    (hb : b ≤ v.length) (hwidth : a + w = b) (hshort : w ≤ 18)
    (h : ∀ k : Nat, Field v a w k → Returns (f k) R) :
    Returns (slice v a b >>= fun s => number s >>= f) R := by
  rw [← bind_assoc]
  refine (field_returns hv hb hwidth hshort).bind fun n hn => ?_
  obtain ⟨k, rfl, hfield⟩ := hn
  exact h k hfield

theorem field_eq {b : Nat} {f : Int → Dated β} (hv : ∀ c ∈ v, c.toNat < 128) (hb : b ≤ v.length)
    (hwidth : a + width = b) (hpos : 0 < width) (hshort : width ≤ 18) (h : Field v a width n) :
    (slice v a b >>= fun s => number s >>= f) = f n := by
  have hlength := Decimal.length_fixed width n
  rw [slice_of_ascii hv (by omega) hb, show b - a = width by omega, h.1]
  show (number _ >>= f) = _
  rw [number_of_digits (by omega) (List.ne_nil_of_length_pos (by omega)) fun _ =>
    Decimal.isDigit_of_mem_fixed, Decimal.value_fixed h.2]
  rfl

/-- What `date` reads before a fraction or a zone. -/
structure Header (v : List UInt8) (y m d hour minute second : Nat) : Prop where
  y : Field v 0 4 y
  dash : v[4]? = some 45
  m : Field v 5 2 m
  dash' : v[7]? = some 45
  d : Field v 8 2 d
  time : v[10]? = some 84
  hour : Field v 11 2 hour
  colon : v[13]? = some 58
  minute : Field v 14 2 minute
  colon' : v[16]? = some 58
  second : Field v 17 2 second

variable {y m d hour minute second : Nat}

theorem Header.text (h : Header v y m d hour minute second) :
    v = Decimal.fixed 4 y ++ 45 :: (Decimal.fixed 2 m ++ 45 :: (Decimal.fixed 2 d ++ 84 ::
      (Decimal.fixed 2 hour ++ 58 :: (Decimal.fixed 2 minute ++ 58 ::
        (Decimal.fixed 2 second ++ v.drop 19))))) := by
  have hy : v = _ := h.y.split
  have hm := h.m.split
  have hd := h.d.split
  have hhour := h.hour.split
  have hminute := h.minute.split
  have hsecond := h.second.split
  have hdash := drop_of_getElem? h.dash
  have hdash' := drop_of_getElem? h.dash'
  have htime := drop_of_getElem? h.time
  have hcolon := drop_of_getElem? h.colon
  have hcolon' := drop_of_getElem? h.colon'
  rw [hdash, hm, hdash', hd, htime, hhour, hcolon, hminute, hcolon', hsecond] at hy
  exact hy

theorem header_of_text {rest : List UInt8} (hy : y < 10 ^ 4) (hm : m < 10 ^ 2) (hd : d < 10 ^ 2)
    (hhour : hour < 10 ^ 2) (hminute : minute < 10 ^ 2) (hsecond : second < 10 ^ 2)
    (h : v = Decimal.fixed 4 y ++ 45 :: (Decimal.fixed 2 m ++ 45 :: (Decimal.fixed 2 d ++ 84 ::
      (Decimal.fixed 2 hour ++ 58 :: (Decimal.fixed 2 minute ++ 58 ::
        (Decimal.fixed 2 second ++ rest)))))) :
    Header v y m d hour minute second ∧ v.drop 19 = rest := by
  obtain ⟨fy, h⟩ := field_of_split hy (show v.drop 0 = _ from h)
  obtain ⟨dash, h⟩ := getElem?_of_drop h
  obtain ⟨fm, h⟩ := field_of_split hm h
  obtain ⟨dash', h⟩ := getElem?_of_drop h
  obtain ⟨fd, h⟩ := field_of_split hd h
  obtain ⟨time, h⟩ := getElem?_of_drop h
  obtain ⟨fh, h⟩ := field_of_split hhour h
  obtain ⟨colon, h⟩ := getElem?_of_drop h
  obtain ⟨fn, h⟩ := field_of_split hminute h
  obtain ⟨colon', h⟩ := getElem?_of_drop h
  obtain ⟨fs, h⟩ := field_of_split hsecond h
  exact ⟨⟨fy, dash, fm, dash', fd, time, fh, colon, fn, colon', fs⟩, h⟩

theorem civilFields_returns (hv : ∀ c ∈ v, c.toNat < 128) (hlength : 19 ≤ v.length) :
    Returns (civilFields v) fun fields => ∃ y m d hour minute second : Nat,
      fields = ⟨y, m, d, hour, minute, second⟩ ∧ Header v y m d hour minute second := by
  unfold civilFields
  refine (separator_returns hv (by omega)).bind fun _ dash => ?_
  refine (separator_returns hv (by omega)).bind fun _ dash' => ?_
  refine (separator_returns hv (by omega)).bind fun _ time => ?_
  refine (separator_returns hv (by omega)).bind fun _ colon => ?_
  refine (separator_returns hv (by omega)).bind fun _ colon' => ?_
  refine field_bind 4 hv (by omega) rfl (by decide) fun y hy => ?_
  refine field_bind 2 hv (by omega) rfl (by decide) fun m hm => ?_
  refine field_bind 2 hv (by omega) rfl (by decide) fun d hd => ?_
  refine field_bind 2 hv (by omega) rfl (by decide) fun hour hhour => ?_
  refine field_bind 2 hv (by omega) rfl (by decide) fun minute hminute => ?_
  refine field_bind 2 hv (by omega) rfl (by decide) fun second hsecond => ?_
  exact ⟨y, m, d, hour, minute, second, rfl,
    hy, dash, hm, dash', hd, time, hhour, colon, hminute, colon', hsecond⟩

theorem civilFields_eq (hv : ∀ c ∈ v, c.toNat < 128) (hlength : 19 ≤ v.length)
    (h : Header v y m d hour minute second) :
    civilFields v = .ok ⟨y, m, d, hour, minute, second⟩ := by
  unfold civilFields
  rw [separator_eq hv h.dash, separator_eq hv h.dash', separator_eq hv h.time,
    separator_eq hv h.colon, separator_eq hv h.colon']
  show (slice v 0 4 >>= fun s => number s >>= _) = _
  rw [field_eq hv (by omega) rfl (by decide) (by decide) h.y,
    field_eq hv (by omega) rfl (by decide) (by decide) h.m,
    field_eq hv (by omega) rfl (by decide) (by decide) h.d,
    field_eq hv (by omega) rfl (by decide) (by decide) h.hour,
    field_eq hv (by omega) rfl (by decide) (by decide) h.minute,
    field_eq hv (by omega) rfl (by decide) (by decide) h.second]
  rfl

/-! ## The checks of the fields -/

theorem monthDays_eq {y m : Nat} (hlow : 1 ≤ m) (hhigh : m ≤ 12) :
    monthDays y m = .ok (Calendar.monthLength y m : Int) := by
  have hfebruary : (if (y : Int) % 4 = 0 ∧ ((y : Int) % 100 ≠ 0 ∨ (y : Int) % 400 = 0) then 29
      else 28 : Int) = (28 + Calendar.leapDay y : Nat) := by
    by_cases hleap : Calendar.IsLeap y
    · rw [Calendar.leapDay, if_pos hleap]
      unfold Calendar.IsLeap at hleap
      exact if_pos (by omega)
    · rw [Calendar.leapDay, if_neg hleap]
      unfold Calendar.IsLeap at hleap
      exact if_neg (by omega)
  unfold monthDays
  dsimp only
  rw [hfebruary]
  interval_cases m <;> rfl

/-- The fields are those of a date and of a time of day. -/
structure Civil (y m d hour minute second : Nat) : Prop where
  month_pos : 1 ≤ m
  month_le : m ≤ 12
  day_pos : 1 ≤ d
  day_le : d ≤ Calendar.monthLength y m
  hour_lt : hour < 24
  minute_lt : minute < 60
  second_lt : second < 60

theorem checkFields_returns :
    Returns (checkFields ⟨y, m, d, hour, minute, second⟩) fun _ =>
      Civil y m d hour minute second := by
  unfold checkFields
  dsimp only
  refine Returns.check fun hmonth => ?_
  refine Returns.check fun hday => ?_
  rw [monthDays_eq (by omega) (by omega)]
  refine Returns.check fun hlast => ?_
  refine Returns.check fun hclock => ?_
  exact ⟨by omega, by omega, by omega, by omega, by omega, by omega, by omega⟩

theorem checkFields_eq (h : Civil y m d hour minute second) :
    checkFields ⟨y, m, d, hour, minute, second⟩ = .ok () := by
  have hmonth := h.month_pos
  have hmonths := h.month_le
  have hday := h.day_pos
  have hdays := h.day_le
  have hhour := h.hour_lt
  have hminute := h.minute_lt
  have hsecond := h.second_lt
  unfold checkFields
  dsimp only
  rw [if_neg (by omega), if_neg (by omega), monthDays_eq hmonth hmonths]
  show (if (d : Int) > (Calendar.monthLength y m : Int) then _ else _) = _
  rw [if_neg (by omega), if_neg (by omega)]
  rfl

/-! ## The fraction and the zone -/

/-- Some digits, and what is left. -/
theorem fractionPart_eq {digits : List UInt8} (rest : List UInt8) (hv : ∀ c ∈ digits ++ rest, c.toNat < 128)
    (hpos : digits ≠ []) (hdigits : ∀ c ∈ digits, Decimal.IsDigit c)
    (hend : rest.takeWhile isAsciiDigit = []) :
    fractionPart (digits ++ rest) = .ok ((Decimal.thousandths digits : Nat), rest) := by
  have hwhile : (digits ++ rest).takeWhile isAsciiDigit = digits := by
    rw [List.takeWhile_append_of_pos fun c hc => isAsciiDigit_iff.mpr (hdigits c hc), hend,
      List.append_nil]
  have hlength : 0 < digits.length := List.length_pos_iff.mpr hpos
  have hfirst : (digits.take 3).length = min digits.length 3 := by
    rw [List.length_take, Nat.min_comm]
  have hnumber : number (digits.take 3) = .ok (Decimal.value (digits.take 3) : Int) :=
    number_of_digits (by omega) (List.ne_nil_of_length_pos (by omega)) fun c hc =>
      hdigits c (List.mem_of_mem_take hc)
  have htake : digits.take (min digits.length 3) = digits.take 3 := by
    rw [Nat.min_comm, ← List.take_take, List.take_length]
  have hfrac : slice (digits ++ rest) 0 digits.length = .ok digits := by
    rw [slice_of_ascii hv (Nat.zero_le _) (by simp), Nat.sub_zero, List.drop_zero,
      List.take_left' rfl]
  have hhead : slice digits 0 (min digits.length 3) = .ok (digits.take 3) := by
    rw [slice_of_ascii (fun c hc => hv c (List.mem_append_left _ hc)) (Nat.zero_le _)
      (Nat.min_le_left _ _), Nat.sub_zero, List.drop_zero, htake]
  have htail : slice (digits ++ rest) digits.length (digits ++ rest).length = .ok rest := by
    rw [slice_of_ascii hv (by simp) (Nat.le_refl _), List.drop_left' rfl,
      List.take_of_length_le (by simp)]
  unfold fractionPart
  dsimp only
  rw [hwhile, if_neg (by omega), hfrac]
  show (slice digits 0 (min digits.length 3) >>= _) = _
  rw [hhead]
  show (number (digits.take 3) >>= _) = _
  rw [hnumber, htail, Decimal.thousandths, ← hfirst]
  show Except.ok _ = _
  push_cast
  rfl

theorem takeWhile_dropWhile (v : List UInt8) :
    (v.dropWhile isAsciiDigit).takeWhile isAsciiDigit = [] := by
  induction v with
  | nil => rfl
  | cons c v ih =>
    by_cases hc : isAsciiDigit c = true
    · rw [List.dropWhile_cons_of_pos hc, ih]
    · rw [List.dropWhile_cons_of_neg hc, List.takeWhile_cons_of_neg hc]

/-- A fraction is a point and digits, or nothing. -/
theorem fraction_returns (hv : ∀ c ∈ v, c.toNat < 128) :
    Returns (fraction v) fun result => ∃ digits,
      (∀ c ∈ digits, Decimal.IsDigit c) ∧
      v = (if digits = [] then [] else 46 :: digits) ++ result.2 ∧
      result.1 = (Decimal.thousandths digits : Nat) := by
  unfold fraction
  split
  case h_1 part =>
    have hsplit := List.takeWhile_append_dropWhile (p := isAsciiDigit) (l := part)
    have hdigits : ∀ c ∈ part.takeWhile isAsciiDigit, Decimal.IsDigit c := fun c hc =>
      isAsciiDigit_iff.mp (List.mem_takeWhile_imp hc)
    by_cases hnone : part.takeWhile isAsciiDigit = []
    · unfold fractionPart
      dsimp only
      rw [hnone]
      exact Returns.throw
    · have heq := fractionPart_eq (part.dropWhile isAsciiDigit)
        (by rw [hsplit]; exact fun c hc => hv c (List.mem_cons_of_mem _ hc)) hnone hdigits
        (takeWhile_dropWhile part)
      rw [hsplit] at heq
      rw [heq]
      exact ⟨_, hdigits, by rw [if_neg hnone, List.cons_append, hsplit], rfl⟩
  case h_2 => exact ⟨[], fun _ hc => absurd hc List.not_mem_nil, rfl, rfl⟩

/-! ## The zone -/

theorem toNat_lt_of_isDigit (h : Decimal.IsDigit c) : c.toNat < 128 :=
  h.2.trans_lt (by decide)

theorem zoneText_ascii {zone : Zone} (h : c ∈ zone.text) : c.toNat < 128 := by
  cases zone with
  | utc =>
    rw [List.mem_singleton.mp h]
    decide
  | offset west hours minutes =>
    rcases List.mem_cons.mp h with rfl | h
    · cases west <;> decide
    · rcases List.mem_append.mp h with h | h
      · exact toNat_lt_of_isDigit (Decimal.isDigit_of_mem_fixed h)
      · rcases List.mem_cons.mp h with rfl | h
        · decide
        · exact toNat_lt_of_isDigit (Decimal.isDigit_of_mem_fixed h)

theorem slice_sign (hv : ∀ c ∈ v, c.toNat < 128) (h : v[0]? = some c) :
    slice v 0 1 = .ok [c] := by
  obtain ⟨hi, hc⟩ := List.getElem?_eq_some_iff.mp h
  rw [slice_of_ascii hv (Nat.zero_le 1) hi, List.drop_eq_getElem_cons hi, hc]
  rfl

/-- The sign of an offset. -/
def sign (west : Bool) : UInt8 :=
  if west then 45 else 43

theorem signedOffset_eq {west : Bool} {h m : Nat} (hv : ∀ c ∈ v, c.toNat < 128)
    (hlength : v.length = 6) (hsign : v[0]? = some (sign west)) (hcolon : v[3]? = some 58)
    (hh : Field v 1 2 h) (hm : Field v 4 2 m) (hhour : h < 24) (hminute : m < 60) :
    signedOffset v = .ok (((h : Int) * 60 + m) * if west then -1 else 1) := by
  have hsigns : ¬([sign west] ≠ [43] ∧ [sign west] ≠ [45]) := by
    cases west <;> decide
  have hhead : (v.head? = some 45) = (west = true) := by
    rw [List.head?_eq_getElem?, hsign]
    cases west <;> decide
  unfold signedOffset
  rw [if_neg (not_not.mpr hlength), slice_sign hv hsign]
  show (if [sign west] ≠ [43] ∧ [sign west] ≠ [45] then _ else _) = _
  rw [if_neg hsigns, separator_eq hv hcolon]
  show (slice v 1 3 >>= fun s => number s >>= _) = _
  rw [field_eq hv (by omega) rfl (by decide) (by decide) hh,
    field_eq hv (by omega) rfl (by decide) (by decide) hm, if_neg (by omega)]
  simp only [hhead]
  rfl

theorem offset_eq (zone : Zone) : offset zone.text = .ok zone.ahead := by
  cases zone with
  | utc => rfl
  | offset west hours minutes =>
    have hlength : (Zone.offset west hours minutes).text.length = 6 := rfl
    have hne : (Zone.offset west hours minutes).text ≠ [90] := fun h => by
      rw [h] at hlength
      exact absurd hlength (by decide)
    have hrest : (Zone.offset west hours minutes).text.drop 1 =
      Decimal.fixed 2 hours.val ++ 58 :: Decimal.fixed 2 minutes.val := rfl
    obtain ⟨hh, hrest⟩ := field_of_split (by omega) hrest
    obtain ⟨hcolon, hrest⟩ := getElem?_of_drop hrest
    have hm := (field_of_split (by omega) (hrest.trans (List.append_nil _).symm)).1
    rw [offset, if_neg hne, signedOffset_eq (fun _ => zoneText_ascii) hlength rfl hcolon hh hm
      hours.isLt minutes.isLt]
    cases west with
    | true =>
      show Except.ok _ = Except.ok (-_)
      push_cast
      rw [if_pos rfl, Int.mul_neg_one]
    | false =>
      show Except.ok _ = Except.ok ((_ : Nat) : Int)
      push_cast
      rw [Int.mul_one]

/-- An offset past its checks is a zone's text. -/
theorem signedOffset_returns (hv : ∀ c ∈ v, c.toNat < 128) :
    Returns (signedOffset v) fun _ => ∃ zone : Zone, v = zone.text := by
  unfold signedOffset
  refine Returns.check fun hsix => ?_
  have hlength : v.length = 6 := not_not.mp hsix
  obtain ⟨c, hc⟩ : ∃ c, v[0]? = some c := ⟨_, List.getElem?_eq_getElem (by omega)⟩
  rw [slice_sign hv hc]
  refine Returns.check fun hsign => ?_
  refine (separator_returns hv (by omega)).bind fun _ hcolon => ?_
  refine field_bind 2 hv (by omega) rfl (by decide) fun h hh => ?_
  refine field_bind 2 hv (by omega) rfl (by decide) fun m hm => ?_
  refine Returns.check fun hclock => ?_
  obtain ⟨west, hwest⟩ : ∃ west, c = sign west := by
    by_cases hplus : c = 43
    · exact ⟨false, hplus⟩
    · have hminus : [c] = [45] := by
        by_contra hne
        exact hsign ⟨fun heq => hplus (List.cons.inj heq).1, hne⟩
      exact ⟨true, (List.cons.inj hminus).1⟩
  refine ⟨.offset west ⟨h, by omega⟩ ⟨m, by omega⟩, ?_⟩
  have hfirst : v = c :: v.drop 1 := drop_of_getElem? hc
  rw [hfirst, hh.split, drop_of_getElem? hcolon, hm.split, List.drop_of_length_le hlength.le,
    List.append_nil, hwest]
  rfl

theorem offset_returns (hv : ∀ c ∈ v, c.toNat < 128) :
    Returns (offset v) fun minutes => ∃ zone : Zone, v = zone.text ∧ minutes = zone.ahead := by
  have hzone : Returns (offset v) fun _ => ∃ zone : Zone, v = zone.text := by
    unfold offset
    by_cases hutc : v = [90]
    · rw [if_pos hutc]
      exact ⟨.utc, hutc⟩
    · rw [if_neg hutc]
      exact signedOffset_returns hv
  refine hzone.of_ok_imp fun minutes hok htext => ?_
  obtain ⟨zone, rfl⟩ := htext
  rw [offset_eq] at hok
  exact ⟨zone, rfl, (Except.ok.inj hok).symm⟩

end Header

end ManagedUpload

end BotaSdk
