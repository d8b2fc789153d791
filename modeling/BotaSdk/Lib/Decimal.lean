import Mathlib.Data.Nat.Basic
import Mathlib.Data.List.Induction
import Mathlib.Tactic.Ring

/-!
# Decimal digits

Numbers written with a fixed count of ASCII digits.
-/

namespace Decimal

def IsDigit (byte : UInt8) : Prop :=
  48 ≤ byte.toNat ∧ byte.toNat ≤ 57

instance : DecidablePred IsDigit := fun _ => inferInstanceAs (Decidable (_ ∧ _))

/-- The last digit of a number. -/
def digit (n : Nat) : UInt8 :=
  UInt8.ofNat (48 + n % 10)

/-- The last `width` digits of a number. -/
def fixed : Nat → Nat → List UInt8
  | 0, _ => []
  | width + 1, n => fixed width (n / 10) ++ [digit n]

/-- The number that digits spell. -/
def value (digits : List UInt8) : Nat :=
  digits.foldl (fun n byte => 10 * n + (byte.toNat - 48)) 0

/-- A number with at least `width` digits, zeros in front. -/
def pad (width n : Nat) : List UInt8 :=
  let digits := (Nat.toDigits 10 n).map fun c => UInt8.ofNat c.toNat
  List.replicate (width - digits.length) 48 ++ digits

/-- The thousandths that the digits of a fraction spell, rounded down. -/
def thousandths (digits : List UInt8) : Nat :=
  value (digits.take 3) * 10 ^ (3 - min digits.length 3)

@[simp] theorem toNat_digit (n : Nat) : (digit n).toNat = 48 + n % 10 := by
  have hlt := Nat.mod_lt n (show 10 > 0 by decide)
  exact Nat.mod_eq_of_lt (by omega)

theorem isDigit_digit (n : Nat) : IsDigit (digit n) := by
  have hlt := Nat.mod_lt n (show 10 > 0 by decide)
  rw [IsDigit, toNat_digit]
  omega

theorem digit_of_isDigit {byte : UInt8} (h : IsDigit byte) (n : Nat) :
    digit (10 * n + (byte.toNat - 48)) = byte := by
  apply UInt8.toNat_inj.mp
  rw [toNat_digit]
  have hlow := h.1
  have hhigh := h.2
  omega

theorem length_fixed (width n : Nat) : (fixed width n).length = width := by
  induction width generalizing n with
  | zero => rfl
  | succ width ih => rw [fixed, List.length_append, ih, List.length_singleton]

theorem isDigit_of_mem_fixed {width n : Nat} {byte : UInt8} (h : byte ∈ fixed width n) :
    IsDigit byte := by
  induction width generalizing n with
  | zero => exact (List.not_mem_nil h).elim
  | succ width ih =>
    rcases List.mem_append.mp h with hfront | hlast
    · exact ih hfront
    · exact List.mem_singleton.mp hlast ▸ isDigit_digit n

theorem value_append (digits : List UInt8) (byte : UInt8) :
    value (digits ++ [byte]) = 10 * value digits + (byte.toNat - 48) := by
  rw [value, List.foldl_append]
  rfl

theorem value_append_list (a b : List UInt8) :
    value (a ++ b) = value a * 10 ^ b.length + value b := by
  induction b using List.reverseRecOn with
  | nil => simp [value]
  | append_singleton b byte ih =>
    rw [← List.append_assoc, value_append, ih, value_append, List.length_append,
      List.length_singleton, Nat.pow_succ]
    ring

theorem value_fixed {width n : Nat} (h : n < 10 ^ width) : value (fixed width n) = n := by
  induction width generalizing n with
  | zero =>
    have hn : n = 0 := by simpa using h
    rw [hn]
    rfl
  | succ width ih =>
    have hdiv : n / 10 < 10 ^ width := Nat.div_lt_of_lt_mul (by rwa [← Nat.pow_succ'])
    rw [fixed, value_append, ih hdiv, toNat_digit]
    omega

theorem value_lt {digits : List UInt8} (h : ∀ byte ∈ digits, IsDigit byte) :
    value digits < 10 ^ digits.length := by
  induction digits using List.reverseRecOn with
  | nil => exact Nat.one_pos
  | append_singleton digits byte ih =>
    have hfront := ih fun b hb => h b (List.mem_append_left _ hb)
    have hbyte := (h byte (by simp)).2
    rw [value_append, List.length_append, List.length_singleton, Nat.pow_succ]
    omega

/-- Digits are told by their count and by the number they spell. -/
theorem fixed_value {digits : List UInt8} (h : ∀ byte ∈ digits, IsDigit byte) :
    fixed digits.length (value digits) = digits := by
  induction digits using List.reverseRecOn with
  | nil => rfl
  | append_singleton digits byte ih =>
    have hfront := ih fun b hb => h b (List.mem_append_left _ hb)
    have hbyte := h byte (by simp)
    have hdiv : (10 * value digits + (byte.toNat - 48)) / 10 = value digits := by
      have hhigh := hbyte.2
      omega
    rw [value_append, List.length_append, List.length_singleton, fixed, hdiv, hfront,
      digit_of_isDigit hbyte]

theorem thousandths_eq {digits : List UInt8} (h : ∀ byte ∈ digits, IsDigit byte) :
    thousandths digits = 1000 * value digits / 10 ^ digits.length := by
  unfold thousandths
  by_cases hshort : digits.length ≤ 3
  · have hpow : 1000 = 10 ^ (3 - digits.length) * 10 ^ digits.length := by
      rw [← Nat.pow_add, Nat.sub_add_cancel hshort]
    rw [List.take_of_length_le hshort, Nat.min_eq_left hshort, hpow, Nat.mul_right_comm,
      Nat.mul_div_cancel _ (Nat.pow_pos (by decide)), Nat.mul_comm]
  · have hlong : 3 ≤ digits.length := by omega
    have hrest : value (digits.drop 3) < 10 ^ (digits.length - 3) := by
      have hlt := value_lt fun byte (hbyte : byte ∈ digits.drop 3) =>
        h byte (List.mem_of_mem_drop hbyte)
      rwa [List.length_drop] at hlt
    have hsplit : value digits =
        value (digits.take 3) * 10 ^ (digits.length - 3) + value (digits.drop 3) := by
      have hall := value_append_list (digits.take 3) (digits.drop 3)
      rwa [List.take_append_drop, List.length_drop] at hall
    have hpow : 10 ^ digits.length = 1000 * 10 ^ (digits.length - 3) := by
      rw [← Nat.sub_add_cancel hlong, Nat.pow_add, Nat.mul_comm, Nat.add_sub_cancel]
    have hpos : 0 < 10 ^ (digits.length - 3) := Nat.pow_pos (by decide)
    rw [Nat.min_eq_right hlong, Nat.sub_self, Nat.pow_zero, Nat.mul_one, hpow,
      Nat.mul_div_mul_left _ _ (by decide), hsplit, Nat.add_comm, Nat.add_mul_div_right _ _ hpos,
      Nat.div_eq_of_lt hrest, Nat.zero_add]

theorem thousandths_lt {digits : List UInt8} (h : ∀ byte ∈ digits, IsDigit byte) :
    thousandths digits < 1000 := by
  rw [thousandths_eq h, Nat.div_lt_iff_lt_mul (Nat.pow_pos (by decide))]
  exact Nat.mul_lt_mul_of_pos_left (value_lt h) (by decide)

/-- Digits end where a byte that is no digit stands. -/
theorem append_inj {a b : List UInt8} {x y : UInt8} {r s : List UInt8}
    (ha : ∀ byte ∈ a, IsDigit byte) (hb : ∀ byte ∈ b, IsDigit byte) (hx : ¬IsDigit x)
    (hy : ¬IsDigit y) (h : a ++ x :: r = b ++ y :: s) : a = b ∧ x :: r = y :: s := by
  induction a generalizing b with
  | nil =>
    cases b with
    | nil => exact ⟨rfl, h⟩
    | cons d b =>
      have hhead : x = d := (List.cons.inj h).1
      exact absurd (hhead ▸ hb d List.mem_cons_self) hx
  | cons c a ih =>
    cases b with
    | nil =>
      have hhead : c = y := (List.cons.inj h).1
      exact absurd (hhead ▸ ha c List.mem_cons_self) hy
    | cons d b =>
      have hrest := ih (fun byte hm => ha byte (List.mem_cons_of_mem _ hm))
        (fun byte hm => hb byte (List.mem_cons_of_mem _ hm)) (List.cons.inj h).2
      exact ⟨by rw [(List.cons.inj h).1, hrest.1], hrest.2⟩

theorem fixed_zero (width : Nat) : fixed width 0 = List.replicate width 48 := by
  induction width with
  | zero => rfl
  | succ width ih => rw [fixed, Nat.zero_div, ih, List.replicate_succ']; rfl

/-- The character of a digit is its byte. -/
theorem ofNat_toNat_digitChar : ∀ n < 10, UInt8.ofNat (Nat.digitChar n).toNat = digit n := by
  decide

theorem pad_of_lt {width n : Nat} (hpos : 0 < width) (h : n < 10 ^ width) :
    pad width n = fixed width n := by
  induction width generalizing n with
  | zero => exact absurd hpos (Nat.lt_irrefl 0)
  | succ width ih =>
    by_cases hn : n < 10
    · rw [pad, Nat.toDigits_of_lt_base hn, fixed, Nat.div_eq_of_lt hn, fixed_zero]
      simp [ofNat_toNat_digitChar n hn]
    · have hdiv : n / 10 < 10 ^ width := Nat.div_lt_of_lt_mul (by rwa [← Nat.pow_succ'])
      have hwidth : 0 < width := by
        rcases Nat.eq_zero_or_pos width with rfl | hw
        · simp at h; omega
        · exact hw
      have hlast : UInt8.ofNat (Nat.digitChar (n % 10)).toNat = digit n := by
        rw [ofNat_toNat_digitChar _ (Nat.mod_lt n (by decide)), digit, Nat.mod_mod, ← digit]
      rw [fixed, ← ih hwidth hdiv, pad, Nat.toDigits_of_base_le (by decide) (by omega)]
      simp [pad, hlast]

end Decimal
