import BotaSdk.Lib.Ascii
import BotaSdk.Model.ManagedUpload

/-!
# Documents in base64 (`model/managed_upload.rs`)

`document` decodes exactly what `base64` writes.
-/

namespace BotaSdk

namespace ManagedUpload

open Byo

/-! ## One group -/

theorem base64Digit_symbol :
    ∀ n < 64, base64Digit (base64Symbol (UInt8.ofNat n)) = some (UInt8.ofNat n) := by
  decide +kernel

/-- A symbol is no padding, and is ASCII. -/
theorem base64Symbol_ne_padding :
    ∀ n < 64, base64Symbol (UInt8.ofNat n) ≠ 61 ∧ (base64Symbol (UInt8.ofNat n)).toNat < 128 := by
  decide +kernel

section Bits

variable {a b d x y : UInt8}

theorem digit_symbol (h : x.toNat < 64) : base64Digit (base64Symbol x) = some x := by
  have hx := base64Digit_symbol x.toNat h
  rwa [UInt8.ofNat_toNat] at hx

theorem symbol_ne (h : x.toNat < 64) : base64Symbol x ≠ 61 := by
  have hx := (base64Symbol_ne_padding x.toNat h).1
  rwa [UInt8.ofNat_toNat] at hx

theorem symbol_lt (h : x.toNat < 64) : (base64Symbol x).toNat < 128 := by
  have hx := (base64Symbol_ne_padding x.toNat h).2
  rwa [UInt8.ofNat_toNat] at hx

/-! ## The bits of a group -/

/-- Bits moved up and bits put below them do not meet. -/
theorem toNat_shiftLeft_or {s : UInt8} (hs : s.toNat < 8) (hy : y.toNat < 2 ^ s.toNat) :
    (x <<< s ||| y).toNat = x.toNat * 2 ^ s.toNat % 256 + y.toNat := by
  have hpow : 256 = 2 ^ s.toNat * 2 ^ (8 - s.toNat) := by
    rw [← Nat.pow_add, Nat.add_sub_of_le hs.le]
  have hhigh : x.toNat * 2 ^ s.toNat % 256 = 2 ^ s.toNat * (x.toNat % 2 ^ (8 - s.toNat)) := by
    rw [hpow, Nat.mul_comm, Nat.mul_mod_mul_left]
  rw [UInt8.toNat_or, UInt8.toNat_shiftLeft, Nat.mod_eq_of_lt hs, Nat.shiftLeft_eq, hhigh,
    Nat.two_pow_add_eq_or_of_lt hy]

theorem toNat_shiftRight {s : UInt8} (hs : s.toNat < 8) :
    (x >>> s).toNat = x.toNat / 2 ^ s.toNat := by
  rw [UInt8.toNat_shiftRight, Nat.mod_eq_of_lt hs, Nat.shiftRight_eq_div_pow]

theorem toNat_and_three : (x &&& 3).toNat = x.toNat % 4 := by
  rw [UInt8.toNat_and]
  exact Nat.and_two_pow_sub_one_eq_mod x.toNat 2

theorem toNat_and_fifteen : (x &&& 15).toNat = x.toNat % 16 := by
  rw [UInt8.toNat_and]
  exact Nat.and_two_pow_sub_one_eq_mod x.toNat 4

theorem toNat_and_sixtyThree : (x &&& 63).toNat = x.toNat % 64 := by
  rw [UInt8.toNat_and]
  exact Nat.and_two_pow_sub_one_eq_mod x.toNat 6

/-- The second symbol of a group. -/
theorem toNat_second : ((a &&& 3) <<< 4 ||| b >>> 4).toNat = a.toNat % 4 * 16 + b.toNat / 16 := by
  have hb := b.toNat_lt
  have hlow : (b >>> 4).toNat = b.toNat / 16 := toNat_shiftRight (by decide)
  rw [toNat_shiftLeft_or (by decide) (by rw [hlow]; show _ < 16; omega), toNat_and_three, hlow]
  show a.toNat % 4 * 16 % 256 + _ = _
  omega

/-- The third symbol of a group. -/
theorem toNat_third : ((a &&& 15) <<< 2 ||| b >>> 6).toNat = a.toNat % 16 * 4 + b.toNat / 64 := by
  have hb := b.toNat_lt
  have hlow : (b >>> 6).toNat = b.toNat / 64 := toNat_shiftRight (by decide)
  rw [toNat_shiftLeft_or (by decide) (by rw [hlow]; show _ < 4; omega), toNat_and_fifteen, hlow]
  show a.toNat % 16 * 4 % 256 + _ = _
  omega

theorem toNat_first : (a >>> 2).toNat = a.toNat / 4 :=
  toNat_shiftRight (by decide)

theorem byte_first : (a >>> 2) <<< 2 ||| ((a &&& 3) <<< 4 ||| b >>> 4) >>> 4 = a := by
  have ha := a.toNat_lt
  have hb := b.toNat_lt
  have hlow : (((a &&& 3) <<< 4 ||| b >>> 4) >>> 4).toNat = a.toNat % 4 := by
    rw [toNat_shiftRight (by decide), toNat_second]
    show (a.toNat % 4 * 16 + b.toNat / 16) / 16 = _
    omega
  apply UInt8.toNat_inj.mp
  rw [toNat_shiftLeft_or (by decide) (by rw [hlow]; show _ < 4; omega), toNat_first, hlow]
  show a.toNat / 4 * 4 % 256 + _ = _
  omega

theorem byte_second :
    ((a &&& 3) <<< 4 ||| b >>> 4) <<< 4 ||| ((b &&& 15) <<< 2 ||| d >>> 6) >>> 2 = b := by
  have hb := b.toNat_lt
  have hd := d.toNat_lt
  have hlow : (((b &&& 15) <<< 2 ||| d >>> 6) >>> 2).toNat = b.toNat % 16 := by
    rw [toNat_shiftRight (by decide), toNat_third]
    show (b.toNat % 16 * 4 + d.toNat / 64) / 4 = _
    omega
  apply UInt8.toNat_inj.mp
  rw [toNat_shiftLeft_or (by decide) (by rw [hlow]; show _ < 16; omega), toNat_second, hlow]
  show (a.toNat % 4 * 16 + b.toNat / 16) * 16 % 256 + _ = _
  omega

theorem byte_third : ((b &&& 15) <<< 2 ||| d >>> 6) <<< 6 ||| d &&& 63 = d := by
  have hd := d.toNat_lt
  apply UInt8.toNat_inj.mp
  rw [toNat_shiftLeft_or (by decide) (by rw [toNat_and_sixtyThree]; show _ < 64; omega),
    toNat_third, toNat_and_sixtyThree]
  show (b.toNat % 16 * 4 + d.toNat / 64) * 64 % 256 + _ = _
  omega

theorem first_lt : (a >>> 2).toNat < 64 := by
  have ha := a.toNat_lt
  rw [toNat_first]
  omega

theorem second_lt : ((a &&& 3) <<< 4 ||| b >>> 4).toNat < 64 := by
  have hb := b.toNat_lt
  rw [toNat_second]
  omega

theorem third_lt : ((a &&& 15) <<< 2 ||| b >>> 6).toNat < 64 := by
  have hb := b.toNat_lt
  rw [toNat_third]
  omega

theorem fourth_lt : (d &&& 63).toNat < 64 := by
  rw [toNat_and_sixtyThree]
  omega

/-- A group that ends early is the group with zeros in the place of the missing bytes. -/
theorem second_alone : (a &&& 3) <<< 4 = (a &&& 3) <<< 4 ||| (0 : UInt8) >>> 4 := by
  rw [UInt8.zero_shiftRight, UInt8.or_zero]

theorem third_alone : (b &&& 15) <<< 2 = (b &&& 15) <<< 2 ||| (0 : UInt8) >>> 6 := by
  rw [UInt8.zero_shiftRight, UInt8.or_zero]

end Bits

/-! ## Whole documents -/

section Documents

variable {bytes : List UInt8}

theorem base64Decode_base64 (bytes : List UInt8) : base64Decode (base64 bytes) = some bytes := by
  have hpad : base64Digit 61 = some 0 := by decide
  induction bytes using base64.induct with
  | case1 => rfl
  | case2 a =>
    rw [base64, second_alone, base64Decode]
    simp only [digit_symbol first_lt, digit_symbol second_lt, hpad, base64Decode, byte_first,
      Option.bind_eq_bind, Option.bind_some, ne_eq, not_true_eq_false, if_false, List.append_nil]
    rfl
  | case3 a b =>
    rw [base64, third_alone, base64Decode]
    simp only [digit_symbol first_lt, digit_symbol second_lt, digit_symbol third_lt, hpad,
      base64Decode, byte_first, byte_second, symbol_ne third_lt, Option.bind_eq_bind,
      Option.bind_some, ne_eq, not_true_eq_false, not_false_eq_true, if_false, if_true,
      List.append_nil]
    rfl
  | case4 a b d rest ih =>
    rw [base64, base64Decode]
    simp only [digit_symbol first_lt, digit_symbol second_lt, digit_symbol third_lt,
      digit_symbol fourth_lt, ih, byte_first, byte_second, byte_third, symbol_ne third_lt,
      symbol_ne fourth_lt, Option.bind_eq_bind, Option.bind_some, ne_eq, not_false_eq_true, if_true]
    rfl

theorem length_base64 (bytes : List UInt8) :
    (base64 bytes).length = (bytes.length + 2) / 3 * 4 := by
  induction bytes using base64.induct with
  | case1 => rfl
  | case2 a => simp [base64]
  | case3 a b => simp [base64]
  | case4 a b d rest ih =>
    simp only [base64, List.length_cons, ih]
    omega

theorem base64_ascii (bytes : List UInt8) : ∀ c ∈ base64 bytes, c.toNat < 128 := by
  have hpad : (61 : UInt8).toNat < 128 := by decide
  induction bytes using base64.induct with
  | case1 => nofun
  | case2 a =>
    rw [base64, second_alone]
    simp only [List.forall_mem_cons]
    exact ⟨symbol_lt first_lt, symbol_lt second_lt, hpad, hpad, nofun⟩
  | case3 a b =>
    rw [base64, third_alone]
    simp only [List.forall_mem_cons]
    exact ⟨symbol_lt first_lt, symbol_lt second_lt, symbol_lt third_lt, hpad, nofun⟩
  | case4 a b d rest ih =>
    simp only [base64, List.forall_mem_cons]
    exact ⟨symbol_lt first_lt, symbol_lt second_lt, symbol_lt third_lt, symbol_lt fourth_lt, ih⟩

theorem asBytes_base64 (bytes : List UInt8) : asBytes (Ascii.text (base64 bytes)) = base64 bytes :=
  Ascii.toUTF8_text (base64_ascii bytes)

/-- `document` accepts the encoding of every byte string under its length, and nothing else. -/
theorem document_base64 (digests : Digests) :
    (∀ bytes, document digests (Ascii.text (base64 bytes)) bytes.length none = .ok bytes) ∧
    ∀ v n bytes, document digests v n none = .ok bytes →
      Ascii.text (base64 bytes) = v ∧ bytes.length = n := by
  constructor
  · intro bytes
    rw [document, asBytes_base64, if_neg (not_not.mpr (length_base64 bytes)), base64Decode_base64]
    simp
  · intro v n bytes h
    unfold document at h
    split_ifs at h with hlength
    split at h
    · cases h
    · next out hdecode =>
      split_ifs at h with hrest
      cases h
      simp only [not_or, not_not] at hrest
      exact ⟨Ascii.eq_of_toUTF8 ((asBytes_base64 bytes).trans hrest.2.1), hrest.1⟩

end Documents

end ManagedUpload

end BotaSdk
