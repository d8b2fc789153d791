import Mathlib.Data.List.Basic

/-!
# ASCII texts

A text of ASCII characters and its bytes.
-/

namespace Ascii

/-- The text that a list of bytes spells, each byte one character. -/
def text (bytes : List UInt8) : String :=
  String.ofList (bytes.map fun byte => Char.ofNat byte.toNat)

/-- An ASCII character is one byte. -/
theorem utf8EncodeChar_ofNat :
    ∀ n < 128, String.utf8EncodeChar (Char.ofNat n) = [UInt8.ofNat n] := by
  decide

theorem toUTF8_text {bytes : List UInt8} (h : ∀ byte ∈ bytes, byte.toNat < 128) :
    (text bytes).toUTF8.data.toList = bytes := by
  rw [text, String.toUTF8_eq_toByteArray, String.toByteArray_ofList, List.utf8Encode,
    List.data_toByteArray, List.flatMap_map]
  induction bytes with
  | nil => rfl
  | cons byte bytes ih =>
    have hbyte := utf8EncodeChar_ofNat byte.toNat (h byte List.mem_cons_self)
    rw [List.flatMap_cons, hbyte, UInt8.ofNat_toNat]
    exact congrArg (byte :: ·) (ih fun b hb => h b (List.mem_cons_of_mem _ hb))

/-- A text is told by its bytes. -/
theorem eq_of_toUTF8 {a b : String} (h : a.toUTF8.data.toList = b.toUTF8.data.toList) : a = b :=
  String.toByteArray_inj.mp (ByteArray.ext (Array.toList_inj.mp h))

end Ascii
