import Mathlib.Data.List.Basic

/-!
# Fixed layouts

Fields written one after another into a blank buffer, and fields read back at their offsets.
-/

namespace Layout

variable {α : Type}

/-- `buffer[offset..offset + value.len()].copy_from_slice(value)`. -/
def put (buffer : List α) (offset : Nat) (value : List α) : List α :=
  buffer.take offset ++ value ++ buffer.drop (offset + value.length)

/-- The `length` cells from `offset` on. -/
def field (buffer : List α) (offset length : Nat) : List α :=
  (buffer.drop offset).take length

section Put

variable {front value : List α} {offset n m : Nat} {blank : α}

/-- A field written right behind the fields before it. -/
theorem put_next (hoffset : front.length = offset) (hroom : value.length + m = n) :
    put (front ++ List.replicate n blank) offset value =
      (front ++ value) ++ List.replicate m blank := by
  have hdrop : (front ++ List.replicate n blank).drop (offset + value.length) =
      List.replicate m blank := by
    rw [List.drop_append, ← hoffset, List.drop_of_length_le (by omega), List.nil_append,
      List.drop_replicate]
    congr 1
    omega
  rw [put, hdrop, ← hoffset, List.take_left]

/-- A field that leaves `gap` cells blank before it. -/
theorem put_skip (gap : Nat) (hoffset : front.length + gap = offset)
    (hroom : gap + (value.length + m) = n) :
    put (front ++ List.replicate n blank) offset value =
      ((front ++ List.replicate gap blank) ++ value) ++ List.replicate m blank := by
  have hsplit : front ++ List.replicate n blank =
      (front ++ List.replicate gap blank) ++ List.replicate (value.length + m) blank := by
    rw [← hroom, List.replicate_add, List.append_assoc]
  rw [hsplit, put_next (by rw [List.length_append, List.length_replicate, hoffset]) rfl]

/-- The cells that a run of fields takes. -/
def width (fields : List (List α)) : Nat :=
  fields.flatten.length

@[simp] theorem width_nil : width ([] : List (List α)) = 0 := rfl

@[simp] theorem width_cons (fields : List (List α)) :
    width (value :: fields) = value.length + width fields := by
  rw [width, List.flatten_cons, List.length_append, width]

@[simp] theorem width_append (fields fields' : List (List α)) :
    width (fields ++ fields') = width fields + width fields' := by
  rw [width, List.flatten_append, List.length_append, width, width]

/-- A buffer with its first fields written and `n` cells blank behind them. -/
def written (blank : α) (fields : List (List α)) (n : Nat) : List α :=
  fields.flatten ++ List.replicate n blank

theorem written_zero (fields : List (List α)) : written blank fields 0 = fields.flatten := by
  rw [written, List.replicate_zero, List.append_nil]

@[simp] theorem put_written {fields : List (List α)} (hoffset : width fields = offset)
    (hroom : value.length ≤ n) :
    put (written blank fields n) offset value =
      written blank (fields ++ [value]) (n - value.length) := by
  rw [written, put_next hoffset (Nat.add_sub_of_le hroom), written, List.flatten_append,
    List.flatten_singleton]

@[simp] theorem put_written_skip {fields : List (List α)} (hgap : width fields < offset)
    (hroom : offset + value.length ≤ width fields + n) :
    put (written blank fields n) offset value =
      written blank (fields ++ [List.replicate (offset - width fields) blank, value])
        (width fields + n - (offset + value.length)) := by
  have hput := @put_skip _ fields.flatten value offset n
    (width fields + n - (offset + value.length)) blank (offset - width fields)
    (by rw [width] at *; omega) (by omega)
  rw [written, hput, written, List.flatten_append, List.flatten_cons, List.flatten_singleton]
  simp only [List.append_assoc]

/-- Blank cells that no field is written to are a field themselves. -/
theorem written_reserve (gap : Nat) (fields : List (List α)) :
    written blank fields (gap + n) = written blank (fields ++ [List.replicate gap blank]) n := by
  rw [written, List.replicate_add, written, List.flatten_append, List.flatten_singleton,
    List.append_assoc]

end Put

section Field

variable {seg rest buffer : List α} {offset length n : Nat}

theorem field_eq_flatten_cons {fields : List (List α)} :
    field buffer offset (width (seg :: fields)) = (seg :: fields).flatten ↔
      field buffer offset seg.length = seg ∧
        field buffer (offset + seg.length) (width fields) = fields.flatten := by
  have hsplit : field buffer offset (width (seg :: fields)) =
      field buffer offset seg.length ++ field buffer (offset + seg.length) (width fields) := by
    rw [width_cons, field, List.take_add, List.drop_drop, field, field]
  rw [List.flatten_cons]
  constructor
  · intro h
    have hseg : field buffer offset seg.length = seg := by
      have htake := congrArg (List.take seg.length) h
      rw [List.take_left, width_cons, field, List.take_take, Nat.min_eq_left (Nat.le_add_right _ _)]
        at htake
      exact htake
    rw [hsplit, hseg] at h
    exact ⟨hseg, List.append_cancel_left h⟩
  · rintro ⟨hseg, hrest⟩
    rw [hsplit, hseg, hrest]

/-- From `offset` on the buffer holds these fields, and nothing behind the last. -/
def FieldsAt (buffer : List α) : Nat → List (List α) → Prop
  | offset, [] => buffer.length ≤ offset
  | offset, seg :: rest =>
      field buffer offset seg.length = seg ∧ FieldsAt buffer (offset + seg.length) rest

theorem drop_eq_flatten_iff {fields : List (List α)} :
    buffer.drop offset = fields.flatten ↔ FieldsAt buffer offset fields := by
  induction fields generalizing offset with
  | nil => rw [List.flatten_nil, List.drop_eq_nil_iff, FieldsAt]
  | cons seg rest ih =>
    rw [FieldsAt, ← ih, field, List.flatten_cons, ← List.drop_drop]
    constructor
    · intro h
      rw [h, List.take_left, List.drop_left]
      exact ⟨rfl, rfl⟩
    · rintro ⟨hseg, hrest⟩
      rw [← List.take_append_drop seg.length (buffer.drop offset), hseg, hrest]

theorem length_of_fieldsAt {fields : List (List α)} (h : FieldsAt buffer offset fields)
    (hoffset : offset ≤ buffer.length) : buffer.length = offset + width fields := by
  have hlength := congrArg List.length (drop_eq_flatten_iff.mpr h)
  rw [List.length_drop] at hlength
  rw [width, ← hlength, Nat.add_sub_of_le hoffset]

end Field

end Layout
