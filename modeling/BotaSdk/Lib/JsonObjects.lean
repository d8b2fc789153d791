import Mathlib.Data.List.Nodup
import BotaSdk.Lib.Json

/-!
# Objects as sets of members

What `object` and `erase` leave under each key, and reading a record from the members of an object.
-/

namespace Json

variable {key name : String} {value : Json} {fields members : List (String × Json)} {self : Json}

/-! ## Members -/

theorem lookup_eq_none (h : key ∉ fields.map (·.1)) : lookup key fields = none := by
  induction fields with
  | nil => rfl
  | cons field fields ih =>
    obtain ⟨k, v⟩ := field
    rw [List.map_cons, List.mem_cons, not_or] at h
    rw [lookup, if_neg (Ne.symm h.1), ih h.2]

theorem lookup_foldl (hnodup : (fields.map (·.1)).Nodup) :
    lookup key (fields.foldl (fun members (name, value) => insert name value members) members) =
      (lookup key fields).or (lookup key members) := by
  induction fields generalizing members with
  | nil => rfl
  | cons field fields ih =>
    obtain ⟨k, v⟩ := field
    rw [List.map_cons, List.nodup_cons] at hnodup
    rw [List.foldl_cons, ih hnodup.2, lookup]
    by_cases hk : k = key
    · subst hk
      rw [lookup_eq_none hnodup.1, lookup_insert, if_pos rfl]
      rfl
    · rw [lookup_insert_of_ne (Ne.symm hk), if_neg hk]

/-- The members of an object are the ones it was made of. -/
theorem get_object (hnodup : (fields.map (·.1)).Nodup) :
    (object fields).get key = lookup key fields := by
  rw [object, get, lookup_foldl hnodup]
  exact Option.or_none

theorem mem_keys_insert {k : String} (h : k ∈ (insert key value fields).map (·.1)) :
    k = key ∨ k ∈ fields.map (·.1) := by
  induction fields with
  | nil => simpa [insert] using h
  | cons field fields ih =>
    obtain ⟨k', v⟩ := field
    unfold insert at h
    split_ifs at h with heq hlt
    · rw [List.map_cons, List.mem_cons] at h ⊢
      exact h.imp_right .inr
    · simpa using h
    · rw [List.map_cons, List.mem_cons] at h
      rcases h with h | h
      · exact .inr (by simp [h])
      · exact (ih h).imp_right fun hmem => List.mem_cons_of_mem _ hmem

theorem mem_keys_foldl {k : String}
    (h : k ∈ (fields.foldl (fun members (name, value) => insert name value members)
      members).map (·.1)) : k ∈ fields.map (·.1) ∨ k ∈ members.map (·.1) := by
  induction fields generalizing members with
  | nil => exact .inr h
  | cons field fields ih =>
    obtain ⟨k', v⟩ := field
    rcases ih h with h | h
    · exact .inl (List.mem_cons_of_mem _ h)
    · rcases mem_keys_insert h with rfl | h
      · exact .inl List.mem_cons_self
      · exact .inr h

theorem get_set_null : (null.set key value).get key = some value := by
  rw [set, get, lookup, if_pos rfl]

theorem lookup_filter_of_ne {key' : String} (h : key' ≠ key) :
    lookup key' (fields.filter (·.1 ≠ key)) = lookup key' fields := by
  induction fields with
  | nil => rfl
  | cons field fields ih =>
    obtain ⟨k, v⟩ := field
    by_cases hk : k = key
    · subst hk
      simp only [ne_eq, not_true_eq_false, decide_false, Bool.false_eq_true, not_false_eq_true,
        List.filter_cons_of_neg, ih, lookup, if_neg (Ne.symm h)]
    · simp only [ne_eq, hk, not_false_eq_true, decide_true, List.filter_cons_of_pos, lookup, ih]

theorem get_erase_of_ne (h : name ≠ key) : (self.erase key).get name = self.get name := by
  cases self <;> first | exact lookup_filter_of_ne h | rfl

/-- What is found under a key that was set is what it was set to. -/
theorem eq_of_get_set {old : Json} (h : (self.set key value).get key = some old) : old = value := by
  cases self with
  | null =>
    rw [get_set_null] at h
    exact (Option.some.inj h).symm
  | obj fields =>
    rw [get_set rfl] at h
    exact (Option.some.inj h).symm
  | _ => cases h

/-! ## Records -/

/-- The members of a record, which may be given as an object or as the array of its fields in order.
Only the fields after the first `required` may be left out of an array. -/
def record (names : List String) (required : Nat) : Json → Option (List (String × Json))
  | obj fields => if fields.all (names.contains ·.1) then some fields else none
  | arr items =>
    if required ≤ items.length ∧ items.length ≤ names.length then some (names.zip items) else none
  | _ => none

theorem record_object {required : Nat} :
    record (fields.map (·.1)) required (object fields) =
      some (fields.foldl (fun members (key, value) => insert key value members) []) := by
  rw [object, record, if_pos]
  rw [List.all_eq_true]
  intro field hfield
  rw [List.contains_iff_mem]
  have hmem := mem_keys_foldl (List.mem_map_of_mem (f := (·.1)) hfield)
  simpa using hmem

/-- A field that must be there. -/
def field {α : Type} (read : Json → Option α) (name : String) (fields : List (String × Json)) :
    Option α :=
  (lookup name fields).bind read

/-- A field that may be missing or null. -/
def optional {α : Type} (read : Json → Option α) (name : String)
    (fields : List (String × Json)) : Option (Option α) :=
  match lookup name fields with
  | none => some none
  | some value => if value = null then some none else (read value).map some

/-- A field with a value for when it is missing. -/
def defaulted {α : Type} (default : α) (read : Json → Option α) (name : String)
    (fields : List (String × Json)) : Option α :=
  match lookup name fields with
  | none => some default
  | some value => read value

/-- What a field without a value is written as. -/
def ofOption {α : Type} (write : α → Json) : Option α → Json
  | none => null
  | some value => write value

section Fields

variable {α : Type} {read : Json → Option α} {write : α → Json} {a : α} {value? : Option α}

theorem field_of_lookup (hlookup : lookup name fields = some (write a))
    (hread : read (write a) = some a) : field read name fields = some a := by
  rw [field, hlookup, Option.bind_some, hread]

theorem optional_of_lookup (hlookup : lookup name fields = some (ofOption write value?))
    (hnull : ∀ a, write a ≠ null) (hread : ∀ a, value? = some a → read (write a) = some a) :
    optional read name fields = some value? := by
  unfold optional
  rw [hlookup]
  cases value? with
  | none => rfl
  | some a =>
    simp only [ofOption, if_neg (hnull a), hread a rfl, Option.map_some]

theorem defaulted_of_lookup {default : α} (hlookup : lookup name fields = some (write a))
    (hread : read (write a) = some a) : defaulted default read name fields = some a := by
  unfold defaulted
  rw [hlookup]
  exact hread

end Fields

end Json
