import BotaSdk.Lib.Bytes

/-!
# Readers that take values off the front of a byte string

A reader is matched with the writer of its values: it returns a value exactly when the input starts
with what is written for it.
-/

abbrev Reader (ε : Type) := StateT (List UInt8) (Except ε)

namespace Reader

open Bytes

section Readers

variable {ε : Type} (error : ε)

/-- The next `n` bytes. -/
def take (n : Nat) : Reader ε (List UInt8) := fun input =>
  if n ≤ input.length then .ok (input.take n, input.drop n) else .error error

def byte : Reader ε UInt8 := do
  return (← take error 1).headD 0

/-- A big-endian number of `width` bytes. -/
def big (width : Nat) : Reader ε Nat := do
  return beNat (← take error width)

/-- An error if the condition holds. -/
def refuse (condition : Prop) [Decidable condition] : Reader ε Unit :=
  if condition then throw error else pure ()

/-- A value that has to be there. -/
def required {α : Type} : Option α → Reader ε α
  | some value => pure value
  | none => throw error

/-- A byte that stands for a value. -/
def code {α : Type} (table : UInt8 → Option α) : Reader ε α := do
  required error (table (← byte error))

def flag : Reader ε Bool := do
  match ← byte error with
  | 0 => return false
  | 1 => return true
  | _ => throw error

/-- What stands behind a set flag. -/
def optional {α : Type} (reader : Reader ε α) : Reader ε (Option α) := do
  if ← flag error then return some (← reader) else return none

end Readers

/-- The reader returns the `good` values, each for an input that starts with its bytes. -/
def Reads {ε α : Type} (reader : Reader ε α) (write : α → List UInt8) (good : α → Prop) : Prop :=
  ∀ input value rest,
    reader.run input = .ok (value, rest) ↔ good value ∧ input = write value ++ rest

/-- What `optional` reads back. -/
def writeOptional {α : Type} (write : α → List UInt8) : Option α → List UInt8
  | none => [0]
  | some value => 1 :: write value

section Rules

variable {ε α β : Type} {error : ε} {reader : Reader ε α} {next : α → Reader ε β}
  {write : α → List UInt8} {good : α → Prop} {input rest : List UInt8} {value : α} {result : β}

theorem run_pure {result' : α} : (pure value : Reader ε α).run input = .ok (result', rest) ↔
    result' = value ∧ rest = input := by
  constructor
  · intro h
    obtain ⟨rfl, rfl⟩ := Prod.mk.inj (Except.ok.inj h)
    exact ⟨rfl, rfl⟩
  · rintro ⟨rfl, rfl⟩
    rfl

/-- What is read first stands first. -/
theorem Reads.run_bind (h : Reads reader write good) :
    (reader >>= next).run input = .ok (result, rest) ↔
      ∃ a mid, good a ∧ input = write a ++ mid ∧ (next a).run mid = .ok (result, rest) := by
  rw [StateT.run_bind]
  constructor
  · intro hrun
    cases hfirst : reader.run input with
    | error e => rw [hfirst] at hrun; exact nomatch hrun
    | ok pair =>
      obtain ⟨a, mid⟩ := pair
      obtain ⟨hgood, hinput⟩ := (h input a mid).mp hfirst
      rw [hfirst] at hrun
      exact ⟨a, mid, hgood, hinput, hrun⟩
  · rintro ⟨a, mid, hgood, hinput, hnext⟩
    rw [(h input a mid).mpr ⟨hgood, hinput⟩]
    exact hnext

theorem reads_refuse (condition : Prop) [Decidable condition] :
    Reads (refuse error condition) (fun _ => []) (fun _ => ¬condition) := by
  intro input value rest
  rw [refuse]
  split
  · rename_i h
    exact iff_of_false nofun fun hnot => hnot.1 h
  · rename_i h
    constructor
    · intro hpure
      obtain ⟨rfl, rfl⟩ := run_pure.mp hpure
      exact ⟨h, rfl⟩
    · rintro ⟨-, rfl⟩
      rfl

theorem reads_take (n : Nat) : Reads (take error n) id (·.length = n) := by
  intro input value rest
  show take error n input = _ ↔ _
  rw [take]
  constructor
  · intro h
    split at h
    · rename_i hle
      obtain ⟨rfl, rfl⟩ := Prod.mk.inj (Except.ok.inj h)
      exact ⟨List.length_take_of_le hle, (List.take_append_drop n input).symm⟩
    · exact nomatch h
  · rintro ⟨hlength, rfl⟩
    rw [if_pos (by rw [List.length_append, id, hlength]; omega), ← hlength, id, List.take_left,
      List.drop_left]

theorem reads_byte : Reads (byte error) (fun b => [b]) (fun _ => True) := by
  intro input value rest
  rw [byte, (reads_take 1).run_bind]
  constructor
  · rintro ⟨bytes, mid, hlength, rfl, hpure⟩
    obtain ⟨rfl, rfl⟩ := run_pure.mp hpure
    obtain ⟨b, rfl⟩ := List.length_eq_one_iff.mp hlength
    exact ⟨trivial, rfl⟩
  · rintro ⟨-, rfl⟩
    exact ⟨[value], rest, rfl, rfl, run_pure.mpr ⟨rfl, rfl⟩⟩

theorem reads_big (width : Nat) :
    Reads (big error width) (beBytes width) (· < 256 ^ width) := by
  intro input value rest
  rw [big, (reads_take width).run_bind]
  constructor
  · rintro ⟨bytes, mid, hlength, rfl, hpure⟩
    obtain ⟨rfl, rfl⟩ := run_pure.mp hpure
    subst hlength
    exact ⟨beNat_lt bytes, by rw [beBytes_beNat, id]⟩
  · rintro ⟨hlt, rfl⟩
    exact ⟨beBytes width value, rest, length_beBytes width value, rfl,
      run_pure.mpr ⟨(beNat_beBytes_of_lt hlt).symm, rfl⟩⟩

theorem reads_code {table : UInt8 → Option α} {encode : α → UInt8}
    (h : ∀ b a, table b = some a ↔ b = encode a) :
    Reads (code error table) (fun a => [encode a]) (fun _ => True) := by
  intro input value rest
  rw [code, reads_byte.run_bind]
  constructor
  · rintro ⟨b, mid, -, rfl, hrequired⟩
    cases htable : table b with
    | none => rw [htable] at hrequired; exact nomatch hrequired
    | some a =>
      rw [htable] at hrequired
      obtain ⟨rfl, rfl⟩ := run_pure.mp hrequired
      exact ⟨trivial, by rw [(h b _).mp htable]⟩
  · rintro ⟨-, rfl⟩
    refine ⟨encode value, rest, trivial, rfl, ?_⟩
    rw [(h _ value).mpr rfl]
    exact run_pure.mpr ⟨rfl, rfl⟩

theorem reads_flag : Reads (flag error) (fun b => [if b then 1 else 0]) (fun _ => True) := by
  intro input value rest
  rw [flag, reads_byte.run_bind]
  constructor
  · rintro ⟨b, mid, -, rfl, hmatch⟩
    split at hmatch
    · obtain ⟨rfl, rfl⟩ := run_pure.mp hmatch
      exact ⟨trivial, rfl⟩
    · obtain ⟨rfl, rfl⟩ := run_pure.mp hmatch
      exact ⟨trivial, rfl⟩
    · exact nomatch hmatch
  · rintro ⟨-, rfl⟩
    refine ⟨_, rest, trivial, rfl, ?_⟩
    cases value <;> rfl

theorem reads_optional (h : Reads reader write good) :
    Reads (optional error reader) (writeOptional write) (fun value => ∀ a ∈ value, good a) := by
  intro input value rest
  rw [optional, reads_flag.run_bind]
  constructor
  · rintro ⟨set, mid, -, rfl, hbranch⟩
    cases set with
    | false =>
      obtain ⟨rfl, rfl⟩ := run_pure.mp hbranch
      exact ⟨nofun, rfl⟩
    | true =>
      obtain ⟨a, last, hgood, rfl, hpure⟩ := h.run_bind.mp hbranch
      obtain ⟨rfl, rfl⟩ := run_pure.mp hpure
      refine ⟨fun a' ha' => ?_, rfl⟩
      obtain rfl := Option.mem_some_iff.mp ha'
      exact hgood
  · rintro ⟨hgood, rfl⟩
    cases value with
    | none => exact ⟨false, rest, trivial, rfl, rfl⟩
    | some a =>
      refine ⟨true, write a ++ rest, trivial, rfl, ?_⟩
      exact h.run_bind.mpr ⟨a, rest, hgood a rfl, rfl, run_pure.mpr ⟨rfl, rfl⟩⟩

/-- What is read only under a condition. -/
theorem reads_ite (condition : Prop) [Decidable condition] (h : Reads reader write good) :
    Reads (if condition then reader else pure value)
      (fun a => if condition then write a else [])
      (fun a => if condition then good a else a = value) := by
  intro input a rest
  split
  · exact h input a rest
  · rw [run_pure]
    exact and_congr_right fun _ => eq_comm

end Rules

end Reader
