import Mathlib.Algebra.Group.Int.Defs
import Mathlib.Data.List.Basic
import Mathlib.Data.String.Basic

/-!
# JSON values

Objects list their members in the order of their keys, so that equal objects are equal values.
Indexing a value that has no such member gives `null`.
-/

inductive Json where
  | null
  | bool (value : Bool)
  | num (value : Int)
  /-- A number with a fraction or an exponent. -/
  | float (bits : UInt64)
  | str (value : String)
  | arr (items : List Json)
  | obj (fields : List (String × Json))

namespace Json

instance : Inhabited Json := ⟨null⟩

mutual

def decEq : (a b : Json) → Decidable (a = b)
  | null, null => .isTrue rfl
  | bool a, bool b => decidable_of_iff (a = b) ⟨congrArg bool, bool.inj⟩
  | num a, num b => decidable_of_iff (a = b) ⟨congrArg num, num.inj⟩
  | float a, float b => decidable_of_iff (a = b) ⟨congrArg float, float.inj⟩
  | str a, str b => decidable_of_iff (a = b) ⟨congrArg str, str.inj⟩
  | arr a, arr b =>
    match decEqItems a b with
    | .isTrue h => .isTrue (congrArg arr h)
    | .isFalse h => .isFalse fun heq => h (arr.inj heq)
  | obj a, obj b =>
    match decEqFields a b with
    | .isTrue h => .isTrue (congrArg obj h)
    | .isFalse h => .isFalse fun heq => h (obj.inj heq)
  | null, bool _ | null, num _ | null, float _ | null, str _ | null, arr _ | null, obj _
  | bool _, null | bool _, num _ | bool _, float _ | bool _, str _ | bool _, arr _ | bool _, obj _
  | num _, null | num _, bool _ | num _, float _ | num _, str _ | num _, arr _ | num _, obj _
  | float _, null | float _, bool _ | float _, num _ | float _, str _ | float _, arr _
  | float _, obj _
  | str _, null | str _, bool _ | str _, num _ | str _, float _ | str _, arr _ | str _, obj _
  | arr _, null | arr _, bool _ | arr _, num _ | arr _, float _ | arr _, str _ | arr _, obj _
  | obj _, null | obj _, bool _ | obj _, num _ | obj _, float _ | obj _, str _ | obj _, arr _ =>
    .isFalse nofun

def decEqItems : (a b : List Json) → Decidable (a = b)
  | [], [] => .isTrue rfl
  | [], _ :: _ => .isFalse nofun
  | _ :: _, [] => .isFalse nofun
  | a :: as, b :: bs =>
    match decEq a b, decEqItems as bs with
    | .isTrue h, .isTrue h' => .isTrue (congrArg₂ List.cons h h')
    | .isFalse h, _ => .isFalse fun heq => h (List.cons.inj heq).1
    | _, .isFalse h => .isFalse fun heq => h (List.cons.inj heq).2

def decEqFields : (a b : List (String × Json)) → Decidable (a = b)
  | [], [] => .isTrue rfl
  | [], _ :: _ => .isFalse nofun
  | _ :: _, [] => .isFalse nofun
  | (k, a) :: as, (k', b) :: bs =>
    if hk : k = k' then
      match decEq a b, decEqFields as bs with
      | .isTrue h, .isTrue h' => .isTrue (congrArg₂ List.cons (congrArg₂ Prod.mk hk h) h')
      | .isFalse h, _ => .isFalse fun heq => h (Prod.mk.inj (List.cons.inj heq).1).2
      | _, .isFalse h => .isFalse fun heq => h (List.cons.inj heq).2
    else .isFalse fun heq => hk (Prod.mk.inj (List.cons.inj heq).1).1

end

instance : DecidableEq Json := decEq

/-! ## Reading -/

def isObject : Json → Bool
  | obj _ => true
  | _ => false

def asBool : Json → Option Bool
  | bool value => some value
  | _ => none

def asStr : Json → Option String
  | str value => some value
  | _ => none

def asArray : Json → Option (List Json)
  | arr items => some items
  | _ => none

/-- A number that is a `u64`. -/
def asU64 : Json → Option Nat
  | num value => if 0 ≤ value ∧ value < 2 ^ 64 then some value.toNat else none
  | _ => none

/-- The member of a key. -/
def lookup (key : String) : List (String × Json) → Option Json
  | [] => none
  | (k, value) :: fields => if k = key then some value else lookup key fields

def get (self : Json) (key : String) : Option Json :=
  match self with
  | obj fields => lookup key fields
  | _ => none

/-- Indexing: a missing member is `null`. -/
def index (self : Json) (key : String) : Json :=
  (self.get key).getD null

/-! ## Writing -/

/-- A member is put where its key belongs, in place of one of the same key. -/
def insert (key : String) (value : Json) : List (String × Json) → List (String × Json)
  | [] => [(key, value)]
  | (k, v) :: fields =>
    if k = key then (key, value) :: fields
    else if key < k then (key, value) :: (k, v) :: fields
    else (k, v) :: insert key value fields

/-- Assignment to a member; `null` becomes an object. -/
def set (self : Json) (key : String) (value : Json) : Json :=
  match self with
  | null => obj [(key, value)]
  | obj fields => obj (insert key value fields)
  | other => other

def erase (self : Json) (key : String) : Json :=
  match self with
  | obj fields => obj (fields.filter (·.1 ≠ key))
  | other => other

/-- The object of these members. -/
def object (fields : List (String × Json)) : Json :=
  obj (fields.foldl (fun members (key, value) => insert key value members) [])

/-- The bytes of a byte array. -/
def asBytes (self : Json) : Option (List UInt8) :=
  self.asArray.bind fun items =>
    items.mapM fun item => (item.asU64.filter (· < 256)).map UInt8.ofNat

def ofNat (n : Nat) : Json :=
  num n

def ofBytes (bytes : List UInt8) : Json :=
  arr (bytes.map fun byte => num byte.toNat)

/-! ## Compact text -/

def utf8 (text : String) : List UInt8 :=
  text.toUTF8.data.toList

/-- A text in quotes, and what comes after it. -/
def quote (text : String) (rest : List UInt8) : List UInt8 :=
  34 :: (utf8 text ++ 34 :: rest)

mutual

/-- A value without blanks, and what comes after it.  The value holds no float, and its strings need
no escape. -/
def write : Json → List UInt8 → List UInt8
  | null, rest => utf8 "null" ++ rest
  | bool value, rest => utf8 (toString value) ++ rest
  | num value, rest => utf8 (toString value) ++ rest
  | float _, rest => rest
  | str value, rest => quote value rest
  | arr items, rest => 91 :: writeItems items (93 :: rest)
  | obj fields, rest => 123 :: writeFields fields (125 :: rest)

def writeItems : List Json → List UInt8 → List UInt8
  | [], rest => rest
  | [item], rest => write item rest
  | item :: items, rest => write item (44 :: writeItems items rest)

def writeFields : List (String × Json) → List UInt8 → List UInt8
  | [], rest => rest
  | [(key, value)], rest => quote key (58 :: write value rest)
  | (key, value) :: fields, rest => quote key (58 :: write value (44 :: writeFields fields rest))

end

def compact (self : Json) : List UInt8 :=
  write self []

/-! ## Numbers that a double holds exactly -/

def MAX_SAFE_INTEGER : Nat := 9007199254740991

mutual

/-- Every number is one that JavaScript reads exactly.  The magnitude of a float grows with its bits
below the sign. -/
def safe : Json → Bool
  | num value => value.natAbs ≤ MAX_SAFE_INTEGER
  | float bits => bits.toNat % 2 ^ 63 ≤ 0x433FFFFFFFFFFFFF
  | arr items => safeItems items
  | obj fields => safeFields fields
  | _ => true

def safeItems : List Json → Bool
  | [] => true
  | item :: items => safe item && safeItems items

def safeFields : List (String × Json) → Bool
  | [] => true
  | (_, value) :: fields => safe value && safeFields fields

end

/-! ## Reading what was written -/

section Laws

variable {key key' : String} {value : Json} {fields : List (String × Json)} {self : Json}

@[simp] theorem lookup_insert : lookup key (insert key value fields) = some value := by
  induction fields with
  | nil => simp [insert, lookup]
  | cons member fields ih =>
    obtain ⟨k, v⟩ := member
    unfold insert
    split_ifs with hk hlt
    · simp [lookup]
    · simp [lookup]
    · simp [lookup, hk, ih]

theorem lookup_insert_of_ne (h : key' ≠ key) :
    lookup key' (insert key value fields) = lookup key' fields := by
  induction fields with
  | nil => simp [insert, lookup, h.symm]
  | cons member fields ih =>
    obtain ⟨k, v⟩ := member
    unfold insert
    split_ifs with hk hlt
    · subst hk
      simp [lookup, h.symm]
    · simp [lookup, h.symm]
    · simp only [lookup, ih]

theorem isObject_iff : self.isObject = true ↔ ∃ fields, self = obj fields := by
  cases self <;> simp [isObject]

@[simp] theorem isObject_set (h : self.isObject = true) : (self.set key value).isObject = true := by
  obtain ⟨fields, rfl⟩ := isObject_iff.mp h
  rfl

theorem get_set (h : self.isObject = true) : (self.set key value).get key = some value := by
  obtain ⟨fields, rfl⟩ := isObject_iff.mp h
  exact lookup_insert

theorem get_set_of_ne (hne : key' ≠ key) :
    self.isObject = true → (self.set key value).get key' = self.get key' := by
  intro h
  obtain ⟨fields, rfl⟩ := isObject_iff.mp h
  exact lookup_insert_of_ne hne

theorem index_set (h : self.isObject = true) : (self.set key value).index key = value := by
  rw [index, get_set h]
  rfl

theorem index_set_of_ne (hne : key' ≠ key) (h : self.isObject = true) :
    (self.set key value).index key' = self.index key' := by
  rw [index, get_set_of_ne hne h, index]

end Laws

end Json
