import Mathlib.Data.List.Basic
import Mathlib.Data.List.Zip
import Mathlib.Data.List.Forall2
import BotaSdk.Lib.Json

/-!
# The serde data model

Values, the calls that a value makes on a serializer, the types that values are read at, and the
calls that a deserializer makes on a type's visitor.  `SerdeJson` is the format itself, up to the
text of a document.
-/

namespace Serde

inductive Width where
  | w8 | w16 | w32 | w64
  deriving DecidableEq

def Width.bits : Width → Nat
  | w8 => 8
  | w16 => 16
  | w32 => 32
  | w64 => 64

/-- The integers of a type. -/
def InRange (signed : Bool) (width : Width) (n : Int) : Prop :=
  if signed then -2 ^ (width.bits - 1) ≤ n ∧ n < 2 ^ (width.bits - 1)
  else 0 ≤ n ∧ n < 2 ^ width.bits

instance (signed : Bool) (width : Width) (n : Int) : Decidable (InRange signed width n) := by
  unfold InRange
  infer_instance

theorem InRange.nonneg {width : Width} {n : Int} (h : InRange false width n) : 0 ≤ n := by
  unfold InRange at h
  rw [if_neg Bool.false_ne_true] at h
  exact h.1

/-! ## Values -/

inductive Data where
  | bool (value : Bool)
  | int (signed : Bool) (width : Width) (value : Int)
  | str (value : String)
  | unit
  | none
  | some (value : Data)
  | newtypeStruct (value : Data)
  | seq (items : List Data)
  | tuple (items : List Data)
  | map (entries : List (String × Data))
  | struct (fields : List (String × Data))
  | unitVariant (variant : String)
  | newtypeVariant (variant : String) (value : Data)
  | tupleVariant (variant : String) (items : List Data)
  | structVariant (variant : String) (fields : List (String × Data))

/-- The call that a value makes on a serializer, with the values inside of it. -/
inductive Call (α : Type) where
  | bool (value : Bool)
  | int (signed : Bool) (width : Width) (value : Int)
  | str (value : String)
  | unit
  | none
  | some (value : α)
  | newtypeStruct (value : α)
  | seq (items : List α)
  | tuple (items : List α)
  | map (entries : List (α × α))
  | struct (fields : List (String × α))
  | unitVariant (variant : String)
  | newtypeVariant (variant : String) (value : α)
  | tupleVariant (variant : String) (items : List α)
  | structVariant (variant : String) (fields : List (String × α))

namespace Call

variable {α β : Type}

def traverseField (f : α → Option β) (field : String × α) : Option (String × β) :=
  (f field.2).map fun value => (field.1, value)

def traverseEntry (f : α → Option β) (entry : α × α) : Option (β × β) :=
  (f entry.1).bind fun key => (f entry.2).map fun value => (key, value)

/-- A call with each value inside of it replaced, if all can be. -/
def traverse (f : α → Option β) : Call α → Option (Call β)
  | bool value => Option.some (bool value)
  | int signed width value => Option.some (int signed width value)
  | str value => Option.some (str value)
  | unit => Option.some unit
  | none => Option.some none
  | some value => (f value).map some
  | newtypeStruct value => (f value).map newtypeStruct
  | seq items => (items.mapM f).map seq
  | tuple items => (items.mapM f).map tuple
  | map entries => (entries.mapM (traverseEntry f)).map map
  | struct fields => (fields.mapM (traverseField f)).map struct
  | unitVariant variant => Option.some (unitVariant variant)
  | newtypeVariant variant value => (f value).map (newtypeVariant variant)
  | tupleVariant variant items => (items.mapM f).map (tupleVariant variant)
  | structVariant variant fields =>
    (fields.mapM (traverseField f)).map (structVariant variant)

end Call

section Fold

variable {α : Type} (run : Call α → α)

mutual

/-- A value after each of its calls, from the inside out. -/
def fold : Data → α
  | .bool value => run (.bool value)
  | .int signed width value => run (.int signed width value)
  | .str value => run (.str value)
  | .unit => run .unit
  | .none => run .none
  | .some value => run (.some (fold value))
  | .newtypeStruct value => run (.newtypeStruct (fold value))
  | .seq items => run (.seq (foldItems items))
  | .tuple items => run (.tuple (foldItems items))
  | .map entries => run (.map (foldEntries entries))
  | .struct fields => run (.struct (foldFields fields))
  | .unitVariant variant => run (.unitVariant variant)
  | .newtypeVariant variant value => run (.newtypeVariant variant (fold value))
  | .tupleVariant variant items => run (.tupleVariant variant (foldItems items))
  | .structVariant variant fields => run (.structVariant variant (foldFields fields))

def foldItems : List Data → List α
  | [] => []
  | item :: items => fold item :: foldItems items

def foldFields : List (String × Data) → List (String × α)
  | [] => []
  | (name, value) :: fields => (name, fold value) :: foldFields fields

/-- The keys of a map are values themselves. -/
def foldEntries : List (String × Data) → List (α × α)
  | [] => []
  | (key, value) :: entries => (run (.str key), fold value) :: foldEntries entries

end

theorem foldItems_eq (items : List Data) : foldItems run items = items.map (fold run) := by
  induction items with
  | nil => rfl
  | cons item items ih => rw [foldItems, ih, List.map_cons]

theorem foldFields_eq (fields : List (String × Data)) :
    foldFields run fields = fields.map fun field => (field.1, fold run field.2) := by
  induction fields with
  | nil => rfl
  | cons field fields ih => rw [foldFields, ih, List.map_cons]

theorem foldEntries_eq (entries : List (String × Data)) :
    foldEntries run entries = entries.map fun entry => (run (.str entry.1), fold run entry.2) := by
  induction entries with
  | nil => rfl
  | cons entry entries ih => rw [foldEntries, ih, List.map_cons]

end Fold

/-! ## Types -/

mutual

inductive Ty where
  | bool
  | int (signed : Bool) (width : Width)
  | str
  | unit
  | option (item : Ty)
  | newtypeStruct (item : Ty)
  | seq (item : Ty)
  | tuple (items : List Ty)
  | map (item : Ty)
  | struct (fields : List (String × Ty))
  | enum (variants : List (String × Variant))
  /-- A struct or an enum by its name: types may be recursive. -/
  | named (name : String)

inductive Variant where
  | unit
  | newtype (item : Ty)
  | tuple (items : List Ty)
  | struct (fields : List (String × Ty))

end

/-- The value of a key that is listed first. -/
def find {α : Type} (key : String) : List (String × α) → Option α
  | [] => none
  | (k, value) :: entries => if k = key then some value else find key entries

/-- A value that a format with a null writes as one. -/
def Data.isNull : Data → Bool
  | .unit => true
  | .none => true
  | .newtypeStruct value => value.isNull
  | _ => false

/-- The values of a type: integers are in range, keys are distinct, and no option holds a null. -/
inductive HasType (types : String → Ty) : Data → Ty → Prop
  | bool (value : Bool) : HasType types (.bool value) .bool
  | int {signed : Bool} {width : Width} {n : Int} (range : InRange signed width n) :
      HasType types (.int signed width n) (.int signed width)
  | str (value : String) : HasType types (.str value) .str
  | unit : HasType types .unit .unit
  | none (item : Ty) : HasType types .none (.option item)
  | some {value : Data} {item : Ty} (typed : HasType types value item)
      (solid : value.isNull = false) : HasType types (.some value) (.option item)
  | newtypeStruct {value : Data} {item : Ty} (typed : HasType types value item) :
      HasType types (.newtypeStruct value) (.newtypeStruct item)
  | seq {items : List Data} {item : Ty} (typed : ∀ value ∈ items, HasType types value item) :
      HasType types (.seq items) (.seq item)
  | tuple {items : List Data} {tys : List Ty} (length : items.length = tys.length)
      (typed : ∀ pair ∈ items.zip tys, HasType types pair.1 pair.2) :
      HasType types (.tuple items) (.tuple tys)
  | map {entries : List (String × Data)} {item : Ty} (nodup : (entries.map (·.1)).Nodup)
      (typed : ∀ entry ∈ entries, HasType types entry.2 item) :
      HasType types (.map entries) (.map item)
  | struct {fields : List (String × Data)} {tys : List (String × Ty)}
      (names : fields.map (·.1) = tys.map (·.1)) (nodup : (tys.map (·.1)).Nodup)
      (typed : ∀ pair ∈ fields.zip tys, HasType types pair.1.2 pair.2.2) :
      HasType types (.struct fields) (.struct tys)
  | unitVariant {variant : String} {variants : List (String × Variant)}
      (found : find variant variants = .some .unit) :
      HasType types (.unitVariant variant) (.enum variants)
  | newtypeVariant {variant : String} {variants : List (String × Variant)} {value : Data}
      {item : Ty} (found : find variant variants = .some (.newtype item))
      (typed : HasType types value item) :
      HasType types (.newtypeVariant variant value) (.enum variants)
  | tupleVariant {variant : String} {variants : List (String × Variant)} {items : List Data}
      {tys : List Ty} (found : find variant variants = .some (.tuple tys))
      (length : items.length = tys.length)
      (typed : ∀ pair ∈ items.zip tys, HasType types pair.1 pair.2) :
      HasType types (.tupleVariant variant items) (.enum variants)
  | structVariant {variant : String} {variants : List (String × Variant)}
      {fields : List (String × Data)} {tys : List (String × Ty)}
      (found : find variant variants = .some (.struct tys))
      (names : fields.map (·.1) = tys.map (·.1)) (nodup : (tys.map (·.1)).Nodup)
      (typed : ∀ pair ∈ fields.zip tys, HasType types pair.1.2 pair.2.2) :
      HasType types (.structVariant variant fields) (.enum variants)
  | named {value : Data} {name : String} (typed : HasType types value (types name)) :
      HasType types value (.named name)

/-! ## Reading -/

/-- What a type asks a deserializer for. -/
inductive Request where
  | any
  | bool
  | int (signed : Bool) (width : Width)
  | str
  | identifier
  | unit
  | option
  | newtypeStruct
  | seq
  | tuple
  | map
  | struct
  | enum

/-- The parts of a sequence or of a map, each behind its own deserializer. -/
inductive Compound (δ : Type) where
  | seq (items : List δ)
  | map (entries : List (δ × δ))

/-- The content of an enum's variant, in the forms that it can be read in. -/
structure Content (δ : Type) where
  unit : Bool
  newtype : Option δ
  tuple : Option (Compound δ)
  struct : Option (Compound δ)

/-- The call that a deserializer makes on a visitor. -/
inductive Visit (δ : Type) where
  | bool (value : Bool)
  | u64 (value : Nat)
  | i64 (value : Int)
  | f64 (bits : UInt64)
  | str (value : String)
  | unit
  | none
  | some (value : δ)
  | newtypeStruct (value : δ)
  | compound (parts : Compound δ)
  | enum (tag : δ) (content : Content δ)

def Compound.parts {δ : Type} : Compound δ → List δ
  | seq items => items
  | map entries => entries.flatMap fun entry => [entry.1, entry.2]

def Content.parts {δ : Type} (content : Content δ) : List δ :=
  content.newtype.toList ++ (content.tuple.elim [] Compound.parts ++
    content.struct.elim [] Compound.parts)

/-- The deserializers that a visitor is given. -/
def Visit.parts {δ : Type} : Visit δ → List δ
  | some value => [value]
  | newtypeStruct value => [value]
  | compound parts => parts.parts
  | enum tag content => tag :: content.parts
  | _ => []

/-- The deserializers that a reading can come to. -/
inductive Reached {δ : Type} (ask : δ → Request → Option (Visit δ)) (start : δ) : δ → Prop
  | here : Reached ask start start
  | part {d child : δ} {request : Request} {visit : Visit δ} (reached : Reached ask start d)
      (answer : ask d request = .some visit) (mem : child ∈ visit.parts) : Reached ask start child

section Visitors

variable {δ : Type}

def visitBool : Visit δ → Option Data
  | .bool value => some (.bool value)
  | _ => none

/-- An integer takes any integer of its range. -/
def visitInt (signed : Bool) (width : Width) : Visit δ → Option Data
  | .u64 n => if InRange signed width n then some (.int signed width n) else none
  | .i64 n => if InRange signed width n then some (.int signed width n) else none
  | _ => none

def visitStr : Visit δ → Option String
  | .str value => some value
  | _ => none

def visitUnit : Visit δ → Option Data
  | .unit => some .unit
  | _ => none

variable (ask : δ → Request → Option (Visit δ)) (read : Ty → δ → Option Data)

def visitOption (item : Ty) : Visit δ → Option Data
  | .none => some .none
  | .unit => some .none
  | .some d => (read item d).map .some
  | _ => none

def visitNewtypeStruct (item : Ty) : Visit δ → Option Data
  | .newtypeStruct d => (read item d).map .newtypeStruct
  | _ => none

def visitSeq (item : Ty) : Visit δ → Option (List Data)
  | .compound (.seq items) => items.mapM (read item)
  | _ => none

/-- As many items as there are types. -/
def readTuple : List Ty → List δ → Option (List Data)
  | [], [] => some []
  | ty :: tys, d :: items => do
    let value ← read ty d
    let values ← readTuple tys items
    pure (value :: values)
  | _, _ => none

def visitTuple (tys : List Ty) : Compound δ → Option (List Data)
  | .seq items => readTuple read tys items
  | .map _ => none

def readName (d : δ) : Option String :=
  (ask d .identifier).bind visitStr

def readKey (d : δ) : Option String :=
  (ask d .str).bind visitStr

/-- An entry replaces one of the same key. -/
def put (key : String) (value : Data) : List (String × Data) → List (String × Data)
  | [] => [(key, value)]
  | (k, v) :: entries => if k = key then (k, value) :: entries else (k, v) :: put key value entries

def readEntries (item : Ty) : List (String × Data) → List (δ × δ) → Option (List (String × Data))
  | read', [] => some read'
  | read', (key, d) :: entries => do
    let key ← readKey ask key
    let value ← read item d
    readEntries item (put key value read') entries

def visitMap (item : Ty) : Visit δ → Option (List (String × Data))
  | .compound (.map entries) => readEntries ask read item [] entries
  | _ => none

/-- The fields of a struct, in any order; a field is read once and an unknown one is passed over. -/
def readFields (tys : List (String × Ty)) :
    List (String × Data) → List (δ × δ) → Option (List (String × Data))
  | read', [] => some read'
  | read', (name, d) :: entries => do
    let name ← readName ask name
    match find name tys with
    | none => readFields tys read' entries
    | some ty =>
      if (find name read').isSome then none
      else do
        let value ← read ty d
        readFields tys (read' ++ [(name, value)]) entries

/-- Only an option may be missing. -/
def fieldValue (read' : List (String × Data)) : String × Ty → Option (String × Data)
  | (name, ty) =>
    match find name read', ty with
    | some value, _ => some (name, value)
    | none, .option _ => some (name, .none)
    | none, _ => none

def visitStruct (tys : List (String × Ty)) : Compound δ → Option (List (String × Data))
  | .seq items => (readTuple read (tys.map (·.2)) items).map fun values =>
      (tys.map (·.1)).zip values
  | .map entries => (readFields ask read tys [] entries).bind fun read' =>
      tys.mapM (fieldValue read')

def visitEnum (variants : List (String × Variant)) : Visit δ → Option Data
  | .enum tag content => do
    let variant ← readName ask tag
    match ← find variant variants with
    | .unit => if content.unit then some (.unitVariant variant) else none
    | .newtype item => (content.newtype.bind (read item)).map (.newtypeVariant variant)
    | .tuple tys => (content.tuple.bind (visitTuple read tys)).map (.tupleVariant variant)
    | .struct tys => (content.struct.bind (visitStruct ask read tys)).map (.structVariant variant)
  | _ => none

def compound : Visit δ → Option (Compound δ)
  | .compound parts => some parts
  | _ => none

/-- A type read from a deserializer, the types inside of it by `read`. -/
def readType (types : String → Ty) : Ty → δ → Option Data
  | .bool, d => (ask d .bool).bind visitBool
  | .int signed width, d => (ask d (.int signed width)).bind (visitInt signed width)
  | .str, d => ((ask d .str).bind visitStr).map .str
  | .unit, d => (ask d .unit).bind visitUnit
  | .option item, d => (ask d .option).bind (visitOption read item)
  | .newtypeStruct item, d => (ask d .newtypeStruct).bind (visitNewtypeStruct read item)
  | .seq item, d => ((ask d .seq).bind (visitSeq read item)).map .seq
  | .tuple tys, d => (((ask d .tuple).bind compound).bind (visitTuple read tys)).map .tuple
  | .map item, d => ((ask d .map).bind (visitMap ask read item)).map .map
  | .struct tys, d => (((ask d .struct).bind compound).bind (visitStruct ask read tys)).map .struct
  | .enum variants, d => (ask d .enum).bind (visitEnum ask read variants)
  | .named name, d => read (types name) d

theorem readType_enum (types : String → Ty) (variants : List (String × Variant)) (d : δ) :
    readType ask read types (.enum variants) d =
      (ask d .enum).bind (visitEnum ask read variants) := rfl

/-- `T::deserialize`; the fuel bounds how often a type is read inside of another. -/
def deserialize (types : String → Ty) : Nat → Ty → δ → Option Data
  | 0, _, _ => none
  | fuel + 1, ty, d => readType ask (deserialize types fuel) types ty d

end Visitors

/-! ## Reading back what was listed -/

section Lists

variable {α β δ : Type}

theorem mapM_of_zip {f : β → Option α} {xs : List α} {ys : List β} (hlength : xs.length = ys.length)
    (h : ∀ pair ∈ xs.zip ys, f pair.2 = some pair.1) : ys.mapM f = some xs := by
  induction ys generalizing xs with
  | nil => rw [List.eq_nil_of_length_eq_zero hlength]; rfl
  | cons y ys ih =>
    cases xs with
    | nil => exact absurd hlength (by simp)
    | cons x xs =>
      have hrest := ih (Nat.succ.inj hlength) fun pair hp => h pair (List.mem_cons_of_mem _ hp)
      rw [List.mapM_cons, h (x, y) List.mem_cons_self, hrest]
      rfl

theorem mapM_of_forall {f : α → Option β} {g : α → β} {items : List α}
    (h : ∀ item ∈ items, f item = some (g item)) : items.mapM f = some (items.map g) := by
  refine mapM_of_zip (List.length_map g) fun pair hpair => ?_
  obtain ⟨item, hitem, hboth⟩ : ∃ item ∈ items, (g item, item) = pair := by
    have hzip := List.zip_map' (f := g) (g := id) (l := items)
    rw [List.map_id] at hzip
    rwa [hzip, List.mem_map] at hpair
  rw [← hboth]
  exact h item hitem

theorem find_of_zip {fields : List (String × α)} {tys : List (String × β)}
    (names : fields.map (·.1) = tys.map (·.1)) (nodup : (tys.map (·.1)).Nodup)
    {pair : (String × α) × String × β} (h : pair ∈ fields.zip tys) :
    pair.2.1 = pair.1.1 ∧ find pair.1.1 tys = some pair.2.2 ∧
      find pair.1.1 fields = some pair.1.2 := by
  induction tys generalizing fields with
  | nil => rw [List.zip_nil_right] at h; exact absurd h List.not_mem_nil
  | cons ty tys ih =>
    cases fields with
    | nil => exact absurd h List.not_mem_nil
    | cons field fields =>
      have hhead : field.1 = ty.1 := (List.cons.inj names).1
      have htail : fields.map (·.1) = tys.map (·.1) := (List.cons.inj names).2
      rcases List.mem_cons.mp h with rfl | h
      · exact ⟨hhead.symm, by rw [find, if_pos hhead.symm], by rw [find, if_pos rfl]⟩
      · obtain ⟨hname, hty, hvalue⟩ := ih htail nodup.of_cons h
        have hmem : pair.2.1 ∈ tys.map (·.1) := List.mem_map_of_mem (List.of_mem_zip h).2
        have hne : ty.1 ≠ pair.1.1 := by
          intro heq
          rw [hname, ← heq] at hmem
          exact (List.nodup_cons.mp nodup).1 hmem
        exact ⟨hname, by rw [find, if_neg hne, hty],
          by rw [find, if_neg (hhead ▸ hne), hvalue]⟩

theorem find_eq_none {key : String} {entries : List (String × α)}
    (h : key ∉ entries.map (·.1)) : find key entries = none := by
  induction entries with
  | nil => rfl
  | cons entry entries ih =>
    have hne : entry.1 ≠ key := fun heq => h (heq ▸ List.mem_cons_self)
    rw [find, if_neg hne, ih fun hmem => h (List.mem_cons_of_mem _ hmem)]

theorem put_of_not_mem {key : String} {value : Data} {entries : List (String × Data)}
    (h : key ∉ entries.map (·.1)) : put key value entries = entries ++ [(key, value)] := by
  induction entries with
  | nil => rfl
  | cons entry entries ih =>
    have hne : entry.1 ≠ key := fun heq => h (heq ▸ List.mem_cons_self)
    rw [put, if_neg hne, ih fun hmem => h (List.mem_cons_of_mem _ hmem)]
    rfl

/-- Keys that are distinct in a whole list, read up to one of its entries. -/
theorem not_mem_of_nodup {before rest : List (String × α)} {entry : String × α}
    (h : ((before ++ entry :: rest).map (·.1)).Nodup) : entry.1 ∉ before.map (·.1) := by
  rw [List.map_append, List.map_cons] at h
  intro hmem
  exact (List.nodup_append.mp h).2.2 _ hmem _ List.mem_cons_self rfl

end Lists

section Readback

variable {δ : Type} {ask : δ → Request → Option (Visit δ)} {read : Ty → δ → Option Data}
  {key : String → δ} {place : Data → δ}

theorem readTuple_of_zip {items : List Data} {tys : List Ty} (hlength : items.length = tys.length)
    (h : ∀ pair ∈ items.zip tys, read pair.2 (place pair.1) = some pair.1) :
    readTuple read tys (items.map place) = some items := by
  induction tys generalizing items with
  | nil => rw [List.eq_nil_of_length_eq_zero hlength]; rfl
  | cons ty tys ih =>
    cases items with
    | nil => exact absurd hlength (by simp)
    | cons item items =>
      have hrest := ih (Nat.succ.inj hlength) fun pair hp => h pair (List.mem_cons_of_mem _ hp)
      rw [List.map_cons, readTuple, h (item, ty) List.mem_cons_self, hrest]
      rfl

theorem readEntries_of_nodup (hkey : ∀ name, readKey ask (key name) = some name) {item : Ty}
    (before : List (String × Data)) {rest : List (String × Data)}
    (nodup : ((before ++ rest).map (·.1)).Nodup) (h : ∀ entry ∈ rest, read item (place entry.2) = some entry.2) :
    readEntries ask read item before (rest.map fun entry => (key entry.1, place entry.2)) =
      some (before ++ rest) := by
  induction rest generalizing before with
  | nil => rw [List.append_nil]; rfl
  | cons entry rest ih =>
    have hnew := not_mem_of_nodup nodup
    have hrest := ih (before ++ [entry]) (by rwa [List.append_assoc])
      fun x hx => h x (List.mem_cons_of_mem _ hx)
    rw [List.map_cons, readEntries, hkey, h entry List.mem_cons_self]
    show readEntries ask read item (put entry.1 entry.2 before) _ = _
    rw [put_of_not_mem hnew, hrest, List.append_assoc]
    rfl

theorem readFields_of_nodup (hkey : ∀ name, readName ask (key name) = some name)
    {tys : List (String × Ty)} (before : List (String × Data)) {rest : List (String × Data)}
    (nodup : ((before ++ rest).map (·.1)).Nodup)
    (h : ∀ field ∈ rest, ∃ ty, find field.1 tys = some ty ∧
      read ty (place field.2) = some field.2) :
    readFields ask read tys before (rest.map fun field => (key field.1, place field.2)) =
      some (before ++ rest) := by
  induction rest generalizing before with
  | nil => rw [List.append_nil]; rfl
  | cons field rest ih =>
    have hnew := find_eq_none (not_mem_of_nodup nodup)
    obtain ⟨ty, hty, hread⟩ := h field List.mem_cons_self
    have hrest := ih (before ++ [field]) (by rwa [List.append_assoc])
      fun x hx => h x (List.mem_cons_of_mem _ hx)
    rw [List.map_cons, readFields, hkey]
    show (match find field.1 tys with | none => _ | some ty => _) = _
    rw [hty]
    show (if (find field.1 before).isSome then _ else _) = _
    rw [hnew, hread]
    show readFields ask read tys (before ++ [field]) _ = _
    rw [hrest, List.append_assoc]
    rfl

/-- A struct that was listed in the order of its fields. -/
theorem visitStruct_of_zip (hkey : ∀ name, readName ask (key name) = some name)
    {fields : List (String × Data)} {tys : List (String × Ty)}
    (names : fields.map (·.1) = tys.map (·.1)) (nodup : (tys.map (·.1)).Nodup)
    (h : ∀ pair ∈ fields.zip tys, read pair.2.2 (place pair.1.2) = some pair.1.2) :
    visitStruct ask read tys (.map (fields.map fun field => (key field.1, place field.2))) =
      some fields := by
  have hlength : fields.length = tys.length := by
    have hlengths := congrArg List.length names
    rwa [List.length_map, List.length_map] at hlengths
  have hfields : ∀ field ∈ fields, ∃ ty, find field.1 tys = some ty ∧
      read ty (place field.2) = some field.2 := by
    intro field hfield
    obtain ⟨i, hi, rfl⟩ := List.getElem_of_mem hfield
    have hpair : (fields[i], tys[i]) ∈ fields.zip tys := by
      exact List.mem_iff_getElem.mpr ⟨i, by simpa using ⟨hi, hlength ▸ hi⟩, List.getElem_zip⟩
    exact ⟨tys[i].2, (find_of_zip names nodup hpair).2.1, h _ hpair⟩
  have hvalues : tys.mapM (fieldValue fields) = some fields := by
    refine mapM_of_zip hlength fun pair hp => ?_
    obtain ⟨hname, -, hvalue⟩ := find_of_zip names nodup hp
    show (match find pair.2.1 fields, pair.2.2 with
      | some value, _ => some (pair.2.1, value)
      | none, .option _ => some (pair.2.1, .none)
      | none, _ => none) = _
    rw [hname, hvalue]
  have hread := readFields_of_nodup hkey [] (by rwa [List.nil_append, names]) hfields
  show (readFields ask read tys [] _).bind _ = _
  rw [hread]
  exact hvalues

end Readback

end Serde

/-! ## The JSON format -/

namespace SerdeJson

open Serde

/-- A map's keys must be strings. -/
def member : Json × Json → Option (String × Json)
  | (.str key, value) => some (key, value)
  | _ => none

/-- What a call on the JSON serializer writes. -/
def write : Call Json → Option Json
  | .bool value => some (.bool value)
  | .int _ _ value => some (.num value)
  | .str value => some (.str value)
  | .unit => some .null
  | .none => some .null
  | .some value => some value
  | .newtypeStruct value => some value
  | .seq items => some (.arr items)
  | .tuple items => some (.arr items)
  | .map entries => (entries.mapM member).map .obj
  | .struct fields => some (.obj fields)
  | .unitVariant variant => some (.str variant)
  | .newtypeVariant variant value => some (.obj [(variant, value)])
  | .tupleVariant variant items => some (.obj [(variant, .arr items)])
  | .structVariant variant fields => some (.obj [(variant, .obj fields)])

def visitNumber : Json → Option (Visit Json)
  | .num value => some (if 0 ≤ value then .u64 value.toNat else .i64 value)
  | .float bits => some (.f64 bits)
  | _ => none

def visitArray : Json → Option (Compound Json)
  | .arr items => some (.seq items)
  | _ => none

def visitObject : Json → Option (Compound Json)
  | .obj fields => some (.map (fields.map fun field => (.str field.1, field.2)))
  | _ => none

/-- A struct is an object, or an array of its fields. -/
def visitFields (tree : Json) : Option (Compound Json) :=
  (visitArray tree).orElse fun _ => visitObject tree

def visitText : Json → Option (Visit Json)
  | .str value => some (.str value)
  | _ => none

/-- What the JSON deserializer at a tree answers. -/
def read (tree : Json) : Request → Option (Visit Json)
  | .any =>
    match tree with
    | .null => some .unit
    | .bool value => some (.bool value)
    | .num _ => visitNumber tree
    | .float _ => visitNumber tree
    | .str value => some (.str value)
    | .arr _ => (visitArray tree).map .compound
    | .obj _ => (visitObject tree).map .compound
  | .bool =>
    match tree with
    | .bool value => some (.bool value)
    | _ => none
  | .int _ _ => visitNumber tree
  | .str => visitText tree
  | .identifier => visitText tree
  | .unit => if tree = .null then some .unit else none
  | .option => if tree = .null then some .none else some (.some tree)
  | .newtypeStruct => some (.newtypeStruct tree)
  | .seq => (visitArray tree).map .compound
  | .tuple => (visitArray tree).map .compound
  | .map => (visitObject tree).map .compound
  | .struct => (visitFields tree).map .compound
  | .enum =>
    match tree with
    | .str variant => some (.enum (.str variant) ⟨true, none, none, none⟩)
    | .obj [(variant, content)] =>
      some (.enum (.str variant)
        ⟨content = .null, some content, visitArray content, visitFields content⟩)
    | _ => none

end SerdeJson
