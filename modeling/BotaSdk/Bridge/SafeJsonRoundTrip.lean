import BotaSdk.Bridge.SafeJson
import Mathlib.Data.Set.Finite.Basic
import Mathlib.Order.Filter.AtTopBot.Basic
import Mathlib.Order.Filter.Finite

/-!
# What is written is read back (`json.rs`)

`tree` is the document of a value: each of its 64-bit integers is a decimal string, at any depth.
-/

namespace BotaSdk

namespace SafeJson

open Serde

/-! ## The document of a value -/

def keyText : Json → String
  | .str key => key
  | _ => ""

/-- A call with the documents of the values inside of it. -/
def document : Call Json → Json
  | .bool value => .bool value
  | .int _ .w64 value => .str (toString value)
  | .int _ _ value => .num value
  | .str value => .str value
  | .unit => .null
  | .none => .null
  | .some value => value
  | .newtypeStruct value => value
  | .seq items => .arr items
  | .tuple items => .arr items
  | .map entries => .obj (entries.map fun entry => (keyText entry.1, entry.2))
  | .struct fields => .obj fields
  | .unitVariant variant => .str variant
  | .newtypeVariant variant value => .obj [(variant, value)]
  | .tupleVariant variant items => .obj [(variant, .arr items)]
  | .structVariant variant fields => .obj [(variant, .obj fields)]

def tree (value : Data) : Json :=
  fold document value

def treeFields (fields : List (String × Data)) : List (String × Json) :=
  fields.map fun field => (field.1, tree field.2)

section Equations

theorem tree_seq (items : List Data) : tree (.seq items) = .arr (items.map tree) := by
  show Json.arr (foldItems document items) = _
  rw [foldItems_eq]
  rfl

theorem tree_tuple (items : List Data) : tree (.tuple items) = .arr (items.map tree) := by
  show Json.arr (foldItems document items) = _
  rw [foldItems_eq]
  rfl

theorem tree_map (entries : List (String × Data)) : tree (.map entries) = .obj (treeFields entries) := by
  show Json.obj ((foldEntries document entries).map _) = _
  rw [foldEntries_eq, List.map_map]
  rfl

theorem tree_struct (fields : List (String × Data)) :
    tree (.struct fields) = .obj (treeFields fields) := by
  show Json.obj (foldFields document fields) = _
  rw [foldFields_eq]
  rfl

theorem tree_tupleVariant (variant : String) (items : List Data) :
    tree (.tupleVariant variant items) = .obj [(variant, .arr (items.map tree))] := by
  show Json.obj [(variant, .arr (foldItems document items))] = _
  rw [foldItems_eq]
  rfl

theorem tree_structVariant (variant : String) (fields : List (String × Data)) :
    tree (.structVariant variant fields) = .obj [(variant, .obj (treeFields fields))] := by
  show Json.obj [(variant, .obj (foldFields document fields))] = _
  rw [foldFields_eq]
  rfl

end Equations

/-! ## The serializer writes it -/

/-- What a value writes with `SafeSerializer` around the JSON serializer. -/
def Writes (value : Data) : Prop :=
  serialize value (.safe .json) = some (tree value)

section Calls

variable (items : List Data) (fields : List (String × Data)) (variant : String)

theorem serialize_seq : serialize (.seq items) (.safe .json) =
    ((((items.map serialize).map Safe).mapM direct).map Call.seq).bind
      SerdeJson.write := by
  show Option.bind (Option.map _ (((foldItems _ items).map Safe).mapM _)) _ = _
  rw [foldItems_eq]
  rfl

theorem serialize_tuple : serialize (.tuple items) (.safe .json) =
    ((((items.map serialize).map Safe).mapM direct).map Call.tuple).bind
      SerdeJson.write := by
  show Option.bind (Option.map _ (((foldItems _ items).map Safe).mapM _)) _ = _
  rw [foldItems_eq]
  rfl

theorem serialize_map : serialize (.map fields) (.safe .json) =
    (((fields.map fun entry => (Safe (serialize (.str entry.1)), Safe (serialize entry.2))).mapM
      (Call.traverseEntry direct)).map Call.map).bind SerdeJson.write := by
  show Option.bind (Option.map _ (((foldEntries _ fields).map _).mapM _)) _ = _
  rw [foldEntries_eq, List.map_map]
  rfl

theorem serialize_struct : serialize (.struct fields) (.safe .json) =
    (((fields.map fun field => (field.1, Safe (serialize field.2))).mapM
      (Call.traverseField direct)).map Call.struct).bind SerdeJson.write := by
  show Option.bind (Option.map _ (((foldFields _ fields).map _).mapM _)) _ = _
  rw [foldFields_eq, List.map_map]
  rfl

theorem serialize_tupleVariant : serialize (.tupleVariant variant items) (.safe .json) =
    ((((items.map serialize).map Safe).mapM direct).map
      (Call.tupleVariant variant)).bind SerdeJson.write := by
  show Option.bind (Option.map _ (((foldItems _ items).map Safe).mapM _)) _ = _
  rw [foldItems_eq]
  rfl

theorem serialize_structVariant : serialize (.structVariant variant fields) (.safe .json) =
    (((fields.map fun field => (field.1, Safe (serialize field.2))).mapM
      (Call.traverseField direct)).map (Call.structVariant variant)).bind
        SerdeJson.write := by
  show Option.bind (Option.map _ (((foldFields _ fields).map _).mapM _)) _ = _
  rw [foldFields_eq, List.map_map]
  rfl

end Calls

theorem writes_items {items : List Data} (h : ∀ value ∈ items, Writes value) :
    (((items.map serialize).map Safe).mapM direct) = some (items.map tree) := by
  rw [List.mapM_map, List.mapM_map]
  exact mapM_of_forall h

theorem writes_fields {fields : List (String × Data)} (h : ∀ field ∈ fields, Writes field.2) :
    ((fields.map fun field => (field.1, Safe (serialize field.2))).mapM
      (Call.traverseField direct)) = some (treeFields fields) := by
  rw [List.mapM_map]
  refine mapM_of_forall fun field hfield => ?_
  show (serialize field.2 (.safe .json)).map _ = _
  rw [h field hfield]
  rfl

/-- A key is written as a string, also through `Safe`. -/
theorem writes_entries {entries : List (String × Data)} (h : ∀ entry ∈ entries, Writes entry.2) :
    ((entries.map fun entry => (Safe (serialize (.str entry.1)), Safe (serialize entry.2))).mapM
      (Call.traverseEntry direct)) =
        some (entries.map fun entry => (.str entry.1, tree entry.2)) := by
  rw [List.mapM_map]
  refine mapM_of_forall fun entry hentry => ?_
  show (serialize entry.2 (.safe .json)).map _ = _
  rw [h entry hentry]
  rfl

theorem members {entries : List (String × Data)} :
    (entries.map fun entry => (Json.str entry.1, tree entry.2)).mapM SerdeJson.member =
      some (treeFields entries) := by
  rw [List.mapM_map]
  exact mapM_of_forall fun _ _ => rfl

theorem zip_left {α β : Type} {xs : List α} {ys : List β} (hlength : xs.length = ys.length)
    {P : α → Prop} (h : ∀ pair ∈ xs.zip ys, P pair.1) : ∀ x ∈ xs, P x := by
  intro x hx
  rw [← List.map_fst_zip hlength.le] at hx
  obtain ⟨pair, hpair, rfl⟩ := List.mem_map.mp hx
  exact h pair hpair

theorem length_of_names {α β : Type} {xs : List (String × α)} {ys : List (String × β)}
    (names : xs.map (·.1) = ys.map (·.1)) : xs.length = ys.length := by
  have hlengths := congrArg List.length names
  rwa [List.length_map, List.length_map] at hlengths

/-- The wrapping reaches every value inside: each is written as its own document. -/
theorem writes {types : String → Ty} {value : Data} {ty : Ty} (h : HasType types value ty) :
    Writes value := by
  unfold Writes
  induction h with
  | bool value => rfl
  | int range => rename_i width n; cases width <;> rfl
  | str value => rfl
  | unit => rfl
  | none item => rfl
  | some typed solid ih =>
    show Option.bind (Option.map _ (serialize _ (.safe .json))) _ = _
    rw [ih]
    rfl
  | newtypeStruct typed ih =>
    show Option.bind (Option.map _ (serialize _ (.safe .json))) _ = _
    rw [ih]
    rfl
  | seq typed ih =>
    rw [serialize_seq, writes_items ih, tree_seq]
    rfl
  | tuple length typed ih =>
    rw [serialize_tuple, writes_items (zip_left length ih), tree_tuple]
    rfl
  | map nodup typed ih =>
    rw [serialize_map, writes_entries ih, tree_map]
    show Option.map _ (List.mapM SerdeJson.member _) = _
    rw [members]
    rfl
  | struct names nodup typed ih =>
    rw [serialize_struct, writes_fields (zip_left (length_of_names names) ih), tree_struct]
    rfl
  | unitVariant found => rfl
  | newtypeVariant found typed ih =>
    show Option.bind (Option.map _ (serialize _ (.safe .json))) _ = _
    rw [ih]
    rfl
  | tupleVariant found length typed ih =>
    rw [serialize_tupleVariant, writes_items (zip_left length ih), tree_tupleVariant]
    rfl
  | structVariant found names nodup typed ih =>
    rw [serialize_structVariant, writes_fields (zip_left (length_of_names names) ih),
      tree_structVariant]
    rfl
  | named typed ih => exact ih

/-! ## Decimal strings -/

theorem parseDigits_toDigits (n : Nat) : parseDigits (Nat.toDigits 10 n) = some (n : Int) := by
  have hdigits : (Nat.toDigits 10 n).all Char.isDigit = true :=
    List.all_eq_true.mpr fun c hc => Nat.isDigit_of_mem_toDigits (by decide) (by decide) hc
  unfold parseDigits
  rw [if_pos ⟨Nat.toDigits_ne_nil, hdigits⟩, Nat.ofDigitChars_ten_toDigits]

/-- Digits after no sign. -/
theorem parse_digits {signed : Bool} {value : String} {n : Nat}
    (hvalue : value.toList = Nat.toDigits 10 n) (h : InRange signed .w64 n) :
    parse signed value = some (n : Int) := by
  have hdigits := parseDigits_toDigits n
  have hfirst : ∀ c ∈ Nat.toDigits 10 n, c.isDigit = true := fun c hc =>
    Nat.isDigit_of_mem_toDigits (by decide) (by decide) hc
  unfold parse
  rw [hvalue]
  split
  case h_1 digits heq => exact absurd (hfirst '+' (by rw [heq]; exact List.mem_cons_self)) (by decide)
  case h_2 digits heq => exact absurd (hfirst '-' (by rw [heq]; exact List.mem_cons_self)) (by decide)
  case h_3 => rw [hdigits]; exact if_pos (decide_eq_true h)

/-- A decimal string is read as its number. -/
theorem parse_toString {signed : Bool} {n : Int} (h : InRange signed .w64 n) :
    parse signed (toString n) = some n := by
  rw [Int.toString_eq_repr, Int.repr_eq_if]
  by_cases hpos : 0 ≤ n
  · obtain ⟨k, rfl⟩ := Int.eq_ofNat_of_zero_le hpos
    rw [if_pos hpos]
    exact parse_digits Nat.toList_repr h
  · obtain ⟨k, hk⟩ := Int.eq_ofNat_of_zero_le (show 0 ≤ -n by omega)
    have hn : n = -(k : Int) := by omega
    cases signed with
    | false => exact absurd h.nonneg hpos
    | true =>
      rw [if_neg hpos, hk, Int.toNat_natCast]
      have hlist : ("-" ++ k.repr).toList = '-' :: Nat.toDigits 10 k := by
        rw [String.toList_append, Nat.toList_repr]
        rfl
      have hnumber := parseDigits_toDigits k
      unfold parse
      rw [hlist]
      show Option.filter _ ((parseDigits (Nat.toDigits 10 k)).map (-·)) = _
      rw [hnumber, Option.map_some, ← hn]
      exact if_pos (decide_eq_true h)

/-! ## The deserializer reads it -/

/-- The place of a value in its document. -/
def place (value : Data) : Deserializer :=
  .safe (.json (tree value))

def key (name : String) : Deserializer :=
  .safe (.json (.str name))

theorem readName_key (name : String) : readName Deserializer.ask (key name) = some name := rfl

theorem readKey_key (name : String) : readKey Deserializer.ask (key name) = some name := rfl

/-- Bounds of several readings have a common one. -/
theorem exists_bound {α : Type} {items : List α} {P : α → Nat → Prop}
    (h : ∀ item ∈ items, ∃ bound, ∀ fuel ≥ bound, P item fuel) :
    ∃ bound, ∀ fuel ≥ bound, ∀ item ∈ items, P item fuel := by
  have hall : ∀ᶠ fuel in Filter.atTop, ∀ item ∈ items, P item fuel :=
    (Filter.eventually_all_finite items.finite_toSet).mpr fun item hitem =>
      Filter.eventually_atTop.mpr (h item hitem)
  exact Filter.eventually_atTop.mp hall

/-- A value is read back at a type, given enough fuel. -/
def Reads (types : String → Ty) (value : Data) (ty : Ty) : Prop :=
  ∃ bound, ∀ fuel ≥ bound, deserialize Deserializer.ask types fuel ty (place value) = some value

/-- One step of reading, after which the types inside are read. -/
theorem Reads.step {types : String → Ty} {value : Data} {ty : Ty} {P : Nat → Prop}
    (h : ∃ bound, ∀ fuel ≥ bound, P fuel)
    (hstep : ∀ fuel, P fuel → readType Deserializer.ask (deserialize Deserializer.ask types fuel)
      types ty (place value) = some value) : Reads types value ty := by
  obtain ⟨bound, hbound⟩ := h
  refine ⟨bound + 1, fun fuel hfuel => ?_⟩
  obtain ⟨fuel, rfl⟩ := Nat.exists_eq_add_of_le' (Nat.le_of_add_left_le hfuel)
  exact hstep fuel (hbound fuel (Nat.le_of_succ_le_succ hfuel))

theorem Reads.leaf {types : String → Ty} {value : Data} {ty : Ty}
    (h : ∀ read, readType Deserializer.ask read types ty (place value) = some value) :
    Reads types value ty :=
  Reads.step (P := fun _ => True) ⟨0, fun _ _ => trivial⟩ fun _ _ => h _

theorem visitInt_u64 {signed : Bool} {width : Width} {n : Int} (h : InRange signed width n)
    (hpos : 0 ≤ n) :
    visitInt signed width (.u64 n.toNat : Visit Deserializer) = some (.int signed width n) := by
  have hn : (n.toNat : Int) = n := Int.toNat_of_nonneg hpos
  show (if InRange signed width (n.toNat : Int) then some (Data.int signed width (n.toNat : Int))
    else none) = _
  rw [hn]
  exact if_pos h

theorem visitInt_i64 {signed : Bool} {width : Width} {n : Int} (h : InRange signed width n) :
    visitInt signed width (.i64 n : Visit Deserializer) = some (.int signed width n) :=
  if_pos h

/-- A 64-bit integer is read from its decimal string. -/
theorem ask_decimal {signed : Bool} {n : Int} (h : InRange signed .w64 n) :
    (Deserializer.ask (.safe (.json (.str (toString n)))) (.int signed .w64)).bind
      (visitInt signed .w64) = some (.int signed .w64 n) := by
  show (visitDecimal signed (toString n)).bind _ = _
  unfold visitDecimal
  rw [parse_toString h]
  show (Option.bind (if toString n ≠ toString n then _ else _) _) = _
  rw [if_neg (not_not.mpr rfl)]
  cases signed with
  | true =>
    rw [if_pos rfl, Option.bind_some]
    exact visitInt_i64 h
  | false =>
    rw [if_neg Bool.false_ne_true, Option.bind_some]
    exact visitInt_u64 h h.nonneg

/-- A number is read at any integer type but the 64-bit ones. -/
theorem ask_number {signed : Bool} {width : Width} {n : Int} (hwidth : width ≠ .w64)
    (h : InRange signed width n) :
    (Deserializer.ask (.safe (.json (.num n))) (.int signed width)).bind (visitInt signed width) =
      some (.int signed width n) := by
  have hask : Deserializer.ask (.safe (.json (.num n))) (.int signed width) =
      some (if 0 ≤ n then .u64 n.toNat else .i64 n) := by
    by_cases hpos : 0 ≤ n
    · cases width <;> simp [Deserializer.ask, SerdeJson.read, SerdeJson.visitNumber, hpos,
        jsonVisit, safeVisitor] at hwidth ⊢
    · cases width <;> simp [Deserializer.ask, SerdeJson.read, SerdeJson.visitNumber, hpos,
        jsonVisit, safeVisitor] at hwidth ⊢
  rw [hask]
  by_cases hpos : 0 ≤ n
  · rw [if_pos hpos]
    exact visitInt_u64 h hpos
  · rw [if_neg hpos]
    exact visitInt_i64 h

theorem tree_ne_null {types : String → Ty} {value : Data} {ty : Ty} (h : HasType types value ty)
    (solid : value.isNull = false) : tree value ≠ .null := by
  induction h with
  | int range => rename_i width n; cases width <;> exact Json.noConfusion
  | unit => exact absurd solid (by decide)
  | none item => exact absurd solid (by decide)
  | some typed hsolid ih => exact ih hsolid
  | newtypeStruct typed ih => exact ih solid
  | named typed ih => exact ih solid
  | _ => exact Json.noConfusion

/-- The parts of a list, through the wrapper. -/
theorem access_tree (items : List Data) :
    access (jsonCompound (.seq (items.map tree))) = .seq (items.map place) := by
  show Compound.seq (((items.map tree).map Deserializer.json).map Deserializer.safe) = _
  rw [List.map_map, List.map_map]
  rfl

theorem access_treeFields (fields : List (String × Data)) :
    access (jsonCompound (.map ((treeFields fields).map fun field => (.str field.1, field.2)))) =
      .map (fields.map fun field => (key field.1, place field.2)) := by
  show Compound.map ((((fields.map fun field => (field.1, tree field.2)).map _).map _).map _) = _
  rw [List.map_map, List.map_map, List.map_map]
  rfl

theorem reads {types : String → Ty} {value : Data} {ty : Ty} (h : HasType types value ty) :
    Reads types value ty := by
  -- on the typing: a kind asks for its own form, and its parts are read by the hypotheses
  induction h with
  | bool value => exact Reads.leaf fun _ => rfl
  | int range =>
    rename_i signed width n
    refine Reads.leaf fun _ => ?_
    cases width with
    | w64 => exact ask_decimal range
    | _ => exact ask_number (by decide) range
  | str value => exact Reads.leaf fun _ => rfl
  | unit => exact Reads.leaf fun _ => rfl
  | none item => exact Reads.leaf fun _ => rfl
  | some typed solid ih =>
    -- what is solid does not print null, so it is not read as none
    refine Reads.step ih fun fuel hread => ?_
    rename_i value item
    have hnull : tree value ≠ .null := tree_ne_null typed solid
    have hask : Deserializer.ask (place (.some value)) .option = some (.some (place value)) := by
      show Option.map _ (Option.map _ (if tree value = .null then _ else _)) = _
      rw [if_neg hnull]
      rfl
    show (Deserializer.ask (place (.some value)) .option).bind _ = _
    rw [hask]
    show (deserialize _ types fuel item (place value)).map _ = _
    rw [hread]
    rfl
  | newtypeStruct typed ih =>
    refine Reads.step ih fun fuel hread => ?_
    rename_i value item
    show (deserialize _ types fuel item (place value)).map _ = _
    rw [hread]
    rfl
  | seq typed ih =>
    rename_i items item
    refine Reads.step (exists_bound ih) fun fuel hread => ?_
    have hitems : (items.map place).mapM (deserialize Deserializer.ask types fuel item) =
        some items := by
      rw [List.mapM_map]
      exact (mapM_of_forall hread).trans (by rw [List.map_id'])
    have hask : Deserializer.ask (place (.seq items)) .seq =
        some (.compound (.seq (items.map place))) := by
      unfold place
      rw [tree_seq]
      exact congrArg (fun parts => some (Visit.compound parts)) (access_tree items)
    show ((Deserializer.ask (place (.seq items)) .seq).bind _).map _ = _
    rw [hask]
    show Option.map _ (List.mapM _ (items.map place)) = _
    rw [hitems]
    rfl
  | tuple length typed ih =>
    rename_i items tys
    refine Reads.step (exists_bound ih) fun fuel hread => ?_
    have hask : Deserializer.ask (place (.tuple items)) .tuple =
        some (.compound (.seq (items.map place))) := by
      unfold place
      rw [tree_tuple]
      exact congrArg (fun parts => some (Visit.compound parts)) (access_tree items)
    show (((Deserializer.ask (place (.tuple items)) .tuple).bind _).bind _).map _ = _
    rw [hask]
    show (readTuple _ tys (items.map place)).map _ = _
    rw [readTuple_of_zip length hread]
    rfl
  | map nodup typed ih =>
    rename_i entries item
    refine Reads.step (exists_bound ih) fun fuel hread => ?_
    have hask : Deserializer.ask (place (.map entries)) .map =
        some (.compound (.map (entries.map fun entry => (key entry.1, place entry.2)))) := by
      unfold place
      rw [tree_map]
      exact congrArg (fun parts => some (Visit.compound parts)) (access_treeFields entries)
    show ((Deserializer.ask (place (.map entries)) .map).bind _).map _ = _
    rw [hask]
    show (readEntries _ _ item [] (entries.map _)).map _ = _
    rw [readEntries_of_nodup readKey_key [] nodup hread]
    rfl
  | struct names nodup typed ih =>
    rename_i fields tys
    refine Reads.step (exists_bound ih) fun fuel hread => ?_
    have hask : Deserializer.ask (place (.struct fields)) .struct =
        some (.compound (.map (fields.map fun field => (key field.1, place field.2)))) := by
      unfold place
      rw [tree_struct]
      exact congrArg (fun parts => some (Visit.compound parts)) (access_treeFields fields)
    show Option.map _ (Option.bind (Option.bind (Deserializer.ask (place (.struct fields)) .struct)
      _) _) = _
    rw [hask]
    show Option.map _ (visitStruct _ _ tys (.map (fields.map _))) = _
    rw [visitStruct_of_zip readName_key names nodup hread]
    rfl
  | unitVariant found =>
    rename_i variant variants
    refine Reads.leaf fun read => ?_
    show Option.bind (find variant variants) _ = _
    rw [found]
    rfl
  | newtypeVariant found typed ih =>
    rename_i variant variants value item
    refine Reads.step ih fun fuel hread => ?_
    show Option.bind (find variant variants) _ = _
    rw [found]
    show Option.map _ (deserialize _ types fuel item (place value)) = _
    rw [hread]
    rfl
  | tupleVariant found length typed ih =>
    rename_i variant variants items tys
    refine Reads.step (exists_bound ih) fun fuel hread => ?_
    have hask : ∃ content : Content Deserializer,
        Deserializer.ask (place (.tupleVariant variant items)) .enum =
          some (.enum (key variant) content) ∧ content.tuple = some (.seq (items.map place)) := by
      unfold place
      rw [tree_tupleVariant]
      exact ⟨_, rfl, congrArg some (access_tree items)⟩
    obtain ⟨content, hask, hcontent⟩ := hask
    rw [readType_enum, hask]
    show Option.bind (find variant variants) _ = _
    rw [found]
    show Option.map _ (Option.bind content.tuple _) = _
    rw [hcontent]
    show Option.map _ (readTuple _ tys (items.map place)) = _
    rw [readTuple_of_zip length hread]
    rfl
  | structVariant found names nodup typed ih =>
    rename_i variant variants fields tys
    refine Reads.step (exists_bound ih) fun fuel hread => ?_
    have hask : ∃ content : Content Deserializer,
        Deserializer.ask (place (.structVariant variant fields)) .enum =
          some (.enum (key variant) content) ∧ content.struct =
            some (.map (fields.map fun field => (key field.1, place field.2))) := by
      unfold place
      rw [tree_structVariant]
      exact ⟨_, rfl, congrArg some (access_treeFields fields)⟩
    obtain ⟨content, hask, hcontent⟩ := hask
    rw [readType_enum, hask]
    show Option.bind (find variant variants) _ = _
    rw [found]
    show Option.map _ (Option.bind content.struct _) = _
    rw [hcontent]
    show Option.map _ (visitStruct _ _ tys (.map (fields.map _))) = _
    rw [visitStruct_of_zip readName_key names nodup hread]
    rfl
  | named typed ih => exact Reads.step ih fun fuel hread => hread

end SafeJson

end BotaSdk
