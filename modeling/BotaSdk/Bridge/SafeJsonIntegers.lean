import BotaSdk.Bridge.SafeJsonRoundTrip

/-!
# Integers across the JSON layer (`json.rs`)

No 64-bit integer passes through a JSON number on the way out, and at each place that one is read the
decimal strings and the numbers that JavaScript holds exactly are what is taken.
-/

namespace BotaSdk

namespace SafeJson

open Serde

/-! ## Every part is read through the wrapper -/

theorem parts_access (parts : Compound Deserializer) :
    (access parts).parts = parts.parts.map .safe := by
  cases parts with
  | seq items => rfl
  | map entries =>
    show (entries.map _).flatMap _ = (entries.flatMap _).map _
    rw [List.flatMap_map, List.map_flatMap]
    rfl

theorem elim_access (parts : Option (Compound Deserializer)) :
    (parts.map access).elim [] Compound.parts = (parts.elim [] Compound.parts).map .safe := by
  cases parts with
  | none => rfl
  | some parts => exact parts_access parts

theorem parts_safeVisitor (visit : Visit Deserializer) :
    (safeVisitor visit).parts = visit.parts.map .safe := by
  cases visit with
  | compound parts => exact parts_access parts
  | enum tag content =>
    show _ :: (variantAccess content).parts = _ :: content.parts.map _
    unfold variantAccess Content.parts
    rw [elim_access, elim_access, List.map_append, List.map_append]
    cases content.newtype <;> rfl
  | _ => rfl

theorem parts_jsonCompound (parts : Compound Json) :
    (jsonCompound parts).parts = parts.parts.map .json := by
  cases parts with
  | seq items => rfl
  | map entries =>
    show (entries.map _).flatMap _ = (entries.flatMap _).map _
    rw [List.flatMap_map, List.map_flatMap]
    rfl

theorem elim_jsonCompound (parts : Option (Compound Json)) :
    (parts.map jsonCompound).elim [] Compound.parts =
      (parts.elim [] Compound.parts).map .json := by
  cases parts with
  | none => rfl
  | some parts => exact parts_jsonCompound parts

theorem parts_jsonVisit (visit : Visit Json) : (jsonVisit visit).parts = visit.parts.map .json := by
  cases visit with
  | compound parts => exact parts_jsonCompound parts
  | enum tag content =>
    show _ :: Content.parts _ = _ :: content.parts.map _
    unfold Content.parts
    rw [elim_jsonCompound, elim_jsonCompound, List.map_append, List.map_append]
    cases content.newtype <;> rfl
  | _ => rfl

/-- An integer visitor is given no part. -/
theorem parts_integerVisitor {signed : Bool} {before after : Visit Deserializer}
    (h : integerVisitor signed before = some after) : after.parts = [] := by
  unfold integerVisitor at h
  split at h
  case h_1 value =>
    obtain ⟨number, -, hnumber⟩ := Option.bind_eq_some_iff.mp h
    split at hnumber
    · exact nomatch hnumber
    · rw [← Option.some.inj hnumber]
      cases signed <;> rfl
  case h_2 =>
    split at h
    · exact nomatch h
    · rw [← Option.some.inj h]; rfl
  case h_3 =>
    split at h
    · exact nomatch h
    · rw [← Option.some.inj h]; rfl
  case h_4 => exact nomatch h

/-- A 64-bit integer is asked for as anything, and the answer goes to the integer visitor. -/
theorem ask_parts {tree : Json} {request : Request} {visit : Visit Deserializer}
    {child : Deserializer} (h : Deserializer.ask (.safe (.json tree)) request = some visit)
    (hchild : child ∈ visit.parts) : ∃ part, child = .safe (.json part) := by
  have hsafe : ∀ {request : Request},
      (Deserializer.ask (.json tree) request).map safeVisitor = some visit →
        ∃ part, child = .safe (.json part) := by
    intro request h
    obtain ⟨inner, hinner, rfl⟩ := Option.map_eq_some_iff.mp h
    obtain ⟨answer, -, rfl⟩ := Option.map_eq_some_iff.mp hinner
    rw [parts_safeVisitor, parts_jsonVisit, List.map_map] at hchild
    obtain ⟨part, -, rfl⟩ := List.mem_map.mp hchild
    exact ⟨part, rfl⟩
  cases request with
  | int signed width =>
    cases width with
    | w64 =>
      obtain ⟨before, -, hafter⟩ := Option.bind_eq_some_iff.mp h
      rw [parts_integerVisitor hafter] at hchild
      exact absurd hchild List.not_mem_nil
    | _ => exact hsafe h
  | _ => exact hsafe h

theorem reached_safe {tree : Json} {d : Deserializer}
    (h : Reached Deserializer.ask (.safe (.json tree)) d) : ∃ part, d = .safe (.json part) := by
  induction h with
  | here => exact ⟨tree, rfl⟩
  | part reached answer mem ih =>
    obtain ⟨part, rfl⟩ := ih
    exact ask_parts answer mem

/-! ## What is taken for a 64-bit integer -/

theorem parse_eq_some {signed : Bool} {value : String} {n : Int} (h : parse signed value = some n) :
    InRange signed .w64 n := by
  unfold parse at h
  exact of_decide_eq_true (Option.filter_eq_some_iff.mp h).2

theorem visitInt_eq_some {signed : Bool} {width : Width} {n : Int} {value : Data} :
    (if InRange signed width n then some (Data.int signed width n) else none) = some value ↔
      InRange signed width n ∧ value = .int signed width n := by
  by_cases h : InRange signed width n
  · rw [if_pos h]
    exact ⟨fun heq => ⟨h, (Option.some.inj heq).symm⟩, fun heq => congrArg some heq.2.symm⟩
  · rw [if_neg h]
    exact ⟨fun heq => (nomatch heq), fun heq => absurd heq.1 h⟩

/-- A string is taken if it is the decimal string of an integer in range. -/
theorem visitDecimal_eq_some {signed : Bool} {text : String} {value : Data} :
    (visitDecimal signed text).bind (visitInt signed .w64) = some value ↔
      ∃ n, InRange signed .w64 n ∧ value = .int signed .w64 n ∧ text = toString n := by
  constructor
  · intro h
    obtain ⟨visit, hvisit, hvalue⟩ := Option.bind_eq_some_iff.mp h
    obtain ⟨n, hparse, hcanonical⟩ := Option.bind_eq_some_iff.mp hvisit
    have hrange := parse_eq_some hparse
    have htext : toString n = text := by
      by_contra hne
      rw [if_pos hne] at hcanonical
      exact nomatch hcanonical
    subst htext
    have hread := ask_decimal hrange
    refine ⟨n, hrange, ?_, rfl⟩
    have hsame : some value = some (.int signed .w64 n) := h.symm.trans hread
    exact Option.some.inj hsame
  · rintro ⟨n, hrange, rfl, rfl⟩
    exact ask_decimal hrange

/-- A number is taken if it is in range and a double holds it exactly. -/
theorem visitNumber_eq_some {signed : Bool} {n : Int} {value : Data} :
    ((integerVisitor signed (if 0 ≤ n then .u64 n.toNat else .i64 n)).bind
      (visitInt signed .w64)) = some value ↔
        (InRange signed .w64 n ∧ value = .int signed .w64 n) ∧ n.natAbs ≤ Json.MAX_SAFE_INTEGER := by
  have hguard : ∀ {visit : Visit Deserializer}, visitInt signed .w64 visit =
      (if InRange signed .w64 n then some (.int signed .w64 n) else none) →
        ((if n.natAbs > Json.MAX_SAFE_INTEGER then none else some visit).bind
          (visitInt signed .w64) = some value ↔
            (InRange signed .w64 n ∧ value = .int signed .w64 n) ∧
              n.natAbs ≤ Json.MAX_SAFE_INTEGER) := by
    intro visit hvisit
    by_cases hsafe : n.natAbs > Json.MAX_SAFE_INTEGER
    · rw [if_pos hsafe]
      exact ⟨fun h => (nomatch h), fun h => absurd h.2 (Nat.not_le_of_gt hsafe)⟩
    · rw [if_neg hsafe, Option.bind_some, hvisit, visitInt_eq_some]
      exact ⟨fun h => ⟨h, Nat.le_of_not_gt hsafe⟩, And.left⟩
  by_cases hpos : 0 ≤ n
  · obtain ⟨k, rfl⟩ := Int.eq_ofNat_of_zero_le hpos
    rw [if_pos hpos, Int.toNat_natCast]
    exact hguard rfl
  · rw [if_neg hpos]
    exact hguard rfl

theorem takes {types : String → Ty} {fuel : Nat} {signed : Bool} {part : Json} {value : Data} :
    deserialize Deserializer.ask types (fuel + 1) (.int signed .w64) (.safe (.json part)) =
        some value ↔
      ∃ n, InRange signed .w64 n ∧ value = .int signed .w64 n ∧
        (part = .str (toString n) ∨ part = .num n ∧ n.natAbs ≤ Json.MAX_SAFE_INTEGER) := by
  show ((Deserializer.ask (.json part) .any).bind (integerVisitor signed)).bind
    (visitInt signed .w64) = some value ↔ _
  cases part with
  | str text =>
    refine visitDecimal_eq_some.trans ⟨?_, ?_⟩
    · rintro ⟨n, hrange, hvalue, htext⟩
      exact ⟨n, hrange, hvalue, .inl (congrArg Json.str htext)⟩
    · rintro ⟨n, hrange, hvalue, htext | hnumber⟩
      · exact ⟨n, hrange, hvalue, Json.str.inj htext⟩
      · cases hnumber.1
  | num k =>
    have hany : Deserializer.ask (.json (.num k)) .any =
        some (if 0 ≤ k then .u64 k.toNat else .i64 k) := by
      show some (jsonVisit (if 0 ≤ k then .u64 k.toNat else .i64 k)) = _
      split <;> rfl
    rw [hany, Option.bind_some, visitNumber_eq_some]
    constructor
    · rintro ⟨⟨hrange, hvalue⟩, hsafe⟩
      exact ⟨k, hrange, hvalue, .inr ⟨rfl, hsafe⟩⟩
    · rintro ⟨n, hrange, hvalue, htext | ⟨hnumber, hsafe⟩⟩
      · cases htext
      · rw [← Json.num.inj hnumber] at hrange hvalue hsafe
        exact ⟨⟨hrange, hvalue⟩, hsafe⟩
  | _ =>
    refine ⟨fun h => (by cases h), ?_⟩
    rintro ⟨n, -, -, htext | hnumber⟩
    · cases htext
    · cases hnumber.1

/-! ## The numbers of a document -/

mutual

/-- Each number that stands in a document. -/
def numbers : Json → List Json
  | .num value => [.num value]
  | .float bits => [.float bits]
  | .arr items => itemNumbers items
  | .obj fields => fieldNumbers fields
  | _ => []

def itemNumbers : List Json → List Json
  | [] => []
  | item :: items => numbers item ++ itemNumbers items

def fieldNumbers : List (String × Json) → List Json
  | [] => []
  | (_, value) :: fields => numbers value ++ fieldNumbers fields

end

/-- The integers of a value that are narrower than 64 bits. -/
def narrow : Call (List Int) → List Int
  | .int _ .w64 _ => []
  | .int _ _ value => [value]
  | .some value => value
  | .newtypeStruct value => value
  | .seq items => items.flatten
  | .tuple items => items.flatten
  | .map entries => (entries.map (·.2)).flatten
  | .struct fields => (fields.map (·.2)).flatten
  | .newtypeVariant _ value => value
  | .tupleVariant _ items => items.flatten
  | .structVariant _ fields => (fields.map (·.2)).flatten
  | _ => []

def narrowIntegers (value : Data) : List Int :=
  fold narrow value

theorem itemNumbers_tree {items : List Data}
    (h : ∀ value ∈ items, numbers (tree value) = (narrowIntegers value).map .num) :
    itemNumbers (items.map tree) = ((foldItems narrow items).flatten).map .num := by
  induction items with
  | nil => rfl
  | cons item items ih =>
    have hrest := ih fun value hvalue => h value (List.mem_cons_of_mem _ hvalue)
    rw [List.map_cons, itemNumbers, h item List.mem_cons_self, hrest, foldItems, List.flatten_cons,
      List.map_append]
    rfl

theorem fieldNumbers_tree {fields : List (String × Data)}
    (h : ∀ field ∈ fields, numbers (tree field.2) = (narrowIntegers field.2).map .num) :
    fieldNumbers (treeFields fields) =
      (((foldFields narrow fields).map (·.2)).flatten).map .num := by
  induction fields with
  | nil => rfl
  | cons field fields ih =>
    have hrest := ih fun f hf => h f (List.mem_cons_of_mem _ hf)
    rw [treeFields, List.map_cons, fieldNumbers, h field List.mem_cons_self, foldFields,
      List.map_cons, List.flatten_cons, List.map_append, ← hrest]
    rfl

theorem foldEntries_values (entries : List (String × Data)) :
    (foldEntries narrow entries).map (·.2) = (foldFields narrow entries).map (·.2) := by
  rw [foldEntries_eq, foldFields_eq, List.map_map, List.map_map]
  rfl

/-- The numbers of a document are the narrow integers of its value. -/
theorem numbers_tree {types : String → Ty} {value : Data} {ty : Ty} (h : HasType types value ty) :
    numbers (tree value) = (narrowIntegers value).map .num := by
  induction h with
  | int range => rename_i width n; cases width <;> rfl
  | some typed solid ih => exact ih
  | newtypeStruct typed ih => exact ih
  | seq typed ih =>
    rw [tree_seq, numbers, itemNumbers_tree ih]
    rfl
  | tuple length typed ih =>
    rw [tree_tuple, numbers, itemNumbers_tree (zip_left length ih)]
    rfl
  | map nodup typed ih =>
    rw [tree_map, numbers, fieldNumbers_tree ih, ← foldEntries_values]
    rfl
  | struct names nodup typed ih =>
    rw [tree_struct, numbers, fieldNumbers_tree (zip_left (length_of_names names) ih)]
    rfl
  | newtypeVariant found typed ih => exact (List.append_nil _).trans ih
  | tupleVariant found length typed ih =>
    rw [tree_tupleVariant]
    exact (List.append_nil _).trans (itemNumbers_tree (zip_left length ih))
  | structVariant found names nodup typed ih =>
    rw [tree_structVariant]
    exact (List.append_nil _).trans (fieldNumbers_tree (zip_left (length_of_names names) ih))
  | named typed ih => exact ih
  | _ => rfl

/-! ## Bounded output -/

theorem foldlM_write {pieces : List (List UInt8)} {start output : Bounded}
    (h : pieces.foldlM Bounded.write start = some output) :
    output.bytes = start.bytes ++ pieces.flatten ∧
      (start.bytes.length ≤ start.limit → output.bytes.length ≤ start.limit) := by
  induction pieces generalizing start with
  | nil =>
    rw [← Option.some.inj h, List.flatten_nil, List.append_nil]
    exact ⟨rfl, id⟩
  | cons piece pieces ih =>
    rw [List.foldlM_cons] at h
    obtain ⟨next, hnext, hrest⟩ := Option.bind_eq_some_iff.mp h
    unfold Bounded.write at hnext
    split at hnext
    · exact nomatch hnext
    · rename_i hfits
      obtain ⟨hbytes, hlength⟩ := ih hrest
      rw [← Option.some.inj hnext] at hbytes hlength
      refine ⟨by rw [hbytes, List.append_assoc, List.flatten_cons], fun hstart => hlength ?_⟩
      show (start.bytes ++ piece).length ≤ start.limit
      rw [List.length_append]
      omega

theorem encodeBounded_eq_some {text : Text} {types : String → Ty} {value : Data} {ty : Ty}
    {limit : Nat} {bytes : List UInt8} (h : HasType types value ty)
    (hbytes : encodeBounded text value limit = some bytes) :
    bytes = text.print (tree value) ∧ bytes.length ≤ limit := by
  have htree : Safe (serialize value) .json = some (tree value) := writes h
  unfold encodeBounded at hbytes
  rw [htree] at hbytes
  change (((text.pieces (tree value)).foldlM Bounded.write ⟨[], limit⟩).bind fun output =>
    some output.bytes) = some bytes at hbytes
  obtain ⟨output, houtput, hpure⟩ := Option.bind_eq_some_iff.mp hbytes
  obtain ⟨hwritten, hlength⟩ := foldlM_write houtput
  rw [← Option.some.inj hpure]
  exact ⟨hwritten, hlength (Nat.zero_le limit)⟩

/-- What `encode_bounded` writes, `decode` reads back at the same type, and no 64-bit integer of it
is a number; each place that a 64-bit integer is read at takes the canonical decimal strings of its
range and those numbers of its range that JavaScript holds exactly.

The types also have units and newtype structs, and there an option holds no value that is written as
null.  The depth is bounded by the parser only: a document that is nested too deeply for it does not
meet the hypothesis on `parse`. -/
theorem encodeBounded_decode (text : Text) (types : String → Ty) :
    (∀ (value : Data) (ty : Ty) (limit : Nat) (bytes : List UInt8), HasType types value ty →
      text.parse (text.print (tree value)) = some (tree value) →
      encodeBounded text value limit = some bytes →
        text.parse bytes = some (tree value) ∧ bytes.length ≤ limit ∧
        numbers (tree value) = (narrowIntegers value).map .num ∧
        ∃ bound, ∀ fuel ≥ bound, decode text types fuel ty bytes = some value) ∧
    ∀ (document : Json) (d : Deserializer),
      Reached Deserializer.ask (.safe (.json document)) d → ∃ part, d = .safe (.json part) ∧
        ∀ (fuel : Nat) (signed : Bool) (value : Data),
          deserialize Deserializer.ask types (fuel + 1) (.int signed .w64) d = some value ↔
            ∃ n, InRange signed .w64 n ∧ value = .int signed .w64 n ∧
              (part = .str (toString n) ∨ part = .num n ∧ n.natAbs ≤ Json.MAX_SAFE_INTEGER) := by
  constructor
  · intro value ty limit bytes htyped hparse hbytes
    obtain ⟨hprint, hlength⟩ := encodeBounded_eq_some htyped hbytes
    rw [← hprint] at hparse
    obtain ⟨bound, hread⟩ := reads htyped
    refine ⟨hparse, hlength, numbers_tree htyped, bound, fun fuel hfuel => ?_⟩
    unfold decode
    rw [hparse]
    exact hread fuel hfuel
  · intro document d hreached
    obtain ⟨part, rfl⟩ := reached_safe hreached
    exact ⟨part, rfl, fun fuel signed value => takes⟩

/-- An enum of one struct variant, with integers at each of its nestings. -/
def sampleTypes : String → Ty :=
  fun _ => .enum [("Values", .struct [("unsigned", .int false .w64), ("signed", .int true .w64),
    ("small", .int false .w32), ("nested", .seq (.option (.int false .w64)))])]

def sample : Data :=
  .structVariant "Values" [("unsigned", .int false .w64 18446744073709551615),
    ("signed", .int true .w64 (-9223372036854775808)), ("small", .int false .w32 17),
    ("nested", .seq [.some (.int false .w64 9007199254740993), .none])]

def sampleBytes : List UInt8 :=
  "\x7b\"Values\":\x7b\"unsigned\":\"18446744073709551615\",\"signed\":\"-9223372036854775808\",\"small\":17,\"nested\":[\"9007199254740993\",null]\x7d\x7d".toUTF8.data.toList

/-- A printer and parser of one document. -/
def single (text : List UInt8) (document : Json) : Text where
  pieces _ := [text]
  parse bytes := if bytes = text then some document else none

theorem single_parse (text : List UInt8) (document : Json) :
    (single text document).parse ((single text document).print document) = some document :=
  if_pos (List.append_nil text)

def sampleText : Text :=
  single sampleBytes (tree sample)

theorem sample_typed : HasType sampleTypes sample (.named "Sample") := by
  refine .named (.structVariant rfl rfl (by decide) ?_)
  have hitems : ∀ item ∈ [Data.some (.int false .w64 9007199254740993), .none],
      HasType sampleTypes item (.option (.int false .w64)) :=
    List.forall_mem_cons.mpr ⟨.some (.int (by decide)) rfl,
      List.forall_mem_cons.mpr ⟨.none _, List.forall_mem_nil _⟩⟩
  exact List.forall_mem_cons.mpr ⟨.int (by decide), List.forall_mem_cons.mpr ⟨.int (by decide),
    List.forall_mem_cons.mpr ⟨.int (by decide), List.forall_mem_cons.mpr ⟨.seq hitems,
      List.forall_mem_nil _⟩⟩⟩⟩

theorem encodeBounded_decode_sample :
    encodeBounded sampleText sample 256 = some sampleBytes ∧
      ∃ bound, ∀ fuel ≥ bound,
        decode sampleText sampleTypes fuel (.named "Sample") sampleBytes = some sample := by
  have hencode : encodeBounded sampleText sample 256 = some sampleBytes := by decide +kernel
  have hparse := single_parse sampleBytes (tree sample)
  exact ⟨hencode, ((encodeBounded_decode sampleText sampleTypes).1 sample (.named "Sample") 256 sampleBytes
    sample_typed hparse hencode).2.2.2⟩

/-- A negative number is no `u64`, however small. -/
theorem negative_at_u64 :
    ¬∀ (signed : Bool) (part : Json),
      (∃ value, deserialize Deserializer.ask sampleTypes 1 (.int signed .w64)
        (.safe (.json part)) = some value) ↔
        (∃ n, InRange signed .w64 n ∧ part = .str (toString n)) ∨
          ∃ n : Int, part = .num n ∧ n.natAbs ≤ Json.MAX_SAFE_INTEGER := by
  intro h
  obtain ⟨value, hvalue⟩ := (h false (.num (-1))).mpr (.inr ⟨-1, rfl, by decide⟩)
  obtain ⟨n, hrange, -, htext | ⟨hnumber, -⟩⟩ := takes.mp hvalue
  · exact nomatch htext
  · rw [← Json.num.inj hnumber] at hrange
    exact absurd hrange.nonneg (by decide)

end SafeJson

end BotaSdk
