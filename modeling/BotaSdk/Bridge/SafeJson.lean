import BotaSdk.Lib.Serde

/-!
# JSON without JavaScript numbers for 64-bit integers (`json.rs`)

A value is written through a serializer that turns its 64-bit integers into decimal strings, and read
through a deserializer that takes them back.  Both wrap themselves around every value inside.
-/

namespace BotaSdk

namespace SafeJson

open Serde

/-! ## Writing -/

/-- `serde_json::Serializer`, and `SafeSerializer` around a serializer. -/
inductive Serializer where
  | json
  | safe (inner : Serializer)

/-- `Serialize`: what a value writes with a serializer. -/
abbrev Serialize := Serializer → Option Json

/-- `Safe`. -/
def Safe (value : Serialize) : Serialize :=
  fun serializer => value (.safe serializer)

/-- The call that `SafeSerializer` makes on its inner serializer. -/
def safeSerializer : Call Serialize → Call Serialize
  | .bool value => .bool value
  | .int _ .w64 value => .str (toString value)
  | .int signed width value => .int signed width value
  | .str value => .str value
  | .unit => .unit
  | .none => .none
  | .some value => .some (Safe value)
  | .newtypeStruct value => .newtypeStruct (Safe value)
  | .seq items => .seq (items.map Safe)
  | .tuple items => .tuple (items.map Safe)
  | .map entries => .map (entries.map fun entry => (Safe entry.1, Safe entry.2))
  | .struct fields => .struct (fields.map fun field => (field.1, Safe field.2))
  | .unitVariant variant => .unitVariant variant
  | .newtypeVariant variant value => .newtypeVariant variant (Safe value)
  | .tupleVariant variant items => .tupleVariant variant (items.map Safe)
  | .structVariant variant fields =>
    .structVariant variant (fields.map fun field => (field.1, Safe field.2))

/-- A value written with `serde_json` itself. -/
def direct (value : Serialize) : Option Json :=
  value .json

def Serializer.run : Serializer → Call Serialize → Option Json
  | json, call => (call.traverse direct).bind SerdeJson.write
  | safe inner, call => inner.run (safeSerializer call)

def serialize (value : Data) : Serialize :=
  fold (fun call serializer => serializer.run call) value

/-- `serde_json` as text: the pieces that it writes a document in, and its parser. -/
structure Text where
  pieces : Json → List (List UInt8)
  parse : List UInt8 → Option Json

def Text.print (text : Text) (tree : Json) : List UInt8 :=
  (text.pieces tree).flatten

structure Bounded where
  bytes : List UInt8
  limit : Nat

def Bounded.write (self : Bounded) (bytes : List UInt8) : Option Bounded :=
  if bytes.length > self.limit - self.bytes.length then none
  else some { self with bytes := self.bytes ++ bytes }

def encodeBounded (text : Text) (value : Data) (limit : Nat) : Option (List UInt8) := do
  let tree ← Safe (serialize value) .json
  let output ← (text.pieces tree).foldlM Bounded.write ⟨[], limit⟩
  pure output.bytes

/-! ## Reading -/

/-- `serde_json::Deserializer` at a tree, and `SafeDeserializer` around a deserializer. -/
inductive Deserializer where
  | json (tree : Json)
  | safe (inner : Deserializer)

/-- `Access` and `Seed`: each part is read through a `SafeDeserializer`. -/
def access : Compound Deserializer → Compound Deserializer
  | .seq items => .seq (items.map .safe)
  | .map entries => .map (entries.map fun entry => (.safe entry.1, .safe entry.2))

/-- `Access` to the content of a variant. -/
def variantAccess (content : Content Deserializer) : Content Deserializer where
  unit := content.unit
  newtype := content.newtype.map .safe
  tuple := content.tuple.map access
  struct := content.struct.map access

/-- The call that `SafeVisitor` makes on its inner visitor. -/
def safeVisitor : Visit Deserializer → Visit Deserializer
  | .bool value => .bool value
  | .u64 value => .u64 value
  | .i64 value => .i64 value
  | .f64 bits => .f64 bits
  | .str value => .str value
  | .unit => .unit
  | .none => .none
  | .some value => .some (.safe value)
  | .newtypeStruct value => .newtypeStruct (.safe value)
  | .compound parts => .compound (access parts)
  | .enum tag content => .enum (.safe tag) (variantAccess content)

/-- Decimal digits, at least one. -/
def parseDigits (digits : List Char) : Option Int :=
  if digits ≠ [] ∧ digits.all Char.isDigit then some (Nat.ofDigitChars 10 digits 0) else none

/-- `str::parse`, for `i64` and for `u64`. -/
def parse (signed : Bool) (value : String) : Option Int :=
  let number := match value.toList with
    | '+' :: digits => parseDigits digits
    | '-' :: digits => if signed then (parseDigits digits).map (-·) else none
    | digits => parseDigits digits
  number.filter (InRange signed .w64 ·)

/-- `IntegerVisitor::visit_str`. -/
def visitDecimal (signed : Bool) (value : String) : Option (Visit Deserializer) := do
  let number ← parse signed value
  if toString number ≠ value then none
  else some (if signed then .i64 number else .u64 number.toNat)

/-- The call that `IntegerVisitor` makes on its inner visitor. -/
def integerVisitor (signed : Bool) : Visit Deserializer → Option (Visit Deserializer)
  | .str value => visitDecimal signed value
  | .u64 value => if value > Json.MAX_SAFE_INTEGER then none else some (.u64 value)
  | .i64 value => if value.natAbs > Json.MAX_SAFE_INTEGER then none else some (.i64 value)
  | _ => none

/-- The parts that `serde_json` hands out are its own deserializers. -/
def jsonCompound : Compound Json → Compound Deserializer
  | .seq items => .seq (items.map .json)
  | .map entries => .map (entries.map fun entry => (.json entry.1, .json entry.2))

def jsonVisit : Visit Json → Visit Deserializer
  | .bool value => .bool value
  | .u64 value => .u64 value
  | .i64 value => .i64 value
  | .f64 bits => .f64 bits
  | .str value => .str value
  | .unit => .unit
  | .none => .none
  | .some value => .some (.json value)
  | .newtypeStruct value => .newtypeStruct (.json value)
  | .compound parts => .compound (jsonCompound parts)
  | .enum tag content => .enum (.json tag)
      ⟨content.unit, content.newtype.map .json, content.tuple.map jsonCompound,
        content.struct.map jsonCompound⟩

def Deserializer.ask : Deserializer → Request → Option (Visit Deserializer)
  | json tree, request => (SerdeJson.read tree request).map jsonVisit
  | safe inner, .int signed .w64 => (inner.ask .any).bind (integerVisitor signed)
  | safe inner, request => (inner.ask request).map safeVisitor

/-- `decode` at a type; the fuel bounds how often a type is read inside of another. -/
def decode (text : Text) (types : String → Ty) (fuel : Nat) (ty : Ty) (bytes : List UInt8) :
    Option Data :=
  (text.parse bytes).bind fun tree =>
    deserialize Deserializer.ask types fuel ty (.safe (.json tree))

end SafeJson

end BotaSdk
