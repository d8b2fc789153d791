import BotaSdk.Model

/-!
# Identifiers from texts

The constructors of `model/provisioning.rs` and `model/recording.rs`, and the hexadecimal texts.
-/

namespace BotaSdk

/-- `char::is_whitespace`: the property `White_Space`. -/
def isWhitespace (c : Char) : Bool :=
  (0x09 ≤ c.toNat ∧ c.toNat ≤ 0x0D) ∨ (0x2000 ≤ c.toNat ∧ c.toNat ≤ 0x200A) ∨
    c.toNat ∈ [0x20, 0x85, 0xA0, 0x1680, 0x2028, 0x2029, 0x202F, 0x205F, 0x3000]

/-- `validate_opaque_id`, under the label of its kind. -/
def validateOpaqueId (value label : String) : Except DeviceSdkError Unit :=
  if value.isEmpty ∨ 128 < value.utf8ByteSize ∨ value.toList.any isWhitespace then
    .error ((DeviceSdkError.new .invalidInput .validate false).withDetail
      s!"{label} must be 1-128 characters without whitespace")
  else .ok ()

def HostMaterialId.new (value : String) : Except DeviceSdkError HostMaterialId := do
  validateOpaqueId value "host material ID"
  return ⟨value⟩

def RecordingSinkId.new (value : String) : Except DeviceSdkError RecordingSinkId := do
  validateOpaqueId value "recording sink ID"
  return ⟨value⟩

/-! ## Hexadecimal texts -/

/-- One digit, of either case. -/
def hexDigit (byte : UInt8) : Option UInt8 :=
  if 0x30 ≤ byte ∧ byte ≤ 0x39 then some (byte - 0x30)
  else if 0x61 ≤ byte ∧ byte ≤ 0x66 then some (byte - 0x61 + 10)
  else if 0x41 ≤ byte ∧ byte ≤ 0x46 then some (byte - 0x41 + 10)
  else none

/-- The bytes that pairs of digits spell, high nibble first. -/
def hexBytes : List UInt8 → Option (List UInt8)
  | [] => some []
  | high :: low :: rest => do
    return ((← hexDigit high) <<< 4 ||| (← hexDigit low)) :: (← hexBytes rest)
  | [_] => none

def invalidRecordingUuid : DeviceSdkError :=
  (DeviceSdkError.new .invalidInput .validate false).withDetail
    "recording UUID must use the canonical 8-4-4-4-12 hexadecimal shape"

/-- `RecordingUuid::from_str`.  Dashes stand where the shape has them, and any others are dropped
before the digits are counted. -/
def RecordingUuid.parse (value : String) : Except DeviceSdkError RecordingUuid :=
  let text := value.toUTF8.toList
  if text.length ≠ 36 ∨ [8, 13, 18, 23].any (fun index => text.getD index 0 ≠ 0x2D) then
    .error invalidRecordingUuid
  else
    match hexBytes (text.filter (· ≠ 0x2D)) with
    | none => .error invalidRecordingUuid
    | some bytes =>
      if h : bytes.length = 16 then .ok ⟨⟨bytes, h⟩⟩ else .error invalidRecordingUuid

end BotaSdk
