import BotaSdk.Model
import BotaSdk.Protocol.Cursor

/-!
# Provisioning and factory-reset values

`parse_factory_reset_result` of `protocol/provisioning.rs` and `encode_bounded_payload` of
`protocol/encode.rs`.
-/

namespace BotaSdk

namespace Protocol

def SERVICE_BOTA_CONTROL : String := "B07A0002-0000-1000-8000-00805F9B34FB"
def CHAR_DEVICE_COMMAND : String := "B07A0002-0005-1000-8000-00805F9B34FB"
def SERVICE_BOTA_PROVISIONING : String := "B07A0003-0000-1000-8000-00805F9B34FB"
def CHAR_DEVICE_TOKEN : String := "B07A0003-0002-1000-8000-00805F9B34FB"
def CHAR_API_ENDPOINT : String := "B07A0003-0003-1000-8000-00805F9B34FB"
def CHAR_PROVISIONING_RESULT : String := "B07A0003-0005-1000-8000-00805F9B34FB"
def SERVICE_BOTA_AUTH : String := "B07A0005-0000-1000-8000-00805F9B34FB"
def CHAR_PK_D : String := "B07A0005-0001-1000-8000-00805F9B34FB"
def CHAR_AUTH_NONCE : String := "B07A0005-0002-1000-8000-00805F9B34FB"
def SERVICE_BOTA_CREDENTIAL : String := "B07A000A-0000-1000-8000-00805F9B34FB"
def CHAR_CREDENTIAL_ENVELOPE : String := "B07A000A-0001-1000-8000-00805F9B34FB"
def DEVICE_CMD_BLE_FACTORY_RESET : UInt8 := 0x06
def DEVICE_CMD_BLE_FACTORY_RESET_RESULT_ACK : UInt8 := 0x0A
def PROVISIONING_SUCCESS : UInt8 := 0x00
def FACTORY_RESET_GRANT_LENGTH : Nat := 179

end Protocol

open Protocol

def payloadTooLarge (length capacity : Nat) : DeviceSdkError :=
  (DeviceSdkError.new .payloadTooLarge .encode false).withDetail
    s!"payload has {length} bytes but capacity is {capacity}"

def encodeBoundedPayload (payload : List UInt8) (capacity : Nat) :
    Except DeviceSdkError (List UInt8) :=
  if capacity < payload.length then .error (payloadTooLarge payload.length capacity)
  else .ok payload

def parseFactoryResetResult (bytes : List UInt8) : Except DeviceSdkError FactoryResetResult := do
  Cursor.require bytes 3
  return {
    resultCode := (← Cursor.u8 bytes 0).toNat
    deletedRecordingCount := ← Cursor.u16Le bytes 1 }

/-- Three bytes are always a result. -/
theorem parseFactoryResetResult_ok {bytes : List UInt8} (h : bytes.length = 3) :
    ∃ result, parseFactoryResetResult bytes = .ok result := by
  rw [parseFactoryResetResult, Cursor.require_ok (Nat.le_of_eq h.symm), Cursor.u8_ok (by omega),
    Cursor.u16Le_ok (by omega)]
  exact ⟨_, rfl⟩

end BotaSdk
