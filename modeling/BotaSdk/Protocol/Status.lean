import BotaSdk.Protocol.Transfer

/-!
# Device status and upload triggers

`parse_device_status` of `protocol/status.rs`, as far as an upload handoff reads it, and
`parse_trigger_upload_response` of `protocol/recordings.rs`.
-/

namespace BotaSdk

namespace Protocol

def CHAR_DEVICE_STATUS : String := "B07A0002-0001-1000-8000-00805F9B34FB"
def DEVICE_STATUS_MINIMUM_LENGTH : Nat := 14
def FLAG_CHARGING : UInt8 := 0x01
def FLAG_LOW_BATTERY : UInt8 := 0x02
def FLAG_STORAGE_FULL : UInt8 := 0x04
def FLAG_WIFI_CONNECTED : UInt8 := 0x08
def FLAG_LTE_CONNECTED : UInt8 := 0x10
def FLAG_SYNC_ACTIVE : UInt8 := 0x20
def TRIGGER_UPLOAD_ACCEPTED : UInt8 := 0x00
def TRIGGER_UPLOAD_BUSY : UInt8 := 0x02

end Protocol

open Protocol

structure DeviceFlags where
  charging : Bool
  lowBattery : Bool
  storageFull : Bool
  wifiConnected : Bool
  lteConnected : Bool
  syncActive : Bool
  deriving DecidableEq

structure DeviceStatus where
  pendingRecordings : UInt8
  flags : DeviceFlags
  deriving DecidableEq

/-- Every read of the source lies within the required length or is guarded. -/
def parseDeviceStatus (bytes : List UInt8) : Except DeviceSdkError DeviceStatus := do
  Cursor.require bytes DEVICE_STATUS_MINIMUM_LENGTH
  let flags ← Cursor.u8 bytes 8
  let has (flag : UInt8) : Bool := flags &&& flag ≠ 0
  return {
    pendingRecordings := ← Cursor.u8 bytes 3
    flags := {
      charging := has FLAG_CHARGING
      lowBattery := has FLAG_LOW_BATTERY
      storageFull := has FLAG_STORAGE_FULL
      wifiConnected := has FLAG_WIFI_CONNECTED
      lteConnected := has FLAG_LTE_CONNECTED
      syncActive := has FLAG_SYNC_ACTIVE } }

structure TriggerUploadResponse where
  accepted : Bool
  errorCode : Option UInt8
  deriving DecidableEq

def parseTriggerUploadResponse (bytes : List UInt8) :
    Except DeviceSdkError (Option TriggerUploadResponse) := do
  if bytes.length < 2 then return none
  if (← Cursor.u8 bytes 0) ≠ TRANSFER_CMD_TRIGGER_DEVICE_UPLOAD then return none
  let code ← Cursor.u8 bytes 1
  return some {
    accepted := code = TRIGGER_UPLOAD_ACCEPTED
    errorCode := if code ≠ TRIGGER_UPLOAD_ACCEPTED then some code else none }

end BotaSdk
