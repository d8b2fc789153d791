import BotaSdk.Protocol.EncryptedUploadV2

/-!
# Local Wi-Fi frames (`protocol/local_wifi.rs`)
-/

namespace BotaSdk

namespace Protocol

def LOCAL_WIFI_VERSION : UInt8 := 2
def LOCAL_WIFI_REQUIRED_FLAGS : UInt8 := 0x1F
def LOCAL_WIFI_MINIMUM_ATT_MTU : Nat := 185
def LOCAL_WIFI_CAPABILITIES_BYTES : Nat := 16
def LOCAL_WIFI_CONTROL_BYTES : Nat := 182
def LOCAL_WIFI_FINISH : UInt8 := 0x31
def LOCAL_WIFI_PREPARE : UInt8 := 0x30
def LOCAL_WIFI_PREPARED : UInt8 := 0xB0
def LOCAL_WIFI_EOF : UInt8 := 0xB1
def LOCAL_WIFI_EVENT_BYTES : Nat := 182
def LOCAL_WIFI_EVIDENCE_BYTES : Nat := 128
def LOCAL_WIFI_FINISH_BYTES : Nat := 124
def LOCAL_WIFI_PREPARE_BYTES : Nat := 84

end Protocol

open Protocol

structure LocalWifiCapabilities where
  bandMask : UInt8
  deriving DecidableEq

structure LocalWifiPrepare where
  transportSessionId : UInt64
  uploadSessionUuid : FixedBytes 16
  recordingUuid : FixedBytes 16
  recordingGeneration : UInt32
  authorizationSha256 : FixedBytes 32
  ownerRevision : UInt32
  deriving DecidableEq

structure LocalWifiEvidence where
  common : CommonHeaderV2
  uploadSessionUuid : FixedBytes 16
  recordingUuid : FixedBytes 16
  recordingGeneration : UInt32
  ownerRevision : UInt32
  ciphertextLength : UInt64
  ciphertextSha256 : FixedBytes 32
  manifestSha256 : FixedBytes 32
  blockCount : UInt32
  deriving DecidableEq

namespace LocalWifi

open TransferV2

def invalid : DeviceSdkError :=
  (DeviceSdkError.new .invalidInput .decode false).withDetail "invalid local WiFi frame"

def decodeLocalWifiCapabilities (bytes : List UInt8) (attMtu : Nat) :
    Except DeviceSdkError LocalWifiCapabilities := do
  Cursor.requireExact bytes LOCAL_WIFI_CAPABILITIES_BYTES
  if (← Cursor.u8 bytes 0) ≠ LOCAL_WIFI_VERSION then throw invalid
  if (← Cursor.u8 bytes 1) ≠ LOCAL_WIFI_VERSION then throw invalid
  if (← Cursor.u16Le bytes 2) ≠ 16 then throw invalid
  if (← Cursor.u32Le bytes 4) ≠ LOCAL_WIFI_REQUIRED_FLAGS.toNat then throw invalid
  let bandMask ← Cursor.u8 bytes 8
  if bandMask < 1 ∨ 3 < bandMask then throw invalid
  if (← Cursor.u8 bytes 9) ≠ 0 then throw invalid
  if (← Cursor.u16Le bytes 10) ≠ LOCAL_WIFI_MINIMUM_ATT_MTU then throw invalid
  if (← Cursor.u16Le bytes 12) ≠ LOCAL_WIFI_CONTROL_BYTES then throw invalid
  if (← Cursor.u16Le bytes 14) ≠ LOCAL_WIFI_EVENT_BYTES then throw invalid
  if attMtu < LOCAL_WIFI_MINIMUM_ATT_MTU then throw invalid
  return { bandMask }

def header (messageType : UInt8) (transportSessionId : UInt64) (length : Nat) :
    Except DeviceSdkError (List UInt8) :=
  encodeCommonFixed { messageType, flags := 0, transportSessionId } messageType length

def encodeLocalWifiPrepare (value : LocalWifiPrepare) : Except DeviceSdkError (List UInt8) := do
  if value.ownerRevision = 0 ∨ value.uploadSessionUuid = FixedBytes.replicate 16 0 ∨
      value.recordingUuid = FixedBytes.replicate 16 0 then
    throw invalid
  let b ← header LOCAL_WIFI_PREPARE value.transportSessionId LOCAL_WIFI_PREPARE_BYTES
  let b := putFixed b 12 value.uploadSessionUuid
  let b := putFixed b 28 value.recordingUuid
  let b := putU32 b 44 value.recordingGeneration
  let b := putFixed b 48 value.authorizationSha256
  return putU32 b 80 value.ownerRevision

def validateEvidence (value : LocalWifiEvidence) : Except DeviceSdkError Unit :=
  if value.uploadSessionUuid = FixedBytes.replicate 16 0 ∨
      value.recordingUuid = FixedBytes.replicate 16 0 ∨ value.ownerRevision = 0 ∨
      value.ciphertextLength = 0 ∨ value.blockCount = 0 then
    .error invalid
  else .ok ()

def decodeLocalWifiEvidence (bytes : List UInt8) : Except DeviceSdkError LocalWifiEvidence := do
  Cursor.requireExact bytes LOCAL_WIFI_EVIDENCE_BYTES
  let message ← Cursor.u8 bytes 0
  if message ≠ LOCAL_WIFI_PREPARED ∧ message ≠ LOCAL_WIFI_EOF then throw invalid
  let value : LocalWifiEvidence := {
    common := ← decodeCommon bytes message
    uploadSessionUuid := ← fixed 16 bytes 12
    recordingUuid := ← fixed 16 bytes 28
    recordingGeneration := ← u32 bytes 44
    ownerRevision := ← u32 bytes 48
    ciphertextLength := ← u64 bytes 52
    ciphertextSha256 := ← fixed 32 bytes 60
    manifestSha256 := ← fixed 32 bytes 92
    blockCount := ← u32 bytes 124 }
  validateEvidence value
  return value

def encodeLocalWifiFinish (sessionId : UInt64) (value : LocalWifiEvidence) :
    Except DeviceSdkError (List UInt8) := do
  validateEvidence value
  if sessionId ≠ value.common.transportSessionId then throw invalid
  let b ← header LOCAL_WIFI_FINISH sessionId LOCAL_WIFI_FINISH_BYTES
  let b := putFixed b 12 value.uploadSessionUuid
  let b := putFixed b 28 value.recordingUuid
  let b := putU32 b 44 value.recordingGeneration
  let b := putU32 b 48 value.ownerRevision
  let b := putU64 b 52 value.ciphertextLength
  let b := putFixed b 60 value.ciphertextSha256
  return putFixed b 92 value.manifestSha256

end LocalWifi

end BotaSdk
