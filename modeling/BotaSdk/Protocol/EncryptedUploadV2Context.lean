import BotaSdk.Protocol.EncryptedUploadV2

/-!
# Encrypted upload v2 admission

`decode_encrypted_upload_v2_capabilities` of `protocol/encrypted_upload_v2.rs` and the admission
checks of `protocol/encrypted_upload_v2_context.rs`.
-/

namespace BotaSdk

namespace Protocol

def ENCRYPTED_UPLOAD_V2_CAPABILITY_ENCODING_VERSION : UInt8 := 1
def ENCRYPTED_UPLOAD_V2_CAPABILITY_FIXED_LENGTH : Nat := 24
def ENCRYPTED_UPLOAD_V2_CAP_KNOWN_MASK : UInt32 := 0x000003FF
def ENCRYPTED_UPLOAD_V2_CAP_CONTEXT_REQUIRED_MASK : Nat := 0x0000017F
def ENCRYPTED_UPLOAD_V2_CAP_RECOVERY_REQUIRED_MASK : Nat := 0x0000037F

end Protocol

open Protocol TransferV2

def decodeEncryptedUploadV2Capabilities (bytes : List UInt8) :
    Except DeviceSdkError EncryptedUploadV2Capabilities := do
  Cursor.requireExact bytes ENCRYPTED_UPLOAD_V2_CAPABILITY_FIXED_LENGTH
  requireVersion (← Cursor.u8 bytes 0) ENCRYPTED_UPLOAD_V2_CAPABILITY_ENCODING_VERSION
    "capability encoding version"
  requireVersion (← Cursor.u8 bytes 1) ENCRYPTED_UPLOAD_V2_TRANSFER_PROFILE_VERSION
    "highest transfer profile version"
  requireDeclaredLength (← Cursor.u16Le bytes 2) ENCRYPTED_UPLOAD_V2_CAPABILITY_FIXED_LENGTH
    "capability value length"
  let flags ← u32 bytes 4
  requireKnownBits flags ENCRYPTED_UPLOAD_V2_CAP_KNOWN_MASK "capability flags"
  requireZero (← Cursor.slice bytes 22 2) "capability reserved bytes"
  let maximumSignedBlobBytes ← Cursor.u16Le bytes 8
  let maximumManifestBytes ← Cursor.u16Le bytes 10
  let maximumDataPayloadBytes ← Cursor.u16Le bytes 12
  let maximumWindowPackets ← Cursor.u16Le bytes 14
  let durableCheckpointIntervalBlocks ← Cursor.u32Le bytes 16
  let maximumMissingSequences ← Cursor.u16Le bytes 20
  if maximumSignedBlobBytes < UPLOAD_AUTHORIZATION_V2_FIXED_LENGTH ∨
      maximumManifestBytes < UPLOAD_MANIFEST_V2_FIXED_LENGTH ∨ maximumDataPayloadBytes = 0 ∨
      maximumWindowPackets = 0 ∨ durableCheckpointIntervalBlocks = 0 ∨
      maximumMissingSequences = 0 then
    throw (invalidDecode "capability bounds are not usable")
  return {
    flags := flags.toNat
    maximumSignedBlobBytes
    maximumManifestBytes
    maximumDataPayloadBytes
    maximumWindowPackets
    durableCheckpointIntervalBlocks
    maximumMissingSequences }

def validateEncryptedUploadV2CapabilitiesAdmission (capabilities : EncryptedUploadV2Capabilities)
    (requireRecovery : Bool) : Except DeviceSdkError EncryptedUploadV2Capabilities :=
  let required := if requireRecovery then ENCRYPTED_UPLOAD_V2_CAP_RECOVERY_REQUIRED_MASK
    else ENCRYPTED_UPLOAD_V2_CAP_CONTEXT_REQUIRED_MASK
  if capabilities.flags &&& required ≠ required then
    .error ((DeviceSdkError.new .unsupportedCapability .validate false).withDetail
      "encrypted upload v2 admission capability missing")
  else .ok capabilities

def validateEncryptedUploadV2Admission (bytes : List UInt8) (requireRecovery : Bool) :
    Except DeviceSdkError EncryptedUploadV2Capabilities := do
  validateEncryptedUploadV2CapabilitiesAdmission (← decodeEncryptedUploadV2Capabilities bytes)
    requireRecovery

end BotaSdk
