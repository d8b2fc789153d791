import BotaSdk.Error

/-!
# Identifiers and values of `model/`
-/

namespace BotaSdk

/-- A byte array of fixed length, as `[u8; n]`. -/
abbrev FixedBytes (n : Nat) := { bytes : List UInt8 // bytes.length = n }

def FixedBytes.replicate (n : Nat) (byte : UInt8) : FixedBytes n :=
  ⟨List.replicate n byte, List.length_replicate⟩

structure DeviceSerialNumber where
  value : String
  deriving DecidableEq

/-- `DeviceSerialNumber::new`. -/
def DeviceSerialNumber.new (value : String) : Except DeviceSdkError DeviceSerialNumber :=
  if value.isEmpty ∨ 64 < value.utf8ByteSize ∨ ¬value.toList.all (·.isAlphanum) then
    .error ((DeviceSdkError.new .invalidInput .validate false).withDetail
      "serial number must be 1-64 ASCII alphanumeric characters")
  else .ok ⟨value⟩

structure RecordingUuid where
  bytes : FixedBytes 16
  deriving DecidableEq

structure RecordingSinkId where
  value : String
  deriving DecidableEq

structure HostMaterialId where
  value : String
  deriving DecidableEq

structure FactoryResetCommandId where
  value : String
  deriving DecidableEq

structure UploadSessionId where
  value : String
  deriving DecidableEq

structure UploadDestinationId where
  value : String
  deriving DecidableEq

structure CancellationId where
  bytes : FixedBytes 16
  deriving DecidableEq

structure ProvisioningNonce where
  bytes : FixedBytes 16
  deriving DecidableEq

structure DevicePublicKey where
  bytes : List UInt8
  deriving DecidableEq

structure FactoryResetResult where
  resultCode : Nat
  deletedRecordingCount : Nat
  deriving DecidableEq

structure DurableFactoryResetResult where
  commandId : FactoryResetCommandId
  result : FactoryResetResult
  deriving DecidableEq

structure ProvisioningMaterial where
  apiEndpoint : List UInt8
  deviceToken : List UInt8
  credentialEnvelope : Option (List UInt8)
  mtu : Nat
  deriving DecidableEq

structure DeviceCandidate where
  peripheralId : String
  name : Option String
  advertisedAddress : Option String
  rssi : Int
  deriving DecidableEq

structure ReconnectHint where
  storedPeripheralId : Option String := none
  advertisedAddress : Option String := none
  storedName : Option String := none
  scanTimeoutMs : Nat := 5000
  connectionTimeoutMs : Nat := 15000
  deriving DecidableEq

def isAsciiHexdigit (character : Char) : Bool :=
  character.isDigit || ('a' ≤ character && character ≤ 'f') || ('A' ≤ character && character ≤ 'F')

def normalizeAdvertisedAddress (value : String) : Option String :=
  let normalized := (value.toList.filter isAsciiHexdigit).map Char.toLower
  if normalized.length = 12 then some (String.ofList normalized) else none

def DeviceCandidate.normalizedAdvertisedAddress (candidate : DeviceCandidate) : Option String :=
  candidate.advertisedAddress.bind normalizeAdvertisedAddress

def ReconnectHint.normalizedAdvertisedAddress (hint : ReconnectHint) : Option String :=
  hint.advertisedAddress.bind normalizeAdvertisedAddress

structure FirmwareImage where
  version : String
  sizeBytes : UInt32
  crc32 : Nat
  deriving DecidableEq

inductive ConnectionMode where
  | manual
  | reconnect
  deriving DecidableEq

inductive FirmwareUpdatePhase where
  | downloading
  | awaitingDevice
  | transferring
  | verifying
  | rebooting
  | reconnecting
  | complete
  deriving DecidableEq

structure FirmwareUpdateProgress where
  phase : FirmwareUpdatePhase
  completedBytes : Nat
  totalBytes : Nat
  deriving DecidableEq

structure DeviceLogEvent where
  message : String
  isBacklog : Bool
  deriving DecidableEq

/-! ## Upload profiles -/

inductive RecordingUploadProfile where
  | legacyPlainV1
  | legacyP10Relay
  | encryptedUploadV2
  deriving DecidableEq

inductive UploadSecurityPolicy where
  | legacyAllowed
  | v2Preferred
  | v2Required
  deriving DecidableEq

structure UploadProfileSelection where
  policy : UploadSecurityPolicy
  profile : RecordingUploadProfile
  deriving DecidableEq

structure EncryptedUploadV2Capabilities where
  flags : Nat
  maximumSignedBlobBytes : Nat
  maximumManifestBytes : Nat
  maximumDataPayloadBytes : Nat
  maximumWindowPackets : Nat
  durableCheckpointIntervalBlocks : Nat
  maximumMissingSequences : Nat
  deriving DecidableEq

structure UploadProfileSelectionEvidence where
  encryptedUploadV2Capabilities : Option EncryptedUploadV2Capabilities
  recordingGeneration : Option Nat
  recordingStorageFormat : Option Nat
  historicalP10HeaderObserved : Bool
  deriving DecidableEq

/-! ## Encrypted upload v2 -/

structure EncryptedUploadV2BatchRequest where
  localWifi : Bool
  device : DeviceSerialNumber
  recording : RecordingUuid
  recordingGeneration : Nat
  storageFormat : Nat
  uploadSessionUuid : FixedBytes 16
  ownerRevision : Nat
  transportSessionId : Nat
  materialId : HostMaterialId
  sinkId : RecordingSinkId
  selection : UploadProfileSelection
  capabilities : EncryptedUploadV2Capabilities
  windowPackets : Nat
  dataPayloadBytes : Nat
  ciphertextLength : Nat
  ciphertextSha256 : FixedBytes 32
  deriving DecidableEq

structure EncryptedUploadV2Checkpoint where
  device : DeviceSerialNumber
  recording : RecordingUuid
  recordingGeneration : Nat
  uploadSessionUuid : FixedBytes 16
  ownerRevision : Nat
  transportSessionId : Nat
  checkpointRevision : Nat
  nextCiphertextOffset : Nat
  prefixSha256 : FixedBytes 32
  windowPackets : Nat
  dataPayloadBytes : Nat
  deriving DecidableEq

structure EncryptedUploadV2TransferEvidence where
  ciphertextLength : Nat
  ciphertextSha256 : FixedBytes 32
  manifestLength : Nat
  manifestSha256 : FixedBytes 32
  blockCount : Nat
  deriving DecidableEq

end BotaSdk
