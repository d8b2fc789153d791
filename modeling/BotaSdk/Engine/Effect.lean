import BotaSdk.Model

/-!
# Effects, events and notifications

What the engine asks of the host (`engine/effect.rs`, `engine/output.rs`) and what the host
answers (`engine/event.rs`).  Integers of the source are natural numbers, platform codes integers.
-/

namespace BotaSdk

/-- `RequestId(u64)`. -/
abbrev RequestId := Nat

instance : LawfulBEq (Option RequestId) := inferInstance

inductive WorkflowKind where
  | discovery
  | connection
  | provisioning
  | recordingTransfer
  | recordingUpload
  | firmwareUpdate
  | deviceLogs
  | factoryReset
  deriving DecidableEq

inductive CheckpointPhase where
  | pending
  | connecting
  | transferring
  | uploading
  | verifying
  | reconnecting
  | awaitingReceipt
  deriving DecidableEq

structure WorkflowCheckpoint where
  workflow : WorkflowKind
  operation : Operation
  device : DeviceSerialNumber
  recording : Option RecordingUuid
  phase : CheckpointPhase
  completedUnits : Nat
  retryCount : Nat
  lastSequence : Option Nat
  firmwareVersion : Option String
  deriving DecidableEq

inductive WorkflowStatus where
  | idle
  | running (operation : Operation) (cancellationId : CancellationId)
  | completed (operation : Operation)
  | cancelled (operation : Operation)
  | failed (error : DeviceSdkError)
  deriving DecidableEq

inductive WorkflowNotification where
  | started (operation : Operation)
  | deviceDiscovered (candidate : DeviceCandidate)
  | connectionEstablished (device : DeviceSerialNumber) (candidate : DeviceCandidate)
      (mode : ConnectionMode)
  | progress (operation : Operation) (completedUnits totalUnits : Nat)
  | retrying (operation : Operation) (attempt : Nat)
  | deviceUploadPreserved (uploadId : UploadSessionId)
  | bleFallbackReady (recording : RecordingUuid) (uploadId : UploadSessionId)
      (destinationId : UploadDestinationId)
  | firmwareProgress (progress : FirmwareUpdateProgress)
  | deviceLog (event : DeviceLogEvent)
  | recordingTransferCompleted (encrypted : Bool) (sha256 : Option (List UInt8))
  | streamingPaused (completedUnits : Nat)
  | streamingResumed
  | streamingCompleted (totalUnits uploadedChunks : Nat) (encrypted : Bool)
  | encryptedUploadV2Staged (uploadSessionUuid : FixedBytes 16) (ownerRevision ciphertextLength : Nat)
      (ciphertextSha256 : FixedBytes 32) (manifestLength : Nat) (manifestSha256 : FixedBytes 32)
  | completed (operation : Operation)
  | cancelled (operation : Operation)
  | failed (error : DeviceSdkError)
  deriving DecidableEq

/-! ## Effects -/

inductive TimerEffect where
  | schedule (timerId delayMs : Nat)
  | cancel (timerId : Nat)
  deriving DecidableEq

inductive PersistenceEffect where
  | loadCheckpoint
  | saveCheckpoint (checkpoint : WorkflowCheckpoint)
  | deleteCheckpoint
  | saveConnectionIdentity (device : DeviceSerialNumber) (candidate : DeviceCandidate)
  | saveFactoryResetResult (result : DurableFactoryResetResult)
  | deleteFactoryResetResult (commandId : FactoryResetCommandId)
  deriving DecidableEq

inductive SecureStorageEffect where
  | read (key : String)
  | write (key : String) (value : List UInt8)
  | delete (key : String)
  deriving DecidableEq

inductive BleEffect where
  | startScan (allowDuplicates : Bool)
  | stopScan
  | connect (peripheralId : String)
  | discoverServices (peripheralId : String)
  | disconnect (peripheralId : String)
  | read (serviceUuid characteristicUuid : String)
  | write (serviceUuid characteristicUuid : String) (payload : List UInt8) (withResponse : Bool)
  | subscribe (serviceUuid characteristicUuid : String)
  | unsubscribe (serviceUuid characteristicUuid : String)
  deriving DecidableEq

inductive UploadSource where
  | hostFile
  | recordingTransfer
  deriving DecidableEq

inductive NetworkEffect where
  | download (downloadId : Nat)
  | upload (uploadId : Nat) (source : UploadSource)
  deriving DecidableEq

structure ProgressEffect where
  completedUnits : Nat
  totalUnits : Nat
  deriving DecidableEq

inductive HostMaterialEffect where
  | prepareProvisioning (materialId : HostMaterialId) (device : DeviceSerialNumber)
      (nonce : ProvisioningNonce) (devicePublicKey : DevicePublicKey)
  | prepareFactoryResetGrant (grantId : HostMaterialId) (device : DeviceSerialNumber)
      (nonce : ProvisioningNonce)
  deriving DecidableEq

inductive RecordingSinkEffect where
  | truncate (sinkId : RecordingSinkId) (completedUnits : Nat)
  | append (sinkId : RecordingSinkId) (sequence : Nat) (payload : List UInt8)
  | finalize (sinkId : RecordingSinkId) (expectedCrc32 : Option Nat)
  | discard (sinkId : RecordingSinkId)
  | appendStreamingPlaintext (sinkId : RecordingSinkId) (sequence : Nat) (payload : List UInt8)
  | beginStreamingEncrypted (sinkId : RecordingSinkId) (ephemeralPublicKey salt : List UInt8)
  | appendStreamingEncrypted (sinkId : RecordingSinkId) (sequence : Nat) (payload : List UInt8)
  | finalizeStreaming (sinkId : RecordingSinkId) (encrypted : Bool) (expectedChunks totalUnits : Nat)
  | discardStreaming (sinkId : RecordingSinkId)
  deriving DecidableEq

inductive FirmwareBlobEffect where
  | readChunk (downloadId offset maxLength : Nat)
  deriving DecidableEq

inductive EncryptedUploadV2HostEffect where
  | loadCheckpoint (device : DeviceSerialNumber) (recording : RecordingUuid)
      (recordingGeneration : Nat) (uploadSessionUuid : FixedBytes 16) (ownerRevision : Nat)
  | deleteCheckpoint (uploadSessionUuid : FixedBytes 16)
  | truncateSink (sinkId : RecordingSinkId) (nextCiphertextOffset : Nat)
  | prepareSession (materialId : HostMaterialId)
  | startTransfer (request : EncryptedUploadV2BatchRequest)
      (checkpoint : Option EncryptedUploadV2Checkpoint) (authorizationSha256 : FixedBytes 32)
  | repairWindow (missingSequences : List Nat)
  | saveCheckpoint (checkpoint : EncryptedUploadV2Checkpoint)
  | acknowledgeWindow (checkpoint : EncryptedUploadV2Checkpoint)
  | stageArtifacts (sinkId : RecordingSinkId) (materialId : HostMaterialId)
      (evidence : EncryptedUploadV2TransferEvidence)
  | awaitCompletionReceipt (materialId : HostMaterialId)
      (evidence : EncryptedUploadV2TransferEvidence)
  | confirmWithReceipt (materialId : HostMaterialId) (receiptSha256 : FixedBytes 32)
  | abortV2 (materialId : HostMaterialId)
  deriving DecidableEq

inductive Effect where
  | timer (effect : TimerEffect)
  | persistence (effect : PersistenceEffect)
  | secureStorage (effect : SecureStorageEffect)
  | ble (effect : BleEffect)
  | network (effect : NetworkEffect)
  | progress (effect : ProgressEffect)
  | notify (notification : WorkflowNotification)
  | hostMaterial (effect : HostMaterialEffect)
  | recordingSink (effect : RecordingSinkEffect)
  | firmwareBlob (effect : FirmwareBlobEffect)
  | encryptedUploadV2 (effect : EncryptedUploadV2HostEffect)
  deriving DecidableEq

structure EffectRequest where
  requestId : RequestId
  operation : Operation
  cancellationId : CancellationId
  effect : Effect
  deriving DecidableEq

/-! ## Events -/

inductive BleEvent where
  | scanResult (candidate : DeviceCandidate)
  | scanStopped
  | connected (peripheralId : String)
  | servicesDiscovered (peripheralId : String)
  | subscribed (characteristicUuid : String)
  | disconnected (peripheralId : String) (reasonCode : Option Nat)
  | readCompleted (value : List UInt8)
  | writeCompleted
  | notification (characteristicUuid : String) (value : List UInt8)
  | failed (platformCode : Option Int)
  deriving DecidableEq

inductive NetworkEvent where
  | downloadProgress (downloadId completedBytes : Nat) (totalBytes : Option Nat)
  | downloadCompleted (downloadId crc32 : Nat)
  | uploadProgress (uploadId completedBytes totalBytes : Nat)
  | uploadCompleted (uploadId : Nat)
  | failed (transferId : Nat) (statusCode : Option Nat)
  deriving DecidableEq

inductive EncryptedUploadV2HostEvent where
  | checkpointLoaded (checkpoint : Option EncryptedUploadV2Checkpoint)
  | sinkTruncated
  | sessionPrepared (authorizationSha256 : FixedBytes 32)
  | transferStarted
  | resumeRejected
  | windowStaged (checkpoint : EncryptedUploadV2Checkpoint) (missingSequences : List Nat)
  | checkpointSaved
  | windowAcknowledged (checkpoint : EncryptedUploadV2Checkpoint)
  | transferCompleted (evidence : EncryptedUploadV2TransferEvidence)
  | artifactsStaged
  | completionReceiptAccepted (receiptSha256 : FixedBytes 32)
  | recordingConfirmed
  | mixedProfile
  | failed (error : DeviceSdkError)
  deriving DecidableEq

inductive HostEventKind where
  | ble (event : BleEvent)
  | timerFired (timerId : Nat)
  | checkpointLoaded (checkpoint : Option WorkflowCheckpoint)
  | checkpointSaved
  | connectionIdentitySaved
  | factoryResetResultSaved
  | factoryResetResultDeleted
  | persistenceFailed (platformCode : Option Int)
  | provisioningMaterialPrepared (material : ProvisioningMaterial)
  | factoryResetGrantPrepared (grant : List UInt8)
  | hostMaterialFailed (platformCode : Option Int)
  | recordingSinkTruncated
  | recordingSinkAppendCompleted (durableUnits : Nat)
  | recordingSinkFinalized (durableUnits : Nat)
  | recordingSinkIntegrityFailed
  | recordingSinkFailed (platformCode : Option Int)
  | streamingSinkAccepted (receivedUnits : Nat)
  | streamingSinkFinalized (uploadedChunks totalUnits : Nat)
  | streamingSinkFailed (platformCode : Option Int)
  | firmwareChunkRead (downloadId offset : Nat) (bytes : List UInt8)
  | firmwareBlobFailed (platformCode : Option Int)
  | secretLoaded (key : String) (value : Option (List UInt8))
  | secretStored (key : String)
  | network (event : NetworkEvent)
  | encryptedUploadV2 (event : EncryptedUploadV2HostEvent)
  deriving DecidableEq

structure HostEvent where
  requestId : RequestId
  kind : HostEventKind
  deriving DecidableEq

inductive Event where
  | host (event : HostEvent)
  | cancelled (cancellationId : CancellationId)
  deriving DecidableEq

end BotaSdk
