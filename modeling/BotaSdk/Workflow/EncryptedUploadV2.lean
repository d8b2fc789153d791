import BotaSdk.Engine.Runtime
import BotaSdk.Protocol.EncryptedUploadV2

/-!
# Encrypted upload v2 (`workflow/encrypted_upload_v2.rs`, `model/upload_profile.rs`)

The batch coordinator decides which action each event leads to; the workflow around it turns
actions into host requests and checks that each event answers the request it waits for.
-/

namespace BotaSdk

namespace Protocol

def ENCRYPTED_UPLOAD_V2_STORAGE_HEADER_FIXED_LENGTH : Nat := 128
def ENCRYPTED_UPLOAD_V2_STORAGE_TRAILER_FIXED_LENGTH : Nat := 144
def ENCRYPTED_UPLOAD_V2_CAP_TRANSFER_FRAMING : Nat := 1
def ENCRYPTED_UPLOAD_V2_CAP_STORAGE : Nat := 2
def ENCRYPTED_UPLOAD_V2_CAP_FULL_RECORDING_IDENTITY : Nat := 4
def ENCRYPTED_UPLOAD_V2_CAP_DURABLE_RESUME : Nat := 8
def ENCRYPTED_UPLOAD_V2_CAP_AUTHENTICATED_MANIFEST : Nat := 16
def ENCRYPTED_UPLOAD_V2_CAP_AUTHENTICATED_RECEIPT : Nat := 32
def ENCRYPTED_UPLOAD_V2_CAP_BATCH : Nat := 64

end Protocol

open Protocol

/-! ## Upload profile selection -/

def supportsEncryptedUploadV2Batch (capabilities : EncryptedUploadV2Capabilities) : Bool :=
  let requiredFlags := ENCRYPTED_UPLOAD_V2_CAP_TRANSFER_FRAMING |||
    ENCRYPTED_UPLOAD_V2_CAP_STORAGE ||| ENCRYPTED_UPLOAD_V2_CAP_FULL_RECORDING_IDENTITY |||
    ENCRYPTED_UPLOAD_V2_CAP_DURABLE_RESUME ||| ENCRYPTED_UPLOAD_V2_CAP_AUTHENTICATED_MANIFEST |||
    ENCRYPTED_UPLOAD_V2_CAP_AUTHENTICATED_RECEIPT ||| ENCRYPTED_UPLOAD_V2_CAP_BATCH
  capabilities.flags &&& requiredFlags == requiredFlags &&
    decide (UPLOAD_AUTHORIZATION_V2_FIXED_LENGTH ≤ capabilities.maximumSignedBlobBytes) &&
    decide (UPLOAD_MANIFEST_V2_FIXED_LENGTH ≤ capabilities.maximumManifestBytes) &&
    decide (0 < capabilities.maximumDataPayloadBytes) &&
    decide (0 < capabilities.maximumWindowPackets) &&
    decide (0 < capabilities.durableCheckpointIntervalBlocks) &&
    decide (0 < capabilities.maximumMissingSequences)

def selectionError (code : ErrorCode) (detail : String) : DeviceSdkError :=
  (DeviceSdkError.new code .validate false).withDetail detail

def validateUploadProfileSelection (selection : UploadProfileSelection)
    (evidence : UploadProfileSelectionEvidence) : Except DeviceSdkError UploadProfileSelection :=
  if selection.policy = .v2Required ∧ selection.profile ≠ .encryptedUploadV2 then
    .error (selectionError .protocolRejected "encrypted_upload_v2_required")
  else
    match selection.profile with
    | .legacyPlainV1 =>
      if evidence.historicalP10HeaderObserved then
        .error (selectionError .protocolRejected "legacy_p10_relay_required")
      else .ok selection
    | .legacyP10Relay =>
      if ¬evidence.historicalP10HeaderObserved then
        .error (selectionError .protocolRejected "legacy_p10_relay_not_observed")
      else .ok selection
    | .encryptedUploadV2 =>
      if evidence.historicalP10HeaderObserved ∨ evidence.recordingGeneration.isNone ∨
          evidence.recordingStorageFormat ≠ some STORAGE_FORMAT_BOTA_ENC_V2 ∨
          ¬evidence.encryptedUploadV2Capabilities.any supportsEncryptedUploadV2Batch then
        .error (selectionError .unsupportedCapability "encrypted_upload_v2_unsupported")
      else .ok selection

namespace EncryptedUploadV2

inductive BatchEvent where
  | checkpointLoaded (checkpoint : Option EncryptedUploadV2Checkpoint)
  | sinkTruncated
  | sessionPrepared (authorizationSha256 : FixedBytes 32)
  | transferStarted
  | resumeRejected
  | windowStaged (checkpoint : EncryptedUploadV2Checkpoint) (missingSequences : List Nat)
  | checkpointSaved
  | windowAcknowledged (checkpoint : EncryptedUploadV2Checkpoint)
  | transferCompleted (evidence : EncryptedUploadV2TransferEvidence)
  | artifactsStaged
  | completionReceiptAccepted (receiptSha256 : FixedBytes 32)
  | recordingConfirmed
  | mixedProfile
  | failed (error : DeviceSdkError)
  | cancelled
  deriving DecidableEq

inductive Action where
  | loadCheckpoint
  | deleteCheckpoint
  | truncateSink (nextCiphertextOffset : Nat)
  | prepareSession
  | startTransfer (checkpoint : Option EncryptedUploadV2Checkpoint)
      (authorizationSha256 : FixedBytes 32)
  | repairWindow (missingSequences : List Nat)
  | saveCheckpoint (checkpoint : EncryptedUploadV2Checkpoint)
  | acknowledgeWindow (checkpoint : EncryptedUploadV2Checkpoint)
  | progress (completedUnits totalUnits : Nat)
  | stageArtifacts (evidence : EncryptedUploadV2TransferEvidence)
  | reportStaged (evidence : EncryptedUploadV2TransferEvidence)
  | awaitCompletionReceipt
  | confirmWithReceipt (receiptSha256 : FixedBytes 32)
  | abortV2
  | retainRecording
  | complete
  | cancelled
  | failed (error : DeviceSdkError)
  deriving DecidableEq

inductive BatchStatus where
  | ready
  | running
  | waitingForReceipt
  | completed
  | cancelled
  | failed
  deriving DecidableEq

inductive Phase where
  | ready
  | loadingCheckpoint
  | truncating
  | restartTruncating
  | preparing
  | starting
  | transferring
  | savingCheckpoint
  | acknowledgingWindow
  | staging
  | waitingForReceipt
  | confirming
  | completed
  | cancelled
  | failed
  deriving DecidableEq

def Phase.isTerminal : Phase → Bool
  | .completed | .cancelled | .failed => true
  | _ => false

def invalid (detail : String) : DeviceSdkError :=
  (DeviceSdkError.new .invalidInput .validate false).withDetail detail

def unexpected (detail : String) : DeviceSdkError :=
  (DeviceSdkError.new .unexpectedEvent .transferRecording false).withDetail detail

def protocolFailure (detail : String) : DeviceSdkError :=
  (DeviceSdkError.new .protocolRejected .transferRecording false).withDetail detail

/-- `values.windows(2).all(|pair| pair[0] < pair[1])`. -/
def strictlyIncreasing : List Nat → Bool
  | a :: b :: rest => decide (a < b) && strictlyIncreasing (b :: rest)
  | _ => true

end EncryptedUploadV2

open EncryptedUploadV2

/-! ## The batch coordinator -/

structure EncryptedUploadV2BatchCoordinator where
  request : EncryptedUploadV2BatchRequest
  phase : EncryptedUploadV2.Phase
  selectedCheckpoint : Option EncryptedUploadV2Checkpoint
  pendingCheckpoint : Option EncryptedUploadV2Checkpoint
  authorizationSha256 : Option (FixedBytes 32)
  transferEvidence : Option EncryptedUploadV2TransferEvidence
  deriving DecidableEq

namespace EncryptedUploadV2BatchCoordinator

def new (request : EncryptedUploadV2BatchRequest) :
    Except DeviceSdkError EncryptedUploadV2BatchCoordinator := do
  if request.selection.profile ≠ .encryptedUploadV2 then
    throw (invalid "encrypted_upload_v2_required_selection")
  let _ ← validateUploadProfileSelection request.selection
    { encryptedUploadV2Capabilities := some request.capabilities
      recordingGeneration := some request.recordingGeneration
      recordingStorageFormat := some request.storageFormat
      historicalP10HeaderObserved := false }
  if request.uploadSessionUuid = .replicate 16 0 ∨ request.transportSessionId = 0 ∨
      request.ownerRevision = 0 ∨ request.windowPackets = 0 ∨
      request.capabilities.maximumWindowPackets < request.windowPackets ∨
      request.dataPayloadBytes = 0 ∨
      request.capabilities.maximumDataPayloadBytes < request.dataPayloadBytes ∨
      request.ciphertextLength < ENCRYPTED_UPLOAD_V2_STORAGE_HEADER_FIXED_LENGTH +
        ENCRYPTED_UPLOAD_V2_STORAGE_TRAILER_FIXED_LENGTH then
    throw (invalid "encrypted upload v2 request parameters are not usable")
  return {
    request
    phase := .ready
    selectedCheckpoint := none
    pendingCheckpoint := none
    authorizationSha256 := none
    transferEvidence := none }

def status (c : EncryptedUploadV2BatchCoordinator) : BatchStatus :=
  match c.phase with
  | .ready => .ready
  | .waitingForReceipt => .waitingForReceipt
  | .completed => .completed
  | .cancelled => .cancelled
  | .failed => .failed
  | _ => .running

def start (c : EncryptedUploadV2BatchCoordinator) :
    EncryptedUploadV2BatchCoordinator × Outcome (List Action) :=
  if c.phase ≠ .ready then
    (c, .err (unexpected "encrypted upload v2 coordinator already started"))
  else if c.request.localWifi then ({ c with phase := .preparing }, .ok [.prepareSession])
  else ({ c with phase := .loadingCheckpoint }, .ok [.loadCheckpoint])

def checkpointIsUsable (c : EncryptedUploadV2BatchCoordinator)
    (checkpoint : EncryptedUploadV2Checkpoint) : Bool :=
  checkpoint.device = c.request.device &&
    checkpoint.recording = c.request.recording &&
    checkpoint.recordingGeneration = c.request.recordingGeneration &&
    checkpoint.uploadSessionUuid = c.request.uploadSessionUuid &&
    checkpoint.ownerRevision = c.request.ownerRevision &&
    checkpoint.transportSessionId = c.request.transportSessionId &&
    decide (checkpoint.nextCiphertextOffset ≤ c.request.ciphertextLength) &&
    checkpoint.windowPackets = c.request.windowPackets &&
    checkpoint.dataPayloadBytes = c.request.dataPayloadBytes

def checkpointIsMonotonic (c : EncryptedUploadV2BatchCoordinator)
    (checkpoint : EncryptedUploadV2Checkpoint) : Bool :=
  match c.selectedCheckpoint with
  | none => true
  | some current =>
    decide (current.checkpointRevision < checkpoint.checkpointRevision) &&
      decide (current.nextCiphertextOffset ≤ checkpoint.nextCiphertextOffset)

def fail (c : EncryptedUploadV2BatchCoordinator) (error : DeviceSdkError) :
    EncryptedUploadV2BatchCoordinator × Outcome (List Action) :=
  ({ c with phase := .failed }, .ok [.abortV2, .retainRecording, .failed error])

def checkpointMismatch : DeviceSdkError :=
  protocolFailure "encrypted_upload_v2_checkpoint_mismatch"

def evidenceMismatch : DeviceSdkError :=
  (DeviceSdkError.new .integrityFailed .transferRecording false).withDetail
    "encrypted_upload_v2_transfer_evidence_mismatch"

def dispatch (c : EncryptedUploadV2BatchCoordinator) (event : BatchEvent) :
    EncryptedUploadV2BatchCoordinator × Outcome (List Action) :=
  let reject := (c, Outcome.err
    (unexpected "event does not belong to the active encrypted upload v2 phase"))
  match event with
  | .failed error => if ¬c.phase.isTerminal then c.fail error else reject
  | .mixedProfile =>
    if ¬c.phase.isTerminal then c.fail (protocolFailure "encrypted_upload_v2_mixed_profile")
    else reject
  | .cancelled =>
    if ¬c.phase.isTerminal then
      ({ c with phase := .cancelled }, .ok [.abortV2, .retainRecording, .cancelled])
    else reject
  | .checkpointLoaded checkpoint =>
    if c.phase = .loadingCheckpoint then
      let selected := checkpoint.filter c.checkpointIsUsable
      ({ c with selectedCheckpoint := selected, phase := .truncating },
        .ok ((if checkpoint.isSome ∧ selected.isNone then [.deleteCheckpoint] else []) ++
          [.truncateSink (selected.elim 0 (·.nextCiphertextOffset))]))
    else reject
  | .sinkTruncated =>
    if c.phase = .truncating then ({ c with phase := .preparing }, .ok [.prepareSession])
    else if c.phase = .restartTruncating then
      match c.authorizationSha256 with
      | some authorization => ({ c with phase := .starting }, .ok [.startTransfer none authorization])
      | none => ({ c with phase := .starting }, .panicked)
    else reject
  | .sessionPrepared authorization =>
    if c.phase = .preparing then
      ({ c with authorizationSha256 := some authorization, phase := .starting },
        .ok [.startTransfer c.selectedCheckpoint authorization])
    else reject
  | .transferStarted =>
    if c.phase = .starting then ({ c with phase := .transferring }, .ok []) else reject
  | .resumeRejected =>
    if c.phase = .starting ∧ c.selectedCheckpoint.isSome then
      ({ c with
         selectedCheckpoint := none, pendingCheckpoint := none, phase := .restartTruncating },
        .ok [.deleteCheckpoint, .truncateSink 0])
    else reject
  | .windowStaged checkpoint missingSequences =>
    if c.phase = .transferring ∧ ¬c.request.localWifi then
      if ¬c.checkpointIsUsable checkpoint ∨ ¬c.checkpointIsMonotonic checkpoint ∨
          c.request.capabilities.maximumMissingSequences < missingSequences.length ∨
          ¬strictlyIncreasing missingSequences then
        c.fail checkpointMismatch
      else if missingSequences ≠ [] then (c, .ok [.repairWindow missingSequences])
      else
        ({ c with pendingCheckpoint := some checkpoint, phase := .savingCheckpoint },
          .ok [.saveCheckpoint checkpoint])
    else reject
  | .checkpointSaved =>
    if c.phase = .savingCheckpoint then
      match c.pendingCheckpoint with
      | some checkpoint =>
        ({ c with phase := .acknowledgingWindow }, .ok [.acknowledgeWindow checkpoint])
      | none => ({ c with phase := .acknowledgingWindow }, .panicked)
    else reject
  | .windowAcknowledged checkpoint =>
    if c.phase = .acknowledgingWindow then
      if c.pendingCheckpoint ≠ some checkpoint then c.fail checkpointMismatch
      else
        ({ c with
           selectedCheckpoint := some checkpoint, pendingCheckpoint := none
           phase := .transferring },
          .ok [.progress checkpoint.nextCiphertextOffset c.request.ciphertextLength])
    else reject
  | .transferCompleted evidence =>
    if c.phase = .transferring then
      if evidence.ciphertextLength ≠ c.request.ciphertextLength ∨
          evidence.ciphertextSha256 ≠ c.request.ciphertextSha256 ∨
          evidence.manifestLength ≠ UPLOAD_MANIFEST_V2_FIXED_LENGTH ∨
          evidence.blockCount = 0 then
        c.fail evidenceMismatch
      else
        ({ c with transferEvidence := some evidence, phase := .staging },
          .ok [.stageArtifacts evidence])
    else reject
  | .artifactsStaged =>
    if c.phase = .staging then
      match c.transferEvidence with
      | some evidence =>
        ({ c with phase := .waitingForReceipt },
          .ok [.reportStaged evidence, .awaitCompletionReceipt])
      | none => (c, .panicked)
    else reject
  | .completionReceiptAccepted receiptSha256 =>
    if c.phase = .waitingForReceipt then
      ({ c with phase := .confirming }, .ok [.confirmWithReceipt receiptSha256])
    else reject
  | .recordingConfirmed =>
    if c.phase = .confirming then
      ({ c with phase := .completed }, .ok [.deleteCheckpoint, .complete])
    else reject

end EncryptedUploadV2BatchCoordinator

/-! ## The workflow -/

structure EncryptedUploadV2Workflow where
  coordinator : EncryptedUploadV2BatchCoordinator
  cancellationId : CancellationId
  expectedRequestId : Option RequestId
  transferRequestId : Option RequestId
  terminalError : Option DeviceSdkError
  deriving DecidableEq

namespace EncryptedUploadV2Workflow

def new (request : EncryptedUploadV2BatchRequest) (cancellationId : CancellationId) :
    Except DeviceSdkError EncryptedUploadV2Workflow := do
  let coordinator ← EncryptedUploadV2BatchCoordinator.new request
  return {
    coordinator
    cancellationId
    expectedRequestId := none
    transferRequestId := none
    terminalError := none }

abbrev Call := Step EncryptedUploadV2Workflow

/-- The effect of an action: `ok none` for one that asks nothing of the host. -/
def hostEffect (c : EncryptedUploadV2BatchCoordinator) : Action → Outcome (Option Effect)
  | .loadCheckpoint =>
    .ok (some (.encryptedUploadV2 (.loadCheckpoint c.request.device c.request.recording
      c.request.recordingGeneration c.request.uploadSessionUuid c.request.ownerRevision)))
  | .deleteCheckpoint =>
    .ok (some (.encryptedUploadV2 (.deleteCheckpoint c.request.uploadSessionUuid)))
  | .truncateSink nextCiphertextOffset =>
    .ok (some (.encryptedUploadV2 (.truncateSink c.request.sinkId nextCiphertextOffset)))
  | .prepareSession => .ok (some (.encryptedUploadV2 (.prepareSession c.request.materialId)))
  | .startTransfer checkpoint authorizationSha256 =>
    .ok (some (.encryptedUploadV2 (.startTransfer c.request checkpoint authorizationSha256)))
  | .repairWindow missingSequences =>
    .ok (some (.encryptedUploadV2 (.repairWindow missingSequences)))
  | .saveCheckpoint checkpoint => .ok (some (.encryptedUploadV2 (.saveCheckpoint checkpoint)))
  | .acknowledgeWindow checkpoint =>
    .ok (some (.encryptedUploadV2 (.acknowledgeWindow checkpoint)))
  | .progress completedUnits totalUnits => .ok (some (.progress { completedUnits, totalUnits }))
  | .stageArtifacts evidence =>
    .ok (some (.encryptedUploadV2
      (.stageArtifacts c.request.sinkId c.request.materialId evidence)))
  | .reportStaged evidence =>
    .ok (some (.notify (.encryptedUploadV2Staged c.request.uploadSessionUuid
      c.request.ownerRevision evidence.ciphertextLength evidence.ciphertextSha256
      evidence.manifestLength evidence.manifestSha256)))
  | .awaitCompletionReceipt =>
    match c.transferEvidence with
    | some evidence =>
      .ok (some (.encryptedUploadV2 (.awaitCompletionReceipt c.request.materialId evidence)))
    | none => .panicked
  | .confirmWithReceipt receiptSha256 =>
    .ok (some (.encryptedUploadV2 (.confirmWithReceipt c.request.materialId receiptSha256)))
  | .abortV2 => .ok (some (.encryptedUploadV2 (.abortV2 c.request.materialId)))
  | .retainRecording => .ok none
  | .complete => .ok (some (.notify (.completed .transferRecording)))
  | .cancelled => .ok (some (.notify (.cancelled .transferRecording)))
  | .failed error => .ok (some (.notify (.failed error)))

def expectsResponse : Effect → Bool
  | .encryptedUploadV2 effect =>
    match effect with
    | .loadCheckpoint .. | .truncateSink .. | .prepareSession .. | .startTransfer ..
    | .repairWindow .. | .saveCheckpoint .. | .acknowledgeWindow .. | .stageArtifacts ..
    | .awaitCompletionReceipt .. | .confirmWithReceipt .. => true
    | .deleteCheckpoint .. | .abortV2 .. => false
  | _ => false

def isTransfer : Effect → Bool
  | .encryptedUploadV2 (.startTransfer ..) => true
  | _ => false

/-- The identifiers kept for the request of `effect`. -/
def track (effect : Effect) (id : RequestId) (w : EncryptedUploadV2Workflow) :
    EncryptedUploadV2Workflow :=
  { w with
    expectedRequestId := if expectsResponse effect then some id else w.expectedRequestId
    transferRequestId := if isTransfer effect then some id else w.transferRequestId }

/-- A failure is kept for the engine's status. -/
def recordError : Action → EncryptedUploadV2Workflow → EncryptedUploadV2Workflow
  | .failed error, w => { w with terminalError := some error }
  | _, w => w

def translate : List Action → Call → Outcome Call
  | [], call => .ok call
  | action :: rest, call =>
    match hostEffect call.workflow.coordinator action with
    | .ok none => translate rest call
    | .ok (some effect) =>
      translate rest ((call.update (recordError action)).request effect (track effect))
    | .err error => .err error
    | .panicked => .panicked

def coordinatorEvent : EncryptedUploadV2HostEvent → BatchEvent
  | .checkpointLoaded checkpoint => .checkpointLoaded checkpoint
  | .sinkTruncated => .sinkTruncated
  | .sessionPrepared authorizationSha256 => .sessionPrepared authorizationSha256
  | .transferStarted => .transferStarted
  | .resumeRejected => .resumeRejected
  | .windowStaged checkpoint missingSequences => .windowStaged checkpoint missingSequences
  | .checkpointSaved => .checkpointSaved
  | .windowAcknowledged checkpoint => .windowAcknowledged checkpoint
  | .transferCompleted evidence => .transferCompleted evidence
  | .artifactsStaged => .artifactsStaged
  | .completionReceiptAccepted receiptSha256 => .completionReceiptAccepted receiptSha256
  | .recordingConfirmed => .recordingConfirmed
  | .mixedProfile => .mixedProfile
  | .failed error => .failed error

def keepsTransferOpen : EncryptedUploadV2HostEvent → Bool
  | .transferStarted => true
  | _ => false

def restoresTransfer : EncryptedUploadV2HostEvent → Bool
  | .windowAcknowledged _ => true
  | _ => false

def endsTransfer : EncryptedUploadV2HostEvent → Bool
  | .transferCompleted _ | .resumeRejected | .mixedProfile | .failed _ => true
  | _ => false

/-- The request identifiers are dropped before the coordinator has accepted the event. -/
def release (event : EncryptedUploadV2HostEvent) (w : EncryptedUploadV2Workflow) :
    EncryptedUploadV2Workflow :=
  { w with
    expectedRequestId := if keepsTransferOpen event then w.expectedRequestId else none
    transferRequestId := if endsTransfer event then none else w.transferRequestId }

/-- The request the workflow goes on waiting for after an accepted event. -/
def reopen (event : EncryptedUploadV2HostEvent) (id : RequestId) (w : EncryptedUploadV2Workflow) :
    EncryptedUploadV2Workflow :=
  if keepsTransferOpen event then
    { w with expectedRequestId := some id, transferRequestId := some id }
  else if restoresTransfer event ∧ w.expectedRequestId = none then
    { w with expectedRequestId := w.transferRequestId }
  else w

def start (w : EncryptedUploadV2Workflow) (context : WorkflowContext) :
    Reduction EncryptedUploadV2Workflow :=
  let call := (Step.begin w context).request (.notify (.started .transferRecording))
  match w.coordinator.start with
  | (coordinator, .ok actions) =>
    match translate actions (call.update fun w => { w with coordinator }) with
    | .ok call => .ok call
    | _ => .panic w call.context
  | (_, _) => .panic w call.context

def dispatch (w : EncryptedUploadV2Workflow) (event : HostEvent) (context : WorkflowContext) :
    Reduction EncryptedUploadV2Workflow :=
  if some event.requestId ≠ w.expectedRequestId then
    .err w context
      (unexpected "encrypted upload v2 callback does not own the pending request")
  else
    match event.kind with
    | .encryptedUploadV2 hostEvent =>
      let released := release hostEvent w
      match w.coordinator.dispatch (coordinatorEvent hostEvent) with
      | (coordinator, .ok actions) =>
        match translate actions (Step.begin { released with coordinator } context) with
        | .ok call => .ok (call.update (reopen hostEvent event.requestId))
        | _ => .panic { released with coordinator } context
      | (coordinator, .err error) => .err { released with coordinator } context error
      | (coordinator, .panicked) => .panic { released with coordinator } context
    | _ =>
      .err w context
        (unexpected "encrypted upload v2 workflow received another host event kind")

def cancel (w : EncryptedUploadV2Workflow) (context : WorkflowContext) :
    Reduction EncryptedUploadV2Workflow :=
  let released := { w with expectedRequestId := none, transferRequestId := none }
  match w.coordinator.dispatch .cancelled with
  | (coordinator, .ok actions) =>
    match translate actions (Step.begin { released with coordinator } context) with
    | .ok call => .ok call
    | _ => .panic { released with coordinator } context
  | (coordinator, _) => .panic { released with coordinator } context

def terminalStatus (w : EncryptedUploadV2Workflow) : Outcome (Option WorkflowStatus) :=
  match w.coordinator.status with
  | .completed => .ok (some (.completed .transferRecording))
  | .cancelled => .ok (some (.cancelled .transferRecording))
  | .failed =>
    match w.terminalError with
    | some error => .ok (some (.failed error))
    | none => .panicked
  | .ready | .running | .waitingForReceipt => .ok none

instance : WorkflowReducer EncryptedUploadV2Workflow where
  start := start
  dispatch := dispatch
  cancel := cancel
  terminalStatus := terminalStatus
  cancellationId := (·.cancellationId)
  operation _ := .transferRecording

end EncryptedUploadV2Workflow

/-- `Command::TransferEncryptedRecording`. -/
structure TransferEncryptedRecording where
  request : EncryptedUploadV2BatchRequest
  deriving DecidableEq

instance : WorkflowCommand TransferEncryptedRecording EncryptedUploadV2Workflow where
  operation _ := .transferRecording
  requiredCapabilitySlice _ :=
    [.ble, .persistence, .progress, .hostMaterial, .recordingSink, .networkTransfer]
  create command cancellationId := EncryptedUploadV2Workflow.new command.request cancellationId

end BotaSdk
