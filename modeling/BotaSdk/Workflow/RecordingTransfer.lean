import BotaSdk.Engine.Runtime
import BotaSdk.Protocol.Transfer
import Mathlib.Data.Finset.Basic

/-!
# Batch recording transfer (`workflow/recording_transfer.rs`)

Notifications that arrive while the START write or a sink append is outstanding wait in a bounded
queue, which is drained through the same dispatch once the callback has come.
-/

namespace BotaSdk

open Protocol

namespace RecordingTransfer

inductive Phase where
  | loadingCheckpoint
  | truncatingSink
  | subscribing
  | starting
  | transferring
  | appending
  | finalizing
  | waitingForSha
  | acknowledging
  | confirming
  | completed
  | failed
  deriving DecidableEq

/-- The phases in which `drain_packets` goes on. -/
def Phase.drains : Phase → Bool
  | .transferring | .finalizing | .waitingForSha => true
  | _ => false

/-- The phases in which a notification of the subscription is taken. -/
def Phase.receives : Phase → Bool
  | .starting | .appending => true
  | phase => phase.drains

def SHA256_GRACE_TIMER_ID : Nat := 0x5245435F53484132
def SHA256_GRACE_DELAY_MS : Nat := 200
def MAX_PENDING_PACKETS : Nat := 256
def MAX_PENDING_BYTES : Nat := 128 * 1024
def MAX_APPEND_BATCH_BYTES : Nat := 32 * 1024

end RecordingTransfer

open RecordingTransfer

structure RecordingTransferWorkflow where
  device : DeviceSerialNumber
  recording : RecordingUuid
  sinkId : RecordingSinkId
  totalUnits : Nat
  confirmOnCompletion : Bool
  cancellationId : CancellationId
  phase : RecordingTransfer.Phase
  completedUnits : Nat
  retryCount : Nat
  lastSequence : Option Nat
  pendingSequence : Option Nat
  pendingPayloadUnits : Nat
  eofSequence : Option Nat
  loadRequestId : Option RequestId
  sinkRequestId : Option RequestId
  subscriptionRequestId : Option RequestId
  writeRequestId : Option RequestId
  checkpointRequestIds : Finset RequestId
  encrypted : Option Bool
  e2eHeaderReceived : Bool
  sha256 : Option (List UInt8)
  shaGraceTimerScheduled : Bool
  shaGraceElapsed : Bool
  terminalError : Option DeviceSdkError
  pendingPackets : List (List UInt8)
  pendingBytes : Nat
  deriving DecidableEq

namespace RecordingTransferWorkflow

def new (device : DeviceSerialNumber) (recording : RecordingUuid) (sinkId : RecordingSinkId)
    (totalUnits : Nat) (confirmOnCompletion : Bool) (cancellationId : CancellationId) :
    RecordingTransferWorkflow where
  device := device
  recording := recording
  sinkId := sinkId
  totalUnits := totalUnits
  confirmOnCompletion := confirmOnCompletion
  cancellationId := cancellationId
  phase := .loadingCheckpoint
  completedUnits := 0
  retryCount := 0
  lastSequence := none
  pendingSequence := none
  pendingPayloadUnits := 0
  eofSequence := none
  loadRequestId := none
  sinkRequestId := none
  subscriptionRequestId := none
  writeRequestId := none
  checkpointRequestIds := ∅
  encrypted := none
  e2eHeaderReceived := false
  sha256 := none
  shaGraceTimerScheduled := false
  shaGraceElapsed := false
  terminalError := none
  pendingPackets := []
  pendingBytes := 0

abbrev Call := Step RecordingTransferWorkflow

def checkpointMatches (w : RecordingTransferWorkflow) (checkpoint : WorkflowCheckpoint) : Bool :=
  checkpoint.workflow = .recordingTransfer &&
    checkpoint.operation = .transferRecording &&
    checkpoint.device = w.device &&
    checkpoint.recording = some w.recording

/-- `last_sequence.map_or(0, |last| last.wrapping_add(1))`. -/
def nextSequence (w : RecordingTransferWorkflow) : Nat :=
  w.lastSequence.elim 0 fun last => (last + 1) % 65536

/-! ## The effects of each phase -/

def controlEffect (payload : List UInt8) : Effect :=
  .ble (.write SERVICE_BOTA_STORAGE CHAR_TRANSFER_CONTROL payload true)

def commandEffect (command : TransferCommand) : Effect :=
  controlEffect (encodeTransferCommand command)

def ackEffect (ackType : AckType) (sequence : Nat) : Effect :=
  controlEffect (encodeAck ackType sequence)

def unsubscribeEffect : Effect :=
  .ble (.unsubscribe SERVICE_BOTA_STORAGE CHAR_RECORDING_TRANSFER)

def truncateSink (completedUnits : Nat) (call : Call) : Call :=
  (call.update fun w => { w with phase := .truncatingSink }).request
    (.recordingSink (.truncate call.workflow.sinkId completedUnits))
    fun id w => { w with sinkRequestId := some id }

def subscribe (call : Call) : Call :=
  (call.update fun w => { w with phase := .subscribing }).request
    (.ble (.subscribe SERVICE_BOTA_STORAGE CHAR_RECORDING_TRANSFER))
    fun id w => { w with subscriptionRequestId := some id }

def startTransfer (call : Call) : Call :=
  (call.update fun w => { w with phase := .starting }).request
    (commandEffect (.start call.workflow.recording)) fun id w => { w with writeRequestId := some id }

def append (sequence : Option Nat) (payload : List UInt8) (call : Call) : Call :=
  (call.update fun w =>
    { w with
      phase := .appending, pendingSequence := sequence
      pendingPayloadUnits := payload.length }).request
    (.recordingSink (.append call.workflow.sinkId (sequence.getD 0) payload))
    fun id w => { w with sinkRequestId := some id }

/-- The batch taken so far and the queue left after it. -/
structure Batch where
  sequence : Nat
  payload : List UInt8
  queue : List (List UInt8)
  pendingBytes : Nat

/-- The loop of `append_legacy_batch` over the queued values. -/
def takeBatch (sequence : Nat) (payload : List UInt8) :
    List (List UInt8) → Nat → Batch
  | [], pendingBytes => { sequence, payload, queue := [], pendingBytes }
  | value :: rest, pendingBytes =>
    match parseTransferPacket value with
    | .ok (.data next data) =>
      if next > sequence ∧ (next ≠ (sequence + 1) % 65536 ∨
          data.length > MAX_APPEND_BATCH_BYTES - payload.length) then
        { sequence, payload, queue := value :: rest, pendingBytes }
      else if next ≤ sequence then takeBatch sequence payload rest (pendingBytes - value.length)
      else takeBatch next (payload ++ data) rest (pendingBytes - value.length)
    | _ => { sequence, payload, queue := value :: rest, pendingBytes }

def appendLegacyBatch (sequence : Nat) (payload : List UInt8) (call : Call) : Call :=
  let batch := takeBatch sequence payload call.workflow.pendingPackets call.workflow.pendingBytes
  append (some batch.sequence) batch.payload (call.update fun w =>
    { w with pendingPackets := batch.queue, pendingBytes := batch.pendingBytes })

def saveCheckpoint (call : Call) : Call :=
  let w := call.workflow
  call.request (.persistence (.saveCheckpoint {
    workflow := .recordingTransfer
    operation := .transferRecording
    device := w.device
    recording := some w.recording
    phase := .transferring
    completedUnits := w.completedUnits
    retryCount := w.retryCount
    lastSequence := w.lastSequence
    firmwareVersion := none }))
    fun id w => { w with checkpointRequestIds := insert id w.checkpointRequestIds }

def finalize (sequence : Nat) (checksum : Option Nat) (call : Call) : Call :=
  (((call.update fun w => { w with phase := .finalizing, eofSequence := some sequence }).request
    (.recordingSink (.finalize call.workflow.sinkId checksum))
    fun id w => { w with sinkRequestId := some id }).update
      fun w => { w with shaGraceTimerScheduled := true }).request
    (.timer (.schedule SHA256_GRACE_TIMER_ID SHA256_GRACE_DELAY_MS))

def cancelGraceTimer (call : Call) : Call :=
  if call.workflow.shaGraceTimerScheduled then
    (call.update fun w => { w with shaGraceTimerScheduled := false }).request
      (.timer (.cancel SHA256_GRACE_TIMER_ID))
  else call

def writeAck (ackType : AckType) (sequence : Nat) (call : Call) : Call :=
  call.request (ackEffect ackType sequence) fun id w => { w with writeRequestId := some id }

def acknowledge (call : Call) : Call :=
  writeAck .ack (call.workflow.eofSequence.getD 0)
    (cancelGraceTimer (call.update fun w => { w with phase := .acknowledging }))

def confirm (call : Call) : Call :=
  (call.update fun w => { w with phase := .confirming }).request
    (commandEffect (.confirm call.workflow.recording)) fun id w =>
      { w with writeRequestId := some id }

def unsubscribe (call : Call) : Call :=
  match call.workflow.subscriptionRequestId with
  | none => call
  | some _ =>
    (call.update fun w => { w with subscriptionRequestId := none }).request unsubscribeEffect

def complete (call : Call) : Call :=
  let call := (unsubscribe (call.update fun w => { w with phase := .completed })).request
    (.persistence .deleteCheckpoint)
  (call.request (.notify (.recordingTransferCompleted (call.workflow.encrypted.getD false)
    call.workflow.sha256))).update fun w => { w with sha256 := none }

def fail (error : DeviceSdkError) (call : Call) : Call :=
  (cancelGraceTimer (unsubscribe (call.update fun w =>
    { w with phase := .failed, terminalError := some error }))).request (.notify (.failed error))

def failIntegrity (reason : String) (call : Call) : Call :=
  let error :=
    (DeviceSdkError.new .integrityFailed .transferRecording true).withDetail reason
  fail error (((writeAck .nack (call.workflow.eofSequence.getD 0) call).request
    (.recordingSink (.discard call.workflow.sinkId))).request (.persistence .deleteCheckpoint))

def failMixedTransfer (call : Call) : Call :=
  fail ((DeviceSdkError.new .protocolRejected .transferRecording false).withDetail
    "recording transfer mixed plaintext and encrypted packets") call

def failMalformedEncryptedTransfer (call : Call) : Call :=
  fail ((DeviceSdkError.new .integrityFailed .transferRecording false).withDetail
    "encrypted_header_missing") call

def sinkFailure (platformCode : Option Int) : DeviceSdkError :=
  (DeviceSdkError.new .persistenceFailed .transferRecording true).withDetail
    s!"recording sink operation failed with code {debugPlatformCode platformCode}"

/-! ## Notifications -/

/-- A packet in phase `Starting` or `Appending` waits. -/
def enqueue (value : List UInt8) (call : Call) : Call :=
  if MAX_PENDING_PACKETS ≤ call.workflow.pendingPackets.length ∨
      value.length > MAX_PENDING_BYTES - call.workflow.pendingBytes then
    failIntegrity "receive_buffer_overflow" call
  else
    call.update fun w =>
      { w with
        pendingBytes := w.pendingBytes + value.length
        pendingPackets := w.pendingPackets ++ [value] }

/-- An encrypted chunk with the big-endian length of its plaintext. -/
def framed (chunk : List UInt8) : List UInt8 :=
  (Bytes.leBytes 2 (chunk.length - 16)).reverse ++ chunk

/-- A packet in phase `Transferring`. -/
def dispatchPacket (packet : TransferPacket) (call : Call) : Outcome Call :=
  let w := call.workflow
  match packet with
  | .data sequence data =>
    if w.lastSequence.any (sequence ≤ ·) then .ok call
    else if sequence ≠ w.nextSequence then
      .ok (failIntegrity "sequence_gap"
        (call.update fun w => { w with eofSequence := some w.nextSequence }))
    else if w.encrypted = some true then .ok (failMixedTransfer call)
    else
      .ok (appendLegacyBatch sequence data (call.update fun w => { w with encrypted := some false }))
  | .eof sequence checksum =>
    if w.encrypted = some true then .ok (failMixedTransfer call)
    else
      .ok (finalize sequence (some checksum) (call.update fun w => { w with encrypted := some false }))
  | .e2eStart ephemeralPublicKey salt =>
    if w.encrypted = some false then .ok (failMixedTransfer call)
    else if w.e2eHeaderReceived then .ok (call.update fun w => { w with encrypted := some true })
    else
      let call := call.update fun w => { w with encrypted := some true, e2eHeaderReceived := true }
      if 0 < w.completedUnits then .ok call
      else .ok (append none (ephemeralPublicKey ++ salt) call)
  | .encryptedData sequence chunk =>
    if w.encrypted ≠ some true ∨ ¬w.e2eHeaderReceived then
      .ok (failMalformedEncryptedTransfer call)
    else if w.lastSequence.any (sequence ≤ ·) then .ok call
    else if sequence ≠ w.nextSequence ∨ chunk.length < 16 then
      .ok (failIntegrity
        (if sequence ≠ w.nextSequence then "sequence_gap" else "encrypted_chunk_too_short")
        (call.update fun w => { w with eofSequence := some w.nextSequence }))
    else if 65535 < chunk.length - 16 then .panicked
    else .ok (append (some sequence) (framed chunk) call)
  | .encryptedEof sequence =>
    if w.encrypted ≠ some true ∨ ¬w.e2eHeaderReceived then
      .ok (failMalformedEncryptedTransfer call)
    else .ok (finalize sequence none call)
  | .sha256 value => .ok (call.update fun w => { w with sha256 := some value })
  | .error _ code =>
    .ok (fail (((DeviceSdkError.new .protocolRejected .transferRecording
      (code ≠ 0x14)).withProtocolStatus code).withDetail "device rejected recording transfer") call)
  | .paused _ _ =>
    .ok (fail ((DeviceSdkError.new .unsupportedOperation .transferRecording false).withDetail
      "transfer packet type is not supported by batch sink") call)

/-- A packet in phase `Finalizing` or `WaitingForSha`. -/
def dispatchLatePacket (packet : TransferPacket) (call : Call) : Outcome Call :=
  match packet with
  | .sha256 value =>
    let call := call.update fun w => { w with sha256 := some value }
    if call.workflow.phase = .waitingForSha then .ok (acknowledge call) else .ok call
  | .eof _ _ | .encryptedEof _ => .ok call
  | _ =>
    .err ((DeviceSdkError.new .unexpectedEvent .transferRecording false).withDetail
      "packet arrived after recording EOF")

def unexpected : DeviceSdkError :=
  (DeviceSdkError.new .unexpectedEvent .transferRecording false).withDetail
    "event does not belong to the active recording-transfer phase"

/-- A notification of the subscription. -/
def dispatchNotification (value : List UInt8) (call : Call) : Outcome Call :=
  match call.workflow.phase with
  | .starting | .appending => .ok (enqueue value call)
  | .transferring =>
    match parseTransferPacket value with
    | .error error => .ok (fail error call)
    | .ok packet => dispatchPacket packet call
  | .finalizing | .waitingForSha =>
    match parseTransferPacket value with
    | .error error => .ok (fail error call)
    | .ok packet => dispatchLatePacket packet call
  | _ => .err unexpected

/-- A call that errs leaves the state it started from. -/
def settleCall (w : RecordingTransferWorkflow) (context : WorkflowContext) :
    Outcome Call → Reduction RecordingTransferWorkflow
  | .ok call => .ok call
  | .err error => .err w context error
  | .panicked => .panic w context

/-- The loop of `drain_packets`; every turn takes a value off the queue.  An error drops the effects
of the turns before it, but not what they did to the state. -/
def drain : Nat → Call → Reduction RecordingTransferWorkflow
  | 0, call => .ok call
  | turns + 1, call =>
    if call.workflow.phase.drains then
      match call.workflow.pendingPackets with
      | [] => .ok call
      | value :: rest =>
        let popped := call.update fun w =>
          { w with pendingPackets := rest, pendingBytes := w.pendingBytes - value.length }
        match call.workflow.subscriptionRequestId with
        | none => .panic popped.workflow popped.context
        | some _ =>
          match dispatchNotification value popped with
          | .ok call => drain turns call
          | outcome => settleCall popped.workflow popped.context outcome
    else .ok call

def drainPackets (call : Call) : Reduction RecordingTransferWorkflow :=
  drain call.workflow.pendingPackets.length call

/-! ## The reducer -/

def start (w : RecordingTransferWorkflow) (context : WorkflowContext) :
    Reduction RecordingTransferWorkflow :=
  .ok (((Step.begin w context).request (.notify (.started .transferRecording))).request
    (.persistence .loadCheckpoint) fun id w => { w with loadRequestId := some id })

/-- The state with what a usable checkpoint restores. -/
def restore (checkpoint : Option WorkflowCheckpoint) (w : RecordingTransferWorkflow) :
    RecordingTransferWorkflow :=
  match checkpoint.filter w.checkpointMatches with
  | some checkpoint =>
    { w with
      loadRequestId := none
      completedUnits := checkpoint.completedUnits
      lastSequence := checkpoint.lastSequence
      retryCount := min (checkpoint.retryCount + 1) 65535 }
  | none => { w with loadRequestId := none }

/-- The state once the sink holds the pending append durably. -/
def settleAppend (durableUnits : Nat) (w : RecordingTransferWorkflow) : RecordingTransferWorkflow :=
  { w with
    completedUnits := durableUnits
    lastSequence := w.pendingSequence.or w.lastSequence
    pendingSequence := none
    pendingPayloadUnits := 0
    phase := .transferring }

def dispatch (w : RecordingTransferWorkflow) (event : HostEvent) (context : WorkflowContext) :
    Reduction RecordingTransferWorkflow :=
  let call := Step.begin w context
  let reject := Reduction.err w context unexpected
  let released := call.update fun w => { w with sinkRequestId := none }
  match event.kind with
  | .checkpointSaved =>
    if event.requestId ∈ w.checkpointRequestIds then
      .ok (call.update fun w =>
        { w with checkpointRequestIds := w.checkpointRequestIds.erase event.requestId })
    else reject
  | .ble (.notification characteristicUuid value) =>
    if w.phase.receives ∧ some event.requestId = w.subscriptionRequestId ∧
        characteristicUuid = CHAR_RECORDING_TRANSFER then
      settleCall w context (dispatchNotification value call)
    else reject
  | .checkpointLoaded checkpoint =>
    if w.phase = .loadingCheckpoint ∧ some event.requestId = w.loadRequestId then
      .ok (truncateSink (restore checkpoint w).completedUnits (call.update (restore checkpoint)))
    else reject
  | .recordingSinkTruncated =>
    if w.phase = .truncatingSink ∧ some event.requestId = w.sinkRequestId then
      .ok (subscribe released)
    else reject
  | .ble (.subscribed characteristicUuid) =>
    if w.phase = .subscribing ∧ some event.requestId = w.subscriptionRequestId ∧
        characteristicUuid = CHAR_RECORDING_TRANSFER then
      .ok (startTransfer call)
    else reject
  | .ble .writeCompleted =>
    if some event.requestId = w.writeRequestId then
      let written := call.update fun w => { w with writeRequestId := none }
      match w.phase with
      | .starting => drainPackets (written.update fun w => { w with phase := .transferring })
      | .acknowledging => .ok (if w.confirmOnCompletion then confirm written else complete written)
      | .confirming => .ok (complete written)
      | _ => reject
    else reject
  | .recordingSinkAppendCompleted durableUnits =>
    if w.phase = .appending ∧ some event.requestId = w.sinkRequestId then
      if durableUnits < saturatingAdd w.completedUnits w.pendingPayloadUnits then
        .ok (fail ((DeviceSdkError.new .persistenceFailed .transferRecording true).withDetail
          "recording sink reported a non-durable append") released)
      else
        drainPackets ((saveCheckpoint (released.update (settleAppend durableUnits))).request
          (.progress { completedUnits := durableUnits, totalUnits := w.totalUnits }))
    else reject
  | .recordingSinkFinalized durableUnits =>
    if w.phase = .finalizing ∧ some event.requestId = w.sinkRequestId then
      let finalized := released.update fun w => { w with completedUnits := durableUnits }
      if w.sha256.isSome ∨ w.shaGraceElapsed then .ok (acknowledge finalized)
      else .ok (finalized.update fun w => { w with phase := .waitingForSha })
    else reject
  | .recordingSinkIntegrityFailed =>
    if w.phase = .finalizing ∧ some event.requestId = w.sinkRequestId then
      .ok (failIntegrity "checksum_mismatch" released)
    else reject
  | .timerFired timerId =>
    if (w.phase = .finalizing ∨ w.phase = .waitingForSha) ∧ timerId = SHA256_GRACE_TIMER_ID then
      let elapsed := call.update fun w =>
        { w with shaGraceTimerScheduled := false, shaGraceElapsed := true }
      if w.phase = .waitingForSha then .ok (acknowledge elapsed) else .ok elapsed
    else reject
  | .recordingSinkFailed platformCode =>
    if some event.requestId = w.sinkRequestId then .ok (fail (sinkFailure platformCode) released)
    else reject
  | .persistenceFailed platformCode =>
    if event.requestId ∈ w.checkpointRequestIds then
      .ok (fail (sinkFailure platformCode) (call.update fun w =>
        { w with checkpointRequestIds := w.checkpointRequestIds.erase event.requestId }))
    else if some event.requestId = w.loadRequestId then
      .ok (fail (sinkFailure platformCode) call)
    else reject
  | .ble (.disconnected _ _) =>
    .ok (fail ((DeviceSdkError.new .notConnected .transferRecording true).withDetail
      "device disconnected during recording transfer") call)
  | .ble (.failed platformCode) =>
    if some event.requestId ∈ [w.subscriptionRequestId, w.writeRequestId] then
      .ok (fail ((DeviceSdkError.new .connectionFailed .transferRecording true).withDetail
        s!"BLE recording transfer failed with code {debugPlatformCode platformCode}") call)
    else reject
  | _ => reject

def cancel (w : RecordingTransferWorkflow) (context : WorkflowContext) :
    Reduction RecordingTransferWorkflow :=
  let aborted := unsubscribe (cancelGraceTimer (writeAck .abort w.nextSequence
    (Step.begin w context)))
  .ok (((aborted.request (.recordingSink (.discard w.sinkId))).request
    (.persistence .deleteCheckpoint)).request (.notify (.cancelled .transferRecording)))

def terminalStatus (w : RecordingTransferWorkflow) : Outcome (Option WorkflowStatus) :=
  match w.phase with
  | .completed => .ok (some (.completed .transferRecording))
  | .failed =>
    match w.terminalError with
    | some error => .ok (some (.failed error))
    | none => .panicked
  | _ => .ok none

instance : WorkflowReducer RecordingTransferWorkflow where
  start := start
  dispatch := dispatch
  cancel := cancel
  terminalStatus := terminalStatus
  cancellationId := (·.cancellationId)
  operation _ := .transferRecording

end RecordingTransferWorkflow

/-- `Command::TransferRecording`. -/
structure TransferRecording where
  device : DeviceSerialNumber
  recording : RecordingUuid
  sinkId : RecordingSinkId
  totalUnits : Nat
  confirmOnCompletion : Bool
  deriving DecidableEq

instance : WorkflowCommand TransferRecording RecordingTransferWorkflow where
  operation _ := .transferRecording
  requiredCapabilitySlice _ := [.ble, .persistence, .progress, .recordingSink, .timer]
  create command cancellationId :=
    .ok (RecordingTransferWorkflow.new command.device command.recording command.sinkId
      command.totalUnits command.confirmOnCompletion cancellationId)

end BotaSdk
