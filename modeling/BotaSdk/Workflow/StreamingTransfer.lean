import BotaSdk.Engine.Runtime
import BotaSdk.Protocol.Transfer

/-!
# Live recording transfer (`workflow/streaming_transfer.rs`)
-/

namespace BotaSdk

open Protocol

namespace StreamingTransfer

inductive Phase where
  | subscribing
  | starting
  | transferring
  | accepting
  | finalizing
  | acknowledging
  | confirming
  | completed
  | failed
  deriving DecidableEq

end StreamingTransfer

structure StreamingTransferWorkflow where
  recording : RecordingUuid
  sinkId : RecordingSinkId
  cancellationId : CancellationId
  phase : StreamingTransfer.Phase
  subscriptionRequestId : Option RequestId
  writeRequestId : Option RequestId
  sinkRequestId : Option RequestId
  lastSequence : Option Nat
  pendingSequence : Option Nat
  pendingUnits : Nat
  completedUnits : Nat
  eofSequence : Nat
  encrypted : Option Bool
  e2eHeaderReceived : Bool
  paused : Bool
  uploadedChunks : Nat
  terminalError : Option DeviceSdkError
  deriving DecidableEq

namespace StreamingTransferWorkflow

open StreamingTransfer

def new (recording : RecordingUuid) (sinkId : RecordingSinkId) (cancellationId : CancellationId) :
    StreamingTransferWorkflow where
  recording := recording
  sinkId := sinkId
  cancellationId := cancellationId
  phase := .subscribing
  subscriptionRequestId := none
  writeRequestId := none
  sinkRequestId := none
  lastSequence := none
  pendingSequence := none
  pendingUnits := 0
  completedUnits := 0
  eofSequence := 0
  encrypted := none
  e2eHeaderReceived := false
  paused := false
  uploadedChunks := 0
  terminalError := none

abbrev Call := Step StreamingTransferWorkflow

/-! ## The effects of each phase -/

def subscribeEffect : Effect :=
  .ble (.subscribe SERVICE_BOTA_STORAGE CHAR_RECORDING_TRANSFER)

def unsubscribeEffect : Effect :=
  .ble (.unsubscribe SERVICE_BOTA_STORAGE CHAR_RECORDING_TRANSFER)

def commandEffect (command : TransferCommand) : Effect :=
  .ble (.write SERVICE_BOTA_STORAGE CHAR_TRANSFER_CONTROL (encodeTransferCommand command) true)

def ackEffect (ackType : AckType) (sequence : Nat) : Effect :=
  .ble (.write SERVICE_BOTA_STORAGE CHAR_RECORDING_TRANSFER (encodeAck ackType sequence) true)

def subscribe (call : Call) : Call :=
  call.request subscribeEffect fun id w => { w with subscriptionRequestId := some id }

def startTransfer (call : Call) : Call :=
  (call.update fun w => { w with phase := .starting }).request
    (commandEffect (.start call.workflow.recording)) fun id w => { w with writeRequestId := some id }

def accept (sequence : Option Nat) (units : Nat) (effect : RecordingSinkEffect) (call : Call) :
    Call :=
  (call.update fun w =>
    { w with phase := .accepting, pendingSequence := sequence, pendingUnits := units }).request
    (.recordingSink effect) fun id w => { w with sinkRequestId := some id }

def resumeIfNeeded (call : Call) : Call :=
  if call.workflow.paused then
    (call.update fun w => { w with paused := false }).request (.notify .streamingResumed)
  else call

def finalize (sequence : Nat) (encrypted : Bool) (call : Call) : Call :=
  (call.update fun w => { w with phase := .finalizing, eofSequence := sequence }).request
    (.recordingSink (.finalizeStreaming call.workflow.sinkId encrypted
      (if encrypted then sequence else 0) call.workflow.completedUnits))
    fun id w => { w with sinkRequestId := some id }

def acknowledge (call : Call) : Call :=
  (call.update fun w => { w with phase := .acknowledging }).request
    (ackEffect .ack call.workflow.eofSequence) fun id w => { w with writeRequestId := some id }

def confirm (call : Call) : Call :=
  (call.update fun w => { w with phase := .confirming }).request
    (commandEffect (.confirm call.workflow.recording)) fun id w =>
      { w with writeRequestId := some id }

def unsubscribe (call : Call) : Call :=
  match call.workflow.subscriptionRequestId with
  | none => call
  | some _ =>
    (call.update fun w => { w with subscriptionRequestId := none }).request unsubscribeEffect

def complete (call : Call) : Call :=
  let call := unsubscribe (call.update fun w => { w with phase := .completed })
  call.request (.notify (.streamingCompleted call.workflow.completedUnits
    call.workflow.uploadedChunks (call.workflow.encrypted.getD false)))

def fail (error : DeviceSdkError) (call : Call) : Call :=
  let call := unsubscribe (call.update fun w =>
    { w with phase := .failed, terminalError := some error })
  (call.request (.recordingSink (.discardStreaming call.workflow.sinkId))).request
    (.notify (.failed error))

def protocolFailure (detail : String) (call : Call) : Call :=
  fail ((DeviceSdkError.new .protocolRejected .transferRecording false).withDetail detail) call

/-- `last_sequence.map_or(0, |value| value.wrapping_add(1))`. -/
def nextSequence (w : StreamingTransferWorkflow) : Nat :=
  w.lastSequence.elim 0 fun value => (value + 1) % 65536

def mixedPackets : String := "live transfer mixed plaintext and encrypted packets"

/-! ## Packets in phase `Transferring` -/

def dispatchPacket (packet : TransferPacket) (call : Call) : Call :=
  let w := call.workflow
  match packet with
  | .data sequence data =>
    if w.encrypted = some true then protocolFailure mixedPackets call
    else if w.lastSequence.any (sequence ≤ ·) then call
    else if sequence ≠ w.nextSequence then
      protocolFailure "live plaintext transfer has a sequence gap" call
    else
      accept (some sequence) data.length (.appendStreamingPlaintext w.sinkId sequence data)
        (resumeIfNeeded (call.update fun w => { w with encrypted := some false }))
  | .paused _ bytesSent =>
    (call.update fun w => { w with paused := true }).request
      (.notify (.streamingPaused (bytesSent.getD w.completedUnits)))
  | .eof sequence _ =>
    if w.encrypted = some true then protocolFailure mixedPackets call
    else finalize sequence false (call.update fun w => { w with encrypted := some false })
  | .e2eStart ephemeralPublicKey salt =>
    if w.encrypted = some false then protocolFailure mixedPackets call
    else if w.e2eHeaderReceived then call.update fun w => { w with encrypted := some true }
    else
      accept none 0 (.beginStreamingEncrypted w.sinkId ephemeralPublicKey salt)
        (call.update fun w => { w with encrypted := some true, e2eHeaderReceived := true })
  | .encryptedData sequence chunk =>
    if w.encrypted ≠ some true ∨ ¬w.e2eHeaderReceived ∨ chunk.length < 16 then
      protocolFailure "live encrypted transfer is malformed" call
    else if w.lastSequence.any (sequence ≤ ·) then call
    else
      accept (some sequence) (chunk.length - 16) (.appendStreamingEncrypted w.sinkId sequence chunk)
        (resumeIfNeeded call)
  | .encryptedEof sequence =>
    if w.encrypted ≠ some true ∨ ¬w.e2eHeaderReceived then
      protocolFailure "live encrypted transfer is missing its session header" call
    else finalize sequence true call
  | .sha256 _ => call
  | .error _ code =>
    fail (((DeviceSdkError.new .protocolRejected .transferRecording (code ≠ 0x14)).withProtocolStatus
      code).withDetail "device rejected live recording transfer") call

/-- A notification of the transfer characteristic in phase `Transferring`. -/
def dispatchValue (value : List UInt8) (call : Call) : Call :=
  match parseTransferPacket value with
  | .error error => fail error call
  | .ok packet => dispatchPacket packet call

/-! ## The reducer -/

def unexpected : DeviceSdkError :=
  (DeviceSdkError.new .unexpectedEvent .transferRecording false).withDetail
    "event does not belong to the active streaming-transfer phase"

/-- The sink accepted what `pendingUnits` announced. -/
def settleAccepted (receivedUnits : Nat) (w : StreamingTransferWorkflow) :
    StreamingTransferWorkflow :=
  { w with
    sinkRequestId := none
    completedUnits := receivedUnits
    lastSequence := w.pendingSequence.or w.lastSequence
    pendingSequence := none
    pendingUnits := 0
    phase := .transferring }

def dispatch (w : StreamingTransferWorkflow) (event : HostEvent) (context : WorkflowContext) :
    Reduction StreamingTransferWorkflow :=
  let call := Step.begin w context
  let reject := Reduction.err w context unexpected
  match event.kind with
  | .ble (.subscribed characteristicUuid) =>
    if w.phase = .subscribing ∧ some event.requestId = w.subscriptionRequestId ∧
        characteristicUuid = CHAR_RECORDING_TRANSFER then
      .ok (startTransfer call)
    else reject
  | .ble .writeCompleted =>
    if some event.requestId = w.writeRequestId then
      let call := call.update fun w => { w with writeRequestId := none }
      match w.phase with
      | .starting => .ok (call.update fun w => { w with phase := .transferring })
      | .acknowledging => .ok (confirm call)
      | .confirming => .ok (complete call)
      | _ => reject
    else reject
  | .ble (.notification characteristicUuid value) =>
    if w.phase = .transferring ∧ some event.requestId = w.subscriptionRequestId ∧
        characteristicUuid = CHAR_RECORDING_TRANSFER then
      .ok (dispatchValue value call)
    else reject
  | .streamingSinkAccepted receivedUnits =>
    if w.phase = .accepting ∧ some event.requestId = w.sinkRequestId then
      if receivedUnits ≠ saturatingAdd w.completedUnits w.pendingUnits then
        .ok (fail ((DeviceSdkError.new .persistenceFailed .transferRecording true).withDetail
          "streaming sink reported inconsistent accepted units")
          (call.update fun w => { w with sinkRequestId := none }))
      else .ok (call.update (settleAccepted receivedUnits))
    else reject
  | .streamingSinkFinalized uploadedChunks totalUnits =>
    if w.phase = .finalizing ∧ some event.requestId = w.sinkRequestId then
      let call := call.update fun w => { w with sinkRequestId := none }
      if totalUnits ≠ w.completedUnits then
        .ok (fail ((DeviceSdkError.new .persistenceFailed .transferRecording false).withDetail
          "streaming sink finalized a different byte count") call)
      else .ok (acknowledge (call.update fun w => { w with uploadedChunks := uploadedChunks }))
    else reject
  | .streamingSinkFailed platformCode =>
    if some event.requestId = w.sinkRequestId then
      .ok (fail ((DeviceSdkError.new .persistenceFailed .transferRecording true).withDetail
        s!"streaming sink failed with code {debugPlatformCode platformCode}")
        (call.update fun w => { w with sinkRequestId := none }))
    else reject
  | .ble (.disconnected _ _) =>
    .ok (fail ((DeviceSdkError.new .notConnected .transferRecording true).withDetail
      "device disconnected during live recording transfer") call)
  | .ble (.failed platformCode) =>
    if some event.requestId ∈ [w.subscriptionRequestId, w.writeRequestId] then
      .ok (fail ((DeviceSdkError.new .connectionFailed .transferRecording true).withDetail
        s!"BLE live transfer failed with code {debugPlatformCode platformCode}") call)
    else reject
  | _ => reject

def start (w : StreamingTransferWorkflow) (context : WorkflowContext) :
    Reduction StreamingTransferWorkflow :=
  .ok (subscribe ((Step.begin w context).request (.notify (.started .transferRecording))))

def cancel (w : StreamingTransferWorkflow) (context : WorkflowContext) :
    Reduction StreamingTransferWorkflow :=
  let call := unsubscribe ((Step.begin w context).request (ackEffect .abort w.nextSequence))
  .ok ((call.request (.recordingSink (.discardStreaming w.sinkId))).request
    (.notify (.cancelled .transferRecording)))

def terminalStatus (w : StreamingTransferWorkflow) : Outcome (Option WorkflowStatus) :=
  match w.phase with
  | .completed => .ok (some (.completed .transferRecording))
  | .failed =>
    match w.terminalError with
    | some error => .ok (some (.failed error))
    | none => .panicked
  | _ => .ok none

instance : WorkflowReducer StreamingTransferWorkflow where
  start := start
  dispatch := dispatch
  cancel := cancel
  terminalStatus := terminalStatus
  cancellationId := (·.cancellationId)
  operation _ := .transferRecording

end StreamingTransferWorkflow

/-- `Command::StreamRecording`. -/
structure StreamRecording where
  device : DeviceSerialNumber
  recording : RecordingUuid
  sinkId : RecordingSinkId
  deriving DecidableEq

instance : WorkflowCommand StreamRecording StreamingTransferWorkflow where
  operation _ := .transferRecording
  requiredCapabilitySlice _ := [.ble, .recordingSink]
  create command cancellationId :=
    .ok (StreamingTransferWorkflow.new command.recording command.sinkId cancellationId)

end BotaSdk
