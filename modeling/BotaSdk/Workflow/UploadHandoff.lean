import BotaSdk.Engine.Runtime
import BotaSdk.Protocol.Provisioning
import BotaSdk.Protocol.Status

/-!
# Handing an upload to the device (`workflow/upload_handoff.rs`)

The device uploads by itself if it has a network; the workflow triggers and monitors it, and tells the
host when it has to fetch the recording over BLE instead.
-/

namespace BotaSdk

open Protocol

namespace UploadHandoff

def TRIGGER_TIMEOUT_ID : Nat := 1
def TRIGGER_TIMEOUT_MS : Nat := 5000
def MONITOR_TIMER_ID : Nat := 2
def MONITOR_INTERVAL_MS : Nat := 2000

inductive StatusPurpose where
  | initial
  | busy
  | triggerFailure
  | monitor
  deriving DecidableEq

inductive Phase where
  | readingStatus
  | subscribing
  | triggering
  | awaitingTrigger
  | waitingToMonitor
  | completed
  | failed
  deriving DecidableEq

end UploadHandoff

open UploadHandoff

structure UploadHandoffWorkflow where
  recording : RecordingUuid
  uploadId : UploadSessionId
  destinationId : UploadDestinationId
  cancellationId : CancellationId
  phase : UploadHandoff.Phase := .readingStatus
  statusPurpose : UploadHandoff.StatusPurpose := .initial
  initialPending : UInt8 := 0
  statusRequestId : Option RequestId := none
  subscriptionRequestId : Option RequestId := none
  writeRequestId : Option RequestId := none
  timerRequestId : Option RequestId := none
  timerId : Option Nat := none
  terminalError : Option DeviceSdkError := none
  deriving DecidableEq

namespace UploadHandoffWorkflow

abbrev Call := Step UploadHandoffWorkflow

/-! ## The effects of each phase -/

def readStatus (purpose : UploadHandoff.StatusPurpose) (call : Call) : Call :=
  (call.update fun w => { w with phase := .readingStatus, statusPurpose := purpose }).request
    (.ble (.read SERVICE_BOTA_CONTROL CHAR_DEVICE_STATUS))
    fun id w => { w with statusRequestId := some id }

def subscribe (call : Call) : Call :=
  (call.update fun w => { w with phase := .subscribing }).request
    (.ble (.subscribe SERVICE_BOTA_STORAGE CHAR_TRANSFER_STATUS))
    fun id w => { w with subscriptionRequestId := some id }

def trigger (call : Call) : Call :=
  (call.update fun w => { w with phase := .triggering }).request
    (.ble (.write SERVICE_BOTA_STORAGE CHAR_TRANSFER_CONTROL
      (encodeTransferCommand .triggerDeviceUpload) true))
    fun id w => { w with writeRequestId := some id }

def scheduleTimer (timerId delayMs : Nat) (phase : UploadHandoff.Phase) (call : Call) : Call :=
  (call.update fun w => { w with phase, timerId := some timerId }).request
    (.timer (.schedule timerId delayMs)) fun id w => { w with timerRequestId := some id }

def monitor (call : Call) : Call :=
  scheduleTimer MONITOR_TIMER_ID MONITOR_INTERVAL_MS .waitingToMonitor call

def cancelTimer (call : Call) : Call :=
  let call := call.update fun w => { w with timerRequestId := none }
  match call.workflow.timerId with
  | none => call
  | some timerId =>
    (call.update fun w => { w with timerId := none }).request (.timer (.cancel timerId))

def unsubscribe (call : Call) : Call :=
  match call.workflow.subscriptionRequestId with
  | none => call
  | some _ =>
    (call.update fun w => { w with subscriptionRequestId := none }).request
      (.ble (.unsubscribe SERVICE_BOTA_STORAGE CHAR_TRANSFER_STATUS))

def cleanup (call : Call) : Call :=
  unsubscribe (cancelTimer call)

/-- Completes with the notifications before the completion itself. -/
def completeWith (notifications : List WorkflowNotification) (call : Call) : Call :=
  (notifications.foldl (fun call notification => call.request (.notify notification))
    (cleanup (call.update fun w => { w with phase := .completed }))).request
    (.notify (.completed .upload))

def completeDirect (call : Call) : Call :=
  completeWith [] call

def completeWithFallback (call : Call) : Call :=
  completeWith [.bleFallbackReady call.workflow.recording call.workflow.uploadId
    call.workflow.destinationId] call

def completePreserved (call : Call) : Call :=
  completeWith [.deviceUploadPreserved call.workflow.uploadId] call

def fail (error : DeviceSdkError) (call : Call) : Call :=
  (cleanup (call.update fun w => { w with phase := .failed, terminalError := some error })).request
    (.notify (.failed error))

def ownershipUnknown (platformCode : Option Int) : DeviceSdkError :=
  (DeviceSdkError.new .uploadOwnershipUnknown .upload true).withDetail
    s!"fresh device upload status is unavailable with code {debugPlatformCode platformCode}"

def handleStatus (status : DeviceStatus) (call : Call) : Call :=
  match call.workflow.statusPurpose with
  | .initial =>
    let call := call.update fun w => { w with initialPending := status.pendingRecordings }
    if status.pendingRecordings = 0 then completeDirect call
    else if status.flags.syncActive then monitor call
    else if status.flags.wifiConnected || status.flags.lteConnected then subscribe call
    else completeWithFallback call
  | .busy => if status.flags.syncActive then monitor call else completePreserved call
  | .triggerFailure =>
    if status.flags.syncActive then monitor call else completeWithFallback call
  | .monitor =>
    if status.flags.syncActive then
      let completed := call.workflow.initialPending.toNat - status.pendingRecordings.toNat
      monitor (call.request (.progress {
        completedUnits := completed, totalUnits := call.workflow.initialPending.toNat }))
    else if status.pendingRecordings = 0 then completeDirect call
    else completeWithFallback call

/-! ## The reducer -/

def start (w : UploadHandoffWorkflow) (context : WorkflowContext) :
    Reduction UploadHandoffWorkflow :=
  .ok (readStatus .initial ((Step.begin w context).request (.notify (.started .upload))))

def unexpected : DeviceSdkError :=
  (DeviceSdkError.new .unexpectedEvent .upload false).withDetail
    "event does not belong to the active upload-handoff phase"

def statusRead (value : List UInt8) (call : Call) : Call :=
  let call := call.update fun w => { w with statusRequestId := none }
  match parseDeviceStatus value with
  | .ok status => handleStatus status call
  | .error _ => fail (ownershipUnknown none) call

def triggerAnswered (value : List UInt8) (call : Call) : Reduction UploadHandoffWorkflow :=
  match parseTriggerUploadResponse value with
  | .error error => .err call.workflow call.context error
  | .ok none => .ok call
  | .ok (some response) =>
    let call := unsubscribe (cancelTimer call)
    if response.accepted then .ok (monitor call)
    else if response.errorCode = some TRIGGER_UPLOAD_BUSY then .ok (readStatus .busy call)
    else .ok (readStatus .triggerFailure call)

def timerFired (timerId : Nat) (call : Call) : Call :=
  let call := call.update fun w => { w with timerRequestId := none, timerId := none }
  if timerId = TRIGGER_TIMEOUT_ID then readStatus .triggerFailure (unsubscribe call)
  else readStatus .monitor call

def dispatch (w : UploadHandoffWorkflow) (event : HostEvent) (context : WorkflowContext) :
    Reduction UploadHandoffWorkflow :=
  let call := Step.begin w context
  let id := event.requestId
  let reject : Reduction UploadHandoffWorkflow := .err w context unexpected
  match event.kind with
  | .ble (.readCompleted value) =>
    if w.phase = .readingStatus ∧ some id = w.statusRequestId then .ok (statusRead value call)
    else reject
  | .ble (.subscribed characteristicUuid) =>
    if w.phase = .subscribing ∧ some id = w.subscriptionRequestId ∧
        characteristicUuid = CHAR_TRANSFER_STATUS then
      .ok (trigger call)
    else reject
  | .ble .writeCompleted =>
    if w.phase = .triggering ∧ some id = w.writeRequestId then
      .ok (scheduleTimer TRIGGER_TIMEOUT_ID TRIGGER_TIMEOUT_MS .awaitingTrigger
        (call.update fun w => { w with writeRequestId := none }))
    else reject
  | .ble (.notification characteristicUuid value) =>
    if w.phase = .awaitingTrigger ∧ some id = w.subscriptionRequestId ∧
        characteristicUuid = CHAR_TRANSFER_STATUS then
      triggerAnswered value call
    else reject
  | .timerFired timerId =>
    if (w.phase = .awaitingTrigger ∧ timerId = TRIGGER_TIMEOUT_ID ∨
          w.phase = .waitingToMonitor ∧ timerId = MONITOR_TIMER_ID) ∧
        some id = w.timerRequestId then
      .ok (timerFired timerId call)
    else reject
  | .ble (.disconnected _ _) =>
    .ok (fail ((DeviceSdkError.new .notConnected .upload true).withDetail
      "BLE observation detached during device upload") call)
  | .ble (.failed platformCode) =>
    if w.phase = .readingStatus ∧ some id = w.statusRequestId then
      .ok (fail (ownershipUnknown platformCode)
        (call.update fun w => { w with statusRequestId := none }))
    else if some id = w.subscriptionRequestId ∨ some id = w.writeRequestId then
      .ok (fail ((DeviceSdkError.new .connectionFailed .upload true).withDetail
        s!"device upload trigger failed with code {debugPlatformCode platformCode}") call)
    else reject
  | _ => reject

def cancel (w : UploadHandoffWorkflow) (context : WorkflowContext) :
    Reduction UploadHandoffWorkflow :=
  .ok ((cleanup (Step.begin w context)).request (.notify (.cancelled .upload)))

def terminalStatus (w : UploadHandoffWorkflow) : Outcome (Option WorkflowStatus) :=
  match w.phase with
  | .completed => .ok (some (.completed .upload))
  | .failed =>
    match w.terminalError with
    | some error => .ok (some (.failed error))
    | none => .panicked
  | _ => .ok none

instance : WorkflowReducer UploadHandoffWorkflow where
  start := start
  dispatch := dispatch
  cancel := cancel
  terminalStatus := terminalStatus
  cancellationId := (·.cancellationId)
  operation _ := .upload

end UploadHandoffWorkflow

/-- `Command::UploadRecording`. -/
structure UploadHandoffCommand where
  device : DeviceSerialNumber
  recording : RecordingUuid
  uploadId : UploadSessionId
  destinationId : UploadDestinationId
  deriving DecidableEq

instance : WorkflowCommand UploadHandoffCommand UploadHandoffWorkflow where
  operation _ := .upload
  requiredCapabilitySlice _ := [.ble, .timer, .progress]
  create command cancellationId :=
    .ok {
      recording := command.recording
      uploadId := command.uploadId
      destinationId := command.destinationId
      cancellationId }

end BotaSdk
