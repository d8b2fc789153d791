import BotaSdk.Workflow.Connection
import BotaSdk.Protocol.Ota

/-!
# Updating the firmware (`workflow/firmware_update.rs`)

The image is downloaded, sent in chunks and verified by the device, which then reboots.  From there on
a nested `ConnectionWorkflow` reconnects the device; it allocates its requests from the same context.
-/

namespace BotaSdk

open Protocol

namespace FirmwareUpdate

def ACK_WINDOW : Nat := 8
def ACK_TIMEOUT_ID : Nat := 101
def ACK_TIMEOUT_MS : Nat := 5000
def REBOOT_TIMEOUT_ID : Nat := 102
def REBOOT_TIMEOUT_MS : Nat := 30000
def RECONNECT_TIMEOUT_ID : Nat := 103
def RECONNECT_TIMEOUT_MS : Nat := 120000
def RECONNECT_RETRY_ID : Nat := 104
def RECONNECT_RETRY_MS : Nat := 1000
def RESPONSE_TIMEOUT_ID : Nat := 105
def RESPONSE_TIMEOUT_MS : Nat := 30000

inductive Phase where
  | loadingCheckpoint
  | downloading
  | subscribing
  | starting
  | awaitingReady
  | readingChunk
  | writingChunk
  | waitingAck
  | verifying
  | awaitingVerify
  | awaitingReboot
  | reconnecting
  | waitingReconnectRetry
  | readingVersion
  | completed
  | failed
  deriving DecidableEq

end FirmwareUpdate

open FirmwareUpdate

structure FirmwareUpdateWorkflow where
  device : DeviceSerialNumber
  image : FirmwareImage
  downloadId : Nat
  reconnectHint : ReconnectHint
  cancellationId : CancellationId
  phase : FirmwareUpdate.Phase := .loadingCheckpoint
  offset : Nat := 0
  nextSequence : Nat := 0
  pendingChunkUnits : Nat := 0
  latestAck : Option Nat := none
  waitingAck : Option Nat := none
  readyResult : Option UInt8 := none
  verifyResult : Option UInt8 := none
  retryCount : Nat := 0
  loadRequestId : Option RequestId := none
  downloadRequestId : Option RequestId := none
  blobRequestId : Option RequestId := none
  subscriptionRequestId : Option RequestId := none
  writeRequestId : Option RequestId := none
  timerRequestId : Option RequestId := none
  timerId : Option Nat := none
  reconnectTimerRequestId : Option RequestId := none
  checkpointRequestIds : Finset RequestId := ∅
  connection : Option ConnectionWorkflow := none
  terminalError : Option DeviceSdkError := none
  deriving DecidableEq

namespace FirmwareUpdateWorkflow

/-- `FirmwareUpdateWorkflow::new`; the other fields start empty. -/
def new (device : DeviceSerialNumber) (image : FirmwareImage) (downloadId : Nat)
    (reconnectHint : ReconnectHint) (cancellationId : CancellationId) : FirmwareUpdateWorkflow :=
  { device, image, downloadId, reconnectHint, cancellationId }

abbrev Call := Step FirmwareUpdateWorkflow

def sizeBytes (w : FirmwareUpdateWorkflow) : Nat := w.image.sizeBytes.toNat

def checkpointMatches (w : FirmwareUpdateWorkflow) (checkpoint : WorkflowCheckpoint) : Bool :=
  checkpoint.workflow = .firmwareUpdate && checkpoint.operation = .updateFirmware &&
    checkpoint.device = w.device && checkpoint.firmwareVersion = some w.image.version

/-! ## The effects of each phase -/

def checkpoint (phase : CheckpointPhase) (call : Call) : Call :=
  call.request (.persistence (.saveCheckpoint {
    workflow := .firmwareUpdate
    operation := .updateFirmware
    device := call.workflow.device
    recording := none
    phase
    completedUnits := call.workflow.offset
    retryCount := call.workflow.retryCount
    lastSequence := if call.workflow.nextSequence = 0 then none else some (call.workflow.nextSequence - 1)
    firmwareVersion := some call.workflow.image.version }))
    fun id w => { w with checkpointRequestIds := insert id w.checkpointRequestIds }

def progress (phase : FirmwareUpdatePhase) (completedBytes totalBytes : Nat) (call : Call) : Call :=
  call.request (.notify (.firmwareProgress { phase, completedBytes, totalBytes }))

def scheduleTimer (timerId delayMs : Nat) (call : Call) : Call :=
  (call.update fun w => { w with timerId := some timerId }).request
    (.timer (.schedule timerId delayMs)) fun id w => { w with timerRequestId := some id }

def cancelTimer (call : Call) : Call :=
  let call := call.update fun w => { w with timerRequestId := none }
  match call.workflow.timerId with
  | none => call
  | some timerId =>
    (call.update fun w => { w with timerId := none }).request (.timer (.cancel timerId))

def cancelReconnectTimer (call : Call) : Call :=
  match call.workflow.reconnectTimerRequestId with
  | none => call
  | some _ =>
    (call.update fun w => { w with reconnectTimerRequestId := none }).request
      (.timer (.cancel RECONNECT_TIMEOUT_ID))

def unsubscribe (call : Call) : Call :=
  match call.workflow.subscriptionRequestId with
  | none => call
  | some _ =>
    (call.update fun w => { w with subscriptionRequestId := none }).request
      (.ble (.unsubscribe SERVICE_BOTA_STORAGE CHAR_TRANSFER_STATUS))

def fail (error : DeviceSdkError) (call : Call) : Call :=
  (unsubscribe (cancelReconnectTimer (cancelTimer (call.update fun w =>
    { w with phase := .failed, terminalError := some error })))).request (.notify (.failed error))

def complete (call : Call) : Call :=
  let call := unsubscribe (cancelReconnectTimer (cancelTimer
    (call.update fun w => { w with phase := .completed })))
  (progress .complete call.workflow.sizeBytes call.workflow.sizeBytes
    (call.request (.persistence .deleteCheckpoint))).request (.notify (.completed .updateFirmware))

/-- The download is requested before the progress is notified, and returned after it. -/
def beginDownload (call : Call) : Call :=
  let call := call.update fun w => { w with phase := .downloading }
  let download := call.next (.network (.download call.workflow.downloadId))
  let call := call.allocate fun id w => { w with downloadRequestId := some id }
  (progress .downloading 0 call.workflow.sizeBytes call).push download

def subscribe (call : Call) : Call :=
  let call := call.update fun w => { w with phase := .subscribing }
  let subscription := call.next (.ble (.subscribe SERVICE_BOTA_STORAGE CHAR_TRANSFER_STATUS))
  let call := call.allocate fun id w => { w with subscriptionRequestId := some id }
  (progress .awaitingDevice 0 call.workflow.sizeBytes call).push subscription

def writeStart (call : Call) : Call :=
  (call.update fun w => { w with phase := .starting, readyResult := none }).request
    (.ble (.write SERVICE_BOTA_STORAGE CHAR_TRANSFER_CONTROL
      (encodeFirmwareUploadStart call.workflow.image.sizeBytes) true))
    fun id w => { w with writeRequestId := some id }

def writeVerify (call : Call) : Call :=
  let call := call.update fun w => { w with phase := .verifying, verifyResult := none }
  let write := call.next (.ble (.write SERVICE_BOTA_STORAGE CHAR_TRANSFER_CONTROL
    (encodeFirmwareUploadVerify call.workflow.image.crc32) true))
  let call := call.allocate fun id w => { w with writeRequestId := some id }
  (progress .verifying call.workflow.sizeBytes call.workflow.sizeBytes call).push write

def readNextOrVerify (call : Call) : Call :=
  if call.workflow.sizeBytes ≤ call.workflow.offset then writeVerify call
  else
    let remaining := call.workflow.sizeBytes - call.workflow.offset
    (call.update fun w => { w with phase := .readingChunk }).request
      (.firmwareBlob (.readChunk call.workflow.downloadId call.workflow.offset
        (min remaining FIRMWARE_CHUNK_SIZE)))
      fun id w => { w with blobRequestId := some id }

/-- Every upload starts the transfer from zero. -/
def beginTransfer (call : Call) : Call :=
  readNextOrVerify (cancelTimer (call.update fun w =>
    { w with
      offset := 0, nextSequence := 0, pendingChunkUnits := 0, latestAck := none
      waitingAck := none }))

def writeChunk (bytes : List UInt8) (call : Call) : Reduction FirmwareUpdateWorkflow :=
  let call := call.update fun w =>
    { w with phase := .writingChunk, pendingChunkUnits := bytes.length }
  match encodeFirmwareData call.workflow.nextSequence bytes with
  | .ok payload =>
    .ok (call.request (.ble (.write SERVICE_BOTA_STORAGE CHAR_RECORDING_TRANSFER payload false))
      fun id w => { w with writeRequestId := some id })
  | .error error => .err call.workflow call.context error

def waitForAck (sequence : Nat) (call : Call) : Call :=
  scheduleTimer ACK_TIMEOUT_ID ACK_TIMEOUT_MS
    (call.update fun w => { w with phase := .waitingAck, waitingAck := some sequence })

def beginReboot (call : Call) : Call :=
  let call := cancelTimer (call.update fun w => { w with phase := .awaitingReboot })
  scheduleTimer REBOOT_TIMEOUT_ID REBOOT_TIMEOUT_MS
    (progress .rebooting call.workflow.sizeBytes call.workflow.sizeBytes call)

def readVersion (call : Call) : Call :=
  (call.update fun w => { w with phase := .readingVersion }).request
    (.ble (.read SERVICE_DEVICE_INFO CHAR_FIRMWARE_REVISION))
    fun id w => { w with writeRequestId := some id }

/-! ## The nested connection -/

/-- The effects of the connection that the host is not handed. -/
def isConnectionInternal : Effect → Bool
  | .persistence (.saveCheckpoint _) | .persistence .deleteCheckpoint => true
  | .notify (.started .reconnect) | .notify (.completed .reconnect) => true
  | .notify (.failed _) => true
  | _ => false

def filterConnectionEffects (effects : List EffectRequest) : List EffectRequest :=
  effects.filter fun request => !isConnectionInternal request.effect

/-- A call of the connection within a call of the update. -/
def adopt (reduction : Reduction ConnectionWorkflow) (call : Call) : Call where
  workflow := { call.workflow with connection := some reduction.workflow }
  context := reduction.context
  effects := call.effects ++ filterConnectionEffects reduction.outcome.effects

/-- A reconnection always starts. -/
def startReconnectAttempt (call : Call) : Call :=
  let connection := ConnectionWorkflow.reconnect call.workflow.device call.workflow.reconnectHint
    call.workflow.cancellationId
  adopt (connection.start call.context) (call.update fun w => { w with phase := .reconnecting })

def beginReconnect (call : Call) : Call :=
  let call := checkpoint .reconnecting
    (progress .reconnecting call.workflow.sizeBytes call.workflow.sizeBytes call)
  startReconnectAttempt (call.request (.timer (.schedule RECONNECT_TIMEOUT_ID RECONNECT_TIMEOUT_MS))
    fun id w => { w with reconnectTimerRequestId := some id })

/-- The effects of the connection's `cancel`, if there is one; it always returns. -/
def cancelConnection (call : Call) : Call :=
  match call.workflow.connection with
  | none => call
  | some connection => adopt (connection.cancel call.context) call

def updateError (code : ErrorCode) (detail : String) : DeviceSdkError :=
  (DeviceSdkError.new code .updateFirmware true).withDetail detail

/-- A failed connection that is worth another attempt. -/
def retriesConnection (error : DeviceSdkError) : Bool :=
  error.retryable &&
    (error.code = .deviceNotFound || error.code = .connectionFailed || error.code = .notConnected ||
      error.code = .timeout)

def retried (w : FirmwareUpdateWorkflow) : FirmwareUpdateWorkflow :=
  { w with retryCount := min (w.retryCount + 1) 65535 }

/-- The event goes to the connection; the update goes on once that has ended. -/
def toConnection (connection : ConnectionWorkflow) (event : HostEvent) (call : Call) :
    Reduction FirmwareUpdateWorkflow :=
  let reduction := connection.dispatch event call.context
  let adopted := adopt reduction call
  match reduction.outcome with
  | .panicked => .panic adopted.workflow adopted.context
  | .err error => .err adopted.workflow adopted.context error
  | .ok _ =>
    match reduction.workflow.terminalStatus with
    | .ok (some (.completed _)) =>
      .ok (readVersion (cancelReconnectTimer
        (adopted.update fun w => { w with connection := none })))
    | .ok (some (.failed error)) =>
      if retriesConnection error then
        .ok (scheduleTimer RECONNECT_RETRY_ID RECONNECT_RETRY_MS (adopted.update fun w =>
          retried { w with connection := none, phase := .waitingReconnectRetry }))
      else
        -- the connection's own effects are dropped here
        .ok (fail error { adopted with
          workflow := { adopted.workflow with connection := none }, effects := call.effects })
    | .panicked => .panic adopted.workflow adopted.context
    | _ => .ok adopted

def dispatchReconnect (event : HostEvent) (call : Call) : Reduction FirmwareUpdateWorkflow :=
  if event.kind = .timerFired RECONNECT_TIMEOUT_ID ∧
      some event.requestId = call.workflow.reconnectTimerRequestId then
    .ok (fail (updateError .timeout "timed out waiting for firmware reboot reconnect")
      (cancelConnection call))
  else if call.workflow.phase = .waitingReconnectRetry then
    if event.kind = .timerFired RECONNECT_RETRY_ID ∧
        some event.requestId = call.workflow.timerRequestId then
      .ok (startReconnectAttempt (cancelTimer call))
    else .ok call
  else
    match call.workflow.connection with
    | some connection => toConnection connection event call
    | none => .panic call.workflow call.context

/-! ## The reducer -/

def start (w : FirmwareUpdateWorkflow) (context : WorkflowContext) :
    Reduction FirmwareUpdateWorkflow :=
  .ok (((Step.begin w context).request (.notify (.started .updateFirmware))).request
    (.persistence .loadCheckpoint) fun id w => { w with loadRequestId := some id })

def handleStatusNotification (value : List UInt8) (call : Call) :
    Reduction FirmwareUpdateWorkflow :=
  match parseOtaStatus value with
  | .error error => .err call.workflow call.context error
  | .ok status =>
    if status.command = FIRMWARE_UPLOAD_START then
      if status.result ≠ 0 then
        .ok (fail (((DeviceSdkError.new .protocolRejected .updateFirmware true).withProtocolStatus
          status.result.toNat).withDetail
          "device rejected firmware upload or failed storage write") call)
      else
        match call.workflow.phase with
        | .starting => .ok (call.update fun w => { w with readyResult := some status.result })
        | .awaitingReady => .ok (beginTransfer call)
        | _ => .ok call
    else if status.command = FIRMWARE_ACK then
      match status.sequence with
      | none => .ok call
      | some sequence =>
        let call := call.update fun w => { w with latestAck := some sequence }
        if call.workflow.phase = .waitingAck ∧ call.workflow.waitingAck = some sequence then
          .ok (readNextOrVerify (cancelTimer (call.update fun w => { w with waitingAck := none })))
        else .ok call
    else if status.command = FIRMWARE_UPLOAD_VERIFY then
      if status.result ≠ 0 then
        .ok (fail (((DeviceSdkError.new .integrityFailed .updateFirmware true).withProtocolStatus
          status.result.toNat).withDetail "device rejected the firmware CRC32") call)
      else
        match call.workflow.phase with
        | .verifying => .ok (call.update fun w => { w with verifyResult := some status.result })
        | .awaitingVerify => .ok (beginReboot call)
        | _ => .ok call
    else .ok call

def unexpected : DeviceSdkError :=
  (DeviceSdkError.new .unexpectedEvent .updateFirmware false).withDetail
    "event does not belong to the active firmware-update phase"

def responseTimeout (id : RequestId) (detail : String) (call : Call) :
    Reduction FirmwareUpdateWorkflow :=
  if some id ≠ call.workflow.timerRequestId then .ok call
  else .ok (fail (updateError .timeout detail) call)

def responseTimedOut (id : RequestId) (call : Call) : Reduction FirmwareUpdateWorkflow :=
  match call.workflow.phase with
  | .awaitingReady => responseTimeout id "device firmware upload readiness timed out" call
  | .awaitingVerify => responseTimeout id "device firmware verification result timed out" call
  | _ => .ok call

def checkpointLoaded (checkpoint : Option WorkflowCheckpoint) (call : Call) : Call :=
  let call := call.update fun w => { w with loadRequestId := none }
  match checkpoint.filter call.workflow.checkpointMatches with
  | none => beginDownload call
  | some checkpoint =>
    let call := call.update fun w => { w with retryCount := min (checkpoint.retryCount + 1) 65535 }
    match checkpoint.phase with
    | .reconnecting => beginReconnect call
    | .transferring | .verifying => subscribe call
    | _ => beginDownload call

def downloadCompleted (crc32 : Nat) (call : Call) : Call :=
  subscribe (FirmwareUpdateWorkflow.checkpoint .transferring (call.update fun w =>
    { w with downloadRequestId := none, image := { w.image with crc32 } }))

def startWritten (call : Call) : Call :=
  let call := call.update fun w => { w with writeRequestId := none }
  if call.workflow.readyResult = some 0 then beginTransfer call
  else
    scheduleTimer RESPONSE_TIMEOUT_ID RESPONSE_TIMEOUT_MS
      (call.update fun w => { w with phase := .awaitingReady })

def chunkRead (bytes : List UInt8) (call : Call) : Reduction FirmwareUpdateWorkflow :=
  let call := call.update fun w => { w with blobRequestId := none }
  let remaining := call.workflow.sizeBytes - call.workflow.offset
  if bytes.isEmpty ∨ FIRMWARE_CHUNK_SIZE < bytes.length ∨ remaining < bytes.length then
    .ok (fail (updateError .persistenceFailed "firmware blob returned an invalid chunk") call)
  else writeChunk bytes call

def chunkWritten (call : Call) : Call :=
  let sentSequence := call.workflow.nextSequence
  let call := call.update fun w =>
    { w with
      writeRequestId := none
      nextSequence := (w.nextSequence + 1) % 65536
      offset := saturatingAdd w.offset w.pendingChunkUnits
      pendingChunkUnits := 0 }
  let call := progress .transferring call.workflow.offset call.workflow.sizeBytes
    (FirmwareUpdateWorkflow.checkpoint .transferring call)
  if call.workflow.nextSequence % ACK_WINDOW = 0 then
    if call.workflow.latestAck = some sentSequence then readNextOrVerify call
    else waitForAck sentSequence call
  else readNextOrVerify call

def verifyWritten (call : Call) : Call :=
  let call := call.update fun w => { w with writeRequestId := none }
  if call.workflow.verifyResult = some 0 then beginReboot call
  else
    scheduleTimer RESPONSE_TIMEOUT_ID RESPONSE_TIMEOUT_MS
      (call.update fun w => { w with phase := .awaitingVerify })

/-- The text that the device reports as its version; bytes that are no text read as none. -/
def versionText (value : List UInt8) : String :=
  ConnectionWorkflow.trimMatches ((ConnectionWorkflow.fromUtf8 value).getD "")

def versionRead (value : List UInt8) (call : Call) : Call :=
  let call := call.update fun w => { w with writeRequestId := none }
  let version := versionText value
  if version = call.workflow.image.version then complete call
  else
    fail (updateError .protocolRejected
      s!"device reports firmware {version}, expected {call.workflow.image.version}") call

/-- The end of `dispatch`: an event in its phase. -/
def dispatchPhase (id : RequestId) (kind : HostEventKind) (call : Call) :
    Reduction FirmwareUpdateWorkflow :=
  let w := call.workflow
  let reject : Reduction FirmwareUpdateWorkflow := .err w call.context unexpected
  match kind with
  | .checkpointLoaded checkpoint =>
    if w.phase = .loadingCheckpoint ∧ some id = w.loadRequestId then
      .ok (checkpointLoaded checkpoint call)
    else reject
  | .network (.downloadProgress downloadId completedBytes totalBytes) =>
    if w.phase = .downloading ∧ some id = w.downloadRequestId ∧ downloadId = w.downloadId then
      .ok (progress .downloading completedBytes (totalBytes.getD w.sizeBytes) call)
    else reject
  | .network (.downloadCompleted downloadId crc32) =>
    if w.phase = .downloading ∧ some id = w.downloadRequestId ∧ downloadId = w.downloadId then
      .ok (downloadCompleted crc32 call)
    else reject
  | .network (.failed transferId statusCode) =>
    if w.phase = .downloading ∧ some id = w.downloadRequestId ∧ transferId = w.downloadId then
      .ok (fail (((DeviceSdkError.new .downloadFailed .updateFirmware true).withProtocolStatus
        (statusCode.getD 0)).withDetail "firmware download failed") call)
    else reject
  | .ble (.subscribed characteristicUuid) =>
    if w.phase = .subscribing ∧ some id = w.subscriptionRequestId ∧
        characteristicUuid = CHAR_TRANSFER_STATUS then
      .ok (writeStart call)
    else reject
  | .ble .writeCompleted =>
    if some id = w.writeRequestId then
      match w.phase with
      | .starting => .ok (startWritten call)
      | .writingChunk => .ok (chunkWritten call)
      | .verifying => .ok (verifyWritten call)
      | _ => reject
    else reject
  | .firmwareChunkRead downloadId offset bytes =>
    if w.phase = .readingChunk ∧ some id = w.blobRequestId ∧ downloadId = w.downloadId ∧
        offset = w.offset then
      chunkRead bytes call
    else reject
  | .timerFired timerId =>
    if w.phase = .waitingAck ∧ timerId = ACK_TIMEOUT_ID ∧ some id = w.timerRequestId then
      .ok (fail (updateError .timeout "firmware flow-control acknowledgement timed out") call)
    else if w.phase = .awaitingReboot ∧ timerId = REBOOT_TIMEOUT_ID ∧
        some id = w.timerRequestId then
      .ok (fail (updateError .timeout "device did not reboot after firmware verification") call)
    else reject
  | .ble (.readCompleted value) =>
    if w.phase = .readingVersion ∧ some id = w.writeRequestId then .ok (versionRead value call)
    else reject
  | .firmwareBlobFailed platformCode =>
    if some id = w.blobRequestId then
      .ok (fail (updateError .persistenceFailed
        s!"firmware blob read failed with code {debugPlatformCode platformCode}") call)
    else reject
  | .persistenceFailed platformCode =>
    if id ∈ w.checkpointRequestIds ∨ some id = w.loadRequestId then
      .ok (fail (updateError .persistenceFailed
        s!"firmware checkpoint failed with code {debugPlatformCode platformCode}")
        (call.update fun w =>
          { w with checkpointRequestIds := w.checkpointRequestIds.erase id }))
    else reject
  | .ble (.disconnected _ _) =>
    .ok (fail (updateError .notConnected
      "device disconnected before firmware verification completed") call)
  | .ble (.failed platformCode) =>
    if some id = w.subscriptionRequestId ∨ some id = w.writeRequestId ∨
        some id = w.blobRequestId then
      .ok (fail (updateError .connectionFailed
        s!"firmware BLE operation failed with code {debugPlatformCode platformCode}") call)
    else reject
  | _ => reject

/-- The device closes the link when it reboots; some hosts report its notification stream. -/
def Reboots (w : FirmwareUpdateWorkflow) (id : RequestId) : HostEventKind → Prop
  | .ble (.disconnected _ _) => True
  | .ble (.failed _) => some id = w.subscriptionRequestId
  | _ => False

instance (w : FirmwareUpdateWorkflow) (id : RequestId) (kind : HostEventKind) :
    Decidable (w.Reboots id kind) := by
  unfold Reboots
  split <;> infer_instance

/-- The payload of a status notification of the subscription. -/
def statusOf (w : FirmwareUpdateWorkflow) (id : RequestId) : HostEventKind → Option (List UInt8)
  | .ble (.notification characteristicUuid value) =>
    if some id = w.subscriptionRequestId ∧ characteristicUuid = CHAR_TRANSFER_STATUS then some value
    else none
  | _ => none

def dispatch (w : FirmwareUpdateWorkflow) (event : HostEvent) (context : WorkflowContext) :
    Reduction FirmwareUpdateWorkflow :=
  let call := Step.begin w context
  if event.kind = .checkpointSaved ∧ event.requestId ∈ w.checkpointRequestIds then
    .ok (call.update fun w =>
      { w with checkpointRequestIds := w.checkpointRequestIds.erase event.requestId })
  else if event.kind = .timerFired RESPONSE_TIMEOUT_ID then responseTimedOut event.requestId call
  else if w.phase = .reconnecting ∨ w.phase = .waitingReconnectRetry then
    dispatchReconnect event call
  else
    match w.statusOf event.requestId event.kind with
    | some value => handleStatusNotification value call
    | none =>
      if w.phase = .awaitingReboot ∧ w.Reboots event.requestId event.kind then
        .ok (beginReconnect (unsubscribe (cancelTimer call)))
      else dispatchPhase event.requestId event.kind call

def cancel (w : FirmwareUpdateWorkflow) (context : WorkflowContext) :
    Reduction FirmwareUpdateWorkflow :=
  .ok ((unsubscribe (cancelConnection (cancelReconnectTimer (cancelTimer
    (Step.begin w context))))).request (.notify (.cancelled .updateFirmware)))

def terminalStatus (w : FirmwareUpdateWorkflow) : Outcome (Option WorkflowStatus) :=
  match w.phase with
  | .completed => .ok (some (.completed .updateFirmware))
  | .failed =>
    match w.terminalError with
    | some error => .ok (some (.failed error))
    | none => .panicked
  | _ => .ok none

instance : WorkflowReducer FirmwareUpdateWorkflow where
  start := start
  dispatch := dispatch
  cancel := cancel
  terminalStatus := terminalStatus
  cancellationId := (·.cancellationId)
  operation _ := .updateFirmware

end FirmwareUpdateWorkflow

/-- `Command::UpdateFirmware`. -/
structure FirmwareUpdateCommand where
  device : DeviceSerialNumber
  image : FirmwareImage
  downloadId : Nat
  reconnectHint : ReconnectHint
  deriving DecidableEq

instance : WorkflowCommand FirmwareUpdateCommand FirmwareUpdateWorkflow where
  operation _ := .updateFirmware
  requiredCapabilitySlice _ :=
    [.ble, .networkTransfer, .persistence, .progress, .timer, .firmwareBlob]
  create command cancellationId :=
    .ok (.new command.device command.image command.downloadId command.reconnectHint cancellationId)

end BotaSdk
