import BotaSdk.Engine.Runtime
import BotaSdk.Protocol.Provisioning
import Mathlib.Data.Finset.Basic

/-!
# Authenticated factory reset (`workflow/factory_reset.rs`)

The device answers the destructive opcode with a result that it forgets once the receipt is written,
so the result is saved in the journal first.
-/

namespace BotaSdk

open Protocol

namespace FactoryReset

def FACTORY_RESET_TIMEOUT_MS : Nat := 30000
def FACTORY_RESET_TIMER_ID : Nat := 1

inductive Mode where
  | start (commandId : FactoryResetCommandId) (grantId : HostMaterialId)
  | resume (commandId : FactoryResetCommandId) (expectedResult : Option FactoryResetResult)
  deriving DecidableEq

inductive Phase where
  | readingNonce
  | preparingGrant
  | subscribing
  | writingGrant
  | writingOpcode
  | awaitingResult
  | persistingResult
  | writingReceipt
  | deletingResult
  | completed
  | failed
  deriving DecidableEq

end FactoryReset

open FactoryReset

structure FactoryResetWorkflow where
  device : DeviceSerialNumber
  mode : FactoryReset.Mode
  cancellationId : CancellationId
  phase : FactoryReset.Phase
  nonce : Option ProvisioningNonce
  grant : List UInt8
  bindingGeneration : List UInt8
  durableResult : Option DurableFactoryResetResult
  nonceRequestId : Option RequestId
  materialRequestId : Option RequestId
  subscriptionRequestId : Option RequestId
  writeRequestId : Option RequestId
  settlingOpcodeRequestId : Option RequestId
  saveRequestId : Option RequestId
  deleteRequestId : Option RequestId
  timerRequestId : Option RequestId
  checkpointRequestIds : Finset RequestId
  terminalError : Option DeviceSdkError
  deriving DecidableEq

namespace FactoryResetWorkflow

/-- `start_new` and `resume`, which differ in the mode and the first phase. -/
def new (device : DeviceSerialNumber) (mode : FactoryReset.Mode) (phase : FactoryReset.Phase)
    (cancellationId : CancellationId) : FactoryResetWorkflow where
  device := device
  mode := mode
  cancellationId := cancellationId
  phase := phase
  nonce := none
  grant := []
  bindingGeneration := [0, 0, 0, 0]
  durableResult := none
  nonceRequestId := none
  materialRequestId := none
  subscriptionRequestId := none
  writeRequestId := none
  settlingOpcodeRequestId := none
  saveRequestId := none
  deleteRequestId := none
  timerRequestId := none
  checkpointRequestIds := ∅
  terminalError := none

def startNew (device : DeviceSerialNumber) (commandId : FactoryResetCommandId)
    (grantId : HostMaterialId) (cancellationId : CancellationId) : FactoryResetWorkflow :=
  new device (.start commandId grantId) .readingNonce cancellationId

def resume (device : DeviceSerialNumber) (commandId : FactoryResetCommandId)
    (expectedResult : Option FactoryResetResult) (cancellationId : CancellationId) :
    FactoryResetWorkflow :=
  new device (.resume commandId expectedResult) .subscribing cancellationId

abbrev Call := Step FactoryResetWorkflow

def commandId (w : FactoryResetWorkflow) : FactoryResetCommandId :=
  match w.mode with
  | .start commandId _ | .resume commandId _ => commandId

/-! ## The effects of each phase -/

def commandEffect (payload : List UInt8) : Effect :=
  .ble (.write SERVICE_BOTA_CONTROL CHAR_DEVICE_COMMAND payload true)

def subscribeEffect : Effect :=
  .ble (.subscribe SERVICE_BOTA_PROVISIONING CHAR_PROVISIONING_RESULT)

def unsubscribeEffect : Effect :=
  .ble (.unsubscribe SERVICE_BOTA_PROVISIONING CHAR_PROVISIONING_RESULT)

def opcodeEffect (bindingGeneration : List UInt8) : Effect :=
  commandEffect (DEVICE_CMD_BLE_FACTORY_RESET :: bindingGeneration)

def receiptEffect : Effect :=
  commandEffect [DEVICE_CMD_BLE_FACTORY_RESET_RESULT_ACK]

def checkpoint (phase : CheckpointPhase) (call : Call) : Call :=
  call.request (.persistence (.saveCheckpoint {
    workflow := .factoryReset
    operation := .factoryReset
    device := call.workflow.device
    recording := none
    phase
    completedUnits := 0
    retryCount := 0
    lastSequence := none
    firmwareVersion := none }))
    fun id w => { w with checkpointRequestIds := insert id w.checkpointRequestIds }

def subscribe (call : Call) : Call :=
  (call.update fun w => { w with phase := .subscribing }).request subscribeEffect
    fun id w => { w with subscriptionRequestId := some id }

def writeGrant (call : Call) : Call :=
  (call.update fun w => { w with phase := .writingGrant }).request
    (commandEffect call.workflow.grant) fun id w => { w with writeRequestId := some id }

def writeOpcode (call : Call) : Call :=
  (call.update fun w => { w with grant := [], phase := .writingOpcode }).request
    (opcodeEffect call.workflow.bindingGeneration) fun id w => { w with writeRequestId := some id }

def unsubscribe (call : Call) : Call :=
  match call.workflow.subscriptionRequestId with
  | none => call
  | some _ =>
    (call.update fun w => { w with subscriptionRequestId := none }).request unsubscribeEffect

/-- The save is requested before the subscription ends, and returned after it. -/
def persistResult (result : DurableFactoryResetResult) (call : Call) : Call :=
  let call := call.update fun w =>
    { w with phase := .persistingResult, durableResult := some result }
  let save := call.next (.persistence (.saveFactoryResetResult result))
  let call := unsubscribe (call.allocate fun id w => { w with saveRequestId := some id })
  checkpoint .awaitingReceipt (call.push save)

def writeReceipt (call : Call) : Call :=
  (call.update fun w => { w with phase := .writingReceipt }).request receiptEffect
    fun id w => { w with writeRequestId := some id }

def deleteResult (call : Call) : Call :=
  (call.update fun w => { w with phase := .deletingResult }).request
    (.persistence (.deleteFactoryResetResult call.workflow.commandId))
    fun id w => { w with deleteRequestId := some id }

def cleanupEffects (call : Call) : Call :=
  unsubscribe ((call.update fun w => { w with timerRequestId := none }).request
    (.timer (.cancel FACTORY_RESET_TIMER_ID)))

def clearVolatile (w : FactoryResetWorkflow) : FactoryResetWorkflow :=
  { w with nonce := none, grant := [] }

def complete (call : Call) : Call :=
  ((cleanupEffects (call.update fun w => clearVolatile { w with phase := .completed })).request
    (.persistence .deleteCheckpoint)).request (.notify (.completed .factoryReset))

def fail (error : DeviceSdkError) (call : Call) : Call :=
  (cleanupEffects (call.update fun w =>
    clearVolatile { w with phase := .failed, terminalError := some error })).request
    (.notify (.failed error))

def protocolFailure (code : UInt8) : DeviceSdkError :=
  ((DeviceSdkError.new .protocolRejected .factoryReset false).withProtocolStatus
    code.toNat).withDetail "device rejected authenticated factory reset"

def persistenceFailure (platformCode : Option Int) : DeviceSdkError :=
  (DeviceSdkError.new .persistenceFailed .factoryReset true).withDetail
    s!"factory-reset journal operation failed with code {debugPlatformCode platformCode}"

def unexpected : DeviceSdkError :=
  (DeviceSdkError.new .unexpectedEvent .factoryReset false).withDetail
    "event does not belong to the active factory-reset phase"

/-! ## The reducer -/

def start (w : FactoryResetWorkflow) (context : WorkflowContext) :
    Reduction FactoryResetWorkflow :=
  let call := ((Step.begin w context).request (.notify (.started .factoryReset))).request
    (.timer (.schedule FACTORY_RESET_TIMER_ID FACTORY_RESET_TIMEOUT_MS))
    fun id w => { w with timerRequestId := some id }
  match w.mode with
  | .start .. =>
    .ok (checkpoint .verifying (call.request (.ble (.read SERVICE_BOTA_AUTH CHAR_AUTH_NONCE))
      fun id w => { w with nonceRequestId := some id }))
  | .resume .. => .ok (checkpoint .awaitingReceipt (subscribe call))

/-- The nonce was read. -/
def prepareGrant (value : List UInt8) (call : Call) : Outcome Call :=
  if hlength : value.length = 16 then
    let nonce : ProvisioningNonce := ⟨⟨value, hlength⟩⟩
    match call.workflow.mode with
    | .start _ grantId =>
      .ok ((call.update fun w => { w with nonce := some nonce, phase := .preparingGrant }).request
        (.hostMaterial (.prepareFactoryResetGrant grantId call.workflow.device nonce))
        fun id w => { w with materialRequestId := some id })
    | .resume .. => .panicked
  else
    .ok (fail ((DeviceSdkError.new .protocolRejected .factoryReset false).withDetail
      "factory-reset nonce must be exactly 16 bytes") call)

/-- The host prepared the grant. -/
def acceptGrant (grant : List UInt8) (call : Call) : Call :=
  match encodeBoundedPayload grant FACTORY_RESET_GRANT_LENGTH with
  | .error error => fail error call
  | .ok bounded =>
    if bounded.length = FACTORY_RESET_GRANT_LENGTH then
      subscribe (call.update fun w =>
        { w with bindingGeneration := bounded.take 4, grant := bounded, nonce := none })
    else
      fail ((DeviceSdkError.new .invalidInput .factoryReset false).withDetail
        "factory-reset grant must be exactly 179 bytes; deprovision grants cannot authorize reset") call

/-- The journal's expectation of a resumed reset. -/
def expects (w : FactoryResetWorkflow) (result : FactoryResetResult) : Bool :=
  match w.mode with
  | .resume _ (some expected) => expected = result
  | _ => true

/-- The device's answer to the opcode. -/
def receiveResult (value : List UInt8) (call : Call) : Reduction FactoryResetWorkflow :=
  if value.head? ≠ some PROVISIONING_SUCCESS then
    .ok (fail (protocolFailure (value.headD 255)) call)
  else if value.length ≠ 3 then
    .ok (fail ((DeviceSdkError.new .protocolRejected .factoryReset false).withDetail
      s!"factory-reset success must be exactly 3 bytes, received {value.length}") call)
  else
    -- the opcode's own callback may still come
    let call := if call.workflow.phase = .writingOpcode then
        call.update fun w =>
          { w with settlingOpcodeRequestId := w.writeRequestId, writeRequestId := none }
      else call
    match parseFactoryResetResult value with
    | .error error => .err call.workflow call.context error
    | .ok result =>
      if call.workflow.expects result then
        .ok (persistResult ⟨call.workflow.commandId, result⟩ call)
      else
        .ok (fail ((DeviceSdkError.new .protocolRejected .factoryReset false).withDetail
          "replayed factory-reset result does not match the journal") call)

/-- The callback of an opcode whose result has come before it. -/
def settleOpcode (call : Call) : Call :=
  let call := call.update fun w => { w with settlingOpcodeRequestId := none }
  if call.workflow.phase = .persistingResult ∧ call.workflow.saveRequestId = none then
    writeReceipt call
  else call

def settleCall (w : FactoryResetWorkflow) (context : WorkflowContext) :
    Outcome Call → Reduction FactoryResetWorkflow
  | .ok call => .ok call
  | .err error => .err w context error
  | .panicked => .panic w context

def dispatch (w : FactoryResetWorkflow) (event : HostEvent) (context : WorkflowContext) :
    Reduction FactoryResetWorkflow :=
  let call := Step.begin w context
  let reject := Reduction.err w context unexpected
  let failBle (platformCode : Option Int) : DeviceSdkError :=
    (DeviceSdkError.new .connectionFailed .factoryReset true).withDetail
      s!"BLE factory-reset operation failed with code {debugPlatformCode platformCode}"
  match event.kind with
  | .checkpointSaved =>
    if event.requestId ∈ w.checkpointRequestIds then
      .ok (call.update fun w =>
        { w with checkpointRequestIds := w.checkpointRequestIds.erase event.requestId })
    else reject
  | .ble .writeCompleted =>
    if some event.requestId = w.settlingOpcodeRequestId then .ok (settleOpcode call)
    else if some event.requestId = w.writeRequestId then
      let written := call.update fun w => { w with writeRequestId := none }
      match w.phase with
      | .writingGrant => .ok (writeOpcode written)
      | .writingOpcode => .ok (written.update fun w => { w with phase := .awaitingResult })
      | .writingReceipt => .ok (deleteResult written)
      | _ => reject
    else reject
  | .ble (.failed platformCode) =>
    if some event.requestId = w.settlingOpcodeRequestId then .ok (settleOpcode call)
    else if w.phase = .writingReceipt ∧ some event.requestId = w.writeRequestId then
      .ok (fail ((DeviceSdkError.new .connectionFailed .factoryReset true).withDetail
        s!"factory-reset receipt write failed with code {debugPlatformCode platformCode}")
        (call.update fun w => { w with writeRequestId := none }))
    else if some event.requestId ∈
        [w.nonceRequestId, w.subscriptionRequestId, w.writeRequestId] then
      .ok (fail (failBle platformCode) call)
    else reject
  | .ble (.readCompleted value) =>
    if w.phase = .readingNonce ∧ some event.requestId = w.nonceRequestId then
      let call := call.update fun w => { w with nonceRequestId := none }
      settleCall call.workflow call.context (prepareGrant value call)
    else reject
  | .factoryResetGrantPrepared grant =>
    if w.phase = .preparingGrant ∧ some event.requestId = w.materialRequestId then
      .ok (acceptGrant grant (call.update fun w => { w with materialRequestId := none }))
    else reject
  | .ble (.subscribed characteristicUuid) =>
    if w.phase = .subscribing ∧ some event.requestId = w.subscriptionRequestId ∧
        characteristicUuid = CHAR_PROVISIONING_RESULT then
      match w.mode with
      | .start .. => .ok (writeGrant call)
      | .resume .. => .ok (call.update fun w => { w with phase := .awaitingResult })
    else reject
  | .ble (.notification characteristicUuid value) =>
    if (w.phase = .awaitingResult ∨ w.phase = .writingOpcode) ∧
        some event.requestId = w.subscriptionRequestId ∧
        characteristicUuid = CHAR_PROVISIONING_RESULT then
      receiveResult value call
    else reject
  | .factoryResetResultSaved =>
    if w.phase = .persistingResult ∧ some event.requestId = w.saveRequestId then
      let saved := call.update fun w => { w with saveRequestId := none }
      if w.settlingOpcodeRequestId.isSome then .ok saved else .ok (writeReceipt saved)
    else reject
  | .persistenceFailed platformCode =>
    if w.phase = .persistingResult ∧ some event.requestId = w.saveRequestId then
      .ok (fail (persistenceFailure platformCode)
        (call.update fun w => { w with saveRequestId := none }))
    else if w.phase = .deletingResult ∧ some event.requestId = w.deleteRequestId then
      .ok (fail (persistenceFailure platformCode)
        (call.update fun w => { w with deleteRequestId := none }))
    else reject
  | .factoryResetResultDeleted =>
    if w.phase = .deletingResult ∧ some event.requestId = w.deleteRequestId then
      .ok (complete (call.update fun w => { w with deleteRequestId := none }))
    else reject
  | .ble (.disconnected _ _) =>
    if w.subscriptionRequestId.isSome then
      .ok (fail ((DeviceSdkError.new .notConnected .factoryReset true).withDetail
        "device disconnected before reset receipt completed") call)
    else reject
  | .hostMaterialFailed platformCode =>
    if w.phase = .preparingGrant ∧ some event.requestId = w.materialRequestId then
      .ok (fail ((DeviceSdkError.new .internal .factoryReset true).withDetail
        s!"factory-reset grant preparation failed with code {debugPlatformCode platformCode}") call)
    else reject
  | .timerFired timerId =>
    if timerId = FACTORY_RESET_TIMER_ID ∧ some event.requestId = w.timerRequestId then
      .ok (fail ((DeviceSdkError.new .timeout .factoryReset true).withDetail
        "factory reset timed out") call)
    else reject
  | _ => reject

def cancel (w : FactoryResetWorkflow) (context : WorkflowContext) :
    Reduction FactoryResetWorkflow :=
  .ok ((cleanupEffects ((Step.begin w context).update clearVolatile)).request
    (.notify (.cancelled .factoryReset)))

def terminalStatus (w : FactoryResetWorkflow) : Outcome (Option WorkflowStatus) :=
  match w.phase with
  | .completed => .ok (some (.completed .factoryReset))
  | .failed =>
    match w.terminalError with
    | some error => .ok (some (.failed error))
    | none => .panicked
  | _ => .ok none

instance : WorkflowReducer FactoryResetWorkflow where
  start := start
  dispatch := dispatch
  cancel := cancel
  terminalStatus := terminalStatus
  cancellationId := (·.cancellationId)
  operation _ := .factoryReset

end FactoryResetWorkflow

/-- `Command::FactoryReset` and `Command::ResumeFactoryReset`. -/
inductive FactoryResetCommand where
  | factoryReset (device : DeviceSerialNumber) (commandId : FactoryResetCommandId)
      (grantId : HostMaterialId)
  | resumeFactoryReset (device : DeviceSerialNumber) (commandId : FactoryResetCommandId)
      (expectedResult : Option FactoryResetResult)
  deriving DecidableEq

instance : WorkflowCommand FactoryResetCommand FactoryResetWorkflow where
  operation _ := .factoryReset
  requiredCapabilitySlice
    | .factoryReset .. => [.ble, .timer, .persistence, .hostMaterial]
    | .resumeFactoryReset .. => [.ble, .timer, .persistence]
  create command cancellationId :=
    match command with
    | .factoryReset device commandId grantId =>
      .ok (FactoryResetWorkflow.startNew device commandId grantId cancellationId)
    | .resumeFactoryReset device commandId expectedResult =>
      .ok (FactoryResetWorkflow.resume device commandId expectedResult cancellationId)

end BotaSdk
