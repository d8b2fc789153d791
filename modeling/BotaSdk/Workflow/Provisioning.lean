import BotaSdk.Engine.Runtime
import BotaSdk.Protocol.ChunkedWrites
import Mathlib.Data.Finset.Basic

/-!
# Provisioning (`workflow/provisioning.rs`)

The host prepares the material from the device's nonce and public key; the endpoint and the chunks
of the credential envelope are then written one after the other.
-/

namespace BotaSdk

open Protocol

namespace Provisioning

def PROVISIONING_TIMEOUT_MS : Nat := 30000
def PROVISIONING_TIMER_ID : Nat := 1

/-- `b"BOTATOK1"`. -/
def TOKEN_MAGIC : List UInt8 := [0x42, 0x4F, 0x54, 0x41, 0x54, 0x4F, 0x4B, 0x31]

inductive Phase where
  | readingNonce
  | readingPublicKey
  | preparingMaterial
  | subscribing
  | writingEndpoint
  | writingToken
  | awaitingResult
  | completed
  | failed
  deriving DecidableEq

end Provisioning

open Provisioning

structure ProvisioningWorkflow where
  device : DeviceSerialNumber
  materialId : HostMaterialId
  cancellationId : CancellationId
  phase : Provisioning.Phase
  nonce : Option ProvisioningNonce
  devicePublicKey : Option DevicePublicKey
  apiEndpoint : List UInt8
  tokenChunks : List (List UInt8)
  encrypted : Bool
  chunkIndex : Nat
  nonceRequestId : Option RequestId
  publicKeyRequestId : Option RequestId
  materialRequestId : Option RequestId
  subscriptionRequestId : Option RequestId
  writeRequestId : Option RequestId
  timerRequestId : Option RequestId
  checkpointRequestIds : Finset RequestId
  terminalError : Option DeviceSdkError
  deriving DecidableEq

namespace ProvisioningWorkflow

def new (device : DeviceSerialNumber) (materialId : HostMaterialId)
    (cancellationId : CancellationId) : ProvisioningWorkflow where
  device := device
  materialId := materialId
  cancellationId := cancellationId
  phase := .readingNonce
  nonce := none
  devicePublicKey := none
  apiEndpoint := []
  tokenChunks := []
  encrypted := false
  chunkIndex := 0
  nonceRequestId := none
  publicKeyRequestId := none
  materialRequestId := none
  subscriptionRequestId := none
  writeRequestId := none
  timerRequestId := none
  checkpointRequestIds := ∅
  terminalError := none

abbrev Call := Step ProvisioningWorkflow

/-! ## The effects of each phase -/

def checkpointEffect (w : ProvisioningWorkflow) : Effect :=
  .persistence (.saveCheckpoint {
    workflow := .provisioning
    operation := .provision
    device := w.device
    recording := none
    phase := .verifying
    completedUnits := w.chunkIndex
    retryCount := 0
    lastSequence := none
    firmwareVersion := none })

def checkpoint (call : Call) : Call :=
  call.request (checkpointEffect call.workflow)
    fun id w => { w with checkpointRequestIds := insert id w.checkpointRequestIds }

def endpointEffect (payload : List UInt8) : Effect :=
  .ble (.write SERVICE_BOTA_PROVISIONING CHAR_API_ENDPOINT payload true)

def writeEndpoint (call : Call) : Call :=
  (call.update fun w => { w with phase := .writingEndpoint }).request
    (endpointEffect call.workflow.apiEndpoint) fun id w => { w with writeRequestId := some id }

def chunkEffect (encrypted : Bool) (payload : List UInt8) : Effect :=
  .ble (.write (if encrypted then SERVICE_BOTA_CREDENTIAL else SERVICE_BOTA_PROVISIONING)
    (if encrypted then CHAR_CREDENTIAL_ENVELOPE else CHAR_DEVICE_TOKEN) payload true)

def writeNextChunk (call : Call) : Call :=
  match call.workflow.tokenChunks[call.workflow.chunkIndex]? with
  | none => call.update fun w => { w with phase := .awaitingResult, writeRequestId := none }
  | some payload =>
    checkpoint ((call.update fun w => { w with phase := .writingToken }).request
      (chunkEffect call.workflow.encrypted payload) fun id w => { w with writeRequestId := some id })

def subscribeEffect : Effect :=
  .ble (.subscribe SERVICE_BOTA_PROVISIONING CHAR_PROVISIONING_RESULT)

def unsubscribeEffect : Effect :=
  .ble (.unsubscribe SERVICE_BOTA_PROVISIONING CHAR_PROVISIONING_RESULT)

def cleanupEffects (call : Call) : Call :=
  let call := (call.update fun w => { w with timerRequestId := none }).request
    (.timer (.cancel PROVISIONING_TIMER_ID))
  match call.workflow.subscriptionRequestId with
  | none => call
  | some _ =>
    (call.update fun w => { w with subscriptionRequestId := none }).request unsubscribeEffect

def clearVolatile (w : ProvisioningWorkflow) : ProvisioningWorkflow :=
  { w with nonce := none, devicePublicKey := none, apiEndpoint := [], tokenChunks := [] }

def complete (call : Call) : Call :=
  ((cleanupEffects (call.update fun w => clearVolatile { w with phase := .completed })).request
    (.persistence .deleteCheckpoint)).request (.notify (.completed .provision))

def fail (error : DeviceSdkError) (call : Call) : Call :=
  (cleanupEffects (call.update fun w =>
    clearVolatile { w with phase := .failed, terminalError := some error })).request
    (.notify (.failed error))

def protocolRejection (code : UInt8) : DeviceSdkError :=
  ((DeviceSdkError.new .protocolRejected .provision false).withProtocolStatus
    code.toNat).withDetail "device rejected provisioning material"

def rejected (detail : String) : DeviceSdkError :=
  (DeviceSdkError.new .protocolRejected .provision false).withDetail detail

def invalidInput (detail : String) : DeviceSdkError :=
  (DeviceSdkError.new .invalidInput .provision false).withDetail detail

def unexpected : DeviceSdkError :=
  (DeviceSdkError.new .unexpectedEvent .provision false).withDetail
    "event does not belong to the active provisioning phase"

/-! ## The reducer -/

def start (w : ProvisioningWorkflow) (context : WorkflowContext) :
    Reduction ProvisioningWorkflow :=
  .ok (checkpoint ((((Step.begin w context).request (.notify (.started .provision))).request
    (.ble (.read SERVICE_BOTA_AUTH CHAR_AUTH_NONCE))
    fun id w => { w with nonceRequestId := some id }).request
    (.timer (.schedule PROVISIONING_TIMER_ID PROVISIONING_TIMEOUT_MS))
    fun id w => { w with timerRequestId := some id }))

/-- The nonce was read. -/
def readPublicKey (value : List UInt8) (call : Call) : Call :=
  if hlength : value.length = 16 then
    (call.update fun w =>
      { w with nonce := some ⟨⟨value, hlength⟩⟩, phase := .readingPublicKey }).request
      (.ble (.read SERVICE_BOTA_AUTH CHAR_PK_D))
      fun id w => { w with publicKeyRequestId := some id }
  else fail (rejected "provisioning nonce must be exactly 16 bytes") call

/-- The public key was read. -/
def prepareMaterial (value : List UInt8) (call : Call) : Outcome Call :=
  if value.length = 64 then
    match call.workflow.nonce with
    | none => .panicked
    | some nonce =>
      .ok ((call.update fun w =>
        { w with devicePublicKey := some ⟨value⟩, phase := .preparingMaterial }).request
        (.hostMaterial (.prepareProvisioning call.workflow.materialId call.workflow.device nonce
          ⟨value⟩))
        fun id w => { w with materialRequestId := some id })
  else .ok (fail (rejected "device public key must be exactly 64 bytes") call)

/-- The envelope of the material, when it is an encrypted credential. -/
def credential (material : ProvisioningMaterial) : Option (List UInt8) :=
  material.credentialEnvelope.filter fun bytes =>
    material.deviceToken = [] ∧ 230 ≤ bytes.length ∧ bytes.length ≤ 768 ∧
      bytes.take 8 = TOKEN_MAGIC ∧ 23 ≤ material.mtu ∧ material.mtu ≤ 517

/-- The endpoint and the chunks that `material` is written as. -/
def encodeMaterial (material : ProvisioningMaterial) :
    Except DeviceSdkError (List UInt8 × List (List UInt8)) := do
  let endpoint ← encodeBoundedPayload material.apiEndpoint 1
  if endpoint.length ≠ 1 then throw (invalidInput "API endpoint must contain exactly one byte")
  match credential material with
  | none => throw (invalidInput "an encrypted device credential is required")
  | some tokenBytes =>
    let chunks ← encodeProvisioningChunks tokenBytes material.mtu
    if chunks = [] then throw (invalidInput "device token cannot be empty")
    return (endpoint, chunks)

/-- The host prepared the material. -/
def acceptMaterial (material : ProvisioningMaterial) (call : Call) : Call :=
  match encodeMaterial material with
  | .error error =>
    -- an envelope that is accepted marks the workflow before its chunks can fail
    let accepted := material.apiEndpoint.length = 1 ∧ (credential material).isSome
    fail error (call.update fun w => if accepted then { w with encrypted := true } else w)
  | .ok (endpoint, chunks) =>
    (call.update fun w =>
      { w with
        encrypted := true, apiEndpoint := endpoint, tokenChunks := chunks, chunkIndex := 0
        nonce := none, devicePublicKey := none, phase := .subscribing }).request subscribeEffect
      fun id w => { w with subscriptionRequestId := some id }

/-- The device's answer to the material. -/
def receiveResult (value : List UInt8) (call : Call) : Call :=
  match value.head? with
  | none => fail (rejected "empty provisioning result") call
  | some code =>
    if code = PROVISIONING_SUCCESS then complete call else fail (protocolRejection code) call

/-- Whether a result can come now: every chunk has been submitted. -/
def expectsResult (w : ProvisioningWorkflow) : Bool :=
  w.phase = .awaitingResult ∨
    (w.phase = .writingToken ∧ saturatingAdd w.chunkIndex 1 = w.tokenChunks.length)

def settleCall (w : ProvisioningWorkflow) (context : WorkflowContext) :
    Outcome Call → Reduction ProvisioningWorkflow
  | .ok call => .ok call
  | .err error => .err w context error
  | .panicked => .panic w context

def dispatch (w : ProvisioningWorkflow) (event : HostEvent) (context : WorkflowContext) :
    Reduction ProvisioningWorkflow :=
  let call := Step.begin w context
  let reject := Reduction.err w context unexpected
  let retryable (code : ErrorCode) (detail : String) : DeviceSdkError :=
    (DeviceSdkError.new code .provision true).withDetail detail
  match event.kind with
  | .checkpointSaved =>
    if event.requestId ∈ w.checkpointRequestIds then
      .ok (call.update fun w =>
        { w with checkpointRequestIds := w.checkpointRequestIds.erase event.requestId })
    else reject
  | .ble (.readCompleted value) =>
    if w.phase = .readingNonce ∧ some event.requestId = w.nonceRequestId then
      .ok (readPublicKey value (call.update fun w => { w with nonceRequestId := none }))
    else if w.phase = .readingPublicKey ∧ some event.requestId = w.publicKeyRequestId then
      let call := call.update fun w => { w with publicKeyRequestId := none }
      settleCall call.workflow call.context (prepareMaterial value call)
    else reject
  | .provisioningMaterialPrepared material =>
    if w.phase = .preparingMaterial ∧ some event.requestId = w.materialRequestId then
      .ok (acceptMaterial material (call.update fun w => { w with materialRequestId := none }))
    else reject
  | .ble (.subscribed characteristicUuid) =>
    if w.phase = .subscribing ∧ some event.requestId = w.subscriptionRequestId ∧
        characteristicUuid = CHAR_PROVISIONING_RESULT then
      .ok (writeEndpoint call)
    else reject
  | .ble .writeCompleted =>
    if some event.requestId = w.writeRequestId then
      let written := call.update fun w => { w with writeRequestId := none }
      match w.phase with
      | .writingEndpoint => .ok (writeNextChunk written)
      | .writingToken =>
        .ok (writeNextChunk (written.update fun w =>
          { w with chunkIndex := saturatingAdd w.chunkIndex 1 }))
      | _ => reject
    else reject
  | .ble (.notification characteristicUuid value) =>
    if some event.requestId = w.subscriptionRequestId ∧
        characteristicUuid = CHAR_PROVISIONING_RESULT ∧ expectsResult w then
      .ok (receiveResult value call)
    else reject
  | .ble (.disconnected _ _) =>
    .ok (fail (retryable .notConnected "device disconnected during provisioning") call)
  | .ble (.failed platformCode) =>
    if some event.requestId ∈
        [w.nonceRequestId, w.publicKeyRequestId, w.subscriptionRequestId, w.writeRequestId] then
      .ok (fail (retryable .connectionFailed
        s!"BLE provisioning operation failed with code {debugPlatformCode platformCode}") call)
    else reject
  | .hostMaterialFailed platformCode =>
    if w.phase = .preparingMaterial ∧ some event.requestId = w.materialRequestId then
      .ok (fail (retryable .internal
        s!"host material preparation failed with code {debugPlatformCode platformCode}") call)
    else reject
  | .timerFired timerId =>
    if timerId = PROVISIONING_TIMER_ID ∧ some event.requestId = w.timerRequestId then
      .ok (fail (retryable .timeout "provisioning timed out") call)
    else reject
  | _ => reject

def cancel (w : ProvisioningWorkflow) (context : WorkflowContext) :
    Reduction ProvisioningWorkflow :=
  .ok ((cleanupEffects ((Step.begin w context).update clearVolatile)).request
    (.notify (.cancelled .provision)))

def terminalStatus (w : ProvisioningWorkflow) : Outcome (Option WorkflowStatus) :=
  match w.phase with
  | .completed => .ok (some (.completed .provision))
  | .failed =>
    match w.terminalError with
    | some error => .ok (some (.failed error))
    | none => .panicked
  | _ => .ok none

instance : WorkflowReducer ProvisioningWorkflow where
  start := start
  dispatch := dispatch
  cancel := cancel
  terminalStatus := terminalStatus
  cancellationId := (·.cancellationId)
  operation _ := .provision

end ProvisioningWorkflow

/-- `Command::Provision`. -/
structure ProvisionCommand where
  device : DeviceSerialNumber
  materialId : HostMaterialId
  deriving DecidableEq

instance : WorkflowCommand ProvisionCommand ProvisioningWorkflow where
  operation _ := .provision
  requiredCapabilitySlice _ := [.ble, .timer, .persistence, .hostMaterial]
  create command cancellationId :=
    .ok (ProvisioningWorkflow.new command.device command.materialId cancellationId)

end BotaSdk
