import BotaSdk.Engine.History
import BotaSdk.Workflow.Provisioning

/-!
# What one event can do to a provisioning

`Transition` lists every accepted event once, with the state it leaves and the requests it issues.
-/

namespace BotaSdk

open History Protocol Provisioning

namespace ProvisioningWorkflow

/-! ## Requests of the endings -/

/-- `cleanup_effects`, issued as requests `n` and `m`. -/
def cleanupIssues (n m : RequestId) (w : ProvisioningWorkflow) : List (RequestId × Effect) :=
  (n, .timer (.cancel PROVISIONING_TIMER_ID)) ::
    match w.subscriptionRequestId with
    | none => []
    | some _ => [(m, unsubscribeEffect)]

section Endings

variable (call : Call)

@[simp] theorem cleanupEffects_workflow :
    (cleanupEffects call).workflow =
      { call.workflow with timerRequestId := none, subscriptionRequestId := none } := by
  rw [cleanupEffects]
  simp only [Step.request_workflow, Step.update_workflow]
  split
  · rename_i h
    rw [← h]
    rfl
  · rfl

theorem cleanupEffects_issued :
    ∃ m, issued (cleanupEffects call) =
      issued call ++ cleanupIssues call.context.nextRequestId m call.workflow := by
  refine ⟨call.context.advance.nextRequestId, ?_⟩
  cases h : call.workflow.subscriptionRequestId with
  | none => simp [cleanupEffects, cleanupIssues, h]
  | some id => simp [cleanupEffects, cleanupIssues, h]

end Endings

/-! ## Transitions -/

/-- The chunk that is due when the write in flight has completed. -/
def nextChunk (w : ProvisioningWorkflow) : Option Nat :=
  match w.phase with
  | .writingEndpoint => some w.chunkIndex
  | .writingToken => some (saturatingAdd w.chunkIndex 1)
  | _ => none

/-- Every accepted event: the state it leaves and the requests it issues.  `n` is the identifier of
the first of them. -/
inductive Transition (w : ProvisioningWorkflow) (n : RequestId) :
    HostEvent → ProvisioningWorkflow → List (RequestId × Effect) → Prop
  | checkpointSaved {id : RequestId} :
      id ∈ w.checkpointRequestIds →
      Transition w n ⟨id, .checkpointSaved⟩
        { w with checkpointRequestIds := w.checkpointRequestIds.erase id } []
  | nonceRead {id : RequestId} {value : List UInt8} {nonce : ProvisioningNonce} :
      w.phase = .readingNonce → w.nonceRequestId = some id →
      Transition w n ⟨id, .ble (.readCompleted value)⟩
        { w with
          nonceRequestId := none, nonce := some nonce, phase := .readingPublicKey
          publicKeyRequestId := some n }
        [(n, .ble (.read SERVICE_BOTA_AUTH CHAR_PK_D))]
  | keyRead {id : RequestId} {value : List UInt8} {nonce : ProvisioningNonce} :
      w.phase = .readingPublicKey → w.publicKeyRequestId = some id → w.nonce = some nonce →
      Transition w n ⟨id, .ble (.readCompleted value)⟩
        { w with
          publicKeyRequestId := none, devicePublicKey := some ⟨value⟩, phase := .preparingMaterial
          materialRequestId := some n }
        [(n, .hostMaterial (.prepareProvisioning w.materialId w.device nonce ⟨value⟩))]
  | materialPrepared {id : RequestId} {material : ProvisioningMaterial} {endpoint : List UInt8}
      {chunks : List (List UInt8)} :
      w.phase = .preparingMaterial → w.materialRequestId = some id →
      encodeMaterial material = .ok (endpoint, chunks) →
      Transition w n ⟨id, .provisioningMaterialPrepared material⟩
        { w with
          materialRequestId := none, encrypted := true, apiEndpoint := endpoint
          tokenChunks := chunks, chunkIndex := 0, nonce := none, devicePublicKey := none
          phase := .subscribing, subscriptionRequestId := some n }
        [(n, subscribeEffect)]
  | subscribed {id : RequestId} :
      w.phase = .subscribing → w.subscriptionRequestId = some id →
      Transition w n ⟨id, .ble (.subscribed CHAR_PROVISIONING_RESULT)⟩
        { w with phase := .writingEndpoint, writeRequestId := some n }
        [(n, endpointEffect w.apiEndpoint)]
  | written {id m : RequestId} {index : Nat} {payload : List UInt8} :
      w.writeRequestId = some id → w.nextChunk = some index →
      w.tokenChunks[index]? = some payload →
      Transition w n ⟨id, .ble .writeCompleted⟩
        { w with
          chunkIndex := index, phase := .writingToken, writeRequestId := some n
          checkpointRequestIds := insert m w.checkpointRequestIds }
        [(n, chunkEffect w.encrypted payload),
          (m, checkpointEffect { w with chunkIndex := index })]
  | writtenLast {id : RequestId} {index : Nat} :
      w.writeRequestId = some id → w.nextChunk = some index → w.tokenChunks[index]? = none →
      Transition w n ⟨id, .ble .writeCompleted⟩
        { w with chunkIndex := index, phase := .awaitingResult, writeRequestId := none } []
  | succeeded {id m k j : RequestId} {value : List UInt8} {w' : ProvisioningWorkflow} :
      expectsResult w → w.subscriptionRequestId = some id →
      value.head? = some PROVISIONING_SUCCESS → w'.phase = .completed →
      Transition w n ⟨id, .ble (.notification CHAR_PROVISIONING_RESULT value)⟩ w'
        (cleanupIssues n m w ++
          [(k, .persistence .deleteCheckpoint), (j, .notify (.completed .provision))])
  | failed {event : HostEvent} {m k : RequestId} {w' : ProvisioningWorkflow}
      {error : DeviceSdkError} :
      w'.phase = .failed → w'.terminalError = some error →
      Transition w n event w' (cleanupIssues n m w ++ [(k, .notify (.failed error))])

/-- Ending a call that has requested nothing and kept its subscription is a failed transition. -/
theorem transition_of_fail {w : ProvisioningWorkflow} {n : RequestId} {event : HostEvent}
    {call : Call} {error : DeviceSdkError} (hn : call.context.nextRequestId = n)
    (hsub : call.workflow.subscriptionRequestId = w.subscriptionRequestId)
    (hissued : issued call = []) :
    Transition w n event (fail error call).workflow (issued (fail error call)) := by
  subst hn
  obtain ⟨m, hcleanup⟩ := cleanupEffects_issued (call.update fun w =>
    clearVolatile { w with phase := .failed, terminalError := some error })
  have hsame : cleanupIssues call.context.nextRequestId m
      (clearVolatile { call.workflow with phase := .failed, terminalError := some error }) =
      cleanupIssues call.context.nextRequestId m w := by
    rw [cleanupIssues, clearVolatile, cleanupIssues, hsub]
  rw [fail, issued_request, hcleanup, issued_update, hissued, List.nil_append, Step.update_context,
    Step.update_workflow, hsame]
  exact .failed (by simp [clearVolatile]) (by simp [clearVolatile])

/-- The nonce was read. -/
theorem readPublicKey_cases {w : ProvisioningWorkflow} {id : RequestId} {context : WorkflowContext}
    (hphase : w.phase = .readingNonce) (hid : w.nonceRequestId = some id) (value : List UInt8) :
    let call := readPublicKey value
      ((Step.begin w context).update fun w => { w with nonceRequestId := none })
    Transition w context.nextRequestId ⟨id, .ble (.readCompleted value)⟩ call.workflow
      (issued call) := by
  intro call
  by_cases hlength : value.length = 16
  · have hcall : call = _ := dif_pos hlength
    rw [hcall, issued_request]
    exact .nonceRead hphase hid
  · have hcall : call = _ := dif_neg hlength
    rw [hcall]
    exact transition_of_fail rfl rfl rfl

/-- The public key was read. -/
theorem prepareMaterial_cases {w : ProvisioningWorkflow} {id : RequestId}
    {nonce : ProvisioningNonce} (context : WorkflowContext) (hphase : w.phase = .readingPublicKey)
    (hid : w.publicKeyRequestId = some id) (hnonce : w.nonce = some nonce) (value : List UInt8) :
    ∃ call, prepareMaterial value ((Step.begin w context).update
        fun w => { w with publicKeyRequestId := none }) = .ok call ∧
      Transition w context.nextRequestId ⟨id, .ble (.readCompleted value)⟩ call.workflow
        (issued call) := by
  by_cases hlength : value.length = 64
  · refine ⟨_, by rw [prepareMaterial, if_pos hlength]; simp only [Step.update_workflow,
      Step.begin_workflow, hnonce]; rfl, ?_⟩
    rw [issued_request]
    exact .keyRead hphase hid hnonce
  · exact ⟨_, by rw [prepareMaterial, if_neg hlength], transition_of_fail rfl rfl rfl⟩

/-- The host prepared the material. -/
theorem acceptMaterial_cases {w : ProvisioningWorkflow} {id : RequestId} {context : WorkflowContext}
    (hphase : w.phase = .preparingMaterial) (hid : w.materialRequestId = some id)
    (material : ProvisioningMaterial) :
    let call := acceptMaterial material
      ((Step.begin w context).update fun w => { w with materialRequestId := none })
    Transition w context.nextRequestId ⟨id, .provisioningMaterialPrepared material⟩ call.workflow
      (issued call) := by
  intro call
  cases hencode : encodeMaterial material with
  | error error =>
    have hcall : call = fail error (((Step.begin w context).update
        fun w => { w with materialRequestId := none }).update fun w =>
          if material.apiEndpoint.length = 1 ∧ (credential material).isSome then
            { w with encrypted := true } else w) := by
      simp only [call, acceptMaterial, hencode]
    rw [hcall]
    refine transition_of_fail rfl ?_ rfl
    simp only [Step.update_workflow, Step.begin_workflow]
    split <;> rfl
  | ok encoded =>
    obtain ⟨endpoint, chunks⟩ := encoded
    have hcall : call = (((Step.begin w context).update
        fun w => { w with materialRequestId := none }).update fun w =>
          { w with
            encrypted := true, apiEndpoint := endpoint, tokenChunks := chunks, chunkIndex := 0
            nonce := none, devicePublicKey := none, phase := .subscribing }).request subscribeEffect
          fun id w => { w with subscriptionRequestId := some id } := by
      simp only [call, acceptMaterial, hencode]
    rw [hcall, issued_request]
    exact .materialPrepared hphase hid hencode

/-- The write in flight has completed, and the chunk `index` is due. -/
theorem writeNextChunk_cases {w w' : ProvisioningWorkflow} {id : RequestId} {index : Nat}
    {context : WorkflowContext} (hid : w.writeRequestId = some id)
    (hnext : w.nextChunk = some index)
    (hw' : w' = { w with writeRequestId := none, chunkIndex := index }) :
    let call := writeNextChunk ((Step.begin w context).update fun _ => w')
    Transition w context.nextRequestId ⟨id, .ble .writeCompleted⟩ call.workflow (issued call) := by
  subst hw'
  intro call
  cases hpayload : w.tokenChunks[index]? with
  | none =>
    have hcall : call = (((Step.begin w context).update
        fun _ => { w with writeRequestId := none, chunkIndex := index }).update
          fun w => { w with phase := .awaitingResult, writeRequestId := none }) := by
      simp only [call, writeNextChunk, Step.update_workflow, hpayload]
    rw [hcall]
    exact .writtenLast hid hnext hpayload
  | some payload =>
    have hcall : call = checkpoint ((((Step.begin w context).update
        fun _ => { w with writeRequestId := none, chunkIndex := index }).update
          fun w => { w with phase := .writingToken }).request (chunkEffect w.encrypted payload)
        fun id w => { w with writeRequestId := some id }) := by
      simp only [call, writeNextChunk, Step.update_workflow, hpayload]
    rw [hcall, checkpoint, issued_request, issued_request]
    exact .written hid hnext hpayload

theorem receiveResult_cases {w : ProvisioningWorkflow} {id : RequestId} {context : WorkflowContext}
    (hexpects : expectsResult w) (hid : w.subscriptionRequestId = some id) (value : List UInt8) :
    let call := receiveResult value (Step.begin w context)
    Transition w context.nextRequestId ⟨id, .ble (.notification CHAR_PROVISIONING_RESULT value)⟩
      call.workflow (issued call) := by
  intro call
  cases hhead : value.head? with
  | none =>
    have hcall : call = fail (rejected "empty provisioning result") (Step.begin w context) := by
      simp only [call, receiveResult, hhead]
    rw [hcall]
    exact transition_of_fail rfl rfl rfl
  | some code =>
    by_cases hcode : code = PROVISIONING_SUCCESS
    · have hcall : call = complete (Step.begin w context) := by
        simp only [call, receiveResult, hhead, if_pos hcode]
      rw [hcode] at hhead
      rw [hcall, complete, issued_request, issued_request]
      obtain ⟨m, hcleanup⟩ := cleanupEffects_issued
        ((Step.begin w context).update fun w => clearVolatile { w with phase := .completed })
      rw [hcleanup, List.append_assoc]
      exact .succeeded hexpects hid hhead (by simp [clearVolatile])
    · have hcall : call = fail (protocolRejection code) (Step.begin w context) := by
        simp only [call, receiveResult, hhead, if_neg hcode]
      rw [hcall]
      exact transition_of_fail rfl rfl rfl

/-- The public key is read with the nonce at hand. -/
def Formed (w : ProvisioningWorkflow) : Prop :=
  w.phase = .readingPublicKey → ∃ nonce, w.nonce = some nonce

theorem dispatch_ble {w : ProvisioningWorkflow} (hformed : Formed w) (id : RequestId)
    (event : BleEvent) (context : WorkflowContext) :
    (∃ call : Call, dispatch w ⟨id, .ble event⟩ context = .ok call ∧
      Transition w context.nextRequestId ⟨id, .ble event⟩ call.workflow (issued call)) ∨
    dispatch w ⟨id, .ble event⟩ context = .err w context unexpected := by
  cases event with
  | readCompleted value =>
    by_cases hnonce : w.phase = .readingNonce ∧ some id = w.nonceRequestId
    · exact .inl ⟨_, if_pos hnonce, readPublicKey_cases hnonce.1 hnonce.2.symm value⟩
    · by_cases hkey : w.phase = .readingPublicKey ∧ some id = w.publicKeyRequestId
      · obtain ⟨nonce, hsome⟩ := hformed hkey.1
        obtain ⟨call, hcall, hstep⟩ :=
          prepareMaterial_cases context hkey.1 hkey.2.symm hsome value
        have hsettle := congrArg (settleCall { w with publicKeyRequestId := none } context) hcall
        exact .inl ⟨call, (if_neg hnonce).trans ((if_pos hkey).trans hsettle), hstep⟩
      · exact .inr ((if_neg hnonce).trans (if_neg hkey))
  | subscribed characteristicUuid =>
    by_cases h : w.phase = .subscribing ∧ some id = w.subscriptionRequestId ∧
        characteristicUuid = CHAR_PROVISIONING_RESULT
    · refine .inl ⟨_, if_pos h, ?_⟩
      obtain ⟨hphase, hid, rfl⟩ := h
      exact .subscribed hphase hid.symm
    · exact .inr (if_neg h)
  | writeCompleted =>
    by_cases h : some id = w.writeRequestId
    · have hwritten : dispatch w ⟨id, .ble .writeCompleted⟩ context = _ := if_pos h
      cases hphase : w.phase with
      | writingEndpoint =>
        have hnext : w.nextChunk = some w.chunkIndex := by rw [nextChunk, hphase]
        exact .inl ⟨_, by rw [hwritten]; simp only [hphase]; rfl,
          writeNextChunk_cases h.symm hnext rfl⟩
      | writingToken =>
        have hnext : w.nextChunk = some (saturatingAdd w.chunkIndex 1) := by rw [nextChunk, hphase]
        exact .inl ⟨_, by rw [hwritten]; simp only [hphase]; rfl,
          writeNextChunk_cases h.symm hnext rfl⟩
      | _ => exact .inr (by rw [hwritten]; simp only [hphase])
    · exact .inr (if_neg h)
  | notification characteristicUuid value =>
    by_cases h : some id = w.subscriptionRequestId ∧
        characteristicUuid = CHAR_PROVISIONING_RESULT ∧ expectsResult w
    · refine .inl ⟨_, if_pos h, ?_⟩
      obtain ⟨hid, rfl, hexpects⟩ := h
      exact receiveResult_cases hexpects hid.symm value
    · exact .inr (if_neg h)
  | disconnected peripheralId reasonCode => exact .inl ⟨_, rfl, transition_of_fail rfl rfl rfl⟩
  | failed platformCode =>
    by_cases h : some id ∈
        [w.nonceRequestId, w.publicKeyRequestId, w.subscriptionRequestId, w.writeRequestId]
    · exact .inl ⟨_, if_pos h, transition_of_fail rfl rfl rfl⟩
    · exact .inr (if_neg h)
  | _ => exact .inr rfl

/-- A dispatch either takes a transition or rejects the event and changes nothing. -/
theorem dispatch_cases {w : ProvisioningWorkflow} (hformed : Formed w) (event : HostEvent)
    (context : WorkflowContext) :
    (∃ call : Call, dispatch w event context = .ok call ∧
      Transition w context.nextRequestId event call.workflow (issued call)) ∨
    dispatch w event context = .err w context unexpected := by
  obtain ⟨id, kind⟩ := event
  cases kind with
  | ble event => exact dispatch_ble hformed id event context
  | checkpointSaved =>
    by_cases h : id ∈ w.checkpointRequestIds
    · exact .inl ⟨_, if_pos h, .checkpointSaved h⟩
    · exact .inr (if_neg h)
  | provisioningMaterialPrepared material =>
    by_cases h : w.phase = .preparingMaterial ∧ some id = w.materialRequestId
    · exact .inl ⟨_, if_pos h, acceptMaterial_cases h.1 h.2.symm material⟩
    · exact .inr (if_neg h)
  | hostMaterialFailed platformCode =>
    by_cases h : w.phase = .preparingMaterial ∧ some id = w.materialRequestId
    · exact .inl ⟨_, if_pos h, transition_of_fail rfl rfl rfl⟩
    · exact .inr (if_neg h)
  | timerFired timerId =>
    by_cases h : timerId = PROVISIONING_TIMER_ID ∧ some id = w.timerRequestId
    · exact .inl ⟨_, if_pos h, transition_of_fail rfl rfl rfl⟩
    · exact .inr (if_neg h)
  | _ => exact .inr rfl

/-- Cancelling cleans up, whatever the phase. -/
theorem cancel_issued (w : ProvisioningWorkflow) (context : WorkflowContext) :
    ∃ (call : Call) (m k : RequestId), cancel w context = .ok call ∧
      issued call = cleanupIssues context.nextRequestId m w ++
        [(k, .notify (.cancelled .provision))] := by
  obtain ⟨m, hcleanup⟩ := cleanupEffects_issued ((Step.begin w context).update clearVolatile)
  refine ⟨_, m, (cleanupEffects ((Step.begin w context).update clearVolatile)).context.nextRequestId,
    rfl, ?_⟩
  rw [issued_request, hcleanup]
  rfl

theorem terminalStatus_of_running {w : ProvisioningWorkflow} (hcompleted : w.phase ≠ .completed)
    (hfailed : w.phase ≠ .failed) : terminalStatus w = .ok none := by
  rw [terminalStatus]
  split
  · rename_i hphase
    exact absurd hphase hcompleted
  · rename_i hphase
    exact absurd hphase hfailed
  · rfl

/-- A transition that leaves the phases in between has the status to report. -/
theorem Transition.terminal {w w' : ProvisioningWorkflow} {n : RequestId} {event : HostEvent}
    {effects : List (RequestId × Effect)} (h : Transition w n event w' effects)
    (hrunning : w.phase ≠ .completed ∧ w.phase ≠ .failed)
    (hend : w'.phase = .completed ∨ w'.phase = .failed) :
    ∃ status, terminalStatus w' = .ok (some status) := by
  rcases hend with hphase | hphase
  · exact ⟨_, by rw [terminalStatus, hphase]⟩
  · cases h with
    | failed _ herror => exact ⟨_, by simp only [terminalStatus, hphase, herror]; rfl⟩
    | succeeded _ _ _ hcompleted =>
      rw [hcompleted] at hphase
      exact nomatch hphase
    | checkpointSaved => exact absurd hphase hrunning.2
    | _ => exact nomatch hphase

end ProvisioningWorkflow

end BotaSdk
