import BotaSdk.Engine.History
import BotaSdk.Workflow.FactoryReset

/-!
# What one event can do to a factory reset

`Transition` lists every accepted event once, with the state it leaves and the requests it issues.
-/

namespace BotaSdk

open FactoryReset History Protocol

namespace FactoryResetWorkflow

/-! ## The requests of the shared endings -/

/-- `unsubscribe_effect`, issued as request `n`. -/
def unsubscribeIssues (n : RequestId) (w : FactoryResetWorkflow) : List (RequestId × Effect) :=
  match w.subscriptionRequestId with
  | none => []
  | some _ => [(n, unsubscribeEffect)]

/-- `cleanup_effects`, issued as requests `n` and `m`. -/
def cleanupIssues (n m : RequestId) (w : FactoryResetWorkflow) : List (RequestId × Effect) :=
  (n, .timer (.cancel FACTORY_RESET_TIMER_ID)) :: unsubscribeIssues m w

def checkpointEffect (phase : CheckpointPhase) (device : DeviceSerialNumber) : Effect :=
  .persistence (.saveCheckpoint {
    workflow := .factoryReset
    operation := .factoryReset
    device
    recording := none
    phase
    completedUnits := 0
    retryCount := 0
    lastSequence := none
    firmwareVersion := none })

section Endings

variable (call : Call)

@[simp] theorem unsubscribe_workflow :
    (unsubscribe call).workflow = { call.workflow with subscriptionRequestId := none } := by
  rw [unsubscribe]
  split
  · rename_i h
    rw [← h]
  · rfl

@[simp] theorem unsubscribe_issued :
    issued (unsubscribe call) =
      issued call ++ unsubscribeIssues call.context.nextRequestId call.workflow := by
  cases h : call.workflow.subscriptionRequestId with
  | none => simp [unsubscribe, unsubscribeIssues, h]
  | some id => simp [unsubscribe, unsubscribeIssues, h]

@[simp] theorem checkpoint_workflow (phase : CheckpointPhase) :
    (checkpoint phase call).workflow =
      { call.workflow with
        checkpointRequestIds :=
          insert call.context.nextRequestId call.workflow.checkpointRequestIds } := rfl

@[simp] theorem checkpoint_issued (phase : CheckpointPhase) :
    issued (checkpoint phase call) =
      issued call ++ [(call.context.nextRequestId, checkpointEffect phase call.workflow.device)] :=
  issued_request ..

@[simp] theorem cleanupEffects_workflow :
    (cleanupEffects call).workflow =
      { call.workflow with timerRequestId := none, subscriptionRequestId := none } := by
  simp [cleanupEffects]

theorem cleanupEffects_issued :
    ∃ m, issued (cleanupEffects call) =
      issued call ++ cleanupIssues call.context.nextRequestId m call.workflow := by
  refine ⟨call.context.advance.nextRequestId, ?_⟩
  rw [cleanupEffects, unsubscribe_issued, issued_request, issued_update, List.append_assoc]
  rfl

end Endings

/-! ## Transitions -/

/-- What a write can be answered with. -/
inductive IsCallback : BleEvent → Prop
  | completed : IsCallback .writeCompleted
  | failed (platformCode : Option Int) : IsCallback (.failed platformCode)

/-- Every accepted event: the state it leaves and the requests it issues.  `n` is the identifier of
the first of them. -/
inductive Transition (w : FactoryResetWorkflow) (n : RequestId) :
    HostEvent → FactoryResetWorkflow → List (RequestId × Effect) → Prop
  | checkpointSaved {id : RequestId} :
      id ∈ w.checkpointRequestIds →
      Transition w n ⟨id, .checkpointSaved⟩
        { w with checkpointRequestIds := w.checkpointRequestIds.erase id } []
  | nonceRead {id : RequestId} {value : List UInt8} {nonce : ProvisioningNonce}
      {commandId : FactoryResetCommandId} {grantId : HostMaterialId} :
      w.phase = .readingNonce → w.nonceRequestId = some id → w.mode = .start commandId grantId →
      Transition w n ⟨id, .ble (.readCompleted value)⟩
        { w with
          nonceRequestId := none, nonce := some nonce, phase := .preparingGrant
          materialRequestId := some n }
        [(n, .hostMaterial (.prepareFactoryResetGrant grantId w.device nonce))]
  | grantPrepared {id : RequestId} {grant : List UInt8} :
      w.phase = .preparingGrant → w.materialRequestId = some id →
      grant.length = FACTORY_RESET_GRANT_LENGTH →
      Transition w n ⟨id, .factoryResetGrantPrepared grant⟩
        { w with
          materialRequestId := none, bindingGeneration := grant.take 4, grant := grant
          nonce := none, phase := .subscribing, subscriptionRequestId := some n }
        [(n, subscribeEffect)]
  | subscribed {id : RequestId} {commandId : FactoryResetCommandId} {grantId : HostMaterialId} :
      w.phase = .subscribing → w.subscriptionRequestId = some id →
      w.mode = .start commandId grantId →
      Transition w n ⟨id, .ble (.subscribed CHAR_PROVISIONING_RESULT)⟩
        { w with phase := .writingGrant, writeRequestId := some n } [(n, commandEffect w.grant)]
  | resubscribed {id : RequestId} {commandId : FactoryResetCommandId}
      {expectedResult : Option FactoryResetResult} :
      w.phase = .subscribing → w.subscriptionRequestId = some id →
      w.mode = .resume commandId expectedResult →
      Transition w n ⟨id, .ble (.subscribed CHAR_PROVISIONING_RESULT)⟩
        { w with phase := .awaitingResult } []
  | grantWritten {id : RequestId} :
      w.phase = .writingGrant → w.writeRequestId = some id →
      Transition w n ⟨id, .ble .writeCompleted⟩
        { w with grant := [], phase := .writingOpcode, writeRequestId := some n }
        [(n, opcodeEffect w.bindingGeneration)]
  | opcodeWritten {id : RequestId} :
      w.phase = .writingOpcode → w.writeRequestId = some id →
      Transition w n ⟨id, .ble .writeCompleted⟩
        { w with phase := .awaitingResult, writeRequestId := none } []
  | result {id m k : RequestId} {value : List UInt8} {result : FactoryResetResult} :
      w.phase = .awaitingResult → w.subscriptionRequestId = some id →
      value.head? = some PROVISIONING_SUCCESS → parseFactoryResetResult value = .ok result →
      w.expects result →
      Transition w n ⟨id, .ble (.notification CHAR_PROVISIONING_RESULT value)⟩
        { w with
          phase := .persistingResult, durableResult := some ⟨w.commandId, result⟩
          saveRequestId := some n, subscriptionRequestId := none
          checkpointRequestIds := insert k w.checkpointRequestIds }
        (unsubscribeIssues m w ++
          [(n, .persistence (.saveFactoryResetResult ⟨w.commandId, result⟩)),
            (k, checkpointEffect .awaitingReceipt w.device)])
  | earlyResult {id m k : RequestId} {value : List UInt8} {result : FactoryResetResult} :
      w.phase = .writingOpcode → w.subscriptionRequestId = some id →
      value.head? = some PROVISIONING_SUCCESS → parseFactoryResetResult value = .ok result →
      w.expects result →
      Transition w n ⟨id, .ble (.notification CHAR_PROVISIONING_RESULT value)⟩
        { w with
          phase := .persistingResult, durableResult := some ⟨w.commandId, result⟩
          saveRequestId := some n, subscriptionRequestId := none
          settlingOpcodeRequestId := w.writeRequestId, writeRequestId := none
          checkpointRequestIds := insert k w.checkpointRequestIds }
        (unsubscribeIssues m w ++
          [(n, .persistence (.saveFactoryResetResult ⟨w.commandId, result⟩)),
            (k, checkpointEffect .awaitingReceipt w.device)])
  | saved {id : RequestId} :
      w.phase = .persistingResult → w.saveRequestId = some id →
      w.settlingOpcodeRequestId = none →
      Transition w n ⟨id, .factoryResetResultSaved⟩
        { w with saveRequestId := none, phase := .writingReceipt, writeRequestId := some n }
        [(n, receiptEffect)]
  | savedEarly {id : RequestId} :
      w.phase = .persistingResult → w.saveRequestId = some id →
      w.settlingOpcodeRequestId ≠ none →
      Transition w n ⟨id, .factoryResetResultSaved⟩ { w with saveRequestId := none } []
  | settled {id : RequestId} {answer : BleEvent} :
      IsCallback answer →
      w.settlingOpcodeRequestId = some id →
      ¬(w.phase = .persistingResult ∧ w.saveRequestId = none) →
      Transition w n ⟨id, .ble answer⟩ { w with settlingOpcodeRequestId := none } []
  | settledLast {id : RequestId} {answer : BleEvent} :
      IsCallback answer →
      w.settlingOpcodeRequestId = some id → w.phase = .persistingResult →
      w.saveRequestId = none →
      Transition w n ⟨id, .ble answer⟩
        { w with
          settlingOpcodeRequestId := none, phase := .writingReceipt, writeRequestId := some n }
        [(n, receiptEffect)]
  | receiptWritten {id : RequestId} :
      w.phase = .writingReceipt → w.writeRequestId = some id →
      Transition w n ⟨id, .ble .writeCompleted⟩
        { w with writeRequestId := none, phase := .deletingResult, deleteRequestId := some n }
        [(n, .persistence (.deleteFactoryResetResult w.commandId))]
  | deleted {id m k j : RequestId} {w' : FactoryResetWorkflow} :
      w.phase = .deletingResult → w.deleteRequestId = some id → w'.phase = .completed →
      Transition w n ⟨id, .factoryResetResultDeleted⟩ w'
        (cleanupIssues n m w ++
          [(k, .persistence .deleteCheckpoint), (j, .notify (.completed .factoryReset))])
  | failed {event : HostEvent} {m k : RequestId} {w' : FactoryResetWorkflow}
      {error : DeviceSdkError} :
      w'.phase = .failed → w'.terminalError = some error →
      Transition w n event w' (cleanupIssues n m w ++ [(k, .notify (.failed error))])

/-- Ending a call that has requested nothing and kept its subscription is a failed transition. -/
theorem transition_of_fail {w : FactoryResetWorkflow} {n : RequestId} {event : HostEvent}
    {call : Call} {error : DeviceSdkError} (hn : call.context.nextRequestId = n)
    (hsub : call.workflow.subscriptionRequestId = w.subscriptionRequestId)
    (hissued : issued call = []) :
    Transition w n event (fail error call).workflow (issued (fail error call)) := by
  subst hn
  obtain ⟨m, hcleanup⟩ := cleanupEffects_issued (call.update fun w =>
    clearVolatile { w with phase := .failed, terminalError := some error })
  have hsame : cleanupIssues call.context.nextRequestId m
      (clearVolatile { call.workflow with phase := .failed, terminalError := some error }) =
      cleanupIssues call.context.nextRequestId m w := by
    rw [cleanupIssues, unsubscribeIssues, clearVolatile, cleanupIssues, unsubscribeIssues, hsub]
  rw [fail, issued_request, hcleanup, issued_update, hissued, List.nil_append, Step.update_context,
    Step.update_workflow, hsame]
  exact .failed (by simp [clearVolatile]) (by simp [clearVolatile])

theorem transition_of_settle {w : FactoryResetWorkflow} {context : WorkflowContext}
    {id : RequestId} {answer : BleEvent} (hcallback : IsCallback answer)
    (hid : w.settlingOpcodeRequestId = some id) :
    Transition w context.nextRequestId ⟨id, .ble answer⟩
      (settleOpcode (Step.begin w context)).workflow
      (issued (settleOpcode (Step.begin w context))) := by
  by_cases h : w.phase = .persistingResult ∧ w.saveRequestId = none
  · have hsettle : settleOpcode (Step.begin w context) = writeReceipt
        ((Step.begin w context).update fun w => { w with settlingOpcodeRequestId := none }) :=
      if_pos h
    rw [hsettle, writeReceipt, issued_request]
    exact .settledLast hcallback hid h.1 h.2
  · have hsettle : settleOpcode (Step.begin w context) =
        (Step.begin w context).update fun w => { w with settlingOpcodeRequestId := none } :=
      if_neg h
    rw [hsettle]
    exact .settled hcallback hid h

/-- The nonce was read while the command reads it. -/
theorem nonceRead_cases {w : FactoryResetWorkflow} {id : RequestId}
    {commandId : FactoryResetCommandId} {grantId : HostMaterialId} (context : WorkflowContext)
    (hphase : w.phase = .readingNonce) (hid : w.nonceRequestId = some id)
    (hmode : w.mode = .start commandId grantId) (value : List UInt8) :
    ∃ call, prepareGrant value ((Step.begin w context).update
        fun w => { w with nonceRequestId := none }) = .ok call ∧
      Transition w context.nextRequestId ⟨id, .ble (.readCompleted value)⟩ call.workflow
        (issued call) := by
  by_cases hlength : value.length = 16
  · refine ⟨_, by rw [prepareGrant, dif_pos hlength]; simp only [Step.update_workflow,
      Step.begin_workflow, hmode]; rfl, ?_⟩
    rw [issued_request]
    exact .nonceRead hphase hid hmode
  · exact ⟨_, by rw [prepareGrant, dif_neg hlength], transition_of_fail rfl rfl rfl⟩

/-- The host prepared a grant. -/
theorem acceptGrant_cases {w : FactoryResetWorkflow} {context : WorkflowContext} {id : RequestId}
    (hphase : w.phase = .preparingGrant) (hid : w.materialRequestId = some id)
    (grant : List UInt8) :
    Transition w context.nextRequestId ⟨id, .factoryResetGrantPrepared grant⟩
      (acceptGrant grant ((Step.begin w context).update
        fun w => { w with materialRequestId := none })).workflow
      (issued (acceptGrant grant ((Step.begin w context).update
        fun w => { w with materialRequestId := none }))) := by
  rw [acceptGrant, encodeBoundedPayload]
  by_cases hlong : FACTORY_RESET_GRANT_LENGTH < grant.length
  · simp only [if_pos hlong]
    exact transition_of_fail rfl rfl rfl
  · simp only [if_neg hlong]
    by_cases hlength : grant.length = FACTORY_RESET_GRANT_LENGTH
    · simp only [if_pos hlength]
      exact .grantPrepared hphase hid hlength
    · simp only [if_neg hlength]
      exact transition_of_fail rfl rfl rfl

theorem persistResult_spec (result : DurableFactoryResetResult) (call : Call) :
    ∃ m k, (persistResult result call).workflow =
        { call.workflow with
          phase := .persistingResult, durableResult := some result
          saveRequestId := some call.context.nextRequestId, subscriptionRequestId := none
          checkpointRequestIds := insert k call.workflow.checkpointRequestIds } ∧
      issued (persistResult result call) = issued call ++ (unsubscribeIssues m call.workflow ++
        [(call.context.nextRequestId, .persistence (.saveFactoryResetResult result)),
          (k, checkpointEffect .awaitingReceipt call.workflow.device)]) := by
  let marked := call.update fun w =>
    { w with phase := .persistingResult, durableResult := some result }
  let allocated := marked.allocate fun id w => { w with saveRequestId := some id }
  have hpersist : persistResult result call = checkpoint .awaitingReceipt
      ((unsubscribe allocated).push (marked.next (.persistence (.saveFactoryResetResult result)))) :=
    rfl
  have hpushed : ((unsubscribe allocated).push
      (marked.next (.persistence (.saveFactoryResetResult result)))).workflow =
      (unsubscribe allocated).workflow := rfl
  refine ⟨allocated.context.nextRequestId, (unsubscribe allocated).context.nextRequestId, ?_, ?_⟩
  · rw [hpersist, checkpoint_workflow, hpushed, unsubscribe_workflow]
    rfl
  · rw [hpersist, checkpoint_issued, issued_push, unsubscribe_issued, hpushed,
      unsubscribe_workflow, List.append_assoc, List.append_assoc]
    rfl

/-- The device's success, with the call as the opcode's callback is set aside. -/
theorem receiveResult_success {value : List UInt8} {call received : Call}
    {result : FactoryResetResult} (hhead : value.head? = some PROVISIONING_SUCCESS)
    (hlength : value.length = 3) (hparse : parseFactoryResetResult value = .ok result)
    (hreceived : (if call.workflow.phase = .writingOpcode then
        call.update fun w =>
          { w with settlingOpcodeRequestId := w.writeRequestId, writeRequestId := none }
      else call) = received) :
    receiveResult value call =
      if received.workflow.expects result then
        .ok (persistResult ⟨received.workflow.commandId, result⟩ received)
      else
        .ok (fail ((DeviceSdkError.new .protocolRejected .factoryReset false).withDetail
          "replayed factory-reset result does not match the journal") received) := by
  rw [receiveResult, if_neg (not_not.mpr hhead), if_neg (not_not.mpr hlength), hreceived]
  simp only [hparse]

/-- The device answered: the result is saved, or the reset fails. -/
theorem receiveResult_cases {w : FactoryResetWorkflow} {id : RequestId}
    (context : WorkflowContext) (hphase : w.phase = .awaitingResult ∨ w.phase = .writingOpcode)
    (hid : w.subscriptionRequestId = some id) (value : List UInt8) :
    ∃ call, receiveResult value (Step.begin w context) = .ok call ∧
      Transition w context.nextRequestId
        ⟨id, .ble (.notification CHAR_PROVISIONING_RESULT value)⟩ call.workflow (issued call) := by
  by_cases hhead : value.head? = some PROVISIONING_SUCCESS
  · by_cases hlength : value.length = 3
    · obtain ⟨result, hparse⟩ := parseFactoryResetResult_ok hlength
      by_cases hexpects : w.expects result
      · rcases hphase with hawaiting | hwriting
        · have hnot : ¬(Step.begin w context).workflow.phase = .writingOpcode := by
            rw [Step.begin_workflow, hawaiting]
            decide
          rw [receiveResult_success hhead hlength hparse (if_neg hnot)]
          refine ⟨_, if_pos hexpects, ?_⟩
          obtain ⟨m, k, hworkflow, hissued⟩ :=
            persistResult_spec ⟨w.commandId, result⟩ (Step.begin w context)
          rw [Step.begin_workflow, hworkflow, hissued]
          exact .result hawaiting hid hhead hparse hexpects
        · rw [receiveResult_success hhead hlength hparse (if_pos hwriting)]
          refine ⟨_, if_pos hexpects, ?_⟩
          obtain ⟨m, k, hworkflow, hissued⟩ :=
            persistResult_spec ⟨w.commandId, result⟩ ((Step.begin w context).update fun w =>
              { w with settlingOpcodeRequestId := w.writeRequestId, writeRequestId := none })
          have hcommand : ((Step.begin w context).update fun w => { w with
              settlingOpcodeRequestId := w.writeRequestId
              writeRequestId := none }).workflow.commandId = w.commandId := rfl
          rw [hcommand, hworkflow, hissued]
          exact .earlyResult hwriting hid hhead hparse hexpects
      · rw [receiveResult_success hhead hlength hparse rfl]
        split
        · exact ⟨_, if_neg hexpects, transition_of_fail rfl rfl rfl⟩
        · exact ⟨_, if_neg hexpects, transition_of_fail rfl rfl rfl⟩
    · exact ⟨_, by rw [receiveResult, if_neg (not_not.mpr hhead), if_pos hlength],
        transition_of_fail rfl rfl rfl⟩
  · exact ⟨_, by rw [receiveResult, if_pos hhead], transition_of_fail rfl rfl rfl⟩

/-- Only a fresh reset reads a nonce. -/
def Formed (w : FactoryResetWorkflow) : Prop :=
  w.phase = .readingNonce → ∃ commandId grantId, w.mode = .start commandId grantId

/-- A BLE event either takes a transition or is rejected. -/
theorem dispatch_ble {w : FactoryResetWorkflow} (hformed : Formed w) (id : RequestId)
    (event : BleEvent) (context : WorkflowContext) :
    (∃ call : Call, dispatch w ⟨id, .ble event⟩ context = .ok call ∧
      Transition w context.nextRequestId ⟨id, .ble event⟩ call.workflow (issued call)) ∨
    dispatch w ⟨id, .ble event⟩ context = .err w context unexpected := by
  cases event with
  | writeCompleted =>
    by_cases hsettling : some id = w.settlingOpcodeRequestId
    · exact .inl ⟨_, if_pos hsettling, transition_of_settle .completed hsettling.symm⟩
    · by_cases hwrite : some id = w.writeRequestId
      · have hwritten : dispatch w ⟨id, .ble .writeCompleted⟩ context = _ :=
          (if_neg hsettling).trans (if_pos hwrite)
        cases hphase : w.phase with
        | writingGrant =>
          refine .inl ⟨_, by rw [hwritten]; simp only [hphase]; rfl, ?_⟩
          exact .grantWritten hphase hwrite.symm
        | writingOpcode =>
          refine .inl ⟨_, by rw [hwritten]; simp only [hphase]; rfl, ?_⟩
          exact .opcodeWritten hphase hwrite.symm
        | writingReceipt =>
          refine .inl ⟨_, by rw [hwritten]; simp only [hphase]; rfl, ?_⟩
          exact .receiptWritten hphase hwrite.symm
        | _ => exact .inr (by rw [hwritten]; simp only [hphase])
      · exact .inr ((if_neg hsettling).trans (if_neg hwrite))
  | failed platformCode =>
    by_cases hsettling : some id = w.settlingOpcodeRequestId
    · exact .inl ⟨_, if_pos hsettling, transition_of_settle (.failed platformCode) hsettling.symm⟩
    · by_cases hreceipt : w.phase = .writingReceipt ∧ some id = w.writeRequestId
      · exact .inl ⟨_, (if_neg hsettling).trans (if_pos hreceipt),
          transition_of_fail rfl rfl rfl⟩
      · by_cases htracked : some id ∈
            [w.nonceRequestId, w.subscriptionRequestId, w.writeRequestId]
        · exact .inl ⟨_, (if_neg hsettling).trans ((if_neg hreceipt).trans (if_pos htracked)),
            transition_of_fail rfl rfl rfl⟩
        · exact .inr ((if_neg hsettling).trans ((if_neg hreceipt).trans (if_neg htracked)))
  | readCompleted value =>
    by_cases h : w.phase = .readingNonce ∧ some id = w.nonceRequestId
    · obtain ⟨commandId, grantId, hmode⟩ := hformed h.1
      obtain ⟨call, hcall, hstep⟩ :=
        nonceRead_cases context h.1 h.2.symm hmode value
      refine .inl ⟨call, (if_pos h).trans ?_, hstep⟩
      rw [hcall]
      rfl
    · exact .inr (if_neg h)
  | subscribed characteristicUuid =>
    by_cases h : w.phase = .subscribing ∧ some id = w.subscriptionRequestId ∧
        characteristicUuid = CHAR_PROVISIONING_RESULT
    · obtain ⟨hphase, hid, rfl⟩ := h
      have hsubscribed : dispatch w ⟨id, .ble (.subscribed CHAR_PROVISIONING_RESULT)⟩ context = _ :=
        if_pos ⟨hphase, hid, rfl⟩
      cases hmode : w.mode with
      | start commandId grantId =>
        refine .inl ⟨_, by rw [hsubscribed]; simp only [hmode]; rfl, ?_⟩
        exact .subscribed hphase hid.symm hmode
      | resume commandId expectedResult =>
        refine .inl ⟨_, by rw [hsubscribed]; simp only [hmode]; rfl, ?_⟩
        exact .resubscribed hphase hid.symm hmode
    · exact .inr (if_neg h)
  | notification characteristicUuid value =>
    by_cases h : (w.phase = .awaitingResult ∨ w.phase = .writingOpcode) ∧
        some id = w.subscriptionRequestId ∧ characteristicUuid = CHAR_PROVISIONING_RESULT
    · obtain ⟨hphase, hid, rfl⟩ := h
      obtain ⟨call, hcall, hstep⟩ :=
        receiveResult_cases context hphase hid.symm value
      exact .inl ⟨call, (if_pos ⟨hphase, hid, rfl⟩).trans hcall, hstep⟩
    · exact .inr (if_neg h)
  | disconnected deviceId platformCode =>
    by_cases h : w.subscriptionRequestId.isSome
    · exact .inl ⟨_, if_pos h, transition_of_fail rfl rfl rfl⟩
    · exact .inr (if_neg h)
  | _ => exact .inr rfl

/-- A dispatch either takes a transition or rejects the event and changes nothing. -/
theorem dispatch_cases {w : FactoryResetWorkflow} (hformed : Formed w) (event : HostEvent)
    (context : WorkflowContext) :
    (∃ call : Call, dispatch w event context = .ok call ∧
      Transition w context.nextRequestId event call.workflow (issued call)) ∨
    dispatch w event context = .err w context unexpected := by
  obtain ⟨id, kind⟩ := event
  cases kind with
  | ble event => exact dispatch_ble hformed id event context
  | checkpointSaved =>
    by_cases h : id ∈ w.checkpointRequestIds
    · exact .inl ⟨_, if_pos h, .checkpointSaved h⟩
    · exact .inr (if_neg h)
  | factoryResetGrantPrepared grant =>
    by_cases h : w.phase = .preparingGrant ∧ some id = w.materialRequestId
    · exact .inl ⟨_, if_pos h, acceptGrant_cases h.1 h.2.symm grant⟩
    · exact .inr (if_neg h)
  | factoryResetResultSaved =>
    by_cases h : w.phase = .persistingResult ∧ some id = w.saveRequestId
    · by_cases hsettling : w.settlingOpcodeRequestId = none
      · have hnone : ¬w.settlingOpcodeRequestId.isSome := by simp [hsettling]
        refine .inl ⟨_, (if_pos h).trans (if_neg hnone), ?_⟩
        exact .saved h.1 h.2.symm hsettling
      · have hsome : w.settlingOpcodeRequestId.isSome := Option.isSome_iff_ne_none.mpr hsettling
        refine .inl ⟨_, (if_pos h).trans (if_pos hsome), ?_⟩
        exact .savedEarly h.1 h.2.symm hsettling
    · exact .inr (if_neg h)
  | persistenceFailed platformCode =>
    by_cases h : w.phase = .persistingResult ∧ some id = w.saveRequestId
    · exact .inl ⟨_, if_pos h, transition_of_fail rfl rfl rfl⟩
    · by_cases hdelete : w.phase = .deletingResult ∧ some id = w.deleteRequestId
      · exact .inl ⟨_, (if_neg h).trans (if_pos hdelete), transition_of_fail rfl rfl rfl⟩
      · exact .inr ((if_neg h).trans (if_neg hdelete))
  | factoryResetResultDeleted =>
    by_cases h : w.phase = .deletingResult ∧ some id = w.deleteRequestId
    · refine .inl ⟨_, if_pos h, ?_⟩
      rw [complete, issued_request, issued_request]
      obtain ⟨m, hcleanup⟩ := cleanupEffects_issued
        (((Step.begin w context).update fun w => { w with deleteRequestId := none }).update
          fun w => clearVolatile { w with phase := .completed })
      rw [hcleanup, List.append_assoc]
      exact .deleted h.1 h.2.symm (by simp [clearVolatile])
    · exact .inr (if_neg h)
  | hostMaterialFailed platformCode =>
    by_cases h : w.phase = .preparingGrant ∧ some id = w.materialRequestId
    · exact .inl ⟨_, if_pos h, transition_of_fail rfl rfl rfl⟩
    · exact .inr (if_neg h)
  | timerFired timerId =>
    by_cases h : timerId = FACTORY_RESET_TIMER_ID ∧ some id = w.timerRequestId
    · exact .inl ⟨_, if_pos h, transition_of_fail rfl rfl rfl⟩
    · exact .inr (if_neg h)
  | _ => exact .inr rfl

/-- Cancelling cleans up, whatever the phase. -/
theorem cancel_issued (w : FactoryResetWorkflow) (context : WorkflowContext) :
    ∃ (call : Call) (m k : RequestId), cancel w context = .ok call ∧
      issued call = cleanupIssues context.nextRequestId m w ++
        [(k, .notify (.cancelled .factoryReset))] := by
  obtain ⟨m, hcleanup⟩ := cleanupEffects_issued ((Step.begin w context).update clearVolatile)
  refine ⟨_, m, (cleanupEffects ((Step.begin w context).update clearVolatile)).context.nextRequestId,
    rfl, ?_⟩
  rw [issued_request, hcleanup]
  rfl

theorem terminalStatus_of_running {w : FactoryResetWorkflow} (hcompleted : w.phase ≠ .completed)
    (hfailed : w.phase ≠ .failed) : terminalStatus w = .ok none := by
  rw [terminalStatus]
  split
  · rename_i hphase
    exact absurd hphase hcompleted
  · rename_i hphase
    exact absurd hphase hfailed
  · rfl

/-- A transition into a terminal phase has the status to report. -/
theorem Transition.terminal {w w' : FactoryResetWorkflow} {n : RequestId} {event : HostEvent}
    {effects : List (RequestId × Effect)} (h : Transition w n event w' effects)
    (hrunning : w.phase ≠ .completed ∧ w.phase ≠ .failed)
    (hend : w'.phase = .completed ∨ w'.phase = .failed) :
    ∃ status, terminalStatus w' = .ok (some status) := by
  rcases hend with hphase | hphase
  · exact ⟨_, by rw [terminalStatus, hphase]⟩
  · cases h with
    | failed _ herror => exact ⟨_, by simp only [terminalStatus, hphase, herror]; rfl⟩
    | deleted _ _ hcompleted =>
      rw [hcompleted] at hphase
      exact nomatch hphase
    | checkpointSaved => exact absurd hphase hrunning.2
    | savedEarly => exact absurd hphase hrunning.2
    | settled => exact absurd hphase hrunning.2
    | _ => exact nomatch hphase

/-! ## Runs -/

/-- The engine just started on a factory reset, and the requests of the start. -/
def Started (mode : Mode) (started : List EffectRequest)
    (engine₀ : WorkflowEngine FactoryResetWorkflow) : Prop :=
  ∃ (engine : WorkflowEngine FactoryResetWorkflow) (command : FactoryResetCommand)
    (capabilities : List Capability) (id : CancellationId),
    engine.start command capabilities id = (engine₀, .ok started) ∧
    mode = match command with
      | .factoryReset _ commandId grantId => .start commandId grantId
      | .resumeFactoryReset _ commandId expectedResult => .resume commandId expectedResult

/-- What a start leaves behind: a fresh reset reads the nonce, a resumed one subscribes. -/
structure Fresh (mode : Mode) (started : List EffectRequest) (w : FactoryResetWorkflow) : Prop where
  mode_eq : w.mode = mode
  settling_eq : w.settlingOpcodeRequestId = none
  generation_eq : w.bindingGeneration = [0, 0, 0, 0]
  requests : ∀ issue ∈ issues started, issue.2 = .notify (.started .factoryReset) ∨
    issue.2 = .timer (.schedule FACTORY_RESET_TIMER_ID FACTORY_RESET_TIMEOUT_MS) ∨
    issue.2 = .ble (.read SERVICE_BOTA_AUTH CHAR_AUTH_NONCE) ∨ issue.2 = subscribeEffect ∨
    ∃ phase device, issue.2 = checkpointEffect phase device
  phase : match mode with
    | .start .. => w.phase = .readingNonce ∧ w.subscriptionRequestId = none
    | .resume .. => w.phase = .subscribing ∧
      ∃ id, w.subscriptionRequestId = some id ∧ (id, subscribeEffect) ∈ issues started

theorem Started.active {mode : Mode} {started : List EffectRequest}
    {engine₀ : WorkflowEngine FactoryResetWorkflow} (h : Started mode started engine₀) :
    ∃ w, engine₀.active = some w ∧ Fresh mode started w := by
  obtain ⟨engine, command, capabilities, id, h, rfl⟩ := h
  obtain ⟨workflow, hcreate, reduction, rfl, hact, -, hout⟩ := start_ok h
  cases command with
  | factoryReset device commandId grantId =>
    obtain rfl := Except.ok.inj hcreate
    obtain rfl := Outcome.ok.inj hout
    refine ⟨_, hact, rfl, rfl, rfl, ?_, rfl, rfl⟩
    intro issue hissue
    simp [issues, FactoryResetWorkflow.startNew, new, Step.request, Step.begin, checkpoint] at hissue
    rcases hissue with rfl | rfl | rfl | rfl
    · exact .inl rfl
    · exact .inr (.inl rfl)
    · exact .inr (.inr (.inl rfl))
    · exact .inr (.inr (.inr (.inr ⟨_, _, rfl⟩)))
  | resumeFactoryReset device commandId expectedResult =>
    obtain rfl := Except.ok.inj hcreate
    obtain rfl := Outcome.ok.inj hout
    refine ⟨_, hact, rfl, rfl, rfl, ?_, rfl, _, rfl, ?_⟩
    · intro issue hissue
      simp [issues, FactoryResetWorkflow.resume, new, Step.request, Step.begin, checkpoint,
        subscribe, Step.update] at hissue
      rcases hissue with rfl | rfl | rfl | rfl
      · exact .inl rfl
      · exact .inr (.inl rfl)
      · exact .inr (.inr (.inr (.inl rfl)))
      · exact .inr (.inr (.inr (.inr ⟨_, _, rfl⟩)))
    · simp [issues, FactoryResetWorkflow.resume, new, Step.request, Step.begin, checkpoint,
        subscribe, Step.update]

end FactoryResetWorkflow

end BotaSdk
