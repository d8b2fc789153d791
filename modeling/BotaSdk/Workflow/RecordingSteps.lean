import BotaSdk.Workflow.RecordingPackets

/-!
# What one event can do to a batch transfer

`Transition` lists every accepted event once; a callback that reopens the transfer is followed by the
turns of the queued values.  The run-level results take cases on it and never unfold the reducer.
-/

namespace BotaSdk

open Protocol RecordingTransfer

namespace RecordingTransferWorkflow

/-! ## One event -/

/-- The events other than notifications that end a transfer with an error. -/
inductive Fails (w : RecordingTransferWorkflow) : HostEvent → Prop
  | undurable {id : RequestId} {durableUnits : Nat} :
      w.phase = .appending → w.sinkRequestId = some id →
      durableUnits < saturatingAdd w.completedUnits w.pendingPayloadUnits →
      Fails w ⟨id, .recordingSinkAppendCompleted durableUnits⟩
  | mismatch {id : RequestId} :
      w.phase = .finalizing → w.sinkRequestId = some id →
      Fails w ⟨id, .recordingSinkIntegrityFailed⟩
  | sinkFailed {id : RequestId} {platformCode : Option Int} :
      w.sinkRequestId = some id → Fails w ⟨id, .recordingSinkFailed platformCode⟩
  | persistenceFailed {id : RequestId} {platformCode : Option Int} :
      id ∈ w.checkpointRequestIds ∨ w.loadRequestId = some id →
      Fails w ⟨id, .persistenceFailed platformCode⟩
  | disconnected {id : RequestId} {peripheralId : String} {reasonCode : Option Nat} :
      Fails w ⟨id, .ble (.disconnected peripheralId reasonCode)⟩
  | bleFailed {id : RequestId} {platformCode : Option Int} :
      some id ∈ [w.subscriptionRequestId, w.writeRequestId] →
      Fails w ⟨id, .ble (.failed platformCode)⟩

/-- The failures that also discard what was received. -/
def Fails.discards (w : RecordingTransferWorkflow) (event : HostEvent) : Prop :=
  w.phase = .finalizing ∧ event.kind = .recordingSinkIntegrityFailed

def checkpoint (w : RecordingTransferWorkflow) : WorkflowCheckpoint where
  workflow := .recordingTransfer
  operation := .transferRecording
  device := w.device
  recording := some w.recording
  phase := .transferring
  completedUnits := w.completedUnits
  retryCount := w.retryCount
  lastSequence := w.lastSequence
  firmwareVersion := none

/-- The state after a durable append, before the queue is drained; `id` is the checkpoint's. -/
def durable (durableUnits : Nat) (id : RequestId) (w : RecordingTransferWorkflow) :
    RecordingTransferWorkflow :=
  { settleAppend durableUnits w with
    sinkRequestId := none, checkpointRequestIds := insert id w.checkpointRequestIds }

/-- The callbacks after which the queue is drained: the state the drain starts in. -/
inductive Reopens (w : RecordingTransferWorkflow) :
    HostEvent → RecordingTransferWorkflow → List Effect → Prop
  | started {id : RequestId} :
      w.phase = .starting → w.writeRequestId = some id →
      Reopens w ⟨id, .ble .writeCompleted⟩
        { w with writeRequestId := none, phase := .transferring } []
  | appended {id m : RequestId} {durableUnits : Nat} :
      w.phase = .appending → w.sinkRequestId = some id →
      saturatingAdd w.completedUnits w.pendingPayloadUnits ≤ durableUnits →
      Reopens w ⟨id, .recordingSinkAppendCompleted durableUnits⟩ (durable durableUnits m w)
        [.persistence (.saveCheckpoint (checkpoint (settleAppend durableUnits w))),
          .progress { completedUnits := durableUnits, totalUnits := w.totalUnits }]

def completeEffects (w : RecordingTransferWorkflow) : List Effect :=
  unsubscribeEffects w ++ [.persistence .deleteCheckpoint,
    .notify (.recordingTransferCompleted (w.encrypted.getD false) w.sha256)]

/-- Every accepted event: the state it leaves and the effects it requests. -/
inductive Transition (w : RecordingTransferWorkflow) :
    HostEvent → RecordingTransferWorkflow → List Effect → Prop
  | checkpointSaved {id : RequestId} :
      id ∈ w.checkpointRequestIds →
      Transition w ⟨id, .checkpointSaved⟩
        { w with checkpointRequestIds := w.checkpointRequestIds.erase id } []
  | notified {id : RequestId} {value : List UInt8} {w' : RecordingTransferWorkflow}
      {effects : List Effect} :
      w.phase.receives → w.subscriptionRequestId = some id → NotificationStep w value w' effects →
      Transition w ⟨id, .ble (.notification CHAR_RECORDING_TRANSFER value)⟩ w' effects
  | checkpointLoaded {id m : RequestId} {loaded : Option WorkflowCheckpoint} :
      w.phase = .loadingCheckpoint → w.loadRequestId = some id →
      Transition w ⟨id, .checkpointLoaded loaded⟩
        { restore loaded w with phase := .truncatingSink, sinkRequestId := some m }
        [.recordingSink (.truncate (restore loaded w).sinkId (restore loaded w).completedUnits)]
  | sinkTruncated {id m : RequestId} :
      w.phase = .truncatingSink → w.sinkRequestId = some id →
      Transition w ⟨id, .recordingSinkTruncated⟩
        { w with sinkRequestId := none, phase := .subscribing, subscriptionRequestId := some m }
        [.ble (.subscribe SERVICE_BOTA_STORAGE CHAR_RECORDING_TRANSFER)]
  | subscribed {id m : RequestId} :
      w.phase = .subscribing → w.subscriptionRequestId = some id →
      Transition w ⟨id, .ble (.subscribed CHAR_RECORDING_TRANSFER)⟩
        { w with phase := .starting, writeRequestId := some m } [commandEffect (.start w.recording)]
  | reopened {event : HostEvent} {w₀ w' : RecordingTransferWorkflow}
      {effects effects' : List Effect} :
      Reopens w event w₀ effects → Drains w₀ effects' w' →
      (w'.phase.drains → w'.pendingPackets = []) → Transition w event w' (effects ++ effects')
  | finalizedWithSha {id m : RequestId} {durableUnits : Nat} :
      w.phase = .finalizing → w.sinkRequestId = some id →
      Transition w ⟨id, .recordingSinkFinalized durableUnits⟩
        (acknowledging { w with sinkRequestId := none, completedUnits := durableUnits } m)
        (acknowledgeEffects w)
  | finalized {id : RequestId} {durableUnits : Nat} :
      w.phase = .finalizing → w.sinkRequestId = some id →
      Transition w ⟨id, .recordingSinkFinalized durableUnits⟩
        { w with sinkRequestId := none, completedUnits := durableUnits, phase := .waitingForSha } []
  | graceElapsed {id : RequestId} :
      w.phase = .finalizing →
      Transition w ⟨id, .timerFired SHA256_GRACE_TIMER_ID⟩
        { w with shaGraceTimerScheduled := false, shaGraceElapsed := true } []
  | graceEnded {id m : RequestId} :
      w.phase = .waitingForSha →
      Transition w ⟨id, .timerFired SHA256_GRACE_TIMER_ID⟩
        (acknowledging { w with shaGraceTimerScheduled := false, shaGraceElapsed := true } m)
        [ackEffect .ack (w.eofSequence.getD 0)]
  | acknowledged {id m : RequestId} :
      w.phase = .acknowledging → w.writeRequestId = some id → w.confirmOnCompletion →
      Transition w ⟨id, .ble .writeCompleted⟩
        { w with writeRequestId := some m, phase := .confirming }
        [commandEffect (.confirm w.recording)]
  | completed {id : RequestId} :
      w.phase = .acknowledging ∧ ¬w.confirmOnCompletion ∨ w.phase = .confirming →
      w.writeRequestId = some id →
      Transition w ⟨id, .ble .writeCompleted⟩
        { w with
          writeRequestId := none, phase := .completed, subscriptionRequestId := none
          sha256 := none }
        (completeEffects w)
  | failed {event : HostEvent} {w' : RecordingTransferWorkflow} {effects : List Effect} :
      Fails w event → w'.phase = .failed → w'.terminalError.isSome →
      FailEffects w effects → (¬Fails.discards w event → ∃ error, effects = failEffects w error) →
      Transition w event w' effects

/-- The drain after the event stopped on a late value or a crash: only the state moved. -/
def Interrupted (w : RecordingTransferWorkflow) (event : HostEvent)
    (w' : RecordingTransferWorkflow) : Prop :=
  ∃ w₀ effects effects' w₁ value, Reopens w event w₀ effects ∧ Drains w₀ effects' w₁ ∧
    Stopped w₁ w' value ∧ (Late w₁ ∨ Crashes w₁ value)

/-- The event is a notification of the subscription that the phase takes. -/
def Taken (w : RecordingTransferWorkflow) (event : HostEvent) (value : List UInt8) : Prop :=
  event.kind = .ble (.notification CHAR_RECORDING_TRANSFER value) ∧ w.phase.receives ∧
    w.subscriptionRequestId = some event.requestId

/-- The reduction returned no effects: it is an error or a crash. -/
def Unanswered (reduction : Reduction RecordingTransferWorkflow) : Prop :=
  ∀ effects, reduction.outcome ≠ .ok effects

/-- A rejected event, or a notification that is late or a crash: nothing moves. -/
structure Ignored (w : RecordingTransferWorkflow) (event : HostEvent)
    (reduction : Reduction RecordingTransferWorkflow) : Prop where
  workflow : reduction.workflow = w
  unanswered : Unanswered reduction
  taken : ∀ value, Taken w event value → Late w ∨ Crashes w value

theorem ignored_of_reject {w : RecordingTransferWorkflow} {event : HostEvent}
    {context : WorkflowContext} (h : ∀ value, ¬Taken w event value) :
    Ignored w event (.err w context unexpected) :=
  ⟨rfl, fun _ => nofun, fun value htaken => absurd htaken (h value)⟩

/-- Only notifications are taken. -/
theorem not_taken {w : RecordingTransferWorkflow} {id : RequestId} {kind : HostEventKind}
    (h : ∀ value, kind ≠ .ble (.notification CHAR_RECORDING_TRANSFER value)) (value : List UInt8) :
    ¬Taken w ⟨id, kind⟩ value :=
  fun htaken => h value htaken.1

theorem transition_of_fail {w : RecordingTransferWorkflow} {event : HostEvent} {call : Call}
    {error : DeviceSdkError} (hfails : Fails w event)
    (hrequested : (fail error call).requested = failEffects w error) :
    Transition w event (fail error call).workflow (fail error call).requested := by
  rw [hrequested]
  refine .failed hfails ?_ ?_ .kept (fun _ => ⟨error, rfl⟩)
  · rw [fail_workflow]
  · rw [fail_workflow]
    rfl

theorem Reopens.subscription {w w₀ : RecordingTransferWorkflow} {event : HostEvent}
    {effects : List Effect} (h : Reopens w event w₀ effects) :
    w₀.subscriptionRequestId = w.subscriptionRequestId := by
  cases h <;> rfl

/-- A callback that reopens the transfer is a transition, unless the drain is interrupted. -/
theorem dispatch_of_reopens {w w₀ : RecordingTransferWorkflow} {event : HostEvent}
    {context : WorkflowContext} {call : Call} {effects : List Effect}
    (hdispatch : dispatch w event context = drainPackets call) (hworkflow : call.workflow = w₀)
    (heffects : call.requested = effects) (hreopens : Reopens w event w₀ effects)
    (hsubscribed : w.subscriptionRequestId.isSome) :
    (∃ call : Call, dispatch w event context = .ok call ∧
      Transition w event call.workflow call.requested) ∨
    Ignored w event (dispatch w event context) ∨
    (Unanswered (dispatch w event context) ∧
      Interrupted w event (dispatch w event context).workflow) := by
  have hstill : call.workflow.subscriptionRequestId.isSome := by
    rw [hworkflow, hreopens.subscription]
    exact hsubscribed
  rw [hdispatch]
  rcases drain_cases (Nat.le_refl call.workflow.pendingPackets.length) (fun _ => hstill) with
    ⟨call', effects', hdrain, hturns, hrequested, hempty⟩ |
    ⟨effects', w₁, w', context, error, value, hdrain, hturns, hstopped, hlate⟩ |
    ⟨effects', w₁, w', context, value, hdrain, hturns, hstopped, hcrash⟩
  · refine .inl ⟨call', hdrain, ?_⟩
    rw [hworkflow] at hturns
    rw [hrequested, heffects]
    exact .reopened hreopens hturns hempty
  · rw [hworkflow] at hturns
    rw [drainPackets, hdrain]
    exact .inr (.inr ⟨fun _ => nofun, _, _, _, w₁, value, hreopens, hturns, hstopped, .inl hlate⟩)
  · rw [hworkflow] at hturns
    rw [drainPackets, hdrain]
    exact .inr (.inr ⟨fun _ => nofun, _, _, _, w₁, value, hreopens, hturns, hstopped, .inr hcrash⟩)

theorem complete_requested (call : Call) :
    (complete call).requested = call.requested ++ completeEffects call.workflow := by
  simp [complete, completeEffects, unsubscribeEffects]

theorem complete_workflow (call : Call) :
    (complete call).workflow =
      { call.workflow with
        phase := .completed, subscriptionRequestId := none, sha256 := none } := by
  simp [complete]

/-- Every event is a transition, is ignored, or is interrupted while the queue drains. -/
theorem dispatch_cases (w : RecordingTransferWorkflow) (event : HostEvent)
    (context : WorkflowContext)
    (hsubscribed : w.phase = .starting ∨ w.phase = .appending → w.subscriptionRequestId.isSome) :
    (∃ call : Call, dispatch w event context = .ok call ∧
      Transition w event call.workflow call.requested) ∨
    Ignored w event (dispatch w event context) ∨
    (Unanswered (dispatch w event context) ∧
      Interrupted w event (dispatch w event context).workflow) := by
  obtain ⟨id, kind⟩ := event
  have hreject : (∀ value, kind ≠ .ble (.notification CHAR_RECORDING_TRANSFER value)) →
      dispatch w ⟨id, kind⟩ context = .err w context unexpected →
      Ignored w ⟨id, kind⟩ (dispatch w ⟨id, kind⟩ context) := by
    intro hkind heq
    rw [heq]
    exact ignored_of_reject (not_taken hkind)
  -- outside the guard of its arm an event is rejected, and no value is taken with it
  cases kind with
  | checkpointSaved =>
    by_cases h : id ∈ w.checkpointRequestIds
    · exact .inl ⟨_, if_pos h, .checkpointSaved h⟩
    · exact .inr (.inl (hreject (by rintro _ ⟨⟩) (if_neg h)))
  | checkpointLoaded loaded =>
    by_cases h : w.phase = .loadingCheckpoint ∧ some id = w.loadRequestId
    · exact .inl ⟨_, if_pos h, .checkpointLoaded h.1 h.2.symm⟩
    · exact .inr (.inl (hreject (by rintro _ ⟨⟩) (if_neg h)))
  | recordingSinkTruncated =>
    by_cases h : w.phase = .truncatingSink ∧ some id = w.sinkRequestId
    · exact .inl ⟨_, if_pos h, .sinkTruncated h.1 h.2.symm⟩
    · exact .inr (.inl (hreject (by rintro _ ⟨⟩) (if_neg h)))
  | recordingSinkAppendCompleted durableUnits =>
    by_cases h : w.phase = .appending ∧ some id = w.sinkRequestId
    · by_cases hunits : durableUnits < saturatingAdd w.completedUnits w.pendingPayloadUnits
      · refine .inl ⟨_, (if_pos h).trans (if_pos hunits), ?_⟩
        exact transition_of_fail (.undurable h.1 h.2.symm hunits) (fail_requested ..)
      · have hreopens : Reopens w ⟨id, .recordingSinkAppendCompleted durableUnits⟩
            (durable durableUnits context.nextRequestId w) _ :=
          .appended h.1 h.2.symm (Nat.not_lt.mp hunits)
        exact dispatch_of_reopens ((if_pos h).trans (if_neg hunits)) rfl rfl hreopens
          (hsubscribed (.inr h.1))
    · exact .inr (.inl (hreject (by rintro _ ⟨⟩) (if_neg h)))
  | recordingSinkFinalized durableUnits =>
    by_cases h : w.phase = .finalizing ∧ some id = w.sinkRequestId
    · by_cases hsha : w.sha256.isSome ∨ w.shaGraceElapsed
      · refine .inl ⟨_, (if_pos h).trans (if_pos hsha), ?_⟩
        rw [acknowledge_workflow, acknowledge_requested]
        exact .finalizedWithSha h.1 h.2.symm
      · exact .inl ⟨_, (if_pos h).trans (if_neg hsha), .finalized h.1 h.2.symm⟩
    · exact .inr (.inl (hreject (by rintro _ ⟨⟩) (if_neg h)))
  | recordingSinkIntegrityFailed =>
    by_cases h : w.phase = .finalizing ∧ some id = w.sinkRequestId
    · refine .inl ⟨_, if_pos h, ?_⟩
      rw [failIntegrity_requested]
      refine .failed (.mismatch h.1 h.2.symm) ?_ ?_ .discarded (fun hkept => absurd ⟨h.1, rfl⟩ hkept)
      · rw [failIntegrity, fail_workflow]
      · rw [failIntegrity, fail_workflow]
        rfl
    · exact .inr (.inl (hreject (by rintro _ ⟨⟩) (if_neg h)))
  | timerFired timerId =>
    by_cases h : (w.phase = .finalizing ∨ w.phase = .waitingForSha) ∧
        timerId = SHA256_GRACE_TIMER_ID
    · obtain ⟨hphase, rfl⟩ := h
      by_cases hwaiting : w.phase = .waitingForSha
      · refine .inl ⟨_, (if_pos ⟨hphase, rfl⟩).trans (if_pos hwaiting), ?_⟩
        rw [acknowledge_workflow, acknowledge_requested]
        exact .graceEnded hwaiting
      · exact .inl ⟨_, (if_pos ⟨hphase, rfl⟩).trans (if_neg hwaiting),
          .graceElapsed (hphase.resolve_right hwaiting)⟩
    · exact .inr (.inl (hreject (by rintro _ ⟨⟩) (if_neg h)))
  | recordingSinkFailed platformCode =>
    by_cases h : some id = w.sinkRequestId
    · exact .inl ⟨_, if_pos h, transition_of_fail (.sinkFailed h.symm) (fail_requested ..)⟩
    · exact .inr (.inl (hreject (by rintro _ ⟨⟩) (if_neg h)))
  | persistenceFailed platformCode =>
    by_cases h : id ∈ w.checkpointRequestIds
    · exact .inl ⟨_, if_pos h, transition_of_fail (.persistenceFailed (.inl h)) (fail_requested ..)⟩
    · by_cases hload : some id = w.loadRequestId
      · exact .inl ⟨_, (if_neg h).trans (if_pos hload),
          transition_of_fail (.persistenceFailed (.inr hload.symm)) (fail_requested ..)⟩
      · exact .inr (.inl (hreject (by rintro _ ⟨⟩) ((if_neg h).trans (if_neg hload))))
  | ble bleEvent =>
    cases bleEvent with
    | subscribed characteristicUuid =>
      by_cases h : w.phase = .subscribing ∧ some id = w.subscriptionRequestId ∧
          characteristicUuid = CHAR_RECORDING_TRANSFER
      · obtain ⟨hphase, hid, rfl⟩ := h
        exact .inl ⟨_, if_pos ⟨hphase, hid, rfl⟩, .subscribed hphase hid.symm⟩
      · exact .inr (.inl (hreject (by rintro _ ⟨⟩) (if_neg h)))
    | writeCompleted =>
      by_cases h : some id = w.writeRequestId
      · have hcomplete : w.phase = .acknowledging ∧ ¬w.confirmOnCompletion ∨
            w.phase = .confirming → Transition w ⟨id, .ble .writeCompleted⟩
              (complete ((Step.begin w context).update
                fun w => { w with writeRequestId := none })).workflow
              (complete ((Step.begin w context).update
                fun w => { w with writeRequestId := none })).requested := by
          intro hphase
          rw [complete_workflow, complete_requested]
          exact .completed hphase h.symm
        have hdispatch : dispatch w ⟨id, .ble .writeCompleted⟩ context = _ := if_pos h
        cases hphase : w.phase with
        | starting =>
          simp only [hphase] at hdispatch
          have hreopens : Reopens w ⟨id, .ble .writeCompleted⟩
              { w with writeRequestId := none, phase := .transferring } [] :=
            .started hphase h.symm
          exact dispatch_of_reopens hdispatch rfl rfl hreopens (hsubscribed (.inl hphase))
        | acknowledging =>
          simp only [hphase] at hdispatch
          by_cases hconfirm : w.confirmOnCompletion
          · rw [if_pos hconfirm] at hdispatch
            exact .inl ⟨_, hdispatch, .acknowledged hphase h.symm hconfirm⟩
          · rw [if_neg hconfirm] at hdispatch
            exact .inl ⟨_, hdispatch, hcomplete (.inl ⟨hphase, hconfirm⟩)⟩
        | confirming =>
          simp only [hphase] at hdispatch
          exact .inl ⟨_, hdispatch, hcomplete (.inr hphase)⟩
        | _ =>
          simp only [hphase] at hdispatch
          exact .inr (.inl (hreject (by rintro _ ⟨⟩) hdispatch))
      · exact .inr (.inl (hreject (by rintro _ ⟨⟩) (if_neg h)))
    | notification characteristicUuid value =>
      by_cases h : w.phase.receives ∧ some id = w.subscriptionRequestId ∧
          characteristicUuid = CHAR_RECORDING_TRANSFER
      · obtain ⟨hphase, hid, rfl⟩ := h
        have hdispatch : dispatch w ⟨id, .ble (.notification CHAR_RECORDING_TRANSFER value)⟩ context =
            settleCall w context (dispatchNotification value (Step.begin w context)) :=
          if_pos ⟨hphase, hid, rfl⟩
        have htaken : ∀ other, Taken w ⟨id, .ble (.notification CHAR_RECORDING_TRANSFER value)⟩ other →
            other = value := by
          rintro other ⟨heq, -⟩
          simp only [HostEventKind.ble.injEq, BleEvent.notification.injEq, true_and] at heq
          exact heq.symm
        have hreceives : (Step.begin w context).workflow.phase.receives := hphase
        rw [hdispatch]
        rcases dispatchNotification_cases hreceives value with
          ⟨call', effects, hok, hstep, hrequested⟩ | ⟨error, herr, hlate⟩ | ⟨hpanic, hcrash⟩
        · rw [hok]
          refine .inl ⟨call', rfl, ?_⟩
          rw [hrequested]
          exact .notified hphase hid.symm hstep
        · rw [herr]
          exact .inr (.inl ⟨rfl, fun _ => by rintro ⟨⟩, fun _ _ => .inl hlate⟩)
        · rw [hpanic]
          refine .inr (.inl ⟨rfl, fun _ => by rintro ⟨⟩, fun other hother => .inr ?_⟩)
          rw [htaken other hother]
          exact hcrash
      · have hdispatch : dispatch w ⟨id, .ble (.notification characteristicUuid value)⟩ context =
            .err w context unexpected := if_neg h
        rw [hdispatch]
        refine .inr (.inl (ignored_of_reject ?_))
        rintro other ⟨heq, hphase, hid⟩
        simp only [HostEventKind.ble.injEq, BleEvent.notification.injEq] at heq
        exact h ⟨hphase, hid.symm, heq.1⟩
    | disconnected peripheralId reasonCode =>
      exact .inl ⟨_, rfl, transition_of_fail .disconnected (fail_requested ..)⟩
    | failed platformCode =>
      by_cases h : some id ∈ [w.subscriptionRequestId, w.writeRequestId]
      · exact .inl ⟨_, if_pos h, transition_of_fail (.bleFailed h) (fail_requested ..)⟩
      · exact .inr (.inl (hreject (by rintro _ ⟨⟩) (if_neg h)))
    | _ => exact .inr (.inl (hreject (by rintro _ ⟨⟩) rfl))
  | _ => exact .inr (.inl (hreject (by rintro _ ⟨⟩) rfl))

/-- Cancelling aborts the transfer and discards what was received, whatever the phase. -/
theorem cancel_requested (w : RecordingTransferWorkflow) (context : WorkflowContext) :
    ∃ call : Call, cancel w context = .ok call ∧
      call.requested = ackEffect .abort w.nextSequence :: (graceEffects w ++ unsubscribeEffects w ++
        [.recordingSink (.discard w.sinkId), .persistence .deleteCheckpoint,
          .notify (.cancelled .transferRecording)]) := by
  refine ⟨_, rfl, ?_⟩
  rw [Step.request_requested, Step.request_requested, Step.request_requested, unsubscribe_requested,
    cancelGraceTimer_requested, writeAck_requested, cancelGraceTimer_workflow]
  simp only [List.append_assoc]
  rfl

/-! ## Runs -/

/-- The engine just started on a batch transfer. -/
def Started (engine₀ : WorkflowEngine RecordingTransferWorkflow) : Prop :=
  ∃ (engine : WorkflowEngine RecordingTransferWorkflow) (command : TransferRecording)
    (capabilities : List Capability) (id : CancellationId) (effects : List EffectRequest),
    engine.start command capabilities id = (engine₀, .ok effects)

def sampleCommand : TransferRecording where
  device := ⟨"EVFXXW67KP"⟩
  recording := ⟨.replicate 16 1⟩
  sinkId := ⟨"sink-1"⟩
  totalUnits := 2
  confirmOnCompletion := true

def sampleCancellation : CancellationId := ⟨.replicate 16 9⟩

/-- A fresh engine started on one recording; its checkpoint is loaded by request 2. -/
def sampleEngine : WorkflowEngine RecordingTransferWorkflow :=
  (WorkflowEngine.start {} sampleCommand [.ble, .persistence, .progress, .recordingSink, .timer]
    sampleCancellation).1

theorem started_sampleEngine : Started sampleEngine :=
  ⟨{}, sampleCommand, [.ble, .persistence, .progress, .recordingSink, .timer], sampleCancellation, _,
    rfl⟩

/-- A transfer starts loading its checkpoint, with everything else as `new` leaves it. -/
theorem Started.active {engine₀ : WorkflowEngine RecordingTransferWorkflow} (h : Started engine₀) :
    ∃ device recording sinkId totalUnits confirmOnCompletion cancellationId id, engine₀.active =
      some { new device recording sinkId totalUnits confirmOnCompletion cancellationId with
        loadRequestId := some id } := by
  obtain ⟨engine, command, capabilities, id, effects, h⟩ := h
  obtain ⟨workflow, hcreate, reduction, rfl, hact, -, -⟩ := start_ok h
  obtain rfl := Except.ok.inj hcreate
  exact ⟨_, _, _, _, _, _, _, hact⟩

theorem terminalStatus_of_running {w : RecordingTransferWorkflow}
    (h : ¬(w.phase = .completed ∨ w.phase = .failed)) : terminalStatus w = .ok none := by
  push Not at h
  rw [terminalStatus]
  split
  · rename_i hphase
    exact absurd hphase h.1
  · rename_i hphase
    exact absurd hphase h.2
  · rfl

theorem terminalStatus_of_ended {w : RecordingTransferWorkflow}
    (hend : w.phase = .completed ∨ w.phase = .failed)
    (herror : w.phase = .failed → w.terminalError.isSome) :
    ∃ status, terminalStatus w = .ok (some status) := by
  rcases hend with hphase | hphase
  · exact ⟨_, by rw [terminalStatus, hphase]⟩
  · obtain ⟨error, heq⟩ := Option.isSome_iff_exists.mp (herror hphase)
    exact ⟨_, by simp only [terminalStatus, hphase, heq]; rfl⟩

section Terminal

variable {w w' : RecordingTransferWorkflow} {value : List UInt8} {event : HostEvent}
  {effects : List Effect}

theorem PacketStep.running {packet : TransferPacket} (h : PacketStep w packet w' effects)
    (hphase : w.phase ≠ .failed) : w'.phase ≠ .failed := by
  cases h with
  | duplicate | repeatedStart | resumedStart | encryptedDuplicate | sha256 => exact hphase
  | _ => exact nofun

/-- A turn fails only with the error to report. -/
theorem NotificationStep.error (h : NotificationStep w value w' effects)
    (hphase : w.phase ≠ .failed) (hfailed : w'.phase = .failed) : w'.terminalError.isSome := by
  cases h with
  | failed _ _ _ herror => exact herror
  | packet _ _ hpacket => exact absurd hfailed (hpacket.running hphase)
  | awaitedSha256 => exact nomatch hfailed
  | _ => exact absurd hfailed hphase

theorem drains_ne_failed (h : w.phase.drains) : w.phase ≠ .failed := by
  intro hphase
  rw [hphase] at h
  exact nomatch h

theorem Drains.error (h : Drains w effects w') (hphase : w.phase ≠ .failed)
    (hfailed : w'.phase = .failed) : w'.terminalError.isSome := by
  induction h with
  | done => exact absurd hfailed hphase
  | @turn w w₁ w' _ _ _ _ hdrains _ hstep hturns ih =>
    by_cases hstopped : w₁.phase = .failed
    · cases hturns with
      | done => exact hstep.error (drains_ne_failed hdrains) hstopped
      | turn hgoes => exact absurd hstopped (drains_ne_failed hgoes)
    · exact ih hstopped hfailed

/-- A transition into a terminal phase has the status to report. -/
theorem Transition.terminal (h : Transition w event w' effects)
    (hrunning : ¬(w.phase = .completed ∨ w.phase = .failed))
    (hend : w'.phase = .completed ∨ w'.phase = .failed) :
    ∃ status, terminalStatus w' = .ok (some status) := by
  push Not at hrunning
  refine terminalStatus_of_ended hend (fun hfailed => ?_)
  cases h with
  | notified hreceives _ hstep => exact hstep.error hrunning.2 hfailed
  | reopened hreopens hturns =>
    refine hturns.error ?_ hfailed
    cases hreopens <;> exact nofun
  | failed _ _ herror => exact herror
  | checkpointSaved => exact absurd hfailed hrunning.2
  | graceElapsed => exact absurd hfailed hrunning.2
  | _ => exact nomatch hfailed

end Terminal

section Formed

variable {w w' : RecordingTransferWorkflow} {event : HostEvent} {effects : List Effect}

/-- What the workflow of a running engine may rely on. -/
structure Formed (w : RecordingTransferWorkflow) : Prop where
  running : ¬(w.phase = .completed ∨ w.phase = .failed)
  subscribed : w.phase = .starting ∨ w.phase = .appending → w.subscriptionRequestId.isSome

theorem Drains.subscription (h : Drains w effects w') (hphase : w'.phase ≠ .failed) :
    w'.subscriptionRequestId = w.subscriptionRequestId := by
  induction h with
  | done => rfl
  | @turn w w₁ w' _ _ _ _ _ _ hstep hturns ih =>
    have hgoes : w₁.phase ≠ .failed := by
      intro hfailed
      cases hturns with
      | done => exact hphase hfailed
      | turn hdrains => exact drains_ne_failed hdrains hfailed
    rw [ih hphase, hstep.subscription hgoes, pop]

theorem Formed.start {w : RecordingTransferWorkflow} (hphase : w.phase = .loadingCheckpoint) :
    Formed w := by
  constructor
  · rw [hphase]
    decide
  · rintro (h | h) <;> rw [hphase] at h <;> exact nomatch h

/-- A transition that leaves the transfer running leaves it well formed. -/
theorem Transition.formed (h : Transition w event w' effects) (hw : Formed w)
    (hrunning : ¬(w'.phase = .completed ∨ w'.phase = .failed)) : Formed w' := by
  refine ⟨hrunning, fun hphase => ?_⟩
  have hfailed : w'.phase ≠ .failed := fun hfailed => hrunning (.inr hfailed)
  cases h with
  | checkpointSaved => exact hw.subscribed hphase
  | notified _ hsubscribed hstep =>
    rw [hstep.subscription hfailed, hsubscribed]
    rfl
  | subscribed _ hsubscribed => exact Option.isSome_of_eq_some hsubscribed
  | reopened hreopens hturns =>
    rw [hturns.subscription hfailed, hreopens.subscription]
    cases hreopens with
    | started hstarting => exact hw.subscribed (.inl hstarting)
    | appended happending => exact hw.subscribed (.inr happending)
  | graceElapsed hfinalizing =>
    rw [show ({ w with shaGraceTimerScheduled := false, shaGraceElapsed := true } :
      RecordingTransferWorkflow).phase = .finalizing from hfinalizing] at hphase
    exact absurd hphase (by decide)
  | failed _ hended => exact absurd hended hfailed
  | _ => rcases hphase with hphase | hphase <;> exact nomatch hphase

theorem Interrupted.drains (h : Interrupted w event w') : w'.phase.drains := by
  obtain ⟨_, _, _, w₁, value, _, _, hstopped, _⟩ := h
  rw [hstopped.popped]
  exact hstopped.drains

theorem Interrupted.formed (h : Interrupted w event w') : Formed w' := by
  have hdrains := h.drains
  constructor
  · rintro (hphase | hphase) <;> rw [hphase] at hdrains <;> exact nomatch hdrains
  · rintro (hphase | hphase) <;> rw [hphase] at hdrains <;> exact nomatch hdrains

end Formed

section RunRule

variable {ok : List (EngineEntry RecordingTransferWorkflow) →
    WorkflowEngine RecordingTransferWorkflow → Event → Prop}
  {I : List (EngineEntry RecordingTransferWorkflow) → RecordingTransferWorkflow → Prop}
  {J : List (EngineEntry RecordingTransferWorkflow) → Prop}
  {engine₀ engine : WorkflowEngine RecordingTransferWorkflow}
  {trace : List (EngineEntry RecordingTransferWorkflow)}

/-- The invariant rule for runs of a batch transfer, one case per kind of step. -/
theorem run_rule (init : Settled I J [] engine₀) (formed : ∀ trace w, I trace w → Formed w)
    (transition : ∀ trace w event (entry : EngineEntry RecordingTransferWorkflow) w' effects,
      I trace w → entry.pre.active = some w → entry.input = .host event →
      ok trace entry.pre entry.input → entry.output.effects.map (·.effect) = effects →
      Transition w event w' effects →
      if w'.phase = .completed ∨ w'.phase = .failed then J (trace ++ [entry])
      else I (trace ++ [entry]) w')
    (ignored : ∀ trace w event (entry : EngineEntry RecordingTransferWorkflow),
      I trace w → entry.pre.active = some w → entry.input = .host event →
      ok trace entry.pre entry.input → entry.output.effects = [] →
      (∀ value, Taken w event value → Late w ∨ Crashes w value) → I (trace ++ [entry]) w)
    (interrupted : ∀ trace w event (entry : EngineEntry RecordingTransferWorkflow) w',
      I trace w → entry.pre.active = some w → entry.input = .host event →
      ok trace entry.pre entry.input → entry.output.effects = [] → Interrupted w event w' →
      I (trace ++ [entry]) w')
    (cancelled : ∀ trace w (entry : EngineEntry RecordingTransferWorkflow), I trace w →
      entry.pre.active = some w → entry.input = .cancelled w.cancellationId →
      ok trace entry.pre entry.input →
      entry.output.effects.map (·.effect) = ackEffect .abort w.nextSequence ::
        (graceEffects w ++ unsubscribeEffects w ++ [.recordingSink (.discard w.sinkId),
          .persistence .deleteCheckpoint, .notify (.cancelled .transferRecording)]) →
      J (trace ++ [entry]))
    (foreign : ∀ trace w (entry : EngineEntry RecordingTransferWorkflow) id, I trace w →
      entry.pre.active = some w → entry.input = .cancelled id → w.cancellationId ≠ id →
      ok trace entry.pre entry.input → entry.output.effects = [] → I (trace ++ [entry]) w)
    (ended : ∀ trace (entry : EngineEntry RecordingTransferWorkflow), J trace →
      entry.pre.active = none → ok trace entry.pre entry.input → entry.output.effects = [] →
      J (trace ++ [entry]))
    (h : EngineRun ok engine₀ trace engine) : Settled I J trace engine := by
  refine EngineRun.rule init ?_ ?_ ?_ ?_ h
  · intro trace engine w event _ hact hinv hok
    obtain ⟨hrunning, hsubscribed⟩ := formed trace w hinv
    rw [dispatch_active hact]
    rcases dispatch_cases w event (engine.context w) hsubscribed with
      ⟨call, hcall, hstep⟩ | ⟨hsame, hsilent, htaken⟩ | ⟨hsilent, hinterrupted⟩
    · have hred : WorkflowReducer.dispatch w event (engine.context w) = .ok call := hcall
      have hkeep := transition trace w event ⟨engine, .host event, .ok call.effects⟩ _ _ hinv hact rfl
        hok rfl hstep
      rw [hred]
      split at hkeep
      · rename_i hend
        obtain ⟨status, hstatus⟩ := hstep.terminal hrunning hend
        rw [settle_ended rfl hstatus, settled_ended rfl]
        exact hkeep
      · rename_i hrunning'
        rw [settle_running rfl (terminalStatus_of_running hrunning'), settled_active rfl]
        exact hkeep
    · have hsettle : engine.settle (WorkflowReducer.dispatch w event (engine.context w)) = _ :=
        settle_unanswered hsilent
      have hkept : (WorkflowReducer.dispatch w event (engine.context w)).workflow = w := hsame
      rw [hsettle, settled_active rfl, hkept]
      exact ignored trace w event _ hinv hact rfl hok (Outcome.effects_of_ne_ok hsilent) htaken
    · have hsettle : engine.settle (WorkflowReducer.dispatch w event (engine.context w)) = _ :=
        settle_unanswered hsilent
      rw [hsettle, settled_active rfl]
      exact interrupted trace w event _ _ hinv hact rfl hok (Outcome.effects_of_ne_ok hsilent)
        hinterrupted
  · intro trace engine w _ hact hinv hok
    obtain ⟨call, hcall, hrequested⟩ := cancel_requested w (engine.context w)
    have hred : WorkflowReducer.cancel w (engine.context w) = .ok call := hcall
    have hout : (WorkflowReducer.cancel w (engine.context w)).outcome = .ok call.effects := by
      rw [hred]
      rfl
    rw [cancel_active hact hout, settled_ended rfl]
    exact cancelled trace w _ hinv hact rfl hok hrequested
  · rintro trace entry w hact ⟨id, hinput, hid⟩ hok hquiet hinv
    exact foreign trace w entry id hinv hact hinput hid hok hquiet
  · intro trace entry hact hok hquiet hinv
    exact ended trace entry hinv hact hok hquiet

end RunRule

end RecordingTransferWorkflow

end BotaSdk
