import BotaSdk.Workflow.UploadHandoffFallback

/-!
# The answer to a trigger before its callback

The device may notify its answer before the host reports that the trigger was written.  The workflow
takes it in the other order only, so that an early answer is lost.
-/

namespace BotaSdk

open History Protocol UploadHandoff

/-- The requests that events lead to, and the status after them. -/
def WorkflowEngine.deliver {W : Type} [WorkflowReducer W] (engine : WorkflowEngine W) :
    List Event → List EffectRequest × WorkflowStatus
  | [] => ([], engine.status)
  | event :: events =>
    let (next, output) := engine.dispatch event
    let (effects, status) := next.deliver events
    (output.effects ++ effects, status)

theorem WorkflowEngine.deliver_cons {W : Type} [WorkflowReducer W] {engine next : WorkflowEngine W}
    {event : Event} {output : Outcome (List EffectRequest)}
    (h : engine.dispatch event = (next, output)) (events : List Event) :
    engine.deliver (event :: events) =
      (output.effects ++ (next.deliver events).1, (next.deliver events).2) := by
  rw [WorkflowEngine.deliver, h]

namespace UploadHandoffWorkflow

/-- The trigger is being written as request `write`, its answer subscribed to as `subscription`. -/
structure Triggering (engine : WorkflowEngine UploadHandoffWorkflow) (w : UploadHandoffWorkflow)
    (write subscription : RequestId) : Prop where
  active : engine.active = some w
  phase : w.phase = .triggering
  write : w.writeRequestId = some write
  subscription : w.subscriptionRequestId = some subscription

/-- The trigger was written. -/
def written (write : RequestId) : Event :=
  .host ⟨write, .ble .writeCompleted⟩

/-- The device notifies `value` as its answer. -/
def answered (subscription : RequestId) (value : List UInt8) : Event :=
  .host ⟨subscription, .ble (.notification CHAR_TRANSFER_STATUS value)⟩

section Race

variable {engine : WorkflowEngine UploadHandoffWorkflow} {w : UploadHandoffWorkflow}
  {write subscription : RequestId} {value : List UInt8} {response : TriggerUploadResponse}

/-- The step that awaits the answer. -/
def awaiting (engine : WorkflowEngine UploadHandoffWorkflow) (w : UploadHandoffWorkflow) : Call :=
  scheduleTimer TRIGGER_TIMEOUT_ID TRIGGER_TIMEOUT_MS .awaitingTrigger
    ((Step.begin w (engine.context w)).update fun w => { w with writeRequestId := none })

/-- The engine once the trigger was written. -/
def waiting (engine : WorkflowEngine UploadHandoffWorkflow) (w : UploadHandoffWorkflow) :
    WorkflowEngine UploadHandoffWorkflow :=
  { engine with
    active := some (awaiting engine w).workflow
    nextRequestId := (awaiting engine w).context.nextRequestId }

theorem Triggering.written (h : Triggering engine w write subscription) :
    engine.dispatch (written write) = (waiting engine w, .ok (awaiting engine w).effects) := by
  have hcall : WorkflowReducer.dispatch w ⟨write, .ble .writeCompleted⟩ (engine.context w) =
      .ok (awaiting engine w) := if_pos ⟨h.phase, h.write.symm⟩
  rw [UploadHandoffWorkflow.written, dispatch_active h.active, hcall, settle_running rfl rfl]
  rfl

/-- An answer before the callback is rejected and forgotten. -/
theorem Triggering.early (h : Triggering engine w write subscription) (value : List UInt8) :
    engine.dispatch (answered subscription value) = (engine, .err unexpected) := by
  have hnot : w.phase ≠ .awaitingTrigger := by
    rw [h.phase]
    nofun
  have hcall : WorkflowReducer.dispatch w
      ⟨subscription, .ble (.notification CHAR_TRANSFER_STATUS value)⟩ (engine.context w) =
        .err w (engine.context w) unexpected := if_neg fun hawaiting => hnot hawaiting.1
  rw [answered, dispatch_active h.active, hcall, settle_err rfl]
  obtain ⟨active, status, nextRequestId, terminalCancellationId⟩ := engine
  obtain rfl : active = some w := h.active
  rfl

/-- An answer after the callback is read. -/
theorem Triggering.late (h : Triggering engine w write subscription) (value : List UInt8) :
    (waiting engine w).dispatch (answered subscription value) =
      (waiting engine w).settle (triggerAnswered value
        (.begin (awaiting engine w).workflow
          ((waiting engine w).context (awaiting engine w).workflow))) := by
  have hcall : WorkflowReducer.dispatch (awaiting engine w).workflow
      ⟨subscription, .ble (.notification CHAR_TRANSFER_STATUS value)⟩
        ((waiting engine w).context (awaiting engine w).workflow) =
      triggerAnswered value (.begin (awaiting engine w).workflow
        ((waiting engine w).context (awaiting engine w).workflow)) :=
    if_pos ⟨rfl, h.subscription.symm, rfl⟩
  rw [answered, dispatch_active rfl, hcall]

/-- What is no answer to a trigger changes nothing. -/
theorem Triggering.ignored (h : Triggering engine w write subscription)
    (hparse : ∀ response, parseTriggerUploadResponse value ≠ .ok (some response)) :
    ∃ output, (waiting engine w).dispatch (answered subscription value) =
      (waiting engine w, output) ∧ output.effects = [] := by
  rw [h.late]
  cases hvalue : parseTriggerUploadResponse value with
  | error error =>
    refine ⟨.err error, ?_, rfl⟩
    rw [triggerAnswered, hvalue]
    rfl
  | ok parsed =>
    cases parsed with
    | some response => exact absurd hvalue (hparse response)
    | none =>
      refine ⟨.ok [], ?_, rfl⟩
      rw [triggerAnswered, hvalue]
      rfl

/-- Reading an answer to a trigger asks something of the host. -/
theorem triggerAnswered_effects (call : Call)
    (hparse : parseTriggerUploadResponse value = .ok (some response)) :
    ∃ next : Call, triggerAnswered value call = .ok next ∧
      terminalStatus next.workflow = .ok none ∧ next.effects ≠ [] := by
  have hasks (next : Call) (effect : Effect)
      (track : RequestId → UploadHandoffWorkflow → UploadHandoffWorkflow) :
      (next.request effect track).effects ≠ [] :=
    List.append_ne_nil_of_right_ne_nil _ (List.cons_ne_nil _ _)
  rw [triggerAnswered, hparse]
  simp only
  split
  · exact ⟨_, rfl, rfl, hasks _ _ _⟩
  · split
    · exact ⟨_, rfl, rfl, hasks _ _ _⟩
    · exact ⟨_, rfl, rfl, hasks _ _ _⟩

/-- The order of the callback and the notification makes no difference, whatever follows, exactly if
the notification is no answer to a trigger. -/
theorem trigger_order_iff (h : Triggering engine w write subscription) (value : List UInt8) :
    (∀ later, engine.deliver (answered subscription value :: written write :: later) =
        engine.deliver (written write :: answered subscription value :: later)) ↔
      ∀ response, parseTriggerUploadResponse value ≠ .ok (some response) := by
  have hearly (later : List Event) :
      engine.deliver (answered subscription value :: written write :: later) =
        ((awaiting engine w).effects ++ ((waiting engine w).deliver later).1,
          ((waiting engine w).deliver later).2) := by
    rw [WorkflowEngine.deliver_cons (h.early value), WorkflowEngine.deliver_cons h.written]
    rfl
  constructor
  · intro horder response hparse
    obtain ⟨next, hanswered, hrunning, hasks⟩ := triggerAnswered_effects
      (.begin (awaiting engine w).workflow ((waiting engine w).context (awaiting engine w).workflow))
      hparse
    have hlate := h.late value
    rw [hanswered, settle_running rfl hrunning] at hlate
    have hsame := congrArg Prod.fst (horder [])
    rw [hearly, WorkflowEngine.deliver_cons h.written, WorkflowEngine.deliver_cons hlate] at hsame
    -- only the late answer is followed by requests
    have hnone : next.effects ++ [] = [] := (List.append_cancel_left hsame).symm
    rw [List.append_nil] at hnone
    exact hasks hnone
  · intro hparse later
    obtain ⟨output, hignored, hquiet⟩ := h.ignored hparse
    rw [hearly, WorkflowEngine.deliver_cons h.written, WorkflowEngine.deliver_cons hignored, hquiet]
    rfl

end Race

/-- The engine while the trigger is written. -/
def sampleTriggering : WorkflowEngine UploadHandoffWorkflow :=
  (Machine.exec WorkflowEngine.dispatch [] sampleStart.1
    [.host ⟨2, .ble (.readCompleted samplePending)⟩,
      .host ⟨3, .ble (.subscribed CHAR_TRANSFER_STATUS)⟩]).2

/-- The device is busy with another upload. -/
def sampleBusy : List UInt8 := [TRANSFER_CMD_TRIGGER_DEVICE_UPLOAD, TRIGGER_UPLOAD_BUSY]

theorem sampleTriggering_triggering : ∃ w, Triggering sampleTriggering w 4 3 :=
  ⟨_, rfl, rfl, rfl, rfl⟩

/-- The answer to a START. -/
def sampleOther : List UInt8 := [TRANSFER_CMD_START, 0]

/-- A notification of another command commutes with the callback, and the device's answer does
not. -/
theorem trigger_order_sample :
    (∀ later, sampleTriggering.deliver (answered 3 sampleOther :: written 4 :: later) =
        sampleTriggering.deliver (written 4 :: answered 3 sampleOther :: later)) ∧
      ¬∀ later, sampleTriggering.deliver (answered 3 sampleBusy :: written 4 :: later) =
        sampleTriggering.deliver (written 4 :: answered 3 sampleBusy :: later) := by
  obtain ⟨w, hw⟩ := sampleTriggering_triggering
  have hother : parseTriggerUploadResponse sampleOther = .ok none := rfl
  have hbusy : ∃ response, parseTriggerUploadResponse sampleBusy = .ok (some response) := ⟨_, rfl⟩
  constructor
  · refine (trigger_order_iff hw sampleOther).mpr fun response hparse => ?_
    rw [hother] at hparse
    cases hparse
  · intro horder
    obtain ⟨response, hparse⟩ := hbusy
    exact (trigger_order_iff hw sampleBusy).mp horder response hparse

/-- An early answer that the device is busy is lost: in the other order the handoff is over once the
status is read. -/
theorem trigger_order_counterexample :
    (∃ response, parseTriggerUploadResponse sampleBusy = .ok (some response) ∧
      response.errorCode = some TRIGGER_UPLOAD_BUSY) ∧
    (sampleTriggering.deliver [written 4, answered 3 sampleBusy,
        .host ⟨8, .ble (.readCompleted samplePending)⟩]).2 = .completed .upload ∧
    (sampleTriggering.deliver [answered 3 sampleBusy, written 4,
        .host ⟨8, .ble (.readCompleted samplePending)⟩]).2 =
      .running .upload ⟨.replicate 16 9⟩ :=
  ⟨⟨_, rfl, rfl⟩, by decide +kernel, by decide +kernel⟩

end UploadHandoffWorkflow

end BotaSdk
