import BotaSdk.Workflow.FirmwareContents

/-!
# Signals from independent queues

Around the START and the VERIFY of an update, the callback of the write, the device's notification and
the loss of the link reach the host through queues of their own, and so in any order.
-/

namespace BotaSdk

open Protocol FirmwareUpdate

namespace WorkflowEngine

section Deliveries

variable {W : Type} [WorkflowReducer W] {engine : WorkflowEngine W} {active : W} {event : HostEvent}
  {events : List HostEvent}

/-- The engine after all of the events and what it requested, if it accepts every one. -/
def deliverAll (engine : WorkflowEngine W) :
    List HostEvent → Option (WorkflowEngine W × List EffectRequest)
  | [] => some (engine, [])
  | event :: events =>
    match engine.dispatch (.host event) with
    | (next, .ok effects) =>
      (deliverAll next events).map fun (last, more) => (last, effects ++ more)
    | _ => none

/-- The engine once its workflow took an event and goes on. -/
def resumed (engine : WorkflowEngine W) (call : Step W) : WorkflowEngine W :=
  { engine with active := some call.workflow, nextRequestId := call.context.nextRequestId }

theorem deliverAll_resumed {call : Step W} (hactive : engine.active = some active)
    (hcall : WorkflowReducer.dispatch active event (engine.context active) = .ok call)
    (hrunning : WorkflowReducer.terminalStatus call.workflow = .ok none) :
    engine.deliverAll (event :: events) =
      ((engine.resumed call).deliverAll events).map fun (last, more) =>
        (last, call.effects ++ more) := by
  have hdispatch : engine.dispatch (.host event) = (engine.resumed call, .ok call.effects) := by
    rw [dispatch_active hactive, hcall, settle_running rfl hrunning]
    rfl
  rw [deliverAll, hdispatch]

theorem deliverAll_rejected {workflow : W} {context : WorkflowContext} {error : DeviceSdkError}
    (hactive : engine.active = some active)
    (hreject : WorkflowReducer.dispatch active event (engine.context active) =
      .err workflow context error) :
    engine.deliverAll (event :: events) = none := by
  rw [deliverAll, dispatch_active hactive, hreject, settle_err rfl]

/-- An ended workflow accepts nothing. -/
theorem deliverAll_ended (h : engine.active = none) :
    engine.deliverAll (event :: events) = none := by
  rw [deliverAll, dispatch_idle h]

/-- Nothing goes on from an event that ends the workflow. -/
theorem deliverAll_ending {call : Step W} {status : WorkflowStatus}
    (hactive : engine.active = some active)
    (hcall : WorkflowReducer.dispatch active event (engine.context active) = .ok call)
    (hended : WorkflowReducer.terminalStatus call.workflow = .ok (some status))
    {last : WorkflowEngine W} {effects : List EffectRequest}
    (h : engine.deliverAll (event :: events) = some (last, effects)) : last.active = none := by
  have hdispatch := dispatch_active hactive event
  rw [hcall, settle_ended rfl hended] at hdispatch
  rw [deliverAll, hdispatch] at h
  cases events with
  | nil =>
    obtain ⟨rfl, -⟩ := Prod.mk.inj (Option.some.inj h)
    rfl
  | cons event events =>
    simp [deliverAll_ended] at h

theorem deliverAll_pair {first second : Step W} {after : HostEvent}
    (hactive : engine.active = some active)
    (hfirst : WorkflowReducer.dispatch active event (engine.context active) = .ok first)
    (hrunning : WorkflowReducer.terminalStatus first.workflow = .ok none)
    (hsecond : WorkflowReducer.dispatch first.workflow after
      ((engine.resumed first).context first.workflow) = .ok second)
    (hrunning' : WorkflowReducer.terminalStatus second.workflow = .ok none) :
    engine.deliverAll [event, after] =
      some ((engine.resumed first).resumed second, first.effects ++ second.effects) := by
  rw [deliverAll_resumed hactive hfirst hrunning, deliverAll_resumed rfl hsecond hrunning', deliverAll]
  simp only [Option.map_some, List.append_nil]

end Deliveries

end WorkflowEngine

namespace FirmwareUpdateWorkflow

open WorkflowEngine

variable {engine : WorkflowEngine FirmwareUpdateWorkflow} {w : FirmwareUpdateWorkflow}
  {context : WorkflowContext} {event : HostEvent} {events : List HostEvent} {call : Call}
  {id sid wid : RequestId} {value : List UInt8} {callbacks losses signals : List HostEvent}

/-- Past the events that are routed by the phase, the match of the phase decides. -/
theorem dispatch_direct {kind : HostEventKind} (hsaved : kind ≠ .checkpointSaved)
    (htimer : kind ≠ .timerFired RESPONSE_TIMEOUT_ID) (hreconnecting : w.phase ≠ .reconnecting)
    (hretry : w.phase ≠ .waitingReconnectRetry) (hstatus : w.statusOf id kind = none)
    (hreboots : ¬(w.phase = .awaitingReboot ∧ w.Reboots id kind)) :
    w.dispatch ⟨id, kind⟩ context = dispatchPhase id kind (.begin w context) := by
  unfold FirmwareUpdateWorkflow.dispatch
  simp only
  rw [if_neg fun h => hsaved h.1, if_neg htimer, if_neg (not_or.mpr ⟨hreconnecting, hretry⟩), hstatus]
  simp only
  rw [if_neg hreboots]

/-- A notification of the subscription is handled as a status. -/
theorem dispatch_status (hsubscription : w.subscriptionRequestId = some sid)
    (hreconnecting : w.phase ≠ .reconnecting) (hretry : w.phase ≠ .waitingReconnectRetry) :
    w.dispatch ⟨sid, statusNotification value⟩ context =
      handleStatusNotification value (.begin w context) := by
  have hstatus : w.statusOf sid (statusNotification value) = some value := by
    rw [statusNotification, statusOf, if_pos ⟨hsubscription.symm, rfl⟩]
  unfold FirmwareUpdateWorkflow.dispatch
  simp only
  rw [if_neg (fun h => nomatch h.1), if_neg nofun, if_neg (not_or.mpr ⟨hreconnecting, hretry⟩),
    hstatus]

/-! ## The readiness for the image -/

/-- The device is ready for the image. -/
def Ready (value : List UInt8) : Prop :=
  ∃ status, parseOtaStatus value = .ok status ∧ status.command = FIRMWARE_UPLOAD_START ∧
    status.result = 0

/-- The update without the identifiers of its requests and without the recorded readiness, which only
the callback of the START looks at. -/
def unnumbered (w : FirmwareUpdateWorkflow) : FirmwareUpdateWorkflow :=
  { w with readyResult := none, blobRequestId := none, writeRequestId := none }

def isTimer : Effect → Bool
  | .timer _ => true
  | _ => false

/-- What is requested, apart from the timers. -/
def transferred (effects : List EffectRequest) : List Effect :=
  (effects.map (·.effect)).filter fun effect => !isTimer effect

theorem transferred_append (front back : List EffectRequest) :
    transferred (front ++ back) = transferred front ++ transferred back := by
  rw [transferred, List.map_append, List.filter_append]
  rfl

@[simp] theorem transferred_request (call : Call) (effect : Effect)
    (record : RequestId → FirmwareUpdateWorkflow → FirmwareUpdateWorkflow) :
    transferred (call.request effect record).effects =
      transferred call.effects ++ [effect].filter fun effect => !isTimer effect := by
  rw [Step.request, transferred_append]
  rfl

@[simp] theorem transferred_cancelTimer (call : Call) :
    transferred (cancelTimer call).effects = transferred call.effects := by
  cases h : call.workflow.timerId <;> simp [cancelTimer, h, isTimer]

/-- What an update that has sent nothing asks for: its first chunk, or to verify an empty image. -/
def firstRequests (w : FirmwareUpdateWorkflow) : List Effect :=
  if w.sizeBytes = 0 then
    [.notify (.firmwareProgress { phase := .verifying, completedBytes := 0, totalBytes := 0 }),
      .ble (.write SERVICE_BOTA_STORAGE CHAR_TRANSFER_CONTROL
        (encodeFirmwareUploadVerify w.image.crc32) true)]
  else [.firmwareBlob (.readChunk w.downloadId 0 (min w.sizeBytes FIRMWARE_CHUNK_SIZE))]

/-- The update that asks so. -/
def asking (w : FirmwareUpdateWorkflow) : FirmwareUpdateWorkflow :=
  if w.sizeBytes = 0 then { unnumbered w with phase := .verifying, verifyResult := none }
  else { unnumbered w with phase := .readingChunk }

theorem readNextOrVerify_first (hoffset : call.workflow.offset = 0) :
    unnumbered (readNextOrVerify call).workflow = asking call.workflow ∧
      transferred (readNextOrVerify call).effects =
        transferred call.effects ++ firstRequests call.workflow := by
  unfold asking firstRequests
  rcases readNextOrVerify_cases call with ⟨hsize, heq⟩ | ⟨hsize, hworkflow, heffects⟩
  · rw [hoffset] at hsize
    have hempty : call.workflow.sizeBytes = 0 := Nat.le_zero.mp hsize
    rw [heq, if_pos hempty, if_pos hempty]
    refine ⟨rfl, ?_⟩
    simp only [writeVerify, progress, Step.push, Step.request, Step.allocate, Step.update,
      sizeBytes] at hempty ⊢
    rw [hempty, List.append_assoc, transferred_append]
    rfl
  · rw [hoffset] at hsize
    rw [if_neg hsize.ne', if_neg hsize.ne', hworkflow, heffects, hoffset, transferred_append]
    exact ⟨rfl, rfl⟩

/-- The update before it has sent anything, without a timer. -/
def cleared (w : FirmwareUpdateWorkflow) : FirmwareUpdateWorkflow :=
  { w with
    offset := 0, nextSequence := 0, pendingChunkUnits := 0, latestAck := none, waitingAck := none
    timerRequestId := none, timerId := none }

theorem beginTransfer_first (call : Call) :
    unnumbered (beginTransfer call).workflow = asking (cleared call.workflow) ∧
      transferred (beginTransfer call).effects =
        transferred call.effects ++ firstRequests (cleared call.workflow) := by
  have hcleared : (cancelTimer (call.update fun w =>
      { w with
        offset := 0, nextSequence := 0, pendingChunkUnits := 0, latestAck := none
        waitingAck := none })).workflow = cleared call.workflow := by
    rw [cancelTimer_workflow]
    rfl
  have h := readNextOrVerify_first (congrArg FirmwareUpdateWorkflow.offset hcleared)
  rw [hcleared, transferred_cancelTimer] at h
  exact h

/-- Two answers of the engine that leave the same transfer running: what is requested apart from the
timers is the same, and so is the workflow apart from its request identifiers. -/
def SameTransfer
    (first second : Option (WorkflowEngine FirmwareUpdateWorkflow × List EffectRequest)) : Prop :=
  ∃ (engine₁ engine₂ : WorkflowEngine FirmwareUpdateWorkflow) (effects₁ effects₂ : List EffectRequest)
    (w₁ w₂ : FirmwareUpdateWorkflow),
    first = some (engine₁, effects₁) ∧ second = some (engine₂, effects₂) ∧
      engine₁.active = some w₁ ∧ engine₂.active = some w₂ ∧ engine₁.status = engine₂.status ∧
      unnumbered w₁ = unnumbered w₂ ∧ transferred effects₁ = transferred effects₂

/-- The readiness is recorded while the START is being written, begins an awaited transfer, and says
nothing new afterwards. -/
theorem dispatch_ready (hsubscription : w.subscriptionRequestId = some sid)
    (hreconnecting : w.phase ≠ .reconnecting) (hretry : w.phase ≠ .waitingReconnectRetry)
    (hready : Ready value) :
    w.dispatch ⟨sid, statusNotification value⟩ context =
      if w.phase = .starting then .ok (.begin { w with readyResult := some 0 } context)
      else if w.phase = .awaitingReady then .ok (beginTransfer (.begin w context))
      else .ok (.begin w context) := by
  obtain ⟨status, hparse, hcommand, hresult⟩ := hready
  rw [dispatch_status hsubscription hreconnecting hretry, handleStatusNotification, hparse]
  simp only
  rw [if_pos hcommand, if_neg (not_ne_iff.mpr hresult), hresult, Step.begin_workflow]
  split
  · next hphase =>
    rw [if_pos hphase]
    rfl
  · next hphase => rw [if_neg (by simp [hphase]), if_pos hphase]
  · next hstarting hawaiting => rw [if_neg hstarting, if_neg hawaiting]

theorem dispatch_startWritten (context : WorkflowContext) (hphase : w.phase = .starting)
    (hwrite : w.writeRequestId = some wid) :
    w.dispatch ⟨wid, .ble .writeCompleted⟩ context = .ok (startWritten (.begin w context)) := by
  have hdirect : w.dispatch ⟨wid, .ble .writeCompleted⟩ context =
      dispatchPhase wid (.ble .writeCompleted) (.begin w context) :=
    dispatch_direct nofun nofun (by simp [hphase]) (by simp [hphase]) rfl fun h => h.2
  rw [hdirect]
  simp only [dispatchPhase, Step.begin_workflow, hphase]
  rw [if_pos hwrite.symm]

theorem beginTransfer_running (call : Call) :
    (beginTransfer call).workflow.phase = .verifying ∨
      (beginTransfer call).workflow.phase = .readingChunk :=
  readNextOrVerify_phase _

theorem running_of_verifying_or_reading (h : w.phase = .verifying ∨ w.phase = .readingChunk) :
    w.terminalStatus = .ok none := by
  refine running_terminalStatus ?_
  rcases h with h | h <;> simp [h]

/-- Once the START is written, a recorded readiness begins the transfer. -/
theorem startWritten_ready (h : w.readyResult = some 0) (context : WorkflowContext) :
    startWritten (.begin w context) =
      beginTransfer (.begin { w with writeRequestId := none } context) := by
  unfold startWritten
  exact if_pos h

theorem startWritten_awaits (h : w.readyResult ≠ some 0) (context : WorkflowContext) :
    startWritten (.begin w context) =
      scheduleTimer RESPONSE_TIMEOUT_ID RESPONSE_TIMEOUT_MS
        (.begin { w with writeRequestId := none, phase := .awaitingReady } context) := by
  unfold startWritten
  exact if_neg h

/-- The engine answers with the requests of an update that has sent nothing, and goes on with it. -/
def Transfers (engine : WorkflowEngine FirmwareUpdateWorkflow) (w : FirmwareUpdateWorkflow)
    (answer : Option (WorkflowEngine FirmwareUpdateWorkflow × List EffectRequest)) : Prop :=
  ∃ (next : WorkflowEngine FirmwareUpdateWorkflow) (effects : List EffectRequest)
    (begun : FirmwareUpdateWorkflow),
    answer = some (next, effects) ∧ next.active = some begun ∧ next.status = engine.status ∧
      unnumbered begun = asking (cleared w) ∧ transferred effects = firstRequests w

theorem Transfers.same {first second : Option (WorkflowEngine FirmwareUpdateWorkflow × List EffectRequest)}
    (h₁ : Transfers engine w first) (h₂ : Transfers engine w second) : SameTransfer first second := by
  obtain ⟨engine₁, effects₁, w₁, hfirst, hactive₁, hstatus₁, hw₁, heffects₁⟩ := h₁
  obtain ⟨engine₂, effects₂, w₂, hsecond, hactive₂, hstatus₂, hw₂, heffects₂⟩ := h₂
  exact ⟨engine₁, engine₂, effects₁, effects₂, w₁, w₂, hfirst, hsecond, hactive₁, hactive₂,
    hstatus₁.trans hstatus₂.symm, hw₁.trans hw₂.symm, heffects₁.trans heffects₂.symm⟩

section Readiness

variable (hactive : engine.active = some w) (hphase : w.phase = .starting)
  (hwrite : w.writeRequestId = some wid) (hsubscription : w.subscriptionRequestId = some sid)
  (hready : Ready value)

include hactive hphase hwrite hsubscription hready

/-- The readiness is recorded, and the callback begins the transfer. -/
theorem readiness_first : Transfers engine w
    (engine.deliverAll [⟨sid, statusNotification value⟩, ⟨wid, .ble .writeCompleted⟩]) := by
  have hrecorded : w.dispatch ⟨sid, statusNotification value⟩ (engine.context w) =
      .ok (.begin { w with readyResult := some 0 } (engine.context w)) := by
    rw [dispatch_ready hsubscription (by simp [hphase]) (by simp [hphase]) hready, if_pos hphase]
  have hrunning : FirmwareUpdateWorkflow.terminalStatus { w with readyResult := some 0 } = .ok none :=
    running_terminalStatus (by simp [hphase])
  have hwritten (context : WorkflowContext) :
      FirmwareUpdateWorkflow.dispatch { w with readyResult := some 0 } ⟨wid, .ble .writeCompleted⟩
        context = .ok (startWritten (.begin { w with readyResult := some 0 } context)) :=
    dispatch_startWritten context hphase hwrite
  have hbegun (context : WorkflowContext) :
      startWritten (.begin { w with readyResult := some 0 } context) =
        beginTransfer (.begin { w with readyResult := some 0, writeRequestId := none } context) :=
    startWritten_ready rfl context
  have hpair := deliverAll_pair hactive hrecorded hrunning (hwritten _)
    (running_of_verifying_or_reading (by rw [hbegun]; exact beginTransfer_running _))
  rw [hbegun] at hpair
  obtain ⟨hfirst, heffects⟩ := beginTransfer_first
    (.begin { w with readyResult := some 0, writeRequestId := none } (engine.context w))
  exact ⟨_, _, _, hpair, rfl, rfl, hfirst, heffects⟩

/-- The readiness is awaited after the callback, or has come before it. -/
theorem callback_first : Transfers engine w
    (engine.deliverAll [⟨wid, .ble .writeCompleted⟩, ⟨sid, statusNotification value⟩]) := by
  have hwritten := dispatch_startWritten (engine.context w) hphase hwrite
  by_cases hrecorded : w.readyResult = some 0
  · -- the transfer has begun, and the readiness says nothing new
    rw [startWritten_ready hrecorded] at hwritten
    have hbegun := beginTransfer_running (.begin { w with writeRequestId := none } (engine.context w))
    have hsubscribed := beginTransfer_subscription
      (.begin { w with writeRequestId := none } (engine.context w))
    obtain ⟨hfirst, heffects⟩ := beginTransfer_first
      (.begin { w with writeRequestId := none } (engine.context w))
    generalize beginTransfer (.begin { w with writeRequestId := none } (engine.context w)) = begun
      at hwritten hbegun hsubscribed hfirst heffects
    have hignored (context : WorkflowContext) :
        begun.workflow.dispatch ⟨sid, statusNotification value⟩ context =
          .ok (.begin begun.workflow context) := by
      rw [dispatch_ready (hsubscribed.trans hsubscription)
        (by rcases hbegun with h | h <;> simp [h]) (by rcases hbegun with h | h <;> simp [h]) hready,
        if_neg (by rcases hbegun with h | h <;> simp [h]),
        if_neg (by rcases hbegun with h | h <;> simp [h])]
    have hrunning := running_of_verifying_or_reading hbegun
    refine ⟨_, _, _, deliverAll_pair hactive hwritten hrunning (hignored _) hrunning, rfl, rfl, hfirst, ?_⟩
    rw [Step.begin_effects, List.append_nil]
    exact heffects
  · rw [startWritten_awaits hrecorded] at hwritten
    generalize hscheduled : scheduleTimer RESPONSE_TIMEOUT_ID RESPONSE_TIMEOUT_MS (.begin { w with
      writeRequestId := none, phase := .awaitingReady } (engine.context w)) = scheduled at hwritten
    have hphase : scheduled.workflow.phase = .awaitingReady := by
      rw [← hscheduled]
      rfl
    have hbegins (context : WorkflowContext) :
        scheduled.workflow.dispatch ⟨sid, statusNotification value⟩ context =
          .ok (beginTransfer (.begin scheduled.workflow context)) := by
      have hsubscribed : scheduled.workflow.subscriptionRequestId = some sid := by
        rw [← hscheduled]
        exact hsubscription
      rw [dispatch_ready hsubscribed (by simp [hphase]) (by simp [hphase]) hready,
        if_neg (by simp [hphase]), if_pos hphase]
    obtain ⟨hfirst, heffects⟩ := beginTransfer_first
      (.begin scheduled.workflow ((engine.resumed scheduled).context scheduled.workflow))
    refine ⟨_, _, _, deliverAll_pair hactive hwritten (running_terminalStatus (by simp [hphase]))
      (hbegins _) (running_of_verifying_or_reading (beginTransfer_running _)), rfl, rfl, ?_, ?_⟩
    · rw [WorkflowEngine.resumed] at hfirst
      refine hfirst.trans ?_
      rw [← hscheduled]
      rfl
    · rw [transferred_append, heffects, ← hscheduled]
      rfl

end Readiness

/-- The readiness of the device and the callback of the START may come in either order. -/
theorem readiness_order (hactive : engine.active = some w) (hphase : w.phase = .starting)
    (hwrite : w.writeRequestId = some wid) (hsubscription : w.subscriptionRequestId = some sid)
    (hready : Ready value) :
    SameTransfer
      (engine.deliverAll [⟨wid, .ble .writeCompleted⟩, ⟨sid, statusNotification value⟩])
      (engine.deliverAll [⟨sid, statusNotification value⟩, ⟨wid, .ble .writeCompleted⟩]) :=
  (callback_first hactive hphase hwrite hsubscription hready).same
    (readiness_first hactive hphase hwrite hsubscription hready)

/-! ## The reboot after the verification -/

/-- A signal that the link to the device is lost. -/
inductive LinkLost (sid : RequestId) : HostEvent → Prop
  | disconnected {id : RequestId} (peripheralId : String) (reason : Option Nat) :
      LinkLost sid ⟨id, .ble (.disconnected peripheralId reason)⟩
  | streamFailed (platformCode : Option Int) : LinkLost sid ⟨sid, .ble (.failed platformCode)⟩

/-- The callback of the VERIFY that is still to come. -/
inductive VerifyCallback (w : FirmwareUpdateWorkflow) : List HostEvent → Prop
  | written {wid : RequestId} : w.phase = .verifying → w.writeRequestId = some wid →
      VerifyCallback w [⟨wid, .ble .writeCompleted⟩]
  | failed {wid : RequestId} (platformCode : Option Int) : w.phase = .verifying →
      w.writeRequestId = some wid → VerifyCallback w [⟨wid, .ble (.failed platformCode)⟩]
  | answered : w.phase = .awaitingVerify → VerifyCallback w []

/-- Every event is accepted, and the update reconnects. -/
def Reconnects (engine : WorkflowEngine FirmwareUpdateWorkflow) (events : List HostEvent) : Prop :=
  ∃ (last : WorkflowEngine FirmwareUpdateWorkflow) (effects : List EffectRequest)
    (w : FirmwareUpdateWorkflow),
    engine.deliverAll events = some (last, effects) ∧ last.active = some w ∧ w.phase = .reconnecting

/-- The callback reports success and comes first, and the link is lost once. -/
def Orderly (callbacks losses signals : List HostEvent) : Prop :=
  (∀ callback ∈ callbacks, callback.kind = .ble .writeCompleted) ∧ losses.length = 1 ∧
    signals = callbacks ++ losses

theorem dispatch_verified_recorded (hphase : w.phase = .verifying)
    (hsubscription : w.subscriptionRequestId = some sid) (hverifies : Verifies value) :
    w.dispatch ⟨sid, statusNotification value⟩ context =
      .ok (.begin { w with verifyResult := some 0 } context) := by
  obtain ⟨status, hparse, hcommand, hresult⟩ := hverifies
  rw [dispatch_status hsubscription (by simp [hphase]) (by simp [hphase]), handleStatusNotification,
    hparse]
  simp only
  rw [hcommand, if_neg (by decide), if_neg (by decide), if_pos rfl, if_neg (not_ne_iff.mpr hresult),
    hresult, Step.begin_workflow]
  split
  · rfl
  · next h => cases hphase.symm.trans h
  · next h _ => exact absurd hphase h

theorem dispatch_verified_awaited (context : WorkflowContext) (hphase : w.phase = .awaitingVerify)
    (hsubscription : w.subscriptionRequestId = some sid) (hverifies : Verifies value) :
    w.dispatch ⟨sid, statusNotification value⟩ context = .ok (beginReboot (.begin w context)) := by
  obtain ⟨status, hparse, hcommand, hresult⟩ := hverifies
  rw [dispatch_status hsubscription (by simp [hphase]) (by simp [hphase]), handleStatusNotification,
    hparse]
  simp only
  rw [hcommand, if_neg (by decide), if_neg (by decide), if_pos rfl, if_neg (not_ne_iff.mpr hresult),
    Step.begin_workflow]
  split
  · next h => cases hphase.symm.trans h
  · rfl
  · next _ h => exact absurd hphase h

/-- The callback of a VERIFY that the device has answered. -/
theorem dispatch_verifyWritten (context : WorkflowContext) (hphase : w.phase = .verifying)
    (hverified : w.verifyResult = some 0) (hwrite : w.writeRequestId = some wid) :
    w.dispatch ⟨wid, .ble .writeCompleted⟩ context =
      .ok (beginReboot (.begin { w with writeRequestId := none } context)) := by
  have hdirect : w.dispatch ⟨wid, .ble .writeCompleted⟩ context =
      dispatchPhase wid (.ble .writeCompleted) (.begin w context) :=
    dispatch_direct nofun nofun (by simp [hphase]) (by simp [hphase]) rfl fun h => h.2
  rw [hdirect]
  simp only [dispatchPhase, Step.begin_workflow, hphase]
  rw [if_pos hwrite.symm]
  unfold verifyWritten
  exact congrArg Reduction.ok (if_pos hverified)

theorem beginReboot_workflow (call : Call) :
    (beginReboot call).workflow =
      { call.workflow with
        phase := .awaitingReboot, timerId := some REBOOT_TIMEOUT_ID
        timerRequestId := (beginReboot call).workflow.timerRequestId } := by
  unfold beginReboot
  rw [scheduleTimer_workflow, progress_workflow, cancelTimer_workflow]
  rfl

/-- Until the VERIFY is written, a lost link and a failed write end the update. -/
theorem dispatch_verifying_lost (hphase : w.phase = .verifying)
    (hsubscription : w.subscriptionRequestId = some sid)
    (h : LinkLost sid event ∨ ∃ wid platformCode, w.writeRequestId = some wid ∧
      event = ⟨wid, .ble (.failed platformCode)⟩) :
    ∃ error, w.dispatch event context = .ok (fail error (.begin w context)) := by
  have hdirect {id : RequestId} {event : BleEvent} (hstatus : w.statusOf id (.ble event) = none) :
      w.dispatch ⟨id, .ble event⟩ context = dispatchPhase id (.ble event) (.begin w context) :=
    dispatch_direct nofun nofun (by simp [hphase]) (by simp [hphase]) hstatus (by simp [hphase])
  rcases h with (⟨peripheralId, reason⟩ | ⟨platformCode⟩) | ⟨wid, platformCode, hwrite, rfl⟩
  · exact ⟨_, hdirect rfl⟩
  · refine ⟨_, (hdirect rfl).trans (if_pos (.inl hsubscription.symm))⟩
  · refine ⟨_, (hdirect rfl).trans (if_pos (.inr (.inl hwrite.symm)))⟩

/-- After the verification the loss of the link is the reboot. -/
theorem dispatch_rebooted (context : WorkflowContext) (hphase : w.phase = .awaitingReboot)
    (hsubscription : w.subscriptionRequestId = some sid) (h : LinkLost sid event) :
    w.dispatch event context = .ok (beginReconnect (unsubscribe (cancelTimer (.begin w context)))) := by
  have hreboots {id : RequestId} {event : BleEvent} (hstatus : w.statusOf id (.ble event) = none)
      (hreboots : w.Reboots id (.ble event)) :
      w.dispatch ⟨id, .ble event⟩ context =
        .ok (beginReconnect (unsubscribe (cancelTimer (.begin w context)))) := by
    unfold FirmwareUpdateWorkflow.dispatch
    simp only
    rw [if_neg (fun h => nomatch h.1), if_neg nofun, if_neg (by simp [hphase]), hstatus]
    exact if_pos ⟨hphase, hreboots⟩
  rcases h with ⟨peripheralId, reason⟩ | ⟨platformCode⟩
  · exact hreboots rfl trivial
  · exact hreboots rfl hsubscription.symm

/-- A connection that has only begun to scan. -/
def Scanning (connection : ConnectionWorkflow) : Prop :=
  connection.phase = .scanning ∧ connection.connectRequestId = none ∧
    connection.discoverRequestId = none ∧ connection.readRequestId = none ∧
    connection.disconnectRequestId = none

theorem beginReconnect_scanning (call : Call) :
    (beginReconnect call).workflow.phase = .reconnecting ∧
      ∃ connection, (beginReconnect call).workflow.connection = some connection ∧
        Scanning connection :=
  ⟨rfl, _, rfl, rfl, rfl, rfl, rfl, rfl⟩

/-- A scan expects no loss of a link. -/
theorem Scanning.dispatch {connection : ConnectionWorkflow} (context : WorkflowContext)
    (hscanning : Scanning connection)
    (h : LinkLost sid event) :
    connection.dispatch event context = .err connection context connection.unexpected := by
  obtain ⟨hphase, hconnect, hdiscover, hread, hdisconnect⟩ := hscanning
  rcases h with ⟨peripheralId, reason⟩ | ⟨platformCode⟩
  · simp [ConnectionWorkflow.dispatch, ConnectionWorkflow.dispatchPhase, hphase]
  · simp [ConnectionWorkflow.dispatch, ConnectionWorkflow.dispatchPhase, hphase, hconnect, hdiscover,
      hread, hdisconnect]

/-- So a second loss is rejected. -/
theorem dispatch_lost_again {connection : ConnectionWorkflow} (context : WorkflowContext)
    (hphase : w.phase = .reconnecting)
    (hconnection : w.connection = some connection) (hscanning : Scanning connection)
    (h : LinkLost sid event) :
    ∃ workflow context' error, w.dispatch event context = .err workflow context' error := by
  have hroute {id : RequestId} {event : BleEvent}
      (hreject : connection.dispatch ⟨id, .ble event⟩ context =
        .err connection context connection.unexpected) :
      ∃ workflow context' error, w.dispatch ⟨id, .ble event⟩ context = .err workflow context' error := by
    unfold FirmwareUpdateWorkflow.dispatch
    simp only
    rw [if_neg (fun h => by cases h.1), if_neg (by rintro ⟨⟩), if_pos (.inl hphase), dispatchReconnect,
      if_neg (fun h => by cases h.1), if_neg (by simp [hphase])]
    simp only [Step.begin_workflow, hconnection]
    rw [toConnection, Step.begin_context, hreject]
    exact ⟨_, _, _, rfl⟩
  have hreject := hscanning.dispatch context h
  rcases h with ⟨peripheralId, reason⟩ | ⟨platformCode⟩
  · exact hroute hreject
  · exact hroute hreject

theorem reconnects_resumed (hactive : engine.active = some w)
    (hcall : w.dispatch event (engine.context w) = .ok call)
    (hrunning : call.workflow.terminalStatus = .ok none) :
    Reconnects engine (event :: events) ↔ Reconnects (engine.resumed call) events := by
  unfold Reconnects
  rw [deliverAll_resumed hactive hcall hrunning]
  constructor
  · rintro ⟨last, effects, w', hdelivered, hlast⟩
    obtain ⟨⟨last', more⟩, hmore, heq⟩ := Option.map_eq_some_iff.mp hdelivered
    obtain ⟨rfl, -⟩ := Prod.mk.inj heq
    exact ⟨_, _, w', hmore, hlast⟩
  · rintro ⟨last, effects, w', hdelivered, hlast⟩
    exact ⟨last, call.effects ++ effects, w', by rw [hdelivered]; rfl, hlast⟩

theorem not_reconnects_failed {error : DeviceSdkError} (hactive : engine.active = some w)
    (hcall : w.dispatch event (engine.context w) = .ok (fail error call)) :
    ¬Reconnects engine (event :: events) := by
  rintro ⟨last, effects, w', hdelivered, hlast, -⟩
  obtain ⟨status, hended⟩ : Ended (fail error call).workflow := ended_fail error
  exact nomatch (deliverAll_ending hactive hcall hended hdelivered).symm.trans hlast

/-- Once the reboot is awaited, exactly one signal of the lost link is expected. -/
theorem reconnects_rebooting (hactive : engine.active = some w) (hphase : w.phase = .awaitingReboot)
    (hsubscription : w.subscriptionRequestId = some sid) (hlosses : losses ≠ [])
    (hlost : ∀ loss ∈ losses, LinkLost sid loss) :
    Reconnects engine losses ↔ losses.length = 1 := by
  cases losses with
  | nil => exact absurd rfl hlosses
  | cons loss rest =>
    have hrebooted := dispatch_rebooted (engine.context w) hphase hsubscription
      (hlost loss List.mem_cons_self)
    obtain ⟨hreconnecting, connection, hconnection, hscanning⟩ :=
      beginReconnect_scanning (unsubscribe (cancelTimer (.begin w (engine.context w))))
    generalize beginReconnect (unsubscribe (cancelTimer (.begin w (engine.context w)))) = call
      at hrebooted hreconnecting hconnection
    have hrunning : call.workflow.terminalStatus = .ok none :=
      running_terminalStatus (by simp [hreconnecting])
    rw [reconnects_resumed hactive hrebooted hrunning, List.length_cons]
    cases rest with
    | nil => exact iff_of_true ⟨_, _, _, rfl, rfl, hreconnecting⟩ rfl
    | cons second rest =>
      refine iff_of_false ?_ (by simp)
      rintro ⟨last, effects, w', hdelivered, -⟩
      have hsecond := hlost second (List.mem_cons_of_mem _ List.mem_cons_self)
      obtain ⟨workflow, context', error, hreject⟩ := dispatch_lost_again
        ((engine.resumed call).context call.workflow) hreconnecting hconnection hscanning
        hsecond
      exact nomatch (deliverAll_rejected rfl hreject).symm.trans hdelivered

/-- So the losses in any order are one loss. -/
theorem reconnects_rebooting_perm (hactive : engine.active = some w)
    (hphase : w.phase = .awaitingReboot) (hsubscription : w.subscriptionRequestId = some sid)
    (hlosses : losses ≠ []) (hlost : ∀ loss ∈ losses, LinkLost sid loss)
    (horder : signals.Perm losses) :
    Reconnects engine signals ↔ losses.length = 1 ∧ signals = losses := by
  have hsignals : signals ≠ [] := by
    rintro rfl
    exact hlosses (List.nil_perm.mp horder)
  rw [reconnects_rebooting hactive hphase hsubscription hsignals
    (fun signal hmem => hlost signal (horder.mem_iff.mp hmem)), horder.length_eq]
  refine ⟨fun hone => ⟨hone, ?_⟩, fun h => h.1⟩
  obtain ⟨loss, rfl⟩ := List.length_eq_one_iff.mp hone
  exact List.perm_singleton.mp horder

/-- While the VERIFY is being written, its callback has to come first, and to report success. -/
theorem reconnects_verifying (hactive : engine.active = some w) (hphase : w.phase = .verifying)
    (hverified : w.verifyResult = some 0) (hsubscription : w.subscriptionRequestId = some sid)
    (hwrite : w.writeRequestId = some wid) {callback : HostEvent}
    (hcallback : callback = ⟨wid, .ble .writeCompleted⟩ ∨
      ∃ platformCode, callback = ⟨wid, .ble (.failed platformCode)⟩)
    (hlosses : losses ≠ []) (hlost : ∀ loss ∈ losses, LinkLost sid loss)
    (horder : signals.Perm (callback :: losses)) :
    Reconnects engine signals ↔ Orderly [callback] losses signals := by
  cases signals with
  | nil => exact absurd (List.nil_perm.mp horder) (List.cons_ne_nil _ _)
  | cons signal signals =>
    by_cases hfirst : signal = ⟨wid, .ble .writeCompleted⟩ ∧ signal = callback
    · obtain ⟨rfl, rfl⟩ := hfirst
      have hwritten := dispatch_verifyWritten (engine.context w) hphase hverified hwrite
      have hworkflow := beginReboot_workflow (.begin { w with writeRequestId := none } (engine.context w))
      generalize beginReboot (.begin { w with writeRequestId := none } (engine.context w)) = call
        at hwritten hworkflow
      have hrebooting : call.workflow.phase = .awaitingReboot := by rw [hworkflow]
      have hsubscribed : call.workflow.subscriptionRequestId = some sid := by
        rw [hworkflow]
        exact hsubscription
      rw [reconnects_resumed hactive hwritten (running_terminalStatus (by simp [hrebooting])),
        reconnects_rebooting_perm rfl hrebooting hsubscribed hlosses hlost horder.cons_inv]
      refine ⟨fun h => ⟨fun callback hmem => ?_, h.1, ?_⟩, fun h => ⟨h.2.1, ?_⟩⟩
      · rw [List.mem_singleton.mp hmem]
      · rw [h.2]
        rfl
      · exact (List.cons.inj h.2.2).2
    · -- a lost link or a failed write comes first
      refine iff_of_false ?_ fun h => hfirst ?_
      · have hfails : LinkLost sid signal ∨ ∃ wid platformCode, w.writeRequestId = some wid ∧
            signal = ⟨wid, .ble (.failed platformCode)⟩ := by
          rcases List.mem_cons.mp (horder.mem_iff.mp List.mem_cons_self) with rfl | hmem
          · rcases hcallback with rfl | ⟨platformCode, rfl⟩
            · exact absurd ⟨rfl, rfl⟩ hfirst
            · exact .inr ⟨wid, platformCode, hwrite, rfl⟩
          · exact .inl (hlost signal hmem)
        obtain ⟨error, hfailed⟩ := dispatch_verifying_lost hphase hsubscription hfails
        exact not_reconnects_failed hactive hfailed
      · obtain ⟨hkind, -, hsignals⟩ := h
        obtain ⟨rfl, -⟩ := List.cons.inj hsignals
        refine ⟨?_, rfl⟩
        rcases hcallback with rfl | ⟨platformCode, rfl⟩
        · rfl
        · exact nomatch hkind _ List.mem_cons_self

/-- The update with an accepted image reconnects just when the callback of its VERIFY reports success
and comes before the only signal of the lost link. -/
theorem reconnects_verified (hactive : engine.active = some w)
    (hsubscription : w.subscriptionRequestId = some sid) (hverifies : Verifies value)
    (hcallback : VerifyCallback w callbacks) (hlosses : losses ≠ [])
    (hlost : ∀ loss ∈ losses, LinkLost sid loss) (horder : signals.Perm (callbacks ++ losses)) :
    Reconnects engine (⟨sid, statusNotification value⟩ :: signals) ↔
      Orderly callbacks losses signals := by
  have hverifying (hphase : w.phase = .verifying) :
      Reconnects engine (⟨sid, statusNotification value⟩ :: signals) ↔
        Reconnects (engine.resumed (.begin { w with verifyResult := some 0 } (engine.context w)))
          signals :=
    reconnects_resumed hactive (dispatch_verified_recorded hphase hsubscription hverifies)
      (running_terminalStatus (by simp [hphase]))
  cases hcallback with
  | @written wid hphase hwrite =>
    rw [hverifying hphase]
    exact reconnects_verifying (w := { w with verifyResult := some 0 }) rfl hphase rfl hsubscription
      hwrite (.inl rfl) hlosses hlost horder
  | @failed wid platformCode hphase hwrite =>
    rw [hverifying hphase]
    exact reconnects_verifying (w := { w with verifyResult := some 0 }) rfl hphase rfl hsubscription
      hwrite (.inr ⟨platformCode, rfl⟩) hlosses hlost horder
  | answered hphase =>
    have hverified := dispatch_verified_awaited (engine.context w) hphase hsubscription
      hverifies
    have hworkflow := beginReboot_workflow (.begin w (engine.context w))
    generalize beginReboot (.begin w (engine.context w)) = call at hverified hworkflow
    have hrebooting : call.workflow.phase = .awaitingReboot := by rw [hworkflow]
    have hsubscribed : call.workflow.subscriptionRequestId = some sid := by
      rw [hworkflow]
      exact hsubscription
    rw [reconnects_resumed hactive hverified (running_terminalStatus (by simp [hrebooting])),
      reconnects_rebooting_perm rfl hrebooting hsubscribed hlosses hlost horder]
    exact ⟨fun h => ⟨fun _ hmem => (nomatch hmem), h⟩, fun h => h.2⟩

/-- Around the START the order makes no difference; after the verification it decides. -/
theorem callback_orders (hactive : engine.active = some w)
    (hsubscription : w.subscriptionRequestId = some sid) :
    (∀ (wid : RequestId) (value : List UInt8), w.phase = .starting → w.writeRequestId = some wid →
        Ready value →
      SameTransfer
        (engine.deliverAll [⟨wid, .ble .writeCompleted⟩, ⟨sid, statusNotification value⟩])
        (engine.deliverAll [⟨sid, statusNotification value⟩, ⟨wid, .ble .writeCompleted⟩])) ∧
      ∀ (value : List UInt8) (callbacks losses signals : List HostEvent), Verifies value →
        VerifyCallback w callbacks → losses ≠ [] → (∀ loss ∈ losses, LinkLost sid loss) →
        signals.Perm (callbacks ++ losses) →
      (Reconnects engine (⟨sid, statusNotification value⟩ :: signals) ↔
        Orderly callbacks losses signals) :=
  ⟨fun _ _ hphase hwrite hready => readiness_order hactive hphase hwrite hsubscription hready,
    fun _ _ _ _ hverifies hcallback hlosses hlost horder =>
      reconnects_verified hactive hsubscription hverifies hcallback hlosses hlost horder⟩

/-- An update whose START is being written. -/
def smallStarting : WorkflowEngine FirmwareUpdateWorkflow :=
  (Machine.exec WorkflowEngine.dispatch [] smallStart.1 (smallPrelude.take 3)).2

/-- An update whose VERIFY is being written. -/
def smallVerifying : WorkflowEngine FirmwareUpdateWorkflow :=
  (Machine.exec WorkflowEngine.dispatch [] smallStart.1 smallTransfer).2

/-- The device accepts the image. -/
def smallVerified : HostEvent :=
  ⟨6, statusNotification [FIRMWARE_UPLOAD_VERIFY, 0]⟩

def smallReboot : HostEvent :=
  ⟨6, .ble (.disconnected "pin" none)⟩

theorem callback_orders_sample :
    SameTransfer
        (smallStarting.deliverAll [⟨8, .ble .writeCompleted⟩,
          ⟨6, statusNotification [FIRMWARE_UPLOAD_START, 0]⟩])
        (smallStarting.deliverAll [⟨6, statusNotification [FIRMWARE_UPLOAD_START, 0]⟩,
          ⟨8, .ble .writeCompleted⟩]) ∧
      Reconnects smallVerifying [smallVerified, ⟨49, .ble .writeCompleted⟩, smallReboot] := by
  have hstarting : smallStarting.active.map (fun w =>
      (w.subscriptionRequestId, w.phase, w.writeRequestId)) = some (some 6, .starting, some 8) := by
    decide +kernel
  have hverifying : smallVerifying.active.map (fun w =>
      (w.subscriptionRequestId, w.phase, w.writeRequestId)) = some (some 6, .verifying, some 49) := by
    decide +kernel
  obtain ⟨starting, hactive, hfields⟩ := Option.map_eq_some_iff.mp hstarting
  obtain ⟨verifying, hactive', hfields'⟩ := Option.map_eq_some_iff.mp hverifying
  simp only [Prod.mk.injEq] at hfields hfields'
  have horder := (callback_orders hactive hfields.1).1 8 [FIRMWARE_UPLOAD_START, 0] hfields.2.1
    hfields.2.2 ⟨_, rfl, rfl, rfl⟩
  have hlost : ∀ loss ∈ [smallReboot], LinkLost 6 loss := by
    intro loss hmem
    rw [List.mem_singleton.mp hmem]
    exact .disconnected _ _
  have hreconnects := (callback_orders hactive' hfields'.1).2 [FIRMWARE_UPLOAD_VERIFY, 0] _
    [smallReboot] [⟨49, .ble .writeCompleted⟩, smallReboot] ⟨_, rfl, rfl, rfl⟩
    (.written hfields'.2.1 hfields'.2.2) (List.cons_ne_nil _ _) hlost (.refl _)
  exact ⟨horder, hreconnects.mpr ⟨fun callback hmem => by rw [List.mem_singleton.mp hmem], rfl, rfl⟩⟩

/-- The device accepts the image and reboots before the callback of the VERIFY: the update fails. -/
theorem reboot_before_callback :
    Verifies [FIRMWARE_UPLOAD_VERIFY, 0] ∧
      (smallVerifying.deliverAll [smallVerified, smallReboot]).map (·.1.status) =
        some (.failed (updateError .notConnected
          "device disconnected before firmware verification completed")) ∧
      smallVerifying.deliverAll [smallVerified, smallReboot, ⟨49, .ble .writeCompleted⟩] = none :=
  ⟨⟨_, rfl, rfl, rfl⟩, by decide +kernel, by decide +kernel⟩

end FirmwareUpdateWorkflow

end BotaSdk
