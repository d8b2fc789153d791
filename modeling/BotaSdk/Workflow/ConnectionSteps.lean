import BotaSdk.Engine.Timers
import BotaSdk.Workflow.Connection

/-!
# What one event can do to a connection

`Transition` lists every accepted event once, with the call that it leads to.
-/

namespace BotaSdk

open Connection History Protocol

namespace Connection

/-- The effects that make, end or credit a connection. -/
def Main : Effect → Prop
  | .ble (.connect _) | .ble (.disconnect _) | .ble (.read _ _) => True
  | .persistence (.saveConnectionIdentity _ _) => True
  | .notify (.connectionEstablished _ _ _) => True
  | _ => False

instance (effect : Effect) : Decidable (Main effect) := by
  unfold Main
  split <;> infer_instance

/-- The main requests among `effects`, under their identifiers. -/
def mains (effects : List EffectRequest) : List (RequestId × Effect) :=
  (issues effects).filter fun issue => Main issue.2

section Projections

variable {W : Type} (step : Step W) (f : W → W) (effect : Effect) (track : RequestId → W → W)
  (request : EffectRequest)

@[simp] theorem mains_nil : mains [] = [] := rfl

@[simp] theorem mains_append (front back : List EffectRequest) :
    mains (front ++ back) = mains front ++ mains back := by
  rw [mains, issues_append, List.filter_append]
  rfl

@[simp] theorem mains_request :
    mains (step.request effect track).effects =
      mains step.effects ++ if Main effect then [(step.context.nextRequestId, effect)] else [] := by
  rw [Step.request, mains_append]
  congr 1
  by_cases h : Main effect
  · simp [mains, issues, h]
  · simp [mains, issues, h]

@[simp] theorem mains_push :
    mains (step.push request).effects =
      mains step.effects ++
        if Main request.effect then [(request.requestId, request.effect)] else [] := by
  rw [Step.push, mains_append]
  congr 1
  by_cases h : Main request.effect
  · simp [mains, issues, h]
  · simp [mains, issues, h]

@[simp] theorem push_workflow : (step.push request).workflow = step.workflow := rfl
@[simp] theorem push_context : (step.push request).context = step.context := rfl
@[simp] theorem allocate_workflow :
    (step.allocate track).workflow = track step.context.nextRequestId step.workflow := rfl
@[simp] theorem allocate_context : (step.allocate track).context = step.context.advance := rfl
@[simp] theorem allocate_effects : (step.allocate track).effects = step.effects := rfl
@[simp] theorem next_effect : (step.next effect).effect = effect := rfl
@[simp] theorem next_requestId : (step.next effect).requestId = step.context.nextRequestId := rfl

end Projections

end Connection

namespace ConnectionWorkflow

/-! ## The shared parts -/

section Parts

variable (call : Call)

/-- The checkpoints awaited once request `n` is one of them. -/
def awaitedCheckpoints (n : RequestId) (device : Option DeviceSerialNumber)
    (ids : Finset RequestId) : Finset RequestId :=
  match device with
  | none => ids
  | some _ => insert n ids

@[simp] theorem pushCheckpoint_workflow (phase : CheckpointPhase) :
    (pushCheckpoint phase call).workflow =
      { call.workflow with
        checkpointRequestIds := awaitedCheckpoints call.context.nextRequestId call.workflow.device
          call.workflow.checkpointRequestIds } := by
  rw [pushCheckpoint]
  cases call.workflow.device <;> rfl

@[simp] theorem pushCheckpoint_mains (phase : CheckpointPhase) :
    mains (pushCheckpoint phase call).effects = mains call.effects := by
  rw [pushCheckpoint]
  cases call.workflow.device <;> simp [Main]

@[simp] theorem pushCheckpoint_timers (phase : CheckpointPhase) :
    timers (pushCheckpoint phase call).effects = timers call.effects := by
  rw [pushCheckpoint]
  cases call.workflow.device <;> simp

@[simp] theorem cancelAttemptTimer_workflow :
    (cancelAttemptTimer call).workflow =
      { call.workflow with attemptTimerRequestId := none, attemptTimerId := none } := by
  cases h : call.workflow.attemptTimerId <;> simp [cancelAttemptTimer, h]

@[simp] theorem cancelAttemptTimer_mains :
    mains (cancelAttemptTimer call).effects = mains call.effects := by
  cases h : call.workflow.attemptTimerId <;> simp [cancelAttemptTimer, h, Main]

/-- The cancellation of the attempt's timer, if it has one, as request `n`. -/
def attemptCancel (n : RequestId) (w : ConnectionWorkflow) : List (RequestId × TimerEffect) :=
  match w.attemptTimerId with
  | none => []
  | some timerId => [(n, .cancel timerId)]

@[simp] theorem cancelAttemptTimer_timers :
    timers (cancelAttemptTimer call).effects =
      timers call.effects ++ attemptCancel call.context.nextRequestId call.workflow := by
  cases h : call.workflow.attemptTimerId <;> simp [cancelAttemptTimer, attemptCancel, h]

theorem beginScan_workflow :
    ∃ ids, (beginScan call).workflow =
      { call.workflow with
        phase := .scanning, scanRequestId := some call.context.nextRequestId
        nextTimerId := saturatingAdd call.workflow.nextTimerId 1
        scanTimerRequestId := some call.context.advance.nextRequestId
        scanTimerId := some call.workflow.nextTimerId, checkpointRequestIds := ids } := by
  simp [beginScan, scheduleTimer]

@[simp] theorem beginScan_mains : mains (beginScan call).effects = mains call.effects := by
  simp [beginScan, scheduleTimer, Main]

theorem beginScan_timers :
    ∃ delayMs, timers (beginScan call).effects =
      timers call.effects ++
        [(call.context.advance.nextRequestId, .schedule call.workflow.nextTimerId delayMs)] := by
  simp [beginScan, scheduleTimer]

theorem stopScan_workflow :
    ∃ ids, (stopScan call).workflow =
      { call.workflow with
        phase := .stoppingScan, disconnectRequestId := none, discoverRequestId := none
        readRequestId := none, connectRequestId := none
        stopScanRequestId := some call.context.nextRequestId, checkpointRequestIds := ids } := by
  cases h : call.workflow.scanTimerId <;> simp [stopScan, h]

@[simp] theorem stopScan_mains : mains (stopScan call).effects = mains call.effects := by
  cases h : call.workflow.scanTimerId <;> simp [stopScan, h, Main]

/-- The cancellation of the scan's timer, if it has one, as request `n`. -/
def scanCancel (n : RequestId) (w : ConnectionWorkflow) : List (RequestId × TimerEffect) :=
  match w.scanTimerId with
  | none => []
  | some timerId => [(n, .cancel timerId)]

@[simp] theorem stopScan_timers :
    timers (stopScan call).effects =
      timers call.effects ++ scanCancel call.context.advance.nextRequestId call.workflow := by
  cases h : call.workflow.scanTimerId <;> simp [stopScan, scanCancel, h]

variable (candidate : DeviceCandidate) (verifySerial : Bool)

theorem beginConnection_workflow :
    ∃ ids, (beginConnection candidate verifySerial call).workflow =
      { call.workflow with
        phase := .connecting
        attemptedPeripheralIds :=
          insert candidate.peripheralId call.workflow.attemptedPeripheralIds
        activeCandidate := some candidate, verifySerial := verifySerial
        discoverRequestId := none, readRequestId := none, disconnectRequestId := none
        persistRequestId := none, connectRequestId := some call.context.nextRequestId
        nextTimerId := saturatingAdd call.workflow.nextTimerId 1
        attemptTimerRequestId := some call.context.advance.nextRequestId
        attemptTimerId := some call.workflow.nextTimerId, checkpointRequestIds := ids } := by
  simp [beginConnection, scheduleTimer]

@[simp] theorem beginConnection_mains :
    mains (beginConnection candidate verifySerial call).effects =
      mains call.effects ++
        [(call.context.nextRequestId, .ble (.connect candidate.peripheralId))] := by
  simp [beginConnection, scheduleTimer, Main]

theorem beginConnection_timers :
    ∃ delayMs, timers (beginConnection candidate verifySerial call).effects =
      timers call.effects ++
        [(call.context.advance.nextRequestId, .schedule call.workflow.nextTimerId delayMs)] := by
  simp [beginConnection, scheduleTimer]

variable (error : DeviceSdkError)

@[simp] theorem fail_workflow :
    (fail error call).workflow =
      { call.workflow with
        phase := .failed, terminalError := some error, attemptTimerRequestId := none
        attemptTimerId := none } := by
  simp [fail]

@[simp] theorem fail_mains : mains (fail error call).effects = mains call.effects := by
  simp [fail, Main]

@[simp] theorem fail_timers :
    timers (fail error call).effects =
      timers call.effects ++ attemptCancel call.context.nextRequestId call.workflow := by
  simp [fail, attemptCancel]

end Parts

/-! ## Outcomes -/

/-- A probe goes to the next candidate, or there is none left. -/
inductive Probes (call : Call) : Call → Prop
  | connection {candidate : DeviceCandidate} :
      call.workflow.probeCandidates[call.workflow.candidateIndex]? = some candidate →
      Probes call (beginConnection candidate true call)
  | exhausted (error : DeviceSdkError) : Probes call (fail error call)

theorem beginNextProbe_probes {call : Call} (h : call.workflow.device ≠ none) :
    ∃ call', beginNextProbe call = .ok call' ∧ Probes call call' := by
  rw [beginNextProbe]
  cases hnext : call.workflow.probeCandidates[call.workflow.candidateIndex]? with
  | some candidate => exact ⟨_, rfl, .connection hnext⟩
  | none =>
    obtain ⟨device, hdevice⟩ := Option.ne_none_iff_exists'.mp h
    simp only [hdevice]
    exact ⟨_, rfl, .exhausted _⟩

/-- The identity of the active candidate is saved. -/
structure Persists (call : Call) (device : DeviceSerialNumber) (candidate : DeviceCandidate)
    (call' : Call) : Prop where
  workflow : ∃ ids, call'.workflow =
    { call.workflow with
      phase := .persisting, persistRequestId := some call.context.nextRequestId
      attemptTimerRequestId := none, attemptTimerId := none, checkpointRequestIds := ids }
  mains : mains call'.effects = mains call.effects ++
    [(call.context.nextRequestId, .persistence (.saveConnectionIdentity device candidate))]
  timers : timers call'.effects =
    timers call.effects ++ attemptCancel call.context.advance.nextRequestId call.workflow

theorem beginPersist_persists {call : Call} {device : DeviceSerialNumber}
    {candidate : DeviceCandidate} (hdevice : call.workflow.device = some device)
    (hactive : call.workflow.activeCandidate = some candidate) :
    ∃ call', beginPersist call = .ok call' ∧ Persists call device candidate call' := by
  simp only [beginPersist, Step.update_workflow, hdevice, hactive]
  refine ⟨_, rfl, ?_, ?_, ?_⟩
  · simp
  · simp [Main]
  · simp [attemptCancel]

/-- The attempt is given up and the peripheral disconnected. -/
structure Drops (call : Call) (outcome : DisconnectOutcome) (candidate : DeviceCandidate)
    (call' : Call) : Prop where
  workflow : ∃ ids, call'.workflow =
    { call.workflow with
      phase := .disconnecting, disconnectOutcome := some outcome
      disconnectRequestId := some call.context.nextRequestId
      attemptTimerRequestId := none, attemptTimerId := none, checkpointRequestIds := ids }
  mains : mains call'.effects = mains call.effects ++
    [(call.context.nextRequestId, .ble (.disconnect candidate.peripheralId))]
  timers : timers call'.effects =
    timers call.effects ++ attemptCancel call.context.advance.nextRequestId call.workflow

theorem beginDisconnect_drops {call : Call} {candidate : DeviceCandidate}
    (outcome : DisconnectOutcome) (hactive : call.workflow.activeCandidate = some candidate) :
    ∃ call', beginDisconnect outcome call = .ok call' ∧ Drops call outcome candidate call' := by
  simp only [beginDisconnect, Step.update_workflow, hactive]
  refine ⟨_, rfl, ?_, ?_, ?_⟩
  · simp
  · simp [Main]
  · simp [attemptCancel]

/-! ## Formed states -/

/-- What a phase needs of the other fields, so that no `expect` fails, and which answers are still
awaited in it. -/
structure Formed (w : ConnectionWorkflow) : Prop where
  running : w.phase ≠ .completed ∧ w.phase ≠ .failed
  device : w.mode = .reconnect → w.device ≠ none
  scanning : w.phase = .scanning ∨ w.phase = .stoppingScan → w.mode = .reconnect
  active : w.phase = .connecting ∨ w.phase = .discovering ∨ w.phase = .readingSerial ∨
    w.phase = .disconnecting ∨ w.phase = .persisting → w.activeCandidate ≠ none
  verify : w.phase = .connecting ∨ w.phase = .discovering → w.verifySerial = true
  identified : w.phase = .persisting → w.device ≠ none
  outcome : w.phase = .disconnecting → w.disconnectOutcome ≠ none
  probeNext : w.disconnectOutcome = some .probeNext → w.mode = .reconnect
  connectRequest : w.connectRequestId ≠ none → w.phase = .connecting ∨ w.phase = .disconnecting
  discoverRequest : w.discoverRequestId ≠ none → w.phase = .discovering ∨ w.phase = .disconnecting
  readRequest : w.readRequestId ≠ none → w.phase = .readingSerial ∨ w.phase = .disconnecting
  disconnectRequest : w.disconnectRequestId ≠ none → w.phase = .disconnecting
  attemptTimer : w.attemptTimerId ≠ none →
    w.phase = .connecting ∨ w.phase = .discovering ∨ w.phase = .readingSerial
  attemptTimerRequest : w.attemptTimerRequestId ≠ none → w.attemptTimerId ≠ none

/-! ## Transitions -/

/-- Why an attempt is given up. -/
inductive GivenUp (w : ConnectionWorkflow) : HostEvent → Prop
  | mismatch {id : RequestId} (value : List UInt8) :
      w.phase = .readingSerial → w.readRequestId = some id →
      GivenUp w ⟨id, .ble (.readCompleted value)⟩
  | failure {id : RequestId} (platformCode : Option Int) :
      w.phase = .discovering ∨ w.phase = .readingSerial →
      GivenUp w ⟨id, .ble (.failed platformCode)⟩
  | timeout {id : RequestId} {timerId : Nat} :
      w.phase = .connecting ∨ w.phase = .discovering ∨ w.phase = .readingSerial →
      w.attemptTimerRequestId = some id → w.attemptTimerId = some timerId →
      GivenUp w ⟨id, .timerFired timerId⟩

/-- A late answer of the attempt that is being disconnected. -/
inductive Late : BleEvent → Prop
  | connected (peripheralId : String) : Late (.connected peripheralId)
  | discovered (peripheralId : String) : Late (.servicesDiscovered peripheralId)
  | read (value : List UInt8) : Late (.readCompleted value)
  | failed (platformCode : Option Int) : Late (.failed platformCode)

/-- What settles a disconnection. -/
inductive Settles : BleEvent → Prop
  | disconnected (peripheralId : String) (reasonCode : Option Nat) :
      Settles (.disconnected peripheralId reasonCode)
  | failed (platformCode : Option Int) : Settles (.failed platformCode)

/-- `request` stays awaited or was answered. -/
def Cleared (request request' : Option RequestId) : Prop :=
  request' = request ∨ request' = none

/-- Every accepted event, with the call that it leads to. -/
inductive Transition (w : ConnectionWorkflow) (context : WorkflowContext) : HostEvent → Call → Prop
  | checkpointSaved {id : RequestId} :
      id ∈ w.checkpointRequestIds →
      Transition w context ⟨id, .checkpointSaved⟩
        (.begin { w with checkpointRequestIds := w.checkpointRequestIds.erase id } context)
  | recorded {id : RequestId} {candidate : DeviceCandidate} :
      w.phase = .scanning → w.scanRequestId = some id →
      Transition w context ⟨id, .ble (.scanResult candidate)⟩
        (.begin (recordCandidate candidate w) context)
  | selected {id : RequestId} {candidate : DeviceCandidate} :
      w.phase = .scanning → w.scanRequestId = some id →
      Transition w context ⟨id, .ble (.scanResult candidate)⟩
        (stopScan (.begin { recordCandidate candidate w with
          activeCandidate := some candidate, verifySerial := true } context))
  | scanTimedOut {id : RequestId} {timerId : Nat} :
      w.phase = .scanning → w.scanTimerRequestId = some id → w.scanTimerId = some timerId →
      Transition w context ⟨id, .timerFired timerId⟩ (stopScan (.begin w context))
  | lateScanResult {id : RequestId} {candidate : DeviceCandidate} :
      w.phase = .stoppingScan → w.scanRequestId = some id →
      Transition w context ⟨id, .ble (.scanResult candidate)⟩ (.begin w context)
  | lateScanTimer {id : RequestId} {timerId : Nat} :
      w.phase = .stoppingScan → w.scanTimerRequestId = some id → w.scanTimerId = some timerId →
      Transition w context ⟨id, .timerFired timerId⟩ (.begin w context)
  | scanStopped {id : RequestId} {candidate : DeviceCandidate} :
      w.phase = .stoppingScan → w.stopScanRequestId = some id → w.activeCandidate = some candidate →
      Transition w context ⟨id, .ble .scanStopped⟩
        (beginConnection candidate true (.begin { w with
          scanRequestId := none, scanTimerRequestId := none, scanTimerId := none
          stopScanRequestId := none } context))
  | scanEnded {id : RequestId} {call : Call} :
      w.phase = .stoppingScan → w.stopScanRequestId = some id → w.activeCandidate = none →
      Probes (.begin (prepareProbeCandidates { w with
        scanRequestId := none, scanTimerRequestId := none, scanTimerId := none
        stopScanRequestId := none }) context) call →
      Transition w context ⟨id, .ble .scanStopped⟩ call
  | connected {id : RequestId} {candidate : DeviceCandidate} :
      w.phase = .connecting → w.connectRequestId = some id → w.activeCandidate = some candidate →
      Transition w context ⟨id, .ble (.connected candidate.peripheralId)⟩
        (connected candidate.peripheralId (.begin w context))
  | discovered {id : RequestId} {candidate : DeviceCandidate} :
      w.phase = .discovering → w.discoverRequestId = some id → w.activeCandidate = some candidate →
      Transition w context ⟨id, .ble (.servicesDiscovered candidate.peripheralId)⟩
        ((Step.begin { w with discoverRequestId := none, phase := .readingSerial } context).request
          readSerialEffect fun id w => { w with readRequestId := some id })
  | verified {id : RequestId} {value : List UInt8} {device : DeviceSerialNumber}
      {candidate : DeviceCandidate} {call : Call} :
      w.phase = .readingSerial → w.readRequestId = some id → parseSerial value = .ok device →
      (∀ expected, w.device = some expected → expected = device) →
      w.activeCandidate = some candidate →
      Persists (.begin { w with readRequestId := none, device := some device } context) device
        candidate call →
      Transition w context ⟨id, .ble (.readCompleted value)⟩ call
  | dropped {event : HostEvent} {outcome : DisconnectOutcome} {candidate : DeviceCandidate}
      {discoverRequestId readRequestId : Option RequestId} {call : Call} :
      GivenUp w event → (outcome = .probeNext → w.mode = .reconnect) →
      w.activeCandidate = some candidate →
      Cleared w.discoverRequestId discoverRequestId → Cleared w.readRequestId readRequestId →
      Drops (.begin { w with
        discoverRequestId := discoverRequestId, readRequestId := readRequestId } context) outcome
        candidate call →
      Transition w context event call
  | late {id : RequestId} {event : BleEvent}
      {connectRequestId discoverRequestId readRequestId : Option RequestId} :
      w.phase = .disconnecting → Late event → Cleared w.connectRequestId connectRequestId →
      Cleared w.discoverRequestId discoverRequestId → Cleared w.readRequestId readRequestId →
      Transition w context ⟨id, .ble event⟩
        (.begin { w with
          connectRequestId := connectRequestId, discoverRequestId := discoverRequestId
          readRequestId := readRequestId } context)
  | probesNext {id : RequestId} {event : BleEvent} {probed : List DeviceCandidate}
      {candidateIndex retryCount : Nat} {call : Call} :
      w.phase = .disconnecting → Settles event → w.mode = .reconnect →
      (∀ candidate ∈ probed, candidate ∈ w.probeCandidates ∨ candidate ∈ w.discovered) →
      Probes (.begin { w with
        disconnectRequestId := none, disconnectOutcome := none, probeCandidates := probed
        candidateIndex := candidateIndex, retryCount := retryCount } context) call →
      Transition w context ⟨id, .ble event⟩ call
  | disconnectFails {id : RequestId} {event : BleEvent} {error : DeviceSdkError} :
      w.phase = .disconnecting → Settles event →
      Transition w context ⟨id, .ble event⟩
        (fail error (.begin { w with disconnectRequestId := none, disconnectOutcome := none }
          context))
  | saved {id : RequestId} {candidate : DeviceCandidate} {device : DeviceSerialNumber} :
      w.phase = .persisting → w.persistRequestId = some id → w.activeCandidate = some candidate →
      w.device = some device →
      Transition w context ⟨id, .connectionIdentitySaved⟩
        ((((Step.begin { w with persistRequestId := none, phase := .completed } context).request
          (.persistence .deleteCheckpoint)).request
          (.notify (.connectionEstablished device candidate w.mode))).request
          (.notify (.completed w.operation)))
  | connectRetried {id : RequestId} {platformCode : Option Int} {call : Call} :
      w.phase = .connecting → w.connectRequestId = some id → w.mode = .reconnect →
      Probes ((cancelAttemptTimer (.begin { w with connectRequestId := none } context)).update
        fun w => retried (prepareProbeCandidates w)) call →
      Transition w context ⟨id, .ble (.failed platformCode)⟩ call
  | connectFails {id : RequestId} {platformCode : Option Int} {error : DeviceSdkError} :
      w.phase = .connecting → w.connectRequestId = some id →
      Transition w context ⟨id, .ble (.failed platformCode)⟩
        (fail error (.begin { w with connectRequestId := none } context))

section Dispatch

variable {w : ConnectionWorkflow} {context : WorkflowContext}

theorem attemptOutcome_probeNext {error : DeviceSdkError}
    (h : w.attemptOutcome error = .probeNext) : w.mode = .reconnect := by
  rw [attemptOutcome] at h
  split at h
  · exact nomatch h
  · assumption

theorem isActive_eq {peripheralId : String} (h : w.isActive peripheralId = true) :
    ∃ candidate, w.activeCandidate = some candidate ∧ candidate.peripheralId = peripheralId := by
  rw [isActive, decide_eq_true_eq, Option.map_eq_some_iff] at h
  exact h

theorem prepareProbeCandidates_mem {candidate : DeviceCandidate}
    (h : candidate ∈ (prepareProbeCandidates w).probeCandidates) : candidate ∈ w.discovered :=
  List.mem_of_mem_filter ((List.mem_insertionSort _).mp h)

/-- What a call of `dispatchPhase` amounts to. -/
def Handled (w : ConnectionWorkflow) (context : WorkflowContext) (event : HostEvent)
    (outcome : Option (Outcome Call)) : Prop :=
  outcome = none ∨ ∃ call, outcome = some (.ok call) ∧ Transition w context event call

theorem Handled.of {event : HostEvent} {call : Call} (h : Transition w context event call) :
    Handled w context event (some (.ok call)) :=
  .inr ⟨call, rfl, h⟩

theorem Handled.none {event : HostEvent} : Handled w context event Option.none :=
  .inl rfl

theorem finishDisconnect_handled (hw : Formed w) (hphase : w.phase = .disconnecting)
    {id : RequestId} {event : BleEvent} (hevent : Settles event) :
    Handled w context ⟨id, .ble event⟩ (some (finishDisconnect
      ((Step.begin w context).update fun w => { w with disconnectRequestId := none }))) := by
  obtain ⟨outcome, houtcome⟩ := Option.ne_none_iff_exists'.mp (hw.outcome hphase)
  rw [finishDisconnect]
  cases outcome with
  | fail error =>
    simp only [Step.update_workflow, Step.begin_workflow, houtcome]
    exact .of (.disconnectFails hphase hevent)
  | probeNext =>
    have hmode := hw.probeNext houtcome
    have hdevice := hw.device hmode
    simp only [Step.update_workflow, Step.begin_workflow, houtcome, retried]
    by_cases hempty : w.probeCandidates.isEmpty = true
    · obtain ⟨call, hcall, hprobes⟩ := @beginNextProbe_probes
        (.begin (prepareProbeCandidates (retried { w with
          disconnectRequestId := none, disconnectOutcome := none })) context) hdevice
      refine .inr ⟨call, ?_, .probesNext hphase hevent hmode
        (fun candidate hmem => .inr (prepareProbeCandidates_mem hmem)) hprobes⟩
      rw [← hcall]
      show some (beginNextProbe (.begin (if w.probeCandidates.isEmpty = true then _ else _)
        context)) = _
      rw [if_pos hempty]
      rfl
    · obtain ⟨call, hcall, hprobes⟩ := @beginNextProbe_probes
        (.begin { retried { w with disconnectRequestId := none, disconnectOutcome := none } with
          candidateIndex := saturatingAdd w.candidateIndex 1 } context) hdevice
      refine .inr ⟨call, ?_, .probesNext hphase hevent hmode (fun candidate hmem => .inl hmem)
        hprobes⟩
      rw [← hcall]
      show some (beginNextProbe (.begin (if w.probeCandidates.isEmpty = true then _ else _)
        context)) = _
      rw [if_neg hempty]
      rfl

theorem dropped_handled {event : HostEvent} {w' : ConnectionWorkflow} {outcome : DisconnectOutcome}
    {discoverRequestId readRequestId : Option RequestId} (hgiven : GivenUp w event)
    (houtcome : outcome = .probeNext → w.mode = .reconnect) (hactive : w.activeCandidate ≠ none)
    (hdiscover : Cleared w.discoverRequestId discoverRequestId)
    (hread : Cleared w.readRequestId readRequestId)
    (hw' : w' = { w with
      discoverRequestId := discoverRequestId, readRequestId := readRequestId }) :
    Handled w context event (some (beginDisconnect outcome (.begin w' context))) := by
  subst hw'
  obtain ⟨candidate, hcandidate⟩ := Option.ne_none_iff_exists'.mp hactive
  obtain ⟨call, hcall, hdrops⟩ := @beginDisconnect_drops
    (.begin { w with discoverRequestId, readRequestId } context) candidate outcome hcandidate
  exact .inr ⟨call, congrArg some hcall,
    .dropped hgiven houtcome hcandidate hdiscover hread hdrops⟩

theorem serialRead_handled (hw : Formed w) {id : RequestId} {value : List UInt8}
    (hphase : w.phase = .readingSerial) (hid : w.readRequestId = some id) :
    Handled w context ⟨id, .ble (.readCompleted value)⟩
      (some (serialRead value (.begin w context))) := by
  have hactive := hw.active (.inr (.inr (.inl hphase)))
  obtain ⟨candidate, hcandidate⟩ := Option.ne_none_iff_exists'.mp hactive
  have hpersist (device : DeviceSerialNumber) (hparse : parseSerial value = .ok device)
      (hexpected : ∀ expected, w.device = some expected → expected = device) :
      Handled w context ⟨id, .ble (.readCompleted value)⟩ (some (beginPersist
        (.begin { w with readRequestId := none, device := some device } context))) := by
    obtain ⟨call, hcall, hpersists⟩ := @beginPersist_persists
      (.begin { w with readRequestId := none, device := some device } context) device candidate rfl
      hcandidate
    exact .inr ⟨call, congrArg some hcall,
      .verified hphase hid hparse hexpected hcandidate hpersists⟩
  have hdrop (error : DeviceSdkError) := @dropped_handled w context
    ⟨id, .ble (.readCompleted value)⟩ { w with readRequestId := none } (w.attemptOutcome error)
    w.discoverRequestId none (.mismatch value hphase hid) attemptOutcome_probeNext hactive
    (.inl rfl) (.inr rfl) rfl
  rw [serialRead]
  cases hparse : parseSerial value with
  | error error => exact hdrop error
  | ok device =>
    cases hdevice : w.device with
    | none =>
      simp only [Step.update_workflow, Step.begin_workflow, hdevice]
      exact hpersist device hparse (fun expected h => by rw [hdevice] at h; exact nomatch h)
    | some expected =>
      simp only [Step.update_workflow, Step.begin_workflow, hdevice]
      by_cases heq : expected = device
      · rw [if_pos heq]
        refine hpersist device hparse (fun other h => ?_)
        rw [hdevice] at h
        exact (Option.some.inj h).symm.trans heq
      · rw [if_neg heq]
        exact hdrop _

theorem scanStopped_handled (hw : Formed w) {id : RequestId} (hphase : w.phase = .stoppingScan)
    (hid : w.stopScanRequestId = some id) :
    Handled w context ⟨id, .ble .scanStopped⟩ (some (scanStopped (.begin w context))) := by
  rw [scanStopped]
  cases hactive : w.activeCandidate with
  | some candidate =>
    simp only [Step.update_workflow, Step.begin_workflow, hactive]
    exact .of (.scanStopped hphase hid hactive)
  | none =>
    simp only [Step.update_workflow, Step.begin_workflow, hactive]
    obtain ⟨call, hcall, hprobes⟩ := @beginNextProbe_probes
      (.begin (prepareProbeCandidates { w with
        scanRequestId := none, scanTimerRequestId := none, scanTimerId := none
        stopScanRequestId := none }) context) (hw.device (hw.scanning (.inr hphase)))
    exact .inr ⟨call, congrArg some hcall, .scanEnded hphase hid hactive hprobes⟩

theorem failed_handled (hw : Formed w) (id : RequestId) (platformCode : Option Int) :
    Handled w context ⟨id, .ble (.failed platformCode)⟩
      (dispatchPhase w id (.ble (.failed platformCode)) (.begin w context)) := by
  rw [dispatchPhase]
  split
  · rename_i h
    have hcleared (request : Option RequestId) :
        Cleared request (if some id = request then none else request) := by
      by_cases heq : some id = request
      · exact .inr (if_pos heq)
      · exact .inl (if_neg heq)
    exact .of (.late h.1 (.failed platformCode) (hcleared _) (hcleared _) (hcleared _))
  · rename_i hlate
    split
    · rename_i hid
      have hphase : w.phase = .connecting := by
        rcases hw.connectRequest (by rw [← hid]; exact Option.some_ne_none id) with h | h
        · exact h
        · exact absurd ⟨h, .inl hid⟩ hlate
      rw [connectFailed]
      cases hmode : w.mode with
      | manual =>
        simp only [Step.update_workflow, Step.begin_workflow, hmode]
        exact .of (.connectFails hphase hid.symm)
      | reconnect =>
        simp only [Step.update_workflow, Step.begin_workflow, hmode]
        obtain ⟨call, hcall, hprobes⟩ := @beginNextProbe_probes
          ((cancelAttemptTimer (.begin { w with connectRequestId := none } context)).update
            fun w => retried (prepareProbeCandidates w))
            (by simpa [retried, prepareProbeCandidates] using hw.device hmode)
        exact .inr ⟨call, congrArg some hcall, .connectRetried hphase hid.symm hmode hprobes⟩
    · split
      · rename_i hid
        have hphase : w.phase = .discovering ∨ w.phase = .readingSerial := by
          rcases hid with hid | hid
          · rcases hw.discoverRequest (by rw [← hid]; exact Option.some_ne_none id) with h | h
            · exact .inl h
            · exact absurd ⟨h, .inr (.inl hid)⟩ hlate
          · rcases hw.readRequest (by rw [← hid]; exact Option.some_ne_none id) with h | h
            · exact .inr h
            · exact absurd ⟨h, .inr (.inr hid)⟩ hlate
        have hactive := hw.active (by tauto)
        exact dropped_handled (.failure platformCode hphase) attemptOutcome_probeNext hactive
          (.inr rfl) (.inr rfl) rfl
      · split
        · rename_i hid
          exact finishDisconnect_handled hw
            (hw.disconnectRequest (by rw [← hid]; exact Option.some_ne_none id))
            (.failed platformCode)
        · exact .none

theorem dispatchPhase_handled (hw : Formed w) (id : RequestId) (kind : HostEventKind) :
    Handled w context ⟨id, kind⟩ (dispatchPhase w id kind (.begin w context)) := by
  cases kind with
  | timerFired timerId =>
    rw [dispatchPhase]
    split
    · rename_i h
      exact .of (.scanTimedOut h.1 h.2.1.symm h.2.2.symm)
    · split
      · rename_i h
        exact .of (.lateScanTimer h.1 h.2.1.symm h.2.2.symm)
      · split
        · rename_i h
          have hphase := hw.attemptTimer (by rw [← h.2]; exact Option.some_ne_none timerId)
          exact dropped_handled (.timeout hphase h.1.symm h.2.symm) attemptOutcome_probeNext
            (hw.active (by tauto)) (.inl rfl) (.inl rfl) rfl
        · exact .none
  | connectionIdentitySaved =>
    rw [dispatchPhase]
    split
    · rename_i h
      obtain ⟨candidate, hcandidate⟩ :=
        Option.ne_none_iff_exists'.mp (hw.active (.inr (.inr (.inr (.inr h.1)))))
      obtain ⟨device, hdevice⟩ := Option.ne_none_iff_exists'.mp (hw.identified h.1)
      simp only [identitySaved, Step.update_workflow, Step.begin_workflow, hcandidate, hdevice]
      exact .of (.saved h.1 h.2.symm hcandidate hdevice)
    · exact .none
  | ble event =>
    cases event with
    | scanResult candidate =>
      rw [dispatchPhase]
      split
      · rename_i h
        split
        · exact .of (.selected h.1 h.2.symm)
        · exact .of (.recorded h.1 h.2.symm)
      · split
        · rename_i h
          exact .of (.lateScanResult h.1 h.2.symm)
        · exact .none
    | scanStopped =>
      rw [dispatchPhase]
      split
      · rename_i h
        exact scanStopped_handled hw h.1 h.2.symm
      · exact .none
    | connected peripheralId =>
      rw [dispatchPhase]
      split
      · rename_i h
        obtain ⟨candidate, hactive, rfl⟩ := isActive_eq h.2.2
        exact .of (.connected h.1 h.2.1.symm hactive)
      · split
        · rename_i h
          exact .of (.late h.1 (.connected peripheralId) (.inr rfl) (.inl rfl) (.inl rfl))
        · exact .none
    | servicesDiscovered peripheralId =>
      rw [dispatchPhase]
      split
      · rename_i h
        obtain ⟨candidate, hactive, rfl⟩ := isActive_eq h.2.2
        have hverify := hw.verify (.inr h.1)
        simp only [servicesDiscovered, Step.update_workflow, Step.begin_workflow, hverify, if_true]
        exact .of (.discovered h.1 h.2.1.symm hactive)
      · split
        · rename_i h
          exact .of (.late h.1 (.discovered peripheralId) (.inl rfl) (.inr rfl) (.inl rfl))
        · exact .none
    | readCompleted value =>
      rw [dispatchPhase]
      split
      · rename_i h
        exact serialRead_handled hw h.1 h.2.symm
      · split
        · rename_i h
          exact .of (.late h.1 (.read value) (.inl rfl) (.inl rfl) (.inr rfl))
        · exact .none
    | disconnected peripheralId reasonCode =>
      rw [dispatchPhase]
      split
      · rename_i h
        exact finishDisconnect_handled hw h.1 (.disconnected peripheralId reasonCode)
      · exact .none
    | failed platformCode => exact failed_handled hw id platformCode
    | _ => exact .none
  | _ => exact .none

/-- A formed connection takes an event by one of its transitions or rejects it unchanged. -/
theorem dispatch_cases (hw : Formed w) (event : HostEvent) (context : WorkflowContext) :
    (∃ call, dispatch w event context = .ok call ∧ Transition w context event call) ∨
      dispatch w event context = .err w context w.unexpected := by
  rw [dispatch]
  split
  · rename_i h
    obtain ⟨id, kind⟩ := event
    obtain ⟨rfl, hid⟩ := h
    exact .inl ⟨_, rfl, .checkpointSaved hid⟩
  · rcases @dispatchPhase_handled w context hw event.requestId event.kind with
      hnone | ⟨call, hcall, htransition⟩
    · rw [hnone]
      exact .inr rfl
    · rw [hcall]
      exact .inl ⟨call, rfl, htransition⟩

end Dispatch

/-! ## Formed states are kept -/

section Keep

variable {w : ConnectionWorkflow} {context : WorkflowContext} {call call' : Call}
  {candidate : DeviceCandidate} {device : DeviceSerialNumber} {outcome : DisconnectOutcome}

theorem Formed.terminalStatus (hw : Formed w) : w.terminalStatus = .ok none := by
  obtain ⟨hcompleted, hfailed⟩ := hw.running
  rw [ConnectionWorkflow.terminalStatus]
  cases hphase : w.phase <;> first | rfl | exact absurd hphase hcompleted | exact absurd hphase hfailed

/-- The workflow has ended. -/
def Ended (w : ConnectionWorkflow) : Prop :=
  ∃ status, w.terminalStatus = .ok (some status)

theorem ended_fail (error : DeviceSdkError) : Ended (fail error call).workflow :=
  ⟨.failed error, by rw [fail_workflow]; rfl⟩

theorem formed_beginConnection
    (hdevice : call.workflow.mode = .reconnect → call.workflow.device ≠ none)
    (hprobeNext : call.workflow.disconnectOutcome = some .probeNext →
      call.workflow.mode = .reconnect) :
    Formed (beginConnection candidate true call).workflow := by
  obtain ⟨ids, heq⟩ := beginConnection_workflow call candidate true
  rw [heq]
  constructor <;> simp_all

theorem Probes.keeps (h : Probes call call')
    (hdevice : call.workflow.mode = .reconnect → call.workflow.device ≠ none)
    (hprobeNext : call.workflow.disconnectOutcome = some .probeNext →
      call.workflow.mode = .reconnect) :
    Formed call'.workflow ∨ Ended call'.workflow := by
  cases h with
  | connection => exact .inl (formed_beginConnection hdevice hprobeNext)
  | exhausted error => exact .inr (ended_fail error)

theorem formed_stopScan (hmode : call.workflow.mode = .reconnect)
    (hdevice : call.workflow.device ≠ none) (htimer : call.workflow.attemptTimerId = none)
    (hrequest : call.workflow.attemptTimerRequestId = none) :
    Formed (stopScan call).workflow := by
  obtain ⟨ids, heq⟩ := stopScan_workflow call
  rw [heq]
  constructor <;> simp_all

theorem formed_persists (h : Persists call device candidate call')
    (hdevice : call.workflow.device = some device)
    (hactive : call.workflow.activeCandidate = some candidate)
    (hprobeNext : call.workflow.disconnectOutcome = some .probeNext →
      call.workflow.mode = .reconnect)
    (hconnect : call.workflow.connectRequestId = none)
    (hdiscover : call.workflow.discoverRequestId = none)
    (hread : call.workflow.readRequestId = none)
    (hdisconnect : call.workflow.disconnectRequestId = none) : Formed call'.workflow := by
  obtain ⟨ids, heq⟩ := h.workflow
  rw [heq]
  constructor <;> simp_all

theorem formed_drops (h : Drops call outcome candidate call')
    (hdevice : call.workflow.mode = .reconnect → call.workflow.device ≠ none)
    (hactive : call.workflow.activeCandidate = some candidate)
    (houtcome : outcome = .probeNext → call.workflow.mode = .reconnect) :
    Formed call'.workflow := by
  obtain ⟨ids, heq⟩ := h.workflow
  rw [heq]
  constructor <;> simp_all

/-- A phase without an open attempt awaits nothing of one. -/
theorem Formed.no_attempt (hw : Formed w) (h : w.phase ≠ .connecting ∧ w.phase ≠ .discovering ∧
    w.phase ≠ .readingSerial) : w.attemptTimerId = none ∧ w.attemptTimerRequestId = none := by
  have htimer : w.attemptTimerId = none := by
    by_contra hne
    have := hw.attemptTimer hne
    tauto
  refine ⟨htimer, ?_⟩
  by_contra hne
  exact hw.attemptTimerRequest hne htimer

theorem Formed.no_connect (hw : Formed w) (h : w.phase ≠ .connecting ∧ w.phase ≠ .disconnecting) :
    w.connectRequestId = none := by
  by_contra hne
  have := hw.connectRequest hne
  tauto

theorem Formed.no_discover (hw : Formed w)
    (h : w.phase ≠ .discovering ∧ w.phase ≠ .disconnecting) : w.discoverRequestId = none := by
  by_contra hne
  have := hw.discoverRequest hne
  tauto

theorem Formed.no_read (hw : Formed w)
    (h : w.phase ≠ .readingSerial ∧ w.phase ≠ .disconnecting) : w.readRequestId = none := by
  by_contra hne
  have := hw.readRequest hne
  tauto

theorem Formed.no_disconnect (hw : Formed w) (h : w.phase ≠ .disconnecting) :
    w.disconnectRequestId = none := by
  by_contra hne
  exact h (hw.disconnectRequest hne)

theorem Cleared.of_none {request request' : Option RequestId} (h : Cleared request request')
    (hnone : request = none) : request' = none := by
  rcases h with rfl | rfl
  · exact hnone
  · rfl

theorem Cleared.ne_none {request request' : Option RequestId} (h : Cleared request request')
    (hne : request' ≠ none) : request ≠ none :=
  fun hnone => hne (h.of_none hnone)

theorem GivenUp.open_attempt {event : HostEvent} (h : GivenUp w event) :
    w.phase = .connecting ∨ w.phase = .discovering ∨ w.phase = .readingSerial := by
  cases h with
  | mismatch value hphase _ => exact .inr (.inr hphase)
  | failure platformCode hphase => exact .inr hphase
  | timeout hphase _ _ => exact hphase

theorem Transition.keeps {event : HostEvent} (hw : Formed w) (h : Transition w context event call) :
    Formed call.workflow ∨ Ended call.workflow := by
  cases h with
  | checkpointSaved => exact .inl { hw with }
  | recorded hphase hid =>
    left
    rw [Step.begin_workflow, recordCandidate]
    split
    · exact { hw with }
    · exact { hw with }
  | selected hphase hid =>
    have hmode := hw.scanning (.inl hphase)
    obtain ⟨htimer, hrequest⟩ := hw.no_attempt (by rw [hphase]; decide)
    left
    apply formed_stopScan <;> rw [Step.begin_workflow, recordCandidate] <;> split
    all_goals first | exact hmode | exact hw.device hmode | exact htimer | exact hrequest
  | scanTimedOut hphase _ _ =>
    have hmode := hw.scanning (.inl hphase)
    obtain ⟨htimer, hrequest⟩ := hw.no_attempt (by rw [hphase]; decide)
    exact .inl (formed_stopScan hmode (hw.device hmode) htimer hrequest)
  | lateScanResult | lateScanTimer => exact .inl hw
  | scanStopped => exact .inl (formed_beginConnection hw.device hw.probeNext)
  | scanEnded _ _ _ hprobes => exact hprobes.keeps hw.device hw.probeNext
  | connected hphase hid hactive =>
    left
    have hread := hw.no_read (by rw [hphase]; decide)
    have hdisconnect := hw.no_disconnect (by rw [hphase]; decide)
    have hverify := hw.verify (.inl hphase)
    rw [ConnectionWorkflow.connected, pushCheckpoint_workflow]
    constructor <;> simp_all [hw.device, hw.probeNext, hw.attemptTimerRequest]
  | discovered hphase hid hactive =>
    left
    have hconnect := hw.no_connect (by rw [hphase]; decide)
    have hdisconnect := hw.no_disconnect (by rw [hphase]; decide)
    constructor <;> simp_all [hw.device, hw.probeNext, hw.attemptTimerRequest]
  | verified hphase hid hparse hexpected hactive hpersists =>
    left
    have hconnect := hw.no_connect (by rw [hphase]; decide)
    have hdiscover := hw.no_discover (by rw [hphase]; decide)
    have hdisconnect := hw.no_disconnect (by rw [hphase]; decide)
    exact formed_persists hpersists rfl hactive hw.probeNext hconnect hdiscover rfl hdisconnect
  | dropped hgiven houtcome hactive hdiscover hread hdrops =>
    exact .inl (formed_drops hdrops hw.device hactive houtcome)
  | late hphase hlate hconnect hdiscover hread =>
    exact .inl { hw with
      connectRequest := fun h => hw.connectRequest (hconnect.ne_none h)
      discoverRequest := fun h => hw.discoverRequest (hdiscover.ne_none h)
      readRequest := fun h => hw.readRequest (hread.ne_none h) }
  | probesNext hphase hevent hmode hprobed hprobes => exact hprobes.keeps hw.device nofun
  | disconnectFails | connectFails => exact .inr (ended_fail _)
  | saved => exact .inr ⟨_, rfl⟩
  | connectRetried hphase hid hmode hprobes =>
    refine hprobes.keeps ?_ ?_
    · simpa [retried, prepareProbeCandidates] using hw.device
    · simpa [retried, prepareProbeCandidates] using hw.probeNext

theorem formed_reconnect (device : DeviceSerialNumber) (hint : ReconnectHint)
    (id : CancellationId) {effects : List EffectRequest} :
    Formed (beginScan ⟨reconnect device hint id, context, effects⟩).workflow := by
  obtain ⟨ids, heq⟩ := beginScan_workflow ⟨reconnect device hint id, context, effects⟩
  rw [heq]
  constructor <;> simp [reconnect, base]

end Keep

end ConnectionWorkflow

end BotaSdk
