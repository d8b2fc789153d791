import BotaSdk.Workflow.ConnectionSteps

/-!
# The timers of a connection

A connection runs one timer at a time: that of its scan, or that of its current attempt.
-/

namespace BotaSdk

open Connection History Protocol

namespace ConnectionWorkflow

/-- The attempt is under way. -/
def Attempting (w : ConnectionWorkflow) : Prop :=
  w.phase = .connecting ∨ w.phase = .discovering ∨ w.phase = .readingSerial

instance (w : ConnectionWorkflow) : Decidable w.Attempting := by
  unfold Attempting
  infer_instance

/-- A timer with its request, if it is tracked. -/
def tracked : Option RequestId → Option Nat → List (RequestId × Nat)
  | some id, some timerId => [(id, timerId)]
  | _, _ => []

/-- The timers that the phase relies on. -/
def live (w : ConnectionWorkflow) : List (RequestId × Nat) :=
  if w.phase = .scanning then tracked w.scanTimerRequestId w.scanTimerId
  else if w.Attempting then tracked w.attemptTimerRequestId w.attemptTimerId
  else []

/-- The timers and the identifiers of a scan or an attempt are known. -/
structure Timed (w : ConnectionWorkflow) : Prop where
  scan : w.phase = .scanning → w.scanTimerRequestId ≠ none ∧ w.scanTimerId ≠ none
  attempt : w.Attempting → w.attemptTimerRequestId ≠ none ∧ w.attemptTimerId ≠ none

section Timers

variable {w : ConnectionWorkflow} {context : WorkflowContext} {call call' : Call}
  {candidate : DeviceCandidate} {device : DeviceSerialNumber} {outcome : DisconnectOutcome}
  {event : HostEvent} {id n : RequestId} {timerId : Nat}

theorem live_scanning (h : w.phase = .scanning) :
    live w = tracked w.scanTimerRequestId w.scanTimerId := by
  rw [live, if_pos h]

theorem live_attempting (h : w.Attempting) :
    live w = tracked w.attemptTimerRequestId w.attemptTimerId := by
  have hscan : w.phase ≠ .scanning := by
    rcases h with h | h | h <;> rw [h] <;> decide
  rw [live, if_neg hscan, if_pos h]

theorem live_idle (hscan : w.phase ≠ .scanning) (hattempt : ¬w.Attempting) : live w = [] := by
  rw [live, if_neg hscan, if_neg hattempt]

theorem mem_tracked {request : Option RequestId} {timer : Option Nat} {entry : RequestId × Nat} :
    entry ∈ tracked request timer ↔ request = some entry.1 ∧ timer = some entry.2 := by
  cases request <;> cases timer <;>
    simp [tracked, Prod.ext_iff, eq_comm]

theorem timed_idle (hscan : w.phase ≠ .scanning) (hattempt : ¬w.Attempting) : Timed w :=
  ⟨fun h => absurd h hscan, fun h => absurd h hattempt⟩

@[simp] theorem runTimers_attemptCancel_nil : runTimers [] (attemptCancel n w) = [] := by
  rw [attemptCancel]
  cases w.attemptTimerId <;> rfl

/-- Cancelling the attempt's timer leaves none. -/
theorem runTimers_attemptCancel (request : Option RequestId) :
    runTimers (tracked request w.attemptTimerId) (attemptCancel n w) = [] := by
  rw [attemptCancel]
  cases w.attemptTimerId <;> cases request <;> simp [tracked]

theorem runTimers_scanCancel (request : Option RequestId) :
    runTimers (tracked request w.scanTimerId) (scanCancel n w) = [] := by
  rw [scanCancel]
  cases w.scanTimerId <;> cases request <;> simp [tracked]

/-- A timer that fires leaves the rest. -/
theorem tick_live (h : live w = tracked (some id) (some timerId)) :
    tick (live w) (.accepted ⟨id, .timerFired timerId⟩) = [] := by
  rw [h]
  simp [tick, tracked]

/-! ## Steps -/

/-- The timers that `pending` has after the requests of `call` are those that its phase relies on. -/
structure Keeps (pending : List (RequestId × Nat)) (call : Call) : Prop where
  timed : Timed call.workflow
  live : runTimers pending (timers call.effects) = live call.workflow

variable {pending : List (RequestId × Nat)}

theorem Keeps.idle (hscan : call.workflow.phase ≠ .scanning) (hattempt : ¬call.workflow.Attempting)
    (hnone : runTimers pending (timers call.effects) = []) : Keeps pending call :=
  ⟨timed_idle hscan hattempt, hnone.trans (live_idle hscan hattempt).symm⟩

theorem keeps_beginConnection (hcall : runTimers pending (timers call.effects) = []) :
    Keeps pending (beginConnection candidate true call) := by
  obtain ⟨ids, heq⟩ := beginConnection_workflow call candidate true
  obtain ⟨delayMs, htimers⟩ := beginConnection_timers call candidate true
  constructor
  · rw [heq]
    exact ⟨nofun, fun _ => ⟨nofun, nofun⟩⟩
  · rw [htimers, runTimers_append, hcall, heq]
    rfl

theorem keeps_beginScan (hcall : timers call.effects = []) : Keeps [] (beginScan call) := by
  obtain ⟨ids, heq⟩ := beginScan_workflow call
  obtain ⟨delayMs, htimers⟩ := beginScan_timers call
  constructor
  · rw [heq]
    exact ⟨fun _ => ⟨nofun, nofun⟩, nofun⟩
  · rw [htimers, hcall, heq]
    rfl

theorem keeps_fail (error : DeviceSdkError)
    (hcall : runTimers (runTimers pending (timers call.effects))
      (attemptCancel call.context.nextRequestId call.workflow) = []) :
    Keeps pending (fail error call) := by
  refine .idle ?_ ?_ ?_
  · rw [fail_workflow]
    exact nofun
  · rw [fail_workflow, Attempting]
    exact nofun
  · rw [fail_timers, runTimers_append, hcall]

theorem keeps_stopScan (hcall : runTimers (runTimers pending (timers call.effects))
    (scanCancel call.context.advance.nextRequestId call.workflow) = []) :
    Keeps pending (stopScan call) := by
  obtain ⟨ids, heq⟩ := stopScan_workflow call
  refine .idle ?_ ?_ ?_
  · rw [heq]
    exact nofun
  · rw [heq, Attempting]
    exact nofun
  · rw [stopScan_timers, runTimers_append, hcall]

theorem Probes.keeps_timers (h : Probes call call')
    (hcall : runTimers pending (timers call.effects) = []) : Keeps pending call' := by
  cases h with
  | connection => exact keeps_beginConnection hcall
  | exhausted error => exact keeps_fail error (by rw [hcall, runTimers_attemptCancel_nil])

theorem recordCandidate_live (candidate : DeviceCandidate) :
    live (recordCandidate candidate w) = live w := by
  rw [recordCandidate]
  split <;> rfl

theorem recordCandidate_timed (h : Timed w) (candidate : DeviceCandidate) :
    Timed (recordCandidate candidate w) := by
  rw [recordCandidate]
  split
  · exact { h with }
  · exact { h with }

theorem not_attempting (h : w.phase ≠ .connecting ∧ w.phase ≠ .discovering ∧
    w.phase ≠ .readingSerial) : ¬w.Attempting := by
  rw [Attempting]
  tauto

/-- A step keeps the timers of the connection in step with those of the host. -/
theorem Transition.keeps_timers (h : Transition w context event call) (htimed : Timed w) :
    Keeps (tick (live w) (.accepted event)) call := by
  -- one timer is live at a time, of the scan or of the attempt: a step keeps it or cancels it
  cases h with
  | checkpointSaved => exact ⟨{ htimed with }, rfl⟩
  | recorded hphase hid =>
    exact ⟨recordCandidate_timed htimed _, (recordCandidate_live _).symm⟩
  | @selected id candidate hphase hid =>
    refine keeps_stopScan ?_
    have hscan : (recordCandidate candidate w).scanTimerId = w.scanTimerId := by
      rw [recordCandidate]
      split <;> rfl
    rw [tick_ble, live_scanning hphase, ← hscan]
    exact runTimers_scanCancel _
  | scanTimedOut hphase hid htimer =>
    refine keeps_stopScan ?_
    rw [tick_live (by rw [live_scanning hphase, hid, htimer])]
    show runTimers [] (scanCancel _ w) = []
    rw [scanCancel]
    cases w.scanTimerId <;> rfl
  | lateScanResult hphase hid =>
    have hlive : live w = [] :=
      live_idle (by rw [hphase]; decide) (not_attempting (by rw [hphase]; decide))
    exact ⟨htimed, by rw [tick_ble]; rfl⟩
  | lateScanTimer hphase hid htimer =>
    have hlive : live w = [] :=
      live_idle (by rw [hphase]; decide) (not_attempting (by rw [hphase]; decide))
    exact ⟨htimed, by rw [Step.begin_workflow, hlive]; rfl⟩
  | scanStopped hphase =>
    refine keeps_beginConnection ?_
    rw [live_idle (by rw [hphase]; decide) (not_attempting (by rw [hphase]; decide))]
    rfl
  | scanEnded hphase _ _ hprobes =>
    refine hprobes.keeps_timers ?_
    rw [live_idle (by rw [hphase]; decide) (not_attempting (by rw [hphase]; decide))]
    rfl
  | @connected id candidate hphase hid hactive =>
    have hattempt : w.Attempting := .inl hphase
    rw [tick_ble, live_attempting hattempt]
    constructor
    · rw [ConnectionWorkflow.connected, pushCheckpoint_workflow]
      exact ⟨(by rintro ⟨⟩), fun _ => htimed.attempt hattempt⟩
    · rw [ConnectionWorkflow.connected, pushCheckpoint_timers, pushCheckpoint_workflow, timers_request]
      rfl
  | discovered hphase =>
    have hattempt : w.Attempting := .inr (.inl hphase)
    rw [tick_ble, live_attempting hattempt]
    constructor
    · exact ⟨(by rintro ⟨⟩), fun _ => htimed.attempt hattempt⟩
    · rw [timers_request]
      rfl
  | verified hphase _ _ _ _ hpersists =>
    obtain ⟨ids, heq⟩ := hpersists.workflow
    refine .idle (by rw [heq]; rintro ⟨⟩) (by rw [heq, Attempting]; rintro (h | h | h) <;> cases h) ?_
    rw [hpersists.timers, tick_ble, live_attempting (.inr (.inr hphase))]
    exact runTimers_attemptCancel _
  | @dropped event outcome candidate _ _ _ hgiven _ _ _ _ hdrops =>
    obtain ⟨ids, heq⟩ := hdrops.workflow
    refine .idle (by rw [heq]; rintro ⟨⟩) (by rw [heq, Attempting]; rintro (h | h | h) <;> cases h) ?_
    rw [hdrops.timers]
    cases hgiven with
    | mismatch value hphase =>
      rw [tick_ble, live_attempting (.inr (.inr hphase))]
      exact runTimers_attemptCancel _
    | failure platformCode hphase =>
      rw [tick_ble, live_attempting (.inr hphase)]
      exact runTimers_attemptCancel _
    | timeout hphase hid htimer =>
      rw [tick_live (by rw [live_attempting hphase, hid, htimer])]
      exact runTimers_attemptCancel_nil
  | late hphase hlate =>
    have hscan : w.phase ≠ .scanning := by rw [hphase]; decide
    have hattempt := not_attempting (w := w) (by rw [hphase]; decide)
    refine .idle hscan hattempt ?_
    rw [live_idle hscan hattempt, tick_ble]
    rfl
  | probesNext hphase hevent _ _ hprobes =>
    refine hprobes.keeps_timers ?_
    rw [live_idle (by rw [hphase]; decide) (not_attempting (by rw [hphase]; decide)),
      tick_ble]
    rfl
  | disconnectFails hphase hevent =>
    refine keeps_fail _ ?_
    rw [live_idle (by rw [hphase]; decide) (not_attempting (by rw [hphase]; decide)),
      tick_ble]
    exact runTimers_attemptCancel_nil
  | saved hphase =>
    refine .idle (by rintro ⟨⟩) (by rintro (h | h | h) <;> cases h) ?_
    rw [live_idle (by rw [hphase]; decide) (not_attempting (by rw [hphase]; decide))]
    rfl
  | connectRetried hphase hid hmode hprobes =>
    refine hprobes.keeps_timers ?_
    rw [tick_ble, live_attempting (.inl hphase), Step.update_effects,
      cancelAttemptTimer_timers]
    exact runTimers_attemptCancel _
  | connectFails hphase =>
    refine keeps_fail _ ?_
    rw [tick_ble, live_attempting (.inl hphase)]
    exact runTimers_attemptCancel _

/-- A timer that is relied on is taken when it fires. -/
theorem live_accepted (hw : Formed w) (h : (id, timerId) ∈ live w) :
    ∃ call, dispatch w ⟨id, .timerFired timerId⟩ context = .ok call ∧
      Transition w context ⟨id, .timerFired timerId⟩ call := by
  rcases dispatch_cases hw ⟨id, .timerFired timerId⟩ context with haccepted | hreject
  · exact haccepted
  · exfalso
    rw [dispatch, if_neg (fun hsaved => by cases hsaved.1)] at hreject
    simp only [dispatchPhase] at hreject
    by_cases hscan : w.phase = .scanning
    · rw [live_scanning hscan, mem_tracked] at h
      rw [if_pos ⟨hscan, h.1.symm, h.2.symm⟩] at hreject
      cases congrArg Reduction.outcome hreject
    · by_cases hattempt : w.Attempting
      · rw [live_attempting hattempt, mem_tracked] at h
        have hstop : w.phase ≠ .stoppingScan := by
          rcases hattempt with hphase | hphase | hphase <;> rw [hphase] <;> decide
        obtain ⟨candidate, hactive⟩ := Option.ne_none_iff_exists'.mp
          (hw.active (hattempt.imp_right fun h => h.imp_right Or.inl))
        rw [if_neg (fun h => hscan h.1), if_neg (fun h => hstop h.1),
          if_pos ⟨h.1.symm, h.2.symm⟩, attemptTimedOut] at hreject
        obtain ⟨call, hcall, -⟩ := @beginDisconnect_drops (.begin w context) candidate
          (w.attemptOutcome ((DeviceSdkError.new .timeout .connect true).withDetail
            "connection verification timed out")) hactive
        rw [Step.begin_workflow, hcall] at hreject
        cases congrArg Reduction.outcome hreject
      · rw [live_idle hscan hattempt] at h
        exact absurd h List.not_mem_nil

end Timers

end ConnectionWorkflow

end BotaSdk
