import BotaSdk.Workflow.ConnectionIdentity
import BotaSdk.Workflow.ConnectionTimers
import BotaSdk.Workflow.Discovery

/-!
# Dead ends of discovery and connection

A request may fail once the timer of its phase has been cancelled.  Where no event arm takes that
failure, the workflow is left in a phase that only a cancellation ends.
-/

namespace BotaSdk

open Connection History Protocol

namespace ConnectionWorkflow

/-- The requests under which an answer is taken. -/
inductive Awaits (w : ConnectionWorkflow) : RequestId → RequestClass → Prop
  | scan {id : RequestId} : w.phase = .scanning ∨ w.phase = .stoppingScan →
      w.scanRequestId = some id → Awaits w id .ble
  | stopScan {id : RequestId} : w.phase = .stoppingScan → w.stopScanRequestId = some id →
      Awaits w id .ble
  | connect {id : RequestId} : w.phase = .connecting ∨ w.phase = .disconnecting →
      w.connectRequestId = some id → Awaits w id .ble
  | discover {id : RequestId} : w.phase = .discovering ∨ w.phase = .disconnecting →
      w.discoverRequestId = some id → Awaits w id .ble
  | read {id : RequestId} : w.phase = .readingSerial ∨ w.phase = .disconnecting →
      w.readRequestId = some id → Awaits w id .ble
  | disconnect {id : RequestId} : w.phase = .disconnecting → w.disconnectRequestId = some id →
      Awaits w id .ble
  | persist {id : RequestId} : w.phase = .persisting → w.persistRequestId = some id →
      Awaits w id .persistence
  | checkpoint {id : RequestId} : id ∈ w.checkpointRequestIds → Awaits w id .persistence

/-- A timer runs, or the failure of a BLE request ends the disconnection. -/
def Recoverable (w : ConnectionWorkflow) (request : RequestClass) : Prop :=
  w.phase = .scanning ∨ w.Attempting ∨ w.phase = .disconnecting ∧ request = .ble

section DeadEnds

variable {w : ConnectionWorkflow} {context : WorkflowContext} {call : Call} {id : RequestId}
  {request : RequestClass} {observations : List Observation} {started : List EffectRequest}
  {command : ConnectionCommand} {trace : List (EngineEntry ConnectionWorkflow)}
  {engine₀ engine : WorkflowEngine ConnectionWorkflow} {event : HostEvent}

/-- What keeps the timers of the host in step with those of the connection. -/
structure Clocked (observations : List Observation) (w : ConnectionWorkflow) : Prop where
  formed : Formed w
  timed : Timed w
  pending : pendingTimers observations = live w

theorem Transition.clocked (h : Transition w context event call) (hw : Clocked observations w)
    (hformed : Formed call.workflow) :
    Clocked (observations ++ .accepted event :: issuedBy call.effects) call.workflow := by
  have hkeeps := h.keeps_timers hw.timed
  refine ⟨hformed, hkeeps.timed, ?_⟩
  rw [pendingTimers_accepted, hw.pending, hkeeps.live]

theorem Clocked.rejected (hw : Clocked observations w)
    (hreject : dispatch w event context = .err w context w.unexpected) :
    Clocked (observations ++ [.rejected event]) w := by
  refine ⟨hw.formed, hw.timed, ?_⟩
  rw [pendingTimers_snoc, hw.pending]
  refine tick_rejected fun timerId hkind hmem => ?_
  obtain ⟨n, kind⟩ := event
  obtain rfl : kind = .timerFired timerId := hkind
  obtain ⟨call, hcall, -⟩ := @live_accepted _ context _ _ hw.formed hmem
  rw [hcall] at hreject
  exact nomatch congrArg Reduction.outcome hreject

theorem Started.keeps_timers (h : Started command started engine₀) :
    ∃ call : Call, engine₀.active = some call.workflow ∧ started = call.effects ∧ Keeps [] call := by
  obtain ⟨engine, capabilities, id, hstart⟩ := h
  obtain ⟨w, hcreate, reduction, hreduction, hactive, -, hout⟩ := start_ok hstart
  subst hreduction
  cases command with
  | connect device candidate =>
    obtain rfl := Except.ok.inj hcreate
    exact ⟨_, hactive, (Outcome.ok.inj hout).symm, keeps_beginConnection rfl⟩
  | connectSelected candidate =>
    obtain rfl := Except.ok.inj hcreate
    exact ⟨_, hactive, (Outcome.ok.inj hout).symm, keeps_beginConnection rfl⟩
  | reconnect device hint =>
    obtain rfl := Except.ok.inj hcreate
    exact ⟨_, hactive, (Outcome.ok.inj hout).symm, keeps_beginScan rfl⟩

theorem Started.clocked (h : Started command started engine₀) :
    ∃ w, engine₀.active = some w ∧ Clocked (issuedBy started) w := by
  obtain ⟨w, hactive, hidentified⟩ := h.identified
  obtain ⟨call, hcall, rfl, hkeeps⟩ := h.keeps_timers
  obtain rfl := Option.some.inj (hactive.symm.trans hcall)
  refine ⟨call.workflow, hactive, hidentified.formed, hkeeps.timed, ?_⟩
  rw [← List.nil_append (issuedBy _), pendingTimers_issuedBy]
  exact hkeeps.live

theorem run_clocked (hstart : Started command started engine₀)
    (h : EngineRun (fun _ _ _ => True) engine₀ trace engine) :
    Settled (fun trace w => Clocked (observe started trace) w) (fun _ => True) trace engine := by
  refine EngineRun.step_rule ?_ ?_ ?_ ?_ ?_ h
  -- at the start
  · obtain ⟨w, hactive, hclocked⟩ := hstart.clocked
    rw [settled_active hactive, observe_nil]
    exact hclocked
  -- an event of the host
  · intro trace engine w event _ _ hinv _
    rcases dispatch_cases hinv.formed event (engine.context w) with ⟨call, hcall, hstep⟩ | hreject
    · refine .inl ⟨call, hcall, ?_⟩
      rw [observe_snoc]
      rcases hstep.keeps hinv.formed with hformed | ⟨status, hended⟩
      · exact .inl ⟨hformed.terminalStatus, hstep.clocked hinv hformed⟩
      · exact .inr ⟨status, hended, trivial⟩
    · refine .inr ⟨w, engine.context w, w.unexpected, hreject, ?_⟩
      rw [observe_snoc]
      exact hinv.rejected hreject
  -- the workflow is cancelled
  · exact fun _ _ _ _ _ _ _ => ⟨_, rfl, trivial⟩
  -- another workflow's cancellation
  · rintro trace entry w _ ⟨id, hinput, -⟩ _ hquiet hinv
    rw [observe_snoc, observeEntry, hinput, hquiet, issuedBy_nil, List.append_nil]
    exact hinv
  -- after the end
  · exact fun _ _ _ _ _ _ => trivial

/-- A pending timer is taken when it fires. -/
theorem Clocked.accepts (hw : Clocked observations w) (hactive : engine.active = some w)
    {timer : RequestId × Nat} (hmem : timer ∈ pendingTimers observations) :
    Accepts engine ⟨timer.1, .timerFired timer.2⟩ := by
  rw [hw.pending] at hmem
  obtain ⟨call, hcall, hstep⟩ := @live_accepted _ (engine.context w) _ _ hw.formed hmem
  refine accepts_of_dispatch hactive hcall ?_
  rcases hstep.keeps hw.formed with hformed | ⟨status, hended⟩
  · exact .inl hformed.terminalStatus
  · exact .inr ⟨status, hended⟩

theorem Timed.live_ne_nil (h : Timed w) (hphase : w.phase = .scanning ∨ w.Attempting) :
    ∃ timer, timer ∈ live w := by
  rcases hphase with hscan | hattempt
  · obtain ⟨hrequest, htimer⟩ := h.scan hscan
    obtain ⟨n, hn⟩ := Option.ne_none_iff_exists'.mp hrequest
    obtain ⟨timerId, htimerId⟩ := Option.ne_none_iff_exists'.mp htimer
    exact ⟨(n, timerId), by rw [live_scanning hscan, mem_tracked]; exact ⟨hn, htimerId⟩⟩
  · obtain ⟨hrequest, htimer⟩ := h.attempt hattempt
    obtain ⟨n, hn⟩ := Option.ne_none_iff_exists'.mp hrequest
    obtain ⟨timerId, htimerId⟩ := Option.ne_none_iff_exists'.mp htimer
    exact ⟨(n, timerId), by rw [live_attempting hattempt, mem_tracked]; exact ⟨hn, htimerId⟩⟩

/-- A disconnection takes the failure of every BLE request that it waits for. -/
theorem Formed.accepts_failed (hw : Formed w) (hactive : engine.active = some w)
    (hphase : w.phase = .disconnecting) (hawaits : Awaits w id .ble) (platformCode : Option Int) :
    Accepts engine ⟨id, .ble (.failed platformCode)⟩ := by
  have hid : some id = w.connectRequestId ∨ some id = w.discoverRequestId ∨
      some id = w.readRequestId ∨ some id = w.disconnectRequestId := by
    cases hawaits with
    | scan hscan => rcases hscan with hscan | hscan <;> cases hphase.symm.trans hscan
    | stopScan hstop => cases hphase.symm.trans hstop
    | connect _ hid => exact .inl hid.symm
    | discover _ hid => exact .inr (.inl hid.symm)
    | read _ hid => exact .inr (.inr (.inl hid.symm))
    | disconnect _ hid => exact .inr (.inr (.inr hid.symm))
  rcases dispatch_cases hw ⟨id, .ble (.failed platformCode)⟩ (engine.context w) with
    ⟨call, hcall, hstep⟩ | hreject
  · refine accepts_of_dispatch hactive hcall ?_
    rcases hstep.keeps hw with hformed | ⟨status, hended⟩
    · exact .inl hformed.terminalStatus
    · exact .inr ⟨status, hended⟩
  · exfalso
    rcases @dispatchPhase_handled w (engine.context w) hw id (.ble (.failed platformCode)) with
      hnone | ⟨call, hcall, -⟩
    · rw [dispatchPhase] at hnone
      by_cases hlate : some id = w.connectRequestId ∨ some id = w.discoverRequestId ∨
          some id = w.readRequestId
      · rw [if_pos ⟨hphase, hlate⟩] at hnone
        cases hnone
      · rw [if_neg (fun h => hlate h.2), if_neg (fun h => hlate (.inl h)),
          if_neg (fun h => hlate (.inr h)), if_pos (by tauto)] at hnone
        cases hnone
    · rw [dispatch, if_neg (fun h => by cases h.1)] at hreject
      simp only [hcall, settleCall] at hreject
      cases congrArg Reduction.outcome hreject

theorem rejects_persistenceFailed (platformCode : Option Int) :
    dispatch w ⟨id, .persistenceFailed platformCode⟩ context = .err w context w.unexpected := by
  rw [dispatch, if_neg (fun h => by cases h.1)]
  rfl

/-- Nothing is left of an attempt while a scan is stopped. -/
theorem Formed.rejects_failed (hw : Formed w) (hphase : w.phase = .stoppingScan)
    (platformCode : Option Int) :
    dispatch w ⟨id, .ble (.failed platformCode)⟩ context = .err w context w.unexpected := by
  have hconnect := hw.no_connect (by rw [hphase]; decide)
  have hdiscover := hw.no_discover (by rw [hphase]; decide)
  have hread := hw.no_read (by rw [hphase]; decide)
  have hdisconnect := hw.no_disconnect (by rw [hphase]; decide)
  rw [dispatch, if_neg (fun h => by cases h.1)]
  simp [dispatchPhase, hphase, hconnect, hdiscover, hread, hdisconnect]

/-- A request of a connection has a way on exactly while its state is recoverable. -/
theorem Clocked.answerable_iff (hw : Clocked observations w) (hactive : engine.active = some w)
    (hawaits : Awaits w id request) :
    Answerable observations engine id request ↔ Recoverable w request := by
  constructor
  · intro hanswer
    by_contra hstuck
    rw [Recoverable, not_or, not_or, not_and] at hstuck
    obtain ⟨hscan, hattempt, hdisconnecting⟩ := hstuck
    rcases hanswer with hfailed | ⟨timer, hmem, -⟩
    · cases request with
      | persistence =>
        exact not_accepts hactive (rejects_persistenceFailed none) (hfailed none)
      | ble =>
        have hstop : w.phase = .stoppingScan := by
          rw [Attempting] at hattempt
          cases hawaits <;> tauto
        exact not_accepts hactive (hw.formed.rejects_failed hstop none) (hfailed none)
    · rw [hw.pending, live_idle hscan hattempt] at hmem
      exact absurd hmem List.not_mem_nil
  · intro hrecoverable
    have htimer (hphase : w.phase = .scanning ∨ w.Attempting) :
        Answerable observations engine id request := by
      obtain ⟨timer, hmem⟩ := hw.timed.live_ne_nil hphase
      rw [← hw.pending] at hmem
      exact .inr ⟨timer, hmem, hw.accepts hactive hmem⟩
    rcases hrecoverable with hscan | hattempt | ⟨hphase, rfl⟩
    · exact htimer (.inl hscan)
    · exact htimer (.inr hattempt)
    · exact .inl (hw.formed.accepts_failed hactive hphase hawaits)

end DeadEnds

end ConnectionWorkflow

namespace DiscoveryWorkflow

open Discovery

/-- The requests under which an answer is taken. -/
inductive Awaits (w : DiscoveryWorkflow) : RequestId → RequestClass → Prop
  | scan {id : RequestId} : w.phase = .scanning → w.scanRequestId = some id → Awaits w id .ble
  | stop {id : RequestId} : w.phase = .stopping → w.stopRequestId = some id → Awaits w id .ble

/-- What keeps the timer of the host in step with that of the discovery. -/
inductive Clocked (observations : List Observation) (w : DiscoveryWorkflow) : Prop
  | scanning {n : RequestId} : w.phase = .scanning → w.timerRequestId = some n →
      pendingTimers observations = [(n, DISCOVERY_TIMER_ID)] → Clocked observations w
  | stopping : w.phase = .stopping → pendingTimers observations = [] → Clocked observations w

section DeadEnds

variable {w : DiscoveryWorkflow} {context : WorkflowContext} {call : Call} {id : RequestId}
  {request : RequestClass} {observations : List Observation} {started : List EffectRequest}
  {trace : List (EngineEntry DiscoveryWorkflow)} {engine₀ engine : WorkflowEngine DiscoveryWorkflow}
  {event : HostEvent}

/-- A discovery that a command has just started. -/
def Started (started : List EffectRequest) (engine₀ : WorkflowEngine DiscoveryWorkflow) : Prop :=
  ∃ (engine : WorkflowEngine DiscoveryWorkflow) (command : DiscoveryCommand)
    (capabilities : List Capability) (id : CancellationId),
    engine.start command capabilities id = (engine₀, .ok started)

/-- Every accepted event, with the call that it leads to. -/
inductive Transition (w : DiscoveryWorkflow) (context : WorkflowContext) : HostEvent → Call → Prop
  | found {id : RequestId} {candidate : DeviceCandidate} : w.phase = .scanning →
      Transition w context ⟨id, .ble (.scanResult candidate)⟩
        ((Step.begin w context).request (.notify (.deviceDiscovered candidate)))
  | timedOut {id : RequestId} : w.phase = .scanning → w.timerRequestId = some id →
      Transition w context ⟨id, .timerFired DISCOVERY_TIMER_ID⟩
        ((Step.begin w context).request (.ble .stopScan) fun id w =>
          { w with stopRequestId := some id, phase := .stopping })
  | stopped {id : RequestId} : w.phase = .stopping →
      Transition w context ⟨id, .ble .scanStopped⟩
        ((Step.begin { w with phase := .completed } context).request
          (.notify (.completed .discover)))

theorem dispatch_cases (w : DiscoveryWorkflow) (event : HostEvent) (context : WorkflowContext) :
    (∃ call, dispatch w event context = .ok call ∧ Transition w context event call) ∨
      dispatch w event context = .err w context unexpectedEvent := by
  obtain ⟨id, kind⟩ := event
  rw [dispatch]
  cases kind with
  | timerFired timerId =>
    simp only
    split
    · rename_i h
      obtain ⟨hphase, rfl, hid⟩ := h
      exact .inl ⟨_, rfl, .timedOut hphase hid.symm⟩
    · exact .inr rfl
  | ble event =>
    cases event with
    | scanResult candidate =>
      simp only
      split
      · rename_i h
        exact .inl ⟨_, rfl, .found h.1⟩
      · exact .inr rfl
    | scanStopped =>
      simp only
      split
      · rename_i h
        exact .inl ⟨_, rfl, .stopped h.1⟩
      · exact .inr rfl
    | _ => exact .inr rfl
  | _ => exact .inr rfl

theorem Clocked.rejected (hw : Clocked observations w)
    (hreject : dispatch w event context = .err w context unexpectedEvent) :
    Clocked (observations ++ [.rejected event]) w := by
  have hsame : pendingTimers (observations ++ [.rejected event]) = pendingTimers observations := by
    rw [pendingTimers_snoc]
    refine tick_rejected fun timerId hkind hmem => ?_
    obtain ⟨n, kind⟩ := event
    obtain rfl : kind = .timerFired timerId := hkind
    cases hw with
    | scanning hphase hrequest hpending =>
      rw [hpending, List.mem_singleton, Prod.mk.injEq] at hmem
      obtain ⟨rfl, rfl⟩ := hmem
      simp only [dispatch] at hreject
      rw [if_pos ⟨hphase, trivial, hrequest.symm⟩] at hreject
      exact nomatch congrArg Reduction.outcome hreject
    | stopping hphase hpending =>
      rw [hpending] at hmem
      exact absurd hmem List.not_mem_nil
  cases hw with
  | scanning hphase hrequest hpending => exact .scanning hphase hrequest (hsame.trans hpending)
  | stopping hphase hpending => exact .stopping hphase (hsame.trans hpending)

theorem Transition.clocked (h : Transition w context event call) (hw : Clocked observations w) :
    terminalStatus call.workflow = .ok none ∧
        Clocked (observations ++ .accepted event :: issuedBy call.effects) call.workflow ∨
      ∃ status, terminalStatus call.workflow = .ok (some status) := by
  cases h with
  | found hphase =>
    cases hw with
    | scanning _ hrequest hpending =>
      have hrunning : w.phase ≠ .completed := by rw [hphase]; decide
      refine .inl ⟨if_neg hrunning, .scanning hphase hrequest ?_⟩
      · rw [pendingTimers_accepted, tick_ble, hpending]
        rfl
    | stopping hstop _ => exact nomatch hphase.symm.trans hstop
  | timedOut hphase hid =>
    cases hw with
    | scanning _ hrequest hpending =>
      obtain rfl := Option.some.inj (hid.symm.trans hrequest)
      refine .inl ⟨rfl, .stopping rfl ?_⟩
      rw [pendingTimers_accepted, hpending]
      simp [tick]
    | stopping hstop _ => exact nomatch hphase.symm.trans hstop
  | stopped => exact .inr ⟨_, rfl⟩

theorem run_clocked (hstart : Started started engine₀)
    (h : EngineRun (fun _ _ _ => True) engine₀ trace engine) :
    Settled (fun trace w => Clocked (observe started trace) w) (fun _ => True) trace engine := by
  refine EngineRun.step_rule ?_ ?_ ?_ ?_ ?_ h
  -- at the start
  · obtain ⟨engine, command, capabilities, id, hstarted⟩ := hstart
    obtain ⟨w, hcreate, reduction, hreduction, hactive, -, hout⟩ := start_ok hstarted
    obtain rfl := Except.ok.inj hcreate
    subst hreduction
    obtain rfl := Outcome.ok.inj hout
    rw [settled_active hactive, observe_nil]
    exact .scanning rfl rfl rfl
  -- an event of the host
  · intro trace engine w event _ _ hinv _
    rcases dispatch_cases w event (engine.context w) with ⟨call, hcall, hstep⟩ | hreject
    · refine .inl ⟨call, hcall, ?_⟩
      rw [observe_snoc]
      exact (hstep.clocked hinv).imp_right fun ⟨status, hended⟩ => ⟨status, hended, trivial⟩
    · refine .inr ⟨w, engine.context w, unexpectedEvent, hreject, ?_⟩
      rw [observe_snoc]
      exact hinv.rejected hreject
  -- the workflow is cancelled
  · exact fun _ _ _ _ _ _ _ => ⟨_, rfl, trivial⟩
  -- another workflow's cancellation
  · rintro trace entry w _ ⟨id, hinput, -⟩ _ hquiet hinv
    rw [observe_snoc, observeEntry, hinput, hquiet, issuedBy_nil, List.append_nil]
    exact hinv
  -- after the end
  · exact fun _ _ _ _ _ _ => trivial

/-- A request of a discovery has a way on exactly while it scans. -/
theorem Clocked.answerable_iff (hw : Clocked observations w) (hactive : engine.active = some w)
    (hawaits : Awaits w id request) :
    Answerable observations engine id request ↔ w.phase = .scanning := by
  cases hw with
  | scanning hphase hrequest hpending =>
    refine iff_of_true (.inr ⟨_, hpending ▸ List.mem_singleton_self _, ?_⟩) hphase
    have hstop : dispatch w ⟨_, .timerFired DISCOVERY_TIMER_ID⟩ (engine.context w) = .ok _ :=
      if_pos ⟨hphase, rfl, hrequest.symm⟩
    exact accepts_of_dispatch hactive hstop (.inl rfl)
  | stopping hphase hpending =>
    refine iff_of_false ?_ (fun h => nomatch hphase.symm.trans h)
    rintro (hfailed | ⟨timer, hmem, -⟩)
    · cases hawaits with
      | scan hscan => exact nomatch hphase.symm.trans hscan
      | stop => exact not_accepts hactive rfl (hfailed none)
    · rw [hpending] at hmem
      exact absurd hmem List.not_mem_nil

end DeadEnds

end DiscoveryWorkflow

/-! ## Both workflows -/

section Runs

variable {command : ConnectionCommand} {connecting discovering : List EffectRequest}
  {connectTrace : List (EngineEntry ConnectionWorkflow)}
  {discoverTrace : List (EngineEntry DiscoveryWorkflow)}
  {connector₀ connector : WorkflowEngine ConnectionWorkflow}
  {scanner₀ scanner : WorkflowEngine DiscoveryWorkflow}

/-- In every state of a run each awaited request has a way on exactly if it can be recovered: in a
connection while its timers run or BLE is to end a disconnection, in a discovery while it scans. -/
theorem answerable_iff_recoverable (hconnect : ConnectionWorkflow.Started command connecting connector₀)
    (hconnectRun : EngineRun (fun _ _ _ => True) connector₀ connectTrace connector)
    (hdiscover : DiscoveryWorkflow.Started discovering scanner₀)
    (hdiscoverRun : EngineRun (fun _ _ _ => True) scanner₀ discoverTrace scanner) :
    (∀ w id request, connector.active = some w → w.Awaits id request →
      (Answerable (observe connecting connectTrace) connector id request ↔ w.Recoverable request)) ∧
    (∀ w id request, scanner.active = some w → w.Awaits id request →
      (Answerable (observe discovering discoverTrace) scanner id request ↔ w.phase = .scanning)) := by
  have hconnected := ConnectionWorkflow.run_clocked hconnect hconnectRun
  have hdiscovered := DiscoveryWorkflow.run_clocked hdiscover hdiscoverRun
  constructor
  · intro w id request hactive hawaits
    exact ((settled_active hactive).mp hconnected).answerable_iff hactive hawaits
  · intro w id request hactive hawaits
    exact ((settled_active hactive).mp hdiscovered).answerable_iff hactive hawaits

end Runs

/-- The sample of a reconnection before its identity has been saved. -/
def persistingEvents : List Event :=
  ConnectionWorkflow.sampleEvents.dropLast

def persistingRun : List (EngineEntry ConnectionWorkflow) × WorkflowEngine ConnectionWorkflow :=
  Machine.exec WorkflowEngine.dispatch [] ConnectionWorkflow.sampleStart.1 persistingEvents

def discoveryStart : WorkflowEngine DiscoveryWorkflow × Outcome (List EffectRequest) :=
  WorkflowEngine.start {} (DiscoveryCommand.mk 5000 false) [.ble, .timer] ⟨.replicate 16 9⟩

/-- The scan has run out and is being stopped. -/
def discoveryRun : List (EngineEntry DiscoveryWorkflow) × WorkflowEngine DiscoveryWorkflow :=
  Machine.exec WorkflowEngine.dispatch [] discoveryStart.1
    [.host ⟨3, .timerFired Discovery.DISCOVERY_TIMER_ID⟩]

theorem answerable_iff_recoverable_sample :
    (∀ w id request, persistingRun.2.active = some w → w.Awaits id request →
      (Answerable (observe ConnectionWorkflow.sampleStart.2.effects persistingRun.1) persistingRun.2
        id request ↔ w.Recoverable request)) ∧
    (∀ w id request, discoveryRun.2.active = some w → w.Awaits id request →
      (Answerable (observe discoveryStart.2.effects discoveryRun.1) discoveryRun.2 id request ↔
        w.phase = .scanning)) :=
  @answerable_iff_recoverable ConnectionWorkflow.sampleCommand _ _ _ _ _ _ _ _
    ⟨{}, [.ble, .timer, .persistence], ⟨.replicate 16 9⟩, rfl⟩
    (Machine.Run.exec (Machine.allowed_true [] ConnectionWorkflow.sampleStart.1 persistingEvents))
    ⟨{}, _, [.ble, .timer], ⟨.replicate 16 9⟩, rfl⟩
    (Machine.Run.exec (Machine.allowed_true [] discoveryStart.1 _))

/-- Neither the failure to save an identity nor that to stop a scan is taken, and no timer runs. -/
theorem dead_ends :
    (∃ w, persistingRun.2.active = some w ∧ w.Awaits 14 .persistence ∧
      ¬Answerable (observe ConnectionWorkflow.sampleStart.2.effects persistingRun.1) persistingRun.2
        14 .persistence) ∧
    (∃ w, discoveryRun.2.active = some w ∧ w.Awaits 4 .ble ∧
      ¬Answerable (observe discoveryStart.2.effects discoveryRun.1) discoveryRun.2 4 .ble) := by
  constructor
  · have hview : persistingRun.2.active.map (fun w => (w.phase, w.persistRequestId)) =
        some (.persisting, some 14) := by decide +kernel
    obtain ⟨w, hactive, hw⟩ := Option.map_eq_some_iff.mp hview
    obtain ⟨hphase, hrequest⟩ := Prod.mk.inj hw
    have hawaits : w.Awaits 14 .persistence := .persist hphase hrequest
    refine ⟨w, hactive, hawaits, ?_⟩
    have hstart : ConnectionWorkflow.Started ConnectionWorkflow.sampleCommand
        ConnectionWorkflow.sampleStart.2.effects ConnectionWorkflow.sampleStart.1 :=
      ⟨{}, [.ble, .timer, .persistence], ⟨.replicate 16 9⟩, rfl⟩
    have hrun : EngineRun (fun _ _ _ => True) ConnectionWorkflow.sampleStart.1 persistingRun.1
        persistingRun.2 := Machine.Run.exec (Machine.allowed_true _ _ _)
    have hsettled := ConnectionWorkflow.run_clocked hstart hrun
    rw [((settled_active hactive).mp hsettled).answerable_iff hactive hawaits]
    simp [ConnectionWorkflow.Recoverable, ConnectionWorkflow.Attempting, hphase]
  · obtain ⟨w, hactive, hawaits, hphase⟩ : ∃ w, discoveryRun.2.active = some w ∧
        w.Awaits 4 .ble ∧ w.phase = .stopping :=
      ⟨_, rfl, .stop rfl rfl, rfl⟩
    refine ⟨w, hactive, hawaits, ?_⟩
    have hstart : DiscoveryWorkflow.Started discoveryStart.2.effects discoveryStart.1 :=
      ⟨{}, _, [.ble, .timer], ⟨.replicate 16 9⟩, rfl⟩
    have hrun : EngineRun (fun _ _ _ => True) discoveryStart.1 discoveryRun.1 discoveryRun.2 :=
      Machine.Run.exec (Machine.allowed_true _ _ _)
    have hsettled := DiscoveryWorkflow.run_clocked hstart hrun
    rw [((settled_active hactive).mp hsettled).answerable_iff hactive hawaits, hphase]
    decide

end BotaSdk
