import BotaSdk.Lib.Inserted
import BotaSdk.Workflow.ConnectionEffects
import BotaSdk.Workflow.DeadEnds

/-!
# Late scan results

Stopping a scan takes time, and results are queued meanwhile.  A reconnection retires them; a
discovery rejects every one.
-/

namespace BotaSdk

open History

/-- A result of the run's scan between the request to stop it and its end. -/
def LateScanResult {W : Type} (started : List EffectRequest) (trace : List (EngineEntry W))
    (engine : WorkflowEngine W) (event : Event) : Prop :=
  engine.active ≠ none ∧ ∃ scan stop allowDuplicates candidate,
    event = .host ⟨scan, .ble (.scanResult candidate)⟩ ∧
      Issued started (.ble (.startScan allowDuplicates)) trace scan ∧
      Issued started (.ble .stopScan) trace stop ∧
      ∀ entry ∈ trace, ¬Accepted entry ⟨stop, .ble .scanStopped⟩

section Issued

variable {W : Type} {started effects : List EffectRequest} {trace : List (EngineEntry W)}
  {entry : EngineEntry W} {id : RequestId} {effect : Effect} {P : Effect → Prop}

theorem issued_snoc : Issued started effect (trace ++ [entry]) id ↔
    Issued started effect trace id ∨ (id, effect) ∈ issues entry.output.effects := by
  rw [Issued, Issued, issues_snoc]
  exact List.mem_append

theorem mem_issues_of_emits (h : Emits P effects) (hmem : (id, effect) ∈ issues effects) :
    P effect := by
  obtain ⟨request, hrequest, heq⟩ := List.mem_map.mp hmem
  obtain ⟨-, rfl⟩ := Prod.mk.inj heq
  exact h request hrequest

end Issued

namespace ConnectionWorkflow

open Connection

/-- The effects of a scan. -/
def Scans : Effect → Prop
  | .ble (.startScan _) | .ble .stopScan => True
  | _ => False

theorem Plain.no_scan {effect : Effect} (h : Plain effect) : ¬Scans effect := by
  unfold Plain at h
  split at h <;> first | exact fun hscan => hscan | exact h.elim

section Steps

variable {w : ConnectionWorkflow} {context : WorkflowContext} {call : Call} {event : HostEvent}
  {id : RequestId}

/-- A dispatch never starts a scan. -/
theorem dispatch_no_start {allowDuplicates : Bool} (h : dispatch w event context = .ok call) :
    (id, .ble (.startScan allowDuplicates)) ∉ issues call.effects := by
  intro hmem
  have hemits : Emits (fun effect => ∀ allowDuplicates, effect ≠ .ble (.startScan allowDuplicates))
      call.effects := by
    refine dispatch_emits (fun effect hplain allowDuplicates heq => ?_) (fun _ _ => nofun) h
    rw [heq] at hplain
    exact hplain
  exact mem_issues_of_emits hemits hmem allowDuplicates rfl

/-- A dispatch stops the scan only while it runs. -/
theorem dispatch_no_stop (h : dispatch w event context = .ok call) (hphase : w.phase ≠ .scanning) :
    (id, .ble .stopScan) ∉ issues call.effects := by
  intro hmem
  have hemits : Emits (fun effect => ¬Scans effect) call.effects :=
    dispatch_emits (fun _ hplain => hplain.no_scan) (fun hscanning => absurd hscanning hphase) h
  exact mem_issues_of_emits hemits hmem trivial

theorem stopScan_stops (heffects : call.effects = [])
    (h : (id, .ble .stopScan) ∈ issues (stopScan call).effects) :
    id = call.context.nextRequestId := by
  obtain ⟨w, context, effects⟩ := call
  obtain rfl : effects = [] := heffects
  cases htimer : w.scanTimerId <;> cases hdevice : w.device <;>
    simpa [stopScan, pushCheckpoint, issues, htimer, hdevice, Step.push, Step.request, Step.next,
      Step.allocate, Step.update] using h

/-- The only step to request the end of a scan waits for it. -/
theorem Transition.stops (h : Transition w context event call)
    (hcall : dispatch w event context = .ok call)
    (hstop : (id, .ble .stopScan) ∈ issues call.effects) :
    call.workflow.phase = .stoppingScan ∧ call.workflow.stopScanRequestId = some id := by
  have hphase : w.phase = .scanning := by
    by_contra hphase
    exact dispatch_no_stop hcall hphase hstop
  have hother {phase : Connection.Phase} (hactual : w.phase = phase) (hne : phase ≠ .scanning) :
      call.workflow.phase = .stoppingScan ∧ call.workflow.stopScanRequestId = some id :=
    absurd (hactual.symm.trans hphase) hne
  have hstops (begun : ConnectionWorkflow)
      (hmem : (id, .ble .stopScan) ∈ issues (stopScan (.begin begun context)).effects) :
      (stopScan (.begin begun context)).workflow.phase = .stoppingScan ∧
        (stopScan (.begin begun context)).workflow.stopScanRequestId = some id := by
    rw [stopScan_stops rfl hmem]
    obtain ⟨ids, heq⟩ := stopScan_workflow (.begin begun context)
    rw [heq]
    exact ⟨rfl, rfl⟩
  cases h with
  | checkpointSaved | recorded => exact absurd hstop List.not_mem_nil
  | selected => exact hstops _ hstop
  | scanTimedOut => exact hstops _ hstop
  | lateScanResult hactual => exact hother hactual nofun
  | lateScanTimer hactual => exact hother hactual nofun
  | scanStopped hactual => exact hother hactual nofun
  | scanEnded hactual => exact hother hactual nofun
  | connected hactual => exact hother hactual nofun
  | discovered hactual => exact hother hactual nofun
  | verified hactual => exact hother hactual nofun
  | dropped hgiven =>
    rcases hgiven.open_attempt with hactual | hactual | hactual <;> exact hother hactual nofun
  | late hactual => exact hother hactual nofun
  | probesNext hactual => exact hother hactual nofun
  | disconnectFails hactual => exact hother hactual nofun
  | saved hactual => exact hother hactual nofun
  | connectRetried hactual => exact hother hactual nofun
  | connectFails hactual => exact hother hactual nofun

/-- A scan being stopped is left only by its end. -/
theorem Transition.stopping (h : Transition w context event call)
    (hphase : w.phase = .stoppingScan) :
    (call.workflow.phase = .stoppingScan ∧ call.workflow.stopScanRequestId = w.stopScanRequestId) ∨
      ∃ id, event = ⟨id, .ble .scanStopped⟩ ∧ w.stopScanRequestId = some id := by
  cases h with
  | checkpointSaved | lateScanResult | lateScanTimer => exact .inl ⟨hphase, rfl⟩
  | scanStopped _ hid => exact .inr ⟨_, rfl, hid⟩
  | scanEnded _ hid => exact .inr ⟨_, rfl, hid⟩
  | dropped hgiven =>
    rcases hgiven.open_attempt with hactual | hactual | hactual <;>
      exact nomatch hactual.symm.trans hphase
  | recorded hactual | selected hactual | scanTimedOut hactual | connected hactual
  | discovered hactual | verified hactual | late hactual | probesNext hactual
  | disconnectFails hactual | saved hactual | connectRetried hactual | connectFails hactual =>
    exact nomatch hactual.symm.trans hphase

/-- The scan is never started again. -/
theorem Transition.scan_kept (h : Transition w context event call)
    (hphase : call.workflow.phase = .scanning ∨ call.workflow.phase = .stoppingScan) :
    (w.phase = .scanning ∨ w.phase = .stoppingScan) ∧
      call.workflow.scanRequestId = w.scanRequestId := by
  have hprobes {before : Call} (hprobes : Probes before call) : False := by
    cases hprobes with
    | @connection candidate hnext =>
      obtain ⟨ids, heq⟩ := beginConnection_workflow before candidate true
      rw [heq] at hphase
      exact hphase.elim (by rintro ⟨⟩) (by rintro ⟨⟩)
    | exhausted error =>
      rw [fail_workflow] at hphase
      exact hphase.elim (by rintro ⟨⟩) (by rintro ⟨⟩)
  have hstops (begun : ConnectionWorkflow) :
      (stopScan (.begin begun context)).workflow.scanRequestId = begun.scanRequestId := by
    obtain ⟨ids, heq⟩ := stopScan_workflow (.begin begun context)
    rw [heq]
    rfl
  have hrecorded (candidate : DeviceCandidate) :
      (recordCandidate candidate w).scanRequestId = w.scanRequestId := by
    rw [recordCandidate]
    split <;> rfl
  cases h with
  | checkpointSaved => exact ⟨hphase, rfl⟩
  | recorded hactual => exact ⟨.inl hactual, hrecorded _⟩
  | selected hactual => exact ⟨.inl hactual, (hstops _).trans (hrecorded _)⟩
  | scanTimedOut hactual => exact ⟨.inl hactual, hstops _⟩
  | lateScanResult hactual => exact ⟨.inr hactual, rfl⟩
  | lateScanTimer hactual => exact ⟨.inr hactual, rfl⟩
  | @scanStopped id candidate =>
    obtain ⟨ids, heq⟩ := beginConnection_workflow (.begin { w with
      scanRequestId := none, scanTimerRequestId := none, scanTimerId := none
      stopScanRequestId := none } context) candidate true
    rw [heq] at hphase
    exact hphase.elim (by rintro ⟨⟩) (by rintro ⟨⟩)
  | scanEnded _ _ _ hnext | probesNext _ _ _ _ hnext | connectRetried _ _ _ hnext =>
    exact (hprobes hnext).elim
  | connected =>
    rw [ConnectionWorkflow.connected, pushCheckpoint_workflow] at hphase
    exact hphase.elim (by rintro ⟨⟩) (by rintro ⟨⟩)
  | discovered | saved => exact hphase.elim (by rintro ⟨⟩) (by rintro ⟨⟩)
  | verified _ _ _ _ _ hpersists =>
    obtain ⟨ids, heq⟩ := hpersists.workflow
    rw [heq] at hphase
    exact hphase.elim (by rintro ⟨⟩) (by rintro ⟨⟩)
  | dropped _ _ _ _ _ hdrops =>
    obtain ⟨ids, heq⟩ := hdrops.workflow
    rw [heq] at hphase
    exact hphase.elim (by rintro ⟨⟩) (by rintro ⟨⟩)
  | late hactual =>
    rcases hphase with hphase | hphase <;> cases hactual.symm.trans hphase
  | disconnectFails | connectFails =>
    rw [fail_workflow] at hphase
    exact hphase.elim (by rintro ⟨⟩) (by rintro ⟨⟩)

end Steps

/-- What a run's requests say about the scan of a reconnection. -/
structure Scanned (started : List EffectRequest) (trace : List (EngineEntry ConnectionWorkflow))
    (w : ConnectionWorkflow) : Prop where
  formed : Formed w
  scan : ∀ id allowDuplicates, Issued started (.ble (.startScan allowDuplicates)) trace id →
    w.phase = .scanning ∨ w.phase = .stoppingScan → w.scanRequestId = some id
  stop : ∀ id, Issued started (.ble .stopScan) trace id →
    (w.phase = .stoppingScan ∧ w.stopScanRequestId = some id) ∨
      ∃ entry ∈ trace, Accepted entry ⟨id, .ble .scanStopped⟩

section Runs

variable {device : DeviceSerialNumber} {hint : ReconnectHint} {started : List EffectRequest}
  {trace : List (EngineEntry ConnectionWorkflow)} {engine₀ engine : WorkflowEngine ConnectionWorkflow}
  {w : ConnectionWorkflow} {context : WorkflowContext} {call : Call} {event : HostEvent}

/-- An entry without requests keeps what was issued. -/
theorem Scanned.quiet {entry : EngineEntry ConnectionWorkflow} (h : Scanned started trace w)
    (hquiet : entry.output.effects = []) : Scanned started (trace ++ [entry]) w := by
  have hissued {effect : Effect} {id : RequestId}
      (hid : Issued started effect (trace ++ [entry]) id) : Issued started effect trace id := by
    rw [issued_snoc, hquiet] at hid
    exact hid.resolve_right List.not_mem_nil
  refine ⟨h.formed, fun id allowDuplicates hid => h.scan id allowDuplicates (hissued hid),
    fun id hid => ?_⟩
  rcases h.stop id (hissued hid) with hstopping | ⟨other, hmem, haccepted⟩
  · exact .inl hstopping
  · exact .inr ⟨other, List.mem_append_left _ hmem, haccepted⟩

theorem Scanned.accepted (h : Scanned started trace w)
    (hcall : dispatch w event (engine.context w) = .ok call)
    (hstep : Transition w (engine.context w) event call) (hformed : Formed call.workflow) :
    Scanned started (trace ++ [⟨engine, .host event, .ok call.effects⟩]) call.workflow := by
  refine ⟨hformed, fun id allowDuplicates hid hphase => ?_, fun id hid => ?_⟩
  · obtain ⟨hbefore, hsame⟩ := hstep.scan_kept hphase
    rcases issued_snoc.mp hid with hid | hid
    · exact hsame.trans (h.scan id allowDuplicates hid hbefore)
    · exact absurd hid (dispatch_no_start hcall)
  · rcases issued_snoc.mp hid with hid | hid
    · rcases h.stop id hid with ⟨hphase, hrequest⟩ | ⟨other, hmem, haccepted⟩
      · rcases hstep.stopping hphase with ⟨hstays, hsame⟩ | ⟨answered, rfl, hanswered⟩
        · exact .inl ⟨hstays, hsame.trans hrequest⟩
        · obtain rfl := Option.some.inj (hrequest.symm.trans hanswered)
          exact .inr ⟨_, List.mem_concat_self, rfl, _, rfl⟩
      · exact .inr ⟨other, List.mem_append_left _ hmem, haccepted⟩
    · exact .inl (hstep.stops hcall hid)

/-- The start of a reconnection requests its scan, and nothing else of a scan. -/
theorem beginScan_scans {id : RequestId} {effect : Effect}
    (hcall : ∀ issue ∈ issues call.effects, ¬Scans issue.2)
    (h : (id, effect) ∈ issues (beginScan call).effects) (hscan : Scans effect) :
    id = call.context.nextRequestId ∧ effect = .ble (.startScan true) := by
  obtain ⟨w, context, effects⟩ := call
  have hold : (id, effect) ∉ issues effects := fun hmem => hcall _ hmem hscan
  have hissues : issues (beginScan ⟨w, context, effects⟩).effects =
      issues effects ++ [(context.nextRequestId, .ble (.startScan true)),
        (context.advance.nextRequestId, .timer (.schedule w.nextTimerId w.hint.scanTimeoutMs))] ++
        w.device.elim [] fun device =>
          [(context.advance.advance.nextRequestId, .persistence (.saveCheckpoint {
            workflow := .connection, operation := w.operation, device, recording := none
            phase := .reconnecting, completedUnits := w.candidateIndex, retryCount := w.retryCount
            lastSequence := none, firmwareVersion := none }))] := by
    cases hdevice : w.device <;>
      simp [beginScan, scheduleTimer, pushCheckpoint, issues, hdevice, Step.request, Step.update,
        operation]
  rw [hissues] at h
  rcases List.mem_append.mp h with h | h
  · rcases List.mem_append.mp h with h | h
    · exact absurd h hold
    · rcases List.mem_cons.mp h with h | h
      · exact Prod.mk.inj h
      · obtain ⟨-, rfl⟩ := Prod.mk.inj (List.mem_singleton.mp h)
        exact hscan.elim
  · cases hdevice : w.device with
    | none =>
      rw [hdevice] at h
      exact absurd h List.not_mem_nil
    | some device =>
      rw [hdevice] at h
      obtain ⟨-, rfl⟩ := Prod.mk.inj (List.mem_singleton.mp h)
      exact hscan.elim

theorem scanned_beginScan {id : CancellationId} (hw : call.workflow = reconnect device hint id)
    (hcall : ∀ issue ∈ issues call.effects, ¬Scans issue.2) :
    Scanned (beginScan call).effects [] (beginScan call).workflow := by
  have hissued {effect : Effect} {n : RequestId}
      (hid : Issued (beginScan call).effects effect
        ([] : List (EngineEntry ConnectionWorkflow)) n) (hscan : Scans effect) :
      n = call.context.nextRequestId ∧ effect = .ble (.startScan true) := by
    rw [Issued, emitted_nil, List.append_nil] at hid
    exact beginScan_scans hcall hid hscan
  refine ⟨?_, fun n allowDuplicates hid _ => ?_, fun n hid => ?_⟩
  · obtain ⟨w, context, effects⟩ := call
    obtain rfl : w = reconnect device hint id := hw
    exact formed_reconnect device hint id
  · obtain ⟨ids, heq⟩ := beginScan_workflow call
    rw [heq, (hissued hid trivial).1]
  · cases (hissued hid trivial).2

theorem Started.scanned (h : Started (.reconnect device hint) started engine₀) :
    ∃ w, engine₀.active = some w ∧ Scanned started [] w := by
  obtain ⟨engine, capabilities, id, hstart⟩ := h
  obtain ⟨w, hcreate, reduction, rfl, hactive, -, hout⟩ := start_ok hstart
  obtain rfl := Except.ok.inj hcreate
  refine ⟨_, hactive, ?_⟩
  obtain rfl := Outcome.ok.inj hout
  refine scanned_beginScan rfl fun issue hmem => ?_
  rw [List.mem_singleton.mp hmem]
  exact not_false

theorem run_scanned (hstart : Started (.reconnect device hint) started engine₀)
    (h : EngineRun (fun _ _ _ => True) engine₀ trace engine) :
    Settled (fun trace w => Scanned started trace w) (fun _ => True) trace engine := by
  refine EngineRun.step_rule ?_ ?_ ?_ ?_ ?_ h
  -- at the start
  · obtain ⟨w, hactive, hscanned⟩ := hstart.scanned
    rw [settled_active hactive]
    exact hscanned
  -- an event of the host
  · intro trace engine w event _ hactive hinv _
    rcases dispatch_cases hinv.formed event (engine.context w) with ⟨call, hcall, hstep⟩ | hreject
    · refine .inl ⟨call, hcall, ?_⟩
      rcases hstep.keeps hinv.formed with hformed | ⟨status, hended⟩
      · exact .inl ⟨hformed.terminalStatus, hinv.accepted hcall hstep hformed⟩
      · exact .inr ⟨status, hended, trivial⟩
    · exact .inr ⟨w, engine.context w, w.unexpected, hreject, hinv.quiet rfl⟩
  -- the workflow is cancelled
  · intro trace engine w _ _ _ _
    obtain ⟨call, hcall, -⟩ := cancel_plain w (engine.context w)
    exact ⟨call, hcall, trivial⟩
  -- another workflow's cancellation
  · intro trace entry w _ _ _ hquiet hinv
    exact hinv.quiet hquiet
  -- after the end
  · intros
    trivial

/-- A late result changes nothing of a reconnection. -/
theorem late_accepted (hstart : Started (.reconnect device hint) started engine₀)
    (hrun : EngineRun (fun _ _ _ => True) engine₀ trace engine) {event : Event}
    (hlate : LateScanResult started trace engine event) : engine.dispatch event = (engine, .ok []) := by
  obtain ⟨hactive, scan, stop, allowDuplicates, candidate, rfl, hscan, hstop, hopen⟩ := hlate
  obtain ⟨w, hw⟩ := Option.ne_none_iff_exists'.mp hactive
  have hinv := (settled_active hw).mp (run_scanned hstart hrun)
  obtain ⟨hphase, -⟩ : w.phase = .stoppingScan ∧ w.stopScanRequestId = some stop := by
    rcases hinv.stop stop hstop with hstopping | ⟨entry, hmem, haccepted⟩
    · exact hstopping
    · exact absurd haccepted (hopen entry hmem)
  have hid := hinv.scan scan allowDuplicates hscan (.inr hphase)
  have hcall : WorkflowReducer.dispatch w ⟨scan, .ble (.scanResult candidate)⟩ (engine.context w) =
      .ok (.begin w (engine.context w)) := by
    show dispatch w _ _ = _
    rw [dispatch, if_neg (fun hsaved => by cases hsaved.1), dispatchPhase,
      if_neg (show ¬(w.phase = .scanning ∧ _) from fun hscanning =>
        by cases hphase.symm.trans hscanning.1), if_pos ⟨hphase, hid.symm⟩]
    rfl
  rw [dispatch_active hw, hcall, settle_running rfl hinv.formed.terminalStatus]
  obtain ⟨active, status, nextRequestId, terminalCancellationId⟩ := engine
  obtain rfl : active = some w := hw
  rfl

end Runs

end ConnectionWorkflow

namespace DiscoveryWorkflow

open Discovery

/-- A discovery runs until it has requested the end of its scan. -/
structure Scanned (started : List EffectRequest) (trace : List (EngineEntry DiscoveryWorkflow))
    (w : DiscoveryWorkflow) : Prop where
  running : w.phase = .scanning ∨ w.phase = .stopping
  stop : ∀ id, Issued started (.ble .stopScan) trace id → w.phase = .stopping

section Runs

variable {started : List EffectRequest} {trace : List (EngineEntry DiscoveryWorkflow)}
  {engine₀ engine : WorkflowEngine DiscoveryWorkflow}
  {w : DiscoveryWorkflow} {context : WorkflowContext} {event : HostEvent}

theorem Scanned.terminalStatus (h : Scanned started trace w) : w.terminalStatus = .ok none := by
  rw [DiscoveryWorkflow.terminalStatus, if_neg fun hphase => ?_]
  rcases h.running with hrunning | hrunning <;> exact nomatch hphase.symm.trans hrunning

theorem Scanned.quiet {entry : EngineEntry DiscoveryWorkflow} (h : Scanned started trace w)
    (hquiet : ∀ id, (id, .ble .stopScan) ∉ issues entry.output.effects) :
    Scanned started (trace ++ [entry]) w :=
  ⟨h.running, fun id hid => h.stop id ((issued_snoc.mp hid).resolve_right (hquiet id))⟩

theorem run_scanned (hstart : Started started engine₀)
    (h : EngineRun (fun _ _ _ => True) engine₀ trace engine) :
    Settled (fun trace w => Scanned started trace w) (fun _ => True) trace engine := by
  refine EngineRun.step_rule ?_ ?_ ?_ ?_ ?_ h
  -- at the start
  · obtain ⟨engine, command, capabilities, id, hstart⟩ := hstart
    obtain ⟨w, hcreate, reduction, rfl, hactive, -, hout⟩ := start_ok hstart
    obtain rfl := Except.ok.inj hcreate
    obtain rfl := Outcome.ok.inj hout
    rw [settled_active hactive]
    refine ⟨.inl rfl, fun n hid => ?_⟩
    -- its first requests report the start, begin the scan and schedule its end
    rw [Issued, emitted_nil, List.append_nil] at hid
    rcases List.mem_cons.mp hid with hid | hid
    · cases (Prod.mk.inj hid).2
    · rcases List.mem_cons.mp hid with hid | hid
      · cases (Prod.mk.inj hid).2
      · cases (Prod.mk.inj (List.mem_singleton.mp hid)).2
  -- an event of the host
  · intro trace engine w event _ hactive hinv _
    rcases dispatch_cases w event (engine.context w) with ⟨call, hcall, hstep⟩ | hreject
    · refine .inl ⟨call, hcall, ?_⟩
      cases hstep with
      | found =>
        refine .inl ⟨hinv.terminalStatus, hinv.quiet fun id hmem => ?_⟩
        cases List.mem_singleton.mp hmem
      | timedOut => exact .inl ⟨rfl, .inr rfl, fun _ _ => rfl⟩
      | stopped => exact .inr ⟨_, rfl, trivial⟩
    · exact .inr ⟨w, engine.context w, unexpectedEvent, hreject,
        hinv.quiet fun _ => List.not_mem_nil⟩
  -- the workflow is cancelled
  · intro trace engine w _ _ _ _
    exact ⟨_, rfl, trivial⟩
  -- another workflow's cancellation
  · intro trace entry w _ _ _ hquiet hinv
    refine hinv.quiet fun id hmem => ?_
    rw [hquiet] at hmem
    exact absurd hmem List.not_mem_nil
  -- after the end
  · intros
    trivial

/-- A discovery rejects every late result. -/
theorem late_rejected (hstart : Started started engine₀)
    (hrun : EngineRun (fun _ _ _ => True) engine₀ trace engine) {event : Event}
    (hlate : LateScanResult started trace engine event) :
    (engine.dispatch event).2 = .err unexpectedEvent := by
  obtain ⟨hactive, scan, stop, allowDuplicates, candidate, rfl, -, hstop, -⟩ := hlate
  obtain ⟨w, hw⟩ := Option.ne_none_iff_exists'.mp hactive
  have hphase := ((settled_active hw).mp (run_scanned hstart hrun)).stop stop hstop
  have hnot : w.phase ≠ .scanning := by
    rw [hphase]
    nofun
  have hcall : WorkflowReducer.dispatch w ⟨scan, .ble (.scanResult candidate)⟩ (engine.context w) =
      .err w (engine.context w) unexpectedEvent := if_neg fun hscanning => hnot hscanning.1
  rw [dispatch_active hw, hcall, settle_err rfl]

end Runs

end DiscoveryWorkflow

/-- Results that are queued when a scan is stopped are harmless to a reconnection.  To a discovery
they are so only if there are none. -/
theorem late_scan_results (started : List EffectRequest) (items : List (Machine.Item Event)) :
    (∀ (device : DeviceSerialNumber) (hint : ReconnectHint)
      (engine₀ : WorkflowEngine ConnectionWorkflow),
      ConnectionWorkflow.Started (.reconnect device hint) started engine₀ →
      Machine.Inserts WorkflowEngine.dispatch (LateScanResult started) [] engine₀ items →
      Machine.Harmless WorkflowEngine.dispatch (.ok []) engine₀ items) ∧
    ∀ engine₀ : WorkflowEngine DiscoveryWorkflow,
      DiscoveryWorkflow.Started started engine₀ →
      Machine.Inserts WorkflowEngine.dispatch (LateScanResult started) [] engine₀ items →
      (Machine.Harmless WorkflowEngine.dispatch (.ok []) engine₀ items ↔
        ∀ item ∈ items, item.inserted = false) := by
  refine ⟨fun device hint engine₀ hstart hinserts => ?_, fun engine₀ hstart hinserts => ?_⟩
  · exact hinserts.harmless .nil fun trace engine event hrun hlate =>
      ConnectionWorkflow.late_accepted hstart hrun hlate
  · refine hinserts.harmless_iff .nil fun trace engine event hrun hlate hquiet => ?_
    exact nomatch (DiscoveryWorkflow.late_rejected hstart hrun hlate).symm.trans hquiet

/-- A discovery that times out while a result is queued. -/
def queuedItems : List (Machine.Item Event) :=
  [⟨.host ⟨3, .timerFired Discovery.DISCOVERY_TIMER_ID⟩, false⟩,
    ⟨.host ⟨2, .ble (.scanResult ConnectionWorkflow.sampleCandidate)⟩, true⟩,
    ⟨.host ⟨4, .ble .scanStopped⟩, false⟩]

def queuedStart : WorkflowEngine DiscoveryWorkflow × Outcome (List EffectRequest) :=
  WorkflowEngine.start {} (⟨5000, true⟩ : DiscoveryCommand) [.ble, .timer] ⟨.replicate 16 9⟩

/-- The scan was requested to end by the timer, and has not ended. -/
theorem queuedItems_late :
    Machine.Inserts WorkflowEngine.dispatch (LateScanResult queuedStart.2.effects) [] queuedStart.1
      queuedItems := by
  refine ⟨nofun, fun _ => ⟨nofun, 2, 4, true, _, rfl, ?_, ?_, fun entry hmem => ?_⟩, nofun, trivial⟩
  · unfold Issued
    decide +kernel
  · unfold Issued
    decide +kernel
  · obtain rfl := List.mem_singleton.mp hmem
    exact fun haccepted => nomatch haccepted.1

theorem late_scan_results_counterexample :
    ∃ (started : List EffectRequest) (engine₀ : WorkflowEngine DiscoveryWorkflow)
      (items : List (Machine.Item Event)),
      DiscoveryWorkflow.Started started engine₀ ∧
      Machine.Inserts WorkflowEngine.dispatch (LateScanResult started) [] engine₀ items ∧
      ¬Machine.Harmless WorkflowEngine.dispatch (.ok []) engine₀ items := by
  refine ⟨queuedStart.2.effects, queuedStart.1, queuedItems,
    ⟨{}, ⟨5000, true⟩, [.ble, .timer], ⟨.replicate 16 9⟩, rfl⟩, queuedItems_late, fun hharmless => ?_⟩
  have hrejected : (Outcome.err DiscoveryWorkflow.unexpectedEvent, true) ∈
      Machine.outcomes WorkflowEngine.dispatch queuedStart.1 queuedItems := by decide +kernel
  exact nomatch hharmless.inserted _ hrejected rfl

/-- A reconnection that stops its scan while a result is queued. -/
def retiredItems : List (Machine.Item Event) :=
  [⟨.host ⟨2, .ble (.scanResult ConnectionWorkflow.sampleCandidate)⟩, false⟩,
    ⟨.host ⟨2, .ble (.scanResult ConnectionWorkflow.sampleCandidate)⟩, true⟩,
    ⟨.host ⟨5, .ble .scanStopped⟩, false⟩]

theorem late_scan_results_sample :
    Machine.Harmless WorkflowEngine.dispatch (.ok []) ConnectionWorkflow.sampleStart.1
        retiredItems ∧
      ¬Machine.Harmless WorkflowEngine.dispatch (.ok []) queuedStart.1 queuedItems := by
  constructor
  · refine (late_scan_results ConnectionWorkflow.sampleStart.2.effects retiredItems).1
      ⟨"EVFXXW67KP"⟩ { storedPeripheralId := some "stored" } ConnectionWorkflow.sampleStart.1
      ⟨{}, [.ble, .timer, .persistence], ⟨.replicate 16 9⟩, rfl⟩ ?_
    refine ⟨nofun, fun _ => ⟨nofun, 2, 5, true, _, rfl, ?_, ?_, fun entry hmem => ?_⟩, nofun,
      trivial⟩
    · unfold Issued
      decide +kernel
    · unfold Issued
      decide +kernel
    · obtain rfl := List.mem_singleton.mp hmem
      exact fun haccepted => nomatch haccepted.1
  · rw [(late_scan_results queuedStart.2.effects queuedItems).2 queuedStart.1
      ⟨{}, ⟨5000, true⟩, [.ble, .timer], ⟨.replicate 16 9⟩, rfl⟩ queuedItems_late]
    exact fun hnone => nomatch hnone _ (List.mem_cons_of_mem _ List.mem_cons_self)

end BotaSdk
