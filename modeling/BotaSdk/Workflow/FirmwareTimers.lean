import BotaSdk.Workflow.ConnectionTimers
import BotaSdk.Workflow.FirmwareUpdateSteps

/-!
# The timers of a firmware update

The update schedules its timers under fixed identifiers, while the connection nested in it counts from
one.  Both share the timers of the host.
-/

namespace BotaSdk

open Protocol Connection FirmwareUpdate History

namespace ConnectionWorkflow

/-! ## How a connection numbers its timers -/

/-- The candidate that follows a disconnected one, if any. -/
def afterDisconnect (w : ConnectionWorkflow) : Option DeviceCandidate :=
  if w.disconnectOutcome = some .probeNext then
    if w.probeCandidates.isEmpty then (prepareProbeCandidates w).probeCandidates.head?
    else w.probeCandidates[saturatingAdd w.candidateIndex 1]?
  else none

/-- The candidate that an event makes the connection try next, if any. -/
def nextAttempt (w : ConnectionWorkflow) (event : HostEvent) : Option DeviceCandidate :=
  match event.kind with
  | .ble .scanStopped =>
    if w.phase = .stoppingScan ∧ some event.requestId = w.stopScanRequestId then
      w.activeCandidate <|> (prepareProbeCandidates w).probeCandidates.head?
    else none
  | .ble (.disconnected peripheralId _) =>
    if w.phase = .disconnecting ∧ some event.requestId = w.disconnectRequestId ∧
        w.isActive peripheralId then
      w.afterDisconnect
    else none
  | .ble (.failed _) =>
    if w.phase = .connecting ∧ some event.requestId = w.connectRequestId ∧ w.mode = .reconnect then
      (prepareProbeCandidates w).probeCandidates.head?
    else if w.phase = .disconnecting ∧ some event.requestId = w.disconnectRequestId then
      w.afterDisconnect
    else none
  | _ => none

/-- The connection keeps a timer under the identifier. -/
def Stored (w : ConnectionWorkflow) (timerId : Nat) : Prop :=
  w.scanTimerId = some timerId ∨ w.attemptTimerId = some timerId

/-- No timer is started. -/
structure Still (w : ConnectionWorkflow) (call : Call) : Prop where
  next : call.workflow.nextTimerId = w.nextTimerId
  cancels : CancelsOnly w.Stored (timers call.effects)
  stored : ∀ timerId, call.workflow.Stored timerId → w.Stored timerId

/-- The next timer is started. -/
structure Advances (w : ConnectionWorkflow) (call : Call) : Prop where
  next : call.workflow.nextTimerId = saturatingAdd w.nextTimerId 1
  starts : ∃ cancels id delayMs,
    timers call.effects = cancels ++ [(id, .schedule w.nextTimerId delayMs)] ∧ CancelsOnly w.Stored cancels
  stored : ∀ timerId, call.workflow.Stored timerId → w.Stored timerId ∨ timerId = w.nextTimerId

section Numbers

variable {w : ConnectionWorkflow} {context : WorkflowContext} {call call' : Call}
  {candidate : DeviceCandidate} {event : HostEvent} {n : RequestId}

theorem cancels_attempt : CancelsOnly w.Stored (attemptCancel n w) := by
  intro entry hmem
  rw [attemptCancel] at hmem
  split at hmem
  · exact absurd hmem List.not_mem_nil
  · rename_i timerId h
    rw [List.mem_singleton.mp hmem]
    exact ⟨timerId, rfl, .inr h⟩

theorem cancels_scan : CancelsOnly w.Stored (scanCancel n w) := by
  intro entry hmem
  rw [scanCancel] at hmem
  split at hmem
  · exact absurd hmem List.not_mem_nil
  · rename_i timerId h
    rw [List.mem_singleton.mp hmem]
    exact ⟨timerId, rfl, .inl h⟩

theorem advances_beginConnection (hnext : call.workflow.nextTimerId = w.nextTimerId)
    (hcancels : CancelsOnly w.Stored (timers call.effects))
    (hstored : ∀ timerId, call.workflow.Stored timerId → w.Stored timerId) :
    Advances w (beginConnection candidate true call) := by
  obtain ⟨ids, heq⟩ := beginConnection_workflow call candidate true
  obtain ⟨delayMs, htimers⟩ := beginConnection_timers call candidate true
  refine ⟨?_, ?_, ?_⟩
  · rw [heq, hnext]
  · exact ⟨timers call.effects, call.context.advance.nextRequestId, delayMs,
      by rw [htimers, hnext], hcancels⟩
  · intro timerId h
    rw [heq] at h
    rcases h with hscan | hattempt
    · exact .inl (hstored timerId (.inl hscan))
    · exact .inr ((Option.some.inj hattempt).symm.trans hnext)

theorem still_fail (error : DeviceSdkError) (hnext : call.workflow.nextTimerId = w.nextTimerId)
    (hcancels : CancelsOnly w.Stored (timers call.effects))
    (hstored : ∀ timerId, call.workflow.Stored timerId → w.Stored timerId) :
    Still w (fail error call) := by
  refine ⟨?_, ?_, ?_⟩
  · rw [fail_workflow]
    exact hnext
  · rw [fail_timers]
    exact hcancels.append (cancels_attempt.mono hstored)
  · intro timerId h
    rw [fail_workflow] at h
    rcases h with hscan | hattempt
    · exact hstored timerId (.inl hscan)
    · exact nomatch hattempt

theorem still_stopScan (hnext : call.workflow.nextTimerId = w.nextTimerId)
    (hcancels : CancelsOnly w.Stored (timers call.effects))
    (hstored : ∀ timerId, call.workflow.Stored timerId → w.Stored timerId) :
    Still w (stopScan call) := by
  obtain ⟨ids, heq⟩ := stopScan_workflow call
  refine ⟨?_, ?_, ?_⟩
  · rw [heq]
    exact hnext
  · rw [stopScan_timers]
    exact hcancels.append (cancels_scan.mono hstored)
  · rw [heq]
    exact hstored

theorem finishDisconnect_ends (h : call.workflow.afterDisconnect = none)
    (hok : finishDisconnect call = .ok call') : call'.workflow.phase = .failed := by
  have hprobe {call : Call} (hnone : call.workflow.probeCandidates[call.workflow.candidateIndex]? = none)
      (hok : beginNextProbe call = .ok call') : call'.workflow.phase = .failed := by
    rw [beginNextProbe, hnone] at hok
    simp only at hok
    split at hok
    · rw [← Outcome.ok.inj hok, fail_workflow]
    · cases hok
  rw [finishDisconnect] at hok
  split at hok
  · rename_i houtcome
    rw [afterDisconnect, if_pos houtcome] at h
    split at h
    · rename_i hempty
      refine hprobe ?_ hok
      have hnone : (prepareProbeCandidates call.workflow).probeCandidates = [] :=
        List.head?_eq_none_iff.mp h
      show (if call.workflow.probeCandidates.isEmpty = true then _ else _ :
        ConnectionWorkflow).probeCandidates[_]? = none
      rw [if_pos hempty]
      show (prepareProbeCandidates call.workflow).probeCandidates[_]? = none
      rw [hnone]
      rfl
    · rename_i hempty
      refine hprobe ?_ hok
      show (if call.workflow.probeCandidates.isEmpty = true then _ else _ :
        ConnectionWorkflow).probeCandidates[(if call.workflow.probeCandidates.isEmpty = true then _
          else _ : ConnectionWorkflow).candidateIndex]? = none
      rw [if_neg hempty]
      exact h
  · rw [← Outcome.ok.inj hok, fail_workflow]
  · cases hok

/-- A probe starts the next timer if there is a candidate left, and none otherwise. -/
theorem Probes.advances (h : Probes call call') (hnext : call.workflow.nextTimerId = w.nextTimerId)
    (hcancels : CancelsOnly w.Stored (timers call.effects))
    (hstored : ∀ timerId, call.workflow.Stored timerId → w.Stored timerId) :
    Still w call' ∨ Advances w call' ∧ call'.workflow.phase = .connecting ∧
      call.workflow.probeCandidates[call.workflow.candidateIndex]? ≠ none := by
  cases h with
  | @connection candidate hget =>
    obtain ⟨ids, heq⟩ := beginConnection_workflow call candidate true
    refine .inr ⟨advances_beginConnection hnext hcancels hstored, ?_, ?_⟩
    · rw [heq]
    · rw [hget]
      exact nofun
  | exhausted error => exact .inl (still_fail error hnext hcancels hstored)

theorem still_begin {w' : ConnectionWorkflow} (hnext : w'.nextTimerId = w.nextTimerId)
    (hscan : w'.scanTimerId = w.scanTimerId) (hattempt : w'.attemptTimerId = w.attemptTimerId) :
    Still w (.begin w' context) := by
  refine ⟨hnext, cancelsOnly_nil, fun timerId h => ?_⟩
  rw [Step.begin_workflow, Stored, hscan, hattempt] at h
  exact h

theorem recordCandidate_stored (candidate : DeviceCandidate) :
    (recordCandidate candidate w).nextTimerId = w.nextTimerId ∧
      (recordCandidate candidate w).scanTimerId = w.scanTimerId ∧
      (recordCandidate candidate w).attemptTimerId = w.attemptTimerId := by
  rw [recordCandidate]
  split
  · exact ⟨rfl, rfl, rfl⟩
  · exact ⟨rfl, rfl, rfl⟩

/-- The disconnection that probes on has a candidate to probe. -/
theorem afterDisconnect_of_connecting {id : RequestId} {event : BleEvent}
    (hphase : w.phase = .disconnecting) (hevent : Settles event)
    (hok : dispatch w ⟨id, .ble event⟩ context = .ok call)
    (hconnecting : call.workflow.phase = .connecting) : w.nextAttempt ⟨id, .ble event⟩ ≠ none := by
  intro hnone
  have hfinish (hafter : w.afterDisconnect = none)
      (hsettle : settleCall w context (finishDisconnect
        ((Step.begin w context).update fun w => { w with disconnectRequestId := none })) =
          .ok call) : False := by
    cases hfinish : finishDisconnect
        ((Step.begin w context).update fun w => { w with disconnectRequestId := none }) with
    | ok call' =>
      rw [hfinish] at hsettle
      obtain rfl := Reduction.ok_injective hsettle
      cases (finishDisconnect_ends hafter hfinish).symm.trans hconnecting
    | err error =>
      rw [hfinish] at hsettle
      cases congrArg Reduction.outcome hsettle
    | panicked =>
      rw [hfinish] at hsettle
      cases congrArg Reduction.outcome hsettle
  rw [dispatch, if_neg (fun h => by cases h.1)] at hok
  cases hevent with
  | disconnected peripheralId reasonCode =>
    simp only [dispatchPhase] at hok
    by_cases h : w.phase = .disconnecting ∧ some id = w.disconnectRequestId ∧
        w.isActive peripheralId = true
    · rw [if_pos h] at hok
      simp only [nextAttempt] at hnone
      rw [if_pos h] at hnone
      exact hfinish hnone hok
    · rw [if_neg h] at hok
      cases congrArg Reduction.outcome hok
  | failed platformCode =>
    simp only [dispatchPhase] at hok
    have hnot : ¬(w.phase = .connecting ∧ some id = w.connectRequestId ∧ w.mode = .reconnect) :=
      fun h => by cases h.1.symm.trans hphase
    by_cases hlate : w.phase = .disconnecting ∧
        (some id = w.connectRequestId ∨ some id = w.discoverRequestId ∨ some id = w.readRequestId)
    · rw [if_pos hlate] at hok
      obtain rfl := Reduction.ok_injective hok
      cases hconnecting.symm.trans hphase
    · have hother := fun h => hlate ⟨hphase, h⟩
      rw [if_neg hlate, if_neg (fun h => hother (.inl h)), if_neg (fun h => hother (.inr h))] at hok
      by_cases hid : some id = w.disconnectRequestId
      · rw [if_pos hid] at hok
        simp only [nextAttempt] at hnone
        rw [if_neg hnot, if_pos ⟨hphase, hid⟩] at hnone
        exact hfinish hnone hok
      · rw [if_neg hid] at hok
        cases congrArg Reduction.outcome hok

theorem head_ne_none {candidates : List DeviceCandidate} (h : candidates[0]? ≠ none) :
    candidates.head? ≠ none := by
  rwa [List.head?_eq_getElem?]

/-- A step starts a timer only where it has a candidate to try. -/
theorem Transition.advances (h : Transition w context event call)
    (hok : dispatch w event context = .ok call) :
    Still w call ∨ Advances w call ∧ w.nextAttempt event ≠ none := by
  cases h with
  | checkpointSaved | lateScanResult | lateScanTimer | late => exact .inl (still_begin rfl rfl rfl)
  | @recorded id candidate =>
    obtain ⟨hnext, hscan, hattempt⟩ := @recordCandidate_stored w candidate
    exact .inl (still_begin hnext hscan hattempt)
  | @selected id candidate =>
    obtain ⟨hnext, hscan, hattempt⟩ := @recordCandidate_stored w candidate
    refine .inl (still_stopScan hnext cancelsOnly_nil fun timerId hstored => ?_)
    rcases hstored with h | h
    · exact .inl (hscan.symm.trans h)
    · exact .inr (hattempt.symm.trans h)
  | scanTimedOut => exact .inl (still_stopScan rfl cancelsOnly_nil fun _ h => h)
  | @scanStopped id candidate hphase hid hactive =>
    refine .inr ⟨advances_beginConnection rfl cancelsOnly_nil ?_, ?_⟩
    · exact fun timerId h => h.elim (by rintro ⟨⟩) .inr
    · simp only [nextAttempt]
      rw [if_pos ⟨hphase, hid.symm⟩, hactive]
      rintro ⟨⟩
  | @scanEnded id call hphase hid hactive hprobes =>
    have hstored (timerId : Nat) (h : Stored { w with
        scanRequestId := none, scanTimerRequestId := none, scanTimerId := none
        stopScanRequestId := none } timerId) : w.Stored timerId := h.elim (by rintro ⟨⟩) .inr
    rcases hprobes.advances (w := w) rfl cancelsOnly_nil hstored with hstill | ⟨hadvances, -, hget⟩
    · exact .inl hstill
    · refine .inr ⟨hadvances, ?_⟩
      simp only [nextAttempt]
      rw [if_pos ⟨hphase, hid.symm⟩, hactive]
      exact head_ne_none hget
  | connected =>
    refine .inl ⟨?_, ?_, ?_⟩
    · rw [ConnectionWorkflow.connected, pushCheckpoint_workflow]
      rfl
    · rw [ConnectionWorkflow.connected, pushCheckpoint_timers, timers_request]
      exact cancelsOnly_nil
    · rw [ConnectionWorkflow.connected, pushCheckpoint_workflow]
      exact fun _ h => h
  | discovered =>
    refine .inl ⟨rfl, ?_, fun _ h => h⟩
    rw [timers_request]
    exact cancelsOnly_nil
  | verified _ _ _ _ _ hpersists =>
    obtain ⟨ids, heq⟩ := hpersists.workflow
    refine .inl ⟨?_, ?_, ?_⟩
    · rw [heq]
      rfl
    · rw [hpersists.timers]
      exact cancels_attempt
    · rw [heq]
      exact fun timerId h => h.elim .inl (by rintro ⟨⟩)
  | dropped _ _ _ _ _ hdrops =>
    obtain ⟨ids, heq⟩ := hdrops.workflow
    refine .inl ⟨?_, ?_, ?_⟩
    · rw [heq]
      rfl
    · rw [hdrops.timers]
      exact cancels_attempt
    · rw [heq]
      exact fun timerId h => h.elim .inl (by rintro ⟨⟩)
  | probesNext hphase hevent _ _ hprobes =>
    rcases hprobes.advances (w := w) rfl cancelsOnly_nil (fun _ h => h) with
      hstill | ⟨hadvances, hconnecting, -⟩
    · exact .inl hstill
    · exact .inr ⟨hadvances, afterDisconnect_of_connecting hphase hevent hok hconnecting⟩
  | disconnectFails => exact .inl (still_fail _ rfl cancelsOnly_nil fun _ h => h)
  | saved => exact .inl ⟨rfl, cancelsOnly_nil, fun _ h => h⟩
  | connectRetried hphase hid hmode hprobes =>
    have hcall := cancelAttemptTimer_workflow (.begin { w with connectRequestId := none } context)
    have hcancels : CancelsOnly w.Stored (timers (cancelAttemptTimer
        (.begin { w with connectRequestId := none } context)).effects) := by
      rw [cancelAttemptTimer_timers]
      exact cancels_attempt
    rcases hprobes.advances (w := w) (by rw [Step.update_workflow, hcall]; rfl) hcancels
        (by rw [Step.update_workflow, hcall]; exact fun timerId h => h.elim .inl (by rintro ⟨⟩)) with
      hstill | ⟨hadvances, -, hget⟩
    · exact .inl hstill
    · refine .inr ⟨hadvances, ?_⟩
      simp only [nextAttempt]
      rw [if_pos ⟨hphase, hid.symm, hmode⟩]
      rw [Step.update_workflow, hcall] at hget
      exact head_ne_none hget
  | connectFails => exact .inl (still_fail _ rfl cancelsOnly_nil fun _ h => h)

theorem Transition.fired_stored {id : RequestId} {timerId : Nat}
    (h : Transition w context ⟨id, .timerFired timerId⟩ call) : w.Stored timerId := by
  cases h with
  | scanTimedOut _ _ htimer => exact .inl htimer
  | lateScanTimer _ _ htimer => exact .inl htimer
  | dropped hgiven =>
    cases hgiven with
    | timeout _ _ htimer => exact .inr htimer

theorem stored_of_live {timer : RequestId × Nat} (h : timer ∈ live w) : w.Stored timer.2 := by
  by_cases hscan : w.phase = .scanning
  · rw [live_scanning hscan, mem_tracked] at h
    exact .inl h.2
  · by_cases hattempt : w.Attempting
    · rw [live_attempting hattempt, mem_tracked] at h
      exact .inr h.2
    · rw [live_idle hscan hattempt] at h
      exact absurd h List.not_mem_nil

theorem live_distinct : BotaSdk.Distinct (live w) := by
  have htracked (request : Option RequestId) (timer : Option Nat) :
      BotaSdk.Distinct (tracked request timer) := by
    cases request <;> cases timer <;> simp [tracked, BotaSdk.Distinct]
  rw [live]
  split
  · exact htracked _ _
  · split
    · exact htracked _ _
    · exact distinct_nil

/-- A cancellation ends the timers that are stored. -/
theorem cancel_cancels (w : ConnectionWorkflow) (context : WorkflowContext) :
    ∃ call : Call, cancel w context = .ok call ∧ CancelsOnly w.Stored (timers call.effects) := by
  have hattempt (call : Call) (candidate : Option DeviceCandidate) (hw : call.workflow = w)
      (hcall : CancelsOnly w.Stored (timers call.effects)) :
      CancelsOnly w.Stored (timers (letGo candidate call).effects) := by
    unfold letGo
    cases candidate with
    | none => exact hcall
    | some candidate =>
      rw [timers_request, cancelAttemptTimer_timers, List.append_nil, hw]
      exact hcall.append cancels_attempt
  refine ⟨_, cancel_eq w context, ?_⟩
  rw [timers_request, List.append_nil]
  refine hattempt _ _ ?_ ?_
  · unfold endScan
    split
    · cases h : w.scanTimerId <;> simp [h]
    · rfl
  · unfold endScan
    split
    · simp only [Step.request_workflow, Step.begin_workflow]
      cases h : w.scanTimerId with
      | none => simpa using cancelsOnly_nil
      | some timerId =>
        simp only [timers_request, Step.begin_effects, timers_nil, List.append_nil, List.nil_append]
        intro entry hmem
        rw [List.mem_singleton.mp hmem]
        exact ⟨timerId, rfl, .inl h⟩
    · exact cancelsOnly_nil

/-- The timers of a connection are numbered below those of the reconnection around it. -/
structure Numbered (w : ConnectionWorkflow) : Prop where
  next : w.nextTimerId ≤ RECONNECT_TIMEOUT_ID
  stored : ∀ timerId, w.Stored timerId → timerId < w.nextTimerId

theorem Numbered.stored_lt (h : Numbered w) {timerId : Nat} (hstored : w.Stored timerId) :
    timerId < RECONNECT_TIMEOUT_ID :=
  Nat.lt_of_lt_of_le (h.stored timerId hstored) h.next

theorem Still.numbered (h : Still w call) (hw : Numbered w) : Numbered call.workflow := by
  refine ⟨?_, fun timerId hstored => ?_⟩
  · rw [h.next]
    exact hw.next
  · rw [h.next]
    exact hw.stored timerId (h.stored timerId hstored)

theorem Advances.numbered (h : Advances w call) (hw : Numbered w)
    (hroom : w.nextTimerId ≠ RECONNECT_TIMEOUT_ID) : Numbered call.workflow := by
  have hlt : w.nextTimerId < RECONNECT_TIMEOUT_ID := Nat.lt_of_le_of_ne hw.next hroom
  have hnext : call.workflow.nextTimerId = w.nextTimerId + 1 := by
    rw [h.next, saturatingAdd]
    exact Nat.min_eq_left (Nat.le_trans hlt (by decide))
  refine ⟨?_, fun timerId hstored => ?_⟩
  · rw [hnext]
    exact hlt
  · rw [hnext]
    rcases h.stored timerId hstored with hold | rfl
    · exact Nat.lt_succ_of_lt (hw.stored timerId hold)
    · exact Nat.lt_succ_self _

end Numbers

end ConnectionWorkflow

namespace FirmwareUpdateWorkflow

open ConnectionWorkflow (tracked live mem_tracked stored_of_live live_distinct)

/-! ## The timers of an update -/

def nestedTimers (w : FirmwareUpdateWorkflow) : List (RequestId × Nat) :=
  match w.connection with
  | none => []
  | some connection => connection.live

/-- The timers that the update relies on. -/
def clock (w : FirmwareUpdateWorkflow) : List (RequestId × Nat) :=
  tracked w.reconnectTimerRequestId (some RECONNECT_TIMEOUT_ID) ++
    (tracked w.timerRequestId w.timerId ++ w.nestedTimers)

/-- Which timers an update relies on in its phase. -/
structure Timed (w : FirmwareUpdateWorkflow) : Prop where
  running : w.phase ≠ .completed ∧ w.phase ≠ .failed
  own : w.timerId = phaseTimer w.phase
  reconnect : w.reconnectTimerRequestId ≠ none →
    w.phase = .reconnecting ∨ w.phase = .waitingReconnectRetry
  connection : w.connection ≠ none ↔ w.phase = .reconnecting
  nested : ∀ connection, w.connection = some connection →
    connection.Formed ∧ connection.Timed ∧ connection.Numbered

/-- `pending` becomes what the update then relies on, and identifiers stay distinct. -/
structure Ticks (pending : List (RequestId × Nat)) (call : Call) : Prop where
  timed : Timed call.workflow
  clock : runTimers pending (timers call.effects) = clock call.workflow
  distinct : DistinctOver pending (timers call.effects)

/-- No timer is left but the update's own, and no connection. -/
structure Owned (pending : List (RequestId × Nat)) (call : Call) : Prop where
  own : ∀ timer ∈ runTimers pending (timers call.effects), call.workflow.timerId = some timer.2
  distinct : DistinctOver pending (timers call.effects)
  reconnect : call.workflow.reconnectTimerRequestId = none
  connection : call.workflow.connection = none

/-- The event makes the connection start a timer under the identifier that is taken. -/
def overruns (w : FirmwareUpdateWorkflow) (event : HostEvent) : Bool :=
  match w.connection with
  | none => false
  | some connection =>
    decide (connection.nextTimerId = RECONNECT_TIMEOUT_ID) && (connection.nextAttempt event).isSome

section Clock

variable {w w' : FirmwareUpdateWorkflow} {context : WorkflowContext} {call call' : Call}
  {event : HostEvent} {pending : List (RequestId × Nat)} {timer : RequestId × Nat}

theorem mem_clock : timer ∈ clock w ↔
    (w.reconnectTimerRequestId = some timer.1 ∧ timer.2 = RECONNECT_TIMEOUT_ID) ∨
      (w.timerRequestId = some timer.1 ∧ w.timerId = some timer.2) ∨
        ∃ connection, w.connection = some connection ∧ timer ∈ connection.live := by
  have hnested : timer ∈ w.nestedTimers ↔
      ∃ connection, w.connection = some connection ∧ timer ∈ connection.live := by
    cases h : w.connection <;> simp [nestedTimers, h]
  rw [clock, List.mem_append, List.mem_append, mem_tracked, mem_tracked, hnested,
    Option.some_inj, eq_comm (a := RECONNECT_TIMEOUT_ID)]

theorem clock_eq (hconnection : w.connection = none) :
    clock w = tracked w.reconnectTimerRequestId (some RECONNECT_TIMEOUT_ID) ++
      tracked w.timerRequestId w.timerId := by
  rw [clock, nestedTimers, hconnection, List.append_nil]

theorem tracked_none (request : Option RequestId) : tracked request none = [] := by
  cases request <;> rfl

theorem distinct_tracked_append {request : Option RequestId} {timerId : Nat}
    (h : Distinct pending) (hfresh : ∀ timer ∈ pending, timer.2 ≠ timerId) :
    Distinct (tracked request (some timerId) ++ pending) := by
  cases request with
  | none => exact h
  | some id =>
    refine List.nodup_cons.mpr ⟨fun hmem => ?_, h⟩
    obtain ⟨timer, htimer, heq⟩ := List.mem_map.mp hmem
    exact hfresh timer htimer heq

theorem Timed.connection_none (hw : Timed w) (h : w.phase ≠ .reconnecting) :
    w.connection = none := by
  by_contra hne
  exact h (hw.connection.mp hne)

theorem Timed.reconnect_none (hw : Timed w) (hreconnecting : w.phase ≠ .reconnecting)
    (hretry : w.phase ≠ .waitingReconnectRetry) : w.reconnectTimerRequestId = none := by
  by_contra hne
  exact (hw.reconnect hne).elim hreconnecting hretry

theorem Timed.live_lt {connection : ConnectionWorkflow} (hw : Timed w)
    (hconnection : w.connection = some connection) (h : timer ∈ connection.live) :
    timer.2 < RECONNECT_TIMEOUT_ID :=
  (hw.nested connection hconnection).2.2.stored_lt (stored_of_live h)

theorem Timed.clock_reconnecting (hw : Timed w) {connection : ConnectionWorkflow}
    (hconnection : w.connection = some connection) :
    clock w = tracked w.reconnectTimerRequestId (some RECONNECT_TIMEOUT_ID) ++ connection.live := by
  have hphase : w.phase = .reconnecting := hw.connection.mp (by rw [hconnection]; exact nofun)
  have hown : w.timerId = none := by
    rw [hw.own, hphase]
    rfl
  rw [clock, hown, tracked_none, nestedTimers, hconnection, List.nil_append]

theorem Timed.distinct (hw : Timed w) : Distinct (clock w) := by
  cases hconnection : w.connection with
  | some connection =>
    rw [hw.clock_reconnecting hconnection]
    exact distinct_tracked_append live_distinct
      fun timer hmem => Nat.ne_of_lt (hw.live_lt hconnection hmem)
  | none =>
    rw [clock_eq hconnection]
    have hone (request : Option RequestId) (timerId : Option Nat) :
        Distinct (tracked request timerId) := by
      cases request <;> cases timerId <;> simp [tracked, Distinct]
    refine distinct_tracked_append (hone _ _) fun timer hmem heq => ?_
    obtain ⟨-, htimer⟩ := mem_tracked.mp hmem
    rw [hw.own, heq] at htimer
    cases hphase : w.phase <;> rw [hphase] at htimer <;> cases htimer

theorem Timed.tick_clock (hw : Timed w) {id : RequestId} {timerId : Nat}
    (hnested : ∀ connection, w.connection = some connection → (id, timerId) ∉ connection.live)
    (hreconnect : ¬(timerId = RECONNECT_TIMEOUT_ID ∧ w.reconnectTimerRequestId = some id))
    (hown : ¬(phaseTimer w.phase = some timerId ∧ w.timerRequestId = some id)) :
    tick (clock w) (.accepted ⟨id, .timerFired timerId⟩) = clock w := by
  refine tick_accepted_of_not_mem fun fired hfired hmem => ?_
  obtain rfl : timerId = fired := HostEventKind.timerFired.inj hfired
  rcases mem_clock.mp hmem with ⟨hid, rfl⟩ | ⟨hid, htimer⟩ | ⟨connection, hsome, hlive⟩
  · exact hreconnect ⟨rfl, hid⟩
  · rw [hw.own] at htimer
    exact hown ⟨htimer, hid⟩
  · exact hnested connection hsome hlive

/-! ## Steps -/

/-- A step that leaves the timers alone. -/
theorem Timed.unchanged (hw : Timed w) (htick : tick (clock w) (.accepted event) = clock w)
    (hphase : w'.phase = w.phase) (htimerId : w'.timerId = w.timerId)
    (htimer : w'.timerRequestId = w.timerRequestId)
    (hreconnect : w'.reconnectTimerRequestId = w.reconnectTimerRequestId)
    (hconnection : w'.connection = w.connection) :
    Ticks (tick (clock w) (.accepted event)) (.begin w' context) := by
  rw [htick]
  refine ⟨⟨?_, ?_, ?_, ?_, ?_⟩, ?_, hw.distinct⟩
  · rw [Step.begin_workflow, hphase]
    exact hw.running
  · rw [Step.begin_workflow, hphase, htimerId]
    exact hw.own
  · rw [Step.begin_workflow, hphase, hreconnect]
    exact hw.reconnect
  · rw [Step.begin_workflow, hphase, hconnection]
    exact hw.connection
  · rw [Step.begin_workflow, hconnection]
    exact hw.nested
  · rw [Step.begin_workflow, clock, clock, nestedTimers, nestedTimers, hconnection, htimer,
      htimerId, hreconnect]
    rfl

theorem Timed.owned (hw : Timed w) (hreconnecting : w.phase ≠ .reconnecting)
    (hretry : w.phase ≠ .waitingReconnectRetry) (htimerId : w'.timerId = w.timerId)
    (hreconnect : w'.reconnectTimerRequestId = w.reconnectTimerRequestId)
    (hconnection : w'.connection = w.connection) :
    Owned (tick (clock w) (.accepted event)) (.begin w' context) := by
  have hnone := hw.connection_none hreconnecting
  have hreconnectNone := hw.reconnect_none hreconnecting hretry
  refine ⟨fun timer hmem => ?_, hw.distinct.tick_accepted event, hreconnect.trans hreconnectNone,
    hconnection.trans hnone⟩
  rw [Step.begin_workflow, htimerId]
  rcases mem_clock.mp (tick_subset timer hmem) with ⟨hid, -⟩ | ⟨-, htimer⟩ | ⟨connection, hsome, -⟩
  · exact nomatch hreconnectNone.symm.trans hid
  · exact htimer
  · exact nomatch hnone.symm.trans hsome

theorem Owned.congr (h : Owned pending call) (htimers : timers call'.effects = timers call.effects)
    (htimerId : call'.workflow.timerId = call.workflow.timerId)
    (hreconnect : call'.workflow.reconnectTimerRequestId = call.workflow.reconnectTimerRequestId)
    (hconnection : call'.workflow.connection = call.workflow.connection) : Owned pending call' := by
  refine ⟨?_, ?_, hreconnect.trans h.reconnect, hconnection.trans h.connection⟩
  · rw [htimers, htimerId]
    exact h.own
  · rw [htimers]
    exact h.distinct

theorem Owned.runTimers_nil (h : Owned pending call) (htimerId : call.workflow.timerId = none) :
    runTimers pending (timers call.effects) = [] := by
  refine List.eq_nil_iff_forall_not_mem.mpr fun timer hmem => ?_
  exact nomatch htimerId.symm.trans (h.own timer hmem)

theorem cancelsOnly_own {n : RequestId} : CancelsOnly (fun _ => True) (ownCancel n w) := by
  intro entry hmem
  rw [ownCancel] at hmem
  split at hmem
  · exact absurd hmem List.not_mem_nil
  · rename_i timerId _
    exact ⟨timerId, by rw [List.mem_singleton.mp hmem], trivial⟩

theorem cancelsOnly_reconnect {n : RequestId} :
    CancelsOnly (fun _ => True) (reconnectCancel n w) := by
  intro entry hmem
  rw [reconnectCancel] at hmem
  split at hmem
  · exact absurd hmem List.not_mem_nil
  · exact ⟨RECONNECT_TIMEOUT_ID, by rw [List.mem_singleton.mp hmem], trivial⟩

theorem cancelsOnly_both {n : RequestId} : CancelsOnly (fun _ => True) (bothCancels n w) :=
  cancelsOnly_own.append cancelsOnly_reconnect

/-- Cancelling its timer leaves an update none. -/
theorem Owned.cancelled (h : Owned pending call) : Owned pending (cancelTimer call) := by
  refine ⟨fun timer hmem => ?_, ?_, ?_, ?_⟩
  · exfalso
    rw [cancelTimer_timers, runTimers_append, ownCancel] at hmem
    cases htimerId : call.workflow.timerId with
    | none =>
      rw [htimerId, h.runTimers_nil htimerId] at hmem
      exact absurd hmem List.not_mem_nil
    | some timerId =>
      rw [htimerId] at hmem
      have hfilter := List.mem_filter.mp hmem
      have htimer := (h.own timer hfilter.1).symm.trans htimerId
      exact of_decide_eq_true hfilter.2 (Option.some.inj htimer)
  · rw [cancelTimer_timers]
    exact h.distinct.cancels cancelsOnly_own
  · rw [cancelTimer_workflow]
    exact h.reconnect
  · rw [cancelTimer_workflow]
    exact h.connection

theorem Owned.ticks (phase : FirmwareUpdate.Phase) (h : Owned pending call)
    (htimerId : call.workflow.timerId = none) (hphase : call.workflow.phase = phase)
    (hidle : phaseTimer phase = none ∧ phase ≠ .completed ∧ phase ≠ .failed ∧
      phase ≠ .reconnecting) : Ticks pending call := by
  subst hphase
  obtain ⟨htimer, hcompleted, hfailed, hreconnecting⟩ := hidle
  refine ⟨⟨⟨hcompleted, hfailed⟩, htimerId.trans htimer.symm, fun hne => absurd h.reconnect hne,
    ⟨fun hne => absurd h.connection hne, fun heq => absurd heq hreconnecting⟩,
    fun connection hsome => nomatch h.connection.symm.trans hsome⟩, ?_, h.distinct⟩
  rw [h.runTimers_nil htimerId, clock_eq h.connection, h.reconnect, htimerId, tracked_none]
  rfl

theorem Owned.scheduled (h : Owned pending call) (htimerId : call.workflow.timerId = none)
    {timerId : Nat} (delayMs : Nat) (hphase : phaseTimer call.workflow.phase = some timerId) :
    Ticks pending (scheduleTimer timerId delayMs call) := by
  have hnil := h.runTimers_nil htimerId
  refine ⟨⟨?_, hphase.symm, fun hne => absurd h.reconnect hne,
    ⟨fun hne => absurd h.connection hne, fun heq => ?_⟩,
    fun connection hsome => nomatch h.connection.symm.trans hsome⟩, ?_, ?_⟩
  · rw [scheduleTimer_workflow]
    constructor <;> intro heq <;> rw [heq] at hphase <;> exact nomatch hphase
  · rw [show call.workflow.phase = .reconnecting from heq] at hphase
    exact nomatch hphase
  · have hconnection : (scheduleTimer timerId delayMs call).workflow.connection = none :=
      h.connection
    rw [scheduleTimer_timers, runTimers_append, hnil, clock_eq hconnection]
    show _ = tracked call.workflow.reconnectTimerRequestId _ ++ _
    rw [h.reconnect]
    rfl
  · rw [scheduleTimer_timers]
    refine h.distinct.schedule ?_
    rw [hnil]
    exact fun _ hmem => absurd hmem List.not_mem_nil

theorem Owned.readsNext (h : Owned pending call) (htimerId : call.workflow.timerId = none) :
    Ticks pending (readNextOrVerify call) := by
  have htimers := readNextOrVerify_timers call
  rcases readNextOrVerify_cases call with ⟨-, hverify⟩ | ⟨-, hread, -⟩
  · rw [hverify] at htimers ⊢
    exact (h.congr htimers rfl rfl rfl).ticks .verifying htimerId rfl (by decide)
  · have hkept : Owned pending (readNextOrVerify call) := by
      refine h.congr htimers ?_ ?_ ?_
      all_goals rw [hread]
    exact hkept.ticks .readingChunk (by rw [hread]; exact htimerId) (by rw [hread]) (by decide)

theorem cancelTimer_timerId : (cancelTimer call).workflow.timerId = none := by
  rw [cancelTimer_workflow]

theorem Owned.transfers (h : Owned pending call) : Ticks pending (beginTransfer call) := by
  have hreset : Owned pending (call.update fun w =>
      { w with
        offset := 0, nextSequence := 0, pendingChunkUnits := 0, latestAck := none
        waitingAck := none }) := h.congr rfl rfl rfl rfl
  exact hreset.cancelled.readsNext cancelTimer_timerId

theorem Owned.reboots (h : Owned pending call) : Ticks pending (beginReboot call) := by
  have hphase : Owned pending (call.update fun w => { w with phase := .awaitingReboot }) :=
    h.congr rfl rfl rfl rfl
  show Ticks pending (scheduleTimer REBOOT_TIMEOUT_ID REBOOT_TIMEOUT_MS (progress _ _ _
    (cancelTimer _)))
  refine (hphase.cancelled.congr (progress_timers ..) rfl rfl rfl).scheduled cancelTimer_timerId _ ?_
  rw [progress_workflow, cancelTimer_workflow]
  rfl

/-- The timer requests of the connection all reach the host. -/
theorem timers_filter (effects : List EffectRequest) :
    timers (filterConnectionEffects effects) = timers effects := by
  induction effects with
  | nil => rfl
  | cons request effects ih =>
    have hcons (kept : List EffectRequest) :
        timers (request :: kept) = timers [request] ++ timers kept := timers_append [request] kept
    rw [hcons, ← ih, filterConnectionEffects, List.filter_cons]
    cases hinternal : isConnectionInternal request.effect
    · exact hcons _
    · have hnone : timers [request] = [] := by
        cases heffect : request.effect
        case timer =>
          rw [heffect] at hinternal
          exact absurd hinternal (by simp [isConnectionInternal])
        all_goals simp [timers, heffect]
      rw [hnone]
      rfl

theorem adopt_timers (step : Step ConnectionWorkflow) :
    timers (adopt (.ok step) call).effects = timers call.effects ++ timers step.effects := by
  show timers (call.effects ++ filterConnectionEffects step.effects) = _
  rw [timers_append, timers_filter]

/-- A new attempt starts from the timer of the reconnection alone. -/
theorem ticks_startReconnectAttempt
    (hpending : runTimers pending (timers call.effects) =
      tracked call.workflow.reconnectTimerRequestId (some RECONNECT_TIMEOUT_ID))
    (hdistinct : DistinctOver pending (timers call.effects))
    (htimerId : call.workflow.timerId = none) : Ticks pending (startReconnectAttempt call) := by
  obtain ⟨begun, hbegun⟩ : ∃ begun : ConnectionWorkflow.Call, begun =
      (Step.begin (ConnectionWorkflow.reconnect call.workflow.device call.workflow.reconnectHint
        call.workflow.cancellationId) call.context).request (.notify (.started .reconnect)) :=
    ⟨_, rfl⟩
  have hstart : startReconnectAttempt call =
      adopt (.ok (ConnectionWorkflow.beginScan begun))
        (call.update fun w => { w with phase := .reconnecting }) := by
    rw [hbegun]
    rfl
  have hnext : begun.workflow.nextTimerId = 1 := by rw [hbegun]; rfl
  have hnone : begun.workflow.attemptTimerId = none := by rw [hbegun]; rfl
  have hempty : timers begun.effects = [] := by rw [hbegun]; rfl
  have hkeeps := ConnectionWorkflow.keeps_beginScan hempty
  have hformed : (ConnectionWorkflow.beginScan begun).workflow.Formed := by
    rw [hbegun]
    exact ConnectionWorkflow.formed_reconnect ..
  -- the scan of the new connection has timer 1, which the reconnection's does not clash with
  obtain ⟨delayMs, htimers⟩ := ConnectionWorkflow.beginScan_timers begun
  obtain ⟨ids, hworkflow⟩ := ConnectionWorkflow.beginScan_workflow begun
  have hsecond : (ConnectionWorkflow.beginScan begun).workflow.nextTimerId = 2 := by
    rw [hworkflow]
    show saturatingAdd begun.workflow.nextTimerId 1 = 2
    rw [hnext]
    rfl
  have hlive : live (ConnectionWorkflow.beginScan begun).workflow =
      [(begun.context.advance.nextRequestId, 1)] := by
    rw [← hkeeps.live, htimers, hempty, hnext]
    rfl
  rw [hstart]
  refine ⟨⟨⟨nofun, nofun⟩, htimerId, fun _ => .inl rfl, ⟨fun _ => rfl, fun _ => nofun⟩, ?_⟩, ?_, ?_⟩
  · rintro connection hsome
    obtain rfl := Option.some.inj hsome
    refine ⟨hformed, hkeeps.timed, ?_, fun timerId hstored => ?_⟩
    · rw [Reduction.ok_workflow, hsecond]
      decide
    · rw [Reduction.ok_workflow, hsecond]
      rw [Reduction.ok_workflow, hworkflow] at hstored
      rcases hstored with hscan | hattempt
      · rw [← Option.some.inj hscan, hnext]
        decide
      · exact nomatch hnone.symm.trans hattempt
  · rw [adopt_timers, runTimers_append, Step.update_effects, hpending, htimers, hempty, hnext]
    show _ = tracked call.workflow.reconnectTimerRequestId _ ++
      (tracked call.workflow.timerRequestId call.workflow.timerId ++
        live (ConnectionWorkflow.beginScan begun).workflow)
    rw [htimerId, tracked_none, hlive]
    rfl
  · rw [adopt_timers, Step.update_effects, htimers, hempty, hnext, List.nil_append]
    refine hdistinct.schedule fun timer hmem heq => ?_
    rw [hpending, mem_tracked] at hmem
    exact absurd ((Option.some.inj hmem.2).trans heq) (by decide)

theorem Owned.reconnects (h : Owned pending call) (htimerId : call.workflow.timerId = none) :
    Ticks pending (beginReconnect call) := by
  have htimers (total : Nat) : timers ((checkpoint .reconnecting (progress .reconnecting total total
      call)).request (.timer (.schedule RECONNECT_TIMEOUT_ID RECONNECT_TIMEOUT_MS))
      fun id w => { w with reconnectTimerRequestId := some id }).effects =
        timers call.effects ++ [(call.context.advance.advance.nextRequestId,
          .schedule RECONNECT_TIMEOUT_ID RECONNECT_TIMEOUT_MS)] := by
    rw [timers_request, checkpoint_timers, progress_timers]
    rfl
  have hnil := h.runTimers_nil htimerId
  refine ticks_startReconnectAttempt ?_ ?_ htimerId
  · rw [htimers, runTimers_append, hnil]
    rfl
  · rw [htimers]
    refine h.distinct.schedule ?_
    rw [hnil]
    exact fun _ hmem => absurd hmem List.not_mem_nil

section Nested

variable {connection : ConnectionWorkflow} {step : Step ConnectionWorkflow}

theorem overruns_iff (hconnection : w.connection = some connection) :
    w.overruns event = true ↔
      connection.nextTimerId = RECONNECT_TIMEOUT_ID ∧ connection.nextAttempt event ≠ none := by
  simp only [overruns, hconnection, Bool.and_eq_true, decide_eq_true_eq, Option.isSome_iff_ne_none]

/-- The timer of the reconnection stays in front of those of the connection. -/
theorem NestedStep.tick (h : NestedStep w context event connection step) (hw : Timed w) :
    tick (clock w) (.accepted event) =
      tracked w.reconnectTimerRequestId (some RECONNECT_TIMEOUT_ID) ++
        tick connection.live (.accepted event) := by
  rw [hw.clock_reconnecting h.active]
  obtain ⟨id, kind⟩ := event
  cases kind
  case timerFired timerId =>
    have hlt := (hw.nested connection h.active).2.2.stored_lt h.transition.fired_stored
    have hkept : (tracked w.reconnectTimerRequestId (some RECONNECT_TIMEOUT_ID)).filter
        (fun timer => timer ≠ (id, timerId)) =
          tracked w.reconnectTimerRequestId (some RECONNECT_TIMEOUT_ID) := by
      refine List.filter_eq_self.mpr fun timer hmem => decide_eq_true fun heq => ?_
      subst heq
      have hid := Option.some.inj (mem_tracked.mp hmem).2
      exact absurd hid.symm (Nat.ne_of_lt hlt)
    show List.filter _ _ = _
    rw [List.filter_append, hkept]
    rfl
  all_goals rfl

/-- A step of the connection keeps its timers apart from that of the reconnection. -/
theorem NestedStep.keeps_timers (h : NestedStep w context event connection step) (hw : Timed w)
    (hroom : ¬w.overruns event = true) :
    step.workflow.Timed ∧ step.workflow.Numbered ∧
      runTimers (BotaSdk.tick (clock w) (.accepted event)) (timers step.effects) =
        tracked w.reconnectTimerRequestId (some RECONNECT_TIMEOUT_ID) ++ live step.workflow ∧
      DistinctOver (BotaSdk.tick (clock w) (.accepted event)) (timers step.effects) := by
  obtain ⟨hformed, htimed, hnumbered⟩ := hw.nested connection h.active
  have hkeeps := h.transition.keeps_timers htimed
  have hdistinct := hw.distinct.tick_accepted event
  rw [overruns_iff h.active, not_and, not_not] at hroom
  have hreconnect {timer : RequestId × Nat}
      (hmem : timer ∈ tracked w.reconnectTimerRequestId (some RECONNECT_TIMEOUT_ID)) :
      timer.2 = RECONNECT_TIMEOUT_ID := (Option.some.inj (mem_tracked.mp hmem).2).symm
  have hcancel {effects : List (RequestId × TimerEffect)}
      (heffects : CancelsOnly connection.Stored effects) :
      ∀ entry ∈ effects, ∀ timerId, entry.2 = .cancel timerId →
        ∀ timer ∈ tracked w.reconnectTimerRequestId (some RECONNECT_TIMEOUT_ID),
          timer.2 ≠ timerId := by
    intro entry hentry timerId htimer timer hmem heq
    obtain ⟨stored, hstored, hlt⟩ := heffects entry hentry
    obtain rfl := TimerEffect.cancel.inj (htimer.symm.trans hstored)
    exact absurd ((hreconnect hmem).symm.trans heq) (Nat.ne_of_gt (hnumbered.stored_lt hlt))
  rcases h.transition.advances h.dispatched with hstill | ⟨hadvances, hattempt⟩
  · refine ⟨hkeeps.timed, hstill.numbered hnumbered, ?_, distinctOver_cancels hdistinct
      hstill.cancels⟩
    rw [h.tick hw, runTimers_kept (hcancel hstill.cancels), hkeeps.live]
  · -- the next timer is still below that of the reconnection
    have hbelow : connection.nextTimerId ≠ RECONNECT_TIMEOUT_ID :=
      fun heq => hattempt (hroom heq)
    obtain ⟨cancels, id, delayMs, htimers, hcancels⟩ := hadvances.starts
    refine ⟨hkeeps.timed, hadvances.numbered hnumbered hbelow, ?_, ?_⟩
    · rw [h.tick hw, runTimers_kept ?_, hkeeps.live]
      intro entry hentry timerId htimer
      rw [htimers] at hentry
      rcases List.mem_append.mp hentry with hentry | hentry
      · exact hcancel hcancels entry hentry timerId htimer
      · rw [List.mem_singleton.mp hentry] at htimer
        exact nomatch htimer
    · rw [htimers]
      refine (distinctOver_cancels hdistinct hcancels).schedule fun timer hmem heq => ?_
      have hpending := tick_subset timer (hcancels.subset timer hmem)
      rw [hw.clock_reconnecting h.active] at hpending
      rcases List.mem_append.mp hpending with hmem | hmem
      · exact hbelow (heq.symm.trans (hreconnect hmem))
      · exact absurd heq (Nat.ne_of_lt (hnumbered.stored _ (stored_of_live hmem)))

end Nested

theorem Timed.terminalStatus (hw : Timed w) : w.terminalStatus = .ok none :=
  running_terminalStatus hw.running

theorem distinct_fail (h : DistinctOver pending (timers call.effects)) (error : DeviceSdkError) :
    DistinctOver pending (timers (fail error call).effects) := by
  rw [fail_timers]
  exact h.cancels cancelsOnly_both

theorem distinct_cancelConnection (h : DistinctOver pending (timers call.effects)) :
    DistinctOver pending (timers (cancelConnection call).effects) := by
  rw [cancelConnection]
  split
  · exact h
  · rename_i connection _
    obtain ⟨step, hstep, hcancels⟩ := ConnectionWorkflow.cancel_cancels connection call.context
    rw [hstep, adopt_timers]
    exact h.cancels hcancels

theorem live_completed {connection : ConnectionWorkflow}
    (h : (∃ operation, connection.terminalStatus = .ok (some (.completed operation))) ∨
      ∃ error, connection.terminalStatus = .ok (some (.failed error))) : connection.live = [] := by
  have hphase : connection.phase = .completed ∨ connection.phase = .failed := by
    cases hcase : connection.phase
    case completed => exact .inl rfl
    case failed => exact .inr rfl
    all_goals
      rcases h with ⟨operation, h⟩ | ⟨error, h⟩ <;> rw [ConnectionWorkflow.terminalStatus, hcase] at h <;>
        cases h
  refine ConnectionWorkflow.live_idle ?_ (ConnectionWorkflow.not_attempting ?_)
  · rcases hphase with hphase | hphase <;> rw [hphase] <;> decide
  · rcases hphase with hphase | hphase <;> rw [hphase] <;> decide

theorem readVersion_owned (h : Owned pending call) (htimerId : call.workflow.timerId = none) :
    Ticks pending (readVersion call) :=
  (h.congr (readVersion_timers call) rfl rfl rfl).ticks .readingVersion htimerId rfl (by decide)

/-- What a step leaves of the timers: those that the update relies on, or an ended update. -/
def Kept (pending : List (RequestId × Nat)) (call : Call) : Prop :=
  Ticks pending call ∨ Ended call.workflow ∧ DistinctOver pending (timers call.effects)

theorem checkpointLoaded_ticks (checkpoint : Option WorkflowCheckpoint) (h : Owned pending call)
    (htimerId : call.workflow.timerId = none) :
    Ticks pending (checkpointLoaded checkpoint call) := by
  have hdownload {call : Call} (h : Owned pending call) (htimerId : call.workflow.timerId = none) :
      Ticks pending (beginDownload call) :=
    (h.congr (beginDownload_timers call) rfl rfl rfl).ticks .downloading htimerId rfl (by decide)
  have hsubscribe {call : Call} (h : Owned pending call) (htimerId : call.workflow.timerId = none) :
      Ticks pending (subscribe call) :=
    (h.congr (subscribe_timers call) rfl rfl rfl).ticks .subscribing htimerId rfl (by decide)
  rw [checkpointLoaded]
  split
  · exact hdownload (h.congr rfl rfl rfl rfl) htimerId
  · split
    · exact Owned.reconnects (h.congr rfl rfl rfl rfl) htimerId
    · exact hsubscribe (h.congr rfl rfl rfl rfl) htimerId
    · exact hsubscribe (h.congr rfl rfl rfl rfl) htimerId
    · exact hdownload (h.congr rfl rfl rfl rfl) htimerId

theorem Owned.awaitsAck (h : Owned pending call) (htimerId : call.workflow.timerId = none)
    (sequence : Nat) : Ticks pending (waitForAck sequence call) := by
  have hphase : Owned pending (call.update fun w =>
      { w with phase := .waitingAck, waitingAck := some sequence }) := h.congr rfl rfl rfl rfl
  exact hphase.scheduled htimerId _ rfl

theorem chunkWritten_ticks (h : Owned pending call) (htimerId : call.workflow.timerId = none) :
    Ticks pending (chunkWritten call) := by
  have hnext {call' : Call} (htimers : timers call'.effects = timers call.effects)
      (htimer : call'.workflow.timerId = call.workflow.timerId)
      (hreconnect : call'.workflow.reconnectTimerRequestId = call.workflow.reconnectTimerRequestId)
      (hconnection : call'.workflow.connection = call.workflow.connection) :
      Ticks pending (readNextOrVerify call') :=
    (h.congr htimers htimer hreconnect hconnection).readsNext (htimer.trans htimerId)
  have hwait {call' : Call} (sequence : Nat) (htimers : timers call'.effects = timers call.effects)
      (htimer : call'.workflow.timerId = call.workflow.timerId)
      (hreconnect : call'.workflow.reconnectTimerRequestId = call.workflow.reconnectTimerRequestId)
      (hconnection : call'.workflow.connection = call.workflow.connection) :
      Ticks pending (waitForAck sequence call') :=
    (h.congr htimers htimer hreconnect hconnection).awaitsAck (htimer.trans htimerId) sequence
  rw [chunkWritten]
  split
  · split
    · refine hnext ?_ rfl rfl rfl
      rw [progress_timers, checkpoint_timers]
      rfl
    · refine hwait _ ?_ rfl rfl rfl
      rw [progress_timers, checkpoint_timers]
      rfl
  · refine hnext ?_ rfl rfl rfl
    rw [progress_timers, checkpoint_timers]
    rfl

/-- The next attempt waits for its own timer, beside that of the reconnection. -/
theorem ticks_waitRetry
    (hpending : runTimers pending (timers call.effects) =
      tracked call.workflow.reconnectTimerRequestId (some RECONNECT_TIMEOUT_ID))
    (hdistinct : DistinctOver pending (timers call.effects))
    (hphase : call.workflow.phase = .waitingReconnectRetry)
    (hconnection : call.workflow.connection = none) :
    Ticks pending (scheduleTimer RECONNECT_RETRY_ID RECONNECT_RETRY_MS call) := by
  refine ⟨?_, ?_, ?_⟩
  · rw [scheduleTimer_workflow]
    refine ⟨?_, ?_, fun _ => .inr hphase, ⟨fun hne => absurd hconnection hne, fun heq => ?_⟩,
      fun connection hsome => nomatch hconnection.symm.trans hsome⟩
    · rw [hphase]
      decide
    · rw [hphase]
      rfl
    · exact nomatch hphase.symm.trans heq
  · have hnone : (scheduleTimer RECONNECT_RETRY_ID RECONNECT_RETRY_MS call).workflow.connection =
        none := hconnection
    rw [scheduleTimer_timers, runTimers_append, hpending, clock_eq hnone]
    rfl
  · rw [scheduleTimer_timers]
    refine hdistinct.schedule fun timer hmem heq => ?_
    rw [hpending, mem_tracked] at hmem
    exact absurd ((Option.some.inj hmem.2).trans heq) (by decide)

theorem rebooted_ticks (h : Owned pending call) :
    Ticks pending (beginReconnect (unsubscribe (cancelTimer call))) := by
  have hunsubscribed : Owned pending (unsubscribe (cancelTimer call)) := by
    refine h.cancelled.congr (unsubscribe_timers _) ?_ ?_ ?_
    all_goals rw [unsubscribe_workflow]
  refine hunsubscribed.reconnects ?_
  rw [unsubscribe_workflow]
  exact cancelTimer_timerId

theorem downloadCompleted_ticks (crc32 : Nat) (h : Owned pending call)
    (htimerId : call.workflow.timerId = none) : Ticks pending (downloadCompleted crc32 call) := by
  refine Owned.ticks .subscribing (h.congr ?_ rfl rfl rfl) htimerId rfl (by decide)
  rw [downloadCompleted, subscribe_timers, checkpoint_timers]
  rfl

theorem startWritten_ticks (h : Owned pending call) (htimerId : call.workflow.timerId = none) :
    Ticks pending (startWritten call) := by
  rw [startWritten]
  split
  · exact Owned.transfers (h.congr rfl rfl rfl rfl)
  · have hphase : Owned pending ((call.update fun w => { w with writeRequestId := none }).update
        fun w => { w with phase := .awaitingReady }) := h.congr rfl rfl rfl rfl
    exact hphase.scheduled htimerId _ rfl

theorem verifyWritten_ticks (h : Owned pending call) (htimerId : call.workflow.timerId = none) :
    Ticks pending (verifyWritten call) := by
  rw [verifyWritten]
  split
  · exact Owned.reboots (h.congr rfl rfl rfl rfl)
  · have hphase : Owned pending ((call.update fun w => { w with writeRequestId := none }).update
        fun w => { w with phase := .awaitingVerify }) := h.congr rfl rfl rfl rfl
    exact hphase.scheduled htimerId _ rfl

/-- The timer of the reconnection is left once the retry's has fired. -/
theorem Timed.retry_fired (hw : Timed w) (hphase : w.phase = .waitingReconnectRetry) {id n : RequestId}
    (hid : w.timerRequestId = some id) :
    runTimers (tick (clock w) (.accepted ⟨id, .timerFired RECONNECT_RETRY_ID⟩)) (ownCancel n w) =
      tracked w.reconnectTimerRequestId (some RECONNECT_TIMEOUT_ID) := by
  have htimerId : w.timerId = some RECONNECT_RETRY_ID := by
    rw [hw.own, hphase]
    rfl
  have hnone := hw.connection_none (by rw [hphase]; decide)
  rw [clock_eq hnone, hid, htimerId, ownCancel, htimerId]
  cases w.reconnectTimerRequestId with
  | none => simp [tracked, tick]
  | some other => simp [tracked, tick, RECONNECT_TIMEOUT_ID, RECONNECT_RETRY_ID]

/-- Every step keeps the timers of the host in step with those of the update. -/
theorem Transition.kept (h : Transition w context event call) (hw : Timed w)
    (hroom : ¬w.overruns event = true) :
    Kept (tick (clock w) (.accepted event)) call := by
  have hdistinct := hw.distinct.tick_accepted event
  have hfail {call : Call} (error : DeviceSdkError)
      (h : DistinctOver (tick (clock w) (.accepted event)) (timers call.effects)) :
      Kept (tick (clock w) (.accepted event)) (fail error call) :=
    .inr ⟨ended_fail error, distinct_fail h error⟩
  have hidle {phase : FirmwareUpdate.Phase} (hphase : w.phase = phase)
      (hnone : phaseTimer phase = none) : w.timerId = none := by
    rw [hw.own, hphase, hnone]
  have howned {phase : FirmwareUpdate.Phase} (hphase : w.phase = phase)
      (hother : phase ≠ .reconnecting ∧ phase ≠ .waitingReconnectRetry) :
      Owned (tick (clock w) (.accepted event)) (.begin w context) := by
    subst hphase
    exact hw.owned hother.1 hother.2 rfl rfl rfl
  -- the host has three timers at most: of the phase, of the reconnection and of the connection
  cases h with
  | checkpointSaved => exact .inl (hw.unchanged rfl rfl rfl rfl rfl rfl)
  | @responseIgnored id hignored =>
    refine .inl (hw.unchanged (hw.tick_clock ?_ ?_ hignored) rfl rfl rfl rfl rfl)
    · exact fun connection hsome hlive => absurd (hw.live_lt hsome hlive)
        (by simp [RESPONSE_TIMEOUT_ID, RECONNECT_TIMEOUT_ID])
    · exact fun heq => absurd heq.1 (by decide)
  | retryIgnored hphase htimeout hretry =>
    have hnone := hw.connection_none (by rw [hphase]; decide)
    refine .inl (hw.unchanged ?_ rfl rfl rfl rfl rfl)
    refine tick_accepted_of_not_mem fun timerId hkind hmem => ?_
    rcases mem_clock.mp hmem with ⟨hid, rfl⟩ | ⟨hid, htimer⟩ | ⟨connection, hsome, -⟩
    · exact htimeout ⟨hkind, hid.symm⟩
    · rw [hw.own, hphase] at htimer
      obtain rfl := Option.some.inj htimer
      exact hretry ⟨hkind, hid.symm⟩
    · exact nomatch hnone.symm.trans hsome
  | failed error hreconnecting hretry => exact hfail error hdistinct
  | reconnectTimedOut error => exact hfail error (distinct_cancelConnection hdistinct)
  | @retried id hphase hid =>
    refine .inl (ticks_startReconnectAttempt ?_ ?_ cancelTimer_timerId)
    · rw [cancelTimer_timers, cancelTimer_workflow]
      exact hw.retry_fired hphase hid
    · rw [cancelTimer_timers]
      exact distinctOver_cancels hdistinct cancelsOnly_own
  | @connectionRuns event connection step hnested hrunning =>
    obtain ⟨htimed, hnumbered, hrun, hover⟩ := hnested.keeps_timers hw hroom
    have hphase := hnested.reconnecting
    have hnone := hidle hphase rfl
    have hformed : step.workflow.Formed := by
      rcases hnested.transition.keeps (hw.nested connection hnested.active).1 with
        hformed | ⟨status, hended⟩
      · exact hformed
      · exact nomatch hrunning.symm.trans hended
    refine .inl ⟨⟨hw.running, hw.own, hw.reconnect, ⟨fun _ => hphase, fun _ => nofun⟩, ?_⟩, ?_, ?_⟩
    · rintro other hsome
      obtain rfl := Option.some.inj hsome
      exact ⟨hformed, htimed, hnumbered⟩
    · rw [adopt_timers, Step.begin_effects, timers_nil, List.nil_append, hrun]
      show _ = tracked w.reconnectTimerRequestId _ ++
        (tracked w.timerRequestId w.timerId ++ live step.workflow)
      rw [hnone, tracked_none, List.nil_append]
    · rw [adopt_timers]
      exact hover
  | @connectionCompletes event connection step operation hnested hcompleted =>
    -- the connection leaves no timer, and the update cancels the reconnection's
    obtain ⟨-, -, hrun, hover⟩ := hnested.keeps_timers hw hroom
    have hnone := hidle hnested.reconnecting rfl
    rw [live_completed (.inl ⟨operation, hcompleted⟩), List.append_nil] at hrun
    refine .inl (readVersion_owned ⟨fun timer hmem => ?_, ?_, ?_, ?_⟩ ?_)
    · exfalso
      rw [cancelReconnectTimer_timers, runTimers_append] at hmem
      have hadopted := @adopt_timers (.begin w context) step
      rw [disconnected, Step.update_effects, hadopted, Step.begin_effects, timers_nil,
        List.nil_append, hrun] at hmem
      change timer ∈ runTimers _ (reconnectCancel _ { w with connection := none }) at hmem
      rw [reconnectCancel] at hmem
      cases hreconnect : w.reconnectTimerRequestId with
      | none =>
        rw [hreconnect] at hmem
        exact absurd hmem List.not_mem_nil
      | some id =>
        rw [hreconnect] at hmem
        simp [tracked] at hmem
    · rw [cancelReconnectTimer_timers, disconnected, Step.update_effects, adopt_timers]
      exact hover.cancels cancelsOnly_reconnect
    · rw [cancelReconnectTimer_workflow]
    · rw [cancelReconnectTimer_workflow]
      rfl
    · rw [cancelReconnectTimer_workflow]
      exact hnone
  | @connectionRetries event connection step error hnested hended =>
    obtain ⟨-, -, hrun, hover⟩ := hnested.keeps_timers hw hroom
    rw [live_completed (.inr ⟨error, hended⟩), List.append_nil] at hrun
    have htimers := @adopt_timers (.begin w context) step
    rw [Step.begin_effects, timers_nil, List.nil_append] at htimers
    refine .inl (ticks_waitRetry ?_ ?_ rfl rfl)
    · rw [Step.update_effects, htimers, hrun]
      rfl
    · rw [Step.update_effects, htimers]
      exact hover
  | connectionFails => exact hfail _ hdistinct
  | readyRecorded | ackRecorded | verifyRecorded | statusIgnored =>
    exact .inl (hw.unchanged rfl rfl rfl rfl rfl rfl)
  | transferBegins hphase => exact .inl (howned hphase (by decide)).transfers
  | ackAwaited hphase =>
    refine .inl (Owned.readsNext (Owned.cancelled ?_) cancelTimer_timerId)
    exact hw.owned (by rw [hphase]; decide) (by rw [hphase]; decide) rfl rfl rfl
  | rebootBegins hphase => exact .inl (howned hphase (by decide)).reboots
  | rebooted hphase => exact .inl (rebooted_ticks (howned hphase (by decide)))
  | checkpointLoaded checkpoint hphase =>
    exact .inl (checkpointLoaded_ticks checkpoint (howned hphase (by decide)) (hidle hphase rfl))
  | downloadProgressed hphase =>
    exact .inl (Owned.ticks .downloading ((howned hphase (by decide)).congr (progress_timers ..) rfl
      rfl rfl) (hidle hphase rfl) hphase (by decide))
  | downloadCompleted crc32 hphase =>
    exact .inl (downloadCompleted_ticks crc32 (howned hphase (by decide)) (hidle hphase rfl))
  | subscribed hphase =>
    exact .inl (Owned.ticks .starting ((howned hphase (by decide)).congr (writeStart_timers _) rfl
      rfl rfl) (hidle hphase rfl) rfl (by decide))
  | startWritten hphase =>
    exact .inl (startWritten_ticks (howned hphase (by decide)) (hidle hphase rfl))
  | chunkWritten hphase =>
    exact .inl (chunkWritten_ticks (howned hphase (by decide)) (hidle hphase rfl))
  | verifyWritten hphase =>
    exact .inl (verifyWritten_ticks (howned hphase (by decide)) (hidle hphase rfl))
  | chunkRead hphase hid hsize hremaining hwrite =>
    rw [writeChunk_ok hsize] at hwrite
    obtain rfl := Reduction.ok_injective hwrite
    refine .inl (Owned.ticks .writingChunk ((howned hphase (by decide)).congr ?_ rfl rfl rfl)
      (hidle hphase rfl) rfl (by decide))
    rw [timers_request]
    rfl
  | versionRead hphase =>
    refine .inr ⟨ended_complete, ?_⟩
    rw [complete_timers]
    exact (howned hphase (by decide)).distinct.cancels cancelsOnly_both

/-! ## Fired timers -/

/-- The connection waits for the timer under that request. -/
def Tracks (connection : ConnectionWorkflow) (id : RequestId) (timerId : Nat) : Prop :=
  (connection.scanTimerRequestId = some id ∧ connection.scanTimerId = some timerId) ∨
    (connection.attemptTimerRequestId = some id ∧ connection.attemptTimerId = some timerId)

theorem Tracks.stored {connection : ConnectionWorkflow} {id : RequestId} {timerId : Nat}
    (h : Tracks connection id timerId) : connection.Stored timerId :=
  h.imp And.right And.right

theorem tracks_of_live {connection : ConnectionWorkflow} (h : timer ∈ connection.live) :
    Tracks connection timer.1 timer.2 := by
  rw [live] at h
  split at h
  · exact .inl (mem_tracked.mp h)
  · split at h
    · exact .inr (mem_tracked.mp h)
    · exact absurd h List.not_mem_nil

/-- The timers of the connection reach it. -/
theorem Timed.delivered (hw : Timed w) {connection : ConnectionWorkflow}
    (hconnection : w.connection = some connection) {id : RequestId} {timerId : Nat}
    (h : Tracks connection id timerId) :
    dispatch w ⟨id, .timerFired timerId⟩ context =
      toConnection connection ⟨id, .timerFired timerId⟩ (.begin w context) := by
  have hphase : w.phase = .reconnecting := hw.connection.mp (by rw [hconnection]; rintro ⟨⟩)
  have hlt : timerId < RECONNECT_TIMEOUT_ID :=
    (hw.nested connection hconnection).2.2.stored_lt h.stored
  rw [dispatch, if_neg (fun h => by cases h.1), if_neg ?_, if_pos (.inl hphase), dispatchReconnect,
    if_neg ?_, if_neg ?_, Step.begin_workflow, hconnection]
  · intro hretry
    cases hphase.symm.trans hretry
  · rintro ⟨hkind, -⟩
    obtain rfl := HostEventKind.timerFired.inj hkind
    exact absurd hlt (Nat.lt_irrefl _)
  · intro hkind
    obtain rfl := HostEventKind.timerFired.inj hkind
    exact absurd hlt (by decide)

theorem toConnection_ok {connection : ConnectionWorkflow} {step : Step ConnectionWorkflow}
    (h : connection.dispatch event context = .ok step) {error : DeviceSdkError} :
    toConnection connection event (.begin w context) ≠ .err w context error := by
  intro heq
  have houtcome := congrArg Reduction.outcome heq
  rw [toConnection, Step.begin_context, h] at houtcome
  simp only [Reduction.ok_outcome] at houtcome
  split at houtcome
  · cases houtcome
  · split at houtcome
    · cases houtcome
    · cases houtcome
  · cases houtcome
  · cases houtcome

theorem fired_ne {timerId other : Nat} (h : timerId ≠ other) :
    HostEventKind.timerFired timerId ≠ .timerFired other :=
  fun heq => h (HostEventKind.timerFired.inj heq)

/-- A timer that the update relies on is taken when it fires. -/
theorem clock_accepted (hw : Timed w) {id : RequestId} {timerId : Nat}
    (h : (id, timerId) ∈ clock w) {error : DeviceSdkError} :
    dispatch w ⟨id, .timerFired timerId⟩ context ≠ .err w context error := by
  intro hreject
  have houtcome := congrArg Reduction.outcome hreject
  rcases mem_clock.mp h with ⟨hid, rfl⟩ | ⟨hid, htimer⟩ | ⟨connection, hconnection, hlive⟩
  · have hphase := hw.reconnect (by rw [hid]; rintro ⟨⟩)
    rw [dispatch, if_neg (fun h => by cases h.1), if_neg (fired_ne (by decide)), if_pos hphase,
      dispatchReconnect, if_pos ⟨rfl, hid.symm⟩] at houtcome
    cases houtcome
  · rw [hw.own] at htimer
    cases hphase : w.phase <;> rw [hphase] at htimer
    case awaitingReady | awaitingVerify =>
      obtain rfl := Option.some.inj htimer
      rw [dispatch, if_neg (fun h => by cases h.1), if_pos rfl] at houtcome
      simp only [responseTimedOut, Step.begin_workflow, hphase, responseTimeout, hid,
        ne_eq, not_true_eq_false, if_false] at houtcome
      cases houtcome
    case waitingAck =>
      obtain rfl := Option.some.inj htimer
      rw [dispatch, if_neg (fun h => by cases h.1), if_neg (fired_ne (by decide)),
        if_neg (by rw [hphase]; decide)] at houtcome
      simp only [statusOf, Reboots, dispatchPhase, and_false, if_false, Step.begin_workflow, hphase,
        hid, and_self, if_true] at houtcome
      cases houtcome
    case awaitingReboot =>
      obtain rfl := Option.some.inj htimer
      rw [dispatch, if_neg (fun h => by cases h.1), if_neg (fired_ne (by decide)),
        if_neg (by rw [hphase]; decide)] at houtcome
      simp only [statusOf, Reboots, dispatchPhase, and_false, if_false, Step.begin_workflow, hphase,
        hid, and_self, if_true, reduceCtorEq, false_and] at houtcome
      cases houtcome
    case waitingReconnectRetry =>
      obtain rfl := Option.some.inj htimer
      rw [dispatch, if_neg (fun h => by cases h.1), if_neg (fired_ne (by decide)), if_pos (.inr hphase),
        dispatchReconnect, if_neg (fun h => absurd h.1 (fired_ne (by decide))), Step.begin_workflow, if_pos hphase,
        if_pos ⟨rfl, hid.symm⟩] at houtcome
      cases houtcome
    all_goals cases htimer
  · rw [hw.delivered hconnection (tracks_of_live hlive)] at hreject
    obtain ⟨step, hstep, -⟩ :=
      ConnectionWorkflow.live_accepted (hw.nested connection hconnection).1 hlive
    exact toConnection_ok hstep hreject

end Clock

/-! ## Runs -/

/-- The connection is not asked for a timer under the identifier of the reconnection's. -/
def HasRoom (engine : WorkflowEngine FirmwareUpdateWorkflow) (event : Event) : Prop :=
  match engine.active, event with
  | some w, .host event => ¬w.overruns event = true
  | _, _ => True

instance (engine : WorkflowEngine FirmwareUpdateWorkflow) (event : Event) :
    Decidable (HasRoom engine event) := by
  unfold HasRoom
  split <;> infer_instance

/-- The host runs the timers that the update relies on, under distinct identifiers. -/
structure Clocked (observations : List Observation) (w : FirmwareUpdateWorkflow) : Prop where
  timed : Timed w
  pending : pendingTimers observations = clock w
  distinct : DistinctThroughout observations

section Runs

variable {w : FirmwareUpdateWorkflow} {context : WorkflowContext} {call : Call} {event : HostEvent}
  {observations : List Observation} {command : FirmwareUpdateCommand} {started : List EffectRequest}
  {trace : List (EngineEntry FirmwareUpdateWorkflow)}
  {engine₀ engine : WorkflowEngine FirmwareUpdateWorkflow}

theorem distinct_accepted (h : DistinctThroughout observations)
    (hover : DistinctOver (tick (pendingTimers observations) (.accepted event))
      (timers call.effects)) :
    DistinctThroughout (observations ++ .accepted event :: issuedBy call.effects) := by
  rw [List.append_cons]
  refine (h.snoc hover.head).issued ?_
  rw [pendingTimers_snoc]
  exact hover

theorem Clocked.step (h : Clocked observations w) (hstep : Transition w context event call)
    (hroom : ¬w.overruns event = true) :
    Clocked (observations ++ .accepted event :: issuedBy call.effects) call.workflow ∨
      Ended call.workflow ∧
        DistinctThroughout (observations ++ .accepted event :: issuedBy call.effects) := by
  have hkept := hstep.kept h.timed hroom
  rw [← h.pending] at hkept
  rcases hkept with hticks | ⟨hended, hover⟩
  · refine .inl ⟨hticks.timed, ?_, distinct_accepted h.distinct hticks.distinct⟩
    rw [pendingTimers_accepted, hticks.clock]
  · exact .inr ⟨hended, distinct_accepted h.distinct hover⟩

theorem Clocked.rejected (h : Clocked observations w) {error : DeviceSdkError}
    (hreject : dispatch w event context = .err w context error) :
    Clocked (observations ++ [.rejected event]) w := by
  have hsame : tick (pendingTimers observations) (.rejected event) = pendingTimers observations := by
    refine tick_rejected fun timerId hkind hmem => ?_
    obtain ⟨id, kind⟩ := event
    obtain rfl : kind = .timerFired timerId := hkind
    rw [h.pending] at hmem
    exact clock_accepted h.timed hmem hreject
  refine ⟨h.timed, ?_, h.distinct.snoc ?_⟩
  · rw [pendingTimers_snoc, hsame, h.pending]
  · rw [hsame, h.pending]
    exact h.timed.distinct

/-- A cancellation only ends timers. -/
theorem cancel_distinct (w : FirmwareUpdateWorkflow) (context : WorkflowContext) :
    ∃ call : Call, cancel w context = .ok call ∧
      ∀ pending, Distinct pending → DistinctOver pending (timers call.effects) := by
  refine ⟨_, rfl, fun pending h => ?_⟩
  rw [timers_request, List.append_nil, unsubscribe_timers]
  refine distinct_cancelConnection ?_
  rw [cancelReconnectTimer_timers, cancelTimer_timers]
  exact (distinctOver_cancels h (cancelsOnly_nil.append cancelsOnly_own)).cancels
    cancelsOnly_reconnect

theorem timed_new (device : DeviceSerialNumber) (image : FirmwareImage) (downloadId : Nat)
    (hint : ReconnectHint) (id : CancellationId) (request : RequestId) :
    Timed { new device image downloadId hint id with loadRequestId := some request } where
  running := ⟨show Phase.loadingCheckpoint ≠ .completed by decide,
    show Phase.loadingCheckpoint ≠ .failed by decide⟩
  own := rfl
  reconnect hne := absurd rfl hne
  connection := ⟨fun hne => absurd rfl hne,
    fun heq => absurd heq (show Phase.loadingCheckpoint ≠ .reconnecting by decide)⟩
  nested connection hsome := nomatch show none = some connection from hsome

theorem Started.clocked (h : Started command started engine₀) :
    ∃ w, engine₀.active = some w ∧ Clocked (issuedBy started) w := by
  obtain ⟨engine, capabilities, id, hstart⟩ := h
  obtain ⟨w, hcreate, reduction, hreduction, hactive, -, hout⟩ := start_ok hstart
  subst hreduction
  obtain rfl := Except.ok.inj hcreate
  obtain rfl := Outcome.ok.inj hout
  refine ⟨_, hactive, timed_new _ _ _ _ _ _, rfl, ?_⟩
  rw [← List.nil_append (issuedBy _)]
  refine distinctThroughout_nil.issued ?_
  show DistinctOver [] []
  exact distinct_nil

theorem run_clocked (hstart : Started command started engine₀)
    (h : EngineRun (fun _ engine event => HasRoom engine event) engine₀ trace engine) :
    Settled (fun trace w => Clocked (observe started trace) w)
      (fun trace => DistinctThroughout (observe started trace)) trace engine := by
  refine EngineRun.step_rule ?_ ?_ ?_ ?_ ?_ h
  -- at the start
  · obtain ⟨w, hactive, hclocked⟩ := hstart.clocked
    rw [settled_active hactive, observe_nil]
    exact hclocked
  -- an event of the host
  · intro trace engine w event _ hactive hinv hroom
    simp only [HasRoom, hactive] at hroom
    have hformed (hphase : w.phase = .reconnecting) :
        ∃ connection, w.connection = some connection ∧ connection.Formed := by
      obtain ⟨connection, hsome⟩ :=
        Option.ne_none_iff_exists'.mp (hinv.timed.connection.mpr hphase)
      exact ⟨connection, hsome, (hinv.timed.nested connection hsome).1⟩
    rcases dispatch_cases hformed event (engine.context w) with ⟨call, hcall, hstep⟩ | ⟨error, hreject⟩
    · refine .inl ⟨call, hcall, ?_⟩
      rw [observe_snoc]
      rcases hinv.step hstep hroom with hclocked | ⟨⟨status, hended⟩, hdistinct⟩
      · exact .inl ⟨hclocked.timed.terminalStatus, hclocked⟩
      · exact .inr ⟨status, hended, hdistinct⟩
    · refine .inr ⟨w, engine.context w, error, hreject, ?_⟩
      rw [observe_snoc]
      exact hinv.rejected hreject
  -- the workflow is cancelled
  · intro trace engine w _ hactive hinv _
    obtain ⟨call, hcall, hover⟩ := cancel_distinct w (engine.context w)
    refine ⟨call, hcall, ?_⟩
    rw [observe_snoc]
    refine hinv.distinct.issued (hover _ ?_)
    rw [hinv.pending]
    exact hinv.timed.distinct
  -- another workflow's cancellation
  · rintro trace entry w _ ⟨id, hinput, -⟩ _ hquiet hinv
    rw [observe_snoc, observeEntry, hinput, hquiet, issuedBy_nil, List.append_nil]
    exact hinv
  -- after the end
  · intro trace entry _ _ hquiet hinv
    rw [observe_snoc, observeEntry]
    cases entry.input with
    | host event =>
      unfold delivered
      rw [hquiet, issuedBy_nil]
      refine hinv.snoc ?_
      split
      · exact hinv.last.tick_accepted event
      · exact hinv.last.tick_rejected event
    | cancelled id =>
      rw [hquiet, issuedBy_nil, List.append_nil]
      exact hinv

/-- As long as no connection counts up to the timer of its reconnection, no two timers share an
identifier and every timer of the connection reaches it. -/
theorem timers_kept_apart (hstart : Started command started engine₀)
    (hrun : EngineRun (fun _ engine event => HasRoom engine event) engine₀ trace engine) :
    DistinctThroughout (observe started trace) ∧
      ∀ w connection id timerId, engine.active = some w → w.connection = some connection →
        Tracks connection id timerId →
        dispatch w ⟨id, .timerFired timerId⟩ (engine.context w) =
          toConnection connection ⟨id, .timerFired timerId⟩ (.begin w (engine.context w)) := by
  have hsettled := run_clocked hstart hrun
  cases hactive : engine.active with
  | none => exact ⟨(settled_ended hactive).mp hsettled, fun _ _ _ _ heq => nomatch heq⟩
  | some w =>
    have hclocked := (settled_active hactive).mp hsettled
    refine ⟨hclocked.distinct, fun active connection id timerId heq hconnection htracks => ?_⟩
    obtain rfl := Option.some.inj heq
    exact hclocked.timed.delivered hconnection htracks

end Runs

/-! ## A long reconnection -/

def sampleCommand : FirmwareUpdateCommand :=
  ⟨⟨"EVFXXW67KP"⟩, ⟨"1.2.3", 1000, 7⟩, 1, { storedName := some "Bota Pin" }⟩

def sampleStart : WorkflowEngine FirmwareUpdateWorkflow × Outcome (List EffectRequest) :=
  WorkflowEngine.start {} sampleCommand
    [.ble, .networkTransfer, .persistence, .progress, .timer, .firmwareBlob] ⟨.replicate 16 9⟩

/-- An earlier run got as far as the reconnection. -/
def sampleCheckpoint : WorkflowCheckpoint where
  workflow := .firmwareUpdate
  operation := .updateFirmware
  device := ⟨"EVFXXW67KP"⟩
  recording := none
  phase := .reconnecting
  completedUnits := 1000
  retryCount := 0
  lastSequence := none
  firmwareVersion := some "1.2.3"

def samplePeripheral (n : Nat) : String := String.singleton (Char.ofNat (n + 33))

def sampleCandidate (n : Nat) : DeviceCandidate :=
  ⟨samplePeripheral n, some "Bota Pin", none, -60⟩

/-- The checkpoint is loaded and a scan finds `n` peripherals of the same name. -/
def sampleScan (n : Nat) : List Event :=
  .host ⟨2, .checkpointLoaded (some sampleCheckpoint)⟩ ::
    ((List.range n).map fun k => .host ⟨7, .ble (.scanResult (sampleCandidate k))⟩) ++
      [.host ⟨8, .timerFired 1⟩, .host ⟨10, .ble .scanStopped⟩]

/-- The `n`-th peripheral does not answer in time. -/
def sampleAttempt (n : Nat) : List Event :=
  [.host ⟨6 * n + 14, .timerFired (n + 2)⟩,
    .host ⟨6 * n + 16, .ble (.disconnected (samplePeripheral n) none)⟩]

def sampleEvents (found tried : Nat) : List Event :=
  sampleScan found ++ (List.range tried).flatMap sampleAttempt

def sampleTrace (found tried : Nat) : List (EngineEntry FirmwareUpdateWorkflow) :=
  (Machine.exec WorkflowEngine.dispatch [] sampleStart.1 (sampleEvents found tried)).1

theorem timers_kept_apart_sample :
    pendingTimers (observe sampleStart.2.effects (sampleTrace 3 2)) = [(5, 103), (26, 4)] ∧
      DistinctThroughout (observe sampleStart.2.effects (sampleTrace 3 2)) := by
  refine ⟨by decide +kernel, ?_⟩
  have hallowed : Machine.Allowed WorkflowEngine.dispatch
      (fun _ engine event => HasRoom engine event) [] sampleStart.1 (sampleEvents 3 2) := by
    decide +kernel
  exact (@timers_kept_apart sampleCommand _ _ _ _
    ⟨{}, [.ble, .networkTransfer, .persistence, .progress, .timer, .firmwareBlob],
      ⟨.replicate 16 9⟩, rfl⟩ (Machine.Run.exec hallowed)).1

/-- The 102nd peripheral is given the timer that the reconnection runs. -/
theorem reconnection_timer_shared :
    ¬DistinctThroughout (observe sampleStart.2.effects (sampleTrace 102 101)) := by
  intro h
  have hpending : pendingTimers (observe sampleStart.2.effects (sampleTrace 102 101)) =
      [(5, 103), (620, 103)] := by decide +kernel
  have hdistinct := h.last
  rw [hpending] at hdistinct
  exact absurd hdistinct (by decide)

end FirmwareUpdateWorkflow

end BotaSdk
