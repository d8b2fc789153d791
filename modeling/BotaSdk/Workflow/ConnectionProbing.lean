import BotaSdk.Workflow.ConnectionIdentity
import Mathlib.Data.Finset.Card

/-!
# Probing candidates

A reconnection connects every peripheral that its scan reports at most once, and gives up when no
candidate is left.
-/

namespace BotaSdk

open Connection History Protocol

namespace ConnectionWorkflow

/-! ## The attempts of a run -/

/-- The peripheral that an effect connects. -/
def connectOf : Effect → Option String
  | .ble (.connect peripheralId) => some peripheralId
  | _ => none

/-- The peripherals that a call connects, in their order. -/
def connects (effects : List EffectRequest) : List String :=
  effects.filterMap fun request => connectOf request.effect

/-- What a reconnection reports when no candidate is left. -/
def notFound (device : DeviceSerialNumber) : DeviceSdkError :=
  (DeviceSdkError.new .deviceNotFound .reconnect true).withDetail
    s!"device {device.value} was not found"

/-- The peripheral that an event reports to the scan. -/
def reports (w : ConnectionWorkflow) (event : HostEvent) : Option String :=
  match event.kind with
  | .ble (.scanResult candidate) =>
    if w.phase = .scanning ∧ some event.requestId = w.scanRequestId then
      some candidate.peripheralId
    else none
  | _ => none

/-- The peripherals that the scan of a run has reported, with repetitions. -/
def reported (trace : List (EngineEntry ConnectionWorkflow)) : List String :=
  trace.filterMap fun entry =>
    match entry.pre.active, entry.input with
    | some w, .host event => w.reports event
    | _, _ => none

/-- The event is the answer to the request that the current phase waits for. -/
def awaits (w : ConnectionWorkflow) (event : HostEvent) : Bool :=
  let id := some event.requestId
  match w.phase, event.kind with
  | .scanning, .timerFired timerId => id = w.scanTimerRequestId ∧ some timerId = w.scanTimerId
  | .stoppingScan, .ble .scanStopped => id = w.stopScanRequestId
  | .connecting, .ble (.connected peripheralId) => id = w.connectRequestId ∧ w.isActive peripheralId
  | .connecting, .ble (.failed _) => id = w.connectRequestId
  | .discovering, .ble (.servicesDiscovered peripheralId) =>
    id = w.discoverRequestId ∧ w.isActive peripheralId
  | .discovering, .ble (.failed _) => id = w.discoverRequestId
  | .readingSerial, .ble (.readCompleted _) => id = w.readRequestId
  | .readingSerial, .ble (.failed _) => id = w.readRequestId
  | .connecting, .timerFired timerId | .discovering, .timerFired timerId
  | .readingSerial, .timerFired timerId =>
    id = w.attemptTimerRequestId ∧ some timerId = w.attemptTimerId
  | .disconnecting, .ble (.disconnected peripheralId _) =>
    id = w.disconnectRequestId ∧ w.isActive peripheralId
  -- a failure of the disconnection itself, not a late one of the attempt
  | .disconnecting, .ble (.failed _) =>
    id = w.disconnectRequestId ∧ id ≠ w.connectRequestId ∧ id ≠ w.discoverRequestId ∧
      id ≠ w.readRequestId
  | .persisting, .connectionIdentitySaved => id = w.persistRequestId
  | _, _ => false

/-- The number of such answers along a run. -/
def answers (trace : List (EngineEntry ConnectionWorkflow)) : Nat :=
  trace.countP fun entry =>
    match entry.pre.active, entry.input with
    | some w, .host event => w.awaits event
    | _, _ => false

/-- The attempt reads the serial number that it looks for. -/
def Succeeds (device : DeviceSerialNumber) (w : ConnectionWorkflow) (event : HostEvent) : Prop :=
  match event.kind with
  | .ble (.readCompleted value) => w.phase = .readingSerial ∧
      w.readRequestId = some event.requestId ∧ parseSerial value = .ok device
  | _ => False

instance (device : DeviceSerialNumber) (w : ConnectionWorkflow) (event : HostEvent) :
    Decidable (Succeeds device w event) := by
  unfold Succeeds
  split <;> infer_instance

/-- The entry is no successful attempt and no cancellation. -/
def Fails (device : DeviceSerialNumber) (entry : EngineEntry ConnectionWorkflow) : Prop :=
  match entry.pre.active, entry.input with
  | some w, .host event => ¬Succeeds device w event
  | some w, .cancelled id => id ≠ w.cancellationId
  | none, _ => True

instance (device : DeviceSerialNumber) (entry : EngineEntry ConnectionWorkflow) :
    Decidable (Fails device entry) := by
  unfold Fails
  split <;> infer_instance

/-- Every attempt fails or reads a different serial number, and nobody cancels. -/
def Fruitless (device : DeviceSerialNumber) (trace : List (EngineEntry ConnectionWorkflow)) : Prop :=
  ∀ entry ∈ trace, Fails device entry

section Connects

variable {effects back : List EffectRequest}

@[simp] theorem connects_append (front back : List EffectRequest) :
    connects (front ++ back) = connects front ++ connects back :=
  List.filterMap_append

/-- Connections are among the main requests. -/
theorem connects_mains (effects : List EffectRequest) :
    connects effects = (mains effects).filterMap fun issue => connectOf issue.2 := by
  induction effects with
  | nil => rfl
  | cons request effects ih =>
    rw [mains_cons, List.filterMap_append, ← ih]
    show List.filterMap _ ([request] ++ effects) = _
    rw [List.filterMap_append]
    congr 1
    by_cases hmain : Main request.effect
    · rw [if_pos hmain]
      rfl
    · rw [if_neg hmain]
      have hnone : connectOf request.effect = none := by
        unfold connectOf
        split
        · next heq =>
          rw [heq] at hmain
          exact absurd trivial hmain
        · rfl
      rw [List.filterMap_cons, hnone]
      rfl

end Connects

/-! ## What a reconnection's steps are exactly -/

/-- The state from which a settled disconnection probes on. -/
def nextProbe (w : ConnectionWorkflow) : ConnectionWorkflow :=
  let w := retried { w with disconnectRequestId := none, disconnectOutcome := none }
  if w.probeCandidates.isEmpty then prepareProbeCandidates w
  else { w with candidateIndex := saturatingAdd w.candidateIndex 1 }

/-- What `Transition` leaves open about a reconnection. -/
structure Sharp (w : ConnectionWorkflow) (context : WorkflowContext) (call : Call) : Prop where
  /-- It only fails because no candidate is left. -/
  failed : call.workflow.phase = .failed →
    ∃ device, w.device = some device ∧ call.workflow.terminalError = some (notFound device)
  /-- It goes on after every attempt that it gives up. -/
  dropped : call.workflow.phase = .disconnecting →
    call.workflow.disconnectOutcome = some .probeNext
  settled : w.phase = .disconnecting → call.workflow.phase ≠ .disconnecting →
    beginNextProbe (.begin (nextProbe w) context) = .ok call

section Sharp

variable {w : ConnectionWorkflow} {context : WorkflowContext} {call call' : Call}
  {event : HostEvent} {id : RequestId}

theorem nextProbe_empty (h : w.probeCandidates.isEmpty = true) :
    nextProbe w = prepareProbeCandidates (retried { w with
      disconnectRequestId := none, disconnectOutcome := none }) := by
  show (if w.probeCandidates.isEmpty = true then _ else _) = _
  rw [if_pos h]

theorem nextProbe_next (h : ¬w.probeCandidates.isEmpty = true) :
    nextProbe w = { retried { w with disconnectRequestId := none, disconnectOutcome := none } with
      candidateIndex := saturatingAdd w.candidateIndex 1 } := by
  show (if w.probeCandidates.isEmpty = true then _ else _) = _
  rw [if_neg h]
  rfl

theorem nextProbe_device : (nextProbe w).device = w.device := by
  by_cases h : w.probeCandidates.isEmpty = true
  · rw [nextProbe_empty h]
    rfl
  · rw [nextProbe_next h]
    rfl

theorem beginNextProbe_failed (h : beginNextProbe call = .ok call')
    (hphase : call'.workflow.phase = .failed) :
    ∃ device, call.workflow.device = some device ∧
      call'.workflow.terminalError = some (notFound device) := by
  rw [beginNextProbe] at h
  split at h
  · next candidate _ =>
    obtain rfl := Outcome.ok.inj h
    obtain ⟨ids, heq⟩ := beginConnection_workflow call candidate true
    rw [heq] at hphase
    cases hphase
  · split at h
    · next device hdevice =>
      obtain rfl := Outcome.ok.inj h
      refine ⟨device, hdevice, ?_⟩
      rw [fail_workflow]
      rfl
    · cases h

/-- A probe connects or fails. -/
theorem beginNextProbe_phase (h : beginNextProbe call = .ok call') :
    call'.workflow.phase = .connecting ∨ call'.workflow.phase = .failed := by
  rw [beginNextProbe] at h
  split at h
  · next candidate _ =>
    obtain rfl := Outcome.ok.inj h
    obtain ⟨ids, heq⟩ := beginConnection_workflow call candidate true
    rw [heq]
    exact .inl rfl
  · split at h
    · obtain rfl := Outcome.ok.inj h
      rw [fail_workflow]
      exact .inr rfl
    · cases h

/-- A step to another phase than a failure, from one without a disconnection. -/
theorem Sharp.plain (hphase : call.workflow.phase ≠ .failed)
    (hdropped : call.workflow.phase ≠ .disconnecting) (hw : w.phase ≠ .disconnecting) :
    Sharp w context call :=
  ⟨fun h => absurd h hphase, fun h => absurd h hdropped, fun h => absurd h hw⟩

/-- A step that stays in its phase. -/
theorem Sharp.stays (hw : Formed w) (hphase : call.workflow.phase = w.phase)
    (houtcome : call.workflow.disconnectOutcome = w.disconnectOutcome)
    (hprobing : w.phase = .disconnecting → w.disconnectOutcome = some .probeNext) :
    Sharp w context call where
  failed h := absurd (hphase.symm.trans h) hw.running.2
  dropped h := houtcome.trans (hprobing (hphase.symm.trans h))
  settled h hne := absurd (hphase.trans h) hne

theorem Sharp.probes (hprobe : beginNextProbe call' = .ok call)
    (hdevice : call'.workflow.device = w.device) (hw : w.phase ≠ .disconnecting) :
    Sharp w context call where
  failed h := by
    rw [← hdevice]
    exact beginNextProbe_failed hprobe h
  dropped h := by
    rcases beginNextProbe_phase hprobe with hphase | hphase <;> exact nomatch hphase.symm.trans h
  settled h := absurd h hw

theorem Sharp.settles (hprobe : beginNextProbe (.begin (nextProbe w) context) = .ok call) :
    Sharp w context call where
  failed h := by
    obtain ⟨device, hdevice, herror⟩ := beginNextProbe_failed hprobe h
    refine ⟨device, ?_, herror⟩
    rw [← hdevice, Step.begin_workflow, nextProbe_device]
  dropped h := by
    rcases beginNextProbe_phase hprobe with hphase | hphase <;> exact nomatch hphase.symm.trans h
  settled _ _ := hprobe

theorem Sharp.drops {outcome : DisconnectOutcome}
    (hdrop : beginDisconnect outcome call' = .ok call) (houtcome : outcome = .probeNext)
    (hw : w.phase ≠ .disconnecting) : Sharp w context call := by
  rw [beginDisconnect] at hdrop
  simp only [Step.update_workflow] at hdrop
  split at hdrop
  · next candidate hactive =>
    have hworkflow : call.workflow.phase = .disconnecting ∧
        call.workflow.disconnectOutcome = some outcome := by
      obtain rfl := Outcome.ok.inj hdrop
      simp
    refine ⟨fun h => ?_, fun _ => ?_, fun h => absurd h hw⟩
    · cases hworkflow.1.symm.trans h
    · rw [hworkflow.2, houtcome]
  · cases hdrop

theorem Sharp.persists (hpersist : beginPersist call' = .ok call) (hw : w.phase ≠ .disconnecting) :
    Sharp w context call := by
  rw [beginPersist] at hpersist
  simp only [Step.update_workflow] at hpersist
  split at hpersist
  · have hphase : call.workflow.phase = .persisting := by
      obtain rfl := Outcome.ok.inj hpersist
      simp
    exact .plain (by rw [hphase]; decide) (by rw [hphase]; decide) hw
  · cases hpersist

theorem attemptOutcome_reconnect (hmode : w.mode = .reconnect) (error : DeviceSdkError) :
    w.attemptOutcome error = .probeNext := by
  rw [attemptOutcome, hmode]

theorem stopScan_phase (call : Call) :
    (ConnectionWorkflow.stopScan call).workflow.phase = .stoppingScan := by
  obtain ⟨ids, heq⟩ := stopScan_workflow call
  rw [heq]

theorem Sharp.stopScan (hw : w.phase ≠ .disconnecting) :
    Sharp w context (ConnectionWorkflow.stopScan call') :=
  .plain (by rw [stopScan_phase]; decide) (by rw [stopScan_phase]; decide) hw

/-- A lost attempt of a reconnection is followed by a disconnection. -/
theorem Sharp.attemptFails {error : DeviceSdkError} {w' : ConnectionWorkflow}
    (hdrop : beginDisconnect (w'.attemptOutcome error) call' = .ok call)
    (hmode : w'.mode = .reconnect) (hw : w.phase ≠ .disconnecting) : Sharp w context call :=
  .drops hdrop (attemptOutcome_reconnect hmode error) hw

theorem finishDisconnect_sharp (houtcome : w.disconnectOutcome = some .probeNext)
    (h : finishDisconnect ((Step.begin w context).update fun w =>
      { w with disconnectRequestId := none }) = .ok call) : Sharp w context call := by
  rw [finishDisconnect] at h
  simp only [Step.update_workflow, Step.begin_workflow, houtcome] at h
  exact .settles h

theorem serialRead_sharp {value : List UInt8} (hmode : w.mode = .reconnect)
    (hphase : w.phase = .readingSerial) (h : serialRead value (.begin w context) = .ok call) :
    Sharp w context call := by
  have hw : w.phase ≠ .disconnecting := by rw [hphase]; decide
  rw [serialRead] at h
  simp only [Step.update_workflow, Step.begin_workflow] at h
  split at h
  · split at h
    · exact .persists h hw
    · split at h
      · exact .persists h hw
      · exact .attemptFails h hmode hw
  · exact .attemptFails h hmode hw

theorem failed_sharp {platformCode : Option Int} (hw : Formed w) (hmode : w.mode = .reconnect)
    (hprobing : w.phase = .disconnecting → w.disconnectOutcome = some .probeNext)
    (h : dispatchPhase w id (.ble (.failed platformCode)) (.begin w context) = some (.ok call)) :
    Sharp w context call := by
  rw [dispatchPhase] at h
  split at h
  · obtain rfl := Outcome.ok.inj (Option.some.inj h)
    exact .stays hw rfl rfl hprobing
  · next hlate =>
    split at h
    · next hid =>
      have hphase : w.phase ≠ .disconnecting := fun hphase => hlate ⟨hphase, .inl hid⟩
      have hfails := Option.some.inj h
      rw [connectFailed] at hfails
      simp only [Step.update_workflow, Step.begin_workflow, hmode] at hfails
      refine .probes hfails ?_ hphase
      rw [Step.update_workflow, cancelAttemptTimer_workflow]
      rfl
    · split at h
      · next hid =>
        have hphase : w.phase ≠ .disconnecting := fun hphase => hlate ⟨hphase, .inr hid⟩
        exact .attemptFails (Option.some.inj h) hmode hphase
      · split at h
        · next hid =>
          have hphase := hw.disconnectRequest (by rw [← hid]; exact Option.some_ne_none id)
          exact finishDisconnect_sharp (hprobing hphase) (Option.some.inj h)
        · cases h

theorem dispatchPhase_sharp {kind : HostEventKind} (hw : Formed w) (hmode : w.mode = .reconnect)
    (hprobing : w.phase = .disconnecting → w.disconnectOutcome = some .probeNext)
    (h : dispatchPhase w id kind (.begin w context) = some (.ok call)) : Sharp w context call := by
  have hstays {call' : Call} (hcall : some (.ok call') = some (Outcome.ok call))
      (hphase : call'.workflow.phase = w.phase)
      (houtcome : call'.workflow.disconnectOutcome = w.disconnectOutcome) :
      Sharp w context call := by
    obtain rfl := Outcome.ok.inj (Option.some.inj hcall)
    exact .stays hw hphase houtcome hprobing
  cases kind with
  | timerFired timerId =>
    rw [dispatchPhase] at h
    split at h
    · next hguard =>
      obtain rfl := Outcome.ok.inj (Option.some.inj h)
      exact .stopScan (by rw [hguard.1]; decide)
    · split at h
      · exact hstays h rfl rfl
      · split at h
        · next hguard =>
          have hattempt := hw.attemptTimer (by rw [← hguard.2]; exact Option.some_ne_none timerId)
          have hphase : w.phase ≠ .disconnecting := by
            rcases hattempt with hphase | hphase | hphase <;> rw [hphase] <;> decide
          exact .attemptFails (Option.some.inj h) hmode hphase
        · cases h
  | connectionIdentitySaved =>
    rw [dispatchPhase] at h
    split at h
    · next hguard =>
      have hsaved := Option.some.inj h
      rw [identitySaved] at hsaved
      simp only [Step.update_workflow, Step.begin_workflow] at hsaved
      split at hsaved
      · obtain rfl := Outcome.ok.inj hsaved
        exact .plain (by rintro ⟨⟩) (by rintro ⟨⟩) (by rw [hguard.1]; decide)
      · cases hsaved
    · cases h
  | ble event =>
    cases event with
    | scanResult candidate =>
      rw [dispatchPhase] at h
      split at h
      · next hguard =>
        split at h
        · obtain rfl := Outcome.ok.inj (Option.some.inj h)
          exact .stopScan (by rw [hguard.1]; decide)
        · refine hstays h ?_ ?_ <;> rw [Step.update_workflow, Step.begin_workflow, recordCandidate] <;>
            split <;> rfl
      · split at h
        · exact hstays h rfl rfl
        · cases h
    | scanStopped =>
      rw [dispatchPhase] at h
      split at h
      · next hguard =>
        have hphase : w.phase ≠ .disconnecting := by rw [hguard.1]; decide
        have hstopped := Option.some.inj h
        rw [scanStopped] at hstopped
        simp only [Step.update_workflow, Step.begin_workflow] at hstopped
        split at hstopped
        · next candidate _ =>
          obtain rfl := Outcome.ok.inj hstopped
          have hconnecting : (beginConnection candidate true ((Step.begin w context).update fun w =>
              { w with
                scanRequestId := none, scanTimerRequestId := none, scanTimerId := none
                stopScanRequestId := none })).workflow.phase = .connecting := by
            obtain ⟨ids, heq⟩ := beginConnection_workflow ((Step.begin w context).update fun w =>
              { w with
                scanRequestId := none, scanTimerRequestId := none, scanTimerId := none
                stopScanRequestId := none }) candidate true
            rw [heq]
          exact .plain (by rw [hconnecting]; decide) (by rw [hconnecting]; decide) hphase
        · exact .probes hstopped rfl hphase
      · cases h
    | connected peripheralId =>
      rw [dispatchPhase] at h
      split at h
      · next hguard =>
        obtain rfl := Outcome.ok.inj (Option.some.inj h)
        have hphase : (connected peripheralId (Step.begin w context)).workflow.phase =
            .discovering := by
          rw [connected, pushCheckpoint_workflow]
          rfl
        exact .plain (by rw [hphase]; decide) (by rw [hphase]; decide) (by rw [hguard.1]; decide)
      · split at h
        · exact hstays h rfl rfl
        · cases h
    | servicesDiscovered peripheralId =>
      rw [dispatchPhase] at h
      split at h
      · next hguard =>
        have hphase : w.phase ≠ .disconnecting := by rw [hguard.1]; decide
        have hdiscovered := Option.some.inj h
        rw [servicesDiscovered] at hdiscovered
        simp only [Step.update_workflow, Step.begin_workflow, hw.verify (.inr hguard.1), if_true]
          at hdiscovered
        obtain rfl := Outcome.ok.inj hdiscovered
        exact .plain (by rintro ⟨⟩) (by rintro ⟨⟩) hphase
      · split at h
        · exact hstays h rfl rfl
        · cases h
    | readCompleted value =>
      rw [dispatchPhase] at h
      split at h
      · next hguard => exact serialRead_sharp hmode hguard.1 (Option.some.inj h)
      · split at h
        · exact hstays h rfl rfl
        · cases h
    | disconnected peripheralId reasonCode =>
      rw [dispatchPhase] at h
      split at h
      · next hguard => exact finishDisconnect_sharp (hprobing hguard.1) (Option.some.inj h)
      · cases h
    | failed platformCode => exact failed_sharp hw hmode hprobing h
    | _ => cases h
  | _ => cases h

theorem settleCall_ok {outcome : Outcome Call} (h : settleCall w context outcome = .ok call) :
    outcome = .ok call := by
  cases outcome with
  | ok call' => exact congrArg Outcome.ok (Reduction.ok_injective h)
  | err error => exact nomatch congrArg Reduction.outcome h
  | panicked => exact nomatch congrArg Reduction.outcome h

/-- An accepted event settles a checkpoint or belongs to its phase. -/
theorem dispatch_ok (h : dispatch w event context = .ok call) :
    (event.kind = .checkpointSaved ∧ call = .begin { w with
        checkpointRequestIds := w.checkpointRequestIds.erase event.requestId } context) ∨
      dispatchPhase w event.requestId event.kind (.begin w context) = some (.ok call) := by
  rw [dispatch] at h
  split at h
  · next hsaved => exact .inl ⟨hsaved.1, (Reduction.ok_injective h).symm⟩
  · split at h
    · next outcome hphase =>
      rw [settleCall_ok h] at hphase
      exact .inr hphase
    · cases congrArg Reduction.outcome h

/-- What `Transition` leaves open about an accepted event of a reconnection. -/
theorem dispatch_sharp (hw : Formed w) (hmode : w.mode = .reconnect)
    (hprobing : w.phase = .disconnecting → w.disconnectOutcome = some .probeNext)
    (h : dispatch w event context = .ok call) : Sharp w context call := by
  rcases dispatch_ok h with ⟨-, rfl⟩ | hphase
  · exact .stays hw rfl rfl hprobing
  · exact dispatchPhase_sharp hw hmode hprobing hphase

end Sharp

/-! ## The queue of candidates -/

/-- The peripherals found by the scan. -/
def found (w : ConnectionWorkflow) : List String :=
  w.discovered.map (·.peripheralId)

/-- The peripherals of the prepared candidates from `index` on. -/
def queueFrom (w : ConnectionWorkflow) (index : Nat) : List String :=
  (w.probeCandidates.drop index).map (·.peripheralId)

/-- A queue of peripherals that were found and not tried yet. -/
structure Fresh (tried found queue : List String) : Prop where
  nodup : queue.Nodup
  untried : ∀ id ∈ queue, id ∉ tried
  found : ∀ id ∈ queue, id ∈ found

/-- The peripherals tried so far, in a workflow. -/
structure Probed (tried : List String) (w : ConnectionWorkflow) : Prop where
  distinct : (found w).Nodup
  once : tried.Nodup
  attempted : ∀ id, id ∈ w.attemptedPeripheralIds ↔ id ∈ tried
  known : ∀ id ∈ tried, id ∈ found w
  listed : w.probeCandidates.length ≤ w.discovered.length

/-- What is left of the queue behind the current candidate. -/
def Upcoming (tried : List String) (w : ConnectionWorkflow) : Prop :=
  Fresh tried (found w) (queueFrom w (w.candidateIndex + 1))

section Queue

variable {w : ConnectionWorkflow} {call call' : Call} {candidate : DeviceCandidate}
  {tried queue : List String} {index : Nat}

theorem Fresh.tail {ids : List String} {id : String} (h : Fresh tried ids (id :: queue)) :
    Fresh (tried ++ [id]) ids queue where
  nodup := h.nodup.of_cons
  untried other hmem hin := by
    rcases List.mem_append.mp hin with hin | hin
    · exact h.untried other (List.mem_cons_of_mem id hmem) hin
    · obtain rfl := List.mem_singleton.mp hin
      exact (List.nodup_cons.mp h.nodup).1 hmem
  found other hmem := h.found other (List.mem_cons_of_mem id hmem)

theorem fresh_nil {ids : List String} : Fresh tried ids [] :=
  ⟨List.nodup_nil, fun _ h => absurd h List.not_mem_nil, fun _ h => absurd h List.not_mem_nil⟩

theorem queueFrom_cons (h : w.probeCandidates[index]? = some candidate) :
    queueFrom w index = candidate.peripheralId :: queueFrom w (index + 1) := by
  obtain ⟨hlt, rfl⟩ := List.getElem?_eq_some_iff.mp h
  rw [queueFrom, List.drop_eq_getElem_cons hlt, List.map_cons]
  rfl

theorem queueFrom_nil (h : w.probeCandidates = []) : queueFrom w index = [] := by
  rw [queueFrom, h, List.drop_nil, List.map_nil]

/-- A report adds its peripheral unless it is known. -/
theorem found_recordCandidate :
    found (recordCandidate candidate w) =
      if candidate.peripheralId ∈ found w then found w
      else found w ++ [candidate.peripheralId] := by
  have hany : w.discovered.any (·.peripheralId = candidate.peripheralId) = true ↔
      candidate.peripheralId ∈ found w := by
    simp only [List.any_eq_true, decide_eq_true_eq, found, List.mem_map]
  rw [recordCandidate]
  by_cases hmem : candidate.peripheralId ∈ found w
  · rw [if_pos (hany.mpr hmem), if_pos hmem]
    show (w.discovered.set (w.discovered.findIdx (·.peripheralId = candidate.peripheralId))
      candidate).map _ = _
    rw [List.map_set]
    have hlt := List.findIdx_lt_length_of_exists (List.any_eq_true.mp (hany.mpr hmem))
    generalize hindex : w.discovered.findIdx (·.peripheralId = candidate.peripheralId) = index at hlt ⊢
    have hbound : index < (found w).length := by rwa [found, List.length_map]
    have hsame : (found w)[index] = candidate.peripheralId := by
      subst hindex
      simp only [found, List.getElem_map]
      exact of_decide_eq_true (List.findIdx_getElem (w := hlt))
    rw [← hsame]
    exact List.set_getElem_self hbound
  · rw [if_neg (fun h => hmem (hany.mp h)), if_neg hmem]
    show (w.discovered ++ [candidate]).map _ = _
    rw [List.map_append]
    rfl

/-- The prepared candidates are untried ones of the scan. -/
theorem Probed.prepared (h : Probed tried w) :
    Probed tried (prepareProbeCandidates w) ∧
      Fresh tried (found w) (queueFrom (prepareProbeCandidates w) 0) := by
  have hperm := List.perm_insertionSort (fun first second : DeviceCandidate => second.rssi ≤ first.rssi)
    (w.discovered.filter w.isProbeCandidate)
  have hsublist : ((w.discovered.filter w.isProbeCandidate).map (·.peripheralId)).Sublist (found w) :=
    List.filter_sublist.map _
  refine ⟨⟨h.distinct, h.once, h.attempted, h.known, ?_⟩, ?_, fun id hmem => ?_, fun id hmem => ?_⟩
  · exact hperm.length_eq.trans_le (List.length_filter_le _ _)
  · exact ((hperm.map _).nodup_iff).mpr (h.distinct.sublist hsublist)
  · obtain ⟨candidate, hcandidate, rfl⟩ := List.mem_map.mp hmem
    have hprobe := (List.mem_filter.mp (hperm.mem_iff.mp hcandidate)).2
    rw [isProbeCandidate, Bool.and_eq_true, Bool.and_eq_true, decide_eq_true_eq] at hprobe
    exact fun hin => of_decide_eq_true hprobe.1.2 ((h.attempted _).mpr hin)
  · exact hsublist.subset (((hperm.map _).mem_iff).mp hmem)

/-- A connection of an untried candidate. -/
theorem Probed.connection (h : Probed tried call.workflow)
    (hnew : candidate.peripheralId ∉ tried) (hfound : candidate.peripheralId ∈ found call.workflow) :
    Probed (tried ++ [candidate.peripheralId]) (beginConnection candidate true call).workflow := by
  obtain ⟨ids, heq⟩ := beginConnection_workflow call candidate true
  rw [heq]
  refine ⟨h.distinct, ?_, fun id => ?_, fun id hmem => ?_, h.listed⟩
  · exact List.nodup_append.mpr ⟨h.once, List.nodup_singleton _, fun id hid other hother heq => by
      rw [List.mem_singleton.mp hother] at heq
      exact hnew (heq ▸ hid)⟩
  · show id ∈ insert candidate.peripheralId call.workflow.attemptedPeripheralIds ↔ _
    rw [Finset.mem_insert, h.attempted, List.mem_append, List.mem_singleton, or_comm]
  · rcases List.mem_append.mp hmem with hmem | hmem
    · exact h.known id hmem
    · rw [List.mem_singleton.mp hmem]
      exact hfound

/-- A probe takes the head of its queue, or ends. -/
theorem Probed.probes (h : Probed tried call.workflow)
    (hqueue : Fresh tried (found call.workflow)
      (queueFrom call.workflow call.workflow.candidateIndex))
    (heffects : mains call.effects = []) (hprobes : Probes call call') :
    Probed (tried ++ connects call'.effects) call'.workflow ∧
      Upcoming (tried ++ connects call'.effects) call'.workflow := by
  cases hprobes with
  | @connection candidate hnext =>
    have hconnects : connects (beginConnection candidate true call).effects =
        [candidate.peripheralId] := by
      rw [connects_mains, beginConnection_mains, heffects]
      rfl
    rw [queueFrom_cons hnext] at hqueue
    rw [hconnects]
    refine ⟨h.connection (hqueue.untried _ List.mem_cons_self)
      (hqueue.found _ List.mem_cons_self), ?_⟩
    obtain ⟨ids, heq⟩ := beginConnection_workflow call candidate true
    rw [heq]
    exact hqueue.tail
  | exhausted error =>
    have hconnects : connects (fail error call).effects = [] := by
      rw [connects_mains, fail_mains, heffects]
      rfl
    rw [hconnects, List.append_nil, fail_workflow]
    refine ⟨{ h with }, ?_⟩
    cases hnext : call.workflow.probeCandidates[call.workflow.candidateIndex]? with
    | none =>
      -- nothing is left behind the end of the list
      have hnil : queueFrom call.workflow (call.workflow.candidateIndex + 1) = [] := by
        rw [queueFrom, List.drop_eq_nil_of_le (by have := List.getElem?_eq_none_iff.mp hnext; omega),
          List.map_nil]
      show Fresh tried _ (queueFrom call.workflow (call.workflow.candidateIndex + 1))
      rw [hnil]
      exact fresh_nil
    | some candidate =>
      rw [queueFrom_cons hnext] at hqueue
      exact ⟨hqueue.nodup.of_cons, fun id hmem => hqueue.untried id (List.mem_cons_of_mem _ hmem),
        fun id hmem => hqueue.found id (List.mem_cons_of_mem _ hmem)⟩

/-- After a settled disconnection the queue goes on, or it is prepared anew. -/
theorem Probed.next (h : Probed tried w) (hupcoming : Upcoming tried w)
    (hsize : w.discovered.length ≤ U64_MAX) :
    Probed tried (nextProbe w) ∧
      Fresh tried (found (nextProbe w)) (queueFrom (nextProbe w) (nextProbe w).candidateIndex) := by
  by_cases hempty : w.probeCandidates.isEmpty = true
  · rw [nextProbe_empty hempty]
    exact Probed.prepared (w := retried { w with
      disconnectRequestId := none, disconnectOutcome := none }) { h with }
  · rw [nextProbe_next hempty]
    refine ⟨{ h with }, ?_⟩
    show Fresh tried (found w) (queueFrom w (saturatingAdd w.candidateIndex 1))
    by_cases hlast : w.candidateIndex + 1 ≤ U64_MAX
    · rw [saturatingAdd, min_eq_left hlast]
      exact hupcoming
    · -- an index that saturates is behind the end of the list
      have hnil : queueFrom w (saturatingAdd w.candidateIndex 1) = [] := by
        have hlisted := h.listed
        rw [queueFrom, List.drop_eq_nil_of_le (by rw [saturatingAdd]; omega), List.map_nil]
      rw [hnil]
      exact fresh_nil

end Queue

/-! ## Where a reconnection stands -/

/-- How many answers can have been taken in a phase, after `tried` connections. -/
def Taken (phase : Connection.Phase) (tried taken : Nat) : Prop :=
  match phase with
  | .scanning => taken = 0
  | .stoppingScan => taken ≤ 1
  | .connecting => taken + 2 ≤ 4 * tried
  | .discovering => taken + 1 ≤ 4 * tried
  | .readingSerial => taken ≤ 4 * tried
  | .disconnecting | .persisting => taken ≤ 4 * tried + 1
  | _ => taken ≤ 4 * tried + 2

/-- The request that the phase waits for is known. -/
def Waits (w : ConnectionWorkflow) : Prop :=
  match w.phase with
  | .scanning => w.scanTimerRequestId ≠ none ∧ w.scanTimerId ≠ none
  | .stoppingScan => w.stopScanRequestId ≠ none
  | .connecting => w.connectRequestId ≠ none
  | .discovering => w.discoverRequestId ≠ none
  | .readingSerial => w.readRequestId ≠ none
  | .disconnecting => w.disconnectRequestId ≠ none
  | .persisting => w.persistRequestId ≠ none
  | .pending => False
  | .completed | .failed => True

/-- What a reconnection's phase says about its attempts. -/
structure Placed (tried : List String) (taken : Nat) (w : ConnectionWorkflow) : Prop where
  scanning : w.phase = .scanning → w.activeCandidate = none
  scan : w.phase = .scanning ∨ w.phase = .stoppingScan → tried = [] ∧ w.probeCandidates = []
  selected : w.phase = .stoppingScan →
    ∀ candidate, w.activeCandidate = some candidate → candidate.peripheralId ∈ found w
  probing : w.phase = .disconnecting → w.disconnectOutcome = some .probeNext
  taken : Taken w.phase tried.length taken
  waits : Waits w

section Steps

variable {w : ConnectionWorkflow} {context : WorkflowContext} {call call' : Call}
  {event : HostEvent} {candidate : DeviceCandidate} {tried : List String} {taken more : Nat}

theorem waits_disconnecting (h : w.phase = .disconnecting) :
    Waits w ↔ w.disconnectRequestId ≠ none := by
  rw [Waits, h]

/-- The place of a workflow whose attempts have begun. -/
theorem placed_attempt (hscan : w.phase ≠ .scanning) (hstopping : w.phase ≠ .stoppingScan)
    (hprobing : w.phase = .disconnecting → w.disconnectOutcome = some .probeNext)
    (htaken : Taken w.phase tried.length taken) (hwaits : Waits w) : Placed tried taken w where
  scanning h := absurd h hscan
  scan h := by
    rcases h with h | h
    · exact absurd h hscan
    · exact absurd h hstopping
  selected h := absurd h hstopping
  probing := hprobing
  taken := htaken
  waits := hwaits

theorem placed_connection (h : taken ≤ 4 * tried.length + 2) :
    Placed (tried ++ [candidate.peripheralId]) taken
      (beginConnection candidate true call).workflow := by
  obtain ⟨ids, heq⟩ := beginConnection_workflow call candidate true
  rw [heq]
  refine placed_attempt nofun nofun nofun ?_ (Option.some_ne_none _)
  show taken + 2 ≤ 4 * (tried ++ [candidate.peripheralId]).length
  rw [List.length_append, List.length_singleton]
  omega

theorem placed_fail (error : DeviceSdkError) (h : taken ≤ 4 * tried.length + 2) :
    Placed tried taken (fail error call).workflow := by
  rw [fail_workflow]
  exact placed_attempt nofun nofun nofun h trivial

theorem Probes.placed (hprobes : Probes call call') (heffects : mains call.effects = [])
    (h : taken ≤ 4 * tried.length + 2) :
    Placed (tried ++ connects call'.effects) taken call'.workflow := by
  cases hprobes with
  | @connection candidate hnext =>
    rw [connects_mains, beginConnection_mains, heffects]
    exact placed_connection h
  | exhausted error =>
    rw [connects_mains, fail_mains, heffects, List.filterMap_nil, List.append_nil]
    exact placed_fail error h

theorem Probes.phase (hprobes : Probes call call') : call'.workflow.phase ≠ .disconnecting := by
  cases hprobes with
  | @connection candidate hnext =>
    obtain ⟨ids, heq⟩ := beginConnection_workflow call candidate true
    rw [heq]
    nofun
  | exhausted error =>
    rw [fail_workflow]
    nofun

/-- An answer that settles a disconnection ends it. -/
theorem settles_of_awaits (hphase : w.phase = .disconnecting)
    (hprobing : w.disconnectOutcome = some .probeNext) (hawaits : w.awaits event = true)
    (h : dispatch w event context = .ok call) : call.workflow.phase ≠ .disconnecting := by
  obtain ⟨id, kind⟩ := event
  unfold awaits at hawaits
  rw [hphase] at hawaits
  have hfinish (hcall : dispatchPhase w id kind (.begin w context) = some (finishDisconnect
      ((Step.begin w context).update fun w => { w with disconnectRequestId := none })))
      (hkind : kind ≠ .checkpointSaved) : call.workflow.phase ≠ .disconnecting := by
    rcases dispatch_ok h with ⟨hsaved, -⟩ | hok
    · exact absurd hsaved hkind
    · rw [hcall] at hok
      have hprobe := Option.some.inj hok
      rw [finishDisconnect] at hprobe
      simp only [Step.update_workflow, Step.begin_workflow, hprobing] at hprobe
      rcases beginNextProbe_phase hprobe with hnew | hnew <;> rw [hnew] <;> decide
  cases kind with
  | ble answer =>
    cases answer with
    | disconnected peripheralId reasonCode =>
      have hanswer := of_decide_eq_true hawaits
      exact hfinish (if_pos ⟨hphase, hanswer⟩) (by rintro ⟨⟩)
    | failed platformCode =>
      obtain ⟨hid, hconnect, hdiscover, hread⟩ := of_decide_eq_true hawaits
      refine hfinish ?_ (by rintro ⟨⟩)
      rw [dispatchPhase, if_neg (by tauto), if_neg hconnect, if_neg (by tauto), if_pos hid]
    | _ => cases hawaits
  | _ => cases hawaits

/-- What a reconnection keeps about its attempts. -/
structure Probing (tried : List String) (taken : Nat) (w : ConnectionWorkflow) : Prop where
  probed : Probed tried w
  upcoming : Upcoming tried w
  placed : Placed tried taken w

/-- A checkpoint, a report or a late result of the scan is no answer. -/
theorem awaits_checkpointSaved (id : RequestId) : w.awaits ⟨id, .checkpointSaved⟩ = false := by
  unfold awaits
  cases w.phase <;> rfl

theorem awaits_scanResult (id : RequestId) :
    w.awaits ⟨id, .ble (.scanResult candidate)⟩ = false := by
  unfold awaits
  cases w.phase <;> rfl

theorem probing_idle (hidle : w.awaits event = false) (heffects : connects call.effects = [])
    (hprobed : Probed tried call.workflow)
    (hupcoming : Upcoming tried call.workflow) (hplaced : Placed tried taken call.workflow) :
    Probing (tried ++ connects call.effects) (taken + (w.awaits event).toNat) call.workflow := by
  rw [heffects, hidle, List.append_nil]
  exact ⟨hprobed, hupcoming, hplaced⟩

/-- The scan is stopped. -/
theorem Probing.stopScan (hprobed : Probed [] call.workflow) (hlist : call.workflow.probeCandidates = [])
    (heffects : mains call.effects = [])
    (hselected : ∀ candidate, call.workflow.activeCandidate = some candidate →
      candidate.peripheralId ∈ found call.workflow) (htaken : taken ≤ 1) :
    Probing ([] ++ connects (ConnectionWorkflow.stopScan call).effects) taken
      (ConnectionWorkflow.stopScan call).workflow := by
  obtain ⟨ids, heq⟩ := stopScan_workflow call
  rw [connects_mains, stopScan_mains, heffects, heq]
  refine ⟨{ hprobed with }, ?_, nofun, fun _ => ⟨rfl, hlist⟩, fun _ => hselected, nofun, htaken,
    Option.some_ne_none _⟩
  show Fresh [] _ (queueFrom call.workflow _)
  rw [queueFrom_nil hlist]
  exact fresh_nil

/-- A report keeps the found peripherals distinct. -/
theorem Probed.recorded (h : Probed tried w) : Probed tried (recordCandidate candidate w) := by
  have hfound : found (recordCandidate candidate w) =
      if candidate.peripheralId ∈ found w then found w
      else found w ++ [candidate.peripheralId] := found_recordCandidate
  have hlength : (recordCandidate candidate w).discovered.length ≥ w.discovered.length := by
    rw [recordCandidate]
    split
    · exact (List.length_set ..).ge
    · exact (List.length_append ..).ge.trans' (Nat.le_add_right _ _)
  have hrest : (recordCandidate candidate w).attemptedPeripheralIds = w.attemptedPeripheralIds ∧
      (recordCandidate candidate w).probeCandidates = w.probeCandidates := by
    rw [recordCandidate]
    split <;> exact ⟨rfl, rfl⟩
  refine ⟨?_, h.once, fun id => ?_, fun id hmem => ?_, ?_⟩
  · rw [hfound]
    split
    · exact h.distinct
    · next hnew =>
      exact List.nodup_append.mpr ⟨h.distinct, List.nodup_singleton _, fun id hid other hother heq => by
        rw [List.mem_singleton.mp hother] at heq
        exact hnew (heq ▸ hid)⟩
  · rw [hrest.1]
    exact h.attempted id
  · rw [hfound]
    split
    · exact h.known id hmem
    · exact List.mem_append_left _ (h.known id hmem)
  · rw [hrest.2]
    exact h.listed.trans hlength

theorem mem_found_recordCandidate :
    candidate.peripheralId ∈ found (recordCandidate candidate w) := by
  rw [found_recordCandidate]
  split
  · assumption
  · exact List.mem_append_right _ List.mem_cons_self

/-- An answer counts once. -/
theorem toNat_awaits_le (w : ConnectionWorkflow) (event : HostEvent) :
    (w.awaits event).toNat ≤ 1 :=
  Bool.toNat_le _

/-- One accepted event of a reconnection. -/
theorem Transition.probing (h : Transition w context event call) (hw : Formed w)
    (hmode : w.mode = .reconnect) (hcall : dispatch w event context = .ok call)
    (hp : Probing tried taken w) (hsize : w.discovered.length ≤ U64_MAX) :
    Probing (tried ++ connects call.effects) (taken + (w.awaits event).toNat) call.workflow := by
  have hone := toNat_awaits_le w event
  have hsharp := dispatch_sharp hw hmode hp.placed.probing hcall
  have htaken := hp.placed.taken
  -- an attempt is answered four times at most, and `Taken` says how often it was
  cases h with
  | checkpointSaved =>
    exact probing_idle (awaits_checkpointSaved _) rfl { hp.probed with } hp.upcoming
      { hp.placed with }
  | @recorded id candidate hphase hid =>
    obtain ⟨htried, hlist⟩ := hp.placed.scan (.inl hphase)
    have hrest : (recordCandidate candidate w).phase = w.phase ∧
        (recordCandidate candidate w).activeCandidate = w.activeCandidate ∧
        (recordCandidate candidate w).probeCandidates = w.probeCandidates ∧
        (recordCandidate candidate w).scanTimerRequestId = w.scanTimerRequestId ∧
        (recordCandidate candidate w).scanTimerId = w.scanTimerId := by
      rw [recordCandidate]
      split <;> exact ⟨rfl, rfl, rfl, rfl, rfl⟩
    obtain ⟨hsame, hactive, hprobes, hrequest, htimer⟩ := hrest
    refine probing_idle (awaits_scanResult _) rfl hp.probed.recorded ?_ ?_
    · show Fresh tried _ (queueFrom (recordCandidate candidate w) _)
      rw [queueFrom_nil (hprobes.trans hlist)]
      exact fresh_nil
    · have hwaits := hp.placed.waits
      rw [Waits, hphase] at hwaits
      refine ⟨fun _ => hactive.trans (hp.placed.scanning hphase),
        fun _ => ⟨htried, hprobes.trans hlist⟩, fun hstopping => ?_, fun hdrop => ?_, ?_, ?_⟩
      · cases hphase.symm.trans (hsame.symm.trans hstopping)
      · cases hphase.symm.trans (hsame.symm.trans hdrop)
      · show Taken (recordCandidate candidate w).phase _ _
        rw [hsame]
        exact htaken
      · show Waits (recordCandidate candidate w)
        rw [Waits, hsame, hphase, hrequest, htimer]
        exact hwaits
  | @selected id candidate hphase hid =>
    -- the scan stops for the candidate before anything was tried
    obtain ⟨rfl, hlist⟩ := hp.placed.scan (.inl hphase)
    rw [hphase] at htaken
    have hprobes : (recordCandidate candidate w).probeCandidates = [] := by
      rw [recordCandidate]
      split <;> exact hlist
    refine Probing.stopScan ?_ hprobes rfl (fun other hother => ?_) (by
      have : taken = 0 := htaken
      omega)
    · have hrecorded : Probed [] (recordCandidate candidate w) := hp.probed.recorded
      exact { hrecorded with }
    · obtain rfl := Option.some.inj hother
      exact mem_found_recordCandidate
  | scanTimedOut hphase =>
    obtain ⟨rfl, hlist⟩ := hp.placed.scan (.inl hphase)
    rw [hphase] at htaken
    refine Probing.stopScan hp.probed hlist rfl (fun other hother => ?_) (by
      have : taken = 0 := htaken
      omega)
    cases (hp.placed.scanning hphase).symm.trans hother
  | lateScanResult => exact probing_idle (awaits_scanResult _) rfl hp.probed hp.upcoming hp.placed
  | lateScanTimer hphase =>
    refine probing_idle ?_ rfl hp.probed hp.upcoming hp.placed
    unfold awaits
    rw [hphase]
  | @scanStopped id candidate hphase hid hactive =>
    -- the first attempt: nothing was tried, and the queue is empty
    obtain ⟨rfl, hlist⟩ := hp.placed.scan (.inr hphase)
    rw [hphase] at htaken
    have hbound : taken ≤ 1 := htaken
    rw [connects_mains, beginConnection_mains]
    have hcleared : Probed [] (Step.begin { w with
        scanRequestId := none, scanTimerRequestId := none, scanTimerId := none
        stopScanRequestId := none } context).workflow := { hp.probed with }
    refine ⟨hcleared.connection List.not_mem_nil (hp.placed.selected hphase candidate hactive), ?_,
      placed_connection (by simp only [List.length_nil]; omega)⟩
    obtain ⟨ids, heq⟩ := beginConnection_workflow (.begin { w with
      scanRequestId := none, scanTimerRequestId := none, scanTimerId := none
      stopScanRequestId := none } context) candidate true
    rw [heq]
    show Fresh _ _ (queueFrom w _)
    rw [queueFrom_nil hlist]
    exact fresh_nil
  | scanEnded hphase hid hactive hprobes =>
    obtain ⟨rfl, hlist⟩ := hp.placed.scan (.inr hphase)
    rw [hphase] at htaken
    have hbound : taken ≤ 1 := htaken
    have hcleared : Probed [] { w with
        scanRequestId := none, scanTimerRequestId := none, scanTimerId := none
        stopScanRequestId := none } := { hp.probed with }
    obtain ⟨hprepared, hqueue⟩ := hcleared.prepared
    obtain ⟨hprobed, hupcoming⟩ := @Probed.probes (.begin _ context) _ _ hprepared hqueue rfl hprobes
    exact ⟨hprobed, hupcoming, hprobes.placed rfl (by simp only [List.length_nil]; omega)⟩
  | connected hphase hid hactive =>
    rw [hphase] at htaken
    have hbound : taken + 2 ≤ 4 * tried.length := htaken
    have heffects (peripheralId : String) :
        connects (ConnectionWorkflow.connected peripheralId (.begin w context)).effects = [] := by
      rw [connects_mains, ConnectionWorkflow.connected, pushCheckpoint_mains]
      rfl
    rw [heffects, List.append_nil, ConnectionWorkflow.connected, pushCheckpoint_workflow]
    refine ⟨{ hp.probed with }, hp.upcoming,
      placed_attempt (by rintro ⟨⟩) (by rintro ⟨⟩) (by rintro ⟨⟩) ?_ (Option.some_ne_none _)⟩
    show taken + _ + 1 ≤ 4 * tried.length
    omega
  | discovered hphase hid hactive =>
    rw [hphase] at htaken
    have hbound : taken + 1 ≤ 4 * tried.length := htaken
    have heffects : connects ((Step.begin { w with
        discoverRequestId := none, phase := .readingSerial } context).request readSerialEffect
        fun id w => { w with readRequestId := some id }).effects = [] := rfl
    rw [heffects, List.append_nil]
    refine ⟨{ hp.probed with }, hp.upcoming,
      placed_attempt (by rintro ⟨⟩) (by rintro ⟨⟩) (by rintro ⟨⟩) ?_ (Option.some_ne_none _)⟩
    show taken + _ ≤ 4 * tried.length
    omega
  | verified hphase hid hparse hexpected hactive hpersists =>
    rw [hphase] at htaken
    have hbound : taken ≤ 4 * tried.length := htaken
    obtain ⟨ids, heq⟩ := hpersists.workflow
    rw [connects_mains, hpersists.mains, heq]
    refine ⟨?_, ?_, placed_attempt (by rintro ⟨⟩) (by rintro ⟨⟩) (by rintro ⟨⟩) ?_ (Option.some_ne_none _)⟩
    · exact (List.append_nil tried).symm ▸ { hp.probed with }
    · exact (List.append_nil tried).symm ▸ hp.upcoming
    · show taken + _ ≤ 4 * (tried ++ []).length + 1
      rw [List.append_nil]
      omega
  | @dropped event outcome candidate discoverRequestId readRequestId call hgiven houtcome hactive
      hdiscover hread hdrops =>
    have hbound : taken ≤ 4 * tried.length := by
      rcases hgiven.open_attempt with hphase | hphase | hphase
      · rw [hphase] at htaken
        have : taken + 2 ≤ 4 * tried.length := htaken
        omega
      · rw [hphase] at htaken
        have : taken + 1 ≤ 4 * tried.length := htaken
        omega
      · rw [hphase] at htaken
        exact htaken
    obtain ⟨ids, heq⟩ := hdrops.workflow
    have hprobing := hsharp.dropped
    rw [heq] at hprobing
    rw [connects_mains, hdrops.mains, heq]
    refine ⟨?_, ?_, placed_attempt (by rintro ⟨⟩) (by rintro ⟨⟩) hprobing ?_ (Option.some_ne_none _)⟩
    · exact (List.append_nil tried).symm ▸ { hp.probed with }
    · exact (List.append_nil tried).symm ▸ hp.upcoming
    · show taken + _ ≤ 4 * (tried ++ []).length + 1
      rw [List.append_nil]
      omega
  | late hphase hlate hconnect hdiscover hread =>
    -- the answer is late, and the disconnect it did not answer goes on
    refine probing_idle ?_ rfl { hp.probed with } hp.upcoming ⟨hp.placed.scanning, hp.placed.scan,
      hp.placed.selected, hp.placed.probing, htaken, ?_⟩
    · by_contra hanswer
      exact settles_of_awaits hphase (hp.placed.probing hphase) (eq_true_of_ne_false hanswer) hcall
        hphase
    · refine (waits_disconnecting ?_).mpr ?_
      · exact hphase
      · exact (waits_disconnecting hphase).mp hp.placed.waits
  | probesNext hphase hsettles hmode' hprobed hprobes =>
    -- the queue holds only candidates that were not tried, and its first is next
    rw [hphase] at htaken
    have hbound : taken ≤ 4 * tried.length + 1 := htaken
    have hprobe := hsharp.settled hphase hprobes.phase
    obtain ⟨hprobed, hqueue⟩ := hp.probed.next hp.upcoming hsize
    obtain ⟨call', hcall', hnext⟩ := @beginNextProbe_probes (.begin (nextProbe w) context)
      (by
        rw [Step.begin_workflow, nextProbe_device]
        exact hw.device hmode)
    obtain rfl := Outcome.ok.inj (hcall'.symm.trans hprobe)
    obtain ⟨hprobed', hupcoming⟩ := hprobed.probes hqueue rfl hnext
    exact ⟨hprobed', hupcoming, hnext.placed rfl (by omega)⟩
  | @disconnectFails id event error hphase hsettles =>
    rw [hphase] at htaken
    have hbound : taken ≤ 4 * tried.length + 1 := htaken
    rw [connects_mains, fail_mains]
    refine ⟨?_, ?_, placed_fail error ?_⟩
    · rw [fail_workflow]
      exact (List.append_nil tried).symm ▸ { hp.probed with }
    · rw [fail_workflow]
      exact (List.append_nil tried).symm ▸ hp.upcoming
    · show taken + _ ≤ 4 * (tried ++ []).length + 2
      rw [List.append_nil]
      omega
  | saved hphase hid hactive hdevice =>
    rw [hphase] at htaken
    have hbound : taken ≤ 4 * tried.length + 1 := htaken
    show Probing (tried ++ []) _ _
    rw [List.append_nil]
    refine ⟨{ hp.probed with }, hp.upcoming, placed_attempt (by rintro ⟨⟩) (by rintro ⟨⟩) (by rintro ⟨⟩) ?_ trivial⟩
    show taken + _ ≤ 4 * tried.length + 2
    omega
  | connectRetried hphase hid hmode' hprobes =>
    rw [hphase] at htaken
    have hbound : taken + 2 ≤ 4 * tried.length := htaken
    have hcleared : Probed tried { w with
        connectRequestId := none, attemptTimerRequestId := none, attemptTimerId := none } :=
      { hp.probed with }
    obtain ⟨hprepared, hqueue⟩ := hcleared.prepared
    have heffects : mains ((cancelAttemptTimer (.begin { w with
        connectRequestId := none } context)).update fun w =>
          retried (prepareProbeCandidates w)).effects = [] := by
      rw [Step.update_effects, cancelAttemptTimer_mains]
      rfl
    have hworkflow : ((cancelAttemptTimer (.begin { w with
        connectRequestId := none } context)).update fun w =>
          retried (prepareProbeCandidates w)).workflow = retried (prepareProbeCandidates { w with
        connectRequestId := none, attemptTimerRequestId := none, attemptTimerId := none }) := by
      rw [Step.update_workflow, cancelAttemptTimer_workflow]
      rfl
    obtain ⟨hprobed, hupcoming⟩ := @Probed.probes _ _ tried (by
      rw [hworkflow]
      exact { hprepared with }) (by
      rw [hworkflow]
      exact hqueue) heffects hprobes
    exact ⟨hprobed, hupcoming, hprobes.placed heffects (by omega)⟩
  | @connectFails id platformCode error hphase hid =>
    rw [hphase] at htaken
    have hbound : taken + 2 ≤ 4 * tried.length := htaken
    rw [connects_mains, fail_mains]
    refine ⟨?_, ?_, placed_fail error ?_⟩
    · rw [fail_workflow]
      exact (List.append_nil tried).symm ▸ { hp.probed with }
    · rw [fail_workflow]
      exact (List.append_nil tried).symm ▸ hp.upcoming
    · show taken + _ ≤ 4 * (tried ++ []).length + 2
      rw [List.append_nil]
      omega

end Steps

/-! ## Answers -/

section Answers

variable {w : ConnectionWorkflow} {context : WorkflowContext} {call call' : Call}
  {event : HostEvent} {id : RequestId} {kind : HostEventKind} {tried : List String} {taken : Nat}

/-- The phase has an arm for the answer that it waits for. -/
theorem dispatchPhase_awaits (h : w.awaits ⟨id, kind⟩ = true) :
    dispatchPhase w id kind call ≠ none := by
  cases kind with
  | timerFired timerId =>
    cases hphase : w.phase <;> simp_all [awaits, dispatchPhase]
  | connectionIdentitySaved =>
    cases hphase : w.phase <;> simp_all [awaits, dispatchPhase]
  | ble answer =>
    cases answer with
    | scanStopped => cases hphase : w.phase <;> simp_all [awaits, dispatchPhase]
    | connected peripheralId => cases hphase : w.phase <;> simp_all [awaits, dispatchPhase]
    | servicesDiscovered peripheralId => cases hphase : w.phase <;> simp_all [awaits, dispatchPhase]
    | readCompleted value => cases hphase : w.phase <;> simp_all [awaits, dispatchPhase]
    | disconnected peripheralId reasonCode =>
      cases hphase : w.phase <;> simp_all [awaits, dispatchPhase]
    | failed platformCode =>
      rw [dispatchPhase]
      split
      · exact Option.some_ne_none _
      · split
        · exact Option.some_ne_none _
        · split
          · exact Option.some_ne_none _
          · split
            · exact Option.some_ne_none _
            · cases hphase : w.phase <;> simp_all [awaits]
    | _ => cases hphase : w.phase <;> simp_all [awaits]
  | _ => cases hphase : w.phase <;> simp_all [awaits]

/-- The answer that the phase waits for is accepted. -/
theorem awaits_accepted (hw : Formed w) (h : w.awaits event = true) :
    ∃ call, dispatch w event context = .ok call := by
  obtain ⟨id, kind⟩ := event
  rcases dispatch_cases hw ⟨id, kind⟩ context with ⟨call, hcall, -⟩ | hreject
  · exact ⟨call, hcall⟩
  · rw [dispatch] at hreject
    split at hreject
    · cases congrArg Reduction.outcome hreject
    · rcases @dispatchPhase_handled w context hw id kind with hnone | ⟨call, hcall, -⟩
      · exact absurd hnone (dispatchPhase_awaits h)
      · simp only [hcall] at hreject
        cases congrArg Reduction.outcome hreject

/-- A phase that knows its request waits for an answer, and not only for the serial number. -/
theorem Placed.answer (h : Placed tried taken w) (hw : Formed w) (device : DeviceSerialNumber) :
    ∃ event, w.awaits event = true ∧ ¬Succeeds device w event := by
  have hwaits := h.waits
  rw [Waits] at hwaits
  have hanswer (kind : HostEventKind) {request : Option RequestId} (hrequest : request ≠ none)
      (hkind : ∀ value, kind ≠ .ble (.readCompleted value))
      (hawaits : ∀ id, request = some id → w.awaits ⟨id, kind⟩ = true) :
      ∃ event, w.awaits event = true ∧ ¬Succeeds device w event := by
    obtain ⟨id, hid⟩ := Option.ne_none_iff_exists'.mp hrequest
    refine ⟨⟨id, kind⟩, hawaits id hid, fun hsucceeds => ?_⟩
    unfold Succeeds at hsucceeds
    split at hsucceeds
    · next value heq => exact hkind value heq
    · exact hsucceeds
  have hactive (hattempt : w.activeCandidate ≠ none) : ∃ peripheralId, w.isActive peripheralId := by
    obtain ⟨candidate, hcandidate⟩ := Option.ne_none_iff_exists'.mp hattempt
    exact ⟨candidate.peripheralId, by simp [isActive, hcandidate]⟩
  cases hphase : w.phase with
  | pending => simp [hphase] at hwaits
  | completed => exact absurd hphase hw.running.1
  | failed => exact absurd hphase hw.running.2
  | scanning =>
    rw [hphase] at hwaits
    obtain ⟨timerId, htimer⟩ := Option.ne_none_iff_exists'.mp hwaits.2
    exact hanswer (.timerFired timerId) hwaits.1 (by rintro _ ⟨⟩) fun id hid => by
      simp [awaits, hphase, hid, htimer]
  | stoppingScan =>
    rw [hphase] at hwaits
    exact hanswer (.ble .scanStopped) hwaits (by rintro _ ⟨⟩) fun id hid => by simp [awaits, hphase, hid]
  | connecting =>
    rw [hphase] at hwaits
    exact hanswer (.ble (.failed none)) hwaits (by rintro _ ⟨⟩) fun id hid => by simp [awaits, hphase, hid]
  | discovering =>
    rw [hphase] at hwaits
    exact hanswer (.ble (.failed none)) hwaits (by rintro _ ⟨⟩) fun id hid => by simp [awaits, hphase, hid]
  | readingSerial =>
    rw [hphase] at hwaits
    exact hanswer (.ble (.failed none)) hwaits (by rintro _ ⟨⟩) fun id hid => by simp [awaits, hphase, hid]
  | disconnecting =>
    rw [hphase] at hwaits
    obtain ⟨peripheralId, hactive⟩ := hactive (hw.active (by tauto))
    exact hanswer (.ble (.disconnected peripheralId none)) hwaits (by rintro _ ⟨⟩) fun id hid => by
      simp [awaits, hphase, hid, hactive]
  | persisting =>
    rw [hphase] at hwaits
    exact hanswer .connectionIdentitySaved hwaits (by rintro _ ⟨⟩) fun id hid => by
      simp [awaits, hphase, hid]

end Answers

/-! ## Runs -/

section Runs

variable {device : DeviceSerialNumber} {hint : ReconnectHint} {started : List EffectRequest}
  {trace : List (EngineEntry ConnectionWorkflow)} {engine₀ engine : WorkflowEngine ConnectionWorkflow}
  {w : ConnectionWorkflow} {context : WorkflowContext} {call : Call} {event : HostEvent}
  {output : Outcome (List EffectRequest)}

theorem reported_snoc (hactive : engine.active = some w) :
    reported (trace ++ [⟨engine, .host event, output⟩]) =
      reported trace ++ (w.reports event).toList := by
  rw [reported, List.filterMap_append]
  congr 1
  simp only [hactive, List.filterMap_cons, List.filterMap_nil]
  cases w.reports event <;> rfl

theorem answers_snoc (hactive : engine.active = some w) :
    answers (trace ++ [⟨engine, .host event, output⟩]) =
      answers trace + (w.awaits event).toNat := by
  rw [answers, List.countP_append]
  congr 1
  simp only [hactive, List.countP_cons, List.countP_nil]
  cases w.awaits event <;> rfl

/-- An entry without an event of an active workflow neither reports nor answers. -/
theorem unreported_snoc {entry : EngineEntry ConnectionWorkflow}
    (h : ∀ w event, entry.pre.active = some w → entry.input ≠ .host event) :
    reported (trace ++ [entry]) = reported trace ∧ answers (trace ++ [entry]) = answers trace := by
  rw [reported, List.filterMap_append, answers, List.countP_append]
  obtain ⟨engine, input, output⟩ := entry
  cases hactive : engine.active with
  | none => simp [hactive, reported, answers]
  | some w =>
    cases input with
    | host event => exact absurd rfl (h w event hactive)
    | cancelled id => simp [hactive, reported, answers]

theorem Probes.found_eq {call' : Call} (hprobes : Probes call call') :
    call'.workflow.mode = call.workflow.mode ∧
      call'.workflow.discovered = call.workflow.discovered := by
  cases hprobes with
  | @connection candidate hnext =>
    obtain ⟨ids, heq⟩ := beginConnection_workflow call candidate true
    rw [heq]
    exact ⟨rfl, rfl⟩
  | exhausted error =>
    rw [fail_workflow]
    exact ⟨rfl, rfl⟩

/-- What one event adds to the candidates. -/
theorem Transition.found_eq (h : Transition w context event call) :
    call.workflow.mode = w.mode ∧
      (call.workflow.discovered = w.discovered ∧ w.reports event = none ∨
        ∃ candidate : DeviceCandidate, w.reports event = some candidate.peripheralId ∧
          call.workflow.discovered = (recordCandidate candidate w).discovered) := by
  have hrecord (candidate : DeviceCandidate) : (recordCandidate candidate w).mode = w.mode := by
    rw [recordCandidate]
    split <;> rfl
  -- only a scan result taken while scanning is recorded; the other steps leave the candidates
  cases h with
  | @recorded id candidate hphase hid =>
    exact ⟨hrecord candidate, .inr ⟨candidate, if_pos ⟨hphase, hid.symm⟩, rfl⟩⟩
  | @selected id candidate hphase hid =>
    obtain ⟨ids, heq⟩ := stopScan_workflow (.begin { recordCandidate candidate w with
      activeCandidate := some candidate, verifySerial := true } context)
    rw [heq]
    exact ⟨hrecord candidate, .inr ⟨candidate, if_pos ⟨hphase, hid.symm⟩, rfl⟩⟩
  | scanTimedOut =>
    obtain ⟨ids, heq⟩ := stopScan_workflow (.begin w context)
    rw [heq]
    exact ⟨rfl, .inl ⟨rfl, rfl⟩⟩
  | lateScanResult hphase =>
    refine ⟨rfl, .inl ⟨rfl, if_neg fun hguard => ?_⟩⟩
    cases hphase.symm.trans hguard.1
  | checkpointSaved | lateScanTimer | discovered | saved => exact ⟨rfl, .inl ⟨rfl, rfl⟩⟩
  | @scanStopped id candidate =>
    obtain ⟨ids, heq⟩ := beginConnection_workflow (.begin { w with
      scanRequestId := none, scanTimerRequestId := none, scanTimerId := none
      stopScanRequestId := none } context) candidate true
    rw [heq]
    exact ⟨rfl, .inl ⟨rfl, rfl⟩⟩
  | scanEnded _ _ _ hprobes =>
    exact ⟨hprobes.found_eq.1, .inl ⟨hprobes.found_eq.2, rfl⟩⟩
  | connected =>
    rw [ConnectionWorkflow.connected, pushCheckpoint_workflow]
    exact ⟨rfl, .inl ⟨rfl, rfl⟩⟩
  | verified _ _ _ _ _ hpersists =>
    obtain ⟨ids, heq⟩ := hpersists.workflow
    rw [heq]
    exact ⟨rfl, .inl ⟨rfl, rfl⟩⟩
  | dropped hgiven _ _ _ _ hdrops =>
    obtain ⟨ids, heq⟩ := hdrops.workflow
    rw [heq]
    cases hgiven <;> exact ⟨rfl, .inl ⟨rfl, rfl⟩⟩
  | late _ hlate => cases hlate <;> exact ⟨rfl, .inl ⟨rfl, rfl⟩⟩
  | probesNext _ hsettles _ _ hprobes =>
    cases hsettles <;> exact ⟨hprobes.found_eq.1, .inl ⟨hprobes.found_eq.2, rfl⟩⟩
  | disconnectFails _ hsettles =>
    rw [fail_workflow]
    cases hsettles <;> exact ⟨rfl, .inl ⟨rfl, rfl⟩⟩
  | connectRetried _ _ _ hprobes =>
    obtain ⟨hmode, hdiscovered⟩ := hprobes.found_eq
    rw [Step.update_workflow, cancelAttemptTimer_workflow] at hmode hdiscovered
    exact ⟨hmode, .inl ⟨hdiscovered, rfl⟩⟩
  | connectFails =>
    rw [fail_workflow]
    exact ⟨rfl, .inl ⟨rfl, rfl⟩⟩

theorem Transition.mem_found (h : Transition w context event call) (id : String) :
    id ∈ found call.workflow ↔ id ∈ found w ∨ id ∈ (w.reports event).toList := by
  rcases h.found_eq.2 with ⟨hsame, hnone⟩ | ⟨candidate, hreports, hdiscovered⟩
  · rw [found, hsame, hnone]
    exact (or_iff_left List.not_mem_nil).symm
  · have hfound : found call.workflow = found (recordCandidate candidate w) := by
      rw [found, hdiscovered]
      rfl
    rw [hfound, hreports, found_recordCandidate, Option.toList_some, List.mem_singleton]
    split
    · next hknown =>
      refine (or_iff_left_of_imp fun heq => ?_).symm
      rw [heq]
      exact hknown
    · rw [List.mem_append, List.mem_singleton]

/-- An identity is only saved after the expected serial number was read. -/
theorem Transition.succeeds (h : Transition w context event call) (hw : Formed w)
    (hdevice : w.device = some device)
    (hphase : call.workflow.phase = .persisting ∨ call.workflow.phase = .completed) :
    w.phase = .persisting ∨ Succeeds device w event := by
  have hstays (hsame : call.workflow.phase = w.phase) : w.phase = .persisting := by
    rw [hsame] at hphase
    exact hphase.resolve_right hw.running.1
  have hother {phase : Connection.Phase} (hnew : call.workflow.phase = phase)
      (hne : phase ≠ .persisting ∧ phase ≠ .completed) : False := by
    rw [hnew] at hphase
    exact hphase.elim hne.1 hne.2
  have hprobes {before : Call} (hprobes : Probes before call) : False := by
    cases hprobes with
    | @connection candidate hnext =>
      obtain ⟨ids, heq⟩ := beginConnection_workflow before candidate true
      exact hother (by rw [heq]) (by constructor <;> rintro ⟨⟩)
    | exhausted error =>
      exact hother (by rw [fail_workflow]) (by constructor <;> rintro ⟨⟩)
  cases h with
  | checkpointSaved | lateScanResult | lateScanTimer | late => exact .inl (hstays rfl)
  | recorded =>
    refine .inl (hstays ?_)
    rw [Step.begin_workflow, recordCandidate]
    split <;> rfl
  | selected | scanTimedOut =>
    rw [stopScan_phase] at hphase
    rcases hphase with h | h <;> cases h
  | @scanStopped id candidate =>
    obtain ⟨ids, heq⟩ := beginConnection_workflow (.begin { w with
      scanRequestId := none, scanTimerRequestId := none, scanTimerId := none
      stopScanRequestId := none } context) candidate true
    rw [heq] at hphase
    rcases hphase with h | h <;> cases h
  | scanEnded _ _ _ hnext | probesNext _ _ _ _ hnext | connectRetried _ _ _ hnext =>
    exact (hprobes hnext).elim
  | connected =>
    rw [ConnectionWorkflow.connected, pushCheckpoint_workflow] at hphase
    rcases hphase with h | h <;> cases h
  | discovered => rcases hphase with h | h <;> cases h
  | verified hreading hid hparse hexpected =>
    obtain rfl := hexpected device hdevice
    exact .inr ⟨hreading, hid, hparse⟩
  | dropped _ _ _ _ _ hdrops =>
    obtain ⟨ids, heq⟩ := hdrops.workflow
    rw [heq] at hphase
    rcases hphase with h | h <;> cases h
  | disconnectFails | connectFails =>
    rw [fail_workflow] at hphase
    rcases hphase with h | h <;> cases h
  | saved hpersisting => exact .inl hpersisting

/-- What a reconnection keeps along a run. -/
structure Attempts (device : DeviceSerialNumber) (started : List EffectRequest)
    (trace : List (EngineEntry ConnectionWorkflow)) (w : ConnectionWorkflow) : Prop where
  formed : Formed w
  mode : w.mode = .reconnect
  expected : w.device = some device
  scanned : ∀ id, id ∈ found w ↔ id ∈ reported trace
  probing : (reported trace).toFinset.card ≤ U64_MAX →
    Probing (connects (started ++ emitted trace)) (answers trace) w
  unsaved : Fruitless device trace → w.phase ≠ .persisting

/-- The attempts of a run: every one at another of the reported peripherals. -/
structure Distinct (started : List EffectRequest)
    (trace : List (EngineEntry ConnectionWorkflow)) : Prop where
  once : (connects (started ++ emitted trace)).Nodup
  known : ∀ id ∈ connects (started ++ emitted trace), id ∈ reported trace
  answered : answers trace ≤ 4 * (reported trace).toFinset.card + 2

theorem Taken.le {phase : Connection.Phase} {tried taken : Nat} (h : Taken phase tried taken) :
    taken ≤ 4 * tried + 2 := by
  unfold Taken at h
  split at h <;> omega

/-- A phase that waits for an answer has not taken them all. -/
theorem Taken.lt {tried : Nat} {taken : Nat} (h : Taken w.phase tried taken) (hw : Formed w)
    (hwaits : Waits w) : taken < 4 * tried + 2 := by
  cases hphase : w.phase with
  | pending => simp [Waits, hphase] at hwaits
  | completed => exact absurd hphase hw.running.1
  | failed => exact absurd hphase hw.running.2
  | _ =>
    simp only [Taken, hphase] at h
    omega

theorem card_reported (hw : ∀ id, id ∈ found w ↔ id ∈ reported trace)
    (hdistinct : (found w).Nodup) : (reported trace).toFinset.card = w.discovered.length := by
  have hsame : (reported trace).toFinset = (found w).toFinset := by
    ext id
    rw [List.mem_toFinset, List.mem_toFinset, hw]
  rw [hsame, List.toFinset_card_of_nodup hdistinct, found, List.length_map]

theorem Probing.distinct (h : Probing (connects (started ++ emitted trace)) (answers trace) w)
    (hw : ∀ id, id ∈ found w ↔ id ∈ reported trace) : Distinct started trace where
  once := h.probed.once
  known id hmem := (hw id).mp (h.probed.known id hmem)
  answered := by
    have hcard := card_reported hw h.probed.distinct
    have hle : (connects (started ++ emitted trace)).length ≤ (found w).length :=
      (h.probed.once.subperm h.probed.known).length_le
    have htaken := h.placed.taken.le
    rw [found, List.length_map] at hle
    omega

theorem card_reported_append (trace more : List (EngineEntry ConnectionWorkflow)) :
    (reported trace).toFinset.card ≤ (reported (trace ++ more)).toFinset.card := by
  refine Finset.card_le_card fun id hmem => ?_
  rw [List.mem_toFinset] at hmem ⊢
  rw [reported, List.filterMap_append]
  exact List.mem_append_left _ hmem

theorem Fails.host {entry : EngineEntry ConnectionWorkflow} (h : Fails device entry)
    (hactive : entry.pre.active = some w) (hevent : entry.input = .host event) :
    ¬Succeeds device w event := by
  rw [Fails, hactive, hevent] at h
  exact h

theorem Fails.cancelled {entry : EngineEntry ConnectionWorkflow} {id : CancellationId}
    (h : Fails device entry) (hactive : entry.pre.active = some w)
    (hevent : entry.input = .cancelled id) : id ≠ w.cancellationId := by
  rw [Fails, hactive, hevent] at h
  exact h

theorem Fruitless.init {entry : EngineEntry ConnectionWorkflow}
    (h : Fruitless device (trace ++ [entry])) : Fruitless device trace :=
  fun other hmem => h other (List.mem_append_left _ hmem)

theorem reports_accepted {id : String} (h : w.reports event = some id) :
    ∃ call, dispatch w event context = .ok call := by
  obtain ⟨request, kind⟩ := event
  unfold reports at h
  split at h
  · next candidate hkind =>
    obtain rfl : kind = .ble (.scanResult candidate) := hkind
    split at h
    · next hguard =>
      rw [dispatch, if_neg (fun hsaved => by cases hsaved.1), dispatchPhase, if_pos hguard]
      cases w.isExactCandidate candidate with
      | true => exact ⟨_, rfl⟩
      | false => exact ⟨_, rfl⟩
    · cases h
  · cases h

theorem Attempts.quiet {entry : EngineEntry ConnectionWorkflow}
    (h : Attempts device started trace w) (hreported : reported (trace ++ [entry]) = reported trace)
    (hanswers : answers (trace ++ [entry]) = answers trace) (hquiet : entry.output.effects = []) :
    Attempts device started (trace ++ [entry]) w := by
  refine ⟨h.formed, h.mode, h.expected, ?_, ?_, fun hfruitless => h.unsaved hfruitless.init⟩
  · rw [hreported]
    exact h.scanned
  · rw [hreported, hanswers, emitted_append, emitted_singleton, hquiet, List.append_nil]
    exact h.probing

/-- A rejected event is no report and no answer. -/
theorem Attempts.rejected {error : DeviceSdkError} (h : Attempts device started trace w)
    (hactive : engine.active = some w)
    (hcall : ∀ call, dispatch w event (engine.context w) ≠ .ok call) :
    Attempts device started (trace ++ [⟨engine, .host event, .err error⟩]) w := by
  refine h.quiet ?_ ?_ rfl
  · rw [reported_snoc hactive]
    cases hreports : w.reports event with
    | none => exact List.append_nil _
    | some id =>
      obtain ⟨call, hok⟩ := @reports_accepted _ (engine.context w) _ _ hreports
      exact absurd hok (hcall call)
  · rw [answers_snoc hactive]
    cases hawaits : w.awaits event with
    | false => rfl
    | true =>
      obtain ⟨call, hok⟩ := @awaits_accepted _ (engine.context w) _ h.formed hawaits
      exact absurd hok (hcall call)

/-- The candidates and the attempts after an accepted event. -/
theorem Attempts.accepted (h : Attempts device started trace w) (hactive : engine.active = some w)
    (hcall : dispatch w event (engine.context w) = .ok call)
    (hstep : Transition w (engine.context w) event call) :
    (∀ id, id ∈ found call.workflow ↔
        id ∈ reported (trace ++ [⟨engine, .host event, .ok call.effects⟩])) ∧
      ((reported (trace ++ [⟨engine, .host event, .ok call.effects⟩])).toFinset.card ≤ U64_MAX →
        Probing (connects (started ++
            emitted (trace ++ [⟨engine, .host event, .ok call.effects⟩])))
          (answers (trace ++ [⟨engine, .host event, .ok call.effects⟩])) call.workflow) := by
  refine ⟨fun id => ?_, fun hsize => ?_⟩
  · rw [hstep.mem_found, reported_snoc hactive, List.mem_append, h.scanned]
  · have hbefore := (card_reported_append trace _).trans hsize
    have hprobing := h.probing hbefore
    have hlength : w.discovered.length ≤ U64_MAX := by
      rw [← card_reported h.scanned hprobing.probed.distinct]
      exact hbefore
    rw [answers_snoc hactive, emitted_append, emitted_singleton, ← List.append_assoc,
      connects_append]
    exact hstep.probing h.formed h.mode hcall hprobing hlength

theorem cancel_connects (w : ConnectionWorkflow) (context : WorkflowContext) :
    ∃ call : Call, cancel w context = .ok call ∧ connects call.effects = [] := by
  have hdisconnects (call : Call) (candidate : Option DeviceCandidate)
      (hcall : mains call.effects = []) : (mains (letGo candidate call).effects).filterMap
        (fun issue => connectOf issue.2) = [] := by
    unfold letGo
    cases candidate with
    | none =>
      rw [hcall]
      rfl
    | some candidate =>
      rw [mains_request, cancelAttemptTimer_mains, hcall]
      rfl
  refine ⟨_, cancel_eq w context, ?_⟩
  rw [connects_mains, mains_request,
    if_neg (show ¬Main (.notify (.cancelled w.operation)) from not_false), List.append_nil]
  refine hdisconnects _ _ ?_
  unfold endScan
  split
  · cases h : w.scanTimerId <;> simp [h, Main]
  · rfl

/-- A scan begins without any attempt. -/
theorem attempts_beginScan {id : CancellationId} (hw : call.workflow = reconnect device hint id)
    (heffects : mains call.effects = []) :
    Attempts device (beginScan call).effects [] (beginScan call).workflow := by
  obtain ⟨w, context, effects⟩ := call
  obtain rfl : w = reconnect device hint id := hw
  have hformed : Formed (beginScan ⟨reconnect device hint id, context, effects⟩).workflow :=
    formed_reconnect device hint id
  have hconnects : connects (beginScan ⟨reconnect device hint id, context, effects⟩).effects = [] := by
    rw [connects_mains, beginScan_mains, heffects]
    rfl
  obtain ⟨ids, heq⟩ := beginScan_workflow ⟨reconnect device hint id, context, effects⟩
  rw [heq] at hformed ⊢
  refine ⟨hformed, rfl, rfl, fun _ => Iff.rfl, fun _ => ?_, fun _ => nofun⟩
  rw [emitted_nil, List.append_nil, hconnects]
  refine ⟨⟨List.nodup_nil, List.nodup_nil, fun id => ?_, nofun, le_rfl⟩, fresh_nil, ?_⟩
  · exact iff_of_false (Finset.notMem_empty id) List.not_mem_nil
  · refine ⟨fun _ => rfl, fun _ => ⟨rfl, rfl⟩, nofun, nofun, rfl, ?_⟩
    exact ⟨Option.some_ne_none _, Option.some_ne_none _⟩

theorem Started.attempts (h : Started (.reconnect device hint) started engine₀) :
    ∃ w, engine₀.active = some w ∧ Attempts device started [] w := by
  obtain ⟨engine, capabilities, id, hstart⟩ := h
  obtain ⟨w, hcreate, reduction, rfl, hactive, -, hout⟩ := start_ok hstart
  obtain rfl := Except.ok.inj hcreate
  refine ⟨_, hactive, ?_⟩
  obtain rfl := Outcome.ok.inj hout
  exact attempts_beginScan rfl rfl

theorem run_attempts (hstart : Started (.reconnect device hint) started engine₀)
    (h : EngineRun (fun _ _ _ => True) engine₀ trace engine) :
    Settled (fun trace w => Attempts device started trace w)
      (fun trace => (reported trace).toFinset.card ≤ U64_MAX → Distinct started trace)
      trace engine := by
  refine EngineRun.step_rule ?_ ?_ ?_ ?_ ?_ h
  -- at the start
  · obtain ⟨w, hactive, hattempts⟩ := hstart.attempts
    rw [settled_active hactive]
    exact hattempts
  -- an event of the host
  · intro trace engine w event _ hactive hinv _
    rcases dispatch_cases hinv.formed event (engine.context w) with ⟨call, hcall, hstep⟩ | hreject
    · obtain ⟨hfound, hprobing⟩ := hinv.accepted hactive hcall hstep
      refine .inl ⟨call, hcall, ?_⟩
      rcases hstep.keeps hinv.formed with hformed | ⟨status, hended⟩
      · refine .inl ⟨hformed.terminalStatus, hformed, ?_, ?_, hfound, hprobing,
          fun hfruitless hsaving => ?_⟩
        · exact hstep.found_eq.1.trans hinv.mode
        · exact hstep.agrees (fun other hother => Option.some.inj hother ▸ hinv.expected) device rfl
        · rcases hstep.succeeds hinv.formed hinv.expected (.inl hsaving) with hbefore | hsucceeds
          · exact hinv.unsaved hfruitless.init hbefore
          · exact (hfruitless _ List.mem_concat_self).host hactive rfl hsucceeds
      · exact .inr ⟨status, hended, fun hsize => (hprobing hsize).distinct hfound⟩
    · refine .inr ⟨w, engine.context w, w.unexpected, hreject, hinv.rejected hactive fun call hok => ?_⟩
      exact nomatch congrArg Reduction.outcome (hreject.symm.trans hok)
  -- the workflow is cancelled
  · intro trace engine w _ hactive hinv _
    obtain ⟨call, hcall, hnone⟩ := cancel_connects w (engine.context w)
    refine ⟨call, hcall, fun hsize => ?_⟩
    obtain ⟨hreported, hanswers⟩ := @unreported_snoc trace
      ⟨engine, .cancelled (WorkflowReducer.cancellationId w), .ok call.effects⟩
      (fun _ _ _ => nofun)
    rw [hreported] at hsize
    have hdistinct := (hinv.probing hsize).distinct hinv.scanned
    have heffects : connects (started ++ emitted (trace ++ [⟨engine,
        .cancelled (WorkflowReducer.cancellationId w), .ok call.effects⟩])) =
          connects (started ++ emitted trace) := by
      rw [emitted_append, emitted_singleton, ← List.append_assoc, connects_append]
      show _ ++ connects call.effects = _
      rw [hnone, List.append_nil]
    refine ⟨?_, ?_, ?_⟩
    · rw [heffects]
      exact hdistinct.once
    · rw [heffects, hreported]
      exact hdistinct.known
    · rw [hanswers, hreported]
      exact hdistinct.answered
  -- another workflow's cancellation
  · rintro trace entry w _ ⟨id, hinput, -⟩ _ hquiet hinv
    obtain ⟨hreported, hanswers⟩ := @unreported_snoc trace entry (fun _ event _ heq => by
      rw [hinput] at heq
      exact nomatch heq)
    exact hinv.quiet hreported hanswers hquiet
  -- after the end
  · intro trace entry hended _ hquiet hdistinct hsize
    obtain ⟨hreported, hanswers⟩ := @unreported_snoc trace entry (fun _ _ hactive => by
      rw [hended] at hactive
      exact nomatch hactive)
    rw [hreported] at hsize
    have hkept := hdistinct hsize
    have heffects : emitted (trace ++ [entry]) = emitted trace := by
      rw [emitted_append, emitted_singleton, hquiet, List.append_nil]
    refine ⟨?_, ?_, ?_⟩
    · rw [heffects]
      exact hkept.once
    · rw [heffects, hreported]
      exact hkept.known
    · rw [hanswers, hreported]
      exact hkept.answered

/-- A fruitless run that is over has found no candidate left. -/
theorem fruitless_over (hstart : Started (.reconnect device hint) started engine₀)
    (hrun : EngineRun (fun _ _ _ => True) engine₀ trace engine) (hover : engine.active = none)
    (hsize : (reported trace).toFinset.card ≤ U64_MAX) (hfruitless : Fruitless device trace) :
    engine.status = .failed (notFound device) := by
  obtain ⟨w₀, hactive₀, -⟩ := hstart.attempts
  obtain ⟨before, entry, after, w, rfl, hbefore, hactive, hend⟩ :=
    hrun.over (by rw [hactive₀]; exact Option.some_ne_none w₀) hover
  have hinv := (settled_active hactive).mp (run_attempts hstart hbefore)
  have hprobing := hinv.probing ((card_reported_append before _).trans hsize)
  have hlast := hfruitless entry (List.mem_append_right _ List.mem_cons_self)
  rcases hend with hcancelled | ⟨event, effects, hevent, hout, hterminal⟩
  · exact absurd rfl (hlast.cancelled hactive hcancelled)
  · rcases dispatch_cases hinv.formed event (entry.pre.context w) with ⟨call, hcall, hstep⟩ | hreject
    · have hsharp := dispatch_sharp hinv.formed hinv.mode hprobing.placed.probing hcall
      have hstatus : ConnectionWorkflow.terminalStatus call.workflow = .ok (some engine.status) := by
        have hsame : (WorkflowReducer.dispatch w event (entry.pre.context w)).workflow =
            call.workflow := congrArg Reduction.workflow hcall
        rw [← hsame]
        exact hterminal
      rw [ConnectionWorkflow.terminalStatus] at hstatus
      split at hstatus
      · next hcompleted =>
        rcases hstep.succeeds hinv.formed hinv.expected (.inr hcompleted) with hsaving | hsucceeds
        · refine absurd hsaving (hinv.unsaved fun other hmem => ?_)
          exact hfruitless other (List.mem_append_left _ hmem)
        · exact absurd hsucceeds (hlast.host hactive hevent)
      · next hfailed =>
        obtain ⟨other, hother, herror⟩ := hsharp.failed hfailed
        obtain rfl := Option.some.inj (hinv.expected.symm.trans hother)
        rw [herror] at hstatus
        exact (Option.some.inj (Outcome.ok.inj hstatus)).symm
      · cases hstatus
    · have herr : (WorkflowReducer.dispatch w event (entry.pre.context w)).outcome =
          .err w.unexpected := congrArg Reduction.outcome hreject
      rw [herr] at hout
      cases hout

/-- A reconnection connects every peripheral that was reported at most once.  It takes four answers
for every attempt and two for the scan at most, so it is over after as many; as long as it is not, it
waits for another one.  When no attempt has succeeded, it is over because no candidate is left.

A list of candidates is no longer than its index counts. -/
theorem reconnection_ends (hstart : Started (.reconnect device hint) started engine₀)
    (hrun : EngineRun (fun _ _ _ => True) engine₀ trace engine)
    (hsize : (reported trace).toFinset.card ≤ U64_MAX) :
    (connects (started ++ emitted trace)).Nodup ∧
      (∀ peripheralId ∈ connects (started ++ emitted trace), peripheralId ∈ reported trace) ∧
      (connects (started ++ emitted trace)).length ≤ (reported trace).toFinset.card ∧
      match engine.active with
      | some w =>
        answers trace < 4 * (reported trace).toFinset.card + 2 ∧
          (∃ event, w.awaits event = true ∧ ¬Succeeds device w event) ∧
          ∀ event, w.awaits event = true → (engine.dispatch (.host event)).2.isOk = true
      | none => Fruitless device trace → engine.status = .failed (notFound device) := by
  have hsettled := run_attempts hstart hrun
  have hlength (h : Distinct started trace) :
      (connects (started ++ emitted trace)).length ≤ (reported trace).toFinset.card := by
    rw [← List.toFinset_card_of_nodup h.once]
    refine Finset.card_le_card fun id hmem => ?_
    rw [List.mem_toFinset] at hmem ⊢
    exact h.known id hmem
  cases hactive : engine.active with
  | none =>
    have hdistinct := (settled_ended hactive).mp hsettled hsize
    exact ⟨hdistinct.once, hdistinct.known, hlength hdistinct,
      fruitless_over hstart hrun hactive hsize⟩
  | some w =>
    have hinv := (settled_active hactive).mp hsettled
    have hprobing := hinv.probing hsize
    have hdistinct := hprobing.distinct hinv.scanned
    refine ⟨hdistinct.once, hdistinct.known, hlength hdistinct, ?_,
      hprobing.placed.answer hinv.formed device, fun event hawaits => ?_⟩
    · have hlt := hprobing.placed.taken.lt hinv.formed hprobing.placed.waits
      have hle := hlength hdistinct
      omega
    · obtain ⟨call, hcall⟩ := @awaits_accepted _ (engine.context w) _ hinv.formed hawaits
      rcases dispatch_cases hinv.formed event (engine.context w) with ⟨_, hok, hstep⟩ | hreject
      · have hreduction : WorkflowReducer.dispatch w event (engine.context w) = .ok _ := hok
        rw [dispatch_active hactive, hreduction]
        rcases hstep.keeps hinv.formed with hformed | ⟨status, hended⟩
        · rw [settle_running rfl hformed.terminalStatus]
          rfl
        · rw [settle_ended rfl hended]
          rfl
      · exact nomatch congrArg Reduction.outcome (hreject.symm.trans hcall)

end Runs

/-- The stored peripheral is another device, and the other candidate cannot be connected. -/
def fruitlessEvents : List Event :=
  let other := { sampleCandidate with peripheralId := "other", name := some "Bota Pin" }
  [.host ⟨2, .ble (.scanResult other)⟩, .host ⟨2, .ble (.scanResult other)⟩,
    .host ⟨2, .ble (.scanResult sampleCandidate)⟩, .host ⟨5, .ble .scanStopped⟩,
    .host ⟨8, .ble (.connected "stored")⟩, .host ⟨11, .ble (.servicesDiscovered "stored")⟩,
    .host ⟨13, .ble (.readCompleted "EVFXXW67KQ".toUTF8.toList)⟩,
    .host ⟨14, .ble (.disconnected "stored" none)⟩, .host ⟨17, .ble (.failed none)⟩]

def fruitlessRun : List (EngineEntry ConnectionWorkflow) × WorkflowEngine ConnectionWorkflow :=
  Machine.exec WorkflowEngine.dispatch [] sampleStart.1 fruitlessEvents

theorem reconnection_ends_sample :
    connects (sampleStart.2.effects ++ emitted fruitlessRun.1) = ["stored", "other"] ∧
      fruitlessRun.2.active = none ∧ Fruitless ⟨"EVFXXW67KP"⟩ fruitlessRun.1 ∧
      fruitlessRun.2.status = .failed (notFound ⟨"EVFXXW67KP"⟩) := by
  have hactive : fruitlessRun.2.active = none := by decide +kernel
  have hfruitless : Fruitless ⟨"EVFXXW67KP"⟩ fruitlessRun.1 := by
    unfold Fruitless
    decide +kernel
  have hends := @reconnection_ends ⟨"EVFXXW67KP"⟩ { storedPeripheralId := some "stored" }
    sampleStart.2.effects fruitlessRun.1 sampleStart.1 fruitlessRun.2
    ⟨{}, [.ble, .timer, .persistence], ⟨.replicate 16 9⟩, rfl⟩
    (Machine.Run.exec (Machine.allowed_true [] sampleStart.1 fruitlessEvents)) (by decide +kernel)
  rw [hactive] at hends
  exact ⟨by decide +kernel, hactive, hfruitless, hends.2.2.2 hfruitless⟩

end ConnectionWorkflow

end BotaSdk
