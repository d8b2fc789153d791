import BotaSdk.Workflow.ConnectionSteps
import BotaSdk.Workflow.FirmwareUpdate

/-!
# What one event can do to a firmware update

`Transition` lists every accepted event once, with the call that it leads to.
-/

namespace BotaSdk

open Protocol Connection FirmwareUpdate

namespace FirmwareUpdateWorkflow

/-! ## The shared parts -/

section Parts

variable (call : Call)

@[simp] theorem checkpoint_workflow (phase : CheckpointPhase) :
    (checkpoint phase call).workflow =
      { call.workflow with
        checkpointRequestIds :=
          insert call.context.nextRequestId call.workflow.checkpointRequestIds } := rfl

@[simp] theorem checkpoint_timers (phase : CheckpointPhase) :
    timers (checkpoint phase call).effects = timers call.effects := by
  simp [checkpoint]

@[simp] theorem progress_workflow (phase : FirmwareUpdatePhase) (completed total : Nat) :
    (progress phase completed total call).workflow = call.workflow := rfl

@[simp] theorem progress_timers (phase : FirmwareUpdatePhase) (completed total : Nat) :
    timers (progress phase completed total call).effects = timers call.effects := by
  simp [progress]

@[simp] theorem scheduleTimer_workflow (timerId delayMs : Nat) :
    (scheduleTimer timerId delayMs call).workflow =
      { call.workflow with
        timerId := some timerId, timerRequestId := some call.context.nextRequestId } := rfl

@[simp] theorem scheduleTimer_timers (timerId delayMs : Nat) :
    timers (scheduleTimer timerId delayMs call).effects =
      timers call.effects ++ [(call.context.nextRequestId, .schedule timerId delayMs)] := by
  simp [scheduleTimer]

@[simp] theorem cancelTimer_workflow :
    (cancelTimer call).workflow = { call.workflow with timerRequestId := none, timerId := none } := by
  cases h : call.workflow.timerId <;> simp [cancelTimer, h]

/-- The cancellation of the update's own timer, if it has one, as request `n`. -/
def ownCancel (n : RequestId) (w : FirmwareUpdateWorkflow) : List (RequestId × TimerEffect) :=
  match w.timerId with
  | none => []
  | some timerId => [(n, .cancel timerId)]

@[simp] theorem cancelTimer_timers :
    timers (cancelTimer call).effects =
      timers call.effects ++ ownCancel call.context.nextRequestId call.workflow := by
  cases h : call.workflow.timerId <;> simp [cancelTimer, ownCancel, h]

@[simp] theorem cancelReconnectTimer_workflow :
    (cancelReconnectTimer call).workflow =
      { call.workflow with reconnectTimerRequestId := none } := by
  cases h : call.workflow.reconnectTimerRequestId with
  | none =>
    have hsame : call.workflow = { call.workflow with reconnectTimerRequestId := none } := by
      rw [show (none : Option RequestId) = call.workflow.reconnectTimerRequestId from h.symm]
    rw [cancelReconnectTimer, h]
    exact hsame
  | some id => simp [cancelReconnectTimer, h]

/-- The cancellation of the timer of the reconnection, if it runs, as request `n`. -/
def reconnectCancel (n : RequestId) (w : FirmwareUpdateWorkflow) : List (RequestId × TimerEffect) :=
  match w.reconnectTimerRequestId with
  | none => []
  | some _ => [(n, .cancel RECONNECT_TIMEOUT_ID)]

@[simp] theorem cancelReconnectTimer_timers :
    timers (cancelReconnectTimer call).effects =
      timers call.effects ++ reconnectCancel call.context.nextRequestId call.workflow := by
  cases h : call.workflow.reconnectTimerRequestId <;>
    simp [cancelReconnectTimer, reconnectCancel, h]

@[simp] theorem unsubscribe_workflow :
    (unsubscribe call).workflow = { call.workflow with subscriptionRequestId := none } := by
  cases h : call.workflow.subscriptionRequestId with
  | none =>
    have hsame : call.workflow = { call.workflow with subscriptionRequestId := none } := by
      rw [show (none : Option RequestId) = call.workflow.subscriptionRequestId from h.symm]
    rw [unsubscribe, h]
    exact hsame
  | some id => simp [unsubscribe, h]

@[simp] theorem unsubscribe_timers : timers (unsubscribe call).effects = timers call.effects := by
  cases h : call.workflow.subscriptionRequestId <;> simp [unsubscribe, h]

/-- Both of the update's timers are cancelled, in requests from `n` on. -/
def bothCancels (n : RequestId) (w : FirmwareUpdateWorkflow) : List (RequestId × TimerEffect) :=
  ownCancel n w ++
    reconnectCancel (if w.timerId = none then n else saturatingAdd n 1) w

theorem cancelTimer_next :
    (cancelTimer call).context.nextRequestId =
      if call.workflow.timerId = none then call.context.nextRequestId
      else saturatingAdd call.context.nextRequestId 1 := by
  cases h : call.workflow.timerId <;> simp [cancelTimer, h, WorkflowContext.advance]

@[simp] theorem fail_workflow (error : DeviceSdkError) :
    (fail error call).workflow =
      { call.workflow with
        phase := .failed, terminalError := some error, timerRequestId := none, timerId := none
        reconnectTimerRequestId := none, subscriptionRequestId := none } := by
  simp [fail]

@[simp] theorem fail_timers (error : DeviceSdkError) :
    timers (fail error call).effects =
      timers call.effects ++ bothCancels call.context.nextRequestId call.workflow := by
  simp only [fail, timers_request, unsubscribe_timers, cancelReconnectTimer_timers,
    cancelTimer_timers, cancelTimer_next, cancelTimer_workflow, Step.update_effects,
    Step.update_context, Step.update_workflow, List.append_nil, List.append_assoc]
  rfl

@[simp] theorem complete_workflow :
    (complete call).workflow =
      { call.workflow with
        phase := .completed, timerRequestId := none, timerId := none
        reconnectTimerRequestId := none, subscriptionRequestId := none } := by
  simp [complete]

@[simp] theorem complete_timers :
    timers (complete call).effects =
      timers call.effects ++ bothCancels call.context.nextRequestId call.workflow := by
  simp only [complete, timers_request, progress_timers, unsubscribe_timers,
    cancelReconnectTimer_timers, cancelTimer_timers, cancelTimer_next, cancelTimer_workflow,
    Step.update_effects, Step.update_context, Step.update_workflow, List.append_nil,
    List.append_assoc]
  rfl

@[simp] theorem beginDownload_workflow :
    (beginDownload call).workflow =
      { call.workflow with
        phase := .downloading, downloadRequestId := some call.context.nextRequestId } := rfl

@[simp] theorem beginDownload_timers :
    timers (beginDownload call).effects = timers call.effects := by
  simp [beginDownload]

@[simp] theorem subscribe_workflow :
    (subscribe call).workflow =
      { call.workflow with
        phase := .subscribing, subscriptionRequestId := some call.context.nextRequestId } := rfl

@[simp] theorem subscribe_timers : timers (subscribe call).effects = timers call.effects := by
  simp [subscribe]

@[simp] theorem writeStart_workflow :
    (writeStart call).workflow =
      { call.workflow with
        phase := .starting, readyResult := none
        writeRequestId := some call.context.nextRequestId } := rfl

@[simp] theorem writeStart_timers : timers (writeStart call).effects = timers call.effects := by
  simp [writeStart]

@[simp] theorem writeVerify_workflow :
    (writeVerify call).workflow =
      { call.workflow with
        phase := .verifying, verifyResult := none
        writeRequestId := some call.context.nextRequestId } := rfl

@[simp] theorem writeVerify_timers : timers (writeVerify call).effects = timers call.effects := by
  simp [writeVerify]

/-- All bytes are sent, or the next chunk is read. -/
theorem readNextOrVerify_cases :
    (call.workflow.sizeBytes ≤ call.workflow.offset ∧ readNextOrVerify call = writeVerify call) ∨
      (call.workflow.offset < call.workflow.sizeBytes ∧
        (readNextOrVerify call).workflow =
          { call.workflow with
            phase := .readingChunk, blobRequestId := some call.context.nextRequestId } ∧
        (readNextOrVerify call).effects = call.effects ++ [call.next (.firmwareBlob (.readChunk
          call.workflow.downloadId call.workflow.offset
          (min (call.workflow.sizeBytes - call.workflow.offset) FIRMWARE_CHUNK_SIZE)))]) := by
  rw [readNextOrVerify]
  by_cases h : call.workflow.sizeBytes ≤ call.workflow.offset
  · rw [if_pos h]
    exact .inl ⟨h, rfl⟩
  · rw [if_neg h]
    exact .inr ⟨Nat.lt_of_not_le h, rfl, rfl⟩

@[simp] theorem readNextOrVerify_timers :
    timers (readNextOrVerify call).effects = timers call.effects := by
  rw [readNextOrVerify]
  split <;> simp

@[simp] theorem waitForAck_workflow (sequence : Nat) :
    (waitForAck sequence call).workflow =
      { call.workflow with
        phase := .waitingAck, waitingAck := some sequence, timerId := some ACK_TIMEOUT_ID
        timerRequestId := some call.context.nextRequestId } := rfl

@[simp] theorem readVersion_workflow :
    (readVersion call).workflow =
      { call.workflow with
        phase := .readingVersion, writeRequestId := some call.context.nextRequestId } := rfl

@[simp] theorem readVersion_timers : timers (readVersion call).effects = timers call.effects := by
  simp [readVersion]

end Parts

/-- A chunk within its bound is always written. -/
theorem writeChunk_ok {bytes : List UInt8} (h : bytes.length ≤ FIRMWARE_CHUNK_SIZE) (call : Call) :
    writeChunk bytes call =
      .ok ((call.update fun w =>
          { w with phase := .writingChunk, pendingChunkUnits := bytes.length }).request
        (.ble (.write SERVICE_BOTA_STORAGE CHAR_RECORDING_TRANSFER
          (FIRMWARE_DATA :: (Bytes.leBytes 2 call.workflow.nextSequence ++ bytes)) false))
        fun id w => { w with writeRequestId := some id }) := by
  rw [writeChunk]
  simp only [encodeFirmwareData_ok h, Step.update_workflow]

/-! ## Transitions -/

/-- A notification of the device's status. -/
def statusNotification (value : List UInt8) : HostEventKind :=
  .ble (.notification CHAR_TRANSFER_STATUS value)

/-- The update's own timer in a phase. -/
def phaseTimer : FirmwareUpdate.Phase → Option Nat
  | .awaitingReady | .awaitingVerify => some RESPONSE_TIMEOUT_ID
  | .waitingAck => some ACK_TIMEOUT_ID
  | .awaitingReboot => some REBOOT_TIMEOUT_ID
  | .waitingReconnectRetry => some RECONNECT_RETRY_ID
  | _ => none

/-- The device verified the image. -/
def Verifies (value : List UInt8) : Prop :=
  ∃ status, parseOtaStatus value = .ok status ∧ status.command = FIRMWARE_UPLOAD_VERIFY ∧
    status.result = 0

/-- The device acknowledged the chunk with that sequence number. -/
def Acknowledges (value : List UInt8) (sequence : Nat) : Prop :=
  ∃ status, parseOtaStatus value = .ok status ∧ status.command = FIRMWARE_ACK ∧
    status.sequence = some sequence

/-- The connection of the update took the event. -/
structure NestedStep (w : FirmwareUpdateWorkflow) (context : WorkflowContext) (event : HostEvent)
    (connection : ConnectionWorkflow) (step : Step ConnectionWorkflow) : Prop where
  reconnecting : w.phase = .reconnecting
  active : w.connection = some connection
  dispatched : connection.dispatch event context = .ok step
  transition : connection.Transition context event step

/-- The update once its connection has ended. -/
def disconnected (call : Call) : Call :=
  call.update fun w => { w with connection := none }

/-- Every accepted event, with the call that it leads to. -/
inductive Transition (w : FirmwareUpdateWorkflow) (context : WorkflowContext) :
    HostEvent → Call → Prop
  | checkpointSaved {id : RequestId} :
      id ∈ w.checkpointRequestIds →
      Transition w context ⟨id, .checkpointSaved⟩
        (.begin { w with checkpointRequestIds := w.checkpointRequestIds.erase id } context)
  | responseIgnored {id : RequestId} :
      ¬(phaseTimer w.phase = some RESPONSE_TIMEOUT_ID ∧ w.timerRequestId = some id) →
      Transition w context ⟨id, .timerFired RESPONSE_TIMEOUT_ID⟩ (.begin w context)
  | retryIgnored {event : HostEvent} :
      w.phase = .waitingReconnectRetry →
      ¬(event.kind = .timerFired RECONNECT_TIMEOUT_ID ∧
        some event.requestId = w.reconnectTimerRequestId) →
      ¬(event.kind = .timerFired RECONNECT_RETRY_ID ∧ some event.requestId = w.timerRequestId) →
      Transition w context event (.begin w context)
  | failed {event : HostEvent} {checkpointRequestIds : Finset RequestId}
      {blobRequestId writeRequestId : Option RequestId} (error : DeviceSdkError) :
      w.phase ≠ .reconnecting → w.phase ≠ .waitingReconnectRetry →
      Transition w context event (fail error (.begin { w with
        checkpointRequestIds := checkpointRequestIds, blobRequestId := blobRequestId
        writeRequestId := writeRequestId } context))
  | reconnectTimedOut {id : RequestId} (error : DeviceSdkError) :
      w.phase = .reconnecting ∨ w.phase = .waitingReconnectRetry →
      w.reconnectTimerRequestId = some id →
      Transition w context ⟨id, .timerFired RECONNECT_TIMEOUT_ID⟩
        (fail error (cancelConnection (.begin w context)))
  | retried {id : RequestId} :
      w.phase = .waitingReconnectRetry → w.timerRequestId = some id →
      Transition w context ⟨id, .timerFired RECONNECT_RETRY_ID⟩
        (startReconnectAttempt (cancelTimer (.begin w context)))
  | connectionRuns {event : HostEvent} {connection : ConnectionWorkflow}
      {step : Step ConnectionWorkflow} :
      NestedStep w context event connection step → step.workflow.terminalStatus = .ok none →
      Transition w context event (adopt (.ok step) (.begin w context))
  | connectionCompletes {event : HostEvent} {connection : ConnectionWorkflow}
      {step : Step ConnectionWorkflow} {operation : Operation} :
      NestedStep w context event connection step →
      step.workflow.terminalStatus = .ok (some (.completed operation)) →
      Transition w context event
        (readVersion (cancelReconnectTimer (disconnected (adopt (.ok step) (.begin w context)))))
  | connectionRetries {event : HostEvent} {connection : ConnectionWorkflow}
      {step : Step ConnectionWorkflow} {error : DeviceSdkError} :
      NestedStep w context event connection step →
      step.workflow.terminalStatus = .ok (some (.failed error)) →
      Transition w context event
        (scheduleTimer RECONNECT_RETRY_ID RECONNECT_RETRY_MS
          ((adopt (.ok step) (.begin w context)).update fun w =>
            FirmwareUpdateWorkflow.retried
              { w with connection := none, phase := .waitingReconnectRetry }))
  | connectionFails {event : HostEvent} {connection : ConnectionWorkflow}
      {step : Step ConnectionWorkflow} {error : DeviceSdkError} :
      NestedStep w context event connection step →
      step.workflow.terminalStatus = .ok (some (.failed error)) →
      Transition w context event (fail error (.begin { w with connection := none } step.context))
  | readyRecorded {id : RequestId} {value : List UInt8} (result : UInt8) :
      w.phase = .starting → w.subscriptionRequestId = some id →
      Transition w context ⟨id, statusNotification value⟩
        (.begin { w with readyResult := some result } context)
  | transferBegins {id : RequestId} {value : List UInt8} :
      w.phase = .awaitingReady → w.subscriptionRequestId = some id →
      Transition w context ⟨id, statusNotification value⟩ (beginTransfer (.begin w context))
  | ackRecorded {id : RequestId} {value : List UInt8} (sequence : Nat) :
      w.subscriptionRequestId = some id →
      w.phase ≠ .reconnecting → w.phase ≠ .waitingReconnectRetry → Acknowledges value sequence →
      Transition w context ⟨id, statusNotification value⟩
        (.begin { w with latestAck := some sequence } context)
  | ackAwaited {id : RequestId} {value : List UInt8} {sequence : Nat} :
      w.phase = .waitingAck → w.waitingAck = some sequence → w.subscriptionRequestId = some id →
      Acknowledges value sequence →
      Transition w context ⟨id, statusNotification value⟩
        (readNextOrVerify (cancelTimer
          (.begin { w with latestAck := some sequence, waitingAck := none } context)))
  | verifyRecorded {id : RequestId} {value : List UInt8} :
      w.phase = .verifying → w.subscriptionRequestId = some id → Verifies value →
      Transition w context ⟨id, statusNotification value⟩
        (.begin { w with verifyResult := some 0 } context)
  | rebootBegins {id : RequestId} {value : List UInt8} :
      w.phase = .awaitingVerify → w.subscriptionRequestId = some id → Verifies value →
      Transition w context ⟨id, statusNotification value⟩ (beginReboot (.begin w context))
  | statusIgnored {id : RequestId} {value : List UInt8} :
      w.subscriptionRequestId = some id →
      w.phase ≠ .reconnecting → w.phase ≠ .waitingReconnectRetry →
      Transition w context ⟨id, statusNotification value⟩ (.begin w context)
  | rebooted {id : RequestId} {event : BleEvent} :
      w.phase = .awaitingReboot → w.Reboots id (.ble event) →
      Transition w context ⟨id, .ble event⟩
        (beginReconnect (unsubscribe (cancelTimer (.begin w context))))
  | checkpointLoaded {id : RequestId} (checkpoint : Option WorkflowCheckpoint) :
      w.phase = .loadingCheckpoint → w.loadRequestId = some id →
      Transition w context ⟨id, .checkpointLoaded checkpoint⟩
        (checkpointLoaded checkpoint (.begin w context))
  | downloadProgressed {id : RequestId} {completedBytes : Nat} {totalBytes : Option Nat} :
      w.phase = .downloading → w.downloadRequestId = some id →
      Transition w context
        ⟨id, .network (.downloadProgress w.downloadId completedBytes totalBytes)⟩
        (progress .downloading completedBytes (totalBytes.getD w.sizeBytes) (.begin w context))
  | downloadCompleted {id : RequestId} (crc32 : Nat) :
      w.phase = .downloading → w.downloadRequestId = some id →
      Transition w context ⟨id, .network (.downloadCompleted w.downloadId crc32)⟩
        (downloadCompleted crc32 (.begin w context))
  | subscribed {id : RequestId} :
      w.phase = .subscribing → w.subscriptionRequestId = some id →
      Transition w context ⟨id, .ble (.subscribed CHAR_TRANSFER_STATUS)⟩
        (writeStart (.begin w context))
  | startWritten {id : RequestId} :
      w.phase = .starting → w.writeRequestId = some id →
      Transition w context ⟨id, .ble .writeCompleted⟩ (startWritten (.begin w context))
  | chunkWritten {id : RequestId} :
      w.phase = .writingChunk → w.writeRequestId = some id →
      Transition w context ⟨id, .ble .writeCompleted⟩ (chunkWritten (.begin w context))
  | verifyWritten {id : RequestId} :
      w.phase = .verifying → w.writeRequestId = some id →
      Transition w context ⟨id, .ble .writeCompleted⟩ (verifyWritten (.begin w context))
  | chunkRead {id : RequestId} {bytes : List UInt8} {call : Call} :
      w.phase = .readingChunk → w.blobRequestId = some id →
      bytes.length ≤ FIRMWARE_CHUNK_SIZE → bytes.length ≤ w.sizeBytes - w.offset →
      writeChunk bytes (.begin { w with blobRequestId := none } context) = .ok call →
      Transition w context ⟨id, .firmwareChunkRead w.downloadId w.offset bytes⟩ call
  | versionRead {id : RequestId} {value : List UInt8} :
      w.phase = .readingVersion → w.writeRequestId = some id →
      versionText value = w.image.version →
      Transition w context ⟨id, .ble (.readCompleted value)⟩
        (complete (.begin { w with writeRequestId := none } context))

section Dispatch

variable {w : FirmwareUpdateWorkflow} {context : WorkflowContext} {event : HostEvent}
  {id : RequestId} {value : List UInt8}

/-- A reduction takes the event by a transition, or rejects it and changes nothing. -/
def Handled (w : FirmwareUpdateWorkflow) (context : WorkflowContext) (event : HostEvent)
    (reduction : Reduction FirmwareUpdateWorkflow) : Prop :=
  (∃ call, reduction = .ok call ∧ Transition w context event call) ∨
    ∃ error, reduction = .err w context error

theorem Handled.of {call : Call} (h : Transition w context event call) :
    Handled w context event (.ok call) :=
  .inl ⟨call, rfl, h⟩

theorem Handled.rejects (error : DeviceSdkError) :
    Handled w context event (.err w context error) :=
  .inr ⟨error, rfl⟩

theorem transition_fail (error : DeviceSdkError) (hreconnecting : w.phase ≠ .reconnecting)
    (hretry : w.phase ≠ .waitingReconnectRetry) :
    Transition w context event (fail error (.begin w context)) :=
  @Transition.failed w context event w.checkpointRequestIds w.blobRequestId w.writeRequestId error
    hreconnecting hretry

/-- No timer of a response is awaited in a phase without one. -/
theorem response_handled (id : RequestId) :
    Handled w context ⟨id, .timerFired RESPONSE_TIMEOUT_ID⟩
      (responseTimedOut id (.begin w context)) := by
  have hignored (h : ¬(phaseTimer w.phase = some RESPONSE_TIMEOUT_ID ∧ w.timerRequestId = some id)) :
      Handled w context ⟨id, .timerFired RESPONSE_TIMEOUT_ID⟩ (.ok (.begin w context)) :=
    .of (.responseIgnored h)
  have htimeout (detail : String) (hreconnecting : w.phase ≠ .reconnecting)
      (hretry : w.phase ≠ .waitingReconnectRetry) :
      Handled w context ⟨id, .timerFired RESPONSE_TIMEOUT_ID⟩
        (responseTimeout id detail (.begin w context)) := by
    rw [responseTimeout]
    split
    · rename_i hid
      exact hignored fun h => hid h.2.symm
    · exact .of (transition_fail _ hreconnecting hretry)
  unfold responseTimedOut
  simp only [Step.begin_workflow]
  cases hphase : w.phase
  case awaitingReady => exact htimeout _ (by simp [hphase]) (by simp [hphase])
  case awaitingVerify => exact htimeout _ (by simp [hphase]) (by simp [hphase])
  all_goals exact hignored (by rw [hphase]; exact fun h => by cases h.1)

theorem reconnect_handled
    (hw : w.phase = .reconnecting → ∃ connection, w.connection = some connection ∧
      connection.Formed)
    (hphase : w.phase = .reconnecting ∨ w.phase = .waitingReconnectRetry) :
    Handled w context event (dispatchReconnect event (.begin w context)) := by
  obtain ⟨id, kind⟩ := event
  rw [dispatchReconnect]
  split
  · rename_i h
    obtain ⟨rfl, hid⟩ := h
    exact .of (.reconnectTimedOut _ hphase hid.symm)
  · rename_i htimeout
    split
    · rename_i hretry
      split
      · rename_i h
        obtain ⟨rfl, hid⟩ := h
        exact .of (.retried hretry hid.symm)
      · rename_i hfired
        exact .of (.retryIgnored hretry htimeout hfired)
    · rename_i hretry
      have hreconnecting := hphase.resolve_right hretry
      obtain ⟨connection, hconnection, hformed⟩ := hw hreconnecting
      rw [Step.begin_workflow, hconnection]
      show Handled w context ⟨id, kind⟩ (toConnection connection ⟨id, kind⟩ (.begin w context))
      rw [toConnection]
      rcases ConnectionWorkflow.dispatch_cases hformed ⟨id, kind⟩ context with
        ⟨step, hstep, htransition⟩ | hreject
      · have hnested : NestedStep w context ⟨id, kind⟩ connection step :=
          ⟨hreconnecting, hconnection, hstep, htransition⟩
        rw [Step.begin_context, hstep]
        simp only [Reduction.ok_outcome, Reduction.ok_workflow]
        -- a formed connection is running, an ended one completed or failed
        rcases htransition.keeps hformed with hrunning | ⟨status, hended⟩
        · rw [hrunning.terminalStatus]
          exact .of (.connectionRuns hnested hrunning.terminalStatus)
        · rw [hended]
          rw [ConnectionWorkflow.terminalStatus] at hended
          split at hended
          · obtain rfl := Option.some.inj (Outcome.ok.inj hended)
            have hcompleted : step.workflow.terminalStatus =
                .ok (some (.completed step.workflow.operation)) := by
              rw [ConnectionWorkflow.terminalStatus]
              simp only [*]
            exact .of (.connectionCompletes hnested hcompleted)
          · split at hended
            · rename_i error herror
              obtain rfl := Option.some.inj (Outcome.ok.inj hended)
              have hfailed : step.workflow.terminalStatus = .ok (some (.failed error)) := by
                rw [ConnectionWorkflow.terminalStatus]
                simp only [*]
              simp only
              split
              · exact .of (.connectionRetries hnested hfailed)
              · exact .of (.connectionFails hnested hfailed)
            · cases hended
          · cases hended
      · rw [Step.begin_context, hreject]
        have hsame : { w with connection := some connection } = w := by rw [← hconnection]
        refine .inr ⟨connection.unexpected, ?_⟩
        show Reduction.err { w with connection := some connection } context _ = _
        rw [hsame]

theorem status_handled (hid : w.subscriptionRequestId = some id)
    (hreconnecting : w.phase ≠ .reconnecting) (hretry : w.phase ≠ .waitingReconnectRetry) :
    Handled w context ⟨id, statusNotification value⟩
      (handleStatusNotification value (.begin w context)) := by
  have hfail (error : DeviceSdkError) :
      Handled w context ⟨id, statusNotification value⟩ (.ok (fail error (.begin w context))) :=
    .of (transition_fail error hreconnecting hretry)
  have hignored : Handled w context ⟨id, statusNotification value⟩ (.ok (.begin w context)) :=
    .of (.statusIgnored hid hreconnecting hretry)
  rw [handleStatusNotification]
  cases hparse : parseOtaStatus value with
  | error error => exact .rejects error
  | ok status =>
    simp only [Step.begin_workflow]
    split
    · split
      · exact hfail _
      · cases hphase : w.phase
        case starting => exact .of (.readyRecorded _ hphase hid)
        case awaitingReady => exact .of (.transferBegins hphase hid)
        all_goals exact hignored
    · split
      · next hcommand =>
        cases hsequence : status.sequence with
        | none => exact hignored
        | some sequence =>
          have hacknowledges : Acknowledges value sequence := ⟨status, hparse, hcommand, hsequence⟩
          show Handled w context _
            (if w.phase = .waitingAck ∧ w.waitingAck = some sequence then _ else _)
          by_cases h : w.phase = .waitingAck ∧ w.waitingAck = some sequence
          · rw [if_pos h]
            exact .of (.ackAwaited h.1 h.2 hid hacknowledges)
          · rw [if_neg h]
            exact .of (.ackRecorded sequence hid hreconnecting hretry hacknowledges)
      · split
        · rename_i hcommand
          split
          · exact hfail _
          · rename_i hresult
            have hresult := not_ne_iff.mp hresult
            have hverifies : Verifies value := ⟨status, hparse, hcommand, hresult⟩
            cases hphase : w.phase
            case verifying =>
              rw [hresult]
              exact .of (.verifyRecorded hphase hid hverifies)
            case awaitingVerify => exact .of (.rebootBegins hphase hid hverifies)
            all_goals exact hignored
        · exact hignored

theorem versionRead_eq (value : List UInt8) (call : Call) :
    versionRead value call =
      if versionText value = call.workflow.image.version then
        complete (call.update fun w => { w with writeRequestId := none })
      else
        fail (updateError .protocolRejected
          s!"device reports firmware {versionText value}, expected {call.workflow.image.version}")
          (call.update fun w => { w with writeRequestId := none }) :=
  rfl


theorem phase_handled (hreconnecting : w.phase ≠ .reconnecting)
    (hretry : w.phase ≠ .waitingReconnectRetry) (id : RequestId) (kind : HostEventKind) :
    Handled w context ⟨id, kind⟩ (dispatchPhase id kind (.begin w context)) := by
  have hfail {event : HostEvent} (error : DeviceSdkError) :
      Handled w context event (.ok (fail error (.begin w context))) :=
    .of (transition_fail error hreconnecting hretry)
  have hreject {event : HostEvent} : Handled w context event (.err w context unexpected) :=
    .rejects unexpected
  cases kind with
  | checkpointLoaded checkpoint =>
    rw [dispatchPhase]
    split
    · rename_i h
      exact .of (.checkpointLoaded checkpoint h.1 h.2.symm)
    · exact hreject
  | network event =>
    cases event with
    | downloadProgress downloadId completedBytes totalBytes =>
      rw [dispatchPhase]
      split
      · rename_i h
        obtain ⟨hphase, hid, rfl⟩ := h
        exact .of (.downloadProgressed hphase hid.symm)
      · exact hreject
    | downloadCompleted downloadId crc32 =>
      rw [dispatchPhase]
      split
      · rename_i h
        obtain ⟨hphase, hid, rfl⟩ := h
        exact .of (.downloadCompleted crc32 hphase hid.symm)
      · exact hreject
    | failed transferId statusCode =>
      rw [dispatchPhase]
      split
      · exact hfail _
      · exact hreject
    | _ => exact hreject
  | firmwareChunkRead downloadId offset bytes =>
    rw [dispatchPhase]
    split
    · rename_i h
      obtain ⟨hphase, hid, rfl, rfl⟩ := h
      rw [chunkRead]
      split
      · exact .of (.failed _ hreconnecting hretry)
      · rename_i hvalid
        obtain ⟨-, hsize, hremaining⟩ : ¬bytes.isEmpty ∧ bytes.length ≤ FIRMWARE_CHUNK_SIZE ∧
            bytes.length ≤ w.sizeBytes - w.offset := by
          simpa [sizeBytes] using hvalid
        have hwrite := writeChunk_ok hsize (.begin { w with blobRequestId := none } context)
        refine .inl ⟨_, hwrite, .chunkRead hphase hid.symm hsize hremaining hwrite⟩
    · exact hreject
  | timerFired timerId =>
    rw [dispatchPhase]
    split
    · exact hfail _
    · split
      · exact hfail _
      · exact hreject
  | firmwareBlobFailed platformCode =>
    rw [dispatchPhase]
    split
    · exact hfail _
    · exact hreject
  | persistenceFailed platformCode =>
    rw [dispatchPhase]
    split
    · exact .of (.failed _ hreconnecting hretry)
    · exact hreject
  | ble event =>
    cases event with
    | subscribed characteristicUuid =>
      rw [dispatchPhase]
      split
      · rename_i h
        obtain ⟨hphase, hid, rfl⟩ := h
        exact .of (.subscribed hphase hid.symm)
      · exact hreject
    | writeCompleted =>
      rw [dispatchPhase]
      split
      · rename_i hid
        simp only [Step.begin_workflow]
        cases hphase : w.phase
        case starting => exact .of (.startWritten hphase hid.symm)
        case writingChunk => exact .of (.chunkWritten hphase hid.symm)
        case verifying => exact .of (.verifyWritten hphase hid.symm)
        all_goals exact hreject
      · exact hreject
    | readCompleted value =>
      rw [dispatchPhase]
      split
      · rename_i h
        obtain ⟨hphase, hid⟩ := h
        rw [versionRead_eq]
        split
        · next hversion => exact .of (.versionRead hphase hid.symm hversion)
        · exact .of (.failed _ hreconnecting hretry)
      · exact hreject
    | disconnected peripheralId reasonCode => exact hfail _
    | failed platformCode =>
      rw [dispatchPhase]
      split
      · exact hfail _
      · exact hreject
    | _ => exact hreject
  | _ => exact hreject

theorem statusOf_eq_some {kind : HostEventKind} (h : w.statusOf id kind = some value) :
    kind = statusNotification value ∧ w.subscriptionRequestId = some id := by
  unfold statusOf at h
  split at h
  · split at h
    · rename_i hstatus
      obtain ⟨hid, rfl⟩ := hstatus
      obtain rfl := Option.some.inj h
      exact ⟨rfl, hid.symm⟩
    · exact nomatch h
  · exact nomatch h

/-- An update takes an event by one of its transitions or rejects it unchanged. -/
theorem dispatch_cases
    (hw : w.phase = .reconnecting → ∃ connection, w.connection = some connection ∧
      connection.Formed)
    (event : HostEvent) (context : WorkflowContext) :
    (∃ call, dispatch w event context = .ok call ∧ Transition w context event call) ∨
      ∃ error, dispatch w event context = .err w context error := by
  show Handled w context event _
  obtain ⟨id, kind⟩ := event
  rw [dispatch]
  split
  · rename_i h
    obtain ⟨rfl, hid⟩ := h
    exact .of (.checkpointSaved hid)
  · split
    · rename_i hkind
      obtain rfl : kind = .timerFired RESPONSE_TIMEOUT_ID := hkind
      exact response_handled id
    · split
      · rename_i hphase
        exact reconnect_handled hw hphase
      · rename_i hphase
        obtain ⟨hreconnecting, hretry⟩ := not_or.mp hphase
        simp only
        cases hstatus : w.statusOf id kind with
        | some value =>
          obtain ⟨rfl, hid⟩ := statusOf_eq_some hstatus
          exact status_handled hid hreconnecting hretry
        | none =>
          simp only
          split
          · rename_i h
            obtain ⟨hreboot, hreboots⟩ := h
            cases kind with
            | ble event => exact .of (.rebooted hreboot hreboots)
            | _ => exact absurd hreboots not_false
          · exact phase_handled hreconnecting hretry id kind

end Dispatch

/-! ## What stays -/

section Same

variable {w w' w'' : FirmwareUpdateWorkflow} {context : WorkflowContext} {call : Call}
  {event : HostEvent}

theorem startReconnectAttempt_workflow (call : Call) :
    ∃ connection, (startReconnectAttempt call).workflow =
      { call.workflow with phase := .reconnecting, connection := some connection } :=
  ⟨_, rfl⟩

theorem beginReconnect_workflow (call : Call) :
    ∃ connection checkpointRequestIds reconnectTimerRequestId, (beginReconnect call).workflow =
      { call.workflow with
        phase := .reconnecting, connection := some connection
        checkpointRequestIds := checkpointRequestIds
        reconnectTimerRequestId := reconnectTimerRequestId } := by
  obtain ⟨connection, hworkflow⟩ := startReconnectAttempt_workflow
    ((checkpoint .reconnecting (progress .reconnecting call.workflow.sizeBytes
      call.workflow.sizeBytes call)).request
      (.timer (.schedule RECONNECT_TIMEOUT_ID RECONNECT_TIMEOUT_MS))
      fun id w => { w with reconnectTimerRequestId := some id })
  exact ⟨connection, _, _, hworkflow⟩

/-- What an update never changes. -/
structure Same (w w' : FirmwareUpdateWorkflow) : Prop where
  device : w'.device = w.device
  version : w'.image.version = w.image.version
  size : w'.image.sizeBytes = w.image.sizeBytes
  downloadId : w'.downloadId = w.downloadId

theorem Same.trans (h : Same w w') (h' : Same w' w'') : Same w w'' :=
  ⟨h'.device.trans h.device, h'.version.trans h.version, h'.size.trans h.size,
    h'.downloadId.trans h.downloadId⟩

theorem same_cancelTimer (call : Call) : Same call.workflow (cancelTimer call).workflow := by
  rw [cancelTimer_workflow]
  exact ⟨rfl, rfl, rfl, rfl⟩

theorem same_readNextOrVerify (call : Call) : Same call.workflow (readNextOrVerify call).workflow := by
  rcases readNextOrVerify_cases call with ⟨-, heq⟩ | ⟨-, hworkflow, -⟩
  · rw [heq]
    exact ⟨rfl, rfl, rfl, rfl⟩
  · rw [hworkflow]
    exact ⟨rfl, rfl, rfl, rfl⟩

theorem same_beginTransfer (call : Call) : Same call.workflow (beginTransfer call).workflow := by
  unfold beginTransfer
  refine Same.trans ?_ (same_readNextOrVerify _)
  rw [cancelTimer_workflow]
  exact ⟨rfl, rfl, rfl, rfl⟩

theorem same_cancelConnection (call : Call) : Same call.workflow (cancelConnection call).workflow := by
  unfold cancelConnection
  split <;> exact ⟨rfl, rfl, rfl, rfl⟩

theorem same_fail (error : DeviceSdkError) (call : Call) : Same call.workflow (fail error call).workflow := by
  rw [fail_workflow]
  exact ⟨rfl, rfl, rfl, rfl⟩

theorem Transition.same (h : Transition w context event call) : Same w call.workflow := by
  cases h with
  | reconnectTimedOut error => exact Same.trans (same_cancelConnection (.begin w context)) (same_fail error _)
  | failed | connectionFails =>
    rw [fail_workflow]
    exact ⟨rfl, rfl, rfl, rfl⟩
  | retried =>
    obtain ⟨connection, hworkflow⟩ :=
      startReconnectAttempt_workflow (cancelTimer (.begin w context))
    rw [hworkflow, cancelTimer_workflow]
    exact ⟨rfl, rfl, rfl, rfl⟩
  | connectionCompletes =>
    rw [readVersion_workflow, cancelReconnectTimer_workflow]
    exact ⟨rfl, rfl, rfl, rfl⟩
  | transferBegins => exact same_beginTransfer (.begin w context)
  | ackAwaited =>
    refine Same.trans (Same.trans ?_ (same_cancelTimer _)) (same_readNextOrVerify _)
    exact ⟨rfl, rfl, rfl, rfl⟩
  | rebootBegins =>
    unfold beginReboot
    rw [scheduleTimer_workflow, progress_workflow, cancelTimer_workflow]
    exact ⟨rfl, rfl, rfl, rfl⟩
  | rebooted =>
    obtain ⟨connection, ids, timer, hworkflow⟩ :=
      beginReconnect_workflow (unsubscribe (cancelTimer (.begin w context)))
    rw [hworkflow, unsubscribe_workflow, cancelTimer_workflow]
    exact ⟨rfl, rfl, rfl, rfl⟩
  | checkpointLoaded checkpoint =>
    unfold FirmwareUpdateWorkflow.checkpointLoaded
    simp only
    split
    · exact ⟨rfl, rfl, rfl, rfl⟩
    · split
      · obtain ⟨connection, ids, timer, hworkflow⟩ := beginReconnect_workflow
          (((Step.begin w context).update fun w => { w with loadRequestId := none }).update _)
        rw [hworkflow]
        exact ⟨rfl, rfl, rfl, rfl⟩
      all_goals exact ⟨rfl, rfl, rfl, rfl⟩
  | startWritten =>
    unfold FirmwareUpdateWorkflow.startWritten
    simp only
    split
    · refine Same.trans ?_ (same_beginTransfer _)
      exact ⟨rfl, rfl, rfl, rfl⟩
    · exact ⟨rfl, rfl, rfl, rfl⟩
  | chunkWritten =>
    unfold FirmwareUpdateWorkflow.chunkWritten
    simp only
    split
    · split
      · refine Same.trans ?_ (same_readNextOrVerify _)
        exact ⟨rfl, rfl, rfl, rfl⟩
      · exact ⟨rfl, rfl, rfl, rfl⟩
    · refine Same.trans ?_ (same_readNextOrVerify _)
      exact ⟨rfl, rfl, rfl, rfl⟩
  | verifyWritten =>
    unfold FirmwareUpdateWorkflow.verifyWritten
    simp only
    split
    · unfold beginReboot
      rw [scheduleTimer_workflow, progress_workflow, cancelTimer_workflow]
      exact ⟨rfl, rfl, rfl, rfl⟩
    · exact ⟨rfl, rfl, rfl, rfl⟩
  | chunkRead _ _ hsize _ hwrite =>
    rw [writeChunk_ok hsize] at hwrite
    obtain rfl := Reduction.ok_injective hwrite
    exact ⟨rfl, rfl, rfl, rfl⟩
  | versionRead =>
    rw [complete_workflow]
    exact ⟨rfl, rfl, rfl, rfl⟩
  | _ => exact ⟨rfl, rfl, rfl, rfl⟩

end Same

/-! ## The ends of a run -/

/-- The update has ended. -/
def Ended (w : FirmwareUpdateWorkflow) : Prop :=
  ∃ status, w.terminalStatus = .ok (some status)

theorem ended_fail (error : DeviceSdkError) {call : Call} : Ended (fail error call).workflow :=
  ⟨.failed error, by rw [fail_workflow]; rfl⟩

theorem ended_complete {call : Call} : Ended (complete call).workflow :=
  ⟨.completed .updateFirmware, by rw [complete_workflow]; rfl⟩

theorem running_terminalStatus {w : FirmwareUpdateWorkflow}
    (h : w.phase ≠ .completed ∧ w.phase ≠ .failed) : w.terminalStatus = .ok none := by
  rw [FirmwareUpdateWorkflow.terminalStatus]
  cases hphase : w.phase <;> first | rfl | exact absurd hphase h.1 | exact absurd hphase h.2

/-- The engine after the start of an update, and the requests of that start. -/
def Started (command : FirmwareUpdateCommand) (started : List EffectRequest)
    (engine₀ : WorkflowEngine FirmwareUpdateWorkflow) : Prop :=
  ∃ (engine : WorkflowEngine FirmwareUpdateWorkflow) (capabilities : List Capability)
    (id : CancellationId), engine.start command capabilities id = (engine₀, .ok started)

end FirmwareUpdateWorkflow

end BotaSdk
