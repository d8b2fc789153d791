import BotaSdk.Workflow.StreamingTransfer

/-!
# What one event can do to a live transfer

`Transition` lists every accepted event once, with its guard, the state it leaves and the effects it
requests.  The run-level results take cases on it and never unfold the reducer.
-/

namespace BotaSdk

open Protocol

namespace StreamingTransferWorkflow

/-! ## Effects of the shared endings -/

def unsubscribeEffects (w : StreamingTransferWorkflow) : List Effect :=
  match w.subscriptionRequestId with
  | none => []
  | some _ => [unsubscribeEffect]

def resumeEffects (w : StreamingTransferWorkflow) : List Effect :=
  match w.paused with
  | true => [.notify .streamingResumed]
  | false => []

def failEffects (w : StreamingTransferWorkflow) (error : DeviceSdkError) : List Effect :=
  unsubscribeEffects w ++
    [.recordingSink (.discardStreaming w.sinkId), .notify (.failed error)]

variable (call : Call)

@[simp] theorem unsubscribe_workflow :
    (unsubscribe call).workflow = { call.workflow with subscriptionRequestId := none } := by
  rw [unsubscribe]
  split
  · rename_i h
    rw [← h]
  · rfl

@[simp] theorem unsubscribe_requested :
    (unsubscribe call).requested = call.requested ++ unsubscribeEffects call.workflow := by
  cases h : call.workflow.subscriptionRequestId with
  | none => simp [unsubscribe, unsubscribeEffects, h]
  | some id => simp [unsubscribe, unsubscribeEffects, h]

@[simp] theorem fail_workflow (error : DeviceSdkError) :
    (fail error call).workflow =
      { call.workflow with
        phase := .failed, terminalError := some error, subscriptionRequestId := none } := by
  simp [fail]

@[simp] theorem fail_requested (error : DeviceSdkError) :
    (fail error call).requested = call.requested ++ failEffects call.workflow error := by
  simp [fail, failEffects, unsubscribeEffects]

@[simp] theorem complete_workflow :
    (complete call).workflow =
      { call.workflow with phase := .completed, subscriptionRequestId := none } := by
  simp [complete]

@[simp] theorem resumeIfNeeded_workflow :
    (resumeIfNeeded call).workflow = { call.workflow with paused := false } := by
  rw [resumeIfNeeded]
  split
  · rfl
  · rename_i h
    rw [Bool.not_eq_true] at h
    rw [← h]

@[simp] theorem resumeIfNeeded_requested :
    (resumeIfNeeded call).requested = call.requested ++ resumeEffects call.workflow := by
  cases h : call.workflow.paused with
  | true => simp [resumeIfNeeded, resumeEffects, h]
  | false => simp [resumeIfNeeded, resumeEffects, h]

/-! ## One packet -/

/-- The packet leaves the transfer running: what it does to the state and what it requests. -/
inductive PacketStep (w : StreamingTransferWorkflow) :
    TransferPacket → StreamingTransferWorkflow → List Effect → Prop
  | duplicate {sequence : Nat} {data : List UInt8} :
      w.encrypted ≠ some true → w.lastSequence.any (sequence ≤ ·) →
      PacketStep w (.data sequence data) w []
  | data {sequence : Nat} {data : List UInt8} {id : RequestId} :
      w.encrypted ≠ some true → ¬w.lastSequence.any (sequence ≤ ·) → sequence = w.nextSequence →
      PacketStep w (.data sequence data)
        { w with
          encrypted := some false, paused := false, phase := .accepting
          pendingSequence := some sequence, pendingUnits := data.length, sinkRequestId := some id }
        (resumeEffects w ++ [.recordingSink (.appendStreamingPlaintext w.sinkId sequence data)])
  | paused {sequence : Nat} {bytesSent : Option Nat} :
      PacketStep w (.paused sequence bytesSent) { w with paused := true }
        [.notify (.streamingPaused (bytesSent.getD w.completedUnits))]
  | eof {sequence checksum : Nat} {id : RequestId} :
      w.encrypted ≠ some true →
      PacketStep w (.eof sequence checksum)
        { w with
          encrypted := some false, phase := .finalizing, eofSequence := sequence
          sinkRequestId := some id }
        [.recordingSink (.finalizeStreaming w.sinkId false 0 w.completedUnits)]
  | repeatedStart {ephemeralPublicKey salt : List UInt8} :
      w.encrypted ≠ some false → w.e2eHeaderReceived →
      PacketStep w (.e2eStart ephemeralPublicKey salt) { w with encrypted := some true } []
  | e2eStart {ephemeralPublicKey salt : List UInt8} {id : RequestId} :
      w.encrypted ≠ some false → ¬w.e2eHeaderReceived →
      PacketStep w (.e2eStart ephemeralPublicKey salt)
        { w with
          encrypted := some true, e2eHeaderReceived := true, phase := .accepting
          pendingSequence := none, pendingUnits := 0, sinkRequestId := some id }
        [.recordingSink (.beginStreamingEncrypted w.sinkId ephemeralPublicKey salt)]
  | encryptedDuplicate {sequence : Nat} {chunk : List UInt8} :
      w.encrypted = some true → w.e2eHeaderReceived → 16 ≤ chunk.length →
      w.lastSequence.any (sequence ≤ ·) →
      PacketStep w (.encryptedData sequence chunk) w []
  | encryptedData {sequence : Nat} {chunk : List UInt8} {id : RequestId} :
      w.encrypted = some true → w.e2eHeaderReceived → 16 ≤ chunk.length →
      ¬w.lastSequence.any (sequence ≤ ·) →
      PacketStep w (.encryptedData sequence chunk)
        { w with
          paused := false, phase := .accepting, pendingSequence := some sequence
          pendingUnits := chunk.length - 16, sinkRequestId := some id }
        (resumeEffects w ++ [.recordingSink (.appendStreamingEncrypted w.sinkId sequence chunk)])
  | encryptedEof {sequence : Nat} {id : RequestId} :
      w.encrypted = some true → w.e2eHeaderReceived →
      PacketStep w (.encryptedEof sequence)
        { w with phase := .finalizing, eofSequence := sequence, sinkRequestId := some id }
        [.recordingSink (.finalizeStreaming w.sinkId true sequence w.completedUnits)]
  | sha256 {value : List UInt8} : PacketStep w (.sha256 value) w []

/-- The packet ends the transfer. -/
inductive PacketFails (w : StreamingTransferWorkflow) : TransferPacket → Prop
  | mixedData {sequence : Nat} {data : List UInt8} :
      w.encrypted = some true → PacketFails w (.data sequence data)
  | gap {sequence : Nat} {data : List UInt8} :
      w.encrypted ≠ some true → ¬w.lastSequence.any (sequence ≤ ·) → sequence ≠ w.nextSequence →
      PacketFails w (.data sequence data)
  | mixedEof {sequence checksum : Nat} :
      w.encrypted = some true → PacketFails w (.eof sequence checksum)
  | mixedStart {ephemeralPublicKey salt : List UInt8} :
      w.encrypted = some false → PacketFails w (.e2eStart ephemeralPublicKey salt)
  | malformed {sequence : Nat} {chunk : List UInt8} :
      w.encrypted ≠ some true ∨ ¬w.e2eHeaderReceived ∨ chunk.length < 16 →
      PacketFails w (.encryptedData sequence chunk)
  | headerMissing {sequence : Nat} :
      w.encrypted ≠ some true ∨ ¬w.e2eHeaderReceived → PacketFails w (.encryptedEof sequence)
  | rejected {sequence code : Nat} : PacketFails w (.error sequence code)

theorem accept_requested (sequence : Option Nat) (units : Nat) (effect : RecordingSinkEffect) :
    (accept sequence units effect call).requested = call.requested ++ [.recordingSink effect] := by
  simp [accept]

theorem finalize_requested (sequence : Nat) (encrypted : Bool) :
    (finalize sequence encrypted call).requested = call.requested ++
      [.recordingSink (.finalizeStreaming call.workflow.sinkId encrypted
        (if encrypted then sequence else 0) call.workflow.completedUnits)] := by
  simp [finalize]

theorem dispatchPacket_cases (packet : TransferPacket) :
    (∃ effects, PacketStep call.workflow packet (dispatchPacket packet call).workflow effects ∧
      (dispatchPacket packet call).requested = call.requested ++ effects) ∨
    (PacketFails call.workflow packet ∧ ∃ error, dispatchPacket packet call = fail error call) := by
  cases packet with
  | data sequence data =>
    rw [dispatchPacket]
    by_cases hmix : call.workflow.encrypted = some true
    · exact .inr ⟨.mixedData hmix, _, by rw [if_pos hmix, protocolFailure]⟩
    · rw [if_neg hmix]
      by_cases hdup : call.workflow.lastSequence.any (sequence ≤ ·)
      · exact .inl ⟨[], by rw [if_pos hdup]; exact .duplicate hmix hdup, by simp [hdup]⟩
      · rw [if_neg hdup]
        by_cases hseq : sequence = call.workflow.nextSequence
        · rw [if_neg (not_not_intro hseq)]
          refine .inl ⟨resumeEffects call.workflow ++
            [.recordingSink (.appendStreamingPlaintext call.workflow.sinkId sequence data)], ?_, ?_⟩
          · simp only [accept, Step.request_workflow, Step.update_workflow, resumeIfNeeded_workflow]
            exact .data hmix hdup hseq
          · rw [accept_requested, resumeIfNeeded_requested, Step.update_requested, List.append_assoc]
            rfl
        · rw [if_pos hseq, protocolFailure]
          exact .inr ⟨.gap hmix hdup hseq, _, rfl⟩
  | paused sequence bytesSent => exact .inl ⟨_, .paused, Step.request_requested ..⟩
  | eof sequence checksum =>
    rw [dispatchPacket]
    by_cases hmix : call.workflow.encrypted = some true
    · exact .inr ⟨.mixedEof hmix, _, by rw [if_pos hmix, protocolFailure]⟩
    · rw [if_neg hmix]
      exact .inl ⟨_, .eof hmix, finalize_requested ..⟩
  | e2eStart ephemeralPublicKey salt =>
    rw [dispatchPacket]
    by_cases hmix : call.workflow.encrypted = some false
    · exact .inr ⟨.mixedStart hmix, _, by rw [if_pos hmix, protocolFailure]⟩
    · rw [if_neg hmix]
      by_cases hdup : call.workflow.e2eHeaderReceived
      · rw [if_pos hdup]
        exact .inl ⟨[], .repeatedStart hmix hdup, by simp⟩
      · rw [if_neg hdup]
        exact .inl ⟨_, .e2eStart hmix hdup, accept_requested ..⟩
  | encryptedData sequence chunk =>
    rw [dispatchPacket]
    by_cases hbad : call.workflow.encrypted ≠ some true ∨ ¬call.workflow.e2eHeaderReceived ∨
        chunk.length < 16
    · exact .inr ⟨.malformed hbad, _, by rw [if_pos hbad, protocolFailure]⟩
    · rw [if_neg hbad]
      push Not at hbad
      obtain ⟨henc, hheader, hlen⟩ := hbad
      by_cases hdup : call.workflow.lastSequence.any (sequence ≤ ·)
      · rw [if_pos hdup]
        exact .inl ⟨[], .encryptedDuplicate henc hheader hlen hdup, by simp⟩
      · rw [if_neg hdup]
        refine .inl ⟨resumeEffects call.workflow ++
          [.recordingSink (.appendStreamingEncrypted call.workflow.sinkId sequence chunk)], ?_, ?_⟩
        · simp only [accept, Step.request_workflow, Step.update_workflow, resumeIfNeeded_workflow]
          exact .encryptedData henc hheader hlen hdup
        · rw [accept_requested, resumeIfNeeded_requested, List.append_assoc]
  | encryptedEof sequence =>
    rw [dispatchPacket]
    by_cases hbad : call.workflow.encrypted ≠ some true ∨ ¬call.workflow.e2eHeaderReceived
    · exact .inr ⟨.headerMissing hbad, _, by rw [if_pos hbad, protocolFailure]⟩
    · rw [if_neg hbad]
      push Not at hbad
      exact .inl ⟨_, .encryptedEof hbad.1 hbad.2, finalize_requested ..⟩
  | sha256 value => exact .inl ⟨[], .sha256, by simp [dispatchPacket]⟩
  | error sequence code => exact .inr ⟨.rejected, _, rfl⟩

/-! ## One event -/

/-- The events that end a transfer with an error. -/
inductive Fails (w : StreamingTransferWorkflow) : HostEvent → Prop
  | undecodable {id : RequestId} {value : List UInt8} {error : DeviceSdkError} :
      w.phase = .transferring → w.subscriptionRequestId = some id →
      parseTransferPacket value = .error error →
      Fails w ⟨id, .ble (.notification CHAR_RECORDING_TRANSFER value)⟩
  | packet {id : RequestId} {value : List UInt8} {packet : TransferPacket} :
      w.phase = .transferring → w.subscriptionRequestId = some id →
      parseTransferPacket value = .ok packet → PacketFails w packet →
      Fails w ⟨id, .ble (.notification CHAR_RECORDING_TRANSFER value)⟩
  | inconsistent {id : RequestId} {receivedUnits : Nat} :
      w.phase = .accepting → w.sinkRequestId = some id →
      receivedUnits ≠ saturatingAdd w.completedUnits w.pendingUnits →
      Fails w ⟨id, .streamingSinkAccepted receivedUnits⟩
  | miscounted {id : RequestId} {uploadedChunks totalUnits : Nat} :
      w.phase = .finalizing → w.sinkRequestId = some id → totalUnits ≠ w.completedUnits →
      Fails w ⟨id, .streamingSinkFinalized uploadedChunks totalUnits⟩
  | sinkFailed {id : RequestId} {platformCode : Option Int} :
      w.sinkRequestId = some id → Fails w ⟨id, .streamingSinkFailed platformCode⟩
  | disconnected {id : RequestId} {peripheralId : String} {reasonCode : Option Nat} :
      Fails w ⟨id, .ble (.disconnected peripheralId reasonCode)⟩
  | bleFailed {id : RequestId} {platformCode : Option Int} :
      some id ∈ [w.subscriptionRequestId, w.writeRequestId] →
      Fails w ⟨id, .ble (.failed platformCode)⟩

/-- Every accepted event: the state it leaves and the effects it requests.  `n` is the identifier
of the next request. -/
inductive Transition (w : StreamingTransferWorkflow) (n : RequestId) :
    HostEvent → StreamingTransferWorkflow → List Effect → Prop
  | subscribed {id : RequestId} :
      w.phase = .subscribing → w.subscriptionRequestId = some id →
      Transition w n ⟨id, .ble (.subscribed CHAR_RECORDING_TRANSFER)⟩
        { w with phase := .starting, writeRequestId := some n } [commandEffect (.start w.recording)]
  | started {id : RequestId} :
      w.phase = .starting → w.writeRequestId = some id →
      Transition w n ⟨id, .ble .writeCompleted⟩
        { w with phase := .transferring, writeRequestId := none } []
  | packet {id : RequestId} {value : List UInt8} {packet : TransferPacket}
      {w' : StreamingTransferWorkflow} {effects : List Effect} :
      w.phase = .transferring → w.subscriptionRequestId = some id →
      parseTransferPacket value = .ok packet → PacketStep w packet w' effects →
      Transition w n ⟨id, .ble (.notification CHAR_RECORDING_TRANSFER value)⟩ w' effects
  | accepted {id : RequestId} {receivedUnits : Nat} :
      w.phase = .accepting → w.sinkRequestId = some id →
      receivedUnits = saturatingAdd w.completedUnits w.pendingUnits →
      Transition w n ⟨id, .streamingSinkAccepted receivedUnits⟩ (settleAccepted receivedUnits w) []
  | finalized {id : RequestId} {uploadedChunks totalUnits : Nat} :
      w.phase = .finalizing → w.sinkRequestId = some id → totalUnits = w.completedUnits →
      Transition w n ⟨id, .streamingSinkFinalized uploadedChunks totalUnits⟩
        { w with
          phase := .acknowledging, sinkRequestId := none, uploadedChunks := uploadedChunks
          writeRequestId := some n }
        [ackEffect .ack w.eofSequence]
  | acknowledged {id : RequestId} :
      w.phase = .acknowledging → w.writeRequestId = some id →
      Transition w n ⟨id, .ble .writeCompleted⟩
        { w with phase := .confirming, writeRequestId := some n }
        [commandEffect (.confirm w.recording)]
  | confirmed {id : RequestId} :
      w.phase = .confirming → w.writeRequestId = some id →
      Transition w n ⟨id, .ble .writeCompleted⟩
        { w with phase := .completed, writeRequestId := none, subscriptionRequestId := none }
        (unsubscribeEffects w ++ [.notify (.streamingCompleted w.completedUnits w.uploadedChunks
          (w.encrypted.getD false))])
  | failed {event : HostEvent} {w' : StreamingTransferWorkflow} {error : DeviceSdkError} :
      Fails w event → w'.phase = .failed → w'.terminalError = some error →
      w'.cancellationId = w.cancellationId →
      Transition w n event w' (failEffects w error)

theorem transition_of_fail {w : StreamingTransferWorkflow} {n : RequestId} {event : HostEvent}
    {call : Call} {error : DeviceSdkError} (h : Fails w event)
    (hsub : call.workflow.subscriptionRequestId = w.subscriptionRequestId)
    (hsink : call.workflow.sinkId = w.sinkId)
    (hcancel : call.workflow.cancellationId = w.cancellationId) (heffects : call.requested = []) :
    Transition w n event (fail error call).workflow (fail error call).requested := by
  have heq : failEffects call.workflow error = failEffects w error := by
    rw [failEffects, failEffects, unsubscribeEffects, unsubscribeEffects, hsub, hsink]
  rw [fail_requested, heffects, List.nil_append, heq, fail_workflow]
  exact .failed h rfl rfl hcancel

/-- A dispatch either takes a transition or rejects the event and changes nothing. -/
theorem dispatch_cases (w : StreamingTransferWorkflow) (event : HostEvent)
    (context : WorkflowContext) :
    (∃ call : Call, dispatch w event context = .ok call ∧
      Transition w context.nextRequestId event call.workflow call.requested) ∨
    dispatch w event context = .err w context unexpected := by
  obtain ⟨id, kind⟩ := event
  cases kind with
  | ble event =>
    cases event with
    | subscribed characteristicUuid =>
      by_cases h : w.phase = .subscribing ∧ some id = w.subscriptionRequestId ∧
          characteristicUuid = CHAR_RECORDING_TRANSFER
      · refine .inl ⟨_, if_pos h, ?_⟩
        obtain ⟨hphase, hid, rfl⟩ := h
        exact .subscribed hphase hid.symm
      · exact .inr (if_neg h)
    | writeCompleted =>
      by_cases hid : some id = w.writeRequestId
      · cases hphase : w.phase with
        | starting =>
          refine .inl ⟨_, by simp only [dispatch, if_pos hid, hphase]; rfl, ?_⟩
          exact .started hphase hid.symm
        | acknowledging =>
          refine .inl ⟨_, by simp only [dispatch, if_pos hid, hphase]; rfl, ?_⟩
          exact .acknowledged hphase hid.symm
        | confirming =>
          refine .inl ⟨_, by simp only [dispatch, if_pos hid, hphase]; rfl, ?_⟩
          have hstep := Transition.confirmed (n := context.nextRequestId) hphase hid.symm
          simpa [complete, unsubscribeEffects] using hstep
        | _ => exact .inr (by simp only [dispatch, if_pos hid, hphase])
      · exact .inr (if_neg hid)
    | notification characteristicUuid value =>
      by_cases h : w.phase = .transferring ∧ some id = w.subscriptionRequestId ∧
          characteristicUuid = CHAR_RECORDING_TRANSFER
      · refine .inl ⟨_, if_pos h, ?_⟩
        obtain ⟨hphase, hid, rfl⟩ := h
        cases hparse : parseTransferPacket value with
        | error error =>
          rw [dispatchValue, hparse]
          exact transition_of_fail (.undecodable hphase hid.symm hparse) rfl rfl rfl rfl
        | ok packet =>
          have hvalue : dispatchValue value (Step.begin w context) =
              dispatchPacket packet (Step.begin w context) := by rw [dispatchValue, hparse]
          rw [hvalue]
          rcases dispatchPacket_cases (Step.begin w context) packet with
            ⟨effects, hstep, heffects⟩ | ⟨hfails, error, hfail⟩
          · rw [heffects, Step.begin_requested, List.nil_append]
            exact .packet hphase hid.symm hparse hstep
          · rw [hfail]
            exact transition_of_fail (.packet hphase hid.symm hparse hfails) rfl rfl rfl rfl
      · exact .inr (if_neg h)
    | disconnected peripheralId reasonCode =>
      exact .inl ⟨_, rfl, transition_of_fail .disconnected rfl rfl rfl rfl⟩
    | failed platformCode =>
      by_cases h : some id ∈ [w.subscriptionRequestId, w.writeRequestId]
      · exact .inl ⟨_, if_pos h, transition_of_fail (.bleFailed h) rfl rfl rfl rfl⟩
      · exact .inr (if_neg h)
    | _ => exact .inr rfl
  | streamingSinkAccepted receivedUnits =>
    by_cases h : w.phase = .accepting ∧ some id = w.sinkRequestId
    · by_cases hunits : receivedUnits ≠ saturatingAdd w.completedUnits w.pendingUnits
      · refine .inl ⟨_, (if_pos h).trans (if_pos hunits), ?_⟩
        exact transition_of_fail (.inconsistent h.1 h.2.symm hunits) rfl rfl rfl rfl
      · refine .inl ⟨_, (if_pos h).trans (if_neg hunits), ?_⟩
        exact .accepted h.1 h.2.symm (not_not.mp hunits)
    · exact .inr (if_neg h)
  | streamingSinkFinalized uploadedChunks totalUnits =>
    by_cases h : w.phase = .finalizing ∧ some id = w.sinkRequestId
    · by_cases hunits : totalUnits ≠ w.completedUnits
      · refine .inl ⟨_, (if_pos h).trans (if_pos hunits), ?_⟩
        exact transition_of_fail (.miscounted h.1 h.2.symm hunits) rfl rfl rfl rfl
      · refine .inl ⟨_, (if_pos h).trans (if_neg hunits), ?_⟩
        exact .finalized h.1 h.2.symm (not_not.mp hunits)
    · exact .inr (if_neg h)
  | streamingSinkFailed platformCode =>
    by_cases h : some id = w.sinkRequestId
    · exact .inl ⟨_, if_pos h, transition_of_fail (.sinkFailed h.symm) rfl rfl rfl rfl⟩
    · exact .inr (if_neg h)
  | _ => exact .inr rfl

/-- Cancelling aborts the transfer and discards the sink, whatever the phase. -/
theorem cancel_requested (w : StreamingTransferWorkflow) (context : WorkflowContext) :
    ∃ call : Call, cancel w context = .ok call ∧
      call.requested = ackEffect .abort w.nextSequence :: (unsubscribeEffects w ++
        [.recordingSink (.discardStreaming w.sinkId),
          .notify (.cancelled .transferRecording)]) := by
  refine ⟨_, rfl, ?_⟩
  rw [Step.request_requested, Step.request_requested, unsubscribe_requested,
    Step.request_requested, List.append_assoc, List.append_assoc]
  rfl

/-! ## Runs -/

/-- The engine just started on a live transfer. -/
def Started (engine₀ : WorkflowEngine StreamingTransferWorkflow) : Prop :=
  ∃ (engine : WorkflowEngine StreamingTransferWorkflow) (command : StreamRecording)
    (capabilities : List Capability) (id : CancellationId) (effects : List EffectRequest),
    engine.start command capabilities id = (engine₀, .ok effects)

def sampleCommand : StreamRecording where
  device := ⟨"EVFXXW67KP"⟩
  recording := ⟨.replicate 16 1⟩
  sinkId := ⟨"sink-1"⟩

def sampleCancellation : CancellationId := ⟨.replicate 16 9⟩

/-- A fresh engine started on one recording; its subscription is request 2. -/
def sampleEngine : WorkflowEngine StreamingTransferWorkflow :=
  (WorkflowEngine.start {} sampleCommand [.ble, .recordingSink] sampleCancellation).1

theorem started_sampleEngine : Started sampleEngine :=
  ⟨{}, sampleCommand, [.ble, .recordingSink], sampleCancellation, _, rfl⟩

def notifyEvent (value : List UInt8) : Event :=
  .host ⟨2, .ble (.notification CHAR_RECORDING_TRANSFER value)⟩

/-- A transfer starts subscribing, with everything else as `new` leaves it. -/
theorem Started.active {engine₀ : WorkflowEngine StreamingTransferWorkflow} (h : Started engine₀) :
    ∃ recording sinkId cancellationId id, engine₀.active =
      some { new recording sinkId cancellationId with subscriptionRequestId := some id } := by
  obtain ⟨engine, command, capabilities, id, effects, h⟩ := h
  obtain ⟨workflow, hcreate, reduction, rfl, hact, -, -⟩ := start_ok h
  obtain rfl := Except.ok.inj hcreate
  exact ⟨_, _, _, _, hact⟩

theorem terminalStatus_of_running {w : StreamingTransferWorkflow}
    (h : ¬(w.phase = .completed ∨ w.phase = .failed)) : terminalStatus w = .ok none := by
  push Not at h
  rw [terminalStatus]
  split
  · rename_i hphase
    exact absurd hphase h.1
  · rename_i hphase
    exact absurd hphase h.2
  · rfl

/-- A transition into a terminal phase has the status to report. -/
theorem Transition.terminal {w w' : StreamingTransferWorkflow} {n : RequestId} {event : HostEvent}
    {effects : List Effect} (h : Transition w n event w' effects)
    (hend : w'.phase = .completed ∨ w'.phase = .failed) :
    ∃ status, terminalStatus w' = .ok (some status) := by
  rcases hend with hphase | hphase
  · exact ⟨_, by rw [terminalStatus, hphase]⟩
  · cases h with
    | failed _ _ herror => exact ⟨_, by simp only [terminalStatus, hphase, herror]; rfl⟩
    | packet htransferring _ _ hstep => cases hstep <;> simp_all
    | _ => simp_all [settleAccepted]

section RunRule

variable {ok : List (EngineEntry StreamingTransferWorkflow) →
    WorkflowEngine StreamingTransferWorkflow → Event → Prop}
  {I : List (EngineEntry StreamingTransferWorkflow) → StreamingTransferWorkflow → Prop}
  {J : List (EngineEntry StreamingTransferWorkflow) → Prop}
  {engine₀ engine : WorkflowEngine StreamingTransferWorkflow}
  {trace : List (EngineEntry StreamingTransferWorkflow)}

/-- The invariant rule for runs of a live transfer, one case per kind of step. -/
theorem run_rule (init : Settled I J [] engine₀)
    (transition : ∀ trace engine w event (call : Call), EngineRun ok engine₀ trace engine →
      engine.active = some w → I trace w → ok trace engine (.host event) →
      dispatch w event (engine.context w) = .ok call →
      Transition w engine.nextRequestId event call.workflow call.requested →
      if call.workflow.phase = .completed ∨ call.workflow.phase = .failed then
        J (trace ++ [⟨engine, .host event, .ok call.effects⟩])
      else I (trace ++ [⟨engine, .host event, .ok call.effects⟩]) call.workflow)
    (rejected : ∀ trace engine w event, EngineRun ok engine₀ trace engine →
      engine.active = some w → I trace w → ok trace engine (.host event) →
      dispatch w event (engine.context w) = .err w (engine.context w) unexpected →
      I (trace ++ [⟨engine, .host event, .err unexpected⟩]) w)
    (cancelled : ∀ trace engine w (call : Call), engine.active = some w → I trace w →
      ok trace engine (.cancelled w.cancellationId) →
      call.requested = ackEffect .abort w.nextSequence :: (unsubscribeEffects w ++
        [.recordingSink (.discardStreaming w.sinkId), .notify (.cancelled .transferRecording)]) →
      J (trace ++ [⟨engine, .cancelled w.cancellationId, .ok call.effects⟩]))
    (foreign : ∀ trace (entry : EngineEntry StreamingTransferWorkflow) w,
      entry.pre.active = some w →
      (∃ id, entry.input = .cancelled id ∧ w.cancellationId ≠ id) →
      ok trace entry.pre entry.input → entry.output.effects = [] → I trace w →
      I (trace ++ [entry]) w)
    (ended : ∀ trace (entry : EngineEntry StreamingTransferWorkflow), entry.pre.active = none →
      ok trace entry.pre entry.input → entry.output.effects = [] → J trace → J (trace ++ [entry]))
    (h : EngineRun ok engine₀ trace engine) : Settled I J trace engine := by
  refine EngineRun.rule init ?_ ?_ foreign ended h
  · intro trace engine w event hrun hact hinv hok
    rw [dispatch_active hact]
    rcases dispatch_cases w event (engine.context w) with ⟨call, hcall, hstep⟩ | hreject
    · have hkeep := transition trace engine w event call hrun hact hinv hok hcall hstep
      have hred : WorkflowReducer.dispatch w event (engine.context w) = .ok call := hcall
      rw [hred]
      split at hkeep
      · rename_i hend
        obtain ⟨status, hstatus⟩ := hstep.terminal hend
        rw [settle_ended rfl hstatus, settled_ended rfl]
        exact hkeep
      · rename_i hrunning
        rw [settle_running rfl (terminalStatus_of_running hrunning), settled_active rfl]
        exact hkeep
    · have hred : WorkflowReducer.dispatch w event (engine.context w) = _ := hreject
      rw [hred, settle_err rfl, settled_active rfl]
      exact rejected trace engine w event hrun hact hinv hok hreject
  · intro trace engine w _ hact hinv hok
    obtain ⟨call, hcall, hrequested⟩ := cancel_requested w (engine.context w)
    have hred : WorkflowReducer.cancel w (engine.context w) = .ok call := hcall
    have hout : (WorkflowReducer.cancel w (engine.context w)).outcome = .ok call.effects := by
      rw [hred]
      rfl
    rw [cancel_active hact hout, settled_ended rfl]
    exact cancelled trace engine w call hact hinv hok hrequested

end RunRule

end StreamingTransferWorkflow

end BotaSdk
