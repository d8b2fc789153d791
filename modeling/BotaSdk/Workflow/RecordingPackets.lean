import BotaSdk.Workflow.RecordingTransfer

/-!
# What one packet can do to a batch transfer

`PacketStep` lists the packets that leave the transfer running, `NotificationStep` every value that
is taken, and `Drains` the turns of the drain loop over the queued values.
-/

namespace BotaSdk

open Protocol RecordingTransfer

namespace RecordingTransferWorkflow

/-! ## Effects of the shared endings -/

def unsubscribeEffects (w : RecordingTransferWorkflow) : List Effect :=
  match w.subscriptionRequestId with
  | none => []
  | some _ => [unsubscribeEffect]

def graceEffects (w : RecordingTransferWorkflow) : List Effect :=
  match w.shaGraceTimerScheduled with
  | true => [.timer (.cancel SHA256_GRACE_TIMER_ID)]
  | false => []

def failEffects (w : RecordingTransferWorkflow) (error : DeviceSdkError) : List Effect :=
  unsubscribeEffects w ++ graceEffects w ++ [.notify (.failed error)]

/-- The NACK, and the loss of everything received. -/
def discardEffects (w : RecordingTransferWorkflow) (sequence : Nat) : List Effect :=
  [ackEffect .nack sequence, .recordingSink (.discard w.sinkId), .persistence .deleteCheckpoint]

section Endings

variable (call : Call)

@[simp] theorem unsubscribe_workflow :
    (unsubscribe call).workflow = { call.workflow with subscriptionRequestId := none } := by
  rw [unsubscribe]
  split
  · rename_i h
    rw [← h]
  · rfl

@[simp] theorem unsubscribe_requested :
    (unsubscribe call).requested = call.requested ++ unsubscribeEffects call.workflow := by
  cases h : call.workflow.subscriptionRequestId with
  | none => simp [unsubscribe, unsubscribeEffects, h]
  | some id => simp [unsubscribe, unsubscribeEffects, h]

@[simp] theorem cancelGraceTimer_workflow :
    (cancelGraceTimer call).workflow = { call.workflow with shaGraceTimerScheduled := false } := by
  rw [cancelGraceTimer]
  split
  · rfl
  · rename_i h
    rw [Bool.not_eq_true] at h
    rw [← h]

@[simp] theorem cancelGraceTimer_requested :
    (cancelGraceTimer call).requested = call.requested ++ graceEffects call.workflow := by
  cases h : call.workflow.shaGraceTimerScheduled with
  | true => simp [cancelGraceTimer, graceEffects, h]
  | false => simp [cancelGraceTimer, graceEffects, h]

@[simp] theorem fail_workflow (error : DeviceSdkError) :
    (fail error call).workflow =
      { call.workflow with
        phase := .failed, terminalError := some error, subscriptionRequestId := none
        shaGraceTimerScheduled := false } := by
  simp [fail]

@[simp] theorem fail_requested (error : DeviceSdkError) :
    (fail error call).requested = call.requested ++ failEffects call.workflow error := by
  simp [fail, failEffects, unsubscribeEffects, graceEffects]

@[simp] theorem writeAck_requested (ackType : AckType) (sequence : Nat) :
    (writeAck ackType sequence call).requested = call.requested ++ [ackEffect ackType sequence] :=
  Step.request_requested ..

@[simp] theorem acknowledge_requested :
    (acknowledge call).requested = call.requested ++
      (graceEffects call.workflow ++ [ackEffect .ack (call.workflow.eofSequence.getD 0)]) := by
  simp [acknowledge, graceEffects]

@[simp] theorem append_requested (sequence : Option Nat) (payload : List UInt8) :
    (append sequence payload call).requested = call.requested ++
      [.recordingSink (.append call.workflow.sinkId (sequence.getD 0) payload)] :=
  Step.request_requested ..

@[simp] theorem finalize_requested (sequence : Nat) (checksum : Option Nat) :
    (finalize sequence checksum call).requested = call.requested ++
      [.recordingSink (.finalize call.workflow.sinkId checksum),
        .timer (.schedule SHA256_GRACE_TIMER_ID SHA256_GRACE_DELAY_MS)] := by
  simp [finalize]

end Endings

/-- What a transfer that fails requests last: with or without discarding what was received. -/
inductive FailEffects (w : RecordingTransferWorkflow) : List Effect → Prop
  | kept {error : DeviceSdkError} : FailEffects w (failEffects w error)
  | discarded {sequence : Nat} {error : DeviceSdkError} :
      FailEffects w (discardEffects w sequence ++ failEffects w error)

/-- The call has ended the transfer with an error. -/
structure Failed (call call' : Call) : Prop where
  phase : call'.workflow.phase = .failed
  error : call'.workflow.terminalError.isSome
  effects : ∃ effects, FailEffects call.workflow effects ∧
    call'.requested = call.requested ++ effects

theorem failed_fail (error : DeviceSdkError) (call : Call) : Failed call (fail error call) :=
  ⟨by rw [fail_workflow], by rw [fail_workflow]; rfl, _, .kept, fail_requested ..⟩

def integrityError (reason : String) : DeviceSdkError :=
  (DeviceSdkError.new .integrityFailed .transferRecording true).withDetail reason

theorem failIntegrity_requested (reason : String) (call : Call) :
    (failIntegrity reason call).requested = call.requested ++
      (discardEffects call.workflow (call.workflow.eofSequence.getD 0) ++
        failEffects call.workflow (integrityError reason)) := by
  have hfail : failIntegrity reason call = fail (integrityError reason)
      (((writeAck .nack (call.workflow.eofSequence.getD 0) call).request
        (.recordingSink (.discard call.workflow.sinkId))).request
          (.persistence .deleteCheckpoint)) := rfl
  rw [hfail, fail_requested, Step.request_requested, Step.request_requested, writeAck_requested]
  simp only [List.append_assoc]
  rfl

theorem failed_failIntegrity (reason : String) (call : Call) :
    Failed call (failIntegrity reason call) := by
  refine ⟨?_, ?_, _, .discarded, failIntegrity_requested reason call⟩
  · rw [failIntegrity, fail_workflow]
  · rw [failIntegrity, fail_workflow]
    rfl

/-- The same, after the sequence to reject has been noted. -/
theorem failed_failIntegrity_at (reason : String) (eofSequence : Option Nat) (call : Call) :
    Failed call (failIntegrity reason
      (call.update fun w => { w with eofSequence := eofSequence })) := by
  refine ⟨?_, ?_, discardEffects call.workflow (eofSequence.getD 0) ++
    failEffects call.workflow (integrityError reason), .discarded, failIntegrity_requested reason _⟩
  · rw [failIntegrity, fail_workflow]
  · rw [failIntegrity, fail_workflow]
    rfl

/-! ## One packet -/

/-- The packet leaves the transfer running: what it does to the state and what it requests. -/
inductive PacketStep (w : RecordingTransferWorkflow) :
    TransferPacket → RecordingTransferWorkflow → List Effect → Prop
  | duplicate {sequence : Nat} {data : List UInt8} :
      w.lastSequence.any (sequence ≤ ·) → PacketStep w (.data sequence data) w []
  | data {sequence : Nat} {data : List UInt8} {id : RequestId} {batch : Batch} :
      ¬w.lastSequence.any (sequence ≤ ·) → sequence = w.nextSequence → w.encrypted ≠ some true →
      batch = takeBatch sequence data w.pendingPackets w.pendingBytes →
      PacketStep w (.data sequence data)
        { w with
          encrypted := some false, pendingPackets := batch.queue
          pendingBytes := batch.pendingBytes, phase := .appending
          pendingSequence := some batch.sequence, pendingPayloadUnits := batch.payload.length
          sinkRequestId := some id }
        [.recordingSink (.append w.sinkId batch.sequence batch.payload)]
  | eof {sequence checksum : Nat} {id : RequestId} :
      w.encrypted ≠ some true →
      PacketStep w (.eof sequence checksum)
        { w with
          encrypted := some false, phase := .finalizing, eofSequence := some sequence
          sinkRequestId := some id, shaGraceTimerScheduled := true }
        [.recordingSink (.finalize w.sinkId (some checksum)),
          .timer (.schedule SHA256_GRACE_TIMER_ID SHA256_GRACE_DELAY_MS)]
  | repeatedStart {ephemeralPublicKey salt : List UInt8} :
      w.encrypted ≠ some false → w.e2eHeaderReceived →
      PacketStep w (.e2eStart ephemeralPublicKey salt) { w with encrypted := some true } []
  | resumedStart {ephemeralPublicKey salt : List UInt8} :
      w.encrypted ≠ some false → ¬w.e2eHeaderReceived → 0 < w.completedUnits →
      PacketStep w (.e2eStart ephemeralPublicKey salt)
        { w with encrypted := some true, e2eHeaderReceived := true } []
  | e2eStart {ephemeralPublicKey salt : List UInt8} {id : RequestId} :
      w.encrypted ≠ some false → ¬w.e2eHeaderReceived → ¬0 < w.completedUnits →
      PacketStep w (.e2eStart ephemeralPublicKey salt)
        { w with
          encrypted := some true, e2eHeaderReceived := true, phase := .appending
          pendingSequence := none
          pendingPayloadUnits := (ephemeralPublicKey ++ salt).length, sinkRequestId := some id }
        [.recordingSink (.append w.sinkId 0 (ephemeralPublicKey ++ salt))]
  | encryptedDuplicate {sequence : Nat} {chunk : List UInt8} :
      w.encrypted = some true → w.e2eHeaderReceived → w.lastSequence.any (sequence ≤ ·) →
      PacketStep w (.encryptedData sequence chunk) w []
  | encryptedData {sequence : Nat} {chunk : List UInt8} {id : RequestId} :
      w.encrypted = some true → w.e2eHeaderReceived → ¬w.lastSequence.any (sequence ≤ ·) →
      sequence = w.nextSequence → 16 ≤ chunk.length → chunk.length - 16 ≤ 65535 →
      PacketStep w (.encryptedData sequence chunk)
        { w with
          phase := .appending, pendingSequence := some sequence
          pendingPayloadUnits := (framed chunk).length, sinkRequestId := some id }
        [.recordingSink (.append w.sinkId sequence (framed chunk))]
  | encryptedEof {sequence : Nat} {id : RequestId} :
      w.encrypted = some true → w.e2eHeaderReceived →
      PacketStep w (.encryptedEof sequence)
        { w with
          phase := .finalizing, eofSequence := some sequence, sinkRequestId := some id
          shaGraceTimerScheduled := true }
        [.recordingSink (.finalize w.sinkId none),
          .timer (.schedule SHA256_GRACE_TIMER_ID SHA256_GRACE_DELAY_MS)]
  | sha256 {value : List UInt8} :
      PacketStep w (.sha256 value) { w with sha256 := some value } []

/-- The packet ends the transfer. -/
inductive PacketFails (w : RecordingTransferWorkflow) : TransferPacket → Prop
  | gap {sequence : Nat} {data : List UInt8} :
      ¬w.lastSequence.any (sequence ≤ ·) → sequence ≠ w.nextSequence →
      PacketFails w (.data sequence data)
  | mixedData {sequence : Nat} {data : List UInt8} :
      ¬w.lastSequence.any (sequence ≤ ·) → w.encrypted = some true →
      PacketFails w (.data sequence data)
  | mixedEof {sequence checksum : Nat} :
      w.encrypted = some true → PacketFails w (.eof sequence checksum)
  | mixedStart {ephemeralPublicKey salt : List UInt8} :
      w.encrypted = some false → PacketFails w (.e2eStart ephemeralPublicKey salt)
  | headerMissing {sequence : Nat} {chunk : List UInt8} :
      w.encrypted ≠ some true ∨ ¬w.e2eHeaderReceived → PacketFails w (.encryptedData sequence chunk)
  | encryptedGap {sequence : Nat} {chunk : List UInt8} :
      ¬w.lastSequence.any (sequence ≤ ·) → sequence ≠ w.nextSequence ∨ chunk.length < 16 →
      PacketFails w (.encryptedData sequence chunk)
  | eofHeaderMissing {sequence : Nat} :
      w.encrypted ≠ some true ∨ ¬w.e2eHeaderReceived → PacketFails w (.encryptedEof sequence)
  | rejected {sequence code : Nat} : PacketFails w (.error sequence code)
  | unsupported {sequence : Nat} {bytesSent : Option Nat} : PacketFails w (.paused sequence bytesSent)

/-- The chunk's plaintext length does not fit the frame header. -/
def Oversized (packet : TransferPacket) : Prop :=
  ∃ sequence chunk, packet = .encryptedData sequence chunk ∧ 65535 < chunk.length - 16

theorem dispatchPacket_cases (packet : TransferPacket) (call : Call) :
    (∃ call' effects, dispatchPacket packet call = .ok call' ∧
      PacketStep call.workflow packet call'.workflow effects ∧
      call'.requested = call.requested ++ effects) ∨
    (∃ call', dispatchPacket packet call = .ok call' ∧ PacketFails call.workflow packet ∧
      Failed call call') ∨
    (dispatchPacket packet call = .panicked ∧ Oversized packet) := by
  cases packet with
  | data sequence data =>
    by_cases hdup : call.workflow.lastSequence.any (sequence ≤ ·)
    · exact .inl ⟨call, [], if_pos hdup, .duplicate hdup, (List.append_nil _).symm⟩
    · by_cases hseq : sequence = call.workflow.nextSequence
      · by_cases hmix : call.workflow.encrypted = some true
        · refine .inr (.inl ⟨_, (if_neg hdup).trans ((if_neg (not_not_intro hseq)).trans
            (if_pos hmix)), .mixedData hdup hmix, failed_fail ..⟩)
        · refine .inl ⟨_, _, (if_neg hdup).trans ((if_neg (not_not_intro hseq)).trans
            (if_neg hmix)), .data hdup hseq hmix rfl, ?_⟩
          exact append_requested ..
      · refine .inr (.inl ⟨_, (if_neg hdup).trans (if_pos hseq), .gap hdup hseq, ?_⟩)
        exact failed_failIntegrity_at "sequence_gap" _ call
  | eof sequence checksum =>
    by_cases hmix : call.workflow.encrypted = some true
    · exact .inr (.inl ⟨_, if_pos hmix, .mixedEof hmix, failed_fail ..⟩)
    · exact .inl ⟨_, _, if_neg hmix, .eof hmix, finalize_requested ..⟩
  | e2eStart ephemeralPublicKey salt =>
    by_cases hmix : call.workflow.encrypted = some false
    · exact .inr (.inl ⟨_, if_pos hmix, .mixedStart hmix, failed_fail ..⟩)
    · by_cases hheader : call.workflow.e2eHeaderReceived
      · exact .inl ⟨_, [], (if_neg hmix).trans (if_pos hheader), .repeatedStart hmix hheader,
          (List.append_nil _).symm⟩
      · by_cases hunits : 0 < call.workflow.completedUnits
        · exact .inl ⟨_, [], (if_neg hmix).trans ((if_neg hheader).trans (if_pos hunits)),
            .resumedStart hmix hheader hunits, (List.append_nil _).symm⟩
        · exact .inl ⟨_, _, (if_neg hmix).trans ((if_neg hheader).trans (if_neg hunits)),
            .e2eStart hmix hheader hunits, append_requested ..⟩
  | encryptedData sequence chunk =>
    by_cases hheader : call.workflow.encrypted ≠ some true ∨ ¬call.workflow.e2eHeaderReceived
    · exact .inr (.inl ⟨_, if_pos hheader, .headerMissing hheader, failed_fail ..⟩)
    · by_cases hdup : call.workflow.lastSequence.any (sequence ≤ ·)
      · have hok : dispatchPacket (.encryptedData sequence chunk) call = .ok call :=
          (if_neg hheader).trans (if_pos hdup)
        push Not at hheader
        exact .inl ⟨call, [], hok, .encryptedDuplicate hheader.1 hheader.2 hdup,
          (List.append_nil _).symm⟩
      · by_cases hgap : sequence ≠ call.workflow.nextSequence ∨ chunk.length < 16
        · refine .inr (.inl ⟨_, (if_neg hheader).trans ((if_neg hdup).trans (if_pos hgap)),
            .encryptedGap hdup hgap, ?_⟩)
          exact failed_failIntegrity_at _ _ call
        · by_cases hover : 65535 < chunk.length - 16
          · exact .inr (.inr ⟨(if_neg hheader).trans ((if_neg hdup).trans ((if_neg hgap).trans
              (if_pos hover))), sequence, chunk, rfl, hover⟩)
          · have hok : dispatchPacket (.encryptedData sequence chunk) call =
                .ok (append (some sequence) (framed chunk) call) :=
              (if_neg hheader).trans ((if_neg hdup).trans ((if_neg hgap).trans (if_neg hover)))
            push Not at hheader hgap
            exact .inl ⟨_, _, hok, .encryptedData hheader.1 hheader.2 hdup hgap.1 hgap.2
              (Nat.not_lt.mp hover), append_requested ..⟩
  | encryptedEof sequence =>
    by_cases hheader : call.workflow.encrypted ≠ some true ∨ ¬call.workflow.e2eHeaderReceived
    · exact .inr (.inl ⟨_, if_pos hheader, .eofHeaderMissing hheader, failed_fail ..⟩)
    · have hok : dispatchPacket (.encryptedEof sequence) call = .ok (finalize sequence none call) :=
        if_neg hheader
      push Not at hheader
      exact .inl ⟨_, _, hok, .encryptedEof hheader.1 hheader.2, finalize_requested ..⟩
  | sha256 value => exact .inl ⟨_, [], rfl, .sha256, (List.append_nil _).symm⟩
  | error sequence code => exact .inr (.inl ⟨_, rfl, .rejected, failed_fail ..⟩)
  | paused sequence bytesSent => exact .inr (.inl ⟨_, rfl, .unsupported, failed_fail ..⟩)

/-! ## One notification -/

/-- The queue has room for the value. -/
def Room (w : RecordingTransferWorkflow) (value : List UInt8) : Prop :=
  w.pendingPackets.length < MAX_PENDING_PACKETS ∧
    value.length ≤ MAX_PENDING_BYTES - w.pendingBytes

/-- The state once the transfer is acknowledged; `id` is the request of the ACK. -/
def acknowledging (w : RecordingTransferWorkflow) (id : RequestId) : RecordingTransferWorkflow :=
  { w with phase := .acknowledging, shaGraceTimerScheduled := false, writeRequestId := some id }

def acknowledgeEffects (w : RecordingTransferWorkflow) : List Effect :=
  graceEffects w ++ [ackEffect .ack (w.eofSequence.getD 0)]

/-- The value ends the transfer. -/
inductive NotificationFails (w : RecordingTransferWorkflow) (value : List UInt8) : Prop
  | overflow : w.phase = .starting ∨ w.phase = .appending → ¬Room w value → NotificationFails w value
  | undecodable {error : DeviceSdkError} :
      w.phase.drains → parseTransferPacket value = .error error → NotificationFails w value
  | packet {packet : TransferPacket} :
      w.phase = .transferring → parseTransferPacket value = .ok packet → PacketFails w packet →
      NotificationFails w value

/-- One notification that is taken. -/
inductive NotificationStep (w : RecordingTransferWorkflow) (value : List UInt8) :
    RecordingTransferWorkflow → List Effect → Prop
  | queued :
      w.phase = .starting ∨ w.phase = .appending → Room w value →
      NotificationStep w value
        { w with
          pendingBytes := w.pendingBytes + value.length
          pendingPackets := w.pendingPackets ++ [value] } []
  | packet {packet : TransferPacket} {w' : RecordingTransferWorkflow} {effects : List Effect} :
      w.phase = .transferring → parseTransferPacket value = .ok packet →
      PacketStep w packet w' effects → NotificationStep w value w' effects
  | lateSha256 {sha256 : List UInt8} :
      w.phase = .finalizing → parseTransferPacket value = .ok (.sha256 sha256) →
      NotificationStep w value { w with sha256 := some sha256 } []
  | awaitedSha256 {sha256 : List UInt8} {id : RequestId} :
      w.phase = .waitingForSha → parseTransferPacket value = .ok (.sha256 sha256) →
      NotificationStep w value (acknowledging { w with sha256 := some sha256 } id)
        (acknowledgeEffects w)
  | repeatedEof {sequence checksum : Nat} :
      w.phase = .finalizing ∨ w.phase = .waitingForSha →
      parseTransferPacket value = .ok (.eof sequence checksum) ∨
        parseTransferPacket value = .ok (.encryptedEof sequence) →
      NotificationStep w value w []
  | failed {w' : RecordingTransferWorkflow} {effects : List Effect} :
      NotificationFails w value → FailEffects w effects → w'.phase = .failed →
      w'.terminalError.isSome → NotificationStep w value w' effects

/-- The phases in which every packet but SHA256 and EOF is rejected as late. -/
def Late (w : RecordingTransferWorkflow) : Prop :=
  w.phase = .finalizing ∨ w.phase = .waitingForSha

/-- The value brings the reducer down. -/
def Crashes (w : RecordingTransferWorkflow) (value : List UInt8) : Prop :=
  w.phase = .transferring ∧ ∃ packet, parseTransferPacket value = .ok packet ∧ Oversized packet

@[simp] theorem acknowledge_workflow (call : Call) :
    (acknowledge call).workflow =
      acknowledging call.workflow (cancelGraceTimer
        (call.update fun w => { w with phase := .acknowledging })).context.nextRequestId := by
  simp [acknowledge, writeAck, acknowledging]

/-- Every notification in a receiving phase is a step, is rejected as late, or crashes. -/
theorem dispatchNotification_cases {call : Call} (hphase : call.workflow.phase.receives)
    (value : List UInt8) :
    (∃ call' effects, dispatchNotification value call = .ok call' ∧
      NotificationStep call.workflow value call'.workflow effects ∧
      call'.requested = call.requested ++ effects) ∨
    (∃ error, dispatchNotification value call = .err error ∧ Late call.workflow) ∨
    (dispatchNotification value call = .panicked ∧ Crashes call.workflow value) := by
  have hqueue : call.workflow.phase = .starting ∨ call.workflow.phase = .appending →
      ∃ call' effects, Outcome.ok (enqueue value call) = .ok call' ∧
        NotificationStep call.workflow value call'.workflow effects ∧
        call'.requested = call.requested ++ effects := by
    intro hqueues
    by_cases hroom : Room call.workflow value
    · refine ⟨_, [], rfl, ?_, ?_⟩
      · rw [enqueue, if_neg (by rw [Room] at hroom; omega)]
        exact .queued hqueues hroom
      · rw [enqueue, if_neg (by rw [Room] at hroom; omega)]
        exact (List.append_nil _).symm
    · have hfull : enqueue value call = failIntegrity "receive_buffer_overflow" call :=
        if_pos (by rw [Room] at hroom; omega)
      rw [hfull]
      obtain ⟨hphase', herror, effects, heffects, hrequested⟩ :=
        failed_failIntegrity "receive_buffer_overflow" call
      exact ⟨_, effects, rfl, .failed (.overflow hqueues hroom) heffects hphase' herror, hrequested⟩
  have hfailed : ∀ error, call.workflow.phase.drains →
      parseTransferPacket value = .error error →
      NotificationStep call.workflow value (fail error call).workflow
        (failEffects call.workflow error) := by
    intro error hdrains hparse
    refine .failed (.undecodable hdrains hparse) .kept ?_ ?_
    · rw [fail_workflow]
    · rw [fail_workflow]
      rfl
  have hlate : call.workflow.phase = .finalizing ∨ call.workflow.phase = .waitingForSha →
      ∀ packet, parseTransferPacket value = .ok packet →
      (∃ call' effects, dispatchLatePacket packet call = .ok call' ∧
        NotificationStep call.workflow value call'.workflow effects ∧
        call'.requested = call.requested ++ effects) ∨
      ∃ error, dispatchLatePacket packet call = .err error := by
    intro hwaits packet hparse
    cases packet with
    | sha256 sha256 =>
      by_cases hwaiting : call.workflow.phase = .waitingForSha
      · refine .inl ⟨_, acknowledgeEffects call.workflow, if_pos hwaiting, ?_,
          acknowledge_requested _⟩
        rw [acknowledge_workflow]
        exact .awaitedSha256 hwaiting hparse
      · exact .inl ⟨_, [], if_neg hwaiting, .lateSha256 (hwaits.resolve_right hwaiting) hparse,
          (List.append_nil _).symm⟩
    | eof =>
      exact .inl ⟨call, [], rfl, .repeatedEof hwaits (.inl hparse), (List.append_nil _).symm⟩
    | encryptedEof =>
      refine .inl ⟨call, [], rfl, ?_, (List.append_nil _).symm⟩
      exact @NotificationStep.repeatedEof _ _ _ 0 hwaits (.inr hparse)
    | data | e2eStart | encryptedData | error | paused => exact .inr ⟨_, rfl⟩
  rw [dispatchNotification]
  cases heq : call.workflow.phase with
  | starting => exact .inl (hqueue (.inl heq))
  | appending => exact .inl (hqueue (.inr heq))
  | transferring =>
    simp only
    cases hparse : parseTransferPacket value with
    | error error =>
      exact .inl ⟨_, _, rfl, hfailed error (by rw [heq]; rfl) hparse, fail_requested ..⟩
    | ok packet =>
      rcases dispatchPacket_cases packet call with
        ⟨call', effects, hok, hstep, hrequested⟩ | ⟨call', hok, hfails, hend⟩ | ⟨hpanic, hover⟩
      · exact .inl ⟨call', effects, hok, .packet heq hparse hstep, hrequested⟩
      · obtain ⟨hphase', herror, effects, heffects, hrequested⟩ := hend
        exact .inl ⟨call', effects, hok, .failed (.packet heq hparse hfails) heffects hphase' herror,
          hrequested⟩
      · exact .inr (.inr ⟨hpanic, heq, packet, hparse, hover⟩)
  | finalizing | waitingForSha =>
    simp only
    cases hparse : parseTransferPacket value with
    | error error =>
      exact .inl ⟨_, _, rfl, hfailed error (by rw [heq]; rfl) hparse, fail_requested ..⟩
    | ok packet =>
      rcases hlate (by simp [heq]) packet hparse with hok | ⟨error, herr⟩
      · exact .inl hok
      · exact .inr (.inl ⟨error, herr, by simp [Late, heq]⟩)
  | _ =>
    rw [heq] at hphase
    exact nomatch hphase

/-! ## Draining the queue -/

/-- The first queued value is taken. -/
def pop (w : RecordingTransferWorkflow) : RecordingTransferWorkflow :=
  { w with
    pendingPackets := w.pendingPackets.tail
    pendingBytes := w.pendingBytes - (w.pendingPackets.headD []).length }

/-- Turns of the drain loop: the states it passes through and what it requests. -/
inductive Drains : RecordingTransferWorkflow → List Effect → RecordingTransferWorkflow → Prop
  | done {w : RecordingTransferWorkflow} : Drains w [] w
  | turn {w w₁ w' : RecordingTransferWorkflow} {value : List UInt8} {rest : List (List UInt8)}
      {effects effects' : List Effect} :
      w.phase.drains → w.pendingPackets = value :: rest →
      NotificationStep (pop w) value w₁ effects → Drains w₁ effects' w' →
      Drains w (effects ++ effects') w'

/-- The drain loop stopped in the middle of a turn on `value`. -/
structure Stopped (w w' : RecordingTransferWorkflow) (value : List UInt8) : Prop where
  drains : w.phase.drains
  queued : ∃ rest, w.pendingPackets = value :: rest
  popped : w' = pop w

theorem length_takeBatch (sequence : Nat) (payload : List UInt8) (queue : List (List UInt8))
    (pendingBytes : Nat) :
    (takeBatch sequence payload queue pendingBytes).queue.length ≤ queue.length := by
  induction queue generalizing sequence payload pendingBytes with
  | nil => exact Nat.le_refl _
  | cons value rest ih =>
    rw [takeBatch]
    have hrest := fun sequence payload pendingBytes =>
      Nat.le_succ_of_le (ih sequence payload pendingBytes)
    split
    · split
      · exact Nat.le_refl _
      · split
        · exact hrest ..
        · exact hrest ..
    · exact Nat.le_refl _

/-- A turn that leaves the loop running never lengthens the queue. -/
theorem NotificationStep.length_le {w w' : RecordingTransferWorkflow} {value : List UInt8}
    {effects : List Effect} (hstep : NotificationStep w value w' effects) (hdrains : w.phase.drains)
    (hgoes : w'.phase.drains) : w'.pendingPackets.length ≤ w.pendingPackets.length := by
  cases hstep with
  | queued hphase =>
    rcases hphase with hphase | hphase <;> rw [hphase] at hdrains <;> exact nomatch hdrains
  | packet _ _ hpacket =>
    cases hpacket with
    | data _ _ _ hbatch =>
      rw [hbatch]
      exact length_takeBatch ..
    | _ => exact Nat.le_refl _
  | failed _ _ hphase => rw [hphase] at hgoes; exact nomatch hgoes
  | _ => exact Nat.le_refl _

/-- A turn that leaves the loop running keeps the subscription. -/
theorem NotificationStep.subscription {w w' : RecordingTransferWorkflow} {value : List UInt8}
    {effects : List Effect} (hstep : NotificationStep w value w' effects)
    (hphase : w'.phase ≠ .failed) : w'.subscriptionRequestId = w.subscriptionRequestId := by
  cases hstep with
  | packet _ _ hpacket => cases hpacket <;> rfl
  | failed _ _ hfailed => exact absurd hfailed hphase
  | _ => rfl

theorem drain_of_not_drains {call : Call} (h : ¬call.workflow.phase.drains) (turns : Nat) :
    drain turns call = .ok call := by
  cases turns with
  | zero => rfl
  | succ turns => exact if_neg h

/-- With a turn for every queued value, the loop runs until the queue is empty or the phase stops
it, unless it is stopped by a late packet or a crash. -/
theorem drain_cases {turns : Nat} {call : Call} (henough : call.workflow.pendingPackets.length ≤ turns)
    (hsubscribed : call.workflow.phase.drains → call.workflow.subscriptionRequestId.isSome) :
    (∃ call' effects, drain turns call = .ok call' ∧
      Drains call.workflow effects call'.workflow ∧
      call'.requested = call.requested ++ effects ∧
      (call'.workflow.phase.drains → call'.workflow.pendingPackets = [])) ∨
    (∃ effects w₁ w' context error value, drain turns call = .err w' context error ∧
      Drains call.workflow effects w₁ ∧ Stopped w₁ w' value ∧ Late w₁) ∨
    (∃ effects w₁ w' context value, drain turns call = .panic w' context ∧
      Drains call.workflow effects w₁ ∧ Stopped w₁ w' value ∧ Crashes w₁ value) := by
  induction turns generalizing call with
  | zero =>
    refine .inl ⟨call, [], rfl, .done, (List.append_nil _).symm, fun _ => ?_⟩
    exact List.length_eq_zero_iff.mp (Nat.le_zero.mp henough)
  | succ turns ih =>
    rw [drain]
    by_cases hdrains : call.workflow.phase.drains
    · rw [if_pos hdrains]
      cases hqueue : call.workflow.pendingPackets with
      | nil => exact .inl ⟨call, [], rfl, .done, (List.append_nil _).symm, fun _ => hqueue⟩
      | cons value rest =>
        obtain ⟨id, hid⟩ := Option.isSome_iff_exists.mp (hsubscribed hdrains)
        simp only [hid]
        have hpopped : (call.update fun w => { w with
            pendingPackets := rest, pendingBytes := w.pendingBytes - value.length }).workflow =
            pop call.workflow := by
          rw [pop, hqueue]
          rfl
        have hlength : rest.length ≤ turns := by
          rw [hqueue, List.length_cons] at henough
          omega
        have hreceives : (pop call.workflow).phase.receives := by
          rw [pop]
          cases hphase : call.workflow.phase <;> rw [hphase] at hdrains <;>
            first | rfl | exact nomatch hdrains
        rw [← hpopped] at hreceives
        have hrequested : (call.update fun w => { w with
            pendingPackets := rest
            pendingBytes := w.pendingBytes - value.length }).requested = call.requested := rfl
        generalize (call.update fun w => { w with
          pendingPackets := rest, pendingBytes := w.pendingBytes - value.length }) = popped
          at hpopped hreceives hrequested ⊢
        rcases dispatchNotification_cases hreceives value with
          ⟨call₁, effects, hok, hstep, hstepped⟩ | ⟨error, herr, hlate⟩ | ⟨hpanic, hcrash⟩
        · rw [hpopped] at hstep
          rw [hrequested] at hstepped
          simp only [hok]
          by_cases hgoes : call₁.workflow.phase.drains
          · have hshorter := hstep.length_le hdrains hgoes
            rw [pop, hqueue, List.tail_cons] at hshorter
            have hsame := hstep.subscription (by rintro hfailed; rw [hfailed] at hgoes; exact nomatch hgoes)
            have hstill : call₁.workflow.phase.drains →
                call₁.workflow.subscriptionRequestId.isSome := by
              intro _
              rw [hsame]
              exact hsubscribed hdrains
            rcases ih (Nat.le_trans hshorter hlength) hstill with
              ⟨call', effects', hdrain, hturns, hrest, hempty⟩ |
              ⟨effects', w₁, w', context, error, other, hdrain, hturns, hstopped, hlate⟩ |
              ⟨effects', w₁, w', context, other, hdrain, hturns, hstopped, hcrash⟩
            · refine .inl ⟨call', effects ++ effects', hdrain, .turn hdrains hqueue hstep hturns, ?_,
                hempty⟩
              rw [hrest, hstepped, List.append_assoc]
            · exact .inr (.inl ⟨effects ++ effects', w₁, w', context, error, other, hdrain,
                .turn hdrains hqueue hstep hturns, hstopped, hlate⟩)
            · exact .inr (.inr ⟨effects ++ effects', w₁, w', context, other, hdrain,
                .turn hdrains hqueue hstep hturns, hstopped, hcrash⟩)
          · rw [drain_of_not_drains hgoes]
            refine .inl ⟨call₁, effects ++ [], rfl, .turn hdrains hqueue hstep .done, ?_,
              fun h => absurd h hgoes⟩
            rw [hstepped, List.append_nil]
        · rw [hpopped] at hlate
          simp only [herr]
          exact .inr (.inl ⟨[], call.workflow, _, _, error, value, rfl, .done,
            ⟨hdrains, ⟨rest, hqueue⟩, hpopped⟩, hlate⟩)
        · rw [hpopped] at hcrash
          simp only [hpanic]
          exact .inr (.inr ⟨[], call.workflow, _, _, value, rfl, .done,
            ⟨hdrains, ⟨rest, hqueue⟩, hpopped⟩, hcrash⟩)
    · rw [if_neg hdrains]
      exact .inl ⟨call, [], rfl, .done, (List.append_nil _).symm, fun h => absurd h hdrains⟩

end RecordingTransferWorkflow

end BotaSdk
