import BotaSdk.Engine.History
import BotaSdk.Workflow.EncryptedUploadV2

/-!
# What one event can do to an encrypted upload

`Transition` lists every accepted event once, with its guard, the state it leaves and the requests
it issues under their identifiers.
-/

namespace BotaSdk

open EncryptedUploadV2 History

namespace EncryptedUploadV2BatchCoordinator

/-- The event belongs to the coordinator's phase. -/
def Accepts (c : EncryptedUploadV2BatchCoordinator) : EncryptedUploadV2HostEvent → Prop
  | .checkpointLoaded _ => c.phase = .loadingCheckpoint
  | .sinkTruncated => c.phase = .truncating ∨ c.phase = .restartTruncating
  | .sessionPrepared _ => c.phase = .preparing
  | .transferStarted => c.phase = .starting
  | .resumeRejected => c.phase = .starting ∧ c.selectedCheckpoint.isSome
  | .windowStaged _ _ => c.phase = .transferring ∧ ¬c.request.localWifi
  | .checkpointSaved => c.phase = .savingCheckpoint
  | .windowAcknowledged _ => c.phase = .acknowledgingWindow
  | .transferCompleted _ => c.phase = .transferring
  | .artifactsStaged => c.phase = .staging
  | .completionReceiptAccepted _ => c.phase = .waitingForReceipt
  | .recordingConfirmed => c.phase = .confirming
  | .mixedProfile | .failed _ => ¬c.phase.isTerminal

/-- The coordinator rejects an event out of phase and changes nothing. -/
theorem dispatch_of_not_accepts {c : EncryptedUploadV2BatchCoordinator}
    {event : EncryptedUploadV2HostEvent} (h : ¬c.Accepts event) :
    c.dispatch (EncryptedUploadV2Workflow.coordinatorEvent event) =
      (c, .err (unexpected "event does not belong to the active encrypted upload v2 phase")) := by
  cases event with
  | sinkTruncated =>
    rw [Accepts, not_or] at h
    simp only [EncryptedUploadV2Workflow.coordinatorEvent, dispatch, if_neg h.1, if_neg h.2]
  | _ => simp only [EncryptedUploadV2Workflow.coordinatorEvent, dispatch]; exact if_neg h

/-- A created coordinator is ready and holds nothing but its request. -/
theorem new_ok {request : EncryptedUploadV2BatchRequest} {c : EncryptedUploadV2BatchCoordinator}
    (h : new request = .ok c) :
    c = {
      request, phase := .ready, selectedCheckpoint := none, pendingCheckpoint := none
      authorizationSha256 := none, transferEvidence := none } := by
  rw [new] at h
  simp only [bind, Except.bind, pure, Except.pure, throw, throwThe, MonadExceptOf.throw] at h
  repeat' split at h
  all_goals cases h
  rfl

/-- What a phase needs of the other fields, so that the coordinator never panics in it. -/
structure Formed (c : EncryptedUploadV2BatchCoordinator) : Prop where
  running : ¬c.phase.isTerminal
  authorized : c.phase = .starting ∨ c.phase = .restartTruncating → c.authorizationSha256.isSome
  pending : c.phase = .savingCheckpoint → c.pendingCheckpoint.isSome
  proven : c.phase = .staging → c.transferEvidence.isSome

end EncryptedUploadV2BatchCoordinator

namespace EncryptedUploadV2Workflow

/-- The identifier after `n`. -/
def nextId (n : RequestId) : RequestId := saturatingAdd n 1

/-- The events that end an upload with an error. -/
inductive Fails (c : EncryptedUploadV2BatchCoordinator) :
    EncryptedUploadV2HostEvent → DeviceSdkError → Prop
  | failed {error : DeviceSdkError} : Fails c (.failed error) error
  | mixedProfile : Fails c .mixedProfile (protocolFailure "encrypted_upload_v2_mixed_profile")
  | windowStaged {checkpoint : EncryptedUploadV2Checkpoint} {missingSequences : List Nat} :
      c.phase = .transferring → ¬c.request.localWifi →
      ¬c.checkpointIsUsable checkpoint ∨ ¬c.checkpointIsMonotonic checkpoint ∨
        c.request.capabilities.maximumMissingSequences < missingSequences.length ∨
        ¬strictlyIncreasing missingSequences →
      Fails c (.windowStaged checkpoint missingSequences)
        EncryptedUploadV2BatchCoordinator.checkpointMismatch
  | windowAcknowledged {checkpoint : EncryptedUploadV2Checkpoint} :
      c.phase = .acknowledgingWindow → c.pendingCheckpoint ≠ some checkpoint →
      Fails c (.windowAcknowledged checkpoint) EncryptedUploadV2BatchCoordinator.checkpointMismatch
  | transferCompleted {evidence : EncryptedUploadV2TransferEvidence} :
      c.phase = .transferring →
      evidence.ciphertextLength ≠ c.request.ciphertextLength ∨
        evidence.ciphertextSha256 ≠ c.request.ciphertextSha256 ∨
        evidence.manifestLength ≠ Protocol.UPLOAD_MANIFEST_V2_FIXED_LENGTH ∨
        evidence.blockCount = 0 →
      Fails c (.transferCompleted evidence) EncryptedUploadV2BatchCoordinator.evidenceMismatch

/-- Every accepted event, answering request `id`.  `n` is the identifier of the next request. -/
inductive Transition (w : EncryptedUploadV2Workflow) (n id : RequestId) :
    EncryptedUploadV2HostEvent → EncryptedUploadV2Workflow → List (RequestId × Effect) → Prop
  | checkpointKept {checkpoint : Option EncryptedUploadV2Checkpoint} :
      w.coordinator.phase = .loadingCheckpoint →
      checkpoint.filter w.coordinator.checkpointIsUsable = checkpoint →
      Transition w n id (.checkpointLoaded checkpoint)
        { w with
          coordinator := { w.coordinator with
            selectedCheckpoint := checkpoint, phase := .truncating }
          expectedRequestId := some n }
        [(n, .encryptedUploadV2 (.truncateSink w.coordinator.request.sinkId
          (checkpoint.elim 0 (·.nextCiphertextOffset))))]
  | checkpointDropped {checkpoint : EncryptedUploadV2Checkpoint} :
      w.coordinator.phase = .loadingCheckpoint →
      ¬w.coordinator.checkpointIsUsable checkpoint →
      Transition w n id (.checkpointLoaded (some checkpoint))
        { w with
          coordinator := { w.coordinator with selectedCheckpoint := none, phase := .truncating }
          expectedRequestId := some (nextId n) }
        [(n, .encryptedUploadV2 (.deleteCheckpoint w.coordinator.request.uploadSessionUuid)),
          (nextId n, .encryptedUploadV2 (.truncateSink w.coordinator.request.sinkId 0))]
  | sinkTruncated :
      w.coordinator.phase = .truncating →
      Transition w n id .sinkTruncated
        { w with
          coordinator := { w.coordinator with phase := .preparing }, expectedRequestId := some n }
        [(n, .encryptedUploadV2 (.prepareSession w.coordinator.request.materialId))]
  | sinkRestarted {authorizationSha256 : FixedBytes 32} :
      w.coordinator.phase = .restartTruncating →
      w.coordinator.authorizationSha256 = some authorizationSha256 →
      Transition w n id .sinkTruncated
        { w with
          coordinator := { w.coordinator with phase := .starting }
          expectedRequestId := some n, transferRequestId := some n }
        [(n, .encryptedUploadV2 (.startTransfer w.coordinator.request none authorizationSha256))]
  | sessionPrepared {authorizationSha256 : FixedBytes 32} :
      w.coordinator.phase = .preparing →
      Transition w n id (.sessionPrepared authorizationSha256)
        { w with
          coordinator := { w.coordinator with
            authorizationSha256 := some authorizationSha256, phase := .starting }
          expectedRequestId := some n, transferRequestId := some n }
        [(n, .encryptedUploadV2 (.startTransfer w.coordinator.request
          w.coordinator.selectedCheckpoint authorizationSha256))]
  | transferStarted :
      w.coordinator.phase = .starting →
      Transition w n id .transferStarted
        { w with
          coordinator := { w.coordinator with phase := .transferring }
          expectedRequestId := some id, transferRequestId := some id }
        []
  | resumeRejected :
      w.coordinator.phase = .starting → w.coordinator.selectedCheckpoint.isSome →
      Transition w n id .resumeRejected
        { w with
          coordinator := { w.coordinator with
            selectedCheckpoint := none, pendingCheckpoint := none, phase := .restartTruncating }
          expectedRequestId := some (nextId n), transferRequestId := none }
        [(n, .encryptedUploadV2 (.deleteCheckpoint w.coordinator.request.uploadSessionUuid)),
          (nextId n, .encryptedUploadV2 (.truncateSink w.coordinator.request.sinkId 0))]
  | windowIncomplete {checkpoint : EncryptedUploadV2Checkpoint} {missingSequences : List Nat} :
      w.coordinator.phase = .transferring → missingSequences ≠ [] →
      Transition w n id (.windowStaged checkpoint missingSequences)
        { w with expectedRequestId := some n }
        [(n, .encryptedUploadV2 (.repairWindow missingSequences))]
  | windowStaged {checkpoint : EncryptedUploadV2Checkpoint} :
      w.coordinator.phase = .transferring → w.coordinator.checkpointIsUsable checkpoint →
      w.coordinator.checkpointIsMonotonic checkpoint →
      Transition w n id (.windowStaged checkpoint [])
        { w with
          coordinator := { w.coordinator with
            pendingCheckpoint := some checkpoint, phase := .savingCheckpoint }
          expectedRequestId := some n }
        [(n, .encryptedUploadV2 (.saveCheckpoint checkpoint))]
  | checkpointSaved {checkpoint : EncryptedUploadV2Checkpoint} :
      w.coordinator.phase = .savingCheckpoint →
      w.coordinator.pendingCheckpoint = some checkpoint →
      Transition w n id .checkpointSaved
        { w with
          coordinator := { w.coordinator with phase := .acknowledgingWindow }
          expectedRequestId := some n }
        [(n, .encryptedUploadV2 (.acknowledgeWindow checkpoint))]
  | windowAcknowledged {checkpoint : EncryptedUploadV2Checkpoint} :
      w.coordinator.phase = .acknowledgingWindow →
      w.coordinator.pendingCheckpoint = some checkpoint →
      Transition w n id (.windowAcknowledged checkpoint)
        { w with
          coordinator := { w.coordinator with
            selectedCheckpoint := some checkpoint, pendingCheckpoint := none
            phase := .transferring }
          expectedRequestId := w.transferRequestId }
        [(n, .progress {
          completedUnits := checkpoint.nextCiphertextOffset
          totalUnits := w.coordinator.request.ciphertextLength })]
  | transferCompleted {evidence : EncryptedUploadV2TransferEvidence} :
      w.coordinator.phase = .transferring →
      evidence.ciphertextLength = w.coordinator.request.ciphertextLength →
      evidence.ciphertextSha256 = w.coordinator.request.ciphertextSha256 →
      evidence.manifestLength = Protocol.UPLOAD_MANIFEST_V2_FIXED_LENGTH →
      evidence.blockCount ≠ 0 →
      Transition w n id (.transferCompleted evidence)
        { w with
          coordinator := { w.coordinator with
            transferEvidence := some evidence, phase := .staging }
          expectedRequestId := some n, transferRequestId := none }
        [(n, .encryptedUploadV2 (.stageArtifacts w.coordinator.request.sinkId
          w.coordinator.request.materialId evidence))]
  | artifactsStaged {evidence : EncryptedUploadV2TransferEvidence} :
      w.coordinator.phase = .staging → w.coordinator.transferEvidence = some evidence →
      Transition w n id .artifactsStaged
        { w with
          coordinator := { w.coordinator with phase := .waitingForReceipt }
          expectedRequestId := some (nextId n) }
        [(n, .notify (.encryptedUploadV2Staged w.coordinator.request.uploadSessionUuid
            w.coordinator.request.ownerRevision evidence.ciphertextLength
            evidence.ciphertextSha256 evidence.manifestLength evidence.manifestSha256)),
          (nextId n, .encryptedUploadV2 (.awaitCompletionReceipt
            w.coordinator.request.materialId evidence))]
  | completionReceiptAccepted {receiptSha256 : FixedBytes 32} :
      w.coordinator.phase = .waitingForReceipt →
      Transition w n id (.completionReceiptAccepted receiptSha256)
        { w with
          coordinator := { w.coordinator with phase := .confirming }, expectedRequestId := some n }
        [(n, .encryptedUploadV2 (.confirmWithReceipt w.coordinator.request.materialId
          receiptSha256))]
  | recordingConfirmed :
      w.coordinator.phase = .confirming →
      Transition w n id .recordingConfirmed
        { w with
          coordinator := { w.coordinator with phase := .completed }, expectedRequestId := none }
        [(n, .encryptedUploadV2 (.deleteCheckpoint w.coordinator.request.uploadSessionUuid)),
          (nextId n, .notify (.completed .transferRecording))]
  -- the workflow has ended, so the identifiers it is left with no longer matter
  | failed {event : EncryptedUploadV2HostEvent} {error : DeviceSdkError}
      {expected transfer : Option RequestId} :
      ¬w.coordinator.phase.isTerminal → Fails w.coordinator event error →
      Transition w n id event
        { w with
          coordinator := { w.coordinator with phase := .failed }
          expectedRequestId := expected, transferRequestId := transfer
          terminalError := some error }
        [(n, .encryptedUploadV2 (.abortV2 w.coordinator.request.materialId)),
          (nextId n, .notify (.failed error))]

/-- The state `w'` waits for at most what `w` waits for, in the same phase. -/
structure Weakens (w w' : EncryptedUploadV2Workflow) : Prop where
  coordinator : w'.coordinator = w.coordinator
  cancellationId : w'.cancellationId = w.cancellationId
  expected : ∀ id, w'.expectedRequestId = some id → w.expectedRequestId = some id
  transfer : ∀ id, w'.transferRequestId = some id → w.transferRequestId = some id

theorem Weakens.refl (w : EncryptedUploadV2Workflow) : Weakens w w :=
  ⟨rfl, rfl, fun _ h => h, fun _ h => h⟩

theorem weakens_release (event : EncryptedUploadV2HostEvent) (w : EncryptedUploadV2Workflow) :
    Weakens w (release event w) := by
  refine ⟨rfl, rfl, fun id h => ?_, fun id h => ?_⟩
  · rw [release] at h
    split at h
    · exact h
    · exact nomatch h
  · simp only [release] at h
    split at h
    · exact nomatch h
    · exact h

theorem dispatch_of_ok {w : EncryptedUploadV2Workflow} {id : RequestId}
    {event : EncryptedUploadV2HostEvent} {context : WorkflowContext}
    {coordinator : EncryptedUploadV2BatchCoordinator} {actions : List Action} {call : Call}
    (hid : w.expectedRequestId = some id)
    (hcoordinator : w.coordinator.dispatch (coordinatorEvent event) = (coordinator, .ok actions))
    (htranslate : translate actions (Step.begin { release event w with coordinator } context) =
      .ok call) :
    dispatch w ⟨id, .encryptedUploadV2 event⟩ context = .ok (call.update (reopen event id)) := by
  rw [dispatch, if_neg (not_not_intro hid.symm)]
  simp only [hcoordinator, htranslate]

theorem dispatch_of_err {w : EncryptedUploadV2Workflow} {id : RequestId}
    {event : EncryptedUploadV2HostEvent} (context : WorkflowContext)
    (hid : w.expectedRequestId = some id) (h : ¬w.coordinator.Accepts event) :
    dispatch w ⟨id, .encryptedUploadV2 event⟩ context =
      .err (release event w) context
        (unexpected "event does not belong to the active encrypted upload v2 phase") := by
  rw [dispatch, if_neg (not_not_intro hid.symm)]
  simp only [EncryptedUploadV2BatchCoordinator.dispatch_of_not_accepts h]
  rfl

/-- A failing event ends the upload, whatever it is. -/
theorem transition_of_fails {w : EncryptedUploadV2Workflow} {id : RequestId}
    {event : EncryptedUploadV2HostEvent} {error : DeviceSdkError} (context : WorkflowContext)
    (hid : w.expectedRequestId = some id) (hrunning : ¬w.coordinator.phase.isTerminal)
    (hfails : Fails w.coordinator event error) :
    ∃ call, dispatch w ⟨id, .encryptedUploadV2 event⟩ context = .ok call ∧
      Transition w context.nextRequestId id event call.workflow (issues call.effects) := by
  have hcoordinator : w.coordinator.dispatch (coordinatorEvent event) = w.coordinator.fail error := by
    cases hfails with
    | failed => exact if_pos hrunning
    | mixedProfile => exact if_pos hrunning
    | windowStaged hphase hwifi hbad => exact (if_pos ⟨hphase, hwifi⟩).trans (if_pos hbad)
    | windowAcknowledged hphase hpending => exact (if_pos hphase).trans (if_pos hpending)
    | transferCompleted hphase hbad => exact (if_pos hphase).trans (if_pos hbad)
  refine ⟨_, dispatch_of_ok hid hcoordinator rfl, ?_⟩
  cases hfails with
  | windowAcknowledged hphase hpending =>
    exact .failed hrunning (.windowAcknowledged hphase hpending)
  | failed => exact .failed hrunning .failed
  | mixedProfile => exact .failed hrunning .mixedProfile
  | windowStaged hphase hwifi hbad => exact .failed hrunning (.windowStaged hphase hwifi hbad)
  | transferCompleted hphase hbad => exact .failed hrunning (.transferCompleted hphase hbad)

/-- Awaiting the receipt needs the evidence of the transfer. -/
theorem translate_await {call : Call} {evidence : EncryptedUploadV2TransferEvidence}
    (h : call.workflow.coordinator.transferEvidence = some evidence) :
    translate [.reportStaged evidence, .awaitCompletionReceipt] call =
      let staged : Effect := .notify (.encryptedUploadV2Staged
        call.workflow.coordinator.request.uploadSessionUuid
        call.workflow.coordinator.request.ownerRevision evidence.ciphertextLength
        evidence.ciphertextSha256 evidence.manifestLength evidence.manifestSha256)
      let await : Effect := .encryptedUploadV2 (.awaitCompletionReceipt
        call.workflow.coordinator.request.materialId evidence)
      .ok ((call.request staged (track staged)).request await (track await)) := by
  obtain ⟨⟨⟨request, phase, selected, pending, authorization, transferEvidence⟩, _, _, _, _⟩, _, _⟩ :=
    call
  change transferEvidence = some evidence at h
  subst h
  rfl

/-- An event of the coordinator's phase that answers the awaited request is a transition. -/
theorem transition_of_accepts {w : EncryptedUploadV2Workflow} {id : RequestId}
    {event : EncryptedUploadV2HostEvent} (context : WorkflowContext)
    (hformed : w.coordinator.Formed) (hid : w.expectedRequestId = some id)
    (haccepts : w.coordinator.Accepts event) :
    ∃ call, dispatch w ⟨id, .encryptedUploadV2 event⟩ context = .ok call ∧
      Transition w context.nextRequestId id event call.workflow (issues call.effects) := by
  have hfail : ∀ error, Fails w.coordinator event error → ∃ call,
      dispatch w ⟨id, .encryptedUploadV2 event⟩ context = .ok call ∧
        Transition w context.nextRequestId id event call.workflow (issues call.effects) :=
    fun _ => transition_of_fails context hid hformed.running
  cases event with
  | checkpointLoaded checkpoint =>
    have hphase : w.coordinator.phase = .loadingCheckpoint := haccepts
    cases checkpoint with
    | none =>
      exact ⟨_, dispatch_of_ok hid (if_pos hphase) rfl, .checkpointKept hphase rfl⟩
    | some checkpoint =>
      by_cases husable : w.coordinator.checkpointIsUsable checkpoint
      · have hfilter : (some checkpoint).filter w.coordinator.checkpointIsUsable =
            some checkpoint := Option.filter_some_pos husable
        have hcoordinator : w.coordinator.dispatch (.checkpointLoaded (some checkpoint)) =
            ({ w.coordinator with selectedCheckpoint := some checkpoint, phase := .truncating },
              .ok [.truncateSink checkpoint.nextCiphertextOffset]) := by
          simp [EncryptedUploadV2BatchCoordinator.dispatch, hphase, husable, Option.filter]
        exact ⟨_, dispatch_of_ok hid hcoordinator rfl, .checkpointKept hphase hfilter⟩
      · have hcoordinator : w.coordinator.dispatch (.checkpointLoaded (some checkpoint)) =
            ({ w.coordinator with selectedCheckpoint := none, phase := .truncating },
              .ok [.deleteCheckpoint, .truncateSink 0]) := by
          simp [EncryptedUploadV2BatchCoordinator.dispatch, hphase, husable, Option.filter]
        exact ⟨_, dispatch_of_ok hid hcoordinator rfl, .checkpointDropped hphase husable⟩
  | sinkTruncated =>
    rcases haccepts with hphase | hphase
    · exact ⟨_, dispatch_of_ok hid (if_pos hphase) rfl, .sinkTruncated hphase⟩
    · obtain ⟨authorization, hauthorization⟩ :=
        Option.isSome_iff_exists.mp (hformed.authorized (.inr hphase))
      have hcoordinator : w.coordinator.dispatch .sinkTruncated =
          ({ w.coordinator with phase := .starting }, .ok [.startTransfer none authorization]) := by
        simp only [EncryptedUploadV2BatchCoordinator.dispatch, hphase, hauthorization]
        rfl
      exact ⟨_, dispatch_of_ok hid hcoordinator rfl, .sinkRestarted hphase hauthorization⟩
  | sessionPrepared authorizationSha256 =>
    exact ⟨_, dispatch_of_ok hid (if_pos haccepts) rfl, .sessionPrepared haccepts⟩
  | transferStarted =>
    exact ⟨_, dispatch_of_ok hid (if_pos haccepts) rfl, .transferStarted haccepts⟩
  | resumeRejected =>
    exact ⟨_, dispatch_of_ok hid (if_pos haccepts) rfl, .resumeRejected haccepts.1 haccepts.2⟩
  | windowStaged checkpoint missingSequences =>
    by_cases hbad : ¬w.coordinator.checkpointIsUsable checkpoint ∨
        ¬w.coordinator.checkpointIsMonotonic checkpoint ∨
        w.coordinator.request.capabilities.maximumMissingSequences < missingSequences.length ∨
        ¬strictlyIncreasing missingSequences
    · exact hfail _ (.windowStaged haccepts.1 haccepts.2 hbad)
    · by_cases hmissing : missingSequences = []
      · subst hmissing
        refine ⟨_, dispatch_of_ok hid
          (((if_pos haccepts).trans (if_neg hbad)).trans (if_neg (not_not_intro rfl))) rfl, ?_⟩
        push Not at hbad
        exact .windowStaged haccepts.1 hbad.1 hbad.2.1
      · exact ⟨_, dispatch_of_ok hid
          (((if_pos haccepts).trans (if_neg hbad)).trans (if_pos hmissing)) rfl,
          .windowIncomplete haccepts.1 hmissing⟩
  | checkpointSaved =>
    obtain ⟨checkpoint, hpending⟩ := Option.isSome_iff_exists.mp (hformed.pending haccepts)
    have hcoordinator : w.coordinator.dispatch .checkpointSaved =
        ({ w.coordinator with phase := .acknowledgingWindow },
          .ok [.acknowledgeWindow checkpoint]) := by
      refine (if_pos haccepts).trans ?_
      simp only [hpending]
    exact ⟨_, dispatch_of_ok hid hcoordinator rfl, .checkpointSaved haccepts hpending⟩
  | windowAcknowledged checkpoint =>
    by_cases hpending : w.coordinator.pendingCheckpoint = some checkpoint
    · exact ⟨_, dispatch_of_ok hid ((if_pos haccepts).trans (if_neg (not_not_intro hpending))) rfl,
        .windowAcknowledged haccepts hpending⟩
    · exact hfail _ (.windowAcknowledged haccepts hpending)
  | transferCompleted evidence =>
    by_cases hbad : evidence.ciphertextLength ≠ w.coordinator.request.ciphertextLength ∨
        evidence.ciphertextSha256 ≠ w.coordinator.request.ciphertextSha256 ∨
        evidence.manifestLength ≠ Protocol.UPLOAD_MANIFEST_V2_FIXED_LENGTH ∨
        evidence.blockCount = 0
    · exact hfail _ (.transferCompleted haccepts hbad)
    · refine ⟨_, dispatch_of_ok hid ((if_pos haccepts).trans (if_neg hbad)) rfl, ?_⟩
      push Not at hbad
      exact .transferCompleted haccepts hbad.1 hbad.2.1 hbad.2.2.1 hbad.2.2.2
  | artifactsStaged =>
    obtain ⟨evidence, hevidence⟩ := Option.isSome_iff_exists.mp (hformed.proven haccepts)
    have hcoordinator : w.coordinator.dispatch .artifactsStaged =
        ({ w.coordinator with phase := .waitingForReceipt },
          .ok [.reportStaged evidence, .awaitCompletionReceipt]) := by
      refine (if_pos haccepts).trans ?_
      simp only [hevidence]
    exact ⟨_, dispatch_of_ok hid hcoordinator (translate_await hevidence),
      .artifactsStaged haccepts hevidence⟩
  | completionReceiptAccepted receiptSha256 =>
    exact ⟨_, dispatch_of_ok hid (if_pos haccepts) rfl, .completionReceiptAccepted haccepts⟩
  | recordingConfirmed =>
    exact ⟨_, dispatch_of_ok hid (if_pos haccepts) rfl, .recordingConfirmed haccepts⟩
  | mixedProfile => exact hfail _ .mixedProfile
  | failed error => exact hfail _ .failed

/-- Every event is a transition or a rejection, and only a rejected answer is forgotten. -/
theorem dispatch_cases {w : EncryptedUploadV2Workflow} (hformed : w.coordinator.Formed)
    (event : HostEvent) (context : WorkflowContext) :
    (∃ id hostEvent call, event = ⟨id, .encryptedUploadV2 hostEvent⟩ ∧
      w.expectedRequestId = some id ∧ dispatch w event context = .ok call ∧
      Transition w context.nextRequestId id hostEvent call.workflow (issues call.effects)) ∨
    (∃ w' error, dispatch w event context = .err w' context error ∧ Weakens w w') := by
  obtain ⟨id, kind⟩ := event
  by_cases hid : w.expectedRequestId = some id
  · cases kind with
    | encryptedUploadV2 hostEvent =>
      by_cases haccepts : w.coordinator.Accepts hostEvent
      · obtain ⟨call, hcall, hstep⟩ := transition_of_accepts context hformed hid haccepts
        exact .inl ⟨id, hostEvent, call, rfl, hid, hcall, hstep⟩
      · exact .inr ⟨_, _, dispatch_of_err context hid haccepts, weakens_release ..⟩
    | _ =>
      refine .inr ⟨w, unexpected "encrypted upload v2 workflow received another host event kind",
        ?_, .refl w⟩
      rw [dispatch, if_neg (not_not_intro hid.symm)]
  · refine .inr ⟨w, unexpected "encrypted upload v2 callback does not own the pending request",
      ?_, .refl w⟩
    rw [dispatch, if_pos (Ne.symm hid)]

theorem cancel_of_ok {w : EncryptedUploadV2Workflow} {context : WorkflowContext}
    {coordinator : EncryptedUploadV2BatchCoordinator} {actions : List Action} {call : Call}
    (hcoordinator : w.coordinator.dispatch .cancelled = (coordinator, .ok actions))
    (htranslate : translate actions (Step.begin
      { w with coordinator, expectedRequestId := none, transferRequestId := none } context) =
        .ok call) :
    cancel w context = .ok call := by
  rw [cancel]
  simp only [hcoordinator, htranslate]

/-- Cancelling a running upload aborts it and keeps the recording. -/
theorem cancel_running {w : EncryptedUploadV2Workflow} (hrunning : ¬w.coordinator.phase.isTerminal)
    (context : WorkflowContext) :
    ∃ call : Call, cancel w context = .ok call ∧
      issues call.effects =
        [(context.nextRequestId,
            .encryptedUploadV2 (.abortV2 w.coordinator.request.materialId)),
          (nextId context.nextRequestId, .notify (.cancelled .transferRecording))] := by
  have hcoordinator : w.coordinator.dispatch .cancelled =
      ({ w.coordinator with phase := .cancelled }, .ok [.abortV2, .retainRecording, .cancelled]) :=
    if_pos hrunning
  exact ⟨_, cancel_of_ok hcoordinator rfl, rfl⟩

theorem terminalStatus_of_running {w : EncryptedUploadV2Workflow}
    (h : ¬w.coordinator.phase.isTerminal) : terminalStatus w = .ok none := by
  rw [terminalStatus, EncryptedUploadV2BatchCoordinator.status]
  cases hphase : w.coordinator.phase <;> simp_all [Phase.isTerminal]

/-- A transition into a terminal phase has the status to report. -/
theorem Transition.terminal {w w' : EncryptedUploadV2Workflow} {n id : RequestId}
    {event : EncryptedUploadV2HostEvent} {effects : List (RequestId × Effect)}
    (h : Transition w n id event w' effects) (hrunning : ¬w.coordinator.phase.isTerminal)
    (hend : w'.coordinator.phase.isTerminal) :
    ∃ status, terminalStatus w' = .ok (some status) := by
  cases h with
  | recordingConfirmed => exact ⟨_, rfl⟩
  | failed => exact ⟨_, rfl⟩
  | windowIncomplete => exact absurd hend hrunning
  | _ => exact absurd hend Bool.false_ne_true

/-! ## Runs -/

/-- The engine just started on an encrypted upload of `request`. -/
def Started (request : EncryptedUploadV2BatchRequest)
    (engine₀ : WorkflowEngine EncryptedUploadV2Workflow) : Prop :=
  ∃ (engine : WorkflowEngine EncryptedUploadV2Workflow) (capabilities : List Capability)
    (id : CancellationId) (effects : List EffectRequest),
    engine.start (TransferEncryptedRecording.mk request) capabilities id = (engine₀, .ok effects)

/-- What a freshly started upload looks like. -/
structure Fresh (request : EncryptedUploadV2BatchRequest) (w : EncryptedUploadV2Workflow) : Prop where
  request_eq : w.coordinator.request = request
  phase_eq : w.coordinator.phase = .loadingCheckpoint ∨ w.coordinator.phase = .preparing
  selected_eq : w.coordinator.selectedCheckpoint = none
  transfer_eq : w.transferRequestId = none

theorem Started.active {request : EncryptedUploadV2BatchRequest}
    {engine₀ : WorkflowEngine EncryptedUploadV2Workflow} (h : Started request engine₀) :
    ∃ w, engine₀.active = some w ∧ Fresh request w := by
  obtain ⟨engine, capabilities, id, effects, h⟩ := h
  obtain ⟨workflow, hcreate, reduction, rfl, hact, -, -⟩ := start_ok h
  refine ⟨_, hact, ?_⟩
  replace hcreate : EncryptedUploadV2Workflow.new request id = .ok workflow := hcreate
  rw [EncryptedUploadV2Workflow.new] at hcreate
  cases hnew : EncryptedUploadV2BatchCoordinator.new request with
  | error error =>
    rw [hnew] at hcreate
    exact nomatch hcreate
  | ok coordinator =>
    rw [hnew] at hcreate
    obtain rfl := Except.ok.inj hcreate
    obtain rfl := EncryptedUploadV2BatchCoordinator.new_ok hnew
    change Fresh request (start _ _).workflow
    cases hwifi : request.localWifi with
    | true =>
      simp only [start, EncryptedUploadV2BatchCoordinator.start, hwifi]
      exact ⟨rfl, .inr rfl, rfl, rfl⟩
    | false =>
      simp only [start, EncryptedUploadV2BatchCoordinator.start, hwifi]
      exact ⟨rfl, .inl rfl, rfl, rfl⟩

def sampleRequest : EncryptedUploadV2BatchRequest where
  localWifi := false
  device := ⟨"EVFXXW67KP"⟩
  recording := ⟨.replicate 16 1⟩
  recordingGeneration := 1
  storageFormat := Protocol.STORAGE_FORMAT_BOTA_ENC_V2
  uploadSessionUuid := .replicate 16 2
  ownerRevision := 1
  transportSessionId := 7
  materialId := ⟨"material-1"⟩
  sinkId := ⟨"sink-1"⟩
  selection := { policy := .v2Required, profile := .encryptedUploadV2 }
  capabilities := {
    flags := 127
    maximumSignedBlobBytes := 1024
    maximumManifestBytes := 1024
    maximumDataPayloadBytes := 200
    maximumWindowPackets := 64
    durableCheckpointIntervalBlocks := 1
    maximumMissingSequences := 16 }
  windowPackets := 32
  dataPayloadBytes := 200
  ciphertextLength := 400
  ciphertextSha256 := .replicate 32 3

/-- A fresh engine started on one upload; it awaits its checkpoint under request 2. -/
def sampleEngine : WorkflowEngine EncryptedUploadV2Workflow :=
  (WorkflowEngine.start {} (TransferEncryptedRecording.mk sampleRequest)
    [.ble, .persistence, .progress, .hostMaterial, .recordingSink, .networkTransfer]
    ⟨.replicate 16 9⟩).1

theorem started_sampleEngine : Started sampleRequest sampleEngine :=
  ⟨{}, [.ble, .persistence, .progress, .hostMaterial, .recordingSink, .networkTransfer],
    ⟨.replicate 16 9⟩, _, rfl⟩

section RunRule

variable {ok : List (EngineEntry EncryptedUploadV2Workflow) →
    WorkflowEngine EncryptedUploadV2Workflow → Event → Prop}
  {I : List (EngineEntry EncryptedUploadV2Workflow) → EncryptedUploadV2Workflow → Prop}
  {J : List (EngineEntry EncryptedUploadV2Workflow) → Prop}
  {engine₀ engine : WorkflowEngine EncryptedUploadV2Workflow}
  {trace : List (EngineEntry EncryptedUploadV2Workflow)}

/-- The invariant rule for runs of an encrypted upload, one case per kind of step. -/
theorem run_rule (init : Settled I J [] engine₀)
    (formed : ∀ trace w, I trace w → w.coordinator.Formed)
    (transition : ∀ trace w event (entry : EngineEntry EncryptedUploadV2Workflow) id w',
      I trace w → entry.pre.active = some w →
      entry.input = .host ⟨id, .encryptedUploadV2 event⟩ → w.expectedRequestId = some id →
      (∃ effects, entry.output = .ok effects) →
      Transition w entry.pre.nextRequestId id event w' (issues entry.output.effects) →
      if w'.coordinator.phase.isTerminal then J (trace ++ [entry]) else I (trace ++ [entry]) w')
    (rejected : ∀ trace w (entry : EngineEntry EncryptedUploadV2Workflow) w' event error,
      I trace w → entry.pre.active = some w → entry.input = .host event →
      entry.output = .err error → Weakens w w' → I (trace ++ [entry]) w')
    (cancelled : ∀ trace w (entry : EngineEntry EncryptedUploadV2Workflow) n, I trace w →
      issues entry.output.effects =
        [(n, .encryptedUploadV2 (.abortV2 w.coordinator.request.materialId)),
          (nextId n, .notify (.cancelled .transferRecording))] →
      J (trace ++ [entry]))
    (foreign : ∀ trace w (entry : EngineEntry EncryptedUploadV2Workflow) id, I trace w →
      entry.pre.active = some w → entry.input = .cancelled id → w.cancellationId ≠ id →
      entry.output.effects = [] → I (trace ++ [entry]) w)
    (ended : ∀ trace (entry : EngineEntry EncryptedUploadV2Workflow), J trace →
      entry.output.effects = [] → J (trace ++ [entry]))
    (h : EngineRun ok engine₀ trace engine) : Settled I J trace engine := by
  refine EngineRun.rule init ?_ ?_ ?_ ?_ h
  · intro trace engine w event _ hact hinv _
    have hformed := formed trace w hinv
    rcases dispatch_cases hformed event (engine.context w) with
      ⟨id, hostEvent, call, rfl, hid, hcall, hstep⟩ | ⟨w', error, hreject, hweakens⟩
    · have hred : WorkflowReducer.dispatch w ⟨id, .encryptedUploadV2 hostEvent⟩
          (engine.context w) = .ok call := hcall
      by_cases hend : call.workflow.coordinator.phase.isTerminal
      · obtain ⟨status, hstatus⟩ := hstep.terminal hformed.running hend
        rw [dispatch_active hact, hred, settle_ended rfl hstatus, settled_ended rfl]
        have hkeep := transition trace w hostEvent
          ⟨engine, .host ⟨id, .encryptedUploadV2 hostEvent⟩, .ok call.effects⟩ id call.workflow hinv
          hact rfl hid ⟨_, rfl⟩ hstep
        rwa [if_pos hend] at hkeep
      · rw [dispatch_active hact, hred, settle_running rfl (terminalStatus_of_running hend),
          settled_active rfl]
        have hkeep := transition trace w hostEvent
          ⟨engine, .host ⟨id, .encryptedUploadV2 hostEvent⟩, .ok call.effects⟩ id call.workflow hinv
          hact rfl hid ⟨_, rfl⟩ hstep
        rwa [if_neg hend] at hkeep
    · have hred : WorkflowReducer.dispatch w event (engine.context w) = _ := hreject
      rw [dispatch_active hact, hred, settle_err rfl, settled_active rfl]
      exact rejected trace w _ w' event error hinv hact rfl rfl hweakens
  · intro trace engine w _ hact hinv _
    obtain ⟨call, hcall, hissues⟩ := cancel_running (formed trace w hinv).running (engine.context w)
    have hred : WorkflowReducer.cancel w (engine.context w) = .ok call := hcall
    have hout : (WorkflowReducer.cancel w (engine.context w)).outcome = .ok call.effects := by
      rw [hred]
      rfl
    rw [cancel_active hact hout, settled_ended rfl]
    exact cancelled trace w _ _ hinv hissues
  · rintro trace entry w hact ⟨id, hinput, hid⟩ - hquiet hinv
    exact foreign trace w entry id hinv hact hinput hid hquiet
  · intro trace entry _ _ hquiet hinv
    exact ended trace entry hinv hquiet

end RunRule

end EncryptedUploadV2Workflow

end BotaSdk
