import BotaSdk.Workflow.FirmwareSignals

/-!
# What a completed update rests on

The device is only reconnected once it has accepted the whole image, in this run or in that of the
checkpoint which the update resumes.  The update only completes once the reconnected device, known by
its serial number, has answered with the version of the image.
-/

namespace BotaSdk

open History Protocol Connection FirmwareUpdate

namespace FirmwareUpdateWorkflow

/-! ## The evidence -/

/-- The device answered the VERIFY of the whole image with success. -/
def Verified (size : Nat) (observations : List Observation) : Prop :=
  ∃ before id value after,
    observations = before ++ .accepted ⟨id, statusNotification value⟩ :: after ∧
      Verifies value ∧ .issued id subscribeEffect ∈ before ∧ Asked size before

/-- The checkpoint is one of this update. -/
def Matches (command : FirmwareUpdateCommand) (checkpoint : WorkflowCheckpoint) : Prop :=
  checkpoint.workflow = .firmwareUpdate ∧ checkpoint.operation = .updateFirmware ∧
    checkpoint.device = command.device ∧ checkpoint.firmwareVersion = some command.image.version

/-- The update resumed a checkpoint of its own that was already reconnecting. -/
def Resumed (command : FirmwareUpdateCommand) (observations : List Observation) : Prop :=
  ∃ before id checkpoint after,
    observations = before ++ .accepted ⟨id, .checkpointLoaded (some checkpoint)⟩ :: after ∧
      .issued id (.persistence .loadCheckpoint) ∈ before ∧ Matches command checkpoint ∧
      checkpoint.phase = .reconnecting

def versionEffect : Effect :=
  .ble (.read SERVICE_DEVICE_INFO CHAR_FIRMWARE_REVISION)

/-- The version is asked as request `id` of the connection that answered with this serial number. -/
def VersionAsked (device : DeviceSerialNumber) (id : RequestId) : List Observation → Prop :=
  After ConnectionWorkflow.Breaks
    (fun before => ∃ peripheralId, ConnectionWorkflow.SerialRead peripheralId device before)
    (.issued id versionEffect)

/-- That connection answered with the version of the image. -/
def VersionRead (command : FirmwareUpdateCommand) (observations : List Observation) : Prop :=
  ∃ id value, versionText value = command.image.version ∧
    After ConnectionWorkflow.Breaks (VersionAsked command.device id)
      (.accepted ⟨id, .ble (.readCompleted value)⟩) observations

/-- Completion is only reported once it did. -/
def Completes (command : FirmwareUpdateCommand) (observations : List Observation)
    (effect : Effect) : Prop :=
  effect = .notify (.completed .updateFirmware) → VersionRead command observations

/-- What each phase holds of it. -/
def Evidence (command : FirmwareUpdateCommand) (observations : List Observation)
    (w : FirmwareUpdateWorkflow) : Prop :=
  match w.phase with
  | .loadingCheckpoint => ∀ id, w.loadRequestId = some id →
      .issued id (.persistence .loadCheckpoint) ∈ observations
  | .verifying => w.verifyResult = some 0 → Verified command.image.sizeBytes.toNat observations
  | .awaitingReboot => Verified command.image.sizeBytes.toNat observations
  | .reconnecting | .waitingReconnectRetry =>
    Verified command.image.sizeBytes.toNat observations ∨ Resumed command observations
  | .readingVersion => ∀ id, w.writeRequestId = some id →
      VersionAsked command.device id observations
  | _ => True

theorem checkpointMatches_iff {w : FirmwareUpdateWorkflow} {checkpoint : WorkflowCheckpoint} :
    w.checkpointMatches checkpoint = true ↔
      checkpoint.workflow = .firmwareUpdate ∧ checkpoint.operation = .updateFirmware ∧
        checkpoint.device = w.device ∧ checkpoint.firmwareVersion = some w.image.version := by
  unfold checkpointMatches
  simp only [Bool.and_eq_true, decide_eq_true_eq, and_assoc]

section Evidence

variable {w : FirmwareUpdateWorkflow} {context : WorkflowContext} {call : Call} {event : HostEvent}
  {observations more : List Observation} {command : FirmwareUpdateCommand} {size : Nat}
  {effects : List EffectRequest}

theorem Verified.append (h : Verified size observations) (more : List Observation) :
    Verified size (observations ++ more) := by
  obtain ⟨before, id, value, after, rfl, hverified⟩ := h
  exact ⟨before, id, value, after ++ more, by rw [List.append_assoc, List.cons_append], hverified⟩

theorem Resumed.append (h : Resumed command observations) (more : List Observation) :
    Resumed command (observations ++ more) := by
  obtain ⟨before, id, checkpoint, after, rfl, hresumed⟩ := h
  exact ⟨before, id, checkpoint, after ++ more, by rw [List.append_assoc, List.cons_append], hresumed⟩

theorem Evidence.append (h : Evidence command observations w)
    (hmore : Quiet ConnectionWorkflow.Breaks more) : Evidence command (observations ++ more) w := by
  have heither (h : Verified command.image.sizeBytes.toNat observations ∨
      Resumed command observations) :
      Verified command.image.sizeBytes.toNat (observations ++ more) ∨
        Resumed command (observations ++ more) :=
    h.imp (fun hverified => hverified.append more) fun hresumed => hresumed.append more
  unfold Evidence at h ⊢
  cases hphase : w.phase
  all_goals rw [hphase] at h
  case loadingCheckpoint => exact fun id hid => List.mem_append_left _ (h id hid)
  case verifying => exact fun hresult => (h hresult).append more
  case awaitingReboot => exact Verified.append h more
  case reconnecting => exact heither h
  case waitingReconnectRetry => exact heither h
  case readingVersion => exact fun id hid => (h id hid).append hmore
  all_goals trivial

/-- An event that neither opens nor closes a connection, and asks for nothing. -/
theorem Evidence.kept (h : Evidence command observations w)
    (hevent : ¬ConnectionWorkflow.Breaks (.accepted event)) :
    Evidence command (observations ++ [.accepted event]) w :=
  h.append (.cons hevent .nil)

/-- The phases that hold none. -/
def Unproven : FirmwareUpdate.Phase → Prop
  | .loadingCheckpoint | .verifying | .awaitingReboot | .reconnecting | .waitingReconnectRetry
  | .readingVersion => False
  | _ => True

theorem Evidence.unproven (h : Unproven w.phase) : Evidence command observations w := by
  unfold Evidence
  cases hphase : w.phase <;> first | trivial | (rw [hphase] at h; exact h.elim)

/-- After the readiness, an acknowledgement or a chunk there is no result of a verification yet. -/
theorem evidence_readNextOrVerify (call : Call) :
    Evidence command observations (readNextOrVerify call).workflow := by
  rcases readNextOrVerify_cases call with ⟨-, heq⟩ | ⟨-, hworkflow, -⟩
  · rw [heq, writeVerify_workflow]
    exact fun h => nomatch h
  · rw [hworkflow]
    trivial

/-! ## The connection that has completed -/

theorem cancelReconnectTimer_effects (call : Call) :
    ∃ cancels, (cancelReconnectTimer call).effects = call.effects ++ cancels ∧
      mains cancels = [] := by
  unfold cancelReconnectTimer
  split
  · exact ⟨[], (List.append_nil _).symm, rfl⟩
  · exact ⟨_, rfl, rfl⟩

/-- The version is asked right after the connection that read the serial number. -/
theorem versionAsked_readVersion {peripheralId : String} {device : DeviceSerialNumber}
    (h : ConnectionWorkflow.SerialRead peripheralId device
      (observations ++ .accepted event :: issuedBy call.effects)) :
    VersionAsked device (cancelReconnectTimer call).context.nextRequestId
      (observations ++ .accepted event ::
        issuedBy (readVersion (cancelReconnectTimer call)).effects) := by
  obtain ⟨cancels, heffects, hquiet⟩ := cancelReconnectTimer_effects call
  have hread : issuedBy (readVersion (cancelReconnectTimer call)).effects =
      issuedBy call.effects ++ issuedBy cancels ++
        [.issued (cancelReconnectTimer call).context.nextRequestId versionEffect] := by
    rw [← issuedBy_append, ← heffects]
    exact issuedBy_append _ _
  have hcanceled := h.append (ConnectionWorkflow.quiet_of_mains hquiet)
  rw [List.append_assoc, List.cons_append] at hcanceled
  rw [hread, ← List.cons_append, ← List.append_assoc]
  exact .next ⟨peripheralId, hcanceled⟩ .nil

/-! ## A step -/

/-- The answer to the VERIFY that arrives now. -/
theorem Staged.verified {id : RequestId} {value : List UInt8} (h : Staged command observations w)
    (hphase : w.phase = .verifying ∨ w.phase = .awaitingVerify)
    (hid : w.subscriptionRequestId = some id) (hverifies : Verifies value) (more : List Observation) :
    Verified command.image.sizeBytes.toNat
      (observations ++ .accepted ⟨id, statusNotification value⟩ :: more) := by
  refine ⟨observations, id, value, more, rfl, hverifies, h.subscribed id hid, ?_⟩
  have hasked := h.sound.1
  rw [← h.size]
  rcases hphase with heq | heq <;> rw [Stage, heq] at hasked <;> exact hasked

theorem evidence_rebooting (hverified : Verified command.image.sizeBytes.toNat observations)
    (call : Call) : Evidence command observations (beginReboot call).workflow := by
  rw [beginReboot_workflow]
  exact hverified

theorem evidence_reconnecting (h : Verified command.image.sizeBytes.toNat observations ∨
    Resumed command observations) (call : Call) :
    Evidence command observations (beginReconnect call).workflow := h

/-- The connection that has completed gave the serial number of the device. -/
theorem NestedStep.serialRead {connection : ConnectionWorkflow} {step : Step ConnectionWorkflow}
    {operation : Operation} (h : NestedStep w context event connection step)
    (hnested : Nested observations w)
    (hstatus : step.workflow.terminalStatus = .ok (some (.completed operation))) :
    ∃ peripheralId, ConnectionWorkflow.SerialRead peripheralId w.device
      (observations ++ .accepted event :: issuedBy (filterConnectionEffects step.effects)) := by
  obtain ⟨other, hother, hformed, hchain, hagrees⟩ := hnested h.reconnecting
  obtain rfl := Option.some.inj (h.active.symm.trans hother)
  have hphase : step.workflow.phase = .completed := by
    rw [ConnectionWorkflow.terminalStatus] at hstatus
    split at hstatus
    · assumption
    · split at hstatus <;> cases hstatus
    · cases hstatus
  obtain ⟨candidate, hactive⟩ := h.transition.completes hformed hphase
  have hread := h.transition.chain hchain (mains_filter step.effects)
  rw [ConnectionWorkflow.Chain, hphase] at hread
  exact ⟨_, hread candidate w.device hactive (h.transition.agrees hagrees w.device rfl)⟩

theorem Transition.evidence (h : Transition w context event call)
    (hstaged : Staged command observations w) (hevidence : Evidence command observations w) :
    Evidence command (observations ++ .accepted event :: issuedBy call.effects) call.workflow := by
  have hreconnects (hphase : w.phase = .reconnecting ∨ w.phase = .waitingReconnectRetry)
      (more : List Observation) :
      Verified command.image.sizeBytes.toNat (observations ++ more) ∨
        Resumed command (observations ++ more) := by
    have heither : Verified command.image.sizeBytes.toNat observations ∨
        Resumed command observations := by
      rcases hphase with heq | heq <;> rw [Evidence, heq] at hevidence <;> exact hevidence
    exact heither.imp (fun hverified => hverified.append more) fun hresumed => hresumed.append more
  -- from the reboot on, a verified image or a resumed checkpoint is the evidence, and both last
  cases h with
  | failed | reconnectTimedOut | connectionFails =>
    rw [fail_workflow]
    trivial
  | versionRead =>
    rw [complete_workflow]
    trivial
  | @checkpointSaved id =>
    have hquiet : ¬ConnectionWorkflow.Breaks (.accepted ⟨id, .checkpointSaved⟩) := nofun
    exact hevidence.kept hquiet
  | responseIgnored => exact hevidence.kept nofun
  | retryIgnored hphase =>
    show Evidence command _ w
    rw [Evidence, hphase]
    exact hreconnects (.inr hphase) _
  | retried hphase => exact hreconnects (.inr hphase) _
  | connectionRuns hnested =>
    show Evidence command _ { w with connection := _ }
    rw [Evidence]
    simp only [hnested.reconnecting]
    exact hreconnects (.inl hnested.reconnecting) _
  | connectionCompletes hnested hstatus =>
    obtain ⟨peripheralId, hread⟩ := hnested.serialRead hstaged.nested hstatus
    rw [hstaged.device] at hread
    rw [Evidence, readVersion_workflow]
    intro id hid
    obtain rfl := Option.some.inj hid
    exact versionAsked_readVersion hread
  | connectionRetries hnested => exact hreconnects (.inl hnested.reconnecting) _
  | readyRecorded _ hphase =>
    refine .unproven ?_
    show Unproven w.phase
    rw [hphase]
    trivial
  | transferBegins => exact evidence_readNextOrVerify _
  | ackRecorded => exact Evidence.kept hevidence nofun
  | ackAwaited => exact evidence_readNextOrVerify _
  | verifyRecorded hphase hid hverifies =>
    show Evidence command _ { w with verifyResult := some 0 }
    rw [Evidence]
    simp only [hphase]
    exact fun _ => hstaged.verified (.inl hphase) hid hverifies _
  | rebootBegins hphase hid hverifies =>
    exact evidence_rebooting (hstaged.verified (.inr hphase) hid hverifies _) _
  | statusIgnored => exact hevidence.kept nofun
  | rebooted hphase =>
    rw [Evidence, hphase] at hevidence
    exact evidence_reconnecting (.inl (hevidence.append _)) _
  | @checkpointLoaded id checkpoint hphase hid =>
    rw [Evidence, hphase] at hevidence
    unfold FirmwareUpdateWorkflow.checkpointLoaded
    simp only
    split
    · trivial
    · next other hfilter =>
      obtain ⟨rfl, hmatches⟩ := Option.filter_eq_some_iff.mp hfilter
      split
      · next hreconnecting =>
        refine evidence_reconnecting (.inr ⟨observations, id, other, _, rfl, hevidence id hid, ?_,
          hreconnecting⟩) _
        rw [Matches, ← hstaged.device, ← hstaged.version]
        exact checkpointMatches_iff.mp hmatches
      all_goals trivial
  | downloadProgressed hphase =>
    refine .unproven ?_
    rw [progress_workflow, Step.begin_workflow, hphase]
    trivial
  | downloadCompleted | subscribed => trivial
  | startWritten =>
    unfold FirmwareUpdateWorkflow.startWritten
    simp only
    split
    · exact evidence_readNextOrVerify _
    · trivial
  | chunkWritten =>
    unfold FirmwareUpdateWorkflow.chunkWritten
    simp only
    split
    · split
      · exact evidence_readNextOrVerify _
      · trivial
    · exact evidence_readNextOrVerify _
  | verifyWritten hphase =>
    rw [Evidence, hphase] at hevidence
    unfold FirmwareUpdateWorkflow.verifyWritten
    simp only
    split
    · next hresult => exact evidence_rebooting ((hevidence hresult).append _) _
    · trivial
  | chunkRead _ _ hsize _ hwrite =>
    rw [writeChunk_ok hsize] at hwrite
    obtain rfl := Reduction.ok_injective hwrite
    trivial

/-! ## The completion -/

def Unfinished (effect : Effect) : Prop :=
  effect ≠ .notify (.completed .updateFirmware)

instance : Admits Unfinished where
  side effect h := by
    rintro rfl
    cases h with
    | connection h => exact h.elim nofun nofun

theorem unfinished_readNextOrVerify (h : Emits Unfinished call.effects) :
    Emits Unfinished (readNextOrVerify call).effects := by
  rcases readNextOrVerify_cases call with ⟨-, heq⟩ | ⟨-, -, heffects⟩
  · rw [heq]
    unfold writeVerify
    exact (emits_progress (h.update _).allocate _ _ _).push (fun heq => nomatch heq)
  · rw [heffects]
    refine h.append fun request hmem => ?_
    rw [List.mem_singleton.mp hmem]
    exact fun heq => nomatch heq

theorem unfinished_beginTransfer (h : Emits Unfinished call.effects) :
    Emits Unfinished (beginTransfer call).effects :=
  unfinished_readNextOrVerify (emits_cancelTimer (h.update _))

/-- The update completes when it reads the version of the image. -/
structure Finishes (w : FirmwareUpdateWorkflow) (context : WorkflowContext) (event : HostEvent)
    (call : Call) (id : RequestId) (value : List UInt8) : Prop where
  phase : w.phase = .readingVersion
  request : w.writeRequestId = some id
  version : versionText value = w.image.version
  event : event = ⟨id, .ble (.readCompleted value)⟩
  call : call = complete (.begin { w with writeRequestId := none } context)

theorem Transition.finishes (h : Transition w context event call) :
    Emits Unfinished call.effects ∨ ∃ id value, Finishes w context event call id value := by
  have hbegin : Emits Unfinished (Step.begin w context).effects := emits_begin
  have hadopt {connection : ConnectionWorkflow} {step : Step ConnectionWorkflow}
      (hnested : NestedStep w context event connection step) :
      Emits Unfinished (adopt (.ok step) (.begin w context)).effects :=
    emits_adopt emits_begin (ConnectionWorkflow.emits_dispatch hnested.dispatched)
  cases h with
  | failed => exact .inl (emits_fail emits_begin _)
  | reconnectTimedOut => exact .inl (emits_fail (emits_cancelConnection emits_begin) _)
  | connectionFails => exact .inl (emits_fail emits_begin _)
  | versionRead hphase hid hversion => exact .inr ⟨_, _, hphase, hid, hversion, rfl, rfl⟩
  | retried => exact .inl (emits_startReconnectAttempt (emits_cancelTimer hbegin))
  | connectionRuns hnested => exact .inl (hadopt hnested)
  | connectionCompletes hnested =>
    exact .inl (emits_readVersion (emits_cancelReconnectTimer ((hadopt hnested).update _)))
  | connectionRetries hnested => exact .inl (emits_schedule ((hadopt hnested).update _) _ _)
  | transferBegins => exact .inl (unfinished_beginTransfer hbegin)
  | ackAwaited => exact .inl (unfinished_readNextOrVerify (emits_cancelTimer emits_begin))
  | rebootBegins => exact .inl (emits_beginReboot hbegin)
  | rebooted => exact .inl (emits_beginReconnect (emits_unsubscribe (emits_cancelTimer hbegin)))
  | checkpointLoaded checkpoint =>
    refine .inl ?_
    unfold FirmwareUpdateWorkflow.checkpointLoaded
    simp only
    split
    · exact emits_beginDownload (hbegin.update _)
    · split
      · exact emits_beginReconnect ((hbegin.update _).update _)
      · exact emits_subscribe ((hbegin.update _).update _)
      · exact emits_subscribe ((hbegin.update _).update _)
      · exact emits_beginDownload ((hbegin.update _).update _)
  | downloadProgressed => exact .inl (emits_progress hbegin _ _ _)
  | downloadCompleted => exact .inl (emits_subscribe (emits_checkpoint (hbegin.update _) _))
  | subscribed => exact .inl (emits_writeStart hbegin)
  | startWritten =>
    refine .inl ?_
    unfold FirmwareUpdateWorkflow.startWritten
    simp only
    split
    · exact unfinished_beginTransfer (hbegin.update _)
    · exact emits_schedule ((hbegin.update _).update _) _ _
  | chunkWritten =>
    have hready := emits_progress (emits_checkpoint (hbegin.update fun w =>
      { w with
        writeRequestId := none, nextSequence := (w.nextSequence + 1) % 65536
        offset := saturatingAdd w.offset w.pendingChunkUnits, pendingChunkUnits := 0 })
      .transferring) .transferring
    refine .inl ?_
    unfold FirmwareUpdateWorkflow.chunkWritten
    simp only
    split
    · split
      · exact unfinished_readNextOrVerify (hready _ _)
      · exact emits_waitForAck (hready _ _) _
    · exact unfinished_readNextOrVerify (hready _ _)
  | verifyWritten =>
    refine .inl ?_
    unfold FirmwareUpdateWorkflow.verifyWritten
    simp only
    split
    · exact emits_beginReboot (hbegin.update _)
    · exact emits_schedule ((hbegin.update _).update _) _ _
  | chunkRead _ _ hsize _ hwrite =>
    rw [writeChunk_ok hsize] at hwrite
    obtain rfl := Reduction.ok_injective hwrite
    exact .inl (Emits.request (emits_begin.update _) fun heq => nomatch heq)
  | _ => exact .inl hbegin

/-- Nothing that ends the update opens or closes a connection. -/
theorem complete_mains (call : Call) : mains (complete call).effects = mains call.effects := by
  unfold complete
  have hcancel (call : Call) : mains (cancelTimer call).effects = mains call.effects := by
    cases h : call.workflow.timerId <;> simp [cancelTimer, h, Main]
  have hreconnect (call : Call) : mains (cancelReconnectTimer call).effects = mains call.effects := by
    cases h : call.workflow.reconnectTimerRequestId <;> simp [cancelReconnectTimer, h, Main]
  have hsubscription (call : Call) : mains (unsubscribe call).effects = mains call.effects := by
    cases h : call.workflow.subscriptionRequestId <;> simp [unsubscribe, h, Main]
  simp [progress, hsubscription, hreconnect, hcancel, Main]

theorem Transition.completes (h : Transition w context event call)
    (hstaged : Staged command observations w) (hevidence : Evidence command observations w)
    (hjustified : Justified (Completes command) observations) :
    Justified (Completes command) (observations ++ .accepted event :: issuedBy call.effects) := by
  refine hjustified.append fun before id effect after hsplit heffect => ?_
  subst heffect
  obtain ⟨rest, rfl, htail⟩ : ∃ rest, before = .accepted event :: rest ∧
      issuedBy call.effects = rest ++ .issued id (.notify (.completed .updateFirmware)) :: after := by
    cases before with
    | nil => exact nomatch (List.cons.inj hsplit).1
    | cons head rest =>
      obtain ⟨rfl, htail⟩ := List.cons.inj hsplit
      exact ⟨rest, rfl, htail⟩
  rcases h.finishes with hunfinished | ⟨read, value, hphase, hid, hversion, rfl, rfl⟩
  · have hmem : Observation.issued id (.notify (.completed .updateFirmware)) ∈
        issuedBy call.effects := by
      rw [htail]
      exact List.mem_append_right _ List.mem_cons_self
    obtain ⟨request, hrequest, heq⟩ := List.mem_map.mp hmem
    obtain ⟨-, heffect⟩ := Observation.issued.inj heq
    exact absurd heffect (hunfinished request hrequest)
  · have hquiet : Quiet ConnectionWorkflow.Breaks rest := by
      have hall := ConnectionWorkflow.quiet_of_mains
        (complete_mains (.begin { w with writeRequestId := none } context))
      rw [htail] at hall
      exact fun observation hmem => hall observation (List.mem_append_left _ hmem)
    rw [Evidence, hphase] at hevidence
    rw [hstaged.version] at hversion
    exact ⟨read, value, hversion, .next (hevidence read hid) hquiet⟩

theorem completes_plain (h : Justified (Completes command) observations)
    (hmore : ∀ id, .issued id (.notify (.completed .updateFirmware)) ∉ more) :
    Justified (Completes command) (observations ++ more) := by
  refine h.append fun before id effect after hsplit heffect => ?_
  subst heffect
  refine absurd ?_ (hmore id)
  rw [hsplit]
  exact List.mem_append_right _ List.mem_cons_self

theorem not_completed (h : Emits Unfinished effects) (id : RequestId) :
    .issued id (.notify (.completed .updateFirmware)) ∉ issuedBy effects := by
  intro hmem
  obtain ⟨request, hrequest, heq⟩ := List.mem_map.mp hmem
  exact h request hrequest (Observation.issued.inj heq).2

end Evidence

/-! ## Runs -/

section Runs

variable {command : FirmwareUpdateCommand} {started : List EffectRequest}
  {trace : List (EngineEntry FirmwareUpdateWorkflow)}
  {engine₀ engine : WorkflowEngine FirmwareUpdateWorkflow}
  {ok : List (EngineEntry FirmwareUpdateWorkflow) → WorkflowEngine FirmwareUpdateWorkflow → Event → Prop}

/-- An active update has the evidence of its phase, and every completion was reported with its own. -/
theorem run_evidence (hstart : Started command started engine₀)
    (h : EngineRun ok engine₀ trace engine) :
    Settled (fun trace w => Evidence command (observe started trace) w ∧
        Justified (Completes command) (observe started trace))
      (fun trace => Justified (Completes command) (observe started trace)) trace engine := by
  refine run_settled (I := fun observations w => Evidence command observations w ∧
    Justified (Completes command) observations) (J := Justified (Completes command)) hstart
    ?_ ?_ ?_ ?_ ?_ h
  · intro w hactive _
    obtain ⟨id, context, hfresh, rfl⟩ := hstart.fresh
    obtain rfl := Option.some.inj (hfresh.symm.trans hactive)
    refine ⟨fun load hload => ?_, ?_⟩
    · obtain rfl := Option.some.inj hload
      exact List.mem_cons_of_mem _ List.mem_cons_self
    · rw [← List.nil_append (issuedBy _)]
      refine completes_plain justified_nil fun id hmem => ?_
      rcases List.mem_pair.mp hmem with heq | heq
      · exact nomatch (Observation.issued.inj heq).2
      · exact nomatch (Observation.issued.inj heq).2
  · rintro trace engine w event call _ hstaged ⟨hevidence, hjustified⟩ - hstep
    have hnext := hstep.completes hstaged hevidence hjustified
    exact ⟨hnext, fun _ => ⟨hstep.evidence hstaged hevidence, hnext⟩⟩
  · rintro observations w context call ⟨-, hjustified⟩ hcancel
    unfold cancel at hcancel
    obtain rfl := Reduction.ok_injective hcancel
    refine completes_plain hjustified (not_completed ?_)
    exact emits_side (emits_unsubscribe (emits_cancelConnection (emits_cancelReconnectTimer
      (emits_cancelTimer emits_begin)))) .cancelled
  · rintro observations w event ⟨hevidence, hjustified⟩
    refine ⟨hevidence.append (.cons nofun .nil), completes_plain hjustified fun id hmem => ?_⟩
    exact nomatch List.mem_singleton.mp hmem
  · intro observations observation hjustified hplain
    refine completes_plain hjustified fun id hmem => ?_
    exact hplain _ _ (List.mem_singleton.mp hmem).symm

/-- An update only reconnects a device that has accepted the whole image, and only completes once the
device it reconnected has answered with the version of the image. -/
theorem update_evidenced (hstart : Started command started engine₀)
    (h : EngineRun (fun _ _ _ => True) engine₀ trace engine) :
    (∀ w, engine.active = some w → w.phase = .reconnecting →
        Verified command.image.sizeBytes.toNat (observe started trace) ∨
          Resumed command (observe started trace)) ∧
      Justified (Completes command) (observe started trace) := by
  have hsettled := run_evidence hstart h
  constructor
  · intro w hactive hphase
    have hevidence := ((settled_active hactive).mp hsettled).1
    rw [Evidence, hphase] at hevidence
    exact hevidence
  · cases hactive : engine.active with
    | none => exact (settled_ended hactive).mp hsettled
    | some w => exact ((settled_active hactive).mp hsettled).2

end Runs

/-- The device reboots, is found by its name and reports the version of the image. -/
def smallReconnection : List Event :=
  [.host ⟨49, .ble .writeCompleted⟩, .host smallVerified, .host smallReboot,
    .host ⟨61, .ble (.scanResult ⟨"pin", some "Bota Pin", none, -50⟩)⟩, .host ⟨62, .timerFired 1⟩,
    .host ⟨64, .ble .scanStopped⟩, .host ⟨67, .ble (.connected "pin")⟩,
    .host ⟨70, .ble (.servicesDiscovered "pin")⟩,
    .host ⟨72, .ble (.readCompleted "EVFXXW67KP".toUTF8.toList)⟩, .host ⟨73, .connectionIdentitySaved⟩,
    .host ⟨80, .ble (.readCompleted "1.2.3".toUTF8.toList)⟩]

def smallUpdate : List (EngineEntry FirmwareUpdateWorkflow) :=
  (Machine.exec WorkflowEngine.dispatch [] smallStart.1 (smallTransfer ++ smallReconnection)).1

theorem update_evidenced_sample :
    .issued 83 (.notify (.completed .updateFirmware)) ∈ observe smallStart.2.effects smallUpdate ∧
      Justified (Completes smallCommand) (observe smallStart.2.effects smallUpdate) :=
  ⟨by decide +kernel, (update_evidenced smallStart_started
    (Machine.Run.exec (Machine.allowed_true [] _ (smallTransfer ++ smallReconnection)))).2⟩

end FirmwareUpdateWorkflow

end BotaSdk
