import BotaSdk.Workflow.EncryptedUploadV2Steps

/-!
# What a rejected event does to an encrypted upload

The workflow drops the request it waits for before the coordinator has looked at the event.  A
rejection leaves the engine as it was unless the event answers that request and its kind does not
belong to the coordinator's phase.
-/

namespace BotaSdk

open EncryptedUploadV2

namespace EncryptedUploadV2BatchCoordinator

/-- The coordinator never rejects an event of its phase. -/
theorem dispatch_of_accepts {c : EncryptedUploadV2BatchCoordinator}
    {event : EncryptedUploadV2HostEvent} (h : c.Accepts event) (error : DeviceSdkError) :
    (c.dispatch (EncryptedUploadV2Workflow.coordinatorEvent event)).2 ≠ .err error := by
  cases event with
  | sinkTruncated =>
    simp only [EncryptedUploadV2Workflow.coordinatorEvent, dispatch]
    rcases h with h | h
    · rw [if_pos h]
      rintro ⟨⟩
    · rw [if_neg (by rw [h]; decide), if_pos h]
      split <;> rintro ⟨⟩
  | _ =>
    simp only [Accepts] at h
    simp only [EncryptedUploadV2Workflow.coordinatorEvent, dispatch, fail]
    rw [if_pos h]
    intro herr
    repeat' split at herr
    all_goals cases herr

end EncryptedUploadV2BatchCoordinator

namespace EncryptedUploadV2Workflow

/-- The event answers the awaited request, but is of a kind out of phase: the workflow forgets what
it was waiting for. -/
def Forgets (w : EncryptedUploadV2Workflow) (event : HostEvent) : Prop :=
  ∃ hostEvent, event.kind = .encryptedUploadV2 hostEvent ∧
    w.expectedRequestId = some event.requestId ∧ hostEvent ≠ .transferStarted ∧
    ¬w.coordinator.Accepts hostEvent

/-- An event that does not answer the awaited request is rejected before anything is dropped. -/
theorem dispatch_foreign {w : EncryptedUploadV2Workflow} {event : HostEvent}
    (context : WorkflowContext) (h : w.expectedRequestId ≠ some event.requestId) :
    dispatch w event context = .err w context
      (unexpected "encrypted upload v2 callback does not own the pending request") := by
  rw [dispatch, if_pos (Ne.symm h)]

/-- Dropping the awaited request changes the workflow, unless the event keeps the transfer open. -/
theorem release_eq_iff {w : EncryptedUploadV2Workflow} {id : RequestId}
    {event : EncryptedUploadV2HostEvent} (hid : w.expectedRequestId = some id) :
    release event w = w ↔ event = .transferStarted := by
  constructor
  · intro hsame
    cases event with
    | transferStarted => rfl
    | _ =>
      have hexpected := congrArg expectedRequestId hsame
      rw [hid] at hexpected
      exact nomatch hexpected
  · rintro rfl
    rfl

/-- A rejecting dispatch keeps the workflow exactly when it does not forget the awaited request. -/
theorem dispatch_err_iff {w : EncryptedUploadV2Workflow} {event : HostEvent}
    {context : WorkflowContext} {error : DeviceSdkError}
    (h : (dispatch w event context).outcome = .err error) :
    ((dispatch w event context).workflow = w ↔ ¬w.Forgets event) ∧
      (dispatch w event context).context = context := by
  obtain ⟨id, kind⟩ := event
  by_cases hid : w.expectedRequestId = some id
  · cases kind with
    | encryptedUploadV2 hostEvent =>
      by_cases haccepts : w.coordinator.Accepts hostEvent
      · -- an event of the phase is never rejected
        have hne := EncryptedUploadV2BatchCoordinator.dispatch_of_accepts haccepts
        rw [dispatch, if_neg (not_not_intro hid.symm)] at h
        simp only at h
        generalize w.coordinator.dispatch (coordinatorEvent hostEvent) = result at h hne
        obtain ⟨coordinator, outcome⟩ := result
        cases outcome with
        | ok actions =>
          simp only at h
          split at h <;> cases h
        | err error => exact absurd rfl (hne error)
        | panicked => cases h
      · rw [dispatch_of_err context hid haccepts, Reduction.err_workflow, Reduction.err_context,
          release_eq_iff hid]
        refine ⟨?_, rfl⟩
        constructor
        · rintro rfl ⟨other, hother, -, hne, -⟩
          exact hne (HostEventKind.encryptedUploadV2.inj hother).symm
        · intro hkeeps
          by_contra hne
          exact hkeeps ⟨hostEvent, rfl, hid, hne, haccepts⟩
    | _ =>
      rw [dispatch, if_neg (not_not_intro hid.symm)]
      refine ⟨⟨fun _ => ?_, fun _ => rfl⟩, rfl⟩
      rintro ⟨hostEvent, hother, -⟩
      cases hother
  · rw [dispatch_foreign context hid]
    refine ⟨⟨fun _ => ?_, fun _ => rfl⟩, rfl⟩
    rintro ⟨hostEvent, -, hexpected, -⟩
    exact hid hexpected

theorem terminalStatus_ne_err (w : EncryptedUploadV2Workflow) (error : DeviceSdkError) :
    terminalStatus w ≠ .err error := by
  rw [terminalStatus]
  split
  · rintro ⟨⟩
  · rintro ⟨⟩
  · split <;> rintro ⟨⟩
  all_goals rintro ⟨⟩

/-- An engine call that errs is a rejection by the workflow. -/
theorem outcome_of_settle_err {engine : WorkflowEngine EncryptedUploadV2Workflow}
    {reduction : Reduction EncryptedUploadV2Workflow} {error : DeviceSdkError}
    (h : (engine.settle reduction).2 = .err error) : reduction.outcome = .err error := by
  cases hout : reduction.outcome with
  | ok effects =>
    simp only [WorkflowEngine.settle, hout] at h
    split at h
    · cases h
    · cases h
    · rename_i hstatus
      exact absurd hstatus (terminalStatus_ne_err _ _)
    · cases h
  | err other =>
    simp only [WorkflowEngine.settle, hout] at h
    rw [h]
  | panicked =>
    simp only [WorkflowEngine.settle, hout] at h
    cases h

/-- A rejected event leaves the engine as it was exactly when the workflow did not forget the
awaited request. -/
theorem engine_dispatch_err_iff {engine : WorkflowEngine EncryptedUploadV2Workflow}
    {event : HostEvent} {error : DeviceSdkError}
    (h : (engine.dispatch (.host event)).2 = .err error) :
    (engine.dispatch (.host event)).1 = engine ↔
      ∀ w, engine.active = some w → ¬w.Forgets event := by
  cases hact : engine.active with
  | none => simp [dispatch_idle hact]
  | some w =>
    rw [dispatch_active hact] at h ⊢
    have herr := outcome_of_settle_err h
    obtain ⟨hkeep, hcontext⟩ := dispatch_err_iff herr
    rw [settle_err herr]
    constructor
    · intro hsame other hother
      obtain rfl := Option.some.inj hother
      refine hkeep.mp (Option.some.inj ?_)
      rw [← hact]
      exact congrArg WorkflowEngine.active hsame
    · intro hkeeps
      have hworkflow := hkeep.mpr (hkeeps w rfl)
      change ({ engine with
        active := some (dispatch w event (engine.context w)).workflow
        nextRequestId := (dispatch w event (engine.context w)).context.nextRequestId } :
          WorkflowEngine EncryptedUploadV2Workflow) = engine
      rw [hworkflow, hcontext, ← hact]
      rfl

/-! ## Runs -/

/-- The entry is a host event whose dispatch returned an error. -/
def Rejected (entry : EngineEntry EncryptedUploadV2Workflow) : Prop :=
  ∃ event error, entry.input = .host event ∧ entry.output = .err error

/-- The entry's event answers the request awaited there, out of phase. -/
def ForgetsAt (entry : EngineEntry EncryptedUploadV2Workflow) : Prop :=
  ∃ event w, entry.input = .host event ∧ entry.pre.active = some w ∧ w.Forgets event

/-- The engine a run goes on with after an entry. -/
def after (entry : EngineEntry EncryptedUploadV2Workflow) :
    WorkflowEngine EncryptedUploadV2Workflow :=
  (entry.pre.dispatch entry.input).1

theorem after_eq_pre_iff {engine₀ engine : WorkflowEngine EncryptedUploadV2Workflow}
    {trace : List (EngineEntry EncryptedUploadV2Workflow)}
    {entry : EngineEntry EncryptedUploadV2Workflow}
    (hrun : EngineRun (fun _ _ _ => True) engine₀ trace engine) (hmem : entry ∈ trace)
    (hrejected : Rejected entry) : after entry = entry.pre ↔ ¬ForgetsAt entry := by
  obtain ⟨event, error, hinput, houtput⟩ := hrejected
  obtain ⟨-, -, -, -, -, hout⟩ := hrun.mem hmem
  rw [after, hinput]
  rw [houtput, hinput] at hout
  rw [engine_dispatch_err_iff hout.symm]
  constructor
  · rintro hkeeps ⟨event', w, hevent, hact, hforgets⟩
    obtain rfl := Event.host.inj (hinput.symm.trans hevent)
    exact hkeeps w hact hforgets
  · intro hkeeps w hact hforgets
    exact hkeeps ⟨event, w, hinput, hact, hforgets⟩

/-- In every run, the rejected events all leave the engine as they found it, with the same request
awaited, exactly when none of them is an out-of-phase answer to that request. -/
theorem rejections_keep_engine_iff {engine₀ engine : WorkflowEngine EncryptedUploadV2Workflow}
    {trace : List (EngineEntry EncryptedUploadV2Workflow)}
    (hrun : EngineRun (fun _ _ _ => True) engine₀ trace engine) :
    (∀ entry ∈ trace, Rejected entry → after entry = entry.pre) ↔
      ∀ entry ∈ trace, Rejected entry → ¬ForgetsAt entry := by
  constructor
  · intro hkeep entry hmem hrejected
    exact (after_eq_pre_iff hrun hmem hrejected).mp (hkeep entry hmem hrejected)
  · intro hkeep entry hmem hrejected
    exact (after_eq_pre_iff hrun hmem hrejected).mpr (hkeep entry hmem hrejected)

/-- The upload awaits its checkpoint under request 2, and is told a checkpoint was saved. -/
def strayEvents : List Event := [.host ⟨2, .encryptedUploadV2 .checkpointSaved⟩]

def loadedEvent : Event := .host ⟨2, .encryptedUploadV2 (.checkpointLoaded none)⟩

/-- It is told so under another request first. -/
def foreignEvents : List Event := [.host ⟨9, .encryptedUploadV2 .checkpointSaved⟩]

def foreignTrace : List (EngineEntry EncryptedUploadV2Workflow) :=
  (Machine.exec WorkflowEngine.dispatch [] sampleEngine foreignEvents).1

def strayTrace : List (EngineEntry EncryptedUploadV2Workflow) :=
  (Machine.exec WorkflowEngine.dispatch [] sampleEngine (foreignEvents ++ strayEvents)).1

/-- The rejection under another request keeps the engine, and the stray answer behind it makes the
engine forget. -/
theorem rejections_keep_engine_iff_sample :
    (∃ entry ∈ foreignTrace, Rejected entry) ∧
    (∀ entry ∈ foreignTrace, Rejected entry → after entry = entry.pre) ∧
    ∃ entry ∈ strayTrace, Rejected entry ∧ ForgetsAt entry := by
  have hforeign := rejections_keep_engine_iff
    (Machine.Run.exec (Machine.allowed_true [] sampleEngine foreignEvents))
  have hstray := rejections_keep_engine_iff
    (Machine.Run.exec (Machine.allowed_true [] sampleEngine (foreignEvents ++ strayEvents)))
  refine ⟨⟨_, List.mem_singleton_self _, _, _, rfl, rfl⟩, hforeign.mpr ?_, ?_⟩
  · rintro entry hmem - ⟨event, w, hinput, hactive, _, -, hid, -⟩
    obtain rfl := List.mem_singleton.mp hmem
    obtain rfl := Event.host.inj hinput
    obtain rfl := Option.some.inj hactive
    exact absurd hid (by decide)
  · by_contra hnone
    have hkeeps := hstray.mpr fun entry hmem hrejected hforgets =>
      hnone ⟨entry, hmem, hrejected, hforgets⟩
    have hsame := hkeeps _ (List.mem_cons_of_mem _ List.mem_cons_self) ⟨_, _, rfl, rfl⟩
    have hactive := congrArg (fun engine => engine.active.map (·.expectedRequestId)) hsame
    exact absurd hactive (by decide)

/-- The stray answer is rejected, and the checkpoint the upload was waiting for is rejected after
it, though it was accepted before. -/
theorem stray_answer_forgets_request :
    ∃ trace engine, EngineRun (fun _ _ _ => True) sampleEngine trace engine ∧
      (∃ entry ∈ trace, Rejected entry ∧ after entry ≠ entry.pre) ∧
      (sampleEngine.dispatch loadedEvent).2.isErr = false ∧
      (engine.dispatch loadedEvent).2.isErr = true := by
  refine ⟨_, _, Machine.Run.exec (Machine.allowed_true [] sampleEngine strayEvents), ?_, ?_, ?_⟩
  · refine ⟨_, List.mem_singleton_self _, ⟨_, _, rfl, rfl⟩, fun hsame => ?_⟩
    have hactive := congrArg (fun engine => engine.active.map (·.expectedRequestId)) hsame
    exact absurd hactive (by decide)
  · decide
  · decide

end EncryptedUploadV2Workflow

end BotaSdk
