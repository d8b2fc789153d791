import BotaSdk.Engine.Observation
import BotaSdk.Workflow.UploadHandoff

/-!
# When the host may fetch a recording

The host is told to fall back to BLE in a step that handles a device status, read after every event
taken before it.  After a failed trigger the number of pending recordings goes unread.
-/

namespace BotaSdk

open History Protocol UploadHandoff

namespace UploadHandoffWorkflow

def statusEffect : Effect := .ble (.read SERVICE_BOTA_CONTROL CHAR_DEVICE_STATUS)

/-! ## The evidence -/

def IsAccepted : Observation → Prop
  | .accepted _ => True
  | _ => False

/-- The status was requested as `id` after the last event that was taken. -/
def StatusRequested (id : RequestId) : List Observation → Prop :=
  After IsAccepted (fun _ => True) (.issued id statusEffect)

/-- The last event that was taken is the answer to such a request. -/
def FreshStatus (status : DeviceStatus) (observations : List Observation) : Prop :=
  ∃ id value, parseDeviceStatus value = .ok status ∧
    After IsAccepted (StatusRequested id) (.accepted ⟨id, .ble (.readCompleted value)⟩) observations

def IsFallback : Effect → Prop
  | .notify (.bleFallbackReady _ _ _) => True
  | _ => False

/-- The fallback needs a fresh status without a sync and with a recording that is pending. -/
def FallbackAllowed (observations : List Observation) (effect : Effect) : Prop :=
  IsFallback effect → ∃ status, FreshStatus status observations ∧
    status.flags.syncActive = false ∧ status.pendingRecordings ≠ 0

/-! ## Steps -/

/-- What neither falls back nor asks for the status. -/
def Plain (effect : Effect) : Prop :=
  ¬IsFallback effect ∧ effect ≠ statusEffect

def AllPlain (effects : List EffectRequest) : Prop :=
  ∀ request ∈ effects, Plain request.effect

section Parts

variable {call : Call} {effect : Effect} {track : RequestId → UploadHandoffWorkflow → UploadHandoffWorkflow}

theorem AllPlain.request (h : AllPlain call.effects) (heffect : Plain effect) :
    AllPlain (call.request effect track).effects := by
  intro request hmem
  rcases List.mem_append.mp hmem with hmem | hmem
  · exact h request hmem
  · rw [List.mem_singleton.mp hmem]
    exact heffect

theorem plain_timer (effect : TimerEffect) : Plain (.timer effect) :=
  ⟨id, nofun⟩

theorem AllPlain.cancelTimer (h : AllPlain call.effects) : AllPlain (cancelTimer call).effects := by
  rw [UploadHandoffWorkflow.cancelTimer]
  split
  · exact h
  · exact AllPlain.request h (plain_timer _)

theorem AllPlain.unsubscribe (h : AllPlain call.effects) : AllPlain (unsubscribe call).effects := by
  rw [UploadHandoffWorkflow.unsubscribe]
  split
  · exact h
  · exact AllPlain.request h ⟨id, nofun⟩

theorem AllPlain.cleanup (h : AllPlain call.effects) : AllPlain (cleanup call).effects :=
  AllPlain.unsubscribe (AllPlain.cancelTimer h)

theorem AllPlain.nil : AllPlain [] :=
  fun _ hmem => absurd hmem List.not_mem_nil

theorem AllPlain.begin (w : UploadHandoffWorkflow) (context : WorkflowContext) :
    AllPlain (Step.begin w context).effects :=
  fun _ hmem => absurd hmem List.not_mem_nil

theorem cancelTimer_workflow :
    (cancelTimer call).workflow = { call.workflow with timerRequestId := none, timerId := none } := by
  cases h : call.workflow.timerId <;> simp [cancelTimer, h]

theorem unsubscribe_workflow :
    (unsubscribe call).workflow = { call.workflow with subscriptionRequestId := none } := by
  rw [unsubscribe]
  split
  · rename_i h
    rw [← h]
  · rfl

theorem cleanup_workflow :
    (cleanup call).workflow =
      { call.workflow with
        timerRequestId := none, timerId := none, subscriptionRequestId := none } := by
  rw [cleanup, unsubscribe_workflow, cancelTimer_workflow]

end Parts

/-- Every accepted event, by what its step asks of the host. -/
inductive Transition (w : UploadHandoffWorkflow) : HostEvent → Call → Prop
  | plain {event : HostEvent} {call : Call} :
      AllPlain call.effects → call.workflow.phase ≠ .readingStatus →
      (call.workflow.phase = .failed → call.workflow.terminalError ≠ none) → Transition w event call
  | asks {event : HostEvent} {call : Call} (purpose : StatusPurpose) :
      AllPlain call.effects → Transition w event (readStatus purpose call)
  | falls {id : RequestId} {value : List UInt8} {status : DeviceStatus} {call : Call} :
      w.phase = .readingStatus → w.statusRequestId = some id →
      parseDeviceStatus value = .ok status → status.flags.syncActive = false →
      status.pendingRecordings ≠ 0 ∨ w.statusPurpose = .triggerFailure →
      AllPlain call.effects →
      Transition w ⟨id, .ble (.readCompleted value)⟩ (completeWithFallback call)

section Dispatch

variable {w : UploadHandoffWorkflow} {event : HostEvent} {call : Call} {status : DeviceStatus}

theorem plain_monitor (h : AllPlain call.effects) : Transition w event (monitor call) :=
  .plain (AllPlain.request h (plain_timer _)) nofun nofun

theorem plain_fail (error : DeviceSdkError) (h : AllPlain call.effects) :
    Transition w event (fail error call) := by
  refine .plain (AllPlain.request (AllPlain.cleanup h) ⟨id, nofun⟩) ?_ fun _ => ?_
  · rw [fail, Step.request_workflow, cleanup_workflow]
    exact nofun
  · rw [fail, Step.request_workflow, cleanup_workflow]
    exact nofun

theorem completeWith_phase (notifications : List WorkflowNotification) :
    (completeWith notifications call).workflow.phase = .completed := by
  have hfold (notifications : List WorkflowNotification) (call : Call) :
      (notifications.foldl (fun call notification => call.request (.notify notification))
        call).workflow = call.workflow := by
    induction notifications generalizing call with
    | nil => rfl
    | cons notification rest ih => exact ih _
  rw [completeWith, Step.request_workflow, hfold, cleanup_workflow]
  rfl

theorem plain_complete (h : AllPlain call.effects) : Transition w event (completeDirect call) := by
  have hphase : (completeDirect call).workflow.phase = .completed := completeWith_phase _
  refine .plain (AllPlain.request (AllPlain.cleanup h) ⟨id, nofun⟩) ?_ fun hfailed => ?_
  · rw [hphase]
    exact nofun
  · exact nomatch hphase.symm.trans hfailed

theorem plain_preserved (h : AllPlain call.effects) : Transition w event (completePreserved call) := by
  have hpreserved : AllPlain ((cleanup (call.update fun w => { w with phase := .completed })).request
      (.notify (.deviceUploadPreserved call.workflow.uploadId))).effects :=
    AllPlain.request (AllPlain.cleanup h) ⟨id, nofun⟩
  have hphase : (completePreserved call).workflow.phase = .completed := completeWith_phase _
  refine .plain (AllPlain.request hpreserved ⟨id, nofun⟩) ?_ fun hfailed => ?_
  · rw [hphase]
    exact nofun
  · exact nomatch hphase.symm.trans hfailed

theorem handleStatus_transition {id : RequestId} {value : List UInt8}
    (hphase : w.phase = .readingStatus) (hid : w.statusRequestId = some id)
    (hparse : parseDeviceStatus value = .ok status) (hplain : AllPlain call.effects)
    (hpurpose : call.workflow.statusPurpose = w.statusPurpose) :
    Transition w ⟨id, .ble (.readCompleted value)⟩ (handleStatus status call) := by
  have hfalls {call : Call} (hsync : ¬status.flags.syncActive = true)
      (hpending : status.pendingRecordings ≠ 0 ∨ w.statusPurpose = .triggerFailure)
      (hplain : AllPlain call.effects) :=
    Transition.falls (w := w) hphase hid hparse (Bool.not_eq_true _ ▸ hsync) hpending hplain
  rw [handleStatus]
  cases hcase : call.workflow.statusPurpose with
  | initial =>
    simp only
    split
    · exact plain_complete hplain
    · rename_i hpending
      split
      · exact plain_monitor hplain
      · rename_i hsync
        split
        · exact .plain (AllPlain.request hplain ⟨fun h => h, nofun⟩) nofun nofun
        · exact hfalls hsync (.inl hpending) hplain
  | busy =>
    simp only
    split
    · exact plain_monitor hplain
    · exact plain_preserved hplain
  | triggerFailure =>
    simp only
    split
    · exact plain_monitor hplain
    · rename_i hsync
      exact hfalls hsync (.inr (hpurpose.symm.trans hcase)) hplain
  | monitor =>
    simp only
    split
    · exact plain_monitor (AllPlain.request hplain ⟨fun h => h, nofun⟩)
    · rename_i hsync
      split
      · exact plain_complete hplain
      · rename_i hpending
        exact hfalls hsync (.inl hpending) hplain

/-- Every event is taken by a transition or rejected without effect. -/
theorem dispatch_cases (w : UploadHandoffWorkflow) (event : HostEvent) (context : WorkflowContext) :
    (∃ call, dispatch w event context = .ok call ∧ Transition w event call) ∨
      ∃ error, dispatch w event context = .err w context error := by
  have hbegin := AllPlain.begin w context
  have hreject : ∃ error, Reduction.err w context unexpected = .err w context error :=
    ⟨unexpected, rfl⟩
  obtain ⟨id, kind⟩ := event
  rw [dispatch]
  cases kind with
  | timerFired timerId =>
    simp only
    split
    · refine .inl ⟨_, rfl, ?_⟩
      rw [timerFired]
      split
      · exact .asks _ (AllPlain.unsubscribe hbegin)
      · exact .asks _ hbegin
    · exact .inr hreject
  | ble event =>
    cases event with
    | readCompleted value =>
      simp only
      split
      · rename_i h
        refine .inl ⟨_, rfl, ?_⟩
        rw [statusRead]
        cases hparse : parseDeviceStatus value with
        | ok status =>
          exact handleStatus_transition h.1 h.2.symm hparse hbegin rfl
        | error _ => exact plain_fail _ hbegin
      · exact .inr hreject
    | subscribed characteristicUuid =>
      simp only
      split
      · exact .inl ⟨_, rfl, .plain (AllPlain.request hbegin ⟨fun h => h, nofun⟩) nofun nofun⟩
      · exact .inr hreject
    | writeCompleted =>
      simp only
      split
      · exact .inl ⟨_, rfl, .plain (AllPlain.request hbegin (plain_timer _)) nofun nofun⟩
      · exact .inr hreject
    | notification characteristicUuid value =>
      simp only
      split
      · rename_i h
        rw [triggerAnswered]
        have hreleased := AllPlain.unsubscribe (AllPlain.cancelTimer hbegin)
        cases parseTriggerUploadResponse value with
        | error error => exact .inr ⟨error, rfl⟩
        | ok response =>
          cases response with
          | none =>
            refine .inl ⟨_, rfl, .plain hbegin ?_ fun hfailed => ?_⟩
            · rw [Step.begin_workflow, h.1]
              exact nofun
            · exact nomatch h.1.symm.trans hfailed
          | some response =>
            simp only
            split
            · exact .inl ⟨_, rfl, plain_monitor hreleased⟩
            · split
              · exact .inl ⟨_, rfl, .asks _ hreleased⟩
              · exact .inl ⟨_, rfl, .asks _ hreleased⟩
      · exact .inr hreject
    | disconnected peripheralId reasonCode => exact .inl ⟨_, rfl, plain_fail _ hbegin⟩
    | failed platformCode =>
      simp only
      split
      · exact .inl ⟨_, rfl, plain_fail _ hbegin⟩
      · split
        · exact .inl ⟨_, rfl, plain_fail _ hbegin⟩
        · exact .inr hreject
    | _ => exact .inr hreject
  | _ => exact .inr hreject

end Dispatch

/-! ## Runs -/

section Runs

variable {w : UploadHandoffWorkflow} {context : WorkflowContext} {event : HostEvent} {call : Call}
  {observations more : List Observation} {effects started : List EffectRequest}
  {status status' : DeviceStatus} {trace : List (EngineEntry UploadHandoffWorkflow)}
  {engine₀ engine : WorkflowEngine UploadHandoffWorkflow}

theorem quiet_issuedBy : Quiet IsAccepted (issuedBy effects) := by
  intro observation hmem haccepted
  obtain ⟨request, -, rfl⟩ := List.mem_map.mp hmem
  exact haccepted

/-- A status that is asked for is known to be outstanding. -/
def Asking (observations : List Observation) (w : UploadHandoffWorkflow) : Prop :=
  w.phase = .readingStatus → ∀ id, w.statusRequestId = some id → StatusRequested id observations

theorem asking_readStatus (purpose : StatusPurpose) :
    Asking (observations ++ issuedBy (readStatus purpose call).effects)
      (readStatus purpose call).workflow := by
  intro _ id hid
  obtain rfl := Option.some.inj hid
  have hsplit : issuedBy (readStatus purpose call).effects =
      issuedBy call.effects ++ [.issued call.context.nextRequestId statusEffect] := by
    rw [readStatus, Step.request, issuedBy_append]
    rfl
  rw [hsplit, ← List.append_assoc]
  exact After.next trivial .nil

theorem Transition.asking (h : Transition w event call) :
    Asking (observations ++ .accepted event :: issuedBy call.effects) call.workflow := by
  rw [List.append_cons]
  cases h with
  | plain _ hphase _ => exact fun h => absurd h hphase
  | asks purpose => exact asking_readStatus purpose
  | falls =>
    intro h
    rw [completeWithFallback, completeWith_phase] at h
    exact nomatch h

theorem mem_of_split {before after : List Observation} {id : RequestId} {effect : Effect}
    (h : issuedBy effects = before ++ .issued id effect :: after) :
    (∃ front, issuedBy front = before) ∧ ∃ request ∈ effects, request.effect = effect := by
  obtain ⟨front, rest, rfl, hfront, hrest⟩ := List.map_eq_append_iff.mp h
  obtain ⟨request, back, rfl, hrequest, -⟩ := List.map_eq_cons_iff.mp hrest
  obtain ⟨rfl, rfl⟩ := Observation.issued.inj hrequest
  exact ⟨⟨front, hfront⟩, request, List.mem_append_right _ List.mem_cons_self, rfl⟩

theorem allowed_of_plain {effect : Effect} (h : Plain effect) : FallbackAllowed observations effect :=
  fun hfallback => absurd hfallback h.1

/-- Asking for the status falls back to nothing. -/
theorem allowed_readStatus {purpose : StatusPurpose} {before after : List Observation}
    {id : RequestId} {effect : Effect} (h : AllPlain call.effects)
    (hsplit : issuedBy (readStatus purpose call).effects = before ++ .issued id effect :: after) :
    FallbackAllowed observations effect := by
  obtain ⟨-, request, hmem, rfl⟩ := mem_of_split hsplit
  rcases List.mem_append.mp hmem with hmem | hmem
  · exact allowed_of_plain (h request hmem)
  · rw [List.mem_singleton.mp hmem]
    exact fun hfallback => hfallback.elim

/-- The status that a failed trigger is followed by may report nothing that is pending. -/
def Misses (w : UploadHandoffWorkflow) (event : HostEvent) : Prop :=
  w.phase = .readingStatus ∧ w.statusRequestId = some event.requestId ∧
    w.statusPurpose = .triggerFailure ∧ ∃ value status, event.kind = .ble (.readCompleted value) ∧
      parseDeviceStatus value = .ok status ∧ status.flags.syncActive = false ∧
      status.pendingRecordings = 0

/-- The last accepted event is one. -/
theorem FreshStatus.unique {id : RequestId} {value : List UInt8}
    (h : FreshStatus status' (observations ++ .accepted ⟨id, .ble (.readCompleted value)⟩ :: more))
    (hmore : Quiet IsAccepted more) (hparse : parseDeviceStatus value = .ok status) :
    status' = status := by
  obtain ⟨id', value', hparse', before, after, hsplit, -, hafter⟩ := h
  rcases List.append_eq_append_iff.mp hsplit with ⟨extra, -, htail⟩ | ⟨extra, -, htail⟩
  · cases extra with
    | nil =>
      obtain ⟨hlink, -⟩ := List.cons.inj htail
      cases hlink
      exact Except.ok.inj (hparse'.symm.trans hparse)
    | cons first extra =>
      obtain ⟨-, rfl⟩ := List.cons.inj htail
      exact absurd trivial (hmore (.accepted ⟨id', .ble (.readCompleted value')⟩)
        (List.mem_append_right _ List.mem_cons_self))
  · cases extra with
    | nil =>
      obtain ⟨hlink, -⟩ := List.cons.inj htail
      cases hlink
      exact Except.ok.inj (hparse'.symm.trans hparse)
    | cons first extra =>
      obtain ⟨-, rfl⟩ := List.cons.inj htail
      exact absurd trivial (hafter (.accepted ⟨id, .ble (.readCompleted value)⟩)
        (List.mem_append_right _ List.mem_cons_self))

/-- Where the fallback stands among the requests of its step. -/
theorem issuedBy_completeWithFallback (call : Call) :
    ∃ front id effect back, IsFallback effect ∧
      issuedBy (completeWithFallback call).effects =
        issuedBy front ++ .issued id effect :: issuedBy back := by
  let cleaned := cleanup (call.update fun w => { w with phase := .completed })
  let fallback : Effect := .notify (.bleFallbackReady call.workflow.recording
    call.workflow.uploadId call.workflow.destinationId)
  refine ⟨cleaned.effects, cleaned.context.nextRequestId, fallback,
    [(cleaned.request fallback).next (.notify (.completed .upload))], trivial, ?_⟩
  show issuedBy ((cleaned.effects ++ [cleaned.next fallback]) ++ [_]) = _
  rw [issuedBy_append, issuedBy_append, List.append_assoc]
  rfl

theorem handleStatus_triggerFailure (hpurpose : call.workflow.statusPurpose = .triggerFailure)
    (hsync : status.flags.syncActive = false) :
    handleStatus status call = completeWithFallback call := by
  rw [handleStatus, hpurpose]
  simp only
  rw [hsync, if_neg nofun]

/-- A step's requests are allowed unless it misses that nothing is pending. -/
theorem Transition.allowed_iff (h : Transition w event call)
    (hdispatch : dispatch w event context = .ok call) (hasking : Asking observations w) :
    (∀ before id effect after,
      .accepted event :: issuedBy call.effects = before ++ .issued id effect :: after →
        FallbackAllowed (observations ++ before) effect) ↔ ¬Misses w event := by
  obtain ⟨id, kind⟩ := event
  constructor
  · rintro hall ⟨hphase, hid, hpurpose, value, status, hkind, hparse, hsync, hpending⟩
    obtain rfl : kind = .ble (.readCompleted value) := hkind
    have hcall : dispatch w ⟨id, .ble (.readCompleted value)⟩ context =
        .ok (completeWithFallback (.begin { w with statusRequestId := none } context)) := by
      simp only [dispatch]
      rw [if_pos ⟨hphase, hid.symm⟩, statusRead, hparse]
      exact congrArg Reduction.ok (handleStatus_triggerFailure hpurpose hsync)
    obtain rfl := Reduction.ok_injective (hcall.symm.trans hdispatch)
    obtain ⟨front, n, effect, back, hfallback, hsplit⟩ := issuedBy_completeWithFallback
      (.begin { w with statusRequestId := none } context)
    obtain ⟨status', hfresh, -, hnone⟩ := hall _ n effect (issuedBy back) (by
      rw [hsplit, ← List.cons_append]) hfallback
    rw [hfresh.unique quiet_issuedBy hparse] at hnone
    exact hnone hpending
  · intro hmisses before n effect after hsplit
    cases before with
    | nil => exact nomatch (List.cons.inj hsplit).1
    | cons first before =>
      obtain ⟨rfl, hissued⟩ := List.cons.inj hsplit
      cases h with
      | plain hplain =>
        obtain ⟨-, request, hmem, rfl⟩ := mem_of_split hissued
        exact allowed_of_plain (hplain request hmem)
      | asks purpose hplain => exact allowed_readStatus hplain hissued
      | @falls _ value status _ hphase hid hparse hsync hpending =>
        obtain ⟨⟨front, rfl⟩, -⟩ := mem_of_split hissued
        intro _
        refine ⟨status, ⟨id, value, hparse, .next (hasking hphase id hid) quiet_issuedBy⟩, hsync,
          fun hzero => ?_⟩
        rcases hpending with hpending | hpurpose
        · exact hpending hzero
        · exact hmisses ⟨hphase, hid, hpurpose, value, status, rfl, hparse, hsync, hzero⟩

/-- No status so far was read after a failed trigger and reported nothing pending. -/
def Sound (trace : List (EngineEntry UploadHandoffWorkflow)) : Prop :=
  ∀ entry ∈ trace, ∀ w event, entry.pre.active = some w → entry.input = .host event →
    ¬Misses w event

theorem sound_snoc {entry : EngineEntry UploadHandoffWorkflow} :
    Sound (trace ++ [entry]) ↔ Sound trace ∧ ∀ w event, entry.pre.active = some w →
      entry.input = .host event → ¬Misses w event := by
  constructor
  · intro h
    exact ⟨fun other hmem => h other (List.mem_append_left _ hmem),
      h entry (List.mem_append_right _ (List.mem_singleton_self _))⟩
  · rintro ⟨hbefore, hlast⟩ other hmem
    rcases List.mem_append.mp hmem with hmem | hmem
    · exact hbefore other hmem
    · obtain rfl := List.mem_singleton.mp hmem
      exact hlast

/-- An upload handoff that a command has just started. -/
def Started (started : List EffectRequest) (engine₀ : WorkflowEngine UploadHandoffWorkflow) : Prop :=
  ∃ (engine : WorkflowEngine UploadHandoffWorkflow) (command : UploadHandoffCommand)
    (capabilities : List Capability) (id : CancellationId),
    engine.start command capabilities id = (engine₀, .ok started)

/-- What a run has shown so far: the fallback was allowed as long as no status was missed. -/
def Shown (started : List EffectRequest) (trace : List (EngineEntry UploadHandoffWorkflow)) : Prop :=
  Justified FallbackAllowed (observe started trace) ↔ Sound trace

theorem Shown.snoc {entry : EngineEntry UploadHandoffWorkflow} (h : Shown started trace)
    (hentry : (∀ before id effect after,
        observeEntry entry = before ++ .issued id effect :: after →
          FallbackAllowed (observe started trace ++ before) effect) ↔
      ∀ w event, entry.pre.active = some w → entry.input = .host event → ¬Misses w event) :
    Shown started (trace ++ [entry]) := by
  rw [Shown, observe_snoc, justified_append, sound_snoc]
  exact and_congr h hentry

/-- A step that takes no status shows nothing new, if its requests are plain. -/
theorem Shown.plain {entry : EngineEntry UploadHandoffWorkflow} (h : Shown started trace)
    (hplain : AllPlain entry.output.effects)
    (hkept : ∀ w event, entry.pre.active = some w → entry.input = .host event → ¬Misses w event) :
    Shown started (trace ++ [entry]) := by
  refine h.snoc (iff_of_true (fun before id effect after hsplit => ?_) hkept)
  have hissued : .issued id effect ∈ issuedBy entry.output.effects := by
    have hmem : .issued id effect ∈ observeEntry entry := by
      rw [hsplit]
      exact List.mem_append_right _ List.mem_cons_self
    rw [observeEntry] at hmem
    split at hmem
    · unfold delivered at hmem
      rcases List.mem_cons.mp hmem with heq | hmem
      · split at heq <;> exact nomatch heq
      · exact hmem
    · exact hmem
  obtain ⟨request, hmem, hrequest⟩ := List.mem_map.mp hissued
  obtain ⟨-, rfl⟩ := Observation.issued.inj hrequest
  exact allowed_of_plain (hplain request hmem)

theorem Misses.accepted (h : Misses w event) :
    ∃ call, dispatch w event context = .ok call := by
  obtain ⟨hphase, hid, -, value, status, hkind, -⟩ := h
  simp only [dispatch, hkind]
  rw [if_pos ⟨hphase, hid.symm⟩]
  exact ⟨_, rfl⟩

theorem terminalStatus_ne_panicked (h : w.phase = .failed → w.terminalError ≠ none) :
    terminalStatus w = .ok none ∨ ∃ status, terminalStatus w = .ok (some status) := by
  rw [terminalStatus]
  cases hphase : w.phase with
  | completed => exact .inr ⟨_, rfl⟩
  | failed =>
    obtain ⟨error, herror⟩ := Option.ne_none_iff_exists'.mp (h hphase)
    rw [herror]
    exact .inr ⟨_, rfl⟩
  | _ => exact .inl rfl

theorem Transition.settled (h : Transition w event call) :
    terminalStatus call.workflow = .ok none ∨
      ∃ status, terminalStatus call.workflow = .ok (some status) := by
  refine terminalStatus_ne_panicked ?_
  cases h with
  | plain _ _ herror => exact herror
  | asks => exact nofun
  | falls =>
    intro hfailed
    rw [completeWithFallback, completeWith_phase] at hfailed
    exact nomatch hfailed

/-- A start asks for the status. -/
theorem Started.asks (h : Started started engine₀) :
    ∃ call : Call, AllPlain call.effects ∧
      engine₀.active = some (readStatus .initial call).workflow ∧
      started = (readStatus .initial call).effects := by
  obtain ⟨engine, command, capabilities, id, hstarted⟩ := h
  obtain ⟨w, hcreate, reduction, hreduction, hactive, -, hout⟩ := start_ok hstarted
  obtain rfl := Except.ok.inj hcreate
  subst hreduction
  refine ⟨(Step.begin _ _).request (.notify (.started .upload)), ?_, hactive,
    (Outcome.ok.inj hout).symm⟩
  exact AllPlain.request (AllPlain.begin _ _) ⟨fun h => h, nofun⟩

theorem run_shown (hstart : Started started engine₀)
    (h : EngineRun (fun _ _ _ => True) engine₀ trace engine) :
    Settled (fun trace w => Asking (observe started trace) w ∧ Shown started trace)
      (Shown started) trace engine := by
  refine EngineRun.step_rule ?_ ?_ ?_ ?_ ?_ h
  -- at the start
  · obtain ⟨call, hplain, hactive, rfl⟩ := hstart.asks
    rw [settled_active hactive, Shown, observe_nil]
    refine ⟨@asking_readStatus call [] .initial, iff_of_true ?_ fun entry hmem =>
      absurd hmem List.not_mem_nil⟩
    rw [← List.nil_append (issuedBy _)]
    exact justified_append.mpr ⟨justified_nil, fun before id effect after hsplit =>
      allowed_readStatus hplain hsplit⟩
  -- an event of the host
  · intro trace engine w event _ hactive hinv _
    have hentry (P : Prop) (output : Outcome (List EffectRequest)) (hP : P ↔ ¬Misses w event) :
        P ↔ ∀ w' event', engine.active = some w' → Event.host event = .host event' →
          ¬Misses w' event' := by
      rw [hP]
      constructor
      · rintro hmisses w' event' hw' hevent'
        obtain rfl := Option.some.inj (hactive.symm.trans hw')
        obtain rfl := Event.host.inj hevent'
        exact hmisses
      · exact fun hall => hall w event hactive rfl
    rcases dispatch_cases w event (engine.context w) with ⟨call, hcall, hstep⟩ | ⟨error, hreject⟩
    · have hshown : Shown started (trace ++ [⟨engine, .host event, .ok call.effects⟩]) :=
        hinv.2.snoc (hentry _ (.ok call.effects) (hstep.allowed_iff hcall hinv.1))
      refine .inl ⟨call, hcall, ?_⟩
      rcases hstep.settled with hrunning | hended
      · refine .inl ⟨hrunning, ?_, hshown⟩
        rw [observe_snoc]
        exact hstep.asking
      · exact .inr (hended.imp fun status hstatus => ⟨hstatus, hshown⟩)
    · refine .inr ⟨w, engine.context w, error, hreject, ?_, ?_⟩
      · rw [observe_snoc]
        exact fun hphase id hid => (hinv.1 hphase id hid).append (.cons (fun h => h) .nil)
      · refine hinv.2.plain (AllPlain.nil) fun w' event' hw' hevent' hmisses => ?_
        obtain rfl := Option.some.inj (hactive.symm.trans hw')
        obtain rfl := Event.host.inj hevent'
        obtain ⟨call, hcall⟩ := @Misses.accepted _ (engine.context w) _ hmisses
        rw [hreject] at hcall
        exact nomatch congrArg Reduction.outcome hcall
  -- the workflow is cancelled
  · intro trace engine w _ hactive hinv _
    have hplain : AllPlain (cleanup (Step.begin w (engine.context w))).effects :=
      AllPlain.cleanup (AllPlain.begin _ _)
    exact ⟨_, rfl, hinv.2.plain (AllPlain.request hplain ⟨id, nofun⟩) fun _ _ _ heq => nomatch heq⟩
  -- another workflow's cancellation
  · rintro trace entry w hactive ⟨id, hinput, -⟩ _ hquiet hinv
    refine ⟨?_, hinv.2.plain (hquiet ▸ AllPlain.nil) fun _ _ _ heq => ?_⟩
    · rw [observe_snoc, observeEntry, hinput, hquiet, issuedBy_nil, List.append_nil]
      exact hinv.1
    · exact nomatch hinput.symm.trans heq
  -- after the end
  · intro trace entry hactive _ hquiet hshown
    refine hshown.plain (hquiet ▸ AllPlain.nil) fun w event hw => ?_
    exact nomatch hactive.symm.trans hw

/-- The host is told of the fallback only in a step that handles a fresh status without a sync and
with a recording pending, exactly as long as no status that follows a failed trigger reports neither. -/
theorem fallback_allowed_iff (hstart : Started started engine₀)
    (hrun : EngineRun (fun _ _ _ => True) engine₀ trace engine) :
    Justified FallbackAllowed (observe started trace) ↔ Sound trace := by
  have hsettled := run_shown hstart hrun
  cases hactive : engine.active with
  | none => exact (settled_ended hactive).mp hsettled
  | some w => exact ((settled_active hactive).mp hsettled).2

end Runs

def sampleStart : WorkflowEngine UploadHandoffWorkflow × Outcome (List EffectRequest) :=
  WorkflowEngine.start {} (UploadHandoffCommand.mk ⟨"EVFXXW67KP"⟩ ⟨.replicate 16 1⟩ ⟨"upload-1"⟩
    ⟨"destination-1"⟩) [.ble, .timer, .progress] ⟨.replicate 16 9⟩

/-- One recording is pending and the device has a Wi-Fi network. -/
def samplePending : List UInt8 := [80, 0, 0, 1, 0, 0, 0, 0, 8, 0, 0, 0, 0, 0]

/-- Nothing is pending any more. -/
def sampleIdle : List UInt8 := [80, 0, 0, 0, 0, 0, 0, 0, 8, 0, 0, 0, 0, 0]

/-- The device answers no trigger in time, but has finished the upload. -/
def sampleEvents : List Event :=
  [.host ⟨2, .ble (.readCompleted samplePending)⟩, .host ⟨3, .ble (.subscribed CHAR_TRANSFER_STATUS)⟩,
    .host ⟨4, .ble .writeCompleted⟩, .host ⟨5, .timerFired 1⟩,
    .host ⟨7, .ble (.readCompleted sampleIdle)⟩]

def sampleTrace : List (EngineEntry UploadHandoffWorkflow) :=
  (Machine.exec WorkflowEngine.dispatch [] sampleStart.1 sampleEvents).1

/-- The recording is still pending when the status is read again. -/
def sampleOffered : List (EngineEntry UploadHandoffWorkflow) :=
  (Machine.exec WorkflowEngine.dispatch [] sampleStart.1 (sampleEvents.take 4 ++
    [.host ⟨7, .ble (.readCompleted samplePending)⟩])).1

theorem started_sampleStart : Started sampleStart.2.effects sampleStart.1 :=
  ⟨{}, _, [.ble, .timer, .progress], ⟨.replicate 16 9⟩, rfl⟩

theorem sound_sampleOffered : Sound sampleOffered := by
  intro entry hentry w event hactive hinput hmisses
  obtain ⟨hphase, -, hpurpose, value, status, hkind, hparse, -, hnone⟩ := hmisses
  have hstates : ∀ entry ∈ sampleOffered,
      entry.input = .host ⟨7, .ble (.readCompleted samplePending)⟩ ∨
        entry.pre.active.map (fun w => (w.phase, w.statusPurpose)) ≠
          some (.readingStatus, .triggerFailure) := by
    decide +kernel
  rcases hstates entry hentry with hlast | hother
  · -- the status that was read reports the recording
    obtain rfl := Event.host.inj (hinput.symm.trans hlast)
    obtain rfl := BleEvent.readCompleted.inj (HostEventKind.ble.inj hkind)
    have hpending : parseDeviceStatus samplePending = .ok status → status.pendingRecordings ≠ 0 := by
      rintro ⟨⟩
      decide
    exact hpending hparse hnone
  · rw [hactive, Option.map_some, hphase, hpurpose] at hother
    exact hother rfl

theorem not_justified_sample :
    ¬Justified FallbackAllowed (observe sampleStart.2.effects sampleTrace) := by
  intro h
  have hsplit : observe sampleStart.2.effects sampleTrace =
      ((observe sampleStart.2.effects sampleTrace).take 11 ++
        [.accepted ⟨7, .ble (.readCompleted sampleIdle)⟩]) ++
      .issued 8 (.notify (.bleFallbackReady ⟨.replicate 16 1⟩ ⟨"upload-1"⟩ ⟨"destination-1"⟩)) ::
        [.issued 9 (.notify (.completed .upload))] := by decide +kernel
  obtain ⟨status, hfresh, -, hpending⟩ := h _ _ _ _ hsplit trivial
  have hidle : ∃ idle, parseDeviceStatus sampleIdle = .ok idle ∧ idle.pendingRecordings = 0 :=
    ⟨_, rfl, rfl⟩
  obtain ⟨idle, hparse, hnone⟩ := hidle
  rw [hfresh.unique .nil hparse] at hpending
  exact hpending hnone

/-- The fallback with a recording pending is allowed; the one without came from a status that
reported nothing pending. -/
theorem fallback_allowed_sample :
    Justified FallbackAllowed (observe sampleStart.2.effects sampleOffered) ∧
      ¬Sound sampleTrace := by
  have hoffered := fallback_allowed_iff started_sampleStart
    (Machine.Run.exec (Machine.allowed_true [] sampleStart.1 (sampleEvents.take 4 ++
      [.host ⟨7, .ble (.readCompleted samplePending)⟩])))
  have hmissed := fallback_allowed_iff started_sampleStart
    (Machine.Run.exec (Machine.allowed_true [] sampleStart.1 sampleEvents))
  exact ⟨hoffered.mpr sound_sampleOffered, fun hsound => not_justified_sample (hmissed.mpr hsound)⟩

theorem fallback_without_pending :
    ¬Justified FallbackAllowed (observe sampleStart.2.effects sampleTrace) :=
  not_justified_sample

end UploadHandoffWorkflow

end BotaSdk
