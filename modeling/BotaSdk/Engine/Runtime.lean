import BotaSdk.Engine.Effect
import BotaSdk.Lib.Run

/-!
# The workflow engine (`engine/runtime.rs`, `workflow/mod.rs`)

The engine is generic in the reducer it runs, as `ActiveWorkflow` treats every variant alike.
Reducers mutate `&mut self` and the request counter before they return, so a rejected call still
returns the state it left behind.
-/

namespace BotaSdk

def U64_MAX : Nat := 18446744073709551615

/-- `u64::saturating_add`. -/
def saturatingAdd (a b : Nat) : Nat := min (a + b) U64_MAX

structure WorkflowContext where
  nextRequestId : Nat
  operation : Operation
  cancellationId : CancellationId
  deriving DecidableEq

def WorkflowContext.advance (context : WorkflowContext) : WorkflowContext :=
  { context with nextRequestId := saturatingAdd context.nextRequestId 1 }

@[simp] theorem WorkflowContext.advance_operation (context : WorkflowContext) :
    context.advance.operation = context.operation := rfl
@[simp] theorem WorkflowContext.advance_cancellationId (context : WorkflowContext) :
    context.advance.cancellationId = context.cancellationId := rfl

/-! ## A reducer call in progress -/

/-- A reducer call: the workflow and the context it mutates, and the effects requested so far. -/
structure Step (W : Type) where
  workflow : W
  context : WorkflowContext
  effects : List EffectRequest

namespace Step

variable {W : Type}

def begin (workflow : W) (context : WorkflowContext) : Step W :=
  { workflow, context, effects := [] }

def update (step : Step W) (f : W → W) : Step W :=
  { step with workflow := f step.workflow }

/-- `context.request(effect)`; `track` stores the identifier of the new request. -/
def request (step : Step W) (effect : Effect) (track : RequestId → W → W := fun _ w => w) :
    Step W where
  workflow := track step.context.nextRequestId step.workflow
  context := step.context.advance
  effects := step.effects ++ [{
    requestId := step.context.nextRequestId
    operation := step.context.operation
    cancellationId := step.context.cancellationId
    effect }]

/-- The request that `request` would add. -/
def next (step : Step W) (effect : Effect) : EffectRequest where
  requestId := step.context.nextRequestId
  operation := step.context.operation
  cancellationId := step.context.cancellationId
  effect := effect

/-- A request that is made now and returned among the effects later. -/
def allocate (step : Step W) (track : RequestId → W → W) : Step W where
  workflow := track step.context.nextRequestId step.workflow
  context := step.context.advance
  effects := step.effects

def push (step : Step W) (request : EffectRequest) : Step W :=
  { step with effects := step.effects ++ [request] }

/-- The effects requested so far, without their identifiers. -/
def requested (step : Step W) : List Effect :=
  step.effects.map (·.effect)

variable (step : Step W) (f : W → W) (effect : Effect) (track : RequestId → W → W)

@[simp] theorem begin_workflow (workflow : W) (context : WorkflowContext) :
    (begin workflow context).workflow = workflow := rfl
@[simp] theorem begin_context (workflow : W) (context : WorkflowContext) :
    (begin workflow context).context = context := rfl
@[simp] theorem begin_effects (workflow : W) (context : WorkflowContext) :
    (begin workflow context).effects = [] := rfl
@[simp] theorem begin_requested (workflow : W) (context : WorkflowContext) :
    (begin workflow context).requested = [] := rfl
@[simp] theorem update_workflow : (step.update f).workflow = f step.workflow := rfl
@[simp] theorem update_context : (step.update f).context = step.context := rfl
@[simp] theorem update_effects : (step.update f).effects = step.effects := rfl
@[simp] theorem update_requested : (step.update f).requested = step.requested := rfl
@[simp] theorem request_workflow :
    (step.request effect track).workflow = track step.context.nextRequestId step.workflow := rfl
@[simp] theorem request_context :
    (step.request effect track).context = step.context.advance := rfl
@[simp] theorem request_requested :
    (step.request effect track).requested = step.requested ++ [effect] := by
  rw [requested, request, List.map_append]
  rfl

end Step

/-- What a reducer call leaves behind and returns. -/
structure Reduction (W : Type) where
  workflow : W
  context : WorkflowContext
  outcome : Outcome (List EffectRequest)

namespace Reduction

variable {W : Type}

def ok (step : Step W) : Reduction W :=
  { workflow := step.workflow, context := step.context, outcome := .ok step.effects }

def err (workflow : W) (context : WorkflowContext) (error : DeviceSdkError) : Reduction W :=
  { workflow, context, outcome := .err error }

def panic (workflow : W) (context : WorkflowContext) : Reduction W :=
  { workflow, context, outcome := .panicked }

@[simp] theorem ok_workflow (step : Step W) : (ok step).workflow = step.workflow := rfl
@[simp] theorem ok_context (step : Step W) : (ok step).context = step.context := rfl
@[simp] theorem ok_outcome (step : Step W) : (ok step).outcome = .ok step.effects := rfl

theorem ok_injective {step step' : Step W} (h : ok step = ok step') : step = step' := by
  cases step
  cases step'
  simp only [ok, mk.injEq, Outcome.ok.injEq] at h
  simp only [h]

variable (workflow : W) (context : WorkflowContext) (error : DeviceSdkError)

@[simp] theorem err_workflow : (err workflow context error).workflow = workflow := rfl
@[simp] theorem err_context : (err workflow context error).context = context := rfl
@[simp] theorem err_outcome : (err workflow context error).outcome = .err error := rfl
@[simp] theorem panic_workflow : (panic workflow context).workflow = workflow := rfl
@[simp] theorem panic_context : (panic workflow context).context = context := rfl
@[simp] theorem panic_outcome : (panic workflow context).outcome = .panicked := rfl

end Reduction

/-- `trait WorkflowReducer`, with the engine's `operation()` of the variant. -/
class WorkflowReducer (W : Type) where
  start : W → WorkflowContext → Reduction W
  dispatch : W → HostEvent → WorkflowContext → Reduction W
  cancel : W → WorkflowContext → Reduction W
  terminalStatus : W → Outcome (Option WorkflowStatus)
  cancellationId : W → CancellationId
  operation : W → Operation

inductive Capability where
  | ble
  | timer
  | persistence
  | secureStorage
  | networkTransfer
  | progress
  | hostMaterial
  | recordingSink
  | firmwareBlob
  deriving DecidableEq

/-- The text `{capability:?}`. -/
def Capability.debug : Capability → String
  | .ble => "Ble"
  | .timer => "Timer"
  | .persistence => "Persistence"
  | .secureStorage => "SecureStorage"
  | .networkTransfer => "NetworkTransfer"
  | .progress => "Progress"
  | .hostMaterial => "HostMaterial"
  | .recordingSink => "RecordingSink"
  | .firmwareBlob => "FirmwareBlob"

/-- The commands `C` that start a reducer `W`. -/
class WorkflowCommand (C : Type) (W : outParam Type) where
  operation : C → Operation
  requiredCapabilitySlice : C → List Capability
  create : C → CancellationId → Except DeviceSdkError W

/-- `Command::authorize`: the first missing capability rejects the command. -/
def authorize {C W : Type} [WorkflowCommand C W] (command : C) (capabilities : List Capability) :
    Except DeviceSdkError Unit :=
  match (WorkflowCommand.requiredCapabilitySlice command).find? (· ∉ capabilities) with
  | some capability =>
    .error ((DeviceSdkError.new .unsupportedCapability (WorkflowCommand.operation command)
      false).withDetail s!"host does not provide {capability.debug}")
  | none => .ok ()

structure WorkflowEngine (W : Type) where
  active : Option W := none
  status : WorkflowStatus := .idle
  nextRequestId : Nat := 1
  terminalCancellationId : Option CancellationId := none

def unexpectedEvent (operation : Operation) (detail : String) : DeviceSdkError :=
  (DeviceSdkError.new .unexpectedEvent operation false).withDetail detail

namespace WorkflowEngine

open WorkflowReducer

variable {C W : Type} [WorkflowReducer W]

def start [WorkflowCommand C W] (engine : WorkflowEngine W) (command : C)
    (capabilities : List Capability) (cancellationId : CancellationId) :
    WorkflowEngine W × Outcome (List EffectRequest) :=
  match engine.active with
  | some active =>
    (engine, .err ((DeviceSdkError.new .operationInProgress (WorkflowCommand.operation command)
      false).withDetail s!"{(operation active).asStr} already owns the workflow engine"))
  | none =>
    match authorize command capabilities with
    | .error error => (engine, .err error)
    | .ok () =>
      match WorkflowCommand.create command cancellationId with
      | .error error => (engine, .err error)
      | .ok workflow =>
        let operation := WorkflowCommand.operation command
        let reduction := WorkflowReducer.start workflow
          { nextRequestId := engine.nextRequestId, operation, cancellationId }
        ({ active := some reduction.workflow
           status := .running operation cancellationId
           nextRequestId := reduction.context.nextRequestId
           terminalCancellationId := none }, reduction.outcome)

/-- The context of the next call of the active workflow. -/
def context (engine : WorkflowEngine W) (active : W) : WorkflowContext :=
  { nextRequestId := engine.nextRequestId
    operation := operation active
    cancellationId := cancellationId active }

/-- The engine after a dispatch of its active workflow returned. -/
def settle (engine : WorkflowEngine W) (reduction : Reduction W) :
    WorkflowEngine W × Outcome (List EffectRequest) :=
  let engine := { engine with
    active := some reduction.workflow, nextRequestId := reduction.context.nextRequestId }
  match reduction.outcome with
  | .ok effects =>
    match terminalStatus reduction.workflow with
    | .ok (some status) => ({ engine with status, active := none }, .ok effects)
    | .ok none => (engine, .ok effects)
    | .err error => (engine, .err error)
    | .panicked => (engine, .panicked)
  | outcome => (engine, outcome)

def cancel (engine : WorkflowEngine W) (cancellationId : CancellationId) :
    WorkflowEngine W × Outcome (List EffectRequest) :=
  match engine.active with
  | none =>
    if engine.terminalCancellationId = some cancellationId then (engine, .ok [])
    else (engine, .err (unexpectedEvent .unknown "no workflow is active"))
  | some active =>
    if WorkflowReducer.cancellationId active = cancellationId then
      let reduction := WorkflowReducer.cancel active (engine.context active)
      match reduction.outcome with
      | .ok effects =>
        ({ active := none
           status := .cancelled (operation active)
           nextRequestId := reduction.context.nextRequestId
           terminalCancellationId := some cancellationId }, .ok effects)
      | outcome =>
        ({ engine with
           active := some reduction.workflow
           nextRequestId := reduction.context.nextRequestId }, outcome)
    else
      (engine, .err (unexpectedEvent (operation active)
        "cancellation ID does not own the active workflow"))

def dispatch (engine : WorkflowEngine W) (event : Event) :
    WorkflowEngine W × Outcome (List EffectRequest) :=
  match event with
  | .cancelled cancellationId => engine.cancel cancellationId
  | .host hostEvent =>
    match engine.active with
    | none => (engine, .err (unexpectedEvent .unknown "no workflow is active"))
    | some active => engine.settle (WorkflowReducer.dispatch active hostEvent (engine.context active))

end WorkflowEngine

section Dispatch

open WorkflowReducer WorkflowEngine

variable {W : Type} [WorkflowReducer W] {engine : WorkflowEngine W} {active : W}

/-- A successful start runs a freshly created workflow. -/
theorem start_ok {C : Type} [WorkflowCommand C W] {command : C} {capabilities : List Capability}
    {id : CancellationId} {engine₀ : WorkflowEngine W} {effects : List EffectRequest}
    (h : engine.start command capabilities id = (engine₀, .ok effects)) :
    ∃ workflow, WorkflowCommand.create command id = .ok workflow ∧
      ∃ reduction, reduction = WorkflowReducer.start workflow
          { nextRequestId := engine.nextRequestId
            operation := WorkflowCommand.operation command, cancellationId := id } ∧
        engine₀.active = some reduction.workflow ∧
        engine₀.nextRequestId = reduction.context.nextRequestId ∧
        reduction.outcome = .ok effects := by
  rw [WorkflowEngine.start] at h
  split at h
  · exact nomatch h
  · split at h
    · exact nomatch h
    · split at h
      · exact nomatch h
      · rename_i workflow hcreate
        obtain ⟨rfl, hout⟩ := Prod.mk.inj h
        exact ⟨workflow, hcreate, _, rfl, rfl, rfl, hout⟩

theorem start_status {C : Type} [WorkflowCommand C W] {command : C}
    {capabilities : List Capability} {id : CancellationId} {engine₀ : WorkflowEngine W}
    {effects : List EffectRequest}
    (h : engine.start command capabilities id = (engine₀, .ok effects)) :
    engine₀.status = .running (WorkflowCommand.operation command) id := by
  rw [WorkflowEngine.start] at h
  split at h
  · exact nomatch h
  · split at h
    · exact nomatch h
    · split at h
      · exact nomatch h
      · obtain ⟨rfl, -⟩ := Prod.mk.inj h
        rfl

/-- A cancellation leaves the status or marks the workflow cancelled. -/
theorem cancel_status (engine : WorkflowEngine W) (id : CancellationId) :
    (engine.dispatch (.cancelled id)).1.status = engine.status ∨
      ∃ operation, (engine.dispatch (.cancelled id)).1.status = .cancelled operation := by
  rw [WorkflowEngine.dispatch, WorkflowEngine.cancel]
  split
  · split <;> exact .inl rfl
  · split
    · simp only
      split
      · exact .inr ⟨_, rfl⟩
      · exact .inl rfl
    · exact .inl rfl

theorem dispatch_idle (h : engine.active = none) (event : HostEvent) :
    engine.dispatch (.host event) =
      (engine, .err (unexpectedEvent .unknown "no workflow is active")) := by
  rw [WorkflowEngine.dispatch, h]

theorem dispatch_active (h : engine.active = some active) (event : HostEvent) :
    engine.dispatch (.host event) =
      engine.settle (WorkflowReducer.dispatch active event (engine.context active)) := by
  rw [WorkflowEngine.dispatch, h]

theorem settle_running {reduction : Reduction W} {effects : List EffectRequest}
    (hok : reduction.outcome = .ok effects) (hrun : terminalStatus reduction.workflow = .ok none) :
    engine.settle reduction =
      ({ engine with
         active := some reduction.workflow
         nextRequestId := reduction.context.nextRequestId }, .ok effects) := by
  simp only [settle, hok, hrun]

theorem settle_ended {reduction : Reduction W} {effects : List EffectRequest}
    {status : WorkflowStatus} (hok : reduction.outcome = .ok effects)
    (hend : terminalStatus reduction.workflow = .ok (some status)) :
    engine.settle reduction =
      ({ engine with
         active := none, status, nextRequestId := reduction.context.nextRequestId },
        .ok effects) := by
  simp only [settle, hok, hend]

theorem settle_err {reduction : Reduction W} {error : DeviceSdkError}
    (herr : reduction.outcome = .err error) :
    engine.settle reduction =
      ({ engine with
         active := some reduction.workflow
         nextRequestId := reduction.context.nextRequestId }, .err error) := by
  simp only [settle, herr]

/-- A reduction that returns no effects leaves the engine active. -/
theorem settle_unanswered {reduction : Reduction W}
    (h : ∀ effects, reduction.outcome ≠ .ok effects) :
    engine.settle reduction =
      ({ engine with
         active := some reduction.workflow
         nextRequestId := reduction.context.nextRequestId }, reduction.outcome) := by
  rw [settle]
  cases hout : reduction.outcome with
  | ok effects => exact absurd hout (h effects)
  | err error => rfl
  | panicked => rfl

theorem cancel_active (h : engine.active = some active) {effects : List EffectRequest}
    (hok : (WorkflowReducer.cancel active (engine.context active)).outcome = .ok effects) :
    engine.dispatch (.cancelled (cancellationId active)) =
      ({ active := none
         status := .cancelled (operation active)
         nextRequestId :=
          (WorkflowReducer.cancel active (engine.context active)).context.nextRequestId
         terminalCancellationId := some (cancellationId active) }, .ok effects) := by
  simp only [WorkflowEngine.dispatch, WorkflowEngine.cancel, h, if_true, hok]

/-- A cancellation with a foreign identifier changes nothing and requests nothing. -/
theorem cancel_foreign (h : engine.active = some active) {id : CancellationId}
    (hid : cancellationId active ≠ id) :
    (engine.dispatch (.cancelled id)).1 = engine ∧
      (engine.dispatch (.cancelled id)).2.effects = [] := by
  simp [WorkflowEngine.dispatch, WorkflowEngine.cancel, h, hid]

/-- Once the workflow has ended, no event changes the engine or requests anything. -/
theorem dispatch_ended (h : engine.active = none) (event : Event) :
    (engine.dispatch event).1 = engine ∧ (engine.dispatch event).2.effects = [] := by
  cases event with
  | host event => simp [dispatch_idle h]
  | cancelled id =>
    simp only [WorkflowEngine.dispatch, WorkflowEngine.cancel, h]
    split <;> simp

end Dispatch

/-! ## Runs of the engine -/

/-- One event of an engine run, with the engine before it and the outcome of its dispatch. -/
abbrev EngineEntry (W : Type) := Machine.Entry (WorkflowEngine W) Event (Outcome (List EffectRequest))

/-- Runs of the engine over host events and cancellations. -/
abbrev EngineRun {W : Type} [WorkflowReducer W]
    (ok : List (EngineEntry W) → WorkflowEngine W → Event → Prop) (engine : WorkflowEngine W) :
    List (EngineEntry W) → WorkflowEngine W → Prop :=
  Machine.Run WorkflowEngine.dispatch ok engine

/-- The requests handed to the host along a run, oldest first. -/
def emitted {W : Type} (trace : List (EngineEntry W)) : List EffectRequest :=
  trace.flatMap (·.output.effects)

/-- The effects requested along a run, without their identifiers. -/
def requestedIn {W : Type} (trace : List (EngineEntry W)) : List Effect :=
  (emitted trace).map (·.effect)

section Emitted

variable {W : Type}

@[simp] theorem requestedIn_append (front back : List (EngineEntry W)) :
    requestedIn (front ++ back) = requestedIn front ++ requestedIn back := by
  rw [requestedIn, emitted, List.flatMap_append, List.map_append]
  rfl

@[simp] theorem requestedIn_singleton (entry : EngineEntry W) :
    requestedIn [entry] = entry.output.effects.map (·.effect) := by
  rw [requestedIn, emitted, List.flatMap_singleton]

@[simp] theorem emitted_nil : emitted ([] : List (EngineEntry W)) = [] := rfl

@[simp] theorem emitted_append (front back : List (EngineEntry W)) :
    emitted (front ++ back) = emitted front ++ emitted back :=
  List.flatMap_append

@[simp] theorem emitted_singleton (entry : EngineEntry W) :
    emitted [entry] = entry.output.effects :=
  List.flatMap_singleton ..

end Emitted

section Rule

open WorkflowReducer

variable {W : Type} [WorkflowReducer W]

/-- `I` of the workflow while it is active, `J` of the history once it has ended. -/
def Settled (I : List (EngineEntry W) → W → Prop) (J : List (EngineEntry W) → Prop)
    (trace : List (EngineEntry W)) (engine : WorkflowEngine W) : Prop :=
  match engine.active with
  | some active => I trace active
  | none => J trace

variable {I : List (EngineEntry W) → W → Prop} {J : List (EngineEntry W) → Prop}
  {trace : List (EngineEntry W)} {engine engine₀ : WorkflowEngine W}

omit [WorkflowReducer W] in
theorem settled_active {active : W} (h : engine.active = some active) :
    Settled I J trace engine ↔ I trace active := by
  rw [Settled, h]

omit [WorkflowReducer W] in
theorem settled_ended (h : engine.active = none) : Settled I J trace engine ↔ J trace := by
  rw [Settled, h]

/-- The invariant rule for engine runs: only events of the active workflow and its own cancellation
need an argument; every other event must merely be ignored by `I` and `J`. -/
theorem EngineRun.rule {ok : List (EngineEntry W) → WorkflowEngine W → Event → Prop}
    (init : Settled I J [] engine₀)
    (host : ∀ trace engine active event, EngineRun ok engine₀ trace engine →
      engine.active = some active → I trace active → ok trace engine (.host event) →
      Settled I J (trace ++ [⟨engine, .host event, (engine.dispatch (.host event)).2⟩])
        (engine.dispatch (.host event)).1)
    (cancelled : ∀ trace engine active, EngineRun ok engine₀ trace engine →
      engine.active = some active → I trace active →
      ok trace engine (.cancelled (cancellationId active)) →
      Settled I J (trace ++ [⟨engine, .cancelled (cancellationId active),
          (engine.dispatch (.cancelled (cancellationId active))).2⟩])
        (engine.dispatch (.cancelled (cancellationId active))).1)
    (foreign : ∀ (trace : List (EngineEntry W)) (entry : EngineEntry W) (active : W),
      entry.pre.active = some active → (∃ id, entry.input = .cancelled id ∧ cancellationId active ≠ id) →
      ok trace entry.pre entry.input → entry.output.effects = [] → I trace active →
      I (trace ++ [entry]) active)
    (ended : ∀ (trace : List (EngineEntry W)) (entry : EngineEntry W), entry.pre.active = none →
      ok trace entry.pre entry.input → entry.output.effects = [] → J trace → J (trace ++ [entry]))
    (h : EngineRun ok engine₀ trace engine) : Settled I J trace engine := by
  refine Machine.Run.invariant (Settled I J) init (fun trace engine event hrun hinv hok => ?_) h
  cases hact : engine.active with
  | none =>
    obtain ⟨hsame, hquiet⟩ := dispatch_ended hact event
    rw [hsame, settled_ended hact]
    exact ended _ _ hact hok hquiet ((settled_ended hact).mp hinv)
  | some active =>
    rw [settled_active hact] at hinv
    cases event with
    | host event => exact host _ _ _ _ hrun hact hinv hok
    | cancelled id =>
      by_cases hid : cancellationId active = id
      · subst hid
        exact cancelled _ _ _ hrun hact hinv hok
      · obtain ⟨hsame, hquiet⟩ := cancel_foreign hact hid
        rw [hsame, settled_active hact]
        exact foreign _ _ _ hact ⟨id, rfl, hid⟩ hok hquiet hinv

/-- The same rule for a reducer whose calls return: an accepted event leaves it running or ends it,
a rejected one leaves it running, and its cancellation is always granted. -/
theorem EngineRun.step_rule {ok : List (EngineEntry W) → WorkflowEngine W → Event → Prop}
    (init : Settled I J [] engine₀)
    (host : ∀ trace engine active event, EngineRun ok engine₀ trace engine →
      engine.active = some active → I trace active → ok trace engine (.host event) →
      (∃ call : Step W, dispatch active event (engine.context active) = .ok call ∧
        ((terminalStatus call.workflow = .ok none ∧
            I (trace ++ [⟨engine, .host event, .ok call.effects⟩]) call.workflow) ∨
          ∃ status, terminalStatus call.workflow = .ok (some status) ∧
            J (trace ++ [⟨engine, .host event, .ok call.effects⟩]))) ∨
      ∃ workflow context error,
        dispatch active event (engine.context active) = .err workflow context error ∧
        I (trace ++ [⟨engine, .host event, .err error⟩]) workflow)
    (cancelled : ∀ trace engine active, EngineRun ok engine₀ trace engine →
      engine.active = some active → I trace active →
      ok trace engine (.cancelled (cancellationId active)) →
      ∃ call : Step W, cancel active (engine.context active) = .ok call ∧
        J (trace ++ [⟨engine, .cancelled (cancellationId active), .ok call.effects⟩]))
    (foreign : ∀ (trace : List (EngineEntry W)) (entry : EngineEntry W) (active : W),
      entry.pre.active = some active → (∃ id, entry.input = .cancelled id ∧ cancellationId active ≠ id) →
      ok trace entry.pre entry.input → entry.output.effects = [] → I trace active →
      I (trace ++ [entry]) active)
    (ended : ∀ (trace : List (EngineEntry W)) (entry : EngineEntry W), entry.pre.active = none →
      ok trace entry.pre entry.input → entry.output.effects = [] → J trace → J (trace ++ [entry]))
    (h : EngineRun ok engine₀ trace engine) : Settled I J trace engine := by
  refine EngineRun.rule init ?_ ?_ foreign ended h
  · intro trace engine active event hrun hact hinv hok
    rw [dispatch_active hact]
    rcases host trace engine active event hrun hact hinv hok with
      ⟨call, hcall, ⟨hrunning, hkeep⟩ | ⟨status, hend, hkeep⟩⟩ |
        ⟨workflow, context, error, hreject, hkeep⟩
    · rw [hcall, settle_running rfl hrunning, settled_active rfl]
      exact hkeep
    · rw [hcall, settle_ended rfl hend, settled_ended rfl]
      exact hkeep
    · rw [hreject, settle_err rfl, settled_active rfl]
      exact hkeep
  · intro trace engine active hrun hact hinv hok
    obtain ⟨call, hcall, hkeep⟩ := cancelled trace engine active hrun hact hinv hok
    have hout : (cancel active (engine.context active)).outcome = .ok call.effects := by
      rw [hcall]
      rfl
    rw [cancel_active hact hout, settled_ended rfl]
    exact hkeep

/-- A run that is over was cancelled or ended by one of its events, with that event's status. -/
theorem EngineRun.over {ok : List (EngineEntry W) → WorkflowEngine W → Event → Prop}
    (h : EngineRun ok engine₀ trace engine) (hstart : engine₀.active ≠ none)
    (hend : engine.active = none) :
    ∃ before entry after active, trace = before ++ entry :: after ∧
      EngineRun ok engine₀ before entry.pre ∧ entry.pre.active = some active ∧
      (entry.input = .cancelled (cancellationId active) ∨
        ∃ event effects, entry.input = .host event ∧
          (dispatch active event (entry.pre.context active)).outcome = .ok effects ∧
          terminalStatus (dispatch active event (entry.pre.context active)).workflow =
            .ok (some engine.status)) := by
  -- on the run: the event after which no workflow is active is the one that ended it
  induction h with
  | nil => exact absurd hend hstart
  | @snoc trace engine event hrun hok ih =>
    cases hact : engine.active with
    | none =>
      rw [(dispatch_ended hact event).1]
      obtain ⟨before, entry, after, active, rfl, hentry⟩ := ih hact
      exact ⟨before, entry, after ++ [⟨engine, event, (engine.dispatch event).2⟩], active,
        by rw [List.append_assoc, List.cons_append], hentry⟩
    | some active =>
      refine ⟨trace, ⟨engine, event, (engine.dispatch event).2⟩, [], active, rfl, hrun, hact, ?_⟩
      cases event with
      | cancelled id =>
        by_cases hid : cancellationId active = id
        · exact .inl (congrArg Event.cancelled hid.symm)
        · rw [(cancel_foreign hact hid).1] at hend
          exact nomatch hact.symm.trans hend
      | host event =>
        right
        rw [dispatch_active hact] at hend ⊢
        generalize hred : dispatch active event (engine.context active) = reduction at hend ⊢
        rw [WorkflowEngine.settle] at hend ⊢
        cases hout : reduction.outcome with
        | ok effects =>
          simp only [hout] at hend ⊢
          cases hterminal : terminalStatus reduction.workflow with
          | ok status =>
            cases status with
            | none =>
              simp only [hterminal] at hend
              exact nomatch hend
            | some status => exact ⟨event, effects, rfl, by rw [hred, hout], by rw [hred]; exact hterminal⟩
          | err error =>
            simp only [hterminal] at hend
            exact nomatch hend
          | panicked =>
            simp only [hterminal] at hend
            exact nomatch hend
        | err error =>
          simp only [hout] at hend
          exact nomatch hend
        | panicked =>
          simp only [hout] at hend
          exact nomatch hend

end Rule

end BotaSdk
