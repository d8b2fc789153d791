import BotaSdk.Workflow.FactoryResetSteps

/-!
# The order of a factory reset

The receipt lets the device forget its result, so it waits for two callbacks that race each other:
the journal's, of the save, and the opcode's own.
-/

namespace BotaSdk

open FactoryReset History Protocol

namespace FactoryReset

def Mode.commandId : Mode → FactoryResetCommandId
  | .start commandId _ | .resume commandId _ => commandId

/-- The reset was authorized by a grant of this run. -/
def Mode.Fresh : Mode → Prop
  | .start .. => True
  | .resume .. => False

/-- The result that the journal of a resumed reset holds. -/
def Mode.expectedResult : Mode → Option FactoryResetResult
  | .start .. => none
  | .resume _ expectedResult => expectedResult

end FactoryReset

namespace FactoryResetWorkflow

abbrev Trace := List (EngineEntry FactoryResetWorkflow)

/-! ## Critical effects -/

/-- The destructive opcode: its code and the four bytes of the binding generation. -/
def IsOpcode (effect : Effect) : Prop :=
  ∃ bindingGeneration, bindingGeneration.length = 4 ∧ effect = opcodeEffect bindingGeneration

/-- The effects that must not be repeated or come out of order. -/
inductive Critical : Effect → Prop
  | opcode {effect : Effect} : IsOpcode effect → Critical effect
  | receipt : Critical receiptEffect
  | delete (commandId : FactoryResetCommandId) :
      Critical (.persistence (.deleteFactoryResetResult commandId))

theorem commandEffect_inj {payload payload' : List UInt8} :
    commandEffect payload = commandEffect payload' ↔ payload = payload' := by
  simp [commandEffect]

theorem not_opcode_of_length {payload : List UInt8} (h : payload.length ≠ 5) :
    ¬IsOpcode (commandEffect payload) := by
  rintro ⟨bindingGeneration, hlength, heq⟩
  rw [opcodeEffect, commandEffect_inj] at heq
  rw [heq, List.length_cons, hlength] at h
  exact h rfl

theorem not_opcode_receipt : ¬IsOpcode receiptEffect :=
  not_opcode_of_length (by decide)

/-- A critical effect writes at most five bytes, or deletes the journal entry. -/
theorem not_critical_of_length {payload : List UInt8} (h : 5 < payload.length) :
    ¬Critical (commandEffect payload) := by
  intro hcritical
  generalize heq : commandEffect payload = effect at hcritical
  cases hcritical with
  | opcode hopcode =>
    subst heq
    exact not_opcode_of_length (Nat.ne_of_gt h) hopcode
  | receipt =>
    rw [receiptEffect, commandEffect_inj] at heq
    rw [heq] at h
    exact absurd h (by decide)
  | delete commandId => exact nomatch heq

/-- What the workflow requests besides its three command writes and the deletion. -/
inductive Auxiliary : Effect → Prop
  | timer (effect : TimerEffect) : Auxiliary (.timer effect)
  | notify (notification : WorkflowNotification) : Auxiliary (.notify notification)
  | hostMaterial (effect : HostMaterialEffect) : Auxiliary (.hostMaterial effect)
  | read (service characteristic : String) : Auxiliary (.ble (.read service characteristic))
  | subscribe : Auxiliary subscribeEffect
  | unsubscribe : Auxiliary unsubscribeEffect
  | checkpoint (phase : CheckpointPhase) (device : DeviceSerialNumber) :
      Auxiliary (checkpointEffect phase device)
  | save (result : DurableFactoryResetResult) :
      Auxiliary (.persistence (.saveFactoryResetResult result))
  | deleteCheckpoint : Auxiliary (.persistence .deleteCheckpoint)

theorem Auxiliary.not_critical {effect : Effect} (h : Auxiliary effect) : ¬Critical effect := by
  intro hcritical
  cases hcritical with
  | opcode hopcode =>
    obtain ⟨bindingGeneration, -, heq⟩ := hopcode
    cases h <;> exact nomatch heq
  | receipt => generalize heq : receiptEffect = effect at h; cases h <;> exact nomatch heq
  | delete => cases h

/-! ## History -/

section Asked

variable (started : List EffectRequest)

/-- The grant was written under request `id`. -/
def GrantAsked (trace : Trace) (id : RequestId) : Prop :=
  ∃ grant, grant.length = FACTORY_RESET_GRANT_LENGTH ∧
    Issued started (commandEffect grant) trace id

def OpcodeAsked (trace : Trace) (id : RequestId) : Prop :=
  ∃ effect, IsOpcode effect ∧ Issued started effect trace id

/-- The opcode's own callback was received. -/
def OpcodeSettled (trace : Trace) : Prop :=
  ∃ answer, IsCallback answer ∧ Answered (OpcodeAsked started) (.ble answer) trace

/-- The device's success on the run's subscription decoded to `result`, whose save was then issued
as request `id`. -/
def SaveAsked (result : DurableFactoryResetResult) (trace : Trace) (id : RequestId) : Prop :=
  ∃ value, value.head? = some PROVISIONING_SUCCESS ∧
    parseFactoryResetResult value = .ok result.result ∧
    Followed (Issued started subscribeEffect)
      (.ble (.notification CHAR_PROVISIONING_RESULT value))
      (.persistence (.saveFactoryResetResult result)) trace id

def ResultSaved (result : DurableFactoryResetResult) (trace : Trace) : Prop :=
  Answered (SaveAsked started result) .factoryResetResultSaved trace

end Asked

/-- The entry fails the reset, times it out or cancels it. -/
inductive Stopped (entry : EngineEntry FactoryResetWorkflow) : Prop
  | failed {id : RequestId} {error : DeviceSdkError} :
      (id, .notify (.failed error)) ∈ issues entry.output.effects → Stopped entry
  | timedOut {id timerId : RequestId} : Accepted entry ⟨id, .timerFired timerId⟩ → Stopped entry
  | cancelled {w : FactoryResetWorkflow} :
      entry.pre.active = some w → entry.input = .cancelled w.cancellationId → Stopped entry

/-- What an entry may issue, given the history before it. -/
structure Ordered (mode : Mode) (started : List EffectRequest) (before : Trace)
    (entry : EngineEntry FactoryResetWorkflow) : Prop where
  receipt : ∀ id, (id, receiptEffect) ∈ issues entry.output.effects →
    ∃ result, ResultSaved started ⟨mode.commandId, result⟩ (before ++ [entry]) ∧
      (mode.Fresh → OpcodeSettled started (before ++ [entry])) ∧
      ∀ expected, mode.expectedResult = some expected → result = expected
  delete : ∀ id commandId,
    (id, .persistence (.deleteFactoryResetResult commandId)) ∈ issues entry.output.effects →
    Answered (Issued started receiptEffect) (.ble .writeCompleted) (before ++ [entry])
  opcode : ∀ id effect, IsOpcode effect → (id, effect) ∈ issues entry.output.effects →
    mode.Fresh ∧ Answered (GrantAsked started) (.ble .writeCompleted) (before ++ [entry])
  stopped : Stopped entry → ∀ issue ∈ issues entry.output.effects, ¬Critical issue.2
  quiet : (∃ e ∈ before, Stopped e) → entry.output.effects = []

/-- No opcode has been written. -/
def NoOpcode (started : List EffectRequest) (trace : Trace) : Prop :=
  ∀ issue ∈ issues (started ++ emitted trace), ¬IsOpcode issue.2

/-- The opcode has been written at most once. -/
def OneOpcode (started : List EffectRequest) (trace : Trace) : Prop :=
  (issues (started ++ emitted trace)).Pairwise fun a b => ¬(IsOpcode a.2 ∧ IsOpcode b.2)

section Asked

variable {started : List EffectRequest} {trace : Trace}
  {entry : EngineEntry FactoryResetWorkflow} {id : RequestId} {result : DurableFactoryResetResult}

theorem GrantAsked.append (h : GrantAsked started trace id) (rest : Trace) :
    GrantAsked started (trace ++ rest) id := by
  obtain ⟨grant, hlength, hissued⟩ := h
  exact ⟨grant, hlength, hissued.append rest⟩

theorem OpcodeAsked.append (h : OpcodeAsked started trace id) (rest : Trace) :
    OpcodeAsked started (trace ++ rest) id := by
  obtain ⟨effect, hopcode, hissued⟩ := h
  exact ⟨effect, hopcode, hissued.append rest⟩

theorem OpcodeSettled.append (h : OpcodeSettled started trace) (rest : Trace) :
    OpcodeSettled started (trace ++ rest) := by
  obtain ⟨answer, hcallback, hanswered⟩ := h
  exact ⟨answer, hcallback, hanswered.append rest⟩

theorem SaveAsked.append (h : SaveAsked started result trace id) (rest : Trace) :
    SaveAsked started result (trace ++ rest) id := by
  obtain ⟨value, hhead, hparse, hfollowed⟩ := h
  exact ⟨value, hhead, hparse, hfollowed.append rest⟩

theorem NoOpcode.one (h : NoOpcode started trace) : OneOpcode started trace :=
  List.pairwise_of_forall_mem_list fun a ha _ _ hboth => h a ha hboth.1

theorem NoOpcode.snoc (h : NoOpcode started trace)
    (hnone : ∀ issue ∈ issues entry.output.effects, ¬IsOpcode issue.2) :
    NoOpcode started (trace ++ [entry]) := by
  intro issue hissue
  rw [issues_snoc] at hissue
  rcases List.mem_append.mp hissue with hissue | hissue
  · exact h issue hissue
  · exact hnone issue hissue

theorem OneOpcode.snoc (h : OneOpcode started trace)
    (hnone : ∀ issue ∈ issues entry.output.effects, ¬IsOpcode issue.2) :
    OneOpcode started (trace ++ [entry]) := by
  rw [OneOpcode, issues_snoc, List.pairwise_append]
  refine ⟨h, List.pairwise_of_forall_mem_list fun a ha _ _ hboth => hnone a ha hboth.1, ?_⟩
  exact fun a _ b hb hboth => hnone b hb hboth.2

theorem NoOpcode.first (h : NoOpcode started trace) {issue : RequestId × Effect}
    (hissues : issues entry.output.effects = [issue]) : OneOpcode started (trace ++ [entry]) := by
  rw [OneOpcode, issues_snoc, hissues, List.pairwise_append]
  exact ⟨h.one, List.pairwise_singleton _ _, fun a ha b _ hboth => h a ha hboth.1⟩

end Asked

/-! ## What a transition issues -/

section Issues

variable {w w' : FactoryResetWorkflow} {n m : RequestId} {event : HostEvent}
  {effects : List (RequestId × Effect)}

theorem auxiliary_unsubscribe {issue : RequestId × Effect} (h : issue ∈ unsubscribeIssues n w) :
    Auxiliary issue.2 := by
  rw [unsubscribeIssues] at h
  split at h
  · exact absurd h List.not_mem_nil
  · obtain rfl := List.mem_singleton.mp h
    exact .unsubscribe

theorem auxiliary_cleanup {issue : RequestId × Effect} (h : issue ∈ cleanupIssues n m w) :
    Auxiliary issue.2 := by
  rcases List.mem_cons.mp h with rfl | h
  · exact .timer _
  · exact auxiliary_unsubscribe h

/-- Every request is auxiliary but the three command writes and the deletion. -/
inductive Requests (w : FactoryResetWorkflow) (n : RequestId) :
    HostEvent → FactoryResetWorkflow → List (RequestId × Effect) → Prop
  | auxiliary {event : HostEvent} {w' : FactoryResetWorkflow}
      {effects : List (RequestId × Effect)} :
      (∀ issue ∈ effects, Auxiliary issue.2) → Requests w n event w' effects
  | grant {id : RequestId} {w' : FactoryResetWorkflow} :
      w.phase = .subscribing → w.mode.Fresh →
      Requests w n ⟨id, .ble (.subscribed CHAR_PROVISIONING_RESULT)⟩ w'
        [(n, commandEffect w.grant)]
  | opcode {id : RequestId} {w' : FactoryResetWorkflow} :
      w.phase = .writingGrant → w.writeRequestId = some id →
      Requests w n ⟨id, .ble .writeCompleted⟩ w' [(n, opcodeEffect w.bindingGeneration)]
  | saved {id : RequestId} {w' : FactoryResetWorkflow} :
      w.phase = .persistingResult → w.saveRequestId = some id →
      w.settlingOpcodeRequestId = none →
      Requests w n ⟨id, .factoryResetResultSaved⟩ w' [(n, receiptEffect)]
  | settled {id : RequestId} {answer : BleEvent} {w' : FactoryResetWorkflow} :
      IsCallback answer → w.settlingOpcodeRequestId = some id → w.phase = .persistingResult →
      w.saveRequestId = none →
      Requests w n ⟨id, .ble answer⟩ w' [(n, receiptEffect)]
  | delete {id : RequestId} {w' : FactoryResetWorkflow} :
      w.phase = .writingReceipt → w.writeRequestId = some id →
      Requests w n ⟨id, .ble .writeCompleted⟩ w'
        [(n, .persistence (.deleteFactoryResetResult w.commandId))]

theorem Transition.requests (h : Transition w n event w' effects) :
    Requests w n event w' effects := by
  cases h with
  | nonceRead =>
    refine .auxiliary fun issue h => ?_
    obtain rfl := List.mem_singleton.mp h
    exact .hostMaterial _
  | grantPrepared =>
    refine .auxiliary fun issue h => ?_
    obtain rfl := List.mem_singleton.mp h
    exact .subscribe
  | subscribed hphase hid hmode =>
    refine .grant hphase ?_
    rw [hmode]
    trivial
  | grantWritten hphase hid => exact .opcode hphase hid
  | result | earlyResult =>
    refine .auxiliary fun issue h => ?_
    rcases List.mem_append.mp h with h | h
    · exact auxiliary_unsubscribe h
    · rcases List.mem_pair.mp h with rfl | rfl
      · exact .save _
      · exact .checkpoint _ _
  | saved hphase hid hsettling => exact .saved hphase hid hsettling
  | settledLast hcallback hid hphase hsaved => exact .settled hcallback hid hphase hsaved
  | receiptWritten hphase hid => exact .delete hphase hid
  | deleted =>
    refine .auxiliary fun issue h => ?_
    rcases List.mem_append.mp h with h | h
    · exact auxiliary_cleanup h
    · rcases List.mem_pair.mp h with rfl | rfl
      · exact .deleteCheckpoint
      · exact .notify _
  | failed =>
    refine .auxiliary fun issue h => ?_
    rcases List.mem_append.mp h with h | h
    · exact auxiliary_cleanup h
    · obtain rfl := List.mem_singleton.mp h
      exact .notify _
  | _ => exact .auxiliary fun issue h => absurd h List.not_mem_nil

/-- A transition that leaves the reset running reports no failure and answers no timer. -/
theorem Transition.running (h : Transition w n event w' effects) (hrunning : w'.phase ≠ .failed) :
    (∀ id error, (id, .notify (.failed error)) ∉ effects) ∧
      ∀ id timerId, event ≠ ⟨id, .timerFired timerId⟩ := by
  have hunsubscribe : ∀ m id error, (id, .notify (.failed error)) ∉ unsubscribeIssues m w := by
    intro m id error hmem
    rw [unsubscribeIssues] at hmem
    split at hmem <;> simp [unsubscribeEffect] at hmem
  cases h with
  | failed hphase => exact absurd hphase hrunning
  | result | earlyResult | deleted =>
    refine ⟨fun id error hmem => ?_, fun _ _ => by rintro ⟨⟩⟩
    simp [cleanupIssues, checkpointEffect, hunsubscribe] at hmem
  | _ =>
    refine ⟨fun id error hmem => ?_, fun _ _ => by rintro ⟨⟩⟩
    simp [subscribeEffect, opcodeEffect, commandEffect, receiptEffect] at hmem

end Issues

/-! ## The invariant -/

/-- Whatever is awaited was asked for. -/
def Awaits (awaited : Option RequestId) (Asked : RequestId → Prop) : Prop :=
  ∀ id, awaited = some id → Asked id

/-- What the history of a run has to offer in each phase. -/
def PhaseFacts (mode : Mode) (started : List EffectRequest) (trace : Trace)
    (w : FactoryResetWorkflow) : Prop :=
  match w.phase with
  | .readingNonce | .preparingGrant => mode.Fresh ∧ NoOpcode started trace
  | .subscribing =>
    NoOpcode started trace ∧ (mode.Fresh → w.grant.length = FACTORY_RESET_GRANT_LENGTH)
  | .writingGrant =>
    mode.Fresh ∧ NoOpcode started trace ∧ Awaits w.writeRequestId (GrantAsked started trace)
  | .writingOpcode =>
    mode.Fresh ∧ ∃ id, w.writeRequestId = some id ∧ OpcodeAsked started trace id
  | .awaitingResult => mode.Fresh → OpcodeSettled started trace
  | .persistingResult =>
    (mode.Fresh → w.settlingOpcodeRequestId = none → OpcodeSettled started trace) ∧
      ∃ result, (∀ expected, mode.expectedResult = some expected → result = expected) ∧
        Awaits w.saveRequestId (SaveAsked started ⟨mode.commandId, result⟩ trace) ∧
        (w.saveRequestId = none → ResultSaved started ⟨mode.commandId, result⟩ trace)
  | .writingReceipt => Awaits w.writeRequestId (Issued started receiptEffect trace)
  | .deletingResult => True
  | .completed | .failed => False

structure Inv (mode : Mode) (started : List EffectRequest) (trace : Trace)
    (w : FactoryResetWorkflow) : Prop where
  mode_eq : w.mode = mode
  generation : w.bindingGeneration.length = 4
  running : ∀ entry ∈ trace, ¬Stopped entry
  subscription : Awaits w.subscriptionRequestId (Issued started subscribeEffect trace)
  settling : Awaits w.settlingOpcodeRequestId (OpcodeAsked started trace)
  once : OneOpcode started trace
  phase : PhaseFacts mode started trace w

section Steps

variable {mode : Mode} {started : List EffectRequest} {trace : Trace}
  {w w' : FactoryResetWorkflow} {entry : EngineEntry FactoryResetWorkflow} {n id : RequestId}
  {event : HostEvent} {effects : List (RequestId × Effect)}

theorem commandId_eq (h : w.mode = mode) : w.commandId = mode.commandId := by
  rw [commandId, h]
  rfl

theorem expected_of_expects (hmode : w.mode = mode) {result : FactoryResetResult}
    (h : w.expects result) : ∀ expected, mode.expectedResult = some expected → result = expected := by
  subst hmode
  intro expected hexpected
  cases hmode : w.mode with
  | start commandId grantId =>
    rw [hmode] at hexpected
    exact nomatch hexpected
  | resume commandId expectedResult =>
    rw [hmode] at hexpected
    obtain rfl : expectedResult = some expected := hexpected
    rw [expects, hmode] at h
    exact (of_decide_eq_true h).symm

theorem Inv.formed (h : Inv mode started trace w) : Formed w := by
  intro hphase
  have hfacts := h.phase
  rw [PhaseFacts, hphase] at hfacts
  rw [h.mode_eq]
  cases mode with
  | start commandId grantId => exact ⟨commandId, grantId, rfl⟩
  | resume => exact absurd hfacts.1 id

theorem Inv.not_terminal (h : Inv mode started trace w) :
    w.phase ≠ .completed ∧ w.phase ≠ .failed := by
  have hfacts := h.phase
  rw [PhaseFacts] at hfacts
  constructor
  · intro hphase
    rw [hphase] at hfacts
    exact hfacts
  · intro hphase
    rw [hphase] at hfacts
    exact hfacts

theorem Awaits.append {awaited : Option RequestId} {Asked : Trace → RequestId → Prop}
    (h : Awaits awaited (Asked trace))
    (happend : ∀ id, Asked trace id → Asked (trace ++ [entry]) id) :
    Awaits awaited (Asked (trace ++ [entry])) :=
  fun id hid => happend id (h id hid)

/-- A step that issues no opcode leaves the facts of the phase standing. -/
theorem PhaseFacts.append (h : PhaseFacts mode started trace w)
    (hnone : ∀ issue ∈ issues entry.output.effects, ¬IsOpcode issue.2) :
    PhaseFacts mode started (trace ++ [entry]) w := by
  rw [PhaseFacts] at h ⊢
  cases hphase : w.phase <;> rw [hphase] at h <;> simp only at h ⊢
  case readingNonce | preparingGrant => exact ⟨h.1, h.2.snoc hnone⟩
  case subscribing => exact ⟨h.1.snoc hnone, h.2⟩
  case writingGrant =>
    exact ⟨h.1, h.2.1.snoc hnone, h.2.2.append fun _ h => h.append _⟩
  case writingOpcode =>
    obtain ⟨hfresh, id, hid, hasked⟩ := h
    exact ⟨hfresh, id, hid, hasked.append _⟩
  case awaitingResult => exact fun hfresh => (h hfresh).append _
  case persistingResult =>
    obtain ⟨hsettled, result, hexpected, hsave, hsaved⟩ := h
    exact ⟨fun hfresh hnone => (hsettled hfresh hnone).append _, result, hexpected,
      hsave.append fun _ h => h.append _, fun hnone => (hsaved hnone).append _⟩
  case writingReceipt => exact h.append fun _ h => h.append _

theorem Inv.quiet (h : Inv mode started trace w) (hquiet : entry.output.effects = [])
    (hrunning : ¬Stopped entry) : Inv mode started (trace ++ [entry]) w := by
  have hnone : ∀ issue ∈ issues entry.output.effects, ¬IsOpcode issue.2 := by
    rw [hquiet]
    exact fun issue hissue => absurd hissue List.not_mem_nil
  constructor
  · exact h.mode_eq
  · exact h.generation
  · intro e he
    rcases List.mem_append.mp he with he | he
    · exact h.running e he
    · obtain rfl := List.mem_singleton.mp he
      exact hrunning
  · exact h.subscription.append fun _ h => h.append _
  · exact h.settling.append fun _ h => h.append _
  · exact h.once.snoc hnone
  · exact h.phase.append hnone

/-- The opcode is written only when the grant has been. -/
theorem Transition.no_opcode (hstep : Transition w n event w' effects)
    (hinv : Inv mode started trace w) (hphase : w.phase ≠ .writingGrant) :
    ∀ issue ∈ effects, ¬IsOpcode issue.2 := by
  intro issue hissue
  cases hstep.requests with
  | auxiliary haux => exact fun h => (haux issue hissue).not_critical (.opcode h)
  | grant hsubscribing hfresh =>
    obtain rfl := List.mem_singleton.mp hissue
    have hfacts := hinv.phase
    rw [PhaseFacts, hsubscribing] at hfacts
    rw [hinv.mode_eq] at hfresh
    refine not_opcode_of_length ?_
    rw [hfacts.2 hfresh]
    decide
  | opcode hwriting => exact absurd hwriting hphase
  | saved =>
    obtain rfl := List.mem_singleton.mp hissue
    exact not_opcode_receipt
  | settled =>
    obtain rfl := List.mem_singleton.mp hissue
    exact not_opcode_receipt
  | delete =>
    obtain rfl := List.mem_singleton.mp hissue
    rintro ⟨bindingGeneration, -, heq⟩
    exact nomatch heq

theorem Transition.mode_eq (hstep : Transition w n event w' effects)
    (hrunning : w'.phase ≠ .completed ∧ w'.phase ≠ .failed) : w'.mode = w.mode := by
  cases hstep with
  | failed hphase => exact absurd hphase hrunning.2
  | deleted _ _ hphase => exact absurd hphase hrunning.1
  | _ => rfl

theorem Transition.generation (hstep : Transition w n event w' effects)
    (hrunning : w'.phase ≠ .completed ∧ w'.phase ≠ .failed)
    (h : w.bindingGeneration.length = 4) : w'.bindingGeneration.length = 4 := by
  cases hstep with
  | failed hphase => exact absurd hphase hrunning.2
  | deleted _ _ hphase => exact absurd hphase hrunning.1
  | grantPrepared _ _ hlength =>
    rw [List.length_take, hlength]
    rfl
  | _ => exact h

theorem Transition.once (hstep : Transition w n event w' effects)
    (hinv : Inv mode started trace w) (hissues : issues entry.output.effects = effects) :
    OneOpcode started (trace ++ [entry]) := by
  by_cases hphase : w.phase = .writingGrant
  · have hfacts := hinv.phase
    rw [PhaseFacts, hphase] at hfacts
    cases hstep.requests with
    | auxiliary haux =>
      rw [← hissues] at haux
      exact hinv.once.snoc fun issue hissue h => (haux issue hissue).not_critical (.opcode h)
    | opcode => exact hfacts.2.1.first hissues
    | grant hother =>
      rw [hphase] at hother
      exact nomatch hother
    | saved hother =>
      rw [hphase] at hother
      exact nomatch hother
    | settled _ _ hother =>
      rw [hphase] at hother
      exact nomatch hother
    | delete hother =>
      rw [hphase] at hother
      exact nomatch hother
  · refine hinv.once.snoc ?_
    rw [hissues]
    exact hstep.no_opcode hinv hphase

theorem Transition.subscription (hstep : Transition w n event w' effects)
    (hinv : Inv mode started trace w) (hissues : issues entry.output.effects = effects)
    (hrunning : w'.phase ≠ .completed ∧ w'.phase ≠ .failed) :
    Awaits w'.subscriptionRequestId (Issued started subscribeEffect (trace ++ [entry])) := by
  have hkept : Awaits w.subscriptionRequestId
      (Issued started subscribeEffect (trace ++ [entry])) :=
    hinv.subscription.append fun _ h => h.append _
  cases hstep with
  | failed hphase => exact absurd hphase hrunning.2
  | deleted _ _ hphase => exact absurd hphase hrunning.1
  | grantPrepared =>
    intro m hm
    obtain rfl := Option.some.inj hm
    refine .last ?_ _
    rw [hissues]
    exact List.mem_singleton_self _
  | result | earlyResult => exact fun _ => nofun
  | _ => exact hkept

theorem Transition.settling (hstep : Transition w n event w' effects)
    (hinv : Inv mode started trace w)
    (hrunning : w'.phase ≠ .completed ∧ w'.phase ≠ .failed) :
    Awaits w'.settlingOpcodeRequestId (OpcodeAsked started (trace ++ [entry])) := by
  have hkept : Awaits w.settlingOpcodeRequestId (OpcodeAsked started (trace ++ [entry])) :=
    hinv.settling.append fun _ h => h.append _
  cases hstep with
  | failed hphase => exact absurd hphase hrunning.2
  | deleted _ _ hphase => exact absurd hphase hrunning.1
  | earlyResult hphase =>
    have hfacts := hinv.phase
    rw [PhaseFacts, hphase] at hfacts
    obtain ⟨-, id, hid, hasked⟩ := hfacts
    intro m hm
    obtain rfl := Option.some.inj (hid.symm.trans hm)
    exact hasked.append _
  | settled | settledLast => exact fun _ => nofun
  | _ => exact hkept

/-- The save of a result that has just been decoded. -/
theorem saveAsked_last {m k : RequestId} {value : List UInt8} {result : FactoryResetResult}
    (hinv : Inv mode started trace w)
    (haccepted : Accepted entry ⟨id, .ble (.notification CHAR_PROVISIONING_RESULT value)⟩)
    (hid : w.subscriptionRequestId = some id) (hhead : value.head? = some PROVISIONING_SUCCESS)
    (hparse : parseFactoryResetResult value = .ok result)
    (hissues : issues entry.output.effects = unsubscribeIssues m w ++
      [(n, .persistence (.saveFactoryResetResult ⟨w.commandId, result⟩)),
        (k, checkpointEffect .awaitingReceipt w.device)]) :
    SaveAsked started ⟨mode.commandId, result⟩ (trace ++ [entry]) n := by
  refine ⟨value, hhead, hparse, .last haccepted (hinv.subscription id hid) ?_⟩
  rw [hissues, commandId_eq hinv.mode_eq]
  exact List.mem_append_right _ List.mem_cons_self

/-- What an accepted event does to the facts of the phase. -/
theorem Transition.facts (hstep : Transition w n event w' effects)
    (hinv : Inv mode started trace w) (haccepted : Accepted entry event)
    (hissues : issues entry.output.effects = effects)
    (hrunning : w'.phase ≠ .completed ∧ w'.phase ≠ .failed) :
    PhaseFacts mode started (trace ++ [entry]) w' := by
  have hphase := hinv.phase
  have hmode := hinv.mode_eq
  have hissued : ∀ {m effect}, (m, effect) ∈ effects → Issued started effect (trace ++ [entry]) m := by
    intro m effect hmem
    rw [← hissues] at hmem
    exact .last hmem trace
  have hnone : w.phase ≠ .writingGrant → ∀ issue ∈ issues entry.output.effects,
      ¬IsOpcode issue.2 := by
    intro hwriting
    rw [hissues]
    exact hstep.no_opcode hinv hwriting
  have hempty : effects = [] → ∀ issue ∈ issues entry.output.effects, ¬IsOpcode issue.2 := by
    intro hnil issue hissue
    rw [hissues, hnil] at hissue
    exact absurd hissue List.not_mem_nil
  rw [PhaseFacts] at hphase
  -- each phase is reached with the facts of the one before it and what the step itself asked
  cases hstep with
  | checkpointSaved => exact hinv.phase.append (hempty rfl)
  | nonceRead hreading =>
    rw [hreading] at hphase hnone
    exact ⟨hphase.1, hphase.2.snoc (hnone (by decide))⟩
  | grantPrepared hpreparing _ hlength =>
    rw [hpreparing] at hphase hnone
    exact ⟨hphase.2.snoc (hnone (by decide)), fun _ => hlength⟩
  | subscribed hsubscribing _ hstart =>
    rw [hsubscribing] at hphase hnone
    have hfresh : mode.Fresh := by
      rw [← hmode, hstart]
      trivial
    refine ⟨hfresh, hphase.1.snoc (hnone (by decide)), fun m hm => ?_⟩
    obtain rfl := Option.some.inj hm
    exact ⟨w.grant, hphase.2 hfresh, hissued (List.mem_singleton_self _)⟩
  | resubscribed _ _ hresume =>
    intro hfresh
    rw [← hmode, hresume] at hfresh
    exact hfresh.elim
  | grantWritten hwriting =>
    rw [hwriting] at hphase
    exact ⟨hphase.1, n, rfl, _, ⟨_, hinv.generation, rfl⟩, hissued (List.mem_singleton_self _)⟩
  | opcodeWritten hwriting hid =>
    rw [hwriting] at hphase
    obtain ⟨-, id, hother, hasked⟩ := hphase
    obtain rfl := Option.some.inj (hid.symm.trans hother)
    exact fun _ => ⟨_, .completed, .last haccepted hasked⟩
  | result hawaiting hid hhead hparse hexpects =>
    rw [hawaiting] at hphase
    refine ⟨fun hfresh _ => (hphase hfresh).append _, _, expected_of_expects hmode hexpects, ?_, nofun⟩
    intro m hm
    obtain rfl := Option.some.inj hm
    exact saveAsked_last hinv haccepted hid hhead hparse hissues
  | earlyResult hwriting hid hhead hparse hexpects =>
    -- the result overtakes the callback of the opcode, which is still settling
    rw [hwriting] at hphase
    obtain ⟨-, m, hwrite, -⟩ := hphase
    refine ⟨fun _ hsettling => ?_, _, expected_of_expects hmode hexpects, ?_, nofun⟩
    · exact nomatch hwrite.symm.trans hsettling
    · intro m hm
      obtain rfl := Option.some.inj hm
      exact saveAsked_last hinv haccepted hid hhead hparse hissues
  | saved =>
    intro m hm
    obtain rfl := Option.some.inj hm
    exact hissued (List.mem_singleton_self _)
  | savedEarly hpersisting hid hsettling =>
    rw [hpersisting] at hphase
    obtain ⟨-, result, hexpected, hsave, -⟩ := hphase
    rw [PhaseFacts, hpersisting]
    exact ⟨fun _ hnil => absurd hnil hsettling, result, hexpected, fun _ => nofun,
      fun _ => .last haccepted (hsave _ hid)⟩
  | settled hcallback hid hwaiting =>
    have hfacts := hinv.phase.append (hempty rfl)
    have hsettled : OpcodeSettled started (trace ++ [entry]) :=
      ⟨_, hcallback, .last haccepted (hinv.settling _ hid)⟩
    rw [PhaseFacts] at hfacts ⊢
    cases hpersisting : w.phase with
    | persistingResult =>
      rw [hpersisting] at hfacts
      exact ⟨fun _ _ => hsettled, hfacts.2⟩
    | _ =>
      rw [hpersisting] at hfacts
      exact hfacts
  | settledLast =>
    intro m hm
    obtain rfl := Option.some.inj hm
    exact hissued (List.mem_singleton_self _)
  | receiptWritten => exact trivial
  | deleted _ _ hcompleted => exact absurd hcompleted hrunning.1
  | failed hfailed => exact absurd hfailed hrunning.2

theorem not_stopped (hinput : entry.input = .host event)
    (htimer : ∀ id timerId, event ≠ ⟨id, .timerFired timerId⟩)
    (hfailed : ∀ id error, (id, .notify (.failed error)) ∉ issues entry.output.effects) :
    ¬Stopped entry := by
  rintro (hmem | ⟨hother, -⟩ | ⟨-, hother⟩)
  · exact hfailed _ _ hmem
  · rw [hinput] at hother
    exact htimer _ _ (Event.host.inj hother)
  · rw [hinput] at hother
    exact nomatch hother

theorem Transition.inv (hstep : Transition w n event w' effects)
    (hinv : Inv mode started trace w) (haccepted : Accepted entry event)
    (hissues : issues entry.output.effects = effects)
    (hrunning : w'.phase ≠ .completed ∧ w'.phase ≠ .failed) :
    Inv mode started (trace ++ [entry]) w' := by
  constructor
  · rw [hstep.mode_eq hrunning]
    exact hinv.mode_eq
  · exact hstep.generation hrunning hinv.generation
  · intro e he
    rcases List.mem_append.mp he with he | he
    · exact hinv.running e he
    · obtain rfl := List.mem_singleton.mp he
      obtain ⟨hfailed, htimer⟩ := hstep.running hrunning.2
      rw [← hissues] at hfailed
      exact not_stopped haccepted.1 htimer hfailed
  · exact hstep.subscription hinv hissues hrunning
  · exact hstep.settling hinv hrunning
  · exact hstep.once hinv hissues
  · exact hstep.facts hinv haccepted hissues hrunning

end Steps

/-! ## One entry of a run -/

section Entries

variable {mode : Mode} {started : List EffectRequest} {trace : Trace}
  {w w' : FactoryResetWorkflow} {entry : EngineEntry FactoryResetWorkflow} {n m : RequestId}
  {event : HostEvent} {effects : List (RequestId × Effect)}

theorem Ordered.of_quiet (hquiet : entry.output.effects = []) :
    Ordered mode started trace entry := by
  have hnone : ∀ issue, issue ∉ issues entry.output.effects := by
    rw [hquiet]
    exact fun issue => List.not_mem_nil
  exact ⟨fun _ h => absurd h (hnone _), fun _ _ h => absurd h (hnone _),
    fun _ _ _ h => absurd h (hnone _), fun _ issue h => absurd h (hnone issue), fun _ => hquiet⟩

theorem grant_length (hinv : Inv mode started trace w) (hphase : w.phase = .subscribing)
    (hfresh : w.mode.Fresh) : w.grant.length = FACTORY_RESET_GRANT_LENGTH := by
  have hfacts := hinv.phase
  rw [PhaseFacts, hphase] at hfacts
  rw [hinv.mode_eq] at hfresh
  exact hfacts.2 hfresh

/-- The receipt is written by the later of the journal's callback and the opcode's. -/
theorem Transition.receipt (hstep : Transition w n event w' effects)
    (hinv : Inv mode started trace w) (haccepted : Accepted entry event)
    (h : (m, receiptEffect) ∈ effects) :
    ∃ result, ResultSaved started ⟨mode.commandId, result⟩ (trace ++ [entry]) ∧
      (mode.Fresh → OpcodeSettled started (trace ++ [entry])) ∧
      ∀ expected, mode.expectedResult = some expected → result = expected := by
  have hfacts := hinv.phase
  rw [PhaseFacts] at hfacts
  cases hstep.requests with
  | auxiliary haux => exact absurd .receipt (haux _ h).not_critical
  | grant hsubscribing hfresh =>
    have heq : receiptEffect = commandEffect w.grant :=
      congrArg Prod.snd (List.mem_singleton.mp h)
    have hlong : 5 < w.grant.length := by
      rw [grant_length hinv hsubscribing hfresh]
      decide
    have hcritical := Critical.receipt
    rw [heq] at hcritical
    exact absurd hcritical (not_critical_of_length hlong)
  | opcode => exact nomatch congrArg Prod.snd (List.mem_singleton.mp h)
  | saved hpersisting hid hsettling =>
    rw [hpersisting] at hfacts
    obtain ⟨hsettled, result, hexpected, hsave, -⟩ := hfacts
    exact ⟨result, .last haccepted (hsave _ hid),
      fun hfresh => (hsettled hfresh hsettling).append _, hexpected⟩
  | settled hcallback hid hpersisting hnone =>
    rw [hpersisting] at hfacts
    obtain ⟨-, result, hexpected, -, hsaved⟩ := hfacts
    exact ⟨result, (hsaved hnone).append _,
      fun _ => ⟨_, hcallback, .last haccepted (hinv.settling _ hid)⟩, hexpected⟩
  | delete => exact nomatch congrArg Prod.snd (List.mem_singleton.mp h)

theorem Transition.delete {commandId : FactoryResetCommandId}
    (hstep : Transition w n event w' effects) (hinv : Inv mode started trace w)
    (haccepted : Accepted entry event)
    (h : (m, .persistence (.deleteFactoryResetResult commandId)) ∈ effects) :
    Answered (Issued started receiptEffect) (.ble .writeCompleted) (trace ++ [entry]) := by
  have hfacts := hinv.phase
  rw [PhaseFacts] at hfacts
  cases hstep.requests with
  | auxiliary haux => exact absurd (.delete commandId) (haux _ h).not_critical
  | delete hwriting hid =>
    rw [hwriting] at hfacts
    exact .last haccepted (hfacts _ hid)
  | _ => exact nomatch congrArg Prod.snd (List.mem_singleton.mp h)

theorem Transition.opcode {effect : Effect} (hopcode : IsOpcode effect)
    (hstep : Transition w n event w' effects) (hinv : Inv mode started trace w)
    (haccepted : Accepted entry event) (h : (m, effect) ∈ effects) :
    mode.Fresh ∧ Answered (GrantAsked started) (.ble .writeCompleted) (trace ++ [entry]) := by
  have hfacts := hinv.phase
  rw [PhaseFacts] at hfacts
  cases hstep.requests with
  | opcode hwriting hid =>
    rw [hwriting] at hfacts
    exact ⟨hfacts.1, .last haccepted (hfacts.2.2 _ hid)⟩
  | auxiliary haux => exact absurd (.opcode hopcode) (haux _ h).not_critical
  | grant hphase =>
    exact absurd hopcode (hstep.no_opcode hinv (by rw [hphase]; decide) _ h)
  | saved hphase =>
    exact absurd hopcode (hstep.no_opcode hinv (by rw [hphase]; decide) _ h)
  | settled _ _ hphase =>
    exact absurd hopcode (hstep.no_opcode hinv (by rw [hphase]; decide) _ h)
  | delete hphase =>
    exact absurd hopcode (hstep.no_opcode hinv (by rw [hphase]; decide) _ h)

/-- A step that stops the reset issues nothing critical. -/
theorem Transition.stopped (hstep : Transition w n event w' effects)
    (hinput : entry.input = .host event) (hissues : issues entry.output.effects = effects)
    (hstopped : Stopped entry) : ∀ issue ∈ effects, ¬Critical issue.2 := by
  cases hstep.requests with
  | auxiliary haux => exact fun issue hissue => (haux issue hissue).not_critical
  | _ =>
    refine absurd hstopped (not_stopped hinput (fun _ _ => nofun) fun id error hmem => ?_)
    rw [hissues] at hmem
    exact nomatch congrArg Prod.snd (List.mem_singleton.mp hmem)

theorem Transition.ordered (hstep : Transition w n event w' effects)
    (hinv : Inv mode started trace w) (haccepted : Accepted entry event)
    (hissues : issues entry.output.effects = effects) : Ordered mode started trace entry := by
  constructor
  · intro m h
    rw [hissues] at h
    exact hstep.receipt hinv haccepted h
  · intro m commandId h
    rw [hissues] at h
    exact hstep.delete hinv haccepted h
  · intro m effect hopcode h
    rw [hissues] at h
    exact hstep.opcode hopcode hinv haccepted h
  · intro hstopped
    rw [hissues]
    exact hstep.stopped haccepted.1 hissues hstopped
  · rintro ⟨e, he, hstopped⟩
    exact absurd hstopped (hinv.running e he)

/-- Cancelling issues nothing critical. -/
theorem ordered_cancelled {k : RequestId} (hinv : Inv mode started trace w)
    (hissues : issues entry.output.effects =
      cleanupIssues n m w ++ [(k, .notify (.cancelled .factoryReset))]) :
    Ordered mode started trace entry := by
  have hnone : ∀ issue ∈ issues entry.output.effects, ¬Critical issue.2 := by
    intro issue hissue
    rw [hissues] at hissue
    rcases List.mem_append.mp hissue with hissue | hissue
    · exact (auxiliary_cleanup hissue).not_critical
    · obtain rfl := List.mem_singleton.mp hissue
      exact (Auxiliary.notify _).not_critical
  constructor
  · exact fun _ h => absurd .receipt (hnone _ h)
  · exact fun _ commandId h => absurd (.delete commandId) (hnone _ h)
  · exact fun _ _ hopcode h => absurd (.opcode hopcode) (hnone _ h)
  · exact fun _ => hnone
  · rintro ⟨e, he, hstopped⟩
    exact absurd hstopped (hinv.running e he)

/-- Every entry of a run is ordered with respect to what came before it. -/
theorem ordered_of_inv (hinv : ∀ w, entry.pre.active = some w → Inv mode started trace w)
    (hout : entry.output = (entry.pre.dispatch entry.input).2) :
    Ordered mode started trace entry := by
  obtain ⟨engine, input, output⟩ := entry
  simp only at hinv hout
  cases hact : engine.active with
  | none =>
    refine .of_quiet ?_
    rw [hout]
    exact (dispatch_ended hact input).2
  | some w =>
    replace hinv := hinv w hact
    cases input with
    | host event =>
      rw [dispatch_active hact] at hout
      rcases dispatch_cases hinv.formed event (engine.context w) with ⟨call, hcall, hstep⟩ | hreject
      · have hred : WorkflowReducer.dispatch w event (engine.context w) = .ok call := hcall
        have hok : output = .ok call.effects := by
          rw [hout, hred]
          by_cases hend : call.workflow.phase = .completed ∨ call.workflow.phase = .failed
          · obtain ⟨status, hstatus⟩ := hstep.terminal hinv.not_terminal hend
            rw [settle_ended rfl hstatus]
          · push Not at hend
            rw [settle_running rfl (terminalStatus_of_running hend.1 hend.2)]
        subst hok
        exact hstep.ordered hinv ⟨rfl, _, rfl⟩ rfl
      · have hred : WorkflowReducer.dispatch w event (engine.context w) = _ := hreject
        rw [hred, settle_err rfl] at hout
        subst hout
        exact .of_quiet rfl
    | cancelled id =>
      by_cases hid : WorkflowReducer.cancellationId w = id
      · subst hid
        obtain ⟨call, m, k, hcall, hissues⟩ := cancel_issued w (engine.context w)
        have hred : WorkflowReducer.cancel w (engine.context w) = .ok call := hcall
        have hok : (WorkflowReducer.cancel w (engine.context w)).outcome = .ok call.effects := by
          rw [hred]
          rfl
        rw [cancel_active hact hok] at hout
        subst hout
        exact ordered_cancelled hinv hissues
      · refine .of_quiet ?_
        rw [hout]
        exact (cancel_foreign hact hid).2

end Entries

/-! ## Runs -/

section Runs

variable {mode : Mode} {started : List EffectRequest} {trace : Trace}
  {engine₀ engine : WorkflowEngine FactoryResetWorkflow}

/-- A start issues nothing critical. -/
theorem Fresh.auxiliary {w : FactoryResetWorkflow} (h : Fresh mode started w) :
    ∀ issue ∈ issues started, Auxiliary issue.2 := by
  intro issue hissue
  rcases h.requests issue hissue with heq | heq | heq | heq | ⟨phase, device, heq⟩
  · rw [heq]
    exact .notify _
  · rw [heq]
    exact .timer _
  · rw [heq]
    exact .read _ _
  · rw [heq]
    exact .subscribe
  · rw [heq]
    exact .checkpoint _ _

theorem Fresh.inv {w : FactoryResetWorkflow} (h : Fresh mode started w) :
    Inv mode started [] w := by
  have hnone : NoOpcode started [] := by
    rw [NoOpcode, emitted_nil, List.append_nil]
    exact fun issue hissue hopcode => (h.auxiliary issue hissue).not_critical (.opcode hopcode)
  have hphase := h.phase
  constructor
  · exact h.mode_eq
  · rw [h.generation_eq]
    rfl
  · exact fun entry hentry => absurd hentry List.not_mem_nil
  · intro id hid
    cases mode with
    | start =>
      rw [hphase.2] at hid
      exact nomatch hid
    | resume =>
      obtain ⟨-, other, hother, hissued⟩ := hphase
      obtain rfl := Option.some.inj (hid.symm.trans hother)
      exact .start hissued []
  · intro id hid
    rw [h.settling_eq] at hid
    exact nomatch hid
  · exact hnone.one
  · rw [PhaseFacts]
    cases mode with
    | start =>
      rw [hphase.1]
      exact ⟨trivial, hnone⟩
    | resume =>
      rw [hphase.1]
      exact ⟨hnone, fun hfresh => hfresh.elim⟩

theorem run_inv (hstart : Started mode started engine₀)
    (h : EngineRun (fun _ _ _ => True) engine₀ trace engine) :
    Settled (Inv mode started) (OneOpcode started) trace engine := by
  refine EngineRun.step_rule ?_ ?_ ?_ ?_ ?_ h
  -- at the start
  · obtain ⟨w, hact, hfresh⟩ := hstart.active
    rw [settled_active hact]
    exact hfresh.inv
  -- an event of the host
  · intro trace engine w event _ hact hinv _
    rcases dispatch_cases hinv.formed event (engine.context w) with ⟨call, hcall, hstep⟩ | hreject
    · refine .inl ⟨call, hcall, ?_⟩
      by_cases hend : call.workflow.phase = .completed ∨ call.workflow.phase = .failed
      · obtain ⟨status, hstatus⟩ := hstep.terminal hinv.not_terminal hend
        exact .inr ⟨status, hstatus, hstep.once hinv rfl⟩
      · push Not at hend
        exact .inl ⟨terminalStatus_of_running hend.1 hend.2, hstep.inv hinv ⟨rfl, _, rfl⟩ rfl hend⟩
    · refine .inr ⟨w, engine.context w, unexpected, hreject, hinv.quiet rfl ?_⟩
      rintro (hmem | ⟨-, effects, hok⟩ | ⟨-, hother⟩)
      · exact absurd hmem List.not_mem_nil
      · cases hok
      · cases hother
  -- the workflow is cancelled
  · intro trace engine w _ hact hinv _
    obtain ⟨call, m, k, hcall, hissues⟩ := cancel_issued w (engine.context w)
    refine ⟨call, hcall, hinv.once.snoc fun issue hissue hopcode => ?_⟩
    rw [Outcome.effects] at hissue
    rw [issued] at hissues
    rw [hissues] at hissue
    rcases List.mem_append.mp hissue with hissue | hissue
    · exact (auxiliary_cleanup hissue).not_critical (.opcode hopcode)
    · obtain rfl := List.mem_singleton.mp hissue
      exact (Auxiliary.notify _).not_critical (.opcode hopcode)
  -- another workflow's cancellation
  · rintro trace entry w hact ⟨id, hinput, hforeign⟩ _ hquiet hinv
    refine hinv.quiet hquiet ?_
    rintro (hmem | ⟨hother, -⟩ | ⟨hother, hcancelled⟩)
    · rw [hquiet] at hmem
      exact absurd hmem List.not_mem_nil
    · rw [hinput] at hother
      cases hother
    · rw [hact] at hother
      obtain rfl := Option.some.inj hother
      rw [hinput] at hcancelled
      exact hforeign (Event.cancelled.inj hcancelled).symm
  -- after the end
  · intro trace entry _ _ hquiet honce
    refine honce.snoc ?_
    rw [hquiet]
    exact fun issue hissue => absurd hissue List.not_mem_nil

/-- Every run keeps the order: the receipt follows the save of the run's own result and, in a fresh
reset, the opcode's callback; the deletion follows the receipt; the opcode is written once, after the
grant; and nothing critical follows a failure, a timeout or a cancellation. -/
theorem reset_in_order (hstart : Started mode started engine₀)
    (hrun : EngineRun (fun _ _ _ => True) engine₀ trace engine) :
    (∀ issue ∈ issues started, ¬Critical issue.2) ∧
      (∀ before entry after, trace = before ++ entry :: after →
        Ordered mode started before entry) ∧ OneOpcode started trace := by
  refine ⟨?_, ?_, ?_⟩
  · obtain ⟨w, -, hfresh⟩ := hstart.active
    exact fun issue hissue => (hfresh.auxiliary issue hissue).not_critical
  · intro before entry after hsplit
    obtain ⟨hbefore, -, hout, -⟩ := hrun.split hsplit
    refine ordered_of_inv (fun w hact => ?_) hout
    exact (settled_active hact).mp (run_inv hstart hbefore)
  · have hsettled := run_inv hstart hrun
    cases hact : engine.active with
    | none => exact (settled_ended hact).mp hsettled
    | some w => exact ((settled_active hact).mp hsettled).once

end Runs

def sampleMode : Mode := .start ⟨"reset-1"⟩ ⟨"grant-1"⟩

def sampleCommand : FactoryResetCommand :=
  .factoryReset ⟨"EVFXXW67KP"⟩ ⟨"reset-1"⟩ ⟨"grant-1"⟩

def sampleStart : WorkflowEngine FactoryResetWorkflow × Outcome (List EffectRequest) :=
  WorkflowEngine.start {} sampleCommand [.ble, .timer, .persistence, .hostMaterial]
    ⟨.replicate 16 9⟩

/-- The result comes before the callback of its opcode, request 8. -/
def sampleEvents : List Event :=
  [.host ⟨3, .ble (.readCompleted (.replicate 16 7))⟩,
    .host ⟨5, .factoryResetGrantPrepared (.replicate 179 1)⟩,
    .host ⟨6, .ble (.subscribed CHAR_PROVISIONING_RESULT)⟩, .host ⟨7, .ble .writeCompleted⟩,
    .host ⟨6, .ble (.notification CHAR_PROVISIONING_RESULT [0, 2, 0])⟩,
    .host ⟨9, .factoryResetResultSaved⟩, .host ⟨8, .ble .writeCompleted⟩,
    .host ⟨12, .ble .writeCompleted⟩, .host ⟨13, .factoryResetResultDeleted⟩]

def sampleTrace : Trace :=
  (Machine.exec WorkflowEngine.dispatch [] sampleStart.1 sampleEvents).1

theorem reset_in_order_sample :
    (12, receiptEffect) ∈ issues (emitted sampleTrace) ∧
    (∀ issue ∈ issues sampleStart.2.effects, ¬Critical issue.2) ∧
    (∀ before entry after, sampleTrace = before ++ entry :: after →
      Ordered sampleMode sampleStart.2.effects before entry) ∧
    OneOpcode sampleStart.2.effects sampleTrace := by
  refine ⟨by decide +kernel, ?_⟩
  exact reset_in_order ⟨{}, sampleCommand, [.ble, .timer, .persistence, .hostMaterial],
    ⟨.replicate 16 9⟩, rfl, rfl⟩
    (Machine.Run.exec (Machine.allowed_true [] sampleStart.1 sampleEvents))

end FactoryResetWorkflow

end BotaSdk
