import BotaSdk.Workflow.EncryptedUploadV2Steps

/-!
# The order of an encrypted upload

A recording is confirmed only after its transfer was proven, its artifacts staged and a receipt
accepted, each answering the request issued for it.  The predicates below speak of the history of a
run alone; the invariant ties them to the coordinator's phase.
-/

namespace BotaSdk

open EncryptedUploadV2 History

namespace EncryptedUploadV2Workflow

abbrev Trace := List (EngineEntry EncryptedUploadV2Workflow)

/-! ## History -/

/-- The entry's event was accepted as the answer to request `id`. -/
def Accepted (entry : EngineEntry EncryptedUploadV2Workflow) (id : RequestId)
    (event : EncryptedUploadV2HostEvent) : Prop :=
  entry.input = .host ⟨id, .encryptedUploadV2 event⟩ ∧ ∃ effects, entry.output = .ok effects

/-- The entry's step issued `effect` as request `id`. -/
def Issues (entry : EngineEntry EncryptedUploadV2Workflow) (id : RequestId) (effect : Effect) :
    Prop :=
  (id, effect) ∈ issues entry.output.effects

def Issued (trace : Trace) (id : RequestId) (effect : Effect) : Prop :=
  ∃ entry ∈ trace, Issues entry id effect

/-- A step accepted `event` as the answer to a request asked for before it, and in turn issued
`effect` as request `id`. -/
def Followed (Asked : Trace → RequestId → Prop) (event : EncryptedUploadV2HostEvent)
    (effect : Effect) (trace : Trace) (id : RequestId) : Prop :=
  ∃ before entry rest answered, trace = before ++ entry :: rest ∧
    Accepted entry answered event ∧ Asked before answered ∧ Issues entry id effect

/-- The transfer was started, or is being repaired, under request `id`. -/
def TransferAsked (request : EncryptedUploadV2BatchRequest) (trace : Trace) (id : RequestId) :
    Prop :=
  (∃ checkpoint authorizationSha256, Issued trace id
    (.encryptedUploadV2 (.startTransfer request checkpoint authorizationSha256))) ∨
  ∃ missingSequences, Issued trace id (.encryptedUploadV2 (.repairWindow missingSequences))

def ArtifactsAsked (request : EncryptedUploadV2BatchRequest)
    (evidence : EncryptedUploadV2TransferEvidence) : Trace → RequestId → Prop :=
  Followed (TransferAsked request) (.transferCompleted evidence)
    (.encryptedUploadV2 (.stageArtifacts request.sinkId request.materialId evidence))

def ReceiptAsked (request : EncryptedUploadV2BatchRequest)
    (evidence : EncryptedUploadV2TransferEvidence) : Trace → RequestId → Prop :=
  Followed (ArtifactsAsked request evidence) .artifactsStaged
    (.encryptedUploadV2 (.awaitCompletionReceipt request.materialId evidence))

def ConfirmationAsked (request : EncryptedUploadV2BatchRequest)
    (evidence : EncryptedUploadV2TransferEvidence) (receiptSha256 : FixedBytes 32) :
    Trace → RequestId → Prop :=
  Followed (ReceiptAsked request evidence) (.completionReceiptAccepted receiptSha256)
    (.encryptedUploadV2 (.confirmWithReceipt request.materialId receiptSha256))

/-- The evidence of a whole transfer of the requested recording. -/
structure Proves (request : EncryptedUploadV2BatchRequest)
    (evidence : EncryptedUploadV2TransferEvidence) : Prop where
  length : evidence.ciphertextLength = request.ciphertextLength
  sha256 : evidence.ciphertextSha256 = request.ciphertextSha256
  manifest : evidence.manifestLength = Protocol.UPLOAD_MANIFEST_V2_FIXED_LENGTH
  blocks : evidence.blockCount ≠ 0

/-- The entry ends the upload without success. -/
inductive Unsuccessful (entry : EngineEntry EncryptedUploadV2Workflow) : Prop
  | failed {id : RequestId} {error : DeviceSdkError} :
      Accepted entry id (.failed error) → Unsuccessful entry
  | mixedProfile {id : RequestId} : Accepted entry id .mixedProfile → Unsuccessful entry
  | cancelled {w : EncryptedUploadV2Workflow} :
      entry.pre.active = some w → entry.input = .cancelled w.cancellationId → Unsuccessful entry
  | reported {id : RequestId} {error : DeviceSdkError} :
      Issues entry id (.notify (.failed error)) → Unsuccessful entry

section History

variable {trace : Trace} {entry : EngineEntry EncryptedUploadV2Workflow} {id answered : RequestId}
  {effect : Effect}

theorem Issued.append (h : Issued trace id effect) (rest : Trace) :
    Issued (trace ++ rest) id effect := by
  obtain ⟨entry, hmem, hissues⟩ := h
  exact ⟨entry, List.mem_append_left _ hmem, hissues⟩

theorem Issues.issued (h : Issues entry id effect) (trace : Trace) :
    Issued (trace ++ [entry]) id effect :=
  ⟨entry, List.mem_append_right _ (List.mem_singleton_self _), h⟩

theorem Followed.append {Asked : Trace → RequestId → Prop} {event : EncryptedUploadV2HostEvent}
    (h : Followed Asked event effect trace id) (rest : Trace) :
    Followed Asked event effect (trace ++ rest) id := by
  obtain ⟨before, entry, after, answered, rfl, haccepted, hasked, hissues⟩ := h
  exact ⟨before, entry, after ++ rest, answered, by simp, haccepted, hasked, hissues⟩

theorem Followed.last {Asked : Trace → RequestId → Prop} {event : EncryptedUploadV2HostEvent}
    (haccepted : Accepted entry answered event) (hasked : Asked trace answered)
    (hissues : Issues entry id effect) :
    Followed Asked event effect (trace ++ [entry]) id :=
  ⟨trace, entry, [], answered, rfl, haccepted, hasked, hissues⟩

theorem TransferAsked.append {request : EncryptedUploadV2BatchRequest}
    (h : TransferAsked request trace id) (rest : Trace) :
    TransferAsked request (trace ++ rest) id := by
  rcases h with ⟨checkpoint, authorization, h⟩ | ⟨missing, h⟩
  · exact .inl ⟨checkpoint, authorization, h.append rest⟩
  · exact .inr ⟨missing, h.append rest⟩

end History

/-! ## Acknowledged windows -/

def acknowledgedCheckpoint : Effect → Option EncryptedUploadV2Checkpoint
  | .encryptedUploadV2 (.acknowledgeWindow checkpoint) => some checkpoint
  | _ => none

def startedCheckpoint : Effect → Option (Option EncryptedUploadV2Checkpoint)
  | .encryptedUploadV2 (.startTransfer _ checkpoint _) => some checkpoint
  | _ => none

/-- The checkpoints acknowledged along a run, oldest first. -/
def acknowledged (trace : Trace) : List EncryptedUploadV2Checkpoint :=
  (requestedIn trace).filterMap acknowledgedCheckpoint

/-- The checkpoint the last start of the transfer resumed from. -/
def resumed (trace : Trace) : Option EncryptedUploadV2Checkpoint :=
  ((requestedIn trace).filterMap startedCheckpoint).getLast?.join

/-- The later checkpoint has a higher revision and does not go back. -/
def Precedes (a b : EncryptedUploadV2Checkpoint) : Prop :=
  a.checkpointRevision < b.checkpointRevision ∧ a.nextCiphertextOffset ≤ b.nextCiphertextOffset

/-- `a` is at or before `b`. -/
def AtMost (a b : EncryptedUploadV2Checkpoint) : Prop :=
  a.checkpointRevision ≤ b.checkpointRevision ∧ a.nextCiphertextOffset ≤ b.nextCiphertextOffset

structure WindowsOrdered (trace : Trace) : Prop where
  sorted : (acknowledged trace).Pairwise Precedes
  above : ∀ a ∈ resumed trace, ∀ b ∈ acknowledged trace, Precedes a b

/-- Everything resumed from or acknowledged is at or before `latest`. -/
def Covers (trace : Trace) (latest : Option EncryptedUploadV2Checkpoint) : Prop :=
  ∀ a, a ∈ resumed trace ∨ a ∈ acknowledged trace → ∃ b ∈ latest, AtMost a b

section Windows

variable {trace : Trace} {entry : EngineEntry EncryptedUploadV2Workflow}
  {latest : Option EncryptedUploadV2Checkpoint} {effects : List (RequestId × Effect)}

theorem requestedIn_issues (h : issues entry.output.effects = effects) :
    requestedIn (trace ++ [entry]) = requestedIn trace ++ effects.map Prod.snd := by
  rw [requestedIn_append, requestedIn_singleton, ← h, issues, List.map_map]
  rfl

theorem acknowledged_issues (h : issues entry.output.effects = effects) :
    acknowledged (trace ++ [entry]) =
      acknowledged trace ++ (effects.map Prod.snd).filterMap acknowledgedCheckpoint := by
  rw [acknowledged, requestedIn_issues h, List.filterMap_append]
  rfl

theorem resumed_issues_start {n : RequestId} {request : EncryptedUploadV2BatchRequest}
    {authorization : FixedBytes 32} {checkpoint : Option EncryptedUploadV2Checkpoint}
    (h : issues entry.output.effects =
      [(n, .encryptedUploadV2 (.startTransfer request checkpoint authorization))]) :
    resumed (trace ++ [entry]) = checkpoint := by
  rw [resumed, requestedIn_issues h, List.filterMap_append]
  simp [startedCheckpoint]

theorem resumed_issues (h : issues entry.output.effects = effects)
    (hstart : (effects.map Prod.snd).filterMap startedCheckpoint = []) :
    resumed (trace ++ [entry]) = resumed trace := by
  rw [resumed, requestedIn_issues h, List.filterMap_append, hstart, List.append_nil]
  rfl

/-- A step that acknowledges nothing and starts nothing. -/
theorem windows_unchanged (trace : Trace) (h : issues entry.output.effects = effects)
    (hstart : (effects.map Prod.snd).filterMap startedCheckpoint = [])
    (hack : (effects.map Prod.snd).filterMap acknowledgedCheckpoint = []) :
    resumed (trace ++ [entry]) = resumed trace ∧
      acknowledged (trace ++ [entry]) = acknowledged trace := by
  rw [resumed_issues h hstart, acknowledged_issues h, hack, List.append_nil]
  exact ⟨rfl, rfl⟩

theorem WindowsOrdered.congr {trace' : Trace} (h : WindowsOrdered trace)
    (hsame : resumed trace' = resumed trace ∧ acknowledged trace' = acknowledged trace) :
    WindowsOrdered trace' := by
  constructor
  · rw [hsame.2]
    exact h.sorted
  · rw [hsame.1, hsame.2]
    exact h.above

theorem Covers.congr {trace' : Trace} (h : Covers trace latest)
    (hsame : resumed trace' = resumed trace ∧ acknowledged trace' = acknowledged trace) :
    Covers trace' latest := by
  rw [Covers, hsame.1, hsame.2]
  exact h

/-- A started transfer has acknowledged nothing and covers what it resumed from. -/
theorem covers_resumed (hacked : acknowledged trace = []) (hresumed : resumed trace = latest) :
    Covers trace latest := by
  intro a ha
  rw [hacked, hresumed] at ha
  rcases ha with ha | ha
  · exact ⟨a, ha, Nat.le_refl _, Nat.le_refl _⟩
  · exact absurd ha (List.not_mem_nil)

/-- A checkpoint above the selected one is above everything it covers. -/
theorem Covers.precedes {c : EncryptedUploadV2BatchCoordinator} {b : EncryptedUploadV2Checkpoint}
    (h : Covers trace c.selectedCheckpoint) (hmonotonic : c.checkpointIsMonotonic b)
    {a : EncryptedUploadV2Checkpoint} (ha : a ∈ resumed trace ∨ a ∈ acknowledged trace) :
    Precedes a b := by
  obtain ⟨current, hcurrent, hrevision, hoffset⟩ := h a ha
  rw [Option.mem_def] at hcurrent
  rw [EncryptedUploadV2BatchCoordinator.checkpointIsMonotonic, hcurrent] at hmonotonic
  simp only [Bool.and_eq_true, decide_eq_true_eq] at hmonotonic
  exact ⟨by omega, by omega⟩

/-- Acknowledging a checkpoint above the selected one keeps the windows ordered. -/
theorem windows_acknowledged {n : RequestId} {c : EncryptedUploadV2BatchCoordinator}
    {b : EncryptedUploadV2Checkpoint}
    (h : issues entry.output.effects = [(n, .encryptedUploadV2 (.acknowledgeWindow b))])
    (hordered : WindowsOrdered trace) (hcovers : Covers trace c.selectedCheckpoint)
    (hmonotonic : c.checkpointIsMonotonic b) :
    WindowsOrdered (trace ++ [entry]) ∧ Covers (trace ++ [entry]) (some b) := by
  have hacked : acknowledged (trace ++ [entry]) = acknowledged trace ++ [b] :=
    acknowledged_issues h
  have hresumed : resumed (trace ++ [entry]) = resumed trace := resumed_issues h rfl
  have hprecedes : ∀ a, a ∈ resumed trace ∨ a ∈ acknowledged trace → Precedes a b :=
    fun a ha => hcovers.precedes hmonotonic ha
  constructor
  · constructor
    · rw [hacked, List.pairwise_append]
      refine ⟨hordered.sorted, List.pairwise_singleton _ _, fun a ha b' hb' => ?_⟩
      obtain rfl := List.mem_singleton.mp hb'
      exact hprecedes a (.inr ha)
    · intro a ha b' hb'
      rw [hresumed] at ha
      rw [hacked] at hb'
      rcases List.mem_append.mp hb' with hb' | hb'
      · exact hordered.above a ha b' hb'
      · obtain rfl := List.mem_singleton.mp hb'
        exact hprecedes a (.inl ha)
  · intro a ha
    rw [hresumed, hacked, List.mem_append, ← or_assoc] at ha
    rcases ha with ha | ha
    · have hlt := hprecedes a ha
      exact ⟨b, rfl, Nat.le_of_lt hlt.1, hlt.2⟩
    · obtain rfl := List.mem_singleton.mp ha
      exact ⟨a, rfl, Nat.le_refl _, Nat.le_refl _⟩

end Windows

/-! ## The invariant -/

/-- Whatever the workflow awaits was asked for. -/
def Awaits (w : EncryptedUploadV2Workflow) (Asked : RequestId → Prop) : Prop :=
  ∀ id, w.expectedRequestId = some id → Asked id

/-- What the history of a run has to offer in each phase. -/
def PhaseFacts (request : EncryptedUploadV2BatchRequest) (trace : Trace)
    (w : EncryptedUploadV2Workflow) : Prop :=
  let c := w.coordinator
  match c.phase with
  | .loadingCheckpoint | .truncating | .preparing => acknowledged trace = []
  | .restartTruncating =>
    acknowledged trace = [] ∧ c.authorizationSha256.isSome ∧ c.selectedCheckpoint = none
  | .starting =>
    acknowledged trace = [] ∧ c.authorizationSha256.isSome ∧
      resumed trace = c.selectedCheckpoint ∧ Awaits w (TransferAsked request trace)
  | .transferring =>
    Covers trace c.selectedCheckpoint ∧ Awaits w (TransferAsked request trace)
  | .savingCheckpoint =>
    Covers trace c.selectedCheckpoint ∧ ∃ checkpoint, c.pendingCheckpoint = some checkpoint ∧
      c.checkpointIsMonotonic checkpoint ∧
      Awaits w (Issued trace · (.encryptedUploadV2 (.saveCheckpoint checkpoint)))
  | .acknowledgingWindow => Covers trace c.pendingCheckpoint
  | .staging => ∃ evidence, c.transferEvidence = some evidence ∧ Proves request evidence ∧
    Awaits w (ArtifactsAsked request evidence trace)
  | .waitingForReceipt => ∃ evidence, Proves request evidence ∧
    Awaits w (ReceiptAsked request evidence trace)
  | .confirming => ∃ evidence receiptSha256, Proves request evidence ∧
    Awaits w (ConfirmationAsked request evidence receiptSha256 trace)
  | .ready | .completed | .cancelled | .failed => False

structure Inv (request : EncryptedUploadV2BatchRequest) (trace : Trace)
    (w : EncryptedUploadV2Workflow) : Prop where
  request_eq : w.coordinator.request = request
  successful : ∀ entry ∈ trace, ¬Unsuccessful entry
  transfer : ∀ id, w.transferRequestId = some id → TransferAsked request trace id
  windows : WindowsOrdered trace
  phase : PhaseFacts request trace w

section Steps

variable {request : EncryptedUploadV2BatchRequest} {trace : Trace} {w w' : EncryptedUploadV2Workflow}
  {entry : EngineEntry EncryptedUploadV2Workflow} {n id : RequestId}
  {event : EncryptedUploadV2HostEvent} {effects : List (RequestId × Effect)}

theorem Inv.formed (h : Inv request trace w) : w.coordinator.Formed := by
  have hphase := h.phase
  rw [PhaseFacts] at hphase
  constructor
  · intro hterminal
    cases heq : w.coordinator.phase <;> simp_all [Phase.isTerminal]
  · rintro (heq | heq)
    · rw [heq] at hphase
      exact hphase.2.1
    · rw [heq] at hphase
      exact hphase.2.1
  · intro heq
    rw [heq] at hphase
    obtain ⟨-, checkpoint, hpending, -⟩ := hphase
    rw [hpending]
    rfl
  · intro heq
    rw [heq] at hphase
    obtain ⟨evidence, hevidence, -⟩ := hphase
    rw [hevidence]
    rfl

theorem Transition.not_failure (hstep : Transition w n id event w' effects)
    (hrunning : ¬w'.coordinator.phase.isTerminal) :
    event ≠ .mixedProfile ∧ ∀ error, event ≠ .failed error := by
  cases hstep with
  | failed => exact absurd rfl hrunning
  | _ => exact ⟨nofun, fun _ => nofun⟩

theorem Transition.no_failure_reported (hstep : Transition w n id event w' effects)
    (hrunning : ¬w'.coordinator.phase.isTerminal) (m : RequestId) (error : DeviceSdkError) :
    (m, .notify (.failed error)) ∉ effects := by
  cases hstep with
  | failed => exact absurd rfl hrunning
  | _ => simp

/-- A transition into a running phase is no unsuccessful end. -/
theorem Transition.successful (hstep : Transition w n id event w' effects)
    (hrunning : ¬w'.coordinator.phase.isTerminal)
    (hinput : entry.input = .host ⟨id, .encryptedUploadV2 event⟩)
    (hissues : issues entry.output.effects = effects) : ¬Unsuccessful entry := by
  obtain ⟨hmixed, hfailed⟩ := hstep.not_failure hrunning
  rintro (⟨hother, -⟩ | ⟨hother, -⟩ | ⟨-, hother⟩ | hreported)
  · rw [hinput] at hother
    simp only [Event.host.injEq, HostEvent.mk.injEq, HostEventKind.encryptedUploadV2.injEq] at hother
    exact hfailed _ hother.2
  · rw [hinput] at hother
    simp only [Event.host.injEq, HostEvent.mk.injEq, HostEventKind.encryptedUploadV2.injEq] at hother
    exact hmixed hother.2
  · rw [hinput] at hother
    exact nomatch hother
  · rw [Issues, hissues] at hreported
    exact hstep.no_failure_reported hrunning _ _ hreported

theorem Awaits.append {Asked : Trace → RequestId → Prop} (h : Awaits w (Asked trace))
    (hexpected : ∀ id, w'.expectedRequestId = some id → w.expectedRequestId = some id)
    (happend : ∀ id, Asked trace id → Asked (trace ++ [entry]) id) :
    Awaits w' (Asked (trace ++ [entry])) :=
  fun id hid => happend id (h id (hexpected id hid))

/-- A step that issues nothing and at most forgets the awaited request keeps the phase's facts. -/
theorem PhaseFacts.quiet (h : PhaseFacts request trace w) (hweakens : Weakens w w')
    (hquiet : entry.output.effects = []) : PhaseFacts request (trace ++ [entry]) w' := by
  have hissues : issues entry.output.effects = [] := by
    rw [hquiet]
    rfl
  have hsame : resumed (trace ++ [entry]) = resumed trace ∧
      acknowledged (trace ++ [entry]) = acknowledged trace := windows_unchanged _ hissues rfl rfl
  have hresumed := hsame.1
  have hacked := hsame.2
  rw [PhaseFacts] at h ⊢
  rw [hweakens.coordinator]
  cases hphase : w.coordinator.phase <;> rw [hphase] at h <;> simp only at h ⊢
  case loadingCheckpoint | truncating | preparing => rwa [hacked]
  case restartTruncating => rwa [hacked]
  case starting =>
    rw [hacked, hresumed]
    exact ⟨h.1, h.2.1, h.2.2.1, h.2.2.2.append hweakens.expected fun _ h => h.append _⟩
  case transferring =>
    exact ⟨h.1.congr hsame, h.2.append hweakens.expected fun _ h => h.append _⟩
  case savingCheckpoint =>
    obtain ⟨hcovers, checkpoint, hpending, hmonotonic, hawaits⟩ := h
    exact ⟨hcovers.congr hsame, checkpoint, hpending, hmonotonic,
      fun id hid => (hawaits id (hweakens.expected id hid)).append _⟩
  case acknowledgingWindow => exact h.congr hsame
  case staging =>
    obtain ⟨evidence, hevidence, hproves, hawaits⟩ := h
    exact ⟨evidence, hevidence, hproves,
      hawaits.append hweakens.expected fun _ h => Followed.append h _⟩
  case waitingForReceipt =>
    obtain ⟨evidence, hproves, hawaits⟩ := h
    exact ⟨evidence, hproves, hawaits.append hweakens.expected fun _ h => Followed.append h _⟩
  case confirming =>
    obtain ⟨evidence, receiptSha256, hproves, hawaits⟩ := h
    exact ⟨evidence, receiptSha256, hproves,
      hawaits.append hweakens.expected fun _ h => Followed.append h _⟩

theorem Inv.quiet (h : Inv request trace w) (hweakens : Weakens w w')
    (hquiet : entry.output.effects = []) (hsuccessful : ¬Unsuccessful entry) :
    Inv request (trace ++ [entry]) w' := by
  have hissues : issues entry.output.effects = [] := by
    rw [hquiet]
    rfl
  constructor
  · rw [hweakens.coordinator]
    exact h.request_eq
  · intro e he
    rcases List.mem_append.mp he with he | he
    · exact h.successful e he
    · obtain rfl := List.mem_singleton.mp he
      exact hsuccessful
  · intro id hid
    exact (h.transfer id (hweakens.transfer id hid)).append _
  · exact h.windows.congr (windows_unchanged _ hissues rfl rfl)
  · exact h.phase.quiet hweakens hquiet

theorem acked_nil (hacked : acknowledged trace = []) : WindowsOrdered trace := by
  constructor
  · rw [hacked]
    exact .nil
  · intro a _ b hb
    rw [hacked] at hb
    exact absurd hb List.not_mem_nil

/-- What an accepted event does to the windows and to the facts of the phase. -/
theorem Transition.facts (hstep : Transition w n id event w' effects)
    (hinv : Inv request trace w) (haccepted : Accepted entry id event)
    (hid : w.expectedRequestId = some id) (hissues : issues entry.output.effects = effects)
    (hrunning : ¬w'.coordinator.phase.isTerminal) :
    WindowsOrdered (trace ++ [entry]) ∧ PhaseFacts request (trace ++ [entry]) w' := by
  have hphase := hinv.phase
  have hrequest := hinv.request_eq
  subst hrequest
  have hissued : ∀ {m effect}, (m, effect) ∈ effects → Issues entry m effect := by
    intro m effect hmem
    rw [Issues, hissues]
    exact hmem
  rw [PhaseFacts] at hphase ⊢
  -- a start and an acknowledgement change the windows, the other steps carry them on
  cases hstep with
  | checkpointKept hloading =>
    have hsame := windows_unchanged trace hissues rfl rfl
    rw [hloading] at hphase
    exact ⟨hinv.windows.congr hsame, hsame.2.trans hphase⟩
  | checkpointDropped hloading =>
    have hsame := windows_unchanged trace hissues rfl rfl
    rw [hloading] at hphase
    exact ⟨hinv.windows.congr hsame, hsame.2.trans hphase⟩
  | sinkTruncated htruncating =>
    have hsame := windows_unchanged trace hissues rfl rfl
    rw [htruncating] at hphase
    exact ⟨hinv.windows.congr hsame, hsame.2.trans hphase⟩
  | sinkRestarted hrestart hauthorization =>
    rw [hrestart] at hphase
    obtain ⟨hnone, -, hselected⟩ := hphase
    have hacked : acknowledged (trace ++ [entry]) = [] := by
      rw [acknowledged_issues hissues, hnone]
      rfl
    refine ⟨acked_nil hacked, hacked, ?_, ?_, ?_⟩
    · rw [hauthorization]
      rfl
    · rw [resumed_issues_start hissues, hselected]
    · intro m hm
      obtain rfl := Option.some.inj hm
      exact .inl ⟨_, _, (hissued List.mem_cons_self).issued _⟩
  | sessionPrepared hpreparing =>
    rw [hpreparing] at hphase
    have hacked : acknowledged (trace ++ [entry]) = [] := by
      rw [acknowledged_issues hissues, hphase]
      rfl
    refine ⟨acked_nil hacked, hacked, rfl, resumed_issues_start hissues, ?_⟩
    intro m hm
    obtain rfl := Option.some.inj hm
    exact .inl ⟨_, _, (hissued List.mem_cons_self).issued _⟩
  | transferStarted hstarting =>
    have hsame := windows_unchanged trace hissues rfl rfl
    rw [hstarting] at hphase
    obtain ⟨hnone, -, hresumed, hawaits⟩ := hphase
    refine ⟨hinv.windows.congr hsame,
      covers_resumed (hsame.2.trans hnone) (hsame.1.trans hresumed), ?_⟩
    intro m hm
    obtain rfl := Option.some.inj hm
    exact (hawaits id hid).append _
  | resumeRejected hstarting hselected =>
    have hsame := windows_unchanged trace hissues rfl rfl
    rw [hstarting] at hphase
    exact ⟨hinv.windows.congr hsame, hsame.2.trans hphase.1, hphase.2.1, rfl⟩
  | windowIncomplete htransferring =>
    have hsame := windows_unchanged trace hissues rfl rfl
    rw [htransferring] at hphase ⊢
    refine ⟨hinv.windows.congr hsame, hphase.1.congr hsame, ?_⟩
    intro m hm
    obtain rfl := Option.some.inj hm
    exact .inr ⟨_, (hissued List.mem_cons_self).issued _⟩
  | @windowStaged checkpoint htransferring _ hmonotonic =>
    have hsame := windows_unchanged trace hissues rfl rfl
    rw [htransferring] at hphase
    refine ⟨hinv.windows.congr hsame, hphase.1.congr hsame, checkpoint, rfl, hmonotonic, ?_⟩
    intro m hm
    obtain rfl := Option.some.inj hm
    exact (hissued List.mem_cons_self).issued _
  | checkpointSaved hsaving hpending =>
    -- the window is acknowledged now that its checkpoint is saved
    rw [hsaving] at hphase
    obtain ⟨hcovers, other, hother, hmonotonic, -⟩ := hphase
    obtain rfl := Option.some.inj (hpending.symm.trans hother)
    have hwindows := windows_acknowledged hissues hinv.windows hcovers hmonotonic
    refine ⟨hwindows.1, ?_⟩
    rw [← hpending] at hwindows
    exact hwindows.2
  | windowAcknowledged hacknowledging hpending =>
    have hsame := windows_unchanged trace hissues rfl rfl
    rw [hacknowledging] at hphase
    change Covers trace w.coordinator.pendingCheckpoint at hphase
    rw [hpending] at hphase
    exact ⟨hinv.windows.congr hsame, hphase.congr hsame,
      fun m hm => (hinv.transfer m hm).append _⟩
  | @transferCompleted evidence htransferring hlength hsha256 hmanifest hblocks =>
    have hsame := windows_unchanged trace hissues rfl rfl
    rw [htransferring] at hphase
    refine ⟨hinv.windows.congr hsame, evidence, rfl, ⟨hlength, hsha256, hmanifest, hblocks⟩, ?_⟩
    intro m hm
    obtain rfl := Option.some.inj hm
    exact Followed.last haccepted (hphase.2 id hid) (hissued List.mem_cons_self)
  | artifactsStaged hstaging hevidence =>
    have hsame := windows_unchanged trace hissues rfl rfl
    rw [hstaging] at hphase
    obtain ⟨other, hother, hproves, hawaits⟩ := hphase
    obtain rfl := Option.some.inj (hevidence.symm.trans hother)
    refine ⟨hinv.windows.congr hsame, _, hproves, ?_⟩
    intro m hm
    obtain rfl := Option.some.inj hm
    exact Followed.last haccepted (hawaits id hid)
      (hissued (List.mem_cons_of_mem _ List.mem_cons_self))
  | @completionReceiptAccepted receiptSha256 hwaiting =>
    have hsame := windows_unchanged trace hissues rfl rfl
    rw [hwaiting] at hphase
    obtain ⟨evidence, hproves, hawaits⟩ := hphase
    refine ⟨hinv.windows.congr hsame, evidence, receiptSha256, hproves, ?_⟩
    intro m hm
    obtain rfl := Option.some.inj hm
    exact Followed.last haccepted (hawaits id hid) (hissued List.mem_cons_self)
  | recordingConfirmed => exact absurd rfl hrunning
  | failed => exact absurd rfl hrunning

theorem Transition.request_eq (hstep : Transition w n id event w' effects) :
    w'.coordinator.request = w.coordinator.request := by
  cases hstep <;> rfl

theorem Transition.transfer (hstep : Transition w n id event w' effects)
    (hinv : Inv request trace w) (hid : w.expectedRequestId = some id)
    (hissues : issues entry.output.effects = effects)
    (hrunning : ¬w'.coordinator.phase.isTerminal) (m : RequestId)
    (hm : w'.transferRequestId = some m) : TransferAsked request (trace ++ [entry]) m := by
  have hrequest := hinv.request_eq
  subst hrequest
  have hkept : w.transferRequestId = some m →
      TransferAsked w.coordinator.request (trace ++ [entry]) m :=
    fun h => (hinv.transfer m h).append _
  have hissued : ∀ {m effect}, (m, effect) ∈ effects → Issued (trace ++ [entry]) m effect := by
    intro m effect hmem
    rw [← hissues] at hmem
    exact Issues.issued hmem trace
  cases hstep with
  | sinkRestarted =>
    obtain rfl := Option.some.inj hm
    exact .inl ⟨_, _, hissued List.mem_cons_self⟩
  | sessionPrepared =>
    obtain rfl := Option.some.inj hm
    exact .inl ⟨_, _, hissued List.mem_cons_self⟩
  | transferStarted hstarting =>
    obtain rfl := Option.some.inj hm
    have hphase := hinv.phase
    rw [PhaseFacts, hstarting] at hphase
    exact (hphase.2.2.2 id hid).append _
  | resumeRejected => exact nomatch hm
  | transferCompleted => exact nomatch hm
  | failed => exact absurd rfl hrunning
  | _ => exact hkept hm

/-- A transition into a terminal phase acknowledges nothing more. -/
theorem Transition.windows_terminal (hstep : Transition w n id event w' effects)
    (hinv : Inv request trace w) (hissues : issues entry.output.effects = effects)
    (hend : w'.coordinator.phase.isTerminal) : WindowsOrdered (trace ++ [entry]) := by
  cases hstep with
  | recordingConfirmed => exact hinv.windows.congr (windows_unchanged _ hissues rfl rfl)
  | failed => exact hinv.windows.congr (windows_unchanged _ hissues rfl rfl)
  | windowIncomplete => exact absurd hend hinv.formed.running
  | _ => exact absurd hend Bool.false_ne_true

end Steps

/-! ## One entry of a run -/

/-- What an entry may issue, given the history before it. -/
structure Ordered (request : EncryptedUploadV2BatchRequest) (before : Trace)
    (entry : EngineEntry EncryptedUploadV2Workflow) : Prop where
  confirms : ∀ id materialId receiptSha256,
    Issues entry id (.encryptedUploadV2 (.confirmWithReceipt materialId receiptSha256)) →
    ∃ answered evidence, Accepted entry answered (.completionReceiptAccepted receiptSha256) ∧
      ReceiptAsked request evidence before answered ∧ Proves request evidence
  completes : ∀ id operation, Issues entry id (.notify (.completed operation)) →
    ∃ answered evidence receiptSha256, Accepted entry answered .recordingConfirmed ∧
      ConfirmationAsked request evidence receiptSha256 before answered ∧ Proves request evidence
  acknowledges : ∀ id checkpoint,
    Issues entry id (.encryptedUploadV2 (.acknowledgeWindow checkpoint)) →
    ∃ answered, Accepted entry answered .checkpointSaved ∧
      Issued before answered (.encryptedUploadV2 (.saveCheckpoint checkpoint))
  stopped : (∃ e ∈ before, Unsuccessful e) → entry.output.effects = []

section Entries

variable {request : EncryptedUploadV2BatchRequest} {trace : Trace} {w w' : EncryptedUploadV2Workflow}
  {entry : EngineEntry EncryptedUploadV2Workflow} {n m id : RequestId}
  {event : EncryptedUploadV2HostEvent} {effects : List (RequestId × Effect)}

theorem Ordered.of_quiet (hquiet : entry.output.effects = []) : Ordered request trace entry := by
  have hnone : ∀ id effect, ¬Issues entry id effect := by
    intro id effect hissues
    rw [Issues, hquiet] at hissues
    exact absurd hissues List.not_mem_nil
  exact ⟨fun _ _ _ h => absurd h (hnone _ _), fun _ _ h => absurd h (hnone _ _),
    fun _ _ h => absurd h (hnone _ _), fun _ => hquiet⟩

theorem Transition.confirms {materialId : HostMaterialId} {receiptSha256 : FixedBytes 32}
    (hstep : Transition w n id event w' effects)
    (h : (m, .encryptedUploadV2 (.confirmWithReceipt materialId receiptSha256)) ∈ effects) :
    w.coordinator.phase = .waitingForReceipt ∧
      event = .completionReceiptAccepted receiptSha256 := by
  cases hstep with
  | completionReceiptAccepted hwaiting =>
    simp only [List.mem_singleton, Prod.mk.injEq, Effect.encryptedUploadV2.injEq,
      EncryptedUploadV2HostEffect.confirmWithReceipt.injEq] at h
    rw [h.2.2]
    exact ⟨hwaiting, rfl⟩
  | _ => simp at h

theorem Transition.completes {operation : Operation}
    (hstep : Transition w n id event w' effects)
    (h : (m, .notify (.completed operation)) ∈ effects) :
    w.coordinator.phase = .confirming ∧ event = .recordingConfirmed := by
  cases hstep with
  | recordingConfirmed hconfirming => exact ⟨hconfirming, rfl⟩
  | _ => simp at h

theorem Transition.acknowledges {checkpoint : EncryptedUploadV2Checkpoint}
    (hstep : Transition w n id event w' effects)
    (h : (m, .encryptedUploadV2 (.acknowledgeWindow checkpoint)) ∈ effects) :
    w.coordinator.phase = .savingCheckpoint ∧
      w.coordinator.pendingCheckpoint = some checkpoint ∧ event = .checkpointSaved := by
  cases hstep with
  | checkpointSaved hsaving hpending =>
    simp only [List.mem_singleton, Prod.mk.injEq, Effect.encryptedUploadV2.injEq,
      EncryptedUploadV2HostEffect.acknowledgeWindow.injEq] at h
    rw [h.2]
    exact ⟨hsaving, hpending, rfl⟩
  | _ => simp at h

theorem Transition.ordered (hstep : Transition w n id event w' effects)
    (hinv : Inv request trace w) (haccepted : Accepted entry id event)
    (hid : w.expectedRequestId = some id) (hissues : issues entry.output.effects = effects) :
    Ordered request trace entry := by
  have hphase := hinv.phase
  rw [PhaseFacts] at hphase
  constructor
  · intro m materialId receiptSha256 hconfirm
    rw [Issues, hissues] at hconfirm
    obtain ⟨hwaiting, rfl⟩ := hstep.confirms hconfirm
    rw [hwaiting] at hphase
    obtain ⟨evidence, hproves, hawaits⟩ := hphase
    exact ⟨id, evidence, haccepted, hawaits id hid, hproves⟩
  · intro m operation hcomplete
    rw [Issues, hissues] at hcomplete
    obtain ⟨hconfirming, rfl⟩ := hstep.completes hcomplete
    rw [hconfirming] at hphase
    obtain ⟨evidence, receiptSha256, hproves, hawaits⟩ := hphase
    exact ⟨id, evidence, receiptSha256, haccepted, hawaits id hid, hproves⟩
  · intro m checkpoint hacknowledge
    rw [Issues, hissues] at hacknowledge
    obtain ⟨hsaving, hpending, rfl⟩ := hstep.acknowledges hacknowledge
    rw [hsaving] at hphase
    obtain ⟨-, other, hother, -, hawaits⟩ := hphase
    obtain rfl := Option.some.inj (hpending.symm.trans hother)
    exact ⟨id, haccepted, hawaits id hid⟩
  · rintro ⟨e, he, hunsuccessful⟩
    exact absurd hunsuccessful (hinv.successful e he)

/-- Every entry of a run is ordered with respect to what came before it. -/
theorem ordered_of_inv (hinv : ∀ w, entry.pre.active = some w → Inv request trace w)
    (hout : entry.output = (entry.pre.dispatch entry.input).2) : Ordered request trace entry := by
  obtain ⟨engine, input, output⟩ := entry
  simp only at hinv hout
  cases hact : engine.active with
  | none =>
    refine Ordered.of_quiet ?_
    rw [hout]
    exact (dispatch_ended hact input).2
  | some w =>
    replace hinv := hinv w hact
    cases input with
    | host event =>
      rw [dispatch_active hact] at hout
      rcases dispatch_cases hinv.formed event (engine.context w) with
        ⟨id, hostEvent, call, rfl, hid, hcall, hstep⟩ | ⟨w', error, hreject, -⟩
      · have hred : WorkflowReducer.dispatch w ⟨id, .encryptedUploadV2 hostEvent⟩
            (engine.context w) = .ok call := hcall
        have hok : output = .ok call.effects := by
          rw [hout, hred]
          by_cases hend : call.workflow.coordinator.phase.isTerminal
          · obtain ⟨status, hstatus⟩ := hstep.terminal hinv.formed.running hend
            rw [settle_ended rfl hstatus]
          · rw [settle_running rfl (terminalStatus_of_running hend)]
        subst hok
        exact hstep.ordered hinv ⟨rfl, _, rfl⟩ hid rfl
      · have hred : WorkflowReducer.dispatch w event (engine.context w) = _ := hreject
        rw [hred, settle_err rfl] at hout
        subst hout
        exact Ordered.of_quiet rfl
    | cancelled id =>
      by_cases hid : WorkflowReducer.cancellationId w = id
      · subst hid
        obtain ⟨call, hcall, hissues⟩ := cancel_running hinv.formed.running (engine.context w)
        have hred : WorkflowReducer.cancel w (engine.context w) = .ok call := hcall
        have hok : (WorkflowReducer.cancel w (engine.context w)).outcome = .ok call.effects := by
          rw [hred]
          rfl
        rw [cancel_active hact hok] at hout
        subst hout
        -- the cancellation aborts the transfer, and asks for nothing that is ordered
        constructor
        · intro m materialId receiptSha256 hconfirm
          rw [Issues, Outcome.effects, hissues] at hconfirm
          simp at hconfirm
        · intro m operation hcomplete
          rw [Issues, Outcome.effects, hissues] at hcomplete
          simp at hcomplete
        · intro m checkpoint hacknowledge
          rw [Issues, Outcome.effects, hissues] at hacknowledge
          simp at hacknowledge
        · rintro ⟨e, he, hunsuccessful⟩
          exact absurd hunsuccessful (hinv.successful e he)
      · refine Ordered.of_quiet ?_
        rw [hout]
        exact (cancel_foreign hact hid).2

end Entries

/-! ## Runs -/

section Runs

variable {request : EncryptedUploadV2BatchRequest} {trace : Trace}
  {engine₀ engine : WorkflowEngine EncryptedUploadV2Workflow}

theorem Fresh.inv {w : EncryptedUploadV2Workflow} (h : Fresh request w) : Inv request [] w := by
  constructor
  · exact h.request_eq
  · exact fun entry hentry => absurd hentry List.not_mem_nil
  · intro id hid
    rw [h.transfer_eq] at hid
    exact nomatch hid
  · exact acked_nil rfl
  · rw [PhaseFacts]
    rcases h.phase_eq with hphase | hphase
    · rw [hphase]
      rfl
    · rw [hphase]
      rfl

theorem run_inv (hstart : Started request engine₀)
    (h : EngineRun (fun _ _ _ => True) engine₀ trace engine) :
    Settled (Inv request) WindowsOrdered trace engine := by
  refine run_rule ?_ (fun _ _ hinv => hinv.formed) ?_ ?_ ?_ ?_ ?_ h
  -- at the start
  · obtain ⟨w, hact, hfresh⟩ := hstart.active
    rw [settled_active hact]
    exact hfresh.inv
  -- an accepted event
  · intro trace w event entry id w' hinv _ hinput hid hok hstep
    split
    · rename_i hend
      exact hstep.windows_terminal hinv rfl hend
    · rename_i hrunning
      obtain ⟨hwindows, hphase⟩ := hstep.facts hinv ⟨hinput, hok⟩ hid rfl hrunning
      constructor
      · rw [hstep.request_eq]
        exact hinv.request_eq
      · intro e he
        rcases List.mem_append.mp he with he | he
        · exact hinv.successful e he
        · obtain rfl := List.mem_singleton.mp he
          exact hstep.successful hrunning hinput rfl
      · exact hstep.transfer hinv hid rfl hrunning
      · exact hwindows
      · exact hphase
  -- an event that is rejected
  · intro trace w entry w' event error hinv _ hinput herr hweakens
    have hquiet : entry.output.effects = [] := by
      rw [herr]
      rfl
    refine hinv.quiet hweakens hquiet ?_
    rintro (⟨-, effects, hok⟩ | ⟨-, effects, hok⟩ | ⟨-, hother⟩ | hreported)
    · rw [herr] at hok
      exact nomatch hok
    · rw [herr] at hok
      exact nomatch hok
    · rw [hinput] at hother
      exact nomatch hother
    · rw [Issues, hquiet] at hreported
      exact absurd hreported List.not_mem_nil
  -- the workflow is cancelled
  · intro trace w entry n hinv hissues
    exact hinv.windows.congr (windows_unchanged _ hissues rfl rfl)
  -- another workflow's cancellation
  · intro trace w entry id hinv hact hinput hforeign hquiet
    refine hinv.quiet (.refl w) hquiet ?_
    rintro (⟨hother, -⟩ | ⟨hother, -⟩ | ⟨hother, hcancelled⟩ | hreported)
    · rw [hinput] at hother
      exact nomatch hother
    · rw [hinput] at hother
      exact nomatch hother
    · rw [hact] at hother
      obtain rfl := Option.some.inj hother
      rw [hinput] at hcancelled
      exact hforeign (Event.cancelled.inj hcancelled).symm
    · rw [Issues, hquiet] at hreported
      exact absurd hreported List.not_mem_nil
  -- after the end
  · intro trace entry hwindows hquiet
    have hissues : issues entry.output.effects = [] := by
      rw [hquiet]
      rfl
    exact hwindows.congr (windows_unchanged _ hissues rfl rfl)

end Runs

/-! ## A transfer completed while it is being repaired -/

def sampleCheckpoint : EncryptedUploadV2Checkpoint where
  device := sampleRequest.device
  recording := sampleRequest.recording
  recordingGeneration := sampleRequest.recordingGeneration
  uploadSessionUuid := sampleRequest.uploadSessionUuid
  ownerRevision := sampleRequest.ownerRevision
  transportSessionId := sampleRequest.transportSessionId
  checkpointRevision := 1
  nextCiphertextOffset := 200
  prefixSha256 := .replicate 32 4
  windowPackets := sampleRequest.windowPackets
  dataPayloadBytes := sampleRequest.dataPayloadBytes

def sampleEvidence : EncryptedUploadV2TransferEvidence where
  ciphertextLength := sampleRequest.ciphertextLength
  ciphertextSha256 := sampleRequest.ciphertextSha256
  manifestLength := Protocol.UPLOAD_MANIFEST_V2_FIXED_LENGTH
  manifestSha256 := .replicate 32 5
  blockCount := 1

def sampleAnswer (id : RequestId) (event : EncryptedUploadV2HostEvent) : Event :=
  .host ⟨id, .encryptedUploadV2 event⟩

theorem Issued.emitted {trace : Trace} {id : RequestId} {effect : Effect}
    (h : Issued trace id effect) : (id, effect) ∈ issues (emitted trace) := by
  obtain ⟨entry, hmem, hissues⟩ := h
  obtain ⟨request, hrequest, heq⟩ := List.mem_map.mp hissues
  exact List.mem_map.mpr ⟨request, List.mem_flatMap.mpr ⟨entry, hmem, hrequest⟩, heq⟩

end EncryptedUploadV2Workflow

end BotaSdk
