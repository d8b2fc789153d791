import BotaSdk.Workflow.RecordingSteps
import BotaSdk.Workflow.StreamingSteps

/-!
# The host's copy once the recording is confirmed

CONFIRM lets the device delete its recording.  The batch workflow discards the sink after it only
when it is cancelled while it waits for the CONFIRM write; the live workflow also when that write
fails or the device disconnects.
-/

namespace BotaSdk

open Protocol

/-- The write that lets the device delete its recording. -/
def IsConfirm (effect : Effect) : Prop :=
  ∃ recording, effect = .ble (.write SERVICE_BOTA_STORAGE CHAR_TRANSFER_CONTROL
    (encodeTransferCommand (.confirm recording)) true)

/-- The effect discards or truncates what the sink holds. -/
def Destroys : Effect → Bool
  | .recordingSink (.truncate ..) | .recordingSink (.discard ..)
  | .recordingSink (.discardStreaming ..) => true
  | _ => false

/-- Nothing destroys the host's copy after a CONFIRM. -/
def CopyKept (effects : List Effect) : Prop :=
  effects.Pairwise fun earlier later => IsConfirm earlier → ¬Destroys later

section CopyKept

variable {front back : List Effect}

theorem copyKept_append :
    CopyKept (front ++ back) ↔ CopyKept front ∧ CopyKept back ∧
      ∀ earlier ∈ front, ∀ later ∈ back, IsConfirm earlier → ¬Destroys later :=
  List.pairwise_append

theorem copyKept_of_unconfirmed (h : ∀ effect ∈ front, ¬IsConfirm effect) : CopyKept front :=
  List.Pairwise.imp_of_mem (fun hmem _ _ hconfirm => absurd hconfirm (h _ hmem))
    (List.pairwise_of_forall fun _ _ => trivial)

theorem copyKept_of_harmless (h : ∀ effect ∈ front, ¬Destroys effect) : CopyKept front :=
  List.Pairwise.imp_of_mem (fun _ hmem _ _ => h _ hmem)
    (List.pairwise_of_forall fun _ _ => trivial)

/-- Destroying after a CONFIRM is what `CopyKept` excludes. -/
theorem not_copyKept (hfront : ∃ effect ∈ front, IsConfirm effect)
    (hback : ∃ effect ∈ back, Destroys effect) : ¬CopyKept (front ++ back) := by
  obtain ⟨earlier, hearlier, hconfirm⟩ := hfront
  obtain ⟨later, hlater, hdestroys⟩ := hback
  intro h
  exact (copyKept_append.mp h).2.2 earlier hearlier later hlater hconfirm hdestroys

end CopyKept

/-- How far a run has come: `confirming` says whether it waits for the CONFIRM write. -/
structure Confirmation (confirming : Prop) (effects : List Effect) : Prop where
  kept : CopyKept effects
  confirmed : confirming → ∃ effect ∈ effects, IsConfirm effect
  unconfirmed : ¬confirming → ∀ effect ∈ effects, ¬IsConfirm effect

/-- What a step that ends in the copy's favour requests: before the CONFIRM it writes it, alone, or
does not write it; after it, it destroys nothing. -/
structure Careful (confirming confirming' : Prop) (effects : List Effect) : Prop where
  before : ¬confirming → (confirming' ∧ ∃ effect, effects = [effect] ∧ IsConfirm effect) ∨
    (¬confirming' ∧ ∀ effect ∈ effects, ¬IsConfirm effect)
  after : confirming → ∀ effect ∈ effects, ¬Destroys effect

section Confirmation

variable {confirming confirming' : Prop} {front back : List Effect}

theorem Confirmation.nil (h : ¬confirming) : Confirmation confirming [] :=
  ⟨.nil, fun hc => absurd hc h, fun _ _ hmem => absurd hmem List.not_mem_nil⟩

/-- A run before the CONFIRM, extended by effects that do not write it. -/
theorem Confirmation.unconfirmed_append (h : Confirmation confirming front) (hbefore : ¬confirming)
    (hback : ∀ effect ∈ back, ¬IsConfirm effect) : ∀ effect ∈ front ++ back, ¬IsConfirm effect := by
  intro effect hmem
  rcases List.mem_append.mp hmem with hmem | hmem
  · exact h.unconfirmed hbefore effect hmem
  · exact hback effect hmem

/-- A careful step keeps the copy, whether the run goes on or not. -/
theorem Confirmation.keeps (h : Confirmation confirming front)
    (hstep : Careful confirming confirming' back) : CopyKept (front ++ back) := by
  by_cases hconfirming : confirming
  · have hharmless := hstep.after hconfirming
    rw [copyKept_append]
    exact ⟨h.kept, copyKept_of_harmless hharmless, fun _ _ later hlater _ => hharmless later hlater⟩
  · rcases hstep.before hconfirming with ⟨-, effect, rfl, -⟩ | ⟨-, hnone⟩
    · rw [copyKept_append]
      refine ⟨h.kept, List.pairwise_singleton _ _, fun earlier hearlier later _ hearly => ?_⟩
      exact absurd hearly (h.unconfirmed hconfirming earlier hearlier)
    · exact copyKept_of_unconfirmed (h.unconfirmed_append hconfirming hnone)

theorem Confirmation.step (h : Confirmation confirming front)
    (hstep : Careful confirming confirming' back) (hstays : confirming → confirming') :
    Confirmation confirming' (front ++ back) := by
  refine ⟨h.keeps hstep, fun hafter => ?_, fun hafter => ?_⟩
  · by_cases hconfirming : confirming
    · obtain ⟨effect, hmem, hconfirm⟩ := h.confirmed hconfirming
      exact ⟨effect, List.mem_append_left _ hmem, hconfirm⟩
    · rcases hstep.before hconfirming with ⟨-, effect, rfl, hconfirm⟩ | ⟨hnot, -⟩
      · exact ⟨effect, List.mem_append_right _ (List.mem_singleton_self _), hconfirm⟩
      · exact absurd hafter hnot
  · have hconfirming : ¬confirming := fun hc => hafter (hstays hc)
    rcases hstep.before hconfirming with ⟨hnow, -⟩ | ⟨-, hnone⟩
    · exact absurd hnow hafter
    · exact h.unconfirmed_append hconfirming hnone

end Confirmation

/-! ## Runs -/

section Runs

variable {W : Type} {strikes : EngineEntry W → Prop} {trace : List (EngineEntry W)}
  {entry : EngineEntry W} {confirming confirming' : Prop} {effects : List Effect}

/-- A run that no event has struck while it waited for the CONFIRM write. -/
structure Unstruck (strikes : EngineEntry W → Prop) (confirming : Prop)
    (trace : List (EngineEntry W)) : Prop where
  confirmation : Confirmation confirming (requestedIn trace)
  unstruck : ∀ entry ∈ trace, ¬strikes entry

/-- The copy is kept exactly by the runs that no event has struck. -/
def KeptUnlessStruck (strikes : EngineEntry W → Prop) (trace : List (EngineEntry W)) : Prop :=
  CopyKept (requestedIn trace) ↔ ∀ entry ∈ trace, ¬strikes entry

theorem unstruck_append (htrace : ∀ entry ∈ trace, ¬strikes entry) (hentry : ¬strikes entry) :
    ∀ other ∈ trace ++ [entry], ¬strikes other := by
  intro other hmem
  rcases List.mem_append.mp hmem with hmem | hmem
  · exact htrace other hmem
  · rw [List.mem_singleton.mp hmem]
    exact hentry

theorem Unstruck.kept (h : Unstruck strikes confirming trace) : KeptUnlessStruck strikes trace :=
  ⟨fun _ => h.unstruck, fun _ => h.confirmation.kept⟩

/-- A step of the running workflow that does not strike. -/
theorem Unstruck.step (h : Unstruck strikes confirming trace) (hentry : ¬strikes entry)
    (heffects : entry.output.effects.map (·.effect) = effects)
    (hstep : Careful confirming confirming' effects) (hstays : confirming → confirming') :
    Unstruck strikes confirming' (trace ++ [entry]) := by
  refine ⟨?_, unstruck_append h.unstruck hentry⟩
  rw [requestedIn_append, requestedIn_singleton, heffects]
  exact h.confirmation.step hstep hstays

/-- The last step of the workflow, when it does not strike. -/
theorem Unstruck.last (h : Unstruck strikes confirming trace) (hentry : ¬strikes entry)
    (heffects : entry.output.effects.map (·.effect) = effects)
    (hstep : Careful confirming confirming' effects) :
    KeptUnlessStruck strikes (trace ++ [entry]) := by
  refine ⟨fun _ => unstruck_append h.unstruck hentry, fun _ => ?_⟩
  rw [requestedIn_append, requestedIn_singleton, heffects]
  exact h.confirmation.keeps hstep

/-- A step that strikes destroys the copy. -/
theorem Unstruck.struck (h : Unstruck strikes confirming trace) (hentry : strikes entry)
    (heffects : entry.output.effects.map (·.effect) = effects) (hconfirming : confirming)
    (hdestroys : ∃ effect ∈ effects, Destroys effect) :
    KeptUnlessStruck strikes (trace ++ [entry]) := by
  refine ⟨fun hkept => ?_, fun hall => ?_⟩
  · rw [requestedIn_append, requestedIn_singleton, heffects] at hkept
    exact absurd hkept (not_copyKept (h.confirmation.confirmed hconfirming) hdestroys)
  · exact absurd hentry (hall entry (List.mem_append_right _ (List.mem_singleton_self entry)))

theorem careful_nil (h : confirming ↔ confirming') : Careful confirming confirming' [] where
  before hbefore :=
    .inr ⟨fun hc => hbefore (h.mpr hc), fun _ hmem => absurd hmem List.not_mem_nil⟩
  after _ _ hmem := absurd hmem List.not_mem_nil

/-- An event that requests nothing and leaves the workflow where it was. -/
theorem Unstruck.quiet (h : Unstruck strikes confirming trace) (hentry : ¬strikes entry)
    (hquiet : entry.output.effects = []) : Unstruck strikes confirming (trace ++ [entry]) :=
  h.step hentry (by rw [hquiet, List.map_nil]) (careful_nil Iff.rfl) id

/-- After the end nothing is requested. -/
theorem KeptUnlessStruck.quiet (h : KeptUnlessStruck strikes trace) (hentry : ¬strikes entry)
    (hquiet : entry.output.effects = []) : KeptUnlessStruck strikes (trace ++ [entry]) := by
  have hkept : CopyKept (requestedIn (trace ++ [entry])) ↔ CopyKept (requestedIn trace) := by
    rw [requestedIn_append, requestedIn_singleton, hquiet, List.map_nil, List.append_nil]
  refine ⟨fun hcopy => unstruck_append (h.mp (hkept.mp hcopy)) hentry, fun hall => ?_⟩
  exact hkept.mpr (h.mpr fun other hmem => hall other (List.mem_append_left _ hmem))

end Runs

theorem not_isConfirm_ack (characteristicUuid : String) (ackType : AckType) (sequence : Nat) :
    ¬IsConfirm (.ble (.write SERVICE_BOTA_STORAGE characteristicUuid
      (encodeAck ackType sequence) true)) := by
  rintro ⟨recording, heq⟩
  simp only [Effect.ble.injEq, BleEffect.write.injEq] at heq
  have htype := (List.cons.inj heq.2.2.1).1
  cases ackType <;> exact absurd htype (by decide)

theorem not_isConfirm_start (recording : RecordingUuid) :
    ¬IsConfirm (.ble (.write SERVICE_BOTA_STORAGE CHAR_TRANSFER_CONTROL
      (encodeTransferCommand (.start recording)) true)) := by
  rintro ⟨other, heq⟩
  simp only [Effect.ble.injEq, BleEffect.write.injEq] at heq
  exact nomatch encodeTransferCommand_injective heq.2.2.1

/-! ## The batch workflow -/

namespace RecordingTransferWorkflow

open RecordingTransfer

/-- The run is cancelled while it waits for the CONFIRM write. -/
def Strikes (entry : EngineEntry RecordingTransferWorkflow) : Prop :=
  ∃ w, entry.pre.active = some w ∧ w.phase = .confirming ∧ entry.input = .cancelled w.cancellationId

section Unconfirmed

variable {w w' : RecordingTransferWorkflow} {value : List UInt8} {event : HostEvent}
  {effects : List Effect}

theorem unsubscribe_unconfirmed (w : RecordingTransferWorkflow) :
    ∀ effect ∈ unsubscribeEffects w, ¬IsConfirm effect ∧ ¬Destroys effect := by
  rw [unsubscribeEffects]
  split <;> simp [unsubscribeEffect, IsConfirm, Destroys]

theorem grace_unconfirmed (w : RecordingTransferWorkflow) :
    ∀ effect ∈ graceEffects w, ¬IsConfirm effect ∧ ¬Destroys effect := by
  rw [graceEffects]
  split <;> simp [IsConfirm, Destroys]

theorem fail_unconfirmed (w : RecordingTransferWorkflow) (error : DeviceSdkError) :
    ∀ effect ∈ failEffects w error, ¬IsConfirm effect ∧ ¬Destroys effect := by
  intro effect hmem
  rw [failEffects, List.append_assoc] at hmem
  rcases List.mem_append.mp hmem with hmem | hmem
  · exact unsubscribe_unconfirmed w effect hmem
  · rcases List.mem_append.mp hmem with hmem | hmem
    · exact grace_unconfirmed w effect hmem
    · obtain rfl := List.mem_singleton.mp hmem
      simp [IsConfirm, Destroys]

theorem FailEffects.unconfirmed (h : FailEffects w effects) :
    ∀ effect ∈ effects, ¬IsConfirm effect := by
  cases h with
  | kept => exact fun effect hmem => (fail_unconfirmed w _ effect hmem).1
  | discarded =>
    intro effect hmem
    rcases List.mem_append.mp hmem with hmem | hmem
    · simp only [discardEffects, List.mem_cons, List.not_mem_nil, or_false] at hmem
      rcases hmem with rfl | rfl | rfl
      · exact not_isConfirm_ack _ _ _
      · simp [IsConfirm]
      · simp [IsConfirm]
    · exact (fail_unconfirmed w _ effect hmem).1

theorem acknowledge_unconfirmed (w : RecordingTransferWorkflow) :
    ∀ effect ∈ acknowledgeEffects w, ¬IsConfirm effect := by
  intro effect hmem
  rcases List.mem_append.mp hmem with hmem | hmem
  · exact (grace_unconfirmed w effect hmem).1
  · obtain rfl := List.mem_singleton.mp hmem
    exact not_isConfirm_ack _ _ _

theorem PacketStep.unconfirmed {packet : TransferPacket} (h : PacketStep w packet w' effects)
    (hphase : w.phase = .transferring) :
    w'.phase ≠ .confirming ∧ ∀ effect ∈ effects, ¬IsConfirm effect := by
  have hsame : w.phase ≠ .confirming := by
    rw [hphase]
    decide
  cases h with
  | duplicate | repeatedStart | resumedStart | encryptedDuplicate | sha256 =>
    exact ⟨hsame, by simp⟩
  | _ => exact ⟨nofun, by simp [IsConfirm]⟩

/-- No notification leads to a CONFIRM. -/
theorem NotificationStep.unconfirmed (h : NotificationStep w value w' effects)
    (hphase : w.phase ≠ .confirming) :
    w'.phase ≠ .confirming ∧ ∀ effect ∈ effects, ¬IsConfirm effect := by
  cases h with
  | packet htransferring _ hpacket => exact hpacket.unconfirmed htransferring
  | awaitedSha256 => exact ⟨nofun, acknowledge_unconfirmed w⟩
  | failed _ heffects hfailed => exact ⟨by rw [hfailed]; decide, heffects.unconfirmed⟩
  | _ => exact ⟨hphase, by simp⟩

theorem Drains.unconfirmed (h : Drains w effects w') (hphase : w.phase ≠ .confirming) :
    w'.phase ≠ .confirming ∧ ∀ effect ∈ effects, ¬IsConfirm effect := by
  induction h with
  | done => exact ⟨hphase, by simp⟩
  | turn _ _ hstep _ ih =>
    obtain ⟨hnext, hfront⟩ := hstep.unconfirmed hphase
    obtain ⟨hlast, hback⟩ := ih hnext
    refine ⟨hlast, fun effect hmem => ?_⟩
    rcases List.mem_append.mp hmem with hmem | hmem
    · exact hfront effect hmem
    · exact hback effect hmem

theorem Reopens.unconfirmed (h : Reopens w event w' effects) :
    w'.phase ≠ .confirming ∧ ∀ effect ∈ effects, ¬IsConfirm effect := by
  cases h with
  | started => exact ⟨nofun, fun _ hmem => absurd hmem List.not_mem_nil⟩
  | appended => exact ⟨nofun, by simp [IsConfirm]⟩

theorem Interrupted.unconfirmed (h : Interrupted w event w') :
    w.phase ≠ .confirming ∧ w'.phase ≠ .confirming := by
  have hdrains := h.drains
  obtain ⟨_, _, _, _, _, hreopens, _⟩ := h
  constructor
  · cases hreopens with
    | started hphase => rw [hphase]; decide
    | appended hphase => rw [hphase]; decide
  · intro hphase
    rw [hphase] at hdrains
    exact nomatch hdrains

/-- Before the CONFIRM, a step either writes it and nothing else, or does not write it. -/
theorem Transition.before (h : Transition w event w' effects) (hphase : w.phase ≠ .confirming) :
    w'.phase = .confirming ∧ effects = [commandEffect (.confirm w.recording)] ∨
      w'.phase ≠ .confirming ∧ ∀ effect ∈ effects, ¬IsConfirm effect := by
  cases h with
  | acknowledged => exact .inl ⟨rfl, rfl⟩
  | notified _ _ hstep => exact .inr (hstep.unconfirmed hphase)
  | reopened hreopens hturns =>
    obtain ⟨hstart, hopened⟩ := hreopens.unconfirmed
    obtain ⟨hlast, hback⟩ := hturns.unconfirmed hstart
    refine .inr ⟨hlast, fun effect hmem => ?_⟩
    rcases List.mem_append.mp hmem with hmem | hmem
    · exact hopened effect hmem
    · exact hback effect hmem
  | failed _ hfailed _ heffects => exact .inr ⟨by rw [hfailed]; decide, heffects.unconfirmed⟩
  | checkpointSaved => exact .inr ⟨hphase, by simp⟩
  | graceElapsed => exact .inr ⟨hphase, by simp⟩
  | checkpointLoaded => exact .inr ⟨nofun, by simp [IsConfirm]⟩
  | sinkTruncated => exact .inr ⟨nofun, by simp [IsConfirm]⟩
  | subscribed =>
    refine .inr ⟨nofun, fun effect hmem => ?_⟩
    obtain rfl := List.mem_singleton.mp hmem
    exact not_isConfirm_start _
  | finalizedWithSha => exact .inr ⟨nofun, acknowledge_unconfirmed w⟩
  | finalized => exact .inr ⟨nofun, by simp⟩
  | graceEnded =>
    refine .inr ⟨nofun, fun effect hmem => ?_⟩
    obtain rfl := List.mem_singleton.mp hmem
    exact not_isConfirm_ack _ _ _
  | completed =>
    refine .inr ⟨nofun, fun effect hmem => ?_⟩
    rcases List.mem_append.mp hmem with hmem | hmem
    · exact (unsubscribe_unconfirmed w effect hmem).1
    · simp only [List.mem_cons, List.not_mem_nil, or_false] at hmem
      rcases hmem with rfl | rfl <;> simp [IsConfirm]

/-- After the CONFIRM, no host event destroys the copy. -/
theorem Transition.after (h : Transition w event w' effects) (hphase : w.phase = .confirming) :
    (w'.phase = .confirming ∨ w'.phase = .completed ∨ w'.phase = .failed) ∧
      ∀ effect ∈ effects, ¬Destroys effect := by
  cases h with
  | checkpointSaved => exact ⟨.inl hphase, by simp⟩
  | notified hreceives =>
    rw [hphase] at hreceives
    exact nomatch hreceives
  | reopened hreopens => cases hreopens <;> simp_all
  | completed =>
    refine ⟨.inr (.inl rfl), fun effect hmem => ?_⟩
    rcases List.mem_append.mp hmem with hmem | hmem
    · exact (unsubscribe_unconfirmed w effect hmem).2
    · simp only [List.mem_cons, List.not_mem_nil, or_false] at hmem
      rcases hmem with rfl | rfl <;> exact Bool.false_ne_true
  | failed _ hfailed _ _ hkept =>
    refine ⟨.inr (.inr hfailed), ?_⟩
    have hnot : ¬Fails.discards w event := by
      rintro ⟨hfinalizing, -⟩
      rw [hphase] at hfinalizing
      exact nomatch hfinalizing
    obtain ⟨error, rfl⟩ := hkept hnot
    exact fun effect hmem => (fail_unconfirmed w error effect hmem).2
  | checkpointLoaded h' | sinkTruncated h' | subscribed h' | finalizedWithSha h' | finalized h'
  | graceElapsed h' | graceEnded h' | acknowledged h' =>
    rw [hphase] at h'
    exact nomatch h'

/-- Every transition is careful; from the CONFIRM only the end is left. -/
theorem Transition.careful (h : Transition w event w' effects) :
    Careful (w.phase = .confirming) (w'.phase = .confirming) effects := by
  refine ⟨fun hphase => ?_, fun hphase => (h.after hphase).2⟩
  rcases h.before hphase with ⟨hconfirming, heq⟩ | hnone
  · exact .inl ⟨hconfirming, _, heq, w.recording, rfl⟩
  · exact .inr hnone

/-- Cancelling before the CONFIRM discards a copy that is not the only one. -/
theorem cancelEffects_unconfirmed (w : RecordingTransferWorkflow) :
    ∀ effect ∈ ackEffect .abort w.nextSequence :: (graceEffects w ++ unsubscribeEffects w ++
      [.recordingSink (.discard w.sinkId), .persistence .deleteCheckpoint,
        .notify (.cancelled .transferRecording)]), ¬IsConfirm effect := by
  intro effect hmem
  rcases List.mem_cons.mp hmem with rfl | hmem
  · exact not_isConfirm_ack _ _ _
  · rcases List.mem_append.mp hmem with hmem | hmem
    · rcases List.mem_append.mp hmem with hmem | hmem
      · exact (grace_unconfirmed w effect hmem).1
      · exact (unsubscribe_unconfirmed w effect hmem).1
    · simp only [List.mem_cons, List.not_mem_nil, or_false] at hmem
      rcases hmem with rfl | rfl | rfl <;> simp [IsConfirm]

end Unconfirmed

section Runs

variable {engine₀ engine : WorkflowEngine RecordingTransferWorkflow}
  {trace : List (EngineEntry RecordingTransferWorkflow)}
  {entry : EngineEntry RecordingTransferWorkflow}

theorem not_strikes_host {event : HostEvent} (h : entry.input = .host event) : ¬Strikes entry := by
  rintro ⟨w, -, -, hinput⟩
  rw [h] at hinput
  exact nomatch hinput

/-- Over every run, the copy is kept unless the run is cancelled while it confirms. -/
theorem keptUnlessStruck (hstart : Started engine₀)
    (hrun : EngineRun (fun _ _ _ => True) engine₀ trace engine) :
    KeptUnlessStruck Strikes trace := by
  have hsettled : Settled (fun trace w => Formed w ∧ Unstruck Strikes (w.phase = .confirming) trace)
      (KeptUnlessStruck Strikes) trace engine := by
    refine run_rule ?_ (fun trace w hinv => hinv.1) ?_ ?_ ?_ ?_ ?_ ?_ hrun
    -- at the start
    · obtain ⟨_, _, _, _, _, _, _, hact⟩ := hstart.active
      rw [settled_active hact]
      exact ⟨.start rfl, .nil nofun, fun _ hmem => absurd hmem List.not_mem_nil⟩
    -- an accepted event
    · intro trace w event entry w' effects ⟨hformed, hinv⟩ _ hinput _ heffects hstep
      have hentry := not_strikes_host hinput
      split
      · exact hinv.last hentry heffects hstep.careful
      · rename_i hrunning
        refine ⟨hstep.formed hformed hrunning, hinv.step hentry heffects hstep.careful ?_⟩
        intro hconfirming
        exact (hstep.after hconfirming).1.resolve_right hrunning
    -- an event that is ignored
    · intro trace w event entry ⟨hformed, hinv⟩ _ hinput _ hquiet _
      exact ⟨hformed, hinv.quiet (not_strikes_host hinput) hquiet⟩
    -- an event that interrupts the drain
    · intro trace w event entry w' ⟨_, hinv⟩ _ hinput _ hquiet hinterrupted
      refine ⟨hinterrupted.formed, ?_⟩
      have hphase : w.phase = .confirming ↔ w'.phase = .confirming :=
        ⟨fun h => absurd h hinterrupted.unconfirmed.1, fun h => absurd h hinterrupted.unconfirmed.2⟩
      rw [← hphase]
      exact hinv.quiet (not_strikes_host hinput) hquiet
    -- the workflow is cancelled
    · intro trace w entry ⟨_, hinv⟩ hact hinput _ heffects
      by_cases hconfirming : w.phase = .confirming
      · refine hinv.struck ⟨w, hact, hconfirming, hinput⟩ heffects hconfirming
          ⟨.recordingSink (.discard w.sinkId), ?_, rfl⟩
        simp
      · have hentry : ¬Strikes entry := by
          rintro ⟨other, hother, hphase, -⟩
          rw [hact] at hother
          obtain rfl := Option.some.inj hother
          exact hconfirming hphase
        have hstep : Careful (w.phase = .confirming) False _ :=
          ⟨fun _ => .inr ⟨id, cancelEffects_unconfirmed w⟩, fun h => absurd h hconfirming⟩
        exact hinv.last hentry heffects hstep
    -- another workflow's cancellation
    · intro trace w entry id ⟨hformed, hinv⟩ hact hinput hid _ hquiet
      refine ⟨hformed, hinv.quiet ?_ hquiet⟩
      rintro ⟨other, hother, -, hcancelled⟩
      rw [hact] at hother
      obtain rfl := Option.some.inj hother
      rw [hinput] at hcancelled
      exact hid (Event.cancelled.inj hcancelled).symm
    -- after the end
    · intro trace entry hkept hact _ hquiet
      refine hkept.quiet ?_ hquiet
      rintro ⟨w, hactive, -⟩
      rw [hact] at hactive
      exact nomatch hactive
  cases hact : engine.active with
  | none => exact (settled_ended hact).mp hsettled
  | some w => exact ((settled_active hact).mp hsettled).2.kept

end Runs

end RecordingTransferWorkflow

/-! ## The live workflow -/

namespace StreamingTransferWorkflow

/-- The link of the transfer is lost: the device disconnects, or one of its requests fails. -/
inductive Severs (w : StreamingTransferWorkflow) : HostEvent → Prop
  | disconnected {id : RequestId} {peripheralId : String} {reasonCode : Option Nat} :
      Severs w ⟨id, .ble (.disconnected peripheralId reasonCode)⟩
  | bleFailed {id : RequestId} {platformCode : Option Int} :
      some id ∈ [w.subscriptionRequestId, w.writeRequestId] →
      Severs w ⟨id, .ble (.failed platformCode)⟩

/-- The reducer never rejects the loss of its link. -/
theorem Severs.accepted {w : StreamingTransferWorkflow} {event : HostEvent} (h : Severs w event)
    (context : WorkflowContext) : ∃ call : Call, dispatch w event context = .ok call := by
  cases h with
  | disconnected => exact ⟨_, rfl⟩
  | bleFailed hmem => exact ⟨_, if_pos hmem⟩

/-- The run is cancelled or loses its link while it waits for the CONFIRM write. -/
def Strikes (entry : EngineEntry StreamingTransferWorkflow) : Prop :=
  ∃ w, entry.pre.active = some w ∧ w.phase = .confirming ∧
    (entry.input = .cancelled w.cancellationId ∨
      ∃ event, entry.input = .host event ∧ Severs w event)

section Unconfirmed

variable {w w' : StreamingTransferWorkflow} {n : RequestId} {event : HostEvent}
  {effects : List Effect}

theorem unsubscribe_unconfirmed (w : StreamingTransferWorkflow) :
    ∀ effect ∈ unsubscribeEffects w, ¬IsConfirm effect ∧ ¬Destroys effect := by
  rw [unsubscribeEffects]
  split <;> simp [unsubscribeEffect, IsConfirm, Destroys]

theorem resume_unconfirmed (w : StreamingTransferWorkflow) :
    ∀ effect ∈ resumeEffects w, ¬IsConfirm effect := by
  rw [resumeEffects]
  split <;> simp [IsConfirm]

theorem fail_unconfirmed (w : StreamingTransferWorkflow) (error : DeviceSdkError) :
    ∀ effect ∈ failEffects w error, ¬IsConfirm effect := by
  intro effect hmem
  rcases List.mem_append.mp hmem with hmem | hmem
  · exact (unsubscribe_unconfirmed w effect hmem).1
  · simp only [List.mem_cons, List.not_mem_nil, or_false] at hmem
    rcases hmem with rfl | rfl <;> simp [IsConfirm]

/-- Whatever ends a live transfer with an error discards what the sink holds. -/
theorem fail_destroys (w : StreamingTransferWorkflow) (error : DeviceSdkError) :
    ∃ effect ∈ failEffects w error, Destroys effect := by
  refine ⟨.recordingSink (.discardStreaming w.sinkId), ?_, rfl⟩
  simp [failEffects]

theorem PacketStep.unconfirmed {packet : TransferPacket} (h : PacketStep w packet w' effects)
    (hphase : w.phase = .transferring) :
    w'.phase ≠ .confirming ∧ ∀ effect ∈ effects, ¬IsConfirm effect := by
  have hsame : w.phase ≠ .confirming := by
    rw [hphase]
    decide
  have hresume : ∀ sink : RecordingSinkEffect,
      ∀ effect ∈ resumeEffects w ++ [.recordingSink sink], ¬IsConfirm effect := by
    intro sink effect hmem
    rcases List.mem_append.mp hmem with hmem | hmem
    · exact resume_unconfirmed w effect hmem
    · rw [List.mem_singleton.mp hmem]
      simp [IsConfirm]
  cases h with
  | duplicate | repeatedStart | encryptedDuplicate | sha256 => exact ⟨hsame, by simp⟩
  | paused => exact ⟨hsame, by simp [IsConfirm]⟩
  | data | encryptedData => exact ⟨nofun, hresume _⟩
  | _ => exact ⟨nofun, by simp [IsConfirm]⟩

/-- Before the CONFIRM, a step either writes it and nothing else, or does not write it. -/
theorem Transition.before (h : Transition w n event w' effects) (hphase : w.phase ≠ .confirming) :
    w'.phase = .confirming ∧ effects = [commandEffect (.confirm w.recording)] ∨
      w'.phase ≠ .confirming ∧ ∀ effect ∈ effects, ¬IsConfirm effect := by
  cases h with
  | acknowledged => exact .inl ⟨rfl, rfl⟩
  | packet htransferring _ _ hstep => exact .inr (hstep.unconfirmed htransferring)
  | failed _ hfailed => exact .inr ⟨by rw [hfailed]; decide, fail_unconfirmed w _⟩
  | subscribed =>
    refine .inr ⟨nofun, fun effect hmem => ?_⟩
    obtain rfl := List.mem_singleton.mp hmem
    exact not_isConfirm_start _
  | started => exact .inr ⟨nofun, by simp⟩
  | accepted => exact .inr ⟨nofun, by simp⟩
  | finalized =>
    refine .inr ⟨nofun, fun effect hmem => ?_⟩
    obtain rfl := List.mem_singleton.mp hmem
    exact not_isConfirm_ack _ _ _
  | confirmed hconfirming => exact absurd hconfirming hphase

/-- After the CONFIRM the sink is idle: only its write can succeed, and only the link can fail. -/
theorem Transition.after (h : Transition w n event w' effects) (hphase : w.phase = .confirming)
    (hidle : w.sinkRequestId = none) :
    (w'.phase = .completed ∧ (∀ effect ∈ effects, ¬Destroys effect) ∧ ¬Severs w event) ∨
      (w'.phase = .failed ∧ (∃ effect ∈ effects, Destroys effect) ∧ Severs w event) := by
  cases h with
  | confirmed =>
    refine .inl ⟨rfl, fun effect hmem => ?_, nofun⟩
    rcases List.mem_append.mp hmem with hmem | hmem
    · exact (unsubscribe_unconfirmed w effect hmem).2
    · rw [List.mem_singleton.mp hmem]
      exact Bool.false_ne_true
  | failed hfails hfailed =>
    refine .inr ⟨hfailed, fail_destroys w _, ?_⟩
    cases hfails with
    | disconnected => exact .disconnected
    | bleFailed hmem => exact .bleFailed hmem
    | sinkFailed hsink =>
      rw [hidle] at hsink
      exact nomatch hsink
    | undecodable h' | packet h' | inconsistent h' | miscounted h' =>
      rw [hphase] at h'
      exact nomatch h'
  | subscribed h' | started h' | packet h' | accepted h' | finalized h' | acknowledged h' =>
    rw [hphase] at h'
    exact nomatch h'

/-- The sink is idle from the ACK on. -/
def SinkIdle (w : StreamingTransferWorkflow) : Prop :=
  w.phase = .acknowledging ∨ w.phase = .confirming → w.sinkRequestId = none

theorem Transition.sinkIdle (h : Transition w n event w' effects) (hw : SinkIdle w) : SinkIdle w' := by
  intro hphase
  cases h with
  | finalized => rfl
  | acknowledged hacknowledging => exact hw (.inl hacknowledging)
  | packet htransferring _ _ hstep =>
    have hneither : ¬(w.phase = .acknowledging ∨ w.phase = .confirming) := by
      rw [htransferring]
      decide
    cases hstep with
    | duplicate | repeatedStart | encryptedDuplicate | sha256 | paused => exact absurd hphase hneither
    | _ => rcases hphase with hphase | hphase <;> exact nomatch hphase
  | failed _ hfailed => rcases hphase with hphase | hphase <;> rw [hfailed] at hphase <;> exact nomatch hphase
  | _ => rcases hphase with hphase | hphase <;> exact nomatch hphase

theorem cancelEffects_unconfirmed (w : StreamingTransferWorkflow) :
    ∀ effect ∈ ackEffect .abort w.nextSequence :: (unsubscribeEffects w ++
      [.recordingSink (.discardStreaming w.sinkId), .notify (.cancelled .transferRecording)]),
      ¬IsConfirm effect := by
  intro effect hmem
  rcases List.mem_cons.mp hmem with rfl | hmem
  · exact not_isConfirm_ack _ _ _
  · rcases List.mem_append.mp hmem with hmem | hmem
    · exact (unsubscribe_unconfirmed w effect hmem).1
    · simp only [List.mem_cons, List.not_mem_nil, or_false] at hmem
      rcases hmem with rfl | rfl <;> simp [IsConfirm]

end Unconfirmed

section Runs

variable {engine₀ engine : WorkflowEngine StreamingTransferWorkflow}
  {trace : List (EngineEntry StreamingTransferWorkflow)}
  {entry : EngineEntry StreamingTransferWorkflow} {w : StreamingTransferWorkflow}

/-- Only an event of a run that waits for the CONFIRM write strikes. -/
theorem not_strikes (hact : entry.pre.active = some w) (hphase : w.phase ≠ .confirming) :
    ¬Strikes entry := by
  rintro ⟨other, hother, hconfirming, -⟩
  rw [hact] at hother
  obtain rfl := Option.some.inj hother
  exact hphase hconfirming

theorem strikes_host {event : HostEvent} (hact : entry.pre.active = some w)
    (hinput : entry.input = .host event) :
    Strikes entry ↔ w.phase = .confirming ∧ Severs w event := by
  constructor
  · rintro ⟨other, hother, hconfirming, hstrike⟩
    rw [hact] at hother
    obtain rfl := Option.some.inj hother
    rw [hinput] at hstrike
    rcases hstrike with hcancelled | ⟨other, hhost, hsevers⟩
    · exact nomatch hcancelled
    · obtain rfl := Event.host.inj hhost
      exact ⟨hconfirming, hsevers⟩
  · rintro ⟨hconfirming, hsevers⟩
    exact ⟨w, hact, hconfirming, .inr ⟨event, hinput, hsevers⟩⟩

/-- Over every run, the copy is kept unless the run is cancelled or loses its link while it
confirms. -/
theorem keptUnlessStruck (hstart : Started engine₀)
    (hrun : EngineRun (fun _ _ _ => True) engine₀ trace engine) :
    KeptUnlessStruck Strikes trace := by
  have hsettled : Settled (fun trace w => SinkIdle w ∧ Unstruck Strikes (w.phase = .confirming) trace)
      (KeptUnlessStruck Strikes) trace engine := by
    refine run_rule ?_ ?_ ?_ ?_ ?_ ?_ hrun
    -- at the start
    · obtain ⟨_, _, _, _, hact⟩ := hstart.active
      rw [settled_active hact]
      exact ⟨nofun, .nil nofun, fun _ hmem => absurd hmem List.not_mem_nil⟩
    -- an accepted event
    · intro trace engine w event call _ hact ⟨hidle, hinv⟩ _ _ hstep
      have hiff := @strikes_host ⟨engine, .host event, .ok call.effects⟩ w event hact rfl
      by_cases hconfirming : w.phase = .confirming
      · rcases hstep.after hconfirming (hidle (.inr hconfirming)) with
          ⟨hcompleted, hharmless, hnot⟩ | ⟨hfailed, hdestroys, hsevers⟩
        · rw [if_pos (.inl hcompleted)]
          have hcareful : Careful (w.phase = .confirming) False call.requested :=
            ⟨fun hbefore => absurd hconfirming hbefore, fun _ => hharmless⟩
          exact hinv.last (fun hstrikes => hnot (hiff.mp hstrikes).2) rfl hcareful
        · rw [if_pos (.inr hfailed)]
          exact hinv.struck (hiff.mpr ⟨hconfirming, hsevers⟩) rfl hconfirming hdestroys
      · have hentry := @not_strikes ⟨engine, .host event, .ok call.effects⟩ w hact hconfirming
        have hcareful : Careful (w.phase = .confirming) (call.workflow.phase = .confirming)
            call.requested := by
          refine ⟨fun _ => ?_, fun h => absurd h hconfirming⟩
          rcases hstep.before hconfirming with ⟨hnow, heq⟩ | hnone
          · exact .inl ⟨hnow, _, heq, w.recording, rfl⟩
          · exact .inr hnone
        split
        · exact hinv.last hentry rfl hcareful
        · exact ⟨hstep.sinkIdle hidle, hinv.step hentry rfl hcareful (fun h => absurd h hconfirming)⟩
    -- an event that is rejected
    · intro trace engine w event _ hact ⟨hidle, hinv⟩ _ hreject
      refine ⟨hidle, hinv.quiet ?_ rfl⟩
      rw [strikes_host hact rfl]
      rintro ⟨-, hsevers⟩
      obtain ⟨call, hok⟩ := hsevers.accepted (engine.context w)
      rw [hok] at hreject
      have houtcome : Outcome.ok call.effects = .err unexpected :=
        congrArg Reduction.outcome hreject
      exact nomatch houtcome
    -- the workflow is cancelled
    · intro trace engine w call hact ⟨_, hinv⟩ _ hrequested
      by_cases hconfirming : w.phase = .confirming
      · refine hinv.struck ⟨w, hact, hconfirming, .inl rfl⟩ hrequested hconfirming
          ⟨.recordingSink (.discardStreaming w.sinkId), ?_, rfl⟩
        simp
      · have hcareful : Careful (w.phase = .confirming) False _ :=
          ⟨fun _ => .inr ⟨id, cancelEffects_unconfirmed w⟩, fun h => absurd h hconfirming⟩
        exact hinv.last (not_strikes hact hconfirming) hrequested hcareful
    -- another workflow's cancellation
    · intro trace entry w hact ⟨id, hinput, hid⟩ _ hquiet ⟨hidle, hinv⟩
      refine ⟨hidle, hinv.quiet ?_ hquiet⟩
      rintro ⟨other, hother, -, hstrike⟩
      rw [hact] at hother
      obtain rfl := Option.some.inj hother
      rw [hinput] at hstrike
      rcases hstrike with hcancelled | ⟨_, hhost, -⟩
      · exact hid (Event.cancelled.inj hcancelled).symm
      · exact nomatch hhost
    -- after the end
    · intro trace entry hact _ hquiet hkept
      refine hkept.quiet ?_ hquiet
      rintro ⟨w, hactive, -⟩
      rw [hact] at hactive
      exact nomatch hactive
  cases hact : engine.active with
  | none => exact (settled_ended hact).mp hsettled
  | some w => exact ((settled_active hact).mp hsettled).2.kept

end Runs

end StreamingTransferWorkflow

/-! ## Both workflows -/

/-- Every run keeps the copy exactly when nothing strikes while it waits for the CONFIRM write: for
the batch workflow its cancellation, for the live one also the loss of its link. -/
theorem confirmed_copy_kept_iff {batch₀ batch : WorkflowEngine RecordingTransferWorkflow}
    {batchTrace : List (EngineEntry RecordingTransferWorkflow)}
    {live₀ live : WorkflowEngine StreamingTransferWorkflow}
    {liveTrace : List (EngineEntry StreamingTransferWorkflow)}
    (hbatch : RecordingTransferWorkflow.Started batch₀)
    (hbatchRun : EngineRun (fun _ _ _ => True) batch₀ batchTrace batch)
    (hlive : StreamingTransferWorkflow.Started live₀)
    (hliveRun : EngineRun (fun _ _ _ => True) live₀ liveTrace live) :
    (CopyKept (requestedIn batchTrace) ↔
      ∀ entry ∈ batchTrace, ¬RecordingTransferWorkflow.Strikes entry) ∧
    (CopyKept (requestedIn liveTrace) ↔
      ∀ entry ∈ liveTrace, ¬StreamingTransferWorkflow.Strikes entry) :=
  ⟨RecordingTransferWorkflow.keptUnlessStruck hbatch hbatchRun,
    StreamingTransferWorkflow.keptUnlessStruck hlive hliveRun⟩

namespace RecordingTransferWorkflow

/-- An empty recording up to its CONFIRM write, which is request 9. -/
def confirmingEvents : List Event :=
  [.host ⟨2, .checkpointLoaded none⟩, .host ⟨3, .recordingSinkTruncated⟩,
    .host ⟨4, .ble (.subscribed CHAR_RECORDING_TRANSFER)⟩, .host ⟨5, .ble .writeCompleted⟩,
    .host ⟨4, .ble (.notification CHAR_RECORDING_TRANSFER (eofPacket 0 0))⟩,
    .host ⟨6, .recordingSinkFinalized 0⟩, .host ⟨0, .timerFired RecordingTransfer.SHA256_GRACE_TIMER_ID⟩,
    .host ⟨8, .ble .writeCompleted⟩]

end RecordingTransferWorkflow

namespace StreamingTransferWorkflow

/-- An empty recording up to its CONFIRM write, which is request 6. -/
def confirmingEvents : List Event :=
  [.host ⟨2, .ble (.subscribed CHAR_RECORDING_TRANSFER)⟩, .host ⟨3, .ble .writeCompleted⟩,
    .host ⟨2, .ble (.notification CHAR_RECORDING_TRANSFER (eofPacket 0 0))⟩,
    .host ⟨4, .streamingSinkFinalized 0 0⟩, .host ⟨5, .ble .writeCompleted⟩]

end StreamingTransferWorkflow

/-- Cancelled, or disconnected, while they wait for the CONFIRM write, both discard the copy. -/
theorem confirmed_copy_discarded :
    (∃ trace engine, EngineRun (fun _ _ _ => True) RecordingTransferWorkflow.sampleEngine trace engine ∧
      ¬CopyKept (requestedIn trace)) ∧
    (∃ trace engine, EngineRun (fun _ _ _ => True) StreamingTransferWorkflow.sampleEngine trace engine ∧
      ¬CopyKept (requestedIn trace)) := by
  constructor
  · refine ⟨_, _, Machine.Run.exec (Machine.allowed_true [] RecordingTransferWorkflow.sampleEngine
      (RecordingTransferWorkflow.confirmingEvents ++
        [.cancelled RecordingTransferWorkflow.sampleCancellation])), ?_⟩
    rw [← List.take_append_drop 8 (requestedIn _)]
    exact not_copyKept ⟨RecordingTransferWorkflow.commandEffect (.confirm ⟨.replicate 16 1⟩),
      by decide, _, rfl⟩ ⟨.recordingSink (.discard ⟨"sink-1"⟩), by decide, rfl⟩
  · refine ⟨_, _, Machine.Run.exec (Machine.allowed_true [] StreamingTransferWorkflow.sampleEngine
      (StreamingTransferWorkflow.confirmingEvents ++
        [.host ⟨2, .ble (.disconnected "peripheral-1" none)⟩])), ?_⟩
    rw [← List.take_append_drop 4 (requestedIn _)]
    exact not_copyKept ⟨StreamingTransferWorkflow.commandEffect (.confirm ⟨.replicate 16 1⟩),
      by decide, _, rfl⟩ ⟨.recordingSink (.discardStreaming ⟨"sink-1"⟩), by decide, rfl⟩

theorem confirmed_copy_kept_iff_sample :
    (CopyKept (requestedIn (Machine.exec WorkflowEngine.dispatch []
        RecordingTransferWorkflow.sampleEngine RecordingTransferWorkflow.confirmingEvents).1) ↔
      ∀ entry ∈ (Machine.exec WorkflowEngine.dispatch [] RecordingTransferWorkflow.sampleEngine
        RecordingTransferWorkflow.confirmingEvents).1, ¬RecordingTransferWorkflow.Strikes entry) ∧
    (CopyKept (requestedIn (Machine.exec WorkflowEngine.dispatch []
        StreamingTransferWorkflow.sampleEngine StreamingTransferWorkflow.confirmingEvents).1) ↔
      ∀ entry ∈ (Machine.exec WorkflowEngine.dispatch [] StreamingTransferWorkflow.sampleEngine
        StreamingTransferWorkflow.confirmingEvents).1, ¬StreamingTransferWorkflow.Strikes entry) :=
  confirmed_copy_kept_iff RecordingTransferWorkflow.started_sampleEngine
    (Machine.Run.exec (Machine.allowed_true [] RecordingTransferWorkflow.sampleEngine
      RecordingTransferWorkflow.confirmingEvents))
    StreamingTransferWorkflow.started_sampleEngine
    (Machine.Run.exec (Machine.allowed_true [] StreamingTransferWorkflow.sampleEngine
      StreamingTransferWorkflow.confirmingEvents))

end BotaSdk
