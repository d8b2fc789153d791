import BotaSdk.Model.ByoUpload

/-!
# Moves of BYO recovery

`Moves` lists what each accepted event does to a checkpoint and `Refuses` the events that are out of
place; the results about runs never unfold the transitions.
-/

namespace BotaSdk

open Byo

/-! ## Validity -/

/-- The identity of a recording, as `validate` demands it. -/
structure ByoCapture.Valid (capture : ByoCapture) : Prop where
  organization : isId capture.organizationId
  project : isId capture.projectId
  device : isId capture.deviceId
  binding : capture.bindingGeneration ≠ 0
  assignment : capture.deviceAssignmentGeneration ≠ 0
  policy : ∃ n, parseU64 capture.policyRevision = some n ∧ n ≠ 0 ∧ toString n = capture.policyRevision
  recording : isUuid capture.recordingUuid
  generation : capture.recordingGeneration ≠ 0

namespace ByoRecovery

structure Valid (state : ByoRecovery) : Prop where
  version : state.version = 1
  capture : state.capture.Valid
  retries : state.wsRetries ≤ 3
  revision : state.renewalRevision ≠ U32_MAX
  renewal : ∀ operation, state.renewalOperation = some operation →
    isUuid operation ∧ state.phase ≠ .new ∧ state.phase ≠ .complete
  route : ∀ route, state.route = some route → route.valid
  bound : state.route = none ↔ state.phase = .new
  paired : state.sourceLength = none ↔ state.sourceSha256 = none
  length : ∀ n, state.sourceLength = some n → 293 ≤ n ∧ n ≤ 134217728
  sha256 : ∀ digest, state.sourceSha256 = some digest → isHash digest
  operation : ∀ operation, state.pendingOperation = some operation → isId operation
  receipt : ∀ digest, state.receiptSha256 = some digest → isHash digest
  fence : state.pendingOperation ≠ none ↔ state.phase = .fencePending
  handoff : state.handoffMode ≠ none ↔ state.phase = .fencePending
  evidence : state.receiptSha256 ≠ none ↔ state.phase.hasReceipt
  fenced : state.phase = .fencePending → state.sourceLength ≠ none
  source : state.phase.hasSource → state.sourceLength ≠ none

theorem any_not_eq_false {α : Type} {value : Option α} {p : α → Bool} :
    value.any (!p ·) = false ↔ ∀ a, value = some a → p a := by
  cases value <;> simp

theorem policy_eq_false {text : String} {parsed : Option Nat} :
    (parsed.all fun n => decide (n = 0) || decide (toString n ≠ text)) = false ↔
      ∃ n, parsed = some n ∧ n ≠ 0 ∧ toString n = text := by
  cases parsed <;> simp

theorem isSome_eq_iff {α : Type} {value : Option α} {b : Bool} :
    value.isSome = b ↔ (value ≠ none ↔ b) := by
  cases value <;> cases b <;> simp

theorem isSome_eq_isSome_iff {α β : Type} {value : Option α} {other : Option β} :
    value.isSome = other.isSome ↔ (value = none ↔ other = none) := by
  cases value <;> cases other <;> simp

theorem isNone_eq_false_iff {α : Type} {value : Option α} : value.isNone = false ↔ value ≠ none := by
  cases value <;> simp

theorem isSome_eq_false_iff {α : Type} {value : Option α} : value.isSome = false ↔ value = none := by
  cases value <;> simp

theorem invalid_eq_false_iff (self : ByoRecovery) : self.invalid = false ↔ self.Valid := by
  simp only [invalid, Bool.or_eq_false_iff, Bool.not_eq_false', decide_eq_false_iff_not,
    bne_eq_false_iff_eq, Bool.and_eq_false_iff, any_not_eq_false, policy_eq_false,
    isSome_eq_isSome_iff, isNone_eq_false_iff, isSome_eq_false_iff, and_assoc, ne_eq, not_not]
  simp only [isSome_eq_iff, Bool.and_eq_true, decide_eq_true_eq]
  constructor
  · rintro ⟨hversion, horganization, hproject, hdevice, hbinding, hassignment, hpolicy, hrecording,
      hgeneration, hretries, hrevision, hrenewal, hrenewing, hroute, hbound, hnew, hpaired, hlength,
      hsha256, hoperation, hreceipt, hfence, hhandoff, hevidence, hfenced, hsource, -⟩
    refine ⟨hversion, ⟨horganization, hproject, hdevice, hbinding, hassignment, hpolicy,
      hrecording, hgeneration⟩, Nat.le_of_not_lt hretries, hrevision, ?_, hroute, ?_, hpaired,
      hlength, hsha256, hoperation, hreceipt, hfence, hhandoff, hevidence, ?_, ?_⟩
    · intro operation hoperation
      refine ⟨hrenewal operation hoperation, hrenewing.resolve_left ?_⟩
      rw [hoperation]
      exact nofun
    · exact ⟨fun hnone => hbound.resolve_right (not_not.mpr hnone),
        fun hphase => hnew.resolve_left (not_not.mpr hphase)⟩
    · exact fun hphase => (hfenced.resolve_left (not_not.mpr hphase)).2
    · intro hphase
      rw [hphase] at hsource
      exact hsource.resolve_left Bool.noConfusion
  · intro h
    have hcapture := h.capture
    refine ⟨h.version, hcapture.organization, hcapture.project, hcapture.device, hcapture.binding,
      hcapture.assignment, hcapture.policy, hcapture.recording, hcapture.generation,
      Nat.not_lt.mpr h.retries, h.revision, fun o ho => (h.renewal o ho).1, ?_, h.route, ?_, ?_,
      h.paired, h.length, h.sha256, h.operation, h.receipt, h.fence, h.handoff, h.evidence, ?_, ?_,
      ?_⟩
    · cases hrenewal : self.renewalOperation with
      | none => exact .inl rfl
      | some operation => exact .inr (h.renewal operation hrenewal).2
    · by_cases hphase : self.phase = .new
      · exact .inl hphase
      · exact .inr fun hnone => hphase (h.bound.mp hnone)
    · by_cases hphase : self.phase = .new
      · exact .inr (h.bound.mpr hphase)
      · exact .inl hphase
    · by_cases hphase : self.phase = .fencePending
      · exact .inr ⟨h.fence.mpr hphase, h.fenced hphase⟩
      · exact .inl hphase
    · cases hphase : self.phase.hasSource with
      | false => exact .inl rfl
      | true => exact .inr (h.source hphase)
    · cases hphase : self.phase.hasReceipt with
      | false => exact .inl rfl
      | true => exact .inr (h.evidence.mpr hphase)

theorem Valid.validate {state : ByoRecovery} (h : state.Valid) : state.validate = .ok () := by
  rw [ByoRecovery.validate, (invalid_eq_false_iff state).mpr h]
  rfl

theorem valid_of_validate {state : ByoRecovery} (h : state.validate = .ok ()) : state.Valid := by
  rw [← invalid_eq_false_iff, ← Bool.not_eq_true]
  intro hinvalid
  rw [ByoRecovery.validate, if_pos hinvalid] at h
  exact nomatch h

/-! ## Moves -/

def phaseOf : ByoTransport → ByoPhase
  | .webSocket => .webSocket
  | .httpSegments => .httpSegments
  | .wholeFile => .httpWholeFile

/-- The phases from which a handoff may begin. -/
def MayHandOff (mode : ByoHandoffMode) (phase : ByoPhase) : Prop :=
  match mode with
  | .wholeFile => phase = .waitingForSource
  | .assembled => phase = .webSocket ∨ phase = .httpSegments

def handedOff : ByoHandoffMode → ByoPhase
  | .assembled => .verifying
  | .wholeFile => .httpWholeFile

/-- What an accepted event does to a checkpoint, and the delay it asks for. -/
inductive Moves (state : ByoRecovery) : ByoRecoveryEvent → Option Nat → ByoRecovery → Prop
  | inspect : Moves state .inspect none state
  | restarted :
      state.phase = .webSocket ∨ state.phase = .httpSegments →
      Moves state .restart none { state with phase := .waitingForSource }
  | kept :
      ¬(state.phase = .webSocket ∨ state.phase = .httpSegments) → Moves state .restart none state
  | bound {route : ByoRoute} {transport : ByoTransport} :
      state.phase = .new → route.valid →
      (transport = .wholeFile → state.sourceLength ≠ none) →
      Moves state (.bind route transport) none
        { state with route := some route, phase := phaseOf transport }
  | retried :
      state.phase = .webSocket → state.wsRetries < 3 →
      Moves state .webSocketFailed (some (reconnectDelay state.wsRetries))
        { state with wsRetries := state.wsRetries + 1 }
  | exhausted :
      state.phase = .webSocket → 3 ≤ state.wsRetries →
      Moves state .webSocketFailed none { state with phase := .waitingForSource }
  | unavailable :
      state.phase = .webSocket ∨ state.phase = .httpSegments →
      Moves state .streamUnavailable none { state with phase := .waitingForSource }
  | sourceFinalized {bytes : Nat} {sha256 : String} :
      293 ≤ bytes → bytes ≤ 134217728 → isHash sha256 →
      (state.sourceLength ≠ none →
        state.sourceLength = some bytes ∧ state.sourceSha256 = some sha256) →
      Moves state (.sourceFinalized bytes sha256) none
        { state with sourceLength := some bytes, sourceSha256 := some sha256 }
  | handoffBegun {operation : String} {mode : ByoHandoffMode} :
      MayHandOff mode state.phase → state.sourceLength ≠ none → isId operation →
      state.renewalOperation = none →
      Moves state (.beginHandoff operation mode) none
        { state with
          pendingOperation := some operation, handoffMode := some mode, phase := .fencePending }
  | handedOver {operation : String} {previous successor : ByoRoute} {mode : ByoHandoffMode} :
      state.phase = .fencePending → state.route = some previous →
      state.renewalOperation = none → state.pendingOperation = some operation →
      state.handoffMode = some mode → successor.valid → previous.sameDestination successor →
      successor.ownerRevision = previous.ownerRevision + 1 →
      previous.sessionId ≠ successor.sessionId →
      Moves state (.handoffCommitted operation successor) none
        { state with
          route := some successor, renewalRevision := 0, pendingOperation := none
          handoffMode := none, phase := handedOff mode }
  | verificationPending :
      state.phase = .httpWholeFile → state.renewalOperation = none →
      Moves state .verificationPending none { state with phase := .verifying }
  | receiptVerified {sha256 : String} :
      state.phase = .verifying → isHash sha256 → state.renewalOperation = none →
      Moves state (.receiptVerified sha256) none
        { state with receiptSha256 := some sha256, phase := .receiptVerified }
  | receiptPersisted {sha256 : String} :
      state.phase = .receiptVerified → state.receiptSha256 = some sha256 →
      state.renewalOperation = none →
      Moves state (.receiptPersisted sha256) none { state with phase := .cleanupPending }
  | cleanupFinished :
      state.phase = .cleanupPending → state.renewalOperation = none →
      Moves state .cleanupFinished none { state with phase := .complete }
  | renewalBegun {operation : String} {expectedRevision : Nat} :
      state.phase ≠ .new → state.phase ≠ .complete → isUuid operation →
      expectedRevision = state.renewalRevision → expectedRevision < U32_MAX - 1 →
      state.renewalOperation = none →
      Moves state (.beginRenewal operation expectedRevision) none
        { state with renewalOperation := some operation }
  | renewalRepeated {operation : String} {expectedRevision : Nat} :
      state.renewalOperation = some operation →
      Moves state (.beginRenewal operation expectedRevision) none state
  | renewalCommitted {operation : String} :
      state.renewalOperation = some operation →
      Moves state (.renewalCommitted operation (state.renewalRevision + 1)) none
        { state with renewalRevision := state.renewalRevision + 1, renewalOperation := none }

/-- The events that a valid checkpoint refuses as out of place. -/
inductive Refuses (state : ByoRecovery) : ByoRecoveryEvent → Prop
  | create : Refuses state .create
  | webSocketFailed : state.phase ≠ .webSocket → Refuses state .webSocketFailed
  | streamUnavailable :
      ¬(state.phase = .webSocket ∨ state.phase = .httpSegments) → Refuses state .streamUnavailable
  | handoffCommitted {operation : String} {successor : ByoRoute} :
      state.phase = .new → Refuses state (.handoffCommitted operation successor)
  | verificationPending :
      state.phase ≠ .httpWholeFile ∨ state.renewalOperation ≠ none →
      Refuses state .verificationPending
  | cleanupFinished :
      state.phase ≠ .cleanupPending ∨ state.renewalOperation ≠ none →
      Refuses state .cleanupFinished
  | beginRenewal {operation : String} {expectedRevision : Nat} :
      state.phase = .new ∨ state.phase = .complete ∨ ¬isUuid operation ∨
        expectedRevision ≠ state.renewalRevision ∨ U32_MAX - 1 ≤ expectedRevision →
      Refuses state (.beginRenewal operation expectedRevision)

/-- The outcome of an event on a valid checkpoint. -/
def Settles (state : ByoRecovery) (event : ByoRecoveryEvent) :
    Except ByoRecoveryError (Option Nat × ByoRecovery) → Prop
  | .ok (delay, next) => Moves state event delay next
  | .error error => error = .invalidState → Refuses state event

/-- The copy an event moves, without a delay. -/
def moved (result : Except ByoRecoveryError ByoRecovery) :
    Except ByoRecoveryError (Option Nat × ByoRecovery) :=
  result.map (none, ·)

/-- A guard that is checked before a move. -/
theorem settles_guarded {state : ByoRecovery} {event : ByoRecoveryEvent} {refused : Prop}
    [Decidable refused] {error : ByoRecoveryError} {rest : Except ByoRecoveryError ByoRecovery}
    (hrefuses : refused → error = .invalidState → Refuses state event)
    (hrest : ¬refused → Settles state event (moved rest)) :
    Settles state event (moved do
      if refused then throw error
      rest) := by
  by_cases h : refused
  · simp only [if_pos h]
    exact hrefuses h
  · simp only [if_neg h]
    exact hrest h

section Apply

variable {state : ByoRecovery} (h : state.Valid)
include h

theorem settles_afterRestart : Settles state .restart (moved state.afterRestart) := by
  rw [afterRestart, h.validate]
  by_cases hphase : state.phase = .webSocket ∨ state.phase = .httpSegments
  · have hguard : (decide (state.phase = .webSocket) || decide (state.phase = .httpSegments)) := by
      simpa using hphase
    simp only [hguard]
    exact .restarted hphase
  · have hguard :
        (decide (state.phase = .webSocket) || decide (state.phase = .httpSegments)) = false := by
      simpa using hphase
    simp only [hguard]
    exact .kept hphase

theorem settles_bindTransport (route : ByoRoute) (transport : ByoTransport) :
    Settles state (.bind route transport) (moved (state.bindTransport route transport)) := by
  unfold bindTransport
  rw [h.validate]
  refine settles_guarded (fun _ => nofun) fun hguard => ?_
  refine settles_guarded (fun _ => nofun) fun hsource => ?_
  simp at hguard hsource
  refine (?_ : Moves state (.bind route transport) none _)
  have hmove := Moves.bound hguard.1.1 hguard.2 hsource
  cases transport <;> exact hmove

theorem settles_wsFailed :
    Settles state .webSocketFailed (state.wsFailed.map fun (action, next) =>
      match action with
      | .reconnectAfterMs delay => (some delay, next)
      | .waitForCompleteSource => (none, next)) := by
  rw [wsFailed, h.validate]
  by_cases hphase : state.phase = .webSocket
  · have hguard : ¬state.phase ≠ .webSocket := not_not.mpr hphase
    by_cases hretries : state.wsRetries < 3
    · simp only [if_neg hguard, if_pos hretries]
      exact .retried hphase hretries
    · simp only [if_neg hguard, if_neg hretries]
      exact .exhausted hphase (Nat.le_of_not_lt hretries)
  · simp only [if_pos hphase]
    exact fun _ => .webSocketFailed hphase

theorem settles_sourceFinalized (bytes : Nat) (digest : String) :
    Settles state (.sourceFinalized bytes digest) (moved (state.sourceFinalized bytes digest)) := by
  rw [sourceFinalized, h.validate]
  refine settles_guarded (fun _ => nofun) fun hguard => ?_
  refine settles_guarded (fun _ => nofun) fun hsame => ?_
  simp at hguard hsame
  refine .sourceFinalized hguard.1.1 hguard.1.2 hguard.2 fun hsource => ?_
  exact hsame (Option.isSome_iff_ne_none.mpr hsource)

theorem settles_beginHandoff (operation : String) (mode : ByoHandoffMode) :
    Settles state (.beginHandoff operation mode) (moved (state.beginHandoff operation mode)) := by
  unfold beginHandoff
  rw [h.validate]
  refine settles_guarded (fun _ => nofun) fun hguard => ?_
  simp at hguard
  obtain ⟨⟨⟨hphase, hsource⟩, hid⟩, hrenewal⟩ := hguard
  refine .handoffBegun ?_ hsource hid hrenewal
  cases mode with
  | wholeFile => simpa [MayHandOff] using hphase
  | assembled => simpa [MayHandOff] using hphase

theorem settles_acceptHandoff (operation : String) (successor : ByoRoute) :
    Settles state (.handoffCommitted operation successor)
      (moved (state.acceptHandoff operation successor)) := by
  rw [acceptHandoff, h.validate]
  cases hroute : state.route with
  | none => exact fun _ => .handoffCommitted (h.bound.mp hroute)
  | some previous =>
    refine settles_guarded (fun _ => nofun) fun hguard => ?_
    simp at hguard
    obtain ⟨⟨⟨⟨⟨⟨hphase, hrenewal⟩, hoperation⟩, hvalid⟩, hsame⟩, howner⟩, hsession⟩ := hguard
    cases hmode : state.handoffMode with
    | none => exact absurd hmode (h.handoff.mpr hphase)
    | some mode =>
      have hnext : successor.ownerRevision = previous.ownerRevision + 1 := by
        rw [checkedAdd] at howner
        split at howner
        · exact (Option.some.inj howner).symm
        · exact nomatch howner
      have hmove := Moves.handedOver hphase hroute hrenewal hoperation hmode hvalid hsame hnext
        hsession
      cases mode <;> exact hmove

theorem settles_verificationPending :
    Settles state .verificationPending (moved state.verificationPending) := by
  rw [ByoRecovery.verificationPending, h.validate]
  refine settles_guarded (fun hguard _ => ?_) fun hguard => ?_
  · simp at hguard
    refine .verificationPending ?_
    by_cases hphase : state.phase = .httpWholeFile
    · refine .inr fun hnone => ?_
      have hsource := h.source (by rw [hphase]; rfl)
      simp [hphase, hsource, hnone] at hguard
    · exact .inl hphase
  · simp at hguard
    exact .verificationPending hguard.1.1 hguard.2

theorem settles_receiptVerified (digest : String) :
    Settles state (.receiptVerified digest) (moved (state.receiptVerified digest)) := by
  rw [ByoRecovery.receiptVerified, h.validate]
  refine settles_guarded (fun _ => nofun) fun hguard => ?_
  simp at hguard
  exact .receiptVerified hguard.1.1 hguard.1.2 hguard.2

theorem settles_receiptPersisted (digest : String) :
    Settles state (.receiptPersisted digest) (moved (state.receiptPersisted digest)) := by
  rw [ByoRecovery.receiptPersisted, h.validate]
  refine settles_guarded (fun _ => nofun) fun hguard => ?_
  simp at hguard
  exact .receiptPersisted hguard.1.1 hguard.1.2 hguard.2

theorem mayCleanup_iff :
    state.mayCleanup ↔ state.phase = .cleanupPending ∧ state.renewalOperation = none := by
  rw [mayCleanup, (invalid_eq_false_iff state).mpr h]
  simp

theorem settles_cleanupFinished :
    Settles state .cleanupFinished (moved state.cleanupFinished) := by
  rw [cleanupFinished]
  refine settles_guarded (fun hguard _ => ?_) fun hguard => ?_
  · rw [Bool.not_eq_true', ← Bool.not_eq_true, mayCleanup_iff h, not_and_or] at hguard
    exact .cleanupFinished hguard
  · rw [Bool.not_eq_true', Bool.not_eq_false, mayCleanup_iff h] at hguard
    exact .cleanupFinished hguard.1 hguard.2

theorem settles_beginRenewal (operation : String) (expectedRevision : Nat) :
    Settles state (.beginRenewal operation expectedRevision)
      (moved (state.beginRenewal operation expectedRevision)) := by
  rw [beginRenewal, h.validate]
  refine settles_guarded (fun hguard _ => ?_) fun hguard => ?_
  · simp [h.bound, or_assoc] at hguard
    exact .beginRenewal (by simpa using hguard)
  · simp [h.bound] at hguard
    obtain ⟨⟨⟨⟨hnew, hcomplete⟩, huuid⟩, hexpected⟩, hbelow⟩ := hguard
    cases hrenewal : state.renewalOperation with
    | none => exact .renewalBegun hnew hcomplete huuid hexpected (by omega) hrenewal
    | some prior =>
      by_cases hsame : prior = operation
      · subst hsame
        simp only [if_true]
        exact .renewalRepeated hrenewal
      · simp only [if_neg hsame]
        exact nofun

theorem settles_renewalCommitted (operation : String) (revision : Nat) :
    Settles state (.renewalCommitted operation revision)
      (moved (state.renewalCommitted operation revision)) := by
  rw [ByoRecovery.renewalCommitted, h.validate]
  refine settles_guarded (fun _ => nofun) fun hguard => ?_
  simp at hguard
  obtain ⟨hoperation, hrevision⟩ := hguard
  rw [checkedAdd] at hrevision
  split at hrevision
  · obtain rfl := Option.some.inj hrevision
    exact .renewalCommitted hoperation
  · exact nomatch hrevision

/-- Every event moves a valid checkpoint or is refused for a reason of its own. -/
theorem settles_apply (request : ByoRecoveryRequest) (hsome : request.checkpoint = some state) :
    Settles state request.event (request.apply state) := by
  obtain ⟨checkpoint, capture, event⟩ := request
  obtain rfl : checkpoint = some state := hsome
  cases event with
  | create => exact fun _ => .create
  | inspect => exact .inspect
  | restart => exact settles_afterRestart h
  | bind route transport => exact settles_bindTransport h route transport
  | webSocketFailed => exact settles_wsFailed h
  | streamUnavailable =>
    rw [ByoRecoveryRequest.apply]
    by_cases hphase : state.phase = .webSocket ∨ state.phase = .httpSegments
    · simp only [if_pos hphase]
      exact .unavailable hphase
    · simp only [if_neg hphase]
      exact fun _ => .streamUnavailable hphase
  | sourceFinalized bytes sha256 => exact settles_sourceFinalized h bytes sha256
  | beginHandoff operation mode => exact settles_beginHandoff h operation mode
  | handoffCommitted operation successor => exact settles_acceptHandoff h operation successor
  | verificationPending => exact settles_verificationPending h
  | receiptVerified sha256 => exact settles_receiptVerified h sha256
  | receiptPersisted sha256 => exact settles_receiptPersisted h sha256
  | cleanupFinished => exact settles_cleanupFinished h
  | beginRenewal operation expectedRevision =>
    exact settles_beginRenewal h operation expectedRevision
  | renewalCommitted operation revision => exact settles_renewalCommitted h operation revision

end Apply

end ByoRecovery

end BotaSdk
