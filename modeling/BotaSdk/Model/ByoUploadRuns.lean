import BotaSdk.Model.ByoUploadMoves

/-!
# Runs of BYO recovery

A rejected request leaves the previous checkpoint in force.  Deleting the source is authorised by
the history of the run: the source's length and digest, the receipt for it, and the receipt's save.
-/

namespace BotaSdk

open Byo

namespace ByoRecovery

/-! ## What one move keeps -/

/-- How far verification has come. -/
def verified : ByoPhase → Nat
  | .verifying => 1
  | .receiptVerified => 2
  | .cleanupPending => 3
  | .complete => 4
  | _ => 0

/-- What no event takes back. -/
structure Extends (state next : ByoRecovery) : Prop where
  capture : next.capture = state.capture
  destination : ∀ route, state.route = some route →
    ∃ route', next.route = some route' ∧ route.sameDestination route' ∧
      route.ownerRevision ≤ route'.ownerRevision
  length : ∀ n, state.sourceLength = some n → next.sourceLength = some n
  sha256 : ∀ digest, state.sourceSha256 = some digest → next.sourceSha256 = some digest
  phase : verified state.phase ≤ verified next.phase

/-- The owner changes by a committed handoff, and then by one revision to another session. -/
structure OwnerMoves (state : ByoRecovery) (event : ByoRecoveryEvent) (next : ByoRecovery) :
    Prop where
  handedOver : ∀ operation successor, event = .handoffCommitted operation successor →
    ∃ previous, state.route = some previous ∧ next.route = some successor ∧
      successor.ownerRevision = previous.ownerRevision + 1 ∧
      successor.sessionId ≠ previous.sessionId
  kept : (∀ operation successor, event ≠ .handoffCommitted operation successor) →
    ∀ route, state.route = some route → next.route = some route

/-- The renewal revision counts the committed renewals of the owner. -/
structure RenewalMoves (state : ByoRecovery) (event : ByoRecoveryEvent) (next : ByoRecovery) :
    Prop where
  committed : ∀ operation revision, event = .renewalCommitted operation revision →
    next.renewalRevision = state.renewalRevision + 1
  handedOver : ∀ operation successor, event = .handoffCommitted operation successor →
    next.renewalRevision = 0
  kept : (∀ operation revision, event ≠ .renewalCommitted operation revision) →
    (∀ operation successor, event ≠ .handoffCommitted operation successor) →
    next.renewalRevision = state.renewalRevision

/-- One more renewal can be committed while one is pending. -/
structure Sound (state : ByoRecovery) : Prop where
  valid : state.Valid
  below : state.renewalRevision < U32_MAX
  pending : state.renewalOperation ≠ none → state.renewalRevision < U32_MAX - 1

theorem sameDestination_refl (route : ByoRoute) : route.sameDestination route := by
  simp [ByoRoute.sameDestination]

theorem sameDestination_trans {a b c : ByoRoute} (h : a.sameDestination b)
    (h' : b.sameDestination c) : a.sameDestination c := by
  simp only [ByoRoute.sameDestination, Bool.and_eq_true, decide_eq_true_eq] at h h' ⊢
  obtain ⟨⟨⟨⟨h1, h2⟩, h3⟩, h4⟩, h5⟩ := h
  rw [h1, h2, h3, h4, h5]
  exact h'

theorem Extends.refl (state : ByoRecovery) : Extends state state :=
  ⟨rfl, fun route h => ⟨route, h, sameDestination_refl route, Nat.le_refl _⟩, fun _ h => h,
    fun _ h => h, Nat.le_refl _⟩

theorem Extends.trans {a b c : ByoRecovery} (h : Extends a b) (h' : Extends b c) : Extends a c := by
  constructor
  · rw [h'.capture, h.capture]
  · intro route hroute
    obtain ⟨route', hroute', hsame, hle⟩ := h.destination route hroute
    obtain ⟨route'', hroute'', hsame', hle'⟩ := h'.destination route' hroute'
    exact ⟨route'', hroute'', sameDestination_trans hsame hsame', Nat.le_trans hle hle'⟩
  · exact fun n hn => h'.length n (h.length n hn)
  · exact fun digest hdigest => h'.sha256 digest (h.sha256 digest hdigest)
  · exact Nat.le_trans h.phase h'.phase

/-- A move that keeps identity, route and source. -/
theorem Extends.of_kept {state next : ByoRecovery} (hcapture : next.capture = state.capture)
    (hroute : next.route = state.route) (hlength : next.sourceLength = state.sourceLength)
    (hsha256 : next.sourceSha256 = state.sourceSha256)
    (hphase : verified state.phase ≤ verified next.phase) : Extends state next := by
  constructor
  · exact hcapture
  · exact fun route h => ⟨route, hroute.trans h, sameDestination_refl route, Nat.le_refl _⟩
  · exact fun n h => hlength.trans h
  · exact fun digest h => hsha256.trans h
  · exact hphase

section Moves

variable {state next : ByoRecovery} {event : ByoRecoveryEvent} {delay : Option Nat}

theorem Moves.extends (h : Moves state event delay next) (hvalid : state.Valid) :
    Extends state next := by
  cases h with
  | inspect | kept | renewalRepeated => exact .refl state
  | restarted hphase | unavailable hphase =>
    refine .of_kept rfl rfl rfl rfl ?_
    rcases hphase with hphase | hphase
    · rw [hphase]
      exact Nat.zero_le _
    · rw [hphase]
      exact Nat.zero_le _
  | bound hphase =>
    refine ⟨rfl, fun route hroute => ?_, fun _ h => h, fun _ h => h, ?_⟩
    · rw [hvalid.bound.mpr hphase] at hroute
      exact nomatch hroute
    · rw [hphase]
      exact Nat.zero_le _
  | retried => exact .of_kept rfl rfl rfl rfl (Nat.le_refl _)
  | exhausted hphase =>
    refine .of_kept rfl rfl rfl rfl ?_
    rw [hphase]
    exact Nat.zero_le _
  | sourceFinalized _ _ _ hsame =>
    refine ⟨rfl, (Extends.refl state).destination, fun n hn => ?_, fun digest hdigest => ?_,
      Nat.le_refl _⟩
    · have hsome : state.sourceLength ≠ none := by
        rw [hn]
        exact nofun
      rw [← hn]
      exact (hsame hsome).1.symm
    · have hsome : state.sourceLength ≠ none := by
        intro hnone
        rw [hvalid.paired.mp hnone] at hdigest
        exact nomatch hdigest
      rw [← hdigest]
      exact (hsame hsome).2.symm
  | @handoffBegun _ mode hphase =>
    refine .of_kept rfl rfl rfl rfl ?_
    cases mode with
    | wholeFile =>
      rw [MayHandOff] at hphase
      rw [hphase]
      exact Nat.zero_le _
    | assembled =>
      rcases hphase with hphase | hphase
      · rw [hphase]
        exact Nat.zero_le _
      · rw [hphase]
        exact Nat.zero_le _
  | handedOver hphase hroute _ _ _ _ hsame howner =>
    refine ⟨rfl, fun route hother => ?_, fun _ h => h, fun _ h => h, ?_⟩
    · obtain rfl := Option.some.inj (hroute.symm.trans hother)
      exact ⟨_, rfl, hsame, by omega⟩
    · rw [hphase]
      exact Nat.zero_le _
  | verificationPending hphase | receiptVerified hphase | receiptPersisted hphase
  | cleanupFinished hphase =>
    refine .of_kept rfl rfl rfl rfl ?_
    rw [hphase]
    exact Nat.le_succ _
  | renewalBegun | renewalCommitted => exact .of_kept rfl rfl rfl rfl (Nat.le_refl _)

theorem Moves.owner (h : Moves state event delay next) (hvalid : state.Valid) :
    OwnerMoves state event next := by
  constructor
  · rintro operation successor rfl
    cases h with
    | handedOver _ hroute _ _ _ _ _ howner hsession =>
      exact ⟨_, hroute, rfl, howner, hsession.symm⟩
  · intro hother route hroute
    cases h with
    | bound hphase =>
      rw [hvalid.bound.mpr hphase] at hroute
      exact nomatch hroute
    | handedOver => exact absurd rfl (hother _ _)
    | _ => exact hroute

theorem Moves.renewal (h : Moves state event delay next) : RenewalMoves state event next := by
  constructor
  · rintro operation revision rfl
    cases h with
    | renewalCommitted => rfl
  · rintro operation successor rfl
    cases h with
    | handedOver => rfl
  · intro hcommitted hhanded
    cases h with
    | renewalCommitted => exact absurd rfl (hcommitted _ _)
    | handedOver => exact absurd rfl (hhanded _ _)
    | _ => rfl

/-- Another phase with the same claims on the fence and the receipt. -/
theorem Valid.toPhase (h : state.Valid) {phase : ByoPhase} (hnew : phase ≠ .new)
    (hbound : state.phase ≠ .new) (hcomplete : phase = .complete → state.renewalOperation = none)
    (hfence : phase ≠ .fencePending) (hfenced : state.phase ≠ .fencePending)
    (hreceipt : phase.hasReceipt = state.phase.hasReceipt)
    (hsource : phase.hasSource → state.sourceLength ≠ none) :
    { state with phase := phase }.Valid :=
  { h with
    renewal := fun operation hoperation => ⟨(h.renewal operation hoperation).1, hnew,
      fun hphase => nomatch hoperation.symm.trans (hcomplete hphase)⟩
    bound := iff_of_false (fun hnone => hbound (h.bound.mp hnone)) hnew
    fence := iff_of_false (fun hpending => hfenced (h.fence.mp hpending)) hfence
    handoff := iff_of_false (fun hmode => hfenced (h.handoff.mp hmode)) hfence
    evidence := by
      change state.receiptSha256 ≠ none ↔ phase.hasReceipt
      rw [hreceipt]
      exact h.evidence
    fenced := fun hphase => absurd hphase hfence
    source := hsource }

theorem not_fenced (h : state.Valid) (hphase : state.phase ≠ .fencePending) :
    state.pendingOperation = none ∧ state.handoffMode = none :=
  ⟨not_not.mp fun hpending => hphase (h.fence.mp hpending),
    not_not.mp fun hmode => hphase (h.handoff.mp hmode)⟩

theorem not_received (h : state.Valid) (hphase : state.phase.hasReceipt = false) :
    state.receiptSha256 = none := by
  refine not_not.mp fun hreceipt => ?_
  rw [h.evidence.mp hreceipt] at hphase
  exact nomatch hphase

/-- Every move keeps the checkpoint valid, so a reply is never refused for its own checkpoint. -/
theorem Moves.valid (h : Moves state event delay next) (hvalid : state.Valid)
    (hrevision : next.renewalRevision ≠ U32_MAX) : next.Valid := by
  -- the conditions on the phase are shown anew, the others are those of before
  cases h with
  | inspect | kept | renewalRepeated => exact hvalid
  | restarted hphase | unavailable hphase =>
    rcases hphase with hphase | hphase
    · exact hvalid.toPhase (by rintro ⟨⟩) (by rw [hphase]; rintro ⟨⟩) (by rintro ⟨⟩) (by rintro ⟨⟩)
        (by rw [hphase]; rintro ⟨⟩) (by rw [hphase]; rfl) (by rintro ⟨⟩)
    · exact hvalid.toPhase (by rintro ⟨⟩) (by rw [hphase]; rintro ⟨⟩) (by rintro ⟨⟩) (by rintro ⟨⟩)
        (by rw [hphase]; rintro ⟨⟩) (by rw [hphase]; rfl) (by rintro ⟨⟩)
  | exhausted hphase =>
    exact hvalid.toPhase (by rintro ⟨⟩) (by rw [hphase]; rintro ⟨⟩) (by rintro ⟨⟩) (by rintro ⟨⟩)
      (by rw [hphase]; rintro ⟨⟩) (by rw [hphase]; rfl) (by rintro ⟨⟩)
  | verificationPending hphase =>
    have hsource := hvalid.source (by rw [hphase]; rfl)
    exact hvalid.toPhase (by rintro ⟨⟩) (by rw [hphase]; rintro ⟨⟩) (by rintro ⟨⟩) (by rintro ⟨⟩)
      (by rw [hphase]; rintro ⟨⟩) (by rw [hphase]; rfl) fun _ => hsource
  | receiptPersisted hphase =>
    have hsource := hvalid.source (by rw [hphase]; rfl)
    exact hvalid.toPhase (by rintro ⟨⟩) (by rw [hphase]; rintro ⟨⟩) (by rintro ⟨⟩) (by rintro ⟨⟩)
      (by rw [hphase]; rintro ⟨⟩) (by rw [hphase]; rfl) fun _ => hsource
  | cleanupFinished hphase hrenewal =>
    have hsource := hvalid.source (by rw [hphase]; rfl)
    exact hvalid.toPhase (by rintro ⟨⟩) (by rw [hphase]; rintro ⟨⟩) (fun _ => hrenewal) (by rintro ⟨⟩)
      (by rw [hphase]; rintro ⟨⟩) (by rw [hphase]; rfl) fun _ => hsource
  | @bound route transport hphase hroute hsource =>
    obtain ⟨hpending, hmode⟩ := not_fenced hvalid (by rw [hphase]; rintro ⟨⟩)
    have hreceipt := not_received hvalid (by rw [hphase]; rfl)
    have hrenewal : state.renewalOperation = none := by
      cases heq : state.renewalOperation with
      | none => rfl
      | some operation => exact absurd hphase (hvalid.renewal operation heq).2.1
    exact { hvalid with
      renewal := fun operation hoperation => by cases hoperation.symm.trans hrenewal
      route := fun other hother => Option.some.inj hother ▸ hroute
      bound := ⟨(by rintro ⟨⟩), fun h => by cases transport <;> cases h⟩
      fence := ⟨fun h => absurd hpending h, fun h => by cases transport <;> cases h⟩
      handoff := ⟨fun h => absurd hmode h, fun h => by cases transport <;> cases h⟩
      evidence := ⟨fun h => absurd hreceipt h, fun h => by cases transport <;> cases h⟩
      fenced := fun h => by cases transport <;> cases h
      source := fun h => by
        cases transport with
        | wholeFile => exact hsource rfl
        | _ => cases h }
  | retried hphase hretries => exact { hvalid with retries := hretries }
  | sourceFinalized hlow hhigh hhash hsame =>
    exact { hvalid with
      paired := ⟨(by rintro ⟨⟩), (by rintro ⟨⟩)⟩
      length := fun n hn => Option.some.inj hn ▸ ⟨hlow, hhigh⟩
      sha256 := fun digest hdigest => Option.some.inj hdigest ▸ hhash
      fenced := fun _ => by rintro ⟨⟩
      source := fun _ => by rintro ⟨⟩ }
  | @handoffBegun operation mode hphase hsource hoperation hrenewal =>
    have hbound : state.phase ≠ .new ∧ state.phase.hasReceipt = false := by
      cases mode with
      | wholeFile =>
        rw [MayHandOff] at hphase
        rw [hphase]
        exact ⟨(by rintro ⟨⟩), rfl⟩
      | assembled =>
        rcases hphase with hphase | hphase <;> rw [hphase] <;> exact ⟨(by rintro ⟨⟩), rfl⟩
    have hreceipt := not_received hvalid hbound.2
    exact { hvalid with
      renewal := fun operation hoperation => by cases hoperation.symm.trans hrenewal
      bound := iff_of_false (fun hnone => hbound.1 (hvalid.bound.mp hnone)) (by rintro ⟨⟩)
      operation := fun other hother => Option.some.inj hother ▸ hoperation
      fence := iff_of_true (by rintro ⟨⟩) rfl
      handoff := iff_of_true (by rintro ⟨⟩) rfl
      evidence := iff_of_false (fun h => h hreceipt) (by rintro ⟨⟩)
      fenced := fun _ => hsource
      source := by rintro ⟨⟩ }
  | @handedOver operation previous successor mode hphase hroute hrenewal hpending hmode hsuccessor =>
    have hreceipt := not_received hvalid (by rw [hphase]; rfl)
    have hsource := hvalid.fenced hphase
    exact { hvalid with
      revision := hrevision
      renewal := fun operation hoperation => by cases hoperation.symm.trans hrenewal
      route := fun other hother => Option.some.inj hother ▸ hsuccessor
      bound := ⟨(by rintro ⟨⟩), fun h => by cases mode <;> cases h⟩
      operation := fun _ => by rintro ⟨⟩
      fence := ⟨fun h => absurd rfl h, fun h => by cases mode <;> cases h⟩
      handoff := ⟨fun h => absurd rfl h, fun h => by cases mode <;> cases h⟩
      evidence := ⟨fun h => absurd hreceipt h, fun h => by cases mode <;> cases h⟩
      fenced := fun _ => hsource
      source := fun _ => hsource }
  | receiptVerified hphase hhash hrenewal =>
    have hsource := hvalid.source (by rw [hphase]; rfl)
    obtain ⟨hpending, hmode⟩ := not_fenced hvalid (by rw [hphase]; rintro ⟨⟩)
    have hbound : state.route ≠ none := by
      intro hnone
      rw [hvalid.bound.mp hnone] at hphase
      cases hphase
    exact { hvalid with
      renewal := fun operation hoperation => by cases hoperation.symm.trans hrenewal
      bound := iff_of_false hbound (by rintro ⟨⟩)
      receipt := fun digest hdigest => Option.some.inj hdigest ▸ hhash
      fence := iff_of_false (fun h => h hpending) (by rintro ⟨⟩)
      handoff := iff_of_false (fun h => h hmode) (by rintro ⟨⟩)
      evidence := iff_of_true (by rintro ⟨⟩) rfl
      fenced := fun _ => hsource
      source := fun _ => hsource }
  | renewalBegun hnew hcomplete huuid =>
    exact { hvalid with
      renewal := fun other hother => Option.some.inj hother ▸ ⟨huuid, hnew, hcomplete⟩ }
  | renewalCommitted => exact { hvalid with revision := hrevision, renewal := fun _ => by rintro ⟨⟩ }

theorem Moves.sound (h : Moves state event delay next) (hsound : state.Sound) : next.Sound := by
  have hbounds : next.renewalRevision < U32_MAX ∧
      (next.renewalOperation ≠ none → next.renewalRevision < U32_MAX - 1) := by
    cases h with
    | handedOver =>
      have hzero : 0 < U32_MAX - 1 := by decide
      exact ⟨Nat.lt_of_lt_of_le hzero (Nat.sub_le _ _), fun _ => hzero⟩
    | renewalBegun _ _ _ hexpected hbelow => exact ⟨hsound.below, fun _ => hexpected ▸ hbelow⟩
    | renewalCommitted hoperation =>
      have hbelow := hsound.pending (by rw [hoperation]; exact nofun)
      exact ⟨by simp only; omega, fun h => absurd rfl h⟩
    | _ => exact ⟨hsound.below, hsound.pending⟩
  exact ⟨h.valid hsound.valid (Nat.ne_of_lt hbounds.1), hbounds.1, hbounds.2⟩

end Moves

/-! ## Requests -/

/-- The checkpoint of a recording that has just been created. -/
def fresh (capture : ByoCapture) : ByoRecovery where
  version := 1
  capture := capture
  route := none
  phase := .new
  wsRetries := 0
  sourceLength := none
  sourceSha256 := none
  pendingOperation := none
  handoffMode := none
  receiptSha256 := none
  renewalRevision := 0
  renewalOperation := none

theorem fresh_valid_iff (capture : ByoCapture) : (fresh capture).Valid ↔ capture.Valid := by
  refine ⟨fun h => h.capture, fun h => ?_⟩
  exact ⟨rfl, h, Nat.zero_le _, (by decide : 0 ≠ U32_MAX), fun _ => nofun, fun _ => nofun,
    by simp [fresh], by simp [fresh], fun _ => nofun, fun _ => nofun, fun _ => nofun, fun _ => nofun,
    by simp [fresh], by simp [fresh], by simp [fresh, ByoPhase.hasReceipt], nofun, nofun⟩

theorem fresh_sound {capture : ByoCapture} (h : (fresh capture).Valid) : (fresh capture).Sound :=
  ⟨h, (by decide : 0 < U32_MAX), nofun⟩

/-- The outcome of a request on the checkpoint in force. -/
def Answers (state : ByoRecovery) (capture : ByoCapture) (event : ByoRecoveryEvent) :
    Except ByoRecoveryError ByoRecoveryReply → Prop
  | .ok reply =>
    capture = state.capture ∧ Moves state event reply.retryAfterMs reply.checkpoint ∧
      reply.mayCleanup = reply.checkpoint.mayCleanup
  | .error error =>
    (capture ≠ state.capture ∧ error = .identityConflict) ∨
      (capture = state.capture ∧ (error = .invalidState → Refuses state event))

theorem reduce_some {state : ByoRecovery} (hsound : state.Sound) (capture : ByoCapture)
    (event : ByoRecoveryEvent) :
    Answers state capture event (ByoRecoveryRequest.reduce ⟨some state, capture, event⟩) := by
  have hload : ByoRecoveryRequest.load ⟨some state, capture, event⟩ =
      if state.capture ≠ capture then .error .identityConflict else .ok state := by
    rw [ByoRecoveryRequest.load]
    simp only [authorize, hsound.valid.validate]
    by_cases h : state.capture ≠ capture
    · simp only [if_pos h]
      rfl
    · simp only [if_neg h]
      rfl
  rw [ByoRecoveryRequest.reduce, hload]
  by_cases hcapture : state.capture ≠ capture
  · rw [if_pos hcapture]
    exact .inl ⟨hcapture.symm, rfl⟩
  · rw [if_neg hcapture]
    rw [not_not] at hcapture
    have hsettles := settles_apply hsound.valid ⟨some state, capture, event⟩ rfl
    cases happly : ByoRecoveryRequest.apply ⟨some state, capture, event⟩ state with
    | error error =>
      rw [happly] at hsettles
      simp only [happly, bind, Except.bind]
      exact .inr ⟨hcapture.symm, hsettles⟩
    | ok result =>
      obtain ⟨delay, next⟩ := result
      rw [happly] at hsettles
      simp only [happly, bind, Except.bind, (hsettles.sound hsound).valid.validate]
      exact ⟨hcapture.symm, hsettles, rfl⟩

theorem reduce_none (capture : ByoCapture) (event : ByoRecoveryEvent) :
    (event = .create ∧ capture.Valid ∧ ByoRecoveryRequest.reduce ⟨none, capture, event⟩ =
        .ok ⟨fresh capture, none, false⟩) ∨
      ((event ≠ .create ∨ ¬capture.Valid) ∧
        ByoRecoveryRequest.reduce ⟨none, capture, event⟩ = .error .invalidState) := by
  by_cases hcreate : event = .create
  · subst hcreate
    by_cases hvalid : capture.Valid
    · have hok := ((fresh_valid_iff capture).mpr hvalid).validate
      have hnew : ByoRecovery.new capture = .ok (fresh capture) := by
        rw [ByoRecovery.new]
        change (do (fresh capture).validate; pure (fresh capture)) = _
        rw [hok]
        rfl
      refine .inl ⟨rfl, hvalid, ?_⟩
      rw [ByoRecoveryRequest.reduce, ByoRecoveryRequest.load]
      simp only [if_true, hnew, bind, Except.bind, ByoRecoveryRequest.apply, Option.isNone_none, hok]
      have hcleanup : (fresh capture).mayCleanup = false := by
        simp [mayCleanup, fresh]
      rw [hcleanup]
      rfl
    · refine .inr ⟨.inr hvalid, ?_⟩
      have hinvalid : (fresh capture).validate = .error .invalidState := by
        rw [validate, if_pos]
        rw [← Bool.not_eq_false, invalid_eq_false_iff, fresh_valid_iff]
        exact hvalid
      have hnew : ByoRecovery.new capture = .error .invalidState := by
        rw [ByoRecovery.new]
        change (do (fresh capture).validate; pure (fresh capture)) = _
        rw [hinvalid]
        rfl
      rw [ByoRecoveryRequest.reduce, ByoRecoveryRequest.load]
      simp only [if_true, hnew, bind, Except.bind]
  · refine .inr ⟨.inl hcreate, ?_⟩
    rw [ByoRecoveryRequest.reduce, ByoRecoveryRequest.load]
    simp only [if_neg hcreate]
    rfl

/-! ## Runs -/

/-- A request, apart from the checkpoint in force. -/
abbrev Input := ByoCapture × ByoRecoveryEvent

abbrev Reply := Except ByoRecoveryError ByoRecoveryReply

/-- The checkpoint in force after a request, and the reply to it. -/
def advance (state : Option ByoRecovery) (input : Input) : Option ByoRecovery × Reply :=
  let result := ByoRecoveryRequest.reduce ⟨state, input.1, input.2⟩
  match result with
  | .ok reply => (some reply.checkpoint, result)
  | .error _ => (state, result)

section Advance

variable {state : Option ByoRecovery} {input : Input}

theorem advance_ok {reply : ByoRecoveryReply}
    (h : ByoRecoveryRequest.reduce ⟨state, input.1, input.2⟩ = .ok reply) :
    advance state input = (some reply.checkpoint, .ok reply) := by
  rw [advance, h]

theorem advance_error {error : ByoRecoveryError}
    (h : ByoRecoveryRequest.reduce ⟨state, input.1, input.2⟩ = .error error) :
    advance state input = (state, .error error) := by
  rw [advance, h]

end Advance

abbrev Entry := Machine.Entry (Option ByoRecovery) Input Reply

/-- Runs over requests for any recording, from before the first checkpoint. -/
abbrev RecoveryRun : List Entry → Option ByoRecovery → Prop :=
  Machine.Run advance (fun _ _ _ => True) none

def Accepted (entry : Entry) (event : ByoRecoveryEvent) : Prop :=
  entry.input.2 = event ∧ ∃ reply, entry.output = .ok reply

/-- The source's length and digest were taken. -/
def Finalized (bytes : Nat) (sha256 : String) (trace : List Entry) : Prop :=
  ∃ before entry after, trace = before ++ entry :: after ∧
    Accepted entry (.sourceFinalized bytes sha256)

/-- The receipt for that source was verified after that. -/
def Received (bytes : Nat) (sha256 digest : String) (trace : List Entry) : Prop :=
  ∃ before entry after, trace = before ++ entry :: after ∧
    Accepted entry (.receiptVerified digest) ∧ Finalized bytes sha256 before

/-- And the same receipt was saved after that. -/
def Persisted (bytes : Nat) (sha256 digest : String) (trace : List Entry) : Prop :=
  ∃ before entry after, trace = before ++ entry :: after ∧
    Accepted entry (.receiptPersisted digest) ∧ Received bytes sha256 digest before

section History

variable {bytes : Nat} {sha256 digest : String} {trace : List Entry}

theorem Finalized.append (h : Finalized bytes sha256 trace) (rest : List Entry) :
    Finalized bytes sha256 (trace ++ rest) := by
  obtain ⟨before, entry, after, rfl, haccepted⟩ := h
  exact ⟨before, entry, after ++ rest, by simp, haccepted⟩

theorem Received.append (h : Received bytes sha256 digest trace) (rest : List Entry) :
    Received bytes sha256 digest (trace ++ rest) := by
  obtain ⟨before, entry, after, rfl, haccepted, hfinalized⟩ := h
  exact ⟨before, entry, after ++ rest, by simp, haccepted, hfinalized⟩

theorem Persisted.append (h : Persisted bytes sha256 digest trace) (rest : List Entry) :
    Persisted bytes sha256 digest (trace ++ rest) := by
  obtain ⟨before, entry, after, rfl, haccepted, hreceived⟩ := h
  exact ⟨before, entry, after ++ rest, by simp, haccepted, hreceived⟩

end History

/-- What the history of a run says of the checkpoint in force. -/
structure Evidence (trace : List Entry) (state : ByoRecovery) : Prop where
  sound : state.Sound
  source : ∀ bytes sha256, state.sourceLength = some bytes → state.sourceSha256 = some sha256 →
    Finalized bytes sha256 trace
  receipt : ∀ bytes sha256 digest, state.sourceLength = some bytes →
    state.sourceSha256 = some sha256 → state.receiptSha256 = some digest →
    Received bytes sha256 digest trace
  cleanup : state.phase = .cleanupPending ∨ state.phase = .complete →
    ∀ bytes sha256 digest, state.sourceLength = some bytes → state.sourceSha256 = some sha256 →
      state.receiptSha256 = some digest → Persisted bytes sha256 digest trace

theorem Evidence.append {trace : List Entry} {state : ByoRecovery} (h : Evidence trace state)
    (rest : List Entry) : Evidence (trace ++ rest) state :=
  ⟨h.sound, fun _ _ hb hs => (h.source _ _ hb hs).append rest,
    fun _ _ _ hb hs hd => (h.receipt _ _ _ hb hs hd).append rest,
    fun hphase _ _ _ hb hs hd => (h.cleanup hphase _ _ _ hb hs hd).append rest⟩

/-- A move that keeps source and receipt, and does not reach cleanup. -/
theorem Evidence.of_kept {trace : List Entry} {state next : ByoRecovery} (h : Evidence trace state)
    (hsound : next.Sound) (hlength : next.sourceLength = state.sourceLength)
    (hsha256 : next.sourceSha256 = state.sourceSha256)
    (hreceipt : next.receiptSha256 = state.receiptSha256)
    (hphase : next.phase = .cleanupPending ∨ next.phase = .complete →
      state.phase = .cleanupPending ∨ state.phase = .complete) : Evidence trace next := by
  constructor
  · exact hsound
  · rw [hlength, hsha256]
    exact h.source
  · rw [hlength, hsha256, hreceipt]
    exact h.receipt
  · rw [hlength, hsha256, hreceipt]
    exact fun hcleanup => h.cleanup (hphase hcleanup)

theorem Moves.evidence {trace : List Entry} {entry : Entry} {state next : ByoRecovery}
    {event : ByoRecoveryEvent} {delay : Option Nat} (h : Moves state event delay next)
    (hevidence : Evidence trace state) (haccepted : Accepted entry event) :
    Evidence (trace ++ [entry]) next := by
  have hkept := hevidence.append [entry]
  have hvalid := hevidence.sound.valid
  have hsound := h.sound hevidence.sound
  -- the evidence that a move adds is the event it accepts
  cases h with
  | inspect | kept | renewalRepeated => exact hkept
  | retried | renewalBegun | renewalCommitted => exact hkept.of_kept hsound rfl rfl rfl id
  | restarted | exhausted | unavailable | handoffBegun | verificationPending =>
    exact hkept.of_kept hsound rfl rfl rfl nofun
  | @bound _ transport =>
    exact hkept.of_kept hsound rfl rfl rfl (by cases transport <;> exact nofun)
  | @handedOver _ _ _ mode =>
    exact hkept.of_kept hsound rfl rfl rfl (by cases mode <;> exact nofun)
  | @sourceFinalized bytes sha256 _ _ _ hsame =>
    have hfinalized : Finalized bytes sha256 (trace ++ [entry]) := ⟨trace, entry, [], rfl, haccepted⟩
    have hreceived : ∀ digest, state.receiptSha256 = some digest →
        state.sourceLength = some bytes ∧ state.sourceSha256 = some sha256 := by
      intro digest hdigest
      have hphase := hvalid.evidence.mp (by rw [hdigest]; exact nofun)
      refine hsame (hvalid.source ?_)
      cases heq : state.phase <;> simp_all [ByoPhase.hasReceipt, ByoPhase.hasSource]
    constructor
    · exact hsound
    · intro b s hb hs
      obtain rfl := Option.some.inj hb
      obtain rfl := Option.some.inj hs
      exact hfinalized
    · intro b s digest hb hs hdigest
      obtain rfl := Option.some.inj hb
      obtain rfl := Option.some.inj hs
      obtain ⟨hlength, hsha256⟩ := hreceived digest hdigest
      exact hkept.receipt _ _ _ hlength hsha256 hdigest
    · intro hphase b s digest hb hs hdigest
      obtain rfl := Option.some.inj hb
      obtain rfl := Option.some.inj hs
      obtain ⟨hlength, hsha256⟩ := hreceived digest hdigest
      exact hkept.cleanup hphase _ _ _ hlength hsha256 hdigest
  | receiptVerified =>
    constructor
    · exact hsound
    · exact hkept.source
    · intro bytes sha256 digest hbytes hsha256 hdigest
      obtain rfl := Option.some.inj hdigest
      exact ⟨trace, entry, [], rfl, haccepted, hevidence.source _ _ hbytes hsha256⟩
    · exact nofun
  | receiptPersisted _ hreceipt =>
    constructor
    · exact hsound
    · exact hkept.source
    · exact hkept.receipt
    · intro _ bytes sha256 digest hbytes hsha256 hdigest
      obtain rfl := Option.some.inj (hreceipt.symm.trans hdigest)
      exact ⟨trace, entry, [], rfl, haccepted, hevidence.receipt _ _ _ hbytes hsha256 hreceipt⟩
  | cleanupFinished hphase =>
    exact ⟨hsound, hkept.source, hkept.receipt, fun _ => hkept.cleanup (.inl hphase)⟩

/-! ## One request of a run -/

/-- What a request may do, given the history before it. -/
structure Ordered (before : List Entry) (entry : Entry) : Prop where
  cleanup : ∀ reply, entry.output = .ok reply →
    reply.mayCleanup ∨ reply.checkpoint.phase = .complete →
    reply.checkpoint.renewalOperation = none ∧
      ∃ bytes sha256 digest, reply.checkpoint.sourceLength = some bytes ∧
        reply.checkpoint.sourceSha256 = some sha256 ∧
        reply.checkpoint.receiptSha256 = some digest ∧
        Persisted bytes sha256 digest (before ++ [entry])
  valid : ∀ reply, entry.output = .ok reply → reply.checkpoint.validate = .ok ()
  created : ∀ reply, entry.pre = none → entry.output = .ok reply →
    entry.input.2 = .create ∧ reply.checkpoint = fresh entry.input.1
  moved : ∀ state reply, entry.pre = some state → entry.output = .ok reply →
    Extends state reply.checkpoint ∧ OwnerMoves state entry.input.2 reply.checkpoint ∧
      RenewalMoves state entry.input.2 reply.checkpoint
  foreign : ∀ state, entry.pre = some state → entry.input.1 ≠ state.capture →
    entry.output = .error .identityConflict
  refused : ∀ state, entry.pre = some state → entry.output = .error .invalidState →
    Refuses state entry.input.2
  uncreated : entry.pre = none → entry.output = .error .invalidState →
    entry.input.2 ≠ .create ∨ ¬entry.input.1.Valid

section Entries

variable {trace : List Entry} {state : Option ByoRecovery}

theorem ordered_created (capture : ByoCapture) (event : ByoRecoveryEvent) :
    Ordered trace ⟨none, (capture, event), (advance none (capture, event)).2⟩ := by
  rcases reduce_none capture event with ⟨rfl, hcapture, hreply⟩ | ⟨hwhy, hreply⟩
  · rw [advance_ok hreply]
    have hvalid := (fresh_valid_iff capture).mpr hcapture
    constructor
    · intro reply hok hcleanup
      obtain rfl := Except.ok.inj hok
      exact absurd hcleanup (by simp [fresh])
    · intro reply hok
      obtain rfl := Except.ok.inj hok
      exact hvalid.validate
    · intro reply _ hok
      obtain rfl := Except.ok.inj hok
      exact ⟨rfl, rfl⟩
    · exact fun _ _ h => nomatch h
    · exact fun _ h => nomatch h
    · exact fun _ h => nomatch h
    · exact fun _ h => nomatch h
  · rw [advance_error hreply]
    exact ⟨fun _ h => (nomatch h), fun _ h => (nomatch h), fun _ _ h => (nomatch h),
      fun _ _ h => (nomatch h), fun _ h => (nomatch h), fun _ h => (nomatch h), fun _ _ => hwhy⟩

theorem ordered_answered {state : ByoRecovery} (hevidence : Evidence trace state)
    (capture : ByoCapture) (event : ByoRecoveryEvent) :
    Ordered trace ⟨some state, (capture, event), (advance (some state) (capture, event)).2⟩ := by
  have hanswers := reduce_some hevidence.sound capture event
  cases hreply : ByoRecoveryRequest.reduce ⟨some state, capture, event⟩ with
  | error error =>
    rw [hreply] at hanswers
    rw [advance_error hreply]
    refine ⟨fun _ h => (nomatch h), fun _ h => (nomatch h), fun _ h => (nomatch h),
      fun _ _ _ h => (nomatch h), fun other hother hforeign => ?_, fun other hother hstate => ?_,
      fun h => (nomatch h)⟩
    · obtain rfl := Option.some.inj hother
      rcases hanswers with ⟨-, rfl⟩ | ⟨hsame, -⟩
      · rfl
      · exact absurd hsame hforeign
    · obtain rfl := Option.some.inj hother
      obtain rfl := Except.error.inj hstate
      rcases hanswers with ⟨-, hconflict⟩ | ⟨-, hrefuses⟩
      · exact nomatch hconflict
      · exact hrefuses rfl
  | ok reply =>
    rw [hreply] at hanswers
    rw [advance_ok hreply]
    obtain ⟨hcapture, hmoves, hcleanup⟩ := hanswers
    have hnext := hmoves.sound hevidence.sound
    -- an answer authorises the cleanup only in its phase, where the evidence is complete
    constructor
    · intro other hok hauthorised
      obtain rfl := Except.ok.inj hok
      have haccepted : Accepted ⟨some state, (capture, event), .ok reply⟩ event :=
        ⟨rfl, reply, rfl⟩
      have hevidence' := hmoves.evidence hevidence haccepted
      have hphase : reply.checkpoint.phase = .cleanupPending ∨
          reply.checkpoint.phase = .complete := by
        rw [hcleanup, mayCleanup_iff hnext.valid] at hauthorised
        exact hauthorised.imp_left And.left
      refine ⟨?_, ?_⟩
      · rw [hcleanup, mayCleanup_iff hnext.valid] at hauthorised
        rcases hauthorised with ⟨-, hrenewal⟩ | hcomplete
        · exact hrenewal
        · cases hrenewal : reply.checkpoint.renewalOperation with
          | none => rfl
          | some operation =>
            exact absurd hcomplete (hnext.valid.renewal operation hrenewal).2.2
      · have hsource : reply.checkpoint.sourceLength ≠ none := by
          refine hnext.valid.source ?_
          rcases hphase with hphase | hphase <;> rw [hphase] <;> rfl
        have hreceipt : reply.checkpoint.receiptSha256 ≠ none := by
          refine hnext.valid.evidence.mpr ?_
          rcases hphase with hphase | hphase <;> rw [hphase] <;> rfl
        have hsha256 : reply.checkpoint.sourceSha256 ≠ none :=
          fun hnone => hsource (hnext.valid.paired.mpr hnone)
        obtain ⟨bytes, hbytes⟩ := Option.ne_none_iff_exists'.mp hsource
        obtain ⟨sha256, hsha256⟩ := Option.ne_none_iff_exists'.mp hsha256
        obtain ⟨digest, hdigest⟩ := Option.ne_none_iff_exists'.mp hreceipt
        exact ⟨bytes, sha256, digest, hbytes, hsha256, hdigest,
          hevidence'.cleanup hphase _ _ _ hbytes hsha256 hdigest⟩
    · intro other hok
      obtain rfl := Except.ok.inj hok
      exact hnext.valid.validate
    · exact fun _ h => nomatch h
    · intro other other' hother hok
      obtain rfl := Option.some.inj hother
      obtain rfl := Except.ok.inj hok
      have hvalid := hevidence.sound.valid
      exact ⟨hmoves.extends hvalid, hmoves.owner hvalid, hmoves.renewal⟩
    · intro other hother hforeign
      obtain rfl := Option.some.inj hother
      exact absurd hcapture hforeign
    · exact fun _ _ h => nomatch h
    · exact fun h => nomatch h

/-- What holds after every run: the history of the checkpoint in force, and that it extends every
checkpoint before it. -/
structure InForce (trace : List Entry) (state : Option ByoRecovery) : Prop where
  evidence : ∀ checkpoint, state = some checkpoint → Evidence trace checkpoint
  extends_earlier : ∀ entry ∈ trace, ∀ earlier, entry.pre = some earlier →
    ∃ latest, state = some latest ∧ Extends earlier latest

/-- What a request does to the checkpoint in force. -/
theorem advance_cases {checkpoint : ByoRecovery} (hevidence : Evidence trace checkpoint)
    (input : Input) :
    ∃ next, (advance (some checkpoint) input).1 = some next ∧ Extends checkpoint next ∧
      Evidence (trace ++ [⟨some checkpoint, input, (advance (some checkpoint) input).2⟩]) next := by
  obtain ⟨capture, event⟩ := input
  have hanswers := reduce_some hevidence.sound capture event
  cases hreply : ByoRecoveryRequest.reduce ⟨some checkpoint, capture, event⟩ with
  | error error =>
    rw [advance_error hreply]
    exact ⟨checkpoint, rfl, .refl checkpoint, hevidence.append _⟩
  | ok reply =>
    rw [hreply] at hanswers
    rw [advance_ok hreply]
    exact ⟨reply.checkpoint, rfl, hanswers.2.1.extends hevidence.sound.valid,
      hanswers.2.1.evidence hevidence ⟨rfl, reply, rfl⟩⟩

theorem run_inForce (hrun : RecoveryRun trace state) : InForce trace state := by
  refine Machine.Run.invariant InForce ?_ ?_ hrun
  · exact ⟨fun _ h => (nomatch h), fun entry hentry => absurd hentry List.not_mem_nil⟩
  intro trace state input _ hinv _
  cases state with
  | none =>
    refine ⟨fun checkpoint hcheckpoint => ?_, fun entry hentry earlier hearlier => ?_⟩
    · rcases reduce_none input.1 input.2 with ⟨-, hcapture, hreply⟩ | ⟨-, hreply⟩
      · rw [advance_ok hreply] at hcheckpoint
        obtain rfl := Option.some.inj hcheckpoint
        exact ⟨fresh_sound ((fresh_valid_iff _).mpr hcapture), fun _ _ h => (nomatch h),
          fun _ _ _ h => (nomatch h), fun h => by simp [fresh] at h⟩
      · rw [advance_error hreply] at hcheckpoint
        exact nomatch hcheckpoint
    · rcases List.mem_append.mp hentry with hentry | hentry
      · obtain ⟨latest, hlatest, -⟩ := hinv.extends_earlier entry hentry earlier hearlier
        exact nomatch hlatest
      · obtain rfl := List.mem_singleton.mp hentry
        exact nomatch hearlier
  | some checkpoint =>
    obtain ⟨next, hnext, hextends, hevidence⟩ :=
      advance_cases (hinv.evidence checkpoint rfl) input
    refine ⟨fun other hother => ?_, fun entry hentry earlier hearlier => ⟨next, hnext, ?_⟩⟩
    · obtain rfl := Option.some.inj (hnext.symm.trans hother)
      exact hevidence
    · rcases List.mem_append.mp hentry with hentry | hentry
      · obtain ⟨latest, hlatest, hearlier⟩ := hinv.extends_earlier entry hentry earlier hearlier
        obtain rfl := Option.some.inj hlatest
        exact hearlier.trans hextends
      · obtain rfl := List.mem_singleton.mp hentry
        obtain rfl := Option.some.inj hearlier
        exact hextends

/-- Over every run, cleanup is authorised by a finalized source, its verified receipt and the save of
that receipt; what identifies the recording, its destination and its source never changes; the owner
and the renewals advance one by one; and every checkpoint handed out is valid. -/
theorem recovery_in_order (hrun : RecoveryRun trace state) :
    (∀ before entry after, trace = before ++ entry :: after → Ordered before entry) ∧
      ∀ entry ∈ trace, ∀ earlier, entry.pre = some earlier →
        ∃ latest, state = some latest ∧ Extends earlier latest := by
  refine ⟨fun before entry after hsplit => ?_, (run_inForce hrun).extends_earlier⟩
  obtain ⟨hbefore, -, hout, -⟩ := hrun.split hsplit
  obtain ⟨pre, ⟨capture, event⟩, output⟩ := entry
  obtain rfl : output = (advance pre (capture, event)).2 := hout
  cases pre with
  | none => exact ordered_created capture event
  | some checkpoint =>
    exact ordered_answered ((run_inForce hbefore).evidence checkpoint rfl) capture event

end Entries

def sampleCapture : ByoCapture where
  environment := .production
  organizationId := "org_1"
  projectId := "prj_1"
  deviceId := "dev_1"
  bindingGeneration := 1
  deviceAssignmentGeneration := 1
  policyRevision := "1"
  recordingUuid := "01234567-89ab-cdef-0123-456789abcdef"
  recordingGeneration := 1

def sampleSha256 : String :=
  "0123456789abcdef0123456789abcdef0123456789abcdef0123456789abcdef"

def sampleRoute : ByoRoute where
  recordingId := "rec_1"
  configurationId := "aaaaaaaa-bbbb-cccc-dddd-eeeeeeeeeeee"
  configurationRevision := 1
  configurationSha256 := sampleSha256
  destinationRef := "dest_1"
  sessionId := "11111111-2222-3333-4444-555555555555"
  ownerRevision := 1

/-- A whole file is uploaded, verified and cleaned up. -/
def sampleInputs : List Input :=
  [.create, .sourceFinalized 300 sampleSha256, .bind sampleRoute .wholeFile, .verificationPending,
    .receiptVerified sampleSha256, .receiptPersisted sampleSha256, .cleanupFinished].map
      (sampleCapture, ·)

def sampleRun : List Entry × Option ByoRecovery :=
  Machine.exec advance [] none sampleInputs

theorem recovery_in_order_sample :
    sampleRun.2.map (·.phase) = some .complete ∧
    (∀ before entry after, sampleRun.1 = before ++ entry :: after → Ordered before entry) ∧
    ∀ entry ∈ sampleRun.1, ∀ earlier, entry.pre = some earlier →
      ∃ latest, sampleRun.2 = some latest ∧ Extends earlier latest := by
  refine ⟨by decide +kernel, ?_⟩
  exact recovery_in_order (Machine.Run.exec (Machine.allowed_true [] none sampleInputs))

end ByoRecovery

end BotaSdk
