import BotaSdk.Bridge.ByoHistoryDocuments

/-!
# Refreshes that fail

A refresh on the way returns to the stage that was interrupted.  `consume` keeps the text of that
stage in `next`, also where the refresh is what was interrupted: a refresh that fails for expired
credentials is then its own return stage, and the run never leaves it.
-/

namespace BotaSdk

namespace ByoMachine

open Byo Checked

/-- The machine returns from its refresh to its refresh. -/
def Trapped (self : ByoMachine) : Prop :=
  self.stage = .refreshPeriodic ∧ self.next = .stage .refreshPeriodic

section Refresh

variable {crates : Crates} {self : ByoMachine} {event : Json} {now : Nat} {random : String}

/-- The action of a stage depends neither on the return stage nor on the last refresh. -/
theorem action_refreshed {next : Next} {refreshed : Nat} :
    { self with next, refreshed }.action crates = self.action crates := by
  cases self
  rfl

/-- The package plan goes on to another stage at once and has no action of its own. -/
theorem stage_of_action {action : Action} (haction : self.action crates = .ok action) :
    self.stage ≠ .packagePlan := by
  intro hplan
  rw [ByoMachine.action, hplan] at haction
  cases haction

/-- A refresh that succeeds at once is followed by the action that was interrupted. -/
theorem advance_expired {action : Action} (haction : self.action crates = .ok action)
    (hrandom : isUuid random)
    (hclock : self.started ≤ now ∧ now ≤ Json.MAX_SAFE_INTEGER)
    (hok : event.get "error" = none) :
    self.expired.advance crates now random event =
      { self with next := .stage self.stage, refreshed := now }.asking.reply crates action := by
  have hnow : ¬(now < self.started ∨ Json.MAX_SAFE_INTEGER < now) := by
    rw [not_or, not_lt, not_lt]
    exact hclock
  have hstage : self.expired.stage = .refreshPeriodic := rfl
  have hstarted : self.expired.started = self.started := rfl
  unfold advance
  rw [if_neg (not_not.mpr hrandom), hstage, if_neg (by decide), if_neg (by simp),
    if_neg (by simp)]
  unfold consume
  rw [hstarted, if_neg hnow, hok]
  unfold consumeOk
  rw [hstage]
  show (self.expired.refreshed? now).goto crates self.stage = _
  unfold goto
  rw [if_neg (stage_of_action haction)]
  show { self with next := .stage self.stage, refreshed := now }.issue crates = _
  rw [issue, action_refreshed, haction]
  rfl

/-- Any failure of the refresh that does not end the run sets the trap. -/
theorem trapped_failed {failure error : Json} (hstage : self.stage = .refreshPeriodic)
    (hfailed : failure.get "error" = some error) :
    Ends (self.advance crates now random failure) fun out =>
      out.1.Trapped ∧ out.2 = .refresh := by
  refine ends_advance_error hfailed ((ends_consumeError (by rw [hstage]; rfl)).imp ?_)
  intro out hout
  rw [hout.2]
  exact ⟨⟨rfl, congrArg Next.stage hstage⟩, rfl⟩

theorem trapped_advance (h : self.Trapped) : Ends (self.advance crates now random event) fun out =>
    out.1.Trapped ∧ out.2 = .refresh := by
  obtain ⟨hstage, hnext⟩ := h
  cases herror : event.get "error" with
  | some error => exact trapped_failed hstage herror
  | none =>
    refine ends_advance_ok herror (fun hsaved _ => ?_) (fun hloaded => ?_) fun _ => ?_
    · cases hstage.symm.trans hsaved
    · cases hstage.symm.trans hloaded
    · rw [consumeOk, hstage]
      show Ends ((self.refreshed? now).resume crates self.next) _
      rw [hnext]
      refine (ends_resume (by decide)).imp fun out hout => ?_
      obtain ⟨haction, hmachine⟩ := hout
      have haction : Except.ok Action.refresh = Except.ok out.2 := haction
      rw [hmachine]
      exact ⟨⟨rfl, hnext⟩, (Except.ok.inj haction).symm⟩

end Refresh

/-! ## Histories -/

def Input.ofAnswer (answer : Json × Nat × String) : Input :=
  .answer answer.1 answer.2.1 answer.2.2

/-- The run that waits, if one does, is trapped in a refresh. -/
def Refreshing (w : World) : Prop :=
  ∀ run action, w.current = some (run, action) → run.Trapped ∧ action = .refresh

section Histories

variable {crates : Crates} {self : ByoMachine} {w : World}
  {tr : List (Machine.Entry World Input Unit)}

theorem refreshing_continued {result : Reply}
    (h : Ends result fun out => out.1.Trapped ∧ out.2 = .refresh) :
    Refreshing (w.continued result) := by
  cases result with
  | error e => rintro run action ⟨⟩
  | ok out =>
    rintro run action ⟨⟩
    exact h _ rfl

theorem refreshing_step {event : Json} {now : Nat} {random : String} (h : Refreshing w) :
    Refreshing (w.step crates (.answer event now random)).1 := by
  show Refreshing (w.answered crates event now random)
  unfold World.answered
  split
  · rename_i machine action hcurrent
    exact refreshing_continued (trapped_advance (h machine action hcurrent).1)
  · exact h

theorem refreshing_exec {answers : List (Json × Nat × String)} (h : Refreshing w) :
    Refreshing (Machine.exec (World.step crates) tr w (answers.map Input.ofAnswer)).2 := by
  induction answers generalizing tr w with
  | nil => exact h
  | cons answer answers ih => exact ih (refreshing_step h)

/-- The refresh has interrupted the action of the stage itself, which is no save and no load.  A refresh
that succeeds is followed by that action, but one that fails is followed by refreshes only, whatever
they are answered with. -/
theorem refresh_detour {action : Action} (haction : self.action crates = .ok action)
    (hcurrent : w.current = some (self.expired, .refresh)) :
    (∀ event now random, event.get "error" = none → isUuid random → self.started ≤ now →
      now ≤ Json.MAX_SAFE_INTEGER → (w.step crates (.answer event now random)).1 = w.continued
        ({ self with next := .stage self.stage, refreshed := now }.asking.reply crates action)) ∧
      ∀ event error now random answers, event.get "error" = some error →
        Refreshing (Machine.exec (World.step crates) tr w
          (((event, now, random) :: answers).map Input.ofAnswer)).2 := by
  refine ⟨fun event now random hok hrandom hstarted hnow => ?_, ?_⟩
  · show w.answered crates event now random = _
    rw [World.answered, hcurrent]
    exact congrArg w.continued (advance_expired haction hrandom ⟨hstarted, hnow⟩ hok)
  · intro event error now random answers hfailed
    refine refreshing_exec (w := w.answered crates event now random) ?_
    rw [World.answered, hcurrent]
    exact refreshing_continued (trapped_failed rfl hfailed)

end Histories

/-- The world of the samples while the device is asked for its capabilities. -/
def sampleAsking : World :=
  (Machine.exec (World.step sampleCrates) [] World.boot
    [.start sampleInput 0, sampleAnswer .null]).2

/-- The same once that has failed for expired credentials. -/
def sampleExpired (run : ByoMachine) : World :=
  { sampleAsking with current := some (run.expired, .refresh) }

def sampleFailure : Json :=
  .object [("error", .object [("code", .str "context_expired")])]

theorem refresh_detour_sample :
    ∃ run action, sampleAsking.current = some (run, action) ∧
      action = .ble Protocol.BYO_BLE_CAPABILITIES [] ∧
      ((sampleExpired run).step sampleCrates (sampleAnswer .null)).1 = (sampleExpired run).continued
        ({ run with next := .stage run.stage, refreshed := 0 }.asking.reply sampleCrates action) ∧
      Refreshing (Machine.exec (World.step sampleCrates) [] (sampleExpired run)
        ([(sampleFailure, 0, sampleUuid), (.object [("ok", .null)], 0, sampleUuid)].map
          Input.ofAnswer)).2 := by
  have hasking : sampleAsking.current.map (fun waiting =>
      (waiting.1.stage, waiting.1.started, waiting.2)) =
      some (.capabilities, 0, .ble Protocol.BYO_BLE_CAPABILITIES []) := by decide +kernel
  obtain ⟨⟨run, action⟩, hcurrent, hrun⟩ := Option.map_eq_some_iff.mp hasking
  obtain ⟨hstage, hrest⟩ := Prod.mk.inj hrun
  obtain ⟨hstarted, haction⟩ := Prod.mk.inj hrest
  have hstage : run.stage = .capabilities := hstage
  have hissued : run.action sampleCrates = .ok action := by
    rw [ByoMachine.action, hstage, show action = _ from haction]
  have h := @refresh_detour sampleCrates run (sampleExpired run) [] action hissued rfl
  refine ⟨run, action, hcurrent, haction, ?_, h.2 sampleFailure _ 0 sampleUuid _ rfl⟩
  exact h.1 (.object [("ok", .null)]) 0 sampleUuid rfl (by decide +kernel) hstarted.le (by decide)

end ByoMachine

end BotaSdk
