import BotaSdk.Bridge.ByoMachineDocuments

/-!
# Refreshing on the way

An effect that fails because the credentials have expired, and a chunk that is read long after the
last refresh, send the machine to `refresh_periodic`; the text of `next` says where to return to.
-/

namespace BotaSdk

namespace ByoMachine

open Checked

/-- Nothing differs but where the machine is, when it refreshed and how much it asks for. -/
def Still (self out : ByoMachine) : Prop :=
  ∃ stage next refreshed chunkCount, out = { self with stage, next, refreshed, chunkCount }

section Detours

variable {crates : Crates} {self out : ByoMachine} {now : Nat} {random : String}

theorem still_at {stage : Stage} {next : Next} : self.Still { self with stage, next } :=
  ⟨stage, next, self.refreshed, self.chunkCount, rfl⟩

theorem Still.asking (h : self.Still out) : self.Still out.asking := by
  obtain ⟨stage, next, refreshed, chunkCount, rfl⟩ := h
  unfold ByoMachine.asking
  split_ifs <;> exact ⟨_, _, _, _, rfl⟩

theorem Still.evidence (h : self.Still out) : out.evidence = self.evidence := by
  obtain ⟨stage, next, refreshed, chunkCount, rfl⟩ := h
  rfl

theorem Still.docs (h : self.Still out) : out.docs = self.docs :=
  congrArg Evidence.docs h.evidence

theorem Still.loadKey (h : self.Still out) : out.loadKey = self.loadKey :=
  congrArg Evidence.loadKey h.evidence

theorem Still.recovery (h : self.Still out) : out.recovery = self.recovery :=
  congrArg Evidence.recovery h.evidence

theorem Still.bytes (h : self.Still out) : out.bytes = self.bytes := by
  obtain ⟨stage, next, refreshed, chunkCount, rfl⟩ := h
  rfl

/-- An error is for the stage to handle. -/
theorem ends_advance_error {P : ByoMachine × Action → Prop} {event error : Json}
    (herror : event.get "error" = some error) (h : Ends (self.consumeError crates error random) P) :
    Ends (self.advance crates now random event) P := by
  unfold advance consume
  simp only [herror, reduceCtorEq, and_false, if_false, ends_ite, ends_error, implies_true, true_and]
  exact fun _ _ _ => h

/-- An answer without an error: a load and the save of a receipt's digest stand apart. -/
theorem ends_advance_ok {P : ByoMachine × Action → Prop} {event : Json}
    (herror : event.get "error" = none)
    (hkept : self.stage = .saved → self.next = .stage .receiptPersisted →
      Ends (self.receiptKept crates) P)
    (hloaded : self.stage = .successorLoaded →
      Ends (self.successorLoaded crates (event.index "ok")) P)
    (hok : ¬(self.stage = .saved ∧ self.next = .stage .receiptPersisted) →
      Ends (self.consumeOk crates (event.index "ok") now random) P) :
    Ends (self.advance crates now random event) P := by
  unfold advance consume
  simp only [herror, and_true, ends_ite, ends_error, implies_true, true_and]
  exact fun _ _ => ⟨fun h => hkept h.1 h.2, fun h => ⟨fun h' => hloaded h', fun _ _ => hok h⟩⟩

/-- The machine that has left its stage for fresh credentials. -/
def expired (self : ByoMachine) : ByoMachine :=
  { self with next := .stage self.stage, stage := .refreshPeriodic }

theorem target_expired : self.expired.target = .stage self.stage := by
  rw [target, if_pos (.inr rfl)]
  rfl

/-- A stage without a recovery of its own only ever leaves for fresh credentials. -/
theorem ends_consumeError {error : Json} (h : recover self.stage = []) :
    Ends (self.consumeError crates error random) fun out =>
      self.stage ≠ .refreshInitial ∧ out = (self.expired, .refresh) := by
  have hne {stage : Stage} (hstage : recover stage ≠ []) : self.stage ≠ stage := by
    rintro rfl
    exact hstage h
  have hexchange := hne (by decide : recover .socketExchange ≠ [])
  have hopen := hne (by decide : recover .socketOpen ≠ [])
  have hread := hne (by decide : recover .liveRead ≠ [])
  have hgrant := hne (by decide : recover .segmentGrant ≠ [])
  have hput := hne (by decide : recover .segmentPut ≠ [])
  have hconfirm := hne (by decide : recover .segmentConfirm ≠ [])
  have hfile := hne (by decide : recover .put ≠ [])
  have hpackage := hne (by decide : recover .packagePut ≠ [])
  have hinspect := hne (by decide : recover .inspectLive ≠ [])
  have hupload := hne (by decide : recover .upload ≠ [])
  have hpackageGrant := hne (by decide : recover .packageGrant ≠ [])
  have hwhole := hne (by decide : recover .packageWholeGrant ≠ [])
  have hdevice := hne (by decide : recover .«open» ≠ [])
  unfold consumeError
  simp only [hexchange, hopen, hread, hgrant, hput, hconfirm, hfile, hpackage, hinspect, hupload,
    hpackageGrant, hwhole, hdevice, or_self, false_and, and_false, if_false, ends_ite, ends_error,
    implies_true, true_and, and_true]
  refine fun _ hexpired => ends_issue fun action haction => ⟨hexpired.2, ?_⟩
  cases haction
  rfl

/-- The stage that the machine returns to issues its action again. -/
theorem ends_resume {stage : Stage} (h : stage ≠ .packagePlan) :
    Ends (self.resume crates (.stage stage)) fun out =>
      { self with stage }.action crates = .ok out.2 ∧ out.1 = { self with stage }.asking := by
  show Ends (self.goto crates stage) _
  unfold goto
  rw [if_neg h]
  exact ends_issue fun action haction => ⟨haction, rfl⟩

/-- A target that no error leads to is reached by an answer. -/
theorem ends_answered {P : ByoMachine × Action → Prop} {event : Json} {stage : Stage}
    (hsaved : self.stage ≠ .saved) (hloaded : self.stage ≠ .successorLoaded)
    (hstage : stage ∉ self.stage :: recover self.stage)
    (hok : event.get "error" = none → Ends (self.consumeOk crates (event.index "ok") now random)
      fun out => out.1.target = .stage stage → P out) :
    Ends (self.advance crates now random event) fun out => out.1.target = .stage stage → P out := by
  cases herror : event.get "error" with
  | some error =>
    refine ends_advance_error herror (leads_consumeError.imp fun out hmem htarget => ?_)
    rw [htarget, ← List.map_cons, List.mem_map] at hmem
    obtain ⟨moved, hmoved, heq⟩ := hmem
    cases heq
    exact absurd hmoved hstage
  | none =>
    exact ends_advance_ok herror (fun h _ => absurd h hsaved) (fun h => absurd h hloaded)
      fun _ => hok herror

/-! ## Where a stage comes from -/

/-- The stages that a machine can also come to through a save, a renewal or the plan of a package. -/
def PASSED : List Stage :=
  [.saved, .refreshPeriodic, .complete, .packageWholeGrant, .packageRange, .upload, .packageGrant]

/-- Any other target was the target before, or follows from the stage. -/
theorem came {stage : Stage} (h : .stage stage ∈ self.reach) (hpassed : stage ∉ PASSED)
    (hrenew : self.renewAfter ∈ .text "" :: RENEWED) :
    self.target = .stage stage ∨ stage ∈ follow self.stage ++ recover self.stage ∨
      (self.stage = .saved ∧ self.next = .stage .receiptPersisted ∧ stage = .confirm) := by
  -- where a save or a refresh returns to is the target already, unless the package is planned anew
  have hresumed (next : Next) (hmem : .stage stage ∈ resumed next) : next = .stage stage := by
    unfold resumed at hmem
    split at hmem
    · obtain ⟨planned, hplanned, heq⟩ := List.mem_map.mp hmem
      cases heq
      have hpassing : plan ⊆ PASSED := by decide
      exact absurd (hpassing hplanned) hpassed
    · exact (List.mem_singleton.mp hmem).symm
  have hwaiting (hw : self.Waiting) (hnext : self.next = .stage stage) :
      self.target = .stage stage := by
    rw [target, if_pos hw, hnext]
  rw [reach, List.mem_cons, List.mem_append] at h
  rcases h with hself | hmoved | honward
  · cases hself
    left
    rw [target, if_neg]
    rintro (hsaved | hrefresh)
    · exact hpassed (by rw [hsaved]; decide)
    · exact hpassed (by rw [hrefresh]; decide)
  · obtain ⟨moved, hmem, heq⟩ := List.mem_map.mp hmoved
    cases heq
    exact .inr (.inl hmem)
  · unfold onward at honward
    split_ifs at honward with hsaved hreceipt hrefresh hrenewing
    · cases List.mem_singleton.mp honward
      exact .inr (.inr ⟨hsaved, hreceipt, rfl⟩)
    · exact .inl (hwaiting (.inl hsaved) (hresumed _ honward))
    · exact .inl (hwaiting (.inr hrefresh) (hresumed _ honward))
    · rw [← List.mem_singleton.mp honward] at hrenew
      simp only [RENEWED, List.mem_cons, Next.stage.injEq, reduceCtorEq, List.not_mem_nil,
        false_or, or_false] at hrenew
      rcases hrenew with rfl | rfl | rfl <;> exact absurd (by decide) hpassed
    · cases honward

/-- A stage that is left as soon as it is answered. -/
def Quiet (stage : Stage) : Prop :=
  recover stage = [] ∧ stage ∉ follow stage ∧
    stage ∉ [.saved, .refreshPeriodic, .renew, .packagePlan]

instance {stage : Stage} : Decidable (Quiet stage) :=
  inferInstanceAs (Decidable (_ ∧ _ ∧ _))

/-- A machine whose target stays a quiet stage has only waited, or refreshed. -/
theorem still_advance {stage : Stage} {event : Json} (hquiet : Quiet stage)
    (htarget : self.target = .stage stage) :
    Ends (self.advance crates now random event) fun out =>
      out.1.target = .stage stage → self.Still out.1 := by
  obtain ⟨hrecover, hfollow, hplain⟩ := hquiet
  simp only [List.mem_cons, List.not_mem_nil, or_false, not_or] at hplain
  obtain ⟨hsaved, hrefresh, hrenew, hplan⟩ := hplain
  have hstages : recover self.stage = [] := by
    unfold target at htarget
    split_ifs at htarget with hw
    · rcases hw with hw | hw <;> rw [hw] <;> rfl
    · cases htarget
      exact hrecover
  cases herror : event.get "error" with
  | some error =>
    -- the stage is left for fresh credentials, and stays the target
    refine ends_advance_error herror ((ends_consumeError hstages).imp fun out hout _ => ?_)
    rw [hout.2]
    exact still_at
  | none =>
    unfold target at htarget
    split_ifs at htarget with hw
    · have hresume {machine : ByoMachine} (hmachine : self.Still machine) :
          Ends (machine.resume crates self.next) fun out =>
            out.1.target = .stage stage → self.Still out.1 := by
        rw [htarget]
        refine (ends_resume hplan).imp fun out hout _ => ?_
        obtain ⟨at', next, refreshed, chunkCount, rfl⟩ := hmachine
        rw [hout.2]
        exact Still.asking ⟨_, _, _, _, rfl⟩
      refine ends_advance_ok herror (fun _ hnext => ?_) (fun hloaded => ?_) fun _ => ?_
      · refine leads_receiptKept.imp fun out hout heq => ?_
        rw [List.mem_singleton.mp hout] at heq
        cases htarget.symm.trans hnext
        cases heq
      · rcases hw with hw | hw <;> cases hw.symm.trans hloaded
      · rcases hw with hw | hw
        · rw [consumeOk, hw]
          exact hresume ⟨_, _, _, _, rfl⟩
        · rw [consumeOk, hw]
          exact hresume ⟨_, _, _, _, rfl⟩
    · cases htarget
      -- an answer at the stage itself leads on, as the stage does not follow itself
      have hgone {out : ByoMachine × Action}
          (hout : out.1.target ∈ (follow self.stage).map .stage) :
          out.1.target = .stage self.stage → self.Still out.1 := by
        intro heq
        rw [heq, List.mem_map] at hout
        obtain ⟨moved, hmem, heq⟩ := hout
        cases heq
        exact absurd hmem hfollow
      refine ends_advance_ok herror (fun h _ => absurd h hsaved) (fun hloaded => ?_) fun _ => ?_
      · refine leads_successorLoaded.imp fun out hout => hgone ?_
        rw [hloaded]
        exact hout
      · exact (leads_consumeOk hsaved hrefresh hrenew).imp fun out hout => hgone hout

end Detours

end ByoMachine

end BotaSdk
