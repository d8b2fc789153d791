import BotaSdk.Bridge.ByoMachineConsume
import BotaSdk.Lib.Ends

/-!
# Where the BYO machine goes

Waiting for a save or for a refresh leaves the machine on its way to a stage, its target.  An answer
keeps the target or moves it along the graph `follow`.
-/

namespace BotaSdk

namespace ByoMachine

open Checked

/-- The machine waits for its documents to be kept, or for fresh credentials. -/
def Waiting (self : ByoMachine) : Prop :=
  self.stage = .saved ∨ self.stage = .refreshPeriodic

instance (self : ByoMachine) : Decidable self.Waiting :=
  inferInstanceAs (Decidable (_ ∨ _))

/-- The stage that the machine is at, or waits to enter. -/
def target (self : ByoMachine) : Next :=
  if self.Waiting then self.next else .stage self.stage

theorem target_of_stage {self : ByoMachine} (hsaved : self.stage ≠ .saved)
    (hrefresh : self.stage ≠ .refreshPeriodic) : self.target = .stage self.stage := by
  rw [target, if_neg]
  rintro (hstage | hstage)
  · exact hsaved hstage
  · exact hrefresh hstage

/-- Every result of a call has its target among these. -/
def Leads (targets : List Next) (result : Reply) : Prop :=
  Ends result fun out => out.1.target ∈ targets

section Rules

variable {crates : Crates} {self : ByoMachine} {targets : List Next}

theorem ends_reply {action : Action} {P : ByoMachine × Action → Prop} (h : P (self, action)) :
    Ends (self.reply crates action) P := by
  unfold reply
  simp only [ends_ite, ends_error, ends_ok, implies_true, true_and]
  exact fun _ _ => h

theorem ends_issue {P : ByoMachine × Action → Prop}
    (h : ∀ action, self.action crates = .ok action → P (self.asking, action)) :
    Ends (self.issue crates) P :=
  ends_bind.mpr fun action haction => ends_reply (h action haction)

@[simp] theorem leads_error {e : DeviceSdkError} : Leads targets (.error e) :=
  ends_error.mpr trivial

@[simp] theorem leads_bind {α : Type} {x : Checked α} {f : α → Reply} :
    Leads targets (x >>= f) ↔ ∀ a, x = .ok a → Leads targets (f a) :=
  ends_bind

@[simp] theorem leads_ite {c : Prop} [Decidable c] {x y : Reply} :
    Leads targets (if c then x else y) ↔ (c → Leads targets x) ∧ (¬c → Leads targets y) :=
  ends_ite

@[simp] theorem target_asking : self.asking.target = self.target := rfl

@[simp] theorem leads_reply {action : Action} (h : self.target ∈ targets) :
    Leads targets (self.reply crates action) :=
  ends_reply h

theorem leads_issue (h : self.target ∈ targets) : Leads targets (self.issue crates) :=
  ends_issue fun _ _ => h

@[simp] theorem leads_enter {stage : Stage} (hsaved : stage ≠ .saved)
    (hrefresh : stage ≠ .refreshPeriodic) (h : .stage stage ∈ targets) :
    Leads targets (self.enter crates stage) := by
  refine leads_issue ?_
  rw [target_of_stage hsaved hrefresh]
  exact h

@[simp] theorem leads_enter_ite {c : Prop} [Decidable c] {stage stage' : Stage} :
    Leads targets (self.enter crates (if c then stage else stage')) ↔
      (c → Leads targets (self.enter crates stage)) ∧
        (¬c → Leads targets (self.enter crates stage')) := by
  by_cases h : c <;> simp [h]

@[simp] theorem leads_save_ite {c : Prop} [Decidable c] {stage stage' : Stage} :
    Leads targets (self.save crates (if c then stage else stage')) ↔
      (c → Leads targets (self.save crates stage)) ∧
        (¬c → Leads targets (self.save crates stage')) := by
  by_cases h : c <;> simp [h]

@[simp] theorem leads_refresh (h : self.next ∈ targets) :
    Leads targets (self.enter crates .refreshPeriodic) := by
  refine leads_issue ?_
  rw [target, if_pos (.inr rfl)]
  exact h

@[simp] theorem leads_save {next : Stage} (h : .stage next ∈ targets) :
    Leads targets (self.save crates next) := by
  refine leads_reply ?_
  rw [target, if_pos (.inl rfl)]
  exact h

@[simp] theorem leads_startLoad {stream : Bool} (h : .stage .loaded ∈ targets) :
    Leads targets (self.startLoad crates stream) := by
  unfold startLoad
  simp only [leads_bind]
  intro r _ identity _
  exact leads_reply h

/-- Where the plan of a package leads. -/
def plan : List Stage :=
  [.complete, .packageWholeGrant, .packageRange]

@[simp] theorem leads_packagePlan (h : plan.map .stage ⊆ targets) :
    Leads targets (self.packagePlan crates) := by
  simp only [plan, List.map_cons, List.map_nil, List.cons_subset] at h
  unfold packagePlan
  simp [h]

/-- The stages that a kept target leads to. -/
def resumed : Next → List Next
  | .stage .packagePlan => plan.map .stage
  | next => [next]

/-- The stage that is resumed is the one that was kept. -/
theorem leads_resume (h : resumed self.next ⊆ targets) :
    Leads targets (self.resume crates self.next) := by
  cases hnext : self.next with
  | text value => exact leads_error
  | stage stage =>
    rw [hnext] at h
    show Leads targets (self.goto crates stage)
    unfold goto
    -- a plan is no stage to wait at: it leads on at once
    by_cases hplan : stage = .packagePlan
    · subst hplan
      rw [if_pos rfl]
      exact leads_packagePlan h
    · rw [if_neg hplan]
      have hmem : Next.stage stage ∈ targets := by
        cases stage <;> first | exact h List.mem_cons_self | exact absurd rfl hplan
      refine leads_issue ?_
      unfold target
      split_ifs with hwaiting
      · rw [hnext]
        exact hmem
      · exact hmem

@[simp] theorem leads_renewable {after : Next} {random : String} (h : .stage .renew ∈ targets) :
    Leads targets (self.renewable crates after random) := by
  unfold renewable
  simp [h]

@[simp] theorem leads_contextReady
    (h : [.stage .liveContext, .stage .removeFile, .stage .prepare] ⊆ targets) :
    Leads targets (self.contextReady crates) := by
  simp only [List.cons_subset] at h
  unfold contextReady
  simp [h]

@[simp] theorem leads_verifiedStatus {status : Json}
    (h : [.stage .refreshReceipt, .stage .completeWait] ⊆ targets) :
    Leads targets (self.verifiedStatus crates status) := by
  simp only [List.cons_subset] at h
  unfold verifiedStatus
  split <;> simp [h]

@[simp] theorem leads_segmentAccepted (h : .stage .liveAck ∈ targets) :
    Leads targets (self.segmentAccepted crates) := by
  unfold segmentAccepted
  simp [h]

@[simp] theorem leads_fallBack (h : .stage .socketClose ∈ targets) :
    Leads targets (self.fallBack crates) := by
  unfold fallBack
  simp [h]

@[simp] theorem leads_beginBatchSuccessor {seed : Json} (h : .stage .successorLoaded ∈ targets) :
    Leads targets (self.beginBatchSuccessor crates seed) := by
  unfold beginBatchSuccessor
  simp only [leads_bind]
  intro _ _ sourceLength _ sourceHash _
  exact leads_reply h

@[simp] theorem leads_acceptSuccessor {status : Json} (h : .stage .liveSuccessor ∈ targets) :
    Leads targets (self.acceptSuccessor crates status) := by
  unfold acceptSuccessor
  simp [h]

@[simp] theorem leads_streamHandoff {status : Json}
    (h : [.stage .liveSuccessor, .stage .handoff] ⊆ targets) :
    Leads targets (self.streamHandoff crates status) := by
  simp only [List.cons_subset] at h
  unfold streamHandoff
  simp [h]

theorem advanceRecovery_ok {event : ByoRecoveryEvent} {out : ByoMachine × ByoRecoveryReply}
    (h : self.advanceRecovery event = .ok out) :
    (∃ capture, self.capture = .ok capture ∧
      ByoRecoveryRequest.reduce ⟨self.recovery, capture, event⟩ = .ok out.2) ∧
      out.1 = { self with
        recovery := some out.2.checkpoint
        docs := self.docs.set "recovery" out.2.checkpoint.toJson } := by
  unfold advanceRecovery at h
  obtain ⟨capture, hcapture, h⟩ := Checked.bind_eq_ok.mp h
  cases hreduce : ByoRecoveryRequest.reduce ⟨self.recovery, capture, event⟩ with
  | error e =>
    rw [hreduce] at h
    cases h
  | ok reply =>
    rw [hreduce] at h
    cases h
    exact ⟨⟨capture, hcapture, hreduce⟩, rfl⟩

end Rules

/-! ## The graph -/

/-- The stages that an answer other than an error leads to. -/
def follow : Stage → List Stage
  | .refreshInitial => [.catalog, .capabilities]
  | .refreshOpen => [.«open»]
  | .refreshReceipt => [.receipt]
  | .capabilities => [.discover, .inspectLive, .loaded]
  | .discover => [.loaded]
  | .inspectLive => [.loaded]
  | .loaded => [.successorLoaded, .selection]
  | .successorLoaded => [.liveContext, .removeFile, .prepare]
  | .selection => [.selection, .selectSource]
  | .selectSource => [.missingStatus, .liveContext, .removeFile, .prepare, .createContext]
  | .createContext => [.liveContext, .removeFile, .prepare]
  | .prepare => [.renew, .upload]
  | .upload => [.refreshOpen]
  | .«open» => [.fileStart, .complete, .refreshReceipt, .completeWait]
  | .fileStart => [.download]
  | .download => [.append]
  | .append => [.fileFinish, .download]
  | .fileFinish => [.packageAppend, .put]
  | .packageAppend => [.packageFinish]
  | .packageFinish => [.packagePlan]
  | .packageRange => [.packageGrant]
  | .packageGrant => [.packageFile]
  | .packageFile => [.packageSegmentAppend]
  | .packageSegmentAppend => [.packageSegmentFlush]
  | .packageSegmentFlush => [.packagePut]
  | .packagePut => [.packagePlan]
  | .packageWholeGrant => [.put]
  | .put => [.complete]
  | .complete => [.refreshReceipt, .completeWait]
  | .completeWait => [.complete]
  | .receipt => [.receiptPersisted]
  | .confirm => [.removeFile]
  | .missingStatus => [.removeFile]
  | .removeFile => [.result]
  | .catalog => [.catalogResult, .catalog]
  | .liveContext => [.streamCheckpoint]
  | .streamCheckpoint => [.streamSnapshot, .socketOpen]
  | .socketOpen => [.streamSnapshot, .socketExchange]
  | .streamSnapshot => [.socketClose, .liveRead, .liveWait]
  | .liveRead => [.liveRead, .socketExchange, .segmentGrant]
  | .socketExchange => [.liveAck, .socketClose]
  | .segmentGrant => [.socketClose, .liveAck, .segmentFile]
  | .segmentFile => [.segmentAppend]
  | .segmentAppend => [.segmentFlush]
  | .segmentFlush => [.segmentPut]
  | .segmentPut => [.segmentConfirm]
  | .segmentConfirm => [.liveAck, .socketClose]
  | .liveAck => [.liveWait]
  | .liveWait => [.streamSnapshot]
  | .socketBackoff => [.socketOpen]
  | .socketClose => [.streamStatus, .liveWait]
  | .streamStatus => [.streamRenew, .liveSuccessor, .handoff]
  | .streamRenew => [.streamStatus]
  | .handoff => [.liveSuccessor]
  | .liveSuccessor => [.successorLoaded]
  | .refreshPeriodic | .saved | .renew | .packagePlan | .receiptPersisted | .result
  | .catalogResult => []

/-- The stages that an error leads to, beside the detour that keeps the target. -/
def recover : Stage → List Stage
  | .socketOpen => [.streamSnapshot, .socketBackoff, .socketClose]
  | .socketExchange => [.socketBackoff, .socketClose]
  | .liveRead => [.socketClose]
  | .segmentGrant => [.socketClose]
  | .segmentPut => [.socketClose]
  | .segmentConfirm => [.socketClose]
  | .put => [.packageWholeGrant]
  | .packagePut => [.packageGrant]
  | .inspectLive => [.loaded]
  | .upload => [.renew]
  | .packageGrant => [.renew]
  | .packageWholeGrant => [.renew]
  | .«open» => [.renew]
  | _ => []

section Graph

variable {crates : Crates} {self : ByoMachine} {value : Json} {now : Nat} {random : String}

theorem leads_consumeError {error : Json} :
    Leads (.stage self.stage :: (recover self.stage).map .stage)
      (self.consumeError crates error random) := by
  unfold consumeError
  cases hstage : self.stage <;> simp [recover]

theorem leads_consumeSelection (hstage : self.stage = .selection) :
    Leads ((follow .selection).map .stage) (self.consumeSelection crates value) := by
  have htarget : ∀ status : Json, { self with status }.target = .stage .selection := by
    intro status
    rw [target, if_neg]
    · exact congrArg _ hstage
    · simp [Waiting, hstage]
  unfold consumeSelection
  simp only [leads_bind, leads_ite]
  refine fun status _ => ⟨fun _ => leads_reply ?_, fun _ => ⟨fun _ => ?_, fun _ => ?_⟩⟩
  -- a refusal leaves the machine where it is
  · rw [htarget]
    exact List.mem_cons_self
  · split
    · exact leads_error
    · simp only [leads_ite]
      refine ⟨fun _ => leads_error, fun _ => ?_⟩
      split <;> simp [follow]
  · simp [follow]

theorem leads_consumeLoaded :
    Leads ((follow .loaded).map .stage) (self.consumeLoaded crates value) := by
  unfold consumeLoaded
  simp only [leads_bind, leads_ite]
  refine fun docs _ => ⟨fun _ => leads_error, fun _ recovery _ => ?_⟩
  split <;> simp [follow]

theorem leads_consumeSelectSource :
    Leads ((follow .selectSource).map .stage) (self.consumeSelectSource crates value) := by
  unfold consumeSelectSource sourceMissing
  simp only [leads_bind, leads_ite]
  refine fun facts _ => ⟨fun _ => ?_, fun _ source _ => ?_⟩
  · simp [follow]
  · split <;> simp [follow]

theorem leads_consumeRenew : Leads [self.renewAfter] (self.consumeRenew crates value) := by
  unfold consumeRenew
  simp only [leads_bind, leads_ite]
  refine fun reply _ op _ operation _ => ⟨fun _ => leads_error, fun _ rev _ moved hmoved => ?_⟩
  refine leads_reply ?_
  rw [target, if_pos (.inl rfl), (advanceRecovery_ok hmoved).2]
  exact List.mem_cons_self

theorem leads_consumePackageFinish :
    Leads ((follow .packageFinish).map .stage) (self.consumePackageFinish crates value) := by
  unfold consumePackageFinish
  split <;> simp [follow]

theorem leads_consumeOk (hstage : self.stage ≠ .saved) (hrefresh : self.stage ≠ .refreshPeriodic)
    (hrenew : self.stage ≠ .renew) :
    Leads ((follow self.stage).map .stage) (self.consumeOk crates value now random) := by
  unfold consumeOk
  cases hs : self.stage with
  | saved => exact absurd hs hstage
  | refreshPeriodic => exact absurd hs hrefresh
  | renew => exact absurd hs hrenew
  | selection => exact leads_consumeSelection hs
  | loaded => exact leads_consumeLoaded
  | selectSource => exact leads_consumeSelectSource
  | packageFinish => exact leads_consumePackageFinish
  | refreshInitial => simp [consumeRefreshInitial, follow]
  | capabilities => simp [consumeCapabilities, follow]
  | discover => simp [consumeDiscover, follow]
  | inspectLive => simp [consumeInspectLive, follow]
  | createContext => simp [consumeCreateContext, follow]
  | prepare => simp [consumePrepare, follow]
  | upload => simp [consumeUpload, follow]
  | «open» => simp [consumeOpen, follow]
  | download => simp [consumeDownload, follow]
  | append => simp [consumeAppend, follow]
  | fileFinish => simp [consumeFileFinish, follow]
  | packageAppend => simp [consumePackageAppend, follow]
  | packageRange => simp [consumePackageRange, follow]
  | packageGrant => simp [consumePackageGrant, follow]
  | packageSegmentAppend => simp [consumePackageSegmentAppend, follow]
  | packagePut => simp [consumePackagePut, follow]
  | packageWholeGrant => simp [consumePackageWholeGrant, follow]
  | put => simp [consumePut, follow]
  | complete => simp [consumeComplete, follow]
  | receipt => simp [consumeReceipt, follow]
  | confirm => simp [consumeConfirm, follow]
  | missingStatus => simp [consumeMissingStatus, follow]
  | catalog => simp [consumeCatalog, follow]
  | streamCheckpoint => simp [consumeStreamCheckpoint, follow]
  | socketOpen => simp [consumeSocketOpen, follow]
  | streamSnapshot => simp [consumeStreamSnapshot, follow]
  | liveRead => simp [consumeLiveRead, follow]
  | socketExchange => simp [consumeSocketExchange, follow]
  | segmentGrant => simp [consumeSegmentGrant, follow]
  | segmentAppend => simp [consumeSegmentAppend, follow]
  | segmentConfirm => simp [consumeSegmentConfirm, follow]
  | socketClose => simp [consumeSocketClose, follow]
  | streamStatus => simp [consumeStreamStatus, follow]
  | handoff => simp [consumeHandoff, follow]
  | _ => simp [follow]

theorem leads_receiptKept : Leads [.stage .confirm] (self.receiptKept crates) := by
  simp [receiptKept]

theorem leads_successorLoaded :
    Leads ((follow .successorLoaded).map .stage) (self.successorLoaded crates value) := by
  simp [successorLoaded, follow]

theorem Leads.mono {targets wider : List Next} {result : Reply} (h : Leads targets result)
    (hsub : targets ⊆ wider) : Leads wider result :=
  h.imp fun _ hmem => hsub hmem

/-- The targets that a machine which waits, or renews, goes on to. -/
def onward (self : ByoMachine) : List Next :=
  if self.stage = .saved then
    if self.next = .stage .receiptPersisted then [.stage .confirm] else resumed self.next
  else if self.stage = .refreshPeriodic then resumed self.next
  else if self.stage = .renew then [self.renewAfter]
  else []

/-- The targets that an answer can move the machine to. -/
def reach (self : ByoMachine) : List Next :=
  .stage self.stage :: ((follow self.stage ++ recover self.stage).map .stage ++ self.onward)

theorem leads_consume (hkept : self.stage = .saved → self.next ≠ .stage .receiptPersisted)
    {event : Json} (herror : event.get "error" = none) :
    Leads self.reach (self.consume crates now random event) := by
  unfold consume
  rw [herror]
  refine leads_ite.mpr ⟨fun _ => leads_error, fun _ => ?_⟩
  show Leads self.reach (self.consumeOk crates _ now random)
  unfold reach onward
  by_cases hsaved : self.stage = .saved
  · rw [consumeOk, hsaved, if_pos rfl, if_neg (hkept hsaved)]
    exact leads_resume (List.subset_cons_of_subset _ (List.subset_append_right _ _))
  rw [if_neg hsaved]
  by_cases hrefresh : self.stage = .refreshPeriodic
  · rw [consumeOk, hrefresh, if_pos rfl]
    exact @leads_resume _ (self.refreshed? now) _
      (List.subset_cons_of_subset _ (List.subset_append_right _ _))
  rw [if_neg hrefresh]
  by_cases hrenew : self.stage = .renew
  · rw [consumeOk, hrenew, if_pos rfl]
    exact leads_consumeRenew.mono (List.subset_cons_of_subset _ (List.subset_append_right _ _))
  refine (leads_consumeOk hsaved hrefresh hrenew).mono ?_
  rw [List.map_append, List.append_assoc]
  exact List.subset_cons_of_subset _ (List.subset_append_left _ _)

/-- One answer moves the target along the graph. -/
theorem leads_advance {event : Json} :
    Leads self.reach (self.advance crates now random event) := by
  unfold advance
  refine leads_ite.mpr ⟨fun _ => leads_error, fun _ => ?_⟩
  refine leads_ite.mpr ⟨fun _ => leads_error, fun _ => ?_⟩
  refine leads_ite.mpr ⟨fun hkept => ?_, fun hkept => ?_⟩
  · refine leads_receiptKept.mono ?_
    rw [reach, onward, if_pos hkept.1, if_pos hkept.2.1]
    exact List.subset_cons_of_subset _ (List.subset_append_right _ _)
  refine leads_ite.mpr ⟨fun hloaded => ?_, fun _ => ?_⟩
  · refine leads_successorLoaded.mono ?_
    rw [reach, hloaded.1, List.map_append, List.append_assoc]
    exact List.subset_cons_of_subset _ (List.subset_append_left _ _)
  · cases herror : event.get "error" with
    | none =>
      exact leads_consume (fun hsaved hnext => hkept ⟨hsaved, hnext, herror⟩) herror
    | some error =>
      unfold consume
      rw [herror]
      refine leads_ite.mpr ⟨fun _ => leads_error, fun _ => ?_⟩
      refine leads_consumeError.mono ?_
      rw [reach, List.map_append, List.append_assoc]
      exact List.cons_subset_cons _
        (List.subset_append_of_subset_right _ (List.subset_append_left _ _))

end Graph

/-! ## The action of a machine -/

/-- The action that goes with a machine: the one of its stage, a save or a load, or a refusal. -/
inductive Emits (crates : Crates) (self : ByoMachine) : Action → Prop
  | issued {action : Action} (h : self.action crates = .ok action) : Emits crates self action
  | saving (h : self.stage = .saved) : Emits crates self (.save self.loadKey self.docs)
  | loading (h : self.stage = .loaded ∨ self.stage = .successorLoaded) (live : Bool) :
      Emits crates self (.load self.loadKey live)
  | refused (h : self.stage = .selection) (code : String) : Emits crates self (.error code)

def Sends (crates : Crates) (result : Reply) : Prop :=
  Ends result fun out => Emits crates out.1 out.2

section Sends

variable {crates : Crates} {self : ByoMachine} {value : Json} {now : Nat} {random : String}

@[simp] theorem sends_error {e : DeviceSdkError} : Sends crates (.error e) :=
  ends_error.mpr trivial

@[simp] theorem sends_bind {α : Type} {x : Checked α} {f : α → Reply} :
    Sends crates (x >>= f) ↔ ∀ a, x = .ok a → Sends crates (f a) :=
  ends_bind

@[simp] theorem sends_ite {c : Prop} [Decidable c] {x y : Reply} :
    Sends crates (if c then x else y) ↔ (c → Sends crates x) ∧ (¬c → Sends crates y) :=
  ends_ite

/-- A download asks for the same again. -/
theorem action_asking : self.asking.action crates = self.action crates := by
  by_cases hstage : self.stage = .download
  · have hasking : self.asking.stage = .download := hstage
    unfold action
    rw [hstage, hasking]
    rfl
  · have hsame : self.asking = self := by
      unfold asking
      rw [if_neg hstage]
    rw [hsame]

@[simp] theorem sends_issue : Sends crates (self.issue crates) :=
  ends_issue fun _ haction => .issued (action_asking.trans haction)

@[simp] theorem sends_enter {stage : Stage} : Sends crates (self.enter crates stage) :=
  sends_issue

@[simp] theorem sends_save {next : Stage} : Sends crates (self.save crates next) :=
  ends_reply (.saving rfl)

@[simp] theorem sends_startLoad {stream : Bool} : Sends crates (self.startLoad crates stream) := by
  unfold startLoad
  simp only [sends_bind]
  exact fun _ _ _ _ => ends_reply (.loading (.inl rfl) stream)

@[simp] theorem sends_packagePlan : Sends crates (self.packagePlan crates) := by
  simp [packagePlan]

@[simp] theorem sends_resume {next : Next} : Sends crates (self.resume crates next) := by
  cases next <;> simp [resume, goto]

@[simp] theorem sends_renewable {after : Next} :
    Sends crates (self.renewable crates after random) := by
  simp [renewable]

@[simp] theorem sends_contextReady : Sends crates (self.contextReady crates) := by
  simp [contextReady]

@[simp] theorem sends_verifiedStatus {status : Json} :
    Sends crates (self.verifiedStatus crates status) := by
  unfold verifiedStatus
  split <;> simp

@[simp] theorem sends_segmentAccepted : Sends crates (self.segmentAccepted crates) := by
  simp [segmentAccepted]

@[simp] theorem sends_fallBack : Sends crates (self.fallBack crates) :=
  sends_save

@[simp] theorem sends_beginBatchSuccessor {seed : Json} :
    Sends crates (self.beginBatchSuccessor crates seed) := by
  unfold beginBatchSuccessor
  simp only [sends_bind]
  exact fun _ _ _ _ _ _ => ends_reply (.loading (.inr rfl) false)

@[simp] theorem sends_acceptSuccessor {status : Json} :
    Sends crates (self.acceptSuccessor crates status) := by
  simp [acceptSuccessor]

@[simp] theorem sends_streamHandoff {status : Json} :
    Sends crates (self.streamHandoff crates status) := by
  simp [streamHandoff]

theorem sends_consumeSelection (hstage : self.stage = .selection) :
    Sends crates (self.consumeSelection crates value) := by
  unfold consumeSelection
  simp only [sends_bind, sends_ite, sends_save, implies_true, and_true]
  refine fun status _ =>
    ⟨fun _ => ends_reply (@Emits.refused _ { self with status } hstage _), fun _ _ => ?_⟩
  split
  · exact sends_error
  · rw [sends_ite]
    refine ⟨fun _ => sends_error, fun _ => ?_⟩
    split <;> simp

theorem sends_consumeLoaded : Sends crates (self.consumeLoaded crates value) := by
  unfold consumeLoaded
  simp only [sends_bind, sends_ite, sends_error, implies_true, true_and]
  intro docs _ _ recovery _
  split <;> simp

theorem sends_consumeSelectSource : Sends crates (self.consumeSelectSource crates value) := by
  unfold consumeSelectSource sourceMissing
  simp only [sends_bind, sends_ite]
  refine fun facts _ => ⟨fun _ => by simp, fun _ source _ => ?_⟩
  split <;> simp

theorem sends_consumeRenew : Sends crates (self.consumeRenew crates value) := by
  unfold consumeRenew
  simp only [sends_bind, sends_ite]
  exact fun _ _ _ _ _ _ => ⟨fun _ => sends_error, fun _ _ _ _ _ => ends_reply (.saving rfl)⟩

theorem sends_consumePackageFinish : Sends crates (self.consumePackageFinish crates value) := by
  unfold consumePackageFinish
  split <;> simp

theorem sends_consumeOk : Sends crates (self.consumeOk crates value now random) := by
  unfold consumeOk
  cases hs : self.stage with
  | selection => exact sends_consumeSelection hs
  | loaded => exact sends_consumeLoaded
  | selectSource => exact sends_consumeSelectSource
  | packageFinish => exact sends_consumePackageFinish
  | renew => exact sends_consumeRenew
  | refreshInitial => exact sends_enter
  | capabilities => simp [consumeCapabilities]
  | discover => simp [consumeDiscover]
  | inspectLive => simp [consumeInspectLive]
  | createContext => simp [consumeCreateContext]
  | prepare => simp [consumePrepare]
  | upload => simp [consumeUpload]
  | «open» => simp [consumeOpen]
  | download => simp [consumeDownload]
  | append => simp [consumeAppend]
  | fileFinish => exact sends_enter
  | packageAppend => simp [consumePackageAppend]
  | packageRange => simp [consumePackageRange]
  | packageGrant => simp [consumePackageGrant]
  | packageSegmentAppend => simp [consumePackageSegmentAppend]
  | packagePut => simp [consumePackagePut]
  | packageWholeGrant => simp [consumePackageWholeGrant]
  | put => simp [consumePut]
  | complete => simp [consumeComplete]
  | receipt => simp [consumeReceipt]
  | confirm => simp [consumeConfirm]
  | missingStatus => simp [consumeMissingStatus]
  | catalog => simp [consumeCatalog]
  | streamCheckpoint => simp [consumeStreamCheckpoint]
  | socketOpen => exact sends_save
  | streamSnapshot => simp [consumeStreamSnapshot]
  | liveRead => simp [consumeLiveRead]
  | socketExchange => simp [consumeSocketExchange]
  | segmentGrant => simp [consumeSegmentGrant]
  | segmentAppend => simp [consumeSegmentAppend]
  | segmentConfirm => simp [consumeSegmentConfirm]
  | socketClose => simp [consumeSocketClose]
  | streamStatus => simp [consumeStreamStatus]
  | handoff => simp [consumeHandoff]
  | _ => simp

/-- Every action is the one of the machine that it is emitted with. -/
theorem sends_advance {event : Json} : Sends crates (self.advance crates now random event) := by
  unfold advance
  simp only [sends_ite, sends_error, implies_true, true_and]
  refine fun _ _ => ⟨fun _ => by simp [receiptKept], fun _ => ⟨fun _ => ?_, fun _ => ?_⟩⟩
  · simp [successorLoaded]
  · unfold consume
    rw [sends_ite]
    refine ⟨fun _ => sends_error, fun _ => ?_⟩
    split
    · simp [consumeError]
    · exact sends_consumeOk

end Sends

end ByoMachine

end BotaSdk
