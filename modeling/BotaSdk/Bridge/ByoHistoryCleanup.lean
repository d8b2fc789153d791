import BotaSdk.Bridge.ByoHistoryDocuments

/-!
# Cleanup over a history

The device is told to delete its source, and the files of an upload are removed, only behind
documents that are stored and exchanges that have taken place.
-/

namespace BotaSdk

namespace ByoMachine

open Checked

/-! ## Exchanges -/

/-- A run that waited on an action was answered with an event. -/
def Answered (tr : List (Machine.Entry World Input Unit)) (run : ByoMachine) (action : Action)
    (event : Json) : Prop :=
  ∃ e ∈ tr, e.pre.current = some (run, action) ∧
    ∃ now random, e.input = .answer event now random

/-- The device took a receipt and returned these bytes for it. -/
def Verified (crates : Crates) (tr : List (Machine.Entry World Input Unit)) (key : String)
    (receipt : Json) (bytes : List UInt8) : Prop :=
  ∃ run bundle event, Answered tr run (.ble BYO_BLE_RECEIPT bundle) event ∧ run.loadKey = key ∧
    jsonBytes crates (run.withPermit (.object [("receipt", receipt)])) = .ok bundle ∧
    event.get "error" = none ∧ (event.index "ok").asBytes = some bytes ∧ bytes.length = 32

/-- The device reported the source missing. -/
def Missing (crates : Crates) (tr : List (Machine.Entry World Input Unit)) (key : String) : Prop :=
  ∃ run bytes event facts, Answered tr run (.ble BYO_BLE_INSPECT bytes) event ∧ run.loadKey = key ∧
    event.get "error" = none ∧ parse crates (event.index "ok") = .ok facts ∧
    facts.get "missing" = some (.bool true)

/-- The device confirmed the deletion. -/
def Confirmed (tr : List (Machine.Entry World Input Unit)) (key : String) : Prop :=
  ∃ run bytes event, Answered tr run (.ble BYO_BLE_CONFIRM bytes) event ∧ run.loadKey = key ∧
    event.get "error" = none

/-- The server still holds the receipt of an upload whose recovery state authorises cleanup. -/
def Acknowledged (crates : Crates) (tr : List (Machine.Entry World Input Unit)) (key : String) :
    Prop :=
  ∃ run route suffix event status state receipt,
    Answered tr run (.http route suffix none false) event ∧ run.loadKey = key ∧
      event.get "error" = none ∧ data crates (event.index "ok") = .ok status ∧
      run.docs.get "receipt" = some receipt ∧ receipt.isObject ∧
      status.index "receipt" = receipt ∧ run.recovery = some state ∧ state.mayCleanup

/-- The source is gone: deleted, or found missing behind a receipt. -/
def Cleared (crates : Crates) (tr : List (Machine.Entry World Input Unit)) (key : String) : Prop :=
  Confirmed tr key ∨ (Missing crates tr key ∧ Acknowledged crates tr key)

section Exchanges

variable {crates : Crates} {tr more : List (Machine.Entry World Input Unit)} {run : ByoMachine}
  {action : Action} {event receipt : Json} {key : String} {bytes : List UInt8}

theorem Answered.append (h : Answered tr run action event) :
    Answered (tr ++ more) run action event := by
  obtain ⟨e, he, hanswered⟩ := h
  exact ⟨e, List.mem_append_left _ he, hanswered⟩

theorem Verified.append (h : Verified crates tr key receipt bytes) :
    Verified crates (tr ++ more) key receipt bytes := by
  obtain ⟨run, bundle, event, hanswered, hverified⟩ := h
  exact ⟨run, bundle, event, hanswered.append, hverified⟩

theorem Missing.append (h : Missing crates tr key) : Missing crates (tr ++ more) key := by
  obtain ⟨run, bytes, event, facts, hanswered, hmissing⟩ := h
  exact ⟨run, bytes, event, facts, hanswered.append, hmissing⟩

theorem Cleared.append (h : Cleared crates tr key) : Cleared crates (tr ++ more) key := by
  rcases h with ⟨run, bytes, event, hanswered, hconfirmed⟩ | ⟨hmissing, hacknowledged⟩
  · exact .inl ⟨run, bytes, event, hanswered.append, hconfirmed⟩
  · obtain ⟨run, route, suffix, event, status, state, receipt, hanswered, hheld⟩ := hacknowledged
    exact .inr ⟨hmissing.append, run, route, suffix, event, status, state, receipt,
      hanswered.append, hheld⟩

end Exchanges

/-! ## What a run owes -/

/-- The stages behind the receipt of the server. -/
def RECEIPTS : List Stage :=
  [.refreshReceipt, .receipt, .receiptPersisted, .confirm]

/-- The documents hold the receipt of the server. -/
def HasReceipt (docs : Json) : Prop :=
  ∃ receipt, docs.get "receipt" = some receipt ∧ receipt.isObject

/-- What a run can rely on at the stages of the cleanup. -/
structure Due (crates : Crates) (tr : List (Machine.Entry World Input Unit))
    (store : String → Option Json) (run : ByoMachine) : Prop where
  receipt : ∀ stage ∈ RECEIPTS, run.target = .stage stage → HasReceipt run.docs
  verified : ∀ stage ∈ [Stage.receiptPersisted, .confirm], run.target = .stage stage →
    ∃ receipt, run.docs.get "receipt" = some receipt ∧
      Verified crates tr run.loadKey receipt run.bytes ∧
      run.docs.get "receipt_sha256" = some (.str (ByoCustomer.hex run.bytes))
  authorised : run.target = .stage .confirm →
    ∃ state, run.recovery = some state ∧ state.mayCleanup
  kept : run.target = .stage .confirm → run.stage ≠ .saved → store run.loadKey = some run.docs
  missing : run.target = .stage .missingStatus →
    Missing crates tr run.loadKey ∧ HasReceipt run.docs
  cleaned : ∀ stage ∈ [Stage.removeFile, .result], run.target = .stage stage →
    Complete run.recovery
  complete : ¬run.Detached → Complete run.recovery → Cleared crates tr run.loadKey ∧
    (Completed store run.loadKey ∨ run.stage = .saved ∨ run.target = .stage .saved)

/-! ## The actions of the cleanup -/

section Actions

variable {crates : Crates} {self : ByoMachine} {action : Action} {bytes : List UInt8}

/-- A deletion is asked for at one stage only, and so is the removal of the files. -/
theorem action_cleanup : Ends (self.action crates) fun action =>
    (∀ bytes, action = .ble BYO_BLE_CONFIRM bytes →
      self.stage = .confirm ∧ bytes = self.bytes) ∧
      ∀ key temporaryKey, action = .fileRemove key temporaryKey → self.stage = .removeFile := by
  unfold ByoMachine.action
  cases hs : self.stage
  case put =>
    dsimp only
    split <;> simp
  case selectSource =>
    simp only [ends_bind, ends_ok]
    intro id _
    split_ifs <;> simp [BYO_BLE_CONFIRM, BYO_BLE_LIVE_SNAPSHOT, BYO_BLE_INSPECT]
  all_goals simp [BYO_BLE_CONFIRM, BYO_BLE_OPEN, BYO_BLE_READ, BYO_BLE_RECEIPT, BYO_BLE_LIST,
    BYO_BLE_LIVE_SNAPSHOT, BYO_BLE_LIVE_READ, BYO_BLE_LIVE_ACK, BYO_BLE_LIVE_CONTEXT,
    Protocol.BYO_BLE_CAPABILITIES, Protocol.BYO_BLE_LIVE_SUCCESSOR]

/-- A run that waits for a save has asked for it. -/
theorem emits_saved (h : Emits crates self action) (hstage : self.stage = .saved) :
    action = .save self.loadKey self.docs := by
  cases h with
  | issued haction =>
    unfold ByoMachine.action at haction
    rw [hstage] at haction
    cases haction
  | saving => rfl
  | loading hloading =>
    rcases hloading with h | h <;> cases hstage.symm.trans h
  | refused hselection => cases hstage.symm.trans hselection

/-- Elsewhere but at the loads the action is the one of the stage. -/
theorem emits_issued (h : Emits crates self action)
    (hstage : self.stage ∉ [.saved, .loaded, .successorLoaded, .selection]) :
    self.action crates = .ok action := by
  cases h with
  | issued haction => exact haction
  | saving h => exact absurd (by rw [h]; decide) hstage
  | loading h => rcases h with h | h <;> exact absurd (by rw [h]; decide) hstage
  | refused h => exact absurd (by rw [h]; decide) hstage

/-- A device that is told to delete was reached through the stage of the confirmation. -/
theorem emits_confirm (h : Emits crates self (.ble BYO_BLE_CONFIRM bytes)) :
    self.stage = .confirm ∧ bytes = self.bytes := by
  cases h with
  | issued haction => exact (action_cleanup _ haction).1 bytes rfl

theorem emits_fileRemove {key temporaryKey : String}
    (h : Emits crates self (.fileRemove key temporaryKey)) : self.stage = .removeFile := by
  cases h with
  | issued haction => exact (action_cleanup _ haction).2 key temporaryKey rfl

end Actions

/-! ## The stages of the cleanup -/

section Stages

variable {crates : Crates} {self : ByoMachine} {value status : Json} {now : Nat} {random : String}

theorem receipt_verifiedStatus (hobject : self.docs.isObject) :
    Ends (self.verifiedStatus crates status) fun out =>
      out.1.target = .stage .refreshReceipt → HasReceipt out.1.docs := by
  unfold verifiedStatus
  split
  · rename_i receipt hreceipt
    rw [ends_ite]
    refine ⟨fun _ => ends_error.mpr trivial, fun _ => ends_reply fun _ => ⟨receipt, ?_, ?_⟩⟩
    · exact Json.get_set hobject
    · exact (Option.filter_eq_some_iff.mp hreceipt).2
  · simp only [ends_ite, ends_error, implies_true, true_and]
    refine fun _ _ => ends_issue fun _ _ htarget => ?_
    cases htarget

theorem receipt_consumeOpen (hobject : self.docs.isObject) :
    Ends (self.consumeOpen crates value) fun out =>
      out.1.target = .stage .refreshReceipt → HasReceipt out.1.docs := by
  have hsave {machine : ByoMachine} {next : Stage} (hnext : next ≠ .refreshReceipt) :
      Ends (machine.save crates next) fun out =>
        out.1.target = .stage .refreshReceipt → HasReceipt out.1.docs := by
    refine ends_reply fun htarget => ?_
    cases htarget
    exact absurd rfl hnext
  unfold consumeOpen
  simp only [ends_bind, ends_ite, ends_error, implies_true, true_and]
  refine fun opened _ _ _ _ => ⟨fun _ _ _ => hsave (by decide), fun _ => ⟨fun _ =>
    ⟨fun _ _ _ => hsave (by decide), fun _ => hsave (by decide)⟩, fun _ =>
      ⟨fun _ => receipt_verifiedStatus (Json.isObject_set hobject), fun _ => hsave (by decide)⟩⟩⟩

/-- The digest that the device returned goes into the documents. -/
theorem verified_consumeReceipt (hobject : self.docs.isObject) :
    Ends (self.consumeReceipt crates value) fun out =>
      value.asBytes = some out.1.bytes ∧ out.1.bytes.length = 32 ∧
        out.1.docs.get "receipt_sha256" = some (.str (ByoCustomer.hex out.1.bytes)) ∧
        out.1.docs.get "receipt" = self.docs.get "receipt" ∧ out.1.loadKey = self.loadKey := by
  unfold consumeReceipt bytesOf
  simp only [ends_bind, ends_ite, ends_error, implies_true, true_and]
  intro bytes hbytes hlength _ received hreceived
  have hlength : bytes.length = 32 := by simpa using hlength
  split at hbytes
  · rename_i value' hvalue
    cases hbytes
    have hset : (self.docs.set "receipt_sha256" (.str (ByoCustomer.hex bytes))).isObject :=
      Json.isObject_set hobject
    have hget : (self.docs.set "receipt_sha256" (.str (ByoCustomer.hex bytes))).get "receipt" =
        self.docs.get "receipt" := Json.get_set_of_ne (by decide) hobject
    rcases advanceAt_ends received hreceived with rfl | ⟨reply, -, rfl⟩
    · exact ends_reply ⟨hvalue, hlength, Json.get_set hobject, hget, rfl⟩
    · refine ends_reply ⟨hvalue, hlength, ?_, ?_, rfl⟩
      · exact (Json.get_set_of_ne (by decide) hset).trans (Json.get_set hobject)
      · exact (Json.get_set_of_ne (by decide) hset).trans hget
  · cases hbytes

/-- Cleanup begins only where the recovery state authorises it. -/
theorem authorised_receiptKept : Ends (self.receiptKept crates) fun out =>
    out.1.stage = .saved ∧ out.1.bytes = self.bytes ∧
      ∃ state, out.1.recovery = some state ∧ state.mayCleanup := by
  unfold receiptKept
  simp only [ends_bind, ends_ite, ends_error, implies_true, true_and, advanceRecovery_iff]
  intro hash _ persisted hpersisted reply hreply hcleanup
  have hbytes : persisted.bytes = self.bytes := by
    rcases advanceAt_ends persisted hpersisted with rfl | ⟨reply, -, rfl⟩ <;> rfl
  obtain ⟨capture, -, hreduce⟩ := hreply
  obtain ⟨-, hmay, -, -⟩ := ByoRecovery.reduce_ok hreduce
  refine ends_reply ⟨rfl, hbytes, reply.checkpoint, rfl, ?_⟩
  rw [← hmay]
  simpa using hcleanup

theorem complete_of_phase (h : self.phase = some .complete) : Complete self.recovery := by
  obtain ⟨state, hstate, hphase⟩ := Option.map_eq_some_iff.mp h
  exact ⟨state, hstate, hphase⟩

/-- An upload whose context is ready goes to the removal of its files only if it was complete. -/
theorem complete_contextReady : Ends (self.contextReady crates) fun out =>
    out.1.target = .stage .removeFile → Complete out.1.recovery := by
  have hsave {machine : ByoMachine} {next : Stage} (hnext : next ≠ .removeFile) :
      Ends (machine.save crates next) fun out =>
        out.1.target = .stage .removeFile → Complete out.1.recovery := by
    refine ends_reply fun htarget => ?_
    cases htarget
    exact absurd rfl hnext
  unfold contextReady
  simp only [ends_bind, ends_ite, advanceRecovery_iff]
  refine fun _ _ => ⟨fun _ => hsave (by decide), fun _ _ _ reply hreply => ⟨fun hphase => ?_,
    fun _ _ _ => hsave (by decide)⟩⟩
  exact ends_issue fun _ _ _ => complete_of_phase hphase

theorem complete_consumeCreateContext : Ends (self.consumeCreateContext crates value) fun out =>
    out.1.target = .stage .removeFile → Complete out.1.recovery := by
  unfold consumeCreateContext
  simp only [ends_bind]
  exact fun _ _ _ _ => complete_contextReady

theorem complete_successorLoaded : Ends (self.successorLoaded crates value) fun out =>
    out.1.target = .stage .removeFile → Complete out.1.recovery := by
  unfold successorLoaded
  simp only [ends_bind, ends_ite, ends_error, implies_true, true_and]
  exact fun _ _ _ _ _ => complete_contextReady

theorem complete_consumeSelectSource : Ends (self.consumeSelectSource crates value) fun out =>
    out.1.target = .stage .removeFile → Complete out.1.recovery := by
  unfold consumeSelectSource sourceMissing
  simp only [ends_bind, ends_ite, ends_error, implies_true, true_and]
  refine fun facts _ => ⟨fun _ _ _ _ => ?_, fun _ source _ => ?_⟩
  · refine ends_issue fun _ _ htarget => ?_
    cases htarget
  · split
    · exact complete_contextReady
    · simp only [ends_bind, ends_ite, ends_error, implies_true, true_and]
      refine fun body _ _ => ends_reply fun htarget => ?_
      cases htarget

theorem Advances.finished {reply : ByoRecoveryReply} (h : self.Advances .cleanupFinished reply) :
    Complete (self.recovered reply).recovery := by
  obtain ⟨capture, -, hreduce⟩ := h
  obtain ⟨-, -, -, ⟨-, hevent, -⟩ | ⟨state, -, -, hmoves⟩⟩ := ByoRecovery.reduce_ok hreduce
  · cases hevent
  · obtain ⟨checkpoint, delay, mayCleanup⟩ := reply
    cases hmoves with
    | cleanupFinished => exact ⟨_, rfl, rfl⟩

theorem Advances.inspected {reply : ByoRecoveryReply} (h : self.Advances .inspect reply) :
    self.recovery = some reply.checkpoint ∧ reply.mayCleanup = reply.checkpoint.mayCleanup := by
  obtain ⟨capture, -, hreduce⟩ := h
  obtain ⟨-, hmay, -, ⟨-, hevent, -⟩ | ⟨state, hstate, -, hmoves⟩⟩ := ByoRecovery.reduce_ok hreduce
  · cases hevent
  · obtain ⟨checkpoint, delay, mayCleanup⟩ := reply
    cases hmoves with
    | inspect => exact ⟨hstate, hmay⟩

theorem finished_consumeConfirm : Ends (self.consumeConfirm crates) fun out =>
    out.1.stage = .saved ∧ out.1.loadKey = self.loadKey ∧ Complete out.1.recovery := by
  unfold consumeConfirm
  simp only [ends_bind, advanceRecovery_iff]
  exact fun reply hreply => ends_reply ⟨rfl, rfl, hreply.finished⟩

theorem finished_consumeMissingStatus : Ends (self.consumeMissingStatus crates value) fun out =>
    out.1.stage = .saved ∧ out.1.loadKey = self.loadKey ∧ Complete out.1.recovery ∧
      ∃ status state, data crates value = .ok status ∧
        status.index "receipt" = self.docs.index "receipt" ∧ self.recovery = some state ∧
        state.mayCleanup := by
  unfold consumeMissingStatus
  simp only [ends_bind, ends_ite, ends_error, implies_true, true_and, advanceRecovery_iff]
  intro status hstatus hreceipt inspected hinspected hcleanup reply hreply
  obtain ⟨hstate, hmay⟩ := hinspected.inspected
  refine ends_reply ⟨rfl, rfl, hreply.finished, status, inspected.checkpoint, hstatus,
    not_not.mp hreceipt, hstate, ?_⟩
  rw [← hmay]
  simpa using hcleanup

/-- A source is given up only where the device reports it missing and a receipt is held. -/
theorem missing_consumeSelectSource : Ends (self.consumeSelectSource crates value) fun out =>
    out.1.target = .stage .missingStatus → ¬self.stream ∧ out.1.loadKey = self.loadKey ∧
      HasReceipt out.1.docs ∧
      ∃ facts, parse crates value = .ok facts ∧ facts.get "missing" = some (.bool true) := by
  have hready (machine : ByoMachine) {P : ByoMachine × Action → Prop} :
      Ends (machine.contextReady crates) fun out => out.1.target = .stage .missingStatus → P out := by
    refine (leads_contextReady (List.Subset.refl _)).imp fun out hmem htarget => ?_
    rw [htarget] at hmem
    exact absurd hmem (by decide)
  unfold consumeSelectSource sourceMissing
  simp only [ends_bind, ends_ite, ends_error, implies_true, true_and]
  refine fun facts hfacts => ⟨fun hmissing hheld _ _ => ?_, fun _ source _ => ?_⟩
  · rw [not_or, not_not, not_not] at hheld
    refine ends_issue fun _ _ _ => ⟨hmissing.1, rfl, ?_, facts, hfacts, hmissing.2⟩
    have hobject : (self.docs.index "receipt").isObject := hheld.2
    unfold Json.index at hobject
    cases hget : self.docs.get "receipt" with
    | none =>
      rw [hget] at hobject
      cases hobject
    | some receipt =>
      rw [hget] at hobject
      exact ⟨receipt, hget, hobject⟩
  · split
    · exact hready _
    · simp only [ends_bind, ends_ite, ends_error, implies_true, true_and]
      refine fun body _ _ => ends_reply fun htarget => ?_
      cases htarget

end Stages

/-! ## One answer -/

section Advance

variable {crates : Crates} {self : ByoMachine} {action : Action} {event : Json} {now : Nat}
  {random : String} {w : World} {tr : List (Machine.Entry World Input Unit)}

theorem not_detached {stage : Stage} (h : self.target = .stage stage)
    (hstage : stage ∉ Stage.refreshPeriodic :: DETACHED) : ¬self.Detached := by
  rintro (hdetached | ⟨hrefresh, hnext⟩)
  · have hne {other : Stage} (hother : other ∉ DETACHED) : self.stage ≠ other := by
      intro heq
      rw [heq] at hdetached
      exact hother hdetached
    rw [target_of_stage (hne (by decide)) (hne (by decide))] at h
    cases h
    exact hstage (List.mem_cons_of_mem _ hdetached)
  · rw [target, if_pos (.inr hrefresh)] at h
    obtain ⟨stage', hmem, heq⟩ := List.mem_map.mp hnext
    cases heq.trans h
    exact hstage hmem

/-- A run on its way to a stage of the cleanup keeps its fixed documents. -/
theorem kept_at {stage : Stage} (hkept : Kept crates w) (hcurrent : w.current = some (self, action))
    (htarget : self.target = .stage stage)
    (hstage : stage ∉ Stage.liveSuccessor :: .refreshPeriodic :: DETACHED) :
    Ends (self.advance crates now random event) fun out =>
      out.1.loadKey = self.loadKey ∧ Grows self.docs out.1.docs := by
  rw [List.mem_cons, not_or] at hstage
  have hdetached := not_detached htarget hstage.2
  have hholding := hkept.holding _ _ hcurrent
  by_cases hlive : self.stage = .liveSuccessor
  · rw [target_of_stage (by simp [hlive]) (by simp [hlive]), hlive] at htarget
    cases htarget
    exact absurd rfl hstage.1
  · exact (hholding.keeps hdetached hlive).imp fun out hkeeps =>
      ⟨hkeeps.key, hkeeps.docs (hholding.attached hdetached).anchored.coherent.object⟩

theorem HasReceipt.grows {docs docs' : Json} (h : HasReceipt docs) (hgrows : Grows docs docs') :
    HasReceipt docs' := by
  obtain ⟨receipt, hget, hobject⟩ := h
  exact ⟨receipt, hgrows.fixed _ _ (.inr (.inr ⟨.inl rfl, hobject⟩)) hget, hobject⟩

/-- The receipt is in the documents before the device is asked about it. -/
theorem due_receipt (hkept : Kept crates w) (hcurrent : w.current = some (self, action))
    (hdue : Due crates tr w.store self) :
    Ends (self.advance crates now random event) fun out =>
      ∀ stage ∈ RECEIPTS, out.1.target = .stage stage → HasReceipt out.1.docs := by
  have hkeeps (stage : Stage) (hmem : stage ∈ RECEIPTS) (htarget : self.target = .stage stage) :
      Ends (self.advance crates now random event) fun out => HasReceipt out.1.docs := by
    refine (kept_at hkept hcurrent htarget ?_).imp fun out hout =>
      (hdue.receipt stage hmem htarget).grows hout.2
    simp only [RECEIPTS, List.mem_cons, List.not_mem_nil, or_false] at hmem
    rcases hmem with rfl | rfl | rfl | rfl <;> decide
  intro out hout stage hmem htarget
  have hreach : out.1.target ∈ self.reach := leads_advance out hout
  rw [htarget] at hreach
  have hpassed : stage ∉ PASSED := by
    simp only [RECEIPTS, List.mem_cons, List.not_mem_nil, or_false] at hmem
    rcases hmem with rfl | rfl | rfl | rfl <;> decide
  rcases came hreach hpassed (hkept.holding _ _ hcurrent).begun.renew with
    hsame | hmoved | ⟨hsaved, hnext, -⟩
  · exact hkeeps stage hmem hsame out hout
  -- the receipt comes in with the answer to OPEN or COMPLETE; the later stages follow one another
  · have hfrom : (stage = .refreshReceipt ∧ (self.stage = .«open» ∨ self.stage = .complete)) ∨
        self.stage ∈ [.refreshReceipt, .receipt] := by
      simp only [RECEIPTS, List.mem_cons, List.not_mem_nil, or_false] at hmem
      revert hmoved
      rcases hmem with rfl | rfl | rfl | rfl <;> cases self.stage <;> decide
    rcases hfrom with ⟨rfl, hopen⟩ | hreceipt
    · have hobject (hd : ¬self.Detached) : self.docs.isObject :=
        ((hkept.holding _ _ hcurrent).attached hd).anchored.coherent.object
      have hstage : self.target = .stage self.stage := by
        rcases hopen with hs | hs <;> exact target_of_stage (by simp [hs]) (by simp [hs])
      refine ends_answered (P := fun out => HasReceipt out.1.docs) ?_ ?_ ?_ (fun _ => ?_) out hout
        htarget
      · rcases hopen with hs | hs <;> simp [hs]
      · rcases hopen with hs | hs <;> simp [hs]
      · rcases hopen with hs | hs <;> rw [hs] <;> decide
      · rcases hopen with hs | hs
        · rw [consumeOk, hs]
          exact receipt_consumeOpen (hobject (not_detached (hstage.trans (by rw [hs])) (by decide)))
        · rw [consumeOk, hs]
          show Ends (self.consumeComplete crates _) _
          unfold consumeComplete
          rw [ends_bind]
          exact fun _ _ => receipt_verifiedStatus
            (hobject (not_detached (hstage.trans (by rw [hs])) (by decide)))
    · simp only [List.mem_cons, List.not_mem_nil, or_false] at hreceipt
      rcases hreceipt with hs | hs
      · refine hkeeps .refreshReceipt (by decide) ?_ out hout
        rw [target_of_stage (by simp [hs]) (by simp [hs]), hs]
      · refine hkeeps .receipt (by decide) ?_ out hout
        rw [target_of_stage (by simp [hs]) (by simp [hs]), hs]
  · refine hkeeps .receiptPersisted (by decide) ?_ out hout
    rw [target, if_pos (.inl hsaved), hnext]

theorem not_follow_confirm {stage : Stage} : Stage.confirm ∉ follow stage ++ recover stage := by
  cases stage <;> decide

/-- The save of a receipt's digest leads to the confirmation once it is acknowledged. -/
theorem ends_kept {P : ByoMachine × Action → Prop} (hsaved : self.stage = .saved)
    (hnext : self.next = .stage .receiptPersisted)
    (h : event.get "error" = none → Ends (self.receiptKept crates) P) :
    Ends (self.advance crates now random event) fun out =>
      out.1.target = .stage .confirm → P out := by
  cases herror : event.get "error" with
  | some error =>
    refine ends_advance_error herror ((ends_consumeError (by rw [hsaved]; rfl)).imp ?_)
    intro out hout htarget
    rw [hout.2, target_expired] at htarget
    cases hsaved.symm.trans (Next.stage.inj htarget)
  | none =>
    refine ends_advance_ok herror (fun _ _ => (h herror).imp fun _ hP _ => hP) (fun hloaded => ?_)
      fun hne => absurd ⟨hsaved, hnext⟩ hne
    cases hsaved.symm.trans hloaded

theorem answered_last (hcurrent : w.current = some (self, action)) :
    Answered (tr ++ [⟨w, .answer event now random, ()⟩]) self action event :=
  ⟨_, List.mem_append_right _ List.mem_cons_self, hcurrent, now, random, rfl⟩

/-- The digest in the documents is the one that the device returned for the receipt in them. -/
theorem due_verified (hkept : Kept crates w)
    (hcurrent : w.current = some (self, action)) (hdue : Due crates tr w.store self) :
    Ends (self.advance crates now random event) fun out =>
      ∀ stage ∈ [Stage.receiptPersisted, .confirm], out.1.target = .stage stage →
        ∃ receipt, out.1.docs.get "receipt" = some receipt ∧
          Verified crates (tr ++ [⟨w, .answer event now random, ()⟩]) out.1.loadKey receipt
            out.1.bytes ∧
          out.1.docs.get "receipt_sha256" = some (.str (ByoCustomer.hex out.1.bytes)) := by
  intro out hout stage hmem htarget
  have hreach : out.1.target ∈ self.reach := leads_advance out hout
  rw [htarget] at hreach
  simp only [List.mem_cons, List.not_mem_nil, or_false] at hmem
  have hpassed : stage ∉ PASSED := by rcases hmem with rfl | rfl <;> decide
  have hquiet : Quiet stage := by rcases hmem with rfl | rfl <;> decide
  have hpair : stage ∈ [Stage.receiptPersisted, .confirm] := by
    rcases hmem with rfl | rfl <;> decide
  rcases came hreach hpassed (hkept.holding _ _ hcurrent).begun.renew with
    hsame | hmoved | ⟨hsaved, hnext, hconfirm⟩
  -- the run has only waited, or refreshed
  · have hstill := still_advance hquiet hsame out hout htarget
    obtain ⟨receipt, hget, hverified, hdigest⟩ := hdue.verified stage hpair hsame
    rw [hstill.docs, hstill.loadKey, hstill.bytes]
    exact ⟨receipt, hget, hverified.append, hdigest⟩
  -- the answer to RECEIPT: the exchange is the last entry of the history
  · have hfrom : stage = .receiptPersisted ∧ self.stage = .receipt := by
      revert hmoved
      rcases hmem with rfl | rfl <;> cases self.stage <;> decide
    obtain ⟨rfl, hs⟩ := hfrom
    have hself : self.target = .stage .receipt := by
      rw [target_of_stage (by simp [hs]) (by simp [hs]), hs]
    obtain ⟨receipt, hget, -⟩ := hdue.receipt _ (by decide) hself
    have hobject : self.docs.isObject :=
      ((hkept.holding _ _ hcurrent).attached (not_detached hself (by decide))).anchored.coherent.object
    refine ends_answered (P := fun out => ∃ receipt, out.1.docs.get "receipt" = some receipt ∧
      Verified crates _ out.1.loadKey receipt out.1.bytes ∧
      out.1.docs.get "receipt_sha256" = some (.str (ByoCustomer.hex out.1.bytes))) (by simp [hs])
      (by simp [hs]) (by rw [hs]; decide) (fun herror => ?_) out hout htarget
    rw [consumeOk, hs]
    refine (verified_consumeReceipt hobject).imp fun out hreceived _ => ?_
    obtain ⟨hbytes, hlength, hdigest, hsameReceipt, hkey⟩ := hreceived
    refine ⟨receipt, hsameReceipt.trans hget, ?_, hdigest⟩
    have hissued := emits_issued (hkept.emits _ _ hcurrent) (by rw [hs]; decide)
    unfold ByoMachine.action at hissued
    rw [hs] at hissued
    obtain ⟨bundle, hbundle, hissued⟩ := Checked.bind_eq_ok.mp hissued
    cases hissued
    refine ⟨self, bundle, event, answered_last hcurrent, hkey.symm, ?_, herror, hbytes, hlength⟩
    rw [← hbundle, show self.docs.index "receipt" = receipt by rw [Json.index, hget]; rfl]
  -- the save of the digest is acknowledged, and the bytes of the device are still at hand
  · subst hconfirm
    have hself : self.target = .stage .receiptPersisted := by
      rw [target, if_pos (.inl hsaved), hnext]
    obtain ⟨receipt, hget, hverified, hdigest⟩ := hdue.verified _ (by decide) hself
    obtain ⟨receipt', hget', hobject⟩ := hdue.receipt _ (by decide) hself
    cases hget.symm.trans hget'
    obtain ⟨hkey, hgrows⟩ := kept_at hkept hcurrent hself (by decide) out hout
    have hbytes := ends_kept hsaved hnext (fun _ => authorised_receiptKept) out hout htarget
    rw [hbytes.2.1, hkey]
    exact ⟨receipt, hgrows.fixed _ _ (.inr (.inr ⟨.inl rfl, hobject⟩)) hget, hverified.append,
      hgrows.fixed _ _ (.inl (by decide)) hdigest⟩

theorem due_authorised (hkept : Kept crates w) (hcurrent : w.current = some (self, action))
    (hdue : Due crates tr w.store self) :
    Ends (self.advance crates now random event) fun out => out.1.target = .stage .confirm →
      ∃ state, out.1.recovery = some state ∧ state.mayCleanup := by
  intro out hout htarget
  have hreach : out.1.target ∈ self.reach := leads_advance out hout
  rw [htarget] at hreach
  rcases came hreach (by decide) (hkept.holding _ _ hcurrent).begun.renew with
    hsame | hmoved | ⟨hsaved, hnext, -⟩
  · have hstill := still_advance (by decide) hsame out hout htarget
    rw [hstill.recovery]
    exact hdue.authorised hsame
  · exact absurd hmoved not_follow_confirm
  · exact (ends_kept hsaved hnext (fun _ => authorised_receiptKept) out hout htarget).2.2

/-- An acknowledged save is in the store. -/
theorem saved_kept (hkept : Kept crates w) (hcurrent : w.current = some (self, action))
    (hhonest : World.Honest tr w (.answer event now random)) (hsaved : self.stage = .saved)
    (herror : event.get "error" = none) : w.store self.loadKey = some self.docs := by
  have hagrees := hhonest _ hcurrent herror
  rw [show action = _ from emits_saved (hkept.emits _ _ hcurrent) hsaved] at hagrees
  simpa [World.agrees] using hagrees

theorem due_kept (hkept : Kept crates w) (hcurrent : w.current = some (self, action))
    (hhonest : World.Honest tr w (.answer event now random)) (hdue : Due crates tr w.store self) :
    Ends (self.advance crates now random event) fun out => out.1.target = .stage .confirm →
      out.1.stage ≠ .saved → w.store out.1.loadKey = some out.1.docs := by
  intro out hout htarget hstage
  have hreach : out.1.target ∈ self.reach := leads_advance out hout
  rw [htarget] at hreach
  rcases came hreach (by decide) (hkept.holding _ _ hcurrent).begun.renew with
    hsame | hmoved | ⟨hsaved, hnext, -⟩
  · have hstill := still_advance (by decide) hsame out hout htarget
    rw [hstill.docs, hstill.loadKey]
    -- the run waited for the save, or the documents are those that were stored before
    by_cases hsaved : self.stage = .saved
    · cases herror : event.get "error" with
      | none => exact saved_kept hkept hcurrent hhonest hsaved herror
      | some error =>
        have hexpired := ends_advance_error herror (ends_consumeError (by rw [hsaved]; rfl)) out hout
        rw [hexpired.2, target_expired] at htarget
        cases hsaved.symm.trans (Next.stage.inj htarget)
    · exact hdue.kept hsame hsaved
  · exact absurd hmoved not_follow_confirm
  · exact absurd (ends_kept hsaved hnext (fun _ => authorised_receiptKept) out hout htarget).1 hstage

/-- The server is asked for its receipt only where the device reported the source missing. -/
theorem due_missing (hkept : Kept crates w) (hcurrent : w.current = some (self, action))
    (hdue : Due crates tr w.store self) :
    Ends (self.advance crates now random event) fun out => out.1.target = .stage .missingStatus →
      Missing crates (tr ++ [⟨w, .answer event now random, ()⟩]) out.1.loadKey ∧
        HasReceipt out.1.docs := by
  intro out hout htarget
  have hreach : out.1.target ∈ self.reach := leads_advance out hout
  rw [htarget] at hreach
  rcases came hreach (by decide) (hkept.holding _ _ hcurrent).begun.renew with
    hsame | hmoved | ⟨-, -, hconfirm⟩
  · have hstill := still_advance (by decide) hsame out hout htarget
    obtain ⟨hmissing, hreceipt⟩ := hdue.missing hsame
    rw [hstill.docs, hstill.loadKey]
    exact ⟨hmissing.append, hreceipt⟩
  -- only the device's answer about the source leads there
  · have hs : self.stage = .selectSource := by
      revert hmoved
      cases self.stage <;> decide
    refine ends_answered (P := fun out => Missing crates _ out.1.loadKey ∧ HasReceipt out.1.docs)
      (by simp [hs]) (by simp [hs]) (by rw [hs]; decide) (fun herror => ?_) out hout htarget
    rw [consumeOk, hs]
    refine missing_consumeSelectSource.imp fun out hmissing htarget => ?_
    obtain ⟨hstream, hkey, hreceipt, facts, hfacts, hreported⟩ := hmissing htarget
    have hissued := emits_issued (hkept.emits _ _ hcurrent) (by rw [hs]; decide)
    unfold ByoMachine.action at hissued
    rw [hs] at hissued
    obtain ⟨id, -, hissued⟩ := Checked.bind_eq_ok.mp hissued
    rw [if_neg hstream] at hissued
    cases hissued
    exact ⟨⟨self, id ++ [1], event, facts, answered_last hcurrent, hkey.symm, herror, hfacts,
      hreported⟩, hreceipt⟩
  · cases hconfirm

/-- The files are removed, and the result given, only of a completed upload. -/
theorem due_cleaned (hkept : Kept crates w) (hcurrent : w.current = some (self, action))
    (hdue : Due crates tr w.store self) :
    Ends (self.advance crates now random event) fun out =>
      ∀ stage ∈ [Stage.removeFile, .result], out.1.target = .stage stage →
        Complete out.1.recovery := by
  intro out hout stage hmem htarget
  have hreach : out.1.target ∈ self.reach := leads_advance out hout
  rw [htarget] at hreach
  have hpair := hmem
  simp only [List.mem_cons, List.not_mem_nil, or_false] at hmem
  have hpassed : stage ∉ PASSED := by rcases hmem with rfl | rfl <;> decide
  have hquiet : Quiet stage := by rcases hmem with rfl | rfl <;> decide
  rcases came hreach hpassed (hkept.holding _ _ hcurrent).begun.renew with
    hsame | hmoved | ⟨-, -, hconfirm⟩
  · have hstill := still_advance hquiet hsame out hout htarget
    rw [hstill.recovery]
    exact hdue.cleaned stage hpair hsame
  -- the removal follows the completion, or an upload that was complete when it was loaded
  · have hfrom : (stage = .result ∧ self.stage = .removeFile) ∨ (stage = .removeFile ∧
        self.stage ∈ [.confirm, .missingStatus, .selectSource, .createContext, .successorLoaded]) := by
      revert hmoved
      rcases hmem with rfl | rfl <;> cases self.stage <;> decide
    rcases hfrom with ⟨rfl, hs⟩ | ⟨rfl, hs⟩
    · refine ends_answered (P := fun out => Complete out.1.recovery) (by simp [hs]) (by simp [hs])
        (by rw [hs]; decide) (fun _ => ?_) out hout htarget
      rw [consumeOk, hs]
      refine ends_issue fun _ _ _ => hdue.cleaned .removeFile (by decide) ?_
      rw [target_of_stage (by simp [hs]) (by simp [hs]), hs]
    · simp only [List.mem_cons, List.not_mem_nil, or_false] at hs
      by_cases hloaded : self.stage = .successorLoaded
      · have hends : Ends (self.advance crates now random event) fun out =>
            out.1.target = .stage .removeFile → Complete out.1.recovery := by
          cases herror : event.get "error" with
          | some error =>
            refine ends_advance_error herror ((ends_consumeError (by rw [hloaded]; rfl)).imp ?_)
            intro out hout htarget
            rw [hout.2, target_expired] at htarget
            cases hloaded.symm.trans (Next.stage.inj htarget)
          | none =>
            refine ends_advance_ok herror (fun hsaved _ => ?_)
              (fun _ => complete_successorLoaded) fun _ => ?_
            · cases hloaded.symm.trans hsaved
            · rw [consumeOk, hloaded]
              exact ends_error.mpr trivial
        exact hends out hout htarget
      · refine ends_answered (P := fun out => Complete out.1.recovery) ?_ hloaded ?_
          (fun _ => ?_) out hout htarget
        · rcases hs with hs | hs | hs | hs | hs <;> simp [hs]
        · rcases hs with hs | hs | hs | hs | hs <;> rw [hs] <;> decide
        · rcases hs with hs | hs | hs | hs | hs
          · rw [consumeOk, hs]
            exact finished_consumeConfirm.imp fun _ h _ => h.2.2
          · rw [consumeOk, hs]
            exact finished_consumeMissingStatus.imp fun _ h _ => h.2.2.1
          · rw [consumeOk, hs]
            exact complete_consumeSelectSource
          · rw [consumeOk, hs]
            exact complete_consumeCreateContext
          · exact absurd hs hloaded
  · rcases hmem with rfl | rfl <;> cases hconfirm

/-- The end of a cleanup: the deletion was confirmed, or the source is missing. -/
theorem cleared_finishing (hkept : Kept crates w) (hcurrent : w.current = some (self, action))
    (hdue : Due crates tr w.store self) (hfinishing : self.Finishing)
    (herror : event.get "error" = none) :
    Ends (self.advance crates now random event) fun out => out.1.stage = .saved ∧
      Cleared crates (tr ++ [⟨w, .answer event now random, ()⟩]) out.1.loadKey := by
  have hissued := emits_issued (hkept.emits _ _ hcurrent) (by
    rcases hfinishing with hs | hs <;> rw [hs] <;> decide)
  unfold ByoMachine.action at hissued
  rcases hfinishing with hs | hs
  -- the device acknowledged the confirmation
  · rw [hs] at hissued
    cases hissued
    refine ends_advance_ok herror (fun h _ => ?_) (fun h => ?_) fun _ => ?_
    · cases hs.symm.trans h
    · cases hs.symm.trans h
    · rw [consumeOk, hs]
      refine finished_consumeConfirm.imp fun out hout => ⟨hout.1, .inl ?_⟩
      exact ⟨self, self.bytes, event, answered_last hcurrent, hout.2.1.symm, herror⟩
  -- the server answered about a source that the device had reported missing
  · rw [hs] at hissued
    obtain ⟨endpoint, -, hissued⟩ := Checked.bind_eq_ok.mp hissued
    cases hissued
    have hself : self.target = .stage .missingStatus := by
      rw [target_of_stage (by simp [hs]) (by simp [hs]), hs]
    obtain ⟨hmissing, receipt, hget, hobject⟩ := hdue.missing hself
    refine ends_advance_ok herror (fun h _ => ?_) (fun h => ?_) fun _ => ?_
    · cases hs.symm.trans h
    · cases hs.symm.trans h
    · rw [consumeOk, hs]
      refine finished_consumeMissingStatus.imp fun out hout => ?_
      obtain ⟨hsaved, hkey, -, status, state, hstatus, hreceipt, hstate, hcleanup⟩ := hout
      rw [hkey]
      refine ⟨hsaved, .inr ⟨hmissing.append, self, "batch", endpoint, event, status, state, receipt,
        answered_last hcurrent, rfl, herror, hstatus, hget, hobject, ?_, hstate, hcleanup⟩⟩
      rw [hreceipt, Json.index, hget]
      rfl

/-- A run that waits to return to a save that failed gives up. -/
theorem ends_lost (hstage : self.stage = .refreshPeriodic) (hnext : self.next = .stage .saved) :
    Ends (self.advance crates now random event) fun out => out.1.Detached := by
  cases herror : event.get "error" with
  | some error =>
    refine ends_advance_error herror ((ends_consumeError (by rw [hstage]; rfl)).imp ?_)
    intro out hout
    rw [hout.2]
    refine .inr ⟨rfl, ?_⟩
    show Next.stage self.stage ∈ _
    rw [hstage]
    decide
  | none =>
    refine ends_advance_ok herror (fun h _ => ?_) (fun h => ?_) fun _ => ?_
    · cases hstage.symm.trans h
    · cases hstage.symm.trans h
    · rw [consumeOk, hstage]
      show Ends ((self.refreshed? now).resume crates self.next) _
      rw [hnext]
      exact ends_error.mpr trivial

/-- A complete run is cleared, and its completion is stored once the save is acknowledged. -/
theorem due_complete (hkept : Kept crates w) (hcurrent : w.current = some (self, action))
    (hhonest : World.Honest tr w (.answer event now random)) (hdue : Due crates tr w.store self)
    (hcleared : ∀ key, Completed w.store key → Cleared crates tr key) :
    Ends (self.advance crates now random event) fun out =>
      ¬out.1.Detached → Complete out.1.recovery →
        Cleared crates (tr ++ [⟨w, .answer event now random, ()⟩]) out.1.loadKey ∧
          (Completed w.store out.1.loadKey ∨ out.1.stage = .saved ∨
            out.1.target = .stage .saved) := by
  have hholding := hkept.holding _ _ hcurrent
  have hemits := hkept.emits _ _ hcurrent
  -- a run takes a completion up with the documents that it loads
  by_cases hdetached : self.Detached
  · refine (loaded_advance hkept.stored hemits hholding.begun hdetached ?_).imp ?_
    · rintro key live rfl herror
      have hagrees := hhonest _ hcurrent herror
      simpa [World.agrees] using hagrees
    · intro out hloaded hattached hcomplete
      have hcompleted := hloaded.2 hattached hcomplete
      exact ⟨(hcleared _ hcompleted).append, .inl hcompleted⟩
  have hattached := hholding.attached hdetached
  by_cases hlive : self.stage = .liveSuccessor
  · refine (successor_advance hholding hlive).imp fun out hout hattachedOut hcomplete => ?_
    rcases hout with hunloaded | hexpired
    · exact absurd hunloaded.2 hattachedOut
    · rw [hexpired] at hcomplete ⊢
      obtain ⟨hdone, hstored⟩ := hdue.complete hdetached hcomplete
      refine ⟨hdone.append, hstored.imp_right fun hsaved => ?_⟩
      rcases hsaved with hsaved | htarget
      · cases hlive.symm.trans hsaved
      · rw [target_of_stage (by simp [hlive]) (by simp [hlive]), hlive] at htarget
        cases htarget
  -- elsewhere the run was complete before, or this answer has completed it
  intro out hout hattachedOut hcomplete
  have hkeeps := hholding.keeps hdetached hlive out hout
  have hkey : out.1.loadKey = self.loadKey := hkeeps.key
  by_cases hfinished : self.Finishing ∧ event.get "error" = none
  · obtain ⟨hsaved, hdone⟩ := cleared_finishing hkept hcurrent hdue hfinished.1 hfinished.2 out hout
    exact ⟨hdone, .inr (.inl hsaved)⟩
  have hself : Complete self.recovery := by
    rcases hkeeps.complete hcomplete with hself | hfinishing
    · exact hself
    · cases herror : event.get "error" with
      | none => exact absurd ⟨hfinishing, herror⟩ hfinished
      | some error =>
        have hrecover : recover self.stage = [] := by
          rcases hfinishing with hs | hs <;> rw [hs] <;> rfl
        have hexpired := ends_advance_error herror (ends_consumeError hrecover) out hout
        rw [hexpired.2] at hcomplete
        exact hcomplete
  have hwaited (hsaved : self.stage = .saved) : Completed w.store self.loadKey ∨
      out.1.stage = .saved ∨ out.1.target = .stage .saved := by
    cases herror : event.get "error" with
    | none =>
      exact .inl ⟨self.docs, self.recovery, saved_kept hkept hcurrent hhonest hsaved herror,
        hattached.anchored.coherent, hself⟩
    | some error =>
      have hexpired := ends_advance_error herror (ends_consumeError (by rw [hsaved]; rfl)) out hout
      refine .inr (.inr ?_)
      rw [hexpired.2, target_expired, hsaved]
  obtain ⟨hdone, hstored⟩ := hdue.complete hdetached hself
  rw [hkey]
  refine ⟨hdone.append, ?_⟩
  rcases hstored with hstored | hsaved | htarget
  · exact .inl hstored
  · exact hwaited hsaved
  · by_cases hsaved : self.stage = .saved
    · exact hwaited hsaved
    · have hrefresh : self.stage = .refreshPeriodic := by
        by_contra hrefresh
        rw [target_of_stage hsaved hrefresh] at htarget
        exact hsaved (Next.stage.inj htarget)
      rw [target, if_pos (.inr hrefresh)] at htarget
      exact absurd (ends_lost hrefresh htarget out hout) hattachedOut

end Advance

/-! ## Histories -/

/-- What holds of every world of a history: no completion is stored without its cleanup. -/
structure Settled (crates : Crates) (tr : List (Machine.Entry World Input Unit)) (w : World) :
    Prop where
  kept : Kept crates w
  due : ∀ run action, w.current = some (run, action) → Due crates tr w.store run
  cleared : ∀ key, Completed w.store key → Cleared crates tr key

section Histories

variable {crates : Crates} {self : ByoMachine} {w : World}
  {tr more : List (Machine.Entry World Input Unit)} {bytes : List UInt8}

theorem due_detached {store : String → Option Json} (h : self.Detached) : Due crates tr store self := by
  have hnot {stage : Stage} (hstage : stage ∉ Stage.refreshPeriodic :: DETACHED)
      (htarget : self.target = .stage stage) : False := not_detached htarget hstage h
  refine ⟨fun stage hmem htarget => ?_, fun stage hmem htarget => ?_, fun htarget => ?_,
    fun htarget => ?_, fun htarget => ?_, fun stage hmem htarget => ?_, fun hd => absurd h hd⟩
  · refine (hnot ?_ htarget).elim
    simp only [RECEIPTS, List.mem_cons, List.not_mem_nil, or_false] at hmem
    rcases hmem with rfl | rfl | rfl | rfl <;> decide
  · refine (hnot ?_ htarget).elim
    simp only [List.mem_cons, List.not_mem_nil, or_false] at hmem
    rcases hmem with rfl | rfl <;> decide
  · exact (hnot (by decide) htarget).elim
  · exact (hnot (by decide) htarget).elim
  · exact (hnot (by decide) htarget).elim
  · refine (hnot ?_ htarget).elim
    simp only [List.mem_cons, List.not_mem_nil, or_false] at hmem
    rcases hmem with rfl | rfl <;> decide

/-- What was due stays due while the store only gains. -/
theorem Due.append {store store' : String → Option Json} (h : Due crates tr store self)
    (hkept : self.stage ≠ .saved → store' = store) : Due crates (tr ++ more) store' self := by
  refine ⟨h.receipt, fun stage hmem htarget => ?_, h.authorised, fun htarget hstage => ?_,
    fun htarget => ?_, h.cleaned, fun hdetached hcomplete => ?_⟩
  · obtain ⟨receipt, hget, hverified, hdigest⟩ := h.verified stage hmem htarget
    exact ⟨receipt, hget, hverified.append, hdigest⟩
  · rw [hkept hstage]
    exact h.kept htarget hstage
  · exact ⟨(h.missing htarget).1.append, (h.missing htarget).2⟩
  · obtain ⟨hdone, hstored⟩ := h.complete hdetached hcomplete
    refine ⟨hdone.append, ?_⟩
    by_cases hsaved : self.stage = .saved
    · exact .inr (.inl hsaved)
    · rw [hkept hsaved]
      exact hstored

theorem Coherent.unique {docs : Json} {recovery recovery' : Option ByoRecovery}
    (h : Coherent docs recovery) (h' : Coherent docs recovery') (machine : ByoMachine) :
    recovery = recovery' := by
  have hread : { machine with docs }.loadedRecovery = .ok recovery := loadedRecovery_eq h
  rw [loadedRecovery_eq h'] at hread
  exact (Except.ok.inj hread).symm

/-- What a save stores as completed has been cleared. -/
theorem cleared_kept (hsettled : Settled crates tr w) {key : String} {docs : Json}
    (hcurrent : w.current = some (self, .save key docs)) {stored : String}
    (h : Completed (Function.update w.store key (some docs)) stored) : Cleared crates tr stored := by
  obtain ⟨hstage, rfl, rfl⟩ := emits_save (hsettled.kept.emits _ _ hcurrent)
  have hanchored := hsettled.kept.anchored hcurrent
  obtain ⟨docs, recovery, hstore, hcoherent, hcomplete⟩ := h
  by_cases hkey : stored = self.loadKey
  · subst hkey
    rw [Function.update_self] at hstore
    cases hstore
    rw [hcoherent.unique hanchored.coherent self] at hcomplete
    refine ((hsettled.due _ _ hcurrent).complete ?_ hcomplete).1
    rintro (hdetached | ⟨hrefresh, -⟩)
    · rw [hstage] at hdetached
      exact absurd hdetached (by decide)
    · cases hstage.symm.trans hrefresh
  · rw [Function.update_of_ne hkey] at hstore
    exact hsettled.cleared stored ⟨docs, recovery, hstore, hcoherent, hcomplete⟩

theorem settled_step (hsettled : Settled crates tr w) {i : Input}
    (hhonest : World.Honest tr w i) :
    Settled crates (tr ++ [⟨w, i, ((w.step crates i).2)⟩]) (w.step crates i).1 := by
  have hkept := kept_step hsettled.kept hhonest
  cases i with
  | start input now =>
    -- a crash may come at any time: the new run owes nothing yet, and the store stays
    refine ⟨hkept, fun run action hcurrent => ?_, fun key hcompleted => ?_⟩
    · cases hresult : start crates input now with
      | error e =>
        rw [World.step, hresult] at hcurrent
        cases hcurrent
      | ok out =>
        rw [World.step, hresult] at hcurrent
        cases hcurrent
        exact due_detached (start_detached _ hresult)
    · refine (hsettled.cleared key ?_).append
      cases hresult : start crates input now with
      | error e =>
        rw [World.step, hresult] at hcompleted
        exact hcompleted
      | ok out =>
        rw [World.step, hresult] at hcompleted
        exact hcompleted
  | keep =>
    -- only a pending save changes the store, and what it stores as completed was due
    refine ⟨hkept, ?_, ?_⟩
    · show ∀ run action, w.kept.current = some (run, action) → Due crates _ w.kept.store run
      unfold World.kept
      split
      · rename_i run key docs hsaving
        intro other action hcurrent
        cases hsaving.symm.trans hcurrent
        obtain ⟨hstage, -, -⟩ := emits_save (hsettled.kept.emits _ _ hsaving)
        exact (hsettled.due _ _ hsaving).append fun hne => absurd hstage hne
      · exact fun run action hcurrent => (hsettled.due _ _ hcurrent).append fun _ => rfl
    · show ∀ key, Completed w.kept.store key → Cleared crates _ key
      unfold World.kept
      split
      · rename_i run key docs hsaving
        exact fun stored hcompleted => (cleared_kept hsettled hsaving hcompleted).append
      · exact fun key hcompleted => (hsettled.cleared key hcompleted).append
  | answer event now random =>
    refine ⟨hkept, ?_, ?_⟩
    · show ∀ run action, (w.answered crates event now random).current = some (run, action) →
        Due crates _ (w.answered crates event now random).store run
      unfold World.answered
      split
      · rename_i machine action hcurrent
        cases hresult : machine.advance crates now random event with
        | error e => rintro run action ⟨⟩
        | ok out =>
          rintro run action ⟨⟩
          have hdue := hsettled.due _ _ hcurrent
          exact ⟨due_receipt hsettled.kept hcurrent hdue _ hresult,
            due_verified hsettled.kept hcurrent hdue _ hresult,
            due_authorised hsettled.kept hcurrent hdue _ hresult,
            due_kept hsettled.kept hcurrent hhonest hdue _ hresult,
            due_missing hsettled.kept hcurrent hdue _ hresult,
            due_cleaned hsettled.kept hcurrent hdue _ hresult,
            due_complete hsettled.kept hcurrent hhonest hdue hsettled.cleared _ hresult⟩
      · intro run action hcurrent
        exact (hsettled.due _ _ hcurrent).append fun _ => rfl
    · show ∀ key, Completed (w.answered crates event now random).store key → Cleared crates _ key
      unfold World.answered
      split
      · rename_i machine action hcurrent
        have hstore : (w.continued (machine.advance crates now random event)).store = w.store := by
          cases machine.advance crates now random event <;> rfl
        rw [hstore]
        exact fun key hcompleted => (hsettled.cleared key hcompleted).append
      · exact fun key hcompleted => (hsettled.cleared key hcompleted).append

theorem settled_run (h : Machine.Run (World.step crates) World.Honest World.boot tr w) :
    Settled crates tr w := by
  refine h.invariant (fun tr w => Settled crates tr w) ⟨kept_run .nil, ?_, ?_⟩ ?_
  · rintro run action ⟨⟩
  · rintro key ⟨docs, recovery, ⟨⟩, -⟩
  · exact fun _ _ _ _ hsettled hhonest => settled_step hsettled hhonest

/-- At its last stages a run has stored its completion. -/
theorem completion_stored (h : Machine.Run (World.step crates) World.Honest World.boot tr w)
    {action : Action} (hcurrent : w.current = some (self, action))
    (hstage : self.stage = .removeFile ∨ self.stage = .result) :
    ∃ docs, ∃ state : ByoRecovery, w.store self.loadKey = some docs ∧
      docs.index "recovery" = state.toJson ∧ state.phase = .complete ∧
      Cleared crates tr self.loadKey := by
  have hsettled := settled_run h
  have hdue := hsettled.due _ _ hcurrent
  have htarget : self.target = .stage self.stage := by
    rcases hstage with hs | hs <;> exact target_of_stage (by simp [hs]) (by simp [hs])
  have hcomplete : Complete self.recovery := by
    rcases hstage with hs | hs
    · exact hdue.cleaned .removeFile (by decide) (htarget.trans (by rw [hs]))
    · exact hdue.cleaned .result (by decide) (htarget.trans (by rw [hs]))
  have hdetached : ¬self.Detached := by
    rcases hstage with hs | hs
    · exact not_detached (show self.target = .stage .removeFile by rw [htarget, hs]) (by decide)
    · exact not_detached (show self.target = .stage .result by rw [htarget, hs]) (by decide)
  obtain ⟨hdone, hstored⟩ := hdue.complete hdetached hcomplete
  rcases hstored with ⟨docs, recovery, hstore, hcoherent, state, rfl, hphase⟩ | hsaved | hsaved
  · exact ⟨docs, state, hstore, hcoherent.written, hphase, hdone⟩
  · rcases hstage with hs | hs <;> cases hs.symm.trans hsaved
  · rcases hstage with hs | hs <;> rw [htarget, hs] at hsaved <;> cases hsaved

/-- The device is told to delete its source only once documents are stored that hold the receipt of
the server, the digest that the device returned for that receipt, and a recovery state that
authorises the cleanup. -/
theorem confirm_authorised (h : Machine.Run (World.step crates) World.Honest World.boot tr w)
    (hcurrent : w.current = some (self, .ble BYO_BLE_CONFIRM bytes)) :
    ∃ docs receipt, ∃ state : ByoRecovery, w.store self.loadKey = some docs ∧
      docs.get "receipt" = some receipt ∧ receipt.isObject ∧ Verified crates tr self.loadKey receipt bytes ∧
      docs.get "receipt_sha256" = some (.str (ByoCustomer.hex bytes)) ∧
      docs.index "recovery" = state.toJson ∧ state.mayCleanup := by
  have hsettled := settled_run h
  obtain ⟨hstage, rfl⟩ := emits_confirm (hsettled.kept.emits _ _ hcurrent)
  have htarget : self.target = .stage .confirm := by
    rw [target_of_stage (by simp [hstage]) (by simp [hstage]), hstage]
  have hdue := hsettled.due _ _ hcurrent
  obtain ⟨receipt, hget, hverified, hdigest⟩ := hdue.verified .confirm (by decide) htarget
  obtain ⟨receipt', hget', hobject⟩ := hdue.receipt .confirm (by decide) htarget
  cases hget.symm.trans hget'
  obtain ⟨state, hstate, hcleanup⟩ := hdue.authorised htarget
  have hanchored := ((hsettled.kept.holding _ _ hcurrent).attached
    (not_detached htarget (by decide))).anchored
  refine ⟨self.docs, receipt, state, hdue.kept htarget (by simp [hstage]), hget, hobject, hverified,
    hdigest, ?_, hcleanup⟩
  have hwritten := hanchored.coherent.written
  rw [show self.evidence.recovery = some state from hstate] at hwritten
  exact hwritten

theorem confirm_authorised_sample :
    ∃ e ∈ sampleRun.1, ∃ run tr, ∃ docs receipt : Json, ∃ state : ByoRecovery,
      e.pre.current = some (run, .ble BYO_BLE_CONFIRM (List.replicate 32 7)) ∧
      e.pre.store run.loadKey = some docs ∧ docs.get "receipt" = some receipt ∧
      receipt.isObject ∧
      Verified sampleCrates tr run.loadKey receipt (List.replicate 32 7) ∧
      docs.get "receipt_sha256" = some (.str (ByoCustomer.hex (List.replicate 32 7))) ∧
      docs.index "recovery" = state.toJson ∧ state.mayCleanup := by
  obtain ⟨e, he, haction⟩ := sample_history.2.2.1
  obtain ⟨before, -, -, hrun, -, -⟩ := sample_run.mem he
  obtain ⟨⟨run, action⟩, hcurrent, rfl⟩ := Option.map_eq_some_iff.mp haction
  obtain ⟨docs, receipt, state, hauthorised⟩ := confirm_authorised hrun hcurrent
  exact ⟨e, he, run, before, docs, receipt, state, hcurrent, hauthorised⟩

/-- The files of an upload are removed only once its completion is stored, after the source was
deleted or found missing. -/
theorem removed_cleared (h : Machine.Run (World.step crates) World.Honest World.boot tr w)
    {path temporaryPath : String}
    (hcurrent : w.current = some (self, .fileRemove path temporaryPath)) :
    ∃ docs, ∃ state : ByoRecovery, w.store self.loadKey = some docs ∧
      docs.index "recovery" = state.toJson ∧ state.phase = .complete ∧
      Cleared crates tr self.loadKey :=
  completion_stored h hcurrent (.inl (emits_fileRemove ((settled_run h).kept.emits _ _ hcurrent)))

theorem removed_cleared_sample :
    ∃ run path temporaryPath docs, ∃ state : ByoRecovery,
      sampleRun.2.current = some (run, .fileRemove path temporaryPath) ∧
      sampleRun.2.store run.loadKey = some docs ∧ docs.index "recovery" = state.toJson ∧
      state.phase = .complete ∧ Cleared sampleCrates sampleRun.1 run.loadKey := by
  obtain ⟨⟨run, action⟩, hcurrent, rfl⟩ := Option.map_eq_some_iff.mp sample_history.2.2.2
  obtain ⟨docs, state, hcleared⟩ := removed_cleared sample_run hcurrent
  exact ⟨run, _, _, docs, state, hcurrent, hcleared⟩

end Histories

end ByoMachine

end BotaSdk
