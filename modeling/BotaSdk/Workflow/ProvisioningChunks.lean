import BotaSdk.Workflow.ProvisioningSteps

/-!
# The chunks of a provisioning

Over every run: what is written is the endpoint and the chunks of the prepared material, in order,
and the command completes when all of them have been submitted and the device has answered success.
-/

namespace BotaSdk

open History Protocol Provisioning

namespace ProvisioningWorkflow

abbrev Trace := List (EngineEntry ProvisioningWorkflow)

/-! ## Writes and material -/

def isWrite : Effect → Bool
  | .ble (.write ..) => true
  | _ => false

/-- The writes of a history, in the order they were issued. -/
def writes (requests : List (RequestId × Effect)) : List Effect :=
  (requests.map (·.2)).filter isWrite

/-- What the endpoint and the chunks are written as. -/
def plan (endpoint : List UInt8) (chunks : List (List UInt8)) : List Effect :=
  endpointEffect endpoint :: chunks.map (chunkEffect true)

/-- The host has prepared material of one endpoint byte and an envelope that is cut in `chunks`. -/
structure Prepared (trace : Trace) (endpoint : List UInt8) (chunks : List (List UInt8)) : Prop where
  accepted : ∃ material envelope entry id, entry ∈ trace ∧
    Accepted entry ⟨id, .provisioningMaterialPrepared material⟩ ∧
    material.apiEndpoint = endpoint ∧ material.credentialEnvelope = some envelope ∧
    encodeProvisioningChunks envelope material.mtu = .ok chunks
  endpoint_length : endpoint.length = 1
  chunks_length : chunks.length ≤ 255

section Material

variable {material : ProvisioningMaterial} {endpoint : List UInt8} {chunks : List (List UInt8)}
  {trace : Trace} {front back : List (RequestId × Effect)}

@[simp] theorem writes_append : writes (front ++ back) = writes front ++ writes back := by
  rw [writes, List.map_append, List.filter_append]
  rfl

@[simp] theorem writes_nil : writes [] = [] := rfl

theorem length_encodeProvisioningChunks {payload : List UInt8} {mtu : Nat}
    (h : encodeProvisioningChunks payload mtu = .ok chunks) : chunks.length ≤ 255 := by
  rw [encodeProvisioningChunks] at h
  split at h
  · cases h
  · simp only at h
    split at h
    · cases h
    · obtain rfl := Except.ok.inj h
      rw [Chunks.length_frames]
      omega

theorem encodeMaterial_spec (h : encodeMaterial material = .ok (endpoint, chunks)) :
    material.apiEndpoint = endpoint ∧ endpoint.length = 1 ∧
      ∃ envelope, material.credentialEnvelope = some envelope ∧
        encodeProvisioningChunks envelope material.mtu = .ok chunks := by
  obtain ⟨bounded, hbounded, h⟩ := Checked.bind_eq_ok.mp h
  obtain ⟨hone, h⟩ := Checked.guard_eq_ok.mp h
  have hendpoint : bounded = material.apiEndpoint := by
    rw [encodeBoundedPayload] at hbounded
    split at hbounded
    · exact nomatch hbounded
    · exact (Except.ok.inj hbounded).symm
  cases hcredential : credential material with
  | none =>
    rw [hcredential] at h
    exact nomatch h
  | some envelope =>
    rw [hcredential] at h
    obtain ⟨encoded, hencoded, h⟩ := Checked.bind_eq_ok.mp h
    obtain ⟨rfl, rfl⟩ := Prod.mk.inj (Checked.pure_eq_ok.mp (Checked.guard_eq_ok.mp h).2)
    exact ⟨hendpoint.symm, not_not.mp hone, envelope,
      (Option.filter_eq_some_iff.mp hcredential).1, hencoded⟩

theorem prepared_last {entry : EngineEntry ProvisioningWorkflow} {id : RequestId}
    (haccepted : Accepted entry ⟨id, .provisioningMaterialPrepared material⟩)
    (h : encodeMaterial material = .ok (endpoint, chunks)) (trace : Trace) :
    Prepared (trace ++ [entry]) endpoint chunks := by
  obtain ⟨hendpoint, hone, envelope, henvelope, hchunks⟩ := encodeMaterial_spec h
  exact ⟨⟨material, envelope, entry, id, List.mem_append_right _ List.mem_cons_self, haccepted,
    hendpoint, henvelope, hchunks⟩, hone, length_encodeProvisioningChunks hchunks⟩

theorem Prepared.append (h : Prepared trace endpoint chunks) (rest : Trace) :
    Prepared (trace ++ rest) endpoint chunks := by
  obtain ⟨⟨material, envelope, entry, id, hmem, hentry⟩, hone, hlength⟩ := h
  exact ⟨⟨material, envelope, entry, id, List.mem_append_left _ hmem, hentry⟩, hone, hlength⟩

end Material

/-! ## The pump -/

/-- What has been written in each phase of a workflow. -/
def Pumped (written : List Effect) (w : ProvisioningWorkflow) : Prop :=
  match w.phase with
  | .readingNonce | .readingPublicKey | .preparingMaterial => written = []
  | .subscribing => written = [] ∧ w.chunkIndex = 0
  | .writingEndpoint => written = plan w.apiEndpoint [] ∧ w.chunkIndex = 0
  | .writingToken =>
    written = plan w.apiEndpoint (w.tokenChunks.take (w.chunkIndex + 1)) ∧
      w.chunkIndex < w.tokenChunks.length
  | .awaitingResult => written = plan w.apiEndpoint w.tokenChunks
  | .completed | .failed => False

/-- The phases before the material is accepted. -/
def Preparing (w : ProvisioningWorkflow) : Prop :=
  w.phase = .readingNonce ∨ w.phase = .readingPublicKey ∨ w.phase = .preparingMaterial

structure Inv (started : List EffectRequest) (trace : Trace) (w : ProvisioningWorkflow) : Prop where
  pumped : Pumped (writes (issues (started ++ emitted trace))) w
  prepared : ¬Preparing w → w.encrypted = true ∧ Prepared trace w.apiEndpoint w.tokenChunks
  nonce : Formed w
  subscription : ∀ id, w.subscriptionRequestId = some id → Issued started subscribeEffect trace id

/-- What has been written is the beginning of the plan of prepared material. -/
def Sent (started : List EffectRequest) (trace : Trace) : Prop :=
  writes (issues (started ++ emitted trace)) = [] ∨
    ∃ endpoint chunks, Prepared trace endpoint chunks ∧
      writes (issues (started ++ emitted trace)) <+: plan endpoint chunks

/-- The workflow reports that it has completed. -/
def Reports (entry : EngineEntry ProvisioningWorkflow) : Prop :=
  ∃ id, (id, .notify (.completed .provision)) ∈ issues entry.output.effects

/-- Everything has been written, and the device answers the subscription with success. -/
structure Finished (started : List EffectRequest) (before : Trace)
    (entry : EngineEntry ProvisioningWorkflow) : Prop where
  written : ∃ endpoint chunks, Prepared before endpoint chunks ∧
    writes (issues (started ++ emitted before)) = plan endpoint chunks
  answered : ∃ id value, Issued started subscribeEffect before id ∧
    Accepted entry ⟨id, .ble (.notification CHAR_PROVISIONING_RESULT value)⟩ ∧
    value.head? = some PROVISIONING_SUCCESS

section Steps

variable {started : List EffectRequest} {trace : Trace} {w w' : ProvisioningWorkflow}
  {n m id : RequestId} {event : HostEvent} {effects : List (RequestId × Effect)}
  {entry : EngineEntry ProvisioningWorkflow} {index : Nat}

theorem plan_take (endpoint : List UInt8) {chunks : List (List UInt8)} {payload : List UInt8}
    (h : chunks[index]? = some payload) :
    plan endpoint (chunks.take (index + 1)) =
      plan endpoint (chunks.take index) ++ [chunkEffect true payload] := by
  obtain ⟨hlt, rfl⟩ := List.getElem?_eq_some_iff.mp h
  rw [plan, List.take_succ_eq_append_getElem hlt, List.map_append]
  rfl

theorem plan_starts (endpoint : List UInt8) (chunks : List (List UInt8)) :
    plan endpoint (chunks.take index) <+: plan endpoint chunks :=
  List.prefix_cons_inj _ |>.mpr ((List.take_prefix index chunks).map _)

@[simp] theorem writes_cleanup : writes (cleanupIssues n m w) = [] := by
  rw [cleanupIssues]
  split <;> rfl

/-- A step that goes on keeps to the phases in between. -/
theorem Inv.running (h : Inv started trace w) : w.phase ≠ .completed ∧ w.phase ≠ .failed := by
  have hpumped := h.pumped
  rw [Pumped] at hpumped
  constructor
  · intro hphase
    rw [hphase] at hpumped
    exact hpumped
  · intro hphase
    rw [hphase] at hpumped
    exact hpumped

/-- The chunk that is due is the first that has not been written. -/
theorem Inv.due (h : Inv started trace w) (hnext : w.nextChunk = some index) :
    writes (issues (started ++ emitted trace)) = plan w.apiEndpoint (w.tokenChunks.take index) ∧
      index ≤ w.tokenChunks.length ∧ ¬Preparing w := by
  have hpumped := h.pumped
  have hprepared := h.prepared
  rw [nextChunk] at hnext
  rw [Pumped] at hpumped
  cases hphase : w.phase with
  | writingEndpoint =>
    have hlate : ¬Preparing w := by simp [Preparing, hphase]
    rw [hphase] at hnext hpumped
    obtain rfl := Option.some.inj hnext
    rw [hpumped.2]
    exact ⟨hpumped.1, Nat.zero_le _, hlate⟩
  | writingToken =>
    have hlate : ¬Preparing w := by simp [Preparing, hphase]
    have hcount := (hprepared hlate).2.chunks_length
    rw [hphase] at hnext hpumped
    have hindex : index = w.chunkIndex + 1 := by
      rw [← Option.some.inj hnext, saturatingAdd, U64_MAX]
      omega
    rw [hindex]
    exact ⟨hpumped.1, hpumped.2, hlate⟩
  | _ =>
    rw [hphase] at hnext
    cases hnext

/-- When a result is expected, everything has been written. -/
theorem Inv.expects (h : Inv started trace w) (hexpects : expectsResult w) :
    writes (issues (started ++ emitted trace)) = plan w.apiEndpoint w.tokenChunks ∧
      ¬Preparing w := by
  have hpumped := h.pumped
  have hprepared := h.prepared
  rw [expectsResult, decide_eq_true_eq] at hexpects
  rw [Pumped] at hpumped
  rcases hexpects with hphase | ⟨hphase, hlast⟩
  · rw [hphase] at hpumped
    exact ⟨hpumped, by simp [Preparing, hphase]⟩
  · have hlate : ¬Preparing w := by simp [Preparing, hphase]
    have hcount := (hprepared hlate).2.chunks_length
    rw [hphase] at hpumped
    have hall : w.chunkIndex + 1 = w.tokenChunks.length := by
      rw [saturatingAdd, U64_MAX] at hlast
      omega
    rw [hall, List.take_length] at hpumped
    exact ⟨hpumped.1, hlate⟩

theorem Inv.sent (h : Inv started trace w) : Sent started trace := by
  have hpumped := h.pumped
  have hprepared := h.prepared
  rw [Pumped] at hpumped
  cases hphase : w.phase with
  | readingNonce | readingPublicKey | preparingMaterial =>
    rw [hphase] at hpumped
    exact .inl hpumped
  | subscribing =>
    rw [hphase] at hpumped
    exact .inl hpumped.1
  | completed | failed =>
    rw [hphase] at hpumped
    exact hpumped.elim
  | writingEndpoint =>
    rw [hphase] at hpumped
    refine .inr ⟨_, _, (hprepared (by simp [Preparing, hphase])).2, ?_⟩
    rw [hpumped.1]
    exact @plan_starts 0 _ _
  | writingToken =>
    rw [hphase] at hpumped
    refine .inr ⟨_, _, (hprepared (by simp [Preparing, hphase])).2, ?_⟩
    rw [hpumped.1]
    exact plan_starts _ _
  | awaitingResult =>
    rw [hphase] at hpumped
    refine .inr ⟨_, _, (hprepared (by simp [Preparing, hphase])).2, ?_⟩
    rw [hpumped]

/-- An entry that writes nothing leaves what has been sent. -/
theorem Sent.snoc (h : Sent started trace) (hquiet : writes (issues entry.output.effects) = []) :
    Sent started (trace ++ [entry]) := by
  rw [Sent, issues_snoc, writes_append, hquiet, List.append_nil]
  rcases h with h | ⟨endpoint, chunks, hprepared, hsent⟩
  · exact .inl h
  · exact .inr ⟨endpoint, chunks, hprepared.append _, hsent⟩

theorem Inv.quiet (h : Inv started trace w) (hquiet : entry.output.effects = []) :
    Inv started (trace ++ [entry]) w where
  pumped := by
    rw [issues_snoc, hquiet, issues_nil, List.append_nil]
    exact h.pumped
  prepared hlate := ⟨(h.prepared hlate).1, (h.prepared hlate).2.append _⟩
  nonce := h.nonce
  subscription id hid := (h.subscription id hid).append _

/-- What each phase has written is kept by every transition that goes on. -/
theorem Transition.pumped (hstep : Transition w n event w' effects) (hinv : Inv started trace w)
    (hrunning : w'.phase ≠ .completed ∧ w'.phase ≠ .failed) :
    Pumped (writes (issues (started ++ emitted trace)) ++ writes effects) w' := by
  have hpumped := hinv.pumped
  rw [Pumped] at hpumped
  cases hstep with
  | checkpointSaved _ =>
    rw [writes_nil, List.append_nil]
    exact hinv.pumped
  | nonceRead hphase _ =>
    rw [hphase] at hpumped
    simp only [Pumped, hpumped]
    rfl
  | keyRead hphase _ _ =>
    rw [hphase] at hpumped
    simp only [Pumped, hpumped]
    rfl
  | materialPrepared hphase _ _ =>
    rw [hphase] at hpumped
    simp only [Pumped, hpumped]
    exact ⟨rfl, trivial⟩
  | subscribed hphase _ =>
    rw [hphase] at hpumped
    simp only [Pumped, hpumped.1, hpumped.2]
    exact ⟨rfl, trivial⟩
  | @written id m index payload _ hnext hpayload =>
    obtain ⟨hwritten, -, hlate⟩ := hinv.due hnext
    have hencrypted := (hinv.prepared hlate).1
    simp only [Pumped]
    rw [plan_take _ hpayload, hwritten, hencrypted]
    exact ⟨rfl, (List.getElem?_eq_some_iff.mp hpayload).1⟩
  | @writtenLast id index _ hnext hpayload =>
    obtain ⟨hwritten, -, -⟩ := hinv.due hnext
    simp only [Pumped]
    rw [writes_nil, List.append_nil, hwritten,
      List.take_of_length_le (List.getElem?_eq_none_iff.mp hpayload)]
  | succeeded _ _ _ hcompleted => exact absurd hcompleted hrunning.1
  | failed hfailed _ => exact absurd hfailed hrunning.2

theorem Transition.prepared (hstep : Transition w n event w' effects) (hinv : Inv started trace w)
    (haccepted : Accepted entry event)
    (hrunning : w'.phase ≠ .completed ∧ w'.phase ≠ .failed) (hlate : ¬Preparing w') :
    w'.encrypted = true ∧ Prepared (trace ++ [entry]) w'.apiEndpoint w'.tokenChunks := by
  have hkeep (h : ¬Preparing w) :
      w.encrypted = true ∧ Prepared (trace ++ [entry]) w.apiEndpoint w.tokenChunks :=
    ⟨(hinv.prepared h).1, (hinv.prepared h).2.append _⟩
  cases hstep with
  | checkpointSaved _ => exact hkeep hlate
  | nonceRead _ _ => exact absurd (.inr (.inl rfl)) hlate
  | keyRead _ _ _ => exact absurd (.inr (.inr rfl)) hlate
  | materialPrepared _ _ hencode => exact ⟨rfl, prepared_last haccepted hencode trace⟩
  | subscribed hphase _ => exact hkeep (by simp [Preparing, hphase])
  | written _ hnext _ => exact hkeep (hinv.due hnext).2.2
  | writtenLast _ hnext _ => exact hkeep (hinv.due hnext).2.2
  | succeeded _ _ _ hcompleted => exact absurd hcompleted hrunning.1
  | failed hfailed _ => exact absurd hfailed hrunning.2

theorem Transition.formed (hstep : Transition w n event w' effects) (hinv : Inv started trace w)
    (hrunning : w'.phase ≠ .completed ∧ w'.phase ≠ .failed) : Formed w' := by
  intro hphase
  cases hstep with
  | checkpointSaved _ => exact hinv.nonce hphase
  | nonceRead _ _ => exact ⟨_, rfl⟩
  | succeeded _ _ _ hcompleted => exact absurd hcompleted hrunning.1
  | failed hfailed _ => exact absurd hfailed hrunning.2
  | _ => exact nomatch hphase

theorem Transition.subscription (hstep : Transition w n event w' effects)
    (hinv : Inv started trace w) (hissues : issues entry.output.effects = effects)
    (hrunning : w'.phase ≠ .completed ∧ w'.phase ≠ .failed) :
    ∀ id, w'.subscriptionRequestId = some id →
      Issued started subscribeEffect (trace ++ [entry]) id := by
  intro id hid
  cases hstep with
  | materialPrepared _ _ _ =>
    obtain rfl := Option.some.inj hid
    refine .last ?_ trace
    rw [hissues]
    exact List.mem_cons_self
  | succeeded _ _ _ hcompleted => exact absurd hcompleted hrunning.1
  | failed hfailed _ => exact absurd hfailed hrunning.2
  | _ => exact (hinv.subscription id hid).append _

theorem Transition.inv (hstep : Transition w n event w' effects) (hinv : Inv started trace w)
    (haccepted : Accepted entry event) (hissues : issues entry.output.effects = effects)
    (hrunning : w'.phase ≠ .completed ∧ w'.phase ≠ .failed) :
    Inv started (trace ++ [entry]) w' where
  pumped := by
    rw [issues_snoc, writes_append, hissues]
    exact hstep.pumped hinv hrunning
  prepared := hstep.prepared hinv haccepted hrunning
  nonce := hstep.formed hinv hrunning
  subscription := hstep.subscription hinv hissues hrunning

/-- An ending writes nothing. -/
theorem Transition.ends (hstep : Transition w n event w' effects)
    (hrunning : w.phase ≠ .completed ∧ w.phase ≠ .failed)
    (hend : w'.phase = .completed ∨ w'.phase = .failed) : writes effects = [] := by
  cases hstep with
  | checkpointSaved _ => exact absurd hend (not_or.mpr hrunning)
  | succeeded _ _ _ _ =>
    rw [writes_append, writes_cleanup]
    rfl
  | failed _ _ =>
    rw [writes_append, writes_cleanup]
    rfl
  | _ => exact (hend.elim nofun nofun)

theorem not_completed_cleanup : (id, Effect.notify (.completed .provision)) ∉ cleanupIssues n m w := by
  rw [cleanupIssues]
  split <;> simp [unsubscribeEffect]

/-- A completion is reported with the device's success, once everything has been written. -/
theorem Transition.finished (hstep : Transition w n event w' effects) (hinv : Inv started trace w)
    (haccepted : Accepted entry event)
    (hreport : ∃ id, (id, Effect.notify (.completed .provision)) ∈ effects) :
    Finished started trace entry := by
  obtain ⟨report, hreport⟩ := hreport
  cases hstep with
  | @succeeded id m k j value w' hexpects hid hvalue _ =>
    obtain ⟨hwritten, hlate⟩ := hinv.expects hexpects
    exact ⟨⟨_, _, (hinv.prepared hlate).2, hwritten⟩,
      ⟨id, value, hinv.subscription id hid, haccepted, hvalue⟩⟩
  | failed _ _ =>
    rcases List.mem_append.mp hreport with hmem | hmem
    · exact absurd hmem not_completed_cleanup
    · simp at hmem
  | _ => simp [subscribeEffect, endpointEffect, chunkEffect, checkpointEffect] at hreport

end Steps

/-! ## Runs -/

/-- The engine just started on a provisioning, and the requests of the start. -/
def Started (started : List EffectRequest) (engine₀ : WorkflowEngine ProvisioningWorkflow) : Prop :=
  ∃ (engine : WorkflowEngine ProvisioningWorkflow) (command : ProvisionCommand)
    (capabilities : List Capability) (id : CancellationId),
    engine.start command capabilities id = (engine₀, .ok started)

section Runs

variable {started : List EffectRequest} {trace : Trace}
  {engine₀ engine : WorkflowEngine ProvisioningWorkflow}

theorem Started.inv (h : Started started engine₀) :
    ∃ w, engine₀.active = some w ∧ Inv started [] w := by
  obtain ⟨engine, command, capabilities, id, h⟩ := h
  obtain ⟨workflow, hcreate, reduction, rfl, hact, -, hout⟩ := start_ok h
  obtain rfl := Except.ok.inj hcreate
  obtain rfl := Outcome.ok.inj hout
  exact ⟨_, hact, rfl, fun hlate => absurd (.inl rfl) hlate, nofun, nofun⟩

theorem run_inv (hstart : Started started engine₀)
    (h : EngineRun (fun _ _ _ => True) engine₀ trace engine) :
    Settled (Inv started) (Sent started) trace engine := by
  refine EngineRun.step_rule ?_ ?_ ?_ ?_ ?_ h
  -- at the start
  · obtain ⟨w, hact, hinv⟩ := hstart.inv
    rw [settled_active hact]
    exact hinv
  -- an event of the host
  · intro trace engine w event _ hact hinv _
    rcases dispatch_cases hinv.nonce event (engine.context w) with ⟨call, hcall, hstep⟩ | hreject
    · refine .inl ⟨call, hcall, ?_⟩
      by_cases hend : call.workflow.phase = .completed ∨ call.workflow.phase = .failed
      · obtain ⟨status, hstatus⟩ := hstep.terminal hinv.running hend
        exact .inr ⟨status, hstatus, hinv.sent.snoc (hstep.ends hinv.running hend)⟩
      · have hrunning := not_or.mp hend
        exact .inl ⟨terminalStatus_of_running hrunning.1 hrunning.2,
          hstep.inv hinv ⟨rfl, _, rfl⟩ rfl hrunning⟩
    · exact .inr ⟨w, engine.context w, unexpected, hreject, hinv.quiet rfl⟩
  -- the workflow is cancelled
  · intro trace engine w _ hact hinv _
    obtain ⟨call, m, k, hcall, hissues⟩ := cancel_issued w (engine.context w)
    refine ⟨call, hcall, hinv.sent.snoc ?_⟩
    rw [issued] at hissues
    rw [Outcome.effects, hissues, writes_append, writes_cleanup]
    rfl
  -- another workflow's cancellation
  · intro trace entry w _ _ _ hquiet hinv
    exact hinv.quiet hquiet
  -- after the end
  · intro trace entry _ _ hquiet hsent
    refine hsent.snoc ?_
    rw [hquiet]
    rfl

theorem run_sent (hstart : Started started engine₀)
    (h : EngineRun (fun _ _ _ => True) engine₀ trace engine) : Sent started trace := by
  have hsettled := run_inv hstart h
  cases hact : engine.active with
  | none => exact (settled_ended hact).mp hsettled
  | some w => exact ((settled_active hact).mp hsettled).sent

/-- An event of an active workflow is a transition, or changes nothing.  Only a transition to the
completed phase makes the status a completion. -/
theorem Inv.transition {w : ProvisioningWorkflow} (hinv : Inv started trace w)
    (hact : engine.active = some w) (event : HostEvent) :
    (∃ call : Call, (engine.dispatch (.host event)).2 = .ok call.effects ∧
      Transition w engine.nextRequestId event call.workflow (issued call) ∧
      ((engine.dispatch (.host event)).1.status = engine.status ∨
        (engine.dispatch (.host event)).1.status ≠ .completed .provision ∨
        call.workflow.phase = .completed)) ∨
    ((engine.dispatch (.host event)).2.effects = [] ∧
      (engine.dispatch (.host event)).1.status = engine.status) := by
  rw [dispatch_active hact]
  rcases dispatch_cases hinv.nonce event (engine.context w) with ⟨call, hcall, hstep⟩ | hreject
  · refine .inl ⟨call, ?_⟩
    have hred : WorkflowReducer.dispatch w event (engine.context w) = .ok call := hcall
    rw [hred]
    by_cases hend : call.workflow.phase = .completed ∨ call.workflow.phase = .failed
    · obtain ⟨status, hstatus⟩ := hstep.terminal hinv.running hend
      rw [settle_ended rfl hstatus]
      refine ⟨rfl, hstep, .inr ?_⟩
      rcases hend with hcompleted | hfailed
      · exact .inr hcompleted
      · left
        rintro rfl
        have hfailure : terminalStatus call.workflow = _ := hstatus
        simp only [terminalStatus, hfailed] at hfailure
        split at hfailure <;> simp at hfailure
    · have hrunning := not_or.mp hend
      rw [settle_running rfl (terminalStatus_of_running hrunning.1 hrunning.2)]
      exact ⟨rfl, hstep, .inl rfl⟩
  · have hred : WorkflowReducer.dispatch w event (engine.context w) = _ := hreject
    rw [hred, settle_err rfl]
    exact .inr ⟨rfl, rfl⟩

theorem run_finished (hstart : Started started engine₀)
    (h : EngineRun (fun _ _ _ => True) engine₀ trace engine) {before after : Trace}
    {entry : EngineEntry ProvisioningWorkflow} (hsplit : trace = before ++ entry :: after)
    (hreports : Reports entry) : Finished started before entry := by
  obtain ⟨hbefore, -, hout, -⟩ := h.split hsplit
  obtain ⟨engine, input, output⟩ := entry
  simp only at hbefore hout
  cases hact : engine.active with
  | none =>
    rw [Reports, hout, (dispatch_ended hact input).2] at hreports
    exact absurd hreports (by simp)
  | some w =>
    have hinv := (settled_active hact).mp (run_inv hstart hbefore)
    cases input with
    | host event =>
      rcases hinv.transition hact event with ⟨call, hcall, hstep, -⟩ | ⟨hquiet, -⟩
      · have hok : output = .ok call.effects := hout.trans hcall
        subst hok
        exact hstep.finished hinv ⟨rfl, _, rfl⟩ hreports
      · rw [Reports, hout, hquiet] at hreports
        exact absurd hreports (by simp)
    | cancelled id =>
      by_cases hid : WorkflowReducer.cancellationId w = id
      · subst hid
        obtain ⟨call, m, k, hcall, hissues⟩ := cancel_issued w (engine.context w)
        have hred : WorkflowReducer.cancel w (engine.context w) = .ok call := hcall
        have hok : (WorkflowReducer.cancel w (engine.context w)).outcome = .ok call.effects := by
          rw [hred]
          rfl
        rw [cancel_active hact hok] at hout
        subst hout
        obtain ⟨report, hreport⟩ := hreports
        rw [issued] at hissues
        rw [Outcome.effects, hissues] at hreport
        rcases List.mem_append.mp hreport with hmem | hmem
        · exact absurd hmem not_completed_cleanup
        · simp at hmem
      · rw [Reports, hout, (cancel_foreign hact hid).2] at hreports
        exact absurd hreports (by simp)

theorem Transition.reports {w w' : ProvisioningWorkflow} {n : RequestId} {event : HostEvent}
    {effects : List (RequestId × Effect)} (hstep : Transition w n event w' effects)
    (hrunning : w.phase ≠ .completed) (hcompleted : w'.phase = .completed) :
    ∃ id, (id, Effect.notify (.completed .provision)) ∈ effects := by
  cases hstep with
  | checkpointSaved _ => exact absurd hcompleted hrunning
  | @succeeded id m k j value w' _ _ _ _ => exact ⟨j, by simp⟩
  | failed hfailed _ =>
    rw [hfailed] at hcompleted
    exact nomatch hcompleted
  | _ => exact nomatch hcompleted

/-- A run's status is a completion only when the completion was reported. -/
theorem run_status (hstart : Started started engine₀)
    (h : EngineRun (fun _ _ _ => True) engine₀ trace engine)
    (hstatus : engine.status = .completed .provision) : ∃ entry ∈ trace, Reports entry := by
  revert hstatus
  refine Machine.Run.invariant (fun trace (engine : WorkflowEngine ProvisioningWorkflow) =>
    engine.status = .completed .provision → ∃ entry ∈ trace, Reports entry) ?_ ?_ h
  · obtain ⟨engine, command, capabilities, id, h⟩ := hstart
    rw [start_status h]
    exact nofun
  · intro trace engine input hrun ih _ hstatus
    have hlast (hsame : (engine.dispatch input).1.status = engine.status) :
        ∃ entry ∈ trace ++ [⟨engine, input, (engine.dispatch input).2⟩], Reports entry := by
      obtain ⟨entry, hmem, hreports⟩ := ih (hsame ▸ hstatus)
      exact ⟨entry, List.mem_append_left _ hmem, hreports⟩
    cases input with
    | cancelled id =>
      rcases cancel_status engine id with hsame | ⟨operation, hcancelled⟩
      · exact hlast hsame
      · rw [hcancelled] at hstatus
        exact nomatch hstatus
    | host event =>
      cases hact : engine.active with
      | none => exact hlast (congrArg WorkflowEngine.status (dispatch_ended hact (.host event)).1)
      | some w =>
        have hinv := (settled_active hact).mp (run_inv hstart hrun)
        rcases hinv.transition hact event with
          ⟨call, hcall, hstep, hsame | hother | hcompleted⟩ | ⟨-, hsame⟩
        · exact hlast hsame
        · exact absurd hstatus hother
        · refine ⟨_, List.mem_append_right _ List.mem_cons_self, ?_⟩
          obtain ⟨id, hreport⟩ := hstep.reports hinv.running.1 hcompleted
          refine ⟨id, ?_⟩
          simp only [hcall]
          exact hreport
        · exact hlast hsame

/-- The chunked encoders refuse a payload for its headers and bounds alone, and their frames
reassemble it; and a provisioning writes the chunks of its material in order, and completes when all
have been submitted and the device has answered success. -/
theorem chunked_writes {sha256 : List UInt8 → FixedBytes 32} {bytes : List UInt8}
    {serial : String} {nonce : FixedBytes 16} {document : RegulatoryDocument}
    (hparse : RegulatoryDocument.parse sha256 bytes serial nonce = .ok document)
    (hstart : Started started engine₀)
    (hrun : EngineRun (fun _ _ _ => True) engine₀ trace engine) :
    (∀ payload mtu, Reassembles (mtu ≤ 7 ∨ 255 * (mtu - 7) < payload.length) TellsCount (mtu - 5)
      payload (encodeProvisioningChunks payload mtu)) ∧
    (∀ grant capacity, Reassembles (¬IsGrant grant ∨ ¬(20 ≤ capacity ∧ capacity ≤ 512))
      (TellsOffset grant.length) capacity grant (wifiProvisioningGrantChunks grant capacity)) ∧
    (∀ mtu, Reassembles (¬(23 ≤ mtu ∧ mtu ≤ 517)) TellsCount (min (mtu - 5) 246) bytes
      (document.fragments mtu)) ∧
    Sent started trace ∧
    (∀ before entry after, trace = before ++ entry :: after → Reports entry →
      Finished started before entry) ∧
    (engine.status = .completed .provision → ∃ entry ∈ trace, Reports entry) :=
  ⟨encodeProvisioningChunks_reassembles, wifiProvisioningGrantChunks_reassembles,
    RegulatoryDocument.fragments_reassembles hparse, run_sent hstart hrun,
    fun _ _ _ hsplit => run_finished hstart hrun hsplit, run_status hstart hrun⟩

end Runs

/-! ## A provisioning over two chunks -/

/-- The smallest document: seven fields of one letter or none, and a signature of zeros. -/
def sampleBytes : List UInt8 :=
  Regulatory.MAGIC ++ [1, 0, 1, 0] ++ List.replicate 36 0 ++ [0, 0, 0, 0, 0, 0, 0, 1] ++
  [0, 0, 0, 0, 0, 0, 0, 1] ++ List.replicate 8 0 ++ [0, 0, 0, 0, 0, 0, 0, 1] ++
  List.replicate 16 7 ++ [0x43, 0x4E, 1, 0] ++ List.replicate 48 0 ++
  [0, 1, 0x41, 0, 1, 0x42, 0, 1, 0x42, 0, 1, 0x42, 0, 0, 0, 1, 0x42, 0, 1, 0x42] ++
  List.replicate 64 0

/-- The SHA-256 of `sampleBytes`. -/
def sampleHash : FixedBytes 32 :=
  ⟨[0xDB, 0x15, 0x6B, 0xC4, 0x56, 0xA2, 0xA8, 0x79, 0xD6, 0x05, 0xFC, 0xFB, 0x93, 0x2D, 0xC7,
    0x0E, 0x4C, 0xA8, 0xC9, 0xF6, 0xF2, 0xB8, 0x2E, 0x68, 0xF3, 0xEB, 0x96, 0xFB, 0x31, 0xEC,
    0x3C, 0xB0], rfl⟩

def sampleDocument : RegulatoryDocument where
  bytes := sampleBytes
  country := "CN"
  generation := 1
  revision := 1
  configId := .replicate 16 0
  nonce := .replicate 16 7
  hash := sampleHash

theorem sampleDocument_parsed :
    RegulatoryDocument.parse (fun _ => sampleHash) sampleBytes "A" (.replicate 16 7) =
      .ok sampleDocument := by
  decide +kernel

def sampleMaterial : ProvisioningMaterial where
  apiEndpoint := [1]
  deviceToken := []
  credentialEnvelope := some (TOKEN_MAGIC ++ List.replicate 222 5)
  mtu := 185

def sampleStart : WorkflowEngine ProvisioningWorkflow × Outcome (List EffectRequest) :=
  WorkflowEngine.start {} (⟨⟨"EVFXXW67KP"⟩, ⟨"material-1"⟩⟩ : ProvisionCommand)
    [.ble, .timer, .persistence, .hostMaterial] ⟨.replicate 16 9⟩

/-- The result comes before the callback of the last chunk, request 11. -/
def sampleEvents : List Event :=
  [.host ⟨2, .ble (.readCompleted (.replicate 16 7))⟩,
    .host ⟨5, .ble (.readCompleted (.replicate 64 8))⟩,
    .host ⟨6, .provisioningMaterialPrepared sampleMaterial⟩,
    .host ⟨7, .ble (.subscribed CHAR_PROVISIONING_RESULT)⟩, .host ⟨8, .ble .writeCompleted⟩,
    .host ⟨9, .ble .writeCompleted⟩,
    .host ⟨7, .ble (.notification CHAR_PROVISIONING_RESULT [0])⟩]

def sampleRun : Trace × WorkflowEngine ProvisioningWorkflow :=
  Machine.exec WorkflowEngine.dispatch [] sampleStart.1 sampleEvents

theorem chunked_writes_sample :
    sampleRun.2.status = .completed .provision ∧ sampleDocument.bytes.length = 232 ∧
    (∀ mtu, Reassembles (¬(23 ≤ mtu ∧ mtu ≤ 517)) TellsCount (min (mtu - 5) 246) sampleBytes
      (sampleDocument.fragments mtu)) ∧
    Sent sampleStart.2.effects sampleRun.1 ∧ ∃ entry ∈ sampleRun.1, Reports entry := by
  have hstatus : sampleRun.2.status = .completed .provision := by decide +kernel
  have hstart : Started sampleStart.2.effects sampleStart.1 :=
    ⟨{}, ⟨⟨"EVFXXW67KP"⟩, ⟨"material-1"⟩⟩, [.ble, .timer, .persistence, .hostMaterial],
      ⟨.replicate 16 9⟩, rfl⟩
  have hrun : EngineRun (fun _ _ _ => True) sampleStart.1 sampleRun.1 sampleRun.2 :=
    Machine.Run.exec (Machine.allowed_true [] sampleStart.1 sampleEvents)
  obtain ⟨-, -, hfragments, hsent, -, hreports⟩ :=
    chunked_writes sampleDocument_parsed hstart hrun
  exact ⟨hstatus, rfl, hfragments, hsent, hreports hstatus⟩

/-- An encoder can also refuse a payload that its header could express: of no byte at a bound that
leaves no room, of the wrong kind, or in a bound that is out of range. -/
theorem chunked_writes_counterexample :
    (∃ error, encodeProvisioningChunks [] 7 = .error error) ∧
    (∃ error, wifiProvisioningGrantChunks [] 20 = .error error) ∧
    (∃ error, sampleDocument.fragments 22 = .error error) ∧
    ¬∀ payload mtu, (∃ error, encodeProvisioningChunks payload mtu = .error error) ↔
      255 * (mtu - 7) < payload.length := by
  refine ⟨⟨_, rfl⟩, ⟨_, rfl⟩, ⟨_, rfl⟩, fun h => ?_⟩
  exact absurd ((h [] 7).mp ⟨_, rfl⟩) (by decide)

end ProvisioningWorkflow

end BotaSdk
