import BotaSdk.Workflow.ConnectionSteps

/-!
# Whose serial number was read

The evidence for an identity is a chain of observations: a connection is requested and made, asked
for its serial number and answers it, and nothing in between opens or closes a connection.  `Chain`
says how much of this evidence each phase holds.
-/

namespace BotaSdk

open Connection History Protocol

namespace ConnectionWorkflow

/-! ## The evidence -/

/-- What opens or closes a connection.  An event that the engine rejects belongs to none. -/
inductive Breaks : Observation → Prop
  | connect (id : RequestId) (peripheralId : String) :
      Breaks (.issued id (.ble (.connect peripheralId)))
  | disconnect (id : RequestId) (peripheralId : String) :
      Breaks (.issued id (.ble (.disconnect peripheralId)))
  | disconnected (id : RequestId) (peripheralId : String) (reasonCode : Option Nat) :
      Breaks (.accepted ⟨id, .ble (.disconnected peripheralId reasonCode)⟩)
  | failed (id : RequestId) (platformCode : Option Int) :
      Breaks (.accepted ⟨id, .ble (.failed platformCode)⟩)

/-- The current attempt is request `id`, to this peripheral. -/
def Attempted (peripheralId : String) (id : RequestId) : List Observation → Prop :=
  After Breaks (fun _ => True) (.issued id (.ble (.connect peripheralId)))

/-- The current attempt has connected this peripheral. -/
def Connected (peripheralId : String) (observations : List Observation) : Prop :=
  ∃ id, After Breaks (Attempted peripheralId id)
    (.accepted ⟨id, .ble (.connected peripheralId)⟩) observations

/-- The connection is asked for its serial number as request `id`. -/
def Reading (peripheralId : String) (id : RequestId) : List Observation → Prop :=
  After Breaks (Connected peripheralId) (.issued id readSerialEffect)

/-- The connection has answered with this serial number. -/
def SerialRead (peripheralId : String) (device : DeviceSerialNumber)
    (observations : List Observation) : Prop :=
  ∃ id value, parseSerial value = .ok device ∧
    After Breaks (Reading peripheralId id) (.accepted ⟨id, .ble (.readCompleted value)⟩)
      observations

/-- The candidate was given with the command or reported by the scan. -/
def Offered (commanded : Option DeviceCandidate) (candidate : DeviceCandidate)
    (observations : List Observation) : Prop :=
  commanded = some candidate ∨
    ∃ id, .accepted ⟨id, .ble (.scanResult candidate)⟩ ∈ observations

/-- The identity that an effect stores or reports, and whom it credits. -/
def identityOf : Effect → Option (DeviceSerialNumber × DeviceCandidate)
  | .persistence (.saveConnectionIdentity device candidate)
  | .notify (.connectionEstablished device candidate _) => some (device, candidate)
  | _ => none

/-- An identity is credited only to a candidate whose connection answered with it, and only if it is
the commanded one. -/
def Credited (commanded : Option DeviceCandidate) (expected : Option DeviceSerialNumber)
    (observations : List Observation) (effect : Effect) : Prop :=
  ∀ device candidate, identityOf effect = some (device, candidate) →
    SerialRead candidate.peripheralId device observations ∧
      Offered commanded candidate observations ∧
      ∀ commandedDevice, expected = some commandedDevice → commandedDevice = device

/-! ## Requests between the links -/

section Requests

variable {effects front back : List EffectRequest} {n id : RequestId} {effect other : Effect}

theorem main_of_breaks (h : Breaks (.issued id effect)) : Main effect := by
  cases h with
  | connect => trivial
  | disconnect => trivial

theorem quiet_of_mains (h : mains effects = []) : Quiet Breaks (issuedBy effects) := by
  intro observation hmem hbreaks
  obtain ⟨request, hrequest, rfl⟩ := List.mem_map.mp hmem
  have hin : (request.requestId, request.effect) ∈ mains effects :=
    List.mem_filter.mpr ⟨List.mem_map_of_mem hrequest, decide_eq_true (main_of_breaks hbreaks)⟩
  rw [h] at hin
  exact absurd hin List.not_mem_nil

theorem quiet_step {event : HostEvent} (hevent : ¬Breaks (.accepted event))
    (h : mains effects = []) : Quiet Breaks (.accepted event :: issuedBy effects) :=
  .cons hevent (quiet_of_mains h)

theorem mains_cons (request : EffectRequest) :
    mains (request :: back) =
      (if Main request.effect then [(request.requestId, request.effect)] else []) ++ mains back := by
  rw [mains, issues, List.map_cons, List.filter_cons]
  by_cases h : Main request.effect
  · simp only [h, decide_true, if_true]
    rfl
  · simp only [h, decide_false, if_false]
    rfl

/-- The place of the only main request. -/
theorem issuedBy_main (h : mains effects = [(n, effect)]) :
    ∃ front back, issuedBy effects = issuedBy front ++ .issued n effect :: issuedBy back ∧
      mains front = [] ∧ mains back = [] := by
  induction effects with
  | nil => exact nomatch h
  | cons request effects ih =>
    rw [mains_cons] at h
    by_cases hmain : Main request.effect
    · rw [if_pos hmain, List.singleton_append, List.cons.injEq, Prod.mk.injEq] at h
      obtain ⟨⟨rfl, rfl⟩, hback⟩ := h
      exact ⟨[], effects, rfl, rfl, hback⟩
    · rw [if_neg hmain, List.nil_append] at h
      obtain ⟨front, back, hsplit, hfront, hback⟩ := ih h
      refine ⟨request :: front, back, ?_, ?_, hback⟩
      · show Observation.issued _ _ :: issuedBy effects = _
        rw [hsplit]
        rfl
      · rw [mains_cons, if_neg hmain, hfront]
        rfl

/-- A main request among others comes after main requests alone. -/
theorem mains_before {before after : List Observation}
    (h : issuedBy effects = before ++ .issued id effect :: after) (hmain : Main effect) :
    ∃ front back, issuedBy front = before ∧
      mains effects = mains front ++ (id, effect) :: mains back := by
  obtain ⟨front, rest, rfl, hfront, hrest⟩ := List.map_eq_append_iff.mp h
  obtain ⟨request, back, rfl, hrequest, -⟩ := List.map_eq_cons_iff.mp hrest
  obtain ⟨rfl, rfl⟩ := Observation.issued.inj hrequest
  refine ⟨front, back, hfront, ?_⟩
  rw [mains_append, mains_cons, if_pos hmain]
  rfl

end Requests

/-! ## Chains -/

/-- How much of the evidence the phase holds. -/
def Chain (observations : List Observation) (w : ConnectionWorkflow) : Prop :=
  match w.phase with
  | .connecting => ∀ candidate id, w.activeCandidate = some candidate →
      w.connectRequestId = some id → Attempted candidate.peripheralId id observations
  | .discovering => ∀ candidate, w.activeCandidate = some candidate →
      Connected candidate.peripheralId observations
  | .readingSerial => ∀ candidate id, w.activeCandidate = some candidate →
      w.readRequestId = some id → Reading candidate.peripheralId id observations
  | .persisting | .completed => ∀ candidate device, w.activeCandidate = some candidate →
      w.device = some device → SerialRead candidate.peripheralId device observations
  | _ => True

section Chains

variable {w : ConnectionWorkflow} {context : WorkflowContext} {call call' : Call}
  {observations more : List Observation} {effects : List EffectRequest} {event : HostEvent}
  {candidate : DeviceCandidate} {device : DeviceSerialNumber}

theorem Connected.append {peripheralId : String} (h : Connected peripheralId observations)
    (hmore : Quiet Breaks more) : Connected peripheralId (observations ++ more) := by
  obtain ⟨id, hafter⟩ := h
  exact ⟨id, hafter.append hmore⟩

theorem SerialRead.append {peripheralId : String} (h : SerialRead peripheralId device observations)
    (hmore : Quiet Breaks more) : SerialRead peripheralId device (observations ++ more) := by
  obtain ⟨id, value, hparse, hafter⟩ := h
  exact ⟨id, value, hparse, hafter.append hmore⟩

theorem Chain.append (h : Chain observations w) (hmore : Quiet Breaks more) :
    Chain (observations ++ more) w := by
  unfold Chain at h ⊢
  cases hphase : w.phase
  all_goals rw [hphase] at h
  case connecting => exact fun candidate id hactive hid => (h candidate id hactive hid).append hmore
  case discovering => exact fun candidate hactive => (h candidate hactive).append hmore
  case readingSerial =>
    exact fun candidate id hactive hid => (h candidate id hactive hid).append hmore
  case persisting =>
    exact fun candidate device hactive hdevice => (h candidate device hactive hdevice).append hmore
  case completed =>
    exact fun candidate device hactive hdevice => (h candidate device hactive hdevice).append hmore
  all_goals trivial

/-- The phases that hold no evidence. -/
def Unlinked : Connection.Phase → Prop
  | .connecting | .discovering | .readingSerial | .persisting | .completed => False
  | _ => True

theorem Chain.unlinked (h : Unlinked w.phase) : Chain observations w := by
  unfold Chain
  cases hphase : w.phase <;> first | trivial | (rw [hphase] at h; exact h.elim)

/-- A fresh attempt. -/
theorem chain_beginConnection
    (h : mains effects = mains (beginConnection candidate true call).effects)
    (hcall : mains call.effects = []) :
    Chain (observations ++ issuedBy effects) (beginConnection candidate true call).workflow := by
  rw [beginConnection_mains, hcall, List.nil_append] at h
  obtain ⟨front, back, hsplit, -, hback⟩ := issuedBy_main h
  obtain ⟨ids, heq⟩ := beginConnection_workflow call candidate true
  rw [heq]
  intro candidate id hactive hid
  obtain rfl := Option.some.inj hactive
  obtain rfl := Option.some.inj hid
  rw [hsplit, ← List.append_assoc]
  exact After.next trivial (quiet_of_mains hback)

theorem Probes.chain (hprobes : Probes call call') (h : mains effects = mains call'.effects)
    (hcall : mains call.effects = []) :
    Chain (observations ++ issuedBy effects) call'.workflow := by
  cases hprobes with
  | connection => exact chain_beginConnection h hcall
  | exhausted error =>
    refine .unlinked ?_
    rw [fail_workflow]
    trivial

theorem unlinked_fail (error : DeviceSdkError) : Unlinked (fail error call).workflow.phase := by
  rw [fail_workflow]
  trivial

theorem unlinked_stopScan : Unlinked (stopScan call).workflow.phase := by
  obtain ⟨ids, heq⟩ := stopScan_workflow call
  rw [heq]
  trivial

theorem Chain.serialRead {id : RequestId} {value : List UInt8} (h : Chain observations w)
    (hphase : w.phase = .readingSerial) (hid : w.readRequestId = some id)
    (hparse : parseSerial value = .ok device) (hactive : w.activeCandidate = some candidate)
    (hmore : Quiet Breaks more) :
    SerialRead candidate.peripheralId device
      (observations ++ .accepted ⟨id, .ble (.readCompleted value)⟩ :: more) := by
  rw [Chain, hphase] at h
  exact ⟨id, value, hparse, .next (h candidate id hactive hid) hmore⟩

/-- A connection completes with the candidate whose identity it saved. -/
theorem Transition.completes (h : Transition w context event call) (hw : Formed w)
    (hphase : call.workflow.phase = .completed) :
    ∃ candidate, call.workflow.activeCandidate = some candidate := by
  have hprobes {before : Call} (hprobes : Probes before call) : False := by
    cases hprobes with
    | @connection candidate =>
      obtain ⟨ids, heq⟩ := beginConnection_workflow before candidate true
      rw [heq] at hphase
      cases hphase
    | exhausted error =>
      rw [fail_workflow] at hphase
      cases hphase
  cases h with
  | saved _ _ hactive => exact ⟨_, hactive⟩
  | disconnectFails | connectFails =>
    rw [fail_workflow] at hphase
    cases hphase
  | scanEnded _ _ _ hnext | probesNext _ _ _ _ hnext | connectRetried _ _ _ hnext =>
    exact (hprobes hnext).elim
  | recorded =>
    rw [Step.begin_workflow, recordCandidate] at hphase
    split at hphase <;> exact absurd hphase hw.running.1
  | selected | scanTimedOut =>
    have hunlinked := hphase ▸ unlinked_stopScan
    exact hunlinked.elim
  | @scanStopped id candidate =>
    obtain ⟨ids, heq⟩ := beginConnection_workflow (.begin { w with
      scanRequestId := none, scanTimerRequestId := none, scanTimerId := none
      stopScanRequestId := none } context) candidate true
    rw [heq] at hphase
    cases hphase
  | connected =>
    rw [ConnectionWorkflow.connected, pushCheckpoint_workflow] at hphase
    cases hphase
  | discovered => cases hphase
  | verified _ _ _ _ _ hpersists =>
    obtain ⟨ids, heq⟩ := hpersists.workflow
    rw [heq] at hphase
    cases hphase
  | dropped _ _ _ _ _ hdrops =>
    obtain ⟨ids, heq⟩ := hdrops.workflow
    rw [heq] at hphase
    cases hphase
  | checkpointSaved | lateScanResult | lateScanTimer | late => exact absurd hphase hw.running.1

/-- A step keeps the chain, whichever of its other requests the host is handed. -/
theorem Transition.chain (h : Transition w context event call) (hchain : Chain observations w)
    (heffects : mains effects = mains call.effects) :
    Chain (observations ++ .accepted event :: issuedBy effects) call.workflow := by
  -- from the connect to the identity a step extends the chain; the other phases have none
  cases h with
  | @checkpointSaved id =>
    exact hchain.append (@quiet_step _ ⟨id, .checkpointSaved⟩ (by rintro ⟨⟩) heffects)
  | recorded hphase =>
    refine .unlinked ?_
    rw [Step.begin_workflow, recordCandidate]
    split <;> rw [hphase] <;> trivial
  | selected => exact .unlinked unlinked_stopScan
  | scanTimedOut => exact .unlinked unlinked_stopScan
  | lateScanResult hphase =>
    refine .unlinked ?_
    rw [Step.begin_workflow, hphase]
    trivial
  | lateScanTimer hphase =>
    refine .unlinked ?_
    rw [Step.begin_workflow, hphase]
    trivial
  | scanStopped =>
    rw [List.append_cons]
    exact chain_beginConnection heffects rfl
  | scanEnded _ _ _ hprobes =>
    rw [List.append_cons]
    exact hprobes.chain heffects rfl
  | @connected id candidate hphase hid hactive =>
    have hquiet : mains effects = [] := by
      rw [heffects, ConnectionWorkflow.connected, pushCheckpoint_mains, mains_request]
      rfl
    rw [Chain, hphase] at hchain
    rw [ConnectionWorkflow.connected, pushCheckpoint_workflow]
    intro other hother
    obtain rfl := Option.some.inj (hactive.symm.trans hother)
    exact ⟨id, .next (hchain candidate id hactive hid) (quiet_of_mains hquiet)⟩
  | @discovered id candidate hphase hid hactive =>
    obtain ⟨front, back, hsplit, hfront, hback⟩ := issuedBy_main (heffects.trans (mains_request _ _ _))
    rw [Chain, hphase] at hchain
    have hconnected := (hchain candidate hactive).append
      (@quiet_step _ ⟨id, .ble (.servicesDiscovered candidate.peripheralId)⟩ (by rintro ⟨⟩) hfront)
    intro other n hother hn
    obtain rfl := Option.some.inj (hactive.symm.trans hother)
    obtain rfl := Option.some.inj hn
    rw [hsplit, ← List.cons_append, ← List.append_assoc]
    exact After.next hconnected (quiet_of_mains hback)
  | @verified id value device candidate call hphase hid hparse _ hactive hpersists =>
    rw [hpersists.mains] at heffects
    obtain ⟨front, back, hsplit, hfront, hback⟩ := issuedBy_main heffects
    have hquiet : Quiet Breaks (issuedBy effects) := by
      rw [hsplit]
      exact (quiet_of_mains hfront).append (.cons (by rintro ⟨⟩) (quiet_of_mains hback))
    obtain ⟨ids, heq⟩ := hpersists.workflow
    rw [heq]
    intro other verified hother hverified
    obtain rfl := Option.some.inj (hactive.symm.trans hother)
    obtain rfl := Option.some.inj hverified
    exact hchain.serialRead hphase hid hparse hactive hquiet
  | dropped _ _ _ _ _ hdrops =>
    obtain ⟨ids, heq⟩ := hdrops.workflow
    refine .unlinked ?_
    rw [heq]
    trivial
  | late hphase =>
    refine .unlinked ?_
    rw [Step.begin_workflow]
    rw [hphase]
    trivial
  | probesNext _ _ _ _ hprobes =>
    rw [List.append_cons]
    exact hprobes.chain heffects rfl
  | disconnectFails => exact .unlinked (unlinked_fail _)
  | @saved id candidate device hphase hid hactive hdevice =>
    have hissued : mains effects = [(context.advance.nextRequestId,
        .notify (.connectionEstablished device candidate w.mode))] := by
      rw [heffects, mains_request, mains_request, mains_request]
      rfl
    obtain ⟨front, back, hsplit, hfront, hback⟩ := issuedBy_main hissued
    have hquiet : Quiet Breaks (.accepted ⟨id, .connectionIdentitySaved⟩ :: issuedBy effects) := by
      rw [hsplit]
      exact .cons (by rintro ⟨⟩) ((quiet_of_mains hfront).append (.cons (by rintro ⟨⟩) (quiet_of_mains hback)))
    rw [Chain, hphase] at hchain
    intro other verified hother hverified
    exact (hchain other verified hother hverified).append hquiet
  | connectRetried _ _ _ hprobes =>
    rw [List.append_cons]
    exact hprobes.chain heffects (cancelAttemptTimer_mains _)
  | connectFails => exact .unlinked (unlinked_fail _)

/-- Where the candidates of a workflow come from. -/
structure Sourced (commanded : Option DeviceCandidate) (observations : List Observation)
    (w : ConnectionWorkflow) : Prop where
  active : ∀ candidate, w.activeCandidate = some candidate →
    Offered commanded candidate observations
  discovered : ∀ candidate ∈ w.discovered, Offered commanded candidate observations
  probes : ∀ candidate ∈ w.probeCandidates, Offered commanded candidate observations

theorem Offered.append {commanded : Option DeviceCandidate}
    (h : Offered commanded candidate observations) (more : List Observation) :
    Offered commanded candidate (observations ++ more) := by
  rcases h with h | ⟨id, hmem⟩
  · exact .inl h
  · exact .inr ⟨id, List.mem_append_left _ hmem⟩

theorem Sourced.append {commanded : Option DeviceCandidate}
    (h : Sourced commanded observations w) (more : List Observation) :
    Sourced commanded (observations ++ more) w where
  active candidate hactive := (h.active candidate hactive).append more
  discovered candidate hmem := (h.discovered candidate hmem).append more
  probes candidate hmem := (h.probes candidate hmem).append more

theorem recordCandidate_mem {other : DeviceCandidate}
    (h : other ∈ (recordCandidate candidate w).discovered) :
    other ∈ w.discovered ∨ other = candidate := by
  rw [recordCandidate] at h
  split at h
  · exact List.mem_or_eq_of_mem_set h
  · rcases List.mem_append.mp h with h | h
    · exact .inl h
    · exact .inr (List.mem_singleton.mp h)

variable {commanded : Option DeviceCandidate}

theorem Sourced.recorded {id : RequestId} (h : Sourced commanded observations w) :
    Sourced commanded
      (observations ++ .accepted ⟨id, .ble (.scanResult candidate)⟩ :: issuedBy effects)
      (recordCandidate candidate w) := by
  have hmore := h.append (.accepted ⟨id, .ble (.scanResult candidate)⟩ :: issuedBy effects)
  refine ⟨?_, fun other hmem => ?_, ?_⟩
  · rw [recordCandidate]
    split <;> exact hmore.active
  · rcases recordCandidate_mem hmem with hmem | rfl
    · exact hmore.discovered other hmem
    · exact .inr ⟨id, List.mem_append_right _ List.mem_cons_self⟩
  · rw [recordCandidate]
    split <;> exact hmore.probes

theorem Sourced.beginConnection {verifySerial : Bool} (h : Sourced commanded observations call.workflow)
    (hcandidate : Offered commanded candidate observations) :
    Sourced commanded observations
      (ConnectionWorkflow.beginConnection candidate verifySerial call).workflow := by
  obtain ⟨ids, heq⟩ := beginConnection_workflow call candidate verifySerial
  rw [heq]
  refine ⟨fun other hother => ?_, h.discovered, h.probes⟩
  obtain rfl := Option.some.inj hother
  exact hcandidate

theorem Sourced.probes_next (h : Sourced commanded observations call.workflow)
    (hprobes : Probes call call') : Sourced commanded observations call'.workflow := by
  cases hprobes with
  | connection hnext => exact h.beginConnection (h.probes _ (List.mem_of_getElem? hnext))
  | exhausted error =>
    rw [fail_workflow]
    exact { h with }

theorem Sourced.prepared (h : Sourced commanded observations w) :
    Sourced commanded observations (prepareProbeCandidates w) :=
  ⟨h.active, h.discovered, fun candidate hmem =>
    h.discovered candidate (prepareProbeCandidates_mem hmem)⟩

theorem Transition.sourced (h : Transition w context event call)
    (hsourced : Sourced commanded observations w) :
    Sourced commanded (observations ++ .accepted event :: issuedBy effects) call.workflow := by
  have hmore := hsourced.append (.accepted event :: issuedBy effects)
  -- a candidate is reported by the scan or commanded, and no step makes another
  cases h with
  | checkpointSaved => exact { hmore with }
  | recorded => exact hsourced.recorded
  | @selected id candidate =>
    have hrecorded := @Sourced.recorded w _ effects candidate commanded id hsourced
    obtain ⟨ids, heq⟩ := stopScan_workflow (.begin { recordCandidate candidate w with
      activeCandidate := some candidate, verifySerial := true } context)
    rw [heq]
    refine ⟨fun other hother => ?_, hrecorded.discovered, hrecorded.probes⟩
    obtain rfl := Option.some.inj hother
    exact .inr ⟨id, List.mem_append_right _ List.mem_cons_self⟩
  | scanTimedOut =>
    obtain ⟨ids, heq⟩ := stopScan_workflow (.begin w context)
    rw [heq]
    exact { hmore with }
  | lateScanResult => exact hmore
  | lateScanTimer => exact hmore
  | scanStopped _ _ hactive => exact .beginConnection { hmore with } (hmore.active _ hactive)
  | scanEnded _ _ _ hprobes =>
    refine .probes_next (Sourced.prepared ?_) hprobes
    exact { hmore with }
  | connected =>
    rw [ConnectionWorkflow.connected, pushCheckpoint_workflow]
    exact { hmore with }
  | discovered => exact { hmore with }
  | verified _ _ _ _ _ hpersists =>
    obtain ⟨ids, heq⟩ := hpersists.workflow
    rw [heq]
    exact { hmore with }
  | dropped _ _ _ _ _ hdrops =>
    obtain ⟨ids, heq⟩ := hdrops.workflow
    rw [heq]
    exact { hmore with }
  | late => exact { hmore with }
  | probesNext _ _ _ hprobed hprobes =>
    refine .probes_next ⟨hmore.active, hmore.discovered, fun candidate hmem => ?_⟩ hprobes
    rcases hprobed candidate hmem with hmem | hmem
    · exact hmore.probes candidate hmem
    · exact hmore.discovered candidate hmem
  | disconnectFails =>
    rw [fail_workflow]
    exact { hmore with }
  | saved => exact { hmore with }
  | connectRetried _ _ _ hprobes =>
    refine .probes_next ?_ hprobes
    rw [Step.update_workflow, cancelAttemptTimer_workflow]
    have hcancelled : Sourced commanded _ { w with
        connectRequestId := none, attemptTimerRequestId := none, attemptTimerId := none } :=
      { hmore with }
    exact { hcancelled.prepared with }
  | connectFails =>
    rw [fail_workflow]
    exact { hmore with }

/-- The commanded device, if there is one, is the workflow's. -/
def Agrees (expected : Option DeviceSerialNumber) (w : ConnectionWorkflow) : Prop :=
  ∀ device, expected = some device → w.device = some device

theorem Probes.device_eq (hprobes : Probes call call') :
    call'.workflow.device = call.workflow.device := by
  cases hprobes with
  | @connection candidate =>
    obtain ⟨ids, heq⟩ := beginConnection_workflow call candidate true
    rw [heq]
  | exhausted error => rw [fail_workflow]

theorem recordCandidate_device : (recordCandidate candidate w).device = w.device := by
  rw [recordCandidate]
  split <;> rfl

/-- A device is known from the start or becomes known by being read. -/
theorem Transition.device_known (h : Transition w context event call) :
    call.workflow.device = w.device ∨ w.device = none := by
  cases h with
  | checkpointSaved => exact .inl rfl
  | recorded => exact .inl recordCandidate_device
  | @selected id candidate =>
    obtain ⟨ids, heq⟩ := stopScan_workflow (.begin { recordCandidate candidate w with
      activeCandidate := some candidate, verifySerial := true } context)
    rw [heq]
    exact .inl recordCandidate_device
  | scanTimedOut =>
    obtain ⟨ids, heq⟩ := stopScan_workflow (.begin w context)
    rw [heq]
    exact .inl rfl
  | lateScanResult => exact .inl rfl
  | lateScanTimer => exact .inl rfl
  | @scanStopped id candidate =>
    obtain ⟨ids, heq⟩ := beginConnection_workflow (.begin { w with
      scanRequestId := none, scanTimerRequestId := none, scanTimerId := none
      stopScanRequestId := none } context) candidate true
    rw [heq]
    exact .inl rfl
  | scanEnded _ _ _ hprobes => exact .inl hprobes.device_eq
  | connected =>
    rw [ConnectionWorkflow.connected, pushCheckpoint_workflow]
    exact .inl rfl
  | discovered => exact .inl rfl
  | @verified id value device _ _ _ _ _ hexpected _ hpersists =>
    obtain ⟨ids, heq⟩ := hpersists.workflow
    rw [heq]
    cases hdevice : w.device with
    | none => exact .inr rfl
    | some expected =>
      obtain rfl := hexpected expected hdevice
      exact .inl rfl
  | dropped _ _ _ _ _ hdrops =>
    obtain ⟨ids, heq⟩ := hdrops.workflow
    rw [heq]
    exact .inl rfl
  | late => exact .inl rfl
  | probesNext _ _ _ _ hprobes => exact .inl hprobes.device_eq
  | disconnectFails =>
    rw [fail_workflow]
    exact .inl rfl
  | saved => exact .inl rfl
  | connectRetried _ _ _ hprobes =>
    rw [hprobes.device_eq, Step.update_workflow, cancelAttemptTimer_workflow]
    exact .inl rfl
  | connectFails =>
    rw [fail_workflow]
    exact .inl rfl

theorem Transition.agrees {expected : Option DeviceSerialNumber} (h : Transition w context event call)
    (hagrees : Agrees expected w) : Agrees expected call.workflow := by
  intro device hexpected
  have hdevice := hagrees device hexpected
  rcases h.device_known with heq | hnone
  · exact heq.trans hdevice
  · exact nomatch hnone.symm.trans hdevice

/-- A step that credits an identity verifies it or reports it as saved. -/
inductive Credits (w : ConnectionWorkflow) (device : DeviceSerialNumber)
    (candidate : DeviceCandidate) : HostEvent → List (RequestId × Effect) → Prop
  | verified {id n : RequestId} {value : List UInt8} :
      w.phase = .readingSerial → w.readRequestId = some id → parseSerial value = .ok device →
      (∀ expected, w.device = some expected → expected = device) →
      Credits w device candidate ⟨id, .ble (.readCompleted value)⟩
        [(n, .persistence (.saveConnectionIdentity device candidate))]
  | saved {id n : RequestId} {mode : ConnectionMode} :
      w.phase = .persisting → w.device = some device →
      Credits w device candidate ⟨id, .connectionIdentitySaved⟩
        [(n, .notify (.connectionEstablished device candidate mode))]

theorem Probes.no_identity (hprobes : Probes call call') (hcall : mains call.effects = [])
    {issue : RequestId × Effect} (hissue : issue ∈ mains call'.effects) :
    identityOf issue.2 = none := by
  cases hprobes with
  | connection =>
    rw [beginConnection_mains, hcall, List.nil_append] at hissue
    rw [List.mem_singleton.mp hissue]
    rfl
  | exhausted error =>
    rw [fail_mains, hcall] at hissue
    exact absurd hissue List.not_mem_nil

theorem Transition.credits (h : Transition w context event call) {issue : RequestId × Effect}
    (hissue : issue ∈ mains call.effects) (hidentity : identityOf issue.2 = some (device, candidate)) :
    w.activeCandidate = some candidate ∧ Credits w device candidate event (mains call.effects) := by
  have hnot (hnone : identityOf issue.2 = none) : False := nomatch hnone.symm.trans hidentity
  -- only the two steps that verify and save name an identity
  cases h with
  | selected =>
    rw [stopScan_mains] at hissue
    exact absurd hissue List.not_mem_nil
  | scanTimedOut =>
    rw [stopScan_mains] at hissue
    exact absurd hissue List.not_mem_nil
  | scanStopped =>
    rw [beginConnection_mains] at hissue
    refine (hnot ?_).elim
    rw [List.mem_singleton.mp hissue]
    rfl
  | scanEnded _ _ _ hprobes => exact (hnot (hprobes.no_identity rfl hissue)).elim
  | connected =>
    rw [ConnectionWorkflow.connected, pushCheckpoint_mains, mains_request] at hissue
    exact absurd hissue List.not_mem_nil
  | discovered =>
    rw [mains_request] at hissue
    refine (hnot ?_).elim
    rw [List.mem_singleton.mp hissue]
    rfl
  | verified hphase hid hparse hexpected hactive hpersists =>
    have hmains := hpersists.mains
    rw [Step.begin_effects, mains_nil, List.nil_append] at hmains
    rw [hmains] at hissue ⊢
    rw [List.mem_singleton.mp hissue] at hidentity
    obtain ⟨rfl, rfl⟩ := Prod.mk.inj (Option.some.inj hidentity)
    exact ⟨hactive, .verified hphase hid hparse hexpected⟩
  | dropped _ _ _ _ _ hdrops =>
    rw [hdrops.mains] at hissue
    refine (hnot ?_).elim
    rw [List.mem_singleton.mp hissue]
    rfl
  | probesNext _ _ _ _ hprobes => exact (hnot (hprobes.no_identity rfl hissue)).elim
  | disconnectFails =>
    rw [fail_mains] at hissue
    exact absurd hissue List.not_mem_nil
  | @saved id other verified hphase hid hactive hdevice =>
    have hmains : mains ((((Step.begin { w with persistRequestId := none, phase := .completed }
        context).request (.persistence .deleteCheckpoint)).request
        (.notify (.connectionEstablished verified other w.mode))).request
        (.notify (.completed w.operation))).effects = [(context.advance.nextRequestId,
          .notify (.connectionEstablished verified other w.mode))] := by
      rw [mains_request, mains_request, mains_request]
      rfl
    rw [hmains] at hissue ⊢
    rw [List.mem_singleton.mp hissue] at hidentity
    obtain ⟨rfl, rfl⟩ := Prod.mk.inj (Option.some.inj hidentity)
    exact ⟨hactive, .saved hphase hdevice⟩
  | connectRetried _ _ _ hprobes =>
    exact (hnot (hprobes.no_identity (cancelAttemptTimer_mains _) hissue)).elim
  | connectFails =>
    rw [fail_mains] at hissue
    exact absurd hissue List.not_mem_nil
  | _ => exact absurd hissue List.not_mem_nil

/-- A step credits an identity for a reason. -/
theorem Transition.credited {expected : Option DeviceSerialNumber} {before after : List Observation}
    {id : RequestId} {effect : Effect} (h : Transition w context event call)
    (hchain : Chain observations w) (hsourced : Sourced commanded observations w)
    (hagrees : Agrees expected w) (heffects : mains effects = mains call.effects)
    (hsplit : issuedBy effects = before ++ .issued id effect :: after) :
    Credited commanded expected (observations ++ .accepted event :: before) effect := by
  intro device candidate hidentity
  have hmain : Main effect := by
    unfold identityOf at hidentity
    split at hidentity <;> trivial
  obtain ⟨front, back, rfl, hmains⟩ := mains_before hsplit hmain
  have hissue : (id, effect) ∈ mains call.effects := by
    rw [← heffects, hmains]
    exact List.mem_append_right _ List.mem_cons_self
  obtain ⟨hactive, hcredits⟩ := h.credits hissue hidentity
  rw [heffects] at hmains
  -- the credit is the step's only main request
  have hfront (only : RequestId × Effect) (honly : mains call.effects = [only]) :
      mains front = [] := by
    rw [honly] at hmains
    cases hmainsFront : mains front with
    | nil => rfl
    | cons first rest =>
      rw [hmainsFront, List.cons_append, List.cons.injEq] at hmains
      exact absurd hmains.2.symm (List.append_ne_nil_of_right_ne_nil rest (List.cons_ne_nil _ _))
  have hoffered := (hsourced.active candidate hactive).append (.accepted event :: issuedBy front)
  generalize honly : mains call.effects = issues at hcredits
  cases hcredits with
  | verified hphase hid hparse hexpected =>
    refine ⟨hchain.serialRead hphase hid hparse hactive (quiet_of_mains (hfront _ honly)), hoffered,
      fun commandedDevice hcommanded => hexpected _ (hagrees _ hcommanded)⟩
  | saved hphase hdevice =>
    rw [Chain, hphase] at hchain
    refine ⟨(hchain candidate device hactive hdevice).append (quiet_step nofun
      (hfront _ honly)), hoffered, fun commandedDevice hcommanded => ?_⟩
    exact Option.some.inj ((hagrees _ hcommanded).symm.trans hdevice)

end Chains

/-! ## Runs -/

section Runs

variable {command : ConnectionCommand} {started effects : List EffectRequest}
  {observations : List Observation} {trace : List (EngineEntry ConnectionWorkflow)}
  {engine₀ engine : WorkflowEngine ConnectionWorkflow} {w : ConnectionWorkflow}
  {context : WorkflowContext} {commanded : Option DeviceCandidate}
  {expected : Option DeviceSerialNumber}

/-- The candidate that a command names. -/
def commandedCandidate : ConnectionCommand → Option DeviceCandidate
  | .connect _ candidate | .connectSelected candidate => some candidate
  | .reconnect _ _ => none

/-- The device that a command names. -/
def commandedDevice : ConnectionCommand → Option DeviceSerialNumber
  | .connect device _ | .reconnect device _ => some device
  | .connectSelected _ => none

/-- What a connection keeps while it runs. -/
structure Identified (commanded : Option DeviceCandidate) (expected : Option DeviceSerialNumber)
    (observations : List Observation) (w : ConnectionWorkflow) : Prop where
  formed : Formed w
  chain : Chain observations w
  sourced : Sourced commanded observations w
  agrees : Agrees expected w
  credited : Justified (Credited commanded expected) observations

theorem justified_plain (h : Justified (Credited commanded expected) observations)
    (hplain : ∀ issue ∈ mains effects, identityOf issue.2 = none) :
    Justified (Credited commanded expected) (observations ++ issuedBy effects) := by
  refine h.append fun before id effect after hsplit device candidate hidentity => ?_
  have hmain : Main effect := by
    unfold identityOf at hidentity
    split at hidentity <;> trivial
  obtain ⟨front, back, -, hmains⟩ := mains_before hsplit hmain
  have hissue : (id, effect) ∈ mains effects := by
    rw [hmains]
    exact List.mem_append_right _ List.mem_cons_self
  exact nomatch (hplain _ hissue).symm.trans hidentity

theorem justified_unissued {observation : Observation}
    (h : Justified (Credited commanded expected) observations)
    (hunissued : ∀ id effect, observation ≠ .issued id effect) :
    Justified (Credited commanded expected) (observations ++ [observation]) := by
  refine h.append fun before id effect after hsplit => ?_
  have hmem : Observation.issued id effect ∈ [observation] := by
    rw [hsplit]
    exact List.mem_append_right _ List.mem_cons_self
  exact absurd (List.mem_singleton.mp hmem).symm (hunissued id effect)

theorem Identified.rejected (h : Identified commanded expected observations w) (event : HostEvent) :
    Identified commanded expected (observations ++ [.rejected event]) w where
  formed := h.formed
  chain := h.chain.append (.cons (fun hbreaks => nomatch hbreaks) .nil)
  sourced := h.sourced.append _
  agrees := h.agrees
  credited := justified_unissued h.credited fun _ _ heq => nomatch heq

theorem Transition.justified {event : HostEvent} {call : Call}
    (hstep : Transition w context event call) (h : Identified commanded expected observations w) :
    Justified (Credited commanded expected)
      (observations ++ .accepted event :: issuedBy call.effects) := by
  refine h.credited.append fun before id effect after hsplit => ?_
  cases before with
  | nil => exact nomatch (List.cons.inj hsplit).1
  | cons first before =>
    obtain ⟨rfl, hissued⟩ := List.cons.inj hsplit
    exact hstep.credited h.chain h.sourced h.agrees rfl hissued

theorem Transition.identified {event : HostEvent} {call : Call}
    (hstep : Transition w context event call) (h : Identified commanded expected observations w)
    (hformed : Formed call.workflow) :
    Identified commanded expected (observations ++ .accepted event :: issuedBy call.effects)
      call.workflow where
  formed := hformed
  chain := hstep.chain h.chain rfl
  sourced := hstep.sourced h.sourced
  agrees := hstep.agrees h.agrees
  credited := hstep.justified h

/-- A cancellation credits nobody. -/
theorem cancel_plain (w : ConnectionWorkflow) (context : WorkflowContext) :
    ∃ call : Call, cancel w context = .ok call ∧
      ∀ issue ∈ mains call.effects, identityOf issue.2 = none := by
  have hplain (call : Call) (candidate : Option DeviceCandidate) (hcall : mains call.effects = []) :
      ∀ issue ∈ mains (letGo candidate call).effects, identityOf issue.2 = none := by
    intro issue hissue
    unfold letGo at hissue
    cases candidate with
    | none =>
      rw [hcall] at hissue
      exact absurd hissue List.not_mem_nil
    | some candidate =>
      rw [mains_request, cancelAttemptTimer_mains, hcall] at hissue
      rw [List.mem_singleton.mp hissue]
      rfl
  refine ⟨_, cancel_eq w context, fun issue hissue => ?_⟩
  rw [mains_request, if_neg (show ¬Main (.notify (.cancelled w.operation)) from not_false),
    List.append_nil] at hissue
  refine hplain _ _ ?_ issue hissue
  unfold endScan
  split
  · cases h : w.scanTimerId <;> simp [h, Main]
  · rfl

theorem identified_manual {candidate : DeviceCandidate} {device : Option DeviceSerialNumber}
    {id : CancellationId} (hw : w = { base device .manual id {} with
      activeCandidate := some candidate, verifySerial := true }) :
    ∃ call : Call, ConnectionWorkflow.start w context = .ok call ∧
      Identified (some candidate) device (issuedBy call.effects) call.workflow := by
  have hmains := beginConnection_mains
    ((Step.begin w context).request (.notify (.started w.operation))) candidate true
  have hworkflow := beginConnection_workflow
    ((Step.begin w context).request (.notify (.started w.operation))) candidate true
  subst hw
  refine ⟨_, rfl, ?_, @chain_beginConnection _ [] _ _ rfl rfl, ?_, ?_, ?_⟩
  · exact formed_beginConnection nofun nofun
  · refine Sourced.beginConnection ⟨fun other hother => ?_, nofun, nofun⟩ (.inl rfl)
    exact .inl hother
  · obtain ⟨ids, heq⟩ := hworkflow
    rw [heq]
    exact fun other hother => hother
  · refine justified_plain justified_nil fun issue hissue => ?_
    rw [hmains] at hissue
    rw [List.mem_singleton.mp hissue]
    rfl

theorem identified_reconnect (device : DeviceSerialNumber) (hint : ReconnectHint)
    (id : CancellationId) :
    ∃ call : Call, ConnectionWorkflow.start (reconnect device hint id) context = .ok call ∧
      Identified none (some device) (issuedBy call.effects) call.workflow := by
  refine ⟨_, rfl, formed_reconnect device hint id, .unlinked trivial, ⟨nofun, nofun, nofun⟩,
    fun other hother => hother, ?_⟩
  rw [← List.nil_append (issuedBy _)]
  refine justified_plain justified_nil fun issue hissue => ?_
  rw [beginScan_mains] at hissue
  exact absurd hissue List.not_mem_nil

/-- A connection that a command has just started. -/
def Started (command : ConnectionCommand) (started : List EffectRequest)
    (engine₀ : WorkflowEngine ConnectionWorkflow) : Prop :=
  ∃ (engine : WorkflowEngine ConnectionWorkflow) (capabilities : List Capability)
    (id : CancellationId), engine.start command capabilities id = (engine₀, .ok started)

theorem Started.identified (h : Started command started engine₀) :
    ∃ w, engine₀.active = some w ∧
      Identified (commandedCandidate command) (commandedDevice command) (issuedBy started) w := by
  obtain ⟨engine, capabilities, id, hstart⟩ := h
  obtain ⟨w, hcreate, reduction, hreduction, hactive, -, hout⟩ := start_ok hstart
  have hcall : ∃ call : Call, reduction = .ok call ∧ Identified (commandedCandidate command)
      (commandedDevice command) (issuedBy call.effects) call.workflow := by
    rw [hreduction]
    cases command with
    | connect device candidate =>
      obtain rfl := Except.ok.inj hcreate
      exact identified_manual rfl
    | connectSelected candidate =>
      obtain rfl := Except.ok.inj hcreate
      exact identified_manual rfl
    | reconnect device hint =>
      obtain rfl := Except.ok.inj hcreate
      exact identified_reconnect device hint id
  obtain ⟨call, rfl, hidentified⟩ := hcall
  obtain rfl := Outcome.ok.inj hout
  exact ⟨call.workflow, hactive, hidentified⟩

theorem run_identified (hstart : Started command started engine₀)
    (h : EngineRun (fun _ _ _ => True) engine₀ trace engine) :
    Settled (fun trace w => Identified (commandedCandidate command) (commandedDevice command)
        (observe started trace) w)
      (fun trace => Justified (Credited (commandedCandidate command) (commandedDevice command))
        (observe started trace)) trace engine := by
  refine EngineRun.step_rule ?_ ?_ ?_ ?_ ?_ h
  -- at the start
  · obtain ⟨w, hactive, hidentified⟩ := hstart.identified
    rw [settled_active hactive, observe_nil]
    exact hidentified
  -- an event of the host
  · intro trace engine w event _ _ hinv _
    rcases dispatch_cases hinv.formed event (engine.context w) with ⟨call, hcall, hstep⟩ | hreject
    · refine .inl ⟨call, hcall, ?_⟩
      rw [observe_snoc]
      rcases hstep.keeps hinv.formed with hformed | ⟨status, hended⟩
      · exact .inl ⟨hformed.terminalStatus, hstep.identified hinv hformed⟩
      · exact .inr ⟨status, hended, hstep.justified hinv⟩
    · refine .inr ⟨w, engine.context w, w.unexpected, hreject, ?_⟩
      rw [observe_snoc]
      exact hinv.rejected event
  -- the workflow is cancelled
  · intro trace engine w _ _ hinv _
    obtain ⟨call, hcall, hplain⟩ := cancel_plain w (engine.context w)
    refine ⟨call, hcall, ?_⟩
    rw [observe_snoc]
    exact justified_plain hinv.credited hplain
  -- another workflow's cancellation
  · rintro trace entry w _ ⟨id, hinput, -⟩ _ hquiet hinv
    rw [observe_snoc, observeEntry, hinput, hquiet, issuedBy_nil, List.append_nil]
    exact hinv
  -- after the end
  · intro trace entry _ _ hquiet hjustified
    rw [observe_snoc, observeEntry]
    cases entry.input with
    | host event =>
      unfold delivered
      rw [hquiet, issuedBy_nil]
      refine justified_unissued hjustified fun id effect heq => ?_
      split at heq <;> exact nomatch heq
    | cancelled id =>
      rw [hquiet, issuedBy_nil, List.append_nil]
      exact hjustified

/-- Every identity that a run stores or reports is that of a candidate which was asked for its serial
number on the connection of the current attempt and answered with this one; it is the commanded one,
if the command names a device. -/
theorem identity_credited (hstart : Started command started engine₀)
    (hrun : EngineRun (fun _ _ _ => True) engine₀ trace engine) :
    Justified (Credited (commandedCandidate command) (commandedDevice command))
      (observe started trace) := by
  have hsettled := run_identified hstart hrun
  cases hactive : engine.active with
  | none => exact (settled_ended hactive).mp hsettled
  | some w => exact ((settled_active hactive).mp hsettled).credited

end Runs

def sampleCommand : ConnectionCommand :=
  .reconnect ⟨"EVFXXW67KP"⟩ { storedPeripheralId := some "stored" }

def sampleStart : WorkflowEngine ConnectionWorkflow × Outcome (List EffectRequest) :=
  WorkflowEngine.start {} sampleCommand [.ble, .timer, .persistence] ⟨.replicate 16 9⟩

def sampleCandidate : DeviceCandidate :=
  { peripheralId := "stored", name := none, advertisedAddress := none, rssi := -70 }

/-- The stored peripheral is found, connected and asked for its serial number as request 13. -/
def sampleEvents : List Event :=
  [.host ⟨2, .ble (.scanResult { sampleCandidate with peripheralId := "other" })⟩,
    .host ⟨2, .ble (.scanResult sampleCandidate)⟩, .host ⟨5, .ble .scanStopped⟩,
    .host ⟨8, .ble (.connected "stored")⟩, .host ⟨11, .ble (.servicesDiscovered "stored")⟩,
    .host ⟨13, .ble (.readCompleted "EVFXXW67KP".toUTF8.toList)⟩,
    .host ⟨14, .connectionIdentitySaved⟩]

def sampleTrace : List (EngineEntry ConnectionWorkflow) :=
  (Machine.exec WorkflowEngine.dispatch [] sampleStart.1 sampleEvents).1

theorem identity_credited_sample :
    .issued 18 (.notify (.connectionEstablished ⟨"EVFXXW67KP"⟩ sampleCandidate .reconnect)) ∈
      observe sampleStart.2.effects sampleTrace ∧
    Justified (Credited none (some ⟨"EVFXXW67KP"⟩)) (observe sampleStart.2.effects sampleTrace) := by
  refine ⟨by decide +kernel, ?_⟩
  exact @identity_credited sampleCommand _ _ _ _
    ⟨{}, [.ble, .timer, .persistence], ⟨.replicate 16 9⟩, rfl⟩
    (Machine.Run.exec (Machine.allowed_true [] sampleStart.1 sampleEvents))

end ConnectionWorkflow

end BotaSdk
