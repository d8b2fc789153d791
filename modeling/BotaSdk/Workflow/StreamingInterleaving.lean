import BotaSdk.Lib.Numbered
import BotaSdk.Workflow.StreamingSteps

/-!
# Notifications and sink callbacks of a live transfer, interleaved

The radio pushes notifications whatever the sink is doing.  A live transfer handles them only in
phase `Transferring`; while the START write or a sink callback is outstanding it rejects them.
`readValues` is what the reducer makes of a stream delivered one packet at a time.
-/

namespace BotaSdk

open Protocol Numbered

namespace StreamingTransferWorkflow

/-! ## Streams in order -/

/-- What a subscribed device sends: DATA packets and EOF, or the session header, ENCRYPTED_DATA
packets and ENCRYPTED_EOF; the end may not have been sent yet. -/
inductive LiveStream where
  | plaintext (payloads : List (List UInt8)) (checksum : Option Nat)
  | encrypted (ephemeralPublicKey salt : List UInt8) (chunks : List (List UInt8)) (closed : Bool)

namespace LiveStream

def packets : LiveStream → List TransferPacket
  | .plaintext payloads checksum =>
    payloads.mapIdx (fun i payload => .data (i % 65536) payload) ++
      (checksum.map (.eof (payloads.length % 65536))).toList
  | .encrypted ephemeralPublicKey salt chunks closed =>
    .e2eStart ephemeralPublicKey salt ::
      (chunks.mapIdx (fun i chunk => .encryptedData (i % 65536) chunk) ++
        if closed then [.encryptedEof (chunks.length % 65536)] else [])

/-- The number of DATA or ENCRYPTED_DATA packets. -/
def count : LiveStream → Nat
  | .plaintext payloads _ => payloads.length
  | .encrypted _ _ chunks _ => chunks.length

/-- Every encrypted chunk carries its authentication tag. -/
def WellFormed : LiveStream → Prop
  | .plaintext _ _ => True
  | .encrypted _ _ chunks _ => ∀ chunk ∈ chunks, 16 ≤ chunk.length

end LiveStream

/-- The values put `packets` on the wire. -/
def Encodes (values : List (List UInt8)) (packets : List TransferPacket) : Prop :=
  values.map parseTransferPacket = packets.map .ok

/-! ## Interleavings -/

def notifiedValue? (entry : EngineEntry StreamingTransferWorkflow) : Option (List UInt8) :=
  match entry.input with
  | .host ⟨_, .ble (.notification _ value)⟩ => some value
  | _ => none

/-- The values notified along a run, oldest first. -/
def notifiedValues (trace : List (EngineEntry StreamingTransferWorkflow)) : List (List UInt8) :=
  trace.filterMap notifiedValue?

/-- The callbacks of the subscription, of the START write, and of a sink that accepts everything. -/
inductive HostAnswers (w : StreamingTransferWorkflow) : HostEvent → Prop
  | subscribed {id : RequestId} : w.phase = .subscribing → w.subscriptionRequestId = some id →
      HostAnswers w ⟨id, .ble (.subscribed CHAR_RECORDING_TRANSFER)⟩
  | started {id : RequestId} : w.phase = .starting → w.writeRequestId = some id →
      HostAnswers w ⟨id, .ble .writeCompleted⟩
  | accepted {id : RequestId} : w.phase = .accepting → w.sinkRequestId = some id →
      HostAnswers w ⟨id, .streamingSinkAccepted (saturatingAdd w.completedUnits w.pendingUnits)⟩

/-- The next event is a callback, or the next value of the subscribed device. -/
def Interleaves (values : List (List UInt8)) (trace : List (EngineEntry StreamingTransferWorkflow))
    (engine : WorkflowEngine StreamingTransferWorkflow) (event : Event) : Prop :=
  (∃ w host, engine.active = some w ∧ event = .host host ∧ HostAnswers w host) ∨
  (∃ id value, event = .host ⟨id, .ble (.notification CHAR_RECORDING_TRANSFER value)⟩ ∧
    values[(notifiedValues trace).length]? = some value ∧
    ∀ w, engine.active = some w → w.phase ≠ .subscribing ∧ w.subscriptionRequestId = some id)

/-- A notification delivered while neither the START write nor a sink callback is outstanding. -/
def Idle (entry : EngineEntry StreamingTransferWorkflow) : Prop :=
  ∃ w, entry.pre.active = some w ∧ w.phase = .transferring

/-- Every notification is delivered only after the previous packet's sink callback. -/
def Sequential (trace : List (EngineEntry StreamingTransferWorkflow)) : Prop :=
  ∀ entry ∈ trace, (notifiedValue? entry).isSome → Idle entry

def sinkEffect? : Effect → Option RecordingSinkEffect
  | .recordingSink effect => some effect
  | _ => none

/-- The sink effects issued along a run, oldest first. -/
def sinkEffects (trace : List (EngineEntry StreamingTransferWorkflow)) : List RecordingSinkEffect :=
  (requestedIn trace).filterMap sinkEffect?

/-! ## One packet at a time -/

/-- The pending sink callback has been answered. -/
def settled (w : StreamingTransferWorkflow) : StreamingTransferWorkflow :=
  if w.phase = .accepting then settleAccepted (saturatingAdd w.completedUnits w.pendingUnits) w
  else w

/-- The state without the identifiers of outstanding requests. -/
def erase (w : StreamingTransferWorkflow) : StreamingTransferWorkflow :=
  { w with writeRequestId := none, sinkRequestId := none }

/-- One value in phase `Transferring`, with its sink callback. -/
def readValue (w : StreamingTransferWorkflow) (value : List UInt8) :
    StreamingTransferWorkflow × List RecordingSinkEffect :=
  let call := dispatchValue value (Step.begin w ⟨0, .transferRecording, w.cancellationId⟩)
  (erase (settled call.workflow), call.requested.filterMap sinkEffect?)

def readValues (w : StreamingTransferWorkflow) :
    List (List UInt8) → StreamingTransferWorkflow × List RecordingSinkEffect
  | [] => (w, [])
  | value :: rest =>
    let first := readValue w value
    let later := readValues first.1 rest
    (later.1, first.2 ++ later.2)

theorem readValues_append (w : StreamingTransferWorkflow) (front back : List (List UInt8)) :
    readValues w (front ++ back) =
      ((readValues (readValues w front).1 back).1,
        (readValues w front).2 ++ (readValues (readValues w front).1 back).2) := by
  induction front generalizing w with
  | nil => rfl
  | cons value front ih =>
    rw [List.cons_append, readValues, ih]
    simp only [readValues, List.append_assoc]

theorem readValues_concat (w : StreamingTransferWorkflow) (front : List (List UInt8))
    (value : List UInt8) :
    readValues w (front ++ [value]) =
      ((readValue (readValues w front).1 value).1,
        (readValues w front).2 ++ (readValue (readValues w front).1 value).2) := by
  rw [readValues_append]
  simp only [readValues, List.append_nil]

section Erasure

theorem erase_settled {w v : StreamingTransferWorkflow} (h : erase w = erase v) :
    erase (settled w) = erase (settled v) := by
  simp only [erase, mk.injEq] at h
  simp only [settled, h]
  split_ifs <;> simp [settleAccepted, erase, h]

variable (call call' : Call)

/-- What a packet does depends on no outstanding request but the subscription. -/
theorem dispatchPacket_erase (hw : erase call.workflow = erase call'.workflow)
    (hrequested : call.requested = call'.requested) (packet : TransferPacket) :
    erase (dispatchPacket packet call).workflow = erase (dispatchPacket packet call').workflow ∧
      (dispatchPacket packet call).requested = (dispatchPacket packet call').requested := by
  simp only [erase, mk.injEq] at hw
  have hnext : call.workflow.nextSequence = call'.workflow.nextSequence := by
    simp only [nextSequence, hw]
  cases packet <;>
    simp only [dispatchPacket, protocolFailure, hnext, hw] <;>
    (try split_ifs) <;>
    simp [accept, finalize, failEffects, unsubscribeEffects, resumeEffects, erase, hw, hrequested]

theorem dispatchValue_erase (hw : erase call.workflow = erase call'.workflow)
    (hrequested : call.requested = call'.requested) (value : List UInt8) :
    erase (dispatchValue value call).workflow = erase (dispatchValue value call').workflow ∧
      (dispatchValue value call).requested = (dispatchValue value call').requested := by
  rw [dispatchValue, dispatchValue]
  cases parseTransferPacket value with
  | error error =>
    simp only [erase, mk.injEq] at hw
    simp [erase, failEffects, unsubscribeEffects, hw, hrequested]
  | ok packet => exact dispatchPacket_erase call call' hw hrequested packet

/-- `readValue` is the reducer on one value and the callback that follows it. -/
theorem readValue_eq (w : StreamingTransferWorkflow) (context : WorkflowContext)
    (value : List UInt8) :
    readValue (erase w) value =
      (erase (settled (dispatchValue value (Step.begin w context)).workflow),
        (dispatchValue value (Step.begin w context)).requested.filterMap sinkEffect?) := by
  obtain ⟨hworkflow, hrequested⟩ := dispatchValue_erase
    (Step.begin (erase w) ⟨0, .transferRecording, (erase w).cancellationId⟩)
    (Step.begin w context) rfl rfl value
  rw [readValue, erase_settled hworkflow, hrequested]

end Erasure

/-! ## Sequential runs -/

section Trace

variable (trace : List (EngineEntry StreamingTransferWorkflow))
  (entry : EngineEntry StreamingTransferWorkflow)

theorem sinkEffects_concat :
    sinkEffects (trace ++ [entry]) =
      sinkEffects trace ++ (entry.output.effects.map (·.effect)).filterMap sinkEffect? := by
  rw [sinkEffects, requestedIn_append, List.filterMap_append, requestedIn_singleton]
  rfl

theorem notifiedValues_concat :
    notifiedValues (trace ++ [entry]) = notifiedValues trace ++ (notifiedValue? entry).toList := by
  rw [notifiedValues, List.filterMap_append]
  cases h : notifiedValue? entry with
  | none => rw [List.filterMap_cons_none h]; rfl
  | some value => rw [List.filterMap_cons_some h]; rfl

variable {trace entry}

theorem Sequential.front (h : Sequential (trace ++ [entry])) : Sequential trace :=
  fun other hmem => h other (List.mem_append_left _ hmem)

theorem Sequential.last (h : Sequential (trace ++ [entry])) (hsome : (notifiedValue? entry).isSome) :
    Idle entry :=
  h entry (List.mem_append_right _ (List.mem_singleton_self _)) hsome

end Trace

/-- The workflow of a just started engine, once its START write is done. -/
def reading (recording : RecordingUuid) (sinkId : RecordingSinkId) (cancellationId : CancellationId)
    (id : RequestId) : StreamingTransferWorkflow :=
  { new recording sinkId cancellationId with
    subscriptionRequestId := some id, phase := .transferring }

/-- A sequential run so far is `readValues` of the values notified so far. -/
structure Aligned (base : StreamingTransferWorkflow)
    (trace : List (EngineEntry StreamingTransferWorkflow)) (w : StreamingTransferWorkflow) :
    Prop where
  waiting : w.phase = .subscribing ∨ w.phase = .starting →
    notifiedValues trace = [] ∧ sinkEffects trace = [] ∧
      erase { w with phase := .transferring } = base
  read : w.phase ≠ .subscribing → w.phase ≠ .starting →
    readValues base (notifiedValues trace) = (erase (settled w), sinkEffects trace)

@[simp] theorem sinkEffects_unsubscribe (w : StreamingTransferWorkflow) :
    (unsubscribeEffects w).filterMap sinkEffect? = [] := by
  rw [unsubscribeEffects]
  split <;> rfl

@[simp] theorem sinkEffects_resume (w : StreamingTransferWorkflow) :
    (resumeEffects w).filterMap sinkEffect? = [] := by
  rw [resumeEffects]
  split <;> rfl

variable {values : List (List UInt8)} {base : StreamingTransferWorkflow}
  {trace : List (EngineEntry StreamingTransferWorkflow)}

theorem settled_of_ne {w : StreamingTransferWorkflow} (h : w.phase ≠ .accepting) : settled w = w :=
  if_neg h

/-- A value read in phase `Transferring`. -/
theorem Aligned.value {w : StreamingTransferWorkflow} {engine : WorkflowEngine _} {id : RequestId}
    {value : List UInt8} {call : Call} (h : Aligned base trace w) (hphase : w.phase = .transferring)
    (hcall : call = dispatchValue value (Step.begin w (engine.context w))) :
    readValues base (notifiedValues (trace ++
        [⟨engine, .host ⟨id, .ble (.notification CHAR_RECORDING_TRANSFER value)⟩,
          .ok call.effects⟩])) =
      (erase (settled call.workflow), sinkEffects (trace ++
        [⟨engine, .host ⟨id, .ble (.notification CHAR_RECORDING_TRANSFER value)⟩,
          .ok call.effects⟩])) := by
  have hread := h.read (by rw [hphase]; decide) (by rw [hphase]; decide)
  rw [settled_of_ne (by rw [hphase]; decide)] at hread
  have hvalue := readValue_eq w (engine.context w) value
  rw [← hcall] at hvalue
  rw [notifiedValues_concat, sinkEffects_concat]
  have hlast : (notifiedValue? ⟨engine, .host ⟨id, .ble (.notification CHAR_RECORDING_TRANSFER
      value)⟩, .ok call.effects⟩).toList = [value] := rfl
  rw [hlast, readValues_concat, hread, hvalue]
  rfl

/-- A step without a notification and without a sink effect. -/
theorem Aligned.quiet {w w' : StreamingTransferWorkflow}
    {entry : EngineEntry StreamingTransferWorkflow} (h : Aligned base trace w)
    (hnone : notifiedValue? entry = none)
    (hquiet : (entry.output.effects.map (·.effect)).filterMap sinkEffect? = [])
    (hwaiting : w'.phase = .subscribing ∨ w'.phase = .starting →
      (w.phase = .subscribing ∨ w.phase = .starting) ∧
        erase { w' with phase := .transferring } = erase { w with phase := .transferring })
    (hread : w'.phase ≠ .subscribing → w'.phase ≠ .starting →
      (w.phase = .starting ∧ erase (settled w') = erase { w with phase := .transferring }) ∨
        (w.phase ≠ .subscribing ∧ w.phase ≠ .starting ∧
          erase (settled w') = erase (settled w))) :
    Aligned base (trace ++ [entry]) w' := by
  have hvalues : notifiedValues (trace ++ [entry]) = notifiedValues trace := by
    rw [notifiedValues_concat, hnone]
    exact List.append_nil _
  have heffects : sinkEffects (trace ++ [entry]) = sinkEffects trace := by
    rw [sinkEffects_concat, hquiet, List.append_nil]
  refine ⟨fun hphase => ?_, fun hsub hstarting => ?_⟩
  · obtain ⟨hbefore, hsame⟩ := hwaiting hphase
    obtain ⟨hempty, hsink, hbase⟩ := h.waiting hbefore
    exact ⟨hvalues.trans hempty, heffects.trans hsink, hsame.trans hbase⟩
  · rw [hvalues, heffects]
    rcases hread hsub hstarting with ⟨hbefore, hsame⟩ | ⟨hsub', hstarting', hsame⟩
    · obtain ⟨hempty, hsink, hbase⟩ := h.waiting (.inr hbefore)
      rw [hempty, hsink, hsame, hbase]
      rfl
    · rw [h.read hsub' hstarting', hsame]

/-- What a callback of `HostAnswers` does: no sink effect, and the transfer keeps running. -/
theorem HostAnswers.transition {w w' : StreamingTransferWorkflow} {n : RequestId} {host : HostEvent}
    {effects : List Effect} (hanswer : HostAnswers w host) (h : Transition w n host w' effects) :
    effects.filterMap sinkEffect? = [] ∧ ¬(w'.phase = .completed ∨ w'.phase = .failed) ∧
      ((w.phase = .subscribing ∧ w'.phase = .starting ∧
          erase { w' with phase := .transferring } = erase { w with phase := .transferring }) ∨
        (w.phase = .starting ∧ w'.phase = .transferring ∧
          erase (settled w') = erase { w with phase := .transferring }) ∨
        (w.phase = .accepting ∧ w'.phase = .transferring ∧
          erase (settled w') = erase (settled w))) := by
  cases hanswer with
  | subscribed hphase _ =>
    cases h with
    | subscribed => exact ⟨rfl, by simp, .inl ⟨hphase, rfl, rfl⟩⟩
    | failed hfails => cases hfails
  | started hphase _ =>
    cases h with
    | started => exact ⟨rfl, by simp, .inr (.inl ⟨hphase, rfl, rfl⟩)⟩
    | acknowledged h => exact absurd (hphase.symm.trans h) (by decide)
    | confirmed h => exact absurd (hphase.symm.trans h) (by decide)
    | failed hfails => cases hfails
  | accepted hphase _ =>
    cases h with
    | accepted =>
      refine ⟨rfl, by simp [settleAccepted], .inr (.inr ⟨hphase, rfl, ?_⟩)⟩
      rw [settled_of_ne (by simp [settleAccepted]), settled, if_pos hphase]
    | failed hfails =>
      cases hfails with
      | inconsistent _ _ hunits => exact absurd rfl hunits

theorem Aligned.answered {w w' : StreamingTransferWorkflow} {n : RequestId} {host : HostEvent}
    {effects : List Effect} {entry : EngineEntry StreamingTransferWorkflow}
    (h : Aligned base trace w) (hanswer : HostAnswers w host)
    (hstep : Transition w n host w' effects) (hinput : entry.input = .host host)
    (hout : entry.output.effects.map (·.effect) = effects) : Aligned base (trace ++ [entry]) w' := by
  obtain ⟨hquiet, -, hcase⟩ := hanswer.transition hstep
  have hnone : notifiedValue? entry = none := by
    rw [notifiedValue?, hinput]
    cases hanswer <;> rfl
  refine h.quiet hnone (by rw [hout, hquiet]) (fun hwaiting => ?_) (fun hsub hstarting => ?_)
  · rcases hcase with ⟨hbefore, -, hsame⟩ | ⟨-, hafter, -⟩ | ⟨-, hafter, -⟩
    · exact ⟨.inl hbefore, hsame⟩
    · rw [hafter] at hwaiting
      exact absurd hwaiting (by decide)
    · rw [hafter] at hwaiting
      exact absurd hwaiting (by decide)
  · rcases hcase with ⟨-, hafter, -⟩ | ⟨hbefore, -, hsame⟩ | ⟨hbefore, -, hsame⟩
    · exact absurd hafter hstarting
    · exact .inl ⟨hbefore, hsame⟩
    · exact .inr ⟨by rw [hbefore]; decide, by rw [hbefore]; decide, hsame⟩

/-- A notification that was not rejected came in phase `Transferring`. -/
theorem Transition.notified {w w' : StreamingTransferWorkflow} {n id : RequestId}
    {characteristicUuid : String} {value : List UInt8} {effects : List Effect}
    (h : Transition w n ⟨id, .ble (.notification characteristicUuid value)⟩ w' effects) :
    w.phase = .transferring ∧ some id = w.subscriptionRequestId ∧
      characteristicUuid = CHAR_RECORDING_TRANSFER := by
  cases h with
  | packet hphase hsub => exact ⟨hphase, hsub.symm, rfl⟩
  | failed hfails =>
    cases hfails with
    | undecodable hphase hsub => exact ⟨hphase, hsub.symm, rfl⟩
    | packet hphase hsub => exact ⟨hphase, hsub.symm, rfl⟩

/-- A packet leaves the subscribing and starting phases alone. -/
theorem Transition.notified_phase {w w' : StreamingTransferWorkflow} {n id : RequestId}
    {characteristicUuid : String} {value : List UInt8} {effects : List Effect}
    (h : Transition w n ⟨id, .ble (.notification characteristicUuid value)⟩ w' effects) :
    ¬(w'.phase = .subscribing ∨ w'.phase = .starting) := by
  cases h with
  | packet hphase _ _ hstep => cases hstep <;> simp [hphase]
  | failed _ hfailed => simp [hfailed]

/-- A sequential run issues the sink effects of `readValues`. -/
theorem sinkEffects_of_sequential {engine₀ : WorkflowEngine StreamingTransferWorkflow}
    (hstart : Started engine₀) :
    ∃ recording sinkId cancellationId id, ∀ values trace engine,
      EngineRun (Interleaves values) engine₀ trace engine → Sequential trace →
        sinkEffects trace =
          (readValues (reading recording sinkId cancellationId id) (notifiedValues trace)).2 := by
  obtain ⟨recording, sinkId, cancellationId, id, hact₀⟩ := hstart.active
  refine ⟨recording, sinkId, cancellationId, id, fun values trace engine hrun hseq => ?_⟩
  have hsettled := run_rule
    (I := fun trace w =>
      Sequential trace → Aligned (reading recording sinkId cancellationId id) trace w)
    (J := fun trace => Sequential trace →
      sinkEffects trace =
        (readValues (reading recording sinkId cancellationId id) (notifiedValues trace)).2)
    ?_ ?_ ?_ ?_ ?_ ?_ hrun
  · rw [Settled] at hsettled
    split at hsettled
    · rename_i w hact
      have haligned := hsettled hseq
      by_cases hwaiting : w.phase = .subscribing ∨ w.phase = .starting
      · obtain ⟨hempty, hsink, -⟩ := haligned.waiting hwaiting
        rw [hempty, hsink]
        rfl
      · rw [haligned.read (hwaiting <| .inl ·) (hwaiting <| .inr ·)]
    · exact hsettled hseq
  · rw [settled_active hact₀]
    exact fun _ => ⟨fun _ => ⟨rfl, rfl, rfl⟩, fun hphase => absurd rfl hphase⟩
  · intro trace engine w event call _ hact hinv hok hcall hstep
    rcases hok with ⟨w', host, hact', hevent, hanswer⟩ | ⟨request, value, hevent, -, -⟩
    · obtain rfl := Option.some.inj (hact.symm.trans hact')
      obtain rfl := Event.host.inj hevent
      rw [if_neg (hanswer.transition hstep).2.1]
      exact fun hseq => (hinv hseq.front).answered hanswer hstep rfl rfl
    · obtain rfl := Event.host.inj hevent
      have hvalue : call = dispatchValue value (Step.begin w (engine.context w)) :=
        Reduction.ok_injective (hcall.symm.trans (if_pos hstep.notified))
      split
      · intro hseq
        rw [(hinv hseq.front).value hstep.notified.1 hvalue]
      · exact fun hseq => ⟨fun hwaiting => absurd hwaiting hstep.notified_phase,
          fun _ _ => (hinv hseq.front).value hstep.notified.1 hvalue⟩
  · intro trace engine w event _ hact hinv hok hreject hseq
    rcases hok with ⟨w', host, hact', hevent, hanswer⟩ | ⟨request, value, hevent, -, hsub⟩
    · obtain rfl := Event.host.inj hevent
      refine (hinv hseq.front).quiet ?_ rfl (fun h => ⟨h, rfl⟩) (fun h h' => .inr ⟨h, h', rfl⟩)
      cases hanswer <;> rfl
    · obtain rfl := Event.host.inj hevent
      obtain ⟨w', hact', hphase⟩ := hseq.last rfl
      obtain rfl := Option.some.inj (hact.symm.trans hact')
      have haccepted : dispatch w ⟨request, .ble (.notification CHAR_RECORDING_TRANSFER value)⟩
          (engine.context w) = .ok (dispatchValue value (Step.begin w (engine.context w))) :=
        if_pos ⟨hphase, (hsub w hact).2.symm, rfl⟩
      rw [haccepted] at hreject
      cases congrArg Reduction.outcome hreject
  · intro trace engine w call hact hinv hok
    rcases hok with ⟨_, _, _, hevent, _⟩ | ⟨_, _, hevent, _⟩ <;> cases hevent
  · rintro trace entry w hact ⟨id, hinput, -⟩ hok
    rw [hinput] at hok
    rcases hok with ⟨_, _, _, hevent, _⟩ | ⟨_, _, hevent, _⟩ <;> cases hevent
  · intro trace entry hact hok hquiet hinv hseq
    rcases hok with ⟨w, _, hact', _⟩ | ⟨request, value, hevent, -, -⟩
    · cases hact.symm.trans hact'
    · have hsome : (notifiedValue? entry).isSome := by rw [notifiedValue?, hevent]; rfl
      obtain ⟨w, hact', -⟩ := hseq.last hsome
      cases hact.symm.trans hact'

/-! ## At most one sink effect for each notification that is handled -/

/-- The value of a notification delivered in phase `Transferring`. -/
def idleValue? (entry : EngineEntry StreamingTransferWorkflow) : Option (List UInt8) :=
  match entry.pre.active with
  | some w => if w.phase = .transferring then notifiedValue? entry else none
  | none => none

theorem idle_of_idleValue? {entry : EngineEntry StreamingTransferWorkflow}
    (h : (idleValue? entry).isSome) : Idle entry ∧ (notifiedValue? entry).isSome := by
  rw [idleValue?] at h
  split at h
  · rename_i w hact
    split at h
    · rename_i hphase
      exact ⟨⟨w, hact, hphase⟩, h⟩
    · exact nomatch h
  · exact nomatch h

theorem length_idle_le (trace : List (EngineEntry StreamingTransferWorkflow)) :
    (trace.filterMap idleValue?).length ≤ (notifiedValues trace).length := by
  induction trace with
  | nil => exact Nat.le_refl _
  | cons entry trace ih =>
    rw [notifiedValues] at ih ⊢
    cases hidle : idleValue? entry with
    | none =>
      rw [List.filterMap_cons_none hidle]
      cases hvalue : notifiedValue? entry with
      | none => rwa [List.filterMap_cons_none hvalue]
      | some value =>
        rw [List.filterMap_cons_some hvalue, List.length_cons]
        omega
    | some value =>
      have hread : (idleValue? entry).isSome := by rw [hidle]; rfl
      obtain ⟨-, hsome⟩ := idle_of_idleValue? hread
      obtain ⟨value', hvalue⟩ := Option.isSome_iff_exists.mp hsome
      rw [List.filterMap_cons_some hidle, List.filterMap_cons_some hvalue, List.length_cons,
        List.length_cons]
      omega

/-- A run is sequential when no notification was lost to a busy phase. -/
theorem sequential_of_length {trace : List (EngineEntry StreamingTransferWorkflow)}
    (h : (notifiedValues trace).length ≤ (trace.filterMap idleValue?).length) :
    Sequential trace := by
  induction trace with
  | nil => exact fun entry hmem => absurd hmem List.not_mem_nil
  | cons entry trace ih =>
    have hle := length_idle_le trace
    rw [notifiedValues] at h hle ih
    cases hvalue : notifiedValue? entry with
    | none =>
      have hidle : idleValue? entry = none := by
        rw [idleValue?, hvalue]
        split
        · exact ite_self _
        · rfl
      rw [List.filterMap_cons_none hvalue, List.filterMap_cons_none hidle] at h
      rintro other hmem hsome
      rcases List.mem_cons.mp hmem with rfl | hmem
      · rw [hvalue] at hsome
        exact nomatch hsome
      · exact ih h other hmem hsome
    | some value =>
      rw [List.filterMap_cons_some hvalue, List.length_cons] at h
      cases hidle : idleValue? entry with
      | none =>
        rw [List.filterMap_cons_none hidle] at h
        omega
      | some value' =>
        rw [List.filterMap_cons_some hidle, List.length_cons] at h
        rintro other hmem hsome
        rcases List.mem_cons.mp hmem with rfl | hmem
        · exact (idle_of_idleValue? (by rw [hidle]; rfl)).1
        · exact ih (by omega) other hmem hsome

theorem sinkEffects_fail (w : StreamingTransferWorkflow) (error : DeviceSdkError) :
    (failEffects w error).filterMap sinkEffect? = [.discardStreaming w.sinkId] := by
  rw [failEffects, List.filterMap_append, sinkEffects_unsubscribe]
  rfl

/-- A packet asks at most one thing of the sink. -/
theorem Transition.notified_sink {w w' : StreamingTransferWorkflow} {n id : RequestId}
    {characteristicUuid : String} {value : List UInt8} {effects : List Effect}
    (h : Transition w n ⟨id, .ble (.notification characteristicUuid value)⟩ w' effects) :
    (effects.filterMap sinkEffect?).length ≤ 1 := by
  cases h with
  | packet _ _ _ hstep =>
    cases hstep with
    | data | encryptedData => rw [List.filterMap_append, sinkEffects_resume]; exact Nat.le_refl 1
    | eof | e2eStart | encryptedEof => exact Nat.le_refl 1
    | _ => exact Nat.zero_le 1
  | failed => rw [sinkEffects_fail]; exact Nat.le_refl 1

/-- Along an interleaving, the sink sees at most one effect for each notification delivered in
phase `Transferring`. -/
theorem length_sinkEffects_le {engine₀ engine : WorkflowEngine StreamingTransferWorkflow}
    (hstart : Started engine₀) (hrun : EngineRun (Interleaves values) engine₀ trace engine) :
    (sinkEffects trace).length ≤ (trace.filterMap idleValue?).length := by
  have hquiet : ∀ (trace : List (EngineEntry StreamingTransferWorkflow)) entry,
      (entry.output.effects.map (·.effect)).filterMap sinkEffect? = [] →
      (sinkEffects trace).length ≤ (trace.filterMap idleValue?).length →
      (sinkEffects (trace ++ [entry])).length ≤
        ((trace ++ [entry]).filterMap idleValue?).length := by
    intro trace entry hnone hle
    rw [sinkEffects_concat, hnone, List.append_nil, List.filterMap_append, List.length_append]
    omega
  have hsettled := run_rule
    (I := fun trace _ => (sinkEffects trace).length ≤ (trace.filterMap idleValue?).length)
    (J := fun trace => (sinkEffects trace).length ≤ (trace.filterMap idleValue?).length)
    ?_ ?_ ?_ ?_ ?_ ?_ hrun
  · rw [Settled] at hsettled
    split at hsettled <;> exact hsettled
  · obtain ⟨recording, sinkId, cancellationId, id, hact⟩ := hstart.active
    rw [settled_active hact]
    exact Nat.le_refl 0
  · intro trace engine w event call _ hact hinv hok _ hstep
    rw [ite_self]
    rcases hok with ⟨w', host, hact', hevent, hanswer⟩ | ⟨request, value, hevent, -, -⟩
    · obtain rfl := Option.some.inj (hact.symm.trans hact')
      obtain rfl := Event.host.inj hevent
      exact hquiet trace _ (hanswer.transition hstep).1 hinv
    · obtain rfl := Event.host.inj hevent
      have hidle : idleValue? ⟨engine, .host ⟨request, .ble (.notification CHAR_RECORDING_TRANSFER
          value)⟩, .ok call.effects⟩ = some value := by
        rw [idleValue?]
        simp only [hact, hstep.notified.1, if_true]
        rfl
      have hsink := hstep.notified_sink
      rw [sinkEffects_concat, List.filterMap_append, List.filterMap_cons_some hidle,
        List.length_append, List.length_append]
      exact Nat.add_le_add hinv hsink
  · intro trace engine w event _ _ hinv _ _
    exact hquiet trace _ rfl hinv
  · intro trace engine w call _ _ hok
    rcases hok with ⟨_, _, _, hevent, _⟩ | ⟨_, _, hevent, _⟩ <;> cases hevent
  · intro trace entry w _ _ _ hnone hinv
    exact hquiet trace entry (by rw [hnone]; rfl) hinv
  · intro trace entry _ _ hnone hinv
    exact hquiet trace entry (by rw [hnone]; rfl) hinv

/-! ## In order, one sink effect for each packet -/

/-- The workflow after `k` packets of a plaintext stream. -/
def InPlaintext (k : Nat) (w : StreamingTransferWorkflow) : Prop :=
  w.phase = .transferring ∧ w.lastSequence = lastIndex k ∧ w.encrypted ≠ some true

/-- The workflow after the header and `k` packets of an encrypted stream. -/
def InEncrypted (k : Nat) (w : StreamingTransferWorkflow) : Prop :=
  w.phase = .transferring ∧ w.lastSequence = lastIndex k ∧ w.encrypted = some true ∧
    w.e2eHeaderReceived = true

theorem nextSequence_lastIndex {w : StreamingTransferWorkflow} {k : Nat} (hk : k < 65536)
    (h : w.lastSequence = lastIndex k) :
    w.nextSequence = k ∧ ¬w.lastSequence.any (k ≤ ·) := by
  rw [nextSequence, h]
  cases k with
  | zero => exact ⟨rfl, Bool.false_ne_true⟩
  | succ k => simp [lastIndex, Nat.mod_eq_of_lt hk]

/-- What reading a decodable value amounts to. -/
theorem readValue_cases (w : StreamingTransferWorkflow) {value : List UInt8}
    {packet : TransferPacket} (hparse : parseTransferPacket value = .ok packet) :
    (∃ w' effects, PacketStep w packet w' effects ∧
      readValue w value = (erase (settled w'), effects.filterMap sinkEffect?)) ∨
    PacketFails w packet := by
  rw [readValue, dispatchValue, hparse]
  rcases dispatchPacket_cases (Step.begin w ⟨0, .transferRecording, w.cancellationId⟩) packet with
    ⟨effects, hstep, heffects⟩ | ⟨hfails, -⟩
  · refine .inl ⟨_, effects, hstep, ?_⟩
    simp only [heffects, Step.begin_requested, List.nil_append]
  · exact .inr hfails

theorem readValue_data {k : Nat} {w : StreamingTransferWorkflow} {value payload : List UInt8}
    (hk : k < 65536) (h : InPlaintext k w) (hparse : parseTransferPacket value = .ok (.data k payload)) :
    (readValue w value).2.length = 1 ∧ InPlaintext (k + 1) (readValue w value).1 := by
  obtain ⟨hphase, hlast, hplain⟩ := h
  obtain ⟨hnext, hnew⟩ := nextSequence_lastIndex hk hlast
  rcases readValue_cases w hparse with ⟨w', effects, hstep, hread⟩ | hfails
  · rw [hread]
    cases hstep with
    | duplicate _ hdup => exact absurd hdup hnew
    | data =>
      refine ⟨by rw [List.filterMap_append, sinkEffects_resume]; rfl, rfl, rfl, ?_⟩
      simp [erase, settled, settleAccepted]
  · cases hfails with
    | mixedData hmix => exact absurd hmix hplain
    | gap _ _ hgap => exact absurd hnext.symm hgap

theorem readValue_encryptedData {k : Nat} {w : StreamingTransferWorkflow}
    {value chunk : List UInt8} (hk : k < 65536) (hlen : 16 ≤ chunk.length) (h : InEncrypted k w)
    (hparse : parseTransferPacket value = .ok (.encryptedData k chunk)) :
    (readValue w value).2.length = 1 ∧ InEncrypted (k + 1) (readValue w value).1 := by
  obtain ⟨hphase, hlast, henc, hheader⟩ := h
  obtain ⟨-, hnew⟩ := nextSequence_lastIndex hk hlast
  rcases readValue_cases w hparse with ⟨w', effects, hstep, hread⟩ | hfails
  · rw [hread]
    cases hstep with
    | encryptedDuplicate _ _ _ hdup => exact absurd hdup hnew
    | encryptedData =>
      exact ⟨by rw [List.filterMap_append, sinkEffects_resume]; rfl, rfl, rfl, henc, hheader⟩
  · cases hfails with
    | malformed hbad =>
      rcases hbad with hbad | hbad | hbad
      · exact absurd henc hbad
      · exact absurd hheader hbad
      · omega

/-- Consecutively numbered packets, each read with one sink effect. -/
theorem readValues_numbered (packet : Nat → List UInt8 → TransferPacket)
    (good : List UInt8 → Prop) {P : Nat → StreamingTransferWorkflow → Prop}
    (hstep : ∀ k w value payload, k < 65536 → good payload → P k w →
      parseTransferPacket value = .ok (packet k payload) →
      (readValue w value).2.length = 1 ∧ P (k + 1) (readValue w value).1)
    (payloads : List (List UInt8)) : ∀ (k : Nat) (w : StreamingTransferWorkflow)
      (values : List (List UInt8)), P k w → (∀ payload ∈ payloads, good payload) →
      k + payloads.length ≤ 65536 →
      Encodes values (payloads.mapIdx fun i payload => packet ((k + i) % 65536) payload) →
      (readValues w values).2.length = values.length ∧
        P (k + payloads.length) (readValues w values).1 := by
  induction payloads with
  | nil =>
    intro k w values hP _ _ hvalues
    obtain rfl := List.map_eq_nil_iff.mp hvalues
    exact ⟨rfl, hP⟩
  | cons payload payloads ih =>
    intro k w values hP hgood hlen hvalues
    rw [List.length_cons] at hlen
    rw [Encodes, List.mapIdx_cons, List.map_cons] at hvalues
    obtain ⟨value, rest, rfl, hvalue, hrest⟩ := List.map_eq_cons_iff.mp hvalues
    rw [Nat.add_zero, Nat.mod_eq_of_lt (by omega)] at hvalue
    obtain ⟨hone, hP'⟩ := hstep k w value payload (by omega) (hgood _ List.mem_cons_self) hP hvalue
    have hshift : Encodes rest
        (payloads.mapIdx fun i payload => packet ((k + 1 + i) % 65536) payload) := by
      rw [Encodes, hrest]
      congr 2
      funext i payload
      rw [Nat.add_assoc, Nat.add_comm 1 i]
    obtain ⟨hall, hP''⟩ := ih (k + 1) (readValue w value).1 rest hP'
      (fun payload hmem => hgood payload (List.mem_cons_of_mem _ hmem)) (by omega) hshift
    simp only [readValues, List.length_append, List.length_cons]
    refine ⟨by omega, ?_⟩
    rw [← Nat.add_assoc, Nat.add_right_comm]
    exact hP''

theorem readValue_eof {k sequence checksum : Nat} {w : StreamingTransferWorkflow}
    {value : List UInt8} (h : InPlaintext k w)
    (hparse : parseTransferPacket value = .ok (.eof sequence checksum)) :
    (readValue w value).2.length = 1 := by
  rcases readValue_cases w hparse with ⟨w', effects, hstep, hread⟩ | hfails
  · rw [hread]
    cases hstep
    rfl
  · cases hfails with
    | mixedEof hmix => exact absurd hmix h.2.2

theorem readValue_encryptedEof {k sequence : Nat} {w : StreamingTransferWorkflow}
    {value : List UInt8} (h : InEncrypted k w)
    (hparse : parseTransferPacket value = .ok (.encryptedEof sequence)) :
    (readValue w value).2.length = 1 := by
  rcases readValue_cases w hparse with ⟨w', effects, hstep, hread⟩ | hfails
  · rw [hread]
    cases hstep
    rfl
  · cases hfails with
    | headerMissing hbad => exact absurd hbad (by simp [h.2.2])

theorem readValue_e2eStart {ephemeralPublicKey salt value : List UInt8}
    {w : StreamingTransferWorkflow} (h : InPlaintext 0 w) (henc : w.encrypted = none)
    (hheader : w.e2eHeaderReceived = false)
    (hparse : parseTransferPacket value = .ok (.e2eStart ephemeralPublicKey salt)) :
    (readValue w value).2.length = 1 ∧ InEncrypted 0 (readValue w value).1 := by
  rcases readValue_cases w hparse with ⟨w', effects, hstep, hread⟩ | hfails
  · rw [hread]
    cases hstep with
    | repeatedStart _ hagain => simp [hheader] at hagain
    | e2eStart => exact ⟨rfl, rfl, h.2.1, rfl, rfl⟩
  · cases hfails with
    | mixedStart hmix => simp [henc] at hmix

/-- Read one packet at a time, a stream of at most `2 ^ 16` packets issues one sink effect for
each of them. -/
theorem length_readValues_stream {stream : LiveStream} (hgood : stream.WellFormed)
    (hshort : stream.count ≤ 65536) {values : List (List UInt8)}
    (hvalues : Encodes values stream.packets) (recording : RecordingUuid)
    (sinkId : RecordingSinkId) (cancellationId : CancellationId) (id : RequestId) :
    (readValues (reading recording sinkId cancellationId id) values).2.length = values.length := by
  have hstart : InPlaintext 0 (reading recording sinkId cancellationId id) :=
    ⟨rfl, rfl, by simp [reading, new]⟩
  -- the numbered packets are read in one sink effect each, and so are the header and the end
  cases stream with
  | plaintext payloads checksum =>
    rw [Encodes, LiveStream.packets, List.map_append] at hvalues
    obtain ⟨front, back, rfl, hfront, hback⟩ := List.map_eq_append_iff.mp hvalues
    obtain ⟨hlen, hafter⟩ := readValues_numbered .data (fun _ => True)
      (fun k w value payload hk _ hP hparse => readValue_data hk hP hparse) payloads 0 _ front
      hstart (fun _ _ => trivial) (by rwa [Nat.zero_add])
      (by simpa only [Encodes, Nat.zero_add] using hfront)
    rw [readValues_append, List.length_append, List.length_append, hlen]
    cases checksum with
    | none =>
      obtain rfl := List.map_eq_nil_iff.mp hback
      rfl
    | some checksum =>
      obtain ⟨value, rest, rfl, hvalue, hrest⟩ := List.map_eq_cons_iff.mp hback
      obtain rfl := List.map_eq_nil_iff.mp hrest
      simp only [readValues, List.append_nil, readValue_eof hafter hvalue, List.length_singleton]
  | encrypted ephemeralPublicKey salt chunks closed =>
    rw [Encodes, LiveStream.packets, List.map_cons, List.map_append] at hvalues
    obtain ⟨header, values, rfl, hheader, hvalues⟩ := List.map_eq_cons_iff.mp hvalues
    obtain ⟨front, back, rfl, hfront, hback⟩ := List.map_eq_append_iff.mp hvalues
    obtain ⟨hone, hopen⟩ := readValue_e2eStart hstart rfl rfl hheader
    obtain ⟨hlen, hafter⟩ := readValues_numbered .encryptedData
      (fun chunk => 16 ≤ chunk.length)
      (fun k w value chunk hk hchunk hP hparse => readValue_encryptedData hk hchunk hP hparse)
      chunks 0 _ front hopen hgood (by rwa [Nat.zero_add])
      (by simpa only [Encodes, Nat.zero_add] using hfront)
    rw [readValues, List.length_append, hone, readValues_append, List.length_append, hlen,
      List.length_cons, List.length_append]
    cases closed with
    | false =>
      obtain rfl := List.map_eq_nil_iff.mp hback
      simp only [readValues, List.length_nil]
      omega
    | true =>
      obtain ⟨value, rest, rfl, hvalue, hrest⟩ := List.map_eq_cons_iff.mp hback
      obtain rfl := List.map_eq_nil_iff.mp hrest
      simp only [readValues, List.append_nil, readValue_encryptedEof hafter hvalue,
        List.length_singleton]
      omega

/-! ## What an interleaving loses -/

/-- Two complete runs over one stream, the second one sequential: a first run that is sequential
too issues the same sink effects, and for a stream of at most `2 ^ 16` packets no other run does. -/
theorem interleaving_lossless_iff (stream : LiveStream) (hgood : stream.WellFormed)
    {values : List (List UInt8)} (hvalues : Encodes values stream.packets)
    {engine₀ engine engine' : WorkflowEngine StreamingTransferWorkflow}
    {trace sequential : List (EngineEntry StreamingTransferWorkflow)} (hstart : Started engine₀)
    (hrun : EngineRun (Interleaves values) engine₀ trace engine)
    (hall : notifiedValues trace = values)
    (hrun' : EngineRun (Interleaves values) engine₀ sequential engine')
    (hall' : notifiedValues sequential = values) (hsequential : Sequential sequential) :
    (Sequential trace → sinkEffects trace = sinkEffects sequential) ∧
      (stream.count ≤ 65536 →
        (sinkEffects trace = sinkEffects sequential ↔ Sequential trace)) := by
  obtain ⟨recording, sinkId, cancellationId, id, hread⟩ := sinkEffects_of_sequential hstart
  have hexpected := hread _ _ _ hrun' hsequential
  have hsame : Sequential trace → sinkEffects trace = sinkEffects sequential := by
    intro hseq
    rw [hexpected, hread _ _ _ hrun hseq, hall, hall']
  refine ⟨hsame, fun hshort => ⟨fun heq => ?_, hsame⟩⟩
  -- every packet of the stream has its effect in `sequential`, so none may be missing from `trace`
  have hlen := length_readValues_stream hgood hshort hvalues recording sinkId cancellationId id
  have hle := length_sinkEffects_le hstart hrun
  rw [heq, hexpected, hall', hlen] at hle
  exact sequential_of_length (by rw [hall]; exact hle)

/-! ## Two packets in a row -/

def twoPackets : LiveStream := .plaintext [[7], [8]] none

def twoValues : List (List UInt8) := [dataPacket 0 [7], dataPacket 1 [8]]

theorem encodes_twoValues : Encodes twoValues twoPackets.packets := by
  rw [Encodes, twoValues, List.map_cons, List.map_cons, parse_dataPacket, parse_dataPacket]
  rfl

def subscribedAndStarted : List Event :=
  [.host ⟨2, .ble (.subscribed CHAR_RECORDING_TRANSFER)⟩, .host ⟨3, .ble .writeCompleted⟩]

/-- DATA 1 arrives before the sink has accepted DATA 0. -/
def busyEvents : List Event :=
  subscribedAndStarted ++ [notifyEvent (dataPacket 0 [7]), notifyEvent (dataPacket 1 [8]),
    .host ⟨4, .streamingSinkAccepted 1⟩]

/-- DATA 1 arrives after the sink has accepted DATA 0. -/
def sequentialEvents : List Event :=
  subscribedAndStarted ++ [notifyEvent (dataPacket 0 [7]), .host ⟨4, .streamingSinkAccepted 1⟩,
    notifyEvent (dataPacket 1 [8])]

theorem allowed_busy :
    Machine.Allowed WorkflowEngine.dispatch (Interleaves twoValues) [] sampleEngine busyEvents :=
  ⟨.inl ⟨_, _, rfl, rfl, .subscribed rfl rfl⟩, .inl ⟨_, _, rfl, rfl, .started rfl rfl⟩,
    .inr ⟨_, _, rfl, rfl, fun _ h => Option.some.inj h ▸ ⟨by decide, rfl⟩⟩,
    .inr ⟨_, _, rfl, rfl, fun _ h => Option.some.inj h ▸ ⟨by decide, rfl⟩⟩,
    .inl ⟨_, _, rfl, rfl, .accepted rfl rfl⟩, trivial⟩

theorem allowed_sequential :
    Machine.Allowed WorkflowEngine.dispatch (Interleaves twoValues) [] sampleEngine
      sequentialEvents :=
  ⟨.inl ⟨_, _, rfl, rfl, .subscribed rfl rfl⟩, .inl ⟨_, _, rfl, rfl, .started rfl rfl⟩,
    .inr ⟨_, _, rfl, rfl, fun _ h => Option.some.inj h ▸ ⟨by decide, rfl⟩⟩,
    .inl ⟨_, _, rfl, rfl, .accepted rfl rfl⟩,
    .inr ⟨_, _, rfl, rfl, fun _ h => Option.some.inj h ▸ ⟨by decide, rfl⟩⟩, trivial⟩

def busyTrace : List (EngineEntry StreamingTransferWorkflow) :=
  (Machine.exec WorkflowEngine.dispatch [] sampleEngine busyEvents).1

def sequentialTrace : List (EngineEntry StreamingTransferWorkflow) :=
  (Machine.exec WorkflowEngine.dispatch [] sampleEngine sequentialEvents).1

/-- The second of two packets in a row never reaches the sink. -/
theorem busy_packet_lost :
    ∃ trace engine sequential engine',
      EngineRun (Interleaves twoValues) sampleEngine trace engine ∧
      notifiedValues trace = twoValues ∧
      EngineRun (Interleaves twoValues) sampleEngine sequential engine' ∧
      notifiedValues sequential = twoValues ∧ Sequential sequential ∧
      sinkEffects trace ≠ sinkEffects sequential :=
  ⟨_, _, _, _, Machine.Run.exec allowed_busy, by decide, Machine.Run.exec allowed_sequential,
    by decide, sequential_of_length (by decide), by decide⟩

/-- The trace that lost a packet was not sequential. -/
theorem interleaving_lossless_iff_twoPackets :
    notifiedValues busyTrace = notifiedValues sequentialTrace ∧ Sequential sequentialTrace ∧
      sinkEffects busyTrace ≠ sinkEffects sequentialTrace ∧ ¬Sequential busyTrace := by
  have hbusy : notifiedValues busyTrace = twoValues := by decide
  have hall : notifiedValues sequentialTrace = twoValues := by decide
  have hsequential : Sequential sequentialTrace := sequential_of_length (by decide)
  have hlost : sinkEffects busyTrace ≠ sinkEffects sequentialTrace := by decide
  have hiff := (interleaving_lossless_iff twoPackets trivial encodes_twoValues started_sampleEngine
    (Machine.Run.exec allowed_busy) hbusy (Machine.Run.exec allowed_sequential) hall
    hsequential).2 (by decide)
  exact ⟨hbusy.trans hall.symm, hsequential, hlost, fun hseq => hlost (hiff.mpr hseq)⟩

end StreamingTransferWorkflow

end BotaSdk
