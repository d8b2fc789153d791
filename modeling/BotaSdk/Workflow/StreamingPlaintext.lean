import BotaSdk.Lib.Numbered
import BotaSdk.Workflow.StreamingSteps

/-!
# Which plaintext streams a live transfer acknowledges

The device numbers its DATA packets modulo `2 ^ 16` and its EOF carries the number of packets sent.
The workflow never compares that number with what it accepted, and it takes every number at or below
the last one for a duplicate: it holds the whole stream exactly when the last packet reached it and
no number had wrapped.
-/

namespace BotaSdk

open Protocol Numbered

namespace StreamingTransferWorkflow

/-- The payloads of the DATA packets a device sends. -/
abbrev PlaintextStream := List (List UInt8)

/-- The values a device may put on the transfer characteristic for a plaintext stream: its DATA
packets, its EOF, and packets or garbage that belong to neither kind of stream. -/
def PlaintextStream.Sends (stream : PlaintextStream) (value : List UInt8) : Prop :=
  match parseTransferPacket value with
  | .ok (.data sequence data) => Sent 65536 stream sequence data
  | .ok (.eof sequence _) => sequence = stream.length % 65536
  | .ok (.e2eStart _ _) | .ok (.encryptedData _ _) | .ok (.encryptedEof _) => False
  | _ => True

/-- Any loss, duplication and reordering: a notification carries something the device sends. -/
def FromDevice (stream : PlaintextStream)
    (_ : List (EngineEntry StreamingTransferWorkflow)) (_ : WorkflowEngine StreamingTransferWorkflow)
    (event : Event) : Prop :=
  ∀ id characteristicUuid value,
    event = .host ⟨id, .ble (.notification characteristicUuid value)⟩ → stream.Sends value

def plaintextAppend? : Effect → Option (Nat × List UInt8)
  | .recordingSink (.appendStreamingPlaintext _ sequence payload) => some (sequence, payload)
  | _ => none

/-- What the run passed to the sink by `AppendStreamingPlaintext`, oldest first. -/
def appended (trace : List (EngineEntry StreamingTransferWorkflow)) : List (Nat × List UInt8) :=
  (requestedIn trace).filterMap plaintextAppend?

/-- The run wrote the acknowledgement of the stream's EOF. -/
def AckWritten (stream : PlaintextStream)
    (trace : List (EngineEntry StreamingTransferWorkflow)) : Prop :=
  ackEffect .ack (stream.length % 65536) ∈ requestedIn trace

instance (stream : PlaintextStream) (trace : List (EngineEntry StreamingTransferWorkflow)) :
    Decidable (AckWritten stream trace) :=
  inferInstanceAs (Decidable (_ ∈ _))

/-- DATA `sequence` reached the workflow in phase `Transferring`. -/
def Delivers (entry : EngineEntry StreamingTransferWorkflow) (sequence : Nat) : Prop :=
  ∃ w id value data, entry.pre.active = some w ∧ w.phase = .transferring ∧
    w.subscriptionRequestId = some id ∧
    entry.input = .host ⟨id, .ble (.notification CHAR_RECORDING_TRANSFER value)⟩ ∧
    parseTransferPacket value = .ok (.data sequence data)

section Appended

variable (front back : List (EngineEntry StreamingTransferWorkflow))

theorem appended_append : appended (front ++ back) = appended front ++ appended back := by
  rw [appended, requestedIn_append, List.filterMap_append]
  rfl

theorem appended_concat (entry : EngineEntry StreamingTransferWorkflow) :
    appended (front ++ [entry]) =
      appended front ++ (entry.output.effects.map (·.effect)).filterMap plaintextAppend? := by
  rw [appended_append]
  exact congrArg (appended front ++ ·)
    (congrArg (List.filterMap plaintextAppend?) (requestedIn_singleton entry))

end Appended

/-! ## The invariant -/

/-- What a run has accepted, and how it got there. -/
structure Received (stream : PlaintextStream)
    (trace : List (EngineEntry StreamingTransferWorkflow)) : Prop where
  accepts : Numbered.Accepts 65536 stream (appended trace)
  delivered : ∀ entry ∈ trace, ∀ sequence, Delivers entry sequence →
    sequence < (appended trace).length
  covered : ∀ j < (appended trace).length, ∃ entry ∈ trace, Delivers entry j

theorem Received.nil (stream : PlaintextStream) : Received stream [] :=
  ⟨accepts_nil, fun _ h => absurd h List.not_mem_nil, fun j h => absurd h (Nat.not_lt_zero j)⟩

variable {stream : PlaintextStream} {trace : List (EngineEntry StreamingTransferWorkflow)}

/-- A step that passes nothing to the sink keeps `Received`, if what it delivers was accepted. -/
theorem Received.quiet (h : Received stream trace) {entry : EngineEntry StreamingTransferWorkflow}
    (hquiet : (entry.output.effects.map (·.effect)).filterMap plaintextAppend? = [])
    (hdelivers : ∀ sequence, Delivers entry sequence → sequence < (appended trace).length) :
    Received stream (trace ++ [entry]) := by
  have hsame : appended (trace ++ [entry]) = appended trace := by
    rw [appended_concat, hquiet, List.append_nil]
  refine ⟨hsame ▸ h.accepts, fun other hother sequence hseq => ?_, fun j hj => ?_⟩
  · rw [hsame]
    rcases List.mem_append.mp hother with hold | hnew
    · exact h.delivered other hold sequence hseq
    · exact hdelivers sequence (List.mem_singleton.mp hnew ▸ hseq)
  · rw [hsame] at hj
    obtain ⟨other, hother, hj⟩ := h.covered j hj
    exact ⟨other, List.mem_append_left _ hother, hj⟩

/-- The step that accepts the next DATA packet. -/
theorem Received.accept (h : Received stream trace) {entry : EngineEntry StreamingTransferWorkflow}
    {sequence : Nat} {data : List UInt8}
    (happend : (entry.output.effects.map (·.effect)).filterMap plaintextAppend? = [(sequence, data)])
    (hseq : sequence = (appended trace).length) (hlt : sequence < 65536)
    (hsent : Sent 65536 stream sequence data) (hdelivers : Delivers entry sequence)
    (honly : ∀ other, Delivers entry other → other = sequence) :
    Received stream (trace ++ [entry]) := by
  have hnext : appended (trace ++ [entry]) = appended trace ++ [(sequence, data)] := by
    rw [appended_concat, happend]
  have hlen : (appended (trace ++ [entry])).length = sequence + 1 := by
    rw [hnext, List.length_append, List.length_singleton, hseq]
  refine ⟨hnext ▸ h.accepts.snoc hseq hlt hsent, fun other hother j hj => ?_, fun j hj => ?_⟩
  · rcases List.mem_append.mp hother with hold | hnew
    · have hold' := h.delivered other hold j hj
      omega
    · rw [List.mem_singleton.mp hnew] at hj
      have hj' := honly j hj
      omega
  · rcases Nat.lt_or_ge j sequence with hjlt | hjge
    · obtain ⟨other, hother, hj'⟩ := h.covered j (by omega)
      exact ⟨other, List.mem_append_left _ hother, hj'⟩
    · obtain rfl : j = sequence := by omega
      exact ⟨entry, List.mem_append_right _ (List.mem_singleton_self _), hdelivers⟩

/-- Where each phase keeps the count `n` of accepted packets. -/
structure Counts (stream : PlaintextStream) (n : Nat) (w : StreamingTransferWorkflow) : Prop where
  plaintext : w.encrypted ≠ some true
  fresh : w.phase = .subscribing ∨ w.phase = .starting → n = 0 ∧ w.lastSequence = none
  counted : w.phase = .transferring → w.lastSequence = lastIndex n
  pending : w.phase = .accepting → ∃ m, n = m + 1 ∧ w.pendingSequence = some m
  eof : w.phase = .finalizing ∨ w.phase = .acknowledging →
    w.eofSequence = stream.length % 65536

/-- The invariant of a running transfer. -/
structure Running (stream : PlaintextStream)
    (trace : List (EngineEntry StreamingTransferWorkflow)) (w : StreamingTransferWorkflow) :
    Prop where
  received : Received stream trace
  counts : Counts stream (appended trace).length w
  unacknowledged : w.phase ≠ .acknowledging → w.phase ≠ .confirming → ¬AckWritten stream trace

/-- The invariant of a transfer that has ended. -/
def Ended (stream : PlaintextStream) (trace : List (EngineEntry StreamingTransferWorkflow)) :
    Prop :=
  AckWritten stream trace → Received stream trace

theorem ackWritten_concat (entry : EngineEntry StreamingTransferWorkflow) :
    AckWritten stream (trace ++ [entry]) ↔ AckWritten stream trace ∨
      ackEffect .ack (stream.length % 65536) ∈ entry.output.effects.map (·.effect) := by
  rw [AckWritten, requestedIn_append, requestedIn_singleton, List.mem_append]
  rfl

/-- Outside phase `Transferring` nothing is delivered. -/
theorem not_delivers {entry : EngineEntry StreamingTransferWorkflow} {w : StreamingTransferWorkflow}
    (hact : entry.pre.active = some w) (hphase : w.phase ≠ .transferring) (sequence : Nat) :
    ¬Delivers entry sequence := by
  rintro ⟨w', id, value, data, hact', hphase', -⟩
  obtain rfl := Option.some.inj (hact.symm.trans hact')
  exact hphase hphase'

/-- A step delivers at most the DATA packet it carries. -/
theorem delivers_packet {entry : EngineEntry StreamingTransferWorkflow} {id : RequestId}
    {characteristicUuid : String} {value : List UInt8} {packet : TransferPacket}
    (hinput : entry.input = .host ⟨id, .ble (.notification characteristicUuid value)⟩)
    (hparse : parseTransferPacket value = .ok packet) {sequence : Nat}
    (h : Delivers entry sequence) : ∃ data, packet = .data sequence data := by
  obtain ⟨w, id', value', data, -, -, -, hinput', hparse'⟩ := h
  rw [hinput] at hinput'
  simp only [Event.host.injEq, HostEvent.mk.injEq, HostEventKind.ble.injEq,
    BleEvent.notification.injEq] at hinput'
  rw [hinput'.2.2, hparse'] at hparse
  exact ⟨data, (Except.ok.inj hparse).symm⟩

section Endings

variable (w : StreamingTransferWorkflow) (sequence : Nat)

@[simp] theorem append_unsubscribeEffects :
    (unsubscribeEffects w).filterMap plaintextAppend? = [] := by
  rw [unsubscribeEffects]
  split <;> rfl

@[simp] theorem append_resumeEffects : (resumeEffects w).filterMap plaintextAppend? = [] := by
  rw [resumeEffects]
  split <;> rfl

@[simp] theorem append_failEffects (error : DeviceSdkError) :
    (failEffects w error).filterMap plaintextAppend? = [] := by
  rw [failEffects, List.filterMap_append, append_unsubscribeEffects]
  rfl

@[simp] theorem ack_resumeEffects (ackType : AckType) :
    ackEffect ackType sequence ∉ resumeEffects w := by
  rw [resumeEffects]
  split <;> simp [ackEffect]

@[simp] theorem ack_failEffects (ackType : AckType) (error : DeviceSdkError) :
    ackEffect ackType sequence ∉ failEffects w error := by
  simp [failEffects, ackEffect, unsubscribeEffects, unsubscribeEffect]
  split <;> simp

theorem ack_ne_command (ackType : AckType) (command : TransferCommand) :
    ackEffect ackType sequence ≠ commandEffect command := by
  have hchar : CHAR_RECORDING_TRANSFER ≠ CHAR_TRANSFER_CONTROL := by decide
  simp [ackEffect, commandEffect, hchar]

end Endings

/-! ## Steps keep the invariant -/

/-- A step that passes nothing to the sink and acknowledges nothing. -/
theorem Running.quiet {w w' : StreamingTransferWorkflow}
    {entry : EngineEntry StreamingTransferWorkflow} (h : Running stream trace w)
    (hquiet : (entry.output.effects.map (·.effect)).filterMap plaintextAppend? = [])
    (hdelivers : ∀ sequence, Delivers entry sequence → sequence < (appended trace).length)
    (hcounts : Counts stream (appended trace).length w')
    (hphase : w'.phase ≠ .acknowledging → w'.phase ≠ .confirming →
      w.phase ≠ .acknowledging ∧ w.phase ≠ .confirming ∧
        ackEffect .ack (stream.length % 65536) ∉ entry.output.effects.map (·.effect)) :
    Running stream (trace ++ [entry]) w' := by
  have hsame : appended (trace ++ [entry]) = appended trace := by
    rw [appended_concat, hquiet, List.append_nil]
  refine ⟨h.received.quiet hquiet hdelivers, hsame ▸ hcounts, fun hack hconfirm => ?_⟩
  obtain ⟨hw, hw', hnone⟩ := hphase hack hconfirm
  rw [ackWritten_concat, not_or]
  exact ⟨h.unacknowledged hw hw', hnone⟩

/-- The entry of an accepted notification. -/
abbrev notified (engine : WorkflowEngine StreamingTransferWorkflow) (id : RequestId)
    (value : List UInt8) (call : Call) : EngineEntry StreamingTransferWorkflow :=
  ⟨engine, .host ⟨id, .ble (.notification CHAR_RECORDING_TRANSFER value)⟩, .ok call.effects⟩

/-- A packet that keeps the transfer running keeps the invariant. -/
theorem Running.packet {w w' : StreamingTransferWorkflow} {engine : WorkflowEngine _}
    {id : RequestId} {value : List UInt8} {packet : TransferPacket} {effects : List Effect}
    {call : Call} (h : Running stream trace w) (hact : engine.active = some w)
    (hphase : w.phase = .transferring) (hsub : w.subscriptionRequestId = some id)
    (hsends : stream.Sends value) (hparse : parseTransferPacket value = .ok packet)
    (hstep : PacketStep w packet w' effects) (heffects : call.requested = effects) :
    Running stream (trace ++ [notified engine id value call]) w' := by
  have hcounted := h.counts.counted hphase
  have hplain := h.counts.plaintext
  have hbefore : w.phase ≠ .acknowledging ∧ w.phase ≠ .confirming := by
    rw [hphase]
    decide
  have hout : ((Outcome.ok call.effects).effects.map (·.effect)) = effects := heffects
  have hother : (∀ sequence data, packet ≠ .data sequence data) → ∀ sequence,
      Delivers (notified engine id value call) sequence → sequence < (appended trace).length := by
    intro hnot sequence hdel
    obtain ⟨data, hdata⟩ := delivers_packet rfl hparse hdel
    exact absurd hdata (hnot sequence data)
  rw [PlaintextStream.Sends, hparse] at hsends
  -- the count of the packets appended is the sequence that the workflow expects
  cases hstep with
  | @data sequence data sinkId _ hnew hnext =>
    rw [hcounted] at hnew
    rw [nextSequence, hcounted] at hnext
    obtain ⟨hseq, hlt⟩ := expected_eq h.received.accepts.bounded hnext hnew (by decide)
    have happend : ((Outcome.ok call.effects).effects.map (·.effect)).filterMap plaintextAppend? =
        [(sequence, data)] := by
      rw [hout, List.filterMap_append, append_resumeEffects]
      rfl
    have honly : ∀ other, Delivers (notified engine id value call) other → other = sequence := by
      intro other hdel
      obtain ⟨data', hdata⟩ := delivers_packet rfl hparse hdel
      cases hdata
      rfl
    have hreceived : Received stream (trace ++ [notified engine id value call]) :=
      h.received.accept happend hseq (by omega) hsends
        ⟨w, id, value, data, hact, hphase, hsub, rfl, hparse⟩ honly
    have hlen : (appended (trace ++ [notified engine id value call])).length = sequence + 1 := by
      rw [appended_concat, happend, List.length_append, List.length_singleton, hseq]
    refine ⟨hreceived, ?_, fun _ _ => ?_⟩
    · rw [hlen]
      exact ⟨by simp, by simp, by simp, fun _ => ⟨sequence, rfl, rfl⟩, by simp⟩
    · rw [ackWritten_concat, not_or, hout]
      refine ⟨h.unacknowledged hbefore.1 hbefore.2, ?_⟩
      simp [ackEffect]
      exact ack_resumeEffects w _ .ack
  | @duplicate sequence data _ hdup =>
    rw [hcounted] at hdup
    have hlt := lt_of_lastIndex_any hdup
    refine h.quiet (by rw [hout]; rfl) (fun other hdel => ?_) h.counts (fun _ _ => ?_)
    · obtain ⟨data', hdata⟩ := delivers_packet rfl hparse hdel
      cases hdata
      exact hlt
    · exact ⟨hbefore.1, hbefore.2, by rw [hout]; exact List.not_mem_nil⟩
  | paused =>
    refine h.quiet (by rw [hout]; rfl) (hother nofun) ?_ (fun _ _ => ?_)
    · exact { h.counts with }
    · exact ⟨hbefore.1, hbefore.2, by rw [hout]; simp [ackEffect]⟩
  | eof =>
    refine h.quiet (by rw [hout]; rfl) (hother nofun) ?_ (fun _ _ => ?_)
    · exact ⟨by simp, by simp, by simp, by simp, fun _ => hsends⟩
    · exact ⟨hbefore.1, hbefore.2, by rw [hout]; simp [ackEffect]⟩
  | sha256 =>
    refine h.quiet (by rw [hout]; rfl) (hother nofun) h.counts (fun _ _ => ?_)
    exact ⟨hbefore.1, hbefore.2, by rw [hout]; exact List.not_mem_nil⟩
  | repeatedStart | e2eStart | encryptedDuplicate | encryptedData | encryptedEof =>
    exact hsends.elim

/-- Every transition keeps the invariant, or ends the transfer as `Ended` allows. -/
theorem Running.transition {w : StreamingTransferWorkflow} {engine : WorkflowEngine _}
    {event : HostEvent} {call : Call} (h : Running stream trace w) (hact : engine.active = some w)
    (hdevice : FromDevice stream trace engine (.host event))
    (hstep : Transition w engine.nextRequestId event call.workflow call.requested) :
    if call.workflow.phase = .completed ∨ call.workflow.phase = .failed then
      Ended stream (trace ++ [⟨engine, .host event, .ok call.effects⟩])
    else Running stream (trace ++ [⟨engine, .host event, .ok call.effects⟩]) call.workflow := by
  have hout : (Outcome.ok call.effects).effects.map (·.effect) = call.requested := rfl
  have hdel : w.phase ≠ .transferring → ∀ sequence,
      Delivers ⟨engine, .host event, .ok call.effects⟩ sequence →
        sequence < (appended trace).length :=
    fun hphase sequence hdel => absurd hdel (not_delivers hact hphase sequence)
  generalize hw' : call.workflow = w' at hstep
  generalize heffects : call.requested = effects at hstep hout
  -- outside the transfer nothing is delivered and nothing is appended
  cases hstep with
  | subscribed hphase _ =>
    rw [if_neg (by simp)]
    refine h.quiet (by rw [hout]; rfl) (hdel (by rw [hphase]; decide)) ?_ (fun _ _ => ?_)
    · exact { h.counts with
        counted := by simp, pending := by simp, eof := by simp
        fresh := fun _ => h.counts.fresh (.inl hphase) }
    · rw [hphase, hout, List.mem_singleton]
      exact ⟨by decide, by decide, ack_ne_command _ _ _⟩
  | started hphase _ =>
    rw [if_neg (by simp)]
    refine h.quiet (by rw [hout]; rfl) (hdel (by rw [hphase]; decide)) ?_ (fun _ _ => ?_)
    · obtain ⟨hempty, hlast⟩ := h.counts.fresh (.inr hphase)
      exact { h.counts with
        fresh := by simp, pending := by simp, eof := by simp
        counted := fun _ => by rw [hempty]; exact hlast }
    · rw [hphase, hout]
      exact ⟨by decide, by decide, List.not_mem_nil⟩
  | packet hphase hsub hparse hpacket =>
    have hkeep := h.packet hact hphase hsub (hdevice _ _ _ rfl) hparse hpacket heffects
    rw [if_neg]
    · exact hkeep
    · cases hpacket <;> simp [hphase]
  | accepted hphase _ hunits =>
    rw [if_neg (by simp [settleAccepted])]
    refine h.quiet (by rw [hout]; rfl) (hdel (by rw [hphase]; decide)) ?_ (fun _ _ => ?_)
    · obtain ⟨m, hm, hpending⟩ := h.counts.pending hphase
      exact { h.counts with
        fresh := by simp [settleAccepted], pending := by simp [settleAccepted]
        eof := by simp [settleAccepted]
        counted := fun _ => by rw [hm, settleAccepted, hpending]; rfl }
    · rw [hphase, hout]
      exact ⟨by decide, by decide, List.not_mem_nil⟩
  | finalized hphase _ _ =>
    rw [if_neg (by simp)]
    refine h.quiet (by rw [hout]; rfl) (hdel (by rw [hphase]; decide)) ?_ (by simp)
    exact { h.counts with
      fresh := by simp, counted := by simp, pending := by simp
      eof := fun _ => h.counts.eof (.inl hphase) }
  | acknowledged hphase _ =>
    rw [if_neg (by simp)]
    refine h.quiet (by rw [hout]; rfl) (hdel (by rw [hphase]; decide)) ?_ (by simp)
    exact { h.counts with
      fresh := by simp, counted := by simp, pending := by simp, eof := by simp }
  | confirmed hphase _ =>
    rw [if_pos (.inl rfl)]
    refine fun _ => h.received.quiet ?_ (hdel (by rw [hphase]; decide))
    rw [hout, List.filterMap_append, append_unsubscribeEffects]
    rfl
  | @failed _ _ error hfails hfailed _ _ =>
    rw [if_pos (.inr hfailed)]
    intro hack
    rw [ackWritten_concat, hout] at hack
    rcases hack with hack | hack
    · refine h.received.quiet (by rw [hout, append_failEffects]) (hdel fun hphase => ?_)
      exact h.unacknowledged (by rw [hphase]; decide) (by rw [hphase]; decide) hack
    · exact absurd hack (ack_failEffects _ _ _ _)

/-- Along every run over a plaintext stream. -/
theorem running_run {engine₀ engine : WorkflowEngine StreamingTransferWorkflow}
    (hstart : Started engine₀) (h : EngineRun (FromDevice stream) engine₀ trace engine) :
    Settled (Running stream) (Ended stream) trace engine := by
  refine run_rule ?_ ?_ ?_ ?_ ?_ ?_ h
  -- at the start
  · obtain ⟨recording, sinkId, cancellationId, id, hact⟩ := hstart.active
    rw [settled_active hact]
    refine ⟨.nil stream, ⟨?_, fun _ => ⟨rfl, rfl⟩, ?_, ?_, ?_⟩, fun _ _ => List.not_mem_nil⟩ <;>
      simp [new]
  -- an accepted event
  · intro trace engine w event call _ hact hrun hdevice _ hstep
    exact hrun.transition hact hdevice hstep
  -- an event that is rejected
  · intro trace engine w event _ hact hrun _ hreject
    refine hrun.quiet rfl (fun sequence hdel => ?_) hrun.counts
      (fun hack hconfirm => ⟨hack, hconfirm, List.not_mem_nil⟩)
    obtain ⟨w', id, value, data, hact', hphase, hsub, hinput, -⟩ := hdel
    obtain rfl := Option.some.inj (hact.symm.trans hact')
    obtain rfl := Event.host.inj hinput
    have haccepted : dispatch w ⟨id, .ble (.notification CHAR_RECORDING_TRANSFER value)⟩
        (engine.context w) = .ok (dispatchValue value (Step.begin w (engine.context w))) :=
      if_pos ⟨hphase, hsub.symm, rfl⟩
    rw [haccepted] at hreject
    exact nomatch congrArg Reduction.outcome hreject
  -- the workflow is cancelled
  · intro trace engine w call hact hrun _ hrequested _
    have hout : (Outcome.ok call.effects).effects.map (·.effect) = call.requested := rfl
    refine hrun.received.quiet ?_ ?_
    · rw [hout, hrequested, List.filterMap_cons_none rfl, List.filterMap_append,
        append_unsubscribeEffects]
      rfl
    · rintro sequence ⟨w', id, value, data, -, -, -, hinput, -⟩
      exact nomatch hinput
  -- another workflow's cancellation
  · rintro trace entry w hact ⟨id, hinput, -⟩ - hquiet hrun
    refine hrun.quiet (by rw [hquiet]; rfl) ?_ hrun.counts
      (fun hack hconfirm => ⟨hack, hconfirm, by rw [hquiet]; exact List.not_mem_nil⟩)
    rintro sequence ⟨w', id', value, data, -, -, -, hinput', -⟩
    rw [hinput] at hinput'
    exact nomatch hinput'
  -- after the end
  · intro trace entry hact _ hquiet hended hack
    rw [ackWritten_concat, hquiet] at hack
    have hreceived := hended (hack.resolve_right List.not_mem_nil)
    refine hreceived.quiet (by rw [hquiet]; rfl) ?_
    rintro sequence ⟨w', id', value, data, hact', -⟩
    rw [hact] at hact'
    exact nomatch hact'

/-- An acknowledged run has accepted what was delivered, in order. -/
theorem received_of_ack {engine₀ engine : WorkflowEngine StreamingTransferWorkflow}
    (hstart : Started engine₀) (h : EngineRun (FromDevice stream) engine₀ trace engine)
    (hack : AckWritten stream trace) : Received stream trace := by
  have hsettled := running_run hstart h
  rw [Settled] at hsettled
  split at hsettled
  · exact hsettled.received
  · exact hsettled hack

/-- A live transfer acknowledges the EOF of a stream it holds entirely exactly when the stream has
at most `2 ^ 16` packets and its last packet was delivered while the workflow was transferring. -/
theorem acknowledged_whole_iff (stream : PlaintextStream)
    {engine₀ engine : WorkflowEngine StreamingTransferWorkflow}
    {trace : List (EngineEntry StreamingTransferWorkflow)} (hstart : Started engine₀)
    (hrun : EngineRun (FromDevice stream) engine₀ trace engine) (hack : AckWritten stream trace) :
    appended trace = numbered 65536 stream ↔
      stream.length ≤ 65536 ∧
        (stream ≠ [] → ∃ entry ∈ trace, Delivers entry (stream.length - 1)) := by
  have hreceived := received_of_ack hstart hrun hack
  have hle := hreceived.accepts.length_le
  rw [hreceived.accepts.complete_iff]
  refine and_congr_right fun _ => ⟨fun hlen hne => ?_, fun hlast => ?_⟩
  · have hpos := List.length_pos_of_ne_nil hne
    exact hreceived.covered _ (by omega)
  · rcases List.eq_nil_or_concat stream with rfl | ⟨front, last, rfl⟩
    · exact Nat.le_zero.mp hle
    · obtain ⟨entry, hmem, hdel⟩ := hlast (by simp)
      have hlt := hreceived.delivered entry hmem _ hdel
      rw [List.concat_eq_append, List.length_append, List.length_singleton] at hlt hle ⊢
      omega

/-! ## A recording of two packets -/

def samplePackets : PlaintextStream := [[7], [8]]

/-- Subscription, START and DATA 0 with their callbacks. -/
def firstPacketEvents : List Event :=
  [.host ⟨2, .ble (.subscribed CHAR_RECORDING_TRANSFER)⟩, .host ⟨3, .ble .writeCompleted⟩,
    notifyEvent (dataPacket 0 [7]), .host ⟨4, .streamingSinkAccepted 1⟩]

/-- DATA 1 is lost; EOF, its finalization and the ACK write follow. -/
def lostTailEvents : List Event :=
  firstPacketEvents ++ [notifyEvent (eofPacket 2 0), .host ⟨5, .streamingSinkFinalized 0 1⟩,
    .host ⟨6, .ble .writeCompleted⟩]

/-- Both packets, EOF and its finalization. -/
def wholeEvents : List Event :=
  firstPacketEvents ++ [notifyEvent (dataPacket 1 [8]), .host ⟨5, .streamingSinkAccepted 2⟩,
    notifyEvent (eofPacket 2 0), .host ⟨6, .streamingSinkFinalized 0 2⟩]

theorem sends_sample {value : List UInt8}
    (h : value ∈ [dataPacket 0 [7], dataPacket 1 [8], eofPacket 2 0]) :
    samplePackets.Sends value := by
  simp only [List.mem_cons, List.not_mem_nil, or_false] at h
  rcases h with rfl | rfl | rfl
  · rw [PlaintextStream.Sends, parse_dataPacket]
    exact ⟨0, rfl, rfl⟩
  · rw [PlaintextStream.Sends, parse_dataPacket]
    exact ⟨1, rfl, rfl⟩
  · rw [PlaintextStream.Sends, parse_eofPacket _ (by decide)]
    rfl

/-- Every notification of the sample events is one of the device's packets. -/
theorem fromDevice_sample (events : List Event)
    (h : ∀ event ∈ events, ∀ value, (∃ id characteristicUuid,
      event = .host ⟨id, .ble (.notification characteristicUuid value)⟩) →
      value ∈ [dataPacket 0 [7], dataPacket 1 [8], eofPacket 2 0]) :
    Machine.Allowed WorkflowEngine.dispatch (FromDevice samplePackets) [] sampleEngine events :=
  Machine.allowed_of_forall
    (fun event hmem _ _ _ _ _ heq => sends_sample (h event hmem _ ⟨_, _, heq⟩)) _ _

/-- With its last packet lost, the stream is acknowledged and confirmed all the same. -/
theorem lost_tail_confirmed :
    ∃ trace engine, EngineRun (FromDevice samplePackets) sampleEngine trace engine ∧
      AckWritten samplePackets trace ∧
      commandEffect (.confirm sampleCommand.recording) ∈ requestedIn trace ∧
      appended trace ≠ numbered 65536 samplePackets := by
  refine ⟨_, _, Machine.Run.exec (fromDevice_sample lostTailEvents ?_), ?_, ?_, ?_⟩
  · simp [lostTailEvents, firstPacketEvents, notifyEvent]
  · decide
  · decide
  · decide

theorem acknowledged_whole_iff_sample :
    ∃ trace, AckWritten samplePackets trace ∧
      (appended trace = numbered 65536 samplePackets ↔
        samplePackets.length ≤ 65536 ∧ (samplePackets ≠ [] →
          ∃ entry ∈ trace, Delivers entry (samplePackets.length - 1))) := by
  have hrun := Machine.Run.exec (fromDevice_sample wholeEvents
    (by simp [wholeEvents, firstPacketEvents, notifyEvent]))
  have hack : AckWritten samplePackets
      (Machine.exec WorkflowEngine.dispatch [] sampleEngine wholeEvents).1 := by decide
  exact ⟨_, hack, acknowledged_whole_iff samplePackets started_sampleEngine hrun hack⟩

end StreamingTransferWorkflow

end BotaSdk
