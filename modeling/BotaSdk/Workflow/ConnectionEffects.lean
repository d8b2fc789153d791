import BotaSdk.Engine.History
import BotaSdk.Workflow.Connection

/-!
# What a connection asks of its host

It never writes to a device, and what it reports is about its own operation.
-/

namespace BotaSdk

open Connection History Protocol

namespace ConnectionWorkflow

/-- The effects of a connection. -/
def Kind : Effect → Prop
  | .ble (.startScan _) | .ble .stopScan | .ble (.connect _) | .ble (.discoverServices _)
  | .ble (.disconnect _) => True
  | .ble (.read _ characteristicUuid) => characteristicUuid = CHAR_SERIAL_NUMBER
  | .timer _ | .persistence _ => True
  | .notify (.connectionEstablished ..) | .notify (.failed _) => True
  | .notify (.started operation) | .notify (.completed operation)
  | .notify (.cancelled operation) => operation = .connect ∨ operation = .reconnect
  | _ => False

/-- The effects of a connection beside its scan. -/
def Plain : Effect → Prop
  | .ble (.connect _) | .ble (.discoverServices _) | .ble (.disconnect _) => True
  | .ble (.read _ characteristicUuid) => characteristicUuid = CHAR_SERIAL_NUMBER
  | .timer _ | .persistence _ => True
  | .notify (.connectionEstablished ..) | .notify (.failed _) => True
  | .notify (.started operation) | .notify (.completed operation)
  | .notify (.cancelled operation) => operation = .connect ∨ operation = .reconnect
  | _ => False

theorem Plain.kind {effect : Effect} (h : Plain effect) : Kind effect := by
  unfold Plain at h
  split at h <;> first | exact h | exact h.elim

/-- The call that an outcome returns, if any, only has effects of `P`. -/
def Emitting (P : Effect → Prop) (outcome : Outcome Call) : Prop :=
  ∀ call, outcome = .ok call → Emits P call.effects

section Emits

variable {w : ConnectionWorkflow} {context : WorkflowContext} {call : Call} {event : HostEvent}
  {P : Effect → Prop}

theorem operation_cases (w : ConnectionWorkflow) :
    w.operation = .connect ∨ w.operation = .reconnect := by
  unfold operation
  cases w.mode with
  | manual => exact .inl rfl
  | reconnect => exact .inr rfl

theorem emitting_ok (h : Emits P call.effects) : Emitting P (.ok call) := by
  intro other heq
  obtain rfl := Outcome.ok.inj heq
  exact h

theorem emitting_panicked : Emitting P .panicked :=
  fun _ h => nomatch h

/-! ## The shared parts -/

variable (hP : ∀ effect, Plain effect → P effect)

include hP

theorem emits_pushCheckpoint (h : Emits P call.effects) (phase : CheckpointPhase) :
    Emits P (pushCheckpoint phase call).effects := by
  unfold pushCheckpoint
  split
  · exact h
  · exact h.request (hP _ trivial)

theorem emits_scheduleTimer (h : Emits P call.effects) (delayMs : Nat)
    (track : Nat → RequestId → ConnectionWorkflow → ConnectionWorkflow) :
    Emits P (scheduleTimer delayMs track call).effects :=
  (h.update _).request (hP _ trivial)

theorem emits_cancelAttemptTimer (h : Emits P call.effects) :
    Emits P (cancelAttemptTimer call).effects := by
  unfold cancelAttemptTimer
  simp only
  split
  · exact h
  · exact ((h.update _).update _).request (hP _ trivial)

theorem emits_beginScan (hscan : P (.ble (.startScan true))) (h : Emits P call.effects) :
    Emits P (beginScan call).effects := by
  have hbegun : Emits P ((call.update fun w => { w with phase := .scanning }).request
      (.ble (.startScan true)) fun id w => { w with scanRequestId := some id }).effects :=
    (h.update _).request hscan
  exact emits_pushCheckpoint hP (emits_scheduleTimer hP hbegun _ _) _

theorem emits_stopScan (hstop : P (.ble .stopScan)) (h : Emits P call.effects) :
    Emits P (stopScan call).effects := by
  unfold stopScan
  refine emits_pushCheckpoint hP (Emits.push ?_ hstop) _
  split
  · exact h
  · exact Emits.request h (hP _ trivial)

theorem emits_beginConnection (h : Emits P call.effects) (candidate : DeviceCandidate)
    (verifySerial : Bool) : Emits P (beginConnection candidate verifySerial call).effects := by
  unfold beginConnection
  refine emits_pushCheckpoint hP (emits_scheduleTimer hP ?_ _ _) _
  exact (h.update _).request (hP _ trivial)

theorem emits_fail (h : Emits P call.effects) (error : DeviceSdkError) :
    Emits P (fail error call).effects :=
  (emits_cancelAttemptTimer hP (h.update _)).request (hP _ trivial)

theorem beginPersist_emitting (h : Emits P call.effects) : Emitting P (beginPersist call) := by
  unfold beginPersist
  simp only
  split
  · next candidate device _ _ =>
    refine emitting_ok (emits_pushCheckpoint hP (Emits.push ?_
      (show P (.persistence (.saveConnectionIdentity device candidate)) from hP _ trivial)) _)
    exact emits_cancelAttemptTimer hP (h.update _).allocate
  · exact emitting_panicked

theorem beginDisconnect_emitting (h : Emits P call.effects)
    (outcome : Connection.DisconnectOutcome) : Emitting P (beginDisconnect outcome call) := by
  unfold beginDisconnect
  simp only
  split
  · next candidate _ =>
    refine emitting_ok (emits_pushCheckpoint hP (Emits.push ?_
      (show P (.ble (.disconnect candidate.peripheralId)) from hP _ trivial)) _)
    exact emits_cancelAttemptTimer hP (h.update _).allocate
  · exact emitting_panicked

theorem beginNextProbe_emitting (h : Emits P call.effects) :
    Emitting P (beginNextProbe call) := by
  unfold beginNextProbe
  split
  · exact emitting_ok (emits_beginConnection hP h _ _)
  · split
    · exact emitting_ok (emits_fail hP h _)
    · exact emitting_panicked

theorem finishDisconnect_emitting (h : Emits P call.effects) :
    Emitting P (finishDisconnect call) := by
  unfold finishDisconnect
  split
  · exact beginNextProbe_emitting hP (h.update _)
  · exact emitting_ok (emits_fail hP (h.update _) _)
  · exact emitting_panicked

/-! ## The events -/

theorem scanStopped_emitting (h : Emits P call.effects) : Emitting P (scanStopped call) := by
  unfold scanStopped
  simp only
  split
  · exact emitting_ok (emits_beginConnection hP (h.update _) _ _)
  · exact beginNextProbe_emitting hP ((h.update _).update _)

theorem servicesDiscovered_emitting (h : Emits P call.effects) :
    Emitting P (servicesDiscovered call) := by
  unfold servicesDiscovered
  simp only
  split
  · exact emitting_ok (((h.update _).update _).request (hP _ rfl))
  · exact beginPersist_emitting hP (h.update _)

theorem serialRead_emitting (h : Emits P call.effects) (value : List UInt8) :
    Emitting P (serialRead value call) := by
  unfold serialRead
  simp only
  split
  · split
    · exact beginPersist_emitting hP ((h.update _).update _)
    · split
      · exact beginPersist_emitting hP ((h.update _).update _)
      · exact beginDisconnect_emitting hP (h.update _) _
  · exact beginDisconnect_emitting hP (h.update _) _

theorem identitySaved_emitting (h : Emits P call.effects) : Emitting P (identitySaved call) := by
  unfold identitySaved
  simp only
  split
  · refine emitting_ok (Emits.request (Emits.request (Emits.request ?_ (hP _ trivial)) (hP _ trivial))
      (hP _ ?_))
    · exact h
    · exact operation_cases _
  · exact emitting_panicked

theorem connectFailed_emitting (h : Emits P call.effects) (platformCode : Option Int) :
    Emitting P (connectFailed platformCode call) := by
  unfold connectFailed
  simp only
  split
  · exact beginNextProbe_emitting hP ((emits_cancelAttemptTimer hP (h.update _)).update _)
  · exact emitting_ok (emits_fail hP (h.update _) _)

theorem verificationFailed_emitting (h : Emits P call.effects) (platformCode : Option Int) :
    Emitting P (verificationFailed platformCode call) :=
  beginDisconnect_emitting hP (h.update _) _

theorem dispatchPhase_emitting (w : ConnectionWorkflow) (id : RequestId) (kind : HostEventKind)
    (hstop : w.phase = .scanning → P (.ble .stopScan))
    (h : Emits P call.effects) {outcome : Outcome Call}
    (heq : dispatchPhase w id kind call = some outcome) : Emitting P outcome := by
  have hquiet (f : ConnectionWorkflow → ConnectionWorkflow) : Emitting P (.ok (call.update f)) :=
    emitting_ok h
  unfold dispatchPhase at heq
  split at heq
  all_goals repeat' split at heq
  all_goals first | obtain rfl := Option.some.inj heq | exact nomatch heq
  · next hguard _ => exact emitting_ok (emits_stopScan hP (hstop hguard.1) ((h.update _).update _))
  · exact hquiet _
  · exact emitting_ok h
  · next hguard => exact emitting_ok (emits_stopScan hP (hstop hguard.1) h)
  · exact emitting_ok h
  · exact beginDisconnect_emitting hP h _
  · exact scanStopped_emitting hP h
  · next peripheralId _ =>
    refine emitting_ok (emits_pushCheckpoint hP (Emits.request ?_
      (show P (.ble (.discoverServices peripheralId)) from hP _ trivial)) _)
    exact h
  · exact hquiet _
  · exact servicesDiscovered_emitting hP h
  · exact hquiet _
  · exact serialRead_emitting hP h _
  · exact hquiet _
  · exact finishDisconnect_emitting hP (h.update _)
  · exact identitySaved_emitting hP h
  · exact hquiet _
  · exact connectFailed_emitting hP h _
  · exact verificationFailed_emitting hP h _
  · exact finishDisconnect_emitting hP (h.update _)

/-- An accepted event: its scan is only stopped while it runs. -/
theorem dispatch_emits (hstop : w.phase = .scanning → P (.ble .stopScan))
    (h : dispatch w event context = .ok call) : Emits P call.effects := by
  have hbegin : Emits P (Step.begin w context).effects := emits_nil
  unfold dispatch at h
  simp only at h
  split at h
  · obtain rfl := Reduction.ok_injective h
    exact hbegin
  · split at h
    · next outcome houtcome =>
      cases outcome with
      | ok other =>
        obtain rfl := Reduction.ok_injective h
        exact dispatchPhase_emitting hP w _ _ hstop hbegin houtcome _ rfl
      | err error => exact nomatch congrArg Reduction.outcome h
      | panicked => exact nomatch congrArg Reduction.outcome h
    · exact nomatch congrArg Reduction.outcome h

omit hP

theorem emits_dispatch (h : dispatch w event context = .ok call) : Emits Kind call.effects :=
  dispatch_emits (fun _ hplain => hplain.kind) (fun _ => trivial) h

theorem emits_start (h : start w context = .ok call) : Emits Kind call.effects := by
  have hstarted : Emits Kind ((Step.begin w context).request (.notify (.started w.operation))).effects :=
    Emits.request emits_nil (operation_cases w)
  unfold start at h
  simp only at h
  split at h
  · split at h
    · obtain rfl := Reduction.ok_injective h
      exact emits_beginConnection (fun _ hplain => hplain.kind) hstarted _ _
    · exact nomatch congrArg Reduction.outcome h
  · obtain rfl := Reduction.ok_injective h
    exact emits_beginScan (fun _ hplain => hplain.kind) trivial hstarted

theorem emits_cancel (h : cancel w context = .ok call) : Emits Kind call.effects := by
  rw [cancel_eq] at h
  obtain rfl := Reduction.ok_injective h
  refine Emits.request ?_ (operation_cases w)
  have hscan : Emits Kind (endScan w context).effects := by
    unfold endScan
    have hstop : Emits Kind ((Step.begin w context).request (.ble .stopScan)).effects :=
      Emits.request emits_nil trivial
    split
    · dsimp only
      split
      · exact hstop
      · exact hstop.request trivial
    · exact emits_nil
  unfold letGo
  split
  · exact hscan
  · exact (emits_cancelAttemptTimer (fun _ hplain => hplain.kind) hscan).request trivial

end Emits

end ConnectionWorkflow

end BotaSdk
