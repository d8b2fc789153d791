import BotaSdk.Engine.Timers

/-!
# Discovering devices (`workflow/discovery.rs`)
-/

namespace BotaSdk

namespace Discovery

def DISCOVERY_TIMER_ID : Nat := 1

inductive Phase where
  | scanning
  | stopping
  | completed
  | cancelled
  deriving DecidableEq

end Discovery

open Discovery

structure DiscoveryWorkflow where
  cancellationId : CancellationId
  timeoutMs : Nat
  allowDuplicates : Bool
  scanRequestId : Option RequestId := none
  timerRequestId : Option RequestId := none
  stopRequestId : Option RequestId := none
  phase : Discovery.Phase := .scanning
  deriving DecidableEq

namespace DiscoveryWorkflow

abbrev Call := Step DiscoveryWorkflow

def start (w : DiscoveryWorkflow) (context : WorkflowContext) : Reduction DiscoveryWorkflow :=
  let started := (Step.begin w context).request (.notify (.started .discover))
  let scan := started.request (.ble (.startScan w.allowDuplicates))
    fun id w => { w with scanRequestId := some id }
  .ok (scan.request (.timer (.schedule DISCOVERY_TIMER_ID w.timeoutMs))
    fun id w => { w with timerRequestId := some id })

def unexpectedEvent : DeviceSdkError :=
  (DeviceSdkError.new .unexpectedEvent .discover false).withDetail
    "event does not belong to the active discovery request"

def dispatch (w : DiscoveryWorkflow) (event : HostEvent) (context : WorkflowContext) :
    Reduction DiscoveryWorkflow :=
  let call := Step.begin w context
  let id := event.requestId
  let reject : Reduction DiscoveryWorkflow := .err w context unexpectedEvent
  match event.kind with
  | .ble (.scanResult candidate) =>
    if w.phase = .scanning ∧ some id = w.scanRequestId then
      .ok (call.request (.notify (.deviceDiscovered candidate)))
    else reject
  | .timerFired timerId =>
    if w.phase = .scanning ∧ timerId = DISCOVERY_TIMER_ID ∧ some id = w.timerRequestId then
      .ok (call.request (.ble .stopScan) fun id w =>
        { w with stopRequestId := some id, phase := .stopping })
    else reject
  | .ble .scanStopped =>
    if w.phase = .stopping ∧ some id = w.stopRequestId then
      .ok ((call.update fun w => { w with phase := .completed }).request
        (.notify (.completed .discover)))
    else reject
  | _ => reject

def cancel (w : DiscoveryWorkflow) (context : WorkflowContext) : Reduction DiscoveryWorkflow :=
  let call := Step.begin w context
  let call := if w.phase = .scanning then call.request (.ble .stopScan) else call
  let call :=
    if w.phase = .scanning ∨ w.phase = .stopping then
      call.request (.timer (.cancel DISCOVERY_TIMER_ID))
    else call
  .ok ((call.request (.notify (.cancelled .discover))).update fun w =>
    { w with phase := .cancelled })

def terminalStatus (w : DiscoveryWorkflow) : Outcome (Option WorkflowStatus) :=
  if w.phase = .completed then .ok (some (.completed .discover)) else .ok none

instance : WorkflowReducer DiscoveryWorkflow where
  start := start
  dispatch := dispatch
  cancel := cancel
  terminalStatus := terminalStatus
  cancellationId := (·.cancellationId)
  operation _ := .discover

end DiscoveryWorkflow

/-- `Command::DiscoverDevices`. -/
structure DiscoveryCommand where
  timeoutMs : Nat
  allowDuplicates : Bool
  deriving DecidableEq

instance : WorkflowCommand DiscoveryCommand DiscoveryWorkflow where
  operation _ := .discover
  requiredCapabilitySlice _ := [.ble, .timer]
  create command cancellationId :=
    .ok { cancellationId, timeoutMs := command.timeoutMs, allowDuplicates := command.allowDuplicates }

end BotaSdk
