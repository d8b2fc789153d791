import BotaSdk.Engine.Runtime
import Mathlib.Algebra.GroupWithZero.Nat
import Mathlib.Data.Finset.Basic
import Mathlib.Data.List.Sort

/-!
# Connecting (`workflow/connection.rs`)

A manual connection knows its peripheral; a reconnection scans, picks candidates by what they
advertise, and probes them one after another until one reads the expected serial number.
-/

namespace BotaSdk

namespace Protocol

def SERVICE_DEVICE_INFO : String := "180A"
def CHAR_SERIAL_NUMBER : String := "2A25"
def CHAR_FIRMWARE_REVISION : String := "2A26"

end Protocol

open Protocol

namespace Connection

def MANUAL_CONNECTION_TIMEOUT_MS : Nat := 15000

inductive Phase where
  | pending
  | scanning
  | stoppingScan
  | connecting
  | discovering
  | readingSerial
  | disconnecting
  | persisting
  | completed
  | failed
  deriving DecidableEq

inductive DisconnectOutcome where
  | probeNext
  | fail (error : DeviceSdkError)
  deriving DecidableEq

end Connection

open Connection

structure ConnectionWorkflow where
  device : Option DeviceSerialNumber
  mode : ConnectionMode
  cancellationId : CancellationId
  hint : ReconnectHint
  phase : Connection.Phase
  discovered : List DeviceCandidate
  probeCandidates : List DeviceCandidate
  attemptedPeripheralIds : Finset String
  candidateIndex : Nat
  activeCandidate : Option DeviceCandidate
  verifySerial : Bool
  retryCount : Nat
  nextTimerId : Nat
  scanRequestId : Option RequestId
  scanTimerRequestId : Option RequestId
  scanTimerId : Option Nat
  stopScanRequestId : Option RequestId
  connectRequestId : Option RequestId
  attemptTimerRequestId : Option RequestId
  attemptTimerId : Option Nat
  discoverRequestId : Option RequestId
  readRequestId : Option RequestId
  disconnectRequestId : Option RequestId
  persistRequestId : Option RequestId
  checkpointRequestIds : Finset RequestId
  disconnectOutcome : Option Connection.DisconnectOutcome
  terminalError : Option DeviceSdkError
  deriving DecidableEq

namespace ConnectionWorkflow

def base (device : Option DeviceSerialNumber) (mode : ConnectionMode)
    (cancellationId : CancellationId) (hint : ReconnectHint) : ConnectionWorkflow where
  device := device
  mode := mode
  cancellationId := cancellationId
  hint := hint
  phase := .pending
  discovered := []
  probeCandidates := []
  attemptedPeripheralIds := ∅
  candidateIndex := 0
  activeCandidate := none
  verifySerial := false
  retryCount := 0
  nextTimerId := 1
  scanRequestId := none
  scanTimerRequestId := none
  scanTimerId := none
  stopScanRequestId := none
  connectRequestId := none
  attemptTimerRequestId := none
  attemptTimerId := none
  discoverRequestId := none
  readRequestId := none
  disconnectRequestId := none
  persistRequestId := none
  checkpointRequestIds := ∅
  disconnectOutcome := none
  terminalError := none

def manual (device : DeviceSerialNumber) (candidate : DeviceCandidate)
    (cancellationId : CancellationId) : ConnectionWorkflow :=
  { base (some device) .manual cancellationId {} with
    activeCandidate := some candidate, verifySerial := true }

def selected (candidate : DeviceCandidate) (cancellationId : CancellationId) :
    ConnectionWorkflow :=
  { base none .manual cancellationId {} with
    activeCandidate := some candidate, verifySerial := true }

def reconnect (device : DeviceSerialNumber) (hint : ReconnectHint)
    (cancellationId : CancellationId) : ConnectionWorkflow :=
  base (some device) .reconnect cancellationId hint

def operation (w : ConnectionWorkflow) : Operation :=
  match w.mode with
  | .manual => .connect
  | .reconnect => .reconnect

/-! ## Candidates -/

def recordCandidate (candidate : DeviceCandidate) (w : ConnectionWorkflow) : ConnectionWorkflow :=
  if w.discovered.any (·.peripheralId = candidate.peripheralId) then
    -- the first entry of this peripheral is replaced in place
    let index := w.discovered.findIdx (·.peripheralId = candidate.peripheralId)
    { w with discovered := w.discovered.set index candidate }
  else
    { w with discovered := w.discovered ++ [candidate] }

def isExactCandidate (w : ConnectionWorkflow) (candidate : DeviceCandidate) : Bool :=
  w.hint.storedPeripheralId = some candidate.peripheralId ||
    match w.hint.normalizedAdvertisedAddress with
    | some wanted => candidate.normalizedAdvertisedAddress = some wanted
    | none => false

/-- `str::strip_suffix`. -/
def stripSuffix (text suffix : List Char) : Option (List Char) :=
  if suffix <:+ text then some (text.take (text.length - suffix.length)) else none

/-- The last four bytes of a text, if they are whole characters. -/
def lastFour (text : List Char) : Option (List Char) :=
  text.tails.find? fun suffix => (suffix.map Char.utf8Size).sum = 4

def isModel (value : List Char) : Bool :=
  value ∈ ["Bota Pin".toList, "Bota Note".toList, "Bota Pin Pro".toList, "Bota Pin 4G".toList]

/-- The advertised names that a stored name stands for. -/
def namesDevice (storedName : String) (serialSuffix : Option (List Char)) (advertised : String) :
    Bool :=
  if advertised = storedName then true
  else
    match serialSuffix with
    | none => false
    | some serialSuffix =>
      -- canonical names and retired display overrides share the model and the serial's end
      let suffix := ' ' :: serialSuffix
      let model := (stripSuffix storedName.toList suffix).getD storedName.toList
      if isModel model then
        advertised.toList = model || stripSuffix advertised.toList suffix = some model
      else
        match stripSuffix advertised.toList suffix with
        | some value => isModel value
        | none => false

def isProbeCandidate (w : ConnectionWorkflow) (candidate : DeviceCandidate) : Bool :=
  let serialSuffix := w.device.bind fun device => lastFour device.value.toList
  some candidate.peripheralId ≠ w.activeCandidate.map (·.peripheralId) &&
    decide (candidate.peripheralId ∉ w.attemptedPeripheralIds) &&
    match w.hint.storedName, candidate.name with
    | some storedName, some advertised => namesDevice storedName serialSuffix advertised
    | none, some name => "Bota".toList.isPrefixOf name.toList
    | _, none => false

/-- The candidates that are left to probe, strongest signal first; equal ones stay in order. -/
def prepareProbeCandidates (w : ConnectionWorkflow) : ConnectionWorkflow :=
  { w with
    probeCandidates := (w.discovered.filter w.isProbeCandidate).insertionSort
      fun first second => second.rssi ≤ first.rssi
    candidateIndex := 0 }

/-! ## The effects of each phase -/

abbrev Call := Step ConnectionWorkflow

def readSerialEffect : Effect :=
  .ble (.read SERVICE_DEVICE_INFO CHAR_SERIAL_NUMBER)

/-- Schedules the next timer; `track` stores its identifier and its request. -/
def scheduleTimer (delayMs : Nat) (track : Nat → RequestId → ConnectionWorkflow → ConnectionWorkflow)
    (call : Call) : Call :=
  let timerId := call.workflow.nextTimerId
  (call.update fun w => { w with nextTimerId := saturatingAdd w.nextTimerId 1 }).request
    (.timer (.schedule timerId delayMs)) (track timerId)

def cancelAttemptTimer (call : Call) : Call :=
  let call := call.update fun w => { w with attemptTimerRequestId := none }
  match call.workflow.attemptTimerId with
  | none => call
  | some timerId =>
    (call.update fun w => { w with attemptTimerId := none }).request (.timer (.cancel timerId))

def pushCheckpoint (phase : CheckpointPhase) (call : Call) : Call :=
  match call.workflow.device with
  | none => call
  | some device =>
    call.request (.persistence (.saveCheckpoint {
      workflow := .connection
      operation := call.workflow.operation
      device
      recording := none
      phase
      completedUnits := call.workflow.candidateIndex
      retryCount := call.workflow.retryCount
      lastSequence := none
      firmwareVersion := none }))
      fun id w => { w with checkpointRequestIds := insert id w.checkpointRequestIds }

def beginScan (call : Call) : Call :=
  let scan := (call.update fun w => { w with phase := .scanning }).request (.ble (.startScan true))
    fun id w => { w with scanRequestId := some id }
  pushCheckpoint .reconnecting (scheduleTimer scan.workflow.hint.scanTimeoutMs
    (fun timerId id w => { w with scanTimerRequestId := some id, scanTimerId := some timerId }) scan)

/-- The stop is requested before the timer's cancellation, and returned after it. -/
def stopScan (call : Call) : Call :=
  let call := call.update fun w => { w with phase := .stoppingScan }
  let stop := call.next (.ble .stopScan)
  let call := call.allocate fun id w =>
    { w with
      disconnectRequestId := none, discoverRequestId := none, readRequestId := none
      connectRequestId := none, stopScanRequestId := some id }
  let call := match call.workflow.scanTimerId with
    | none => call
    | some timerId => call.request (.timer (.cancel timerId))
  pushCheckpoint .reconnecting (call.push stop)

def connectionTimeoutMs (w : ConnectionWorkflow) : Nat :=
  match w.mode with
  | .manual => MANUAL_CONNECTION_TIMEOUT_MS
  | .reconnect => w.hint.connectionTimeoutMs

def beginConnection (candidate : DeviceCandidate) (verifySerial : Bool) (call : Call) : Call :=
  let connect := (call.update fun w =>
    { w with
      phase := .connecting
      attemptedPeripheralIds := insert candidate.peripheralId w.attemptedPeripheralIds
      activeCandidate := some candidate, verifySerial := verifySerial
      discoverRequestId := none, readRequestId := none, disconnectRequestId := none
      persistRequestId := none }).request (.ble (.connect candidate.peripheralId))
    fun id w => { w with connectRequestId := some id }
  pushCheckpoint .connecting (scheduleTimer connect.workflow.connectionTimeoutMs
    (fun timerId id w => { w with attemptTimerRequestId := some id, attemptTimerId := some timerId })
    connect)

/-- The save is requested before the timer's cancellation, and returned after it. -/
def beginPersist (call : Call) : Outcome Call :=
  let call := call.update fun w => { w with phase := .persisting }
  match call.workflow.activeCandidate, call.workflow.device with
  | some candidate, some device =>
    let persist := call.next (.persistence (.saveConnectionIdentity device candidate))
    let call := cancelAttemptTimer (call.allocate fun id w => { w with persistRequestId := some id })
    .ok (pushCheckpoint .verifying (call.push persist))
  | _, _ => .panicked

def beginDisconnect (outcome : Connection.DisconnectOutcome) (call : Call) : Outcome Call :=
  let call := call.update fun w =>
    { w with phase := .disconnecting, disconnectOutcome := some outcome }
  match call.workflow.activeCandidate with
  | some candidate =>
    let disconnect := call.next (.ble (.disconnect candidate.peripheralId))
    let call := cancelAttemptTimer
      (call.allocate fun id w => { w with disconnectRequestId := some id })
    .ok (pushCheckpoint .reconnecting (call.push disconnect))
  | none => .panicked

def fail (error : DeviceSdkError) (call : Call) : Call :=
  (cancelAttemptTimer (call.update fun w =>
    { w with phase := .failed, terminalError := some error })).request (.notify (.failed error))

def beginNextProbe (call : Call) : Outcome Call :=
  match call.workflow.probeCandidates[call.workflow.candidateIndex]? with
  | some candidate => .ok (beginConnection candidate true call)
  | none =>
    match call.workflow.device with
    | some device =>
      .ok (fail ((DeviceSdkError.new .deviceNotFound .reconnect true).withDetail
        s!"device {device.value} was not found") call)
    | none => .panicked

/-- `u16::saturating_add` of the retry counter. -/
def retried (w : ConnectionWorkflow) : ConnectionWorkflow :=
  { w with retryCount := min (w.retryCount + 1) 65535 }

def finishDisconnect (call : Call) : Outcome Call :=
  match call.workflow.disconnectOutcome with
  | some .probeNext =>
    beginNextProbe (call.update fun w =>
      let w := retried { w with disconnectOutcome := none }
      if w.probeCandidates.isEmpty then prepareProbeCandidates w
      else { w with candidateIndex := saturatingAdd w.candidateIndex 1 })
  | some (.fail error) => .ok (fail error (call.update fun w => { w with disconnectOutcome := none }))
  | none => .panicked

/-- `String::from_utf8`. -/
def fromUtf8 (value : List UInt8) : Option String :=
  String.fromUTF8? ⟨value.toArray⟩

/-- `str::trim_matches(['\0', ' ', '\r', '\n'])`. -/
def trimMatches (text : String) : String :=
  let padding (character : Char) : Bool :=
    character = Char.ofNat 0 || character = ' ' || character = '\r' || character = '\n'
  String.ofList ((text.toList.dropWhile padding).reverse.dropWhile padding).reverse

def identityMismatch (detail : String) : DeviceSdkError :=
  (DeviceSdkError.new .identityMismatch .connect false).withDetail detail

def parseSerial (value : List UInt8) : Except DeviceSdkError DeviceSerialNumber :=
  match fromUtf8 value with
  | none => .error (identityMismatch "serial number is not UTF-8")
  | some text =>
    match DeviceSerialNumber.new (trimMatches text) with
    | .ok serial => .ok serial
    | .error _ => .error (identityMismatch "serial number is malformed")

/-! ## The reducer -/

def start (w : ConnectionWorkflow) (context : WorkflowContext) : Reduction ConnectionWorkflow :=
  let started := (Step.begin w context).request (.notify (.started w.operation))
  match w.mode with
  | .manual =>
    match w.activeCandidate with
    | some candidate => .ok (beginConnection candidate true started)
    | none => .panic w context
  | .reconnect => .ok (beginScan started)

/-- A failed attempt ends a manual connection; a reconnection goes on probing. -/
def attemptOutcome (w : ConnectionWorkflow) (error : DeviceSdkError) :
    Connection.DisconnectOutcome :=
  match w.mode with
  | .manual => .fail error
  | .reconnect => .probeNext

/-- The host removed the scan. -/
def scanStopped (call : Call) : Outcome Call :=
  let call := call.update fun w =>
    { w with
      scanRequestId := none, scanTimerRequestId := none, scanTimerId := none
      stopScanRequestId := none }
  match call.workflow.activeCandidate with
  | some candidate => .ok (beginConnection candidate true call)
  | none => beginNextProbe (call.update prepareProbeCandidates)

def connected (peripheralId : String) (call : Call) : Call :=
  pushCheckpoint .verifying ((call.update fun w =>
    { w with connectRequestId := none, phase := .discovering }).request
    (.ble (.discoverServices peripheralId)) fun id w => { w with discoverRequestId := some id })

def servicesDiscovered (call : Call) : Outcome Call :=
  let call := call.update fun w => { w with discoverRequestId := none }
  if call.workflow.verifySerial then
    .ok ((call.update fun w => { w with phase := .readingSerial }).request readSerialEffect
      fun id w => { w with readRequestId := some id })
  else beginPersist call

def serialRead (value : List UInt8) (call : Call) : Outcome Call :=
  let call := call.update fun w => { w with readRequestId := none }
  match parseSerial value with
  | .ok readSerial =>
    match call.workflow.device with
    | none => beginPersist (call.update fun w => { w with device := some readSerial })
    | some device =>
      if device = readSerial then
        beginPersist (call.update fun w => { w with device := some readSerial })
      else
        beginDisconnect (call.workflow.attemptOutcome (identityMismatch
          s!"selected device serial is {readSerial.value}, expected {device.value}")) call
  | .error error => beginDisconnect (call.workflow.attemptOutcome error) call

def identitySaved (call : Call) : Outcome Call :=
  let call := call.update fun w => { w with persistRequestId := none, phase := .completed }
  match call.workflow.activeCandidate, call.workflow.device with
  | some candidate, some device =>
    .ok (((call.request (.persistence .deleteCheckpoint)).request
      (.notify (.connectionEstablished device candidate call.workflow.mode))).request
      (.notify (.completed call.workflow.operation)))
  | _, _ => .panicked

def connectFailed (platformCode : Option Int) (call : Call) : Outcome Call :=
  let call := call.update fun w => { w with connectRequestId := none }
  match call.workflow.mode with
  | .reconnect =>
    beginNextProbe ((cancelAttemptTimer call).update fun w => retried (prepareProbeCandidates w))
  | .manual =>
    .ok (fail ((DeviceSdkError.new .connectionFailed call.workflow.operation true).withDetail
      s!"BLE connect failed with code {debugPlatformCode platformCode}") call)

def verificationFailed (platformCode : Option Int) (call : Call) : Outcome Call :=
  let call := call.update fun w => { w with discoverRequestId := none, readRequestId := none }
  beginDisconnect (call.workflow.attemptOutcome
    ((DeviceSdkError.new .connectionFailed call.workflow.operation true).withDetail
      s!"BLE connection verification failed with code {debugPlatformCode platformCode}")) call

def attemptTimedOut (call : Call) : Outcome Call :=
  beginDisconnect (call.workflow.attemptOutcome
    ((DeviceSdkError.new .timeout .connect true).withDetail
      "connection verification timed out")) call

def unexpected (w : ConnectionWorkflow) : DeviceSdkError :=
  (DeviceSdkError.new .unexpectedEvent w.operation false).withDetail
    "event does not belong to the active connection phase"

def settleCall (w : ConnectionWorkflow) (context : WorkflowContext) :
    Outcome Call → Reduction ConnectionWorkflow
  | .ok call => .ok call
  | .err error => .err w context error
  | .panicked => .panic w context

/-- The callbacks of the active candidate. -/
def isActive (w : ConnectionWorkflow) (peripheralId : String) : Bool :=
  w.activeCandidate.map (·.peripheralId) = some peripheralId

/-- An event in its phase; `none` is the rejection at the end of the match. -/
def dispatchPhase (w : ConnectionWorkflow) (id : RequestId) (kind : HostEventKind) (call : Call) :
    Option (Outcome Call) :=
  match kind with
  | .ble (.scanResult candidate) =>
    if w.phase = .scanning ∧ some id = w.scanRequestId then
      let recorded := call.update (recordCandidate candidate)
      if w.isExactCandidate candidate then
        some (.ok (stopScan (recorded.update fun w =>
          { w with activeCandidate := some candidate, verifySerial := true })))
      else some (.ok recorded)
    -- results already queued while the subscription is removed
    else if w.phase = .stoppingScan ∧ some id = w.scanRequestId then some (.ok call)
    else none
  | .timerFired timerId =>
    if w.phase = .scanning ∧ some id = w.scanTimerRequestId ∧ some timerId = w.scanTimerId then
      some (.ok (stopScan call))
    else if w.phase = .stoppingScan ∧ some id = w.scanTimerRequestId ∧
        some timerId = w.scanTimerId then
      some (.ok call)
    else if some id = w.attemptTimerRequestId ∧ some timerId = w.attemptTimerId then
      some (attemptTimedOut call)
    else none
  | .ble .scanStopped =>
    if w.phase = .stoppingScan ∧ some id = w.stopScanRequestId then some (scanStopped call) else none
  | .ble (.connected peripheralId) =>
    if w.phase = .connecting ∧ some id = w.connectRequestId ∧ w.isActive peripheralId then
      some (.ok (connected peripheralId call))
    -- a late result while its attempt is disconnected
    else if w.phase = .disconnecting ∧ some id = w.connectRequestId ∧ w.isActive peripheralId then
      some (.ok (call.update fun w => { w with connectRequestId := none }))
    else none
  | .ble (.servicesDiscovered peripheralId) =>
    if w.phase = .discovering ∧ some id = w.discoverRequestId ∧ w.isActive peripheralId then
      some (servicesDiscovered call)
    else if w.phase = .disconnecting ∧ some id = w.discoverRequestId ∧ w.isActive peripheralId then
      some (.ok (call.update fun w => { w with discoverRequestId := none }))
    else none
  | .ble (.readCompleted value) =>
    if w.phase = .readingSerial ∧ some id = w.readRequestId then some (serialRead value call)
    else if w.phase = .disconnecting ∧ some id = w.readRequestId then
      some (.ok (call.update fun w => { w with readRequestId := none }))
    else none
  | .ble (.disconnected peripheralId _) =>
    if w.phase = .disconnecting ∧ some id = w.disconnectRequestId ∧ w.isActive peripheralId then
      some (finishDisconnect (call.update fun w => { w with disconnectRequestId := none }))
    else none
  | .connectionIdentitySaved =>
    if w.phase = .persisting ∧ some id = w.persistRequestId then some (identitySaved call) else none
  | .ble (.failed platformCode) =>
    if w.phase = .disconnecting ∧
        (some id = w.connectRequestId ∨ some id = w.discoverRequestId ∨
          some id = w.readRequestId) then
      let clear (request : Option RequestId) := if some id = request then none else request
      some (.ok (call.update fun w =>
        { w with
          connectRequestId := clear w.connectRequestId
          discoverRequestId := clear w.discoverRequestId
          readRequestId := clear w.readRequestId }))
    else if some id = w.connectRequestId then some (connectFailed platformCode call)
    else if some id = w.discoverRequestId ∨ some id = w.readRequestId then
      some (verificationFailed platformCode call)
    else if some id = w.disconnectRequestId then
      some (finishDisconnect (call.update fun w => { w with disconnectRequestId := none }))
    else none
  | _ => none

def dispatch (w : ConnectionWorkflow) (event : HostEvent) (context : WorkflowContext) :
    Reduction ConnectionWorkflow :=
  let call := Step.begin w context
  if event.kind = .checkpointSaved ∧ event.requestId ∈ w.checkpointRequestIds then
    .ok (call.update fun w =>
      { w with checkpointRequestIds := w.checkpointRequestIds.erase event.requestId })
  else
    match dispatchPhase w event.requestId event.kind call with
    | some outcome => settleCall w context outcome
    | none => .err w context w.unexpected

def cancel (w : ConnectionWorkflow) (context : WorkflowContext) : Reduction ConnectionWorkflow :=
  let call := Step.begin w context
  let call :=
    if w.phase = .scanning then
      let call := call.request (.ble .stopScan)
      match call.workflow.scanTimerId with
      | none => call
      | some timerId => call.request (.timer (.cancel timerId))
    else call
  let call := match call.workflow.activeCandidate with
    | none => call
    | some candidate =>
      (cancelAttemptTimer call).request (.ble (.disconnect candidate.peripheralId))
  .ok (call.request (.notify (.cancelled w.operation)))

/-- The scan that a cancellation ends. -/
def endScan (w : ConnectionWorkflow) (context : WorkflowContext) : Call :=
  if w.phase = .scanning then
    let call := (Step.begin w context).request (.ble .stopScan)
    match call.workflow.scanTimerId with
    | none => call
    | some timerId => call.request (.timer (.cancel timerId))
  else Step.begin w context

/-- The peripheral that a cancellation disconnects. -/
def letGo (candidate : Option DeviceCandidate) (call : Call) : Call :=
  match candidate with
  | none => call
  | some candidate => (cancelAttemptTimer call).request (.ble (.disconnect candidate.peripheralId))

theorem cancel_eq (w : ConnectionWorkflow) (context : WorkflowContext) :
    cancel w context = .ok ((letGo (endScan w context).workflow.activeCandidate
      (endScan w context)).request (.notify (.cancelled w.operation))) :=
  rfl

def terminalStatus (w : ConnectionWorkflow) : Outcome (Option WorkflowStatus) :=
  match w.phase with
  | .completed => .ok (some (.completed w.operation))
  | .failed =>
    match w.terminalError with
    | some error => .ok (some (.failed error))
    | none => .panicked
  | _ => .ok none

instance : WorkflowReducer ConnectionWorkflow where
  start := start
  dispatch := dispatch
  cancel := cancel
  terminalStatus := terminalStatus
  cancellationId := (·.cancellationId)
  operation := operation

end ConnectionWorkflow

/-- `Command::Connect`, `Command::ConnectSelected` and `Command::Reconnect`. -/
inductive ConnectionCommand where
  | connect (device : DeviceSerialNumber) (candidate : DeviceCandidate)
  | connectSelected (candidate : DeviceCandidate)
  | reconnect (device : DeviceSerialNumber) (hint : ReconnectHint)
  deriving DecidableEq

instance : WorkflowCommand ConnectionCommand ConnectionWorkflow where
  operation
    | .connect .. | .connectSelected _ => .connect
    | .reconnect .. => .reconnect
  requiredCapabilitySlice _ := [.ble, .timer, .persistence]
  create command cancellationId :=
    match command with
    | .connect device candidate => .ok (.manual device candidate cancellationId)
    | .connectSelected candidate => .ok (.selected candidate cancellationId)
    | .reconnect device hint => .ok (.reconnect device hint cancellationId)

end BotaSdk
