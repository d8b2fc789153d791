import BotaSdk.Lib.Run

/-!
# BYO recovery (`model/byo_upload.rs`)

The checkpoint of an upload to a customer's own storage.  Every call validates the checkpoint it was
given, moves it, and validates what it returns.
-/

namespace BotaSdk

inductive ByoEnvironment where
  | development
  | gamma
  | production
  deriving DecidableEq

structure ByoCapture where
  environment : ByoEnvironment
  organizationId : String
  projectId : String
  deviceId : String
  bindingGeneration : Nat
  deviceAssignmentGeneration : Nat
  policyRevision : String
  recordingUuid : String
  recordingGeneration : Nat
  deriving DecidableEq

structure ByoRoute where
  recordingId : String
  configurationId : String
  configurationRevision : Nat
  configurationSha256 : String
  destinationRef : String
  sessionId : String
  ownerRevision : Nat
  deriving DecidableEq

inductive ByoPhase where
  | new
  | webSocket
  | httpSegments
  | waitingForSource
  | fencePending
  | httpWholeFile
  | verifying
  | receiptVerified
  | cleanupPending
  | complete
  deriving DecidableEq

inductive ByoTransport where
  | webSocket
  | httpSegments
  | wholeFile
  deriving DecidableEq

inductive ByoHandoffMode where
  | assembled
  | wholeFile
  deriving DecidableEq

inductive ByoRetryAction where
  | reconnectAfterMs (delay : Nat)
  | waitForCompleteSource
  deriving DecidableEq

inductive ByoRecoveryError where
  | invalidState
  | identityConflict
  | sourceUnavailable
  | receiptMismatch
  deriving DecidableEq

structure ByoRecovery where
  version : Nat
  capture : ByoCapture
  route : Option ByoRoute
  phase : ByoPhase
  wsRetries : Nat
  sourceLength : Option Nat
  sourceSha256 : Option String
  pendingOperation : Option String
  handoffMode : Option ByoHandoffMode
  receiptSha256 : Option String
  renewalRevision : Nat
  renewalOperation : Option String
  deriving DecidableEq

namespace Byo

def U32_MAX : Nat := 4294967295

/-- `u32::checked_add`. -/
def checkedAdd (a b : Nat) : Option Nat :=
  if a + b ≤ U32_MAX then some (a + b) else none

/-! ## Texts -/

/-- `str::as_bytes`. -/
def asBytes (value : String) : List UInt8 :=
  value.toUTF8.data.toList

def isAsciiDigit (c : UInt8) : Bool :=
  48 ≤ c && c ≤ 57

def isAsciiAlphanumeric (c : UInt8) : Bool :=
  isAsciiDigit c || (65 ≤ c && c ≤ 90) || (97 ≤ c && c ≤ 122)

def isLowerHex (c : UInt8) : Bool :=
  isAsciiDigit c || (97 ≤ c && c ≤ 102)

/-- `id`: the other bytes allowed are `._:-`. -/
def isId (value : String) : Bool :=
  (asBytes value).head?.any isAsciiAlphanumeric && (asBytes value).length ≤ 128 &&
    (asBytes value).all fun c => isAsciiAlphanumeric c || [46, 95, 58, 45].contains c

/-- `hash`. -/
def isHash (value : String) : Bool :=
  (asBytes value).length = 64 && (asBytes value).all isLowerHex

/-- `uuid`: a hyphen at the four places, lower-case hexadecimal digits elsewhere. -/
def isUuid (value : String) : Bool :=
  (asBytes value).length = 36 && (asBytes value).zipIdx.all fun (c, i) =>
    if [8, 13, 18, 23].contains i then c = 45 else isLowerHex c

/-- The value of decimal digits, when all are. -/
def decimal (digits : List UInt8) : Option Nat :=
  if digits.all isAsciiDigit then some (digits.foldl (fun n c => 10 * n + (c.toNat - 48)) 0)
  else none

/-- `str::parse::<u64>`: decimal digits, after at most one plus sign, without overflow. -/
def parseU64 (value : String) : Option Nat :=
  let digits := match asBytes value with
    | 43 :: digits => digits
    | digits => digits
  if digits = [] then none else (decimal digits).filter (· ≤ 18446744073709551615)

end Byo

open Byo

namespace ByoRoute

variable (self other : ByoRoute)

def valid : Bool :=
  isId self.recordingId && isUuid self.configurationId && decide (0 < self.configurationRevision) &&
    isHash self.configurationSha256 && isId self.destinationRef && isUuid self.sessionId &&
    decide (0 < self.ownerRevision)

def sameDestination : Bool :=
  decide (self.recordingId = other.recordingId) &&
    decide (self.configurationId = other.configurationId) &&
    decide (self.configurationRevision = other.configurationRevision) &&
    decide (self.configurationSha256 = other.configurationSha256) &&
    decide (self.destinationRef = other.destinationRef)

end ByoRoute

def ByoPhase.hasReceipt : ByoPhase → Bool
  | .receiptVerified | .cleanupPending | .complete => true
  | _ => false

def ByoPhase.hasSource : ByoPhase → Bool
  | .httpWholeFile | .verifying | .receiptVerified | .cleanupPending | .complete => true
  | _ => false

namespace ByoRecovery

def invalid (self : ByoRecovery) : Bool :=
  decide (self.version ≠ 1) ||
    !isId self.capture.organizationId ||
    !isId self.capture.projectId ||
    !isId self.capture.deviceId ||
    decide (self.capture.bindingGeneration = 0) ||
    decide (self.capture.deviceAssignmentGeneration = 0) ||
    ((parseU64 self.capture.policyRevision).all fun n =>
      decide (n = 0) || decide (toString n ≠ self.capture.policyRevision)) ||
    !isUuid self.capture.recordingUuid ||
    decide (self.capture.recordingGeneration = 0) ||
    decide (3 < self.wsRetries) ||
    decide (self.renewalRevision = U32_MAX) ||
    self.renewalOperation.any (!isUuid ·) ||
    (self.renewalOperation.isSome &&
      (decide (self.phase = .new) || decide (self.phase = .complete))) ||
    self.route.any (!·.valid) ||
    (decide (self.phase ≠ .new) && self.route.isNone) ||
    (decide (self.phase = .new) && self.route.isSome) ||
    self.sourceLength.isSome != self.sourceSha256.isSome ||
    self.sourceLength.any (fun n => !(293 ≤ n && n ≤ 134217728)) ||
    self.sourceSha256.any (!isHash ·) ||
    self.pendingOperation.any (!isId ·) ||
    self.receiptSha256.any (!isHash ·) ||
    self.pendingOperation.isSome != decide (self.phase = .fencePending) ||
    self.handoffMode.isSome != decide (self.phase = .fencePending) ||
    self.receiptSha256.isSome != self.phase.hasReceipt ||
    (decide (self.phase = .fencePending) &&
      (self.pendingOperation.isNone || self.sourceLength.isNone)) ||
    (self.phase.hasSource && self.sourceLength.isNone) ||
    (self.phase.hasReceipt && self.receiptSha256.isNone)

def validate (self : ByoRecovery) : Except ByoRecoveryError Unit :=
  if self.invalid then .error .invalidState else .ok ()

def new (capture : ByoCapture) : Except ByoRecoveryError ByoRecovery := do
  let state : ByoRecovery := {
    version := 1
    capture
    route := none
    phase := .new
    wsRetries := 0
    sourceLength := none
    sourceSha256 := none
    pendingOperation := none
    handoffMode := none
    receiptSha256 := none
    renewalRevision := 0
    renewalOperation := none }
  state.validate
  return state

def authorize (self : ByoRecovery) (capture : ByoCapture) : Except ByoRecoveryError Unit := do
  self.validate
  if self.capture ≠ capture then throw .identityConflict

/-! ## Transitions

Each mutates a copy of the checkpoint, which `reduce` drops on an error. -/

def beginRenewal (self : ByoRecovery) (operation : String) (expectedRevision : Nat) :
    Except ByoRecoveryError ByoRecovery := do
  self.validate
  if self.route.isNone || self.phase = .complete || !isUuid operation ||
      expectedRevision ≠ self.renewalRevision || U32_MAX - 1 ≤ expectedRevision then
    throw .invalidState
  match self.renewalOperation with
  | some prior => if prior = operation then return self else throw .identityConflict
  | none => return { self with renewalOperation := some operation }

def renewalCommitted (self : ByoRecovery) (operation : String) (revision : Nat) :
    Except ByoRecoveryError ByoRecovery := do
  self.validate
  if self.renewalOperation ≠ some operation ||
      checkedAdd self.renewalRevision 1 ≠ some revision then
    throw .identityConflict
  return { self with renewalRevision := revision, renewalOperation := none }

def afterRestart (self : ByoRecovery) : Except ByoRecoveryError ByoRecovery := do
  self.validate
  if self.phase = .webSocket || self.phase = .httpSegments then
    return { self with phase := .waitingForSource }
  return self

def bindTransport (self : ByoRecovery) (route : ByoRoute) (transport : ByoTransport) :
    Except ByoRecoveryError ByoRecovery := do
  self.validate
  if self.phase ≠ .new || self.route.isSome || !route.valid then throw .identityConflict
  if transport = .wholeFile && self.sourceLength.isNone then throw .sourceUnavailable
  return { self with
    route := some route
    phase := match transport with
      | .webSocket => .webSocket
      | .httpSegments => .httpSegments
      | .wholeFile => .httpWholeFile }

/-- The delay before the next of three attempts to reconnect. -/
def reconnectDelay (wsRetries : Nat) : Nat :=
  match wsRetries with
  | 0 => 1000
  | 1 => 2000
  | _ => 4000

def wsFailed (self : ByoRecovery) : Except ByoRecoveryError (ByoRetryAction × ByoRecovery) := do
  self.validate
  if self.phase ≠ .webSocket then throw .invalidState
  if self.wsRetries < 3 then
    return (.reconnectAfterMs (reconnectDelay self.wsRetries),
      { self with wsRetries := self.wsRetries + 1 })
  return (.waitForCompleteSource, { self with phase := .waitingForSource })

def sourceFinalized (self : ByoRecovery) (bytes : Nat) (digest : String) :
    Except ByoRecoveryError ByoRecovery := do
  self.validate
  if !(293 ≤ bytes && bytes ≤ 134217728) || !isHash digest then throw .sourceUnavailable
  if self.sourceLength.isSome &&
      (self.sourceLength ≠ some bytes || self.sourceSha256 ≠ some digest) then
    throw .identityConflict
  return { self with sourceLength := some bytes, sourceSha256 := some digest }

def beginHandoff (self : ByoRecovery) (operation : String) (mode : ByoHandoffMode) :
    Except ByoRecoveryError ByoRecovery := do
  self.validate
  let phaseAllowed := match mode with
    | .wholeFile => decide (self.phase = .waitingForSource)
    | .assembled => decide (self.phase = .webSocket) || decide (self.phase = .httpSegments)
  if !phaseAllowed || self.sourceLength.isNone || !isId operation ||
      self.renewalOperation.isSome then
    throw .sourceUnavailable
  return { self with
    pendingOperation := some operation
    handoffMode := some mode
    phase := .fencePending }

def acceptHandoff (self : ByoRecovery) (operation : String) (successor : ByoRoute) :
    Except ByoRecoveryError ByoRecovery := do
  self.validate
  match self.route with
  | none => throw .invalidState
  | some previous =>
    if self.phase ≠ .fencePending || self.renewalOperation.isSome ||
        self.pendingOperation ≠ some operation || !successor.valid ||
        !previous.sameDestination successor ||
        checkedAdd previous.ownerRevision 1 ≠ some successor.ownerRevision ||
        previous.sessionId = successor.sessionId then
      throw .identityConflict
    return { self with
      route := some successor
      renewalRevision := 0
      pendingOperation := none
      handoffMode := none
      phase := match self.handoffMode with
        | some .assembled => .verifying
        | _ => .httpWholeFile }

def verificationPending (self : ByoRecovery) : Except ByoRecoveryError ByoRecovery := do
  self.validate
  if self.phase ≠ .httpWholeFile || self.sourceLength.isNone || self.renewalOperation.isSome then
    throw .invalidState
  return { self with phase := .verifying }

def receiptVerified (self : ByoRecovery) (digest : String) :
    Except ByoRecoveryError ByoRecovery := do
  self.validate
  if self.phase ≠ .verifying || !isHash digest || self.renewalOperation.isSome then
    throw .receiptMismatch
  return { self with receiptSha256 := some digest, phase := .receiptVerified }

def receiptPersisted (self : ByoRecovery) (digest : String) :
    Except ByoRecoveryError ByoRecovery := do
  self.validate
  if self.phase ≠ .receiptVerified || self.receiptSha256 ≠ some digest ||
      self.renewalOperation.isSome then
    throw .receiptMismatch
  return { self with phase := .cleanupPending }

def mayCleanup (self : ByoRecovery) : Bool :=
  !self.invalid && decide (self.phase = .cleanupPending) && self.renewalOperation.isNone

def cleanupFinished (self : ByoRecovery) : Except ByoRecoveryError ByoRecovery := do
  if !self.mayCleanup then throw .invalidState
  return { self with phase := .complete }

end ByoRecovery

/-! ## Requests -/

inductive ByoRecoveryEvent where
  | create
  | inspect
  | restart
  | bind (route : ByoRoute) (transport : ByoTransport)
  | webSocketFailed
  | streamUnavailable
  | sourceFinalized (bytes : Nat) (sha256 : String)
  | beginHandoff (operation : String) (mode : ByoHandoffMode)
  | handoffCommitted (operation : String) (successor : ByoRoute)
  | verificationPending
  | receiptVerified (sha256 : String)
  | receiptPersisted (sha256 : String)
  | cleanupFinished
  | beginRenewal (operation : String) (expectedRevision : Nat)
  | renewalCommitted (operation : String) (revision : Nat)
  deriving DecidableEq

structure ByoRecoveryRequest where
  checkpoint : Option ByoRecovery
  currentCapture : ByoCapture
  event : ByoRecoveryEvent
  deriving DecidableEq

structure ByoRecoveryReply where
  checkpoint : ByoRecovery
  retryAfterMs : Option Nat
  mayCleanup : Bool
  deriving DecidableEq

namespace ByoRecoveryRequest

/-- The copy of the checkpoint that the event is applied to. -/
def load (self : ByoRecoveryRequest) : Except ByoRecoveryError ByoRecovery := do
  match self.checkpoint with
  | some state =>
    state.authorize self.currentCapture
    return state
  | none =>
    if self.event = .create then ByoRecovery.new self.currentCapture else throw .invalidState

/-- The event's effect on the copy, with the delay it asks for. -/
def apply (self : ByoRecoveryRequest) (next : ByoRecovery) :
    Except ByoRecoveryError (Option Nat × ByoRecovery) :=
  let moved (result : Except ByoRecoveryError ByoRecovery) := result.map (none, ·)
  match self.event with
  | .create => if self.checkpoint.isNone then .ok (none, next) else .error .invalidState
  | .inspect => .ok (none, next)
  | .restart => moved next.afterRestart
  | .bind route transport => moved (next.bindTransport route transport)
  | .webSocketFailed => next.wsFailed.map fun (action, next) =>
      match action with
      | .reconnectAfterMs delay => (some delay, next)
      | .waitForCompleteSource => (none, next)
  | .streamUnavailable =>
    if next.phase = .webSocket ∨ next.phase = .httpSegments then
      .ok (none, { next with phase := .waitingForSource })
    else .error .invalidState
  | .sourceFinalized bytes sha256 => moved (next.sourceFinalized bytes sha256)
  | .beginHandoff operation mode => moved (next.beginHandoff operation mode)
  | .handoffCommitted operation successor => moved (next.acceptHandoff operation successor)
  | .verificationPending => moved next.verificationPending
  | .receiptVerified sha256 => moved (next.receiptVerified sha256)
  | .receiptPersisted sha256 => moved (next.receiptPersisted sha256)
  | .cleanupFinished => moved next.cleanupFinished
  | .beginRenewal operation expectedRevision =>
    moved (next.beginRenewal operation expectedRevision)
  | .renewalCommitted operation revision => moved (next.renewalCommitted operation revision)

def reduce (self : ByoRecoveryRequest) : Except ByoRecoveryError ByoRecoveryReply := do
  let (retryAfterMs, next) ← self.apply (← self.load)
  next.validate
  return { checkpoint := next, retryAfterMs, mayCleanup := next.mayCleanup }

end ByoRecoveryRequest

end BotaSdk
