import BotaSdk.Lib.Reader
import BotaSdk.Model.ByoUploadMoves

/-!
# The recovery checkpoint on disk (`model/byo_checkpoint.rs`)

A bounded and versioned form of `ByoRecovery`.  Format 1 ends before the renewal.
-/

namespace BotaSdk

open Byo Reader

namespace ByoCheckpoint

def INVALID : ByoRecoveryError := .invalidState

/-- `b"BYOR"`. -/
def MAGIC : List UInt8 := [66, 89, 79, 82]

def phaseCode : ByoPhase → UInt8
  | .new => 0
  | .webSocket => 1
  | .httpSegments => 2
  | .waitingForSource => 3
  | .fencePending => 4
  | .httpWholeFile => 5
  | .verifying => 6
  | .receiptVerified => 7
  | .cleanupPending => 8
  | .complete => 9

def phaseOf : UInt8 → Option ByoPhase
  | 0 => some .new
  | 1 => some .webSocket
  | 2 => some .httpSegments
  | 3 => some .waitingForSource
  | 4 => some .fencePending
  | 5 => some .httpWholeFile
  | 6 => some .verifying
  | 7 => some .receiptVerified
  | 8 => some .cleanupPending
  | 9 => some .complete
  | _ => none

def environmentCode : ByoEnvironment → UInt8
  | .development => 0
  | .gamma => 1
  | .production => 2

def environmentOf : UInt8 → Option ByoEnvironment
  | 0 => some .development
  | 1 => some .gamma
  | 2 => some .production
  | _ => none

def modeCode : ByoHandoffMode → UInt8
  | .assembled => 1
  | .wholeFile => 2

def modeOf : UInt8 → Option ByoHandoffMode
  | 1 => some .assembled
  | 2 => some .wholeFile
  | _ => none

/-! ## Writing -/

/-- `text`: the length is truncated to a byte. -/
def text (value : String) : List UInt8 :=
  UInt8.ofNat (asBytes value).length :: asBytes value

def num (value : Nat) : List UInt8 :=
  Bytes.beBytes 4 value

def captureBytes (capture : ByoCapture) : List UInt8 :=
  text capture.organizationId ++ text capture.projectId ++ text capture.deviceId ++
    num capture.bindingGeneration ++ num capture.deviceAssignmentGeneration ++
    text capture.policyRevision ++ text capture.recordingUuid ++ num capture.recordingGeneration

def routeBytes (route : ByoRoute) : List UInt8 :=
  text route.recordingId ++ text route.configurationId ++ num route.configurationRevision ++
    text route.configurationSha256 ++ text route.destinationRef ++ text route.sessionId ++
    num route.ownerRevision

def present {α : Type} (value : Option α) : List UInt8 :=
  [if value.isSome then 1 else 0]

def sourceBytes (sourceLength : Option Nat) (sourceSha256 : Option String) : List UInt8 :=
  present sourceLength ++
    match sourceLength, sourceSha256 with
    | some n, some hash => Bytes.beBytes 8 n ++ text hash
    | _, _ => []

def pendingBytes (pendingOperation : Option String) (handoffMode : Option ByoHandoffMode) :
    List UInt8 :=
  present pendingOperation ++
    match pendingOperation with
    | some op => text op ++
        [match handoffMode with
          | some .assembled => 1
          | _ => 2]
    | none => []

def optionalText (value : Option String) : List UInt8 :=
  present value ++
    match value with
    | some value => text value
    | none => []

end ByoCheckpoint

open ByoCheckpoint

namespace ByoRecovery

variable (self : ByoRecovery)

def encodeCheckpoint : Except ByoRecoveryError (List UInt8) := do
  self.validate
  return MAGIC ++ [2] ++
    [phaseCode self.phase, UInt8.ofNat self.wsRetries, environmentCode self.capture.environment] ++
    captureBytes self.capture ++ present self.route ++
    (match self.route with
      | some route => routeBytes route
      | none => []) ++
    sourceBytes self.sourceLength self.sourceSha256 ++
    pendingBytes self.pendingOperation self.handoffMode ++ optionalText self.receiptSha256 ++
    num self.renewalRevision ++ optionalText self.renewalOperation

end ByoRecovery

/-! ## Reading -/

namespace ByoCheckpoint

abbrev CheckpointReader := Reader ByoRecoveryError

def readNum : CheckpointReader Nat :=
  big INVALID 4

def readText : CheckpointReader String := do
  let n ← byte INVALID
  refuse INVALID (128 < n.toNat)
  required INVALID (String.fromUTF8? ⟨(← take INVALID n.toNat).toArray⟩)

def readCapture (environment : ByoEnvironment) : CheckpointReader ByoCapture := do
  let organizationId ← readText
  let projectId ← readText
  let deviceId ← readText
  let bindingGeneration ← readNum
  let deviceAssignmentGeneration ← readNum
  let policyRevision ← readText
  let recordingUuid ← readText
  let recordingGeneration ← readNum
  return {
    environment, organizationId, projectId, deviceId, bindingGeneration, deviceAssignmentGeneration,
    policyRevision, recordingUuid, recordingGeneration }

def readRoute : CheckpointReader ByoRoute := do
  let recordingId ← readText
  let configurationId ← readText
  let configurationRevision ← readNum
  let configurationSha256 ← readText
  let destinationRef ← readText
  let sessionId ← readText
  let ownerRevision ← readNum
  return {
    recordingId, configurationId, configurationRevision, configurationSha256, destinationRef,
    sessionId, ownerRevision }

def readSource : CheckpointReader (Nat × String) := do
  let n ← big INVALID 8
  let hash ← readText
  return (n, hash)

def readPending : CheckpointReader (String × ByoHandoffMode) := do
  let op ← readText
  let mode ← code INVALID modeOf
  return (op, mode)

def readRenewalRevision (format : UInt8) : CheckpointReader Nat :=
  if format = 2 then readNum else pure 0

def readRenewalOperation (format : UInt8) : CheckpointReader (Option String) :=
  if format = 2 then optional INVALID readText else pure none

/-- What follows the format. -/
def readState (format : UInt8) : CheckpointReader ByoRecovery := do
  let phase ← code INVALID phaseOf
  let wsRetries ← byte INVALID
  let environment ← code INVALID environmentOf
  let capture ← readCapture environment
  let route ← optional INVALID readRoute
  let source ← optional INVALID readSource
  let pending ← optional INVALID readPending
  let receiptSha256 ← optional INVALID readText
  let renewalRevision ← readRenewalRevision format
  let renewalOperation ← readRenewalOperation format
  return {
    version := 1, capture, route, phase
    wsRetries := wsRetries.toNat
    sourceLength := source.map (·.1)
    sourceSha256 := source.map (·.2)
    pendingOperation := pending.map (·.1)
    handoffMode := pending.map (·.2)
    receiptSha256, renewalRevision, renewalOperation }

def readCheckpoint : CheckpointReader ByoRecovery := do
  let magic ← take INVALID 4
  refuse INVALID (magic ≠ MAGIC)
  let format ← byte INVALID
  refuse INVALID (format ≠ 1 ∧ format ≠ 2)
  readState format

def decodeCheckpoint (bytes : List UInt8) : Except ByoRecoveryError ByoRecovery := do
  if 2048 < bytes.length then throw INVALID
  let (state, rest) ← readCheckpoint.run bytes
  if rest ≠ [] then throw INVALID
  state.validate
  return state

end ByoCheckpoint

end BotaSdk
