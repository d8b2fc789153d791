import Mathlib.Data.List.DropRight
import BotaSdk.Lib.Run
import BotaSdk.Model.ByoUpload
import BotaSdk.Protocol.LocalWifiTransfer

/-!
# Managed uploads (`model/managed_upload.rs`): inputs and journals

A host keeps one journal record for each recording that it uploads.  `SaveJournal` computes the next
record from the stored one; `LocalWifiRecovery` decides whether a checkpoint may be continued.
-/

namespace BotaSdk

open Byo

inductive ManagedUploadError where
  | invalidInput
  | identityConflict
  | journal
  | invalidDocument
  | pending
  | expired
  | state
  deriving DecidableEq

structure ManagedUploadScope where
  apiOrigin : String
  apiBasePath : Option String
  accountId : String
  projectId : String
  organizationId : String
  environment : String
  endUserId : String
  deviceId : String
  bindingGeneration : UInt32
  serialNumber : String
  nativeDeviceId : String
  scopeKey : String
  deriving DecidableEq

structure ManagedUploadRecording where
  uuid : String
  generation : UInt32
  ciphertextLength : String
  ciphertextSha256 : String
  startedAtMs : String
  durationMs : String
  plaintextLength : String
  storageFormat : UInt8
  markersRequired : Option Bool
  deriving DecidableEq

structure ManagedUploadCapability where
  localWifiRawValueHex : Option String
  rawValueHex : String
  flags : UInt32
  deriving DecidableEq

structure ManagedUploadCheckpoint where
  version : UInt32
  uploadSessionId : String
  ownerRevision : UInt32
  revision : UInt32
  nextCiphertextOffset : String
  prefixSha256 : String
  highestContiguousSequence : Option UInt32
  transportSessionId : String
  sinkRegistrationId : String
  windowPackets : UInt16
  dataPayloadBytes : UInt16
  deriving DecidableEq

structure ManagedUploadEntry where
  recordingId : String
  sessionId : Option String
  ownerRevision : Option UInt32
  deriving DecidableEq

structure ManagedUploadInput where
  operationId : String
  scope : ManagedUploadScope
  recording : ManagedUploadRecording
  capability : ManagedUploadCapability
  checkpoint : Option ManagedUploadCheckpoint
  priorJournalEntry : Option ManagedUploadEntry
  journalKey : Option String
  deriving DecidableEq

structure ManagedUploadJournal where
  version : UInt8
  identity : String
  phase : String
  entry : Option ManagedUploadEntry
  importedPriorSha256 : Option String
  authorizationNonceSha256 : Option String
  recoveryNonceBase64 : Option String
  localRecoveryParents : List ManagedUploadEntry
  deriving DecidableEq

/-- `serde_json::Value`. -/
inductive Value where
  | string (value : String)
  | number (value : Nat)
  | bool (value : Bool)
  | array (values : List Value)
  | object (members : List (String × Value))

/-- `Sha256::digest` and `serde_json::to_vec`, which does not fail on a value. -/
structure Digests where
  sha256 : List UInt8 → FixedBytes 32
  toVec : Value → List UInt8

namespace ManagedUpload

/-! ## Texts -/

def SAFE : Nat := 9007199254740991
def DATE_MAX : Nat := 253402300799999
def U64_MAX : Nat := 18446744073709551615
def I32_MAX : Nat := 2147483647

def idByte (c : UInt8) : Bool :=
  isAsciiAlphanumeric c || c = 95 || c = 45

def scopeId (v : String) : Bool :=
  asBytes v ≠ [] && (asBytes v).length ≤ 256 && v ≠ "." && v ≠ ".." &&
    (asBytes v).all fun c => idByte c || [46, 58, 64].contains c

/-- A path is empty, or slashes each followed by a nonempty name. -/
def basePath (v : String) : Bool :=
  match asBytes v with
  | [] => true
  | c :: rest => c = 47 && (rest.splitOn 47).all fun name => name ≠ [] && name.all idByte

def hex (v : List UInt8) (n : Nat) : Bool :=
  v.length = 2 * n && v.all isLowerHex

def nibble (c : UInt8) : UInt8 :=
  if c ≤ 57 then c - 48 else c - 97 + 10

def unhexPairs : List UInt8 → List UInt8
  | high :: low :: rest => (nibble high * 16 + nibble low) :: unhexPairs rest
  | _ => []

def unhex (v : List UInt8) : Except ManagedUploadError (List UInt8) :=
  if v.length % 2 = 0 ∧ hex v (v.length / 2) then .ok (unhexPairs v) else .error .invalidInput

def uuidArray (v : String) : Except ManagedUploadError (FixedBytes 16) := do
  if ¬isUuid v then throw .invalidDocument
  let bytes ← unhex ((asBytes v).filter (· ≠ 45))
  if h : bytes.length = 16 then return ⟨bytes, h⟩
  throw .invalidDocument

def decimal (v : String) (max : Nat) : Except ManagedUploadError Nat :=
  if asBytes v = [] ∨ (1 < (asBytes v).length ∧ (asBytes v).head? = some 48) then
    .error .invalidInput
  else
    match Byo.decimal (asBytes v) with
    | some n => if n ≤ U64_MAX ∧ n ≤ max then .ok n else .error .invalidInput
    | none => .error .invalidInput

def httpsUrl (v : String) (origin : Bool) : Bool :=
  if !(asBytes "https://").isPrefixOf (asBytes v) then false
  else
    let rest := (asBytes v).drop 8
    if rest = [] || (asBytes v).any (fun c => c ≤ 32 || 127 ≤ c) ||
        rest.any [64, 35, 92].contains then
      false
    else
      let authority := rest.takeWhile fun c => c ≠ 47 && c ≠ 63
      if authority = [] ||
          !authority.all (fun c => isAsciiAlphanumeric c || [46, 45, 58, 91, 93].contains c) then
        false
      else !origin || rest = authority

/-! ## Base64 -/

def base64Table : List UInt8 :=
  asBytes "ABCDEFGHIJKLMNOPQRSTUVWXYZabcdefghijklmnopqrstuvwxyz0123456789+/"

def base64Symbol (index : UInt8) : UInt8 :=
  base64Table.getD index.toNat 0

/-- `base64`, as the bytes of its text. -/
def base64 : List UInt8 → List UInt8
  | [] => []
  | [a] => [base64Symbol (a >>> 2), base64Symbol ((a &&& 3) <<< 4), 61, 61]
  | [a, b] =>
    [base64Symbol (a >>> 2), base64Symbol ((a &&& 3) <<< 4 ||| b >>> 4),
      base64Symbol ((b &&& 15) <<< 2), 61]
  | a :: b :: d :: rest =>
    base64Symbol (a >>> 2) :: base64Symbol ((a &&& 3) <<< 4 ||| b >>> 4) ::
      base64Symbol ((b &&& 15) <<< 2 ||| d >>> 6) :: base64Symbol (d &&& 63) :: base64 rest

def base64Digit (c : UInt8) : Option UInt8 :=
  if 65 ≤ c ∧ c ≤ 90 then some (c - 65)
  else if 97 ≤ c ∧ c ≤ 122 then some (c - 97 + 26)
  else if 48 ≤ c ∧ c ≤ 57 then some (c - 48 + 52)
  else if c = 43 then some 62
  else if c = 47 then some 63
  else if c = 61 then some 0
  else none

/-- The loop of `document`. -/
def base64Decode : List UInt8 → Option (List UInt8)
  | c₀ :: c₁ :: c₂ :: c₃ :: rest => do
    let a ← base64Digit c₀
    let b ← base64Digit c₁
    let d ← base64Digit c₂
    let e ← base64Digit c₃
    let more ← base64Decode rest
    return (a <<< 2 ||| b >>> 4) :: (if c₂ ≠ 61 then [b <<< 4 ||| d >>> 2] else []) ++
      (if c₃ ≠ 61 then [d <<< 6 ||| e] else []) ++ more
  | _ => some []

end ManagedUpload

open ManagedUpload

section Digested

variable (digests : Digests)

/-- `hash`: the digest in hexadecimal digits. -/
def Digests.hash (bytes : List UInt8) : String :=
  String.ofList ((digests.sha256 bytes).1.flatMap LocalWifiTransfer.hexByte)

def Digests.hashJson (value : Value) : String :=
  digests.hash (digests.toVec value)

def ManagedUpload.document (v : String) (size : Nat) (expected : Option String) :
    Except ManagedUploadError (List UInt8) :=
  if (asBytes v).length ≠ (size + 2) / 3 * 4 then .error .invalidDocument
  else
    match base64Decode (asBytes v) with
    | none => .error .invalidDocument
    | some out =>
      if out.length ≠ size ∨ base64 out ≠ asBytes v ∨
          expected.any (fun h => !hex (asBytes h) 32 || digests.hash out ≠ h) then
        .error .invalidDocument
      else .ok out

/-! ## Entries -/

namespace ManagedUploadEntry

def validate (self : ManagedUploadEntry) : Except ManagedUploadError Unit :=
  if !(asBytes "rec_").isPrefixOf (asBytes self.recordingId) ||
      (asBytes self.recordingId).length < 5 || 256 < (asBytes self.recordingId).length ||
      !(asBytes self.recordingId).all idByte || self.sessionId.any (!isUuid ·) ||
      self.sessionId.isSome ≠ self.ownerRevision.isSome ||
      self.ownerRevision.any (fun v => v = 0 || I32_MAX < v.toNat) then
    .error .identityConflict
  else .ok ()

def toValue (self : ManagedUploadEntry) : Value :=
  .object ([("recordingId", .string self.recordingId)] ++
    (self.sessionId.map fun v => ("sessionId", Value.string v)).toList ++
    (self.ownerRevision.map fun v => ("ownerRevision", Value.number v.toNat)).toList)

end ManagedUploadEntry

/-! ## Inputs -/

def ManagedUploadScope.toValue (self : ManagedUploadScope) : Value :=
  .object ([("apiOrigin", .string self.apiOrigin)] ++
    (self.apiBasePath.map fun v => ("apiBasePath", Value.string v)).toList ++
    [("accountId", .string self.accountId), ("projectId", .string self.projectId),
      ("organizationId", .string self.organizationId), ("environment", .string self.environment),
      ("endUserId", .string self.endUserId), ("deviceId", .string self.deviceId),
      ("bindingGeneration", .number self.bindingGeneration.toNat),
      ("serialNumber", .string self.serialNumber), ("nativeDeviceId", .string self.nativeDeviceId),
      ("scopeKey", .string self.scopeKey)])

def ManagedUploadRecording.toValue (self : ManagedUploadRecording) : Value :=
  .object ([("uuid", .string self.uuid), ("generation", .number self.generation.toNat),
      ("ciphertextLength", .string self.ciphertextLength),
      ("ciphertextSha256", .string self.ciphertextSha256),
      ("startedAtMs", .string self.startedAtMs), ("durationMs", .string self.durationMs),
      ("plaintextLength", .string self.plaintextLength),
      ("storageFormat", .number self.storageFormat.toNat)] ++
    (self.markersRequired.map fun v => ("markersRequired", Value.bool v)).toList)

namespace ManagedUploadInput

/-- `ManagedUploadInput::journal_key`, not the field. -/
def computedJournalKey (self : ManagedUploadInput) : String :=
  digests.hashJson (.array [.string self.scope.scopeKey, .string self.scope.deviceId,
    .number self.scope.bindingGeneration.toNat, .string self.recording.uuid,
    .number self.recording.generation.toNat, .string self.recording.ciphertextLength,
    .string self.recording.ciphertextSha256])

/-- Without `transport` the identity does not depend on the native device. -/
def identity (self : ManagedUploadInput) (transport : Bool) : String :=
  let scope := if transport then self.scope else { self.scope with nativeDeviceId := "" }
  let recording :=
    if self.recording.markersRequired = some false then
      { self.recording with markersRequired := none }
    else self.recording
  digests.hashJson (.object [("scope", scope.toValue), ("recording", recording.toValue)])

def base (self : ManagedUploadInput) : String :=
  self.scope.apiBasePath.getD "/v1"

def validateCheckpoint (length : Nat) (c : ManagedUploadCheckpoint) :
    Except ManagedUploadError Unit := do
  if c.version ≠ 1 ∨ ¬isUuid c.uploadSessionId ∨ c.ownerRevision = 0 ∨
      I32_MAX < c.ownerRevision.toNat ∨ ¬hex (asBytes c.prefixSha256) 32 ∨
      asBytes c.sinkRegistrationId = [] ∨ 128 < (asBytes c.sinkRegistrationId).length ∨
      c.windowPackets = 0 ∨ c.dataPayloadBytes = 0 then
    throw .identityConflict
  if length < (← decimal c.nextCiphertextOffset ManagedUpload.U64_MAX) then throw .identityConflict
  if (← decimal c.transportSessionId ManagedUpload.U64_MAX) = 0 then throw .identityConflict

def validateLocal (self : ManagedUploadInput) (localHex : String) :
    Except ManagedUploadError Unit := do
  if ¬hex (asBytes localHex) 16 ∨ self.recording.markersRequired = some true ∨
      self.checkpoint.isSome then
    throw .invalidInput
  let bytes ← unhex (asBytes localHex)
  match LocalWifi.decodeLocalWifiCapabilities bytes 185 with
  | .ok _ => return
  | .error _ => throw .invalidInput

def validate (self : ManagedUploadInput) : Except ManagedUploadError Unit := do
  let s := self.scope
  let r := self.recording
  if self.operationId = "" ∨ 128 < (asBytes self.operationId).length ∨ ¬httpsUrl s.apiOrigin true ∨
      ¬[s.accountId, s.projectId, s.environment, s.endUserId, s.deviceId, s.serialNumber,
        s.nativeDeviceId].all scopeId ∨
      s.scopeKey = "" ∨ 4096 < (asBytes s.scopeKey).length ∨ s.bindingGeneration = 0 ∨
      (s.organizationId ≠ "" ∧ (256 < (asBytes s.organizationId).length ∨
        ¬(asBytes s.organizationId).all idByte)) ∨
      ¬basePath self.base ∨ ¬isUuid r.uuid ∨ r.generation = 0 ∨ r.storageFormat ≠ 3 ∨
      ¬hex (asBytes r.ciphertextSha256) 32 ∨ ¬hex (asBytes self.capability.rawValueHex) 24 then
    throw .invalidInput
  self.capability.localWifiRawValueHex.forM self.validateLocal
  let length ← decimal r.ciphertextLength SAFE
  let start ← decimal r.startedAtMs DATE_MAX
  let duration ← decimal r.durationMs DATE_MAX
  let _ ← decimal r.plaintextLength SAFE
  if length = 0 ∨ DATE_MAX - start < duration then throw .invalidInput
  if self.journalKey.any (self.computedJournalKey digests ≠ ·) then throw .identityConflict
  self.priorJournalEntry.forM (·.validate)
  self.checkpoint.forM (validateCheckpoint length)

/-! ## Journals -/

/-- `a <= b` of optional revisions: an absent one is the least. -/
def revisionLe : Option UInt32 → Option UInt32 → Bool
  | none, _ => true
  | some _, none => false
  | some a, some b => a ≤ b

/-- The loop over the parents, with the last revision and the sessions so far. -/
def validateParents (current : ManagedUploadEntry) :
    UInt32 → List String → List ManagedUploadEntry → Except ManagedUploadError Unit
  | _, _, [] => .ok ()
  | revision, sessions, parent :: rest => do
    parent.validate
    match parent.sessionId, parent.ownerRevision with
    | some id, some owner =>
      if parent.recordingId ≠ current.recordingId ∨ owner ≤ revision ∨
          revisionLe current.ownerRevision (some owner) ∨ some id = current.sessionId ∨
          id ∈ sessions then
        throw .journal
      validateParents current owner (id :: sessions) rest
    | _, _ => throw .journal

/-- The session that a record's entry names. -/
def session? (entry : Option ManagedUploadEntry) : Option String :=
  entry.bind (·.sessionId)

/-- The checks on the parents of a record that has any. -/
def validateLineage (self : ManagedUploadInput) (record : ManagedUploadJournal) :
    Except ManagedUploadError Unit :=
  if record.localRecoveryParents = [] then .ok ()
  else
    match record.entry with
    | none => .error .journal
    | some current =>
      if self.capability.localWifiRawValueHex = none ∨ 64 < record.localRecoveryParents.length then
        .error .journal
      else validateParents current 0 [] record.localRecoveryParents

/-- The checks on a record's recovery nonce. -/
def validateNonce (record : ManagedUploadJournal) (nonce : String) :
    Except ManagedUploadError Unit := do
  if record.phase ≠ "ready" ∨ session? record.entry = none then throw .journal
  let _ ← document digests nonce 16 none

def validateJournal (self : ManagedUploadInput) (record : ManagedUploadJournal) :
    Except ManagedUploadError Unit := do
  if ¬[1, 2].contains record.version ∨ record.identity ≠ self.identity digests (record.version = 1) then
    throw .identityConflict
  if ¬["ready", "recording_create_unknown", "session_create_unknown"].contains record.phase ∨
      record.importedPriorSha256.any (fun v => !hex (asBytes v) 32) ∨
      record.authorizationNonceSha256.any
        (fun v => !hex (asBytes v) 32 || (session? record.entry).isNone) then
    throw .journal
  record.entry.forM (·.validate)
  self.validateLineage record
  record.recoveryNonceBase64.forM (validateNonce digests record)

end ManagedUploadInput

/-! ## Saving a journal record -/

/-- The members of `ManagedUploadEvent::SaveJournal`, less the stored record. -/
structure SaveJournal where
  entry : Option ManagedUploadEntry
  phase : String
  authorizationNonceSha256 : Option String
  recoveryNonceBase64 : Option String
  recoveredFrom : Option ManagedUploadEntry
  deriving DecidableEq

namespace ManagedUploadInput

/-- The entry of the stored record. -/
def entry? (previous : Option ManagedUploadJournal) : Option ManagedUploadEntry :=
  previous.bind (·.entry)

def recoveryParents (self : ManagedUploadInput) (previous : Option ManagedUploadJournal)
    (event : SaveJournal) : Except ManagedUploadError (List ManagedUploadEntry) :=
  let parents := (previous.map (·.localRecoveryParents)).getD []
  match event.recoveredFrom with
  | some parent =>
    match event.entry with
    | none => .error .journal
    | some next =>
      if entry? previous ≠ some parent ∨ parent.recordingId ≠ next.recordingId ∨
          parent.sessionId = none ∨ next.sessionId = none ∨ parent.sessionId = next.sessionId ∨
          parent.ownerRevision = none ∨ revisionLe next.ownerRevision parent.ownerRevision then
        .error .identityConflict
      else if self.capability.localWifiRawValueHex.isSome then .ok (parents ++ [parent])
      else .ok parents
  | none => if entry? previous ≠ event.entry then .ok [] else .ok parents

def carriedNonce (previous : Option ManagedUploadJournal) (event : SaveJournal) : Option String :=
  event.authorizationNonceSha256.or
    ((previous.filter fun p => session? p.entry = session? event.entry).bind
      (·.authorizationNonceSha256))

/-- `SaveJournal`: the next record. -/
def saveJournal (self : ManagedUploadInput) (previous : Option ManagedUploadJournal)
    (event : SaveJournal) : Except ManagedUploadError ManagedUploadJournal := do
  self.validate digests
  previous.forM (self.validateJournal digests)
  event.entry.forM (·.validate)
  let imported := (previous.bind (·.importedPriorSha256)).or
    (self.priorJournalEntry.map fun e => digests.hashJson e.toValue)
  let parents ← self.recoveryParents previous event
  let r : ManagedUploadJournal := {
    version := 2
    identity := self.identity digests false
    phase := event.phase
    entry := event.entry
    importedPriorSha256 := imported
    authorizationNonceSha256 := carriedNonce previous event
    recoveryNonceBase64 := event.recoveryNonceBase64
    localRecoveryParents := parents }
  self.validateJournal digests r
  return r

/-! ## Continuing a checkpoint -/

/-- `ok_or(ManagedUploadError::Journal)`. -/
def required {α : Type} (value : Option α) : Except ManagedUploadError α :=
  match value with
  | some value => .ok value
  | none => .error .journal

/-- The loop of `LocalWifiRecovery`: whether a parent owns the checkpoint. -/
def authorized (checkpoint : LocalWifiCheckpoint) :
    List ManagedUploadEntry → Except ManagedUploadError Bool
  | [] => .ok false
  | parent :: rest => do
    let session ← uuidArray (← required parent.sessionId)
    if checkpoint.uploadSessionUuid = session ∧
        some checkpoint.ownerRevision = parent.ownerRevision then
      return true
    else authorized checkpoint rest

/-- `LocalWifiRecovery`: the checkpoint of the current entry needs no recovery. -/
def localWifiRecovery (self : ManagedUploadInput) (record : ManagedUploadJournal)
    (checkpoint : LocalWifiCheckpoint) : Except ManagedUploadError (Option LocalWifiRecovery) := do
  self.validate digests
  self.validateJournal digests record
  let current ← required record.entry
  if self.capability.localWifiRawValueHex = none then throw .identityConflict
  if checkpoint.recordingUuid ≠ (← uuidArray self.recording.uuid) then throw .identityConflict
  if checkpoint.recordingGeneration ≠ self.recording.generation then throw .identityConflict
  if checkpoint.ciphertextLength ≠ (← decimal self.recording.ciphertextLength SAFE) then
    throw .identityConflict
  if checkpoint.ciphertextSha256.1 ≠ (← unhex (asBytes self.recording.ciphertextSha256)) then
    throw .identityConflict
  let session ← uuidArray (← required current.sessionId)
  let owner ← required current.ownerRevision
  if checkpoint.uploadSessionUuid = session ∧ checkpoint.ownerRevision = owner then return none
  else
    if ¬(← authorized checkpoint record.localRecoveryParents) then throw .identityConflict
    return some {
      previousUploadSessionUuid := checkpoint.uploadSessionUuid
      previousOwnerRevision := checkpoint.ownerRevision
      uploadSessionUuid := session
      ownerRevision := owner }

end ManagedUploadInput

end Digested

end BotaSdk
