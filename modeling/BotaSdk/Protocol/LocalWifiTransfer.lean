import BotaSdk.Lib.Run
import BotaSdk.Protocol.LocalWifi

/-!
# Receiving a recording over local Wi-Fi (`protocol/local_wifi_transfer.rs`)

The receiver authorises each append to the file, and reports a completion only for a file whose whole
content was proved durable.  Lengths and offsets are 64 bits wide in the source.
-/

namespace BotaSdk

open Protocol

structure LocalWifiTransferConfig where
  prepare : LocalWifiPrepare
  ciphertextLength : Nat
  ciphertextSha256 : FixedBytes 32
  deriving DecidableEq

structure LocalWifiCheckpoint where
  version : UInt8
  uploadSessionUuid : FixedBytes 16
  recordingUuid : FixedBytes 16
  recordingGeneration : UInt32
  ownerRevision : UInt32
  ciphertextLength : Nat
  ciphertextSha256 : FixedBytes 32
  manifestSha256 : FixedBytes 32
  nextCiphertextOffset : Nat
  prefixSha256 : FixedBytes 32
  deriving DecidableEq

structure LocalWifiRecovery where
  previousUploadSessionUuid : FixedBytes 16
  previousOwnerRevision : UInt32
  uploadSessionUuid : FixedBytes 16
  ownerRevision : UInt32
  deriving DecidableEq

structure LocalWifiFileProof where
  byteLength : Nat
  prefixSha256 : FixedBytes 32
  deriving DecidableEq

structure LocalWifiResumePlan where
  offset : Nat
  truncateTo : Option Nat
  download : Bool
  path : String
  etag : String
  deriving DecidableEq

structure LocalWifiHttpResponse where
  status : Nat
  contentLength : Nat
  contentRange : Option String
  etag : String
  contentEncoding : Option String
  deriving DecidableEq

namespace LocalWifiTransfer

inductive Phase where
  | prepared
  | manifest
  | resume
  | response
  | reading
  | flushing
  | saving
  | ready
  | finishing
  | completed
  | cancelled
  deriving DecidableEq

def invalid : DeviceSdkError :=
  (DeviceSdkError.new .integrityFailed .transferRecording false).withDetail
    "local WiFi transfer evidence or phase mismatch"

/-- `{byte:02x}`. -/
def hexByte (byte : UInt8) : List Char :=
  [Nat.digitChar (byte.toNat / 16), Nat.digitChar (byte.toNat % 16)]

/-- `Display` of a recording UUID: hyphens before the bytes 4, 6, 8 and 10. -/
def displayUuid (uuid : FixedBytes 16) : String :=
  String.ofList (uuid.1.zipIdx.flatMap fun (byte, index) =>
    (if index = 4 ∨ index = 6 ∨ index = 8 ∨ index = 10 then ['-'] else []) ++ hexByte byte)

end LocalWifiTransfer

open LocalWifiTransfer LocalWifi TransferV2

structure LocalWifiTransferReceiver where
  config : LocalWifiTransferConfig
  evidence : Option LocalWifiEvidence := none
  manifest : List UInt8 := []
  phase : LocalWifiTransfer.Phase := .prepared
  offset : Nat := 0
  pending : Option LocalWifiCheckpoint := none
  deriving DecidableEq

namespace LocalWifiTransferReceiver

/-- A call returns its result and leaves the receiver in a new state. -/
abbrev Outcome (α : Type) := LocalWifiTransferReceiver × Except DeviceSdkError α

def new (config : LocalWifiTransferConfig) : Except DeviceSdkError LocalWifiTransferReceiver := do
  let _ ← encodeLocalWifiPrepare config.prepare
  if config.ciphertextLength < 128 + 144 then throw LocalWifiTransfer.invalid
  return { config }

section Calls

-- `Sha256::digest` is a parameter.
variable (sha256 : List UInt8 → FixedBytes 32) (self : LocalWifiTransferReceiver)

def fail {α : Type} (error : DeviceSdkError) : Outcome α :=
  (self, .error error)

def refuse {α : Type} : Outcome α :=
  self.fail LocalWifiTransfer.invalid

def etag : String :=
  "\"" ++ String.ofList (self.config.ciphertextSha256.1.flatMap hexByte) ++ "\""

def checkpoint (offset : Nat) (prefixSha256 : FixedBytes 32) :
    Except DeviceSdkError LocalWifiCheckpoint :=
  match self.evidence with
  | none => .error LocalWifiTransfer.invalid
  | some e => .ok {
      version := 1
      uploadSessionUuid := self.config.prepare.uploadSessionUuid
      recordingUuid := self.config.prepare.recordingUuid
      recordingGeneration := self.config.prepare.recordingGeneration
      ownerRevision := self.config.prepare.ownerRevision
      ciphertextLength := self.config.ciphertextLength
      ciphertextSha256 := self.config.ciphertextSha256
      manifestSha256 := e.manifestSha256
      nextCiphertextOffset := offset
      prefixSha256 }

def prepared (bytes : List UInt8) : Outcome Unit :=
  if self.phase ≠ .prepared then self.refuse
  else match decodeLocalWifiEvidence bytes with
    | .error error => self.fail error
    | .ok e =>
      let r := self.config.prepare
      if e.common.messageType ≠ LOCAL_WIFI_PREPARED ∨
          e.common.transportSessionId ≠ r.transportSessionId ∨
          e.uploadSessionUuid ≠ r.uploadSessionUuid ∨ e.recordingUuid ≠ r.recordingUuid ∨
          e.recordingGeneration ≠ r.recordingGeneration ∨ e.ownerRevision ≠ r.ownerRevision ∨
          e.ciphertextLength.toNat ≠ self.config.ciphertextLength ∨
          e.ciphertextSha256 ≠ self.config.ciphertextSha256 then
        self.refuse
      else ({ self with evidence := some e, phase := .manifest }, .ok ())

/-- A manifest whose hash is wrong stays in the buffer. -/
def manifestChunk (bytes : List UInt8) : Outcome Bool :=
  if self.phase ≠ .manifest ∨ LOCAL_WIFI_EVENT_BYTES < bytes.length then self.refuse
  else match decodeEncryptedUploadV2Transfer bytes with
    | .error error => self.fail error
    | .ok (.manifestChunk c) =>
      match self.evidence with
      | none => self.refuse
      | some e =>
        if c.common.transportSessionId ≠ e.common.transportSessionId ∨
            c.totalManifestLength.toNat ≠ UPLOAD_MANIFEST_V2_FIXED_LENGTH ∨
            c.chunkOffset.toNat ≠ self.manifest.length ∨ c.manifestSha256 ≠ e.manifestSha256 ∨
            c.chunk.isEmpty ∨
            UPLOAD_MANIFEST_V2_FIXED_LENGTH < self.manifest.length + c.chunk.length then
          self.refuse
        else
          let self := { self with manifest := self.manifest ++ c.chunk }
          if self.manifest.length = UPLOAD_MANIFEST_V2_FIXED_LENGTH then
            if sha256 self.manifest ≠ e.manifestSha256 then self.refuse
            else ({ self with phase := .resume }, .ok true)
          else (self, .ok false)
    | .ok _ => self.refuse

def rebaseCheckpoint (checkpoint : LocalWifiCheckpoint) (recovery : LocalWifiRecovery) :
    Except DeviceSdkError LocalWifiCheckpoint := do
  let current := self.config.prepare
  if self.phase ≠ .resume ∨ checkpoint.uploadSessionUuid ≠ recovery.previousUploadSessionUuid ∨
      checkpoint.ownerRevision ≠ recovery.previousOwnerRevision ∨
      current.uploadSessionUuid ≠ recovery.uploadSessionUuid ∨
      current.ownerRevision ≠ recovery.ownerRevision ∨
      recovery.previousUploadSessionUuid = recovery.uploadSessionUuid ∨
      recovery.ownerRevision ≤ recovery.previousOwnerRevision ∨
      self.config.ciphertextLength < checkpoint.nextCiphertextOffset then
    throw LocalWifiTransfer.invalid
  let next ← self.checkpoint checkpoint.nextCiphertextOffset checkpoint.prefixSha256
  let expected := { next with
    uploadSessionUuid := checkpoint.uploadSessionUuid
    ownerRevision := checkpoint.ownerRevision
    manifestSha256 := checkpoint.manifestSha256 }
  if checkpoint ≠ expected then throw LocalWifiTransfer.invalid
  return next

def resumePrefix (checkpoint : Option LocalWifiCheckpoint) : Except DeviceSdkError Nat := do
  if self.phase ≠ .resume then throw LocalWifiTransfer.invalid
  match checkpoint with
  | none => return 0
  | some c =>
    if self.config.ciphertextLength < c.nextCiphertextOffset then throw LocalWifiTransfer.invalid
    let own ← self.checkpoint c.nextCiphertextOffset c.prefixSha256
    if c ≠ own then throw LocalWifiTransfer.invalid
    return c.nextCiphertextOffset

/-- The proof of the prefix that `checkpoint` names. -/
def acceptsPrefix (checkpoint : Option LocalWifiCheckpoint) (proof : LocalWifiFileProof) :
    Except DeviceSdkError Unit :=
  match checkpoint with
  | some c => do
    let own ← self.checkpoint c.nextCiphertextOffset c.prefixSha256
    if c ≠ own ∨ proof.byteLength < c.nextCiphertextOffset ∨
        proof.prefixSha256 ≠ c.prefixSha256 then
      throw LocalWifiTransfer.invalid
  | none => if proof.prefixSha256 ≠ sha256 [] then .error LocalWifiTransfer.invalid else .ok ()

/-- The offset is stored before the last check. -/
def resume (checkpoint : Option LocalWifiCheckpoint) (proof : LocalWifiFileProof) :
    Outcome LocalWifiResumePlan :=
  if self.phase ≠ .resume then self.refuse
  else
    let offset := checkpoint.elim 0 (·.nextCiphertextOffset)
    let length := self.config.ciphertextLength
    match self.acceptsPrefix sha256 checkpoint proof with
    | .error error => self.fail error
    | .ok () =>
      if length < offset ∨
          (offset = length ∧ proof.prefixSha256 ≠ self.config.ciphertextSha256) then self.refuse
      else
        let self := { self with offset }
        if offset = length ∧ proof.byteLength ≠ offset then self.refuse
        else ({ self with phase := if offset = length then .ready else .response }, .ok {
          offset
          truncateTo := if proof.byteLength ≠ offset then some offset else none
          download := offset ≠ length
          path := "/recordings/" ++ displayUuid self.config.prepare.recordingUuid ++ "/" ++
            toString self.config.prepare.recordingGeneration
          etag := self.etag })

def response (response : LocalWifiHttpResponse) : Outcome Unit :=
  let length := self.config.ciphertextLength
  let range := if self.offset ≠ 0 then some s!"bytes {self.offset}-{length - 1}/{length}" else none
  if self.phase ≠ .response then self.refuse
  else if (response.status ≠ if self.offset = 0 then 200 else 206) ∨
      response.contentLength ≠ length - self.offset ∨ response.contentRange ≠ range ∨
      response.etag ≠ self.etag ∨ response.contentEncoding.any (· ≠ "identity") then self.refuse
  else ({ self with phase := .reading }, .ok ())

/-- `checked_add` fails from 2^64 on. -/
def chunk (length : Nat) : Outcome Nat :=
  if self.phase ≠ .reading ∨ length = 0 ∨ 65536 < length then self.refuse
  else if 2 ^ 64 ≤ self.offset + length then self.refuse
  else if self.config.ciphertextLength < self.offset + length then self.refuse
  else ({ self with offset := self.offset + length, phase := .flushing }, .ok self.offset)

def flushed (proof : LocalWifiFileProof) : Outcome LocalWifiCheckpoint :=
  if self.phase ≠ .flushing ∨ proof.byteLength ≠ self.offset ∨
      (self.offset = self.config.ciphertextLength ∧
        proof.prefixSha256 ≠ self.config.ciphertextSha256) then self.refuse
  else match self.checkpoint self.offset proof.prefixSha256 with
    | .error error => self.fail error
    | .ok cp => ({ self with pending := some cp, phase := .saving }, .ok cp)

def saved (checkpoint : LocalWifiCheckpoint) : Outcome Unit :=
  if self.phase ≠ .saving ∨ self.pending ≠ some checkpoint then self.refuse
  else ({ self with pending := none, phase := .reading }, .ok ())

def readerClosed : Outcome Unit :=
  if self.phase ≠ .reading ∨ self.offset ≠ self.config.ciphertextLength then self.refuse
  else ({ self with phase := .ready }, .ok ())

def finish : Outcome (List UInt8) :=
  if self.phase ≠ .ready ∧ self.phase ≠ .finishing then self.refuse
  else match self.evidence with
    | none => self.refuse
    | some e => match encodeLocalWifiFinish self.config.prepare.transportSessionId e with
      | .error error => self.fail error
      | .ok frame => ({ self with phase := .finishing }, .ok frame)

def eof (bytes : List UInt8) : Outcome EncryptedUploadV2TransferEvidence :=
  if self.phase ≠ .finishing then self.refuse
  else match decodeLocalWifiEvidence bytes with
    | .error error => self.fail error
    | .ok e => match self.evidence with
      | none => self.refuse
      | some own =>
        let expected := { own with common := { own.common with messageType := LOCAL_WIFI_EOF } }
        if e ≠ expected then self.refuse
        else ({ self with phase := .completed }, .ok {
          ciphertextLength := e.ciphertextLength.toNat
          ciphertextSha256 := e.ciphertextSha256
          manifestLength := UPLOAD_MANIFEST_V2_FIXED_LENGTH
          manifestSha256 := e.manifestSha256
          blockCount := e.blockCount.toNat })

def cancel : LocalWifiTransferReceiver :=
  { self with phase := .cancelled, pending := none }

end Calls

/-! ## Calls in any order -/

inductive Call where
  | prepared (bytes : List UInt8)
  | manifest (bytes : List UInt8)
  | rebaseCheckpoint (checkpoint : LocalWifiCheckpoint) (recovery : LocalWifiRecovery)
  | resumePrefix (checkpoint : Option LocalWifiCheckpoint)
  | resume (checkpoint : Option LocalWifiCheckpoint) (proof : LocalWifiFileProof)
  | response (response : LocalWifiHttpResponse)
  | chunk (length : Nat)
  | flushed (proof : LocalWifiFileProof)
  | saved (checkpoint : LocalWifiCheckpoint)
  | readerClosed
  | finish
  | eof (bytes : List UInt8)
  | cancel

inductive Reply where
  | unit
  | complete (done : Bool)
  | checkpoint (checkpoint : LocalWifiCheckpoint)
  | offset (offset : Nat)
  | plan (plan : LocalWifiResumePlan)
  | frame (bytes : List UInt8)
  | evidence (evidence : EncryptedUploadV2TransferEvidence)

def answer {α : Type} (reply : α → Reply) (outcome : Outcome α) :
    LocalWifiTransferReceiver × Except DeviceSdkError Reply :=
  (outcome.1, outcome.2.map reply)

def apply (sha256 : List UInt8 → FixedBytes 32) (self : LocalWifiTransferReceiver) :
    Call → LocalWifiTransferReceiver × Except DeviceSdkError Reply
  | .prepared bytes => answer (fun _ => .unit) (self.prepared bytes)
  | .manifest bytes => answer .complete (self.manifestChunk sha256 bytes)
  | .rebaseCheckpoint checkpoint recovery =>
      answer .checkpoint (self, self.rebaseCheckpoint checkpoint recovery)
  | .resumePrefix checkpoint => answer .offset (self, self.resumePrefix checkpoint)
  | .resume checkpoint proof => answer .plan (self.resume sha256 checkpoint proof)
  | .response response => answer (fun _ => .unit) (self.response response)
  | .chunk length => answer .offset (self.chunk length)
  | .flushed proof => answer .checkpoint (self.flushed proof)
  | .saved checkpoint => answer (fun _ => .unit) (self.saved checkpoint)
  | .readerClosed => answer (fun _ => .unit) self.readerClosed
  | .finish => answer .frame self.finish
  | .eof bytes => answer .evidence (self.eof bytes)
  | .cancel => (self.cancel, .ok .unit)

end LocalWifiTransferReceiver

end BotaSdk
