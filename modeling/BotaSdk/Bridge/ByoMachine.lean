import BotaSdk.Bridge.ByoBleLink
import BotaSdk.Lib.Bytes
import BotaSdk.Model.ByoCustomer
import BotaSdk.Model.ByoRecoveryJson
import BotaSdk.Model.ManagedUpload

/-!
# The BYO upload machine (`device-sdk-js/src/byo.rs`)

The host executes one action at a time and answers with an event; the machine is fed back unchanged.
A stage that is entered emits its action, `consume` takes the answer.
-/

namespace BotaSdk

open Byo
open ByoBleLink (fail)

/-! ## State -/

structure Recording where
  uuid : String
  generation : Nat
  deriving DecidableEq

namespace ByoMachine

def BYO_BLE_INSPECT : UInt8 := 0x02
def BYO_BLE_OPEN : UInt8 := 0x03
def BYO_BLE_READ : UInt8 := 0x04
def BYO_BLE_RECEIPT : UInt8 := 0x05
def BYO_BLE_CONFIRM : UInt8 := 0x06
def BYO_BLE_LIST : UInt8 := 0x08
def BYO_BLE_LIVE_SNAPSHOT : UInt8 := 0x09
def BYO_BLE_LIVE_READ : UInt8 := 0x0A
def BYO_BLE_LIVE_ACK : UInt8 := 0x0B
def BYO_BLE_LIVE_CONTEXT : UInt8 := 0x0C

def MAX_MESSAGE_BYTES : Nat := 1048576

structure Scope where
  baseUrl : String
  scopeKey : String
  organizationId : String
  projectId : String
  environment : String
  deviceId : String
  bindingGeneration : Nat
  deriving DecidableEq

end ByoMachine

structure ByoInput where
  operationId : String
  mode : String
  device : Json
  recording : Option Recording
  scope : ByoMachine.Scope
  deriving DecidableEq

namespace ByoMachine

inductive Stage where
  | refreshInitial | refreshPeriodic | refreshOpen | refreshReceipt
  | capabilities | discover | inspectLive | loaded | saved | successorLoaded | selection
  | selectSource | createContext | prepare | renew | upload | «open»
  | fileStart | download | append | fileFinish | put
  | packageAppend | packageFinish | packagePlan | packageRange | packageGrant | packageWholeGrant
  | packageFile | packageSegmentAppend | packageSegmentFlush | packagePut
  | complete | completeWait | receipt | receiptPersisted | confirm | missingStatus | removeFile
  | result | catalog | catalogResult
  | liveContext | streamCheckpoint | socketOpen | socketClose | socketBackoff | socketExchange
  | streamSnapshot | liveRead | segmentGrant | segmentFile | segmentAppend | segmentFlush
  | segmentPut | segmentConfirm | liveAck | liveWait
  | streamStatus | streamRenew | handoff | liveSuccessor
  deriving DecidableEq

def Stage.name : Stage → String
  | refreshInitial => "refresh_initial"
  | refreshPeriodic => "refresh_periodic"
  | refreshOpen => "refresh_open"
  | refreshReceipt => "refresh_receipt"
  | capabilities => "capabilities"
  | discover => "discover"
  | inspectLive => "inspect_live"
  | loaded => "loaded"
  | saved => "saved"
  | successorLoaded => "successor_loaded"
  | selection => "selection"
  | selectSource => "select_source"
  | createContext => "create_context"
  | prepare => "prepare"
  | renew => "renew"
  | upload => "upload"
  | «open» => "open"
  | fileStart => "file_start"
  | download => "download"
  | append => "append"
  | fileFinish => "file_finish"
  | put => "put"
  | packageAppend => "package_append"
  | packageFinish => "package_finish"
  | packagePlan => "package_plan"
  | packageRange => "package_range"
  | packageGrant => "package_grant"
  | packageWholeGrant => "package_whole_grant"
  | packageFile => "package_file"
  | packageSegmentAppend => "package_segment_append"
  | packageSegmentFlush => "package_segment_flush"
  | packagePut => "package_put"
  | complete => "complete"
  | completeWait => "complete_wait"
  | receipt => "receipt"
  | receiptPersisted => "receipt_persisted"
  | confirm => "confirm"
  | missingStatus => "missing_status"
  | removeFile => "remove_file"
  | result => "result"
  | catalog => "catalog"
  | catalogResult => "catalog_result"
  | liveContext => "live_context"
  | streamCheckpoint => "stream_checkpoint"
  | socketOpen => "socket_open"
  | socketClose => "socket_close"
  | socketBackoff => "socket_backoff"
  | socketExchange => "socket_exchange"
  | streamSnapshot => "stream_snapshot"
  | liveRead => "live_read"
  | segmentGrant => "segment_grant"
  | segmentFile => "segment_file"
  | segmentAppend => "segment_append"
  | segmentFlush => "segment_flush"
  | segmentPut => "segment_put"
  | segmentConfirm => "segment_confirm"
  | liveAck => "live_ack"
  | liveWait => "live_wait"
  | streamStatus => "stream_status"
  | streamRenew => "stream_renew"
  | handoff => "handoff"
  | liveSuccessor => "live_successor"

def Stage.all : List Stage :=
  [refreshInitial, refreshPeriodic, refreshOpen, refreshReceipt, capabilities, discover,
    inspectLive, loaded, saved, successorLoaded, selection, selectSource, createContext, prepare,
    renew, upload, «open», fileStart, download, append, fileFinish, put, packageAppend,
    packageFinish, packagePlan, packageRange, packageGrant, packageWholeGrant, packageFile,
    packageSegmentAppend, packageSegmentFlush, packagePut, complete, completeWait, receipt,
    receiptPersisted, confirm, missingStatus, removeFile, result, catalog, catalogResult,
    liveContext, streamCheckpoint, socketOpen, socketClose, socketBackoff, socketExchange,
    streamSnapshot, liveRead, segmentGrant, segmentFile, segmentAppend, segmentFlush, segmentPut,
    segmentConfirm, liveAck, liveWait, streamStatus, streamRenew, handoff, liveSuccessor]

/-- The text of `next`: a stage's name, or a text that names none. -/
inductive Next where
  | stage (stage : Stage)
  | text (value : String)
  deriving DecidableEq

def Next.of (value : String) : Next :=
  ((Stage.all.find? (·.name = value)).map .stage).getD (.text value)

def Next.name : Next → String
  | stage s => s.name
  | text value => value

end ByoMachine

/-- The two fields that no function writes or reads, `hash_state` and `http_attempt`, are only in
the JSON of the machine. -/
structure ByoMachine where
  input : ByoInput
  stage : ByoMachine.Stage
  next : ByoMachine.Next
  recording : Option Recording
  docs : Json
  stream : Bool
  capabilities : Json
  facts : Json
  context : Json
  authorization : Json
  status : Json
  upload : Json
  manifest : Json
  recovery : Option ByoRecovery
  identityKey : String
  loadKey : String
  offset : Nat
  index : Nat
  chunkCount : Nat
  bytes : List UInt8
  segment : Json
  sourceLength : Nat
  sourceHash : String
  cursor : Nat
  pages : Nat
  catalog : List Recording
  transport : String
  fallback : Bool
  started : Nat
  refreshed : Nat
  polls : Nat
  retryAction : Json
  renewAfter : ByoMachine.Next
  deriving DecidableEq

namespace ByoMachine

/-! ## Actions -/

inductive Action where
  | refresh
  | ble (operation : UInt8) (bytes : List UInt8)
  | http (route suffix : String) (body : Option Json) (drain : Bool)
  | load (key : String) (live : Bool)
  | save (key : String) (value : Json)
  | fileStart (key : String)
  | fileAppend (offset : Nat) (bytes : List UInt8)
  | fileFinish (length : Nat) (sha256 : Option String)
  | fileRange (key : String) (offset length : Nat)
  | fileRemove (key temporaryKey : String)
  | put (target : Json)
  | wait (milliseconds : Json)
  | result (value : Json)
  | error (code : String)
  | socketOpen (session : String)
  | socketClose
  | socketExchange (segment : Json) (bytes : List UInt8) (session : String)
  deriving DecidableEq

def Action.members : Action → List (String × Json)
  | refresh => [("kind", .str "refresh")]
  | ble operation bytes =>
    [("kind", .str "ble"), ("operation", .ofNat operation.toNat), ("bytes", .ofBytes bytes)]
  | http route suffix body drain =>
    [("kind", .str "http"), ("route", .str route), ("suffix", .str suffix),
      ("body", body.getD .null), ("drain", .bool drain)]
  | load key live => [("kind", .str "load"), ("key", .str key), ("live", .bool live)]
  | save key value => [("kind", .str "save"), ("key", .str key), ("value", value)]
  | fileStart key => [("kind", .str "file_start"), ("key", .str key)]
  | fileAppend offset bytes =>
    [("kind", .str "file_append"), ("offset", .str (toString offset)), ("bytes", .ofBytes bytes)]
  | fileFinish length sha256 =>
    [("kind", .str "file_finish"), ("length", .str (toString length))] ++
      (sha256.map fun hash => ("sha256", .str hash)).toList
  | fileRange key offset length =>
    [("kind", .str "file_range"), ("key", .str key), ("offset", .str (toString offset)),
      ("length", .ofNat length)]
  | fileRemove key temporaryKey =>
    [("kind", .str "file_remove"), ("key", .str key), ("temporaryKey", .str temporaryKey)]
  | put target => [("kind", .str "put"), ("target", target)]
  | wait milliseconds => [("kind", .str "wait"), ("milliseconds", milliseconds)]
  | result value => [("kind", .str "result"), ("value", value)]
  | error code => [("kind", .str "error"), ("code", .str code)]
  | socketOpen session => [("kind", .str "socket_open"), ("session", .str session)]
  | socketClose => [("kind", .str "socket_close")]
  | socketExchange segment bytes session =>
    [("kind", .str "socket_exchange"), ("segment", segment), ("bytes", .ofBytes bytes),
      ("session", .str session)]

def Action.toJson (action : Action) : Json :=
  .object action.members

/-! ## The machine as JSON -/

def recordingJson (recording : Recording) : Json :=
  .object [("uuid", .str recording.uuid), ("generation", .ofNat recording.generation)]

def Scope.toJson (scope : Scope) : Json :=
  .object [("baseUrl", .str scope.baseUrl), ("scopeKey", .str scope.scopeKey),
    ("organizationId", .str scope.organizationId), ("projectId", .str scope.projectId),
    ("environment", .str scope.environment), ("deviceId", .str scope.deviceId),
    ("bindingGeneration", .ofNat scope.bindingGeneration)]

def inputJson (input : ByoInput) : Json :=
  .object [("operationId", .str input.operationId), ("mode", .str input.mode),
    ("device", input.device), ("recording", .ofOption recordingJson input.recording),
    ("scope", input.scope.toJson)]

def toJson (self : ByoMachine) : Json :=
  .object [("input", inputJson self.input), ("stage", .str self.stage.name),
    ("next", .str self.next.name), ("recording", .ofOption recordingJson self.recording),
    ("docs", self.docs), ("stream", .bool self.stream), ("capabilities", self.capabilities),
    ("facts", self.facts), ("context", self.context), ("authorization", self.authorization),
    ("status", self.status), ("upload", self.upload), ("manifest", self.manifest),
    ("recovery", .ofOption ByoRecovery.toJson self.recovery),
    ("identity_key", .str self.identityKey), ("load_key", .str self.loadKey),
    ("offset", .ofNat self.offset), ("index", .ofNat self.index),
    ("chunk_count", .ofNat self.chunkCount), ("bytes", .ofBytes self.bytes),
    ("segment", self.segment), ("source_length", .ofNat self.sourceLength),
    ("source_hash", .str self.sourceHash), ("hash_state", .arr []), ("cursor", .ofNat self.cursor),
    ("pages", .ofNat self.pages), ("catalog", .arr (self.catalog.map recordingJson)),
    ("transport", .str self.transport), ("fallback", .bool self.fallback),
    ("started", .ofNat self.started), ("refreshed", .ofNat self.refreshed),
    ("polls", .ofNat self.polls), ("http_attempt", .ofNat 0), ("retry_action", self.retryAction),
    ("renew_after", .str self.renewAfter.name)]

/-! ## Reading documents -/

abbrev Checked (α : Type) := Except DeviceSdkError α

def object (v : Json) : Checked Unit :=
  if v.isObject then .ok () else .error (fail "BYO document must be an object")

def text (v : Json) (key : String) : Checked String :=
  match ((v.get key).bind Json.asStr).filter (· ≠ "") with
  | some value => .ok value
  | none => .error (fail "missing BYO text field")

def number (v : Json) (key : String) : Checked Nat :=
  match ((v.get key).bind Json.asU64).filter (· < 2 ^ 32) with
  | some value => .ok value
  | none => .error (fail "invalid BYO integer")

def boolean (v : Json) (key : String) : Checked Bool :=
  match (v.get key).bind Json.asBool with
  | some value => .ok value
  | none => .error (fail "invalid BYO boolean")

/-- `codecs::input` at a byte vector. -/
def bytesOf (v : Json) : Checked (List UInt8) :=
  match v.asBytes with
  | some bytes => .ok bytes
  | none => .error (fail "codec input does not match its typed contract")

def safeJson (v : Json) : Checked Unit :=
  if v.safe then .ok () else .error (fail "BYO JSON number exceeds exact JavaScript range")

/-- `id`. -/
def isName (s : String) : Bool :=
  s ≠ "" && (asBytes s).length ≤ 128 &&
    (asBytes s).all fun b => isAsciiAlphanumeric b || [95, 45].contains b

/-- `identity`: the 16 bytes of the UUID, then the generation. -/
def identity (recording : Recording) : Checked (List UInt8) :=
  if ¬isUuid recording.uuid then .error (fail "invalid BYO UUID")
  else .ok (ManagedUpload.unhexPairs ((asBytes recording.uuid).filter (· ≠ 45)) ++
    Bytes.leBytes 4 recording.generation)

section Documents

variable (crates : Crates)

def sha (bytes : List UInt8) : String :=
  ByoCustomer.sha crates bytes

def jsonBytes (v : Json) : Checked (List UInt8) := do
  safeJson v
  let b := crates.toVec v
  if 32768 < b.length then .error (fail "BYO JSON exceeds bound") else .ok b

def parse (v : Json) : Checked Json := do
  let raw ← bytesOf v
  if 32768 < raw.length then .error (fail "BYO document exceeds bound")
  else match crates.fromSlice raw with
    | none => .error (fail "invalid BYO JSON")
    | some v => do
      object v
      .ok v

def data (v : Json) : Checked Json := do
  let v ← parse crates v
  match v.get "data" with
  | none => .error (fail "missing BYO response data")
  | some result => do
    object result
    .ok result

end Documents

/-! ## What a stage knows -/

section Facts

variable (self : ByoMachine)

def endpoint : Checked String := do
  let id ← text self.context "upload_session_id"
  if ¬isUuid id then .error (fail "invalid BYO session") else .ok ("/" ++ id)

def recording? : Checked Recording :=
  match self.recording with
  | some recording => .ok recording
  | none => .error (fail "missing BYO recording")

def recordingIdentity : Checked (List UInt8) := do
  identity (← self.recording?)

/-- A field of a context must be the one expected. -/
def sameText (context : Json) (key expected : String) : Checked Unit := do
  let value ← text context key
  if value ≠ expected then .error (fail "BYO identity conflict") else .ok ()

def sameNumber (context : Json) (key : String) (expected : Nat) : Checked Unit := do
  let value ← number context key
  if value ≠ expected then .error (fail "BYO identity conflict") else .ok ()

/-- `scope`: a context is of this scope and recording. -/
def inScope (context : Json) : Checked Unit := do
  let s := self.input.scope
  let r ← self.recording?
  sameText context "organization_id" s.organizationId
  sameText context "project_id" s.projectId
  sameText context "device_id" s.deviceId
  sameText context "environment" s.environment
  sameNumber context "binding_generation" s.bindingGeneration
  sameText context "recording_uuid" r.uuid
  sameNumber context "recording_generation" r.generation
  sameText context "channel" "ble"
  let session ← text context "upload_session_id"
  if ¬isUuid session then .error (fail "BYO identity conflict") else .ok ()

def capture : Checked ByoCapture := do
  let s := self.input.scope
  let r ← self.recording?
  let deviceAssignmentGeneration ← number self.context "device_assignment_generation"
  let policyRevision ← text self.context "policy_revision"
  .ok {
    environment :=
      if s.environment = "development" then .development
      else if s.environment = "gamma" then .gamma
      else .production
    organizationId := s.organizationId
    projectId := s.projectId
    deviceId := s.deviceId
    bindingGeneration := s.bindingGeneration
    deviceAssignmentGeneration
    policyRevision
    recordingUuid := r.uuid
    recordingGeneration := r.generation }

def route (context authorization : Json) : Checked ByoRoute := do
  self.inScope context
  let recordingId ← text context "recording_id"
  let configurationId ← text context "configuration_id"
  let configurationRevision ← number context "configuration_revision"
  let configurationSha256 ← text authorization "configuration_sha256"
  let destinationRef ← text context "destination_ref"
  let sessionId ← text context "upload_session_id"
  let ownerRevision ← number context "owner_revision"
  .ok {
    recordingId, configurationId, configurationRevision, configurationSha256, destinationRef
    sessionId, ownerRevision }

def phase : Option ByoPhase :=
  self.recovery.map (·.phase)

/-- The contract of the upload packages the source for the customer. -/
def customer : Bool :=
  decide (self.docs.index "customer_package" = .bool true)

/-- `self.docs[key] = value`. -/
def setDoc (key : String) (value : Json) : ByoMachine :=
  { self with docs := self.docs.set key value }

def advanceRecovery (event : ByoRecoveryEvent) : Checked (ByoMachine × ByoRecoveryReply) := do
  let capture ← self.capture
  match ByoRecoveryRequest.reduce ⟨self.recovery, capture, event⟩ with
  | .error _ => .error (fail "BYO recovery transition rejected")
  | .ok reply =>
    .ok (({ self with recovery := some reply.checkpoint }).setDoc "recovery"
      reply.checkpoint.toJson, reply)

def trailer (crates : Crates) : Checked (List UInt8) := do
  let encoded ← text self.docs "package_trailer"
  match crates.standardDecode encoded with
  | some bytes => .ok bytes
  | none => .error (fail "invalid package trailer")

/-- `u64` subtraction; a release build wraps. -/
def elapsed (now since : Nat) : Nat :=
  (now + 2 ^ 64 - since) % 2 ^ 64

def divCeil (n d : Nat) : Nat :=
  (n + d - 1) / d

end Facts

end ByoMachine

end BotaSdk
