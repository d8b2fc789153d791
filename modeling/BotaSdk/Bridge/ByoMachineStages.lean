import BotaSdk.Bridge.ByoMachine

/-!
# The stages of the BYO machine (`device-sdk-js/src/byo.rs`)

The action of every stage, and what every stage does with the answer to it.
-/

namespace BotaSdk

namespace ByoMachine

open Byo
open ByoBleLink (fail)
open ByoCustomer (CUSTOMER_HOOKS PACKAGE_PROFILE)
open Protocol (BYO_BLE_CAPABILITIES BYO_BLE_LIVE_SUCCESSOR)

abbrev Reply := Checked (ByoMachine × Action)

section Stages

variable (crates : Crates) (self : ByoMachine)

/-! ## Entering a stage -/

def reply (action : Action) : Reply :=
  let reply := Json.object [("state", self.toJson), ("action", action.toJson)]
  if ¬reply.safe then .error (fail "BYO JSON number exceeds exact JavaScript range")
  else if MAX_MESSAGE_BYTES < (crates.toVec reply).length then
    .error (fail "codec output exceeds the message bound")
  else .ok (self, action)

def ciphertextKey : String :=
  "byo/" ++ self.identityKey ++ "/ciphertext"

def segmentKey : String :=
  "byo/" ++ self.identityKey ++ "/segment"

/-- A durable document, or the error for one that is missing. -/
def durable (key missing : String) : Checked Json :=
  match self.docs.get key with
  | some value => .ok value
  | none => .error (fail missing)

/-- The permit of the last status, which goes with a receipt. -/
def withPermit (bundle : Json) : Json :=
  match (self.status.get "recovery").bind (·.get "permit") with
  | some permit => bundle.set "recovery" permit
  | none => bundle

def openBundle : Json :=
  let bundle := Json.object [("context", self.context), ("authorization", self.authorization)]
  match (self.status.get "receipt").filter (·.isObject) with
  | some receipt => self.withPermit (bundle.set "receipt" receipt)
  | none =>
    match self.upload.get "recovery" with
    | some recovery => bundle.set "recovery" recovery
    | none => bundle

/-- The capabilities that the customer is asked about. -/
def offered : Json :=
  let modes := if self.stream then ["whole_file", "http_segments", "ws_relay"] else ["whole_file"]
  let bytes := ((self.capabilities.index "max_ciphertext_bytes").asU64.getD 134201332).min 134201332
  ((((self.capabilities.set "upload_modes" (.arr (modes.map .str))).set "durable_source"
    (.bool true)).set "durable_receipt" (.bool true)).set "customer_hooks"
    (.str CUSTOMER_HOOKS)).set "max_ciphertext_bytes" (.ofNat bytes)

/-- The bytes that the next read asks for, in the loop over the source. -/
def chunk : Nat :=
  min (self.sourceLength - self.offset) 4096

/-- The same in the loop over one segment of the live source. -/
def liveChunk : Nat :=
  min ((self.chunkCount + 2 ^ 32 - self.bytes.length % 2 ^ 32) % 2 ^ 32) 4096

/-- The action of a stage. -/
def action : Checked Action := do
  match self.stage with
  | .packageAppend => do
    let trailer ← self.trailer crates
    .ok (.fileAppend self.sourceLength trailer)
  | .packageFinish => do
    let trailer ← self.trailer crates
    .ok (.fileFinish (self.sourceLength + trailer.length) none)
  | .packageRange => do
    let offset ← number self.segment "offset"
    let length ← number self.segment "length"
    .ok (.fileRange self.ciphertextKey offset length)
  | .packageGrant => do
    let endpoint ← self.endpoint
    .ok (.http "batch" (endpoint ++ "/upload") (some (.object [("segment", self.segment)])) false)
  | .packageWholeGrant => do
    let endpoint ← self.endpoint
    .ok (.http "batch" (endpoint ++ "/upload") (some (.object [])) false)
  | .packageFile => .ok (.fileStart self.segmentKey)
  | .packageSegmentAppend => .ok (.fileAppend 0 self.bytes)
  | .packageSegmentFlush => .ok (.fileFinish self.bytes.length (some (sha crates self.bytes)))
  | .packagePut => .ok (.put self.upload)
  | .streamCheckpoint => do
    let endpoint ← self.endpoint
    .ok (.http "stream" endpoint none false)
  | .refreshInitial => .ok .refresh
  | .refreshPeriodic => .ok .refresh
  | .refreshOpen => .ok .refresh
  | .refreshReceipt => .ok .refresh
  | .capabilities => .ok (.ble BYO_BLE_CAPABILITIES [])
  | .discover => .ok (.ble BYO_BLE_LIVE_SNAPSHOT [])
  | .inspectLive => do
    let id ← self.recordingIdentity
    .ok (.ble BYO_BLE_LIVE_SNAPSHOT id)
  | .selection => .ok (.http "batch" "/capabilities" (some self.offered) false)
  | .selectSource => do
    let id ← self.recordingIdentity
    .ok (.ble (if self.stream then BYO_BLE_LIVE_SNAPSHOT else BYO_BLE_INSPECT) (id ++ [1]))
  | .createContext => do
    let body ← self.durable "create_request" "missing durable BYO CREATE request"
    .ok (.http (if self.stream then "stream" else "batch") "" (some body) true)
  | .prepare => do
    let endpoint ← self.endpoint
    .ok (.http "batch" (endpoint ++ "/prepare") (some (.object [])) false)
  | .upload => do
    let endpoint ← self.endpoint
    .ok (.http "batch" (endpoint ++ "/upload") (some (.object [])) false)
  | .renew => do
    let body ← self.durable "renewal" "missing durable BYO renewal"
    let endpoint ← self.endpoint
    .ok (.http "batch" (endpoint ++ "/recover") (some body) true)
  | .«open» => do
    let bundle ← jsonBytes crates self.openBundle
    .ok (.ble BYO_BLE_OPEN bundle)
  | .fileStart => .ok (.fileStart self.ciphertextKey)
  | .download =>
    if self.sourceLength < self.offset then .error (fail "invalid BYO offset")
    else .ok (.ble BYO_BLE_READ
      (Bytes.leBytes 4 self.offset ++ [0, 0, 0, 0] ++ Bytes.leBytes 2 self.chunk))
  | .append => .ok (.fileAppend self.offset self.bytes)
  | .fileFinish => .ok (.fileFinish self.sourceLength (some self.sourceHash))
  | .put =>
    match self.upload.get "upload" with
    | some target => .ok (.put target)
    | none => .error (fail "missing BYO upload instructions")
  | .complete => do
    let endpoint ← self.endpoint
    let body := if self.customer then
        .object [("manifest", self.manifest), ("upload_package", self.docs.index "upload_package")]
      else .object [("manifest", self.manifest)]
    .ok (.http "batch" (endpoint ++ "/complete") (some body) true)
  | .completeWait => .ok (.wait (.ofNat 5000))
  | .receipt => do
    let bundle ← jsonBytes crates
      (self.withPermit (.object [("receipt", self.docs.index "receipt")]))
    .ok (.ble BYO_BLE_RECEIPT bundle)
  | .confirm => .ok (.ble BYO_BLE_CONFIRM self.bytes)
  | .missingStatus => do
    let endpoint ← self.endpoint
    .ok (.http "batch" endpoint none false)
  | .removeFile => .ok (.fileRemove self.ciphertextKey self.segmentKey)
  | .result => do
    let recordingId ← text self.context "recording_id"
    let session ← text self.context "upload_session_id"
    .ok (.result (.object [("recordingId", .str recordingId), ("uploadSessionId", .str session)]))
  | .catalog => .ok (.ble BYO_BLE_LIST (Bytes.leBytes 4 self.cursor))
  | .catalogResult => .ok (.result (.arr (self.catalog.map recordingJson)))
  | .liveContext => do
    let id ← self.recordingIdentity
    let context ← jsonBytes crates self.context
    .ok (.ble BYO_BLE_LIVE_CONTEXT (id ++ context))
  | .socketOpen => do
    let session ← text self.context "upload_session_id"
    .ok (.socketOpen session)
  | .socketClose => .ok .socketClose
  | .streamSnapshot => do
    let id ← self.recordingIdentity
    .ok (.ble BYO_BLE_LIVE_SNAPSHOT id)
  | .liveRead => do
    let id ← self.recordingIdentity
    .ok (.ble BYO_BLE_LIVE_READ (id ++ Bytes.leBytes 4 (self.offset + self.bytes.length) ++
      Bytes.leBytes 2 self.liveChunk))
  | .socketExchange => do
    let session ← text self.context "upload_session_id"
    .ok (.socketExchange self.segment self.bytes session)
  | .segmentGrant => do
    let endpoint ← self.endpoint
    .ok (.http "stream" (endpoint ++ "/grants") (some self.segment) false)
  | .segmentFile => .ok (.fileStart self.segmentKey)
  | .segmentAppend => .ok (.fileAppend 0 self.bytes)
  | .segmentFlush => .ok (.fileFinish self.bytes.length (some (sha crates self.bytes)))
  | .segmentPut => .ok (.put self.upload)
  | .segmentConfirm => do
    let endpoint ← self.endpoint
    .ok (.http "stream" (endpoint ++ "/confirm") (some self.segment) true)
  | .liveAck => do
    let id ← self.recordingIdentity
    .ok (.ble BYO_BLE_LIVE_ACK (id ++ Bytes.leBytes 4 self.offset))
  | .liveWait => .ok (.wait (.ofNat 100))
  | .socketBackoff => .ok (.wait (self.retryAction.index "milliseconds"))
  | .streamStatus => do
    let endpoint ← self.endpoint
    .ok (.http "stream" endpoint none false)
  | .streamRenew => do
    let endpoint ← self.endpoint
    .ok (.http "stream" (endpoint ++ "/recover") (some (self.docs.index "renewal")) true)
  | .handoff => do
    let endpoint ← self.endpoint
    .ok (.http "stream" (endpoint ++ "/handoff") (some (self.docs.index "handoff")) true)
  | .liveSuccessor => do
    let id ← self.recordingIdentity
    let successor ← jsonBytes crates (self.docs.index "successor")
    .ok (.ble BYO_BLE_LIVE_SUCCESSOR (id ++ successor))
  -- `run` has no arm for the stages that only wait, or that are passed through
  | .loaded => .error (fail "invalid BYO state")
  | .saved => .error (fail "invalid BYO state")
  | .successorLoaded => .error (fail "invalid BYO state")
  | .receiptPersisted => .error (fail "invalid BYO state")
  | .packagePlan => .error (fail "invalid BYO state")

/-- A download notes how much it asks for. -/
def asking : ByoMachine :=
  { self with chunkCount := if self.stage = Stage.download then self.chunk else self.chunkCount }

/-- `run`, of a stage other than `package_plan`. -/
def issue : Reply := do
  let action ← self.action crates
  self.asking.reply crates action

/-- `goto`, to a stage other than `package_plan`. -/
def enter (stage : Stage) : Reply :=
  { self with stage }.issue crates

/-- The machine is kept until its documents are. -/
def save (next : Stage) : Reply :=
  { self with stage := .saved, next := .stage next }.reply crates (.save self.loadKey self.docs)

def startLoad (stream : Bool) : Reply := do
  let r ← self.recording?
  let s := self.input.scope
  let identity ← jsonBytes crates (.object [("scope", .str s.scopeKey),
    ("organization", .str s.organizationId), ("project", .str s.projectId),
    ("device", .str s.deviceId), ("binding", .ofNat s.bindingGeneration),
    ("environment", .str s.environment), ("origin", .str s.baseUrl), ("recording", .str r.uuid),
    ("generation", .ofNat r.generation)])
  let identityKey := sha crates identity
  let loadKey :=
    "byo/" ++ (if stream then "stream" else "batch") ++ "/" ++ identityKey ++ "/documents"
  { self with stream, identityKey, loadKey, stage := .loaded }.reply crates (.load loadKey stream)

/-- An event that is only for one phase of the recovery. -/
def advanceAt (phase : ByoPhase) (event : ByoRecoveryEvent) : Checked ByoMachine :=
  if self.phase = some phase then do
    let (self, _) ← self.advanceRecovery event
    .ok self
  else .ok self

/-! ## The segments of a package -/

/-- `package_next`, or the index of the trailer where nothing is planned yet. -/
def packageNext (body : Nat) : Checked Nat :=
  match self.docs.get "package_next" with
  | some _ => number self.docs "package_next"
  | none => .ok body

/-- A range of the package under its index. -/
def segmentOf (index offset length : Nat) : Json :=
  .object [("index", .ofNat index), ("offset", .ofNat offset), ("length", .ofNat length)]

/-- The trailer comes after the pieces of the source. -/
def segmentAt (body next : Nat) : Checked Json :=
  if next = body then do
    let trailer ← self.trailer crates
    .ok (segmentOf next self.sourceLength trailer.length)
  else
    let offset := next * 16384
    .ok (segmentOf next offset (min (self.sourceLength - offset) 16384))

def packagePlan : Reply :=
  let body := divCeil self.sourceLength 16384
  if self.docs.index "package_sent" = .bool true then self.enter crates .complete
  else if self.docs.index "assembled" ≠ .bool true then self.enter crates .packageWholeGrant
  else if 8192 ≤ body then .error (fail "too many package segments")
  else do
    let next ← self.packageNext body
    if body + 1 < next then .error (fail "invalid package cursor")
    -- the trailer has the index `body`, so that this is the end of the package
    else if next = body + 1 then do
      let sent := self.setDoc "package_sent" (.bool true)
      let verifying ← sent.advanceAt .httpWholeFile .verificationPending
      verifying.save crates .complete
    else do
      let segment ← self.segmentAt crates body next
      { self with segment }.enter crates .packageRange

def goto (stage : Stage) : Reply :=
  if stage = .packagePlan then { self with stage }.packagePlan crates
  else self.enter crates stage

/-- `goto` a text that was kept; one that names no stage is refused by `run`. -/
def resume : Next → Reply
  | .stage stage => self.goto crates stage
  | .text _ => .error (fail "invalid BYO state")

/-! ## Pieces that several stages share -/

/-- A renewal is begun once, and repeated as it was begun. -/
def renewing (random : String) : Checked ByoMachine :=
  match self.recovery with
  | none => .error (fail "BYO renewal without state")
  | some state =>
    -- an operation that was begun in an earlier run keeps its identifier
    if state.renewalOperation = none then do
      let (self, _) ← self.advanceRecovery (.beginRenewal random state.renewalRevision)
      .ok self
    else .ok self

def renewable (after : Next) (random : String) : Reply := do
  let self ← self.renewing random
  let renewal := Json.object [
    ("operation_id", .ofOption .str (self.recovery.bind (·.renewalOperation))),
    ("expected_revision", .ofOption .ofNat (self.recovery.map (·.renewalRevision)))]
  { self.setDoc "renewal" renewal with renewAfter := after }.save crates .renew

/-- The context is of the source that the device reported. -/
def sameSource : Checked Unit := do
  let length ← number self.context "ciphertext_length"
  if length ≠ self.sourceLength then .error (fail "BYO ciphertext identity conflict")
  else do
    let hash ← text self.context "ciphertext_sha256"
    if hash ≠ self.sourceHash then .error (fail "BYO ciphertext identity conflict") else .ok ()

def contextReady : Reply := do
  self.inScope self.context
  let self := self.setDoc "context" self.context
  if self.stream then self.save crates .liveContext
  else do
    self.sameSource
    let (self, _) ← self.advanceRecovery (if self.recovery = none then .create else .restart)
    if self.phase = some .complete then self.enter crates .removeFile
    else do
      let (self, _) ← self.advanceRecovery (.sourceFinalized self.sourceLength self.sourceHash)
      self.save crates .prepare

def verifiedStatus (status : Json) : Reply :=
  let self := { self with status }
  match (status.get "receipt").filter (·.isObject) with
  | some receipt =>
    if ((self.docs.get "receipt").filter (·.isObject)).any (· ≠ receipt) then
      .error (fail "BYO receipt changed")
    else (self.setDoc "receipt" receipt).save crates .refreshReceipt
  | none =>
    if ((status.get "state").bind Json.asStr).any fun s => s = "failed" || s = "blocked" then
      .error (fail "BYO verification rejected")
    else if 24 ≤ self.polls then .error (fail "BYO verification pending")
    else { self with polls := self.polls + 1 }.enter crates .completeWait

def segmentAccepted : Reply :=
  if 2 ^ 32 ≤ self.offset + self.chunkCount then .error (fail "BYO offset overflow")
  else { self with
    offset := self.offset + self.chunkCount
    index := (self.index + 1) % 2 ^ 32
    bytes := [] }.enter crates .liveAck

def fallBack : Reply :=
  { self.setDoc "fallback" (.bool true) with fallback := true }.save crates .socketClose

def beginBatchSuccessor (seed : Json) : Reply := do
  let self := { self with stream := false, context := seed.index "context" }
  self.inScope self.context
  let sourceLength ← number self.context "ciphertext_length"
  let sourceHash ← text self.context "ciphertext_sha256"
  let loadKey := "byo/batch/" ++ self.identityKey ++ "/documents"
  { self with
    sourceLength, sourceHash, loadKey
    stage := .successorLoaded
    next := .of ((seed.index "mode").asStr.getD "") }.reply crates (.load loadKey false)

/-- What a successor has in common with the context it takes over from. -/
def DESTINATION : List String :=
  ["organization_id", "project_id", "device_id", "binding_generation",
    "device_assignment_generation", "policy_revision", "configuration_id",
    "configuration_revision", "destination_ref", "recording_id", "recording_uuid",
    "recording_generation"]

def acceptSuccessor (status : Json) : Reply := do
  let successor := status.index "successor"
  self.inScope successor
  let mode ← text status "handoff_mode"
  if ¬["assembled", "whole_file"].contains mode ∨
      self.context.index "upload_session_id" = successor.index "upload_session_id" then
    .error (fail "BYO successor fence mismatch")
  else do
    let owner ← number successor "owner_revision"
    let previous ← number self.context "owner_revision"
    if 2 ^ 32 ≤ previous + 1 then .error (fail "BYO owner overflow")
    else if owner ≠ previous + 1 then .error (fail "BYO successor fence mismatch")
    else if DESTINATION.any fun key => self.context.get key ≠ successor.get key then
      .error (fail "BYO successor changed destination")
    else do
      let seed := Json.object [("context", successor), ("mode", .str mode)]
      if (self.docs.get "successor").any (· ≠ seed) then
        .error (fail "BYO successor changed")
      else (self.setDoc "successor" seed).save crates .liveSuccessor

/-- The mode that the server or the documents fix, or the one that the machine chooses. -/
def handoffMode (status : Json) (length : Nat) : String :=
  let pending := ((status.get "pending").filter (·.index "operation" = .str "handoff")).bind
    fun p => (p.get "mode").bind Json.asStr
  let kept := ((self.docs.get "handoff").bind (·.get "mode")).bind Json.asStr
  (pending.or kept).getD
    (if ¬self.fallback ∧ self.offset = length then "assembled" else "whole_file")

def streamHandoff (status : Json) : Reply :=
  if status.index "phase" = .str "handed_off" then self.acceptSuccessor crates status
  else do
    let length ← number self.facts "ciphertext_length"
    let hash ← text self.facts "ciphertext_sha256"
    if ¬(293 ≤ length ∧ length ≤ 134217728) ∨ ¬isHash hash then
      .error (fail "BYO source unavailable for handoff")
    else do
      let mode := self.handoffMode status length
      if ¬["assembled", "whole_file"].contains mode then .error (fail "invalid BYO handoff mode")
      else do
        let body := Json.object [("mode", .str mode), ("final", .object [
          ("ciphertext_length", .ofNat length), ("ciphertext_sha256", .str hash),
          ("segment_count", .ofNat (divCeil length 16384))])]
        if (self.docs.get "handoff").any (· ≠ body) then .error (fail "BYO handoff changed")
        else (self.setDoc "handoff" body).save crates .handoff

/-! ## Failures of an effect -/

def consumeError (error : Json) (random : String) : Reply :=
  let code := ((error.get "code").bind Json.asStr).getD "unknown"
  let retries := ((self.docs.get "reconnects").bind Json.asU64).getD 0
  let attempts := (self.docs.index "package_attempts").asU64.getD 0
  if code = "operation_cancelled" then .error (fail "BYO upload cancelled")
  else if self.stage = .socketOpen ∧ self.transport = "" then
    { self.setDoc "transport" (.str "http") with transport := "http" }.save crates .streamSnapshot
  else if (self.stage = .socketExchange ∨ self.stage = .socketOpen) ∧ self.transport = "ws" then
    if retries < 3 then
      { self.setDoc "reconnects" (.ofNat (retries + 1)) with
        retryAction := .object [("milliseconds", .ofNat (1000 * 2 ^ retries))] }.save crates
          .socketBackoff
    else self.fallBack crates
  else if self.stage = .liveRead ∨ self.stage = .segmentGrant ∨ self.stage = .segmentPut ∨
      self.stage = .segmentConfirm then self.fallBack crates
  else if self.customer ∧ (self.stage = .put ∨ self.stage = .packagePut) ∧ attempts < 2 then
    (self.setDoc "package_attempts" (.ofNat (attempts + 1))).enter crates
      (if self.stage = .packagePut then .packageGrant else .packageWholeGrant)
  else if code = "context_expired" ∧ self.stage ≠ .refreshInitial then
    { self with next := .stage self.stage }.enter crates .refreshPeriodic
  else if code = "device_rejected" ∧ self.stage = .inspectLive ∧ self.input.mode = "sync" then
    self.startLoad crates false
  else if code = "expired" ∧ (self.stage = .upload ∨ self.stage = .packageGrant ∨
      self.stage = .packageWholeGrant) then
    self.renewable crates (.stage self.stage) random
  else if code = "device_rejected" ∧ self.stage = .«open» ∧
      self.docs.get "open_renewed" ≠ some (.bool true) then
    (self.setDoc "open_renewed" (.bool true)).renewable crates (.stage .upload) random
  else .error (fail ("BYO effect failed: " ++ code))

end Stages

end ByoMachine

end BotaSdk
