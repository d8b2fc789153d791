import BotaSdk.Bridge.ByoMachineStages

/-!
# Answers to the BYO machine (`device-sdk-js/src/byo.rs`)

One definition for each stage of `consume`, then the calls `startByoMachine` and
`advanceByoMachine`.
-/

namespace BotaSdk

namespace ByoMachine

open Byo
open ByoBleLink (fail)
open ByoCustomer (CUSTOMER_HOOKS PACKAGE_PROFILE transferAck packageTrailer)

section Consume

variable (crates : Crates) (self : ByoMachine) (value : Json) (now : Nat) (random : String)

/-! ## Discovery and selection -/

def refreshed? : ByoMachine :=
  { self with refreshed := now }

def consumeRefreshInitial : Reply :=
  (self.refreshed? now).enter crates
    (if self.input.mode = "list" then .catalog else .capabilities)

def consumeCapabilities : Reply := do
  let capabilities ← parse crates value
  let self := { self with capabilities }
  -- without a recording in the input, the one that is active now is meant
  if self.recording = none then self.enter crates .discover
  else if self.input.mode = "stream" ∨
      (capabilities.index "upload_modes").asArray.any (·.contains (.str "http_segments")) then
    self.enter crates .inspectLive
  else self.startLoad crates false

def consumeDiscover : Reply := do
  let facts ← parse crates value
  let closed ← boolean facts "closed"
  if closed then .error (fail "no active BYO recording")
  else do
    let uuid ← text facts "recording_uuid"
    let generation ← number facts "recording_generation"
    if generation = 0 ∨ ¬isUuid uuid then .error (fail "invalid active BYO recording")
    else
      let fallback := decide (facts.get "stream_selected" = some (.bool true))
      let self := { self with recording := some { uuid, generation }, fallback }
      self.startLoad crates true

def consumeInspectLive : Reply := do
  let facts ← parse crates value
  let selected := decide (facts.get "stream_selected" = some (.bool true))
  { self with fallback := selected }.startLoad crates
    (selected || decide (self.input.mode = "stream"))

/-- The documents of an earlier run, or none. -/
def loadedDocs : Checked Json :=
  if value = .null then .ok (.object [])
  else do
    object value
    .ok value

/-- The recovery state among the documents. -/
def loadedRecovery : Checked (Option ByoRecovery) :=
  match (self.docs.get "recovery").filter (· ≠ .null) with
  | none => .ok none
  | some v =>
    match ByoRecovery.ofJson v with
    | some recovery => .ok (some recovery)
    | none => .error (fail "codec input does not match its typed contract")

/-- The machine with its loaded documents. -/
def withDocs (docs : Json) : ByoMachine :=
  let self := { self with docs }.setDoc "identity" (.str self.identityKey)
  if self.stream ∧ self.docs.get "selected_customer" = some (.bool true) then
    { self with fallback := true }
  else self

def consumeLoaded : Reply := do
  let docs ← loadedDocs value
  if (docs.get "identity").any (· ≠ .str self.identityKey) then
    .error (fail "BYO durable scope conflict")
  else do
    let self := self.withDocs docs
    let recovery ← self.loadedRecovery
    let self := { self with recovery }
    match (self.docs.get "successor").filter (·.isObject) with
    | some seed => do
      let self := { self with context := seed.index "context" }
      self.inScope self.context
      self.beginBatchSuccessor crates seed
    | none => self.enter crates .selection

def consumeSelection : Reply := do
  let status ← data crates value
  let self := { self with status }
  let selected := decide (self.docs.get "selected_customer" = some (.bool true))
  -- a customer's recording that has been begun goes on whatever the server says now
  if ¬selected ∧ self.docs.get "context" = none ∧ ¬self.fallback ∧
      (status.index "destination").index "kind" ≠ .str "customer" then
    self.reply crates (.error "not_selected")
  else if self.stream then
    match (self.capabilities.index "upload_modes").asArray with
    | none => .error (fail "invalid BYO upload modes")
    | some modes =>
      if ¬modes.contains (.str "http_segments") then .error (fail "BYO segments unsupported")
      else match (status.index "upload_modes").asArray with
        | none => .error (fail "invalid customer BYO modes")
        | some allowed =>
          if ¬selected ∧ ¬self.fallback ∧ (¬allowed.contains (.str "whole_file") ∨
              ¬allowed.contains (.str "http_segments")) then
            .error (fail "BYO modes not qualified")
          else (self.setDoc "selected_customer" (.bool true)).save crates .selectSource
  else (self.setDoc "selected_customer" (.bool true)).save crates .selectSource

/-- A recording that the device no longer has: only one whose receipt is kept may be missing. -/
def sourceMissing : Reply :=
  if self.phase ≠ some .cleanupPending ∨ ¬(self.docs.index "receipt").isObject then
    .error (fail "BYO source missing without cleanup proof")
  else do
    let self := { self with context := self.docs.index "context" }
    self.inScope self.context
    self.enter crates .missingStatus

/-- The source that the device reports is the one to be uploaded. -/
def withSource : Checked ByoMachine := do
  let r ← self.recording?
  let uuid ← text self.facts "recording_uuid"
  if uuid ≠ r.uuid then .error (fail "BYO source changed")
  else do
    let generation ← number self.facts "recording_generation"
    if generation ≠ r.generation then .error (fail "BYO source changed")
    else if self.stream then .ok self
    else do
      let sourceLength ← number self.facts "ciphertext_length"
      let sourceHash ← text self.facts "ciphertext_sha256"
      if ¬(293 ≤ sourceLength ∧ sourceLength ≤ 134217728) ∨ ¬isHash sourceHash then
        .error (fail "invalid BYO source")
      else .ok { self with sourceLength, sourceHash }

/-- What a CREATE asks for. -/
def createRequest : Checked Json := do
  let r ← self.recording?
  if self.stream then
    .ok (.object [("recording_uuid", .str r.uuid), ("recording_generation", .ofNat r.generation),
      ("channel", .str "ble"), ("source_mode", .str "durable"),
      ("limits_profile", .str "byo-stream-128m-4h-v1")])
  else .ok (self.facts.set "channel" (.str "ble"))

def consumeSelectSource : Reply := do
  let facts ← parse crates value
  let self := { self with facts }
  if ¬self.stream ∧ facts.get "missing" = some (.bool true) then self.sourceMissing crates
  else do
    let self ← self.withSource
    match ((self.docs.get "context").filter (·.isObject)).or
        ((self.facts.get "stream_context").filter (·.isObject)) with
    | some context =>
      let self := { self with context }
      self.contextReady crates
    | none => do
      -- a CREATE that may have reached the server is only repeated as it was
      let body ← self.createRequest
      if (self.docs.get "create_request").any (· ≠ body) then
        .error (fail "BYO uncertain CREATE changed identity")
      else (self.setDoc "create_request" body).save crates .createContext

def consumeCreateContext : Reply := do
  let created ← data crates value
  let self := { self with context := created.index "context" }
  self.inScope self.context
  let self := self.setDoc "context" self.context
  { self with docs := self.docs.erase "create_request" }.contextReady crates

/-! ## The batch session -/

/-- The route of an upload is bound once. -/
def bound : Checked ByoMachine :=
  if self.phase = some .new then do
    let route ← self.route self.context self.authorization
    let (self, _) ← self.advanceRecovery (.bind route .wholeFile)
    .ok self
  else .ok self

/-- A package that the server did not get is sent from its first segment. -/
def packageReset (customer : Bool) : ByoMachine :=
  if customer ∧ (self.status.index "error" = .str "upload_incomplete" ∨
      self.status.index "error" = .str "upload_not_found") then
    (self.setDoc "package_sent" (.bool false)).setDoc "package_next" (.ofNat 0)
  else self

def consumePrepare : Reply := do
  let upload ← data crates value
  let authorization := upload.index "authorization"
  object authorization
  let status := upload.index "status"
  object status
  let self := { self with upload, authorization, status }
  let customer := decide (status.index "hook_contract" = .str CUSTOMER_HOOKS)
  if (customer ∧ status.index "package_profile" ≠ .str PACKAGE_PROFILE) ∨
      (self.docs.get "customer_package").any (· ≠ .bool customer) ∨
      (self.docs.get "authorization").any (· ≠ authorization) then
    .error (fail "BYO package contract changed")
  else do
    let self := (self.setDoc "customer_package" (.bool customer)).setDoc "package_attempts" (.ofNat 0)
    let self := (self.packageReset customer).setDoc "authorization" authorization
    let self ← self.bound
    -- a renewal that was cut short is committed before the upload goes on
    if self.recovery.any (·.renewalOperation.isSome) then
      self.renewable crates (.stage .upload) random
    else self.save crates .upload

def consumeRenew : Reply := do
  let reply ← data crates value
  let op ← text (self.docs.index "renewal") "operation_id"
  let operation ← text reply "operation_id"
  if operation ≠ op then .error (fail "BYO renewal identity mismatch")
  else do
    let rev ← number reply "revision"
    let self := self.setDoc "renewal_response" reply
    let (self, _) ← self.advanceRecovery (.renewalCommitted op rev)
    { self with stage := .saved, next := self.renewAfter }.reply crates
      (.save self.loadKey self.docs)

def consumeUpload : Reply := do
  let upload ← data crates value
  let status := upload.index "status"
  object status
  { self with upload, status }.enter crates .refreshOpen

/-- The trailer of a customer's package is made once. -/
def packaged : Checked ByoMachine :=
  match packageTrailer crates self.context self.authorization self.manifest with
  | none => .error (fail "invalid BYO package")
  | some trailer =>
    let encoded := Json.str (crates.standardEncode trailer)
    if (self.docs.get "package_trailer").any (· ≠ encoded) then
      .error (fail "BYO package changed")
    else .ok (self.setDoc "package_trailer" encoded)

def consumeOpen : Reply := do
  let opened ← parse crates value
  let manifest := opened.index "manifest"
  object manifest
  let self := { self with manifest }
  if (self.docs.get "manifest").any (· ≠ manifest) then
    .error (fail "BYO accepted manifest changed")
  else do
    let self := self.setDoc "manifest" manifest
    -- a receipt that the server holds already makes the upload unnecessary
    let received := (self.status.index "receipt").isObject
    if self.customer ∧ ¬received then do
      let self ← self.packaged crates
      { self with offset := 0 }.save crates .fileStart
    else if self.phase = some .httpWholeFile then
      if received ∨ self.docs.get "assembled" = some (.bool true) ∨
          ¬(self.upload.index "upload").isObject then do
        let (self, _) ← self.advanceRecovery .verificationPending
        self.save crates .complete
      else
        let self := { self with offset := 0 }
        self.save crates .fileStart
    else if received then self.verifiedStatus crates self.status
    else self.save crates .complete

/-! ## The file and the package -/

def consumeDownload : Reply := do
  let bytes ← bytesOf value
  if bytes.length ≠ self.chunkCount then .error (fail "BYO range length mismatch")
  else
    let self := { self with bytes }
    self.enter crates .append

def consumeAppend : Reply :=
  let offset := (self.offset + self.chunkCount) % 2 ^ 32
  if value ≠ .str (toString offset) then .error (fail "BYO append not durable")
  else
    let self := { self with offset, bytes := [] }
    if offset = self.sourceLength then self.enter crates .fileFinish
    else if 30000 ≤ elapsed now self.refreshed then
      -- `next` is where the refresh returns to
      { self with next := .stage .download }.enter crates .refreshPeriodic
    else self.enter crates .download

def consumeFileFinish : Reply :=
  self.enter crates (if self.customer then .packageAppend else .put)

def consumePackageAppend : Reply := do
  let trailer ← self.trailer crates
  if value ≠ .str (toString (self.sourceLength + trailer.length)) then
    .error (fail "BYO package not durable")
  else self.enter crates .packageFinish

/-- The facts of a package; an assembled one counts its trailer as a segment. -/
def packageFacts (hash : String) (trailer : List UInt8) : Json :=
  let facts := Json.object [("file_size_bytes", .ofNat (self.sourceLength + trailer.length)),
    ("content_sha256", .str hash), ("metadata_sha256", .str (sha crates trailer))]
  if self.docs.index "assembled" = .bool true then
    facts.set "segment_count" (.ofNat (divCeil self.sourceLength 16384 + 1))
  else facts

def consumePackageFinish : Reply :=
  match value.asStr.filter isHash with
  | none => .error (fail "invalid BYO package digest")
  | some hash => do
    let trailer ← self.trailer crates
    let facts := self.packageFacts crates hash trailer
    if (self.docs.get "upload_package").any (· ≠ facts) then
      .error (fail "BYO package facts changed")
    else (self.setDoc "upload_package" facts).save crates .packagePlan

def consumePackageRange : Reply := do
  let bytes ← bytesOf value
  let length ← number self.segment "length"
  if bytes.length ≠ length then .error (fail "BYO package range mismatch")
  else
    let segment := self.segment.set "sha256" (.str (sha crates bytes))
    let self := { self with bytes, segment }
    self.enter crates .packageGrant

def consumePackageGrant : Reply := do
  let reply ← data crates value
  let upload := reply.index "upload"
  object upload
  { self with upload }.enter crates .packageFile

def consumePackageSegmentAppend : Reply :=
  if value ≠ .str (toString self.bytes.length) then
    .error (fail "BYO package segment not durable")
  else self.enter crates .packageSegmentFlush

def consumePackagePut : Reply := do
  let index ← number self.segment "index"
  ((self.setDoc "package_attempts" (.ofNat 0)).setDoc "package_next"
    (.ofNat ((index + 1) % 2 ^ 32))).save crates .packagePlan

def consumePackageWholeGrant : Reply := do
  let upload ← data crates value
  object (upload.index "upload")
  { self with upload }.enter crates .put

def consumePut : Reply := do
  let self ← self.advanceAt .httpWholeFile .verificationPending
  (if self.customer then self.setDoc "package_sent" (.bool true) else self).save crates .complete

/-! ## Receipt and cleanup -/

def consumeComplete : Reply := do
  self.verifiedStatus crates (← data crates value)

def consumeReceipt : Reply := do
  let bytes ← bytesOf value
  if bytes.length ≠ 32 then .error (fail "device did not verify BYO receipt")
  else do
    let hash := ByoCustomer.hex bytes
    if (self.docs.get "receipt_sha256").any (· ≠ .str hash) then
      .error (fail "BYO receipt digest conflict")
    else do
      let self := { self with bytes }.setDoc "receipt_sha256" (.str hash)
      let self ← self.advanceAt .verifying (.receiptVerified hash)
      self.save crates .receiptPersisted

def consumeConfirm : Reply := do
  let (self, _) ← self.advanceRecovery .cleanupFinished
  self.save crates .removeFile

def consumeMissingStatus : Reply := do
  let status ← data crates value
  if status.index "receipt" ≠ self.docs.index "receipt" then
    .error (fail "BYO missing-source receipt mismatch")
  else do
    let (self, reply) ← self.advanceRecovery .inspect
    if ¬reply.mayCleanup then .error (fail "BYO missing-source receipt mismatch")
    -- no CONFIRM is sent: there is nothing left to delete
    else do
      let (self, _) ← self.advanceRecovery .cleanupFinished
      self.save crates .removeFile

/-! ## The catalog -/

/-- The recordings of the catalog with one more, which may be listed already. -/
def listed (entry : Json) : Checked (List Recording) := do
  let uuid ← text entry "recording_uuid"
  let generation ← number entry "recording_generation"
  if ¬isUuid uuid then .error (fail "invalid BYO catalog identity")
  else
    let r : Recording := { uuid, generation }
    if self.catalog.contains r then .ok self.catalog
    else if 4096 ≤ self.catalog.length then .error (fail "BYO catalog exceeds bound")
    else .ok (self.catalog ++ [r])

/-- A page may hold no recording. -/
def withPage (reply : Json) : Checked (List Recording) :=
  match (reply.get "recording").filter (· ≠ .null) with
  | some entry => self.listed entry
  | none => .ok self.catalog

def consumeCatalog : Reply := do
  let reply ← parse crates value
  let next ← number reply "next"
  let self := { self with pages := (self.pages + 1) % 2 ^ 32 }
  let catalog ← self.withPage reply
  let self := { self with catalog }
  if next = 0 then self.enter crates .catalogResult
  else if next ≤ self.cursor ∨ 4097 ≤ self.pages then
    .error (fail "BYO catalog cursor did not advance")
  else
    let self := { self with cursor := next }
    if 30000 ≤ elapsed now self.refreshed then
      let self := { self with next := .stage .catalog }
      self.enter crates .refreshPeriodic
    else self.enter crates .catalog

/-! ## The live source -/

/-- The checkpoint of a customer's stream is where the server stands. -/
def atCheckpoint (checkpoint : Json) (customer : Bool) : Checked ByoMachine :=
  if customer then do
    let offset ← number checkpoint "contiguous_offset"
    if 134201332 < offset then .error (fail "BYO package limit exceeded")
    else .ok { self with
      offset
      index := divCeil offset 16384
      fallback := decide (self.docs.index "fallback" = .bool true) ||
        decide (checkpoint.index "phase" = .str "handed_off") }
  else .ok self

def consumeStreamCheckpoint : Reply := do
  let checkpoint ← data crates value
  let customer := decide (checkpoint.index "hook_contract" = .str CUSTOMER_HOOKS)
  if (self.docs.get "customer_package").any (· ≠ .bool customer) then
    .error (fail "BYO stream contract changed")
  else do
    let self ← (self.setDoc "customer_package" (.bool customer)).atCheckpoint checkpoint customer
    let fallback := self.fallback || decide (self.docs.get "fallback" = some (.bool true)) ||
      (!customer && (self.docs.get "transport").isSome)
    let self := { self with fallback }
    if fallback then self.enter crates .streamSnapshot
    else if (self.status.index "upload_modes").asArray.any (·.contains (.str "ws_relay")) then
      self.enter crates .socketOpen
    else
      let self := { self.setDoc "transport" (.str "http") with transport := "http" }
      self.save crates .streamSnapshot

def consumeSocketOpen : Reply :=
  { self.setDoc "transport" (.str "ws") with transport := "ws" }.save crates
    (if self.bytes = [] then .streamSnapshot else .socketExchange)

/-- The snapshot is of the recording that is streamed, and the device has not failed it. -/
def sameActive (facts : Json) : Checked Unit := do
  let r ← self.recording?
  let uuid ← text facts "recording_uuid"
  if uuid ≠ r.uuid then .error (fail "BYO active source changed")
  else do
    let generation ← number facts "recording_generation"
    if generation ≠ r.generation then .error (fail "BYO active source changed")
    else do
      let failed ← boolean facts "failed"
      if failed then .error (fail "BYO active source changed") else .ok ()

/-- The device no longer holds all that is still to be sent. -/
def overrun (facts : Json) : Checked Bool := do
  let overflow ← boolean facts "overflow"
  if overflow then .ok true
  else do
    let retained ← number facts "retained_offset"
    .ok (decide (self.offset < retained))

def consumeStreamSnapshot : Reply :=
  if 14400000 ≤ elapsed now self.started then .error (fail "BYO live limit exceeded")
  else do
    let facts ← parse crates value
    let self := { self with facts }
    self.sameActive facts
    let length ← number facts "ciphertext_length"
    let closed ← boolean facts "closed"
    if length < self.offset ∨ 134217728 < length then
      .error (fail "BYO live source limit exceeded")
    else do
      let overrun ← self.overrun facts
      -- what the device has dropped is fetched by the batch transfer after the recording
      let self := if overrun then
          { self.setDoc "fallback" (.bool true) with fallback := true } else self
      if closed ∧ (self.fallback ∨ length = self.offset) then self.enter crates .socketClose
      else
        let self := { self with chunkCount := min (length - self.offset) 16384 }
        -- a segment is full, but for the last one of a closed recording
        if ¬self.fallback ∧ 0 < self.chunkCount ∧ (self.chunkCount = 16384 ∨ closed) then
          let self := { self with bytes := [] }
          self.enter crates .liveRead
        else if 30000 ≤ elapsed now self.refreshed then
          let self := { self with next := .stage .liveWait }
          self.enter crates .refreshPeriodic
        else self.enter crates .liveWait

def consumeLiveRead : Reply := do
  let chunk ← bytesOf value
  if chunk.length ≠ self.liveChunk then .error (fail "BYO live range mismatch")
  else
    let self := { self with bytes := self.bytes ++ chunk }
    if self.bytes.length < self.chunkCount then self.enter crates .liveRead
    else
      let segment := Json.object [("index", .ofNat self.index), ("offset", .ofNat self.offset),
        ("length", .ofNat self.chunkCount), ("sha256", .str (sha crates self.bytes))]
      let self := { self with segment }
      self.enter crates (if self.transport = "ws" then .socketExchange else .segmentGrant)

/-- The frame that acknowledges the segment on the socket. -/
def socketAcknowledged (ack : Json) : Bool :=
  decide (ack.index "type" = .str "ack") &&
    decide (ack.index "session_id" = self.context.index "upload_session_id") &&
    decide (ack.index "segment" = self.segment) &&
    (!self.customer || transferAck (ack.index "proof") self.segment true)

def consumeSocketExchange : Reply := do
  let ack ← parse crates value
  if self.socketAcknowledged ack then self.segmentAccepted crates else self.fallBack crates

def consumeSegmentGrant : Reply := do
  let result ← data crates value
  let proof := result.index "result"
  if proof.index "segment" ≠ self.segment then self.fallBack crates
  -- the server may have the segment already
  else if transferAck result self.segment self.customer then self.segmentAccepted crates
  else if proof.index "state" ≠ .str "write_authorized" ∨ ¬(proof.index "grant").isObject then
    self.fallBack crates
  else
    let self := { self with upload := proof.index "grant" }
    self.enter crates .segmentFile

def consumeSegmentAppend : Reply :=
  if value ≠ .str (toString self.chunkCount) then .error (fail "BYO segment append not durable")
  else self.enter crates .segmentFlush

def consumeSegmentConfirm : Reply := do
  let result ← data crates value
  if transferAck result self.segment self.customer then self.segmentAccepted crates
  else self.fallBack crates

def consumeSocketClose : Reply := do
  let closed ← boolean self.facts "closed"
  self.enter crates (if closed then .streamStatus else .liveWait)

/-- A renewal of the stream is asked for at the revision the server names. -/
def streamRenewal (rev : Nat) : ByoMachine :=
  if (self.docs.index "renewal").index "expected_revision" = .ofNat rev then self
  else self.setDoc "renewal"
    (.object [("operation_id", .str random), ("expected_revision", .ofNat rev)])

def consumeStreamStatus : Reply := do
  let status ← data crates value
  if status.get "recovery_required" = some (.bool true) then do
    let rev ← number status "recovery_revision"
    (self.streamRenewal random rev).save crates .streamRenew
  else self.streamHandoff crates status

def consumeHandoff : Reply := do
  self.acceptSuccessor crates (← data crates value)

/-! ## One answer -/

/-- The stages of `consume`, on an answer that is no error. -/
def consumeOk : Reply :=
  match self.stage with
  | .refreshInitial => self.consumeRefreshInitial crates now
  | .refreshPeriodic => (self.refreshed? now).resume crates self.next
  | .refreshOpen => (self.refreshed? now).enter crates .«open»
  | .refreshReceipt => (self.refreshed? now).enter crates .receipt
  | .capabilities => self.consumeCapabilities crates value
  | .discover => self.consumeDiscover crates value
  | .inspectLive => self.consumeInspectLive crates value
  | .loaded => self.consumeLoaded crates value
  | .saved => self.resume crates self.next
  | .selection => self.consumeSelection crates value
  | .selectSource => self.consumeSelectSource crates value
  | .createContext => self.consumeCreateContext crates value
  | .prepare => self.consumePrepare crates value random
  | .renew => self.consumeRenew crates value
  | .upload => self.consumeUpload crates value
  | .«open» => self.consumeOpen crates value
  | .fileStart => self.enter crates .download
  | .download => self.consumeDownload crates value
  | .append => self.consumeAppend crates value now
  | .fileFinish => self.consumeFileFinish crates
  | .packageAppend => self.consumePackageAppend crates value
  | .packageFinish => self.consumePackageFinish crates value
  | .packageRange => self.consumePackageRange crates value
  | .packageGrant => self.consumePackageGrant crates value
  | .packageFile => self.enter crates .packageSegmentAppend
  | .packageSegmentAppend => self.consumePackageSegmentAppend crates value
  | .packageSegmentFlush => self.enter crates .packagePut
  | .packagePut => self.consumePackagePut crates
  | .packageWholeGrant => self.consumePackageWholeGrant crates value
  | .put => self.consumePut crates
  | .complete => self.consumeComplete crates value
  | .completeWait => self.enter crates .complete
  | .receipt => self.consumeReceipt crates value
  | .confirm => self.consumeConfirm crates
  | .missingStatus => self.consumeMissingStatus crates value
  | .removeFile => self.enter crates .result
  | .catalog => self.consumeCatalog crates value now
  | .liveContext => self.enter crates .streamCheckpoint
  | .streamCheckpoint => self.consumeStreamCheckpoint crates value
  | .socketOpen => self.consumeSocketOpen crates
  | .streamSnapshot => self.consumeStreamSnapshot crates value now
  | .liveRead => self.consumeLiveRead crates value
  | .socketExchange => self.consumeSocketExchange crates value
  | .segmentGrant => self.consumeSegmentGrant crates value
  | .segmentFile => self.enter crates .segmentAppend
  | .segmentAppend => self.consumeSegmentAppend crates value
  | .segmentFlush => self.enter crates .segmentPut
  | .segmentPut => self.enter crates .segmentConfirm
  | .segmentConfirm => self.consumeSegmentConfirm crates value
  | .liveAck => self.enter crates .liveWait
  | .liveWait => self.enter crates .streamSnapshot
  | .socketBackoff => self.enter crates .socketOpen
  | .socketClose => self.consumeSocketClose crates
  | .streamStatus => self.consumeStreamStatus crates value random
  | .streamRenew => self.enter crates .streamStatus
  | .handoff => self.consumeHandoff crates value
  | .liveSuccessor => self.beginBatchSuccessor crates (self.docs.index "successor")
  | .successorLoaded | .packagePlan | .receiptPersisted | .result | .catalogResult =>
    .error (fail "unexpected BYO callback stage")

def consume (event : Json) : Reply :=
  if now < self.started ∨ Json.MAX_SAFE_INTEGER < now then
    .error (fail "BYO clock is outside its exact range")
  else
    match event.get "error" with
    | some error => self.consumeError crates error random
    | none => self.consumeOk crates (event.index "ok") now random

/-- The receipt's digest has been kept: cleanup is authorised, and kept before it begins. -/
def receiptKept : Reply := do
  let hash ← text self.docs "receipt_sha256"
  let self ← self.advanceAt .receiptVerified (.receiptPersisted hash)
  let (self, reply) ← self.advanceRecovery .inspect
  if ¬reply.mayCleanup then .error (fail "BYO cleanup not authorized")
  else self.save crates .confirm

/-- The machine with the documents of the successor's own run. -/
def withSuccessor (docs : Json) : ByoMachine :=
  let self := { self with docs }.setDoc "identity" (.str self.identityKey)
  let self := self.setDoc "context" self.context
  self.setDoc "assembled" (.bool (decide (self.next = .text "assembled")))

def successorLoaded : Reply := do
  let docs ← loadedDocs value
  if (docs.get "context").any (· ≠ self.context) then
    .error (fail "BYO batch successor conflict")
  else do
    let self := self.withSuccessor docs
    let recovery ← self.loadedRecovery
    { self with recovery }.contextReady crates

/-- `advanceByoMachine`. -/
def advance (event : Json) : Reply :=
  if ¬isUuid random then .error (fail "invalid BYO operation UUID")
  else if self.stage = .receiptPersisted then
    .error (fail "BYO receipt persistence requires save acknowledgement")
  else if self.stage = .saved ∧ self.next = .stage .receiptPersisted ∧ event.get "error" = none then
    self.receiptKept crates
  else if self.stage = .successorLoaded ∧ event.get "error" = none then
    self.successorLoaded crates (event.index "ok")
  else self.consume crates now random event

end Consume

/-! ## Start -/

/-- What `startByoMachine` reads: the generations are 32-bit integers. -/
def typed (input : ByoInput) : Bool :=
  input.scope.bindingGeneration < 2 ^ 32 && input.recording.all (·.generation < 2 ^ 32)

def startsWith (value start : String) : Bool :=
  (asBytes start).isPrefixOf (asBytes value)

/-- The device has to be connected under a serial number, with an MTU of BLE. -/
def connected (device : Json) : Checked Bool := do
  let state ← text device "connectionState"
  if state ≠ "connected" then .ok false
  else do
    let _ ← text device "serialNumber"
    let mtu ← number device "mtu"
    .ok (decide (23 ≤ mtu ∧ mtu ≤ 517))

def configured (input : ByoInput) : Bool :=
  let s := input.scope
  startsWith input.operationId "byo-" && (asBytes input.operationId).length ≤ 64 &&
    ["list", "sync", "stream"].contains input.mode &&
    !(input.mode = "sync" && input.recording.isNone) && s.bindingGeneration ≠ 0 &&
    s.scopeKey ≠ "" && (asBytes s.scopeKey).length ≤ 512 &&
    ["development", "gamma", "production"].contains s.environment &&
    [s.organizationId, s.projectId, s.deviceId].all isName && startsWith s.baseUrl "https://" &&
    (asBytes s.baseUrl).length ≤ 8192 &&
    !(asBytes s.baseUrl).any [63, 35, 64, 13, 10].contains

def new (input : ByoInput) (now : Nat) : Checked ByoMachine :=
  if ¬configured input then .error (fail "invalid BYO configuration")
  else do
    let connected ← connected input.device
    if ¬connected ∨ Json.MAX_SAFE_INTEGER < now then .error (fail "invalid BYO configuration")
    else if input.recording.any (!isUuid ·.uuid) then .error (fail "invalid BYO recording")
    else .ok {
      input
      stage := .refreshInitial
      next := .text ""
      recording := input.recording
      docs := .object []
      stream := false
      capabilities := .null
      facts := .null
      context := .null
      authorization := .null
      status := .null
      upload := .null
      manifest := .null
      recovery := none
      identityKey := ""
      loadKey := ""
      offset := 0
      index := 0
      chunkCount := 0
      bytes := []
      segment := .null
      sourceLength := 0
      sourceHash := ""
      cursor := 0
      pages := 0
      catalog := []
      transport := ""
      fallback := false
      started := now
      refreshed := now
      polls := 0
      retryAction := .null
      renewAfter := .text "" }

/-- `startByoMachine`. -/
def start (crates : Crates) (input : ByoInput) (now : Nat) : Reply :=
  if ¬typed input then .error (fail "codec input does not match its typed contract")
  else do
    let self ← new input now
    self.issue crates

end ByoMachine

end BotaSdk
