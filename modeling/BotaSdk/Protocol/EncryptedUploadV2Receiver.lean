import Mathlib.Data.List.AList
import BotaSdk.Model
import BotaSdk.Protocol.RecordingMarkers

/-!
# The batch-v2 receiver (`protocol/encrypted_upload_v2_receiver.rs`)

The receiver decides repair, durability, ACK and completion; the port performs one I/O request at a
time.  Sequences, offsets and lengths that the receiver computes are numbers here: a sum that leaves
its machine type panics.
-/

namespace BotaSdk

namespace Protocol

def MAXIMUM_BUFFERED_BYTES : Nat := 1024 * 1024
def PACKET_METADATA_BYTES : Nat := 80
def MAXIMUM_APPEND_BYTES : Nat := 64 * 1024
def MAXIMUM_MARKER_DOCUMENT_BYTES : UInt32 := 402
def ENCRYPTED_UPLOAD_V2_WINDOW_ACK_MINIMUM_LENGTH : Nat := 68
def ENCRYPTED_UPLOAD_V2_DATA_MINIMUM_LENGTH : Nat := 28

end Protocol

open Protocol TransferV2

/-- The packet sequence is historical evidence: every receiver counts its DATA from 1. -/
structure EncryptedUploadV2ReceiverCheckpoint where
  revision : UInt32
  nextCiphertextOffset : UInt64
  prefixSha256 : FixedBytes 32
  highestContiguousSequence : Option UInt32
  deriving DecidableEq

def EncryptedUploadV2ReceiverCheckpoint.initial (sha256 : List UInt8 → FixedBytes 32) :
    EncryptedUploadV2ReceiverCheckpoint where
  revision := 0
  nextCiphertextOffset := 0
  prefixSha256 := sha256 []
  highestContiguousSequence := none

structure EncryptedUploadV2ReceiverConfig where
  transportSessionId : UInt64
  expectedCiphertextLength : UInt64
  expectedCiphertextSha256 : FixedBytes 32
  maximumDataPayloadBytes : UInt16
  maximumWindowPackets : UInt16
  maximumMissingSequences : UInt16
  checkpoint : EncryptedUploadV2ReceiverCheckpoint
  markersRequired : Bool
  deriving DecidableEq

structure EncryptedUploadV2ReceiverMarkerEvidence where
  documentCount : Nat
  /-- The hash of the exact documents concatenated in transfer order. -/
  documentsSha256 : FixedBytes 32
  deriving DecidableEq

inductive EncryptedUploadV2ReceiverEvent where
  | sinkProof (requestId byteLength : Nat) (prefixSha256 : FixedBytes 32)
  | applied (requestId : Nat)
  | failed (requestId : Nat) (error : DeviceSdkError)
  deriving DecidableEq

def EncryptedUploadV2ReceiverEvent.requestId : EncryptedUploadV2ReceiverEvent → Nat
  | .sinkProof requestId _ _ | .applied requestId | .failed requestId _ => requestId

inductive EncryptedUploadV2ReceiverAction where
  | none
  | inspectSink (requestId prefixLength : Nat) (flush : Bool)
  | truncateSink (requestId length : Nat)
  | appendCiphertext (requestId offset : Nat) (bytes : List UInt8)
  | persistCheckpoint (requestId : Nat) (checkpoint : EncryptedUploadV2ReceiverCheckpoint)
  | appendMarkerDocument (requestId : Nat) (documentIndex documentCount : UInt32)
      (documentSha256 : FixedBytes 32) (document : List UInt8)
  | control (frame : List UInt8)
  | complete (manifest : List UInt8) (evidence : EncryptedUploadV2TransferEvidence)
      (markerEvidence : Option EncryptedUploadV2ReceiverMarkerEvidence)
  deriving DecidableEq

namespace EncryptedUploadV2Receiver

/-- A map from sequences. -/
abbrev BySequence (β : Type) := AList fun _ : Nat => β

structure Packet where
  offset : Nat
  bytes : List UInt8
  deriving DecidableEq

/-- The offset after the packet. -/
def Packet.stop (packet : Packet) : Nat :=
  packet.offset + packet.bytes.length

structure PacketFingerprint where
  offset : Nat
  length : Nat
  sha256 : FixedBytes 32
  deriving DecidableEq

structure PendingWindow where
  boundary : WindowEndV2
  missing : List Nat
  highest : Nat
  contiguousOffset : Nat
  deriving DecidableEq

inductive IoPurpose where
  | initialProof
  | initialTruncate
  | windowAppend (nextOffset : Nat)
  | windowProof
  | windowPersist
  | markerPersist
  | finalProof (eof : EofV2)
  deriving DecidableEq

structure PendingIo where
  requestId : Nat
  purpose : IoPurpose
  deriving DecidableEq

structure MarkerSlot where
  index : Nat
  length : UInt16
  sha256 : FixedBytes 32
  header : List UInt8
  assembler : Option MarkerDocumentAssembler
  deriving DecidableEq

end EncryptedUploadV2Receiver

open EncryptedUploadV2Receiver

/-- `markerDocumentsHash` holds what the hasher has absorbed. -/
structure EncryptedUploadV2Receiver where
  config : EncryptedUploadV2ReceiverConfig
  checkpoint : EncryptedUploadV2ReceiverCheckpoint
  highestSequence : Option Nat
  packets : BySequence Packet
  bufferedBytes : Nat
  stagedOffset : Nat
  pendingWindow : Option PendingWindow
  acknowledgedWindow : Option WindowEndV2
  acknowledgedPackets : BySequence PacketFingerprint
  manifest : List UInt8
  manifestPresent : List Bool
  manifestSha256 : Option (FixedBytes 32)
  markerCount : Option UInt32
  markerDocumentsPersisted : Nat
  markerSlot : Option MarkerSlot
  markerDocumentsHash : List UInt8
  markerContextDigest : Option (FixedBytes 32)
  io : Option PendingIo
  nextRequestId : Nat
  started : Bool
  prepared : Bool
  terminal : Bool
  cancelled : Bool

namespace EncryptedUploadV2Receiver

/-- What a call returns. -/
abbrev Reply := Outcome EncryptedUploadV2ReceiverAction

def failure (code : ErrorCode) (detail : String) : DeviceSdkError :=
  (DeviceSdkError.new code .transferRecording false).withDetail detail

def equalHash (left right : FixedBytes 32) : Bool :=
  (left.1.zip right.1).foldl (fun difference pair => difference ||| (pair.1 ^^^ pair.2)) 0 == 0

/-- `bytes[offset..offset + n].try_into()`. -/
def fieldOf (n : Nat) (bytes : List UInt8) (offset : Nat) : Option (FixedBytes n) :=
  if h : ((bytes.drop offset).take n).length = n then some ⟨(bytes.drop offset).take n, h⟩ else none

/-! ## One marker document -/

def MarkerSlot.push (self : MarkerSlot) (session : UInt64) (value : MarkerChunkV2) :
    MarkerSlot × Outcome Bool :=
  match self.assembler with
  | some assembler =>
    if 2 ^ 32 ≤ self.index + 1 then (self, .panicked)
    else
      match assembler.push session (self.index + 1) value.chunkOffset.toNat value.chunk with
      | (assembler, .ok complete) => ({ self with assembler := some assembler }, .ok complete)
      | (assembler, .error error) => ({ self with assembler := some assembler }, .err error)
  | none =>
    let start := value.chunkOffset.toNat
    let stop := start + value.chunk.length
    if start < self.header.length then
      if self.header.length < stop ∨ (self.header.drop start).take (stop - start) ≠ value.chunk then
        (self, .err (failure .integrityFailed "conflicting v2 marker header duplicate"))
      else (self, .ok false)
    else if start ≠ self.header.length then
      (self, .err (failure .protocolRejected "noncontiguous v2 marker header"))
    else
      let self := { self with header := self.header ++ value.chunk }
      if self.header.length < RECORDING_MARKER_HEADER_LENGTH then (self, .ok false)
      else
        match fieldOf 16 self.header RECORDING_MARKER_HEADER_REQUEST_UUID_OFFSET,
          fieldOf 32 self.header RECORDING_MARKER_HEADER_CONTEXT_DIGEST_OFFSET with
        | some requestUuid, some contextDigest =>
          if 2 ^ 32 ≤ self.index + 1 then (self, .panicked)
          else
            match MarkerDocumentAssembler.new session (self.index + 1)
              (if self.index = 0 then RECORDING_MARKER_SEAL else RECORDING_MARKER_PAGE)
              self.length.toUInt32 MAXIMUM_MARKER_DOCUMENT_BYTES requestUuid contextDigest with
            | .error error => (self, .err error)
            | .ok assembler =>
              match assembler.push session (self.index + 1) 0 self.header with
              | (_, .error error) => (self, .err error)
              | (assembler, .ok complete) =>
                ({ self with header := [], assembler := some assembler }, .ok complete)
        | _, _ => (self, .panicked)

def MarkerSlot.document (self : MarkerSlot) : Option (List UInt8) :=
  self.assembler.bind MarkerDocumentAssembler.document

/-! ## Construction -/

def new (sha256 : List UInt8 → FixedBytes 32) (config : EncryptedUploadV2ReceiverConfig) :
    Except DeviceSdkError EncryptedUploadV2Receiver :=
  let checkpoint := config.checkpoint
  let maximumMissing := (MAX_MTU - ENCRYPTED_UPLOAD_V2_WINDOW_ACK_MINIMUM_LENGTH) / 4
  if config.transportSessionId = 0 ∨ config.expectedCiphertextLength = 0 ∨
      config.maximumDataPayloadBytes = 0 ∨
      MAX_MTU - ENCRYPTED_UPLOAD_V2_DATA_MINIMUM_LENGTH < config.maximumDataPayloadBytes.toNat ∨
      config.maximumWindowPackets = 0 ∨ config.maximumMissingSequences = 0 ∨
      maximumMissing < config.maximumMissingSequences.toNat ∨
      config.expectedCiphertextLength < checkpoint.nextCiphertextOffset ∨
      (checkpoint.nextCiphertextOffset == 0) ≠ checkpoint.highestContiguousSequence.isNone ∨
      (checkpoint.nextCiphertextOffset == 0) ≠ (checkpoint.revision == 0) ∨
      (checkpoint.nextCiphertextOffset = 0 ∧ checkpoint.prefixSha256 ≠
        (EncryptedUploadV2ReceiverCheckpoint.initial sha256).prefixSha256) then
    .error (failure .invalidInput "invalid v2 receiver configuration")
  else
    .ok {
      checkpoint := config.checkpoint
      stagedOffset := config.checkpoint.nextCiphertextOffset.toNat
      config
      highestSequence := none
      packets := ∅
      bufferedBytes := 0
      pendingWindow := none
      acknowledgedWindow := none
      acknowledgedPackets := ∅
      manifest := .replicate UPLOAD_MANIFEST_V2_FIXED_LENGTH 0
      manifestPresent := .replicate UPLOAD_MANIFEST_V2_FIXED_LENGTH false
      manifestSha256 := none
      markerCount := none
      markerDocumentsPersisted := 0
      markerSlot := none
      markerDocumentsHash := []
      markerContextDigest := none
      io := none
      nextRequestId := 1
      started := false
      prepared := false
      terminal := false
      cancelled := false }

/-! ## Requests -/

section Calls

variable (sha256 : List UInt8 → FixedBytes 32) (self : EncryptedUploadV2Receiver)

def request (purpose : IoPurpose) (action : Nat → EncryptedUploadV2ReceiverAction) :
    EncryptedUploadV2Receiver × Reply :=
  if 2 ^ 64 ≤ self.nextRequestId + 1 then
    (self, .err (failure .internal "v2 receiver I/O identifier exhausted"))
  else
    ({ self with
        nextRequestId := self.nextRequestId + 1
        io := some { requestId := self.nextRequestId, purpose } },
      .ok (action self.nextRequestId))

def requireActive : Except DeviceSdkError Unit :=
  if self.cancelled then .error (failure .cancelled "v2 receiver cancelled")
  else if self.terminal then .error (failure .unexpectedEvent "v2 receiver is terminal")
  else .ok ()

def finishResult (result : EncryptedUploadV2Receiver × Reply) : EncryptedUploadV2Receiver × Reply :=
  match result.2 with
  | .err _ => ({ result.1 with terminal := true, io := none }, result.2)
  | _ => result

/-- The answer of a step whose sums must stay below `limit`: one that does not panics.  All sums are
taken, also where the source stops at an earlier condition. -/
def unlessOverflow (limit : Nat) (sums : List Nat) (answer : EncryptedUploadV2Receiver × Reply) :
    EncryptedUploadV2Receiver × Reply :=
  if ∀ sum ∈ sums, sum < limit then answer else (self, .panicked)

def candidateCheckpoint (boundary : WindowEndV2) : EncryptedUploadV2ReceiverCheckpoint where
  revision := boundary.checkpointRevision
  nextCiphertextOffset := boundary.nextCiphertextOffset
  prefixSha256 := boundary.prefixSha256
  highestContiguousSequence := some boundary.lastSequence

def ack (boundary : WindowEndV2) (highestContiguousSequence : UInt32)
    (nextCiphertextOffset : UInt64) (prefixSha256 : FixedBytes 32) (checkpointRevision : UInt32)
    (missingSequences : List UInt32) : Reply :=
  let common : CommonHeaderV2 := {
    messageType := ENCRYPTED_UPLOAD_V2_WINDOW_ACK
    flags := 0
    transportSessionId := self.config.transportSessionId }
  match encodeEncryptedUploadV2Transfer (.windowAck {
      common
      windowIndex := boundary.windowIndex
      highestContiguousSequence
      nextCiphertextOffset
      prefixSha256
      checkpointRevision
      missingSequences }) with
  | .ok frame => .ok (.control frame)
  | .error error => .err error

def start : EncryptedUploadV2Receiver × Reply :=
  match self.requireActive with
  | .error error => (self, .err error)
  | .ok () =>
    if self.started then (self, .err (failure .unexpectedEvent "v2 receiver already started"))
    else
      { self with started := true }.request .initialProof fun requestId =>
        .inspectSink requestId self.checkpoint.nextCiphertextOffset.toNat false

def cancel : EncryptedUploadV2Receiver :=
  { self with
    cancelled := true
    terminal := true
    io := none
    packets := ∅
    bufferedBytes := 0
    pendingWindow := none
    markerSlot := none }

/-! ## Window I/O -/

/-- The packets of the sequences `first..=last`, in order. -/
def packetRange (packets : BySequence Packet) (first last : Nat) : List Packet :=
  (List.range' first (last + 1 - first)).filterMap packets.lookup

/-- The loop that fills one append. -/
def appendBatch (stagedOffset : Nat) : List Packet → List UInt8 → List UInt8
  | [], bytes => bytes
  | packet :: packets, bytes =>
    if packet.offset < stagedOffset then appendBatch stagedOffset packets bytes
    else if MAXIMUM_APPEND_BYTES < bytes.length + packet.bytes.length then bytes
    else appendBatch stagedOffset packets (bytes ++ packet.bytes)

def inspectWindow : EncryptedUploadV2Receiver × Reply :=
  match self.pendingWindow with
  | none => (self, .panicked)
  | some pending =>
    self.request .windowProof fun requestId => .inspectSink requestId pending.contiguousOffset true

def advanceWindowIo : EncryptedUploadV2Receiver × Reply :=
  match self.pendingWindow with
  | none => (self, .panicked)
  | some pending =>
    let bytes :=
      if pending.boundary.firstSequence.toNat ≤ pending.highest then
        appendBatch self.stagedOffset
          (packetRange self.packets pending.boundary.firstSequence.toNat pending.highest) []
      else []
    if bytes ≠ [] then
      self.unlessOverflow (2 ^ 64) [self.stagedOffset + bytes.length]
        (self.request (.windowAppend (self.stagedOffset + bytes.length)) fun requestId =>
          .appendCiphertext requestId self.stagedOffset bytes)
    else self.inspectWindow

def windowProved (byteLength : Nat) (prefixSha256 : FixedBytes 32) :
    EncryptedUploadV2Receiver × Reply :=
  match self.pendingWindow with
  | none => (self, .panicked)
  | some pending =>
    if byteLength ≠ pending.contiguousOffset ∨
        (pending.contiguousOffset = self.checkpoint.nextCiphertextOffset.toNat ∧
          !equalHash prefixSha256 self.checkpoint.prefixSha256) then
      (self, .err (failure .integrityFailed "v2 synchronized window prefix mismatch"))
    else if pending.missing ≠ [] then
      (self, self.ack pending.boundary (.ofNat pending.highest) (.ofNat pending.contiguousOffset)
        prefixSha256 self.checkpoint.revision (pending.missing.map .ofNat))
    else if !equalHash prefixSha256 pending.boundary.prefixSha256 then
      (self, .err (failure .integrityFailed "v2 window hash mismatch"))
    else
      self.request .windowPersist fun requestId =>
        .persistCheckpoint requestId (candidateCheckpoint pending.boundary)

def fingerprint (packet : Packet) : PacketFingerprint where
  offset := packet.offset
  length := packet.bytes.length
  sha256 := sha256 packet.bytes

/-- The map that `f` sends every value of `table` to. -/
def mapValues {β γ : Type} (f : β → γ) (table : BySequence β) : BySequence γ where
  entries := table.entries.map fun entry => ⟨entry.1, f entry.2⟩
  nodupKeys := by
    have hkeys : (table.entries.map fun entry => (⟨entry.1, f entry.2⟩ : Sigma fun _ : Nat => γ)).keys =
        table.entries.keys := by
      rw [List.keys, List.map_map]
      rfl
    rw [List.NodupKeys, hkeys]
    exact table.nodupKeys

def windowPersisted : EncryptedUploadV2Receiver × Reply :=
  match self.pendingWindow with
  | none => (self, .panicked)
  | some pending =>
    let checkpoint := candidateCheckpoint pending.boundary
    let taken := { self with pendingWindow := none }
    match self.ack pending.boundary pending.boundary.lastSequence checkpoint.nextCiphertextOffset
      checkpoint.prefixSha256 checkpoint.revision [] with
    | .ok action =>
      ({ taken with
          checkpoint
          highestSequence := some pending.boundary.lastSequence.toNat
          acknowledgedWindow := some pending.boundary
          acknowledgedPackets := mapValues (fingerprint sha256) self.packets
          packets := ∅
          bufferedBytes := 0 },
        .ok action)
    | .err error => (taken, .err error)
    | .panicked => (taken, .panicked)

/-! ## Received messages -/

/-- The sequence that the next window starts with. -/
def firstSequence : Nat :=
  self.highestSequence.getD 0 + 1

/-- `sequence` is no repair that the pending window asked for. -/
def unrequested (sequence stop : Nat) : Bool :=
  match self.pendingWindow with
  | some pending =>
    pending.missing.isEmpty || !pending.missing.contains sequence ||
      decide (pending.boundary.nextCiphertextOffset.toNat < stop)
  | none => false

def overlaps (offset stop : Nat) (packet : Packet) : Prop :=
  offset < packet.stop ∧ packet.offset < stop

instance (offset stop : Nat) (packet : Packet) : Decidable (overlaps offset stop packet) :=
  inferInstanceAs (Decidable (_ ∧ _))

/-- `receive_data` for a sequence outside the acknowledged window. -/
def bufferData (sequence offset : Nat) (data : List UInt8) : EncryptedUploadV2Receiver × Reply :=
  let stop := offset + data.length
  if 2 ^ 64 ≤ stop then (self, .err (failure .payloadTooLarge "v2 DATA offset overflow"))
  else if 2 ^ 32 ≤ self.firstSequence then
    (self, .err (failure .protocolRejected "v2 sequence exhausted"))
  else if data = [] ∨ self.config.maximumDataPayloadBytes.toNat < data.length ∨
      offset < self.checkpoint.nextCiphertextOffset.toNat ∨
      self.config.expectedCiphertextLength.toNat < stop ∨ sequence < self.firstSequence ∨
      self.firstSequence + self.config.maximumWindowPackets.toNat ≤ sequence ∨
      self.manifestSha256.isSome then
    (self, .err (failure .protocolRejected "v2 DATA exceeds admitted bounds"))
  else
    match self.packets.lookup sequence with
    | some existing =>
      if existing.offset ≠ offset ∨ existing.bytes ≠ data then
        (self, .err (failure .integrityFailed "conflicting v2 DATA duplicate"))
      else (self, .ok .none)
    | none =>
      if self.unrequested sequence stop then
        (self, .err (failure .protocolRejected "v2 DATA is not requested repair"))
      else
        -- `usize` has 32 bits on the web
        self.unlessOverflow (2 ^ 32) [self.bufferedBytes + data.length + PACKET_METADATA_BYTES]
          (self.unlessOverflow (2 ^ 64) (self.packets.entries.map (Packet.stop ·.2))
          (if self.config.maximumWindowPackets.toNat ≤ self.packets.entries.length ∨
              MAXIMUM_BUFFERED_BYTES <
                self.bufferedBytes + data.length + PACKET_METADATA_BYTES ∨
              ∃ entry ∈ self.packets.entries, overlaps offset stop entry.2 then
            (self, .err (failure .payloadTooLarge "v2 DATA window overlaps or exceeds buffer bound"))
          else
            ({ self with
                bufferedBytes := self.bufferedBytes + (data.length + PACKET_METADATA_BYTES)
                packets := self.packets.insert sequence { offset, bytes := data } },
              .ok .none)))

def receiveData (sequence : UInt32) (offset : UInt64) (data : List UInt8) :
    EncryptedUploadV2Receiver × Reply :=
  match self.acknowledgedPackets.lookup sequence.toNat with
  | some previous =>
    if previous.offset = offset.toNat ∧ previous.length = data.length ∧
        equalHash previous.sha256 (sha256 data) then
      (self, .ok .none)
    else (self, .err (failure .integrityFailed "conflicting acknowledged v2 DATA duplicate"))
  | none => self.bufferData sequence.toNat offset.toNat data

/-- The boundary does not fit the window that the receiver expects. -/
def malformedBoundary (value : WindowEndV2) : Prop :=
  self.firstSequence ≠ value.firstSequence.toNat ∨ value.lastSequence < value.firstSequence ∨
    self.config.maximumWindowPackets.toNat <
      value.lastSequence.toNat - value.firstSequence.toNat + 1 ∨
    value.checkpointRevision ≤ self.checkpoint.revision ∨
    value.nextCiphertextOffset ≤ self.checkpoint.nextCiphertextOffset ∨
    self.config.expectedCiphertextLength < value.nextCiphertextOffset ∨
    self.manifestSha256.isSome ∨
    (∃ pending ∈ self.pendingWindow, pending.boundary ≠ value) ∨
    ∃ entry ∈ self.packets.entries, entry.1 < value.firstSequence.toNat ∨
      value.lastSequence.toNat < entry.1 ∨ value.nextCiphertextOffset.toNat < entry.2.stop

instance (value : WindowEndV2) : Decidable (self.malformedBoundary value) :=
  inferInstanceAs (Decidable (_ ∨ _))

def windowMissing (value : WindowEndV2) : List Nat :=
  (List.range' value.firstSequence.toNat
    (value.lastSequence.toNat + 1 - value.firstSequence.toNat)).filter (· ∉ self.packets)

def stagedPrefixSplits : DeviceSdkError :=
  failure .integrityFailed "v2 staged prefix splits DATA packet"

/-- The loop over the packets of a window, from `sequence` on: the end of the contiguous run and its
highest sequence. -/
def scanWindow (packets : BySequence Packet) (stagedOffset : Nat) :
    Nat → Nat → Nat → Nat → Outcome (Nat × Nat)
  | 0, _, contiguousOffset, highest => .ok (contiguousOffset, highest)
  | count + 1, sequence, contiguousOffset, highest =>
    match packets.lookup sequence with
    | none => .ok (contiguousOffset, highest)
    | some packet =>
      if packet.offset ≠ contiguousOffset then
        .err (failure .integrityFailed "noncontiguous v2 DATA offsets")
      else if 2 ^ 64 ≤ packet.stop then .panicked
      else if packet.offset < stagedOffset ∧ stagedOffset < packet.stop then
        .err stagedPrefixSplits
      else scanWindow packets stagedOffset count (sequence + 1) packet.stop sequence

/-- The loop of `receive_window`; `first - 1` panics for the sequence 0. -/
def scanBoundary (value : WindowEndV2) : Outcome (Nat × Nat) :=
  if value.firstSequence = 0 then .panicked
  else
    scanWindow self.packets self.stagedOffset
      (value.lastSequence.toNat + 1 - value.firstSequence.toNat) value.firstSequence.toNat
      self.checkpoint.nextCiphertextOffset.toNat (value.firstSequence.toNat - 1)

def receiveWindow (value : WindowEndV2) : EncryptedUploadV2Receiver × Reply :=
  if self.acknowledgedWindow = some value then
    (self, self.ack value value.lastSequence self.checkpoint.nextCiphertextOffset
      self.checkpoint.prefixSha256 self.checkpoint.revision [])
  else
    self.unlessOverflow (2 ^ 64) (self.packets.entries.map (Packet.stop ·.2))
      (if self.malformedBoundary value then
        (self, .err (failure .protocolRejected "malformed v2 window boundary"))
      else if self.config.maximumMissingSequences.toNat < (self.windowMissing value).length then
        (self, .err (failure .payloadTooLarge "v2 missing sequence count exceeds admitted bound"))
      else
        match self.scanBoundary value with
        | .panicked => (self, .panicked)
        | .err error => (self, .err error)
        | .ok (contiguousOffset, highest) =>
          if contiguousOffset < self.stagedOffset ∨
              (self.windowMissing value = [] ∧
                contiguousOffset ≠ value.nextCiphertextOffset.toNat) then
            (self, .err (failure .integrityFailed "v2 window prefix length mismatch"))
          else
            { self with
              pendingWindow := some {
                boundary := value
                missing := self.windowMissing value
                highest
                contiguousOffset } }.advanceWindowIo)

/-- The loop over the bytes of a manifest chunk. -/
def writeManifest (self : EncryptedUploadV2Receiver) :
    Nat → List UInt8 → EncryptedUploadV2Receiver × Outcome Unit
  | _, [] => (self, .ok ())
  | index, byte :: chunk =>
    match self.manifestPresent[index]?, self.manifest[index]? with
    | some present, some held =>
      if present ∧ held ≠ byte then
        (self, .err (failure .integrityFailed "conflicting v2 manifest duplicate"))
      else
        { self with
          manifest := self.manifest.set index byte
          manifestPresent := self.manifestPresent.set index true }.writeManifest (index + 1) chunk
    | _, _ => (self, .panicked)

def receiveManifest (value : ManifestChunkV2) : EncryptedUploadV2Receiver × Reply :=
  if self.pendingWindow.isSome ∨ self.packets.entries ≠ [] ∨
      self.checkpoint.nextCiphertextOffset ≠ self.config.expectedCiphertextLength ∨
      value.totalManifestLength.toNat ≠ self.manifest.length ∨ value.chunk = [] ∨
      self.manifest.length < value.chunkOffset.toNat + value.chunk.length ∨
      (∃ hash ∈ self.manifestSha256, !equalHash hash value.manifestSha256) then
    (self, .err (failure .protocolRejected "v2 manifest framing or phase conflict"))
  else
    match self.writeManifest value.chunkOffset.toNat value.chunk with
    | (self, .panicked) => (self, .panicked)
    | (self, .err error) => (self, .err error)
    | (self, .ok ()) => ({ self with manifestSha256 := some value.manifestSha256 }, .ok .none)

/-- A completed document is checked and handed to the port. -/
def persistMarker (value : MarkerChunkV2) (document : List UInt8) :
    EncryptedUploadV2Receiver × Reply :=
  if !equalHash (sha256 document) value.documentSha256 then
    (self, .err (failure .integrityFailed "v2 marker document hash mismatch"))
  else
    match fieldOf 32 document RECORDING_MARKER_HEADER_CONTEXT_DIGEST_OFFSET with
    | none => (self, .panicked)
    | some contextDigest =>
      if ∃ context ∈ self.markerContextDigest, !equalHash context contextDigest then
        (self, .err (failure .identityMismatch "mixed v2 marker contexts"))
      else
        { self with markerContextDigest := some contextDigest }.request .markerPersist
          fun requestId =>
            .appendMarkerDocument requestId value.documentIndex value.documentCount
              value.documentSha256 document

/-- The chunk of a marker document does not belong here. -/
def markerRejected (value : MarkerChunkV2) : Prop :=
  self.config.markersRequired = false ∨ self.pendingWindow.isSome ∨ self.packets.entries ≠ [] ∨
    self.checkpoint.nextCiphertextOffset ≠ self.config.expectedCiphertextLength ∨
    false ∈ self.manifestPresent ∨ self.manifestSha256 ≠ some (sha256 self.manifest) ∨
    ¬(2 ≤ value.documentCount ∧ value.documentCount ≤ 4097) ∨
    value.documentIndex.toNat ≠ self.markerDocumentsPersisted ∨
    value.documentCount ≤ value.documentIndex ∨
    (∃ count ∈ self.markerCount, count ≠ value.documentCount) ∨
    ¬(200 ≤ value.documentLength ∧ value.documentLength ≤ MAXIMUM_MARKER_DOCUMENT_BYTES.toUInt16) ∨
    value.chunk = [] ∨
    value.documentLength.toNat < value.chunkOffset.toNat + value.chunk.length

instance (value : MarkerChunkV2) : Decidable (self.markerRejected sha256 value) :=
  inferInstanceAs (Decidable (_ ∨ _))

/-- The slot that a chunk goes to. -/
def slotFor (value : MarkerChunkV2) : MarkerSlot :=
  self.markerSlot.getD {
    index := value.documentIndex.toNat
    length := value.documentLength
    sha256 := value.documentSha256
    header := []
    assembler := none }

def receiveMarker (value : MarkerChunkV2) : EncryptedUploadV2Receiver × Reply :=
  if self.markerRejected sha256 value then
    (self, .err (failure .protocolRejected "v2 marker document bounds, order or phase mismatch"))
  else
    let slot := self.slotFor value
    let self := { self with markerCount := some value.documentCount, markerSlot := some slot }
    if slot.length ≠ value.documentLength ∨ !equalHash slot.sha256 value.documentSha256 then
      (self, .err (failure .integrityFailed "conflicting v2 marker document metadata"))
    else
      let (slot, pushed) := slot.push self.config.transportSessionId value
      let self := { self with markerSlot := some slot }
      match pushed with
      | .panicked => (self, .panicked)
      | .err error => (self, .err error)
      | .ok false => (self, .ok .none)
      | .ok true =>
        match slot.document with
        | none => (self, .panicked)
        | some document => self.persistMarker sha256 value document

/-- The EOF does not agree with what was received. -/
def eofRejected (value : EofV2) : Prop :=
  self.pendingWindow.isSome ∨ self.packets.entries ≠ [] ∨
    (self.config.markersRequired ∧
      (self.markerCount.map UInt32.toNat ≠ some self.markerDocumentsPersisted ∨
        self.markerSlot.isSome)) ∨
    self.highestSequence.getD 0 ≠ value.finalSequence.toNat ∨ value.blockCount = 0 ∨
    self.checkpoint.nextCiphertextOffset ≠ self.config.expectedCiphertextLength ∨
    value.ciphertextLength ≠ self.config.expectedCiphertextLength ∨
    !equalHash value.ciphertextSha256 self.config.expectedCiphertextSha256 ∨
    self.manifestSha256 ≠ some value.manifestSha256 ∨ false ∈ self.manifestPresent ∨
    !equalHash (sha256 self.manifest) value.manifestSha256

instance (value : EofV2) : Decidable (self.eofRejected sha256 value) :=
  inferInstanceAs (Decidable (_ ∨ _))

def receiveEof (value : EofV2) : EncryptedUploadV2Receiver × Reply :=
  if self.eofRejected sha256 value then
    (self, .err (failure .integrityFailed "v2 EOF evidence mismatch"))
  else
    self.request (.finalProof value) fun requestId =>
      .inspectSink requestId value.ciphertextLength.toNat true

/-- The header of a message that a receiver takes. -/
def commonOf : EncryptedUploadV2Transfer → Option CommonHeaderV2
  | .data common _ _ _ | .error common _ _ _ => some common
  | .windowEnd value => some value.common
  | .manifestChunk value => some value.common
  | .markerChunk value => some value.common
  | .eof value => some value.common
  | _ => none

def receiveFrame (frame : EncryptedUploadV2Transfer) : EncryptedUploadV2Receiver × Reply :=
  match commonOf frame with
  | none => (self, .err (failure .protocolRejected "unexpected v2 receiver message"))
  | some common =>
    if common.transportSessionId ≠ self.config.transportSessionId then
      (self, .err (failure .identityMismatch "v2 transport session mismatch"))
    else
      match frame with
      | .data _ sequence offset data => self.receiveData sha256 sequence offset data
      | .windowEnd value => self.receiveWindow value
      | .manifestChunk value => self.receiveManifest value
      | .markerChunk value => self.receiveMarker sha256 value
      | .eof value => self.receiveEof sha256 value
      | .error _ result _ _ =>
        (self, .err ((failure .protocolRejected "v2 device rejected transfer").withProtocolStatus
          result.toNat))
      | _ => (self, .panicked)

def receiveInner (bytes : List UInt8) : EncryptedUploadV2Receiver × Reply :=
  match decodeEncryptedUploadV2Transfer bytes with
  | .error error => (self, .err error)
  | .ok frame => self.receiveFrame sha256 frame

def receive (bytes : List UInt8) : EncryptedUploadV2Receiver × Reply :=
  match self.requireActive with
  | .error error => (self, .err error)
  | .ok () =>
    if self.io.isSome then (self, .err (failure .operationInProgress "v2 receiver I/O is pending"))
    else if !self.prepared then
      (self, .err (failure .unexpectedEvent "v2 receiver is not prepared"))
    else finishResult (self.receiveInner sha256 bytes)

/-! ## Answers of the port -/

def initialProved (byteLength : Nat) (prefixSha256 : FixedBytes 32) :
    EncryptedUploadV2Receiver × Reply :=
  let next := self.checkpoint.nextCiphertextOffset.toNat
  if byteLength < next ∨ !equalHash prefixSha256 self.checkpoint.prefixSha256 then
    (self, .err (failure .integrityFailed "retained v2 ciphertext prefix mismatch"))
  else if next < byteLength then
    self.request .initialTruncate fun requestId => .truncateSink requestId next
  else ({ self with prepared := true }, .ok .none)

def markerPersisted : EncryptedUploadV2Receiver × Reply :=
  match self.markerSlot with
  | none => (self, .panicked)
  | some slot =>
    match slot.document with
    | none => (self, .panicked)
    | some document =>
      if 2 ^ 32 ≤ self.markerDocumentsPersisted + 1 then (self, .panicked)
      else
        ({ self with
            markerSlot := none
            markerDocumentsHash := self.markerDocumentsHash ++ document
            markerDocumentsPersisted := self.markerDocumentsPersisted + 1 },
          .ok .none)

def finalProved (eof : EofV2) (byteLength : Nat) (prefixSha256 : FixedBytes 32) :
    EncryptedUploadV2Receiver × Reply :=
  if byteLength ≠ self.config.expectedCiphertextLength.toNat ∨
      !equalHash prefixSha256 self.config.expectedCiphertextSha256 then
    (self, .err (failure .integrityFailed "final v2 ciphertext length or hash mismatch"))
  else
    ({ self with terminal := true },
      .ok (.complete self.manifest
        { ciphertextLength := eof.ciphertextLength.toNat
          ciphertextSha256 := eof.ciphertextSha256
          manifestLength := UPLOAD_MANIFEST_V2_FIXED_LENGTH
          manifestSha256 := eof.manifestSha256
          blockCount := eof.blockCount.toNat }
        (if self.config.markersRequired then
          some {
            documentCount := self.markerDocumentsPersisted
            documentsSha256 := sha256 self.markerDocumentsHash }
        else none)))

def applyInner (purpose : IoPurpose) (event : EncryptedUploadV2ReceiverEvent) :
    EncryptedUploadV2Receiver × Reply :=
  match purpose, event with
  | _, .failed _ error => (self, .err error)
  | .initialProof, .sinkProof _ byteLength prefixSha256 =>
    self.initialProved byteLength prefixSha256
  | .initialTruncate, .applied _ => ({ self with prepared := true }, .ok .none)
  | .windowAppend nextOffset, .applied _ =>
    { self with stagedOffset := nextOffset }.advanceWindowIo
  | .windowProof, .sinkProof _ byteLength prefixSha256 =>
    self.windowProved byteLength prefixSha256
  | .windowPersist, .applied _ => self.windowPersisted sha256
  | .markerPersist, .applied _ => self.markerPersisted
  | .finalProof eof, .sinkProof _ byteLength prefixSha256 =>
    self.finalProved sha256 eof byteLength prefixSha256
  | _, _ => (self, .err (failure .unexpectedEvent "v2 receiver I/O result kind mismatch"))

def apply (event : EncryptedUploadV2ReceiverEvent) : EncryptedUploadV2Receiver × Reply :=
  match self.requireActive with
  | .error error => (self, .err error)
  | .ok () =>
    match self.io with
    | none => (self, .err (failure .unexpectedEvent "v2 receiver I/O request mismatch"))
    | some io =>
      if io.requestId ≠ event.requestId then
        (self, .err (failure .unexpectedEvent "v2 receiver I/O request mismatch"))
      else finishResult ({ self with io := none }.applyInner sha256 io.purpose event)

/-! ## Calls -/

inductive Call where
  | start
  | cancel
  | receive (bytes : List UInt8)
  | apply (event : EncryptedUploadV2ReceiverEvent)
  deriving DecidableEq

/-- Any call; `cancel` returns nothing. -/
def call : Call → EncryptedUploadV2Receiver × Reply
  | .start => self.start
  | .cancel => (self.cancel, .ok .none)
  | .receive bytes => self.receive sha256 bytes
  | .apply event => self.apply sha256 event

end Calls

end EncryptedUploadV2Receiver

end BotaSdk
