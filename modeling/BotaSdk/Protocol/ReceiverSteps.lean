import BotaSdk.Protocol.ReceiverPackets
import BotaSdk.Protocol.SignedBlobAssembly

/-!
# What a call of the batch-v2 receiver can do

`Bookkeeping` is the invariant of a receiver that still runs.  Under it no call panics, and every call
is one of the steps of `CallStep`.
-/

namespace BotaSdk.EncryptedUploadV2Receiver

open Protocol TransferV2

theorem equalHash_iff {left right : FixedBytes 32} : equalHash left right = true ↔ left = right := by
  rw [Subtype.ext_iff, ← SignedBlobAssemblerV2.constantTimeEq_iff, SignedBlobV2.constantTimeEq,
    if_neg (not_not.mpr (left.2.trans right.2.symm))]
  rfl

theorem equalHash_eq_false_iff {left right : FixedBytes 32} :
    (!equalHash left right) = true ↔ left ≠ right := by
  rw [Bool.not_eq_true', ← Bool.not_eq_true, equalHash_iff]

/-! ## The invariant -/

/-- The bounds that `new` checks. -/
structure AcceptedConfig (config : EncryptedUploadV2ReceiverConfig) : Prop where
  session : config.transportSessionId ≠ 0
  length : config.expectedCiphertextLength ≠ 0
  payload : config.maximumDataPayloadBytes.toNat ≤ 484
  missing : config.maximumMissingSequences.toNat ≤ 111
  checkpoint : config.checkpoint.nextCiphertextOffset.toNat ≤ config.expectedCiphertextLength.toNat

/-- The buffer is accounted for, and no two packets share a byte. -/
structure Buffered (receiver : EncryptedUploadV2Receiver) : Prop where
  total : receiver.bufferedBytes =
    (receiver.packets.entries.map fun entry => entry.2.bytes.length + PACKET_METADATA_BYTES).sum
  bound : receiver.bufferedBytes ≤ MAXIMUM_BUFFERED_BYTES
  disjoint : ∀ sequence sequence' packet packet', receiver.packets.lookup sequence = some packet →
    receiver.packets.lookup sequence' = some packet' → sequence ≠ sequence' →
    packet.stop ≤ packet'.offset ∨ packet'.stop ≤ packet.offset

/-- A packet of the window that is being received. -/
structure PacketHeld (config : EncryptedUploadV2ReceiverConfig)
    (checkpoint : EncryptedUploadV2ReceiverCheckpoint) (firstSequence sequence : Nat)
    (packet : Packet) : Prop where
  sequence : firstSequence ≤ sequence
  bytes : packet.bytes ≠ []
  payload : packet.bytes.length ≤ config.maximumDataPayloadBytes.toNat
  offset : checkpoint.nextCiphertextOffset.toNat ≤ packet.offset
  stop : packet.stop ≤ config.expectedCiphertextLength.toNat

/-- The pending window has the contiguous packets `written ++ rest`, of which `written` is staged. -/
structure WindowHeld (receiver : EncryptedUploadV2Receiver) (pending : PendingWindow)
    (written rest : List Packet) : Prop where
  first : pending.boundary.firstSequence.toNat = receiver.firstSequence
  last : pending.boundary.firstSequence ≤ pending.boundary.lastSequence
  revision : receiver.checkpoint.revision < pending.boundary.checkpointRevision
  next : receiver.checkpoint.nextCiphertextOffset < pending.boundary.nextCiphertextOffset
  length : pending.boundary.nextCiphertextOffset ≤ receiver.config.expectedCiphertextLength
  chain : Chain receiver.packets receiver.firstSequence receiver.checkpoint.nextCiphertextOffset.toNat
    (written ++ rest)
  highest : pending.highest + 1 = receiver.firstSequence + (written ++ rest).length
  room : pending.highest ≤ pending.boundary.lastSequence.toNat
  contiguous : pending.contiguousOffset =
    receiver.checkpoint.nextCiphertextOffset.toNat + (content (written ++ rest)).length
  staged : receiver.stagedOffset =
    receiver.checkpoint.nextCiphertextOffset.toNat + (content written).length
  inside : ∀ sequence packet, receiver.packets.lookup sequence = some packet →
    sequence ≤ pending.boundary.lastSequence.toNat ∧
      packet.stop ≤ pending.boundary.nextCiphertextOffset.toNat
  asked : ∀ sequence ∈ pending.missing, sequence ≤ pending.boundary.lastSequence.toNat
  missing : pending.missing.length ≤ receiver.config.maximumMissingSequences.toNat
  clean : pending.missing = [] →
    pending.contiguousOffset = pending.boundary.nextCiphertextOffset.toNat

/-- An assembler that has not failed. -/
structure AssemblerFormed (assembler : MarkerDocumentAssembler) : Prop where
  failed : assembler.failed = false
  bound : assembler.bytes.length ≤ assembler.expectedLength
  complete : assembler.complete = true ↔ assembler.bytes.length = assembler.expectedLength

/-- The assembler of the document in a slot. -/
structure AssemblerHeld (slot : MarkerSlot) (assembler : MarkerDocumentAssembler) : Prop where
  formed : AssemblerFormed assembler
  header : slot.header = []
  expected : assembler.expectedLength = slot.length.toNat
  started : RECORDING_MARKER_HEADER_LENGTH ≤ assembler.bytes.length

/-- A document is kept as a part of its header, or by its assembler. -/
structure SlotFormed (slot : MarkerSlot) : Prop where
  length : 200 ≤ slot.length.toNat
  raw : slot.assembler = none → slot.header.length < RECORDING_MARKER_HEADER_LENGTH
  assembling : ∀ assembler, slot.assembler = some assembler → AssemblerHeld slot assembler

/-- The slot of the document after `persisted` others. -/
structure SlotHeld (persisted : Nat) (slot : MarkerSlot) : Prop where
  index : slot.index = persisted
  bound : slot.index < 4097
  formed : SlotFormed slot

/-- Between two calls of the port nothing is left to write. -/
def Idle (self : EncryptedUploadV2Receiver) : Prop :=
  ∀ pending, self.pendingWindow = some pending →
    pending.missing ≠ [] ∧ ∃ written, WindowHeld self pending written []

/-- What the outstanding request is about. -/
def Owned (sha256 : List UInt8 → FixedBytes 32) (self : EncryptedUploadV2Receiver) :
    IoPurpose → Prop
  | .initialProof | .initialTruncate => self.prepared = false ∧ self.pendingWindow = none
  | .windowAppend nextOffset => ∃ pending written batch rest,
      self.pendingWindow = some pending ∧ WindowHeld self pending written (batch ++ rest) ∧
        batch ≠ [] ∧ nextOffset = self.stagedOffset + (content batch).length
  | .windowProof => ∃ pending written,
      self.pendingWindow = some pending ∧ WindowHeld self pending written []
  | .windowPersist => ∃ pending written, self.pendingWindow = some pending ∧
      WindowHeld self pending written [] ∧ pending.missing = []
  | .markerPersist => self.pendingWindow = none ∧
      ∃ slot document, self.markerSlot = some slot ∧ slot.document = some document
  | .finalProof eof => self.pendingWindow = none ∧
      self.checkpoint.nextCiphertextOffset = self.config.expectedCiphertextLength ∧
      eof.ciphertextLength = self.config.expectedCiphertextLength ∧
      eof.ciphertextSha256 = self.config.expectedCiphertextSha256 ∧
      eof.manifestSha256 = sha256 self.manifest ∧
      (self.config.markersRequired = true →
        self.markerCount.map UInt32.toNat = some self.markerDocumentsPersisted)

/-- What holds of the data, whatever request is outstanding. -/
structure Sound (receiver : EncryptedUploadV2Receiver) : Prop where
  config : AcceptedConfig receiver.config
  checkpoint : receiver.checkpoint.nextCiphertextOffset.toNat ≤
    receiver.config.expectedCiphertextLength.toNat
  packet : ∀ sequence packet, receiver.packets.lookup sequence = some packet →
    PacketHeld receiver.config receiver.checkpoint receiver.firstSequence sequence packet
  staged : receiver.pendingWindow = none →
    receiver.stagedOffset = receiver.checkpoint.nextCiphertextOffset.toNat
  manifest : receiver.manifest.length = UPLOAD_MANIFEST_V2_FIXED_LENGTH ∧
    receiver.manifestPresent.length = UPLOAD_MANIFEST_V2_FIXED_LENGTH
  slot : ∀ slot, receiver.markerSlot = some slot → SlotHeld receiver.markerDocumentsPersisted slot

/-- The invariant of a receiver that is not terminal. -/
structure Bookkeeping (sha256 : List UInt8 → FixedBytes 32) (receiver : EncryptedUploadV2Receiver) :
    Prop where
  sound : Sound receiver
  idle : receiver.io = none → Idle receiver
  owned : ∀ io, receiver.io = some io → Owned sha256 receiver io.purpose
  issued : ∀ io, receiver.io = some io → io.requestId < receiver.nextRequestId
  unstarted : receiver.started = false →
    receiver.nextRequestId = 1 ∧ receiver.io = none ∧ receiver.prepared = false ∧
      receiver.pendingWindow = none

/-- The invariant of every receiver. -/
structure Kept (sha256 : List UInt8 → FixedBytes 32) (receiver : EncryptedUploadV2Receiver) :
    Prop where
  buffered : Buffered receiver
  cancelled : receiver.cancelled = true → receiver.terminal = true
  running : receiver.terminal = false → Bookkeeping sha256 receiver

/-! ## Steps -/

/-- The request that `request` issues. -/
def requested (self : EncryptedUploadV2Receiver) (purpose : IoPurpose) :
    EncryptedUploadV2Receiver :=
  { self with
    nextRequestId := self.nextRequestId + 1
    io := some { requestId := self.nextRequestId, purpose } }

/-- The next step of the I/O of a window. -/
inductive Advance (self : EncryptedUploadV2Receiver) (pending : PendingWindow) :
    List Packet → EncryptedUploadV2Receiver → EncryptedUploadV2ReceiverAction → Prop
  | append (batch rest : List Packet) : batch ≠ [] →
      Advance self pending (batch ++ rest)
        (requested self (.windowAppend (self.stagedOffset + (content batch).length)))
        (.appendCiphertext self.nextRequestId self.stagedOffset (content batch))
  | inspect :
      Advance self pending [] (requested self .windowProof)
        (.inspectSink self.nextRequestId pending.contiguousOffset true)

/-- Everything that an accepted message does. -/
inductive FrameStep (sha256 : List UInt8 → FixedBytes 32) (self : EncryptedUploadV2Receiver) :
    EncryptedUploadV2Transfer → EncryptedUploadV2Receiver → EncryptedUploadV2ReceiverAction → Prop
  | acknowledgedData (common : CommonHeaderV2) (sequence : UInt32) (offset : UInt64)
      (data : List UInt8) :
      self.acknowledgedPackets.lookup sequence.toNat =
        some (fingerprint sha256 { offset := offset.toNat, bytes := data }) →
      FrameStep sha256 self (.data common sequence offset data) self .none
  | duplicateData (common : CommonHeaderV2) (sequence : UInt32) (offset : UInt64)
      (data : List UInt8) :
      self.packets.lookup sequence.toNat = some { offset := offset.toNat, bytes := data } →
      FrameStep sha256 self (.data common sequence offset data) self .none
  | bufferedData (common : CommonHeaderV2) (sequence : UInt32) (offset : UInt64)
      (data : List UInt8) :
      self.packets.lookup sequence.toNat = none →
      PacketHeld self.config self.checkpoint self.firstSequence sequence.toNat
        { offset := offset.toNat, bytes := data } →
      self.unrequested sequence.toNat (offset.toNat + data.length) = false →
      self.bufferedBytes + (data.length + PACKET_METADATA_BYTES) ≤ MAXIMUM_BUFFERED_BYTES →
      (∀ sequence' packet, self.packets.lookup sequence' = some packet →
        offset.toNat + data.length ≤ packet.offset ∨ packet.stop ≤ offset.toNat) →
      FrameStep sha256 self (.data common sequence offset data)
        { self with
          bufferedBytes := self.bufferedBytes + (data.length + PACKET_METADATA_BYTES)
          packets := self.packets.insert sequence.toNat { offset := offset.toNat, bytes := data } }
        .none
  | reacknowledged (value : WindowEndV2) (frame : List UInt8) :
      self.acknowledgedWindow = some value → FrameStep sha256 self (.windowEnd value) self
        (.control frame)
  | window (value : WindowEndV2) (pending : PendingWindow) (written rest : List Packet)
      (next : EncryptedUploadV2Receiver) (action : EncryptedUploadV2ReceiverAction) :
      pending.boundary = value →
      pending.missing = self.windowMissing value →
      WindowHeld self pending written rest →
      Advance { self with pendingWindow := some pending } pending rest next action →
      FrameStep sha256 self (.windowEnd value) next action
  | manifest (value : ManifestChunkV2) (manifest : List UInt8) (present : List Bool) :
      self.pendingWindow = none → self.packets.entries = [] →
      self.checkpoint.nextCiphertextOffset = self.config.expectedCiphertextLength →
      manifest.length = self.manifest.length → present.length = self.manifestPresent.length →
      FrameStep sha256 self (.manifestChunk value)
        { self with
          manifest
          manifestPresent := present
          manifestSha256 := some value.manifestSha256 }
        .none
  | markerFragment (value : MarkerChunkV2) (slot : MarkerSlot) :
      ¬self.markerRejected sha256 value →
      (self.slotFor value).push self.config.transportSessionId value = (slot, .ok false) →
      SlotHeld self.markerDocumentsPersisted slot →
      FrameStep sha256 self (.markerChunk value)
        { self with markerCount := some value.documentCount, markerSlot := some slot } .none
  | markerDocument (value : MarkerChunkV2) (slot : MarkerSlot) (document : List UInt8)
      (contextDigest : FixedBytes 32) :
      ¬self.markerRejected sha256 value →
      (self.slotFor value).push self.config.transportSessionId value = (slot, .ok true) →
      SlotHeld self.markerDocumentsPersisted slot → slot.document = some document →
      sha256 document = value.documentSha256 →
      FrameStep sha256 self (.markerChunk value)
        (requested { self with
          markerCount := some value.documentCount
          markerSlot := some slot
          markerContextDigest := some contextDigest } .markerPersist)
        (.appendMarkerDocument self.nextRequestId value.documentIndex value.documentCount
          value.documentSha256 document)
  | eof (value : EofV2) :
      ¬self.eofRejected sha256 value →
      FrameStep sha256 self (.eof value) (requested self (.finalProof value))
        (.inspectSink self.nextRequestId value.ciphertextLength.toNat true)

/-- Everything that an accepted answer to a request of `purpose` does. -/
inductive EventStep (sha256 : List UInt8 → FixedBytes 32) (self : EncryptedUploadV2Receiver) :
    IoPurpose → EncryptedUploadV2ReceiverEvent → EncryptedUploadV2Receiver →
    EncryptedUploadV2ReceiverAction → Prop
  | proved (requestId : Nat) :
      EventStep sha256 self .initialProof
        (.sinkProof requestId self.checkpoint.nextCiphertextOffset.toNat
          self.checkpoint.prefixSha256)
        { self with prepared := true } .none
  | untruncated (requestId byteLength : Nat) :
      self.checkpoint.nextCiphertextOffset.toNat < byteLength →
      EventStep sha256 self .initialProof
        (.sinkProof requestId byteLength self.checkpoint.prefixSha256)
        (requested self .initialTruncate)
        (.truncateSink self.nextRequestId self.checkpoint.nextCiphertextOffset.toNat)
  | truncated (requestId : Nat) :
      EventStep sha256 self .initialTruncate (.applied requestId) { self with prepared := true }
        .none
  | appended (requestId : Nat) (pending : PendingWindow) (written batch rest : List Packet)
      (next : EncryptedUploadV2Receiver) (action : EncryptedUploadV2ReceiverAction) :
      self.pendingWindow = some pending →
      WindowHeld self pending written (batch ++ rest) →
      Advance { self with stagedOffset := self.stagedOffset + (content batch).length } pending rest
        next action →
      EventStep sha256 self (.windowAppend (self.stagedOffset + (content batch).length))
        (.applied requestId) next action
  | repair (requestId : Nat) (prefixSha256 : FixedBytes 32) (pending : PendingWindow)
      (written : List Packet) (frame : List UInt8) :
      self.pendingWindow = some pending → WindowHeld self pending written [] →
      pending.missing ≠ [] →
      EventStep sha256 self .windowProof
        (.sinkProof requestId pending.contiguousOffset prefixSha256) self (.control frame)
  | clean (requestId : Nat) (pending : PendingWindow) (written : List Packet) :
      self.pendingWindow = some pending → WindowHeld self pending written [] →
      pending.missing = [] →
      EventStep sha256 self .windowProof
        (.sinkProof requestId pending.contiguousOffset pending.boundary.prefixSha256)
        (requested self .windowPersist)
        (.persistCheckpoint self.nextRequestId (candidateCheckpoint pending.boundary))
  | persisted (requestId : Nat) (pending : PendingWindow) (written : List Packet)
      (frame : List UInt8) :
      self.pendingWindow = some pending → WindowHeld self pending written [] →
      pending.missing = [] →
      EventStep sha256 self .windowPersist (.applied requestId)
        { self with
          pendingWindow := none
          checkpoint := candidateCheckpoint pending.boundary
          highestSequence := some pending.boundary.lastSequence.toNat
          acknowledgedWindow := some pending.boundary
          acknowledgedPackets := mapValues (fingerprint sha256) self.packets
          packets := ∅
          bufferedBytes := 0 }
        (.control frame)
  | markerPersisted (requestId : Nat) (slot : MarkerSlot) (document : List UInt8) :
      self.markerSlot = some slot → slot.document = some document →
      EventStep sha256 self .markerPersist (.applied requestId)
        { self with
          markerSlot := none
          markerDocumentsHash := self.markerDocumentsHash ++ document
          markerDocumentsPersisted := self.markerDocumentsPersisted + 1 }
        .none
  | completed (requestId : Nat) (eof : EofV2)
      (markerEvidence : Option EncryptedUploadV2ReceiverMarkerEvidence) :
      markerEvidence = (if self.config.markersRequired then
        some {
          documentCount := self.markerDocumentsPersisted
          documentsSha256 := sha256 self.markerDocumentsHash }
        else none) →
      EventStep sha256 self (.finalProof eof)
        (.sinkProof requestId self.config.expectedCiphertextLength.toNat
          self.config.expectedCiphertextSha256)
        { self with terminal := true }
        (.complete self.manifest
          { ciphertextLength := eof.ciphertextLength.toNat
            ciphertextSha256 := eof.ciphertextSha256
            manifestLength := UPLOAD_MANIFEST_V2_FIXED_LENGTH
            manifestSha256 := eof.manifestSha256
            blockCount := eof.blockCount.toNat }
          markerEvidence)

/-- The calls that are turned away without a trace. -/
def Refused (self : EncryptedUploadV2Receiver) : Call → Prop
  | .start => self.terminal = true ∨ self.started = true
  | .cancel => False
  | .receive _ => self.terminal = true ∨ self.io.isSome = true ∨ self.prepared = false
  | .apply event =>
      self.terminal = true ∨ self.io.map PendingIo.requestId ≠ some event.requestId

/-- Everything a call can do. -/
inductive CallStep (sha256 : List UInt8 → FixedBytes 32) (self : EncryptedUploadV2Receiver) :
    Call → EncryptedUploadV2Receiver → Reply → Prop
  | refused (input : Call) (error : DeviceSdkError) :
      Refused self input → CallStep sha256 self input self (.err error)
  | failed (input : Call) (next : EncryptedUploadV2Receiver) (error : DeviceSdkError) :
      ¬Refused self input → next.terminal = true → next.io = none →
      next.packets = self.packets → next.bufferedBytes = self.bufferedBytes →
      CallStep sha256 self input next (.err error)
  | cancelled : CallStep sha256 self .cancel self.cancel (.ok .none)
  | started : self.terminal = false → self.started = false →
      CallStep sha256 self .start (requested { self with started := true } .initialProof)
        (.ok (.inspectSink self.nextRequestId self.checkpoint.nextCiphertextOffset.toNat false))
  | received (bytes : List UInt8) (frame : EncryptedUploadV2Transfer)
      (next : EncryptedUploadV2Receiver) (action : EncryptedUploadV2ReceiverAction) :
      self.terminal = false → self.io = none → self.prepared = true →
      decodeEncryptedUploadV2Transfer bytes = .ok frame → FrameStep sha256 self frame next action →
      CallStep sha256 self (.receive bytes) next (.ok action)
  | answered (event : EncryptedUploadV2ReceiverEvent) (purpose : IoPurpose)
      (next : EncryptedUploadV2Receiver) (action : EncryptedUploadV2ReceiverAction) :
      self.terminal = false → self.io = some { requestId := event.requestId, purpose } →
      EventStep sha256 { self with io := none } purpose event next action →
      CallStep sha256 self (.apply event) next (.ok action)

/-! ## Every call is a step -/

/-- An error that left the buffer alone, or an accepted step. -/
inductive Answered (self : EncryptedUploadV2Receiver)
    (good : EncryptedUploadV2Receiver → EncryptedUploadV2ReceiverAction → Prop) :
    EncryptedUploadV2Receiver × Reply → Prop
  | failed (next : EncryptedUploadV2Receiver) (error : DeviceSdkError) :
      next.packets = self.packets → next.bufferedBytes = self.bufferedBytes →
      Answered self good (next, .err error)
  | ok (next : EncryptedUploadV2Receiver) (action : EncryptedUploadV2ReceiverAction) :
      good next action → Answered self good (next, .ok action)

section Answers

variable {sha256 : List UInt8 → FixedBytes 32} {self next : EncryptedUploadV2Receiver}
  {good : EncryptedUploadV2Receiver → EncryptedUploadV2ReceiverAction → Prop}

theorem Answered.mono {good' : EncryptedUploadV2Receiver → EncryptedUploadV2ReceiverAction → Prop}
    {result : EncryptedUploadV2Receiver × Reply} (h : Answered self good result)
    (hpackets : self.packets = next.packets) (hbytes : self.bufferedBytes = next.bufferedBytes)
    (himp : ∀ receiver action, good receiver action → good' receiver action) :
    Answered next good' result := by
  cases h with
  | failed receiver error hp hb => exact .failed receiver error (hp.trans hpackets) (hb.trans hbytes)
  | ok receiver action hgood => exact .ok receiver action (himp receiver action hgood)

theorem unlessOverflow_of_lt {limit : Nat} {sums : List Nat}
    {answer : EncryptedUploadV2Receiver × Reply} (h : ∀ sum ∈ sums, sum < limit) :
    self.unlessOverflow limit sums answer = answer := if_pos h

theorem request_answers {purpose : IoPurpose} {action : Nat → EncryptedUploadV2ReceiverAction}
    (hpackets : next.packets = self.packets) (hbytes : next.bufferedBytes = self.bufferedBytes)
    (h : good (requested next purpose) (action next.nextRequestId)) :
    Answered self good (next.request purpose action) := by
  unfold request
  split
  · exact .failed _ _ hpackets hbytes
  · exact .ok _ _ h

theorem ack_cases (self : EncryptedUploadV2Receiver) (boundary : WindowEndV2)
    (highest : UInt32) (offset : UInt64) (prefixSha256 : FixedBytes 32) (revision : UInt32)
    (missing : List UInt32) :
    (∃ frame, self.ack boundary highest offset prefixSha256 revision missing =
        .ok (.control frame)) ∨
      ∃ error, self.ack boundary highest offset prefixSha256 revision missing = .err error := by
  unfold ack
  dsimp only
  split
  · exact .inl ⟨_, rfl⟩
  · exact .inr ⟨_, rfl⟩

/-! ### Window I/O -/

theorem Chain.stop_le {packets : BySequence Packet} {sequence offset bound : Nat}
    {run : List Packet} (h : Chain packets sequence offset run) (hoffset : offset ≤ bound)
    (hstop : ∀ key packet, packets.lookup key = some packet → packet.stop ≤ bound) :
    offset + (content run).length ≤ bound := by
  induction run generalizing sequence offset with
  | nil => simpa using hoffset
  | cons packet run ih =>
    obtain ⟨hlookup, rfl, hrun⟩ := h
    have hrest := ih hrun (hstop _ _ hlookup)
    rwa [Packet.stop, Nat.add_assoc, ← List.length_append, ← content_cons] at hrest

theorem WindowHeld.contiguous_le {pending : PendingWindow} {written rest : List Packet}
    (h : WindowHeld self pending written rest) :
    pending.contiguousOffset ≤ pending.boundary.nextCiphertextOffset.toNat := by
  rw [h.contiguous]
  exact h.chain.stop_le (Nat.le_of_lt (UInt64.lt_iff_toNat_lt.mp h.next))
    fun key packet hlookup => (h.inside key packet hlookup).2

theorem content_ne_nil {run : List Packet} (hrun : run ≠ [])
    (hbytes : ∀ packet ∈ run, packet.bytes ≠ []) : content run ≠ [] := by
  cases run with
  | nil => exact absurd rfl hrun
  | cons packet run =>
    rw [content_cons]
    exact List.append_ne_nil_of_left_ne_nil (hbytes packet List.mem_cons_self) _

/-- A window depends on the buffer, the checkpoint and the staged offset only. -/
theorem WindowHeld.transfer {pending : PendingWindow} {written rest : List Packet}
    (h : WindowHeld self pending written rest) (hconfig : next.config = self.config)
    (hcheckpoint : next.checkpoint = self.checkpoint) (hpackets : next.packets = self.packets)
    (hstaged : next.stagedOffset = self.stagedOffset)
    (hfirst : next.firstSequence = self.firstSequence) : WindowHeld next pending written rest := by
  constructor
  · rw [hfirst, h.first]
  · exact h.last
  · rw [hcheckpoint]
    exact h.revision
  · rw [hcheckpoint]
    exact h.next
  · rw [hconfig]
    exact h.length
  · rw [hpackets, hfirst, hcheckpoint]
    exact h.chain
  · rw [hfirst, h.highest]
  · exact h.room
  · rw [hcheckpoint, h.contiguous]
  · rw [hstaged, hcheckpoint, h.staged]
  · rw [hpackets]
    exact h.inside
  · exact h.asked
  · rw [hconfig]
    exact h.missing
  · exact h.clean

theorem small_packets (h : Sound self) (sequence : Nat) (packet : Packet)
    (hlookup : self.packets.lookup sequence = some packet) :
    packet.bytes ≠ [] ∧ packet.bytes.length ≤ MAXIMUM_APPEND_BYTES := by
  have hheld := h.packet sequence packet hlookup
  have hpayload := hheld.payload
  have hmaximum := h.config.payload
  rw [MAXIMUM_APPEND_BYTES]
  exact ⟨hheld.bytes, by omega⟩

/-- One append takes a part of what is left, and nothing only if nothing is left. -/
theorem WindowHeld.batch {pending : PendingWindow} {written rest : List Packet}
    (h : WindowHeld self pending written rest)
    (hpacket : ∀ sequence packet, self.packets.lookup sequence = some packet →
      packet.bytes ≠ [] ∧ packet.bytes.length ≤ MAXIMUM_APPEND_BYTES) :
    ∃ batch tail, rest = batch ++ tail ∧ (batch = [] → rest = []) ∧
      (if pending.boundary.firstSequence.toNat ≤ pending.highest then
        appendBatch self.stagedOffset
          (packetRange self.packets pending.boundary.firstSequence.toNat pending.highest) []
      else []) = content batch := by
  rw [h.first]
  by_cases hempty : written ++ rest = []
  · obtain ⟨rfl, rfl⟩ := List.append_eq_nil_iff.mp hempty
    have hhighest := h.highest
    rw [List.append_nil, List.length_nil] at hhighest
    exact ⟨[], [], rfl, id, if_neg (by omega)⟩
  have hpositive : 0 < (written ++ rest).length := List.length_pos_iff.mpr hempty
  have hhighest := h.highest
  rw [if_pos (by omega), h.chain.packetRange hhighest]
  obtain ⟨hwritten, hrest⟩ := chain_append.mp h.chain
  have hbytes : ∀ packet ∈ written, packet.bytes ≠ [] := fun packet hmem => by
    obtain ⟨key, hlookup⟩ := hwritten.mem hmem
    exact (hpacket key packet hlookup).1
  rw [appendBatch_written hwritten hbytes h.staged.ge]
  obtain ⟨batch, ⟨tail, rfl⟩, hbatch⟩ := appendBatch_rest hrest h.staged.le []
  refine ⟨batch, tail, rfl, ?_, hbatch⟩
  -- an append that takes nothing has nothing in front of it
  rintro rfl
  cases tail with
  | nil => rfl
  | cons packet tail =>
    obtain ⟨hlookup, hoffset, -⟩ := hrest
    obtain ⟨hne, hsmall⟩ := hpacket _ _ hlookup
    exact absurd hbatch (appendBatch_ne_nil (h.staged.trans hoffset.symm).le hne hsmall)

theorem advanceWindowIo_answers {pending : PendingWindow} {written rest : List Packet}
    (hpending : self.pendingWindow = some pending) (h : WindowHeld self pending written rest)
    (hpacket : ∀ sequence packet, self.packets.lookup sequence = some packet →
      packet.bytes ≠ [] ∧ packet.bytes.length ≤ MAXIMUM_APPEND_BYTES) :
    Answered self (Advance self pending rest) self.advanceWindowIo := by
  obtain ⟨batch, tail, rfl, hnone, hbatch⟩ := h.batch hpacket
  unfold advanceWindowIo
  rw [hpending]
  dsimp only
  rw [hbatch]
  by_cases hempty : batch = []
  · obtain rfl := hempty
    obtain rfl : tail = [] := hnone rfl
    rw [if_neg (not_not.mpr content_nil), inspectWindow, hpending]
    exact request_answers rfl rfl .inspect
  have hbytes : ∀ packet ∈ batch, packet.bytes ≠ [] := fun packet hmem => by
    obtain ⟨key, hlookup⟩ := h.chain.mem (List.mem_append_right _ (List.mem_append_left _ hmem))
    exact (hpacket key packet hlookup).1
  have hfits : self.stagedOffset + (content batch).length < 2 ^ 64 := by
    have hle := h.contiguous_le
    have hnext := pending.boundary.nextCiphertextOffset.toNat_lt
    rw [h.contiguous, content_append, content_append, List.length_append, List.length_append] at hle
    rw [h.staged]
    omega
  rw [if_pos (content_ne_nil hempty hbytes), unlessOverflow_of_lt (by simpa using hfits)]
  exact request_answers rfl rfl (.append batch tail hempty)

/-! ### Messages -/

theorem overlaps_iff {offset stop : Nat} {packet : Packet} :
    ¬overlaps offset stop packet ↔ stop ≤ packet.offset ∨ packet.stop ≤ offset := by
  unfold overlaps
  omega

theorem stop_lt (h : Sound self) :
    ∀ sum ∈ self.packets.entries.map (Packet.stop ·.2), sum < 2 ^ 64 := by
  intro sum hsum
  obtain ⟨⟨sequence, packet⟩, hmem, rfl⟩ := List.mem_map.mp hsum
  have hheld := h.packet sequence packet (AList.mem_lookup_iff.mpr hmem)
  exact Nat.lt_of_le_of_lt hheld.stop self.config.expectedCiphertextLength.toNat_lt

theorem bufferData_answers (h : Sound self) (hbuffered : Buffered self)
    (common : CommonHeaderV2) (sequence : UInt32) (offset : UInt64) (data : List UInt8) :
    Answered self (FrameStep sha256 self (.data common sequence offset data))
      (self.bufferData sequence.toNat offset.toNat data) := by
  unfold bufferData
  dsimp only
  split
  · exact .failed _ _ rfl rfl
  split
  · exact .failed _ _ rfl rfl
  split
  · exact .failed _ _ rfl rfl
  rename_i hbounds
  simp only [not_or, not_lt] at hbounds
  obtain ⟨hbytes, hpayload, hoffset, hstop, hfirst, -, -⟩ := hbounds
  split
  · next existing hlookup =>
    split
    · exact .failed _ _ rfl rfl
    · next hsame =>
      simp only [not_or, not_not] at hsame
      have hexisting : existing = { offset := offset.toNat, bytes := data } := by
        cases existing
        exact (Packet.mk.injEq ..).mpr hsame
      exact .ok _ _ (.duplicateData common sequence offset data (hexisting ▸ hlookup))
  · next hlookup =>
    split
    · exact .failed _ _ rfl rfl
    next hrequested =>
    -- a packet is small, and the buffer is within its bound
    have hsum : self.bufferedBytes + data.length + PACKET_METADATA_BYTES < 2 ^ 32 := by
      have hbound := hbuffered.bound
      have hmaximum := h.config.payload
      rw [MAXIMUM_BUFFERED_BYTES] at hbound
      rw [PACKET_METADATA_BYTES]
      omega
    rw [unlessOverflow_of_lt (by simpa using hsum), unlessOverflow_of_lt (stop_lt h)]
    split
    · exact .failed _ _ rfl rfl
    next hroom =>
    simp only [not_or, not_lt, not_exists, not_and] at hroom
    obtain ⟨-, hspace, hdisjoint⟩ := hroom
    refine .ok _ _ (.bufferedData common sequence offset data hlookup
      ⟨hfirst, hbytes, hpayload, hoffset, hstop⟩ (Bool.not_eq_true _ ▸ hrequested) ?_ ?_)
    · rwa [← Nat.add_assoc]
    · intro sequence' packet hpacket
      exact overlaps_iff.mp (hdisjoint ⟨sequence', packet⟩ (AList.mem_lookup_iff.mp hpacket))

theorem receiveData_answers (h : Sound self) (hbuffered : Buffered self)
    (common : CommonHeaderV2) (sequence : UInt32) (offset : UInt64) (data : List UInt8) :
    Answered self (FrameStep sha256 self (.data common sequence offset data))
      (self.receiveData sha256 sequence offset data) := by
  unfold receiveData
  split
  · next previous hlookup =>
    split
    · next hsame =>
      obtain ⟨hoffset, hlength, hhash⟩ := hsame
      have hprevious : previous = fingerprint sha256 { offset := offset.toNat, bytes := data } := by
        cases previous
        exact (PacketFingerprint.mk.injEq ..).mpr ⟨hoffset, hlength, equalHash_iff.mp hhash⟩
      exact .ok _ _ (.acknowledgedData common sequence offset data (hprevious ▸ hlookup))
    · exact .failed _ _ rfl rfl
  · exact bufferData_answers h hbuffered common sequence offset data

/-- The staged packets of the window that is scanned again; none of a new one. -/
theorem written_of_idle (h : Sound self) (hidle : Idle self) {value : WindowEndV2}
    (hsame : ∀ pending, self.pendingWindow = some pending → pending.boundary = value) :
    ∃ written, Chain self.packets self.firstSequence self.checkpoint.nextCiphertextOffset.toNat
        written ∧
      self.stagedOffset = self.checkpoint.nextCiphertextOffset.toNat + (content written).length ∧
      (written = [] ∨ self.firstSequence + written.length ≤ value.lastSequence.toNat + 1) := by
  cases hpending : self.pendingWindow with
  | none => exact ⟨[], trivial, h.staged hpending, .inl rfl⟩
  | some pending =>
    obtain ⟨-, written, hheld⟩ := hidle pending hpending
    obtain rfl := hsame pending hpending
    have hhighest := hheld.highest
    have hroom := hheld.room
    rw [List.append_nil] at hhighest
    exact ⟨written, by simpa using hheld.chain, hheld.staged, .inr (by omega)⟩

/-- What the scan of a well-formed boundary finds. -/
theorem scanBoundary_cases (h : Sound self) (hidle : Idle self)
    {value : WindowEndV2} (hvalue : ¬self.malformedBoundary value) :
    (∃ error ≠ stagedPrefixSplits, self.scanBoundary value = .err error) ∨
      ∃ result written rest, self.scanBoundary value = .ok result ∧
        self.stagedOffset =
          self.checkpoint.nextCiphertextOffset.toNat + (content written).length ∧
        Scanned self.packets self.stagedOffset
          (value.lastSequence.toNat + 1 - value.firstSequence.toNat) self.firstSequence
          self.checkpoint.nextCiphertextOffset.toNat result (written ++ rest) := by
  simp only [malformedBoundary, not_or, not_exists, not_and, not_not] at hvalue
  obtain ⟨hfirst, hlast, -, -, -, -, -, hpending, -⟩ := hvalue
  obtain ⟨written, hwritten, hstaged, hroom⟩ :=
    written_of_idle h hidle fun pending hsome => hpending pending hsome
  have hpositive : value.firstSequence ≠ 0 := by
    intro hzero
    rw [hzero, firstSequence] at hfirst
    exact nomatch hfirst
  have hlastNat := UInt32.le_iff_toNat_le.mp (UInt32.not_lt.mp hlast)
  rw [scanBoundary, if_neg hpositive, ← hfirst]
  rw [← hfirst] at hlastNat
  have hfits : ∀ key packet, self.packets.lookup key = some packet → packet.stop < 2 ^ 64 :=
    fun key packet hlookup => stop_lt h _ (List.mem_map_of_mem (AList.mem_lookup_iff.mp hlookup))
  have hpred : self.firstSequence - 1 + 1 = self.firstSequence := Nat.succ_pred_eq_of_pos
    (Nat.succ_pos _)
  have hcount : written.length ≤ value.lastSequence.toNat + 1 - self.firstSequence := by
    rcases hroom with rfl | hroom
    · exact Nat.zero_le _
    · omega
  rcases scanWindow_cases hfits hpred hwritten hcount hstaged.le (.inr hstaged) with
    herror | ⟨result, run, hok, hscan⟩
  · exact .inl herror
  have hprefix : written.length ≤ run.length := by
    by_contra hshort
    rw [Nat.not_le] at hshort
    -- a shorter run would have stopped at a written packet, or at the end of the window
    obtain ⟨packet, hlookup⟩ := hwritten.lookup hshort
    rcases hscan.maximal with hfull | hnone
    · omega
    · rw [hnone] at hlookup
      exact nomatch hlookup
  obtain ⟨rest, rfl⟩ := hwritten.isPrefix hscan.chain hprefix
  exact .inr ⟨result, written, rest, hok, hstaged, hscan⟩

theorem receiveWindow_answers (h : Sound self) (hidle : Idle self)
    (value : WindowEndV2) :
    Answered self (FrameStep sha256 self (.windowEnd value)) (self.receiveWindow value) := by
  unfold receiveWindow
  split
  · next hacknowledged =>
    rcases ack_cases self value value.lastSequence self.checkpoint.nextCiphertextOffset
      self.checkpoint.prefixSha256 self.checkpoint.revision [] with ⟨frame, hack⟩ | ⟨error, hack⟩
    · rw [hack]
      exact .ok _ _ (.reacknowledged value frame hacknowledged)
    · rw [hack]
      exact .failed _ _ rfl rfl
  rw [unlessOverflow_of_lt (stop_lt h)]
  split
  · exact .failed _ _ rfl rfl
  next hvalue =>
  split
  · exact .failed _ _ rfl rfl
  next hmissing =>
  rcases scanBoundary_cases h hidle hvalue with ⟨error, -, hscan⟩ |
    ⟨⟨contiguousOffset, highest⟩, written, rest, hok, hstaged, hscan⟩
  · rw [hscan]
    exact .failed _ _ rfl rfl
  rw [hok]
  dsimp only
  split
  · exact .failed _ _ rfl rfl
  next hlength =>
  simp only [not_or, not_and, not_not] at hlength
  simp only [malformedBoundary, not_or, not_exists, not_and, not_not, not_lt] at hvalue
  obtain ⟨hfirst, hlast, -, hrevision, hnext, hexpected, -, -, hinside⟩ := hvalue
  -- what passed the checks of the boundary is a window that the packets hold
  have hheld : WindowHeld self
      { boundary := value, missing := self.windowMissing value, highest, contiguousOffset }
      written rest :=
    { first := hfirst.symm
      last := UInt32.not_lt.mp hlast
      revision := UInt32.not_le.mp hrevision
      next := UInt64.not_le.mp hnext
      length := UInt64.not_lt.mp hexpected
      chain := hscan.chain
      highest := hscan.highest
      room := by
        have hlengths := hscan.length
        have hhighest := hscan.highest
        have hlastNat := UInt32.le_iff_toNat_le.mp (UInt32.not_lt.mp hlast)
        dsimp only at hhighest ⊢
        omega
      contiguous := hscan.offset
      staged := hstaged
      inside := fun sequence packet hlookup => by
        have := hinside ⟨sequence, packet⟩ (AList.mem_lookup_iff.mp hlookup)
        exact ⟨this.2.1, this.2.2⟩
      asked := fun sequence hmem => by
        have hrange := List.mem_range'_1.mp (List.mem_filter.mp hmem).1
        have hlastNat := UInt32.le_iff_toNat_le.mp (UInt32.not_lt.mp hlast)
        show sequence ≤ value.lastSequence.toNat
        omega
      missing := Nat.not_lt.mp hmissing
      clean := hlength.2 }
  generalize hpending : PendingWindow.mk value (self.windowMissing value) highest contiguousOffset =
    pending at hheld
  have hwindow : WindowHeld { self with pendingWindow := some pending } pending written rest :=
    hheld.transfer rfl rfl rfl rfl rfl
  have hadvance := advanceWindowIo_answers rfl hwindow fun sequence packet =>
    small_packets h sequence packet
  exact hadvance.mono rfl rfl fun next action =>
    .window value pending written rest next action (by rw [← hpending]) (by rw [← hpending]) hheld

theorem writeManifest_cases (self : EncryptedUploadV2Receiver) {index : Nat} {chunk : List UInt8}
    (hlength : self.manifest.length = self.manifestPresent.length)
    (hroom : index + chunk.length ≤ self.manifest.length) :
    ∃ manifest present, manifest.length = self.manifest.length ∧
      present.length = self.manifestPresent.length ∧
      ((∃ error, self.writeManifest index chunk =
          ({ self with manifest, manifestPresent := present }, .err error)) ∨
        self.writeManifest index chunk =
          ({ self with manifest, manifestPresent := present }, .ok ())) := by
  induction chunk generalizing self index with
  | nil => exact ⟨self.manifest, self.manifestPresent, rfl, rfl, .inr rfl⟩
  | cons byte chunk ih =>
    rw [List.length_cons] at hroom
    rw [writeManifest, List.getElem?_eq_getElem (by omega), List.getElem?_eq_getElem (by omega)]
    dsimp only
    split
    · exact ⟨self.manifest, self.manifestPresent, rfl, rfl, .inl ⟨_, rfl⟩⟩
    · obtain ⟨manifest, present, hmanifest, hpresent, hresult⟩ :=
        ih { self with
          manifest := self.manifest.set index byte
          manifestPresent := self.manifestPresent.set index true }
          (by simpa using hlength)
          (show index + 1 + chunk.length ≤ (self.manifest.set index byte).length by
            rw [List.length_set]
            omega)
      rw [List.length_set] at hmanifest hpresent
      exact ⟨manifest, present, hmanifest, hpresent, hresult⟩

theorem receiveManifest_answers (h : Sound self) (value : ManifestChunkV2) :
    Answered self (FrameStep sha256 self (.manifestChunk value)) (self.receiveManifest value) := by
  unfold receiveManifest
  split
  · exact .failed _ _ rfl rfl
  next hvalue =>
  simp only [not_or, not_not, not_lt] at hvalue
  obtain ⟨hpending, hpackets, hcomplete, -, -, hroom, -⟩ := hvalue
  obtain ⟨manifest, present, hmanifest, hpresent, ⟨error, hresult⟩ | hresult⟩ :=
    writeManifest_cases self (h.manifest.1.trans h.manifest.2.symm) hroom
  · rw [hresult]
    exact .failed _ _ rfl rfl
  · rw [hresult]
    exact .ok _ _ (.manifest value manifest present (Option.not_isSome_iff_eq_none.mp hpending)
      hpackets hcomplete hmanifest hpresent)

theorem fieldOf_eq_some {n offset : Nat} {bytes : List UInt8} (h : offset + n ≤ bytes.length) :
    ∃ field, fieldOf n bytes offset = some field := by
  have hlength : ((bytes.drop offset).take n).length = n := by
    rw [List.length_take, List.length_drop]
    omega
  exact ⟨_, dif_pos hlength⟩

/-- A push leaves a formed slot behind, unless it fails. -/
inductive Pushed (slot : MarkerSlot) : MarkerSlot × Outcome Bool → Prop
  | failed (next : MarkerSlot) (error : DeviceSdkError) : Pushed slot (next, .err error)
  | fragment (next : MarkerSlot) : next.index = slot.index → SlotFormed next →
      Pushed slot (next, .ok false)
  | complete (next : MarkerSlot) (document : List UInt8) : next.index = slot.index →
      SlotFormed next → next.document = some document → 200 ≤ document.length →
      Pushed slot (next, .ok true)

/-- The slot of an assembler that has taken a fragment. -/
theorem pushed_of_held {slot next : MarkerSlot} {assembler : MarkerDocumentAssembler}
    (hindex : next.index = slot.index) (hlength : 200 ≤ next.length.toNat)
    (hassembler : next.assembler = some assembler) (hheld : AssemblerHeld next assembler) :
    Pushed slot (next, .ok assembler.complete) := by
  have hformed : SlotFormed next :=
    ⟨hlength, fun hnone => (nomatch hnone.symm.trans hassembler), fun assembler' hsome => by
      obtain rfl : assembler = assembler' := Option.some.inj (hassembler.symm.trans hsome)
      exact hheld⟩
  cases hcomplete : assembler.complete with
  | false => exact .fragment next hindex hformed
  | true =>
    have hdocument : next.document = some assembler.bytes := by
      rw [MarkerSlot.document, hassembler, Option.bind_some, MarkerDocumentAssembler.document,
        if_pos ⟨hcomplete, by rw [hheld.formed.failed]; rfl⟩]
    refine .complete next assembler.bytes hindex hformed hdocument ?_
    rw [hheld.formed.complete.mp hcomplete, hheld.expected]
    exact hlength

theorem formed_of_new {session : UInt64} {transferId : Nat} {kind : UInt16}
    {length frame : UInt32} {requestUuid : FixedBytes 16} {contextDigest : FixedBytes 32}
    {assembler : MarkerDocumentAssembler} (hpositive : 0 < length.toNat)
    (h : MarkerDocumentAssembler.new session transferId kind length frame requestUuid
      contextDigest = .ok assembler) :
    AssemblerFormed assembler ∧ assembler.expectedLength = length.toNat := by
  obtain rfl := MarkerDocumentAssembler.new_eq_ok h
  exact ⟨⟨rfl, Nat.zero_le _, fun hcomplete => absurd hcomplete Bool.false_ne_true,
    fun hlength => absurd hlength hpositive.ne⟩, rfl⟩

/-- What a push that succeeded makes of an assembler. -/
theorem formed_of_push {assembler next : MarkerDocumentAssembler} {complete : Bool}
    {session : UInt64} {transferId offset : Nat} {fragment : List UInt8}
    (hformed : AssemblerFormed assembler)
    (hpush : assembler.push session transferId offset fragment = (next, .ok complete)) :
    AssemblerFormed next ∧ next.complete = complete ∧
      next.expectedLength = assembler.expectedLength ∧
      assembler.bytes.length ≤ next.bytes.length ∧ fragment.length ≤ next.bytes.length := by
  have hstep := assembler.push_cases session transferId offset fragment
  rw [hpush] at hstep
  cases hstep with
  | replayed _ hroom _ => exact ⟨hformed, rfl, rfl, Nat.le_refl _, by omega⟩
  | appended _ hcomplete hoffset hroom =>
    have hlength : (assembler.bytes ++ fragment).length < assembler.expectedLength := by
      rw [List.length_append, ← hoffset]
      exact hroom
    exact ⟨⟨hformed.failed, hlength.le,
      fun h => (nomatch hcomplete.symm.trans h), fun h => absurd h hlength.ne⟩, rfl, rfl,
      by simp, by simp⟩
  | completed _ _ hoffset hfull _ =>
    have hlength : (assembler.bytes ++ fragment).length = assembler.expectedLength := by
      rw [List.length_append, ← hoffset]
      exact hfull
    exact ⟨⟨hformed.failed, hlength.le, fun _ => hlength, fun _ => rfl⟩, rfl, rfl,
      by simp, by simp⟩

theorem MarkerSlot.push_cases {slot : MarkerSlot} (hformed : SlotFormed slot)
    (hbound : slot.index < 4097) (session : UInt64) (value : MarkerChunkV2) :
    Pushed slot (slot.push session value) := by
  have hindex : ¬2 ^ 32 ≤ slot.index + 1 := by omega
  -- an assembler takes the chunk, or the header is completed to make one
  unfold MarkerSlot.push
  split
  · next assembler hassembler =>
    have hheld := hformed.assembling assembler hassembler
    rw [if_neg hindex]
    split
    · next pushed complete hpush =>
      obtain ⟨hnext, rfl, hexpected, hgrows, -⟩ := formed_of_push hheld.formed hpush
      exact pushed_of_held rfl hformed.length rfl
        ⟨hnext, hheld.header, hexpected.trans hheld.expected, Nat.le_trans hheld.started hgrows⟩
    · exact .failed _ _
  · next hassembler =>
    dsimp only
    split
    · split
      · exact .failed _ _
      · exact .fragment slot rfl hformed
    split
    · exact .failed _ _
    split
    · next hshort =>
      exact .fragment _ rfl ⟨hformed.length, fun _ => hshort, fun assembler hsome =>
        (nomatch hassembler.symm.trans hsome)⟩
    next hlong =>
    rw [Nat.not_lt] at hlong
    obtain ⟨requestUuid, hrequest⟩ : ∃ field, fieldOf 16 (slot.header ++ value.chunk)
        RECORDING_MARKER_HEADER_REQUEST_UUID_OFFSET = some field :=
      fieldOf_eq_some (Nat.le_trans (by decide) hlong)
    obtain ⟨contextDigest, hcontext⟩ : ∃ field, fieldOf 32 (slot.header ++ value.chunk)
        RECORDING_MARKER_HEADER_CONTEXT_DIGEST_OFFSET = some field :=
      fieldOf_eq_some (Nat.le_trans (by decide) hlong)
    rw [hrequest, hcontext]
    dsimp only
    split
    · exact .failed _ _
    next assembler hnew =>
    split
    · exact .failed _ _
    next pushed complete hpush =>
    have hpositive : 0 < slot.length.toUInt32.toNat := by
      have hlength := hformed.length
      rw [UInt16.toNat_toUInt32]
      omega
    obtain ⟨hfresh, hexpected⟩ := formed_of_new hpositive hnew
    obtain ⟨hnext, rfl, hkept, -, hwhole⟩ := formed_of_push hfresh hpush
    exact pushed_of_held rfl hformed.length rfl
      ⟨hnext, rfl, (hkept.trans hexpected).trans (UInt16.toNat_toUInt32 _),
        Nat.le_trans hlong hwhole⟩

theorem receiveMarker_answers (h : Sound self) (value : MarkerChunkV2) :
    Answered self (FrameStep sha256 self (.markerChunk value)) (self.receiveMarker sha256 value) := by
  unfold receiveMarker
  split
  · exact .failed _ _ rfl rfl
  next hvalue =>
  have hadmitted := hvalue
  simp only [markerRejected, not_or, not_not, not_lt] at hadmitted
  obtain ⟨-, -, -, -, -, -, hcount, hindex, hbelow, -, hlength, -, -⟩ := hadmitted
  have hbelow : value.documentIndex.toNat < 4097 := by
    have hlt := UInt32.lt_iff_toNat_lt.mp (UInt32.not_le.mp hbelow)
    have hle : value.documentCount.toNat ≤ 4097 := UInt32.le_iff_toNat_le.mp hcount.2
    omega
  dsimp only
  split
  · exact .failed _ _ rfl rfl
  -- the slot is the one that is being filled, or a new one for this chunk
  have hslot : SlotHeld self.markerDocumentsPersisted (self.slotFor value) := by
    unfold slotFor
    cases hslot : self.markerSlot with
    | some slot => exact h.slot slot hslot
    | none =>
      exact ⟨hindex, hbelow, UInt16.le_iff_toNat_le.mp hlength.1, fun _ => by
        rw [Option.getD_none, RECORDING_MARKER_HEADER_LENGTH]
        exact Nat.zero_lt_succ _, fun _ hsome => (nomatch hsome)⟩
  have hpushed := MarkerSlot.push_cases hslot.formed hslot.bound self.config.transportSessionId value
  cases hresult : (self.slotFor value).push self.config.transportSessionId value with
  | mk slot pushed =>
  rw [hresult] at hpushed
  cases hpushed with
  | failed _ error => exact .failed _ _ rfl rfl
  | fragment _ hsame hformed =>
    exact .ok _ _ (.markerFragment value slot hvalue hresult
      ⟨hsame.trans hslot.index, hsame ▸ hslot.bound, hformed⟩)
  | complete _ document hsame hformed hdocument hroom =>
    dsimp only
    rw [hdocument]
    dsimp only
    unfold persistMarker
    split
    · exact .failed _ _ rfl rfl
    next hhash =>
    obtain ⟨contextDigest, hcontext⟩ : ∃ field, fieldOf 32 document
        RECORDING_MARKER_HEADER_CONTEXT_DIGEST_OFFSET = some field :=
      fieldOf_eq_some (Nat.le_trans (by decide) hroom)
    rw [hcontext]
    dsimp only
    split
    · exact .failed _ _ rfl rfl
    · exact request_answers rfl rfl (.markerDocument value slot document contextDigest hvalue hresult
        ⟨hsame.trans hslot.index, hsame ▸ hslot.bound, hformed⟩ hdocument
        (not_not.mp (mt equalHash_eq_false_iff.mpr hhash)))

theorem receiveEof_answers (value : EofV2) :
    Answered self (FrameStep sha256 self (.eof value)) (self.receiveEof sha256 value) := by
  unfold receiveEof
  split
  · exact .failed _ _ rfl rfl
  · next hvalue => exact request_answers rfl rfl (.eof value hvalue)

theorem receiveFrame_answers (h : Sound self) (hbuffered : Buffered self)
    (hidle : Idle self) (frame : EncryptedUploadV2Transfer) :
    Answered self (FrameStep sha256 self frame) (self.receiveFrame sha256 frame) := by
  unfold receiveFrame
  cases hcommon : commonOf frame with
  | none => exact .failed _ _ rfl rfl
  | some common =>
    dsimp only
    split
    · exact .failed _ _ rfl rfl
    cases frame with
    | data common sequence offset data =>
      exact receiveData_answers h hbuffered common sequence offset data
    | windowEnd value => exact receiveWindow_answers h hidle value
    | manifestChunk value => exact receiveManifest_answers h value
    | markerChunk value => exact receiveMarker_answers h value
    | eof value => exact receiveEof_answers value
    | error _ result _ _ => exact .failed _ _ rfl rfl
    | _ => exact nomatch hcommon

/-! ### Answers of the port -/

/-- The request is taken before its answer is looked at. -/
theorem Owned.taken {purpose : IoPurpose} (h : Owned sha256 self purpose) :
    Owned sha256 { self with io := none } purpose := by
  cases purpose with
  | initialProof => exact h
  | initialTruncate => exact h
  | windowAppend nextOffset =>
    obtain ⟨pending, written, batch, rest, hpending, hheld, hbatch, hnext⟩ := h
    exact ⟨pending, written, batch, rest, hpending, hheld.transfer rfl rfl rfl rfl rfl, hbatch,
      hnext⟩
  | windowProof =>
    obtain ⟨pending, written, hpending, hheld⟩ := h
    exact ⟨pending, written, hpending, hheld.transfer rfl rfl rfl rfl rfl⟩
  | windowPersist =>
    obtain ⟨pending, written, hpending, hheld, hclean⟩ := h
    exact ⟨pending, written, hpending, hheld.transfer rfl rfl rfl rfl rfl, hclean⟩
  | markerPersist => exact h
  | finalProof eof => exact h

theorem initialProved_answers (requestId byteLength : Nat) (prefixSha256 : FixedBytes 32) :
    Answered self (EventStep sha256 self .initialProof (.sinkProof requestId byteLength prefixSha256))
      (self.initialProved byteLength prefixSha256) := by
  unfold initialProved
  dsimp only
  split
  · exact .failed _ _ rfl rfl
  next hproof =>
  simp only [not_or, not_lt, equalHash_eq_false_iff, not_not] at hproof
  obtain ⟨hlength, rfl⟩ := hproof
  split
  · next hlonger => exact request_answers rfl rfl (.untruncated requestId byteLength hlonger)
  · next hshorter =>
    obtain rfl : byteLength = self.checkpoint.nextCiphertextOffset.toNat :=
      Nat.le_antisymm (Nat.not_lt.mp hshorter) hlength
    exact .ok _ _ (.proved requestId)

/-- A batch that was appended is staged. -/
theorem WindowHeld.stage {pending : PendingWindow} {written batch rest : List Packet}
    (h : WindowHeld self pending written (batch ++ rest)) :
    WindowHeld { self with stagedOffset := self.stagedOffset + (content batch).length } pending
      (written ++ batch) rest where
  first := h.first
  last := h.last
  revision := h.revision
  next := h.next
  length := h.length
  chain := by
    rw [List.append_assoc]
    exact h.chain
  highest := by
    rw [List.append_assoc]
    exact h.highest
  room := h.room
  contiguous := by
    rw [List.append_assoc]
    exact h.contiguous
  staged := by
    rw [content_append, List.length_append, ← Nat.add_assoc, ← h.staged]
  inside := h.inside
  asked := h.asked
  missing := h.missing
  clean := h.clean

theorem windowAppended_answers {pending : PendingWindow} {written batch rest : List Packet}
    (hpending : self.pendingWindow = some pending)
    (hheld : WindowHeld self pending written (batch ++ rest))
    (hpacket : ∀ sequence packet, self.packets.lookup sequence = some packet →
      packet.bytes ≠ [] ∧ packet.bytes.length ≤ MAXIMUM_APPEND_BYTES) (requestId : Nat) :
    Answered self
      (EventStep sha256 self (.windowAppend (self.stagedOffset + (content batch).length))
        (.applied requestId))
      { self with
        stagedOffset := self.stagedOffset + (content batch).length }.advanceWindowIo := by
  have hsame : { self with
      stagedOffset := self.stagedOffset + (content batch).length }.pendingWindow = some pending :=
    hpending
  exact (advanceWindowIo_answers hsame hheld.stage hpacket).mono rfl rfl fun next action =>
    .appended requestId pending written batch rest next action hpending hheld

theorem windowProved_answers {pending : PendingWindow} {written : List Packet}
    (hpending : self.pendingWindow = some pending) (hheld : WindowHeld self pending written [])
    (requestId byteLength : Nat) (prefixSha256 : FixedBytes 32) :
    Answered self (EventStep sha256 self .windowProof (.sinkProof requestId byteLength prefixSha256))
      (self.windowProved byteLength prefixSha256) := by
  unfold windowProved
  rw [hpending]
  dsimp only
  split
  · exact .failed _ _ rfl rfl
  next hproof =>
  simp only [not_or, not_not] at hproof
  obtain ⟨rfl, -⟩ := hproof
  split
  · next hmissing =>
    rcases ack_cases self pending.boundary (.ofNat pending.highest)
      (.ofNat pending.contiguousOffset) prefixSha256 self.checkpoint.revision
      (pending.missing.map .ofNat) with ⟨frame, hack⟩ | ⟨error, hack⟩
    · rw [hack]
      exact .ok _ _ (.repair requestId prefixSha256 pending written frame hpending hheld hmissing)
    · rw [hack]
      exact .failed _ _ rfl rfl
  next hmissing =>
  split
  · exact .failed _ _ rfl rfl
  next hhash =>
  obtain rfl := not_not.mp (mt equalHash_eq_false_iff.mpr hhash)
  exact request_answers rfl rfl
    (.clean requestId pending written hpending hheld (not_not.mp hmissing))

theorem windowPersisted_answers {pending : PendingWindow} {written : List Packet}
    (hpending : self.pendingWindow = some pending) (hheld : WindowHeld self pending written [])
    (hclean : pending.missing = []) (requestId : Nat) :
    Answered self (EventStep sha256 self .windowPersist (.applied requestId))
      (self.windowPersisted sha256) := by
  unfold windowPersisted
  rw [hpending]
  dsimp only
  rcases ack_cases self pending.boundary pending.boundary.lastSequence
    (candidateCheckpoint pending.boundary).nextCiphertextOffset
    (candidateCheckpoint pending.boundary).prefixSha256
    (candidateCheckpoint pending.boundary).revision [] with ⟨frame, hack⟩ | ⟨error, hack⟩
  · rw [hack]
    exact .ok _ _ (.persisted requestId pending written frame hpending hheld hclean)
  · rw [hack]
    exact .failed _ _ rfl rfl

theorem markerPersisted_answers {slot : MarkerSlot} {document : List UInt8}
    (hslot : self.markerSlot = some slot) (hheld : SlotHeld self.markerDocumentsPersisted slot)
    (hdocument : slot.document = some document) (requestId : Nat) :
    Answered self (EventStep sha256 self .markerPersist (.applied requestId))
      self.markerPersisted := by
  have hbound : ¬2 ^ 32 ≤ self.markerDocumentsPersisted + 1 := by
    have hindex := hheld.index
    have hbelow := hheld.bound
    omega
  unfold markerPersisted
  rw [hslot]
  dsimp only
  rw [hdocument]
  dsimp only
  rw [if_neg hbound]
  exact .ok _ _ (.markerPersisted requestId slot document hslot hdocument)

theorem finalProved_answers (eof : EofV2) (requestId byteLength : Nat)
    (prefixSha256 : FixedBytes 32) :
    Answered self
      (EventStep sha256 self (.finalProof eof) (.sinkProof requestId byteLength prefixSha256))
      (self.finalProved sha256 eof byteLength prefixSha256) := by
  unfold finalProved
  split
  · exact .failed _ _ rfl rfl
  next hproof =>
  simp only [not_or, not_not, equalHash_eq_false_iff] at hproof
  obtain ⟨rfl, rfl⟩ := hproof
  exact .ok _ _ (.completed requestId eof _ rfl)

theorem applyInner_answers {purpose : IoPurpose} (howned : Owned sha256 self purpose)
    (hpacket : ∀ sequence packet, self.packets.lookup sequence = some packet →
      packet.bytes ≠ [] ∧ packet.bytes.length ≤ MAXIMUM_APPEND_BYTES)
    (hslot : ∀ slot, self.markerSlot = some slot → SlotHeld self.markerDocumentsPersisted slot)
    (event : EncryptedUploadV2ReceiverEvent) :
    Answered self (EventStep sha256 self purpose event)
      (self.applyInner sha256 purpose event) := by
  cases event with
  | failed requestId error =>
    cases purpose <;> exact .failed _ _ rfl rfl
  | sinkProof requestId byteLength prefixSha256 =>
    cases purpose with
    | initialProof => exact initialProved_answers requestId byteLength prefixSha256
    | windowProof =>
      obtain ⟨pending, written, hpending, hheld⟩ := howned
      exact windowProved_answers hpending hheld requestId byteLength prefixSha256
    | finalProof eof => exact finalProved_answers eof requestId byteLength prefixSha256
    | _ => exact .failed _ _ rfl rfl
  | applied requestId =>
    cases purpose with
    | initialTruncate => exact .ok _ _ (.truncated requestId)
    | windowAppend nextOffset =>
      obtain ⟨pending, written, batch, rest, hpending, hheld, -, rfl⟩ := howned
      exact windowAppended_answers hpending hheld hpacket requestId
    | windowPersist =>
      obtain ⟨pending, written, hpending, hheld, hclean⟩ := howned
      exact windowPersisted_answers hpending hheld hclean requestId
    | markerPersist =>
      obtain ⟨-, slot, document, hsome, hdocument⟩ := howned
      exact markerPersisted_answers hsome (hslot slot hsome) hdocument requestId
    | _ => exact .failed _ _ rfl rfl

/-! ### Calls -/

theorem requireActive_of_running (hkept : Kept sha256 self) (hrunning : self.terminal = false) :
    self.requireActive = .ok () := by
  have hcancelled : ¬self.cancelled = true := fun h =>
    Bool.false_ne_true (hrunning.symm.trans (hkept.cancelled h))
  rw [requireActive, if_neg hcancelled, if_neg (by rw [hrunning]; exact Bool.false_ne_true)]

theorem requireActive_of_terminal (hterminal : self.terminal = true) :
    ∃ error, self.requireActive = .error error := by
  unfold requireActive
  by_cases hcancelled : self.cancelled = true
  · exact ⟨_, if_pos hcancelled⟩
  · rw [if_neg hcancelled]
    exact ⟨_, if_pos hterminal⟩

/-- How `finish_result` turns an answer into a step. -/
theorem Answered.finish {good : EncryptedUploadV2Receiver → EncryptedUploadV2ReceiverAction → Prop}
    {result : EncryptedUploadV2Receiver × Reply} (h : Answered self good result) (input : Call)
    (hadmitted : ¬Refused self input)
    (hstep : ∀ next action, good next action → CallStep sha256 self input next (.ok action)) :
    CallStep sha256 self input (finishResult result).1 (finishResult result).2 := by
  cases h with
  | failed next error hpackets hbytes => exact .failed input _ error hadmitted rfl rfl hpackets hbytes
  | ok next action hgood => exact hstep next action hgood

theorem call_refused (hterminal : self.terminal = true) {input : Call} (hcancel : input ≠ .cancel) :
    CallStep sha256 self input (call sha256 self input).1 (call sha256 self input).2 := by
  obtain ⟨error, herror⟩ := requireActive_of_terminal hterminal
  cases input with
  | start =>
    rw [call, start, herror]
    exact .refused _ error (.inl hterminal)
  | cancel => exact absurd rfl hcancel
  | receive bytes =>
    rw [call, receive, herror]
    exact .refused _ error (.inl hterminal)
  | apply event =>
    rw [call, apply, herror]
    exact .refused _ error (.inl hterminal)

theorem start_cases (hkept : Kept sha256 self) (hrunning : self.terminal = false) :
    CallStep sha256 self .start self.start.1 self.start.2 := by
  rw [start, requireActive_of_running hkept hrunning]
  dsimp only
  split
  · next hstarted => exact .refused _ _ (.inr hstarted)
  next hstarted =>
  have hstarted : self.started = false := by simpa using hstarted
  have hfirst := ((hkept.running hrunning).unstarted hstarted).1
  have hroom : ¬2 ^ 64 ≤ self.nextRequestId + 1 := by
    rw [hfirst]
    decide
  rw [request, if_neg hroom]
  exact .started hrunning hstarted

theorem receive_cases (hkept : Kept sha256 self) (hrunning : self.terminal = false)
    (bytes : List UInt8) :
    CallStep sha256 self (.receive bytes) (self.receive sha256 bytes).1
      (self.receive sha256 bytes).2 := by
  rw [receive, requireActive_of_running hkept hrunning]
  dsimp only
  split
  · next hpending => exact .refused _ _ (.inr (.inl hpending))
  next hidle =>
  split
  · next hprepared => exact .refused _ _ (.inr (.inr (by simpa using hprepared)))
  next hprepared =>
  have hprepared : self.prepared = true := by simpa using hprepared
  have hio : self.io = none := Option.not_isSome_iff_eq_none.mp hidle
  have hadmitted : ¬Refused self (.receive bytes) := by
    rw [Refused, hrunning, hprepared]
    simpa using hio
  unfold receiveInner
  cases hdecode : TransferV2.decodeEncryptedUploadV2Transfer bytes with
  | error error => exact .failed _ _ error hadmitted rfl rfl rfl rfl
  | ok frame =>
    have hkeeping := hkept.running hrunning
    exact (receiveFrame_answers hkeeping.sound hkept.buffered (hkeeping.idle hio) frame).finish _
      hadmitted fun next action => .received bytes frame next action hrunning hio hprepared hdecode

theorem apply_cases (hkept : Kept sha256 self) (hrunning : self.terminal = false)
    (event : EncryptedUploadV2ReceiverEvent) :
    CallStep sha256 self (.apply event) (self.apply sha256 event).1 (self.apply sha256 event).2 := by
  rw [apply, requireActive_of_running hkept hrunning]
  dsimp only
  cases hio : self.io with
  | none =>
    exact .refused _ _ (.inr (by rw [hio]; exact nofun))
  | some io =>
    dsimp only
    split
    · next hother =>
      refine .refused _ _ (.inr ?_)
      rw [hio, Option.map_some]
      exact fun h => hother (Option.some.inj h)
    next hsame =>
    have hsame : io.requestId = event.requestId := not_not.mp hsame
    have hadmitted : ¬Refused self (.apply event) := by
      rw [Refused, hrunning, hio, Option.map_some, hsame]
      simp
    have hkeeping := hkept.running hrunning
    have hanswers : Answered { self with io := none }
        (EventStep sha256 { self with io := none } io.purpose event)
        ({ self with io := none }.applyInner sha256 io.purpose event) :=
      applyInner_answers (hkeeping.owned io hio).taken
        (fun sequence packet => small_packets hkeeping.sound sequence packet) hkeeping.sound.slot
        event
    have hanswers : Answered self (EventStep sha256 { self with io := none } io.purpose event)
        ({ self with io := none }.applyInner sha256 io.purpose event) :=
      hanswers.mono rfl rfl fun _ _ hstep => hstep
    refine hanswers.finish _ hadmitted fun next action hstep => ?_
    refine .answered event io.purpose next action hrunning ?_ hstep
    rw [hio, ← hsame]

/-- No call panics, and every call is a step. -/
theorem call_cases (hkept : Kept sha256 self) (input : Call) :
    CallStep sha256 self input (call sha256 self input).1 (call sha256 self input).2 := by
  cases hrunning : self.terminal with
  | true =>
    by_cases hcancel : input = .cancel
    · obtain rfl := hcancel
      exact .cancelled
    · exact call_refused hrunning hcancel
  | false =>
    cases input with
    | start => exact start_cases hkept hrunning
    | cancel => exact .cancelled
    | receive bytes => exact receive_cases hkept hrunning bytes
    | apply event => exact apply_cases hkept hrunning event

end Answers

end BotaSdk.EncryptedUploadV2Receiver
