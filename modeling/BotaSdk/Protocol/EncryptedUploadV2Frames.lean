import BotaSdk.Protocol.EncryptedUploadV2
import BotaSdk.Lib.Checked

/-!
# Frames of encrypted upload v2

What a transfer message looks like on the wire, as a list of fields, and which messages the codec
accepts. A successful read says what one field of the buffer holds, and a successful check says
what the message satisfies.
-/

namespace BotaSdk.TransferV2

open Bytes Checked Layout Protocol

/-! ## Frames -/

def headerFields (common : CommonHeaderV2) : List (List UInt8) :=
  [[common.messageType], [ENCRYPTED_UPLOAD_V2_TRANSFER_PROFILE_VERSION],
    leBytes 2 common.flags.toNat, leBytes 8 common.transportSessionId.toNat]

def resumeFields (value : ResumeV2) : List (List UInt8) :=
  headerFields value.common ++
    [value.uploadSessionUuid.1, value.recordingUuid.1, leBytes 4 value.recordingGeneration.toNat,
      leBytes 4 value.checkpointRevision.toNat, leBytes 8 value.nextCiphertextOffset.toNat,
      value.prefixSha256.1, leBytes 2 value.windowPackets.toNat,
      leBytes 2 value.dataPayloadBytes.toNat]

/-- The fields of a message's frame in order, reserved bytes included. -/
def frameFields : EncryptedUploadV2Transfer → List (List UInt8)
  | .list common => headerFields common ++ [leBytes 4 0]
  | .markedList common => headerFields common ++ [leBytes 4 1]
  | .recordingEntry value => headerFields value.common ++
      [value.recordingUuid.1, leBytes 4 value.recordingGeneration.toNat, [value.storageFormat],
        [value.completionState], [0, 0], leBytes 8 value.startedAt.toNat,
        leBytes 4 value.durationSeconds.toNat, leBytes 8 value.plaintextLength.toNat,
        leBytes 8 value.ciphertextLength.toNat, value.ciphertextSha256.1]
  | .recordingListEnd common count listRevision listSha256 => headerFields common ++
      [leBytes 4 count.toNat, leBytes 4 listRevision.toNat, listSha256.1]
  | .start value => headerFields value.common ++
      [value.uploadSessionUuid.1, value.recordingUuid.1, leBytes 4 value.recordingGeneration.toNat,
        value.authorizationSha256.1, leBytes 4 value.checkpointRevision.toNat,
        leBytes 8 value.nextCiphertextOffset.toNat, value.prefixSha256.1,
        leBytes 2 value.windowPackets.toNat, leBytes 2 value.dataPayloadBytes.toNat]
  | .startAck value => headerFields value.common ++
      [value.uploadSessionUuid.1, value.recordingUuid.1, leBytes 4 value.recordingGeneration.toNat,
        leBytes 8 value.ciphertextLength.toNat, value.ciphertextSha256.1,
        leBytes 2 value.windowPackets.toNat, leBytes 2 value.dataPayloadBytes.toNat,
        leBytes 4 value.checkpointIntervalBlocks.toNat, leBytes 4 value.checkpointRevision.toNat,
        leBytes 8 value.nextCiphertextOffset.toNat, value.prefixSha256.1]
  | .data common sequence offset data => headerFields common ++
      [leBytes 4 sequence.toNat, leBytes 8 offset.toNat, leBytes 2 data.length, [0, 0], data]
  | .windowEnd value => headerFields value.common ++
      [leBytes 4 value.windowIndex.toNat, leBytes 4 value.firstSequence.toNat,
        leBytes 4 value.lastSequence.toNat, leBytes 8 value.nextCiphertextOffset.toNat,
        value.prefixSha256.1, leBytes 4 value.checkpointRevision.toNat]
  | .windowAck value => headerFields value.common ++
      [leBytes 4 value.windowIndex.toNat, leBytes 4 value.highestContiguousSequence.toNat,
        leBytes 8 value.nextCiphertextOffset.toNat, value.prefixSha256.1,
        leBytes 4 value.checkpointRevision.toNat, leBytes 2 value.missingSequences.length,
        [0, 0]] ++ value.missingSequences.map fun sequence => leBytes 4 sequence.toNat
  | .manifestChunk value => headerFields value.common ++
      [leBytes 2 value.totalManifestLength.toNat, leBytes 2 value.chunkOffset.toNat,
        leBytes 2 value.chunk.length, [0, 0], value.manifestSha256.1, value.chunk]
  | .markerChunk value => headerFields value.common ++
      [leBytes 4 value.documentIndex.toNat, leBytes 4 value.documentCount.toNat,
        leBytes 2 value.chunkOffset.toNat, leBytes 2 value.documentLength.toNat,
        leBytes 2 value.chunk.length, [0, 0], value.documentSha256.1, value.chunk]
  | .eof value => headerFields value.common ++
      [leBytes 4 value.finalSequence.toNat, leBytes 4 value.blockCount.toNat,
        leBytes 8 value.ciphertextLength.toNat, value.ciphertextSha256.1, value.manifestSha256.1]
  | .resumeRequest value => resumeFields value
  | .resumeAccept value => resumeFields value
  | .resumeReject value => headerFields value.common ++
      [leBytes 2 value.reason.toNat, [0, 0], leBytes 4 value.checkpointRevision.toNat,
        leBytes 8 value.nextCiphertextOffset.toNat, value.prefixSha256.1]
  | .confirm value => headerFields value.common ++
      [value.uploadSessionUuid.1, value.recordingUuid.1, leBytes 4 value.recordingGeneration.toNat,
        leBytes 4 value.ownerRevision.toNat, value.receiptSha256.1]
  | .abort common reason => headerFields common ++ [leBytes 2 reason.toNat, [0, 0]]
  | .error common result failedMessageType checkpointRevision => headerFields common ++
      [leBytes 2 result.toNat, [failedMessageType], [0], leBytes 4 checkpointRevision.toNat]

def frame (message : EncryptedUploadV2Transfer) : List UInt8 :=
  (frameFields message).flatten

/-! ## Accepted messages -/

structure HeaderAccepted (common : CommonHeaderV2) (code : UInt8) : Prop where
  messageType : common.messageType = code
  flags : common.flags = 0
  session : common.transportSessionId ≠ 0

structure MarkerAccepted (value : MarkerChunkV2) : Prop where
  header : HeaderAccepted value.common ENCRYPTED_UPLOAD_V2_MARKER_CHUNK
  count : 2 ≤ value.documentCount ∧ value.documentCount ≤ 4097
  index : value.documentIndex < value.documentCount
  length : 200 ≤ value.documentLength ∧ value.documentLength ≤ 402
  chunk : value.chunk ≠ []
  range : value.chunkOffset.toNat + value.chunk.length ≤ value.documentLength.toNat

structure ManifestAccepted (value : ManifestChunkV2) : Prop where
  header : HeaderAccepted value.common ENCRYPTED_UPLOAD_V2_MANIFEST_CHUNK
  total : value.totalManifestLength.toNat = UPLOAD_MANIFEST_V2_FIXED_LENGTH
  chunk : value.chunk ≠ []
  range : value.chunkOffset.toNat + value.chunk.length ≤ value.totalManifestLength.toNat
  frame : 52 + value.chunk.length ≤ MAX_MTU

/-- The messages that the codec accepts. -/
def Accepted : EncryptedUploadV2Transfer → Prop
  | .list common | .markedList common => HeaderAccepted common ENCRYPTED_UPLOAD_V2_LIST
  | .recordingEntry value =>
      HeaderAccepted value.common ENCRYPTED_UPLOAD_V2_RECORDING_ENTRY ∧
        value.storageFormat.toNat = STORAGE_FORMAT_BOTA_ENC_V2 ∧
        (value.completionState = 1 ∨ value.completionState = 2)
  | .recordingListEnd common _ _ _ =>
      HeaderAccepted common ENCRYPTED_UPLOAD_V2_RECORDING_LIST_END
  | .start value => HeaderAccepted value.common ENCRYPTED_UPLOAD_V2_START ∧
      value.windowPackets ≠ 0 ∧ value.dataPayloadBytes ≠ 0
  | .startAck value => HeaderAccepted value.common ENCRYPTED_UPLOAD_V2_START_ACK ∧
      (value.windowPackets ≠ 0 ∧ value.dataPayloadBytes ≠ 0) ∧ value.checkpointIntervalBlocks ≠ 0
  | .data common _ offset data => HeaderAccepted common ENCRYPTED_UPLOAD_V2_DATA ∧
      data ≠ [] ∧ 28 + data.length ≤ MAX_MTU ∧ offset.toNat + data.length < 2 ^ 64
  | .windowEnd value => HeaderAccepted value.common ENCRYPTED_UPLOAD_V2_WINDOW_END ∧
      value.firstSequence ≤ value.lastSequence
  | .windowAck value => HeaderAccepted value.common ENCRYPTED_UPLOAD_V2_WINDOW_ACK ∧
      68 + value.missingSequences.length * 4 ≤ MAX_MTU
  | .manifestChunk value => ManifestAccepted value
  | .markerChunk value => MarkerAccepted value
  | .eof value => HeaderAccepted value.common ENCRYPTED_UPLOAD_V2_EOF
  | .resumeRequest value => HeaderAccepted value.common ENCRYPTED_UPLOAD_V2_RESUME_REQUEST ∧
      value.windowPackets ≠ 0 ∧ value.dataPayloadBytes ≠ 0
  | .resumeAccept value => HeaderAccepted value.common ENCRYPTED_UPLOAD_V2_RESUME_ACCEPT ∧
      value.windowPackets ≠ 0 ∧ value.dataPayloadBytes ≠ 0
  | .resumeReject value => HeaderAccepted value.common ENCRYPTED_UPLOAD_V2_RESUME_REJECT
  | .confirm value => HeaderAccepted value.common ENCRYPTED_UPLOAD_V2_CONFIRM
  | .abort common _ => HeaderAccepted common ENCRYPTED_UPLOAD_V2_ABORT
  | .error common _ _ _ => HeaderAccepted common ENCRYPTED_UPLOAD_V2_ERROR

/-! ## Reads -/

section Read

variable {bytes : List UInt8} {offset n : Nat}

@[simp] theorem length_fixed (value : FixedBytes n) : value.1.length = n := value.2

theorem room_of_length_field {seg : List UInt8} (h : field bytes offset n = seg)
    (hlength : seg.length = n) (hpos : 0 < n) : offset + n ≤ bytes.length := by
  have := congrArg List.length h
  rw [field, List.length_take, List.length_drop] at this
  omega

theorem slice_eq_ok {seg : List UInt8} (hpos : 0 < n) :
    Cursor.slice bytes offset n = .ok seg ↔ field bytes offset n = seg ∧ seg.length = n := by
  constructor
  · intro h
    refine ⟨?_, Cursor.length_of_slice h⟩
    rw [Cursor.slice] at h
    split at h
    · exact Except.ok.inj h
    · cases h
  · rintro ⟨h, hlength⟩
    rw [Cursor.slice_ok (room_of_length_field h hlength hpos), ← h]
    rfl

theorem tail_eq_ok {rest : List UInt8} :
    Cursor.tail bytes offset = .ok rest ↔ offset ≤ bytes.length ∧ bytes.drop offset = rest := by
  rw [Cursor.tail]
  split
  · rename_i h
    exact ⟨fun hok => ⟨h, Except.ok.inj hok⟩, fun hok => hok.2 ▸ rfl⟩
  · rename_i h
    exact ⟨fun hok => (by cases hok), fun hok => absurd hok.1 h⟩

theorem u8_eq_ok {value : UInt8} :
    Cursor.u8 bytes offset = .ok value ↔ field bytes offset 1 = [value] := by
  rw [Cursor.u8, bind_eq_ok]
  constructor
  · rintro ⟨seg, hseg, hvalue⟩
    obtain ⟨rfl, hlength⟩ := (slice_eq_ok Nat.one_pos).mp hseg
    obtain ⟨byte, hbyte⟩ := List.length_eq_one_iff.mp hlength
    rw [hbyte] at hvalue ⊢
    obtain rfl := Except.ok.inj hvalue
    rfl
  · intro h
    exact ⟨[value], (slice_eq_ok Nat.one_pos).mpr ⟨h, rfl⟩, rfl⟩

theorem leBytes_eq_of_leNat {seg : List UInt8} (h : seg.length = n) :
    leBytes n (leNat seg) = seg := by
  rw [← h, leBytes_leNat]

/-- A little-endian read, for the value type whose `toNat` and `ofNat` invert each other below
`256 ^ n`. -/
theorem read_eq_ok {α : Type} {ofNat : Nat → α} {toNat : α → Nat} {value : α} (hpos : 0 < n)
    (hof : ofNat (toNat value) = value) (hlt : toNat value < 256 ^ n)
    (hto : ∀ m < 256 ^ n, toNat (ofNat m) = m) :
    ((Cursor.slice bytes offset n >>= fun seg => pure (leNat seg)).map ofNat) = .ok value ↔
      field bytes offset n = leBytes n (toNat value) := by
  constructor
  · intro h
    cases hseg : Cursor.slice bytes offset n with
    | error e => rw [hseg] at h; exact nomatch h
    | ok seg =>
      rw [hseg] at h
      obtain ⟨hfield, hlength⟩ := (slice_eq_ok hpos).mp hseg
      have hvalue : ofNat (leNat seg) = value := Except.ok.inj h
      rw [← hvalue, hto _ (hlength ▸ leNat_lt seg), leBytes_eq_of_leNat hlength, hfield]
  · intro h
    rw [(slice_eq_ok hpos).mpr ⟨h, length_leBytes n _⟩]
    show Except.ok (ofNat (leNat (leBytes n (toNat value)))) = _
    rw [leNat_leBytes_of_lt hlt, hof]

theorem u16_eq_ok {value : UInt16} :
    u16 bytes offset = .ok value ↔ field bytes offset 2 = leBytes 2 value.toNat :=
  read_eq_ok (by decide) UInt16.ofNat_toNat value.toNat_lt
    fun _ h => UInt16.toNat_ofNat_of_lt h

theorem u32_eq_ok {value : UInt32} :
    u32 bytes offset = .ok value ↔ field bytes offset 4 = leBytes 4 value.toNat :=
  read_eq_ok (by decide) UInt32.ofNat_toNat value.toNat_lt
    fun _ h => UInt32.toNat_ofNat_of_lt h

theorem u64_eq_ok {value : UInt64} :
    u64 bytes offset = .ok value ↔ field bytes offset 8 = leBytes 8 value.toNat :=
  read_eq_ok (by decide) UInt64.ofNat_toNat value.toNat_lt
    fun _ h => UInt64.toNat_ofNat_of_lt h

theorem fixed_eq_ok {value : FixedBytes n} (hpos : 0 < n) :
    fixed n bytes offset = .ok value ↔ field bytes offset n = value.1 := by
  rw [fixed]
  split
  · rename_i seg hseg
    rw [((slice_eq_ok hpos).mp hseg).1]
    exact ⟨fun h => congrArg Subtype.val (Except.ok.inj h), fun h => congrArg _ (Subtype.ext h)⟩
  · rename_i e hseg
    refine ⟨fun h => (nomatch h), fun h => ?_⟩
    rw [(slice_eq_ok hpos).mpr ⟨h, value.2⟩] at hseg
    exact nomatch hseg

end Read

/-! ## Checks -/

section Check

variable {bytes seg : List UInt8} {n offset : Nat} {u : Unit} {name : String}

theorem requireExact_eq_ok : Cursor.requireExact bytes n = .ok u ↔ bytes.length = n := by
  simp only [Cursor.requireExact, Cursor.require, bind_eq_ok, last_guard_eq_ok, check_eq_ok,
    exists_const]
  omega

theorem require_eq_ok : Cursor.require bytes n = .ok u ↔ n ≤ bytes.length := by
  rw [Cursor.require, check_eq_ok, Nat.not_lt]

theorem requireDynamicExact_eq_ok : requireDynamicExact bytes n = .ok u ↔ bytes.length = n := by
  simp only [requireDynamicExact, Cursor.require, bind_eq_ok, last_guard_eq_ok, check_eq_ok,
    exists_const]
  omega

theorem ensureFrameLimit_eq_ok {operation : Operation} :
    ensureFrameLimit n operation = .ok u ↔ n ≤ MAX_MTU := by
  rw [ensureFrameLimit, check_eq_ok, Nat.not_lt]

theorem requireWindowBounds_eq_ok {windowPackets dataPayloadBytes : UInt16}
    {operation : Operation} :
    requireWindowBounds windowPackets dataPayloadBytes operation = .ok u ↔
      windowPackets ≠ 0 ∧ dataPayloadBytes ≠ 0 := by
  rw [requireWindowBounds, check_eq_ok, not_or]

theorem requireZero_eq_ok (h : seg.length = n) :
    requireZero seg name = .ok u ↔ seg = List.replicate n 0 := by
  rw [requireZero, check_eq_ok, List.eq_replicate_iff, List.any_eq_true]
  constructor
  · exact fun hany => ⟨h, fun byte hbyte => by_contra fun hne =>
      hany ⟨byte, hbyte, decide_eq_true hne⟩⟩
  · rintro ⟨-, hall⟩ ⟨byte, hbyte, hne⟩
    exact of_decide_eq_true hne (hall byte hbyte)

/-- The bytes that a frame reserves. -/
theorem reserved_eq_ok (hpos : 0 < n) :
    (∃ seg, Cursor.slice bytes offset n = .ok seg ∧ ∃ u, requireZero seg name = .ok u) ↔
      field bytes offset n = List.replicate n 0 := by
  constructor
  · rintro ⟨seg, hseg, u, hzero⟩
    obtain ⟨hfield, hlength⟩ := (slice_eq_ok hpos).mp hseg
    rw [hfield, (requireZero_eq_ok hlength).mp hzero]
  · intro h
    have hlength : (List.replicate n (0 : UInt8)).length = n := List.length_replicate
    exact ⟨_, (slice_eq_ok hpos).mpr ⟨h, hlength⟩, (), (requireZero_eq_ok hlength).mpr rfl⟩

theorem requireDeclaredLength_eq_ok {expected : Nat} :
    requireDeclaredLength n expected name = .ok u ↔ n = expected := by
  rw [requireDeclaredLength, check_eq_ok, ne_eq, not_not]

theorem requireVersion_eq_ok {actual expected : UInt8} :
    requireVersion actual expected name = .ok u ↔ actual = expected := by
  rw [requireVersion, check_eq_ok, ne_eq, not_not]

theorem u16TryFrom_eq_ok {length : UInt16} {error : DeviceSdkError} :
    u16TryFrom n error = .ok length ↔ n < 65536 ∧ UInt16.ofNat n = length := by
  rw [u16TryFrom]
  split
  · rename_i h
    exact ⟨fun hok => (nomatch hok), fun hok => absurd hok.1 (Nat.not_lt.mpr h)⟩
  · rename_i h
    exact ⟨fun hok => ⟨Nat.not_le.mp h, Except.ok.inj hok⟩, fun hok => hok.2 ▸ rfl⟩

end Check

/-! ## The common header -/

section Header

variable {bytes : List UInt8} {common : CommonHeaderV2} {code : UInt8} {u : Unit}

theorem length_headerFields : (headerFields common).flatten.length = 12 := by
  simp only [headerFields, List.flatten_cons, List.flatten_nil, List.length_append,
    List.length_singleton, length_leBytes, List.length_nil]

@[simp] theorem width_headerFields : width (headerFields common) = 12 :=
  length_headerFields

theorem requireNoFlags_eq_ok {flags : UInt16} {name : String} :
    requireKnownBits flags.toUInt32 0 name = .ok u ↔ flags = 0 := by
  have hones : flags.toUInt32 &&& ~~~0 = flags.toUInt32 := UInt32.and_neg_one
  rw [requireKnownBits, check_eq_ok, ne_eq, not_not, hones, ← UInt32.toNat_inj,
    ← UInt16.toNat_inj, UInt16.toNat_toUInt32]
  rfl

theorem field_headerFields :
    field bytes 0 12 = (headerFields common).flatten ↔
      field bytes 0 1 = [common.messageType] ∧
        field bytes 1 1 = [ENCRYPTED_UPLOAD_V2_TRANSFER_PROFILE_VERSION] ∧
        field bytes 2 2 = leBytes 2 common.flags.toNat ∧
        field bytes 4 8 = leBytes 8 common.transportSessionId.toNat := by
  show field bytes 0 (width (headerFields common)) = (headerFields common).flatten ↔ _
  rw [headerFields, field_eq_flatten_cons, field_eq_flatten_cons, field_eq_flatten_cons,
    field_eq_flatten_cons, width_nil, List.flatten_nil]
  simp only [List.length_singleton, length_leBytes, Nat.reduceAdd, field, List.take_zero, and_true]

theorem decodeCommon_eq_ok :
    decodeCommon bytes code = .ok common ↔
      HeaderAccepted common code ∧ field bytes 0 12 = (headerFields common).flatten := by
  simp only [decodeCommon, require_eq_ok, bind_eq_ok, u8_eq_ok, guard_eq_ok, requireVersion_eq_ok,
    u16_eq_ok, requireNoFlags_eq_ok, u64_eq_ok, pure_eq_ok, ne_eq, not_not, field_headerFields]
  constructor
  · rintro ⟨-, -, _, htype, rfl, _, hversion, -, rfl, _, hflags, -, rfl, _, hsession, hnonzero, rfl⟩
    exact ⟨⟨rfl, rfl, hnonzero⟩, htype, hversion, hflags, hsession⟩
  · rintro ⟨⟨hcode, hzero, hnonzero⟩, htype, hversion, hflags, hsession⟩
    have hroom := room_of_length_field hsession (length_leBytes 8 _) (by decide)
    exact ⟨(), hroom, _, htype, hcode, _, hversion, (), rfl, _, hflags, (), hzero, _, hsession,
      hnonzero, rfl⟩

theorem encodeCommonFixed_eq_ok {n : Nat} (h : 12 ≤ n) :
    encodeCommonFixed common code n = .ok bytes ↔
      HeaderAccepted common code ∧ bytes = written 0 (headerFields common) (n - 12) := by
  have hwrite : putU64 (putU16 (putU8 (putU8 (List.replicate n 0) 0 common.messageType) 1
      ENCRYPTED_UPLOAD_V2_TRANSFER_PROFILE_VERSION) 2 common.flags) 4 common.transportSessionId =
        written 0 (headerFields common) (n - 12) := by
    obtain ⟨m, rfl⟩ := Nat.exists_eq_add_of_le h
    have hblank : List.replicate (12 + m) (0 : UInt8) = written 0 [] (1 + (1 + (2 + (8 + m)))) := by
      rw [written, List.flatten_nil, List.nil_append]
      congr 1
      omega
    have hfirst : put (written 0 [] (1 + (1 + (2 + (8 + m))))) 0 [common.messageType] =
        written 0 [[common.messageType]] (1 + (2 + (8 + m))) := by
      rw [put_written (by simp) (by simp), List.nil_append, List.length_singleton,
        Nat.add_sub_cancel_left]
    simp [hblank, hfirst, putU8, putU16, putU64, headerFields]
  simp only [encodeCommonFixed, guard_eq_ok, pure_eq_ok, ne_eq, not_not]
  constructor
  · rintro ⟨rfl, hflags, hsession, rfl⟩
    exact ⟨⟨rfl, hflags, hsession⟩, hwrite⟩
  · rintro ⟨⟨rfl, hflags, hsession⟩, rfl⟩
    exact ⟨rfl, hflags, hsession, hwrite⟩

/-- What an encoder writes behind the header. -/
theorem encoded_eq_ok {n : Nat} {write : List UInt8 → List UInt8} {fields : List (List UInt8)}
    (message : EncryptedUploadV2Transfer) (hfields : frameFields message = headerFields common ++ fields)
    (h : 12 ≤ n)
    (hwrite : write (written 0 (headerFields common) (n - 12)) =
      written 0 (headerFields common ++ fields) 0) :
    (encodeCommonFixed common code n >>= fun bytes => pure (write bytes)) = .ok bytes ↔
      HeaderAccepted common code ∧ bytes = frame message := by
  rw [bind_eq_ok, frame, hfields, ← written_zero, ← hwrite]
  constructor
  · rintro ⟨buffer, hbuffer, hbytes⟩
    obtain ⟨hacc, rfl⟩ := (encodeCommonFixed_eq_ok h).mp hbuffer
    exact ⟨hacc, (pure_eq_ok.mp hbytes).symm⟩
  · rintro ⟨hacc, rfl⟩
    exact ⟨_, (encodeCommonFixed_eq_ok h).mpr ⟨hacc, rfl⟩, rfl⟩

end Header

/-! ## Encoding -/

section Encode

variable {bytes : List UInt8}

theorem encodeRecordingEntry_eq_ok {value : RecordingEntryV2} :
    encodeRecordingEntry value = .ok bytes ↔
      Accepted (.recordingEntry value) ∧ bytes = frame (.recordingEntry value) := by
  rw [encodeRecordingEntry, guard_eq_ok]
  refine (and_congr_right fun _ => encoded_eq_ok (.recordingEntry value) rfl (by decide) ?_).trans ?_
  · simp [putU8, putU32, putU64, putFixed]
  · rw [Accepted]
    tauto

theorem encodeStart_eq_ok {value : StartV2} :
    encodeStart value = .ok bytes ↔ Accepted (.start value) ∧ bytes = frame (.start value) := by
  rw [encodeStart, seq_eq_ok, requireWindowBounds_eq_ok]
  refine (and_congr_right fun _ => encoded_eq_ok (.start value) rfl (by decide) ?_).trans ?_
  · simp [putU16, putU32, putU64, putFixed]
  · rw [Accepted]
    tauto

theorem encodeStartAck_eq_ok {value : StartAckV2} :
    encodeStartAck value = .ok bytes ↔
      Accepted (.startAck value) ∧ bytes = frame (.startAck value) := by
  rw [encodeStartAck, seq_eq_ok, requireWindowBounds_eq_ok, guard_eq_ok]
  refine (and_congr_right fun _ => and_congr_right fun _ => encoded_eq_ok (.startAck value) rfl (by decide) ?_).trans ?_
  · simp [putU16, putU32, putU64, putFixed]
  · rw [Accepted]
    tauto

/-- A count that fits 16 bits. -/
theorem counted_eq_ok {n : Nat} {error : DeviceSdkError}
    {k : UInt16 → Except DeviceSdkError (List UInt8)} :
    (u16TryFrom n error >>= k) = .ok bytes ↔ n < 65536 ∧ k (UInt16.ofNat n) = .ok bytes := by
  simp only [bind_eq_ok, u16TryFrom_eq_ok, and_assoc, exists_and_left, exists_eq_left']

theorem toNat_count {n : Nat} (h : n < 65536) : (UInt16.ofNat n).toNat = n := by
  rw [UInt16.toNat_ofNat', Nat.mod_eq_of_lt h]

theorem encodeData_eq_ok {common : CommonHeaderV2} {sequence : UInt32} {offset : UInt64}
    {data : List UInt8} :
    encodeData common sequence offset data = .ok bytes ↔
      Accepted (.data common sequence offset data) ∧
        bytes = frame (.data common sequence offset data) := by
  simp only [encodeData, guard_eq_ok, counted_eq_ok, seq_eq_ok, ensureFrameLimit_eq_ok,
    checkedFrameLength, List.isEmpty_iff, Nat.mul_one]
  refine (and_congr_right fun _ => and_congr_right fun hcount => and_congr_right fun _ =>
    and_congr_right fun _ => encoded_eq_ok (.data common sequence offset data) rfl (by omega)
      ?_).trans ?_
  · rw [show 28 + data.length - 12 = 4 + (8 + (2 + (2 + data.length))) by omega]
    simp [putU16, putU32, putU64, Nat.mod_eq_of_lt hcount]
    rw [written_reserve 2]
    simp
  · rw [Accepted, MAX_MTU]
    constructor
    · rintro ⟨hdata, hcount, hrange, hlimit, hheader, rfl⟩
      rw [toNat_count hcount] at hrange
      exact ⟨⟨hheader, hdata, hlimit, by omega⟩, rfl⟩
    · rintro ⟨⟨hheader, hdata, hlimit, hrange⟩, rfl⟩
      have hcount : data.length < 65536 := by omega
      rw [toNat_count hcount]
      exact ⟨hdata, hcount, by omega, hlimit, hheader, rfl⟩

theorem encodeWindowEnd_eq_ok {value : WindowEndV2} :
    encodeWindowEnd value = .ok bytes ↔
      Accepted (.windowEnd value) ∧ bytes = frame (.windowEnd value) := by
  rw [encodeWindowEnd, guard_eq_ok]
  refine (and_congr_right fun _ => encoded_eq_ok (.windowEnd value) rfl (by decide) ?_).trans ?_
  · simp [putU32, putU64, putFixed]
  · rw [Accepted, UInt32.not_lt]
    tauto

/-- The loop over the missing sequences, from the `index`-th one on. -/
theorem foldl_sequences {fields : List (List UInt8)} {n : Nat} (sequences : List UInt32) :
    ∀ index : Nat, width fields = 68 + index * 4 → n = sequences.length * 4 →
      (sequences.zipIdx index).foldl (fun bytes entry => putU32 bytes (68 + entry.2 * 4) entry.1)
        (written 0 fields n) =
      written 0 (fields ++ sequences.map fun sequence => leBytes 4 sequence.toNat) 0 := by
  induction sequences generalizing fields n with
  | nil =>
    intro index _ hn
    rw [hn, List.map_nil, List.append_nil]
    rfl
  | cons sequence rest ih =>
    intro index hwidth hn
    rw [List.length_cons] at hn
    rw [List.zipIdx_cons, List.foldl_cons, putU32,
      put_written hwidth (by rw [length_leBytes]; omega), length_leBytes,
      ih (index + 1) (by rw [width_append, hwidth, width_cons, length_leBytes, width_nil]; omega)
        (by omega),
      List.map_cons, List.append_assoc, List.singleton_append]

theorem encodeWindowAck_eq_ok {value : WindowAckV2} :
    encodeWindowAck value = .ok bytes ↔
      Accepted (.windowAck value) ∧ bytes = frame (.windowAck value) := by
  simp only [encodeWindowAck, counted_eq_ok, seq_eq_ok, ensureFrameLimit_eq_ok, checkedFrameLength]
  refine (and_congr_right fun hcount => and_congr_right fun _ =>
    encoded_eq_ok (.windowAck value) rfl (by omega) ?_).trans ?_
  · rw [show 68 + value.missingSequences.length * 4 - 12 =
      4 + (4 + (8 + (32 + (4 + (2 + (2 + value.missingSequences.length * 4)))))) by omega]
    simp [putU16, putU32, putU64, putFixed, Nat.mod_eq_of_lt hcount]
    rw [written_reserve 2]
    exact (foldl_sequences _ 0 (by simp) rfl).trans (by simp)
  · rw [Accepted, MAX_MTU]
    constructor
    · rintro ⟨-, hlimit, hheader, rfl⟩
      exact ⟨⟨hheader, hlimit⟩, rfl⟩
    · rintro ⟨⟨hheader, hlimit⟩, rfl⟩
      exact ⟨by omega, hlimit, hheader, rfl⟩

theorem encodeManifestChunk_eq_ok {value : ManifestChunkV2} :
    encodeManifestChunk value = .ok bytes ↔
      Accepted (.manifestChunk value) ∧ bytes = frame (.manifestChunk value) := by
  simp only [encodeManifestChunk, guard_eq_ok, counted_eq_ok, seq_eq_ok, ensureFrameLimit_eq_ok,
    checkedFrameLength, List.isEmpty_iff, Nat.mul_one, ne_eq, not_not, Nat.not_lt]
  refine (and_congr_right fun _ => and_congr_right fun _ => and_congr_right fun hcount =>
    and_congr_right fun _ => and_congr_right fun _ =>
    encoded_eq_ok (.manifestChunk value) rfl (by omega) ?_).trans ?_
  · rw [show 52 + value.chunk.length - 12 =
      2 + (2 + (2 + (2 + (32 + value.chunk.length)))) by omega]
    simp [putU16, putFixed, Nat.mod_eq_of_lt hcount]
    rw [written_reserve 2]
    simp
  · constructor
    · rintro ⟨htotal, hchunk, -, hrange, hlimit, hheader, rfl⟩
      exact ⟨⟨hheader, htotal, hchunk, hrange, hlimit⟩, rfl⟩
    · rintro ⟨⟨hheader, htotal, hchunk, hrange, hlimit⟩, rfl⟩
      have hlt : value.chunk.length < 65536 := by
        rw [MAX_MTU] at hlimit
        omega
      exact ⟨htotal, hchunk, hlt, hrange, hlimit, hheader, rfl⟩

theorem encodeEof_eq_ok {value : EofV2} :
    encodeEof value = .ok bytes ↔ Accepted (.eof value) ∧ bytes = frame (.eof value) := by
  refine encoded_eq_ok (.eof value) rfl (by decide) ?_
  simp [putU32, putU64, putFixed]

theorem encodeResume_eq_ok {value : ResumeV2} {accepted : Bool} :
    encodeResume value accepted = .ok bytes ↔
      (value.windowPackets ≠ 0 ∧ value.dataPayloadBytes ≠ 0) ∧
        HeaderAccepted value.common (if accepted then ENCRYPTED_UPLOAD_V2_RESUME_ACCEPT
          else ENCRYPTED_UPLOAD_V2_RESUME_REQUEST) ∧
        bytes = frame (.resumeRequest value) := by
  rw [encodeResume, seq_eq_ok, requireWindowBounds_eq_ok]
  refine and_congr_right fun _ => encoded_eq_ok (.resumeRequest value) rfl (by decide) ?_
  simp [putU16, putU32, putU64, putFixed]

theorem encodeResumeReject_eq_ok {value : ResumeRejectV2} :
    encodeResumeReject value = .ok bytes ↔
      Accepted (.resumeReject value) ∧ bytes = frame (.resumeReject value) := by
  refine encoded_eq_ok (.resumeReject value) rfl (by decide) ?_
  simp [putU16, putU32, putU64, putFixed]

theorem encodeConfirm_eq_ok {value : ConfirmV2} :
    encodeConfirm value = .ok bytes ↔
      Accepted (.confirm value) ∧ bytes = frame (.confirm value) := by
  refine encoded_eq_ok (.confirm value) rfl (by decide) ?_
  simp [putU32, putFixed]

end Encode

end BotaSdk.TransferV2
