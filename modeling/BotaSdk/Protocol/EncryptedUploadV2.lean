import BotaSdk.Lib.Layout
import BotaSdk.Model
import BotaSdk.Protocol.Cursor

/-!
# Transfer messages of encrypted upload v2 (`protocol/encrypted_upload_v2.rs`)

The encoder writes each field into a zeroed buffer, the decoder reads it back at its offset; the
offsets are those of `generated/protocol.rs`.
-/

namespace BotaSdk

namespace Protocol

def ENCRYPTED_UPLOAD_V2_START : UInt8 := 0x20
def ENCRYPTED_UPLOAD_V2_WINDOW_ACK : UInt8 := 0x21
def ENCRYPTED_UPLOAD_V2_RESUME_REQUEST : UInt8 := 0x22
def ENCRYPTED_UPLOAD_V2_CONFIRM : UInt8 := 0x23
def ENCRYPTED_UPLOAD_V2_ABORT : UInt8 := 0x24
def ENCRYPTED_UPLOAD_V2_LIST : UInt8 := 0x25
def ENCRYPTED_UPLOAD_V2_START_ACK : UInt8 := 0x40
def ENCRYPTED_UPLOAD_V2_DATA : UInt8 := 0x41
def ENCRYPTED_UPLOAD_V2_WINDOW_END : UInt8 := 0x42
def ENCRYPTED_UPLOAD_V2_MANIFEST_CHUNK : UInt8 := 0x43
def ENCRYPTED_UPLOAD_V2_EOF : UInt8 := 0x44
def ENCRYPTED_UPLOAD_V2_RESUME_ACCEPT : UInt8 := 0x45
def ENCRYPTED_UPLOAD_V2_RESUME_REJECT : UInt8 := 0x46
def ENCRYPTED_UPLOAD_V2_RECORDING_ENTRY : UInt8 := 0x48
def ENCRYPTED_UPLOAD_V2_RECORDING_LIST_END : UInt8 := 0x49
def ENCRYPTED_UPLOAD_V2_MARKER_CHUNK : UInt8 := 0x4A
def ENCRYPTED_UPLOAD_V2_ERROR : UInt8 := 0x4F
def ENCRYPTED_UPLOAD_V2_TRANSFER_PROFILE_VERSION : UInt8 := 0x02
def STORAGE_FORMAT_BOTA_ENC_V2 : Nat := 0x03
def UPLOAD_AUTHORIZATION_V2_FIXED_LENGTH : Nat := 408
def UPLOAD_MANIFEST_V2_FIXED_LENGTH : Nat := 580
def MAX_MTU : Nat := 512

end Protocol

open Protocol

/-! ## Messages -/

structure CommonHeaderV2 where
  messageType : UInt8
  flags : UInt16
  transportSessionId : UInt64
  deriving DecidableEq

structure RecordingEntryV2 where
  common : CommonHeaderV2
  recordingUuid : FixedBytes 16
  recordingGeneration : UInt32
  storageFormat : UInt8
  completionState : UInt8
  startedAt : UInt64
  durationSeconds : UInt32
  plaintextLength : UInt64
  ciphertextLength : UInt64
  ciphertextSha256 : FixedBytes 32
  deriving DecidableEq

structure StartV2 where
  common : CommonHeaderV2
  uploadSessionUuid : FixedBytes 16
  recordingUuid : FixedBytes 16
  recordingGeneration : UInt32
  authorizationSha256 : FixedBytes 32
  checkpointRevision : UInt32
  nextCiphertextOffset : UInt64
  prefixSha256 : FixedBytes 32
  windowPackets : UInt16
  dataPayloadBytes : UInt16
  deriving DecidableEq

structure StartAckV2 where
  common : CommonHeaderV2
  uploadSessionUuid : FixedBytes 16
  recordingUuid : FixedBytes 16
  recordingGeneration : UInt32
  ciphertextLength : UInt64
  ciphertextSha256 : FixedBytes 32
  windowPackets : UInt16
  dataPayloadBytes : UInt16
  checkpointIntervalBlocks : UInt32
  checkpointRevision : UInt32
  nextCiphertextOffset : UInt64
  prefixSha256 : FixedBytes 32
  deriving DecidableEq

structure WindowEndV2 where
  common : CommonHeaderV2
  windowIndex : UInt32
  firstSequence : UInt32
  lastSequence : UInt32
  nextCiphertextOffset : UInt64
  prefixSha256 : FixedBytes 32
  checkpointRevision : UInt32
  deriving DecidableEq

structure WindowAckV2 where
  common : CommonHeaderV2
  windowIndex : UInt32
  highestContiguousSequence : UInt32
  nextCiphertextOffset : UInt64
  prefixSha256 : FixedBytes 32
  checkpointRevision : UInt32
  missingSequences : List UInt32
  deriving DecidableEq

structure ManifestChunkV2 where
  common : CommonHeaderV2
  totalManifestLength : UInt16
  chunkOffset : UInt16
  manifestSha256 : FixedBytes 32
  chunk : List UInt8
  deriving DecidableEq

structure MarkerChunkV2 where
  common : CommonHeaderV2
  documentIndex : UInt32
  documentCount : UInt32
  chunkOffset : UInt16
  documentLength : UInt16
  documentSha256 : FixedBytes 32
  chunk : List UInt8
  deriving DecidableEq

structure EofV2 where
  common : CommonHeaderV2
  finalSequence : UInt32
  blockCount : UInt32
  ciphertextLength : UInt64
  ciphertextSha256 : FixedBytes 32
  manifestSha256 : FixedBytes 32
  deriving DecidableEq

structure ResumeV2 where
  common : CommonHeaderV2
  uploadSessionUuid : FixedBytes 16
  recordingUuid : FixedBytes 16
  recordingGeneration : UInt32
  checkpointRevision : UInt32
  nextCiphertextOffset : UInt64
  prefixSha256 : FixedBytes 32
  windowPackets : UInt16
  dataPayloadBytes : UInt16
  deriving DecidableEq

structure ResumeRejectV2 where
  common : CommonHeaderV2
  reason : UInt16
  checkpointRevision : UInt32
  nextCiphertextOffset : UInt64
  prefixSha256 : FixedBytes 32
  deriving DecidableEq

structure ConfirmV2 where
  common : CommonHeaderV2
  uploadSessionUuid : FixedBytes 16
  recordingUuid : FixedBytes 16
  recordingGeneration : UInt32
  ownerRevision : UInt32
  receiptSha256 : FixedBytes 32
  deriving DecidableEq

inductive EncryptedUploadV2Transfer where
  | list (common : CommonHeaderV2)
  | markedList (common : CommonHeaderV2)
  | recordingEntry (value : RecordingEntryV2)
  | recordingListEnd (common : CommonHeaderV2) (count listRevision : UInt32)
      (listSha256 : FixedBytes 32)
  | start (value : StartV2)
  | startAck (value : StartAckV2)
  | data (common : CommonHeaderV2) (sequence : UInt32) (offset : UInt64) (data : List UInt8)
  | windowEnd (value : WindowEndV2)
  | windowAck (value : WindowAckV2)
  | manifestChunk (value : ManifestChunkV2)
  | markerChunk (value : MarkerChunkV2)
  | eof (value : EofV2)
  | resumeRequest (value : ResumeV2)
  | resumeAccept (value : ResumeV2)
  | resumeReject (value : ResumeRejectV2)
  | confirm (value : ConfirmV2)
  | abort (common : CommonHeaderV2) (reason : UInt16)
  | error (common : CommonHeaderV2) (result : UInt16) (failedMessageType : UInt8)
      (checkpointRevision : UInt32)
  deriving DecidableEq

namespace TransferV2

open Bytes Layout

/-! ## Errors and checks -/

def invalidDecode (detail : String) : DeviceSdkError :=
  (DeviceSdkError.new .invalidInput .decode false).withDetail detail

def invalidEncode (detail : String) : DeviceSdkError :=
  (DeviceSdkError.new .invalidInput .encode false).withDetail detail

def unknownDecode (value : UInt8) (field : String) : DeviceSdkError :=
  ((DeviceSdkError.new .unknownPacket .decode false).withProtocolStatus value.toNat).withDetail
    s!"unknown {field} {value.toNat}"

def payloadTooLarge (operation : Operation) (detail : String) : DeviceSdkError :=
  (DeviceSdkError.new .payloadTooLarge operation false).withDetail detail

def requireWindowBounds (windowPackets dataPayloadBytes : UInt16) (operation : Operation) :
    Except DeviceSdkError Unit :=
  if windowPackets = 0 ∨ dataPayloadBytes = 0 then
    let detail := "window packets and DATA payload bytes must be nonzero"
    .error (if operation = .encode then invalidEncode detail else invalidDecode detail)
  else .ok ()

def requireZero (bytes : List UInt8) (field : String) : Except DeviceSdkError Unit :=
  if bytes.any (· ≠ 0) then .error (invalidDecode s!"{field} must be zero") else .ok ()

def requireKnownBits (value known : UInt32) (field : String) : Except DeviceSdkError Unit :=
  if value &&& ~~~known ≠ 0 then .error (invalidDecode s!"{field} contains unknown bits")
  else .ok ()

def requireVersion (actual expected : UInt8) (field : String) : Except DeviceSdkError Unit :=
  if actual ≠ expected then .error (unknownDecode actual field) else .ok ()

def requireDeclaredLength (actual expected : Nat) (field : String) : Except DeviceSdkError Unit :=
  if actual ≠ expected then
    .error (invalidDecode s!"{field} must be {expected} but is {actual}")
  else .ok ()

def ensureFrameLimit (length : Nat) (operation : Operation) : Except DeviceSdkError Unit :=
  if MAX_MTU < length then .error (payloadTooLarge operation "frame exceeds maximum MTU") else .ok ()

/-- `checked_frame_length` and `checked_encode_frame_length`: their counts are 16 bits wide or the
length of a list in memory, so the arithmetic does not overflow. -/
def checkedFrameLength (base count width : Nat) : Nat :=
  base + count * width

def requireDynamicExact (bytes : List UInt8) (expected : Nat) : Except DeviceSdkError Unit := do
  Cursor.require bytes expected
  if bytes.length ≠ expected then
    throw (invalidDecode s!"packet declares {expected} bytes but has {bytes.length}")

/-! ## Fields -/

def u16 (bytes : List UInt8) (offset : Nat) : Except DeviceSdkError UInt16 :=
  (Cursor.u16Le bytes offset).map UInt16.ofNat

def u32 (bytes : List UInt8) (offset : Nat) : Except DeviceSdkError UInt32 :=
  (Cursor.u32Le bytes offset).map UInt32.ofNat

def u64 (bytes : List UInt8) (offset : Nat) : Except DeviceSdkError UInt64 :=
  (Cursor.u64Le bytes offset).map UInt64.ofNat

/-- `fixed::<N>`. -/
def fixed (n : Nat) (bytes : List UInt8) (offset : Nat) : Except DeviceSdkError (FixedBytes n) :=
  match h : Cursor.slice bytes offset n with
  | .ok field => .ok ⟨field, Cursor.length_of_slice h⟩
  | .error error => .error error

def putU8 (bytes : List UInt8) (offset : Nat) (value : UInt8) : List UInt8 :=
  put bytes offset [value]

def putU16 (bytes : List UInt8) (offset : Nat) (value : UInt16) : List UInt8 :=
  put bytes offset (leBytes 2 value.toNat)

def putU32 (bytes : List UInt8) (offset : Nat) (value : UInt32) : List UInt8 :=
  put bytes offset (leBytes 4 value.toNat)

def putU64 (bytes : List UInt8) (offset : Nat) (value : UInt64) : List UInt8 :=
  put bytes offset (leBytes 8 value.toNat)

def putFixed {n : Nat} (bytes : List UInt8) (offset : Nat) (value : FixedBytes n) : List UInt8 :=
  put bytes offset value.1

/-- `u16::try_from(length)`, with the error that the caller maps a failure to. -/
def u16TryFrom (length : Nat) (error : DeviceSdkError) : Except DeviceSdkError UInt16 :=
  if 65536 ≤ length then .error error else .ok (UInt16.ofNat length)

/-! ## The common header -/

def decodeCommon (bytes : List UInt8) (expectedMessage : UInt8) :
    Except DeviceSdkError CommonHeaderV2 := do
  Cursor.require bytes 12
  let messageType ← Cursor.u8 bytes 0
  if messageType ≠ expectedMessage then throw (unknownDecode messageType "transfer message")
  requireVersion (← Cursor.u8 bytes 1) ENCRYPTED_UPLOAD_V2_TRANSFER_PROFILE_VERSION
    "transfer protocol version"
  let flags ← u16 bytes 2
  requireKnownBits flags.toUInt32 0 "transfer message flags"
  let transportSessionId ← u64 bytes 4
  if transportSessionId = 0 then throw (invalidDecode "transport session ID must be nonzero")
  return { messageType, flags, transportSessionId }

def encodeCommonFixed (common : CommonHeaderV2) (expectedMessage : UInt8) (length : Nat) :
    Except DeviceSdkError (List UInt8) := do
  if common.messageType ≠ expectedMessage then
    throw (invalidEncode "transfer variant and message type disagree")
  if common.flags ≠ 0 then throw (invalidEncode "transfer message has unknown flags")
  if common.transportSessionId = 0 then
    throw (invalidEncode "transport session ID must be nonzero")
  let bytes := List.replicate length 0
  let bytes := putU8 bytes 0 expectedMessage
  let bytes := putU8 bytes 1 ENCRYPTED_UPLOAD_V2_TRANSFER_PROFILE_VERSION
  let bytes := putU16 bytes 2 common.flags
  return putU64 bytes 4 common.transportSessionId

/-! ## Decoding -/

def decodeList (bytes : List UInt8) : Except DeviceSdkError EncryptedUploadV2Transfer := do
  Cursor.requireExact bytes 16
  let common ← decodeCommon bytes ENCRYPTED_UPLOAD_V2_LIST
  let requestFlags ← u32 bytes 12
  requireKnownBits requestFlags 1 "LIST request flags"
  return if requestFlags = 1 then .markedList common else .list common

def decodeMarkerChunk (bytes : List UInt8) : Except DeviceSdkError EncryptedUploadV2Transfer := do
  Cursor.require bytes 61
  ensureFrameLimit bytes.length .decode
  let common ← decodeCommon bytes ENCRYPTED_UPLOAD_V2_MARKER_CHUNK
  let documentIndex ← u32 bytes 12
  let documentCount ← u32 bytes 16
  let chunkOffset ← u16 bytes 20
  let documentLength ← u16 bytes 22
  let size ← u16 bytes 24
  requireZero (← Cursor.slice bytes 26 2) "marker chunk reserved"
  if ¬(2 ≤ documentCount ∧ documentCount ≤ 4097) ∨ documentCount ≤ documentIndex ∨
      ¬(200 ≤ documentLength ∧ documentLength ≤ 402) ∨ size = 0 ∨
      documentLength.toNat < chunkOffset.toNat + size.toNat ∨
      bytes.length ≠ 60 + size.toNat then
    throw (invalidDecode "marker chunk bounds")
  return .markerChunk {
    common, documentIndex, documentCount, chunkOffset, documentLength
    documentSha256 := ← fixed 32 bytes 28
    chunk := ← Cursor.tail bytes 60 }

def decodeRecordingEntry (bytes : List UInt8) :
    Except DeviceSdkError EncryptedUploadV2Transfer := do
  Cursor.requireExact bytes 96
  let common ← decodeCommon bytes ENCRYPTED_UPLOAD_V2_RECORDING_ENTRY
  requireZero (← Cursor.slice bytes 34 2) "RECORDING_ENTRY reserved bytes"
  let storageFormat ← Cursor.u8 bytes 32
  let completionState ← Cursor.u8 bytes 33
  if storageFormat.toNat ≠ STORAGE_FORMAT_BOTA_ENC_V2 ∨
      ¬(completionState = 1 ∨ completionState = 2) then
    throw (invalidDecode "RECORDING_ENTRY is not committed bota_enc_v2")
  return .recordingEntry {
    common, storageFormat, completionState
    recordingUuid := ← fixed 16 bytes 12
    recordingGeneration := ← u32 bytes 28
    startedAt := ← u64 bytes 36
    durationSeconds := ← u32 bytes 44
    plaintextLength := ← u64 bytes 48
    ciphertextLength := ← u64 bytes 56
    ciphertextSha256 := ← fixed 32 bytes 64 }

def decodeRecordingListEnd (bytes : List UInt8) :
    Except DeviceSdkError EncryptedUploadV2Transfer := do
  Cursor.requireExact bytes 52
  return .recordingListEnd (← decodeCommon bytes ENCRYPTED_UPLOAD_V2_RECORDING_LIST_END)
    (← u32 bytes 12) (← u32 bytes 16) (← fixed 32 bytes 20)

def decodeStart (bytes : List UInt8) : Except DeviceSdkError EncryptedUploadV2Transfer := do
  Cursor.requireExact bytes 128
  let value : StartV2 := {
    common := ← decodeCommon bytes ENCRYPTED_UPLOAD_V2_START
    uploadSessionUuid := ← fixed 16 bytes 12
    recordingUuid := ← fixed 16 bytes 28
    recordingGeneration := ← u32 bytes 44
    authorizationSha256 := ← fixed 32 bytes 48
    checkpointRevision := ← u32 bytes 80
    nextCiphertextOffset := ← u64 bytes 84
    prefixSha256 := ← fixed 32 bytes 92
    windowPackets := ← u16 bytes 124
    dataPayloadBytes := ← u16 bytes 126 }
  requireWindowBounds value.windowPackets value.dataPayloadBytes .decode
  return .start value

def decodeStartAck (bytes : List UInt8) : Except DeviceSdkError EncryptedUploadV2Transfer := do
  Cursor.requireExact bytes 140
  let value : StartAckV2 := {
    common := ← decodeCommon bytes ENCRYPTED_UPLOAD_V2_START_ACK
    uploadSessionUuid := ← fixed 16 bytes 12
    recordingUuid := ← fixed 16 bytes 28
    recordingGeneration := ← u32 bytes 44
    ciphertextLength := ← u64 bytes 48
    ciphertextSha256 := ← fixed 32 bytes 56
    windowPackets := ← u16 bytes 88
    dataPayloadBytes := ← u16 bytes 90
    checkpointIntervalBlocks := ← u32 bytes 92
    checkpointRevision := ← u32 bytes 96
    nextCiphertextOffset := ← u64 bytes 100
    prefixSha256 := ← fixed 32 bytes 108 }
  requireWindowBounds value.windowPackets value.dataPayloadBytes .decode
  if value.checkpointIntervalBlocks = 0 then
    throw (invalidDecode "START_ACK checkpoint interval must be nonzero")
  return .startAck value

def decodeData (bytes : List UInt8) : Except DeviceSdkError EncryptedUploadV2Transfer := do
  Cursor.require bytes 28
  ensureFrameLimit bytes.length .decode
  let common ← decodeCommon bytes ENCRYPTED_UPLOAD_V2_DATA
  requireZero (← Cursor.slice bytes 26 2) "DATA reserved bytes"
  let payloadLength := (← u16 bytes 24).toNat
  if payloadLength = 0 then throw (invalidDecode "DATA payload must not be empty")
  requireDynamicExact bytes (checkedFrameLength 28 payloadLength 1)
  let offset ← u64 bytes 16
  if 2 ^ 64 ≤ offset.toNat + payloadLength then
    throw (payloadTooLarge .decode "DATA ciphertext range")
  return .data common (← u32 bytes 12) offset (← Cursor.tail bytes 28)

def decodeWindowEnd (bytes : List UInt8) : Except DeviceSdkError EncryptedUploadV2Transfer := do
  Cursor.requireExact bytes 68
  let value : WindowEndV2 := {
    common := ← decodeCommon bytes ENCRYPTED_UPLOAD_V2_WINDOW_END
    windowIndex := ← u32 bytes 12
    firstSequence := ← u32 bytes 16
    lastSequence := ← u32 bytes 20
    nextCiphertextOffset := ← u64 bytes 24
    prefixSha256 := ← fixed 32 bytes 32
    checkpointRevision := ← u32 bytes 64 }
  if value.lastSequence < value.firstSequence then
    throw (invalidDecode "WINDOW_END first sequence exceeds last sequence")
  return .windowEnd value

def decodeWindowAck (bytes : List UInt8) : Except DeviceSdkError EncryptedUploadV2Transfer := do
  Cursor.require bytes 68
  ensureFrameLimit bytes.length .decode
  let common ← decodeCommon bytes ENCRYPTED_UPLOAD_V2_WINDOW_ACK
  requireZero (← Cursor.slice bytes 66 2) "WINDOW_ACK reserved bytes"
  let count := (← u16 bytes 64).toNat
  requireDynamicExact bytes (checkedFrameLength 68 count 4)
  let missingSequences ← (List.range count).mapM fun index => u32 bytes (68 + index * 4)
  return .windowAck {
    common, missingSequences
    windowIndex := ← u32 bytes 12
    highestContiguousSequence := ← u32 bytes 16
    nextCiphertextOffset := ← u64 bytes 20
    prefixSha256 := ← fixed 32 bytes 28
    checkpointRevision := ← u32 bytes 60 }

def decodeManifestChunk (bytes : List UInt8) :
    Except DeviceSdkError EncryptedUploadV2Transfer := do
  Cursor.require bytes 52
  ensureFrameLimit bytes.length .decode
  let common ← decodeCommon bytes ENCRYPTED_UPLOAD_V2_MANIFEST_CHUNK
  requireZero (← Cursor.slice bytes 18 2) "MANIFEST_CHUNK reserved bytes"
  let totalManifestLength ← u16 bytes 12
  requireDeclaredLength totalManifestLength.toNat UPLOAD_MANIFEST_V2_FIXED_LENGTH "manifest total length"
  let chunkOffset ← u16 bytes 14
  let chunkLength := (← u16 bytes 16).toNat
  if chunkLength = 0 then throw (invalidDecode "MANIFEST_CHUNK must not be empty")
  requireDynamicExact bytes (checkedFrameLength 52 chunkLength 1)
  if totalManifestLength.toNat < chunkOffset.toNat + chunkLength then
    throw (payloadTooLarge .decode "MANIFEST_CHUNK exceeds manifest length")
  return .manifestChunk {
    common, totalManifestLength, chunkOffset
    manifestSha256 := ← fixed 32 bytes 20
    chunk := ← Cursor.tail bytes 52 }

def decodeEof (bytes : List UInt8) : Except DeviceSdkError EncryptedUploadV2Transfer := do
  Cursor.requireExact bytes 92
  return .eof {
    common := ← decodeCommon bytes ENCRYPTED_UPLOAD_V2_EOF
    finalSequence := ← u32 bytes 12
    blockCount := ← u32 bytes 16
    ciphertextLength := ← u64 bytes 20
    ciphertextSha256 := ← fixed 32 bytes 28
    manifestSha256 := ← fixed 32 bytes 60 }

def decodeResume (bytes : List UInt8) (accepted : Bool) :
    Except DeviceSdkError EncryptedUploadV2Transfer := do
  Cursor.requireExact bytes 96
  let expected := if accepted then ENCRYPTED_UPLOAD_V2_RESUME_ACCEPT
    else ENCRYPTED_UPLOAD_V2_RESUME_REQUEST
  let value : ResumeV2 := {
    common := ← decodeCommon bytes expected
    uploadSessionUuid := ← fixed 16 bytes 12
    recordingUuid := ← fixed 16 bytes 28
    recordingGeneration := ← u32 bytes 44
    checkpointRevision := ← u32 bytes 48
    nextCiphertextOffset := ← u64 bytes 52
    prefixSha256 := ← fixed 32 bytes 60
    windowPackets := ← u16 bytes 92
    dataPayloadBytes := ← u16 bytes 94 }
  requireWindowBounds value.windowPackets value.dataPayloadBytes .decode
  return if accepted then .resumeAccept value else .resumeRequest value

def decodeResumeReject (bytes : List UInt8) :
    Except DeviceSdkError EncryptedUploadV2Transfer := do
  Cursor.requireExact bytes 60
  let common ← decodeCommon bytes ENCRYPTED_UPLOAD_V2_RESUME_REJECT
  requireZero (← Cursor.slice bytes 14 2) "RESUME_REJECT reserved bytes"
  return .resumeReject {
    common
    reason := ← u16 bytes 12
    checkpointRevision := ← u32 bytes 16
    nextCiphertextOffset := ← u64 bytes 20
    prefixSha256 := ← fixed 32 bytes 28 }

def decodeConfirm (bytes : List UInt8) : Except DeviceSdkError EncryptedUploadV2Transfer := do
  Cursor.requireExact bytes 84
  return .confirm {
    common := ← decodeCommon bytes ENCRYPTED_UPLOAD_V2_CONFIRM
    uploadSessionUuid := ← fixed 16 bytes 12
    recordingUuid := ← fixed 16 bytes 28
    recordingGeneration := ← u32 bytes 44
    ownerRevision := ← u32 bytes 48
    receiptSha256 := ← fixed 32 bytes 52 }

def decodeAbort (bytes : List UInt8) : Except DeviceSdkError EncryptedUploadV2Transfer := do
  Cursor.requireExact bytes 16
  let common ← decodeCommon bytes ENCRYPTED_UPLOAD_V2_ABORT
  requireZero (← Cursor.slice bytes 14 2) "ABORT reserved bytes"
  return .abort common (← u16 bytes 12)

def decodeError (bytes : List UInt8) : Except DeviceSdkError EncryptedUploadV2Transfer := do
  Cursor.requireExact bytes 20
  let common ← decodeCommon bytes ENCRYPTED_UPLOAD_V2_ERROR
  requireZero (← Cursor.slice bytes 15 1) "ERROR reserved byte"
  return .error common (← u16 bytes 12) (← Cursor.u8 bytes 14) (← u32 bytes 16)

/-- The match on the message code. -/
def decodeMessage (code : UInt8) (bytes : List UInt8) :
    Except DeviceSdkError EncryptedUploadV2Transfer :=
  if code = ENCRYPTED_UPLOAD_V2_LIST then decodeList bytes
  else if code = ENCRYPTED_UPLOAD_V2_RECORDING_ENTRY then decodeRecordingEntry bytes
  else if code = ENCRYPTED_UPLOAD_V2_RECORDING_LIST_END then decodeRecordingListEnd bytes
  else if code = ENCRYPTED_UPLOAD_V2_START then decodeStart bytes
  else if code = ENCRYPTED_UPLOAD_V2_START_ACK then decodeStartAck bytes
  else if code = ENCRYPTED_UPLOAD_V2_DATA then decodeData bytes
  else if code = ENCRYPTED_UPLOAD_V2_WINDOW_END then decodeWindowEnd bytes
  else if code = ENCRYPTED_UPLOAD_V2_WINDOW_ACK then decodeWindowAck bytes
  else if code = ENCRYPTED_UPLOAD_V2_MANIFEST_CHUNK then decodeManifestChunk bytes
  else if code = ENCRYPTED_UPLOAD_V2_MARKER_CHUNK then decodeMarkerChunk bytes
  else if code = ENCRYPTED_UPLOAD_V2_EOF then decodeEof bytes
  else if code = ENCRYPTED_UPLOAD_V2_RESUME_REQUEST then decodeResume bytes false
  else if code = ENCRYPTED_UPLOAD_V2_RESUME_ACCEPT then decodeResume bytes true
  else if code = ENCRYPTED_UPLOAD_V2_RESUME_REJECT then decodeResumeReject bytes
  else if code = ENCRYPTED_UPLOAD_V2_CONFIRM then decodeConfirm bytes
  else if code = ENCRYPTED_UPLOAD_V2_ABORT then decodeAbort bytes
  else if code = ENCRYPTED_UPLOAD_V2_ERROR then decodeError bytes
  else .error (unknownDecode code "transfer message")

def decodeEncryptedUploadV2Transfer (bytes : List UInt8) :
    Except DeviceSdkError EncryptedUploadV2Transfer := do
  Cursor.require bytes 1
  decodeMessage (← Cursor.u8 bytes 0) bytes

/-! ## Encoding -/

def encodeMarkerChunk (value : MarkerChunkV2) : Except DeviceSdkError (List UInt8) := do
  let bytes ← encodeCommonFixed value.common ENCRYPTED_UPLOAD_V2_MARKER_CHUNK
    (60 + value.chunk.length)
  let bytes := putU32 bytes 12 value.documentIndex
  let bytes := putU32 bytes 16 value.documentCount
  let bytes := putU16 bytes 20 value.chunkOffset
  let bytes := putU16 bytes 22 value.documentLength
  let size ← u16TryFrom value.chunk.length (invalidEncode "marker chunk length")
  let bytes := putU16 bytes 24 size
  let bytes := putFixed bytes 28 value.documentSha256
  let bytes := put bytes 60 value.chunk
  let _ ← decodeMarkerChunk bytes
  return bytes

def encodeRecordingEntry (value : RecordingEntryV2) : Except DeviceSdkError (List UInt8) := do
  if value.storageFormat.toNat ≠ STORAGE_FORMAT_BOTA_ENC_V2 ∨
      ¬(value.completionState = 1 ∨ value.completionState = 2) then
    throw (invalidEncode "recording entry is not committed bota_enc_v2")
  let bytes ← encodeCommonFixed value.common ENCRYPTED_UPLOAD_V2_RECORDING_ENTRY 96
  let bytes := putFixed bytes 12 value.recordingUuid
  let bytes := putU32 bytes 28 value.recordingGeneration
  let bytes := putU8 bytes 32 value.storageFormat
  let bytes := putU8 bytes 33 value.completionState
  let bytes := putU64 bytes 36 value.startedAt
  let bytes := putU32 bytes 44 value.durationSeconds
  let bytes := putU64 bytes 48 value.plaintextLength
  let bytes := putU64 bytes 56 value.ciphertextLength
  return putFixed bytes 64 value.ciphertextSha256

def encodeStart (value : StartV2) : Except DeviceSdkError (List UInt8) := do
  requireWindowBounds value.windowPackets value.dataPayloadBytes .encode
  let bytes ← encodeCommonFixed value.common ENCRYPTED_UPLOAD_V2_START 128
  let bytes := putFixed bytes 12 value.uploadSessionUuid
  let bytes := putFixed bytes 28 value.recordingUuid
  let bytes := putU32 bytes 44 value.recordingGeneration
  let bytes := putFixed bytes 48 value.authorizationSha256
  let bytes := putU32 bytes 80 value.checkpointRevision
  let bytes := putU64 bytes 84 value.nextCiphertextOffset
  let bytes := putFixed bytes 92 value.prefixSha256
  let bytes := putU16 bytes 124 value.windowPackets
  return putU16 bytes 126 value.dataPayloadBytes

def encodeStartAck (value : StartAckV2) : Except DeviceSdkError (List UInt8) := do
  requireWindowBounds value.windowPackets value.dataPayloadBytes .encode
  if value.checkpointIntervalBlocks = 0 then
    throw (invalidEncode "START_ACK checkpoint interval must be nonzero")
  let bytes ← encodeCommonFixed value.common ENCRYPTED_UPLOAD_V2_START_ACK 140
  let bytes := putFixed bytes 12 value.uploadSessionUuid
  let bytes := putFixed bytes 28 value.recordingUuid
  let bytes := putU32 bytes 44 value.recordingGeneration
  let bytes := putU64 bytes 48 value.ciphertextLength
  let bytes := putFixed bytes 56 value.ciphertextSha256
  let bytes := putU16 bytes 88 value.windowPackets
  let bytes := putU16 bytes 90 value.dataPayloadBytes
  let bytes := putU32 bytes 92 value.checkpointIntervalBlocks
  let bytes := putU32 bytes 96 value.checkpointRevision
  let bytes := putU64 bytes 100 value.nextCiphertextOffset
  return putFixed bytes 108 value.prefixSha256

def encodeData (common : CommonHeaderV2) (sequence : UInt32) (offset : UInt64)
    (data : List UInt8) : Except DeviceSdkError (List UInt8) := do
  if data.isEmpty then throw (invalidEncode "DATA payload must not be empty")
  let payloadLength ← u16TryFrom data.length (payloadTooLarge .encode "DATA payload length")
  if 2 ^ 64 ≤ offset.toNat + payloadLength.toNat then
    throw (payloadTooLarge .encode "DATA ciphertext range")
  let length := checkedFrameLength 28 data.length 1
  ensureFrameLimit length .encode
  let bytes ← encodeCommonFixed common ENCRYPTED_UPLOAD_V2_DATA length
  let bytes := putU32 bytes 12 sequence
  let bytes := putU64 bytes 16 offset
  let bytes := putU16 bytes 24 payloadLength
  return put bytes 28 data

def encodeWindowEnd (value : WindowEndV2) : Except DeviceSdkError (List UInt8) := do
  if value.lastSequence < value.firstSequence then
    throw (invalidEncode "WINDOW_END first sequence exceeds last sequence")
  let bytes ← encodeCommonFixed value.common ENCRYPTED_UPLOAD_V2_WINDOW_END 68
  let bytes := putU32 bytes 12 value.windowIndex
  let bytes := putU32 bytes 16 value.firstSequence
  let bytes := putU32 bytes 20 value.lastSequence
  let bytes := putU64 bytes 24 value.nextCiphertextOffset
  let bytes := putFixed bytes 32 value.prefixSha256
  return putU32 bytes 64 value.checkpointRevision

def encodeWindowAck (value : WindowAckV2) : Except DeviceSdkError (List UInt8) := do
  let count ← u16TryFrom value.missingSequences.length
    (payloadTooLarge .encode "WINDOW_ACK missing sequence count")
  let length := checkedFrameLength 68 value.missingSequences.length 4
  ensureFrameLimit length .encode
  let bytes ← encodeCommonFixed value.common ENCRYPTED_UPLOAD_V2_WINDOW_ACK length
  let bytes := putU32 bytes 12 value.windowIndex
  let bytes := putU32 bytes 16 value.highestContiguousSequence
  let bytes := putU64 bytes 20 value.nextCiphertextOffset
  let bytes := putFixed bytes 28 value.prefixSha256
  let bytes := putU32 bytes 60 value.checkpointRevision
  let bytes := putU16 bytes 64 count
  return value.missingSequences.zipIdx.foldl
    (fun bytes entry => putU32 bytes (68 + entry.2 * 4) entry.1) bytes

def encodeManifestChunk (value : ManifestChunkV2) : Except DeviceSdkError (List UInt8) := do
  if value.totalManifestLength.toNat ≠ UPLOAD_MANIFEST_V2_FIXED_LENGTH then
    throw (invalidEncode "manifest total length is not canonical")
  if value.chunk.isEmpty then throw (invalidEncode "MANIFEST_CHUNK must not be empty")
  let chunkLength ← u16TryFrom value.chunk.length
    (payloadTooLarge .encode "MANIFEST_CHUNK length")
  if value.totalManifestLength.toNat < value.chunkOffset.toNat + value.chunk.length then
    throw (payloadTooLarge .encode "MANIFEST_CHUNK exceeds manifest length")
  let length := checkedFrameLength 52 value.chunk.length 1
  ensureFrameLimit length .encode
  let bytes ← encodeCommonFixed value.common ENCRYPTED_UPLOAD_V2_MANIFEST_CHUNK length
  let bytes := putU16 bytes 12 value.totalManifestLength
  let bytes := putU16 bytes 14 value.chunkOffset
  let bytes := putU16 bytes 16 chunkLength
  let bytes := putFixed bytes 20 value.manifestSha256
  return put bytes 52 value.chunk

def encodeEof (value : EofV2) : Except DeviceSdkError (List UInt8) := do
  let bytes ← encodeCommonFixed value.common ENCRYPTED_UPLOAD_V2_EOF 92
  let bytes := putU32 bytes 12 value.finalSequence
  let bytes := putU32 bytes 16 value.blockCount
  let bytes := putU64 bytes 20 value.ciphertextLength
  let bytes := putFixed bytes 28 value.ciphertextSha256
  return putFixed bytes 60 value.manifestSha256

def encodeResume (value : ResumeV2) (accepted : Bool) : Except DeviceSdkError (List UInt8) := do
  requireWindowBounds value.windowPackets value.dataPayloadBytes .encode
  let message := if accepted then ENCRYPTED_UPLOAD_V2_RESUME_ACCEPT
    else ENCRYPTED_UPLOAD_V2_RESUME_REQUEST
  let bytes ← encodeCommonFixed value.common message 96
  let bytes := putFixed bytes 12 value.uploadSessionUuid
  let bytes := putFixed bytes 28 value.recordingUuid
  let bytes := putU32 bytes 44 value.recordingGeneration
  let bytes := putU32 bytes 48 value.checkpointRevision
  let bytes := putU64 bytes 52 value.nextCiphertextOffset
  let bytes := putFixed bytes 60 value.prefixSha256
  let bytes := putU16 bytes 92 value.windowPackets
  return putU16 bytes 94 value.dataPayloadBytes

def encodeResumeReject (value : ResumeRejectV2) : Except DeviceSdkError (List UInt8) := do
  let bytes ← encodeCommonFixed value.common ENCRYPTED_UPLOAD_V2_RESUME_REJECT 60
  let bytes := putU16 bytes 12 value.reason
  let bytes := putU32 bytes 16 value.checkpointRevision
  let bytes := putU64 bytes 20 value.nextCiphertextOffset
  return putFixed bytes 28 value.prefixSha256

def encodeConfirm (value : ConfirmV2) : Except DeviceSdkError (List UInt8) := do
  let bytes ← encodeCommonFixed value.common ENCRYPTED_UPLOAD_V2_CONFIRM 84
  let bytes := putFixed bytes 12 value.uploadSessionUuid
  let bytes := putFixed bytes 28 value.recordingUuid
  let bytes := putU32 bytes 44 value.recordingGeneration
  let bytes := putU32 bytes 48 value.ownerRevision
  return putFixed bytes 52 value.receiptSha256

def encodeEncryptedUploadV2Transfer :
    EncryptedUploadV2Transfer → Except DeviceSdkError (List UInt8)
  | .list common => encodeCommonFixed common ENCRYPTED_UPLOAD_V2_LIST 16
  | .markedList common => do
    let bytes ← encodeCommonFixed common ENCRYPTED_UPLOAD_V2_LIST 16
    return putU32 bytes 12 1
  | .markerChunk value => encodeMarkerChunk value
  | .recordingEntry value => encodeRecordingEntry value
  | .recordingListEnd common count listRevision listSha256 => do
    let bytes ← encodeCommonFixed common ENCRYPTED_UPLOAD_V2_RECORDING_LIST_END 52
    let bytes := putU32 bytes 12 count
    let bytes := putU32 bytes 16 listRevision
    return putFixed bytes 20 listSha256
  | .start value => encodeStart value
  | .startAck value => encodeStartAck value
  | .data common sequence offset data => encodeData common sequence offset data
  | .windowEnd value => encodeWindowEnd value
  | .windowAck value => encodeWindowAck value
  | .manifestChunk value => encodeManifestChunk value
  | .eof value => encodeEof value
  | .resumeRequest value => encodeResume value false
  | .resumeAccept value => encodeResume value true
  | .resumeReject value => encodeResumeReject value
  | .confirm value => encodeConfirm value
  | .abort common reason => do
    let bytes ← encodeCommonFixed common ENCRYPTED_UPLOAD_V2_ABORT 16
    return putU16 bytes 12 reason
  | .error common result failedMessageType checkpointRevision => do
    let bytes ← encodeCommonFixed common ENCRYPTED_UPLOAD_V2_ERROR 20
    let bytes := putU16 bytes 12 result
    let bytes := putU8 bytes 14 failedMessageType
    return putU32 bytes 16 checkpointRevision

end TransferV2

end BotaSdk
