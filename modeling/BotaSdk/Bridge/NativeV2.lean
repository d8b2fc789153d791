import BotaSdk.Model.Identifiers
import BotaSdk.Protocol.EncryptedUploadV2Codec
import BotaSdk.Protocol.EncryptedUploadV2Context
import BotaSdk.Protocol.EncryptedUploadV2Receiver
import BotaSdk.Protocol.LocalWifi
import BotaSdk.Workflow.EncryptedUploadV2

/-!
# The plan of an encrypted upload (`device-sdk-js/src/native_v2.rs`)

`planEncryptedUploadV2Request` negotiates the bounds of a transfer from the capabilities and the
maximum write, and adopts those of a retained checkpoint.  Its subtractions are partial.
-/

namespace BotaSdk

namespace Protocol

def ENCRYPTED_UPLOAD_V2_START_ACK_FIXED_LENGTH : Nat := 140

end Protocol

open Protocol

namespace NativeV2

structure Recording where
  uuid : String
  generation : UInt32
  ciphertextLength : UInt64
  ciphertextSha256 : String
  startedAtMs : Option UInt64
  durationMs : Option UInt64
  plaintextLength : Option UInt64
  storageFormat : Option UInt8
  markersRequired : Option Bool
  deriving DecidableEq

structure Decision where
  profile : String
  uploadSessionId : String
  ownerRevision : UInt32
  securityPolicy : String
  materialRegistrationId : String
  deriving DecidableEq

structure NativeCheckpoint where
  version : UInt32
  uploadSessionId : String
  ownerRevision : UInt32
  revision : UInt32
  nextCiphertextOffset : UInt64
  prefixSha256 : String
  highestContiguousSequence : Option UInt32
  transportSessionId : UInt64
  sinkRegistrationId : String
  windowPackets : UInt16
  dataPayloadBytes : UInt16
  deriving DecidableEq

structure Plan where
  localWifi : Bool
  localWifiCapabilityBytes : List UInt8
  serialNumber : String
  recording : Recording
  capabilityBytes : List UInt8
  decision : Decision
  transportSessionId : UInt64
  sinkId : String
  maximumWriteBytes : UInt32
  checkpoint : Option NativeCheckpoint
  deriving DecidableEq

def invalid (detail : String) : DeviceSdkError :=
  (DeviceSdkError.new .invalidInput .validate false).withDetail detail

def transferError (code : ErrorCode) (detail : String) : DeviceSdkError :=
  (DeviceSdkError.new code .transferRecording false).withDetail detail

/-- `unhex32`. -/
def unhex32 (text : String) : Except DeviceSdkError (FixedBytes 32) :=
  match hexBytes text.toUTF8.toList with
  | some bytes =>
    if h : bytes.length = 32 then .ok ⟨bytes, h⟩
    else .error (invalid "encrypted upload SHA-256 must be exactly 32 hexadecimal bytes")
  | none => .error (invalid "encrypted upload SHA-256 must be exactly 32 hexadecimal bytes")

def i32Max : Nat := 2147483647

def validateNativeCheckpoint (checkpoint : NativeCheckpoint) : Except DeviceSdkError Unit := do
  let _ ← RecordingUuid.parse checkpoint.uploadSessionId
  let _ ← RecordingSinkId.new checkpoint.sinkRegistrationId
  let _ ← unhex32 checkpoint.prefixSha256
  if checkpoint.version ≠ 1 ∨ checkpoint.ownerRevision = 0 ∨
      i32Max < checkpoint.ownerRevision.toNat ∨ checkpoint.transportSessionId = 0 ∨
      checkpoint.windowPackets = 0 ∨ checkpoint.dataPayloadBytes = 0 ∨
      (checkpoint.revision == 0) ≠ (checkpoint.nextCiphertextOffset == 0) ∨
      checkpoint.highestContiguousSequence = some 0 then
    throw (invalid "encrypted upload native checkpoint shape is invalid")

/-! ## Negotiation -/

/-- The capabilities that the plan admits, and with local WiFi the link that it needs. -/
def admission (input : Plan) : Except DeviceSdkError EncryptedUploadV2Capabilities := do
  if input.localWifi then
    if input.checkpoint.isSome ∨ input.recording.markersRequired = some true then
      throw (invalid "local WiFi requires ordinary transfer without BLE checkpoint")
    let mtu := input.maximumWriteBytes.toNat + 3
    if 65535 < mtu then throw (invalid "invalid local WiFi ATT MTU")
    let _ ← LocalWifi.decodeLocalWifiCapabilities input.localWifiCapabilityBytes mtu
  else if ¬input.localWifiCapabilityBytes.isEmpty then
    throw (invalid "local capability requires explicit local WiFi selection")
  validateEncryptedUploadV2Admission input.capabilityBytes false

/-- `usize` subtraction, which an underflow stops. -/
def checkedSub (a b : Nat) : Outcome Nat :=
  if b ≤ a then .ok (a - b) else .panicked

structure Bounds where
  maximumWindow : Nat
  maximumData : Nat
  deriving DecidableEq

/-- The largest window and payload under the capabilities and the write limit. -/
def negotiate (capabilities : EncryptedUploadV2Capabilities) (maximumWriteBytes : Nat) :
    Outcome Bounds :=
  let maximumFrameBytes := min maximumWriteBytes MAX_MTU
  if maximumFrameBytes < ENCRYPTED_UPLOAD_V2_START_ACK_FIXED_LENGTH then
    .err (transferError .unsupportedCapability
      "encrypted upload negotiated frame cannot carry START_ACK")
  else
    match checkedSub maximumFrameBytes ENCRYPTED_UPLOAD_V2_WINDOW_ACK_MINIMUM_LENGTH,
        checkedSub maximumFrameBytes ENCRYPTED_UPLOAD_V2_DATA_MINIMUM_LENGTH with
    | .ok ackRoom, .ok dataRoom =>
      let missing := min capabilities.maximumMissingSequences (ackRoom / 4)
      let maximumWindow := min capabilities.maximumWindowPackets missing
      let maximumData := min capabilities.maximumDataPayloadBytes dataRoom
      if maximumWindow = 0 ∨ maximumData = 0 then
        .err (invalid "encrypted upload negotiated window is unusable")
      else .ok { maximumWindow, maximumData }
    | _, _ => .panicked

/-! ## The request -/

def policy (name : String) : Except DeviceSdkError UploadSecurityPolicy :=
  if name = "legacy_allowed" then .ok .legacyAllowed
  else if name = "v2_preferred" then .ok .v2Preferred
  else if name = "v2_required" then .ok .v2Required
  else .error (invalid "encrypted upload security policy is unknown")

/-- The request before a retained checkpoint is taken into account. -/
def freshRequest (input : Plan) (capabilities : EncryptedUploadV2Capabilities) (bounds : Bounds) :
    Except DeviceSdkError EncryptedUploadV2BatchRequest := do
  let policy ← policy input.decision.securityPolicy
  if input.decision.profile ≠ "encrypted_upload_v2" ∨ input.decision.ownerRevision = 0 ∨
      i32Max < input.decision.ownerRevision.toNat ∨ input.recording.generation = 0 then
    throw (invalid "encrypted upload profile decision or recording generation is invalid")
  return {
    localWifi := input.localWifi
    device := ← DeviceSerialNumber.new input.serialNumber
    recording := ← RecordingUuid.parse input.recording.uuid
    recordingGeneration := input.recording.generation.toNat
    storageFormat := (input.recording.storageFormat.map UInt8.toNat).getD STORAGE_FORMAT_BOTA_ENC_V2
    uploadSessionUuid := (← RecordingUuid.parse input.decision.uploadSessionId).bytes
    ownerRevision := input.decision.ownerRevision.toNat
    transportSessionId := input.transportSessionId.toNat
    materialId := ← HostMaterialId.new input.decision.materialRegistrationId
    sinkId := ← RecordingSinkId.new input.sinkId
    selection := { policy, profile := .encryptedUploadV2 }
    capabilities
    windowPackets := bounds.maximumWindow
    dataPayloadBytes := bounds.maximumData
    ciphertextLength := input.recording.ciphertextLength.toNat
    ciphertextSha256 := ← unhex32 input.recording.ciphertextSha256 }

def exceeds (value : Option UInt64) (limit : Nat) : Bool :=
  value.any fun value => limit < value.toNat

def checkMetadata (recording : Recording) (capabilities : EncryptedUploadV2Capabilities) :
    Except DeviceSdkError Unit := do
  if exceeds recording.startedAtMs 253402300799999 ∨ exceeds recording.durationMs 253402300799999 ∨
      exceeds recording.plaintextLength 9007199254740991 then
    throw (invalid "encrypted recording metadata exceeds its public range")
  if recording.markersRequired = some true ∧ capabilities.maximumSignedBlobBytes < 864 then
    throw (transferError .unsupportedCapability
      "marked admission exceeds negotiated signed document capacity")

/-- The request that a retained checkpoint turns the fresh one into. -/
def resume (bounds : Bounds) (request : EncryptedUploadV2BatchRequest)
    (checkpoint : NativeCheckpoint) : Except DeviceSdkError EncryptedUploadV2BatchRequest := do
  validateNativeCheckpoint checkpoint
  let checkpointSession := (← RecordingUuid.parse checkpoint.uploadSessionId).bytes
  if checkpointSession = request.uploadSessionUuid ∧
      checkpoint.ownerRevision.toNat = request.ownerRevision then
    if request.ciphertextLength < checkpoint.nextCiphertextOffset.toNat ∨
        bounds.maximumWindow < checkpoint.windowPackets.toNat ∨
        bounds.maximumData < checkpoint.dataPayloadBytes.toNat then
      throw (transferError .integrityFailed
        "resume checkpoint exceeds the selected recording or negotiated bounds")
    return { request with
      transportSessionId := checkpoint.transportSessionId.toNat
      sinkId := ← RecordingSinkId.new checkpoint.sinkRegistrationId
      windowPackets := checkpoint.windowPackets.toNat
      dataPayloadBytes := checkpoint.dataPayloadBytes.toNat }
  else if request.ownerRevision ≤ checkpoint.ownerRevision.toNat ∨
      checkpointSession = request.uploadSessionUuid then
    throw (transferError .identityMismatch
      "encrypted upload successor does not advance the exact owner")
  else return request

/-- The request with the checkpoint of the input, if it has one. -/
def adopt (bounds : Bounds) (request : EncryptedUploadV2BatchRequest) :
    Option NativeCheckpoint → Except DeviceSdkError EncryptedUploadV2BatchRequest
  | none => .ok request
  | some checkpoint => resume bounds request checkpoint

/-- `v2::validate_request`. -/
def validateRequest (request : EncryptedUploadV2BatchRequest) : Except DeviceSdkError Unit := do
  let _ ← DeviceSerialNumber.new request.device.value
  let _ ← HostMaterialId.new request.materialId.value
  let _ ← RecordingSinkId.new request.sinkId.value
  let _ ← EncryptedUploadV2BatchCoordinator.new request

def request (input : Plan) (capabilities : EncryptedUploadV2Capabilities) (bounds : Bounds) :
    Except DeviceSdkError EncryptedUploadV2BatchRequest := do
  let fresh ← freshRequest input capabilities bounds
  checkMetadata input.recording capabilities
  let planned ← adopt bounds fresh input.checkpoint
  validateRequest planned
  return planned

def plan (input : Plan) : Outcome EncryptedUploadV2BatchRequest :=
  match admission input with
  | .error error => .err error
  | .ok capabilities =>
    match negotiate capabilities input.maximumWriteBytes.toNat with
    | .err error => .err error
    | .panicked => .panicked
    | .ok bounds =>
      match request input capabilities bounds with
      | .error error => .err error
      | .ok request => .ok request

/-! ## What the negotiated bounds allow -/

/-- The codec encodes the message in at most `limit` bytes. -/
def Fits (limit : Nat) (message : EncryptedUploadV2Transfer) : Prop :=
  ∃ bytes, TransferV2.encodeEncryptedUploadV2Transfer message = .ok bytes ∧ bytes.length ≤ limit

/-- The largest frame that the write limit and the protocol allow. -/
def frameLimit (input : Plan) : Nat :=
  min input.maximumWriteBytes.toNat MAX_MTU

/-- The header of a message of a transfer. -/
def HeaderOf (request : EncryptedUploadV2BatchRequest) (code : UInt8) (common : CommonHeaderV2) :
    Prop :=
  common.messageType = code ∧ common.flags = 0 ∧
    common.transportSessionId.toNat = request.transportSessionId

/-- A receiver configured for a request, whose missing limit is the window. -/
def ReceiverOf (request : EncryptedUploadV2BatchRequest) (config : EncryptedUploadV2ReceiverConfig) :
    Prop :=
  config.transportSessionId.toNat = request.transportSessionId ∧
    config.expectedCiphertextLength.toNat = request.ciphertextLength ∧
    config.maximumDataPayloadBytes.toNat = request.dataPayloadBytes ∧
    config.maximumWindowPackets.toNat = request.windowPackets ∧
    config.maximumMissingSequences.toNat = request.windowPackets

/-- What the receiver asks of the checkpoint that it begins at. -/
def CheckpointOf (sha256 : List UInt8 → FixedBytes 32) (config : EncryptedUploadV2ReceiverConfig) :
    Prop :=
  config.checkpoint.nextCiphertextOffset ≤ config.expectedCiphertextLength ∧
    (config.checkpoint.nextCiphertextOffset == 0) =
      config.checkpoint.highestContiguousSequence.isNone ∧
    (config.checkpoint.nextCiphertextOffset == 0) = (config.checkpoint.revision == 0) ∧
    (config.checkpoint.nextCiphertextOffset = 0 → config.checkpoint.prefixSha256 =
      (EncryptedUploadV2ReceiverCheckpoint.initial sha256).prefixSha256)

/-- The request carries what is compared with a retained checkpoint when it is loaded. -/
structure Resumes (request : EncryptedUploadV2BatchRequest)
    (coordinator : EncryptedUploadV2BatchCoordinator) (checkpoint : NativeCheckpoint) : Prop where
  sink : request.sinkId.value = checkpoint.sinkRegistrationId
  session : request.transportSessionId = checkpoint.transportSessionId.toNat
  window : request.windowPackets = checkpoint.windowPackets.toNat
  payload : request.dataPayloadBytes = checkpoint.dataPayloadBytes.toNat
  offset : checkpoint.nextCiphertextOffset.toNat ≤ request.ciphertextLength
  usable : ∀ retained : EncryptedUploadV2Checkpoint, retained.device = request.device →
    retained.recording = request.recording →
    retained.recordingGeneration = request.recordingGeneration →
    retained.uploadSessionUuid = request.uploadSessionUuid →
    retained.ownerRevision = checkpoint.ownerRevision.toNat →
    retained.transportSessionId = checkpoint.transportSessionId.toNat →
    retained.nextCiphertextOffset = checkpoint.nextCiphertextOffset.toNat →
    retained.windowPackets = checkpoint.windowPackets.toNat →
    retained.dataPayloadBytes = checkpoint.dataPayloadBytes.toNat →
    coordinator.checkpointIsUsable retained = true

/-- The bounds of a planned request agree with everything that checks them again. -/
structure Consistent (input : Plan) (request : EncryptedUploadV2BatchRequest) : Prop where
  data : ∀ common sequence offset data, HeaderOf request ENCRYPTED_UPLOAD_V2_DATA common →
    data ≠ [] → data.length ≤ request.dataPayloadBytes → offset.toNat + data.length < 2 ^ 64 →
    Fits (frameLimit input) (.data common sequence offset data)
  windowAck : ∀ (value : WindowAckV2) (window : List UInt32),
    HeaderOf request ENCRYPTED_UPLOAD_V2_WINDOW_ACK value.common →
    window.length ≤ request.windowPackets → value.missingSequences.Sublist window →
    Fits (frameLimit input) (.windowAck value)
  missing : request.windowPackets ≤ request.capabilities.maximumMissingSequences
  receiver : ∀ sha256 config, ReceiverOf request config →
    ((∃ receiver, EncryptedUploadV2Receiver.new sha256 config = .ok receiver) ↔
      CheckpointOf sha256 config)
  coordinator : ∃ coordinator, EncryptedUploadV2BatchCoordinator.new request = .ok coordinator ∧
    ∀ checkpoint session, input.checkpoint = some checkpoint →
      RecordingUuid.parse checkpoint.uploadSessionId = .ok session →
      session.bytes = request.uploadSessionUuid →
      checkpoint.ownerRevision.toNat = request.ownerRevision →
      Resumes request coordinator checkpoint

/-- Bounds within the capabilities whose frames fit. -/
structure Allowed (capabilities : EncryptedUploadV2Capabilities) (limit : Nat) (bounds : Bounds) :
    Prop where
  window : bounds.maximumWindow ≤ capabilities.maximumWindowPackets
  missing : bounds.maximumWindow ≤ capabilities.maximumMissingSequences
  data : bounds.maximumData ≤ capabilities.maximumDataPayloadBytes
  ackFits : 68 + 4 * bounds.maximumWindow ≤ limit
  dataFits : 28 + bounds.maximumData ≤ limit

theorem checkedSub_ok {a b : Nat} (h : b ≤ a) : checkedSub a b = .ok (a - b) :=
  if_pos h

/-- The frame that can carry START_ACK leaves room for the others. -/
theorem negotiate_cases (capabilities : EncryptedUploadV2Capabilities) (maximumWriteBytes : Nat) :
    (∃ error, negotiate capabilities maximumWriteBytes = .err error) ∨
    ∃ bounds, negotiate capabilities maximumWriteBytes = .ok bounds ∧
      Allowed capabilities (min maximumWriteBytes MAX_MTU) bounds := by
  unfold negotiate
  by_cases hframe : min maximumWriteBytes MAX_MTU < ENCRYPTED_UPLOAD_V2_START_ACK_FIXED_LENGTH
  · exact .inl ⟨_, if_pos hframe⟩
  · simp only [if_neg hframe]
    rw [ENCRYPTED_UPLOAD_V2_START_ACK_FIXED_LENGTH] at hframe
    generalize min maximumWriteBytes MAX_MTU = limit at hframe ⊢
    have hack : checkedSub limit ENCRYPTED_UPLOAD_V2_WINDOW_ACK_MINIMUM_LENGTH =
        .ok (limit - 68) := checkedSub_ok (by rw [ENCRYPTED_UPLOAD_V2_WINDOW_ACK_MINIMUM_LENGTH]; omega)
    have hdata : checkedSub limit ENCRYPTED_UPLOAD_V2_DATA_MINIMUM_LENGTH =
        .ok (limit - 28) := checkedSub_ok (by rw [ENCRYPTED_UPLOAD_V2_DATA_MINIMUM_LENGTH]; omega)
    rw [hack, hdata]
    simp only
    split
    · exact .inl ⟨_, rfl⟩
    · refine .inr ⟨_, rfl, ?_, ?_, ?_, ?_, ?_⟩ <;> simp only <;> omega

/-! ## The planned request -/

section Planned

variable {input : Plan} {capabilities : EncryptedUploadV2Capabilities} {bounds : Bounds}
  {fresh planned : EncryptedUploadV2BatchRequest} {checkpoint : NativeCheckpoint}
  {coordinator : EncryptedUploadV2BatchCoordinator}

theorem freshRequest_spec (h : freshRequest input capabilities bounds = .ok fresh) :
    fresh.capabilities = capabilities ∧ fresh.windowPackets = bounds.maximumWindow ∧
      fresh.dataPayloadBytes = bounds.maximumData := by
  obtain ⟨policy, -, h⟩ := Checked.bind_eq_ok.mp h
  replace h := (Checked.guard_eq_ok.mp h).2
  obtain ⟨device, -, h⟩ := Checked.bind_eq_ok.mp h
  obtain ⟨recording, -, h⟩ := Checked.bind_eq_ok.mp h
  obtain ⟨session, -, h⟩ := Checked.bind_eq_ok.mp h
  obtain ⟨materialId, -, h⟩ := Checked.bind_eq_ok.mp h
  obtain ⟨sinkId, -, h⟩ := Checked.bind_eq_ok.mp h
  obtain ⟨ciphertextSha256, -, h⟩ := Checked.bind_eq_ok.mp h
  obtain rfl := Checked.pure_eq_ok.mp h
  exact ⟨rfl, rfl, rfl⟩

/-- The fresh request took the values of a retained checkpoint. -/
structure Adopts (bounds : Bounds) (fresh planned : EncryptedUploadV2BatchRequest)
    (checkpoint : NativeCheckpoint) : Prop where
  offset : checkpoint.nextCiphertextOffset.toNat ≤ fresh.ciphertextLength
  window : checkpoint.windowPackets.toNat ≤ bounds.maximumWindow
  payload : checkpoint.dataPayloadBytes.toNat ≤ bounds.maximumData
  planned_eq : planned = { fresh with
    transportSessionId := checkpoint.transportSessionId.toNat
    sinkId := ⟨checkpoint.sinkRegistrationId⟩
    windowPackets := checkpoint.windowPackets.toNat
    dataPayloadBytes := checkpoint.dataPayloadBytes.toNat }

/-- A checkpoint is adopted when its session and owner are the request's, and else leaves it. -/
theorem resume_spec (h : resume bounds fresh checkpoint = .ok planned) :
    Adopts bounds fresh planned checkpoint ∨
    planned = fresh ∧ ∀ session, RecordingUuid.parse checkpoint.uploadSessionId = .ok session →
      ¬(session.bytes = fresh.uploadSessionUuid ∧
        checkpoint.ownerRevision.toNat = fresh.ownerRevision) := by
  obtain ⟨-, h⟩ := Checked.seq_eq_ok.mp h
  obtain ⟨session, hsession, h⟩ := Checked.bind_eq_ok.mp h
  by_cases hsame : session.bytes = fresh.uploadSessionUuid ∧
      checkpoint.ownerRevision.toNat = fresh.ownerRevision
  · rw [if_pos hsame] at h
    obtain ⟨hbounds, h⟩ := Checked.guard_eq_ok.mp h
    obtain ⟨sinkId, hsink, h⟩ := Checked.bind_eq_ok.mp h
    obtain ⟨-, hsink⟩ := Checked.seq_eq_ok.mp hsink
    obtain rfl := Checked.pure_eq_ok.mp hsink
    obtain rfl := Checked.pure_eq_ok.mp h
    exact .inl ⟨by omega, by omega, by omega, rfl⟩
  · rw [if_neg hsame] at h
    right
    split at h
    · exact nomatch h
    · obtain rfl := Checked.pure_eq_ok.mp h
      refine ⟨rfl, fun other hother => ?_⟩
      obtain rfl := Except.ok.inj (hsession.symm.trans hother)
      exact hsame

theorem coordinator_spec (h : EncryptedUploadV2BatchCoordinator.new planned = .ok coordinator) :
    coordinator.request = planned ∧ planned.transportSessionId ≠ 0 ∧ planned.windowPackets ≠ 0 ∧
      planned.dataPayloadBytes ≠ 0 ∧ planned.ciphertextLength ≠ 0 := by
  replace h := (Checked.guard_eq_ok.mp h).2
  obtain ⟨selection, -, h⟩ := Checked.bind_eq_ok.mp h
  obtain ⟨husable, h⟩ := Checked.guard_eq_ok.mp h
  obtain rfl := Checked.pure_eq_ok.mp h
  simp only [not_or, ENCRYPTED_UPLOAD_V2_STORAGE_HEADER_FIXED_LENGTH,
    ENCRYPTED_UPLOAD_V2_STORAGE_TRAILER_FIXED_LENGTH] at husable
  obtain ⟨-, hsession, -, hwindow, -, hpayload, -, hlength⟩ := husable
  exact ⟨rfl, hsession, hwindow, hpayload, by omega⟩

/-- A planned request keeps to the bounds, has a coordinator and resumes its checkpoint. -/
theorem request_spec (h : request input capabilities bounds = .ok planned) :
    planned.capabilities = capabilities ∧ planned.windowPackets ≤ bounds.maximumWindow ∧
      planned.dataPayloadBytes ≤ bounds.maximumData ∧
      ∃ coordinator, EncryptedUploadV2BatchCoordinator.new planned = .ok coordinator ∧
        ∀ checkpoint session, input.checkpoint = some checkpoint →
          RecordingUuid.parse checkpoint.uploadSessionId = .ok session →
          session.bytes = planned.uploadSessionUuid →
          checkpoint.ownerRevision.toNat = planned.ownerRevision →
          Resumes planned coordinator checkpoint := by
  obtain ⟨fresh, hfresh, h⟩ := Checked.bind_eq_ok.mp h
  obtain ⟨hcapabilities, hwindow, hpayload⟩ := freshRequest_spec hfresh
  obtain ⟨-, h⟩ := Checked.seq_eq_ok.mp h
  obtain ⟨planned', hplanned, h⟩ := Checked.bind_eq_ok.mp h
  obtain ⟨hvalid, h⟩ := Checked.seq_eq_ok.mp h
  obtain rfl := Checked.pure_eq_ok.mp h
  obtain ⟨device, -, hvalid⟩ := Checked.bind_eq_ok.mp hvalid
  obtain ⟨materialId, -, hvalid⟩ := Checked.bind_eq_ok.mp hvalid
  obtain ⟨sinkId, -, hvalid⟩ := Checked.bind_eq_ok.mp hvalid
  obtain ⟨coordinator, hcoordinator, -⟩ := Checked.bind_eq_ok.mp hvalid
  obtain ⟨hrequest, -⟩ := coordinator_spec hcoordinator
  cases hcheckpoint : input.checkpoint with
  | none =>
    rw [hcheckpoint] at hplanned
    obtain rfl := Except.ok.inj hplanned
    exact ⟨hcapabilities, hwindow.le, hpayload.le, coordinator, hcoordinator, nofun⟩
  | some checkpoint =>
    rw [hcheckpoint] at hplanned
    rcases resume_spec hplanned with ⟨hoffset, hfits, hcarries, rfl⟩ | ⟨rfl, hother⟩
    · refine ⟨hcapabilities, hfits, hcarries, coordinator, hcoordinator, ?_⟩
      intro checkpoint' session hsome _ _ howner
      obtain rfl := Option.some.inj hsome
      refine ⟨rfl, rfl, rfl, rfl, hoffset, ?_⟩
      intro retained hd hr hg hs ho ht hn hw hp
      simp only at hd hr hg hs howner
      simp [EncryptedUploadV2BatchCoordinator.checkpointIsUsable, hrequest, hd, hr, hg, hs, ho, ht,
        hn, hw, hp, howner, hoffset]
    · refine ⟨hcapabilities, hwindow.le, hpayload.le, coordinator, hcoordinator, ?_⟩
      intro checkpoint' session hsome hsession huuid howner
      obtain rfl := Option.some.inj hsome
      exact absurd ⟨huuid, howner⟩ (hother session hsession)

theorem HeaderOf.accepted {code : UInt8} {common : CommonHeaderV2}
    (h : HeaderOf planned code common) (hsession : planned.transportSessionId ≠ 0) :
    TransferV2.HeaderAccepted common code := by
  refine ⟨h.1, h.2.1, fun hzero => hsession ?_⟩
  rw [← h.2.2, hzero]
  rfl

/-- A message that the codec accepts fits when its fields do. -/
theorem fits_of_width {limit : Nat} {message : EncryptedUploadV2Transfer}
    (haccepted : TransferV2.Accepted message)
    (hwidth : Layout.width (TransferV2.frameFields message) ≤ limit) : Fits limit message :=
  ⟨_, TransferV2.encode_eq_ok.mpr ⟨haccepted, rfl⟩, hwidth⟩

theorem fits_data {limit : Nat} {common : CommonHeaderV2} {sequence : UInt32} {offset : UInt64}
    {data : List UInt8} (hlimit : limit ≤ MAX_MTU)
    (hheader : TransferV2.HeaderAccepted common ENCRYPTED_UPLOAD_V2_DATA) (hdata : data ≠ [])
    (hroom : 28 + data.length ≤ limit) (hrange : offset.toNat + data.length < 2 ^ 64) :
    Fits limit (.data common sequence offset data) := by
  refine fits_of_width ⟨hheader, hdata, by omega, hrange⟩ ?_
  simp only [TransferV2.frameFields, Layout.width_append, TransferV2.width_headerFields,
    Layout.width_cons, Layout.width_nil, Bytes.length_leBytes, List.length_cons, List.length_nil]
  omega

theorem fits_windowAck {limit : Nat} {value : WindowAckV2} (hlimit : limit ≤ MAX_MTU)
    (hheader : TransferV2.HeaderAccepted value.common ENCRYPTED_UPLOAD_V2_WINDOW_ACK)
    (hroom : 68 + 4 * value.missingSequences.length ≤ limit) : Fits limit (.windowAck value) := by
  refine fits_of_width ⟨hheader, by omega⟩ ?_
  simp only [TransferV2.frameFields, Layout.width_append, TransferV2.width_headerFields,
    Layout.width_cons, Layout.width_nil, Bytes.length_leBytes, List.length_cons, List.length_nil,
    TransferV2.width_sequences, value.prefixSha256.2]
  omega

/-- A receiver for the request refuses nothing but its checkpoint. -/
theorem receiver_iff {sha256 : List UInt8 → FixedBytes 32} {config : EncryptedUploadV2ReceiverConfig}
    (hnew : EncryptedUploadV2BatchCoordinator.new planned = .ok coordinator)
    (hwindow : 68 + 4 * planned.windowPackets ≤ MAX_MTU)
    (hpayload : 28 + planned.dataPayloadBytes ≤ MAX_MTU) (h : ReceiverOf planned config) :
    (∃ receiver, EncryptedUploadV2Receiver.new sha256 config = .ok receiver) ↔
      CheckpointOf sha256 config := by
  obtain ⟨-, hsession, hwindowed, hpaid, hlength⟩ := coordinator_spec hnew
  obtain ⟨hs, hl, hp, hw, hm⟩ := h
  have hnonzero16 {value : UInt16} (hvalue : value.toNat ≠ 0) : value ≠ 0 :=
    fun hzero => hvalue (by rw [hzero]; rfl)
  have hnonzero64 {value : UInt64} (hvalue : value.toNat ≠ 0) : value ≠ 0 :=
    fun hzero => hvalue (by rw [hzero]; rfl)
  have h1 : config.transportSessionId ≠ 0 := hnonzero64 (hs ▸ hsession)
  have h2 : config.expectedCiphertextLength ≠ 0 := hnonzero64 (hl ▸ hlength)
  have h3 : config.maximumDataPayloadBytes ≠ 0 := hnonzero16 (hp ▸ hpaid)
  have h4 : config.maximumWindowPackets ≠ 0 := hnonzero16 (hw ▸ hwindowed)
  have h5 : config.maximumMissingSequences ≠ 0 := hnonzero16 (hm ▸ hwindowed)
  have h6 : ¬MAX_MTU - ENCRYPTED_UPLOAD_V2_DATA_MINIMUM_LENGTH <
      config.maximumDataPayloadBytes.toNat := by
    rw [hp, ENCRYPTED_UPLOAD_V2_DATA_MINIMUM_LENGTH]
    omega
  have h7 : ¬(MAX_MTU - ENCRYPTED_UPLOAD_V2_WINDOW_ACK_MINIMUM_LENGTH) / 4 <
      config.maximumMissingSequences.toNat := by
    rw [hm, ENCRYPTED_UPLOAD_V2_WINDOW_ACK_MINIMUM_LENGTH]
    omega
  simp only [EncryptedUploadV2Receiver.new, h1, h2, h3, h4, h5, h6, h7, false_or, CheckpointOf]
  split
  · rename_i hbad
    simp only [reduceCtorEq, exists_false, false_iff]
    rintro ⟨hoffset, hhighest, hrevision, hdigest⟩
    rcases hbad with hbad | hbad | hbad | ⟨hzero, hbad⟩
    · exact absurd hoffset (UInt64.not_le.mpr hbad)
    · exact hbad hhighest
    · exact hbad hrevision
    · exact hbad (hdigest hzero)
  · rename_i hgood
    simp only [not_or, not_and, not_not, UInt64.not_lt, ne_eq] at hgood
    simp only [Except.ok.injEq, exists_eq', true_iff]
    exact hgood

/-- A plan never underflows, and the bounds that it chooses agree with the frames, the receiver and
the coordinator that check them again. -/
theorem plan_consistent (input : Plan) :
    plan input ≠ .panicked ∧ ∀ request, plan input = .ok request → Consistent input request := by
  rw [plan]
  cases hadmit : admission input with
  | error error => exact ⟨nofun, nofun⟩
  | ok capabilities =>
    simp only
    rcases negotiate_cases capabilities input.maximumWriteBytes.toNat with
      ⟨error, hnegotiate⟩ | ⟨bounds, hnegotiate, hallowed⟩
    · rw [hnegotiate]
      exact ⟨nofun, nofun⟩
    · rw [hnegotiate]
      simp only
      cases hrequest : request input capabilities bounds with
      | error error => exact ⟨nofun, nofun⟩
      | ok planned =>
        refine ⟨nofun, fun other hother => ?_⟩
        obtain rfl := Outcome.ok.inj hother
        obtain ⟨hcapabilities, hwindow, hpayload, coordinator, hnew, hresumes⟩ :=
          request_spec hrequest
        obtain ⟨-, hsession, -⟩ := coordinator_spec hnew
        have hack : 68 + 4 * bounds.maximumWindow ≤ frameLimit input := hallowed.ackFits
        have hdata : 28 + bounds.maximumData ≤ frameLimit input := hallowed.dataFits
        have hmtu : frameLimit input ≤ MAX_MTU := Nat.min_le_right _ _
        constructor
        · intro common sequence offset data hheader hnonempty hlength hrange
          exact fits_data hmtu (hheader.accepted hsession) hnonempty (by omega) hrange
        · intro value window hheader hlength hsub
          have hmissing := hsub.length_le
          exact fits_windowAck hmtu (hheader.accepted hsession) (by omega)
        · rw [hcapabilities]
          exact hwindow.trans hallowed.missing
        · exact fun sha256 config => receiver_iff hnew (by omega) (by omega)
        · exact ⟨coordinator, hnew, hresumes⟩

end Planned

/-! ## A resumed transfer -/

def samplePlan : Plan where
  localWifi := false
  localWifiCapabilityBytes := []
  serialNumber := "C8SU2XXWHI"
  recording := {
    uuid := "22222222-2222-2222-2222-222222222222"
    generation := 9
    ciphertextLength := 330
    ciphertextSha256 := "3333333333333333333333333333333333333333333333333333333333333333"
    startedAtMs := none
    durationMs := none
    plaintextLength := none
    storageFormat := none
    markersRequired := none }
  capabilityBytes := [1, 2, 24, 0, 127, 1, 0, 0, 0, 4, 0, 4, 244, 0, 16, 0, 8, 0, 0, 0, 16, 0, 0, 0]
  decision := {
    profile := "encrypted_upload_v2"
    uploadSessionId := "11111111-1111-1111-1111-111111111111"
    ownerRevision := 3
    securityPolicy := "v2_preferred"
    materialRegistrationId := "material" }
  transportSessionId := 18446744073709551615
  sinkId := "new-sink"
  maximumWriteBytes := 244
  checkpoint := some {
    version := 1
    uploadSessionId := "11111111-1111-1111-1111-111111111111"
    ownerRevision := 3
    revision := 2
    nextCiphertextOffset := 128
    prefixSha256 := "7777777777777777777777777777777777777777777777777777777777777777"
    highestContiguousSequence := some 1
    transportSessionId := 55
    sinkRegistrationId := "saved-sink"
    windowPackets := 8
    dataPayloadBytes := 100 }

def sampleRequest : EncryptedUploadV2BatchRequest where
  localWifi := false
  device := ⟨"C8SU2XXWHI"⟩
  recording := ⟨.replicate 16 0x22⟩
  recordingGeneration := 9
  storageFormat := 3
  uploadSessionUuid := .replicate 16 0x11
  ownerRevision := 3
  transportSessionId := 55
  materialId := ⟨"material"⟩
  sinkId := ⟨"saved-sink"⟩
  selection := { policy := .v2Preferred, profile := .encryptedUploadV2 }
  capabilities := {
    flags := 383
    maximumSignedBlobBytes := 1024
    maximumManifestBytes := 1024
    maximumDataPayloadBytes := 244
    maximumWindowPackets := 16
    durableCheckpointIntervalBlocks := 8
    maximumMissingSequences := 16 }
  windowPackets := 8
  dataPayloadBytes := 100
  ciphertextLength := 330
  ciphertextSha256 := .replicate 32 0x33

theorem plan_consistent_sample :
    plan samplePlan = .ok sampleRequest ∧ Consistent samplePlan sampleRequest := by
  have hplan : plan samplePlan = .ok sampleRequest := by decide +kernel
  exact ⟨hplan, (plan_consistent samplePlan).2 _ hplan⟩

end NativeV2

end BotaSdk
