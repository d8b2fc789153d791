import BotaSdk.Protocol.EncryptedUploadV2Frames

/-!
# Recording marker documents (`protocol/recording_markers.rs`)

The visible header of a document and the assembler of its fragments.  An allocation that fails is
not modelled.
-/

namespace BotaSdk

namespace Protocol

/-- `BOTAMRK1` -/
def RECORDING_MARKER_MAGIC : List UInt8 := [0x42, 0x4F, 0x54, 0x41, 0x4D, 0x52, 0x4B, 0x31]
def RECORDING_MARKER_REQUEST : UInt16 := 0x0001
def RECORDING_MARKER_SEAL : UInt16 := 0x0002
def RECORDING_MARKER_PAGE : UInt16 := 0x0003
def RECORDING_MARKER_ACK : UInt16 := 0x1001
def RECORDING_MARKER_COMPLETION : UInt16 := 0x1002
def RECORDING_MARKER_AUTHORIZATION : UInt16 := 0x1003
def RECORDING_MARKER_HEADER_LENGTH : Nat := 64
def RECORDING_MARKER_HEADER_REQUEST_UUID_OFFSET : Nat := 16
def RECORDING_MARKER_HEADER_CONTEXT_DIGEST_OFFSET : Nat := 32
def RECORDING_MARKER_REQUEST_LENGTH : Nat := 228
def RECORDING_MARKER_SEAL_LENGTH : Nat := 200
def RECORDING_MARKER_PAGE_OVERHEAD : Nat := 216
def RECORDING_MARKER_ACK_LENGTH : Nat := 208
def RECORDING_MARKER_COMPLETION_LENGTH : Nat := 296
def RECORDING_MARKER_AUTHORIZATION_LENGTH : Nat := 280

end Protocol

open Protocol

structure MarkerDocumentHeader where
  kind : UInt16
  totalLength : UInt32
  requestUuid : FixedBytes 16
  contextDigest : FixedBytes 32
  deriving DecidableEq

namespace RecordingMarkers

def invalid : DeviceSdkError :=
  (DeviceSdkError.new .invalidInput .decode false).withDetail "invalid recording marker document"

def require (valid : Prop) [Decidable valid] : Except DeviceSdkError Unit :=
  if valid then .ok () else .error invalid

/-- The length that a document of `kind` must have, when it has `length` bytes. -/
def requiredLength (kind : UInt16) (length : Nat) : Except DeviceSdkError Nat :=
  if kind = RECORDING_MARKER_REQUEST then .ok RECORDING_MARKER_REQUEST_LENGTH
  else if kind = RECORDING_MARKER_SEAL then .ok RECORDING_MARKER_SEAL_LENGTH
  else if kind = RECORDING_MARKER_PAGE ∧ RECORDING_MARKER_PAGE_OVERHEAD < length then .ok length
  else if kind = RECORDING_MARKER_ACK then .ok RECORDING_MARKER_ACK_LENGTH
  else if kind = RECORDING_MARKER_COMPLETION then .ok RECORDING_MARKER_COMPLETION_LENGTH
  else if kind = RECORDING_MARKER_AUTHORIZATION then .ok RECORDING_MARKER_AUTHORIZATION_LENGTH
  else .error invalid

def decodeMarkerDocumentHeader (bytes : List UInt8) (localMaxFrame : UInt32) :
    Except DeviceSdkError MarkerDocumentHeader := do
  require (bytes.length ≤ localMaxFrame.toNat)
  Cursor.require bytes RECORDING_MARKER_HEADER_LENGTH
  let magic ← Cursor.slice bytes 0 8
  let version ← TransferV2.u16 bytes 8
  require (magic = RECORDING_MARKER_MAGIC ∧ version = 1)
  let kind ← TransferV2.u16 bytes 10
  let totalLength ← TransferV2.u32 bytes 12
  require (totalLength.toNat = bytes.length)
  let required ← requiredLength kind bytes.length
  require (bytes.length = required)
  let requestUuid ← TransferV2.fixed 16 bytes RECORDING_MARKER_HEADER_REQUEST_UUID_OFFSET
  require (requestUuid ≠ FixedBytes.replicate 16 0)
  let contextDigest ← TransferV2.fixed 32 bytes RECORDING_MARKER_HEADER_CONTEXT_DIGEST_OFFSET
  return { kind, totalLength, requestUuid, contextDigest }

theorem require_eq_ok {valid : Prop} [Decidable valid] {u : Unit} :
    require valid = .ok u ↔ valid := by
  by_cases h : valid
  · rw [require, if_pos h]
    exact ⟨fun _ => h, fun _ => rfl⟩
  · rw [require, if_neg h]
    exact ⟨fun hok => (nomatch hok), fun hvalid => absurd hvalid h⟩

/-- What a document with a header has. -/
structure HeaderOf (bytes : List UInt8) (localMaxFrame : UInt32) (header : MarkerDocumentHeader) :
    Prop where
  frame : bytes.length ≤ localMaxFrame.toNat
  minimum : RECORDING_MARKER_HEADER_LENGTH ≤ bytes.length
  required : requiredLength header.kind bytes.length = .ok bytes.length
  requestUuid : Layout.field bytes RECORDING_MARKER_HEADER_REQUEST_UUID_OFFSET 16 =
    header.requestUuid.1
  nonzero : header.requestUuid ≠ FixedBytes.replicate 16 0
  contextDigest : Layout.field bytes RECORDING_MARKER_HEADER_CONTEXT_DIGEST_OFFSET 32 =
    header.contextDigest.1

theorem headerOf_decode {bytes : List UInt8} {localMaxFrame : UInt32}
    {header : MarkerDocumentHeader}
    (h : decodeMarkerDocumentHeader bytes localMaxFrame = .ok header) :
    HeaderOf bytes localMaxFrame header := by
  simp only [decodeMarkerDocumentHeader, Checked.bind_eq_ok, require_eq_ok, Checked.pure_eq_ok,
    TransferV2.require_eq_ok, TransferV2.fixed_eq_ok (n := 16) (by decide),
    TransferV2.fixed_eq_ok (n := 32) (by decide), exists_const] at h
  obtain ⟨hframe, hminimum, -, -, -, -, -, kind, -, totalLength, -, -, required, hrequired, hlength,
    requestUuid, hrequest, hnonzero, contextDigest, hcontext, rfl⟩ := h
  rw [← hlength] at hrequired
  exact ⟨hframe, hminimum, hrequired, hrequest, hnonzero, hcontext⟩

theorem HeaderOf.seal {bytes : List UInt8} {localMaxFrame : UInt32} {header : MarkerDocumentHeader}
    (h : HeaderOf bytes localMaxFrame header) (hkind : header.kind = RECORDING_MARKER_SEAL) :
    bytes.length = RECORDING_MARKER_SEAL_LENGTH := by
  have hrequired := h.required
  rw [hkind] at hrequired
  exact (Except.ok.inj hrequired).symm

theorem HeaderOf.page {bytes : List UInt8} {localMaxFrame : UInt32} {header : MarkerDocumentHeader}
    (h : HeaderOf bytes localMaxFrame header) (hkind : header.kind = RECORDING_MARKER_PAGE) :
    RECORDING_MARKER_PAGE_OVERHEAD < bytes.length := by
  have hrequired := h.required
  rw [hkind] at hrequired
  by_contra hshort
  have herror : requiredLength RECORDING_MARKER_PAGE bytes.length = .error invalid := by
    unfold requiredLength
    rw [if_neg (by decide), if_neg (by decide), if_neg (fun hpage => hshort hpage.2),
      if_neg (by decide), if_neg (by decide), if_neg (by decide)]
  exact nomatch herror.symm.trans hrequired

end RecordingMarkers

/-! ## The assembler -/

/-- Reassembly never verifies a signature, decrypts data, emits "saved", or authorizes cleanup. -/
structure MarkerDocumentAssembler where
  connectionGeneration : UInt64
  transferId : Nat
  expectedKind : UInt16
  expectedLength : Nat
  localMaxFrame : UInt32
  requestUuid : FixedBytes 16
  contextDigest : FixedBytes 32
  bytes : List UInt8
  complete : Bool
  failed : Bool
  deriving DecidableEq

namespace MarkerDocumentAssembler

open RecordingMarkers

def new (connectionGeneration : UInt64) (transferId : Nat) (expectedKind : UInt16)
    (expectedLength localMaxFrame : UInt32) (requestUuid : FixedBytes 16)
    (contextDigest : FixedBytes 32) : Except DeviceSdkError MarkerDocumentAssembler := do
  require (connectionGeneration ≠ 0 ∧ transferId ≠ 0 ∧ requestUuid ≠ FixedBytes.replicate 16 0 ∧
    expectedKind ∈ [RECORDING_MARKER_REQUEST, RECORDING_MARKER_SEAL, RECORDING_MARKER_PAGE,
      RECORDING_MARKER_ACK, RECORDING_MARKER_COMPLETION, RECORDING_MARKER_AUTHORIZATION] ∧
    RECORDING_MARKER_HEADER_LENGTH ≤ expectedLength.toNat ∧ expectedLength ≤ localMaxFrame)
  return {
    connectionGeneration, transferId, expectedKind, expectedLength := expectedLength.toNat,
    localMaxFrame, requestUuid, contextDigest, bytes := [], complete := false, failed := false }

variable (self : MarkerDocumentAssembler)

/-- The check of the whole document. -/
def verify (bytes : List UInt8) : Except DeviceSdkError Unit := do
  let header ← decodeMarkerDocumentHeader bytes self.localMaxFrame
  require (header.kind = self.expectedKind ∧ header.requestUuid = self.requestUuid ∧
    header.contextDigest = self.contextDigest)

def push (connectionGeneration : UInt64) (transferId offset : Nat) (fragment : List UInt8) :
    MarkerDocumentAssembler × Except DeviceSdkError Bool :=
  let start := offset
  let stop := start + fragment.length
  if ¬(!self.failed ∧ connectionGeneration = self.connectionGeneration ∧
      transferId = self.transferId ∧ fragment ≠ []) then (self, .error invalid)
  else if self.expectedLength < stop then (self, .error invalid)
  else if start < self.bytes.length then
    if stop ≤ self.bytes.length ∧ (self.bytes.drop start).take (stop - start) = fragment then
      (self, .ok self.complete)
    else (self, .error invalid)
  else if ¬(start = self.bytes.length ∧ !self.complete) then (self, .error invalid)
  else
    let bytes := self.bytes ++ fragment
    if bytes.length = self.expectedLength then
      match self.verify bytes with
      | .error error => ({ self with bytes := [], failed := true }, .error error)
      | .ok () => ({ self with bytes, complete := true }, .ok true)
    else ({ self with bytes }, .ok self.complete)

def document : Option (List UInt8) :=
  if self.complete ∧ !self.failed then some self.bytes else none

/-- Everything a push can do. -/
inductive PushStep (offset : Nat) (fragment : List UInt8) :
    MarkerDocumentAssembler × Except DeviceSdkError Bool → Prop
  | refused (next : MarkerDocumentAssembler) (error : DeviceSdkError) :
      PushStep offset fragment (next, .error error)
  | replayed : fragment ≠ [] → offset + fragment.length ≤ self.bytes.length →
      (self.bytes.drop offset).take fragment.length = fragment →
      PushStep offset fragment (self, .ok self.complete)
  | appended : fragment ≠ [] → self.complete = false → offset = self.bytes.length →
      offset + fragment.length < self.expectedLength →
      PushStep offset fragment ({ self with bytes := self.bytes ++ fragment }, .ok self.complete)
  | completed : fragment ≠ [] → self.complete = false → offset = self.bytes.length →
      offset + fragment.length = self.expectedLength →
      self.verify (self.bytes ++ fragment) = .ok () →
      PushStep offset fragment
        ({ self with bytes := self.bytes ++ fragment, complete := true }, .ok true)

theorem push_cases (connectionGeneration : UInt64) (transferId offset : Nat)
    (fragment : List UInt8) :
    PushStep self offset fragment (self.push connectionGeneration transferId offset fragment) := by
  unfold push
  dsimp only
  split
  · exact .refused _ _
  next hadmitted =>
  have hfragment : fragment ≠ [] := (not_not.mp hadmitted).2.2.2
  split
  · exact .refused _ _
  next hroom =>
  rw [Nat.not_lt] at hroom
  split
  · split
    · next hreplay =>
      rw [Nat.add_sub_cancel_left] at hreplay
      exact .replayed hfragment hreplay.1 hreplay.2
    · exact .refused _ _
  split
  · exact .refused _ _
  next hnext =>
  obtain ⟨hoffset, hcomplete⟩ := not_not.mp hnext
  have hcomplete : self.complete = false := by simpa using hcomplete
  have hlength : (self.bytes ++ fragment).length = offset + fragment.length := by
    rw [List.length_append, hoffset]
  split
  · next hfull =>
    split
    · exact .refused _ _
    · next hverify => exact .completed hfragment hcomplete hoffset (hlength ▸ hfull) hverify
  · next hmore =>
    exact .appended hfragment hcomplete hoffset (by omega)

/-- A fragment at the end of what was received. -/
theorem push_next {offset : Nat} {fragment : List UInt8} (hfailed : self.failed = false)
    (hcomplete : self.complete = false) (hfragment : fragment ≠ []) (hoffset : offset = self.bytes.length)
    (hroom : offset + fragment.length ≤ self.expectedLength)
    (hverify : offset + fragment.length = self.expectedLength →
      self.verify (self.bytes ++ fragment) = .ok ()) :
    self.push self.connectionGeneration self.transferId offset fragment =
      ({ self with
          bytes := self.bytes ++ fragment
          complete := decide (offset + fragment.length = self.expectedLength) },
        .ok (decide (offset + fragment.length = self.expectedLength))) := by
  have hlength : (self.bytes ++ fragment).length = offset + fragment.length := by
    rw [List.length_append, hoffset]
  unfold push
  dsimp only
  rw [if_neg (not_not.mpr ⟨by rw [hfailed]; rfl, rfl, rfl, hfragment⟩),
    if_neg (Nat.not_lt.mpr hroom), if_neg (by omega),
    if_neg (not_not.mpr ⟨hoffset, by rw [hcomplete]; rfl⟩), hlength]
  by_cases hwhole : offset + fragment.length = self.expectedLength
  · rw [if_pos hwhole, hverify hwhole, decide_eq_true hwhole]
  · rw [if_neg hwhole, decide_eq_false hwhole, hcomplete]

/-- A fragment that stands in what was received. -/
theorem push_again {offset : Nat} {fragment : List UInt8} (hfailed : self.failed = false)
    (hfragment : fragment ≠ []) (hroom : offset + fragment.length ≤ self.bytes.length)
    (hbound : self.bytes.length ≤ self.expectedLength)
    (hstands : (self.bytes.drop offset).take fragment.length = fragment) :
    self.push self.connectionGeneration self.transferId offset fragment =
      (self, .ok self.complete) := by
  have hpositive := List.length_pos_iff.mpr hfragment
  unfold push
  dsimp only
  rw [if_neg (not_not.mpr ⟨by rw [hfailed]; rfl, rfl, rfl, hfragment⟩), if_neg (by omega),
    if_pos (by omega), Nat.add_sub_cancel_left, if_pos ⟨hroom, hstands⟩]

/-- A fragment that disagrees with what was received. -/
theorem push_conflict {offset : Nat} {fragment : List UInt8} {connectionGeneration : UInt64}
    {transferId : Nat} (hinside : offset < self.bytes.length)
    (hconflict : (self.bytes.drop offset).take fragment.length ≠ fragment) :
    ∃ error, self.push connectionGeneration transferId offset fragment = (self, .error error) := by
  unfold push
  dsimp only
  split
  · exact ⟨_, rfl⟩
  split
  · exact ⟨_, rfl⟩
  rw [Nat.add_sub_cancel_left, if_neg (fun h => hconflict h.2)]
  exact ⟨_, rfl⟩

theorem new_eq_ok {connectionGeneration : UInt64} {transferId : Nat} {expectedKind : UInt16}
    {expectedLength localMaxFrame : UInt32} {requestUuid : FixedBytes 16}
    {contextDigest : FixedBytes 32} {assembler : MarkerDocumentAssembler}
    (h : new connectionGeneration transferId expectedKind expectedLength localMaxFrame requestUuid
      contextDigest = .ok assembler) :
    assembler = {
      connectionGeneration, transferId, expectedKind, expectedLength := expectedLength.toNat,
      localMaxFrame, requestUuid, contextDigest, bytes := [], complete := false, failed := false } := by
  rw [new, Checked.seq_eq_ok, Checked.pure_eq_ok] at h
  exact h.2.symm

end MarkerDocumentAssembler

end BotaSdk
