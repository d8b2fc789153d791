import BotaSdk.Protocol.EncryptedUploadV2Codec
import BotaSdk.Protocol.ReceiverRequests

/-!
# Marker documents of the batch-v2 receiver

A document comes in contiguous chunks, with earlier chunks repeated before its last one.  Its first
bytes are kept as a part of the header, the rest by an assembler; the receiver hands out every document
once, in order.
-/

namespace BotaSdk.EncryptedUploadV2Receiver

open Protocol TransferV2 RecordingMarkers

/-! ## Deliveries -/

/-- Contiguous chunks of `document` up to `front`, with their offsets; earlier ones may come again
before the document is complete. -/
inductive Chunks (document : List UInt8) : List UInt8 → List (Nat × List UInt8) → Prop
  | nil : Chunks document [] []
  | next {front chunk : List UInt8} {chunks : List (Nat × List UInt8)} :
      Chunks document front chunks → chunk ≠ [] → front ++ chunk <+: document →
      Chunks document (front ++ chunk) (chunks ++ [(front.length, chunk)])
  | again {front : List UInt8} {chunks : List (Nat × List UInt8)} {piece : Nat × List UInt8} :
      Chunks document front chunks → front ≠ document → piece ∈ chunks →
      Chunks document front (chunks ++ [piece])

/-- `piece` stands in `front`. -/
def Stands (front : List UInt8) (piece : Nat × List UInt8) : Prop :=
  piece.2 ≠ [] ∧ piece.1 + piece.2.length ≤ front.length ∧
    (front.drop piece.1).take piece.2.length = piece.2

theorem Stands.append {front : List UInt8} {piece : Nat × List UInt8} (h : Stands front piece)
    (chunk : List UInt8) : Stands (front ++ chunk) piece := by
  obtain ⟨hne, hroom, hpiece⟩ := h
  refine ⟨hne, by rw [List.length_append]; omega, ?_⟩
  rw [List.drop_append_of_le_length (by omega), List.take_append_of_le_length
    (by rw [List.length_drop]; omega), hpiece]

theorem Chunks.front {document front : List UInt8} {chunks : List (Nat × List UInt8)}
    (h : Chunks document front chunks) : front <+: document := by
  induction h with
  | nil => exact List.nil_prefix
  | next _ _ hbegins _ => exact hbegins
  | again _ _ _ ih => exact ih

theorem Chunks.stands {document front : List UInt8} {chunks : List (Nat × List UInt8)}
    (h : Chunks document front chunks) : ∀ piece ∈ chunks, Stands front piece := by
  induction h with
  | nil => exact fun _ hmem => absurd hmem List.not_mem_nil
  | @next front chunk chunks _ hchunk _ ih =>
    intro piece hmem
    rcases List.mem_append.mp hmem with hmem | hmem
    · exact (ih piece hmem).append chunk
    · obtain rfl := List.mem_singleton.mp hmem
      exact ⟨hchunk, (List.length_append ..).ge, by simp⟩
  | again _ _ hagain ih =>
    intro piece hmem
    rcases List.mem_append.mp hmem with hmem | hmem
    · exact ih piece hmem
    · obtain rfl := List.mem_singleton.mp hmem
      exact ih _ hagain

/-- The last chunk of a document is no earlier one. -/
theorem Chunks.last {document front : List UInt8} {chunks : List (Nat × List UInt8)}
    (h : Chunks document front chunks) (hwhole : front = document) (hne : document ≠ []) :
    ∃ before chunk others, chunks = others ++ [(before.length, chunk)] ∧
      Chunks document before others ∧ chunk ≠ [] ∧ before ++ chunk = document := by
  cases h with
  | nil => exact absurd hwhole.symm hne
  | next hfront hchunk _ => exact ⟨_, _, _, rfl, hfront, hchunk, hwhole⟩
  | again _ hmore _ => exact absurd hwhole hmore

/-! ## Valid documents -/

/-- The kind of the document at an index: a seal, then pages. -/
def kindOf (index : Nat) : UInt16 :=
  if index = 0 then RECORDING_MARKER_SEAL else RECORDING_MARKER_PAGE

/-- A document of `context` for the slot of `index`. -/
def ValidDocument (context : FixedBytes 32) (index : Nat) (document : List UInt8)
    (header : MarkerDocumentHeader) : Prop :=
  decodeMarkerDocumentHeader document MAXIMUM_MARKER_DOCUMENT_BYTES = .ok header ∧
    header.kind = kindOf index ∧ header.contextDigest = context

section Documents

variable {sha256 : List UInt8 → FixedBytes 32} {context : FixedBytes 32} {index : Nat}
  {document front chunk : List UInt8} {header : MarkerDocumentHeader} {session : UInt64}

theorem ValidDocument.headerOf (h : ValidDocument context index document header) :
    HeaderOf document MAXIMUM_MARKER_DOCUMENT_BYTES header :=
  headerOf_decode h.1

theorem ValidDocument.length_le (h : ValidDocument context index document header) :
    document.length ≤ 402 :=
  h.headerOf.frame

theorem ValidDocument.le_length (h : ValidDocument context index document header) :
    200 ≤ document.length := by
  have hkind := h.2.1
  unfold kindOf at hkind
  split at hkind
  · exact (h.headerOf.seal hkind).ge
  · exact Nat.le_trans (by decide) (h.headerOf.page hkind).le

/-- The assembler of the document after `front`. -/
def assemblerOf (session : UInt64) (index : Nat) (document : List UInt8)
    (header : MarkerDocumentHeader) (front : List UInt8) : MarkerDocumentAssembler where
  connectionGeneration := session
  transferId := index + 1
  expectedKind := kindOf index
  expectedLength := document.length
  localMaxFrame := MAXIMUM_MARKER_DOCUMENT_BYTES
  requestUuid := header.requestUuid
  contextDigest := header.contextDigest
  bytes := front
  complete := decide (front.length = document.length)
  failed := false

theorem verify_assemblerOf (h : ValidDocument context index document header) :
    (assemblerOf session index document header front).verify document = .ok () := by
  unfold MarkerDocumentAssembler.verify
  rw [show (assemblerOf session index document header front).localMaxFrame =
    MAXIMUM_MARKER_DOCUMENT_BYTES from rfl, h.1]
  exact RecordingMarkers.require_eq_ok.mpr ⟨h.2.1, rfl, rfl⟩

/-- The next chunk of the document. -/
theorem assemblerOf_push_next (h : ValidDocument context index document header)
    (hchunk : chunk ≠ []) (hbegins : front ++ chunk <+: document) :
    (assemblerOf session index document header front).push session (index + 1) front.length chunk =
      (assemblerOf session index document header (front ++ chunk),
        .ok (decide ((front ++ chunk).length = document.length))) := by
  have hpositive := List.length_pos_iff.mpr hchunk
  have hroom := hbegins.length_le
  rw [List.length_append] at hroom
  have hcomplete : (assemblerOf session index document header front).complete = false :=
    decide_eq_false (by omega)
  have hstate : assemblerOf session index document header (front ++ chunk) =
      { assemblerOf session index document header front with
        bytes := front ++ chunk
        complete := decide (front.length + chunk.length = document.length) } := by
    unfold assemblerOf
    rw [List.length_append]
  rw [List.length_append, hstate]
  refine (assemblerOf session index document header front).push_next rfl hcomplete hchunk rfl hroom
    fun hwhole => ?_
  have hdocument : front ++ chunk = document :=
    hbegins.eq_of_length (by rw [List.length_append]; exact hwhole)
  rw [show (assemblerOf session index document header front).bytes ++ chunk = document from
    hdocument]
  exact verify_assemblerOf h

/-- A chunk that stands in what was received. -/
theorem assemblerOf_push_again {piece : Nat × List UInt8} (hbegins : front <+: document)
    (hmore : front ≠ document) (hpiece : Stands front piece) :
    (assemblerOf session index document header front).push session (index + 1) piece.1 piece.2 =
      (assemblerOf session index document header front, .ok false) := by
  have hcomplete : (assemblerOf session index document header front).complete = false :=
    decide_eq_false fun hlength => hmore (hbegins.eq_of_length hlength)
  rw [← hcomplete]
  exact MarkerDocumentAssembler.push_again _ rfl hpiece.1 hpiece.2.1 hbegins.length_le hpiece.2.2

/-! ## The slot of a document -/

/-- The slot of the document after `front`. -/
def slotOf (sha256 : List UInt8 → FixedBytes 32) (session : UInt64) (index : Nat)
    (document : List UInt8) (header : MarkerDocumentHeader) (front : List UInt8) : MarkerSlot where
  index
  length := UInt16.ofNat document.length
  sha256 := sha256 document
  header := if front.length < RECORDING_MARKER_HEADER_LENGTH then front else []
  assembler := if front.length < RECORDING_MARKER_HEADER_LENGTH then none
    else some (assemblerOf session index document header front)

/-- The chunk of the document at an offset. -/
def markerChunk (sha256 : List UInt8 → FixedBytes 32) (session : UInt64) (index count : Nat)
    (document : List UInt8) (piece : Nat × List UInt8) : MarkerChunkV2 where
  common := {
    messageType := ENCRYPTED_UPLOAD_V2_MARKER_CHUNK
    flags := 0
    transportSessionId := session }
  documentIndex := UInt32.ofNat index
  documentCount := UInt32.ofNat count
  chunkOffset := UInt16.ofNat piece.1
  documentLength := UInt16.ofNat document.length
  documentSha256 := sha256 document
  chunk := piece.2

theorem fieldOf_front {n offset : Nat} {value : FixedBytes n} (hbegins : front <+: document)
    (hroom : offset + n ≤ front.length) (hfield : Layout.field document offset n = value.1) :
    fieldOf n front offset = some value := by
  obtain ⟨rest, rfl⟩ := hbegins
  have hfront : (front.drop offset).take n = value.1 := by
    rw [← hfield, Layout.field, List.drop_append_of_le_length (by omega),
      List.take_append_of_le_length (by rw [List.length_drop]; omega)]
  unfold fieldOf
  rw [dif_pos (by rw [hfront]; exact value.2)]
  exact congrArg some (Subtype.ext hfront)

/-- The whole header starts the assembler. -/
theorem new_assembler (h : ValidDocument context index document header) (hsession : session ≠ 0) :
    MarkerDocumentAssembler.new session (index + 1) (kindOf index)
        (UInt16.ofNat document.length).toUInt32 MAXIMUM_MARKER_DOCUMENT_BYTES header.requestUuid
        header.contextDigest =
      .ok (assemblerOf session index document header []) := by
  have hle := h.length_le
  have hge := h.le_length
  have hlength : (UInt16.ofNat document.length).toUInt32.toNat = document.length := by
    rw [UInt16.toNat_toUInt32, toNat_count (by omega)]
  have hkind : kindOf index ∈ [RECORDING_MARKER_REQUEST, RECORDING_MARKER_SEAL,
      RECORDING_MARKER_PAGE, RECORDING_MARKER_ACK, RECORDING_MARKER_COMPLETION,
      RECORDING_MARKER_AUTHORIZATION] := by
    unfold kindOf
    split <;> decide
  have hframe : (UInt16.ofNat document.length).toUInt32 ≤ MAXIMUM_MARKER_DOCUMENT_BYTES := by
    rw [UInt32.le_iff_toNat_le, hlength]
    exact hle
  rw [MarkerDocumentAssembler.new, Checked.seq_eq_ok, Checked.pure_eq_ok, RecordingMarkers.require_eq_ok]
  refine ⟨⟨hsession, Nat.succ_ne_zero _, h.headerOf.nonzero, hkind, ?_, hframe⟩, ?_⟩
  · rw [hlength]
    exact Nat.le_trans (by decide) hge
  · rw [hlength]
    have hempty : decide (([] : List UInt8).length = document.length) = false :=
      decide_eq_false (by rw [List.length_nil]; omega)
    rw [assemblerOf, hempty]

end Documents

/-! ## Pushing a chunk -/

section Slots

variable {slot : MarkerSlot} {session : UInt64} {value : MarkerChunkV2}
  {assembler next : MarkerDocumentAssembler} {complete : Bool}

theorem push_assembler (hassembler : slot.assembler = some assembler)
    (hindex : slot.index + 1 < 2 ^ 32)
    (hpush : assembler.push session (slot.index + 1) value.chunkOffset.toNat value.chunk =
      (next, .ok complete)) :
    slot.push session value = ({ slot with assembler := some next }, .ok complete) := by
  rw [MarkerSlot.push, hassembler]
  dsimp only
  rw [if_neg (Nat.not_le.mpr hindex), hpush]

theorem push_header_part (hassembler : slot.assembler = none)
    (hoffset : value.chunkOffset.toNat = slot.header.length)
    (hshort : (slot.header ++ value.chunk).length < RECORDING_MARKER_HEADER_LENGTH) :
    slot.push session value = ({ slot with header := slot.header ++ value.chunk }, .ok false) := by
  rw [MarkerSlot.push, hassembler]
  dsimp only
  rw [hoffset, if_neg (Nat.lt_irrefl _), if_neg (not_not.mpr rfl), if_pos hshort]

theorem push_header_whole {requestUuid : FixedBytes 16} {contextDigest : FixedBytes 32}
    (hassembler : slot.assembler = none) (hindex : slot.index + 1 < 2 ^ 32)
    (hoffset : value.chunkOffset.toNat = slot.header.length)
    (hlong : RECORDING_MARKER_HEADER_LENGTH ≤ (slot.header ++ value.chunk).length)
    (hrequest : fieldOf 16 (slot.header ++ value.chunk)
      RECORDING_MARKER_HEADER_REQUEST_UUID_OFFSET = some requestUuid)
    (hcontext : fieldOf 32 (slot.header ++ value.chunk)
      RECORDING_MARKER_HEADER_CONTEXT_DIGEST_OFFSET = some contextDigest)
    (hnew : MarkerDocumentAssembler.new session (slot.index + 1) (kindOf slot.index)
      slot.length.toUInt32 MAXIMUM_MARKER_DOCUMENT_BYTES requestUuid contextDigest = .ok assembler)
    (hpush : assembler.push session (slot.index + 1) 0 (slot.header ++ value.chunk) =
      (next, .ok complete)) :
    slot.push session value =
      ({ slot with header := [], assembler := some next }, .ok complete) := by
  rw [MarkerSlot.push, hassembler]
  dsimp only
  rw [hoffset, if_neg (Nat.lt_irrefl _), if_neg (not_not.mpr rfl), if_neg (Nat.not_lt.mpr hlong),
    hrequest, hcontext]
  dsimp only
  rw [if_neg (Nat.not_le.mpr hindex), show (if slot.index = 0 then RECORDING_MARKER_SEAL else
    RECORDING_MARKER_PAGE) = kindOf slot.index from rfl, hnew]
  dsimp only
  rw [hpush]

theorem push_header_again (hassembler : slot.assembler = none)
    (hstands : Stands slot.header (value.chunkOffset.toNat, value.chunk)) :
    slot.push session value = (slot, .ok false) := by
  obtain ⟨hne, hroom, hpiece⟩ := hstands
  dsimp only at hne hroom hpiece
  have hpositive := List.length_pos_iff.mpr hne
  rw [MarkerSlot.push, hassembler]
  dsimp only
  rw [if_pos (by omega), Nat.add_sub_cancel_left, if_neg]
  exact not_or.mpr ⟨Nat.not_lt.mpr hroom, not_not.mpr hpiece⟩

end Slots

section SlotOf

variable {sha256 : List UInt8 → FixedBytes 32} {context : FixedBytes 32} {index count : Nat}
  {document front chunk : List UInt8} {header : MarkerDocumentHeader} {session : UInt64}

/-- The slot of a document whose header is still a part. -/
theorem slotOf_header (hshort : front.length < RECORDING_MARKER_HEADER_LENGTH) :
    slotOf sha256 session index document header front =
      { index
        length := UInt16.ofNat document.length
        sha256 := sha256 document
        header := front
        assembler := none } := by
  unfold slotOf
  rw [if_pos hshort, if_pos hshort]

/-- The slot of a document after its header. -/
theorem slotOf_assembler (hlong : RECORDING_MARKER_HEADER_LENGTH ≤ front.length) :
    slotOf sha256 session index document header front =
      { index
        length := UInt16.ofNat document.length
        sha256 := sha256 document
        header := []
        assembler := some (assemblerOf session index document header front) } := by
  unfold slotOf
  rw [if_neg (Nat.not_lt.mpr hlong), if_neg (Nat.not_lt.mpr hlong)]

variable (sha256 count) in
/-- The next chunk of the document. -/
theorem slotOf_push_next (h : ValidDocument context index document header)
    (hsession : session ≠ 0) (hindex : index < 4097) (hchunk : chunk ≠ [])
    (hbegins : front ++ chunk <+: document) :
    (slotOf sha256 session index document header front).push session
        (markerChunk sha256 session index count document (front.length, chunk)) =
      (slotOf sha256 session index document header (front ++ chunk),
        .ok (decide ((front ++ chunk).length = document.length))) := by
  have hle := h.length_le
  have hge := h.le_length
  have hroom := hbegins.length_le
  have hlength : (front ++ chunk).length = front.length + chunk.length := List.length_append
  have hoffset : (markerChunk sha256 session index count document
      (front.length, chunk)).chunkOffset.toNat = front.length := toNat_count (by omega)
  have hnumber : index + 1 < 2 ^ 32 := by omega
  by_cases hlong : RECORDING_MARKER_HEADER_LENGTH ≤ front.length
  · rw [slotOf_assembler hlong, slotOf_assembler (by omega)]
    refine push_assembler rfl hnumber ?_
    rw [hoffset]
    exact assemblerOf_push_next h hchunk hbegins
  · rw [slotOf_header (Nat.lt_of_not_le hlong)]
    by_cases hwhole : RECORDING_MARKER_HEADER_LENGTH ≤ (front ++ chunk).length
    · -- the chunk completes the header, and the assembler takes it with what was held
      have hhead : RECORDING_MARKER_HEADER_LENGTH = 64 := rfl
      rw [slotOf_assembler hwhole]
      refine push_header_whole rfl hnumber hoffset hwhole ?_ ?_ (new_assembler h hsession) ?_
      · exact fieldOf_front hbegins (by rw [hhead] at hwhole; exact Nat.le_trans (by decide) hwhole)
          h.headerOf.requestUuid
      · exact fieldOf_front hbegins (by rw [hhead] at hwhole; exact Nat.le_trans (by decide) hwhole)
          h.headerOf.contextDigest
      · exact assemblerOf_push_next h (List.append_ne_nil_of_right_ne_nil front hchunk) hbegins
    · have hmore : decide ((front ++ chunk).length = document.length) = false :=
        decide_eq_false (by unfold RECORDING_MARKER_HEADER_LENGTH at hwhole; omega)
      rw [slotOf_header (Nat.lt_of_not_le hwhole), hmore]
      exact push_header_part rfl hoffset (Nat.lt_of_not_le hwhole)

variable (sha256 count session) in
/-- An earlier chunk, before the document is complete. -/
theorem slotOf_push_again {piece : Nat × List UInt8}
    (h : ValidDocument context index document header) (hindex : index < 4097)
    (hbegins : front <+: document) (hmore : front ≠ document) (hpiece : Stands front piece) :
    (slotOf sha256 session index document header front).push session
        (markerChunk sha256 session index count document piece) =
      (slotOf sha256 session index document header front, .ok false) := by
  have hle := h.length_le
  have hroom := hbegins.length_le
  have hoffset : (markerChunk sha256 session index count document piece).chunkOffset.toNat =
      piece.1 :=
    toNat_count (by have := hpiece.2.1; omega)
  by_cases hlong : RECORDING_MARKER_HEADER_LENGTH ≤ front.length
  · rw [slotOf_assembler hlong]
    have hnumber : index + 1 < 2 ^ 32 := by omega
    refine push_assembler rfl hnumber ?_
    rw [hoffset]
    exact assemblerOf_push_again hbegins hmore hpiece
  · rw [slotOf_header (Nat.lt_of_not_le hlong)]
    refine push_header_again rfl ?_
    rw [hoffset]
    exact hpiece

end SlotOf

end BotaSdk.EncryptedUploadV2Receiver
