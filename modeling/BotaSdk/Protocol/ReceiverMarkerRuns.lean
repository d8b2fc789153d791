import BotaSdk.Protocol.ReceiverMarkers
import BotaSdk.Protocol.ReceiverSink

/-!
# Runs over the marker documents

Every split of the documents into chunks hands out exactly the documents, in order; a chunk that
disagrees with what was received ends the receiver; and a completion speaks of every document.
-/

namespace BotaSdk.EncryptedUploadV2Receiver

open Protocol TransferV2 RecordingMarkers

/-! ## Handed out documents -/

/-- An `AppendMarkerDocument`. -/
structure MarkerAppend where
  requestId : Nat
  documentIndex : UInt32
  documentCount : UInt32
  documentSha256 : FixedBytes 32
  document : List UInt8
  deriving DecidableEq

def appendOf : Reply → Option MarkerAppend
  | .ok (.appendMarkerDocument requestId documentIndex documentCount documentSha256 document) =>
    some { requestId, documentIndex, documentCount, documentSha256, document }
  | _ => none

/-- The documents that a run hands out. -/
def appendsOf (tr : List Exchange) : List MarkerAppend :=
  tr.filterMap fun e => appendOf e.output

theorem appendsOf_append (tr tr' : List Exchange) :
    appendsOf (tr ++ tr') = appendsOf tr ++ appendsOf tr' := List.filterMap_append

theorem appendsOf_singleton (e : Exchange) : appendsOf [e] = (appendOf e.output).toList := by
  unfold appendsOf
  rw [List.filterMap_cons]
  cases appendOf e.output <;> rfl

/-- The calls lead from `receiver` to `next`, all are accepted, and they hand out `documents`. -/
def Serves (sha256 : List UInt8 → FixedBytes 32) (receiver : EncryptedUploadV2Receiver)
    (calls : List Call) (documents : List MarkerAppend) (next : EncryptedUploadV2Receiver) : Prop :=
  ∀ tr, ∃ later, Machine.exec (call sha256) tr receiver calls = (tr ++ later, next) ∧
    (∀ e ∈ later, ∃ action, e.output = .ok action) ∧ appendsOf later = documents

section Serves

variable {sha256 : List UInt8 → FixedBytes 32} {receiver next last : EncryptedUploadV2Receiver}
  {calls calls' : List Call} {documents documents' : List MarkerAppend}

theorem Serves.nil : Serves sha256 receiver [] [] receiver :=
  fun tr => ⟨[], by rw [List.append_nil]; rfl, fun _ he => absurd he List.not_mem_nil, rfl⟩

theorem Serves.concat {input : Call} {action : EncryptedUploadV2ReceiverAction}
    (h : Serves sha256 receiver calls documents next)
    (hcall : call sha256 next input = (last, .ok action)) :
    Serves sha256 receiver (calls ++ [input]) (documents ++ (appendOf (.ok action)).toList) last := by
  intro tr
  obtain ⟨later, hexec, hok, hdocuments⟩ := h tr
  refine ⟨later ++ [⟨next, input, .ok action⟩], ?_, fun e he => ?_, ?_⟩
  · rw [Machine.exec_concat, hexec]
    dsimp only
    rw [hcall, List.append_assoc]
  · rcases List.mem_append.mp he with he | he
    · exact hok e he
    · obtain rfl := List.mem_singleton.mp he
      exact ⟨action, rfl⟩
  · rw [appendsOf_append, hdocuments, appendsOf_singleton]

theorem Serves.append (h : Serves sha256 receiver calls documents next)
    (hnext : Serves sha256 next calls' documents' last) :
    Serves sha256 receiver (calls ++ calls') (documents ++ documents') last := by
  intro tr
  obtain ⟨front, hfront, hok, hdocuments⟩ := h tr
  obtain ⟨back, hback, hok', hdocuments'⟩ := hnext (tr ++ front)
  refine ⟨front ++ back, ?_, fun e he => ?_, ?_⟩
  · rw [Machine.exec_append, hfront]
    dsimp only
    rw [hback, List.append_assoc]
  · exact (List.mem_append.mp he).elim (hok e) (hok' e)
  · rw [appendsOf_append, hdocuments, hdocuments']

end Serves

/-! ## The marker phase -/

/-- The ciphertext and the manifest are complete and the receiver is idle; what it knows of the markers
is in line with `count` documents of `context`. -/
structure MarkerPhase (sha256 : List UInt8 → FixedBytes 32) (context : FixedBytes 32) (count : Nat)
    (receiver : EncryptedUploadV2Receiver) : Prop where
  running : receiver.terminal = false ∧ receiver.cancelled = false
  idle : receiver.io = none
  prepared : receiver.prepared = true
  required : receiver.config.markersRequired = true
  session : receiver.config.transportSessionId ≠ 0
  window : receiver.pendingWindow = none
  packets : receiver.packets.entries = []
  whole : receiver.checkpoint.nextCiphertextOffset = receiver.config.expectedCiphertextLength
  present : false ∉ receiver.manifestPresent
  manifest : receiver.manifestSha256 = some (sha256 receiver.manifest)
  count : ∀ known, receiver.markerCount = some known → known = UInt32.ofNat count
  context : ∀ known, receiver.markerContextDigest = some known → known = context

section Phase

variable {sha256 : List UInt8 → FixedBytes 32} {context : FixedBytes 32} {count : Nat}
  {receiver : EncryptedUploadV2Receiver} {document front chunk : List UInt8}
  {header : MarkerDocumentHeader} {piece : Nat × List UInt8}

/-- The chunk of the next document at an offset. -/
def nextChunk (sha256 : List UInt8 → FixedBytes 32) (receiver : EncryptedUploadV2Receiver)
    (count : Nat) (document : List UInt8) (piece : Nat × List UInt8) : MarkerChunkV2 :=
  markerChunk sha256 receiver.config.transportSessionId receiver.markerDocumentsPersisted count
    document piece

/-- The slot of the next document after `front`. -/
def nextSlot (sha256 : List UInt8 → FixedBytes 32) (receiver : EncryptedUploadV2Receiver)
    (document : List UInt8) (header : MarkerDocumentHeader) (front : List UInt8) : MarkerSlot :=
  slotOf sha256 receiver.config.transportSessionId receiver.markerDocumentsPersisted document header
    front

/-- What the receiver holds of the next document. -/
def Holds (sha256 : List UInt8 → FixedBytes 32) (receiver : EncryptedUploadV2Receiver)
    (document : List UInt8) (header : MarkerDocumentHeader) (front : List UInt8) : Prop :=
  receiver.markerSlot =
    if front = [] then none else some (nextSlot sha256 receiver document header front)

/-- The receiver after a chunk. -/
def filled (sha256 : List UInt8 → FixedBytes 32) (receiver : EncryptedUploadV2Receiver)
    (count : Nat) (document : List UInt8) (header : MarkerDocumentHeader) (front : List UInt8) :
    EncryptedUploadV2Receiver :=
  { receiver with
    markerCount := some (UInt32.ofNat count)
    markerSlot := some (nextSlot sha256 receiver document header front) }

theorem MarkerPhase.filled (h : MarkerPhase sha256 context count receiver) :
    MarkerPhase sha256 context count (filled sha256 receiver count document header front) :=
  { h with
    count := fun _ hknown => (Option.some.inj hknown).symm }

theorem toNat_documentCount (hcount : count ≤ 4097) : (UInt32.ofNat count).toNat = count :=
  UInt32.toNat_ofNat_of_lt' (by rw [UInt32.size]; omega)

theorem nextChunk_accepted (h : MarkerPhase sha256 context count receiver)
    (hcount : 2 ≤ count ∧ count ≤ 4097) (hindex : receiver.markerDocumentsPersisted < count)
    (hdocument : ValidDocument context receiver.markerDocumentsPersisted document header)
    (hpiece : Stands document piece) : MarkerAccepted (nextChunk sha256 receiver count document piece) := by
  have hle := hdocument.length_le
  have hge := hdocument.le_length
  have hroom := hpiece.2.1
  have hlength : (UInt16.ofNat document.length).toNat = document.length := toNat_count (by omega)
  have hoffset : (UInt16.ofNat piece.1).toNat = piece.1 := toNat_count (by omega)
  have hnumber := toNat_documentCount hcount.2
  have hposition : (UInt32.ofNat receiver.markerDocumentsPersisted).toNat =
      receiver.markerDocumentsPersisted := toNat_documentCount (by omega)
  constructor
  · exact ⟨rfl, rfl, h.session⟩
  · show 2 ≤ UInt32.ofNat count ∧ UInt32.ofNat count ≤ 4097
    rw [UInt32.le_iff_toNat_le, UInt32.le_iff_toNat_le, hnumber]
    exact hcount
  · show UInt32.ofNat receiver.markerDocumentsPersisted < UInt32.ofNat count
    rw [UInt32.lt_iff_toNat_lt, hnumber, hposition]
    exact hindex
  · show 200 ≤ UInt16.ofNat document.length ∧ UInt16.ofNat document.length ≤ 402
    rw [UInt16.le_iff_toNat_le, UInt16.le_iff_toNat_le, hlength]
    exact ⟨hge, hle⟩
  · exact hpiece.1
  · show (UInt16.ofNat piece.1).toNat + piece.2.length ≤ (UInt16.ofNat document.length).toNat
    rw [hoffset, hlength]
    exact hroom

/-- The chunk of the next document is in its place. -/
theorem not_markerRejected (h : MarkerPhase sha256 context count receiver)
    (hcount : 2 ≤ count ∧ count ≤ 4097) (hindex : receiver.markerDocumentsPersisted < count)
    (hdocument : ValidDocument context receiver.markerDocumentsPersisted document header)
    (hpiece : Stands document piece) :
    ¬receiver.markerRejected sha256 (nextChunk sha256 receiver count document piece) := by
  have haccepted := nextChunk_accepted h hcount hindex hdocument hpiece
  have hposition : (UInt32.ofNat receiver.markerDocumentsPersisted).toNat =
      receiver.markerDocumentsPersisted := toNat_documentCount (by omega)
  unfold markerRejected
  simp only [not_or, not_not]
  refine ⟨by rw [h.required]; exact Bool.true_eq_false_eq_False, by rw [h.window]; decide, h.packets,
    h.whole, h.present, h.manifest, haccepted.count, hposition, ?_, ?_, haccepted.length,
    haccepted.chunk, Nat.not_lt.mpr haccepted.range⟩
  · rw [UInt32.not_le]
    exact haccepted.index
  · rintro ⟨known, hknown, hne⟩
    exact hne (h.count known (Option.mem_def.mp hknown))

theorem equalHash_self (hash : FixedBytes 32) : (!equalHash hash hash) ≠ true := by
  rw [equalHash_iff.mpr rfl]
  decide

theorem slotFor_nextChunk (hindex : receiver.markerDocumentsPersisted < 4097)
    (hholds : Holds sha256 receiver document header front) :
    receiver.slotFor (nextChunk sha256 receiver count document piece) =
      nextSlot sha256 receiver document header front := by
  have hposition : (UInt32.ofNat receiver.markerDocumentsPersisted).toNat =
      receiver.markerDocumentsPersisted := toNat_documentCount (Nat.le_of_lt hindex)
  unfold Holds at hholds
  unfold slotFor
  rw [hholds]
  by_cases hempty : front = []
  · rw [if_pos hempty, Option.getD_none, hempty, nextSlot,
      slotOf_header (show ([] : List UInt8).length < RECORDING_MARKER_HEADER_LENGTH by decide)]
    unfold nextChunk markerChunk
    dsimp only
    rw [hposition]
  · rw [if_neg hempty, Option.getD_some]

/-- The delivery of a chunk is what `receiveMarker` makes of it. -/
theorem receive_nextChunk (h : MarkerPhase sha256 context count receiver)
    (hcount : 2 ≤ count ∧ count ≤ 4097) (hindex : receiver.markerDocumentsPersisted < count)
    (hdocument : ValidDocument context receiver.markerDocumentsPersisted document header)
    (hpiece : Stands document piece) :
    call sha256 receiver
        (.receive (frame (.markerChunk (nextChunk sha256 receiver count document piece)))) =
      finishResult
        (receiver.receiveMarker sha256 (nextChunk sha256 receiver count document piece)) := by
  have hactive : receiver.requireActive = .ok () := by
    unfold requireActive
    rw [h.running.1, h.running.2]
    rfl
  have haccepted : Accepted (.markerChunk (nextChunk sha256 receiver count document piece)) :=
    nextChunk_accepted h hcount hindex hdocument hpiece
  show receiver.receive sha256 _ = _
  unfold receive
  rw [hactive, h.idle, h.prepared, receiveInner, decode_complete haccepted]
  dsimp only
  rw [if_neg (by decide), if_neg (by decide)]
  congr 1
  unfold receiveFrame commonOf
  dsimp only
  exact if_neg (not_not.mpr rfl)

theorem document_nextSlot (hdocument : ValidDocument context receiver.markerDocumentsPersisted
    document header) : (nextSlot sha256 receiver document header document).document = some document := by
  have hge := hdocument.le_length
  have hlong : RECORDING_MARKER_HEADER_LENGTH ≤ document.length :=
    Nat.le_trans (by decide) hge
  rw [nextSlot, slotOf_assembler hlong]
  show (assemblerOf _ _ document header document).document = some document
  unfold MarkerDocumentAssembler.document
  exact if_pos ⟨decide_eq_true rfl, rfl⟩

/-- The chunk that completes a document hands it out. -/
theorem persistMarker_eq (h : MarkerPhase sha256 context count receiver)
    (hdocument : ValidDocument context receiver.markerDocumentsPersisted document header)
    (hroom : receiver.nextRequestId + 1 < 2 ^ 64) :
    receiver.persistMarker sha256 (nextChunk sha256 receiver count document piece) document =
      (requested { receiver with markerContextDigest := some context } .markerPersist,
        .ok (.appendMarkerDocument receiver.nextRequestId
          (UInt32.ofNat receiver.markerDocumentsPersisted) (UInt32.ofNat count) (sha256 document)
          document)) := by
  have hfield : fieldOf 32 document RECORDING_MARKER_HEADER_CONTEXT_DIGEST_OFFSET =
      some context := by
    rw [← hdocument.2.2]
    have hge := hdocument.le_length
    exact fieldOf_front List.prefix_rfl (Nat.le_trans (by decide) hge) hdocument.headerOf.contextDigest
  have hsame : ¬∃ known ∈ receiver.markerContextDigest, (!equalHash known context) = true := by
    rintro ⟨known, hknown, hne⟩
    rw [h.context known (Option.mem_def.mp hknown)] at hne
    exact equalHash_self context hne
  unfold persistMarker
  rw [show (nextChunk sha256 receiver count document piece).documentSha256 = sha256 document from rfl,
    if_neg (equalHash_self _), hfield]
  dsimp only
  rw [if_neg hsame]
  exact if_neg (Nat.not_le.mpr hroom)

/-- The next chunk of the next document. -/
theorem receiveMarker_next (h : MarkerPhase sha256 context count receiver)
    (hcount : 2 ≤ count ∧ count ≤ 4097) (hindex : receiver.markerDocumentsPersisted < count)
    (hdocument : ValidDocument context receiver.markerDocumentsPersisted document header)
    (hholds : Holds sha256 receiver document header front) (hchunk : chunk ≠ [])
    (hbegins : front ++ chunk <+: document) (hroom : receiver.nextRequestId + 1 < 2 ^ 64) :
    receiver.receiveMarker sha256 (nextChunk sha256 receiver count document (front.length, chunk)) =
      if front ++ chunk = document then
        (requested { filled sha256 receiver count document header document with
            markerContextDigest := some context } .markerPersist,
          .ok (.appendMarkerDocument receiver.nextRequestId
            (UInt32.ofNat receiver.markerDocumentsPersisted) (UInt32.ofNat count) (sha256 document)
            document))
      else (filled sha256 receiver count document header (front ++ chunk), .ok .none) := by
  have hbelow : receiver.markerDocumentsPersisted < 4097 := by omega
  have hpiece : Stands document (front.length, chunk) := by
    obtain ⟨rest, rfl⟩ := hbegins
    exact Stands.append ⟨hchunk, (List.length_append ..).ge, by simp⟩ rest
  have hpush := slotOf_push_next sha256 count hdocument h.session hbelow
    hchunk hbegins
  have hmetadata : ¬((nextSlot sha256 receiver document header front).length ≠
        (nextChunk sha256 receiver count document (front.length, chunk)).documentLength ∨
      (!equalHash (nextSlot sha256 receiver document header front).sha256
        (nextChunk sha256 receiver count document (front.length, chunk)).documentSha256) = true) :=
    not_or.mpr ⟨not_not.mpr rfl, equalHash_self _⟩
  unfold receiveMarker
  rw [if_neg (not_markerRejected h hcount hindex hdocument hpiece), slotFor_nextChunk hbelow hholds]
  dsimp only
  rw [if_neg hmetadata, show (nextSlot sha256 receiver document header front).push
    receiver.config.transportSessionId
    (nextChunk sha256 receiver count document (front.length, chunk)) = _ from hpush]
  by_cases hwhole : front ++ chunk = document
  · have hslot : (slotOf sha256 receiver.config.transportSessionId receiver.markerDocumentsPersisted
        document header document).document = some document := document_nextSlot hdocument
    have hfilled : MarkerPhase sha256 context count
        (filled sha256 receiver count document header document) := h.filled
    rw [if_pos hwhole, hwhole, decide_eq_true rfl]
    dsimp only
    rw [hslot]
    exact persistMarker_eq hfilled hdocument hroom
  · rw [if_neg hwhole, decide_eq_false (fun hlength => hwhole (hbegins.eq_of_length hlength))]
    rfl

/-- An earlier chunk of the next document. -/
theorem receiveMarker_again (h : MarkerPhase sha256 context count receiver)
    (hcount : 2 ≤ count ∧ count ≤ 4097) (hindex : receiver.markerDocumentsPersisted < count)
    (hdocument : ValidDocument context receiver.markerDocumentsPersisted document header)
    (hholds : Holds sha256 receiver document header front) (hbegins : front <+: document)
    (hmore : front ≠ document) (hpiece : Stands front piece) :
    receiver.receiveMarker sha256 (nextChunk sha256 receiver count document piece) =
      (filled sha256 receiver count document header front, .ok .none) := by
  have hbelow : receiver.markerDocumentsPersisted < 4097 := by omega
  have hplace : Stands document piece := by
    obtain ⟨rest, rfl⟩ := hbegins
    exact hpiece.append rest
  have hpush := slotOf_push_again sha256 count receiver.config.transportSessionId
    hdocument hbelow hbegins hmore hpiece
  have hmetadata : ¬((nextSlot sha256 receiver document header front).length ≠
        (nextChunk sha256 receiver count document piece).documentLength ∨
      (!equalHash (nextSlot sha256 receiver document header front).sha256
        (nextChunk sha256 receiver count document piece).documentSha256) = true) :=
    not_or.mpr ⟨not_not.mpr rfl, equalHash_self _⟩
  unfold receiveMarker
  rw [if_neg (not_markerRejected h hcount hindex hdocument hplace), slotFor_nextChunk hbelow hholds]
  dsimp only
  rw [if_neg hmetadata, show (nextSlot sha256 receiver document header front).push
    receiver.config.transportSessionId (nextChunk sha256 receiver count document piece) = _ from hpush]
  rfl

/-! ## One document -/

/-- The receiver after the chunks up to `front`. -/
def holding (sha256 : List UInt8 → FixedBytes 32) (receiver : EncryptedUploadV2Receiver)
    (count : Nat) (document : List UInt8) (header : MarkerDocumentHeader) (front : List UInt8) :
    EncryptedUploadV2Receiver :=
  if front = [] then receiver else filled sha256 receiver count document header front

theorem MarkerPhase.holding (h : MarkerPhase sha256 context count receiver) :
    MarkerPhase sha256 context count (holding sha256 receiver count document header front) := by
  unfold EncryptedUploadV2Receiver.holding
  split
  · exact h
  · exact h.filled

theorem holds_holding (hslot : receiver.markerSlot = none) :
    Holds sha256 (holding sha256 receiver count document header front) document header front := by
  unfold Holds holding
  by_cases hempty : front = []
  · rw [if_pos hempty, if_pos hempty, hslot]
  · rw [if_neg hempty, if_neg hempty]
    rfl

theorem holding_fields (sha256 : List UInt8 → FixedBytes 32) (receiver : EncryptedUploadV2Receiver)
    (count : Nat) (document front : List UInt8) (piece : Nat × List UInt8)
    (header : MarkerDocumentHeader) :
    (holding sha256 receiver count document header front).markerDocumentsPersisted =
        receiver.markerDocumentsPersisted ∧
      (holding sha256 receiver count document header front).nextRequestId =
        receiver.nextRequestId ∧
      nextChunk sha256 (holding sha256 receiver count document header front) count document piece =
        nextChunk sha256 receiver count document piece ∧
      ∀ front', filled sha256 (holding sha256 receiver count document header front) count document
        header front' = filled sha256 receiver count document header front' := by
  unfold holding
  split
  · exact ⟨rfl, rfl, rfl, fun _ => rfl⟩
  · exact ⟨rfl, rfl, rfl, fun _ => rfl⟩

/-- The deliveries of the chunks of the next document. -/
def chunkCalls (sha256 : List UInt8 → FixedBytes 32) (receiver : EncryptedUploadV2Receiver)
    (count : Nat) (document : List UInt8) (chunks : List (Nat × List UInt8)) : List Call :=
  chunks.map fun piece =>
    .receive (frame (.markerChunk (nextChunk sha256 receiver count document piece)))

theorem call_next (h : MarkerPhase sha256 context count receiver)
    (hslot : receiver.markerSlot = none) (hcount : 2 ≤ count ∧ count ≤ 4097)
    (hindex : receiver.markerDocumentsPersisted < count)
    (hdocument : ValidDocument context receiver.markerDocumentsPersisted document header)
    (hchunk : chunk ≠ []) (hbegins : front ++ chunk <+: document)
    (hroom : receiver.nextRequestId + 1 < 2 ^ 64) :
    call sha256 (holding sha256 receiver count document header front) (.receive (frame (.markerChunk
        (nextChunk sha256 receiver count document (front.length, chunk))))) =
      if front ++ chunk = document then
        (requested { filled sha256 receiver count document header document with
            markerContextDigest := some context } .markerPersist,
          .ok (.appendMarkerDocument receiver.nextRequestId
            (UInt32.ofNat receiver.markerDocumentsPersisted) (UInt32.ofNat count) (sha256 document)
            document))
      else (filled sha256 receiver count document header (front ++ chunk), .ok .none) := by
  obtain ⟨hpersisted, hnext, hpiece, hfilled⟩ := holding_fields sha256 receiver count
    document front (front.length, chunk) header
  have hphase : MarkerPhase sha256 context count
      (holding sha256 receiver count document header front) := h.holding
  have hholds : Holds sha256 (holding sha256 receiver count document header front) document header
      front := holds_holding hslot
  have hplace : Stands document (front.length, chunk) := by
    obtain ⟨rest, rfl⟩ := hbegins
    exact Stands.append ⟨hchunk, (List.length_append ..).ge, by simp⟩ rest
  rw [← hpersisted] at hindex hdocument
  rw [← hpiece, receive_nextChunk hphase hcount hindex hdocument hplace,
    receiveMarker_next hphase hcount hindex hdocument hholds hchunk hbegins (hnext ▸ hroom), hfilled,
    hfilled, hpersisted, hnext]
  split <;> rfl

theorem call_again (h : MarkerPhase sha256 context count receiver)
    (hslot : receiver.markerSlot = none) (hcount : 2 ≤ count ∧ count ≤ 4097)
    (hindex : receiver.markerDocumentsPersisted < count)
    (hdocument : ValidDocument context receiver.markerDocumentsPersisted document header)
    (hbegins : front <+: document) (hmore : front ≠ document) (hpiece : Stands front piece) :
    call sha256 (holding sha256 receiver count document header front) (.receive (frame (.markerChunk
        (nextChunk sha256 receiver count document piece)))) =
      (filled sha256 receiver count document header front, .ok .none) := by
  obtain ⟨hpersisted, -, hchunk, hfilled⟩ := holding_fields sha256 receiver count
    document front piece header
  have hphase : MarkerPhase sha256 context count
      (holding sha256 receiver count document header front) := h.holding
  have hholds : Holds sha256 (holding sha256 receiver count document header front) document header
      front := holds_holding hslot
  have hplace : Stands document piece := by
    obtain ⟨rest, rfl⟩ := hbegins
    exact hpiece.append rest
  rw [← hpersisted] at hindex hdocument
  rw [← hchunk, receive_nextChunk hphase hcount hindex hdocument hplace,
    receiveMarker_again hphase hcount hindex hdocument hholds hbegins hmore hpiece, hfilled]
  rfl

/-- A document that is not complete yet. -/
theorem serves_part (h : MarkerPhase sha256 context count receiver)
    (hslot : receiver.markerSlot = none) (hcount : 2 ≤ count ∧ count ≤ 4097)
    (hindex : receiver.markerDocumentsPersisted < count)
    (hdocument : ValidDocument context receiver.markerDocumentsPersisted document header)
    (hroom : receiver.nextRequestId + 1 < 2 ^ 64) {chunks : List (Nat × List UInt8)}
    (hchunks : Chunks document front chunks) (hmore : front ≠ document) :
    Serves sha256 receiver (chunkCalls sha256 receiver count document chunks) []
      (holding sha256 receiver count document header front) := by
  unfold chunkCalls
  induction hchunks with
  | nil => exact .nil
  | @next front chunk chunks hfront hchunk hbegins ih =>
    have hshort : front ≠ document := by
      rintro rfl
      exact hchunk (List.self_eq_append_right.mp (hbegins.eq_of_length_le (by simp)).symm)
    have hcall := call_next h hslot hcount hindex hdocument hchunk hbegins hroom
    rw [if_neg hmore] at hcall
    rw [List.map_append, holding, if_neg (List.append_ne_nil_of_right_ne_nil front hchunk)]
    exact (ih hshort).concat hcall
  | @again front chunks piece hfront hshort hpiece ih =>
    have hstands : Stands front piece := hfront.stands piece hpiece
    have hcall := call_again h hslot hcount hindex hdocument hfront.front hshort hstands
    have hempty : front ≠ [] := by
      rintro rfl
      exact hstands.1 (List.length_eq_zero_iff.mp (Nat.le_zero.mp
        (Nat.le_trans (Nat.le_add_left _ _) hstands.2.1)))
    rw [List.map_append, holding, if_neg hempty]
    exact (ih hshort).concat hcall

/-- The receiver after the next document. -/
def afterDocument (receiver : EncryptedUploadV2Receiver) (context : FixedBytes 32) (count : Nat)
    (document : List UInt8) : EncryptedUploadV2Receiver :=
  { receiver with
    io := none
    nextRequestId := receiver.nextRequestId + 1
    markerCount := some (UInt32.ofNat count)
    markerSlot := none
    markerContextDigest := some context
    markerDocumentsHash := receiver.markerDocumentsHash ++ document
    markerDocumentsPersisted := receiver.markerDocumentsPersisted + 1 }

theorem MarkerPhase.afterDocument (h : MarkerPhase sha256 context count receiver) :
    MarkerPhase sha256 context count (afterDocument receiver context count document) :=
  { h with
    idle := rfl
    count := fun _ hknown => (Option.some.inj hknown).symm
    context := fun _ hknown => (Option.some.inj hknown).symm }

/-- The append that hands out the next document. -/
def nextAppend (sha256 : List UInt8 → FixedBytes 32) (receiver : EncryptedUploadV2Receiver)
    (count : Nat) (document : List UInt8) : MarkerAppend where
  requestId := receiver.nextRequestId
  documentIndex := UInt32.ofNat receiver.markerDocumentsPersisted
  documentCount := UInt32.ofNat count
  documentSha256 := sha256 document
  document

theorem call_applied {slot : MarkerSlot} {requestId : Nat}
    (hrunning : receiver.terminal = false ∧ receiver.cancelled = false)
    (hio : receiver.io = some { requestId, purpose := .markerPersist })
    (hslot : receiver.markerSlot = some slot) (hdocument : slot.document = some document)
    (hbelow : receiver.markerDocumentsPersisted < 4097) :
    call sha256 receiver (.apply (.applied requestId)) =
      ({ receiver with
          io := none
          markerSlot := none
          markerDocumentsHash := receiver.markerDocumentsHash ++ document
          markerDocumentsPersisted := receiver.markerDocumentsPersisted + 1 },
        .ok .none) := by
  have hactive : receiver.requireActive = .ok () := by
    unfold requireActive
    rw [hrunning.1, hrunning.2]
    rfl
  show receiver.apply sha256 _ = _
  unfold EncryptedUploadV2Receiver.apply
  rw [hactive, hio]
  dsimp only
  split
  · next hother => exact absurd rfl hother
  unfold applyInner markerPersisted
  dsimp only
  rw [hslot]
  dsimp only
  rw [hdocument]
  dsimp only
  rw [if_neg (by omega)]
  rfl

theorem call_persisted (h : MarkerPhase sha256 context count receiver)
    (hdocument : ValidDocument context receiver.markerDocumentsPersisted document header)
    (hbelow : receiver.markerDocumentsPersisted < 4097) :
    call sha256 (requested { filled sha256 receiver count document header document with
        markerContextDigest := some context } .markerPersist)
        (.apply (.applied receiver.nextRequestId)) =
      (afterDocument receiver context count document, .ok .none) :=
  call_applied h.running rfl rfl (document_nextSlot hdocument) hbelow

/-- The calls that deliver the next document and answer its append. -/
def documentCalls (sha256 : List UInt8 → FixedBytes 32) (receiver : EncryptedUploadV2Receiver)
    (count : Nat) (document : List UInt8) (chunks : List (Nat × List UInt8)) : List Call :=
  chunkCalls sha256 receiver count document chunks ++ [.apply (.applied receiver.nextRequestId)]

theorem serves_document (h : MarkerPhase sha256 context count receiver)
    (hslot : receiver.markerSlot = none) (hcount : 2 ≤ count ∧ count ≤ 4097)
    (hindex : receiver.markerDocumentsPersisted < count)
    (hdocument : ValidDocument context receiver.markerDocumentsPersisted document header)
    (hroom : receiver.nextRequestId + 1 < 2 ^ 64) {chunks : List (Nat × List UInt8)}
    (hchunks : Chunks document document chunks) :
    Serves sha256 receiver (documentCalls sha256 receiver count document chunks)
      [nextAppend sha256 receiver count document] (afterDocument receiver context count document) := by
  have hge := hdocument.le_length
  obtain ⟨front, chunk, before, rfl, hfront, hchunk, hwhole⟩ :=
    hchunks.last rfl (List.length_pos_iff.mp (by omega))
  have hshort : front ≠ document := by
    rintro rfl
    exact hchunk (List.self_eq_append_right.mp hwhole.symm)
  have hbegins : front ++ chunk <+: document := ⟨[], (List.append_nil _).trans hwhole⟩
  have hcall := call_next h hslot hcount hindex hdocument hchunk hbegins hroom
  rw [if_pos hwhole] at hcall
  have hpart := serves_part h hslot hcount hindex hdocument hroom hfront hshort
  have hbelow : receiver.markerDocumentsPersisted < 4097 := by omega
  have hlast := (hpart.concat hcall).concat (call_persisted h hdocument hbelow)
  unfold documentCalls chunkCalls
  rw [List.map_append]
  exact hlast

/-! ## All documents -/

/-- A document with its chunks. -/
abbrev Delivery := List UInt8 × List (Nat × List UInt8)

/-- The documents of one context from `index` on, each in contiguous chunks. -/
def ValidDeliveries (context : FixedBytes 32) : Nat → List Delivery → Prop
  | _, [] => True
  | index, (document, chunks) :: deliveries =>
    (∃ header, ValidDocument context index document header) ∧ Chunks document document chunks ∧
      ValidDeliveries context (index + 1) deliveries

/-- The receiver after the documents. -/
def afterDeliveries (receiver : EncryptedUploadV2Receiver) (context : FixedBytes 32) (count : Nat) :
    List Delivery → EncryptedUploadV2Receiver
  | [] => receiver
  | (document, _) :: deliveries =>
    afterDeliveries (afterDocument receiver context count document) context count deliveries

/-- The calls that deliver the documents and answer their appends. -/
def markerCalls (sha256 : List UInt8 → FixedBytes 32) (session : UInt64) (count : Nat) :
    Nat → Nat → List Delivery → List Call
  | _, _, [] => []
  | requestId, index, (document, chunks) :: deliveries =>
    (chunks.map fun piece =>
        .receive (frame (.markerChunk (markerChunk sha256 session index count document piece)))) ++
      [.apply (.applied requestId)] ++
      markerCalls sha256 session count (requestId + 1) (index + 1) deliveries

/-- The appends of the documents. -/
def markerAppends (sha256 : List UInt8 → FixedBytes 32) (count : Nat) :
    Nat → Nat → List Delivery → List MarkerAppend
  | _, _, [] => []
  | requestId, index, (document, _) :: deliveries =>
    { requestId
      documentIndex := UInt32.ofNat index
      documentCount := UInt32.ofNat count
      documentSha256 := sha256 document
      document } ::
      markerAppends sha256 count (requestId + 1) (index + 1) deliveries

theorem serves_deliveries (hcount : 2 ≤ count ∧ count ≤ 4097) {deliveries : List Delivery}
    (h : MarkerPhase sha256 context count receiver) (hslot : receiver.markerSlot = none)
    (hroom : receiver.nextRequestId + deliveries.length < 2 ^ 64)
    (hindex : receiver.markerDocumentsPersisted + deliveries.length = count)
    (hvalid : ValidDeliveries context receiver.markerDocumentsPersisted deliveries) :
    Serves sha256 receiver
      (markerCalls sha256 receiver.config.transportSessionId count receiver.nextRequestId
        receiver.markerDocumentsPersisted deliveries)
      (markerAppends sha256 count receiver.nextRequestId receiver.markerDocumentsPersisted deliveries)
      (afterDeliveries receiver context count deliveries) := by
  induction deliveries generalizing receiver with
  | nil => exact .nil
  | cons delivery deliveries ih =>
    obtain ⟨document, chunks⟩ := delivery
    obtain ⟨⟨header, hdocument⟩, hchunks, hrest⟩ := hvalid
    rw [List.length_cons] at hroom hindex
    have hfirst : Serves sha256 receiver (documentCalls sha256 receiver count document chunks)
        [nextAppend sha256 receiver count document] (afterDocument receiver context count document) :=
      serves_document h hslot hcount (by omega) hdocument (by omega) hchunks
    have hnext := @ih (afterDocument receiver context count document) h.afterDocument rfl
      (show receiver.nextRequestId + 1 + deliveries.length < 2 ^ 64 by omega)
      (show receiver.markerDocumentsPersisted + 1 + deliveries.length = count by omega) hrest
    exact hfirst.append hnext

end Phase

/-! ## A chunk that disagrees -/

/-- What was received of the document. -/
def MarkerSlot.held (slot : MarkerSlot) : List UInt8 :=
  match slot.assembler with
  | some assembler => assembler.bytes
  | none => slot.header

/-- Some byte of the chunk differs from the one that was received at its position. -/
def Disagrees (held : List UInt8) (value : MarkerChunkV2) : Prop :=
  ∃ position byte byte', value.chunk[position]? = some byte ∧
    held[value.chunkOffset.toNat + position]? = some byte' ∧ byte ≠ byte'

theorem Disagrees.conflict {held : List UInt8} {value : MarkerChunkV2} (h : Disagrees held value) :
    value.chunkOffset.toNat < held.length ∧
      (held.drop value.chunkOffset.toNat).take value.chunk.length ≠ value.chunk := by
  obtain ⟨position, byte, byte', hchunk, hheld, hne⟩ := h
  obtain ⟨hposition, -⟩ := List.getElem?_eq_some_iff.mp hchunk
  obtain ⟨hinside, -⟩ := List.getElem?_eq_some_iff.mp hheld
  refine ⟨by omega, fun hsame => hne ?_⟩
  rw [← hsame, List.getElem?_take_of_lt hposition, List.getElem?_drop, hheld] at hchunk
  exact (Option.some.inj hchunk).symm

theorem push_disagrees {slot : MarkerSlot} {session : UInt64} {value : MarkerChunkV2}
    (h : Disagrees slot.held value) (next : MarkerSlot) (complete : Bool) :
    slot.push session value ≠ (next, .ok complete) := by
  obtain ⟨hinside, hconflict⟩ := h.conflict
  unfold MarkerSlot.held at hinside hconflict
  unfold MarkerSlot.push
  cases hassembler : slot.assembler with
  | some assembler =>
    rw [hassembler] at hinside hconflict
    dsimp only at hinside hconflict ⊢
    split
    · exact nofun
    obtain ⟨error, herror⟩ : ∃ error, assembler.push session (slot.index + 1)
        value.chunkOffset.toNat value.chunk = (assembler, .error error) :=
      assembler.push_conflict hinside hconflict
    rw [herror]
    exact nofun
  | none =>
    rw [hassembler] at hinside hconflict
    dsimp only at hinside hconflict ⊢
    rw [if_pos hinside, Nat.add_sub_cancel_left, if_pos (.inr hconflict)]
    exact nofun

/-- An idle receiver fails on a chunk of another document than the next one, and on a chunk that
disagrees with what it holds. -/
theorem receive_disagrees {sha256 : List UInt8 → FixedBytes 32} {receiver : EncryptedUploadV2Receiver}
    {bytes : List UInt8} {value : MarkerChunkV2} (hkept : Kept sha256 receiver)
    (hrunning : receiver.terminal = false) (hio : receiver.io = none)
    (hprepared : receiver.prepared = true)
    (hdecode : decodeEncryptedUploadV2Transfer bytes = .ok (.markerChunk value))
    (h : value.documentIndex.toNat ≠ receiver.markerDocumentsPersisted ∨
      ∃ slot, receiver.markerSlot = some slot ∧ Disagrees slot.held value) :
    (∃ error, (call sha256 receiver (.receive bytes)).2 = .err error) ∧
      (call sha256 receiver (.receive bytes)).1.terminal = true := by
  have hstep := call_cases hkept (.receive bytes)
  generalize (call sha256 receiver (.receive bytes)).1 = next at hstep ⊢
  generalize (call sha256 receiver (.receive bytes)).2 = reply at hstep ⊢
  have hrejected : ∀ slot complete, ¬receiver.markerRejected sha256 value →
      (receiver.slotFor value).push receiver.config.transportSessionId value ≠
        (slot, .ok complete) := by
    intro next complete hvalue
    rcases h with hindex | ⟨slot, hslot, hdisagrees⟩
    · simp only [markerRejected, not_or, not_not] at hvalue
      exact absurd hvalue.2.2.2.2.2.2.2.1 hindex
    · unfold slotFor
      rw [hslot, Option.getD_some]
      exact push_disagrees hdisagrees next complete
  cases hstep with
  | refused _ error hrefused =>
    rcases hrefused with hterminal | hsome | hunprepared
    · exact absurd (hrunning.symm.trans hterminal) Bool.false_ne_true
    · rw [hio] at hsome
      exact absurd hsome Bool.false_ne_true
    · exact absurd (hunprepared.symm.trans hprepared) Bool.false_ne_true
  | failed _ _ error _ hterminal _ _ _ => exact ⟨⟨error, rfl⟩, hterminal⟩
  | received _ frame _ action _ _ _ hframe hstep =>
    obtain rfl := Except.ok.inj (hdecode.symm.trans hframe)
    cases hstep with
    | markerFragment _ slot hvalue hpush _ => exact absurd hpush (hrejected slot false hvalue)
    | markerDocument _ slot document contextDigest hvalue hpush _ _ _ =>
      exact absurd hpush (hrejected slot true hvalue)

/-! ## Completion -/

/-- What the receiver has done with the documents it handed out: `persisted` of them were persisted, and
at most one more is outstanding. -/
structure MarkersKept (sha256 : List UInt8 → FixedBytes 32) (tr : List Exchange)
    (receiver : EncryptedUploadV2Receiver) (persisted : List MarkerAppend) : Prop where
  length : persisted.length = receiver.markerDocumentsPersisted
  hash : (persisted.map MarkerAppend.document).flatten = receiver.markerDocumentsHash
  answered : ∀ document ∈ persisted, ∃ e ∈ tr,
    e.input = .apply (.applied document.requestId) ∧ e.output = .ok .none
  indices : persisted.map (fun document => document.documentIndex.toNat) =
    List.range persisted.length
  count : ∀ document ∈ appendsOf tr, receiver.markerCount = some document.documentCount
  sums : ∀ document ∈ appendsOf tr, document.documentSha256 = sha256 document.document
  quiet : (∀ requestId, receiver.io ≠ some { requestId, purpose := .markerPersist }) →
    appendsOf tr = persisted
  outstanding : ∀ requestId, receiver.io = some { requestId, purpose := .markerPersist } →
    ∃ document slot, appendsOf tr = persisted ++ [document] ∧ document.requestId = requestId ∧
      document.documentIndex.toNat = persisted.length ∧ receiver.markerSlot = some slot ∧
      slot.document = some document.document

section Completion

variable {sha256 : List UInt8 → FixedBytes 32} {receiver next : EncryptedUploadV2Receiver}
  {tr : List Exchange} {persisted : List MarkerAppend} {e : Exchange}

theorem MarkersKept.later (h : ∀ document ∈ persisted, ∃ e ∈ tr,
      e.input = .apply (.applied document.requestId) ∧ e.output = .ok .none) (last : Exchange) :
    ∀ document ∈ persisted, ∃ e ∈ tr ++ [last],
      e.input = .apply (.applied document.requestId) ∧ e.output = .ok .none := by
  intro document hmem
  obtain ⟨e, he, hanswered⟩ := h document hmem
  exact ⟨e, List.mem_append_left _ he, hanswered⟩

/-- A step that neither hands out nor persists a document. -/
theorem MarkersKept.rest (h : MarkersKept sha256 tr receiver persisted)
    (hquiet : ∀ requestId, receiver.io ≠ some { requestId, purpose := .markerPersist })
    (hnone : appendOf e.output = none)
    (hlength : next.markerDocumentsPersisted = receiver.markerDocumentsPersisted)
    (hhash : next.markerDocumentsHash = receiver.markerDocumentsHash)
    (hcount : ∀ document ∈ appendsOf tr, next.markerCount = some document.documentCount)
    (hnext : ∀ requestId, next.io ≠ some { requestId, purpose := .markerPersist }) :
    MarkersKept sha256 (tr ++ [e]) next persisted := by
  have hsame : appendsOf (tr ++ [e]) = appendsOf tr := by
    rw [appendsOf_append, appendsOf_singleton, hnone]
    exact List.append_nil _
  constructor
  · rw [hlength]
    exact h.length
  · rw [hhash]
    exact h.hash
  · exact MarkersKept.later h.answered e
  · exact h.indices
  · rw [hsame]
    exact hcount
  · rw [hsame]
    exact h.sums
  · rw [hsame]
    exact fun _ => h.quiet hquiet
  · exact fun requestId hio => absurd hio (hnext requestId)

/-- A refused call. -/
theorem MarkersKept.refused {error : DeviceSdkError} (h : MarkersKept sha256 tr receiver persisted)
    (houtput : e.output = .err error) : MarkersKept sha256 (tr ++ [e]) receiver persisted := by
  have hsame : appendsOf (tr ++ [e]) = appendsOf tr := by
    rw [appendsOf_append, appendsOf_singleton, houtput]
    exact List.append_nil _
  constructor
  · exact h.length
  · exact h.hash
  · exact MarkersKept.later h.answered e
  · exact h.indices
  · rw [hsame]
    exact h.count
  · rw [hsame]
    exact h.sums
  · rw [hsame]
    exact h.quiet
  · rw [hsame]
    exact h.outstanding

theorem Advance.not_marker {pending : PendingWindow} {rest : List Packet}
    {action : EncryptedUploadV2ReceiverAction} (h : Advance receiver pending rest next action) :
    appendOf (.ok action) = none ∧
      next.markerDocumentsPersisted = receiver.markerDocumentsPersisted ∧
      next.markerDocumentsHash = receiver.markerDocumentsHash ∧
      next.markerCount = receiver.markerCount ∧
      ∀ requestId, next.io ≠ some { requestId, purpose := .markerPersist } := by
  cases h with
  | append batch rest _ => exact ⟨rfl, rfl, rfl, rfl, nofun⟩
  | inspect => exact ⟨rfl, rfl, rfl, rfl, nofun⟩

/-- A document is handed out. -/
theorem MarkersKept.handOut (h : MarkersKept sha256 tr receiver persisted)
    (hio : receiver.io = none) {value : MarkerChunkV2} {slot : MarkerSlot} {document : List UInt8}
    {contextDigest : FixedBytes 32} (hvalue : ¬receiver.markerRejected sha256 value)
    (hdocument : slot.document = some document) (hsum : sha256 document = value.documentSha256)
    (houtput : e.output = .ok (.appendMarkerDocument receiver.nextRequestId value.documentIndex
      value.documentCount value.documentSha256 document)) :
    MarkersKept sha256 (tr ++ [e])
      (requested { receiver with
        markerCount := some value.documentCount
        markerSlot := some slot
        markerContextDigest := some contextDigest } .markerPersist) persisted := by
  have hquiet : appendsOf tr = persisted := h.quiet fun requestId hsome => nomatch hio.symm.trans hsome
  have happends : appendsOf (tr ++ [e]) = persisted ++ [{
      requestId := receiver.nextRequestId
      documentIndex := value.documentIndex
      documentCount := value.documentCount
      documentSha256 := value.documentSha256
      document }] := by
    rw [appendsOf_append, appendsOf_singleton, houtput, hquiet]
    rfl
  have hcount : ∀ known, receiver.markerCount = some known → known = value.documentCount := by
    intro known hknown
    by_contra hne
    simp only [markerRejected, not_or] at hvalue
    exact hvalue.2.2.2.2.2.2.2.2.2.1 ⟨known, hknown, hne⟩
  have hindex : value.documentIndex.toNat = receiver.markerDocumentsPersisted := by
    simp only [markerRejected, not_or, not_not] at hvalue
    exact hvalue.2.2.2.2.2.2.2.1
  constructor
  · exact h.length
  · exact h.hash
  · exact MarkersKept.later h.answered e
  · exact h.indices
  · rw [happends]
    intro earlier hmem
    rcases List.mem_append.mp hmem with hmem | hmem
    · exact congrArg some (hcount _ (h.count earlier (hquiet ▸ hmem))).symm
    · obtain rfl := List.mem_singleton.mp hmem
      rfl
  · rw [happends]
    intro earlier hmem
    rcases List.mem_append.mp hmem with hmem | hmem
    · exact h.sums earlier (hquiet ▸ hmem)
    · obtain rfl := List.mem_singleton.mp hmem
      exact hsum.symm
  · exact fun hidle => absurd rfl (hidle receiver.nextRequestId)
  · intro requestId hsome
    have hid : receiver.nextRequestId = requestId :=
      congrArg PendingIo.requestId (Option.some.inj hsome)
    exact ⟨_, slot, happends, hid, hindex.trans h.length.symm, rfl, hdocument⟩

theorem MarkersKept.frame {frame : EncryptedUploadV2Transfer}
    {action : EncryptedUploadV2ReceiverAction} (h : MarkersKept sha256 tr receiver persisted)
    (hio : receiver.io = none) (hstep : FrameStep sha256 receiver frame next action)
    (houtput : e.output = .ok action) : MarkersKept sha256 (tr ++ [e]) next persisted := by
  have hquiet : ∀ requestId, receiver.io ≠ some { requestId, purpose := .markerPersist } :=
    fun requestId hsome => by cases hio.symm.trans hsome
  cases hstep with
  | window value pending written rest _ _ _ _ _ hadvance =>
    obtain ⟨hnone, hlength, hhash, hcount, hnext⟩ := hadvance.not_marker
    rw [← houtput] at hnone
    exact h.rest hquiet hnone hlength hhash (fun document hmem => hcount.trans (h.count document hmem))
      hnext
  | markerFragment value slot hvalue _ _ =>
    refine h.rest hquiet (congrArg appendOf houtput) rfl rfl (fun document hmem => ?_) hquiet
    by_contra hne
    simp only [markerRejected, not_or] at hvalue
    exact hvalue.2.2.2.2.2.2.2.2.2.1 ⟨_, h.count document hmem,
      fun hsame => hne (congrArg some hsame.symm)⟩
  | markerDocument value slot document contextDigest hvalue _ _ hdocument hsum =>
    exact h.handOut hio hvalue hdocument hsum houtput
  | eof value _ => exact h.rest hquiet (congrArg appendOf houtput) rfl rfl h.count (by rintro _ ⟨⟩)
  | _ => exact h.rest hquiet (congrArg appendOf houtput) rfl rfl h.count hquiet

/-- The outstanding document is persisted. -/
theorem MarkersKept.persist (h : MarkersKept sha256 tr receiver persisted) {requestId : Nat}
    {slot : MarkerSlot} {document : List UInt8}
    (hio : receiver.io = some { requestId, purpose := .markerPersist })
    (hslot : receiver.markerSlot = some slot) (hdocument : slot.document = some document)
    (hinput : e.input = .apply (.applied requestId)) (houtput : e.output = .ok .none) :
    ∃ persisted, MarkersKept sha256 (tr ++ [e])
      { receiver with
        io := none
        markerSlot := none
        markerDocumentsHash := receiver.markerDocumentsHash ++ document
        markerDocumentsPersisted := receiver.markerDocumentsPersisted + 1 } persisted := by
  obtain ⟨last, slot', happends, hid, hindex, hslot', hdocument'⟩ := h.outstanding requestId hio
  obtain rfl : slot = slot' := Option.some.inj (hslot.symm.trans hslot')
  obtain rfl : document = last.document := Option.some.inj (hdocument.symm.trans hdocument')
  have hsame : appendsOf (tr ++ [e]) = persisted ++ [last] := by
    rw [appendsOf_append, appendsOf_singleton, houtput, happends]
    exact List.append_nil _
  refine ⟨persisted ++ [last], ?_⟩
  constructor
  · rw [List.length_append, h.length]
    rfl
  · rw [List.map_append, List.flatten_append, h.hash]
    exact congrArg _ (List.append_nil _)
  · intro earlier hmem
    rcases List.mem_append.mp hmem with hmem | hmem
    · exact MarkersKept.later h.answered e earlier hmem
    · obtain rfl := List.mem_singleton.mp hmem
      exact ⟨e, List.mem_append_right _ List.mem_cons_self, hid ▸ hinput, houtput⟩
  · rw [List.map_append, h.indices, List.length_append, List.length_singleton, List.range_succ,
      List.map_singleton, hindex]
  · rw [hsame, ← happends]
    exact h.count
  · rw [hsame, ← happends]
    exact h.sums
  · exact fun _ => hsame
  · exact nofun

theorem MarkersKept.event {event : EncryptedUploadV2ReceiverEvent} {purpose : IoPurpose}
    {action : EncryptedUploadV2ReceiverAction} (h : MarkersKept sha256 tr receiver persisted)
    (hio : receiver.io = some { requestId := event.requestId, purpose })
    (hstep : EventStep sha256 { receiver with io := none } purpose event next action)
    (hinput : e.input = .apply event) (houtput : e.output = .ok action) :
    ∃ persisted, MarkersKept sha256 (tr ++ [e]) next persisted := by
  have hquiet : purpose ≠ .markerPersist →
      ∀ requestId, receiver.io ≠ some { requestId, purpose := .markerPersist } :=
    fun hne requestId hsome =>
      hne (congrArg PendingIo.purpose (Option.some.inj (hio.symm.trans hsome)))
  cases hstep with
  | markerPersisted requestId slot document hslot hdocument =>
    exact h.persist hio hslot hdocument hinput houtput
  | appended _ pending written batch rest _ _ _ _ hadvance =>
    obtain ⟨hnone, hlength, hhash, hcount, hnext⟩ := hadvance.not_marker
    rw [← houtput] at hnone
    exact ⟨persisted, h.rest (hquiet nofun) hnone hlength hhash
      (fun document hmem => hcount.trans (h.count document hmem)) hnext⟩
  | _ =>
    exact ⟨persisted, h.rest (hquiet nofun) (congrArg appendOf houtput) rfl rfl h.count nofun⟩

theorem MarkersKept.call {input : Call} {reply : Reply} (hkept : Kept sha256 receiver)
    (h : MarkersKept sha256 tr receiver persisted)
    (hstep : CallStep sha256 receiver input next reply) (hrunning : next.terminal = false) :
    ∃ persisted, MarkersKept sha256 (tr ++ [⟨receiver, input, reply⟩]) next persisted := by
  cases hstep with
  | refused _ error _ => exact ⟨persisted, h.refused rfl⟩
  | failed _ _ error _ hterminal _ _ _ =>
    exact absurd (hrunning.symm.trans hterminal) Bool.false_ne_true
  | cancelled => exact absurd hrunning.symm Bool.false_ne_true
  | started hactive hstarted =>
    have hio := ((hkept.running hactive).unstarted hstarted).2.1
    exact ⟨persisted, h.rest (fun requestId hsome => nomatch hio.symm.trans hsome) rfl rfl rfl h.count
      nofun⟩
  | received bytes frame _ action _ hio _ _ hstep => exact ⟨persisted, h.frame hio hstep rfl⟩
  | answered event purpose _ action _ hio hstep => exact h.event hio hstep rfl rfl

end Completion

/-! ## Runs -/

/-- The receiver is idle with the whole ciphertext and manifest, and has seen no marker. -/
structure AwaitsMarkers (sha256 : List UInt8 → FixedBytes 32) (receiver : EncryptedUploadV2Receiver) :
    Prop where
  running : receiver.terminal = false
  idle : receiver.io = none
  prepared : receiver.prepared = true
  required : receiver.config.markersRequired = true
  window : receiver.pendingWindow = none
  packets : receiver.packets.entries = []
  whole : receiver.checkpoint.nextCiphertextOffset = receiver.config.expectedCiphertextLength
  present : false ∉ receiver.manifestPresent
  manifest : receiver.manifestSha256 = some (sha256 receiver.manifest)
  untouched : receiver.markerCount = none ∧ receiver.markerDocumentsPersisted = 0 ∧
    receiver.markerSlot = none ∧ receiver.markerContextDigest = none

section Runs

variable {sha256 : List UInt8 → FixedBytes 32} {config : EncryptedUploadV2ReceiverConfig}
  {receiver s : EncryptedUploadV2Receiver} {tr : List Exchange}

theorem AwaitsMarkers.phase (h : AwaitsMarkers sha256 s) (hkept : Kept sha256 s)
    (context : FixedBytes 32) (count : Nat) : MarkerPhase sha256 context count s where
  running := ⟨h.running, by
    by_contra hcancelled
    have hterminal := hkept.cancelled (Bool.not_eq_false _ ▸ hcancelled)
    exact Bool.false_ne_true (h.running.symm.trans hterminal)⟩
  idle := h.idle
  prepared := h.prepared
  required := h.required
  session := (hkept.running h.running).sound.config.session
  window := h.window
  packets := h.packets
  whole := h.whole
  present := h.present
  manifest := h.manifest
  count := fun known hknown => nomatch h.untouched.1.symm.trans hknown
  context := fun known hknown => nomatch h.untouched.2.2.2.symm.trans hknown

theorem persisted_afterDeliveries (context : FixedBytes 32) (count : Nat)
    (deliveries : List Delivery) (receiver : EncryptedUploadV2Receiver) :
    (afterDeliveries receiver context count deliveries).markerDocumentsPersisted =
      receiver.markerDocumentsPersisted + deliveries.length := by
  induction deliveries generalizing receiver with
  | nil => rfl
  | cons delivery deliveries ih =>
    rw [afterDeliveries, ih, List.length_cons]
    show receiver.markerDocumentsPersisted + 1 + deliveries.length = _
    omega

theorem markers_of_calls (hnew : new sha256 config = .ok receiver) (h : Calls sha256 receiver tr s) :
    s.terminal = false →
      s.config = config ∧ ∃ persisted, MarkersKept sha256 tr s persisted := by
  refine h.invariant (fun tr s => s.terminal = false →
    s.config = config ∧ ∃ persisted, MarkersKept sha256 tr s persisted) (fun _ => ?_)
    fun tr s input hrun ih _ hrunning => ?_
  · obtain ⟨-, rfl⟩ := new_eq_ok hnew
    refine ⟨rfl, [], ⟨rfl, rfl, nofun, rfl, nofun, nofun, fun _ => rfl, nofun⟩⟩
  · have hkept := kept_of_calls hnew hrun
    have hstep := call_cases hkept input
    obtain ⟨hconfig, persisted, hmarkers⟩ := ih (hstep.running hrunning)
    exact ⟨(hstep.config hrunning).trans hconfig, hmarkers.call hkept hstep hrunning⟩

/-- A completion speaks of every document that was handed out. -/
theorem complete_of_calls (hnew : new sha256 config = .ok receiver) (h : Calls sha256 receiver tr s)
    (hrequired : config.markersRequired = true) {input : Call} {manifest : List UInt8}
    {evidence : EncryptedUploadV2TransferEvidence}
    {markerEvidence : Option EncryptedUploadV2ReceiverMarkerEvidence}
    (hcomplete : (call sha256 s input).2 = .ok (.complete manifest evidence markerEvidence)) :
    s.markerCount.map UInt32.toNat = some (appendsOf tr).length ∧
      (appendsOf tr).map (fun document => document.documentIndex.toNat) =
        List.range (appendsOf tr).length ∧
      (∀ document ∈ appendsOf tr, document.documentCount.toNat = (appendsOf tr).length ∧
        document.documentSha256 = sha256 document.document ∧
        ∃ e ∈ tr, e.input = .apply (.applied document.requestId) ∧ e.output = .ok .none) ∧
      markerEvidence = some {
        documentCount := (appendsOf tr).length
        documentsSha256 := sha256 ((appendsOf tr).map MarkerAppend.document).flatten } := by
  have hkept := kept_of_calls hnew h
  have hstep := call_cases hkept input
  rw [hcomplete] at hstep
  generalize (call sha256 s input).1 = next at hstep
  cases hstep with
  | received _ frame _ _ _ _ _ _ hframe => exact absurd rfl (hframe.not_complete _ _ _)
  | answered event purpose _ _ hrunning hio hevent =>
    cases hevent with
    | appended _ _ _ _ _ _ _ _ _ hadvance => exact absurd rfl (hadvance.not_complete _ _ _)
    | completed requestId eof _ hevidence =>
      obtain ⟨hconfig, persisted, hmarkers⟩ := markers_of_calls hnew h hrunning
      have howned := (hkept.running hrunning).owned _ hio
      have hall : appendsOf tr = persisted := hmarkers.quiet fun requestId hsome =>
        nomatch congrArg PendingIo.purpose (Option.some.inj (hio.symm.trans hsome))
      have hmust : s.config.markersRequired = true := by
        rw [hconfig]
        exact hrequired
      have hcount := howned.2.2.2.2.2 hmust
      rw [if_pos hmust] at hevidence
      rw [hall, hmarkers.length]
      refine ⟨hcount, hmarkers.length ▸ hmarkers.indices, fun document hmem => ?_, ?_⟩
      · rw [← hall] at hmem
        rw [hmarkers.count document hmem] at hcount
        exact ⟨Option.some.inj hcount, hmarkers.sums document hmem,
          hmarkers.answered document (hall ▸ hmem)⟩
      · rw [hevidence, hmarkers.hash]

/-- In every state that calls can reach: an idle receiver that waits for markers takes any split of the
documents of one context into chunks, with repeated chunks before the last one of a document, and hands
out exactly the documents, in order; an idle receiver fails on a chunk that disagrees with what it
holds; and a completion comes after every document was persisted and carries the hash of all. -/
theorem markers_whole (sha256 : List UInt8 → FixedBytes 32)
    (config : EncryptedUploadV2ReceiverConfig) (receiver s : EncryptedUploadV2Receiver)
    (tr : List Exchange) (hnew : new sha256 config = .ok receiver)
    (h : Calls sha256 receiver tr s) :
    (AwaitsMarkers sha256 s → ∀ context deliveries, 2 ≤ deliveries.length →
      deliveries.length ≤ 4097 → ValidDeliveries context 0 deliveries →
      s.nextRequestId + deliveries.length < 2 ^ 64 →
      let run := Machine.exec (call sha256) [] s (markerCalls sha256 s.config.transportSessionId
        deliveries.length s.nextRequestId 0 deliveries)
      (∀ e ∈ run.1, ∃ action, e.output = .ok action) ∧
        appendsOf run.1 = markerAppends sha256 deliveries.length s.nextRequestId 0 deliveries ∧
        run.2.markerDocumentsPersisted = deliveries.length) ∧
    (∀ bytes value, s.terminal = false → s.io = none → s.prepared = true →
      decodeEncryptedUploadV2Transfer bytes = .ok (.markerChunk value) →
      (value.documentIndex.toNat ≠ s.markerDocumentsPersisted ∨
        ∃ slot, s.markerSlot = some slot ∧ Disagrees slot.held value) →
      (∃ error, (call sha256 s (.receive bytes)).2 = .err error) ∧
        (call sha256 s (.receive bytes)).1.terminal = true) ∧
    ∀ input manifest evidence markerEvidence, config.markersRequired = true →
      (call sha256 s input).2 = .ok (.complete manifest evidence markerEvidence) →
      s.markerCount.map UInt32.toNat = some (appendsOf tr).length ∧
        (appendsOf tr).map (fun document => document.documentIndex.toNat) =
          List.range (appendsOf tr).length ∧
        (∀ document ∈ appendsOf tr, document.documentCount.toNat = (appendsOf tr).length ∧
          document.documentSha256 = sha256 document.document ∧
          ∃ e ∈ tr, e.input = .apply (.applied document.requestId) ∧ e.output = .ok .none) ∧
        markerEvidence = some {
          documentCount := (appendsOf tr).length
          documentsSha256 := sha256 ((appendsOf tr).map MarkerAppend.document).flatten } := by
  have hkept := kept_of_calls hnew h
  refine ⟨fun hawaits context deliveries hleast hmost hvalid hroom => ?_, ?_, ?_⟩
  · obtain ⟨-, hnone, hslot, -⟩ := hawaits.untouched
    have hphase := hawaits.phase hkept context deliveries.length
    have hserves := serves_deliveries ⟨hleast, hmost⟩ hphase hslot hroom
      (by rw [hnone, Nat.zero_add]) (by rwa [hnone])
    rw [hnone] at hserves
    obtain ⟨later, hexec, hok, happends⟩ := hserves []
    dsimp only
    rw [hexec, List.nil_append]
    refine ⟨hok, happends, ?_⟩
    rw [persisted_afterDeliveries, hnone, Nat.zero_add]
  · intro bytes value hrunning hio hprepared hdecode hwrong
    exact receive_disagrees hkept hrunning hio hprepared hdecode hwrong
  · intro input manifest evidence markerEvidence hrequired hcomplete
    exact complete_of_calls hnew h hrequired hcomplete

end Runs

/-! ## The manifest before the markers -/

theorem set_then_splice {α : Type} {l : List α} {index : Nat} (x : α) (xs : List α)
    (h : index < l.length) :
    (l.set index x).take (index + 1) ++ xs ++ (l.set index x).drop (index + 1 + xs.length) =
      l.take index ++ (x :: xs) ++ l.drop (index + (x :: xs).length) := by
  rw [List.drop_set_of_lt (by omega), List.take_add_one, List.take_set_of_le (Nat.le_refl index),
    List.getElem?_set_self h, Option.toList_some, List.length_cons, Nat.add_assoc index 1,
    Nat.add_comm 1]
  simp only [List.append_assoc, List.cons_append, List.nil_append]

/-- A chunk at positions that are still free. -/
theorem writeManifest_free {self : EncryptedUploadV2Receiver} {index : Nat} {chunk : List UInt8}
    (hroom : index + chunk.length ≤ self.manifest.length)
    (hfree : ∀ position < chunk.length, self.manifestPresent[index + position]? = some false) :
    self.writeManifest index chunk =
      ({ self with
          manifest := self.manifest.take index ++ chunk ++
            self.manifest.drop (index + chunk.length)
          manifestPresent := self.manifestPresent.take index ++ .replicate chunk.length true ++
            self.manifestPresent.drop (index + chunk.length) },
        .ok ()) := by
  induction chunk generalizing self index with
  | nil =>
    rw [writeManifest, List.length_nil, Nat.add_zero, List.append_nil, List.take_append_drop,
      List.replicate_zero, List.append_nil, List.take_append_drop]
  | cons byte chunk ih =>
    rw [List.length_cons] at hroom hfree
    have hpresent : self.manifestPresent[index]? = some false := hfree 0 (Nat.zero_lt_succ _)
    obtain ⟨hinside, -⟩ := List.getElem?_eq_some_iff.mp hpresent
    rw [writeManifest, hpresent, List.getElem?_eq_getElem (by omega)]
    dsimp only
    rw [if_neg (fun h => Bool.false_ne_true h.1), ih]
    · have hmanifest := set_then_splice byte chunk (show index < self.manifest.length by omega)
      have hmarks := set_then_splice true (.replicate chunk.length true) hinside
      rw [List.length_cons, List.length_replicate] at hmarks
      rw [hmanifest, hmarks]
      rfl
    · rw [List.length_set]
      omega
    · intro position hposition
      rw [List.getElem?_set_ne (by omega), Nat.add_assoc, Nat.add_comm 1]
      exact hfree (position + 1) (by omega)

theorem call_manifest (sha256 : List UInt8 → FixedBytes 32) (receiver : EncryptedUploadV2Receiver)
    (bytes : List UInt8) (value : ManifestChunkV2) (hactive : receiver.requireActive = .ok ())
    (hready : receiver.io = none ∧ receiver.prepared = true)
    (hdecode : decodeEncryptedUploadV2Transfer bytes = .ok (.manifestChunk value))
    (hsession : value.common.transportSessionId = receiver.config.transportSessionId)
    (hphase : receiver.pendingWindow = none ∧ receiver.packets.entries = [] ∧
      receiver.checkpoint.nextCiphertextOffset = receiver.config.expectedCiphertextLength)
    (htotal : value.totalManifestLength.toNat = receiver.manifest.length) (hchunk : value.chunk ≠ [])
    (hroom : value.chunkOffset.toNat + value.chunk.length ≤ receiver.manifest.length)
    (hhash : ∀ known, receiver.manifestSha256 = some known → known = value.manifestSha256)
    (hfree : ∀ position < value.chunk.length,
      receiver.manifestPresent[value.chunkOffset.toNat + position]? = some false) :
    call sha256 receiver (.receive bytes) =
      ({ receiver with
          manifest := receiver.manifest.take value.chunkOffset.toNat ++ value.chunk ++
            receiver.manifest.drop (value.chunkOffset.toNat + value.chunk.length)
          manifestPresent := receiver.manifestPresent.take value.chunkOffset.toNat ++
            .replicate value.chunk.length true ++
            receiver.manifestPresent.drop (value.chunkOffset.toNat + value.chunk.length)
          manifestSha256 := some value.manifestSha256 },
        .ok .none) := by
  have hreceive : receiver.receive sha256 bytes = finishResult (receiver.receiveManifest value) := by
    unfold receive
    rw [hactive, hready.1, hready.2, receiveInner, hdecode]
    dsimp only
    rw [if_neg (by decide), if_neg (by decide)]
    unfold receiveFrame commonOf
    dsimp only
    rw [if_neg (not_not.mpr hsession)]
  show receiver.receive sha256 bytes = _
  rw [hreceive]
  unfold receiveManifest
  rw [if_neg, writeManifest_free hroom hfree]
  · rfl
  · rintro (hwindow | hpackets | hwhole | hlength | hempty | houtside | ⟨known, hknown, hother⟩)
    · rw [hphase.1] at hwindow
      exact Bool.false_ne_true hwindow
    · exact hpackets hphase.2.1
    · exact hwhole hphase.2.2
    · exact hlength htotal
    · exact hchunk hempty
    · exact Nat.not_lt.mpr hroom houtside
    · rw [hhash known (Option.mem_def.mp hknown)] at hother
      exact equalHash_self _ hother

/-! ## A sample -/

/-- The retained sink holds the whole ciphertext already. -/
def sampleMarkerConfig : EncryptedUploadV2ReceiverConfig :=
  { sampleConfig with
    checkpoint := {
      revision := 1
      nextCiphertextOffset := 6
      prefixSha256 := Sha256.digest [1, 2, 3, 4, 5, 6]
      highestContiguousSequence := some 2 }
    markersRequired := true }

/-- A piece of a manifest of zeros. -/
def sampleManifest (offset length : Nat) : ManifestChunkV2 where
  common := { messageType := 0x43, flags := 0, transportSessionId := 7 }
  totalManifestLength := 580
  chunkOffset := UInt16.ofNat offset
  manifestSha256 := Sha256.digest (.replicate 580 0)
  chunk := .replicate length 0

/-- The receiver that has proved the retained sink. -/
def sampleReady : EncryptedUploadV2Receiver :=
  (Machine.exec (call Sha256.digest) [] (fresh sampleMarkerConfig)
    [.start, .apply (.sinkProof 1 6 (Sha256.digest [1, 2, 3, 4, 5, 6]))]).2

/-- The receiver after a part of the manifest. -/
def sampleHeld (present : Nat) : EncryptedUploadV2Receiver :=
  { sampleReady with
    manifest := .replicate 580 0
    manifestPresent := .replicate present true ++ .replicate (580 - present) false
    manifestSha256 := some (Sha256.digest (.replicate 580 0)) }

def sampleDocument (kind : UInt8) (length : Nat) : List UInt8 :=
  RECORDING_MARKER_MAGIC ++ [1, 0, kind, 0, UInt8.ofNat length, 0, 0, 0] ++ .replicate 16 1 ++
    .replicate 32 5 ++ .replicate (length - 64) 9

/-- The header of the first document is split, and its first chunk comes twice. -/
def sampleDeliveries : List Delivery :=
  let document := sampleDocument 2 200
  [(document, [(0, document.take 40), (40, (document.drop 40).take 60), (0, document.take 40),
      (100, document.drop 100)]),
    (sampleDocument 3 217, [(0, sampleDocument 3 217)])]

theorem held_congr {receiver : EncryptedUploadV2Receiver} {manifest manifest' : List UInt8}
    {present present' : List Bool} {hash : Option (FixedBytes 32)} (hmanifest : manifest = manifest')
    (hpresent : present = present') :
    (({ receiver with manifest, manifestPresent := present, manifestSha256 := hash }, .ok .none) :
        EncryptedUploadV2Receiver × Reply) =
      ({ receiver with
          manifest := manifest'
          manifestPresent := present'
          manifestSha256 := hash }, .ok .none) := by
  rw [hmanifest, hpresent]

theorem calls_sampleHeld : ∃ tr, Calls Sha256.digest (fresh sampleMarkerConfig) tr (sampleHeld 580) := by
  have hready : Calls Sha256.digest (fresh sampleMarkerConfig) _ sampleReady :=
    .exec (Machine.allowed_true _ (fresh sampleMarkerConfig) _)
  have hhalf : call Sha256.digest sampleReady (.receive (frame (.manifestChunk (sampleManifest 0 300)))) =
      (sampleHeld 300, .ok .none) := by
    have hnone : sampleReady.manifestSha256 = none := rfl
    have hcall := call_manifest Sha256.digest sampleReady
      (frame (.manifestChunk (sampleManifest 0 300))) (sampleManifest 0 300) rfl
      ⟨rfl, rfl⟩ (by decide +kernel) rfl ⟨rfl, rfl, rfl⟩
      (by decide +kernel) (by decide) (by decide +kernel)
      (fun _ h => nomatch hnone.symm.trans h) (by decide +kernel)
    exact hcall.trans (held_congr (by decide +kernel) (by decide +kernel))
  have hwhole : call Sha256.digest (sampleHeld 300)
      (.receive (frame (.manifestChunk (sampleManifest 300 280)))) = (sampleHeld 580, .ok .none) := by
    have hcall := call_manifest Sha256.digest (sampleHeld 300)
      (frame (.manifestChunk (sampleManifest 300 280))) (sampleManifest 300 280) rfl
      ⟨rfl, rfl⟩ (by decide +kernel) rfl ⟨rfl, rfl, rfl⟩
      (by decide +kernel) (by decide) (by decide +kernel) (fun _ h => (Option.some.inj h).symm)
      (by decide +kernel)
    exact hcall.trans (held_congr (by decide +kernel) (by decide +kernel))
  have hrun := (hready.snoc (.receive (frame (.manifestChunk (sampleManifest 0 300)))) trivial).snoc
    (.receive (frame (.manifestChunk (sampleManifest 300 280)))) trivial
  rw [hhalf, hwhole] at hrun
  exact ⟨_, hrun⟩

theorem awaitsMarkers_sample : AwaitsMarkers Sha256.digest (sampleHeld 580) where
  running := rfl
  idle := rfl
  prepared := rfl
  required := rfl
  window := rfl
  packets := rfl
  whole := rfl
  present := by decide +kernel
  manifest := rfl
  untouched := ⟨rfl, rfl, rfl, rfl⟩

theorem validDeliveries_sample : ValidDeliveries (FixedBytes.replicate 32 5) 0 sampleDeliveries := by
  have hseal : ValidDocument (FixedBytes.replicate 32 5) 0 (sampleDocument 2 200)
      ⟨2, 200, FixedBytes.replicate 16 1, FixedBytes.replicate 32 5⟩ :=
    ⟨by decide +kernel, rfl, rfl⟩
  have hpage : ValidDocument (FixedBytes.replicate 32 5) 1 (sampleDocument 3 217)
      ⟨3, 217, FixedBytes.replicate 16 1, FixedBytes.replicate 32 5⟩ :=
    ⟨by decide +kernel, rfl, rfl⟩
  generalize hdocument : sampleDocument 2 200 = document at hseal
  have hfirst : Chunks document (document.take 40) [(0, document.take 40)] :=
    .next .nil (by rw [← hdocument]; decide) (List.take_prefix 40 document)
  have hsecond : Chunks document (document.take 100)
      [(0, document.take 40), (40, (document.drop 40).take 60)] := by
    have hparts : document.take 40 ++ (document.drop 40).take 60 = document.take 100 := by
      rw [← List.take_add]
    have hlength : (document.take 40).length = 40 := by
      rw [← hdocument]
      rfl
    have hnext : Chunks document (document.take 40 ++ (document.drop 40).take 60)
        ([(0, document.take 40)] ++ [((document.take 40).length, (document.drop 40).take 60)]) :=
      .next hfirst (by rw [← hdocument]; decide) (hparts ▸ List.take_prefix 100 document)
    rwa [hparts, hlength] at hnext
  have hagain := Chunks.again hsecond (by rw [← hdocument]; decide) List.mem_cons_self
  have hthird : Chunks document document
      [(0, document.take 40), (40, (document.drop 40).take 60), (0, document.take 40),
        (100, document.drop 100)] := by
    have hlength : (document.take 100).length = 100 := by
      rw [← hdocument]
      rfl
    have hrest : document.take 100 ++ document.drop 100 <+: document :=
      ⟨[], (List.append_nil _).trans (List.take_append_drop 100 document)⟩
    have hnext := hagain.next (by rw [← hdocument]; decide) hrest
    rwa [List.take_append_drop, hlength] at hnext
  have hwhole : Chunks (sampleDocument 3 217) (sampleDocument 3 217) [(0, sampleDocument 3 217)] :=
    .next .nil (by decide) List.prefix_rfl
  unfold sampleDeliveries
  rw [hdocument]
  exact ⟨⟨_, hseal⟩, hthird, ⟨_, hpage⟩, hwhole, trivial⟩

/-- Both documents are handed out. -/
theorem markers_whole_sample :
    appendsOf (Machine.exec (call Sha256.digest) [] (sampleHeld 580)
      (markerCalls Sha256.digest 7 2 2 0 sampleDeliveries)).1 =
        markerAppends Sha256.digest 2 2 0 sampleDeliveries ∧
      (markerAppends Sha256.digest 2 2 0 sampleDeliveries).map
          (fun document => (document.requestId, document.documentIndex, document.document.length)) =
        [(2, 0, 200), (3, 1, 217)] := by
  obtain ⟨tr, hrun⟩ := calls_sampleHeld
  have hnew : new Sha256.digest sampleMarkerConfig = .ok (fresh sampleMarkerConfig) := rfl
  have h := markers_whole Sha256.digest sampleMarkerConfig (fresh sampleMarkerConfig) (sampleHeld 580) tr
    hnew hrun
  have hserved := h.1 awaitsMarkers_sample (FixedBytes.replicate 32 5) sampleDeliveries (by decide)
    (by decide) validDeliveries_sample (by decide)
  exact ⟨hserved.2.1, by decide +kernel⟩

end BotaSdk.EncryptedUploadV2Receiver
