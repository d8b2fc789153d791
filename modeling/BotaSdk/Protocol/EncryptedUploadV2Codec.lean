import BotaSdk.Protocol.EncryptedUploadV2Frames

/-!
# The codec of encrypted upload v2 is a bijection

Encoding succeeds exactly on the accepted messages and yields their frames; decoding succeeds
exactly on these frames and yields the messages.
-/

namespace BotaSdk.TransferV2

open Bytes Checked Layout Protocol

variable {bytes : List UInt8} {message : EncryptedUploadV2Transfer}

/-! ## Decoding -/

theorem eq_frame_iff : bytes = frame message ↔ FieldsAt bytes 0 (frameFields message) := by
  rw [frame, ← drop_eq_flatten_iff, List.drop_zero]

theorem fieldsAt_header {common : CommonHeaderV2} {fields : List (List UInt8)} :
    FieldsAt bytes 0 (headerFields common ++ fields) ↔
      field bytes 0 12 = (headerFields common).flatten ∧ FieldsAt bytes 12 fields := by
  rw [field_headerFields]
  simp only [headerFields, List.cons_append, List.nil_append, FieldsAt, List.length_singleton,
    length_leBytes, Nat.reduceAdd, and_assoc]

theorem requireMarkerFlag_eq_ok {value : UInt32} {name : String} {u : Unit} :
    requireKnownBits value 1 name = .ok u ↔ value = 0 ∨ value = 1 := by
  rw [requireKnownBits, check_eq_ok, ne_eq, not_not]
  constructor
  · intro h
    have hzero : value.toBitVec &&& ~~~1#32 = 0#32 := congrArg UInt32.toBitVec h
    have hvalue : value.toBitVec = value.toBitVec &&& 1#32 := by
      calc value.toBitVec = value.toBitVec &&& BitVec.allOnes 32 := BitVec.and_allOnes.symm
        _ = value.toBitVec &&& (1#32 ||| ~~~1#32) := rfl
        _ = (value.toBitVec &&& 1#32) ||| 0#32 := by rw [BitVec.and_or_distrib_left, hzero]
        _ = value.toBitVec &&& 1#32 := BitVec.or_zero
    have hlow := congrArg BitVec.toNat hvalue
    rw [BitVec.toNat_and] at hlow
    have hmod : value.toNat &&& 1 = value.toNat % 2 := Nat.and_one_is_mod _
    rcases Nat.mod_two_eq_zero_or_one value.toNat with h0 | h1
    · exact .inl (UInt32.toNat_inj.mp (hlow.trans (hmod.trans h0)))
    · exact .inr (UInt32.toNat_inj.mp (hlow.trans (hmod.trans h1)))
  · rintro (rfl | rfl) <;> decide

theorem decodeList_eq_ok :
    decodeList bytes = .ok message ↔
      ∃ common, (message = .list common ∨ message = .markedList common) ∧ Accepted message ∧
        bytes = frame message := by
  simp only [decodeList, bind_eq_ok, requireExact_eq_ok, decodeCommon_eq_ok, u32_eq_ok,
    requireMarkerFlag_eq_ok, pure_eq_ok]
  constructor
  · rintro ⟨-, hlength, common, ⟨hheader, h0⟩, flags, h12, -, hflags, rfl⟩
    rcases hflags with rfl | rfl
    · refine ⟨common, .inl rfl, hheader, eq_frame_iff.mpr (fieldsAt_header.mpr ⟨h0, h12, ?_⟩)⟩
      exact hlength.le
    · refine ⟨common, .inr rfl, hheader, eq_frame_iff.mpr (fieldsAt_header.mpr ⟨h0, h12, ?_⟩)⟩
      exact hlength.le
  · rintro ⟨common, rfl | rfl, hheader, hframe⟩
    · obtain ⟨h0, h12, hlength⟩ := fieldsAt_header.mp (eq_frame_iff.mp hframe)
      have hroom := room_of_length_field h12 rfl (by decide)
      exact ⟨(), Nat.le_antisymm hlength hroom, common, ⟨hheader, h0⟩, 0, h12, (), .inl rfl, rfl⟩
    · obtain ⟨h0, h12, hlength⟩ := fieldsAt_header.mp (eq_frame_iff.mp hframe)
      have hroom := room_of_length_field h12 rfl (by decide)
      exact ⟨(), Nat.le_antisymm hlength hroom, common, ⟨hheader, h0⟩, 1, h12, (), .inr rfl, rfl⟩

theorem not_ne_or_not {n m : Nat} {c : Prop} : ¬(n ≠ m ∨ ¬c) ↔ n = m ∧ c := by
  rw [not_or, not_not, not_not]

theorem decodeRecordingEntry_eq_ok :
    decodeRecordingEntry bytes = .ok message ↔
      ∃ value, message = .recordingEntry value ∧ Accepted (.recordingEntry value) ∧
        bytes = frame (.recordingEntry value) := by
  simp only [decodeRecordingEntry, bind_eq_ok, requireExact_eq_ok, decodeCommon_eq_ok, u8_eq_ok,
    u32_eq_ok, u64_eq_ok, guard_eq_ok, fixed_eq_ok (by decide : 0 < 16),
    fixed_eq_ok (by decide : 0 < 32), pure_eq_ok, Accepted, eq_frame_iff, frameFields,
    fieldsAt_header, FieldsAt, length_leBytes, length_fixed, List.length_cons,
    List.length_nil, Nat.reduceAdd, not_ne_or_not]
  constructor
  · rintro ⟨-, hlength, _, ⟨hheader, h0⟩, z, hz, u, hu, _, h32, _, h33, hstored, _, h12, _, h28, _,
      h36, _, h44, _, h48, _, h56, _, h64, rfl⟩
    have h34 := (reserved_eq_ok (by decide)).mp ⟨z, hz, u, hu⟩
    exact ⟨_, rfl, ⟨hheader, hstored⟩, h0, h12, h28, h32, h33, h34, h36, h44, h48, h56, h64,
      hlength.le⟩
  · rintro ⟨value, rfl, ⟨hheader, hstored⟩, h0, h12, h28, h32, h33, h34, h36, h44, h48, h56, h64,
      hlength⟩
    have hroom := room_of_length_field h64 value.ciphertextSha256.2 (by decide)
    obtain ⟨z, hz, u, hu⟩ := (reserved_eq_ok (by decide)).mpr h34
    exact ⟨(), by omega, _, ⟨hheader, h0⟩, z, hz, u, hu, _, h32, _, h33, hstored, _, h12, _, h28, _,
      h36, _, h44, _, h48, _, h56, _, h64, rfl⟩

theorem decodeRecordingListEnd_eq_ok :
    decodeRecordingListEnd bytes = .ok message ↔
      ∃ common count listRevision listSha256,
        message = .recordingListEnd common count listRevision listSha256 ∧
        Accepted message ∧ bytes = frame message := by
  simp only [decodeRecordingListEnd, bind_eq_ok, requireExact_eq_ok, decodeCommon_eq_ok, u32_eq_ok,
    fixed_eq_ok (by decide : 0 < 32), pure_eq_ok, eq_frame_iff]
  constructor
  · rintro ⟨-, hlength, common, ⟨hheader, h0⟩, count, h12, listRevision, h16, listSha256, h20, rfl⟩
    refine ⟨common, count, listRevision, listSha256, rfl, hheader, fieldsAt_header.mpr ⟨h0, ?_⟩⟩
    simp only [FieldsAt, length_leBytes, length_fixed, Nat.reduceAdd]
    exact ⟨h12, h16, h20, hlength.le⟩
  · rintro ⟨common, count, listRevision, listSha256, rfl, hheader, hframe⟩
    simp only [frameFields, fieldsAt_header, FieldsAt, length_leBytes, length_fixed,
      Nat.reduceAdd] at hframe
    obtain ⟨h0, h12, h16, h20, hlength⟩ := hframe
    have hroom := room_of_length_field h20 listSha256.2 (by decide)
    exact ⟨(), by omega, common, ⟨hheader, h0⟩, count, h12, listRevision, h16, listSha256, h20, rfl⟩

theorem decodeStart_eq_ok :
    decodeStart bytes = .ok message ↔
      ∃ value, message = .start value ∧ Accepted (.start value) ∧ bytes = frame (.start value) := by
  simp only [decodeStart, bind_eq_ok, requireExact_eq_ok, decodeCommon_eq_ok, u16_eq_ok, u32_eq_ok,
    u64_eq_ok, fixed_eq_ok (by decide : 0 < 16), fixed_eq_ok (by decide : 0 < 32),
    requireWindowBounds_eq_ok, pure_eq_ok, Accepted, eq_frame_iff, frameFields, fieldsAt_header,
    FieldsAt, length_leBytes, length_fixed, Nat.reduceAdd]
  constructor
  · rintro ⟨-, hlength, _, ⟨hheader, h0⟩, _, h12, _, h28, _, h44, _, h48, _, h80, _, h84, _, h92, _,
      h124, _, h126, -, hwindow, rfl⟩
    exact ⟨_, rfl, ⟨hheader, hwindow⟩, h0, h12, h28, h44, h48, h80, h84, h92, h124, h126,
      hlength.le⟩
  · rintro ⟨value, rfl, ⟨hheader, hwindow⟩, h0, h12, h28, h44, h48, h80, h84, h92, h124, h126,
      hlength⟩
    have hroom := room_of_length_field h126 (length_leBytes 2 _) (by decide)
    exact ⟨(), by omega, _, ⟨hheader, h0⟩, _, h12, _, h28, _, h44, _, h48, _, h80, _, h84, _, h92, _,
      h124, _, h126, (), hwindow, rfl⟩

theorem decodeStartAck_eq_ok :
    decodeStartAck bytes = .ok message ↔
      ∃ value, message = .startAck value ∧ Accepted (.startAck value) ∧
        bytes = frame (.startAck value) := by
  simp only [decodeStartAck, bind_eq_ok, requireExact_eq_ok, decodeCommon_eq_ok, u16_eq_ok,
    u32_eq_ok, u64_eq_ok, guard_eq_ok, fixed_eq_ok (by decide : 0 < 16),
    fixed_eq_ok (by decide : 0 < 32), requireWindowBounds_eq_ok, pure_eq_ok, Accepted, eq_frame_iff,
    frameFields, fieldsAt_header, FieldsAt, length_leBytes, length_fixed, Nat.reduceAdd]
  constructor
  · rintro ⟨-, hlength, _, ⟨hheader, h0⟩, _, h12, _, h28, _, h44, _, h48, _, h56, _, h88, _, h90, _,
      h92, _, h96, _, h100, _, h108, -, hwindow, hinterval, rfl⟩
    exact ⟨_, rfl, ⟨hheader, hwindow, hinterval⟩, h0, h12, h28, h44, h48, h56, h88, h90, h92, h96,
      h100, h108, hlength.le⟩
  · rintro ⟨value, rfl, ⟨hheader, hwindow, hinterval⟩, h0, h12, h28, h44, h48, h56, h88, h90, h92,
      h96, h100, h108, hlength⟩
    have hroom := room_of_length_field h108 value.prefixSha256.2 (by decide)
    exact ⟨(), by omega, _, ⟨hheader, h0⟩, _, h12, _, h28, _, h44, _, h48, _, h56, _, h88, _, h90, _,
      h92, _, h96, _, h100, _, h108, (), hwindow, hinterval, rfl⟩

/-- A tail that the length of the buffer fixes. -/
theorem tail_eq_ok_iff {offset n : Nat} {rest : List UInt8} (h : bytes.length = offset + n) :
    Cursor.tail bytes offset = .ok rest ↔ field bytes offset rest.length = rest ∧ rest.length = n := by
  have hdrop : field bytes offset n = bytes.drop offset :=
    List.take_of_length_le (by rw [List.length_drop]; omega)
  rw [tail_eq_ok]
  constructor
  · rintro ⟨-, rfl⟩
    have hlength : (bytes.drop offset).length = n := by rw [List.length_drop]; omega
    exact ⟨by rw [hlength, hdrop], hlength⟩
  · rintro ⟨hfield, rfl⟩
    exact ⟨by omega, hdrop.symm.trans hfield⟩

theorem decodeData_eq_ok :
    decodeData bytes = .ok message ↔
      ∃ common sequence offset data, message = .data common sequence offset data ∧
        Accepted message ∧ bytes = frame message := by
  simp only [decodeData, bind_eq_ok, require_eq_ok, ensureFrameLimit_eq_ok, decodeCommon_eq_ok,
    u16_eq_ok, u32_eq_ok, u64_eq_ok, guard_eq_ok, requireDynamicExact_eq_ok, checkedFrameLength,
    pure_eq_ok, eq_frame_iff]
  constructor
  · rintro ⟨-, -, -, hlimit, common, ⟨hheader, h0⟩, z, hz, u, hu, count, h24, hcount, -, hlength,
      offset, h16, hrange, sequence, h12, data, htail, rfl⟩
    have h26 := (reserved_eq_ok (by decide)).mp ⟨z, hz, u, hu⟩
    obtain ⟨h28, hdata⟩ := (tail_eq_ok_iff (hlength.trans (by rw [Nat.mul_one]))).mp htail
    refine ⟨common, sequence, offset, data, rfl, ⟨hheader, ?_, by omega, by omega⟩,
      fieldsAt_header.mpr ⟨h0, ?_⟩⟩
    · rintro rfl
      exact hcount hdata.symm
    · simp only [FieldsAt, length_leBytes, List.length_cons, List.length_nil, Nat.reduceAdd]
      exact ⟨h12, h16, hdata ▸ h24, h26, h28, by omega⟩
  · rintro ⟨common, sequence, offset, data, rfl, ⟨hheader, hdata, hlimit, hrange⟩, hframe⟩
    simp only [frameFields, fieldsAt_header, FieldsAt, length_leBytes, List.length_cons,
      List.length_nil, Nat.reduceAdd] at hframe
    obtain ⟨h0, h12, h16, h24, h26, h28, hlength⟩ := hframe
    have hpos := List.length_pos_iff.mpr hdata
    have hroom := room_of_length_field h28 rfl hpos
    have hcount : data.length < 65536 := by
      rw [MAX_MTU] at hlimit
      omega
    obtain ⟨z, hz, u, hu⟩ := (reserved_eq_ok (by decide)).mpr h26
    rw [MAX_MTU] at hlimit ⊢
    rw [← toNat_count hcount] at h24
    refine ⟨(), by omega, (), by omega, common, ⟨hheader, h0⟩, z, hz, u, hu, _, h24, ?_⟩
    rw [toNat_count hcount]
    exact ⟨by omega, (), by omega, offset, h16, by omega, sequence, h12, data,
      (tail_eq_ok_iff (by omega)).mpr ⟨h28, rfl⟩, rfl⟩

theorem decodeWindowEnd_eq_ok :
    decodeWindowEnd bytes = .ok message ↔
      ∃ value, message = .windowEnd value ∧ Accepted (.windowEnd value) ∧
        bytes = frame (.windowEnd value) := by
  simp only [decodeWindowEnd, bind_eq_ok, requireExact_eq_ok, decodeCommon_eq_ok, u32_eq_ok,
    u64_eq_ok, guard_eq_ok, fixed_eq_ok (by decide : 0 < 32), pure_eq_ok, Accepted, eq_frame_iff,
    frameFields, fieldsAt_header, FieldsAt, length_leBytes, length_fixed, Nat.reduceAdd,
    UInt32.not_lt]
  constructor
  · rintro ⟨-, hlength, _, ⟨hheader, h0⟩, _, h12, _, h16, _, h20, _, h24, _, h32, _, h64, hrange, rfl⟩
    exact ⟨_, rfl, ⟨hheader, hrange⟩, h0, h12, h16, h20, h24, h32, h64, hlength.le⟩
  · rintro ⟨value, rfl, ⟨hheader, hrange⟩, h0, h12, h16, h20, h24, h32, h64, hlength⟩
    have hroom := room_of_length_field h64 (length_leBytes 4 _) (by decide)
    exact ⟨(), by omega, _, ⟨hheader, h0⟩, _, h12, _, h16, _, h20, _, h24, _, h32, _, h64, hrange,
      rfl⟩

/-- The loop that reads the missing sequences, from the `index`-th one on. -/
theorem mapM_sequences_eq_ok {count : Nat} : ∀ {index : Nat} {sequences : List UInt32},
    bytes.length = 68 + (index + count) * 4 →
      (((List.range' index count).mapM fun index => u32 bytes (68 + index * 4)) = .ok sequences ↔
        sequences.length = count ∧
          FieldsAt bytes (68 + index * 4)
            (sequences.map fun sequence => leBytes 4 sequence.toNat)) := by
  induction count with
  | zero =>
    intro index sequences hlength
    rw [List.range'_zero, List.mapM_nil, pure_eq_ok, List.length_eq_zero_iff]
    constructor
    · rintro rfl
      exact ⟨rfl, by rw [List.map_nil, FieldsAt]; omega⟩
    · exact fun h => h.1.symm
  | succ count ih =>
    intro index sequences hlength
    simp only [List.range'_succ, List.mapM_cons, bind_eq_ok, u32_eq_ok, pure_eq_ok,
      ih (by omega : bytes.length = 68 + (index + 1 + count) * 4)]
    constructor
    · rintro ⟨sequence, hhead, rest, ⟨rfl, htail⟩, rfl⟩
      refine ⟨rfl, ?_⟩
      rw [List.map_cons, FieldsAt, length_leBytes]
      exact ⟨hhead, by rw [show 68 + index * 4 + 4 = 68 + (index + 1) * 4 by omega]; exact htail⟩
    · rintro ⟨hcount, hfields⟩
      obtain ⟨sequence, rest, rfl⟩ := List.exists_cons_of_length_eq_add_one hcount
      rw [List.map_cons, FieldsAt, length_leBytes,
        show 68 + index * 4 + 4 = 68 + (index + 1) * 4 by omega] at hfields
      exact ⟨sequence, hfields.1, rest, ⟨Nat.succ.inj hcount, hfields.2⟩, rfl⟩

theorem width_sequences (sequences : List UInt32) :
    width (sequences.map fun sequence => leBytes 4 sequence.toNat) = sequences.length * 4 := by
  induction sequences with
  | nil => rfl
  | cons sequence rest ih =>
    rw [List.map_cons, width_cons, ih, length_leBytes, List.length_cons]
    omega

theorem decodeWindowAck_eq_ok :
    decodeWindowAck bytes = .ok message ↔
      ∃ value, message = .windowAck value ∧ Accepted (.windowAck value) ∧
        bytes = frame (.windowAck value) := by
  simp only [decodeWindowAck, bind_eq_ok, require_eq_ok, ensureFrameLimit_eq_ok, decodeCommon_eq_ok,
    u16_eq_ok, u32_eq_ok, u64_eq_ok, fixed_eq_ok (by decide : 0 < 32), requireDynamicExact_eq_ok,
    checkedFrameLength, pure_eq_ok, eq_frame_iff, Accepted, List.range_eq_range', frameFields,
    List.append_assoc, List.cons_append, List.nil_append, fieldsAt_header, FieldsAt, length_leBytes,
    length_fixed, List.length_cons, List.length_nil, Nat.reduceAdd]
  constructor
  · rintro ⟨-, -, -, hlimit, common, ⟨hheader, h0⟩, z, hz, u, hu, count, h64, -, hlength, missing,
      hmissing, _, h12, _, h16, _, h20, _, h28, _, h60, rfl⟩
    have h66 := (reserved_eq_ok (by decide)).mp ⟨z, hz, u, hu⟩
    obtain ⟨hcount, h68⟩ := (mapM_sequences_eq_ok (by omega)).mp hmissing
    rw [← hcount] at h64 hlength
    exact ⟨_, rfl, ⟨hheader, hlength ▸ hlimit⟩, h0, h12, h16, h20, h28, h60, h64, h66, h68⟩
  · rintro ⟨value, rfl, ⟨hheader, hlimit⟩, h0, h12, h16, h20, h28, h60, h64, h66, h68⟩
    have hroom := room_of_length_field h66 rfl (by decide)
    have hlength := length_of_fieldsAt h68 hroom
    rw [width_sequences] at hlength
    have hcount : value.missingSequences.length < 65536 := by
      rw [MAX_MTU] at hlimit
      omega
    obtain ⟨z, hz, u, hu⟩ := (reserved_eq_ok (by decide)).mpr h66
    rw [← toNat_count hcount] at h64
    refine ⟨(), hroom, (), hlength ▸ hlimit, _, ⟨hheader, h0⟩, z, hz, u, hu, _, h64, ?_⟩
    rw [toNat_count hcount]
    exact ⟨(), hlength, _, (mapM_sequences_eq_ok (by omega)).mpr ⟨rfl, h68⟩, _, h12, _, h16, _, h20,
      _, h28, _, h60, rfl⟩

theorem decodeManifestChunk_eq_ok :
    decodeManifestChunk bytes = .ok message ↔
      ∃ value, message = .manifestChunk value ∧ Accepted (.manifestChunk value) ∧
        bytes = frame (.manifestChunk value) := by
  simp only [decodeManifestChunk, bind_eq_ok, require_eq_ok, ensureFrameLimit_eq_ok,
    decodeCommon_eq_ok, u16_eq_ok, guard_eq_ok, fixed_eq_ok (by decide : 0 < 32),
    requireDeclaredLength_eq_ok, requireDynamicExact_eq_ok, checkedFrameLength, pure_eq_ok,
    eq_frame_iff, Accepted, frameFields, fieldsAt_header, FieldsAt, length_leBytes, length_fixed,
    List.length_cons, List.length_nil, Nat.reduceAdd, Nat.not_lt]
  constructor
  · rintro ⟨-, -, -, hlimit, common, ⟨hheader, h0⟩, z, hz, u, hu, total, h12, -, htotal, _, h14,
      count, h16, hcount, -, hlength, hrange, _, h20, chunk, htail, rfl⟩
    have h18 := (reserved_eq_ok (by decide)).mp ⟨z, hz, u, hu⟩
    obtain ⟨h52, hchunk⟩ := (tail_eq_ok_iff (hlength.trans (by rw [Nat.mul_one]))).mp htail
    rw [← hchunk] at hrange h16
    refine ⟨_, rfl, ⟨hheader, htotal, ?_, hrange, by simp only [hchunk]; omega⟩, h0, h12, h14, h16,
      h18, h20, h52, by simp only [hchunk]; omega⟩
    rintro rfl
    exact hcount hchunk.symm
  · rintro ⟨value, rfl, ⟨hheader, htotal, hchunk, hrange, hlimit⟩, h0, h12, h14, h16, h18, h20, h52,
      hlength⟩
    have hpos := List.length_pos_iff.mpr hchunk
    have hroom := room_of_length_field h52 rfl hpos
    rw [MAX_MTU] at *
    have hcount : value.chunk.length < 65536 := by omega
    obtain ⟨z, hz, u, hu⟩ := (reserved_eq_ok (by decide)).mpr h18
    rw [← toNat_count hcount] at h16
    refine ⟨(), by omega, (), by omega, _, ⟨hheader, h0⟩, z, hz, u, hu, _, h12, (), htotal, _, h14,
      _, h16, ?_⟩
    rw [toNat_count hcount]
    exact ⟨by omega, (), by omega, hrange, _, h20, value.chunk,
      (tail_eq_ok_iff (by omega)).mpr ⟨h52, rfl⟩, rfl⟩

theorem MarkerAccepted.chunk_le {value : MarkerChunkV2} (h : MarkerAccepted value) :
    value.chunk.length ≤ 402 := by
  have hle : value.documentLength.toNat ≤ 402 := UInt16.le_iff_toNat_le.mp h.length.2
  have hrange := h.range
  omega

theorem decodeMarkerChunk_eq_ok :
    decodeMarkerChunk bytes = .ok message ↔
      ∃ value, message = .markerChunk value ∧ Accepted (.markerChunk value) ∧
        bytes = frame (.markerChunk value) := by
  simp only [decodeMarkerChunk, bind_eq_ok, require_eq_ok, ensureFrameLimit_eq_ok,
    decodeCommon_eq_ok, u16_eq_ok, u32_eq_ok, guard_eq_ok, fixed_eq_ok (by decide : 0 < 32),
    pure_eq_ok, eq_frame_iff, Accepted, frameFields, fieldsAt_header, FieldsAt, length_leBytes,
    length_fixed, List.length_cons, List.length_nil, Nat.reduceAdd]
  constructor
  · rintro ⟨-, -, -, hlimit, common, ⟨hheader, h0⟩, index, h12, count, h16, chunkOffset, h20,
      documentLength, h22, size, h24, z, hz, u, hu, hbounds, _, h28, chunk, htail, rfl⟩
    have h26 := (reserved_eq_ok (by decide)).mp ⟨z, hz, u, hu⟩
    simp only [not_or, not_not, Nat.not_lt, UInt32.not_le] at hbounds
    obtain ⟨hcount, hindex, hlength, hsize, hrange, htotal⟩ := hbounds
    obtain ⟨h60, hchunk⟩ := (tail_eq_ok_iff htotal).mp htail
    rw [← hchunk] at hrange h24
    refine ⟨_, rfl, ⟨hheader, hcount, hindex, hlength, ?_, hrange⟩, h0, h12, h16, h20, h22, h24,
      h26, h28, h60, by simp only [hchunk]; omega⟩
    rintro rfl
    exact hsize (UInt16.toNat_inj.mp hchunk.symm)
  · rintro ⟨value, rfl, haccepted, h0, h12, h16, h20, h22, h24, h26, h28, h60, hlength⟩
    have hpos := List.length_pos_iff.mpr haccepted.chunk
    have hroom := room_of_length_field h60 rfl hpos
    have hle := haccepted.chunk_le
    have hcount : value.chunk.length < 65536 := by omega
    have htotal : bytes.length = 60 + value.chunk.length := by omega
    obtain ⟨z, hz, u, hu⟩ := (reserved_eq_ok (by decide)).mpr h26
    rw [← toNat_count hcount] at h24
    refine ⟨(), by omega, (), by rw [MAX_MTU]; omega, _, ⟨haccepted.header, h0⟩, _, h12, _, h16, _,
      h20, _, h22, _, h24, z, hz, u, hu, ?_, _, h28, value.chunk,
      (tail_eq_ok_iff htotal).mpr ⟨h60, rfl⟩, rfl⟩
    simp only [not_or, not_not, Nat.not_lt, UInt32.not_le, toNat_count hcount]
    refine ⟨haccepted.count, haccepted.index, haccepted.length, ?_, haccepted.range, htotal⟩
    intro hzero
    have := congrArg UInt16.toNat hzero
    rw [toNat_count hcount] at this
    exact absurd this hpos.ne'

theorem decodeEof_eq_ok :
    decodeEof bytes = .ok message ↔
      ∃ value, message = .eof value ∧ Accepted (.eof value) ∧ bytes = frame (.eof value) := by
  simp only [decodeEof, bind_eq_ok, requireExact_eq_ok, decodeCommon_eq_ok, u32_eq_ok, u64_eq_ok,
    fixed_eq_ok (by decide : 0 < 32), pure_eq_ok, Accepted, eq_frame_iff, frameFields,
    fieldsAt_header, FieldsAt, length_leBytes, length_fixed, Nat.reduceAdd]
  constructor
  · rintro ⟨-, hlength, _, ⟨hheader, h0⟩, _, h12, _, h16, _, h20, _, h28, _, h60, rfl⟩
    exact ⟨_, rfl, hheader, h0, h12, h16, h20, h28, h60, hlength.le⟩
  · rintro ⟨value, rfl, hheader, h0, h12, h16, h20, h28, h60, hlength⟩
    have hroom := room_of_length_field h60 value.manifestSha256.2 (by decide)
    exact ⟨(), by omega, _, ⟨hheader, h0⟩, _, h12, _, h16, _, h20, _, h28, _, h60, rfl⟩

theorem decodeResume_eq_ok {accepted : Bool} :
    decodeResume bytes accepted = .ok message ↔
      ∃ value, message = (if accepted then .resumeAccept value else .resumeRequest value) ∧
        (HeaderAccepted value.common (if accepted then ENCRYPTED_UPLOAD_V2_RESUME_ACCEPT
          else ENCRYPTED_UPLOAD_V2_RESUME_REQUEST) ∧
          value.windowPackets ≠ 0 ∧ value.dataPayloadBytes ≠ 0) ∧
        bytes = frame (.resumeRequest value) := by
  simp only [decodeResume, bind_eq_ok, requireExact_eq_ok, decodeCommon_eq_ok, u16_eq_ok, u32_eq_ok,
    u64_eq_ok, fixed_eq_ok (by decide : 0 < 16), fixed_eq_ok (by decide : 0 < 32),
    requireWindowBounds_eq_ok, pure_eq_ok, eq_frame_iff, frameFields, resumeFields, fieldsAt_header,
    FieldsAt, length_leBytes, length_fixed, Nat.reduceAdd]
  constructor
  · rintro ⟨-, hlength, _, ⟨hheader, h0⟩, _, h12, _, h28, _, h44, _, h48, _, h52, _, h60, _, h92, _,
      h94, -, hwindow, rfl⟩
    exact ⟨_, rfl, ⟨hheader, hwindow⟩, h0, h12, h28, h44, h48, h52, h60, h92, h94, hlength.le⟩
  · rintro ⟨value, rfl, ⟨hheader, hwindow⟩, h0, h12, h28, h44, h48, h52, h60, h92, h94, hlength⟩
    have hroom := room_of_length_field h94 (length_leBytes 2 _) (by decide)
    exact ⟨(), by omega, _, ⟨hheader, h0⟩, _, h12, _, h28, _, h44, _, h48, _, h52, _, h60, _, h92, _,
      h94, (), hwindow, rfl⟩

theorem decodeResumeReject_eq_ok :
    decodeResumeReject bytes = .ok message ↔
      ∃ value, message = .resumeReject value ∧ Accepted (.resumeReject value) ∧
        bytes = frame (.resumeReject value) := by
  simp only [decodeResumeReject, bind_eq_ok, requireExact_eq_ok, decodeCommon_eq_ok, u16_eq_ok,
    u32_eq_ok, u64_eq_ok, fixed_eq_ok (by decide : 0 < 32), pure_eq_ok, Accepted, eq_frame_iff,
    frameFields, fieldsAt_header, FieldsAt, length_leBytes, length_fixed, List.length_cons,
    List.length_nil, Nat.reduceAdd]
  constructor
  · rintro ⟨-, hlength, _, ⟨hheader, h0⟩, z, hz, u, hu, _, h12, _, h16, _, h20, _, h28, rfl⟩
    have h14 := (reserved_eq_ok (by decide)).mp ⟨z, hz, u, hu⟩
    exact ⟨_, rfl, hheader, h0, h12, h14, h16, h20, h28, hlength.le⟩
  · rintro ⟨value, rfl, hheader, h0, h12, h14, h16, h20, h28, hlength⟩
    have hroom := room_of_length_field h28 value.prefixSha256.2 (by decide)
    obtain ⟨z, hz, u, hu⟩ := (reserved_eq_ok (by decide)).mpr h14
    exact ⟨(), by omega, _, ⟨hheader, h0⟩, z, hz, u, hu, _, h12, _, h16, _, h20, _, h28, rfl⟩

theorem decodeConfirm_eq_ok :
    decodeConfirm bytes = .ok message ↔
      ∃ value, message = .confirm value ∧ Accepted (.confirm value) ∧
        bytes = frame (.confirm value) := by
  simp only [decodeConfirm, bind_eq_ok, requireExact_eq_ok, decodeCommon_eq_ok, u32_eq_ok,
    fixed_eq_ok (by decide : 0 < 16), fixed_eq_ok (by decide : 0 < 32), pure_eq_ok, Accepted,
    eq_frame_iff, frameFields, fieldsAt_header, FieldsAt, length_leBytes, length_fixed,
    Nat.reduceAdd]
  constructor
  · rintro ⟨-, hlength, _, ⟨hheader, h0⟩, _, h12, _, h28, _, h44, _, h48, _, h52, rfl⟩
    exact ⟨_, rfl, hheader, h0, h12, h28, h44, h48, h52, hlength.le⟩
  · rintro ⟨value, rfl, hheader, h0, h12, h28, h44, h48, h52, hlength⟩
    have hroom := room_of_length_field h52 value.receiptSha256.2 (by decide)
    exact ⟨(), by omega, _, ⟨hheader, h0⟩, _, h12, _, h28, _, h44, _, h48, _, h52, rfl⟩

theorem decodeAbort_eq_ok :
    decodeAbort bytes = .ok message ↔
      ∃ common reason, message = .abort common reason ∧ Accepted message ∧
        bytes = frame message := by
  simp only [decodeAbort, bind_eq_ok, requireExact_eq_ok, decodeCommon_eq_ok, u16_eq_ok, pure_eq_ok,
    eq_frame_iff]
  constructor
  · rintro ⟨-, hlength, common, ⟨hheader, h0⟩, z, hz, u, hu, reason, h12, rfl⟩
    have h14 := (reserved_eq_ok (by decide)).mp ⟨z, hz, u, hu⟩
    exact ⟨common, reason, rfl, hheader, fieldsAt_header.mpr ⟨h0, h12, h14, hlength.le⟩⟩
  · rintro ⟨common, reason, rfl, hheader, hframe⟩
    obtain ⟨h0, h12, h14, hlength⟩ := fieldsAt_header.mp hframe
    have hroom := room_of_length_field h14 rfl (by decide)
    obtain ⟨z, hz, u, hu⟩ := (reserved_eq_ok (by decide)).mpr h14
    exact ⟨(), Nat.le_antisymm hlength hroom, common, ⟨hheader, h0⟩, z, hz, u, hu, reason, h12, rfl⟩

theorem decodeError_eq_ok :
    decodeError bytes = .ok message ↔
      ∃ common result failedMessageType checkpointRevision,
        message = .error common result failedMessageType checkpointRevision ∧ Accepted message ∧
          bytes = frame message := by
  simp only [decodeError, bind_eq_ok, requireExact_eq_ok, decodeCommon_eq_ok, u8_eq_ok, u16_eq_ok,
    u32_eq_ok, pure_eq_ok, eq_frame_iff]
  constructor
  · rintro ⟨-, hlength, common, ⟨hheader, h0⟩, z, hz, u, hu, result, h12, failed, h14, revision, h16,
      rfl⟩
    have h15 := (reserved_eq_ok (by decide)).mp ⟨z, hz, u, hu⟩
    exact ⟨common, result, failed, revision, rfl, hheader,
      fieldsAt_header.mpr ⟨h0, h12, h14, h15, h16, hlength.le⟩⟩
  · rintro ⟨common, result, failed, revision, rfl, hheader, hframe⟩
    obtain ⟨h0, h12, h14, h15, h16, hlength⟩ := fieldsAt_header.mp hframe
    have hroom := room_of_length_field h16 (length_leBytes 4 _) (by decide : 0 < 4)
    obtain ⟨z, hz, u, hu⟩ := (reserved_eq_ok (by decide)).mpr h15
    exact ⟨(), Nat.le_antisymm hlength hroom, common, ⟨hheader, h0⟩, z, hz, u, hu, result, h12,
      failed, h14, revision, h16, rfl⟩

/-! ## The marker encoder decodes what it wrote -/

theorem u16_unique {offset : Nat} {value value' : UInt16}
    (h : field bytes offset 2 = leBytes 2 value.toNat)
    (h' : field bytes offset 2 = leBytes 2 value'.toNat) : value = value' :=
  Except.ok.inj ((u16_eq_ok.mpr h).symm.trans (u16_eq_ok.mpr h'))

theorem u32_unique {offset : Nat} {value value' : UInt32}
    (h : field bytes offset 4 = leBytes 4 value.toNat)
    (h' : field bytes offset 4 = leBytes 4 value'.toNat) : value = value' :=
  Except.ok.inj ((u32_eq_ok.mpr h).symm.trans (u32_eq_ok.mpr h'))

/-- The bounds of a marker chunk depend on its frame only. -/
theorem markerAccepted_of_frame {value value' : MarkerChunkV2}
    (hheader : HeaderAccepted value.common ENCRYPTED_UPLOAD_V2_MARKER_CHUNK)
    (hcount : value.chunk.length < 65536) (haccepted : MarkerAccepted value')
    (hframe : frame (.markerChunk value) = frame (.markerChunk value')) :
    MarkerAccepted value := by
  have h := eq_frame_iff.mp (rfl : frame (.markerChunk value) = frame (.markerChunk value))
  have h' := eq_frame_iff.mp hframe
  simp only [frameFields, fieldsAt_header, FieldsAt, length_leBytes, length_fixed,
    List.length_cons, List.length_nil, Nat.reduceAdd] at h h'
  obtain ⟨-, h12, h16, h20, h22, h24, -⟩ := h
  obtain ⟨-, h12', h16', h20', h22', h24', -⟩ := h'
  have hle := haccepted.chunk_le
  have hlength : value.chunk.length = value'.chunk.length := by
    rw [← toNat_count hcount] at h24
    rw [← toNat_count (by omega : value'.chunk.length < 65536)] at h24'
    have hsize := congrArg UInt16.toNat (u16_unique h24 h24')
    rwa [toNat_count hcount, toNat_count (by omega)] at hsize
  obtain ⟨-, hcounts, hindex, hdocument, hchunk, hrange⟩ := haccepted
  refine ⟨hheader, u32_unique h16 h16' ▸ hcounts, ?_, u16_unique h22 h22' ▸ hdocument, ?_, ?_⟩
  · rw [u32_unique h12 h12', u32_unique h16 h16']
    exact hindex
  · rw [← List.length_pos_iff, hlength, List.length_pos_iff]
    exact hchunk
  · rw [u16_unique h20 h20', u16_unique h22 h22', hlength]
    exact hrange

theorem encodeMarkerChunk_eq_ok {value : MarkerChunkV2} :
    encodeMarkerChunk value = .ok bytes ↔
      Accepted (.markerChunk value) ∧ bytes = frame (.markerChunk value) := by
  have hwrite (hcount : value.chunk.length < 65536) :
      put (putFixed (putU16 (putU16 (putU16 (putU32 (putU32
        (written 0 (headerFields value.common) (60 + value.chunk.length - 12)) 12
        value.documentIndex) 16 value.documentCount) 20 value.chunkOffset) 22 value.documentLength)
        24 (UInt16.ofNat value.chunk.length)) 28 value.documentSha256) 60 value.chunk =
      frame (.markerChunk value) := by
    rw [frame, ← @written_zero _ 0, show 60 + value.chunk.length - 12 =
      4 + (4 + (2 + (2 + (2 + (2 + (32 + value.chunk.length)))))) by omega, frameFields]
    simp [putU16, putU32, putFixed, Nat.mod_eq_of_lt hcount]
    rw [written_reserve 2]
    simp
  simp only [encodeMarkerChunk, bind_eq_ok, pure_eq_ok, u16TryFrom_eq_ok,
    encodeCommonFixed_eq_ok (by omega : 12 ≤ 60 + value.chunk.length)]
  constructor
  · rintro ⟨_, ⟨hheader, rfl⟩, _, ⟨hcount, rfl⟩, message, hdecode, rfl⟩
    rw [hwrite hcount] at hdecode ⊢
    obtain ⟨value', -, haccepted, hframe⟩ := decodeMarkerChunk_eq_ok.mp hdecode
    exact ⟨markerAccepted_of_frame hheader hcount haccepted hframe, rfl⟩
  · rintro ⟨haccepted, rfl⟩
    have hle := MarkerAccepted.chunk_le haccepted
    have hcount : value.chunk.length < 65536 := by omega
    refine ⟨_, ⟨haccepted.header, rfl⟩, _, ⟨hcount, rfl⟩, .markerChunk value, ?_, hwrite hcount⟩
    rw [hwrite hcount]
    exact decodeMarkerChunk_eq_ok.mpr ⟨value, rfl, haccepted, rfl⟩

/-! ## The codec -/

theorem encode_eq_ok :
    encodeEncryptedUploadV2Transfer message = .ok bytes ↔
      Accepted message ∧ bytes = frame message := by
  cases message with
  | list common =>
    rw [encodeEncryptedUploadV2Transfer, encodeCommonFixed_eq_ok (by decide)]
    rfl
  | markedList common =>
    refine encoded_eq_ok (.markedList common) rfl (by decide) ?_
    simp [putU32]
  | recordingEntry value => exact encodeRecordingEntry_eq_ok
  | recordingListEnd common count listRevision listSha256 =>
    refine encoded_eq_ok (.recordingListEnd common count listRevision listSha256) rfl (by decide) ?_
    simp [putU32, putFixed]
  | start value => exact encodeStart_eq_ok
  | startAck value => exact encodeStartAck_eq_ok
  | data common sequence offset data => exact encodeData_eq_ok
  | windowEnd value => exact encodeWindowEnd_eq_ok
  | windowAck value => exact encodeWindowAck_eq_ok
  | manifestChunk value => exact encodeManifestChunk_eq_ok
  | markerChunk value => exact encodeMarkerChunk_eq_ok
  | eof value => exact encodeEof_eq_ok
  | resumeRequest value =>
    rw [encodeEncryptedUploadV2Transfer, encodeResume_eq_ok, Accepted]
    tauto
  | resumeAccept value =>
    rw [encodeEncryptedUploadV2Transfer, encodeResume_eq_ok, Accepted]
    tauto
  | resumeReject value => exact encodeResumeReject_eq_ok
  | confirm value => exact encodeConfirm_eq_ok
  | abort common reason =>
    refine encoded_eq_ok (.abort common reason) rfl (by decide) ?_
    simp [putU16]
    show written 0 (headerFields common ++ [leBytes 2 reason.toNat]) (2 + 0) = _
    rw [written_reserve 2]
    simp
  | error common result failedMessageType checkpointRevision =>
    refine encoded_eq_ok (.error common result failedMessageType checkpointRevision) rfl
      (by decide) ?_
    simp [putU8, putU16, putU32]

theorem decodeMessage_sound {code : UInt8} (h : decodeMessage code bytes = .ok message) :
    Accepted message ∧ bytes = frame message := by
  unfold decodeMessage at h
  rcases ite_eq_ok h with h | h
  · obtain ⟨common, -, hmessage⟩ := decodeList_eq_ok.mp h
    exact hmessage
  rcases ite_eq_ok h with h | h
  · obtain ⟨value, rfl, hvalue⟩ := decodeRecordingEntry_eq_ok.mp h
    exact hvalue
  rcases ite_eq_ok h with h | h
  · obtain ⟨common, count, listRevision, listSha256, -, hmessage⟩ :=
      decodeRecordingListEnd_eq_ok.mp h
    exact hmessage
  rcases ite_eq_ok h with h | h
  · obtain ⟨value, rfl, hvalue⟩ := decodeStart_eq_ok.mp h
    exact hvalue
  rcases ite_eq_ok h with h | h
  · obtain ⟨value, rfl, hvalue⟩ := decodeStartAck_eq_ok.mp h
    exact hvalue
  rcases ite_eq_ok h with h | h
  · obtain ⟨common, sequence, offset, data, -, hmessage⟩ := decodeData_eq_ok.mp h
    exact hmessage
  rcases ite_eq_ok h with h | h
  · obtain ⟨value, rfl, hvalue⟩ := decodeWindowEnd_eq_ok.mp h
    exact hvalue
  rcases ite_eq_ok h with h | h
  · obtain ⟨value, rfl, hvalue⟩ := decodeWindowAck_eq_ok.mp h
    exact hvalue
  rcases ite_eq_ok h with h | h
  · obtain ⟨value, rfl, hvalue⟩ := decodeManifestChunk_eq_ok.mp h
    exact hvalue
  rcases ite_eq_ok h with h | h
  · obtain ⟨value, rfl, hvalue⟩ := decodeMarkerChunk_eq_ok.mp h
    exact hvalue
  rcases ite_eq_ok h with h | h
  · obtain ⟨value, rfl, hvalue⟩ := decodeEof_eq_ok.mp h
    exact hvalue
  rcases ite_eq_ok h with h | h
  · obtain ⟨value, rfl, hvalue⟩ := decodeResume_eq_ok.mp h
    exact hvalue
  rcases ite_eq_ok h with h | h
  · obtain ⟨value, rfl, hvalue⟩ := decodeResume_eq_ok.mp h
    exact hvalue
  rcases ite_eq_ok h with h | h
  · obtain ⟨value, rfl, hvalue⟩ := decodeResumeReject_eq_ok.mp h
    exact hvalue
  rcases ite_eq_ok h with h | h
  · obtain ⟨value, rfl, hvalue⟩ := decodeConfirm_eq_ok.mp h
    exact hvalue
  rcases ite_eq_ok h with h | h
  · obtain ⟨common, reason, -, hmessage⟩ := decodeAbort_eq_ok.mp h
    exact hmessage
  rcases ite_eq_ok h with h | h
  · obtain ⟨common, result, failed, revision, -, hmessage⟩ := decodeError_eq_ok.mp h
    exact hmessage
  · exact nomatch h

/-- A frame is decoded by the decoder of the code that its header names. -/
theorem decode_of_header {common : CommonHeaderV2} {code : UInt8} {fields : List (List UInt8)}
    (hheader : HeaderAccepted common code) :
    decodeEncryptedUploadV2Transfer (headerFields common ++ fields).flatten =
      decodeMessage code (headerFields common ++ fields).flatten := by
  rw [← hheader.messageType]
  rfl

theorem decode_complete (h : Accepted message) :
    decodeEncryptedUploadV2Transfer (frame message) = .ok message := by
  cases message with
  | list common =>
    exact (decode_of_header h).trans (decodeList_eq_ok.mpr ⟨common, .inl rfl, h, rfl⟩)
  | markedList common =>
    exact (decode_of_header h).trans (decodeList_eq_ok.mpr ⟨common, .inr rfl, h, rfl⟩)
  | recordingEntry value =>
    exact (decode_of_header h.1).trans (decodeRecordingEntry_eq_ok.mpr ⟨value, rfl, h, rfl⟩)
  | recordingListEnd common count listRevision listSha256 =>
    exact (decode_of_header h).trans (decodeRecordingListEnd_eq_ok.mpr
      ⟨common, count, listRevision, listSha256, rfl, h, rfl⟩)
  | start value =>
    exact (decode_of_header h.1).trans (decodeStart_eq_ok.mpr ⟨value, rfl, h, rfl⟩)
  | startAck value =>
    exact (decode_of_header h.1).trans (decodeStartAck_eq_ok.mpr ⟨value, rfl, h, rfl⟩)
  | data common sequence offset data =>
    exact (decode_of_header h.1).trans (decodeData_eq_ok.mpr
      ⟨common, sequence, offset, data, rfl, h, rfl⟩)
  | windowEnd value =>
    exact (decode_of_header h.1).trans (decodeWindowEnd_eq_ok.mpr ⟨value, rfl, h, rfl⟩)
  | windowAck value =>
    exact (decode_of_header h.1).trans (decodeWindowAck_eq_ok.mpr ⟨value, rfl, h, rfl⟩)
  | manifestChunk value =>
    exact (decode_of_header h.header).trans (decodeManifestChunk_eq_ok.mpr ⟨value, rfl, h, rfl⟩)
  | markerChunk value =>
    exact (decode_of_header h.header).trans (decodeMarkerChunk_eq_ok.mpr ⟨value, rfl, h, rfl⟩)
  | eof value => exact (decode_of_header h).trans (decodeEof_eq_ok.mpr ⟨value, rfl, h, rfl⟩)
  | resumeRequest value =>
    exact (decode_of_header h.1).trans (@decodeResume_eq_ok _ _ false |>.mpr ⟨value, rfl, h, rfl⟩)
  | resumeAccept value =>
    exact (decode_of_header h.1).trans (@decodeResume_eq_ok _ _ true |>.mpr ⟨value, rfl, h, rfl⟩)
  | resumeReject value =>
    exact (decode_of_header h).trans (decodeResumeReject_eq_ok.mpr ⟨value, rfl, h, rfl⟩)
  | confirm value =>
    exact (decode_of_header h).trans (decodeConfirm_eq_ok.mpr ⟨value, rfl, h, rfl⟩)
  | abort common reason =>
    exact (decode_of_header h).trans (decodeAbort_eq_ok.mpr ⟨common, reason, rfl, h, rfl⟩)
  | error common result failed revision =>
    exact (decode_of_header h).trans (decodeError_eq_ok.mpr
      ⟨common, result, failed, revision, rfl, h, rfl⟩)

theorem decode_eq_ok :
    decodeEncryptedUploadV2Transfer bytes = .ok message ↔
      Accepted message ∧ bytes = frame message := by
  constructor
  · intro h
    rw [decodeEncryptedUploadV2Transfer, seq_eq_ok, bind_eq_ok] at h
    obtain ⟨-, code, -, hmessage⟩ := h
    exact decodeMessage_sound hmessage
  · rintro ⟨haccepted, rfl⟩
    exact decode_complete haccepted

theorem encode_iff_decode (message : EncryptedUploadV2Transfer) (bytes : List UInt8) :
    encodeEncryptedUploadV2Transfer message = .ok bytes ↔
      decodeEncryptedUploadV2Transfer bytes = .ok message := by
  rw [encode_eq_ok, decode_eq_ok]

end BotaSdk.TransferV2
