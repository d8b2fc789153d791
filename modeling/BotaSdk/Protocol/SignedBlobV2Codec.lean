import BotaSdk.Lib.Sha256
import BotaSdk.Protocol.EncryptedUploadV2Codec
import BotaSdk.Protocol.SignedBlobV2

/-!
# The signed-blob codec is a bijection

Encoding succeeds exactly on the accepted messages and yields their frames, decoding succeeds exactly
on these frames, and a document that is cut into DATA frames is put together again.
-/

namespace BotaSdk.SignedBlobV2

open Bytes Checked Layout Protocol TransferV2

/-! ## Frames -/

def prefixFields (code kind : UInt8) (writeId : UInt32) : List (List UInt8) :=
  [[code], [ENCRYPTED_UPLOAD_V2_DOCUMENT_VERSION], [kind], [0], leBytes 4 writeId.toNat]

/-- The fields of a blob's frame in order. -/
def blobFields : EncryptedUploadV2SignedBlob → List (List UInt8)
  | .begin kind writeId totalLength sha256 =>
      prefixFields ENCRYPTED_UPLOAD_V2_BLOB_BEGIN kind writeId ++
        [leBytes 2 totalLength.toNat, sha256.1]
  | .data kind writeId offset data => prefixFields ENCRYPTED_UPLOAD_V2_BLOB_DATA kind writeId ++
      [leBytes 2 offset.toNat, leBytes 2 data.length, data]
  | .commit kind writeId => prefixFields ENCRYPTED_UPLOAD_V2_BLOB_COMMIT kind writeId ++ []
  | .abort kind writeId => prefixFields ENCRYPTED_UPLOAD_V2_BLOB_ABORT kind writeId ++ []
  | .result kind writeId result => prefixFields ENCRYPTED_UPLOAD_V2_BLOB_RESULT kind writeId ++
      [leBytes 2 result.toNat]

def blobFrame (blob : EncryptedUploadV2SignedBlob) : List UInt8 :=
  (blobFields blob).flatten

/-- The document of a kind has this length. -/
def DocumentLength (kind : UInt8) (n : Nat) : Prop :=
  signedDocumentLength kind .decode = .ok n

/-- The blobs that the codec accepts. -/
def BlobAccepted : EncryptedUploadV2SignedBlob → Prop
  | .begin kind _ totalLength _ => DocumentLength kind totalLength.toNat
  | .data kind _ offset data => data ≠ [] ∧ 12 + data.length ≤ MAX_MTU ∧
      ∃ n, DocumentLength kind n ∧ offset.toNat + data.length ≤ n
  | .commit kind _ | .abort kind _ | .result kind _ _ => ∃ n, DocumentLength kind n

variable {bytes : List UInt8} {kind code : UInt8} {writeId : UInt32} {n m : Nat}
  {blob : EncryptedUploadV2SignedBlob} {operation : Operation}

/-- Encoder and decoder know the same kinds. -/
theorem signedDocumentLength_eq_ok :
    signedDocumentLength kind operation = .ok n ↔ DocumentLength kind n := by
  unfold DocumentLength signedDocumentLength
  repeat' split
  all_goals first | exact Iff.rfl | exact iff_of_false nofun nofun

/-! ## Decoding -/

theorem fieldsAt_prefix {fields : List (List UInt8)} :
    FieldsAt bytes 0 (prefixFields code kind writeId ++ fields) ↔
      field bytes 0 1 = [code] ∧ field bytes 1 1 = [ENCRYPTED_UPLOAD_V2_DOCUMENT_VERSION] ∧
        field bytes 2 1 = [kind] ∧ field bytes 3 1 = [0] ∧
        field bytes 4 4 = leBytes 4 writeId.toNat ∧ FieldsAt bytes 8 fields := by
  simp only [prefixFields, List.cons_append, List.nil_append, FieldsAt, List.length_singleton,
    length_leBytes, Nat.reduceAdd]

theorem eq_blobFrame_iff : bytes = blobFrame blob ↔ FieldsAt bytes 0 (blobFields blob) := by
  rw [blobFrame, ← drop_eq_flatten_iff, List.drop_zero]

theorem decodeBlobPrefix_eq_ok :
    decodeBlobPrefix bytes = .ok (kind, writeId) ↔
      (∃ n, DocumentLength kind n) ∧ field bytes 1 1 = [ENCRYPTED_UPLOAD_V2_DOCUMENT_VERSION] ∧
        field bytes 2 1 = [kind] ∧ field bytes 3 1 = [0] ∧
        field bytes 4 4 = leBytes 4 writeId.toNat := by
  simp only [decodeBlobPrefix, bind_eq_ok, u8_eq_ok, requireVersion_eq_ok,
    signedDocumentLength_eq_ok, u32_eq_ok, pure_eq_ok, Prod.mk.injEq]
  constructor
  · rintro ⟨_, hversion, -, rfl, _, hkind, n, hlength, z, hz, u, hu, _, hwrite, rfl, rfl⟩
    exact ⟨⟨n, hlength⟩, hversion, hkind, (reserved_eq_ok Nat.one_pos).mp ⟨z, hz, u, hu⟩, hwrite⟩
  · rintro ⟨⟨n, hlength⟩, hversion, hkind, hreserved, hwrite⟩
    obtain ⟨z, hz, u, hu⟩ := (@reserved_eq_ok bytes 1 3 "signed blob reserved byte" Nat.one_pos).mpr
      hreserved
    exact ⟨_, hversion, (), rfl, _, hkind, n, hlength, z, hz, u, hu, _, hwrite, rfl, rfl⟩

theorem decodeBegin_eq_ok :
    field bytes 0 1 = [ENCRYPTED_UPLOAD_V2_BLOB_BEGIN] ∧ decodeBegin bytes = .ok blob ↔
      ∃ kind writeId totalLength sha256, blob = .begin kind writeId totalLength sha256 ∧
        BlobAccepted blob ∧ bytes = blobFrame blob := by
  simp only [decodeBegin, bind_eq_ok, requireExact_eq_ok, Prod.exists, decodeBlobPrefix_eq_ok,
    u16_eq_ok, signedDocumentLength_eq_ok, requireDeclaredLength_eq_ok,
    fixed_eq_ok (by decide : 0 < 32), pure_eq_ok, eq_blobFrame_iff]
  constructor
  · rintro ⟨hcode, -, hlength, kind, writeId, ⟨-, h1, h2, h3, h4⟩, total, h8, _, hdocument, -, rfl,
      sha256, h10, rfl⟩
    refine ⟨kind, writeId, total, sha256, rfl, hdocument, fieldsAt_prefix.mpr
      ⟨hcode, h1, h2, h3, h4, ?_⟩⟩
    simp only [FieldsAt, length_leBytes, length_fixed, Nat.reduceAdd]
    exact ⟨h8, h10, hlength.le⟩
  · rintro ⟨kind, writeId, total, sha256, rfl, hdocument, hframe⟩
    rw [blobFields, fieldsAt_prefix] at hframe
    simp only [FieldsAt, length_leBytes, length_fixed, Nat.reduceAdd] at hframe
    obtain ⟨hcode, h1, h2, h3, h4, h8, h10, hlength⟩ := hframe
    have hroom := room_of_length_field h10 sha256.2 (by decide)
    exact ⟨hcode, (), by omega, kind, writeId, ⟨⟨_, hdocument⟩, h1, h2, h3, h4⟩, total, h8, _,
      hdocument, (), rfl, sha256, h10, rfl⟩

theorem decodeBlobData_eq_ok :
    field bytes 0 1 = [ENCRYPTED_UPLOAD_V2_BLOB_DATA] ∧ decodeBlobData bytes = .ok blob ↔
      ∃ kind writeId offset data, blob = .data kind writeId offset data ∧
        BlobAccepted blob ∧ bytes = blobFrame blob := by
  simp only [decodeBlobData, bind_eq_ok, require_eq_ok, ensureFrameLimit_eq_ok, Prod.exists,
    decodeBlobPrefix_eq_ok, u16_eq_ok, guard_eq_ok, requireDynamicExact_eq_ok, checkedFrameLength,
    signedDocumentLength_eq_ok, pure_eq_ok, eq_blobFrame_iff]
  constructor
  · rintro ⟨hcode, -, -, -, hlimit, kind, writeId, ⟨-, h1, h2, h3, h4⟩, offset, h8, count, h10,
      hcount, -, hlength, n, hdocument, hrange, data, htail, rfl⟩
    obtain ⟨h12, hdata⟩ := (tail_eq_ok_iff (hlength.trans (by rw [Nat.mul_one]))).mp htail
    refine ⟨kind, writeId, offset, data, rfl, ⟨?_, by omega, n, hdocument, by omega⟩,
      fieldsAt_prefix.mpr ⟨hcode, h1, h2, h3, h4, ?_⟩⟩
    · rintro rfl
      exact hcount (UInt16.toNat_inj.mp hdata.symm)
    · simp only [FieldsAt, length_leBytes, Nat.reduceAdd]
      exact ⟨h8, hdata ▸ h10, h12, by omega⟩
  · rintro ⟨kind, writeId, offset, data, rfl, ⟨hdata, hlimit, n, hdocument, hrange⟩, hframe⟩
    rw [blobFields, fieldsAt_prefix] at hframe
    simp only [FieldsAt, length_leBytes, Nat.reduceAdd] at hframe
    obtain ⟨hcode, h1, h2, h3, h4, h8, h10, h12, hlength⟩ := hframe
    have hpos := List.length_pos_iff.mpr hdata
    have hroom := room_of_length_field h12 rfl hpos
    rw [MAX_MTU] at hlimit ⊢
    have hcount : data.length < 65536 := by omega
    have hnonzero : UInt16.ofNat data.length ≠ 0 := by
      intro hzero
      have hlength : 0 = data.length := (congrArg UInt16.toNat hzero).symm.trans (toNat_count hcount)
      omega
    rw [← toNat_count hcount] at h10
    refine ⟨hcode, (), by omega, (), by omega, kind, writeId, ⟨⟨n, hdocument⟩, h1, h2, h3, h4⟩, offset,
      h8, _, h10, hnonzero, ?_⟩
    rw [toNat_count hcount]
    exact ⟨(), by omega, n, hdocument, by omega, data, (tail_eq_ok_iff (by omega)).mpr ⟨h12, rfl⟩, rfl⟩

theorem decodeCommit_eq_ok :
    field bytes 0 1 = [ENCRYPTED_UPLOAD_V2_BLOB_COMMIT] ∧ decodeCommit bytes = .ok blob ↔
      ∃ kind writeId, blob = .commit kind writeId ∧ BlobAccepted blob ∧ bytes = blobFrame blob := by
  simp only [decodeCommit, bind_eq_ok, requireExact_eq_ok, Prod.exists, decodeBlobPrefix_eq_ok,
    pure_eq_ok, eq_blobFrame_iff]
  constructor
  · rintro ⟨hcode, -, hlength, kind, writeId, ⟨hdocument, h1, h2, h3, h4⟩, rfl⟩
    exact ⟨kind, writeId, rfl, hdocument, fieldsAt_prefix.mpr
      ⟨hcode, h1, h2, h3, h4, hlength.le⟩⟩
  · rintro ⟨kind, writeId, rfl, hdocument, hframe⟩
    rw [blobFields, fieldsAt_prefix] at hframe
    obtain ⟨hcode, h1, h2, h3, h4, hlength⟩ := hframe
    have hroom := room_of_length_field h4 (length_leBytes 4 _) (by decide)
    have hshort : bytes.length ≤ 8 := hlength
    exact ⟨hcode, (), by omega, kind, writeId, ⟨hdocument, h1, h2, h3, h4⟩, rfl⟩

theorem decodeBlobAbort_eq_ok :
    field bytes 0 1 = [ENCRYPTED_UPLOAD_V2_BLOB_ABORT] ∧ decodeBlobAbort bytes = .ok blob ↔
      ∃ kind writeId, blob = .abort kind writeId ∧ BlobAccepted blob ∧ bytes = blobFrame blob := by
  simp only [decodeBlobAbort, bind_eq_ok, requireExact_eq_ok, Prod.exists, decodeBlobPrefix_eq_ok,
    pure_eq_ok, eq_blobFrame_iff]
  constructor
  · rintro ⟨hcode, -, hlength, kind, writeId, ⟨hdocument, h1, h2, h3, h4⟩, rfl⟩
    exact ⟨kind, writeId, rfl, hdocument, fieldsAt_prefix.mpr
      ⟨hcode, h1, h2, h3, h4, hlength.le⟩⟩
  · rintro ⟨kind, writeId, rfl, hdocument, hframe⟩
    rw [blobFields, fieldsAt_prefix] at hframe
    obtain ⟨hcode, h1, h2, h3, h4, hlength⟩ := hframe
    have hroom := room_of_length_field h4 (length_leBytes 4 _) (by decide)
    have hshort : bytes.length ≤ 8 := hlength
    exact ⟨hcode, (), by omega, kind, writeId, ⟨hdocument, h1, h2, h3, h4⟩, rfl⟩

theorem decodeResult_eq_ok :
    field bytes 0 1 = [ENCRYPTED_UPLOAD_V2_BLOB_RESULT] ∧ decodeResult bytes = .ok blob ↔
      ∃ kind writeId result, blob = .result kind writeId result ∧ BlobAccepted blob ∧
        bytes = blobFrame blob := by
  simp only [decodeResult, bind_eq_ok, requireExact_eq_ok, Prod.exists, decodeBlobPrefix_eq_ok,
    u16_eq_ok, pure_eq_ok, eq_blobFrame_iff]
  constructor
  · rintro ⟨hcode, -, hlength, kind, writeId, ⟨hdocument, h1, h2, h3, h4⟩, result, h8, rfl⟩
    refine ⟨kind, writeId, result, rfl, hdocument, fieldsAt_prefix.mpr ⟨hcode, h1, h2, h3, h4, ?_⟩⟩
    simp only [FieldsAt, length_leBytes, Nat.reduceAdd]
    exact ⟨h8, hlength.le⟩
  · rintro ⟨kind, writeId, result, rfl, hdocument, hframe⟩
    rw [blobFields, fieldsAt_prefix] at hframe
    simp only [FieldsAt, length_leBytes, Nat.reduceAdd] at hframe
    obtain ⟨hcode, h1, h2, h3, h4, h8, hlength⟩ := hframe
    have hroom := room_of_length_field h8 (length_leBytes 2 _) (by decide)
    exact ⟨hcode, (), by omega, kind, writeId, ⟨hdocument, h1, h2, h3, h4⟩, result, h8, rfl⟩

theorem decode_eq_ok :
    decodeEncryptedUploadV2SignedBlob bytes = .ok blob ↔
      BlobAccepted blob ∧ bytes = blobFrame blob := by
  simp only [decodeEncryptedUploadV2SignedBlob, bind_eq_ok, require_eq_ok, u8_eq_ok]
  constructor
  · rintro ⟨-, -, code, hcode, hdecode⟩
    rw [decodeBlob] at hdecode
    split at hdecode
    · rename_i h
      obtain ⟨_, _, _, _, -, h⟩ := decodeBegin_eq_ok.mp ⟨h ▸ hcode, hdecode⟩
      exact h
    split at hdecode
    · rename_i h
      obtain ⟨_, _, _, _, -, h⟩ := decodeBlobData_eq_ok.mp ⟨h ▸ hcode, hdecode⟩
      exact h
    split at hdecode
    · rename_i h
      obtain ⟨_, _, -, h⟩ := decodeCommit_eq_ok.mp ⟨h ▸ hcode, hdecode⟩
      exact h
    split at hdecode
    · rename_i h
      obtain ⟨_, _, -, h⟩ := decodeBlobAbort_eq_ok.mp ⟨h ▸ hcode, hdecode⟩
      exact h
    split at hdecode
    · rename_i h
      obtain ⟨_, _, _, -, h⟩ := decodeResult_eq_ok.mp ⟨h ▸ hcode, hdecode⟩
      exact h
    · exact nomatch hdecode
  · rintro ⟨haccepted, hframe⟩
    have hroom {code : UInt8} (hcode : field bytes 0 1 = [code]) : 1 ≤ bytes.length := by
      have := room_of_length_field hcode rfl Nat.one_pos
      omega
    cases blob with
    | begin =>
      obtain ⟨hcode, h⟩ := decodeBegin_eq_ok.mpr ⟨_, _, _, _, rfl, haccepted, hframe⟩
      exact ⟨(), hroom hcode, _, hcode, h⟩
    | data =>
      obtain ⟨hcode, h⟩ := decodeBlobData_eq_ok.mpr ⟨_, _, _, _, rfl, haccepted, hframe⟩
      exact ⟨(), hroom hcode, _, hcode, h⟩
    | commit =>
      obtain ⟨hcode, h⟩ := decodeCommit_eq_ok.mpr ⟨_, _, rfl, haccepted, hframe⟩
      exact ⟨(), hroom hcode, _, hcode, h⟩
    | abort =>
      obtain ⟨hcode, h⟩ := decodeBlobAbort_eq_ok.mpr ⟨_, _, rfl, haccepted, hframe⟩
      exact ⟨(), hroom hcode, _, hcode, h⟩
    | result =>
      obtain ⟨hcode, h⟩ := decodeResult_eq_ok.mpr ⟨_, _, _, rfl, haccepted, hframe⟩
      exact ⟨(), hroom hcode, _, hcode, h⟩

/-! ## Encoding -/

theorem encodeBlobPrefix_eq_ok (h : 8 ≤ n) :
    encodeBlobPrefix code kind writeId n = .ok bytes ↔
      (∃ m, DocumentLength kind m) ∧ bytes = written 0 (prefixFields code kind writeId) (n - 8) := by
  have hwrite : putU32 (putU8 (putU8 (putU8 (List.replicate n 0) 0 code) 1
      ENCRYPTED_UPLOAD_V2_DOCUMENT_VERSION) 2 kind) 4 writeId =
        written 0 (prefixFields code kind writeId) (n - 8) := by
    obtain ⟨m, rfl⟩ := Nat.exists_eq_add_of_le h
    have hblank : List.replicate (8 + m) (0 : UInt8) = written 0 [] (1 + (1 + (1 + (5 + m)))) := by
      rw [written, List.flatten_nil, List.nil_append]
      congr 1
      omega
    have hfirst : put (written 0 [] (1 + (1 + (1 + (5 + m))))) 0 [code] =
        written 0 [[code]] (1 + (1 + (5 + m))) := by
      rw [put_written (by simp) (by simp), List.nil_append, List.length_singleton,
        Nat.add_sub_cancel_left]
    simp [hblank, hfirst, putU8, putU32, prefixFields]
    rw [put_written_skip (by simp) (by simp; omega)]
    simp [show 3 + (5 + m) - 8 = m by omega]
  simp only [encodeBlobPrefix, bind_eq_ok, signedDocumentLength_eq_ok, pure_eq_ok]
  constructor
  · rintro ⟨m, hm, rfl⟩
    exact ⟨⟨m, hm⟩, hwrite⟩
  · rintro ⟨⟨m, hm⟩, rfl⟩
    exact ⟨m, hm, hwrite⟩

/-- What an encoder writes behind the prefix. -/
theorem encodedBlob_eq_ok {write : List UInt8 → List UInt8} {fields : List (List UInt8)}
    (hfields : blobFields blob = prefixFields code kind writeId ++ fields) (h : 8 ≤ n)
    (hwrite : write (written 0 (prefixFields code kind writeId) (n - 8)) =
      written 0 (prefixFields code kind writeId ++ fields) 0) :
    (encodeBlobPrefix code kind writeId n >>= fun bytes => pure (write bytes)) = .ok bytes ↔
      (∃ m, DocumentLength kind m) ∧ bytes = blobFrame blob := by
  rw [bind_eq_ok, blobFrame, hfields, ← written_zero, ← hwrite]
  constructor
  · rintro ⟨buffer, hbuffer, hbytes⟩
    obtain ⟨hkind, rfl⟩ := (encodeBlobPrefix_eq_ok h).mp hbuffer
    exact ⟨hkind, (pure_eq_ok.mp hbytes).symm⟩
  · rintro ⟨hkind, rfl⟩
    exact ⟨_, (encodeBlobPrefix_eq_ok h).mpr ⟨hkind, rfl⟩, rfl⟩

theorem encode_eq_ok :
    encodeEncryptedUploadV2SignedBlob blob = .ok bytes ↔
      BlobAccepted blob ∧ bytes = blobFrame blob := by
  cases blob with
  | begin kind writeId totalLength sha256 =>
    rw [encodeEncryptedUploadV2SignedBlob, bind_eq_ok]
    simp only [signedDocumentLength_eq_ok, guard_eq_ok, ne_eq, not_not]
    have hencoded := @encodedBlob_eq_ok bytes kind ENCRYPTED_UPLOAD_V2_BLOB_BEGIN writeId 42
      (.begin kind writeId totalLength sha256)
      (fun bytes => putFixed (putU16 bytes 8 totalLength) 10 sha256)
      [leBytes 2 totalLength.toNat, sha256.1] rfl (by decide)
      (by simp [putU16, putFixed, prefixFields])
    rw [BlobAccepted]
    constructor
    · rintro ⟨_, hdocument, rfl, h⟩
      exact ⟨hdocument, (hencoded.mp h).2⟩
    · rintro ⟨hdocument, hframe⟩
      exact ⟨_, hdocument, rfl, hencoded.mpr ⟨⟨_, hdocument⟩, hframe⟩⟩
  | data kind writeId offset data =>
    rw [encodeEncryptedUploadV2SignedBlob, bind_eq_ok]
    simp only [signedDocumentLength_eq_ok, guard_eq_ok, counted_eq_ok, seq_eq_ok,
      ensureFrameLimit_eq_ok, checkedFrameLength, List.isEmpty_iff, Nat.mul_one]
    have hencoded (hcount : data.length < 65536) :=
      @encodedBlob_eq_ok bytes kind ENCRYPTED_UPLOAD_V2_BLOB_DATA writeId (12 + data.length)
        (.data kind writeId offset data)
        (fun bytes => put (putU16 (putU16 bytes 8 offset) 10 (UInt16.ofNat data.length)) 12 data)
        [leBytes 2 offset.toNat, leBytes 2 data.length, data] rfl (by omega) (by
          rw [show 12 + data.length - 8 = 2 + (2 + data.length) by omega]
          simp [putU16, prefixFields, Nat.mod_eq_of_lt hcount])
    rw [BlobAccepted, MAX_MTU]
    constructor
    · rintro ⟨n, hdocument, hdata, hcount, hrange, hlimit, h⟩
      rw [toNat_count hcount] at hrange
      exact ⟨⟨hdata, hlimit, n, hdocument, by omega⟩, ((hencoded hcount).mp h).2⟩
    · rintro ⟨⟨hdata, hlimit, n, hdocument, hrange⟩, hframe⟩
      have hcount : data.length < 65536 := by omega
      refine ⟨n, hdocument, hdata, hcount, ?_, hlimit, (hencoded hcount).mpr ⟨⟨n, hdocument⟩, hframe⟩⟩
      rw [toNat_count hcount]
      omega
  | commit kind writeId =>
    rw [encodeEncryptedUploadV2SignedBlob, encodeBlobPrefix_eq_ok (by decide), Nat.sub_self,
      written_zero, BlobAccepted, blobFrame, blobFields, List.append_nil]
  | abort kind writeId =>
    rw [encodeEncryptedUploadV2SignedBlob, encodeBlobPrefix_eq_ok (by decide), Nat.sub_self,
      written_zero, BlobAccepted, blobFrame, blobFields, List.append_nil]
  | result kind writeId result =>
    refine encodedBlob_eq_ok rfl (by decide) ?_
    simp [putU16, prefixFields]

/-! ## Assembly -/

/-- The DATA frames that carry these chunks, from `offset` on. -/
def cut (kind : UInt8) (writeId : UInt32) : Nat → List (List UInt8) →
    List EncryptedUploadV2SignedBlob
  | _, [] => []
  | offset, chunk :: chunks =>
    .data kind writeId (UInt16.ofNat offset) chunk :: cut kind writeId (offset + chunk.length) chunks

/-- Feed decoded DATA frames to an assembler. -/
def pushAll : SignedBlobAssemblerV2 → List (List UInt8) →
    Except DeviceSdkError SignedBlobAssemblerV2
  | assembler, [] => .ok assembler
  | assembler, frame :: frames => do
    let blob ← decodeEncryptedUploadV2SignedBlob frame
    match assembler.push blob with
    | (.ok (), assembler) => pushAll assembler frames
    | (.error error, _) => .error error

/-- What the frames of one document are put together to. -/
def assemble (sha256 : List UInt8 → FixedBytes 32) (begin : List UInt8) (frames : List (List UInt8))
    (commit : List UInt8) : Except DeviceSdkError (List UInt8) := do
  let assembler ← SignedBlobAssemblerV2.fromBegin (← decodeEncryptedUploadV2SignedBlob begin)
  let assembler ← pushAll assembler frames
  (assembler.finish sha256 (← decodeEncryptedUploadV2SignedBlob commit)).1

theorem constantTimeEq_self (value : List UInt8) : constantTimeEq value value = true := by
  have hfold (difference : UInt8) : (value.zip value).foldl
      (fun difference pair => difference ||| (pair.1 ^^^ pair.2)) difference = difference := by
    induction value generalizing difference with
    | nil => rfl
    | cons byte rest ih =>
      rw [List.zip_cons_cons, List.foldl_cons, UInt8.xor_self, UInt8.or_zero]
      exact ih difference
  rw [constantTimeEq, if_neg (not_not.mpr rfl), hfold]
  rfl

/-- An assembler that has taken `bytes` of its document. -/
def assembling (kind : UInt8) (writeId : UInt32) (totalLength : Nat) (sha256 : FixedBytes 32)
    (bytes : List UInt8) : SignedBlobAssemblerV2 :=
  { kind, writeId, totalLength, sha256, bytes, active := true }

/-- The next chunk is appended. -/
theorem push_chunk {sha256 : FixedBytes 32} {taken chunk : List UInt8} {offset : UInt16}
    (hoffset : offset.toNat = taken.length) (hchunk : chunk ≠ [])
    (hroom : taken.length + chunk.length ≤ n) :
    (assembling kind writeId n sha256 taken).push (.data kind writeId offset chunk) =
      (.ok (), assembling kind writeId n sha256 (taken ++ chunk)) := by
  have hempty : chunk.isEmpty = false := by rw [List.isEmpty_eq_false_iff]; exact hchunk
  simp only [SignedBlobAssemblerV2.push, assembling, Bool.not_true, Bool.false_eq_true, if_false,
    ne_eq, not_true, or_self, hempty, hoffset, if_neg (Nat.not_lt.mpr hroom), if_true]

/-- All chunks together are appended. -/
theorem pushAll_cut {sha256 : FixedBytes 32} {chunks frames : List (List UInt8)}
    {taken : List UInt8} (hlimit : n < 65536)
    (hroom : taken.length + chunks.flatten.length ≤ n)
    (hframes : (cut kind writeId taken.length chunks).mapM encodeEncryptedUploadV2SignedBlob =
      .ok frames) :
    pushAll (assembling kind writeId n sha256 taken) frames =
      .ok (assembling kind writeId n sha256 (taken ++ chunks.flatten)) := by
  induction chunks generalizing taken frames with
  | nil =>
    obtain rfl := Except.ok.inj hframes
    rw [List.flatten_nil, List.append_nil]
    rfl
  | cons chunk chunks ih =>
    rw [List.flatten_cons, List.length_append] at hroom
    rw [cut, List.mapM_cons, bind_eq_ok] at hframes
    obtain ⟨frame, hframe, htail⟩ := hframes
    obtain ⟨rest, hrest, hpure⟩ := bind_eq_ok.mp htail
    obtain rfl := pure_eq_ok.mp hpure
    have haccepted := encode_eq_ok.mp hframe
    rw [pushAll, decode_eq_ok.mpr haccepted]
    show (match (assembling kind writeId n sha256 taken).push _ with
      | (.ok (), assembler) => pushAll assembler rest
      | (.error error, _) => .error error) = _
    rw [push_chunk (toNat_count (by omega)) haccepted.1.1 (by omega)]
    rw [← List.length_append] at hrest
    have hih := ih (by rw [List.length_append]; omega) hrest
    rw [List.flatten_cons, ← List.append_assoc]
    exact hih

theorem encode_iff_decode_blob (blob : EncryptedUploadV2SignedBlob) (bytes : List UInt8) :
    encodeEncryptedUploadV2SignedBlob blob = .ok bytes ↔
      decodeEncryptedUploadV2SignedBlob bytes = .ok blob := by
  rw [encode_eq_ok, decode_eq_ok]

theorem DocumentLength.lt (h : DocumentLength kind n) : n < 65536 := by
  unfold DocumentLength signedDocumentLength at h
  repeat' split at h
  all_goals first | (obtain rfl := Except.ok.inj h; decide) | exact nomatch h

/-- Encoding and decoding are inverse to each other, and a document of any kind is put together again from DATA
frames of any sizes. -/
theorem signed_blob_codec (sha256 : List UInt8 → FixedBytes 32) :
    (∀ blob bytes, encodeEncryptedUploadV2SignedBlob blob = .ok bytes ↔
      decodeEncryptedUploadV2SignedBlob bytes = .ok blob) ∧
    ∀ kind writeId document, signedDocumentLength kind .encode = .ok document.length →
      ∃ begin commit,
        encodeEncryptedUploadV2SignedBlob (.begin kind writeId (UInt16.ofNat document.length)
          (sha256 document)) = .ok begin ∧
        encodeEncryptedUploadV2SignedBlob (.commit kind writeId) = .ok commit ∧
        ∀ chunks frames, chunks.flatten = document →
          (cut kind writeId 0 chunks).mapM encodeEncryptedUploadV2SignedBlob = .ok frames →
          assemble sha256 begin frames commit = .ok document := by
  refine ⟨encode_iff_decode_blob, fun kind writeId document hlength => ?_⟩
  have hdocument := signedDocumentLength_eq_ok.mp hlength
  have hcount := toNat_count hdocument.lt
  have hbegin : BlobAccepted (.begin kind writeId (UInt16.ofNat document.length) (sha256 document)) := by
    rw [BlobAccepted, hcount]
    exact hdocument
  have hcommit : BlobAccepted (.commit kind writeId) := ⟨_, hdocument⟩
  refine ⟨_, _, encode_eq_ok.mpr ⟨hbegin, rfl⟩, encode_eq_ok.mpr ⟨hcommit, rfl⟩, ?_⟩
  rintro chunks frames rfl hframes
  have hfrom : SignedBlobAssemblerV2.fromBegin
      (.begin kind writeId (UInt16.ofNat chunks.flatten.length) (sha256 chunks.flatten)) =
        .ok (assembling kind writeId chunks.flatten.length (sha256 chunks.flatten) []) := by
    rw [SignedBlobAssemblerV2.fromBegin, bind_eq_ok]
    exact ⟨_, hdocument, guard_eq_ok.mpr ⟨not_not.mpr hcount, rfl⟩⟩
  have hpush := @pushAll_cut kind writeId _ (sha256 chunks.flatten) chunks frames [] hdocument.lt
    (Nat.le_of_eq (Nat.zero_add _)) hframes
  have hfinish : ((assembling kind writeId chunks.flatten.length (sha256 chunks.flatten)
      chunks.flatten).finish sha256 (.commit kind writeId)).1 = .ok chunks.flatten := by
    simp [SignedBlobAssemblerV2.finish, assembling, constantTimeEq_self]
  simp only [assemble, bind_eq_ok]
  exact ⟨_, decode_eq_ok.mpr ⟨hbegin, rfl⟩, _, hfrom, _, hpush, _, decode_eq_ok.mpr ⟨hcommit, rfl⟩,
    hfinish⟩

/-- A context challenge. -/
def sampleDocument : List UInt8 :=
  List.replicate 196 7

theorem signed_blob_codec_sample :
    ∃ begin commit frames,
      (cut 3 9 0 [sampleDocument.take 100, sampleDocument.drop 100]).mapM
        encodeEncryptedUploadV2SignedBlob = .ok frames ∧
      assemble Sha256.digest begin frames commit = .ok sampleDocument := by
  obtain ⟨begin, commit, -, -, hassemble⟩ := (signed_blob_codec Sha256.digest).2 3 9 sampleDocument rfl
  obtain ⟨frames, hframes⟩ : ∃ frames, (cut 3 9 0 [sampleDocument.take 100, sampleDocument.drop 100]).mapM
      encodeEncryptedUploadV2SignedBlob = .ok frames := ⟨_, rfl⟩
  exact ⟨begin, commit, frames, hframes, hassemble _ _ (by decide +kernel) hframes⟩

end BotaSdk.SignedBlobV2
