import BotaSdk.Protocol.EncryptedUploadV2

/-!
# Signed blobs of encrypted upload v2 (`protocol/encrypted_upload_v2.rs`)

A signed document travels in one BEGIN, any number of DATA and one COMMIT frame.
-/

namespace BotaSdk

namespace Protocol

def ENCRYPTED_UPLOAD_V2_BLOB_KIND_AUTHORIZATION : UInt8 := 0x01
def ENCRYPTED_UPLOAD_V2_BLOB_KIND_RECEIPT : UInt8 := 0x02
def ENCRYPTED_UPLOAD_V2_BLOB_KIND_CONTEXT_CHALLENGE : UInt8 := 0x03
def ENCRYPTED_UPLOAD_V2_BLOB_KIND_CONTEXT_RESULT : UInt8 := 0x04
def ENCRYPTED_UPLOAD_V2_BLOB_KIND_MARKED_AUTHORIZATION : UInt8 := 0x05
def ENCRYPTED_UPLOAD_V2_BLOB_KIND_MARKED_RECEIPT : UInt8 := 0x06
def ENCRYPTED_UPLOAD_V2_BLOB_KIND_LOCAL_WIFI_CONTROL : UInt8 := 0x07
def ENCRYPTED_UPLOAD_V2_BLOB_KIND_COUNTRY_CONFIG : UInt8 := 0x08
def ENCRYPTED_UPLOAD_V2_BLOB_BEGIN : UInt8 := 0x60
def ENCRYPTED_UPLOAD_V2_BLOB_DATA : UInt8 := 0x61
def ENCRYPTED_UPLOAD_V2_BLOB_COMMIT : UInt8 := 0x62
def ENCRYPTED_UPLOAD_V2_BLOB_ABORT : UInt8 := 0x63
def ENCRYPTED_UPLOAD_V2_BLOB_RESULT : UInt8 := 0x64
def ENCRYPTED_UPLOAD_V2_DOCUMENT_VERSION : UInt8 := 0x02
def COMPLETION_RECEIPT_V2_FIXED_LENGTH : Nat := 336
def UPLOAD_CONTEXT_CHALLENGE_FIXED_LENGTH : Nat := 196
def UPLOAD_CONTEXT_RESULT_FIXED_LENGTH : Nat := 264
def COUNTRY_CONFIG_FIXED_LENGTH : Nat := 264

end Protocol

open Protocol

inductive EncryptedUploadV2SignedBlob where
  | begin (kind : UInt8) (writeId : UInt32) (totalLength : UInt16) (sha256 : FixedBytes 32)
  | data (kind : UInt8) (writeId : UInt32) (offset : UInt16) (data : List UInt8)
  | commit (kind : UInt8) (writeId : UInt32)
  | abort (kind : UInt8) (writeId : UInt32)
  | result (kind : UInt8) (writeId : UInt32) (result : UInt16)
  deriving DecidableEq

namespace SignedBlobV2

open Bytes Layout TransferV2

def signedDocumentLength (kind : UInt8) (operation : Operation) : Except DeviceSdkError Nat :=
  if kind = ENCRYPTED_UPLOAD_V2_BLOB_KIND_AUTHORIZATION then
    .ok UPLOAD_AUTHORIZATION_V2_FIXED_LENGTH
  else if kind = ENCRYPTED_UPLOAD_V2_BLOB_KIND_RECEIPT then .ok COMPLETION_RECEIPT_V2_FIXED_LENGTH
  else if kind = ENCRYPTED_UPLOAD_V2_BLOB_KIND_CONTEXT_CHALLENGE then
    .ok UPLOAD_CONTEXT_CHALLENGE_FIXED_LENGTH
  else if kind = ENCRYPTED_UPLOAD_V2_BLOB_KIND_CONTEXT_RESULT then
    .ok UPLOAD_CONTEXT_RESULT_FIXED_LENGTH
  else if kind = ENCRYPTED_UPLOAD_V2_BLOB_KIND_MARKED_AUTHORIZATION then .ok 864
  else if kind = ENCRYPTED_UPLOAD_V2_BLOB_KIND_MARKED_RECEIPT then .ok 632
  else if kind = ENCRYPTED_UPLOAD_V2_BLOB_KIND_LOCAL_WIFI_CONTROL then .ok 509
  else if kind = ENCRYPTED_UPLOAD_V2_BLOB_KIND_COUNTRY_CONFIG then .ok COUNTRY_CONFIG_FIXED_LENGTH
  else .error (if operation = .decode then unknownDecode kind "signed blob kind"
    else invalidEncode "unknown signed blob kind")

def decodeBlobPrefix (bytes : List UInt8) : Except DeviceSdkError (UInt8 × UInt32) := do
  requireVersion (← Cursor.u8 bytes 1) ENCRYPTED_UPLOAD_V2_DOCUMENT_VERSION "signed blob version"
  let kind ← Cursor.u8 bytes 2
  let _ ← signedDocumentLength kind .decode
  requireZero (← Cursor.slice bytes 3 1) "signed blob reserved byte"
  return (kind, ← u32 bytes 4)

def decodeBegin (bytes : List UInt8) : Except DeviceSdkError EncryptedUploadV2SignedBlob := do
  Cursor.requireExact bytes 42
  let (kind, writeId) ← decodeBlobPrefix bytes
  let totalLength ← u16 bytes 8
  let expected ← signedDocumentLength kind .decode
  requireDeclaredLength totalLength.toNat expected "signed blob total length"
  return .begin kind writeId totalLength (← fixed 32 bytes 10)

def decodeBlobData (bytes : List UInt8) : Except DeviceSdkError EncryptedUploadV2SignedBlob := do
  Cursor.require bytes 12
  ensureFrameLimit bytes.length .decode
  let (kind, writeId) ← decodeBlobPrefix bytes
  let offset ← u16 bytes 8
  let length ← u16 bytes 10
  if length = 0 then throw (invalidDecode "signed blob DATA chunk must not be empty")
  requireDynamicExact bytes (checkedFrameLength 12 length.toNat 1)
  let documentLength ← signedDocumentLength kind .decode
  if documentLength < offset.toNat + length.toNat then
    throw (TransferV2.payloadTooLarge .decode "signed blob DATA exceeds its document")
  return .data kind writeId offset (← Cursor.tail bytes 12)

def decodeCommit (bytes : List UInt8) : Except DeviceSdkError EncryptedUploadV2SignedBlob := do
  Cursor.requireExact bytes 8
  let (kind, writeId) ← decodeBlobPrefix bytes
  return .commit kind writeId

def decodeBlobAbort (bytes : List UInt8) : Except DeviceSdkError EncryptedUploadV2SignedBlob := do
  Cursor.requireExact bytes 8
  let (kind, writeId) ← decodeBlobPrefix bytes
  return .abort kind writeId

def decodeResult (bytes : List UInt8) : Except DeviceSdkError EncryptedUploadV2SignedBlob := do
  Cursor.requireExact bytes 10
  let (kind, writeId) ← decodeBlobPrefix bytes
  return .result kind writeId (← u16 bytes 8)

def decodeBlob (code : UInt8) (bytes : List UInt8) :
    Except DeviceSdkError EncryptedUploadV2SignedBlob :=
  if code = ENCRYPTED_UPLOAD_V2_BLOB_BEGIN then decodeBegin bytes
  else if code = ENCRYPTED_UPLOAD_V2_BLOB_DATA then decodeBlobData bytes
  else if code = ENCRYPTED_UPLOAD_V2_BLOB_COMMIT then decodeCommit bytes
  else if code = ENCRYPTED_UPLOAD_V2_BLOB_ABORT then decodeBlobAbort bytes
  else if code = ENCRYPTED_UPLOAD_V2_BLOB_RESULT then decodeResult bytes
  else .error (unknownDecode code "signed blob message")

def decodeEncryptedUploadV2SignedBlob (bytes : List UInt8) :
    Except DeviceSdkError EncryptedUploadV2SignedBlob := do
  Cursor.require bytes 1
  decodeBlob (← Cursor.u8 bytes 0) bytes

/-- The zeroed buffer with the fields that all frames share. -/
def encodeBlobPrefix (code kind : UInt8) (writeId : UInt32) (length : Nat) :
    Except DeviceSdkError (List UInt8) := do
  let _ ← signedDocumentLength kind .encode
  let bytes := List.replicate length 0
  let bytes := putU8 bytes 0 code
  let bytes := putU8 bytes 1 ENCRYPTED_UPLOAD_V2_DOCUMENT_VERSION
  let bytes := putU8 bytes 2 kind
  return putU32 bytes 4 writeId

def encodeEncryptedUploadV2SignedBlob :
    EncryptedUploadV2SignedBlob → Except DeviceSdkError (List UInt8)
  | .begin kind writeId totalLength sha256 => do
    let expected ← signedDocumentLength kind .encode
    if totalLength.toNat ≠ expected then
      throw (invalidEncode "signed blob total length is not canonical")
    let bytes ← encodeBlobPrefix ENCRYPTED_UPLOAD_V2_BLOB_BEGIN kind writeId 42
    let bytes := putU16 bytes 8 totalLength
    return putFixed bytes 10 sha256
  | .data kind writeId offset data => do
    let documentLength ← signedDocumentLength kind .encode
    if data.isEmpty then throw (invalidEncode "signed blob DATA chunk must not be empty")
    let dataLength ← u16TryFrom data.length
      (TransferV2.payloadTooLarge .encode "signed blob DATA chunk length")
    if documentLength < offset.toNat + dataLength.toNat then
      throw (TransferV2.payloadTooLarge .encode "signed blob DATA exceeds its document")
    let length := checkedFrameLength 12 data.length 1
    ensureFrameLimit length .encode
    let bytes ← encodeBlobPrefix ENCRYPTED_UPLOAD_V2_BLOB_DATA kind writeId length
    let bytes := putU16 bytes 8 offset
    let bytes := putU16 bytes 10 dataLength
    return put bytes 12 data
  | .commit kind writeId => encodeBlobPrefix ENCRYPTED_UPLOAD_V2_BLOB_COMMIT kind writeId 8
  | .abort kind writeId => encodeBlobPrefix ENCRYPTED_UPLOAD_V2_BLOB_ABORT kind writeId 8
  | .result kind writeId result => do
    let bytes ← encodeBlobPrefix ENCRYPTED_UPLOAD_V2_BLOB_RESULT kind writeId 10
    return putU16 bytes 8 result

def constantTimeEq (left right : List UInt8) : Bool :=
  if left.length ≠ right.length then false
  else (left.zip right).foldl (fun difference pair => difference ||| (pair.1 ^^^ pair.2)) 0 == 0

end SignedBlobV2

/-! ## The assembler -/

structure SignedBlobAssemblerV2 where
  kind : UInt8
  writeId : UInt32
  totalLength : Nat
  sha256 : FixedBytes 32
  bytes : List UInt8
  active : Bool
  deriving DecidableEq

namespace SignedBlobAssemblerV2

open SignedBlobV2 TransferV2

/-- A call returns its result and leaves the assembler in a new state. -/
abbrev Outcome (α : Type) := Except DeviceSdkError α × SignedBlobAssemblerV2

def fromBegin : EncryptedUploadV2SignedBlob → Except DeviceSdkError SignedBlobAssemblerV2
  | .begin kind writeId totalLength sha256 => do
    let expected ← signedDocumentLength kind .decode
    if totalLength.toNat ≠ expected then
      throw (invalidDecode "signed blob total length is not canonical")
    return { kind, writeId, totalLength := expected, sha256, bytes := [], active := true }
  | _ => .error (invalidDecode "signed blob assembly requires BEGIN")

variable (self : SignedBlobAssemblerV2)

def bufferedLength : Nat :=
  self.bytes.length

/-- `clear` wipes the buffer. -/
def fail {α : Type} (error : DeviceSdkError) : Outcome α :=
  (.error error, { self with bytes := [], active := false })

def push (value : EncryptedUploadV2SignedBlob) : Outcome Unit :=
  if !self.active then (.error (invalidDecode "signed blob assembly is not active"), self)
  else match value with
    | .data kind writeId offset data =>
      let offset := offset.toNat
      let stop := offset + data.length
      if kind ≠ self.kind ∨ writeId ≠ self.writeId then
        self.fail (invalidDecode "signed blob assembly owner mismatch")
      else if data.isEmpty then
        self.fail (invalidDecode "signed blob DATA chunk must not be empty")
      else if self.totalLength < stop then
        self.fail (TransferV2.payloadTooLarge .decode "signed blob DATA exceeds its document")
      else if offset = self.bytes.length then
        (.ok (), { self with bytes := self.bytes ++ data })
      else if stop ≤ self.bytes.length ∧
          constantTimeEq ((self.bytes.drop offset).take (stop - offset)) data then
        (.ok (), self)
      else self.fail (invalidDecode "signed blob DATA gap or conflicting overlap")
    | _ => self.fail (invalidDecode "signed blob assembly requires DATA")

/-- `Sha256::digest` is a parameter. -/
def finish (sha256 : List UInt8 → FixedBytes 32) (value : EncryptedUploadV2SignedBlob) :
    Outcome (List UInt8) :=
  if !self.active then (.error (invalidDecode "signed blob assembly is not active"), self)
  else match value with
    | .commit kind writeId =>
      if kind ≠ self.kind ∨ writeId ≠ self.writeId then
        self.fail (invalidDecode "signed blob assembly owner mismatch")
      else if self.bytes.length ≠ self.totalLength then
        self.fail (invalidDecode "signed blob assembly is incomplete")
      else if !constantTimeEq (sha256 self.bytes).1 self.sha256.1 then
        self.fail ((DeviceSdkError.new .integrityFailed .decode false).withDetail
          "signed blob SHA-256 mismatch")
      else (.ok self.bytes, { self with bytes := [], active := false })
    | _ => self.fail (invalidDecode "signed blob assembly requires COMMIT")

def abort (value : EncryptedUploadV2SignedBlob) : Outcome Unit :=
  if !self.active then (.error (invalidDecode "signed blob assembly is not active"), self)
  else match value with
    | .abort kind writeId =>
      if kind ≠ self.kind ∨ writeId ≠ self.writeId then
        self.fail (invalidDecode "signed blob assembly owner mismatch")
      else (.ok (), { self with bytes := [], active := false })
    | _ => self.fail (invalidDecode "signed blob assembly requires ABORT")

end SignedBlobAssemblerV2

end BotaSdk
