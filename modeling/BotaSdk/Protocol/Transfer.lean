import BotaSdk.Model
import BotaSdk.Protocol.Cursor

/-!
# Legacy transfer packets and commands

`parse_transfer_packet` of `protocol/recordings.rs`; `encode_ack` and `encode_transfer_command` of
`protocol/transfer.rs`.
-/

namespace BotaSdk

open Bytes

namespace Protocol

def TRANSFER_PACKET_MINIMUM_LENGTH : Nat := 3
def SHA256_LENGTH : Nat := 32
def E2E_EPHEMERAL_PUBLIC_KEY_LENGTH : Nat := 32
def E2E_SALT_LENGTH : Nat := 4
def PACKET_TYPE_DATA : UInt8 := 0x01
def PACKET_TYPE_EOF : UInt8 := 0x02
def PACKET_TYPE_PAUSED : UInt8 := 0x03
def PACKET_TYPE_SHA256 : UInt8 := 0x04
def PACKET_TYPE_E2E_START : UInt8 := 0x05
def PACKET_TYPE_ENCRYPTED_DATA : UInt8 := 0x81
def PACKET_TYPE_ENCRYPTED_EOF : UInt8 := 0x82
def PACKET_TYPE_ERROR : UInt8 := 0xFF
def ACK_TYPE_ACK : UInt8 := 0x10
def ACK_TYPE_NACK : UInt8 := 0x11
def ACK_TYPE_ABORT : UInt8 := 0x12
def TRANSFER_CMD_LIST : UInt8 := 0x01
def TRANSFER_CMD_START : UInt8 := 0x02
def TRANSFER_CMD_TRIGGER_DEVICE_UPLOAD : UInt8 := 0x03
def TRANSFER_CMD_CONFIRM_SYNC : UInt8 := 0x07

def SERVICE_BOTA_STORAGE : String := "B07A0004-0000-1000-8000-00805F9B34FB"
def CHAR_RECORDING_TRANSFER : String := "B07A0004-0003-1000-8000-00805F9B34FB"
def CHAR_TRANSFER_CONTROL : String := "B07A0004-0004-1000-8000-00805F9B34FB"
def CHAR_TRANSFER_STATUS : String := "B07A0004-0005-1000-8000-00805F9B34FB"

end Protocol

open Protocol

inductive TransferPacket where
  | data (sequence : Nat) (data : List UInt8)
  | eof (sequence checksum : Nat)
  | paused (sequence : Nat) (bytesSent : Option Nat)
  | sha256 (value : List UInt8)
  | e2eStart (ephemeralPublicKey salt : List UInt8)
  | encryptedData (sequence : Nat) (chunk : List UInt8)
  | encryptedEof (sequence : Nat)
  | error (sequence : Nat) (code : Nat)
  deriving DecidableEq

/-- The payload of a DATA or ENCRYPTED_DATA packet: what follows the five header bytes. -/
def packetPayload (bytes : List UInt8) : Except DeviceSdkError (List UInt8) :=
  if 5 ≤ bytes.length then Cursor.tail bytes 5 else .ok []

def parseTransferPacket (bytes : List UInt8) : Except DeviceSdkError TransferPacket := do
  Cursor.require bytes TRANSFER_PACKET_MINIMUM_LENGTH
  let packetType ← Cursor.u8 bytes 0
  let sequence ← Cursor.u16Le bytes 1
  if packetType = PACKET_TYPE_DATA then
    return .data sequence (← packetPayload bytes)
  else if packetType = PACKET_TYPE_EOF then
    return .eof sequence (← Cursor.u32Le bytes 3)
  else if packetType = PACKET_TYPE_PAUSED then
    if 7 ≤ bytes.length then return .paused sequence (some (← Cursor.u32Le bytes 3))
    else return .paused sequence none
  else if packetType = PACKET_TYPE_SHA256 then
    return .sha256 (← Cursor.slice bytes 1 SHA256_LENGTH)
  else if packetType = PACKET_TYPE_E2E_START then
    let ephemeralPublicKey ← Cursor.slice bytes 1 E2E_EPHEMERAL_PUBLIC_KEY_LENGTH
    let salt ← Cursor.slice bytes (1 + E2E_EPHEMERAL_PUBLIC_KEY_LENGTH) E2E_SALT_LENGTH
    return .e2eStart ephemeralPublicKey salt
  else if packetType = PACKET_TYPE_ENCRYPTED_DATA then
    return .encryptedData sequence (← packetPayload bytes)
  else if packetType = PACKET_TYPE_ENCRYPTED_EOF then
    return .encryptedEof sequence
  else if packetType = PACKET_TYPE_ERROR then
    if 3 < bytes.length then return .error sequence (← Cursor.u8 bytes 3).toNat
    else return .error sequence 255
  else
    throw (((DeviceSdkError.new .unknownPacket .decode false).withProtocolStatus
      packetType.toNat).withDetail s!"unknown transfer packet type {packetType}")

/-! ## Commands -/

inductive AckType where
  | ack
  | nack
  | abort
  deriving DecidableEq

inductive TransferCommand where
  | list
  | start (recording : RecordingUuid)
  | triggerDeviceUpload
  | confirm (recording : RecordingUuid)
  deriving DecidableEq

def encodeAck (ackType : AckType) (sequence : Nat) : List UInt8 :=
  let command := match ackType with
    | .ack => ACK_TYPE_ACK
    | .nack => ACK_TYPE_NACK
    | .abort => ACK_TYPE_ABORT
  command :: leBytes 2 sequence

def encodeTransferCommand : TransferCommand → List UInt8
  | .list => [TRANSFER_CMD_LIST]
  | .start recording => TRANSFER_CMD_START :: recording.bytes.val
  | .triggerDeviceUpload => [TRANSFER_CMD_TRIGGER_DEVICE_UPLOAD]
  | .confirm recording => TRANSFER_CMD_CONFIRM_SYNC :: recording.bytes.val

/-! ## The packets a device sends -/

/-- A DATA or ENCRYPTED_DATA packet on the wire. -/
def numberedPacket (packetType : UInt8) (sequence : Nat) (payload : List UInt8) : List UInt8 :=
  packetType :: (leBytes 2 sequence ++ leBytes 2 payload.length ++ payload)

def dataPacket (sequence : Nat) (payload : List UInt8) : List UInt8 :=
  numberedPacket PACKET_TYPE_DATA sequence payload

def encryptedDataPacket (sequence : Nat) (chunk : List UInt8) : List UInt8 :=
  numberedPacket PACKET_TYPE_ENCRYPTED_DATA sequence chunk

def eofPacket (sequence checksum : Nat) : List UInt8 :=
  PACKET_TYPE_EOF :: (leBytes 2 sequence ++ leBytes 4 checksum)

def e2eStartPacket (ephemeralPublicKey : FixedBytes 32) (salt : FixedBytes 4) : List UInt8 :=
  PACKET_TYPE_E2E_START :: (ephemeralPublicKey.val ++ salt.val)

def encryptedEofPacket (sequence : Nat) : List UInt8 :=
  PACKET_TYPE_ENCRYPTED_EOF :: leBytes 2 sequence

section Parsing

/-- The header of a packet is its type and its sequence modulo `2 ^ 16`. -/
theorem parse_header (packetType : UInt8) (sequence : Nat) (rest : List UInt8) :
    Cursor.require (packetType :: (leBytes 2 sequence ++ rest)) TRANSFER_PACKET_MINIMUM_LENGTH
        = .ok () ∧
      Cursor.u8 (packetType :: (leBytes 2 sequence ++ rest)) 0 = .ok packetType ∧
      Cursor.u16Le (packetType :: (leBytes 2 sequence ++ rest)) 1 = .ok (sequence % 65536) := by
  have hlen : (packetType :: (leBytes 2 sequence ++ rest)).length = rest.length + 3 := by
    rw [List.length_cons, List.length_append, length_leBytes]
    omega
  refine ⟨Cursor.require_ok ?_, ?_, ?_⟩
  · rw [hlen, TRANSFER_PACKET_MINIMUM_LENGTH]
    omega
  · rw [Cursor.u8_ok (by omega)]
    rfl
  · rw [Cursor.u16Le_ok (by omega), List.drop_one, List.tail_cons,
      List.take_left' (length_leBytes 2 sequence), leNat_leBytes, show 256 ^ 2 = 65536 from rfl]

theorem packetPayload_numberedPacket (packetType : UInt8) (sequence : Nat) (payload : List UInt8) :
    packetPayload (numberedPacket packetType sequence payload) = .ok payload := by
  have hlen : (numberedPacket packetType sequence payload).length = payload.length + 5 := by
    rw [numberedPacket, List.length_cons, List.length_append, List.length_append, length_leBytes,
      length_leBytes]
    omega
  have hdrop : (numberedPacket packetType sequence payload).drop 5 = payload := by
    rw [numberedPacket, List.drop_succ_cons,
      List.drop_left' (by rw [List.length_append, length_leBytes, length_leBytes])]
  rw [packetPayload, if_pos (by omega), Cursor.tail_ok (by omega), hdrop]

theorem parse_dataPacket (sequence : Nat) (payload : List UInt8) :
    parseTransferPacket (dataPacket sequence payload) = .ok (.data (sequence % 65536) payload) := by
  obtain ⟨hreq, htype, hseq⟩ :=
    parse_header PACKET_TYPE_DATA sequence (leBytes 2 payload.length ++ payload)
  have hpay := packetPayload_numberedPacket PACKET_TYPE_DATA sequence payload
  rw [numberedPacket, List.append_assoc] at hpay
  rw [dataPacket, numberedPacket, List.append_assoc, parseTransferPacket, hreq, htype, hseq, hpay]
  rfl

theorem parse_encryptedDataPacket (sequence : Nat) (chunk : List UInt8) :
    parseTransferPacket (encryptedDataPacket sequence chunk) =
      .ok (.encryptedData (sequence % 65536) chunk) := by
  obtain ⟨hreq, htype, hseq⟩ :=
    parse_header PACKET_TYPE_ENCRYPTED_DATA sequence (leBytes 2 chunk.length ++ chunk)
  have hpay := packetPayload_numberedPacket PACKET_TYPE_ENCRYPTED_DATA sequence chunk
  rw [numberedPacket, List.append_assoc] at hpay
  rw [encryptedDataPacket, numberedPacket, List.append_assoc, parseTransferPacket, hreq, htype,
    hseq, hpay]
  rfl

theorem parse_eofPacket (sequence : Nat) {checksum : Nat} (h : checksum < 4294967296) :
    parseTransferPacket (eofPacket sequence checksum) =
      .ok (.eof (sequence % 65536) checksum) := by
  obtain ⟨hreq, htype, hseq⟩ := parse_header PACKET_TYPE_EOF sequence (leBytes 4 checksum)
  have hlen : (PACKET_TYPE_EOF :: (leBytes 2 sequence ++ leBytes 4 checksum)).length = 7 := by
    rw [List.length_cons, List.length_append, length_leBytes, length_leBytes]
  have hsum : Cursor.u32Le (PACKET_TYPE_EOF :: (leBytes 2 sequence ++ leBytes 4 checksum)) 3 =
      .ok checksum := by
    rw [Cursor.u32Le_ok (by omega), List.drop_succ_cons, List.drop_left' (length_leBytes 2 _),
      List.take_of_length_le (by rw [length_leBytes]), leNat_leBytes_of_lt h]
  rw [eofPacket, parseTransferPacket, hreq, htype, hseq, hsum]
  rfl

theorem parse_e2eStartPacket (ephemeralPublicKey : FixedBytes 32) (salt : FixedBytes 4) :
    parseTransferPacket (e2eStartPacket ephemeralPublicKey salt) =
      .ok (.e2eStart ephemeralPublicKey.val salt.val) := by
  obtain ⟨key, hkey⟩ := ephemeralPublicKey
  obtain ⟨salt, hsalt⟩ := salt
  have hlen : (PACKET_TYPE_E2E_START :: (key ++ salt)).length = 37 := by
    rw [List.length_cons, List.length_append, hkey, hsalt]
  have hreq : Cursor.require (PACKET_TYPE_E2E_START :: (key ++ salt)) TRANSFER_PACKET_MINIMUM_LENGTH
      = .ok () := Cursor.require_ok (by rw [hlen]; decide)
  have htype : Cursor.u8 (PACKET_TYPE_E2E_START :: (key ++ salt)) 0 = .ok PACKET_TYPE_E2E_START := by
    rw [Cursor.u8_ok (by omega)]
    rfl
  obtain ⟨sequence, hseq⟩ : ∃ n, Cursor.u16Le (PACKET_TYPE_E2E_START :: (key ++ salt)) 1 = .ok n :=
    ⟨_, Cursor.u16Le_ok (by omega)⟩
  have hslice : Cursor.slice (PACKET_TYPE_E2E_START :: (key ++ salt)) 1
      E2E_EPHEMERAL_PUBLIC_KEY_LENGTH = .ok key := by
    rw [Cursor.slice_ok (by rw [hlen]; decide), List.drop_succ_cons, List.drop_zero,
      List.take_left' (show key.length = E2E_EPHEMERAL_PUBLIC_KEY_LENGTH from hkey)]
  have hslice' : Cursor.slice (PACKET_TYPE_E2E_START :: (key ++ salt))
      (1 + E2E_EPHEMERAL_PUBLIC_KEY_LENGTH) E2E_SALT_LENGTH = .ok salt := by
    rw [Cursor.slice_ok (by rw [hlen]; decide), Nat.add_comm, List.drop_succ_cons,
      List.drop_left' (show key.length = E2E_EPHEMERAL_PUBLIC_KEY_LENGTH from hkey),
      List.take_of_length_le (show salt.length ≤ E2E_SALT_LENGTH from Nat.le_of_eq hsalt)]
  rw [e2eStartPacket, parseTransferPacket, hreq, htype, hseq]
  show Except.bind (Cursor.slice _ 1 E2E_EPHEMERAL_PUBLIC_KEY_LENGTH) _ = _
  rw [hslice]
  show Except.bind (Cursor.slice _ (1 + E2E_EPHEMERAL_PUBLIC_KEY_LENGTH) E2E_SALT_LENGTH) _ = _
  rw [hslice']
  rfl

theorem parse_encryptedEofPacket (sequence : Nat) :
    parseTransferPacket (encryptedEofPacket sequence) =
      .ok (.encryptedEof (sequence % 65536)) := by
  obtain ⟨hreq, htype, hseq⟩ := parse_header PACKET_TYPE_ENCRYPTED_EOF sequence []
  rw [List.append_nil] at hreq htype hseq
  rw [encryptedEofPacket, parseTransferPacket, hreq, htype, hseq]
  rfl

end Parsing

theorem recordingUuid_ext {recording recording' : RecordingUuid}
    (h : recording.bytes.val = recording'.bytes.val) : recording = recording' := by
  cases recording
  cases recording'
  exact congrArg RecordingUuid.mk (Subtype.ext h)

theorem encodeTransferCommand_injective {command command' : TransferCommand}
    (h : encodeTransferCommand command = encodeTransferCommand command') : command = command' := by
  cases command <;> cases command' <;> first
    | rfl
    | exact absurd (List.cons.inj h).1 (by decide)
    | rw [recordingUuid_ext (List.cons.inj h).2]

end BotaSdk
