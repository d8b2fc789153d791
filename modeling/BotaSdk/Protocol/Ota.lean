import BotaSdk.Protocol.Transfer
import BotaSdk.Protocol.Provisioning

/-!
# Firmware packets (`protocol/ota.rs`, and the firmware commands of `protocol/transfer.rs`)
-/

namespace BotaSdk

open Bytes

namespace Protocol

def FIRMWARE_ACK : UInt8 := 0x10
def FIRMWARE_DATA : UInt8 := 0x20
def FIRMWARE_UPLOAD_START : UInt8 := 0x08
def FIRMWARE_UPLOAD_VERIFY : UInt8 := 0x09
def FIRMWARE_CHUNK_SIZE : Nat := 500

end Protocol

open Protocol

structure FirmwareStatus where
  command : UInt8
  result : UInt8
  sequence : Option Nat
  deriving DecidableEq

def parseOtaStatus (bytes : List UInt8) : Except DeviceSdkError FirmwareStatus := do
  Cursor.require bytes 2
  let command ← Cursor.u8 bytes 0
  if command = FIRMWARE_ACK then
    return { command, result := 0, sequence := some (← Cursor.u16Le bytes 1) }
  else
    return { command, result := ← Cursor.u8 bytes 1, sequence := none }

def ensureCapacity (payloadLength capacity : Nat) : Except DeviceSdkError Unit :=
  if capacity < payloadLength then .error (payloadTooLarge payloadLength capacity) else .ok ()

def encodeFirmwareUploadStart (size : UInt32) : List UInt8 :=
  FIRMWARE_UPLOAD_START :: leBytes 4 size.toNat

def encodeFirmwareData (sequence : Nat) (payload : List UInt8) :
    Except DeviceSdkError (List UInt8) := do
  ensureCapacity payload.length FIRMWARE_CHUNK_SIZE
  return FIRMWARE_DATA :: (leBytes 2 sequence ++ payload)

def encodeFirmwareUploadVerify (crc32 : Nat) : List UInt8 :=
  FIRMWARE_UPLOAD_VERIFY :: leBytes 4 crc32

theorem encodeFirmwareData_ok {payload : List UInt8} (h : payload.length ≤ FIRMWARE_CHUNK_SIZE)
    (sequence : Nat) :
    encodeFirmwareData sequence payload =
      .ok (FIRMWARE_DATA :: (leBytes 2 sequence ++ payload)) := by
  rw [encodeFirmwareData, ensureCapacity, if_neg (Nat.not_lt.mpr h)]
  rfl

end BotaSdk
