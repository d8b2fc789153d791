import BotaSdk.Error
import BotaSdk.Lib.Bytes

/-!
# Bounds-checked reads (`protocol/cursor.rs`)
-/

namespace BotaSdk.Cursor

open Bytes

def truncated (required available : Nat) : DeviceSdkError :=
  (DeviceSdkError.new .truncatedPacket .decode false).withDetail
    s!"packet requires {required} bytes but has {available}"

def require (bytes : List UInt8) (required : Nat) : Except DeviceSdkError Unit :=
  if bytes.length < required then .error (truncated required bytes.length) else .ok ()

def slice (bytes : List UInt8) (offset length : Nat) : Except DeviceSdkError (List UInt8) :=
  if offset + length ≤ bytes.length then .ok ((bytes.drop offset).take length)
  else .error (truncated (offset + length) bytes.length)

def tail (bytes : List UInt8) (offset : Nat) : Except DeviceSdkError (List UInt8) :=
  if offset ≤ bytes.length then .ok (bytes.drop offset)
  else .error (truncated offset bytes.length)

def u8 (bytes : List UInt8) (offset : Nat) : Except DeviceSdkError UInt8 := do
  let field ← slice bytes offset 1
  return field.headD 0

def u16Le (bytes : List UInt8) (offset : Nat) : Except DeviceSdkError Nat := do
  let field ← slice bytes offset 2
  return leNat field

def u32Le (bytes : List UInt8) (offset : Nat) : Except DeviceSdkError Nat := do
  let field ← slice bytes offset 4
  return leNat field

def u64Le (bytes : List UInt8) (offset : Nat) : Except DeviceSdkError Nat := do
  let field ← slice bytes offset 8
  return leNat field

def requireExact (bytes : List UInt8) (expected : Nat) : Except DeviceSdkError Unit := do
  require bytes expected
  if bytes.length ≠ expected then
    throw ((DeviceSdkError.new .invalidInput .decode false).withDetail
      s!"packet requires exactly {expected} bytes but has {bytes.length}")

variable {bytes : List UInt8} {offset length : Nat}

theorem require_ok {required : Nat} (h : required ≤ bytes.length) :
    require bytes required = .ok () := by
  rw [require, if_neg (by omega)]

theorem slice_ok (h : offset + length ≤ bytes.length) :
    slice bytes offset length = .ok ((bytes.drop offset).take length) := by
  rw [slice, if_pos h]

theorem tail_ok (h : offset ≤ bytes.length) : tail bytes offset = .ok (bytes.drop offset) := by
  rw [tail, if_pos h]

theorem length_of_slice {field : List UInt8} (h : slice bytes offset length = .ok field) :
    field.length = length := by
  rw [slice] at h
  split at h
  · rename_i hle
    obtain rfl := Except.ok.inj h
    rw [List.length_take, List.length_drop]
    omega
  · exact nomatch h

theorem u8_ok (h : offset < bytes.length) :
    u8 bytes offset = .ok ((bytes.drop offset).headD 0) := by
  rw [u8, slice_ok (by omega)]
  cases hd : bytes.drop offset with
  | nil => rfl
  | cons byte rest => rfl

theorem u16Le_ok (h : offset + 2 ≤ bytes.length) :
    u16Le bytes offset = .ok (leNat ((bytes.drop offset).take 2)) := by
  rw [u16Le, slice_ok h]
  rfl

theorem u32Le_ok (h : offset + 4 ≤ bytes.length) :
    u32Le bytes offset = .ok (leNat ((bytes.drop offset).take 4)) := by
  rw [u32Le, slice_ok h]
  rfl

theorem u64Le_ok (h : offset + 8 ≤ bytes.length) :
    u64Le bytes offset = .ok (leNat ((bytes.drop offset).take 8)) := by
  rw [u64Le, slice_ok h]
  rfl

end BotaSdk.Cursor
