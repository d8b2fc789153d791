import Mathlib.Data.List.Basic

/-!
# Errors of the core

`error.rs`, and the outcome of a reducer call: its result, its error, or a failed `expect`.
-/

namespace BotaSdk

inductive ErrorCode where
  | invalidInput
  | truncatedPacket
  | unknownPacket
  | payloadTooLarge
  | unsupportedCapability
  | unsupportedOperation
  | featureUnavailable
  | operationInProgress
  | unexpectedEvent
  | deviceNotFound
  | identityMismatch
  | connectionFailed
  | persistenceFailed
  | notConnected
  | timeout
  | cancelled
  | protocolRejected
  | integrityFailed
  | uploadOwnershipUnknown
  | downloadFailed
  | internal
  deriving DecidableEq

inductive Operation where
  | validate
  | decode
  | encode
  | discover
  | connect
  | reconnect
  | provision
  | transferRecording
  | upload
  | updateFirmware
  | readDeviceLogs
  | factoryReset
  | unknown
  deriving DecidableEq

def Operation.asStr : Operation → String
  | .validate => "validate"
  | .decode => "decode"
  | .encode => "encode"
  | .discover => "discover"
  | .connect => "connect"
  | .reconnect => "reconnect"
  | .provision => "provision"
  | .transferRecording => "transfer_recording"
  | .upload => "upload"
  | .updateFirmware => "update_firmware"
  | .readDeviceLogs => "read_device_logs"
  | .factoryReset => "factory_reset"
  | .unknown => "unknown"

structure DeviceSdkError where
  code : ErrorCode
  operation : Operation
  retryable : Bool
  protocolStatus : Option Nat := none
  detail : Option String := none
  deriving DecidableEq

def DeviceSdkError.new (code : ErrorCode) (operation : Operation) (retryable : Bool) :
    DeviceSdkError :=
  { code, operation, retryable }

def DeviceSdkError.withProtocolStatus (error : DeviceSdkError) (status : Nat) : DeviceSdkError :=
  { error with protocolStatus := some status }

def DeviceSdkError.withDetail (error : DeviceSdkError) (detail : String) : DeviceSdkError :=
  { error with detail := some detail }

/-- The text `{code:?}` of an optional platform code. -/
def debugPlatformCode : Option Int → String
  | none => "None"
  | some code => s!"Some({code})"

/-- What a reducer call returns; `panicked` is a failed `expect`. -/
inductive Outcome (α : Type) where
  | ok (value : α)
  | err (error : DeviceSdkError)
  | panicked
  deriving DecidableEq

namespace Outcome

variable {α : Type}

/-- The effects a call handed to the host: none when it failed. -/
def effects : Outcome (List α) → List α
  | .ok value => value
  | _ => []

@[simp] theorem effects_ok (value : List α) : (Outcome.ok value).effects = value := rfl
@[simp] theorem effects_err (error : DeviceSdkError) :
    (Outcome.err error : Outcome (List α)).effects = [] := rfl
@[simp] theorem effects_panicked : (Outcome.panicked : Outcome (List α)).effects = [] := rfl

theorem effects_of_ne_ok {outcome : Outcome (List α)} (h : ∀ value, outcome ≠ .ok value) :
    outcome.effects = [] := by
  cases outcome with
  | ok value => exact absurd rfl (h value)
  | err error => rfl
  | panicked => rfl

def isErr : Outcome α → Bool
  | .err _ => true
  | _ => false

def isOk : Outcome α → Bool
  | .ok _ => true
  | _ => false

end Outcome

end BotaSdk
