import BotaSdk.Lib.Run
import BotaSdk.Protocol.ByoBle

/-!
# The BYO call over BLE (`device-sdk-js/src/byo.rs`, `jsHost/byoEffects.ts`)

`planByoBleRequest` makes the next frame of a call, `acceptByoBleReply` classifies a frame that was
read, and the host writes, reads and retries between the two.
-/

namespace BotaSdk

namespace ByoBleLink

/-- `invalid` of the bridge. -/
def fail (detail : String) : DeviceSdkError :=
  (DeviceSdkError.new .invalidInput .validate false).withDetail detail

def number (value : Nat) : Except DeviceSdkError Nat :=
  if value < 2 ^ 32 then .ok value else .error (fail "invalid BYO integer")

/-- What `planByoBleRequest` is asked. -/
structure Ask where
  operation : Nat
  requestId : Nat
  capacity : Nat
  bytes : List UInt8
  offset : Nat
  pull : Bool := false
  deriving DecidableEq

/-- `stop` is the source's `end`. -/
structure Plan where
  bytes : List UInt8
  stop : Nat
  expectedOffset : Nat
  attempts : Nat := 3
  timeoutMs : Nat := 10000
  maximumSkippedFrames : Nat := 8
  deriving DecidableEq

namespace Ask

variable (value : Ask)

/-- The capacity a frame is cut for. -/
def room : Nat :=
  min value.capacity 512

def stop : Nat :=
  if value.pull then value.offset else min value.bytes.length (value.offset + value.room - 12)

def frame : ByoBleFrame where
  kind := if value.pull then .pull else .request
  operation := .ofNat value.operation
  status := 0
  requestId := .ofNat value.requestId
  offset := .ofNat value.offset
  total := if value.pull then 0 else .ofNat value.bytes.length
  payload := if value.pull then [] else (value.bytes.take value.stop).drop value.offset

end Ask

def planBle (value : Ask) : Except DeviceSdkError Plan := do
  let operation ← number value.operation
  if 256 ≤ operation then throw (fail "invalid BYO operation")
  let _requestId ← number value.requestId
  let _capacity ← number value.capacity
  if value.room ≤ 12 then throw (fail "BYO ATT capacity too small")
  if 8192 < value.bytes.length then throw (fail "BYO request exceeds bound")
  let offset ← number value.offset
  if 8192 < offset ∨ (value.bytes.length < offset ∧ ¬value.pull) then
    throw (fail "invalid BYO request offset")
  let bytes ← encodeByoBle value.frame value.room
  return {
    bytes
    stop := value.stop
    expectedOffset := if ¬value.pull ∧ value.stop = value.bytes.length then 0 else value.stop }

/-- What `acceptByoBleReply` is told about the exchange, beside the frame's bytes. -/
structure Expected where
  operation : Nat
  requestId : Nat
  expectedOffset : Nat
  moreRequest : Bool
  requestBytes : List UInt8
  expectedTotal : Option Nat := none
  deriving DecidableEq

/-- What `acceptByoBleReply` finds in a frame that it does not skip. -/
inductive Reply where
  | error (code : String)
  | fragment (payload : List UInt8) (offset total : Nat)
  deriving DecidableEq

/-- `none` is a frame to skip. -/
def acceptBle (raw : List UInt8) (value : Expected) : Except DeviceSdkError (Option Reply) := do
  let frame ← decodeByoBle raw
  let request ← number value.requestId
  let operation ← number value.operation
  let expected ← number value.expectedOffset
  if frame.kind ≠ .response then throw (fail "BYO reply kind mismatch")
  if frame.requestId.toNat < request then return none
  if frame.requestId.toNat ≠ request ∨ frame.operation.toNat ≠ operation then
    throw (fail "BYO reply owner mismatch")
  if frame.status < 2 ∧ frame.offset.toNat ≠ expected then return none
  if frame.status = 3 then return some (.error "context_expired")
  if frame.status = 2 ∨ (¬value.moreRequest ∧ frame.status ≠ 0) then
    return some (.error "device_rejected")
  if value.moreRequest ∧ (frame.status ≠ 1 ∨ frame.total.toNat ≠ value.requestBytes.length ∨
      frame.payload ≠ []) then
    throw (fail "BYO request chunk acknowledgement mismatch")
  if value.expectedTotal.any (· ≠ frame.total.toNat) ∨
      (¬value.moreRequest ∧ expected ≠ 0 ∧ frame.payload = []) then
    throw (fail "BYO reply chunk length mismatch")
  return some (.fragment frame.payload frame.offset.toNat frame.total.toNat)

/-! ## The host's loop -/

/-- `performCall`'s arguments, with the identifier the call was given. -/
structure Call where
  operation : Nat
  requestId : Nat
  capacity : Nat
  document : List UInt8
  deriving DecidableEq

/-- Where `performCall` stands: in the loop over the document, or in the one over the response. -/
inductive Position where
  | sending (offset : Nat)
  | pulling (output : List UInt8) (total : Nat)
  deriving DecidableEq

inductive Failure where
  | codec (error : DeviceSdkError)
  | code (code : String)
  deriving DecidableEq

/-- Where `exchange` stands in an attempt: the `ble.write` is pending, `next` is about to run, or its
waiter is registered. -/
inductive Phase where
  | writing (attempt : Nat)
  | reading (attempt skipped : Nat)
  | waiting (attempt skipped : Nat)
  deriving DecidableEq

inductive Host where
  | exchanging (position : Position) (plan : Plan) (phase : Phase)
  | returned (output : List UInt8)
  | failed (failure : Failure)
  deriving DecidableEq

namespace Call

variable (call : Call)

def ask : Position → Ask
  | .sending offset => {
      operation := call.operation, requestId := call.requestId, capacity := call.capacity,
      bytes := call.document, offset }
  | .pulling output _ => {
      operation := call.operation, requestId := call.requestId, capacity := call.capacity,
      bytes := [], offset := output.length, pull := true }

def expected (plan : Plan) : Position → Expected
  | .sending _ => {
      operation := call.operation, requestId := call.requestId,
      expectedOffset := plan.expectedOffset, moreRequest := plan.stop < call.document.length,
      requestBytes := call.document }
  | .pulling _ total => {
      operation := call.operation, requestId := call.requestId,
      expectedOffset := plan.expectedOffset, moreRequest := false, requestBytes := [],
      expectedTotal := some total }

/-- The next exchange, up to its first write. -/
def enter (position : Position) : Host × List (List UInt8) :=
  match planBle (call.ask position) with
  | .error error => (.failed (.codec error), [])
  | .ok plan => (.exchanging position plan (.writing 0), [plan.bytes])

/-- The head of the loop over the response. -/
def pull (output : List UInt8) (total : Nat) : Host × List (List UInt8) :=
  if output.length < total then call.enter (.pulling output total) else (.returned output, [])

def proceed (plan : Plan) (payload : List UInt8) (total : Nat) :
    Position → Host × List (List UInt8)
  | .sending _ =>
    if plan.stop < call.document.length then call.enter (.sending plan.stop)
    else call.pull payload total
  | .pulling output total => call.pull (output ++ payload) total

def start : Host × List (List UInt8) :=
  call.enter (.sending 0)

/-- The body of `exchange`'s inner loop, with the frame that `next` gave. -/
def accept (position : Position) (plan : Plan) (attempt skipped : Nat) (raw : List UInt8) :
    Host × List (List UInt8) :=
  match acceptBle raw (call.expected plan position) with
  | .error error => (.failed (.codec error), [])
  | .ok none =>
    if skipped + 1 < plan.maximumSkippedFrames then
      (.exchanging position plan (.reading attempt (skipped + 1)), [])
    else (.failed (.code "invalid_document"), [])
  | .ok (some (.error code)) => (.failed (.code code), [])
  | .ok (some (.fragment payload _ total)) => call.proceed plan payload total position

end Call

/-- `exchange` catches the timeout of every attempt but the last. -/
def expire (position : Position) (plan : Plan) (attempt : Nat) : Host × List (List UInt8) :=
  if attempt + 1 = plan.attempts then (.failed (.code "timeout"), [])
  else (.exchanging position plan (.writing (attempt + 1)), [plan.bytes])

/-- The notifications that no read has taken, and the error that the next read throws. -/
structure Inbox where
  queue : List (List UInt8) := []
  failed : Option Failure := none
  deriving DecidableEq

namespace Inbox

/-- How many notifications wait for a read. -/
def room : Nat := 8

variable (inbox : Inbox)

/-- `fail` of the link, with no waiter to reject. -/
def fail (failure : Failure) : Inbox where
  queue := []
  failed := inbox.failed.or (some failure)

/-- The subscription's callback when no waiter is registered. -/
def push (raw : List UInt8) : Inbox :=
  if inbox.queue.length < room then { inbox with queue := inbox.queue ++ [raw] }
  else inbox.fail (.code "invalid_document")

end Inbox

end ByoBleLink

end BotaSdk
