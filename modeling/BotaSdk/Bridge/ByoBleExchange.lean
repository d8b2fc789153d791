import BotaSdk.Bridge.ByoBleLink

/-!
# A BYO call under retransmission and delay

The device puts the chunks of the document together, and answers every copy of a write that reaches
it.  Copies may be lost, and answers may be late, lost, repeated or overtaken by others.  An answer
goes to the waiter of the read that is pending, and to the inbox when none is.
-/

namespace BotaSdk

namespace ByoBleLink

open Protocol ByoBle Checked

/-- A device, by the response it answers the document with and the cut of its frames: the bytes in
the frame that opens the response, and those in the answer to a pull at an offset. -/
structure Device where
  response : List UInt8
  opening : Nat
  fragment : Nat → Nat
  response_le : response.length ≤ BYO_BLE_DOCUMENT_MAX_BYTES
  opening_le : opening + BYO_BLE_HEADER_BYTES ≤ BYO_BLE_FRAME_MAX_BYTES
  fragment_le : ∀ offset, fragment offset + BYO_BLE_HEADER_BYTES ≤ BYO_BLE_FRAME_MAX_BYTES
  fragment_pos : ∀ offset, 0 < fragment offset

namespace Device

variable (device : Device)

/-- The answer to a request or a pull. -/
def reply (request : ByoBleFrame) : ByoBleFrame :=
  match request.kind with
  | .pull => {
      kind := .response, operation := request.operation, status := 0,
      requestId := request.requestId, offset := request.offset,
      total := .ofNat device.response.length,
      payload := (device.response.drop request.offset.toNat).take
        (device.fragment request.offset.toNat) }
  | _ =>
    let stop := request.offset.toNat + request.payload.length
    -- a chunk that is not the last is acknowledged with the offset behind it
    if stop < request.total.toNat then {
      kind := .response, operation := request.operation, status := 1,
      requestId := request.requestId, offset := .ofNat stop, total := request.total,
      payload := [] }
    else {
      kind := .response, operation := request.operation, status := 0,
      requestId := request.requestId, offset := 0, total := .ofNat device.response.length,
      payload := device.response.take device.opening }

/-- A chunk is kept when it starts where the ones before it end. -/
def keep (document : List UInt8) (raw : List UInt8) : List UInt8 :=
  match decodeByoBle raw with
  | .ok frame =>
    if frame.kind = .request ∧ frame.offset.toNat = document.length then document ++ frame.payload
    else document
  | .error _ => document

/-- What the device has of the document after these copies. -/
def received (arrived : List (List UInt8)) : List UInt8 :=
  arrived.foldl keep []

end Device

/-- The device's answer to a copy of a write. -/
def Device.answer (device : Device) (raw : List UInt8) : Option (List UInt8) :=
  match decodeByoBle raw with
  | .ok request => some (device.reply request).bytes
  | .error _ => none

/-- A response to an earlier request than the call's. -/
def Call.Late (call : Call) (raw : List UInt8) : Prop :=
  match decodeByoBle raw with
  | .ok frame => frame.kind = .response ∧ frame.requestId.toNat < call.requestId
  | .error _ => False

instance Call.decidableLate (call : Call) (raw : List UInt8) : Decidable (call.Late raw) := by
  unfold Late
  cases decodeByoBle raw <;> infer_instance

/-- The waiter of a read is registered. -/
def Host.Waits : Host → Prop
  | .exchanging _ _ (.waiting _ _) => True
  | _ => False

instance Host.decidableWaits : (host : Host) → Decidable host.Waits
  | .exchanging _ _ (.waiting _ _) => .isTrue trivial
  | .exchanging _ _ (.writing _) | .exchanging _ _ (.reading _ _) => .isFalse id
  | .returned _ | .failed _ => .isFalse id

/-- The host and its inbox, its writes so far, and the copies of them that reached the device. -/
structure Link where
  host : Host
  inbox : Inbox
  writes : List (List UInt8)
  arrived : List (List UInt8)
  deriving DecidableEq

inductive Event where
  /-- A copy of the `n`-th write reaches the device. -/
  | arrives (n : Nat)
  /-- The answer to the `n`-th copy is notified. -/
  | answer (n : Nat)
  /-- A late reply to an earlier request is notified. -/
  | earlier (raw : List UInt8)
  /-- `ble.write` completes. -/
  | written
  /-- The host goes on to its next read. -/
  | turn
  | timeout
  deriving DecidableEq

namespace Link

variable (call : Call) (device : Device)

/-- A call finds what its predecessors left in the inbox. -/
def start (unread : List (List UInt8)) : Link where
  host := call.start.1
  inbox := { queue := unread }
  writes := call.start.2
  arrived := []

/-- The host's next state, and the writes that brought it there. -/
def goto (link : Link) (next : Host × List (List UInt8)) : Link :=
  { link with host := next.1, writes := link.writes ++ next.2 }

/-- The subscription's callback. -/
def notify (link : Link) (raw : List UInt8) : Link × List (List UInt8) :=
  match link.host with
  | .exchanging position plan (.waiting attempt skipped) =>
    let next := call.accept position plan attempt skipped raw
    (link.goto next, next.2)
  | _ => ({ link with inbox := link.inbox.push raw }, [])

/-- `next`: the error of the inbox, the oldest notification in it, or a waiter. -/
def read (link : Link) (position : Position) (plan : Plan) (attempt skipped : Nat) :
    Link × List (List UInt8) :=
  match link.inbox.failed, link.inbox.queue with
  | some failure, _ => (link.goto (.failed failure, []), [])
  | none, raw :: queue =>
    let next := call.accept position plan attempt skipped raw
    ({ link.goto next with inbox := { link.inbox with queue } }, next.2)
  | none, [] => (link.goto (.exchanging position plan (.waiting attempt skipped), []), [])

/-- The answer to the `n`-th copy. -/
def answerTo (link : Link) (n : Nat) : Option (List UInt8) :=
  link.arrived[n]?.bind device.answer

def step (link : Link) : Event → Link × List (List UInt8)
  | .arrives n =>
    match link.writes[n]? with
    | none => (link, [])
    | some raw => ({ link with arrived := link.arrived ++ [raw] }, [])
  | .answer n =>
    match link.answerTo device n with
    | none => (link, [])
    | some raw => link.notify call raw
  | .earlier raw => link.notify call raw
  | .written =>
    match link.host with
    | .exchanging position plan (.writing attempt) =>
      (link.goto (.exchanging position plan (.reading attempt 0), []), [])
    | _ => (link, [])
  | .turn =>
    match link.host with
    | .exchanging position plan (.reading attempt skipped) =>
      link.read call position plan attempt skipped
    | _ => (link, [])
  | .timeout =>
    match link.host with
    | .exchanging position plan (.waiting attempt _) =>
      let next := expire position plan attempt
      (link.goto next, next.2)
    | _ => (link, [])

/-- The schedules: a reply to an earlier request is any response with a smaller identifier, and the
last attempt does not time out. -/
def Scheduled (link : Link) : Event → Prop
  | .arrives n => n < link.writes.length
  | .answer n => n < link.arrived.length
  | .earlier raw => call.Late raw
  | .timeout =>
    match link.host with
    | .exchanging _ plan (.waiting attempt _) => attempt + 1 < plan.attempts
    | _ => True
  | .written | .turn => True

/-- The waiter's notification, or the room that the inbox has for it. -/
def Roomy (link : Link) : Event → Prop
  | .answer _ | .earlier _ => link.host.Waits ∨ link.inbox.queue.length < Inbox.room
  | _ => True

/-- The notification that the host reads in a step. -/
def taken (link : Link) (event : Event) : Option (List UInt8) :=
  match link.host, event with
  | .exchanging _ _ (.waiting _ _), .answer n => link.answerTo device n
  | .exchanging _ _ (.waiting _ _), .earlier raw => some raw
  | .exchanging _ _ (.reading _ _), .turn =>
    if link.inbox.failed = none then link.inbox.queue.head? else none
  | _, _ => none

/-- The answer to the write that the host stands at. -/
def due (link : Link) : Option (List UInt8) :=
  match link.host with
  | .exchanging _ plan _ => device.answer plan.bytes
  | _ => none

/-- The host reads the answer to its write. -/
def Awaited (link : Link) (event : Event) : Prop :=
  link.taken device event ≠ none ∧ link.taken device event = link.due device

/-- The host reads a reply that is not to the write whose answer it awaits. -/
def Stale (link : Link) (event : Event) : Prop :=
  link.taken device event ≠ none ∧ link.taken device event ≠ link.due device

/-- The attempt has room for another frame to skip. -/
def Patient (link : Link) : Prop :=
  match link.host with
  | .exchanging _ plan (.reading _ skipped) => skipped + 1 < plan.maximumSkippedFrames
  | .exchanging _ plan (.waiting _ skipped) => skipped + 1 < plan.maximumSkippedFrames
  | _ => True

/-- A chunk's acknowledgement that overtook the response and names the offset that is pulled. -/
def Overtaken (link : Link) (event : Event) : Prop :=
  match link.host, (link.taken device event).map decodeByoBle with
  | .exchanging (.pulling output _) _ _, some (.ok frame) =>
    frame.requestId.toNat = call.requestId ∧ frame.status = 1 ∧
      frame.offset.toNat = output.length
  | _, _ => False

def Deliverable (link : Link) (event : Event) : Prop :=
  link.Scheduled call event ∧ link.Roomy event ∧ (link.Stale device event → link.Patient) ∧
    ¬link.Overtaken call device event

instance decidableScheduled (link : Link) :
    (event : Event) → Decidable (link.Scheduled call event)
  | .arrives n => inferInstanceAs (Decidable (n < link.writes.length))
  | .answer n => inferInstanceAs (Decidable (n < link.arrived.length))
  | .earlier raw => inferInstanceAs (Decidable (call.Late raw))
  | .timeout => by
    dsimp only [Scheduled]
    rcases link.host with ⟨_, _, _ | _ | _⟩ | _ | _ <;> infer_instance
  | .written | .turn => .isTrue trivial

instance decidableRoomy (link : Link) : (event : Event) → Decidable (link.Roomy event)
  | .answer _ | .earlier _ => inferInstanceAs (Decidable (_ ∨ _))
  | .arrives _ | .written | .turn | .timeout => .isTrue trivial

instance decidableAwaited (link : Link) (event : Event) : Decidable (link.Awaited device event) :=
  inferInstanceAs (Decidable (_ ∧ _))

instance decidableStale (link : Link) (event : Event) : Decidable (link.Stale device event) :=
  inferInstanceAs (Decidable (_ ∧ _))

instance decidablePatient (link : Link) : Decidable link.Patient := by
  unfold Patient
  rcases link.host with ⟨_, _, _ | _ | _⟩ | _ | _ <;> infer_instance

instance decidableOvertaken (link : Link) (event : Event) :
    Decidable (link.Overtaken call device event) := by
  unfold Overtaken
  rcases link.host with ⟨_ | _, _, _⟩ | _ | _ <;>
    rcases (link.taken device event).map decodeByoBle with _ | _ | _ <;> infer_instance

instance decidableDeliverable (link : Link) (event : Event) :
    Decidable (link.Deliverable call device event) :=
  inferInstanceAs (Decidable (_ ∧ _ ∧ (_ → _) ∧ ¬_))

end Link

end ByoBleLink

end BotaSdk
