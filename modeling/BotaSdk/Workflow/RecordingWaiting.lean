import BotaSdk.Engine.Waiting
import BotaSdk.Workflow.RecordingInOrder

/-!
# The requests a batch transfer waits for

A drain that meets a packet it rejects returns the error alone, but the turns before it have moved the
state: the transfer then waits for a finalization that the host was never asked for.
-/

namespace BotaSdk

open Protocol RecordingTransfer

namespace RecordingTransferWorkflow

/-- The transfer waits for the answer to request `id`. -/
def Awaits (w : RecordingTransferWorkflow) (id : RequestId) : Prop :=
  w.loadRequestId = some id ∨ w.sinkRequestId = some id ∨ w.subscriptionRequestId = some id ∨
    w.writeRequestId = some id ∨ id ∈ w.checkpointRequestIds

section Awaits

variable {w : RecordingTransferWorkflow} {id new : RequestId}

theorem awaits_sink (h : Awaits { w with sinkRequestId := some new } id) :
    Awaits w id ∨ id = new := by
  rcases h with h | h | h
  · exact .inl (.inl h)
  · exact .inr (Option.some.inj h).symm
  · exact .inl (.inr (.inr h))

theorem awaits_write (h : Awaits { w with writeRequestId := some new } id) :
    Awaits w id ∨ id = new := by
  rcases h with h | h | h | h | h
  · exact .inl (.inl h)
  · exact .inl (.inr (.inl h))
  · exact .inl (.inr (.inr (.inl h)))
  · exact .inr (Option.some.inj h).symm
  · exact .inl (.inr (.inr (.inr (.inr h))))

theorem awaits_subscription (h : Awaits { w with subscriptionRequestId := some new } id) :
    Awaits w id ∨ id = new := by
  rcases h with h | h | h | h
  · exact .inl (.inl h)
  · exact .inl (.inr (.inl h))
  · exact .inr (Option.some.inj h).symm
  · exact .inl (.inr (.inr (.inr h)))

theorem awaits_load (h : Awaits { w with loadRequestId := some new } id) :
    Awaits w id ∨ id = new := by
  rcases h with h | h
  · exact .inr (Option.some.inj h).symm
  · exact .inl (.inr h)

theorem awaits_checkpoint
    (h : Awaits { w with checkpointRequestIds := insert new w.checkpointRequestIds } id) :
    Awaits w id ∨ id = new := by
  rcases h with h | h | h | h | h
  · exact .inl (.inl h)
  · exact .inl (.inr (.inl h))
  · exact .inl (.inr (.inr (.inl h)))
  · exact .inl (.inr (.inr (.inr (.inl h))))
  · rcases Finset.mem_insert.mp h with h | h
    · exact .inr h
    · exact .inl (.inr (.inr (.inr (.inr h))))

theorem awaits_of_released (h : Awaits { w with sinkRequestId := none } id) : Awaits w id := by
  rcases h with h | h | h
  · exact .inl h
  · exact nomatch h
  · exact .inr (.inr h)

theorem awaits_of_written (h : Awaits { w with writeRequestId := none } id) : Awaits w id := by
  rcases h with h | h | h | h | h
  · exact .inl h
  · exact .inr (.inl h)
  · exact .inr (.inr (.inl h))
  · exact nomatch h
  · exact .inr (.inr (.inr (.inr h)))

theorem awaits_of_unsubscribed (h : Awaits { w with subscriptionRequestId := none } id) :
    Awaits w id := by
  rcases h with h | h | h | h
  · exact .inl h
  · exact .inr (.inl h)
  · exact nomatch h
  · exact .inr (.inr (.inr h))

theorem awaits_of_erased
    (h : Awaits { w with checkpointRequestIds := w.checkpointRequestIds.erase new } id) :
    Awaits w id := by
  rcases h with h | h | h | h | h
  · exact .inl h
  · exact .inr (.inl h)
  · exact .inr (.inr (.inl h))
  · exact .inr (.inr (.inr (.inl h)))
  · exact .inr (.inr (.inr (.inr (Finset.mem_of_mem_erase h))))

theorem awaits_of_restored {loaded : Option WorkflowCheckpoint} (h : Awaits (restore loaded w) id) :
    Awaits w id := by
  rw [restore] at h
  split at h
  · rcases h with h | h
    · cases h
    · exact .inr h
  · rcases h with h | h
    · cases h
    · exact .inr h

end Awaits

/-! ## Every call is grounded -/

section Grounded

variable {w : RecordingTransferWorkflow} {call call' : Call} {value : List UInt8}
  {packet : TransferPacket}

theorem grounded_append (h : Grounded Awaits w call) (sequence : Option Nat)
    (payload : List UInt8) : Grounded Awaits w (append sequence payload call) := by
  refine Grounded.request ?_ fun _ hawaits => awaits_sink hawaits
  exact h.update fun _ hawaits => hawaits

theorem grounded_appendLegacyBatch (h : Grounded Awaits w call) (sequence : Nat)
    (payload : List UInt8) : Grounded Awaits w (appendLegacyBatch sequence payload call) :=
  grounded_append (h.update fun _ hawaits => hawaits) _ _

theorem grounded_saveCheckpoint (h : Grounded Awaits w call) :
    Grounded Awaits w (saveCheckpoint call) :=
  h.request fun _ hawaits => awaits_checkpoint hawaits

theorem grounded_finalize (h : Grounded Awaits w call) (sequence : Nat) (checksum : Option Nat) :
    Grounded Awaits w (finalize sequence checksum call) := by
  refine Grounded.request ?_ fun _ hawaits => .inl hawaits
  refine Grounded.update ?_ fun _ hawaits => hawaits
  refine Grounded.request ?_ fun _ hawaits => awaits_sink hawaits
  exact h.update fun _ hawaits => hawaits

theorem grounded_cancelGraceTimer (h : Grounded Awaits w call) :
    Grounded Awaits w (cancelGraceTimer call) := by
  rw [cancelGraceTimer]
  split
  · exact (h.update fun _ hawaits => hawaits).request fun _ hawaits => .inl hawaits
  · exact h

theorem grounded_writeAck (h : Grounded Awaits w call) (ackType : AckType) (sequence : Nat) :
    Grounded Awaits w (writeAck ackType sequence call) :=
  h.request fun _ hawaits => awaits_write hawaits

theorem grounded_acknowledge (h : Grounded Awaits w call) : Grounded Awaits w (acknowledge call) :=
  grounded_writeAck (grounded_cancelGraceTimer (h.update fun _ hawaits => hawaits)) _ _

theorem grounded_unsubscribe (h : Grounded Awaits w call) : Grounded Awaits w (unsubscribe call) := by
  rw [unsubscribe]
  split
  · exact h
  · exact (h.update fun _ hawaits => awaits_of_unsubscribed hawaits).request
      fun _ hawaits => .inl hawaits

theorem grounded_complete (h : Grounded Awaits w call) : Grounded Awaits w (complete call) := by
  refine Grounded.update ?_ fun _ hawaits => hawaits
  refine Grounded.request ?_ fun _ hawaits => .inl hawaits
  refine Grounded.request ?_ fun _ hawaits => .inl hawaits
  exact grounded_unsubscribe (h.update fun _ hawaits => hawaits)

theorem grounded_fail (h : Grounded Awaits w call) (error : DeviceSdkError) :
    Grounded Awaits w (fail error call) := by
  refine Grounded.request ?_ fun _ hawaits => .inl hawaits
  exact grounded_cancelGraceTimer (grounded_unsubscribe (h.update fun _ hawaits => hawaits))

theorem grounded_failIntegrity (h : Grounded Awaits w call) (reason : String) :
    Grounded Awaits w (failIntegrity reason call) := by
  refine grounded_fail ?_ _
  refine Grounded.request ?_ fun _ hawaits => .inl hawaits
  exact (grounded_writeAck h _ _).request fun _ hawaits => .inl hawaits

theorem grounded_enqueue (h : Grounded Awaits w call) (value : List UInt8) :
    Grounded Awaits w (enqueue value call) := by
  rw [enqueue]
  split
  · exact grounded_failIntegrity h _
  · exact h.update fun _ hawaits => hawaits

theorem grounded_dispatchPacket (h : Grounded Awaits w call)
    (hok : dispatchPacket packet call = .ok call') : Grounded Awaits w call' := by
  cases packet with
  | data sequence data =>
    rw [dispatchPacket] at hok
    split at hok
    · exact Outcome.ok.inj hok ▸ h
    · split at hok
      · exact Outcome.ok.inj hok ▸ grounded_failIntegrity (h.update fun _ hawaits => hawaits) _
      · split at hok
        · exact Outcome.ok.inj hok ▸ grounded_fail h _
        · exact Outcome.ok.inj hok ▸
            grounded_appendLegacyBatch (h.update fun _ hawaits => hawaits) _ _
  | eof sequence checksum =>
    rw [dispatchPacket] at hok
    split at hok
    · exact Outcome.ok.inj hok ▸ grounded_fail h _
    · exact Outcome.ok.inj hok ▸ grounded_finalize (h.update fun _ hawaits => hawaits) _ _
  | e2eStart ephemeralPublicKey salt =>
    rw [dispatchPacket] at hok
    split at hok
    · exact Outcome.ok.inj hok ▸ grounded_fail h _
    · split at hok
      · exact Outcome.ok.inj hok ▸ h.update fun _ hawaits => hawaits
      · simp only at hok
        split at hok
        · exact Outcome.ok.inj hok ▸ h.update fun _ hawaits => hawaits
        · exact Outcome.ok.inj hok ▸ grounded_append (h.update fun _ hawaits => hawaits) _ _
  | encryptedData sequence chunk =>
    rw [dispatchPacket] at hok
    split at hok
    · exact Outcome.ok.inj hok ▸ grounded_fail h _
    · split at hok
      · exact Outcome.ok.inj hok ▸ h
      · split at hok
        · exact Outcome.ok.inj hok ▸ grounded_failIntegrity (h.update fun _ hawaits => hawaits) _
        · split at hok
          · exact nomatch hok
          · exact Outcome.ok.inj hok ▸ grounded_append h _ _
  | encryptedEof sequence =>
    rw [dispatchPacket] at hok
    split at hok
    · exact Outcome.ok.inj hok ▸ grounded_fail h _
    · exact Outcome.ok.inj hok ▸ grounded_finalize h _ _
  | sha256 sha256 => exact Outcome.ok.inj hok ▸ h.update fun _ hawaits => hawaits
  | error sequence code => exact Outcome.ok.inj hok ▸ grounded_fail h _
  | paused sequence bytesSent => exact Outcome.ok.inj hok ▸ grounded_fail h _

theorem grounded_dispatchLatePacket (h : Grounded Awaits w call)
    (hok : dispatchLatePacket packet call = .ok call') : Grounded Awaits w call' := by
  cases packet with
  | sha256 sha256 =>
    rw [dispatchLatePacket] at hok
    split at hok
    · exact Outcome.ok.inj hok ▸ grounded_acknowledge (h.update fun _ hawaits => hawaits)
    · exact Outcome.ok.inj hok ▸ h.update fun _ hawaits => hawaits
  | eof | encryptedEof => exact Outcome.ok.inj hok ▸ h
  | data | e2eStart | encryptedData | error | paused => exact nomatch hok

theorem grounded_dispatchNotification (h : Grounded Awaits w call)
    (hok : dispatchNotification value call = .ok call') : Grounded Awaits w call' := by
  rw [dispatchNotification] at hok
  split at hok
  · exact Outcome.ok.inj hok ▸ grounded_enqueue h value
  · exact Outcome.ok.inj hok ▸ grounded_enqueue h value
  · split at hok
    · exact Outcome.ok.inj hok ▸ grounded_fail h _
    · exact grounded_dispatchPacket h hok
  · split at hok
    · exact Outcome.ok.inj hok ▸ grounded_fail h _
    · exact grounded_dispatchLatePacket h hok
  · split at hok
    · exact Outcome.ok.inj hok ▸ grounded_fail h _
    · exact grounded_dispatchLatePacket h hok
  · cases hok

theorem settleCall_ok {context : WorkflowContext} {outcome : Outcome Call}
    (hok : settleCall w context outcome = .ok call') : outcome = .ok call' := by
  cases outcome with
  | ok call => exact congrArg Outcome.ok (Reduction.ok_injective hok)
  | err error => exact nomatch congrArg Reduction.outcome hok
  | panicked => exact nomatch congrArg Reduction.outcome hok

theorem grounded_drain {turns : Nat} (h : Grounded Awaits w call)
    (hok : drain turns call = .ok call') : Grounded Awaits w call' := by
  induction turns generalizing call with
  | zero => exact Reduction.ok_injective hok ▸ h
  | succ turns ih =>
    rw [drain] at hok
    split at hok
    · split at hok
      · exact Reduction.ok_injective hok ▸ h
      · simp only at hok
        split at hok
        · exact nomatch congrArg Reduction.outcome hok
        · split at hok
          · rename_i hstep
            exact ih (grounded_dispatchNotification (h.update fun _ hawaits => hawaits) hstep) hok
          · rename_i hstopped
            exact absurd (settleCall_ok hok) (hstopped _)
    · exact Reduction.ok_injective hok ▸ h

theorem grounded_start (w : RecordingTransferWorkflow) (context : WorkflowContext) :
    Grounded Awaits w (((Step.begin w context).request (.notify (.started .transferRecording))).request
      (.persistence .loadCheckpoint) fun id w => { w with loadRequestId := some id }) := by
  refine Grounded.request ?_ fun _ hawaits => awaits_load hawaits
  exact (grounded_begin w context).request fun _ hawaits => .inl hawaits

/-- What an accepted event leaves waiting was waited for before it, or is requested by it. -/
theorem grounded_dispatch {event : HostEvent} {context : WorkflowContext}
    (hok : dispatch w event context = .ok call) : Grounded Awaits w call := by
  have hbegin : Grounded Awaits w (Step.begin w context) := grounded_begin w context
  have hreleased : Grounded Awaits w ((Step.begin w context).update
      fun w => { w with sinkRequestId := none }) :=
    hbegin.update fun _ hawaits => awaits_of_released hawaits
  have hwritten : Grounded Awaits w ((Step.begin w context).update
      fun w => { w with writeRequestId := none }) :=
    hbegin.update fun _ hawaits => awaits_of_written hawaits
  have hreject : Reduction.err w context unexpected ≠ .ok call :=
    fun heq => nomatch congrArg Reduction.outcome heq
  rw [dispatch] at hok
  simp only at hok
  split at hok
  · split at hok
    · exact Reduction.ok_injective hok ▸ hbegin.update fun _ hawaits => awaits_of_erased hawaits
    · exact absurd hok hreject
  · split at hok
    · exact grounded_dispatchNotification hbegin (settleCall_ok hok)
    · exact absurd hok hreject
  · split at hok
    · refine Reduction.ok_injective hok ▸ Grounded.request ?_ fun _ hawaits => awaits_sink hawaits
      exact (hbegin.update fun _ hawaits => awaits_of_restored hawaits).update
        fun _ hawaits => hawaits
    · exact absurd hok hreject
  · split at hok
    · refine Reduction.ok_injective hok ▸ Grounded.request ?_
        fun _ hawaits => awaits_subscription hawaits
      exact hreleased.update fun _ hawaits => hawaits
    · exact absurd hok hreject
  · split at hok
    · refine Reduction.ok_injective hok ▸ Grounded.request ?_ fun _ hawaits => awaits_write hawaits
      exact hbegin.update fun _ hawaits => hawaits
    · exact absurd hok hreject
  · split at hok
    · split at hok
      · exact grounded_drain (hwritten.update fun _ hawaits => hawaits) hok
      · split at hok
        · refine Reduction.ok_injective hok ▸ Grounded.request ?_ fun _ hawaits => awaits_write hawaits
          exact hwritten.update fun _ hawaits => hawaits
        · exact Reduction.ok_injective hok ▸ grounded_complete hwritten
      · exact Reduction.ok_injective hok ▸ grounded_complete hwritten
      · exact absurd hok hreject
    · exact absurd hok hreject
  · split at hok
    · split at hok
      · exact Reduction.ok_injective hok ▸ grounded_fail hreleased _
      · refine grounded_drain (Grounded.request ?_ fun _ hawaits => .inl hawaits) hok
        exact grounded_saveCheckpoint (hreleased.update fun _ hawaits => hawaits)
    · exact absurd hok hreject
  · split at hok
    · split at hok
      · exact Reduction.ok_injective hok ▸
          grounded_acknowledge (hreleased.update fun _ hawaits => hawaits)
      · exact Reduction.ok_injective hok ▸
          (hreleased.update fun _ hawaits => hawaits).update fun _ hawaits => hawaits
    · exact absurd hok hreject
  · split at hok
    · exact Reduction.ok_injective hok ▸ grounded_failIntegrity hreleased _
    · exact absurd hok hreject
  · split at hok
    · split at hok
      · exact Reduction.ok_injective hok ▸
          grounded_acknowledge (hbegin.update fun _ hawaits => hawaits)
      · exact Reduction.ok_injective hok ▸ hbegin.update fun _ hawaits => hawaits
    · exact absurd hok hreject
  · split at hok
    · exact Reduction.ok_injective hok ▸ grounded_fail hreleased _
    · exact absurd hok hreject
  · split at hok
    · exact Reduction.ok_injective hok ▸
        grounded_fail (hbegin.update fun _ hawaits => awaits_of_erased hawaits) _
    · split at hok
      · exact Reduction.ok_injective hok ▸ grounded_fail hbegin _
      · exact absurd hok hreject
  · exact Reduction.ok_injective hok ▸ grounded_fail hbegin _
  · split at hok
    · exact Reduction.ok_injective hok ▸ grounded_fail hbegin _
    · exact absurd hok hreject
  · exact absurd hok hreject

end Grounded

/-! ## The queues a drain stops in -/

/-- The EOF of the reader's kind of stream. -/
def Reader.ends (r : Reader) : TransferPacket → Bool
  | .eof _ _ => r.encrypted ≠ some true
  | .encryptedEof _ => r.encrypted = some true && r.header
  | _ => false

/-- The next chunk of the stream, too long for its frame. -/
def Reader.overflows (r : Reader) : TransferPacket → Bool
  | .encryptedData sequence chunk =>
    r.encrypted = some true ∧ r.header ∧ ¬r.last.any (sequence ≤ ·) ∧ sequence = r.next ∧
      65535 < chunk.length - 16
  | _ => false

/-- What a turn of the drain on a packet leads to. -/
inductive Turn where
  | passed (r : Reader)
  | closed
  | crashed
  | halted

def Reader.turn (r : Reader) (packet : TransferPacket) : Turn :=
  match r.read packet with
  | some (r', []) => .passed r'
  | some (_, _ :: _) => .halted
  | none =>
    if r.ends packet then .closed else if r.overflows packet then .crashed else .halted

/-- The packets a transfer still takes behind its EOF. -/
def trails : TransferPacket → Bool
  | .sha256 _ | .eof _ _ | .encryptedEof _ => true
  | _ => false

/-- Behind the EOF a packet is queued that is neither an EOF nor a digest. -/
def jamsLate : List (List UInt8) → Bool
  | [] => false
  | value :: rest =>
    match parseTransferPacket value with
    | .error _ => false
    | .ok packet => if trails packet then jamsLate rest else true

/-- Behind packets that append nothing, an EOF is queued with such a packet behind it, or a chunk that
is too long. -/
def jams (r : Reader) : List (List UInt8) → Bool
  | [] => false
  | value :: rest =>
    match parseTransferPacket value with
    | .error _ => false
    | .ok packet =>
      match r.turn packet with
      | .passed r' => jams r' rest
      | .closed => jamsLate rest
      | .crashed => true
      | .halted => false

/-- Where the reader stands while no append is pending. -/
def readerOf (w : RecordingTransferWorkflow) : Reader where
  last := w.lastSequence
  encrypted := w.encrypted
  header := w.e2eHeaderReceived
  resumed := 0 < w.completedUnits

section Drains

variable {w : RecordingTransferWorkflow} {call call' : Call} {value : List UInt8}
  {packet : TransferPacket} {r : Reader}

/-- The queue and the subscription are as before. -/
structure Onward (call call' : Call) : Prop where
  queue : call'.workflow.pendingPackets = call.workflow.pendingPackets
  subscription : call'.workflow.subscriptionRequestId = call.workflow.subscriptionRequestId

/-- The outcome of a packet that the turn predicts. -/
def Turns (call : Call) (packet : TransferPacket) : Turn → Prop
  | .passed r => ∃ call', dispatchPacket packet call = .ok call' ∧
      call'.workflow.phase = call.workflow.phase ∧ readerOf call'.workflow = r ∧ Onward call call'
  | .closed => ∃ call', dispatchPacket packet call = .ok call' ∧
      call'.workflow.phase = .finalizing ∧ Onward call call'
  | .crashed => dispatchPacket packet call = .panicked
  | .halted => ∃ call', dispatchPacket packet call = .ok call' ∧ ¬call'.workflow.phase.drains

theorem halted_of_fail (error : DeviceSdkError) (call : Call) :
    ¬(fail error call).workflow.phase.drains := by
  rw [fail_workflow]
  exact nofun

theorem halted_of_failIntegrity (reason : String) (call : Call) :
    ¬(failIntegrity reason call).workflow.phase.drains := by
  rw [(failed_failIntegrity reason call).phase]
  exact nofun

/-- The turn of a packet tells what the transfer does with it. -/
theorem packet_turns (call : Call) (packet : TransferPacket) :
    Turns call packet ((readerOf call.workflow).turn packet) := by
  have hlast : (readerOf call.workflow).last = call.workflow.lastSequence := rfl
  have hnext : (readerOf call.workflow).next = call.workflow.nextSequence := rfl
  have henc : (readerOf call.workflow).encrypted = call.workflow.encrypted := rfl
  have hstart : (readerOf call.workflow).header = call.workflow.e2eHeaderReceived := rfl
  -- the reader asks what the workflow asks of a packet, in the same order
  cases packet with
  | data sequence data =>
    by_cases hdup : call.workflow.lastSequence.any (sequence ≤ ·)
    · have hturn : (readerOf call.workflow).turn (.data sequence data) =
          .passed (readerOf call.workflow) := by
        simp [Reader.turn, Reader.read, readerOf, hdup]
      rw [hturn]
      exact ⟨call, if_pos hdup, rfl, rfl, rfl, rfl⟩
    · have hturn : (readerOf call.workflow).turn (.data sequence data) = .halted := by
        rw [Reader.turn, Reader.read, hlast, if_neg hdup]
        by_cases htake : sequence = (readerOf call.workflow).next ∧
            (readerOf call.workflow).encrypted ≠ some true
        · rw [if_pos htake]
        · rw [if_neg htake]
          rfl
      rw [hturn]
      by_cases hseq : sequence = call.workflow.nextSequence
      · by_cases hmix : call.workflow.encrypted = some true
        · exact ⟨_, (if_neg hdup).trans ((if_neg (not_not_intro hseq)).trans (if_pos hmix)),
            halted_of_fail _ _⟩
        · exact ⟨_, (if_neg hdup).trans ((if_neg (not_not_intro hseq)).trans (if_neg hmix)), (by rintro ⟨⟩)⟩
      · exact ⟨_, (if_neg hdup).trans (if_pos hseq), halted_of_failIntegrity _ _⟩
  | eof sequence checksum =>
    by_cases hmix : call.workflow.encrypted = some true
    · have hturn : (readerOf call.workflow).turn (.eof sequence checksum) = .halted := by
        simp [Reader.turn, Reader.read, Reader.ends, Reader.overflows, readerOf, hmix]
      rw [hturn]
      exact ⟨_, if_pos hmix, halted_of_fail _ _⟩
    · have hturn : (readerOf call.workflow).turn (.eof sequence checksum) = .closed := by
        simp [Reader.turn, Reader.read, Reader.ends, readerOf, hmix]
      rw [hturn]
      exact ⟨_, if_neg hmix, rfl, rfl, rfl⟩
  | e2eStart ephemeralPublicKey salt =>
    by_cases hmix : call.workflow.encrypted = some false
    · have hturn : (readerOf call.workflow).turn (.e2eStart ephemeralPublicKey salt) = .halted := by
        simp [Reader.turn, Reader.read, Reader.ends, Reader.overflows, readerOf, hmix]
      rw [hturn]
      exact ⟨_, if_pos hmix, halted_of_fail _ _⟩
    · by_cases hheader : call.workflow.e2eHeaderReceived
      · have hturn : (readerOf call.workflow).turn (.e2eStart ephemeralPublicKey salt) =
            .passed { readerOf call.workflow with encrypted := some true } := by
          simp [Reader.turn, Reader.read, readerOf, hmix, hheader]
        rw [hturn]
        exact ⟨_, (if_neg hmix).trans (if_pos hheader), rfl, rfl, rfl, rfl⟩
      · by_cases hunits : 0 < call.workflow.completedUnits
        · have hturn : (readerOf call.workflow).turn (.e2eStart ephemeralPublicKey salt) =
              .passed { readerOf call.workflow with encrypted := some true, header := true } := by
            simp [Reader.turn, Reader.read, readerOf, hmix, hheader, hunits]
          rw [hturn]
          exact ⟨_, (if_neg hmix).trans ((if_neg hheader).trans (if_pos hunits)), rfl, rfl, rfl, rfl⟩
        · have hturn : (readerOf call.workflow).turn (.e2eStart ephemeralPublicKey salt) =
              .halted := by
            simp [Reader.turn, Reader.read, readerOf, hmix, hheader, hunits]
          rw [hturn]
          exact ⟨_, (if_neg hmix).trans ((if_neg hheader).trans (if_neg hunits)), (by rintro ⟨⟩)⟩
  | encryptedData sequence chunk =>
    by_cases hheader : call.workflow.encrypted ≠ some true ∨ ¬call.workflow.e2eHeaderReceived
    · have hturn : (readerOf call.workflow).turn (.encryptedData sequence chunk) = .halted := by
        rcases hheader with h | h <;>
          simp [Reader.turn, Reader.read, Reader.ends, Reader.overflows, henc, hstart, h]
      rw [hturn]
      exact ⟨_, if_pos hheader, halted_of_fail _ _⟩
    · by_cases hdup : call.workflow.lastSequence.any (sequence ≤ ·)
      · have hturn : (readerOf call.workflow).turn (.encryptedData sequence chunk) =
            .passed (readerOf call.workflow) := by
          rw [Reader.turn, Reader.read, henc, hstart, if_neg hheader, hlast, if_pos hdup]
        rw [hturn]
        exact ⟨call, (if_neg hheader).trans (if_pos hdup), rfl, rfl, rfl, rfl⟩
      · have hread : (readerOf call.workflow).read (.encryptedData sequence chunk) =
            if sequence = call.workflow.nextSequence ∧ 16 ≤ chunk.length ∧
              chunk.length - 16 ≤ 65535 then
              some ({ readerOf call.workflow with last := some sequence }, [(sequence, framed chunk)])
            else none := by
          rw [Reader.read, if_neg (by rw [henc, hstart]; exact hheader), hlast, if_neg hdup, hnext]
        by_cases hgap : sequence ≠ call.workflow.nextSequence ∨ chunk.length < 16
        · have hturn : (readerOf call.workflow).turn (.encryptedData sequence chunk) = .halted := by
            rw [Reader.turn, hread, if_neg (by omega)]
            have hfits : (readerOf call.workflow).overflows (.encryptedData sequence chunk) = false := by
              rw [Reader.overflows, hnext, decide_eq_false_iff_not]
              rintro ⟨-, -, -, hseq, hover⟩
              omega
            simp [Reader.ends, hfits]
          rw [hturn]
          exact ⟨_, (if_neg hheader).trans ((if_neg hdup).trans (if_pos hgap)),
            halted_of_failIntegrity _ _⟩
        -- a chunk whose length does not fit its frame panics
        · by_cases hover : 65535 < chunk.length - 16
          · have hturn : (readerOf call.workflow).turn (.encryptedData sequence chunk) = .crashed := by
              rw [Reader.turn, hread, if_neg (by omega)]
              have hlong : (readerOf call.workflow).overflows (.encryptedData sequence chunk) := by
                rw [Reader.overflows, hnext, henc, hstart, hlast, decide_eq_true_iff]
                push Not at hheader hgap
                exact ⟨hheader.1, hheader.2, hdup, hgap.1, hover⟩
              simp [Reader.ends, hlong]
            rw [hturn]
            exact (if_neg hheader).trans ((if_neg hdup).trans ((if_neg hgap).trans (if_pos hover)))
          · have hturn : (readerOf call.workflow).turn (.encryptedData sequence chunk) = .halted := by
              rw [Reader.turn, hread, if_pos (by omega)]
            rw [hturn]
            exact ⟨_, (if_neg hheader).trans ((if_neg hdup).trans ((if_neg hgap).trans
              (if_neg hover))), (by rintro ⟨⟩)⟩
  | encryptedEof sequence =>
    by_cases hheader : call.workflow.encrypted ≠ some true ∨ ¬call.workflow.e2eHeaderReceived
    · have hturn : (readerOf call.workflow).turn (.encryptedEof sequence) = .halted := by
        rw [Reader.turn, Reader.read]
        rcases hheader with henc | hheader <;> simp [Reader.ends, Reader.overflows, readerOf, *]
      rw [hturn]
      exact ⟨_, if_pos hheader, halted_of_fail _ _⟩
    · have hturn : (readerOf call.workflow).turn (.encryptedEof sequence) = .closed := by
        push Not at hheader
        simp [Reader.turn, Reader.read, Reader.ends, readerOf, hheader]
      rw [hturn]
      exact ⟨_, if_neg hheader, rfl, rfl, rfl⟩
  | sha256 sha256 => exact ⟨_, rfl, rfl, rfl, rfl, rfl⟩
  | error sequence code => exact ⟨_, rfl, halted_of_fail _ _⟩
  | paused sequence bytesSent => exact ⟨_, rfl, halted_of_fail _ _⟩

/-- The first queued value is taken off the queue, as `drain` does. -/
theorem popped (call : Call) (value : List UInt8) (rest : List (List UInt8)) :
    ∃ popped : Call, call.update (fun w =>
        { w with pendingPackets := rest, pendingBytes := w.pendingBytes - value.length }) = popped ∧
      popped.workflow.phase = call.workflow.phase ∧ popped.workflow.pendingPackets = rest ∧
      popped.workflow.subscriptionRequestId = call.workflow.subscriptionRequestId ∧
      readerOf popped.workflow = readerOf call.workflow :=
  ⟨_, rfl, rfl, rfl, rfl, rfl⟩

/-- An error or a crash of the turn ends the drain. -/
theorem not_settled {w : RecordingTransferWorkflow} {context : WorkflowContext}
    {outcome : Outcome Call} (h : ∀ call, outcome ≠ .ok call) :
    ¬∃ call', settleCall w context outcome = .ok call' := by
  rintro ⟨call', hok⟩
  exact h call' (settleCall_ok hok)

/-- Behind the EOF a drain gets through exactly the queues that do not jam it. -/
theorem drain_late {turns : Nat} {call : Call}
    (henough : call.workflow.pendingPackets.length ≤ turns) (hphase : call.workflow.phase = .finalizing)
    (hsubscribed : call.workflow.subscriptionRequestId.isSome) :
    (∃ call', drain turns call = .ok call') ↔ ¬jamsLate call.workflow.pendingPackets := by
  induction turns generalizing call with
  | zero =>
    rw [List.length_eq_zero_iff.mp (Nat.le_zero.mp henough)]
    exact ⟨fun _ => by rintro ⟨⟩, fun _ => ⟨call, rfl⟩⟩
  | succ turns ih =>
    obtain ⟨id, hid⟩ := Option.isSome_iff_exists.mp hsubscribed
    rw [drain, if_pos (by rw [hphase]; rfl)]
    cases hqueue : call.workflow.pendingPackets with
    | nil => exact ⟨fun _ => by rintro ⟨⟩, fun _ => ⟨call, rfl⟩⟩
    | cons value rest =>
      rw [hqueue, List.length_cons] at henough
      obtain ⟨popped, heq, hphase', hrest, hsame, -⟩ := popped call value rest
      simp only [hid, heq]
      rw [hphase] at hphase'
      have hqueue' : popped.workflow.pendingPackets.length ≤ turns := by
        rw [hrest]
        exact Nat.le_of_succ_le_succ henough
      have hsubscribed' : popped.workflow.subscriptionRequestId.isSome := by
        rw [hsame]
        exact hsubscribed
      rw [jamsLate]
      cases hparse : parseTransferPacket value with
      | error error =>
        have hok : dispatchNotification value popped = .ok (fail error popped) := by
          rw [dispatchNotification, hphase', hparse]
        simp only [hok]
        rw [drain_of_not_drains (halted_of_fail _ _)]
        exact ⟨fun _ => by rintro ⟨⟩, fun _ => ⟨_, rfl⟩⟩
      | ok packet =>
        have hpacket : dispatchNotification value popped = dispatchLatePacket packet popped := by
          rw [dispatchNotification, hphase', hparse]
        rw [hpacket]
        cases packet with
        | sha256 sha256 =>
          have hok : dispatchLatePacket (.sha256 sha256) popped =
              .ok (popped.update fun w => { w with sha256 := some sha256 }) := by
            refine if_neg ?_
            rw [Step.update_workflow, hphase']
            decide
          simp only [hok, trails, if_true]
          rw [← hrest]
          exact @ih (popped.update fun w => { w with sha256 := some sha256 }) hqueue' hphase'
            hsubscribed'
        | eof | encryptedEof =>
          simp only [dispatchLatePacket, trails, if_true]
          rw [← hrest]
          exact ih hqueue' hphase' hsubscribed'
        | data | e2eStart | encryptedData | error | paused =>
          simp only [dispatchLatePacket, trails]
          exact ⟨fun hok => absurd hok (not_settled (by simp)), fun hnot => absurd rfl hnot⟩

/-- A drain gets through exactly the queues that do not jam it. -/
theorem drain_iff {turns : Nat} {call : Call}
    (henough : call.workflow.pendingPackets.length ≤ turns)
    (hphase : call.workflow.phase = .transferring)
    (hsubscribed : call.workflow.subscriptionRequestId.isSome) :
    (∃ call', drain turns call = .ok call') ↔
      ¬jams (readerOf call.workflow) call.workflow.pendingPackets := by
  -- on the turns; a packet that is passed leaves a shorter queue to the reader behind it
  induction turns generalizing call with
  | zero =>
    rw [List.length_eq_zero_iff.mp (Nat.le_zero.mp henough)]
    exact ⟨fun _ => by rintro ⟨⟩, fun _ => ⟨call, rfl⟩⟩
  | succ turns ih =>
    obtain ⟨id, hid⟩ := Option.isSome_iff_exists.mp hsubscribed
    rw [drain, if_pos (by rw [hphase]; rfl)]
    cases hqueue : call.workflow.pendingPackets with
    | nil => exact ⟨fun _ => by rintro ⟨⟩, fun _ => ⟨call, rfl⟩⟩
    | cons value rest =>
      rw [hqueue, List.length_cons] at henough
      obtain ⟨popped, heq, hphase', hrest, hsame, hreader⟩ := popped call value rest
      simp only [hid, heq]
      rw [hphase] at hphase'
      rw [jams]
      cases hparse : parseTransferPacket value with
      | error error =>
        have hok : dispatchNotification value popped = .ok (fail error popped) := by
          rw [dispatchNotification, hphase', hparse]
        simp only [hok]
        rw [drain_of_not_drains (halted_of_fail _ _)]
        exact ⟨fun _ => by rintro ⟨⟩, fun _ => ⟨_, rfl⟩⟩
      | ok packet =>
        have hpacket : dispatchNotification value popped = dispatchPacket packet popped := by
          rw [dispatchNotification, hphase', hparse]
        rw [hpacket]
        have hturns := packet_turns popped packet
        rw [hreader] at hturns
        have honwards : ∀ {call' : Call}, Onward popped call' →
            call'.workflow.pendingPackets = rest ∧
              call'.workflow.pendingPackets.length ≤ turns ∧
              call'.workflow.subscriptionRequestId.isSome := by
          intro call' honward
          have hqueue' : call'.workflow.pendingPackets = rest := honward.queue.trans hrest
          refine ⟨hqueue', ?_, ?_⟩
          · rw [hqueue']
            exact Nat.le_of_succ_le_succ henough
          · rw [honward.subscription, hsame]
            exact hsubscribed
        cases hturn : (readerOf call.workflow).turn packet with
        | passed r =>
          rw [hturn] at hturns
          obtain ⟨call', hok, hkept, rfl, honward⟩ := hturns
          obtain ⟨hqueue', hlength, hsubscribed'⟩ := honwards honward
          simp only [hok, hturn]
          rw [← hqueue']
          exact ih hlength (hkept.trans hphase') hsubscribed'
        | closed =>
          rw [hturn] at hturns
          obtain ⟨call', hok, hclosed, honward⟩ := hturns
          obtain ⟨hqueue', hlength, hsubscribed'⟩ := honwards honward
          simp only [hok, hturn]
          rw [← hqueue']
          exact drain_late hlength hclosed hsubscribed'
        | crashed =>
          rw [hturn] at hturns
          have hpanic : dispatchPacket packet popped = .panicked := hturns
          simp only [hpanic, hturn]
          exact ⟨fun hok => absurd hok (not_settled (by simp)), fun hnot => absurd trivial hnot⟩
        | halted =>
          rw [hturn] at hturns
          obtain ⟨call', hok, hhalted⟩ := hturns
          simp only [hok, hturn]
          rw [drain_of_not_drains hhalted]
          exact ⟨fun _ => by rintro ⟨⟩, fun _ => ⟨_, rfl⟩⟩

end Drains

/-! ## Runs -/

/-- The callback reopens the transfer over a queue that the drain cannot get through. -/
def Jammed (w : RecordingTransferWorkflow) (event : HostEvent) : Prop :=
  ∃ w₀ effects, Reopens w event w₀ effects ∧ jams (readerOf w₀) w₀.pendingPackets

/-- A jammed callback of the active transfer. -/
def Jams (entry : EngineEntry RecordingTransferWorkflow) : Prop :=
  ∃ w event, entry.pre.active = some w ∧ entry.input = .host event ∧ Jammed w event

/-- The event returned no effects, and the transfer moved all the same. -/
def Drops (entry : EngineEntry RecordingTransferWorkflow) : Prop :=
  (∀ effects, entry.output ≠ .ok effects) ∧
    (entry.pre.dispatch entry.input).1.active ≠ entry.pre.active

section Runs

variable {w w' : RecordingTransferWorkflow} {event : HostEvent} {context : WorkflowContext}
  {engine₀ engine : WorkflowEngine RecordingTransferWorkflow}
  {trace : List (EngineEntry RecordingTransferWorkflow)} {effects : List Effect}

theorem Reopens.waits (h : Reopens w event w' effects) : w.phase = .starting ∨ w.phase = .appending := by
  cases h with
  | started hphase => exact .inl hphase
  | appended hphase => exact .inr hphase

/-- A reopening callback drains the queue it found. -/
theorem Reopens.drained (h : Reopens w event w' effects) (context : WorkflowContext) :
    ∃ call : Call, dispatch w event context = drainPackets call ∧
      call.workflow.phase = .transferring ∧ readerOf call.workflow = readerOf w' ∧
      call.workflow.pendingPackets = w'.pendingPackets ∧
      call.workflow.subscriptionRequestId = w.subscriptionRequestId := by
  cases h with
  | started hphase hid =>
    have hdispatch : dispatch w ⟨_, .ble .writeCompleted⟩ context = _ := if_pos hid.symm
    simp only [hphase] at hdispatch
    exact ⟨_, hdispatch, rfl, rfl, rfl, rfl⟩
  | appended hphase hid hunits =>
    have hguard : w.phase = .appending ∧ some _ = w.sinkRequestId := ⟨hphase, hid.symm⟩
    exact ⟨_, (if_pos hguard).trans (if_neg (Nat.not_lt.mpr hunits)), rfl, rfl, rfl, rfl⟩

/-- A jammed callback returns nothing, with the transfer reopened. -/
theorem Reopens.jammed_iff (h : Reopens w event w' effects)
    (hsubscribed : w.subscriptionRequestId.isSome) (context : WorkflowContext) :
    jams (readerOf w') w'.pendingPackets ↔
      Unanswered (dispatch w event context) ∧ (dispatch w event context).workflow.phase.drains := by
  obtain ⟨call, hdispatch, hphase, hreader, hqueue, hsame⟩ := h.drained context
  have hsubscribed' : call.workflow.subscriptionRequestId.isSome := by
    rw [hsame]
    exact hsubscribed
  have hiff := drain_iff (Nat.le_refl call.workflow.pendingPackets.length) hphase hsubscribed'
  rw [hdispatch, ← hreader, ← hqueue, drainPackets]
  rcases drain_cases (Nat.le_refl call.workflow.pendingPackets.length) (fun _ => hsubscribed') with
    ⟨call', _, hdrain, -⟩ | ⟨_, w₁, w', context', error, value, hdrain, -, hstopped, -⟩ |
    ⟨_, w₁, w', context', value, hdrain, -, hstopped, -⟩
  · rw [hdrain]
    refine ⟨fun hjams => absurd hjams (hiff.mp ⟨call', hdrain⟩), ?_⟩
    rintro ⟨hsilent, -⟩
    exact absurd rfl (hsilent call'.effects)
  all_goals
    have hjams : jams (readerOf call.workflow) call.workflow.pendingPackets := by
      by_contra hnot
      obtain ⟨call', hok⟩ := hiff.mpr hnot
      rw [hdrain] at hok
      cases congrArg Reduction.outcome hok
    rw [hdrain]
    refine ⟨fun _ => ⟨fun _ => by rintro ⟨⟩, ?_⟩, fun _ => hjams⟩
    show w'.phase.drains
    rw [hstopped.popped]
    exact hstopped.drains

/-- A call that returns nothing leaves the transfer alone exactly when it is not jammed. -/
theorem Formed.unanswered (h : Formed w) (hsilent : Unanswered (dispatch w event context)) :
    (Jammed w event ∧ (dispatch w event context).workflow ≠ w) ∨
      (¬Jammed w event ∧ (dispatch w event context).workflow = w) := by
  by_cases hjammed : Jammed w event
  · obtain ⟨w₀, effects, hreopens, hjams⟩ := hjammed
    refine .inl ⟨⟨w₀, effects, hreopens, hjams⟩, fun hsame => ?_⟩
    obtain ⟨-, hdrains⟩ :=
      (hreopens.jammed_iff (h.subscribed hreopens.waits) context).mp hjams
    rw [hsame] at hdrains
    rcases hreopens.waits with hphase | hphase <;> rw [hphase] at hdrains <;> exact nomatch hdrains
  · refine .inr ⟨hjammed, ?_⟩
    rcases dispatch_cases w event context h.subscribed with
      ⟨call, hok, -⟩ | hignored | ⟨-, hinterrupted⟩
    · rw [hok] at hsilent
      exact absurd rfl (hsilent call.effects)
    · exact hignored.workflow
    · have hdrains := hinterrupted.drains
      obtain ⟨w₀, effects, _, _, _, hreopens, -⟩ := hinterrupted
      have hjams := (hreopens.jammed_iff (h.subscribed hreopens.waits) context).mpr
        ⟨hsilent, hdrains⟩
      exact absurd ⟨w₀, effects, hreopens, hjams⟩ hjammed

/-- A jammed callback returns nothing. -/
theorem Formed.jammed (h : Formed w) (hjammed : Jammed w event) :
    Unanswered (dispatch w event context) := by
  obtain ⟨w₀, effects, hreopens, hjams⟩ := hjammed
  exact ((hreopens.jammed_iff (h.subscribed hreopens.waits) context).mp hjams).1

variable {started : List EffectRequest}

/-- What the transfer waits for was requested at the start or later, unless a step was jammed. -/
def Backed (started : List EffectRequest) (trace : List (EngineEntry RecordingTransferWorkflow))
    (w : RecordingTransferWorkflow) : Prop :=
  (∀ entry ∈ trace, ¬Jams entry) → ∀ id, Awaits w id → Requests (started ++ emitted trace) id

theorem Backed.append {entry : EngineEntry RecordingTransferWorkflow} (h : Backed started trace w)
    (hgrounded : ∀ id, Awaits w' id → Awaits w id ∨ Requests entry.output.effects id) :
    Backed started (trace ++ [entry]) w' := by
  intro hunjammed id hawaits
  rw [emitted_append, emitted_singleton, ← List.append_assoc, requests_append]
  rcases hgrounded id hawaits with hbefore | hrequests
  · refine .inl (h (fun entry hmem => hunjammed entry (List.mem_append_left _ hmem)) id hbefore)
  · exact .inr hrequests

variable {idle : WorkflowEngine RecordingTransferWorkflow} {command : TransferRecording}
  {capabilities : List Capability} {id : CancellationId}

theorem awaits_new {id : RequestId} {cancellationId : CancellationId} {device : DeviceSerialNumber}
    {recording : RecordingUuid} {sinkId : RecordingSinkId} {totalUnits : Nat}
    {confirmOnCompletion : Bool} :
    ¬Awaits (new device recording sinkId totalUnits confirmOnCompletion cancellationId) id := by
  rintro (h | h | h | h | h)
  · exact nomatch h
  · exact nomatch h
  · exact nomatch h
  · exact nomatch h
  · exact absurd h (Finset.notMem_empty id)

theorem backed_start (hstart : idle.start command capabilities id = (engine₀, .ok started)) :
    ∃ w, engine₀.active = some w ∧ Formed w ∧ Backed started [] w := by
  obtain ⟨w, hact, hformed, -⟩ := Started.blank ⟨idle, command, capabilities, id, started, hstart⟩
  refine ⟨w, hact, hformed, fun _ request hawaits => ?_⟩
  obtain ⟨workflow, hcreate, reduction, rfl, hact', -, hout⟩ := start_ok hstart
  obtain rfl := Except.ok.inj hcreate
  obtain rfl := Option.some.inj (hact.symm.trans hact')
  rw [emitted_nil, List.append_nil, ← Outcome.ok.inj hout]
  exact (grounded_start _ _ request hawaits).resolve_left awaits_new

/-- Along every run, what the transfer waits for was requested, unless a step was jammed. -/
theorem backed (hstart : idle.start command capabilities id = (engine₀, .ok started))
    {ok : List (EngineEntry RecordingTransferWorkflow) →
      WorkflowEngine RecordingTransferWorkflow → Event → Prop}
    (hrun : EngineRun ok engine₀ trace engine) :
    Settled (fun trace w => Formed w ∧ Backed started trace w) (fun _ => True) trace engine := by
  refine EngineRun.rule ?_ ?_ ?_ ?_ (fun _ _ _ _ _ _ => trivial) hrun
  · obtain ⟨w, hact, hformed, hbacked⟩ := backed_start hstart
    exact (settled_active hact).mpr ⟨hformed, hbacked⟩
  · intro trace engine w event _ hact ⟨hformed, hbacked⟩ _
    rw [dispatch_active hact]
    rcases dispatch_cases w event (engine.context w) hformed.subscribed with
      ⟨call, hcall, hstep⟩ | ⟨hsame, hsilent, -⟩ | ⟨hsilent, hinterrupted⟩
    · have hred : WorkflowReducer.dispatch w event (engine.context w) = .ok call := hcall
      rw [hred]
      by_cases hend : call.workflow.phase = .completed ∨ call.workflow.phase = .failed
      · obtain ⟨status, hstatus⟩ := hstep.terminal hformed.running hend
        rw [settle_ended rfl hstatus, settled_ended rfl]
        trivial
      · rw [settle_running rfl (terminalStatus_of_running hend), settled_active rfl]
        exact ⟨hstep.formed hformed hend, hbacked.append (grounded_dispatch hcall)⟩
    · have hsettle : engine.settle (WorkflowReducer.dispatch w event (engine.context w)) = _ :=
        settle_unanswered hsilent
      have hkept : (WorkflowReducer.dispatch w event (engine.context w)).workflow = w := hsame
      rw [hsettle, settled_active rfl, hkept]
      exact ⟨hformed, hbacked.append fun _ hawaits => .inl hawaits⟩
    · have hsettle : engine.settle (WorkflowReducer.dispatch w event (engine.context w)) = _ :=
        settle_unanswered hsilent
      rw [hsettle, settled_active rfl]
      refine ⟨hinterrupted.formed, fun hunjammed => ?_⟩
      have hlast := hunjammed _ (List.mem_append_right _ (List.mem_singleton_self _))
      refine absurd ⟨w, event, hact, rfl, ?_⟩ hlast
      rcases hformed.unanswered hsilent with ⟨hjammed, -⟩ | ⟨-, hsame⟩
      · exact hjammed
      · have hdrains := hinterrupted.drains
        rw [hsame] at hdrains
        obtain ⟨_, _, _, _, _, hreopens, -⟩ := hinterrupted
        rcases hreopens.waits with hphase | hphase <;> rw [hphase] at hdrains <;>
          exact nomatch hdrains
  · intro trace engine w _ hact _ _
    obtain ⟨call, hcall, -⟩ := cancel_requested w (engine.context w)
    have hout : (WorkflowReducer.cancel w (engine.context w)).outcome = .ok call.effects := by
      rw [show WorkflowReducer.cancel w (engine.context w) = .ok call from hcall]
      rfl
    rw [cancel_active hact hout, settled_ended rfl]
    trivial
  · rintro trace entry w _ _ _ _ ⟨hformed, hbacked⟩
    exact ⟨hformed, hbacked.append fun _ hawaits => .inl hawaits⟩

/-- A step drops what it requested exactly when it is jammed. -/
theorem drops_iff {entry : EngineEntry RecordingTransferWorkflow}
    (hformed : ∀ w, entry.pre.active = some w → Formed w)
    (houtput : entry.output = (entry.pre.dispatch entry.input).2) : Drops entry ↔ Jams entry := by
  obtain ⟨engine, input, output⟩ := entry
  obtain rfl : output = (engine.dispatch input).2 := houtput
  -- without a workflow, and under a cancellation, neither happens
  cases hact : engine.active with
  | none =>
    constructor
    · rintro ⟨-, hmoves⟩
      exact absurd (congrArg WorkflowEngine.active (dispatch_ended hact input).1) hmoves
    · rintro ⟨w, _, hactive, -⟩
      exact nomatch hact.symm.trans hactive
  | some w =>
    cases input with
    | cancelled id =>
      refine ⟨?_, fun ⟨_, _, _, hinput, _⟩ => nomatch hinput⟩
      rintro ⟨hsilent, hmoves⟩
      by_cases hid : w.cancellationId = id
      · subst hid
        obtain ⟨call, hcall, -⟩ := cancel_requested w (engine.context w)
        have hout : (WorkflowReducer.cancel w (engine.context w)).outcome = .ok call.effects := by
          rw [show WorkflowReducer.cancel w (engine.context w) = .ok call from hcall]
          rfl
        have hcancel : engine.dispatch (.cancelled w.cancellationId) = _ := cancel_active hact hout
        exact absurd (congrArg Prod.snd hcancel) (hsilent call.effects)
      · exact absurd (congrArg WorkflowEngine.active (cancel_foreign hact hid).1) hmoves
    | host event =>
      have hform := hformed w hact
      have hiff : Jams ⟨engine, .host event, (engine.dispatch (.host event)).2⟩ ↔ Jammed w event := by
        constructor
        · rintro ⟨w', event', hactive, hinput, hjammed⟩
          obtain rfl := Option.some.inj (hact.symm.trans hactive)
          obtain rfl := Event.host.inj hinput
          exact hjammed
        · exact fun hjammed => ⟨w, event, hact, rfl, hjammed⟩
      rw [hiff, Drops, dispatch_active hact]
      by_cases hsilent : Unanswered (dispatch w event (engine.context w))
      · have hsettle : engine.settle (WorkflowReducer.dispatch w event (engine.context w)) = _ :=
          settle_unanswered hsilent
        rw [hsettle, hact]
        rcases hform.unanswered hsilent with ⟨hjammed, hmoves⟩ | ⟨hfree, hsame⟩
        · exact ⟨fun _ => hjammed, fun _ => ⟨hsilent, fun heq => hmoves (Option.some.inj heq)⟩⟩
        · refine ⟨fun ⟨_, hmoves⟩ => absurd (congrArg some hsame) hmoves, fun h => absurd h hfree⟩
      · refine ⟨fun ⟨hquiet, _⟩ => ?_, fun h => absurd (hform.jammed h) hsilent⟩
        rcases dispatch_cases w event (engine.context w) hform.subscribed with
          ⟨call, hcall, hstep⟩ | hignored | ⟨hsilent', -⟩
        · have hred : WorkflowReducer.dispatch w event (engine.context w) = .ok call := hcall
          rw [hred] at hquiet
          by_cases hend : call.workflow.phase = .completed ∨ call.workflow.phase = .failed
          · obtain ⟨status, hstatus⟩ := hstep.terminal hform.running hend
            rw [settle_ended rfl hstatus] at hquiet
            exact absurd rfl (hquiet call.effects)
          · rw [settle_running rfl (terminalStatus_of_running hend)] at hquiet
            exact absurd rfl (hquiet call.effects)
        · exact absurd hignored.unanswered hsilent
        · exact absurd hsilent' hsilent

end Runs

/-- A transfer moves without returning its effects exactly at the jammed callbacks, and waits for
requests of the host alone as long as none was jammed. -/
theorem awaited_requests_issued {idle engine₀ engine : WorkflowEngine RecordingTransferWorkflow}
    {command : TransferRecording} {capabilities : List Capability} {cancellationId : CancellationId}
    {started : List EffectRequest} {trace : List (EngineEntry RecordingTransferWorkflow)}
    (hstart : idle.start command capabilities cancellationId = (engine₀, .ok started))
    (hrun : EngineRun (fun _ _ _ => True) engine₀ trace engine) :
    (∀ entry ∈ trace, Drops entry ↔ Jams entry) ∧
      ((∀ entry ∈ trace, ¬Jams entry) → ∀ w id, engine.active = some w → Awaits w id →
        Requests (started ++ emitted trace) id) := by
  constructor
  · intro entry hmem
    obtain ⟨before, _, -, hbefore, -, houtput⟩ := hrun.mem hmem
    refine drops_iff (fun w hact => ?_) houtput
    exact ((settled_active hact).mp (backed hstart hbefore)).1
  · intro hunjammed w id hact
    exact ((settled_active hact).mp (backed hstart hrun)).2 hunjammed id

/-- A packet follows the EOF while the append before it is in flight. -/
def jammedEvents : List Event :=
  [.host ⟨2, .checkpointLoaded none⟩, .host ⟨3, .recordingSinkTruncated⟩,
    .host ⟨4, .ble (.subscribed CHAR_RECORDING_TRANSFER)⟩, .host ⟨5, .ble .writeCompleted⟩,
    .host (notifyEvent (dataPacket 0 [7])), .host (notifyEvent (eofPacket 1 0)),
    .host (notifyEvent (dataPacket 1 [8])), .host ⟨6, .recordingSinkAppendCompleted 1⟩]

/-- The transfer waits for the answer to a finalization that was never requested. -/
theorem jammed_transfer_waits :
    ∃ engine₀ started trace engine w id,
      WorkflowEngine.start {} sampleCommand [.ble, .persistence, .progress, .recordingSink, .timer]
        sampleCancellation = (engine₀, .ok started) ∧
      EngineRun (fun _ _ _ => True) engine₀ trace engine ∧ engine.active = some w ∧
      w.phase = .finalizing ∧ w.sinkRequestId = some id ∧
      ¬Requests (started ++ emitted trace) id := by
  refine ⟨sampleEngine, _, _, _, _, 9, rfl,
    Machine.Run.exec (Machine.allowed_true [] sampleEngine jammedEvents), rfl, rfl, rfl, ?_⟩
  rintro ⟨request, hmem, hid⟩
  revert request
  decide

/-- Until that callback the transfer waits for requests of the host. -/
theorem awaited_requests_issued_sample :
    ∃ started trace engine, EngineRun (fun _ _ _ => True) sampleEngine trace engine ∧
      trace.length = 7 ∧
      ∀ w id, engine.active = some w → Awaits w id → Requests (started ++ emitted trace) id := by
  have hstart : WorkflowEngine.start {} sampleCommand
      [.ble, .persistence, .progress, .recordingSink, .timer] sampleCancellation =
      (sampleEngine, .ok _) := rfl
  have hrun : EngineRun (fun _ _ _ => True) sampleEngine
      (Machine.exec WorkflowEngine.dispatch [] sampleEngine (jammedEvents.take 7)).1 _ :=
    Machine.Run.exec (Machine.allowed_true [] sampleEngine (jammedEvents.take 7))
  obtain ⟨hdrops, hissued⟩ := awaited_requests_issued hstart hrun
  have hanswered : ∀ entry ∈ (Machine.exec WorkflowEngine.dispatch [] sampleEngine
      (jammedEvents.take 7)).1, entry.output.isOk := by decide
  refine ⟨_, _, _, hrun, rfl, hissued fun entry hmem hjams => ?_⟩
  obtain ⟨hsilent, -⟩ := (hdrops entry hmem).mpr hjams
  have hok := hanswered entry hmem
  cases hout : entry.output with
  | ok effects => exact hsilent effects hout
  | err error => rw [hout] at hok; exact nomatch hok
  | panicked => rw [hout] at hok; exact nomatch hok

end RecordingTransferWorkflow

end BotaSdk
