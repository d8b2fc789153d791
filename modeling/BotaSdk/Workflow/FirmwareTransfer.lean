import BotaSdk.Workflow.ConnectionEffects
import BotaSdk.Workflow.ConnectionIdentity
import BotaSdk.Workflow.FirmwareUpdateSteps

/-!
# The transfer of a firmware image

What the device is sent, told from the requests and events of a run: the numbered chunks of the image,
the acknowledgements between them, and the request to verify it.
-/

namespace BotaSdk

open Protocol Connection FirmwareUpdate History Bytes

namespace FirmwareUpdateWorkflow

/-! ## What the device is sent -/

/-- The payload of a chunk that the host is asked to write. -/
def firmwareData : Effect → Option (List UInt8)
  | .ble (.write _ characteristicUuid payload _) =>
    if characteristicUuid = CHAR_RECORDING_TRANSFER then some payload else none
  | _ => none

/-- The payload of a request to verify the image. -/
def verifyPayload : Effect → Option (List UInt8)
  | .ble (.write _ characteristicUuid payload _) =>
    if characteristicUuid = CHAR_TRANSFER_CONTROL ∧ payload.head? = some FIRMWARE_UPLOAD_VERIFY then
      some payload
    else none
  | _ => none

def dataWrite : Observation → Option (List UInt8)
  | .issued _ effect => firmwareData effect
  | _ => none

/-- The chunks that were written, with their headers. -/
def dataWrites (observations : List Observation) : List (List UInt8) :=
  observations.filterMap dataWrite

/-- A chunk behind its header. -/
def frame (index : Nat) (bytes : List UInt8) : List UInt8 :=
  FIRMWARE_DATA :: (leBytes 2 (index % 65536) ++ bytes)

/-- The chunks in order, under consecutive sequence numbers. -/
def frames (chunks : List (List UInt8)) : List (List UInt8) :=
  chunks.mapIdx frame

def readChunkEffect (downloadId offset maxLength : Nat) : Effect :=
  .firmwareBlob (.readChunk downloadId offset maxLength)

def subscribeEffect : Effect :=
  .ble (.subscribe SERVICE_BOTA_STORAGE CHAR_TRANSFER_STATUS)

/-- An acknowledgement of that chunk came from the subscription, after observations with `P`. -/
def Acked (sequence : Nat) (P : List Observation → Prop) (observations : List Observation) : Prop :=
  ∃ before id value after,
    observations = before ++ .accepted ⟨id, statusNotification value⟩ :: after ∧
    Acknowledges value sequence ∧ .issued id subscribeEffect ∈ before ∧ P before

/-- The transfer has begun, and the last chunks of its first `k` windows were acknowledged one after
the other. -/
def Acknowledged : Nat → List Observation → Prop
  | 0 => fun observations =>
    ∃ id downloadId maxLength, .issued id (readChunkEffect downloadId 0 maxLength) ∈ observations
  | k + 1 => Acked ((8 * k + 7) % 65536) (Acknowledged k)

/-- What was sent so far is sound. -/
structure Lawful (size : Nat) (observations : List Observation) : Prop where
  data : ∃ chunks, dataWrites observations = frames chunks
  window : Justified (fun before effect => firmwareData effect ≠ none →
    ∀ k, 8 * k ≤ (dataWrites before).length → Acknowledged k before) observations
  verify : Justified (fun before effect => verifyPayload effect ≠ none →
    ∃ chunks, dataWrites before = frames chunks ∧ chunks.flatten.length = size) observations

/-- Neither a chunk nor a request to verify. -/
def Silent (effect : Effect) : Prop :=
  firmwareData effect = none ∧ verifyPayload effect = none

def Idle (observations : List Observation) : Prop :=
  ∀ observation ∈ observations, ∀ id effect, observation = .issued id effect → Silent effect

section Observations

variable {observations more : List Observation} {effects : List EffectRequest} {event : HostEvent}
  {sequence size : Nat} {P P' : List Observation → Prop}

@[simp] theorem dataWrites_append :
    dataWrites (observations ++ more) = dataWrites observations ++ dataWrites more :=
  List.filterMap_append

theorem Idle.dataWrites (h : Idle more) : dataWrites more = [] := by
  refine List.filterMap_eq_nil_iff.mpr fun observation hmem => ?_
  cases observation with
  | issued id effect => exact (h _ hmem id effect rfl).1
  | accepted event => rfl
  | rejected event => rfl

theorem idle_issuedBy (h : Emits Silent effects) : Idle (issuedBy effects) := by
  intro observation hmem id effect heq
  obtain ⟨request, hrequest, rfl⟩ := List.mem_map.mp hmem
  obtain ⟨rfl, rfl⟩ := Observation.issued.inj heq
  exact h request hrequest

theorem Idle.append (h : Idle observations) (hmore : Idle more) : Idle (observations ++ more) := by
  intro observation hmem
  rcases List.mem_append.mp hmem with hmem | hmem
  · exact h observation hmem
  · exact hmore observation hmem

theorem idle_issued {id : RequestId} {effect : Effect} (h : Silent effect) :
    Idle [.issued id effect] := by
  intro observation hmem other effect' heq
  obtain rfl := List.mem_singleton.mp hmem
  obtain ⟨-, rfl⟩ := Observation.issued.inj heq
  exact h

theorem idle_plain {observation : Observation} (h : ∀ id effect, observation ≠ .issued id effect) :
    Idle [observation] := by
  intro other hmem id effect heq
  obtain rfl := List.mem_singleton.mp hmem
  exact absurd heq (h id effect)

theorem idle_accepted : Idle [.accepted event] :=
  idle_plain fun _ _ heq => nomatch heq

theorem idle_rejected : Idle [.rejected event] :=
  idle_plain fun _ _ heq => nomatch heq

theorem idle_step (h : Emits Silent effects) : Idle (.accepted event :: issuedBy effects) :=
  idle_accepted.append (idle_issuedBy h)

theorem frames_concat (chunks : List (List UInt8)) (bytes : List UInt8) :
    frames (chunks ++ [bytes]) = frames chunks ++ [frame chunks.length bytes] :=
  List.mapIdx_concat

@[simp] theorem length_frames (chunks : List (List UInt8)) :
    (frames chunks).length = chunks.length :=
  List.length_mapIdx

theorem Acked.append (h : Acked sequence P observations) (more : List Observation) :
    Acked sequence P (observations ++ more) := by
  obtain ⟨before, id, value, after, rfl, hacknowledges, hsubscribed, hbefore⟩ := h
  refine ⟨before, id, value, after ++ more, ?_, hacknowledges, hsubscribed, hbefore⟩
  rw [List.append_assoc, List.cons_append]

theorem Acknowledged.append {k : Nat} (h : Acknowledged k observations)
    (more : List Observation) : Acknowledged k (observations ++ more) := by
  cases k with
  | zero =>
    obtain ⟨id, downloadId, maxLength, hmem⟩ := h
    exact ⟨id, downloadId, maxLength, List.mem_append_left _ hmem⟩
  | succ k => exact Acked.append h more

/-- Earlier windows were acknowledged before. -/
theorem Acknowledged.le {j k : Nat} (h : Acknowledged k observations) (hle : j ≤ k) :
    Acknowledged j observations := by
  induction k generalizing observations with
  | zero =>
    obtain rfl := Nat.le_zero.mp hle
    exact h
  | succ k ih =>
    rcases Nat.lt_or_eq_of_le hle with hlt | rfl
    · obtain ⟨before, id, value, after, rfl, -, -, hbefore⟩ := h
      exact (ih hbefore (Nat.le_of_lt_succ hlt)).append _
    · exact h

theorem lawful_nil : Lawful size [] :=
  ⟨⟨[], rfl⟩, justified_nil, justified_nil⟩

/-- Requests that are neither justify nothing and need no justification. -/
theorem Lawful.append (h : Lawful size observations) (hmore : Idle more) :
    Lawful size (observations ++ more) := by
  have hsilent {before after : List Observation} {id : RequestId} {effect : Effect}
      (hsplit : more = before ++ .issued id effect :: after) : Silent effect :=
    hmore _ (by rw [hsplit]; simp) id effect rfl
  obtain ⟨chunks, hchunks⟩ := h.data
  refine ⟨⟨chunks, ?_⟩, ?_, ?_⟩
  · rw [dataWrites_append, hmore.dataWrites, List.append_nil, hchunks]
  · exact h.window.append fun before id effect after hsplit hdata =>
      absurd (hsilent hsplit).1 hdata
  · exact h.verify.append fun before id effect after hsplit hverify =>
      absurd (hsilent hsplit).2 hverify

/-- The one request of a singleton. -/
theorem issued_singleton {before after : List Observation} {id other : RequestId}
    {effect effect' : Effect}
    (heq : [Observation.issued id effect] = before ++ .issued other effect' :: after) :
    before = [] ∧ effect' = effect := by
  rcases List.singleton_eq_append_iff.mp heq with ⟨rfl, hlast⟩ | ⟨-, hnil⟩
  · obtain ⟨hissued, -⟩ := List.cons.inj hlast
    exact ⟨rfl, (Observation.issued.inj hissued).2⟩
  · exact nomatch hnil

/-- One more chunk. -/
theorem Lawful.chunk (h : Lawful size observations) {id : RequestId} {effect : Effect}
    {chunks : List (List UInt8)} {bytes : List UInt8}
    (hchunks : dataWrites observations = frames chunks)
    (hdata : firmwareData effect = some (frame chunks.length bytes))
    (hverify : verifyPayload effect = none)
    (hwindow : Acknowledged (chunks.length / 8) observations) :
    Lawful size (observations ++ [.issued id effect]) := by
  refine ⟨⟨chunks ++ [bytes], ?_⟩, ?_, ?_⟩
  · have hlast : dataWrites [.issued id effect] = [frame chunks.length bytes] := by
      simp only [dataWrites, List.filterMap_cons, dataWrite, hdata, List.filterMap_nil]
    rw [dataWrites_append, hchunks, hlast, frames_concat]
  · refine h.window.append fun before other effect' after heq _ k hk => ?_
    obtain ⟨rfl, rfl⟩ := issued_singleton heq
    rw [List.append_nil, hchunks, length_frames] at hk
    rw [List.append_nil]
    exact hwindow.le (by omega)
  · refine h.verify.append fun before other effect' after heq hne => ?_
    obtain ⟨rfl, rfl⟩ := issued_singleton heq
    exact absurd hverify hne

/-- The request to verify comes after all bytes. -/
theorem Lawful.verifies (h : Lawful size observations) {id : RequestId} {effect : Effect}
    {chunks : List (List UInt8)} (hchunks : dataWrites observations = frames chunks)
    (hsize : chunks.flatten.length = size) (hdata : firmwareData effect = none) :
    Lawful size (observations ++ [.issued id effect]) := by
  refine ⟨⟨chunks, ?_⟩, ?_, ?_⟩
  · have hlast : dataWrites [.issued id effect] = [] := by
      simp only [dataWrites, List.filterMap_cons, dataWrite, hdata, List.filterMap_nil]
    rw [dataWrites_append, hchunks, hlast, List.append_nil]
  · refine h.window.append fun before other effect' after heq hne => ?_
    obtain ⟨rfl, rfl⟩ := issued_singleton heq
    exact absurd hdata hne
  · refine h.verify.append fun before other effect' after heq _ => ?_
    obtain ⟨rfl, rfl⟩ := issued_singleton heq
    rw [List.append_nil]
    exact ⟨chunks, hchunks, hsize⟩

end Observations

/-! ## Requests of the shared parts -/

/-- What an update asks for besides the transfer itself and its completion. -/
inductive Side : Effect → Prop
  | connection {effect : Effect} : ConnectionWorkflow.Kind effect → Side effect
  | progress (value : FirmwareUpdateProgress) : Side (.notify (.firmwareProgress value))
  | cancelled : Side (.notify (.cancelled .updateFirmware))
  | download (downloadId : Nat) : Side (.network (.download downloadId))
  | subscribe : Side subscribeEffect
  | unsubscribe : Side (.ble (.unsubscribe SERVICE_BOTA_STORAGE CHAR_TRANSFER_STATUS))
  | start (sizeBytes : UInt32) : Side (.ble (.write SERVICE_BOTA_STORAGE CHAR_TRANSFER_CONTROL
      (encodeFirmwareUploadStart sizeBytes) true))
  | version : Side (.ble (.read SERVICE_DEVICE_INFO CHAR_FIRMWARE_REVISION))

/-- A property that all of these have. -/
class Admits (P : Effect → Prop) : Prop where
  side : ∀ effect, Side effect → P effect

instance : Admits Silent where
  side effect h := by
    cases h with
    | connection h =>
      cases effect with
      | ble effect =>
        cases effect with
        | write => exact h.elim
        | _ => exact ⟨rfl, rfl⟩
      | _ => exact ⟨rfl, rfl⟩
    | _ => exact ⟨rfl, rfl⟩

section Parts

variable {call : Call} {w : FirmwareUpdateWorkflow} {context : WorkflowContext}
  {P : Effect → Prop} [Admits P]

theorem emits_side {track : RequestId → FirmwareUpdateWorkflow → FirmwareUpdateWorkflow}
    {effect : Effect} (h : Emits P call.effects) (hside : Side effect) :
    Emits P (call.request effect track).effects :=
  h.request (Admits.side effect hside)

theorem emits_filter {effects : List EffectRequest} (h : Emits ConnectionWorkflow.Kind effects) :
    Emits ConnectionWorkflow.Kind (filterConnectionEffects effects) :=
  fun request hmem => h request (List.mem_of_mem_filter hmem)

theorem emits_checkpoint (h : Emits P call.effects) (phase : CheckpointPhase) :
    Emits P (checkpoint phase call).effects :=
  emits_side h (.connection trivial)

theorem emits_progress (h : Emits P call.effects) (phase : FirmwareUpdatePhase)
    (completed total : Nat) : Emits P (progress phase completed total call).effects :=
  emits_side h (.progress _)

theorem emits_schedule (h : Emits P call.effects) (timerId delayMs : Nat) :
    Emits P (scheduleTimer timerId delayMs call).effects :=
  emits_side (h.update _) (.connection trivial)

theorem emits_cancelTimer (h : Emits P call.effects) : Emits P (cancelTimer call).effects := by
  unfold cancelTimer
  simp only
  split
  · exact h
  · exact emits_side ((h.update _).update _) (.connection trivial)

theorem emits_cancelReconnectTimer (h : Emits P call.effects) :
    Emits P (cancelReconnectTimer call).effects := by
  unfold cancelReconnectTimer
  split
  · exact h
  · exact emits_side (h.update _) (.connection trivial)

theorem emits_unsubscribe (h : Emits P call.effects) : Emits P (unsubscribe call).effects := by
  unfold unsubscribe
  split
  · exact h
  · exact emits_side (h.update _) .unsubscribe

theorem emits_fail (h : Emits P call.effects) (error : DeviceSdkError) :
    Emits P (fail error call).effects :=
  emits_side (emits_unsubscribe (emits_cancelReconnectTimer (emits_cancelTimer (h.update _))))
    (.connection trivial)

theorem emits_complete (h : Emits P call.effects) (hcompleted : P (.notify (.completed .updateFirmware))) :
    Emits P (complete call).effects := by
  unfold complete
  have hdelete : Side (.persistence .deleteCheckpoint) := .connection trivial
  refine Emits.request (emits_progress (emits_side ?_ hdelete) _ _ _) hcompleted
  exact emits_unsubscribe (emits_cancelReconnectTimer (emits_cancelTimer (h.update _)))

theorem emits_beginDownload (h : Emits P call.effects) :
    Emits P (beginDownload call).effects := by
  unfold beginDownload
  exact (emits_progress (h.update _).allocate _ _ _).push (Admits.side _ (.download _))

theorem emits_subscribe (h : Emits P call.effects) : Emits P (subscribe call).effects := by
  unfold subscribe
  exact (emits_progress (h.update _).allocate _ _ _).push (Admits.side _ .subscribe)

theorem emits_writeStart (h : Emits P call.effects) : Emits P (writeStart call).effects :=
  emits_side (h.update _) (.start _)

theorem emits_waitForAck (h : Emits P call.effects) (sequence : Nat) :
    Emits P (waitForAck sequence call).effects :=
  emits_schedule (h.update _) _ _

theorem emits_readVersion (h : Emits P call.effects) : Emits P (readVersion call).effects :=
  emits_side (h.update _) .version

theorem emits_beginReboot (h : Emits P call.effects) : Emits P (beginReboot call).effects :=
  emits_schedule (emits_progress (emits_cancelTimer (h.update _)) _ _ _) _ _

/-- The requests of a nested call are added. -/
theorem emits_adopt (h : Emits P call.effects) {step : Step ConnectionWorkflow}
    (hstep : Emits ConnectionWorkflow.Kind step.effects) :
    Emits P (adopt (.ok step) call).effects :=
  h.append ((emits_filter hstep).mono fun _ hkind => Admits.side _ (.connection hkind))

/-- A reconnection is started by a call that returns. -/
theorem startReconnectAttempt_adopts (call : Call) :
    ∃ step : Step ConnectionWorkflow,
      (ConnectionWorkflow.reconnect call.workflow.device call.workflow.reconnectHint
        call.workflow.cancellationId).start call.context = .ok step ∧
      startReconnectAttempt call =
        adopt (.ok step) (call.update fun w => { w with phase := .reconnecting }) :=
  ⟨_, rfl, rfl⟩

theorem emits_startReconnectAttempt (h : Emits P call.effects) :
    Emits P (startReconnectAttempt call).effects := by
  obtain ⟨step, hstart, heq⟩ := startReconnectAttempt_adopts call
  rw [heq]
  exact emits_adopt (h.update _) (ConnectionWorkflow.emits_start hstart)

theorem emits_beginReconnect (h : Emits P call.effects) :
    Emits P (beginReconnect call).effects := by
  unfold beginReconnect
  refine emits_startReconnectAttempt (emits_side ?_ (.connection trivial))
  exact emits_checkpoint (emits_progress h _ _ _) _

theorem emits_cancelConnection (h : Emits P call.effects) :
    Emits P (cancelConnection call).effects := by
  unfold cancelConnection
  split
  · exact h
  · exact emits_adopt h (ConnectionWorkflow.emits_cancel rfl)

end Parts

theorem emits_begin {P : Effect → Prop} {w : FirmwareUpdateWorkflow} {context : WorkflowContext} :
    Emits P (Step.begin w context).effects :=
  emits_nil

/-! ## Stages of the transfer -/

/-- The latest acknowledgement closed the window before, or it came since. -/
def Fresh (k : Nat) (latestAck : Option Nat) (observations : List Observation) : Prop :=
  ∀ sequence, latestAck = some sequence →
    (∃ j, k = j + 1 ∧ sequence = (8 * j + 7) % 65536) ∨ Acked sequence (Acknowledged k) observations

/-- These chunks are written, and the next one may be read. -/
structure Between (observations : List Observation) (chunks : List (List UInt8))
    (size offset nextSequence : Nat) (latestAck : Option Nat) : Prop where
  sent : dataWrites observations = frames chunks
  offset : offset = chunks.flatten.length
  sequence : nextSequence = chunks.length % 65536
  size : chunks.flatten.length ≤ size
  window : chunks ≠ [] → Acknowledged (chunks.length / 8) observations
  fresh : Fresh (chunks.length / 8) latestAck observations

/-- The next of these chunks is read. -/
structure Reading (observations : List Observation) (chunks : List (List UInt8))
    (size offset nextSequence : Nat) (latestAck blobRequestId : Option Nat) (downloadId : Nat) :
    Prop where
  between : Between observations chunks size offset nextSequence latestAck
  more : offset < size
  request : ∃ id, blobRequestId = some id ∧ .issued id (readChunkEffect downloadId offset
    (min (size - offset) FIRMWARE_CHUNK_SIZE)) ∈ observations

/-- The last of these chunks is being written. -/
structure Writing (observations : List Observation) (chunks : List (List UInt8))
    (bytes : List UInt8) (size offset pending nextSequence : Nat) (latestAck : Option Nat) :
    Prop where
  sent : dataWrites observations = frames (chunks ++ [bytes])
  offset : offset = chunks.flatten.length
  pending : pending = bytes.length
  sequence : nextSequence = chunks.length % 65536
  size : chunks.flatten.length + bytes.length ≤ size
  window : Acknowledged (chunks.length / 8) observations
  fresh : Fresh (chunks.length / 8) latestAck observations

/-- A window of chunks is written, its acknowledgement is awaited. -/
structure Waiting (observations : List Observation) (chunks : List (List UInt8)) (k : Nat)
    (size offset nextSequence : Nat) (waitingAck : Option Nat) : Prop where
  sent : dataWrites observations = frames chunks
  offset : offset = chunks.flatten.length
  sequence : nextSequence = chunks.length % 65536
  size : chunks.flatten.length ≤ size
  count : chunks.length = 8 * (k + 1)
  window : Acknowledged k observations
  waiting : waitingAck = some ((8 * k + 7) % 65536)

/-- All bytes were sent before the device was asked to verify them. -/
def Asked (size : Nat) (observations : List Observation) : Prop :=
  ∃ before id effect after, observations = before ++ .issued id effect :: after ∧
    verifyPayload effect ≠ none ∧
    ∃ chunks, dataWrites before = frames chunks ∧ chunks.flatten.length = size

/-- What a phase knows of the transfer. -/
def Stage (observations : List Observation) (w : FirmwareUpdateWorkflow) : Prop :=
  match w.phase with
  | .loadingCheckpoint | .downloading | .subscribing | .starting | .awaitingReady =>
    dataWrites observations = []
  | .readingChunk => ∃ chunks, Reading observations chunks w.sizeBytes w.offset w.nextSequence
      w.latestAck w.blobRequestId w.downloadId
  | .writingChunk => ∃ chunks bytes, Writing observations chunks bytes w.sizeBytes w.offset
      w.pendingChunkUnits w.nextSequence w.latestAck
  | .waitingAck => ∃ chunks k, Waiting observations chunks k w.sizeBytes w.offset w.nextSequence
      w.waitingAck
  | .verifying | .awaitingVerify => Asked w.sizeBytes observations
  | _ => True

section Stages

variable {observations more : List Observation} {chunks : List (List UInt8)} {bytes : List UInt8}
  {k size offset pending nextSequence downloadId : Nat}
  {latestAck waitingAck blobRequestId : Option Nat} {w : FirmwareUpdateWorkflow}

theorem Fresh.append (h : Fresh k latestAck observations) (more : List Observation) :
    Fresh k latestAck (observations ++ more) :=
  fun sequence heq => (h sequence heq).imp id fun hacked => hacked.append more

theorem fresh_none : Fresh k none observations :=
  fun _ h => nomatch h

/-- An acknowledgement that arrives now. -/
theorem acked_now {id : RequestId} {value : List UInt8} {sequence : Nat}
    (hacknowledges : Acknowledges value sequence) (hsubscribed : .issued id subscribeEffect ∈ observations)
    {P : List Observation → Prop} (h : P observations) (more : List Observation) :
    Acked sequence P (observations ++ .accepted ⟨id, statusNotification value⟩ :: more) :=
  ⟨observations, id, value, more, rfl, hacknowledges, hsubscribed, h⟩

/-- The acknowledgement of the window's last chunk is none of the window before. -/
theorem Fresh.closes (h : Fresh k latestAck observations)
    (hlatest : latestAck = some ((8 * k + 7) % 65536)) : Acknowledged (k + 1) observations := by
  rcases h _ hlatest with ⟨j, rfl, hsame⟩ | hacked
  · omega
  · exact hacked

theorem fresh_closed (hlatest : latestAck = some ((8 * k + 7) % 65536)) :
    Fresh (k + 1) latestAck observations := by
  intro sequence hsome
  obtain rfl := Option.some.inj (hlatest.symm.trans hsome)
  exact .inl ⟨k, rfl, rfl⟩

theorem sent_append (h : dataWrites observations = frames chunks) (hmore : Idle more) :
    dataWrites (observations ++ more) = frames chunks := by
  rw [dataWrites_append, hmore.dataWrites, List.append_nil, h]

theorem Between.append (h : Between observations chunks size offset nextSequence latestAck)
    (hmore : Idle more) :
    Between (observations ++ more) chunks size offset nextSequence latestAck :=
  { h with
    sent := sent_append h.sent hmore
    window := fun hne => (h.window hne).append more
    fresh := h.fresh.append more }

theorem Reading.append (h : Reading observations chunks size offset nextSequence latestAck
    blobRequestId downloadId) (hmore : Idle more) :
    Reading (observations ++ more) chunks size offset nextSequence latestAck blobRequestId
      downloadId := by
  obtain ⟨id, hid, hmem⟩ := h.request
  exact ⟨h.between.append hmore, h.more, id, hid, List.mem_append_left _ hmem⟩

/-- The request for the first chunk is where the transfer begins. -/
theorem Reading.window (h : Reading observations chunks size offset nextSequence latestAck
    blobRequestId downloadId) : Acknowledged (chunks.length / 8) observations := by
  by_cases hnil : chunks = []
  · obtain ⟨id, -, hmem⟩ := h.request
    rw [h.between.offset, hnil, List.flatten_nil, List.length_nil] at hmem
    rw [hnil, List.length_nil, Nat.zero_div]
    exact ⟨id, _, _, hmem⟩
  · exact h.between.window hnil

theorem Writing.append
    (h : Writing observations chunks bytes size offset pending nextSequence latestAck)
    (hmore : Idle more) :
    Writing (observations ++ more) chunks bytes size offset pending nextSequence latestAck :=
  { h with
    sent := sent_append h.sent hmore
    window := h.window.append more
    fresh := h.fresh.append more }

theorem Waiting.append (h : Waiting observations chunks k size offset nextSequence waitingAck)
    (hmore : Idle more) :
    Waiting (observations ++ more) chunks k size offset nextSequence waitingAck :=
  { h with sent := sent_append h.sent hmore, window := h.window.append more }

theorem Asked.append (h : Asked size observations) (more : List Observation) :
    Asked size (observations ++ more) := by
  obtain ⟨before, id, effect, after, rfl, hverify, hchunks⟩ := h
  refine ⟨before, id, effect, after ++ more, ?_, hverify, hchunks⟩
  rw [List.append_assoc, List.cons_append]

theorem Stage.append (h : Stage observations w) (hmore : Idle more) :
    Stage (observations ++ more) w := by
  have hunsent (h : dataWrites observations = []) : dataWrites (observations ++ more) = [] := by
    rw [dataWrites_append, h, hmore.dataWrites]
    rfl
  unfold Stage at h ⊢
  cases hphase : w.phase
  all_goals rw [hphase] at h
  case readingChunk =>
    obtain ⟨chunks, h⟩ := h
    exact ⟨chunks, h.append hmore⟩
  case writingChunk =>
    obtain ⟨chunks, bytes, h⟩ := h
    exact ⟨chunks, bytes, h.append hmore⟩
  case waitingAck =>
    obtain ⟨chunks, k, h⟩ := h
    exact ⟨chunks, k, h.append hmore⟩
  case verifying => exact Asked.append h more
  case awaitingVerify => exact Asked.append h more
  all_goals first | exact hunsent h | trivial

end Stages

/-! ## A step of the transfer -/

section Steps

variable {w : FirmwareUpdateWorkflow} {context : WorkflowContext} {call : Call} {event : HostEvent}
  {observations base : List Observation} {chunks : List (List UInt8)}

theorem sizeBytes_lt (w : FirmwareUpdateWorkflow) : w.sizeBytes < 4294967296 :=
  w.image.sizeBytes.toNat_lt

/-- The stage and the soundness of what was sent, after a call. -/
def Sound (observations : List Observation) (w : FirmwareUpdateWorkflow) : Prop :=
  Stage observations w ∧ Lawful w.sizeBytes observations

theorem sound_of_quiet {size : Nat} (h : Lawful size observations) (hsize : call.workflow.sizeBytes = size)
    (hemits : Emits Silent call.effects)
    (hstage : Stage (observations ++ .accepted event :: issuedBy call.effects) call.workflow) :
    Sound (observations ++ .accepted event :: issuedBy call.effects) call.workflow := by
  refine ⟨hstage, ?_⟩
  rw [hsize]
  exact h.append (idle_step hemits)

theorem writeVerify_effects (call : Call) :
    ∃ front, (writeVerify call).effects = front ++ [⟨call.context.nextRequestId,
        call.context.operation, call.context.cancellationId,
        .ble (.write SERVICE_BOTA_STORAGE CHAR_TRANSFER_CONTROL
          (encodeFirmwareUploadVerify call.workflow.image.crc32) true)⟩] ∧
      (Emits Silent call.effects → Emits Silent front) :=
  ⟨_, rfl, fun h => emits_progress (h.update _).allocate _ _ _⟩

theorem issuedBy_singleton (request : EffectRequest) :
    issuedBy [request] = [.issued request.requestId request.effect] := rfl

/-- After the last byte the device is asked to verify the image, before it the next chunk is read. -/
theorem Between.sound (chunks : List (List UInt8))
    (h : Between base chunks call.workflow.sizeBytes call.workflow.offset
      call.workflow.nextSequence call.workflow.latestAck)
    (hlawful : Lawful call.workflow.sizeBytes base) (hemits : Emits Silent call.effects) :
    Sound (base ++ issuedBy (readNextOrVerify call).effects) (readNextOrVerify call).workflow := by
  rcases readNextOrVerify_cases call with ⟨hdone, heq⟩ | ⟨hmore, hworkflow, heffects⟩
  · rw [heq]
    obtain ⟨front, heffects, hfront⟩ := writeVerify_effects call
    have hidle := idle_issuedBy (hfront hemits)
    have hsent := sent_append h.sent hidle
    have hall : chunks.flatten.length = call.workflow.sizeBytes := by
      have hle := h.size
      rw [h.offset] at hdone
      omega
    rw [heffects, issuedBy_append, issuedBy_singleton, ← List.append_assoc, writeVerify_workflow]
    refine ⟨?_, (hlawful.append hidle).verifies hsent hall rfl⟩
    exact ⟨_, _, _, [], rfl, nofun, chunks, hsent, hall⟩
  · rw [heffects, hworkflow, issuedBy_append, issuedBy_singleton, ← List.append_assoc]
    have hidle := idle_issuedBy hemits
    have hread {id : RequestId} {downloadId offset maxLength : Nat} :
        Idle [.issued id (readChunkEffect downloadId offset maxLength)] :=
      idle_issued ⟨rfl, rfl⟩
    refine ⟨⟨chunks, (h.append hidle).append hread, hmore, _, rfl, ?_⟩,
      (hlawful.append hidle).append hread⟩
    exact List.mem_append_right _ List.mem_cons_self

/-- The transfer starts from zero. -/
theorem beginTransfer_sound (hunsent : dataWrites base = []) (hlawful : Lawful call.workflow.sizeBytes base)
    (hemits : Emits Silent call.effects) :
    Sound (base ++ issuedBy (beginTransfer call).effects) (beginTransfer call).workflow := by
  unfold beginTransfer
  refine Between.sound [] ?_ ?_ (emits_cancelTimer (Emits.update hemits _))
  · simp only [cancelTimer_workflow, Step.update_workflow]
    exact ⟨hunsent, rfl, rfl, Nat.zero_le _, fun hne => absurd rfl hne, fresh_none⟩
  · rw [cancelTimer_workflow]
    exact hlawful

/-- A chunk is written behind its header. -/
theorem chunkRead_sound {id : RequestId} {bytes : List UInt8} (hphase : w.phase = .readingChunk)
    (hstage : Stage observations w) (hlawful : Lawful w.sizeBytes observations)
    (hsize : bytes.length ≤ FIRMWARE_CHUNK_SIZE) (hremaining : bytes.length ≤ w.sizeBytes - w.offset)
    (hwrite : writeChunk bytes (.begin { w with blobRequestId := none } context) = .ok call) :
    Sound (observations ++ .accepted ⟨id, .firmwareChunkRead w.downloadId w.offset bytes⟩ ::
      issuedBy call.effects) call.workflow := by
  rw [writeChunk_ok hsize] at hwrite
  obtain rfl := Reduction.ok_injective hwrite
  rw [Stage, hphase] at hstage
  obtain ⟨chunks, hreading⟩ := hstage
  have hidle : Idle [.accepted ⟨id, .firmwareChunkRead w.downloadId w.offset bytes⟩] := idle_accepted
  have hread := hreading.append hidle
  have hheader : firmwareData (.ble (.write SERVICE_BOTA_STORAGE CHAR_RECORDING_TRANSFER
      (FIRMWARE_DATA :: (leBytes 2 w.nextSequence ++ bytes)) false)) =
        some (frame chunks.length bytes) := by
    rw [hreading.between.sequence]
    rfl
  rw [List.append_cons]
  refine ⟨⟨chunks, bytes, ?_, hread.between.offset, rfl, hread.between.sequence, ?_,
    hread.window.append _, hread.between.fresh.append _⟩, ?_⟩
  · have hlast : dataWrites (issuedBy [⟨context.nextRequestId, context.operation,
        context.cancellationId, .ble (.write SERVICE_BOTA_STORAGE CHAR_RECORDING_TRANSFER
          (FIRMWARE_DATA :: (leBytes 2 w.nextSequence ++ bytes)) false)⟩]) =
        [frame chunks.length bytes] := by
      simp only [dataWrites, issuedBy_singleton, List.filterMap_cons, dataWrite, hheader,
        List.filterMap_nil]
    rw [dataWrites_append, hread.between.sent, frames_concat]
    exact congrArg _ hlast
  · show chunks.flatten.length + bytes.length ≤ w.sizeBytes
    have hmore := hreading.more
    have hoffset := hreading.between.offset
    omega
  · exact (hlawful.append idle_accepted).chunk hread.between.sent hheader rfl hread.window

/-- The step after a chunk was written. -/
theorem Writing.written {bytes : List UInt8} {latestAck : Option Nat} {size offset nextSequence : Nat}
    (h : Writing observations chunks bytes size offset bytes.length nextSequence latestAck)
    (hsize : size < 4294967296) :
    saturatingAdd offset bytes.length = (chunks ++ [bytes]).flatten.length ∧
      (nextSequence + 1) % 65536 = (chunks ++ [bytes]).length % 65536 ∧
      (chunks ++ [bytes]).flatten.length ≤ size := by
  have hflatten : (chunks ++ [bytes]).flatten.length = chunks.flatten.length + bytes.length := by
    rw [List.flatten_append, List.length_append, List.flatten_singleton]
  have hoffset := h.offset
  have hsequence := h.sequence
  have hle := h.size
  refine ⟨?_, ?_, by omega⟩
  · rw [hflatten, saturatingAdd, U64_MAX]
    omega
  · rw [List.length_append, List.length_singleton, hsequence]
    omega

theorem chunkWritten_sound {id : RequestId} (hphase : w.phase = .writingChunk)
    (hstage : Stage observations w) (hlawful : Lawful w.sizeBytes observations) :
    Sound (observations ++ .accepted ⟨id, .ble .writeCompleted⟩ ::
      issuedBy (chunkWritten (.begin w context)).effects)
      (chunkWritten (.begin w context)).workflow := by
  rw [Stage, hphase] at hstage
  obtain ⟨chunks, bytes, hwriting⟩ := hstage
  have hidle : Idle [.accepted ⟨id, .ble .writeCompleted⟩] := idle_accepted
  have hwritten := hwriting.append hidle
  have hlawful := hlawful.append hidle
  rw [hwriting.pending] at hwritten
  obtain ⟨hoffset, hsequence, hsize⟩ := hwritten.written (sizeBytes_lt w)
  rw [← hwriting.pending] at hoffset
  rw [List.append_cons]
  -- the call before the next chunk is read or the acknowledgement awaited
  obtain ⟨ready, hready⟩ : ∃ ready : Call, ready =
      progress .transferring (saturatingAdd w.offset w.pendingChunkUnits) w.sizeBytes
        (checkpoint .transferring ((Step.begin w context).update fun w =>
          { w with
            writeRequestId := none, nextSequence := (w.nextSequence + 1) % 65536
            offset := saturatingAdd w.offset w.pendingChunkUnits, pendingChunkUnits := 0 })) :=
    ⟨_, rfl⟩
  have hemits : Emits Silent ready.effects := by
    rw [hready]
    exact emits_progress (emits_checkpoint (Emits.update emits_begin _) _) _ _ _
  have hworkflow : ready.workflow.nextSequence = (w.nextSequence + 1) % 65536 ∧
      ready.workflow.offset = saturatingAdd w.offset w.pendingChunkUnits ∧
      ready.workflow.sizeBytes = w.sizeBytes ∧ ready.workflow.latestAck = w.latestAck := by
    rw [hready]
    exact ⟨rfl, rfl, rfl, rfl⟩
  obtain ⟨hnext, hready_offset, hready_size, hlatest⟩ := hworkflow
  have hcall : chunkWritten (.begin w context) =
      if ready.workflow.nextSequence % ACK_WINDOW = 0 then
        if ready.workflow.latestAck = some w.nextSequence then readNextOrVerify ready
        else waitForAck w.nextSequence ready
      else readNextOrVerify ready := by
    rw [hready]
    rfl
  have hcount : (chunks ++ [bytes]).length = chunks.length + 1 := by
    rw [List.length_append, List.length_singleton]
  have hsent := hwriting.sequence
  have hreads (hwindow : Acknowledged ((chunks ++ [bytes]).length / 8)
        (observations ++ [.accepted ⟨id, .ble .writeCompleted⟩]))
      (hfresh : Fresh ((chunks ++ [bytes]).length / 8) w.latestAck
        (observations ++ [.accepted ⟨id, .ble .writeCompleted⟩])) :
      Sound (observations ++ [.accepted ⟨id, .ble .writeCompleted⟩] ++
        issuedBy (readNextOrVerify ready).effects) (readNextOrVerify ready).workflow := by
    refine Between.sound (chunks ++ [bytes]) ?_ (by rw [hready_size]; exact hlawful) hemits
    rw [hready_size, hready_offset, hnext, hlatest]
    exact ⟨hwritten.sent, hoffset, hsequence, hsize, fun _ => hwindow, hfresh⟩
  rw [hcall, hnext]
  by_cases hfull : (w.nextSequence + 1) % 65536 % ACK_WINDOW = 0
  · have hmultiple : (chunks.length + 1) % 8 = 0 := by
      rw [ACK_WINDOW] at hfull
      omega
    have hwindow : (chunks ++ [bytes]).length / 8 = chunks.length / 8 + 1 := by omega
    have hlast : w.nextSequence = (8 * (chunks.length / 8) + 7) % 65536 := by omega
    rw [if_pos hfull, hlatest]
    by_cases hearly : w.latestAck = some w.nextSequence
    · -- the acknowledgement came before the write was reported
      rw [if_pos hearly]
      rw [hlast] at hearly
      rw [hwindow] at hreads
      exact hreads (hwritten.fresh.closes hearly) (fresh_closed hearly)
    · rw [if_neg hearly]
      have hidle := idle_issuedBy (emits_waitForAck hemits w.nextSequence)
      refine ⟨?_, ?_⟩
      · rw [Stage, waitForAck_workflow]
        refine ⟨chunks ++ [bytes], chunks.length / 8, sent_append hwritten.sent hidle, ?_, ?_, ?_,
          by omega, hwritten.window.append _, congrArg some hlast⟩
        · exact hready_offset.trans hoffset
        · exact hnext.trans hsequence
        · exact hsize.trans (Nat.le_of_eq hready_size.symm)
      · rw [waitForAck_workflow]
        exact Eq.mpr (congrArg (Lawful · _) hready_size) (hlawful.append hidle)
  · have hwindow : (chunks ++ [bytes]).length / 8 = chunks.length / 8 := by
      rw [ACK_WINDOW] at hfull
      omega
    rw [if_neg hfull]
    rw [hwindow] at hreads
    exact hreads hwritten.window hwritten.fresh

theorem ackAwaited_sound {id : RequestId} {value : List UInt8} {sequence : Nat}
    (hphase : w.phase = .waitingAck) (hwaiting : w.waitingAck = some sequence)
    (hsubscribed : .issued id subscribeEffect ∈ observations)
    (hacknowledges : Acknowledges value sequence)
    (hstage : Stage observations w) (hlawful : Lawful w.sizeBytes observations) :
    Sound (observations ++ .accepted ⟨id, statusNotification value⟩ ::
      issuedBy (readNextOrVerify (cancelTimer (.begin { w with
        latestAck := some sequence, waitingAck := none } context))).effects)
      (readNextOrVerify (cancelTimer (.begin { w with
        latestAck := some sequence, waitingAck := none } context))).workflow := by
  rw [Stage, hphase] at hstage
  obtain ⟨chunks, k, h⟩ := hstage
  obtain rfl := Option.some.inj (hwaiting.symm.trans h.waiting)
  have hclosed : Acknowledged (k + 1)
      (observations ++ [.accepted ⟨id, statusNotification value⟩]) :=
    acked_now hacknowledges hsubscribed h.window []
  have hwindow : chunks.length / 8 = k + 1 := by
    rw [h.count]
    omega
  rw [List.append_cons]
  refine Between.sound chunks ?_ ?_ (emits_cancelTimer emits_begin)
  · rw [cancelTimer_workflow]
    refine ⟨sent_append h.sent idle_accepted, h.offset, h.sequence, h.size, fun _ => ?_, ?_⟩
    · rw [hwindow]
      exact hclosed
    · rw [hwindow]
      exact fresh_closed rfl
  · rw [cancelTimer_workflow]
    exact hlawful.append idle_accepted

end Steps

/-! ## Subscriptions and connections -/

section Kept

variable {w : FirmwareUpdateWorkflow} {context : WorkflowContext} {call : Call} {event : HostEvent}
  {observations more : List Observation} {id : RequestId}

theorem readNextOrVerify_subscription (call : Call) :
    (readNextOrVerify call).workflow.subscriptionRequestId =
      call.workflow.subscriptionRequestId := by
  rcases readNextOrVerify_cases call with ⟨-, heq⟩ | ⟨-, hworkflow, -⟩
  · rw [heq]
    rfl
  · rw [hworkflow]

theorem beginTransfer_subscription (call : Call) :
    (beginTransfer call).workflow.subscriptionRequestId = call.workflow.subscriptionRequestId := by
  unfold beginTransfer
  rw [readNextOrVerify_subscription, cancelTimer_workflow]
  rfl

/-- The request of a new subscription is the last one of its call. -/
theorem subscribe_issued (call : Call) :
    .issued call.context.nextRequestId subscribeEffect ∈ issuedBy (subscribe call).effects := by
  unfold subscribe
  rw [Step.push, issuedBy_append]
  exact List.mem_append_right _ List.mem_cons_self

/-- A subscription is kept, ended or requested. -/
theorem Transition.subscription (h : Transition w context event call)
    (hid : call.workflow.subscriptionRequestId = some id) :
    w.subscriptionRequestId = some id ∨ .issued id subscribeEffect ∈ issuedBy call.effects := by
  -- two steps subscribe; the others keep the subscription or drop it
  cases h with
  | failed | reconnectTimedOut | connectionFails =>
    rw [fail_workflow] at hid
    exact nomatch hid
  | versionRead =>
    rw [complete_workflow] at hid
    exact nomatch hid
  | retried =>
    obtain ⟨connection, hworkflow⟩ :=
      startReconnectAttempt_workflow (cancelTimer (.begin w context))
    rw [hworkflow, cancelTimer_workflow] at hid
    exact .inl hid
  | connectionCompletes =>
    rw [readVersion_workflow, cancelReconnectTimer_workflow] at hid
    exact .inl hid
  | transferBegins =>
    rw [beginTransfer_subscription] at hid
    exact .inl hid
  | ackAwaited =>
    rw [readNextOrVerify_subscription, cancelTimer_workflow] at hid
    exact .inl hid
  | rebootBegins =>
    unfold beginReboot at hid
    rw [scheduleTimer_workflow, progress_workflow, cancelTimer_workflow] at hid
    exact .inl hid
  | rebooted =>
    obtain ⟨connection, ids, timer, hworkflow⟩ :=
      beginReconnect_workflow (unsubscribe (cancelTimer (.begin w context)))
    rw [hworkflow, unsubscribe_workflow] at hid
    exact nomatch hid
  | checkpointLoaded checkpoint =>
    unfold FirmwareUpdateWorkflow.checkpointLoaded at hid ⊢
    simp only at hid ⊢
    split at hid
    · exact .inl hid
    · split at hid
      · obtain ⟨connection, ids, timer, hworkflow⟩ := beginReconnect_workflow
          (((Step.begin w context).update fun w => { w with loadRequestId := none }).update _)
        rw [hworkflow] at hid
        exact .inl hid
      · obtain rfl := Option.some.inj hid
        exact .inr (subscribe_issued _)
      · obtain rfl := Option.some.inj hid
        exact .inr (subscribe_issued _)
      · exact .inl hid
  | downloadCompleted crc32 =>
    obtain rfl := Option.some.inj hid
    exact .inr (subscribe_issued _)
  | startWritten =>
    unfold FirmwareUpdateWorkflow.startWritten at hid
    simp only at hid
    split at hid
    · rw [beginTransfer_subscription] at hid
      exact .inl hid
    · exact .inl hid
  | chunkWritten =>
    unfold FirmwareUpdateWorkflow.chunkWritten at hid
    simp only at hid
    split at hid
    · split at hid
      · rw [readNextOrVerify_subscription] at hid
        exact .inl hid
      · exact .inl hid
    · rw [readNextOrVerify_subscription] at hid
      exact .inl hid
  | verifyWritten =>
    unfold FirmwareUpdateWorkflow.verifyWritten at hid
    simp only at hid
    split at hid
    · unfold beginReboot at hid
      rw [scheduleTimer_workflow, progress_workflow, cancelTimer_workflow] at hid
      exact .inl hid
    · exact .inl hid
  | chunkRead _ _ hsize _ hwrite =>
    rw [writeChunk_ok hsize] at hwrite
    obtain rfl := Reduction.ok_injective hwrite
    exact .inl hid
  | _ => exact .inl hid

/-- The reconnection has a running connection for the device, with the evidence of its phase. -/
def Nested (observations : List Observation) (w : FirmwareUpdateWorkflow) : Prop :=
  w.phase = .reconnecting → ∃ connection, w.connection = some connection ∧ connection.Formed ∧
    connection.Chain observations ∧ ConnectionWorkflow.Agrees (some w.device) connection

theorem Nested.absent (h : w.phase ≠ .reconnecting) : Nested observations w :=
  fun heq => absurd heq h

/-- Observations that open or close no connection keep it. -/
theorem Nested.append (h : Nested observations w) (hmore : Quiet ConnectionWorkflow.Breaks more) :
    Nested (observations ++ more) w := by
  intro hphase
  obtain ⟨connection, hconnection, hformed, hchain, hagrees⟩ := h hphase
  exact ⟨connection, hconnection, hformed, hchain.append hmore, hagrees⟩

theorem mains_filter (effects : List EffectRequest) :
    mains (filterConnectionEffects effects) = mains effects := by
  induction effects with
  | nil => rfl
  | cons request effects ih =>
    rw [filterConnectionEffects, List.filter_cons]
    by_cases hinternal : isConnectionInternal request.effect = true
    · have hplain : ¬Main request.effect := by
        unfold isConnectionInternal at hinternal
        split at hinternal
        all_goals simp only [*, Main, not_false_eq_true]
        exact absurd hinternal Bool.false_ne_true
      rw [if_neg (by rw [hinternal]; decide), ConnectionWorkflow.mains_cons, if_neg hplain]
      exact ih
    · rw [if_pos (by rw [Bool.not_eq_true] at hinternal; rw [hinternal]; rfl),
        ConnectionWorkflow.mains_cons, ConnectionWorkflow.mains_cons]
      exact congrArg _ ih

/-- A reconnection has just been started. -/
theorem nested_startReconnectAttempt (call : Call) (observations : List Observation) :
    Nested observations (startReconnectAttempt call).workflow := by
  intro _
  refine ⟨_, rfl, ConnectionWorkflow.formed_reconnect .., .unlinked trivial, ?_⟩
  intro device hdevice
  exact hdevice

theorem readNextOrVerify_phase (call : Call) :
    (readNextOrVerify call).workflow.phase = .verifying ∨
      (readNextOrVerify call).workflow.phase = .readingChunk := by
  rcases readNextOrVerify_cases call with ⟨-, heq⟩ | ⟨-, hworkflow, -⟩
  · rw [heq]
    exact .inl rfl
  · rw [hworkflow]
    exact .inr rfl

/-- The phases in which no connection is nested, and the update goes on. -/
def Direct : FirmwareUpdate.Phase → Prop
  | .reconnecting | .completed | .failed => False
  | _ => True

theorem direct_readNextOrVerify (call : Call) : Direct (readNextOrVerify call).workflow.phase := by
  rcases readNextOrVerify_phase call with hphase | hphase
  · rw [hphase]
    trivial
  · rw [hphase]
    trivial

/-- What becomes of the connection and of the phase. -/
theorem Transition.nested (h : Transition w context event call)
    (hrunning : w.phase ≠ .completed ∧ w.phase ≠ .failed) (hnested : Nested observations w) :
    Ended call.workflow ∨
      (call.workflow.phase ≠ .completed ∧ call.workflow.phase ≠ .failed) ∧
        Nested (observations ++ .accepted event :: issuedBy call.effects) call.workflow := by
  have hdirect {more : List Observation} (h : Direct call.workflow.phase) :
      (call.workflow.phase ≠ .completed ∧ call.workflow.phase ≠ .failed) ∧
        Nested (observations ++ more) call.workflow := by
    refine ⟨⟨?_, ?_⟩, .absent ?_⟩
    all_goals
      intro heq
      rw [heq] at h
      exact h
  have hstarts {more : List Observation} {call : Call} :
      ((startReconnectAttempt call).workflow.phase ≠ .completed ∧
        (startReconnectAttempt call).workflow.phase ≠ .failed) ∧
        Nested (observations ++ more) (startReconnectAttempt call).workflow :=
    ⟨⟨nofun, nofun⟩, nested_startReconnectAttempt call _⟩
  -- `connectionRuns` steps the connection; the other steps keep it, start one or have none
  cases h with
  | failed | reconnectTimedOut | connectionFails => exact .inl (ended_fail _)
  | versionRead => exact .inl ended_complete
  | @checkpointSaved id =>
    refine .inr ⟨hrunning, ?_⟩
    exact hnested.append (.cons nofun .nil)
  | @responseIgnored id =>
    exact .inr ⟨hrunning, hnested.append (.cons nofun .nil)⟩
  | retryIgnored hphase =>
    refine .inr (hdirect ?_)
    show Direct w.phase
    rw [hphase]
    trivial
  | retried => exact .inr hstarts
  | @connectionRuns event connection step hnestedStep hstatus =>
    refine .inr ⟨hrunning, fun _ => ?_⟩
    obtain ⟨other, hother, hformed, hchain, hagrees⟩ := hnested hnestedStep.reconnecting
    obtain rfl := Option.some.inj (hnestedStep.active.symm.trans hother)
    refine ⟨step.workflow, rfl, ?_, ?_, hnestedStep.transition.agrees hagrees⟩
    · rcases hnestedStep.transition.keeps hformed with hformed | ⟨status, hended⟩
      · exact hformed
      · exact nomatch hstatus.symm.trans hended
    · exact hnestedStep.transition.chain hchain (mains_filter step.effects)
  | connectionCompletes =>
    refine .inr (hdirect ?_)
    rw [readVersion_workflow]
    trivial
  | connectionRetries => exact .inr (hdirect trivial)
  | readyRecorded _ hphase =>
    refine .inr (hdirect ?_)
    show Direct w.phase
    rw [hphase]
    trivial
  | transferBegins => exact .inr (hdirect (direct_readNextOrVerify _))
  | ackRecorded _ _ hreconnecting | statusIgnored _ hreconnecting =>
    exact .inr ⟨hrunning, .absent hreconnecting⟩
  | ackAwaited => exact .inr (hdirect (direct_readNextOrVerify _))
  | verifyRecorded hphase =>
    refine .inr (hdirect ?_)
    show Direct w.phase
    rw [hphase]
    trivial
  | rebootBegins =>
    refine .inr (hdirect ?_)
    unfold beginReboot
    rw [scheduleTimer_workflow, progress_workflow, cancelTimer_workflow]
    trivial
  | rebooted => exact .inr hstarts
  | checkpointLoaded checkpoint =>
    refine .inr ?_
    unfold FirmwareUpdateWorkflow.checkpointLoaded
    simp only
    split
    · exact ⟨⟨nofun, nofun⟩, .absent nofun⟩
    · split
      · exact hstarts
      all_goals exact ⟨⟨nofun, nofun⟩, .absent nofun⟩
  | downloadProgressed hphase =>
    refine .inr (hdirect ?_)
    show Direct w.phase
    rw [hphase]
    trivial
  | downloadCompleted | subscribed => exact .inr (hdirect trivial)
  | startWritten =>
    refine .inr (hdirect ?_)
    unfold FirmwareUpdateWorkflow.startWritten
    simp only
    split
    · exact direct_readNextOrVerify _
    · trivial
  | chunkWritten =>
    refine .inr (hdirect ?_)
    unfold FirmwareUpdateWorkflow.chunkWritten
    simp only
    split
    · split
      · exact direct_readNextOrVerify _
      · trivial
    · exact direct_readNextOrVerify _
  | verifyWritten =>
    refine .inr (hdirect ?_)
    unfold FirmwareUpdateWorkflow.verifyWritten
    simp only
    split
    · unfold beginReboot
      rw [scheduleTimer_workflow, progress_workflow, cancelTimer_workflow]
      trivial
    · trivial
  | chunkRead _ _ hsize _ hwrite =>
    rw [writeChunk_ok hsize] at hwrite
    obtain rfl := Reduction.ok_injective hwrite
    exact .inr (hdirect trivial)

end Kept

/-! ## Runs -/

/-- What is known of a run of the update on `command`, while it is active. -/
structure Staged (command : FirmwareUpdateCommand) (observations : List Observation)
    (w : FirmwareUpdateWorkflow) : Prop where
  running : w.phase ≠ .completed ∧ w.phase ≠ .failed
  device : w.device = command.device
  version : w.image.version = command.image.version
  size : w.image.sizeBytes = command.image.sizeBytes
  downloadId : w.downloadId = command.downloadId
  subscribed : ∀ id, w.subscriptionRequestId = some id → .issued id subscribeEffect ∈ observations
  nested : Nested observations w
  sound : Sound observations w

section Runs

variable {w : FirmwareUpdateWorkflow} {context : WorkflowContext} {call : Call} {event : HostEvent}
  {observations : List Observation} {command : FirmwareUpdateCommand} {started : List EffectRequest}
  {trace : List (EngineEntry FirmwareUpdateWorkflow)}
  {engine₀ engine : WorkflowEngine FirmwareUpdateWorkflow}
  {ok : List (EngineEntry FirmwareUpdateWorkflow) → WorkflowEngine FirmwareUpdateWorkflow → Event → Prop}

theorem adopt_silent {connection : ConnectionWorkflow} {step : Step ConnectionWorkflow}
    (h : NestedStep w context event connection step) :
    Emits Silent (adopt (.ok step) (.begin w context)).effects :=
  emits_adopt emits_begin (ConnectionWorkflow.emits_dispatch h.dispatched)

theorem Transition.sound (h : Transition w context event call)
    (hsubscribed : ∀ id, w.subscriptionRequestId = some id →
      .issued id subscribeEffect ∈ observations)
    (hsound : Sound observations w) :
    Sound (observations ++ .accepted event :: issuedBy call.effects) call.workflow ∨
      Ended call.workflow ∧
        Lawful w.sizeBytes (observations ++ .accepted event :: issuedBy call.effects) := by
  obtain ⟨hstage, hlawful⟩ := hsound
  have hends {error : DeviceSdkError} {front : Call} (hemits : Emits Silent front.effects) :
      Ended (fail error front).workflow ∧ Lawful w.sizeBytes
        (observations ++ .accepted event :: issuedBy (fail error front).effects) :=
    ⟨ended_fail error, hlawful.append (idle_step (emits_fail hemits error))⟩
  have hsame {call : Call} (hsize : call.workflow.sizeBytes = w.sizeBytes)
      (hemits : Emits Silent call.effects)
      (hstage : Stage (observations ++ .accepted event :: issuedBy call.effects) call.workflow) :
      Sound (observations ++ .accepted event :: issuedBy call.effects) call.workflow :=
    sound_of_quiet hlawful hsize hemits hstage
  have hkept {more : List Observation} (hmore : Idle more) : Stage (observations ++ more) w :=
    hstage.append hmore
  have hunsent {more : List Observation} (hphase : w.phase = .loadingCheckpoint ∨
      w.phase = .downloading ∨ w.phase = .subscribing ∨ w.phase = .starting ∨
      w.phase = .awaitingReady) (hmore : Idle more) : dataWrites (observations ++ more) = [] := by
    rw [dataWrites_append, hmore.dataWrites, List.append_nil]
    rw [Stage] at hstage
    rcases hphase with heq | heq | heq | heq | heq <;> rw [heq] at hstage <;> exact hstage
  have hbegin : Emits Silent (Step.begin w context).effects := emits_begin
  -- outside the transfer a step writes no data, so only the facts of the phase are to be shown
  cases h with
  | failed => exact .inr (hends emits_begin)
  | reconnectTimedOut => exact .inr (hends (emits_cancelConnection emits_begin))
  | connectionFails => exact .inr (hends emits_begin)
  | versionRead =>
    exact .inr ⟨ended_complete, hlawful.append (idle_step (emits_complete emits_begin ⟨rfl, rfl⟩))⟩
  | checkpointSaved | responseIgnored | retryIgnored | statusIgnored =>
    exact .inl (hsame rfl emits_begin (hkept (idle_step emits_begin)))
  | retried =>
    refine .inl (hsame ?_ (emits_startReconnectAttempt (emits_cancelTimer emits_begin)) ?_)
    · obtain ⟨connection, hworkflow⟩ :=
        startReconnectAttempt_workflow (cancelTimer (.begin w context))
      rw [hworkflow, cancelTimer_workflow]
      rfl
    · rw [Stage]
      trivial
  | connectionRuns hnested =>
    refine .inl (hsame rfl (adopt_silent hnested) ?_)
    show Stage _ { w with connection := _ }
    rw [Stage]
    simp only [hnested.reconnecting]
  | connectionCompletes hnested =>
    refine .inl (hsame ?_ (emits_readVersion (emits_cancelReconnectTimer
      (Emits.update (adopt_silent hnested) _))) ?_)
    · rw [readVersion_workflow, cancelReconnectTimer_workflow]
      rfl
    · rw [Stage, readVersion_workflow]
      trivial
  | connectionRetries hnested =>
    refine .inl (hsame rfl (emits_schedule (Emits.update (adopt_silent hnested) _) _ _) ?_)
    rw [Stage]
    trivial
  | readyRecorded _ hphase =>
    refine .inl (hsame rfl emits_begin ?_)
    exact Stage.append hstage (idle_step emits_begin)
  | transferBegins hphase =>
    refine .inl ?_
    rw [List.append_cons]
    exact beginTransfer_sound (hunsent (by simp [hphase]) idle_accepted)
      (hlawful.append idle_accepted) emits_begin
  | @ackRecorded id value sequence hid hreconnecting hretry hacknowledges =>
    -- an acknowledgement that comes before its chunk is awaited counts for the window
    refine .inl (hsame rfl emits_begin ?_)
    have hmem := hsubscribed id hid
    show Stage (observations ++ [.accepted ⟨id, statusNotification value⟩]) _
    have hidle : Idle [.accepted ⟨id, statusNotification value⟩] := idle_accepted
    have hkept := hkept hidle
    have hfresh {k : Nat} (hwindow : Acknowledged k observations) :
        Fresh k (some sequence) (observations ++ [.accepted ⟨id, statusNotification value⟩]) := by
      intro other hother
      obtain rfl := Option.some.inj hother
      exact .inr (acked_now hacknowledges hmem hwindow [])
    unfold Stage at hstage hkept ⊢
    cases hphase : w.phase
    all_goals rw [hphase] at hstage hkept; simp only [Step.begin_workflow]
    case readingChunk =>
      obtain ⟨chunks, hreading⟩ := hstage
      have hmore := hreading.append hidle
      exact ⟨chunks, { hmore.between with fresh := hfresh hreading.window }, hmore.more, hmore.request⟩
    case writingChunk =>
      obtain ⟨chunks, bytes, hwriting⟩ := hstage
      have hmore := hwriting.append hidle
      exact ⟨chunks, bytes, { hmore with fresh := hfresh hwriting.window }⟩
    all_goals exact hkept
  | ackAwaited hphase hwaiting hid hacknowledges =>
    exact .inl (ackAwaited_sound hphase hwaiting (hsubscribed _ hid) hacknowledges hstage hlawful)
  | verifyRecorded hphase =>
    refine .inl (hsame rfl emits_begin ?_)
    exact Stage.append hstage (idle_step emits_begin)
  | rebootBegins hphase =>
    refine .inl (hsame ?_ (emits_beginReboot emits_begin) ?_)
    all_goals unfold beginReboot
    · rw [scheduleTimer_workflow, progress_workflow, cancelTimer_workflow]
      rfl
    · rw [Stage, scheduleTimer_workflow, progress_workflow, cancelTimer_workflow]
      trivial
  | rebooted =>
    refine .inl (hsame ?_ (emits_beginReconnect (emits_unsubscribe (emits_cancelTimer emits_begin)))
      ?_)
    all_goals
      obtain ⟨connection, ids, timer, hworkflow⟩ :=
        beginReconnect_workflow (unsubscribe (cancelTimer (.begin w context)))
    · rw [hworkflow, unsubscribe_workflow, cancelTimer_workflow]
      rfl
    · rw [hworkflow, Stage]
      trivial
  | checkpointLoaded checkpoint hphase =>
    -- the checkpoint leads to a download, to a subscription or to the reconnection
    have hphase : w.phase = .loadingCheckpoint ∨ w.phase = .downloading ∨ w.phase = .subscribing ∨
        w.phase = .starting ∨ w.phase = .awaitingReady := .inl hphase
    refine .inl ?_
    unfold FirmwareUpdateWorkflow.checkpointLoaded
    simp only
    split
    · have hemits := emits_beginDownload (Emits.update hbegin
        fun w => { w with loadRequestId := none })
      exact hsame rfl hemits (hunsent hphase (idle_step hemits))
    · rename_i checkpoint _
      have hemits := Emits.update (Emits.update hbegin fun w => { w with loadRequestId := none })
        fun w => { w with retryCount := min (checkpoint.retryCount + 1) 65535 }
      split
      · obtain ⟨connection, ids, timer, hworkflow⟩ := beginReconnect_workflow
          (((Step.begin w context).update fun w => { w with loadRequestId := none }).update
            fun w => { w with retryCount := min (checkpoint.retryCount + 1) 65535 })
        refine hsame ?_ (emits_beginReconnect hemits) ?_
        · rw [hworkflow]
          rfl
        · rw [hworkflow, Stage]
          trivial
      · have hemits := emits_subscribe hemits
        exact hsame rfl hemits (hunsent hphase (idle_step hemits))
      · have hemits := emits_subscribe hemits
        exact hsame rfl hemits (hunsent hphase (idle_step hemits))
      · have hemits := emits_beginDownload hemits
        exact hsame rfl hemits (hunsent hphase (idle_step hemits))
  | downloadProgressed hphase =>
    have hemits := emits_progress hbegin
    exact .inl (hsame rfl (hemits _ _ _) (hkept (idle_step (hemits _ _ _))))
  | downloadCompleted crc32 hphase =>
    have hemits := emits_subscribe (emits_checkpoint (Emits.update hbegin
      fun w => { w with downloadRequestId := none, image := { w.image with crc32 } }) .transferring)
    exact .inl (hsame rfl hemits (hunsent (.inr (.inl hphase)) (idle_step hemits)))
  | subscribed hphase =>
    have hemits := emits_writeStart hbegin
    exact .inl (hsame rfl hemits (hunsent (.inr (.inr (.inl hphase))) (idle_step hemits)))
  | startWritten hphase =>
    have hphase : w.phase = .loadingCheckpoint ∨ w.phase = .downloading ∨ w.phase = .subscribing ∨
        w.phase = .starting ∨ w.phase = .awaitingReady := .inr (.inr (.inr (.inl hphase)))
    refine .inl ?_
    unfold FirmwareUpdateWorkflow.startWritten
    simp only
    split
    · rw [List.append_cons]
      exact beginTransfer_sound (hunsent hphase idle_accepted) (hlawful.append idle_accepted)
        (Emits.update emits_begin _)
    · have hemits := emits_schedule (Emits.update (Emits.update hbegin
        fun w => { w with writeRequestId := none }) fun w => { w with phase := .awaitingReady })
        RESPONSE_TIMEOUT_ID RESPONSE_TIMEOUT_MS
      exact hsame rfl hemits (hunsent hphase (idle_step hemits))
  | chunkWritten hphase => exact .inl (chunkWritten_sound hphase hstage hlawful)
  | verifyWritten hphase =>
    have hasked : Asked w.sizeBytes observations := by
      rw [Stage, hphase] at hstage
      exact hstage
    refine .inl ?_
    unfold FirmwareUpdateWorkflow.verifyWritten
    simp only
    split
    · refine hsame ?_ (emits_beginReboot (Emits.update emits_begin _)) ?_
      all_goals unfold beginReboot
      · rw [scheduleTimer_workflow, progress_workflow, cancelTimer_workflow]
        rfl
      · rw [Stage, scheduleTimer_workflow, progress_workflow, cancelTimer_workflow]
        trivial
    · refine hsame rfl (emits_schedule (Emits.update (Emits.update emits_begin _) _) _ _) ?_
      exact hasked.append _
  | chunkRead hphase hid hsize hremaining hwrite =>
    exact .inl (chunkRead_sound hphase hstage hlawful hsize hremaining hwrite)

theorem Staged.step (h : Staged command observations w) (hstep : Transition w context event call) :
    Staged command (observations ++ .accepted event :: issuedBy call.effects) call.workflow ∨
      Ended call.workflow ∧ Lawful command.image.sizeBytes.toNat
        (observations ++ .accepted event :: issuedBy call.effects) := by
  have hsame := hstep.same
  have hsize : w.sizeBytes = command.image.sizeBytes.toNat := congrArg UInt32.toNat h.size
  have hended (hended : Ended call.workflow) :
      Lawful command.image.sizeBytes.toNat (observations ++ .accepted event :: issuedBy call.effects) := by
    have hsize' : call.workflow.sizeBytes = command.image.sizeBytes.toNat :=
      congrArg UInt32.toNat (hsame.size.trans h.size)
    rcases hstep.sound h.subscribed h.sound with hsound | ⟨-, hlawful⟩
    · rw [← hsize']
      exact hsound.2
    · rw [← hsize]
      exact hlawful
  rcases hstep.nested h.running h.nested with hend | ⟨hrunning, hnested⟩
  · exact .inr ⟨hend, hended hend⟩
  · rcases hstep.sound h.subscribed h.sound with hsound | ⟨hend, -⟩
    · refine .inl ⟨hrunning, hsame.device.trans h.device, hsame.version.trans h.version,
        hsame.size.trans h.size, hsame.downloadId.trans h.downloadId, ?_, hnested, hsound⟩
      intro id hid
      rcases hstep.subscription hid with hold | hnew
      · exact List.mem_append_left _ (h.subscribed id hold)
      · exact List.mem_append_right _ (List.mem_cons_of_mem _ hnew)
    · exact .inr ⟨hend, hended hend⟩

theorem Staged.lawful (h : Staged command observations w) :
    Lawful command.image.sizeBytes.toNat observations := by
  rw [← h.size]
  exact h.sound.2

theorem Staged.rejected (h : Staged command observations w) (event : HostEvent) :
    Staged command (observations ++ [.rejected event]) w :=
  { h with
    subscribed := fun id hid => List.mem_append_left _ (h.subscribed id hid)
    nested := h.nested.append (.cons nofun .nil)
    sound := ⟨h.sound.1.append idle_rejected, h.sound.2.append idle_rejected⟩ }

/-- The connection that an event may be passed to is well formed. -/
theorem Nested.formed (h : Nested observations w) (hphase : w.phase = .reconnecting) :
    ∃ connection, w.connection = some connection ∧ connection.Formed := by
  obtain ⟨connection, hconnection, hformed, -⟩ := h hphase
  exact ⟨connection, hconnection, hformed⟩

/-- A fresh update and the two requests of its start. -/
theorem Started.fresh (h : Started command started engine₀) :
    ∃ (id : CancellationId) (context : WorkflowContext),
      engine₀.active = some { new command.device command.image command.downloadId
        command.reconnectHint id with loadRequestId := some context.advance.nextRequestId } ∧
      started = [(Step.begin () context).next (.notify (.started .updateFirmware)),
        (Step.begin () context.advance).next (.persistence .loadCheckpoint)] := by
  obtain ⟨engine, capabilities, id, hstart⟩ := h
  obtain ⟨w, hcreate, reduction, hreduction, hactive, -, hout⟩ := start_ok hstart
  subst hreduction
  obtain rfl := Except.ok.inj hcreate
  obtain rfl := Outcome.ok.inj hout
  exact ⟨id, _, hactive, rfl⟩

theorem Started.silent (h : Started command started engine₀) : Emits Silent started := by
  obtain ⟨id, context, -, rfl⟩ := h.fresh
  intro request hmem
  rcases List.mem_pair.mp hmem with rfl | rfl
  · exact ⟨rfl, rfl⟩
  · exact ⟨rfl, rfl⟩

theorem Started.staged (h : Started command started engine₀) :
    ∃ w, engine₀.active = some w ∧ Staged command (issuedBy started) w := by
  have hidle := idle_issuedBy h.silent
  obtain ⟨id, context, hactive, -⟩ := h.fresh
  refine ⟨_, hactive, ⟨nofun, nofun⟩, rfl, rfl, rfl, rfl, nofun, .absent nofun, ?_, ?_⟩
  · exact hidle.dataWrites
  · rw [← List.nil_append (issuedBy _)]
    exact lawful_nil.append hidle

/-- A cancellation asks for nothing of the transfer. -/
theorem cancel_silent (h : cancel w context = .ok call) : Emits Silent call.effects := by
  unfold cancel at h
  obtain rfl := Reduction.ok_injective h
  exact (emits_unsubscribe (emits_cancelConnection (emits_cancelReconnectTimer
    (emits_cancelTimer emits_begin)))).request ⟨rfl, rfl⟩

theorem cancel_ok (w : FirmwareUpdateWorkflow) (context : WorkflowContext) :
    ∃ call : Call, cancel w context = .ok call :=
  ⟨_, rfl⟩

theorem run_staged (hstart : Started command started engine₀)
    (h : EngineRun ok engine₀ trace engine) :
    Settled (fun trace w => Staged command (observe started trace) w)
      (fun trace => Lawful command.image.sizeBytes.toNat (observe started trace)) trace engine := by
  refine EngineRun.step_rule ?_ ?_ ?_ ?_ ?_ h
  -- at the start
  · obtain ⟨w, hactive, hstaged⟩ := hstart.staged
    rw [settled_active hactive, observe_nil]
    exact hstaged
  -- an event of the host
  · intro trace engine w event _ hactive hinv _
    rcases dispatch_cases hinv.nested.formed event (engine.context w) with
      ⟨call, hcall, hstep⟩ | ⟨error, hreject⟩
    · refine .inl ⟨call, hcall, ?_⟩
      rw [observe_snoc]
      rcases hinv.step hstep with hstaged | ⟨⟨status, hended⟩, hlawful⟩
      · exact .inl ⟨running_terminalStatus hstaged.running, hstaged⟩
      · exact .inr ⟨status, hended, hlawful⟩
    · refine .inr ⟨w, engine.context w, error, hreject, ?_⟩
      rw [observe_snoc]
      exact hinv.rejected event
  -- the workflow is cancelled
  · intro trace engine w _ hactive hinv _
    obtain ⟨call, hcall⟩ := cancel_ok w (engine.context w)
    refine ⟨call, hcall, ?_⟩
    rw [observe_snoc]
    exact hinv.lawful.append (idle_issuedBy (cancel_silent hcall))
  -- another workflow's cancellation
  · rintro trace entry w _ ⟨id, hinput, -⟩ _ hquiet hinv
    rw [observe_snoc, observeEntry, hinput, hquiet, issuedBy_nil, List.append_nil]
    exact hinv
  -- after the end
  · intro trace entry _ _ hquiet hinv
    rw [observe_snoc]
    refine hinv.append ?_
    unfold observeEntry
    split
    · unfold delivered
      rw [hquiet]
      split
      · exact idle_accepted
      · exact idle_rejected
    · rw [hquiet]
      exact idle_issuedBy emits_nil

/-- The rule for what is observed of an update: `I` while it is active, `J` once it has ended. -/
theorem run_settled {I : List Observation → FirmwareUpdateWorkflow → Prop}
    {J : List Observation → Prop}
    (hstart : Started command started engine₀)
    (init : ∀ w, engine₀.active = some w → Staged command (issuedBy started) w →
      I (issuedBy started) w)
    (step : ∀ trace engine w event call, engine.active = some w →
      Staged command (observe started trace) w → I (observe started trace) w →
      ok trace engine (.host event) → Transition w (engine.context w) event call →
      J (observe started trace ++ .accepted event :: issuedBy call.effects) ∧
        (call.workflow.phase ≠ .completed ∧ call.workflow.phase ≠ .failed →
          I (observe started trace ++ .accepted event :: issuedBy call.effects) call.workflow))
    (cancelled : ∀ observations w context call, I observations w → cancel w context = .ok call →
      J (observations ++ issuedBy call.effects))
    (rejected : ∀ observations w event, I observations w → I (observations ++ [.rejected event]) w)
    (ended : ∀ observations observation, J observations → (∀ id effect, observation ≠ .issued id effect) →
      J (observations ++ [observation]))
    (h : EngineRun ok engine₀ trace engine) :
    Settled (fun trace w => I (observe started trace) w)
      (fun trace => J (observe started trace)) trace engine := by
  refine EngineRun.step_rule ?_ ?_ ?_ ?_ ?_ h
  -- at the start
  · obtain ⟨w, hactive, hstaged⟩ := hstart.staged
    rw [settled_active hactive, observe_nil]
    exact init w hactive hstaged
  -- an event of the host
  · intro trace engine w event hrun hactive hinv hok
    have hstaged := (settled_active hactive).mp (run_staged hstart hrun)
    rcases dispatch_cases hstaged.nested.formed event (engine.context w) with
      ⟨call, hcall, hstep⟩ | ⟨error, hreject⟩
    · refine .inl ⟨call, hcall, ?_⟩
      rw [observe_snoc]
      obtain ⟨hended, hrunning⟩ := step trace engine w event call hactive hstaged hinv hok hstep
      rcases hstaged.step hstep with hnext | ⟨⟨status, hstatus⟩, -⟩
      · exact .inl ⟨running_terminalStatus hnext.running, hrunning hnext.running⟩
      · exact .inr ⟨status, hstatus, hended⟩
    · refine .inr ⟨w, engine.context w, error, hreject, ?_⟩
      rw [observe_snoc]
      exact rejected _ w event hinv
  -- the workflow is cancelled
  · intro trace engine w _ hactive hinv _
    obtain ⟨call, hcall⟩ := cancel_ok w (engine.context w)
    refine ⟨call, hcall, ?_⟩
    rw [observe_snoc]
    exact cancelled _ w (engine.context w) call hinv hcall
  -- another workflow's cancellation
  · rintro trace entry w _ ⟨id, hinput, -⟩ _ hquiet hinv
    rw [observe_snoc, observeEntry, hinput, hquiet, issuedBy_nil, List.append_nil]
    exact hinv
  -- after the end
  · intro trace entry _ _ hquiet hinv
    rw [observe_snoc, observeEntry]
    split
    · unfold delivered
      rw [hquiet, issuedBy_nil]
      exact ended _ _ hinv (by split <;> exact fun _ _ heq => by cases heq)
    · rw [hquiet, issuedBy_nil, List.append_nil]
      exact hinv

/-- Of which `J` follows in every case, if it does from `I`. -/
theorem run_rule {I : List Observation → FirmwareUpdateWorkflow → Prop} {J : List Observation → Prop}
    (hstart : Started command started engine₀)
    (init : ∀ w, engine₀.active = some w → Staged command (issuedBy started) w →
      I (issuedBy started) w)
    (step : ∀ trace engine w event call, engine.active = some w →
      Staged command (observe started trace) w → I (observe started trace) w →
      ok trace engine (.host event) → Transition w (engine.context w) event call →
      J (observe started trace ++ .accepted event :: issuedBy call.effects) ∧
        (call.workflow.phase ≠ .completed ∧ call.workflow.phase ≠ .failed →
          I (observe started trace ++ .accepted event :: issuedBy call.effects) call.workflow))
    (cancelled : ∀ observations w context call, I observations w → cancel w context = .ok call →
      J (observations ++ issuedBy call.effects))
    (rejected : ∀ observations w event, I observations w → I (observations ++ [.rejected event]) w)
    (ended : ∀ observations observation, J observations → (∀ id effect, observation ≠ .issued id effect) →
      J (observations ++ [observation]))
    (whole : ∀ observations w, I observations w → J observations)
    (h : EngineRun ok engine₀ trace engine) : J (observe started trace) := by
  have hsettled := run_settled hstart init step cancelled rejected ended h
  cases hactive : engine.active with
  | none => exact (settled_ended hactive).mp hsettled
  | some w => exact whole _ w ((settled_active hactive).mp hsettled)

theorem run_lawful (hstart : Started command started engine₀)
    (h : EngineRun ok engine₀ trace engine) :
    Lawful command.image.sizeBytes.toNat (observe started trace) := by
  have hsettled := run_staged hstart h
  cases hactive : engine.active with
  | none => exact (settled_ended hactive).mp hsettled
  | some w => exact ((settled_active hactive).mp hsettled).lawful

end Runs

end FirmwareUpdateWorkflow

end BotaSdk
