import BotaSdk.Workflow.FirmwareTransfer

/-!
# The contents of a firmware transfer

The bytes that are sent are those that the host read from the image, and the checksum that the device
verifies is the one that the update holds.
-/

namespace BotaSdk

open Protocol Connection FirmwareUpdate History Bytes

namespace FirmwareUpdateWorkflow

/-! ## What one event asks for -/

/-- The phases between the download and the device's answer to the request to verify. -/
def Sending : FirmwareUpdate.Phase → Prop
  | .subscribing | .starting | .awaitingReady | .readingChunk | .writingChunk | .waitingAck
  | .verifying | .awaitingVerify => True
  | _ => False

/-- The event reports no download. -/
def Plain (event : HostEvent) : Prop :=
  ∀ downloadId crc32, event.kind ≠ .network (.downloadCompleted downloadId crc32)

/-- No chunk, and if a request to verify, one with the update's checksum. -/
def Checks (w : FirmwareUpdateWorkflow) (event : HostEvent) (effect : Effect) : Prop :=
  firmwareData effect = none ∧
    (verifyPayload effect = none ∨ Sending w.phase ∧ Plain event ∧
      verifyPayload effect = some (encodeFirmwareUploadVerify w.image.crc32))

/-- The bytes of a chunk are read, and written behind the header. -/
structure Copies (w : FirmwareUpdateWorkflow) (context : WorkflowContext) (event : HostEvent)
    (call : Call) (id : RequestId) (bytes : List UInt8) : Prop where
  phase : w.phase = .readingChunk
  request : w.blobRequestId = some id
  event : event = ⟨id, .firmwareChunkRead w.downloadId w.offset bytes⟩
  effects : call.effects = [⟨context.nextRequestId, context.operation, context.cancellationId,
    .ble (.write SERVICE_BOTA_STORAGE CHAR_RECORDING_TRANSFER
      (FIRMWARE_DATA :: (leBytes 2 w.nextSequence ++ bytes)) false)⟩]

section Steps

variable {w : FirmwareUpdateWorkflow} {context : WorkflowContext} {call : Call} {event : HostEvent}

theorem checks_of_silent {effect : Effect} (h : Silent effect) : Checks w event effect :=
  ⟨h.1, .inl h.2⟩

theorem checks_readNextOrVerify (hsending : Sending w.phase) (hplain : Plain event)
    (hcrc : call.workflow.image.crc32 = w.image.crc32) (hemits : Emits Silent call.effects) :
    Emits (Checks w event) (readNextOrVerify call).effects := by
  rcases readNextOrVerify_cases call with ⟨-, heq⟩ | ⟨-, -, heffects⟩
  · rw [heq]
    obtain ⟨front, heffects, hfront⟩ := writeVerify_effects call
    rw [heffects]
    refine ((hfront hemits).mono fun _ => checks_of_silent).append fun request hmem => ?_
    rw [List.mem_singleton.mp hmem, hcrc]
    exact ⟨rfl, .inr ⟨hsending, hplain, rfl⟩⟩
  · rw [heffects]
    refine (hemits.mono fun _ => checks_of_silent).append fun request hmem => ?_
    rw [List.mem_singleton.mp hmem]
    exact ⟨rfl, .inl rfl⟩

theorem checks_beginTransfer (hsending : Sending w.phase) (hplain : Plain event)
    (hcrc : call.workflow.image.crc32 = w.image.crc32) (hemits : Emits Silent call.effects) :
    Emits (Checks w event) (beginTransfer call).effects := by
  unfold beginTransfer
  refine checks_readNextOrVerify hsending hplain ?_ (emits_cancelTimer (Emits.update hemits _))
  rw [cancelTimer_workflow]
  exact hcrc

/-- Only a chunk that was read is sent, and only the update's checksum verified. -/
theorem Transition.checks (h : Transition w context event call) :
    Emits (Checks w event) call.effects ∨ ∃ id bytes, Copies w context event call id bytes := by
  have hsilent {call : Call} (hemits : Emits Silent call.effects) :
      Emits (Checks w event) call.effects :=
    hemits.mono fun _ => checks_of_silent
  have hsending {phase : FirmwareUpdate.Phase} (hphase : w.phase = phase) (h : Sending phase) :
      Sending w.phase := by
    rw [hphase]
    exact h
  have hbegin : Emits Silent (Step.begin w context).effects := emits_begin
  cases h with
  | failed => exact .inl (hsilent (emits_fail emits_begin _))
  | reconnectTimedOut => exact .inl (hsilent (emits_fail (emits_cancelConnection emits_begin) _))
  | connectionFails => exact .inl (hsilent (emits_fail emits_begin _))
  | versionRead => exact .inl (hsilent (emits_complete emits_begin ⟨rfl, rfl⟩))
  | retried => exact .inl (hsilent (emits_startReconnectAttempt (emits_cancelTimer hbegin)))
  | connectionRuns hnested => exact .inl (hsilent (adopt_silent hnested))
  | connectionCompletes hnested =>
    exact .inl (hsilent (emits_readVersion (emits_cancelReconnectTimer
      (Emits.update (adopt_silent hnested) _))))
  | connectionRetries hnested =>
    exact .inl (hsilent (emits_schedule (Emits.update (adopt_silent hnested) _) _ _))
  | transferBegins hphase =>
    exact .inl (checks_beginTransfer (hsending hphase trivial) nofun rfl hbegin)
  | ackAwaited hphase =>
    refine .inl (checks_readNextOrVerify (hsending hphase trivial) nofun ?_
      (emits_cancelTimer emits_begin))
    rw [cancelTimer_workflow]
    rfl
  | rebootBegins => exact .inl (hsilent (emits_beginReboot hbegin))
  | rebooted =>
    exact .inl (hsilent (emits_beginReconnect (emits_unsubscribe (emits_cancelTimer hbegin))))
  | checkpointLoaded checkpoint =>
    refine .inl (hsilent ?_)
    unfold FirmwareUpdateWorkflow.checkpointLoaded
    simp only
    split
    · exact emits_beginDownload (Emits.update hbegin _)
    · split
      · exact emits_beginReconnect (Emits.update (Emits.update hbegin _) _)
      · exact emits_subscribe (Emits.update (Emits.update hbegin _) _)
      · exact emits_subscribe (Emits.update (Emits.update hbegin _) _)
      · exact emits_beginDownload (Emits.update (Emits.update hbegin _) _)
  | downloadProgressed => exact .inl (hsilent (emits_progress hbegin _ _ _))
  | downloadCompleted =>
    exact .inl (hsilent (emits_subscribe (emits_checkpoint (Emits.update hbegin _) _)))
  | subscribed => exact .inl (hsilent (emits_writeStart hbegin))
  | startWritten hphase =>
    refine .inl ?_
    unfold FirmwareUpdateWorkflow.startWritten
    simp only
    split
    · exact checks_beginTransfer (hsending hphase trivial) nofun rfl (Emits.update hbegin _)
    · exact hsilent (emits_schedule (Emits.update (Emits.update hbegin _) _) _ _)
  | chunkWritten hphase =>
    have hsending := hsending hphase trivial
    have hready := emits_progress (emits_checkpoint (Emits.update hbegin fun w =>
      { w with
        writeRequestId := none, nextSequence := (w.nextSequence + 1) % 65536
        offset := saturatingAdd w.offset w.pendingChunkUnits, pendingChunkUnits := 0 })
      .transferring) .transferring
    refine .inl ?_
    unfold FirmwareUpdateWorkflow.chunkWritten
    simp only
    split
    · split
      · exact checks_readNextOrVerify hsending nofun rfl (hready _ _)
      · exact hsilent (emits_waitForAck (hready _ _) _)
    · exact checks_readNextOrVerify hsending nofun rfl (hready _ _)
  | verifyWritten =>
    refine .inl (hsilent ?_)
    unfold FirmwareUpdateWorkflow.verifyWritten
    simp only
    split
    · exact emits_beginReboot (Emits.update hbegin _)
    · exact emits_schedule (Emits.update (Emits.update hbegin _) _) _ _
  | chunkRead hphase hid hsize _ hwrite =>
    rw [writeChunk_ok hsize] at hwrite
    obtain rfl := Reduction.ok_injective hwrite
    exact .inr ⟨_, _, hphase, hid, rfl, rfl⟩
  | _ => exact .inl (hsilent emits_begin)

end Steps

/-! ## The bytes of the image -/

/-- What the device was sent, without the headers. -/
def sentBytes (observations : List Observation) : List UInt8 :=
  (dataWrites observations).flatMap (List.drop 3)

/-- The most bytes that request `id` asks for from `offset` on. -/
def maxLengths (observations : List Observation) (id : RequestId) (downloadId offset : Nat) :
    List Nat :=
  observations.filterMap fun
    | .issued other (.firmwareBlob (.readChunk downloadId' offset' maxLength)) =>
      if other = id ∧ downloadId' = downloadId ∧ offset' = offset then some maxLength else none
    | _ => none

/-- A host answers a request for a chunk with the first bytes of the requested range. -/
def Serves (image : List UInt8) (observations : List Observation) (event : Event) : Prop :=
  match event with
  | .host ⟨id, .firmwareChunkRead downloadId offset bytes⟩ =>
    ∀ maxLength ∈ maxLengths observations id downloadId offset,
      bytes ≠ [] ∧ bytes <+: (image.drop offset).take maxLength
  | _ => True

instance (image : List UInt8) (observations : List Observation) (event : Event) :
    Decidable (Serves image observations event) := by
  unfold Serves
  split <;> infer_instance

section Bytes

variable {observations more : List Observation} {chunks : List (List UInt8)} {image : List UInt8}

theorem frame_drop (index : Nat) (bytes : List UInt8) : (frame index bytes).drop 3 = bytes := by
  have hheader : (leBytes 2 (index % 65536)).length = 2 := length_leBytes ..
  rw [frame, List.drop_succ_cons, List.drop_left' hheader]

theorem frames_drop (chunks : List (List UInt8)) :
    (frames chunks).flatMap (List.drop 3) = chunks.flatten := by
  induction chunks using List.reverseRecOn with
  | nil => rfl
  | append_singleton chunks bytes ih =>
    rw [frames_concat, List.flatMap_append, List.flatMap_singleton, frame_drop, ih,
      List.flatten_append, List.flatten_singleton]

theorem sentBytes_frames (h : dataWrites observations = frames chunks) :
    sentBytes observations = chunks.flatten := by
  rw [sentBytes, h, frames_drop]

@[simp] theorem sentBytes_append :
    sentBytes (observations ++ more) = sentBytes observations ++ sentBytes more := by
  rw [sentBytes, dataWrites_append, List.flatMap_append]
  rfl

theorem sentBytes_idle (h : Idle more) : sentBytes more = [] := by
  rw [sentBytes, h.dataWrites, List.flatMap_nil]

theorem mem_maxLengths {id : RequestId} {downloadId offset maxLength : Nat}
    (h : .issued id (readChunkEffect downloadId offset maxLength) ∈ observations) :
    maxLength ∈ maxLengths observations id downloadId offset :=
  List.mem_filterMap.mpr ⟨_, h, if_pos ⟨rfl, rfl, rfl⟩⟩

/-- The next bytes of the image. -/
theorem prefix_append {sent bytes : List UInt8} {maxLength : Nat} (hsent : sent <+: image)
    (hbytes : bytes <+: (image.drop sent.length).take maxLength) : sent ++ bytes <+: image := by
  obtain ⟨rest, rfl⟩ := hsent
  rw [List.drop_left] at hbytes
  exact (List.prefix_append_right_inj sent).mpr (hbytes.trans (List.take_prefix _ _))

end Bytes

section Runs

variable {w : FirmwareUpdateWorkflow} {context : WorkflowContext} {call : Call} {event : HostEvent}
  {observations : List Observation} {command : FirmwareUpdateCommand} {started : List EffectRequest}
  {trace : List (EngineEntry FirmwareUpdateWorkflow)} {image : List UInt8}
  {engine₀ engine : WorkflowEngine FirmwareUpdateWorkflow}

/-- What a call sends. -/
theorem sentBytes_checks {effects : List EffectRequest} (h : Emits (Checks w event) effects) :
    sentBytes (.accepted event :: issuedBy effects) = [] := by
  have hnone : dataWrites (.accepted event :: issuedBy effects) = [] := by
    refine List.filterMap_eq_nil_iff.mpr fun observation hmem => ?_
    rcases List.mem_cons.mp hmem with rfl | hmem
    · rfl
    · obtain ⟨request, hrequest, rfl⟩ := List.mem_map.mp hmem
      exact (h request hrequest).1
  rw [sentBytes, hnone, List.flatMap_nil]

theorem Copies.sentBytes {id : RequestId} {bytes : List UInt8} (h : Copies w context event call id bytes) :
    sentBytes (.accepted event :: issuedBy call.effects) = bytes := by
  have hdata : dataWrites (.accepted event :: issuedBy call.effects) =
      [FIRMWARE_DATA :: (leBytes 2 w.nextSequence ++ bytes)] := by
    rw [h.effects]
    rfl
  have hheader : (leBytes 2 w.nextSequence).length = 2 := length_leBytes ..
  rw [FirmwareUpdateWorkflow.sentBytes, hdata, List.flatMap_singleton, List.drop_succ_cons,
    List.drop_left' hheader]

/-- The bytes that one event adds are the next ones of the image. -/
theorem Transition.copies (h : Transition w context event call)
    (hstaged : Staged command observations w)
    (hserves : Serves image observations (.host event)) (hsent : sentBytes observations <+: image) :
    sentBytes (observations ++ .accepted event :: issuedBy call.effects) <+: image := by
  rw [sentBytes_append]
  rcases h.checks with hchecks | ⟨id, bytes, hcopies⟩
  · rw [sentBytes_checks hchecks, List.append_nil]
    exact hsent
  · have hstage := hstaged.sound.1
    rw [Stage, hcopies.phase] at hstage
    obtain ⟨chunks, hreading⟩ := hstage
    obtain ⟨other, hother, hissued⟩ := hreading.request
    obtain rfl := Option.some.inj (hcopies.request.symm.trans hother)
    have hbytes := sentBytes_frames hreading.between.sent
    rw [hcopies.event] at hserves
    obtain ⟨-, hprefix⟩ := hserves _ (mem_maxLengths hissued)
    rw [hreading.between.offset, ← hbytes] at hprefix
    rw [hcopies.sentBytes]
    exact prefix_append hsent hprefix

theorem run_copies (hstart : Started command started engine₀)
    (h : EngineRun (fun trace _ event => Serves image (observe started trace) event) engine₀ trace
      engine) : sentBytes (observe started trace) <+: image := by
  have hidle {observations more : List Observation} (hsent : sentBytes observations <+: image)
      (hmore : Idle more) : sentBytes (observations ++ more) <+: image := by
    rw [sentBytes_append, sentBytes_idle hmore, List.append_nil]
    exact hsent
  refine run_rule (I := fun observations _ => sentBytes observations <+: image)
    (J := fun observations => sentBytes observations <+: image) hstart ?_ ?_ ?_ ?_ ?_ ?_ h
  · intro w _ _
    rw [sentBytes_idle (idle_issuedBy hstart.silent)]
    exact List.nil_prefix
  · intro trace engine w event call _ hstaged hsent hserves hstep
    have hcopies := hstep.copies hstaged hserves hsent
    exact ⟨hcopies, fun _ => hcopies⟩
  · exact fun _ _ _ _ hsent hcancel => hidle hsent (idle_issuedBy (cancel_silent hcancel))
  · exact fun _ _ _ hsent => hidle hsent idle_rejected
  · exact fun _ _ hsent hplain => hidle hsent (idle_plain hplain)
  · exact fun _ _ hsent => hsent

/-- What was sent is in order, complete when the device is to verify it, and never more than one window ahead
of the acknowledgements. -/
theorem image_transferred (hstart : Started command started engine₀)
    (hrun : EngineRun (fun trace _ event => Serves image (observe started trace) event) engine₀ trace
      engine) :
    (∃ chunks, dataWrites (observe started trace) = frames chunks ∧ chunks.flatten <+: image) ∧
      (∀ before id effect after, observe started trace = before ++ .issued id effect :: after →
        verifyPayload effect ≠ none → ∃ chunks, dataWrites before = frames chunks ∧
          chunks.flatten = image.take command.image.sizeBytes.toNat ∧
          chunks.flatten.length = command.image.sizeBytes.toNat) ∧
      ∀ before id effect after, observe started trace = before ++ .issued id effect :: after →
        firmwareData effect ≠ none →
        ∀ k, 8 * k ≤ (dataWrites before).length → Acknowledged k before := by
  have hlawful := run_lawful hstart hrun
  have hprefix := run_copies hstart hrun
  refine ⟨?_, fun before id effect after hsplit hverify => ?_, hlawful.window⟩
  · obtain ⟨chunks, hchunks⟩ := hlawful.data
    rw [sentBytes_frames hchunks] at hprefix
    exact ⟨chunks, hchunks, hprefix⟩
  · obtain ⟨chunks, hchunks, hlength⟩ := hlawful.verify before id effect after hsplit hverify
    rw [hsplit, sentBytes_append, sentBytes_frames hchunks] at hprefix
    refine ⟨chunks, hchunks, ?_, hlength⟩
    rw [← hlength]
    exact List.prefix_iff_eq_take.mp ((List.prefix_append _ _).trans hprefix)

end Runs

def smallCommand : FirmwareUpdateCommand :=
  ⟨⟨"EVFXXW67KP"⟩, ⟨"1.2.3", 10, 7⟩, 1, { storedName := some "Bota Pin" }⟩

def smallStart : WorkflowEngine FirmwareUpdateWorkflow × Outcome (List EffectRequest) :=
  WorkflowEngine.start {} smallCommand
    [.ble, .networkTransfer, .persistence, .progress, .timer, .firmwareBlob] ⟨.replicate 16 9⟩

theorem smallStart_started : Started smallCommand smallStart.2.effects smallStart.1 :=
  ⟨{}, [.ble, .networkTransfer, .persistence, .progress, .timer, .firmwareBlob], ⟨.replicate 16 9⟩,
    rfl⟩

/-- The download reports 9, and the device is ready for the image. -/
def smallPrelude : List Event :=
  [.host ⟨2, .checkpointLoaded none⟩, .host ⟨3, .network (.downloadCompleted 1 9)⟩,
    .host ⟨6, .ble (.subscribed CHAR_TRANSFER_STATUS)⟩, .host ⟨8, .ble .writeCompleted⟩,
    .host ⟨6, statusNotification [FIRMWARE_UPLOAD_START, 0]⟩]

/-- The host reads a single byte, and it is written. -/
def smallChunk (k : Nat) : List Event :=
  [.host ⟨4 * k + 11, .firmwareChunkRead 1 k [UInt8.ofNat k]⟩, .host ⟨4 * k + 12, .ble .writeCompleted⟩]

/-- Eight chunks, their acknowledgement, and the rest in one chunk. -/
def smallTransfer : List Event :=
  smallPrelude ++ (List.range 8).flatMap smallChunk ++
    [.host ⟨6, statusNotification [FIRMWARE_ACK, 7, 0]⟩, .host ⟨45, .firmwareChunkRead 1 8 [8, 9]⟩,
      .host ⟨46, .ble .writeCompleted⟩]

def smallImage : List UInt8 :=
  [0, 1, 2, 3, 4, 5, 6, 7, 8, 9]

def smallTrace : List (EngineEntry FirmwareUpdateWorkflow) :=
  (Machine.exec WorkflowEngine.dispatch [] smallStart.1 smallTransfer).1

theorem image_transferred_sample :
    (dataWrites (observe smallStart.2.effects smallTrace)).length = 9 ∧
      ∃ chunks, dataWrites (observe smallStart.2.effects smallTrace) = frames chunks ∧
        chunks.flatten <+: smallImage := by
  have hallowed : Machine.Allowed WorkflowEngine.dispatch
      (fun trace _ event => Serves smallImage (observe smallStart.2.effects trace) event) []
      smallStart.1 smallTransfer := by
    decide +kernel
  exact ⟨by decide +kernel,
    (image_transferred smallStart_started (Machine.Run.exec hallowed)).1⟩

/-! ## The checksum -/

/-- The checksum that the download of this blob last reported. -/
def reported (downloadId : Nat) (observations : List Observation) : Option Nat :=
  (observations.filterMap fun
    | .accepted ⟨_, .network (.downloadCompleted other crc32)⟩ =>
      if other = downloadId then some crc32 else none
    | _ => none).getLast?

/-- The device is asked to verify the checksum that the download reported, in this run or in one of
the `earlier` ones. -/
def VerifiesReported (downloadId : Nat) (earlier observations : List Observation) : Prop :=
  ∀ before id effect after, observations = before ++ .issued id effect :: after →
    verifyPayload effect ≠ none → ∃ crc32, reported downloadId (earlier ++ before) = some crc32 ∧
      verifyPayload effect = some (encodeFirmwareUploadVerify crc32)

/-- The checkpoint lets the update reuse the blob of an earlier run. -/
def Resumes (command : FirmwareUpdateCommand) (checkpoint : WorkflowCheckpoint) : Prop :=
  checkpoint.workflow = .firmwareUpdate ∧ checkpoint.operation = .updateFirmware ∧
    checkpoint.device = command.device ∧ checkpoint.firmwareVersion = some command.image.version ∧
    (checkpoint.phase = .transferring ∨ checkpoint.phase = .verifying)

/-- The update has asked for a checkpoint and takes the answer with this id. -/
def Loading (engine : WorkflowEngine FirmwareUpdateWorkflow) (id : RequestId) : Prop :=
  ∃ w ∈ engine.active, w.phase = .loadingCheckpoint ∧ w.loadRequestId = some id

/-- A reused blob has the checksum of the command. -/
def Reuses (command : FirmwareUpdateCommand) (earlier : List Observation)
    (engine : WorkflowEngine FirmwareUpdateWorkflow) (event : Event) : Prop :=
  match event with
  | .host ⟨id, .checkpointLoaded (some checkpoint)⟩ =>
    Loading engine id → Resumes command checkpoint →
      reported command.downloadId earlier = some command.image.crc32
  | _ => True

instance (command : FirmwareUpdateCommand) (checkpoint : WorkflowCheckpoint) :
    Decidable (Resumes command checkpoint) := by
  unfold Resumes
  infer_instance

instance (engine : WorkflowEngine FirmwareUpdateWorkflow) (id : RequestId) :
    Decidable (Loading engine id) := by
  unfold Loading
  infer_instance

instance (command : FirmwareUpdateCommand) (earlier : List Observation)
    (engine : WorkflowEngine FirmwareUpdateWorkflow) (event : Event) :
    Decidable (Reuses command earlier engine event) := by
  unfold Reuses
  split <;> infer_instance

section Checksum

variable {w : FirmwareUpdateWorkflow} {context : WorkflowContext} {call : Call} {event : HostEvent}
  {earlier observations more : List Observation} {command : FirmwareUpdateCommand}
  {started : List EffectRequest} {trace : List (EngineEntry FirmwareUpdateWorkflow)}
  {engine₀ engine : WorkflowEngine FirmwareUpdateWorkflow} {downloadId crc32 : Nat}

/-- Nothing reports a download. -/
def Unreported (observations : List Observation) : Prop :=
  ∀ observation ∈ observations, ∀ event, observation = .accepted event → Plain event

theorem reported_append (h : Unreported more) :
    reported downloadId (observations ++ more) = reported downloadId observations := by
  have hnone : (more.filterMap fun
      | .accepted ⟨_, .network (.downloadCompleted other crc32)⟩ =>
        if other = downloadId then some crc32 else none
      | _ => none) = [] := by
    refine List.filterMap_eq_nil_iff.mpr fun observation hmem => ?_
    split
    · rename_i id other crc32
      exact absurd rfl (h _ hmem _ rfl other crc32)
    · rfl
  rw [reported, List.filterMap_append, hnone, List.append_nil]
  rfl

theorem reported_last {id : RequestId} (h : Unreported more) :
    reported downloadId
      (observations ++ .accepted ⟨id, .network (.downloadCompleted downloadId crc32)⟩ :: more) =
        some crc32 := by
  rw [List.append_cons, reported_append h, reported, List.filterMap_append, List.filterMap_cons,
    List.filterMap_nil]
  simp only [if_true, List.getLast?_concat]

theorem unreported_issuedBy {effects : List EffectRequest} : Unreported (issuedBy effects) := by
  intro observation hmem event heq
  obtain ⟨request, -, rfl⟩ := List.mem_map.mp hmem
  exact nomatch heq

theorem unreported_step {effects : List EffectRequest} (h : Plain event) :
    Unreported (.accepted event :: issuedBy effects) := by
  intro observation hmem other heq
  rcases List.mem_cons.mp hmem with rfl | hmem
  · obtain rfl := Observation.accepted.inj heq
    exact h
  · exact unreported_issuedBy observation hmem other heq

/-- What the phase knows of the checksum. -/
def Held (command : FirmwareUpdateCommand) (earlier observations : List Observation)
    (w : FirmwareUpdateWorkflow) : Prop :=
  match w.phase with
  | .loadingCheckpoint => w.image.crc32 = command.image.crc32 ∧ Unreported observations
  | .subscribing | .starting | .awaitingReady | .readingChunk | .writingChunk | .waitingAck
  | .verifying | .awaitingVerify =>
    reported command.downloadId (earlier ++ observations) = some w.image.crc32
  | _ => True

theorem Held.of_reported (hphase : w.phase ≠ .loadingCheckpoint)
    (h : reported command.downloadId (earlier ++ observations) = some w.image.crc32) :
    Held command earlier observations w := by
  unfold Held
  cases heq : w.phase
  case loadingCheckpoint => exact absurd heq hphase
  all_goals first | exact h | trivial

theorem Held.reported (h : Held command earlier observations w) (hsending : Sending w.phase) :
    FirmwareUpdateWorkflow.reported command.downloadId (earlier ++ observations) =
      some w.image.crc32 := by
  unfold Held at h
  cases heq : w.phase
  all_goals rw [heq] at h hsending
  all_goals first | exact h | exact hsending.elim

theorem Held.append (h : Held command earlier observations w) (hmore : Unreported more) :
    Held command earlier (observations ++ more) w := by
  unfold Held at h ⊢
  rw [← List.append_assoc, reported_append hmore]
  cases heq : w.phase
  case loadingCheckpoint =>
    rw [heq] at h
    refine ⟨h.1, fun observation hmem => ?_⟩
    rcases List.mem_append.mp hmem with hmem | hmem
    · exact h.2 observation hmem
    · exact hmore observation hmem
  all_goals
    rw [heq] at h
    exact h

theorem readNextOrVerify_image (call : Call) :
    (readNextOrVerify call).workflow.image = call.workflow.image := by
  rcases readNextOrVerify_cases call with ⟨-, heq⟩ | ⟨-, hworkflow, -⟩
  · rw [heq]
    rfl
  · rw [hworkflow]

theorem beginTransfer_image (call : Call) :
    (beginTransfer call).workflow.image = call.workflow.image := by
  unfold beginTransfer
  rw [readNextOrVerify_image, cancelTimer_workflow]
  rfl

theorem readNextOrVerify_loads (call : Call) :
    (readNextOrVerify call).workflow.phase ≠ .loadingCheckpoint := by
  rcases readNextOrVerify_phase call with hphase | hphase <;> rw [hphase] <;> exact nofun

/-- The checksum of the update is the reported one, if a reused blob has that of the command. -/
theorem Transition.held (h : Transition w context event call) (hstaged : Staged command observations w)
    (hheld : Held command earlier observations w) (hactive : engine.active = some w)
    (hreuses : Reuses command earlier engine (.host event)) :
    Held command earlier (observations ++ .accepted event :: issuedBy call.effects)
      call.workflow := by
  -- the update goes on sending with the same checksum
  have hkeeps {call : Call} (hsending : Sending w.phase) (hplain : Plain event)
      (hphase : call.workflow.phase ≠ .loadingCheckpoint) (himage : call.workflow.image = w.image) :
      Held command earlier (observations ++ .accepted event :: issuedBy call.effects)
        call.workflow := by
    refine .of_reported hphase ?_
    rw [← List.append_assoc, reported_append (unreported_step hplain), hheld.reported hsending, himage]
  have hsending {phase : FirmwareUpdate.Phase} (hphase : w.phase = phase) (h : Sending phase) :
      Sending w.phase := by
    rw [hphase]
    exact h
  cases h with
  | failed | reconnectTimedOut | connectionFails =>
    rw [fail_workflow]
    trivial
  | versionRead =>
    rw [complete_workflow]
    trivial
  | checkpointSaved => exact Held.append hheld (unreported_step nofun)
  | responseIgnored => exact Held.append hheld (unreported_step nofun)
  | retryIgnored hphase =>
    show Held command earlier _ w
    rw [Held, hphase]
    trivial
  | retried => trivial
  | connectionRuns hnested =>
    show Held command earlier _ { w with connection := _ }
    rw [Held]
    simp only [hnested.reconnecting]
  | connectionCompletes =>
    rw [readVersion_workflow]
    trivial
  | connectionRetries => trivial
  | readyRecorded _ hphase => exact hkeeps (hsending hphase trivial) nofun (by simp [hphase]) rfl
  | transferBegins hphase =>
    exact hkeeps (hsending hphase trivial) nofun (readNextOrVerify_loads _) (beginTransfer_image _)
  | ackRecorded _ hid hreconnecting hretry => exact Held.append hheld (unreported_step nofun)
  | ackAwaited hphase =>
    refine hkeeps (hsending hphase trivial) nofun (readNextOrVerify_loads _) ?_
    rw [readNextOrVerify_image, cancelTimer_workflow]
    rfl
  | verifyRecorded hphase => exact hkeeps (hsending hphase trivial) nofun (by simp [hphase]) rfl
  | rebootBegins =>
    unfold beginReboot
    rw [scheduleTimer_workflow, progress_workflow, cancelTimer_workflow]
    trivial
  | statusIgnored => exact Held.append hheld (unreported_step nofun)
  | rebooted => trivial
  | @checkpointLoaded id checkpoint hphase hload =>
    have hloading : Loading engine id := ⟨w, hactive, hphase, hload⟩
    rw [Held, hphase] at hheld
    obtain ⟨hcrc, hunreported⟩ := hheld
    -- a checkpoint of the command in a phase after the download lets the blob be reused
    unfold FirmwareUpdateWorkflow.checkpointLoaded
    simp only
    split
    · trivial
    · rename_i other hfilter
      obtain ⟨rfl, hmatches⟩ := Option.filter_eq_some_iff.mp hfilter
      have hmatch : other.workflow = .firmwareUpdate ∧ other.operation = .updateFirmware ∧
          other.device = w.device ∧ other.firmwareVersion = some w.image.version := by
        unfold checkpointMatches at hmatches
        rw [Bool.and_eq_true, Bool.and_eq_true, Bool.and_eq_true] at hmatches
        obtain ⟨⟨⟨hkind, hoperation⟩, hdevice⟩, hversion⟩ := hmatches
        exact ⟨of_decide_eq_true hkind, of_decide_eq_true hoperation, of_decide_eq_true hdevice,
          of_decide_eq_true hversion⟩
      have hresumes (hphase : other.phase = .transferring ∨ other.phase = .verifying) :
          Held command earlier (observations ++ .accepted ⟨id, .checkpointLoaded (some other)⟩ ::
            issuedBy (subscribe (((Step.begin w context).update fun w =>
              { w with loadRequestId := none }).update fun w =>
                { w with retryCount := min (other.retryCount + 1) 65535 })).effects)
            (subscribe (((Step.begin w context).update fun w =>
              { w with loadRequestId := none }).update fun w =>
                { w with retryCount := min (other.retryCount + 1) 65535 })).workflow := by
        obtain ⟨hkind, hoperation, hdevice, hversion⟩ := hmatch
        refine .of_reported nofun ?_
        -- this run has reported nothing yet, so that the report is one of the earlier runs
        have hplain : Plain ⟨id, .checkpointLoaded (some other)⟩ := nofun
        rw [← List.append_assoc, reported_append (unreported_step hplain),
          reported_append hunreported]
        rw [hstaged.device] at hdevice
        rw [hstaged.version] at hversion
        exact (hreuses hloading ⟨hkind, hoperation, hdevice, hversion, hphase⟩).trans
          (congrArg some hcrc.symm)
      split
      · trivial
      · next hphase => exact hresumes (.inl hphase)
      · next hphase => exact hresumes (.inr hphase)
      · trivial
  | downloadProgressed hphase =>
    show Held command earlier _ w
    rw [Held, hphase]
    trivial
  | @downloadCompleted id crc32 hphase =>
    refine .of_reported nofun ?_
    rw [hstaged.downloadId, ← List.append_assoc]
    exact reported_last unreported_issuedBy
  | subscribed hphase => exact hkeeps (hsending hphase trivial) nofun nofun rfl
  | startWritten hphase =>
    unfold FirmwareUpdateWorkflow.startWritten
    simp only
    split
    · exact hkeeps (hsending hphase trivial) nofun (readNextOrVerify_loads _) (beginTransfer_image _)
    · exact hkeeps (hsending hphase trivial) nofun nofun rfl
  | chunkWritten hphase =>
    unfold FirmwareUpdateWorkflow.chunkWritten
    simp only
    split
    · split
      · exact hkeeps (hsending hphase trivial) nofun (readNextOrVerify_loads _)
          (readNextOrVerify_image _)
      · exact hkeeps (hsending hphase trivial) nofun nofun rfl
    · exact hkeeps (hsending hphase trivial) nofun (readNextOrVerify_loads _)
        (readNextOrVerify_image _)
  | verifyWritten hphase =>
    unfold FirmwareUpdateWorkflow.verifyWritten
    simp only
    split
    · unfold beginReboot
      rw [scheduleTimer_workflow, progress_workflow, cancelTimer_workflow]
      trivial
    · exact hkeeps (hsending hphase trivial) nofun nofun rfl
  | chunkRead hphase _ hsize _ hwrite =>
    rw [writeChunk_ok hsize] at hwrite
    obtain rfl := Reduction.ok_injective hwrite
    exact hkeeps (hsending hphase trivial) nofun nofun rfl

theorem unreported_before {before after : List Observation} (h : Unreported more)
    (hsplit : more = before ++ after) : Unreported before := by
  intro observation hmem
  refine h observation ?_
  rw [hsplit]
  exact List.mem_append_left _ hmem

/-- A request to verify is made with the checksum that the phase knows. -/
theorem Transition.verifiesReported (h : Transition w context event call)
    (hheld : Held command earlier observations w)
    (hverified : VerifiesReported command.downloadId earlier observations) :
    VerifiesReported command.downloadId earlier
      (observations ++ .accepted event :: issuedBy call.effects) := by
  refine Justified.append hverified fun before id effect after hsplit hne => ?_
  have hmem : Observation.issued id effect ∈ issuedBy call.effects := by
    have hin : Observation.issued id effect ∈ .accepted event :: issuedBy call.effects := by
      rw [hsplit]
      exact List.mem_append_right _ List.mem_cons_self
    rcases List.mem_cons.mp hin with heq | hin
    · exact nomatch heq
    · exact hin
  obtain ⟨request, hrequest, heq⟩ := List.mem_map.mp hmem
  obtain ⟨-, rfl⟩ := Observation.issued.inj heq
  rcases h.checks with hchecks | ⟨id, bytes, hcopies⟩
  · rcases (hchecks request hrequest).2 with hnone | ⟨hsending, hplain, hpayload⟩
    · exact absurd hnone hne
    · refine ⟨w.image.crc32, ?_, hpayload⟩
      rw [← List.append_assoc,
        reported_append (unreported_before (unreported_step hplain) hsplit)]
      exact hheld.reported hsending
  · rw [hcopies.effects] at hrequest
    obtain rfl := List.mem_singleton.mp hrequest
    exact absurd rfl hne

theorem verifiesReported_idle (h : VerifiesReported downloadId earlier observations)
    (hmore : Idle more) : VerifiesReported downloadId earlier (observations ++ more) :=
  Justified.append h fun before id effect after hsplit hne =>
    absurd (hmore _ (by rw [hsplit]; simp) id effect rfl).2 hne

/-- As long as a reused blob has the checksum of the command, the device is only asked to verify what
the download reported. -/
theorem reported_checksum_verified (hstart : Started command started engine₀)
    (hrun : EngineRun (fun _ engine event => Reuses command earlier engine event) engine₀ trace engine) :
    VerifiesReported command.downloadId earlier (observe started trace) := by
  refine run_rule (I := fun observations w => Held command earlier observations w ∧
      VerifiesReported command.downloadId earlier observations)
    (J := VerifiesReported command.downloadId earlier) hstart ?_ ?_ ?_ ?_ ?_ ?_ hrun
  -- at the start
  · intro w hactive _
    obtain ⟨id, context, hfresh, -⟩ := hstart.fresh
    obtain rfl := Option.some.inj (hfresh.symm.trans hactive)
    refine ⟨⟨rfl, unreported_issuedBy⟩, ?_⟩
    rw [← List.nil_append (issuedBy _)]
    exact verifiesReported_idle justified_nil (idle_issuedBy hstart.silent)
  -- an accepted event
  · rintro trace engine w event call hactive hstaged ⟨hheld, hverified⟩ hreuses hstep
    have hnext := hstep.verifiesReported hheld hverified
    exact ⟨hnext, fun _ => ⟨hstep.held hstaged hheld hactive hreuses, hnext⟩⟩
  -- the workflow is cancelled
  · rintro observations w context call ⟨-, hverified⟩ hcancel
    exact verifiesReported_idle hverified (idle_issuedBy (cancel_silent hcancel))
  -- an event that is rejected
  · rintro observations w event ⟨hheld, hverified⟩
    refine ⟨hheld.append ?_, verifiesReported_idle hverified idle_rejected⟩
    intro observation hmem other heq
    obtain rfl := List.mem_singleton.mp hmem
    exact nomatch heq
  -- after the end
  · exact fun _ _ hverified hplain => verifiesReported_idle hverified (idle_plain hplain)
  -- what a running workflow keeps is said of the run
  · exact fun _ _ h => h.2

end Checksum

/-- The same command again, after the download of the first run. -/
def reusedCheckpoint : WorkflowCheckpoint where
  workflow := .firmwareUpdate
  operation := .updateFirmware
  device := ⟨"EVFXXW67KP"⟩
  recording := none
  phase := .transferring
  completedUnits := 0
  retryCount := 0
  lastSequence := none
  firmwareVersion := some "1.2.3"

def reusedTransfer : List Event :=
  [.host ⟨2, .checkpointLoaded (some reusedCheckpoint)⟩,
    .host ⟨3, .ble (.subscribed CHAR_TRANSFER_STATUS)⟩, .host ⟨5, .ble .writeCompleted⟩,
    .host ⟨3, statusNotification [FIRMWARE_UPLOAD_START, 0]⟩,
    .host ⟨8, .firmwareChunkRead 1 0 smallImage⟩, .host ⟨9, .ble .writeCompleted⟩]

def reusedTrace : List (EngineEntry FirmwareUpdateWorkflow) :=
  (Machine.exec WorkflowEngine.dispatch [] smallStart.1 reusedTransfer).1

/-- A whole run that downloads its image. -/
theorem reported_checksum_verified_sample :
    (∃ id, .issued id (.ble (.write SERVICE_BOTA_STORAGE CHAR_TRANSFER_CONTROL
        (encodeFirmwareUploadVerify 9) true)) ∈ observe smallStart.2.effects smallTrace) ∧
      VerifiesReported 1 [] (observe smallStart.2.effects smallTrace) := by
  refine ⟨⟨49, by decide +kernel⟩, ?_⟩
  have hallowed : Machine.Allowed WorkflowEngine.dispatch
      (fun _ engine event => Reuses smallCommand [] engine event) [] smallStart.1 smallTransfer := by
    decide +kernel
  have hrun : EngineRun (fun _ engine event => Reuses smallCommand [] engine event) smallStart.1
      smallTrace _ :=
    .exec hallowed
  exact reported_checksum_verified smallStart_started hrun

/-- The first run downloads the image and reports 9; the second takes up its checkpoint and has the
checksum of the command verified, which is 7. -/
theorem reused_checksum_unreported :
    (∃ id, .issued id (.persistence (.saveCheckpoint reusedCheckpoint)) ∈
        observe smallStart.2.effects smallTrace) ∧
      .accepted ⟨2, .checkpointLoaded (some reusedCheckpoint)⟩ ∈
        observe smallStart.2.effects reusedTrace ∧
      ¬VerifiesReported 1 (observe smallStart.2.effects smallTrace)
        (observe smallStart.2.effects reusedTrace) := by
  refine ⟨⟨5, by decide +kernel⟩, by decide +kernel, fun h => ?_⟩
  have hlast : observe smallStart.2.effects reusedTrace =
      (observe smallStart.2.effects reusedTrace).dropLast ++
        [.issued 12 (.ble (.write SERVICE_BOTA_STORAGE CHAR_TRANSFER_CONTROL
          (encodeFirmwareUploadVerify 7) true))] := by
    decide +kernel
  obtain ⟨crc32, hreported, hpayload⟩ := h _ _ _ _ hlast (by decide)
  have hnine : reported 1 (observe smallStart.2.effects smallTrace ++
      (observe smallStart.2.effects reusedTrace).dropLast) = some 9 := by
    decide +kernel
  obtain rfl := Option.some.inj (hnine.symm.trans hreported)
  exact absurd hpayload (by decide)

end FirmwareUpdateWorkflow

end BotaSdk
