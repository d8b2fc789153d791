import Mathlib.Data.List.Chain
import BotaSdk.Protocol.ReceiverRequests

/-!
# The batch-v2 receiver and its sink

A host performs every write that was asked of it, at some time before it says so, and answers an
inspection with the true length and the true hash of the prefix.  Besides that it calls the receiver in
any way.
-/

namespace BotaSdk.EncryptedUploadV2Receiver

open Protocol TransferV2

/-! ## The host -/

/-- `asked` is the last request, `performed` whether its write has been made. -/
structure Host where
  receiver : EncryptedUploadV2Receiver
  sink : List UInt8
  asked : EncryptedUploadV2ReceiverAction
  performed : Bool

inductive HostStep where
  | call (input : Call)
  | perform
  deriving DecidableEq

/-- The sink after the write that `action` asks for. -/
def written (action : EncryptedUploadV2ReceiverAction) (sink : List UInt8) : List UInt8 :=
  match action with
  | .truncateSink _ length => sink.take length
  | .appendCiphertext _ offset bytes =>
    sink.take offset ++ bytes ++ sink.drop (offset + bytes.length)
  | _ => sink

/-- The host after a call: a new request replaces the one before. -/
def Host.after (host : Host) (receiver : EncryptedUploadV2Receiver) (reply : Reply) : Host :=
  match reply with
  | .ok action =>
    if (requestOf reply).isSome then { host with receiver, asked := action, performed := false }
    else { host with receiver }
  | _ => { host with receiver }

def Host.step (sha256 : List UInt8 → FixedBytes 32) (host : Host) : HostStep → Host × Reply
  | .call input =>
    let result := call sha256 host.receiver input
    (host.after result.1 result.2, result.2)
  | .perform =>
    if host.performed then (host, .ok .none)
    else ({ host with sink := written host.asked host.sink, performed := true }, .ok .none)

def isWrite : EncryptedUploadV2ReceiverAction → Bool
  | .truncateSink _ _ | .appendCiphertext _ _ _ => true
  | _ => false

/-- The answers of a faithful sink. -/
def Faithful (sha256 : List UInt8 → FixedBytes 32) (host : Host) : HostStep → Prop
  | .call (.apply (.applied requestId)) =>
      isWrite host.asked = true → requestOf (.ok host.asked) = some requestId →
        host.performed = true
  | .call (.apply (.sinkProof requestId byteLength prefixSha256)) =>
      ∀ prefixLength flush, host.asked = .inspectSink requestId prefixLength flush →
        byteLength = host.sink.length ∧ prefixSha256 = sha256 (host.sink.take prefixLength)
  | _ => True

instance decidableFaithful (sha256 : List UInt8 → FixedBytes 32) (host : Host) :
    (input : HostStep) → Decidable (Faithful sha256 host input)
  | .call (.apply (.applied _)) => inferInstanceAs (Decidable (_ → _ → _))
  | .call (.apply (.sinkProof requestId byteLength prefixSha256)) =>
    match hasked : host.asked with
    | .inspectSink requestId' prefixLength _ =>
      decidable_of_iff (requestId' = requestId →
          byteLength = host.sink.length ∧ prefixSha256 = sha256 (host.sink.take prefixLength)) <| by
        unfold Faithful
        rw [hasked]
        constructor
        · intro h prefixLength' flush' heq
          cases heq
          exact h rfl
        · rintro h rfl
          exact h prefixLength _ rfl
    | .none | .truncateSink _ _ | .appendCiphertext _ _ _ | .persistCheckpoint _ _
    | .appendMarkerDocument _ _ _ _ _ | .control _ | .complete _ _ _ =>
      .isTrue fun _ _ heq => nomatch hasked.symm.trans heq
  | .call .start | .call .cancel | .call (.receive _) | .call (.apply (.failed _ _)) | .perform =>
    .isTrue trivial

abbrev HostExchange := Machine.Entry Host HostStep Reply

/-- The runs with a faithful sink. -/
abbrev HostRun (sha256 : List UInt8 → FixedBytes 32) :=
  Machine.Run (Host.step sha256) (fun _ host input => Faithful sha256 host input)

def Host.init (receiver : EncryptedUploadV2Receiver) (sink : List UInt8) : Host where
  receiver
  sink
  asked := .none
  performed := false

/-! ## The sink keeps step -/

/-- The sink has exactly the staged bytes, except while a write is under way. -/
def InStep (host : Host) : Prop :=
  match host.receiver.io with
  | none => (isWrite host.asked = true → host.performed = true) ∧
      (host.receiver.prepared = true → host.sink.length = host.receiver.stagedOffset)
  | some io =>
    match io.purpose with
    | .initialProof => host.asked =
        .inspectSink io.requestId host.receiver.checkpoint.nextCiphertextOffset.toNat false
    | .initialTruncate => host.asked =
          .truncateSink io.requestId host.receiver.checkpoint.nextCiphertextOffset.toNat ∧
        host.receiver.checkpoint.nextCiphertextOffset.toNat ≤ host.sink.length ∧
        (host.performed = true →
          host.sink.length = host.receiver.checkpoint.nextCiphertextOffset.toNat)
    | .windowAppend nextOffset => ∃ bytes,
        host.asked = .appendCiphertext io.requestId host.receiver.stagedOffset bytes ∧
        nextOffset = host.receiver.stagedOffset + bytes.length ∧
        host.sink.length = if host.performed then nextOffset else host.receiver.stagedOffset
    | .windowProof => host.sink.length = host.receiver.stagedOffset ∧
        ∃ pending, host.receiver.pendingWindow = some pending ∧
          host.asked = .inspectSink io.requestId pending.contiguousOffset true
    | .windowPersist => host.sink.length = host.receiver.stagedOffset ∧ isWrite host.asked = false
    | .markerPersist => host.sink.length = host.receiver.stagedOffset ∧ isWrite host.asked = false
    | .finalProof eof => host.sink.length = host.receiver.stagedOffset ∧
        host.asked = .inspectSink io.requestId eof.ciphertextLength.toNat true

section Steps

variable {sha256 : List UInt8 → FixedBytes 32} {host : Host}
  {next : EncryptedUploadV2Receiver} {action : EncryptedUploadV2ReceiverAction}

theorem written_of_not_write {sink : List UInt8} (h : isWrite action = false) :
    written action sink = sink := by
  cases action <;> first | rfl | exact nomatch h

/-- A write that was not asked for is none. -/
theorem InStep.perform (h : InStep host) (hperformed : host.performed = false) :
    InStep { host with sink := written host.asked host.sink, performed := true } := by
  unfold InStep at h ⊢
  cases hio : host.receiver.io with
  | none =>
    rw [hio] at h
    dsimp only at h ⊢
    obtain ⟨hdone, hsink⟩ := h
    have hwrite : isWrite host.asked = false := by
      by_contra hwrite
      rw [hdone (by simpa using hwrite)] at hperformed
      exact nomatch hperformed
    exact ⟨fun _ => rfl, by rwa [written_of_not_write hwrite]⟩
  | some io =>
    rw [hio] at h
    dsimp only at h ⊢
    cases hpurpose : io.purpose with
    | initialProof =>
      rw [hpurpose] at h
      exact h
    | initialTruncate =>
      rw [hpurpose] at h
      obtain ⟨hasked, hroom, -⟩ := h
      have hlength : (written host.asked host.sink).length =
          host.receiver.checkpoint.nextCiphertextOffset.toNat := by
        rw [hasked, written, List.length_take, Nat.min_eq_left hroom]
      exact ⟨hasked, hlength.ge, fun _ => hlength⟩
    | windowAppend nextOffset =>
      rw [hpurpose] at h
      obtain ⟨bytes, hasked, hnext, hsink⟩ := h
      rw [hperformed, if_neg Bool.false_ne_true] at hsink
      refine ⟨bytes, hasked, hnext, ?_⟩
      -- the sink ends where the append starts
      rw [hasked, written, if_pos rfl, ← hsink, List.take_length,
        List.drop_eq_nil_of_le (Nat.le_add_right _ _), List.append_nil, List.length_append, hnext,
        hsink]
    | windowProof =>
      rw [hpurpose] at h
      obtain ⟨hsink, pending, hpending, hasked⟩ := h
      have hwrite : isWrite host.asked = false := by rw [hasked]; rfl
      exact ⟨by rwa [written_of_not_write hwrite], pending, hpending, hasked⟩
    | windowPersist =>
      rw [hpurpose] at h
      exact ⟨by rw [written_of_not_write h.2]; exact h.1, h.2⟩
    | markerPersist =>
      rw [hpurpose] at h
      exact ⟨by rw [written_of_not_write h.2]; exact h.1, h.2⟩
    | finalProof eof =>
      rw [hpurpose] at h
      have hwrite : isWrite host.asked = false := by rw [h.2]; rfl
      exact ⟨by rw [written_of_not_write hwrite]; exact h.1, h.2⟩

/-- The sink of a receiver that asks for nothing. -/
theorem inStep_of_idle (hio : next.io = none)
    (hdone : isWrite host.asked = true → host.performed = true)
    (hsink : next.prepared = true → host.sink.length = next.stagedOffset) :
    InStep { host with receiver := next } := by
  unfold InStep
  dsimp only
  rw [hio]
  exact ⟨hdone, hsink⟩

theorem Advance.inStep {self : EncryptedUploadV2Receiver} {pending : PendingWindow}
    {rest : List Packet} (hpending : self.pendingWindow = some pending)
    (hsink : host.sink.length = self.stagedOffset) (h : Advance self pending rest next action) :
    InStep (host.after next (.ok action)) := by
  cases h with
  | append batch rest _ => exact ⟨content batch, rfl, rfl, hsink⟩
  | inspect => exact ⟨hsink, pending, hpending, rfl⟩

theorem FrameStep.inStep {frame : EncryptedUploadV2Transfer}
    (h : FrameStep sha256 host.receiver frame next action) (hin : InStep host)
    (hio : host.receiver.io = none) (hprepared : host.receiver.prepared = true) :
    InStep (host.after next (.ok action)) := by
  have hidle := hin
  rw [InStep, hio] at hidle
  obtain ⟨hdone, hsink⟩ := hidle
  cases h with
  | acknowledgedData => exact hin
  | duplicateData => exact hin
  | bufferedData => exact inStep_of_idle hio hdone hsink
  | reacknowledged => exact hin
  | window value pending written rest next action _ _ _ hadvance =>
    have hwindow : { host.receiver with pendingWindow := some pending }.pendingWindow =
        some pending := rfl
    exact Advance.inStep hwindow (hsink hprepared) hadvance
  | manifest => exact inStep_of_idle hio hdone hsink
  | markerFragment => exact inStep_of_idle hio hdone hsink
  | markerDocument => exact ⟨hsink hprepared, rfl⟩
  | eof value _ => exact ⟨hsink hprepared, rfl⟩

/-- The answer to an inspection of the whole sink. -/
theorem Faithful.proof {requestId byteLength prefixLength : Nat} {flush : Bool}
    {prefixSha256 : FixedBytes 32}
    (h : Faithful sha256 host (.call (.apply (.sinkProof requestId byteLength prefixSha256))))
    (hasked : host.asked = .inspectSink requestId prefixLength flush) :
    byteLength = host.sink.length ∧ prefixSha256 = sha256 (host.sink.take prefixLength) :=
  h prefixLength flush hasked

theorem EventStep.inStep {self : EncryptedUploadV2Receiver} {purpose : IoPurpose}
    {event : EncryptedUploadV2ReceiverEvent} (hself : host.receiver = self)
    (h : EventStep sha256 { self with io := none } purpose event next action)
    (hkept : Bookkeeping sha256 self) (hin : InStep host)
    (hio : self.io = some { requestId := event.requestId, purpose })
    (hfaithful : Faithful sha256 host (.call (.apply event))) (hrunning : next.terminal = false) :
    InStep (host.after next (.ok action)) := by
  unfold InStep at hin
  rw [hself, hio] at hin
  cases h with
  | proved requestId =>
    obtain ⟨hlength, -⟩ := hfaithful.proof hin
    have hstaged := hkept.sound.staged (hkept.owned _ hio).2
    exact inStep_of_idle rfl (fun hwrite => by rw [hin] at hwrite; exact nomatch hwrite)
      fun _ => hlength.symm.trans hstaged.symm
  | untruncated requestId byteLength hlonger =>
    obtain ⟨rfl, -⟩ := hfaithful.proof hin
    exact ⟨rfl, hlonger.le, nofun⟩
  | truncated requestId =>
    obtain ⟨hasked, -, hlength⟩ := hin
    have hdone := hfaithful (by rw [hasked]; rfl) (by rw [hasked]; rfl)
    have hstaged := hkept.sound.staged (hkept.owned _ hio).2
    exact inStep_of_idle rfl (fun _ => hdone) fun _ => (hlength hdone).trans hstaged.symm
  | appended requestId pending written batch rest _ _ hpending hheld hadvance =>
    obtain ⟨bytes, hasked, -, hsink⟩ := hin
    have hdone := hfaithful (by rw [hasked]; rfl) (by rw [hasked]; rfl)
    rw [if_pos hdone] at hsink
    have hstaged : { self with
        io := none
        stagedOffset := self.stagedOffset + (content batch).length }.pendingWindow = some pending :=
      hpending
    exact Advance.inStep hstaged hsink hadvance
  | repair requestId prefixSha256 pending written frame hpending _ _ =>
    obtain ⟨hsink, _, _, hasked⟩ := hin
    exact inStep_of_idle rfl (fun hwrite => by rw [hasked] at hwrite; exact nomatch hwrite)
      fun _ => hsink
  | clean requestId pending written hpending _ _ => exact ⟨hin.1, rfl⟩
  | persisted requestId pending written frame hpending hheld _ =>
    exact inStep_of_idle rfl (fun hwrite => nomatch hin.2.symm.trans hwrite) fun _ => hin.1
  | markerPersisted requestId slot document _ _ =>
    exact inStep_of_idle rfl (fun hwrite => nomatch hin.2.symm.trans hwrite) fun _ => hin.1
  | completed => exact absurd hrunning (Ne.symm Bool.false_ne_true)

/-- The sink keeps step with a running receiver over every call. -/
theorem InStep.call {input : Call} {reply : Reply} (hin : host.receiver.terminal = false → InStep host)
    (hkept : Kept sha256 host.receiver)
    (hstep : CallStep sha256 host.receiver input next reply)
    (hfaithful : Faithful sha256 host (.call input)) (hrunning : next.terminal = false) :
    InStep (host.after next reply) := by
  cases hstep with
  | refused _ error _ => exact hin hrunning
  | failed _ _ error _ hterminal _ _ _ => exact nomatch hterminal.symm.trans hrunning
  | cancelled => exact absurd hrunning (Ne.symm Bool.false_ne_true)
  | started hbefore hstarted => exact rfl
  | received bytes frame _ action hbefore hio hprepared _ hstep =>
    exact hstep.inStep (hin hbefore) hio hprepared
  | answered event purpose _ action hbefore hio hstep =>
    exact hstep.inStep rfl (hkept.running hbefore) (hin hbefore) hio hfaithful hrunning

end Steps

/-! ## What is persisted -/

/-- The newest checkpoint that was asked to be persisted. -/
def newest (self : EncryptedUploadV2Receiver) : EncryptedUploadV2ReceiverCheckpoint :=
  match self.io.map PendingIo.purpose, self.pendingWindow with
  | some .windowPersist, some pending => candidateCheckpoint pending.boundary
  | _, _ => self.checkpoint

def checkpointOf : Reply → Option EncryptedUploadV2ReceiverCheckpoint
  | .ok (.persistCheckpoint _ checkpoint) => some checkpoint
  | _ => none

/-- The checkpoints that a run asked to persist, in order. -/
def persistedCheckpoints {σ ι : Type} (tr : List (Machine.Entry σ ι Reply)) :
    List EncryptedUploadV2ReceiverCheckpoint :=
  tr.filterMap fun e => checkpointOf e.output

theorem persistedCheckpoints_concat {σ ι : Type} {tr : List (Machine.Entry σ ι Reply)}
    {e : Machine.Entry σ ι Reply} :
    persistedCheckpoints (tr ++ [e]) = persistedCheckpoints tr ++ (checkpointOf e.output).toList := by
  rw [persistedCheckpoints, List.filterMap_append, List.filterMap_cons]
  cases checkpointOf e.output <;> rfl

/-- The later checkpoint is of a higher revision and reaches further. -/
def Precedes (earlier later : EncryptedUploadV2ReceiverCheckpoint) : Prop :=
  earlier.revision < later.revision ∧ earlier.nextCiphertextOffset < later.nextCiphertextOffset

instance : IsTrans EncryptedUploadV2ReceiverCheckpoint Precedes where
  trans _ _ _ h h' := ⟨UInt32.lt_trans h.1 h'.1, UInt64.lt_trans h.2 h'.2⟩

/-- The checkpoints climb up to the newest one. -/
structure Climbs (receiver : EncryptedUploadV2Receiver)
    (checkpoints : List EncryptedUploadV2ReceiverCheckpoint) : Prop where
  chain : checkpoints.IsChain Precedes
  last : receiver.terminal = false → checkpoints.getLast? = some (newest receiver)

section Climbs

variable {sha256 : List UInt8 → FixedBytes 32} {self next : EncryptedUploadV2Receiver}
  {action : EncryptedUploadV2ReceiverAction}

/-- What a step does to the checkpoints: nothing, or it asks for the next one. -/
inductive Persists (self next : EncryptedUploadV2Receiver) : Reply → Prop
  | same (reply : Reply) : checkpointOf reply = none → newest next = newest self →
      Persists self next reply
  | next (requestId : Nat) (checkpoint : EncryptedUploadV2ReceiverCheckpoint) :
      newest next = checkpoint → Precedes (newest self) checkpoint →
      Persists self next (.ok (.persistCheckpoint requestId checkpoint))

theorem newest_of_idle (h : self.io = none) : newest self = self.checkpoint := by
  rw [newest, h]
  rfl

theorem newest_of_purpose {io : PendingIo} (hio : self.io = some io)
    (hpurpose : io.purpose ≠ .windowPersist) : newest self = self.checkpoint := by
  rw [newest, hio, Option.map_some]
  split
  · next heq _ => exact absurd (Option.some.inj heq) hpurpose
  · rfl

theorem newest_requested {purpose : IoPurpose} (h : purpose ≠ .windowPersist) :
    newest (requested self purpose) = self.checkpoint :=
  newest_of_purpose rfl h

theorem Advance.newest {pending : PendingWindow} {rest : List Packet}
    (h : Advance self pending rest next action) :
    checkpointOf (.ok action) = none ∧
      EncryptedUploadV2Receiver.newest next = self.checkpoint := by
  cases h with
  | append batch rest _ => exact ⟨rfl, newest_of_purpose rfl nofun⟩
  | inspect => exact ⟨rfl, newest_of_purpose rfl nofun⟩

theorem FrameStep.persists {frame : EncryptedUploadV2Transfer}
    (h : FrameStep sha256 self frame next action) (hio : self.io = none) :
    Persists self next (.ok action) := by
  have hself := newest_of_idle hio
  cases h with
  | acknowledgedData => exact .same _ rfl rfl
  | duplicateData => exact .same _ rfl rfl
  | bufferedData => exact .same _ rfl ((newest_of_idle hio).trans hself.symm)
  | reacknowledged => exact .same _ rfl rfl
  | window value pending written rest next action _ _ _ hadvance =>
    obtain ⟨hquiet, hnewest⟩ := hadvance.newest
    exact .same _ hquiet (hnewest.trans hself.symm)
  | manifest => exact .same _ rfl ((newest_of_idle hio).trans hself.symm)
  | markerFragment => exact .same _ rfl ((newest_of_idle hio).trans hself.symm)
  | markerDocument =>
    refine .same _ rfl ?_
    rw [newest_requested]
    · exact hself.symm
    · exact nofun
  | eof =>
    refine .same _ rfl ?_
    rw [newest_requested]
    · exact hself.symm
    · exact nofun

theorem EventStep.persists {purpose : IoPurpose} {event : EncryptedUploadV2ReceiverEvent}
    (h : EventStep sha256 { self with io := none } purpose event next action)
    (hio : self.io = some { requestId := event.requestId, purpose }) :
    Persists self next (.ok action) := by
  have hself : purpose ≠ .windowPersist → EncryptedUploadV2Receiver.newest self = self.checkpoint :=
    newest_of_purpose hio
  cases h with
  | proved => exact .same _ rfl ((newest_of_idle rfl).trans (hself nofun).symm)
  | untruncated =>
    refine .same _ rfl ?_
    rw [newest_requested]
    · exact (hself nofun).symm
    · exact nofun
  | truncated => exact .same _ rfl ((newest_of_idle rfl).trans (hself nofun).symm)
  | appended requestId pending written batch rest _ _ _ _ hadvance =>
    obtain ⟨hquiet, hnewest⟩ := hadvance.newest
    exact .same _ hquiet (hnewest.trans (hself nofun).symm)
  | repair => exact .same _ rfl ((newest_of_idle rfl).trans (hself nofun).symm)
  | clean requestId pending written hpending hheld _ =>
    refine .next _ _ ?_ ?_
    · rw [newest, requested, Option.map_some, hpending]
    · rw [hself nofun]
      exact ⟨hheld.revision, hheld.next⟩
  | persisted requestId pending written frame hpending _ _ =>
    refine .same _ rfl ((newest_of_idle rfl).trans ?_)
    rw [newest, hio, Option.map_some, show self.pendingWindow = some pending from hpending]
  | markerPersisted => exact .same _ rfl ((newest_of_idle rfl).trans (hself nofun).symm)
  | completed => exact .same _ rfl ((newest_of_idle rfl).trans (hself nofun).symm)

theorem Climbs.step {checkpoints : List EncryptedUploadV2ReceiverCheckpoint} {reply : Reply}
    (h : Climbs self checkpoints) (hrunning : self.terminal = false)
    (hstep : Persists self next reply) :
    Climbs next (checkpoints ++ (checkpointOf reply).toList) := by
  have hlast := h.last hrunning
  cases hstep with
  | same _ hquiet hsame =>
    rw [hquiet, Option.toList_none, List.append_nil]
    exact ⟨h.chain, fun _ => hsame ▸ hlast⟩
  | next requestId checkpoint hnewest hprecedes =>
    refine ⟨h.chain.append (List.isChain_singleton _) ?_, fun _ => ?_⟩
    · intro earlier hearlier later hlater
      rw [hlast] at hearlier
      obtain rfl := Option.some.inj hearlier
      obtain rfl := Option.some.inj hlater
      exact hprecedes
    · rw [hnewest]
      exact List.getLast?_concat

theorem Climbs.call {checkpoints : List EncryptedUploadV2ReceiverCheckpoint} {input : Call}
    {reply : Reply} (h : Climbs self checkpoints) (hkept : Kept sha256 self)
    (hstep : CallStep sha256 self input next reply) :
    Climbs next (checkpoints ++ (checkpointOf reply).toList) := by
  have hsame : Climbs self (checkpoints ++ []) := by rwa [List.append_nil]
  cases hstep with
  | refused _ error _ => exact hsame
  | failed _ _ error _ hterminal _ _ _ =>
    exact ⟨hsame.chain, fun hrunning => nomatch hterminal.symm.trans hrunning⟩
  | cancelled => exact ⟨hsame.chain, nofun⟩
  | started hrunning hstarted =>
    have hio := ((hkept.running hrunning).unstarted hstarted).2.1
    refine h.step hrunning (.same _ rfl ?_)
    rw [newest_requested]
    · exact (newest_of_idle hio).symm
    · exact nofun
  | received bytes frame _ action hrunning hio _ _ hstep =>
    exact h.step hrunning (hstep.persists hio)
  | answered event purpose _ action hrunning hio hstep =>
    exact h.step hrunning (hstep.persists hio)

end Climbs

/-! ## Every action fits the sink -/

/-- What the sink must be when an action is emitted. -/
def FitsSink (sha256 : List UInt8 → FixedBytes 32) (config : EncryptedUploadV2ReceiverConfig)
    (sink : List UInt8) : Reply → Prop
  | .ok (.appendCiphertext _ offset _) => offset = sink.length
  | .ok (.persistCheckpoint _ checkpoint) =>
      checkpoint.nextCiphertextOffset.toNat = sink.length ∧ checkpoint.prefixSha256 = sha256 sink
  | .ok (.complete manifest evidence _) =>
      sink.length = config.expectedCiphertextLength.toNat ∧
        sha256 sink = config.expectedCiphertextSha256 ∧ sha256 manifest = evidence.manifestSha256
  | _ => True

section Fits

variable {sha256 : List UInt8 → FixedBytes 32} {host : Host}
  {self next : EncryptedUploadV2Receiver} {action : EncryptedUploadV2ReceiverAction}

theorem Advance.fits {config : EncryptedUploadV2ReceiverConfig} {pending : PendingWindow}
    {rest : List Packet} {sink : List UInt8} (hsink : sink.length = self.stagedOffset)
    (h : Advance self pending rest next action) : FitsSink sha256 config sink (.ok action) := by
  cases h with
  | append batch rest _ => exact hsink.symm
  | inspect => trivial

theorem FrameStep.fits {config : EncryptedUploadV2ReceiverConfig}
    {frame : EncryptedUploadV2Transfer} (h : FrameStep sha256 host.receiver frame next action)
    (hin : InStep host) (hio : host.receiver.io = none) (hprepared : host.receiver.prepared = true) :
    FitsSink sha256 config host.sink (.ok action) := by
  rw [InStep, hio] at hin
  cases h with
  | window value pending written rest next action _ _ _ hadvance =>
    have hstaged : host.sink.length =
        { host.receiver with pendingWindow := some pending }.stagedOffset := hin.2 hprepared
    exact Advance.fits hstaged hadvance
  | _ => trivial

theorem EventStep.fits {purpose : IoPurpose} {event : EncryptedUploadV2ReceiverEvent}
    (hself : host.receiver = self)
    (h : EventStep sha256 { self with io := none } purpose event next action)
    (hkept : Bookkeeping sha256 self) (hin : InStep host)
    (hio : self.io = some { requestId := event.requestId, purpose })
    (hfaithful : Faithful sha256 host (.call (.apply event))) :
    FitsSink sha256 self.config host.sink (.ok action) := by
  unfold InStep at hin
  rw [hself, hio] at hin
  cases h with
  | appended requestId pending written batch rest _ _ hpending hheld hadvance =>
    obtain ⟨bytes, hasked, -, hsink⟩ := hin
    have hdone := hfaithful (by rw [hasked]; rfl) (by rw [hasked]; rfl)
    rw [if_pos hdone] at hsink
    exact hadvance.fits hsink
  | clean requestId pending written hpending hheld hclean =>
    obtain ⟨hsink, pending', hpending', hasked⟩ := hin
    obtain rfl : pending = pending' := Option.some.inj (hpending.symm.trans hpending')
    -- the proof is about the whole sink, and the window ends where the sink does
    obtain ⟨hlength, hhash⟩ := hfaithful.proof hasked
    rw [hlength, List.take_length] at hhash
    exact ⟨(hheld.clean hclean).symm.trans hlength, hhash⟩
  | completed requestId eof markerEvidence _ =>
    obtain ⟨-, -, hexpected, hciphertext, hmanifest, -⟩ := hkept.owned _ hio
    obtain ⟨hlength, hhash⟩ := hfaithful.proof hin.2
    rw [hexpected, hlength, List.take_length] at hhash
    exact ⟨hlength.symm, hhash.symm, hmanifest.symm⟩
  | _ => trivial

theorem CallStep.fits {input : Call} {reply : Reply}
    (hin : host.receiver.terminal = false → InStep host) (hkept : Kept sha256 host.receiver)
    (hstep : CallStep sha256 host.receiver input next reply)
    (hfaithful : Faithful sha256 host (.call input)) :
    FitsSink sha256 host.receiver.config host.sink reply := by
  cases hstep with
  | refused _ error _ => trivial
  | failed _ _ error _ _ _ _ _ => trivial
  | cancelled => trivial
  | started => trivial
  | received bytes frame _ action hrunning hio hprepared _ hstep =>
    exact hstep.fits (hin hrunning) hio hprepared
  | answered event purpose _ action hrunning hio hstep =>
    exact hstep.fits rfl (hkept.running hrunning) (hin hrunning) hio hfaithful

theorem Advance.config {pending : PendingWindow} {rest : List Packet}
    (h : Advance self pending rest next action) : next.config = self.config := by
  cases h <;> rfl

theorem CallStep.config {input : Call} {reply : Reply}
    (h : CallStep sha256 self input next reply) (hrunning : next.terminal = false) :
    next.config = self.config := by
  cases h with
  | refused _ error _ => rfl
  | failed _ _ error _ hterminal _ _ _ => exact nomatch hterminal.symm.trans hrunning
  | cancelled => rfl
  | started => rfl
  | received _ _ _ _ _ _ _ _ hstep =>
    cases hstep with
    | window _ _ _ _ _ _ _ _ _ hadvance => exact hadvance.config
    | _ => rfl
  | answered _ _ _ _ _ _ hstep =>
    cases hstep with
    | appended _ _ _ _ _ _ _ _ _ hadvance => exact hadvance.config
    | _ => rfl

theorem CallStep.running {input : Call} {reply : Reply}
    (h : CallStep sha256 self input next reply) (hrunning : next.terminal = false) :
    self.terminal = false := by
  cases hself : self.terminal with
  | false => rfl
  | true => exact nomatch (h.silent hself).1.symm.trans hrunning

end Fits

/-! ## Runs -/

/-- What holds after every run with a faithful sink. -/
structure SinkHeld (sha256 : List UInt8 → FixedBytes 32) (config : EncryptedUploadV2ReceiverConfig)
    (tr : List HostExchange) (host : Host) : Prop where
  kept : Kept sha256 host.receiver
  sameConfig : host.receiver.terminal = false → host.receiver.config = config
  inStep : host.receiver.terminal = false → InStep host
  climbs : Climbs host.receiver (config.checkpoint :: persistedCheckpoints tr)
  fits : ∀ e ∈ tr, FitsSink sha256 config e.pre.sink e.output

section Runs

variable {sha256 : List UInt8 → FixedBytes 32} {config : EncryptedUploadV2ReceiverConfig}
  {receiver : EncryptedUploadV2Receiver} {sink : List UInt8} {host : Host} {tr : List HostExchange}

theorem after_receiver (host : Host) (receiver : EncryptedUploadV2Receiver) (reply : Reply) :
    (host.after receiver reply).receiver = receiver := by
  unfold Host.after
  split
  · split <;> rfl
  · rfl

theorem SinkHeld.perform (h : SinkHeld sha256 config tr host) :
    SinkHeld sha256 config (tr ++ [⟨host, .perform, (host.step sha256 .perform).2⟩])
      (host.step sha256 .perform).1 := by
  have hquiet : (host.step sha256 .perform).2 = .ok .none := by
    rw [Host.step]
    split <;> rfl
  have hreceiver : (host.step sha256 .perform).1.receiver = host.receiver := by
    rw [Host.step]
    split <;> rfl
  rw [hquiet]
  refine ⟨?_, ?_, fun hrunning => ?_, ?_, fun e he => ?_⟩
  · rw [hreceiver]
    exact h.kept
  · rw [hreceiver]
    exact h.sameConfig
  · rw [hreceiver] at hrunning
    rw [Host.step]
    cases hperformed : host.performed with
    | true => exact h.inStep hrunning
    | false => exact (h.inStep hrunning).perform hperformed
  · rw [hreceiver, persistedCheckpoints_concat]
    simpa [checkpointOf] using h.climbs
  · rcases List.mem_append.mp he with he | he
    · exact h.fits e he
    · obtain rfl := List.mem_singleton.mp he
      trivial

theorem SinkHeld.call {input : Call} (h : SinkHeld sha256 config tr host)
    (hfaithful : Faithful sha256 host (.call input)) :
    SinkHeld sha256 config (tr ++ [⟨host, .call input, (host.step sha256 (.call input)).2⟩])
      (host.step sha256 (.call input)).1 := by
  have hstep := call_cases h.kept input
  have hkept := h.kept.call input
  rw [Host.step]
  dsimp only
  generalize (EncryptedUploadV2Receiver.call sha256 host.receiver input).1 = next at hstep hkept ⊢
  generalize (EncryptedUploadV2Receiver.call sha256 host.receiver input).2 = reply at hstep ⊢
  refine ⟨?_, fun hrunning => ?_, fun hrunning => ?_, ?_, fun e he => ?_⟩
  · rw [after_receiver]
    exact hkept
  · rw [after_receiver] at hrunning ⊢
    exact (hstep.config hrunning).trans (h.sameConfig (hstep.running hrunning))
  · rw [after_receiver] at hrunning
    exact InStep.call h.inStep h.kept hstep hfaithful hrunning
  · rw [after_receiver, persistedCheckpoints_concat, ← List.cons_append]
    exact h.climbs.call h.kept hstep
  · rcases List.mem_append.mp he with he | he
    · exact h.fits e he
    · obtain rfl := List.mem_singleton.mp he
      have hfits := CallStep.fits h.inStep h.kept hstep hfaithful
      cases hrunning : host.receiver.terminal with
      | false =>
        rw [h.sameConfig hrunning] at hfits
        exact hfits
      | true =>
        cases reply with
        | ok action =>
          obtain rfl := (hstep.silent hrunning).2 action rfl
          trivial
        | err error => trivial
        | panicked => trivial

theorem sinkHeld_init (hnew : new sha256 config = .ok receiver) :
    SinkHeld sha256 config [] (Host.init receiver sink) := by
  obtain ⟨-, hreceiver⟩ := new_eq_ok hnew
  have hio : (Host.init receiver sink).receiver.io = none := by rw [hreceiver]; rfl
  have hprepared : (Host.init receiver sink).receiver.prepared = false := by rw [hreceiver]; rfl
  have hcheckpoint : (Host.init receiver sink).receiver.checkpoint = config.checkpoint := by
    rw [hreceiver]
    rfl
  refine ⟨kept_of_new hnew, fun _ => ?_, fun _ => ?_, ⟨List.isChain_singleton _, fun _ => ?_⟩,
    fun _ he => absurd he List.not_mem_nil⟩
  · rw [hreceiver]
    rfl
  · rw [InStep, hio, hprepared]
    exact ⟨fun h => absurd h Bool.false_ne_true, fun h => absurd h Bool.false_ne_true⟩
  · rw [newest_of_idle hio, hcheckpoint]
    rfl

/-- In every run with a faithful sink: each append starts where the sink ends; each checkpoint to
persist names the length and the hash of the sink, with a higher revision and offset than the configured
checkpoint and all checkpoints before; and a completion is reported for a sink of the expected length and
hash, with a manifest that hashes to the evidence. -/
theorem sink_in_step (sha256 : List UInt8 → FixedBytes 32)
    (config : EncryptedUploadV2ReceiverConfig) (receiver : EncryptedUploadV2Receiver)
    (sink : List UInt8) (tr : List HostExchange) (host : Host)
    (hnew : new sha256 config = .ok receiver)
    (h : HostRun sha256 (Host.init receiver sink) tr host) :
    (∀ e ∈ tr, FitsSink sha256 config e.pre.sink e.output) ∧
      (config.checkpoint :: persistedCheckpoints tr).Pairwise Precedes := by
  have hheld : SinkHeld sha256 config tr host := by
    refine h.invariant (SinkHeld sha256 config) (sinkHeld_init hnew)
      fun tr host input _ hheld hfaithful => ?_
    cases input with
    | call input => exact hheld.call hfaithful
    | perform => exact hheld.perform
  exact ⟨hheld.fits, List.isChain_iff_pairwise.mp hheld.climbs.chain⟩

/-- The window of `sampleCalls` is appended, proved and persisted. -/
def sampleHostSteps : List HostStep :=
  sampleCalls.map .call ++
    [.perform, .call (.apply (.applied 3)),
      .call (.apply (.sinkProof 4 6 (Sha256.digest [1, 2, 3, 4, 5, 6]))), .call (.apply (.applied 5))]

theorem sink_in_step_sample :
    let run := Machine.exec (Host.step Sha256.digest) [] (Host.init (fresh sampleConfig) [])
      sampleHostSteps
    run.2.sink = [1, 2, 3, 4, 5, 6] ∧
      persistedCheckpoints run.1 = [candidateCheckpoint sampleWindow] ∧
      (sampleConfig.checkpoint :: persistedCheckpoints run.1).Pairwise Precedes := by
  have hallowed : Machine.Allowed (Host.step Sha256.digest)
      (fun _ host input => Faithful Sha256.digest host input) []
      (Host.init (fresh sampleConfig) []) sampleHostSteps := by decide +kernel
  have hrun : HostRun Sha256.digest (Host.init (fresh sampleConfig) []) _ _ := .exec hallowed
  have h := sink_in_step Sha256.digest sampleConfig (fresh sampleConfig) [] _ _ rfl hrun
  exact ⟨by decide +kernel, by decide +kernel, h.2⟩

end Runs

end BotaSdk.EncryptedUploadV2Receiver
