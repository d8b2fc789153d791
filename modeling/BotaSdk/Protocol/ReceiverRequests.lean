import BotaSdk.Protocol.ReceiverBookkeeping

/-!
# Requests and the end of the batch-v2 receiver

Which calls are turned away without a trace, in which order requests are issued, and after which calls
the receiver is silent for good.
-/

namespace BotaSdk.EncryptedUploadV2Receiver

open Protocol TransferV2

/-- The rejections that leave the receiver running. -/
def Benign (self : EncryptedUploadV2Receiver) : Call → Prop
  | .start => self.started = true
  | .cancel => False
  | .receive _ => self.io.isSome = true ∨ self.prepared = false
  | .apply event => self.io.map PendingIo.requestId ≠ some event.requestId

/-- The request that a reply asks of the port. -/
def requestOf : Reply → Option Nat
  | .ok (.inspectSink requestId _ _) | .ok (.truncateSink requestId _)
  | .ok (.appendCiphertext requestId _ _) | .ok (.persistCheckpoint requestId _)
  | .ok (.appendMarkerDocument requestId _ _ _ _) => some requestId
  | _ => none

/-- The requests of a run, in order. -/
def requestIds (tr : List Exchange) : List Nat :=
  tr.filterMap fun e => requestOf e.output

theorem requestIds_concat {tr : List Exchange} {e : Exchange} :
    requestIds (tr ++ [e]) = requestIds tr ++ (requestOf e.output).toList := by
  rw [requestIds, List.filterMap_append, List.filterMap_cons]
  cases requestOf e.output <;> rfl

section Steps

variable {sha256 : List UInt8 → FixedBytes 32} {self next : EncryptedUploadV2Receiver}

/-- A benign rejection changes nothing. -/
theorem call_benign {input : Call} (h : Benign self input) :
    ∃ error, call sha256 self input = (self, .err error) := by
  cases hactive : self.requireActive with
  | error error =>
    refine ⟨error, ?_⟩
    cases input with
    | start => rw [call, start, hactive]
    | cancel => exact h.elim
    | receive bytes => rw [call, receive, hactive]
    | apply event => rw [call, apply, hactive]
  | ok =>
    cases input with
    | start =>
      rw [call, start, hactive]
      exact ⟨_, if_pos h⟩
    | cancel => exact h.elim
    | receive bytes =>
      rw [call, receive, hactive]
      dsimp only
      by_cases hio : self.io.isSome = true
      · exact ⟨_, if_pos hio⟩
      · rw [if_neg hio, h.resolve_left hio]
        exact ⟨_, rfl⟩
    | apply event =>
      rw [call, apply, hactive]
      dsimp only
      cases hio : self.io with
      | none => exact ⟨_, rfl⟩
      | some io =>
        rw [Benign, hio, Option.map_some] at h
        exact ⟨_, if_pos fun hsame => h (congrArg some hsame)⟩

/-! ## The order of requests -/

/-- The last request is the outstanding one, if any, and the next one is larger. -/
structure Ordered (receiver : EncryptedUploadV2Receiver) (ids : List Nat) : Prop where
  increasing : ids.Pairwise (· < ·)
  below : receiver.terminal = false → ∀ id ∈ ids, id < receiver.nextRequestId
  last : ∀ io, receiver.io = some io → ids.getLast? = some io.requestId

theorem Ordered.issue {ids : List Nat} {purpose : IoPurpose} (h : Ordered self ids)
    (hrunning : self.terminal = false) :
    Ordered (requested self purpose) (ids ++ [self.nextRequestId]) where
  increasing := List.pairwise_append.mpr
    ⟨h.increasing, List.pairwise_singleton _ _, fun id hid id' hid' => by
      obtain rfl := List.mem_singleton.mp hid'
      exact h.below hrunning id hid⟩
  below := fun _ id hid => by
    rcases List.mem_append.mp hid with hid | hid
    · exact Nat.lt_succ_of_lt (h.below hrunning id hid)
    · obtain rfl := List.mem_singleton.mp hid
      exact Nat.lt_succ_self _
  last := fun io hio => by
    obtain rfl := Option.some.inj hio
    exact List.getLast?_concat

/-- Nothing is issued when no request is left outstanding. -/
theorem Ordered.rest {ids : List Nat} (h : Ordered self ids)
    (hnext : next.terminal = false →
      self.terminal = false ∧ next.nextRequestId = self.nextRequestId)
    (hio : next.io = none) : Ordered next ids where
  increasing := h.increasing
  below := fun hrunning => by
    rw [(hnext hrunning).2]
    exact h.below (hnext hrunning).1
  last := fun io hsome => nomatch hio.symm.trans hsome

theorem Ordered.advance {ids : List Nat} {pending : PendingWindow} {rest : List Packet}
    {action : EncryptedUploadV2ReceiverAction} (h : Ordered self ids)
    (hrunning : self.terminal = false) (hadvance : Advance self pending rest next action) :
    Ordered next (ids ++ (requestOf (.ok action)).toList) := by
  cases hadvance with
  | append batch rest _ => exact h.issue hrunning
  | inspect => exact h.issue hrunning

theorem Ordered.frame {ids : List Nat} {frame : EncryptedUploadV2Transfer}
    {action : EncryptedUploadV2ReceiverAction} (h : Ordered self ids)
    (hrunning : self.terminal = false) (hio : self.io = none)
    (hstep : FrameStep sha256 self frame next action) :
    Ordered next (ids ++ (requestOf (.ok action)).toList) := by
  have hsame : Ordered self (ids ++ []) := by rwa [List.append_nil]
  cases hstep with
  | window value pending written rest _ _ _ _ _ hadvance =>
    have hwindow : Ordered { self with pendingWindow := some pending } ids := h.rest (fun _ => ⟨hrunning, rfl⟩) hio
    exact hwindow.advance hrunning hadvance
  | markerDocument value slot document contextDigest _ _ _ _ _ =>
    have hdocument : Ordered { self with
        markerCount := some value.documentCount
        markerSlot := some slot
        markerContextDigest := some contextDigest } ids := h.rest (fun _ => ⟨hrunning, rfl⟩) hio
    exact hdocument.issue hrunning
  | eof value _ => exact h.issue hrunning
  | _ => exact hsame.rest (fun _ => ⟨hrunning, rfl⟩) hio

theorem Ordered.event {ids : List Nat} {purpose : IoPurpose}
    {event : EncryptedUploadV2ReceiverEvent} {action : EncryptedUploadV2ReceiverAction}
    (h : Ordered self ids) (hrunning : self.terminal = false) (hio : self.io = none)
    (hstep : EventStep sha256 self purpose event next action) :
    Ordered next (ids ++ (requestOf (.ok action)).toList) := by
  have hsame : Ordered self (ids ++ []) := by rwa [List.append_nil]
  cases hstep with
  | untruncated => exact h.issue hrunning
  | appended _ pending written batch rest _ _ _ _ hadvance =>
    have hstaged : Ordered { self with
        stagedOffset := self.stagedOffset + (content batch).length } ids := h.rest (fun _ => ⟨hrunning, rfl⟩) hio
    exact hstaged.advance hrunning hadvance
  | clean => exact h.issue hrunning
  | _ => exact hsame.rest (fun _ => ⟨hrunning, rfl⟩) hio

theorem Ordered.call {ids : List Nat} {input : Call} {reply : Reply} (h : Ordered self ids)
    (hkept : Kept sha256 self) (hstep : CallStep sha256 self input next reply) :
    Ordered next (ids ++ (requestOf reply).toList) := by
  have hsame : Ordered self (ids ++ []) := by rwa [List.append_nil]
  cases hstep with
  | refused _ error _ => exact hsame
  | failed _ _ error _ hterminal hio _ _ =>
    exact hsame.rest (fun hrunning => nomatch hterminal.symm.trans hrunning) hio
  | cancelled => exact hsame.rest nofun rfl
  | started hrunning hstarted =>
    have hio := ((hkept.running hrunning).unstarted hstarted).2.1
    have hstart : Ordered { self with started := true } ids := h.rest (fun _ => ⟨hrunning, rfl⟩) hio
    exact hstart.issue hrunning
  | received bytes frame _ action hrunning hio _ _ hstep => exact h.frame hrunning hio hstep
  | answered event purpose _ action hrunning _ hstep =>
    have htaken : Ordered { self with io := none } ids := h.rest (fun _ => ⟨hrunning, rfl⟩) rfl
    exact htaken.event hrunning rfl hstep

/-! ## The end -/

/-- The calls after which nothing happens any more. -/
def Stops (input : Call) (self : EncryptedUploadV2Receiver) (reply : Reply) : Prop :=
  input = .cancel ∨
    (∃ manifest evidence markerEvidence, reply = .ok (.complete manifest evidence markerEvidence)) ∨
    ∃ error, reply = .err error ∧ ¬Benign self input

theorem Advance.not_complete {pending : PendingWindow} {rest : List Packet}
    {action : EncryptedUploadV2ReceiverAction} (h : Advance self pending rest next action) :
    ∀ manifest evidence markerEvidence, action ≠ .complete manifest evidence markerEvidence := by
  cases h <;> exact nofun

theorem FrameStep.not_complete {frame : EncryptedUploadV2Transfer}
    {action : EncryptedUploadV2ReceiverAction} (h : FrameStep sha256 self frame next action) :
    ∀ manifest evidence markerEvidence, action ≠ .complete manifest evidence markerEvidence := by
  cases h with
  | window _ _ _ _ _ _ _ _ _ hadvance => exact hadvance.not_complete
  | _ => exact nofun

theorem EventStep.terminal_of_complete {purpose : IoPurpose}
    {event : EncryptedUploadV2ReceiverEvent} {manifest : List UInt8}
    {evidence : EncryptedUploadV2TransferEvidence}
    {markerEvidence : Option EncryptedUploadV2ReceiverMarkerEvidence}
    (h : EventStep sha256 self purpose event next (.complete manifest evidence markerEvidence)) :
    next.terminal = true := by
  cases h with
  | appended _ _ _ _ _ _ _ _ _ hadvance => exact absurd rfl (hadvance.not_complete _ _ _)
  | completed => rfl

theorem CallStep.terminal_of_stops {input : Call} {reply : Reply}
    (h : CallStep sha256 self input next reply) (hstops : Stops input self reply) :
    next.terminal = true := by
  cases h with
  | refused _ error hrefused =>
    rcases hstops with rfl | ⟨_, _, _, heq⟩ | ⟨_, _, hbenign⟩
    · exact hrefused.elim
    · exact nomatch heq
    · -- what is refused and not benign was refused by a terminal receiver
      cases input with
      | start => exact hrefused.resolve_right hbenign
      | cancel => exact hrefused.elim
      | receive bytes => exact hrefused.resolve_right hbenign
      | apply event => exact hrefused.resolve_right hbenign
  | failed _ _ error _ hterminal _ _ _ => exact hterminal
  | cancelled => rfl
  | started =>
    rcases hstops with heq | ⟨_, _, _, heq⟩ | ⟨_, heq, _⟩
    · exact nomatch heq
    · exact nomatch heq
    · exact nomatch heq
  | received bytes frame _ action _ _ _ _ hstep =>
    rcases hstops with heq | ⟨manifest, evidence, markerEvidence, heq⟩ | ⟨_, heq, _⟩
    · exact nomatch heq
    · exact absurd (Outcome.ok.inj heq) (hstep.not_complete manifest evidence markerEvidence)
    · exact nomatch heq
  | answered event purpose _ action _ _ hstep =>
    rcases hstops with heq | ⟨manifest, evidence, markerEvidence, heq⟩ | ⟨_, heq, _⟩
    · exact nomatch heq
    · obtain rfl := Outcome.ok.inj heq
      exact hstep.terminal_of_complete
    · exact nomatch heq

/-- A terminal receiver stays so and is silent. -/
theorem CallStep.silent {input : Call} {reply : Reply} (h : CallStep sha256 self input next reply)
    (hterminal : self.terminal = true) :
    next.terminal = true ∧ ∀ action, reply = .ok action → action = .none := by
  cases h with
  | refused _ error _ => exact ⟨hterminal, nofun⟩
  | failed _ _ error _ hnext _ _ _ => exact ⟨hnext, nofun⟩
  | cancelled => exact ⟨rfl, fun action heq => (Outcome.ok.inj heq).symm⟩
  | started hrunning => exact absurd (hterminal.symm.trans hrunning) (by decide)
  | received _ _ _ _ hrunning => exact absurd (hterminal.symm.trans hrunning) (by decide)
  | answered _ _ _ _ hrunning => exact absurd (hterminal.symm.trans hrunning) (by decide)

end Steps

/-! ## Runs -/

section Runs

variable {sha256 : List UInt8 → FixedBytes 32} {config : EncryptedUploadV2ReceiverConfig}
  {receiver s : EncryptedUploadV2Receiver} {tr : List Exchange}

theorem ordered_of_calls (hnew : new sha256 config = .ok receiver)
    (h : Calls sha256 receiver tr s) : Kept sha256 s ∧ Ordered s (requestIds tr) := by
  refine h.invariant (fun tr s => Kept sha256 s ∧ Ordered s (requestIds tr)) ⟨kept_of_new hnew, ?_⟩
    fun tr s input _ hinv _ => ⟨hinv.1.call input, ?_⟩
  · obtain ⟨-, rfl⟩ := new_eq_ok hnew
    exact ⟨List.Pairwise.nil, fun _ _ hid => (nomatch hid), nofun⟩
  · rw [requestIds_concat]
    exact hinv.2.call hinv.1 (call_cases hinv.1 input)

/-- In every state that calls can reach: the rejections of a second start, of a frame that comes too
early and of a callback with another request id change nothing; requests are issued with increasing ids,
and only the last one can be outstanding; and after a cancel, a completion or any other error the
receiver is terminal and emits no further action. -/
theorem rejections_and_end (sha256 : List UInt8 → FixedBytes 32)
    (config : EncryptedUploadV2ReceiverConfig) (receiver s : EncryptedUploadV2Receiver)
    (tr : List Exchange) (hnew : new sha256 config = .ok receiver)
    (h : Calls sha256 receiver tr s) :
    (∀ input, Benign s input → ∃ error, call sha256 s input = (s, .err error)) ∧
      (requestIds tr).Pairwise (· < ·) ∧
      (∀ io, s.io = some io → (requestIds tr).getLast? = some io.requestId) ∧
      ∀ before e after, tr = before ++ e :: after → Stops e.input e.pre e.output →
        s.terminal = true ∧ ∀ later ∈ after, ∀ action, later.output = .ok action → action = .none := by
  obtain ⟨-, hordered⟩ := ordered_of_calls hnew h
  refine ⟨fun input => call_benign, hordered.increasing, hordered.last,
    fun before e after heq hstops => ?_⟩
  obtain ⟨hbefore, -, houtput, hafter⟩ := h.split heq
  have hstep := call_cases (kept_of_calls hnew hbefore) e.input
  rw [← houtput] at hstep
  have hlast : ∀ s input, Kept sha256 s ∧ s.terminal = true →
      Kept sha256 (call sha256 s input).1 ∧ (call sha256 s input).1.terminal = true :=
    fun s input hs => ⟨hs.1.call input, ((call_cases hs.1 input).silent hs.2).1⟩
  obtain ⟨hs, hlater⟩ := h.lasting hlast heq
    ⟨kept_of_calls hnew hafter, hstep.terminal_of_stops hstops⟩
  refine ⟨hs.2, fun later hmem action houtput => ?_⟩
  obtain ⟨hpre, hreply⟩ := hlater later hmem
  exact ((call_cases hpre.1 later.input).silent hpre.2).2 action (hreply.symm.trans houtput)

def sampleRejections : List Call :=
  [.start, .start, .apply (.applied 9), .receive []]

/-- Three rejections, and a callback of the wrong kind that takes the request and ends the receiver. -/
theorem rejections_and_end_sample :
    let run := Machine.exec (call Sha256.digest) [] (fresh sampleConfig)
      (sampleRejections ++ [.apply (.applied 1)])
    requestIds run.1 = [1] ∧
      run.1.map (fun e => e.output.isOk) = [true, false, false, false, false] ∧
      run.2.terminal = true := by
  have hrun : Calls Sha256.digest (fresh sampleConfig) _ _ :=
    .exec (Machine.allowed_true _ (fresh sampleConfig)
      (sampleRejections ++ [.apply (.applied 1)]))
  have h := rejections_and_end Sha256.digest sampleConfig (fresh sampleConfig) _ _ rfl hrun
  refine ⟨by decide +kernel, by decide +kernel, ?_⟩
  let front := Machine.exec (call Sha256.digest) [] (fresh sampleConfig) sampleRejections
  have hkind : (call Sha256.digest front.2 (.apply (.applied 1))).2 =
      .err (failure .unexpectedEvent "v2 receiver I/O result kind mismatch") := by decide +kernel
  have houtstanding : front.2.io.map PendingIo.requestId = some 1 := by decide +kernel
  exact (h.2.2.2 front.1 _ [] (congrArg Prod.fst (Machine.exec_concat [] _ sampleRejections _))
    (.inr (.inr ⟨_, hkind, not_not.mpr houtstanding⟩))).1

end Runs

end BotaSdk.EncryptedUploadV2Receiver
