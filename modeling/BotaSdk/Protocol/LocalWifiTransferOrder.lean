import BotaSdk.Lib.Checked
import BotaSdk.Lib.Sha256
import BotaSdk.Lib.Since
import BotaSdk.Protocol.LocalWifiTransfer

/-!
# The calls of a local Wi-Fi transfer

`Moves` lists what each accepted call does; the results about call sequences never unfold the calls.
-/

namespace BotaSdk

open Protocol LocalWifiTransfer LocalWifi TransferV2 Trace

namespace LocalWifiTransferReceiver

abbrev CallEntry := Machine.Entry LocalWifiTransferReceiver Call (Except DeviceSdkError Reply)

/-! ## Accepted and refused calls -/

/-- Every accepted call, with its reply and the state that it leaves. -/
inductive Moves (sha256 : List UInt8 → FixedBytes 32) (r : LocalWifiTransferReceiver) :
    Call → Reply → LocalWifiTransferReceiver → Prop
  | prepared (bytes : List UInt8) (e : LocalWifiEvidence) : r.phase = .prepared →
      Moves sha256 r (.prepared bytes) .unit { r with evidence := some e, phase := .manifest }
  | manifest (bytes manifest : List UInt8) : r.phase = .manifest →
      Moves sha256 r (.manifest bytes) (.complete false) { r with manifest }
  | manifestDone (bytes manifest : List UInt8) (e : LocalWifiEvidence) : r.phase = .manifest →
      r.evidence = some e → manifest.length = UPLOAD_MANIFEST_V2_FIXED_LENGTH →
      sha256 manifest = e.manifestSha256 →
      Moves sha256 r (.manifest bytes) (.complete true) { r with manifest, phase := .resume }
  | rebaseCheckpoint (checkpoint next : LocalWifiCheckpoint) (recovery : LocalWifiRecovery) :
      r.phase = .resume →
      Moves sha256 r (.rebaseCheckpoint checkpoint recovery) (.checkpoint next) r
  | resumePrefix (checkpoint : Option LocalWifiCheckpoint) (offset : Nat) : r.phase = .resume →
      Moves sha256 r (.resumePrefix checkpoint) (.offset offset) r
  | resume (checkpoint : Option LocalWifiCheckpoint) (proof : LocalWifiFileProof)
      (plan : LocalWifiResumePlan) : r.phase = .resume →
      plan.offset < r.config.ciphertextLength →
      Moves sha256 r (.resume checkpoint proof) (.plan plan)
        { r with offset := plan.offset, phase := .response }
  | retained (checkpoint : Option LocalWifiCheckpoint) (proof : LocalWifiFileProof)
      (plan : LocalWifiResumePlan) : r.phase = .resume →
      plan.offset = r.config.ciphertextLength → proof.byteLength = r.config.ciphertextLength →
      proof.prefixSha256 = r.config.ciphertextSha256 →
      Moves sha256 r (.resume checkpoint proof) (.plan plan)
        { r with offset := plan.offset, phase := .ready }
  | response (response : LocalWifiHttpResponse) : r.phase = .response →
      Moves sha256 r (.response response) .unit { r with phase := .reading }
  | chunk (length : Nat) : r.phase = .reading → 0 < length →
      r.offset + length ≤ r.config.ciphertextLength →
      Moves sha256 r (.chunk length) (.offset r.offset)
        { r with offset := r.offset + length, phase := .flushing }
  | flushed (proof : LocalWifiFileProof) (cp : LocalWifiCheckpoint) : r.phase = .flushing →
      proof.byteLength = r.offset →
      (r.offset = r.config.ciphertextLength → proof.prefixSha256 = r.config.ciphertextSha256) →
      cp.nextCiphertextOffset = r.offset →
      Moves sha256 r (.flushed proof) (.checkpoint cp) { r with pending := some cp, phase := .saving }
  | saved (cp : LocalWifiCheckpoint) : r.phase = .saving → r.pending = some cp →
      Moves sha256 r (.saved cp) .unit { r with pending := none, phase := .reading }
  | readerClosed : r.phase = .reading → r.offset = r.config.ciphertextLength →
      Moves sha256 r .readerClosed .unit { r with phase := .ready }
  | finish (frame : List UInt8) : r.phase = .ready ∨ r.phase = .finishing →
      Moves sha256 r .finish (.frame frame) { r with phase := .finishing }
  | eof (bytes : List UInt8) (own : LocalWifiEvidence)
      (evidence : EncryptedUploadV2TransferEvidence) : r.phase = .finishing →
      r.evidence = some own → evidence.manifestSha256 = own.manifestSha256 →
      Moves sha256 r (.eof bytes) (.evidence evidence) { r with phase := .completed }
  | cancel : Moves sha256 r .cancel .unit r.cancel

/-- What a refused call may still have changed. -/
def Spoils (r r' : LocalWifiTransferReceiver) : Prop :=
  r' = r ∨ (r.phase = .resume ∧ ∃ offset, r' = { r with offset }) ∨
    (r.phase = .manifest ∧ ∃ manifest, r' = { r with manifest })

section Steps

variable {sha256 : List UInt8 → FixedBytes 32} {r : LocalWifiTransferReceiver}

/-- A call is accepted, or its error is returned. -/
def Handled (sha256 : List UInt8 → FixedBytes 32) (r : LocalWifiTransferReceiver) (call : Call)
    (result : LocalWifiTransferReceiver × Except DeviceSdkError Reply) : Prop :=
  (∃ reply, result.2 = .ok reply ∧ Moves sha256 r call reply result.1) ∨
    ∃ error, result.2 = .error error ∧ Spoils r result.1

theorem handled_fail {α : Type} {call : Call} {reply : α → Reply} (error : DeviceSdkError) :
    Handled sha256 r call (answer reply (r.fail error)) :=
  .inr ⟨error, rfl, .inl rfl⟩

theorem handled_refuse {α : Type} {call : Call} {reply : α → Reply} :
    Handled sha256 r call (answer reply r.refuse) :=
  handled_fail _

theorem handled_ite {α : Type} {call : Call} {reply : α → Reply} {c : Prop} [Decidable c]
    {x y : Outcome α} (hx : c → Handled sha256 r call (answer reply x))
    (hy : ¬c → Handled sha256 r call (answer reply y)) :
    Handled sha256 r call (answer reply (if c then x else y)) := by
  by_cases h : c
  · rw [if_pos h]
    exact hx h
  · rw [if_neg h]
    exact hy h

theorem handled_prepared (bytes : List UInt8) :
    Handled sha256 r (.prepared bytes) (apply sha256 r (.prepared bytes)) := by
  rw [apply, prepared]
  by_cases hphase : r.phase ≠ .prepared
  · rw [if_pos hphase]
    exact handled_refuse
  rw [if_neg hphase]
  split
  · exact handled_fail _
  · dsimp only
    split
    · exact handled_refuse
    · exact .inl ⟨_, rfl, .prepared bytes _ (not_not.mp hphase)⟩

theorem handled_manifest (bytes : List UInt8) :
    Handled sha256 r (.manifest bytes) (apply sha256 r (.manifest bytes)) := by
  rw [apply, manifestChunk]
  by_cases hphase : r.phase ≠ .manifest ∨ LOCAL_WIFI_EVENT_BYTES < bytes.length
  · rw [if_pos hphase]
    exact handled_refuse
  rw [if_neg hphase]
  rw [not_or, not_not] at hphase
  split
  · exact handled_fail _
  · split
    · exact handled_refuse
    · rename_i e he
      split
      · exact handled_refuse
      · dsimp only
        split
        · rename_i hlength
          split
          · exact .inr ⟨_, rfl, .inr (.inr ⟨hphase.1, _, rfl⟩)⟩
          · rename_i hsha
            exact .inl ⟨_, rfl, .manifestDone bytes _ e hphase.1 he hlength (not_not.mp hsha)⟩
        · exact .inl ⟨_, rfl, .manifest bytes _ hphase.1⟩
  · exact handled_refuse

theorem handled_resume (checkpoint : Option LocalWifiCheckpoint) (proof : LocalWifiFileProof) :
    Handled sha256 r (.resume checkpoint proof) (apply sha256 r (.resume checkpoint proof)) := by
  rw [apply, resume]
  by_cases hphase : r.phase ≠ .resume
  · rw [if_pos hphase]
    exact handled_refuse
  rw [if_neg hphase]
  rw [not_not] at hphase
  dsimp only
  split
  · exact handled_fail _
  · split
    · exact handled_refuse
    · rename_i hbound
      rw [not_or, Nat.not_lt, not_and, not_not] at hbound
      split
      · exact .inr ⟨_, rfl, .inr (.inl ⟨hphase, _, rfl⟩)⟩
      · rename_i hexact
        rw [not_and, not_not] at hexact
        by_cases hcomplete : checkpoint.elim 0 (·.nextCiphertextOffset) = r.config.ciphertextLength
        · rw [if_pos hcomplete]
          exact .inl ⟨_, rfl, .retained checkpoint proof _ hphase hcomplete
            ((hexact hcomplete).trans hcomplete) (hbound.2 hcomplete)⟩
        · rw [if_neg hcomplete]
          exact .inl ⟨_, rfl, .resume checkpoint proof _ hphase
            (Nat.lt_of_le_of_ne hbound.1 hcomplete)⟩

theorem handled_response (response : LocalWifiHttpResponse) :
    Handled sha256 r (.response response) (apply sha256 r (.response response)) := by
  rw [apply, LocalWifiTransferReceiver.response]
  refine handled_ite (fun _ => handled_refuse) fun hphase => ?_
  exact handled_ite (fun _ => handled_refuse) fun _ =>
    .inl ⟨_, rfl, .response response (not_not.mp hphase)⟩

theorem handled_chunk (length : Nat) :
    Handled sha256 r (.chunk length) (apply sha256 r (.chunk length)) := by
  rw [apply, chunk]
  split
  · exact handled_refuse
  · rename_i hready
    rw [not_or, not_or, not_not] at hready
    split
    · exact handled_refuse
    · split
      · exact handled_refuse
      · rename_i hroom
        exact .inl ⟨_, rfl, .chunk length hready.1 (Nat.pos_of_ne_zero hready.2.1)
          (Nat.not_lt.mp hroom)⟩

theorem checkpoint_offset {offset : Nat} {prefixSha256 : FixedBytes 32} {cp : LocalWifiCheckpoint}
    (h : r.checkpoint offset prefixSha256 = .ok cp) : cp.nextCiphertextOffset = offset := by
  rw [checkpoint] at h
  split at h
  · exact nomatch h
  · obtain rfl := Except.ok.inj h
    rfl

theorem handled_flushed (proof : LocalWifiFileProof) :
    Handled sha256 r (.flushed proof) (apply sha256 r (.flushed proof)) := by
  rw [apply, flushed]
  split
  · exact handled_refuse
  · rename_i hready
    rw [not_or, not_or, not_not, not_not, not_and, not_not] at hready
    split
    · exact handled_fail _
    · rename_i cp hcp
      exact .inl ⟨_, rfl, .flushed proof cp hready.1 hready.2.1 hready.2.2 (checkpoint_offset hcp)⟩

theorem handled_saved (cp : LocalWifiCheckpoint) :
    Handled sha256 r (.saved cp) (apply sha256 r (.saved cp)) := by
  rw [apply, saved]
  split
  · exact handled_refuse
  · rename_i hready
    rw [not_or, not_not, not_not] at hready
    exact .inl ⟨_, rfl, .saved cp hready.1 hready.2⟩

theorem handled_readerClosed : Handled sha256 r .readerClosed (apply sha256 r .readerClosed) := by
  rw [apply, readerClosed]
  split
  · exact handled_refuse
  · rename_i hready
    rw [not_or, not_not, not_not] at hready
    exact .inl ⟨_, rfl, .readerClosed hready.1 hready.2⟩

theorem handled_finish : Handled sha256 r .finish (apply sha256 r .finish) := by
  rw [apply, finish]
  split
  · exact handled_refuse
  · rename_i hready
    split
    · exact handled_refuse
    · split
      · exact handled_fail _
      · exact .inl ⟨_, rfl, .finish _ (by tauto)⟩

theorem handled_eof (bytes : List UInt8) :
    Handled sha256 r (.eof bytes) (apply sha256 r (.eof bytes)) := by
  rw [apply, eof]
  by_cases hphase : r.phase ≠ .finishing
  · rw [if_pos hphase]
    exact handled_refuse
  rw [if_neg hphase]
  split
  · exact handled_fail _
  · split
    · exact handled_refuse
    · rename_i e _ own hown
      dsimp only
      split
      · exact handled_refuse
      · rename_i hsame
        refine .inl ⟨_, rfl, .eof bytes own _ (not_not.mp hphase) hown ?_⟩
        rw [not_not.mp hsame]

theorem handled_query {α : Type} {call : Call} {reply : α → Reply} {result : Except DeviceSdkError α}
    (h : ∀ value, result = .ok value → Moves sha256 r call (reply value) r) :
    Handled sha256 r call (answer reply (r, result)) := by
  cases result with
  | error error => exact .inr ⟨error, rfl, .inl rfl⟩
  | ok value => exact .inl ⟨reply value, rfl, h value rfl⟩

theorem apply_handled (sha256 : List UInt8 → FixedBytes 32) (r : LocalWifiTransferReceiver)
    (call : Call) : Handled sha256 r call (apply sha256 r call) := by
  cases call with
  | prepared bytes => exact handled_prepared bytes
  | manifest bytes => exact handled_manifest bytes
  | rebaseCheckpoint checkpoint recovery =>
    refine handled_query fun next hnext => .rebaseCheckpoint checkpoint next recovery ?_
    by_contra hphase
    rw [rebaseCheckpoint, if_pos (.inl hphase)] at hnext
    exact nomatch hnext
  | resumePrefix checkpoint =>
    refine handled_query fun offset hoffset => .resumePrefix checkpoint offset ?_
    by_contra hphase
    unfold resumePrefix at hoffset
    rw [if_pos hphase] at hoffset
    exact nomatch hoffset
  | resume checkpoint proof => exact handled_resume checkpoint proof
  | response response => exact handled_response response
  | chunk length => exact handled_chunk length
  | flushed proof => exact handled_flushed proof
  | saved cp => exact handled_saved cp
  | readerClosed => exact handled_readerClosed
  | finish => exact handled_finish
  | eof bytes => exact handled_eof bytes
  | cancel => exact .inl ⟨_, rfl, .cancel⟩

end Steps

/-! ## Histories -/

def IsResume (e : CallEntry) (offset : Nat) : Prop :=
  ∃ checkpoint proof plan, e.input = .resume checkpoint proof ∧ e.output = .ok (.plan plan) ∧
    plan.offset = offset

def IsChunk (e : CallEntry) (start length : Nat) : Prop :=
  e.input = .chunk length ∧ e.output = .ok (.offset start)

def IsFlush (e : CallEntry) (cp : LocalWifiCheckpoint) : Prop :=
  ∃ proof, e.input = .flushed proof ∧ e.output = .ok (.checkpoint cp)

def IsSave (e : CallEntry) (cp : LocalWifiCheckpoint) : Prop :=
  e.input = .saved cp ∧ e.output = .ok .unit

/-- `resume` or `flushed` has accepted a proof of the whole ciphertext. -/
def Proves (config : LocalWifiTransferConfig) (e : CallEntry) : Prop :=
  ∃ proof : LocalWifiFileProof,
    ((∃ checkpoint, e.input = .resume checkpoint proof) ∨ e.input = .flushed proof) ∧
      (∃ reply, e.output = .ok reply) ∧ proof.byteLength = config.ciphertextLength ∧
      proof.prefixSha256 = config.ciphertextSha256

/-- The call authorises no chunk. -/
def Unread (e : CallEntry) : Prop :=
  ∀ start length, ¬IsChunk e start length

def Proven (config : LocalWifiTransferConfig) : List CallEntry → Prop :=
  Since Unread fun _ e => Proves config e

/-- The last chunk ends at `offset`. -/
def Read (offset : Nat) : List CallEntry → Prop :=
  Since Unread fun _ e => ∃ start length, IsChunk e start length ∧ start + length = offset

/-- The last chunk ends at `offset`, and `cp` was returned for it. -/
def Flushed (offset : Nat) (cp : LocalWifiCheckpoint) : List CallEntry → Prop :=
  Since Unread fun before e => IsFlush e cp ∧ Read offset before

/-- `offset` is where the next chunk starts: where the transfer was resumed, or the end of the last
chunk, for which the very checkpoint that was returned has been saved. -/
def Next (offset : Nat) (history : List CallEntry) : Prop :=
  Since Unread (fun _ e => IsResume e offset) history ∨
    Since Unread (fun before e => ∃ cp, IsSave e cp ∧ Flushed offset cp before) history

/-- Every checkpoint so far, and where the transfer was resumed, is below `bound`. -/
def Below (bound : Nat) (history : List CallEntry) : Prop :=
  ∀ e ∈ history, (∀ offset, IsResume e offset → offset < bound) ∧
    ∀ cp, IsFlush e cp → cp.nextCiphertextOffset < bound

/-- The phases in which the manifest has been authenticated. -/
def Authenticated : LocalWifiTransfer.Phase → Prop
  | .prepared | .manifest | .cancelled => False
  | _ => True

/-- What the phase says about the calls so far. -/
structure Story (sha256 : List UInt8 → FixedBytes 32) (config : LocalWifiTransferConfig)
    (history : List CallEntry) (r : LocalWifiTransferReceiver) : Prop where
  admitted : r.config = config
  manifest : Authenticated r.phase → ∃ own, r.evidence = some own ∧
    r.manifest.length = UPLOAD_MANIFEST_V2_FIXED_LENGTH ∧ sha256 r.manifest = own.manifestSha256
  early : r.phase = .prepared ∨ r.phase = .manifest ∨ r.phase = .resume →
    ∀ bound, Below bound history
  response : r.phase = .response → Next r.offset history ∧ Below (r.offset + 1) history ∧
    r.offset < config.ciphertextLength
  reading : r.phase = .reading → Next r.offset history ∧ Below (r.offset + 1) history ∧
    (r.offset = config.ciphertextLength → Proven config history)
  flushing : r.phase = .flushing → Read r.offset history ∧ Below r.offset history ∧
    r.offset ≤ config.ciphertextLength
  saving : r.phase = .saving → ∃ cp, r.pending = some cp ∧ Flushed r.offset cp history ∧
    Below (r.offset + 1) history ∧ (r.offset = config.ciphertextLength → Proven config history)
  ready : r.phase = .ready ∨ r.phase = .finishing → Proven config history

section Histories

variable {sha256 : List UInt8 → FixedBytes 32} {config : LocalWifiTransferConfig}
  {history : List CallEntry} {r r' : LocalWifiTransferReceiver} {call : Call} {reply : Reply}
  {bound bound' offset : Nat} {e : CallEntry}

theorem Below.mono (h : Below bound history) (hle : bound ≤ bound') : Below bound' history :=
  fun e he => ⟨fun offset hoffset => Nat.lt_of_lt_of_le ((h e he).1 offset hoffset) hle,
    fun cp hcp => Nat.lt_of_lt_of_le ((h e he).2 cp hcp) hle⟩

theorem Below.snoc (h : Below bound history) (hresume : ∀ offset, IsResume e offset → offset < bound)
    (hflush : ∀ cp, IsFlush e cp → cp.nextCiphertextOffset < bound) :
    Below bound (history ++ [e]) := by
  intro a ha
  rcases List.mem_append.mp ha with ha | ha
  · exact h a ha
  · obtain rfl := List.mem_singleton.mp ha
    exact ⟨hresume, hflush⟩

theorem Next.later (h : Next offset history) (he : Unread e) : Next offset (history ++ [e]) :=
  h.imp (·.later he) (·.later he)

/-- A call that neither resumes, nor authorises or flushes a chunk, changes nothing of the past. -/
structure Plain (e : CallEntry) : Prop where
  resume : ∀ offset, ¬IsResume e offset
  unread : Unread e
  flush : ∀ cp, ¬IsFlush e cp

theorem Below.plain (h : Below bound history) (he : Plain e) : Below bound (history ++ [e]) :=
  h.snoc (fun _ hresume => absurd hresume (he.resume _)) fun _ hflush => absurd hflush (he.flush _)

theorem plain_error {error : DeviceSdkError} (h : e.output = .error error) : Plain e := by
  refine ⟨?_, ?_, ?_⟩
  · rintro offset ⟨_, _, _, _, hok, _⟩
    exact nomatch hok.symm.trans h
  · rintro start length ⟨_, hok⟩
    exact nomatch hok.symm.trans h
  · rintro cp ⟨_, _, hok⟩
    exact nomatch hok.symm.trans h

theorem plain_input (hinput : e.input = call)
    (hcall : (∀ checkpoint proof, call ≠ .resume checkpoint proof) ∧ (∀ length, call ≠ .chunk length) ∧
      ∀ proof, call ≠ .flushed proof) : Plain e := by
  subst hinput
  refine ⟨?_, ?_, ?_⟩
  · rintro offset ⟨_, _, _, h, _⟩
    exact hcall.1 _ _ h
  · rintro start length ⟨h, _⟩
    exact hcall.2.1 _ h
  · rintro cp ⟨_, h, _⟩
    exact hcall.2.2 _ h

/-- What a call that changes no phase but the early ones keeps. -/
theorem Story.plain (h : Story sha256 config history r) (he : Plain e) :
    Story sha256 config (history ++ [e]) r where
  admitted := h.admitted
  manifest := h.manifest
  early hphase bound := (h.early hphase bound).plain he
  response hphase := by
    obtain ⟨hnext, hbelow, hlt⟩ := h.response hphase
    exact ⟨hnext.later he.unread, hbelow.plain he, hlt⟩
  reading hphase := by
    obtain ⟨hnext, hbelow, hproven⟩ := h.reading hphase
    exact ⟨hnext.later he.unread, hbelow.plain he, fun hend => (hproven hend).later he.unread⟩
  flushing hphase := by
    obtain ⟨hread, hbelow, hle⟩ := h.flushing hphase
    exact ⟨hread.later he.unread, hbelow.plain he, hle⟩
  saving hphase := by
    obtain ⟨cp, hpending, hflushed, hbelow, hproven⟩ := h.saving hphase
    exact ⟨cp, hpending, hflushed.later he.unread, hbelow.plain he,
      fun hend => (hproven hend).later he.unread⟩
  ready hphase := (h.ready hphase).later he.unread

theorem Spoils.story (hspoils : Spoils r r') (h : Story sha256 config history r) :
    Story sha256 config history r' := by
  rcases hspoils with rfl | ⟨hphase, offset, rfl⟩ | ⟨hphase, manifest, rfl⟩
  · exact h
  · refine ⟨h.admitted, h.manifest, h.early, ?_, ?_, ?_, ?_, ?_⟩
    · exact fun hother => nomatch hphase.symm.trans hother
    · exact fun hother => nomatch hphase.symm.trans hother
    · exact fun hother => nomatch hphase.symm.trans hother
    · exact fun hother => nomatch hphase.symm.trans hother
    · rintro (hother | hother) <;> exact nomatch hphase.symm.trans hother
  · refine ⟨h.admitted, fun hauth => ?_, h.early, h.response, h.reading, h.flushing, h.saving,
      h.ready⟩
    have hauth' : Authenticated r.phase := hauth
    rw [hphase] at hauth'
    exact hauth'.elim

theorem below_of_resume (h : ∀ bound, Below bound history) (hresume : IsResume e offset)
    (hunread : ∀ cp, ¬IsFlush e cp) (hlt : offset < bound) : Below bound (history ++ [e]) := by
  refine (h bound).snoc (fun other hother => ?_) fun cp hcp => absurd hcp (hunread cp)
  obtain ⟨_, _, plan, _, hok, rfl⟩ := hresume
  obtain ⟨_, _, plan', _, hok', rfl⟩ := hother
  obtain ⟨⟩ := hok.symm.trans hok'
  exact hlt

/-- An accepted call takes the story one step further. -/
theorem Moves.story (hmoves : Moves sha256 r call reply r') (h : Story sha256 config history r)
    (hinput : e.input = call) (houtput : e.output = .ok reply) :
    Story sha256 config (history ++ [e]) r' := by
  have hadmitted := h.admitted
  -- a call is accepted in one phase, whose facts give those of the next
  cases hmoves with
  | prepared bytes own hphase =>
    have hplain : Plain e := plain_input hinput ⟨nofun, nofun, nofun⟩
    refine ⟨hadmitted, nofun, fun _ bound => ?_, nofun, nofun, nofun, nofun, nofun⟩
    exact (h.early (.inl hphase) bound).plain hplain
  | manifest bytes manifest hphase =>
    have hplain : Plain e := plain_input hinput ⟨nofun, nofun, nofun⟩
    exact Spoils.story (.inr (.inr ⟨hphase, manifest, rfl⟩)) (h.plain hplain)
  | manifestDone bytes manifest own hphase hown hlength hsha =>
    have hplain : Plain e := plain_input hinput ⟨nofun, nofun, nofun⟩
    refine ⟨hadmitted, fun _ => ⟨own, hown, hlength, hsha⟩, fun _ bound => ?_, nofun, nofun, nofun,
      nofun, nofun⟩
    exact (h.early (.inr (.inl hphase)) bound).plain hplain
  | rebaseCheckpoint => exact h.plain (plain_input hinput ⟨nofun, nofun, nofun⟩)
  | resumePrefix => exact h.plain (plain_input hinput ⟨nofun, nofun, nofun⟩)
  | resume checkpoint proof plan hphase hlt =>
    have hresume : IsResume e plan.offset := ⟨checkpoint, proof, plan, hinput, houtput, rfl⟩
    have hnoflush : ∀ cp, ¬IsFlush e cp := fun cp ⟨_, hflush, _⟩ => nomatch hinput.symm.trans hflush
    have hearly := h.early (.inr (.inr hphase))
    refine ⟨hadmitted, fun _ => h.manifest ?_, nofun, fun _ => ⟨.inl (.now hresume), ?_, ?_⟩, nofun,
      nofun, nofun, nofun⟩
    · rw [hphase]
      trivial
    · exact below_of_resume hearly hresume hnoflush (Nat.lt_succ_self _)
    · rw [← hadmitted]
      exact hlt
  | retained checkpoint proof plan hphase hend hlength hsha =>
    refine ⟨hadmitted, fun _ => h.manifest ?_, nofun, nofun, nofun, nofun, nofun, fun _ => .now ?_⟩
    · rw [hphase]
      trivial
    · rw [hadmitted] at hlength hsha
      exact ⟨proof, .inl ⟨checkpoint, hinput⟩, ⟨_, houtput⟩, hlength, hsha⟩
  | response response hphase =>
    have hplain : Plain e := plain_input hinput ⟨nofun, nofun, nofun⟩
    obtain ⟨hnext, hbelow, hlt⟩ := h.response hphase
    refine ⟨hadmitted, fun _ => h.manifest ?_, nofun, nofun,
      fun _ => ⟨hnext.later hplain.unread, hbelow.plain hplain, fun hend => ?_⟩, nofun, nofun, nofun⟩
    · rw [hphase]
      trivial
    · exact absurd hend (Nat.ne_of_lt hlt)
  | chunk length hphase hpos hroom =>
    obtain ⟨-, hbelow, -⟩ := h.reading hphase
    have hchunk : IsChunk e r.offset length := ⟨hinput, houtput⟩
    refine ⟨hadmitted, fun _ => h.manifest ?_, nofun, nofun, nofun,
      fun _ => ⟨.now ⟨_, _, hchunk, rfl⟩, ?_, ?_⟩, nofun, nofun⟩
    · rw [hphase]
      trivial
    · refine (hbelow.mono (Nat.add_le_add_left hpos _)).snoc ?_ ?_
      · rintro offset ⟨_, _, _, hresume, _⟩
        exact nomatch hinput.symm.trans hresume
      · rintro cp ⟨_, hflush, _⟩
        exact nomatch hinput.symm.trans hflush
    · rw [← hadmitted]
      exact hroom
  | flushed proof cp hphase hlength hsha hoffset =>
    obtain ⟨hread, hbelow, hle⟩ := h.flushing hphase
    have hflush : IsFlush e cp := ⟨proof, hinput, houtput⟩
    refine ⟨hadmitted, fun _ => h.manifest ?_, nofun, nofun, nofun, nofun,
      fun _ => ⟨cp, rfl, .now ⟨hflush, hread⟩, ?_, fun hend => .now ?_⟩, nofun⟩
    · rw [hphase]
      trivial
    · refine (hbelow.mono (Nat.le_succ _)).snoc ?_ ?_
      · rintro offset ⟨_, _, _, hresume, _⟩
        exact nomatch hinput.symm.trans hresume
      · rintro cp' ⟨_, _, houtput'⟩
        obtain ⟨⟩ := houtput.symm.trans houtput'
        rw [hoffset]
        exact Nat.lt_succ_self _
    · have hend' : r.offset = r.config.ciphertextLength := hadmitted ▸ hend
      exact ⟨proof, .inr hinput, ⟨_, houtput⟩, hlength.trans hend, hadmitted ▸ hsha hend'⟩
  | saved cp hphase hpending =>
    have hplain : Plain e := plain_input hinput ⟨nofun, nofun, nofun⟩
    obtain ⟨cp', hpending', hflushed, hbelow, hproven⟩ := h.saving hphase
    obtain rfl := Option.some.inj (hpending.symm.trans hpending')
    refine ⟨hadmitted, fun _ => h.manifest ?_, nofun, nofun,
      fun _ => ⟨.inr (.now ⟨cp, ⟨hinput, houtput⟩, hflushed⟩), hbelow.plain hplain,
        fun hend => (hproven hend).later hplain.unread⟩, nofun, nofun, nofun⟩
    rw [hphase]
    trivial
  | readerClosed hphase hend =>
    have hplain : Plain e := plain_input hinput ⟨nofun, nofun, nofun⟩
    obtain ⟨-, -, hproven⟩ := h.reading hphase
    refine ⟨hadmitted, fun _ => h.manifest ?_, nofun, nofun, nofun, nofun, nofun,
      fun _ => (hproven (hadmitted ▸ hend)).later hplain.unread⟩
    rw [hphase]
    trivial
  | finish frame hphase =>
    have hplain : Plain e := plain_input hinput ⟨nofun, nofun, nofun⟩
    refine ⟨hadmitted, fun _ => h.manifest ?_, nofun, nofun, nofun, nofun, nofun,
      fun _ => (h.ready hphase).later hplain.unread⟩
    rcases hphase with hphase | hphase <;> rw [hphase] <;> trivial
  | eof bytes own evidence hphase =>
    refine ⟨hadmitted, fun _ => h.manifest ?_, nofun, nofun, nofun, nofun, nofun, nofun⟩
    rw [hphase]
    trivial
  | cancel => exact ⟨hadmitted, nofun, nofun, nofun, nofun, nofun, nofun, nofun⟩

end Histories

/-! ## Call sequences -/

/-- The calls of a receiver in any order, with any arguments. -/
abbrev CallRun (sha256 : List UInt8 → FixedBytes 32) :=
  Machine.Run (apply sha256) fun _ _ _ => True

section Runs

variable {sha256 : List UInt8 → FixedBytes 32} {config : LocalWifiTransferConfig}
  {history before after : List CallEntry} {r₀ r : LocalWifiTransferReceiver} {e : CallEntry}

theorem new_eq_ok (h : new config = .ok r₀) : r₀ = { config } := by
  rw [new] at h
  cases hprepare : encodeLocalWifiPrepare config.prepare with
  | error error =>
    rw [hprepare] at h
    exact nomatch h
  | ok bytes =>
    rw [hprepare] at h
    by_cases hshort : config.ciphertextLength < 128 + 144
    · simp only [Except.bind, bind, if_pos hshort] at h
      exact nomatch h
    · simp only [Except.bind, bind, if_neg hshort] at h
      exact (Except.ok.inj h).symm

theorem run_story (hnew : new config = .ok r₀) (hrun : CallRun sha256 r₀ history r) :
    Story sha256 config history r := by
  refine hrun.invariant (Story sha256 config) ?_ ?_
  · obtain rfl := new_eq_ok hnew
    exact ⟨rfl, nofun, fun _ _ _ he => (nomatch he), nofun, nofun, nofun, nofun, nofun⟩
  · intro history r call _ hstory _
    rcases apply_handled sha256 r call with ⟨reply, hreply, hmoves⟩ | ⟨error, herror, hspoils⟩
    · exact hmoves.story hstory rfl hreply
    · exact hspoils.story (hstory.plain (plain_error herror))

theorem Moves.not_cancelled {call : Call} {reply : Reply} {r' : LocalWifiTransferReceiver}
    (hmoves : Moves sha256 r call reply r') (hcall : call ≠ .cancel) : r.phase ≠ .cancelled := by
  intro h
  cases hmoves <;> simp_all

/-- A cancelled receiver stays cancelled and refuses every call. -/
theorem cancelled_refuses {call : Call} (h : r.phase = .cancelled) :
    (apply sha256 r call).1.phase = .cancelled ∧
      (call ≠ .cancel → ∃ error, (apply sha256 r call).2 = .error error) := by
  by_cases hcall : call = .cancel
  · subst hcall
    exact ⟨rfl, fun hne => absurd rfl hne⟩
  rcases apply_handled sha256 r call with ⟨reply, -, hmoves⟩ | ⟨error, herror, hspoils⟩
  · exact absurd h (hmoves.not_cancelled hcall)
  · refine ⟨?_, fun _ => ⟨error, herror⟩⟩
    rcases hspoils with heq | ⟨hphase, -⟩ | ⟨hphase, -⟩
    · rw [heq, h]
    · exact nomatch h.symm.trans hphase
    · exact nomatch h.symm.trans hphase

/-- What a call that returned `reply` may rely on. -/
theorem entry_moves {reply : Reply} (hentry : e.output = (apply sha256 e.pre e.input).2)
    (hreply : e.output = .ok reply) :
    Moves sha256 e.pre e.input reply (apply sha256 e.pre e.input).1 := by
  rcases apply_handled sha256 e.pre e.input with ⟨reply', hreply', hmoves⟩ | ⟨error, herror, -⟩
  · obtain rfl := Except.ok.inj (hreply.symm.trans (hentry.trans hreply'))
    exact hmoves
  · exact nomatch hreply.symm.trans (hentry.trans herror)

theorem run_cancelled (hrun : CallRun sha256 r₀ history r) (hcancel : ∃ e ∈ history, e.input = .cancel) :
    r.phase = .cancelled := by
  revert hcancel
  refine hrun.invariant (fun history r => (∃ e ∈ history, e.input = .cancel) →
    r.phase = .cancelled) (fun ⟨_, he, _⟩ => (nomatch he)) ?_
  rintro history r call - ih - ⟨e, he, hcancel⟩
  rcases List.mem_append.mp he with he | he
  · exact (cancelled_refuses (ih ⟨e, he, hcancel⟩)).1
  · obtain rfl := List.mem_singleton.mp he
    obtain rfl : call = .cancel := hcancel
    rfl

/-- In every sequence of calls: evidence of completion comes after a proof of the whole ciphertext,
with no chunk since, and with the manifest that the evidence names; each chunk starts where the
previous one, flushed and saved, ended, and the first where the transfer was resumed; the checkpoints
increase from there and stay within the ciphertext; a cancelled receiver refuses everything. -/
theorem receiver_in_order (hnew : new config = .ok r₀) (hrun : CallRun sha256 r₀ history r)
    (hsplit : history = before ++ e :: after) :
    (∀ bytes evidence, e.input = .eof bytes → e.output = .ok (.evidence evidence) →
      Proven config before ∧ e.pre.manifest.length = UPLOAD_MANIFEST_V2_FIXED_LENGTH ∧
        sha256 e.pre.manifest = evidence.manifestSha256) ∧
    (∀ start length, IsChunk e start length → Next start before) ∧
    (∀ cp, IsFlush e cp → Below cp.nextCiphertextOffset before ∧
      cp.nextCiphertextOffset ≤ config.ciphertextLength) ∧
    (e.input = .cancel → ∀ x ∈ after, x.input ≠ .cancel → ∃ error, x.output = .error error) := by
  obtain ⟨hbefore, -, hentry, -⟩ := hrun.split hsplit
  have hstory := run_story hnew hbefore
  refine ⟨?_, ?_, ?_, ?_⟩
  · intro bytes evidence hinput houtput
    have hmoves := entry_moves hentry houtput
    rw [hinput] at hmoves
    generalize (apply sha256 e.pre (.eof bytes)).1 = r' at hmoves
    cases hmoves with
    | eof _ own _ hphase hown hsame =>
      obtain ⟨own', hown', hlength, hsha⟩ := hstory.manifest (by rw [hphase]; trivial)
      obtain rfl := Option.some.inj (hown.symm.trans hown')
      exact ⟨hstory.ready (.inr hphase), hlength, hsha.trans hsame.symm⟩
  · rintro start length ⟨hinput, houtput⟩
    have hmoves := entry_moves hentry houtput
    rw [hinput] at hmoves
    generalize (apply sha256 e.pre (.chunk length)).1 = r' at hmoves
    cases hmoves with
    | chunk _ hphase => exact (hstory.reading hphase).1
  · rintro cp ⟨proof, hinput, houtput⟩
    have hmoves := entry_moves hentry houtput
    rw [hinput] at hmoves
    generalize (apply sha256 e.pre (.flushed proof)).1 = r' at hmoves
    cases hmoves with
    | flushed _ _ hphase _ _ hoffset =>
      obtain ⟨-, hbelow, hle⟩ := hstory.flushing hphase
      rw [hoffset]
      exact ⟨hbelow, hle⟩
  · intro hcancel x hx hne
    obtain ⟨middle, last, rfl⟩ := List.append_of_mem hx
    have hsplit' : history = (before ++ e :: middle) ++ x :: last := by
      rw [hsplit, List.append_assoc]
      rfl
    obtain ⟨hreach, -, hlast, -⟩ := hrun.split hsplit'
    have hcancelled := run_cancelled hreach
      ⟨e, List.mem_append_right _ List.mem_cons_self, hcancel⟩
    rw [hlast]
    exact (cancelled_refuses hcancelled).2 hne

end Runs

/-! ## A sample transfer -/

/-- The digest of the manifest, which is 580 bytes 6. -/
def sampleManifestSha256 : FixedBytes 32 :=
  Sha256.digest (.replicate 580 6)

def sampleConfig : LocalWifiTransferConfig where
  prepare := {
    transportSessionId := 7
    uploadSessionUuid := FixedBytes.replicate 16 1
    recordingUuid := FixedBytes.replicate 16 2
    recordingGeneration := 3
    authorizationSha256 := FixedBytes.replicate 32 4
    ownerRevision := 5 }
  ciphertextLength := 272
  ciphertextSha256 := FixedBytes.replicate 32 9

def sampleReceiver : LocalWifiTransferReceiver where
  config := sampleConfig

/-- The frame of a PREPARED or an EOF message. -/
def sampleEvidence (messageType : UInt8) : List UInt8 :=
  [messageType, 2, 0, 0, 7, 0, 0, 0, 0, 0, 0, 0] ++ List.replicate 16 1 ++ List.replicate 16 2 ++
    [3, 0, 0, 0, 5, 0, 0, 0, 16, 1, 0, 0, 0, 0, 0, 0] ++ List.replicate 32 9 ++
    sampleManifestSha256.1 ++ [1, 0, 0, 0]

/-- A frame with `length` bytes of the manifest. -/
def sampleManifest (offset length : Nat) : List UInt8 :=
  (encodeEncryptedUploadV2Transfer (.manifestChunk {
    common := { messageType := ENCRYPTED_UPLOAD_V2_MANIFEST_CHUNK, flags := 0, transportSessionId := 7 }
    totalManifestLength := 580
    chunkOffset := UInt16.ofNat offset
    manifestSha256 := sampleManifestSha256
    chunk := List.replicate length 6 })).toOption.getD []

def sampleCheckpoint (offset : Nat) (prefixSha256 : FixedBytes 32) : LocalWifiCheckpoint where
  version := 1
  uploadSessionUuid := FixedBytes.replicate 16 1
  recordingUuid := FixedBytes.replicate 16 2
  recordingGeneration := 3
  ownerRevision := 5
  ciphertextLength := 272
  ciphertextSha256 := FixedBytes.replicate 32 9
  manifestSha256 := sampleManifestSha256
  nextCiphertextOffset := offset
  prefixSha256

/-- Half of the file is resumed, the other half is read in one chunk. -/
def sampleCalls : List Call :=
  [.prepared (sampleEvidence LOCAL_WIFI_PREPARED), .manifest (sampleManifest 0 130),
    .manifest (sampleManifest 130 130), .manifest (sampleManifest 260 130),
    .manifest (sampleManifest 390 130), .manifest (sampleManifest 520 60),
    .resume (some (sampleCheckpoint 136 (FixedBytes.replicate 32 8))) ⟨140, FixedBytes.replicate 32 8⟩,
    .response ⟨206, 136, some "bytes 136-271/272", sampleReceiver.etag, none⟩,
    .chunk 136, .flushed ⟨272, FixedBytes.replicate 32 9⟩,
    .saved (sampleCheckpoint 272 (FixedBytes.replicate 32 9)), .readerClosed, .finish]

def sampleRun : List CallEntry × LocalWifiTransferReceiver :=
  Machine.exec (apply Sha256.digest) [] sampleReceiver sampleCalls

def evidenceOf : Reply → Option EncryptedUploadV2TransferEvidence
  | .evidence e => some e
  | _ => none

theorem eq_evidence {output : Except DeviceSdkError Reply} {e : EncryptedUploadV2TransferEvidence}
    (h : output.toOption.bind evidenceOf = some e) : output = .ok (.evidence e) := by
  rcases output with _ | (_ | _ | _ | _ | _ | _ | e')
  all_goals cases h
  rfl

theorem receiver_in_order_sample :
    Proven sampleConfig sampleRun.1 ∧ sampleRun.2.manifest.length = UPLOAD_MANIFEST_V2_FIXED_LENGTH := by
  have hnew : new sampleConfig = .ok sampleReceiver := by rfl
  have hoffered {before : List CallEntry} {r : LocalWifiTransferReceiver} {bytes : List UInt8}
      {evidence : EncryptedUploadV2TransferEvidence} (hrun : CallRun Sha256.digest sampleReceiver before r)
      (houtput : (apply Sha256.digest r (.eof bytes)).2 = .ok (.evidence evidence)) :
      Proven sampleConfig before ∧ r.manifest.length = UPLOAD_MANIFEST_V2_FIXED_LENGTH := by
    obtain ⟨heof, -⟩ := receiver_in_order hnew (hrun.snoc (.eof bytes) trivial) rfl
    obtain ⟨hproven, hlength, -⟩ := heof bytes evidence rfl houtput
    exact ⟨hproven, hlength⟩
  -- the sample's calls all succeed, so that its EOF is answered by evidence
  have hanswer : (apply Sha256.digest sampleRun.2 (.eof (sampleEvidence LOCAL_WIFI_EOF))).2 =
      .ok (.evidence ⟨272, FixedBytes.replicate 32 9, 580, sampleManifestSha256, 1⟩) :=
    eq_evidence (by decide +kernel)
  exact hoffered (Machine.Run.exec (Machine.allowed_true [] sampleReceiver sampleCalls)) hanswer

end LocalWifiTransferReceiver

end BotaSdk
