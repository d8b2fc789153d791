import BotaSdk.Lib.Checked
import BotaSdk.Protocol.LocalWifiTransferOrder
import Mathlib.Logic.Relation

/-!
# Re-binding a checkpoint to a new owner

A checkpoint of one session is re-bound to the session of a later owner.  What `rebaseCheckpoint` makes
of it is taken by `resumePrefix` and by `resume`.
-/

namespace BotaSdk.LocalWifiTransferReceiver

section Rebase

variable {sha256 : List UInt8 → FixedBytes 32} {r : LocalWifiTransferReceiver}
  {cp next : LocalWifiCheckpoint} {recovery : LocalWifiRecovery}

/-- `cp` was re-bound to the owner of some receiver. -/
def Rebases (cp next : LocalWifiCheckpoint) : Prop :=
  ∃ (r : LocalWifiTransferReceiver) (recovery : LocalWifiRecovery),
    r.rebaseCheckpoint cp recovery = .ok next

/-- The checkpoints that receivers hand out. -/
inductive Made : LocalWifiCheckpoint → Prop
  | flushed (r : LocalWifiTransferReceiver) (proof : LocalWifiFileProof) (cp : LocalWifiCheckpoint) :
      (r.flushed proof).2 = .ok cp → Made cp
  | rebased (cp next : LocalWifiCheckpoint) : Made cp → Rebases cp next → Made next

/-- The ciphertext that a checkpoint is about. -/
def identity (cp : LocalWifiCheckpoint) : FixedBytes 16 × UInt32 × Nat × FixedBytes 32 :=
  (cp.recordingUuid, cp.recordingGeneration, cp.ciphertextLength, cp.ciphertextSha256)

/-- Everything that an accepted re-binding does. -/
structure Rebased (r : LocalWifiTransferReceiver) (cp next : LocalWifiCheckpoint) : Prop where
  phase : r.phase = .resume
  own : r.checkpoint cp.nextCiphertextOffset cp.prefixSha256 = .ok next
  room : cp.nextCiphertextOffset ≤ r.config.ciphertextLength
  identity : identity cp = identity next
  length : next.ciphertextLength = r.config.ciphertextLength
  hash : next.ciphertextSha256 = r.config.ciphertextSha256
  offset : next.nextCiphertextOffset = cp.nextCiphertextOffset
  prefixSha256 : next.prefixSha256 = cp.prefixSha256
  session : cp.uploadSessionUuid ≠ next.uploadSessionUuid
  owner : cp.ownerRevision < next.ownerRevision

theorem rebased_of_ok (h : r.rebaseCheckpoint cp recovery = .ok next) : Rebased r cp next := by
  rw [rebaseCheckpoint] at h
  simp only [Checked.guard_eq_ok, Checked.bind_eq_ok, Checked.pure_eq_ok, not_or, not_not,
    not_lt] at h
  obtain ⟨⟨hphase, hsession, howner, hcurrent, hrevision, hother, hlater, hroom⟩, own, hown, hsame,
    rfl⟩ := h
  have hcheckpoint := hown
  unfold checkpoint at hown
  split at hown
  · cases hown
  · next e _ =>
    obtain rfl := Except.ok.inj hown
    refine ⟨hphase, hcheckpoint, hroom, ?_, rfl, rfl, rfl, rfl, ?_, ?_⟩
    · rw [hsame]
      rfl
    · rw [hsession]
      exact fun heq => hother (heq.trans hcurrent)
    · rw [howner]
      show recovery.previousOwnerRevision < r.config.prepare.ownerRevision
      rw [hrevision]
      exact UInt32.not_le.mp hlater

/-- A checkpoint of the whole ciphertext carries its hash. -/
def Whole (cp : LocalWifiCheckpoint) : Prop :=
  cp.nextCiphertextOffset = cp.ciphertextLength → cp.prefixSha256 = cp.ciphertextSha256

theorem whole_of_flushed {proof : LocalWifiFileProof} (h : (r.flushed proof).2 = .ok cp) :
    Whole cp := by
  unfold flushed at h
  split at h
  · exact nomatch h
  next hready =>
  rw [not_or, not_or, not_and, not_not] at hready
  obtain ⟨-, -, hhash⟩ := hready
  unfold checkpoint at h
  cases hevidence : r.evidence with
  | none =>
    rw [hevidence] at h
    exact nomatch h
  | some e =>
    rw [hevidence] at h
    obtain rfl := Except.ok.inj h
    exact fun hlength => not_not.mp (hhash hlength)

theorem whole_of_made (h : Made cp) : Whole cp := by
  induction h with
  | flushed r proof cp hflushed => exact whole_of_flushed hflushed
  | rebased cp next _ hrebases ih =>
    obtain ⟨r, recovery, hok⟩ := hrebases
    have hrebased := rebased_of_ok hok
    have hidentity := hrebased.identity
    simp only [identity, Prod.mk.injEq] at hidentity
    obtain ⟨-, -, hlength, hhash⟩ := hidentity
    unfold Whole
    rw [hrebased.offset, hrebased.prefixSha256, ← hlength, ← hhash]
    exact ih

theorem Rebased.resumePrefix (h : Rebased r cp next) :
    r.resumePrefix (some next) = .ok cp.nextCiphertextOffset := by
  have hown := h.own
  rw [← h.offset, ← h.prefixSha256] at hown
  have hroom := h.room
  rw [← h.offset] at hroom ⊢
  unfold LocalWifiTransferReceiver.resumePrefix
  rw [if_neg (not_not.mpr h.phase)]
  dsimp only
  rw [if_neg (Nat.not_lt.mpr hroom), hown]
  exact if_neg (not_not.mpr rfl)

/-- The file holds the prefix that the checkpoint names; a whole file has no more bytes. -/
structure Holds (cp : LocalWifiCheckpoint) (proof : LocalWifiFileProof) : Prop where
  prefixSha256 : proof.prefixSha256 = cp.prefixSha256
  length : cp.nextCiphertextOffset ≤ proof.byteLength
  whole : cp.nextCiphertextOffset = cp.ciphertextLength →
    proof.byteLength = cp.nextCiphertextOffset

theorem Rebased.resume (sha256 : List UInt8 → FixedBytes 32) (h : Rebased r cp next)
    (hwhole : Whole next) {proof : LocalWifiFileProof} (hproof : Holds next proof) :
    ∃ plan, (r.resume sha256 (some next) proof).2 = .ok plan ∧
      plan.offset = cp.nextCiphertextOffset := by
  have hown := h.own
  rw [← h.offset, ← h.prefixSha256] at hown
  have hroom := h.room
  rw [← h.offset] at hroom ⊢
  have haccepts : r.acceptsPrefix sha256 (some next) proof = .ok () := by
    unfold acceptsPrefix
    dsimp only
    rw [hown]
    exact if_neg (not_or.mpr ⟨not_not.mpr rfl, not_or.mpr ⟨Nat.not_lt.mpr hproof.length,
      not_not.mpr hproof.prefixSha256⟩⟩)
  have hhash : ¬(r.config.ciphertextLength < next.nextCiphertextOffset ∨
      next.nextCiphertextOffset = r.config.ciphertextLength ∧
        proof.prefixSha256 ≠ r.config.ciphertextSha256) := by
    rintro (hbeyond | ⟨hend, hother⟩)
    · exact Nat.not_lt.mpr hroom hbeyond
    · refine hother ?_
      rw [hproof.prefixSha256, ← h.hash]
      exact hwhole (hend.trans h.length.symm)
  have hexact : ¬(next.nextCiphertextOffset = r.config.ciphertextLength ∧
      proof.byteLength ≠ next.nextCiphertextOffset) :=
    fun hlonger => hlonger.2 (hproof.whole (hlonger.1.trans h.length.symm))
  unfold LocalWifiTransferReceiver.resume
  rw [if_neg (not_not.mpr h.phase), haccepts]
  dsimp only [Option.elim_some]
  rw [if_neg hhash, if_neg hexact]
  exact ⟨_, rfl, rfl⟩

theorem owner_of_rebases {last : LocalWifiCheckpoint} (h : Relation.TransGen Rebases cp last) :
    identity cp = identity last ∧ cp.ownerRevision < last.ownerRevision := by
  induction h with
  | single hrebases =>
    obtain ⟨r, recovery, hok⟩ := hrebases
    exact ⟨(rebased_of_ok hok).identity, (rebased_of_ok hok).owner⟩
  | tail _ hrebases ih =>
    obtain ⟨r, recovery, hok⟩ := hrebases
    exact ⟨ih.1.trans (rebased_of_ok hok).identity, UInt32.lt_trans ih.2 (rebased_of_ok hok).owner⟩

/-- An accepted re-binding of a checkpoint that receivers handed out keeps the offset, the prefix hash
and the ciphertext, and raises the owner; the receiver resumes from it with every file that the
checkpoint describes: it holds the prefix, and nothing after it once the prefix is the whole
ciphertext; and no number of re-bindings leads back to an earlier owner. -/
theorem rebase_resumes (sha256 : List UInt8 → FixedBytes 32) (r : LocalWifiTransferReceiver)
    (cp next : LocalWifiCheckpoint) (recovery : LocalWifiRecovery) (hmade : Made cp)
    (hok : r.rebaseCheckpoint cp recovery = .ok next) :
    next.nextCiphertextOffset = cp.nextCiphertextOffset ∧ next.prefixSha256 = cp.prefixSha256 ∧
      identity next = identity cp ∧ cp.ownerRevision < next.ownerRevision ∧
      r.resumePrefix (some next) = .ok cp.nextCiphertextOffset ∧
      (∀ proof, Holds next proof → ∃ plan, (r.resume sha256 (some next) proof).2 = .ok plan ∧
        plan.offset = cp.nextCiphertextOffset) ∧
      ∀ earlier, Relation.TransGen Rebases earlier next →
        identity earlier = identity next ∧ earlier.ownerRevision < next.ownerRevision := by
  have hrebased := rebased_of_ok hok
  have hwhole : Whole next := whole_of_made (.rebased cp next hmade ⟨r, recovery, hok⟩)
  exact ⟨hrebased.offset, hrebased.prefixSha256, hrebased.identity.symm, hrebased.owner,
    hrebased.resumePrefix, fun proof hproof => hrebased.resume sha256 hwhole hproof,
    fun earlier hchain => owner_of_rebases hchain⟩

end Rebase

/-- What a PREPARED message of an owner says about the sample recording. -/
def sampleProof (session : UInt8) (owner : UInt32) : LocalWifiEvidence where
  common := { messageType := Protocol.LOCAL_WIFI_PREPARED, flags := 0, transportSessionId := 7 }
  uploadSessionUuid := FixedBytes.replicate 16 session
  recordingUuid := FixedBytes.replicate 16 2
  recordingGeneration := 3
  ownerRevision := owner
  ciphertextLength := 272
  ciphertextSha256 := FixedBytes.replicate 32 9
  manifestSha256 := FixedBytes.replicate 32 session
  blockCount := 1

/-- The receiver that appended half of the file. -/
def sampleFlushing : LocalWifiTransferReceiver where
  config := sampleConfig
  evidence := some (sampleProof 1 5)
  phase := .flushing
  offset := 136

/-- A receiver of the next owner that has the new manifest. -/
def sampleNext : LocalWifiTransferReceiver where
  config := { sampleConfig with
    prepare := { sampleConfig.prepare with
      uploadSessionUuid := FixedBytes.replicate 16 11
      ownerRevision := 6 } }
  evidence := some (sampleProof 11 6)
  phase := .resume

def sampleCheckpointOf (session : UInt8) (owner : UInt32) : LocalWifiCheckpoint :=
  { sampleCheckpoint 136 (FixedBytes.replicate 32 8) with
    uploadSessionUuid := FixedBytes.replicate 16 session
    ownerRevision := owner
    manifestSha256 := FixedBytes.replicate 32 session }

/-- Half of the file is resumed by the next owner, which cuts off four more bytes. -/
theorem rebase_resumes_sample :
    ∃ plan, (sampleNext.resume Sha256.digest (some (sampleCheckpointOf 11 6))
      ⟨140, FixedBytes.replicate 32 8⟩).2 = .ok plan ∧ plan.offset = 136 := by
  have hmade : Made (sampleCheckpointOf 1 5) :=
    .flushed sampleFlushing ⟨136, FixedBytes.replicate 32 8⟩ _ (by decide +kernel)
  have hok : sampleNext.rebaseCheckpoint (sampleCheckpointOf 1 5) {
      previousUploadSessionUuid := FixedBytes.replicate 16 1
      previousOwnerRevision := 5
      uploadSessionUuid := FixedBytes.replicate 16 11
      ownerRevision := 6 } = .ok (sampleCheckpointOf 11 6) := by decide +kernel
  have hholds : Holds (sampleCheckpointOf 11 6) ⟨140, FixedBytes.replicate 32 8⟩ :=
    ⟨rfl, by decide, by decide⟩
  exact (rebase_resumes Sha256.digest sampleNext _ _ _ hmade hok).2.2.2.2.2.1 _ hholds

end BotaSdk.LocalWifiTransferReceiver
