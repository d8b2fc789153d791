import BotaSdk.Lib.Checked
import BotaSdk.Lib.Json
import BotaSdk.Lib.Sha256
import BotaSdk.Model.ManagedUpload

/-!
# The recovery parents of a managed upload

A run is a list of saves, each accepted record being the stored one of the next save.
-/

namespace BotaSdk

open Byo Checked ManagedUpload

namespace ManagedUploadInput

variable {digests : Digests} {self : ManagedUploadInput} {previous : Option ManagedUploadJournal}
  {event : SaveJournal} {record r : ManagedUploadJournal} {checkpoint : LocalWifiCheckpoint}

/-! ## A valid record -/

/-- The parents are entries of the current recording: their sessions differ from each other and from
the current one, and their owner revisions increase strictly up to the current one. -/
def Lineage (current : ManagedUploadEntry) (parents : List ManagedUploadEntry) : Prop :=
  ∃ rows : List (String × UInt32),
    parents = rows.map (fun row => ⟨current.recordingId, some row.1, some row.2⟩) ∧
      (rows.map Prod.fst).Nodup ∧ rows.Pairwise (fun a b => a.2 < b.2) ∧
      ∀ row ∈ rows, some row.1 ≠ current.sessionId ∧
        ∃ owner, current.ownerRevision = some owner ∧ row.2 < owner

theorem revisionLe_eq_false {current : Option UInt32} {owner : UInt32}
    (h : ¬revisionLe current (some owner)) : ∃ bound, current = some bound ∧ owner < bound := by
  cases current with
  | none => exact absurd rfl h
  | some bound =>
    refine ⟨bound, rfl, ?_⟩
    rw [revisionLe, decide_eq_true_eq] at h
    exact UInt32.not_le.mp h

theorem validateParents_ok {current : ManagedUploadEntry} {parents : List ManagedUploadEntry} :
    ∀ {revision : UInt32} {sessions : List String},
      validateParents current revision sessions parents = .ok () →
      ∃ rows : List (String × UInt32),
        parents = rows.map (fun row => ⟨current.recordingId, some row.1, some row.2⟩) ∧
          (rows.map Prod.fst).Nodup ∧ rows.Pairwise (fun a b => a.2 < b.2) ∧
          ∀ row ∈ rows, revision < row.2 ∧ row.1 ∉ sessions ∧ some row.1 ≠ current.sessionId ∧
            ∃ owner, current.ownerRevision = some owner ∧ row.2 < owner := by
  -- the loop's revision and sessions bound every later row
  induction parents with
  | nil => exact fun _ => ⟨[], rfl, List.nodup_nil, .nil, fun _ hrow => (nomatch hrow)⟩
  | cons parent rest ih =>
    intro revision sessions h
    rw [validateParents] at h
    obtain ⟨-, h⟩ := seq_eq_ok.mp h
    rcases parent with ⟨recordingId, _ | id, _ | owner⟩
    · exact nomatch h
    · exact nomatch h
    · exact nomatch h
    obtain ⟨hchecks, h⟩ := guard_eq_ok.mp h
    simp only [not_or, not_not] at hchecks
    obtain ⟨hrecording, hrevision, hbound, hcurrent, hnew⟩ := hchecks
    obtain ⟨rows, rfl, hnodup, hsorted, hrows⟩ := ih h
    refine ⟨(id, owner) :: rows, ?_, ?_, ?_, ?_⟩
    · rw [List.map_cons, ← hrecording]
    · rw [List.map_cons, List.nodup_cons]
      refine ⟨fun hmem => ?_, hnodup⟩
      obtain ⟨row, hrow, heq⟩ := List.mem_map.mp hmem
      exact (hrows row hrow).2.1 (heq ▸ List.mem_cons_self)
    · exact List.pairwise_cons.mpr ⟨fun row hrow => (hrows row hrow).1, hsorted⟩
    · intro row hrow
      rcases List.mem_cons.mp hrow with rfl | hrow
      · exact ⟨UInt32.not_le.mp hrevision, hnew, hcurrent, revisionLe_eq_false hbound⟩
      · obtain ⟨hlt, hfresh, hother, hbelow⟩ := hrows row hrow
        exact ⟨UInt32.lt_trans (UInt32.not_le.mp hrevision) hlt,
          fun hmem => hfresh (List.mem_cons_of_mem _ hmem), hother, hbelow⟩

theorem validateLineage_ok (h : self.validateLineage record = .ok ()) :
    record.localRecoveryParents = [] ∨
      ∃ current, record.entry = some current ∧ Lineage current record.localRecoveryParents := by
  rw [validateLineage] at h
  by_cases hnone : record.localRecoveryParents = []
  · exact .inl hnone
  rw [if_neg hnone] at h
  cases hentry : record.entry with
  | none =>
    rw [hentry] at h
    exact nomatch h
  | some current =>
    rw [hentry] at h
    dsimp only at h
    split at h
    · exact nomatch h
    · obtain ⟨rows, heq, hnodup, hsorted, hrows⟩ := validateParents_ok h
      refine .inr ⟨current, rfl, rows, heq, hnodup, hsorted, fun row hrow => ?_⟩
      exact (hrows row hrow).2.2

theorem validateJournal_lineage (h : self.validateJournal digests record = .ok ()) :
    self.validateLineage record = .ok () := by
  rw [validateJournal] at h
  obtain ⟨-, h⟩ := guard_eq_ok.mp h
  obtain ⟨-, h⟩ := guard_eq_ok.mp h
  obtain ⟨-, h⟩ := seq_eq_ok.mp h
  exact (seq_eq_ok.mp h).1

/-! ## One save -/

/-- What an accepted save has computed. -/
theorem saveJournal_ok (h : self.saveJournal digests previous event = .ok r) :
    self.validateJournal digests r = .ok () ∧ r.entry = event.entry ∧
      r.authorizationNonceSha256 = carriedNonce previous event ∧
      self.recoveryParents previous event = .ok r.localRecoveryParents := by
  rw [saveJournal] at h
  obtain ⟨-, h⟩ := seq_eq_ok.mp h
  obtain ⟨-, h⟩ := seq_eq_ok.mp h
  obtain ⟨-, h⟩ := seq_eq_ok.mp h
  obtain ⟨parents, hparents, h⟩ := bind_eq_ok.mp h
  obtain ⟨hvalid, h⟩ := seq_eq_ok.mp h
  obtain rfl := pure_eq_ok.mp h
  exact ⟨hvalid, rfl, rfl, hparents⟩

/-- The nonce hash of the next record is the given one, or that of a record of the same session. -/
theorem carriedNonce_some {nonce : String} (h : carriedNonce previous event = some nonce) :
    event.authorizationNonceSha256 = some nonce ∨
      ∃ p, previous = some p ∧ p.authorizationNonceSha256 = some nonce ∧
        session? p.entry = session? event.entry := by
  rw [carriedNonce] at h
  cases hgiven : event.authorizationNonceSha256 with
  | some given =>
    rw [hgiven] at h
    exact .inl h
  | none =>
    rw [hgiven, Option.none_or] at h
    obtain ⟨p, hp, hnonce⟩ := Option.bind_eq_some_iff.mp h
    obtain ⟨hprevious, hsame⟩ := Option.filter_eq_some_iff.mp hp
    exact .inr ⟨p, hprevious, hnonce, of_decide_eq_true hsame⟩

/-- The parents of the next record: those of the stored one and the recovered entry, those of the
stored one, or none. -/
theorem recoveryParents_ok {parents : List ManagedUploadEntry}
    (h : self.recoveryParents previous event = .ok parents) :
    (∃ parent, event.recoveredFrom = some parent ∧ entry? previous = some parent ∧
      parents = (previous.map (·.localRecoveryParents)).getD [] ++
        (if self.capability.localWifiRawValueHex.isSome then [parent] else [])) ∨
    (event.recoveredFrom = none ∧ parents =
      if entry? previous ≠ event.entry then [] else (previous.map (·.localRecoveryParents)).getD []) := by
  rw [recoveryParents] at h
  cases hfrom : event.recoveredFrom with
  | none =>
    rw [hfrom] at h
    refine .inr ⟨rfl, ?_⟩
    by_cases hentry : entry? previous ≠ event.entry
    · rw [if_pos hentry]
      simp only [if_pos hentry] at h
      exact (Except.ok.inj h).symm
    · rw [if_neg hentry]
      simp only [if_neg hentry] at h
      exact (Except.ok.inj h).symm
  | some parent =>
    rw [hfrom] at h
    refine .inl ⟨parent, rfl, ?_⟩
    cases hnext : event.entry with
    | none =>
      rw [hnext] at h
      exact nomatch h
    | some next =>
      rw [hnext] at h
      dsimp only at h
      split at h
      · exact nomatch h
      · rename_i hchecks
        rw [not_or, not_not] at hchecks
        refine ⟨hchecks.1, ?_⟩
        split at h
        · rename_i hlocal
          rw [if_pos hlocal]
          exact (Except.ok.inj h).symm
        · rename_i hlocal
          rw [if_neg hlocal, List.append_nil]
          exact (Except.ok.inj h).symm

/-! ## Continuing a checkpoint -/

/-- The checkpoint was made by the session and the owner revision of the entry. -/
def Owns (entry : ManagedUploadEntry) (checkpoint : LocalWifiCheckpoint) : Prop :=
  ∃ id, entry.sessionId = some id ∧ uuidArray id = .ok checkpoint.uploadSessionUuid ∧
    entry.ownerRevision = some checkpoint.ownerRevision

theorem required_ok {α : Type} {value : Option α} {a : α} (h : required value = .ok a) :
    value = some a := by
  cases value with
  | none => exact nomatch h
  | some b => exact congrArg some (Except.ok.inj h)

theorem authorized_ok {parents : List ManagedUploadEntry} (h : authorized checkpoint parents = .ok true) :
    ∃ parent ∈ parents, Owns parent checkpoint := by
  induction parents with
  | nil => exact nomatch h
  | cons parent rest ih =>
    rw [authorized] at h
    obtain ⟨id, hid, h⟩ := bind_eq_ok.mp h
    obtain ⟨session, hsession, h⟩ := bind_eq_ok.mp h
    split at h
    · rename_i howner
      exact ⟨parent, List.mem_cons_self, id, required_ok hid, howner.1 ▸ hsession, howner.2.symm⟩
    · obtain ⟨owner, hmem, howns⟩ := ih h
      exact ⟨owner, List.mem_cons_of_mem _ hmem, howns⟩

/-- A checkpoint is continued for the current entry as it is, and for a parent with both owners
named. -/
def Continues (record : ManagedUploadJournal) (checkpoint : LocalWifiCheckpoint)
    (recovery : Option LocalWifiRecovery) : Prop :=
  ∃ current, record.entry = some current ∧
    ((recovery = none ∧ Owns current checkpoint) ∨
      ∃ parent ∈ record.localRecoveryParents, Owns parent checkpoint ∧
        ∃ id session owner, current.sessionId = some id ∧ uuidArray id = .ok session ∧
          current.ownerRevision = some owner ∧
          recovery = some ⟨checkpoint.uploadSessionUuid, checkpoint.ownerRevision, session, owner⟩)

theorem localWifiRecovery_ok {recovery : Option LocalWifiRecovery}
    (h : self.localWifiRecovery digests record checkpoint = .ok recovery) :
    Continues record checkpoint recovery := by
  rw [localWifiRecovery] at h
  obtain ⟨-, h⟩ := seq_eq_ok.mp h
  obtain ⟨-, h⟩ := seq_eq_ok.mp h
  obtain ⟨current, hcurrent, h⟩ := bind_eq_ok.mp h
  obtain ⟨-, h⟩ := guard_eq_ok.mp h
  obtain ⟨_, -, h⟩ := bind_eq_ok.mp h
  obtain ⟨-, h⟩ := guard_eq_ok.mp h
  obtain ⟨-, h⟩ := guard_eq_ok.mp h
  obtain ⟨_, -, h⟩ := bind_eq_ok.mp h
  obtain ⟨-, h⟩ := guard_eq_ok.mp h
  obtain ⟨_, -, h⟩ := bind_eq_ok.mp h
  obtain ⟨-, h⟩ := guard_eq_ok.mp h
  obtain ⟨id, hid, h⟩ := bind_eq_ok.mp h
  obtain ⟨session, hsession, h⟩ := bind_eq_ok.mp h
  obtain ⟨owner, howner, h⟩ := bind_eq_ok.mp h
  refine ⟨current, required_ok hcurrent, ?_⟩
  split at h
  · rename_i hown
    obtain rfl := pure_eq_ok.mp h
    refine .inl ⟨rfl, id, required_ok hid, hown.1 ▸ hsession, ?_⟩
    rw [hown.2, required_ok howner]
  · obtain ⟨found, hfound, h⟩ := bind_eq_ok.mp h
    obtain ⟨htrue, h⟩ := guard_eq_ok.mp h
    rw [not_not] at htrue
    subst htrue
    obtain rfl := pure_eq_ok.mp h
    obtain ⟨parent, hmem, howns⟩ := authorized_ok hfound
    exact .inr ⟨parent, hmem, howns, id, session, owner, required_ok hid, hsession,
      required_ok howner, rfl⟩

/-! ## Runs of saves -/

structure SaveCall where
  input : ManagedUploadInput
  event : SaveJournal

/-- A refused save leaves the stored record. -/
def saveStep (digests : Digests) (stored : Option ManagedUploadJournal) (call : SaveCall) :
    Option ManagedUploadJournal × Except ManagedUploadError ManagedUploadJournal :=
  match call.input.saveJournal digests stored call.event with
  | .ok r => (some r, .ok r)
  | .error error => (stored, .error error)

abbrev SaveEntry :=
  Machine.Entry (Option ManagedUploadJournal) SaveCall (Except ManagedUploadError ManagedUploadJournal)

/-- Any saves, with any inputs. -/
abbrev SaveRun (digests : Digests) :=
  Machine.Run (saveStep digests) fun _ _ _ => True

/-- The entry that the save has replaced through `recovered_from`. -/
def replaced (e : SaveEntry) : Option ManagedUploadEntry :=
  if e.output.isOk && e.input.event.recoveredFrom.isSome then entry? e.pre else none

/-- The same, where the input has the local Wi-Fi capability. -/
def recovered (e : SaveEntry) : Option ManagedUploadEntry :=
  if e.input.input.capability.localWifiRawValueHex.isSome then replaced e else none

/-- The save has replaced the entry by one that does not recover it. -/
def restarts (e : SaveEntry) : Bool :=
  e.output.isOk && e.input.event.recoveredFrom.isNone && entry? e.pre ≠ e.input.event.entry

/-- The entries recovered since the last restart. -/
def lineage (history : List SaveEntry) : List ManagedUploadEntry :=
  (history.rtakeWhile fun e => !restarts e).filterMap recovered

section Runs

variable {history : List SaveEntry} {stored : Option ManagedUploadJournal} {e : SaveEntry}

theorem lineage_snoc (h : restarts e = false) :
    lineage (history ++ [e]) = lineage history ++ (recovered e).toList := by
  rw [lineage, List.rtakeWhile_concat_pos _ _ _ (by rw [h]; rfl), List.filterMap_append, ← lineage,
    List.filterMap_cons, List.filterMap_nil]
  cases recovered e <;> rfl

theorem lineage_restart (h : restarts e = true) : lineage (history ++ [e]) = [] := by
  rw [lineage, List.rtakeWhile_concat_neg _ _ _ (by rw [h]; decide)]
  rfl

theorem run_lineage (hrun : SaveRun digests none history stored) :
    (stored.map (·.localRecoveryParents)).getD [] = lineage history := by
  induction hrun with
  | nil => rfl
  | @snoc history stored call hrun _ ih =>
    rw [saveStep]
    cases hsave : call.input.saveJournal digests stored call.event with
    | error error =>
      -- a refused save is no recovery and no restart
      have hrecovered : recovered ⟨stored, call, .error error⟩ = none := ite_self _
      rw [lineage_snoc rfl, hrecovered]
      exact ih.trans (List.append_nil _).symm
    | ok r =>
      obtain ⟨-, -, -, hparents⟩ := saveJournal_ok hsave
      show r.localRecoveryParents = _
      rcases recoveryParents_ok hparents with ⟨parent, hfrom, hentry, heq⟩ | ⟨hfrom, heq⟩
      · have hrestarts : restarts ⟨stored, call, .ok r⟩ = false := by
          simp [restarts, hfrom]
        rw [heq, ih, lineage_snoc hrestarts]
        congr 1
        simp only [recovered, replaced, hfrom, hentry]
        cases call.input.capability.localWifiRawValueHex <;> rfl
      · by_cases hsame : entry? stored = call.event.entry
        · have hrestarts : restarts ⟨stored, call, .ok r⟩ = false := by
            simp [restarts, hsame]
          have hrecovered : recovered ⟨stored, call, .ok r⟩ = none := by
            simp [recovered, replaced, hfrom]
          rw [lineage_snoc hrestarts, hrecovered, heq, if_neg (not_not.mpr hsame), ih]
          exact (List.append_nil _).symm
        · rw [heq, if_pos hsame, lineage_restart]
          simp [restarts, hfrom, hsame, Except.isOk, Except.toBool]

/-- The last accepted save computed the stored record. -/
theorem run_valid (hrun : SaveRun digests none history stored) :
    ∀ r, stored = some r → ∃ input, validateJournal digests input r = .ok () := by
  induction hrun with
  | nil => exact fun r hr => (nomatch hr)
  | @snoc history stored call hrun _ ih =>
    rw [saveStep]
    cases hsave : call.input.saveJournal digests stored call.event with
    | error error => exact ih
    | ok r =>
      rintro _ ⟨⟩
      exact ⟨call.input, (saveJournal_ok hsave).1⟩

/-- In every run of saves: the recovery parents are the entries recovered with the local Wi-Fi
capability since the entry was last replaced by an unrelated one; they are a lineage of the current
entry; only a checkpoint of the current entry or of a parent is continued; a nonce hash is carried
within one session only. -/
theorem recovery_parents_of_saves (hrun : SaveRun digests none history (some record)) :
    record.localRecoveryParents = lineage history ∧
    (record.localRecoveryParents ≠ [] →
      ∃ current, record.entry = some current ∧ Lineage current record.localRecoveryParents) ∧
    (∀ (input : ManagedUploadInput) (checkpoint : LocalWifiCheckpoint)
      (recovery : Option LocalWifiRecovery),
      input.localWifiRecovery digests record checkpoint = .ok recovery →
        Continues record checkpoint recovery) ∧
    (∀ e ∈ history, ∀ r nonce, e.output = .ok r → r.authorizationNonceSha256 = some nonce →
      e.input.event.authorizationNonceSha256 = some nonce ∨
        ∃ p, e.pre = some p ∧ p.authorizationNonceSha256 = some nonce ∧
          session? p.entry = session? r.entry) := by
  refine ⟨run_lineage hrun, ?_, fun _ _ _ => localWifiRecovery_ok, ?_⟩
  · intro hne
    obtain ⟨input, hvalid⟩ := run_valid hrun record rfl
    exact (validateLineage_ok (validateJournal_lineage hvalid)).resolve_left hne
  · intro e he r nonce houtput hnonce
    obtain ⟨-, -, -, -, -, hentry⟩ := hrun.mem he
    rw [houtput, saveStep] at hentry
    cases hsave : e.input.input.saveJournal digests e.pre e.input.event with
    | error error =>
      rw [hsave] at hentry
      exact nomatch hentry
    | ok r' =>
      rw [hsave] at hentry
      obtain rfl := Except.ok.inj hentry
      obtain ⟨-, hsaved, hcarried, -⟩ := saveJournal_ok hsave
      rw [hsaved]
      exact carriedNonce_some (hcarried ▸ hnonce)

end Runs

/-! ## A sample lineage -/

mutual

/-- The value as JSON, the members in the order of their names. -/
def json : Value → Json
  | .string value => .str value
  | .number value => .num value
  | .bool value => .bool value
  | .array values => .arr (jsonItems values)
  | .object members => .object (jsonMembers members)

def jsonItems : List Value → List Json
  | [] => []
  | value :: values => json value :: jsonItems values

def jsonMembers : List (String × Value) → List (String × Json)
  | [] => []
  | (name, value) :: members => (name, json value) :: jsonMembers members

end

def sampleDigests : Digests where
  sha256 := Sha256.digest
  toVec := fun value => (json value).compact

def sampleInput : ManagedUploadInput where
  operationId := "upload-1"
  scope := ⟨"https://api.example.com", some "/v1", "a", "p", "org", "production", "eu_1", "dev_1", 2,
    "BOTA1", "ble-id", "a:p:production"⟩
  recording := ⟨"00112233-4455-6677-8899-aabbccddeeff", 3, "900",
    "aaaaaaaaaaaaaaaaaaaaaaaaaaaaaaaaaaaaaaaaaaaaaaaaaaaaaaaaaaaaaaaa", "1704067200123", "1000", "608",
    3, none⟩
  capability := ⟨some "020210001f0000000300b900b600b600",
    "000000000000000000000000000000000000000000000000", 0x37f⟩
  checkpoint := none
  priorJournalEntry := none
  journalKey := none

def sampleOld : ManagedUploadEntry :=
  ⟨"rec_1", some "11112233-4455-6677-8899-aabbccddeeff", some 2⟩

def sampleNext : ManagedUploadEntry :=
  ⟨"rec_1", some "22222222-2222-2222-2222-222222222222", some 3⟩

def sampleLast : ManagedUploadEntry :=
  ⟨"rec_1", some "33333333-3333-3333-3333-333333333333", some 4⟩

def sampleOther : ManagedUploadEntry :=
  ⟨"rec_1", some "44444444-4444-4444-4444-444444444444", some 5⟩

/-- The document that the identity of the input hashes. -/
def sampleIdentity : List UInt8 :=
  sampleDigests.toVec (.object [("scope", { sampleInput.scope with nativeDeviceId := "" }.toValue),
    ("recording", sampleInput.recording.toValue)])

/-- The digest of that document stands in a table, so that a run of saves hashes it once. -/
def tabled : Digests where
  sha256 := fun bytes =>
    if bytes = sampleIdentity then
      ⟨[0xef, 0x0d, 0x00, 0x84, 0xa2, 0x4e, 0x83, 0x70, 0xf8, 0x71, 0x04, 0x89, 0x82, 0x28, 0xd0, 0xf9,
        0x23, 0xb2, 0x51, 0x6a, 0x5f, 0x4d, 0x55, 0xe6, 0x69, 0x1e, 0xb5, 0xab, 0x31, 0x69, 0x64, 0xdb],
        rfl⟩
    else Sha256.digest bytes
  toVec := sampleDigests.toVec

theorem sampleDigests_eq_tabled : sampleDigests = tabled := by
  have hidentity : Sha256.digest sampleIdentity = tabled.sha256 sampleIdentity := by decide +kernel
  have hsha256 : Sha256.digest = tabled.sha256 := by
    funext bytes
    by_cases hbytes : bytes = sampleIdentity
    · rw [hbytes, hidentity]
    · exact (if_neg hbytes).symm
  rw [sampleDigests, hsha256]
  rfl

/-- The old session is recovered by the next one, and that by the last. -/
def sampleSaves : List SaveCall :=
  [⟨sampleInput, some sampleOld, "ready", none, none, none⟩,
    ⟨sampleInput, some sampleNext, "ready", none, none, some sampleOld⟩,
    ⟨sampleInput, some sampleLast, "ready", none, none, some sampleNext⟩]

def sampleSaved : List SaveEntry × Option ManagedUploadJournal :=
  Machine.exec (saveStep sampleDigests) [] none sampleSaves

theorem recovery_parents_of_saves_sample :
    lineage sampleSaved.1 = [sampleOld, sampleNext] ∧
      Lineage sampleLast [sampleOld, sampleNext] := by
  have hstored : sampleSaved.2.map (fun r => (r.entry, r.localRecoveryParents)) =
      some (some sampleLast, [sampleOld, sampleNext]) := by
    rw [sampleSaved, sampleDigests_eq_tabled]
    decide +kernel
  obtain ⟨record, hrecord, hfields⟩ := Option.map_eq_some_iff.mp hstored
  obtain ⟨hentry, hparents⟩ := Prod.mk.inj hfields
  have hrun : SaveRun sampleDigests none sampleSaved.1 (some record) := by
    rw [← hrecord]
    exact Machine.Run.exec (Machine.allowed_true [] none sampleSaves)
  obtain ⟨hlineage, hcurrent, -⟩ := recovery_parents_of_saves hrun
  rw [hparents] at hlineage hcurrent
  obtain ⟨current, hsome, hkept⟩ := hcurrent (List.cons_ne_nil _ _)
  obtain rfl := Option.some.inj (hentry.symm.trans hsome)
  exact ⟨hlineage.symm, hkept⟩

/-- The recovered entry is then replaced by an unrelated one. -/
def sampleDropped : List SaveEntry × Option ManagedUploadJournal :=
  Machine.exec (saveStep sampleDigests) [] none
    (sampleSaves.take 2 ++ [⟨sampleInput, some sampleOther, "ready", none, none, none⟩])

/-- The parents are not all the entries that were replaced through `recovered_from`. -/
theorem recovered_parent_dropped :
    ¬∀ history record, SaveRun sampleDigests none history (some record) →
      record.localRecoveryParents = history.filterMap replaced := by
  intro hall
  have hstored : sampleDropped.2.map (fun r => r.localRecoveryParents) = some [] := by
    rw [sampleDropped, sampleDigests_eq_tabled]
    decide +kernel
  have hreplaced : sampleDropped.1.filterMap replaced = [sampleOld] := by
    rw [sampleDropped, sampleDigests_eq_tabled]
    decide +kernel
  obtain ⟨record, hrecord, hparents⟩ := Option.map_eq_some_iff.mp hstored
  have hrun : SaveRun sampleDigests none sampleDropped.1 (some record) := by
    rw [← hrecord]
    exact Machine.Run.exec (Machine.allowed_true [] none _)
  have heq := hall _ record hrun
  rw [hparents, hreplaced] at heq
  exact nomatch heq

end ManagedUploadInput

end BotaSdk
