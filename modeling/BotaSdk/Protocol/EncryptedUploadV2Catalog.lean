import BotaSdk.Lib.Sha256
import BotaSdk.Protocol.EncryptedUploadV2Codec
import Mathlib.Data.List.Induction
import Mathlib.Data.List.Nodup

/-!
# The recording catalog (`protocol/encrypted_upload_v2_catalog.rs`)

The entries of one session, collected until its END, which declares their number and the digest
of their bodies.  SHA-256 is a parameter.
-/

namespace BotaSdk

open Bytes Layout Protocol TransferV2

def ENCRYPTED_UPLOAD_V2_CATALOG_MAX_ENTRIES : Nat := 4096
def ENCRYPTED_UPLOAD_V2_RECORDING_ENTRY_FIXED_LENGTH : Nat := 96
def ENCRYPTED_UPLOAD_V2_COMMON_HEADER_FIXED_LENGTH : Nat := 12

structure EncryptedUploadV2Catalog where
  transportSessionId : UInt64
  listRevision : UInt32
  listSha256 : FixedBytes 32
  entries : List RecordingEntryV2
deriving DecidableEq

/-- `identities` is the `BTreeSet` in order of insertion, `digest` what has been hashed. -/
structure EncryptedUploadV2CatalogDecoder where
  session : Option UInt64 := none
  entries : List RecordingEntryV2 := []
  identities : List (FixedBytes 16 × UInt32) := []
  digest : List UInt8 := []
deriving DecidableEq

namespace EncryptedUploadV2CatalogDecoder

def invalid (detail : String) : DeviceSdkError :=
  (DeviceSdkError.new .protocolRejected .decode false).withDetail detail

abbrev Answer : Type := Except DeviceSdkError (Option EncryptedUploadV2Catalog)

def identity (entry : RecordingEntryV2) : FixedBytes 16 × UInt32 :=
  (entry.recordingUuid, entry.recordingGeneration)

def pushEntry (self : EncryptedUploadV2CatalogDecoder) (session : UInt64) (bytes : List UInt8)
    (entry : RecordingEntryV2) : EncryptedUploadV2CatalogDecoder × Answer :=
  if entry.common.transportSessionId ≠ session ∨
      self.entries.length = ENCRYPTED_UPLOAD_V2_CATALOG_MAX_ENTRIES ∨
      identity entry ∈ self.identities then
    (self, .error (invalid "catalog entry session, capacity or identity conflict"))
  else
    ({ self with
      identities := self.identities ++ [identity entry]
      digest := self.digest ++ bytes.drop ENCRYPTED_UPLOAD_V2_COMMON_HEADER_FIXED_LENGTH
      entries := self.entries ++ [entry] }, .ok none)

section

variable (sha256 : List UInt8 → FixedBytes 32)

def pushEnd (self : EncryptedUploadV2CatalogDecoder) (session : UInt64) (common : CommonHeaderV2)
    (count listRevision : UInt32) (listSha256 : FixedBytes 32) :
    EncryptedUploadV2CatalogDecoder × Answer :=
  if common.transportSessionId ≠ session ∨ count.toNat ≠ self.entries.length ∨
      sha256 self.digest ≠ listSha256 then
    (self, .error (invalid "catalog END session, count or digest mismatch"))
  else
    -- `std::mem::take`
    ({ self with entries := [] },
      .ok (some { transportSessionId := session, listRevision, listSha256, entries := self.entries }))

def pushMessage (self : EncryptedUploadV2CatalogDecoder) (session : UInt64) (bytes : List UInt8) :
    EncryptedUploadV2Transfer → EncryptedUploadV2CatalogDecoder × Answer
  | .recordingEntry entry => self.pushEntry session bytes entry
  | .recordingListEnd common count listRevision listSha256 =>
    self.pushEnd sha256 session common count listRevision listSha256
  | _ => (self, .error (invalid "unexpected catalog message"))

def pushInner (self : EncryptedUploadV2CatalogDecoder) (session : UInt64) (bytes : List UInt8) :
    EncryptedUploadV2CatalogDecoder × Answer :=
  if session = 0 then (self, .error (invalid "catalog session must be nonzero"))
  else if bytes = [] then ({ session := some session }, .ok none)
  else if self.session ≠ some session then
    (self, .error (invalid "catalog is not owned by this session"))
  else if ENCRYPTED_UPLOAD_V2_RECORDING_ENTRY_FIXED_LENGTH < bytes.length then
    (self, .error (invalid "catalog packet exceeds bound"))
  else
    match decodeEncryptedUploadV2Transfer bytes with
    | .error e => (self, .error e)
    | .ok message => self.pushMessage sha256 session bytes message

/-- An END and every failure consume the session. -/
def push (self : EncryptedUploadV2CatalogDecoder) (session : UInt64) (bytes : List UInt8) :
    EncryptedUploadV2CatalogDecoder × Answer :=
  match self.pushInner sha256 session bytes with
  | (_, .error e) => ({}, .error e)
  | (_, .ok (some catalog)) => ({}, .ok (some catalog))
  | (self, .ok none) => (self, .ok none)

/-- A call of the decoder's owner. -/
inductive Input where
  | push (session : UInt64) (bytes : List UInt8)
  | reset
deriving DecidableEq

def step (self : EncryptedUploadV2CatalogDecoder) : Input → EncryptedUploadV2CatalogDecoder
  | .push session bytes => (self.push sha256 session bytes).1
  | .reset => {}

def after (self : EncryptedUploadV2CatalogDecoder) : List Input → EncryptedUploadV2CatalogDecoder
  | [] => self
  | input :: inputs => (self.step sha256 input).after inputs

end

/-! ## What a device sends -/

def opening (session : UInt64) : Input :=
  .push session []

def entryInput (session : UInt64) (entry : RecordingEntryV2) : Input :=
  .push session (frame (.recordingEntry entry))

/-- The part of an entry's frame that the digest covers. -/
def body (entry : RecordingEntryV2) : List UInt8 :=
  (frame (.recordingEntry entry)).drop ENCRYPTED_UPLOAD_V2_COMMON_HEADER_FIXED_LENGTH

/-- Entries that one list of a session can have. -/
structure Listed (session : UInt64) (entries : List RecordingEntryV2) : Prop where
  accepted : ∀ entry ∈ entries, Accepted (.recordingEntry entry)
  session : ∀ entry ∈ entries, entry.common.transportSessionId = session
  distinct : (entries.map identity).Nodup
  count : entries.length ≤ ENCRYPTED_UPLOAD_V2_CATALOG_MAX_ENTRIES

/-- The decoder when exactly these entries have arrived since the session was opened. -/
def collected (session : UInt64) (entries : List RecordingEntryV2) :
    EncryptedUploadV2CatalogDecoder where
  session := some session
  entries := entries
  identities := entries.map identity
  digest := entries.flatMap body

def catalogOf (sha256 : List UInt8 → FixedBytes 32) (session : UInt64) (listRevision : UInt32)
    (entries : List RecordingEntryV2) : EncryptedUploadV2Catalog where
  transportSessionId := session
  listRevision := listRevision
  listSha256 := sha256 (entries.flatMap body)
  entries := entries

section Push

variable {sha256 : List UInt8 → FixedBytes 32} {self self' : EncryptedUploadV2CatalogDecoder}
variable {session : UInt64} {bytes : List UInt8} {entries : List RecordingEntryV2}
variable {entry : RecordingEntryV2} {e : DeviceSdkError} {catalog : EncryptedUploadV2Catalog}

@[simp] theorem after_append (inputs rest : List Input) :
    self.after sha256 (inputs ++ rest) = (self.after sha256 inputs).after sha256 rest := by
  induction inputs generalizing self with
  | nil => rfl
  | cons input inputs ih => exact ih

/-- Nothing survives a failure. -/
theorem push_error (h : (self.push sha256 session bytes).2 = .error e) :
    (self.push sha256 session bytes).1 = {} := by
  unfold push at h ⊢
  split at h
  · rfl
  · exact nomatch h
  · exact nomatch h

theorem push_published (h : (self.push sha256 session bytes).2 = .ok (some catalog)) :
    (self.push sha256 session bytes).1 = {} := by
  unfold push at h ⊢
  split at h
  · exact nomatch h
  · rfl
  · exact nomatch h

theorem push_of_error (h : (self.pushInner sha256 session bytes).2 = .error e) :
    self.push sha256 session bytes = ({}, .error e) := by
  unfold push
  split
  · rename_i heq
    rw [heq] at h
    rw [Except.error.inj h]
  · rename_i heq
    rw [heq] at h
    exact nomatch h
  · rename_i heq
    rw [heq] at h
    exact nomatch h

theorem push_of_none (h : self.pushInner sha256 session bytes = (self', .ok none)) :
    self.push sha256 session bytes = (self', .ok none) := by
  unfold push
  rw [h]

theorem push_of_some (self' : EncryptedUploadV2CatalogDecoder)
    (h : self.pushInner sha256 session bytes = (self', .ok (some catalog))) :
    self.push sha256 session bytes = ({}, .ok (some catalog)) := by
  unfold push
  rw [h]

theorem push_opening (h : session ≠ 0) :
    self.push sha256 session [] = (collected session [], .ok none) := by
  refine push_of_none ?_
  unfold pushInner
  rw [if_neg h, if_pos rfl]
  rfl

/-- The decoder with one entry more. -/
def received (self : EncryptedUploadV2CatalogDecoder) (entry : RecordingEntryV2) :
    EncryptedUploadV2CatalogDecoder :=
  { self with
    identities := self.identities ++ [identity entry]
    digest := self.digest ++ body entry
    entries := self.entries ++ [entry] }

/-- What makes an END match what has arrived. -/
structure Matches (sha256 : List UInt8 → FixedBytes 32) (decoder : EncryptedUploadV2CatalogDecoder)
    (session : UInt64) (common : CommonHeaderV2) (count listRevision : UInt32)
    (listSha256 : FixedBytes 32) : Prop where
  owned : decoder.session = some session
  accepted : Accepted (.recordingListEnd common count listRevision listSha256)
  session : common.transportSessionId = session
  count : count.toNat = decoder.entries.length
  digest : listSha256 = sha256 decoder.digest

/-- Everything a push can do. -/
inductive Pushed (sha256 : List UInt8 → FixedBytes 32) (self : EncryptedUploadV2CatalogDecoder)
    (session : UInt64) : List UInt8 → EncryptedUploadV2CatalogDecoder × Answer → Prop
  | failed (bytes : List UInt8) (e : DeviceSdkError) : Pushed sha256 self session bytes ({}, .error e)
  | opened (h : session ≠ 0) :
      Pushed sha256 self session [] ({ session := some session }, .ok none)
  | entry (entry : RecordingEntryV2) (howned : self.session = some session)
      (haccepted : Accepted (.recordingEntry entry))
      (hsession : entry.common.transportSessionId = session)
      (hcount : self.entries.length ≠ ENCRYPTED_UPLOAD_V2_CATALOG_MAX_ENTRIES)
      (hnew : identity entry ∉ self.identities) :
      Pushed sha256 self session (frame (.recordingEntry entry)) (self.received entry, .ok none)
  | published (common : CommonHeaderV2) (count listRevision : UInt32) (listSha256 : FixedBytes 32)
      (h : Matches sha256 self session common count listRevision listSha256) :
      Pushed sha256 self session (frame (.recordingListEnd common count listRevision listSha256))
        ({}, .ok (some {
          transportSessionId := session, listRevision, listSha256, entries := self.entries }))

theorem pushed_entry (howned : self.session = some session)
    (hinner : self.pushInner sha256 session (frame (.recordingEntry entry))
      = self.pushEntry session (frame (.recordingEntry entry)) entry)
    (haccepted : Accepted (.recordingEntry entry)) :
    Pushed sha256 self session (frame (.recordingEntry entry))
      (self.push sha256 session (frame (.recordingEntry entry))) := by
  unfold pushEntry at hinner
  by_cases hrefused : entry.common.transportSessionId ≠ session ∨
      self.entries.length = ENCRYPTED_UPLOAD_V2_CATALOG_MAX_ENTRIES ∨
      identity entry ∈ self.identities
  · rw [if_pos hrefused] at hinner
    rw [push_of_error (congrArg Prod.snd hinner)]
    exact .failed _ _
  · rw [if_neg hrefused] at hinner
    obtain ⟨hsession, hcount, hnew⟩ := not_or.mp hrefused |>.imp_right not_or.mp
    rw [push_of_none hinner]
    exact .entry entry howned haccepted (Decidable.not_not.mp hsession) hcount hnew

theorem pushed_end {common : CommonHeaderV2} {count listRevision : UInt32}
    {listSha256 : FixedBytes 32} (howned : self.session = some session)
    (hinner : self.pushInner sha256 session
        (frame (.recordingListEnd common count listRevision listSha256))
      = self.pushEnd sha256 session common count listRevision listSha256)
    (haccepted : Accepted (.recordingListEnd common count listRevision listSha256)) :
    Pushed sha256 self session (frame (.recordingListEnd common count listRevision listSha256))
      (self.push sha256 session (frame (.recordingListEnd common count listRevision listSha256))) := by
  unfold pushEnd at hinner
  by_cases hrefused : common.transportSessionId ≠ session ∨ count.toNat ≠ self.entries.length ∨
      sha256 self.digest ≠ listSha256
  · rw [if_pos hrefused] at hinner
    rw [push_of_error (congrArg Prod.snd hinner)]
    exact .failed _ _
  · rw [if_neg hrefused] at hinner
    obtain ⟨hsession, hcount, hdigest⟩ := not_or.mp hrefused |>.imp_right not_or.mp
    rw [push_of_some _ hinner]
    exact .published common count listRevision listSha256 ⟨howned, haccepted,
      Decidable.not_not.mp hsession, Decidable.not_not.mp hcount,
      (Decidable.not_not.mp hdigest).symm⟩

theorem pushInner_of_decode (sha256 : List UInt8 → FixedBytes 32)
    (self : EncryptedUploadV2CatalogDecoder) {message : EncryptedUploadV2Transfer} (hzero : session ≠ 0)
    (hbytes : bytes ≠ []) (howned : self.session = some session)
    (hlen : bytes.length ≤ ENCRYPTED_UPLOAD_V2_RECORDING_ENTRY_FIXED_LENGTH)
    (hdecode : decodeEncryptedUploadV2Transfer bytes = .ok message) :
    self.pushInner sha256 session bytes = self.pushMessage sha256 session bytes message := by
  unfold pushInner
  rw [if_neg hzero, if_neg hbytes, if_neg (not_not.mpr howned), if_neg (Nat.not_lt.mpr hlen),
    hdecode]

/-- The one case analysis of `push`. -/
theorem push_cases (sha256 : List UInt8 → FixedBytes 32) (self : EncryptedUploadV2CatalogDecoder)
    (session : UInt64) (bytes : List UInt8) :
    Pushed sha256 self session bytes (self.push sha256 session bytes) := by
  have hfail : ∀ e, self.pushInner sha256 session bytes = (self, .error e) →
      Pushed sha256 self session bytes (self.push sha256 session bytes) := by
    intro e h
    rw [push_of_error (congrArg Prod.snd h)]
    exact .failed bytes e
  by_cases hzero : session = 0
  · refine hfail (invalid "catalog session must be nonzero") ?_
    unfold pushInner
    exact if_pos hzero
  by_cases hbytes : bytes = []
  · subst hbytes
    rw [push_opening hzero]
    exact .opened hzero
  by_cases howned : self.session ≠ some session
  · refine hfail (invalid "catalog is not owned by this session") ?_
    unfold pushInner
    rw [if_neg hzero, if_neg hbytes, if_pos howned]
  by_cases hlen : ENCRYPTED_UPLOAD_V2_RECORDING_ENTRY_FIXED_LENGTH < bytes.length
  · refine hfail (invalid "catalog packet exceeds bound") ?_
    unfold pushInner
    rw [if_neg hzero, if_neg hbytes, if_neg howned, if_pos hlen]
  have howned : self.session = some session := Decidable.not_not.mp howned
  cases hdecode : decodeEncryptedUploadV2Transfer bytes with
  | error e =>
    refine hfail e ?_
    unfold pushInner
    rw [if_neg hzero, if_neg hbytes, if_neg (not_not.mpr howned), if_neg hlen, hdecode]
  | ok message =>
    have hinner : self.pushInner sha256 session bytes = self.pushMessage sha256 session bytes message :=
      pushInner_of_decode sha256 self hzero hbytes howned (Nat.not_lt.mp hlen) hdecode
    obtain ⟨haccepted, rfl⟩ := decode_eq_ok.mp hdecode
    cases message with
    | recordingEntry entry => exact pushed_entry howned hinner haccepted
    | recordingListEnd common count listRevision listSha256 =>
      exact pushed_end howned hinner haccepted
    | _ => exact hfail _ hinner

end Push

/-! ## Whole histories -/

/-- The decoder owns nothing, or the history ends with an opened session and its entries. -/
def Owned (history : List Input) (self : EncryptedUploadV2CatalogDecoder) : Prop :=
  self = {} ∨ ∃ session before entries, session ≠ 0 ∧
    history = before ++ opening session :: entries.map (entryInput session) ∧
    Listed session entries ∧ self = collected session entries

/-- The catalog is what the history's last session has sent: the END declares the number of its
entries and the digest of their bodies. -/
def Publishes (sha256 : List UInt8 → FixedBytes 32) (history : List Input) (session : UInt64)
    (bytes : List UInt8) (catalog : EncryptedUploadV2Catalog) : Prop :=
  ∃ before entries common count listRevision,
    history = before ++ opening session :: entries.map (entryInput session) ∧
    Listed session entries ∧
    bytes = frame (.recordingListEnd common count listRevision (sha256 (entries.flatMap body))) ∧
    common.transportSessionId = session ∧ count.toNat = entries.length ∧
    catalog = catalogOf sha256 session listRevision entries

section Runs

variable {sha256 : List UInt8 → FixedBytes 32} {self : EncryptedUploadV2CatalogDecoder}
variable {session : UInt64} {bytes : List UInt8} {entries : List RecordingEntryV2}
variable {entry : RecordingEntryV2} {history later : List Input}
variable {catalog : EncryptedUploadV2Catalog}

theorem listed_nil (session : UInt64) : Listed session [] :=
  ⟨by simp, by simp, List.nodup_nil, Nat.zero_le _⟩

theorem Listed.snoc (h : Listed session entries) (haccepted : Accepted (.recordingEntry entry))
    (hsession : entry.common.transportSessionId = session)
    (hcount : entries.length ≠ ENCRYPTED_UPLOAD_V2_CATALOG_MAX_ENTRIES)
    (hnew : identity entry ∉ entries.map identity) : Listed session (entries ++ [entry]) where
  accepted := List.forall_mem_append.mpr ⟨h.accepted, by simpa using haccepted⟩
  session := List.forall_mem_append.mpr ⟨h.session, by simpa using hsession⟩
  distinct := by
    rw [List.map_append]
    exact List.nodup_append.mpr ⟨h.distinct, List.nodup_singleton _, fun a ha b hb hab =>
      hnew ((List.mem_singleton.mp hb) ▸ hab ▸ ha)⟩
  count := by
    rw [List.length_append, List.length_singleton]
    exact Nat.lt_of_le_of_ne h.count hcount

theorem received_collected :
    (collected session entries).received entry = collected session (entries ++ [entry]) := by
  simp [received, collected]

theorem collected_session_eq {session' : UInt64}
    (h : (collected session entries).session = some session') : session = session' :=
  Option.some.inj h

/-- One call of the owner. -/
theorem step_owned (h : Owned history self) (input : Input) :
    Owned (history ++ [input]) (self.step sha256 input) := by
  cases input with
  | reset => exact Or.inl rfl
  | push session bytes =>
    have hpush := push_cases sha256 self session bytes
    show Owned _ (self.push sha256 session bytes).1
    generalize self.push sha256 session bytes = result at hpush ⊢
    cases hpush with
    | failed => exact Or.inl rfl
    | opened hsession => exact Or.inr ⟨session, history, [], hsession, rfl, listed_nil session, rfl⟩
    | entry entry howned haccepted hsession hcount hnew =>
      rcases h with rfl | ⟨session', before, entries, hzero, rfl, hlisted, rfl⟩
      · exact nomatch howned
      · obtain rfl := collected_session_eq howned
        refine Or.inr ⟨session', before, entries ++ [entry], hzero, ?_, ?_, received_collected⟩
        · rw [List.map_append, List.append_assoc]
          rfl
        · exact hlisted.snoc haccepted hsession hcount hnew
    | published => exact Or.inl rfl

theorem owned_after (history : List Input) (h : Owned history self) (inputs : List Input) :
    Owned (history ++ inputs) (self.after sha256 inputs) := by
  induction inputs generalizing history self with
  | nil => rwa [List.append_nil]
  | cons input inputs ih =>
    rw [List.append_cons]
    exact ih _ (step_owned h input)

/-- A catalog is published from what the last session has sent, and from nothing else. -/
theorem publishes_of_owned (h : Owned history self)
    (hpush : (self.push sha256 session bytes).2 = .ok (some catalog)) :
    Publishes sha256 history session bytes catalog := by
  have hcases := push_cases sha256 self session bytes
  generalize self.push sha256 session bytes = result at hcases hpush
  cases hcases with
  | failed => exact nomatch hpush
  | opened => exact nomatch hpush
  | entry => exact nomatch hpush
  | published common count listRevision listSha256 hmatches =>
    obtain rfl := Option.some.inj (Except.ok.inj hpush)
    rcases h with rfl | ⟨session', before, entries, -, rfl, hlisted, rfl⟩
    · exact nomatch hmatches.owned
    · obtain rfl := collected_session_eq hmatches.owned
      obtain rfl : listSha256 = sha256 (entries.flatMap body) := hmatches.digest
      exact ⟨before, entries, common, count, listRevision, rfl, hlisted, rfl, hmatches.session,
        hmatches.count, rfl⟩

/-- After an END or a failure the decoder is as new. -/
theorem push_consumed (h : (self.push sha256 session bytes).2 ≠ .ok none) :
    (self.push sha256 session bytes).1 = {} := by
  cases hresult : (self.push sha256 session bytes).2 with
  | error e => exact push_error hresult
  | ok answer =>
    cases answer with
    | none => exact absurd hresult h
    | some catalog => exact push_published hresult

/-! ## A faithful device -/

theorem length_frame_entry (entry : RecordingEntryV2) :
    (frame (.recordingEntry entry)).length = ENCRYPTED_UPLOAD_V2_RECORDING_ENTRY_FIXED_LENGTH := by
  simp [frame, frameFields, headerFields, ENCRYPTED_UPLOAD_V2_RECORDING_ENTRY_FIXED_LENGTH]

theorem length_frame_end (common : CommonHeaderV2) (count listRevision : UInt32)
    (listSha256 : FixedBytes 32) :
    (frame (.recordingListEnd common count listRevision listSha256)).length = 52 := by
  simp [frame, frameFields, headerFields]

theorem ne_nil_of_length {bytes : List UInt8} {n : Nat} (h : bytes.length = n + 1) : bytes ≠ [] :=
  List.ne_nil_of_length_eq_add_one h

def endHeader (session : UInt64) : CommonHeaderV2 where
  messageType := ENCRYPTED_UPLOAD_V2_RECORDING_LIST_END
  flags := 0
  transportSessionId := session

/-- The END of a list, as the device writes it. -/
def endFrame (sha256 : List UInt8 → FixedBytes 32) (session : UInt64) (listRevision : UInt32)
    (entries : List RecordingEntryV2) : List UInt8 :=
  frame (.recordingListEnd (endHeader session) (UInt32.ofNat entries.length) listRevision
    (sha256 (entries.flatMap body)))

theorem push_entry (hzero : session ≠ 0) (h : Listed session (entries ++ [entry])) :
    (collected session entries).push sha256 session (frame (.recordingEntry entry))
      = (collected session (entries ++ [entry]), .ok none) := by
  have haccepted := h.accepted entry (by simp)
  have hinner := pushInner_of_decode sha256 (collected session entries) hzero
    (ne_nil_of_length (length_frame_entry entry)) rfl (length_frame_entry entry).le
    (decode_complete haccepted)
  have hdistinct := h.distinct
  rw [List.map_append, List.nodup_append] at hdistinct
  have hcount := h.count
  rw [List.length_append, List.length_singleton] at hcount
  refine push_of_none (hinner.trans ?_)
  show pushEntry _ _ _ _ = _
  unfold pushEntry
  rw [if_neg]
  · exact congrArg (·, Except.ok none) received_collected
  · refine not_or.mpr ⟨not_not.mpr (h.session entry (by simp)), not_or.mpr ⟨?_, ?_⟩⟩
    · show entries.length ≠ _
      omega
    · exact fun hmem => hdistinct.2.2 _ hmem _ (List.mem_singleton.mpr rfl) rfl

theorem Listed.init (h : Listed session (entries ++ [entry])) : Listed session entries where
  accepted := fun e he => h.accepted e (List.mem_append_left _ he)
  session := fun e he => h.session e (List.mem_append_left _ he)
  distinct := by
    have hdistinct := h.distinct
    rw [List.map_append] at hdistinct
    exact hdistinct.sublist (List.sublist_append_left _ _)
  count := by
    have hcount := h.count
    rw [List.length_append] at hcount
    omega

/-- The entries of a list are taken one after the other. -/
theorem after_entries (hzero : session ≠ 0) (h : Listed session entries) :
    self.after sha256 (opening session :: entries.map (entryInput session))
      = collected session entries := by
  induction entries using List.reverseRecOn with
  | nil =>
    show (self.push sha256 session []).1 = _
    rw [push_opening hzero]
  | append_singleton entries entry ih =>
    rw [List.map_append, ← List.cons_append, after_append, ih h.init]
    show ((collected session entries).push sha256 session _).1 = _
    rw [push_entry hzero h]

theorem push_endFrame (hzero : session ≠ 0) (h : Listed session entries) (listRevision : UInt32) :
    (collected session entries).push sha256 session (endFrame sha256 session listRevision entries)
      = ({}, .ok (some (catalogOf sha256 session listRevision entries))) := by
  have hlen := length_frame_end (endHeader session) (UInt32.ofNat entries.length) listRevision
    (sha256 (entries.flatMap body))
  have hinner := pushInner_of_decode sha256 (collected session entries) hzero
    (ne_nil_of_length hlen) rfl (by rw [hlen]; decide) (decode_complete ⟨rfl, rfl, hzero⟩)
  have hmax : ENCRYPTED_UPLOAD_V2_CATALOG_MAX_ENTRIES = 4096 := rfl
  have hcount : (UInt32.ofNat entries.length).toNat = entries.length := by
    have := h.count
    show entries.length % 2 ^ 32 = _
    omega
  refine push_of_some { collected session entries with entries := [] }
    (hinner.trans ?_)
  show pushEnd _ _ _ _ _ _ _ = _
  unfold pushEnd
  rw [if_neg]
  · rfl
  · refine not_or.mpr ⟨not_not.mpr rfl, not_or.mpr ⟨not_not.mpr hcount, not_not.mpr rfl⟩⟩

end Runs

/-- After any frames and resets: a catalog is published only at an END, and is the entries
received since the last opening of its session; an END or a failure leaves nothing to a later
catalog; and every list that a device can send is published. -/
theorem catalog_session (sha256 : List UInt8 → FixedBytes 32) :
    (∀ history session bytes catalog,
      ((after sha256 {} history).push sha256 session bytes).2 = .ok (some catalog) →
        Publishes sha256 history session bytes catalog) ∧
    (∀ history session bytes later session' bytes' catalog,
      ((after sha256 {} history).push sha256 session bytes).2 ≠ .ok none →
      ((after sha256 {} (history ++ .push session bytes :: later)).push sha256 session' bytes').2
        = .ok (some catalog) →
        Publishes sha256 later session' bytes' catalog) ∧
    ∀ history session entries listRevision, session ≠ 0 → Listed session entries →
      ((after sha256 {} (history ++ opening session :: entries.map (entryInput session))).push sha256
        session (endFrame sha256 session listRevision entries)).2
          = .ok (some (catalogOf sha256 session listRevision entries)) := by
  have hpublishes : ∀ history session bytes catalog,
      ((after sha256 {} history).push sha256 session bytes).2 = .ok (some catalog) →
        Publishes sha256 history session bytes catalog := by
    intro history session bytes catalog h
    exact publishes_of_owned (owned_after [] (Or.inl rfl) history) h
  refine ⟨hpublishes, ?_, ?_⟩
  · intro history session bytes later session' bytes' catalog hconsumed h
    have hnew : after sha256 {} (history ++ .push session bytes :: later) = after sha256 {} later := by
      rw [after_append]
      show after sha256 ((after sha256 {} history).push sha256 session bytes).1 later = _
      rw [push_consumed hconsumed]
    rw [hnew] at h
    exact hpublishes later session' bytes' catalog h
  · intro history session entries listRevision hzero hlisted
    rw [after_append, after_entries hzero hlisted, push_endFrame hzero hlisted]

/-! ## Two generations of a recording -/

def sampleEntry (recordingGeneration : UInt32) (completionState : UInt8) : RecordingEntryV2 where
  common := {
    messageType := ENCRYPTED_UPLOAD_V2_RECORDING_ENTRY, flags := 0, transportSessionId := 7 }
  recordingUuid := FixedBytes.replicate 16 2
  recordingGeneration
  storageFormat := 3
  completionState
  startedAt := 1767225600000
  durationSeconds := 60
  plaintextLength := 272
  ciphertextLength := 293
  ciphertextSha256 := Sha256.digest [9]

def sampleEntries : List RecordingEntryV2 :=
  [sampleEntry 3 1, sampleEntry 4 2]

theorem listed_sample : Listed 7 sampleEntries where
  accepted := by
    intro entry hentry
    rcases List.mem_pair.mp hentry with rfl | rfl
    · exact ⟨⟨rfl, rfl, by decide⟩, rfl, .inl rfl⟩
    · exact ⟨⟨rfl, rfl, by decide⟩, rfl, .inr rfl⟩
  session := by
    intro entry hentry
    rcases List.mem_pair.mp hentry with rfl | rfl <;> rfl
  distinct := by decide
  count := by decide

/-- The session's list, up to its END. -/
def sampleList : List Input :=
  opening 7 :: sampleEntries.map (entryInput 7)

/-- An entry comes twice and fails, and the session is opened again and sends its list. -/
theorem catalog_session_sample :
    Publishes Sha256.digest (sampleList ++ entryInput 7 (sampleEntry 3 1) :: sampleList) 7
        (endFrame Sha256.digest 7 9 sampleEntries) (catalogOf Sha256.digest 7 9 sampleEntries) ∧
      Publishes Sha256.digest sampleList 7 (endFrame Sha256.digest 7 9 sampleEntries)
        (catalogOf Sha256.digest 7 9 sampleEntries) ∧
      (catalogOf Sha256.digest 7 9 sampleEntries).entries = [sampleEntry 3 1, sampleEntry 4 2] ∧
      (catalogOf Sha256.digest 7 9 sampleEntries).listSha256.1 = [
        0xd9, 0x88, 0xcd, 0x9f, 0xa7, 0x77, 0x35, 0xf3, 0x43, 0x76, 0xea, 0x94, 0x67, 0x28, 0x7a, 0x65,
        0x06, 0xa0, 0x4c, 0x49, 0x7f, 0x9e, 0xc6, 0x42, 0xd0, 0xad, 0x54, 0x2c, 0x73, 0x3f, 0x9f, 0x5a] := by
  have hfailed : ((after Sha256.digest {} sampleList).push Sha256.digest 7
      (frame (.recordingEntry (sampleEntry 3 1)))).2 ≠ .ok none := by
    decide +kernel
  have hpublished := (catalog_session Sha256.digest).2.2
    (sampleList ++ [entryInput 7 (sampleEntry 3 1)]) 7 sampleEntries 9 (by decide) listed_sample
  rw [List.append_assoc] at hpublished
  exact ⟨(catalog_session Sha256.digest).1 _ _ _ _ hpublished,
    (catalog_session Sha256.digest).2.1 sampleList 7 _ sampleList 7 _ _ hfailed hpublished, rfl,
    by decide +kernel⟩

end EncryptedUploadV2CatalogDecoder

end BotaSdk
