import BotaSdk.Bridge.SafeJson
import BotaSdk.Lib.JsonObjects
import BotaSdk.Model.ByoCheckpointCodec
import BotaSdk.Model.ByoUploadRuns

/-!
# The recovery checkpoint as JSON

What `serde` derives for `ByoRecovery`: written by `serde_json::to_value`, read back through the
deserializer of `json.rs`, which also takes a 64-bit integer as a decimal text.
-/

namespace BotaSdk

namespace ByoJson

/-! ## Fields -/

/-- An unsigned integer of so many bits. -/
def readWord (bits : Nat) : Json → Option Nat
  | .num value => if 0 ≤ value ∧ value.toNat < 2 ^ bits then some value.toNat else none
  | _ => none

/-- `IntegerVisitor` for a `u64`. -/
def readU64 : Json → Option Nat
  | .num value =>
    if 0 ≤ value ∧ value.toNat ≤ Json.MAX_SAFE_INTEGER then some value.toNat else none
  | .str text => (SafeJson.parse false text).bind fun value =>
      if toString value = text then some value.toNat else none
  | _ => none

/-- A variant without content, by its name or as the object that gives it null. -/
def readVariant {α : Type} (named : String → Option α) : Json → Option α
  | .str name => named name
  | .obj [(name, .null)] => named name
  | _ => none

def environmentName : ByoEnvironment → String
  | .development => "development"
  | .gamma => "gamma"
  | .production => "production"

def environmentNamed : String → Option ByoEnvironment
  | "development" => some .development
  | "gamma" => some .gamma
  | "production" => some .production
  | _ => none

def phaseName : ByoPhase → String
  | .new => "New"
  | .webSocket => "WebSocket"
  | .httpSegments => "HttpSegments"
  | .waitingForSource => "WaitingForSource"
  | .fencePending => "FencePending"
  | .httpWholeFile => "HttpWholeFile"
  | .verifying => "Verifying"
  | .receiptVerified => "ReceiptVerified"
  | .cleanupPending => "CleanupPending"
  | .complete => "Complete"

def phaseNamed : String → Option ByoPhase
  | "New" => some .new
  | "WebSocket" => some .webSocket
  | "HttpSegments" => some .httpSegments
  | "WaitingForSource" => some .waitingForSource
  | "FencePending" => some .fencePending
  | "HttpWholeFile" => some .httpWholeFile
  | "Verifying" => some .verifying
  | "ReceiptVerified" => some .receiptVerified
  | "CleanupPending" => some .cleanupPending
  | "Complete" => some .complete
  | _ => none

def modeName : ByoHandoffMode → String
  | .assembled => "Assembled"
  | .wholeFile => "WholeFile"

def modeNamed : String → Option ByoHandoffMode
  | "Assembled" => some .assembled
  | "WholeFile" => some .wholeFile
  | _ => none

end ByoJson

open ByoJson

/-! ## Documents -/

namespace ByoCapture

def FIELDS : List String :=
  ["environment", "organization_id", "project_id", "device_id", "binding_generation",
    "device_assignment_generation", "policy_revision", "recording_uuid", "recording_generation"]

def members (self : ByoCapture) : List (String × Json) :=
  [("environment", .str (environmentName self.environment)),
    ("organization_id", .str self.organizationId),
    ("project_id", .str self.projectId),
    ("device_id", .str self.deviceId),
    ("binding_generation", .ofNat self.bindingGeneration),
    ("device_assignment_generation", .ofNat self.deviceAssignmentGeneration),
    ("policy_revision", .str self.policyRevision),
    ("recording_uuid", .str self.recordingUuid),
    ("recording_generation", .ofNat self.recordingGeneration)]

def toJson (self : ByoCapture) : Json :=
  .object self.members

def ofMembers (fields : List (String × Json)) : Option ByoCapture := do
  let environment ← Json.field (readVariant environmentNamed) "environment" fields
  let organizationId ← Json.field Json.asStr "organization_id" fields
  let projectId ← Json.field Json.asStr "project_id" fields
  let deviceId ← Json.field Json.asStr "device_id" fields
  let bindingGeneration ← Json.field (readWord 32) "binding_generation" fields
  let deviceAssignmentGeneration ← Json.field (readWord 32) "device_assignment_generation" fields
  let policyRevision ← Json.field Json.asStr "policy_revision" fields
  let recordingUuid ← Json.field Json.asStr "recording_uuid" fields
  let recordingGeneration ← Json.field (readWord 32) "recording_generation" fields
  return {
    environment, organizationId, projectId, deviceId, bindingGeneration
    deviceAssignmentGeneration, policyRevision, recordingUuid, recordingGeneration }

def ofJson (v : Json) : Option ByoCapture :=
  (Json.record FIELDS 9 v).bind ofMembers

end ByoCapture

namespace ByoRoute

def FIELDS : List String :=
  ["recording_id", "configuration_id", "configuration_revision", "configuration_sha256",
    "destination_ref", "session_id", "owner_revision"]

def members (self : ByoRoute) : List (String × Json) :=
  [("recording_id", .str self.recordingId),
    ("configuration_id", .str self.configurationId),
    ("configuration_revision", .ofNat self.configurationRevision),
    ("configuration_sha256", .str self.configurationSha256),
    ("destination_ref", .str self.destinationRef),
    ("session_id", .str self.sessionId),
    ("owner_revision", .ofNat self.ownerRevision)]

def toJson (self : ByoRoute) : Json :=
  .object self.members

def ofMembers (fields : List (String × Json)) : Option ByoRoute := do
  let recordingId ← Json.field Json.asStr "recording_id" fields
  let configurationId ← Json.field Json.asStr "configuration_id" fields
  let configurationRevision ← Json.field (readWord 32) "configuration_revision" fields
  let configurationSha256 ← Json.field Json.asStr "configuration_sha256" fields
  let destinationRef ← Json.field Json.asStr "destination_ref" fields
  let sessionId ← Json.field Json.asStr "session_id" fields
  let ownerRevision ← Json.field (readWord 32) "owner_revision" fields
  return {
    recordingId, configurationId, configurationRevision, configurationSha256, destinationRef
    sessionId, ownerRevision }

def ofJson (v : Json) : Option ByoRoute :=
  (Json.record FIELDS 7 v).bind ofMembers

end ByoRoute

namespace ByoRecovery

def FIELDS : List String :=
  ["version", "capture", "route", "phase", "ws_retries", "source_length", "source_sha256",
    "pending_operation", "handoff_mode", "receipt_sha256", "renewal_revision",
    "renewal_operation"]

def members (self : ByoRecovery) : List (String × Json) :=
  [("version", .ofNat self.version),
    ("capture", self.capture.toJson),
    ("route", .ofOption ByoRoute.toJson self.route),
    ("phase", .str (phaseName self.phase)),
    ("ws_retries", .ofNat self.wsRetries),
    ("source_length", .ofOption .ofNat self.sourceLength),
    ("source_sha256", .ofOption .str self.sourceSha256),
    ("pending_operation", .ofOption .str self.pendingOperation),
    ("handoff_mode", .ofOption (fun mode => .str (modeName mode)) self.handoffMode),
    ("receipt_sha256", .ofOption .str self.receiptSha256),
    ("renewal_revision", .ofNat self.renewalRevision),
    ("renewal_operation", .ofOption .str self.renewalOperation)]

def toJson (self : ByoRecovery) : Json :=
  .object self.members

def ofMembers (fields : List (String × Json)) : Option ByoRecovery := do
  let version ← Json.field (readWord 32) "version" fields
  let capture ← Json.field ByoCapture.ofJson "capture" fields
  let route ← Json.optional ByoRoute.ofJson "route" fields
  let phase ← Json.field (readVariant phaseNamed) "phase" fields
  let wsRetries ← Json.field (readWord 8) "ws_retries" fields
  let sourceLength ← Json.optional readU64 "source_length" fields
  let sourceSha256 ← Json.optional Json.asStr "source_sha256" fields
  let pendingOperation ← Json.optional Json.asStr "pending_operation" fields
  let handoffMode ← Json.optional (readVariant modeNamed) "handoff_mode" fields
  let receiptSha256 ← Json.optional Json.asStr "receipt_sha256" fields
  let renewalRevision ← Json.defaulted 0 (readWord 32) "renewal_revision" fields
  let renewalOperation ← Json.optional Json.asStr "renewal_operation" fields
  return {
    version, capture, route, phase, wsRetries, sourceLength, sourceSha256, pendingOperation
    handoffMode, receiptSha256, renewalRevision, renewalOperation }

/-- The two fields of a renewal have defaults. -/
def ofJson (v : Json) : Option ByoRecovery :=
  (Json.record FIELDS 10 v).bind ofMembers

end ByoRecovery

/-! ## Reading back what was written -/

namespace ByoJson

theorem readWord_ofNat {bits n : Nat} (h : n < 2 ^ bits) : readWord bits (.ofNat n) = some n := by
  rw [Json.ofNat, readWord, if_pos ⟨Int.natCast_nonneg n, by simpa using h⟩, Int.toNat_natCast]

theorem readU64_ofNat {n : Nat} (h : n ≤ Json.MAX_SAFE_INTEGER) :
    readU64 (.ofNat n) = some n := by
  rw [Json.ofNat, readU64, if_pos ⟨Int.natCast_nonneg n, by simpa using h⟩, Int.toNat_natCast]

@[simp] theorem environmentNamed_name (environment : ByoEnvironment) :
    environmentNamed (environmentName environment) = some environment := by
  cases environment <;> rfl

@[simp] theorem phaseNamed_name (phase : ByoPhase) : phaseNamed (phaseName phase) = some phase := by
  cases phase <;> rfl

@[simp] theorem modeNamed_name (mode : ByoHandoffMode) : modeNamed (modeName mode) = some mode := by
  cases mode <;> rfl

/-- A document read back from its members. -/
theorem record_read {α : Type} {members : List (String × Json)} {names : List String}
    {required : Nat} {read : List (String × Json) → Option α} {a : α}
    (hnames : members.map (·.1) = names) (hnodup : names.Nodup)
    (hread : ∀ fields, (∀ key, Json.lookup key fields = Json.lookup key members) →
      read fields = some a) :
    (Json.record names required (.object members)).bind read = some a := by
  subst hnames
  rw [Json.record_object, Option.bind_some]
  refine hread _ fun key => ?_
  exact Json.get_object hnodup

end ByoJson

/-! ### The documents -/

section Members

variable {fields : List (String × Json)} {name text : String}

theorem field_text (h : Json.lookup name fields = some (.str text)) :
    Json.field Json.asStr name fields = some text :=
  Json.field_of_lookup (show _ = some (Json.str text) from h) rfl

/-- A variant that is written as its name. -/
theorem field_named {α : Type} {named : String → Option α} {a : α}
    (h : Json.lookup name fields = some (.str text)) (hnamed : named text = some a) :
    Json.field (readVariant named) name fields = some a := by
  rw [Json.field, h]
  exact hnamed

theorem field_word {n : Nat} (h : Json.lookup name fields = some (.ofNat n)) (hn : n < 2 ^ 32) :
    Json.field (readWord 32) name fields = some n :=
  Json.field_of_lookup h (readWord_ofNat hn)

theorem optional_text {text : Option String}
    (h : Json.lookup name fields = some (.ofOption .str text)) :
    Json.optional Json.asStr name fields = some text := by
  refine Json.optional_of_lookup h ?_ fun _ _ => rfl
  intro value hnull
  cases hnull

end Members

theorem ByoCapture.ofJson_toJson {capture : ByoCapture}
    (hbinding : capture.bindingGeneration < 2 ^ 32)
    (hassignment : capture.deviceAssignmentGeneration < 2 ^ 32)
    (hgeneration : capture.recordingGeneration < 2 ^ 32) :
    ByoCapture.ofJson capture.toJson = some capture := by
  refine record_read rfl (by decide) fun fields h => ?_
  have henvironment : Json.field (readVariant environmentNamed) "environment" fields =
      some capture.environment :=
    field_named (h "environment") (environmentNamed_name _)
  rw [ofMembers, henvironment, field_text (h "organization_id"), field_text (h "project_id"),
    field_text (h "device_id"), field_word (h "binding_generation") hbinding,
    field_word (h "device_assignment_generation") hassignment, field_text (h "policy_revision"),
    field_text (h "recording_uuid"), field_word (h "recording_generation") hgeneration]
  rfl

theorem ByoRoute.ofJson_toJson {route : ByoRoute} (hrevision : route.configurationRevision < 2 ^ 32)
    (howner : route.ownerRevision < 2 ^ 32) : ByoRoute.ofJson route.toJson = some route := by
  refine record_read rfl (by decide) fun fields h => ?_
  rw [ofMembers, field_text (h "recording_id"), field_text (h "configuration_id"),
    field_word (h "configuration_revision") hrevision, field_text (h "configuration_sha256"),
    field_text (h "destination_ref"), field_text (h "session_id"),
    field_word (h "owner_revision") howner]
  rfl

theorem ByoRoute.toJson_ne_null (route : ByoRoute) : route.toJson ≠ .null := by
  intro h
  cases h

namespace ByoRecovery

/-- The numbers of a state are small enough for their types and for JavaScript. -/
structure Small (state : ByoRecovery) : Prop where
  fits : ByoCheckpoint.Fits state
  version : state.version < 2 ^ 32
  retries : state.wsRetries < 2 ^ 8
  length : ∀ n, state.sourceLength = some n → n ≤ Json.MAX_SAFE_INTEGER

/-- A valid state has only the generations and revisions left to bound. -/
theorem Valid.small {state : ByoRecovery} (hvalid : state.Valid) (hfits : ByoCheckpoint.Fits state) :
    state.Small := by
  refine ⟨hfits, ?_, ?_, fun n hn => ?_⟩
  · rw [hvalid.version]
    decide
  · have hretries := hvalid.retries
    omega
  · have hlength := (hvalid.length n hn).2
    have hmax : (134217728 : Nat) ≤ Json.MAX_SAFE_INTEGER := by decide
    omega

theorem ofJson_toJson {state : ByoRecovery} (h : state.Small) :
    ByoRecovery.ofJson state.toJson = some state := by
  obtain ⟨hfits, hversion, hretries, hlength⟩ := h
  refine record_read rfl (by decide) fun fields h => ?_
  have hcapture : Json.field ByoCapture.ofJson "capture" fields = some state.capture :=
    Json.field_of_lookup (h "capture")
      (ByoCapture.ofJson_toJson hfits.binding hfits.assignment hfits.generation)
  have hroute : Json.optional ByoRoute.ofJson "route" fields = some state.route :=
    Json.optional_of_lookup (h "route") ByoRoute.toJson_ne_null fun route hroute =>
      ByoRoute.ofJson_toJson (hfits.configured route hroute) (hfits.owner route hroute)
  have hphase : Json.field (readVariant phaseNamed) "phase" fields = some state.phase :=
    field_named (h "phase") (phaseNamed_name _)
  have hws : Json.field (readWord 8) "ws_retries" fields = some state.wsRetries :=
    Json.field_of_lookup (h "ws_retries") (readWord_ofNat hretries)
  have hsource : Json.optional readU64 "source_length" fields = some state.sourceLength := by
    refine Json.optional_of_lookup (h "source_length") ?_ fun n hn => readU64_ofNat (hlength n hn)
    intro n hnull
    cases hnull
  have hmode : Json.optional (readVariant modeNamed) "handoff_mode" fields =
      some state.handoffMode := by
    refine Json.optional_of_lookup (h "handoff_mode") ?_ fun mode _ => modeNamed_name mode
    intro mode hnull
    cases hnull
  have hrevision : Json.defaulted 0 (readWord 32) "renewal_revision" fields =
      some state.renewalRevision :=
    Json.defaulted_of_lookup (h "renewal_revision") (readWord_ofNat hfits.revision)
  rw [ofMembers, field_word (h "version") hversion, hcapture, hroute, hphase, hws, hsource,
    optional_text (h "source_sha256"), optional_text (h "pending_operation"), hmode,
    optional_text (h "receipt_sha256"), hrevision, optional_text (h "renewal_operation")]
  rfl

/-! ## Accepted requests -/

open ByoCheckpoint (Word Fits)

/-- The numbers of an event have the 32 bits of their types. -/
def EventFits : ByoRecoveryEvent → Prop
  | .bind route _ => Word route.configurationRevision ∧ Word route.ownerRevision
  | .handoffCommitted _ successor =>
    Word successor.configurationRevision ∧ Word successor.ownerRevision
  | .renewalCommitted _ revision => Word revision
  | _ => True

theorem Moves.fits {state next : ByoRecovery} {event : ByoRecoveryEvent} {delay : Option Nat}
    (h : Moves state event delay next) (hfits : Fits state) (hevent : EventFits event) :
    Fits next := by
  obtain ⟨hbinding, hassignment, hgeneration, hconfigured, howner, hrevision⟩ := hfits
  cases h with
  | bound =>
    refine ⟨hbinding, hassignment, hgeneration, ?_, ?_, hrevision⟩
    · rintro route ⟨⟩
      exact hevent.1
    · rintro route ⟨⟩
      exact hevent.2
  | handedOver =>
    refine ⟨hbinding, hassignment, hgeneration, ?_, ?_, (by decide : (0 : Nat) < 2 ^ 32)⟩
    · rintro route ⟨⟩
      exact hevent.1
    · rintro route ⟨⟩
      exact hevent.2
  | renewalCommitted => exact ⟨hbinding, hassignment, hgeneration, hconfigured, howner, hevent⟩
  | _ => exact ⟨hbinding, hassignment, hgeneration, hconfigured, howner, hrevision⟩

/-- Only the end of the cleanup completes an upload. -/
theorem Moves.complete {state next : ByoRecovery} {event : ByoRecoveryEvent} {delay : Option Nat}
    (h : Moves state event delay next) (hevent : event ≠ .cleanupFinished)
    (hcomplete : next.phase = .complete) : state.phase = .complete := by
  cases h with
  | cleanupFinished => exact absurd rfl hevent
  | bound =>
    rename_i transport _ _ _
    cases transport <;> cases hcomplete
  | handedOver =>
    rename_i mode _ _ _ _ _ _ _ _ _
    cases mode <;> cases hcomplete
  | restarted => cases hcomplete
  | exhausted => cases hcomplete
  | unavailable => cases hcomplete
  | handoffBegun => cases hcomplete
  | verificationPending => cases hcomplete
  | receiptVerified => cases hcomplete
  | receiptPersisted => cases hcomplete
  | inspect => exact hcomplete
  | kept => exact hcomplete
  | retried => exact hcomplete
  | sourceFinalized => exact hcomplete
  | renewalBegun => exact hcomplete
  | renewalRepeated => exact hcomplete
  | renewalCommitted => exact hcomplete

/-- What an accepted request has done to the checkpoint in force. -/
theorem reduce_ok {checkpoint : Option ByoRecovery} {capture : ByoCapture}
    {event : ByoRecoveryEvent} {reply : ByoRecoveryReply}
    (h : ByoRecoveryRequest.reduce ⟨checkpoint, capture, event⟩ = .ok reply) :
    reply.checkpoint.Valid ∧ reply.mayCleanup = reply.checkpoint.mayCleanup ∧
      reply.checkpoint.capture = capture ∧
      ((checkpoint = none ∧ event = .create ∧ reply.checkpoint = fresh capture) ∨
        ∃ state, checkpoint = some state ∧ state.Valid ∧
          Moves state event reply.retryAfterMs reply.checkpoint) := by
  cases checkpoint with
  | none =>
    rcases reduce_none capture event with ⟨rfl, hvalid, hok⟩ | ⟨-, herror⟩
    · rw [hok] at h
      cases h
      have hfresh := (fresh_valid_iff capture).mpr hvalid
      have hcleanup : (fresh capture).mayCleanup = false := by
        simp [mayCleanup, fresh]
      exact ⟨hfresh, hcleanup.symm, rfl, .inl ⟨rfl, rfl, rfl⟩⟩
    · rw [herror] at h
      cases h
  | some state =>
    rw [ByoRecoveryRequest.reduce] at h
    obtain ⟨next, hload, h⟩ := Checked.bind_eq_ok.mp h
    rw [ByoRecoveryRequest.load] at hload
    obtain ⟨hauthorize, hload⟩ := Checked.seq_eq_ok.mp hload
    cases hload
    unfold ByoRecovery.authorize at hauthorize
    obtain ⟨hvalidate, hauthorize⟩ := Checked.seq_eq_ok.mp hauthorize
    have hcapture : state.capture = capture := not_not.mp (Checked.last_guard_eq_ok.mp hauthorize)
    have hvalid := valid_of_validate hvalidate
    obtain ⟨result, happly, h⟩ := Checked.bind_eq_ok.mp h
    obtain ⟨hnext, hreply⟩ := Checked.seq_eq_ok.mp h
    cases hreply
    have hsettles := settles_apply hvalid ⟨some state, capture, event⟩ rfl
    rw [happly] at hsettles
    exact ⟨valid_of_validate hnext, rfl, (hsettles.extends hvalid).capture.trans hcapture,
      .inr ⟨state, rfl, hvalid, hsettles⟩⟩

/-- An accepted request leaves a state that can be written and read back. -/
theorem reduce_small {checkpoint : Option ByoRecovery} {capture : ByoCapture}
    {event : ByoRecoveryEvent} {reply : ByoRecoveryReply}
    (h : ByoRecoveryRequest.reduce ⟨checkpoint, capture, event⟩ = .ok reply)
    (hsmall : ∀ state, checkpoint = some state → state.Small) (hevent : EventFits event)
    (hcapture : checkpoint = none → Word capture.bindingGeneration ∧
      Word capture.deviceAssignmentGeneration ∧ Word capture.recordingGeneration) :
    reply.checkpoint.Small := by
  obtain ⟨hvalid, -, -, ⟨hnone, -, hfresh⟩ | ⟨state, hstate, -, hmoves⟩⟩ := reduce_ok h
  · refine hvalid.small ?_
    obtain ⟨hbinding, hassignment, hgeneration⟩ := hcapture hnone
    rw [hfresh]
    refine ⟨hbinding, hassignment, hgeneration, ?_, ?_, (by decide : (0 : Nat) < 2 ^ 32)⟩
    · rintro route ⟨⟩
    · rintro route ⟨⟩
  · exact hvalid.small (hmoves.fits (hsmall state hstate).fits hevent)

end ByoRecovery

end BotaSdk
