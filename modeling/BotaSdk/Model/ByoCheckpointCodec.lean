import BotaSdk.Lib.Checked
import BotaSdk.Model.ByoCheckpoint
import BotaSdk.Model.ByoUploadRuns

/-!
# Round trips of the recovery checkpoint

Every part of the state is read back by a reader of its own; the decoder and the encoder are then
compared with one layout, `fileBytes`.
-/

namespace BotaSdk

open Byo Checked Reader

namespace ByoCheckpoint

/-! ## Parts -/

theorem fromUTF8_iff {bytes : List UInt8} {value : String} :
    String.fromUTF8? ⟨bytes.toArray⟩ = some value ↔ bytes = asBytes value := by
  rw [asBytes, String.fromUTF8?]
  constructor
  · intro h
    split at h
    · obtain rfl := Option.some.inj h
      rfl
    · exact nomatch h
  · rintro rfl
    exact dif_pos value.isValidUTF8

/-- A text that its length byte describes. -/
def Short (value : String) : Prop :=
  (asBytes value).length ≤ 128

theorem reads_text : Reads readText text Short := by
  intro input value rest
  rw [readText, reads_byte.run_bind]
  constructor
  · rintro ⟨n, _, -, rfl, hrun⟩
    obtain ⟨-, _, hlength, rfl, hrun⟩ := (reads_refuse _).run_bind.mp hrun
    obtain ⟨bytes, _, hn, rfl, hrequired⟩ := (reads_take n.toNat).run_bind.mp hrun
    cases hvalue : String.fromUTF8? ⟨bytes.toArray⟩ with
    | none => rw [hvalue] at hrequired; exact nomatch hrequired
    | some text =>
      rw [hvalue] at hrequired
      obtain ⟨rfl, rfl⟩ := run_pure.mp hrequired
      obtain rfl := fromUTF8_iff.mp hvalue
      rw [Short, ByoCheckpoint.text, hn, UInt8.ofNat_toNat]
      exact ⟨Nat.le_of_not_lt hlength, rfl⟩
  · rintro ⟨hshort, rfl⟩
    have hn : (UInt8.ofNat (asBytes value).length).toNat = (asBytes value).length :=
      UInt8.toNat_ofNat_of_lt' (Nat.lt_of_le_of_lt hshort (by decide))
    refine ⟨_, asBytes value ++ rest, trivial, rfl, ?_⟩
    rw [hn]
    refine (reads_refuse _).run_bind.mpr ⟨(), _, Nat.not_lt.mpr hshort, rfl, ?_⟩
    refine (reads_take _).run_bind.mpr ⟨asBytes value, rest, rfl, rfl, ?_⟩
    rw [fromUTF8_iff.mpr rfl]
    exact run_pure.mpr ⟨rfl, rfl⟩

/-- The numbers of the source have 32 bits. -/
def Word (value : Nat) : Prop :=
  value < 256 ^ 4

theorem reads_num : Reads readNum num Word :=
  reads_big 4

structure CaptureSized (capture : ByoCapture) : Prop where
  organization : Short capture.organizationId
  project : Short capture.projectId
  device : Short capture.deviceId
  binding : Word capture.bindingGeneration
  assignment : Word capture.deviceAssignmentGeneration
  policy : Short capture.policyRevision
  recording : Short capture.recordingUuid
  generation : Word capture.recordingGeneration

theorem reads_capture (environment : ByoEnvironment) :
    Reads (readCapture environment) captureBytes
      (fun capture => capture.environment = environment ∧ CaptureSized capture) := by
  intro input capture rest
  simp only [readCapture, reads_text.run_bind, reads_num.run_bind, run_pure]
  constructor
  · rintro ⟨_, _, horganization, rfl, _, _, hproject, rfl, _, _, hdevice, rfl, _, _, hbinding, rfl,
      _, _, hassignment, rfl, _, _, hpolicy, rfl, _, _, hrecording, rfl, _, _, hgeneration, rfl,
      rfl, rfl⟩
    refine ⟨⟨rfl, horganization, hproject, hdevice, hbinding, hassignment, hpolicy, hrecording,
      hgeneration⟩, ?_⟩
    simp only [captureBytes, List.append_assoc]
  · rintro ⟨⟨rfl, h⟩, rfl⟩
    simp only [captureBytes, List.append_assoc]
    exact ⟨_, _, h.organization, rfl, _, _, h.project, rfl, _, _, h.device, rfl, _, _, h.binding,
      rfl, _, _, h.assignment, rfl, _, _, h.policy, rfl, _, _, h.recording, rfl, _, _, h.generation,
      rfl, rfl, rfl⟩

structure RouteSized (route : ByoRoute) : Prop where
  recording : Short route.recordingId
  configuration : Short route.configurationId
  configured : Word route.configurationRevision
  sha256 : Short route.configurationSha256
  destination : Short route.destinationRef
  session : Short route.sessionId
  owner : Word route.ownerRevision

theorem reads_route : Reads readRoute routeBytes RouteSized := by
  intro input route rest
  simp only [readRoute, reads_text.run_bind, reads_num.run_bind, run_pure]
  constructor
  · rintro ⟨_, _, hrecording, rfl, _, _, hconfiguration, rfl, _, _, hconfigured, rfl, _, _, hsha256,
      rfl, _, _, hdestination, rfl, _, _, hsession, rfl, _, _, howner, rfl, rfl, rfl⟩
    refine ⟨⟨hrecording, hconfiguration, hconfigured, hsha256, hdestination, hsession, howner⟩, ?_⟩
    simp only [routeBytes, List.append_assoc]
  · rintro ⟨h, rfl⟩
    simp only [routeBytes, List.append_assoc]
    exact ⟨_, _, h.recording, rfl, _, _, h.configuration, rfl, _, _, h.configured, rfl, _, _,
      h.sha256, rfl, _, _, h.destination, rfl, _, _, h.session, rfl, _, _, h.owner, rfl, rfl, rfl⟩

theorem reads_source :
    Reads readSource (fun source => Bytes.beBytes 8 source.1 ++ text source.2)
      (fun source => source.1 < 256 ^ 8 ∧ Short source.2) := by
  intro input source rest
  simp only [readSource, (reads_big 8).run_bind, reads_text.run_bind, run_pure]
  constructor
  · rintro ⟨_, _, hlength, rfl, _, _, hhash, rfl, rfl, rfl⟩
    exact ⟨⟨hlength, hhash⟩, by rw [List.append_assoc]⟩
  · rintro ⟨⟨hlength, hhash⟩, rfl⟩
    rw [List.append_assoc]
    exact ⟨_, _, hlength, rfl, _, _, hhash, rfl, rfl, rfl⟩

theorem modeOf_eq_some (code : UInt8) (mode : ByoHandoffMode) :
    modeOf code = some mode ↔ code = modeCode mode := by
  constructor
  · intro h
    unfold modeOf at h
    split at h <;> cases h <;> rfl
  · rintro rfl
    cases mode <;> rfl

theorem environmentOf_eq_some (code : UInt8) (environment : ByoEnvironment) :
    environmentOf code = some environment ↔ code = environmentCode environment := by
  constructor
  · intro h
    unfold environmentOf at h
    split at h <;> cases h <;> rfl
  · rintro rfl
    cases environment <;> rfl

theorem phaseOf_eq_some (code : UInt8) (phase : ByoPhase) :
    phaseOf code = some phase ↔ code = phaseCode phase := by
  constructor
  · intro h
    unfold phaseOf at h
    split at h <;> cases h <;> rfl
  · rintro rfl
    cases phase <;> rfl

theorem reads_pending :
    Reads readPending (fun pending => text pending.1 ++ [modeCode pending.2])
      (fun pending => Short pending.1) := by
  intro input pending rest
  simp only [readPending, reads_text.run_bind, (reads_code modeOf_eq_some).run_bind, run_pure]
  constructor
  · rintro ⟨_, _, hop, rfl, _, _, -, rfl, rfl, rfl⟩
    exact ⟨hop, by rw [List.append_assoc]⟩
  · rintro ⟨hop, rfl⟩
    rw [List.append_assoc]
    exact ⟨_, _, hop, rfl, _, _, trivial, rfl, rfl, rfl⟩

section Options

variable {source : Option (Nat × String)} {pending : Option (String × ByoHandoffMode)}
  {value : Option String} {route : Option ByoRoute}

theorem sourceBytes_eq :
    sourceBytes (source.map (·.1)) (source.map (·.2)) =
      writeOptional (fun source => Bytes.beBytes 8 source.1 ++ text source.2) source := by
  cases source <;> rfl

theorem pendingBytes_eq :
    pendingBytes (pending.map (·.1)) (pending.map (·.2)) =
      writeOptional (fun pending => text pending.1 ++ [modeCode pending.2]) pending := by
  rcases pending with _ | ⟨op, _ | _⟩ <;> rfl

theorem optionalText_eq : optionalText value = writeOptional text value := by
  cases value <;> rfl

theorem routeOption_eq :
    (present route ++ match route with | some route => routeBytes route | none => []) =
      writeOptional routeBytes route := by
  cases route <;> rfl

end Options

/-- A state whose fields fit their places on disk. -/
structure Sized (state : ByoRecovery) : Prop where
  version : state.version = 1
  retries : state.wsRetries < 256
  capture : CaptureSized state.capture
  route : ∀ route ∈ state.route, RouteSized route
  source : ∃ source : Option (Nat × String), state.sourceLength = source.map (·.1) ∧
    state.sourceSha256 = source.map (·.2) ∧ ∀ a ∈ source, a.1 < 256 ^ 8 ∧ Short a.2
  pending : ∃ pending : Option (String × ByoHandoffMode), state.pendingOperation = pending.map (·.1) ∧
    state.handoffMode = pending.map (·.2) ∧ ∀ a ∈ pending, Short a.1
  receipt : ∀ receipt ∈ state.receiptSha256, Short receipt

/-- What both formats hold. -/
def commonBytes (state : ByoRecovery) : List UInt8 :=
  [phaseCode state.phase, UInt8.ofNat state.wsRetries, environmentCode state.capture.environment] ++
    captureBytes state.capture ++ writeOptional routeBytes state.route ++
    sourceBytes state.sourceLength state.sourceSha256 ++
    pendingBytes state.pendingOperation state.handoffMode ++ writeOptional text state.receiptSha256

theorem reads_renewalRevision (format : UInt8) :
    Reads (readRenewalRevision format) (fun n => if format = 2 then num n else [])
      (fun n => if format = 2 then Word n else n = 0) :=
  reads_ite (format = 2) reads_num

theorem reads_renewalOperation (format : UInt8) :
    Reads (readRenewalOperation format)
      (fun renewal => if format = 2 then writeOptional text renewal else [])
      (fun renewal => if format = 2 then ∀ a ∈ renewal, Short a else renewal = none) :=
  reads_ite (format = 2) (reads_optional reads_text)

/-- The renewal as `format` tells it. -/
structure RenewalSized (format : UInt8) (state : ByoRecovery) : Prop where
  revision : if format = 2 then Word state.renewalRevision else state.renewalRevision = 0
  operation : if format = 2 then ∀ a ∈ state.renewalOperation, Short a
    else state.renewalOperation = none

/-- What only format 2 holds. -/
def renewalBytes (format : UInt8) (state : ByoRecovery) : List UInt8 :=
  (if format = 2 then num state.renewalRevision else []) ++
    if format = 2 then writeOptional text state.renewalOperation else []

theorem readState_iff {format : UInt8} {input rest : List UInt8} {state : ByoRecovery} :
    (readState format).run input = .ok (state, rest) ↔
      (Sized state ∧ RenewalSized format state) ∧
        input = commonBytes state ++ renewalBytes format state ++ rest := by
  simp only [readState, (reads_code phaseOf_eq_some).run_bind, reads_byte.run_bind,
    (reads_code environmentOf_eq_some).run_bind, (reads_capture _).run_bind,
    (reads_optional reads_route).run_bind, (reads_optional reads_source).run_bind,
    (reads_optional reads_pending).run_bind, (reads_optional reads_text).run_bind,
    (reads_renewalRevision format).run_bind, (reads_renewalOperation format).run_bind, run_pure]
  constructor
  · rintro ⟨_, _, -, rfl, retries, _, -, rfl, _, _, -, rfl, _, _, ⟨rfl, hcapture⟩, rfl, _, _, hroute,
      rfl, source, _, hsource, rfl, pending, _, hpending, rfl, _, _, hreceipt, rfl, _, _, hrevision,
      rfl, _, _, hrenewal, rfl, rfl, rfl⟩
    refine ⟨⟨⟨rfl, retries.toNat_lt, hcapture, hroute, ⟨source, rfl, rfl, hsource⟩,
      ⟨pending, rfl, rfl, hpending⟩, hreceipt⟩, hrevision, hrenewal⟩, ?_⟩
    simp only [commonBytes, renewalBytes, sourceBytes_eq, pendingBytes_eq, UInt8.ofNat_toNat,
      List.append_assoc, List.cons_append, List.nil_append]
  · rintro ⟨⟨h, hrenewal⟩, rfl⟩
    obtain ⟨source, hlength, hsha256, hsource⟩ := h.source
    obtain ⟨pending, hoperation, hmode, hpending⟩ := h.pending
    have hretries : (UInt8.ofNat state.wsRetries).toNat = state.wsRetries :=
      UInt8.toNat_ofNat_of_lt' h.retries
    simp only [commonBytes, renewalBytes, hlength, hsha256, hoperation, hmode, sourceBytes_eq,
      pendingBytes_eq, List.append_assoc, List.cons_append, List.nil_append]
    refine ⟨_, _, trivial, rfl, _, _, trivial, rfl, _, _, trivial, rfl, _, _, ⟨rfl, h.capture⟩, rfl,
      _, _, h.route, rfl, source, _, hsource, rfl, pending, _, hpending, rfl, _, _, h.receipt, rfl,
      _, _, hrenewal.revision, rfl, _, _, hrenewal.operation, rfl, ?_, rfl⟩
    rw [hretries, ← hlength, ← hsha256, ← hoperation, ← hmode, ← h.version]

/-- A state as it stands on disk. -/
def fileBytes (format : UInt8) (state : ByoRecovery) : List UInt8 :=
  MAGIC ++ format :: (commonBytes state ++ renewalBytes format state)

theorem readCheckpoint_iff {input rest : List UInt8} {state : ByoRecovery} :
    readCheckpoint.run input = .ok (state, rest) ↔
      ∃ format, (format = 1 ∨ format = 2) ∧ (Sized state ∧ RenewalSized format state) ∧
        input = fileBytes format state ++ rest := by
  simp only [readCheckpoint, (reads_take 4).run_bind, (reads_refuse _).run_bind,
    reads_byte.run_bind, readState_iff]
  constructor
  · rintro ⟨_, _, -, rfl, -, _, hmagic, rfl, format, _, -, rfl, -, _, hformat, rfl, hsized, rfl⟩
    obtain rfl := not_not.mp hmagic
    refine ⟨format, by tauto, hsized, ?_⟩
    simp only [fileBytes, id, List.append_assoc, List.cons_append, List.nil_append]
  · rintro ⟨format, hformat, hsized, rfl⟩
    refine ⟨MAGIC, _, rfl, ?_, (), _, not_not.mpr rfl, rfl, format, _, trivial, rfl, (), _,
      by tauto, rfl, hsized, rfl⟩
    simp only [fileBytes, id, List.append_assoc, List.cons_append, List.nil_append]

theorem validate_iff {state : ByoRecovery} : state.validate = .ok () ↔ state.Valid := by
  rw [← ByoRecovery.invalid_eq_false_iff, ByoRecovery.validate]
  cases state.invalid <;> simp

/-- What `decode_checkpoint` accepts. -/
theorem decodeCheckpoint_iff {bytes : List UInt8} {state : ByoRecovery} :
    decodeCheckpoint bytes = .ok state ↔
      ∃ format, (format = 1 ∨ format = 2) ∧ (Sized state ∧ RenewalSized format state) ∧
        state.Valid ∧ bytes.length ≤ 2048 ∧ bytes = fileBytes format state := by
  have hread : readCheckpoint.run bytes = .ok (state, []) ↔
      ∃ format, (format = 1 ∨ format = 2) ∧ (Sized state ∧ RenewalSized format state) ∧
        bytes = fileBytes format state := by
    rw [readCheckpoint_iff]
    simp only [List.append_nil]
  have hdecode : decodeCheckpoint bytes = .ok state ↔
      bytes.length ≤ 2048 ∧ readCheckpoint.run bytes = .ok (state, []) ∧
        state.validate = .ok () := by
    rw [decodeCheckpoint, guard_eq_ok, bind_eq_ok, Nat.not_lt]
    refine and_congr_right fun _ => ⟨?_, ?_⟩
    · rintro ⟨⟨read, rest⟩, hrun, h⟩
      obtain ⟨hrest, hchecked⟩ := guard_eq_ok.mp h
      obtain ⟨hvalid, hreturn⟩ := seq_eq_ok.mp hchecked
      obtain rfl := not_not.mp hrest
      obtain rfl := pure_eq_ok.mp hreturn
      exact ⟨hrun, hvalid⟩
    · rintro ⟨hrun, hvalid⟩
      exact ⟨(state, []), hrun, guard_eq_ok.mpr ⟨not_not.mpr rfl, seq_eq_ok.mpr ⟨hvalid, rfl⟩⟩⟩
  rw [hdecode, hread, validate_iff]
  constructor
  · rintro ⟨hlength, ⟨format, hformat, hsized, hbytes⟩, hvalid⟩
    exact ⟨format, hformat, hsized, hvalid, hlength, hbytes⟩
  · rintro ⟨format, hformat, hsized, hvalid, hlength, hbytes⟩
    exact ⟨hlength, ⟨format, hformat, hsized, hbytes⟩, hvalid⟩

theorem encodeCheckpoint_iff {bytes : List UInt8} {state : ByoRecovery} :
    state.encodeCheckpoint = .ok bytes ↔ state.Valid ∧ bytes = fileBytes 2 state := by
  rw [ByoRecovery.encodeCheckpoint, seq_eq_ok, pure_eq_ok, validate_iff]
  refine and_congr_right fun _ => ?_
  rw [eq_comm, fileBytes, commonBytes, renewalBytes, if_pos rfl, if_pos rfl, ← routeOption_eq,
    ← optionalText_eq, ← optionalText_eq]
  refine Iff.of_eq (congrArg (bytes = ·) ?_)
  repeat rw [List.append_assoc]
  rfl

/-! ## Sizes -/

theorem length_asBytes_le (value : String) : (asBytes value).length ≤ 4 * value.length := by
  have hsum (chars : List Char) :
      (chars.flatMap String.utf8EncodeChar).length ≤ 4 * chars.length := by
    induction chars with
    | nil => exact Nat.le_refl 0
    | cons c chars ih =>
      have hc := c.utf8Size_le_four
      rw [List.flatMap_cons, List.length_append, String.length_utf8EncodeChar, List.length_cons]
      omega
  have hvalue := hsum value.toList
  rw [String.length_toList] at hvalue
  rw [asBytes, String.toUTF8_eq_toByteArray, ← String.utf8Encode_toList, List.utf8Encode]
  simpa using hvalue

theorem Short.of_isId {value : String} (h : isId value) : Short value := by
  rw [isId, Bool.and_eq_true, Bool.and_eq_true] at h
  have hlength : (asBytes value).length ≤ 128 := of_decide_eq_true h.1.2
  exact hlength

theorem Short.of_isHash {value : String} (h : isHash value) : Short value := by
  rw [isHash, Bool.and_eq_true] at h
  have hlength := of_decide_eq_true h.1
  rw [Short]
  omega

theorem Short.of_isUuid {value : String} (h : isUuid value) : Short value := by
  rw [isUuid, Bool.and_eq_true] at h
  have hlength := of_decide_eq_true h.1
  rw [Short]
  omega

/-- A revision of at most twenty digits. -/
theorem Short.of_policy {value : String} {n : Nat} (hparse : parseU64 value = some n)
    (htext : toString n = value) : Short value := by
  have hbound : n ≤ 18446744073709551615 := by
    simp only [parseU64] at hparse
    split at hparse
    all_goals
      split at hparse
      · cases hparse
      · exact of_decide_eq_true (Option.filter_eq_some_iff.mp hparse).2
  have hdigits : n.repr.length ≤ 20 := (Nat.length_repr_le_iff (by decide)).mpr (by omega)
  have hlength := length_asBytes_le value
  rw [← htext] at hlength ⊢
  rw [Short]
  have hrepr : (toString n).length = n.repr.length := rfl
  omega

/-- The numbers of a state have the 32 bits of their types. -/
structure Fits (state : ByoRecovery) : Prop where
  binding : Word state.capture.bindingGeneration
  assignment : Word state.capture.deviceAssignmentGeneration
  generation : Word state.capture.recordingGeneration
  configured : ∀ route ∈ state.route, Word route.configurationRevision
  owner : ∀ route ∈ state.route, Word route.ownerRevision
  revision : Word state.renewalRevision

theorem valid_sized {state : ByoRecovery} (hvalid : state.Valid) (hfits : Fits state) :
    Sized state ∧ RenewalSized 2 state := by
  refine ⟨⟨hvalid.version, ?_, ?_, ?_, ?_, ?_, ?_⟩, ?_⟩
  · have := hvalid.retries
    omega
  · have hcapture := hvalid.capture
    obtain ⟨n, hparse, -, htext⟩ := hcapture.policy
    exact ⟨.of_isId hcapture.organization, .of_isId hcapture.project, .of_isId hcapture.device,
      hfits.binding, hfits.assignment, .of_policy hparse htext, .of_isUuid hcapture.recording,
      hfits.generation⟩
  · intro route hroute
    have hroute' := hvalid.route route hroute
    simp only [ByoRoute.valid, Bool.and_eq_true] at hroute'
    obtain ⟨⟨⟨⟨⟨⟨hrecording, hconfiguration⟩, -⟩, hsha256⟩, hdestination⟩, hsession⟩, -⟩ := hroute'
    exact ⟨.of_isId hrecording, .of_isUuid hconfiguration, hfits.configured route hroute,
      .of_isHash hsha256, .of_isId hdestination, .of_isUuid hsession, hfits.owner route hroute⟩
  · cases hlength : state.sourceLength with
    | none => exact ⟨none, rfl, hvalid.paired.mp hlength, nofun⟩
    | some n =>
      obtain ⟨hash, hhash⟩ : ∃ hash, state.sourceSha256 = some hash := by
        rw [← Option.ne_none_iff_exists', Ne, ← hvalid.paired, hlength]
        exact nofun
      refine ⟨some (n, hash), rfl, hhash, fun source hsource => ?_⟩
      obtain rfl := Option.some.inj hsource
      have hbound := hvalid.length n hlength
      exact ⟨by show n < _; omega, .of_isHash (hvalid.sha256 hash hhash)⟩
  · have hboth : state.pendingOperation ≠ none ↔ state.handoffMode ≠ none :=
      hvalid.fence.trans hvalid.handoff.symm
    cases hoperation : state.pendingOperation with
    | none =>
      refine ⟨none, rfl, ?_, nofun⟩
      rw [hoperation] at hboth
      exact not_not.mp fun hmode => hboth.mpr hmode rfl
    | some operation =>
      rw [hoperation] at hboth
      obtain ⟨mode, hmode⟩ := Option.ne_none_iff_exists'.mp (hboth.mp nofun)
      refine ⟨some (operation, mode), rfl, hmode, fun pending hpending => ?_⟩
      obtain rfl := Option.some.inj hpending
      exact .of_isId (hvalid.operation operation hoperation)
  · exact fun receipt hreceipt => .of_isHash (hvalid.receipt receipt hreceipt)
  · exact ⟨hfits.revision, fun renewal hrenewal => .of_isUuid (hvalid.renewal renewal hrenewal).1⟩

/-! ## Lengths -/

theorem Short.length_text {value : String} (h : Short value) : (text value).length ≤ 129 := by
  rw [text, List.length_cons]
  exact Nat.succ_le_succ h

theorem length_num (n : Nat) : (num n).length = 4 :=
  Bytes.length_beBytes 4 n

theorem length_optionalText {value : Option String} (h : ∀ a ∈ value, Short a) :
    (writeOptional text value).length ≤ 130 := by
  cases value with
  | none => decide
  | some value => exact Nat.succ_le_succ (h value rfl).length_text

theorem length_captureBytes {capture : ByoCapture} (h : CaptureSized capture) :
    (captureBytes capture).length ≤ 657 := by
  have horganization := h.organization.length_text
  have hproject := h.project.length_text
  have hdevice := h.device.length_text
  have hpolicy := h.policy.length_text
  have hrecording := h.recording.length_text
  simp only [captureBytes, List.length_append, length_num]
  omega

theorem length_routeBytes {route : ByoRoute} (h : RouteSized route) :
    (routeBytes route).length ≤ 653 := by
  have hrecording := h.recording.length_text
  have hconfiguration := h.configuration.length_text
  have hsha256 := h.sha256.length_text
  have hdestination := h.destination.length_text
  have hsession := h.session.length_text
  simp only [routeBytes, List.length_append, length_num]
  omega

theorem length_fileBytes {state : ByoRecovery} (h : Sized state) (hrenewal : RenewalSized 2 state) :
    (fileBytes 2 state).length ≤ 2048 := by
  have hcapture := length_captureBytes h.capture
  have hroute : (writeOptional routeBytes state.route).length ≤ 654 := by
    cases hroute : state.route with
    | none => exact Nat.le_add_left 1 653
    | some route => exact Nat.succ_le_succ (length_routeBytes (h.route route hroute))
  have hsource : (sourceBytes state.sourceLength state.sourceSha256).length ≤ 138 := by
    obtain ⟨source, hlength, hsha256, hsized⟩ := h.source
    rw [hlength, hsha256, sourceBytes_eq]
    cases source with
    | none => decide
    | some source =>
      have hhash := (hsized source rfl).2.length_text
      simp only [writeOptional, List.length_cons, List.length_append, Bytes.length_beBytes]
      omega
  have hpending : (pendingBytes state.pendingOperation state.handoffMode).length ≤ 131 := by
    obtain ⟨pending, hoperation, hmode, hsized⟩ := h.pending
    rw [hoperation, hmode, pendingBytes_eq]
    cases pending with
    | none => decide
    | some pending =>
      have hop := (hsized pending rfl).length_text
      simp only [writeOptional, List.length_cons, List.length_append, List.length_nil]
      omega
  have hreceipt := length_optionalText h.receipt
  have hoperation := length_optionalText hrenewal.operation
  simp only [fileBytes, commonBytes, renewalBytes, if_pos, List.length_append, List.length_cons,
    List.length_nil, length_num, MAGIC]
  omega

/-! ## Round trips -/

/-- The format of a checkpoint. -/
def formatOf (bytes : List UInt8) : Option UInt8 :=
  bytes[4]?

/-- A checkpoint of format 1 in format 2, with renewal revision 0 and no renewal under way. -/
def upgraded (bytes : List UInt8) : List UInt8 :=
  bytes.set 4 2 ++ num 0 ++ present (none : Option String)

theorem formatOf_fileBytes (format : UInt8) (state : ByoRecovery) :
    formatOf (fileBytes format state) = some format := rfl

theorem upgraded_fileBytes {state : ByoRecovery} (h : RenewalSized 1 state) :
    upgraded (fileBytes 1 state) = fileBytes 2 state := by
  have hrevision : state.renewalRevision = 0 := h.revision
  have hoperation : state.renewalOperation = none := h.operation
  simp only [upgraded, fileBytes, renewalBytes, hrevision, hoperation]
  simp [MAGIC, writeOptional, present]

/-- Encoding and decoding are inverse to each other, and an old checkpoint is read as what it is. -/
theorem checkpoint_round_trip :
    (∀ state : ByoRecovery, Fits state → state.validate = .ok () →
      ∃ bytes, state.encodeCheckpoint = .ok bytes ∧ bytes.length ≤ 2048 ∧
        decodeCheckpoint bytes = .ok state) ∧
    (∀ bytes state, formatOf bytes = some 2 → decodeCheckpoint bytes = .ok state →
      state.encodeCheckpoint = .ok bytes) ∧
    (∀ bytes state, formatOf bytes = some 1 → decodeCheckpoint bytes = .ok state →
      decodeCheckpoint (upgraded bytes) = .ok state ∧ state.renewalRevision = 0) := by
  refine ⟨?_, ?_, ?_⟩
  · intro state hfits hvalid
    rw [validate_iff] at hvalid
    obtain ⟨hsized, hrenewal⟩ := valid_sized hvalid hfits
    have hlength := length_fileBytes hsized hrenewal
    exact ⟨fileBytes 2 state, encodeCheckpoint_iff.mpr ⟨hvalid, rfl⟩, hlength,
      decodeCheckpoint_iff.mpr ⟨2, .inr rfl, ⟨hsized, hrenewal⟩, hvalid, hlength, rfl⟩⟩
  · intro bytes state hformat hdecode
    obtain ⟨format, -, -, hvalid, -, rfl⟩ := decodeCheckpoint_iff.mp hdecode
    obtain rfl := Option.some.inj (formatOf_fileBytes format state ▸ hformat)
    exact encodeCheckpoint_iff.mpr ⟨hvalid, rfl⟩
  · intro bytes state hformat hdecode
    obtain ⟨format, -, ⟨hsized, hrenewal⟩, hvalid, -, rfl⟩ := decodeCheckpoint_iff.mp hdecode
    obtain rfl := Option.some.inj (formatOf_fileBytes format state ▸ hformat)
    have hrevision : state.renewalRevision = 0 := hrenewal.revision
    have hoperation : state.renewalOperation = none := hrenewal.operation
    have hupgrade : RenewalSized 2 state := by
      refine ⟨?_, ?_⟩
      · rw [if_pos rfl, hrevision]
        exact Nat.pow_pos (by decide)
      · rw [if_pos rfl, hoperation]
        exact nofun
    rw [upgraded_fileBytes hrenewal]
    exact ⟨decodeCheckpoint_iff.mpr ⟨2, .inr rfl, ⟨hsized, hupgrade⟩, hvalid,
      length_fileBytes hsized hupgrade, rfl⟩, hrevision⟩

/-- A fence is pending while the permit is being renewed. -/
def sample : ByoRecovery where
  version := 1
  capture := ByoRecovery.sampleCapture
  route := some ByoRecovery.sampleRoute
  phase := .fencePending
  wsRetries := 2
  sourceLength := some 300
  sourceSha256 := some ByoRecovery.sampleSha256
  pendingOperation := some "fence_1"
  handoffMode := some .assembled
  receiptSha256 := none
  renewalRevision := 5
  renewalOperation := some "11111111-2222-3333-4444-666666666666"

theorem checkpoint_round_trip_sample :
    ∃ bytes, sample.encodeCheckpoint = .ok bytes ∧ bytes.length ≤ 2048 ∧
      decodeCheckpoint bytes = .ok sample := by
  refine checkpoint_round_trip.1 sample ⟨?_, ?_, ?_, ?_, ?_, ?_⟩ (by decide +kernel)
  · exact (by decide : 1 < 256 ^ 4)
  · exact (by decide : 1 < 256 ^ 4)
  · exact (by decide : 1 < 256 ^ 4)
  · rintro route ⟨⟩
    exact (by decide : 1 < 256 ^ 4)
  · rintro route ⟨⟩
    exact (by decide : 1 < 256 ^ 4)
  · exact (by decide : 5 < 256 ^ 4)

end ByoCheckpoint

end BotaSdk
