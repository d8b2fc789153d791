import BotaSdk.Lib.Run
import BotaSdk.Protocol.SignedBlobV2Codec

/-!
# The assembler of signed blobs over every order of calls

The host may call `push`, `finish` and `abort` with any message at any time.  A blob is handed out at
most once, it is the announced one, and every accepted DATA frame is a part of it.
-/

namespace BotaSdk.SignedBlobAssemblerV2

open SignedBlobV2 TransferV2

/-! ## Calls -/

inductive Call where
  | push (value : EncryptedUploadV2SignedBlob)
  | finish (value : EncryptedUploadV2SignedBlob)
  | abort (value : EncryptedUploadV2SignedBlob)
  deriving DecidableEq

/-- What a call returns; only `finish` hands out bytes. -/
abbrev Reply := Except DeviceSdkError (Option (List UInt8))

def call (sha256 : List UInt8 → FixedBytes 32) (self : SignedBlobAssemblerV2) :
    Call → SignedBlobAssemblerV2 × Reply
  | .push value => ((self.push value).2, (self.push value).1.map fun _ => none)
  | .finish value => ((self.finish sha256 value).2, (self.finish sha256 value).1.map some)
  | .abort value => ((self.abort value).2, (self.abort value).1.map fun _ => none)

/-- The assembler that gave up its buffer. -/
def closed (self : SignedBlobAssemblerV2) : SignedBlobAssemblerV2 :=
  { self with bytes := [], active := false }

/-- `data` stands at `offset` in `bytes`. -/
def At (bytes : List UInt8) (offset : Nat) (data : List UInt8) : Prop :=
  offset + data.length ≤ bytes.length ∧ (bytes.drop offset).take data.length = data

/-- Everything a call can do. -/
inductive CallStep (sha256 : List UInt8 → FixedBytes 32) (self : SignedBlobAssemblerV2) :
    Call → SignedBlobAssemblerV2 → Reply → Prop
  | refused (input : Call) (error : DeviceSdkError) :
      self.active = false → CallStep sha256 self input self (.error error)
  | failed (input : Call) (error : DeviceSdkError) :
      CallStep sha256 self input self.closed (.error error)
  | aborted (value : EncryptedUploadV2SignedBlob) :
      self.active = true → CallStep sha256 self (.abort value) self.closed (.ok none)
  | appended (offset : UInt16) (data : List UInt8) :
      self.active = true → offset.toNat = self.bytes.length →
      CallStep sha256 self (.push (.data self.kind self.writeId offset data))
        { self with bytes := self.bytes ++ data } (.ok none)
  | replayed (offset : UInt16) (data : List UInt8) :
      self.active = true → At self.bytes offset.toNat data →
      CallStep sha256 self (.push (.data self.kind self.writeId offset data)) self (.ok none)
  | finished (value : EncryptedUploadV2SignedBlob) :
      self.active = true → self.bytes.length = self.totalLength →
      sha256 self.bytes = self.sha256 →
      CallStep sha256 self (.finish value) self.closed (.ok (some self.bytes))

theorem fold_eq_zero {pairs : List (UInt8 × UInt8)} {difference : UInt8} :
    pairs.foldl (fun difference pair => difference ||| (pair.1 ^^^ pair.2)) difference = 0 ↔
      difference = 0 ∧ ∀ pair ∈ pairs, pair.1 = pair.2 := by
  induction pairs generalizing difference with
  | nil => simp
  | cons pair pairs ih =>
    rw [List.foldl_cons, ih, UInt8.or_eq_zero_iff, UInt8.xor_eq_zero_iff, List.forall_mem_cons,
      and_assoc]

theorem constantTimeEq_iff {left right : List UInt8} :
    constantTimeEq left right = true ↔ left = right := by
  constructor
  · intro h
    unfold constantTimeEq at h
    by_cases hlength : left.length = right.length
    · rw [if_neg (not_not.mpr hlength), beq_iff_eq, fold_eq_zero] at h
      calc left = (left.zip right).map Prod.fst := (List.map_fst_zip (Nat.le_of_eq hlength)).symm
        _ = (left.zip right).map Prod.snd := List.map_congr_left h.2
        _ = right := List.map_snd_zip (Nat.le_of_eq hlength.symm)
    · rw [if_pos hlength] at h
      exact absurd h Bool.false_ne_true
  · rintro rfl
    exact constantTimeEq_self left

section Steps

variable {sha256 : List UInt8 → FixedBytes 32} {self : SignedBlobAssemblerV2}

theorem call_refused (hinactive : self.active = false) (input : Call) :
    CallStep sha256 self input (call sha256 self input).1 (call sha256 self input).2 := by
  have hguard : (!self.active) = true := by rw [hinactive]; rfl
  cases input with
  | push value =>
    simp only [call, push, if_pos hguard]
    exact .refused _ _ hinactive
  | finish value =>
    simp only [call, finish, if_pos hguard]
    exact .refused _ _ hinactive
  | abort value =>
    simp only [call, abort, if_pos hguard]
    exact .refused _ _ hinactive

theorem push_cases (hactive : self.active = true) (value : EncryptedUploadV2SignedBlob) :
    CallStep sha256 self (.push value) (self.push value).2
      ((self.push value).1.map fun _ => none) := by
  have hguard : ¬(!self.active) = true := by rw [hactive]; exact Bool.false_ne_true
  unfold push
  rw [if_neg hguard]
  cases value with
  | data kind writeId offset data =>
    dsimp only
    by_cases howner : kind ≠ self.kind ∨ writeId ≠ self.writeId
    · rw [if_pos howner]
      exact .failed _ _
    by_cases hempty : data.isEmpty
    · rw [if_neg howner, if_pos hempty]
      exact .failed _ _
    by_cases hlarge : self.totalLength < offset.toNat + data.length
    · rw [if_neg howner, if_neg hempty, if_pos hlarge]
      exact .failed _ _
    rw [if_neg howner, if_neg hempty, if_neg hlarge]
    obtain ⟨rfl, rfl⟩ : kind = self.kind ∧ writeId = self.writeId := by
      simpa only [not_or, not_not] using howner
    by_cases hnext : offset.toNat = self.bytes.length
    · rw [if_pos hnext]
      exact .appended offset data hactive hnext
    rw [if_neg hnext]
    split
    · next hreplay =>
      -- the comparison covers exactly the bytes the chunk claims
      rw [Nat.add_sub_cancel_left, constantTimeEq_iff] at hreplay
      exact .replayed offset data hactive hreplay
    · exact .failed _ _
  | begin _ _ _ _ => exact .failed _ _
  | commit _ _ => exact .failed _ _
  | abort _ _ => exact .failed _ _
  | result _ _ _ => exact .failed _ _

theorem finish_cases (hactive : self.active = true) (value : EncryptedUploadV2SignedBlob) :
    CallStep sha256 self (.finish value) (self.finish sha256 value).2
      ((self.finish sha256 value).1.map some) := by
  have hguard : ¬(!self.active) = true := by rw [hactive]; exact Bool.false_ne_true
  unfold finish
  rw [if_neg hguard]
  cases value with
  | commit kind writeId =>
    dsimp only
    by_cases howner : kind ≠ self.kind ∨ writeId ≠ self.writeId
    · rw [if_pos howner]
      exact .failed _ _
    by_cases hlength : self.bytes.length ≠ self.totalLength
    · rw [if_neg howner, if_pos hlength]
      exact .failed _ _
    by_cases hdigest : constantTimeEq (sha256 self.bytes).1 self.sha256.1 = true
    · have hequal : sha256 self.bytes = self.sha256 := Subtype.ext (constantTimeEq_iff.mp hdigest)
      rw [if_neg howner, if_neg hlength, hdigest]
      exact .finished _ hactive (not_not.mp hlength) hequal
    · rw [if_neg howner, if_neg hlength, Bool.not_eq_true] at *
      rw [hdigest]
      exact .failed _ _
  | begin _ _ _ _ => exact .failed _ _
  | data _ _ _ _ => exact .failed _ _
  | abort _ _ => exact .failed _ _
  | result _ _ _ => exact .failed _ _

theorem abort_cases (hactive : self.active = true) (value : EncryptedUploadV2SignedBlob) :
    CallStep sha256 self (.abort value) (self.abort value).2
      ((self.abort value).1.map fun _ => none) := by
  have hguard : ¬(!self.active) = true := by rw [hactive]; exact Bool.false_ne_true
  unfold abort
  rw [if_neg hguard]
  cases value with
  | abort kind writeId =>
    dsimp only
    by_cases howner : kind ≠ self.kind ∨ writeId ≠ self.writeId
    · rw [if_pos howner]
      exact .failed _ _
    · rw [if_neg howner]
      exact .aborted _ hactive
  | begin _ _ _ _ => exact .failed _ _
  | data _ _ _ _ => exact .failed _ _
  | commit _ _ => exact .failed _ _
  | result _ _ _ => exact .failed _ _

theorem call_cases (sha256 : List UInt8 → FixedBytes 32) (self : SignedBlobAssemblerV2)
    (input : Call) :
    CallStep sha256 self input (call sha256 self input).1 (call sha256 self input).2 := by
  cases hactive : self.active with
  | false => exact call_refused hactive input
  | true =>
    cases input with
    | push value => exact push_cases hactive value
    | finish value => exact finish_cases hactive value
    | abort value => exact abort_cases hactive value

end Steps

/-! ## Runs -/

abbrev Exchange := Machine.Entry SignedBlobAssemblerV2 Call Reply

/-- Any calls in any order. -/
abbrev Calls (sha256 : List UInt8 → FixedBytes 32) :=
  Machine.Run (call sha256) fun _ _ _ => True

/-- The blobs that a run handed out. -/
def handedOut (tr : List Exchange) : List (List UInt8) :=
  tr.filterMap fun exchange => exchange.output.toOption.join

/-- An error, an abort and a handed out blob each end the assembly. -/
inductive Ends (exchange : Exchange) : Prop
  | error (error : DeviceSdkError) : exchange.output = .error error → Ends exchange
  | abort (value : EncryptedUploadV2SignedBlob) : exchange.input = .abort value → Ends exchange
  | finish (blob : List UInt8) : exchange.output = .ok (some blob) → Ends exchange

/-- The DATA message is a part of `bytes`. -/
def Part (kind : UInt8) (writeId : UInt32) (bytes : List UInt8)
    (value : EncryptedUploadV2SignedBlob) : Prop :=
  ∃ offset data, value = .data kind writeId offset data ∧ At bytes offset.toNat data

/-- Every message that a `push` accepted is a part of `bytes`. -/
def AllParts (kind : UInt8) (writeId : UInt32) (bytes : List UInt8) (tr : List Exchange) : Prop :=
  ∀ exchange ∈ tr, ∀ value, exchange.input = .push value → exchange.output = .ok none →
    Part kind writeId bytes value

theorem At.append {bytes data : List UInt8} {offset : Nat} (h : At bytes offset data)
    (more : List UInt8) : At (bytes ++ more) offset data := by
  obtain ⟨hlength, hdata⟩ := h
  have hdrop : data.length ≤ (bytes.drop offset).length := by
    rw [List.length_drop]
    omega
  refine ⟨by rw [List.length_append]; omega, ?_⟩
  rw [List.drop_append_of_le_length (by omega), List.take_append_of_le_length hdrop, hdata]

theorem At.end {bytes data : List UInt8} : At (bytes ++ data) bytes.length data := by
  refine ⟨by rw [List.length_append], ?_⟩
  rw [List.drop_left, List.take_length]

theorem AllParts.append {kind : UInt8} {writeId : UInt32} {bytes : List UInt8}
    {tr : List Exchange} (h : AllParts kind writeId bytes tr) (more : List UInt8) :
    AllParts kind writeId (bytes ++ more) tr := by
  intro exchange hmem value hinput houtput
  obtain ⟨offset, data, heq, hat⟩ := h exchange hmem value hinput houtput
  exact ⟨offset, data, heq, hat.append more⟩

theorem AllParts.snoc {kind : UInt8} {writeId : UInt32} {bytes : List UInt8} {tr : List Exchange}
    {last : Exchange} (h : AllParts kind writeId bytes tr)
    (hlast : ∀ value, last.input = .push value → last.output = .ok none →
      Part kind writeId bytes value) :
    AllParts kind writeId bytes (tr ++ [last]) := by
  intro exchange hmem
  rcases List.mem_append.mp hmem with hmem | hmem
  · exact h exchange hmem
  · obtain rfl := List.mem_singleton.mp hmem
    exact hlast

section Runs

variable {sha256 : List UInt8 → FixedBytes 32} {assembler s : SignedBlobAssemblerV2}
  {tr : List Exchange}

/-- What the BEGIN fixed stays, and an open assembler holds every accepted part. -/
structure Assembles (assembler : SignedBlobAssemblerV2) (tr : List Exchange)
    (s : SignedBlobAssemblerV2) : Prop where
  kind : s.kind = assembler.kind
  writeId : s.writeId = assembler.writeId
  totalLength : s.totalLength = assembler.totalLength
  sha256 : s.sha256 = assembler.sha256
  parts : s.active = true → AllParts assembler.kind assembler.writeId s.bytes tr

theorem Assembles.closed (h : Assembles assembler tr s) (tr' : List Exchange) :
    Assembles assembler tr' s.closed :=
  { kind := h.kind, writeId := h.writeId, totalLength := h.totalLength, sha256 := h.sha256
    parts := fun hactive => absurd hactive Bool.false_ne_true }

theorem Assembles.step (h : Assembles assembler tr s) {input : Call}
    {s' : SignedBlobAssemblerV2} {reply : Reply} (hstep : CallStep sha256 s input s' reply) :
    Assembles assembler (tr ++ [⟨s, input, reply⟩]) s' := by
  cases hstep with
  | refused _ error hinactive =>
    exact { h with parts := fun hactive => absurd (hinactive.symm.trans hactive) Bool.false_ne_true }
  | failed => exact h.closed _
  | aborted => exact h.closed _
  | finished => exact h.closed _
  | appended offset data hactive hnext =>
    refine { h with parts := fun _ => ((h.parts hactive).append data).snoc ?_ }
    intro value hinput _
    obtain rfl := Call.push.inj hinput
    refine ⟨offset, data, by rw [h.kind, h.writeId], ?_⟩
    rw [hnext]
    exact At.end
  | replayed offset data hactive hat =>
    refine { h with parts := fun _ => (h.parts hactive).snoc ?_ }
    intro value hinput _
    obtain rfl := Call.push.inj hinput
    exact ⟨offset, data, by rw [h.kind, h.writeId], hat⟩

theorem run_assembles (h : Calls sha256 assembler tr s) : Assembles assembler tr s := by
  refine h.invariant (Assembles assembler) ?_ fun tr s input _ hstate _ => ?_
  · exact ⟨rfl, rfl, rfl, rfl, fun _ _ hmem => absurd hmem List.not_mem_nil⟩
  · exact hstate.step (call_cases sha256 s input)

/-- An inactive assembler holds nothing, and one that ended is inactive. -/
structure Cleared (tr : List Exchange) (s : SignedBlobAssemblerV2) : Prop where
  empty : s.active = false → s.bytes = []
  ended : (∃ exchange ∈ tr, Ends exchange) → s.active = false
  once : handedOut tr = [] ∨ s.active = false ∧ (handedOut tr).length ≤ 1

theorem not_ends {input : Call} {value : EncryptedUploadV2SignedBlob} (hinput : input = .push value) :
    ¬Ends ⟨s, input, .ok none⟩ := by
  subst hinput
  intro h
  cases h with
  | error _ h => exact nomatch h
  | abort _ h => exact nomatch h
  | finish _ h => exact nomatch h

theorem handedOut_snoc (tr : List Exchange) (last : Exchange) :
    handedOut (tr ++ [last]) = handedOut tr ++ last.output.toOption.join.toList := by
  unfold handedOut
  rw [List.filterMap_append, List.filterMap_cons, List.filterMap_nil]
  cases last.output.toOption.join with
  | none => rfl
  | some blob => rfl

theorem handedOut_none {last : Exchange} (hnone : last.output.toOption.join = none)
    (tr : List Exchange) : handedOut (tr ++ [last]) = handedOut tr := by
  rw [handedOut_snoc, hnone, Option.toList_none, List.append_nil]

/-- Calls that leave the assembler closed. -/
theorem Cleared.close (h : Cleared tr s) {last : Exchange}
    (honce : last.output.toOption.join = none ∨ s.active = true) :
    Cleared (tr ++ [last]) s.closed := by
  refine ⟨fun _ => rfl, fun _ => rfl, ?_⟩
  rcases honce with hnone | hactive
  · rw [handedOut_none hnone]
    exact h.once.imp id fun hclosed => ⟨rfl, hclosed.2⟩
  · rcases h.once with hnil | ⟨hinactive, -⟩
    · rw [handedOut_snoc, hnil, List.nil_append]
      exact .inr ⟨rfl, Option.length_toList_le⟩
    · exact absurd (hinactive.symm.trans hactive) Bool.false_ne_true

/-- A push that is accepted leaves it open. -/
theorem Cleared.keepOpen (h : Cleared tr s) (hactive : s.active = true) {s' : SignedBlobAssemblerV2}
    (hactive' : s'.active = true) {value : EncryptedUploadV2SignedBlob} :
    Cleared (tr ++ [⟨s, .push value, .ok none⟩]) s' := by
  have hopen : ¬s.active = false := by rw [hactive]; exact nofun
  have hopen' : ¬s'.active = false := by rw [hactive']; exact nofun
  refine ⟨fun hinactive => absurd hinactive hopen', ?_, ?_⟩
  · rintro ⟨exchange, hmem, hends⟩
    rcases List.mem_append.mp hmem with hmem | hmem
    · exact absurd (h.ended ⟨exchange, hmem, hends⟩) hopen
    · obtain rfl := List.mem_singleton.mp hmem
      exact absurd hends (not_ends rfl)
  · rw [handedOut_none rfl]
    exact .inl (h.once.resolve_right fun hclosed => hopen hclosed.1)

theorem Cleared.step (h : Cleared tr s) {input : Call} {s' : SignedBlobAssemblerV2} {reply : Reply}
    (hstep : CallStep sha256 s input s' reply) : Cleared (tr ++ [⟨s, input, reply⟩]) s' := by
  cases hstep with
  | refused _ error hinactive =>
    refine ⟨h.empty, fun _ => hinactive, ?_⟩
    rw [handedOut_none rfl]
    exact h.once
  | failed => exact h.close (.inl rfl)
  | aborted => exact h.close (.inl rfl)
  | finished _ hactive => exact h.close (.inr hactive)
  | appended offset data hactive =>
    exact h.keepOpen hactive
      (show ({ s with bytes := s.bytes ++ data } : SignedBlobAssemblerV2).active = true from hactive)
  | replayed offset data hactive => exact h.keepOpen hactive hactive

theorem run_cleared (hactive : assembler.active = true) (h : Calls sha256 assembler tr s) :
    Cleared tr s := by
  refine h.invariant Cleared ?_ fun tr s input _ hstate _ => hstate.step (call_cases sha256 s input)
  refine ⟨fun hinactive => absurd (hinactive.symm.trans hactive) Bool.false_ne_true, ?_, .inl rfl⟩
  rintro ⟨exchange, hmem, -⟩
  exact absurd hmem List.not_mem_nil

/-- Nothing succeeds in a closed assembler. -/
theorem call_closed (hinactive : s.active = false) (input : Call) :
    ∃ error, (call sha256 s input).2 = .error error := by
  have hstep : CallStep sha256 s input (call sha256 s input).1 (call sha256 s input).2 :=
    call_refused hinactive input
  generalize (call sha256 s input).1 = s' at hstep
  generalize (call sha256 s input).2 = reply at hstep ⊢
  cases hstep with
  | refused _ error _ => exact ⟨error, rfl⟩
  | failed _ error => exact ⟨error, rfl⟩
  | aborted _ hactive => exact absurd (hinactive.symm.trans hactive) Bool.false_ne_true
  | appended _ _ hactive => exact absurd (hinactive.symm.trans hactive) Bool.false_ne_true
  | replayed _ _ hactive => exact absurd (hinactive.symm.trans hactive) Bool.false_ne_true
  | finished _ hactive => exact absurd (hinactive.symm.trans hactive) Bool.false_ne_true

/-- Nothing succeeds after the assembly ended. -/
theorem run_ended (hactive : assembler.active = true) (h : Calls sha256 assembler tr s)
    {before after : List Exchange} {exchange : Exchange} (heq : tr = before ++ exchange :: after)
    (hends : Ends exchange) :
    s.bufferedLength = 0 ∧ ∀ later ∈ after,
      later.pre.bufferedLength = 0 ∧ ∃ error, later.output = .error error := by
  have hclosed {tr : List Exchange} {s : SignedBlobAssemblerV2} (h : Calls sha256 assembler tr s)
      (hmem : exchange ∈ tr) : s.active = false ∧ s.bufferedLength = 0 := by
    have hcleared := run_cleared hactive h
    have hinactive := hcleared.ended ⟨exchange, hmem, hends⟩
    exact ⟨hinactive, by rw [bufferedLength, hcleared.empty hinactive]; rfl⟩
  refine ⟨(hclosed h (by rw [heq]; simp)).2, fun later hlater => ?_⟩
  obtain ⟨front, back, rfl⟩ := List.append_of_mem hlater
  have hsplit : tr = (before ++ exchange :: front) ++ later :: back := by rw [heq]; simp
  obtain ⟨hrun, -, houtput, -⟩ := h.split hsplit
  obtain ⟨hinactive, hempty⟩ := hclosed hrun (by simp)
  rw [houtput]
  exact ⟨hempty, call_closed hinactive later.input⟩

end Runs

/-- The blob is the announced one, and all that was accepted is a part of it. -/
def Announced (sha256 : List UInt8 → FixedBytes 32) (begin : EncryptedUploadV2SignedBlob)
    (before : List Exchange) (blob : List UInt8) : Prop :=
  ∃ kind writeId totalLength,
    begin = .begin kind writeId totalLength (sha256 blob) ∧
    signedDocumentLength kind .decode = .ok blob.length ∧
    AllParts kind writeId blob before

theorem fromBegin_eq_ok {begin : EncryptedUploadV2SignedBlob} {assembler : SignedBlobAssemblerV2}
    (h : fromBegin begin = .ok assembler) :
    ∃ kind writeId totalLength digest,
      begin = .begin kind writeId totalLength digest ∧
      signedDocumentLength kind .decode = .ok totalLength.toNat ∧
      assembler = assembling kind writeId totalLength.toNat digest [] := by
  cases begin with
  | begin kind writeId totalLength digest =>
    obtain ⟨expected, hexpected, hrest⟩ := Checked.bind_eq_ok.mp h
    obtain ⟨hlength, hassembler⟩ := Checked.guard_eq_ok.mp hrest
    obtain rfl := not_not.mp hlength
    exact ⟨kind, writeId, totalLength, digest, rfl, hexpected, (Checked.pure_eq_ok.mp hassembler).symm⟩
  | data _ _ _ _ => exact nomatch h
  | commit _ _ => exact nomatch h
  | abort _ _ => exact nomatch h
  | result _ _ _ => exact nomatch h

/-- What `finish` hands out was announced. -/
theorem run_announced {sha256 : List UInt8 → FixedBytes 32} {begin : EncryptedUploadV2SignedBlob}
    {assembler s : SignedBlobAssemblerV2} {tr before after : List Exchange} {exchange : Exchange}
    {blob : List UInt8} (hbegin : fromBegin begin = .ok assembler)
    (h : Calls sha256 assembler tr s) (heq : tr = before ++ exchange :: after)
    (hblob : exchange.output = .ok (some blob)) : Announced sha256 begin before blob := by
  obtain ⟨kind, writeId, totalLength, digest, rfl, hlength, rfl⟩ := fromBegin_eq_ok hbegin
  obtain ⟨hrun, -, houtput, -⟩ := h.split heq
  have hassembles := run_assembles hrun
  have hstep := call_cases sha256 exchange.pre exchange.input
  rw [houtput] at hblob
  rw [hblob] at hstep
  generalize (call sha256 exchange.pre exchange.input).1 = next at hstep
  generalize exchange.input = input at hstep
  cases hstep with
  | finished _ hactive htotal hdigest =>
    have hsha : digest = sha256 exchange.pre.bytes := (hdigest.trans hassembles.sha256).symm
    refine ⟨kind, writeId, totalLength, by rw [hsha], ?_, hassembles.parts hactive⟩
    rw [htotal, hassembles.totalLength]
    exact hlength

/-! ## Deliveries -/

/-- `frames` deliver `taken` in contiguous chunks, with replays of what was delivered before. -/
inductive Delivers (kind : UInt8) (writeId : UInt32) :
    List UInt8 → List EncryptedUploadV2SignedBlob → Prop
  | nil : Delivers kind writeId [] []
  | chunk {taken data : List UInt8} {frames : List EncryptedUploadV2SignedBlob} {offset : UInt16} :
      Delivers kind writeId taken frames → data ≠ [] → offset.toNat = taken.length →
      Delivers kind writeId (taken ++ data) (frames ++ [.data kind writeId offset data])
  | replay {taken data : List UInt8} {frames : List EncryptedUploadV2SignedBlob} {offset : UInt16} :
      Delivers kind writeId taken frames → data ≠ [] → At taken offset.toNat data →
      Delivers kind writeId taken (frames ++ [.data kind writeId offset data])

/-- The run over these pushes. -/
def pushed (sha256 : List UInt8 → FixedBytes 32) (assembler : SignedBlobAssemblerV2)
    (frames : List EncryptedUploadV2SignedBlob) : List Exchange × SignedBlobAssemblerV2 :=
  Machine.exec (call sha256) [] assembler (frames.map .push)

section Deliveries

variable {sha256 : List UInt8 → FixedBytes 32} {kind : UInt8} {writeId : UInt32} {n : Nat}
  {digest : FixedBytes 32} {taken data : List UInt8}

theorem push_replay {offset : UInt16} (hdata : data ≠ []) (hroom : taken.length ≤ n)
    (hat : At taken offset.toNat data) :
    (assembling kind writeId n digest taken).push (.data kind writeId offset data) =
      (.ok (), assembling kind writeId n digest taken) := by
  have hempty : data.isEmpty = false := List.isEmpty_eq_false_iff.mpr hdata
  have hpositive : 0 < data.length := List.length_pos_iff.mpr hdata
  obtain ⟨hstop, hequal⟩ := hat
  have hbound : ¬n < offset.toNat + data.length := by omega
  have hnext : ¬offset.toNat = taken.length := by omega
  simp only [push, assembling, Bool.not_true, Bool.false_eq_true, if_false, ne_eq, not_true, or_self,
    hempty, hbound, hnext, Nat.add_sub_cancel_left, hstop, hequal, constantTimeEq_self, and_self,
    if_true]

theorem delivers_pushed (sha256 : List UInt8 → FixedBytes 32) (digest : FixedBytes 32)
    {frames : List EncryptedUploadV2SignedBlob}
    (h : Delivers kind writeId taken frames) (hroom : taken.length ≤ n) :
    (pushed sha256 (assembling kind writeId n digest []) frames).2 =
        assembling kind writeId n digest taken ∧
      ∀ exchange ∈ (pushed sha256 (assembling kind writeId n digest []) frames).1,
        exchange.output = .ok none := by
  induction h with
  | nil => exact ⟨rfl, fun _ hmem => absurd hmem List.not_mem_nil⟩
  | @chunk taken data frames offset _ hdata hoffset ih =>
    rw [List.length_append] at hroom
    obtain ⟨hstate, houtputs⟩ := ih (by omega)
    have hpush : (assembling kind writeId n digest taken).push (.data kind writeId offset data) =
        (.ok (), assembling kind writeId n digest (taken ++ data)) :=
      push_chunk hoffset hdata hroom
    unfold pushed at *
    rw [List.map_append, List.map_singleton, Machine.exec_concat]
    dsimp only
    rw [hstate, call, hpush]
    refine ⟨rfl, fun exchange hmem => ?_⟩
    rcases List.mem_append.mp hmem with hmem | hmem
    · exact houtputs exchange hmem
    · obtain rfl := List.mem_singleton.mp hmem
      rfl
  | @replay taken data frames offset _ hdata hat ih =>
    obtain ⟨hstate, houtputs⟩ := ih hroom
    have hpush : (assembling kind writeId n digest taken).push (.data kind writeId offset data) =
        (.ok (), assembling kind writeId n digest taken) :=
      push_replay hdata hroom hat
    unfold pushed at *
    rw [List.map_append, List.map_singleton, Machine.exec_concat]
    dsimp only
    rw [hstate, call, hpush]
    refine ⟨rfl, fun exchange hmem => ?_⟩
    rcases List.mem_append.mp hmem with hmem | hmem
    · exact houtputs exchange hmem
    · obtain rfl := List.mem_singleton.mp hmem
      rfl

theorem finish_complete {blob : List UInt8} (hdigest : digest = sha256 blob) :
    (call sha256 (assembling kind writeId blob.length digest blob) (.finish (.commit kind writeId))).2 =
      .ok (some blob) := by
  subst hdigest
  simp [call, finish, assembling, constantTimeEq_self, Except.map]

end Deliveries

/-- Over every order of calls the assembler hands out at most one blob, the announced one, every accepted frame is a
part of it, and nothing succeeds after the end; a delivery in chunks with replays yields the blob. -/
theorem blob_assembled (sha256 : List UInt8 → FixedBytes 32) :
    (∀ begin assembler tr s, fromBegin begin = .ok assembler → Calls sha256 assembler tr s →
      (handedOut tr).length ≤ 1 ∧
      (∀ before exchange after blob, tr = before ++ exchange :: after →
        exchange.output = .ok (some blob) → Announced sha256 begin before blob) ∧
      ∀ before exchange after, tr = before ++ exchange :: after → Ends exchange →
        s.bufferedLength = 0 ∧ ∀ later ∈ after,
          later.pre.bufferedLength = 0 ∧ ∃ error, later.output = .error error) ∧
    ∀ kind writeId blob frames, signedDocumentLength kind .decode = .ok blob.length →
      Delivers kind writeId blob frames → ∃ assembler,
        fromBegin (.begin kind writeId (UInt16.ofNat blob.length) (sha256 blob)) = .ok assembler ∧
        (∀ exchange ∈ (pushed sha256 assembler frames).1, exchange.output = .ok none) ∧
        (call sha256 (pushed sha256 assembler frames).2 (.finish (.commit kind writeId))).2 =
          .ok (some blob) := by
  constructor
  · intro begin assembler tr s hbegin hrun
    have hactive : assembler.active = true := by
      obtain ⟨_, _, _, _, -, -, rfl⟩ := fromBegin_eq_ok hbegin
      rfl
    refine ⟨?_, fun before exchange after blob heq hblob => run_announced hbegin hrun heq hblob,
      fun before exchange after heq hends => run_ended hactive hrun heq hends⟩
    rcases (run_cleared hactive hrun).once with hnil | ⟨-, hone⟩
    · rw [hnil]
      exact Nat.zero_le 1
    · exact hone
  · intro kind writeId blob frames hlength hdelivers
    obtain ⟨hstate, houtputs⟩ := delivers_pushed sha256 (sha256 blob) hdelivers
      (Nat.le_refl blob.length)
    refine ⟨assembling kind writeId blob.length (sha256 blob) [], ?_, houtputs, ?_⟩
    · have hcount := toNat_count (DocumentLength.lt hlength)
      rw [fromBegin, Checked.bind_eq_ok]
      exact ⟨_, hlength, Checked.guard_eq_ok.mpr ⟨not_not.mpr hcount, rfl⟩⟩
    · rw [hstate]
      exact finish_complete rfl

/-- A context challenge in two chunks; a replay of inner bytes comes before the second. -/
def sampleFrames : List EncryptedUploadV2SignedBlob :=
  [.data 3 9 0 (sampleDocument.take 100), .data 3 9 40 (List.replicate 7 7),
    .data 3 9 100 (sampleDocument.drop 100)]

theorem sampleFrames_deliver : Delivers 3 9 sampleDocument sampleFrames := by
  have hfirst : Delivers 3 9 (sampleDocument.take 100) [.data 3 9 0 (sampleDocument.take 100)] :=
    .chunk .nil (by decide) rfl
  have hreplay : Delivers 3 9 (sampleDocument.take 100)
      [.data 3 9 0 (sampleDocument.take 100), .data 3 9 40 (List.replicate 7 7)] :=
    .replay hfirst (by decide) ⟨by decide, by decide⟩
  have hwhole : Delivers 3 9 (sampleDocument.take 100 ++ sampleDocument.drop 100) sampleFrames :=
    hreplay.chunk (by decide) rfl
  rw [List.take_append_drop] at hwhole
  exact hwhole

theorem blob_assembled_sample :
    (∃ assembler, fromBegin (.begin 3 9 196 (Sha256.digest sampleDocument)) = .ok assembler ∧
      (call Sha256.digest (pushed Sha256.digest assembler sampleFrames).2
        (.finish (.commit 3 9))).2 = .ok (some sampleDocument)) ∧
    ∃ assembler tr s, fromBegin (.begin 3 9 196 (Sha256.digest sampleDocument)) = .ok assembler ∧
      Calls Sha256.digest assembler tr s ∧ (handedOut tr).length ≤ 1 := by
  constructor
  · obtain ⟨assembler, hbegin, -, hfinish⟩ :=
      (blob_assembled Sha256.digest).2 3 9 sampleDocument sampleFrames rfl sampleFrames_deliver
    exact ⟨assembler, hbegin, hfinish⟩
  · obtain ⟨assembler, hbegin, -⟩ :=
      (blob_assembled Sha256.digest).2 3 9 sampleDocument sampleFrames rfl sampleFrames_deliver
    have hrun : Calls Sha256.digest assembler _ _ :=
      .exec (Machine.allowed_true _ assembler (sampleFrames.map .push ++ [.finish (.commit 3 9)]))
    exact ⟨assembler, _, _, hbegin, hrun, ((blob_assembled Sha256.digest).1 _ _ _ _ hbegin hrun).1⟩

end BotaSdk.SignedBlobAssemblerV2
