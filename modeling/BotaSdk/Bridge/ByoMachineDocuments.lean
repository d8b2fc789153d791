import BotaSdk.Bridge.ByoMachineGraph

/-!
# The documents of the BYO machine

What an answer leaves of the durable documents: some members are written once, the recovery state
among them is the machine's own, and it becomes complete at two stages only.
-/

namespace BotaSdk

namespace ByoMachine

open Checked

/-! ## Members that are written once -/

/-- The members that no answer changes. -/
def ONCE : List String :=
  ["identity", "customer_package", "authorization", "manifest", "package_trailer",
    "upload_package", "receipt_sha256", "handoff", "successor"]

/-- The members that are only ever set to true. -/
def FLAGS : List String :=
  ["selected_customer", "fallback", "open_renewed"]

/-- A member that stays in the documents with its value. -/
def Fixed (key : String) (value : Json) : Prop :=
  key ∈ ONCE ∨ (key ∈ FLAGS ∧ value = .bool true) ∨
    ((key = "receipt" ∨ key = "context") ∧ value.isObject)

theorem not_fixed {key : String} (h : key ∉ "receipt" :: "context" :: (ONCE ++ FLAGS))
    (value : Json) : ¬Fixed key value := by
  simp only [List.mem_cons, List.mem_append, not_or] at h
  obtain ⟨hreceipt, hcontext, honce, hflag⟩ := h
  rintro (hkey | ⟨hkey, -⟩ | ⟨hkey | hkey, -⟩)
  · exact honce hkey
  · exact hflag hkey
  · exact hreceipt hkey
  · exact hcontext hkey

/-- The documents after some answers: the fixed members of `docs` are still there. -/
structure Grows (docs docs' : Json) : Prop where
  object : docs'.isObject
  fixed : ∀ key value, Fixed key value → docs.get key = some value → docs'.get key = some value

theorem Grows.refl {docs : Json} (h : docs.isObject) : Grows docs docs :=
  ⟨h, fun _ _ _ hget => hget⟩

theorem Grows.trans {a b c : Json} (h : Grows a b) (h' : Grows b c) : Grows a c :=
  ⟨h'.object, fun key value hfixed hget => h'.fixed key value hfixed (h.fixed key value hfixed hget)⟩

/-- A member may be set to the value that it is fixed at. -/
theorem Grows.set {a b : Json} (h : Grows a b) {key : String} {value : Json}
    (hsame : ∀ value', Fixed key value' → b.get key = some value' → value' = value) :
    Grows a (b.set key value) := by
  refine ⟨Json.isObject_set h.object, fun key' value' hfixed hget => ?_⟩
  have hb := h.fixed key' value' hfixed hget
  by_cases hkey : key' = key
  · subst hkey
    rw [Json.get_set h.object, hsame value' hfixed hb]
  · rw [Json.get_set_of_ne hkey h.object]
    exact hb

theorem Grows.set_free {a b : Json} (h : Grows a b) {key : String} {value : Json}
    (hfree : ∀ value', ¬Fixed key value') : Grows a (b.set key value) :=
  h.set fun value' hfixed => absurd hfixed (hfree value')

theorem Grows.set_once {a b : Json} (h : Grows a b) {key : String} {value : Json}
    (hsame : ¬(b.get key).any (· ≠ value) = true) : Grows a (b.set key value) := by
  refine h.set fun value' _ hget => ?_
  rw [hget] at hsame
  simpa using hsame

theorem Grows.set_flag {a b : Json} (h : Grows a b) {key : String} (hkey : key ∈ FLAGS) :
    Grows a (b.set key (.bool true)) := by
  refine h.set fun value' hfixed _ => ?_
  have hother : key ∉ ONCE ∧ key ≠ "receipt" ∧ key ≠ "context" := by
    simp only [FLAGS, List.mem_cons, List.not_mem_nil, or_false] at hkey
    rcases hkey with rfl | rfl | rfl <;> decide
  rcases hfixed with honce | ⟨-, hvalue⟩ | ⟨hreceipt | hcontext, -⟩
  · exact absurd honce hother.1
  · exact hvalue
  · exact absurd hreceipt hother.2.1
  · exact absurd hcontext hother.2.2

theorem Grows.erase {a b : Json} (h : Grows a b) {key : String} (hfree : ∀ value, ¬Fixed key value) :
    Grows a (b.erase key) := by
  obtain ⟨fields, rfl⟩ := Json.isObject_iff.mp h.object
  refine ⟨rfl, fun key' value' hfixed hget => ?_⟩
  have hb := h.fixed key' value' hfixed hget
  have hne : key' ≠ key := by
    rintro rfl
    exact hfree value' hfixed
  show Json.lookup key' _ = _
  rw [Json.lookup_filter_of_ne hne]
  exact hb

/-! ## The evidence of a machine -/

/-- The keys of the documents of an identity. -/
def batchKey (identityKey : String) : String :=
  "byo/batch/" ++ identityKey ++ "/documents"

def streamKey (identityKey : String) : String :=
  "byo/stream/" ++ identityKey ++ "/documents"

/-- The stages that a renewal returns to. -/
def RENEWED : List Next :=
  [.stage .upload, .stage .packageGrant, .stage .packageWholeGrant]

/-- The part of a machine that cleanup depends on. -/
structure Evidence where
  input : ByoInput
  recording : Option Recording
  identityKey : String
  loadKey : String
  renewAfter : Next
  docs : Json
  recovery : Option ByoRecovery

def evidence (self : ByoMachine) : Evidence :=
  ⟨self.input, self.recording, self.identityKey, self.loadKey, self.renewAfter, self.docs,
    self.recovery⟩

/-- The recovery state is the one in the documents, and is read back from them as it is. -/
structure Coherent (docs : Json) (recovery : Option ByoRecovery) : Prop where
  object : docs.isObject
  written : docs.index "recovery" = .ofOption ByoRecovery.toJson recovery
  small : ∀ state, recovery = some state → state.Small

def Complete (recovery : Option ByoRecovery) : Prop :=
  ∃ state, recovery = some state ∧ state.phase = .complete

namespace Evidence

/-- The generations are 32-bit integers. -/
def Typed (a : Evidence) : Prop :=
  a.input.scope.bindingGeneration < 2 ^ 32 ∧ ∀ r, a.recording = some r → r.generation < 2 ^ 32

/-- What one answer keeps; `finish` says whether it may end the cleanup. -/
structure Keeps (finish : Prop) (a b : Evidence) : Prop where
  input : b.input = a.input
  recording : b.recording = a.recording
  identity : b.identityKey = a.identityKey
  key : b.loadKey = a.loadKey
  renew : b.renewAfter = a.renewAfter ∨ b.renewAfter ∈ RENEWED
  docs : a.docs.isObject → Grows a.docs b.docs
  coherent : a.Typed → Coherent a.docs a.recovery → Coherent b.docs b.recovery
  complete : Complete b.recovery → Complete a.recovery ∨ finish

variable {finish : Prop} {a b c : Evidence} {input : ByoInput} {recording : Option Recording}
  {identityKey loadKey key : String} {renewAfter : Next} {docs value : Json}
  {recovery : Option ByoRecovery}

@[simp] theorem Keeps.refl : Keeps finish a a :=
  ⟨rfl, rfl, rfl, rfl, .inl rfl, Grows.refl, fun _ h => h, .inl⟩

theorem Keeps.typed (h : Keeps finish a b) (ha : a.Typed) : b.Typed := by
  unfold Typed
  rw [h.input, h.recording]
  exact ha

theorem Keeps.trans (h : Keeps finish a b) (h' : Keeps finish b c) : Keeps finish a c := by
  refine ⟨h'.input.trans h.input, h'.recording.trans h.recording, h'.identity.trans h.identity,
    h'.key.trans h.key, ?_, fun ha => (h.docs ha).trans (h'.docs (h.docs ha).object),
    fun ht ha => h'.coherent (h.typed ht) (h.coherent ht ha), fun hc => ?_⟩
  · rcases h'.renew with hrenew | hrenew
    · rw [hrenew]
      exact h.renew
    · exact .inr hrenew
  · rcases h'.complete hc with hb | hfinish
    · exact h.complete hb
    · exact .inr hfinish

/-- The renewal is for another stage. -/
theorem Keeps.renewed {after : Next} (h : Keeps finish a
    ⟨input, recording, identityKey, loadKey, renewAfter, docs, recovery⟩)
    (hafter : after ∈ RENEWED) :
    Keeps finish a ⟨input, recording, identityKey, loadKey, after, docs, recovery⟩ :=
  ⟨h.input, h.recording, h.identity, h.key, .inr hafter, h.docs, h.coherent, h.complete⟩

/-- Another member of the documents is written. -/
theorem Keeps.write {docs' : Json} (h : Keeps finish a
      ⟨input, recording, identityKey, loadKey, renewAfter, docs, recovery⟩)
    (hdocs : a.docs.isObject → Grows a.docs docs → Grows a.docs docs')
    (hrecovery : docs.isObject → docs'.index "recovery" = docs.index "recovery") :
    Keeps finish a ⟨input, recording, identityKey, loadKey, renewAfter, docs', recovery⟩ := by
  refine ⟨h.input, h.recording, h.identity, h.key, h.renew, fun ha => hdocs ha (h.docs ha),
    fun ht ha => ?_, h.complete⟩
  -- the recovery state is a member of its own, which the write leaves as it is
  have hb := h.coherent ht ha
  exact ⟨(hdocs ha.object (h.docs ha.object)).object, (hrecovery hb.object).trans hb.written,
    hb.small⟩

@[simp] theorem Keeps.set_free (hkey : key ≠ "recovery") (hfree : ∀ value', ¬Fixed key value')
    (h : Keeps finish a ⟨input, recording, identityKey, loadKey, renewAfter, docs, recovery⟩) :
    Keeps finish a
      ⟨input, recording, identityKey, loadKey, renewAfter, docs.set key value, recovery⟩ :=
  h.write (fun _ hdocs => hdocs.set_free hfree) fun hobject =>
    Json.index_set_of_ne (Ne.symm hkey) hobject

theorem Keeps.set_once (hkey : key ≠ "recovery")
    (h : Keeps finish a ⟨input, recording, identityKey, loadKey, renewAfter, docs, recovery⟩)
    (hsame : ¬(docs.get key).any (· ≠ value) = true) :
    Keeps finish a
      ⟨input, recording, identityKey, loadKey, renewAfter, docs.set key value, recovery⟩ :=
  h.write (fun _ hdocs => hdocs.set_once hsame) fun hobject =>
    Json.index_set_of_ne (Ne.symm hkey) hobject

@[simp] theorem Keeps.set_flag (hkey : key ∈ FLAGS)
    (h : Keeps finish a ⟨input, recording, identityKey, loadKey, renewAfter, docs, recovery⟩) :
    Keeps finish a
      ⟨input, recording, identityKey, loadKey, renewAfter, docs.set key (.bool true),
        recovery⟩ := by
  refine h.write (fun _ hdocs => hdocs.set_flag hkey) fun hobject =>
    Json.index_set_of_ne ?_ hobject
  simp only [FLAGS, List.mem_cons, List.not_mem_nil, or_false] at hkey
  rcases hkey with rfl | rfl | rfl <;> decide

theorem Keeps.erase (hkey : key ≠ "recovery") (hfree : ∀ value', ¬Fixed key value')
    (h : Keeps finish a ⟨input, recording, identityKey, loadKey, renewAfter, docs, recovery⟩) :
    Keeps finish a ⟨input, recording, identityKey, loadKey, renewAfter, docs.erase key, recovery⟩ := by
  refine h.write (fun _ hdocs => hdocs.erase hfree) fun hobject => ?_
  obtain ⟨fields, rfl⟩ := Json.isObject_iff.mp hobject
  show (Json.lookup "recovery" _).getD .null = _
  rw [Json.lookup_filter_of_ne (Ne.symm hkey)]
  rfl

end Evidence

open Evidence

/-- An accepted request of the recovery, and the reply to it. -/
def Advances (self : ByoMachine) (event : ByoRecoveryEvent) (reply : ByoRecoveryReply) : Prop :=
  ∃ capture, self.capture = .ok capture ∧
    ByoRecoveryRequest.reduce ⟨self.recovery, capture, event⟩ = .ok reply

/-- The machine after an accepted request. -/
def recovered (self : ByoMachine) (reply : ByoRecoveryReply) : ByoMachine :=
  { self with
    recovery := some reply.checkpoint
    docs := self.docs.set "recovery" reply.checkpoint.toJson }

theorem advanceRecovery_iff {self : ByoMachine} {event : ByoRecoveryEvent}
    {Q : ByoMachine × ByoRecoveryReply → Prop} :
    (∀ out, self.advanceRecovery event = .ok out → Q out) ↔
      ∀ reply, self.Advances event reply → Q (self.recovered reply, reply) := by
  constructor
  · rintro h reply ⟨capture, hcapture, hreduce⟩
    refine h _ ?_
    unfold advanceRecovery
    rw [hcapture]
    simp only [bind, Except.bind, hreduce]
    rfl
  · intro h out hout
    obtain ⟨hadvances, hmachine⟩ := advanceRecovery_ok hout
    have hq := h out.2 hadvances
    have heq : (self.recovered out.2, out.2) = out := Prod.ext hmachine.symm rfl
    rwa [heq] at hq

theorem advanceAt_ends {self : ByoMachine} {phase : ByoPhase} {event : ByoRecoveryEvent} :
    Ends (self.advanceAt phase event) fun out =>
      out = self ∨ ∃ reply, self.Advances event reply ∧ out = self.recovered reply := by
  unfold advanceAt
  simp only [ends_ite, ends_bind, ends_ok, advanceRecovery_iff]
  exact ⟨fun _ reply hreply => .inr ⟨reply, hreply, rfl⟩, fun _ => .inl trivial⟩

theorem number_lt {v : Json} {key : String} {n : Nat} (h : number v key = .ok n) : n < 2 ^ 32 := by
  unfold number at h
  split at h
  · rename_i value heq
    cases h
    simpa using (Option.filter_eq_some_iff.mp heq).2
  · cases h

/-- The capture is made of 32-bit numbers. -/
theorem capture_fits {self : ByoMachine} {capture : ByoCapture} (h : self.capture = .ok capture)
    (ht : self.evidence.Typed) :
    capture.bindingGeneration < 2 ^ 32 ∧ capture.deviceAssignmentGeneration < 2 ^ 32 ∧
      capture.recordingGeneration < 2 ^ 32 := by
  unfold ByoMachine.capture at h
  obtain ⟨r, hr, h⟩ := Checked.bind_eq_ok.mp h
  obtain ⟨assignment, hassignment, h⟩ := Checked.bind_eq_ok.mp h
  obtain ⟨policy, -, h⟩ := Checked.bind_eq_ok.mp h
  cases h
  refine ⟨ht.1, number_lt hassignment, ht.2 r ?_⟩
  unfold recording? at hr
  split at hr
  · rename_i heq
    cases hr
    exact heq
  · cases hr

theorem Advances.coherent {self : ByoMachine} {event : ByoRecoveryEvent} {reply : ByoRecoveryReply}
    (h : self.Advances event reply) (hevent : ByoRecovery.EventFits event)
    (ht : self.evidence.Typed) (ha : Coherent self.docs self.recovery) :
    Coherent (self.recovered reply).docs (self.recovered reply).recovery := by
  obtain ⟨capture, hcapture, hreduce⟩ := h
  refine ⟨Json.isObject_set ha.object, Json.index_set ha.object, ?_⟩
  rintro state ⟨⟩
  exact ByoRecovery.reduce_small hreduce ha.small hevent fun _ => capture_fits hcapture ht

theorem Advances.complete {self : ByoMachine} {event : ByoRecoveryEvent} {reply : ByoRecoveryReply}
    (h : self.Advances event reply) (hevent : event ≠ .cleanupFinished)
    (hcomplete : Complete (self.recovered reply).recovery) : Complete self.recovery := by
  obtain ⟨capture, -, hreduce⟩ := h
  obtain ⟨state, hstate, hphase⟩ := hcomplete
  cases hstate
  obtain ⟨-, -, -, ⟨-, -, hfresh⟩ | ⟨previous, hprevious, -, hmoves⟩⟩ :=
    ByoRecovery.reduce_ok hreduce
  -- a state that was only created is in phase `New`
  · rw [hfresh] at hphase
    cases hphase
  · exact ⟨previous, hprevious, hmoves.complete hevent hphase⟩

theorem Advances.keeps {self : ByoMachine} {event : ByoRecoveryEvent} {reply : ByoRecoveryReply}
    {finish : Prop} (h : self.Advances event reply) (hevent : ByoRecovery.EventFits event)
    (hfinish : event = .cleanupFinished → finish) :
    Keeps finish self.evidence (self.recovered reply).evidence := by
  refine ⟨rfl, rfl, rfl, rfl, .inl rfl, fun ha => (Grows.refl ha).set_free ?_, h.coherent hevent,
    fun hcomplete => ?_⟩
  · intro value' hfixed
    simp [Fixed, ONCE, FLAGS] at hfixed
  · by_cases hfinished : event = .cleanupFinished
    · exact .inr (hfinish hfinished)
    · exact .inl (h.complete hfinished hcomplete)

/-! ## The stages -/

/-- Every result of a call keeps the evidence `a`. -/
def Holds (finish : Prop) (a : Evidence) (result : Reply) : Prop :=
  Ends result fun out => Keeps finish a out.1.evidence

section Holds

variable {finish : Prop} {crates : Crates} {self : ByoMachine} {a : Evidence} {value : Json} {now : Nat}
  {random : String}

@[simp] theorem holds_error {e : DeviceSdkError} : Holds finish a (.error e) :=
  ends_error.mpr trivial

@[simp] theorem holds_bind {α : Type} {x : Checked α} {f : α → Reply} :
    Holds finish a (x >>= f) ↔ ∀ b, x = .ok b → Holds finish a (f b) :=
  ends_bind

@[simp] theorem holds_ite {c : Prop} [Decidable c] {x y : Reply} :
    Holds finish a (if c then x else y) ↔ (c → Holds finish a x) ∧ (¬c → Holds finish a y) :=
  ends_ite

@[simp] theorem holds_reply {action : Action} (h : Keeps finish a self.evidence) :
    Holds finish a (self.reply crates action) :=
  ends_reply h

@[simp] theorem holds_enter {stage : Stage} (h : Keeps finish a self.evidence) :
    Holds finish a (self.enter crates stage) :=
  ends_issue fun _ _ => h

@[simp] theorem holds_save {next : Stage} (h : Keeps finish a self.evidence) :
    Holds finish a (self.save crates next) :=
  ends_reply h

theorem holds_advanceAt {phase : ByoPhase} {event : ByoRecoveryEvent} {out : ByoMachine}
    (hout : self.advanceAt phase event = .ok out) (hevent : ByoRecovery.EventFits event)
    (hfinish : event = .cleanupFinished → finish) : Keeps finish self.evidence out.evidence := by
  rcases advanceAt_ends out hout with rfl | ⟨reply, hreply, rfl⟩
  · exact .refl
  · exact hreply.keeps hevent hfinish

theorem holds_packagePlan (h : Keeps finish a self.evidence) : Holds finish a (self.packagePlan crates) := by
  have hsent : Keeps finish a (self.setDoc "package_sent" (.bool true)).evidence :=
    h.set_free (by decide) (not_fixed (by decide))
  unfold packagePlan
  simp only [holds_ite, holds_bind]
  refine ⟨fun _ => holds_enter h, fun _ => ⟨fun _ => holds_enter h, fun _ =>
    ⟨fun _ => holds_error, fun _ next _ => ⟨fun _ => holds_error, fun _ => ⟨fun _ => ?_,
      fun _ segment _ => holds_enter h⟩⟩⟩⟩⟩
  intro verifying hverifying
  exact holds_save (hsent.trans (holds_advanceAt hverifying trivial (by rintro ⟨⟩)))

theorem holds_resume {next : Next} (h : Keeps finish a self.evidence) :
    Holds finish a (self.resume crates next) := by
  cases next with
  | text value => exact holds_error
  | stage stage =>
    show Holds finish a (self.goto crates stage)
    unfold goto
    simp only [holds_ite]
    exact ⟨fun _ => holds_packagePlan h, fun _ => holds_enter h⟩

theorem holds_renewable {after : Next} (hafter : after ∈ RENEWED) (h : Keeps finish a self.evidence) :
    Holds finish a (self.renewable crates after random) := by
  unfold renewable
  rw [holds_bind]
  intro renewing hrenewing
  have hkept : Keeps finish a renewing.evidence := by
    unfold ByoMachine.renewing at hrenewing
    split at hrenewing
    · cases hrenewing
    · split_ifs at hrenewing
      · obtain ⟨moved, hmoved, hrenewing⟩ := Checked.bind_eq_ok.mp hrenewing
        cases hrenewing
        obtain ⟨hadvances, hmachine⟩ := advanceRecovery_ok hmoved
        rw [hmachine]
        have hadvances : self.Advances _ moved.2 := hadvances
        exact h.trans (hadvances.keeps trivial (by rintro ⟨⟩))
      · cases hrenewing
        exact h
  refine holds_save (Keeps.renewed (hkept.set_free (by decide) ?_) hafter)
  simp [Fixed, ONCE, FLAGS]

/-- A context may be written over itself only. -/
theorem keeps_context {context : Json}
    (hsame : ∀ old, self.docs.get "context" = some old → old.isObject → old = context)
    (h : Keeps finish a self.evidence) : Keeps finish a (self.setDoc "context" context).evidence := by
  refine h.write (fun _ hdocs => hdocs.set fun value' hfixed hget => ?_) fun hobject =>
    Json.index_set_of_ne (by decide) hobject
  refine hsame value' hget ?_
  simpa [Fixed, ONCE, FLAGS] using hfixed

theorem holds_contextReady
    (hsame : ∀ old, self.docs.get "context" = some old → old.isObject → old = self.context)
    (h : Keeps finish a self.evidence) : Holds finish a (self.contextReady crates) := by
  have hcontext := keeps_context hsame h
  unfold contextReady
  simp only [holds_bind, holds_ite, advanceRecovery_iff]
  refine fun _ _ => ⟨fun _ => holds_save hcontext, fun _ _ _ reply hreply => ?_⟩
  have hrestarted := hcontext.trans
    (hreply.keeps (by split <;> trivial) (by split <;> rintro ⟨⟩))
  refine ⟨fun _ => holds_enter hrestarted, fun _ reply' hreply' => holds_save ?_⟩
  exact hrestarted.trans (hreply'.keeps trivial (by rintro ⟨⟩))

theorem holds_verifiedStatus {status : Json} (h : Keeps finish a self.evidence) :
    Holds finish a (self.verifiedStatus crates status) := by
  unfold verifiedStatus
  split
  · rename_i receipt hreceipt
    rw [holds_ite]
    refine ⟨fun _ => holds_error, fun hkept => holds_save (h.write ?_ ?_)⟩
    · refine fun _ hdocs => hdocs.set fun value' hfixed hget => ?_
      have hobject : value'.isObject := by simpa [Fixed, ONCE, FLAGS] using hfixed
      by_contra hne
      refine hkept ?_
      show ((self.docs.get "receipt").filter _).any _ = true
      rw [hget, Option.filter_some, if_pos hobject]
      simpa using hne
    · exact fun hobject => Json.index_set_of_ne (by decide) hobject
  · simp only [holds_ite]
    exact ⟨fun _ => holds_error, fun _ => ⟨fun _ => holds_error, fun _ => holds_enter h⟩⟩

theorem holds_segmentAccepted (h : Keeps finish a self.evidence) :
    Holds finish a (self.segmentAccepted crates) := by
  unfold segmentAccepted
  rw [holds_ite]
  exact ⟨fun _ => holds_error, fun _ => holds_enter h⟩

theorem holds_fallBack (h : Keeps finish a self.evidence) : Holds finish a (self.fallBack crates) :=
  holds_save (h.set_flag (by decide))

theorem holds_acceptSuccessor {status : Json} (h : Keeps finish a self.evidence) :
    Holds finish a (self.acceptSuccessor crates status) := by
  unfold acceptSuccessor
  simp only [holds_bind, holds_ite]
  refine fun _ _ mode _ => ⟨fun _ => holds_error, fun _ owner _ previous _ => ⟨fun _ => holds_error,
    fun _ => ⟨fun _ => holds_error, fun _ => ⟨fun _ => holds_error, fun _ =>
      ⟨fun _ => holds_error, fun hsame => holds_save (h.set_once (by decide) hsame)⟩⟩⟩⟩⟩

theorem holds_streamHandoff {status : Json} (h : Keeps finish a self.evidence) :
    Holds finish a (self.streamHandoff crates status) := by
  unfold streamHandoff
  simp only [holds_bind, holds_ite]
  refine ⟨fun _ => holds_acceptSuccessor h, fun _ length _ hash _ => ⟨fun _ => holds_error,
    fun _ => ⟨fun _ => holds_error, fun _ => ⟨fun _ => holds_error, fun hsame => ?_⟩⟩⟩⟩
  exact holds_save (h.set_once (by decide) hsame)

/-- A free member of the documents. -/
theorem keeps_set {key : String} (h : Keeps finish a self.evidence) (hkey : key ≠ "recovery")
    (hfree : ∀ value', ¬Fixed key value') : Keeps finish a (self.setDoc key value).evidence :=
  h.set_free hkey hfree

/-- Errors load nothing except at `inspect_live`. -/
theorem holds_consumeError {error : Json} (hinspect : self.stage ≠ .inspectLive)
    (h : Keeps finish a self.evidence) : Holds finish a (self.consumeError crates error random) := by
  have htransport : Keeps finish a (self.setDoc "transport" (.str "http")).evidence :=
    keeps_set h (by decide) (not_fixed (by decide))
  have hreconnects (n : Nat) : Keeps finish a (self.setDoc "reconnects" (.ofNat n)).evidence :=
    keeps_set h (by decide) (not_fixed (by decide))
  have hattempts (n : Nat) : Keeps finish a (self.setDoc "package_attempts" (.ofNat n)).evidence :=
    keeps_set h (by decide) (not_fixed (by decide))
  unfold consumeError
  simp only [holds_ite]
  refine ⟨fun _ => holds_error, fun _ => ⟨fun _ => holds_save htransport, fun _ =>
    ⟨fun _ => ⟨fun _ => holds_save (hreconnects _), fun _ => holds_fallBack h⟩, fun _ =>
      ⟨fun _ => holds_fallBack h, fun _ => ⟨fun _ => holds_enter (hattempts _), fun _ =>
        ⟨fun _ => holds_enter h, fun _ => ⟨fun hinspecting => absurd hinspecting.2.1 hinspect,
          fun _ => ⟨fun hexpired => holds_renewable ?_ h, fun _ => ⟨fun _ => ?_,
            fun _ => holds_error⟩⟩⟩⟩⟩⟩⟩⟩⟩
  · rcases hexpired.2 with hstage | hstage | hstage <;> simp [hstage, RENEWED]
  · exact holds_renewable (by decide) (h.set_flag (by decide))

theorem holds_consumeSelection : Holds finish self.evidence (self.consumeSelection crates value) := by
  have hselected (status : Json) : Keeps finish self.evidence
      (({ self with status }).setDoc "selected_customer" (.bool true)).evidence :=
    Keeps.refl.set_flag (by decide)
  unfold consumeSelection
  simp only [holds_bind, holds_ite]
  refine fun status _ => ⟨fun _ => holds_reply .refl, fun _ => ⟨fun _ => ?_, fun _ => ?_⟩⟩
  · split
    · exact holds_error
    · rw [holds_ite]
      refine ⟨fun _ => holds_error, fun _ => ?_⟩
      split
      · exact holds_error
      · rw [holds_ite]
        exact ⟨fun _ => holds_error, fun _ => holds_save (hselected status)⟩
  · exact holds_save (hselected status)

theorem withSource_ends : Ends self.withSource fun out => out.evidence = self.evidence := by
  unfold withSource
  simp [evidence]

theorem holds_consumeSelectSource : Holds finish self.evidence (self.consumeSelectSource crates value) := by
  unfold consumeSelectSource sourceMissing
  simp only [holds_bind, holds_ite]
  refine fun facts _ => ⟨fun _ => ⟨fun _ => holds_error, fun _ _ _ => holds_enter .refl⟩,
    fun _ source hsource => ?_⟩
  have hkept : Keeps finish self.evidence source.evidence := by
    rw [withSource_ends source hsource]
    exact .refl
  split
  -- the context of the documents comes before that of the device
  · rename_i context hcontext
    refine holds_contextReady ?_ hkept
    intro old hold hobject
    have hfilter : ((source.docs.get "context").filter (·.isObject)) = some old := by
      rw [show source.docs.get "context" = some old from hold, Option.filter_some, if_pos hobject]
    rw [hfilter] at hcontext
    exact Option.some.inj hcontext
  · simp only [holds_bind, holds_ite]
    refine fun body _ => ⟨fun _ => holds_error, fun _ => holds_save ?_⟩
    exact keeps_set hkept (by decide) (not_fixed (by decide))

/-- A context is created only where the documents hold none. -/
theorem holds_consumeCreateContext
    (hnone : ∀ old, self.docs.get "context" = some old → ¬old.isObject) :
    Holds finish self.evidence (self.consumeCreateContext crates value) := by
  unfold consumeCreateContext
  simp only [holds_bind]
  intro created _ _ _
  have hkept : Keeps finish self.evidence
      (self.setDoc "context" (created.index "context")).evidence :=
    keeps_context (fun old hold hobject => absurd hobject (hnone old hold)) .refl
  refine holds_contextReady (fun old hold _ => ?_)
    (hkept.erase (by decide) (not_fixed (by decide)))
  have hget : ((self.docs.set "context" (created.index "context")).erase "create_request").get
      "context" = (self.docs.set "context" (created.index "context")).get "context" :=
    Json.get_erase_of_ne (by decide)
  exact Json.eq_of_get_set (hget.symm.trans hold)

theorem route_fits {context authorization : Json} :
    Ends (self.route context authorization) fun route =>
      ByoRecovery.EventFits (.bind route .wholeFile) := by
  unfold ByoMachine.route
  simp only [ends_bind, ends_ok]
  intro _ _ _ _ _ _ revision hrevision _ _ _ _ _ _ owner howner
  exact ⟨number_lt hrevision, number_lt howner⟩

theorem bound_keeps : Ends self.bound fun out => Keeps finish self.evidence out.evidence := by
  unfold bound
  simp only [ends_ite, ends_bind, ends_ok, advanceRecovery_iff]
  refine ⟨fun _ route hroute reply hreply => ?_, fun _ => .refl⟩
  exact hreply.keeps (route_fits route hroute) (by rintro ⟨⟩)

theorem packageReset_keeps {customer : Bool} (h : Keeps finish a self.evidence) :
    Keeps finish a (self.packageReset customer).evidence := by
  unfold packageReset
  split_ifs
  · refine keeps_set (keeps_set h (by decide) ?_) (by decide) ?_
    · simp [Fixed, ONCE, FLAGS]
    · simp [Fixed, ONCE, FLAGS]
  · exact h

theorem packageReset_get {customer : Bool} {key : String} (hsent : key ≠ "package_sent")
    (hnext : key ≠ "package_next") (hobject : self.docs.isObject) :
    (self.packageReset customer).docs.get key = self.docs.get key := by
  unfold packageReset
  split_ifs
  · show ((self.docs.set _ _).set _ _).get key = _
    rw [Json.get_set_of_ne hnext (Json.isObject_set hobject), Json.get_set_of_ne hsent hobject]
  · rfl

theorem eq_of_not_any {old? : Option Json} {old : Json} (h : ¬old?.any (· ≠ value) = true)
    (hold : old? = some old) : old = value := by
  subst hold
  simpa using h

theorem holds_consumePrepare : Holds finish self.evidence (self.consumePrepare crates value random) := by
  unfold consumePrepare
  simp only [holds_bind, holds_ite]
  intro upload _ _ _ _ _
  refine ⟨fun _ => holds_error, fun hcontract => ?_⟩
  rw [not_or, not_or] at hcontract
  obtain ⟨-, hcustomer, hauthorization⟩ := hcontract
  generalize decide ((upload.index "status").index "hook_contract" =
    .str ByoCustomer.CUSTOMER_HOOKS) = customer at hcustomer ⊢
  -- the machine once the contract is in its documents, before the authorization is
  generalize hreset : ((({ self with
    upload, authorization := upload.index "authorization"
    status := upload.index "status" }).setDoc "customer_package" (.bool customer)).setDoc
      "package_attempts" (.ofNat 0)).packageReset customer = reset
  have hcontracted : Keeps finish self.evidence reset.evidence := by
    rw [← hreset]
    refine packageReset_keeps (keeps_set (Keeps.set_once (by decide) .refl hcustomer) (by decide) ?_)
    simp [Fixed, ONCE, FLAGS]
  have hauthorized : Keeps finish self.evidence
      (reset.setDoc "authorization" (upload.index "authorization")).evidence := by
    refine hcontracted.write (fun hobject hdocs => hdocs.set fun old _ hold => ?_) fun hobject =>
      Json.index_set_of_ne (by decide) hobject
    refine eq_of_not_any hauthorization ?_
    -- neither the contract nor a reset of the package touches the authorization
    rw [← hold, ← hreset]
    have hself : self.docs.isObject := hobject
    have hset : (self.docs.set "customer_package" (.bool customer)).isObject :=
      Json.isObject_set hself
    rw [packageReset_get (by decide) (by decide) (Json.isObject_set hset)]
    show _ = ((self.docs.set _ _).set _ _).get _
    rw [Json.get_set_of_ne (by decide) hset, Json.get_set_of_ne (by decide) hself]
  intro bound hbound
  have hkept := hauthorized.trans (bound_keeps bound hbound)
  exact ⟨fun _ => holds_renewable (by decide) hkept, fun _ => holds_save hkept⟩

theorem holds_consumeRenew : Holds finish self.evidence (self.consumeRenew crates value) := by
  unfold consumeRenew
  simp only [holds_bind, holds_ite, advanceRecovery_iff]
  refine fun reply _ op _ operation _ => ⟨fun _ => holds_error, fun _ rev hrev moved hmoved => ?_⟩
  refine holds_reply ((keeps_set .refl (by decide) (not_fixed (by decide))).trans
    (hmoved.keeps (number_lt hrev) ?_))
  rintro ⟨⟩

theorem packaged_keeps : Ends (self.packaged crates) fun out =>
    Keeps finish self.evidence out.evidence := by
  unfold packaged
  split
  · exact ends_error.mpr trivial
  · rw [ends_ite]
    refine ⟨fun _ => ends_error.mpr trivial, fun hsame => ends_ok.mpr ?_⟩
    exact Keeps.set_once (by decide) .refl hsame

theorem holds_consumeOpen : Holds finish self.evidence (self.consumeOpen crates value) := by
  unfold consumeOpen
  simp only [holds_bind, holds_ite, advanceRecovery_iff]
  refine fun opened _ _ _ => ⟨fun _ => holds_error, fun hsame => ?_⟩
  have hmanifest : Keeps finish self.evidence
      (({ self with manifest := opened.index "manifest" }).setDoc "manifest"
        (opened.index "manifest")).evidence := Keeps.set_once (by decide) .refl hsame
  refine ⟨fun _ packaged hpackaged => holds_save ?_, fun _ => ⟨fun _ => ⟨fun _ moved hmoved => ?_,
    fun _ => holds_save hmanifest⟩, fun _ => ⟨fun _ => holds_verifiedStatus hmanifest,
      fun _ => holds_save hmanifest⟩⟩⟩
  · exact hmanifest.trans (packaged_keeps packaged hpackaged)
  · exact holds_save (hmanifest.trans (hmoved.keeps trivial (by rintro ⟨⟩)))

theorem holds_consumePackageFinish :
    Holds finish self.evidence (self.consumePackageFinish crates value) := by
  unfold consumePackageFinish
  split
  · exact holds_error
  · simp only [holds_bind, holds_ite]
    exact fun trailer _ => ⟨fun _ => holds_error, fun hsame =>
      holds_save (Keeps.set_once (by decide) .refl hsame)⟩

theorem holds_consumePackagePut : Holds finish self.evidence (self.consumePackagePut crates) := by
  unfold consumePackagePut
  rw [holds_bind]
  refine fun index _ => holds_save (keeps_set (keeps_set .refl (by decide) ?_) (by decide) ?_)
  · simp [Fixed, ONCE, FLAGS]
  · simp [Fixed, ONCE, FLAGS]

theorem holds_consumePut : Holds finish self.evidence (self.consumePut crates) := by
  unfold consumePut
  rw [holds_bind]
  intro verifying hverifying
  have hkept : Keeps finish self.evidence verifying.evidence :=
    holds_advanceAt hverifying trivial (by rintro ⟨⟩)
  refine holds_save ?_
  split_ifs
  · exact keeps_set hkept (by decide) (not_fixed (by decide))
  · exact hkept

theorem holds_consumeReceipt : Holds finish self.evidence (self.consumeReceipt crates value) := by
  unfold consumeReceipt
  simp only [holds_bind, holds_ite]
  refine fun bytes _ => ⟨fun _ => holds_error, fun _ => ⟨fun _ => holds_error, fun hsame => ?_⟩⟩
  have hdigest : Keeps finish self.evidence (({ self with bytes }).setDoc "receipt_sha256"
      (.str (ByoCustomer.hex bytes))).evidence := Keeps.set_once (by decide) .refl hsame
  intro received hreceived
  exact holds_save (hdigest.trans (holds_advanceAt hreceived trivial (by rintro ⟨⟩)))

theorem holds_consumeStreamCheckpoint :
    Holds finish self.evidence (self.consumeStreamCheckpoint crates value) := by
  unfold consumeStreamCheckpoint atCheckpoint
  simp only [holds_bind, holds_ite]
  refine fun checkpoint _ => ⟨fun _ => holds_error, fun hsame machine hmachine => ?_⟩
  have hcontract : Keeps finish self.evidence (self.setDoc "customer_package" _).evidence :=
    Keeps.set_once (by decide) .refl hsame
  have hkept : Keeps finish self.evidence machine.evidence := by
    split_ifs at hmachine
    · obtain ⟨offset, -, hmachine⟩ := Checked.bind_eq_ok.mp hmachine
      split_ifs at hmachine
      cases hmachine
      exact hcontract
    · cases hmachine
      exact hcontract
  refine ⟨fun _ => holds_enter hkept, fun _ => ⟨fun _ => holds_enter hkept, fun _ => ?_⟩⟩
  exact holds_save (keeps_set hkept (by decide) (not_fixed (by decide)))

theorem holds_consumeStreamSnapshot :
    Holds finish self.evidence (self.consumeStreamSnapshot crates value now) := by
  unfold consumeStreamSnapshot
  simp only [holds_bind, holds_ite]
  refine ⟨fun _ => holds_error, fun _ facts _ _ _ length _ closed _ => ⟨fun _ => holds_error,
    fun _ overrun _ => ?_⟩⟩
  have hfallback : Keeps finish self.evidence (if overrun then
      { ({ self with facts }).setDoc "fallback" (.bool true) with fallback := true }
      else { self with facts }).evidence := by
    split_ifs
    · exact Keeps.refl.set_flag (by decide)
    · exact .refl
  exact ⟨fun _ => holds_enter hfallback, fun _ => ⟨fun _ => holds_enter hfallback, fun _ =>
    ⟨fun _ => holds_enter hfallback, fun _ => holds_enter hfallback⟩⟩⟩

theorem holds_consumeStreamStatus :
    Holds finish self.evidence (self.consumeStreamStatus crates value random) := by
  unfold consumeStreamStatus streamRenewal
  simp only [holds_bind, holds_ite]
  refine fun status _ => ⟨fun _ rev _ => holds_save ?_, fun _ => holds_streamHandoff .refl⟩
  split_ifs
  · exact .refl
  · exact keeps_set .refl (by decide) (not_fixed (by decide))

theorem holds_consumeAppend : Holds finish self.evidence (self.consumeAppend crates value now) := by
  unfold consumeAppend
  simp only [holds_ite]
  exact ⟨fun _ => holds_error, fun _ => ⟨fun _ => holds_enter .refl, fun _ =>
    ⟨fun _ => holds_enter .refl, fun _ => holds_enter .refl⟩⟩⟩

theorem holds_consumeCatalog : Holds finish self.evidence (self.consumeCatalog crates value now) := by
  unfold consumeCatalog
  simp only [holds_bind, holds_ite]
  exact fun _ _ _ _ _ _ => ⟨fun _ => holds_enter .refl, fun _ => ⟨fun _ => holds_error, fun _ =>
    ⟨fun _ => holds_enter .refl, fun _ => holds_enter .refl⟩⟩⟩

theorem holds_consumeSegmentGrant :
    Holds finish self.evidence (self.consumeSegmentGrant crates value) := by
  unfold consumeSegmentGrant
  simp only [holds_bind, holds_ite]
  exact fun _ _ => ⟨fun _ => holds_fallBack .refl, fun _ => ⟨fun _ => holds_segmentAccepted .refl,
    fun _ => ⟨fun _ => holds_fallBack .refl, fun _ => holds_enter .refl⟩⟩⟩

/-- The two stages that end a cleanup. -/
def Finishing (self : ByoMachine) : Prop :=
  self.stage = .confirm ∨ self.stage = .missingStatus

theorem holds_consumeConfirm : Holds True self.evidence (self.consumeConfirm crates) := by
  unfold consumeConfirm
  simp only [holds_bind, advanceRecovery_iff]
  exact fun _ hreply => holds_save (hreply.keeps trivial fun _ => trivial)

theorem holds_consumeMissingStatus :
    Holds True self.evidence (self.consumeMissingStatus crates value) := by
  unfold consumeMissingStatus
  simp only [holds_bind, holds_ite, advanceRecovery_iff]
  refine fun _ _ => ⟨fun _ => holds_error, fun _ inspected hinspected => ⟨fun _ => holds_error,
    fun _ reply hreply => holds_save ?_⟩⟩
  exact (hinspected.keeps trivial fun _ => trivial).trans (hreply.keeps trivial fun _ => trivial)

/-- The stages before the documents of a run are loaded, and the one that leads to a successor's. -/
def APART : List Stage :=
  [.capabilities, .discover, .inspectLive, .loaded, .successorLoaded, .liveSuccessor]

theorem holds_consumeOk (hapart : self.stage ∉ APART)
    (hcreate : self.stage = .createContext →
      ∀ old, self.docs.get "context" = some old → ¬old.isObject) :
    Holds self.Finishing self.evidence (self.consumeOk crates value now random) := by
  unfold consumeOk
  -- the stages that `hapart` excludes, then one lemma for each handler
  cases hs : self.stage with
  | capabilities | discover | inspectLive | loaded | successorLoaded | liveSuccessor =>
    simp [APART, hs] at hapart
  | confirm => simpa [Finishing, hs] using holds_consumeConfirm
  | missingStatus => simpa [Finishing, hs] using holds_consumeMissingStatus
  | refreshPeriodic => exact holds_resume .refl
  | saved => exact holds_resume .refl
  | selection => exact holds_consumeSelection
  | selectSource => exact holds_consumeSelectSource
  | createContext => exact holds_consumeCreateContext (hcreate hs)
  | prepare => exact holds_consumePrepare
  | renew => exact holds_consumeRenew
  | upload =>
    simp only [consumeUpload, holds_bind]
    exact fun _ _ _ _ => holds_enter .refl
  | «open» => exact holds_consumeOpen
  | download =>
    simp only [consumeDownload, holds_bind, holds_ite]
    exact fun _ _ => ⟨fun _ => holds_error, fun _ => holds_enter .refl⟩
  | append => exact holds_consumeAppend
  | packageAppend => simp [consumePackageAppend]
  | packageFinish => exact holds_consumePackageFinish
  | packageRange =>
    simp only [consumePackageRange, holds_bind, holds_ite]
    exact fun _ _ _ _ => ⟨fun _ => holds_error, fun _ => holds_enter .refl⟩
  | packageGrant =>
    simp only [consumePackageGrant, holds_bind]
    exact fun _ _ _ _ => holds_enter .refl
  | packageSegmentAppend => simp [consumePackageSegmentAppend]
  | packagePut => exact holds_consumePackagePut
  | packageWholeGrant =>
    simp only [consumePackageWholeGrant, holds_bind]
    exact fun _ _ _ _ => holds_enter .refl
  | put => exact holds_consumePut
  | complete => simp [consumeComplete, holds_verifiedStatus]
  | receipt => exact holds_consumeReceipt
  | catalog => exact holds_consumeCatalog
  | streamCheckpoint => exact holds_consumeStreamCheckpoint
  | socketOpen => exact holds_save (keeps_set .refl (by decide) (not_fixed (by decide)))
  | streamSnapshot => exact holds_consumeStreamSnapshot
  | liveRead =>
    simp only [consumeLiveRead, holds_bind, holds_ite]
    exact fun _ _ => ⟨fun _ => holds_error, fun _ => ⟨fun _ => holds_enter .refl,
      fun _ => holds_enter .refl⟩⟩
  | socketExchange => simp [consumeSocketExchange, holds_segmentAccepted, holds_fallBack]
  | segmentGrant => exact holds_consumeSegmentGrant
  | segmentAppend => simp [consumeSegmentAppend]
  | segmentConfirm => simp [consumeSegmentConfirm, holds_segmentAccepted, holds_fallBack]
  | socketClose => simp [consumeSocketClose]
  | streamStatus => exact holds_consumeStreamStatus
  | handoff => simp [consumeHandoff, holds_acceptSuccessor]
  | refreshInitial => exact holds_enter .refl
  | refreshOpen => exact holds_enter .refl
  | refreshReceipt => exact holds_enter .refl
  | _ => simp [consumeFileFinish]

theorem holds_receiptKept : Holds finish self.evidence (self.receiptKept crates) := by
  unfold receiptKept
  simp only [holds_bind, holds_ite, advanceRecovery_iff]
  refine fun hash _ persisted hpersisted reply hreply => ⟨fun _ => holds_error,
    fun _ => holds_save ?_⟩
  exact (holds_advanceAt hpersisted trivial (by rintro ⟨⟩)).trans
    (hreply.keeps trivial (by rintro ⟨⟩))

end Holds

end ByoMachine

end BotaSdk
