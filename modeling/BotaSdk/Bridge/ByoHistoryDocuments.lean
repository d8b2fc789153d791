import BotaSdk.Bridge.ByoHistory
import BotaSdk.Bridge.ByoMachineDetours
import BotaSdk.Lib.Sha256

/-!
# The stored documents of a history

Documents are stored under the keys of their identity.  A run is detached until it has loaded them;
from then on what it holds grows from what is stored.
-/

namespace BotaSdk

namespace ByoMachine

open Checked

/-! ## Keys -/

@[simp] theorem batchKey_inj {identityKey identityKey' : String} :
    batchKey identityKey = batchKey identityKey' ↔ identityKey = identityKey' := by
  unfold batchKey
  rw [← String.toList_inj]
  simp only [String.toList_append, List.append_cancel_right_eq, List.append_cancel_left_eq]
  exact String.toList_inj

@[simp] theorem streamKey_inj {identityKey identityKey' : String} :
    streamKey identityKey = streamKey identityKey' ↔ identityKey = identityKey' := by
  unfold streamKey
  rw [← String.toList_inj]
  simp only [String.toList_append, List.append_cancel_right_eq, List.append_cancel_left_eq]
  exact String.toList_inj

theorem batchKey_ne_streamKey {identityKey identityKey' : String} :
    batchKey identityKey ≠ streamKey identityKey' := by
  intro h
  have hlist := congrArg String.toList h
  simp [batchKey, streamKey, String.toList_append] at hlist

/-- The key is one of the two of its identity. -/
def KeyOf (identityKey key : String) : Prop :=
  key = batchKey identityKey ∨ key = streamKey identityKey

theorem KeyOf.unique {identityKey identityKey' key : String} (h : KeyOf identityKey key)
    (h' : KeyOf identityKey' key) : identityKey = identityKey' := by
  rcases h with rfl | rfl <;> rcases h' with h' | h'
  · exact batchKey_inj.mp h'
  · exact absurd h' batchKey_ne_streamKey
  · exact absurd h'.symm batchKey_ne_streamKey
  · exact streamKey_inj.mp h'

/-! ## Documents that were stored -/

/-- What is stored under a key names its identity and holds a recovery state that can be read. -/
structure Stored (key : String) (docs : Json) : Prop where
  identity : ∃ identityKey, KeyOf identityKey key ∧ docs.get "identity" = some (.str identityKey)
  coherent : ∃ recovery, Coherent docs recovery

/-- Documents of a completed upload are stored. -/
def Completed (store : String → Option Json) (key : String) : Prop :=
  ∃ docs recovery, store key = some docs ∧ Coherent docs recovery ∧ Complete recovery

theorem Coherent.set {docs value : Json} {recovery : Option ByoRecovery} {key : String}
    (h : Coherent docs recovery) (hkey : key ≠ "recovery") :
    Coherent (docs.set key value) recovery :=
  ⟨Json.isObject_set h.object, (Json.index_set_of_ne (Ne.symm hkey) h.object).trans h.written,
    h.small⟩

theorem coherent_empty : Coherent (.object []) none :=
  ⟨rfl, rfl, by rintro state ⟨⟩⟩

/-- The recovery state is read back as it was written. -/
theorem loadedRecovery_eq {self : ByoMachine} {recovery : Option ByoRecovery}
    (h : Coherent self.docs recovery) : self.loadedRecovery = .ok recovery := by
  have hwritten : (self.docs.get "recovery").getD .null = _ := h.written
  unfold loadedRecovery
  cases recovery with
  | none =>
    cases hget : self.docs.get "recovery" with
    | none => rfl
    | some value =>
      rw [hget, Option.getD_some] at hwritten
      rw [hwritten]
      rfl
  | some state =>
    cases hget : self.docs.get "recovery" with
    | none =>
      rw [hget] at hwritten
      cases hwritten
    | some value =>
      rw [hget, Option.getD_some] at hwritten
      have hstate : value = state.toJson := hwritten
      have hnull : value ≠ .null := by
        rw [hstate]
        rintro ⟨⟩
      rw [Option.filter_some, if_pos (by simpa using hnull)]
      simp only [hstate, ByoRecovery.ofJson_toJson (h.small state rfl)]

/-- What a load gives: the stored documents, or none. -/
theorem loadedDocs_ends {store : String → Option Json} {key : String} {value : Json}
    (hstored : ∀ docs, store key = some docs → Stored key docs)
    (hvalue : value = (store key).getD .null) :
    Ends (loadedDocs value) fun docs =>
      (∃ recovery, Coherent docs recovery ∧ (Complete recovery → Completed store key)) ∧
        ∀ stored, store key = some stored → stored = docs := by
  unfold loadedDocs
  cases hstore : store key with
  | none =>
    rw [hstore, Option.getD_none] at hvalue
    rw [if_pos hvalue, ends_ok]
    refine ⟨⟨none, coherent_empty, ?_⟩, ?_⟩
    · rintro ⟨state, ⟨⟩, -⟩
    · rintro stored ⟨⟩
  | some stored =>
    rw [hstore, Option.getD_some] at hvalue
    obtain ⟨recovery, hcoherent⟩ := (hstored stored hstore).coherent
    have hnull : value ≠ .null := by
      rintro rfl
      rw [← hvalue] at hcoherent
      cases hcoherent.object
    rw [if_neg hnull, ends_bind]
    refine fun _ _ => ends_ok.mpr ⟨⟨recovery, hvalue ▸ hcoherent, fun hcomplete => ?_⟩, ?_⟩
    · exact ⟨stored, recovery, hstore, hcoherent, hcomplete⟩
    · rintro _ ⟨⟩
      exact hvalue.symm

/-! ## Runs -/

/-- The stages at which a run holds no documents that it loaded. -/
def DETACHED : List Stage :=
  [.refreshInitial, .capabilities, .discover, .inspectLive, .loaded, .successorLoaded, .catalog,
    .catalogResult]

/-- Before the documents are loaded, or lost in a refresh that has itself expired. -/
def Detached (self : ByoMachine) : Prop :=
  self.stage ∈ DETACHED ∨
    (self.stage = .refreshPeriodic ∧ self.next ∈ (Stage.refreshPeriodic :: DETACHED).map .stage)

def LOADING : List Stage :=
  [.loaded, .successorLoaded]

/-- What holds of every run. -/
structure Begun (run : ByoMachine) : Prop where
  typed : run.evidence.Typed
  renew : run.renewAfter ∈ .text "" :: RENEWED
  keyed : ∀ stage ∈ LOADING, run.target = .stage stage → KeyOf run.identityKey run.loadKey

/-- What a run holds grows from what is stored under its key. -/
structure Anchored (store : String → Option Json) (a : Evidence) : Prop where
  keyed : KeyOf a.identityKey a.loadKey
  identity : a.docs.get "identity" = some (.str a.identityKey)
  grows : ∀ docs, store a.loadKey = some docs → Grows docs a.docs
  coherent : Coherent a.docs a.recovery

/-- A run that has loaded its documents. -/
structure Attached (store : String → Option Json) (run : ByoMachine) : Prop where
  anchored : Anchored store run.evidence
  create : run.target = .stage .createContext →
    ∀ old, run.docs.get "context" = some old → ¬old.isObject

/-- A run of a history with such a store. -/
structure Holding (store : String → Option Json) (run : ByoMachine) : Prop where
  begun : run.Begun
  attached : ¬run.Detached → run.Attached store

/-- A run without loaded documents. -/
def Unloaded (run : ByoMachine) : Prop :=
  run.Begun ∧ run.Detached

/-- A run that has just loaded its documents: it is complete only where they are. -/
def Loaded (store : String → Option Json) (run : ByoMachine) : Prop :=
  Holding store run ∧ (¬run.Detached → Complete run.recovery → Completed store run.loadKey)

theorem Unloaded.loaded {store : String → Option Json} {run : ByoMachine} (h : run.Unloaded) :
    Loaded store run :=
  ⟨⟨h.1, fun hdetached => absurd h.2 hdetached⟩, fun hdetached => absurd h.2 hdetached⟩

section Steps

variable {crates : Crates} {store : String → Option Json} {self : ByoMachine} {value : Json}
  {now : Nat} {random : String}

/-! ### Before the documents are loaded -/

theorem unloaded_enter {stage : Stage} (hstage : stage ∈ DETACHED) (hplain : stage ∉ LOADING)
    (ht : self.evidence.Typed) (hrenew : self.renewAfter ∈ .text "" :: RENEWED) :
    Ends (self.enter crates stage) fun out => out.1.Unloaded := by
  refine ends_issue fun action _ => ⟨⟨ht, hrenew, fun loading hloading htarget => ?_⟩,
    .inl hstage⟩
  have hne {other : Stage} (hother : other ∉ DETACHED) : stage ≠ other := by
    rintro rfl
    exact hother hstage
  rw [target_of_stage (hne (by decide)) (hne (by decide))] at htarget
  cases htarget
  exact absurd hloading hplain

theorem unloaded_startLoad {stream : Bool} (ht : self.evidence.Typed)
    (hrenew : self.renewAfter ∈ .text "" :: RENEWED) :
    Ends (self.startLoad crates stream) fun out => out.1.Unloaded := by
  unfold startLoad
  simp only [ends_bind]
  refine fun _ _ identity _ => ends_reply ⟨⟨ht, hrenew, fun _ _ _ => ?_⟩,
    .inl (by simp [DETACHED])⟩
  cases stream
  · exact .inl rfl
  · exact .inr rfl

theorem unloaded_expired (hdetached : self.Detached) (hbegun : self.Begun) :
    self.expired.Unloaded := by
  refine ⟨⟨hbegun.typed, hbegun.renew, fun loading hloading hexpired => ?_⟩,
    .inr ⟨rfl, ?_⟩⟩
  · rw [target_expired] at hexpired
    cases hexpired
    refine hbegun.keyed _ hloading ?_
    rw [target, if_neg]
    rintro (h | h) <;> rw [h] at hloading <;> exact absurd hloading (by decide)
  · refine List.mem_map_of_mem ?_
    rcases hdetached with hstage | ⟨hstage, -⟩
    · exact List.mem_cons_of_mem _ hstage
    · rw [hstage]
      exact List.mem_cons_self

theorem unloaded_consumeError {error : Json} (hdetached : self.Detached) (hbegun : self.Begun) :
    Ends (self.consumeError crates error random) fun out => out.1.Unloaded := by
  by_cases hinspect : self.stage = .inspectLive
  · unfold consumeError
    simp only [hinspect, reduceCtorEq, or_self, false_and, and_false, if_false, ends_ite, ends_error,
      implies_true, true_and]
    refine fun _ => ⟨fun _ => ends_issue fun _ _ => ?_, fun _ => ⟨fun _ => ?_, trivial⟩⟩
    · rw [← hinspect]
      exact unloaded_expired hdetached hbegun
    · exact unloaded_startLoad hbegun.typed hbegun.renew
  · have hrecover : recover self.stage = [] := by
      rcases hdetached with hstage | ⟨hstage, -⟩
      · simp only [DETACHED, List.mem_cons, List.not_mem_nil, or_false] at hstage
        rcases hstage with h | h | h | h | h | h | h | h
        all_goals first | exact absurd h hinspect | (rw [h]; rfl)
      · rw [hstage]
        rfl
    refine (ends_consumeError hrecover).imp fun out hout => ?_
    rw [hout.2]
    exact unloaded_expired hdetached hbegun

theorem unloaded_consumeDiscover (hrenew : self.renewAfter ∈ .text "" :: RENEWED)
    (ht : self.evidence.Typed) :
    Ends (self.consumeDiscover crates value) fun out => out.1.Unloaded := by
  unfold consumeDiscover
  simp only [ends_bind, ends_ite, ends_error, implies_true, true_and]
  refine fun facts _ closed _ _ uuid _ generation hgeneration _ => unloaded_startLoad ⟨ht.1, ?_⟩ hrenew
  rintro r ⟨⟩
  exact number_lt hgeneration

theorem unloaded_consumeCatalog (hrenew : self.renewAfter ∈ .text "" :: RENEWED)
    (ht : self.evidence.Typed) :
    Ends (self.consumeCatalog crates value now) fun out => out.1.Unloaded := by
  unfold consumeCatalog
  simp only [ends_bind, ends_ite, ends_error, implies_true, true_and]
  intro reply _ next _ catalog _
  refine ⟨fun _ => unloaded_enter (by decide) (by decide) ht hrenew, fun _ _ => ⟨fun _ => ?_,
    fun _ => unloaded_enter (by decide) (by decide) ht hrenew⟩⟩
  refine ends_issue fun _ _ => ⟨⟨ht, hrenew, fun loading hloading htarget => ?_⟩,
    .inr ⟨rfl, show Next.stage .catalog ∈ _ by decide⟩⟩
  cases htarget
  exact absurd hloading (by decide)

/-- What comes before the load. -/
theorem unloaded_early (hdetached : self.Detached) (hloading : self.stage ∉ LOADING)
    (hbegun : self.Begun) :
    Ends (self.consumeOk crates value now random) fun out => out.1.Unloaded := by
  have ht := hbegun.typed
  have hrenew := hbegun.renew
  rcases hdetached with hstage | ⟨hstage, hnext⟩
  · simp only [DETACHED, List.mem_cons, List.not_mem_nil, or_false] at hstage
    unfold consumeOk
    rcases hstage with hs | hs | hs | hs | hs | hs | hs | hs <;> rw [hs]
    · show Ends (self.consumeRefreshInitial crates now) _
      unfold consumeRefreshInitial
      split_ifs <;> exact unloaded_enter (by decide) (by decide) ht hrenew
    · show Ends (self.consumeCapabilities crates value) _
      unfold consumeCapabilities
      simp only [ends_bind, ends_ite]
      exact fun _ _ => ⟨fun _ => unloaded_enter (by decide) (by decide) ht hrenew, fun _ =>
        ⟨fun _ => unloaded_enter (by decide) (by decide) ht hrenew,
          fun _ => unloaded_startLoad ht hrenew⟩⟩
    · exact unloaded_consumeDiscover hrenew ht
    · show Ends (self.consumeInspectLive crates value) _
      unfold consumeInspectLive
      rw [ends_bind]
      exact fun _ _ => unloaded_startLoad ht hrenew
    · exact absurd (by rw [hs]; decide) hloading
    · exact absurd (by rw [hs]; decide) hloading
    · exact unloaded_consumeCatalog hrenew ht
    · exact ends_error.mpr trivial
  · rw [consumeOk, hstage]
    obtain ⟨stage, hmem, hnext⟩ := List.mem_map.mp hnext
    have hplan : stage ≠ .packagePlan := by
      rintro rfl
      exact absurd hmem (by decide)
    show Ends ((self.refreshed? now).resume crates self.next) _
    rw [← hnext]
    refine (ends_resume hplan).imp fun out hout => ?_
    rw [hout.2]
    have hwaiting : self.target = .stage stage := by
      rw [target, if_pos (.inr hstage), ← hnext]
    refine ⟨⟨ht, hrenew, fun loading hmem' htarget => ?_⟩, ?_⟩
    · refine hbegun.keyed loading hmem' (hwaiting.trans ?_)
      unfold target at htarget
      split_ifs at htarget with hw
      · exact hnext.trans htarget
      · exact htarget
    · rcases List.mem_cons.mp hmem with rfl | hmem
      · exact .inr ⟨rfl, show self.next ∈ _ from hnext ▸ by decide⟩
      · exact .inl hmem

/-! ### The load -/

theorem Anchored.keeps {finish : Prop} {a b : Evidence} (h : Anchored store a) (ht : a.Typed)
    (hkeeps : Evidence.Keeps finish a b) : Anchored store b := by
  have hdocs := hkeeps.docs h.coherent.object
  refine ⟨?_, ?_, fun docs hstore => ?_, hkeeps.coherent ht h.coherent⟩
  · rw [hkeeps.identity, hkeeps.key]
    exact h.keyed
  · rw [hkeeps.identity]
    exact hdocs.fixed _ _ (.inl (by decide)) h.identity
  · rw [hkeeps.key] at hstore
    exact (h.grows docs hstore).trans hdocs

theorem withDocs_evidence {docs : Json} : (self.withDocs docs).evidence =
    { self.evidence with docs := docs.set "identity" (.str self.identityKey) } := by
  unfold withDocs
  dsimp only
  split_ifs <;> rfl

theorem unloaded_beginBatchSuccessor {seed : Json} (ht : self.evidence.Typed)
    (hrenew : self.renewAfter ∈ .text "" :: RENEWED) :
    Ends (self.beginBatchSuccessor crates seed) fun out => out.1.Unloaded := by
  unfold beginBatchSuccessor
  simp only [ends_bind]
  exact fun _ _ _ _ _ _ => ends_reply ⟨⟨ht, hrenew, fun _ _ _ => .inl rfl⟩,
    .inl (by simp [DETACHED])⟩

/-- The loaded documents anchor the run. -/
theorem loaded_consumeLoaded (hstage : self.stage = .loaded) (hbegun : self.Begun)
    (hstored : ∀ docs, store self.loadKey = some docs → Stored self.loadKey docs)
    (hvalue : value = (store self.loadKey).getD .null) :
    Ends (self.consumeLoaded crates value) fun out => Loaded store out.1 := by
  have hkeyed : KeyOf self.identityKey self.loadKey := by
    refine hbegun.keyed .loaded (by decide) ?_
    rw [target_of_stage (by simp [hstage]) (by simp [hstage]), hstage]
  unfold consumeLoaded
  refine (loadedDocs_ends hstored hvalue).bind fun docs _ hdocs => ?_
  obtain ⟨⟨recovery, hcoherent, hcompleted⟩, hsame⟩ := hdocs
  rw [ends_ite]
  refine ⟨fun _ => ends_error.mpr trivial, fun hidentity => ?_⟩
  -- of the loaded machine only its evidence matters from here on
  have hevidence : (self.withDocs docs).evidence = _ := withDocs_evidence
  generalize self.withDocs docs = loaded at hevidence ⊢
  have hdocs : loaded.docs = docs.set "identity" (.str self.identityKey) :=
    congrArg Evidence.docs hevidence
  have hloadKey : loaded.loadKey = self.loadKey := congrArg Evidence.loadKey hevidence
  have hidentityKey : loaded.identityKey = self.identityKey :=
    congrArg Evidence.identityKey hevidence
  have hrenewAfter : loaded.renewAfter = self.renewAfter := congrArg Evidence.renewAfter hevidence
  have hcoherent' : Coherent loaded.docs recovery := by
    rw [hdocs]
    exact hcoherent.set (by decide)
  have ht : loaded.evidence.Typed := by
    rw [hevidence]
    exact hbegun.typed
  have hrenew : loaded.renewAfter ∈ .text "" :: RENEWED := by
    rw [hrenewAfter]
    exact hbegun.renew
  refine ends_bind.mpr fun read hread => ?_
  have hread : loaded.loadedRecovery = .ok read := hread
  rw [loadedRecovery_eq hcoherent'] at hread
  cases hread
  dsimp only
  split
  -- the upload of a stream went on as a batch: its documents are loaded next
  · simp only [ends_bind]
    refine fun _ _ => Ends.imp (P := fun out => out.1.Unloaded) ?_ fun _ h => h.loaded
    exact unloaded_beginBatchSuccessor ht hrenew
  · refine ends_issue fun action _ => ⟨⟨⟨ht, hrenew, ?_⟩, fun _ => ⟨⟨?_, ?_, ?_, hcoherent'⟩, ?_⟩⟩,
      fun _ hcomplete => ?_⟩
    · intro loading hloading htarget
      rw [target_of_stage (by rintro ⟨⟩) (by rintro ⟨⟩)] at htarget
      cases htarget
      exact absurd hloading (show Stage.selection ∉ LOADING by decide)
    · show KeyOf loaded.identityKey loaded.loadKey
      rw [hidentityKey, hloadKey]
      exact hkeyed
    · show loaded.docs.get "identity" = some (.str loaded.identityKey)
      rw [hdocs, hidentityKey]
      exact Json.get_set hcoherent.object
    · intro stored hstore
      have hstore : store loaded.loadKey = some stored := hstore
      rw [hloadKey] at hstore
      obtain rfl := hsame stored hstore
      show Grows stored loaded.docs
      rw [hdocs]
      exact (Grows.refl hcoherent.object).set_once hidentity
    · rintro ⟨⟩
    · show Completed store loaded.loadKey
      rw [hloadKey]
      exact hcompleted hcomplete

/-- The documents of a successor's own run anchor it. -/
theorem loaded_successorLoaded (hstage : self.stage = .successorLoaded) (hbegun : self.Begun)
    (hstored : ∀ docs, store self.loadKey = some docs → Stored self.loadKey docs)
    (hvalue : value = (store self.loadKey).getD .null) :
    Ends (self.successorLoaded crates value) fun out => Loaded store out.1 := by
  have hkeyed : KeyOf self.identityKey self.loadKey := by
    refine hbegun.keyed .successorLoaded (by decide) ?_
    rw [target_of_stage (by simp [hstage]) (by simp [hstage]), hstage]
  unfold successorLoaded
  refine (loadedDocs_ends hstored hvalue).bind fun docs _ hdocs => ?_
  obtain ⟨⟨recovery, hcoherent, hcompleted⟩, hsame⟩ := hdocs
  rw [ends_ite]
  refine ⟨fun _ => ends_error.mpr trivial, fun hcontext => ?_⟩
  -- the identity and the context are set to what they may have been set to before
  have hset : (docs.set "identity" (.str self.identityKey)).isObject :=
    Json.isObject_set hcoherent.object
  have hset' : ((docs.set "identity" (.str self.identityKey)).set "context"
      self.context).isObject := Json.isObject_set hset
  have hcoherent' : Coherent (self.withSuccessor docs).docs recovery :=
    ((hcoherent.set (by decide)).set (by decide)).set (by decide)
  refine ends_bind.mpr fun read hread => ?_
  have hread : (self.withSuccessor docs).loadedRecovery = .ok read := hread
  rw [loadedRecovery_eq hcoherent'] at hread
  cases hread
  have hanchored : Anchored store { self.withSuccessor docs with recovery }.evidence := by
    refine ⟨hkeyed, ?_, fun stored hstore => ?_, hcoherent'⟩
    · show (((docs.set "identity" (.str self.identityKey)).set "context" self.context).set
        "assembled" _).get "identity" = some (.str self.identityKey)
      rw [Json.get_set_of_ne (by decide) hset', Json.get_set_of_ne (by decide) hset,
        Json.get_set hcoherent.object]
    · obtain rfl := hsame stored hstore
      obtain ⟨identityKey, hkey, hidentity⟩ := (hstored stored hstore).identity
      have hsameKey := hkey.unique hkeyed
      refine (((Grows.refl hcoherent.object).set fun old _ hold => ?_).set fun old _ hold => ?_).set_free ?_
      · rw [hidentity] at hold
        cases hold
        rw [hsameKey]
      · rw [Json.get_set_of_ne (by decide) hcoherent.object] at hold
        exact eq_of_not_any hcontext hold
      · simp [Fixed, ONCE, FLAGS]
  have hcontextSet : (self.withSuccessor docs).docs.get "context" = some self.context := by
    show (((docs.set "identity" (.str self.identityKey)).set "context" self.context).set
      "assembled" _).get "context" = some self.context
    rw [Json.get_set_of_ne (by decide) hset', Json.get_set hset]
  have hkept : Holds False { self.withSuccessor docs with recovery }.evidence
      ({ self.withSuccessor docs with recovery }.contextReady crates) := by
    refine holds_contextReady (fun old hold _ => ?_) .refl
    rw [show (self.withSuccessor docs).docs.get "context" = some old from hold] at hcontextSet
    exact Option.some.inj hcontextSet
  refine (hkept.and (leads_contextReady (List.Subset.refl _))).imp fun out hkeepsOut => ?_
  obtain ⟨hkeeps, hmem⟩ := hkeepsOut
  have hout := hanchored.keeps hbegun.typed hkeeps
  refine ⟨⟨⟨hkeeps.typed hbegun.typed, ?_, fun _ _ _ => hout.keyed⟩,
    fun _ => ⟨hout, fun hcreate => ?_⟩⟩, fun _ hcomplete => ?_⟩
  · rcases hkeeps.renew with hsame | hrenewed
    · rw [show out.1.renewAfter = self.renewAfter from hsame]
      exact hbegun.renew
    · exact List.mem_cons_of_mem _ hrenewed
  · rw [hcreate] at hmem
    exact absurd hmem (by decide)
  · rw [show out.1.loadKey = self.loadKey from hkeeps.key]
    exact (hkeeps.complete hcomplete).elim hcompleted False.elim

/-! ### The rest of a run -/

/-- What an answer keeps once the documents are loaded. -/
theorem keeps_advance {event : Json} (hapart : self.stage ∉ APART)
    (hcreate : self.stage = .createContext →
      ∀ old, self.docs.get "context" = some old → ¬old.isObject) :
    Holds self.Finishing self.evidence (self.advance crates now random event) := by
  cases herror : event.get "error" with
  | some error =>
    refine ends_advance_error herror (holds_consumeError ?_ .refl)
    intro hinspect
    exact hapart (by rw [hinspect]; decide)
  | none =>
    refine ends_advance_ok herror (fun _ _ => holds_receiptKept) (fun hloaded => ?_)
      fun _ => holds_consumeOk hapart hcreate
    exact absurd (by rw [hloaded]; decide) hapart

/-- A context is asked for only where the documents hold none. -/
theorem create_consumeSelectSource :
    Ends (self.consumeSelectSource crates value) fun out =>
      out.1.target = .stage .createContext →
        ∀ old, out.1.docs.get "context" = some old → ¬old.isObject := by
  have hready (machine : ByoMachine) : Ends (machine.contextReady crates) fun out =>
      out.1.target = .stage .createContext →
        ∀ old, out.1.docs.get "context" = some old → ¬old.isObject := by
    refine (leads_contextReady (List.Subset.refl _)).imp fun out hmem htarget => ?_
    rw [htarget] at hmem
    exact absurd hmem (by decide)
  unfold consumeSelectSource sourceMissing
  simp only [ends_bind, ends_ite, ends_error, implies_true, true_and]
  refine fun facts _ => ⟨fun _ _ _ _ => ?_, fun _ source _ => ?_⟩
  · refine ends_issue fun action _ htarget => ?_
    rw [target_of_stage (by rintro ⟨⟩) (by rintro ⟨⟩)] at htarget
    cases htarget
  · split
    · exact hready _
    · rename_i hnone
      simp only [ends_bind, ends_ite, ends_error, implies_true, true_and]
      refine fun body _ _ => ends_reply fun _ old hold hobject => ?_
      have hold : (source.docs.set "create_request" body).get "context" = some old := hold
      have hget : source.docs.get "context" = some old := by
        by_cases hdocs : source.docs.isObject
        · rwa [Json.get_set_of_ne (by decide) hdocs] at hold
        · cases hsource : source.docs with
          | obj fields =>
            rw [hsource] at hdocs
            exact absurd rfl hdocs
          | null =>
            rw [hsource] at hold
            cases hold
          | _ =>
            rw [hsource] at hold
            cases hold
      rw [hget, Option.filter_some, if_pos hobject] at hnone
      cases hnone

theorem create_selectSource {event : Json} (hselect : self.stage = .selectSource) :
    Ends (self.advance crates now random event) fun out =>
      out.1.target = .stage .createContext →
        ∀ old, out.1.docs.get "context" = some old → ¬old.isObject := by
  cases herror : event.get "error" with
  | some error =>
    refine ends_advance_error herror ((ends_consumeError (by rw [hselect]; rfl)).imp ?_)
    intro out hout htarget
    rw [hout.2, target_expired] at htarget
    cases hselect.symm.trans (Next.stage.inj htarget)
  | none =>
    refine ends_advance_ok herror (fun hsaved _ => ?_) (fun hloaded => ?_) fun _ => ?_
    · cases hselect.symm.trans hsaved
    · cases hselect.symm.trans hloaded
    · rw [consumeOk, hselect]
      exact create_consumeSelectSource

theorem create_advance {event : Json} (hholding : Holding store self)
    (hdetached : ¬self.Detached) :
    Ends (self.advance crates now random event) fun out =>
      out.1.target = .stage .createContext →
        ∀ old, out.1.docs.get "context" = some old → ¬old.isObject := by
  have hattached := hholding.attached hdetached
  by_cases htarget : self.target = .stage .createContext
  · refine (still_advance (by decide) htarget).imp fun out hstill hout => ?_
    rw [(hstill hout).docs]
    exact hattached.create htarget
  · intro out hout hcreate
    have hmem : out.1.target ∈ self.reach := leads_advance out hout
    rw [hcreate] at hmem
    rcases came hmem (by decide) hholding.begun.renew with hsame | hmoved | ⟨-, -, h⟩
    · exact absurd hsame htarget
    · have hselect : self.stage = .selectSource := by
        revert hmoved
        cases self.stage <;> decide
      exact create_selectSource hselect out hout hcreate
    · cases h

/-- One answer to a run that has not loaded its documents. -/
theorem loaded_advance {action : Action} {event : Json}
    (hstored : ∀ key docs, store key = some docs → Stored key docs)
    (hemits : Emits crates self action) (hbegun : self.Begun) (hdetached : self.Detached)
    (hload : ∀ key live, action = .load key live → event.get "error" = none →
      event.index "ok" = (store key).getD .null) :
    Ends (self.advance crates now random event) fun out => Loaded store out.1 := by
  cases herror : event.get "error" with
  | some error =>
    exact ends_advance_error herror
      ((unloaded_consumeError hdetached hbegun).imp fun _ h => h.loaded)
  | none =>
    -- at the stages of a load the pending action is the load, so the host answers from the store
    have hvalue (hstage : self.stage ∈ LOADING) :
        event.index "ok" = (store self.loadKey).getD .null := by
      cases hemits with
      | issued haction =>
        unfold ByoMachine.action at haction
        simp only [LOADING, List.mem_cons, List.not_mem_nil, or_false] at hstage
        rcases hstage with hs | hs <;> rw [hs] at haction <;> cases haction
      | saving hs =>
        rw [hs] at hstage
        exact absurd hstage (by decide)
      | loading _ live => exact hload _ live rfl herror
      | refused hs code =>
        rw [hs] at hstage
        exact absurd hstage (by decide)
    refine ends_advance_ok herror (fun hsaved _ => ?_) (fun hloaded => ?_) fun _ => ?_
    · rcases hdetached with hstage | ⟨hstage, -⟩
      · rw [hsaved] at hstage
        exact absurd hstage (by decide)
      · cases hsaved.symm.trans hstage
    · exact loaded_successorLoaded hloaded hbegun (hstored _) (hvalue (by rw [hloaded]; decide))
    · by_cases hloading : self.stage ∈ LOADING
      · have hv := hvalue hloading
        simp only [LOADING, List.mem_cons, List.not_mem_nil, or_false] at hloading
        rcases hloading with hs | hs
        · rw [consumeOk, hs]
          exact loaded_consumeLoaded hs hbegun (hstored _) hv
        · rw [consumeOk, hs]
          exact ends_error.mpr trivial
      · exact (unloaded_early hdetached hloading hbegun).imp fun _ h => h.loaded

/-- What an answer keeps of a run that has loaded its documents. -/
theorem Holding.keeps {event : Json} (hholding : Holding store self) (hdetached : ¬self.Detached)
    (hlive : self.stage ≠ .liveSuccessor) :
    Holds self.Finishing self.evidence (self.advance crates now random event) := by
  refine keeps_advance (fun hmem => ?_) fun hs => (hholding.attached hdetached).create ?_
  · simp only [APART, List.mem_cons, List.not_mem_nil, or_false] at hmem
    rcases hmem with hs | hs | hs | hs | hs | hs
    all_goals first | exact hlive hs | exact hdetached (.inl (by rw [hs]; decide))
  · rw [target_of_stage (by simp [hs]) (by simp [hs]), hs]

/-- A run leaves for its successor, or for fresh credentials on the way. -/
theorem successor_advance {event : Json} (hholding : Holding store self)
    (hlive : self.stage = .liveSuccessor) :
    Ends (self.advance crates now random event) fun out =>
      out.1.Unloaded ∨ out.1 = self.expired := by
  cases herror : event.get "error" with
  | some error =>
    refine ends_advance_error herror ((ends_consumeError (by rw [hlive]; rfl)).imp ?_)
    intro out hout
    exact .inr (congrArg Prod.fst hout.2)
  | none =>
    refine ends_advance_ok herror (fun hsaved _ => ?_) (fun hloaded => ?_) fun _ => ?_
    · cases hlive.symm.trans hsaved
    · cases hlive.symm.trans hloaded
    · rw [consumeOk, hlive]
      exact (unloaded_beginBatchSuccessor hholding.begun.typed hholding.begun.renew).imp
        fun _ h => .inl h

/-- One answer to a run of a history. -/
theorem holding_advance {action : Action} {event : Json}
    (hstored : ∀ key docs, store key = some docs → Stored key docs)
    (hemits : Emits crates self action) (hholding : Holding store self)
    (hload : ∀ key live, action = .load key live → event.get "error" = none →
      event.index "ok" = (store key).getD .null) :
    Ends (self.advance crates now random event) fun out => Holding store out.1 := by
  have hbegun := hholding.begun
  -- either the documents are still to be loaded, or the run leaves them to its successor, or it
  -- keeps what it holds
  by_cases hdetached : self.Detached
  · exact (loaded_advance hstored hemits hbegun hdetached hload).imp fun _ h => h.1
  have hattached := hholding.attached hdetached
  by_cases hlive : self.stage = .liveSuccessor
  · refine (successor_advance hholding hlive).imp fun out hout => ?_
    rcases hout with hunloaded | hexpired
    · exact hunloaded.loaded.1
    · rw [hexpired]
      refine ⟨⟨hbegun.typed, hbegun.renew, fun _ _ _ => hattached.anchored.keyed⟩,
        fun _ => ⟨hattached.anchored, fun htarget => ?_⟩⟩
      rw [target_expired] at htarget
      cases hlive.symm.trans (Next.stage.inj htarget)
  · refine ((hholding.keeps hdetached hlive).and (create_advance hholding hdetached)).imp ?_
    intro out hout
    have hanchored := hattached.anchored.keeps hbegun.typed hout.1
    refine ⟨⟨hout.1.typed hbegun.typed, ?_, fun _ _ _ => hanchored.keyed⟩,
      fun _ => ⟨hanchored, hout.2⟩⟩
    rcases hout.1.renew with hsame | hrenewed
    · rw [show out.1.renewAfter = self.renewAfter from hsame]
      exact hbegun.renew
    · exact List.mem_cons_of_mem _ hrenewed

end Steps

/-! ## Histories -/

/-- The documents of a world are ones that a run stored, and its run holds what it should. -/
structure Kept (crates : Crates) (w : World) : Prop where
  stored : ∀ key docs, w.store key = some docs → Stored key docs
  emits : ∀ run action, w.current = some (run, action) → Emits crates run action
  holding : ∀ run action, w.current = some (run, action) → Holding w.store run

section Histories

variable {crates : Crates} {self : ByoMachine} {w : World}
  {tr : List (Machine.Entry World Input Unit)}

/-- The action of a stage is neither a save nor a load. -/
theorem action_ends : Ends (self.action crates) fun action =>
    (∀ key docs, action ≠ .save key docs) ∧ ∀ key live, action ≠ .load key live := by
  unfold action
  cases self.stage
  case put =>
    dsimp only
    split <;> simp
  all_goals simp

/-- A save is of the documents of the machine, which waits for it. -/
theorem emits_save {key : String} {docs : Json} (h : Emits crates self (.save key docs)) :
    self.stage = .saved ∧ key = self.loadKey ∧ docs = self.docs := by
  cases h with
  | issued haction => exact absurd rfl ((action_ends _ haction).1 key docs)
  | saving hstage => exact ⟨hstage, rfl, rfl⟩

theorem Stored.of_anchored {store : String → Option Json} (h : Anchored store self.evidence) :
    Stored self.loadKey self.docs :=
  ⟨⟨self.identityKey, h.keyed, h.identity⟩, self.recovery, h.coherent⟩

/-- A run that waits for a save has loaded its documents. -/
theorem Kept.anchored (hkept : Kept crates w) {key : String} {docs : Json}
    (hcurrent : w.current = some (self, .save key docs)) : Anchored w.store self.evidence := by
  obtain ⟨hstage, -, -⟩ := emits_save (hkept.emits _ _ hcurrent)
  refine ((hkept.holding _ _ hcurrent).attached ?_).anchored
  rintro (hdetached | ⟨hrefresh, -⟩)
  · rw [hstage] at hdetached
    exact absurd hdetached (by decide)
  · cases hstage.symm.trans hrefresh

theorem new_ends {input : ByoInput} {now : Nat} : Ends (new input now) fun self =>
    self.input = input ∧ self.recording = input.recording ∧ self.stage = .refreshInitial ∧
      self.renewAfter = .text "" := by
  unfold new
  simp only [ends_ite, ends_error, ends_bind, ends_ok, implies_true, and_self]

theorem start_ends {input : ByoInput} {now : Nat} :
    Ends (start crates input now) fun out =>
      Emits crates out.1 out.2 ∧ ∀ store, Holding store out.1 := by
  unfold start
  simp only [ends_ite, ends_error, implies_true, true_and, ends_bind]
  intro htyped self hself
  obtain ⟨hinput, hrecording, hstage, hrenew⟩ := new_ends self hself
  simp only [not_not, typed, Bool.and_eq_true, decide_eq_true_eq] at htyped
  refine Ends.and sends_issue (ends_issue fun action _ store => ⟨⟨⟨?_, ?_⟩, ?_, ?_⟩, ?_⟩)
  · show self.input.scope.bindingGeneration < 2 ^ 32
    rw [hinput]
    exact htyped.1
  · intro r hr
    have hr : self.recording = some r := hr
    have hall := htyped.2
    rw [hrecording] at hr
    rw [hr] at hall
    simpa using hall
  · show self.renewAfter ∈ _
    rw [hrenew]
    exact List.mem_cons_self
  · intro loading hloading htarget
    rw [target_asking, target_of_stage (by simp [hstage]) (by simp [hstage]), hstage] at htarget
    cases htarget
    exact absurd hloading (by decide)
  · exact fun hdetached => absurd (.inl (show self.stage ∈ _ from hstage ▸ by decide)) hdetached

theorem start_detached {input : ByoInput} {now : Nat} :
    Ends (start crates input now) fun out => out.1.Detached := by
  unfold start
  simp only [ends_ite, ends_error, implies_true, true_and, ends_bind]
  intro _ self hself
  refine ends_issue fun _ _ => .inl ?_
  show self.stage ∈ DETACHED
  rw [(new_ends self hself).2.2.1]
  decide

/-- One step keeps the invariant. -/
theorem kept_step (hkept : Kept crates w) {i : Input} (hhonest : World.Honest tr w i) :
    Kept crates (w.step crates i).1 := by
  have hcontinued {result : Reply} (hresult : Ends result fun out =>
      Emits crates out.1 out.2 ∧ Holding w.store out.1) : Kept crates (w.continued result) := by
    cases result with
    | error e => exact ⟨hkept.stored, by rintro run action ⟨⟩, by rintro run action ⟨⟩⟩
    | ok out =>
      refine ⟨hkept.stored, ?_, ?_⟩
      · rintro run action ⟨⟩
        exact (hresult _ rfl).1
      · rintro run action ⟨⟩
        exact (hresult _ rfl).2
  -- a reply is run or refused; only `keep` writes to the store
  cases i with
  | start input now => exact hcontinued (start_ends.imp fun out hout => ⟨hout.1, hout.2 w.store⟩)
  | keep =>
    show Kept crates w.kept
    unfold World.kept
    split
    · rename_i run key docs hcurrent
      obtain ⟨-, rfl, rfl⟩ := emits_save (hkept.emits _ _ hcurrent)
      have hanchored := hkept.anchored hcurrent
      refine ⟨fun key docs hstore => ?_, hkept.emits, fun other action hother => ?_⟩
      · have hstore : Function.update w.store run.loadKey (some run.docs) key = some docs := hstore
        by_cases hkey : key = run.loadKey
        · subst hkey
          rw [Function.update_self] at hstore
          cases hstore
          exact .of_anchored hanchored
        · rw [Function.update_of_ne hkey] at hstore
          exact hkept.stored key docs hstore
      · cases hcurrent.symm.trans hother
        have hholding := hkept.holding _ _ hcurrent
        refine ⟨hholding.begun, fun hdetached => ⟨⟨hanchored.keyed, hanchored.identity, ?_,
          hanchored.coherent⟩, (hholding.attached hdetached).create⟩⟩
        intro docs hstore
        have hstore : Function.update w.store run.loadKey (some run.docs) run.loadKey = some docs :=
          hstore
        rw [Function.update_self] at hstore
        cases hstore
        exact .refl hanchored.coherent.object
    · exact hkept
  | answer event now random =>
    show Kept crates (w.answered crates event now random)
    unfold World.answered
    split
    · rename_i run action hcurrent
      have hemits := hkept.emits _ _ hcurrent
      refine hcontinued (sends_advance.and (holding_advance hkept.stored hemits
        (hkept.holding _ _ hcurrent) ?_))
      rintro key live rfl herror
      have hagrees := hhonest _ hcurrent herror
      simpa [World.agrees] using hagrees
    · exact hkept

theorem kept_run (h : Machine.Run (World.step crates) World.Honest World.boot tr w) :
    Kept crates w :=
  h.invariant (fun _ w => Kept crates w)
    ⟨by rintro key docs ⟨⟩, by rintro run action ⟨⟩, by rintro run action ⟨⟩⟩
    fun _ _ _ _ hkept hhonest => kept_step hkept hhonest

/-- One step replaces documents only by ones that they grow to. -/
theorem grows_step (hkept : Kept crates w) {i : Input} {key : String} {docs : Json}
    (hstore : w.store key = some docs) :
    ∃ docs', (w.step crates i).1.store key = some docs' ∧ Grows docs docs' := by
  have hobject : docs.isObject := (hkept.stored key docs hstore).coherent.elim fun _ h => h.object
  have hcontinued (result : Reply) : (w.continued result).store = w.store := by
    cases result <;> rfl
  cases i with
  | start input now => exact ⟨docs, by rw [World.step, hcontinued, hstore], .refl hobject⟩
  | keep =>
    show ∃ docs', w.kept.store key = some docs' ∧ Grows docs docs'
    unfold World.kept
    split
    · rename_i run loadKey kept hcurrent
      obtain ⟨-, rfl, rfl⟩ := emits_save (hkept.emits _ _ hcurrent)
      by_cases hkey : key = run.loadKey
      · subst hkey
        exact ⟨run.docs, Function.update_self .., (hkept.anchored hcurrent).grows docs hstore⟩
      · exact ⟨docs, (Function.update_of_ne hkey ..).trans hstore, .refl hobject⟩
    · exact ⟨docs, hstore, .refl hobject⟩
  | answer event now random =>
    refine ⟨docs, ?_, .refl hobject⟩
    show (w.answered crates event now random).store key = some docs
    unfold World.answered
    split
    · rw [hcontinued, hstore]
    · exact hstore

/-- Whatever becomes of a run, stored documents keep their fixed members. -/
theorem documents_grow (h : Machine.Run (World.step crates) World.Honest World.boot tr w)
    {e : Machine.Entry World Input Unit} (he : e ∈ tr) {key : String} {docs : Json}
    (hstore : e.pre.store key = some docs) :
    ∃ docs', w.store key = some docs' ∧ Grows docs docs' := by
  induction h with
  | nil => cases he
  | @snoc tr s i hr hok ih =>
    have hkept := kept_run hr
    rcases List.mem_append.mp he with he | he
    · obtain ⟨middle, hmiddle, hgrows⟩ := ih he
      obtain ⟨docs', hstore', hgrows'⟩ := grows_step hkept hmiddle
      exact ⟨docs', hstore', hgrows.trans hgrows'⟩
    · obtain rfl := List.mem_singleton.mp he
      exact grows_step hkept hstore

end Histories

/-! ## A history -/

def sampleUuid : String := "11111111-1111-4111-8111-111111111111"

def sampleHash : String := "0123456789abcdef0123456789abcdef0123456789abcdef0123456789abcdef"

def sampleContext : Json :=
  .object [("organization_id", .str "org"), ("project_id", .str "project"),
    ("device_id", .str "device"), ("environment", .str "gamma"), ("binding_generation", .num 1),
    ("recording_uuid", .str sampleUuid), ("recording_generation", .num 1), ("channel", .str "ble"),
    ("upload_session_id", .str "22222222-2222-4222-8222-222222222222"),
    ("device_assignment_generation", .num 1), ("policy_revision", .str "1"),
    ("ciphertext_length", .num 293), ("ciphertext_sha256", .str sampleHash),
    ("recording_id", .str "recording"),
    ("configuration_id", .str "33333333-3333-4333-8333-333333333333"),
    ("configuration_revision", .num 1), ("destination_ref", .str "destination"),
    ("owner_revision", .num 1)]

def sampleFacts : Json :=
  .object [("recording_uuid", .str sampleUuid), ("recording_generation", .num 1),
    ("ciphertext_length", .num 293), ("ciphertext_sha256", .str sampleHash)]

def sampleData (value : Json) : Json :=
  .object [("data", value)]

def sampleEligible : Json :=
  sampleData (.object [("destination", .object [("kind", .str "customer")])])

def sampleStatus : Json :=
  .object [("receipt", .object [("kind", .str "receipt")])]

def samplePrepared : Json :=
  sampleData (.object [("authorization", .object [("configuration_sha256", .str sampleHash)]),
    ("status", sampleStatus)])

def sampleOpened : Json :=
  .object [("manifest", .object [])]

/-- The documents that the server and the device answer with. -/
def sampleDocuments : List Json :=
  [.object [], sampleEligible, sampleFacts, sampleData (.object [("context", sampleContext)]),
    samplePrepared, sampleOpened, sampleData sampleStatus]

/-- The texts and the digests of the history.  Its documents are all that is read, and nothing of it
is in base64. -/
def sampleCrates : Crates where
  sha256 bytes := (Sha256.digest bytes).1
  toVec := Json.compact
  fromSlice bytes := sampleDocuments.find? fun document => document.compact = bytes
  standardEncode _ := ""
  standardDecode _ := none
  urlSafeEncode _ := ""
  urlSafeDecode _ := none

def sampleInput : ByoInput where
  operationId := "byo-1"
  mode := "sync"
  device := .object [("connectionState", .str "connected"), ("serialNumber", .str "serial"),
    ("mtu", .num 247)]
  recording := some ⟨sampleUuid, 1⟩
  scope := ⟨"https://api.example", "scope", "org", "project", "gamma", "device", 1⟩

def sampleAnswer (value : Json) : Input :=
  .answer (.object [("ok", value)]) 0 sampleUuid

/-- An answer that carries the text of a document. -/
def sampleReply (value : Json) : Input :=
  sampleAnswer (.ofBytes (sampleCrates.toVec value))

/-- The documents are kept, and the save is acknowledged. -/
def sampleKeep : List Input :=
  [.keep, sampleAnswer .null]

/-- The documents of the source are stored. -/
def sampleBegun : List Input :=
  [.start sampleInput 0, sampleAnswer .null, sampleReply (.object []), sampleAnswer .null,
    sampleReply sampleEligible] ++ sampleKeep

/-- The upload goes on until the device is to confirm. -/
def sampleConfirmed : List Input :=
  [sampleReply sampleFacts] ++ sampleKeep ++
    [sampleReply (sampleData (.object [("context", sampleContext)]))] ++ sampleKeep ++
    [sampleReply samplePrepared] ++ sampleKeep ++
    [sampleReply samplePrepared, sampleAnswer .null, sampleReply sampleOpened] ++ sampleKeep ++
    [sampleReply (sampleData sampleStatus)] ++ sampleKeep ++
    [sampleAnswer .null, sampleAnswer (.ofBytes (List.replicate 32 7))] ++ sampleKeep ++ sampleKeep

/-- The source is deleted, and the completion is stored. -/
def sampleCleaned : List Input :=
  [sampleAnswer .null] ++ sampleKeep

def sampleRun : List (Machine.Entry World Input Unit) × World :=
  Machine.exec (World.step sampleCrates) [] World.boot
    (sampleBegun ++ sampleConfirmed ++ sampleCleaned)

def sampleIdentity : String :=
  "d437be4051f0a8e3174c4b837d3746189f269c6d9075e1af722f2a5c7262b043"

theorem sample_history :
    Machine.Allowed (World.step sampleCrates) World.Honest [] World.boot
        (sampleBegun ++ sampleConfirmed ++ sampleCleaned) ∧
      (∃ e ∈ sampleRun.1, (e.pre.store (batchKey sampleIdentity)).isSome) ∧
      (∃ e ∈ sampleRun.1, e.pre.current.map (·.2) =
        some (.ble BYO_BLE_CONFIRM (List.replicate 32 7))) ∧
      sampleRun.2.current.map (·.2) =
        some (.fileRemove ("byo/" ++ sampleIdentity ++ "/ciphertext")
          ("byo/" ++ sampleIdentity ++ "/segment")) := by
  decide +kernel

theorem sample_run :
    Machine.Run (World.step sampleCrates) World.Honest World.boot sampleRun.1 sampleRun.2 :=
  .exec sample_history.1

theorem documents_grow_sample :
    ∃ e ∈ sampleRun.1, ∃ docs docs', e.pre.store (batchKey sampleIdentity) = some docs ∧
      sampleRun.2.store (batchKey sampleIdentity) = some docs' ∧ Grows docs docs' := by
  obtain ⟨e, he, hsome⟩ := sample_history.2.1
  obtain ⟨docs, hstore⟩ := Option.isSome_iff_exists.mp hsome
  obtain ⟨docs', hstore', hgrows⟩ := documents_grow sample_run he hstore
  exact ⟨e, he, docs, docs', hstore, hstore', hgrows⟩

end ByoMachine

end BotaSdk
