import Mathlib.Logic.Function.Basic

/-!
# Independent slots

A machine with one slot a key, whose messages are addressed to a key and touch that slot alone.
A run over messages for many keys is the runs of each key over its own messages, so their
interleaving does not matter.
-/

namespace Keyed

variable {K S B : Type}

/-- One slot's run; `none` is a refusal. -/
def runSlot (receive : S → B → Option S) (slot : S) : List B → Option S
  | [] => some slot
  | body :: bodies => (receive slot body).bind fun slot => runSlot receive slot bodies

/-- The messages for one key, in order. -/
def project [DecidableEq K] (key : K) (messages : List (K × B)) : List B :=
  messages.filterMap fun message => if message.1 = key then some message.2 else none

def step [DecidableEq K] (receive : S → B → Option S) (slots : K → S) (message : K × B) :
    Option (K → S) :=
  (receive (slots message.1) message.2).map (Function.update slots message.1)

def run [DecidableEq K] (receive : S → B → Option S) (slots : K → S) :
    List (K × B) → Option (K → S)
  | [] => some slots
  | message :: messages =>
    (step receive slots message).bind fun slots => run receive slots messages

section Slot

variable {receive : S → B → Option S} {slot slot' : S} {body : B} {bodies rest : List B}

theorem runSlot_append : runSlot receive slot (bodies ++ rest)
    = (runSlot receive slot bodies).bind fun slot => runSlot receive slot rest := by
  induction bodies generalizing slot with
  | nil => rfl
  | cons body bodies ih =>
    show (receive slot body).bind _ = ((receive slot body).bind _).bind _
    cases receive slot body with
    | none => rfl
    | some slot => exact ih

/-- What every accepted message keeps holds after a run. -/
theorem runSlot_invariant {holds : List B → S → Prop} (hinit : holds [] slot)
    (hstep : ∀ bodies slot body slot', holds bodies slot → receive slot body = some slot' →
      holds (bodies ++ [body]) slot') (h : runSlot receive slot bodies = some slot') :
    holds bodies slot' := by
  have hgeneral : ∀ before slot, holds before slot → runSlot receive slot bodies = some slot' →
      holds (before ++ bodies) slot' := by
    clear hinit h
    induction bodies with
    | nil =>
      intro before slot hholds h
      obtain rfl := Option.some.inj h
      rwa [List.append_nil]
    | cons body bodies ih =>
      intro before slot hholds h
      obtain ⟨mid, hmid, hrest⟩ := Option.bind_eq_some_iff.mp h
      rw [List.append_cons]
      exact ih _ mid (hstep before slot body mid hholds hmid) hrest
  exact hgeneral [] slot hinit h

end Slot

section Run

variable [DecidableEq K] {receive : S → B → Option S} {slots slots' : K → S}
variable {messages rest : List (K × B)} {message : K × B} {key : K}

theorem project_cons_self (message : K × B) (messages : List (K × B)) : project message.1 (message :: messages)
    = message.2 :: project message.1 messages := by
  unfold project
  rw [List.filterMap_cons, if_pos rfl]

theorem project_cons_ne (h : message.1 ≠ key) :
    project key (message :: messages) = project key messages := by
  unfold project
  rw [List.filterMap_cons, if_neg h]

theorem run_append : run receive slots (messages ++ rest)
    = (run receive slots messages).bind fun slots => run receive slots rest := by
  induction messages generalizing slots with
  | nil => rfl
  | cons message messages ih =>
    show (step receive slots message).bind _ = ((step receive slots message).bind _).bind _
    cases step receive slots message with
    | none => rfl
    | some slots => exact ih

/-- A run succeeds exactly when each key's own run does, and leaves each key where its own run
leaves it. -/
theorem run_eq_some : run receive slots messages = some slots' ↔
    ∀ key, runSlot receive (slots key) (project key messages) = some (slots' key) := by
  induction messages generalizing slots with
  | nil =>
    show some slots = some slots' ↔ ∀ key, some (slots key) = some (slots' key)
    simp only [Option.some.injEq]
    exact funext_iff
  | cons message messages ih =>
    show (step receive slots message).bind _ = _ ↔ _
    constructor
    · intro h key
      obtain ⟨mid, hmid, hrest⟩ := Option.bind_eq_some_iff.mp h
      obtain ⟨slot, hslot, rfl⟩ := Option.map_eq_some_iff.mp hmid
      have hkey := ih.mp hrest key
      by_cases hself : message.1 = key
      · subst hself
        rw [Function.update_self] at hkey
        rw [project_cons_self]
        show (receive (slots message.1) message.2).bind _ = _
        rw [hslot]
        exact hkey
      · rw [Function.update_of_ne (Ne.symm hself)] at hkey
        rwa [project_cons_ne hself]
    · intro h
      have hhere := h message.1
      rw [project_cons_self] at hhere
      obtain ⟨slot, hslot, -⟩ := Option.bind_eq_some_iff.mp hhere
      have hstep : step receive slots message = some (Function.update slots message.1 slot) := by
        unfold step
        rw [hslot]
        rfl
      rw [hstep]
      refine ih.mpr fun key => ?_
      by_cases hself : message.1 = key
      · subst hself
        rw [Function.update_self]
        have hrest := h message.1
        rw [project_cons_self] at hrest
        unfold runSlot at hrest
        rwa [hslot] at hrest
      · rw [Function.update_of_ne (Ne.symm hself), ← project_cons_ne hself]
        exact h key

end Run

end Keyed
