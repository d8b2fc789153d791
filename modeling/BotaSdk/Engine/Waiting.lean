import BotaSdk.Engine.Runtime

/-!
# The requests a workflow waits for

`awaits w id` is a workflow's own notion of waiting for the answer to request `id`.  A reducer call
is grounded if every request it leaves waiting was waited for before or is among its effects.
-/

namespace BotaSdk

/-- The request is among those handed to the host. -/
def Requests (effects : List EffectRequest) (id : RequestId) : Prop :=
  ∃ request ∈ effects, request.requestId = id

section Requests

variable {front back effects : List EffectRequest} {id : RequestId}

theorem requests_append : Requests (front ++ back) id ↔ Requests front id ∨ Requests back id := by
  constructor
  · rintro ⟨request, hmem, hid⟩
    rcases List.mem_append.mp hmem with hmem | hmem
    · exact .inl ⟨request, hmem, hid⟩
    · exact .inr ⟨request, hmem, hid⟩
  · rintro (⟨request, hmem, hid⟩ | ⟨request, hmem, hid⟩)
    · exact ⟨request, List.mem_append_left _ hmem, hid⟩
    · exact ⟨request, List.mem_append_right _ hmem, hid⟩

end Requests

/-- What the call waits for was waited for by `w` or is requested by the call. -/
def Grounded {W : Type} (awaits : W → RequestId → Prop) (w : W) (step : Step W) : Prop :=
  ∀ id, awaits step.workflow id → awaits w id ∨ Requests step.effects id

section Grounded

variable {W : Type} {awaits : W → RequestId → Prop} {w : W} {step : Step W} {f : W → W}
  {effect : Effect} {track : RequestId → W → W}

theorem grounded_begin (w : W) (context : WorkflowContext) :
    Grounded awaits w (Step.begin w context) :=
  fun _ hawaits => .inl hawaits

/-- An update that waits for nothing new. -/
theorem Grounded.update (h : Grounded awaits w step)
    (hf : ∀ id, awaits (f step.workflow) id → awaits step.workflow id) :
    Grounded awaits w (step.update f) :=
  fun id hawaits => h id (hf id hawaits)

/-- A request that is at most waited for under its own identifier. -/
theorem Grounded.request (h : Grounded awaits w step)
    (htrack : ∀ id, awaits (track step.context.nextRequestId step.workflow) id →
      awaits step.workflow id ∨ id = step.context.nextRequestId) :
    Grounded awaits w (step.request effect track) := by
  intro id hawaits
  rcases htrack id hawaits with hbefore | rfl
  · rcases h id hbefore with hprior | hrequests
    · exact .inl hprior
    · exact .inr (requests_append.mpr (.inl hrequests))
  · refine .inr (requests_append.mpr (.inr ?_))
    exact ⟨_, List.mem_singleton_self _, rfl⟩

end Grounded

end BotaSdk
