import BotaSdk.Engine.Runtime

/-!
# The history of a run

Requests are told apart by the identifiers under which they were issued; an answer counts for the
request it names.
-/

namespace BotaSdk.History

variable {W : Type}

/-- The requests of a call, under their identifiers. -/
def issues (effects : List EffectRequest) : List (RequestId × Effect) :=
  effects.map fun request => (request.requestId, request.effect)

@[simp] theorem issues_nil : issues [] = [] := rfl

@[simp] theorem issues_append (front back : List EffectRequest) :
    issues (front ++ back) = issues front ++ issues back :=
  List.map_append

/-- What a step in progress has requested, under the identifiers. -/
def issued {W : Type} (step : Step W) : List (RequestId × Effect) :=
  issues step.effects

section Step

variable (step : Step W) (f : W → W) (effect : Effect) (track : RequestId → W → W)

@[simp] theorem issued_update : issued (step.update f) = issued step := rfl
@[simp] theorem issued_request :
    issued (step.request effect track) = issued step ++ [(step.context.nextRequestId, effect)] := by
  rw [issued, Step.request, issues_append]
  rfl

@[simp] theorem issued_push (request : EffectRequest) :
    issued (step.push request) = issued step ++ [(request.requestId, request.effect)] := by
  rw [issued, Step.push, issues_append]
  rfl

end Step

/-- Every effect that is requested satisfies `P`. -/
def Emits (P : Effect → Prop) (effects : List EffectRequest) : Prop :=
  ∀ request ∈ effects, P request.effect

section Emits

variable {P : Effect → Prop} {front back : List EffectRequest} {step : Step W} {effect : Effect}
  {track : RequestId → W → W}

theorem emits_nil : Emits P [] :=
  fun _ h => absurd h List.not_mem_nil

theorem Emits.append (hfront : Emits P front) (hback : Emits P back) : Emits P (front ++ back) := by
  intro request hmem
  rcases List.mem_append.mp hmem with hmem | hmem
  · exact hfront request hmem
  · exact hback request hmem

theorem Emits.mono {Q : Effect → Prop} (h : Emits P front) (himp : ∀ effect, P effect → Q effect) :
    Emits Q front :=
  fun request hmem => himp _ (h request hmem)

theorem Emits.request (h : Emits P step.effects) (heffect : P effect) :
    Emits P (step.request effect track).effects := by
  refine h.append fun request hmem => ?_
  rw [List.mem_singleton.mp hmem]
  exact heffect

/-- What only changes the workflow requests nothing. -/
theorem Emits.update (h : Emits P step.effects) (f : W → W) : Emits P (step.update f).effects := h

theorem Emits.allocate (h : Emits P step.effects) : Emits P (step.allocate track).effects := h

theorem Emits.push {request : EffectRequest} (h : Emits P step.effects)
    (heffect : P request.effect) : Emits P (step.push request).effects := by
  refine h.append fun other hmem => ?_
  rw [List.mem_singleton.mp hmem]
  exact heffect

end Emits

/-- The entry's event was accepted. -/
def Accepted (entry : EngineEntry W) (event : HostEvent) : Prop :=
  entry.input = .host event ∧ ∃ effects, entry.output = .ok effects

/-- `effect` was issued as request `id`, at the start of the workflow or since. -/
def Issued (started : List EffectRequest) (effect : Effect) (trace : List (EngineEntry W))
    (id : RequestId) : Prop :=
  (id, effect) ∈ issues (started ++ emitted trace)

/-- An answer to a request asked for before it was accepted. -/
def Answered (Asked : List (EngineEntry W) → RequestId → Prop) (kind : HostEventKind)
    (trace : List (EngineEntry W)) : Prop :=
  ∃ before entry rest id, trace = before ++ entry :: rest ∧ Accepted entry ⟨id, kind⟩ ∧
    Asked before id

/-- Such an answer was accepted, and its step issued `effect` as request `id`. -/
def Followed (Asked : List (EngineEntry W) → RequestId → Prop) (kind : HostEventKind)
    (effect : Effect) (trace : List (EngineEntry W)) (id : RequestId) : Prop :=
  ∃ before entry rest answered, trace = before ++ entry :: rest ∧
    Accepted entry ⟨answered, kind⟩ ∧ Asked before answered ∧
    (id, effect) ∈ issues entry.output.effects

section History

variable {started : List EffectRequest} {trace : List (EngineEntry W)} {entry : EngineEntry W}
  {id answered : RequestId} {effect : Effect} {kind : HostEventKind}
  {Asked Asked' : List (EngineEntry W) → RequestId → Prop}

/-- The requests of a history that is one entry longer. -/
theorem issues_snoc (started : List EffectRequest) (trace : List (EngineEntry W))
    (entry : EngineEntry W) :
    issues (started ++ emitted (trace ++ [entry])) =
      issues (started ++ emitted trace) ++ issues entry.output.effects := by
  rw [emitted_append, emitted_singleton, ← List.append_assoc, issues_append]

theorem Issued.append (h : Issued started effect trace id) (rest : List (EngineEntry W)) :
    Issued started effect (trace ++ rest) id := by
  rw [Issued, emitted_append, ← List.append_assoc, issues_append]
  exact List.mem_append_left _ h

theorem Issued.last (h : (id, effect) ∈ issues entry.output.effects) (trace : List (EngineEntry W)) :
    Issued started effect (trace ++ [entry]) id := by
  rw [Issued, emitted_append, emitted_singleton, ← List.append_assoc, issues_append]
  exact List.mem_append_right _ h

theorem Issued.start (h : (id, effect) ∈ issues started) (trace : List (EngineEntry W)) :
    Issued started effect trace id := by
  rw [Issued, issues_append]
  exact List.mem_append_left _ h

theorem Answered.append (h : Answered Asked kind trace) (rest : List (EngineEntry W)) :
    Answered Asked kind (trace ++ rest) := by
  obtain ⟨before, entry, after, id, rfl, haccepted, hasked⟩ := h
  exact ⟨before, entry, after ++ rest, id, by simp, haccepted, hasked⟩

theorem Answered.last (haccepted : Accepted entry ⟨id, kind⟩) (hasked : Asked trace id) :
    Answered Asked kind (trace ++ [entry]) :=
  ⟨trace, entry, [], id, rfl, haccepted, hasked⟩

theorem Followed.append (h : Followed Asked kind effect trace id) (rest : List (EngineEntry W)) :
    Followed Asked kind effect (trace ++ rest) id := by
  obtain ⟨before, entry, after, answered, rfl, haccepted, hasked, hissues⟩ := h
  exact ⟨before, entry, after ++ rest, answered, by simp, haccepted, hasked, hissues⟩

theorem Followed.last (haccepted : Accepted entry ⟨answered, kind⟩) (hasked : Asked trace answered)
    (hissues : (id, effect) ∈ issues entry.output.effects) :
    Followed Asked kind effect (trace ++ [entry]) id :=
  ⟨trace, entry, [], answered, rfl, haccepted, hasked, hissues⟩

end History

end BotaSdk.History
