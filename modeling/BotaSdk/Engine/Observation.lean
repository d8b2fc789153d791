import BotaSdk.Engine.History

/-!
# What a host sees of a run

The requests it is handed and the events it delivers, in their order; each event with whether the
engine took it.
-/

namespace BotaSdk

open History

inductive Observation where
  | issued (id : RequestId) (effect : Effect)
  | accepted (event : HostEvent)
  | rejected (event : HostEvent)
  deriving DecidableEq

/-- The requests of one call, as the host receives them. -/
def issuedBy (effects : List EffectRequest) : List Observation :=
  effects.map fun request => .issued request.requestId request.effect

/-- A delivered event, with the requests that its dispatch returned. -/
def delivered (event : HostEvent) (output : Outcome (List EffectRequest)) : List Observation :=
  (if output.isOk then .accepted event else .rejected event) :: issuedBy output.effects

def observeEntry {W : Type} (entry : EngineEntry W) : List Observation :=
  match entry.input with
  | .host event => delivered event entry.output
  | .cancelled _ => issuedBy entry.output.effects

/-- A run after the requests of its start. -/
def observe {W : Type} (started : List EffectRequest) (trace : List (EngineEntry W)) :
    List Observation :=
  issuedBy started ++ trace.flatMap observeEntry

section Observe

variable {W : Type} {started : List EffectRequest} {trace : List (EngineEntry W)}
  {event : HostEvent} {effects : List EffectRequest}

@[simp] theorem issuedBy_nil : issuedBy [] = [] := rfl

@[simp] theorem issuedBy_append (front back : List EffectRequest) :
    issuedBy (front ++ back) = issuedBy front ++ issuedBy back :=
  List.map_append

@[simp] theorem observe_nil : observe started ([] : List (EngineEntry W)) = issuedBy started := by
  rw [observe, List.flatMap_nil, List.append_nil]

@[simp] theorem observe_snoc (entry : EngineEntry W) :
    observe started (trace ++ [entry]) = observe started trace ++ observeEntry entry := by
  rw [observe, List.flatMap_append, List.flatMap_singleton, ← List.append_assoc]
  rfl

end Observe

/-! ## Chains of observations -/

/-- Nothing in `observations` breaks the chain. -/
def Quiet (Breaks : Observation → Prop) (observations : List Observation) : Prop :=
  ∀ observation ∈ observations, ¬Breaks observation

/-- `link` was observed after `P`, and nothing has broken the chain since. -/
def After (Breaks : Observation → Prop) (P : List Observation → Prop) (link : Observation)
    (observations : List Observation) : Prop :=
  ∃ before after, observations = before ++ link :: after ∧ P before ∧ Quiet Breaks after

section Chain

variable {Breaks : Observation → Prop} {P P' : List Observation → Prop} {link : Observation}
  {observations more : List Observation}

theorem Quiet.nil : Quiet Breaks [] :=
  fun _ h => absurd h List.not_mem_nil

theorem Quiet.cons {observation : Observation} (h : ¬Breaks observation)
    (hmore : Quiet Breaks more) : Quiet Breaks (observation :: more) := by
  intro other hmem
  rcases List.mem_cons.mp hmem with rfl | hmem
  · exact h
  · exact hmore other hmem

theorem Quiet.append {front back : List Observation} (hfront : Quiet Breaks front)
    (hback : Quiet Breaks back) : Quiet Breaks (front ++ back) := by
  intro observation hmem
  rcases List.mem_append.mp hmem with hmem | hmem
  · exact hfront observation hmem
  · exact hback observation hmem

/-- A chain lasts through observations that do not break it. -/
theorem After.append (h : After Breaks P link observations) (hmore : Quiet Breaks more) :
    After Breaks P link (observations ++ more) := by
  obtain ⟨before, after, rfl, hbefore, hafter⟩ := h
  refine ⟨before, after ++ more, ?_, hbefore, hafter.append hmore⟩
  rw [List.append_assoc, List.cons_append]

/-- The next link of a chain. -/
theorem After.next (h : P observations) (hmore : Quiet Breaks more) :
    After Breaks P link (observations ++ link :: more) :=
  ⟨observations, more, rfl, h, hmore⟩

end Chain

/-! ## Requests with a reason -/

/-- Every request was issued with reason `P`, that is, after observations that satisfy it. -/
def Justified (P : List Observation → Effect → Prop) (observations : List Observation) : Prop :=
  ∀ before id effect after, observations = before ++ .issued id effect :: after → P before effect

theorem Justified.append {P : List Observation → Effect → Prop}
    {observations more : List Observation} (h : Justified P observations)
    (hmore : ∀ before id effect after, more = before ++ .issued id effect :: after →
      P (observations ++ before) effect) : Justified P (observations ++ more) := by
  intro before id effect after hsplit
  rcases List.append_eq_append_iff.mp hsplit with ⟨extra, hbefore, htail⟩ | ⟨extra, hobs, htail⟩
  · rw [hbefore]
    exact hmore extra id effect after htail
  · cases extra with
    | nil =>
      rw [List.append_nil] at hobs
      have hfirst := hmore [] id effect after (by rw [List.nil_append] at htail ⊢; exact htail.symm)
      rwa [List.append_nil, hobs] at hfirst
    | cons head tail =>
      obtain ⟨rfl, -⟩ := List.cons.inj htail
      exact h before id effect tail hobs

theorem justified_nil {P : List Observation → Effect → Prop} : Justified P [] :=
  fun before _ _ _ hsplit => absurd hsplit.symm
    (List.append_ne_nil_of_right_ne_nil before (List.cons_ne_nil _ _))

theorem justified_append {P : List Observation → Effect → Prop}
    {observations more : List Observation} :
    Justified P (observations ++ more) ↔ Justified P observations ∧
      ∀ before id effect after, more = before ++ .issued id effect :: after →
        P (observations ++ before) effect := by
  refine ⟨fun h => ⟨fun before id effect after hsplit => ?_, fun before id effect after hsplit => ?_⟩,
    fun h => h.1.append h.2⟩
  · refine h before id effect (after ++ more) ?_
    rw [hsplit, List.append_assoc, List.cons_append]
  · refine h (observations ++ before) id effect after ?_
    rw [hsplit, List.append_assoc]

end BotaSdk
