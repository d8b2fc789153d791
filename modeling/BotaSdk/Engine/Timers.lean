import BotaSdk.Engine.Observation

/-!
# The timers of a host

A host keys its timers by their identifiers: it starts one when asked to, forgets it once it has fired
and drops every timer of an identifier when that is cancelled.
-/

namespace BotaSdk

open History

/-- The timer requests among `effects`, under their identifiers. -/
def timers (effects : List EffectRequest) : List (RequestId × TimerEffect) :=
  effects.filterMap fun request =>
    match request.effect with
    | .timer effect => some (request.requestId, effect)
    | _ => none

section Projections

variable {W : Type} (step : Step W) (f : W → W) (effect : Effect) (track : RequestId → W → W)
  (request : EffectRequest)

@[simp] theorem timers_nil : timers [] = [] := rfl

@[simp] theorem timers_append (front back : List EffectRequest) :
    timers (front ++ back) = timers front ++ timers back :=
  List.filterMap_append

@[simp] theorem timers_request :
    timers (step.request effect track).effects =
      timers step.effects ++
        match effect with
        | .timer effect => [(step.context.nextRequestId, effect)]
        | _ => [] := by
  rw [Step.request, timers_append]
  cases effect <;> rfl

@[simp] theorem timers_push :
    timers (step.push request).effects =
      timers step.effects ++
        match request.effect with
        | .timer effect => [(request.requestId, effect)]
        | _ => [] := by
  rw [Step.push, timers_append]
  cases h : request.effect <;> simp [timers, h]

end Projections

/-- The timers of a host after one timer request. -/
def tickEffect (pending : List (RequestId × Nat)) : RequestId × TimerEffect → List (RequestId × Nat)
  | (id, .schedule timerId _) => pending ++ [(id, timerId)]
  | (_, .cancel timerId) => pending.filter fun timer => timer.2 ≠ timerId

/-- The timers of a host after one observation; a timer has fired however its event is received. -/
def tick (pending : List (RequestId × Nat)) : Observation → List (RequestId × Nat)
  | .issued id (.timer effect) => tickEffect pending (id, effect)
  | .accepted ⟨id, .timerFired timerId⟩ | .rejected ⟨id, .timerFired timerId⟩ =>
    pending.filter fun timer => timer ≠ (id, timerId)
  | _ => pending

/-- The timers that are scheduled and have neither fired nor been cancelled, oldest first. -/
def pendingTimers (observations : List Observation) : List (RequestId × Nat) :=
  observations.foldl tick []

def runTimers (pending : List (RequestId × Nat)) (effects : List (RequestId × TimerEffect)) :
    List (RequestId × Nat) :=
  effects.foldl tickEffect pending

section Pending

variable {observations : List Observation} {pending : List (RequestId × Nat)}
  {effects : List EffectRequest} {event : HostEvent}

theorem pendingTimers_snoc (observation : Observation) :
    pendingTimers (observations ++ [observation]) = tick (pendingTimers observations) observation := by
  rw [pendingTimers, List.foldl_append]
  rfl

theorem foldl_tick_issuedBy :
    (issuedBy effects).foldl tick pending = runTimers pending (timers effects) := by
  induction effects generalizing pending with
  | nil => rfl
  | cons request effects ih =>
    have hcons : timers (request :: effects) = timers [request] ++ timers effects :=
      timers_append [request] effects
    rw [hcons, runTimers, List.foldl_append, ← runTimers, ← runTimers, ← ih]
    show (issuedBy effects).foldl tick (tick pending _) = _
    obtain ⟨id, operation, cancellationId, effect⟩ := request
    cases effect <;> rfl

theorem pendingTimers_issuedBy :
    pendingTimers (observations ++ issuedBy effects) =
      runTimers (pendingTimers observations) (timers effects) := by
  rw [pendingTimers, List.foldl_append, foldl_tick_issuedBy]
  rfl

theorem pendingTimers_accepted :
    pendingTimers (observations ++ .accepted event :: issuedBy effects) =
      runTimers (tick (pendingTimers observations) (.accepted event)) (timers effects) := by
  rw [List.append_cons, pendingTimers_issuedBy, pendingTimers_snoc]

@[simp] theorem runTimers_nil : runTimers pending [] = pending := rfl

@[simp] theorem runTimers_append (front back : List (RequestId × TimerEffect)) :
    runTimers pending (front ++ back) = runTimers (runTimers pending front) back :=
  List.foldl_append

@[simp] theorem runTimers_schedule (id : RequestId) (timerId delayMs : Nat) :
    runTimers pending [(id, .schedule timerId delayMs)] = pending ++ [(id, timerId)] := rfl

@[simp] theorem runTimers_cancel (id : RequestId) (timerId : Nat) :
    runTimers pending [(id, .cancel timerId)] =
      pending.filter fun timer => timer.2 ≠ timerId := rfl

@[simp] theorem tick_ble (id : RequestId) (event : BleEvent) :
    tick pending (.accepted ⟨id, .ble event⟩) = pending := rfl

/-- A rejected timer matters only if it was pending. -/
theorem tick_rejected (h : ∀ timerId, event.kind = .timerFired timerId →
    (event.requestId, timerId) ∉ pending) : tick pending (.rejected event) = pending := by
  obtain ⟨id, kind⟩ := event
  cases kind with
  | timerFired timerId =>
    refine List.filter_eq_self.mpr fun timer hmem => decide_eq_true fun heq => ?_
    subst heq
    exact h timerId rfl hmem
  | _ => rfl

end Pending

/-! ## Distinct identifiers -/

/-- No two of the timers share an identifier. -/
def Distinct (pending : List (RequestId × Nat)) : Prop :=
  (pending.map Prod.snd).Nodup

instance (pending : List (RequestId × Nat)) : Decidable (Distinct pending) :=
  inferInstanceAs (Decidable (List.Nodup _))

/-- No two timers share an identifier at any point of the observations. -/
def DistinctThroughout (observations : List Observation) : Prop :=
  ∀ before after, observations = before ++ after → Distinct (pendingTimers before)

/-- The same over the timer requests of one call. -/
def DistinctOver : List (RequestId × Nat) → List (RequestId × TimerEffect) → Prop
  | pending, [] => Distinct pending
  | pending, effect :: effects => Distinct pending ∧ DistinctOver (tickEffect pending effect) effects

/-- Only cancellations, of timers that satisfy `P`. -/
def CancelsOnly (P : Nat → Prop) (effects : List (RequestId × TimerEffect)) : Prop :=
  ∀ entry ∈ effects, ∃ timerId, entry.2 = .cancel timerId ∧ P timerId

section Distinct

variable {pending kept : List (RequestId × Nat)} {effects more : List (RequestId × TimerEffect)}
  {observations : List Observation} {P : Nat → Prop}

theorem distinct_nil : Distinct [] :=
  List.nodup_nil

theorem Distinct.filter (h : Distinct pending) (p : RequestId × Nat → Bool) :
    Distinct (pending.filter p) :=
  List.Nodup.sublist (List.Sublist.map Prod.snd List.filter_sublist) h

theorem Distinct.tick_accepted (h : Distinct pending) (event : HostEvent) :
    Distinct (tick pending (.accepted event)) := by
  obtain ⟨id, kind⟩ := event
  cases kind
  case timerFired timerId => exact h.filter _
  all_goals exact h

theorem Distinct.tick_rejected (h : Distinct pending) (event : HostEvent) :
    Distinct (tick pending (.rejected event)) := by
  obtain ⟨id, kind⟩ := event
  cases kind
  case timerFired timerId => exact h.filter _
  all_goals exact h

theorem DistinctOver.head (h : DistinctOver pending effects) : Distinct pending := by
  cases effects with
  | nil => exact h
  | cons effect effects => exact h.1

theorem DistinctOver.append (hfront : DistinctOver pending effects)
    (hback : DistinctOver (runTimers pending effects) more) :
    DistinctOver pending (effects ++ more) := by
  induction effects generalizing pending with
  | nil => exact hback
  | cons effect effects ih => exact ⟨hfront.1, ih hfront.2 hback⟩

theorem DistinctOver.last (h : DistinctOver pending effects) :
    Distinct (runTimers pending effects) := by
  induction effects generalizing pending with
  | nil => exact h
  | cons effect effects ih => exact ih h.2

theorem DistinctOver.schedule (h : DistinctOver pending effects) {id : RequestId}
    {timerId delayMs : Nat} (hfresh : ∀ timer ∈ runTimers pending effects, timer.2 ≠ timerId) :
    DistinctOver pending (effects ++ [(id, .schedule timerId delayMs)]) := by
  refine h.append ⟨h.last, ?_⟩
  show (List.map Prod.snd (runTimers pending effects ++ [(id, timerId)])).Nodup
  rw [List.map_append, List.nodup_append]
  refine ⟨h.last, by simp, fun used hused other hother => ?_⟩
  obtain ⟨timer, htimer, rfl⟩ := List.mem_map.mp hused
  rw [List.mem_singleton.mp hother]
  exact hfresh timer htimer

theorem cancelsOnly_nil : CancelsOnly P [] :=
  fun _ h => absurd h List.not_mem_nil

theorem CancelsOnly.append (hfront : CancelsOnly P effects) (hback : CancelsOnly P more) :
    CancelsOnly P (effects ++ more) := by
  intro entry hmem
  rcases List.mem_append.mp hmem with hmem | hmem
  · exact hfront entry hmem
  · exact hback entry hmem

theorem CancelsOnly.mono {Q : Nat → Prop} (h : CancelsOnly P effects)
    (himp : ∀ timerId, P timerId → Q timerId) : CancelsOnly Q effects := by
  intro entry hmem
  obtain ⟨timerId, hentry, htimer⟩ := h entry hmem
  exact ⟨timerId, hentry, himp timerId htimer⟩

theorem distinctOver_cancels (h : Distinct pending) (hcancels : CancelsOnly P effects) :
    DistinctOver pending effects := by
  induction effects generalizing pending with
  | nil => exact h
  | cons effect effects ih =>
    obtain ⟨timerId, heffect, -⟩ := hcancels effect List.mem_cons_self
    refine ⟨h, ih ?_ fun entry hmem => hcancels entry (List.mem_cons_of_mem effect hmem)⟩
    obtain ⟨id, kind⟩ := effect
    obtain rfl : kind = .cancel timerId := heffect
    exact h.filter _

theorem DistinctOver.cancels (h : DistinctOver pending effects) (hcancels : CancelsOnly P more) :
    DistinctOver pending (effects ++ more) :=
  h.append (distinctOver_cancels h.last hcancels)

/-- Cancellations start nothing. -/
theorem CancelsOnly.subset (h : CancelsOnly P effects) :
    ∀ timer ∈ runTimers pending effects, timer ∈ pending := by
  induction effects generalizing pending with
  | nil => exact fun _ hmem => hmem
  | cons effect effects ih =>
    obtain ⟨timerId, heffect, -⟩ := h effect List.mem_cons_self
    obtain ⟨id, kind⟩ := effect
    obtain rfl : kind = .cancel timerId := heffect
    intro timer hmem
    exact List.mem_of_mem_filter
      (ih (fun entry hentry => h entry (List.mem_cons_of_mem _ hentry)) timer hmem)

theorem tick_subset {event : HostEvent} :
    ∀ timer ∈ tick pending (.accepted event), timer ∈ pending := by
  obtain ⟨id, kind⟩ := event
  cases kind
  case timerFired timerId => exact fun _ hmem => List.mem_of_mem_filter hmem
  all_goals exact fun _ hmem => hmem

/-- A timer that fired matters only if it was pending. -/
theorem tick_accepted_of_not_mem {event : HostEvent} (h : ∀ timerId,
    event.kind = .timerFired timerId → (event.requestId, timerId) ∉ pending) :
    tick pending (.accepted event) = pending := by
  refine Eq.trans ?_ (tick_rejected h)
  obtain ⟨id, kind⟩ := event
  cases kind <;> rfl

/-- Timers that no request cancels stay in front. -/
theorem runTimers_kept (h : ∀ entry ∈ effects, ∀ timerId, entry.2 = .cancel timerId →
    ∀ timer ∈ kept, timer.2 ≠ timerId) :
    runTimers (kept ++ pending) effects = kept ++ runTimers pending effects := by
  induction effects generalizing pending with
  | nil => rfl
  | cons effect effects ih =>
    have hmore := fun entry hmem => h entry (List.mem_cons_of_mem effect hmem)
    have heffect : tickEffect (kept ++ pending) effect = kept ++ tickEffect pending effect := by
      obtain ⟨id, kind⟩ := effect
      cases kind with
      | schedule timerId delayMs => exact List.append_assoc ..
      | cancel timerId =>
        have hkept : kept.filter (fun timer => timer.2 ≠ timerId) = kept :=
          List.filter_eq_self.mpr fun timer hmem =>
            decide_eq_true (h (id, .cancel timerId) List.mem_cons_self timerId rfl timer hmem)
        show (kept ++ pending).filter _ = _
        rw [List.filter_append, hkept]
        rfl
    show runTimers (tickEffect (kept ++ pending) effect) effects = _
    rw [heffect, ih hmore]
    rfl

theorem distinctThroughout_nil : DistinctThroughout [] := by
  intro before after hsplit
  rw [(List.append_eq_nil_iff.mp hsplit.symm).1]
  exact distinct_nil

theorem DistinctThroughout.snoc (h : DistinctThroughout observations) {observation : Observation}
    (hlast : Distinct (tick (pendingTimers observations) observation)) :
    DistinctThroughout (observations ++ [observation]) := by
  intro before after hsplit
  rcases List.eq_nil_or_concat after with rfl | ⟨front, last, rfl⟩
  · rw [List.append_nil] at hsplit
    rw [← hsplit, pendingTimers_snoc]
    exact hlast
  · rw [List.concat_eq_append, ← List.append_assoc] at hsplit
    exact h before front (List.append_inj' hsplit rfl).1

theorem DistinctThroughout.last (h : DistinctThroughout observations) :
    Distinct (pendingTimers observations) :=
  h observations [] (List.append_nil _).symm

theorem DistinctThroughout.issued {requests : List EffectRequest}
    (h : DistinctThroughout observations)
    (hover : DistinctOver (pendingTimers observations) (timers requests)) :
    DistinctThroughout (observations ++ issuedBy requests) := by
  induction requests generalizing observations with
  | nil => rwa [issuedBy_nil, List.append_nil]
  | cons request requests ih =>
    have hsplit : observations ++ issuedBy (request :: requests) =
        observations ++ [.issued request.requestId request.effect] ++ issuedBy requests := by
      rw [List.append_assoc]
      rfl
    have hcons : timers (request :: requests) = timers [request] ++ timers requests :=
      timers_append [request] requests
    rw [hsplit]
    have hhead := hover.head
    cases heffect : request.effect
    case timer effect =>
      have hone : timers [request] = [(request.requestId, effect)] := by simp [timers, heffect]
      rw [hcons, hone] at hover
      refine ih (h.snoc hover.2.head) ?_
      rw [pendingTimers_snoc]
      exact hover.2
    all_goals
      have hone : timers [request] = [] := by simp [timers, heffect]
      rw [hcons, hone, List.nil_append] at hover
      refine ih (h.snoc hhead) ?_
      rw [pendingTimers_snoc]
      exact hover

end Distinct

/-! ## Dead ends -/

section Answers

variable {W : Type} [WorkflowReducer W]

/-- The engine takes the event. -/
def Accepts (engine : WorkflowEngine W) (event : HostEvent) : Prop :=
  ∃ effects, (engine.dispatch (.host event)).2 = .ok effects

/-- What a request is made of, and so which event reports its failure. -/
inductive RequestClass where
  | ble
  | persistence
  deriving DecidableEq

def RequestClass.failure (platformCode : Option Int) : RequestClass → HostEventKind
  | .ble => .ble (.failed platformCode)
  | .persistence => .persistenceFailed platformCode

/-- The run goes on if the request fails, or else once a pending timer fires. -/
def Answerable (observations : List Observation) (engine : WorkflowEngine W) (id : RequestId)
    (request : RequestClass) : Prop :=
  (∀ platformCode, Accepts engine ⟨id, request.failure platformCode⟩) ∨
    ∃ timer ∈ pendingTimers observations, Accepts engine ⟨timer.1, .timerFired timer.2⟩

theorem accepts_of_dispatch {engine : WorkflowEngine W} {w : W} {event : HostEvent} {call : Step W}
    (hactive : engine.active = some w)
    (hcall : WorkflowReducer.dispatch w event (engine.context w) = .ok call)
    (hstatus : WorkflowReducer.terminalStatus call.workflow = .ok none ∨
      ∃ status, WorkflowReducer.terminalStatus call.workflow = .ok (some status)) :
    Accepts engine event := by
  refine ⟨call.effects, ?_⟩
  rw [dispatch_active hactive, hcall]
  rcases hstatus with hrunning | ⟨status, hended⟩
  · rw [settle_running rfl hrunning]
  · rw [settle_ended rfl hended]

theorem not_accepts {engine : WorkflowEngine W} {w w' : W} {context : WorkflowContext}
    {event : HostEvent} {error : DeviceSdkError} (hactive : engine.active = some w)
    (hreject : WorkflowReducer.dispatch w event (engine.context w) = .err w' context error) :
    ¬Accepts engine event := by
  rintro ⟨effects, hok⟩
  rw [dispatch_active hactive, hreject, settle_err rfl] at hok
  exact nomatch hok

end Answers

end BotaSdk
