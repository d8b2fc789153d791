import Mathlib.Data.List.Basic

/-!
# Runs of a deterministic machine

A machine is its step function.  A run records, for every step, the state before it, the input
taken and the output produced.  `ok` is what the environment promises about the next input, given
the history and the state; a machine in an arbitrary environment takes `ok := fun _ _ _ => True`.
-/

namespace Machine

universe u v w

/-- One step of a run. -/
structure Entry (σ : Type u) (ι : Type v) (ω : Type w) where
  pre : σ
  input : ι
  output : ω

variable {σ : Type u} {ι : Type v} {ω : Type w}

/-- Runs from `s₀`, the newest step last. -/
inductive Run (step : σ → ι → σ × ω) (ok : List (Entry σ ι ω) → σ → ι → Prop) (s₀ : σ) :
    List (Entry σ ι ω) → σ → Prop
  | nil : Run step ok s₀ [] s₀
  | snoc {tr : List (Entry σ ι ω)} {s : σ} (i : ι) :
      Run step ok s₀ tr s → ok tr s i →
      Run step ok s₀ (tr ++ [⟨s, i, (step s i).2⟩]) (step s i).1

section Rules

variable {step : σ → ι → σ × ω} {ok ok' : List (Entry σ ι ω) → σ → ι → Prop} {s₀ s : σ}
  {tr : List (Entry σ ι ω)}

/-- The invariant rule: what holds at the start and is kept by every step holds after every run. -/
theorem Run.invariant (I : List (Entry σ ι ω) → σ → Prop) (init : I [] s₀)
    (keep : ∀ tr s i, Run step ok s₀ tr s → I tr s → ok tr s i →
      I (tr ++ [⟨s, i, (step s i).2⟩]) (step s i).1)
    (h : Run step ok s₀ tr s) : I tr s := by
  induction h with
  | nil => exact init
  | snoc i hr hok ih => exact keep _ _ i hr ih hok

/-- Every entry of a run was taken in the state its prefix reached. -/
theorem Run.split {before after : List (Entry σ ι ω)} {e : Entry σ ι ω}
    (h : Run step ok s₀ tr s) (heq : tr = before ++ e :: after) :
    Run step ok s₀ before e.pre ∧ ok before e.pre e.input ∧
      e.output = (step e.pre e.input).2 ∧
      Run step ok s₀ (before ++ [e]) (step e.pre e.input).1 := by
  induction h generalizing after with
  | nil => simp at heq
  | @snoc tr s i hr hok ih =>
    rcases List.eq_nil_or_concat after with rfl | ⟨after, last, rfl⟩
    · obtain ⟨rfl, he⟩ := List.append_inj' heq rfl
      simp only [List.cons.injEq, and_true] at he
      subst he
      exact ⟨hr, hok, rfl, .snoc i hr hok⟩
    · have heq' : tr ++ [⟨s, i, (step s i).2⟩] = (before ++ e :: after) ++ [last] := by
        rw [heq]
        simp
      exact ih (List.append_inj' heq' rfl).1

theorem Run.mem {e : Entry σ ι ω} (h : Run step ok s₀ tr s) (he : e ∈ tr) :
    ∃ before after, tr = before ++ e :: after ∧ Run step ok s₀ before e.pre ∧
      ok before e.pre e.input ∧ e.output = (step e.pre e.input).2 := by
  obtain ⟨before, after, heq⟩ := List.append_of_mem he
  obtain ⟨hr, hok, hout, -⟩ := h.split heq
  exact ⟨before, after, heq, hr, hok, hout⟩

/-- Once a step has entered a condition that lasts, every later step is taken under it. -/
theorem Run.lasting {P : σ → Prop} (hlast : ∀ s i, P s → P (step s i).1)
    {before after : List (Entry σ ι ω)} {e : Entry σ ι ω} (h : Run step ok s₀ tr s)
    (heq : tr = before ++ e :: after) (he : P (step e.pre e.input).1) :
    P s ∧ ∀ later ∈ after, P later.pre ∧ later.output = (step later.pre later.input).2 := by
  induction h generalizing after with
  | nil => simp at heq
  | @snoc tr s i hr _ ih =>
    rcases List.eq_nil_or_concat after with rfl | ⟨after, last, rfl⟩
    · obtain ⟨-, hlastEntry⟩ := List.append_inj' heq rfl
      obtain rfl := (List.cons.inj hlastEntry).1
      exact ⟨he, nofun⟩
    · have heq' : tr ++ [⟨s, i, (step s i).2⟩] = (before ++ e :: after) ++ [last] := by
        rw [heq]
        simp
      obtain ⟨htr, hentry⟩ := List.append_inj' heq' rfl
      obtain rfl := (List.cons.inj hentry).1
      obtain ⟨hs, hlater⟩ := ih htr
      refine ⟨hlast s i hs, fun later hmem => ?_⟩
      rw [List.concat_eq_append] at hmem
      rcases List.mem_append.mp hmem with hmem | hmem
      · exact hlater later hmem
      · obtain rfl := List.mem_singleton.mp hmem
        exact ⟨hs, rfl⟩

end Rules

/-! ## Running a list of inputs -/

/-- The run over a list of inputs, continuing the history `tr`. -/
def exec (step : σ → ι → σ × ω) : List (Entry σ ι ω) → σ → List ι → List (Entry σ ι ω) × σ
  | tr, s, [] => (tr, s)
  | tr, s, i :: is => exec step (tr ++ [⟨s, i, (step s i).2⟩]) (step s i).1 is

/-- The environment's promise at every input of a list. -/
def Allowed (step : σ → ι → σ × ω) (ok : List (Entry σ ι ω) → σ → ι → Prop) :
    List (Entry σ ι ω) → σ → List ι → Prop
  | _, _, [] => True
  | tr, s, i :: is =>
    ok tr s i ∧ Allowed step ok (tr ++ [⟨s, i, (step s i).2⟩]) (step s i).1 is

instance decidableAllowed {step : σ → ι → σ × ω} {ok : List (Entry σ ι ω) → σ → ι → Prop}
    [∀ tr s i, Decidable (ok tr s i)] :
    (tr : List (Entry σ ι ω)) → (s : σ) → (is : List ι) → Decidable (Allowed step ok tr s is)
  | _, _, [] => .isTrue trivial
  | tr, s, i :: is =>
    have : Decidable (Allowed step ok (tr ++ [⟨s, i, (step s i).2⟩]) (step s i).1 is) :=
      decidableAllowed _ _ is
    inferInstanceAs (Decidable (_ ∧ _))

section Exec

variable {step : σ → ι → σ × ω} {ok : List (Entry σ ι ω) → σ → ι → Prop} {s₀ : σ}

theorem Run.exec_append {tr : List (Entry σ ι ω)} {s : σ} {is : List ι}
    (h : Run step ok s₀ tr s) (hok : Allowed step ok tr s is) :
    Run step ok s₀ (exec step tr s is).1 (exec step tr s is).2 := by
  induction is generalizing tr s with
  | nil => exact h
  | cons i is ih => exact ih (.snoc i h hok.1) hok.2

theorem Run.exec {is : List ι} (hok : Allowed step ok [] s₀ is) :
    Run step ok s₀ (exec step [] s₀ is).1 (exec step [] s₀ is).2 :=
  Run.exec_append .nil hok

theorem Allowed.append {is js : List ι} {tr : List (Entry σ ι ω)} {s : σ}
    (hfront : Allowed step ok tr s is)
    (hback : Allowed step ok (exec step tr s is).1 (exec step tr s is).2 js) :
    Allowed step ok tr s (is ++ js) := by
  induction is generalizing tr s with
  | nil => exact hback
  | cons i is ih => exact ⟨hfront.1, ih hfront.2 hback⟩

theorem exec_concat (tr : List (Entry σ ι ω)) (s : σ) (is : List ι) (i : ι) :
    exec step tr s (is ++ [i]) =
      let r := exec step tr s is
      (r.1 ++ [⟨r.2, i, (step r.2 i).2⟩], (step r.2 i).1) := by
  induction is generalizing tr s with
  | nil => rfl
  | cons j is ih => exact ih _ _

theorem exec_append (tr : List (Entry σ ι ω)) (s : σ) (is js : List ι) :
    exec step tr s (is ++ js) = exec step (exec step tr s is).1 (exec step tr s is).2 js := by
  induction is generalizing tr s with
  | nil => rfl
  | cons i is ih => exact ih _ _

theorem allowed_of_forall {is : List ι} (h : ∀ i ∈ is, ∀ tr s, ok tr s i)
    (tr : List (Entry σ ι ω)) (s : σ) : Allowed step ok tr s is := by
  induction is generalizing tr s with
  | nil => trivial
  | cons i is ih =>
    exact ⟨h i List.mem_cons_self tr s, ih (fun j hj => h j (List.mem_cons_of_mem i hj)) _ _⟩

theorem allowed_true (tr : List (Entry σ ι ω)) (s : σ) (is : List ι) :
    Allowed step (fun _ _ _ => True) tr s is :=
  allowed_of_forall (fun _ _ _ _ => trivial) tr s

end Exec

end Machine
