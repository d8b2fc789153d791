import BotaSdk.Lib.Run

/-!
# Inputs inserted into a run

A run with further inputs inserted is compared with the run without them.  An inserted input is
harmless if the machine stays where it is and answers with a fixed quiet output: then every other
input is answered as if it had not been there.
-/

namespace Machine

universe u v w

/-- An input of a run, and whether it was inserted. -/
structure Item (ι : Type v) where
  input : ι
  inserted : Bool := false

variable {σ : Type u} {ι : Type v} {ω : Type w}

/-- The outputs along a run, with the marks of their inputs. -/
def outcomes (step : σ → ι → σ × ω) : σ → List (Item ι) → List (ω × Bool)
  | _, [] => []
  | s, item :: items =>
    ((step s item.input).2, item.inserted) :: outcomes step (step s item.input).1 items

/-- Every inserted input satisfies `P`, given the history and the state. -/
def Inserts (step : σ → ι → σ × ω) (P : List (Entry σ ι ω) → σ → ι → Prop) :
    List (Entry σ ι ω) → σ → List (Item ι) → Prop
  | _, _, [] => True
  | tr, s, item :: items =>
    (item.inserted = true → P tr s item.input) ∧
      Inserts step P (tr ++ [⟨s, item.input, (step s item.input).2⟩]) (step s item.input).1 items

/-- The items of the run without the inserted ones. -/
def own (items : List (Item ι)) : List (Item ι) :=
  items.filter (!·.inserted)

/-- Every inserted input is answered with `quiet`, and every other one as without them. -/
structure Harmless (step : σ → ι → σ × ω) (quiet : ω) (s : σ) (items : List (Item ι)) : Prop where
  inserted : ∀ outcome ∈ outcomes step s items, outcome.2 = true → outcome.1 = quiet
  others : (outcomes step s items).filter (!·.2) = outcomes step s (own items)

section Rules

variable {step : σ → ι → σ × ω} {P : List (Entry σ ι ω) → σ → ι → Prop} {s₀ s : σ}
  {tr : List (Entry σ ι ω)} {items : List (Item ι)} {quiet : ω}

theorem Harmless.cons_own {input : ι} (h : Harmless step quiet (step s input).1 items) :
    Harmless step quiet s (⟨input, false⟩ :: items) where
  inserted outcome hmem hinserted := by
    rcases List.mem_cons.mp hmem with rfl | hmem
    · exact nomatch hinserted
    · exact h.inserted outcome hmem hinserted
  others := by
    show (((step s input).2, false) :: outcomes step (step s input).1 items).filter (!·.2) =
      outcomes step s (⟨input, false⟩ :: own items)
    rw [List.filter_cons_of_pos rfl, h.others]
    rfl

theorem Harmless.cons_inserted {input : ι} (hstep : step s input = (s, quiet))
    (h : Harmless step quiet s items) : Harmless step quiet s (⟨input, true⟩ :: items) where
  inserted outcome hmem hinserted := by
    rcases List.mem_cons.mp hmem with rfl | hmem
    · exact congrArg Prod.snd hstep
    · refine h.inserted outcome ?_ hinserted
      rwa [hstep] at hmem
  others := by
    show (((step s input).2, true) :: outcomes step (step s input).1 items).filter (!·.2) =
      outcomes step s (own items)
    rw [List.filter_cons_of_neg (by simp), hstep, h.others]

/-- Inputs that leave every state of a run in which they are inserted as it is are harmless. -/
theorem Inserts.harmless (h : Inserts step P tr s items)
    (hrun : Run step (fun _ _ _ => True) s₀ tr s)
    (hquiet : ∀ tr s input, Run step (fun _ _ _ => True) s₀ tr s → P tr s input →
      step s input = (s, quiet)) : Harmless step quiet s items := by
  induction items generalizing tr s with
  | nil => exact ⟨fun _ hmem => absurd hmem List.not_mem_nil, rfl⟩
  | cons item items ih =>
    obtain ⟨input, inserted⟩ := item
    obtain ⟨hat, hrest⟩ := h
    have hnext := ih hrest (.snoc input hrun trivial)
    cases inserted with
    | false => exact hnext.cons_own
    | true =>
      have hstep := hquiet tr s input hrun (hat rfl)
      simp only [hstep] at hnext
      exact hnext.cons_inserted hstep

/-- Inputs of which every one is answered with something else are harmless only if there are none. -/
theorem Inserts.harmless_iff (h : Inserts step P tr s items)
    (hrun : Run step (fun _ _ _ => True) s₀ tr s)
    (hloud : ∀ tr s input, Run step (fun _ _ _ => True) s₀ tr s → P tr s input →
      (step s input).2 ≠ quiet) :
    Harmless step quiet s items ↔ ∀ item ∈ items, item.inserted = false := by
  induction items generalizing tr s with
  | nil =>
    exact iff_of_true ⟨fun _ hmem => absurd hmem List.not_mem_nil, rfl⟩
      (fun _ hmem => absurd hmem List.not_mem_nil)
  | cons item items ih =>
    obtain ⟨input, inserted⟩ := item
    obtain ⟨hat, hrest⟩ := h
    have hnext := ih hrest (.snoc input hrun trivial)
    rw [List.forall_mem_cons]
    cases inserted with
    | false =>
      refine ⟨fun hharmless => ⟨rfl, hnext.mp ⟨fun outcome hmem hinserted => ?_, ?_⟩⟩,
        fun hnone => (hnext.mpr hnone.2).cons_own⟩
      · exact hharmless.inserted outcome (List.mem_cons_of_mem _ hmem) hinserted
      · exact (List.cons.inj hharmless.others).2
    | true =>
      refine iff_of_false (fun hharmless => ?_) (fun hnone => nomatch hnone.1)
      exact hloud tr s input hrun (hat rfl) (hharmless.inserted _ List.mem_cons_self rfl)

end Rules

end Machine
