import Mathlib.Data.List.Basic

/-!
# What happened last in a history

`Since quiet P history`: some entry came with `P` of the entries before it, and only quiet entries
have come since.
-/

namespace Trace

variable {α : Type}

def Since (quiet : α → Prop) (P : List α → α → Prop) (history : List α) : Prop :=
  ∃ before link after, history = before ++ link :: after ∧ P before link ∧ ∀ a ∈ after, quiet a

section Rules

variable {quiet : α → Prop} {P Q : List α → α → Prop} {history : List α} {a : α}

theorem Since.now (h : P history a) : Since quiet P (history ++ [a]) :=
  ⟨history, a, [], rfl, h, nofun⟩

theorem Since.later (h : Since quiet P history) (ha : quiet a) : Since quiet P (history ++ [a]) := by
  obtain ⟨before, link, after, rfl, hlink, hafter⟩ := h
  refine ⟨before, link, after ++ [a], by simp, hlink, fun b hb => ?_⟩
  rcases List.mem_append.mp hb with hb | hb
  · exact hafter b hb
  · obtain rfl := List.mem_singleton.mp hb
    exact ha

end Rules

end Trace
