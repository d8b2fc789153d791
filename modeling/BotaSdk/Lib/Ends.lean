import Mathlib.Logic.Basic

/-!
# What a successful computation ends with

`Ends x P`: every result of `x` satisfies `P`.  The rules follow the steps of the computation, so
that `simp` reduces a claim about a whole computation to claims about the results it can have.
-/

namespace Checked

variable {ε α β : Type}

def Ends (x : Except ε α) (P : α → Prop) : Prop :=
  ∀ a, x = .ok a → P a

variable {P Q : α → Prop} {R : β → Prop} {x y : Except ε α}

@[simp] theorem ends_ok {a : α} : Ends (.ok a : Except ε α) P ↔ P a := by
  constructor
  · exact fun h => h a rfl
  · intro h b hb
    rwa [← Except.ok.inj hb]

@[simp] theorem ends_error {e : ε} : Ends (.error e : Except ε α) P ↔ True := by
  refine iff_true_intro fun a h => ?_
  cases h

@[simp] theorem ends_bind {f : α → Except ε β} :
    Ends (x >>= f) R ↔ ∀ a, x = .ok a → Ends (f a) R := by
  cases x with
  | error e =>
    refine iff_of_true ?_ ?_
    · intro b h
      cases h
    · intro a h
      cases h
  | ok a =>
    constructor
    · intro h b hb
      cases hb
      exact h
    · exact fun h => h a rfl

@[simp] theorem ends_ite {c : Prop} [Decidable c] :
    Ends (if c then x else y) P ↔ (c → Ends x P) ∧ (¬c → Ends y P) := by
  by_cases h : c
  · rw [if_pos h]
    exact ⟨fun hx => ⟨fun _ => hx, fun hn => absurd h hn⟩, fun hxy => hxy.1 h⟩
  · rw [if_neg h]
    exact ⟨fun hy => ⟨fun hc => absurd hc h, fun _ => hy⟩, fun hxy => hxy.2 h⟩

theorem Ends.imp (h : Ends x P) (himp : ∀ a, P a → Q a) : Ends x Q :=
  fun a ha => himp a (h a ha)

theorem Ends.and (h : Ends x P) (h' : Ends x Q) : Ends x fun a => P a ∧ Q a :=
  fun a ha => ⟨h a ha, h' a ha⟩

/-- A claim about one step of a computation, used in the rest of it. -/
theorem Ends.bind {f : α → Except ε β} (hx : Ends x P) (hf : ∀ a, x = .ok a → P a → Ends (f a) R) :
    Ends (x >>= f) R :=
  ends_bind.mpr fun a ha => hf a ha (hx a ha)

end Checked
