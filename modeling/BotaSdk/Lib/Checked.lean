import Mathlib.Logic.Basic

/-!
# Computations that may fail

What it takes for the steps of an `Except` computation to succeed.
-/

namespace Checked

variable {ε α β : Type}

theorem bind_eq_ok {x : Except ε α} {f : α → Except ε β} {v : β} :
    (x >>= f) = .ok v ↔ ∃ a, x = .ok a ∧ f a = .ok v := by
  cases x with
  | error e => exact ⟨fun h => (nomatch h), fun ⟨_, h, _⟩ => (nomatch h)⟩
  | ok a => exact ⟨fun h => ⟨a, rfl, h⟩, fun ⟨_, ha, h⟩ => Except.ok.inj ha ▸ h⟩

theorem seq_eq_ok {x : Except ε Unit} {f : Unit → Except ε β} {v : β} :
    (x >>= f) = .ok v ↔ x = .ok () ∧ f () = .ok v :=
  bind_eq_ok.trans ⟨fun ⟨(), h⟩ => h, fun h => ⟨(), h⟩⟩

/-- A check in the middle of a computation. -/
theorem guard_eq_ok {c : Prop} [Decidable c] {e : ε} {f : α → Except ε β} {x : Except ε β}
    {v : β} : (if c then throw e >>= f else x) = .ok v ↔ ¬c ∧ x = .ok v := by
  by_cases h : c
  · rw [if_pos h]
    exact ⟨fun hok => (nomatch hok), fun hok => absurd h hok.1⟩
  · rw [if_neg h]
    exact ⟨fun hok => ⟨h, hok⟩, And.right⟩

theorem check_eq_ok {c : Prop} [Decidable c] {e : ε} {u : Unit} :
    (if c then Except.error e else .ok ()) = .ok u ↔ ¬c := by
  by_cases h : c
  · rw [if_pos h]
    exact ⟨fun hok => (nomatch hok), fun hok => absurd h hok⟩
  · rw [if_neg h]
    exact ⟨fun _ => h, fun _ => rfl⟩

/-- A check at the end of a computation. -/
theorem last_guard_eq_ok {c : Prop} [Decidable c] {e : ε} {u : Unit} :
    (if c then throw e else pure () : Except ε Unit) = .ok u ↔ ¬c :=
  check_eq_ok

theorem ite_eq_ok {c : Prop} [Decidable c] {x y : Except ε α} {v : α}
    (h : (if c then x else y) = .ok v) : x = .ok v ∨ y = .ok v := by
  by_cases hc : c
  · exact .inl (by rwa [if_pos hc] at h)
  · exact .inr (by rwa [if_neg hc] at h)

theorem pure_eq_ok {a b : α} : (pure a : Except ε α) = .ok b ↔ a = b :=
  ⟨Except.ok.inj, fun h => h ▸ rfl⟩

end Checked
