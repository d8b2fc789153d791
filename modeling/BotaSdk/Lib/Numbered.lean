import Mathlib.Data.List.Basic

/-!
# Accepting a numbered stream

The items of a stream carry their index modulo `modulus`.  A receiver that accepts only the number
it expects next, and never wraps, holds a list whose `j`-th entry is numbered `j`.
-/

namespace Numbered

variable {α : Type*}

/-- The stream with the number each item carries. -/
def numbered (modulus : Nat) (stream : List α) : List (Nat × α) :=
  stream.mapIdx fun i item => (i % modulus, item)

/-- `item` is sent under `number`. -/
def Sent (modulus : Nat) (stream : List α) (number : Nat) (item : α) : Prop :=
  ∃ i, stream[i]? = some item ∧ number = i % modulus

/-- What an in-order receiver without wrap-around holds. -/
structure Accepts (modulus : Nat) (stream : List α) (accepted : List (Nat × α)) : Prop where
  bounded : accepted.length ≤ modulus
  sound : ∀ j (entry : Nat × α), accepted[j]? = some entry →
    entry.1 = j ∧ Sent modulus stream j entry.2

/-- The number of the last of `n` accepted items. -/
def lastIndex : Nat → Option Nat
  | 0 => none
  | n + 1 => some n

variable {modulus : Nat} {stream : List α} {accepted : List (Nat × α)}

@[simp] theorem length_numbered : (numbered modulus stream).length = stream.length :=
  List.length_mapIdx

theorem accepts_nil : Accepts modulus stream [] :=
  ⟨Nat.zero_le _, fun j entry h => by simp at h⟩

/-- A stream with fewer items than numbers may be held whole. -/
theorem accepts_numbered (hshort : stream.length ≤ modulus) :
    Accepts modulus stream (numbered modulus stream) where
  bounded := by
    rw [length_numbered]
    exact hshort
  sound j entry hj := by
    rw [numbered, List.getElem?_mapIdx] at hj
    obtain ⟨item, hitem, rfl⟩ := Option.map_eq_some_iff.mp hj
    have hlt := (List.getElem?_eq_some_iff.mp hitem).1
    have hmod : j % modulus = j := Nat.mod_eq_of_lt (by omega)
    exact ⟨hmod, j, hitem, hmod.symm⟩

theorem Accepts.snoc (h : Accepts modulus stream accepted) {number : Nat} {item : α}
    (hnumber : number = accepted.length) (hlt : number < modulus)
    (hsent : Sent modulus stream number item) :
    Accepts modulus stream (accepted ++ [(number, item)]) where
  bounded := by
    rw [List.length_append, List.length_singleton]
    omega
  sound j entry hj := by
    rcases Nat.lt_trichotomy j accepted.length with hlt' | heq | hgt
    · rw [List.getElem?_append_left hlt'] at hj
      exact h.sound j entry hj
    · subst heq
      rw [List.getElem?_concat_length] at hj
      obtain rfl := Option.some.inj hj
      exact ⟨hnumber, hnumber ▸ hsent⟩
    · rw [List.getElem?_eq_none (by rw [List.length_append, List.length_singleton]; omega)] at hj
      exact nomatch hj

theorem Accepts.length_le (h : Accepts modulus stream accepted) :
    accepted.length ≤ stream.length := by
  by_contra hlong
  have hlast : accepted.length - 1 < accepted.length := by omega
  obtain ⟨-, i, hi, hmod⟩ := h.sound _ _ (List.getElem?_eq_getElem hlast)
  have hlt : i < stream.length := (List.getElem?_eq_some_iff.mp hi).1
  have hle := Nat.mod_le i modulus
  omega

/-- Below the modulus a number identifies its item. -/
theorem Sent.getElem? (hshort : stream.length ≤ modulus) {number : Nat} {item : α}
    (h : Sent modulus stream number item) : stream[number]? = some item := by
  obtain ⟨i, hi, hmod⟩ := h
  have hlt : i < stream.length := (List.getElem?_eq_some_iff.mp hi).1
  rw [Nat.mod_eq_of_lt (by omega)] at hmod
  rw [hmod, hi]

/-- Without wrap-around the receiver holds the first items of the stream. -/
theorem Accepts.isPrefix (h : Accepts modulus stream accepted) (hshort : stream.length ≤ modulus) :
    accepted <+: numbered modulus stream := by
  rw [List.prefix_iff_getElem?]
  intro j hj
  obtain ⟨hnumber, hsent⟩ := h.sound _ _ (List.getElem?_eq_getElem hj)
  have hlen := h.length_le
  rw [numbered, List.getElem?_mapIdx, hsent.getElem? hshort, Option.map_some,
    Nat.mod_eq_of_lt (by omega)]
  exact congrArg some (Prod.ext hnumber.symm rfl)

/-- What was accepted is a beginning of the stream. -/
theorem Accepts.items (h : Accepts modulus stream accepted) (hshort : stream.length ≤ modulus) :
    accepted.map Prod.snd = stream.take accepted.length := by
  have htake := List.prefix_iff_eq_take.mp (h.isPrefix hshort)
  have hstream : (numbered modulus stream).map Prod.snd = stream := by
    apply List.ext_getElem?
    intro i
    rw [numbered, List.getElem?_map, List.getElem?_mapIdx, Option.map_map]
    exact Option.map_id'
  conv_lhs => rw [htake]
  rw [List.map_take, hstream]

theorem Accepts.last (h : Accepts modulus stream accepted) :
    accepted.getLast?.map Prod.fst = lastIndex accepted.length := by
  rw [List.getLast?_eq_getElem?]
  cases hlength : accepted.length with
  | zero =>
    rw [List.length_eq_zero_iff.mp hlength]
    rfl
  | succ n =>
    have hlt : n < accepted.length := by omega
    rw [Nat.add_sub_cancel, List.getElem?_eq_getElem hlt, Option.map_some,
      (h.sound _ _ (List.getElem?_eq_getElem hlt)).1]
    rfl

theorem lastIndex_injective {n m : Nat} (h : lastIndex n = lastIndex m) : n = m := by
  cases n <;> cases m <;> simp_all [lastIndex]

/-- The receiver holds the whole stream exactly when it holds as many items and none wrapped. -/
theorem Accepts.complete_iff (h : Accepts modulus stream accepted) :
    accepted = numbered modulus stream ↔
      stream.length ≤ modulus ∧ accepted.length = stream.length := by
  constructor
  · intro heq
    have hlen : accepted.length = stream.length := by rw [heq, length_numbered]
    exact ⟨hlen ▸ h.bounded, hlen⟩
  · rintro ⟨hshort, hlen⟩
    refine List.ext_getElem? fun j => ?_
    rcases Nat.lt_or_ge j accepted.length with hlt | hge
    · obtain ⟨hnumber, hsent⟩ := h.sound _ _ (List.getElem?_eq_getElem hlt)
      have hitem := hsent.getElem? hshort
      rw [numbered, List.getElem?_mapIdx, hitem, List.getElem?_eq_getElem hlt, Option.map_some,
        Nat.mod_eq_of_lt (by omega)]
      exact congrArg some (Prod.ext hnumber rfl)
    · rw [List.getElem?_eq_none hge,
        List.getElem?_eq_none (by rw [length_numbered]; omega)]

theorem lastIndex_eq_some {n k : Nat} : lastIndex n = some k ↔ n = k + 1 := by
  cases n with
  | zero => simp [lastIndex]
  | succ n => rw [lastIndex, Option.some.injEq, Nat.succ.injEq]

/-- The number expected after `n` accepted items, unless it is one of theirs, is `n`. -/
theorem expected_eq {n number : Nat} (hbound : n ≤ modulus)
    (hnumber : number = (lastIndex n).elim 0 fun last => (last + 1) % modulus)
    (hnew : ¬(lastIndex n).any (number ≤ ·)) (hpos : 0 < modulus) :
    number = n ∧ n < modulus := by
  cases n with
  | zero => exact ⟨hnumber, hpos⟩
  | succ n =>
    simp only [lastIndex, Option.elim_some] at hnumber
    simp only [lastIndex, Option.any_some, decide_eq_true_eq, Nat.not_le] at hnew
    rcases Nat.lt_or_ge (n + 1) modulus with hlt | hge
    · rw [Nat.mod_eq_of_lt hlt] at hnumber
      exact ⟨hnumber, hlt⟩
    · obtain rfl : n + 1 = modulus := by omega
      rw [Nat.mod_self] at hnumber
      omega

theorem lt_of_lastIndex_any {n number : Nat} (h : (lastIndex n).any (number ≤ ·)) : number < n := by
  cases n with
  | zero => exact absurd h (by simp [lastIndex])
  | succ n =>
    simp only [lastIndex, Option.any_some, decide_eq_true_eq] at h
    omega

end Numbered
