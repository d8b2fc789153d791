import Mathlib.Data.List.Basic

/-!
# Delivered in order, written in batches

`Stutters` is the delivery of a stream in order with immediate duplicates; `Batched` is the list of
writes of a receiver that joins consecutive items into one write.
-/

namespace Delivery

variable {α : Type*}

/-! ## Immediate duplicates -/

/-- `delivered` is `sent` in order, every item once or several times in a row. -/
inductive Stutters : List α → List α → Prop
  | nil : Stutters [] []
  | next {sent delivered : List α} {item : α} :
      Stutters sent delivered → Stutters (sent ++ [item]) (delivered ++ [item])
  | again {sent delivered : List α} {item : α} :
      Stutters (sent ++ [item]) delivered → Stutters (sent ++ [item]) (delivered ++ [item])

/-- Only what was sent is delivered. -/
theorem Stutters.mem {sent delivered : List α} {item : α} (h : Stutters sent delivered)
    (hitem : item ∈ delivered) : item ∈ sent := by
  induction h with
  | nil => exact hitem
  | next _ ih =>
    rcases List.mem_append.mp hitem with hmem | hmem
    · exact List.mem_append_left _ (ih hmem)
    · exact List.mem_append_right _ hmem
  | again _ ih =>
    rcases List.mem_append.mp hitem with hmem | hmem
    · exact ih hmem
    · exact List.mem_append_right _ hmem

/-! ## Batches -/

/-- `batches` holds the numbered items in order, joined into batches that carry the number of their
last item. -/
inductive Batched : List (Nat × List α) → List (Nat × List α) → Prop
  | nil : Batched [] []
  | snoc {items batches group : List (Nat × List α)} {last : Nat × List α} :
      Batched items batches →
      Batched (items ++ (group ++ [last]))
        (batches ++ [(last.1, (group ++ [last]).flatMap Prod.snd)])

variable {items items' batches : List (Nat × List α)}

theorem Batched.single (h : Batched items batches) (item : Nat × List α) :
    Batched (items ++ [item]) (batches ++ [item]) := by
  have hsnoc := @Batched.snoc _ items batches [] item h
  rw [List.nil_append, List.flatMap_singleton] at hsnoc
  exact hsnoc

/-- A batch of one item and those joined to it. -/
theorem Batched.group (h : Batched items batches) {first : Nat × List α}
    {more : List (Nat × List α)} {number : Nat} {contents : List α}
    (hnumber : (more.map Prod.fst).getLastD first.1 = number)
    (hcontents : contents = (first :: more).flatMap Prod.snd) :
    Batched (items ++ first :: more) (batches ++ [(number, contents)]) := by
  rcases List.eq_nil_or_concat more with rfl | ⟨front, last, rfl⟩
  · rw [List.flatMap_singleton] at hcontents
    obtain rfl : number = first.1 := hnumber.symm
    rw [hcontents]
    exact h.single first
  · rw [List.concat_eq_append] at *
    rw [List.map_append, List.map_singleton, List.getLastD_concat] at hnumber
    rw [hcontents, ← hnumber, ← List.cons_append]
    exact h.snoc

/-- The batches hold the same contents. -/
theorem Batched.contents (h : Batched items batches) :
    batches.flatMap Prod.snd = items.flatMap Prod.snd := by
  induction h with
  | nil => rfl
  | @snoc items batches group last _ ih =>
    have hitems : (items ++ (group ++ [last])).flatMap Prod.snd =
        items.flatMap Prod.snd ++ (group ++ [last]).flatMap Prod.snd := List.flatMap_append
    rw [hitems, List.flatMap_append, List.flatMap_singleton, ih]

/-- The last batch carries the number of the last item. -/
theorem Batched.last (h : Batched items batches) :
    batches.getLast?.map Prod.fst = items.getLast?.map Prod.fst := by
  cases h with
  | nil => rfl
  | snoc _ =>
    rw [List.getLast?_concat, ← List.append_assoc, List.getLast?_concat]
    rfl

theorem Batched.last_eq (h : Batched items batches) (h' : Batched items' batches) :
    items.getLast?.map Prod.fst = items'.getLast?.map Prod.fst :=
  h.last.symm.trans h'.last

end Delivery
