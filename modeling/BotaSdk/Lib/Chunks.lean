import Mathlib.Data.List.Basic

/-!
# A list in chunks

Consecutive pieces of one size, of which only the last may be shorter, and frames that carry them.
-/

namespace Chunks

variable {α : Type}

/-- `usize::div_ceil`. -/
def divCeil (n size : Nat) : Nat :=
  (n + size - 1) / size

/-- `<[T]>::chunks`. -/
def chunks (size : Nat) (l : List α) : List (List α) :=
  (List.range (divCeil l.length size)).map fun i => (l.drop (size * i)).take size

section Count

variable {n m size i : Nat}

/-- The `i`-th piece exists when the pieces before it leave something. -/
theorem lt_divCeil (hsize : 0 < size) : i < divCeil n size ↔ size * i < n := by
  rw [divCeil, Nat.lt_iff_add_one_le, Nat.le_div_iff_mul_le hsize, Nat.mul_comm, Nat.mul_add]
  omega

theorem divCeil_le (hsize : 0 < size) : divCeil n size ≤ i ↔ n ≤ size * i := by
  rw [← Nat.not_lt, lt_divCeil hsize, Nat.not_lt]

end Count

section Chunks

variable {size i : Nat} {l : List α}

@[simp] theorem length_chunks : (chunks size l).length = divCeil l.length size := by
  rw [chunks, List.length_map, List.length_range]

theorem getElem_chunks (h : i < (chunks size l).length) :
    (chunks size l)[i] = (l.drop (size * i)).take size := by
  simp only [chunks, List.getElem_map, List.getElem_range]

/-- The first `i` pieces are the list up to the `i`-th boundary. -/
theorem flatten_take (h : i ≤ divCeil l.length size) :
    ((chunks size l).take i).flatten = l.take (size * i) := by
  induction i with
  | zero => rw [List.take_zero, List.flatten_nil, Nat.mul_zero, List.take_zero]
  | succ i ih =>
    have hi : i < (chunks size l).length := by
      rw [length_chunks]
      omega
    rw [List.take_succ_eq_append_getElem hi, List.flatten_append, List.flatten_singleton,
      ih (by omega), getElem_chunks, Nat.mul_succ, List.take_add]

theorem flatten_chunks (hsize : 0 < size) : (chunks size l).flatten = l := by
  have hall := flatten_take (l := l) (Nat.le_refl (divCeil l.length size))
  have hend : l.length ≤ size * divCeil l.length size := (divCeil_le hsize).mp (Nat.le_refl _)
  rw [← length_chunks, List.take_length] at hall
  rw [hall, length_chunks, List.take_of_length_le hend]

/-- Where the `i`-th piece begins. -/
theorem length_flatten_take (hsize : 0 < size) (h : i < (chunks size l).length) :
    ((chunks size l).take i).flatten.length = size * i := by
  have hi : i < divCeil l.length size := length_chunks ▸ h
  have hbound := (lt_divCeil hsize).mp hi
  rw [flatten_take (Nat.le_of_lt hi), List.length_take]
  omega

theorem length_chunk_pos (hsize : 0 < size) (h : i < (chunks size l).length) :
    0 < (chunks size l)[i].length := by
  have hbound := (lt_divCeil hsize).mp (length_chunks ▸ h)
  rw [getElem_chunks, List.length_take, List.length_drop]
  omega

theorem length_chunk_le (h : i < (chunks size l).length) : (chunks size l)[i].length ≤ size := by
  rw [getElem_chunks]
  exact List.length_take_le _ _

end Chunks

/-! ## Frames -/

/-- `frames` carry `payload` in order: each is a header that tells its index and what has gone
before it, and a piece of the payload, within the limit. -/
structure Framed (Tells : (index offset : Nat) → List α → Prop) (limit : Nat) (payload : List α)
    (frames bodies : List (List α)) : Prop where
  count : frames.length = bodies.length
  whole : bodies.flatten = payload
  frame : ∀ i (hframe : i < frames.length) (hbody : i < bodies.length), ∃ header,
    Tells i (bodies.take i).flatten.length header ∧ frames[i] = header ++ bodies[i] ∧
      0 < bodies[i].length ∧ frames[i].length ≤ limit

/-- Each piece of a list behind the header of its index. -/
def frames (header : Nat → List α) (size : Nat) (l : List α) : List (List α) :=
  (chunks size l).mapIdx fun i body => header i ++ body

@[simp] theorem length_frames (header : Nat → List α) (size : Nat) (l : List α) :
    (frames header size l).length = divCeil l.length size := by
  rw [frames, List.length_mapIdx, length_chunks]

/-- Headers of one width that tell the right place frame the list. -/
theorem framed_frames {Tells : (index offset : Nat) → List α → Prop} {header : Nat → List α}
    {size width : Nat} {l : List α} (hsize : 0 < size)
    (hheader : ∀ i, i < divCeil l.length size →
      (header i).length = width ∧ Tells i (size * i) (header i)) :
    Framed Tells (width + size) l (frames header size l) (chunks size l) where
  count := by rw [length_frames, length_chunks]
  whole := flatten_chunks hsize
  frame i hbound hbody := by
    obtain ⟨hwidth, htells⟩ := hheader i (length_chunks ▸ hbody)
    have hframe : (frames header size l)[i] = header i ++ (chunks size l)[i] := by
      simp only [frames, List.getElem_mapIdx]
    refine ⟨header i, ?_, hframe, length_chunk_pos hsize hbody, ?_⟩
    · rw [length_flatten_take hsize hbody]
      exact htells
    · rw [hframe, List.length_append, hwidth]
      exact Nat.add_le_add_left (length_chunk_le hbody) width

end Chunks
