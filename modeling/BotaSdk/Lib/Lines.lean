import Mathlib.Data.List.SplitBy

/-!
# Terminated lines

A line reader scans its input for a terminator.  What it hands out does not depend on how the input
was cut, and it is what `List.splitOn` says.
-/

namespace Lines

universe u

variable {α : Type u} [DecidableEq α]

/-- The terminated lines of an input that follows `line`, and the rest after the last one. -/
def scan (terminator : α) (line : List α) : List α → List (List α) × List α
  | [] => ([], line)
  | x :: xs =>
    if x = terminator then (line :: (scan terminator [] xs).1, (scan terminator [] xs).2)
    else scan terminator (line ++ [x]) xs

/-- The terminated lines of an input. -/
def lines (terminator : α) (xs : List α) : List (List α) :=
  (scan terminator [] xs).1

section Rules

variable {terminator : α}

theorem scan_append (line xs ys : List α) :
    scan terminator line (xs ++ ys) =
      ((scan terminator line xs).1 ++ (scan terminator (scan terminator line xs).2 ys).1,
        (scan terminator (scan terminator line xs).2 ys).2) := by
  induction xs generalizing line with
  | nil => rfl
  | cons x xs ih =>
    rw [List.cons_append, scan, scan]
    split
    · rw [ih]
      rfl
    · exact ih _

/-- No terminator is left in the rest. -/
theorem not_mem_rest {line : List α} (h : terminator ∉ line) (xs : List α) :
    terminator ∉ (scan terminator line xs).2 := by
  induction xs generalizing line with
  | nil => exact h
  | cons x xs ih =>
    rw [scan]
    split
    · exact ih List.not_mem_nil
    · next hother =>
      refine ih fun hmem => ?_
      rcases List.mem_append.mp hmem with hmem | hmem
      · exact h hmem
      · exact hother (List.mem_singleton.mp hmem).symm

theorem scan_of_not_mem {xs : List α} (h : terminator ∉ xs) (line : List α) :
    scan terminator line xs = ([], line ++ xs) := by
  induction xs generalizing line with
  | nil => rw [scan, List.append_nil]
  | cons x xs ih =>
    rw [List.mem_cons, not_or] at h
    rw [scan, if_neg (Ne.symm h.1), ih h.2, List.append_assoc]
    rfl

/-- Scanning a kept rest together with new input continues the scan. -/
theorem scan_rest {rest : List α} (h : terminator ∉ rest) (xs : List α) :
    scan terminator [] (rest ++ xs) = scan terminator rest xs := by
  rw [scan_append, scan_of_not_mem h]
  rfl

theorem scan_eq_splitOnPPrepend (line xs : List α) :
    (scan terminator line xs).1 ++ [(scan terminator line xs).2] =
      List.splitOnPPrepend (· == terminator) xs line.reverse := by
  induction xs generalizing line with
  | nil => rw [scan, List.splitOnPPrepend_nil, List.reverse_reverse, List.nil_append]
  | cons x xs ih =>
    rw [scan, List.splitOnPPrepend_cons_eq_if]
    by_cases hsame : x = terminator
    · rw [if_pos hsame, if_pos (beq_iff_eq.mpr hsame), List.reverse_reverse,
        List.splitOnP_eq_splitOnPPrepend, List.cons_append, ih, List.reverse_nil]
    · have hconcat : x :: line.reverse = (line ++ [x]).reverse := List.reverse_concat.symm
      rw [if_neg hsame, if_neg (fun h => hsame (beq_iff_eq.mp h)), ih, hconcat]

/-- The lines are the pieces between the terminators; what follows the last one is no line. -/
theorem lines_eq_splitOn (xs : List α) :
    lines terminator xs = (xs.splitOn terminator).dropLast := by
  have h : (scan terminator [] xs).1 ++ [(scan terminator [] xs).2] = _ :=
    scan_eq_splitOnPPrepend [] xs
  rw [List.reverse_nil, List.splitOnPPrepend_nil_right] at h
  rw [List.splitOn, ← h, List.dropLast_concat, lines]

end Rules

end Lines
