import Mathlib.Data.List.TakeWhile
import NatSpec.Comment.Scan

set_option autoImplicit false

namespace NatSpec.Comment

def joined (lines : List (List Char)) : List Char := ['\n'].intercalate lines

theorem joined_single (line : List Char) : joined [line] = line := by
  simp [joined]

theorem joined_cons (line next : List Char) (lines : List (List Char)) :
    joined (line :: next :: lines) = line ++ '\n' :: joined (next :: lines) := by
  simp [joined, List.intercalate_cons_cons]

theorem joined_prefix (front line : List Char) (lines : List (List Char)) :
    joined ((front ++ line) :: lines) = front ++ joined (line :: lines) := by
  cases lines with
  | nil => rw [joined_single, joined_single]
  | cons next rest => rw [joined_cons, joined_cons, List.append_assoc]

theorem joined_ne_nil (line : List Char) (lines : List (List Char)) (follows : lines ≠ []) :
    joined (line :: lines) ≠ [] := by
  cases lines with
  | nil => exact absurd rfl follows
  | cons next rest =>
    rw [joined_cons]
    simp

theorem before_stop {stop : Char} {text : List Char} (absent : stop ∉ text) :
    ∀ c ∈ text, decide (c ≠ stop) = true := by
  intro c member
  have different : c ≠ stop := fun same => absent (same ▸ member)
  exact decide_eq_true different

theorem first_line_unbroken (text : List Char) : '\n' ∉ firstLine text := by
  intro member
  simpa using List.mem_takeWhile_imp member

theorem first_line_whole {line : List Char} (unbroken : '\n' ∉ line) : firstLine line = line :=
  List.takeWhile_eq_self_iff.mpr (before_stop unbroken)

theorem first_line_ended (lines after : List Char) :
    firstLine (lines ++ '\n' :: after) = firstLine lines := by
  rw [firstLine, List.takeWhile_append]
  split
  · rename_i whole
    have unbroken : firstLine lines = lines := (List.takeWhile_prefix _).eq_of_length whole
    simp [unbroken]
  · rfl

theorem other_lines_ended {line : List Char} (unbroken : '\n' ∉ line) (after : List Char) :
    otherLines (line ++ '\n' :: after) = after := by
  rw [otherLines, List.dropWhile_append_of_pos (before_stop unbroken)]
  simp

theorem first_line_joined (line : List Char) (lines : List (List Char)) (unbroken : '\n' ∉ line) :
    firstLine (joined (line :: lines)) = line := by
  cases lines with
  | nil => rw [joined_single, first_line_whole unbroken]
  | cons next rest => rw [joined_cons, first_line_ended, first_line_whole unbroken]

theorem other_lines_joined (line : List Char) (lines : List (List Char)) (unbroken : '\n' ∉ line) :
    otherLines (joined (line :: lines)) = joined lines := by
  cases lines with
  | nil =>
    rw [joined_single, otherLines, List.dropWhile_eq_nil_iff.mpr (before_stop unbroken)]
    rfl
  | cons next rest => rw [joined_cons, other_lines_ended unbroken]

end NatSpec.Comment
