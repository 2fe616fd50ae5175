import Mathlib.Data.List.TakeDrop
import Mathlib.Data.List.TakeWhile
import UserDirectory.Text.Fields

/-!
A text and its pieces between separators: the pieces are those of the standard splitting, so a text
is the pieces with the separator between them, and pieces without the separator are found again.
-/

namespace UserDirectory.Text

variable {separator : Char} {text : List Char}

theorem fields_eq_splitOn (separator : Char) (text : List Char) :
    fields separator text = text.splitOn separator := by
  induction text with
  | nil => rfl
  | cons c rest ih =>
    rw [fields, List.splitOn_cons_eq_if_modifyHead, ih]
    split
    next empty => exact absurd empty (List.splitOn_ne_nil _ _)
    next piece pieces found => simp [found]

theorem fields_ne_nil (separator : Char) (text : List Char) : fields separator text ≠ [] := by
  rw [fields_eq_splitOn]
  exact List.splitOn_ne_nil separator text

theorem intercalate_fields (separator : Char) (text : List Char) :
    [separator].intercalate (fields separator text) = text := by
  rw [fields_eq_splitOn]
  exact List.intercalate_splitOn separator

theorem fields_intercalate {pieces : List (List Char)} (nonempty : pieces ≠ [])
    (apart : ∀ piece ∈ pieces, separator ∉ piece) :
    fields separator ([separator].intercalate pieces) = pieces := by
  rw [fields_eq_splitOn]
  exact List.splitOn_intercalate separator apart nonempty

theorem not_mem_fields (separator : Char) (text : List Char) :
    ∀ piece ∈ fields separator text, separator ∉ piece := by
  induction text with
  | nil => simp [fields]
  | cons c rest ih =>
    rw [fields]
    split
    next empty => exact absurd empty (fields_ne_nil separator rest)
    next piece pieces found =>
      rw [found, List.forall_mem_cons] at ih
      obtain ⟨head, tail⟩ := ih
      split
      next same =>
        exact List.forall_mem_cons.2 ⟨List.not_mem_nil, List.forall_mem_cons.2 ⟨head, tail⟩⟩
      next other =>
        refine List.forall_mem_cons.2 ⟨?_, tail⟩
        rw [List.mem_cons, not_or]
        exact ⟨Ne.symm other, head⟩

/-- The pieces of a text are the one way to write it with separators between them. -/
theorem fields_eq_iff {pieces : List (List Char)} :
    fields separator text = pieces ↔
      pieces ≠ [] ∧ (∀ piece ∈ pieces, separator ∉ piece) ∧
        text = [separator].intercalate pieces := by
  constructor
  · rintro rfl
    exact ⟨fields_ne_nil separator text, not_mem_fields separator text,
      (intercalate_fields separator text).symm⟩
  · rintro ⟨nonempty, apart, rfl⟩
    exact fields_intercalate nonempty apart

theorem exists_intercalate_cons (separator : Char) (piece : List Char)
    (pieces : List (List Char)) :
    ∃ rest, [separator].intercalate (piece :: pieces) = piece ++ rest := by
  cases pieces with
  | nil => exact ⟨[], by rw [List.intercalate_singleton, List.append_nil]⟩
  | cons next pieces => exact ⟨_, by rw [List.intercalate_cons_cons, List.append_assoc]⟩

theorem not_mem_intercalate {c : Char} {pieces : List (List Char)} (other : c ≠ separator)
    (absent : ∀ piece ∈ pieces, c ∉ piece) : c ∉ [separator].intercalate pieces := by
  induction pieces with
  | nil => exact List.not_mem_nil
  | cons piece pieces ih =>
    obtain ⟨first, others⟩ := List.forall_mem_cons.1 absent
    cases pieces with
    | nil =>
      rw [List.intercalate_singleton]
      exact first
    | cons next pieces =>
      rw [List.intercalate_cons_cons, List.mem_append, List.mem_append, List.mem_singleton]
      rintro ((inFirst | same) | inOthers)
      · exact first inFirst
      · exact other same
      · exact ih others inOthers

theorem cut?_append {front : List Char} (apart : separator ∉ front) (back : List Char) :
    cut? separator (front ++ separator :: back) = some (front, back) := by
  have before : ∀ c ∈ front, decide (c ≠ separator) = true :=
    fun c inside => decide_eq_true fun same => apart (same ▸ inside)
  rw [cut?, List.span_eq_takeWhile_dropWhile, List.takeWhile_append_of_pos before,
    List.dropWhile_append_of_pos before]
  simp

theorem cut?_eq_some_iff {front back : List Char} :
    cut? separator text = some (front, back) ↔
      separator ∉ front ∧ text = front ++ separator :: back := by
  constructor
  · intro found
    rw [cut?, List.span_eq_takeWhile_dropWhile] at found
    split at found
    next => nomatch found
    next before c after split =>
    obtain ⟨taken, dropped⟩ := Prod.mk.inj split
    obtain ⟨rfl, rfl⟩ := Prod.mk.inj (Option.some.inj found)
    have stopped := List.head?_dropWhile_not (fun c => decide (c ≠ separator)) text
    rw [dropped] at stopped
    obtain rfl : c = separator := by simpa using stopped
    refine ⟨fun inside => ?_, ?_⟩
    · rw [← taken] at inside
      simpa using List.mem_takeWhile_imp inside
    · rw [← taken, ← dropped]
      exact List.takeWhile_append_dropWhile.symm
  · rintro ⟨apart, rfl⟩
    exact cut?_append apart back

end UserDirectory.Text
