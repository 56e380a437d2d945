import AutoItNav.Text.Pieces
import Mathlib.Data.List.TakeWhile

/-!
Pieces of a list: none holds the separator, and a separator in the middle divides the pieces before
it from those after it.
-/
namespace AutoItNav

variable {α : Type} [DecidableEq α] {sep : α}

theorem pieces_of_not_mem {line : List α} (single : sep ∉ line) : pieces sep line = [line] := by
  induction line with
  | nil => rfl
  | cons x line ih =>
      obtain ⟨other, later⟩ := List.ne_and_not_mem_of_not_mem_cons single
      rw [pieces_cons, ih later, consPiece, if_neg other.symm]

theorem pieces_append (front rest : List α) :
    pieces sep (front ++ sep :: rest) = pieces sep front ++ pieces sep rest := by
  induction front with
  | nil =>
      rw [List.nil_append, pieces_cons]
      cases found : pieces sep rest with
      | nil => exact absurd found (pieces_ne_nil sep rest)
      | cons piece later =>
          rw [consPiece, if_pos rfl]
          rfl
  | cons x front ih =>
      rw [List.cons_append, pieces_cons, ih, pieces_cons]
      cases found : pieces sep front with
      | nil => exact absurd found (pieces_ne_nil sep front)
      | cons piece later =>
          rw [List.cons_append, consPiece, consPiece]
          split <;> rfl

theorem pieces_append_cons {line : List α} (single : sep ∉ line) (rest : List α) :
    pieces sep (line ++ sep :: rest) = line :: pieces sep rest := by
  rw [pieces_append, pieces_of_not_mem single]
  rfl

/-- A list that is joined from pieces is cut into the same pieces. -/
theorem pieces_intercalate {first : List α} {rest : List (List α)}
    (single : ∀ piece ∈ first :: rest, sep ∉ piece) :
    pieces sep ([sep].intercalate (first :: rest)) = first :: rest := by
  induction rest generalizing first with
  | nil =>
      rw [List.intercalate_singleton]
      exact pieces_of_not_mem (single first List.mem_cons_self)
  | cons next rest ih =>
      obtain ⟨here, later⟩ := List.forall_mem_cons.mp single
      rw [List.intercalate_cons_cons, List.append_assoc, List.singleton_append,
        pieces_append_cons here, ih later]

theorem not_mem_of_mem_pieces {l piece : List α} (member : piece ∈ pieces sep l) :
    sep ∉ piece := by
  induction l generalizing piece with
  | nil =>
      obtain rfl := List.mem_singleton.mp member
      exact List.not_mem_nil
  | cons x l ih =>
      rw [pieces_cons] at member
      cases found : pieces sep l with
      | nil => exact absurd found (pieces_ne_nil sep l)
      | cons first later =>
          rw [found] at ih member
          rw [consPiece] at member
          split at member
          · rcases List.mem_cons.mp member with rfl | member
            · exact List.not_mem_nil
            · exact ih member
          · next other =>
              rcases List.mem_cons.mp member with rfl | member
              · exact List.not_mem_cons_of_ne_of_not_mem (Ne.symm other) (ih List.mem_cons_self)
              · exact ih (List.mem_cons_of_mem first member)

/-- The first piece is what stands before the first separator. -/
theorem takeWhile_append_separator {front : List α} (single : sep ∉ front) (rest : List α) :
    (front ++ sep :: rest).takeWhile (· ≠ sep) = front := by
  rw [List.takeWhile_append_of_pos]
  · simp
  · intro x member
    exact decide_eq_true (ne_of_mem_of_not_mem member single)

theorem dropWhile_append_separator {front : List α} (single : sep ∉ front) (rest : List α) :
    (front ++ sep :: rest).dropWhile (· ≠ sep) = sep :: rest := by
  rw [List.dropWhile_append_of_pos]
  · simp
  · intro x member
    exact decide_eq_true (ne_of_mem_of_not_mem member single)

omit [DecidableEq α] in
/-- A list is cut at the last place of one of its members. -/
theorem exists_last_place {l : List α} {x : α} (member : x ∈ l) :
    ∃ front rest, l = front ++ x :: rest ∧ x ∉ rest := by
  obtain ⟨back, front, cut, absent⟩ := List.eq_append_cons_of_mem (List.mem_reverse.mpr member)
  refine ⟨front.reverse, back.reverse, ?_, fun later => absent (List.mem_reverse.mp later)⟩
  rw [← List.reverse_reverse l, cut, List.reverse_append, List.reverse_cons, List.append_assoc]
  rfl

theorem append_separator_inj {front front' rest rest' : List α} (single : sep ∉ front)
    (single' : sep ∉ front') (same : front ++ sep :: rest = front' ++ sep :: rest') :
    front = front' ∧ rest = rest' := by
  have first := takeWhile_append_separator single rest
  rw [same, takeWhile_append_separator single'] at first
  subst first
  exact ⟨rfl, List.tail_eq_of_cons_eq (List.append_cancel_left same)⟩

/-- A list that is longer than its first piece is cut by a separator. -/
theorem exists_append_separator {l : List α}
    (longer : (l.takeWhile (· ≠ sep)).length ≠ l.length) :
    ∃ front rest, l = front ++ sep :: rest ∧ sep ∉ front := by
  apply List.eq_append_cons_of_mem
  by_contra absent
  apply longer
  rw [List.takeWhile_eq_self_iff.mpr]
  intro x member
  exact decide_eq_true (ne_of_mem_of_not_mem member absent)

end AutoItNav
