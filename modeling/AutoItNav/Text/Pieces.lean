/-!
Cutting a list at every occurrence of a separator. Joining the pieces with the separator gives the
list back, and no piece holds the separator.
-/
namespace AutoItNav

variable {α : Type} [DecidableEq α]

def consPiece (sep x : α) : List (List α) → List (List α)
  | [] => if x = sep then [[], []] else [[x]]
  | piece :: rest => if x = sep then [] :: piece :: rest else (x :: piece) :: rest

/-- The pieces between separators: one more than there are separators. -/
def pieces (sep : α) (l : List α) : List (List α) := l.foldr (consPiece sep) [[]]

@[simp] theorem pieces_nil (sep : α) : pieces sep [] = [[]] := rfl

@[simp] theorem pieces_cons (sep x : α) (l : List α) :
    pieces sep (x :: l) = consPiece sep x (pieces sep l) := rfl

theorem pieces_ne_nil (sep : α) (l : List α) : pieces sep l ≠ [] := by
  induction l with
  | nil => simp
  | cons x l ih => cases h : pieces sep l <;> simp_all [consPiece]; split <;> simp

end AutoItNav
