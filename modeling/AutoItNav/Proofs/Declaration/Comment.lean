import AutoItNav.Declaration.Pattern
import AutoItNav.Proofs.Text.Reading

/-!
What the local tests for comments mean: where a comment opens, where a block ends and which places
of a line lie outside a block.
-/
namespace AutoItNav.Declaration

def opensComment (s : Spelling) (t : Text) : Bool :=
  match t with
  | ';' :: _ => true
  | '#' :: _ => s.begins blockStart t || s.begins longBlockStart t
  | _ => false

def closesBlock (s : Spelling) (t : Text) : Bool :=
  s.begins blockEnd t || s.begins longBlockEnd t

/-- Whether the next `#` ends a block. -/
def insideBlock (s : Spelling) (t : Text) : Bool := closesBlock s (t.dropWhile (· ≠ '#'))

/-- Whether some place from here to the end of the line is outside a block. -/
def leavesBlock (s : Spelling) : Text → Bool
  | [] => true
  | c :: t =>
    if c = '\n' then !insideBlock s t
    else if c = '#' then !closesBlock s (c :: t) || leavesBlock s t
    else leavesBlock s t

variable {s : Spelling} {c : Char} {t : Text}

/-- A line comment or a block comment opens right here. -/
def OpensComment (s : Spelling) (t : Text) : Prop :=
  s.Begins [';'] t ∨ s.Begins blockStart t ∨ s.Begins longBlockStart t

/-- A block comment ends right here. -/
def ClosesBlock (s : Spelling) (t : Text) : Prop :=
  s.Begins blockEnd t ∨ s.Begins longBlockEnd t

/-- The next `#`, if there is one, does not end a block. -/
def OutsideBlock (s : Spelling) (t : Text) : Prop :=
  ∀ passed ahead, t = passed ++ '#' :: ahead → '#' ∉ passed → ¬ClosesBlock s ('#' :: ahead)

theorem opensComment_iff : opensComment s t = true ↔ OpensComment s t := by
  unfold opensComment OpensComment
  split
  · next ahead =>
      simp only [true_iff]
      exact .inl ⟨[';'], ahead, rfl, s.reads_self _⟩
  · next ahead =>
      rw [Bool.or_eq_true, Spelling.begins_iff, Spelling.begins_iff]
      constructor
      · exact .inr
      · rintro (line | block)
        · obtain ⟨later, same⟩ := line.head_eq (by decide) (by decide)
          cases same
        · exact block
  · next noLine noBlock =>
      simp only [Bool.false_eq_true, false_iff]
      rintro (line | short | long)
      · obtain ⟨later, rfl⟩ := line.head_eq (by decide) (by decide)
        exact noLine later rfl
      · obtain ⟨later, rfl⟩ := short.head_eq (by decide) (by decide)
        exact noBlock later rfl
      · obtain ⟨later, rfl⟩ := long.head_eq (by decide) (by decide)
        exact noBlock later rfl

theorem closesBlock_iff : closesBlock s t = true ↔ ClosesBlock s t := by
  rw [closesBlock, Bool.or_eq_true, Spelling.begins_iff, Spelling.begins_iff, ClosesBlock]

theorem ClosesBlock.head_eq (closes : ClosesBlock s t) : ∃ later, t = '#' :: later := by
  rcases closes with short | long
  · exact short.head_eq (by decide) (by decide)
  · exact long.head_eq (by decide) (by decide)

theorem ClosesBlock.append (closes : ClosesBlock s t) (more : Text) :
    ClosesBlock s (t ++ more) :=
  closes.imp (·.append more) (·.append more)

theorem not_closesBlock_nil : ¬ClosesBlock s [] := by
  intro closes
  obtain ⟨later, same⟩ := closes.head_eq
  cases same

theorem OutsideBlock.not_closesBlock {passed ahead : Text}
    (outside : OutsideBlock s (passed ++ ahead)) (quiet : '#' ∉ passed) :
    ¬ClosesBlock s ahead := by
  intro closes
  obtain ⟨later, rfl⟩ := closes.head_eq
  exact outside passed later rfl quiet closes

theorem outsideBlock_nil : OutsideBlock s [] := by
  intro passed ahead cut
  simp at cut

theorem outsideBlock_mark : OutsideBlock s ('#' :: t) ↔ ¬ClosesBlock s ('#' :: t) := by
  constructor
  · intro outside
    exact outside [] t rfl (by simp)
  · intro opens passed ahead cut first
    cases passed with
    | nil =>
        cases cut
        exact opens
    | cons d passed =>
        cases cut
        exact absurd List.mem_cons_self first

theorem outsideBlock_cons (other : c ≠ '#') : OutsideBlock s (c :: t) ↔ OutsideBlock s t := by
  constructor
  · rintro outside passed ahead rfl first
    exact outside (c :: passed) ahead rfl (List.not_mem_cons_of_ne_of_not_mem other.symm first)
  · intro outside passed ahead cut first
    cases passed with
    | nil =>
        cases cut
        exact absurd rfl other
    | cons d passed =>
        cases cut
        exact outside passed ahead rfl (List.not_mem_of_not_mem_cons first)

theorem insideBlock_iff : insideBlock s t = false ↔ OutsideBlock s t := by
  induction t with
  | nil =>
      have never : closesBlock s [] ≠ true := mt closesBlock_iff.mp not_closesBlock_nil
      simpa [insideBlock, outsideBlock_nil] using never
  | cons c t ih =>
      by_cases mark : c = '#'
      · subst c
        rw [outsideBlock_mark, ← closesBlock_iff]
        simp [insideBlock]
      · rw [outsideBlock_cons mark, ← ih]
        simp [insideBlock, mark]

instance (s : Spelling) (t : Text) : Decidable (OutsideBlock s t) :=
  decidable_of_iff _ insideBlock_iff

/-- A line leaves the block when the block test fails at one of its places, the end included. -/
theorem leavesBlock_iff : leavesBlock s t = true ↔
    ∃ line ahead, t = line ++ ahead ∧ '\n' ∉ line ∧ OutsideBlock s ahead := by
  induction t with
  | nil => exact iff_of_true rfl ⟨[], [], rfl, by simp, outsideBlock_nil⟩
  | cons c t ih =>
      rw [leavesBlock]
      have later : (∃ line ahead, c :: t = line ++ ahead ∧ '\n' ∉ line ∧ OutsideBlock s ahead) ↔
          OutsideBlock s (c :: t) ∨ c ≠ '\n' ∧
            ∃ line ahead, t = line ++ ahead ∧ '\n' ∉ line ∧ OutsideBlock s ahead := by
        constructor
        · rintro ⟨line, ahead, cut, unbroken, outside⟩
          cases line with
          | nil =>
              cases cut
              exact .inl outside
          | cons d line =>
              cases cut
              obtain ⟨other, unbroken⟩ := List.ne_and_not_mem_of_not_mem_cons unbroken
              exact .inr ⟨other.symm, line, ahead, rfl, unbroken, outside⟩
        · rintro (outside | ⟨other, line, ahead, rfl, unbroken, outside⟩)
          · exact ⟨[], c :: t, rfl, by simp, outside⟩
          · exact ⟨c :: line, ahead, rfl,
              List.not_mem_cons_of_ne_of_not_mem other.symm unbroken, outside⟩
      rw [later, ← ih]
      by_cases newline : c = '\n'
      · subst c
        rw [if_pos rfl, outsideBlock_cons (by decide), ← insideBlock_iff]
        simp
      · by_cases mark : c = '#'
        · subst c
          rw [if_neg newline, if_pos rfl, outsideBlock_mark, ← closesBlock_iff]
          simp [newline]
        · rw [if_neg newline, if_neg mark, outsideBlock_cons mark]
          constructor
          · intro leaves
            exact .inr ⟨newline, leaves⟩
          · rintro (outside | ⟨_, leaves⟩)
            · exact ih.mpr ⟨[], t, rfl, by simp, outside⟩
            · exact leaves

end AutoItNav.Declaration
