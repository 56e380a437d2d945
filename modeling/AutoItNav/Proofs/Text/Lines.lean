import AutoItNav.Text.Position
import Mathlib.Data.List.Basic

/-!
Cutting a text where a line begins. Every cut of a text is on some line: the text before the cut
ends in a part of that line, behind all the lines above it.
-/
namespace AutoItNav.Text

/-- A line begins behind this text. -/
def LineStart (above : Text) : Prop := above = [] ∨ ∃ upper, above = upper ++ ['\n']

theorem lineStart_nil : LineStart [] := .inl rfl

theorem lineStart_snoc (upper : Text) : LineStart (upper ++ ['\n']) := .inr ⟨upper, rfl⟩

theorem LineStart.cons {above : Text} (start : LineStart above) (c : Char) (inner : above ≠ []) :
    LineStart (c :: above) := by
  obtain rfl | ⟨upper, rfl⟩ := start
  · exact absurd rfl inner
  · exact lineStart_snoc (c :: upper)

theorem LineStart.append {above lower : Text} (start : LineStart above)
    (next : LineStart lower) : LineStart (above ++ lower) := by
  obtain rfl | ⟨upper, rfl⟩ := next
  · simpa using start
  · rw [← List.append_assoc]
    exact lineStart_snoc (above ++ upper)

theorem LineStart.of_cons {c : Char} {above : Text} (start : LineStart (c :: above)) :
    LineStart above := by
  obtain empty | ⟨upper, same⟩ := start
  · cases empty
  · cases upper with
    | nil =>
        cases same
        exact lineStart_nil
    | cons d upper =>
        cases same
        exact lineStart_snoc upper

theorem LineStart.of_append {front above : Text} (start : LineStart (front ++ above)) :
    LineStart above := by
  induction front with
  | nil => exact start
  | cons c front ih => exact ih start.of_cons

theorem LineStart.eq_newline {c : Char} (start : LineStart [c]) : c = '\n' := by
  obtain empty | ⟨upper, same⟩ := start
  · cases empty
  · cases upper with
    | nil => cases same; rfl
    | cons d upper => simp at same

theorem exists_lineStart (t : Text) :
    ∃ above line, t = above ++ line ∧ LineStart above ∧ '\n' ∉ line := by
  induction t with
  | nil => exact ⟨[], [], rfl, lineStart_nil, by simp⟩
  | cons c t ih =>
      obtain ⟨above, line, rfl, start, unbroken⟩ := ih
      by_cases newline : c = '\n'
      · subst c
        exact ⟨'\n' :: above, line, rfl, (lineStart_snoc []).append start, unbroken⟩
      · by_cases inner : above = []
        · subst above
          refine ⟨[], c :: line, rfl, lineStart_nil, ?_⟩
          simp [unbroken, Ne.symm newline]
        · exact ⟨c :: above, line, rfl, start.cons c inner, unbroken⟩

/-- The lines that begin further down in a text that starts at byte `here`: the offset of each, with
the text from there on. -/
def linesBelow (here : Nat) : Text → List (Nat × Text)
  | [] => []
  | c :: t =>
    if c = '\n' then (here + 1, t) :: linesBelow (here + 1) t
    else linesBelow (here + c.utf8Size) t

/-- Every line of a text from top to bottom. -/
def lineStarts (t : Text) : List (Nat × Text) := (0, t) :: linesBelow 0 t

theorem mem_linesBelow {here start : Nat} {t line : Text} :
    (start, line) ∈ linesBelow here t ↔
      ∃ above, t = above ++ line ∧ LineStart above ∧ above ≠ [] ∧
        start = here + byteSize above := by
  induction t generalizing here with
  | nil =>
      constructor
      · intro member
        cases member
      · rintro ⟨above, cut, _, inner, _⟩
        exact absurd (List.append_eq_nil_iff.mp cut.symm).1 inner
  | cons c t ih =>
      -- the first character ends a line by itself or belongs to the part above
      have split : (∃ above, c :: t = above ++ line ∧ LineStart above ∧ above ≠ [] ∧
          start = here + byteSize above) ↔
          c = '\n' ∧ (start, line) = (here + 1, t) ∨ (start, line) ∈
            linesBelow (here + c.utf8Size) t := by
        rw [ih]
        constructor
        · rintro ⟨above, cut, first, inner, rfl⟩
          cases above with
          | nil => exact absurd rfl inner
          | cons d above =>
              cases cut
              by_cases last : above = []
              · subst above
                obtain rfl := first.eq_newline
                exact .inl ⟨rfl, rfl⟩
              · exact .inr ⟨above, rfl, first.of_cons, last,
                  by rw [byteSize_cons, Nat.add_assoc]⟩
        · rintro (⟨rfl, same⟩ | ⟨above, rfl, first, inner, rfl⟩)
          · cases same
            exact ⟨['\n'], rfl, lineStart_snoc [], by simp, rfl⟩
          · exact ⟨c :: above, rfl, first.cons c inner, by simp,
              by rw [byteSize_cons, Nat.add_assoc]⟩
      rw [split, linesBelow]
      by_cases newline : c = '\n'
      · subst c
        rw [if_pos rfl, List.mem_cons]
        simp only [true_and]
        rfl
      · rw [if_neg newline]
        simp only [newline, false_and, false_or]

/-- No line begins inside a part without a line break. -/
theorem linesBelow_append {here : Nat} {part : Text} (unbroken : '\n' ∉ part) (rest : Text) :
    linesBelow here (part ++ rest) = linesBelow (here + byteSize part) rest := by
  induction part generalizing here with
  | nil => rfl
  | cons c part ih =>
      obtain ⟨other, unbroken⟩ := List.ne_and_not_mem_of_not_mem_cons unbroken
      rw [List.cons_append, linesBelow, if_neg other.symm, ih unbroken, byteSize_cons,
        Nat.add_assoc]

theorem lineStarts_of_unbroken {t : Text} (unbroken : '\n' ∉ t) : lineStarts t = [(0, t)] := by
  have below : linesBelow 0 (t ++ []) = [] := linesBelow_append unbroken []
  rw [List.append_nil] at below
  rw [lineStarts, below]

theorem lineStarts_append_newline {part : Text} (unbroken : '\n' ∉ part) (rest : Text) :
    lineStarts (part ++ '\n' :: rest) =
      (0, part ++ '\n' :: rest) :: (byteSize part + 1, rest) ::
        linesBelow (byteSize part + 1) rest := by
  rw [lineStarts, linesBelow_append unbroken, linesBelow, if_pos rfl, Nat.zero_add]

theorem mem_lineStarts {start : Nat} {t line : Text} :
    (start, line) ∈ lineStarts t ↔
      ∃ above, t = above ++ line ∧ LineStart above ∧ start = byteSize above := by
  rw [lineStarts, List.mem_cons, mem_linesBelow]
  constructor
  · rintro (same | ⟨above, cut, first, _, size⟩)
    · cases same
      exact ⟨[], rfl, lineStart_nil, rfl⟩
    · exact ⟨above, cut, first, by rw [size, Nat.zero_add]⟩
  · rintro ⟨above, cut, first, rfl⟩
    by_cases top : above = []
    · subst above
      cases cut
      exact .inl rfl
    · exact .inr ⟨above, cut, first, top, (Nat.zero_add _).symm⟩

end AutoItNav.Text
