import AutoItNav.Proofs.Text.Pieces
import AutoItNav.Proofs.Text.Projection
import Mathlib.Data.List.TakeWhile

/-!
The lines of a text by their numbers. The line with a number is what stands behind as many breaks,
up to the next break and without the carriage return in front of it.
-/
namespace AutoItNav

namespace Text

theorem lines_of_unbroken {line : Text} (unbroken : '\n' ∉ line) :
    lines line = if line.isEmpty then [] else [line] := by
  rw [lines, pieces_of_not_mem unbroken]
  cases line <;> rfl

theorem lines_append_cons {line : Text} (unbroken : '\n' ∉ line) (rest : Text) :
    lines (line ++ '\n' :: rest) = chomp line :: lines rest := by
  rw [lines, lines, pieces_append_cons unbroken, List.reverse_cons]
  cases back : (pieces '\n' rest).reverse with
  | nil => exact absurd (List.reverse_eq_nil_iff.mp back) (pieces_ne_nil '\n' rest)
  | cons last back =>
      simp only [List.cons_append, List.map_append, List.map_cons, List.map_nil,
        ← List.append_assoc, List.reverse_append, List.reverse_cons, List.reverse_nil,
        List.nil_append]

/-- To go through a text line by line. -/
theorem line_induction {P : Text → Prop} (last : ∀ line, '\n' ∉ line → P line)
    (more : ∀ line rest, '\n' ∉ line → P rest → P (line ++ '\n' :: rest)) (t : Text) : P t := by
  by_cases broken : '\n' ∈ t
  · obtain ⟨line, rest, cut, unbroken⟩ := List.eq_append_cons_of_mem broken
    have shorter : rest.length < t.length := by
      rw [cut, List.length_append, List.length_cons]
      omega
    rw [cut]
    exact more line rest unbroken (line_induction last more rest)
  · exact last t broken
termination_by t.length

theorem append_newline_inj {line line' rest rest' : Text} (unbroken : '\n' ∉ line)
    (unbroken' : '\n' ∉ line') (same : line ++ '\n' :: rest = line' ++ '\n' :: rest') :
    line = line' ∧ rest = rest' := by
  have first := congrArg (pieces '\n') same
  rw [pieces_append_cons unbroken, pieces_append_cons unbroken'] at first
  obtain rfl := (List.cons.inj first).1
  exact ⟨rfl, (List.cons.inj (List.append_cancel_left same)).2⟩

/-- Line `number` of a text is `line`, between the lines above it and what is left of the text. -/
structure Row (t : Text) (number : Nat) (above line below : Text) : Prop where
  cut : t = above ++ line ++ below
  start : LineStart above
  count : above.count '\n' = number
  unbroken : '\n' ∉ line
  stop : ∀ c, below.head? = some c → c = '\n'

variable {t front rest above line below : Text} {n : Nat}

theorem Row.top (unbroken : '\n' ∉ front) : Row (front ++ '\n' :: rest) 0 [] front ('\n' :: rest) :=
  ⟨rfl, lineStart_nil, rfl, unbroken, by rintro c ⟨⟩; rfl⟩

theorem Row.lower (unbroken : '\n' ∉ front) (row : Row rest n above line below) :
    Row (front ++ '\n' :: rest) (n + 1) (front ++ '\n' :: above) line below := by
  obtain ⟨rfl, start, rfl, single, stop⟩ := row
  refine ⟨by simp, ?_, ?_, single, stop⟩
  · rw [List.append_cons]
    exact (lineStart_snoc front).append start
  · rw [List.count_append, List.count_cons_self, List.count_eq_zero.mpr unbroken, Nat.zero_add]

theorem Row.of_unbroken (unbroken : '\n' ∉ t) (row : Row t n above line below) :
    n = 0 ∧ line = t ∧ below = [] := by
  obtain ⟨rfl, start, rfl, _, stop⟩ := row
  obtain rfl | ⟨upper, rfl⟩ := start
  · cases below with
    | nil => simp
    | cons c below =>
        obtain rfl := stop c rfl
        simp at unbroken
  · simp at unbroken

theorem Row.top_or_lower (unbroken : '\n' ∉ front)
    (row : Row (front ++ '\n' :: rest) n above line below) :
    n = 0 ∧ line = front ∧ below = '\n' :: rest ∨
      ∃ m upper, n = m + 1 ∧ Row rest m upper line below := by
  obtain ⟨cut, start, rfl, single, stop⟩ := row
  by_cases inner : '\n' ∈ above
  · right
    obtain ⟨first, upper, rfl, single'⟩ := List.eq_append_cons_of_mem inner
    rw [List.append_assoc, List.append_assoc, List.cons_append] at cut
    obtain ⟨rfl, rfl⟩ := append_newline_inj unbroken single' cut
    rw [List.append_cons] at start
    refine ⟨upper.count '\n', upper, ?_, (List.append_assoc ..).symm, start.of_append, rfl, single,
      stop⟩
    rw [List.count_append, List.count_cons_self, List.count_eq_zero.mpr unbroken, Nat.zero_add]
  · left
    obtain rfl | ⟨upper, rfl⟩ := start
    · cases below with
      | nil =>
          rw [List.nil_append, List.append_nil] at cut
          rw [← cut] at single
          simp at single
      | cons c below =>
          obtain rfl := stop c rfl
          obtain ⟨rfl, rfl⟩ := append_newline_inj unbroken single cut
          exact ⟨rfl, rfl, rfl⟩
    · simp at inner

/-- The lines of a text are its rows, each without the carriage return in front of its break; an
empty row at the very end is none of them. -/
theorem getElem?_lines {l : Text} : (lines t)[n]? = some l ↔
    ∃ above line below, Row t n above line below ∧ line ++ below ≠ [] ∧
      l = if below = [] then line else chomp line := by
  induction t using line_induction generalizing n with
  | last front unbroken =>
      rw [lines_of_unbroken unbroken]
      constructor
      · intro found
        split at found
        · cases found
        · next inhabited =>
            rw [List.getElem?_singleton] at found
            split at found
            · next first =>
                obtain rfl := Option.some.inj found
                have row : Row front n [] front [] :=
                  ⟨by simp, lineStart_nil, first.symm, unbroken, by rintro c ⟨⟩⟩
                exact ⟨[], front, [], row, by simpa using inhabited, rfl⟩
            · cases found
      · rintro ⟨above, line, below, row, inhabited, rfl⟩
        obtain ⟨rfl, rfl, rfl⟩ := row.of_unbroken unbroken
        rw [List.append_nil] at inhabited
        simp [inhabited]
  | more front rest unbroken ih =>
      rw [lines_append_cons unbroken]
      constructor
      · intro found
        cases n with
        | zero =>
            obtain rfl := Option.some.inj found
            exact ⟨[], front, '\n' :: rest, .top unbroken, by simp, rfl⟩
        | succ n =>
            obtain ⟨above, line, below, row, inhabited, same⟩ := ih.mp found
            exact ⟨_, line, below, row.lower unbroken, inhabited, same⟩
      · rintro ⟨above, line, below, row, inhabited, same⟩
        rcases row.top_or_lower unbroken with ⟨rfl, rfl, rfl⟩ | ⟨m, upper, rfl, lower⟩
        · exact congrArg some same.symm
        · exact ih.mpr ⟨upper, line, below, lower, inhabited, same⟩

theorem exists_chomp_append (t : Text) : ∃ trail, t = chomp t ++ trail ∧ ∀ c ∈ trail, c = '\r' := by
  unfold chomp
  split
  · next back reversed =>
      refine ⟨['\r'], ?_, by simp⟩
      rw [← List.reverse_reverse t, reversed, List.reverse_cons]
  · exact ⟨[], by simp, by simp⟩

/-- The number of the line that the place at byte `offset` is on. -/
def row (t : Text) (offset : Nat) : Nat := (walk (0, 0) offset t).1

theorem foldl_stepOver_fst (before : Text) (here : Nat × Nat) :
    (before.foldl stepOver here).1 = here.1 + before.count '\n' := by
  induction before generalizing here with
  | nil => rfl
  | cons c before ih =>
      rw [List.foldl_cons, ih, stepOver]
      by_cases newline : c = '\n'
      · subst c
        rw [if_pos rfl, List.count_cons_self]
        omega
      · rw [if_neg newline, List.count_cons_of_ne newline]

theorem row_boundary (before after : Text) :
    (before ++ after).row (byteSize before) = before.count '\n' := by
  rw [row, walk_boundary, foldl_stepOver_fst, Nat.zero_add]

/-- Behind whole lines a row begins, and it goes on up to the next break. -/
theorem Row.of_lineStart (start : LineStart above) (rest : Text) :
    Row (above ++ rest) (above.count '\n') above (restOfLine rest) (rest.dropWhile (· ≠ '\n')) := by
  refine ⟨?_, start, rfl, ?_, ?_⟩
  · rw [restOfLine, List.append_assoc, List.takeWhile_append_dropWhile]
  · intro newline
    simpa using List.mem_takeWhile_imp newline
  · intro c first
    have stop := List.head?_dropWhile_not (· ≠ '\n') rest
    rw [first] at stop
    simpa using stop

/-- Every cut of a text is on the row that the breaks before it lead to. -/
theorem exists_row (before after : Text) :
    ∃ above front back below, before = above ++ front ∧ after = back ++ below ∧
      Row (before ++ after) (before.count '\n') above (front ++ back) below := by
  obtain ⟨above, front, rfl, start, unbroken⟩ := exists_lineStart before
  have plain : ∀ c ∈ front, decide (c ≠ '\n') = true := by
    intro c member
    simpa using ne_of_mem_of_not_mem member unbroken
  have row := Row.of_lineStart start (front ++ after)
  rw [restOfLine, List.takeWhile_append_of_pos plain, List.dropWhile_append_of_pos plain,
    ← List.append_assoc] at row
  rw [List.count_append, List.count_eq_zero.mpr unbroken]
  exact ⟨above, front, _, _, rfl, List.takeWhile_append_dropWhile.symm, row⟩

/-- Every line number and every column of the text fits a position. -/
def Addressable (t : Text) : Prop :=
  ∀ n above line below, Row t n above line below → n < UInt32.size ∧ units line < UInt32.size

theorem addressable_of_byteSize_lt (small : byteSize t < UInt32.size) : t.Addressable := by
  rintro n above line below ⟨rfl, _, rfl, _, _⟩
  have lines := count_newline_le_byteSize above
  have columns := units_le_byteSize line
  rw [byteSize_append, byteSize_append] at small
  omega

/-- A character that ends no line is on the line that the breaks before it lead to. -/
theorem exists_mem_line {c : Char} (inner : c ≠ '\n' ∧ c ≠ '\r') (before after : Text) :
    ∃ l, (lines (before ++ c :: after))[before.count '\n']? = some l ∧ c ∈ l := by
  obtain ⟨above, front, back, below, _, cut, row⟩ := exists_row before (c :: after)
  have member : c ∈ front ++ back := by
    cases back with
    | nil =>
        cases cut
        exact absurd (row.stop c rfl) inner.1
    | cons d back =>
        cases cut
        simp
  refine ⟨_, getElem?_lines.mpr ⟨above, front ++ back, below, row, ?_, rfl⟩, ?_⟩
  · exact List.ne_nil_of_mem (List.mem_append_left below member)
  · split
    · exact member
    · obtain ⟨trail, whole, returns⟩ := exists_chomp_append (front ++ back)
      rw [whole] at member
      exact (List.mem_append.mp member).resolve_right fun late => inner.2 (returns c late)

end Text

end AutoItNav
