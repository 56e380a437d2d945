import AutoItNav.Proofs.Text.Rows
import AutoItNav.Proofs.Text.Trim
import AutoItNav.Text.Line

/-!
The line under a cursor. At whatever column a position is, it sees the whole line with its number,
up to the carriage returns in front of the break.
-/
namespace AutoItNav.Text

variable {t above front line below : Text} {n : Nat}

theorem lineFrom_cons (start : Text) (offset : Nat) (c : Char) (rest : Text) :
    lineFrom start (c.utf8Size + offset) (c :: rest) =
      lineFrom (if c = '\n' then rest else start) offset rest := by
  obtain ⟨size, same⟩ := Nat.exists_eq_add_one.mpr c.utf8Size_pos
  rw [same, Nat.add_right_comm, lineFrom, if_pos (by omega)]
  congr 1
  omega

/-- Behind whole lines a line starts afresh. -/
theorem lineFrom_above (begins : LineStart above) (start : Text) (offset : Nat) (rest : Text) :
    lineFrom start (byteSize above + offset) (above ++ rest) =
      lineFrom (if above = [] then start else rest) offset rest := by
  induction above generalizing start with
  | nil => simp
  | cons c above ih =>
      rw [byteSize_cons, Nat.add_assoc, List.cons_append, lineFrom_cons, ih begins.of_cons,
        if_neg (List.cons_ne_nil c above)]
      by_cases last : above = []
      · subst last
        obtain rfl := begins.eq_newline
        rfl
      · rw [if_neg last]

theorem lineFrom_front (unbroken : '\n' ∉ front) (start rest : Text) :
    lineFrom start (byteSize front) (front ++ rest) =
      some (dropTrailing isReturn (restOfLine start)) := by
  induction front with
  | nil => cases rest <;> rfl
  | cons c front ih =>
      obtain ⟨other, later⟩ := List.ne_and_not_mem_of_not_mem_cons unbroken
      rw [byteSize_cons, List.cons_append, lineFrom_cons, if_neg other.symm, ih later]

theorem lineAt?_boundary (begins : LineStart above) (unbroken : '\n' ∉ front) (rest : Text) :
    lineAt? (above ++ (front ++ rest)) (byteSize above + byteSize front) =
      some (dropTrailing isReturn (restOfLine (front ++ rest))) := by
  rw [lineAt?, lineFrom_above begins, lineFrom_front unbroken]
  by_cases top : above = []
  · rw [if_pos top, top, List.nil_append]
  · rw [if_neg top]

/-- A search for `column` that has `passed` units behind it cuts its line here: all places before
are left of the column, and this one is not unless the line ends. -/
structure StopsAt (column passed : Nat) (front back : Text) : Prop where
  left : ∀ init rest, front = init ++ rest → rest ≠ [] → passed + units init < column
  reached : back ≠ [] → column ≤ passed + units front

/-- Another place of the line is left of the column, or it is not in front of the stop. -/
theorem StopsAt.left_or_prefix {column passed : Nat} {back front' back' : Text}
    (stops : StopsAt column passed front back) (same : front ++ back = front' ++ back') :
    passed + units front' < column ∨ front <+: front' := by
  rcases List.append_eq_append_iff.mp same with ⟨more, cut, _⟩ | ⟨more, cut, _⟩
  · exact .inr ⟨more, cut.symm⟩
  · by_cases none : more = []
    · rw [none, List.append_nil] at cut
      exact .inr (cut ▸ List.prefix_rfl)
    · exact .inl (stops.left front' more cut none)

/-- Of two searches in one line the one for the lower column stops first. -/
theorem StopsAt.prefix {column column' passed : Nat} {back front' back' : Text}
    (first : StopsAt column passed front back) (second : StopsAt column' passed front' back')
    (lower : column ≤ column') (same : front ++ back = front' ++ back') : front <+: front' := by
  rcases first.left_or_prefix same with left | ahead
  · by_cases none : back' = []
    · subst none
      exact ⟨back, by rw [same, List.append_nil]⟩
    · have reached := second.reached none
      omega
  · exact ahead

/-- A column is reached within its line, or the line's end is. -/
theorem exists_seekColumn (column passed here : Nat) (unbroken : '\n' ∉ line)
    (stop : ∀ c, below.head? = some c → c = '\n') :
    ∃ front back, line = front ++ back ∧
      seekColumn column passed here (line ++ below) = here + byteSize front ∧
      StopsAt column passed front back := by
  induction line generalizing passed here with
  | nil =>
      refine ⟨[], [], rfl, ?_, by simp, by simp⟩
      cases below with
      | nil => rfl
      | cons c below =>
          obtain rfl := stop c rfl
          rw [List.nil_append, seekColumn, if_pos (.inl rfl)]
          rfl
  | cons c line ih =>
      obtain ⟨other, later⟩ := List.ne_and_not_mem_of_not_mem_cons unbroken
      rw [List.cons_append, seekColumn]
      split
      · next ends =>
          have reached := ends.resolve_left other.symm
          exact ⟨[], c :: line, rfl, rfl, by simp, fun _ => reached⟩
      · next ahead =>
          rw [not_or, Nat.not_le] at ahead
          obtain ⟨front, back, rfl, found, stops⟩ :=
            ih (passed + unitsOf c) (here + c.utf8Size) later
          refine ⟨c :: front, back, rfl, ?_, ?_, ?_⟩
          · rw [found, byteSize_cons, Nat.add_assoc]
          · intro init rest cut some
            cases init with
            | nil => exact ahead.2
            | cons d init =>
                obtain ⟨rfl, same⟩ := List.cons.inj cut
                rw [units_cons, ← Nat.add_assoc]
                exact stops.left init rest same some
          · intro some
            rw [units_cons, ← Nat.add_assoc]
            exact stops.reached some

theorem restOfLine_append (unbroken : '\n' ∉ line) (stop : ∀ c, below.head? = some c → c = '\n') :
    restOfLine (line ++ below) = line := by
  have single : ∀ c ∈ line, decide (c ≠ '\n') = true := by
    intro c member
    simpa using ne_of_mem_of_not_mem member unbroken
  rw [restOfLine, List.takeWhile_append_of_pos single]
  cases below with
  | nil => simp
  | cons c below =>
      obtain rfl := stop c rfl
      simp

theorem Row.restOfLine_eq (row : Row t n above line below) : restOfLine (line ++ below) = line :=
  restOfLine_append row.unbroken row.stop

/-- From every place on a row that row is seen. -/
theorem Row.lineAt?_front {back : Text} (row : Row t n above (front ++ back) below) :
    Text.lineAt? t (byteSize above + byteSize front) =
      some (dropTrailing isReturn (front ++ back)) := by
  have unbroken : '\n' ∉ front := fun newline => row.unbroken (List.mem_append_left back newline)
  have seen := lineAt?_boundary row.start unbroken (back ++ below)
  rw [← List.append_assoc front, row.restOfLine_eq] at seen
  rw [row.cut, List.append_assoc, seen]

/-- The line that a position sees is the row with its number. -/
theorem Row.lineAt? (row : Row t n above line below) {p : Position} (here : p.line.toNat = n) :
    ∃ offset, offsetAt? t p = some offset ∧
      Text.lineAt? t offset = some (dropTrailing isReturn line) := by
  obtain ⟨front, back, rfl, reached, _⟩ :=
    exists_seekColumn p.character.toNat 0 (byteSize above) row.unbroken row.stop
  refine ⟨byteSize above + byteSize front, ?_, row.lineAt?_front⟩
  rw [offsetAt?, here, row.cut, ← row.count, List.append_assoc, seekLine_lines row.start,
    Nat.zero_add]
  exact congrArg some reached

theorem seekLine_eq_some {here there : Nat} {rest : Text}
    (found : seekLine n here t = some (there, rest)) :
    ∃ above, t = above ++ rest ∧ LineStart above ∧ above.count '\n' = n ∧
      there = here + byteSize above := by
  induction t generalizing n here with
  | nil =>
      cases n with
      | zero =>
          cases found
          exact ⟨[], rfl, lineStart_nil, rfl, rfl⟩
      | succ n => cases found
  | cons c t ih =>
      cases n with
      | zero =>
          cases found
          exact ⟨[], rfl, lineStart_nil, rfl, rfl⟩
      | succ n =>
          rw [seekLine] at found
          split at found
          · next newline =>
              subst c
              obtain ⟨above, rfl, start, count, reached⟩ := ih found
              refine ⟨'\n' :: above, rfl, (lineStart_snoc []).append start, ?_, ?_⟩
              · rw [List.count_cons_self, count]
              · rw [reached, byteSize_cons, Nat.add_assoc]
                rfl
          · next other =>
              obtain ⟨above, rfl, start, count, reached⟩ := ih found
              have inner : above ≠ [] := by
                rintro rfl
                cases count
              refine ⟨c :: above, rfl, start.cons c inner, ?_, ?_⟩
              · rw [List.count_cons_of_ne other, count]
              · rw [reached, byteSize_cons, Nat.add_assoc]

/-- A position that is found is on the row with its line's number. -/
theorem exists_row_of_offsetAt? {offset : Nat} (found : offsetAt? t p = some offset) :
    ∃ above front back below, Row t p.line.toNat above (front ++ back) below ∧
      offset = byteSize above + byteSize front ∧ StopsAt p.character.toNat 0 front back := by
  obtain ⟨⟨here, rest⟩, reached, column⟩ := Option.map_eq_some_iff.mp found
  obtain ⟨above, rfl, start, count, rfl⟩ := seekLine_eq_some reached
  dsimp only at column
  have row := count ▸ Row.of_lineStart start rest
  obtain ⟨front, back, split, seen, stops⟩ :=
    exists_seekColumn p.character.toNat 0 (0 + byteSize above) row.unbroken row.stop
  rw [restOfLine, List.takeWhile_append_dropWhile, column, Nat.zero_add] at seen
  exact ⟨above, front, back, _, split ▸ row, seen, stops⟩

end AutoItNav.Text
