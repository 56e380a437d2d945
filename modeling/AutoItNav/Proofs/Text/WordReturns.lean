import AutoItNav.Proofs.Text.Column
import AutoItNav.Proofs.Text.Returns
import AutoItNav.Proofs.Text.Word

/-!
The word at a position and the two ways to end a line. Carriage returns in front of the breaks leave
it as it is, but for one kind of position: behind the end of a line that breaks off after a letter
the plain text selects the last word and the one with returns selects none.
-/
namespace AutoItNav.Text

variable {t above front back line below rest : Text} {n column : Nat} {p : Position}

theorem Row.withReturns_last (row : Row t n above line []) :
    Row (withReturns t) n (withReturns above) line [] := by
  obtain ⟨rfl, start, rfl, unbroken, stop⟩ := row
  refine ⟨?_, start.withReturns, count_withReturns above, unbroken, stop⟩
  rw [withReturns_append, withReturns_append, withReturns_of_unbroken unbroken, withReturns_nil]

theorem Row.withReturns_broken (row : Row t n above line ('\n' :: rest)) :
    Row (withReturns t) n (withReturns above) (line ++ ['\r']) ('\n' :: withReturns rest) := by
  obtain ⟨rfl, start, rfl, unbroken, stop⟩ := row
  refine ⟨?_, start.withReturns, count_withReturns above, ?_, ?_⟩
  · rw [withReturns_append, withReturns_append, withReturns_of_unbroken unbroken,
      withReturns_newline]
    simp
  · exact List.not_mem_append unbroken (by decide)
  · rintro c ⟨⟩
    rfl

/-- A position is found where the search for its column stops on its line. -/
theorem Row.offsetAt?_of_stopsAt (row : Row t p.line.toNat above (front ++ back) below)
    (stops : StopsAt p.character.toNat 0 front back) :
    offsetAt? t p = some (byteSize above + byteSize front) := by
  cases found : offsetAt? t p with
  | none =>
      have beyond := offsetAt?_eq_none_iff.mp found
      have within := row.le_count
      omega
  | some offset =>
      obtain ⟨above', front', back', below', row', rfl, stops'⟩ := exists_row_of_offsetAt? found
      obtain ⟨rfl, same, _⟩ := row.unique row'
      have first := stops.prefix stops' (Nat.le_refl _) same
      have second := stops'.prefix stops (Nat.le_refl _) same.symm
      rw [first.eq_of_length_le second.length_le]

theorem dropTrailing_isReturn (line : Text) :
    dropTrailing isReturn (line ++ ['\r']) = dropTrailing isReturn line := by
  rw [dropTrailing, List.reverse_append]
  rfl

theorem dropTrailing_of_plain (plain : '\r' ∉ line) : dropTrailing isReturn line = line := by
  obtain ⟨trail, cut, returns⟩ := exists_dropTrailing_append isReturn line
  cases trail with
  | nil => simpa using cut.symm
  | cons c trail =>
      have back := returns c List.mem_cons_self
      rw [of_decide_eq_true back] at cut
      rw [cut] at plain
      simp at plain

/-- Up to the line's end a return in front of the break is not reached. -/
theorem Row.wordAt_of_within (row : Row t p.line.toNat above (front ++ back) ('\n' :: rest))
    (stops : StopsAt p.character.toNat 0 front back)
    (within : p.character.toNat ≤ units (front ++ back)) :
    wordAt (withReturns t) p = wordAt t p := by
  have reached : p.character.toNat ≤ 0 + units front := by
    by_cases last : back = []
    · rw [last, List.append_nil] at within
      omega
    · exact stops.reached last
  have returned := row.withReturns_broken
  rw [List.append_assoc] at returned
  have stops' : StopsAt p.character.toNat 0 front (back ++ ['\r']) := ⟨stops.left, fun _ => reached⟩
  rw [row.wordAt_eq (row.offsetAt?_of_stopsAt stops),
    returned.wordAt_eq (returned.offsetAt?_of_stopsAt stops'), ← List.append_assoc,
    dropTrailing_isReturn]

theorem stopsAt_end {passed : Nat} (short : passed + units line ≤ column) :
    StopsAt column passed line [] := by
  refine ⟨?_, fun some => absurd rfl some⟩
  rintro init rest rfl some
  have wide := Nat.pos_of_ne_zero fun none => some (units_eq_zero none)
  rw [units_append] at short
  omega

/-- Behind the end of a line that breaks off, a return in front of the break is passed, and then no
word is touched. Without the return the cursor is right behind the line's last character. -/
theorem Row.wordAt_of_beyond (row : Row t p.line.toNat above line ('\n' :: rest))
    (plain : '\r' ∉ line) (beyond : units line < p.character.toNat) :
    wordAt (withReturns t) p = none ∧
      (wordAt t p = none ↔ ∀ c, line.getLast? = some c → isWordChar c = false) := by
  have one : units ['\r'] = 1 := rfl
  have ends : StopsAt p.character.toNat 0 line [] := stopsAt_end (by omega)
  have passes : StopsAt p.character.toNat 0 (line ++ ['\r']) [] := by
    apply stopsAt_end
    rw [units_append, one]
    omega
  have returned := row.withReturns_broken
  rw [← List.append_nil line] at row
  rw [← List.append_nil (line ++ ['\r'])] at returned
  constructor
  · rw [returned.wordAt_eq (returned.offsetAt?_of_stopsAt passes), List.append_nil,
      dropTrailing_isReturn, dropTrailing_of_plain plain, tokenOn, if_pos (by simp)]
    rfl
  · rw [row.wordAt_eq (row.offsetAt?_of_stopsAt ends), List.append_nil,
      dropTrailing_of_plain plain, Option.map_eq_none_iff, tokenOn, if_neg (Nat.lt_irrefl _),
      List.take_length, List.drop_length, tokenAt_eq_none_iff, List.head?_reverse]
    simp

/-- The position is behind the end of a line that breaks off after a letter. -/
def PastWord (t : Text) (p : Position) : Prop :=
  ∃ above line rest c, Row t p.line.toNat above line ('\n' :: rest) ∧
    units line < p.character.toNat ∧ line.getLast? = some c ∧ isWordChar c = true

/-- Whichever way lines end, the same word is at a position, unless that is past a word that ends
its line: there the text with returns has none. -/
theorem wordAt_withReturns (plain : '\r' ∉ t) (p : Position) :
    (¬PastWord t p → wordAt (withReturns t) p = wordAt t p) ∧
      (PastWord t p → wordAt (withReturns t) p = none ∧ wordAt t p ≠ none) := by
  have single : ∀ {above line below}, Row t p.line.toNat above line below → '\r' ∉ line := by
    rintro above line below ⟨rfl, _, _, _, _⟩ member
    simp [member] at plain
  constructor
  · intro clear
    cases placed : offsetAt? t p with
    | none =>
        have missing : offsetAt? (withReturns t) p = none := by
          rwa [offsetAt?_eq_none_iff, count_withReturns, ← offsetAt?_eq_none_iff]
        rw [wordAt, wordAt, placed, missing]
        rfl
    | some offset =>
        obtain ⟨above, front, back, below, row, rfl, stops⟩ := exists_row_of_offsetAt? placed
        cases below with
        | nil =>
            have returned := row.withReturns_last
            rw [row.wordAt_eq placed, returned.wordAt_eq (returned.offsetAt?_of_stopsAt stops)]
        | cons c rest =>
            obtain rfl := row.stop c rfl
            by_cases beyond : units (front ++ back) < p.character.toNat
            · obtain ⟨none, bare⟩ := row.wordAt_of_beyond (single row) beyond
              rw [none, eq_comm, bare]
              intro c last
              rw [← Bool.not_eq_true]
              intro letter
              exact clear ⟨above, _, rest, c, row, beyond, last, letter⟩
            · exact row.wordAt_of_within stops (Nat.not_lt.mp beyond)
  · rintro ⟨above, line, rest, c, row, beyond, last, letter⟩
    obtain ⟨none, bare⟩ := row.wordAt_of_beyond (single row) beyond
    refine ⟨none, fun missing => ?_⟩
    cases (bare.mp missing c last).symm.trans letter

/-- On the third line the cursor is behind a superscript; on the first one it is past a word. -/
theorem wordAt_withReturns_lines :
    let t := "$a\n\n😀x²\ny".toList
    let p : Position := ⟨2, 4⟩
    '\r' ∉ t ∧ ¬PastWord t p ∧ wordAt (withReturns t) p = wordAt t p ∧
      wordAt t p = some (['x', '²'], ⟨⟨2, 2⟩, ⟨2, 4⟩⟩) ∧
      PastWord t ⟨0, 3⟩ ∧ wordAt (withReturns t) ⟨0, 3⟩ = none := by
  intro t p
  have plain : '\r' ∉ t := by decide
  have first : Row t 0 [] "$a".toList "\n\n😀x²\ny".toList :=
    ⟨by decide, lineStart_nil, by decide, by decide, by rintro c ⟨⟩; rfl⟩
  have third : Row t 2 "$a\n\n".toList "😀x²".toList "\ny".toList :=
    ⟨by decide, lineStart_snoc "$a\n".toList, by decide, by decide, by rintro c ⟨⟩; rfl⟩
  have clear : ¬PastWord t p := by
    rintro ⟨above, line, rest, c, row, beyond, _⟩
    obtain ⟨_, rfl, _⟩ := row.unique third
    exact absurd beyond (by decide)
  have past : PastWord t ⟨0, 3⟩ := ⟨_, _, _, 'a', first, by decide, rfl, by decide +kernel⟩
  exact ⟨plain, clear, (wordAt_withReturns plain p).1 clear, by decide +kernel, past,
    ((wordAt_withReturns plain ⟨0, 3⟩).2 past).1⟩

/-- One column behind a word that ends its line the word is selected, and with a return in front of
the break it is not. -/
theorem no_word_past_return :
    let t := "ab\n".toList
    '\r' ∉ t ∧ wordAt t ⟨0, 3⟩ = some (['a', 'b'], ⟨⟨0, 0⟩, ⟨0, 2⟩⟩) ∧
      wordAt (withReturns t) ⟨0, 3⟩ = none := by
  decide +kernel

end AutoItNav.Text
