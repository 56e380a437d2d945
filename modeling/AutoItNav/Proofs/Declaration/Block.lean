import AutoItNav.Include.Directive
import AutoItNav.Proofs.Declaration.Spelled
import AutoItNav.Proofs.Text.Rows

/-!
Comment blocks as the reader of directives sees them. Nothing is declared on the lines inside a
block whose end marker the search reads too: in any case when it looks for a variable, in lower case
when it looks for a function.
-/
namespace AutoItNav

open Declaration Text

/-- Letters that agree up to ASCII case agree up to case. -/
theorem Spelling.begins_of_beginsAscii {literal t : Text} (begins : beginsAscii literal t = true) :
    Spelling.anyCase.Begins literal t := by
  induction literal generalizing t with
  | nil => exact ⟨[], t, rfl, rfl⟩
  | cons a literal ih =>
      cases t with
      | nil => cases begins
      | cons c t =>
          rw [beginsAscii, Bool.and_eq_true, sameAscii, decide_eq_true_eq] at begins
          obtain ⟨spelled, rest, rfl, reads⟩ := ih begins.2
          have letter : Spelling.anyCase.same a c = true := by
            rw [same, ← foldCase_lowerAscii a, begins.1, foldCase_lowerAscii]
            simp
          exact ⟨c :: spelled, rest, rfl, reads_cons.mpr ⟨c, spelled, rfl, letter, reads⟩⟩

namespace Include

variable {t line : Text} {first last : Nat}

/-- Line `first` of a text opens a comment block and line `last` closes it, and no other `#` stands
between their markers. -/
structure Block (t : Text) (first last : Nat) : Prop where
  ordered : first < last
  opens : ∃ line, (lines t)[first]? = some line ∧
    isMarker startMarkers (trimStart line) = true ∧ '#' ∉ (trimStart line).tail
  closes : ∃ line, (lines t)[last]? = some line ∧ isMarker endMarkers (trimStart line) = true
  quiet : ∀ n line, first < n → n < last → (lines t)[n]? = some line → '#' ∉ line

/-- Line `number` of a text begins with an end marker in lower case. -/
def LowerEnd (t : Text) (number : Nat) : Prop :=
  ∃ line, (lines t)[number]? = some line ∧ ∃ marker ∈ endMarkers, marker <+: trimStart line

theorem closesBlock_of_isMarker (marker : isMarker endMarkers line = true) :
    ClosesBlock .anyCase line := by
  obtain ⟨literal, member, found⟩ := List.any_eq_true.mp marker
  rw [Bool.and_eq_true] at found
  have begins := Spelling.begins_of_beginsAscii found.1
  rcases List.mem_cons.mp member with rfl | member
  · exact .inr begins
  · obtain rfl := List.mem_singleton.mp member
    exact .inl begins

theorem closesBlock_of_prefix {marker : Text} (member : marker ∈ endMarkers)
    (front : marker <+: line) : ClosesBlock .exact line := by
  obtain ⟨rest, rfl⟩ := front
  have begins : Spelling.exact.Begins marker (marker ++ rest) := ⟨marker, rest, rfl, rfl⟩
  rcases List.mem_cons.mp member with rfl | member
  · exact .inr begins
  · obtain rfl := List.mem_singleton.mp member
    exact .inl begins

/-- The end marker of a block as the search for `id` reads it, behind blanks on the closing line. -/
theorem Block.exists_closing {id : Identifier} (block : Block t first last)
    (lower : id.kind = .function → LowerEnd t last) :
    ∃ above blank closing, t = above ++ (blank ++ closing) ∧ LineStart above ∧
      above.count '\n' = last ∧ '#' ∉ blank ∧ ClosesBlock id.spelling closing := by
  obtain ⟨line, listed, marker⟩ := block.closes
  have closes : ClosesBlock id.spelling (trimStart line) := by
    unfold Identifier.spelling
    match kind : id.kind with
    | .variable => exact closesBlock_of_isMarker marker
    | .function =>
        obtain ⟨line', listed', literal, member, front⟩ := lower kind
        obtain rfl := Option.some.inj (listed.symm.trans listed')
        exact closesBlock_of_prefix member front
  obtain ⟨above, whole, below, row, _, same⟩ := getElem?_lines.mp listed
  have cut : ∃ trail, whole = line ++ trail := by
    split at same
    · exact ⟨[], by rw [same, List.append_nil]⟩
    · obtain ⟨trail, cut, _⟩ := exists_chomp_append whole
      exact ⟨trail, by rw [same, ← cut]⟩
  obtain ⟨trail, rfl⟩ := cut
  refine ⟨above, line.takeWhile isBlank, trimStart line ++ (trail ++ below), ?_, row.start,
    row.count, ?_, closes.append _⟩
  · rw [row.cut, ← List.append_assoc (line.takeWhile isBlank), trimStart,
      List.takeWhile_append_dropWhile]
    simp only [List.append_assoc]
  · intro mark
    have blank := List.mem_takeWhile_imp mark
    revert blank
    decide

/-- No `#` stands between a place on a line inside a block and the closing line. -/
theorem Block.quiet_between {before between below : Text} (block : Block t first last)
    (cut : t = before ++ between ++ below) (inside : first < before.count '\n')
    (start : LineStart (before ++ between)) (closing : (before ++ between).count '\n' = last) :
    '#' ∉ between := by
  intro mark
  obtain ⟨front, back, rfl⟩ := List.append_of_mem mark
  rw [← List.append_assoc] at start closing
  -- the closing line lies further down, since it does not begin right behind a `#`
  have further : 0 < back.count '\n' := by
    rw [List.count_pos_iff]
    obtain empty | ⟨upper, same⟩ := start.of_append
    · cases empty
    · have newline : '\n' ∈ '#' :: back := by
        rw [same]
        exact List.mem_concat_self
      exact (List.mem_cons.mp newline).resolve_left (by decide)
  rw [List.count_append, List.count_cons_of_ne (by decide)] at closing
  obtain ⟨line, listed, member⟩ :=
    exists_mem_line (c := '#') (by decide) (before ++ front) (back ++ below)
  have whole : t = before ++ front ++ '#' :: (back ++ below) := by
    rw [cut]
    simp only [List.append_assoc, List.cons_append]
  rw [← whole] at listed
  have later : first < (before ++ front).count '\n' := by
    rw [List.count_append]
    omega
  exact block.quiet _ line later (by omega) listed member

end Include

namespace Identifier

variable {id : Identifier} {t : Text} {d : Declaration} {first last : Nat}

/-- What is found begins on no line inside a comment block, provided the search for functions meets
an end marker in lower case. -/
theorem not_found_inside_block (unbroken : '\n' ∉ id.text) (block : Include.Block t first last)
    (lower : id.kind = .function → Include.LowerEnd t last) (found : id.find t = .ok (some d)) :
    ¬(first < t.row d.start ∧ t.row d.start < last) := by
  rintro ⟨inside, before⟩
  obtain ⟨above, _, rfl, _, line, _, rfl, clear, declared, start⟩ := declares_of_find found
  obtain ⟨head, ahead, rfl, single, outside⟩ := declared.outside unbroken
  obtain ⟨upper, blank, closing, cut, below, count, quiet, closes⟩ := block.exists_closing lower
  have number : (above ++ line ++ head).count '\n' =
      (above ++ (line ++ (head ++ ahead))).row d.start := by
    rw [start, ← byteSize_append, ← List.append_assoc, row_boundary, List.count_append,
      List.count_eq_zero.mpr single, Nat.add_zero]
  rw [← number] at inside before
  have whole : above ++ line ++ head ++ ahead = upper ++ (blank ++ closing) := by
    simpa only [List.append_assoc] using cut
  rcases List.append_eq_append_iff.mp whole with ⟨between, rfl, rfl⟩ | ⟨more, same, _⟩
  · have gap := block.quiet_between cut inside below count
    rw [← List.append_assoc] at outside
    exact outside.not_closesBlock (List.not_mem_append gap quiet) closes
  · rw [same, List.count_append] at before
    omega

theorem not_found_inside_block_lower :
    let id : Identifier := ⟨['g', 'o'], by decide⟩
    let t := "#CS\nFunc go()\n #ce\nFunc go()".toList
    '\n' ∉ id.text ∧ Include.Block t 0 2 ∧ Include.LowerEnd t 2 ∧
      id.find t = .ok (some ⟨19, 5, 2⟩) ∧ ¬(0 < row t 19 ∧ row t 19 < 2) := by
  intro id t
  have unbroken : '\n' ∉ id.text := by decide
  have quiet : ∀ n line, 0 < n → n < 2 → (lines t)[n]? = some line → '#' ∉ line := by
    intro n line low high listed
    obtain rfl : n = 1 := by omega
    obtain rfl := Option.some.inj listed
    decide
  have block : Include.Block t 0 2 :=
    ⟨by decide, ⟨_, rfl, by decide +kernel, by decide⟩, ⟨_, rfl, by decide +kernel⟩, quiet⟩
  have lower : Include.LowerEnd t 2 := ⟨_, rfl, blockEnd, by decide, by decide⟩
  have found : id.find t = .ok (some ⟨19, 5, 2⟩) := by decide +kernel
  exact ⟨unbroken, block, lower, found,
    not_found_inside_block unbroken block (fun _ => lower) found⟩

/-- An end marker in upper case ends a block for the reader of directives, and yet the search for a
function finds a declaration inside that block. -/
theorem found_inside_block_upper :
    let id : Identifier := ⟨['g', 'o'], by decide⟩
    let t := "#CS\nFunc go()\n#CE".toList
    id.kind = .function ∧ '\n' ∉ id.text ∧ '#' ∉ id.text ∧ Include.Block t 0 2 ∧
      id.find t = .ok (some ⟨4, 5, 2⟩) ∧ 0 < row t 4 ∧ row t 4 < 2 := by
  intro id t
  have quiet : ∀ n line, 0 < n → n < 2 → (lines t)[n]? = some line → '#' ∉ line := by
    intro n line low high listed
    obtain rfl : n = 1 := by omega
    obtain rfl := Option.some.inj listed
    decide
  have block : Include.Block t 0 2 :=
    ⟨by decide, ⟨_, rfl, by decide +kernel, by decide⟩, ⟨_, rfl, by decide +kernel⟩, quiet⟩
  exact ⟨by decide, by decide, by decide, block, by decide +kernel, by decide, by decide⟩

end Identifier

end AutoItNav
