import AutoItNav.Proofs.Text.Lines

/-!
Offsets and positions. A boundary between two characters is projected onto the line and column that
the text before it leads to, and the position found that way leads back to the same boundary.
-/
namespace AutoItNav.Text

theorem unitsOf_pos (c : Char) : 0 < unitsOf c := by
  unfold unitsOf
  split <;> omega

theorem unitsOf_le_utf8Size (c : Char) : unitsOf c ≤ c.utf8Size := by
  have one := c.utf8Size_pos
  unfold unitsOf
  split
  · exact one
  · next beyond =>
      have wide : c.utf8Size ≠ 1 := by
        rw [Ne, Char.utf8Size_eq_one_iff, UInt32.le_iff_toNat_le]
        intro small
        exact beyond (Nat.lt_of_le_of_lt small (by decide))
      omega

theorem units_le_byteSize (t : Text) : units t ≤ byteSize t := by
  induction t with
  | nil => simp
  | cons c t ih =>
      have head := unitsOf_le_utf8Size c
      simp only [units_cons, byteSize_cons]
      omega

theorem count_newline_le_byteSize (t : Text) : t.count '\n' ≤ byteSize t := by
  induction t with
  | nil => simp
  | cons c t ih =>
      have size := c.utf8Size_pos
      rw [List.count_cons, byteSize_cons]
      split <;> omega

theorem byteSize_eq_zero {t : Text} (none : byteSize t = 0) : t = [] := by
  cases t with
  | nil => rfl
  | cons c t =>
      have size := c.utf8Size_pos
      rw [byteSize_cons] at none
      omega

theorem units_eq_zero {t : Text} (none : units t = 0) : t = [] := by
  cases t with
  | nil => rfl
  | cons c t =>
      have wide := unitsOf_pos c
      rw [units_cons] at none
      omega

/-- A piece without the character `c` that begins no later than a `c` ends no later than it. -/
theorem byteSize_le_of_not_mem {c : Char} {before piece after front rest : Text}
    (same : before ++ piece ++ after = front ++ c :: rest)
    (early : byteSize before ≤ byteSize front) (absent : c ∉ piece) :
    byteSize (before ++ piece) ≤ byteSize front := by
  rcases List.append_eq_append_iff.mp same with ⟨more, cut, _⟩ | ⟨more, cut, ahead⟩
  · rw [cut, byteSize_append (before ++ piece)]
    exact Nat.le_add_right _ _
  · cases more with
    | nil => exact Nat.le_of_eq (by rw [cut, List.append_nil])
    | cons d more =>
        cases ahead
        -- the character would stand behind `before`, which is not longer than `front`
        rcases List.append_eq_append_iff.mp cut with ⟨inner, whole, same⟩ | ⟨inner, whole, same⟩
        · rw [same] at absent
          simp at absent
        · rw [whole, byteSize_append] at early
          obtain rfl := byteSize_eq_zero (t := inner) (by omega)
          rw [List.nil_append] at same
          rw [← same] at absent
          simp at absent

theorem foldl_stepOver_lines {above : Text} (start : LineStart above) (line column : Nat) :
    above.foldl stepOver (line, column) =
      (line + above.count '\n', if above = [] then column else 0) := by
  induction above generalizing line column with
  | nil => simp
  | cons c above ih =>
      rw [List.foldl_cons, List.count_cons]
      by_cases newline : c = '\n'
      · simp only [stepOver, newline, ↓reduceIte, ih start.of_cons, beq_self_eq_true]
        simp only [ite_self, reduceCtorEq, ↓reduceIte, Prod.mk.injEq, and_true]
        omega
      · have inner : above ≠ [] := by
          rintro rfl
          exact newline start.eq_newline
        simp [stepOver, newline, ih start.of_cons, inner]

theorem foldl_stepOver_line {line : Text} (unbroken : '\n' ∉ line) (row column : Nat) :
    line.foldl stepOver (row, column) = (row, column + units line) := by
  induction line generalizing column with
  | nil => simp
  | cons c line ih =>
      obtain ⟨other, rest⟩ := List.ne_and_not_mem_of_not_mem_cons unbroken
      rw [List.foldl_cons, stepOver, if_neg (Ne.symm other), ih rest, units_cons]
      simp only [Nat.add_assoc]

theorem walk_boundary (here : Nat × Nat) (before after : Text) :
    walk here (byteSize before) (before ++ after) = before.foldl stepOver here := by
  induction before generalizing here with
  | nil =>
      cases after with
      | nil => rfl
      | cons c after =>
          have size := c.utf8Size_pos
          simp only [byteSize_nil, List.nil_append, walk, List.foldl_nil]
          rw [if_neg (by omega)]
  | cons c before ih =>
      simp only [byteSize_cons, List.cons_append, walk, List.foldl_cons]
      rw [if_pos (by omega), Nat.add_sub_cancel_left]
      exact ih _

/-- A boundary lies as many lines down as there are breaks before it and as many units to the right
as its line has before it. -/
theorem positionAt_boundary {above line : Text} (start : LineStart above)
    (unbroken : '\n' ∉ line) (after : Text) :
    positionAt (above ++ line ++ after) (byteSize (above ++ line)) =
      ⟨(above.count '\n').toUInt32, (units line).toUInt32⟩ := by
  unfold positionAt
  rw [walk_boundary, List.foldl_append, foldl_stepOver_lines start, foldl_stepOver_line unbroken]
  simp

theorem positionAt_line_eq {line : Text} (unbroken : '\n' ∉ line) (before after : Text) :
    (positionAt (before ++ line ++ after) (byteSize (before ++ line))).line =
      (positionAt (before ++ line ++ after) (byteSize before)).line := by
  obtain ⟨above, front, rfl, start, unbroken'⟩ := exists_lineStart before
  have whole : '\n' ∉ front ++ line := by
    simp [unbroken, unbroken']
  have stop := positionAt_boundary start whole after
  have first := positionAt_boundary start unbroken' (line ++ after)
  simp only [List.append_assoc] at stop first ⊢
  rw [stop, first]

theorem seekLine_lines {above : Text} (start : LineStart above) (here : Nat) (rest : Text) :
    seekLine (above.count '\n') here (above ++ rest) = some (here + byteSize above, rest) := by
  induction above generalizing here with
  | nil => simp [seekLine]
  | cons c above ih =>
      by_cases newline : c = '\n'
      · subst c
        rw [List.count_cons_self, List.cons_append, seekLine, if_pos rfl, ih start.of_cons,
          byteSize_cons, Nat.add_assoc]
        rfl
      · obtain rfl | ⟨upper, rfl⟩ := start.of_cons
        · exact absurd start.eq_newline newline
        · have later := ih start.of_cons (here + c.utf8Size)
          rw [List.count_append, List.count_singleton_self] at later
          rw [List.count_cons_of_ne newline, List.count_append, List.count_singleton_self,
            List.cons_append, seekLine, if_neg newline, later, byteSize_cons, Nat.add_assoc]

theorem seekColumn_line {line : Text} (unbroken : '\n' ∉ line) (passed here : Nat)
    (rest : Text) :
    seekColumn (passed + units line) passed here (line ++ rest) = here + byteSize line := by
  induction line generalizing passed here with
  | nil => cases rest <;> simp [seekColumn]
  | cons c line ih =>
      obtain ⟨other, later⟩ := List.ne_and_not_mem_of_not_mem_cons unbroken
      have wide := unitsOf_pos c
      have ahead : ¬(c = '\n' ∨ passed + (unitsOf c + units line) ≤ passed) := by
        rintro (newline | reached)
        · exact other newline.symm
        · omega
      rw [units_cons, List.cons_append, seekColumn, if_neg ahead, ← Nat.add_assoc,
        ih later, byteSize_cons, Nat.add_assoc]

theorem toNat_toUInt32 {n : Nat} (small : n < UInt32.size) : n.toUInt32.toNat = n :=
  UInt32.toNat_ofNat_of_lt' small

/-- A line and a column that fit a position are found. -/
theorem offsetAt?_boundary {above line : Text} (start : LineStart above) (unbroken : '\n' ∉ line)
    (row : above.count '\n' < UInt32.size) (column : units line < UInt32.size) (after : Text) :
    offsetAt? (above ++ (line ++ after)) ⟨(above.count '\n').toUInt32, (units line).toUInt32⟩ =
      some (byteSize above + byteSize line) := by
  have found := seekColumn_line unbroken 0 (0 + byteSize above) after
  rw [Nat.zero_add, Nat.zero_add] at found
  rw [offsetAt?, toNat_toUInt32 row, toNat_toUInt32 column, seekLine_lines start, Option.map_some,
    Nat.zero_add]
  exact congrArg some found

/-- Projecting a boundary and finding its position again leads back to it. -/
theorem offsetAt?_positionAt {before after : Text} (small : byteSize before < UInt32.size) :
    offsetAt? (before ++ after) (positionAt (before ++ after) (byteSize before)) =
      some (byteSize before) := by
  obtain ⟨above, line, rfl, start, unbroken⟩ := exists_lineStart before
  have lines := count_newline_le_byteSize above
  have columns := units_le_byteSize line
  rw [byteSize_append] at small
  rw [positionAt_boundary start unbroken, byteSize_append, List.append_assoc]
  exact offsetAt?_boundary start unbroken (by omega) (by omega) after

end AutoItNav.Text
