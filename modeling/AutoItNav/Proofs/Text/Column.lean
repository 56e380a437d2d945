import AutoItNav.Proofs.Text.Boundary
import AutoItNav.Proofs.Text.Cursor

/-!
Columns and the places that they lead to. A position leads to the first boundary of its line that is
not left of its column, or to the line's end, and only a line that does not exist leads nowhere.
-/
namespace AutoItNav.Text

variable {t above front back line below : Text} {n column offset : Nat} {p q : Position}

/-- Byte `offset` is a boundary on line `number`, `column` units behind the line's start. -/
def Place (t : Text) (number column offset : Nat) : Prop :=
  ∃ above front back below, Row t number above (front ++ back) below ∧
    column = units front ∧ offset = byteSize above + byteSize front

/-- Line `number` ends at byte `offset`, with its break or with the text. -/
def LineEnd (t : Text) (number offset : Nat) : Prop :=
  ∃ above line below, Row t number above line below ∧ offset = byteSize above + byteSize line

theorem Row.unique {above' line' below' : Text} (row : Row t n above line below)
    (row' : Row t n above' line' below') : above = above' ∧ line = line' ∧ below = below' := by
  have found := seekLine_lines row.start 0 (line ++ below)
  have found' := seekLine_lines row'.start 0 (line' ++ below')
  rw [row.count, ← List.append_assoc, ← row.cut] at found
  rw [row'.count, ← List.append_assoc, ← row'.cut, found] at found'
  have rest : line ++ below = line' ++ below' := congrArg Prod.snd (Option.some.inj found')
  have same : line = line' := by rw [← row.restOfLine_eq, ← row'.restOfLine_eq, rest]
  subst same
  obtain rfl := List.append_cancel_left rest
  have cut := row.cut.symm.trans row'.cut
  rw [List.append_assoc, List.append_assoc] at cut
  exact ⟨List.append_cancel_right cut, rfl, rfl⟩

theorem Row.le_count (row : Row t n above line below) : n ≤ t.count '\n' := by
  rw [row.cut, ← row.count, List.count_append, List.count_append]
  omega

/-- A text has as many lines as breaks and one more. -/
theorem exists_row_of_le (within : n ≤ t.count '\n') :
    ∃ above line below, Row t n above line below := by
  induction t using line_induction generalizing n with
  | last line unbroken =>
      rw [List.count_eq_zero.mpr unbroken, Nat.le_zero] at within
      subst within
      exact ⟨[], line, [], by simp, lineStart_nil, rfl, unbroken, by simp⟩
  | more line rest unbroken ih =>
      cases n with
      | zero => exact ⟨[], line, _, .top unbroken⟩
      | succ n =>
          rw [List.count_append, List.count_cons_self, List.count_eq_zero.mpr unbroken] at within
          obtain ⟨above, lower, below, row⟩ := ih (n := n) (by omega)
          exact ⟨_, lower, below, row.lower unbroken⟩

theorem offsetAt?_eq_none_iff : offsetAt? t p = none ↔ t.count '\n' < p.line.toNat := by
  constructor
  · intro missing
    by_contra within
    rw [Nat.not_lt] at within
    obtain ⟨above, line, below, row⟩ := exists_row_of_le within
    obtain ⟨offset, found, _⟩ := row.lineAt? (p := p) rfl
    cases missing.symm.trans found
  · intro beyond
    cases found : offsetAt? t p with
    | none => rfl
    | some offset =>
        obtain ⟨above, front, back, below, row, _⟩ := exists_row_of_offsetAt? found
        have within := row.le_count
        omega

theorem Row.place (row : Row t n above (front ++ back) below) :
    Place t n (units front) (byteSize above + byteSize front) :=
  ⟨above, front, back, below, row, rfl, rfl⟩

theorem Row.exists_of_place (row : Row t n above line below) (place : Place t n column offset) :
    ∃ front back, line = front ++ back ∧ column = units front ∧
      offset = byteSize above + byteSize front := by
  obtain ⟨above', front, back, below', row', rfl, rfl⟩ := place
  obtain ⟨rfl, rfl, _⟩ := row.unique row'
  exact ⟨front, back, rfl, rfl, rfl⟩

theorem Place.isBoundary (place : Place t n column offset) : IsBoundary t offset := by
  obtain ⟨above, front, back, below, ⟨rfl, _, _, _, _⟩, _, rfl⟩ := place
  rw [← byteSize_append, ← List.append_assoc, List.append_assoc]
  exact isBoundary_append (above ++ front) (back ++ below)

theorem Place.positionAt (place : Place t n column offset) :
    Text.positionAt t offset = ⟨n.toUInt32, column.toUInt32⟩ := by
  obtain ⟨above, front, back, below, ⟨rfl, start, rfl, unbroken, _⟩, rfl, rfl⟩ := place
  have single : '\n' ∉ front := fun newline => unbroken (List.mem_append_left back newline)
  have found := positionAt_boundary start single (back ++ below)
  rw [byteSize_append] at found
  rw [← found]
  simp only [List.append_assoc]

theorem Place.fits (place : Place t n column offset) (addressable : t.Addressable) :
    n < UInt32.size ∧ column < UInt32.size := by
  obtain ⟨above, front, back, below, row, rfl, rfl⟩ := place
  obtain ⟨line, whole⟩ := addressable _ _ _ _ row
  rw [units_append] at whole
  omega

theorem isLeast_of_stopsAt (row : Row t n above (front ++ back) below)
    (stops : StopsAt column 0 front back) (reached : column ≤ units front) :
    IsLeast {b | ∃ c, column ≤ c ∧ Place t n c b} (byteSize above + byteSize front) := by
  refine ⟨⟨units front, reached, row.place⟩, ?_⟩
  rintro b ⟨c, right, place⟩
  obtain ⟨front', back', same, rfl, rfl⟩ := row.exists_of_place place
  rcases stops.left_or_prefix same with left | ⟨more, rfl⟩
  · omega
  · rw [byteSize_append]
    omega

/-- Where the column is beyond the line, the line's end stands for it. -/
theorem lineEnd_of_stopsAt (row : Row t n above (front ++ back) below)
    (stops : StopsAt column 0 front back) (short : units front < column) :
    (∀ c b, Place t n c b → c < column) ∧ LineEnd t n (byteSize above + byteSize front) := by
  have none : back = [] := by
    by_contra some
    have reached := stops.reached some
    omega
  subst none
  refine ⟨?_, above, front, below, List.append_nil front ▸ row, rfl⟩
  intro c b place
  obtain ⟨front', back', same, rfl, rfl⟩ := row.exists_of_place place
  rw [List.append_nil] at same
  rw [same, units_append] at short
  omega

/-- A column is found exactly where the line has a boundary. -/
theorem positionAt_eq_iff (found : offsetAt? t p = some offset) (addressable : t.Addressable) :
    positionAt t offset = p ↔ ∃ b, Place t p.line.toNat p.character.toNat b := by
  obtain ⟨above, front, back, below, row, rfl, stops⟩ := exists_row_of_offsetAt? found
  have here := row.place
  obtain ⟨_, fits⟩ := here.fits addressable
  constructor
  · intro same
    rw [here.positionAt] at same
    have column : p.character.toNat = units front := by rw [← same, toNat_toUInt32 fits]
    exact ⟨_, column ▸ here⟩
  · rintro ⟨b, place⟩
    obtain ⟨front', back', same, column, _⟩ := row.exists_of_place place
    have least : units front ≤ units front' := by
      rcases stops.left_or_prefix same with left | ⟨more, rfl⟩
      · omega
      · rw [units_append]
        omega
    have most : units front' ≤ units front := by
      by_cases none : back = []
      · rw [none, List.append_nil] at same
        rw [same, units_append]
        omega
      · have reached := stops.reached none
        omega
    rw [here.positionAt, Nat.le_antisymm least most, ← column]
    simp only [Nat.toUInt32, UInt32.ofNat_toNat]

theorem Row.byteSize_le {m : Nat} {above' line' below' : Text} (row : Row t n above line below)
    (row' : Row t m above' line' below') (higher : n < m) :
    byteSize above + byteSize line ≤ byteSize above' := by
  have cut := row.cut.symm.trans row'.cut
  rw [List.append_assoc above' line'] at cut
  rcases List.append_eq_append_iff.mp cut with ⟨more, same, _⟩ | ⟨more, same, _⟩
  · rw [same, byteSize_append, byteSize_append]
    omega
  · -- the lower line would begin within the upper one, behind no more breaks
    have breaks := congrArg (List.count '\n') same
    rw [List.count_append, List.count_append, row.count, row'.count,
      List.count_eq_zero.mpr row.unbroken] at breaks
    omega

/-- Positions in reading order lead to offsets in order. -/
theorem offsetAt?_mono {offset' : Nat} (found : offsetAt? t p = some offset)
    (found' : offsetAt? t q = some offset') (ordered : p = q ∨ p.before q) : offset ≤ offset' := by
  obtain ⟨above, front, back, below, row, rfl, stops⟩ := exists_row_of_offsetAt? found
  obtain ⟨above', front', back', below', row', rfl, stops'⟩ := exists_row_of_offsetAt? found'
  have sameLine : p.line = q.line → p.character ≤ q.character →
      byteSize above + byteSize front ≤ byteSize above' + byteSize front' := by
    intro line column
    rw [line] at row
    obtain ⟨rfl, same, _⟩ := row.unique row'
    obtain ⟨more, rfl⟩ := stops.prefix stops' (UInt32.le_iff_toNat_le.mp column) same
    rw [byteSize_append]
    omega
  rcases ordered with rfl | higher | ⟨line, column⟩
  · exact sameLine rfl (UInt32.le_refl _)
  · have lower := row.byteSize_le row' (UInt32.lt_iff_toNat_lt.mp higher)
    rw [byteSize_append] at lower
    omega
  · exact sameLine line (UInt32.le_of_lt column)

/-- Finding a position is total up to the last line, clamped to its line and monotone: it ends at
the first boundary of the line at or behind the column, or at the line's end if there is none. -/
theorem offsetAt?_clamped (small : byteSize t < UInt32.size) (p : Position) :
    (offsetAt? t p = none ↔ t.count '\n' < p.line.toNat) ∧
    ∀ offset, offsetAt? t p = some offset →
      (IsLeast {b | ∃ c, p.character.toNat ≤ c ∧ Place t p.line.toNat c b} offset ∨
        (∀ c b, Place t p.line.toNat c b → c < p.character.toNat) ∧
          LineEnd t p.line.toNat offset) ∧
      (IsBoundary t offset ∧ ∃ c, Place t p.line.toNat c offset) ∧
      (positionAt t offset = p ↔ ∃ b, Place t p.line.toNat p.character.toNat b) ∧
      ∀ q offset', p = q ∨ p.before q → offsetAt? t q = some offset' → offset ≤ offset' := by
  refine ⟨offsetAt?_eq_none_iff, ?_⟩
  intro offset found
  have addressable := addressable_of_byteSize_lt small
  obtain ⟨above, front, back, below, row, rfl, stops⟩ := exists_row_of_offsetAt? found
  refine ⟨?_, ⟨row.place.isBoundary, _, row.place⟩, positionAt_eq_iff found addressable, ?_⟩
  · by_cases reached : p.character.toNat ≤ units front
    · exact .inl (isLeast_of_stopsAt row stops reached)
    · exact .inr (lineEnd_of_stopsAt row stops (Nat.not_le.mp reached))
  · intro q offset' ordered found'
    exact offsetAt?_mono found found' ordered

/-- A column inside a face leads behind it, one behind the last line's end leads to that end, and
behind the last line there is none. -/
theorem offsetAt?_clamped_face :
    let t := "a😀\r\nb".toList
    byteSize t < UInt32.size ∧ offsetAt? t ⟨0, 2⟩ = some 5 ∧
      IsLeast {b | ∃ c, 2 ≤ c ∧ Place t 0 c b} 5 ∧ (¬∃ b, Place t 0 2 b) ∧
      offsetAt? t ⟨1, 7⟩ = some 8 ∧ 5 ≤ 8 ∧ offsetAt? t ⟨2, 0⟩ = none := by
  intro t
  have small : byteSize t < UInt32.size := by decide +kernel
  have found : offsetAt? t ⟨0, 2⟩ = some 5 := by decide +kernel
  have found' : offsetAt? t ⟨1, 7⟩ = some 8 := by decide +kernel
  obtain ⟨place, _, column, ordered⟩ := (offsetAt?_clamped small ⟨0, 2⟩).2 5 found
  have single : '\n' ∉ "a😀".toList ++ ['\r'] := by decide
  have row : Row t 0 [] ("a😀".toList ++ ['\r']) "\nb".toList := .top single
  have behind : Place t 0 3 5 := row.place
  refine ⟨small, found, ?_, ?_, found', ordered _ 8 (.inr (by decide)) found', ?_⟩
  · exact place.resolve_right fun beyond => absurd (beyond.1 3 5 behind) (by decide)
  · exact fun inside => absurd (column.mpr inside) (by decide +kernel)
  · exact (offsetAt?_clamped small ⟨2, 0⟩).1.mpr (by decide)

end AutoItNav.Text
