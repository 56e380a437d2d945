import AutoItNav.Proofs.Text.Projection
import Mathlib.Data.List.Infix
import Mathlib.Data.Prod.Lex
import Mathlib.Order.Bounds.Basic

/-!
Boundaries of characters and their positions. An offset is projected like the last boundary up to
it, boundaries keep their order when they are projected, and each is found again at its position.
-/
namespace AutoItNav.Text

variable {t before after : Text} {offset : Nat}

/-- A byte offset between two characters or at an end of the text. -/
def IsBoundary (t : Text) (offset : Nat) : Prop :=
  ∃ before, before <+: t ∧ byteSize before = offset

instance (t : Text) (offset : Nat) : Decidable (IsBoundary t offset) :=
  decidable_of_iff (∃ before ∈ t.inits, byteSize before = offset) (by simp [IsBoundary])

theorem isBoundary_append (before after : Text) :
    IsBoundary (before ++ after) (byteSize before) :=
  ⟨before, List.prefix_append before after, rfl⟩

/-- Of two boundaries the earlier one is a cut of the text before the later one. -/
theorem IsBoundary.exists_between {first second : Nat} (begins : IsBoundary t first)
    (ends : IsBoundary t second) (earlier : first < second) :
    ∃ before more after, t = before ++ more ++ after ∧ more ≠ [] ∧
      byteSize before = first ∧ byteSize (before ++ more) = second := by
  obtain ⟨before, ⟨rest, rfl⟩, rfl⟩ := begins
  obtain ⟨front, ⟨after, cut⟩, rfl⟩ := ends
  rcases List.append_eq_append_iff.mp cut with ⟨more, same, _⟩ | ⟨more, rfl, _⟩
  · rw [same, byteSize_append] at earlier
    omega
  · refine ⟨before, more, after, cut.symm, ?_, rfl, rfl⟩
    rintro rfl
    rw [List.append_nil] at earlier
    exact absurd earlier (Nat.lt_irrefl _)

/-- Up to any offset a text has a last cut, and there the walk to that offset ends. -/
theorem exists_lastCut (t : Text) (offset : Nat) :
    ∃ before after, t = before ++ after ∧ byteSize before ≤ offset ∧
      (∀ c, after.head? = some c → offset < byteSize before + c.utf8Size) ∧
      ∀ here, walk here offset t = before.foldl stepOver here := by
  induction t generalizing offset with
  | nil => exact ⟨[], [], rfl, Nat.zero_le _, by simp, fun _ => rfl⟩
  | cons c t ih =>
      by_cases fits : c.utf8Size ≤ offset
      · obtain ⟨before, after, rfl, within, next, same⟩ := ih (offset - c.utf8Size)
        refine ⟨c :: before, after, rfl, ?_, ?_, ?_⟩
        · rw [byteSize_cons]
          omega
        · intro d first
          have beyond := next d first
          rw [byteSize_cons]
          omega
        · intro here
          rw [walk, if_pos fits, same, List.foldl_cons]
      · refine ⟨[], c :: t, rfl, Nat.zero_le _, ?_, ?_⟩
        · rintro d ⟨⟩
          rw [byteSize_nil]
          omega
        · intro here
          rw [walk, if_neg fits, List.foldl_nil]

theorem isGreatest_lastCut (within : byteSize before ≤ offset)
    (next : ∀ c, after.head? = some c → offset < byteSize before + c.utf8Size) :
    IsGreatest {b | IsBoundary (before ++ after) b ∧ b ≤ min offset (byteSize (before ++ after))}
      (byteSize before) := by
  refine ⟨⟨isBoundary_append before after, ?_⟩, ?_⟩
  · rw [byteSize_append]
    omega
  · rintro b ⟨⟨front, ⟨rest, cut⟩, rfl⟩, bounded⟩
    rcases List.append_eq_append_iff.mp cut with ⟨more, same, _⟩ | ⟨more, same, ahead⟩
    · rw [same, byteSize_append]
      exact Nat.le_add_right _ _
    · cases more with
      | nil => rw [same, List.append_nil]
      | cons c more =>
          have beyond := next c (by rw [ahead]; rfl)
          have inside := bounded.trans (Nat.min_le_left _ _)
          rw [same, byteSize_append, byteSize_cons] at inside
          omega

theorem toLex_lt_stepOver (here : Nat × Nat) (c : Char) : toLex here < toLex (stepOver here c) := by
  have wide := unitsOf_pos c
  rw [Prod.Lex.toLex_lt_toLex, stepOver]
  split
  · exact .inl (Nat.lt_succ_self _)
  · exact .inr ⟨rfl, Nat.lt_add_of_pos_right wide⟩

/-- Every character moves on in reading order. -/
theorem toLex_lt_foldl_stepOver {more : Text} (some : more ≠ []) (here : Nat × Nat) :
    toLex here < toLex (more.foldl stepOver here) := by
  induction more generalizing here with
  | nil => exact absurd rfl some
  | cons c more ih =>
      have first := toLex_lt_stepOver here c
      by_cases last : more = []
      · subst last
        exact first
      · exact first.trans (ih last _)

theorem foldl_stepOver_le (before : Text) :
    (before.foldl stepOver (0, 0)).1 ≤ byteSize before ∧
      (before.foldl stepOver (0, 0)).2 ≤ byteSize before := by
  obtain ⟨above, line, rfl, start, unbroken⟩ := exists_lineStart before
  have lines := count_newline_le_byteSize above
  have columns := units_le_byteSize line
  rw [List.foldl_append, foldl_stepOver_lines start, foldl_stepOver_line unbroken, byteSize_append]
  simp only [ite_self, Nat.zero_add]
  omega

theorem before_of_toLex_lt {here there : Nat × Nat} (ahead : toLex here < toLex there)
    (row : there.1 < UInt32.size) (column : here.2 < UInt32.size ∧ there.2 < UInt32.size) :
    Position.before ⟨here.1.toUInt32, here.2.toUInt32⟩ ⟨there.1.toUInt32, there.2.toUInt32⟩ := by
  rw [Prod.Lex.toLex_lt_toLex] at ahead
  rcases ahead with above | ⟨same, left⟩
  · left
    rw [UInt32.lt_iff_toNat_lt, toNat_toUInt32 row, toNat_toUInt32 (above.trans row)]
    exact above
  · right
    refine ⟨congrArg Nat.toUInt32 same, ?_⟩
    rw [UInt32.lt_iff_toNat_lt, toNat_toUInt32 column.1, toNat_toUInt32 column.2]
    exact left

/-- Boundaries are in the order of their positions. -/
theorem positionAt_before {first second : Nat} (small : byteSize t < UInt32.size)
    (begins : IsBoundary t first) (ends : IsBoundary t second) (earlier : first < second) :
    (positionAt t first).before (positionAt t second) := by
  obtain ⟨before, more, after, rfl, some, rfl, rfl⟩ := begins.exists_between ends earlier
  have ahead := toLex_lt_foldl_stepOver some (before.foldl stepOver (0, 0))
  have here := foldl_stepOver_le before
  have there := foldl_stepOver_le (before ++ more)
  rw [byteSize_append] at small
  rw [← List.foldl_append] at ahead
  have start : walk (0, 0) (byteSize before) (before ++ more ++ after) =
      before.foldl stepOver (0, 0) := by
    rw [List.append_assoc, walk_boundary]
  rw [positionAt, positionAt, start, walk_boundary]
  exact before_of_toLex_lt ahead (by omega) (by omega)

/-- Projection is an order embedding of the boundaries: it takes every offset to the position of the
last boundary up to it, from there that boundary is found again, and later boundaries have later
positions. -/
theorem positionAt_embedding (small : byteSize t < UInt32.size) :
    (∀ offset, ∃ b, offsetAt? t (positionAt t offset) = some b ∧
      IsGreatest {b | IsBoundary t b ∧ b ≤ min offset (byteSize t)} b) ∧
    ∀ first second, IsBoundary t first → IsBoundary t second → first < second →
      (positionAt t first).before (positionAt t second) := by
  refine ⟨?_, fun first second => positionAt_before small⟩
  intro offset
  obtain ⟨before, after, rfl, within, next, same⟩ := exists_lastCut t offset
  have place : positionAt (before ++ after) offset =
      positionAt (before ++ after) (byteSize before) := by
    rw [positionAt, positionAt, same, walk_boundary]
  refine ⟨byteSize before, ?_, isGreatest_lastCut within next⟩
  rw [place]
  apply offsetAt?_positionAt
  rw [byteSize_append] at small
  omega

/-- The third byte of a face counts as its first one, an offset far behind the end as the end, and
the empty line between two breaks is apart from both. -/
theorem positionAt_embedding_face :
    let t := "é😀\r\n\nx".toList
    byteSize t < UInt32.size ∧
      (∃ b, offsetAt? t (positionAt t 4) = some b ∧
        IsGreatest {b | IsBoundary t b ∧ b ≤ min 4 (byteSize t)} b) ∧
      (∃ b, offsetAt? t (positionAt t 99) = some b ∧
        IsGreatest {b | IsBoundary t b ∧ b ≤ min 99 (byteSize t)} b) ∧
      offsetAt? t (positionAt t 4) = some 2 ∧ offsetAt? t (positionAt t 99) = some 10 ∧
      IsBoundary t 8 ∧ IsBoundary t 9 ∧ positionAt t 8 = ⟨1, 0⟩ ∧
      (positionAt t 8).before (positionAt t 9) := by
  intro t
  have small : byteSize t < UInt32.size := by decide +kernel
  have first : IsBoundary t 8 := by decide +kernel
  have second : IsBoundary t 9 := by decide +kernel
  obtain ⟨found, ordered⟩ := positionAt_embedding small
  exact ⟨small, found 4, found 99, by decide +kernel, by decide +kernel, first, second,
    by decide +kernel, ordered 8 9 first second (by decide)⟩

end AutoItNav.Text
