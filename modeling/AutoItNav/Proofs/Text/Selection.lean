import AutoItNav.Proofs.Text.Checked
import AutoItNav.Proofs.Text.Column

/-!
The word that a cursor selects. Its span holds the word and the cursor, every place in front of a
part of the word selects the same word, and nothing is selected exactly where no word is touched.
-/
namespace AutoItNav

namespace Identifier

theorem kind_eq_variable_iff {id : Identifier} :
    id.kind = .variable ↔ id.text.head? = some sigil := by
  unfold kind
  split <;> simp_all

/-- Every word names an identifier. -/
theorem exists_ofWord? {before word after : Text} (isWord : Text.IsWord before after word) :
    ∃ id, ofWord? word = some id ∧ id.text = word := by
  have same : Text.trim word = word := isWord.tight.trim_eq
  have valid : IsIdentifier word := by
    refine ⟨isWord.inhabited, ?_, same⟩
    rintro rfl
    obtain ⟨init, c, cut, letter⟩ := isWord.exists_last
    have last : sigil = c := by
      have ends := congrArg List.getLast? cut
      rw [List.getLast?_concat] at ends
      exact Option.some.inj ends
    rw [← last, Text.not_isWordChar_sigil] at letter
    cases letter
  refine ⟨⟨word, valid⟩, ?_, rfl⟩
  simp only [ofWord?, same, valid, ↓reduceDIte]

end Identifier

namespace Text

variable {t above before word after chars : Text} {n column : Nat} {p : Position} {span : Span}

/-- What is known of the word at a cursor and of its place. -/
structure Selected (t : Text) (p : Position) (word : Text) (span : Span) : Prop where
  line : span.start.line = p.line ∧ span.stop.line = p.line
  spelled : ∃ above before after, WordOn t p.line.toNat above before word after ∧
    span = wordSpan p.line before word
  place : ∃ start here stop, Text.offsetAt? t span.start = some start ∧
    Text.offsetAt? t span.stop = some stop ∧ slice? t start stop = some word ∧
    Text.offsetAt? t p = some here ∧ start ≤ here ∧ here ≤ stop
  named : ∃ id, Identifier.ofWord? word = some id ∧ id.text = word ∧
    (id.kind = .variable ↔ word.head? = some sigil)
  again : ∀ q : Position, q.line = p.line → span.start.character ≤ q.character →
    q.character < span.stop.character → (∃ b, Place t q.line.toNat q.character.toNat b) →
    wordAt t q = some (word, span)

/-- At this column of a line are no letter and no sigil with a letter behind it, and before it is no
letter. -/
structure Bare (chars : Text) (column : Nat) : Prop where
  here : ∀ c, chars[column]? = some c → isWordChar c = false
  unmarked : chars[column]? = some sigil → ∀ c, chars[column + 1]? = some c → isWordChar c = false
  behind : ∀ i c, column = i + 1 → chars[i]? = some c → isWordChar c = false

theorem head?_reverse_take {c : Char} (within : column ≤ chars.length) :
    (chars.take column).reverse.head? = some c ↔ ∃ i, column = i + 1 ∧ chars[i]? = some c := by
  cases column with
  | zero => simp
  | succ i =>
      obtain ⟨d, there⟩ : ∃ d, chars[i]? = some d := ⟨_, List.getElem?_eq_getElem (by omega)⟩
      rw [List.take_add_one, there, Option.toList_some, List.reverse_append]
      constructor
      · rintro ⟨⟩
        exact ⟨i, rfl, there⟩
      · rintro ⟨j, same, found⟩
        cases same
        cases there.symm.trans found
        rfl

theorem exists_drop_eq_iff {c d : Char} : (∃ rest, chars.drop column = c :: d :: rest) ↔
    chars[column]? = some c ∧ chars[column + 1]? = some d := by
  have first : (chars.drop column)[0]? = chars[column]? := List.getElem?_drop
  have second : (chars.drop column)[1]? = chars[column + 1]? := List.getElem?_drop
  rw [← first, ← second]
  constructor
  · rintro ⟨rest, same⟩
    rw [same]
    exact ⟨rfl, rfl⟩
  · rintro ⟨here, next⟩
    match ahead : chars.drop column with
    | [] => simp [ahead] at here
    | [e] => simp [ahead] at next
    | e :: f :: rest =>
        simp only [ahead, List.getElem?_cons_zero, List.getElem?_cons_succ,
          Option.some.injEq] at here next
        exact ⟨rest, by rw [here, next]⟩

theorem tokenOn_eq_none_iff : tokenOn chars column = none ↔ Bare chars column := by
  by_cases beyond : chars.length < column
  · have missing : ∀ i, chars.length ≤ i → chars[i]? = none := fun i => List.getElem?_eq_none
    rw [tokenOn, if_pos beyond]
    refine ⟨fun _ => ⟨?_, ?_, ?_⟩, fun _ => rfl⟩
    · simp [missing column (by omega)]
    · simp [missing column (by omega)]
    · rintro i c rfl
      simp [missing i (by omega)]
  · have within := Nat.not_lt.mp beyond
    rw [tokenOn, if_neg beyond, tokenAt_eq_none_iff, List.head?_drop]
    constructor
    · rintro ⟨before, letter, sign⟩
      refine ⟨letter, ?_, ?_⟩
      · intro first c second
        obtain ⟨rest, same⟩ := exists_drop_eq_iff.mpr ⟨first, second⟩
        exact sign c rest same
      · intro i c same found
        exact before c ((head?_reverse_take within).mpr ⟨i, same, found⟩)
    · intro bare
      refine ⟨?_, bare.here, ?_⟩
      · intro c first
        obtain ⟨i, same, found⟩ := (head?_reverse_take within).mp first
        exact bare.behind i c same found
      · intro c rest same
        obtain ⟨first, second⟩ := exists_drop_eq_iff.mp ⟨rest, same⟩
        exact bare.unmarked first c second

theorem wordAt_eq_none_iff : wordAt t p = none ↔ t.count '\n' < p.line.toNat ∨
    ∃ above front back below, Row t p.line.toNat above (front ++ back) below ∧
      Text.offsetAt? t p = some (byteSize above + byteSize front) ∧
      Bare (dropTrailing isReturn (front ++ back)) front.length := by
  constructor
  · intro missing
    cases placed : Text.offsetAt? t p with
    | none => exact .inl (offsetAt?_eq_none_iff.mp placed)
    | some offset =>
        obtain ⟨above, front, back, below, row, rfl, _⟩ := exists_row_of_offsetAt? placed
        rw [row.wordAt_eq placed, Option.map_eq_none_iff, tokenOn_eq_none_iff] at missing
        exact .inr ⟨above, front, back, below, row, rfl, missing⟩
  · rintro (beyond | ⟨above, front, back, below, row, placed, bare⟩)
    · rw [wordAt, offsetAt?_eq_none_iff.mpr beyond]
      rfl
    · rw [row.wordAt_eq placed, tokenOn_eq_none_iff.mpr bare]
      rfl

/-- Places of a line from the start of a word on and in front of its end divide the word. -/
theorem WordOn.exists_division (on : WordOn t n above before word after) {b : Nat}
    (place : Place t n column b) (from' : units before ≤ column)
    (upTo : column < units before + units word) :
    ∃ left right, left ++ right = word ∧ right ≠ [] ∧ column = units (before ++ left) := by
  obtain ⟨front, back, cut, rfl, _⟩ := on.row.exists_of_place place
  rw [List.append_assoc] at cut
  rcases List.append_eq_append_iff.mp cut with ⟨left, rfl, rest⟩ | ⟨more, same, _⟩
  · rw [units_append] at upTo
    rcases List.append_eq_append_iff.mp rest with ⟨more, rfl, _⟩ | ⟨right, rfl, _⟩
    · rw [units_append] at upTo
      omega
    · refine ⟨left, right, rfl, ?_, rfl⟩
      rintro rfl
      rw [List.append_nil] at upTo
      omega
  · rw [same, units_append] at from'
    obtain rfl := units_eq_zero (t := more) (by omega)
    rw [List.append_nil] at same
    exact ⟨[], word, rfl, on.isWord.inhabited, by rw [List.append_nil, same]⟩

theorem WordOn.selected (on : WordOn t p.line.toNat above before word after)
    (addressable : t.Addressable) {left right : Text} (whole : left ++ right = word)
    (placed : Text.offsetAt? t p = some (byteSize (above ++ before ++ left))) :
    Selected t p word (wordSpan p.line before word) := by
  have start := on.offsetAt? (List.nil_append word) addressable
  have stop := on.offsetAt? (List.append_nil word) addressable
  have row : p.line.toNat.toUInt32 = p.line := by rw [Nat.toUInt32, UInt32.ofNat_toNat]
  rw [List.append_nil, List.append_nil, row] at start
  rw [units_append, row] at stop
  obtain ⟨_, fits⟩ := on.fits addressable
  refine ⟨⟨rfl, rfl⟩, ⟨above, before, after, on, rfl⟩, ?_, ?_, ?_⟩
  · refine ⟨_, _, _, start, stop, ?_, placed, ?_, ?_⟩
    · exact slice?_eq_some_iff.mpr ⟨above ++ before, after, on.cut, rfl, rfl⟩
    · rw [byteSize_append _ left]
      omega
    · rw [byteSize_append _ left, byteSize_append _ word, ← whole, byteSize_append left]
      omega
  · obtain ⟨id, named, same⟩ := Identifier.exists_ofWord? on.isWord
    exact ⟨id, named, same, same ▸ Identifier.kind_eq_variable_iff⟩
  · rintro q line from' upTo ⟨b, place⟩
    rw [line] at place
    simp only [wordSpan, UInt32.le_iff_toNat_le, UInt32.lt_iff_toNat_lt] at from' upTo
    rw [toNat_toUInt32 (by omega)] at from'
    rw [toNat_toUInt32 fits] at upTo
    obtain ⟨left, right, whole, inside, column⟩ := on.exists_division place from' upTo
    have found := on.wordAt whole inside addressable
    rw [← column, row, Nat.toUInt32, UInt32.ofNat_toNat, ← line] at found
    rw [← line]
    exact found

/-- The search for a word stays within the text at every index. What it finds is the word that the
cursor touches, and it finds nothing exactly if there is no such line or no word touches the cursor
there. -/
theorem wordAt_selects (small : byteSize t < UInt32.size) (p : Position) :
    Checked.wordAt t p = some (wordAt t p) ∧
    (∀ word span, wordAt t p = some (word, span) → Selected t p word span) ∧
    (wordAt t p = none ↔ t.count '\n' < p.line.toNat ∨
      ∃ above front back below, Row t p.line.toNat above (front ++ back) below ∧
        Text.offsetAt? t p = some (byteSize above + byteSize front) ∧
        Bare (dropTrailing isReturn (front ++ back)) front.length) := by
  refine ⟨Checked.wordAt_eq t p, ?_, wordAt_eq_none_iff⟩
  intro word span found
  obtain ⟨above, before, after, on, rfl, left, right, whole, placed⟩ := wordAt_eq_some found
  exact on.selected (addressable_of_byteSize_lt small) whole placed

/-- The cursor is on the second of two sigils, behind a face, and a cursor on the last character of
that variable selects it, too. Behind the return no word is touched. -/
theorem wordAt_selects_adjacent :
    let t := "😀$a$b²\r\n_c".toList
    let word := "$b²".toList
    let span : Span := ⟨⟨0, 4⟩, ⟨0, 7⟩⟩
    byteSize t < UInt32.size ∧ wordAt t ⟨0, 4⟩ = some (word, span) ∧
      Checked.wordAt t ⟨0, 4⟩ = some (some (word, span)) ∧ Selected t ⟨0, 4⟩ word span ∧
      wordAt t ⟨0, 6⟩ = some (word, span) ∧ wordAt t ⟨0, 8⟩ = none ∧
      ∃ above front back below, Row t 0 above (front ++ back) below ∧
        Text.offsetAt? t ⟨0, 8⟩ = some (byteSize above + byteSize front) ∧
        Bare (dropTrailing isReturn (front ++ back)) front.length := by
  intro t word span
  have small : byteSize t < UInt32.size := by decide +kernel
  have found : wordAt t ⟨0, 4⟩ = some (word, span) := by decide +kernel
  have missing : wordAt t ⟨0, 8⟩ = none := by decide +kernel
  obtain ⟨inside, selects, _⟩ := wordAt_selects small ⟨0, 4⟩
  obtain ⟨_, _, bare⟩ := wordAt_selects small ⟨0, 8⟩
  have selected := selects word span found
  have single : '\n' ∉ "😀$a$b".toList ++ "²\r".toList := by decide
  have row : Row t 0 [] ("😀$a$b".toList ++ "²\r".toList) "\n_c".toList := .top single
  have place : ∃ b, Place t 0 6 b := ⟨_, row.place⟩
  refine ⟨small, found, found ▸ inside, selected, ?_, missing, ?_⟩
  · exact selected.again ⟨0, 6⟩ rfl (by decide) (by decide) place
  · exact (bare.mp missing).resolve_left (by decide)

end Text

end AutoItNav
