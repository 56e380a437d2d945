import AutoItNav.Proofs.Declaration.Meaning
import AutoItNav.Proofs.Definition.IncludeLine
import AutoItNav.Proofs.Definition.Span
import AutoItNav.Proofs.Text.Word

/-!
Jumps to functions. A jump ends on the declared name as a whole word, and a jump from there stays
there.
-/
namespace AutoItNav

open Declaration Text

namespace Text

variable {t above before word after : Text} {n : Nat}

theorem IsWord.isRun (isWord : IsWord before after word) (unmarked : word.head? ≠ some sigil) :
    IsRun word after := by
  cases isWord with
  | marked letters => exact absurd rfl unmarked
  | plain letters front => exact letters

theorem WordOn.nameSpan_eq {d : Declaration} (on : WordOn t n above before word after)
    (offset : d.offset = byteSize (above ++ before)) (length : d.length = byteSize word) :
    d.nameSpan t = wordSpan n.toUInt32 before word := by
  obtain ⟨rfl, start, rfl, single, isWord⟩ := on
  have first := positionAt_boundary start single (word ++ after)
  have last := positionAt_boundary start (List.not_mem_append single isWord.unbroken) after
  rw [← List.append_assoc] at first
  rw [← List.append_assoc above before word, units_append, byteSize_append] at last
  rw [nameSpan, offset, length, first, last]
  rfl

end Text

/-- The name of a function that is declared is a whole word there, if its characters are letters of
a word at all. -/
theorem FunctionAt.wordOn {name t ahead : Text} {start keyword : Nat}
    (declared : FunctionAt name t start keyword) (letters : IsRun name ahead) :
    ∃ above before after, WordOn t (above.count '\n') above before name after ∧
      start + keyword = byteSize (above ++ before) := by
  obtain ⟨above, line, gap, space, body, cut, first, clear, some, blank, blank', _, place, size⟩ :=
    declared
  have quiet : ∀ c, c = ' ' ∨ c = '\t' → c ≠ sigil ∧ isWordChar c = false := by
    rintro c (rfl | rfl) <;> decide +kernel
  refine ⟨above, line ++ (funcKeyword ++ gap), space ++ '(' :: body, ⟨?_, first, rfl, ?_, ?_⟩, ?_⟩
  · rw [cut]
    simp only [List.append_assoc]
  · exact List.not_mem_append clear.1 (List.not_mem_append (by decide) blank.unbroken)
  · apply IsWord.plain
    · apply letters.of_stop
      intro c front
      cases space with
      | nil =>
          cases front
          decide +kernel
      | cons d space =>
          cases front
          exact (quiet c (blank' c List.mem_cons_self)).2
    · intro c last
      rw [← List.append_assoc, List.getLast?_append_of_ne_nil _ some] at last
      exact quiet c (blank c (List.mem_of_getLast? last))
  · rw [place, size, ← byteSize_append, List.append_assoc]

/-- A function that was seen as a word is found as the same word. -/
theorem Identifier.exists_wordOn_of_find {id : Identifier} {t before word after : Text}
    {d : Declaration} (isWord : IsWord before after word)
    (named : Identifier.ofWord? word = some id) (kind : id.kind = .function)
    (found : id.find t = .ok (some d)) :
    ∃ n above before after, WordOn t n above before word after ∧
      d.nameSpan t = wordSpan n.toUInt32 before word := by
  have same : id.text = word := text_of_ofWord? isWord named
  have unmarked : word.head? ≠ some sigil := by
    intro marked
    rw [Identifier.kind, same, if_pos marked] at kind
    cases kind
  obtain ⟨declared, length⟩ := (declares_function kind).mp (declares_of_find found)
  rw [same] at declared length
  obtain ⟨above, before, after, on, place⟩ := declared.wordOn (isWord.isRun unmarked)
  exact ⟨_, above, before, after, on, on.nameSpan_eq place length⟩

namespace Script

variable {s : Script} {id : Identifier} {fs : FileSystem} {layout : Layout} {p : Position}
  {word : Text} {place : Span} {l : Location} {builds : Identifier → Bool}

/-- A jump to a function through the search for its name ends on that name: a cursor at the start of
the span sees the word again, with this very span. If the span is in the document and the include
line does not come in between, the jump from there has the same answer. -/
theorem wordAt_of_run_answerAt (seen : wordAt s.text p = some (word, place))
    (named : Identifier.ofWord? word = some id) (kind : id.kind = .function)
    (answered : ((s.answerAt p layout builds).run fs).1.location = some l)
    (searched : ((s.answerAt p layout builds).run fs).1.origin ≠ .includeLine) :
    ∃ t, s.PointsInto id fs ((s.includes layout).run fs).1.1 ((s.answerAt p layout builds).run fs).1 l t ∧
      (t.Addressable → wordAt t l.span.start = some (word, l.span)) ∧
      (((s.answerAt p layout builds).run fs).1.origin = .document → s.text.Addressable →
        s.includeAt? l.span.start = none → ∀ layout' fs',
          ((s.answerAt l.span.start layout' builds).run fs').1 = ((s.answerAt p layout builds).run fs).1) := by
  obtain ⟨_, _, _, here, _⟩ := wordAt_eq_some seen
  have missed : ((s.includeLocation? p layout).run fs).1 = none := by
    cases led : ((s.includeLocation? p layout).run fs).1 with
    | none => rfl
    | some location => exact absurd (by rw [run_answerAt_of_include led]) searched
  rw [run_answerAt_of_missed missed seen named] at answered ⊢
  have built := builds_of_location answered
  obtain ⟨t, d, into, found, span⟩ := exists_pointsInto answered
  obtain ⟨n, above, before, after, on, same⟩ :=
    Identifier.exists_wordOn_of_find here.isWord named kind found
  have again : t.Addressable → wordAt t l.span.start = some (word, l.span) := by
    intro addressable
    rw [span, same]
    have found := on.wordAt (List.nil_append word) on.isWord.inhabited addressable
    rwa [List.append_nil] at found
  refine ⟨t, into, again, ?_⟩
  intro own addressable bare layout' fs'
  cases into with
  | script m passed origin wins uri => cases origin.symm.trans own
  | document origin uri =>
      have passed : ((s.includeLocation? l.span.start layout').run fs').1 = none :=
        run_includeLocation?_of_bare bare
      rw [run_answerAt_of_missed passed (again addressable) named,
        answerFor_of_built built, answerFor_of_built built, run_answerFor_of_found found,
        run_answerFor_of_found found]

/-- The call leads to the declaration, whose name stands behind two blanks and in front of one, and
the declaration leads to itself. -/
theorem wordAt_of_run_answerAt_call :
    let id : Identifier := ⟨['g', 'ö'], by decide⟩
    let s : Script :=
      ⟨⟨Uri.fileScheme, some ⟨[], [], none⟩, "/p/src/a.au3".toList, none, none⟩,
        "'😀' Func \tgö ()\r\n  gö()".toList⟩
    let fs : FileSystem := ⟨fun _ => none, fun _ => none, fun _ => false⟩
    let l : Location := ⟨s.uri, ⟨⟨0, 11⟩, ⟨0, 13⟩⟩⟩
    let answer : Answer := ⟨some l, .document, .none⟩
    wordAt s.text ⟨1, 4⟩ = some (id.text, ⟨⟨1, 2⟩, ⟨1, 4⟩⟩) ∧
      ((s.answerAt ⟨1, 4⟩ .standard).run fs).1 = answer ∧
      wordAt s.text l.span.start = some (id.text, l.span) ∧
      ∀ layout' fs', ((s.answerAt l.span.start layout').run fs').1 = answer := by
  intro id s fs l answer
  have seen : wordAt s.text ⟨1, 4⟩ = some (id.text, ⟨⟨1, 2⟩, ⟨1, 4⟩⟩) := by decide +kernel
  have first : ((s.answerAt ⟨1, 4⟩ .standard).run fs).1 = answer := by decide +kernel
  have small : byteSize s.text < UInt32.size := by decide +kernel
  have addressable := addressable_of_byteSize_lt small
  have named : Identifier.ofWord? id.text = some id := by decide +kernel
  obtain ⟨t, into, again, stays⟩ := wordAt_of_run_answerAt (l := l) seen named (by decide)
    (by rw [first]) (by rw [first]; decide)
  rw [first] at into stays
  refine ⟨seen, first, ?_, stays rfl addressable (by decide +kernel)⟩
  cases into with
  | script m passed origin wins uri => cases origin
  | document origin uri => exact again addressable

end Script

end AutoItNav
