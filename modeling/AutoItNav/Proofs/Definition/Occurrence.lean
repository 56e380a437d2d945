import AutoItNav.Proofs.Declaration.Meaning
import AutoItNav.Proofs.Definition.Answer
import AutoItNav.Proofs.Definition.IncludeLine
import AutoItNav.Proofs.Text.Word

/-!
Variables under the cursor. No keyword is asked for in front of a variable, so the place under the
cursor is a declaration itself and the document answers, unless the word ends where the declaration
sees no end of a word.
-/
namespace AutoItNav

open Declaration Text

namespace Text

/-- The two notions of a word character agree on ASCII. -/
theorem isBoundaryWord_of_ascii {c : Char} (ascii : c.toNat < 128) :
    isBoundaryWord c = isWordChar c := by
  have codes : ∀ n < 128, isBoundaryWord (Char.ofNat n) = isWordChar (Char.ofNat n) := by
    decide +kernel
  rw [← c.ofNat_toNat]
  exact codes _ ascii

/-- A word ends at a word boundary when the two notions of a word character agree on its last
character and on the next one. -/
theorem IsWord.wordBoundary {before word after : Text} (isWord : IsWord before after word)
    (last : ∀ c, word.getLast? = some c → isBoundaryWord c = isWordChar c)
    (next : ∀ c, after.head? = some c → isBoundaryWord c = isWordChar c) :
    WordBoundary word after := by
  obtain ⟨init, c, rfl, letter⟩ := isWord.exists_last
  rw [List.getLast?_concat] at last
  intro same
  obtain ⟨d, first, inside⟩ := same.mp ⟨c, by simp, (last c rfl).trans letter⟩
  rw [next d first, isWord.stop d first] at inside
  cases inside

end Text

namespace Identifier

variable {id : Identifier} {t above before word after : Text} {n : Nat} {d : Declaration}

/-- A variable that stands behind no comment, outside every block and in front of a word boundary
is declared where it stands. -/
theorem variableAt_of_wordOn (on : WordOn t n above before word after)
    (clear : Clear .anyCase before (word ++ after)) (outside : OutsideBlock .anyCase after)
    (boundary : WordBoundary word after) :
    VariableAt word t (byteSize (above ++ before)) 0 (byteSize word) := by
  refine ⟨above, before, [], [], word, [], after, ?_, on.start, clear, .inl ⟨rfl, rfl⟩, rfl,
    boundary, by simp, outside, rfl, rfl, rfl⟩
  rw [on.cut]
  simp only [List.append_assoc, List.nil_append]

/-- The first declaration of a variable has its name no further on than any place where the variable
is declared without a keyword. -/
theorem offset_le_of_first {front rest : Text} {length : Nat} (kind : id.kind = .variable)
    (first : FirstOf (id.Declares t) (some d)) (cut : t = front ++ sigil :: rest)
    (bare : VariableAt id.text t (byteSize front) 0 length) : d.offset ≤ byteSize front := by
  have least := first.2 ⟨byteSize front, 0, length⟩ ((declares_variable kind).mpr bare)
  obtain ⟨above, line, scope, gap, spelled, tail, ahead, cut', _, _, keyed, _, _, _, _, place,
    keyword, _⟩ := (declares_variable kind).mp first.1
  have absent : sigil ∉ scope ++ gap :=
    not_mem_scope keyed (by decide) (by decide) (by decide) (by decide)
  have same : above ++ line ++ (scope ++ gap) ++ (spelled ++ (tail ++ ahead)) =
      front ++ sigil :: rest := by
    rw [← cut, cut']
    simp only [List.append_assoc]
  rw [place] at least
  rw [Declaration.offset, place, keyword, ← byteSize_append]
  exact byteSize_le_of_not_mem same least absent

end Identifier

namespace Script

variable {s : Script} {id : Identifier} {p : Position} {word : Text} {span : Span}

/-- A variable under the cursor stands at the place that its span begins at. Wherever it stands on
that line behind no comment, outside every block and in front of a word boundary, the search comes
upon a declaration there or earlier, and the document answers with it; only an include line is asked
before. -/
theorem resolved_of_wordAt (seen : wordAt s.text p = some (word, span))
    (named : Identifier.ofWord? word = some id) (kind : id.kind = .variable) :
    (∃ above before after, WordOn s.text p.line.toNat above before word after ∧
      span = wordSpan p.line before word ∧
      (s.text.Addressable → offsetAt? s.text span.start = some (byteSize (above ++ before)))) ∧
    ∀ above before after, WordOn s.text p.line.toNat above before word after →
      Clear .anyCase before (word ++ after) → OutsideBlock .anyCase after →
      WordBoundary word after →
      (id.Affordable s.text → ∃ found, id.find s.text = .ok found) ∧
      ∀ found, id.find s.text = .ok found → ∃ d, found = some d ∧
        d.offset ≤ byteSize (above ++ before) ∧
        ∀ layout fs,
          (s.answerFor id layout).run fs =
            (⟨some ⟨s.uri, d.nameSpan s.text⟩, .document, .none⟩, []) ∧
          (((s.includeLocation? p layout).run fs).1 = none →
            ((s.answerAt p layout).run fs).1 =
              ⟨some ⟨s.uri, d.nameSpan s.text⟩, .document, .none⟩) := by
  refine ⟨?_, ?_⟩
  · obtain ⟨above, before, after, on, rfl, _⟩ := wordAt_eq_some seen
    refine ⟨above, before, after, on, rfl, ?_⟩
    intro addressable
    have place := on.offsetAt? (List.nil_append word) addressable
    rwa [List.append_nil, List.append_nil, Nat.toUInt32, UInt32.ofNat_toNat] at place
  · intro above before after on clear outside boundary
    have same : id.text = word := Identifier.text_of_ofWord? on.isWord named
    have unbroken : '\n' ∉ id.text := same ▸ on.isWord.unbroken
    obtain ⟨name, marked⟩ := List.head?_eq_some_iff.mp (Identifier.head?_of_variable kind)
    have cut : s.text = above ++ before ++ sigil :: (name ++ after) := by
      rw [on.cut, ← same, marked, List.append_assoc, List.cons_append]
    have bare := Identifier.variableAt_of_wordOn on clear outside boundary
    rw [← same] at bare
    refine ⟨fun affordable => ⟨_, Identifier.find_of_affordable unbroken affordable⟩, ?_⟩
    intro found answer
    have first := Identifier.firstOf_find unbroken answer
    cases found with
    | none => exact absurd ((Identifier.declares_variable kind).mpr bare) (first ⟨_, 0, _⟩)
    | some d =>
        refine ⟨d, rfl, Identifier.offset_le_of_first kind first cut bare, ?_⟩
        intro layout fs
        refine ⟨run_answerFor_of_found answer, ?_⟩
        intro missed
        rw [run_answerAt_of_missed missed seen named, run_answerFor_of_found answer]

/-- The cursor is behind the second of three places, and the search comes upon the first that is not
commented out, in the other case. -/
theorem resolved_of_wordAt_umlaut :
    let id : Identifier := ⟨['$', 'ü'], by decide⟩
    let s : Script :=
      ⟨⟨Uri.fileScheme, some ⟨[], [], none⟩, "/p/src/a.au3".toList, none, none⟩,
        "; $ü\r\nIf $Ü Then $ü = '😀'".toList⟩
    wordAt s.text ⟨1, 13⟩ = some (id.text, ⟨⟨1, 11⟩, ⟨1, 13⟩⟩) ∧
      Identifier.ofWord? id.text = some id ∧ id.kind = .variable ∧
      ∃ d, id.find s.text = .ok (some d) ∧ d.offset ≤ 19 ∧
        ∀ layout fs, ((s.answerAt ⟨1, 13⟩ layout).run fs).1 =
          ⟨some ⟨s.uri, d.nameSpan s.text⟩, .document, .none⟩ := by
  intro id s
  have seen : wordAt s.text ⟨1, 13⟩ = some (id.text, ⟨⟨1, 11⟩, ⟨1, 13⟩⟩) := by decide +kernel
  have named : Identifier.ofWord? id.text = some id := by decide +kernel
  have kind : id.kind = .variable := by decide
  have isWord : IsWord "If $Ü Then ".toList " = '😀'".toList id.text := by
    refine .marked ⟨by decide, List.all_eq_true.mp (by decide +kernel), ?_⟩
    rintro c ⟨⟩
    decide +kernel
  have on : WordOn s.text 1 "; $ü\r\n".toList "If $Ü Then ".toList id.text " = '😀'".toList :=
    ⟨by decide, lineStart_snoc "; $ü\r".toList, by decide, by decide, isWord⟩
  have clear : Clear .anyCase "If $Ü Then ".toList (id.text ++ " = '😀'".toList) := by
    decide +kernel
  have outside : OutsideBlock .anyCase " = '😀'".toList := by decide +kernel
  have boundary : WordBoundary id.text " = '😀'".toList := by
    apply isWord.wordBoundary
    · rintro c ⟨⟩
      decide +kernel
    · rintro c ⟨⟩
      exact isBoundaryWord_of_ascii (by decide)
  obtain ⟨_, resolved⟩ := resolved_of_wordAt seen named kind
  obtain ⟨_, means⟩ := resolved _ _ _ on clear outside boundary
  have answer : id.find s.text = .ok (some ⟨10, 0, 3⟩) := by decide +kernel
  obtain ⟨d, same, early, answered⟩ := means _ answer
  refine ⟨seen, named, kind, d, same ▸ answer, early, ?_⟩
  intro layout fs
  have missed : ((s.includeLocation? ⟨1, 13⟩ layout).run fs).1 = none := by
    apply run_includeLocation?_of_bare
    decide +kernel
  exact (answered layout fs).2 missed

/-- A superscript is part of the word under the cursor, but no word boundary is behind it, and so the
document does not answer. -/
theorem unresolved_of_superscript :
    let id : Identifier := ⟨['$', 'x', '²'], by decide⟩
    let s : Script :=
      ⟨⟨Uri.fileScheme, some ⟨[], [], none⟩, "/p/src/a.au3".toList, none, none⟩,
        "$x² = 1".toList⟩
    wordAt s.text ⟨0, 1⟩ = some (id.text, ⟨⟨0, 0⟩, ⟨0, 3⟩⟩) ∧
      Identifier.ofWord? id.text = some id ∧ id.kind = .variable ∧
      WordOn s.text 0 [] [] id.text " = 1".toList ∧ Clear .anyCase [] (id.text ++ " = 1".toList) ∧
      OutsideBlock .anyCase " = 1".toList ∧ id.Affordable s.text ∧ id.find s.text = .ok none ∧
      ∀ fs, ((s.answerAt ⟨0, 1⟩ .standard).run fs).1.origin ≠ .document := by
  intro id s
  have seen : wordAt s.text ⟨0, 1⟩ = some (id.text, ⟨⟨0, 0⟩, ⟨0, 3⟩⟩) := by decide +kernel
  have named : Identifier.ofWord? id.text = some id := by decide +kernel
  have isWord : IsWord [] " = 1".toList id.text := by
    refine .marked ⟨by decide, List.all_eq_true.mp (by decide +kernel), ?_⟩
    rintro c ⟨⟩
    decide +kernel
  have affordable : id.Affordable s.text :=
    Identifier.affordable_of_unbroken (by decide) (by decide +kernel)
  have missing : id.find s.text = .ok none := by decide +kernel
  refine ⟨seen, named, by decide, ⟨rfl, lineStart_nil, rfl, by simp, isWord⟩, clear_nil,
    by decide +kernel, affordable, missing, ?_⟩
  intro fs
  have missed : ((s.includeLocation? ⟨0, 1⟩ .standard).run fs).1 = none := by
    apply run_includeLocation?_of_bare
    decide +kernel
  have silent : ∀ d, id.find s.text ≠ .ok (some d) := by
    intro d found
    cases missing.symm.trans found
  rw [run_answerAt_of_missed missed seen named, run_answerFor_of_silent silent rfl]
  dsimp only
  split <;> decide

end Script

end AutoItNav
