import AutoItNav.Proofs.Declaration.Overflow

/-!
What the search finds: the first place of a text where a declaration of the identifier is written,
behind no comment on its line and outside a block.
-/
namespace AutoItNav

open Declaration Text

/-- A declaration of the function `name` is written at byte `start` of `t`, and `Func` with the
blanks behind it takes up `keyword` bytes. -/
def FunctionAt (name t : Text) (start keyword : Nat) : Prop :=
  ∃ above line gap space body,
    t = above ++ line ++ (funcKeyword ++ gap ++ name ++ space ++ '(' :: body) ∧
    LineStart above ∧ Clear .exact line (funcKeyword ++ gap ++ name ++ space ++ '(' :: body) ∧
    gap ≠ [] ∧ Gap gap ∧ Gap space ∧ OutsideBlock .exact body ∧
    start = byteSize (above ++ line) ∧ keyword = byteSize (funcKeyword ++ gap)

/-- A declaration of the variable `name` is written at byte `start` of `t`; a scope keyword with the
blanks behind it takes up `keyword` bytes and the name as it is spelled `length` bytes. -/
def VariableAt (name t : Text) (start keyword length : Nat) : Prop :=
  ∃ above line scope gap spelled tail ahead,
    t = above ++ line ++ (scope ++ gap ++ spelled ++ (tail ++ ahead)) ∧
    LineStart above ∧ Clear .anyCase line (scope ++ gap ++ spelled ++ (tail ++ ahead)) ∧
    (scope = [] ∧ gap = [] ∨ ScopeKeyword scope ∧ Gap gap) ∧
    Spelling.anyCase.Reads name spelled ∧ WordBoundary spelled (tail ++ ahead) ∧
    '\n' ∉ tail ∧ OutsideBlock .anyCase ahead ∧
    start = byteSize (above ++ line) ∧ keyword = byteSize (scope ++ gap) ∧
    length = byteSize spelled

theorem functionAt_of_gap (name : Text) {gap body : Text} (some : gap ≠ []) (blank : Gap gap)
    (outside : OutsideBlock .exact body) :
    FunctionAt name (funcKeyword ++ gap ++ (name ++ '(' :: body)) 0 (4 + gap.length) := by
  have size : byteSize (funcKeyword ++ gap) = 4 + gap.length := by
    rw [byteSize_append, byteSize_gap blank]
    rfl
  have bare : Gap [] := fun _ member => nomatch member
  refine ⟨[], [], gap, [], body, ?_, lineStart_nil, clear_nil, some, blank, bare, outside, rfl,
    size.symm⟩
  simp only [List.nil_append, List.append_nil]
  exact (List.append_assoc (funcKeyword ++ gap) name ('(' :: body)).symm

theorem variableAt_of_gap {name gap : Text} (blank : Gap gap) (boundary : WordBoundary name []) :
    VariableAt name (localKeyword ++ gap ++ name) 0 (5 + gap.length) (byteSize name) := by
  have size : byteSize (localKeyword ++ gap) = 5 + gap.length := by
    rw [byteSize_append, byteSize_gap blank]
    rfl
  have scope : ScopeKeyword localKeyword := ⟨localKeyword, List.mem_cons_self, rfl⟩
  refine ⟨[], [], localKeyword, gap, name, [], [], ?_, lineStart_nil, clear_nil,
    .inr ⟨scope, blank⟩, Spelling.reads_self _ name, boundary, by simp, outsideBlock_nil, rfl,
    size.symm, rfl⟩
  rw [List.append_nil, List.append_nil]
  rfl

namespace Identifier

variable {id : Identifier} {t : Text} {d : Declaration}

theorem declares_function (kind : id.kind = .function) :
    id.Declares t d ↔ FunctionAt id.text t d.start d.keyword ∧ d.length = byteSize id.text := by
  have exact : id.spelling = .exact := by rw [spelling, kind]
  unfold Declares OnLine DeclaredAt
  rw [kind, exact]
  constructor
  · rintro ⟨above, _, rfl, start, line, _, rfl, clear, declared, place⟩
    obtain ⟨gap, space, body, rfl, some, blank, blank', outside, head⟩ := declared
    obtain ⟨keyword, length⟩ := Head.mk.inj head
    rw [← byteSize_append] at place
    exact ⟨⟨above, line, gap, space, body, (List.append_assoc ..).symm, start, clear, some, blank,
      blank', outside, place, keyword⟩, length⟩
  · rintro ⟨⟨above, line, gap, space, body, cut, start, clear, some, blank, blank', outside, place,
      keyword⟩, length⟩
    rw [byteSize_append] at place
    exact ⟨above, _, cut.trans (List.append_assoc ..), start, line, _, rfl, clear,
      ⟨gap, space, body, rfl, some, blank, blank', outside, by rw [keyword, length]⟩, place⟩

theorem declares_variable (kind : id.kind = .variable) :
    id.Declares t d ↔ VariableAt id.text t d.start d.keyword d.length := by
  have folded : id.spelling = .anyCase := by rw [spelling, kind]
  unfold Declares OnLine DeclaredAt
  rw [kind, folded]
  constructor
  · rintro ⟨above, _, rfl, start, line, _, rfl, clear, declared, place⟩
    obtain ⟨scope, gap, _, rfl, keyed, named⟩ := declared
    obtain ⟨spelled, _, rfl, reads, boundary, ⟨tail, ahead, rfl, unbroken, outside⟩, head⟩ := named
    obtain ⟨keyword, length⟩ := Head.mk.inj head
    rw [← List.append_assoc (scope ++ gap)] at clear
    rw [← byteSize_append] at place
    exact ⟨above, line, scope, gap, spelled, tail, ahead, by simp only [List.append_assoc], start,
      clear, keyed, reads, boundary, unbroken, outside, place, keyword, length⟩
  · rintro ⟨above, line, scope, gap, spelled, tail, ahead, cut, start, clear, keyed, reads,
      boundary, unbroken, outside, place, keyword, length⟩
    rw [byteSize_append] at place
    refine ⟨above, _, cut.trans (List.append_assoc ..), start, line, _, rfl, clear, ?_, place⟩
    refine ⟨scope, gap, spelled ++ (tail ++ ahead), List.append_assoc .., keyed, ?_⟩
    exact ⟨spelled, tail ++ ahead, rfl, reads, boundary, ⟨tail, ahead, rfl, unbroken, outside⟩,
      by rw [keyword, length]⟩

theorem firstOf_find {found : Option Declaration} (unbroken : '\n' ∉ id.text)
    (answer : id.find t = .ok found) : FirstOf (id.Declares t) found := by
  rw [find_eq unbroken answer]
  exact id.firstOf_declarationByLines? t

/-- The search for a function answers whenever no attempt is aborted, and what it answers is the
first declaration, or none exactly when there is none. -/
theorem find_function (kind : id.kind = .function) (unbroken : '\n' ∉ id.text) :
    (id.Affordable t → ∃ found, id.find t = .ok found) ∧
      ∀ found, id.find t = .ok found →
        (found = none ↔ ∀ start keyword, ¬FunctionAt id.text t start keyword) ∧
        ∀ d, found = some d →
          FunctionAt id.text t d.start d.keyword ∧
          (∀ start keyword, FunctionAt id.text t start keyword → d.start ≤ start) ∧
          d.offset = d.start + d.keyword ∧ d.length = byteSize id.text := by
  refine ⟨fun affordable => ⟨_, find_of_affordable unbroken affordable⟩, ?_⟩
  intro found answer
  have first := (firstOf_find unbroken answer).congr fun d => declares_function kind
  refine ⟨first.eq_none_iff.trans ⟨?_, ?_⟩, ?_⟩
  · intro never start keyword declared
    exact never ⟨start, keyword, byteSize id.text⟩ ⟨declared, rfl⟩
  · intro never d declared
    exact never d.start d.keyword declared.1
  · rintro d rfl
    obtain ⟨⟨declared, length⟩, least⟩ := first
    refine ⟨declared, ?_, rfl, length⟩
    intro start keyword other
    exact least ⟨start, keyword, byteSize id.text⟩ ⟨other, rfl⟩

theorem find_function_inline :
    let id : Identifier := ⟨['g', 'o'], by decide⟩
    let t := "If Func  go ()".toList
    id.kind = .function ∧ '\n' ∉ id.text ∧ id.Affordable t ∧
      id.find t = .ok (some ⟨3, 6, 2⟩) ∧ FunctionAt id.text t 3 6 ∧
      ∀ start keyword, FunctionAt id.text t start keyword → 3 ≤ start := by
  intro id t
  have kind : id.kind = .function := by decide
  have unbroken : '\n' ∉ id.text := by decide
  have affordable : id.Affordable t := affordable_of_unbroken (by decide) (by decide +kernel)
  obtain ⟨answers, means⟩ := find_function (t := t) kind unbroken
  obtain ⟨found, answer⟩ := answers affordable
  obtain rfl : some ⟨3, 6, 2⟩ = found := by
    have same : id.find t = .ok (some ⟨3, 6, 2⟩) := by decide +kernel
    exact Except.ok.inj (same.symm.trans answer)
  obtain ⟨declared, least, _⟩ := (means _ answer).2 _ rfl
  exact ⟨kind, unbroken, affordable, answer, declared, least⟩

/-- The blanks behind the keyword overflow the stack, so the search does not come to the name. -/
theorem find_function_overflowing :
    let id : Identifier := ⟨['g', 'o'], by decide⟩
    let t := funcKeyword ++ List.replicate 2000000 ' ' ++ "go()".toList
    id.kind = .function ∧ '\n' ∉ id.text ∧
      (∀ place ∈ lineStarts t, id.tryLine place.1 place.2 ≠ .error .effortExceeded) ∧
      FunctionAt id.text t 0 2000004 ∧ id.find t = .error .stackExceeded := by
  intro id t
  have kind : id.kind = .function := by decide
  have unbroken : '\n' ∉ id.text := by decide
  have blank := gap_replicate 2000000
  have single : '\n' ∉ funcKeyword ++ List.replicate 2000000 ' ' :=
    List.not_mem_append (by decide) blank.unbroken
  have aborted : id.tryLine 0 t = .error .stackExceeded := by
    apply tryLine_of_long_function kind blank
    rw [List.length_replicate]
    decide
  have occurs : id.Occurs t := ⟨_, "go()".toList, rfl, single, ['g', 'o'], ['(', ')'], rfl, rfl⟩
  have some : List.replicate 2000000 ' ' ≠ [] := by
    apply List.ne_nil_of_length_pos
    rw [List.length_replicate]
    decide
  have outside : OutsideBlock .exact [')'] := by decide
  have declared := functionAt_of_gap id.text some blank outside
  rw [List.length_replicate] at declared
  refine ⟨kind, unbroken, ?_, declared, find_aborted unbroken occurs aborted⟩
  exact ne_effortExceeded (List.not_mem_append single (by decide)) aborted

/-- The search for a variable answers whenever no attempt is aborted, and what it answers is the
first declaration, or none exactly when there is none. -/
theorem find_variable (kind : id.kind = .variable) (unbroken : '\n' ∉ id.text) :
    (id.Affordable t → ∃ found, id.find t = .ok found) ∧
      ∀ found, id.find t = .ok found →
        (found = none ↔ ∀ start keyword length, ¬VariableAt id.text t start keyword length) ∧
        ∀ d, found = some d →
          VariableAt id.text t d.start d.keyword d.length ∧
          (∀ start keyword length, VariableAt id.text t start keyword length → d.start ≤ start) ∧
          d.offset = d.start + d.keyword := by
  refine ⟨fun affordable => ⟨_, find_of_affordable unbroken affordable⟩, ?_⟩
  intro found answer
  have first := (firstOf_find unbroken answer).congr fun d => declares_variable kind
  refine ⟨first.eq_none_iff.trans ⟨?_, ?_⟩, ?_⟩
  · intro never start keyword length declared
    exact never ⟨start, keyword, length⟩ declared
  · intro never d declared
    exact never d.start d.keyword d.length declared
  · rintro d rfl
    obtain ⟨declared, least⟩ := first
    refine ⟨declared, ?_, rfl⟩
    intro start keyword length other
    exact least ⟨start, keyword, length⟩ other

theorem find_variable_in_any_case :
    let id : Identifier := ⟨['$', 'k'], by decide⟩
    let t := "If LOCAL $\u212A = 1".toList
    id.kind = .variable ∧ '\n' ∉ id.text ∧ id.Affordable t ∧
      id.find t = .ok (some ⟨3, 6, 4⟩) ∧ VariableAt id.text t 3 6 4 ∧
      ∀ start keyword length, VariableAt id.text t start keyword length → 3 ≤ start := by
  intro id t
  have kind : id.kind = .variable := by decide
  have unbroken : '\n' ∉ id.text := by decide
  have affordable : id.Affordable t := affordable_of_unbroken (by decide) (by decide +kernel)
  obtain ⟨answers, means⟩ := find_variable (t := t) kind unbroken
  obtain ⟨found, answer⟩ := answers affordable
  obtain rfl : some ⟨3, 6, 4⟩ = found := by
    have same : id.find t = .ok (some ⟨3, 6, 4⟩) := by decide +kernel
    exact Except.ok.inj (same.symm.trans answer)
  obtain ⟨declared, least, _⟩ := (means _ answer).2 _ rfl
  exact ⟨kind, unbroken, affordable, answer, declared, least⟩

/-- The blanks behind the keyword overflow the stack, so the search does not come to the name. -/
theorem find_variable_overflowing :
    let id : Identifier := ⟨['$', 'x'], by decide⟩
    let t := localKeyword ++ List.replicate 2000000 ' ' ++ "$x".toList
    id.kind = .variable ∧ '\n' ∉ id.text ∧
      (∀ place ∈ lineStarts t, id.tryLine place.1 place.2 ≠ .error .effortExceeded) ∧
      VariableAt id.text t 0 2000005 2 ∧ id.find t = .error .stackExceeded := by
  intro id t
  have kind : id.kind = .variable := by decide
  have unbroken : '\n' ∉ id.text := by decide
  have blank := gap_replicate 2000000
  have single : '\n' ∉ localKeyword ++ List.replicate 2000000 ' ' :=
    List.not_mem_append (by decide) blank.unbroken
  have aborted : id.tryLine 0 t = .error .stackExceeded := by
    apply tryLine_of_long_variable kind blank
    rw [List.length_replicate]
    decide
  have occurs : id.Occurs t := ⟨_, "$x".toList, rfl, single, ['$', 'x'], [], rfl, rfl⟩
  have boundary : WordBoundary ['$', 'x'] [] := by decide +kernel
  have declared := variableAt_of_gap blank boundary
  rw [List.length_replicate] at declared
  refine ⟨kind, unbroken, ?_, declared, find_aborted unbroken occurs aborted⟩
  exact ne_effortExceeded (List.not_mem_append single (by decide)) aborted

end Identifier

end AutoItNav
