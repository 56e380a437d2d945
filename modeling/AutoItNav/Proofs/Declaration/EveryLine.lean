import AutoItNav.Proofs.Declaration.Overflow

/-!
The search without its shortcut: every line is tried, whether the name is on it or not. The shortcut
finds the same as long as no attempt at one of the lines left out is aborted.
-/
namespace AutoItNav.Identifier

open Declaration Text

variable {id : Identifier} {t : Text}

/-- Tries every line from top to bottom, up to the first declaration or aborted attempt. -/
def findByLines (id : Identifier) (t : Text) : Except SearchError (Option Declaration) :=
  (lineStarts t).findSomeM? fun (start, line) => id.tryLine start line

/-- No attempt at a line without the name is aborted. -/
def AffordsOthers (id : Identifier) (t : Text) : Prop :=
  ∀ place ∈ lineStarts t, ¬id.Occurs place.2 → (id.tryLine place.1 place.2).isOk = true

instance (id : Identifier) (t : Text) : Decidable (id.AffordsOthers t) :=
  inferInstanceAs (Decidable (∀ _ ∈ _, ¬_ → _))

theorem tryOccurring_eq {place : Nat × Text}
    (answers : ¬id.Occurs place.2 → (id.tryLine place.1 place.2).isOk = true) :
    id.tryOccurring place = id.tryLine place.1 place.2 := by
  unfold tryOccurring
  split
  · rfl
  · next missing =>
      obtain ⟨found, tried⟩ := exists_of_isOk (answers missing)
      rw [tried, tryLine_eq_ok tried, declarationOnLine?_of_not_occurs missing]

/-- Leaving out the lines without the name changes nothing, neither an answer nor an abort. -/
theorem find_eq_findByLines (unbroken : '\n' ∉ id.text) (affords : id.AffordsOthers t) :
    id.find t = id.findByLines t := by
  rw [find_eq_findSomeM? unbroken, findByLines]
  unfold AffordsOthers at affords
  generalize lineStarts t = places at affords ⊢
  induction places with
  | nil => rfl
  | cons place places ih =>
      obtain ⟨here, later⟩ := List.forall_mem_cons.mp affords
      rw [List.findSomeM?_cons, List.findSomeM?_cons, tryOccurring_eq here, ih later]

/-- The first line is tried once for two occurrences, both behind a comment; on the second line the
occurrence met first overlaps with another one and belongs to no declaration. -/
theorem find_eq_findByLines_overlapping :
    let id : Identifier := ⟨['a', 'b', 'a'], by decide⟩
    let t := "; aba aba\nababa Func aba()".toList
    '\n' ∉ id.text ∧ id.AffordsOthers t ∧ id.find t = id.findByLines t ∧
      id.findByLines t = .ok (some ⟨16, 5, 3⟩) := by
  intro id t
  have unbroken : '\n' ∉ id.text := by decide
  have affords : id.AffordsOthers t := by decide +kernel
  exact ⟨unbroken, affords, find_eq_findByLines unbroken affords, by decide +kernel⟩

/-- A variable is on no line without a sigil. -/
theorem not_occurs_of_unmarked {line below : Text} (kind : id.kind = .variable)
    (unmarked : sigil ∉ line) : ¬id.Occurs (line ++ '\n' :: below) := by
  have marked : ∀ c t, id.spelling.Begins id.text (c :: t) → c = sigil := by
    intro c t begins
    have first := head?_of_variable kind
    cases same : id.text with
    | nil => exact absurd same id.text_ne_nil
    | cons d name =>
        rw [same] at begins first
        obtain rfl := Option.some.inj first
        obtain ⟨later, cut⟩ := begins.head_eq (by decide) (by decide)
        exact (List.cons.inj cut).1
  induction line with
  | nil =>
      rw [List.nil_append, occurs_cons]
      rintro (begins | ⟨other, _⟩)
      · cases marked _ _ begins
      · exact other rfl
  | cons c line ih =>
      obtain ⟨other, unmarked⟩ := List.ne_and_not_mem_of_not_mem_cons unmarked
      rw [List.cons_append, occurs_cons]
      rintro (begins | ⟨_, occurs⟩)
      · exact other (marked _ _ begins).symm
      · exact ih unmarked occurs

/-- Trying the first line would overflow the stack; the name is not on it. -/
theorem find_ne_findByLines :
    let id : Identifier := ⟨['$', 'x'], by decide⟩
    let t := localKeyword ++ List.replicate 2000000 ' ' ++ "\n$x".toList
    id.kind = .variable ∧ '\n' ∉ id.text ∧
      (∀ place ∈ lineStarts t, id.tryLine place.1 place.2 ≠ .error .effortExceeded) ∧
      id.find t = .ok (some ⟨2000006, 0, 2⟩) ∧ id.findByLines t = .error .stackExceeded := by
  intro id t
  have kind : id.kind = .variable := by decide
  have unbroken : '\n' ∉ id.text := by decide
  have blank := gap_replicate 2000000
  have unmarked : sigil ∉ localKeyword ++ List.replicate 2000000 ' ' := by
    apply List.not_mem_append (by decide)
    intro member
    rcases blank sigil member with same | same <;> cases same
  have single : '\n' ∉ localKeyword ++ List.replicate 2000000 ' ' :=
    List.not_mem_append (by decide) blank.unbroken
  have starts : lineStarts t = [(0, t), (2000006, ['$', 'x'])] := by
    have size : byteSize (localKeyword ++ List.replicate 2000000 ' ') = 5 + 2000000 := by
      rw [byteSize_append, byteSize_gap blank, List.length_replicate]
      rfl
    have cut := lineStarts_append_newline single ['$', 'x']
    rw [size] at cut
    exact cut
  have first : id.tryLine 0 t = .error .stackExceeded := by
    apply tryLine_of_long_variable kind blank
    rw [List.length_replicate]
    decide
  have second : id.tryLine 2000006 ['$', 'x'] = .ok (some ⟨2000006, 0, 2⟩) := by decide +kernel
  have passed : id.tryOccurring (0, t) = .ok none := if_neg (not_occurs_of_unmarked kind unmarked)
  have tried : id.tryOccurring (2000006, ['$', 'x']) = .ok (some ⟨2000006, 0, 2⟩) := by
    rw [tryOccurring, if_pos (by decide +kernel), second]
  refine ⟨kind, unbroken, ?_, ?_, ?_⟩
  · rw [starts]
    intro place member
    rcases List.mem_pair.mp member with rfl | rfl
    · rw [first]
      decide
    · rw [second]
      decide
  · rw [find_eq_findSomeM? unbroken, starts, findSomeM?_cons_of_none passed, List.findSomeM?_cons,
      tried]
    rfl
  · rw [findByLines, starts, List.findSomeM?_cons]
    dsimp only
    rw [first]
    rfl

end AutoItNav.Identifier
