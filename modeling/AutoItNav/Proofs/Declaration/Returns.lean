import AutoItNav.Definition.Location
import AutoItNav.Proofs.Declaration.Search
import AutoItNav.Proofs.Declaration.Spelled
import AutoItNav.Proofs.Text.Returns

/-!
Declarations in texts with carriage returns. Every test that the search makes has the same outcome
in front of either line end, so the same declarations are found, each moved by the number of lines
above it and at the same line and column as before.
-/
namespace AutoItNav

open Text

namespace Declaration

variable {s : Spelling} {name : Text}

theorem opensComment_withReturns (s : Spelling) (t : Text) :
    opensComment s (withReturns t) = opensComment s t := by
  rw [Bool.eq_iff_iff, opensComment_iff, opensComment_iff]
  simp only [OpensComment, ← Spelling.begins_iff]
  rw [Spelling.begins_withReturns (by decide), Spelling.begins_withReturns (by decide),
    Spelling.begins_withReturns (by decide)]

theorem closesBlock_withReturns (s : Spelling) (t : Text) :
    closesBlock s (withReturns t) = closesBlock s t := by
  rw [closesBlock, closesBlock, Spelling.begins_withReturns (by decide),
    Spelling.begins_withReturns (by decide)]

theorem insideBlock_withReturns (s : Spelling) (t : Text) :
    insideBlock s (withReturns t) = insideBlock s t := by
  rw [insideBlock, insideBlock, dropWhile_withReturns rfl, closesBlock_withReturns]

theorem leavesBlock_withReturns (s : Spelling) (t : Text) :
    leavesBlock s (withReturns t) = leavesBlock s t := by
  induction t with
  | nil => rfl
  | cons c t ih =>
      by_cases newline : c = '\n'
      · subst c
        rw [withReturns_newline, leavesBlock, if_neg (by decide), if_neg (by decide), leavesBlock,
          leavesBlock, if_pos rfl, if_pos rfl, insideBlock_withReturns]
      · have closes := closesBlock_withReturns s (c :: t)
        rw [withReturns_cons newline] at closes ⊢
        rw [leavesBlock, leavesBlock, if_neg newline, if_neg newline, closes, ih]

theorem functionHead?_withReturns (inline : Inline name) (t : Text) :
    functionHead? name (withReturns t) = functionHead? name t := by
  unfold functionHead?
  rw [Spelling.after?_withReturns (by decide)]
  cases Spelling.exact.after? funcKeyword t with
  | none => rfl
  | some behind =>
      simp only [Option.map_some, Option.bind_eq_bind, Option.bind_some]
      rw [takeWhile_withReturns rfl rfl, dropWhile_withReturns rfl,
        Spelling.after?_withReturns inline]
      cases Spelling.exact.after? name (behind.dropWhile isGap) with
      | none => rfl
      | some rest =>
          simp only [Option.map_some, Option.bind_some]
          rw [dropWhile_withReturns rfl, Spelling.after?_withReturns (by decide)]
          cases Spelling.exact.after? ['('] (rest.dropWhile isGap) with
          | none => rfl
          | some body =>
              simp only [Option.map_some, Option.bind_some]
              rw [insideBlock_withReturns]

theorem wordBreak_withReturns (read ahead : Text) :
    wordBreak read (withReturns ahead) = wordBreak read ahead := by
  have same : (withReturns ahead).head?.any isBoundaryWord = ahead.head?.any isBoundaryWord := by
    cases ahead with
    | nil => rfl
    | cons c ahead =>
        by_cases newline : c = '\n'
        · subst c
          rw [withReturns_newline]
          change isBoundaryWord '\r' = isBoundaryWord '\n'
          decide +kernel
        · rw [withReturns_cons newline]
          rfl
  rw [wordBreak, wordBreak, same]

theorem namedHead?_withReturns (inline : Inline name) (keyword : Nat) (t : Text) :
    namedHead? name keyword (withReturns t) = namedHead? name keyword t := by
  unfold namedHead?
  rw [Spelling.after?_withReturns inline]
  cases found : Spelling.anyCase.after? name t with
  | none => rfl
  | some rest =>
      simp only [Option.map_some, Option.bind_eq_bind, Option.bind_some]
      rw [Spelling.take_withReturns inline found, wordBreak_withReturns, leavesBlock_withReturns]

theorem keywordAt?_withReturns {keyword : Text} (inline : Inline keyword) (t : Text) :
    keywordAt? (withReturns t) keyword =
      (keywordAt? t keyword).map fun (n, rest) => (n, withReturns rest) := by
  unfold keywordAt?
  rw [Spelling.after?_withReturns inline]
  cases found : Spelling.anyCase.after? keyword t with
  | none => rfl
  | some behind =>
      simp only [Option.map_some, Option.bind_eq_bind, Option.bind_some]
      rw [Spelling.take_withReturns inline found, takeWhile_withReturns rfl rfl,
        dropWhile_withReturns rfl]

theorem scopeKeyword?_withReturns (t : Text) :
    scopeKeyword? (withReturns t) =
      (scopeKeyword? t).map fun (n, rest) => (n, withReturns rest) := by
  have inline : ∀ keyword ∈ scopeKeywords, Inline keyword := by decide
  unfold scopeKeyword?
  generalize scopeKeywords = keywords at inline ⊢
  induction keywords with
  | nil => rfl
  | cons keyword keywords ih =>
      obtain ⟨first, later⟩ := List.forall_mem_cons.mp inline
      rw [List.findSome?_cons, List.findSome?_cons, ih later, keywordAt?_withReturns first]
      cases keywordAt? t keyword <;> rfl

theorem variableHead?_withReturns (inline : Inline name) (t : Text) :
    variableHead? name (withReturns t) = variableHead? name t := by
  unfold variableHead?
  rw [scopeKeyword?_withReturns]
  cases scopeKeyword? t with
  | none => exact namedHead?_withReturns inline 0 t
  | some pair =>
      simp only [Option.map_some]
      rw [namedHead?_withReturns inline, namedHead?_withReturns inline]

end Declaration

theorem Identifier.inline {id : Identifier} (unbroken : '\n' ∉ id.text) : Inline id.text := by
  refine ⟨unbroken, ?_⟩
  intro last
  cases id.valid.tight.back '\r' last

namespace Identifier

open Declaration

variable {id : Identifier}

theorem head?_withReturns (unbroken : '\n' ∉ id.text) (t : Text) :
    id.head? (withReturns t) = id.head? t := by
  unfold head?
  split
  · exact variableHead?_withReturns (id.inline unbroken) t
  · exact functionHead?_withReturns (id.inline unbroken) t

/-- No declaration begins with a line break. -/
theorem head?_newline (unbroken : '\n' ∉ id.text) (t : Text) : id.head? ('\n' :: t) = none := by
  rw [Option.eq_none_iff_forall_ne_some]
  intro head found
  obtain ⟨lead, spelled, after, cut, single, reads, _⟩ := (head?_eq_some_iff.mp found).spelled
  cases lead with
  | cons c lead =>
      obtain ⟨rfl, _⟩ := List.cons.inj cut
      exact single List.mem_cons_self
  | nil =>
      cases spelled with
      | nil => exact id.text_ne_nil (List.length_eq_zero_iff.mp reads.length_eq.symm)
      | cons c spelled =>
          obtain ⟨rfl, _⟩ := List.cons.inj cut
          exact reads.unbroken unbroken List.mem_cons_self

theorem declarationOnLine?_newline (unbroken : '\n' ∉ id.text) (here : Nat) (t : Text) :
    id.declarationOnLine? here ('\n' :: t) = none := by
  rw [declarationOnLine?, head?_newline unbroken]
  simp

theorem declarationOnLine?_withReturns (unbroken : '\n' ∉ id.text) (here : Nat) (t : Text) :
    id.declarationOnLine? here (withReturns t) = id.declarationOnLine? here t := by
  induction t generalizing here with
  | nil => rfl
  | cons c t ih =>
      have head := head?_withReturns unbroken (c :: t)
      have opens := opensComment_withReturns id.spelling (c :: t)
      by_cases newline : c = '\n'
      · subst c
        rw [withReturns_newline] at head opens ⊢
        rw [declarationOnLine?, head, head?_newline unbroken, declarationOnLine?_newline unbroken]
        dsimp only
        rw [declarationOnLine?_newline unbroken, ite_self]
      · rw [withReturns_cons newline] at head opens ⊢
        rw [declarationOnLine?, declarationOnLine?, head, opens, ih]

end Identifier

/-- The declaration with `n` more bytes in front of it. -/
def Declaration.moved (d : Declaration) (n : Nat) : Declaration := { d with start := d.start + n }

namespace Identifier

open Declaration

variable {id : Identifier} {t : Text} {d : Declaration}

theorem declarationOnLine?_add (n here : Nat) (t : Text) :
    id.declarationOnLine? (here + n) t = (id.declarationOnLine? here t).map (·.moved n) := by
  induction t generalizing here with
  | nil => rfl
  | cons c t ih =>
      rw [declarationOnLine?, declarationOnLine?]
      split
      · rfl
      · split
        · rfl
        · rw [Nat.add_right_comm, ih]

theorem row_of_declarationOnLine? {before : Text}
    (found : id.declarationOnLine? (byteSize before) t = some d) :
    (before ++ t).row d.start = before.count '\n' := by
  have first := id.firstOf_declarationOnLine? (byteSize before) t
  rw [found] at first
  obtain ⟨line, rest, rfl, clear, _, start⟩ := first.1
  rw [start, ← byteSize_append, ← List.append_assoc, row_boundary, List.count_append,
    List.count_eq_zero.mpr clear.1, Nat.add_zero]

theorem declarationOnLine?_below (unbroken : '\n' ∉ id.text) (before t : Text) :
    id.declarationOnLine? (byteSize (withReturns before)) (withReturns t) =
      (id.declarationOnLine? (byteSize before) t).map
        fun d => d.moved ((before ++ t).row d.start) := by
  rw [declarationOnLine?_withReturns unbroken, byteSize_withReturns, declarationOnLine?_add]
  apply Option.map_congr
  intro d found
  rw [row_of_declarationOnLine? found]

theorem declarationBelow?_withReturns (unbroken : '\n' ∉ id.text) (before t : Text) :
    id.declarationBelow? (byteSize (withReturns before)) (withReturns t) =
      (id.declarationBelow? (byteSize before) t).map
        fun d => d.moved ((before ++ t).row d.start) := by
  induction t generalizing before with
  | nil => rfl
  | cons c t ih =>
      have later := ih (before ++ [c])
      rw [← List.append_cons] at later
      by_cases newline : c = '\n'
      · subst c
        have line := declarationOnLine?_below unbroken (before ++ ['\n']) t
        have plain : byteSize (before ++ ['\n']) = byteSize before + 1 := byteSize_append ..
        have moved : byteSize (withReturns (before ++ ['\n'])) =
            byteSize (withReturns before) + 1 + 1 := by
          rw [withReturns_append]
          exact byteSize_append ..
        rw [← List.append_cons, moved, plain] at line
        rw [moved, plain] at later
        rw [withReturns_newline, declarationBelow?, if_neg (by decide), declarationBelow?,
          if_pos rfl, declarationBelow?, if_pos rfl]
        simp only [Option.orElse_eq_orElse, Option.orElse_eq_or, Option.map_or]
        exact congrArg₂ Option.or line later
      · have plain : byteSize (before ++ [c]) = byteSize before + c.utf8Size := by
          simp
        have moved : byteSize (withReturns (before ++ [c])) =
            byteSize (withReturns before) + c.utf8Size := by
          simp [withReturns_cons newline]
        rw [moved, plain] at later
        rw [withReturns_cons newline, declarationBelow?, declarationBelow?, if_neg newline,
          if_neg newline, later]

/-- The same declaration comes first, moved by one byte for each line above it. -/
theorem declarationByLines?_withReturns (unbroken : '\n' ∉ id.text) (t : Text) :
    id.declarationByLines? (withReturns t) =
      (id.declarationByLines? t).map fun d => d.moved (t.row d.start) := by
  have line := declarationOnLine?_below unbroken [] t
  have below := declarationBelow?_withReturns unbroken [] t
  rw [declarationByLines?, declarationByLines?]
  simp only [Option.orElse_eq_orElse, Option.orElse_eq_or, Option.map_or]
  exact congrArg₂ Option.or line below

/-- The search through the text is not aborted, whichever way its lines end. -/
def Completes (id : Identifier) (t : Text) : Prop :=
  (id.find t).isOk = true ∧ (id.find (withReturns t)).isOk = true

instance (id : Identifier) (t : Text) : Decidable (id.Completes t) :=
  inferInstanceAs (Decidable (_ ∧ _))

theorem exists_find_withReturns (unbroken : '\n' ∉ id.text) (completes : id.Completes t) :
    ∃ found, id.find t = .ok found ∧
      id.find (withReturns t) = .ok (found.map fun d => d.moved (t.row d.start)) := by
  obtain ⟨found, here⟩ := exists_of_isOk completes.1
  obtain ⟨found', there⟩ := exists_of_isOk completes.2
  refine ⟨found, here, ?_⟩
  rw [there, find_eq unbroken here, find_eq unbroken there, declarationByLines?_withReturns unbroken]

end Identifier

end AutoItNav
