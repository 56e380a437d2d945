import AutoItNav.Declaration.Search
import AutoItNav.Proofs.Declaration.Head
import AutoItNav.Proofs.Text.Lines

/-!
The first declaration of a text. A line is searched place by place, a text line by line; either
way what is found is the declaration with the least start.
-/
namespace AutoItNav

namespace Declaration

/-- A part of a line on which no comment opens, with `rest` behind it. -/
def Clear (s : Spelling) (line rest : Text) : Prop :=
  '\n' ∉ line ∧ ∀ passed ahead, line = passed ++ ahead → ahead ≠ [] →
    ¬OpensComment s (ahead ++ rest)

variable {s : Spelling} {c : Char} {line rest : Text}

theorem clear_nil : Clear s [] rest := by
  refine ⟨by simp, ?_⟩
  intro passed ahead cut inner
  exact absurd (List.append_eq_nil_iff.mp cut.symm).2 inner

theorem clear_cons : Clear s (c :: line) rest ↔
    c ≠ '\n' ∧ ¬OpensComment s (c :: (line ++ rest)) ∧ Clear s line rest := by
  constructor
  · rintro ⟨unbroken, quiet⟩
    obtain ⟨other, unbroken⟩ := List.ne_and_not_mem_of_not_mem_cons unbroken
    refine ⟨other.symm, quiet [] (c :: line) rfl (by simp), unbroken, ?_⟩
    rintro passed ahead rfl inner
    exact quiet (c :: passed) ahead rfl inner
  · rintro ⟨other, first, unbroken, quiet⟩
    refine ⟨List.not_mem_cons_of_ne_of_not_mem other.symm unbroken, ?_⟩
    intro passed ahead cut inner
    cases passed with
    | nil =>
        cases cut
        exact first
    | cons d passed =>
        cases cut
        exact quiet passed ahead rfl inner

instance decidableClear (s : Spelling) : (line rest : Text) → Decidable (Clear s line rest)
  | [], _ => .isTrue clear_nil
  | c :: line, rest =>
    have := decidableClear s line rest
    decidable_of_iff
      (c ≠ '\n' ∧ ¬opensComment s (c :: (line ++ rest)) = true ∧ Clear s line rest)
      (by rw [clear_cons, opensComment_iff])

/-- What a search for the declarations with the property `P` has to answer. -/
def FirstOf (P : Declaration → Prop) : Option Declaration → Prop
  | none => ∀ d, ¬P d
  | some d => P d ∧ ∀ d', P d' → d.start ≤ d'.start

theorem FirstOf.congr {P Q : Declaration → Prop} {found : Option Declaration}
    (first : FirstOf P found) (same : ∀ d, P d ↔ Q d) : FirstOf Q found := by
  obtain rfl : P = Q := funext fun d => propext (same d)
  exact first

theorem FirstOf.eq_none_iff {P : Declaration → Prop} {found : Option Declaration}
    (first : FirstOf P found) : found = none ↔ ∀ d, ¬P d := by
  cases found with
  | none => exact iff_of_true rfl first
  | some d => exact iff_of_false (by simp) fun never => never d first.1

theorem FirstOf.orElse {P Q : Declaration → Prop} {a b : Option Declaration}
    (first : FirstOf P a) (second : FirstOf Q b)
    (ordered : ∀ d d', P d → Q d' → d.start ≤ d'.start) :
    FirstOf (fun d => P d ∨ Q d) (a <|> b) := by
  cases a with
  | some d =>
      refine ⟨.inl first.1, ?_⟩
      rintro d' (here | below)
      · exact first.2 d' here
      · exact ordered d d' first.1 below
  | none =>
      exact second.congr fun d => ⟨.inr, fun either => either.resolve_left (first d)⟩

end Declaration

namespace Identifier

open Declaration Text

/-- The first declaration on the line that begins at byte `here`. -/
def declarationOnLine? (id : Identifier) (here : Nat) : Text → Option Declaration
  | [] => none
  | c :: t =>
    match id.head? (c :: t) with
    | some head => some ⟨here, head.keyword, head.name⟩
    | none =>
      if opensComment id.spelling (c :: t) || c = '\n' then none
      else id.declarationOnLine? (here + c.utf8Size) t

variable {id : Identifier} {here : Nat} {c : Char} {t : Text} {d : Declaration}

/-- `d` is declared on the line that `t` begins, which starts at byte `here`. -/
def OnLine (id : Identifier) (here : Nat) (t : Text) (d : Declaration) : Prop :=
  ∃ line rest, t = line ++ rest ∧ Clear id.spelling line rest ∧
    id.DeclaredAt rest ⟨d.keyword, d.length⟩ ∧ d.start = here + byteSize line

/-- `d` is declared on a line that begins further down in `t`, which starts at byte `here`. -/
def Below (id : Identifier) (here : Nat) (t : Text) (d : Declaration) : Prop :=
  ∃ above lower, t = above ++ lower ∧ LineStart above ∧ above ≠ [] ∧
    id.OnLine (here + byteSize above) lower d

/-- `d` is declared in `t`. -/
def Declares (id : Identifier) (t : Text) (d : Declaration) : Prop :=
  ∃ above lower, t = above ++ lower ∧ LineStart above ∧ id.OnLine (byteSize above) lower d

theorem onLine_cons : id.OnLine here (c :: t) d ↔
    id.DeclaredAt (c :: t) ⟨d.keyword, d.length⟩ ∧ d.start = here ∨
      c ≠ '\n' ∧ ¬OpensComment id.spelling (c :: t) ∧ id.OnLine (here + c.utf8Size) t d := by
  constructor
  · rintro ⟨line, rest, cut, clear, declared, start⟩
    cases line with
    | nil =>
        cases cut
        exact .inl ⟨declared, start⟩
    | cons e line =>
        cases cut
        obtain ⟨other, quiet, clear⟩ := clear_cons.mp clear
        rw [byteSize_cons, ← Nat.add_assoc] at start
        exact .inr ⟨other, quiet, line, rest, rfl, clear, declared, start⟩
  · rintro (⟨declared, start⟩ | ⟨other, quiet, line, rest, rfl, clear, declared, start⟩)
    · exact ⟨[], c :: t, rfl, clear_nil, declared, start⟩
    · refine ⟨c :: line, rest, rfl, clear_cons.mpr ⟨other, quiet, clear⟩, declared, ?_⟩
      rw [byteSize_cons, ← Nat.add_assoc]
      exact start

theorem below_cons : id.Below here (c :: t) d ↔
    c = '\n' ∧ id.OnLine (here + 1) t d ∨ id.Below (here + c.utf8Size) t d := by
  constructor
  · rintro ⟨above, lower, cut, start, inner, declared⟩
    cases above with
    | nil => exact absurd rfl inner
    | cons e above =>
        cases cut
        by_cases last : above = []
        · subst last
          obtain rfl := start.eq_newline
          exact .inl ⟨rfl, declared⟩
        · rw [byteSize_cons, ← Nat.add_assoc] at declared
          exact .inr ⟨above, lower, rfl, start.of_cons, last, declared⟩
  · rintro (⟨rfl, declared⟩ | ⟨above, lower, rfl, start, inner, declared⟩)
    · exact ⟨['\n'], t, rfl, lineStart_snoc [], by simp, declared⟩
    · refine ⟨c :: above, lower, rfl, start.cons c inner, by simp, ?_⟩
      rw [byteSize_cons, ← Nat.add_assoc]
      exact declared

theorem OnLine.le_start (declared : id.OnLine here t d) : here ≤ d.start := by
  obtain ⟨line, rest, _, _, _, start⟩ := declared
  omega

theorem OnLine.le_of_below {d' : Declaration} (declared : id.OnLine here t d)
    (below : id.Below here t d') : d.start ≤ d'.start := by
  obtain ⟨line, rest, cut, clear, _, start⟩ := declared
  obtain ⟨above, lower, cut', first, inner, later⟩ := below
  have far := later.le_start
  obtain rfl | ⟨upper, rfl⟩ := first
  · exact absurd rfl inner
  -- the line ends before the break that the lower line begins behind
  rcases List.append_eq_append_iff.mp (cut.symm.trans cut') with ⟨more, same, _⟩ | ⟨more, same, _⟩
  · rw [same, byteSize_append] at far
    omega
  · have newline : '\n' ∈ line := by
      rw [same]
      simp
    exact absurd newline clear.1

theorem firstOf_declarationOnLine? (id : Identifier) (here : Nat) (t : Text) :
    FirstOf (id.OnLine here t) (id.declarationOnLine? here t) := by
  induction t generalizing here with
  | nil =>
      rintro d ⟨line, rest, cut, _, declared, _⟩
      obtain ⟨rfl, rfl⟩ := List.append_eq_nil_iff.mp cut.symm
      exact id.not_occurs_nil declared.occurs
  | cons c t ih =>
      rw [declarationOnLine?]
      cases found : id.head? (c :: t) with
      | some head =>
          refine ⟨onLine_cons.mpr (.inl ⟨head?_eq_some_iff.mp found, rfl⟩), ?_⟩
          intro d' declared
          exact declared.le_start
      | none =>
          have missing : ∀ h, ¬id.DeclaredAt (c :: t) h := by
            intro h declared
            rw [← head?_eq_some_iff, found] at declared
            cases declared
          dsimp only
          split
          · next stop =>
              rw [Bool.or_eq_true, opensComment_iff, decide_eq_true_eq] at stop
              intro d declared
              rcases onLine_cons.mp declared with ⟨first, _⟩ | ⟨other, quiet, _⟩
              · exact missing _ first
              · exact stop.elim quiet other
          · next go =>
              rw [Bool.or_eq_true, opensComment_iff, decide_eq_true_eq, not_or] at go
              apply (ih (here + c.utf8Size)).congr
              intro d
              rw [onLine_cons]
              constructor
              · intro later
                exact .inr ⟨go.2, go.1, later⟩
              · rintro (⟨first, _⟩ | ⟨_, _, later⟩)
                · exact absurd first (missing _)
                · exact later

/-- The declaration found by trying every line that begins further down in `t`. -/
def declarationBelow? (id : Identifier) (here : Nat) : Text → Option Declaration
  | [] => none
  | c :: t =>
    if c = '\n' then id.declarationOnLine? (here + 1) t <|> id.declarationBelow? (here + 1) t
    else id.declarationBelow? (here + c.utf8Size) t

/-- The declaration found by trying every line of `t` from top to bottom. -/
def declarationByLines? (id : Identifier) (t : Text) : Option Declaration :=
  id.declarationOnLine? 0 t <|> id.declarationBelow? 0 t

theorem firstOf_declarationBelow? (id : Identifier) (here : Nat) (t : Text) :
    FirstOf (id.Below here t) (id.declarationBelow? here t) := by
  induction t generalizing here with
  | nil =>
      rintro d ⟨above, lower, cut, _, inner, _⟩
      exact inner (List.append_eq_nil_iff.mp cut.symm).1
  | cons c t ih =>
      rw [declarationBelow?]
      split
      · next newline =>
          subst c
          apply ((id.firstOf_declarationOnLine? (here + 1) t).orElse (ih (here + 1)) _).congr
          · intro d
            rw [below_cons, eq_self_iff_true, true_and]
            rfl
          · intro d d' declared below
            exact declared.le_of_below below
      · next other =>
          apply (ih (here + c.utf8Size)).congr
          intro d
          rw [below_cons]
          constructor
          · exact .inr
          · rintro (⟨newline, _⟩ | below)
            · exact absurd newline other
            · exact below

theorem firstOf_declarationByLines? (id : Identifier) (t : Text) :
    FirstOf (id.Declares t) (id.declarationByLines? t) := by
  apply ((id.firstOf_declarationOnLine? 0 t).orElse (id.firstOf_declarationBelow? 0 t) _).congr
  · intro d
    constructor
    · rintro (declared | ⟨above, lower, cut, start, _, declared⟩)
      · exact ⟨[], t, rfl, lineStart_nil, declared⟩
      · rw [Nat.zero_add] at declared
        exact ⟨above, lower, cut, start, declared⟩
    · rintro ⟨above, lower, cut, start, declared⟩
      by_cases top : above = []
      · subst top
        cases cut
        exact .inl declared
      · rw [← Nat.zero_add (byteSize above)] at declared
        exact .inr ⟨above, lower, cut, start, top, declared⟩
  · intro d d' declared below
    exact declared.le_of_below below

end Identifier

end AutoItNav
