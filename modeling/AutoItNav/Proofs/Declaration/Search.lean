import AutoItNav.Proofs.Declaration.Captured

/-!
The search tries the lines on which the name occurs, from top to bottom and each of them once. No
line with a declaration is left out by that, so whenever the search answers, it answers what trying
every line would.
-/
namespace AutoItNav.Identifier

open Declaration Text

variable {id : Identifier} {cur : Cursor} {here : Nat} {c : Char} {t : Text}

theorem occurs_of_declarationOnLine? {d : Declaration}
    (found : id.declarationOnLine? here t = some d) : id.Occurs t := by
  have first := id.firstOf_declarationOnLine? here t
  rw [found] at first
  obtain ⟨line, rest, rfl, clear, declared, _⟩ := first.1
  obtain ⟨inner, ahead, rfl, unbroken, begins⟩ := declared.occurs
  refine ⟨line ++ inner, ahead, (List.append_assoc ..).symm, ?_, begins⟩
  intro newline
  rcases List.mem_append.mp newline with left | right
  · exact clear.1 left
  · exact unbroken right

theorem occurs_cons : id.Occurs (c :: t) ↔
    id.spelling.Begins id.text (c :: t) ∨ c ≠ '\n' ∧ id.Occurs t := by
  constructor
  · rintro ⟨line, ahead, cut, unbroken, begins⟩
    cases line with
    | nil =>
        cases cut
        exact .inl begins
    | cons d line =>
        cases cut
        obtain ⟨other, unbroken⟩ := List.ne_and_not_mem_of_not_mem_cons unbroken
        exact .inr ⟨other.symm, line, ahead, rfl, unbroken, begins⟩
  · rintro (begins | ⟨other, line, ahead, rfl, unbroken, begins⟩)
    · exact ⟨[], c :: t, rfl, by simp, begins⟩
    · exact ⟨c :: line, ahead, rfl, List.not_mem_cons_of_ne_of_not_mem other.symm unbroken, begins⟩

instance decidableOccurs (id : Identifier) : (t : Text) → Decidable (id.Occurs t)
  | [] => .isFalse id.not_occurs_nil
  | c :: t =>
    have := decidableOccurs id t
    decidable_of_iff (id.spelling.begins id.text (c :: t) = true ∨ c ≠ '\n' ∧ id.Occurs t)
      (by rw [occurs_cons, Spelling.begins_iff])

theorem not_mem_take_of_begins (unbroken : '\n' ∉ id.text)
    (begins : id.spelling.Begins id.text t) : '\n' ∉ t.take id.text.length := by
  obtain ⟨spelled, rest, rfl, reads⟩ := begins
  rw [← reads.length_eq, List.take_left]
  exact reads.unbroken unbroken

/-- Tries a line, given with its offset, if the name occurs on it. -/
def tryOccurring (id : Identifier) (place : Nat × Text) : Except SearchError (Option Declaration) :=
  if id.Occurs place.2 then id.tryLine place.1 place.2 else .ok none

theorem findSomeM?_cons_of_none {f : Nat × Text → Except SearchError (Option Declaration)}
    {place : Nat × Text} (passed : f place = .ok none) (places : List (Nat × Text)) :
    (place :: places).findSomeM? f = places.findSomeM? f := by
  rw [List.findSomeM?_cons, passed]
  rfl

namespace Cursor

/-- What the search knows in front of `ahead`: the occurrence met last ends on the current line,
which was tried for it; and as long as the line is untried, no occurrence on it was passed. -/
structure Sound (id : Identifier) (cur : Cursor) (ahead : Text) : Prop where
  inside : cur.within ≠ 0 → cur.tried = true ∧ '\n' ∉ ahead.take cur.within
  pending : cur.tried = false → (id.Occurs cur.line ↔ id.Occurs ahead)

/-- The lines that may still be tried. -/
def left (cur : Cursor) (here : Nat) (ahead : Text) : List (Nat × Text) :=
  (if cur.tried then [] else [(cur.lineStart, cur.line)]) ++ linesBelow here ahead

theorem Sound.start (id : Identifier) (t : Text) : Sound id ⟨0, t, false, 0⟩ t :=
  ⟨fun inside => absurd rfl inside, fun _ => Iff.rfl⟩

theorem Sound.step (sound : Sound id cur (c :: t))
    (elsewhere : cur.tried = false → ¬id.spelling.Begins id.text (c :: t)) :
    Sound id (cur.step c here t) t := by
  have inside : cur.within - 1 ≠ 0 →
      cur.tried = true ∧ c ≠ '\n' ∧ '\n' ∉ t.take (cur.within - 1) := by
    intro more
    obtain ⟨n, within⟩ : ∃ n, cur.within = n + 1 := ⟨cur.within - 1, by omega⟩
    obtain ⟨tried, unbroken⟩ := sound.inside (by omega)
    rw [within, List.take_succ_cons] at unbroken
    obtain ⟨other, unbroken⟩ := List.ne_and_not_mem_of_not_mem_cons unbroken
    rw [within]
    exact ⟨tried, other.symm, unbroken⟩
  unfold Cursor.step
  split
  · next newline =>
      refine ⟨?_, fun _ => Iff.rfl⟩
      intro more
      exact absurd newline (inside more).2.1
  · next other =>
      refine ⟨?_, ?_⟩
      · intro more
        exact ⟨(inside more).1, (inside more).2.2⟩
      · intro untried
        rw [sound.pending untried, occurs_cons]
        simp [elsewhere untried, other]

theorem Sound.occurred (cur : Cursor) (unbroken : '\n' ∉ id.text)
    (begins : id.spelling.Begins id.text t) :
    Sound id { cur with within := id.text.length, tried := true } t := by
  constructor
  · intro _
    exact ⟨rfl, not_mem_take_of_begins unbroken begins⟩
  · intro untried
    cases untried

/-- A step past a character with which no occurrence begins leaves no line out that may be tried. -/
theorem Sound.left_step (sound : Sound id cur (c :: t))
    (elsewhere : cur.tried = false → ¬id.spelling.Begins id.text (c :: t)) :
    ((cur.step c (here + c.utf8Size) t).left (here + c.utf8Size) t).findSomeM? id.tryOccurring =
      (cur.left here (c :: t)).findSomeM? id.tryOccurring := by
  unfold left Cursor.step
  rw [linesBelow]
  split
  · next newline =>
      subst c
      cases tried : cur.tried with
      | true => rfl
      | false =>
          have passed : id.tryOccurring (cur.lineStart, cur.line) = .ok none := by
            apply if_neg
            rw [sound.pending tried, occurs_cons]
            simp [elsewhere tried]
          exact (findSomeM?_cons_of_none passed _).symm
  · rfl

end Cursor

theorem search_eq (unbroken : '\n' ∉ id.text) (sound : cur.Sound id t) :
    id.search cur here t = (cur.left here t).findSomeM? id.tryOccurring := by
  induction t generalizing cur here with
  | nil =>
      rw [search, Cursor.left]
      cases tried : cur.tried with
      | true => rfl
      | false =>
          have passed : id.tryOccurring (cur.lineStart, cur.line) = .ok none :=
            if_neg (mt (sound.pending tried).mp id.not_occurs_nil)
          exact (findSomeM?_cons_of_none passed []).symm
  | cons c t ih =>
      have step : ∀ cur : Cursor, cur.Sound id (c :: t) →
          (cur.tried = false → ¬id.spelling.Begins id.text (c :: t)) →
          id.search (cur.step c (here + c.utf8Size) t) (here + c.utf8Size) t =
            (cur.left here (c :: t)).findSomeM? id.tryOccurring := by
        intro cur sound elsewhere
        rw [ih (sound.step elsewhere), sound.left_step elsewhere]
      rw [search]
      dsimp only
      split
      · next met =>
          have begins := Spelling.begins_iff.mp met.2
          -- behind the occurrence the current line counts as tried
          have below := step _ (.occurred cur unbroken begins) (by rintro ⟨⟩)
          split
          · next tried =>
              rw [below]
              simp only [Cursor.left, tried, if_true]
          · next untried =>
              rw [Bool.not_eq_true] at untried
              have occurs : id.Occurs cur.line :=
                (sound.pending untried).mpr (occurs_cons.mpr (.inl begins))
              have here : cur.left here (c :: t) =
                  (cur.lineStart, cur.line) :: linesBelow here (c :: t) := by
                rw [Cursor.left, untried]
                rfl
              rw [here, List.findSomeM?_cons, tryOccurring, if_pos occurs]
              cases id.tryLine cur.lineStart cur.line with
              | error e => rfl
              | ok found =>
                  cases found with
                  | none => exact below
                  | some d => rfl
      · next passed =>
          apply step cur sound
          intro untried begins
          apply passed
          refine ⟨?_, Spelling.begins_iff.mpr begins⟩
          by_contra inside
          rw [(sound.inside inside).1] at untried
          cases untried

/-- The search is to try, line by line, those on which the name occurs. -/
theorem find_eq_findSomeM? (unbroken : '\n' ∉ id.text) (t : Text) :
    id.find t = (lineStarts t).findSomeM? id.tryOccurring :=
  search_eq unbroken (.start id t)

theorem declarationBelow?_eq_findSome? (id : Identifier) (here : Nat) (t : Text) :
    id.declarationBelow? here t =
      (linesBelow here t).findSome? fun (start, line) => id.declarationOnLine? start line := by
  induction t generalizing here with
  | nil => rfl
  | cons c t ih =>
      rw [declarationBelow?, linesBelow]
      split
      · rw [ih, List.findSome?_cons]
        dsimp only
        cases id.declarationOnLine? (here + 1) t <;> rfl
      · exact ih (here + c.utf8Size)

theorem declarationByLines?_eq_findSome? (id : Identifier) (t : Text) :
    id.declarationByLines? t =
      (lineStarts t).findSome? fun (start, line) => id.declarationOnLine? start line := by
  rw [declarationByLines?, declarationBelow?_eq_findSome?, lineStarts, List.findSome?_cons]
  dsimp only
  cases id.declarationOnLine? 0 t <;> rfl

theorem declarationOnLine?_of_not_occurs (missing : ¬id.Occurs t) :
    id.declarationOnLine? here t = none := by
  rw [Option.eq_none_iff_forall_ne_some]
  intro d found
  exact missing (occurs_of_declarationOnLine? found)

theorem tryOccurring_eq_ok {place : Nat × Text} {found : Option Declaration}
    (answer : id.tryOccurring place = .ok found) :
    found = id.declarationOnLine? place.1 place.2 := by
  unfold tryOccurring at answer
  split at answer
  · exact tryLine_eq_ok answer
  · next missing =>
      rw [declarationOnLine?_of_not_occurs missing]
      exact (Except.ok.inj answer).symm

/-- The search agrees with a walk along every line, whenever it answers. -/
theorem find_eq {found : Option Declaration} (unbroken : '\n' ∉ id.text)
    (answer : id.find t = .ok found) : found = id.declarationByLines? t := by
  rw [find_eq_findSomeM? unbroken] at answer
  rw [declarationByLines?_eq_findSome?]
  generalize lineStarts t = places at answer ⊢
  induction places with
  | nil => exact (Except.ok.inj answer).symm
  | cons place places ih =>
      rw [List.findSomeM?_cons] at answer
      rw [List.findSome?_cons]
      dsimp only
      cases tried : id.tryOccurring place with
      | error e =>
          rw [tried] at answer
          cases answer
      | ok here =>
          rw [tried] at answer
          rw [← tryOccurring_eq_ok tried]
          cases here with
          | none => exact ih answer
          | some d => exact (Except.ok.inj answer).symm

theorem exists_of_isOk {α : Type} {outcome : Except SearchError α} (ok : outcome.isOk = true) :
    ∃ found, outcome = .ok found := by
  cases outcome with
  | error e => cases ok
  | ok found => exact ⟨found, rfl⟩

/-- No attempt at a line on which the name occurs is aborted. -/
def Affordable (id : Identifier) (t : Text) : Prop :=
  ∀ above line, t = above ++ line → LineStart above → id.Occurs line →
    ∃ found, id.tryLine (byteSize above) line = .ok found

theorem affordable_of_unbroken (single : '\n' ∉ t) (answers : (id.tryLine 0 t).isOk = true) :
    id.Affordable t := by
  rintro above line rfl (rfl | ⟨upper, rfl⟩) _
  · exact exists_of_isOk answers
  · simp at single

/-- The search answers when no attempt is aborted. -/
theorem find_of_affordable (unbroken : '\n' ∉ id.text) (affordable : id.Affordable t) :
    id.find t = .ok (id.declarationByLines? t) := by
  have answers : ∃ found, id.find t = .ok found := by
    have each : ∀ place ∈ lineStarts t, ∃ found, id.tryOccurring place = .ok found := by
      rintro ⟨start, line⟩ member
      obtain ⟨above, cut, first, rfl⟩ := mem_lineStarts.mp member
      unfold tryOccurring
      split
      · next occurs => exact affordable above line cut first occurs
      · exact ⟨none, rfl⟩
    rw [find_eq_findSomeM? unbroken]
    generalize lineStarts t = places at each ⊢
    induction places with
    | nil => exact ⟨none, rfl⟩
    | cons place places ih =>
        obtain ⟨⟨here, tried⟩, later⟩ := List.forall_mem_cons.mp each
        rw [List.findSomeM?_cons, tried]
        cases here with
        | none => exact ih later
        | some d => exact ⟨some d, rfl⟩
  obtain ⟨found, answer⟩ := answers
  rw [answer, find_eq unbroken answer]

end AutoItNav.Identifier
