import AutoItNav.Proofs.Declaration.Search

/-!
Attempts that would keep too many branches. Each blank behind a keyword leaves a branch, so an
attempt is aborted on a line with a keyword and about as many blanks as there may be branches,
before it has returned to any of them.
-/
namespace AutoItNav

namespace Regex

open Spot

variable {s : Spelling} {next : Next} {p : Spot} {set : CharSet} {kept retries : Nat}
  {e : SearchError}

theorem choose_aborted {first : Nat → Nat → Outcome} {second : Nat → Outcome}
    (room : kept < stackLimit) (aborts : first (kept + 1) retries = .aborted e) :
    choose kept retries first second = .aborted e := by
  rw [choose, if_pos room, aborts]

theorem runLazy_aborted {barred : Option Look} {t : Text} (room : kept < stackLimit)
    (aborts : next p (kept + 1) retries = .aborted e) :
    runLazy s barred set next kept t p retries = .aborted e := by
  cases t <;> exact choose_aborted room aborts

theorem length_greedyWays (set : CharSet) (t : Text) (p : Spot) :
    (greedyWays set t p).length = (t.takeWhile set.has).length + 1 := by
  induction t generalizing p with
  | nil => rfl
  | cons c t ih =>
      rw [greedyWays, List.takeWhile_cons]
      split <;> simp [ih]

theorem runGreedy_aborted (long : stackLimit ≤ kept + (p.ahead.takeWhile set.has).length) :
    runGreedy set next p kept retries = .aborted .stackExceeded := by
  have places : (p.reach set p.ahead []).length = (p.ahead.takeWhile set.has).length + 1 := by
    rw [reach_eq, List.append_nil, length_greedyWays]
  unfold runGreedy
  dsimp only
  rw [places, if_neg (by omega)]

end Regex

namespace Declaration

open Regex Spot

variable {s : Spelling} {p : Spot} {literal gap rest : Text}

theorem read?_append (front : p.ahead = literal ++ rest) :
    p.read? s literal = some (p.past literal rest) := by
  have read : s.after? literal p.ahead = some rest :=
    Spelling.after?_eq_some_iff.mpr ⟨literal, front, s.reads_self literal⟩
  rw [read?_eq, read, Option.map_some, front, List.take_left]

theorem length_le_takeWhile_gap (rest : Text) (blank : Gap gap) :
    gap.length ≤ ((gap ++ rest).takeWhile gapSet.has).length := by
  have inside : ∀ c ∈ gap, gapSet.has c = true := by
    intro c member
    rw [has_gapSet]
    exact isGap_iff.mpr (blank c member)
  rw [List.takeWhile_append_of_pos inside, List.length_append]
  exact Nat.le_add_right ..

end Declaration

namespace Identifier

open Declaration Regex Spot

variable {id : Identifier} {here : Nat} {gap rest line : Text} {e : SearchError}

/-- Three branches are kept when a declaration is tried at the start of a line. -/
theorem tryLine_aborted (aborts : ∀ next,
    attempt id.spelling id.declarationRegex next (.start line) 3 0 = .aborted e) :
    id.tryLine here line = .error e := by
  have searched : id.regex.search id.spelling line = .error e := by
    unfold Regex.search regex
    simp only [attempt]
    rw [runLazy_aborted (e := e) (by decide)]
    have first : (Spot.start line).offset = 0 := rfl
    rw [if_pos first]
    apply choose_aborted (by decide)
    apply runLazy_aborted (by decide)
    exact aborts _
  rw [tryLine, searched]
  rfl

theorem tryLine_of_long_function (kind : id.kind = .function) (blank : Gap gap)
    (long : stackLimit ≤ gap.length + 2) :
    id.tryLine here (funcKeyword ++ gap ++ rest) = .error .stackExceeded := by
  apply tryLine_aborted
  intro next
  have read : (Spot.start (funcKeyword ++ gap ++ rest)).read? id.spelling funcKeyword =
      some ((Spot.start _).past funcKeyword (gap ++ rest)) := read?_append (List.append_assoc ..)
  rw [declarationRegex, kind]
  simp only [functionRegex, attempt, read]
  cases gap with
  | nil => exact absurd long (by decide)
  | cons c gap =>
      obtain ⟨first, blank⟩ := List.forall_mem_cons.mp blank
      have has : gapSet.has c = true := by
        rw [has_gapSet]
        exact isGap_iff.mpr first
      simp only [take?_eq, ahead_past, List.cons_append, has, if_true]
      apply runGreedy_aborted
      have many := length_le_takeWhile_gap rest blank
      rw [List.length_cons] at long
      rw [ahead_past]
      omega

theorem tryLine_of_long_variable (kind : id.kind = .variable) (blank : Gap gap)
    (long : stackLimit ≤ gap.length + 5) :
    id.tryLine here (localKeyword ++ gap ++ rest) = .error .stackExceeded := by
  apply tryLine_aborted
  intro next
  have read : (Spot.start (localKeyword ++ gap ++ rest)).read? id.spelling localKeyword =
      some ((Spot.start _).past localKeyword (gap ++ rest)) := read?_append (List.append_assoc ..)
  rw [declarationRegex, kind]
  simp only [variableRegex, scopeRegex, attempt, read]
  apply choose_aborted (by decide)
  apply choose_aborted (by decide)
  apply runGreedy_aborted
  have many := length_le_takeWhile_gap rest blank
  rw [ahead_past]
  omega

/-- An aborted attempt at the first line aborts the search, if the name is on that line. -/
theorem find_aborted (unbroken : '\n' ∉ id.text) (occurs : id.Occurs line)
    (aborts : id.tryLine 0 line = .error e) : id.find line = .error e := by
  rw [find_eq_findSomeM? unbroken, Text.lineStarts, List.findSomeM?_cons, tryOccurring,
    if_pos occurs, aborts]
  rfl

theorem ne_effortExceeded (single : '\n' ∉ line)
    (aborts : id.tryLine 0 line = .error .stackExceeded) :
    ∀ place ∈ Text.lineStarts line, id.tryLine place.1 place.2 ≠ .error .effortExceeded := by
  rw [Text.lineStarts_of_unbroken single]
  intro place member
  obtain rfl := List.mem_singleton.mp member
  rw [aborts]
  decide

end Identifier

end AutoItNav
