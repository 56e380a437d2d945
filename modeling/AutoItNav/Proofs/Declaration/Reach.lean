import AutoItNav.Proofs.Declaration.Ways
import AutoItNav.Proofs.Text.Reading

/-!
Where the ways to read a pattern lead. A run has one way to go on when the next construct cannot
begin with one of its characters, and constructs that read no line break lead to places on the line.
-/
namespace AutoItNav

namespace Spot

variable {s : Spelling} {p q : Spot} {u v t rest : Text} {c : Char} {set : CharSet}

/-- The place behind `u`, with `rest` ahead. -/
def past (p : Spot) (u rest : Text) : Spot :=
  ⟨u.getLast?.or p.last, p.offset + Text.byteSize u, rest, p.captured⟩

@[simp] theorem ahead_past : (p.past u rest).ahead = rest := rfl

@[simp] theorem offset_past : (p.past u rest).offset = p.offset + Text.byteSize u := rfl

@[simp] theorem ahead_capture {id : GroupName} {start : Nat} :
    (p.capture id start).ahead = p.ahead := rfl

@[simp] theorem offset_capture {id : GroupName} {start : Nat} :
    (p.capture id start).offset = p.offset := rfl

@[simp] theorem captured?_past {id : GroupName} : (p.past u rest).captured? id = p.captured? id := rfl

@[simp] theorem captured?_capture {id : GroupName} {start : Nat} :
    (p.capture id start).captured? id = some ⟨id, start, p.offset⟩ := by
  simp [captured?, capture]

theorem captured?_capture_of_ne {id other : GroupName} {start : Nat} (distinct : id ≠ other) :
    (p.capture id start).captured? other = p.captured? other := by
  simp [captured?, capture, distinct]

theorem past_nil (front : p.ahead = t) : p.past [] t = p := by
  subst front
  rfl

theorem past_past (p : Spot) (u v t rest : Text) :
    (p.past u t).past v rest = p.past (u ++ v) rest := by
  simp [past, List.getLast?_append, Option.or_assoc, Nat.add_assoc]

theorem next_eq (front : p.ahead = c :: t) : p.next = p.past [c] t := by
  simp [next, front, past]

theorem read?_eq (s : Spelling) (literal : Text) (p : Spot) : p.read? s literal =
    (s.after? literal p.ahead).map fun rest => p.past (p.ahead.take literal.length) rest := by
  induction literal generalizing p with
  | nil => rfl
  | cons a literal ih =>
      rw [read?]
      cases front : p.ahead with
      | nil => rfl
      | cons c t =>
          dsimp only
          rw [Spelling.after?]
          split
          · rw [ih, next_eq front]
            simp only [past_past]
            rfl
          · rfl

theorem take?_eq (set : CharSet) (p : Spot) : p.take? set =
    match p.ahead with
    | [] => none
    | c :: t => if set.has c then some (p.past [c] t) else none := by
  rw [take?]
  cases front : p.ahead with
  | nil => rfl
  | cons c t =>
      dsimp only
      rw [next_eq front]

/-- Further along on the same line. -/
def Along (p q : Spot) : Prop :=
  ∃ line, p.ahead = line ++ q.ahead ∧ '\n' ∉ line ∧ q = p.past line q.ahead

theorem Along.refl (p : Spot) : p.Along p := ⟨[], rfl, by simp, rfl⟩

theorem Along.trans {r : Spot} (first : p.Along q) (second : q.Along r) : p.Along r := by
  obtain ⟨line, cut, unbroken, same⟩ := first
  obtain ⟨more, cut', unbroken', same'⟩ := second
  refine ⟨line ++ more, by rw [cut, cut', List.append_assoc],
    List.not_mem_append unbroken unbroken', ?_⟩
  calc
    r = q.past more r.ahead := same'
    _ = (p.past line q.ahead).past more r.ahead := by rw [← same]
    _ = p.past (line ++ more) r.ahead := past_past ..

theorem along_next (front : p.ahead = c :: t) (other : c ≠ '\n') : p.Along p.next := by
  rw [next_eq front]
  exact ⟨[c], front, by simpa using other.symm, rfl⟩

end Spot

namespace Regex

open Spot

variable {s : Spelling} {α : Type} {answer : Spot → Option α} {p : Spot} {set : CharSet}

/-- No way goes on in front of a character of the set. -/
def Tight (set : CharSet) (answer : Spot → Option α) : Prop :=
  ∀ p c t, p.ahead = c :: t → set.has c = true → answer p = none

theorem Tight.findSome?_greedyWays (tight : Tight set answer) {t : Text} (front : p.ahead = t) :
    (greedyWays set t p).findSome? answer =
      answer (p.past (t.takeWhile set.has) (t.dropWhile set.has)) := by
  induction t generalizing p with
  | nil =>
      rw [greedyWays, findSome?_cons_or, List.findSome?_nil, Option.or_none, List.takeWhile_nil,
        List.dropWhile_nil, past_nil front]
  | cons c t ih =>
      rw [greedyWays, List.takeWhile_cons, List.dropWhile_cons]
      by_cases inside : set.has c = true
      · have first : answer p = none := tight p c t front inside
        rw [if_pos inside, if_pos inside, if_pos inside, List.findSome?_append,
          next_eq front, ih rfl, past_past, findSome?_cons_or, first]
        simp
      · rw [if_neg inside, if_neg inside, if_neg inside, past_nil front]
        simp

/-- Behind a run that is not followed by one of its characters there is one place only. -/
theorem Tight.first?_star (tight : Tight set answer) : first? s (.star set) answer p =
    answer (p.past (p.ahead.takeWhile set.has) (p.ahead.dropWhile set.has)) :=
  tight.findSome?_greedyWays rfl

theorem Tight.first?_plus (tight : Tight set answer) : first? s (.plus set) answer p =
    if (p.ahead.takeWhile set.has).isEmpty then none
    else answer (p.past (p.ahead.takeWhile set.has) (p.ahead.dropWhile set.has)) := by
  rw [Regex.first?_plus, take?_eq]
  cases front : p.ahead with
  | nil => rfl
  | cons c t =>
      rw [List.takeWhile_cons, List.dropWhile_cons]
      by_cases inside : set.has c = true
      · rw [if_pos inside, if_pos inside]
        simp only [inside, if_true, Option.bind_some, tight.first?_star, past_past]
        rfl
      · simp [inside]

/-- A literal is read only where its first character stands. -/
theorem tight_literal {literal : Text} (inhabited : literal ≠ [])
    (apart : ∀ c, set.has c = true → ∀ a, literal.head? = some a → s.same a c = false) :
    Tight set (first? s (.literal literal) answer) := by
  intro p c t front inside
  rw [first?_literal]
  cases literal with
  | nil => exact absurd rfl inhabited
  | cons a literal => simp [read?, front, apart c inside a rfl]

theorem Tight.captured (tight : Tight set answer) (id : GroupName) (start : Nat) :
    Tight set fun q => answer (q.capture id start) :=
  fun q c t front inside => tight (q.capture id start) c t front inside

/-- Reading the pattern never leaves the line. -/
def Stays (s : Spelling) (r : Regex) : Prop := ∀ p, ∀ q ∈ ways s r p, p.Along q

theorem stays_literal {literal : Text} (unbroken : '\n' ∉ literal) : Stays s (.literal literal) := by
  intro p q member
  rw [ways, read?_eq, Option.mem_toList, Option.map_eq_some_iff] at member
  obtain ⟨rest, found, rfl⟩ := member
  obtain ⟨spelled, cut, reads⟩ := Spelling.after?_eq_some_iff.mp found
  have taken : p.ahead.take literal.length = spelled := by
    rw [cut, ← reads.length_eq, List.take_left]
  rw [taken]
  exact ⟨spelled, cut, reads.unbroken unbroken, rfl⟩

theorem along_greedyWays (inline : set.has '\n' = false) {t : Text} {q : Spot}
    (front : p.ahead = t) (member : q ∈ greedyWays set t p) : p.Along q := by
  induction t generalizing p with
  | nil =>
      obtain rfl := List.mem_singleton.mp member
      exact .refl _
  | cons c t ih =>
      rw [greedyWays, List.mem_append, List.mem_singleton] at member
      rcases member with further | rfl
      · by_cases inside : set.has c = true
        · rw [if_pos inside] at further
          have other : c ≠ '\n' := by
            rintro rfl
            cases inline.symm.trans inside
          exact (along_next front other).trans (ih (by rw [next_eq front]; rfl) further)
        · rw [if_neg inside] at further
          cases further
      · exact .refl _

theorem stays_star (inline : set.has '\n' = false) : Stays s (.star set) :=
  fun _ _ => along_greedyWays inline rfl

theorem stays_plus (inline : set.has '\n' = false) : Stays s (.plus set) := by
  intro p q member
  obtain ⟨r, first, member⟩ := List.mem_flatMap.mp member
  rw [Option.mem_toList, take?_eq] at first
  split at first
  · cases first
  · next c t front =>
      split at first
      · next inside =>
          obtain rfl := Option.some.inj first
          have other : c ≠ '\n' := by
            rintro rfl
            cases inline.symm.trans inside
          rw [← next_eq front] at member
          exact (along_next front other).trans (along_greedyWays inline rfl member)
      · cases first

theorem Stays.optional {r : Regex} (stays : Stays s r) : Stays s (.optional r) := by
  intro p q member
  rcases List.mem_append.mp member with taken | left
  · exact stays p q taken
  · obtain rfl := List.mem_singleton.mp left
    exact .refl _

theorem Stays.seq {first second : Regex} (stays : Stays s first) (stays' : Stays s second) :
    Stays s (.seq first second) := by
  intro p q member
  obtain ⟨r, between, member⟩ := List.mem_flatMap.mp member
  exact (stays p r between).trans (stays' r q member)

theorem mem_ways_seq {first second : Regex} {q r : Spot} (between : q ∈ ways s first p)
    (member : r ∈ ways s second q) : r ∈ ways s (.seq first second) p :=
  List.mem_flatMap.mpr ⟨q, between, member⟩

theorem mem_ways_optional (r : Regex) (p : Spot) : p ∈ ways s (.optional r) p :=
  List.mem_append_right _ (List.mem_singleton.mpr rfl)

theorem mem_ways_star {run rest : Text} (front : p.ahead = run ++ rest)
    (inside : ∀ c ∈ run, set.has c = true) : p.past run rest ∈ ways s (.star set) p := by
  have reached : ∀ t, p.ahead = t → t = run ++ rest → p.past run rest ∈ greedyWays set t p := by
    clear front
    induction run generalizing p with
    | nil =>
        rintro t front rfl
        rw [past_nil front]
        cases t with
        | nil => exact List.mem_singleton.mpr rfl
        | cons c t => exact List.mem_append_right _ (List.mem_singleton.mpr rfl)
    | cons c run ih =>
        rintro t front rfl
        obtain ⟨first, later⟩ := List.forall_mem_cons.mp inside
        have member := ih later (p := p.next) _ (by rw [next_eq front]; rfl) rfl
        rw [next_eq front, past_past] at member
        rw [List.cons_append, greedyWays, if_pos first, next_eq front]
        exact List.mem_append_left _ member
  exact reached _ rfl front

/-- When all ways that go on lead to the same, only whether there is one matters. -/
theorem first?_eq_ite {r : Regex} {goes : Spot → Prop} [DecidablePred goes] {value : α}
    (uniform : ∀ q ∈ ways s r p, answer q = if goes q then some value else none) :
    first? s r answer p = if ∃ q ∈ ways s r p, goes q then some value else none := by
  unfold first?
  generalize ways s r p = places at uniform
  induction places with
  | nil => simp
  | cons q l ih =>
      obtain ⟨here, later⟩ := List.forall_mem_cons.mp uniform
      rw [findSome?_cons_or, here, ih later]
      by_cases goes q <;> simp [*]

end Regex

end AutoItNav
