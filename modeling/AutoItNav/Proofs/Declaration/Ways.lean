import AutoItNav.Declaration.Engine
import Mathlib.Data.List.Basic
import Mathlib.Data.Option.Basic

/-!
What a pattern means: the ways to read it, each as the place that it leads to, in the order in which
they are tried. An attempt that is not aborted ends with the first way from which its continuation
succeeds.
-/
namespace AutoItNav.Regex

variable {s : Spelling} {α : Type} {p : Spot}

/-- Where a greedy run from `p` can end, with `t` ahead. -/
def greedyWays (set : CharSet) : (t : Text) → Spot → List Spot
  | [], p => [p]
  | c :: t, p => (if set.has c then greedyWays set t p.next else []) ++ [p]

/-- Where a lazy run from `p` can end, with `t` ahead. -/
def lazyWays (s : Spelling) (barred : Option Look) (set : CharSet) : (t : Text) → Spot → List Spot
  | [], p => [p]
  | c :: t, p =>
    p :: if barred.any (·.holds s (c :: t)) || !set.has c then []
      else lazyWays s barred set t p.next

def ways (s : Spelling) : Regex → Spot → List Spot
  | .empty, p => [p]
  | .textStart, p => if p.offset = 0 then [p] else []
  | .wordEdge, p => if p.atWordEdge then [p] else []
  | .literal t, p => (p.read? s t).toList
  | .star set, p => greedyWays set p.ahead p
  | .plus set, p => (p.take? set).toList.flatMap fun q => greedyWays set q.ahead q
  | .lazyStar barred set, p => lazyWays s barred set p.ahead p
  | .optional r, p => ways s r p ++ [p]
  | .group r, p => ways s r p
  | .capture id r, p => (ways s r p).map fun q => q.capture id p.offset
  | .seq first second, p => (ways s first p).flatMap (ways s second)
  | .either first second, p => ways s first p ++ ways s second p
  | .notAhead look, p => if look.holds s p.ahead then [] else [p]

/-- What the first way leads to that `answer` has something for. -/
def first? (s : Spelling) (r : Regex) (answer : Spot → Option α) (p : Spot) : Option α :=
  (ways s r p).findSome? answer

section Equations

variable {answer : Spot → Option α}

theorem findSome?_cons_or {β : Type} {a : β} {f : β → Option α} (l : List β) :
    (a :: l).findSome? f = (f a).or (l.findSome? f) := by
  rw [List.findSome?_cons]
  cases f a <;> rfl

theorem findSome?_toList (o : Option Spot) : o.toList.findSome? answer = o.bind answer := by
  cases o with
  | none => rfl
  | some q => simp

theorem findSome?_flatMap (l : List Spot) (f : Spot → List Spot) :
    (l.flatMap f).findSome? answer = l.findSome? fun q => (f q).findSome? answer := by
  induction l with
  | nil => rfl
  | cons q l ih => rw [List.flatMap_cons, List.findSome?_append, ih, findSome?_cons_or]

theorem first?_empty : first? s .empty answer p = answer p := by
  simp [first?, ways]

theorem first?_textStart :
    first? s .textStart answer p = if p.offset = 0 then answer p else none := by
  unfold first? ways
  split <;> simp

theorem first?_wordEdge :
    first? s .wordEdge answer p = if p.atWordEdge then answer p else none := by
  unfold first? ways
  split <;> simp

theorem first?_literal (t : Text) :
    first? s (.literal t) answer p = (p.read? s t).bind answer :=
  findSome?_toList _

theorem first?_star (set : CharSet) :
    first? s (.star set) answer p = (greedyWays set p.ahead p).findSome? answer := rfl

theorem first?_plus (set : CharSet) :
    first? s (.plus set) answer p = (p.take? set).bind (first? s (.star set) answer) := by
  rw [first?, ways, findSome?_flatMap, findSome?_toList]
  rfl

theorem first?_optional (r : Regex) :
    first? s (.optional r) answer p = (first? s r answer p).or (answer p) := by
  rw [first?, ways, List.findSome?_append]
  simp [first?]

theorem first?_group (r : Regex) : first? s (.group r) answer p = first? s r answer p := rfl

theorem first?_capture (id : GroupName) (r : Regex) : first? s (.capture id r) answer p =
    first? s r (fun q => answer (q.capture id p.offset)) p :=
  List.findSome?_map

theorem first?_seq (first second : Regex) : first? s (.seq first second) answer p =
    first? s first (first? s second answer) p :=
  findSome?_flatMap _ _

theorem first?_either (first second : Regex) : first? s (.either first second) answer p =
    (first? s first answer p).or (first? s second answer p) :=
  List.findSome?_append

theorem first?_notAhead (look : Look) : first? s (.notAhead look) answer p =
    if look.holds s p.ahead then none else answer p := by
  unfold first? ways
  split <;> simp

theorem first?_map (f : Spot → α) (r : Regex) :
    first? s r (fun q => some (f q)) p = (first? s r some p).map f := by
  unfold first?
  cases ways s r p <;> rfl

end Equations

/-- An outcome tells the answer, unless the attempt is aborted. -/
def Outcome.Tells : Outcome → Option Spot → Prop
  | .found p, answer => answer = some p
  | .failed _, answer => answer = none
  | .aborted _, _ => True

/-- Wherever and however an attempt goes on, it comes to the answer. -/
def Agrees (next : Next) (answer : Spot → Option Spot) : Prop :=
  ∀ p kept retries, (next p kept retries).Tells (answer p)

variable {kept retries : Nat} {a b : Option Spot} {next : Next} {answer : Spot → Option Spot}

namespace Outcome.Tells

theorem retry {branch : Nat → Outcome} (told : ∀ retries, (branch retries).Tells a) :
    (Regex.retry retries branch).Tells a := by
  unfold Regex.retry
  split
  · exact told _
  · trivial

theorem choose {first : Nat → Nat → Outcome} {second : Nat → Outcome}
    (told : ∀ kept retries, (first kept retries).Tells a)
    (otherwise : ∀ retries, (second retries).Tells b) :
    (Regex.choose kept retries first second).Tells (a.or b) := by
  unfold Regex.choose
  split
  · have here := told (kept + 1) retries
    generalize first (kept + 1) retries = outcome at here
    cases outcome with
    | found q =>
        rw [here]
        exact rfl
    | failed retries =>
        rw [here]
        exact .retry otherwise
    | aborted e => trivial
  · trivial

theorem pass {look : Look} {t : Text} {next : Nat → Outcome}
    (told : ∀ retries, (next retries).Tells a) :
    (Regex.pass s look t kept retries next).Tells (if look.holds s t then none else a) := by
  unfold Regex.pass
  split
  · split
    · exact rfl
    · exact .retry told
  · trivial

theorem backOff (agrees : Agrees next answer) (places : List Spot) :
    (Regex.backOff next places kept retries).Tells (places.findSome? answer) := by
  induction places generalizing kept retries with
  | nil => exact rfl
  | cons p nearer ih =>
      rw [Regex.backOff, findSome?_cons_or]
      apply retry
      intro retries
      have here := agrees p (kept - 1) retries
      generalize next p (kept - 1) retries = outcome at here
      cases outcome with
      | found q =>
          rw [here]
          exact rfl
      | failed retries =>
          rw [here]
          exact ih
      | aborted e => trivial

end Outcome.Tells

theorem reach_eq (set : CharSet) (t : Text) (p : Spot) (nearer : List Spot) :
    p.reach set t nearer = greedyWays set t p ++ nearer := by
  induction t generalizing p nearer with
  | nil => rfl
  | cons c t ih =>
      rw [Spot.reach, greedyWays]
      split
      · rw [ih]
        simp
      · rfl

theorem Agrees.runGreedy (agrees : Agrees next answer) (set : CharSet) :
    Agrees (Regex.runGreedy set next) (first? s (.star set) answer) := by
  intro p kept retries
  rw [Regex.runGreedy, reach_eq, List.append_nil]
  split
  · exact .backOff agrees _
  · trivial

theorem Agrees.runLazy (agrees : Agrees next answer) (barred : Option Look) (set : CharSet)
    (t : Text) : (Regex.runLazy s barred set next kept t p retries).Tells
      ((lazyWays s barred set t p).findSome? answer) := by
  induction t generalizing p retries with
  | nil =>
      rw [Regex.runLazy, lazyWays, findSome?_cons_or]
      apply Outcome.Tells.choose (agrees p)
      intro retries
      cases barred with
      | none => exact rfl
      | some look =>
          have stop : (Regex.pass s look [] kept retries .failed).Tells
              (if look.holds s [] then none else none) := .pass fun _ => rfl
          rwa [ite_self] at stop
  | cons c t ih =>
      rw [Regex.runLazy, lazyWays, findSome?_cons_or]
      apply Outcome.Tells.choose (agrees p)
      intro retries
      -- another character is taken when the set has it
      have onward : ∀ retries, (if set.has c then Regex.runLazy s barred set next kept t p.next retries
          else Outcome.failed retries).Tells
            (if set.has c then (lazyWays s barred set t p.next).findSome? answer else none) := by
        intro retries
        split
        · exact ih
        · exact rfl
      have taken : (if barred.any (·.holds s (c :: t)) || !set.has c then []
          else lazyWays s barred set t p.next).findSome? answer =
          if barred.any (·.holds s (c :: t)) then none
          else if set.has c then (lazyWays s barred set t p.next).findSome? answer else none := by
        cases barred.any (·.holds s (c :: t)) <;> cases set.has c <;> rfl
      rw [taken]
      cases barred with
      | none => exact onward retries
      | some look => exact Outcome.Tells.pass onward

/-- Matching a pattern and going on agrees with trying the ways to read it one after another. -/
theorem Agrees.attempt (agrees : Agrees next answer) (s : Spelling) (r : Regex) :
    Agrees (Regex.attempt s r next) (first? s r answer) := by
  induction r generalizing next answer with
  | empty =>
      intro p kept retries
      rw [first?_empty]
      exact agrees p kept retries
  | textStart =>
      intro p kept retries
      rw [first?_textStart, Regex.attempt]
      dsimp only
      split
      · exact agrees p kept retries
      · exact rfl
  | wordEdge =>
      intro p kept retries
      rw [first?_wordEdge, Regex.attempt]
      dsimp only
      split
      · exact agrees p kept retries
      · exact rfl
  | literal t =>
      intro p kept retries
      rw [first?_literal, Regex.attempt]
      dsimp only
      cases p.read? s t with
      | none => exact rfl
      | some q => exact agrees q kept retries
  | star set => exact agrees.runGreedy set
  | plus set =>
      intro p kept retries
      rw [first?_plus, Regex.attempt]
      dsimp only
      cases p.take? set with
      | none => exact rfl
      | some q => exact agrees.runGreedy set q kept retries
  | lazyStar barred set =>
      intro p kept retries
      exact agrees.runLazy barred set p.ahead
  | optional r ih =>
      intro p kept retries
      rw [first?_optional, Regex.attempt]
      exact .choose (ih agrees p) (agrees p kept)
  | group r ih => exact ih agrees
  | capture id r ih =>
      intro p kept retries
      rw [first?_capture, Regex.attempt]
      exact ih (fun q kept retries => agrees (q.capture id p.offset) kept retries) p kept retries
  | seq first second ih ih' =>
      intro p kept retries
      rw [first?_seq, Regex.attempt]
      exact ih (ih' agrees) p kept retries
  | either first second ih ih' =>
      intro p kept retries
      rw [first?_either, Regex.attempt]
      exact .choose (ih agrees p) (ih' agrees p kept)
  | notAhead look =>
      intro p kept retries
      rw [first?_notAhead, Regex.attempt]
      exact .pass (agrees p kept)

/-- A search that answers has found the first way to read the pattern from the start of the text,
when there is one. -/
theorem search_eq_ok {r : Regex} {t : Text} {first : Spot} {found : Option Spot}
    (answer : search s r t = .ok found) (matched : first? s r some (.start t) = some first) :
    found = some first := by
  have finished : Agrees (fun p _ _ => .found p) some := fun _ _ _ => rfl
  have told := finished.attempt s (.seq (.lazyStar none .any) r) (.start t) 0 0
  have start : first? s (.seq (.lazyStar none .any) r) some (.start t) = some first := by
    rw [first?_seq, first?, ways]
    cases (Spot.start t).ahead <;> rw [lazyWays, findSome?_cons_or, matched] <;> rfl
  rw [start] at told
  unfold search at answer
  split at answer
  · next outcome =>
      rw [outcome] at told
      rw [← Except.ok.inj answer]
      exact told.symm
  · next outcome =>
      rw [outcome] at told
      cases told
  · cases answer

end AutoItNav.Regex
