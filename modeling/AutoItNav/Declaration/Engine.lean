import AutoItNav.Declaration.Regex

/-!
The matcher. It takes the first branch of every choice and keeps the others on a stack; when a
branch fails it goes back to the one kept last. Both the height of the stack and the number of
returns in one attempt are bounded, and an attempt that would exceed either bound is aborted.
Look-aheads are decided as a whole and keep nothing but the branch behind them.
-/
namespace AutoItNav

inductive SearchError where
  | effortExceeded
  | stackExceeded
deriving DecidableEq, Repr

def SearchError.message : SearchError → String
  | .effortExceeded =>
    "declaration search aborted: Error executing regex: Max limit for backtracking count exceeded"
  | .stackExceeded =>
    "declaration search aborted: Error executing regex: Max stack size exceeded for backtracking"

/-- A captured group: from where to where it goes, in bytes. -/
structure Captured where
  group : GroupName
  start : Nat
  stop : Nat
deriving DecidableEq, Repr

def Captured.size (c : Captured) : Nat := c.stop - c.start

/-- A place in the text that is matched: the character read last, the bytes read, the text ahead,
and the groups captured on the way, the latest first. -/
structure Spot where
  last : Option Char
  offset : Nat
  ahead : Text
  captured : List Captured
deriving DecidableEq, Repr

namespace Spot

def start (t : Text) : Spot := ⟨none, 0, t, []⟩

/-- Behind the next character. -/
def next (p : Spot) : Spot :=
  match p.ahead with
  | [] => p
  | c :: t => { p with last := some c, offset := p.offset + c.utf8Size, ahead := t }

/-- Behind a literal, if the text ahead begins with it. -/
def read? (s : Spelling) : (literal : Text) → Spot → Option Spot
  | [], p => some p
  | a :: literal, p =>
    match p.ahead with
    | [] => none
    | c :: _ => if s.same a c then read? s literal p.next else none

def take? (set : CharSet) (p : Spot) : Option Spot :=
  match p.ahead with
  | [] => none
  | c :: _ => if set.has c then some p.next else none

def atWordEdge (p : Spot) : Bool := p.last.any isBoundaryWord != p.ahead.head?.any isBoundaryWord

def capture (p : Spot) (group : GroupName) (start : Nat) : Spot :=
  { p with captured := ⟨group, start, p.offset⟩ :: p.captured }

def captured? (p : Spot) (group : GroupName) : Option Captured :=
  p.captured.find? (·.group = group)

/-- Every place that a run of characters in `set` can end at, the furthest first; `t` is the text
ahead of `p`. -/
def reach (set : CharSet) : (t : Text) → (p : Spot) → (nearer : List Spot) → List Spot
  | [], p, nearer => p :: nearer
  | c :: t, p, nearer => if set.has c then reach set t p.next (p :: nearer) else p :: nearer

end Spot

namespace Regex

/-- Returns to kept branches in one attempt. -/
def effortLimit : Nat := 1000000

/-- Branches kept at a time. -/
def stackLimit : Nat := 1000000

inductive Outcome where
  | found (p : Spot)
  | failed (retries : Nat)
  | aborted (e : SearchError)
deriving DecidableEq, Repr

/-- How an attempt goes on at a place, with so many branches kept and after so many returns. -/
abbrev Next := Spot → (kept retries : Nat) → Outcome

@[inline] def retry (retries : Nat) (branch : Nat → Outcome) : Outcome :=
  if retries < effortLimit then branch (retries + 1) else .aborted .effortExceeded

/-- Tries `first` with `second` kept. -/
@[inline] def choose (kept retries : Nat) (first : Nat → Nat → Outcome) (second : Nat → Outcome) :
    Outcome :=
  if kept < stackLimit then
    match first (kept + 1) retries with
    | .failed retries => retry retries second
    | outcome => outcome
  else .aborted .stackExceeded

/-- Goes on unless the look-ahead finds something. If it does, the branch kept behind it is dropped;
if not, the attempt returns to that branch. -/
@[inline] def pass (s : Spelling) (look : Look) (t : Text) (kept retries : Nat)
    (next : Nat → Outcome) : Outcome :=
  if kept < stackLimit then
    if look.holds s t then .failed retries else retry retries next
  else .aborted .stackExceeded

/-- Goes on from one place after another, all of them kept on top of the stack. -/
def backOff (next : Next) : List Spot → (kept retries : Nat) → Outcome
  | [], _, retries => .failed retries
  | p :: nearer, kept, retries =>
    retry retries fun retries =>
      match next p (kept - 1) retries with
      | .failed retries => backOff next nearer (kept - 1) retries
      | outcome => outcome

/-- A greedy run, which keeps every place that it can end at. -/
def runGreedy (set : CharSet) (next : Next) : Next := fun p kept retries =>
  let places := p.reach set p.ahead []
  let kept := kept + places.length
  if kept ≤ stackLimit then backOff next places kept retries else .aborted .stackExceeded

/-- A lazy run from `p`, with `t` ahead. At each place another character is taken only when going on
from there fails. -/
def runLazy (s : Spelling) (barred : Option Look) (set : CharSet) (next : Next) (kept : Nat) :
    (t : Text) → Spot → (retries : Nat) → Outcome
  | [], p, retries =>
    choose kept retries (next p) fun retries =>
      match barred with
      | none => .failed retries
      | some look => pass s look [] kept retries .failed
  | c :: t, p, retries =>
    choose kept retries (next p) fun retries =>
      match barred with
      | none =>
        if set.has c then runLazy s barred set next kept t p.next retries else .failed retries
      | some look =>
        pass s look (c :: t) kept retries fun retries =>
          if set.has c then runLazy s barred set next kept t p.next retries else .failed retries

def attempt (s : Spelling) : Regex → Next → Next
  | .empty, next => next
  | .textStart, next => fun p kept retries =>
    if p.offset = 0 then next p kept retries else .failed retries
  | .wordEdge, next => fun p kept retries =>
    if p.atWordEdge then next p kept retries else .failed retries
  | .literal t, next => fun p kept retries =>
    match p.read? s t with
    | some p => next p kept retries
    | none => .failed retries
  | .star set, next => runGreedy set next
  | .plus set, next => fun p kept retries =>
    match p.take? set with
    | some p => runGreedy set next p kept retries
    | none => .failed retries
  | .lazyStar barred set, next => fun p kept retries =>
    runLazy s barred set next kept p.ahead p retries
  | .optional r, next => fun p kept retries =>
    choose kept retries (attempt s r next p) (next p kept)
  | .group r, next => attempt s r next
  | .capture id r, next => fun p => attempt s r (fun q => next (q.capture id p.offset)) p
  | .seq first second, next => attempt s first (attempt s second next)
  | .either first second, next => fun p kept retries =>
    choose kept retries (attempt s first next p) (attempt s second next p kept)
  | .notAhead look, next => fun p kept retries =>
    pass s look p.ahead kept retries (next p kept)

/-- Searches `t` for the pattern, from its start on. -/
def search (s : Spelling) (r : Regex) (t : Text) : Except SearchError (Option Spot) :=
  match attempt s (.seq (.lazyStar none .any) r) (fun p _ _ => .found p) (.start t) 0 0 with
  | .found p => .ok (some p)
  | .failed _ => .ok none
  | .aborted e => .error e

end Regex

end AutoItNav
