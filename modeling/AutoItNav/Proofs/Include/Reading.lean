import AutoItNav.Proofs.Include.Marker
import AutoItNav.Proofs.Text.Rows

/-!
On which line a directive stands. The directives of a text are read off its lines one by one, and a
line means the same with or without blanks in front of it and carriage returns behind it.
-/
namespace AutoItNav

open Text

namespace Include

variable {t line trail : Text} {ls : List Text} {number : UInt32} {d : Include} {n : Nat}

theorem parseLine?_trimStart (line : Text) (number : UInt32) :
    parseLine? (trimStart line) number = parseLine? line number := by
  rw [parseLine?, parseLine?, trimStart_trimStart]

theorem closing?_ne_return {opening close : Char} {kind : IncludeKind}
    (closes : closing? opening = some (close, kind)) : close ≠ '\r' := by
  unfold closing? at closes
  split at closes
  all_goals cases closes
  all_goals decide

/-- What stands behind a target changes neither the target nor whether it is closed, unless the
delimiter is in it. -/
theorem inside_append {close : Char} (other : close ∉ trail) (rest : Text) :
    ((rest ++ trail).takeWhile (· ≠ close)).length = (rest ++ trail).length ∧
        (rest.takeWhile (· ≠ close)).length = rest.length ∨
      (rest ++ trail).takeWhile (· ≠ close) = rest.takeWhile (· ≠ close) ∧
        (rest.takeWhile (· ≠ close)).length ≠ (rest ++ trail).length ∧
        (rest.takeWhile (· ≠ close)).length ≠ rest.length := by
  have all : trail.takeWhile (· ≠ close) = trail := by
    rw [List.takeWhile_eq_self_iff]
    intro c member
    exact decide_eq_true (ne_of_mem_of_not_mem member other)
  have short := (rest.takeWhile_sublist (· ≠ close)).length_le
  rw [List.takeWhile_append, all, List.length_append]
  by_cases unclosed : (rest.takeWhile (· ≠ close)).length = rest.length
  · left
    rw [if_pos unclosed, List.length_append]
    exact ⟨rfl, unclosed⟩
  · right
    rw [if_neg unclosed]
    exact ⟨rfl, by omega, unclosed⟩

/-- Carriage returns at the end of a line are no part of a directive. -/
theorem parseLine?_append (returns : ∀ c ∈ trail, c = '\r') (line : Text) (number : UInt32) :
    parseLine? (line ++ trail) number = parseLine? line number := by
  have blank := isBlank_of_returns returns
  rw [parseLine?, parseLine?, trimStart_append blank]
  split
  · next empty => rw [empty]
  · rw [beginsAscii_append (by decide) returns]
    dsimp only
    split
    · rfl
    · next begins =>
        rw [Bool.not_eq_true, Bool.not_eq_false'] at begins
        rw [List.drop_append_of_le_length (length_le_of_beginsAscii begins), trimStart_append blank]
        cases found : trimStart ((trimStart line).drop keyword.length) with
        | nil => rfl
        | cons opening rest =>
            rw [if_neg (List.cons_ne_nil opening rest), List.cons_append]
            dsimp only
            cases closes : closing? opening with
            | none => rfl
            | some pair =>
                obtain ⟨close, kind⟩ := pair
                have other : close ∉ trail := by
                  intro member
                  exact closing?_ne_return closes (returns close member)
                simp only [Option.bind_eq_bind, Option.bind_some]
                rcases inside_append other rest with ⟨open', unclosed⟩ | ⟨same, closed, closed'⟩
                · rw [decide_eq_true open', decide_eq_true unclosed]
                  rfl
                · rw [same, decide_eq_false closed, decide_eq_false closed']

theorem line_of_parseLine? (parsed : parseLine? line number = some d) : d.line = number := by
  unfold parseLine? at parsed
  dsimp only at parsed
  split at parsed
  · cases parsed
  · split at parsed
    · cases parsed
    · obtain ⟨⟨close, kind⟩, _, parsed⟩ := Option.bind_eq_some_iff.mp parsed
      dsimp only at parsed
      split at parsed
      · cases parsed
      · cases parsed
        rfl

/-- How many blocks are open behind a line with `depth` open in front of it. -/
def depthBehind (depth : Nat) (line : Text) : Nat :=
  if Opens line then depth + 1 else if Closes line then depth - 1 else depth

/-- How many blocks are open in front of line `n`. -/
def depthAt (ls : List Text) (n : Nat) : Nat := (ls.take n).foldl depthBehind 0

/-- The directive on a line with `depth` blocks open in front of it. -/
def directiveAt? (depth : Nat) (number : UInt32) (line : Text) : Option Include :=
  if depth = 0 ∧ ¬Opens line ∧ ¬Closes line then parseLine? line number else none

theorem readLine_eq (r : Reading) (line : Text) :
    readLine r line = ⟨r.number + 1, depthBehind r.depth line,
      (directiveAt? r.depth r.number line).toList ++ r.found⟩ := by
  unfold readLine depthBehind directiveAt?
  simp only [isMarker_start_iff, isMarker_end_iff, parseLine?_trimStart]
  by_cases opens : Opens line
  · simp [opens]
  · by_cases closes : Closes line
    · simp [opens, closes]
    · by_cases outside : r.depth = 0
      · cases parseLine? line r.number <;> simp [opens, closes, outside]
      · simp [opens, closes, outside, Nat.pos_of_ne_zero outside]

/-- A directive that is read on a line is the one that the line holds. -/
theorem parseLine?_of_directiveAt? {depth : Nat} (found : directiveAt? depth number line = some d) :
    parseLine? line number = some d := by
  unfold directiveAt? at found
  split at found
  · exact found
  · cases found

theorem depthAt_succ (listed : ls[n]? = some line) :
    depthAt ls (n + 1) = depthBehind (depthAt ls n) line := by
  rw [depthAt, depthAt, List.take_add_one, listed, List.foldl_append]
  rfl

/-- What has been read in front of line `n`. -/
theorem foldl_readLine_take (within : n ≤ ls.length) :
    (ls.take n).foldl readLine ⟨0, 0, []⟩ =
      ⟨n.toUInt32, depthAt ls n, ((List.range n).filterMap fun i =>
        ls[i]?.bind (directiveAt? (depthAt ls i) i.toUInt32)).reverse⟩ := by
  induction n with
  | zero => rfl
  | succ n ih =>
      have listed : ls[n]? = some ls[n] := List.getElem?_eq_getElem within
      rw [List.take_add_one, listed, List.foldl_append, ih (by omega), depthAt_succ listed,
        List.range_succ, List.filterMap_append, List.reverse_append]
      have number : n.toUInt32 + 1 = (n + 1).toUInt32 := (UInt32.ofNat_add n 1).symm
      have here : ([n].filterMap fun i => ls[i]?.bind (directiveAt? (depthAt ls i) i.toUInt32)) =
          (directiveAt? (depthAt ls n) n.toUInt32 ls[n]).toList := by
        rw [List.filterMap_cons, listed, Option.bind_some]
        cases directiveAt? (depthAt ls n) n.toUInt32 ls[n] <;> rfl
      rw [here]
      change readLine _ ls[n] = _
      rw [readLine_eq, number]
      cases directiveAt? (depthAt ls n) n.toUInt32 ls[n] <;> rfl

/-- All that is read on some lines. -/
theorem foldl_readLine (ls : List Text) :
    (ls.foldl readLine ⟨0, 0, []⟩).found.reverse = (List.range ls.length).filterMap fun i =>
      ls[i]?.bind (directiveAt? (depthAt ls i) i.toUInt32) := by
  have read := foldl_readLine_take (Nat.le_refl ls.length)
  rw [List.take_length] at read
  rw [read, List.reverse_reverse]

/-- Where the reader stands in front of line `n`. -/
def readingAt (t : Text) (n : Nat) : Reading := ((lines t).take n).foldl readLine ⟨0, 0, []⟩

/-- The directive `d` is read on line `n`. -/
def ReadOn (t : Text) (n : Nat) (d : Include) : Prop :=
  ∃ line, (lines t)[n]? = some line ∧
    (readLine (readingAt t n) line).found = d :: (readingAt t n).found

theorem readOn_iff : ReadOn t n d ↔
    (lines t)[n]?.bind (directiveAt? (depthAt (lines t) n) n.toUInt32) = some d := by
  rw [Option.bind_eq_some_iff]
  refine exists_congr fun line => and_congr_right fun listed => ?_
  have within := (List.getElem?_eq_some_iff.mp listed).1.le
  rw [readLine_eq, readingAt, foldl_readLine_take within]
  cases directiveAt? (depthAt (lines t) n) n.toUInt32 line with
  | none => simp
  | some e => simp

/-- Every directive of a text is read on some line. -/
theorem mem_parseText : d ∈ parseText t ↔ ∃ n, ReadOn t n d := by
  rw [parseText, foldl_readLine, List.mem_filterMap]
  constructor
  · rintro ⟨n, _, found⟩
    exact ⟨n, readOn_iff.mpr found⟩
  · rintro ⟨n, read⟩
    have found := readOn_iff.mp read
    obtain ⟨line, listed, _⟩ := Option.bind_eq_some_iff.mp found
    exact ⟨n, List.mem_range.mpr (List.getElem?_eq_some_iff.mp listed).1, found⟩

theorem ReadOn.exists_line (read : ReadOn t n d) :
    ∃ line, (lines t)[n]? = some line ∧ parseLine? line n.toUInt32 = some d := by
  obtain ⟨line, listed, found⟩ := Option.bind_eq_some_iff.mp (readOn_iff.mp read)
  exact ⟨line, listed, parseLine?_of_directiveAt? found⟩

end Include

end AutoItNav
