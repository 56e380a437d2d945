import AutoItNav.Proofs.Include.Reading
import AutoItNav.Proofs.Text.Column

/-!
Directives and comment blocks. The directives of a text are the ones that a cursor sees on the lines
outside all blocks. A marker counts in any case, with blanks in front of it and no longer word made
of it, and an end marker where no block is open closes nothing.
-/
namespace AutoItNav

open Text

namespace Text

/-- The lines of a text as a cursor sees them: what stands between the breaks, without carriage
returns at the end. -/
def seen (t : Text) : List Text := (pieces '\n' t).map (dropTrailing isReturn)

theorem seen_of_unbroken {line : Text} (unbroken : '\n' ∉ line) :
    seen line = [dropTrailing isReturn line] := by
  rw [seen, pieces_of_not_mem unbroken]
  rfl

theorem seen_append_cons {line : Text} (unbroken : '\n' ∉ line) (rest : Text) :
    seen (line ++ '\n' :: rest) = dropTrailing isReturn line :: seen rest := by
  rw [seen, pieces_append_cons unbroken]
  rfl

theorem length_seen (t : Text) : (seen t).length = t.count '\n' + 1 := by
  induction t using line_induction with
  | last line unbroken => rw [seen_of_unbroken unbroken, List.count_eq_zero.mpr unbroken]; rfl
  | more line rest unbroken ih =>
      rw [seen_append_cons unbroken, List.length_cons, ih, List.count_append, List.count_cons_self,
        List.count_eq_zero.mpr unbroken, Nat.zero_add]

theorem Row.getElem?_seen {t above line below : Text} {n : Nat} (row : Row t n above line below) :
    (seen t)[n]? = some (dropTrailing isReturn line) := by
  induction t using line_induction generalizing n above with
  | last front unbroken =>
      obtain ⟨rfl, rfl, rfl⟩ := row.of_unbroken unbroken
      rw [seen_of_unbroken unbroken]
      rfl
  | more front rest unbroken ih =>
      rw [seen_append_cons unbroken]
      rcases row.top_or_lower unbroken with ⟨rfl, rfl, rfl⟩ | ⟨m, upper, rfl, lower⟩
      · rfl
      · exact ih lower

/-- From every position the cursor sees the line with the position's number, if there is one. -/
theorem lineAt?_of_position (t : Text) (p : Position) :
    (offsetAt? t p).bind (lineAt? t) = (seen t)[p.line.toNat]? := by
  by_cases within : p.line.toNat ≤ t.count '\n'
  · obtain ⟨above, line, below, row⟩ := exists_row_of_le within
    obtain ⟨offset, found, sees⟩ := row.lineAt? (p := p) rfl
    rw [found, Option.bind_some, sees, row.getElem?_seen]
  · rw [Nat.not_le] at within
    have beyond : (seen t).length ≤ p.line.toNat := by rw [length_seen]; omega
    rw [offsetAt?_eq_none_iff.mpr within, Option.bind_none, List.getElem?_eq_none beyond]

end Text

namespace Include

variable {ls : List Text} {line trail : Text} {n : Nat}

theorem readLine_append (returns : ∀ c ∈ trail, c = '\r') (r : Reading) (line : Text) :
    readLine r (line ++ trail) = readLine r line := by
  simp only [readLine_eq, depthBehind, directiveAt?, opens_append returns, closes_append returns,
    parseLine?_append returns]

theorem directiveAt?_nil (depth : Nat) (number : UInt32) : directiveAt? depth number [] = none := by
  unfold directiveAt?
  split <;> rfl

/-- The reader finds the same on the lines that a cursor sees. -/
theorem foldl_readLine_seen (t : Text) (r : Reading) :
    ((seen t).foldl readLine r).found = ((lines t).foldl readLine r).found := by
  have plain : ∀ r line, readLine r (dropTrailing isReturn line) = readLine r line := by
    intro r line
    obtain ⟨trail, cut, returns⟩ := exists_dropTrailing_append isReturn line
    conv_rhs => rw [cut]
    exact (readLine_append (fun c member => of_decide_eq_true (returns c member)) r _).symm
  have chomped : ∀ r line, readLine r (chomp line) = readLine r line := by
    intro r line
    obtain ⟨trail, cut, returns⟩ := exists_chomp_append line
    conv_rhs => rw [cut]
    exact (readLine_append returns r _).symm
  induction t using line_induction generalizing r with
  | last line unbroken =>
      rw [seen_of_unbroken unbroken, lines_of_unbroken unbroken]
      cases line with
      | nil =>
          change (readLine r []).found = r.found
          rw [readLine_eq, directiveAt?_nil]
          rfl
      | cons c line => exact congrArg Reading.found (plain r (c :: line))
  | more line rest unbroken ih =>
      rw [seen_append_cons unbroken, lines_append_cons unbroken, List.foldl_cons, List.foldl_cons,
        plain, chomped, ih]

/-- How many start markers stand in front of line `n`. -/
def openings (ls : List Text) (n : Nat) : Nat := (ls.take n).countP fun line => Opens line

/-- How many end markers stand in front of line `n` where a block is open. -/
def closings (ls : List Text) (n : Nat) : Nat :=
  (List.range n).countP fun m => 0 < depthAt ls m && ls[m]?.any fun line => Closes line

theorem openings_succ (listed : ls[n]? = some line) :
    openings ls (n + 1) = openings ls n + if Opens line then 1 else 0 := by
  rw [openings, List.take_add_one, listed, List.countP_append, Option.toList_some,
    List.countP_singleton]
  simp [openings]

theorem closings_succ (listed : ls[n]? = some line) :
    closings ls (n + 1) = closings ls n + if 0 < depthAt ls n ∧ Closes line then 1 else 0 := by
  rw [closings, List.range_succ, List.countP_append, List.countP_singleton, listed]
  simp [closings]

/-- The depth is what start markers open less what end markers close, stray ones left out. -/
theorem depthAt_add_closings (ls : List Text) (n : Nat) :
    depthAt ls n + closings ls n = openings ls n := by
  induction n with
  | zero => rfl
  | succ n ih =>
      cases listed : ls[n]? with
      | none =>
          have last : ls.take (n + 1) = ls.take n := by
            rw [List.take_add_one, listed, Option.toList_none, List.append_nil]
          have same : closings ls (n + 1) = closings ls n := by
            rw [closings, List.range_succ, List.countP_append, List.countP_singleton, listed]
            simp [closings]
          rw [depthAt, openings, last, same]
          exact ih
      | some line =>
          rw [depthAt_succ listed, closings_succ listed, openings_succ listed, depthBehind]
          by_cases opens : Opens line
          · have apart : ¬(0 < depthAt ls n ∧ Closes line) :=
              fun both => not_closes_of_opens opens both.2
            rw [if_pos opens, if_pos opens, if_neg apart]
            omega
          · rw [if_neg opens, if_neg opens]
            by_cases closes : Closes line
            · simp only [closes, if_true, and_true]
              split <;> omega
            · rw [if_neg closes, if_neg fun both => closes both.2]
              omega

/-- The directives of a text are what the lines that a cursor sees hold, one by one in their order,
as far as they are no markers and no block is open in front of them. -/
theorem parseText_outside_blocks (t : Text) :
    (parseText t = (List.range (seen t).length).filterMap fun i =>
        (seen t)[i]?.bind fun line =>
          if depthAt (seen t) i = 0 ∧ ¬Opens line ∧ ¬Closes line then parseLine? line i.toUInt32
          else none) ∧
      (∀ n, depthAt (seen t) n + closings (seen t) n = openings (seen t) n) ∧
      (∀ p, (offsetAt? t p).bind (lineAt? t) = (seen t)[p.line.toNat]?) ∧
      (t.count '\n' < UInt32.size → (parseText t).Pairwise fun d e => d.line < e.line) := by
  have found : parseText t = (List.range (seen t).length).filterMap fun i =>
      (seen t)[i]?.bind (directiveAt? (depthAt (seen t) i) i.toUInt32) := by
    rw [parseText, ← foldl_readLine_seen, foldl_readLine]
  refine ⟨found, depthAt_add_closings (seen t), lineAt?_of_position t, ?_⟩
  intro small
  rw [found, List.pairwise_filterMap]
  apply List.pairwise_lt_range.imp_of_mem
  intro i j _ inside before d here e there
  obtain ⟨_, _, here⟩ := Option.bind_eq_some_iff.mp here
  obtain ⟨_, _, there⟩ := Option.bind_eq_some_iff.mp there
  have row : j < UInt32.size := by
    have below := List.mem_range.mp inside
    rw [length_seen] at below
    omega
  rw [line_of_parseLine? (parseLine?_of_directiveAt? here),
    line_of_parseLine? (parseLine?_of_directiveAt? there), UInt32.lt_iff_toNat_lt,
    toNat_toUInt32 row, toNat_toUInt32 (before.trans row)]
  exact before

/-- A block in a block, an end marker too many, and lines that only look like markers. -/
theorem parseText_outside_blocks_nested :
    let rows := ["  #CS", "#include <a>", "#cs;", "#ce", "\t#Comments-End \r", "#ce", "#csx",
      "#include \"b\" \r\r", "#ce-", "#include 'c'"]
    let t := ['\n'].intercalate (rows.map String.toList)
    t.count '\n' < UInt32.size ∧ parseText t = [⟨['b'], .quoted, 7⟩, ⟨['c'], .quoted, 9⟩] ∧
      (parseText t).Pairwise fun d e => d.line < e.line := by
  intro rows t
  have small : t.count '\n' < UInt32.size := by decide +kernel
  exact ⟨small, by decide +kernel, (parseText_outside_blocks t).2.2.2 small⟩

end Include

end AutoItNav
