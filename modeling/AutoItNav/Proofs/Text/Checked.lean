import AutoItNav.Proofs.Text.Word

/-!
Looking for a word by indices, with every index and every slice checked. The search goes back and on
from a letter at the cursor by indices of characters, after slicing the text at byte offsets; it
never leaves the text, and it finds the word that cutting the line finds.
-/
namespace AutoItNav.Text

variable {t above front back line below before piece after rest : Text} {n offset : Nat}
  {p : Position}

/-- The text before a byte offset and from it on; none inside a character and past the end. -/
def cutAt? : (offset : Nat) → Text → Option (Text × Text)
  | 0, t => some ([], t)
  | _ + 1, [] => none
  | n + 1, c :: t =>
    if c.utf8Size ≤ n + 1 then
      (cutAt? (n + 1 - c.utf8Size) t).map fun (front, rest) => (c :: front, rest)
    else none

/-- The bytes from `start` up to `stop`; none if one of the two is no boundary or they are in the
wrong order. -/
def slice? (t : Text) (start stop : Nat) : Option Text := do
  let (_, rest) ← cutAt? start t
  if start ≤ stop then
    let (piece, _) ← cutAt? (stop - start) rest
    return piece
  else none

/-- The characters from the one at `start` up to the one at `stop`; none if the line is too short or
the two are in the wrong order. -/
def cells? (chars : Text) (start stop : Nat) : Option Text :=
  if start ≤ stop ∧ stop ≤ chars.length then some ((chars.drop start).take (stop - start)) else none

theorem cutAt?_boundary (before after : Text) :
    cutAt? (byteSize before) (before ++ after) = some (before, after) := by
  induction before with
  | nil => cases after <;> rfl
  | cons c before ih =>
      obtain ⟨n, size⟩ : ∃ n, c.utf8Size + byteSize before = n + 1 :=
        Nat.exists_eq_succ_of_ne_zero (by have := c.utf8Size_pos; omega)
      have later : n + 1 - c.utf8Size = byteSize before := by omega
      rw [byteSize_cons, size, List.cons_append, cutAt?, if_pos (by omega), later, ih]
      rfl

theorem cutAt?_eq_some (found : cutAt? offset t = some (before, after)) :
    t = before ++ after ∧ offset = byteSize before := by
  induction t generalizing offset before with
  | nil =>
      cases offset with
      | zero =>
          cases found
          exact ⟨rfl, rfl⟩
      | succ n => cases found
  | cons c t ih =>
      cases offset with
      | zero =>
          cases found
          exact ⟨rfl, rfl⟩
      | succ n =>
          rw [cutAt?] at found
          split at found
          · next fits =>
              obtain ⟨⟨front, rest⟩, inner, same⟩ := Option.map_eq_some_iff.mp found
              cases same
              obtain ⟨rfl, size⟩ := ih inner
              refine ⟨rfl, ?_⟩
              rw [byteSize_cons]
              omega
          · cases found

theorem slice?_eq_some_iff {start stop : Nat} : slice? t start stop = some piece ↔
    ∃ before after, t = before ++ piece ++ after ∧ start = byteSize before ∧
      stop = byteSize (before ++ piece) := by
  constructor
  · intro found
    simp only [slice?, Option.bind_eq_bind, Option.bind_eq_some_iff] at found
    obtain ⟨⟨before, rest⟩, first, found⟩ := found
    obtain ⟨rfl, rfl⟩ := cutAt?_eq_some first
    split at found
    · next ordered =>
        obtain ⟨⟨piece', after⟩, second, same⟩ := Option.bind_eq_some_iff.mp found
        cases same
        obtain ⟨rfl, size⟩ := cutAt?_eq_some second
        refine ⟨before, after, (List.append_assoc ..).symm, rfl, ?_⟩
        dsimp only at size ⊢
        rw [byteSize_append]
        omega
    · cases found
  · rintro ⟨before, after, rfl, rfl, rfl⟩
    rw [slice?, List.append_assoc, cutAt?_boundary, byteSize_append]
    simp [cutAt?_boundary]

theorem slice?_front (front rest : Text) :
    slice? (front ++ rest) 0 (byteSize front) = some front :=
  slice?_eq_some_iff.mpr ⟨[], rest, rfl, rfl, rfl⟩

theorem slice?_rest (front rest : Text) :
    slice? (front ++ rest) (byteSize front) (byteSize (front ++ rest)) = some rest :=
  slice?_eq_some_iff.mpr ⟨front, [], (List.append_nil _).symm, rfl, rfl⟩

/-- A piece of a row, from its start on. -/
theorem Row.slice?_front (row : Row t n above (front ++ back) below) :
    slice? t (byteSize above) (byteSize (above ++ front)) = some front := by
  refine slice?_eq_some_iff.mpr ⟨above, back ++ below, ?_, rfl, rfl⟩
  rw [row.cut]
  simp only [List.append_assoc]

/-- The whole row, to an end counted from one of its places. -/
theorem Row.slice?_line (row : Row t n above (front ++ back) below) :
    slice? t (byteSize above) (byteSize (above ++ front) + byteSize back) =
      some (front ++ back) := by
  refine slice?_eq_some_iff.mpr ⟨above, below, row.cut, rfl, ?_⟩
  simp only [byteSize_append, Nat.add_assoc]

theorem Row.cut_front (row : Row t n above (front ++ back) below) :
    t = above ++ front ++ (back ++ below) := by
  rw [row.cut]
  simp only [List.append_assoc]

namespace Checked

/-- Where the line begins that a text ends in. -/
def lineStart (front : Text) : Nat := byteSize (dropTrailing (· ≠ '\n') front)

/-- The start of the line that is `count` lines below the one at byte `start`, if there is one. -/
def skip (t : Text) : (count start : Nat) → Option (Option Nat)
  | 0, start => some (some start)
  | n + 1, start => do
    let rest ← slice? t start (byteSize t)
    if '\n' ∈ rest then skip t n (start + byteSize (restOfLine rest) + 1) else return none

def offsetAt (t : Text) (p : Position) : Option (Option Nat) := do
  match ← skip t p.line.toNat 0 with
  | none => return none
  | some start =>
    let rest ← slice? t start (byteSize t)
    let line ← slice? t start (start + byteSize (restOfLine rest))
    return some (seekColumn p.character.toNat 0 start line)

def lineAt (t : Text) (offset : Nat) : Option Text := do
  let offset := min offset (byteSize t)
  let front ← slice? t 0 offset
  let rest ← slice? t offset (byteSize t)
  let line ← slice? t (lineStart front) (offset + byteSize (restOfLine rest))
  return dropTrailing isReturn line

/-- The index of a letter of the token that a cursor at `column` is in or right behind. -/
def letter (chars : Text) (column : Nat) : Option Nat :=
  if chars[column]? = some sigil ∧ chars[column + 1]?.any isWordChar then some (column + 1)
  else if chars[column]?.any isWordChar then some column
  else if 0 < column ∧ chars[column - 1]?.any isWordChar then some (column - 1)
  else none

/-- Back over the letters before index `i`. -/
def goBack (chars : Text) : (i : Nat) → Option Nat
  | 0 => some 0
  | i + 1 => do
    let c ← chars[i]?
    if isWordChar c then goBack chars i else return i + 1

/-- On over the letters from index `i`. -/
def goOn (chars : Text) (i : Nat) : Nat :=
  if inside : i < chars.length then if isWordChar chars[i] then goOn chars (i + 1) else i else i
termination_by chars.length - i

/-- The indices between which the token at a letter stands. -/
def around (chars : Text) (i : Nat) : Option (Nat × Nat) := do
  let first ← goBack chars i
  if first = 0 then return (first, goOn chars (i + 1))
  else
    let c ← chars[first - 1]?
    return (if c = sigil then first - 1 else first, goOn chars (i + 1))

/-- The indices of the token that a cursor at `column` selects. -/
def tokenOn (chars : Text) (column : Nat) : Option (Option (Nat × Nat)) :=
  match letter chars column with
  | none => some none
  | some i => (around chars i).map some

def wordAt (t : Text) (p : Position) : Option (Option (Text × Span)) := do
  match ← offsetAt t p with
  | none => return none
  | some offset =>
    let front ← slice? t 0 offset
    let line ← lineAt t offset
    let passed ← slice? t (lineStart front) offset
    match ← tokenOn line passed.length with
    | none => return none
    | some (start, stop) =>
      let word ← cells? line start stop
      let upToStart ← cells? line 0 start
      let upToStop ← cells? line 0 stop
      return some (word,
        ⟨⟨p.line, (units upToStart).toUInt32⟩, ⟨p.line, (units upToStop).toUInt32⟩⟩)

theorem seekLine_break (unbroken : '\n' ∉ line) (here : Nat) (rest : Text) :
    seekLine (n + 1) here (line ++ '\n' :: rest) = seekLine n (here + byteSize line + 1) rest := by
  induction line generalizing here with
  | nil => rw [List.nil_append, seekLine, if_pos rfl, byteSize_nil, Nat.add_zero]
  | cons c line ih =>
      obtain ⟨other, later⟩ := List.ne_and_not_mem_of_not_mem_cons unbroken
      rw [List.cons_append, seekLine, if_neg other.symm, ih later, byteSize_cons, ← Nat.add_assoc]

theorem seekLine_unbroken (unbroken : '\n' ∉ t) (here : Nat) : seekLine (n + 1) here t = none := by
  induction t generalizing here with
  | nil => rfl
  | cons c t ih =>
      obtain ⟨other, later⟩ := List.ne_and_not_mem_of_not_mem_cons unbroken
      rw [seekLine, if_neg other.symm, ih later]

theorem skip_eq (above rest : Text) : skip (above ++ rest) n (byteSize above) =
    some ((seekLine n (byteSize above) rest).map Prod.fst) := by
  induction n generalizing above rest with
  | zero => cases rest <;> rfl
  | succ n ih =>
      rw [skip, slice?_rest, Option.bind_eq_bind, Option.bind_some]
      by_cases broken : '\n' ∈ rest
      · obtain ⟨line, lower, rfl, unbroken⟩ := List.eq_append_cons_of_mem broken
        have here : restOfLine (line ++ '\n' :: lower) = line := (Row.top unbroken).restOfLine_eq
        have next : byteSize above + byteSize line + 1 = byteSize (above ++ (line ++ ['\n'])) := by
          rw [byteSize_append, byteSize_append, ← Nat.add_assoc]
          rfl
        have whole : above ++ (line ++ '\n' :: lower) = above ++ (line ++ ['\n']) ++ lower := by
          simp
        rw [if_pos broken, here, seekLine_break unbroken, next, whole, ih]
      · rw [if_neg broken, seekLine_unbroken broken]
        rfl

theorem seekColumn_restOfLine (column passed here : Nat) (rest : Text) :
    seekColumn column passed here (restOfLine rest) = seekColumn column passed here rest := by
  induction rest generalizing passed here with
  | nil => rfl
  | cons c rest ih =>
      by_cases newline : c = '\n'
      · simp [restOfLine, seekColumn, newline]
      · have more : restOfLine (c :: rest) = c :: restOfLine rest := by
          simp [restOfLine, newline]
        rw [more, seekColumn, seekColumn, ih]

theorem offsetAt_eq (t : Text) (p : Position) : offsetAt t p = some (offsetAt? t p) := by
  have skipped := skip_eq (n := p.line.toNat) [] t
  rw [List.nil_append, byteSize_nil] at skipped
  rw [offsetAt, skipped, Option.bind_eq_bind, Option.bind_some, offsetAt?]
  cases found : seekLine p.line.toNat 0 t with
  | none => rfl
  | some reached =>
      obtain ⟨start, rest⟩ := reached
      obtain ⟨above, rfl, _, _, rfl⟩ := seekLine_eq_some found
      have line : slice? (above ++ rest) (byteSize above)
          (byteSize above + byteSize (restOfLine rest)) = some (restOfLine rest) := by
        refine slice?_eq_some_iff.mpr ⟨above, rest.dropWhile (· ≠ '\n'), ?_, rfl, ?_⟩
        · rw [restOfLine, List.append_assoc, List.takeWhile_append_dropWhile]
        · rw [byteSize_append]
      simp only [Nat.zero_add, Option.map_some, slice?_rest, line, Option.bind_eq_bind,
        Option.bind_some, seekColumn_restOfLine]
      rfl

theorem lineStart_eq (start : LineStart above) (unbroken : '\n' ∉ front) :
    lineStart (above ++ front) = byteSize above := by
  have none : dropTrailing (· ≠ '\n') front = [] := by
    rw [dropTrailing, List.reverse_eq_nil_iff, List.dropWhile_eq_nil_iff]
    intro c member
    simpa using ne_of_mem_of_not_mem (List.mem_reverse.mp member) unbroken
  rw [lineStart]
  obtain rfl | ⟨upper, rfl⟩ := start
  · rw [List.nil_append, none]
  · rw [dropTrailing_append (by simp), none, List.append_nil]

theorem lineAt_eq (row : Row t n above (front ++ back) below) :
    lineAt t (byteSize above + byteSize front) =
      Text.lineAt? t (byteSize above + byteSize front) := by
  obtain ⟨unbroken, single⟩ := not_or.mp (mt List.mem_append.mpr row.unbroken)
  have first := slice?_front (above ++ front) (back ++ below)
  have rest := slice?_rest (above ++ front) (back ++ below)
  have within : min (byteSize (above ++ front)) (byteSize t) = byteSize (above ++ front) := by
    rw [row.cut_front, byteSize_append (above ++ front)]
    omega
  rw [← row.cut_front] at first rest
  rw [row.lineAt?_front, ← byteSize_append, lineAt]
  simp only [within, first, rest, restOfLine_append single row.stop,
    lineStart_eq row.start unbroken, row.slice?_line, Option.bind_eq_bind, Option.bind_some]
  rfl

theorem goBack_eq (back more : Text) : goBack (back.reverse ++ more) back.length =
    some (back.dropWhile isWordChar).length := by
  induction back generalizing more with
  | nil => rfl
  | cons c back ih =>
      have here : (back.reverse ++ c :: more)[back.length]? = some c := by
        rw [List.getElem?_append_right (by simp)]
        simp
      rw [List.reverse_cons, List.append_assoc, List.singleton_append, List.length_cons, goBack,
        here, Option.bind_eq_bind, Option.bind_some]
      cases holds : isWordChar c with
      | true => rw [if_pos rfl, ih, List.dropWhile_cons_of_pos holds]
      | false => simp [holds]

theorem goOn_eq (front ahead : Text) : goOn (front ++ ahead) front.length =
    front.length + (ahead.takeWhile isWordChar).length := by
  induction ahead generalizing front with
  | nil =>
      rw [goOn, dif_neg (by simp)]
      rfl
  | cons c ahead ih =>
      rw [goOn, dif_pos (by simp)]
      cases holds : isWordChar c with
      | true =>
          have later := ih (front ++ [c])
          rw [List.append_assoc, List.singleton_append, List.length_append,
            List.length_singleton] at later
          simp [holds, later]
          omega
      | false => simp [holds]

/-- Around a letter the indices find what cutting in front of the letter finds. -/
theorem around_eq {c : Char} (letter : isWordChar c = true) (back ahead : Text) :
    ∃ before word, tokenAround back (c :: ahead) = some (before, word) ∧
      around (back.reverse ++ c :: ahead) back.length =
        some (before.length, (before ++ word).length) := by
  have stop := goOn_eq (back.reverse ++ [c]) ahead
  rw [List.append_assoc, List.singleton_append, List.length_append, List.length_reverse,
    List.length_singleton] at stop
  have size : back.length =
      (back.takeWhile isWordChar).length + (back.dropWhile isWordChar).length := by
    rw [← List.length_append, List.takeWhile_append_dropWhile]
  have right : (c :: ahead).takeWhile isWordChar = c :: ahead.takeWhile isWordChar := by
    simp [letter]
  rw [around, goBack_eq, Option.bind_eq_bind, Option.bind_some, tokenAround, stop, right]
  -- what the letters leave of `back` is empty, or it ends the token with its last character
  cases dropped : back.dropWhile isWordChar with
  | nil =>
      rw [dropped, List.length_nil] at size
      refine ⟨[], (back.takeWhile isWordChar).reverse ++ c :: ahead.takeWhile isWordChar, ?_, ?_⟩
      · simp
      · simp [size]
        omega
  | cons d rest =>
      have whole : back = back.takeWhile isWordChar ++ d :: rest := by
        rw [← dropped, List.takeWhile_append_dropWhile]
      have here : (back.reverse ++ c :: ahead)[rest.length]? = some d := by
        rw [whole]
        simp
      rw [dropped, List.length_cons] at size
      by_cases marked : d = sigil
      · refine ⟨rest.reverse, d :: ((back.takeWhile isWordChar).reverse ++
          c :: ahead.takeWhile isWordChar), ?_, ?_⟩
        · simp [marked]
        · simp [here, marked, size]
          omega
      · refine ⟨(d :: rest).reverse, (back.takeWhile isWordChar).reverse ++
          c :: ahead.takeWhile isWordChar, ?_, ?_⟩
        · simp [marked]
        · simp [here, marked, size]
          omega

theorem letter_of_unmarked (back : Text) {ahead : Text}
    (other : ∀ c rest, ahead = sigil :: c :: rest → isWordChar c = false) :
    letter (back.reverse ++ ahead) back.length =
      if ahead.head?.any isWordChar then some back.length
      else if back.head?.any isWordChar then some (back.length - 1) else none := by
  have here : (back.reverse ++ ahead)[back.length]? = ahead.head? := by
    rw [List.getElem?_append_right (by simp)]
    simp [List.head?_eq_getElem?]
  have next : (back.reverse ++ ahead)[back.length + 1]? = ahead.tail.head? := by
    rw [List.getElem?_append_right (by simp)]
    simp [List.head?_eq_getElem?]
  have unmarked : ¬(ahead.head? = some sigil ∧ ahead.tail.head?.any isWordChar = true) := by
    rintro ⟨first, second⟩
    obtain ⟨later, rfl⟩ := List.head?_eq_some_iff.mp first
    cases later with
    | nil => cases second
    | cons c rest => cases (other c rest rfl).symm.trans second
  have behind : (0 < back.length ∧
      (back.reverse ++ ahead)[back.length - 1]?.any isWordChar = true) ↔
      back.head?.any isWordChar = true := by
    cases back <;> simp
  simp only [letter, here, next, if_neg unmarked, behind]

/-- The letter that the indices go out from stands right around the cursor. -/
theorem letter_cases (back ahead : Text) :
    letter (back.reverse ++ ahead) back.length = none ∧ tokenAt back ahead = none ∨
      ∃ c front rest, isWordChar c = true ∧ back.reverse ++ ahead = front.reverse ++ c :: rest ∧
        letter (back.reverse ++ ahead) back.length = some front.length ∧
        tokenAt back ahead = tokenAround front (c :: rest) := by
  rcases tokenAt_cases back ahead with ⟨c, rest, rfl, holds, same⟩ | ⟨other, same⟩
  -- a sigil at the cursor wins over a letter behind it
  · right
    refine ⟨c, sigil :: back, rest, holds, by simp, ?_, same⟩
    simp [letter, holds]
  · rw [same, letter_of_unmarked back other]
    by_cases inside : ahead.head?.any isWordChar = true
    · right
      cases ahead with
      | nil => cases inside
      | cons c rest => exact ⟨c, back, rest, inside, rfl, if_pos inside, rfl⟩
    · rw [if_neg inside]
      by_cases behind : back.head?.any isWordChar = true
      · right
        cases back with
        | nil => cases behind
        | cons c back =>
            have single : ∀ d ∈ [c], isWordChar d = true := by simpa using behind
            refine ⟨c, back, ahead, behind, by simp, ?_, tokenAround_append single back ahead⟩
            rw [if_pos behind]
            rfl
      · left
        refine ⟨if_neg behind, tokenAround_nil_iff.mpr ?_⟩
        simpa only [Option.any_eq_true, not_exists, not_and, Bool.not_eq_true] using
          And.intro behind inside

theorem tokenOn_eq (chars : Text) (column : Nat) : tokenOn chars column =
    some ((Text.tokenOn chars column).map fun (before, word) =>
      (before.length, (before ++ word).length)) := by
  by_cases beyond : chars.length < column
  -- the cursor is behind returns that are no part of the line, not even its last letter is near
  · have missing : ∀ i, chars.length ≤ i → chars[i]? = none := fun i => List.getElem?_eq_none
    rw [Text.tokenOn, if_pos beyond, tokenOn, letter, missing column (by omega),
      missing (column + 1) (by omega), missing (column - 1) (by omega)]
    simp
  · have cut : chars = (chars.take column).reverse.reverse ++ chars.drop column := by
      rw [List.reverse_reverse, List.take_append_drop]
    have size : column = (chars.take column).reverse.length := by
      rw [List.length_reverse, List.length_take_of_le (Nat.not_lt.mp beyond)]
    rw [Text.tokenOn, if_neg beyond, tokenOn]
    rcases letter_cases (chars.take column).reverse (chars.drop column) with
      ⟨none, same⟩ | ⟨c, front, rest, holds, whole, found, same⟩
    · rw [← cut, ← size] at none
      rw [none, same]
      rfl
    · rw [← cut] at whole
      rw [← cut, ← size] at found
      obtain ⟨before, word, token, place⟩ := around_eq holds front rest
      rw [← whole] at place
      rw [found, same, token]
      simp [place]

theorem cells?_append (before piece after : Text) :
    cells? (before ++ piece ++ after) before.length (before ++ piece).length = some piece := by
  rw [cells?, if_pos (by simp), List.append_assoc, List.drop_left, List.length_append,
    Nat.add_sub_cancel_left, List.take_left]

/-- No index leaves the text, and the word found is the one at the position. -/
theorem wordAt_eq (t : Text) (p : Position) : wordAt t p = some (Text.wordAt t p) := by
  rw [wordAt, offsetAt_eq, Option.bind_eq_bind, Option.bind_some]
  cases placed : offsetAt? t p with
  | none => simp [Text.wordAt, placed]
  | some offset =>
      -- the place is on a row, and every slice is a piece of that row or what stands above it
      obtain ⟨above, front, back, below, row, rfl, _⟩ := exists_row_of_offsetAt? placed
      obtain ⟨unbroken, _⟩ := not_or.mp (mt List.mem_append.mpr row.unbroken)
      have first := slice?_front (above ++ front) (back ++ below)
      have passed := row.slice?_front
      rw [← row.cut_front, byteSize_append] at first
      rw [byteSize_append] at passed
      rw [row.wordAt_eq placed]
      simp only [first, lineAt_eq row, row.lineAt?_front, lineStart_eq row.start unbroken, passed,
        tokenOn_eq, Option.bind_eq_bind, Option.bind_some]
      cases token : Text.tokenOn (dropTrailing isReturn (front ++ back)) front.length with
      | none => rfl
      | some found =>
          obtain ⟨before, word⟩ := found
          obtain ⟨left, right, after, line, _⟩ := tokenOn_eq_some token
          have word' := cells?_append before word after
          have start := cells?_append [] before (word ++ after)
          have stop := cells?_append [] (before ++ word) after
          simp only [List.nil_append, List.length_nil, ← List.append_assoc] at start stop
          simp only [Option.map_some, line, word', start, stop, Option.bind_some, units_append]
          rfl

end Checked

end AutoItNav.Text
