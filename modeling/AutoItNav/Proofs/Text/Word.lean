import AutoItNav.Identifier
import AutoItNav.Proofs.Text.Cursor

/-!
The word at a position. It is a run of word characters that goes on to neither side, together with
the sigil in front of the run, if there is one; and at the place where a word begins it is that word.
-/
namespace AutoItNav.Text

variable {t back ahead above before front word below after run : Text} {n : Nat} {p : Position}
  {span : Span}

theorem not_isWordChar_sigil : isWordChar sigil = false := by decide +kernel

theorem not_isWordChar_newline : isWordChar '\n' = false := by decide +kernel

theorem not_isWordChar_return : isWordChar '\r' = false := by decide +kernel

theorem not_isBlank_sigil : isBlank sigil = false := by decide

/-- White space is in no word. -/
theorem not_isWordChar_of_isBlank {c : Char} (blank : isBlank c = true) : isWordChar c = false := by
  have codes : ∀ n ∈ [9, 10, 11, 12, 13, 0x20, 0x85, 0xA0, 0x1680, 0x2000, 0x2001, 0x2002, 0x2003,
      0x2004, 0x2005, 0x2006, 0x2007, 0x2008, 0x2009, 0x200A, 0x2028, 0x2029, 0x202F, 0x205F,
      0x3000], isWordChar (Char.ofNat n) = false := by decide +kernel
  rw [← c.ofNat_toNat]
  apply codes
  simp [isBlank] at blank
  simp only [List.mem_cons, List.not_mem_nil, or_false]
  omega

/-- Word characters, as many as there are in front of `after`. -/
structure IsRun (run after : Text) : Prop where
  inhabited : run ≠ []
  letters : ∀ c ∈ run, isWordChar c = true
  stop : ∀ c, after.head? = some c → isWordChar c = false

/-- A word between the text in front of it and the text behind it. -/
inductive IsWord (before after : Text) : Text → Prop
  | marked {run : Text} (letters : IsRun run after) : IsWord before after (sigil :: run)
  | plain {run : Text} (letters : IsRun run after)
      (front : ∀ c, before.getLast? = some c → c ≠ sigil ∧ isWordChar c = false) :
      IsWord before after run

theorem IsRun.takeWhile_eq (letters : IsRun run after) :
    (run ++ after).takeWhile isWordChar = run := by
  rw [List.takeWhile_append_of_pos letters.letters]
  cases after with
  | nil => simp
  | cons c after => simp [letters.stop c rfl]

theorem IsRun.exists_cons (letters : IsRun run after) :
    ∃ c rest, run = c :: rest ∧ isWordChar c = true := by
  obtain ⟨c, rest, rfl⟩ := List.exists_cons_of_ne_nil letters.inhabited
  exact ⟨c, rest, rfl, letters.letters c List.mem_cons_self⟩

theorem IsRun.of_stop (letters : IsRun run after) {later : Text}
    (ended : ∀ c, later.head? = some c → isWordChar c = false) : IsRun run later :=
  ⟨letters.inhabited, letters.letters, ended⟩

namespace IsWord

theorem stop (isWord : IsWord before after word) :
    ∀ c, after.head? = some c → isWordChar c = false := by
  cases isWord with
  | marked letters => exact letters.stop
  | plain letters front => exact letters.stop

theorem of_stop (isWord : IsWord before after word) {later : Text}
    (ended : ∀ c, later.head? = some c → isWordChar c = false) : IsWord before later word := by
  cases isWord with
  | marked letters => exact .marked (letters.of_stop ended)
  | plain letters front => exact .plain (letters.of_stop ended) front

/-- A word ends with a word character. -/
theorem exists_last (isWord : IsWord before after word) :
    ∃ init c, word = init ++ [c] ∧ isWordChar c = true := by
  have ends : ∀ {run}, IsRun run after → ∃ init c, run = init ++ [c] ∧ isWordChar c = true := by
    intro run letters
    obtain ⟨init, c, rfl⟩ := List.eq_nil_or_concat' run |>.resolve_left letters.inhabited
    exact ⟨init, c, rfl, letters.letters c (by simp)⟩
  cases isWord with
  | marked letters =>
      obtain ⟨init, c, rfl, letter⟩ := ends letters
      exact ⟨sigil :: init, c, rfl, letter⟩
  | plain letters front => exact ends letters

theorem unbroken (isWord : IsWord before after word) : '\n' ∉ word := by
  have single : ∀ {run}, IsRun run after → '\n' ∉ run := by
    intro run letters newline
    cases (letters.letters _ newline).symm.trans not_isWordChar_newline
  cases isWord with
  | marked letters => exact List.not_mem_cons_of_ne_of_not_mem (by decide) (single letters)
  | plain letters front => exact single letters

theorem inhabited (isWord : IsWord before after word) : word ≠ [] := by
  obtain ⟨init, c, rfl, _⟩ := isWord.exists_last
  simp

theorem tight (isWord : IsWord before after word) : Tight word := by
  have solid : ∀ c, isWordChar c = true → isBlank c = false := by
    intro c letter
    cases blank : isBlank c with
    | false => rfl
    | true => cases (not_isWordChar_of_isBlank blank).symm.trans letter
  constructor
  · intro c first
    cases isWord with
    | marked letters =>
        cases first
        exact not_isBlank_sigil
    | plain letters front => exact solid c (letters.letters c (List.mem_of_head? first))
  · intro c last
    obtain ⟨init, d, rfl, letter⟩ := isWord.exists_last
    rw [List.getLast?_concat] at last
    cases last
    exact solid c letter

end IsWord

/-- The token around a cut that is not right in front of a sigil. -/
def tokenAround (back ahead : Text) : Option (Text × Text) :=
  let left := back.takeWhile isWordChar
  let right := ahead.takeWhile isWordChar
  if left.isEmpty ∧ right.isEmpty then none
  else
    let run := left.reverse ++ right
    match back.dropWhile isWordChar with
    | c :: before =>
      if c = sigil then some (before.reverse, c :: run) else some ((c :: before).reverse, run)
    | [] => some ([], run)

theorem tokenAround_nil_iff : tokenAround back ahead = none ↔
    (∀ c, back.head? = some c → isWordChar c = false) ∧
      ∀ c, ahead.head? = some c → isWordChar c = false := by
  have bare : ∀ l : Text, l.takeWhile isWordChar = [] ↔
      ∀ c, l.head? = some c → isWordChar c = false := by
    intro l
    cases l <;> simp
  rw [← bare, ← bare, tokenAround]
  dsimp only
  split
  · next none => simpa [List.takeWhile_eq_nil_iff] using none
  · next some =>
      rw [List.isEmpty_iff, List.isEmpty_iff] at some
      constructor
      · intro none
        split at none
        · split at none <;> cases none
        · cases none
      · exact fun none => absurd none some

/-- A letter may stand on either side of the cut. -/
theorem tokenAround_append (letters : ∀ c ∈ run, isWordChar c = true) (back ahead : Text) :
    tokenAround (run.reverse ++ back) ahead = tokenAround back (run ++ ahead) := by
  induction run generalizing back with
  | nil => rfl
  | cons c run ih =>
      have letter := letters c List.mem_cons_self
      have later := ih (fun d member => letters d (List.mem_cons_of_mem c member)) (c :: back)
      rw [List.reverse_cons, List.append_assoc, List.singleton_append, later, List.cons_append]
      simp [tokenAround, letter]

theorem IsRun.tokenAround_sigil (letters : IsRun run after) (back : Text) :
    tokenAround (sigil :: back) (run ++ after) = some (back.reverse, sigil :: run) := by
  simp [tokenAround, not_isWordChar_sigil, letters.takeWhile_eq, letters.inhabited]

theorem IsRun.tokenAround_plain (letters : IsRun run after)
    (front : ∀ c, before.getLast? = some c → c ≠ sigil ∧ isWordChar c = false) :
    tokenAround before.reverse (run ++ after) = some (before, run) := by
  cases reversed : before.reverse with
  | nil =>
      rw [List.reverse_eq_nil_iff.mp reversed]
      simp [tokenAround, letters.takeWhile_eq, letters.inhabited]
  | cons c back =>
      have last : before.getLast? = some c := by rw [← List.head?_reverse, reversed]; rfl
      obtain ⟨other, bare⟩ := front c last
      have whole : before = (c :: back).reverse := by rw [← reversed, List.reverse_reverse]
      simp [tokenAround, letters.takeWhile_eq, letters.inhabited, bare, other, whole]

theorem tokenAround_eq_some (found : tokenAround back ahead = some (before, word)) :
    ∃ left right after, back.reverse = before ++ left ∧ ahead = right ++ after ∧
      word = left ++ right ∧ IsWord before after word := by
  have letters : tokenAround back ahead ≠ none →
      IsRun ((back.takeWhile isWordChar).reverse ++ ahead.takeWhile isWordChar)
        (ahead.dropWhile isWordChar) := by
    intro some
    constructor
    · intro none
      apply some
      simp_all [tokenAround]
    · intro c member
      rcases List.mem_append.mp member with left | right
      · exact List.mem_takeWhile_imp (List.mem_reverse.mp left)
      · exact List.mem_takeWhile_imp right
    · intro c
      exact head?_dropWhile
  replace letters := letters (by rw [found]; exact Option.some_ne_none _)
  have right : ahead = ahead.takeWhile isWordChar ++ ahead.dropWhile isWordChar :=
    List.takeWhile_append_dropWhile.symm
  have left : back.reverse =
      (back.dropWhile isWordChar).reverse ++ (back.takeWhile isWordChar).reverse := by
    rw [← List.reverse_append, List.takeWhile_append_dropWhile]
  unfold tokenAround at found
  dsimp only at found
  split at found
  · cases found
  · split at found
    · next c rest front =>
        rw [front] at left
        split at found
        · next marked =>
            subst marked
            cases found
            exact ⟨sigil :: (back.takeWhile isWordChar).reverse, _, _, by simpa using left, right,
              rfl, .marked letters⟩
        · next plain =>
            cases found
            refine ⟨_, _, _, left, right, rfl, .plain letters ?_⟩
            intro d last
            simp only [List.reverse_cons, List.getLast?_concat, Option.some.injEq] at last
            subst last
            exact ⟨plain, head?_dropWhile (by rw [front]; rfl)⟩
    · next none =>
        rw [none] at left
        cases found
        exact ⟨_, _, _, left, right, rfl, .plain letters (by intro c last; cases last)⟩

/-- Right in front of a variable the cut counts as behind its sigil. -/
theorem tokenAt_of_sigil {c : Char} {rest : Text} (letter : isWordChar c = true) :
    tokenAt back (sigil :: c :: rest) = tokenAround (sigil :: back) (c :: rest) := by
  simp only [tokenAt, letter, and_self, ↓reduceIte]
  rfl

theorem tokenAt_of_other (other : ∀ c rest, ahead = sigil :: c :: rest → isWordChar c = false) :
    tokenAt back ahead = tokenAround back ahead := by
  unfold tokenAt tokenAround
  split
  next back' ahead' same =>
    split at same
    · next c d rest =>
        split at same
        · next marked =>
            obtain ⟨rfl, letter⟩ := marked
            cases (other d rest rfl).symm.trans letter
        · cases same
          rfl
    · cases same
      rfl

theorem tokenAt_cases (back ahead : Text) :
    (∃ c rest, ahead = sigil :: c :: rest ∧ isWordChar c = true ∧
      tokenAt back ahead = tokenAround (sigil :: back) (c :: rest)) ∨
    (∀ c rest, ahead = sigil :: c :: rest → isWordChar c = false) ∧
      tokenAt back ahead = tokenAround back ahead := by
  by_cases marked : ∃ c rest, ahead = sigil :: c :: rest ∧ isWordChar c = true
  · obtain ⟨c, rest, rfl, letter⟩ := marked
    exact .inl ⟨c, rest, rfl, letter, tokenAt_of_sigil letter⟩
  · have other : ∀ c rest, ahead = sigil :: c :: rest → isWordChar c = false := by
      intro c rest same
      simpa using fun letter => marked ⟨c, rest, same, letter⟩
    exact .inr ⟨other, tokenAt_of_other other⟩

/-- The cut is inside the token that is found, or at one of its ends. -/
theorem tokenAt_eq_some (found : tokenAt back ahead = some (before, word)) :
    ∃ left right after, back.reverse = before ++ left ∧ ahead = right ++ after ∧
      word = left ++ right ∧ IsWord before after word := by
  rcases tokenAt_cases back ahead with ⟨c, rest, rfl, letter, same⟩ | ⟨_, same⟩
  · have letters : IsRun (c :: rest.takeWhile isWordChar) (rest.dropWhile isWordChar) := by
      refine ⟨List.cons_ne_nil _ _, ?_, fun d => head?_dropWhile⟩
      intro d member
      rcases List.mem_cons.mp member with rfl | member
      · exact letter
      · exact List.mem_takeWhile_imp member
    have around := letters.tokenAround_sigil back
    rw [List.cons_append, List.takeWhile_append_dropWhile, ← same, found] at around
    cases around
    refine ⟨[], _, _, (List.append_nil _).symm, ?_, rfl, .marked letters⟩
    rw [List.cons_append, List.cons_append, List.takeWhile_append_dropWhile]
  · exact tokenAround_eq_some (same ▸ found)

/-- There is no token at a cut that has no letter on either side and no sigil with a letter behind
it right ahead. -/
theorem tokenAt_eq_none_iff : tokenAt back ahead = none ↔
    (∀ c, back.head? = some c → isWordChar c = false) ∧
      (∀ c, ahead.head? = some c → isWordChar c = false) ∧
      ∀ c rest, ahead = sigil :: c :: rest → isWordChar c = false := by
  rcases tokenAt_cases back ahead with ⟨c, rest, rfl, letter, same⟩ | ⟨other, same⟩
  · rw [same, tokenAround_nil_iff]
    constructor
    · intro ⟨_, ahead⟩
      cases (ahead c rfl).symm.trans letter
    · intro ⟨_, _, ahead⟩
      cases (ahead c rest rfl).symm.trans letter
  · rw [same, tokenAround_nil_iff]
    exact ⟨fun bare => ⟨bare.1, bare.2, other⟩, fun bare => ⟨bare.1, bare.2.1⟩⟩

/-- A word is the token around every cut inside it. -/
theorem IsWord.tokenAt {left right : Text} (isWord : IsWord before after word)
    (whole : left ++ right = word) (inside : right ≠ []) :
    Text.tokenAt (before ++ left).reverse (right ++ after) = some (before, word) := by
  have led : ∀ {init run}, init ++ right = run → IsRun run after →
      ∀ c rest, right ++ after = sigil :: c :: rest → isWordChar c = false := by
    rintro init run rfl letters c rest same
    obtain ⟨d, more, rfl⟩ := List.exists_cons_of_ne_nil inside
    obtain ⟨rfl, _⟩ := List.cons.inj same
    have letter := letters.letters sigil (by simp)
    cases not_isWordChar_sigil.symm.trans letter
  cases isWord with
  | @marked run letters =>
      cases left with
      | nil =>
          obtain ⟨c, rest, same, letter⟩ := letters.exists_cons
          have around := letters.tokenAround_sigil before.reverse
          rw [List.nil_append] at whole
          rw [List.append_nil, whole, List.cons_append]
          rw [same, List.cons_append] at around ⊢
          rw [tokenAt_of_sigil letter, around, List.reverse_reverse]
      | cons c left =>
          obtain ⟨rfl, same⟩ := List.cons.inj whole
          have inner : ∀ d ∈ left, isWordChar d = true := by
            intro d member
            exact letters.letters d (same ▸ List.mem_append_left right member)
          rw [tokenAt_of_other (led same letters), List.reverse_append, List.reverse_cons,
            List.append_assoc, List.singleton_append, tokenAround_append inner, ← List.append_assoc]
          change left ++ right = run at same
          rw [same, letters.tokenAround_sigil, List.reverse_reverse]
  | plain letters front =>
      have inner : ∀ d ∈ left, isWordChar d = true := by
        intro d member
        exact letters.letters d (whole ▸ List.mem_append_left right member)
      rw [tokenAt_of_other (led whole letters), List.reverse_append, tokenAround_append inner,
        ← List.append_assoc, whole, letters.tokenAround_plain front]

theorem columnChars_cons (offset : Nat) (c : Char) (rest : Text) :
    columnChars n (c.utf8Size + offset) (c :: rest) =
      columnChars (if c = '\n' then 0 else n + 1) offset rest := by
  rw [columnChars, if_pos (by omega), Nat.add_sub_cancel_left]

theorem columnChars_above (begins : LineStart above) (offset : Nat) (rest : Text) :
    columnChars n (byteSize above + offset) (above ++ rest) =
      columnChars (if above = [] then n else 0) offset rest := by
  induction above generalizing n with
  | nil => simp
  | cons c above ih =>
      rw [byteSize_cons, Nat.add_assoc, List.cons_append, columnChars_cons, ih begins.of_cons,
        if_neg (List.cons_ne_nil c above)]
      by_cases last : above = []
      · subst last
        obtain rfl := begins.eq_newline
        rfl
      · rw [if_neg last]

theorem columnChars_front (unbroken : '\n' ∉ before) (rest : Text) :
    columnChars n (byteSize before) (before ++ rest) = n + before.length := by
  induction before generalizing n with
  | nil =>
      cases rest with
      | nil => rfl
      | cons c rest =>
          have size := c.utf8Size_pos
          simp only [byteSize_nil, List.nil_append, columnChars]
          rw [if_neg (by omega)]
          rfl
  | cons c before ih =>
      obtain ⟨other, later⟩ := List.ne_and_not_mem_of_not_mem_cons unbroken
      rw [byteSize_cons, List.cons_append, columnChars_cons, if_neg other.symm, ih later,
        List.length_cons]
      omega

/-- The column of a place is the number of characters that its line has before it. -/
theorem Row.columnChars_eq (row : Row t n above (front ++ back) below) :
    columnChars 0 (byteSize above + byteSize front) t = front.length := by
  have unbroken : '\n' ∉ front := fun newline => row.unbroken (List.mem_append_left back newline)
  rw [row.cut, List.append_assoc, List.append_assoc, columnChars_above row.start, ite_self,
    columnChars_front unbroken, Nat.zero_add]

/-- The columns of a word on a line. -/
def wordSpan (line : UInt32) (before word : Text) : Span :=
  ⟨⟨line, (units before).toUInt32⟩, ⟨line, (units before + units word).toUInt32⟩⟩

/-- The token at a column of a line, told in characters; none behind the line's end. -/
def tokenOn (line : Text) (column : Nat) : Option (Text × Text) :=
  if line.length < column then none else tokenAt (line.take column).reverse (line.drop column)

theorem tokenOn_eq_some {line : Text} (found : tokenOn line n = some (before, word)) :
    ∃ left right after, line = before ++ word ++ after ∧ n = (before ++ left).length ∧
      left ++ right = word ∧ IsWord before after word := by
  unfold tokenOn at found
  split at found
  · cases found
  · next within =>
      obtain ⟨left, right, after, behind, ahead, rfl, isWord⟩ := tokenAt_eq_some found
      rw [List.reverse_reverse] at behind
      refine ⟨left, right, after, ?_, ?_, rfl, isWord⟩
      · rw [← line.take_append_drop n, behind, ahead]
        simp only [List.append_assoc]
      · rw [← behind, List.length_take_of_le (Nat.not_lt.mp within)]

/-- The word at a position is the token on its line, less the returns that end it. -/
theorem Row.wordAt_eq (row : Row t n above (front ++ back) below)
    (placed : offsetAt? t p = some (byteSize above + byteSize front)) :
    wordAt t p = (tokenOn (dropTrailing isReturn (front ++ back)) front.length).map
      fun (before, word) => (word, wordSpan p.line before word) := by
  rw [wordAt, placed, Option.bind_eq_bind, Option.bind_some, row.lineAt?_front,
    Option.bind_eq_bind, Option.bind_some, row.columnChars_eq, tokenOn]
  dsimp only
  split
  · rfl
  · cases tokenAt ((dropTrailing isReturn (front ++ back)).take front.length).reverse
      ((dropTrailing isReturn (front ++ back)).drop front.length) <;> rfl

theorem dropTrailing_append {q : Char → Bool} {c : Char} (solid : q c = false)
    (front back : Text) :
    dropTrailing q (front ++ [c] ++ back) = front ++ [c] ++ dropTrailing q back := by
  have kept : (front ++ [c]).reverse.dropWhile q = (front ++ [c]).reverse := by
    apply dropWhile_of_front
    intro d first
    rw [List.reverse_append] at first
    cases first
    exact solid
  rw [dropTrailing, dropTrailing, List.reverse_append, List.dropWhile_append, kept]
  split
  · next none =>
      rw [List.isEmpty_iff.mp none]
      simp
  · simp

/-- Line `number` of `t` begins behind `above`, and `word` stands on it behind `before`. -/
structure WordOn (t : Text) (number : Nat) (above before word after : Text) : Prop where
  cut : t = above ++ before ++ word ++ after
  start : LineStart above
  count : above.count '\n' = number
  single : '\n' ∉ before
  isWord : IsWord before after word

theorem WordOn.row (on : WordOn t n above before word after) :
    Row t n above (before ++ word ++ restOfLine after) (after.dropWhile (· ≠ '\n')) := by
  obtain ⟨rfl, start, rfl, single, isWord⟩ := on
  have plain : ∀ c ∈ before ++ word, decide (c ≠ '\n') = true := by
    intro c member
    have unbroken := List.not_mem_append single isWord.unbroken
    simpa using ne_of_mem_of_not_mem member unbroken
  have row := Row.of_lineStart start (before ++ word ++ after)
  rw [restOfLine, List.takeWhile_append_of_pos plain, List.dropWhile_append_of_pos plain,
    ← List.append_assoc, ← List.append_assoc] at row
  exact row

theorem WordOn.fits (on : WordOn t n above before word after) (addressable : t.Addressable) :
    n < UInt32.size ∧ units before + units word < UInt32.size := by
  obtain ⟨line, column⟩ := addressable _ _ _ _ on.row
  rw [units_append, units_append] at column
  omega

/-- The columns of the places in a word and at its ends are found. -/
theorem WordOn.offsetAt? {left right : Text} (on : WordOn t n above before word after)
    (whole : left ++ right = word) (addressable : t.Addressable) :
    Text.offsetAt? t ⟨n.toUInt32, (units (before ++ left)).toUInt32⟩ =
      some (byteSize (above ++ before ++ left)) := by
  subst whole
  obtain ⟨row, column⟩ := on.fits addressable
  have unbroken := on.isWord.unbroken
  obtain ⟨rfl, start, rfl, single, _⟩ := on
  have inner : '\n' ∉ before ++ left :=
    List.not_mem_append single fun newline => unbroken (List.mem_append_left right newline)
  rw [units_append left right] at column
  have fits : units (before ++ left) < UInt32.size := by
    rw [units_append]
    omega
  have found := offsetAt?_boundary start inner row fits (right ++ after)
  rw [List.append_assoc above before left, byteSize_append, ← found]
  simp only [List.append_assoc]

theorem wordAt_eq_some (found : wordAt t p = some (word, span)) :
    ∃ above before after, WordOn t p.line.toNat above before word after ∧
      span = wordSpan p.line before word ∧
      ∃ left right, left ++ right = word ∧
        Text.offsetAt? t p = some (byteSize (above ++ before ++ left)) := by
  have placed : ∃ offset, Text.offsetAt? t p = some offset := by
    rw [wordAt, Option.bind_eq_bind, Option.bind_eq_some_iff] at found
    obtain ⟨offset, placed, _⟩ := found
    exact ⟨offset, placed⟩
  obtain ⟨offset, placed⟩ := placed
  obtain ⟨above, front, back, below, row, rfl, _⟩ := exists_row_of_offsetAt? placed
  rw [row.wordAt_eq placed, Option.map_eq_some_iff] at found
  obtain ⟨⟨before, word'⟩, token, same⟩ := found
  cases same
  obtain ⟨left, right, after, cut, column, rfl, isWord⟩ := tokenOn_eq_some token
  obtain ⟨trail, kept, returns⟩ := exists_dropTrailing_append isReturn (front ++ back)
  rw [cut, List.append_assoc, ← List.append_assoc before, List.append_assoc (before ++ left)]
    at kept
  obtain ⟨rfl, rfl⟩ := List.append_inj kept column
  refine ⟨above, before, after ++ (trail ++ below), ⟨?_, row.start, row.count, ?_, ?_⟩, rfl,
    left, right, rfl, ?_⟩
  · rw [row.cut]
    simp only [List.append_assoc]
  · intro newline
    apply row.unbroken
    simp [newline]
  · apply isWord.of_stop
    intro c first
    -- behind the line come returns, its break or nothing, none of which goes on with the word
    cases after with
    | cons d after => exact isWord.stop c first
    | nil =>
        cases trail with
        | cons d trail =>
            cases first
            rw [of_decide_eq_true (returns c List.mem_cons_self)]
            exact not_isWordChar_return
        | nil =>
            rw [row.stop c first]
            exact not_isWordChar_newline
  · rw [placed, List.append_assoc above, byteSize_append above]

/-- At a position in front of a part of a word, that word is found. -/
theorem WordOn.wordAt {left right : Text} (on : WordOn t n above before word after)
    (whole : left ++ right = word) (inside : right ≠ []) (addressable : t.Addressable) :
    Text.wordAt t ⟨n.toUInt32, (units (before ++ left)).toUInt32⟩ =
      some (word, wordSpan n.toUInt32 before word) := by
  have placed := on.offsetAt? whole addressable
  subst whole
  have row := on.row
  have isWord := on.isWord
  obtain ⟨init, c, same, letter⟩ := isWord.exists_last
  have solid : isReturn c = false := by
    apply decide_eq_false
    rintro rfl
    cases letter.symm.trans not_isWordChar_return
  have seen : dropTrailing isReturn (before ++ left ++ (right ++ restOfLine after)) =
      before ++ left ++ (right ++ dropTrailing isReturn (restOfLine after)) := by
    have kept := dropTrailing_append solid (before ++ init) (restOfLine after)
    simp only [List.append_assoc before init, ← same] at kept
    simpa only [List.append_assoc] using kept
  have token : IsWord before (dropTrailing isReturn (restOfLine after)) (left ++ right) := by
    apply isWord.of_stop
    intro d first
    obtain ⟨trail, kept, _⟩ := exists_dropTrailing_append isReturn (restOfLine after)
    apply isWord.stop
    rw [← after.takeWhile_append_dropWhile (p := (· ≠ '\n')), ← restOfLine, kept,
      List.head?_append, List.head?_append, first]
    rfl
  rw [← List.append_assoc before, List.append_assoc (before ++ left)] at row
  rw [List.append_assoc above, byteSize_append] at placed
  rw [row.wordAt_eq placed, seen, tokenOn, if_neg (by simp), List.take_left, List.drop_left,
    token.tokenAt rfl inside]
  rfl

end AutoItNav.Text

/-- The word under a cursor is the text of the identifier that it names. -/
theorem AutoItNav.Identifier.text_of_ofWord? {id : Identifier} {before word after : Text}
    (isWord : Text.IsWord before after word) (named : ofWord? word = some id) : id.text = word := by
  unfold ofWord? at named
  dsimp only at named
  split at named
  · cases named
    exact isWord.tight.trim_eq
  · cases named
