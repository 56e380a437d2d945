import AutoItNav.Proofs.Include.Marker
import AutoItNav.Proofs.Text.Pieces
import AutoItNav.Proofs.Text.Reading

/-!
The lines that hold a directive. Such a line falls into its parts in one way only: blanks, the
keyword in any case, blanks, and a target between two delimiters that is not blank and does not hold
the second one; whatever follows is free.
-/
namespace AutoItNav

open Text

namespace Text

variable {p : Char → Bool} {front back front' back' : Text}

theorem takeWhile_append_stop (all : ∀ c ∈ front, p c = true)
    (stop : ∀ c, back.head? = some c → p c = false) : (front ++ back).takeWhile p = front := by
  rw [List.takeWhile_append_of_pos all]
  cases back with
  | nil => simp
  | cons c back => simp [stop c rfl]

/-- A text is cut in one way only where its characters cease to satisfy `p`. -/
theorem append_stop_inj (all : ∀ c ∈ front, p c = true)
    (stop : ∀ c, back.head? = some c → p c = false) (all' : ∀ c ∈ front', p c = true)
    (stop' : ∀ c, back'.head? = some c → p c = false) (same : front ++ back = front' ++ back') :
    front = front' ∧ back = back' := by
  have first := congrArg (List.takeWhile p) same
  rw [takeWhile_append_stop all stop, takeWhile_append_stop all' stop'] at first
  subst first
  exact ⟨rfl, List.append_cancel_left same⟩

end Text

namespace Include

/-- The delimiters that a target may stand between. -/
inductive Quotes where
  | double
  | single
  | angle
deriving DecidableEq, Repr

namespace Quotes

def opening : Quotes → Char
  | double => '"'
  | single => '\''
  | angle => '<'

def closing : Quotes → Char
  | double => '"'
  | single => '\''
  | angle => '>'

def kind : Quotes → IncludeKind
  | double => .quoted
  | single => .quoted
  | angle => .library

/-- A directive for a target, written out. -/
def write (q : Quotes) (target : Text) : Text :=
  keyword ++ ' ' :: q.opening :: (target ++ [q.closing])

theorem opening_inj {q q' : Quotes} (same : q.opening = q'.opening) : q = q' := by
  cases q <;> cases q' <;> simp_all [opening]

end Quotes

theorem closing?_opening (q : Quotes) : closing? q.opening = some (q.closing, q.kind) := by
  cases q <;> rfl

theorem exists_quotes_of_closing? {c close : Char} {kind : IncludeKind}
    (closes : closing? c = some (close, kind)) :
    ∃ q : Quotes, c = q.opening ∧ close = q.closing ∧ kind = q.kind := by
  unfold closing? at closes
  split at closes
  · cases closes
    exact ⟨.double, rfl, rfl, rfl⟩
  · cases closes
    exact ⟨.single, rfl, rfl, rfl⟩
  · cases closes
    exact ⟨.angle, rfl, rfl, rfl⟩
  · cases closes

/-- No character but the letters themselves is folded to a letter of the keyword. -/
theorem lowerAscii_of_foldCase {a c : Char} (member : a ∈ keyword)
    (same : foldCase c = foldCase a) : lowerAscii c = a := by
  have plain : keyword.all (fun a => foldCase a = a ∧ lowerAscii a = a ∧ 0 < a.toNat ∧
      ∀ r ∈ foldRuns, r.target ≤ a.toNat → a.toNat ≤ r.target + (r.last - r.first) →
        r.first = 65 ∧ r.last = 90 ∧ r.target = 97) = true := by decide +kernel
  obtain ⟨fixed, lower, visible, runs⟩ := of_decide_eq_true (List.all_eq_true.mp plain a member)
  rw [fixed] at same
  rcases foldCase_eq_cases visible same with rfl | ⟨r, run, low, high, moved⟩
  · exact lower
  · obtain ⟨first, last, target⟩ := runs r run (by omega) (by omega)
    rw [first] at low moved
    rw [last] at high
    have upper : 'A' ≤ c ∧ c ≤ 'Z' :=
      ⟨UInt32.le_iff_toNat_le.mpr low, UInt32.le_iff_toNat_le.mpr high⟩
    have code : c.toNat + 32 = a.toNat := by omega
    rw [lowerAscii, if_pos upper, code, Char.ofNat_toNat]

/-- In any case the keyword has the spellings that it has in ASCII, and no others. -/
theorem reads_keyword_iff {word : Text} :
    Spelling.anyCase.Reads keyword word ↔ word.map lowerAscii = keyword := by
  have lower : ∀ (literal word : Text), literal ⊆ keyword →
      word.map foldCase = literal.map foldCase → word.map lowerAscii = literal := by
    intro literal word letters
    induction literal generalizing word with
    | nil => simp
    | cons a literal ih =>
        intro folded
        obtain ⟨first, later⟩ := List.cons_subset.mp letters
        cases word with
        | nil => cases folded
        | cons c word =>
            obtain ⟨same, rest⟩ := List.cons.inj folded
            rw [List.map_cons, lowerAscii_of_foldCase first same, ih word later rest]
  constructor
  · exact lower keyword word (List.Subset.refl _)
  · intro lowered
    have folded := congrArg (List.map foldCase) lowered
    rw [List.map_map] at folded
    rw [Spelling.Reads, ← folded]
    exact List.map_congr_left fun c _ => (foldCase_lowerAscii c).symm

/-- A line cut into the parts of a directive. -/
structure Cut where
  indent : Text
  word : Text
  gap : Text
  quotes : Quotes
  inside : Text
  rest : Text

namespace Cut

/-- The target between its delimiters, and what follows. -/
def quoted (cut : Cut) : Text :=
  cut.quotes.opening :: (cut.inside ++ cut.quotes.closing :: cut.rest)

def line (cut : Cut) : Text := cut.indent ++ (cut.word ++ (cut.gap ++ cut.quoted))

def directive (cut : Cut) (number : UInt32) : Include := ⟨trim cut.inside, cut.quotes.kind, number⟩

/-- Every part is what a directive has in its place. -/
structure Valid (cut : Cut) : Prop where
  indent : ∀ c ∈ cut.indent, isBlank c = true
  word : Spelling.anyCase.Reads keyword cut.word
  gap : ∀ c ∈ cut.gap, isBlank c = true
  closed : cut.quotes.closing ∉ cut.inside
  solid : ∃ c ∈ cut.inside, isBlank c = false

variable {cut cut' : Cut} {number : UInt32}

theorem Valid.length_word (valid : cut.Valid) : cut.word.length = keyword.length :=
  valid.word.length_eq

theorem Valid.not_blank_word (valid : cut.Valid) (more : Text) :
    ∀ c, (cut.word ++ more).head? = some c → isBlank c = false := by
  have spelled : cut.word.map lowerAscii = keyword.map lowerAscii :=
    (reads_keyword_iff.mp valid.word).trans (by decide)
  have first : cut.word.head? = some '#' := head?_of_spelled rfl spelled
  intro c front
  rw [List.head?_append, first] at front
  cases front
  decide

theorem not_blank_quoted (cut : Cut) : ∀ c, cut.quoted.head? = some c → isBlank c = false := by
  rintro c ⟨⟩
  cases cut.quotes <;> decide

/-- A line that is put together from valid parts is read as their directive. -/
theorem Valid.parseLine? (valid : cut.Valid) (number : UInt32) :
    Include.parseLine? cut.line number = some (cut.directive number) := by
  have start : trimStart cut.line = cut.word ++ (cut.gap ++ cut.quoted) :=
    trimStart_append_of_blank valid.indent (valid.not_blank_word _)
  have begins : beginsAscii keyword (cut.word ++ (cut.gap ++ cut.quoted)) = true := by
    rw [beginsAscii_iff, List.map_append, reads_keyword_iff.mp valid.word]
    exact List.prefix_append ..
  have behind : trimStart (cut.gap ++ cut.quoted) = cut.quoted :=
    trimStart_append_of_blank valid.gap cut.not_blank_quoted
  have inside := takeWhile_append_separator valid.closed cut.rest
  have solid : trim cut.inside ≠ [] := by
    rw [Ne, trim_eq_nil_iff]
    intro blank
    obtain ⟨c, member, other⟩ := valid.solid
    rw [blank c member] at other
    cases other
  rw [Include.parseLine?, start, begins, ← valid.length_word, List.drop_left, behind, quoted]
  simp only [closing?_opening, Option.bind_eq_bind, Option.bind_some, inside]
  simp [solid, directive]

/-- A line that is read as a directive is put together from valid parts. -/
theorem exists_of_parseLine? {text : Text} {d : Include}
    (parsed : Include.parseLine? text number = some d) :
    ∃ cut : Cut, cut.Valid ∧ cut.line = text ∧ d = cut.directive number := by
  unfold Include.parseLine? at parsed
  dsimp only at parsed
  split at parsed
  · cases parsed
  · next begins =>
      rw [Bool.not_eq_true, Bool.not_eq_false', beginsAscii_iff] at begins
      have word := List.prefix_iff_eq_take.mp begins
      rw [List.length_map, ← List.map_take] at word
      split at parsed
      · cases parsed
      · next opening behind found =>
          obtain ⟨⟨close, kind⟩, closes, parsed⟩ := Option.bind_eq_some_iff.mp parsed
          obtain ⟨q, rfl, rfl, rfl⟩ := exists_quotes_of_closing? closes
          dsimp only at parsed
          split at parsed
          · cases parsed
          · next complete =>
              rw [Bool.or_eq_true, not_or, decide_eq_true_eq, List.isEmpty_iff] at complete
              obtain ⟨inside, rest, rfl, closed⟩ := exists_append_separator complete.1
              rw [takeWhile_append_separator closed] at complete parsed
              have solid : ∃ c ∈ inside, isBlank c = false := by
                simpa [trim_eq_nil_iff] using complete.2
              cases parsed
              have reads := reads_keyword_iff.mpr (word.symm.trans (by decide))
              refine ⟨⟨text.takeWhile isBlank, (trimStart text).take keyword.length,
                ((trimStart text).drop keyword.length).takeWhile isBlank, q, inside, rest⟩,
                ⟨fun c => List.mem_takeWhile_imp, reads, fun c => List.mem_takeWhile_imp, closed,
                  solid⟩, ?_, rfl⟩
              change text.takeWhile isBlank ++ ((trimStart text).take keyword.length ++
                (((trimStart text).drop keyword.length).takeWhile isBlank ++
                  q.opening :: (inside ++ q.closing :: rest))) = text
              rw [← found, takeWhile_append_trimStart, List.take_append_drop,
                takeWhile_append_trimStart]

/-- A line has no two cuts into valid parts. -/
theorem Valid.unique (valid : cut.Valid) (valid' : cut'.Valid) (same : cut.line = cut'.line) :
    cut = cut' := by
  obtain ⟨indent, later⟩ := append_stop_inj valid.indent (valid.not_blank_word _) valid'.indent
    (valid'.not_blank_word _) same
  obtain ⟨word, later⟩ :=
    List.append_inj later (valid.length_word.trans valid'.length_word.symm)
  obtain ⟨gap, later⟩ := append_stop_inj valid.gap cut.not_blank_quoted valid'.gap
    cut'.not_blank_quoted later
  obtain ⟨opening, later⟩ := List.cons.inj later
  have quotes := Quotes.opening_inj opening
  have closed := valid'.closed
  rw [← quotes] at later closed
  obtain ⟨inside, rest⟩ := append_separator_inj valid.closed closed later
  cases cut
  cases cut'
  simp_all

end Cut

theorem Quotes.kind_eq_library_iff {q : Quotes} : q.kind = .library ↔ q = .angle := by
  cases q <;> decide

/-- A directive has its line's number and what the line says of its target and kind. -/
theorem Cut.eq_directive_iff {cut : Cut} {d : Include} {number : UInt32} :
    d = cut.directive number ↔ d.target = trim cut.inside ∧
      (d.kind = .library ↔ cut.quotes = .angle) ∧ d.line = number := by
  obtain ⟨target, kind, line⟩ := d
  rw [directive, Include.mk.injEq, ← Quotes.kind_eq_library_iff]
  cases kind <;> cases cut.quotes.kind <;> simp

theorem parseLine?_write (q : Quotes) {target : Text} (tight : Tight target)
    (inhabited : target ≠ []) (closed : q.closing ∉ target) (number : UInt32) :
    parseLine? (q.write target) number = some ⟨target, q.kind, number⟩ := by
  have solid : ∃ c ∈ target, isBlank c = false := by
    obtain ⟨c, rest, rfl⟩ := List.exists_cons_of_ne_nil inhabited
    exact ⟨c, List.mem_cons_self, tight.front c rfl⟩
  have valid : Cut.Valid ⟨[], keyword, [' '], q, target, []⟩ :=
    ⟨List.forall_mem_nil _, Spelling.reads_self .anyCase keyword, List.forall_mem_singleton.mpr rfl,
      closed, solid⟩
  have parsed := valid.parseLine? number
  rw [Cut.directive, tight.trim_eq] at parsed
  exact parsed

/-- A line holds a directive exactly if it consists of the parts of one, which it determines, and a
directive that is written out with a trimmed target is read back. -/
theorem parseLine?_grammar (text : Text) (number : UInt32) :
    (∀ d, parseLine? text number = some d ↔
        ∃ cut : Cut, cut.line = text ∧ cut.Valid ∧ d.target = trim cut.inside ∧
          (d.kind = .library ↔ cut.quotes = .angle) ∧ d.line = number) ∧
      (∀ cut cut' : Cut, cut.line = text → cut'.line = text → cut.Valid → cut'.Valid →
        cut = cut') ∧
      ∀ (q : Quotes) (target : Text), Tight target → target ≠ [] → q.closing ∉ target →
        parseLine? (q.write target) number = some ⟨target, q.kind, number⟩ := by
  refine ⟨?_, ?_, ?_⟩
  · intro d
    constructor
    · intro parsed
      obtain ⟨cut, valid, same, directive⟩ := Cut.exists_of_parseLine? parsed
      exact ⟨cut, same, valid, Cut.eq_directive_iff.mp directive⟩
    · rintro ⟨cut, rfl, valid, parts⟩
      rw [valid.parseLine?, Cut.eq_directive_iff.mpr parts]
  · intro cut cut' same same' valid valid'
    exact valid.unique valid' (same.trans same'.symm)
  · intro q target tight inhabited closed
    exact parseLine?_write q tight inhabited closed number

/-- A target with all other delimiters in it, between blanks, and one more delimiter behind it. -/
theorem parseLine?_grammar_nested :
    let cut : Cut :=
      ⟨['\u00A0'], "#InClUdE".toList, [], .angle, " it's <\"x\" ".toList, " > '".toList⟩
    let target := "it's <\"x\"".toList
    cut.Valid ∧ parseLine? cut.line 7 = some ⟨target, .library, 7⟩ ∧
      (∀ cut' : Cut, cut'.line = cut.line → cut'.Valid → cut' = cut) ∧
      Tight target ∧ target ≠ [] ∧ Quotes.angle.closing ∉ target ∧
      parseLine? (Quotes.angle.write target) 7 = some ⟨target, .library, 7⟩ := by
  intro cut target
  have valid : cut.Valid :=
    ⟨List.forall_mem_singleton.mpr (by decide), reads_keyword_iff.mpr (by decide),
      List.forall_mem_nil _, by decide, 'x', by decide, by decide⟩
  have tight : Tight target := by decide
  have inhabited : target ≠ [] := by decide
  have closed : Quotes.angle.closing ∉ target := by decide
  obtain ⟨parsed, unique, _⟩ := parseLine?_grammar cut.line 7
  obtain ⟨_, _, written⟩ := parseLine?_grammar [] 7
  refine ⟨valid, ?_, ?_, tight, inhabited, closed, written .angle target tight inhabited closed⟩
  · exact (parsed _).mpr ⟨cut, rfl, valid, by decide, by decide, rfl⟩
  · exact fun cut' same valid' => unique cut' cut same rfl valid' valid

end Include

end AutoItNav
