import AutoItNav.Declaration.Search
import AutoItNav.Proofs.Declaration.First
import AutoItNav.Proofs.Declaration.Reach

/-!
What the pattern of declarations captures. Read construct by construct, its first way is the
declaration that a walk along the line comes to first, so an attempt at a line that is not aborted
captures that declaration.
-/
namespace AutoItNav

namespace Declaration

open Regex Spot

variable {s : Spelling} {α : Type} {p : Spot} {here : Nat} {name : Text}

theorem has_gapSet : gapSet.has = isGap := by
  funext c
  simp [gapSet, CharSet.has, ClassItem.has, isGap]

theorem holds_nextBlockEnd (s : Spelling) (t : Text) :
    nextBlockEnd.holds s t = insideBlock s t := by
  have set : (CharSet.noneOf [.char '#']).has = fun c => decide (c ≠ '#') := by
    funext c
    simp [CharSet.has, ClassItem.has]
  simp [nextBlockEnd, Look.holds, set, insideBlock, closesBlock]

theorem holds_commentStart (s : Spelling) (t : Text) :
    commentStart.holds s t = opensComment s t := by
  rw [Bool.eq_iff_iff, opensComment_iff]
  simp [commentStart, Look.holds, OpensComment, Spelling.begins_iff]

/-- The declaration with this head at byte `start`. -/
def Head.placed (h : Head) (start : Nat) : Declaration := ⟨start, h.keyword, h.name⟩

/-- What is captured when a pattern has been read and no block ends next. -/
def answer (s : Spelling) (here start : Nat) (p : Spot) : Option (Option Declaration) :=
  if insideBlock s p.ahead then none
  else some (Identifier.declarationOf? here (p.capture .declaration start))

theorem first?_literal_exact (literal : Text) (next : Spot → Option α) :
    first? .exact (.literal literal) next p =
      (Spelling.exact.after? literal p.ahead).bind fun rest => next (p.past literal rest) := by
  rw [first?_literal, read?_eq]
  cases found : Spelling.exact.after? literal p.ahead with
  | none => rfl
  | some rest =>
      rw [after?_exact] at found
      rw [Option.map_some, Option.bind_some, Option.bind_some, found, List.take_left]

theorem tight_literal_gap {literal : Text} {next : Spot → Option α} (inhabited : literal ≠ [])
    (solid : ∀ c, literal.head? = some c → isGap c = false) :
    Tight gapSet (first? s (.literal literal) next) := by
  apply tight_literal inhabited
  intro c inside a front
  rw [has_gapSet, isGap_iff] at inside
  by_contra same
  rw [Bool.not_eq_false] at same
  have equal : a = c := by
    rcases inside with rfl | rfl <;> exact Spelling.eq_of_same_text (by decide) (by decide) same
  subst equal
  have gap := isGap_iff.mpr inside
  rw [solid a front] at gap
  cases gap

/-- A name is not read in front of a blank. -/
theorem tight_named {next : Spot → Option α} (inhabited : name ≠ [])
    (solid : ∀ c, name.head? = some c → isGap c = false) (behind : Regex) :
    Tight gapSet (first? s (.seq (.capture .name (.literal name)) behind) next) := by
  intro p c t front inside
  rw [first?_seq, first?_capture]
  exact tight_literal_gap inhabited solid p c t front inside

theorem first?_functionRegex (solid : ∀ c, name.head? = some c → isGap c = false)
    (inhabited : name ≠ []) :
    first? .exact (functionRegex name) (answer .exact here p.offset) p =
      (functionHead? name p.ahead).map fun h => some (h.placed (here + p.offset)) := by
  have opened : ∀ next : Spot → Option (Option Declaration),
      Tight gapSet (first? .exact (.literal ['(']) next) := by
    intro next
    apply tight_literal_gap (by simp)
    rintro c ⟨⟩
    rfl
  have named : ∀ next : Spot → Option (Option Declaration),
      Tight gapSet fun q => first? .exact (openedRegex name) next (q.capture .keyword p.offset) :=
    fun next => (tight_named inhabited solid _).captured .keyword p.offset
  rw [functionRegex, first?_seq, first?_capture, first?_seq, first?_literal_exact, functionHead?]
  cases keyword : Spelling.exact.after? funcKeyword p.ahead with
  | none => rfl
  | some spaced =>
      simp only [Option.bind_some, Option.bind_eq_bind]
      rw [(named _).first?_plus, openedRegex, first?_seq, first?_capture, first?_literal_exact]
      simp only [has_gapSet, ahead_past, ahead_capture]
      split
      · rfl
      · cases spelled : Spelling.exact.after? name (spaced.dropWhile isGap) with
        | none => rfl
        | some rest =>
            simp only [Option.bind_some]
            rw [first?_seq, (opened _).first?_star, first?_literal_exact]
            simp only [has_gapSet, ahead_past, ahead_capture]
            cases Spelling.exact.after? ['('] (rest.dropWhile isGap) with
            | none => rfl
            | some body =>
                simp only [Option.bind_some, answer, ahead_past]
                split
                · next inside => exact if_pos inside
                · next outside =>
                    have size := byteSize_gap (gap_takeWhile spaced)
                    have func : Text.byteSize funcKeyword = funcKeyword.length := rfl
                    refine (if_neg outside).trans ?_
                    simp [Identifier.declarationOf?, captured?_capture_of_ne, Captured.size, size,
                      func, Head.placed]
                    omega

/-- Behind a name the rest of the line can be read up to any place, so all that matters is whether
one of them is outside a block. -/
theorem first?_tailRegex {next : Spot → Option α} {value : α} {t : Text} (front : p.ahead = t)
    (uniform : ∀ q, p.Along q → next q = if insideBlock .anyCase q.ahead then none else some value) :
    first? .anyCase tailRegex next p =
      if leavesBlock .anyCase t then some value else none := by
  subst front
  have stays : Stays .anyCase tailRegex := by
    have gap : gapSet.has '\n' = false := by decide
    have index : indexSet.has '\n' = false := by decide +kernel
    have opened : Stays .anyCase (.literal ['[']) := stays_literal (by decide)
    have closed : Stays .anyCase (.literal [']']) := stays_literal (by decide)
    have assigned : Stays .anyCase (.literal ['=']) := stays_literal (by decide)
    have bracketed := opened.seq ((stays_plus index).seq closed)
    exact (Stays.optional (r := .group _) bracketed).seq
      ((stays_star gap).seq (assigned.optional.seq (stays_star rfl)))
  have all : ∀ line rest, p.ahead = line ++ rest → '\n' ∉ line →
      p.past line rest ∈ ways .anyCase tailRegex p := by
    intro line rest cut unbroken
    have inline : ∀ c ∈ line, CharSet.inLine.has c = true := by
      intro c member
      have other : c ≠ '\n' := by
        rintro rfl
        exact unbroken member
      simpa [CharSet.has] using other
    have here : p.past [] p.ahead ∈ ways .anyCase (.star gapSet) p := mem_ways_star rfl (by simp)
    apply mem_ways_seq (mem_ways_optional _ p)
    apply mem_ways_seq here
    apply mem_ways_seq (mem_ways_optional _ _)
    exact mem_ways_star cut inline
  have answers : ∀ q ∈ ways .anyCase tailRegex p,
      next q = if insideBlock .anyCase q.ahead = false then some value else none := by
    intro q member
    rw [uniform q (stays p q member)]
    cases insideBlock .anyCase q.ahead <;> rfl
  rw [first?_eq_ite answers]
  apply if_congr _ rfl rfl
  rw [leavesBlock_iff]
  constructor
  · rintro ⟨q, member, outside⟩
    obtain ⟨line, cut, unbroken, _⟩ := stays p q member
    exact ⟨line, q.ahead, cut, unbroken, insideBlock_iff.mp outside⟩
  · rintro ⟨line, ahead, cut, unbroken, outside⟩
    exact ⟨_, all line ahead cut unbroken, insideBlock_iff.mpr outside⟩

theorem first?_wholeRegex {start : Nat} (inhabited : name ≠ []) :
    first? .anyCase (wholeRegex name) (answer .anyCase here start) p =
      (namedHead? name (((p.captured? .keyword).map Captured.size).getD 0) p.ahead).map
        fun h => some (h.placed (here + start)) := by
  rw [wholeRegex, first?_seq, first?_capture, first?_literal, read?_eq, namedHead?]
  cases found : Spelling.anyCase.after? name p.ahead with
  | none => rfl
  | some rest =>
      simp only [Option.map_some, Option.bind_some, Option.bind_eq_bind]
      have edge : ((p.past (p.ahead.take name.length) rest).capture .name p.offset).atWordEdge =
          wordBreak (p.ahead.take name.length) rest := by
        obtain ⟨spelled, cut, reads⟩ := Spelling.after?_eq_some_iff.mp found
        have taken : p.ahead.take name.length = spelled := by
          rw [cut, ← reads.length_eq, List.take_left]
        have some : spelled ≠ [] := by
          rintro rfl
          exact inhabited (List.length_eq_zero_iff.mp reads.length_eq.symm)
        rw [taken]
        simp [atWordEdge, Spot.capture, past, wordBreak, List.getLast?_eq_getLast_of_ne_nil some]
      have front : ((p.past (p.ahead.take name.length) rest).capture .name p.offset).ahead = rest :=
        rfl
      have uniform : ∀ q,
          ((p.past (p.ahead.take name.length) rest).capture .name p.offset).Along q →
            answer .anyCase here start q = if insideBlock .anyCase q.ahead then none else
              some (some ⟨here + start, ((p.captured? .keyword).map Captured.size).getD 0,
                Text.byteSize (p.ahead.take name.length)⟩) := by
        rintro q ⟨line, cut, unbroken, same⟩
        rw [answer]
        apply if_congr Iff.rfl rfl
        rw [same]
        simp [Identifier.declarationOf?, captured?_capture_of_ne, Captured.size]
      rw [first?_seq, first?_wordEdge, edge, first?_tailRegex front uniform]
      cases wordBreak (p.ahead.take name.length) rest <;> cases leavesBlock .anyCase rest <;> rfl

theorem findSome?_bind_of_unique {β γ δ : Type} {l : List β} {f : β → Option γ}
    {g : γ → Option δ} (distinct : l.Nodup)
    (unique : ∀ a ∈ l, ∀ b ∈ l, (f a).isSome → (f b).isSome → a = b) :
    (l.findSome? fun a => (f a).bind g) = (l.findSome? f).bind g := by
  induction l with
  | nil => rfl
  | cons a l ih =>
      obtain ⟨fresh, distinct⟩ := List.nodup_cons.mp distinct
      have later := ih distinct fun b inside c inside' =>
        unique b (List.mem_cons_of_mem a inside) c (List.mem_cons_of_mem a inside')
      rw [List.findSome?_cons, List.findSome?_cons]
      cases found : f a with
      | none => exact later
      | some value =>
          have others : ∀ b ∈ l, f b = none := by
            intro b inside
            rw [← Option.not_isSome_iff_eq_none]
            intro other
            have same := unique a List.mem_cons_self b (List.mem_cons_of_mem a inside)
              (by simp [found]) other
            exact fresh (same ▸ inside)
          have none : (l.findSome? fun b => (f b).bind g) = none := by
            apply List.findSome?_eq_none_iff.mpr
            intro b inside
            rw [others b inside]
            rfl
          rw [none]
          simp only [Option.bind_some]
          cases g value <;> rfl

/-- A scope keyword right at the start of the text, with the blanks behind it. -/
theorem first?_scopeRegex {next : Spot → Option α} (tight : Tight gapSet next) :
    first? .anyCase scopeRegex next p = scopeKeywords.findSome? fun keyword =>
      (Spelling.anyCase.after? keyword p.ahead).bind fun behind =>
        next (p.past (p.ahead.take keyword.length ++ behind.takeWhile isGap)
          (behind.dropWhile isGap)) := by
  have one : ∀ keyword, first? .anyCase (.literal keyword) (first? .anyCase (.star gapSet) next) p =
      (Spelling.anyCase.after? keyword p.ahead).bind fun behind =>
        next (p.past (p.ahead.take keyword.length ++ behind.takeWhile isGap)
          (behind.dropWhile isGap)) := by
    intro keyword
    rw [first?_literal, read?_eq]
    cases Spelling.anyCase.after? keyword p.ahead with
    | none => rfl
    | some behind =>
        simp only [Option.map_some, Option.bind_some]
        rw [tight.first?_star, past_past, has_gapSet, ahead_past]
  rw [scopeRegex, first?_seq, first?_group, first?_either, first?_either, one, one, one]
  simp [scopeKeywords, findSome?_cons_or]

theorem first?_variableRegex (marked : name.head? = some sigil)
    (fresh : p.captured? .keyword = none) :
    first? .anyCase (variableRegex name) (answer .anyCase here p.offset) p =
      (variableHead? name p.ahead).map fun h => some (h.placed (here + p.offset)) := by
  have inhabited : name ≠ [] := by
    rintro rfl
    cases marked
  have solid : ∀ c, name.head? = some c → isGap c = false := by
    rw [marked]
    rintro c ⟨⟩
    decide
  have tight : Tight gapSet fun q => first? .anyCase (wholeRegex name)
      (answer .anyCase here p.offset) (q.capture .keyword p.offset) :=
    (tight_named inhabited solid _).captured .keyword p.offset
  have keyed : first? .anyCase (.capture .keyword scopeRegex)
      (first? .anyCase (wholeRegex name) (answer .anyCase here p.offset)) p =
        (scopeKeyword? p.ahead).bind fun scope =>
          (namedHead? name scope.1 scope.2).map fun h => some (h.placed (here + p.offset)) := by
    rw [first?_capture, first?_scopeRegex tight, scopeKeyword?, ← findSome?_bind_of_unique]
    · congr
      funext keyword
      rw [keywordAt?]
      cases Spelling.anyCase.after? keyword p.ahead with
      | none => rfl
      | some behind =>
          have size := byteSize_gap (gap_takeWhile behind)
          simp [first?_wholeRegex inhabited, Captured.size, size]
    · decide
    · intro a inside b inside' found found'
      exact scopeKeywords_unique inside inside' (isSome_keywordAt?.mp found)
        (isSome_keywordAt?.mp found')
  rw [variableRegex, first?_seq, first?_optional, keyed, first?_wholeRegex inhabited, fresh,
    variableHead?]
  cases scopeKeyword? p.ahead with
  | none => rfl
  | some scope =>
      obtain ⟨n, rest⟩ := scope
      dsimp only [Option.bind_some]
      cases namedHead? name n rest <;> rfl

end Declaration

namespace Identifier

open Declaration Regex Spot

variable {id : Identifier} {here : Nat} {p : Spot} {line : Text} {found : Option Declaration}

theorem first?_declarationRegex (fresh : p.captured? .keyword = none) :
    first? id.spelling (.seq id.declarationRegex (.notAhead nextBlockEnd))
        (fun q => some (declarationOf? here q)) p =
      (id.head? p.ahead).map fun h => some (h.placed (here + p.offset)) := by
  have body : ∀ r : Regex, first? id.spelling (.seq (.capture .declaration r) (.notAhead nextBlockEnd))
      (fun q => some (declarationOf? here q)) p =
        first? id.spelling r (answer id.spelling here p.offset) p := by
    intro r
    rw [first?_seq, first?_capture]
    congr
    funext q
    rw [first?_notAhead, holds_nextBlockEnd]
    rfl
  rw [declarationRegex, body, head?, spelling]
  match kind : id.kind with
  | .variable => exact first?_variableRegex (head?_of_variable kind) fresh
  | .function => exact first?_functionRegex id.solid id.text_ne_nil

/-- Trying the places of a line from left to right is the walk along it, with a stop where a comment
opens. -/
theorem findSome?_lazyWays {t : Text} (front : p.ahead = t) (fresh : p.captured = []) :
    (lazyWays id.spelling (some commentStart) (.noneOf [.char '\n']) t p).findSome?
        (first? id.spelling (.seq id.declarationRegex (.notAhead nextBlockEnd))
          fun q => some (declarationOf? here q)) =
      (id.declarationOnLine? (here + p.offset) t).map some := by
  induction t generalizing p with
  | nil =>
      rw [lazyWays, findSome?_cons_or, first?_declarationRegex (by simp [captured?, fresh]), front]
      have none : id.head? [] = none := by
        rw [Option.eq_none_iff_forall_ne_some]
        intro h found
        exact id.not_occurs_nil (head?_eq_some_iff.mp found).occurs
      rw [none]
      rfl
  | cons c t ih =>
      rw [lazyWays, findSome?_cons_or, first?_declarationRegex (by simp [captured?, fresh]), front,
        declarationOnLine?]
      cases id.head? (c :: t) with
      | some h => rfl
      | none =>
          have stop : ((some commentStart).any (·.holds id.spelling (c :: t)) ||
              !(CharSet.noneOf [.char '\n']).has c) =
                (opensComment id.spelling (c :: t) || decide (c = '\n')) := by
            simp [holds_commentStart, CharSet.has, ClassItem.has]
          rw [stop]
          dsimp only [Option.map_none, Option.none_or]
          split
          · rfl
          · have later := ih (p := p.next) (by rw [next_eq front]; rfl)
              (by rw [next_eq front]; exact fresh)
            rw [later, next_eq front]
            simp [Nat.add_assoc]

theorem first?_regex (id : Identifier) (here : Nat) (line : Text) :
    first? id.spelling id.regex (fun q => some (declarationOf? here q)) (.start line) =
      some (id.declarationOnLine? here line) := by
  have walk : first? id.spelling (.lazyStar (some commentStart) (.noneOf [.char '\n']))
      (first? id.spelling (.seq id.declarationRegex (.notAhead nextBlockEnd))
        fun q => some (declarationOf? here q)) (.start line) =
          (id.declarationOnLine? here line).map some := findSome?_lazyWays rfl rfl
  have first : (Spot.start line).offset = 0 := rfl
  rw [regex, first?_seq, first?_textStart, if_pos first, first?_group, first?_either, first?_seq,
    first?_empty, walk]
  cases id.declarationOnLine? here line <;> rfl

/-- An attempt that is not aborted finds the first declaration on the line. -/
theorem tryLine_eq_ok (answer : id.tryLine here line = .ok found) :
    found = id.declarationOnLine? here line := by
  have first := first?_map (s := id.spelling) (p := .start line) (declarationOf? here) id.regex
  rw [first?_regex] at first
  obtain ⟨p, matched, same⟩ := Option.map_eq_some_iff.mp first.symm
  rw [tryLine] at answer
  cases searched : id.regex.search id.spelling line with
  | error e =>
      rw [searched] at answer
      cases answer
  | ok place =>
      rw [searched, search_eq_ok searched matched] at answer
      rw [← same]
      exact (Except.ok.inj answer).symm

end Identifier

end AutoItNav
