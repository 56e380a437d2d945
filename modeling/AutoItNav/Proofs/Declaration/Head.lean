import AutoItNav.Proofs.Declaration.Comment
import AutoItNav.Proofs.Identifier
import Mathlib.Data.List.Basic
import Mathlib.Data.List.TakeWhile
import Mathlib.Data.Option.Basic

/-!
What the tests for the start of a declaration mean. A text begins with a declaration when it can be
cut into keyword, blanks, name and the rest in the way that the declaration is written.
-/
namespace AutoItNav.Declaration

def isGap (c : Char) : Bool := c = ' ' || c = '\t'

/-- Bytes of the keyword with the blanks behind it, and of the name as it is spelled. -/
structure Head where
  keyword : Nat
  name : Nat
deriving DecidableEq, Repr

def scopeKeywords : List Text := [localKeyword, globalKeyword, constKeyword]

def functionHead? (name t : Text) : Option Head := do
  let behind ← Spelling.exact.after? funcKeyword t
  let gap := behind.takeWhile isGap
  if gap.isEmpty then none
  else
    let behind ← Spelling.exact.after? name (behind.dropWhile isGap)
    let body ← Spelling.exact.after? ['('] (behind.dropWhile isGap)
    if insideBlock .exact body then none
    else some ⟨funcKeyword.length + gap.length, Text.byteSize name⟩

/-- Whether a word ends between the text read last and the text ahead. -/
def wordBreak (read ahead : Text) : Bool :=
  (read.getLast?.any isBoundaryWord) != (ahead.head?.any isBoundaryWord)

def namedHead? (name : Text) (keyword : Nat) (t : Text) : Option Head := do
  let rest ← Spelling.anyCase.after? name t
  let spelled := t.take name.length
  if wordBreak spelled rest && leavesBlock .anyCase rest then some ⟨keyword, Text.byteSize spelled⟩
  else none

/-- A keyword with the blanks behind it: its bytes and the text after it. -/
def keywordAt? (t keyword : Text) : Option (Nat × Text) := do
  let behind ← Spelling.anyCase.after? keyword t
  let gap := behind.takeWhile isGap
  some (Text.byteSize (t.take keyword.length) + gap.length, behind.dropWhile isGap)

def scopeKeyword? (t : Text) : Option (Nat × Text) := scopeKeywords.findSome? (keywordAt? t)

def variableHead? (name t : Text) : Option Head :=
  match scopeKeyword? t with
  | some (keyword, rest) => namedHead? name keyword rest <|> namedHead? name 0 t
  | none => namedHead? name 0 t

variable {name t : Text} {h : Head}

/-- Spaces and tabs only. -/
def Gap (t : Text) : Prop := ∀ c ∈ t, c = ' ' ∨ c = '\t'

/-- A word ends between the text read last and the text ahead: the characters on the two sides are
not both inside words and not both outside. -/
def WordBoundary (read ahead : Text) : Prop :=
  ¬((∃ c, read.getLast? = some c ∧ isBoundaryWord c) ↔
    ∃ c, ahead.head? = some c ∧ isBoundaryWord c)

/-- Keyword, blanks, the name and an opening parenthesis, outside a block. -/
def FunctionHead (name t : Text) (h : Head) : Prop :=
  ∃ gap space body, t = funcKeyword ++ gap ++ name ++ space ++ '(' :: body ∧
    gap ≠ [] ∧ Gap gap ∧ Gap space ∧ OutsideBlock .exact body ∧
    h = ⟨Text.byteSize (funcKeyword ++ gap), Text.byteSize name⟩

/-- The name as a whole word, up to case and with some place behind it on the line outside a
block. -/
def NamedHead (name : Text) (keyword : Nat) (t : Text) (h : Head) : Prop :=
  ∃ spelled after, t = spelled ++ after ∧ Spelling.anyCase.Reads name spelled ∧
    WordBoundary spelled after ∧
    (∃ line ahead, after = line ++ ahead ∧ '\n' ∉ line ∧ OutsideBlock .anyCase ahead) ∧
    h = ⟨keyword, Text.byteSize spelled⟩

/-- A scope keyword up to case. -/
def ScopeKeyword (keyword : Text) : Prop :=
  ∃ literal ∈ scopeKeywords, Spelling.anyCase.Reads literal keyword

/-- The name, with or without a scope keyword and blanks in front. -/
def VariableHead (name t : Text) (h : Head) : Prop :=
  ∃ keyword gap rest, t = keyword ++ gap ++ rest ∧
    (keyword = [] ∧ gap = [] ∨ ScopeKeyword keyword ∧ Gap gap) ∧
    NamedHead name (Text.byteSize (keyword ++ gap)) rest h

theorem isGap_iff {c : Char} : isGap c = true ↔ c = ' ' ∨ c = '\t' := by
  simp [isGap]

theorem gap_takeWhile (t : Text) : Gap (t.takeWhile isGap) := by
  intro c member
  exact isGap_iff.mp (List.mem_takeWhile_imp member)

theorem gap_replicate (n : Nat) : Gap (List.replicate n ' ') := by
  intro c member
  exact .inl (List.eq_of_mem_replicate member)

theorem span_gap {gap rest : Text} (blank : Gap gap)
    (tight : ∀ c, rest.head? = some c → isGap c = false) :
    (gap ++ rest).takeWhile isGap = gap ∧ (gap ++ rest).dropWhile isGap = rest := by
  have inside : ∀ c ∈ gap, isGap c = true := fun c member => isGap_iff.mpr (blank c member)
  rw [List.takeWhile_append_of_pos inside, List.dropWhile_append_of_pos inside]
  cases rest with
  | nil => simp
  | cons c rest => simp [tight c rfl]

theorem byteSize_gap {gap : Text} (blank : Gap gap) : Text.byteSize gap = gap.length := by
  induction gap with
  | nil => rfl
  | cons c gap ih =>
      have one : c.utf8Size = 1 := by
        rcases blank c List.mem_cons_self with rfl | rfl <;> rfl
      have rest := ih fun d member => blank d (List.mem_cons_of_mem c member)
      rw [Text.byteSize_cons, one, rest, List.length_cons, Nat.add_comm]

theorem Gap.unbroken {gap : Text} (blank : Gap gap) : '\n' ∉ gap := by
  intro newline
  rcases blank '\n' newline with same | same <;> cases same

theorem after?_exact {literal rest : Text} :
    Spelling.exact.after? literal t = some rest ↔ t = literal ++ rest := by
  rw [Spelling.after?_eq_some_iff]
  constructor
  · rintro ⟨_, rfl, rfl⟩
    rfl
  · rintro rfl
    exact ⟨literal, rfl, rfl⟩

theorem functionHead?_eq_some_iff (tight : ∀ c, name.head? = some c → isGap c = false)
    (inhabited : name ≠ []) : functionHead? name t = some h ↔ FunctionHead name t h := by
  have kept : ∀ rest c, (name ++ rest).head? = some c → isGap c = false := by
    intro rest c front
    rw [List.head?_append_of_ne_nil _ inhabited] at front
    exact tight c front
  simp only [functionHead?, Option.bind_eq_bind, Option.bind_eq_some_iff, after?_exact]
  constructor
  · rintro ⟨behind, rfl, found⟩
    split at found
    · cases found
    · next some =>
        simp only [Option.bind_eq_some_iff, after?_exact] at found
        obtain ⟨rest, named, body, opened, found⟩ := found
        split at found
        · cases found
        · next outside =>
            refine ⟨behind.takeWhile isGap, rest.takeWhile isGap, body, ?_, ?_,
              gap_takeWhile behind, gap_takeWhile rest, ?_, ?_⟩
            · have parts : rest = rest.takeWhile isGap ++ '(' :: body := by
                conv => lhs; rw [← rest.takeWhile_append_dropWhile (p := isGap), opened]
                rfl
              simp only [List.append_assoc]
              rw [← parts, ← named, List.takeWhile_append_dropWhile]
            · simpa using some
            · exact insideBlock_iff.mp (by simpa using outside)
            · rw [Text.byteSize_append, byteSize_gap (gap_takeWhile behind)]
              exact (Option.some.inj found).symm
  · rintro ⟨gap, space, body, rfl, some, blank, blank', outside, rfl⟩
    obtain ⟨spaced, behind⟩ := span_gap blank (kept (space ++ '(' :: body))
    have opened : (space ++ '(' :: body).dropWhile isGap = '(' :: body :=
      (span_gap blank' (by rintro c ⟨⟩; rfl)).2
    refine ⟨gap ++ (name ++ (space ++ '(' :: body)), by simp, ?_⟩
    rw [spaced, behind, if_neg (by simpa using some)]
    simp only [Option.bind_eq_some_iff, after?_exact]
    refine ⟨space ++ '(' :: body, rfl, body, by rw [opened]; rfl, ?_⟩
    rw [insideBlock_iff.mpr outside, Text.byteSize_append, byteSize_gap blank]
    rfl

theorem wordBreak_iff {read ahead : Text} :
    wordBreak read ahead = true ↔ WordBoundary read ahead := by
  have side : ∀ o : Option Char, (∃ c, o = some c ∧ isBoundaryWord c = true) ↔
      o.any isBoundaryWord = true := by
    intro o
    cases o <;> simp
  rw [wordBreak, WordBoundary, side, side, bne_iff_ne, Ne, Bool.eq_iff_iff]

instance (read ahead : Text) : Decidable (WordBoundary read ahead) :=
  decidable_of_iff _ wordBreak_iff

theorem namedHead?_eq_some_iff {keyword : Nat} :
    namedHead? name keyword t = some h ↔ NamedHead name keyword t h := by
  simp only [namedHead?, Option.bind_eq_bind, Option.bind_eq_some_iff, Spelling.after?_eq_some_iff]
  constructor
  · rintro ⟨after, ⟨spelled, rfl, reads⟩, found⟩
    have taken : (spelled ++ after).take name.length = spelled := by
      rw [← reads.length_eq, List.take_left]
    rw [taken] at found
    split at found
    · next holds =>
        rw [Bool.and_eq_true, wordBreak_iff, leavesBlock_iff] at holds
        exact ⟨spelled, after, rfl, reads, holds.1, holds.2, (Option.some.inj found).symm⟩
    · cases found
  · rintro ⟨spelled, after, rfl, reads, boundary, leaves, rfl⟩
    have taken : (spelled ++ after).take name.length = spelled := by
      rw [← reads.length_eq, List.take_left]
    refine ⟨after, ⟨spelled, rfl, reads⟩, ?_⟩
    rw [taken, wordBreak_iff.mpr boundary, leavesBlock_iff.mpr leaves]
    rfl

theorem fold_head_eq {a b : Char} {l m : Text} (left : Spelling.anyCase.Begins (a :: l) t)
    (right : Spelling.anyCase.Begins (b :: m) t) : foldCase a = foldCase b := by
  obtain ⟨spelled, rest, rfl, reads⟩ := left
  obtain ⟨spelled', rest', same, reads'⟩ := right
  obtain ⟨c, later, rfl, first, _⟩ := Spelling.reads_cons.mp reads
  obtain ⟨d, later', rfl, first', _⟩ := Spelling.reads_cons.mp reads'
  obtain rfl := (List.cons.inj same).1
  exact (List.singleton_inj.mp (Spelling.same_iff.mp first)).symm.trans
    (List.singleton_inj.mp (Spelling.same_iff.mp first'))

theorem scopeKeywords_unique {l m : Text} (left : l ∈ scopeKeywords) (right : m ∈ scopeKeywords)
    (begins : Spelling.anyCase.Begins l t) (begins' : Spelling.anyCase.Begins m t) : l = m := by
  have letters : ∀ l ∈ scopeKeywords, ∀ m ∈ scopeKeywords,
      l.head?.map foldCase = m.head?.map foldCase → l = m := by decide +kernel
  have inhabited : ∀ l ∈ scopeKeywords, l ≠ [] := by decide
  apply letters l left m right
  cases l with
  | nil => exact absurd rfl (inhabited [] left)
  | cons a l =>
      cases m with
      | nil => exact absurd rfl (inhabited [] right)
      | cons b m => exact congrArg some (fold_head_eq begins begins')

theorem not_scopeKeyword {l : Text} (marked : name.head? = some sigil)
    (begins : Spelling.anyCase.Begins name t) (member : l ∈ scopeKeywords) :
    ¬Spelling.anyCase.Begins l t := by
  have letters : ∀ l ∈ scopeKeywords, l.head?.map foldCase ≠ some (foldCase sigil) ∧ l ≠ [] := by
    decide +kernel
  intro begins'
  obtain ⟨other, inhabited⟩ := letters l member
  obtain ⟨tail, rfl⟩ := List.head?_eq_some_iff.mp marked
  cases l with
  | nil => exact inhabited rfl
  | cons a l => exact other (congrArg some (fold_head_eq begins' begins))

theorem isSome_keywordAt? {literal : Text} :
    (keywordAt? t literal).isSome ↔ Spelling.anyCase.Begins literal t := by
  rw [← Spelling.begins_iff, Spelling.begins, keywordAt?]
  cases Spelling.anyCase.after? literal t <;> rfl

theorem keywordAt?_eq_some {literal rest : Text} {n : Nat}
    (found : keywordAt? t literal = some (n, rest)) :
    ∃ keyword gap, t = keyword ++ gap ++ rest ∧ Spelling.anyCase.Reads literal keyword ∧ Gap gap ∧
      n = Text.byteSize (keyword ++ gap) := by
  simp only [keywordAt?, Option.bind_eq_bind, Option.bind_eq_some_iff,
    Spelling.after?_eq_some_iff] at found
  obtain ⟨behind, ⟨keyword, rfl, reads⟩, found⟩ := found
  obtain ⟨size, same⟩ := Prod.mk.inj (Option.some.inj found)
  have taken : (keyword ++ behind).take literal.length = keyword := by
    rw [← reads.length_eq, List.take_left]
  have blank := gap_takeWhile behind
  refine ⟨keyword, behind.takeWhile isGap, ?_, reads, blank, ?_⟩
  · rw [← same, List.append_assoc, List.takeWhile_append_dropWhile]
  · rw [← size, taken, Text.byteSize_append, byteSize_gap blank]

theorem keywordAt?_of_reads {literal keyword gap rest : Text}
    (reads : Spelling.anyCase.Reads literal keyword) (blank : Gap gap)
    (tight : ∀ c, rest.head? = some c → isGap c = false) :
    keywordAt? (keyword ++ gap ++ rest) literal = some (Text.byteSize (keyword ++ gap), rest) := by
  have read : Spelling.anyCase.after? literal (keyword ++ gap ++ rest) = some (gap ++ rest) :=
    Spelling.after?_eq_some_iff.mpr ⟨keyword, by simp, reads⟩
  obtain ⟨spaced, same⟩ := span_gap blank tight
  have taken : (keyword ++ gap ++ rest).take literal.length = keyword := by
    rw [← reads.length_eq, List.append_assoc, List.take_left]
  rw [keywordAt?, read, Option.bind_eq_bind, Option.bind_some, taken, spaced, same,
    Text.byteSize_append, byteSize_gap blank]

theorem scopeKeyword?_eq_some {n : Nat} {rest : Text} (found : scopeKeyword? t = some (n, rest)) :
    ∃ keyword gap, t = keyword ++ gap ++ rest ∧ ScopeKeyword keyword ∧ Gap gap ∧
      n = Text.byteSize (keyword ++ gap) := by
  obtain ⟨literal, member, found⟩ := List.exists_of_findSome?_eq_some found
  obtain ⟨keyword, gap, cut, reads, blank, size⟩ := keywordAt?_eq_some found
  exact ⟨keyword, gap, cut, ⟨literal, member, reads⟩, blank, size⟩

theorem scopeKeyword?_of_scopeKeyword {keyword gap rest : Text} (scope : ScopeKeyword keyword)
    (blank : Gap gap) (tight : ∀ c, rest.head? = some c → isGap c = false) :
    scopeKeyword? (keyword ++ gap ++ rest) = some (Text.byteSize (keyword ++ gap), rest) := by
  obtain ⟨literal, member, reads⟩ := scope
  have here := keywordAt?_of_reads reads blank tight
  cases found : scopeKeyword? (keyword ++ gap ++ rest) with
  | none =>
      rw [List.findSome?_eq_none_iff.mp found literal member] at here
      cases here
  | some pair =>
      obtain ⟨literal', member', found⟩ := List.exists_of_findSome?_eq_some found
      obtain rfl := scopeKeywords_unique member' member
        (isSome_keywordAt?.mp (by rw [found]; rfl)) (isSome_keywordAt?.mp (by rw [here]; rfl))
      rw [← found, here]

/-- Signs and white space other than blanks are in no scope keyword, nor in the blanks behind it. -/
theorem not_mem_scope {c : Char} {keyword gap : Text}
    (scope : keyword = [] ∧ gap = [] ∨ ScopeKeyword keyword ∧ Gap gap) (low : c.toNat < 0x41)
    (visible : 0 < c.toNat) (absent : ∀ literal ∈ scopeKeywords, c ∉ literal)
    (solid : isGap c = false) : c ∉ keyword ++ gap := by
  rcases scope with ⟨rfl, rfl⟩ | ⟨⟨literal, member, reads⟩, blank⟩
  · simp
  · apply List.not_mem_append (reads.not_mem low visible (absent literal member))
    intro inside
    cases solid.symm.trans (isGap_iff.mpr (blank c inside))

theorem unbroken_scope {keyword gap : Text}
    (scope : keyword = [] ∧ gap = [] ∨ ScopeKeyword keyword ∧ Gap gap) :
    '\n' ∉ keyword ++ gap :=
  not_mem_scope scope (by decide) (by decide) (by decide) (by decide)

theorem NamedHead.begins {keyword : Nat} (head : NamedHead name keyword t h) :
    Spelling.anyCase.Begins name t := by
  obtain ⟨spelled, after, cut, reads, _⟩ := head
  exact ⟨spelled, after, cut, reads⟩

theorem variableHead?_eq_some_iff (marked : name.head? = some sigil) :
    variableHead? name t = some h ↔ VariableHead name t h := by
  unfold variableHead?
  constructor
  · intro found
    have bare : namedHead? name 0 t = some h → VariableHead name t h := by
      intro named
      exact ⟨[], [], t, rfl, .inl ⟨rfl, rfl⟩, namedHead?_eq_some_iff.mp named⟩
    split at found
    · next n rest keyed =>
        rcases (Option.orElse_eq_some ..).mp found with named | ⟨_, named⟩
        · obtain ⟨keyword, gap, cut, scope, blank, rfl⟩ := scopeKeyword?_eq_some keyed
          exact ⟨keyword, gap, rest, cut, .inr ⟨scope, blank⟩, namedHead?_eq_some_iff.mp named⟩
        · exact bare named
    · exact bare found
  · rintro ⟨keyword, gap, rest, rfl, scope, head⟩
    have begins := head.begins
    rcases scope with ⟨rfl, rfl⟩ | ⟨scope, blank⟩
    · have none : scopeKeyword? rest = none := by
        apply List.findSome?_eq_none_iff.mpr
        intro literal member
        have missing := not_scopeKeyword marked begins member
        rwa [← isSome_keywordAt?, Option.not_isSome_iff_eq_none] at missing
      simp only [List.nil_append, none]
      exact namedHead?_eq_some_iff.mpr head
    · have tight : ∀ c, rest.head? = some c → isGap c = false := by
        obtain ⟨tail, rfl⟩ := List.head?_eq_some_iff.mp marked
        obtain ⟨later, rfl⟩ := begins.head_eq (by decide) (by decide)
        rintro c ⟨⟩
        decide
      rw [scopeKeyword?_of_scopeKeyword scope blank tight]
      simp only [namedHead?_eq_some_iff.mpr head]
      rfl

end AutoItNav.Declaration

namespace AutoItNav.Identifier

open Declaration

/-- The declaration of `id` that begins right here. -/
def head? (id : Identifier) (t : Text) : Option Head :=
  match id.kind with
  | .variable => variableHead? id.text t
  | .function => functionHead? id.text t

def DeclaredAt (id : Identifier) (t : Text) (h : Head) : Prop :=
  match id.kind with
  | .variable => VariableHead id.text t h
  | .function => FunctionHead id.text t h

/-- No identifier begins with a blank. -/
theorem solid (id : Identifier) (c : Char) (front : id.text.head? = some c) : isGap c = false := by
  have visible := id.valid.tight.front c front
  cases blank : isGap c with
  | false => rfl
  | true =>
      rcases isGap_iff.mp blank with rfl | rfl <;> cases visible

theorem head?_eq_some_iff {id : Identifier} {t : Text} {h : Head} :
    id.head? t = some h ↔ id.DeclaredAt t h := by
  unfold head? DeclaredAt
  match kind : id.kind with
  | .variable => exact variableHead?_eq_some_iff (head?_of_variable kind)
  | .function => exact functionHead?_eq_some_iff id.solid id.text_ne_nil

/-- The name stands further along on the current line. -/
def Occurs (id : Identifier) (t : Text) : Prop :=
  ∃ line ahead, t = line ++ ahead ∧ '\n' ∉ line ∧ id.spelling.Begins id.text ahead

theorem not_occurs_nil (id : Identifier) : ¬id.Occurs [] := by
  rintro ⟨line, ahead, cut, _, spelled, rest, same, reads⟩
  obtain ⟨rfl, rfl⟩ := List.append_eq_nil_iff.mp cut.symm
  obtain ⟨rfl, rfl⟩ := List.append_eq_nil_iff.mp same.symm
  exact id.text_ne_nil (List.length_eq_zero_iff.mp reads.length_eq.symm)

theorem DeclaredAt.occurs {id : Identifier} {t : Text} {h : Head} (declared : id.DeclaredAt t h) :
    id.Occurs t := by
  unfold DeclaredAt at declared
  unfold Occurs spelling
  match kind : id.kind with
  | .variable =>
      rw [kind] at declared
      obtain ⟨keyword, gap, rest, rfl, scope, head⟩ := declared
      exact ⟨keyword ++ gap, rest, rfl, unbroken_scope scope, head.begins⟩
  | .function =>
      rw [kind] at declared
      obtain ⟨gap, space, body, rfl, _, blank, _⟩ := declared
      refine ⟨funcKeyword ++ gap, id.text ++ (space ++ '(' :: body), by simp, ?_, ?_⟩
      · exact List.not_mem_append (by decide) blank.unbroken
      · exact ⟨id.text, space ++ '(' :: body, rfl, rfl⟩

/-- Behind the line on which a declaration begins there is a place outside every block, and what is
read of the declaration up to there is on that line. -/
theorem DeclaredAt.outside {id : Identifier} {t : Text} {h : Head} (unbroken : '\n' ∉ id.text)
    (declared : id.DeclaredAt t h) :
    ∃ head ahead, t = head ++ ahead ∧ '\n' ∉ head ∧ OutsideBlock id.spelling ahead := by
  unfold DeclaredAt at declared
  unfold spelling
  match kind : id.kind with
  | .variable =>
      rw [kind] at declared
      obtain ⟨keyword, gap, _, rfl, scope, spelled, _, rfl, reads, _, place, _⟩ := declared
      obtain ⟨tail, ahead, rfl, single, outside⟩ := place
      refine ⟨keyword ++ gap ++ (spelled ++ tail), ahead, by simp only [List.append_assoc], ?_,
        outside⟩
      exact List.not_mem_append (unbroken_scope scope)
        (List.not_mem_append (reads.unbroken unbroken) single)
  | .function =>
      rw [kind] at declared
      obtain ⟨gap, space, body, rfl, _, blank, blank', outside, _⟩ := declared
      refine ⟨funcKeyword ++ gap ++ id.text ++ space ++ ['('], body, by simp, ?_, outside⟩
      have keyed := List.not_mem_append (by decide : '\n' ∉ funcKeyword) blank.unbroken
      have named := List.not_mem_append (List.not_mem_append keyed unbroken) blank'.unbroken
      exact List.not_mem_append named (by decide)

end AutoItNav.Identifier
