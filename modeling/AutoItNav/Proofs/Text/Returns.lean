import AutoItNav.Proofs.Text.Reading
import AutoItNav.Proofs.Text.Rows

/-!
The two ways to end a line. A text keeps its lines when every line feed gets a carriage return in
front, its bytes move by one for each line above them, and what can stand on a line is read alike.
-/
namespace AutoItNav.Text

/-- The text with a carriage return in front of every line feed. -/
def withReturns (t : Text) : Text := t.flatMap fun c => if c = '\n' then ['\r', '\n'] else [c]

variable {c : Char} {t : Text}

@[simp] theorem withReturns_nil : withReturns [] = [] := rfl

@[simp] theorem withReturns_newline (t : Text) :
    withReturns ('\n' :: t) = '\r' :: '\n' :: withReturns t := rfl

theorem withReturns_cons (other : c ≠ '\n') (t : Text) :
    withReturns (c :: t) = c :: withReturns t := by
  rw [withReturns, List.flatMap_cons, if_neg other]
  rfl

@[simp] theorem withReturns_append (s t : Text) :
    withReturns (s ++ t) = withReturns s ++ withReturns t := List.flatMap_append

theorem withReturns_of_unbroken (unbroken : '\n' ∉ t) : withReturns t = t := by
  induction t with
  | nil => rfl
  | cons c t ih =>
      obtain ⟨other, later⟩ := List.ne_and_not_mem_of_not_mem_cons unbroken
      rw [withReturns_cons other.symm, ih later]

theorem count_withReturns (t : Text) : (withReturns t).count '\n' = t.count '\n' := by
  induction t with
  | nil => rfl
  | cons c t ih =>
      by_cases newline : c = '\n'
      · subst c
        rw [withReturns_newline, List.count_cons_of_ne (by decide), List.count_cons_self,
          List.count_cons_self, ih]
      · rw [withReturns_cons newline, List.count_cons_of_ne newline,
          List.count_cons_of_ne newline, ih]

theorem byteSize_withReturns (t : Text) : byteSize (withReturns t) = byteSize t + t.count '\n' := by
  induction t with
  | nil => rfl
  | cons c t ih =>
      by_cases newline : c = '\n'
      · subst c
        have one : '\r'.utf8Size = 1 := rfl
        rw [withReturns_newline, byteSize_cons, byteSize_cons, byteSize_cons, ih,
          List.count_cons_self, one]
        omega
      · rw [withReturns_cons newline, byteSize_cons, byteSize_cons, ih,
          List.count_cons_of_ne newline, Nat.add_assoc]

theorem LineStart.withReturns {above : Text} (start : LineStart above) :
    LineStart (withReturns above) := by
  obtain rfl | ⟨upper, rfl⟩ := start
  · exact lineStart_nil
  · rw [withReturns_append, withReturns_newline, List.append_cons]
    exact lineStart_snoc _

theorem dropWhile_withReturns {p : Char → Bool} (alike : p '\r' = p '\n') (t : Text) :
    (withReturns t).dropWhile p = withReturns (t.dropWhile p) := by
  induction t with
  | nil => rfl
  | cons c t ih =>
      by_cases newline : c = '\n'
      · subst c
        cases holds : p '\n' with
        | true => simp [holds, alike, ih]
        | false => simp [holds, alike]
      · cases holds : p c with
        | true => simp [withReturns_cons newline, holds, ih]
        | false => simp [withReturns_cons newline, holds]

theorem takeWhile_withReturns {p : Char → Bool} (feed : p '\n' = false) (back : p '\r' = false)
    (t : Text) : (withReturns t).takeWhile p = t.takeWhile p := by
  induction t with
  | nil => rfl
  | cons c t ih =>
      by_cases newline : c = '\n'
      · subst c
        simp [feed, back]
      · cases holds : p c with
        | true => simp [withReturns_cons newline, holds, ih]
        | false => simp [withReturns_cons newline, holds]

/-- Can stand on one line, in front of its end however that is written. -/
structure Inline (t : Text) : Prop where
  unbroken : '\n' ∉ t
  closed : t.getLast? ≠ some '\r'

theorem inline_iff : Inline t ↔ '\n' ∉ t ∧ t.getLast? ≠ some '\r' :=
  ⟨fun inline => ⟨inline.unbroken, inline.closed⟩, fun inline => ⟨inline.1, inline.2⟩⟩

instance (t : Text) : Decidable (Inline t) := decidable_of_iff _ inline_iff.symm

end AutoItNav.Text

namespace AutoItNav.Spelling

open Text

variable {s : Spelling} {literal : Text}

theorem same_newline {a : Char} (other : a ≠ '\n') : s.same a '\n' = false := by
  rw [← Bool.not_eq_true]
  intro same
  exact other (eq_of_same_text (by decide) (by decide) same)

/-- Neither way to end a line can be read as a part of an inline literal. -/
theorem after?_withReturns (inline : Inline literal) (t : Text) :
    s.after? literal (withReturns t) = (s.after? literal t).map withReturns := by
  induction literal generalizing t with
  | nil => rfl
  | cons a literal ih =>
      obtain ⟨other, unbroken⟩ := List.ne_and_not_mem_of_not_mem_cons inline.unbroken
      cases t with
      | nil => rfl
      | cons c t =>
          by_cases newline : c = '\n'
          · subst c
            rw [withReturns_newline, after?, after?, same_newline other.symm]
            split
            · next matched =>
                -- the literal goes on behind a carriage return, and not with a line feed
                obtain rfl := eq_of_same_text (by decide) (by decide) matched
                cases literal with
                | nil => exact absurd rfl inline.closed
                | cons b literal =>
                    obtain ⟨next, _⟩ := List.ne_and_not_mem_of_not_mem_cons unbroken
                    rw [after?, same_newline next.symm]
                    rfl
            · rfl
          · rw [withReturns_cons newline, after?, after?]
            split
            · cases literal with
              | nil => rfl
              | cons b literal =>
                  refine ih ⟨unbroken, ?_⟩ t
                  have closed := inline.closed
                  rwa [List.getLast?_cons_cons] at closed
            · rfl

theorem begins_withReturns (inline : Inline literal) (t : Text) :
    s.begins literal (withReturns t) = s.begins literal t := by
  rw [begins, begins, after?_withReturns inline, Option.isSome_map]

theorem take_withReturns {t rest : Text} (inline : Inline literal)
    (found : s.after? literal t = some rest) :
    (withReturns t).take literal.length = t.take literal.length := by
  obtain ⟨spelled, rfl, reads⟩ := after?_eq_some_iff.mp found
  rw [withReturns_append, withReturns_of_unbroken (reads.unbroken inline.unbroken),
    ← reads.length_eq, List.take_left, List.take_left]

end AutoItNav.Spelling
