import AutoItNav.Text.Spelling
import Mathlib.Data.List.TakeDrop

/-!
What it means that a text reads a literal. Up to case, a text reads it if both fold to the same
characters; signs, digits and white space read only themselves.
-/
namespace AutoItNav

/-- Folding leaves a code point as it is or moves it along with a run that it is in. -/
theorem foldCode_cases (n : Nat) (runs : List FoldRun) :
    foldCode n runs = n ∨ ∃ r ∈ runs, r.first ≤ n ∧ n ≤ r.last ∧
      foldCode n runs = r.target + (n - r.first) := by
  induction runs with
  | nil => exact .inl rfl
  | cons r runs ih =>
      unfold foldCode
      split
      · exact .inl rfl
      · next reached =>
          split
          · next within =>
              split
              · exact .inr ⟨r, List.mem_cons_self, Nat.le_of_not_lt reached, within, rfl⟩
              · exact .inl rfl
          · rcases ih with same | ⟨q, member, moved⟩
            · exact .inl same
            · exact .inr ⟨q, List.mem_cons_of_mem r member, moved⟩

theorem foldRuns_targets : ∀ r ∈ foldRuns, 0x5B ≤ r.target := by decide +kernel

theorem toNat_ofNat_cases (n : Nat) : (Char.ofNat n).toNat = n ∨ (Char.ofNat n).toNat = 0 := by
  by_cases valid : n.isValidChar
  · have same : Char.ofNat n = Char.ofNatAux n valid := dif_pos valid
    exact .inl (congrArg Char.toNat same)
  · have same : Char.ofNat n = '\x00' := dif_neg valid
    exact .inr (congrArg Char.toNat same)

/-- What is folded to a character is that character or is in a run that leads to it. -/
theorem foldCase_eq_cases {a c : Char} (visible : 0 < a.toNat) (same : foldCase c = a) :
    c = a ∨ ∃ r ∈ foldRuns, r.first ≤ c.toNat ∧ c.toNat ≤ r.last ∧
      a.toNat = r.target + (c.toNat - r.first) := by
  rcases foldCode_cases c.toNat foldRuns with kept | ⟨r, member, low, high, moved⟩
  · left
    rwa [foldCase, kept, Char.ofNat_toNat] at same
  · right
    refine ⟨r, member, low, high, ?_⟩
    rw [foldCase] at same
    rcases toNat_ofNat_cases (foldCode c.toNat foldRuns) with value | value
    · rw [← moved, ← value, same]
    · rw [same] at value
      omega

/-- A sign or digit is folded from nothing but itself. -/
theorem eq_of_foldCase_eq {a c : Char} (low : a.toNat < 0x41) (visible : 0 < a.toNat)
    (same : foldCase c = foldCase a) : c = a := by
  have fixed : foldCase a = a := by
    have first : a.toNat < 0x41 := low
    simp [foldCase, foldRuns, foldCode, first]
  rw [fixed] at same
  rcases foldCase_eq_cases visible same with equal | ⟨r, member, _, _, moved⟩
  · exact equal
  · -- a code point this high makes a letter
    have letter := foldRuns_targets r member
    omega

theorem foldCase_lowerAscii (c : Char) : foldCase (lowerAscii c) = foldCase c := by
  have letters : ∀ n ∈ List.range' 65 26,
      foldCase (Char.ofNat (n + 32)) = foldCase (Char.ofNat n) := by decide +kernel
  unfold lowerAscii
  split
  · next upper =>
      have low : 65 ≤ c.toNat := UInt32.le_iff_toNat_le.mp upper.1
      have high : c.toNat ≤ 90 := UInt32.le_iff_toNat_le.mp upper.2
      have letter := letters c.toNat (List.mem_range'_1.mpr ⟨low, by omega⟩)
      rwa [Char.ofNat_toNat] at letter
  · rfl

namespace Spelling

/-- Whether a text spells a literal. -/
def Reads : Spelling → (literal spelled : Text) → Prop
  | .exact, literal, spelled => spelled = literal
  | .anyCase, literal, spelled => spelled.map foldCase = literal.map foldCase

/-- Whether a text begins with a spelling of a literal. -/
def Begins (s : Spelling) (literal t : Text) : Prop :=
  ∃ spelled rest, t = spelled ++ rest ∧ s.Reads literal spelled

variable {s : Spelling} {a c : Char} {literal spelled t rest : Text}

theorem same_iff : s.same a c = true ↔ s.Reads [a] [c] := by
  cases s with
  | exact => simp [same, Reads, eq_comm]
  | anyCase =>
      simp only [same, Reads, Bool.or_eq_true, decide_eq_true_eq, List.map_cons, List.map_nil,
        List.cons.injEq, and_true]
      constructor
      · rintro (rfl | folded)
        · rfl
        · exact folded.symm
      · intro folded
        exact .inr folded.symm

theorem reads_self (s : Spelling) (literal : Text) : s.Reads literal literal := by
  cases s <;> rfl

@[simp] theorem reads_nil : s.Reads [] spelled ↔ spelled = [] := by
  cases s <;> simp [Reads]

theorem reads_cons : s.Reads (a :: literal) spelled ↔
    ∃ c later, spelled = c :: later ∧ s.same a c = true ∧ s.Reads literal later := by
  simp only [same_iff]
  cases s with
  | exact =>
      constructor
      · rintro rfl
        exact ⟨a, literal, rfl, rfl, rfl⟩
      · rintro ⟨c, later, rfl, one, rest⟩
        cases one
        cases rest
        rfl
  | anyCase =>
      constructor
      · intro folded
        cases spelled with
        | nil => cases folded
        | cons c later =>
            obtain ⟨one, rest⟩ := List.cons.inj folded
            exact ⟨c, later, rfl, congrArg (fun d => [d]) one, rest⟩
      · rintro ⟨c, later, rfl, one, rest⟩
        exact congrArg₂ List.cons (List.cons.inj one).1 rest

theorem Reads.length_eq (reads : s.Reads literal spelled) : spelled.length = literal.length := by
  cases s with
  | exact => exact congrArg List.length reads
  | anyCase => simpa using congrArg List.length reads

theorem after?_eq_some_iff : s.after? literal t = some rest ↔
    ∃ spelled, t = spelled ++ rest ∧ s.Reads literal spelled := by
  induction literal generalizing t with
  | nil => simp [after?, eq_comm]
  | cons a literal ih =>
      cases t with
      | nil => simp [after?, reads_cons]
      | cons c t =>
          rw [after?]
          constructor
          · intro found
            split at found
            · next first =>
                obtain ⟨spelled, rfl, reads⟩ := ih.mp found
                exact ⟨c :: spelled, rfl, reads_cons.mpr ⟨c, spelled, rfl, first, reads⟩⟩
            · cases found
          · rintro ⟨spelled, same, reads⟩
            obtain ⟨d, later, rfl, first, tail⟩ := reads_cons.mp reads
            obtain ⟨rfl, rfl⟩ := List.cons.inj same
            rw [if_pos first]
            exact ih.mpr ⟨later, rfl, tail⟩

theorem begins_iff : s.begins literal t = true ↔ s.Begins literal t := by
  rw [begins, Option.isSome_iff_exists]
  constructor
  · rintro ⟨rest, found⟩
    obtain ⟨spelled, cut, reads⟩ := after?_eq_some_iff.mp found
    exact ⟨spelled, rest, cut, reads⟩
  · rintro ⟨spelled, rest, cut, reads⟩
    exact ⟨rest, after?_eq_some_iff.mpr ⟨spelled, cut, reads⟩⟩

theorem eq_of_same_literal (low : a.toNat < 0x41) (visible : 0 < a.toNat)
    (same : s.same a c = true) : c = a := by
  cases s with
  | exact => exact List.singleton_inj.mp (same_iff.mp same)
  | anyCase => exact eq_of_foldCase_eq low visible (List.singleton_inj.mp (same_iff.mp same))

theorem eq_of_same_text (low : c.toNat < 0x41) (visible : 0 < c.toNat)
    (same : s.same a c = true) : a = c := by
  cases s with
  | exact => exact (List.singleton_inj.mp (same_iff.mp same)).symm
  | anyCase => exact eq_of_foldCase_eq low visible (List.singleton_inj.mp (same_iff.mp same)).symm

theorem Begins.head_eq (low : a.toNat < 0x41) (visible : 0 < a.toNat)
    (begins : s.Begins (a :: literal) t) : ∃ later, t = a :: later := by
  obtain ⟨spelled, rest, rfl, reads⟩ := begins
  obtain ⟨c, later, rfl, first, _⟩ := reads_cons.mp reads
  obtain rfl := eq_of_same_literal low visible first
  exact ⟨later ++ rest, rfl⟩

theorem Begins.append (begins : s.Begins literal t) (more : Text) :
    s.Begins literal (t ++ more) := by
  obtain ⟨spelled, rest, rfl, reads⟩ := begins
  exact ⟨spelled, rest ++ more, List.append_assoc .., reads⟩

/-- A sign, digit or white space that a literal has not is in none of its spellings. -/
theorem Reads.not_mem {c : Char} (reads : s.Reads literal spelled) (low : c.toNat < 0x41)
    (visible : 0 < c.toNat) (absent : c ∉ literal) : c ∉ spelled := by
  induction literal generalizing spelled with
  | nil => simp [reads_nil.mp reads]
  | cons a literal ih =>
      obtain ⟨d, later, rfl, first, rest⟩ := reads_cons.mp reads
      obtain ⟨other, absent⟩ := List.ne_and_not_mem_of_not_mem_cons absent
      apply List.not_mem_cons_of_ne_of_not_mem
      · rintro rfl
        exact other (eq_of_same_text low visible first).symm
      · exact ih rest absent

theorem Reads.unbroken (reads : s.Reads literal spelled) (unbroken : '\n' ∉ literal) :
    '\n' ∉ spelled :=
  reads.not_mem (by decide) (by decide) unbroken

end Spelling

end AutoItNav
