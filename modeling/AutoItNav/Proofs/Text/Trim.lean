import AutoItNav.Text.Blank
import Mathlib.Data.List.TakeWhile

/-!
Trimming. What it leaves has no white space at its ends, and a text that has none there is left as
it is.
-/
namespace AutoItNav.Text

/-- No white space at either end. -/
structure Tight (t : Text) : Prop where
  front : ∀ c, t.head? = some c → isBlank c = false
  back : ∀ c, t.getLast? = some c → isBlank c = false

theorem head?_dropWhile {p : Char → Bool} {t : Text} {c : Char}
    (front : (t.dropWhile p).head? = some c) : p c = false := by
  have stop := List.head?_dropWhile_not p t
  rw [front] at stop
  simpa using stop

theorem dropWhile_of_front {p : Char → Bool} {t : Text}
    (front : ∀ c, t.head? = some c → p c = false) : t.dropWhile p = t := by
  cases t with
  | nil => rfl
  | cons c t => exact List.dropWhile_cons_of_neg (by simp [front c rfl])

theorem trimStart_trimStart (t : Text) : trimStart (trimStart t) = trimStart t :=
  dropWhile_of_front fun _ => head?_dropWhile

theorem takeWhile_append_trimStart (t : Text) : t.takeWhile isBlank ++ trimStart t = t :=
  List.takeWhile_append_dropWhile

theorem trimStart_append {trail : Text} (blank : ∀ c ∈ trail, isBlank c = true) (t : Text) :
    trimStart (t ++ trail) = if trimStart t = [] then [] else trimStart t ++ trail := by
  unfold trimStart
  rw [List.dropWhile_append, List.dropWhile_eq_nil_iff.mpr blank]
  cases t.dropWhile isBlank <;> rfl

/-- Blanks in front of a character that is none are what trimming at the start takes away. -/
theorem trimStart_append_of_blank {front back : Text} (blank : ∀ c ∈ front, isBlank c = true)
    (stop : ∀ c, back.head? = some c → isBlank c = false) : trimStart (front ++ back) = back := by
  rw [trimStart, List.dropWhile_append_of_pos blank, dropWhile_of_front stop]

theorem exists_dropTrailing_append (p : Char → Bool) (t : Text) :
    ∃ trail, t = dropTrailing p t ++ trail ∧ ∀ c ∈ trail, p c = true := by
  refine ⟨(t.reverse.takeWhile p).reverse, ?_, ?_⟩
  · rw [dropTrailing, ← List.reverse_append, List.takeWhile_append_dropWhile, List.reverse_reverse]
  · intro c member
    exact List.mem_takeWhile_imp (List.mem_reverse.mp member)

theorem length_trim_le (t : Text) : (trim t).length ≤ t.length := by
  have front := (t.dropWhile_sublist isBlank).length_le
  have back := ((trimStart t).reverse.dropWhile_sublist isBlank).length_le
  rw [List.length_reverse] at back
  rw [trim, trimEnd, dropTrailing, List.length_reverse]
  exact back.trans front

theorem getLast?_dropTrailing {p : Char → Bool} {t : Text} {c : Char}
    (back : (dropTrailing p t).getLast? = some c) : p c = false := by
  rw [dropTrailing, List.getLast?_reverse] at back
  exact head?_dropWhile back

/-- The first character left by trimming is the first one that is not blank. -/
theorem head?_trim (t : Text) : (trim t).head? = (trimStart t).head? := by
  obtain ⟨trail, cut, blank⟩ := exists_dropTrailing_append isBlank (trimStart t)
  change trimStart t = trim t ++ trail at cut
  cases rest : trim t with
  | cons c rest => rw [cut, rest]; rfl
  | nil =>
      rw [rest, List.nil_append] at cut
      cases front : (trimStart t).head? with
      | none => rfl
      | some c =>
          -- all of the text would be blank, and its first character is not
          have solid := head?_dropWhile front
          rw [cut] at front
          rw [blank c (List.mem_of_head? front)] at solid
          cases solid

/-- Trimming leaves nothing of a text that is blank all over, and only of such a one. -/
theorem trim_eq_nil_iff {t : Text} : trim t = [] ↔ ∀ c ∈ t, isBlank c = true := by
  rw [← List.head?_eq_none_iff, head?_trim, List.head?_eq_none_iff, trimStart,
    List.dropWhile_eq_nil_iff]

theorem head?_trimStart (t : Text) :
    (trimStart t).head? = t[(t.takeWhile isBlank).length]? := by
  have start := congrArg (List.drop (t.takeWhile isBlank).length) (takeWhile_append_trimStart t)
  rw [List.drop_left] at start
  rw [start, List.head?_drop]

/-- Trimming goes by nothing but which characters are blank. -/
theorem trim_map {f : Char → Char} (blank : ∀ c, isBlank (f c) = isBlank c) (t : Text) :
    trim (t.map f) = (trim t).map f := by
  have same : isBlank ∘ f = isBlank := funext blank
  rw [trim, trim, trimStart, trimStart, List.dropWhile_map, same, trimEnd, trimEnd, dropTrailing,
    dropTrailing, ← List.map_reverse, List.dropWhile_map, same, List.map_reverse]

theorem tight_trim (t : Text) : Tight (trim t) := by
  constructor
  · intro c front
    rw [head?_trim] at front
    exact head?_dropWhile front
  · intro c back
    exact getLast?_dropTrailing back

theorem Tight.trim_eq {t : Text} (tight : Tight t) : trim t = t := by
  have front : trimStart t = t := dropWhile_of_front tight.front
  have back : t.reverse.dropWhile isBlank = t.reverse := by
    apply dropWhile_of_front
    intro c last
    rw [List.head?_reverse] at last
    exact tight.back c last
  rw [trim, front, trimEnd, dropTrailing, back, List.reverse_reverse]

theorem trim_eq_iff {t : Text} : trim t = t ↔ Tight t := by
  constructor
  · intro same
    rw [← same]
    exact tight_trim t
  · exact Tight.trim_eq

instance (t : Text) : Decidable (Tight t) := decidable_of_iff _ trim_eq_iff

end AutoItNav.Text
