import AutoItNav.Path.Normal
import AutoItNav.Proofs.Text.Pieces
import Mathlib.Data.List.Induction

/-!
The shape of normal forms. A path starts at the root or anywhere and takes its steps; joined paths
take those of both. In normal form a path takes the same steps up to what cancels out, and what is
left are names below the root or below some steps up.
-/
namespace AutoItNav

namespace Path

/-- The steps of a path below the place that it starts from. -/
def steps (p : Path) : List Component := ((pieces slash p.bytes).filter isStep).map stepOf

/-- Where the steps of a path start: at the root, or anywhere. -/
def origin (p : Path) : List Component := if p.isAbsolute then [.root] else []

end Path

/-- A step that is read back from its own bytes. -/
structure Component.Legible (c : Component) : Prop where
  steps : (Path.mk c.bytes).steps = [c]
  relative : (Path.mk c.bytes).isAbsolute = false

/-- A step down to what bears a name. -/
structure Component.IsName (c : Component) : Prop extends c.Legible where
  name : ∃ bytes, c = .name bytes

namespace Path

variable {p q : Path} {c : Component} {l cs names base : List Component} {absolute : Bool}

theorem exists_bytes_of_isAbsolute (absolute : p.isAbsolute = true) :
    ∃ rest, p.bytes = slash :: rest := by
  rw [isAbsolute, decide_eq_true_eq] at absolute
  exact List.head?_eq_some_iff.mp absolute

/-- To whatever takes no notice of `.` a path is where it starts and its steps. -/
theorem foldl_components {α : Type} {f : α → Component → α} (stay : ∀ a, f a .current = a)
    (p : Path) (a : α) : p.components.foldl f a = (p.origin ++ p.steps).foldl f a := by
  unfold components origin steps
  cases absolute : p.isAbsolute with
  | true =>
      obtain ⟨rest, bytes⟩ := exists_bytes_of_isAbsolute absolute
      rw [bytes, ← List.nil_append (slash :: rest), pieces_append]
      rfl
  | false =>
      cases pieces slash p.bytes with
      | nil => rfl
      | cons first rest =>
          by_cases empty : first = []
          · subst empty
            rfl
          · by_cases dotted : first = [dot]
            · subst dotted
              exact congrArg (List.foldl f · _) (stay a)
            · have step : isStep first = true := by simp [isStep, empty, dotted]
              rw [List.filter_cons_of_pos step]
              simp [firstStep, empty, dotted]

theorem normalComponents_eq (p : Path) :
    p.normalComponents = ((p.origin ++ p.steps).foldl fold []).reverse := by
  rw [normalComponents, foldl_components fun _ => rfl]

theorem bytes_stepOf (piece : Bytes) : (stepOf piece).bytes = piece := by
  unfold stepOf
  split
  · next twice => exact twice.symm
  · rfl

theorem legible_stepOf {bytes piece : Bytes} (cut : piece ∈ pieces slash bytes)
    (step : isStep piece = true) : (stepOf piece).Legible := by
  have single : slash ∉ piece := not_mem_of_mem_pieces cut
  constructor
  · rw [steps, bytes_stepOf, pieces_of_not_mem single, List.filter_cons_of_pos step]
    rfl
  · rw [bytes_stepOf, isAbsolute, decide_eq_false_iff_not]
    intro front
    exact single (List.mem_of_head? front)

theorem legible_of_mem_steps (member : c ∈ p.steps) : c.Legible := by
  obtain ⟨piece, kept, rfl⟩ := List.mem_map.mp member
  obtain ⟨cut, step⟩ := List.mem_filter.mp kept
  exact legible_stepOf cut step

theorem legible_parent : Component.parent.Legible := ⟨rfl, rfl⟩

theorem parent_or_isName_of_mem_steps (member : c ∈ p.steps) : c = .parent ∨ c.IsName := by
  have legible := legible_of_mem_steps member
  obtain ⟨piece, _, rfl⟩ := List.mem_map.mp member
  unfold stepOf at legible ⊢
  split at legible
  · next twice => exact .inl (if_pos twice)
  · next single => exact .inr (if_neg single ▸ ⟨legible, piece, rfl⟩)

theorem isAbsolute_join (relative : q.isAbsolute = false) :
    (p.join q).isAbsolute = p.isAbsolute := by
  rw [join, if_neg (by simp [relative])]
  cases bytes : p.bytes with
  | nil =>
      rw [if_pos (.inl rfl)]
      exact relative.trans (by rw [isAbsolute, bytes]; rfl)
  | cons b rest =>
      unfold isAbsolute
      rw [bytes]
      split <;> rfl

theorem steps_join (relative : q.isAbsolute = false) : (p.join q).steps = p.steps ++ q.steps := by
  rw [join, if_neg (by simp [relative])]
  by_cases top : p.bytes = []
  · rw [if_pos (.inl top), steps, steps, steps, top]
    rfl
  · by_cases open' : p.bytes.getLast? = some slash
    · obtain ⟨front, bytes⟩ := List.getLast?_eq_some_iff.mp open'
      rw [if_pos (.inr open'), steps, steps, steps, bytes, List.append_assoc, List.singleton_append,
        pieces_append, pieces_append]
      simp [isStep]
    · rw [if_neg (by simp [top, open']), steps, steps, steps, pieces_append, List.filter_append,
        List.map_append]

/-- Legible steps below a path are the steps that the joined path takes there. -/
theorem foldl_join (legible : ∀ c ∈ cs, c.Legible) (p : Path) :
    (cs.foldl (fun p c => p.join ⟨c.bytes⟩) p).steps = p.steps ++ cs ∧
      (cs.foldl (fun p c => p.join ⟨c.bytes⟩) p).isAbsolute = p.isAbsolute := by
  induction cs generalizing p with
  | nil => exact ⟨(List.append_nil _).symm, rfl⟩
  | cons c cs ih =>
      obtain ⟨first, later⟩ := List.forall_mem_cons.mp legible
      obtain ⟨steps, absolute⟩ := ih later (p.join ⟨c.bytes⟩)
      rw [List.foldl_cons, steps, absolute, steps_join first.relative, first.steps,
        isAbsolute_join first.relative, List.append_assoc]
      exact ⟨rfl, rfl⟩

/-- Taking the steps that are left when the steps `l` cancel out comes to the same as taking `l`. -/
theorem foldl_fold_reverse (l back : List Component) :
    (l.foldl fold []).reverse.foldl fold back = l.foldl fold back := by
  induction l using List.reverseRecOn with
  | nil => rfl
  | append_singleton l c ih =>
      rw [List.foldl_append, List.foldl_append, ← ih]
      generalize l.foldl fold [] = left
      cases c with
      | current => rfl
      | root => simp [fold]
      | name bytes => simp [fold]
      | parent =>
          cases left with
          | nil => rfl
          | cons last upper =>
              cases last with
              | root => simp [fold]
              | current => simp [fold]
              | parent => simp [fold]
              | name bytes => simp [fold]

theorem origin_eq (p : Path) : p.origin = [] ∨ p.origin = [.root] := by
  unfold origin
  split
  · exact .inr rfl
  · exact .inl rfl

/-- What a normal form has below its names: the root, or steps up. -/
def Base (absolute : Bool) (base : List Component) : Prop :=
  if absolute then base = [.root] else ∀ c ∈ base, c = .parent

theorem exists_fold_names (ground : Base absolute base) (named : ∀ c ∈ names, c.IsName)
    (step : c = .parent ∨ c.IsName) :
    ∃ names' base', fold (names ++ base) c = names' ++ base' ∧ Base absolute base' ∧
      ∀ c ∈ names', c.IsName := by
  rcases step with rfl | name
  · cases names with
    | cons last names =>
        obtain ⟨first, later⟩ := List.forall_mem_cons.mp named
        obtain ⟨bytes, rfl⟩ := first.name
        exact ⟨names, base, rfl, ground, later⟩
    | nil =>
        cases absolute with
        | true =>
            have bottom : base = [.root] := ground
            subst bottom
            exact ⟨[], _, rfl, ground, named⟩
        | false =>
            have up : ∀ c ∈ base, c = .parent := ground
            refine ⟨[], .parent :: base, ?_, ?_, named⟩
            · cases base with
              | nil => rfl
              | cons c base =>
                  obtain rfl := up c List.mem_cons_self
                  rfl
            · exact List.forall_mem_cons.mpr ⟨rfl, up⟩
  · have more : fold (names ++ base) c = c :: names ++ base := by
      obtain ⟨bytes, rfl⟩ := name.name
      rfl
    exact ⟨c :: names, base, more, ground, List.forall_mem_cons.mpr ⟨name, named⟩⟩

theorem exists_foldl_fold_names (ground : Base absolute base) (named : ∀ c ∈ names, c.IsName)
    (steps : ∀ c ∈ l, c = .parent ∨ c.IsName) :
    ∃ names' base', l.foldl fold (names ++ base) = names' ++ base' ∧ Base absolute base' ∧
      ∀ c ∈ names', c.IsName := by
  induction l generalizing names base with
  | nil => exact ⟨names, base, rfl, ground, named⟩
  | cons c l ih =>
      obtain ⟨first, later⟩ := List.forall_mem_cons.mp steps
      obtain ⟨names', base', here, ground', named'⟩ := exists_fold_names ground named first
      rw [List.foldl_cons, here]
      exact ih ground' named' later

theorem foldl_fold_origin (p : Path) : p.origin.foldl fold [] = p.origin := by
  rcases p.origin_eq with same | same
  all_goals rw [same]
  all_goals rfl

/-- A normal form is the root or some steps up, and names below. -/
theorem exists_base_names (p : Path) :
    ∃ base names, p.normalComponents = base ++ names ∧ Base p.isAbsolute base ∧
      ∀ c ∈ names, c.IsName := by
  have ground : Base p.isAbsolute p.origin := by
    unfold Base origin
    split
    · rfl
    · exact List.forall_mem_nil _
  have nameless : ∀ c ∈ ([] : List Component), c.IsName := List.forall_mem_nil _
  obtain ⟨names, base, folded, ground', named⟩ :=
    exists_foldl_fold_names ground nameless fun c => parent_or_isName_of_mem_steps (p := p)
  refine ⟨base.reverse, names.reverse, ?_, ?_, ?_⟩
  · rw [List.nil_append] at folded
    rw [normalComponents_eq, List.foldl_append, foldl_fold_origin, folded, List.reverse_append]
  · unfold Base at ground' ⊢
    split at ground'
    · next absolute => rw [if_pos absolute, ground']; rfl
    · next relative =>
        rw [if_neg relative]
        intro c member
        exact ground' c (List.mem_reverse.mp member)
  · intro c member
    exact named c (List.mem_reverse.mp member)

/-- A path in normal form starts where the path does and takes legible steps. -/
theorem exists_normalComponents (p : Path) :
    ∃ left, p.normalComponents = p.origin ++ left ∧ ∀ c ∈ left, c.Legible := by
  obtain ⟨base, names, form, ground, named⟩ := p.exists_base_names
  unfold Base at ground
  unfold origin
  split at ground
  · next absolute =>
      refine ⟨names, by rw [form, ground, if_pos absolute], ?_⟩
      exact fun c member => (named c member).toLegible
  · next relative =>
      refine ⟨base ++ names, by rw [form, if_neg relative, List.nil_append], ?_⟩
      intro c member
      rcases List.mem_append.mp member with up | name
      · exact ground c up ▸ legible_parent
      · exact (named c name).toLegible

theorem ofComponents_origin (p : Path) :
    (ofComponents p.origin).steps = [] ∧ (ofComponents p.origin).isAbsolute = p.isAbsolute := by
  unfold origin
  cases p.isAbsolute with
  | false => exact ⟨rfl, rfl⟩
  | true => exact ⟨rfl, rfl⟩

/-- The normal form starts where the path does and takes the steps of the normal form. -/
theorem normalized_parts (p : Path) :
    p.normalized.isAbsolute = p.isAbsolute ∧
      p.normalComponents = p.origin ++ p.normalized.steps := by
  obtain ⟨left, components, legible⟩ := p.exists_normalComponents
  obtain ⟨steps, absolute⟩ := foldl_join legible (ofComponents p.origin)
  obtain ⟨none, start⟩ := p.ofComponents_origin
  have form : p.normalized = left.foldl (fun p c => p.join ⟨c.bytes⟩) (ofComponents p.origin) := by
    rw [normalized, components]
    exact List.foldl_append
  rw [form, absolute, steps, none, start, components]
  exact ⟨rfl, rfl⟩

theorem isAbsolute_normalized (p : Path) : p.normalized.isAbsolute = p.isAbsolute :=
  p.normalized_parts.1

end Path

end AutoItNav
