import AutoItNav.Proofs.Path.Normal

/-!
What joined paths and normal forms name. A path that is joined to a directory names the directory's
components and then its own steps; a normal form names the root or leading `..` steps, and below
them nothing but names.
-/
namespace AutoItNav

namespace Path

variable {p q : Path} {c : Component} {cs cs' names : List Component}

theorem components_join (relative : q.isAbsolute = false) (inhabited : p.bytes ≠ []) :
    (p.join q).components = p.components ++ q.steps := by
  have start := isAbsolute_join (p := p) relative
  by_cases open' : p.bytes.getLast? = some slash
  · obtain ⟨front, bytes⟩ := List.getLast?_eq_some_iff.mp open'
    have joined : (p.join q).bytes = front ++ slash :: q.bytes := by
      rw [join, if_neg (by simp [relative]), if_pos (.inr open'), bytes]
      exact List.append_assoc ..
    rw [components, components, start, joined, bytes, pieces_append, pieces_append]
    cases cut : pieces slash front with
    | nil => exact absurd cut (pieces_ne_nil slash front)
    | cons first rest => simp [steps, isStep]
  · have joined : (p.join q).bytes = p.bytes ++ slash :: q.bytes := by
      rw [join, if_neg (by simp [relative]), if_neg (by simp [inhabited, open'])]
    rw [components, components, start, joined, pieces_append]
    cases cut : pieces slash p.bytes with
    | nil => exact absurd cut (pieces_ne_nil slash p.bytes)
    | cons first rest => simp [steps]

theorem bytes_join_ne_nil (inhabited : p.bytes ≠ []) (q : Path) (relative : q.isAbsolute = false) :
    (p.join q).bytes ≠ [] := by
  rw [join, if_neg (by simp [relative])]
  split <;> simp [inhabited]

theorem components_of_legible (legible : c.Legible) : (Path.mk c.bytes).components = [c] := by
  have taken : c ∈ (Path.mk c.bytes).steps := by
    rw [legible.steps]
    exact List.mem_singleton_self c
  obtain ⟨piece, kept, rfl⟩ := List.mem_map.mp taken
  obtain ⟨cut, step⟩ := List.mem_filter.mp kept
  have single := not_mem_of_mem_pieces cut
  have solid : piece ≠ [] ∧ piece ≠ [dot] := by simpa [isStep] using step
  rw [components, legible.relative, bytes_stepOf, pieces_of_not_mem single]
  simp [firstStep, solid]

theorem components_foldl_join (legible : ∀ c ∈ cs, c.Legible) (inhabited : p.bytes ≠ []) :
    (cs.foldl (fun p c => p.join ⟨c.bytes⟩) p).components = p.components ++ cs := by
  induction cs generalizing p with
  | nil => exact (List.append_nil _).symm
  | cons c cs ih =>
      obtain ⟨first, later⟩ := List.forall_mem_cons.mp legible
      rw [List.foldl_cons, ih later (bytes_join_ne_nil inhabited _ first.relative),
        components_join first.relative inhabited, first.steps, List.append_assoc]
      rfl

theorem empty_join (q : Path) : empty.join q = q := by
  rw [join]
  split
  · rfl
  · rw [if_pos (.inl rfl)]
    rfl

/-- Components that can be read back from the path that is written with them. -/
inductive Readable : List Component → Prop
  | nil : Readable []
  | cons {c : Component} {cs : List Component} (first : (Path.mk c.bytes).components = [c])
      (later : ∀ c ∈ cs, c.Legible) : Readable (c :: cs)

namespace Readable

theorem components_ofComponents (readable : Readable cs) : (ofComponents cs).components = cs := by
  cases readable with
  | nil => rfl
  | @cons c cs first later =>
      have inhabited : c.bytes ≠ [] := by
        intro none
        rw [none] at first
        cases first
      have joined := components_foldl_join (p := ⟨c.bytes⟩) later inhabited
      rw [first] at joined
      rw [ofComponents, List.foldl_cons, empty_join]
      exact joined

theorem of_initial (readable : Readable cs) (start : cs' <+: cs) : Readable cs' := by
  cases readable with
  | nil =>
      rw [List.prefix_nil.mp start]
      exact .nil
  | cons first later =>
      cases cs' with
      | nil => exact .nil
      | cons c' cs' =>
          obtain ⟨rfl, start'⟩ := List.cons_prefix_cons.mp start
          exact .cons first fun c member => later c (start'.subset member)

theorem of_legible (legible : ∀ c ∈ cs, c.Legible) : Readable cs := by
  cases cs with
  | nil => exact .nil
  | cons c cs =>
      obtain ⟨first, later⟩ := List.forall_mem_cons.mp legible
      exact .cons (components_of_legible first) later

theorem root (legible : ∀ c ∈ cs, c.Legible) : Readable (.root :: cs) := .cons rfl legible

end Readable

/-- A normal form is read back as the components that it was written from. -/
theorem components_normalized (p : Path) : p.normalized.components = p.normalComponents := by
  apply Readable.components_ofComponents
  obtain ⟨left, form, legible⟩ := p.exists_normalComponents
  rw [form]
  rcases p.origin_eq with anywhere | rooted
  · rw [anywhere]
    exact .of_legible legible
  · rw [rooted]
    exact .root legible

theorem readable_components (p : Path) : Readable p.components := by
  cases cut : pieces slash p.bytes with
  | nil => exact absurd cut (pieces_ne_nil slash p.bytes)
  | cons first rest =>
      have legible : ∀ c ∈ (rest.filter isStep).map stepOf, c.Legible := by
        intro c member
        obtain ⟨piece, kept, rfl⟩ := List.mem_map.mp member
        obtain ⟨inside, step⟩ := List.mem_filter.mp kept
        exact legible_stepOf (cut ▸ List.mem_cons_of_mem first inside) step
      rw [components, cut]
      dsimp only
      unfold firstStep
      split_ifs with absolute bare dotted
      · exact .root legible
      · exact .of_legible legible
      · exact .cons rfl legible
      · have step : isStep first = true := by simp [isStep, bare, dotted]
        have legible' : (stepOf first).Legible := legible_stepOf (cut ▸ List.mem_cons_self) step
        exact .cons (components_of_legible legible') legible

/-- What may bear a name: bytes without a slash that are no step of another kind. -/
theorem isName_name_iff {bytes : Bytes} : (Component.name bytes).IsName ↔
    slash ∉ bytes ∧ isStep bytes = true ∧ bytes ≠ [dot, dot] := by
  constructor
  · intro name
    have taken : Component.name bytes ∈ (Path.mk bytes).steps := by
      rw [show (Path.mk bytes).steps = [.name bytes] from name.steps]
      exact List.mem_singleton_self _
    obtain ⟨piece, kept, same⟩ := List.mem_map.mp taken
    obtain ⟨cut, step⟩ := List.mem_filter.mp kept
    unfold stepOf at same
    split at same
    · cases same
    · next single =>
        obtain rfl := Component.name.inj same
        exact ⟨not_mem_of_mem_pieces cut, step, single⟩
  · rintro ⟨single, step, down⟩
    have named : stepOf bytes = .name bytes := if_neg down
    refine ⟨⟨?_, ?_⟩, bytes, rfl⟩
    · change ((pieces slash bytes).filter isStep).map stepOf = _
      rw [pieces_of_not_mem single, List.filter_cons_of_pos step, List.filter_nil,
        List.map_singleton, named]
    · change decide (bytes.head? = some slash) = false
      exact decide_eq_false fun front => single (List.mem_of_head? front)

theorem same_iff : p.same q = true ↔ p.components = q.components := decide_eq_true_iff

theorem endsWith_iff : p.endsWith q = true ↔ q.components <:+ p.components :=
  List.isSuffixOf_iff_suffix

theorem root_ne_stepOf (piece : Bytes) : Component.root ≠ stepOf piece := by
  unfold stepOf
  split <;> simp

/-- The root is the first component of an absolute path and none of any other. -/
theorem exists_components (p : Path) :
    ∃ lower, p.components = p.origin ++ lower ∧ Component.root ∉ lower := by
  have below : ∀ rest : List Bytes, Component.root ∉ (rest.filter isStep).map stepOf := by
    intro rest member
    obtain ⟨piece, _, same⟩ := List.mem_map.mp member
    exact root_ne_stepOf piece same.symm
  unfold components origin
  cases cut : pieces slash p.bytes with
  | nil => exact absurd cut (pieces_ne_nil slash p.bytes)
  | cons first rest =>
      cases p.isAbsolute with
      | true => exact ⟨_, rfl, below rest⟩
      | false =>
          have front : Component.root ∉ firstStep false first := by
            rw [firstStep, if_neg (by decide)]
            split_ifs
            all_goals simp [root_ne_stepOf]
          refine ⟨firstStep false first ++ (rest.filter isStep).map stepOf, rfl, ?_⟩
          exact List.not_mem_append front (below rest)

/-- A relative normal form that does not lead up consists of names. -/
theorem isName_of_down (relative : p.isAbsolute = false)
    (down : p.normalized.components.head? ≠ some .parent) :
    ∀ c ∈ p.normalized.components, c.IsName := by
  obtain ⟨base, names, form, ground, named⟩ := p.exists_base_names
  rw [← components_normalized] at form
  rw [relative] at ground
  cases base with
  | nil => rwa [form]
  | cons c base =>
      obtain rfl : c = .parent := ground c List.mem_cons_self
      rw [form] at down
      exact absurd rfl down

theorem steps_normalized_eq (relative : p.isAbsolute = false) :
    p.normalized.steps = p.normalized.components := by
  have anywhere : p.origin = [] := if_neg (by simp [relative])
  rw [components_normalized, p.normalized_parts.2, anywhere, List.nil_append]

theorem foldl_fold_names (named : ∀ c ∈ names, c.IsName) (back : List Component) :
    names.foldl fold back = names.reverse ++ back := by
  induction names generalizing back with
  | nil => rfl
  | cons c names ih =>
      obtain ⟨first, later⟩ := List.forall_mem_cons.mp named
      obtain ⟨bytes, rfl⟩ := first.name
      rw [List.foldl_cons, ih later, List.reverse_cons, List.append_assoc]
      rfl

/-- Names that are joined to a directory are named below all that the directory names. -/
theorem components_normalized_join (relative : p.isAbsolute = false)
    (down : p.normalized.components.head? ≠ some .parent) (dir : Path) :
    (dir.join p.normalized).normalized.components =
      dir.normalized.components ++ p.normalized.components := by
  have relative' : p.normalized.isAbsolute = false := p.isAbsolute_normalized.trans relative
  have named := isName_of_down relative down
  have start : (dir.join p.normalized).origin = dir.origin := by
    rw [origin, origin, isAbsolute_join relative']
  rw [components_normalized, normalComponents_eq, start, steps_join relative',
    steps_normalized_eq relative, ← List.append_assoc, List.foldl_append, foldl_fold_names named,
    List.reverse_append, List.reverse_reverse, ← normalComponents_eq, components_normalized dir]

theorem root_mem_components : Component.root ∈ p.components ↔ p.isAbsolute = true := by
  obtain ⟨lower, whole, rootless⟩ := p.exists_components
  rw [whole, origin]
  split
  · next absolute => simp [absolute]
  · next relative => simp [rootless, relative]

theorem isAbsolute_congr (same : p.components = q.components) : p.isAbsolute = q.isAbsolute := by
  rw [Bool.eq_iff_iff, ← root_mem_components, ← root_mem_components, same]

/-- Only a path with the same components ends with an absolute one. -/
theorem endsWith_of_absolute (absolute : q.isAbsolute = true) :
    p.endsWith q = true ↔ p.same q = true := by
  rw [endsWith_iff, same_iff]
  constructor
  · rintro ⟨front, whole⟩
    have rooted : Component.root ∈ q.components := root_mem_components.mpr absolute
    have absolute' : p.isAbsolute = true := by
      rw [← root_mem_components, ← whole]
      exact List.mem_append_right front rooted
    obtain ⟨lower, parts, rootless⟩ := p.exists_components
    have start : p.origin = [.root] := if_pos absolute'
    rw [parts, start] at whole ⊢
    cases front with
    | nil => exact whole.symm
    | cons c front =>
        have below : front ++ q.components = lower := (List.cons.inj whole).2
        rw [← below] at rootless
        exact absurd (List.mem_append_right front rooted) rootless
  · intro same
    exact same ▸ List.suffix_rfl

/-- An absolute path that is in normal form but for its spelling. -/
structure Settled (p : Path) : Prop where
  absolute : p.isAbsolute = true
  normal : p.normalized.same p = true

theorem Settled.parent_not_mem (settled : p.Settled) : Component.parent ∉ p.components := by
  obtain ⟨base, names, form, ground, named⟩ := p.exists_base_names
  rw [← components_normalized] at form
  rw [settled.absolute] at ground
  have bottom : base = [.root] := ground
  rw [← same_iff.mp settled.normal, form, bottom]
  intro member
  rcases List.mem_cons.mp member with same | member
  · cases same
  · obtain ⟨bytes, same⟩ := (named _ member).name
    cases same

/-- `p` is reached from `dir` by a step down or more. -/
def Below (p dir : Path) : Prop :=
  p.isAbsolute = dir.isAbsolute ∧ ∃ lower, lower ≠ [] ∧ p.components = dir.components ++ lower

end Path

end AutoItNav
