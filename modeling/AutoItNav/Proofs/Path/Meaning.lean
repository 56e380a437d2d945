import AutoItNav.Proofs.Path.Components
import Mathlib.Data.Set.Finite.Basic

/-!
Where paths lead. A path acts on the stack of directories that one is in: the root empties it, a
name is put on it, and `..` takes the last name away if there is any. Each such action has exactly
one normal form.
-/
namespace AutoItNav

/-- The stack of directories, innermost first, after one more step. -/
def Component.lead (stack : List Bytes) : Component → List Bytes
  | .root => []
  | .current => stack
  | .parent => stack.tail
  | .name bytes => bytes :: stack

namespace Path

def meaning (p : Path) (stack : List Bytes) : List Bytes := p.components.foldl Component.lead stack

/-- The paths lead to the same place from wherever names lead to. -/
def Alike (p q : Path) : Prop :=
  ∀ stack : List Bytes, (∀ bytes ∈ stack, (Component.name bytes).IsName) →
    p.meaning stack = q.meaning stack

variable {p q : Path}

theorem meaning_eq (p : Path) (stack : List Bytes) :
    p.meaning stack = (p.origin ++ p.steps).foldl Component.lead stack :=
  foldl_components (fun _ => rfl) p stack

/-- A joined path leads from where the first one does. -/
theorem meaning_join (p q : Path) (stack : List Bytes) :
    (p.join q).meaning stack = q.meaning (p.meaning stack) := by
  cases absolute : q.isAbsolute with
  | true =>
      have start : q.origin = [.root] := if_pos absolute
      rw [join, if_pos absolute, meaning_eq q, meaning_eq q, start]
      rfl
  | false =>
      have start : (p.join q).origin = p.origin := by rw [origin, origin, isAbsolute_join absolute]
      have anywhere : q.origin = [] := if_neg (by simp [absolute])
      rw [meaning_eq, meaning_eq q, meaning_eq p, start, anywhere, steps_join absolute,
        ← List.append_assoc, List.foldl_append]
      rfl

/-- One more step on a reversed normal form leads where the step itself leads from there. -/
theorem foldl_lead_fold (back : List Component) (c : Component) (stack : List Bytes) :
    (fold back c).reverse.foldl Component.lead stack =
      Component.lead (back.reverse.foldl Component.lead stack) c := by
  have pushed : (c :: back).reverse.foldl Component.lead stack =
      Component.lead (back.reverse.foldl Component.lead stack) c := by
    rw [List.reverse_cons, List.foldl_append]
    rfl
  cases c with
  | root => exact pushed
  | current => rfl
  | name bytes => exact pushed
  | parent =>
      cases back with
      | nil => exact pushed
      | cons last upper =>
          cases last with
          | current => exact pushed
          | parent => exact pushed
          | root =>
              have there : (Component.root :: upper).reverse.foldl Component.lead stack = [] := by
                rw [List.reverse_cons, List.foldl_append]
                rfl
              change (Component.root :: upper).reverse.foldl Component.lead stack = _
              rw [there]
              rfl
          | name bytes =>
              rw [List.reverse_cons, List.foldl_append]
              rfl

theorem foldl_lead_foldl_fold (cs back : List Component) (stack : List Bytes) :
    (cs.foldl fold back).reverse.foldl Component.lead stack =
      cs.foldl Component.lead (back.reverse.foldl Component.lead stack) := by
  induction cs generalizing back with
  | nil => rfl
  | cons c cs ih => rw [List.foldl_cons, ih, foldl_lead_fold, List.foldl_cons]

theorem meaning_normalized (p : Path) : p.normalized.meaning = p.meaning := by
  funext stack
  rw [meaning, components_normalized]
  exact foldl_lead_foldl_fold p.components [] stack

theorem normalComponents_normalized (p : Path) :
    p.normalized.normalComponents = p.normalComponents := by
  rw [normalComponents, components_normalized, normalComponents, foldl_fold_reverse]

/-- The normal form of a path goes so many steps up and then down by the names. -/
structure Takes (p : Path) (up : Nat) (names : List Bytes) : Prop where
  form : p.normalComponents = p.origin ++ List.replicate up .parent ++ names.map .name
  rooted : p.isAbsolute = true → up = 0

theorem exists_takes (p : Path) : ∃ up names, p.Takes up names := by
  obtain ⟨base, lower, form, ground, named⟩ := p.exists_base_names
  have bytes : (lower.map Component.bytes).map Component.name = lower := by
    rw [List.map_map]
    conv_rhs => rw [← List.map_id lower]
    apply List.map_congr_left
    intro c member
    obtain ⟨bytes, rfl⟩ := (named c member).name
    rfl
  unfold Base at ground
  split at ground
  · next absolute =>
      refine ⟨0, lower.map Component.bytes, ?_, fun _ => rfl⟩
      rw [form, ground, bytes, origin, if_pos absolute]
      rfl
  · next relative =>
      refine ⟨base.length, lower.map Component.bytes, ?_, fun absolute => absurd absolute relative⟩
      rw [form, bytes, origin, if_neg relative, List.nil_append, ← List.eq_replicate_of_mem ground]

theorem foldl_lead_parents (up : Nat) (stack : List Bytes) :
    (List.replicate up Component.parent).foldl Component.lead stack = stack.drop up := by
  induction up generalizing stack with
  | zero => rfl
  | succ up ih =>
      rw [List.replicate_succ, List.foldl_cons, ih, Component.lead, List.drop_tail]

theorem foldl_lead_names (names stack : List Bytes) :
    (names.map Component.name).foldl Component.lead stack = names.reverse ++ stack := by
  induction names generalizing stack with
  | nil => rfl
  | cons bytes names ih =>
      rw [List.map_cons, List.foldl_cons, ih, List.reverse_cons, List.append_assoc]
      rfl

namespace Takes

variable {up up' : Nat} {names names' : List Bytes} {fresh : Bytes}

theorem meaning (takes : p.Takes up names) (stack : List Bytes) :
    p.meaning stack = names.reverse ++ (if p.isAbsolute then [] else stack.drop up) := by
  rw [← meaning_normalized, Path.meaning, components_normalized, takes.form, List.foldl_append,
    List.foldl_append, foldl_lead_names, foldl_lead_parents, origin]
  cases p.isAbsolute with
  | true =>
      change names.reverse ++ List.drop up [] = _
      rw [List.drop_nil]
      rfl
  | false => rfl

/-- How much a path leaves of a stack of names that it does not use itself. -/
theorem count_meaning (takes : p.Takes up names) (new : fresh ∉ names) (n : Nat) :
    (p.meaning (List.replicate n fresh)).count fresh = if p.isAbsolute then 0 else n - up := by
  rw [takes.meaning, List.count_append, List.count_reverse, List.count_eq_zero.mpr new,
    Nat.zero_add]
  split
  · exact List.count_nil
  · rw [List.drop_replicate, List.count_replicate_self]

end Takes

/-- There are names enough: one is not among any given ones. -/
theorem exists_fresh_name (names : List Bytes) :
    ∃ fresh, (Component.name fresh).IsName ∧ fresh ∉ names := by
  have many : {bytes : Bytes | (Component.name bytes).IsName}.Infinite := by
    apply Set.infinite_of_injective_forall_mem (f := fun n => List.replicate (n + 1) 0x61)
    · intro m n same
      simpa using congrArg List.length same
    · intro n
      refine isName_name_iff.mpr ⟨?_, ?_⟩
      · intro member
        exact absurd (List.eq_of_mem_replicate member) (by decide)
      · cases n <;> simp [isStep, List.replicate_succ, dot]
  obtain ⟨fresh, proper, new⟩ := many.exists_notMem_finset names.toFinset
  exact ⟨fresh, proper, fun member => new (List.mem_toFinset.mpr member)⟩

/-- Paths that lead alike have the same normal form. -/
theorem normalComponents_eq_of_alike (alike : p.Alike q) :
    p.normalComponents = q.normalComponents := by
  obtain ⟨up, names, takes⟩ := p.exists_takes
  obtain ⟨up', names', takes'⟩ := q.exists_takes
  obtain ⟨fresh, proper, unused⟩ := exists_fresh_name (names ++ names')
  rw [List.mem_append, not_or] at unused
  obtain ⟨new, new'⟩ := unused
  -- a stack deep enough for both paths to leave some of it, unless they start at the root
  have same := alike (List.replicate (up + up' + 1) fresh) fun bytes member =>
    List.eq_of_mem_replicate member ▸ proper
  have counts := congrArg (List.count fresh) same
  rw [takes.count_meaning new, takes'.count_meaning new'] at counts
  obtain ⟨start, height⟩ : p.isAbsolute = q.isAbsolute ∧ up = up' := by
    split_ifs at counts with absolute absolute' absolute'
    · exact ⟨absolute.trans absolute'.symm,
        (takes.rooted absolute).trans (takes'.rooted absolute').symm⟩
    · omega
    · omega
    · exact ⟨Bool.eq_iff_iff.mpr (iff_of_false absolute absolute'), by omega⟩
  rw [takes.meaning, takes'.meaning, start, height, List.append_cancel_right_eq,
    List.reverse_inj] at same
  rw [takes.form, takes'.form, origin, origin, start, height, same]

theorem normalized_eq_of_alike (alike : p.Alike q) : p.normalized = q.normalized :=
  congrArg ofComponents (normalComponents_eq_of_alike alike)

theorem alike_of_meaning (same : p.meaning = q.meaning) : p.Alike q :=
  fun stack _ => congrFun same stack

theorem meaning_of_same (same : p.normalized.same q.normalized = true) :
    p.meaning = q.meaning := by
  funext stack
  rw [← meaning_normalized p, ← meaning_normalized q, meaning, meaning, same_iff.mp same]

/-- Paths may be put into normal form before they are joined. -/
theorem normalized_join_parts (p q : Path) :
    (p.normalized.join q.normalized).normalized = (p.join q).normalized := by
  apply normalized_eq_of_alike
  apply alike_of_meaning
  funext stack
  rw [meaning_join, meaning_join, meaning_normalized, meaning_normalized]

theorem normalized_join_normalized (p q : Path) :
    (p.join q.normalized).normalized = (p.join q).normalized := by
  apply normalized_eq_of_alike
  apply alike_of_meaning
  funext stack
  rw [meaning_join, meaning_join, meaning_normalized]

/-- The normal form leads where the path does, starts where it does, and takes no step but leading
`..` of a relative path and names. It is its own normal form, and that of just the paths that lead
alike; for that it is enough that they do so from stacks of names. -/
theorem normalized_canonical (p : Path) :
    p.normalized.meaning = p.meaning ∧
      p.normalized.isAbsolute = p.isAbsolute ∧
      Component.current ∉ p.normalized.components ∧
      (∃ (up : Nat) (names : List Bytes), p.normalized.components =
          p.origin ++ List.replicate up .parent ++ names.map .name ∧
        (p.isAbsolute = true → up = 0)) ∧
      p.normalized.normalized = p.normalized ∧
      ∀ q : Path, (p.normalized.same q.normalized = true ↔ p.meaning = q.meaning) ∧
        (p.normalized = q.normalized ↔ p.Alike q) := by
  obtain ⟨up, names, takes⟩ := p.exists_takes
  have form := p.components_normalized.trans takes.form
  refine ⟨p.meaning_normalized, p.isAbsolute_normalized, ?_, ⟨up, names, form, takes.rooted⟩, ?_,
    fun q => ⟨⟨meaning_of_same, ?_⟩, ?_, normalized_eq_of_alike⟩⟩
  · rw [form]
    rcases p.origin_eq with anywhere | rooted
    · simp [anywhere, List.mem_replicate]
    · simp [rooted, List.mem_replicate]
  · exact congrArg ofComponents p.normalComponents_normalized
  · intro same
    rw [normalized_eq_of_alike (alike_of_meaning same)]
    exact same_iff.mpr rfl
  · intro same
    apply alike_of_meaning
    exact meaning_of_same (same ▸ same_iff.mpr rfl)

/-- What leads back below the start takes more names away there. -/
example : (ofString "./a/../../b//./c").normalized = ofString "../b/c" := by decide +kernel

end Path

end AutoItNav
