import AutoItNav.Proofs.Path.Components
import Mathlib.Data.List.DropRight

/-!
Directories above paths. The parent of a path names all its components but the last one, however
the path is spelled, and components that a path begins with can be written out as a path again.
-/
namespace AutoItNav

namespace Path

variable {p dir : Path} {c : Component} {cs cs' left : List Component} {first : Bytes}
  {rest body : List Bytes}

theorem trimPieces_eq (body : List Bytes) :
    trimPieces body = body.rdropWhile fun piece => !isStep piece := rfl

theorem initial_trimPieces (body : List Bytes) : trimPieces body <+: body :=
  List.rdropWhile_prefix _ body

/-- Trimming takes no step away. -/
theorem filter_trimPieces (body : List Bytes) :
    (trimPieces body).filter isStep = body.filter isStep := by
  induction body using List.reverseRecOn with
  | nil => rfl
  | append_singleton body piece ih =>
      rw [trimPieces_eq, List.rdropWhile_concat]
      cases step : isStep piece with
      | true => rfl
      | false =>
          rw [List.filter_append, List.filter_cons_of_neg (by simp [step]), List.filter_nil,
            List.append_nil]
          exact ih

/-- What is trimmed ends with a step. -/
theorem trimPieces_cases (body : List Bytes) :
    trimPieces body = [] ∨
      ∃ upper last, trimPieces body = upper ++ [last] ∧ isStep last = true := by
  by_cases none : trimPieces body = []
  · exact .inl none
  · refine .inr ⟨_, _, (List.dropLast_concat_getLast none).symm, ?_⟩
    have last := List.rdropWhile_last_not (fun piece => !isStep piece) body none
    rw [Bool.not_eq_true, Bool.not_eq_false'] at last
    exact last

theorem components_of_cut (cut : pieces slash p.bytes = first :: rest) :
    p.components = firstStep p.isAbsolute first ++ (rest.filter isStep).map stepOf := by
  rw [components, cut]

/-- A path is absolute if nothing is in front of its first slash. -/
theorem isAbsolute_of_cut (cut : pieces slash p.bytes = first :: rest) :
    p.isAbsolute = true ↔ first = [] ∧ rest ≠ [] := by
  rw [isAbsolute, decide_eq_true_eq]
  cases bytes : p.bytes with
  | nil =>
      rw [bytes] at cut
      cases cut
      simp
  | cons b bytes' =>
      rw [bytes, pieces_cons] at cut
      cases later : pieces slash bytes' with
      | nil => exact absurd later (pieces_ne_nil slash bytes')
      | cons piece later' =>
          rw [later, consPiece] at cut
          split at cut
          · next here =>
              cases cut
              simp [here]
          · next other =>
              cases cut
              simp [other]

theorem exists_firstStep (inhabited : first ≠ []) : ∃ c, firstStep false first = [c] := by
  unfold firstStep
  rw [if_neg Bool.false_ne_true, if_neg inhabited]
  split
  · exact ⟨_, rfl⟩
  · exact ⟨_, rfl⟩

/-- The components of a path that is written with one piece in front, if any. -/
theorem components_top (absolute : Bool) (single : slash ∉ first)
    (rooted : absolute = true → first = []) :
    (Path.mk (if absolute then [slash] else first)).components = firstStep absolute first ∧
      (Path.mk (if absolute then [slash] else first)).isAbsolute = absolute := by
  cases absolute with
  | true => exact ⟨rfl, rfl⟩
  | false =>
      have cut : pieces slash (Path.mk first).bytes = [first] := pieces_of_not_mem single
      have relative : (Path.mk first).isAbsolute = false := by
        rw [← Bool.not_eq_true, isAbsolute_of_cut cut]
        simp
      refine ⟨?_, relative⟩
      rw [if_neg Bool.false_ne_true, components_of_cut cut, relative]
      exact List.append_nil _

theorem parent?_of_short (cut : pieces slash p.bytes = first :: rest)
    (short : trimPieces rest = []) :
    p.parent? = if first = [] then none else some empty := by
  rw [parent?, cut]
  dsimp only
  rw [short]

theorem parent?_of_long {upper : List Bytes} {last : Bytes}
    (cut : pieces slash p.bytes = first :: rest) (long : trimPieces rest = upper ++ [last]) :
    p.parent? = some (if (trimPieces upper).isEmpty then ⟨if p.isAbsolute then [slash] else first⟩
      else ⟨[slash].intercalate (first :: trimPieces upper)⟩) := by
  rw [parent?, cut]
  dsimp only
  rw [long]
  split
  · next none => simp at none
  · rw [List.dropLast_concat]
    split <;> rfl

/-- The directory that is written with the pieces in front of the last step names what they do. -/
theorem components_upper {upper : List Bytes} (single : ∀ piece ∈ first :: upper, slash ∉ piece)
    (absolute : Bool) (rooted : absolute = true ↔ first = []) (dir : Path)
    (written : dir = if (trimPieces upper).isEmpty then
        ⟨if absolute then [slash] else first⟩
      else ⟨[slash].intercalate (first :: trimPieces upper)⟩) :
    dir.components = firstStep absolute first ++ (upper.filter isStep).map stepOf ∧
      dir.isAbsolute = absolute := by
  obtain ⟨here, later⟩ := List.forall_mem_cons.mp single
  by_cases none : trimPieces upper = []
  · rw [none, List.isEmpty_nil, if_pos rfl] at written
    rw [written, ← filter_trimPieces upper, none, List.filter_nil, List.map_nil, List.append_nil]
    exact components_top absolute here rooted.mp
  · have inside : ∀ piece ∈ first :: trimPieces upper, slash ∉ piece :=
      List.forall_mem_cons.mpr
        ⟨here, fun piece member => later piece ((initial_trimPieces upper).subset member)⟩
    rw [if_neg (by simp [none])] at written
    have cut : pieces slash dir.bytes = first :: trimPieces upper := by
      rw [written]
      exact pieces_intercalate inside
    have start : dir.isAbsolute = absolute := by
      rw [Bool.eq_iff_iff, isAbsolute_of_cut cut, rooted]
      exact and_iff_left none
    exact ⟨by rw [components_of_cut cut, start, filter_trimPieces], start⟩

/-- A path has a parent unless it is empty or the root, and then it names just one component more
than its parent. -/
theorem parent?_cases (p : Path) :
    p.parent? = none ∧ p.components = p.origin ∨
      ∃ dir last, p.parent? = some dir ∧ p.components = dir.components ++ [last] ∧
        p.isAbsolute = dir.isAbsolute := by
  cases cut : pieces slash p.bytes with
  | nil => exact absurd cut (pieces_ne_nil slash p.bytes)
  | cons first rest =>
      have whole := components_of_cut cut
      have start := isAbsolute_of_cut cut
      rw [← filter_trimPieces rest] at whole
      rcases trimPieces_cases rest with short | ⟨upper, last, long, step⟩
      · rw [short, List.filter_nil, List.map_nil, List.append_nil] at whole
        rw [parent?_of_short cut short]
        by_cases bare : first = []
        · left
          refine ⟨if_pos bare, ?_⟩
          rw [whole, bare, origin]
          rfl
        · right
          have relative : p.isAbsolute = false := by simp [← Bool.not_eq_true, start, bare]
          obtain ⟨c, one⟩ := exists_firstStep bare
          refine ⟨empty, c, if_neg bare, ?_, relative⟩
          rw [whole, relative, one]
          rfl
      · right
        have below : upper ++ [last] <+: rest := long ▸ initial_trimPieces rest
        have more : rest ≠ [] := by
          rintro rfl
          simp at below
        have single : ∀ piece ∈ first :: upper, slash ∉ piece := by
          intro piece member
          apply not_mem_of_mem_pieces (l := p.bytes)
          rw [cut]
          rcases List.mem_cons.mp member with rfl | member
          · exact List.mem_cons_self
          · exact List.mem_cons_of_mem _ (below.subset (List.mem_append_left _ member))
        obtain ⟨named, absolute⟩ := components_upper single p.isAbsolute
          (start.trans (and_iff_left more)) _ rfl
        refine ⟨_, stepOf last, parent?_of_long cut long, ?_, absolute.symm⟩
        rw [named, whole, long, List.filter_append, List.filter_cons_of_pos step, List.filter_nil,
          List.map_append, List.append_assoc]
        rfl

theorem exists_last_of_parent? (above : p.parent? = some dir) :
    ∃ last, p.components = dir.components ++ [last] := by
  rcases p.parent?_cases with ⟨none, _⟩ | ⟨dir', last, above', whole, _⟩
  · rw [above] at none
    cases none
  · obtain rfl : dir = dir' := Option.some.inj (above.symm.trans above')
    exact ⟨last, whole⟩

theorem exists_parent_of_components (whole : p.components = cs ++ [c])
    (lower : cs ++ [c] ≠ [.root]) : ∃ dir, p.parent? = some dir ∧ dir.components = cs := by
  rcases p.parent?_cases with ⟨_, bare⟩ | ⟨dir, last, above, whole', _⟩
  · rw [whole] at bare
    rcases p.origin_eq with anywhere | rooted
    · simp [anywhere] at bare
    · exact absurd (bare.trans rooted) lower
  · rw [whole] at whole'
    obtain ⟨rfl, _⟩ := List.append_inj' whole' rfl
    exact ⟨dir, above, rfl⟩

end Path

end AutoItNav
