import AutoItNav.Project.Layout
import AutoItNav.Proofs.Path.Parent

/-!
The roots of a project, seen from a file: the nearest directory above it that bears the name for
sources, and the library beside that. What lies between the two and the file has no part in it.
-/
namespace AutoItNav

/-- The step down to what bears a name. -/
def Component.ofString (name : String) : Component := .name (Utf8.encode name.toList)

namespace Path

variable {p file dir : Path} {c : Component} {name : String} {upper lower : List Component}

theorem bytes_eq_iff (named : (Component.ofString name).IsName) :
    c.bytes = Utf8.encode name.toList ↔ c = .ofString name := by
  constructor
  · intro same
    obtain ⟨single, step, down⟩ := isName_name_iff.mp named
    rw [← same] at single step down
    cases c with
    | root => exact absurd (List.mem_singleton_self slash) single
    | current => cases step
    | parent => exact absurd rfl down
    | name bytes => exact congrArg Component.name same
  · rintro rfl
    rfl

theorem ancestorNamed?_of_absent (named : (Component.ofString name).IsName)
    (absent : ∀ dir, file.parent? = some dir → Component.ofString name ∉ dir.components) :
    file.ancestorNamed? name = none := by
  rw [ancestorNamed?, Option.bind_eq_bind, Option.bind_eq_none_iff]
  intro dir above
  have none : dir.components.reverse.dropWhile (·.bytes ≠ Utf8.encode name.toList) = [] := by
    rw [List.dropWhile_eq_nil_iff]
    intro c member
    rw [decide_eq_true_eq, Ne, bytes_eq_iff named]
    rintro rfl
    exact absent dir above (List.mem_reverse.mp member)
  dsimp only
  rw [none]
  rfl

/-- The last directory of that name above a file is found. -/
theorem ancestorNamed?_of_nearest (named : (Component.ofString name).IsName)
    (above : file.parent? = some dir)
    (place : dir.components = upper ++ .ofString name :: lower)
    (nearest : Component.ofString name ∉ lower) :
    file.ancestorNamed? name = some (ofComponents (upper ++ [.ofString name])) := by
  have found : dir.components.reverse.dropWhile (·.bytes ≠ Utf8.encode name.toList) =
      .ofString name :: upper.reverse := by
    have same : (fun c : Component => decide (c.bytes ≠ Utf8.encode name.toList)) =
        fun c => decide (c ≠ .ofString name) := by
      funext c
      rw [decide_eq_decide]
      exact not_congr (bytes_eq_iff named)
    rw [same, place, List.reverse_append, List.reverse_cons, List.append_assoc]
    exact dropWhile_append_separator (fun member => nearest (List.mem_reverse.mp member)) _
  rw [ancestorNamed?, above, Option.bind_eq_bind, Option.bind_some]
  dsimp only
  rw [found, List.reverse_cons, List.reverse_reverse]
  rfl

theorem components_join_legible (p : Path) (legible : c.Legible) :
    (p.join ⟨c.bytes⟩).components = p.components ++ [c] := by
  by_cases top : p.bytes = []
  · obtain rfl : p = empty := congrArg Path.mk top
    rw [empty_join, components_of_legible legible]
    rfl
  · rw [components_join legible.relative top, legible.steps]

/-- The directory beside one that ends with a name is joined to the directory above both. -/
theorem exists_sibling {bytes : Bytes} (ends : p.components = upper ++ [.name bytes])
    (name : String) : ∃ top, p.parent? = some top ∧ top.components = upper ∧
      p.sibling name = top.join (.ofString name) := by
  have titled : p.fileName? = some bytes := by rw [fileName?, ends, List.getLast?_concat]
  obtain ⟨top, above, named⟩ := exists_parent_of_components ends
    (by simp [List.append_eq_singleton_iff])
  refine ⟨top, above, named, ?_⟩
  rw [sibling, withFileName, titled, above]

theorem head?_components : p.components.head? = some .root ↔ p.isAbsolute = true := by
  obtain ⟨lower, whole, rootless⟩ := p.exists_components
  rw [whole, origin]
  split
  · next absolute => simp [absolute]
  · next relative =>
      refine iff_of_false ?_ relative
      intro front
      exact rootless (List.mem_of_head? front)

/-- What begins with the components of another path and has more is below it. -/
theorem below_of_components (start : dir.components ≠ []) (some : lower ≠ [])
    (whole : p.components = dir.components ++ lower) : p.Below dir := by
  refine ⟨?_, lower, some, whole⟩
  rw [Bool.eq_iff_iff, ← head?_components, ← head?_components, whole,
    List.head?_append_of_ne_nil _ start]

end Path

/-- The source root is the nearest directory of its name above the file, and the library root is the
one beside it. -/
structure Roots.Nearest (roots : Roots) (layout : Layout) (file : Path) : Prop where
  named : ∃ upper, roots.source.components = upper ++ [.ofString layout.sourceDir]
  above : ∃ dir lower, file.parent? = some dir ∧
    dir.components = roots.source.components ++ lower ∧
    Component.ofString layout.sourceDir ∉ lower
  below : file.Below roots.source
  library : ∃ top, roots.source.parent? = some top ∧
    roots.library = top.join (.ofString layout.libraryDir)
  beside : roots.library.components =
    roots.source.components.dropLast ++ [.ofString layout.libraryDir]

namespace Layout

variable {layout : Layout} {roots : Roots} {file dir : Path} {upper lower : List Component}

/-- The roots that belong to the source directory with these components. -/
def rootsAt (layout : Layout) (upper : List Component) : Roots :=
  let source := Path.ofComponents (upper ++ [.ofString layout.sourceDir])
  ⟨source, source.sibling layout.libraryDir⟩

theorem roots?_of_nearest (named : (Component.ofString layout.sourceDir).IsName)
    (above : file.parent? = some dir)
    (place : dir.components = upper ++ .ofString layout.sourceDir :: lower)
    (nearest : Component.ofString layout.sourceDir ∉ lower) :
    layout.roots? file = some (layout.rootsAt upper) := by
  rw [roots?, Path.ancestorNamed?_of_nearest named above place nearest]
  rfl

theorem exists_of_roots? (named : (Component.ofString layout.sourceDir).IsName)
    (found : layout.roots? file = some roots) :
    ∃ dir upper lower, file.parent? = some dir ∧
      dir.components = upper ++ .ofString layout.sourceDir :: lower ∧
      Component.ofString layout.sourceDir ∉ lower ∧ roots = layout.rootsAt upper := by
  by_cases present : ∃ dir, file.parent? = some dir ∧
      Component.ofString layout.sourceDir ∈ dir.components
  · obtain ⟨dir, above, member⟩ := present
    obtain ⟨upper, lower, place, nearest⟩ := exists_last_place member
    rw [roots?_of_nearest named above place nearest] at found
    exact ⟨dir, upper, lower, above, place, nearest, (Option.some.inj found).symm⟩
  · rw [roots?, Path.ancestorNamed?_of_absent named fun dir above member =>
      present ⟨dir, above, member⟩] at found
    cases found

theorem components_source_rootsAt
    (place : dir.components = upper ++ .ofString layout.sourceDir :: lower) :
    (layout.rootsAt upper).source.components = upper ++ [.ofString layout.sourceDir] := by
  apply Path.Readable.components_ofComponents
  apply dir.readable_components.of_initial
  exact ⟨lower, by rw [place, List.append_assoc]; rfl⟩

theorem nearest_rootsAt (library : (Component.ofString layout.libraryDir).IsName)
    (above : file.parent? = some dir)
    (place : dir.components = upper ++ .ofString layout.sourceDir :: lower)
    (nearest : Component.ofString layout.sourceDir ∉ lower) :
    (layout.rootsAt upper).Nearest layout file := by
  have source := components_source_rootsAt place
  have whole : dir.components = (layout.rootsAt upper).source.components ++ lower := by
    rw [source, place, List.append_assoc]
    rfl
  obtain ⟨last, own⟩ := Path.exists_last_of_parent? above
  obtain ⟨top, parent, ends, sibling⟩ := Path.exists_sibling source layout.libraryDir
  constructor
  · exact ⟨upper, source⟩
  · exact ⟨dir, lower, above, whole, nearest⟩
  · have deeper : file.components =
        (layout.rootsAt upper).source.components ++ (lower ++ [last]) := by
      rw [own, whole, List.append_assoc]
    exact Path.below_of_components (by simp [source]) (by simp) deeper
  · exact ⟨top, parent, sibling⟩
  · calc
      _ = (top.join (.ofString layout.libraryDir)).components := congrArg Path.components sibling
      _ = top.components ++ [Component.ofString layout.libraryDir] :=
        top.components_join_legible library.toLegible
      _ = _ := by rw [source, List.dropLast_concat, ends]

/-- A file has roots if and only if some directory above it bears the name for sources. They belong
to the nearest such directory, and every file below that without another one in between has the
same roots. -/
theorem roots?_nearest (source : (Component.ofString layout.sourceDir).IsName)
    (library : (Component.ofString layout.libraryDir).IsName) (file : Path) :
    ((∃ roots, layout.roots? file = some roots) ↔
        ∃ dir last, file.parent? = some dir ∧ file.components = dir.components ++ [last] ∧
          Component.ofString layout.sourceDir ∈ dir.components) ∧
      ∀ roots, layout.roots? file = some roots → roots.Nearest layout file ∧
        ∀ file' others last, file'.components = roots.source.components ++ others ++ [last] →
          Component.ofString layout.sourceDir ∉ others → layout.roots? file' = some roots := by
  refine ⟨⟨?_, ?_⟩, ?_⟩
  · rintro ⟨roots, found⟩
    obtain ⟨dir, upper, lower, above, place, _, _⟩ := exists_of_roots? source found
    obtain ⟨last, own⟩ := Path.exists_last_of_parent? above
    exact ⟨dir, last, above, own, by simp [place]⟩
  · rintro ⟨dir, _, above, _, member⟩
    obtain ⟨upper, lower, place, nearest⟩ := exists_last_place member
    exact ⟨_, roots?_of_nearest source above place nearest⟩
  · intro roots found
    obtain ⟨dir, upper, lower, above, place, nearest, rfl⟩ := exists_of_roots? source found
    refine ⟨nearest_rootsAt library above place nearest, ?_⟩
    intro file' others last own absent
    rw [components_source_rootsAt place] at own
    obtain ⟨dir', above', place'⟩ := Path.exists_parent_of_components own
      (by simp [List.append_eq_singleton_iff])
    rw [List.append_assoc] at place'
    exact roots?_of_nearest source above' place' absent

/-- The file bears the name itself, and so do two directories above it; another file is below the
lower one by way of a directory that its path leaves again. -/
theorem roots?_nearest_twice :
    let file : Path := .ofString "/work/src/app/./src//forms/src"
    let other : Path := .ofString "/work/src/app/src/a/../b.au3"
    let roots : Roots := ⟨.ofString "/work/src/app/src", .ofString "/work/src/app/lib"⟩
    ((Component.ofString "src").IsName ∧ (Component.ofString "lib").IsName) ∧
      standard.roots? file = some roots ∧ roots.Nearest standard file ∧
      standard.roots? other = some roots := by
  intro file other roots
  have source : (Component.ofString "src").IsName := Path.isName_name_iff.mpr (by decide +kernel)
  have library : (Component.ofString "lib").IsName := Path.isName_name_iff.mpr (by decide +kernel)
  have found : standard.roots? file = some roots := by decide +kernel
  obtain ⟨nearest, below⟩ := (roots?_nearest source library file).2 roots found
  refine ⟨⟨source, library⟩, found, nearest, ?_⟩
  exact below other [.ofString "a", .parent] (.ofString "b.au3") (by decide +kernel)
    (by decide +kernel)

end Layout

end AutoItNav
