import AutoItNav.Path.Basic

/-!
Where a project keeps its scripts: a source directory somewhere above the document and a library
directory beside it.
-/
namespace AutoItNav

structure Layout where
  sourceDir : String
  libraryDir : String
  extension : String
  searchIncludes : Bool
deriving DecidableEq, Repr

def Layout.standard : Layout := ⟨"src", "lib", "au3", true⟩

structure Roots where
  source : Path
  library : Path
deriving DecidableEq, Repr

/-- The nearest directory of that name above a file, as the path down to it. -/
def Path.ancestorNamed? (file : Path) (name : String) : Option Path := do
  let dir ← file.parent?
  let back := dir.components.reverse
  let upTo := back.dropWhile (·.bytes ≠ Utf8.encode name.toList)
  if upTo.isEmpty then none else some (.ofComponents upTo.reverse)

/-- The directory of that name beside another one; it need not exist. -/
def Path.sibling (dir : Path) (name : String) : Path := dir.withFileName (.ofString name)

def Layout.roots? (layout : Layout) (file : Path) : Option Roots :=
  (file.ancestorNamed? layout.sourceDir).map fun source =>
    ⟨source, source.sibling layout.libraryDir⟩

end AutoItNav
