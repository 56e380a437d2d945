import AutoItNav.Definition.Location
import AutoItNav.Files.Scan
import AutoItNav.Include.Resolve
import AutoItNav.Project.Layout

/-!
The search through included scripts. Only scripts that the document itself includes are read, in
the order of its directives and up to the first that declares the identifier.
-/
namespace AutoItNav

/-- What one search took. -/
structure Work where
  candidates : Nat
  included : Nat
  read : Nat
deriving DecidableEq, Repr

def Work.none : Work := ⟨0, 0, 0⟩

/-- A script that declares what was looked for. -/
structure ScriptMatch where
  path : Path
  text : Text
  declaration : Declaration
deriving DecidableEq, Repr

def ScriptMatch.location? (m : ScriptMatch) : Option Location :=
  Location.ofPath? m.path (m.declaration.nameSpan m.text)

/-- Every script of the project, sources before libraries. -/
def Roots.scripts (roots : Roots) (layout : Layout) : FileM (List Path) := do
  let sources ← AutoItNav.scripts roots.source layout.extension
  let libraries ← AutoItNav.scripts roots.library layout.extension
  return sources ++ libraries

/-- The scripts that a document includes, and the work done to find them. -/
def Script.includes (s : Script) (layout : Layout) : FileM (List Path × Work) :=
  match s.path?.bind layout.roots? with
  | none => .done ([], .none)
  | some roots => do
    let candidates ← roots.scripts layout
    let included := Include.select s.text s.directory? candidates
    return (included, ⟨candidates.length, included.length, 0⟩)

/-- The first script that declares the identifier, with the number of scripts read. Scripts that
cannot be read or searched are passed over. -/
def Identifier.firstScript? (id : Identifier) (count : Nat) :
    List Path → FileM (Option ScriptMatch × Nat)
  | [] => .done (none, count)
  | path :: rest =>
    .readText path fun
      | none => id.firstScript? count rest
      | some text =>
        match id.find text with
        | .ok (some d) => .done (some ⟨path, text, d⟩, count + 1)
        | _ => id.firstScript? (count + 1) rest

def Script.includedDeclaration? (s : Script) (id : Identifier) (layout : Layout) :
    FileM (Option Location × Work) := do
  let (included, work) ← s.includes layout
  let (found, read) ← id.firstScript? 0 included
  return (found.bind ScriptMatch.location?, { work with read })

end AutoItNav
