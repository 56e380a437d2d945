import AutoItNav.Include.Directive
import AutoItNav.Path.Normal

/-!
What includes refer to. A quoted target is looked for beside the document first and then anywhere
by its trailing components; a library target the other way round.
-/
namespace AutoItNav

namespace Include

/-- The place of the target seen from `dir`. -/
def besideIn? (target : Path) (dir : Option Path) (candidates : List Path) : Option Nat := do
  let wanted ← if target.isAbsolute then some target else dir.map fun d => (d.join target).normalized
  candidates.findIdx? (·.same wanted)

/-- The first candidate that ends with the target. -/
def trailingIn? (target : Path) (candidates : List Path) : Option Nat :=
  if target.isAbsolute then none else candidates.findIdx? (·.endsWith target)

/-- The index of the candidate that a directive means; the candidates are in normal form. -/
def resolve? (d : Include) (dir : Option Path) (candidates : List Path) : Option Nat :=
  let target := d.targetPath.normalized
  if target.bytes.isEmpty then none
  else match d.kind with
    | .quoted => besideIn? target dir candidates <|> trailingIn? target candidates
    | .library => trailingIn? target candidates <|> besideIn? target dir candidates

/-- Indices without repetition, each at its first place. -/
def firstUses (seen : List Nat) : List Nat → List Nat
  | [] => []
  | i :: rest => if seen.contains i then firstUses seen rest else i :: firstUses (i :: seen) rest

/-- The candidates that the directives of a text mean, in the order of first mention. -/
def select (t : Text) (dir : Option Path) (candidates : List Path) : List Path :=
  let normal := candidates.map Path.normalized
  (firstUses [] ((parseText t).filterMap (resolve? · dir normal))).filterMap (candidates[·]?)

end Include

end AutoItNav
