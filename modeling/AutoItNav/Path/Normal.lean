import AutoItNav.Path.Basic

/-!
Lexical normal form of paths: no `.`, and `..` only as the leading steps of a relative path.
-/
namespace AutoItNav

namespace Path

/-- One more component on the reversed normal form: `..` takes the name before it away, is lost at
the root and is kept where there is nothing to take. -/
def fold (back : List Component) : Component → List Component
  | .current => back
  | .parent =>
    match back with
    | .name _ :: upper => upper
    | .root :: _ => back
    | _ => .parent :: back
  | c => c :: back

def normalComponents (p : Path) : List Component := (p.components.foldl fold []).reverse

def normalized (p : Path) : Path := ofComponents p.normalComponents

end Path

end AutoItNav
