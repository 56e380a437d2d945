import AutoItNav.Files.Basic

/-!
All scripts below a directory, depth first in the order of the listings. Directories that cannot be
listed hold nothing, and the depth is bounded since links may lead round in circles.
-/
namespace AutoItNav

def lowerByte (b : UInt8) : UInt8 := if 65 ≤ b ∧ b ≤ 90 then b + 32 else b

def Path.hasExtension (p : Path) (extension : String) : Bool :=
  p.extension?.any fun bytes =>
    bytes.map lowerByte = (Utf8.encode extension.toList).map lowerByte

/-- Levels of directories that are listed: the root and 32 below it. -/
def scanLevels : Nat := 33

def scanBelow (extension : String) : (levels : Nat) → Path → FileM (List Path)
  | 0, _ => .done []
  | levels + 1, dir =>
    .listDir dir fun
      | none => .done []
      | some entries =>
        .concat (fun entry =>
          match entry.kind with
          | .file => .done (if entry.path.hasExtension extension then [entry.path] else [])
          | .directory => scanBelow extension levels entry.path
          | .other => .done []) entries

def scripts (root : Path) (extension : String) : FileM (List Path) :=
  scanBelow extension scanLevels root

end AutoItNav
