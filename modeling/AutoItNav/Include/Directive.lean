import AutoItNav.Path.Basic
import AutoItNav.Text.Blank
import AutoItNav.Text.Spelling
import AutoItNav.Text.Word

/-!
Include directives. A directive takes up the start of a line: `#include` in any case, then a target
in double quotes, single quotes or angle brackets; what follows is ignored. Lines inside comment
blocks hold none.
-/
namespace AutoItNav

inductive IncludeKind where
  | quoted
  | library
deriving DecidableEq, Repr

structure Include where
  target : Text
  kind : IncludeKind
  line : UInt32
deriving DecidableEq, Repr

namespace Include

def keyword : Text := ['#', 'i', 'n', 'c', 'l', 'u', 'd', 'e']

/-- The delimiter that ends a target, with the kind of directive that the opening one makes. -/
def closing? : Char → Option (Char × IncludeKind)
  | '"' => some ('"', .quoted)
  | '\'' => some ('\'', .quoted)
  | '<' => some ('>', .library)
  | _ => none

def parseLine? (line : Text) (number : UInt32) : Option Include := do
  let start := Text.trimStart line
  if !beginsAscii keyword start then none
  else
    match Text.trimStart (start.drop keyword.length) with
    | [] => none
    | opening :: rest =>
      let (close, kind) ← closing? opening
      let inside := rest.takeWhile (· ≠ close)
      let target := Text.trim inside
      if inside.length = rest.length || target.isEmpty then none
      else some ⟨target, kind, number⟩

def startMarkers : List Text :=
  [['#', 'c', 'o', 'm', 'm', 'e', 'n', 't', 's', '-', 's', 't', 'a', 'r', 't'], ['#', 'c', 's']]

def endMarkers : List Text :=
  [['#', 'c', 'o', 'm', 'm', 'e', 'n', 't', 's', '-', 'e', 'n', 'd'], ['#', 'c', 'e']]

/-- Whether a marker stands at the front and does not go on as a longer word. -/
def isMarker (markers : List Text) (line : Text) : Bool :=
  markers.any fun marker =>
    beginsAscii marker line &&
      !(line.drop marker.length).head?.any fun c => isAlphanumeric c || c = '-' || c = '_'

/-- Where the reader of directives stands: the next line, the blocks still open and the directives
found, newest first. -/
structure Reading where
  number : UInt32
  depth : Nat
  found : List Include

def readLine (r : Reading) (line : Text) : Reading :=
  let start := Text.trimStart line
  let next := r.number + 1
  if isMarker startMarkers start then { r with number := next, depth := r.depth + 1 }
  else if isMarker endMarkers start then { r with number := next, depth := r.depth - 1 }
  else if 0 < r.depth then { r with number := next }
  else
    match parseLine? start r.number with
    | some d => { r with number := next, found := d :: r.found }
    | none => { r with number := next }

/-- The directives of a text in order. -/
def parseText (t : Text) : List Include :=
  ((Text.lines t).foldl readLine ⟨0, 0, []⟩).found.reverse

def isSeparator (c : Char) : Bool := c = '\\' || c = '/'

/-- The target as a path. Either separator divides it, unless it is absolute. -/
def targetPath (d : Include) : Path :=
  let raw := Text.trim d.target
  if raw.head? = some '/' then .ofText raw
  else
    let names := (pieces '/' (raw.map fun c => if isSeparator c then '/' else c)).filter (· ≠ [])
    names.foldl (fun p name => p.join (.ofText name)) .empty

end Include

end AutoItNav
