import AutoItNav.Text.Pieces
import AutoItNav.Text.Utf8

/-!
Paths. A path is the bytes it is written with; what it names is its list of components. Doubled
and trailing slashes and inner `.` steps are spelling only.
-/
namespace AutoItNav

def slash : UInt8 := 0x2F

def dot : UInt8 := 0x2E

/-- One step of a path; the bytes of a name hold no slash. -/
inductive Component where
  | root
  | current
  | parent
  | name (bytes : Bytes)
deriving DecidableEq, Repr

def Component.bytes : Component → Bytes
  | .root => [slash]
  | .current => [dot]
  | .parent => [dot, dot]
  | .name bytes => bytes

structure Path where
  bytes : Bytes
deriving DecidableEq, Repr

namespace Path

def empty : Path := ⟨[]⟩

def ofText (t : Text) : Path := ⟨Utf8.encode t⟩

def ofString (s : String) : Path := ofText s.toList

/-- For display: bytes that are not text show as replacement characters. -/
def toText (p : Path) : Text := Utf8.decodeLossy p.bytes

def isAbsolute (p : Path) : Bool := p.bytes.head? = some slash

/-- Whether a piece after the first is a step of its own. -/
def isStep (piece : Bytes) : Bool := piece ≠ [] && piece ≠ [dot]

def stepOf (piece : Bytes) : Component := if piece = [dot, dot] then .parent else .name piece

/-- The first piece is empty for an absolute path and for the empty one, and only there is a
single dot kept. -/
def firstStep (absolute : Bool) (piece : Bytes) : List Component :=
  if absolute then [.root]
  else if piece = [] then []
  else if piece = [dot] then [.current]
  else [stepOf piece]

def components (p : Path) : List Component :=
  match pieces slash p.bytes with
  | [] => []
  | first :: rest => firstStep p.isAbsolute first ++ (rest.filter isStep).map stepOf

/-- Same components, whatever the spelling. -/
def same (p q : Path) : Bool := p.components = q.components

/-- `q` seen from `p`; an absolute `q` stands for itself. -/
def join (p q : Path) : Path :=
  if q.isAbsolute then q
  else if p.bytes = [] ∨ p.bytes.getLast? = some slash then ⟨p.bytes ++ q.bytes⟩
  else ⟨p.bytes ++ slash :: q.bytes⟩

def ofComponents (cs : List Component) : Path := cs.foldl (fun p c => p.join ⟨c.bytes⟩) empty

/-- Drops the last pieces that are no step. -/
def trimPieces (body : List Bytes) : List Bytes :=
  (body.reverse.dropWhile fun piece => !isStep piece).reverse

/-- The path without its last component, spelled as before up to there. -/
def parent? (p : Path) : Option Path :=
  match pieces slash p.bytes with
  | [] => none
  | first :: rest =>
    match trimPieces rest with
    | [] => if first = [] then none else some empty
    | body =>
      let upper := trimPieces body.dropLast
      if upper.isEmpty then some ⟨if p.isAbsolute then [slash] else first⟩
      else some ⟨[slash].intercalate (first :: upper)⟩

def fileName? (p : Path) : Option Bytes :=
  match p.components.getLast? with
  | some (.name bytes) => some bytes
  | _ => none

/-- Puts `name` in the place of the file name, or below the path if it has none. -/
def withFileName (p : Path) (name : Path) : Path :=
  match p.fileName?, p.parent? with
  | some _, some dir => dir.join name
  | _, _ => p.join name

/-- What follows the last dot of the file name; a dot in front of a name begins no extension. -/
def extension? (p : Path) : Option Bytes := do
  let name ← p.fileName?
  let back := name.reverse
  let ext := back.takeWhile (· ≠ dot)
  if ext.length + 1 < name.length then some ext.reverse else none

def endsWith (p q : Path) : Bool := q.components.isSuffixOf p.components

end Path

end AutoItNav
