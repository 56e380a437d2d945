import AutoItNav.Declaration.Engine
import AutoItNav.Declaration.Pattern

/-!
The search for an identifier's first declaration. Lines are tried from their start; only lines on
which the identifier occurs are tried, each of them once.
-/
namespace AutoItNav

/-- A declaration in a text, in bytes: where it starts, the keyword with the blanks behind it, and
the name as it is spelled. -/
structure Declaration where
  start : Nat
  keyword : Nat
  length : Nat
deriving DecidableEq, Repr

/-- Where the declared name begins. -/
def Declaration.offset (d : Declaration) : Nat := d.start + d.keyword

namespace Identifier

open Declaration

/-- The declaration that a match on the line at byte `here` captures. -/
def declarationOf? (here : Nat) (p : Spot) : Option Declaration := do
  let whole ← p.captured? .declaration
  let name ← p.captured? .name
  return ⟨here + whole.start, ((p.captured? .keyword).map Captured.size).getD 0, name.size⟩

/-- Tries the line at byte `here` that `line` begins. -/
def tryLine (id : Identifier) (here : Nat) (line : Text) : Except SearchError (Option Declaration) :=
  (id.regex.search id.spelling line).map fun found => found.bind (declarationOf? here)

/-- A place in the search: the current line and its offset, whether it was tried, and how many
characters still belong to the occurrence met last. -/
structure Cursor where
  lineStart : Nat
  line : Text
  tried : Bool
  within : Nat

/-- The cursor behind the character `c` that ends at byte `here`, with `t` ahead. -/
def Cursor.step (cur : Cursor) (c : Char) (here : Nat) (t : Text) : Cursor :=
  if c = '\n' then ⟨here, t, false, cur.within - 1⟩ else { cur with within := cur.within - 1 }

def search (id : Identifier) (cur : Cursor) (here : Nat) :
    Text → Except SearchError (Option Declaration)
  | [] => .ok none
  | c :: t =>
    let next := here + c.utf8Size
    if cur.within = 0 ∧ id.spelling.begins id.text (c :: t) then
      let occurred := { cur with within := id.text.length, tried := true }
      if cur.tried then id.search (occurred.step c next t) next t
      else
        match id.tryLine cur.lineStart cur.line with
        | .ok none => id.search (occurred.step c next t) next t
        | result => result
    else id.search (cur.step c next t) next t

/-- The first declaration of `id` in `t`. -/
def find (id : Identifier) (t : Text) : Except SearchError (Option Declaration) :=
  id.search ⟨0, t, false, 0⟩ 0 t

end Identifier

end AutoItNav
