import AutoItNav.Definition.Location

/-!
Open documents and the edits that clients make to them.
-/
namespace AutoItNav

/-- A change of a document: of the whole text, or of the text between two positions. -/
structure Edit where
  span : Option Span
  text : Text
deriving DecidableEq, Repr

structure Document where
  uri : Uri
  text : Text
  version : Int
deriving DecidableEq, Repr

namespace Text

/-- Cuts at a byte offset; an offset inside a character counts as its end. -/
def splitAtByte (back : Text) : (offset : Nat) → Text → Text × Text
  | 0, t => (back.reverse, t)
  | _ + 1, [] => (back.reverse, [])
  | n + 1, c :: t => splitAtByte (c :: back) (n + 1 - c.utf8Size) t

/-- Puts `new` in the place of the bytes from `start` up to `stop`. -/
def replace (t : Text) (start stop : Nat) (new : Text) : Text :=
  let (before, rest) := splitAtByte [] start t
  before ++ new ++ (splitAtByte [] (stop - start) rest).2

/-- An edit is left out if one of its lines does not exist or its ends are in the wrong order. -/
def edited (t : Text) (e : Edit) : Text :=
  match e.span with
  | none => e.text
  | some span =>
    match offsetAt? t span.start, offsetAt? t span.stop with
    | some start, some stop => if start ≤ stop then t.replace start stop e.text else t
    | _, _ => t

end Text

namespace Document

def script (d : Document) : Script := ⟨d.uri, d.text⟩

/-- The document after a batch of edits, each made to the text that the ones before it left. -/
def change (d : Document) (edits : List Edit) (version : Int) : Document :=
  { d with text := edits.foldl Text.edited d.text, version }

end Document

end AutoItNav
