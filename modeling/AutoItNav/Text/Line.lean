import AutoItNav.Text.Position
import AutoItNav.Text.Word

/-!
What a cursor sees: the line that holds an offset and the word that touches a position.
-/
namespace AutoItNav

/-- The sign that every variable begins with. -/
def sigil : Char := '$'

namespace Text

def isReturn (c : Char) : Bool := c = '\r'

/-- The line from `start` on, where `offset` more bytes from `rest` lead to the place asked for;
none if that place is inside a character. -/
def lineFrom (start : Text) : Nat → Text → Option Text
  | 0, _ => some (dropTrailing isReturn (restOfLine start))
  | _ + 1, [] => some (dropTrailing isReturn (restOfLine start))
  | offset + 1, c :: rest =>
    if c.utf8Size ≤ offset + 1 then
      lineFrom (if c = '\n' then rest else start) (offset + 1 - c.utf8Size) rest
    else none

/-- The line around an offset without its line break; offsets past the end count as the end. -/
def lineAt? (t : Text) (offset : Nat) : Option Text := lineFrom t offset t

/-- Characters between the start of the line reached and the end of the first `offset` bytes. -/
def columnChars : (count offset : Nat) → Text → Nat
  | n, _, [] => n
  | n, offset, c :: t =>
    if c.utf8Size ≤ offset then
      columnChars (if c = '\n' then 0 else n + 1) (offset - c.utf8Size) t
    else n

/-- The token around a cut: characters before it in reverse and characters from it on. The result
is the token with the text before it on the line. -/
def tokenAt (back ahead : Text) : Option (Text × Text) :=
  let (back, ahead) := match ahead with
    | c :: d :: rest => if c = sigil ∧ isWordChar d then (c :: back, d :: rest) else (back, ahead)
    | _ => (back, ahead)
  let left := back.takeWhile isWordChar
  let right := ahead.takeWhile isWordChar
  if left.isEmpty ∧ right.isEmpty then none
  else
    let run := left.reverse ++ right
    match back.dropWhile isWordChar with
    | c :: before => if c = sigil then some (before.reverse, c :: run) else some ((c :: before).reverse, run)
    | [] => some ([], run)

/-- The word that the cursor is in or right behind, with its place. -/
def wordAt (t : Text) (p : Position) : Option (Text × Span) := do
  let offset ← offsetAt? t p
  let line ← lineAt? t offset
  let column := columnChars 0 offset t
  if line.length < column then none
  else
    let (before, word) ← tokenAt (line.take column).reverse (line.drop column)
    let start := units before
    some (word, ⟨⟨p.line, start.toUInt32⟩, ⟨p.line, (start + units word).toUInt32⟩⟩)

end Text

end AutoItNav
