import AutoItNav.Text.Basic

/-!
Positions in a text. A position counts lines from zero and UTF-16 units from the start of its line;
an offset counts bytes. Projecting an offset never fails, finding a position fails only when the
text has no such line.
-/
namespace AutoItNav

structure Position where
  line : UInt32
  character : UInt32
deriving DecidableEq, Repr, Inhabited

structure Span where
  start : Position
  stop : Position
deriving DecidableEq, Repr, Inhabited

def Position.zero : Position := ⟨0, 0⟩

def Span.zero : Span := ⟨.zero, .zero⟩

/-- Reading order: by line, then by column. -/
def Position.before (p q : Position) : Prop :=
  p.line < q.line ∨ p.line = q.line ∧ p.character < q.character

instance (p q : Position) : Decidable (p.before q) := inferInstanceAs (Decidable (_ ∨ _ ∧ _))

namespace Text

/-- Line and column after one more character. -/
def stepOver (here : Nat × Nat) (c : Char) : Nat × Nat :=
  if c = '\n' then (here.1 + 1, 0) else (here.1, here.2 + unitsOf c)

/-- Line and column reached by the characters that end within the next `offset` bytes. -/
def walk : Nat × Nat → Nat → Text → Nat × Nat
  | here, _, [] => here
  | here, offset, c :: t =>
    if c.utf8Size ≤ offset then walk (stepOver here c) (offset - c.utf8Size) t else here

/-- An offset inside a character counts as that character's start, one past the end as the end. -/
def positionAt (t : Text) (offset : Nat) : Position :=
  let (line, column) := walk (0, 0) offset t
  ⟨line.toUInt32, column.toUInt32⟩

/-- Skips `count` lines: the byte offset of the line reached and the text from there on. -/
def seekLine : (count here : Nat) → Text → Option (Nat × Text)
  | 0, here, t => some (here, t)
  | _ + 1, _, [] => none
  | n + 1, here, c :: t =>
    if c = '\n' then seekLine n (here + 1) t else seekLine (n + 1) (here + c.utf8Size) t

/-- Offset of the first column at or after `column`, or of the line's end. -/
def seekColumn (column : Nat) : (passed here : Nat) → Text → Nat
  | _, here, [] => here
  | passed, here, c :: t =>
    if c = '\n' ∨ column ≤ passed then here
    else seekColumn column (passed + unitsOf c) (here + c.utf8Size) t

def offsetAt? (t : Text) (p : Position) : Option Nat :=
  (seekLine p.line.toNat 0 t).map fun (here, rest) => seekColumn p.character.toNat 0 here rest

end Text

end AutoItNav
