import AutoItNav.Text.Blank
import AutoItNav.Text.Line
import AutoItNav.Text.Spelling

/-!
Identifiers. A word is a variable if it begins with the sigil and a function otherwise; a blank
word and a lone sigil are neither.
-/
namespace AutoItNav

/-- What an identifier's text is: not blank, without blanks at its ends, not just a sigil. -/
def IsIdentifier (t : Text) : Prop := t ≠ [] ∧ t ≠ [sigil] ∧ Text.trim t = t

instance (t : Text) : Decidable (IsIdentifier t) :=
  inferInstanceAs (Decidable (_ ∧ _ ∧ _))

structure Identifier where
  text : Text
  valid : IsIdentifier text
deriving DecidableEq

namespace Identifier

inductive Kind where
  | variable
  | function
deriving DecidableEq, Repr

def kind (id : Identifier) : Kind := if id.text.head? = some sigil then .variable else .function

def isVariable (id : Identifier) : Bool := id.kind = .variable

/-- Variables are found in any case, functions only as they are spelled. -/
def spelling (id : Identifier) : Spelling :=
  match id.kind with
  | .variable => .anyCase
  | .function => .exact

/-- Classifies a word after trimming it. -/
def ofWord? (word : Text) : Option Identifier :=
  let t := Text.trim word
  if h : IsIdentifier t then some ⟨t, h⟩ else none

end Identifier

end AutoItNav
