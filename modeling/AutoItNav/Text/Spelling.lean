import AutoItNav.Text.CaseFold

/-!
Comparing literals with text: letter by letter, exactly or up to simple case folding. Either way a
literal takes up as many characters as it has itself.
-/
namespace AutoItNav

inductive Spelling where
  | exact
  | anyCase
deriving DecidableEq, Repr

namespace Spelling

def same : Spelling → Char → Char → Bool
  | .exact, a, b => a = b
  | .anyCase, a, b => a = b || foldCase a = foldCase b

/-- The text behind the literal, if the text begins with it. -/
def after? (s : Spelling) : (literal t : Text) → Option Text
  | [], t => some t
  | _ :: _, [] => none
  | a :: literal, c :: t => if s.same a c then s.after? literal t else none

def begins (s : Spelling) (literal t : Text) : Bool := (s.after? literal t).isSome

end Spelling

/-- ASCII letters in either case; every other character only as it is. -/
def sameAscii (a b : Char) : Bool := lowerAscii a = lowerAscii b

def beginsAscii : (literal t : Text) → Bool
  | [], _ => true
  | _ :: _, [] => false
  | a :: literal, c :: t => sameAscii a c && beginsAscii literal t

end AutoItNav
