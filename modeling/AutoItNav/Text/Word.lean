import AutoItNav.Text.Alphabetic
import AutoItNav.Text.DecimalDigit
import AutoItNav.Text.OtherNumeral
import AutoItNav.Text.WordMark

/-!
The two notions of a word character. Words under the cursor are made of letters, numbers of every
kind and underscores; the word boundary of a declaration has combining marks, connecting
punctuation and joiners inside words, and superscripts and fractions outside them.
-/
namespace AutoItNav

def isAlphabetic (c : Char) : Bool := alphabeticRanges.has c.toNat

def isAlphanumeric (c : Char) : Bool :=
  isAlphabetic c || decimalDigitRanges.has c.toNat || otherNumeralRanges.has c.toNat

def isWordChar (c : Char) : Bool := isAlphanumeric c || c = '_'

/-- Word characters on the two sides of a word boundary. -/
def isBoundaryWord (c : Char) : Bool :=
  isAlphabetic c || decimalDigitRanges.has c.toNat || wordMarkRanges.has c.toNat

end AutoItNav
