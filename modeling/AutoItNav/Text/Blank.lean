import AutoItNav.Text.Basic

/-!
White space as the Unicode property `White_Space` has it, and trimming by it.
-/
namespace AutoItNav

namespace Text

def isBlank (c : Char) : Bool :=
  let n := c.toNat
  (9 ≤ n && n ≤ 13) || n = 0x20 || n = 0x85 || n = 0xA0 || n = 0x1680 ||
    (0x2000 ≤ n && n ≤ 0x200A) || n = 0x2028 || n = 0x2029 || n = 0x202F || n = 0x205F ||
    n = 0x3000

def trimStart (t : Text) : Text := t.dropWhile isBlank

def trimEnd (t : Text) : Text := dropTrailing isBlank t

def trim (t : Text) : Text := trimEnd (trimStart t)

end Text

/-- A string without the white space at its ends. -/
def trimmed (s : String) : String := String.ofList (Text.trim s.toList)

end AutoItNav
