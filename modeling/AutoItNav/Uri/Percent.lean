import AutoItNav.Text.Utf8

/-!
Percent-encoding. Which characters stay is a set of the place they stand in; control characters and
everything beyond ASCII never stay.
-/
namespace AutoItNav.Uri

def upperHexDigit (n : Nat) : Char := Char.ofNat (if n < 10 then 48 + n else 55 + n)

def hexValue? (b : UInt8) : Option UInt8 :=
  if 48 ≤ b ∧ b ≤ 57 then some (b - 48)
  else if 65 ≤ b ∧ b ≤ 70 then some (b - 55)
  else if 97 ≤ b ∧ b ≤ 102 then some (b - 87)
  else none

def encodeByte (b : UInt8) : Text :=
  ['%', upperHexDigit (b.toNat / 16), upperHexDigit (b.toNat % 16)]

/-- A printable ASCII character outside `reserved`. -/
def stays (reserved : Text) (b : UInt8) : Bool :=
  0x20 ≤ b && b < 0x7F && !reserved.contains (Char.ofNat b.toNat)

def percentEncode (reserved : Text) (bytes : Bytes) : Text :=
  bytes.flatMap fun b => if stays reserved b then [Char.ofNat b.toNat] else encodeByte b

def encodeText (reserved t : Text) : Text := percentEncode reserved (Utf8.encode t)

/-- A percent sign without two hexadecimal digits behind it stands for itself. -/
def percentDecode : Bytes → Bytes
  | 0x25 :: a :: b :: rest =>
    match hexValue? a, hexValue? b with
    | some x, some y => (x * 16 + y) :: percentDecode rest
    | _, _ => 0x25 :: percentDecode (a :: b :: rest)
  | c :: rest => c :: percentDecode rest
  | [] => []

def fragmentReserved : Text := [' ', '"', '<', '>', '\x60']

def queryReserved : Text := [' ', '"', '#', '<', '>']

def pathReserved : Text := fragmentReserved ++ ['#', '?', '\x7b', '\x7d']

/-- What is encoded in a component of a file path besides what a path reserves. -/
def segmentReserved : Text := pathReserved ++ ['/', '%', '\\']

def credentialReserved : Text :=
  pathReserved ++ ['/', ':', ';', '=', '@', '[', '\\', ']', '^', '|']

end AutoItNav.Uri
