import AutoItNav.Text.CaseFold
import AutoItNav.Text.Pieces
import AutoItNav.Uri.Basic
import AutoItNav.Uri.Percent

/-!
Hosts as URIs print them: addresses in their shortest form, names in lower case with labels beyond
ASCII in their encoded form.
-/
namespace AutoItNav.Uri

def isDecimalDigit (c : Char) : Bool := '0' ≤ c && c ≤ '9'

def digitValue? (base : Nat) (c : Char) : Option Nat :=
  let value? :=
    if isDecimalDigit c then some (c.toNat - 48)
    else if 'a' ≤ c ∧ c ≤ 'f' then some (c.toNat - 87)
    else if 'A' ≤ c ∧ c ≤ 'F' then some (c.toNat - 55)
    else none
  value?.filter (· < base)

def digitsValue? (base : Nat) (t : Text) : Option Nat :=
  t.foldl (fun n c => do return (← n) * base + (← digitValue? base c)) (some 0)

/-- A part of a dotted address: hexadecimal behind `0x`, octal behind `0`, else decimal. -/
def addressPart? : Text → Option Nat
  | [] => none
  | '0' :: 'x' :: t => digitsValue? 16 t
  | '0' :: 'X' :: t => digitsValue? 16 t
  | '0' :: d :: t => digitsValue? 8 (d :: t)
  | t => digitsValue? 10 t

/-- The parts of a dotted name; a final dot adds none. -/
def dottedParts (t : Text) : List Text :=
  let parts := pieces '.' t
  if 1 < parts.length ∧ parts.getLast? = some [] then parts.dropLast else parts

/-- A name whose last part is a number has to be an address. -/
def endsInNumber (t : Text) : Bool :=
  match (dottedParts t).getLast? with
  | some last => (!last.isEmpty && last.all isDecimalDigit) || (addressPart? last).isSome
  | none => false

/-- The last part fills the bytes that the parts before it leave. -/
def address4? (t : Text) : Option Nat := do
  let parts := dottedParts t
  if 4 < parts.length then none
  else
    let numbers ← parts.mapM addressPart?
    let last ← numbers.getLast?
    let front := numbers.dropLast
    if front.all (· < 256) ∧ last < Nat.pow 256 (4 - front.length) then
      some ((front.zipIdx.map fun (n, i) => n * Nat.pow 256 (3 - i)).foldl (· + ·) last)
    else none

def address4Text (n : Nat) : Text :=
  ['.'].intercalate ([3, 2, 1, 0].map fun i => decimal (n / Nat.pow 256 i % 256))

/-- A decimal byte without a leading zero. -/
def byte? (t : Text) : Option Nat :=
  if t.isEmpty || (1 < t.length && t.head? = some '0') then none
  else (digitsValue? 10 t).filter (· < 256)

def group? (t : Text) : Option Nat :=
  if t.isEmpty || 4 < t.length then none else digitsValue? 16 t

/-- The groups of one side of an address; the last one may be four dotted bytes. -/
def groups? (mayEndDotted : Bool) (t : Text) : Option (List Nat) :=
  if t.isEmpty then some []
  else
    let parts := pieces ':' t
    let last := parts.getLastD []
    if mayEndDotted && last.contains '.' then do
      let front ← parts.dropLast.mapM group?
      match ← (pieces '.' last).mapM byte? with
      | [a, b, c, d] => some (front ++ [a * 256 + b, c * 256 + d])
      | _ => none
    else parts.mapM group?

/-- Cuts at the first double colon. -/
def cutDoubleColon (back : Text) : Text → Option (Text × Text)
  | ':' :: ':' :: t => some (back.reverse, t)
  | c :: t => cutDoubleColon (c :: back) t
  | [] => none

def address6? (t : Text) : Option (List Nat) :=
  match cutDoubleColon [] t with
  | none => (groups? true t).filter (·.length = 8)
  | some (left, right) => do
    let front ← groups? false left
    let back ← groups? true right
    if front.length + back.length < 8 then
      some (front ++ List.replicate (8 - front.length - back.length) 0 ++ back)
    else none

/-- Length of the run of zeros at the front. -/
def zeroRun (groups : List Nat) : Nat := (groups.takeWhile (· = 0)).length

/-- Start and length of the first longest run of zeros. -/
def longestZeroRun (here : Nat) : List Nat → Nat × Nat
  | [] => (here, 0)
  | g :: rest =>
    let run := zeroRun (g :: rest)
    let later := longestZeroRun (here + 1) rest
    if later.2 ≤ run then (here, run) else later

def hexText (n : Nat) : Text := Nat.toDigits 16 n

def address6Text (groups : List Nat) : Text :=
  let (start, length) := longestZeroRun 0 groups
  if length < 2 then [':'].intercalate (groups.map hexText)
  else
    [':'].intercalate ((groups.take start).map hexText) ++ [':', ':']
      ++ [':'].intercalate ((groups.drop (start + length)).map hexText)

/-- Moves the bias of a variable-length number on. -/
def adaptBias : (fuel delta k : Nat) → Nat
  | 0, delta, k => k + 36 * delta / (delta + 38)
  | fuel + 1, delta, k =>
    if 455 < delta then adaptBias fuel (delta / 35) (k + 36) else k + 36 * delta / (delta + 38)

def labelDigit (n : Nat) : Char := Char.ofNat (if n < 26 then 97 + n else 22 + n)

/-- A number in variable-length digits of base 36 under a bias. -/
def labelNumber : (fuel bias k q : Nat) → Text
  | 0, _, _, _ => []
  | fuel + 1, bias, k, q =>
    let t := if k ≤ bias then 1 else if bias + 26 ≤ k then 26 else k - bias
    if q < t then [labelDigit q]
    else labelDigit (t + (q - t) % (36 - t)) :: labelNumber fuel bias (k + 36) ((q - t) / (36 - t))

structure LabelState where
  delta : Nat
  bias : Nat
  handled : Nat
  out : Text

/-- Encodes the occurrences of the code point `n`; those below it only widen the distance. -/
def labelRound (basic n : Nat) (st : LabelState) (c : Char) : LabelState :=
  if c.toNat < n then { st with delta := st.delta + 1 }
  else if c.toNat = n then
    let first := st.handled = basic
    let delta := if first then st.delta / 700 else st.delta / 2
    { delta := 0
      bias := adaptBias 64 (delta + delta / (st.handled + 1)) 0
      handled := st.handled + 1
      out := st.out ++ labelNumber 64 st.bias 36 st.delta }
  else st

/-- One round for each code point above the ones done, in ascending order. -/
def labelRounds (label : Text) (basic : Nat) : (fuel n : Nat) → LabelState → Text
  | 0, _, st => st.out
  | fuel + 1, n, st =>
    match ((label.map Char.toNat).filter (n ≤ ·)).min? with
    | none => st.out
    | some m =>
      let st := { st with delta := st.delta + (m - n) * (st.handled + 1) }
      let st := label.foldl (labelRound basic m) st
      labelRounds label basic fuel (m + 1) { st with delta := st.delta + 1 }

/-- A label beyond ASCII in letters, digits and hyphens. -/
def encodeLabel (label : Text) : Text :=
  if label.all (·.toNat < 0x80) then label
  else
    let basic := label.filter (·.toNat < 0x80)
    let front := if basic.isEmpty then [] else basic ++ ['-']
    ['x', 'n', '-', '-'] ++ front ++ labelRounds label basic.length label.length 0x80
      { delta := 0, bias := 72, handled := basic.length, out := [] }

def isForbiddenInName (c : Char) : Bool :=
  c.toNat ≤ 0x20 || c.toNat = 0x7F ||
    ['%', '#', '/', ':', '<', '>', '?', '@', '[', '\\', ']', '^', '|'].contains c

def isForbiddenInOpaque (c : Char) : Bool :=
  ['\x00', '\t', '\n', '\r', ' ', '#', '/', ':', '<', '>', '?', '@', '[', '\\', ']', '^',
    '|'].contains c

/-- An address in brackets. -/
def bracketed? (t : Text) : Option Text := do
  if t.getLast? = some ']' then
    let groups ← address6? (t.drop 1).dropLast
    some ('[' :: address6Text groups ++ [']'])
  else none

/-- The host of a scheme that knows about domains and addresses. -/
def domainHost? (t : Text) : Option Text :=
  if t.head? = some '[' then bracketed? t
  else do
    let name ← Utf8.decode? (percentDecode (Utf8.encode t))
    let labels := (pieces '.' (name.map foldCase)).map encodeLabel
    let host := ['.'].intercalate labels
    if host.isEmpty || host.any isForbiddenInName then none
    else if endsInNumber host then (address4? host).map address4Text
    else some host

/-- The host of any other scheme, taken as it is. -/
def opaqueHost? (t : Text) : Option Text :=
  if t.head? = some '[' then bracketed? t
  else if t.any isForbiddenInOpaque then none
  else some (encodeText [] t)

end AutoItNav.Uri
