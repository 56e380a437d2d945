import AutoItNav.Uri.Host

/-!
Reading a URI and bringing it into normal form: the scheme in lower case, dot segments resolved,
unsafe characters encoded, the default port and a local host left out.
-/
namespace AutoItNav.Uri

def isAsciiLetter (c : Char) : Bool := ('a' ≤ c && c ≤ 'z') || ('A' ≤ c && c ≤ 'Z')

def isSchemeChar (c : Char) : Bool :=
  isAsciiLetter c || isDecimalDigit c || c = '+' || c = '-' || c = '.'

/-- Schemes with rules of their own: for them a backslash separates like a slash. -/
inductive SchemeKind where
  | file
  | web (defaultPort : Nat)
  | other

def SchemeKind.ofScheme (scheme : Text) : SchemeKind :=
  match String.ofList scheme with
  | "file" => .file
  | "http" => .web 80
  | "ws" => .web 80
  | "https" => .web 443
  | "wss" => .web 443
  | "ftp" => .web 21
  | _ => .other

def SchemeKind.isSpecial : SchemeKind → Bool
  | .other => false
  | _ => true

def SchemeKind.separates (kind : SchemeKind) (c : Char) : Bool :=
  c = '/' || (c = '\\' && kind.isSpecial)

def endsPath (c : Char) : Bool := c = '?' || c = '#'

/-- The input without surrounding control characters and spaces, tabs and line breaks. -/
def cleaned (t : Text) : Text :=
  let isMargin := fun c : Char => c.toNat ≤ 0x20
  (Text.dropTrailing isMargin (t.dropWhile isMargin)).filter
    fun c => c ≠ '\t' && c ≠ '\n' && c ≠ '\r'

def scheme? (t : Text) : Option (Text × Text) :=
  let name := t.takeWhile isSchemeChar
  match name.head?, t.dropWhile isSchemeChar with
  | some first, ':' :: rest => if isAsciiLetter first then some (name.map lowerAscii, rest) else none
  | _, _ => none

/-- A dot or its encoding at the front, with what follows. -/
def leadingDot? : Text → Option Text
  | '.' :: t => some t
  | '%' :: '2' :: 'e' :: t => some t
  | '%' :: '2' :: 'E' :: t => some t
  | _ => none

def isSingleDot (segment : Text) : Bool := leadingDot? segment = some []

def isDoubleDot (segment : Text) : Bool := (leadingDot? segment).any isSingleDot

/-- A letter and a colon or bar: such a segment is a drive and is never taken away. -/
def isDrive : Text → Bool
  | [letter, mark] => isAsciiLetter letter && (mark = ':' || mark = '|')
  | letter :: mark :: '\\' :: _ => isAsciiLetter letter && (mark = ':' || mark = '|')
  | _ => false

def dropSegment : List Text → List Text
  | segment :: upper => if isDrive segment then segment :: upper else upper
  | [] => []

/-- Resolves dot segments; `upper` holds the finished segments, innermost first. -/
def resolveDots (upper : List Text) : List Text → List Text
  | [] => upper.reverse
  | [last] =>
    if isDoubleDot last then ([] :: dropSegment upper).reverse
    else if isSingleDot last then ([] :: upper).reverse
    else (last :: upper).reverse
  | segment :: rest =>
    if isDoubleDot segment then resolveDots (dropSegment upper) rest
    else if isSingleDot segment then resolveDots upper rest
    else resolveDots (segment :: upper) rest

def hierarchicalPath (kind : SchemeKind) (t : Text) : Text :=
  let slashed := t.map fun c => if kind.separates c then '/' else c
  let relative := match slashed with
    | '/' :: rest => rest
    | _ => slashed
  let segments := resolveDots [] ((pieces '/' relative).map (encodeText pathReserved))
  let joined := ['/'].intercalate segments
  match kind with
  | .file => '/' :: joined.dropWhile (· = '/')
  | _ => '/' :: joined

/-- What follows the path. -/
def withQueryAndFragment (kind : SchemeKind) (scheme : Text) (authority : Option Authority)
    (path tail : Text) : Uri :=
  let reserved := if kind.isSpecial then '\'' :: queryReserved else queryReserved
  let fragment := fun t : Text => match t with
    | '#' :: f => some (encodeText fragmentReserved f)
    | _ => none
  match tail with
  | '?' :: t =>
    { scheme, authority, path
      query := some (encodeText reserved (t.takeWhile (· ≠ '#')))
      fragment := fragment (t.dropWhile (· ≠ '#')) }
  | _ => { scheme, authority, path, query := none, fragment := fragment tail }

/-- Reads the path and the rest behind an authority. -/
def withPath (kind : SchemeKind) (scheme : Text) (authority : Option Authority) (t : Text) : Uri :=
  let path := t.takeWhile (!endsPath ·)
  let tail := t.dropWhile (!endsPath ·)
  let printed := if path.isEmpty && !kind.isSpecial then [] else hierarchicalPath kind path
  withQueryAndFragment kind scheme authority printed tail

/-- Splits at the last at sign. -/
def splitCredentials (t : Text) : Option (Text × Text) :=
  if t.contains '@' then
    let back := t.reverse
    some ((back.dropWhile (· ≠ '@')).tail.reverse, (back.takeWhile (· ≠ '@')).reverse)
  else none

def credentialsText (t : Text) : Text :=
  let user := encodeText credentialReserved (t.takeWhile (· ≠ ':'))
  let password := encodeText credentialReserved (t.dropWhile (· ≠ ':')).tail
  if user.isEmpty && password.isEmpty then []
  else user ++ (if password.isEmpty then [] else ':' :: password) ++ ['@']

/-- The end of the host: a colon outside brackets. -/
def splitHost (inBrackets : Bool) (back : Text) : Text → Text × Text
  | [] => (back.reverse, [])
  | c :: t =>
    if c = ':' ∧ !inBrackets then (back.reverse, c :: t)
    else splitHost (if c = '[' then true else if c = ']' then false else inBrackets) (c :: back) t

/-- The port behind a host; `none` inside means that it is left out. -/
def port? (kind : SchemeKind) : Text → Option (Option Nat)
  | [] => some none
  | _ :: [] => some none
  | _ :: digits =>
    match digitsValue? 10 digits with
    | none => none
    | some n =>
      if 65535 < n then none
      else match kind with
        | .web standard => some (if n = standard then none else some n)
        | _ => some (some n)

def authority? (kind : SchemeKind) (t : Text) : Option Authority := do
  let (credentials, place) := match splitCredentials t with
    | some (c, rest) => (credentialsText c, rest)
    | none => ([], t)
  let (hostText, portText) := splitHost false [] place
  let host ← if kind.isSpecial then domainHost? hostText else opaqueHost? hostText
  let port ← port? kind portText
  if host.isEmpty && !(portText.isEmpty && credentials.isEmpty) then none
  else some { credentials, host, port }

def withAuthority (kind : SchemeKind) (scheme t : Text) : Option Uri := do
  let ends := fun c => kind.separates c || endsPath c
  let place := t.takeWhile (!ends ·)
  let rest := t.dropWhile (!ends ·)
  if place = ['@'] ∧ rest ≠ [] then none
  else
    let authority ← authority? kind place
    some (withPath kind scheme (some authority) rest)

/-- A file's host is left out when it is the local one. -/
def fileHost? (t : Text) : Option Text :=
  if t.isEmpty then some []
  else (domainHost? t).map fun host => if host = "localhost".toList then [] else host

def withFileAuthority (scheme t : Text) : Option Uri := do
  let ends := fun c => SchemeKind.file.separates c || endsPath c
  let place := t.takeWhile (!ends ·)
  let onThisHost := withPath .file scheme (some ⟨[], [], none⟩)
  if place.length = 2 ∧ isDrive place then some (onThisHost t)
  else
    let host ← fileHost? place
    some (withPath .file scheme (some ⟨[], host, none⟩) (t.dropWhile (!ends ·)))

def ofText? (t : Text) : Option Uri := do
  let (scheme, rest) ← scheme? (cleaned t)
  match SchemeKind.ofScheme scheme with
  | .file =>
    match rest with
    | a :: b :: t =>
      if SchemeKind.file.separates a && SchemeKind.file.separates b then withFileAuthority scheme t
      else some (withPath .file scheme (some ⟨[], [], none⟩) rest)
    | _ => some (withPath .file scheme (some ⟨[], [], none⟩) rest)
  | .web port =>
    let kind := SchemeKind.web port
    withAuthority kind scheme (rest.dropWhile kind.separates)
  | .other =>
    match rest with
    | '/' :: '/' :: t => withAuthority .other scheme t
    | '/' :: _ => some (withPath .other scheme none rest)
    | _ =>
      some (withQueryAndFragment .other scheme none (encodeText [] (rest.takeWhile (!endsPath ·)))
        (rest.dropWhile (!endsPath ·)))

def ofString? (s : String) : Option Uri := ofText? s.toList

end AutoItNav.Uri
