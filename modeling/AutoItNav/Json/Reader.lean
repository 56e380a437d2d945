import AutoItNav.Json.Basic
import AutoItNav.Json.Token

/-!
Reading JSON: the tokens are taken one by one over the stack of arrays and objects still open.
-/
namespace AutoItNav.Json

def isDigit (c : Char) : Bool := '0' ≤ c && c ≤ '9'

/-- A number as it may be written: sign, whole part without a leading zero, fraction, exponent. -/
def number? (t : Text) : Option Json :=
  let (negative, body) := match t with
    | '-' :: rest => (true, rest)
    | _ => (false, t)
  let whole := body.takeWhile isDigit
  let rest := body.dropWhile isDigit
  if whole.isEmpty || (whole.head? = some '0' && whole.length ≠ 1) then none
  else if rest.isEmpty then
    let value : Nat := whole.foldl (fun n c => n * 10 + (c.toNat - 48)) 0
    if negative then
      if value = 0 then some (.decimal (String.ofList t)) else some (.integer (-(value : Int)))
    else some (.integer value)
  else
    let afterPoint := match rest with
      | '.' :: more => if (more.takeWhile isDigit).isEmpty then none else some (more.dropWhile isDigit)
      | _ => some rest
    let afterExponent := afterPoint.bind fun tail => match tail with
      | [] => some []
      | e :: more =>
        if e = 'e' ∨ e = 'E' then
          let digits := match more with
            | sign :: digits => if sign = '+' ∨ sign = '-' then digits else more
            | [] => []
          if digits.isEmpty then none else some (digits.dropWhile isDigit)
        else none
    if afterExponent = some [] then some (.decimal (String.ofList t)) else none

def bareValue? (t : Text) : Option Json :=
  match String.ofList t with
  | "null" => some .null
  | "true" => some (.bool true)
  | "false" => some (.bool false)
  | _ => number? t

/-- An open array or object with its contents newest first, or a finished value. -/
inductive Frame where
  | array (items : List Json)
  | object (members : List (String × Json))
  | member (members : List (String × Json)) (name : String)
  | finished (value : Json)

inductive Expecting where
  | value
  | valueOrEnd
  | name
  | nameOrEnd
  | colon
  | separator
deriving DecidableEq

/-- Of members with one name, given newest first, the newest one. -/
def keepNewest (members : List (String × Json)) : List (String × Json) :=
  (members.foldl (fun kept m => if kept.any (·.1 == m.1) then kept else m :: kept) [])

/-- Puts a value where the innermost frame awaits one. -/
def deliver (value : Json) : List Frame → List Frame
  | .array items :: outer => .array (value :: items) :: outer
  | .member members name :: outer => .object ((name, value) :: members) :: outer
  | outer => .finished value :: outer

def Expecting.takesValue : Expecting → Bool
  | .value | .valueOrEnd => true
  | _ => false

def readToken (frames : List Frame) (expecting : Expecting) (token : Token) :
    Option (List Frame × Expecting) :=
  match token, frames with
  | .openArray, _ => if expecting.takesValue then some (.array [] :: frames, .valueOrEnd) else none
  | .openObject, _ => if expecting.takesValue then some (.object [] :: frames, .nameOrEnd) else none
  | .closeArray, .array items :: outer =>
    if expecting = .valueOrEnd ∨ expecting = .separator then
      some (deliver (.array items.reverse) outer, .separator)
    else none
  | .closeObject, .object members :: outer =>
    if expecting = .nameOrEnd ∨ expecting = .separator then
      some (deliver (.object (keepNewest members)) outer, .separator)
    else none
  | .comma, .array _ :: _ => if expecting = .separator then some (frames, .value) else none
  | .comma, .object _ :: _ => if expecting = .separator then some (frames, .name) else none
  | .colon, .member _ _ :: _ => if expecting = .colon then some (frames, .value) else none
  | .string s, .object members :: outer =>
    if expecting = .name ∨ expecting = .nameOrEnd then some (.member members s :: outer, .colon)
    else none
  | .string s, _ =>
    if expecting.takesValue then some (deliver (.string s) frames, .separator) else none
  | .bare t, _ =>
    if expecting.takesValue then (bareValue? t).map fun v => (deliver v frames, .separator)
    else none
  | _, _ => none

def readTokens (frames : List Frame) (expecting : Expecting) : List Token → Option Json
  | [] => match frames with
    | [.finished value] => some value
    | _ => none
  | token :: rest =>
    match readToken frames expecting token with
    | some (frames, expecting) => readTokens frames expecting rest
    | none => none

def read? (t : Text) : Option Json := (tokens? t).bind (readTokens [] .value)

end AutoItNav.Json
