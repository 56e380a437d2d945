import AutoItNav.Text.Basic

/-!
The tokens of a JSON text: punctuation, strings with their escapes resolved, and the runs of
characters that numbers and the three literals are written with.
-/
namespace AutoItNav.Json

inductive Token where
  | openArray
  | closeArray
  | openObject
  | closeObject
  | comma
  | colon
  | string (value : String)
  | bare (text : Text)
deriving DecidableEq, Repr

/-- How far a string escape has been read. `high` is the first half of a surrogate pair. -/
inductive Escape where
  | begun
  | digits (count value : Nat) (high : Option Nat)
  | half (high : Nat)
  | halfBegun (high : Nat)

inductive Lexing where
  | between
  | bare (back : Text)
  | quoted (back : Text)
  | escaped (back : Text) (escape : Escape)

def isSpace (c : Char) : Bool := c = ' ' || c = '\n' || c = '\r' || c = '\t'

def punctuation? : Char → Option Token
  | '[' => some .openArray
  | ']' => some .closeArray
  | '\x7b' => some .openObject
  | '\x7d' => some .closeObject
  | ',' => some .comma
  | ':' => some .colon
  | _ => none

def simpleEscape? : Char → Option Char
  | '"' => some '"'
  | '\\' => some '\\'
  | '/' => some '/'
  | 'b' => some '\x08'
  | 'f' => some '\x0c'
  | 'n' => some '\n'
  | 'r' => some '\r'
  | 't' => some '\t'
  | _ => none

def hexDigit? (c : Char) : Option Nat :=
  if '0' ≤ c ∧ c ≤ '9' then some (c.toNat - 48)
  else if 'a' ≤ c ∧ c ≤ 'f' then some (c.toNat - 87)
  else if 'A' ≤ c ∧ c ≤ 'F' then some (c.toNat - 55)
  else none

/-- The state after four digits of a unicode escape; halves of a pair must come together. -/
def endEscape (back : Text) (unit : Nat) : Option Nat → Option Lexing
  | some high =>
    if 0xDC00 ≤ unit ∧ unit < 0xE000 then
      some (.quoted (Char.ofNat (0x10000 + (high - 0xD800) * 0x400 + (unit - 0xDC00)) :: back))
    else none
  | none =>
    if 0xD800 ≤ unit ∧ unit < 0xDC00 then some (.escaped back (.half unit))
    else if 0xDC00 ≤ unit ∧ unit < 0xE000 then none
    else some (.quoted (Char.ofNat unit :: back))

def escapeStep (back : Text) (c : Char) : Escape → Option Lexing
  | .begun =>
    if c = 'u' then some (.escaped back (.digits 0 0 none))
    else (simpleEscape? c).map fun d => .quoted (d :: back)
  | .digits count value high => do
    let value := value * 16 + (← hexDigit? c)
    if count < 3 then some (.escaped back (.digits (count + 1) value high))
    else endEscape back value high
  | .half high => if c = '\\' then some (.escaped back (.halfBegun high)) else none
  | .halfBegun high => if c = 'u' then some (.escaped back (.digits 0 0 (some high))) else none

/-- One character outside a string: the tokens so far, newest first, and what is being read. -/
def outsideStep (done : List Token) (c : Char) : List Token × Lexing :=
  if isSpace c then (done, .between)
  else if c = '"' then (done, .quoted [])
  else match punctuation? c with
    | some token => (token :: done, .between)
    | none => (done, .bare [c])

def lex (done : List Token) : Lexing → Text → Option (List Token)
  | .between, [] => some done.reverse
  | .bare back, [] => some (.bare back.reverse :: done).reverse
  | .quoted _, [] => none
  | .escaped _ _, [] => none
  | .between, c :: t =>
    let (done, next) := outsideStep done c
    lex done next t
  | .bare back, c :: t =>
    if isSpace c || c = '"' || (punctuation? c).isSome then
      let (done, next) := outsideStep (.bare back.reverse :: done) c
      lex done next t
    else lex done (.bare (c :: back)) t
  | .quoted back, c :: t =>
    if c = '"' then lex (.string (String.ofList back.reverse) :: done) .between t
    else if c = '\\' then lex done (.escaped back .begun) t
    else if c.toNat < 0x20 then none
    else lex done (.quoted (c :: back)) t
  | .escaped back escape, c :: t =>
    match escapeStep back c escape with
    | some next => lex done next t
    | none => none

def tokens? (t : Text) : Option (List Token) := lex [] .between t

end AutoItNav.Json
