/-!
JSON values. Whole numbers are kept apart from those written with a point or an exponent; the
members of an object have different names.
-/
namespace AutoItNav

inductive Json where
  | null
  | bool (value : Bool)
  | integer (value : Int)
  | decimal (literal : String)
  | string (value : String)
  | array (items : List Json)
  | object (members : List (String × Json))
deriving Repr, Inhabited, BEq

namespace Json

def get? (name : String) : Json → Option Json
  | object members => (members.find? (·.1 == name)).map (·.2)
  | _ => none

def string? : Json → Option String
  | string value => some value
  | _ => none

def bool? : Json → Option Bool
  | bool value => some value
  | _ => none

def integer? : Json → Option Int
  | integer value => some value
  | _ => none

def array? : Json → Option (List Json)
  | array items => some items
  | _ => none

def isNull : Json → Bool
  | null => true
  | _ => false

/-- The value itself, if it is an object. -/
def object? : Json → Option Json
  | object members => some (object members)
  | _ => none

/-- A part that may be missing or null; present, it has to be readable. -/
def optional (decode : Json → Option α) : Option Json → Option (Option α)
  | none => some none
  | some null => some none
  | some j => (decode j).map some

def nat (n : Nat) : Json := integer n

def orNull (f : α → Json) : Option α → Json
  | some a => f a
  | none => null

/-- A whole number from `0` to `2 ^ 32 - 1`. -/
def word32? (j : Json) : Option UInt32 := do
  let n ← j.integer?
  if 0 ≤ n ∧ n < 0x100000000 then some n.toNat.toUInt32 else none

/-- A whole number from `-2 ^ 31` to `2 ^ 31 - 1`. -/
def signed32? (j : Json) : Option Int := do
  let n ← j.integer?
  if -0x80000000 ≤ n ∧ n < 0x80000000 then some n else none

end Json

end AutoItNav
