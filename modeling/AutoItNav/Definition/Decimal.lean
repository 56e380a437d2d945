/-!
Decimal text with a fixed number of places. A number is rounded from its exact value, and one that
lies halfway goes to the even neighbour.
-/
namespace AutoItNav

/-- The quotient rounded to a whole number. -/
def roundQuotient (num den : Nat) : Nat :=
  let q := num / den
  let twice := 2 * (num % den)
  if twice < den then q
  else if den < twice then q + 1
  else if q % 2 = 0 then q else q + 1

/-- A float as `mantissa * 2 ^ (exponent - 1075)`; its sign is left aside. -/
def mantissaExponent (x : Float) : Nat × Nat :=
  let bits := x.toBits.toNat
  let fraction := bits % Nat.pow 2 52
  let exponent := bits / Nat.pow 2 52 % Nat.pow 2 11
  if exponent = 0 then (fraction, 1) else (fraction + Nat.pow 2 52, exponent)

/-- The text of a non-negative float. -/
def fixedText (places : Nat) (x : Float) : String :=
  let (mantissa, exponent) := mantissaExponent x
  let units := roundQuotient (mantissa * Nat.pow 2 exponent * Nat.pow 10 places) (Nat.pow 2 1075)
  let fraction := toString (units % Nat.pow 10 places)
  toString (units / Nat.pow 10 places) ++ "." ++
    String.ofList (List.replicate (places - fraction.length) '0') ++ fraction

end AutoItNav
