/-!
Durations as text: in the largest of seconds, milli-, micro- and nanoseconds that gives a whole
part, with the digits of the rest as far as they are not zero.
-/
namespace AutoItNav

/-- `whole` with the digits of `rest` behind a point, `places` of them before zeros are dropped. -/
def pointText (whole rest places : Nat) : String :=
  if rest = 0 then toString whole
  else
    let digits := Nat.toDigits 10 rest
    let padded := List.replicate (places - digits.length) '0' ++ digits
    toString whole ++ "." ++ String.ofList (padded.reverse.dropWhile (· = '0')).reverse

def durationText (nanoseconds : Nat) : String :=
  if 1000000000 ≤ nanoseconds then
    pointText (nanoseconds / 1000000000) (nanoseconds % 1000000000) 9 ++ "s"
  else if 1000000 ≤ nanoseconds then
    pointText (nanoseconds / 1000000) (nanoseconds % 1000000) 6 ++ "ms"
  else if 1000 ≤ nanoseconds then
    pointText (nanoseconds / 1000) (nanoseconds % 1000) 3 ++ "µs"
  else toString nanoseconds ++ "ns"

end AutoItNav
