import Lexical.Text.Blank
/-! Lengths of time as they are shown. -/
namespace Lexical.CommandLine

structure Duration where
  nanoseconds : Nat
  deriving DecidableEq, Repr

namespace Duration

/-- A number of more than so many digits with the point that many places from its end, and no zeros
at the end of the fraction. -/
def decimal (n places : Nat) : String :=
  let digits := (toString n).toList
  let whole := digits.take (digits.length - places)
  let fraction := Text.trimEndWhile (· == '0') (digits.drop (digits.length - places))
  String.ofList (if fraction.isEmpty then whole else whole ++ '.' :: fraction)

/-- In the largest unit of which it holds at least one. -/
def display (d : Duration) : String :=
  let n := d.nanoseconds
  if 1000000000 ≤ n then decimal n 9 ++ "s"
  else if 1000000 ≤ n then decimal n 6 ++ "ms"
  else if 1000 ≤ n then decimal n 3 ++ "µs"
  else toString n ++ "ns"

end Duration

end Lexical.CommandLine
