/-! Tables of inclusive ranges of numbers. -/
namespace Lexical.Text

/-- Whether one of the ranges, which are in order, holds `n`. Only the first that does not end
before `n` can. -/
def inRanges (ranges : List (Nat × Nat)) (n : Nat) : Bool :=
  match ranges.dropWhile (·.2 < n) with
  | [] => false
  | (first, _) :: _ => first ≤ n

end Lexical.Text
