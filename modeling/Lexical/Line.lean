import Lexical.Text.Blank
/-! The lines of a source text. -/
namespace Lexical

/-- The line with the number `n`, counted from one, without its terminator: lines end at line feeds,
and every carriage return before that end belongs to it. -/
def line? (source : String) (n : UInt32) : Option String :=
  if n = 0 then none
  else (source.toList.splitOn '\n')[n.toNat - 1]?.map fun cs =>
    String.ofList (Text.trimEndWhile (· == '\r') cs)

end Lexical
