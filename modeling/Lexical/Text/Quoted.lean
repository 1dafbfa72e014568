import Lexical.Text.Unprintable
/-! Quotations of characters and texts.

A quotation stands between two quote marks. The mark, the backslash, tab, line feed, carriage return
and the null character are escaped by a backslash, a character that would not show is written by its
code point in lower-case hexadecimal, and any other stands for itself. -/
namespace Lexical.Text

/-- How `c` is written between two of the marks `quote`. -/
def escape (quote c : Char) : List Char :=
  if c == '\x00' then ['\\', '0']
  else if c == '\t' then ['\\', 't']
  else if c == '\n' then ['\\', 'n']
  else if c == '\r' then ['\\', 'r']
  else if c == '\\' || c == quote then ['\\', c]
  else if isUnprintable c then ['\\', 'u', '\x7b'] ++ Nat.toDigits 16 c.toNat ++ ['\x7d']
  else [c]

/-- A character between single quotes; a double quote is not escaped there. -/
def quoteChar (c : Char) : String := String.ofList ('\'' :: escape '\'' c ++ ['\''])

/-- A text between double quotes; a single quote is not escaped there. -/
def quoteString (s : String) : String :=
  String.ofList ('"' :: s.toList.flatMap (escape '"') ++ ['"'])

end Lexical.Text
