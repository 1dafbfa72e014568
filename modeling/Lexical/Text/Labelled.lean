/-! Values written out with the names of their fields, as `Point { x: 1, y: 2 }`. -/
namespace Lexical.Text

/-- A name followed by its fields, each a label and a value that is written already. -/
def labelled (name : String) (fields : List (String × String)) : String :=
  name ++ " \x7b " ++ ", ".intercalate (fields.map fun field => field.1 ++ ": " ++ field.2) ++ " \x7d"

end Lexical.Text
