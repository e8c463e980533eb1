-- Records and lists as one line of text: a name with its fields between braces,
-- and items between brackets.

import Tiff.Text.Quoted

namespace Tiff.Text

/-- Items between brackets, with a comma and a space between two of them. -/
def bracketed (items : List String) : String := "[" ++ ", ".intercalate items ++ "]"

/-- A record: its name, then each field with its value. -/
def record (name : String) (fields : List (String × String)) : String :=
  name ++ " \x7b " ++ ", ".intercalate (fields.map fun f => f.1 ++ ": " ++ f.2) ++ " \x7d"

end Tiff.Text
