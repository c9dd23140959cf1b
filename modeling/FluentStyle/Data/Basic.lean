/-!
# Data

The plain data that a program writes for other programs to read.
-/

namespace FluentStyle

inductive Data where
  | null
  | bool (value : Bool)
  | int (value : Int)
  | text (value : String)
  | sequence (items : List Data)
  /-- Names with what they stand for, in a fixed order. -/
  | mapping (entries : List (String × Data))
deriving Repr, Inhabited

namespace Data

def texts (values : List String) : Data :=
  .sequence (values.map .text)

end Data

end FluentStyle
