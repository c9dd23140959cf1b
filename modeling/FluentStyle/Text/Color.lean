/-!
# Coloured text

Text for a terminal, with the codes that switch colours and weights on and off around it.
-/

namespace FluentStyle.Text

inductive Color where
  | red
  | green
  | yellow
  | magenta
  | cyan
deriving DecidableEq, Repr

def Color.code : Color → String
  | .red => "31"
  | .green => "32"
  | .yellow => "33"
  | .magenta => "35"
  | .cyan => "36"

def terminalCode (code : String) : String :=
  "\x1b[" ++ code ++ "m"

def colored (color : Color) (text : String) : String :=
  terminalCode color.code ++ text ++ terminalCode "39"

def dim (text : String) : String :=
  terminalCode "2" ++ text ++ terminalCode "22"

def heading (text : String) : String :=
  terminalCode Color.green.code ++ terminalCode "1" ++ text ++ terminalCode "39" ++
    terminalCode "22"

end FluentStyle.Text
