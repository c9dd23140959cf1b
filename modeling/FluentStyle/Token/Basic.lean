import FluentStyle.Tree.Operator

/-!
# Tokens

The words and signs a fragment is made of, without the blanks between them.  `Token.text` gives
the spelling of a token, and `Token.describe?` the way a message names what was found.
-/

namespace FluentStyle

/-!
# Brackets and marks
-/

inductive Bracket where
  | round
  | square
  | curly
deriving DecidableEq, Repr, Inhabited

namespace Bracket

def opening : Bracket → Char
  | .round => '('
  | .square => '['
  | .curly => '\x7b'

def closing : Bracket → Char
  | .round => ')'
  | .square => ']'
  | .curly => '\x7d'

end Bracket

inductive Mark where
  | comma
  | semicolon
  | arrow
  | doubleColon
  | fatArrow
  | assign
  | question
  | colon
  | bang
  | ampersand
deriving DecidableEq, Repr, Inhabited

namespace Mark

def spelling : Mark → String
  | .comma => ","
  | .semicolon => ";"
  | .arrow => "->"
  | .doubleColon => "::"
  | .fatArrow => "=>"
  | .assign => "="
  | .question => "?"
  | .colon => ":"
  | .bang => "!"
  | .ampersand => "&"

end Mark

/-!
# Words and signs

An infix operator is written with signs or is one of two words, which are recognised in any case.
-/

/-- A token of the fragment language. Names, variables, literals and numbers keep their text. -/
inductive Token where
  /-- A word: a keyword, or a name that may hold namespace separators. -/
  | name (text : String)
  /-- A variable with its `$`. -/
  | variable (text : String)
  /-- A string literal with its quotes. -/
  | literal (raw : String)
  | number (raw : String)
  | opening (bracket : Bracket)
  | closing (bracket : Bracket)
  | mark (mark : Mark)
  | operator (operator : Operator)
deriving DecidableEq, Repr, Inhabited

namespace Token

def text : Token → String
  | .name text => text
  | .variable text => text
  | .literal raw => raw
  | .number raw => raw
  | .opening bracket => bracket.opening.toString
  | .closing bracket => bracket.closing.toString
  | .mark m => m.spelling
  | .operator op => op.spelling

/-- How a message names what was found, where `none` stands for the end of the fragment. -/
def describe? : Option Token → String
  | none => "end of fragment"
  | some (.literal _) => "string literal"
  | some (.number _) => "number"
  | some token => "`" ++ token.text ++ "`"

def binaryOp? : Token → Option BinaryOp
  | .operator op => some (.sign op)
  | .name text =>
      let word := text.toList.map Char.toLower
      if word = ['a', 'n', 'd'] then some .wordAnd
      else if word = ['o', 'r'] then some .wordOr
      else none
  | _ => none

def unaryOp? : Token → Option UnaryOp
  | .mark .bang => some .not
  | .operator .subtract => some .negate
  | _ => none

end Token

/-- A token and the byte at which it starts in the source. -/
structure Lexeme where
  token : Token
  position : Nat
deriving DecidableEq, Repr, Inhabited

end FluentStyle
