/-!
# String literals

A string literal is kept as it is written, with its quotes.  `value` resolves its escapes and
`quoted` writes a literal for a value: a backslash stands before every backslash and before every
quote of the literal's own kind.
-/

namespace FluentStyle

structure StringLiteral where
  raw : String
deriving DecidableEq, Repr, Inhabited

namespace StringLiteral

/-- The characters between the quotes for a value. -/
def encode (quote : Char) (value : List Char) : List Char :=
  value.flatMap fun c => if c = '\\' ∨ c = quote then ['\\', c] else [c]

/-- The value of the characters between the quotes.  A backslash takes effect before a backslash
or the literal's own quote, and between double quotes also before `n` and `t`; elsewhere it stands
for itself. -/
def decode (quote : Char) : List Char → List Char
  | [] => []
  | '\\' :: c :: rest =>
      if c = quote ∨ c = '\\' then c :: decode quote rest
      else if quote = '"' ∧ c = 'n' then '\n' :: decode quote rest
      else if quote = '"' ∧ c = 't' then '\t' :: decode quote rest
      else '\\' :: c :: decode quote rest
  | c :: rest => c :: decode quote rest

def quoted (quote : Char) (value : String) : StringLiteral :=
  ⟨String.ofList (quote :: encode quote value.toList ++ [quote])⟩

def singleQuoted (value : String) : StringLiteral :=
  quoted '\'' value

def quote (literal : StringLiteral) : Char :=
  literal.raw.toList.headD '\''

def value (literal : StringLiteral) : String :=
  String.ofList (decode literal.quote (literal.raw.toList.drop 1).dropLast)

def withValue (literal : StringLiteral) (value : String) : StringLiteral :=
  if literal.quote = '"' then quoted '"' value else singleQuoted value

end StringLiteral

end FluentStyle
