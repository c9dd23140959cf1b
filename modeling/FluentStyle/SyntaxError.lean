import FluentStyle.Token.Basic

/-!
# Syntax errors

Why a text is not a fragment, as a cause, and where.  The wording is in `Reason.message`.
-/

namespace FluentStyle

/-!
# Causes

The grammar asked for something at a place where something else was found, or refused what it found
there.
-/

inductive Expectation where
  | endOfFragment
  | ternaryColon
  | memberAfterArrow
  | memberAfterDoubleColon
  | closingParenthesis
  | openingParenthesis
  | endOfArguments
  | endOfArray
  | arrowBody
  | openingAfterUse
  | captured
  | endOfCaptures
  | openingOfParameters
  | parameter
  | endOfParameters
  | openingBrace
  | closingBrace
  | endOfReturn
  | openingAfterIf
  | endOfCondition
  | endOfAssignment
  | endOfExpression
deriving DecidableEq, Repr

namespace Expectation

def message : Expectation → String
  | .endOfFragment => "expected `,` or end of fragment"
  | .ternaryColon => "expected `:` in ternary expression"
  | .memberAfterArrow => "expected a method or property name after `->`"
  | .memberAfterDoubleColon => "expected a name after `::`"
  | .closingParenthesis => "expected `)`"
  | .openingParenthesis => "expected `(`"
  | .endOfArguments => "expected `,` or `)` in argument list"
  | .endOfArray => "expected `,` or `]` in array"
  | .arrowBody => "expected `=>` after arrow function parameters"
  | .openingAfterUse => "expected `(` after `use`"
  | .captured => "expected a captured variable"
  | .endOfCaptures => "expected `,` or `)` in `use` clause"
  | .openingOfParameters => "expected `(` to open parameter list"
  | .parameter => "expected a parameter name"
  | .endOfParameters => "expected `,` or `)` in parameter list"
  | .openingBrace => "expected `\x7b`"
  | .closingBrace => "expected `\x7d`"
  | .endOfReturn => "expected `;` after return value"
  | .openingAfterIf => "expected `(` after `if`"
  | .endOfCondition => "expected `)` after condition"
  | .endOfAssignment => "expected `;` after assignment"
  | .endOfExpression => "expected `;` after expression"

end Expectation

inductive Reason where
  | comment
  | unsupportedOperator (text : String)
  /-- A closing bracket that does not match the innermost open one, which is given with its
  position; with none open, nothing is given. -/
  | unbalanced (closed : Bracket) (innermost : Option (Bracket × Nat))
  | unclosed (bracket : Bracket)
  | unterminatedLiteral
  | namelessVariable
  | unexpectedCharacter (c : Char)
  | emptyFragment
  | nestingTooDeep
  | newExpression
  | keyword (word : String)
  | noExpression (found : Option Token)
  | missing (expected : Expectation) (found : Option Token)
  | missingType
  | defaultValue
deriving DecidableEq, Repr

namespace Reason

def message : Reason → String
  | .comment => "comments are not supported in fragments"
  | .unsupportedOperator text => "unsupported operator `" ++ text ++ "`"
  | .unbalanced closed none => "unbalanced `" ++ closed.closing.toString ++ "`"
  | .unbalanced closed (some (bracket, position)) =>
      "unbalanced `" ++ closed.closing.toString ++ "`: `" ++ bracket.opening.toString ++
        "` opened at byte " ++ position.repr ++ " is still open"
  | .unclosed bracket => "unclosed `" ++ bracket.opening.toString ++ "`"
  | .unterminatedLiteral => "unterminated string literal"
  | .namelessVariable => "expected a variable name after `$`"
  | .unexpectedCharacter c => "unexpected character `" ++ c.toString ++ "`"
  | .emptyFragment => "empty fragment"
  | .nestingTooDeep => "nesting too deep"
  | .newExpression => "`new` expressions are not supported"
  | .keyword word => "unexpected keyword `" ++ word ++ "`"
  | .noExpression found => "unexpected " ++ Token.describe? found ++ ", expected an expression"
  | .missing expected found => expected.message ++ ", found " ++ Token.describe? found
  | .missingType => "expected a type after `?`"
  | .defaultValue => "default parameter values are not supported"

end Reason

/-!
# Errors
-/

/-- A place in a source text, as a byte offset, and why the text is no fragment there. -/
structure SyntaxError where
  position : Nat
  reason : Reason
deriving DecidableEq, Repr

namespace SyntaxError

def message (error : SyntaxError) : String :=
  error.reason.message ++ " (at byte " ++ error.position.repr ++ ")"

end SyntaxError

end FluentStyle
