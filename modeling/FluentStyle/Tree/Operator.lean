/-!
# Operators

The prefix and infix operators of the fragment language, how they are spelled, and how tightly
the infix ones bind.
-/

namespace FluentStyle

/-!
# Prefix operators
-/

inductive UnaryOp where
  | not
  | negate
deriving DecidableEq, Repr, Inhabited

namespace UnaryOp

def spelling : UnaryOp → String
  | .not => "!"
  | .negate => "-"

end UnaryOp

/-!
# Infix operators

Operators are written with signs, or are one of two words, which bind loosest.  A larger number
binds tighter, and all operators group to the left.  The floor that a whole expression is read with
is below all of them.
-/

inductive Operator where
  | coalesce
  | or
  | and
  | identical
  | notIdentical
  | equal
  | notEqual
  | less
  | lessEqual
  | greater
  | greaterEqual
  | concat
  | add
  | subtract
  | multiply
  | divide
  | remainder
deriving DecidableEq, Repr, Inhabited

namespace Operator

def spelling : Operator → String
  | .coalesce => "??"
  | .or => "||"
  | .and => "&&"
  | .identical => "==="
  | .notIdentical => "!=="
  | .equal => "=="
  | .notEqual => "!="
  | .less => "<"
  | .lessEqual => "<="
  | .greater => ">"
  | .greaterEqual => ">="
  | .concat => "."
  | .add => "+"
  | .subtract => "-"
  | .multiply => "*"
  | .divide => "/"
  | .remainder => "%"

def precedence : Operator → Nat
  | .coalesce => 3
  | .or => 4
  | .and => 5
  | .identical | .notIdentical | .equal | .notEqual => 6
  | .less | .lessEqual | .greater | .greaterEqual => 7
  | .concat | .add | .subtract => 8
  | .multiply | .divide | .remainder => 9

end Operator

inductive BinaryOp where
  | sign (operator : Operator)
  | wordAnd
  | wordOr
deriving DecidableEq, Repr, Inhabited

namespace BinaryOp

def spelling : BinaryOp → String
  | .sign operator => operator.spelling
  | .wordAnd => "and"
  | .wordOr => "or"

def precedence : BinaryOp → Nat
  | .sign operator => operator.precedence
  | .wordAnd => 2
  | .wordOr => 1

theorem precedence_pos (op : BinaryOp) : 0 < op.precedence := by
  cases op with
  | sign operator => cases operator <;> decide
  | wordAnd => decide
  | wordOr => decide

/-- No operator binds tighter than 9. -/
theorem precedence_le (op : BinaryOp) : op.precedence ≤ 9 := by
  cases op with
  | sign operator => cases operator <;> decide
  | wordAnd => decide
  | wordOr => decide

end BinaryOp

end FluentStyle
