import FluentStyle.Tree.Traversal

/-!
# Arrow functions

A block closure that does nothing but return a value can be written as an arrow function.  An arrow
function sees the variables of the scope around it, which a block closure does not; so the value may
read nothing but parameters and `$this`.
-/

namespace FluentStyle

namespace Closure

/-- The arrow function for a block closure that only returns a value. -/
def toArrow? (closure : Closure) : Option Closure :=
  match closure with
  | .block params [] _ =>
      closure.onlyValue?.bind fun value =>
        if value.freeVariables.all fun name => name = "$this" || closure.binds name then
          some (.arrow params value)
        else none
  | _ => none

def arrowed (closure : Closure) : Closure :=
  closure.toArrow?.getD closure

end Closure

namespace Expr

/-- A closure as an arrow function where it can be one; other expressions as they are. -/
def arrowed : Expr → Expr
  | .closure c => .closure c.arrowed
  | expr => expr

end Expr

end FluentStyle
