import FluentStyle.Catalog.Conventions
import FluentStyle.Rule.Substitution

/-!
# Visibility

What is hidden unless a condition holds is visible if it holds.
-/

namespace FluentStyle

namespace Expr

/-- The condition without its negation, which may stand in the body of an arrow function. -/
def unnegated? : Expr → Option Expr
  | .unary .not operand => some operand
  | .closure (.arrow params (.unary .not operand)) => some (.closure (.arrow params operand))
  | _ => none

end Expr

namespace Call

def shown? : Call → Option (List Call)
  | ⟨"hidden", [condition]⟩ => condition.unnegated?.map fun shown => [⟨"visible", [shown]⟩]
  | _ => none

end Call

namespace Chain

def shown? (style : Conventions) (chain : Chain) : Option Chain :=
  if style.isDeclaration chain && !chain.hasCall "visible" then
    (Call.replaceFirst? Call.shown? chain.rest).map fun rest => { chain with rest }
  else none

end Chain

end FluentStyle
