import FluentStyle.Catalog.Conventions
import FluentStyle.Rule.Substitution

/-!
# Confirmations

An action that starts by asking for confirmation, and does nothing without it, can leave the
question to the calls made for it.
-/

namespace FluentStyle

namespace Stmt

/-- The question of a guard `if (!confirm('...')) { return; }`. -/
def question? : Stmt → Option StringLiteral
  | .when (.unary .not (.chain ⟨.function, ⟨"confirm", [.literal question]⟩, []⟩)) [.leave] =>
      some question
  | _ => none

end Stmt

namespace Call

/-- The calls that ask for confirmation and the action without its guard.  The action has to do
something after the guard. -/
def unguarded? : Call → Option (List Call)
  | ⟨"action", [.closure (.block params captures (guard :: step :: steps))]⟩ =>
      guard.question?.map fun question =>
        [⟨"requiresConfirmation", []⟩, ⟨"modalDescription", [.literal question]⟩,
          ⟨"action", [.closure (.block params captures (step :: steps))]⟩]
  | _ => none

end Call

namespace Chain

def unguarded? (style : Conventions) (chain : Chain) : Option Chain :=
  if style.isDeclaration chain && !chain.hasCall "requiresConfirmation" then
    (Call.replaceFirst? Call.unguarded? chain.rest).map fun rest => { chain with rest }
  else none

end Chain

end FluentStyle
