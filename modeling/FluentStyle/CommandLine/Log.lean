import FluentStyle.Restyle.Outcome
import FluentStyle.Text.Color

/-!
# The log of a restyling

One line tells of each rule that was applied, in the order in which they first were, and one of each
warning.
-/

namespace FluentStyle

namespace Warning

def logLine (warning : Warning) : String :=
  match warning with
  | .advisory _ _ => Text.colored .cyan "advice" ++ " " ++ warning.message
  | .rejected _ _ | .passLimit _ => Text.colored .yellow "warning" ++ " " ++ warning.message

end Warning

namespace Outcome

def appliedLine (outcome : Outcome) (rule : String) : String :=
  let times := outcome.applied.count rule
  Text.colored .green "applied" ++ " " ++ rule ++
    if times = 1 then "" else " " ++ Text.dim ("(x" ++ times.repr ++ ")")

def log (outcome : Outcome) : List String :=
  outcome.applied.eraseDups.map outcome.appliedLine ++ outcome.warnings.map Warning.logLine

end Outcome

end FluentStyle
