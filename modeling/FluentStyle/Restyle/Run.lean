import FluentStyle.Catalog.Basic
import FluentStyle.Restyle.Walk

/-!
# Passes until nothing changes

Passes are repeated until one of them changes nothing, or as often as is allowed.  In the latter
case one pass more, whose result is not used, tells whether the rules are done.
-/

namespace FluentStyle

/-- What came of the passes over a fragment. -/
structure Run where
  fragment : Fragment
  events : List Event
  passes : Nat
  /-- Whether the rules would go on if they were allowed to. -/
  isUnfinished : Bool

namespace Run

def anyApplied (events : List Event) : Bool :=
  events.any (·.applied?.isSome)

def repeatPasses (style : Conventions) (rules : List Rule) : Nat → Fragment → Run
  | 0, fragment =>
      ⟨fragment, [], 0, anyApplied (fragment.pass style rules).2⟩
  | allowed + 1, fragment =>
      let (next, events) := fragment.pass style rules
      if anyApplied events then
        let later := repeatPasses style rules allowed next
        ⟨later.fragment, events ++ later.events, later.passes + 1, later.isUnfinished⟩
      else ⟨next, events, 1, false⟩

def applied (run : Run) : List String :=
  run.events.filterMap Event.applied?

def rejected (run : Run) : List (String × Objection) :=
  run.events.filterMap Event.rejected?

end Run

namespace Catalog

def changingRules (catalog : Catalog) : List Rule :=
  catalog.byPrecedence.filter fun rule => !rule.isAdvisory

def run (catalog : Catalog) (maxPasses : Nat) (fragment : Fragment) : Run :=
  Run.repeatPasses catalog.style catalog.changingRules (max maxPasses 1) fragment

end Catalog

end FluentStyle
