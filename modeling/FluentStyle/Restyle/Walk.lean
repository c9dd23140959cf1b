import FluentStyle.Rule.Proposal
import FluentStyle.Tree.Children
import FluentStyle.Tree.Weight

/-!
# A pass over a tree

A pass visits the expressions of a tree from the inside out.  At each site the rules are tried in
their order until none is left that proposes something; each is tried at most once.  The parts of an
accepted proposal are visited before the next rule is tried.  A site that the pass has settled is
not visited again where a proposal has moved it.
-/

namespace FluentStyle

/-!
# Events and trails

Proposals are accepted or rejected.  A pass keeps in mind what happened and which sites it has
settled.
-/

inductive Event where
  | applied (rule : String)
  | rejected (rule : String) (objection : Objection)
deriving DecidableEq, Repr

namespace Event

def applied? : Event → Option String
  | .applied rule => some rule
  | .rejected _ _ => none

def rejected? : Event → Option (String × Objection)
  | .applied _ => none
  | .rejected rule objection => some (rule, objection)

end Event

structure Trail where
  settled : List Expr
  events : List Event

namespace Trail

def empty : Trail where
  settled := []
  events := []

end Trail

/-!
# Steps of a pass
-/

abbrev Walk := StateM Trail

namespace Walk

def record (event : Event) : Walk Unit :=
  modify fun trail => { trail with events := trail.events ++ [event] }

def settled (expr : Expr) : Walk Unit :=
  modify fun trail => { trail with settled := expr :: trail.settled }

def isSettled (expr : Expr) : Walk Bool :=
  return (← get).settled.contains expr

/-- The first rule that proposes something for the site, its proposal, and the other rules. -/
def firstProposal? (style : Conventions) (site : Site) :
    List Rule → Option (Rule × Site × List Rule)
  | [] => none
  | rule :: rest =>
      match rule.proposal? style site with
      | some proposal => some (rule, proposal, rest)
      | none =>
          (firstProposal? style site rest).map fun (chosen, proposal, others) =>
            (chosen, proposal, rule :: others)

/-- Tries rules at a site until none proposes anything or the number of tries is used up. -/
def settle (style : Conventions) (descend : Site → Walk Site) :
    Nat → List Rule → Site → Walk Site
  | 0, _, site => return site
  | tries + 1, rules, site =>
      match firstProposal? style site rules with
      | none => return site
      | some (rule, proposal, others) =>
          match rule.examine style site proposal with
          | .accept => do
              record (.applied rule.id)
              let site ← descend proposal
              settle style descend tries others site
          | .reject objection => do
              record (.rejected rule.id objection)
              settle style descend tries others site

def visit (style : Conventions) (rules : List Rule) : Nat → Expr → Walk Expr
  | 0, expr => return expr
  | depth + 1, expr => do
      if ← isSettled expr then return expr
      match Site.ofExpr? expr with
      | none => expr.mapChildrenM (visit style rules depth)
      | some site =>
          let descend := fun (site : Site) => site.mapChildrenM (visit style rules depth)
          let site ← descend site
          let site ← settle style descend rules.length rules site
          settled site.toExpr
          return site.toExpr

def visitItems (style : Conventions) (rules : List Rule) (depth : Nat) (items : List Expr) :
    Walk (List Expr) := do
  let items ← items.mapM (visit style rules depth)
  let site ← settle style (·.mapChildrenM (visit style rules depth)) rules.length rules (.list items)
  return site.items

end Walk

namespace Fragment

/-- The fragment after a pass, and what happened.  No part of a tree lies deeper than the weight of
the tree, however rules change it on the way. -/
def pass (style : Conventions) (rules : List Rule) (fragment : Fragment) :
    Fragment × List Event :=
  let (items, trail) := (Walk.visitItems style rules fragment.weight fragment.items).run .empty
  ({ fragment with items }, trail.events)

end Fragment

end FluentStyle
