import FluentStyle.Rule.BareFlag
import FluentStyle.Rule.CallOrder
import FluentStyle.Rule.Confirmation
import FluentStyle.Rule.Lookalike
import FluentStyle.Rule.Relationship
import FluentStyle.Rule.Section
import FluentStyle.Rule.Visibility
import FluentStyle.Verdict

/-!
# Proposals

What a rule proposes for a site, what it has to say about it, and the verdict on a proposal.
-/

namespace FluentStyle

namespace Rule

def proposal? (style : Conventions) (rule : Rule) : Site → Option Site
  | .chain chain =>
      match rule.kind with
      | .callOrder => (chain.reordered? style).map .chain
      | .relationship classes => (chain.bound? style classes).map .chain
      | .confirmation => (chain.unguarded? style).map .chain
      | .visibility => (chain.shown? style).map .chain
      | .bareFlags flags => (chain.bared? style flags).map .chain
      | .arrowClosures | .lookalikes _ _ | .sections => none
  | .closure closure =>
      match rule.kind with
      | .arrowClosures => closure.toArrow?.map .closure
      | _ => none
  | .list items =>
      match rule.kind with
      | .sections => (Expr.sectioned? style items).map .list
      | _ => none

def advice (style : Conventions) (rule : Rule) : Site → List String
  | .list items =>
      match rule.kind with
      | .lookalikes minSiblings message =>
          (Lookalikes.find style minSiblings items).map (·.message message)
      | _ => []
  | _ => []

def applies (style : Conventions) (rule : Rule) (site : Site) : Bool :=
  if rule.isAdvisory then !(rule.advice style site).isEmpty else (rule.proposal? style site).isSome

/-- Whether the rule promises to leave its own results alone and would change this one nevertheless,
which is worth a warning wherever the rule is applied. -/
def breaksPromise (style : Conventions) (rule : Rule) (result : Site) : Bool :=
  rule.idempotent && rule.applies style result

/-- The verdict on what the rule proposes for a site. -/
def examine (style : Conventions) (rule : Rule) (before after : Site) : Verdict :=
  Verdict.examine (rule.kind.permission style) before after

end Rule

end FluentStyle
