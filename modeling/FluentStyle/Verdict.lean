import FluentStyle.Effect
import FluentStyle.Permission
import FluentStyle.Rule.ArrowFunction
import FluentStyle.Text.Distinct

/-!
# Verdicts

A rule's proposal for a site is accepted only if the calls before and after agree but for what the
rule is permitted to change.
-/

namespace FluentStyle

/-!
# Objections and verdicts
-/

inductive Objection where
  | otherKind
  | otherStart
  | moreThanArrows
  /-- Names that should be there and names that should not. -/
  | names (missing unexpected : List String)
  | lost (effect : Effect)
  | added (effect : Effect)
deriving DecidableEq, Repr

namespace Objection

def message : Objection → String
  | .otherKind => "rewrite changed the kind of node"
  | .otherStart => "rewrite changed the chain's root or constructor"
  | .moreThanArrows => "rewrite changed more than closure syntax"
  | .names missing unexpected =>
      "call names differ; missing: [" ++ Text.join ", " missing ++ "], unexpected: [" ++
        Text.join ", " unexpected ++ "]"
  | .lost effect => "`" ++ effect.message ++ "` is missing or changed after the rewrite"
  | .added effect => "`" ++ effect.message ++ "` was not present before the rewrite"

end Objection

inductive Verdict where
  | accept
  | reject (objection : Objection)
deriving DecidableEq, Repr

namespace Verdict

def message : Verdict → String
  | .accept => "accept"
  | .reject objection => "reject: " ++ objection.message

/-!
# Examining a proposal

Two chains have to start in the same way; sites of another kind always do.
-/

def sameStart : Site → Site → Bool
  | .chain before, .chain after =>
      before.root = after.root && before.constructor? = after.constructor?
  | _, _ => true

/-- The verdict on the effects before and after. -/
def ofEffects (permission : Permission) (before after : List Effect) : Verdict :=
  let expected := before.flatMap (permission.become ·.name) ++ permission.introduces
  let actual := after.map (·.name)
  let missing := expected.filter fun name => !actual.contains name
  let unexpected := actual.filter fun name => !expected.contains name
  if !(missing.isEmpty && unexpected.isEmpty) then
    .reject (.names (Text.distinct missing) (Text.distinct unexpected))
  else
    match Effect.lost? (fun name => !permission.renamed name) before after with
    | some effect => .reject (.lost effect)
    | none =>
        match Effect.lost? (fun name => !permission.mayAppear name) after before with
        | some effect => .reject (.added effect)
        | none => .accept

def examine (permission : Permission) (before after : Site) : Verdict :=
  let before := if permission.onlyArrows then before.map Expr.arrowed else before
  let after := if permission.onlyArrows then after.map Expr.arrowed else after
  if !before.sameKind after then .reject .otherKind
  else if !sameStart before after then .reject .otherStart
  else if permission.onlyArrows && before ≠ after then .reject .moreThanArrows
  else ofEffects permission before.effects after.effects

end Verdict

end FluentStyle
