import FluentStyle.Grammar.Source
import FluentStyle.Restyle.Run

/-!
# Restyling

A source text is read, restyled with a catalog, and written in canonical layout, with warnings about
what the reader may want to know.
-/

namespace FluentStyle

/-!
# Warnings
-/

/-- Something worth telling that changed nothing. -/
inductive Warning where
  | advisory (rule message : String)
  | rejected (rule reason : String)
  | passLimit (passes : Nat)
deriving DecidableEq, Repr

namespace Warning

def kind : Warning → String
  | .advisory _ _ => "advisory"
  | .rejected _ _ => "rejected"
  | .passLimit _ => "pass limit"

def rule? : Warning → Option String
  | .advisory rule _ => some rule
  | .rejected rule _ => some rule
  | .passLimit _ => none

def message : Warning → String
  | .advisory _ message => message
  | .rejected rule reason => "rewrite by `" ++ rule ++ "` was rejected: " ++ reason
  | .passLimit passes =>
      "stopped after " ++ passes.repr ++ " passes while rules were still rewriting; " ++
        "the output may not be fully restyled"

def render (warning : Warning) : String :=
  warning.kind ++ ": " ++ warning.message

end Warning

/-!
# Outcomes

A rejected proposal that is repeated is told once.
-/

/-- What came of restyling a source text. -/
structure Outcome where
  text : String
  /-- The ids of the applied rules in order. -/
  applied : List String
  /-- The ids of the rules with a rejected proposal, in order, each once. -/
  rejected : List String
  warnings : List Warning
  passes : Nat
deriving DecidableEq, Repr

namespace Outcome

def isChanged (outcome : Outcome) : Bool :=
  !outcome.applied.isEmpty

end Outcome

namespace Run

def rejections (run : Run) : List Warning :=
  (run.rejected.map fun (rule, objection) => Warning.rejected rule objection.message).eraseDups

def limitWarning (maxPasses : Nat) (run : Run) : List Warning :=
  if run.isUnfinished then [.passLimit (max maxPasses 1)] else []

end Run

namespace Catalog

/-!
# Restyling with a catalog

The advisory rules look at the lists of the final fragment.  A source that is no fragment stays as
it is.
-/

def advice (catalog : Catalog) (fragment : Fragment) : List Warning :=
  fragment.lists.flatMap fun items =>
    (catalog.rules.filter (·.isAdvisory)).flatMap fun rule =>
      (rule.advice catalog.style (.list items)).map (Warning.advisory rule.id)

def restyleFragment (catalog : Catalog) (maxPasses : Nat) (fragment : Fragment) : Outcome :=
  let run := catalog.run maxPasses fragment
  { text := run.fragment.render
    applied := run.applied
    rejected := Text.distinct (run.rejected.map (·.1))
    warnings := run.rejections ++ run.limitWarning maxPasses ++ catalog.advice run.fragment
    passes := run.passes }

def defaultMaxPasses : Nat :=
  16

def restyle (catalog : Catalog) (maxPasses : Nat) (source : String) :
    Except SyntaxError Outcome :=
  (Fragment.parse source).map (catalog.restyleFragment maxPasses)

def restyledText (catalog : Catalog) (maxPasses : Nat) (source : String) :
    String × Option SyntaxError :=
  match catalog.restyle maxPasses source with
  | .ok outcome => (outcome.text, none)
  | .error error => (source, some error)

end Catalog

end FluentStyle
