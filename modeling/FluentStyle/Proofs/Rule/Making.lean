import FluentStyle.Rule.Proposal

/-!
# What rules make

A rule of each kind makes one sort of change, to one sort of site: five change chains, one changes
closures and one changes lists.  Rules that only report make nothing.
-/

namespace FluentStyle

inductive RuleKind.Makes (style : Conventions) : RuleKind → Site → Site → Prop where
  | callOrder {chain changed : Chain} (h : chain.reordered? style = some changed) :
      Makes style .callOrder (.chain chain) (.chain changed)
  | relationship {classes : List String} {chain changed : Chain}
      (h : chain.bound? style classes = some changed) :
      Makes style (.relationship classes) (.chain chain) (.chain changed)
  | confirmation {chain changed : Chain} (h : chain.unguarded? style = some changed) :
      Makes style .confirmation (.chain chain) (.chain changed)
  | visibility {chain changed : Chain} (h : chain.shown? style = some changed) :
      Makes style .visibility (.chain chain) (.chain changed)
  | bareFlags {flags : List String} {chain changed : Chain}
      (h : chain.bared? style flags = some changed) :
      Makes style (.bareFlags flags) (.chain chain) (.chain changed)
  | arrowClosures {closure changed : Closure} (h : closure.toArrow? = some changed) :
      Makes style .arrowClosures (.closure closure) (.closure changed)
  | sections {items made : List Expr} (h : Expr.sectioned? style items = some made) :
      Makes style .sections (.list items) (.list made)

namespace Rule

variable {style : Conventions} {rule : Rule} {kind : RuleKind} {site proposal : Site}

theorem proposal?_iff_makes (hkind : rule.kind = kind) :
    rule.proposal? style site = some proposal ↔ kind.Makes style site proposal := by
  constructor
  · intro h
    cases site with
    | chain chain =>
        cases kind <;> simp only [proposal?, hkind, Option.map_eq_some_iff, reduceCtorEq] at h
        case callOrder =>
          rcases h with ⟨changed, hchanged, rfl⟩
          exact .callOrder hchanged
        case relationship =>
          rcases h with ⟨changed, hchanged, rfl⟩
          exact .relationship hchanged
        case confirmation =>
          rcases h with ⟨changed, hchanged, rfl⟩
          exact .confirmation hchanged
        case visibility =>
          rcases h with ⟨changed, hchanged, rfl⟩
          exact .visibility hchanged
        case bareFlags =>
          rcases h with ⟨changed, hchanged, rfl⟩
          exact .bareFlags hchanged
    | closure closure =>
        cases kind <;> simp only [proposal?, hkind, Option.map_eq_some_iff, reduceCtorEq] at h
        rcases h with ⟨changed, hchanged, rfl⟩
        exact .arrowClosures hchanged
    | list items =>
        cases kind <;> simp only [proposal?, hkind, Option.map_eq_some_iff, reduceCtorEq] at h
        rcases h with ⟨made, hmade, rfl⟩
        exact .sections hmade
  · intro h
    cases h <;> rename_i h <;> simp only [proposal?, hkind, h, Option.map_some]

/-- A proposal comes from a rule of some kind that makes it. -/
theorem makes_of_proposal? (h : rule.proposal? style site = some proposal) :
    ∃ kind : RuleKind, rule.kind = kind ∧ kind.Makes style site proposal :=
  ⟨rule.kind, rfl, (proposal?_iff_makes rfl).mp h⟩

theorem isAdvisory_of_proposal? (h : rule.proposal? style site = some proposal) :
    rule.isAdvisory = false := by
  rcases makes_of_proposal? h with ⟨kind, hkind, hmakes⟩
  unfold isAdvisory
  rw [hkind]
  cases hmakes <;> rfl

end Rule

end FluentStyle
