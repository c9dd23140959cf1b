import FluentStyle.Rule.Proposal

/-!
# Conventions that agree

What a rule proposes and what becomes of it does not depend on how the conventions are written down:
a call may be listed among others or be of its category because it is listed nowhere, and the listed
calls may stand in any order.  All that counts is what the conventions say of each call.
-/

namespace FluentStyle

/-- Two conventions that say the same of every call. -/
structure Conventions.Agree (a b : Conventions) : Prop where
  constructors : a.constructors = b.constructors
  order : a.order = b.order
  category : ∀ call, a.category call = b.category call
  isExempt : ∀ call, a.isExempt call = b.isExempt call
  groups : a.groups = b.groups

theorem Conventions.Agree.refl (style : Conventions) : style.Agree style :=
  ⟨rfl, rfl, fun _ => rfl, fun _ => rfl, rfl⟩

variable {a b : Conventions}

namespace Conventions.Agree

/-!
# The order of calls
-/

theorem isDeclaration (h : a.Agree b) (chain : Chain) :
    a.isDeclaration chain = b.isDeclaration chain := by
  unfold Conventions.isDeclaration
  rw [h.constructors]

theorem callRank (h : a.Agree b) (call : Call) : a.callRank call = b.callRank call := by
  unfold Conventions.callRank Conventions.rank
  rw [h.category, h.order]

theorem ranked (h : a.Agree b) (calls : List Call) : a.ranked calls = b.ranked calls := by
  unfold Conventions.ranked
  simp only [h.isExempt, h.callRank]

theorem place (h : a.Agree b) (calls ranked : List Call) :
    a.place calls ranked = b.place calls ranked := by
  induction calls generalizing ranked with
  | nil => rfl
  | cons call rest ih => simp only [Conventions.place, h.isExempt, ih]

theorem ordered (h : a.Agree b) (calls : List Call) : a.ordered calls = b.ordered calls := by
  unfold Conventions.ordered
  rw [h.ranked, h.place]

/-!
# What rules propose
-/

theorem reordered? (h : a.Agree b) (chain : Chain) : chain.reordered? a = chain.reordered? b := by
  simp only [Chain.reordered?, h.isDeclaration, h.ordered]

theorem sectioned? (h : a.Agree b) (items : List Expr) :
    Expr.sectioned? a items = Expr.sectioned? b items := by
  have htakes : ∀ group : Group, group.takes a = group.takes b := by
    intro group
    funext expr
    cases expr with
    | chain chain => simp only [Group.takes, h.isDeclaration]
    | _ => rfl
  simp only [Expr.sectioned?, h.constructors, h.groups, htakes]

theorem proposal? (h : a.Agree b) (rule : Rule) (site : Site) :
    rule.proposal? a site = rule.proposal? b site := by
  cases site with
  | chain chain =>
      simp only [Rule.proposal?, h.reordered?, Chain.bound?, Chain.unguarded?, Chain.shown?,
        Chain.bared?, h.isDeclaration]
  | closure closure => rfl
  | list items => simp only [Rule.proposal?, h.sectioned?]

theorem permission (h : a.Agree b) (kind : RuleKind) : kind.permission a = kind.permission b := by
  cases kind with
  | sections => simp only [RuleKind.permission, h.groups, h.constructors]
  | _ => rfl

theorem examine (h : a.Agree b) (rule : Rule) (before after : Site) :
    rule.examine a before after = rule.examine b before after := by
  unfold Rule.examine
  rw [h.permission]

end Conventions.Agree

end FluentStyle
