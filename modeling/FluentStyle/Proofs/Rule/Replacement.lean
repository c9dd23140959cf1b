import FluentStyle.Proofs.Rule.Proposal

/-!
# Chains and closures replaced everywhere

What a rule that orders calls, writes closures as arrow functions or leaves out the arguments of
flags makes of a chain or a closure gives the rule nothing more to do, and has no other parts.  So a
change of all expressions from the inside out leaves the rule nothing to do in the whole tree.
-/

namespace FluentStyle

namespace Rule

def replacement? (style : Conventions) (rule : Rule) : Expr → Option Expr
  | .chain c => (rule.proposal? style (.chain c)).map Site.toExpr
  | .closure c => (rule.proposal? style (.closure c)).map Site.toExpr
  | _ => none

def rewritten (style : Conventions) (rule : Rule) (expr : Expr) : Expr :=
  (rule.replacement? style expr).getD expr

/-- The number of expressions in trees that a change from the inside out replaces. -/
def replacements (style : Conventions) (rule : Rule) (exprs : List Expr) : Nat :=
  (exprs.flatMap Expr.parts).countP fun part =>
    (rule.replacement? style (part.mapInside (rule.rewritten style))).isSome

/-- The rule makes nothing of any part of the tree. -/
def Spares (style : Conventions) (rule : Rule) : Expr → Prop :=
  Expr.Every fun part => rule.replacement? style part = none

variable {style : Conventions} {rule : Rule} {expr changed : Expr}

theorem rewritten_of_none (h : rule.replacement? style expr = none) :
    rule.rewritten style expr = expr := by
  rw [rewritten, h]
  rfl

theorem rewritten_of_some (h : rule.replacement? style expr = some changed) :
    rule.rewritten style expr = changed := by
  rw [rewritten, h]
  rfl

theorem spares_iff :
    rule.Spares style expr ↔
      rule.replacement? style expr = none ∧ ∀ child ∈ expr.children, rule.Spares style child :=
  Expr.every_iff

theorem replacements_cons (expr : Expr) (exprs : List Expr) :
    rule.replacements style (expr :: exprs) =
      rule.replacements style [expr] + rule.replacements style exprs := by
  unfold replacements
  rw [List.flatMap_cons, List.countP_append, List.flatMap_singleton]

theorem replacements_singleton (expr : Expr) :
    rule.replacements style [expr] =
      rule.replacements style expr.children +
        if (rule.replacement? style (expr.mapInside (rule.rewritten style))).isSome then 1
        else 0 := by
  unfold replacements
  rw [List.flatMap_singleton, Expr.parts_eq, List.countP_cons]

theorem replacement?_mapInside_of_none {f : Expr → Expr} (h : Site.ofExpr? expr = none) :
    rule.replacement? style (expr.mapInside f) = none := by
  cases expr with
  | chain c => cases h
  | closure c => cases h
  | _ => rfl

theorem map_list (items : List Expr) :
    (Site.list items).toExpr.map (rule.rewritten style) =
      (Site.list (items.map (Expr.map (rule.rewritten style)))).toExpr := by
  have hitems : ArrayItem.mapAll (rule.rewritten style) (items.map .value) =
      (items.map (Expr.map (rule.rewritten style))).map .value := by
    induction items with
    | nil => rfl
    | cons item items ih => rw [List.map_cons, ArrayItem.mapAll, ih, List.map_cons, List.map_cons]
  exact congrArg Expr.array hitems

theorem replacements_list (items : List Expr) :
    rule.replacements style [(Site.list items).toExpr] = rule.replacements style items := by
  rw [replacements_singleton, Site.toExpr, Expr.children_list]
  rfl

/-!
# Trees that a rule spares

Where the rule spares the parts of an expression, it is left alone before the change comes to it.
-/

theorem mapInside_of_children (h : ∀ child ∈ expr.children, rule.Spares style child) :
    expr.mapInside (rule.rewritten style) = expr := by
  induction expr using Expr.children_induction with
  | h expr ih =>
      rcases expr.mapInside_spec (rule.rewritten style) with ⟨hframe, hchildren⟩
      refine Expr.determined.ext hframe (hchildren.trans ?_)
      refine (List.map_congr_left fun child hchild => ?_).trans (List.map_id _)
      rcases spares_iff.mp (h child hchild) with ⟨hnone, hspared⟩
      rw [Expr.map_eq, ih child hchild hspared, rewritten_of_none hnone]
      rfl

theorem map_of_spares (h : rule.Spares style expr) : expr.map (rule.rewritten style) = expr := by
  rcases spares_iff.mp h with ⟨hnone, hspared⟩
  rw [Expr.map_eq, mapInside_of_children hspared, rewritten_of_none hnone]

theorem replacements_of_spares {exprs : List Expr} (h : ∀ expr ∈ exprs, rule.Spares style expr) :
    rule.replacements style exprs = 0 := by
  apply List.countP_eq_zero.mpr
  intro part hpart
  rcases List.mem_flatMap.mp hpart with ⟨expr, hexpr, hmem⟩
  rcases spares_iff.mp ((h expr hexpr).of_mem_parts hmem) with ⟨hnone, hspared⟩
  rw [mapInside_of_children hspared, hnone]
  exact Bool.false_ne_true

end Rule

/-!
# Bare flags
-/

theorem Call.isTrueFlag_bared (flags : List String) (call : Call) :
    (call.bared flags).isTrueFlag flags = false := by
  by_cases hflag : call.isTrueFlag flags = true
  · rw [bared, if_pos hflag, isTrueFlag, Bool.and_false]
  · rw [bared, if_neg hflag]
    exact Bool.eq_false_iff.mpr hflag

namespace Chain

variable {style : Conventions} {flags : List String} {chain changed : Chain}

theorem bared?_of_bared (h : chain.bared? style flags = some changed) :
    changed.bared? style flags = none := by
  rcases bared?_eq_some h with ⟨-, rfl⟩
  have hnone : (chain.rest.map (·.bared flags)).any (·.isTrueFlag flags) = false := by
    rw [List.any_map, List.any_eq_false]
    intro call _
    exact Bool.eq_false_iff.mp (Call.isTrueFlag_bared flags call)
  unfold bared?
  simp only [hnone, Bool.and_false, Bool.false_eq_true, if_false]

theorem exists_children_eq (chain : Chain) :
    ∃ front : List Expr, ∀ rest : List Call,
      (Expr.chain { chain with rest }).children = front ++ rest.flatMap (·.args) := by
  rcases chain with ⟨root, first, calls⟩
  cases root with
  | receiver object => exact ⟨object :: first.args, fun rest => rfl⟩
  | _ => exact ⟨first.args, fun rest => rfl⟩

theorem children_bared (h : chain.bared? style flags = some changed) :
    ∀ child ∈ (Expr.chain changed).children, child ∈ (Expr.chain chain).children := by
  rcases bared?_eq_some h with ⟨-, rfl⟩
  have hargs : ∀ child ∈ (chain.rest.map (·.bared flags)).flatMap (·.args),
      child ∈ chain.rest.flatMap (·.args) := by
    intro child hchild
    rw [List.flatMap_map] at hchild
    rcases List.mem_flatMap.mp hchild with ⟨call, hcall, hmem⟩
    refine List.mem_flatMap.mpr ⟨call, hcall, ?_⟩
    unfold Call.bared at hmem
    split at hmem
    · cases hmem
    · exact hmem
  rcases chain.exists_children_eq with ⟨front, hfront⟩
  rcases chain with ⟨root, first, rest⟩
  intro child hchild
  rw [hfront, List.mem_append] at hchild
  rw [hfront rest, List.mem_append]
  exact hchild.imp_right (hargs child)

end Chain

namespace Rule

variable {style : Conventions} {rule : Rule} {expr changed : Expr}

/-!
# One change is enough

There is nothing to replace in what a rule has made of a chain or a closure, and that has no new
parts.
-/

variable (hkind : rule.kind = .callOrder ∨ rule.kind = .arrowClosures ∨
  ∃ flags, rule.kind = .bareFlags flags)

include hkind

theorem replacement?_toExpr (site : Site) :
    rule.replacement? style site.toExpr = (rule.proposal? style site).map Site.toExpr := by
  cases site with
  | list items =>
      rw [proposal?]
      rcases hkind with hkind | hkind | ⟨flags, hkind⟩ <;> rw [hkind] <;> rfl
  | _ => rfl

theorem replacement?_eq_some (h : rule.replacement? style expr = some changed) :
    (∃ chain chain' : Chain, rule.kind = .callOrder ∧ expr = .chain chain ∧
      changed = .chain chain' ∧ chain.reordered? style = some chain') ∨
    (∃ closure closure' : Closure, rule.kind = .arrowClosures ∧ expr = .closure closure ∧
      changed = .closure closure' ∧ closure.toArrow? = some closure') ∨
    ∃ (flags : List String) (chain chain' : Chain), rule.kind = .bareFlags flags ∧
      expr = .chain chain ∧ changed = .chain chain' ∧ chain.bared? style flags = some chain' := by
  have hsite : ∃ site proposal : Site, expr = site.toExpr ∧ changed = proposal.toExpr ∧
      rule.proposal? style site = some proposal := by
    unfold replacement? at h
    split at h
    · rcases Option.map_eq_some_iff.mp h with ⟨proposal, hproposal, rfl⟩
      exact ⟨_, proposal, rfl, rfl, hproposal⟩
    · rcases Option.map_eq_some_iff.mp h with ⟨proposal, hproposal, rfl⟩
      exact ⟨_, proposal, rfl, rfl, hproposal⟩
    · cases h
  rcases hsite with ⟨site, proposal, rfl, rfl, hproposal⟩
  rcases hkind with hkind | hkind | ⟨flags, hkind⟩
  · cases (proposal?_iff_makes hkind).mp hproposal with
    | callOrder hchain => exact Or.inl ⟨_, _, hkind, rfl, rfl, hchain⟩
  · cases (proposal?_iff_makes hkind).mp hproposal with
    | arrowClosures hclosure => exact Or.inr (Or.inl ⟨_, _, hkind, rfl, rfl, hclosure⟩)
  · cases (proposal?_iff_makes hkind).mp hproposal with
    | bareFlags hchain => exact Or.inr (Or.inr ⟨flags, _, _, hkind, rfl, rfl, hchain⟩)

theorem replacement?_of_replaced (h : rule.replacement? style expr = some changed) :
    rule.replacement? style changed = none := by
  rcases replacement?_eq_some hkind h with ⟨chain, chain', hkind, rfl, rfl, hchain⟩ |
    ⟨closure, closure', hkind, rfl, rfl, hclosure⟩ | ⟨flags, chain, chain', hkind, rfl, rfl, hchain⟩
  · rcases Chain.reordered?_eq_some hchain with ⟨-, -, rfl⟩
    have hranked : Chain.reordered? style { chain with rest := style.ordered chain.rest } = none :=
      Chain.reordered?_eq_none_iff.mpr fun _ => Conventions.isRanked_ordered chain.rest
    rw [replacement?, proposal?, hkind]
    simp only [hranked, Option.map_none]
  · rcases Closure.toArrow?_eq_some hclosure with ⟨params, value, rfl, rfl⟩
    rw [replacement?, proposal?, hkind]
    rfl
  · rw [replacement?, proposal?, hkind]
    simp only [Chain.bared?_of_bared hchain, Option.map_none]

theorem children_of_replaced (h : rule.replacement? style expr = some changed) :
    ∀ child ∈ changed.children, child ∈ expr.children := by
  rcases replacement?_eq_some hkind h with ⟨chain, chain', -, rfl, rfl, hchain⟩ |
    ⟨closure, closure', -, rfl, rfl, hclosure⟩ | ⟨flags, chain, chain', -, rfl, rfl, hchain⟩
  · rcases Chain.reordered?_eq_some hchain with ⟨-, -, rfl⟩
    have hperm := Chain.children_perm_of_rest (style.ordered_perm chain.rest)
    exact fun child hchild => hperm.mem_iff.mp hchild
  · rcases Closure.toArrow?_eq_some hclosure with ⟨params, value, rfl, rfl⟩
    simp only [Expr.children, Closure.children, Stmt.children]
    exact fun child hchild => hchild
  · exact Chain.children_bared hchain

/-- After one change from the inside out the rule spares the tree. -/
theorem spares_map (expr : Expr) : rule.Spares style (expr.map (rule.rewritten style)) := by
  induction expr using Expr.children_induction with
  | h expr ih =>
      rcases expr.mapInside_spec (rule.rewritten style) with ⟨-, hchildren⟩
      have hspared : ∀ child ∈ (expr.mapInside (rule.rewritten style)).children,
          rule.Spares style child := by
        rw [hchildren]
        intro child hchild
        rcases List.mem_map.mp hchild with ⟨origin, horigin, rfl⟩
        exact ih origin horigin
      rw [Expr.map_eq]
      cases hreplaced : rule.replacement? style (expr.mapInside (rule.rewritten style)) with
      | none =>
          rw [rewritten_of_none hreplaced]
          exact spares_iff.mpr ⟨hreplaced, hspared⟩
      | some changed =>
          rw [rewritten_of_some hreplaced]
          refine spares_iff.mpr ⟨replacement?_of_replaced hkind hreplaced, fun child hchild => ?_⟩
          exact hspared child (children_of_replaced hkind hreplaced child hchild)

end Rule

end FluentStyle
