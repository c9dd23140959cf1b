import FluentStyle.Proofs.Restyle.Descent
import FluentStyle.Proofs.Restyle.Sections

/-!
# Sections in sections

The fields of a new section are a list of their own, some of which may be put into a section of
another group, and so on.  No rule but those that make sections has anything to propose there, so
all names that are called stay called; and once the containers of all groups are called, no section
is objected to.
-/

namespace FluentStyle

/-- The expression has been settled, or is a new section around such expressions, or a list of such.
-/
inductive Expr.Sectional (trail : Trail) : Expr → Prop where
  | settled {expr : Expr} (h : expr.SettledIn trail) : Sectional trail expr
  | list {items : List Expr} (h : ∀ item ∈ items, Sectional trail item) :
      Sectional trail (Site.list items).toExpr
  | wrap {fields : List Expr} (group : Group) (constructor : String)
      (h : Sectional trail (Site.list fields).toExpr) :
      Sectional trail (group.wrap constructor fields)

namespace Expr

variable {style : Conventions} {trail later : Trail}

theorem Sectional.mono {expr : Expr} (h : expr.Sectional trail) (hgrows : trail.Grows later) :
    expr.Sectional later := by
  induction h with
  | settled h => exact .settled (h.mono hgrows.settled)
  | list _ ih => exact .list ih
  | wrap group constructor _ ih => exact .wrap group constructor ih

theorem sectional_sectioned {items items' : List Expr} (h : sectioned? style items = some items')
    (hitems : ∀ item ∈ items, item.Sectional trail) : ∀ item ∈ items', item.Sectional trail := by
  rcases sectioned?_eq_some h with ⟨constructor, group, cut, -, -, hcut, rfl⟩
  rw [hcut.items_eq] at hitems
  rcases List.forall_mem_append.mp hitems with ⟨hbefore, hothers⟩
  rcases List.forall_mem_append.mp hothers with ⟨hrun, hafter⟩
  exact List.forall_mem_append.mpr
    ⟨hbefore, List.forall_mem_cons.mpr ⟨.wrap group constructor (.list hrun), hafter⟩⟩

theorem callsWithin_list {items items' : List Expr} (h : List.Forall₂ CallsWithin items items') :
    CallsWithin (Site.list items).toExpr (Site.list items').toExpr := by
  unfold CallsWithin
  rw [Site.toExpr, Site.toExpr, calls_list, calls_list]
  exact names_callsAll_sublist h

end Expr

theorem Rule.sectioned?_of_proposal? {style : Conventions} {rule : Rule} {items : List Expr}
    {proposal : Site} (h : rule.proposal? style (.list items) = some proposal) :
    rule.kind = .sections ∧
      ∃ made : List Expr, proposal = .list made ∧ Expr.sectioned? style items = some made := by
  rcases makes_of_proposal? h with ⟨kind, hkind, hmakes⟩
  cases hmakes with
  | sections hmade => exact ⟨hkind, _, rfl, hmade⟩

theorem Rule.proposal?_wrap {style : Conventions} {rule : Rule} {chain : Chain}
    {group : Group} {constructor : String} {fields : List Expr}
    (h : group.wrap constructor fields = .chain chain) :
    rule.proposal? style (.chain chain) = none := by
  have hrest : chain.rest = [⟨group.container, [.array (fields.map .value)]⟩] := by
    cases h
    rfl
  by_cases hvanishing : rule.kind.vanishing = []
  · cases hkind : rule.kind with
    | callOrder =>
        have hnone : chain.reordered? style = none := by
          apply Chain.reordered?_eq_none_iff.mpr
          intro _
          rw [hrest]
          exact (List.pairwise_singleton _ _).sublist List.filter_sublist
        rw [proposal?, hkind]
        simp only [hnone, Option.map_none]
    | bareFlags flags =>
        rw [proposal?, hkind]
        simp [Chain.bared?, hrest, Call.isTrueFlag]
    | visibility | confirmation | relationship =>
        rw [hkind] at hvanishing
        cases hvanishing
    | _ => rw [proposal?, hkind]
  · rw [Chain.proposal?_eq_swap hvanishing]
    apply Option.bind_eq_none_iff.mpr
    intro swap hswap
    have hnone : swap.replacement? ⟨group.container, [.array (fields.map .value)]⟩ = none :=
      Chain.replacement?_eq_none hswap (List.forall_mem_singleton.mpr (Or.inr ⟨_, rfl⟩))
    rw [hrest, Call.replaceFirst?, hnone, Call.replaceFirst?]
    split <;> rfl

namespace Walk

variable {style : Conventions} {rules : List Rule} {trail : Trail}

/-- A visitor leaves sectional expressions sectional, and all names that are called in them. -/
def KeepsSectional (visitor : Expr → Walk Expr) : Prop :=
  (∀ (expr : Expr) (trail : Trail), trail.Grows ((visitor expr).run trail).2) ∧
    ∀ (expr : Expr) (trail : Trail), expr.Sectional trail →
      ((visitor expr).run trail).1.Sectional ((visitor expr).run trail).2 ∧
        Expr.CallsWithin expr ((visitor expr).run trail).1

variable {visitor : Expr → Walk Expr}

theorem KeepsSectional.mapM (h : KeepsSectional visitor) {exprs : List Expr}
    (hexprs : ∀ expr ∈ exprs, expr.Sectional trail) :
    let result := (exprs.mapM visitor).run trail
    (∀ expr ∈ result.1, expr.Sectional result.2) ∧
      List.Forall₂ Expr.CallsWithin exprs result.1 := by
  induction exprs generalizing trail with
  | nil => exact ⟨List.forall_mem_nil _, List.Forall₂.nil⟩
  | cons expr exprs ih =>
      rcases List.forall_mem_cons.mp hexprs with ⟨hexpr, hrest⟩
      have hgrows := h.1 expr trail
      rcases h.2 expr trail hexpr with ⟨hsectional, hcalls⟩
      rcases ih fun other hother => (hrest other hother).mono hgrows with
        ⟨hsectionalRest, hcallsRest⟩
      rw [stateM_run_mapM_cons]
      refine ⟨List.forall_mem_cons.mpr ⟨?_, hsectionalRest⟩, List.Forall₂.cons hcalls hcallsRest⟩
      exact hsectional.mono (grows_mapM h.1 exprs _)

theorem KeepsSectional.round (h : KeepsSectional visitor) (style : Conventions)
    (rules : List Rule) {items : List Expr}
    (hitems : ∀ item ∈ items, item.Sectional trail) :
    let result := (Walk.round style visitor rules (.list items)).run trail
    ∃ items' : List Expr, result.1 = .list items' ∧ (∀ item ∈ items', item.Sectional result.2) ∧
      Expr.CallsWithin (Site.list items).toExpr (Site.list items').toExpr := by
  intro result
  rcases h.mapM hitems with ⟨hsectional, hcalls⟩
  rcases settle_induction style (·.mapChildrenM visitor)
      (P := fun _ site later => ∃ items' : List Expr, site = .list items' ∧
        (∀ item ∈ items', item.Sectional later) ∧
          Expr.CallsWithin (Site.list items).toExpr (Site.list items').toExpr)
      (by
        rintro _ _ _ _ rule trail hfirst - ⟨items', rfl, hitems', hkept⟩
        rcases (Rule.sectioned?_of_proposal? (firstProposal?_eq_some hfirst).1).2 with
          ⟨made, rfl, hmade⟩
        have hsectionalMade : ∀ item ∈ made,
            item.Sectional ((record (.applied rule.id)).run trail).2 :=
          fun item hitem => (Expr.sectional_sectioned hmade hitems' item hitem).mono
            (Trail.Grows.record trail _)
        rcases h.mapM hsectionalMade with ⟨hsectional, hcalls⟩
        refine ⟨_, rfl, hsectional, ?_⟩
        have hsection := (Expr.gainsSections_sectioned hmade).calls
        exact (List.Sublist.trans hkept hsection).trans (Expr.callsWithin_list hcalls))
      (by
        rintro _ _ _ _ rule objection trail - - ⟨items', rfl, hitems', hkept⟩
        exact ⟨items', rfl, fun item hitem => (hitems' item hitem).mono (Trail.Grows.record _ _),
          hkept⟩)
      (Nat.le_refl rules.length) _
      ⟨_, rfl, hsectional, Expr.callsWithin_list hcalls⟩ with ⟨-, hround, -⟩
  exact hround

theorem visit_list (style : Conventions) (rules : List Rule) (depth : Nat) (items : List Expr)
    (trail : Trail) :
    ∃ items' : List Expr,
      ((visit style rules depth (Site.list items).toExpr).run trail).1 =
        (Site.list items').toExpr := by
  cases depth with
  | zero => exact ⟨items, rfl⟩
  | succ depth =>
      by_cases hcontains : trail.settled.contains (Site.list items).toExpr = true
      · rw [run_visit_succ, if_pos hcontains]
        exact ⟨items, rfl⟩
      · rw [run_visit_site hcontains]
        rcases round_list style (visit style rules depth) rules items trail with ⟨items', hsite⟩
        exact ⟨items', congrArg Site.toExpr hsite⟩

theorem run_round_wrap {depth : Nat} {group : Group} {constructor : String}
    {fields fields' : List Expr} {chain chain' : Chain}
    (hchain : group.wrap constructor fields = .chain chain)
    (hchain' : group.wrap constructor fields' = .chain chain')
    (hlist : ((visit style rules depth (Site.list fields).toExpr).run trail).1 =
      (Site.list fields').toExpr) :
    (round style (visit style rules depth) rules (.chain chain)).run trail =
      (.chain chain', ((visit style rules depth (Site.list fields).toExpr).run trail).2) := by
  have hliteral := Expr.settledIn_literal trail (.singleQuoted group.title)
  have hparts : ((Site.chain chain).mapChildrenM (visit style rules depth)).run trail =
      (.chain chain', ((visit style rules depth (Site.list fields).toExpr).run trail).2) := by
    have hfields : Expr.array (fields.map .value) = (Site.list fields).toExpr := rfl
    cases hchain
    cases hchain'
    simp only [Site.mapChildrenM, Chain.mapChildrenM, Call.mapArgsM, List.mapM_cons, List.mapM_nil,
      stateM_run_bind, stateM_run_pure, run_visit_of_settled hliteral, hfields, hlist]
    rfl
  rw [run_round, hparts]
  exact run_settle_of_no_proposal fun rule _ => Rule.proposal?_wrap hchain'

theorem keepsSectional_visit (style : Conventions) (rules : List Rule) (depth : Nat) :
    KeepsSectional (visit style rules depth) := by
  refine ⟨grows_visit style rules depth, ?_⟩
  induction depth with
  | zero => exact fun expr trail h => ⟨h, Expr.CallsWithin.refl expr⟩
  | succ depth ih =>
      have hkeeps : KeepsSectional (visit style rules depth) := ⟨grows_visit style rules depth, ih⟩
      have hlater : ∀ (expr : Expr) (trail : Trail),
          trail.Grows { trail with settled := expr :: trail.settled } :=
        fun expr trail => ⟨List.subset_cons_self _ _, List.Subset.refl _⟩
      intro expr trail h
      by_cases hcontains : trail.settled.contains expr = true
      · rw [run_visit_succ, if_pos hcontains]
        exact ⟨h, Expr.CallsWithin.refl expr⟩
      cases h with
      | settled h =>
          rw [run_visit_of_settled h]
          exact ⟨.settled h, Expr.CallsWithin.refl expr⟩
      | @list items hitems =>
          rcases hkeeps.round style rules hitems with
            ⟨items', hsite, hsectional, hcalls⟩
          rw [run_visit_site hcontains]
          simp only [hsite]
          exact ⟨(Expr.Sectional.list hsectional).mono (hlater _ _), hcalls⟩
      | @wrap fields group constructor hfields =>
          rcases ih _ trail hfields with ⟨hsectional, hcalls⟩
          rcases visit_list style rules depth fields trail with
            ⟨fields', hlist⟩
          rw [hlist] at hsectional hcalls
          obtain ⟨chain, hchain⟩ : ∃ chain : Chain,
              group.wrap constructor fields = (Site.chain chain).toExpr := ⟨_, rfl⟩
          obtain ⟨chain', hchain'⟩ : ∃ chain' : Chain,
              group.wrap constructor fields' = (Site.chain chain').toExpr := ⟨_, rfl⟩
          have hround := run_round_wrap hchain hchain' hlist
          have hkept : Expr.CallsWithin (group.wrap constructor fields)
              (group.wrap constructor fields') :=
            Expr.CallsWithin.of_children rfl
              (List.Forall₂.cons (Expr.CallsWithin.refl _) (List.Forall₂.cons hcalls .nil))
          have hmade := (Expr.Sectional.wrap group constructor hsectional).mono
            (hlater (.chain chain') _)
          rw [hchain] at hcontains hkept ⊢
          rw [hchain'] at hkept hmade
          rw [run_visit_site hcontains, hround]
          exact ⟨hmade, hkept⟩

end Walk

/-!
# Containers stay called
-/

theorem Rule.examine_sectioned {style : Conventions} {rule : Rule} {items items' : List Expr}
    (hkind : rule.kind = .sections) (h : Expr.sectioned? style items = some items') :
    rule.examine style (.list items) (.list items') = .accept ↔
      ∀ group ∈ style.groups, group.container ∈ Call.names (Expr.callsAll items') := by
  rcases Expr.exists_sectioned h with ⟨constructor, container, hsection⟩
  have hcalled : (Site.list items').uncalledContainers style = [] ↔
      ∀ group ∈ style.groups, group.container ∈ Call.names (Expr.callsAll items') := by
    rw [Site.uncalledContainers_eq_nil_iff]
    simp only [Call.names, List.mem_map]
    rfl
  have hverdict := hsection.ofEffects_eq
  rw [Rule.examine, hkind]
  show Verdict.ofEffects (RuleKind.sections.permission style) (Site.list items).effects
    (Site.list items').effects = .accept ↔ _
  rw [hverdict, ← hcalled]
  split <;> simp_all

namespace Walk

variable {style : Conventions} {rules : List Rule} {trail : Trail} {rule : Rule}

/-- After a section was made, no section is objected to. -/
theorem not_objects_of_descended_list {items : List Expr}
    (hsettled : ∀ item ∈ items, item.SettledIn trail) {proposal : Site}
    (hproposal : rule.proposal? style (.list items) = some proposal)
    (haccept : rule.examine style (.list items) proposal = .accept) (depth : Nat) (other : Rule)
    (objection : Objection) :
    ¬ other.Objects style
      ((proposal.mapChildrenM (visit style rules depth)).run trail).1 objection := by
  rcases Rule.sectioned?_of_proposal? hproposal with ⟨hkind, made, rfl, hmade⟩
  have hcontainers := (Rule.examine_sectioned hkind hmade).mp haccept
  have hsectional := Expr.sectional_sectioned hmade fun item hitem => .settled (hsettled item hitem)
  rcases (keepsSectional_visit style rules depth).mapM hsectional with ⟨-, hcalls⟩
  rintro ⟨proposal', hproposal', hverdict⟩
  rcases Rule.sectioned?_of_proposal? hproposal' with ⟨hkind', made', rfl, hmade'⟩
  have hlater := (Expr.gainsSections_sectioned hmade').calls
  unfold Expr.CallsWithin at hlater
  rw [Site.toExpr, Site.toExpr, Expr.calls_list, Expr.calls_list] at hlater
  have haccept' := (Rule.examine_sectioned hkind' hmade').mpr fun group hgroup =>
    hlater.subset ((Expr.names_callsAll_sublist hcalls).subset (hcontainers group hgroup))
  have hreject : other.examine style (.list _) (.list made') = .reject objection := hverdict
  rw [haccept'] at hreject
  cases hreject

/-- After a rule was applied to a site and the parts of its proposal were visited, rules object only
to what they objected to before. -/
theorem objects_of_descended {site proposal : Site}
    (hsettled : ∀ child ∈ site.toExpr.children, child.SettledIn trail)
    (hproposal : rule.proposal? style site = some proposal)
    (haccept : rule.examine style site proposal = .accept) (depth : Nat) {other : Rule}
    {objection : Objection}
    (h : other.Objects style
      ((proposal.mapChildrenM (visit style rules depth)).run trail).1 objection) :
    other.Objects style site objection := by
  cases site with
  | chain chain => exact objects_of_descended_chain hsettled hproposal depth h
  | closure closure =>
      rcases Rule.proposal?_closure hproposal with ⟨changed, rfl, -, -⟩
      rcases h.cases with ⟨chain, hsite, -⟩ | ⟨items, hsite, -⟩ <;> cases hsite
  | list items =>
      have hitems : ∀ item ∈ items, item.SettledIn trail := by
        intro item hitem
        apply hsettled
        rw [Site.toExpr, Expr.children_list]
        exact hitem
      exact absurd h (not_objects_of_descended_list hitems hproposal haccept depth other objection)

end Walk

end FluentStyle
