import FluentStyle.Proofs.Restyle.AtRest

/-!
# What a pass has settled

A pass keeps in mind the sites it has settled and what happened, and forgets nothing of it.  An
expression all of whose sites are settled is passed over by visits of any depth.
-/

namespace FluentStyle

namespace Expr

/-- All sites among the parts of the expression have been settled. -/
def SettledIn (trail : Trail) : Expr → Prop :=
  Expr.Every fun part => (Site.ofExpr? part).isSome = true → part ∈ trail.settled

variable {trail later : Trail} {expr : Expr}

theorem settledIn_iff :
    expr.SettledIn trail ↔
      ((Site.ofExpr? expr).isSome = true → expr ∈ trail.settled) ∧
        ∀ child ∈ expr.children, child.SettledIn trail :=
  Expr.every_iff

theorem SettledIn.mono (h : expr.SettledIn trail) (hsubset : trail.settled ⊆ later.settled) :
    expr.SettledIn later :=
  Every.mono (fun _ hpart hsite => hsubset (hpart hsite)) h

theorem SettledIn.children (h : expr.SettledIn trail) :
    ∀ child ∈ expr.children, child.SettledIn trail :=
  (settledIn_iff.mp h).2

theorem settledIn_literal (trail : Trail) (literal : StringLiteral) :
    (Expr.literal literal).SettledIn trail :=
  settledIn_iff.mpr ⟨fun hsite => absurd hsite Bool.false_ne_true, List.forall_mem_nil _⟩

end Expr

/-!
# Nothing is forgotten
-/

structure Trail.Grows (trail later : Trail) : Prop where
  settled : trail.settled ⊆ later.settled
  events : trail.events ⊆ later.events

namespace Trail.Grows

variable {trail later last : Trail}

theorem refl (trail : Trail) : trail.Grows trail :=
  ⟨List.Subset.refl _, List.Subset.refl _⟩

theorem trans (h : trail.Grows later) (h' : later.Grows last) : trail.Grows last :=
  ⟨List.Subset.trans h.settled h'.settled, List.Subset.trans h.events h'.events⟩

theorem record (trail : Trail) (event : Event) :
    trail.Grows ((Walk.record event).run trail).2 :=
  ⟨List.Subset.refl _, List.subset_append_left _ _⟩

end Trail.Grows

namespace Walk

variable {style : Conventions} {rules : List Rule} {descend : Site → Walk Site}
  {visitor : Expr → Walk Expr}

/-- What holds when a rule is first tried at a site, and after each proposal for what is left of the
rules, holds in the end, when none that is left proposes anything. -/
theorem settle_induction (style : Conventions) (descend : Site → Walk Site)
    {P : List Rule → Site → Trail → Prop}
    (accept : ∀ {offered others : List Rule} {site proposal : Site} {rule : Rule} {trail : Trail},
      firstProposal? style site offered = some (rule, proposal, others) →
      rule.examine style site proposal = .accept → P offered site trail →
      let descended := (descend proposal).run ((record (.applied rule.id)).run trail).2
      P others descended.1 descended.2)
    (reject : ∀ {offered others : List Rule} {site proposal : Site} {rule : Rule}
        {objection : Objection} {trail : Trail},
      firstProposal? style site offered = some (rule, proposal, others) →
      rule.examine style site proposal = .reject objection → P offered site trail →
      P others site ((record (.rejected rule.id objection)).run trail).2)
    {tries : Nat} {offered : List Rule} (htries : offered.length ≤ tries) (site : Site)
    {trail : Trail} (h : P offered site trail) :
    let result := (settle style descend tries offered site).run trail
    ∃ left : List Rule, P left result.1 result.2 ∧
      ∀ rule ∈ left, rule.proposal? style result.1 = none := by
  induction tries generalizing offered site trail with
  | zero =>
      refine ⟨offered, h, ?_⟩
      rw [List.length_eq_zero_iff.mp (Nat.le_zero.mp htries)]
      exact List.forall_mem_nil _
  | succ tries ih =>
      cases hfirst : firstProposal? style site offered with
      | none =>
          rw [run_settle_of_none hfirst]
          exact ⟨offered, h, firstProposal?_eq_none hfirst⟩
      | some found =>
          rcases found with ⟨rule, proposal, others⟩
          have hlength := (firstProposal?_others hfirst).2.2
          cases hverdict : rule.examine style site proposal with
          | accept =>
              rw [run_settle_of_accept hfirst hverdict]
              exact ih (by omega) _ (accept hfirst hverdict h)
          | reject objection =>
              rw [run_settle_of_reject hfirst hverdict]
              exact ih (by omega) _ (reject hfirst hverdict h)

theorem grows_mapM (h : ∀ (expr : Expr) (trail : Trail), trail.Grows ((visitor expr).run trail).2)
    (exprs : List Expr) (trail : Trail) : trail.Grows ((exprs.mapM visitor).run trail).2 :=
  stateM_mapM_preserves (P := trail.Grows) (fun expr _ later hlater => hlater.trans (h expr later))
    (Trail.Grows.refl trail)

theorem grows_site (h : ∀ (expr : Expr) (trail : Trail), trail.Grows ((visitor expr).run trail).2)
    (site : Site) (trail : Trail) : trail.Grows ((site.mapChildrenM visitor).run trail).2 := by
  have hgrows := grows_mapM h site.toExpr.children trail
  rw [(Expr.fills visitor site.toExpr trail).1, Site.run_mapChildrenM] at hgrows
  exact hgrows

theorem grows_settle
    (h : ∀ (site : Site) (trail : Trail), trail.Grows ((descend site).run trail).2)
    (offered : List Rule) (site : Site) (trail : Trail) :
    trail.Grows ((settle style descend offered.length offered site).run trail).2 := by
  rcases settle_induction style descend (P := fun _ _ later => trail.Grows later)
      (fun _ _ hgrows => (hgrows.trans (Trail.Grows.record _ _)).trans (h _ _))
      (fun _ _ hgrows => hgrows.trans (Trail.Grows.record _ _)) (Nat.le_refl offered.length) site
      (Trail.Grows.refl trail) with ⟨-, hgrows, -⟩
  exact hgrows

theorem grows_round (h : ∀ (expr : Expr) (trail : Trail), trail.Grows ((visitor expr).run trail).2)
    (site : Site) (trail : Trail) :
    trail.Grows ((round style visitor rules site).run trail).2 := by
  rw [run_round]
  exact (grows_site h site trail).trans (grows_settle (grows_site h) rules _ _)

theorem grows_visit (style : Conventions) (rules : List Rule) (depth : Nat) (expr : Expr)
    (trail : Trail) : trail.Grows ((visit style rules depth expr).run trail).2 := by
  induction depth generalizing expr trail with
  | zero => exact Trail.Grows.refl trail
  | succ depth ih =>
      rw [run_visit_succ]
      split
      · exact Trail.Grows.refl trail
      · split
        · have hgrows := grows_mapM ih expr.children trail
          rw [(Expr.fills (visit style rules depth) expr trail).1] at hgrows
          exact hgrows
        · rename_i site _
          have hround :
              trail.Grows ((round style (visit style rules depth) rules site).run trail).2 :=
            grows_round ih site trail
          exact ⟨List.Subset.trans hround.settled (List.subset_cons_self _ _), hround.events⟩

/-!
# What is settled is passed over
-/

variable {trail : Trail}

theorem run_mapM_of_still {α : Type} {f : α → Walk α} {as : List α}
    (h : ∀ a ∈ as, (f a).run trail = (a, trail)) : (as.mapM f).run trail = (as, trail) := by
  induction as with
  | nil => rfl
  | cons a as ih =>
      rcases List.forall_mem_cons.mp h with ⟨ha, has⟩
      rw [stateM_run_mapM_cons, ha, ih has]

theorem run_of_still {α β : Type} {frame : α → β} {children : α → List Expr} {walk : α → Walk α}
    (hfills : Fills frame children visitor walk) (hdetermined : Determined frame children) {a : α}
    (h : ∀ child ∈ children a, (visitor child).run trail = (child, trail)) :
    (walk a).run trail = (a, trail) := by
  rcases hfills a trail with ⟨hchildren, hframe⟩
  rw [run_mapM_of_still h] at hchildren
  rcases Prod.mk.inj hchildren with ⟨hsame, htrail⟩
  exact Prod.ext (hdetermined.ext hframe hsame.symm) htrail.symm

theorem run_site_of_still {site : Site}
    (h : ∀ child ∈ site.toExpr.children, (visitor child).run trail = (child, trail)) :
    (site.mapChildrenM visitor).run trail = (site, trail) := by
  have hsame := run_of_still (Expr.fills visitor) Expr.determined h
  rw [Site.run_mapChildrenM] at hsame
  rcases Prod.mk.inj hsame with ⟨hsite, htrail⟩
  exact Prod.ext (Site.eq_of_toExpr_eq hsite) htrail

theorem run_visit_of_settled {expr : Expr} (h : expr.SettledIn trail) (depth : Nat) :
    (visit style rules depth expr).run trail = (expr, trail) := by
  induction depth generalizing expr with
  | zero => rfl
  | succ depth ih =>
      rcases Expr.settledIn_iff.mp h with ⟨hroot, hchildren⟩
      rw [run_visit_succ]
      by_cases hcontains : trail.settled.contains expr = true
      · rw [if_pos hcontains]
      · rw [if_neg hcontains]
        cases hsite : Site.ofExpr? expr with
        | none =>
            exact run_of_still (Expr.fills _) Expr.determined fun child hchild =>
              ih (hchildren child hchild)
        | some site =>
            rw [hsite] at hroot
            exact absurd (List.contains_iff_mem.mpr (hroot rfl)) hcontains

theorem run_visit_site {site : Site} (h : ¬ trail.settled.contains site.toExpr = true)
    (depth : Nat) :
    (visit style rules (depth + 1) site.toExpr).run trail =
      let result := (round style (visit style rules depth) rules site).run trail
      (result.1.toExpr, { result.2 with settled := result.1.toExpr :: result.2.settled }) := by
  rw [run_visit_succ, if_neg h, site.ofExpr?_toExpr]

theorem run_settle_of_no_proposal {tries : Nat} {offered : List Rule} {site : Site}
    (h : ∀ rule ∈ offered, rule.proposal? style site = none) :
    (settle style descend tries offered site).run trail = (site, trail) := by
  cases tries with
  | zero => rfl
  | succ tries =>
      apply run_settle_of_none
      cases hfirst : firstProposal? style site offered with
      | none => rfl
      | some found =>
          have hproposal := (firstProposal?_eq_some hfirst).1
          rw [h found.1 (firstProposal?_others hfirst).1] at hproposal
          cases hproposal

theorem run_site_of_settled {site : Site}
    (h : ∀ child ∈ site.toExpr.children, child.SettledIn trail) (depth : Nat) :
    (site.mapChildrenM (visit style rules depth)).run trail = (site, trail) :=
  run_site_of_still fun child hchild => run_visit_of_settled (h child hchild) depth

end Walk

end FluentStyle
