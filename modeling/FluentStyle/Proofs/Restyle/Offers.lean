import FluentStyle.Proofs.Restyle.Recorded
import FluentStyle.Proofs.Tree.Lists

/-!
# What a pass offers to rules

A walk looks for a rule at one site after another.  A watched walk does the same and writes down
these sites.  Every site of the tree that a pass ends with is among them; and the pass of a tree at
rest offers its sites and no other.
-/

namespace FluentStyle

/-!
# Watched walks

The steps are those of the walk, one by one; the only thing added is that a site is written down
whenever the walk looks for a rule at it.
-/

/-- What a watched walk keeps in mind: what the walk does, and the sites it has offered to rules. -/
structure Watched where
  trail : Trail
  offered : List Site

abbrev Watch := StateM Watched

namespace Watch

def ofWalk {α : Type} (walk : Walk α) : Watch α := fun watched =>
  let (result, trail) := walk.run watched.trail
  pure (result, { watched with trail })

def offer (site : Site) : Watch Unit :=
  modify fun watched => { watched with offered := watched.offered ++ [site] }

def settle (style : Conventions) (descend : Site → Watch Site) :
    Nat → List Rule → Site → Watch Site
  | 0, _, site => do
      offer site
      return site
  | tries + 1, rules, site => do
      offer site
      match Walk.firstProposal? style site rules with
      | none => return site
      | some (rule, proposal, others) =>
          match rule.examine style site proposal with
          | .accept => do
              ofWalk (Walk.record (.applied rule.id))
              let site ← descend proposal
              settle style descend tries others site
          | .reject objection => do
              ofWalk (Walk.record (.rejected rule.id objection))
              settle style descend tries others site

def round (style : Conventions) (visitor : Expr → Watch Expr) (rules : List Rule) (site : Site) :
    Watch Site := do
  let site ← site.mapChildrenM visitor
  settle style (·.mapChildrenM visitor) rules.length rules site

def visit (style : Conventions) (rules : List Rule) : Nat → Expr → Watch Expr
  | 0, expr => return expr
  | depth + 1, expr => do
      if ← ofWalk (Walk.isSettled expr) then return expr
      match Site.ofExpr? expr with
      | none => expr.mapChildrenM (visit style rules depth)
      | some site =>
          let site ← round style (visit style rules depth) rules site
          ofWalk (Walk.settled site.toExpr)
          return site.toExpr

/-!
# A watched walk is the walk
-/

/-- The watched walk does what the walk does. -/
def Follows {α : Type} (watch : Watch α) (walk : Walk α) : Prop :=
  ∀ watched : Watched, ((watch.run watched).1, (watch.run watched).2.trail) =
    walk.run watched.trail

variable {α β : Type}

theorem Follows.pure (a : α) : Follows (pure a) (pure a) :=
  fun _ => rfl

theorem Follows.ofWalk (walk : Walk α) : Follows (ofWalk walk) walk :=
  fun _ => rfl

theorem Follows.bind {watch : Watch α} {walk : Walk α} {next : α → Watch β} {next' : α → Walk β}
    (h : Follows watch walk) (hnext : ∀ a : α, Follows (next a) (next' a)) :
    Follows (watch >>= next) (walk >>= next') := by
  intro watched
  rw [stateM_run_bind, stateM_run_bind, ← h watched]
  exact hnext _ _

theorem Follows.offer {watch : Watch α} {walk : Walk α} (h : Follows watch walk) (site : Site) :
    Follows (offer site >>= fun _ => watch) walk :=
  fun _ => h _

variable {visitor : Expr → Watch Expr} {visitor' : Expr → Walk Expr}

theorem Follows.mapM (h : ∀ expr : Expr, Follows (visitor expr) (visitor' expr))
    (exprs : List Expr) : Follows (exprs.mapM visitor) (exprs.mapM visitor') := by
  induction exprs with
  | nil => exact Follows.pure []
  | cons expr exprs ih =>
      rw [List.mapM_cons, List.mapM_cons]
      exact (h expr).bind fun first => ih.bind fun rest => Follows.pure (first :: rest)

theorem Follows.mapChildrenM (h : ∀ expr : Expr, Follows (visitor expr) (visitor' expr))
    (expr : Expr) : Follows (expr.mapChildrenM visitor) (expr.mapChildrenM visitor') := by
  intro watched
  -- Both walks act on the same children in the same order and keep the same frame around them.
  rcases Expr.fills visitor expr watched with ⟨hwatch, hframe⟩
  rcases Expr.fills visitor' expr watched.trail with ⟨hwalk, hframe'⟩
  have hsame := Follows.mapM h expr.children watched
  rw [hwatch, hwalk] at hsame
  rcases Prod.mk.inj hsame with ⟨hchildren, htrail⟩
  exact Prod.ext (Expr.determined.ext (hframe.trans hframe'.symm) hchildren) htrail

theorem Follows.site (h : ∀ expr : Expr, Follows (visitor expr) (visitor' expr)) (site : Site) :
    Follows (site.mapChildrenM visitor) (site.mapChildrenM visitor') := by
  intro watched
  have hsame := Follows.mapChildrenM h site.toExpr watched
  rw [Site.run_mapChildrenM, Site.run_mapChildrenM] at hsame
  rcases Prod.mk.inj hsame with ⟨hsite, htrail⟩
  exact Prod.ext (Site.eq_of_toExpr_eq hsite) htrail

variable {style : Conventions} {rules : List Rule}

theorem follows_settle {descend : Site → Watch Site} {descend' : Site → Walk Site}
    (h : ∀ site : Site, Follows (descend site) (descend' site)) (tries : Nat)
    (offered : List Rule) (site : Site) :
    Follows (settle style descend tries offered site)
      (Walk.settle style descend' tries offered site) := by
  induction tries generalizing offered site with
  | zero => exact (Follows.pure site).offer site
  | succ tries ih =>
      rw [settle, Walk.settle]
      apply Follows.offer
      cases Walk.firstProposal? style site offered with
      | none => exact Follows.pure site
      | some found =>
          rcases found with ⟨rule, proposal, others⟩
          cases hverdict : rule.examine style site proposal with
          | accept =>
              simp only [hverdict]
              exact (Follows.ofWalk _).bind fun _ => (h proposal).bind fun site => ih others site
          | reject objection =>
              simp only [hverdict]
              exact (Follows.ofWalk _).bind fun _ => ih others site

theorem follows_round (h : ∀ expr : Expr, Follows (visitor expr) (visitor' expr))
    (site : Site) :
    Follows (round style visitor rules site) (Walk.round style visitor' rules site) :=
  (Follows.site h site).bind fun site =>
    follows_settle (Follows.site h) rules.length rules site

theorem follows_visit (depth : Nat) (expr : Expr) :
    Follows (visit style rules depth expr) (Walk.visit style rules depth expr) := by
  induction depth generalizing expr with
  | zero => exact Follows.pure expr
  | succ depth ih =>
      rw [visit, Walk.visit]
      refine (Follows.ofWalk _).bind fun settled => ?_
      cases settled with
      | true => exact Follows.pure expr
      | false =>
          cases Site.ofExpr? expr with
          | none => exact Follows.mapChildrenM ih expr
          | some site =>
              show Follows _ (Walk.round style (Walk.visit style rules depth) rules site >>=
                fun site => Walk.settled site.toExpr >>= fun _ => pure site.toExpr)
              exact (follows_round ih site).bind fun site =>
                (Follows.ofWalk _).bind fun _ => Follows.pure site.toExpr

theorem run_visit_succ (style : Conventions) (rules : List Rule) (depth : Nat) (expr : Expr)
    (watched : Watched) :
    (visit style rules (depth + 1) expr).run watched =
      if watched.trail.settled.contains expr then (expr, watched)
      else
        match Site.ofExpr? expr with
        | none => (expr.mapChildrenM (visit style rules depth)).run watched
        | some site =>
            let result := (round style (visit style rules depth) rules site).run watched
            (result.1.toExpr, { result.2 with trail :=
              { result.2.trail with settled := result.1.toExpr :: result.2.trail.settled } }) := by
  rw [visit]
  show (if watched.trail.settled.contains expr = true then _ else _ : Watch Expr).run watched = _
  by_cases hsettled : watched.trail.settled.contains expr = true
  · rw [if_pos hsettled, if_pos hsettled]
    rfl
  · rw [if_neg hsettled, if_neg hsettled]
    cases Site.ofExpr? expr <;> rfl

/-!
# What is settled has been offered

A site is settled only after the walk has found no rule for it, and then it has been offered.
-/

end Watch

def Watched.Complete (watched : Watched) : Prop :=
  ∀ site : Site, site.toExpr ∈ watched.trail.settled → site ∈ watched.offered

namespace Watch

variable {α β : Type} {style : Conventions} {rules : List Rule} {visitor : Expr → Watch Expr}
  {descend : Site → Watch Site}

/-- If every settled site has been offered, then so it is after the watched walk. -/
def Completes (watch : Watch α) : Prop :=
  ∀ watched : Watched, watched.Complete → (watch.run watched).2.Complete

theorem Completes.pure (a : α) : Completes (pure a) :=
  fun _ h => h

theorem Completes.bind {watch : Watch α} {next : α → Watch β} (h : Completes watch)
    (hnext : ∀ a : α, Completes (next a)) : Completes (watch >>= next) := by
  intro watched hwatched
  rw [stateM_run_bind]
  exact hnext _ _ (h watched hwatched)

theorem Completes.offer (site : Site) : Completes (offer site) :=
  fun _ h other hother => List.mem_append_left _ (h other hother)

theorem Completes.record (event : Event) : Completes (ofWalk (Walk.record event)) :=
  fun _ h => h

theorem Completes.mapM (h : ∀ expr : Expr, Completes (visitor expr)) (exprs : List Expr) :
    Completes (exprs.mapM visitor) :=
  fun _ hwatched => stateM_mapM_preserves (fun expr _ => h expr) hwatched

theorem Completes.mapChildrenM (h : ∀ expr : Expr, Completes (visitor expr)) (expr : Expr) :
    Completes (expr.mapChildrenM visitor) := by
  intro watched hwatched
  have hchildren := Completes.mapM h expr.children watched hwatched
  rw [(Expr.fills visitor expr watched).1] at hchildren
  exact hchildren

theorem Completes.site (h : ∀ expr : Expr, Completes (visitor expr)) (site : Site) :
    Completes (site.mapChildrenM visitor) := by
  intro watched hwatched
  have hexpr := Completes.mapChildrenM h site.toExpr watched hwatched
  rw [Site.run_mapChildrenM] at hexpr
  exact hexpr

theorem completes_settle (h : ∀ site : Site, Completes (descend site)) (tries : Nat)
    (offered : List Rule) (site : Site) :
    Completes (settle style descend tries offered site) := by
  induction tries generalizing offered site with
  | zero => exact (Completes.offer site).bind fun _ => Completes.pure site
  | succ tries ih =>
      rw [settle]
      refine (Completes.offer site).bind fun _ => ?_
      cases Walk.firstProposal? style site offered with
      | none => exact Completes.pure site
      | some found =>
          rcases found with ⟨rule, proposal, others⟩
          cases hverdict : rule.examine style site proposal with
          | accept =>
              simp only [hverdict]
              exact (Completes.record _).bind fun _ => (h proposal).bind fun site => ih others site
          | reject objection =>
              simp only [hverdict]
              exact (Completes.record _).bind fun _ => ih others site

theorem settle_mem_offered (tries : Nat) (offered : List Rule) (site : Site) (watched : Watched) :
    ((settle style descend tries offered site).run watched).1 ∈
      ((settle style descend tries offered site).run watched).2.offered := by
  induction tries generalizing offered site watched with
  | zero => exact List.mem_append_right _ (List.mem_singleton_self site)
  | succ tries ih =>
      rw [settle]
      cases Walk.firstProposal? style site offered with
      | none => exact List.mem_append_right _ (List.mem_singleton_self site)
      | some found =>
          rcases found with ⟨rule, proposal, others⟩
          cases hverdict : rule.examine style site proposal with
          | accept =>
              simp only [hverdict]
              exact ih others _ _
          | reject objection =>
              simp only [hverdict]
              exact ih others site _

theorem completes_round (h : ∀ expr : Expr, Completes (visitor expr)) (site : Site) :
    Completes (round style visitor rules site) :=
  (Completes.site h site).bind fun site =>
    completes_settle (Completes.site h) rules.length rules site

theorem round_mem_offered (site : Site) (watched : Watched) :
    ((round style visitor rules site).run watched).1 ∈
      ((round style visitor rules site).run watched).2.offered :=
  settle_mem_offered rules.length rules ((site.mapChildrenM visitor).run watched).1
    ((site.mapChildrenM visitor).run watched).2

theorem completes_visit (depth : Nat) (expr : Expr) :
    Completes (visit style rules depth expr) := by
  induction depth generalizing expr with
  | zero => exact Completes.pure expr
  | succ depth ih =>
      intro watched hwatched
      rw [run_visit_succ]
      split
      · exact hwatched
      · split
        · exact Completes.mapChildrenM ih expr watched hwatched
        · rename_i site _
          intro other hother
          rcases List.mem_cons.mp hother with heq | hother
          · rw [Site.eq_of_toExpr_eq heq]
            exact round_mem_offered site watched
          · exact completes_round ih site watched hwatched other hother

/-!
# A walk over a tree at rest

Rules none of which has an accepted proposal leave a site as it is and see no other.
-/

/-- The visit gives the expression back and offers its sites only. -/
def Confined (visitor : Expr → Watch Expr) (expr : Expr) : Prop :=
  ∀ watched : Watched, ((visitor expr).run watched).1 = expr ∧
    ∀ site ∈ ((visitor expr).run watched).2.offered, site ∈ watched.offered ∨ site ∈ expr.sites

theorem confined_mapM {exprs : List Expr} (h : ∀ expr ∈ exprs, Confined visitor expr)
    (watched : Watched) :
    let result := (exprs.mapM visitor).run watched
    result.1 = exprs ∧
      ∀ site ∈ result.2.offered, site ∈ watched.offered ∨ site ∈ exprs.flatMap Expr.sites := by
  induction exprs generalizing watched with
  | nil => exact ⟨rfl, fun _ hsite => Or.inl hsite⟩
  | cons expr exprs ih =>
      rcases List.forall_mem_cons.mp h with ⟨hexpr, hexprs⟩
      rcases hexpr watched with ⟨hfirst, hoffered⟩
      rcases ih hexprs ((visitor expr).run watched).2 with ⟨hrest, hofferedRest⟩
      rw [stateM_run_mapM_cons]
      refine ⟨by rw [hfirst, hrest], ?_⟩
      intro site hsite
      rw [List.flatMap_cons, List.mem_append, ← or_assoc]
      exact (hofferedRest site hsite).imp_left (hoffered site)

theorem confined_mapChildrenM {expr : Expr} (h : ∀ child ∈ expr.children, Confined visitor child)
    (watched : Watched) :
    let result := (expr.mapChildrenM visitor).run watched
    result.1 = expr ∧ ∀ site ∈ result.2.offered,
      site ∈ watched.offered ∨ site ∈ expr.children.flatMap Expr.sites := by
  rcases Expr.fills visitor expr watched with ⟨hchildren, hframe⟩
  have hparts := confined_mapM h watched
  rw [hchildren] at hparts
  exact ⟨Expr.determined.ext hframe hparts.1, hparts.2⟩

theorem confined_settle (descend : Site → Watch Site) (tries : Nat) {offered : List Rule}
    {site : Site} (h : ∀ rule ∈ offered, ¬ rule.Restyles style site) (watched : Watched) :
    let result := (settle style descend tries offered site).run watched
    result.1 = site ∧ ∀ other ∈ result.2.offered, other ∈ watched.offered ∨ other = site := by
  have hoffer : ∀ (sites : List Site) (other : Site), other ∈ sites ++ [site] →
      other ∈ sites ∨ other = site := by
    intro sites other hother
    rwa [List.mem_append, List.mem_singleton] at hother
  induction tries generalizing offered watched with
  | zero => exact ⟨rfl, hoffer watched.offered⟩
  | succ tries ih =>
      rw [settle]
      cases hfirst : Walk.firstProposal? style site offered with
      | none => exact ⟨rfl, hoffer watched.offered⟩
      | some found =>
          rcases found with ⟨rule, proposal, others⟩
          have hproposal := (Walk.firstProposal?_eq_some hfirst).1
          rcases Walk.firstProposal?_others hfirst with ⟨hrule, hothers, -⟩
          cases hverdict : rule.examine style site proposal with
          | accept => exact absurd ⟨proposal, hproposal, hverdict⟩ (h rule hrule)
          | reject objection =>
              simp only [hverdict]
              have hleft := fun other hother => h other (hothers hother)
              rcases ih hleft ⟨((Walk.record (.rejected rule.id objection)).run watched.trail).2,
                watched.offered ++ [site]⟩ with ⟨hsame, hoffered⟩
              refine ⟨hsame, fun other hother => ?_⟩
              rcases hoffered other hother with hbefore | heq
              · exact hoffer watched.offered other hbefore
              · exact Or.inr heq

theorem confined_round {site : Site} (h : site.toExpr.AtRest style rules)
    (hchildren : ∀ child ∈ site.toExpr.children, Confined visitor child) (watched : Watched) :
    let result := (round style visitor rules site).run watched
    result.1 = site ∧
      ∀ other ∈ result.2.offered, other ∈ watched.offered ∨ other ∈ site.toExpr.sites := by
  intro result
  rcases confined_mapChildrenM hchildren watched with ⟨hsame, hoffered⟩
  rw [Site.run_mapChildrenM] at hsame hoffered
  have hsite : ((site.mapChildrenM visitor).run watched).1 = site := Site.eq_of_toExpr_eq hsame
  have hdone : ∀ rule ∈ rules, ¬ rule.Restyles style
      ((site.mapChildrenM visitor).run watched).1 := by
    rw [hsite]
    exact (Site.atRest_toExpr.mp h).1
  rcases confined_settle (·.mapChildrenM visitor) rules.length hdone
    ((site.mapChildrenM visitor).run watched).2 with ⟨hkept, hlast⟩
  refine ⟨hkept.trans hsite, fun other hother => ?_⟩
  rw [Expr.sites_toExpr, List.mem_cons]
  rcases hlast other hother with hbefore | heq
  · exact (hoffered other hbefore).imp_right Or.inr
  · exact Or.inr (Or.inl (heq.trans hsite))

theorem confined_visit {depth : Nat} {expr : Expr} (h : expr.AtRest style rules) :
    Confined (visit style rules depth) expr := by
  induction depth generalizing expr with
  | zero => exact fun _ => ⟨rfl, fun _ hsite => Or.inl hsite⟩
  | succ depth ih =>
      have hchildren : ∀ child ∈ expr.children, Confined (visit style rules depth) child :=
        fun child hchild => ih ((Expr.atRest_iff.mp h).2 child hchild)
      intro watched
      rw [run_visit_succ]
      split
      · exact ⟨rfl, fun _ hsite => Or.inl hsite⟩
      · split
        · rcases confined_mapChildrenM hchildren watched with ⟨hsame, hoffered⟩
          refine ⟨hsame, fun site hsite => (hoffered site hsite).imp_right ?_⟩
          rw [Expr.sites_eq]
          exact List.mem_append_right _
        · rename_i site hsite
          obtain rfl := Site.ofExpr?_eq_some.mp hsite
          rcases confined_round h hchildren watched with ⟨hsame, hoffered⟩
          exact ⟨congrArg Site.toExpr hsame, hoffered⟩

end Watch

/-!
# Passes
-/

namespace Fragment

variable {style : Conventions} {rules : List Rule}

def watchedRound (style : Conventions) (rules : List Rule) (fragment : Fragment) : Watch Site :=
  Watch.round style (Watch.visit style rules fragment.weight) rules (.list fragment.items)

def watchedPass (style : Conventions) (rules : List Rule) (fragment : Fragment) :
    (Fragment × List Event) × List Site :=
  let (site, watched) := (fragment.watchedRound style rules).run ⟨.empty, []⟩
  (({ fragment with items := site.items }, watched.trail.events), watched.offered)

/-- The sites at which a pass looks for a rule. -/
def offers (style : Conventions) (rules : List Rule) (fragment : Fragment) : List Site :=
  (fragment.watchedPass style rules).2

theorem follows_watchedRound (style : Conventions) (rules : List Rule) (fragment : Fragment) :
    Watch.Follows (fragment.watchedRound style rules)
      (Walk.round style (Walk.visit style rules fragment.weight) rules (.list fragment.items)) :=
  Watch.follows_round (Watch.follows_visit fragment.weight) (.list fragment.items)

theorem watchedPass_fst (style : Conventions) (rules : List Rule) (fragment : Fragment) :
    (fragment.watchedPass style rules).1 = fragment.pass style rules := by
  have hfollows := fragment.follows_watchedRound style rules ⟨.empty, []⟩
  exact congrArg (fun result : Site × Trail =>
    (({ fragment with items := result.1.items } : Fragment), result.2.events)) hfollows

theorem sites_eq_root (fragment : Fragment) : fragment.sites = fragment.root.sites := by
  rw [root, Expr.sites_toExpr]
  show _ = _ :: fragment.root.children.flatMap Expr.sites
  rw [children_root, sites, List.filterMap_flatMap]
  rfl

theorem lists_eq_sites (fragment : Fragment) :
    fragment.lists = fragment.sites.filterMap Site.list? := by
  rw [sites, List.filterMap_cons, List.filterMap_flatMap, List.filterMap_flatMap, lists,
    Expr.listsAll_eq_flatMap]
  refine congrArg (fragment.items :: ·) (List.flatMap_congr fun item _ => ?_)
  rw [item.lists_eq_sites, Expr.sites]

theorem mem_lists_iff {fragment : Fragment} {items : List Expr} :
    items ∈ fragment.lists ↔ .list items ∈ fragment.sites := by
  rw [lists_eq_sites, List.mem_filterMap]
  constructor
  · rintro ⟨site, hsite, hlist⟩
    rwa [← Site.list?_eq_some.mp hlist]
  · intro hsite
    exact ⟨.list items, hsite, rfl⟩

/-- Every site of the tree that a pass ends with has been offered to rules in the pass. -/
theorem sites_pass_subset_offers (hgroups : ∀ group ∈ style.groups, 2 ≤ group.minFields)
    (fragment : Fragment) :
    (fragment.pass style rules).1.sites ⊆ fragment.offers style rules := by
  let result := (fragment.watchedRound style rules).run ⟨.empty, []⟩
  have hfollows : (result.1, result.2.trail) = _ :=
    fragment.follows_watchedRound style rules ⟨.empty, []⟩
  have hlast : result.1 ∈ result.2.offered := Watch.round_mem_offered (.list fragment.items) _
  have hcomplete : result.2.Complete :=
    Watch.completes_round (Watch.completes_visit fragment.weight) (.list fragment.items) _
      fun _ hsite => absurd hsite List.not_mem_nil
  have hdepth : (Site.list fragment.items).toExpr.weight ≤ fragment.weight + 1 :=
    Nat.le_succ_of_le (Nat.le_of_eq fragment.weight_root)
  rcases Walk.settles_round hgroups (fun _ => Walk.settles_visit hgroups) hdepth
    (Trail.Sound.empty : Trail.empty.Sound style rules) with ⟨-, -, hsettled, -⟩
  have hlist := Walk.round_list style (Walk.visit style rules fragment.weight) rules
    fragment.items .empty
  rw [← hfollows] at hsettled hlist
  have hsame : Site.list result.1.items = result.1 := by
    rcases hlist with ⟨items, hitems⟩
    rw [show result.1 = .list items from hitems]
    rfl
  rw [← watchedPass_fst, sites_eq_root]
  show ∀ site ∈ (Site.list result.1.items).toExpr.sites, site ∈ result.2.offered
  rw [hsame]
  intro site hsite
  rcases List.mem_filterMap.mp hsite with ⟨part, hpart, hof⟩
  obtain rfl := Site.ofExpr?_eq_some.mp hof
  rcases Expr.mem_parts_iff.mp hpart with heq | ⟨child, hchild, hpart⟩
  · -- The list of the items is never settled; it is the last site that is offered.
    rw [Site.eq_of_toExpr_eq heq]
    exact hlast
  · exact hcomplete site (hsettled child hchild _ hpart (by rw [hof]; rfl))

/-- A pass that applies nothing offers to rules the sites of the fragment and no other. -/
theorem mem_offers_iff (hgroups : ∀ group ∈ style.groups, 2 ≤ group.minFields)
    {fragment : Fragment} (h : fragment.passApplied style rules = []) {site : Site} :
    site ∈ fragment.offers style rules ↔ site ∈ fragment.sites := by
  have hrest := passApplied_eq_nil_iff.mp h
  constructor
  · intro hoffered
    have hchildren : ∀ child ∈ fragment.root.children,
        Watch.Confined (Watch.visit style rules fragment.weight) child :=
      fun child hchild => Watch.confined_visit ((Expr.atRest_iff.mp hrest).2 child hchild)
    rw [sites_eq_root]
    rcases (Watch.confined_round hrest hchildren ⟨.empty, []⟩).2 site hoffered with hnone | hsite
    · cases hnone
    · exact hsite
  · intro hsite
    have hsubset : (fragment.pass style rules).1.sites ⊆ fragment.offers style rules :=
      fragment.sites_pass_subset_offers hgroups
    rw [pass_eq_of_quiet h] at hsubset
    exact hsubset hsite

theorem passApplied_nil (style : Conventions) (fragment : Fragment) :
    fragment.passApplied style [] = [] :=
  passApplied_eq_nil_iff.mpr fun _ _ _ _ => List.forall_mem_nil _

end Fragment

end FluentStyle
