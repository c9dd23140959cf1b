import FluentStyle.Proofs.Restyle.Step
import FluentStyle.Catalog.Standard

/-!
# Trees at rest

A tree is at rest if no rule has an accepted proposal at any of its sites.  A pass that applies
nothing leaves the tree as it is, and this happens just at the trees at rest.  So the limit on
passes is reported just for the runs that end with a tree that is not at rest.
-/

namespace FluentStyle

/-!
# Sites that are done
-/

/-- The rule has an accepted proposal for the site. -/
def Rule.Restyles (style : Conventions) (rule : Rule) (site : Site) : Prop :=
  ∃ proposal : Site, rule.proposal? style site = some proposal ∧
    rule.examine style site proposal = .accept

def Site.Done (style : Conventions) (rules : List Rule) (site : Site) : Prop :=
  ∀ rule ∈ rules, ¬ rule.Restyles style site

/-- No rule has an accepted proposal for any site of the tree. -/
def Expr.AtRest (style : Conventions) (rules : List Rule) : Expr → Prop :=
  Expr.Every fun part => ∀ site : Site, Site.ofExpr? part = some site → site.Done style rules

/-- The sites of a fragment: its items as a list, and the chains, closures and arrays without keys
in them at every depth. -/
def Fragment.sites (fragment : Fragment) : List Site :=
  .list fragment.items :: (fragment.items.flatMap Expr.parts).filterMap Site.ofExpr?

variable {style : Conventions} {rules : List Rule}

theorem Site.ofExpr?_toExpr (site : Site) : Site.ofExpr? site.toExpr = some site :=
  Site.ofExpr?_eq_some.mpr rfl

theorem Site.eq_of_toExpr_eq {a b : Site} (h : a.toExpr = b.toExpr) : a = b := by
  have hof := congrArg Site.ofExpr? h
  rw [Site.ofExpr?_toExpr, Site.ofExpr?_toExpr] at hof
  exact Option.some.inj hof

theorem Expr.atRest_iff {expr : Expr} :
    expr.AtRest style rules ↔
      (∀ site : Site, Site.ofExpr? expr = some site → site.Done style rules) ∧
        ∀ child ∈ expr.children, child.AtRest style rules :=
  Expr.every_iff

theorem Site.atRest_toExpr {site : Site} :
    site.toExpr.AtRest style rules ↔
      site.Done style rules ∧ ∀ child ∈ site.toExpr.children, child.AtRest style rules := by
  rw [Expr.atRest_iff]
  constructor
  · rintro ⟨hroot, hchildren⟩
    exact ⟨hroot site site.ofExpr?_toExpr, hchildren⟩
  · rintro ⟨hdone, hchildren⟩
    constructor
    · intro other hother
      rw [site.ofExpr?_toExpr] at hother
      cases hother
      exact hdone
    · exact hchildren

theorem Fragment.children_root (fragment : Fragment) :
    fragment.root.children = fragment.items :=
  Expr.children_list fragment.items

theorem Fragment.atRest_root_iff {fragment : Fragment} :
    fragment.root.AtRest style rules ↔ ∀ site ∈ fragment.sites, site.Done style rules := by
  unfold Fragment.sites
  rw [Fragment.root, Site.atRest_toExpr]
  show _ ∧ (∀ child ∈ fragment.root.children, _) ↔ _
  rw [fragment.children_root]
  constructor
  · rintro ⟨hlist, hitems⟩ site hsite
    rcases List.mem_cons.mp hsite with rfl | hsite
    · exact hlist
    · rcases List.mem_filterMap.mp hsite with ⟨part, hpart, hof⟩
      rcases List.mem_flatMap.mp hpart with ⟨item, hitem, hpart⟩
      exact hitems item hitem part hpart site hof
  · intro hall
    constructor
    · exact hall _ List.mem_cons_self
    · intro item hitem part hpart site hof
      apply hall site
      apply List.mem_cons_of_mem
      exact List.mem_filterMap.mpr ⟨part, List.mem_flatMap.mpr ⟨item, hitem, hpart⟩, hof⟩

/-!
# Quiet walks

A walk is quiet if it applies no rule.  Events are only added, so the parts of a quiet walk are
quiet, and a quiet walk reaches the expression it started with.
-/

namespace Trail

def applied (trail : Trail) : List String :=
  trail.events.filterMap Event.applied?

theorem applied_record_applied (trail : Trail) (id : String) :
    ((Walk.record (.applied id)).run trail).2.applied = trail.applied ++ [id] :=
  List.filterMap_append

theorem applied_record_rejected (trail : Trail) (id : String) (objection : Objection) :
    ((Walk.record (.rejected id objection)).run trail).2.applied = trail.applied := by
  show List.filterMap _ (trail.events ++ [_]) = _
  rw [List.filterMap_append]
  exact List.append_nil _

end Trail

namespace Walk

/-- The walk from the trail to the result applies no rule. -/
def Quiet (trail : Trail) (result : Expr × Trail) : Prop :=
  result.2.applied = trail.applied

theorem Reaches.applied_grows {expr : Expr} {trail : Trail} {result : Expr × Trail}
    (h : Reaches style rules expr trail result) : trail.applied <+: result.2.applied := by
  rcases h with ⟨events, done, hevents, -, -⟩
  unfold Trail.applied
  rw [hevents, List.filterMap_append]
  exact List.prefix_append _ _

theorem Reaches.eq_of_quiet {expr : Expr} {trail : Trail} {result : Expr × Trail}
    (h : Reaches style rules expr trail result) (quiet : Quiet trail result) :
    result.1 = expr := by
  rcases h with ⟨events, done, hevents, happlied, hsteps⟩
  unfold Quiet Trail.applied at quiet
  rw [hevents, List.filterMap_append, List.append_right_eq_self] at quiet
  rw [quiet] at happlied
  rw [List.map_eq_nil_iff.mp happlied.symm] at hsteps
  exact hsteps.eq_of_nil

theorem quiet_parts {a b c : Expr} {trail middle last : Trail}
    (hab : Reaches style rules a trail (b, middle)) (hbc : Reaches style rules b middle (c, last))
    (quiet : Quiet trail (c, last)) : Quiet trail (b, middle) ∧ Quiet middle (c, last) := by
  have hfirst := hab.applied_grows
  have hsecond := hbc.applied_grows
  have heq : last.applied = trail.applied := quiet
  rw [heq] at hsecond
  have hmiddle : middle.applied = trail.applied := hsecond.eq_of_length_le hfirst.length_le
  exact ⟨hmiddle, heq.trans hmiddle.symm⟩

/-!
# A quiet walk has seen a tree at rest

The walk looks at every site but those settled before, which are at rest by what it has seen so
far.  A walk that goes on after a rule was recorded as applied is not quiet, so trying rules quietly
at a site has rejected the proposals of all of them.  Only a visit that is cut off by the depth has
seen nothing.
-/

def SettledAtRest (style : Conventions) (rules : List Rule) (trail : Trail) : Prop :=
  ∀ expr ∈ trail.settled, expr.AtRest style rules

/-- A quiet visit to the expression has seen it at rest, and so has what it settles. -/
def SeenAtRest (style : Conventions) (rules : List Rule) (visit : Expr → Walk Expr)
    (expr : Expr) : Prop :=
  ∀ trail : Trail, SettledAtRest style rules trail → Quiet trail ((visit expr).run trail) →
    expr.AtRest style rules ∧ SettledAtRest style rules ((visit expr).run trail).2

theorem applied_grows_mapM {f : Expr → Walk Expr} {exprs : List Expr}
    (h : ∀ (expr : Expr) (trail : Trail),
      Reaches style rules expr trail ((f expr).run trail)) (trail : Trail) :
    trail.applied <+: ((exprs.mapM f).run trail).2.applied :=
  stateM_mapM_preserves (P := fun later => trail.applied <+: later.applied)
    (fun expr _ later hlater => hlater.trans (h expr later).applied_grows) (List.prefix_refl _)

theorem atRest_of_quiet_mapM {f : Expr → Walk Expr} {exprs : List Expr}
    (hreach : ∀ (expr : Expr) (trail : Trail),
      Reaches style rules expr trail ((f expr).run trail))
    (h : ∀ expr ∈ exprs, SeenAtRest style rules f expr)
    {trail : Trail} (hsettled : SettledAtRest style rules trail)
    (quiet : ((exprs.mapM f).run trail).2.applied = trail.applied) :
    (∀ expr ∈ exprs, expr.AtRest style rules) ∧
      SettledAtRest style rules ((exprs.mapM f).run trail).2 := by
  induction exprs generalizing trail with
  | nil => exact ⟨by simp, hsettled⟩
  | cons expr exprs ih =>
      rw [stateM_run_mapM_cons] at quiet ⊢
      have hfirst := (hreach expr trail).applied_grows
      have hrest : ((f expr).run trail).2.applied <+:
          ((exprs.mapM f).run ((f expr).run trail).2).2.applied :=
        applied_grows_mapM hreach ((f expr).run trail).2
      rw [quiet] at hrest
      have hquiet : Quiet trail ((f expr).run trail) :=
        hrest.eq_of_length_le hfirst.length_le
      rcases h expr List.mem_cons_self trail hsettled hquiet with ⟨hexpr, hsettled'⟩
      rcases ih (fun e he => h e (List.mem_cons_of_mem expr he))
          hsettled' (quiet.trans hquiet.symm) with
        ⟨hexprs, hfinal⟩
      refine ⟨?_, hfinal⟩
      intro e he
      rcases List.mem_cons.mp he with rfl | he
      · exact hexpr
      · exact hexprs e he

variable {descend : Site → Walk Site}

theorem not_quiet_of_applied {id : String} {expr : Expr} {trail : Trail} {result : Expr × Trail}
    (h : Reaches style rules expr ((record (.applied id)).run trail).2 result) :
    ¬ Quiet trail result := by
  intro quiet
  have hle := h.applied_grows.length_le
  have heq : result.2.applied = trail.applied := quiet
  rw [Trail.applied_record_applied, heq, List.length_append, List.length_singleton] at hle
  exact absurd hle (Nat.not_succ_le_self _)

theorem not_restyles_of_reject {rule : Rule} {site proposal : Site} {objection : Objection}
    (hproposal : rule.proposal? style site = some proposal)
    (hverdict : rule.examine style site proposal = .reject objection) :
    ¬ rule.Restyles style site := by
  rintro ⟨found, hfound, haccept⟩
  rw [hproposal] at hfound
  cases hfound
  rw [hverdict] at haccept
  cases haccept

theorem not_restyles_of_quiet_settle
    (hdescend : ∀ (site : Site) (trail : Trail), Reaches style rules site.toExpr trail
      (((descend site).run trail).1.toExpr, ((descend site).run trail).2))
    {tries : Nat} {offered : List Rule} (hoffered : offered ⊆ rules)
    (htries : offered.length ≤ tries) {site : Site} {trail : Trail}
    (quiet : ((settle style descend tries offered site).run trail).2.applied = trail.applied) :
    (∀ rule ∈ offered, ¬ rule.Restyles style site) ∧
      ((settle style descend tries offered site).run trail).2.settled = trail.settled := by
  induction tries generalizing offered trail with
  | zero =>
      rw [List.length_eq_zero_iff.mp (Nat.le_zero.mp htries)]
      exact ⟨List.forall_mem_nil _, rfl⟩
  | succ tries ih =>
      cases hfirst : firstProposal? style site offered with
      | none =>
          rw [run_settle_of_none hfirst]
          refine ⟨?_, rfl⟩
          rintro rule hrule ⟨proposal, hproposal, -⟩
          rw [firstProposal?_eq_none hfirst rule hrule] at hproposal
          cases hproposal
      | some found =>
          rcases found with ⟨rule, proposal, others⟩
          rcases firstProposal?_others hfirst with ⟨hrule, hothers, hlength⟩
          cases hverdict : rule.examine style site proposal with
          | accept =>
              rw [run_settle_of_accept hfirst hverdict] at quiet
              have hlater := (hdescend proposal ((record (.applied rule.id)).run trail).2).trans
                (reaches_settle hdescend tries (List.Subset.trans hothers hoffered) _ _)
              exact absurd quiet (not_quiet_of_applied hlater)
          | reject objection =>
              rw [run_settle_of_reject hfirst hverdict] at quiet ⊢
              rcases ih (List.Subset.trans hothers hoffered) (by omega)
                  (quiet.trans (trail.applied_record_rejected rule.id objection).symm) with
                ⟨hrest, hsettled⟩
              refine ⟨?_, hsettled⟩
              rcases firstProposal?_eq_some hfirst with ⟨hproposal, before, after, rfl, rfl, -⟩
              rcases List.forall_mem_append.mp hrest with ⟨hbefore, hafter⟩
              refine List.forall_mem_append.mpr
                ⟨hbefore, List.forall_mem_cons.mpr ⟨?_, hafter⟩⟩
              exact not_restyles_of_reject hproposal hverdict

variable {visitor : Expr → Walk Expr}

theorem atRest_of_quiet_round
    (hvisit : ∀ (expr : Expr) (trail : Trail), Reaches style rules expr trail
      ((visitor expr).run trail))
    {site : Site} (hchildren : ∀ child ∈ site.toExpr.children, SeenAtRest style rules visitor child)
    {trail : Trail} (hsettled : SettledAtRest style rules trail)
    (quiet : ((round style visitor rules site).run trail).2.applied = trail.applied) :
    site.toExpr.AtRest style rules ∧ ((round style visitor rules site).run trail).1 = site ∧
      SettledAtRest style rules ((round style visitor rules site).run trail).2 := by
  rw [run_round] at quiet ⊢
  have hparts := reaches_descend hvisit site trail
  have hsettle := reaches_settle (reaches_descend hvisit) rules.length (List.Subset.refl rules)
    ((site.mapChildrenM visitor).run trail).1 ((site.mapChildrenM visitor).run trail).2
  rcases quiet_parts hparts hsettle quiet with ⟨hquietParts, hquietSettle⟩
  have hsame : ((site.mapChildrenM visitor).run trail).1 = site :=
    Site.eq_of_toExpr_eq (hparts.eq_of_quiet hquietParts)
  have hmapM : ((site.toExpr.children.mapM visitor).run trail).2 =
      ((site.mapChildrenM visitor).run trail).2 := by
    rw [(Expr.fills visitor site.toExpr trail).1, Site.run_mapChildrenM]
  rcases atRest_of_quiet_mapM hvisit hchildren hsettled
      ((congrArg Trail.applied hmapM).trans hquietParts) with
    ⟨hall, hmiddle⟩
  rcases not_restyles_of_quiet_settle (reaches_descend hvisit)
      (List.Subset.refl rules) (Nat.le_refl rules.length) hquietSettle with
    ⟨hdone, hkept⟩
  rw [hsame] at hdone
  refine ⟨Site.atRest_toExpr.mpr ⟨hdone, hall⟩, ?_, ?_⟩
  · exact (Site.eq_of_toExpr_eq (hsettle.eq_of_quiet hquietSettle)).trans hsame
  · intro seen hseen
    rw [hkept, ← hmapM] at hseen
    exact hmiddle seen hseen

theorem atRest_of_quiet_visit {depth : Nat} {expr : Expr} (hdepth : expr.weight ≤ depth) :
    SeenAtRest style rules (visit style rules depth) expr := by
  intro trail hsettled quiet
  induction depth generalizing expr trail with
  | zero =>
      have hpos := expr.weight_pos
      omega
  | succ depth ih =>
      have hvisit : ∀ (expr : Expr) (trail : Trail), Reaches style rules expr trail
          ((visit style rules depth expr).run trail) := reaches_visit depth
      have hchildren : ∀ child ∈ expr.children,
          SeenAtRest style rules (visit style rules depth) child := by
        intro child hchild trail hsettled hquiet
        have hlt := Expr.weight_lt_of_mem_children hchild
        exact ih (by omega) trail hsettled hquiet
      have hrun := run_visit_succ style rules depth expr trail
      by_cases hcontains : trail.settled.contains expr = true
      · rw [if_pos hcontains] at hrun
        rw [hrun]
        exact ⟨hsettled expr (List.contains_iff_mem.mp hcontains), hsettled⟩
      · rw [if_neg hcontains] at hrun
        cases hsite : Site.ofExpr? expr with
        | none =>
            rw [hsite] at hrun
            rw [hrun] at quiet ⊢
            have htrail := congrArg Prod.snd
              (Expr.fills (visit style rules depth) expr trail).1
            rcases atRest_of_quiet_mapM hvisit hchildren hsettled
                ((congrArg Trail.applied htrail).trans quiet) with
              ⟨hall, hfinal⟩
            rw [htrail] at hfinal
            refine ⟨Expr.atRest_iff.mpr ⟨?_, hall⟩, hfinal⟩
            intro site hof
            rw [hsite] at hof
            cases hof
        | some site =>
            rw [hsite] at hrun
            rw [hrun] at quiet ⊢
            obtain rfl := Site.ofExpr?_eq_some.mp hsite
            rcases atRest_of_quiet_round hvisit hchildren hsettled quiet with ⟨hrest, hsame, hfinal⟩
            refine ⟨hrest, List.forall_mem_cons.mpr ⟨?_, hfinal⟩⟩
            rw [hsame]
            exact hrest

/-!
# A visit to a tree at rest is quiet
-/

theorem quiet_mapM {f : Expr → Walk Expr} {exprs : List Expr}
    (h : ∀ expr ∈ exprs, ∀ trail, Quiet trail ((f expr).run trail)) (trail : Trail) :
    ((exprs.mapM f).run trail).2.applied = trail.applied :=
  stateM_mapM_preserves (P := fun later => later.applied = trail.applied)
    (fun expr hexpr later hlater => (h expr hexpr later).trans hlater) rfl

theorem quiet_settle {tries : Nat} {offered : List Rule} {site : Site}
    (h : ∀ rule ∈ offered, ¬ rule.Restyles style site) (trail : Trail) :
    ((settle style descend tries offered site).run trail).2.applied = trail.applied := by
  induction tries generalizing offered trail with
  | zero => rfl
  | succ tries ih =>
      cases hfirst : firstProposal? style site offered with
      | none => rw [run_settle_of_none hfirst]
      | some found =>
          rcases found with ⟨rule, proposal, others⟩
          have hproposal := (firstProposal?_eq_some hfirst).1
          rcases firstProposal?_others hfirst with ⟨hrule, hothers, -⟩
          cases hverdict : rule.examine style site proposal with
          | accept => exact absurd ⟨proposal, hproposal, hverdict⟩ (h rule hrule)
          | reject objection =>
              rw [run_settle_of_reject hfirst hverdict]
              rw [ih (fun other hother => h other (hothers hother))]
              exact trail.applied_record_rejected rule.id objection

theorem quiet_round
    (hvisit : ∀ (expr : Expr) (trail : Trail), Reaches style rules expr trail
      ((visitor expr).run trail))
    {site : Site} (h : site.toExpr.AtRest style rules)
    (hchildren : ∀ child ∈ site.toExpr.children, ∀ trail,
      Quiet trail ((visitor child).run trail)) (trail : Trail) :
    ((round style visitor rules site).run trail).2.applied = trail.applied := by
  rw [run_round]
  have hparts : Quiet trail (((site.mapChildrenM visitor).run trail).1.toExpr,
      ((site.mapChildrenM visitor).run trail).2) := by
    unfold Quiet
    rw [← quiet_mapM hchildren trail, (Expr.fills visitor site.toExpr trail).1,
      Site.run_mapChildrenM]
  have hsame : ((site.mapChildrenM visitor).run trail).1 = site :=
    Site.eq_of_toExpr_eq ((reaches_descend hvisit site trail).eq_of_quiet hparts)
  have hdone : ∀ rule ∈ rules, ¬ rule.Restyles style
      ((site.mapChildrenM visitor).run trail).1 := by
    rw [hsame]
    exact (Site.atRest_toExpr.mp h).1
  exact (quiet_settle hdone _).trans hparts

theorem quiet_visit {depth : Nat} {expr : Expr} (h : expr.AtRest style rules) (trail : Trail) :
    Quiet trail ((visit style rules depth expr).run trail) := by
  induction depth generalizing expr trail with
  | zero => rfl
  | succ depth ih =>
      have hchildren : ∀ child ∈ expr.children, ∀ trail,
          Quiet trail ((visit style rules depth child).run trail) :=
        fun child hchild => ih ((Expr.atRest_iff.mp h).2 child hchild)
      unfold Quiet
      rw [run_visit_succ]
      split
      · rfl
      · split
        · rw [← quiet_mapM hchildren trail, (Expr.fills (visit style rules depth) expr trail).1]
        · rename_i site hsite
          obtain rfl := Site.ofExpr?_eq_some.mp hsite
          exact quiet_round (reaches_visit depth) h hchildren trail

end Walk

/-!
# Passes and runs

A run is unfinished just if it ends with a fragment at which a rule has an accepted proposal.
-/

namespace Fragment

theorem weight_root (fragment : Fragment) : fragment.root.weight = fragment.weight :=
  Expr.weight_list fragment.items

def passApplied (style : Conventions) (rules : List Rule) (fragment : Fragment) : List String :=
  (fragment.pass style rules).2.filterMap Event.applied?

theorem anyApplied_eq_false {events : List Event} :
    Run.anyApplied events = false ↔ events.filterMap Event.applied? = [] := by
  unfold Run.anyApplied
  rw [List.any_eq_false, List.filterMap_eq_nil_iff]
  simp

theorem pass_eq_of_quiet {fragment : Fragment}
    (h : fragment.passApplied style rules = []) :
    (fragment.pass style rules).1 = fragment := by
  rcases fragment.pass_steps style rules with ⟨done, happlied, hsteps⟩
  unfold passApplied at h
  rw [h] at happlied
  rw [List.map_eq_nil_iff.mp happlied.symm] at hsteps
  have hitems := congrArg Expr.children hsteps.eq_of_nil
  rw [children_root, children_root] at hitems
  cases fragment
  exact congrArg (Fragment.mk · _) hitems

/-- A pass applies nothing just if no rule has an accepted proposal at any site. -/
theorem passApplied_eq_nil_iff {fragment : Fragment} :
    fragment.passApplied style rules = [] ↔ fragment.root.AtRest style rules := by
  have hvisit : ∀ (expr : Expr) (trail : Trail), Walk.Reaches style rules expr trail
      ((Walk.visit style rules fragment.weight expr).run trail) :=
    Walk.reaches_visit fragment.weight
  constructor
  · intro quiet
    have hchildren : ∀ child ∈ fragment.root.children,
        Walk.SeenAtRest style rules (Walk.visit style rules fragment.weight) child := by
      intro child hchild
      have hlt := Expr.weight_lt_of_mem_children hchild
      rw [weight_root] at hlt
      exact Walk.atRest_of_quiet_visit (Nat.le_of_lt hlt)
    have hempty : Walk.SettledAtRest style rules .empty := List.forall_mem_nil _
    exact (Walk.atRest_of_quiet_round hvisit hchildren hempty quiet).1
  · intro h
    have hchildren : ∀ child ∈ fragment.root.children, ∀ trail,
        Walk.Quiet trail ((Walk.visit style rules fragment.weight child).run trail) :=
      fun child hchild => Walk.quiet_visit ((Expr.atRest_iff.mp h).2 child hchild)
    exact Walk.quiet_round hvisit h hchildren .empty

end Fragment

namespace Run

theorem isUnfinished_eq_false_iff (allowed : Nat) (fragment : Fragment) :
    (repeatPasses style rules allowed fragment).isUnfinished = false ↔
      (repeatPasses style rules allowed fragment).fragment.root.AtRest style rules := by
  induction allowed generalizing fragment with
  | zero =>
      rw [← Fragment.passApplied_eq_nil_iff]
      exact Fragment.anyApplied_eq_false
  | succ allowed ih =>
      rw [repeatPasses]
      simp only
      split
      · exact ih (fragment.pass style rules).1
      · rename_i hquiet
        have happlied := Fragment.anyApplied_eq_false.mp (Bool.not_eq_true _ ▸ hquiet)
        have hsame : (fragment.pass style rules).1 = fragment :=
          Fragment.pass_eq_of_quiet happlied
        simp only [true_iff]
        rw [hsame]
        exact Fragment.passApplied_eq_nil_iff.mp happlied

end Run

namespace Catalog

theorem mem_changingRules {catalog : Catalog} {rule : Rule} :
    rule ∈ catalog.changingRules ↔ rule ∈ catalog.rules ∧ rule.isAdvisory = false := by
  unfold changingRules byPrecedence
  rw [List.mem_filter, (List.mergeSort_perm _ _).mem_iff, Bool.not_eq_true']

theorem changingRules_only {catalog : Catalog} {rule : Rule} (mem : rule ∈ catalog.rules)
    (h : rule.isAdvisory = false) : (catalog.only rule mem).changingRules = [rule] := by
  have hrules : (catalog.only rule mem).rules = [rule] := rfl
  rw [changingRules, byPrecedence, hrules, List.mergeSort_singleton, List.filter_cons, h]
  rfl

theorem isUnfinished_eq_false_iff {catalog : Catalog} {maxPasses : Nat} {fragment : Fragment} :
    (catalog.run maxPasses fragment).isUnfinished = false ↔
      ∀ site ∈ (catalog.run maxPasses fragment).fragment.sites,
        site.Done catalog.style catalog.changingRules := by
  rw [← Fragment.atRest_root_iff]
  exact Run.isUnfinished_eq_false_iff (max maxPasses 1) fragment

theorem passLimit_mem_warnings {catalog : Catalog} {maxPasses : Nat} {fragment : Fragment} :
    (∃ passes : Nat,
        Warning.passLimit passes ∈ (catalog.restyleFragment maxPasses fragment).warnings) ↔
      (catalog.run maxPasses fragment).isUnfinished = true := by
  unfold restyleFragment
  simp only [List.mem_append]
  constructor
  · rintro ⟨passes, (hrejection | hlimit) | hadvice⟩
    · unfold Run.rejections at hrejection
      rw [List.mem_eraseDups] at hrejection
      rcases List.mem_map.mp hrejection with ⟨_, _, heq⟩
      cases heq
    · unfold Run.limitWarning at hlimit
      cases hunfinished : (catalog.run maxPasses fragment).isUnfinished with
      | true => rfl
      | false =>
          rw [hunfinished] at hlimit
          cases hlimit
    · unfold advice at hadvice
      rcases List.mem_flatMap.mp hadvice with ⟨_, _, hadvice⟩
      rcases List.mem_flatMap.mp hadvice with ⟨_, _, hadvice⟩
      rcases List.mem_map.mp hadvice with ⟨_, _, heq⟩
      cases heq
  · intro hunfinished
    refine ⟨max maxPasses 1, Or.inl (Or.inr ?_)⟩
    unfold Run.limitWarning
    rw [if_pos hunfinished]
    exact List.mem_singleton_self _

theorem passLimit_notMem_warnings_iff {catalog : Catalog} {maxPasses : Nat}
    {fragment : Fragment} :
    (∀ passes : Nat,
        Warning.passLimit passes ∉ (catalog.restyleFragment maxPasses fragment).warnings) ↔
      (catalog.run maxPasses fragment).isUnfinished = false := by
  rw [← not_exists, passLimit_mem_warnings, Bool.not_eq_true]

theorem restyle_of_parse {catalog : Catalog} {source : String} {fragment : Fragment}
    (h : Fragment.parse source = .ok fragment) (maxPasses : Nat) :
    catalog.restyle maxPasses source = .ok (catalog.restyleFragment maxPasses fragment) := by
  rw [restyle, h]
  rfl

theorem atRest_of_no_passLimit {catalog : Catalog} {maxPasses : Nat} {fragment : Fragment}
    (h : ∀ passes : Nat,
      Warning.passLimit passes ∉ (catalog.restyleFragment maxPasses fragment).warnings) :
    (catalog.run maxPasses fragment).fragment.root.AtRest catalog.style catalog.changingRules := by
  have hfinished := passLimit_notMem_warnings_iff.mp h
  exact Fragment.atRest_root_iff.mpr (isUnfinished_eq_false_iff.mp hfinished)

/-- The limit on passes is reported just if a rule that changes something has an accepted proposal
at some site of the final tree.  Without the report, a further pass applies nothing and leaves the
final tree as it is. -/
theorem passLimit_warning_iff {catalog : Catalog} {maxPasses : Nat} {source : String}
    {fragment : Fragment} (h : Fragment.parse source = .ok fragment) :
    let final := (catalog.run maxPasses fragment).fragment
    ∃ outcome : Outcome, catalog.restyle maxPasses source = .ok outcome ∧
      outcome.text = final.render ∧
      ((∃ passes : Nat, Warning.passLimit passes ∈ outcome.warnings) ↔
        ∃ site ∈ final.sites, ∃ rule ∈ catalog.rules, rule.isAdvisory = false ∧
          rule.Restyles catalog.style site) ∧
      ((∀ passes : Nat, Warning.passLimit passes ∉ outcome.warnings) →
        (final.pass catalog.style catalog.changingRules).1 = final ∧
          final.passApplied catalog.style catalog.changingRules = []) := by
  intro final
  refine ⟨catalog.restyleFragment maxPasses fragment, restyle_of_parse h maxPasses, rfl, ?_, ?_⟩
  · rw [passLimit_mem_warnings]
    constructor
    · intro hunfinished
      apply Classical.byContradiction
      intro hnone
      have hfinished : (catalog.run maxPasses fragment).isUnfinished = false := by
        rw [isUnfinished_eq_false_iff]
        intro site hsite rule hrule hrestyles
        rcases mem_changingRules.mp hrule with ⟨hmem, hadvisory⟩
        exact hnone ⟨site, hsite, rule, hmem, hadvisory, hrestyles⟩
      rw [hfinished] at hunfinished
      cases hunfinished
    · rintro ⟨site, hsite, rule, hmem, hadvisory, hrestyles⟩
      cases hunfinished : (catalog.run maxPasses fragment).isUnfinished with
      | true => rfl
      | false =>
          have hdone := isUnfinished_eq_false_iff.mp hunfinished site hsite
          exact absurd hrestyles (hdone rule (mem_changingRules.mpr ⟨hmem, hadvisory⟩))
  · intro hsilent
    have hquiet := Fragment.passApplied_eq_nil_iff.mpr (atRest_of_no_passLimit hsilent)
    exact ⟨Fragment.pass_eq_of_quiet hquiet, hquiet⟩

/-- One pass over a declaration with a flag and a block closure. -/
theorem passLimit_warning_iff_flag :
    let fragment : Fragment :=
      ⟨[.chain ⟨.static "X", ⟨"make", [.literal ⟨"'a'"⟩]⟩,
        [⟨"live", [.constant "true"]⟩,
          ⟨"label", [.closure (.block [] [] [.give (.number "1")])]⟩]⟩], .none⟩
    let final := (standard.run 1 fragment).fragment
    Fragment.parse "X::make('a')->live(true)->label(function () { return 1; })" = .ok fragment ∧
      ∃ outcome : Outcome,
        standard.restyle 1 "X::make('a')->live(true)->label(function () { return 1; })" =
          .ok outcome ∧
        ((∃ passes : Nat, Warning.passLimit passes ∈ outcome.warnings) ↔
          ∃ site ∈ final.sites, ∃ rule ∈ standard.rules, rule.isAdvisory = false ∧
            rule.Restyles standard.style site) := by
  intro fragment final
  have h : Fragment.parse "X::make('a')->live(true)->label(function () { return 1; })" =
      .ok fragment := by decide +kernel
  rcases passLimit_warning_iff h with ⟨outcome, houtcome, -, hwarning, -⟩
  exact ⟨h, outcome, houtcome, hwarning⟩

end Catalog

end FluentStyle
