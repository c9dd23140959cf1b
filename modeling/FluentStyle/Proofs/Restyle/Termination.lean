import FluentStyle.Proofs.Restyle.AtRest
import FluentStyle.Proofs.Rule.Weight

/-!
# Restyling ends

A step makes a tree lighter, or it keeps the weight and ranks the calls of a chain that were not
ranked.  So the number of steps from a tree is bounded by its weight, and a run that is allowed more
passes than that ends with a tree at rest.  Within a pass the weight bounds the depth of the visits,
so that a pass never gets to the bottom that `Walk.visit` has.
-/

namespace FluentStyle

variable {style : Conventions} {rules : List Rule}

/-!
# Disorder
-/

namespace Expr

def isUnranked (style : Conventions) : Expr → Bool
  | .chain c => !decide (style.IsRanked c.rest)
  | _ => false

/-- The number of chains in a tree whose calls are not ranked. -/
def disorder (style : Conventions) (expr : Expr) : Nat :=
  expr.parts.countP (isUnranked style)

def disorders (style : Conventions) (exprs : List Expr) : Nat :=
  (exprs.flatMap parts).countP (isUnranked style)

theorem disorders_append (as bs : List Expr) :
    disorders style (as ++ bs) = disorders style as + disorders style bs := by
  simp [disorders]

theorem disorders_cons (expr : Expr) (exprs : List Expr) :
    disorders style (expr :: exprs) = expr.disorder style + disorders style exprs := by
  rw [disorders, List.flatMap_cons, List.countP_append]
  rfl

theorem disorders_perm {as bs : List Expr} (h : as.Perm bs) :
    disorders style as = disorders style bs :=
  (h.flatMap_right parts).countP_eq (isUnranked style)

theorem disorder_eq (expr : Expr) :
    expr.disorder style =
      (if expr.isUnranked style then 1 else 0) + disorders style expr.children := by
  unfold disorder
  rw [parts_eq, List.countP_cons, Nat.add_comm]
  rfl

theorem isUnranked_frame (expr : Expr) :
    expr.frame.isUnranked style = expr.isUnranked style := by
  cases expr with
  | chain c =>
      rcases c with ⟨root, first, rest⟩
      cases root <;>
        simp only [frame, Chain.frame, isUnranked, Conventions.isRanked_map_frame]
  | _ => rfl

theorem disorder_le_weight (style : Conventions) (expr : Expr) :
    expr.disorder style ≤ expr.weight := by
  induction expr using children_induction with
  | h expr ih =>
      have hchildren : ∀ exprs : List Expr,
          (∀ child ∈ exprs, child.disorder style ≤ child.weight) →
            disorders style exprs ≤ weightAll exprs := by
        intro exprs
        induction exprs with
        | nil => exact fun _ => Nat.le_refl _
        | cons child exprs ihExprs =>
            intro hall
            rcases List.forall_mem_cons.mp hall with ⟨hchild, hrest⟩
            have hle := ihExprs hrest
            rw [disorders_cons, weightAll_cons]
            omega
      have hle := hchildren expr.children ih
      have hlt := expr.weightAll_children_lt
      rw [disorder_eq]
      split <;> omega

theorem disorder_reordered {chain changed : Chain} (h : chain.reordered? style = some changed) :
    (Expr.chain changed).weight = (Expr.chain chain).weight ∧
      (Expr.chain changed).disorder style < (Expr.chain chain).disorder style := by
  rcases Chain.reordered?_eq_some h with ⟨-, hunranked, rfl⟩
  have hperm := Conventions.ordered_perm style chain.rest
  constructor
  · have hrest := chain.weight_rest (style.ordered chain.rest)
    rw [Call.weight_perm hperm] at hrest
    omega
  · rw [disorder_eq, disorder_eq, disorders_perm (Chain.children_perm_of_rest hperm)]
    have hafter : (Expr.chain { chain with rest := style.ordered chain.rest }).isUnranked style =
        false := by
      simp only [isUnranked, decide_eq_true (Conventions.isRanked_ordered chain.rest),
        Bool.not_true]
    have hbefore : (Expr.chain chain).isUnranked style = true := by
      simp only [isUnranked, decide_eq_false hunranked, Bool.not_false]
    rw [hafter, hbefore]
    simp

/-!
# Steps descend
-/

variable (hgroups : ∀ group ∈ style.groups, 2 ≤ group.minFields)

include hgroups

/-- A step makes a tree lighter, or it keeps its weight and makes it less disordered. -/
theorem Step.descends {rule : Rule} {a b : Expr} (step : Step style rules rule a b) :
    b.weight < a.weight ∨ b.weight = a.weight ∧ b.disorder style < a.disorder style := by
  induction step with
  | here _ proposed _ =>
      rcases Rule.weight_proposal? hgroups proposed with
        hlt | ⟨chain, changed, rfl, rfl, hreordered⟩
      · exact Or.inl hlt
      · exact Or.inr (disorder_reordered hreordered)
  | @inside expr changed child child' before after hframe hchildren hchildren' _ ih =>
      have hown : changed.ownWeight = expr.ownWeight := by
        rw [← ownWeight_frame changed, hframe, ownWeight_frame]
      have hroot : changed.isUnranked style = expr.isUnranked style := by
        rw [← isUnranked_frame changed, hframe, isUnranked_frame]
      rw [weight_eq, weight_eq expr, disorder_eq, disorder_eq expr, hown, hroot, hchildren,
        hchildren', weightAll_append, weightAll_append, weightAll_cons, weightAll_cons,
        disorders_append, disorders_append, disorders_cons, disorders_cons]
      omega

theorem Step.weight_le {rule : Rule} {a b : Expr} (step : Step style rules rule a b) :
    b.weight ≤ a.weight := by
  rcases step.descends hgroups with hlt | ⟨heq, -⟩
  · exact Nat.le_of_lt hlt
  · exact Nat.le_of_eq heq

theorem Steps.weight_le {done : List Rule} {a b : Expr} (steps : Steps style rules done a b) :
    b.weight ≤ a.weight :=
  steps.invariant (P := fun expr => expr.weight ≤ a.weight)
    (fun step hle => Nat.le_trans (step.weight_le hgroups) hle) (Nat.le_refl _)

theorem Steps.length_add_le {done : List Rule} {a b : Expr} (steps : Steps style rules done a b)
    {bound : Nat} (hbound : a.weight ≤ bound) :
    done.length + (b.weight * (bound + 1) + b.disorder style) ≤
      a.weight * (bound + 1) + a.disorder style := by
  induction steps with
  | refl expr => exact Nat.le_of_eq (Nat.zero_add _)
  | @cons rule more a b c step steps ih =>
      have hle := step.weight_le hgroups
      have hrest := ih (Nat.le_trans hle hbound)
      have hfirst : b.weight * (bound + 1) + b.disorder style <
          a.weight * (bound + 1) + a.disorder style := by
        rcases step.descends hgroups with hlt | ⟨heq, hlt⟩
        · have hdisorder := b.disorder_le_weight style
          have hmul : (b.weight + 1) * (bound + 1) ≤ a.weight * (bound + 1) :=
            Nat.mul_le_mul_right _ hlt
          rw [Nat.add_mul, Nat.one_mul] at hmul
          omega
        · rw [heq]
          omega
      rw [List.length_cons]
      omega

/-- The number of steps from a tree is bounded by the square of its weight. -/
theorem Steps.length_le {done : List Rule} {a b : Expr} (steps : Steps style rules done a b) :
    done.length ≤ (a.weight + 1) * (a.weight + 1) := by
  have hle := steps.length_add_le hgroups (Nat.le_refl a.weight)
  have hdisorder := a.disorder_le_weight style
  rw [Nat.add_mul, Nat.one_mul]
  omega

end Expr
/-!
# Passes and runs end
-/

namespace Run

theorem le_length_applied {allowed : Nat} {fragment : Fragment}
    (h : (repeatPasses style rules allowed fragment).isUnfinished = true) :
    allowed ≤ (repeatPasses style rules allowed fragment).applied.length := by
  induction allowed generalizing fragment with
  | zero => exact Nat.zero_le _
  | succ allowed ih =>
      rw [repeatPasses] at h ⊢
      simp only at h ⊢
      split at h
      · rename_i happlied
        have hlater := ih h
        have hfirst : (fragment.pass style rules).2.filterMap Event.applied? ≠ [] := by
          intro hnone
          rw [Fragment.anyApplied_eq_false.mpr hnone] at happlied
          cases happlied
        have hpos := List.length_pos_iff.mpr hfirst
        rw [if_pos happlied]
        unfold applied at hlater ⊢
        rw [List.filterMap_append, List.length_append]
        omega
      · cases h

end Run

/-- A bound on the number of steps from a fragment. -/
def Fragment.stepLimit (fragment : Fragment) : Nat :=
  (fragment.weight + 1) * (fragment.weight + 1)

namespace Catalog

theorem length_applied_le (catalog : Catalog) (maxPasses : Nat) (fragment : Fragment) :
    (catalog.run maxPasses fragment).applied.length ≤ fragment.stepLimit := by
  rcases Run.repeatPasses_steps catalog.style
      catalog.changingRules (max maxPasses 1) fragment with
    ⟨done, happlied, hsteps⟩
  have hle := hsteps.length_le catalog.two_le_minFields
  rw [fragment.weight_root] at hle
  unfold Catalog.run Fragment.stepLimit
  rw [happlied, List.length_map]
  exact hle

theorem isUnfinished_eq_false {catalog : Catalog} {maxPasses : Nat} {fragment : Fragment}
    (h : fragment.stepLimit < maxPasses) :
    (catalog.run maxPasses fragment).isUnfinished = false := by
  cases hunfinished : (catalog.run maxPasses fragment).isUnfinished with
  | false => rfl
  | true =>
      have hpasses : max maxPasses 1 ≤ (catalog.run maxPasses fragment).applied.length :=
        Run.le_length_applied hunfinished
      have hlimit := catalog.length_applied_le maxPasses fragment
      omega

end Catalog

/-!
# The bottom of a visit

A visit stops at the depth it is given, and a pass gives it the weight of the fragment.  What a
visit would do at the bottom makes no difference, for it never gets there: two ways to visit that
agree on what is lighter than a site make no difference for a round at it, and steps never make a
tree heavier.
-/

namespace Walk

/-- Visits an expression and all inside it, with a given action at the bottom. -/
def visitFrom (bottom : Expr → Walk Expr) (style : Conventions) (rules : List Rule) :
    Nat → Expr → Walk Expr
  | 0, expr => bottom expr
  | depth + 1, expr => do
      if ← isSettled expr then return expr
      match Site.ofExpr? expr with
      | none => expr.mapChildrenM (visitFrom bottom style rules depth)
      | some site =>
          let descend := fun (site : Site) =>
            site.mapChildrenM (visitFrom bottom style rules depth)
          let site ← descend site
          let site ← settle style descend rules.length rules site
          settled site.toExpr
          return site.toExpr

theorem run_visitFrom_succ (bottom : Expr → Walk Expr) (style : Conventions) (rules : List Rule)
    (depth : Nat) (expr : Expr) (trail : Trail) :
    (visitFrom bottom style rules (depth + 1) expr).run trail =
      if trail.settled.contains expr then (expr, trail)
      else
        match Site.ofExpr? expr with
        | none => (expr.mapChildrenM (visitFrom bottom style rules depth)).run trail
        | some site =>
            let result := (round style (visitFrom bottom style rules depth) rules site).run trail
            (result.1.toExpr,
              { result.2 with settled := result.1.toExpr :: result.2.settled }) := by
  rw [visitFrom]
  show (if trail.settled.contains expr = true then _ else _ : Walk Expr).run trail = _
  by_cases hsettled : trail.settled.contains expr = true
  · rw [if_pos hsettled, if_pos hsettled]
    rfl
  · rw [if_neg hsettled, if_neg hsettled]
    cases Site.ofExpr? expr <;> rfl

variable {descend descend' : Site → Walk Site}

theorem run_settle_congr (hgroups : ∀ group ∈ style.groups, 2 ≤ group.minFields) {bound : Nat}
    (hsame : ∀ (site : Site) (trail : Trail), site.toExpr.weight ≤ bound →
      (descend site).run trail = (descend' site).run trail)
    (hlighter : ∀ (site : Site) (trail : Trail),
      ((descend' site).run trail).1.toExpr.weight ≤ site.toExpr.weight)
    (tries : Nat) (offered : List Rule) {site : Site} (hbound : site.toExpr.weight ≤ bound)
    (trail : Trail) :
    (settle style descend tries offered site).run trail =
      (settle style descend' tries offered site).run trail := by
  induction tries generalizing offered site trail with
  | zero => rfl
  | succ tries ih =>
      cases hfirst : firstProposal? style site offered with
      | none => rw [run_settle_of_none hfirst, run_settle_of_none hfirst]
      | some found =>
          rcases found with ⟨rule, proposal, others⟩
          cases hverdict : rule.examine style site proposal with
          | accept =>
              have hproposal : proposal.toExpr.weight ≤ bound := by
                rcases Rule.weight_proposal? hgroups (firstProposal?_eq_some hfirst).1 with
                  hlt | ⟨chain, changed, rfl, rfl, hreordered⟩
                · omega
                · have heq := (Expr.disorder_reordered hreordered).1
                  exact Nat.le_trans (Nat.le_of_eq heq) hbound
              rw [run_settle_of_accept hfirst hverdict, run_settle_of_accept hfirst hverdict]
              simp only [hsame proposal _ hproposal]
              exact ih others (Nat.le_trans (hlighter proposal _) hproposal) _
          | reject objection =>
              rw [run_settle_of_reject hfirst hverdict, run_settle_of_reject hfirst hverdict]
              exact ih others hbound _

theorem Reaches.weight_le (hgroups : ∀ group ∈ style.groups, 2 ≤ group.minFields) {expr : Expr}
    {trail : Trail} {result : Expr × Trail} (h : Reaches style rules expr trail result) :
    result.1.weight ≤ expr.weight := by
  rcases h with ⟨_, _, -, -, hsteps⟩
  exact hsteps.weight_le hgroups

theorem run_mapChildrenM_congr {f g : Expr → Walk Expr} {site : Site}
    (h : ∀ child ∈ site.toExpr.children, ∀ trail, (f child).run trail = (g child).run trail)
    (trail : Trail) : (site.mapChildrenM f).run trail = (site.mapChildrenM g).run trail := by
  have hexpr := Expr.mapChildrenM_congr h trail
  rw [Site.run_mapChildrenM, Site.run_mapChildrenM] at hexpr
  rcases Prod.mk.inj hexpr with ⟨hsite, htrail⟩
  exact Prod.ext (Site.eq_of_toExpr_eq hsite) htrail

theorem run_round_congr (hgroups : ∀ group ∈ style.groups, 2 ≤ group.minFields)
    {f g : Expr → Walk Expr}
    (hreach : ∀ (expr : Expr) (trail : Trail), Reaches style rules expr trail ((g expr).run trail))
    {site : Site}
    (hsame : ∀ expr : Expr, expr.weight < site.toExpr.weight → ∀ trail,
      (f expr).run trail = (g expr).run trail) (trail : Trail) :
    (round style f rules site).run trail = (round style g rules site).run trail := by
  have hlighter : ∀ (other : Site) (trail : Trail),
      ((other.mapChildrenM g).run trail).1.toExpr.weight ≤ other.toExpr.weight :=
    fun other trail => (reaches_descend hreach other trail).weight_le hgroups
  have hparts : ∀ (other : Site) (trail : Trail), other.toExpr.weight ≤ site.toExpr.weight →
      (other.mapChildrenM f).run trail = (other.mapChildrenM g).run trail := by
    intro other trail hle
    apply run_mapChildrenM_congr
    intro child hchild
    exact hsame child (Nat.lt_of_lt_of_le (Expr.weight_lt_of_mem_children hchild) hle)
  rw [run_round, run_round, hparts site trail (Nat.le_refl _)]
  exact run_settle_congr hgroups hparts hlighter rules.length rules (hlighter site trail) _

theorem run_visitFrom_eq (hgroups : ∀ group ∈ style.groups, 2 ≤ group.minFields)
    (bottom : Expr → Walk Expr) {depth depth' : Nat} {expr : Expr} (hdepth : expr.weight ≤ depth)
    (hdepth' : expr.weight ≤ depth') (trail : Trail) :
    (visitFrom bottom style rules depth expr).run trail =
      (visit style rules depth' expr).run trail := by
  induction depth generalizing depth' expr trail with
  | zero =>
      have hpos := expr.weight_pos
      omega
  | succ depth ih =>
      cases depth' with
      | zero =>
          have hpos := expr.weight_pos
          omega
      | succ depth' =>
          have hlighter : ∀ other : Expr, other.weight < expr.weight → ∀ trail,
              (visitFrom bottom style rules depth other).run trail =
                (visit style rules depth' other).run trail := by
            intro other hlt trail
            exact ih (by omega) (by omega) trail
          rw [run_visitFrom_succ, run_visit_succ]
          cases hsite : Site.ofExpr? expr with
          | none =>
              have hchildren : ∀ child ∈ expr.children, ∀ trail,
                  (visitFrom bottom style rules depth child).run trail =
                    (visit style rules depth' child).run trail :=
                fun child hchild => hlighter child (Expr.weight_lt_of_mem_children hchild)
              simp only
              rw [Expr.mapChildrenM_congr hchildren trail]
          | some site =>
              obtain rfl := Site.ofExpr?_eq_some.mp hsite
              simp only
              rw [run_round_congr hgroups (reaches_visit depth') hlighter trail]

end Walk

namespace Fragment

def passFrom (bottom : Expr → Walk Expr) (style : Conventions) (rules : List Rule) (depth : Nat)
    (fragment : Fragment) : Fragment × List Event :=
  let walk : Walk Site := do
    let items ← fragment.items.mapM (Walk.visitFrom bottom style rules depth)
    Walk.settle style (·.mapChildrenM (Walk.visitFrom bottom style rules depth)) rules.length rules
      (.list items)
  let (site, trail) := walk.run .empty
  ({ fragment with items := site.items }, trail.events)

/-- A pass does not get to the bottom of its visits. -/
theorem passFrom_eq (hgroups : ∀ group ∈ style.groups, 2 ≤ group.minFields)
    (bottom : Expr → Walk Expr) {depth : Nat} {fragment : Fragment}
    (hdepth : fragment.weight ≤ depth) :
    fragment.passFrom bottom style rules depth = fragment.pass style rules := by
  have hvisit : ∀ (expr : Expr) (trail : Trail), Walk.Reaches style rules expr trail
      ((Walk.visit style rules fragment.weight expr).run trail) :=
    Walk.reaches_visit fragment.weight
  have hlighter : ∀ expr : Expr, expr.weight < fragment.root.weight → ∀ trail,
      (Walk.visitFrom bottom style rules depth expr).run trail =
        (Walk.visit style rules fragment.weight expr).run trail := by
    intro expr hlt trail
    rw [fragment.weight_root] at hlt
    exact Walk.run_visitFrom_eq hgroups bottom (by omega) (by omega) trail
  exact congrArg (fun result : Site × Trail =>
      (({ fragment with items := result.1.items } : Fragment), result.2.events))
    (Walk.run_round_congr hgroups hvisit hlighter .empty)

end Fragment

namespace Catalog

/-- Restyling a source applies no more rules than a bound that depends on the source, every pass
ends, and a run that is allowed more passes than the bound is finished. -/
theorem restyle_converges {catalog : Catalog} {source : String} {fragment : Fragment}
    (h : Fragment.parse source = .ok fragment) :
    (∀ maxPasses : Nat, ∃ outcome : Outcome, catalog.restyle maxPasses source = .ok outcome ∧
      outcome.applied.length ≤ fragment.stepLimit ∧
      (fragment.stepLimit < maxPasses →
        ∀ passes : Nat, Warning.passLimit passes ∉ outcome.warnings)) ∧
      ∀ (tree : Fragment) (bottom : Expr → Walk Expr) (depth : Nat), tree.weight ≤ depth →
        tree.passFrom bottom catalog.style catalog.changingRules depth =
          tree.pass catalog.style catalog.changingRules := by
  constructor
  · intro maxPasses
    refine ⟨catalog.restyleFragment maxPasses fragment, restyle_of_parse h maxPasses,
      catalog.length_applied_le maxPasses fragment, ?_⟩
    intro hlimit
    exact passLimit_notMem_warnings_iff.mpr (isUnfinished_eq_false hlimit)
  · intro tree bottom depth hdepth
    exact Fragment.passFrom_eq catalog.two_le_minFields bottom hdepth

/-- A declaration with a flag and a block closure, which call for several rules. -/
theorem restyle_converges_flag :
    let fragment : Fragment :=
      ⟨[.chain ⟨.static "X", ⟨"make", [.literal ⟨"'a'"⟩]⟩,
        [⟨"live", [.constant "true"]⟩,
          ⟨"label", [.closure (.block [] [] [.give (.number "1")])]⟩]⟩], .none⟩
    Fragment.parse "X::make('a')->live(true)->label(function () { return 1; })" = .ok fragment ∧
      ∃ outcome : Outcome,
        standard.restyle (fragment.stepLimit + 1)
            "X::make('a')->live(true)->label(function () { return 1; })" = .ok outcome ∧
        outcome.applied.length ≤ fragment.stepLimit ∧
        ∀ passes : Nat, Warning.passLimit passes ∉ outcome.warnings := by
  intro fragment
  have h : Fragment.parse "X::make('a')->live(true)->label(function () { return 1; })" =
      .ok fragment := by decide +kernel
  rcases (restyle_converges h).1 (fragment.stepLimit + 1) with
    ⟨outcome, houtcome, happlied, hsilent⟩
  exact ⟨h, outcome, houtcome, happlied, hsilent (Nat.lt_succ_self _)⟩

end Catalog

end FluentStyle
