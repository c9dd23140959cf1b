import FluentStyle.Proofs.Tree.Parts
import FluentStyle.Restyle.Outcome

/-!
# Restyling as rewriting

A step puts an accepted proposal of a rule in the place of a site somewhere in a tree.  Whatever a
walk does to a tree is done by such steps, one for each rule that it records as applied, in order.
-/

namespace FluentStyle

/-!
# Steps
-/

namespace Expr

/-- An accepted proposal of a rule in the place of a site of a tree. -/
inductive Step (style : Conventions) (rules : List Rule) : Rule → Expr → Expr → Prop where
  /-- The tree is the site. -/
  | here {rule : Rule} {site proposal : Site} (mem : rule ∈ rules)
      (proposed : rule.proposal? style site = some proposal)
      (accepted : rule.examine style site proposal = .accept) :
      Step style rules rule site.toExpr proposal.toExpr
  /-- The site lies in a child of the tree. -/
  | inside {rule : Rule} {expr changed child child' : Expr} {before after : List Expr}
      (frame : changed.frame = expr.frame)
      (children : expr.children = before ++ child :: after)
      (children' : changed.children = before ++ child' :: after)
      (step : Step style rules rule child child') : Step style rules rule expr changed

inductive Steps (style : Conventions) (rules : List Rule) : List Rule → Expr → Expr → Prop where
  | refl (expr : Expr) : Steps style rules [] expr expr
  | cons {rule : Rule} {more : List Rule} {a b c : Expr} (step : Step style rules rule a b)
      (steps : Steps style rules more b c) : Steps style rules (rule :: more) a c

variable {style : Conventions} {rules : List Rule}

theorem Steps.append {first second : List Rule} {a b c : Expr} (hab : Steps style rules first a b)
    (hbc : Steps style rules second b c) : Steps style rules (first ++ second) a c := by
  induction hab with
  | refl _ => exact hbc
  | cons step _ ih => exact Steps.cons step (ih hbc)

theorem Steps.inside {done : List Rule} {child child' : Expr}
    (steps : Steps style rules done child child') {expr changed : Expr}
    {before after : List Expr} (frame : changed.frame = expr.frame)
    (children : expr.children = before ++ child :: after)
    (children' : changed.children = before ++ child' :: after) :
    Steps style rules done expr changed := by
  induction steps generalizing expr with
  | refl _ =>
      have heq : expr = changed :=
        Expr.determined.ext frame.symm (children.trans children'.symm)
      rw [heq]
      exact Steps.refl changed
  | @cons rule more a b c step steps ih =>
      have hlength : (before ++ b :: after).length = expr.children.length := by
        rw [children, List.length_append, List.length_append]
        rfl
      rcases Expr.exists_children hlength with ⟨middle, hframe, hchildren⟩
      exact Steps.cons (Step.inside hframe children hchildren step)
        (ih (frame.trans hframe.symm) hchildren children')

theorem Steps.eq_of_nil {a b : Expr} (steps : Steps style rules [] a b) : b = a := by
  cases steps
  rfl

/-- What every step keeps is kept by steps one after another. -/
theorem Steps.invariant {P : Expr → Prop}
    (h : ∀ {rule : Rule} {a b : Expr}, Step style rules rule a b → P a → P b)
    {done : List Rule} {a b : Expr} (steps : Steps style rules done a b) (ha : P a) : P b := by
  induction steps with
  | refl _ => exact ha
  | cons step _ ih => exact ih (h step ha)

end Expr

/-!
# What a walk records

The events of a walk come after those before it, and the rules applied among them make the steps
from the expression to the result.
-/

namespace Walk

variable {style : Conventions} {rules : List Rule}

/-- The result is reached by the steps of the rules that are recorded as applied on the way. -/
def Reaches (style : Conventions) (rules : List Rule) (expr : Expr) (trail : Trail)
    (result : Expr × Trail) : Prop :=
  ∃ (events : List Event) (done : List Rule),
    result.2.events = trail.events ++ events ∧
      events.filterMap Event.applied? = done.map Rule.id ∧
      Expr.Steps style rules done expr result.1

theorem Reaches.refl (expr : Expr) {trail trail' : Trail} (h : trail'.events = trail.events) :
    Reaches style rules expr trail (expr, trail') :=
  ⟨[], [], by simpa using h, rfl, Expr.Steps.refl expr⟩

theorem Reaches.trans {a : Expr} {trail : Trail} {b c : Expr × Trail}
    (hab : Reaches style rules a trail b) (hbc : Reaches style rules b.1 b.2 c) :
    Reaches style rules a trail c := by
  rcases hab with ⟨events, done, hevents, happlied, hsteps⟩
  rcases hbc with ⟨events', done', hevents', happlied', hsteps'⟩
  refine ⟨events ++ events', done ++ done', ?_, ?_, hsteps.append hsteps'⟩
  · rw [hevents', hevents, List.append_assoc]
  · rw [List.filterMap_append, happlied, happlied', List.map_append]

theorem Reaches.inside {child : Expr} {trail : Trail} {result : Expr × Trail}
    (h : Reaches style rules child trail result) {expr changed : Expr}
    {before after : List Expr} (frame : changed.frame = expr.frame)
    (children : expr.children = before ++ child :: after)
    (children' : changed.children = before ++ result.1 :: after) :
    Reaches style rules expr trail (changed, result.2) := by
  rcases h with ⟨events, done, hevents, happlied, hsteps⟩
  exact ⟨events, done, hevents, happlied, hsteps.inside frame children children'⟩

theorem reaches_mapM {f : Expr → Walk Expr} {exprs : List Expr}
    (h : ∀ child ∈ exprs, ∀ trail, Reaches style rules child trail ((f child).run trail))
    (trail : Trail) {expr changed : Expr} {before : List Expr}
    (frame : changed.frame = expr.frame) (children : expr.children = before ++ exprs)
    (children' : changed.children = before ++ ((exprs.mapM f).run trail).1) :
    Reaches style rules expr trail (changed, ((exprs.mapM f).run trail).2) := by
  induction exprs generalizing trail expr before with
  | nil =>
      have heq : expr = changed :=
        Expr.determined.ext frame.symm (children.trans children'.symm)
      rw [heq]
      exact Reaches.refl changed rfl
  | cons child exprs ih =>
      have hchild := h child List.mem_cons_self trail
      have hlength : (before ++ ((f child).run trail).1 :: exprs).length =
          expr.children.length := by
        rw [children, List.length_append, List.length_append]
        rfl
      rcases Expr.exists_children hlength with ⟨middle, hframe, hmiddle⟩
      have hfirst : Reaches style rules expr trail (middle, ((f child).run trail).2) :=
        hchild.inside hframe children hmiddle
      rw [stateM_run_mapM_cons] at children' ⊢
      have hmiddle' : middle.children = (before ++ [((f child).run trail).1]) ++ exprs := by
        rw [hmiddle, List.append_assoc]
        rfl
      have hrest := ih (fun c hc => h c (List.mem_cons_of_mem child hc))
        ((f child).run trail).2 (frame.trans hframe.symm) hmiddle' (by simpa using children')
      exact hfirst.trans hrest

theorem reaches_mapChildrenM {f : Expr → Walk Expr} {expr : Expr}
    (h : ∀ child ∈ expr.children, ∀ trail,
      Reaches style rules child trail ((f child).run trail)) (trail : Trail) :
    Reaches style rules expr trail ((expr.mapChildrenM f).run trail) := by
  rcases Expr.fills f expr trail with ⟨hchildren, hframe⟩
  rcases Prod.ext_iff.mp hchildren with ⟨hfst, hsnd⟩
  have hreach := reaches_mapM h trail hframe (List.nil_append _).symm hfst.symm
  rw [hsnd] at hreach
  exact hreach

theorem firstProposal?_eq_some {site : Site} {offered : List Rule} {rule : Rule}
    {proposal : Site} {others : List Rule}
    (h : firstProposal? style site offered = some (rule, proposal, others)) :
    rule.proposal? style site = some proposal ∧ ∃ before after : List Rule,
      offered = before ++ rule :: after ∧ others = before ++ after ∧
        ∀ earlier ∈ before, earlier.proposal? style site = none := by
  induction offered generalizing others with
  | nil => simp [firstProposal?] at h
  | cons first rest ih =>
      rw [firstProposal?] at h
      cases hfirst : first.proposal? style site with
      | some found =>
          rw [hfirst] at h
          cases h
          exact ⟨hfirst, [], rest, rfl, rfl, by simp⟩
      | none =>
          rw [hfirst] at h
          rcases Option.map_eq_some_iff.mp h with ⟨⟨chosen, found, remaining⟩, hrest, heq⟩
          cases heq
          rcases ih hrest with ⟨hproposal, before, after, hoffered, hothers, hbefore⟩
          refine ⟨hproposal, first :: before, after, ?_, ?_, ?_⟩
          · rw [hoffered, List.cons_append]
          · rw [hothers, List.cons_append]
          · intro earlier hearlier
            rcases List.mem_cons.mp hearlier with rfl | hmem
            · exact hfirst
            · exact hbefore earlier hmem

theorem firstProposal?_eq_none {site : Site} {offered : List Rule}
    (h : firstProposal? style site offered = none) :
    ∀ rule ∈ offered, rule.proposal? style site = none := by
  induction offered with
  | nil => simp
  | cons first rest ih =>
      rw [firstProposal?] at h
      cases hfirst : first.proposal? style site with
      | some proposal =>
          rw [hfirst] at h
          cases h
      | none =>
          rw [hfirst] at h
          intro rule hrule
          rcases List.mem_cons.mp hrule with rfl | hrest
          · exact hfirst
          · exact ih (Option.map_eq_none_iff.mp h) rule hrest

/-!
# Trying rules at a site

The rules that are left are among those offered, and one fewer.  Trying rules at a site reaches what
it ends with, if visiting the parts of a site does.
-/

variable {descend : Site → Walk Site}

theorem run_settle_of_none {tries : Nat} {offered : List Rule} {site : Site}
    (hfirst : firstProposal? style site offered = none) (trail : Trail) :
    (settle style descend (tries + 1) offered site).run trail = (site, trail) := by
  rw [settle, hfirst]
  rfl

theorem run_settle_of_accept {tries : Nat} {offered others : List Rule} {site proposal : Site}
    {rule : Rule} (hfirst : firstProposal? style site offered = some (rule, proposal, others))
    (hverdict : rule.examine style site proposal = .accept) (trail : Trail) :
    (settle style descend (tries + 1) offered site).run trail =
      let recorded := ((record (.applied rule.id)).run trail).2
      let descended := (descend proposal).run recorded
      (settle style descend tries others descended.1).run descended.2 := by
  rw [settle, hfirst]
  simp only [hverdict]
  rfl

theorem run_settle_of_reject {tries : Nat} {offered others : List Rule} {site proposal : Site}
    {rule : Rule} (hfirst : firstProposal? style site offered = some (rule, proposal, others))
    {objection : Objection}
    (hverdict : rule.examine style site proposal = .reject objection) (trail : Trail) :
    (settle style descend (tries + 1) offered site).run trail =
      (settle style descend tries others site).run
        ((record (.rejected rule.id objection)).run trail).2 := by
  rw [settle, hfirst]
  simp only [hverdict]
  rfl

theorem firstProposal?_others {site : Site} {offered : List Rule} {rule : Rule}
    {proposal : Site} {others : List Rule}
    (h : firstProposal? style site offered = some (rule, proposal, others)) :
    rule ∈ offered ∧ others ⊆ offered ∧ offered.length = others.length + 1 := by
  rcases firstProposal?_eq_some h with ⟨-, before, after, rfl, rfl, -⟩
  refine ⟨by simp, ?_, ?_⟩
  · intro other hother
    rcases List.mem_append.mp hother with hmem | hmem
    · exact List.mem_append_left _ hmem
    · exact List.mem_append_right _ (List.mem_cons_of_mem rule hmem)
  · simp only [List.length_append, List.length_cons]
    omega

theorem reaches_settle
    (hdescend : ∀ (site : Site) (trail : Trail), Reaches style rules site.toExpr trail
      (((descend site).run trail).1.toExpr, ((descend site).run trail).2))
    (tries : Nat) {offered : List Rule} (hoffered : offered ⊆ rules) (site : Site)
    (trail : Trail) :
    Reaches style rules site.toExpr trail
      (((settle style descend tries offered site).run trail).1.toExpr,
        ((settle style descend tries offered site).run trail).2) := by
  induction tries generalizing offered site trail with
  | zero => exact Reaches.refl site.toExpr rfl
  | succ tries ih =>
      cases hfirst : firstProposal? style site offered with
      | none =>
          rw [run_settle_of_none hfirst]
          exact Reaches.refl site.toExpr rfl
      | some found =>
          rcases found with ⟨rule, proposal, others⟩
          have hproposal := (firstProposal?_eq_some hfirst).1
          rcases firstProposal?_others hfirst with ⟨hrule, hothers, -⟩
          cases hverdict : rule.examine style site proposal with
          | accept =>
              rw [run_settle_of_accept hfirst hverdict]
              have hstep : Reaches style rules site.toExpr trail
                  (proposal.toExpr, ((record (.applied rule.id)).run trail).2) :=
                ⟨[.applied rule.id], [rule], rfl, rfl,
                  Expr.Steps.cons (Expr.Step.here (hoffered hrule) hproposal hverdict)
                    (Expr.Steps.refl proposal.toExpr)⟩
              have hparts := hdescend proposal ((record (.applied rule.id)).run trail).2
              exact (hstep.trans hparts).trans (ih (List.Subset.trans hothers hoffered) _ _)
          | reject objection =>
              rw [run_settle_of_reject hfirst hverdict]
              have hrecord : Reaches style rules site.toExpr trail
                  (site.toExpr, ((record (.rejected rule.id objection)).run trail).2) :=
                ⟨[.rejected rule.id objection], [], rfl, rfl, Expr.Steps.refl site.toExpr⟩
              exact hrecord.trans (ih (List.Subset.trans hothers hoffered) site _)

theorem reaches_descend {visit : Expr → Walk Expr}
    (h : ∀ (expr : Expr) (trail : Trail),
      Reaches style rules expr trail ((visit expr).run trail)) (site : Site) (trail : Trail) :
    Reaches style rules site.toExpr trail
      (((site.mapChildrenM visit).run trail).1.toExpr,
        ((site.mapChildrenM visit).run trail).2) := by
  have hreach : Reaches style rules site.toExpr trail
      ((site.toExpr.mapChildrenM visit).run trail) :=
    reaches_mapChildrenM (fun child _ => h child) trail
  rw [Site.run_mapChildrenM] at hreach
  exact hreach

def round (style : Conventions) (visitor : Expr → Walk Expr) (rules : List Rule) (site : Site) :
    Walk Site := do
  let site ← site.mapChildrenM visitor
  settle style (·.mapChildrenM visitor) rules.length rules site

theorem run_round (style : Conventions) (visitor : Expr → Walk Expr) (rules : List Rule)
    (site : Site) (trail : Trail) :
    (round style visitor rules site).run trail =
      (settle style (·.mapChildrenM visitor) rules.length rules
        ((site.mapChildrenM visitor).run trail).1).run
          ((site.mapChildrenM visitor).run trail).2 := rfl

theorem reaches_round {visitor : Expr → Walk Expr}
    (h : ∀ (expr : Expr) (trail : Trail),
      Reaches style rules expr trail ((visitor expr).run trail)) (site : Site) (trail : Trail) :
    Reaches style rules site.toExpr trail
      (((round style visitor rules site).run trail).1.toExpr,
        ((round style visitor rules site).run trail).2) := by
  have hparts := reaches_descend h site trail
  have hsettle := reaches_settle (reaches_descend h) rules.length (List.Subset.refl rules)
    ((site.mapChildrenM visitor).run trail).1 ((site.mapChildrenM visitor).run trail).2
  exact hparts.trans hsettle

theorem run_visit_succ (style : Conventions) (rules : List Rule) (depth : Nat) (expr : Expr)
    (trail : Trail) :
    (visit style rules (depth + 1) expr).run trail =
      if trail.settled.contains expr then (expr, trail)
      else
        match Site.ofExpr? expr with
        | none => (expr.mapChildrenM (visit style rules depth)).run trail
        | some site =>
            let result := (round style (visit style rules depth) rules site).run trail
            (result.1.toExpr,
              { result.2 with settled := result.1.toExpr :: result.2.settled }) := by
  rw [visit]
  show (if trail.settled.contains expr = true then _ else _ : Walk Expr).run trail = _
  by_cases hsettled : trail.settled.contains expr = true
  · rw [if_pos hsettled, if_pos hsettled]
    rfl
  · rw [if_neg hsettled, if_neg hsettled]
    cases Site.ofExpr? expr <;> rfl

/-- Visiting an expression reaches what it ends with. -/
theorem reaches_visit (depth : Nat) (expr : Expr) (trail : Trail) :
    Reaches style rules expr trail ((visit style rules depth expr).run trail) := by
  induction depth generalizing expr trail with
  | zero => exact Reaches.refl expr rfl
  | succ depth ih =>
      rw [run_visit_succ]
      split
      · exact Reaches.refl expr rfl
      · split
        · exact reaches_mapChildrenM (fun child _ => ih child) trail
        · rename_i site hsite
          rw [Site.ofExpr?_eq_some.mp hsite]
          exact (reaches_round ih site trail).trans (Reaches.refl _ rfl)

/-!
# Lists stay lists

A walk over items is a round at their list.
-/

theorem proposal?_list {rule : Rule} {items : List Expr} {proposal : Site}
    (h : rule.proposal? style (.list items) = some proposal) :
    ∃ items' : List Expr, proposal = .list items' := by
  rw [Rule.proposal?] at h
  cases hkind : rule.kind with
  | sections =>
      rw [hkind] at h
      rcases Option.map_eq_some_iff.mp h with ⟨items', -, heq⟩
      exact ⟨items', heq.symm⟩
  | _ =>
      rw [hkind] at h
      cases h

theorem settle_list (style : Conventions) (visit : Expr → Walk Expr) (tries : Nat)
    (offered : List Rule) (items : List Expr) (trail : Trail) :
    ∃ items' : List Expr,
      ((settle style (·.mapChildrenM visit) tries offered (.list items)).run trail).1 =
        .list items' := by
  induction tries generalizing offered items trail with
  | zero => exact ⟨items, rfl⟩
  | succ tries ih =>
      cases hfirst : firstProposal? style (.list items) offered with
      | none => exact ⟨items, by rw [run_settle_of_none hfirst]⟩
      | some found =>
          rcases found with ⟨rule, proposal, others⟩
          rcases proposal?_list (firstProposal?_eq_some hfirst).1 with ⟨items', rfl⟩
          cases hverdict : rule.examine style (.list items) (.list items') with
          | accept =>
              rw [run_settle_of_accept hfirst hverdict]
              exact ih others _ _
          | reject objection =>
              rw [run_settle_of_reject hfirst hverdict]
              exact ih others items _

theorem round_list (style : Conventions) (visit : Expr → Walk Expr) (rules : List Rule)
    (items : List Expr) (trail : Trail) :
    ∃ items' : List Expr,
      ((round style visit rules (.list items)).run trail).1 = .list items' :=
  settle_list style visit rules.length rules ((items.mapM visit).run trail).1
    ((items.mapM visit).run trail).2

theorem run_visitItems (depth : Nat) (items : List Expr) (trail : Trail) :
    (visitItems style rules depth items).run trail =
      let result := (round style (visit style rules depth) rules (.list items)).run trail
      (result.1.items, result.2) := rfl

end Walk

/-!
# Passes and runs
-/

namespace Fragment

def root (fragment : Fragment) : Expr :=
  (Site.list fragment.items).toExpr

variable {style : Conventions} {rules : List Rule}

theorem reaches_visitItems (style : Conventions) (rules : List Rule) (depth : Nat)
    (items : List Expr) (trail : Trail) :
    Walk.Reaches style rules (Site.list items).toExpr trail
      ((Site.list ((Walk.visitItems style rules depth items).run trail).1).toExpr,
        ((Walk.visitItems style rules depth items).run trail).2) := by
  have hvisit : ∀ (expr : Expr) (trail : Trail), Walk.Reaches style rules expr trail
      ((Walk.visit style rules depth expr).run trail) := Walk.reaches_visit depth
  have hround := Walk.reaches_round hvisit (.list items) trail
  rcases Walk.round_list style (Walk.visit style rules depth) rules items trail with ⟨items', hlist⟩
  rw [Walk.run_visitItems]
  simp only [hlist] at hround ⊢
  exact hround

theorem pass_steps (style : Conventions) (rules : List Rule) (fragment : Fragment) :
    ∃ done : List Rule,
      (fragment.pass style rules).2.filterMap Event.applied? = done.map Rule.id ∧
        Expr.Steps style rules done fragment.root (fragment.pass style rules).1.root := by
  rcases reaches_visitItems style rules fragment.weight fragment.items .empty with
    ⟨events, done, hevents, happlied, hsteps⟩
  refine ⟨done, ?_, hsteps⟩
  rw [← happlied]
  exact congrArg (List.filterMap Event.applied?) hevents

end Fragment

namespace Run

variable {style : Conventions} {rules : List Rule}

/-- Repeated passes make a step for each rule they apply. -/
theorem repeatPasses_steps (style : Conventions) (rules : List Rule) (allowed : Nat)
    (fragment : Fragment) :
    ∃ done : List Rule,
      (repeatPasses style rules allowed fragment).applied = done.map Rule.id ∧
        Expr.Steps style rules done fragment.root
          (repeatPasses style rules allowed fragment).fragment.root := by
  induction allowed generalizing fragment with
  | zero => exact ⟨[], rfl, Expr.Steps.refl fragment.root⟩
  | succ allowed ih =>
      rcases fragment.pass_steps style rules with ⟨done, happlied, hsteps⟩
      rw [repeatPasses]
      simp only
      split
      · rcases ih (fragment.pass style rules).1 with ⟨later, hlater, hlaterSteps⟩
        refine ⟨done ++ later, ?_, hsteps.append hlaterSteps⟩
        rw [applied, List.filterMap_append, happlied, List.map_append, ← hlater]
        rfl
      · exact ⟨done, happlied, hsteps⟩

theorem ending_repeatPasses (allowed : Nat) (fragment : Fragment) :
    (repeatPasses style rules allowed fragment).fragment.ending = fragment.ending := by
  induction allowed generalizing fragment with
  | zero => rfl
  | succ allowed ih =>
      rw [repeatPasses]
      simp only
      split
      · exact ih (fragment.pass style rules).1
      · rfl

end Run

end FluentStyle
