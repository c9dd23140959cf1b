import FluentStyle.Proofs.Catalog.Soundness
import FluentStyle.Proofs.Restyle.AtRest
import FluentStyle.Proofs.Rule.Replacement

/-!
# Restyling with a single rule

A rule that orders calls, writes closures as arrow functions or leaves out the arguments of flags
does in one pass just what one change of all expressions from the inside out does.  What a visit has
settled, and what it visits once more inside a proposal, the rule spares, so neither skipping nor
visiting it makes a difference.  A second pass finds nothing to do.
-/

namespace FluentStyle

variable {style : Conventions} {rule : Rule}

/-!
# Trails
-/

def Trail.Spared (style : Conventions) (rule : Rule) (trail : Trail) : Prop :=
  ∀ expr ∈ trail.settled, rule.Spares style expr

namespace Walk

/-- The rule is recorded as applied a number of times, and it spares all that is settled. -/
structure Records (style : Conventions) (rule : Rule) (count : Nat) (trail trail' : Trail) :
    Prop where
  events_eq : trail'.events = trail.events ++ List.replicate count (.applied rule.id)
  settled : trail'.Spared style rule

theorem Records.refl {trail : Trail} (h : trail.Spared style rule) :
    Records style rule 0 trail trail where
  events_eq := (List.append_nil _).symm
  settled := h

theorem Records.trans {first second : Nat} {a b c : Trail}
    (hab : Records style rule first a b) (hbc : Records style rule second b c) :
    Records style rule (first + second) a c where
  events_eq := by
    rw [hbc.events_eq, hab.events_eq, List.append_assoc, List.replicate_append_replicate]
  settled := hbc.settled

/-- A visitor does to an expression what the change from the inside out does, as long as all that is
settled is spared. -/
def Rewrites (style : Conventions) (rule : Rule) (visitor : Expr → Walk Expr) (expr : Expr) :
    Prop :=
  ∀ trail : Trail, trail.Spared style rule →
    ((visitor expr).run trail).1 = expr.map (rule.rewritten style) ∧
      Records style rule (rule.replacements style [expr]) trail ((visitor expr).run trail).2

/-- Not visiting what the rule spares is as good as visiting it. -/
theorem skip_of_spares {expr : Expr} {trail : Trail} (h : rule.Spares style expr)
    (hsettled : trail.Spared style rule) :
    expr = expr.map (rule.rewritten style) ∧
      Records style rule (rule.replacements style [expr]) trail trail := by
  rw [Rule.map_of_spares h, Rule.replacements_of_spares (List.forall_mem_singleton.mpr h)]
  exact ⟨rfl, Records.refl hsettled⟩

/-!
# Visiting the parts of a site
-/

variable {visitor : Expr → Walk Expr} {trail : Trail}

theorem rewrites_mapM {exprs : List Expr} (h : ∀ expr ∈ exprs, Rewrites style rule visitor expr)
    (hsettled : trail.Spared style rule) :
    ((exprs.mapM visitor).run trail).1 = exprs.map (Expr.map (rule.rewritten style)) ∧
      Records style rule (rule.replacements style exprs) trail
        ((exprs.mapM visitor).run trail).2 := by
  induction exprs generalizing trail with
  | nil => exact ⟨rfl, Records.refl hsettled⟩
  | cons expr exprs ih =>
      rcases h expr List.mem_cons_self trail hsettled with ⟨hexpr, hfirst⟩
      rcases ih (fun other hother => h other (List.mem_cons_of_mem expr hother)) hfirst.settled with
        ⟨hexprs, hrest⟩
      rw [stateM_run_mapM_cons]
      constructor
      · rw [List.map_cons, ← hexpr, ← hexprs]
      · rw [Rule.replacements_cons]
        exact hfirst.trans hrest

theorem rewrites_mapChildrenM {expr : Expr}
    (h : ∀ child ∈ expr.children, Rewrites style rule visitor child)
    (hsettled : trail.Spared style rule) :
    ((expr.mapChildrenM visitor).run trail).1 = expr.mapInside (rule.rewritten style) ∧
      Records style rule (rule.replacements style expr.children) trail
        ((expr.mapChildrenM visitor).run trail).2 := by
  rcases rewrites_mapM h hsettled with ⟨hmap, hrecords⟩
  rcases Expr.fills visitor expr trail with ⟨hchildren, hframe⟩
  rcases expr.mapInside_spec (rule.rewritten style) with ⟨hframe', hchildren'⟩
  rw [hchildren] at hmap hrecords
  exact ⟨Expr.determined.ext (hframe.trans hframe'.symm) (hmap.trans hchildren'.symm), hrecords⟩

theorem rewrites_site {site : Site}
    (h : ∀ child ∈ site.toExpr.children, Rewrites style rule visitor child)
    (hsettled : trail.Spared style rule) :
    ((site.mapChildrenM visitor).run trail).1.toExpr =
        site.toExpr.mapInside (rule.rewritten style) ∧
      Records style rule (rule.replacements style site.toExpr.children) trail
        ((site.mapChildrenM visitor).run trail).2 := by
  have hexpr := rewrites_mapChildrenM h hsettled
  rw [Site.run_mapChildrenM] at hexpr
  exact hexpr

/-!
# Trying the rule

At a site whose parts the rule spares, trying it replaces the site if there is a proposal.  So a
round at a site changes it from the inside out, and so does a visit that is allowed to go as deep as
it has to, or has nothing to do.
-/

section Visits

variable (hkind : rule.kind = .callOrder ∨ rule.kind = .arrowClosures ∨
  ∃ flags, rule.kind = .bareFlags flags)

include hkind

theorem rewrites_settle {site : Site}
    (hvisitor : ∀ expr, rule.Spares style expr → Rewrites style rule visitor expr)
    (hspared : ∀ child ∈ site.toExpr.children, rule.Spares style child)
    (hsettled : trail.Spared style rule) :
    let result := (settle style (·.mapChildrenM visitor) 1 [rule] site).run trail
    result.1.toExpr = rule.rewritten style site.toExpr ∧
      Records style rule (if (rule.replacement? style site.toExpr).isSome then 1 else 0) trail
        result.2 := by
  have hreplaced : rule.replacement? style site.toExpr =
      (rule.proposal? style site).map Site.toExpr := Rule.replacement?_toExpr hkind site
  cases hproposal : rule.proposal? style site with
  | none =>
      rw [hproposal, Option.map_none] at hreplaced
      have hfirst : firstProposal? style site [rule] = none := by
        rw [firstProposal?, hproposal]
        rfl
      rw [run_settle_of_none hfirst, Rule.rewritten_of_none hreplaced, hreplaced]
      exact ⟨rfl, Records.refl hsettled⟩
  | some proposal =>
      rw [hproposal, Option.map_some] at hreplaced
      have hfirst : firstProposal? style site [rule] = some (rule, proposal, []) := by
        rw [firstProposal?, hproposal]
      have hrecorded : Records style rule 1 trail ((record (.applied rule.id)).run trail).2 :=
        ⟨rfl, hsettled⟩
      -- The parts of the proposal are parts of the site, so visiting them changes nothing.
      have hparts : ∀ child ∈ proposal.toExpr.children, rule.Spares style child :=
        fun child hchild => hspared child (Rule.children_of_replaced hkind hreplaced child hchild)
      rcases rewrites_site (fun child hchild => hvisitor child (hparts child hchild))
        hrecorded.settled with ⟨hsame, hnone⟩
      rw [Rule.mapInside_of_children hparts] at hsame
      rw [Rule.replacements_of_spares hparts] at hnone
      rw [run_settle_of_accept hfirst (Rule.accepts_proposal hkind hproposal),
        Rule.rewritten_of_some hreplaced, hreplaced]
      exact ⟨hsame, hrecorded.trans hnone⟩

theorem rewrites_round {site : Site}
    (hvisitor : ∀ expr, rule.Spares style expr → Rewrites style rule visitor expr)
    (hchildren : ∀ child ∈ site.toExpr.children, Rewrites style rule visitor child)
    (hsettled : trail.Spared style rule) :
    let result := (round style visitor [rule] site).run trail
    result.1.toExpr = site.toExpr.map (rule.rewritten style) ∧
      Records style rule (rule.replacements style [site.toExpr]) trail result.2 := by
  intro result
  rcases rewrites_site hchildren hsettled with ⟨hinside, hfirst⟩
  have hspared : ∀ child ∈ (((site.mapChildrenM visitor).run trail).1).toExpr.children,
      rule.Spares style child := by
    rw [hinside, (site.toExpr.mapInside_spec _).2]
    intro child hchild
    rcases List.mem_map.mp hchild with ⟨origin, -, rfl⟩
    exact Rule.spares_map hkind origin
  rcases rewrites_settle hkind hvisitor hspared hfirst.settled with ⟨hsite, hlast⟩
  rw [hinside] at hsite hlast
  rw [Expr.map_eq, Rule.replacements_singleton]
  exact ⟨hsite, hfirst.trans hlast⟩

theorem rewrites_visit (depth : Nat) {expr : Expr}
    (hdepth : expr.weight ≤ depth ∨ rule.Spares style expr) :
    Rewrites style rule (visit style [rule] depth) expr := by
  induction depth generalizing expr with
  | zero =>
      intro trail hsettled
      rcases hdepth with hweight | hspared
      · exact absurd hweight (Nat.not_le_of_lt expr.weight_pos)
      · exact skip_of_spares hspared hsettled
  | succ depth ih =>
      intro trail hsettled
      have hvisitor : ∀ expr, rule.Spares style expr →
          Rewrites style rule (visit style [rule] depth) expr := by
        intro expr hspared
        exact ih (Or.inr hspared)
      have hchildren : ∀ child ∈ expr.children,
          Rewrites style rule (visit style [rule] depth) child := by
        intro child hchild
        apply ih
        rcases hdepth with hweight | hspared
        · have hlt := Expr.weight_lt_of_mem_children hchild
          exact Or.inl (by omega)
        · exact Or.inr ((Rule.spares_iff.mp hspared).2 child hchild)
      rw [run_visit_succ]
      by_cases hskip : trail.settled.contains expr = true
      · have hspared := hsettled expr (List.contains_iff_mem.mp hskip)
        rw [if_pos hskip]
        exact skip_of_spares hspared hsettled
      · rw [if_neg hskip]
        cases hsite : Site.ofExpr? expr with
        | none =>
            rcases rewrites_mapChildrenM hchildren hsettled with ⟨hinside, hrecords⟩
            have hnone : rule.replacement? style (expr.mapInside (rule.rewritten style)) = none :=
              Rule.replacement?_mapInside_of_none hsite
            rw [Expr.map_eq, Rule.rewritten_of_none hnone, Rule.replacements_singleton, hnone]
            exact ⟨hinside, hrecords⟩
        | some site =>
            rw [Site.ofExpr?_eq_some.mp hsite] at hchildren ⊢
            rcases rewrites_round hkind hvisitor hchildren hsettled with ⟨hresult, hrecords⟩
            refine ⟨hresult, hrecords.events_eq, fun settled hmem => ?_⟩
            rcases List.mem_cons.mp hmem with rfl | hmem
            · rw [hresult]
              exact Rule.spares_map hkind _
            · exact hrecords.settled settled hmem

end Visits

end Walk

/-!
# Passes
-/

namespace Fragment

def map (f : Expr → Expr) (fragment : Fragment) : Fragment :=
  { fragment with items := fragment.items.map (Expr.map f) }

variable (hkind : rule.kind = .callOrder ∨ rule.kind = .arrowClosures ∨
  ∃ flags, rule.kind = .bareFlags flags)

include hkind

theorem pass_single (fragment : Fragment) :
    fragment.pass style [rule] = (fragment.map (rule.rewritten style),
      List.replicate (rule.replacements style fragment.items) (.applied rule.id)) := by
  have hvisitor : ∀ expr, rule.Spares style expr →
      Walk.Rewrites style rule (Walk.visit style [rule] fragment.weight) expr :=
    fun expr hspared => Walk.rewrites_visit hkind fragment.weight (Or.inr hspared)
  have hchildren : ∀ child ∈ (Site.list fragment.items).toExpr.children,
      Walk.Rewrites style rule (Walk.visit style [rule] fragment.weight) child := by
    intro child hchild
    have hlt := Expr.weight_lt_of_mem_children hchild
    have hroot := fragment.weight_root
    unfold root at hroot
    exact Walk.rewrites_visit hkind fragment.weight (Or.inl (by omega))
  have hempty : Trail.empty.Spared style rule := List.forall_mem_nil _
  rcases Walk.rewrites_round hkind hvisitor hchildren hempty with ⟨hround, hrecords⟩
  rw [Rule.map_list] at hround
  have hitems := Site.eq_of_toExpr_eq hround
  have hevents := hrecords.events_eq
  rw [Rule.replacements_list] at hevents
  have hpass : fragment.pass style [rule] =
      let result := (Walk.round style (Walk.visit style [rule] fragment.weight) [rule]
        (.list fragment.items)).run .empty
      ({ fragment with items := result.1.items }, result.2.events) := rfl
  rw [hpass]
  simp only [hitems, hevents]
  rfl

theorem pass_map (fragment : Fragment) :
    (fragment.map (rule.rewritten style)).pass style [rule] =
      (fragment.map (rule.rewritten style), []) := by
  have hspared : ∀ item ∈ fragment.items.map (Expr.map (rule.rewritten style)),
      rule.Spares style item := by
    intro item hitem
    rcases List.mem_map.mp hitem with ⟨origin, -, rfl⟩
    exact Rule.spares_map hkind origin
  have hitems : (fragment.map (rule.rewritten style)).map (rule.rewritten style) =
      fragment.map (rule.rewritten style) := by
    have hsame : (fragment.items.map (Expr.map (rule.rewritten style))).map
        (Expr.map (rule.rewritten style)) = fragment.items.map (Expr.map (rule.rewritten style)) :=
      (List.map_congr_left fun item hitem => Rule.map_of_spares (hspared item hitem)).trans
        (List.map_id _)
    exact congrArg (fun items => ({ fragment with items } : Fragment)) hsame
  have hnone : rule.replacements style (fragment.map (rule.rewritten style)).items = 0 :=
    Rule.replacements_of_spares hspared
  rw [pass_single hkind, hitems, hnone]
  rfl

end Fragment

/-!
# Runs
-/

namespace Run

variable (hkind : rule.kind = .callOrder ∨ rule.kind = .arrowClosures ∨
  ∃ flags, rule.kind = .bareFlags flags)

include hkind

theorem repeatPasses_map (allowed : Nat) (fragment : Fragment) :
    let run := repeatPasses style [rule] allowed (fragment.map (rule.rewritten style))
    run.fragment = fragment.map (rule.rewritten style) ∧ run.events = [] ∧ run.passes ≤ 1 ∧
      run.isUnfinished = false := by
  cases allowed with
  | zero =>
      rw [repeatPasses, Fragment.pass_map hkind]
      exact ⟨rfl, rfl, Nat.zero_le 1, rfl⟩
  | succ allowed =>
      rw [repeatPasses, Fragment.pass_map hkind]
      exact ⟨rfl, rfl, Nat.le_refl 1, rfl⟩

theorem repeatPasses_single (style : Conventions) {allowed : Nat} (hallowed : 0 < allowed)
    (fragment : Fragment) :
    let run := repeatPasses style [rule] allowed fragment
    run.fragment = fragment.map (rule.rewritten style) ∧
      run.events = List.replicate (rule.replacements style fragment.items) (.applied rule.id) ∧
      run.passes ≤ 2 ∧ run.isUnfinished = false := by
  cases allowed with
  | zero => exact absurd hallowed (Nat.lt_irrefl 0)
  | succ allowed =>
      rcases repeatPasses_map hkind allowed fragment with ⟨hfragment, hevents, hpasses, hfinished⟩
      rw [repeatPasses, Fragment.pass_single hkind]
      simp only
      split
      · refine ⟨hfragment, ?_, Nat.succ_le_succ hpasses, hfinished⟩
        rw [hevents, List.append_nil]
      · exact ⟨rfl, rfl, Nat.le_succ 1, rfl⟩

end Run

namespace Catalog

theorem advice_only {catalog : Catalog} (mem : rule ∈ catalog.rules)
    (h : rule.isAdvisory = false) (fragment : Fragment) :
    (catalog.only rule mem).advice fragment = [] := by
  have hrules : (catalog.only rule mem).rules.filter (·.isAdvisory) = [] := by
    show [rule].filter (·.isAdvisory) = []
    rw [List.filter_cons, h]
    rfl
  unfold advice
  rw [hrules]
  exact List.flatMap_eq_nil_iff.mpr fun items _ => rfl

/-- Restyling with the single rule that has an id, where this orders calls, writes closures as arrow
functions or leaves out the arguments of flags, changes all chains and closures of the items from
the inside out as the rule does.  The rule is recorded once for each expression replaced, nothing is
rejected and there is nothing to warn of, and a second pass is the last. -/
theorem restyle_only_eq_map {catalog : Catalog} {id source : String} {fragment : Fragment}
    (hrule : catalog.rule? id = some rule)
    (hkind : rule.kind = .callOrder ∨ rule.kind = .arrowClosures ∨
      ∃ flags, rule.kind = .bareFlags flags)
    (h : Fragment.parse source = .ok fragment) (maxPasses : Nat) :
    let final := fragment.map (rule.rewritten catalog.style)
    ∃ (single : Catalog) (outcome : Outcome), catalog.only? id = some single ∧
      single.restyle maxPasses source = .ok outcome ∧
      (single.run maxPasses fragment).fragment = final ∧ outcome.text = final.render ∧
      outcome.applied = List.replicate (rule.replacements catalog.style fragment.items) id ∧
      outcome.rejected = [] ∧ outcome.warnings = [] ∧ outcome.passes ≤ 2 := by
  intro final
  rcases rule?_eq_some hrule with ⟨mem, hid⟩
  have hadvisory : rule.isAdvisory = false := by
    unfold Rule.isAdvisory
    rcases hkind with hkind | hkind | ⟨flags, hkind⟩ <;> rw [hkind]
  have hrun : (catalog.only rule mem).run maxPasses fragment =
      Run.repeatPasses catalog.style [rule] (max maxPasses 1) fragment := by
    rw [run, changingRules_only mem hadvisory]
    rfl
  have hallowed : 0 < max maxPasses 1 := by omega
  rcases Run.repeatPasses_single hkind catalog.style hallowed fragment with
    ⟨hfragment, hevents, hpasses, hfinished⟩
  rw [← hrun] at hfragment hevents hpasses hfinished
  have happlied : ((catalog.only rule mem).run maxPasses fragment).applied =
      List.replicate (rule.replacements catalog.style fragment.items) id := by
    unfold Run.applied
    rw [hevents, ← hid]
    exact List.filterMap_replicate_of_some rfl
  have hrejected : ((catalog.only rule mem).run maxPasses fragment).rejected = [] := by
    unfold Run.rejected
    rw [hevents]
    exact List.filterMap_replicate_of_none rfl
  have hwarnings : ((catalog.only rule mem).restyleFragment maxPasses fragment).warnings = [] := by
    unfold restyleFragment
    simp only [Run.rejections, hrejected, Run.limitWarning, hfinished, advice_only mem hadvisory]
    rfl
  refine ⟨catalog.only rule mem, (catalog.only rule mem).restyleFragment maxPasses fragment,
    only?_eq_some hrule, restyle_of_parse h maxPasses, hfragment, ?_, happlied, ?_, hwarnings,
    hpasses⟩
  · exact congrArg Fragment.render hfragment
  · unfold restyleFragment
    simp only [hrejected, List.map_nil, Text.distinct, List.mergeSort_nil]
    rfl

/-- Block closures inside one another become arrow functions inside one another. -/
theorem restyle_only_eq_map_nested :
    let source := "X::make('a')->label(function () { return function () { return 1; }; })"
    let declaration (value : Expr) : Expr :=
      .chain ⟨.static "X", ⟨"make", [.literal ⟨"'a'"⟩]⟩, [⟨"label", [value]⟩]⟩
    let final : Fragment :=
      ⟨[declaration (.closure (.arrow [] (.closure (.arrow [] (.number "1")))))], .none⟩
    ∃ (single : Catalog) (outcome : Outcome),
      standard.only? "closure-to-expression" = some single ∧
      single.restyle 1 source = .ok outcome ∧ outcome.text = final.render ∧
      outcome.applied = ["closure-to-expression", "closure-to-expression"] ∧
      outcome.rejected = [] ∧ outcome.warnings = [] ∧ outcome.passes ≤ 2 := by
  intro source declaration final
  let block (value : Expr) : Expr := .closure (.block [] [] [.give value])
  let fragment : Fragment := ⟨[declaration (block (block (.number "1")))], .none⟩
  let rule : Rule := ⟨"closure-to-expression",
    some "Write single-return closures as arrow functions.", 10, true, .arrowClosures⟩
  have hrule : standard.rule? "closure-to-expression" = some rule := by decide +kernel
  have h : Fragment.parse source = .ok fragment := by decide +kernel
  have hfinal : fragment.map (rule.rewritten standard.style) = final := by decide +kernel
  have hcount : rule.replacements standard.style fragment.items = 2 := by
    have hparts : fragment.items.flatMap Expr.parts =
        [declaration (block (block (.number "1"))), .literal ⟨"'a'"⟩, block (block (.number "1")),
          block (.number "1"), .number "1"] := by
      simp [fragment, declaration, block, Expr.parts_eq, Expr.children, Chain.children,
        Closure.children, Stmt.children]
    rw [Rule.replacements, hparts]
    decide +kernel
  rcases restyle_only_eq_map hrule (Or.inr (Or.inl rfl)) h 1 with
    ⟨single, outcome, hsingle, houtcome, -, htext, happlied, hrejected, hwarnings, hpasses⟩
  rw [hfinal] at htext
  rw [hcount] at happlied
  exact ⟨single, outcome, hsingle, houtcome, htext, happlied, hrejected, hwarnings, hpasses⟩

end Catalog

end FluentStyle
