import FluentStyle.Catalog.Standard
import FluentStyle.Proofs.Restyle.AtRest
import FluentStyle.Proofs.Rule.Verdict

/-!
# What restyling neither drops nor adds

A name that no rule renames, renames to or introduces is called as often after restyling as before,
at every depth together.  This rests on the verdicts alone, whatever the rules propose: an accepted
proposal keeps the number at its site, so a step keeps it in the tree around the site, and a run is
made of steps.
-/

namespace FluentStyle

/-!
# Accepted proposals

An accepted proposal keeps the number of calls that may neither vanish nor appear.
-/

namespace Effect

theorem countP_name_eq {name : String} {as bs : List Effect}
    (h : ∀ effect : Effect, effect.name = name → as.count effect = bs.count effect) :
    (as.countP fun effect => effect.name = name) = bs.countP fun effect => effect.name = name := by
  have hperm : (as.filter fun effect => effect.name = name).Perm
      (bs.filter fun effect => effect.name = name) := by
    apply List.perm_iff_count.mpr
    intro effect
    by_cases hname : effect.name = name
    · have hcount : ∀ effects : List Effect,
          (effects.filter fun effect => effect.name = name).count effect = effects.count effect :=
        fun effects => List.count_filter (decide_eq_true hname)
      rw [hcount, hcount, h effect hname]
    · have hnone : ∀ effects : List Effect,
          effect ∉ effects.filter fun effect => effect.name = name := by
        intro effects hmem
        exact hname (of_decide_eq_true (List.mem_filter.mp hmem).2)
      rw [List.count_eq_zero_of_not_mem (hnone as), List.count_eq_zero_of_not_mem (hnone bs)]
  rw [List.countP_eq_length_filter, List.countP_eq_length_filter, hperm.length_eq]

end Effect

namespace Permission

/-- Calls with the name may neither vanish nor appear. -/
def Keeps (permission : Permission) (name : String) : Prop :=
  permission.renamed name = false ∧ permission.mayAppear name = false

instance (permission : Permission) (name : String) : Decidable (permission.Keeps name) :=
  inferInstanceAs (Decidable (_ ∧ _))

variable {permission : Permission} {name : String}

theorem Allows.tally_eq {before after : Site}
    (h : permission.Allows before.effects after.effects) (hkeeps : permission.Keeps name) :
    Call.tally name after.calls = Call.tally name before.calls := by
  have htally : ∀ site : Site,
      Call.tally name site.calls = site.effects.countP fun effect => effect.name = name := by
    intro site
    rw [Site.effects, List.countP_map]
    rfl
  rw [htally, htally]
  apply Effect.countP_name_eq
  rintro effect rfl
  exact h.count_eq hkeeps.1 hkeeps.2

theorem tally_normalize (permission : Permission) (name : String) (site : Site) :
    Call.tally name (permission.normalize site).calls = Call.tally name site.calls := by
  unfold normalize
  split
  · exact Site.tally_map_arrowed name site
  · rfl

end Permission

theorem Rule.tally_eq_of_accept {style : Conventions} {rule : Rule} {name : String}
    {before after : Site} (h : rule.examine style before after = .accept)
    (hkeeps : (rule.kind.permission style).Keeps name) :
    Call.tally name after.toExpr.calls = Call.tally name before.toExpr.calls := by
  rcases Verdict.examine_eq_accept_iff.mp h with ⟨-, -, -, hallows⟩
  have htally := hallows.tally_eq hkeeps
  rw [Permission.tally_normalize, Permission.tally_normalize] at htally
  rw [Site.calls_toExpr, Site.calls_toExpr, htally]

/-!
# Steps and runs
-/

namespace Expr

variable {style : Conventions} {rules : List Rule} {name : String}

/-- A step keeps the number of calls that its rule may neither drop nor add. -/
theorem Step.tally_eq (hkeeps : ∀ rule ∈ rules, (rule.kind.permission style).Keeps name)
    {rule : Rule} {a b : Expr} (step : Step style rules rule a b) :
    Call.tally name b.calls = Call.tally name a.calls := by
  induction step with
  | here mem _ accepted => exact Rule.tally_eq_of_accept accepted (hkeeps _ mem)
  | inside frame children children' _ ih =>
      apply tally_eq_of_frame name frame
      rw [children, children', callsAll_append, callsAll_append, Call.tally_append,
        Call.tally_append, callsAll, callsAll, Call.tally_append, Call.tally_append, ih]

theorem Steps.tally_eq (hkeeps : ∀ rule ∈ rules, (rule.kind.permission style).Keeps name)
    {done : List Rule} {a b : Expr} (steps : Steps style rules done a b) :
    Call.tally name b.calls = Call.tally name a.calls := by
  induction steps with
  | refl _ => rfl
  | cons step _ ih => exact ih.trans (step.tally_eq hkeeps)

end Expr

theorem Fragment.calls_root (fragment : Fragment) : fragment.root.calls = fragment.calls :=
  Expr.calls_list fragment.items

namespace Catalog

/-- Names that no rule renames, renames to or introduces are called as often in the final tree as in
the one that was read. -/
theorem restyle_keeps_tally {catalog : Catalog} {maxPasses : Nat} {source : String}
    {fragment : Fragment} {name : String} (h : Fragment.parse source = .ok fragment)
    (hkeeps : ∀ rule ∈ catalog.rules, rule.isAdvisory = false →
      (rule.kind.permission catalog.style).Keeps name) :
    let final := (catalog.run maxPasses fragment).fragment
    ∃ outcome : Outcome, catalog.restyle maxPasses source = .ok outcome ∧
      outcome.text = final.render ∧
      Call.tally name final.calls = Call.tally name fragment.calls := by
  intro final
  refine ⟨catalog.restyleFragment maxPasses fragment, restyle_of_parse h maxPasses, rfl, ?_⟩
  have hchanging : ∀ rule ∈ catalog.changingRules,
      (rule.kind.permission catalog.style).Keeps name := by
    intro rule hrule
    rcases mem_changingRules.mp hrule with ⟨hmem, hadvisory⟩
    exact hkeeps rule hmem hadvisory
  rcases Run.repeatPasses_steps catalog.style catalog.changingRules (max maxPasses 1) fragment with
    ⟨done, -, hsteps⟩
  have htally := hsteps.tally_eq hchanging
  rw [Fragment.calls_root, Fragment.calls_root] at htally
  exact htally

/-- Labels, around which a flag loses its argument and a closure its block. -/
theorem restyle_keeps_tally_label :
    let fragment : Fragment :=
      ⟨[.chain ⟨.static "X", ⟨"make", [.literal ⟨"'a'"⟩]⟩,
        [⟨"live", [.constant "true"]⟩,
          ⟨"label", [.closure (.block [] [] [.give (.number "1")])]⟩]⟩], .none⟩
    let final := (standard.run 16 fragment).fragment
    Fragment.parse "X::make('a')->live(true)->label(function () { return 1; })" = .ok fragment ∧
      (∀ rule ∈ standard.rules, rule.isAdvisory = false →
        (rule.kind.permission standard.style).Keeps "label") ∧
      ∃ outcome : Outcome,
        standard.restyle 16 "X::make('a')->live(true)->label(function () { return 1; })" =
          .ok outcome ∧
        outcome.text = final.render ∧
        Call.tally "label" final.calls = Call.tally "label" fragment.calls := by
  intro fragment final
  have h : Fragment.parse "X::make('a')->live(true)->label(function () { return 1; })" =
      .ok fragment := by decide +kernel
  have hkeeps : ∀ rule ∈ standard.rules, rule.isAdvisory = false →
      (rule.kind.permission standard.style).Keeps "label" := by decide +kernel
  exact ⟨h, hkeeps, restyle_keeps_tally h hkeeps⟩

end Catalog

end FluentStyle
