import FluentStyle.Proofs.Restyle.Termination

/-!
# Rules that are applied change the tree

Steps take something from the weight of a tree or from its disorder, and nothing gives it back.  So
no steps lead from a tree to itself, whatever rules are tried and in whatever order, and a run ends
with the tree it began with just if it applied no rule.
-/

namespace FluentStyle

theorem Expr.Steps.eq_nil {style : Conventions} {rules done : List Rule} {tree : Expr}
    (hgroups : ∀ group ∈ style.groups, 2 ≤ group.minFields)
    (steps : Expr.Steps style rules done tree tree) : done = [] := by
  have hle := steps.length_add_le hgroups (Nat.le_refl tree.weight)
  apply List.eq_nil_of_length_eq_zero
  omega

theorem Fragment.eq_of_root_eq {a b : Fragment} (hroot : a.root = b.root)
    (hending : a.ending = b.ending) : a = b := by
  have hitems := congrArg Expr.children hroot
  rw [children_root, children_root] at hitems
  cases a
  cases b
  cases hitems
  cases hending
  rfl

theorem Catalog.applied_eq_nil_iff (catalog : Catalog) (maxPasses : Nat) (fragment : Fragment) :
    (catalog.run maxPasses fragment).applied = [] ↔
      (catalog.run maxPasses fragment).fragment = fragment := by
  rcases Run.repeatPasses_steps catalog.style catalog.changingRules (max maxPasses 1) fragment with
    ⟨done, happlied, hsteps⟩
  have hrules : (catalog.run maxPasses fragment).applied = [] ↔ done = [] := by
    unfold run
    rw [happlied, List.map_eq_nil_iff]
  rw [hrules]
  constructor
  · rintro rfl
    exact Fragment.eq_of_root_eq hsteps.eq_of_nil (Run.ending_repeatPasses _ fragment)
  · intro hsame
    unfold run at hsame
    rw [hsame] at hsteps
    exact hsteps.eq_nil catalog.two_le_minFields

namespace Catalog

/-- A run applies no rule just if the final tree is the one that was read, and then the text is that
of this tree.  What a run applies are steps from this tree, and no steps lead from a tree back to
it. -/
theorem restyle_unchanged_iff {catalog : Catalog} {source : String} {fragment : Fragment}
    (h : Fragment.parse source = .ok fragment) (maxPasses : Nat) :
    let final := (catalog.run maxPasses fragment).fragment
    (∃ outcome : Outcome, catalog.restyle maxPasses source = .ok outcome ∧
      outcome.text = final.render ∧
      (outcome.applied = [] ↔ final = fragment) ∧
      (outcome.applied = [] → outcome.text = fragment.render) ∧
      ∃ done : List Rule, outcome.applied = done.map Rule.id ∧
        Expr.Steps catalog.style catalog.changingRules done fragment.root final.root) ∧
      ∀ (tree : Expr) (done : List Rule),
        Expr.Steps catalog.style catalog.changingRules done tree tree → done = [] := by
  intro final
  have hiff := catalog.applied_eq_nil_iff maxPasses fragment
  constructor
  · refine ⟨catalog.restyleFragment maxPasses fragment, restyle_of_parse h maxPasses, rfl, hiff,
      fun hnone => ?_, ?_⟩
    · exact congrArg Fragment.render (hiff.mp hnone)
    · exact Run.repeatPasses_steps catalog.style catalog.changingRules (max maxPasses 1) fragment
  · intro tree done hsteps
    exact hsteps.eq_nil catalog.two_le_minFields

/-- A declaration for which a rule has a proposal that is rejected, for the condition in it calls
`hidden` too. -/
theorem restyle_unchanged_iff_rejected :
    let source := "X::make('a')->hidden(!$x->hidden())"
    let declaration : Chain := ⟨.static "X", ⟨"make", [.literal ⟨"'a'"⟩]⟩,
      [⟨"hidden", [.unary .not (.chain ⟨.receiver (.variable "$x"), ⟨"hidden", []⟩, []⟩)]⟩]⟩
    let rule : Rule := ⟨"visible-over-negated-hidden",
      some "Prefer visible(...) over hidden(!...).", 20, true, .visibility⟩
    ∃ mem : rule ∈ standard.rules,
      (rule.proposal? standard.style (.chain declaration)).isSome = true ∧
      Fragment.parse source = .ok ⟨[.chain declaration], .none⟩ ∧
      ∃ outcome : Outcome, (standard.only rule mem).restyle 16 source = .ok outcome ∧
        outcome.text = (⟨[.chain declaration], .none⟩ : Fragment).render := by
  intro source declaration rule
  have mem : rule ∈ standard.rules := by decide +kernel
  have h : Fragment.parse source = .ok ⟨[.chain declaration], .none⟩ := by decide +kernel
  have hnone : (Run.repeatPasses standard.style [rule] 16 ⟨[.chain declaration], .none⟩).applied =
      [] := by decide +kernel
  refine ⟨mem, by decide +kernel, h, ?_⟩
  rcases (@restyle_unchanged_iff (standard.only rule mem) source _ h 16).1 with
    ⟨outcome, houtcome, -, -, htext, -⟩
  cases (restyle_of_parse h 16).symm.trans houtcome
  refine ⟨_, houtcome, htext ?_⟩
  rw [← hnone, ← changingRules_only mem rfl]
  rfl

end Catalog

end FluentStyle
