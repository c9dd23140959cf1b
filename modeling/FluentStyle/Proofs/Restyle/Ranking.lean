import FluentStyle.Proofs.Restyle.Termination
import FluentStyle.Proofs.Rule.Proposal

/-!
# Declarations end up in order

The verdict on a declaration whose calls are put into order is never a rejection, for its effects
are the same in another order.  So at a tree at rest a rule that orders calls has nothing to
propose, and the calls of every declaration are ranked, whatever the other rules did before.
-/

namespace FluentStyle

/-!
# Trees at rest

Where no rule has an accepted proposal, one that orders calls finds them ranked.
-/

theorem Expr.AtRest.isRanked {style : Conventions} {rules : List Rule} {tree : Expr}
    (h : tree.AtRest style rules) {rule : Rule} (hrule : rule ∈ rules)
    (hkind : rule.kind = .callOrder) {chain : Chain} (hpart : Expr.chain chain ∈ tree.parts)
    (hdeclaration : style.isDeclaration chain = true) : style.IsRanked chain.rest := by
  have hdone := h (.chain chain) hpart (.chain chain) rfl rule hrule
  have hnone : chain.reordered? style = none := by
    cases hreordered : chain.reordered? style with
    | none => rfl
    | some changed =>
        have hproposal : rule.proposal? style (.chain chain) = some (.chain changed) :=
          (Rule.proposal?_iff_makes hkind).mpr (.callOrder hreordered)
        exact absurd ⟨_, hproposal, Rule.examine_reordered hkind hreordered⟩ hdone
  exact Chain.reordered?_eq_none_iff.mp hnone hdeclaration

namespace Catalog

/-- Unless the limit on passes is reported, a catalog with a rule that orders calls leaves no
declaration in the final tree, at any depth, whose calls after the constructor are not ranked. -/
theorem restyle_ranks_calls {catalog : Catalog} {maxPasses : Nat} {source : String}
    {fragment : Fragment} {rule : Rule} (h : Fragment.parse source = .ok fragment)
    (hrule : rule ∈ catalog.rules) (hkind : rule.kind = .callOrder) :
    let final := (catalog.run maxPasses fragment).fragment
    ∃ outcome : Outcome, catalog.restyle maxPasses source = .ok outcome ∧
      outcome.text = final.render ∧
      ((∀ passes : Nat, Warning.passLimit passes ∉ outcome.warnings) →
        ∀ chain : Chain, Expr.chain chain ∈ final.items.flatMap Expr.parts →
          catalog.style.isDeclaration chain = true → catalog.style.IsRanked chain.rest) := by
  intro final
  refine ⟨catalog.restyleFragment maxPasses fragment, restyle_of_parse h maxPasses, rfl, ?_⟩
  intro hsilent chain hpart hdeclaration
  have hrest := atRest_of_no_passLimit hsilent
  have hchanging : rule ∈ catalog.changingRules := by
    apply mem_changingRules.mpr
    constructor
    · exact hrule
    · unfold Rule.isAdvisory
      rw [hkind]
  rcases List.mem_flatMap.mp hpart with ⟨item, hitem, hpart⟩
  have hroot : Expr.chain chain ∈ final.root.parts := by
    apply Expr.mem_parts_iff.mpr
    refine Or.inr ⟨item, ?_, hpart⟩
    rw [Fragment.children_root]
    exact hitem
  exact hrest.isRanked hchanging hkind hroot hdeclaration

/-- A declaration in an argument of another, both out of order, with enough passes. -/
theorem restyle_ranks_calls_nested :
    let fragment : Fragment :=
      ⟨[.chain ⟨.static "X", ⟨"make", [.literal ⟨"'a'"⟩]⟩,
        [⟨"live", []⟩, ⟨"schema", [.array [.value (.chain ⟨.static "Y",
          ⟨"make", [.literal ⟨"'b'"⟩]⟩, [⟨"hidden", []⟩, ⟨"label", []⟩]⟩)]]⟩,
          ⟨"label", []⟩]⟩], .none⟩
    let maxPasses := fragment.stepLimit + 1
    let final := (standard.run maxPasses fragment).fragment
    Fragment.parse "X::make('a')->live()->schema([Y::make('b')->hidden()->label()])->label()" =
        .ok fragment ∧
      ∃ outcome : Outcome,
        standard.restyle maxPasses
            "X::make('a')->live()->schema([Y::make('b')->hidden()->label()])->label()" =
          .ok outcome ∧
        outcome.text = final.render ∧
        ∀ chain : Chain, Expr.chain chain ∈ final.items.flatMap Expr.parts →
          standard.style.isDeclaration chain = true → standard.style.IsRanked chain.rest := by
  intro fragment maxPasses final
  have h : Fragment.parse
      "X::make('a')->live()->schema([Y::make('b')->hidden()->label()])->label()" =
        .ok fragment := by decide +kernel
  have hrule : ⟨"reorder-by-category", some "Order calls by category.", 0, true, .callOrder⟩ ∈
      standard.rules := by decide +kernel
  rcases restyle_ranks_calls h hrule rfl with ⟨outcome, houtcome, htext, hranked⟩
  refine ⟨h, outcome, houtcome, htext, hranked ?_⟩
  have hfinished : (standard.run maxPasses fragment).isUnfinished = false :=
    isUnfinished_eq_false (Nat.lt_succ_self _)
  rw [← Except.ok.inj ((restyle_of_parse h _).symm.trans houtcome)]
  exact passLimit_notMem_warnings_iff.mpr hfinished

end Catalog

end FluentStyle
