import FluentStyle.Proofs.Restyle.Tally
import FluentStyle.Proofs.Rule.Section
import FluentStyle.Proofs.Tree.ReadingOrder

/-!
# Restyling with sections only

Where all rules that change something make sections, restyling drops nothing, repeats nothing and
keeps all in order.  A section stands in the place of the run of fields that it holds, and adds its
title and two calls; this is so for one step, and so for a run, step by step.
-/

namespace FluentStyle

/-!
# What a section adds

A tree gains the sections that one of its children gains, and a list with a run of fields in a
section gains that section.
-/

namespace Expr

/-- One tree reads as another one with a number of sections put into it: what is called and the
leaves are still there in their order, and there are two more calls and one more literal for each
section, and nothing else. -/
structure GainsSections (count : Nat) (a b : Expr) : Prop where
  calls : CallsWithin a b
  leaves : a.leaves.Sublist b.leaves
  length_calls : b.calls.length = a.calls.length + 2 * count
  literals : b.leaves.countP isLiteral = a.leaves.countP isLiteral + count
  others : b.leaves.filter (!isLiteral ·) = a.leaves.filter (!isLiteral ·)

variable {a b c : Expr} {first second : Nat}

theorem GainsSections.refl (expr : Expr) : GainsSections 0 expr expr where
  calls := CallsWithin.refl expr
  leaves := List.Sublist.refl _
  length_calls := rfl
  literals := rfl
  others := rfl

theorem GainsSections.trans (hab : GainsSections first a b) (hbc : GainsSections second b c) :
    GainsSections (first + second) a c where
  calls := List.Sublist.trans hab.calls hbc.calls
  leaves := hab.leaves.trans hbc.leaves
  length_calls := by
    rw [hbc.length_calls, hab.length_calls]
    omega
  literals := by
    rw [hbc.literals, hab.literals]
    omega
  others := hbc.others.trans hab.others

theorem length_calls_eq (expr : Expr) :
    expr.calls.length = expr.ownCalls.length + (callsAll expr.children).length := by
  rw [expr.calls_perm.length_eq, List.length_append]

theorem length_ownCalls_frame (expr : Expr) :
    expr.frame.ownCalls.length = expr.ownCalls.length := by
  cases expr with
  | chain c =>
      rcases c with ⟨root, first, rest⟩
      cases root <;> exact congrArg Nat.succ (List.length_map _)
  | _ => rfl

theorem GainsSections.inside {count : Nat} {child child' : Expr}
    (h : GainsSections count child child') {expr changed : Expr} {before after : List Expr}
    (frame : changed.frame = expr.frame) (children : expr.children = before ++ child :: after)
    (children' : changed.children = before ++ child' :: after) :
    GainsSections count expr changed := by
  have hmem : child ∈ expr.children := by
    rw [children]
    exact List.mem_append_right before List.mem_cons_self
  have hmem' : child' ∈ changed.children := by
    rw [children']
    exact List.mem_append_right before List.mem_cons_self
  have hleaves : expr.leaves = leavesAll before ++ (child.leaves ++ leavesAll after) := by
    rw [leaves_of_mem_children hmem, children, leavesAll_append, leavesAll_cons]
  have hleaves' : changed.leaves = leavesAll before ++ (child'.leaves ++ leavesAll after) := by
    rw [leaves_of_mem_children hmem', children', leavesAll_append, leavesAll_cons]
  constructor
  · apply CallsWithin.of_children frame.symm
    rw [children, children']
    have hsame : ∀ exprs : List Expr, List.Forall₂ CallsWithin exprs exprs :=
      fun exprs => List.forall₂_same.mpr fun expr _ => CallsWithin.refl expr
    exact List.rel_append (hsame before) (List.Forall₂.cons h.calls (hsame after))
  · rw [hleaves, hleaves']
    exact (List.Sublist.refl _).append (h.leaves.append (List.Sublist.refl _))
  · have hown : changed.ownCalls.length = expr.ownCalls.length := by
      rw [← length_ownCalls_frame, frame, length_ownCalls_frame]
    have hchild := h.length_calls
    simp only [length_calls_eq expr, length_calls_eq changed, hown, children, children',
      callsAll_append, callsAll, List.length_append]
    omega
  · have hchild := h.literals
    simp only [hleaves, hleaves', List.countP_append]
    omega
  · simp only [hleaves, hleaves', List.filter_append, h.others]

end Expr

theorem Group.leaves_wrap (group : Group) (constructor : String) (fields : List Expr) :
    (group.wrap constructor fields).leaves =
      .literal (.singleQuoted group.title) :: Expr.leavesAll fields := by
  have hliteral : (Expr.literal (.singleQuoted group.title)).leaves =
      [.literal (.singleQuoted group.title)] := by
    rw [Expr.leaves_eq]
    rfl
  have hchildren : (group.wrap constructor fields).children =
    [.literal (.singleQuoted group.title), .array (fields.map .value)] := rfl
  rw [Expr.leaves_of_mem_children (hchildren ▸ List.mem_cons_self), hchildren, Expr.leavesAll_cons,
    Expr.leavesAll_cons, hliteral, Expr.leaves_list]
  exact congrArg _ (List.append_nil _)

theorem Expr.gainsSections_sectioned {style : Conventions} {items items' : List Expr}
    (h : sectioned? style items = some items') :
    GainsSections 1 (Site.list items).toExpr (Site.list items').toExpr := by
  rcases sectioned?_eq_some h with ⟨constructor, group, cut, -, -, ⟨hitems, -, -, -⟩, rfl⟩
  have hcalls : (Site.list items).toExpr.calls =
      callsAll cut.before ++ (callsAll cut.run ++ callsAll cut.after) := by
    rw [Site.toExpr, calls_list, hitems, callsAll_append, callsAll_append]
  have hcalls' : (Site.list (cut.before ++ group.wrap constructor cut.run :: cut.after)).toExpr.calls
      = callsAll cut.before ++ ((group.wrap constructor cut.run).calls ++ callsAll cut.after) := by
    rw [Site.toExpr, calls_list, callsAll_append, callsAll]
  have hleaves : (Site.list items).toExpr.leaves =
      leavesAll cut.before ++ (leavesAll cut.run ++ leavesAll cut.after) := by
    rw [Site.toExpr, leaves_list, hitems, leavesAll_append, leavesAll_append]
  have hleaves' :
      (Site.list (cut.before ++ group.wrap constructor cut.run :: cut.after)).toExpr.leaves =
        leavesAll cut.before ++
          (.literal (.singleQuoted group.title) :: leavesAll cut.run ++ leavesAll cut.after) := by
    rw [Site.toExpr, leaves_list, leavesAll_append, leavesAll_cons, Group.leaves_wrap]
  constructor
  · unfold CallsWithin
    rw [hcalls, hcalls', Group.calls_wrap]
    simp only [Call.names_append, Call.names_cons]
    refine (List.Sublist.refl _).append (List.Sublist.append ?_ (List.Sublist.refl _))
    exact ((List.Sublist.refl _).cons _).cons _
  · rw [hleaves, hleaves']
    refine (List.Sublist.refl _).append (List.Sublist.append ?_ (List.Sublist.refl _))
    exact (List.Sublist.refl _).cons _
  · rw [hcalls, hcalls', Group.calls_wrap]
    simp only [List.length_append, List.length_cons]
    omega
  · rw [hleaves, hleaves']
    simp only [List.countP_append, List.countP_cons, isLiteral, if_true]
    omega
  · rw [hleaves, hleaves']
    simp only [List.filter_append, List.filter_cons, isLiteral, Bool.not_true, Bool.false_eq_true,
      if_false]

/-!
# Steps and runs
-/

namespace Expr

variable {style : Conventions} {rules : List Rule}

theorem Step.gainsSections (hkind : ∀ rule ∈ rules, rule.kind = .sections)
    {rule : Rule} {a b : Expr}
    (step : Step style rules rule a b) : GainsSections 1 a b := by
  induction step with
  | here mem proposed _ =>
      cases (Rule.proposal?_iff_makes (hkind _ mem)).mp proposed with
      | sections hmade => exact gainsSections_sectioned hmade
  | inside frame children children' _ ih => exact ih.inside frame children children'

theorem Steps.gainsSections (hkind : ∀ rule ∈ rules, rule.kind = .sections) {done : List Rule}
    {a b : Expr} (steps : Steps style rules done a b) : GainsSections done.length a b := by
  induction steps with
  | refl expr => exact GainsSections.refl expr
  | cons step _ ih =>
      rw [List.length_cons, Nat.add_comm]
      exact (step.gainsSections hkind).trans ih

end Expr

theorem Fragment.leaves_root (fragment : Fragment) : fragment.root.leaves = fragment.leaves :=
  Expr.leaves_list fragment.items

namespace Catalog

/-- Where all rules that change something make sections, the names called in the tree that was read
are called in the final tree in the same order, and its literals, numbers, constants and variables
stand in it in the same order.  The final tree has two more calls and one more literal for each
rule applied, and no other leaf more. -/
theorem restyle_sections_only {catalog : Catalog} {maxPasses : Nat} {source : String}
    {fragment : Fragment} (h : Fragment.parse source = .ok fragment)
    (hkind : ∀ rule ∈ catalog.rules, rule.isAdvisory = false → rule.kind = .sections) :
    let final := (catalog.run maxPasses fragment).fragment
    ∃ outcome : Outcome, catalog.restyle maxPasses source = .ok outcome ∧
      outcome.text = final.render ∧
      (fragment.calls.map (·.name)).Sublist (final.calls.map (·.name)) ∧
      fragment.leaves.Sublist final.leaves ∧
      final.calls.length = fragment.calls.length + 2 * outcome.applied.length ∧
      final.leaves.countP Expr.isLiteral =
        fragment.leaves.countP Expr.isLiteral + outcome.applied.length ∧
      final.leaves.filter (!Expr.isLiteral ·) = fragment.leaves.filter (!Expr.isLiteral ·) := by
  intro final
  refine ⟨catalog.restyleFragment maxPasses fragment, restyle_of_parse h maxPasses, rfl, ?_⟩
  have hchanging : ∀ rule ∈ catalog.changingRules, rule.kind = .sections := by
    intro rule hrule
    rcases mem_changingRules.mp hrule with ⟨hmem, hadvisory⟩
    exact hkind rule hmem hadvisory
  rcases Run.repeatPasses_steps catalog.style catalog.changingRules (max maxPasses 1) fragment with
    ⟨done, happlied, hsteps⟩
  have hlength : (catalog.restyleFragment maxPasses fragment).applied.length = done.length := by
    show (catalog.run maxPasses fragment).applied.length = done.length
    rw [run, happlied, List.length_map]
  have hgains := hsteps.gainsSections hchanging
  rw [hlength, ← Fragment.calls_root, ← Fragment.calls_root, ← Fragment.leaves_root,
    ← Fragment.leaves_root]
  exact ⟨hgains.calls, hgains.leaves, hgains.length_calls, hgains.literals, hgains.others⟩

/-- Fields of an inner list and of the outer one, each of which become a section. -/
theorem restyle_sections_only_nested :
    let catalog : Catalog :=
      ⟨{ Config.standard with
        groups := [⟨"A", "Section", "schema", .startsWith "a_", 2⟩]
        rules := [⟨"group", none, 0, false, .sections⟩] }, by decide +kernel⟩
    let field (name : String) : Expr := .chain ⟨.static "X", ⟨"make", [.literal ⟨name⟩]⟩, []⟩
    let source := "X::make('a_1'), X::make('a_2'), [X::make('a_3'), X::make('a_4'), $b]"
    let fragment : Fragment :=
      ⟨[field "'a_1'", field "'a_2'", .array [.value (field "'a_3'"), .value (field "'a_4'"),
        .value (.variable "$b")]], .none⟩
    let final := (catalog.run 16 fragment).fragment
    Fragment.parse source = .ok fragment ∧
      (∀ rule ∈ catalog.rules, rule.isAdvisory = false → rule.kind = .sections) ∧
      ∃ outcome : Outcome, catalog.restyle 16 source = .ok outcome ∧
        outcome.applied = ["group", "group"] ∧
        (fragment.calls.map (·.name)).Sublist (final.calls.map (·.name)) ∧
        fragment.leaves.Sublist final.leaves ∧
        final.calls.length = fragment.calls.length + 4 := by
  intro catalog field source fragment final
  have h : Fragment.parse source = .ok fragment := by decide +kernel
  have hkind : ∀ rule ∈ catalog.rules, rule.isAdvisory = false → rule.kind = .sections := by
    intro rule hrule _
    rw [List.mem_singleton.mp hrule]
  have happlied : (catalog.run 16 fragment).applied = ["group", "group"] := by decide +kernel
  rcases @restyle_sections_only catalog 16 source fragment h hkind with
    ⟨outcome, houtcome, -, hnames, hleaves, hlength, -, -⟩
  have heq : catalog.restyleFragment 16 fragment = outcome :=
    Except.ok.inj ((restyle_of_parse h 16).symm.trans houtcome)
  rw [← heq] at hlength houtcome
  refine ⟨h, hkind, catalog.restyleFragment 16 fragment, houtcome, happlied, hnames, hleaves, ?_⟩
  rw [hlength]
  exact congrArg (fragment.calls.length + 2 * ·) (congrArg List.length happlied)

end Catalog

end FluentStyle
