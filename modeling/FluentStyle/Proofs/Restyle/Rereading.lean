import FluentStyle.Proofs.Grammar.RoundTrip
import FluentStyle.Proofs.Restyle.AtRest
import FluentStyle.Proofs.Rule.Wellformed
import FluentStyle.Catalog.Standard

/-!
# Reading restyled texts

Restyling keeps a tree well formed, so its text is read back just if nothing stands behind an arrow
function that would be read as a part of its body, and the tree is not nested too deep.  Both can
happen: an arrow function takes the place of a block closure wherever that stands, and a section
adds levels.
-/

namespace FluentStyle

/-!
# Steps keep trees well formed
-/

theorem Stmt.isSpelled_frame : (stmts : List Stmt) →
    Stmt.isSpelled (Stmt.frame stmts) = Stmt.isSpelled stmts
  | [] => by rw [Stmt.frame]
  | .leave :: rest | .give _ :: rest | .expr _ :: rest | .assign _ _ :: rest => by
      simp only [Stmt.frame, Stmt.isSpelled, Stmt.isSpelled_frame rest]
  | .when _ yes :: rest => by
      simp only [Stmt.frame, Stmt.isSpelled, Stmt.isSpelled_frame yes, Stmt.isSpelled_frame rest]
  | .choose _ yes no :: rest => by
      simp only [Stmt.frame, Stmt.isSpelled, Stmt.isSpelled_frame yes, Stmt.isSpelled_frame no,
        Stmt.isSpelled_frame rest]

namespace Expr

variable {style : Conventions} {rules : List Rule}

theorem strength_frame (expr : Expr) : expr.frame.strength = expr.strength := by
  cases expr <;> rfl

theorem isSpelled_frame (expr : Expr) : expr.frame.isSpelled = expr.isSpelled := by
  have hcalls : ∀ calls : List Call,
      (calls.map Call.frame).all Call.isSpelled = calls.all Call.isSpelled := by
    intro calls
    rw [List.all_map]
    rfl
  cases expr with
  | closure c =>
      cases c with
      | arrow params body => rfl
      | block params captures body =>
          simp only [frame, Closure.frame, isSpelled, Stmt.isSpelled_frame]
  | chain c =>
      rcases c with ⟨root, first, rest⟩
      cases root <;> simp only [frame, Chain.frame, isSpelled, Chain.isSpelled, hcalls] <;> rfl
  | _ => rfl

/-- How firmly the first children of the expression have to hold together. -/
def holds : Expr → List Nat
  | .unary _ _ => [10]
  | .binary op _ _ => [op.precedence, op.precedence + 1]
  | .ternary _ _ _ | .elvis _ _ => [1]
  | .property _ _ => [11]
  | .chain ⟨.receiver _, _, _⟩ => [12]
  | _ => []

theorem holds_frame (expr : Expr) : expr.frame.holds = expr.holds := by
  cases expr with
  | chain c =>
      rcases c with ⟨root, first, rest⟩
      cases root <;> rfl
  | _ => rfl

theorem grouped_iff {expr : Expr} :
    expr.Grouped ↔ ∀ pair ∈ expr.holds.zip (expr.children.map strength), pair.1 ≤ pair.2 := by
  cases expr with
  | chain c =>
      rcases c with ⟨root, first, rest⟩
      cases root <;> simp [Grouped, holds, children, Chain.children]
  | binary op lhs rhs =>
      simp only [Grouped, holds, children, List.map_cons, List.map_nil, List.zip_cons_cons,
        List.zip_nil_left, List.forall_mem_cons, List.not_mem_nil, false_implies, implies_true,
        and_true, Nat.succ_le_iff]
  | ternary condition yes no => simp [Grouped, holds, children, Nat.succ_le_iff]
  | elvis condition no => simp [Grouped, holds, children, Nat.succ_le_iff]
  | _ => simp [Grouped, holds, children]

theorem Step.strength_eq {rule : Rule} {a b : Expr} (step : Step style rules rule a b) :
    b.strength = a.strength := by
  cases step with
  | here mem proposed accepted => exact Rule.strength_proposal? proposed
  | inside frame children children' step =>
      rw [← strength_frame, frame, strength_frame]

/-- A step keeps a tree well formed. -/
theorem Step.wellformed (hstyle : style.isSpelled = true) {rule : Rule} {a b : Expr}
    (step : Step style rules rule a b) (h : a.Wellformed) : b.Wellformed := by
  induction step with
  | here mem proposed accepted => exact Rule.wellformed_proposal? hstyle proposed h
  | @inside expr changed child child' before after frame children children' step ih =>
      rcases wellformed_iff.mp h with ⟨⟨hspelled, hgrouped⟩, hchildren⟩
      rw [children] at hchildren
      rcases List.forall_mem_append.mp hchildren with ⟨hbefore, hothers⟩
      rcases List.forall_mem_cons.mp hothers with ⟨hchild, hafter⟩
      refine wellformed_iff.mpr ⟨⟨?_, ?_⟩, ?_⟩
      · rw [← isSpelled_frame, frame, isSpelled_frame]
        exact hspelled
      · rw [grouped_iff] at hgrouped ⊢
        rw [← holds_frame, frame, holds_frame]
        rw [children, List.map_append, List.map_cons] at hgrouped
        rw [children', List.map_append, List.map_cons, step.strength_eq]
        exact hgrouped
      · rw [children']
        exact List.forall_mem_append.mpr
          ⟨hbefore, List.forall_mem_cons.mpr ⟨ih hchild, hafter⟩⟩

def IsFilledArray (expr : Expr) : Prop :=
  (∃ items : List ArrayItem, expr = .array items) ∧ expr.children ≠ []

theorem sectioned?_ne_nil {items items' : List Expr}
    (h : Expr.sectioned? style items = some items') : items' ≠ [] := by
  rcases Expr.sectioned?_eq_some h with ⟨constructor, group, cut, -, -, -, rfl⟩
  simp

theorem Step.isFilledArray {rule : Rule} {a b : Expr} (step : Step style rules rule a b)
    (h : a.IsFilledArray) : b.IsFilledArray := by
  rcases h with ⟨⟨items, hitems⟩, -⟩
  cases step with
  | here mem proposed accepted =>
      rcases Rule.makes_of_proposal? proposed with ⟨kind, -, hmakes⟩
      cases hmakes with
      | @sections exprs made hmade =>
          refine ⟨⟨_, rfl⟩, ?_⟩
          show (Expr.array (made.map .value)).children ≠ []
          rw [children_list]
          exact sectioned?_ne_nil hmade
      | _ => cases hitems
  | inside frame children children' step =>
      subst hitems
      constructor
      · cases b with
        | array items' => exact ⟨items', rfl⟩
        | _ => cases frame
      · rw [children']
        simp

end Expr

/-!
# Legible fragments

Steps from the list of items of a readable fragment lead to well-formed items, and to some.
-/

namespace Fragment

/-- No arrow function in the fragment has something behind it that its body would take in, and no
item is nested too deep. -/
def IsLegible (fragment : Fragment) : Prop :=
  ∀ item ∈ fragment.items, (∀ part ∈ item.parts, part.Closed) ∧ item.nesting < nestingLimit

theorem readable_iff_isLegible {fragment : Fragment} (hitems : fragment.items ≠ [])
    (h : ∀ item ∈ fragment.items, item.Wellformed) : fragment.Readable ↔ fragment.IsLegible := by
  constructor
  · rintro ⟨-, hreadable, hnesting⟩ item hitem
    exact ⟨(Expr.readable_iff_wellformed.mp (hreadable item hitem)).2, hnesting item hitem⟩
  · intro hlegible
    refine ⟨hitems, fun item hitem => ?_, fun item hitem => (hlegible item hitem).2⟩
    exact Expr.readable_iff_wellformed.mpr ⟨h item hitem, (hlegible item hitem).1⟩

theorem wellformed_of_steps {style : Conventions} {rules done : List Rule}
    {fragment changed : Fragment} (hstyle : style.isSpelled = true) (h : fragment.Readable)
    (hsteps : Expr.Steps style rules done fragment.root changed.root) :
    changed.items ≠ [] ∧ ∀ item ∈ changed.items, item.Wellformed := by
  have hwellformed : fragment.root.Wellformed := Expr.wellformed_list.mpr fun item hitem =>
    (Expr.readable_iff_wellformed.mp (h.readable item hitem)).1
  have hfilled : fragment.root.IsFilledArray := by
    refine ⟨⟨_, rfl⟩, ?_⟩
    rw [children_root]
    exact h.nonempty
  constructor
  · rw [← children_root]
    exact (hsteps.invariant Expr.Step.isFilledArray hfilled).2
  · exact Expr.wellformed_list.mp (hsteps.invariant (Expr.Step.wellformed hstyle) hwellformed)

end Fragment

namespace Catalog

theorem isSpelled_standard : standard.style.isSpelled = true := rfl

theorem restyleFragment_of_atRest {catalog : Catalog} {fragment : Fragment} (maxPasses : Nat)
    (h : fragment.root.AtRest catalog.style catalog.changingRules) :
    (catalog.restyleFragment maxPasses fragment).text = fragment.render ∧
      (catalog.restyleFragment maxPasses fragment).applied = [] := by
  have hquiet := Fragment.passApplied_eq_nil_iff.mpr h
  have hsame := Fragment.pass_eq_of_quiet hquiet
  obtain ⟨allowed, hallowed⟩ : ∃ allowed : Nat, max maxPasses 1 = allowed + 1 :=
    ⟨max maxPasses 1 - 1, by omega⟩
  have hrun : catalog.run maxPasses fragment =
      ⟨fragment, (fragment.pass catalog.style catalog.changingRules).2, 1, false⟩ := by
    unfold run
    rw [hallowed, Run.repeatPasses]
    simp only [Fragment.anyApplied_eq_false.mpr hquiet, Bool.false_eq_true, if_false, hsame]
  unfold restyleFragment
  rw [hrun]
  exact ⟨rfl, hquiet⟩

/-- The text that the standard catalog gives is read into the final tree just if that tree is
legible.  In this case, and unless the limit on passes is reported, restyling the text once more
applies nothing and gives the same text. -/
theorem restyled_text_parses_iff {maxPasses : Nat} {source : String} {fragment : Fragment}
    (h : Fragment.parse source = .ok fragment) :
    let final := (standard.run maxPasses fragment).fragment
    ∃ outcome : Outcome, standard.restyle maxPasses source = .ok outcome ∧
      outcome.text = final.render ∧
      (Fragment.parse outcome.text = .ok final ↔ final.IsLegible) ∧
      (final.IsLegible → (∀ passes : Nat, Warning.passLimit passes ∉ outcome.warnings) →
        ∀ again : Nat, ∃ second : Outcome, standard.restyle again outcome.text = .ok second ∧
          second.text = outcome.text ∧ second.applied = []) := by
  intro final
  rcases Run.repeatPasses_steps standard.style standard.changingRules
      (max maxPasses 1) fragment with
    ⟨done, -, hsteps⟩
  rcases Fragment.wellformed_of_steps isSpelled_standard (Fragment.readable_of_parse h) hsteps with
    ⟨hitems, hwellformed⟩
  have hlegible : Fragment.parse final.render = .ok final ↔ final.IsLegible :=
    Fragment.parse_render_iff.trans (Fragment.readable_iff_isLegible hitems hwellformed)
  refine ⟨standard.restyleFragment maxPasses fragment, restyle_of_parse h maxPasses, rfl, hlegible,
    ?_⟩
  intro hfinal hsilent again
  have hrest := atRest_of_no_passLimit hsilent
  rcases restyleFragment_of_atRest again hrest with ⟨htext, happlied⟩
  have hparse : Fragment.parse (standard.restyleFragment maxPasses fragment).text = .ok final :=
    hlegible.mpr hfinal
  exact ⟨standard.restyleFragment again final, restyle_of_parse hparse again, htext, happlied⟩

/-- A block closure on which a method is called becomes an arrow function there. -/
theorem restyled_text_parses_iff_receiver :
    let fragment : Fragment :=
      ⟨[.chain ⟨.static "X", ⟨"make", [.literal ⟨"'a'"⟩]⟩,
        [⟨"hidden", [.chain ⟨.receiver (.closure (.block [] []
          [.give (.unary .not (.number "1"))])), ⟨"foo", []⟩, []⟩]⟩]⟩], .none⟩
    let final := (standard.run 16 fragment).fragment
    Fragment.parse "X::make('a')->hidden(function () { return !1; }->foo())" = .ok fragment ∧
      ∃ outcome : Outcome,
        standard.restyle 16 "X::make('a')->hidden(function () { return !1; }->foo())" =
          .ok outcome ∧
        (Fragment.parse outcome.text = .ok final ↔ final.IsLegible) := by
  intro fragment final
  have h : Fragment.parse "X::make('a')->hidden(function () { return !1; }->foo())" =
      .ok fragment := by decide +kernel
  rcases restyled_text_parses_iff h with ⟨outcome, houtcome, -, hlegible, -⟩
  exact ⟨h, outcome, houtcome, hlegible⟩

theorem byPrecedence_standard : standard.byPrecedence = standard.rules :=
  List.mergeSort_of_pairwise (by decide)

/-- An arrow function takes in the call that stood behind the block closure.  The text is read into
another tree than the one that it was written from, and there one rule more applies. -/
theorem restyled_text_reads_otherwise :
    let source := "function () { return X::make(); }->live(true)"
    ∃ (fragment : Fragment) (outcome second : Outcome),
      Fragment.parse source = .ok fragment ∧ standard.restyle 16 source = .ok outcome ∧
        Fragment.parse outcome.text ≠ .ok (standard.run 16 fragment).fragment ∧
        (∀ passes : Nat, Warning.passLimit passes ∉ outcome.warnings) ∧
        standard.restyle 16 outcome.text = .ok second ∧ second.text ≠ outcome.text ∧
        second.applied = ["bare-boolean-flag"] := by
  intro source
  let declaration (calls : List Call) : Expr := .chain ⟨.static "X", ⟨"make", []⟩, calls⟩
  let live : Call := ⟨"live", [.constant "true"]⟩
  let called (closure : Closure) : Fragment :=
    ⟨[.chain ⟨.receiver (.closure closure), live, []⟩], .none⟩
  let before := called (.block [] [] [.give (declaration [])])
  let after := called (.arrow [] (declaration []))
  let reread : Fragment := ⟨[.closure (.arrow [] (declaration [live]))], .none⟩
  have hbefore : Fragment.parse source = .ok before := by decide +kernel
  have hpass : before.pass standard.style standard.changingRules =
      (after, [.applied "closure-to-expression"]) := by
    have hweight : before.weight = 16 := by decide +kernel
    rw [Fragment.pass, hweight, changingRules, byPrecedence_standard]
    -- The statements of a block are visited by well-founded recursion, at which the kernel gets
    -- stuck, so the visit is opened as far as to the value that the block returns.
    simp only [before, called, Walk.visitItems, List.mapM_cons, List.mapM_nil, Walk.visit,
      Site.ofExpr?, Site.mapChildrenM, Chain.mapChildrenM, Closure.mapChildrenM, Stmt.mapChildrenM]
    decide +kernel
  have hrun : (standard.run 16 before).fragment = after ∧
      (standard.run 16 before).isUnfinished = false := by
    rw [run, show max 16 1 = 15 + 1 from rfl, Run.repeatPasses, hpass, changingRules,
      byPrecedence_standard]
    decide +kernel
  rcases hrun with ⟨hafter, hfinished⟩
  have hreread : Fragment.parse after.render = .ok reread := by decide +kernel
  have hagain : (standard.run 16 reread).applied = ["bare-boolean-flag"] ∧
      (standard.run 16 reread).fragment.render ≠ after.render := by
    rw [run, changingRules, byPrecedence_standard]
    decide +kernel
  have htext : (standard.restyleFragment 16 before).text = after.render :=
    congrArg Fragment.render hafter
  refine ⟨before, standard.restyleFragment 16 before, standard.restyleFragment 16 reread, hbefore,
    restyle_of_parse hbefore 16, ?_, passLimit_notMem_warnings_iff.mpr hfinished, ?_, ?_, hagain.1⟩
  · rw [htext, hreread, hafter]
    decide +kernel
  · rw [htext]
    exact restyle_of_parse hreread 16
  · rw [htext]
    exact hagain.2

end Catalog

end FluentStyle
