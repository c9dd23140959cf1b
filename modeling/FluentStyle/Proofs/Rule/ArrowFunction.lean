import FluentStyle.Proofs.Rule.Exchange

/-!
# Arrow functions inside one another

Writing the closures inside an expression as arrow functions adds at most `$this` to the variables
that the expression reads from the scope around it.  So a block closure can be written as an arrow
function after its parts just if it can before, and a site and the proposal to write it as an arrow
function are the same once all closures are arrow functions.
-/

namespace FluentStyle

/-!
# Variables and children

But for closures, an expression reads what its children read and, if it is a variable or the call of
one, that variable.
-/

namespace Expr

def ownVariables : Expr → List String
  | .variable name => [name]
  | .chain ⟨.function, first, _⟩ => if first.name.toList.head? = some '$' then [first.name] else []
  | _ => []

theorem ownVariables_frame (expr : Expr) : expr.frame.ownVariables = expr.ownVariables := by
  cases expr with
  | chain c =>
      rcases c with ⟨root, first, rest⟩
      cases root <;> rfl
  | _ => rfl

theorem freeVariablesAll_eq (exprs : List Expr) :
    freeVariablesAll exprs = exprs.flatMap freeVariables := by
  induction exprs with
  | nil => rfl
  | cons expr exprs ih => rw [freeVariablesAll, ih, List.flatMap_cons]

end Expr

theorem ArrayItem.freeVariables_eq (items : List ArrayItem) :
    ArrayItem.freeVariables items =
      (items.flatMap ArrayItem.children).flatMap Expr.freeVariables := by
  induction items with
  | nil => rfl
  | cons item items ih =>
      cases item <;>
        simp only [ArrayItem.freeVariables, ArrayItem.children, List.flatMap_cons,
          List.flatMap_append, List.flatMap_nil, List.append_nil, List.append_assoc, ih]

theorem Call.freeVariables_eq (calls : List Call) :
    Call.freeVariables calls = (calls.flatMap (·.args)).flatMap Expr.freeVariables := by
  induction calls with
  | nil => rfl
  | cons call calls ih =>
      rcases call with ⟨name, args⟩
      rw [Call.freeVariables, List.flatMap_cons, List.flatMap_append, ih, Expr.freeVariablesAll_eq]

namespace Expr

theorem freeVariables_eq {expr : Expr} (h : ∀ closure : Closure, expr ≠ .closure closure) :
    expr.freeVariables = expr.ownVariables ++ expr.children.flatMap freeVariables := by
  cases expr with
  | closure c => exact absurd rfl (h c)
  | array items => exact ArrayItem.freeVariables_eq items
  | chain c =>
      rcases c with ⟨root, ⟨name, args⟩, rest⟩
      cases root <;>
        simp only [freeVariables, ownVariables, children, Chain.children, List.flatMap_cons,
          List.flatMap_append, freeVariablesAll_eq, Call.freeVariables_eq, List.nil_append]
  | _ =>
      simp only [freeVariables, ownVariables, children, List.flatMap_cons, List.flatMap_nil,
        List.append_nil, List.nil_append]

/-- What holds of closures if it holds inside them, and of other expressions if it holds of their
children, holds of all expressions. -/
theorem closure_induction {P : Expr → Prop}
    (other : ∀ expr : Expr, (∀ closure : Closure, expr ≠ .closure closure) →
      (∀ child ∈ expr.children, P child) → P expr)
    (arrow : ∀ (params : List Param) (body : Expr), P body → P (.closure (.arrow params body)))
    (block : ∀ (params : List Param) (captures : List Capture) (body : List Stmt),
      (∀ child ∈ Stmt.children body, P child) → P (.closure (.block params captures body)))
    (expr : Expr) : P expr := by
  induction expr using children_induction with
  | h expr ih =>
      cases expr with
      | closure closure =>
          cases closure with
          | arrow params body => exact arrow params body (ih body List.mem_cons_self)
          | block params captures body => exact block params captures body ih
      | _ => exact other _ (fun _ => Expr.noConfusion) ih

theorem ne_closure_of_frame {a b : Expr} (hframe : a.frame = b.frame)
    (h : ∀ closure : Closure, b ≠ .closure closure) (closure : Closure) : a ≠ .closure closure := by
  rintro rfl
  cases b with
  | closure c => exact h c rfl
  | _ => cases hframe

end Expr

/-!
# Variables of arrow functions

Of the variables of the scope around it, an arrow function that can take the place of a block
closure reads none but `$this`.
-/

namespace Closure

theorem eq_this_of_toArrow? {closure changed : Closure} (h : closure.toArrow? = some changed)
    {name : String} (hname : name ∈ (Expr.closure changed).freeVariables) : name = "$this" := by
  rcases toArrow?_eq_some_iff.mp h with ⟨params, value, rfl, hread, rfl⟩
  rw [Expr.freeVariables, List.mem_filter, Bool.not_eq_true'] at hname
  exact hread name hname.1 hname.2

end Closure

namespace Expr

/-- Writing the closures in an expression as arrow functions adds no variable but `$this`. -/
theorem mem_freeVariables_map_arrowed {expr : Expr} {name : String}
    (h : name ∈ (expr.map arrowed).freeVariables) : name ∈ expr.freeVariables ∨ name = "$this" := by
  induction expr using closure_induction generalizing name with
  | other expr hclosure ih =>
      rcases expr.mapInside_spec arrowed with ⟨hframe, hchildren⟩
      have hinner := ne_closure_of_frame hframe hclosure
      have hkept : (expr.mapInside arrowed).arrowed = expr.mapInside arrowed := by
        cases hcase : expr.mapInside arrowed with
        | closure c => exact absurd hcase (hinner c)
        | _ => rfl
      rw [map_eq, hkept, freeVariables_eq hinner, ← ownVariables_frame, hframe,
        ownVariables_frame, hchildren, List.flatMap_map, List.mem_append, List.mem_flatMap] at h
      rw [freeVariables_eq hclosure, List.mem_append, List.mem_flatMap]
      rcases h with hown | ⟨child, hchild, hname⟩
      · exact Or.inl (Or.inl hown)
      · rcases ih child hchild hname with hname | hthis
        · exact Or.inl (Or.inr ⟨child, hchild, hname⟩)
        · exact Or.inr hthis
  | arrow params body ih =>
      change name ∈ (Expr.closure (.arrow params (body.map arrowed))).freeVariables at h
      rw [freeVariables, List.mem_filter] at h ⊢
      rcases ih h.1 with hname | hthis
      · exact Or.inl ⟨hname, h.2⟩
      · exact Or.inr hthis
  | block params captures body =>
      -- A block that stays one reads what it captures; one that does not captures nothing.
      change name ∈ (Expr.closure
        (Closure.block params captures (Stmt.mapAll arrowed body)).arrowed).freeVariables at h
      rw [Closure.arrowed] at h
      cases harrow : (Closure.block params captures (Stmt.mapAll arrowed body)).toArrow? with
      | none =>
          rw [harrow] at h
          exact Or.inl h
      | some changed =>
          rw [harrow] at h
          exact Or.inr (Closure.eq_this_of_toArrow? harrow h)

end Expr

/-!
# Proposals
-/

namespace Closure

/-- A block closure and the arrow function for it are the same once all closures in them are written
as arrow functions. -/
theorem map_arrowed_of_toArrow? {closure changed : Closure} (h : closure.toArrow? = some changed) :
    (Expr.closure changed).map Expr.arrowed = (Expr.closure closure).map Expr.arrowed := by
  rcases toArrow?_eq_some_iff.mp h with ⟨params, value, rfl, hread, rfl⟩
  have harrow : (Closure.block params [] [.give (value.map Expr.arrowed)]).toArrow? =
      some (.arrow params (value.map Expr.arrowed)) := by
    refine toArrow?_eq_some_iff.mpr ⟨params, _, rfl, ?_, rfl⟩
    intro name hname hfree
    rcases Expr.mem_freeVariables_map_arrowed hname with hname | hthis
    · exact hread name hname hfree
    · exact hthis
  change _ = Expr.closure
    (Closure.block params [] (Stmt.mapAll Expr.arrowed [.give value])).arrowed
  rw [Stmt.mapAll, Stmt.mapAll, Closure.arrowed, harrow]
  rfl

end Closure

end FluentStyle
