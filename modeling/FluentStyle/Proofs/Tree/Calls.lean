import FluentStyle.Proofs.Tree.Parts
import FluentStyle.Rule.ArrowFunction
import FluentStyle.Tree.Site

/-!
# The calls of a tree

The calls of an expression are its own, if it is a chain, and those of its children.  The names of
its own calls stand in its frame, so a change that keeps the frame of an expression and the number
of calls with a name in its children keeps that number.  Writing closures as arrow functions is such
a change.
-/

namespace FluentStyle

/-!
# Own calls and those of the children
-/

def Expr.ownCalls : Expr → List Call
  | .chain c => c.calls
  | _ => []

theorem Expr.callsAll_append (as bs : List Expr) :
    Expr.callsAll (as ++ bs) = Expr.callsAll as ++ Expr.callsAll bs := by
  rw [callsAll_eq_flatMap, callsAll_eq_flatMap, callsAll_eq_flatMap, List.flatMap_append]

theorem Expr.callsAll_perm {as bs : List Expr} (h : as.Perm bs) :
    (Expr.callsAll as).Perm (Expr.callsAll bs) := by
  rw [callsAll_eq_flatMap, callsAll_eq_flatMap]
  exact h.flatMap_right Expr.calls

theorem ArrayItem.calls_eq (items : List ArrayItem) :
    ArrayItem.calls items = Expr.callsAll (items.flatMap ArrayItem.children) := by
  induction items with
  | nil => rfl
  | cons item items ih =>
      cases item <;>
        simp only [List.flatMap_cons, children, calls, ih, Expr.callsAll_append, Expr.callsAll,
          List.append_nil, List.append_assoc]

theorem Stmt.calls_eq : (stmts : List Stmt) →
    Stmt.calls stmts = Expr.callsAll (Stmt.children stmts)
  | [] => by simp only [Stmt.calls, Stmt.children, Expr.callsAll]
  | .leave :: rest => by simp only [Stmt.calls, Stmt.children, Stmt.calls_eq rest]
  | .give _ :: rest | .expr _ :: rest | .assign _ _ :: rest => by
      simp only [Stmt.calls, Stmt.children, Expr.callsAll, Stmt.calls_eq rest]
  | .when _ yes :: rest => by
      simp only [Stmt.calls, Stmt.children, Expr.callsAll, Expr.callsAll_append,
        Stmt.calls_eq yes, Stmt.calls_eq rest]
  | .choose _ yes no :: rest => by
      simp only [Stmt.calls, Stmt.children, Expr.callsAll, Expr.callsAll_append,
        Stmt.calls_eq yes, Stmt.calls_eq no, Stmt.calls_eq rest]

theorem Call.callsAll_perm (calls : List Call) :
    (Call.callsAll calls).Perm (calls ++ Expr.callsAll (calls.flatMap (·.args))) := by
  induction calls with
  | nil => exact List.Perm.refl _
  | cons call calls ih =>
      rcases call with ⟨name, args⟩
      rw [Call.callsAll, List.flatMap_cons, Expr.callsAll_append, List.cons_append]
      refine List.Perm.cons _ ((ih.append_left _).trans ?_)
      rw [← List.append_assoc, ← List.append_assoc]
      exact List.perm_append_comm.append_right _

theorem Expr.calls_perm (expr : Expr) :
    expr.calls.Perm (expr.ownCalls ++ Expr.callsAll expr.children) := by
  cases expr with
  | array items =>
      rw [Expr.calls, ArrayItem.calls_eq]
      exact List.Perm.refl _
  | closure c =>
      cases c with
      | arrow params body =>
          rw [Expr.calls, children, Closure.children, callsAll, callsAll, List.append_nil]
          exact List.Perm.refl _
      | block params captures body =>
          rw [Expr.calls, Stmt.calls_eq]
          exact List.Perm.refl _
  | chain c =>
      rcases c with ⟨root, ⟨name, args⟩, rest⟩
      have hcalls := Call.callsAll_perm (⟨name, args⟩ :: rest)
      rw [Call.callsAll, List.flatMap_cons] at hcalls
      cases root with
      | static className => exact hcalls
      | function => exact hcalls
      | receiver object =>
          rw [Expr.calls, children, Chain.children, callsAll]
          refine (hcalls.append_left object.calls).trans ?_
          rw [← List.append_assoc, ← List.append_assoc]
          exact List.perm_append_comm.append_right _
  | _ => simp [Expr.calls, ownCalls, children, callsAll]

theorem Expr.calls_list (items : List Expr) :
    (Expr.array (items.map .value)).calls = Expr.callsAll items := by
  rw [Expr.calls, ArrayItem.calls_eq]
  exact congrArg Expr.callsAll (Expr.children_list items)

namespace Site

theorem calls_toExpr (site : Site) : site.toExpr.calls = site.calls := by
  cases site with
  | list items => exact Expr.calls_list items
  | _ => rfl

theorem calls_ofItems (items : List Expr) : (ofItems items).calls = Expr.callsAll items := by
  unfold ofItems
  split
  · exact (List.append_nil _).symm
  · exact (List.append_nil _).symm
  · rfl

end Site

def Fragment.calls (fragment : Fragment) : List Call :=
  Expr.callsAll fragment.items

/-!
# The calls of a chain

The calls of a chain at every depth are those of its calls after the first and others that do not
depend on these.
-/

namespace Call

theorem callsAll_append (as bs : List Call) : callsAll (as ++ bs) = callsAll as ++ callsAll bs := by
  induction as with
  | nil => rfl
  | cons call as ih =>
      rcases call with ⟨name, args⟩
      simp only [List.cons_append, callsAll, ih, List.append_assoc]

theorem callsAll_cons (call : Call) (calls : List Call) :
    callsAll (call :: calls) = call :: (Expr.callsAll call.args ++ callsAll calls) := by
  rcases call with ⟨name, args⟩
  rw [callsAll]

theorem callsAll_singleton (call : Call) : callsAll [call] = call :: Expr.callsAll call.args := by
  rw [callsAll_cons, callsAll, List.append_nil]

theorem callsAll_perm_of_perm {as bs : List Call} (h : as.Perm bs) :
    (callsAll as).Perm (callsAll bs) := by
  have hargs := Expr.callsAll_perm (h.flatMap_right (·.args))
  exact (callsAll_perm as).trans ((h.append hargs).trans (callsAll_perm bs).symm)

theorem callsAll_of_args {calls : List Call} (h : ∀ call ∈ calls, Expr.callsAll call.args = []) :
    callsAll calls = calls := by
  induction calls with
  | nil => rfl
  | cons call calls ih =>
      rw [callsAll_cons, h call List.mem_cons_self,
        ih fun other hother => h other (List.mem_cons_of_mem call hother), List.nil_append]

end Call

namespace Chain

theorem exists_calls_eq (chain : Chain) :
    ∃ front : List Call, ∀ rest : List Call,
      (Expr.chain { chain with rest }).calls = front ++ Call.callsAll rest := by
  rcases chain with ⟨root, ⟨name, args⟩, calls⟩
  cases root with
  | receiver object =>
      refine ⟨object.calls ++ ⟨name, args⟩ :: Expr.callsAll args, fun rest => ?_⟩
      simp only [Expr.calls, List.append_assoc, List.cons_append]
  | _ => exact ⟨⟨name, args⟩ :: Expr.callsAll args, fun rest => rfl⟩

/-- A chain calls what some of its calls after the first call and what it calls without them. -/
theorem calls_perm_without (chain : Chain) {calls others : List Call}
    (h : chain.rest.Perm (calls ++ others)) :
    (Expr.chain chain).calls.Perm
      (Call.callsAll calls ++ (Expr.chain { chain with rest := others }).calls) := by
  rcases chain.exists_calls_eq with ⟨front, hfront⟩
  rcases chain with ⟨root, first, rest⟩
  have hrest := (Call.callsAll_perm_of_perm h).append_left front
  rw [Call.callsAll_append] at hrest
  rw [hfront rest, hfront others]
  exact hrest.trans (List.perm_append_comm_assoc _ _ _)

theorem calls_perm_of_rest {chain : Chain} {rest : List Call} (h : rest.Perm chain.rest) :
    (Expr.chain { chain with rest }).calls.Perm (Expr.chain chain).calls := by
  have hrest : chain.rest.Perm ([] ++ rest) := h.symm
  exact (chain.calls_perm_without hrest).symm

end Chain

/-!
# How often a name is called

Expressions with one frame call a name equally often if their children do.
-/

namespace Call

/-- The number of calls with the name. -/
def tally (name : String) (calls : List Call) : Nat :=
  calls.countP fun call => call.name = name

theorem tally_append (name : String) (as bs : List Call) :
    tally name (as ++ bs) = tally name as + tally name bs :=
  List.countP_append

theorem tally_perm (name : String) {as bs : List Call} (h : as.Perm bs) :
    tally name as = tally name bs :=
  h.countP_eq _

theorem tally_map_frame (name : String) (calls : List Call) :
    tally name (calls.map frame) = tally name calls :=
  List.countP_map

end Call

namespace Expr

variable (name : String)

theorem tally_eq (expr : Expr) :
    Call.tally name expr.calls =
      Call.tally name expr.ownCalls + Call.tally name (callsAll expr.children) := by
  rw [Call.tally_perm name expr.calls_perm, Call.tally_append]

theorem tally_ownCalls_frame (expr : Expr) :
    Call.tally name expr.frame.ownCalls = Call.tally name expr.ownCalls := by
  cases expr with
  | chain c =>
      rcases c with ⟨root, first, rest⟩
      cases root <;> exact Call.tally_map_frame name (first :: rest)
  | _ => rfl

theorem tally_eq_of_frame {a b : Expr} (hframe : a.frame = b.frame)
    (hchildren : Call.tally name (callsAll a.children) = Call.tally name (callsAll b.children)) :
    Call.tally name a.calls = Call.tally name b.calls := by
  rw [tally_eq, tally_eq, hchildren, ← tally_ownCalls_frame, hframe, tally_ownCalls_frame]

end Expr

/-!
# Changing every expression

The change of every expression of a tree changes the children first, within the frame of the
expression, and then the expression.
-/

section Map

variable (f : Expr → Expr)

theorem ArrayItem.mapAll_spec (items : List ArrayItem) :
    (ArrayItem.mapAll f items).map frame = items.map frame ∧
      (ArrayItem.mapAll f items).flatMap children = (items.flatMap children).map (Expr.map f) := by
  induction items with
  | nil => exact ⟨rfl, rfl⟩
  | cons item items ih =>
      cases item <;>
        simp only [mapAll, List.map_cons, List.flatMap_cons, List.map_append, frame, children, ih,
          List.map_nil, and_self]

theorem Call.mapAll_spec (calls : List Call) :
    (Call.mapAll f calls).map frame = calls.map frame ∧
      (Call.mapAll f calls).flatMap (·.args) = (calls.flatMap (·.args)).map (Expr.map f) := by
  induction calls with
  | nil => exact ⟨rfl, rfl⟩
  | cons call calls ih =>
      rcases call with ⟨name, args⟩
      have hblanks : Expr.blanks (args.map (Expr.map f)) = Expr.blanks args :=
        Expr.blanks_eq_iff.mpr (List.length_map _)
      simp only [mapAll, List.map_cons, List.flatMap_cons, List.map_append, frame, ih,
        Expr.mapAll_eq_map, hblanks, and_self]

theorem Stmt.mapAll_spec : (stmts : List Stmt) →
    Stmt.frame (Stmt.mapAll f stmts) = Stmt.frame stmts ∧
      Stmt.children (Stmt.mapAll f stmts) = (Stmt.children stmts).map (Expr.map f)
  | [] => by simp only [Stmt.mapAll, Stmt.children, List.map_nil, and_self]
  | .leave :: rest | .give _ :: rest | .expr _ :: rest | .assign _ _ :: rest => by
      simp only [Stmt.mapAll, Stmt.frame, Stmt.children, List.map_cons, Stmt.mapAll_spec rest,
        and_self]
  | .when _ yes :: rest => by
      simp only [Stmt.mapAll, Stmt.frame, Stmt.children, List.map_cons, List.map_append,
        Stmt.mapAll_spec yes, Stmt.mapAll_spec rest, and_self]
  | .choose _ yes no :: rest => by
      simp only [Stmt.mapAll, Stmt.frame, Stmt.children, List.map_cons, List.map_append,
        Stmt.mapAll_spec yes, Stmt.mapAll_spec no, Stmt.mapAll_spec rest, and_self]

/-- The expression with all that is inside it changed, before the change comes to itself. -/
def Expr.mapInside : Expr → Expr
  | .array items => .array (ArrayItem.mapAll f items)
  | .closure (.arrow params body) => .closure (.arrow params (body.map f))
  | .closure (.block params captures body) =>
      .closure (.block params captures (Stmt.mapAll f body))
  | .chain ⟨.receiver object, ⟨name, args⟩, rest⟩ =>
      .chain ⟨.receiver (object.map f), ⟨name, mapAll f args⟩, Call.mapAll f rest⟩
  | .chain ⟨root, ⟨name, args⟩, rest⟩ =>
      .chain ⟨root, ⟨name, mapAll f args⟩, Call.mapAll f rest⟩
  | .property object name => .property (object.map f) name
  | .unary op operand => .unary op (operand.map f)
  | .binary op lhs rhs => .binary op (lhs.map f) (rhs.map f)
  | .ternary condition yes no => .ternary (condition.map f) (yes.map f) (no.map f)
  | .elvis condition no => .elvis (condition.map f) (no.map f)
  | .group inner => .group (inner.map f)
  | leaf => leaf

theorem Expr.map_eq (expr : Expr) : expr.map f = f (expr.mapInside f) := by
  cases expr with
  | closure c => cases c <;> rfl
  | chain c =>
      rcases c with ⟨root, ⟨name, args⟩, rest⟩
      cases root <;> rfl
  | _ => rfl

theorem Expr.mapInside_spec (expr : Expr) :
    (expr.mapInside f).frame = expr.frame ∧
      (expr.mapInside f).children = expr.children.map (Expr.map f) := by
  cases expr with
  | array items =>
      rcases ArrayItem.mapAll_spec f items with ⟨hframe, hchildren⟩
      exact ⟨congrArg Expr.array hframe, hchildren⟩
  | closure c =>
      cases c with
      | arrow params body => exact ⟨rfl, rfl⟩
      | block params captures body =>
          rcases Stmt.mapAll_spec f body with ⟨hframe, hchildren⟩
          refine ⟨?_, hchildren⟩
          exact congrArg (fun stmts => Expr.closure (.block params captures stmts)) hframe
  | chain c =>
      rcases c with ⟨root, ⟨name, args⟩, rest⟩
      rcases Call.mapAll_spec f (⟨name, args⟩ :: rest) with ⟨hframe, hchildren⟩
      rcases List.cons.inj hframe with ⟨hfirst, hrest⟩
      cases root with
      | receiver object =>
          refine ⟨?_, congrArg (object.map f :: ·) hchildren⟩
          simp only [mapInside, frame, Chain.frame, hfirst, hrest]
      | _ =>
          refine ⟨?_, hchildren⟩
          simp only [mapInside, frame, Chain.frame, hfirst, hrest]
  | _ => exact ⟨rfl, rfl⟩

end Map

/-!
# Arrow functions
-/

theorem Closure.onlyValue?_eq_some {closure : Closure} {value : Expr}
    (h : closure.onlyValue? = some value) :
    ∃ (params : List Param) (captures : List Capture),
      closure = .block params captures [.give value] := by
  unfold onlyValue? at h
  split at h
  · cases h
    exact ⟨_, _, rfl⟩
  · cases h

theorem Closure.toArrow?_eq_some_iff {closure changed : Closure} :
    closure.toArrow? = some changed ↔
      ∃ (params : List Param) (value : Expr), closure = .block params [] [.give value] ∧
        (∀ name ∈ value.freeVariables, closure.binds name = false → name = "$this") ∧
          changed = .arrow params value := by
  constructor
  · intro h
    unfold toArrow? at h
    split at h
    · rename_i params body
      rcases Option.bind_eq_some_iff.mp h with ⟨value, honly, hvalue⟩
      rcases onlyValue?_eq_some honly with ⟨_, _, hblock⟩
      cases hblock
      rcases Option.ite_none_right_eq_some.mp hvalue with ⟨hread, hchanged⟩
      refine ⟨params, value, rfl, ?_, (Option.some.inj hchanged).symm⟩
      intro name hname hfree
      have hthis := List.all_eq_true.mp hread name hname
      rw [hfree, Bool.or_false, decide_eq_true_eq] at hthis
      exact hthis
    · cases h
  · rintro ⟨params, value, rfl, hread, rfl⟩
    refine if_pos (List.all_eq_true.mpr fun name hname => ?_)
    cases hbinds : (block params [] [.give value]).binds name with
    | true => exact Bool.or_true _
    | false => rw [Bool.or_false, decide_eq_true_eq, hread name hname hbinds]

theorem Closure.toArrow?_eq_some {closure changed : Closure} (h : closure.toArrow? = some changed) :
    ∃ (params : List Param) (value : Expr), closure = .block params [] [.give value] ∧
      changed = .arrow params value := by
  rcases toArrow?_eq_some_iff.mp h with ⟨params, value, hclosure, -, hchanged⟩
  exact ⟨params, value, hclosure, hchanged⟩

theorem Expr.calls_arrowed (expr : Expr) : expr.arrowed.calls = expr.calls := by
  cases expr with
  | closure c =>
      rw [arrowed, Closure.arrowed]
      cases harrow : c.toArrow? with
      | none => rfl
      | some changed =>
          rcases Closure.toArrow?_eq_some harrow with ⟨params, value, rfl, rfl⟩
          rw [Option.getD_some, Expr.calls, Expr.calls, Stmt.calls, Stmt.calls, List.append_nil]
  | _ => rfl

/-- Changing expressions so that each calls a name as often as before keeps the number of calls. -/
theorem Expr.tally_callsAll_map {name : String} {f : Expr → Expr} {exprs : List Expr}
    (h : ∀ expr ∈ exprs, Call.tally name (f expr).calls = Call.tally name expr.calls) :
    Call.tally name (callsAll (exprs.map f)) = Call.tally name (callsAll exprs) := by
  induction exprs with
  | nil => rfl
  | cons expr exprs ih =>
      rcases List.forall_mem_cons.mp h with ⟨hexpr, hexprs⟩
      rw [List.map_cons, callsAll, callsAll, Call.tally_append, Call.tally_append, hexpr,
        ih hexprs]

theorem Expr.tally_map_arrowed (name : String) (expr : Expr) :
    Call.tally name (expr.map Expr.arrowed).calls = Call.tally name expr.calls := by
  induction expr using Expr.children_induction with
  | h expr ih =>
      rcases expr.mapInside_spec Expr.arrowed with ⟨hframe, hchildren⟩
      rw [map_eq, calls_arrowed]
      apply tally_eq_of_frame name hframe
      rw [hchildren]
      exact tally_callsAll_map ih

theorem Site.tally_map_arrowed (name : String) (site : Site) :
    Call.tally name (site.map Expr.arrowed).calls = Call.tally name site.calls := by
  have hsingle : ∀ expr : Expr,
      Call.tally name (Site.ofItems [expr.map Expr.arrowed]).calls =
      Call.tally name expr.calls := by
    intro expr
    rw [calls_ofItems, Expr.callsAll, Expr.callsAll, List.append_nil, Expr.tally_map_arrowed]
  cases site with
  | chain c => exact hsingle (.chain c)
  | closure c => exact hsingle (.closure c)
  | list items =>
      show Call.tally name (Expr.callsAll (Expr.mapAll Expr.arrowed items)) = _
      rw [Expr.mapAll_eq_map]
      exact Expr.tally_callsAll_map fun item _ => Expr.tally_map_arrowed name item

end FluentStyle
