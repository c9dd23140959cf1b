import FluentStyle.Proofs.Tree.Calls
import Mathlib.Data.List.Forall2

/-!
# Reading order

The names of the calls of a tree and its leaves stand in the order in which they are read.  What is
read of a child stands together in what is read of the tree around it, so where children read as a
part of what others read, their trees do.
-/

namespace FluentStyle

/-!
# Names of calls
-/

def Call.names (calls : List Call) : List String :=
  calls.map (·.name)

namespace Call

theorem names_append (as bs : List Call) : names (as ++ bs) = names as ++ names bs :=
  List.map_append

theorem names_cons (call : Call) (calls : List Call) :
    names (call :: calls) = call.name :: names calls := rfl

end Call

namespace Expr

/-- The names that one expression calls are, in this order, among those that another one calls. -/
def CallsWithin (a b : Expr) : Prop :=
  (Call.names a.calls).Sublist (Call.names b.calls)

theorem CallsWithin.refl (expr : Expr) : CallsWithin expr expr :=
  List.Sublist.refl _

theorem calls_eq_of_not_chain {expr : Expr} (h : ∀ chain : Chain, expr ≠ .chain chain) :
    expr.calls = callsAll expr.children := by
  cases expr with
  | array items => rw [calls, ArrayItem.calls_eq, children]
  | closure c =>
      cases c with
      | arrow params body =>
          rw [calls, children, Closure.children, callsAll, callsAll, List.append_nil]
      | block params captures body => rw [calls, Stmt.calls_eq, children, Closure.children]
  | chain c => exact absurd rfl (h c)
  | _ => simp only [calls, children, callsAll, List.append_nil]

theorem names_callsAll_sublist {as bs : List Expr} (h : List.Forall₂ CallsWithin as bs) :
    (Call.names (callsAll as)).Sublist (Call.names (callsAll bs)) := by
  induction h with
  | nil => exact List.Sublist.refl _
  | cons hfirst _ ih =>
      rw [callsAll, callsAll, Call.names_append, Call.names_append]
      exact hfirst.append ih

end Expr

/-- Related lists that consist of two parts each, of which the first are equally long, are related
in both parts. -/
theorem forall₂_of_append {α : Type} {R : α → α → Prop} {as bs as' bs' : List α}
    (hlength : as.length = bs.length) (h : List.Forall₂ R (as ++ as') (bs ++ bs')) :
    List.Forall₂ R as bs ∧ List.Forall₂ R as' bs' := by
  have htake := List.forall₂_take_append (as ++ as') bs bs' h
  have hdrop := List.forall₂_drop_append (as ++ as') bs bs' h
  rw [← hlength] at htake hdrop
  rw [List.take_left] at htake
  rw [List.drop_left] at hdrop
  exact ⟨htake, hdrop⟩

theorem Call.names_callsAll_sublist {as bs : List Call} (hframe : as.map frame = bs.map frame)
    (h : List.Forall₂ Expr.CallsWithin (as.flatMap (·.args)) (bs.flatMap (·.args))) :
    (names (callsAll as)).Sublist (names (callsAll bs)) := by
  induction as generalizing bs with
  | nil =>
      rw [List.map_eq_nil_iff.mp hframe.symm]
  | cons a as ih =>
      cases bs with
      | nil => cases hframe
      | cons b bs =>
          rw [List.map_cons, List.map_cons] at hframe
          rcases List.cons.inj hframe with ⟨hfirst, hrest⟩
          rw [List.flatMap_cons, List.flatMap_cons] at h
          rcases forall₂_of_append (Call.determined.length_eq hfirst) h with ⟨hargs, hothers⟩
          have hname : a.name = b.name := (Call.mk.inj hfirst).1
          rw [callsAll_cons, callsAll_cons, names_cons, names_cons, names_append, names_append,
            hname]
          exact ((Expr.names_callsAll_sublist hargs).append (ih hrest hothers)).cons_cons b.name

namespace Chain

def receiver? : Chain → Option Expr
  | ⟨.receiver object, _, _⟩ => some object
  | ⟨.static _, _, _⟩ => none
  | ⟨.function, _, _⟩ => none

theorem children_eq (chain : Chain) :
    chain.children = chain.receiver?.toList ++ chain.calls.flatMap (·.args) := by
  rcases chain with ⟨root, first, rest⟩
  cases root <;> rfl

theorem calls_toExpr (chain : Chain) :
    (Expr.chain chain).calls =
      Expr.callsAll chain.receiver?.toList ++ Call.callsAll chain.calls := by
  rcases chain with ⟨root, ⟨name, args⟩, rest⟩
  cases root with
  | receiver object =>
      have hobject : Expr.callsAll [object] = object.calls := List.append_nil object.calls
      simp only [receiver?, Option.toList_some, hobject, calls, Expr.calls, Call.callsAll]
  | _ => rfl

theorem length_receiver?_of_frame {c d : Chain} (h : c.frame = d.frame) :
    c.receiver?.toList.length = d.receiver?.toList.length := by
  have hframe : ∀ chain : Chain,
      chain.frame.receiver?.toList.length = chain.receiver?.toList.length := by
    intro chain
    rcases chain with ⟨root, first, rest⟩
    cases root <;> rfl
  exact (hframe c).symm.trans ((congrArg (·.receiver?.toList.length) h).trans (hframe d))

theorem map_frame_calls_of_frame {c d : Chain} (h : c.frame = d.frame) :
    c.calls.map Call.frame = d.calls.map Call.frame := by
  have hframe : ∀ chain : Chain, chain.frame.calls = chain.calls.map Call.frame := by
    intro chain
    rcases chain with ⟨root, first, rest⟩
    cases root <;> rfl
  exact (hframe c).symm.trans ((congrArg Chain.calls h).trans (hframe d))

end Chain

/-- Where the children of one expression call what those of another one call or less, so do the
expressions, if they have one frame. -/
theorem Expr.CallsWithin.of_children {a b : Expr} (hframe : a.frame = b.frame)
    (h : List.Forall₂ CallsWithin a.children b.children) : CallsWithin a b := by
  unfold CallsWithin
  by_cases hchain : ∀ chain : Chain, a ≠ .chain chain
  · have hother : ∀ chain : Chain, b ≠ .chain chain := by
      rintro chain rfl
      cases a with
      | chain c => exact hchain c rfl
      | _ => cases hframe
    rw [calls_eq_of_not_chain hchain, calls_eq_of_not_chain hother]
    exact names_callsAll_sublist h
  · rcases not_forall_not.mp hchain with ⟨c, rfl⟩
    cases b with
    | chain d =>
        have hchains : c.frame = d.frame := Expr.chain.inj hframe
        rw [children, children, c.children_eq, d.children_eq] at h
        rcases forall₂_of_append (Chain.length_receiver?_of_frame hchains) h with ⟨hreceiver, hargs⟩
        rw [c.calls_toExpr, d.calls_toExpr, Call.names_append, Call.names_append]
        exact (names_callsAll_sublist hreceiver).append
          (Call.names_callsAll_sublist (Chain.map_frame_calls_of_frame hchains) hargs)
    | _ => cases hframe

/-!
# Leaves

The leaves of an expression are its literals, numbers, constants and variables in the order in which
they are read; those of an expression with children are those of its children.
-/

namespace Expr

def isLiteral : Expr → Bool
  | .literal _ => true
  | _ => false

/-- The literals, numbers, constants and variables of an expression in the order in which they are
read. -/
def leaves (expr : Expr) : List Expr :=
  expr.parts.filter isLeaf

def leavesAll (exprs : List Expr) : List Expr :=
  exprs.flatMap leaves

theorem leavesAll_append (as bs : List Expr) :
    leavesAll (as ++ bs) = leavesAll as ++ leavesAll bs :=
  List.flatMap_append

theorem leavesAll_cons (expr : Expr) (exprs : List Expr) :
    leavesAll (expr :: exprs) = expr.leaves ++ leavesAll exprs :=
  List.flatMap_cons

theorem leaves_eq (expr : Expr) :
    expr.leaves = if expr.isLeaf then [expr] else leavesAll expr.children := by
  have hchildren : (expr.children.flatMap parts).filter isLeaf = leavesAll expr.children :=
    List.filter_flatMap
  rw [leaves, parts_eq, List.filter_cons, hchildren]
  split
  · rename_i hleaf
    rw [children_eq_nil_of_isLeaf hleaf]
    rfl
  · rfl

theorem leaves_list (items : List Expr) :
    (Expr.array (items.map .value)).leaves = leavesAll items := by
  rw [leaves_eq, children_list]
  rfl

theorem leaves_of_mem_children {expr child : Expr} (h : child ∈ expr.children) :
    expr.leaves = leavesAll expr.children := by
  rw [leaves_eq, if_neg]
  intro hleaf
  rw [children_eq_nil_of_isLeaf hleaf] at h
  cases h

end Expr

def Fragment.leaves (fragment : Fragment) : List Expr :=
  Expr.leavesAll fragment.items

end FluentStyle
