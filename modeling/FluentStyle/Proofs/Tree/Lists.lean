import FluentStyle.Proofs.Tree.Parts
import Mathlib.Data.List.Basic

/-!
# The lists of a tree

The lists of an expression are its own, if it is an array without keys, and those of its children
from left to right.  So they are the lists among its parts, each as often and in the order in which
the parts are read.
-/

namespace FluentStyle

/-- The items of a site that is a list. -/
def Site.list? : Site → Option (List Expr)
  | .list items => some items
  | .chain _ | .closure _ => none

theorem Site.list?_eq_some {site : Site} {items : List Expr} :
    site.list? = some items ↔ site = .list items := by
  cases site <;> simp [Site.list?]

theorem Expr.listsAll_append (as bs : List Expr) :
    Expr.listsAll (as ++ bs) = Expr.listsAll as ++ Expr.listsAll bs := by
  rw [listsAll_eq_flatMap, listsAll_eq_flatMap, listsAll_eq_flatMap, List.flatMap_append]

theorem ArrayItem.lists_eq (items : List ArrayItem) :
    ArrayItem.lists items = Expr.listsAll (items.flatMap ArrayItem.children) := by
  induction items with
  | nil => rfl
  | cons item items ih =>
      cases item <;>
        simp only [List.flatMap_cons, children, lists, ih, Expr.listsAll_append, Expr.listsAll,
          List.append_nil, List.append_assoc]

theorem Call.lists_eq (calls : List Call) :
    Call.lists calls = Expr.listsAll (calls.flatMap (·.args)) := by
  induction calls with
  | nil => rfl
  | cons call calls ih =>
      rcases call with ⟨name, args⟩
      rw [lists, List.flatMap_cons, Expr.listsAll_append, ih]

theorem Stmt.lists_eq : (stmts : List Stmt) →
    Stmt.lists stmts = Expr.listsAll (Stmt.children stmts)
  | [] => by simp only [Stmt.lists, Stmt.children, Expr.listsAll]
  | .leave :: rest => by simp only [Stmt.lists, Stmt.children, Stmt.lists_eq rest]
  | .give _ :: rest | .expr _ :: rest | .assign _ _ :: rest => by
      simp only [Stmt.lists, Stmt.children, Expr.listsAll, Stmt.lists_eq rest]
  | .when _ yes :: rest => by
      simp only [Stmt.lists, Stmt.children, Expr.listsAll, Expr.listsAll_append,
        Stmt.lists_eq yes, Stmt.lists_eq rest]
  | .choose _ yes no :: rest => by
      simp only [Stmt.lists, Stmt.children, Expr.listsAll, Expr.listsAll_append,
        Stmt.lists_eq yes, Stmt.lists_eq no, Stmt.lists_eq rest]

namespace Expr

def ownList? (expr : Expr) : Option (List Expr) :=
  (Site.ofExpr? expr).bind Site.list?

theorem ownList?_array (items : List ArrayItem) :
    ownList? (.array items) = ArrayItem.values? items := by
  show ((ArrayItem.values? items).map Site.list).bind Site.list? = _
  cases ArrayItem.values? items <;> rfl

theorem lists_eq (expr : Expr) :
    expr.lists = expr.ownList?.toList ++ listsAll expr.children := by
  cases expr with
  | array items =>
      rw [ownList?_array, lists, children, ArrayItem.lists_eq]
      cases ArrayItem.values? items <;> rfl
  | closure c =>
      cases c with
      | arrow params body =>
          show body.lists = body.lists ++ []
          rw [List.append_nil]
      | block params captures body => exact Stmt.lists_eq body
  | chain c =>
      rcases c with ⟨root, ⟨name, args⟩, rest⟩
      have hcalls := Call.lists_eq (⟨name, args⟩ :: rest)
      rw [Call.lists, List.flatMap_cons] at hcalls
      cases root with
      | static className => exact hcalls
      | function => exact hcalls
      | receiver object => exact congrArg (object.lists ++ ·) hcalls
  | _ => simp [lists, ownList?, Site.ofExpr?, children, listsAll]

def sites (expr : Expr) : List Site :=
  expr.parts.filterMap Site.ofExpr?

theorem sites_eq (expr : Expr) :
    expr.sites = (Site.ofExpr? expr).toList ++ expr.children.flatMap sites := by
  unfold sites
  rw [parts_eq, List.filterMap_cons, List.filterMap_flatMap]
  cases Site.ofExpr? expr <;> rfl

theorem sites_toExpr (site : Site) :
    site.toExpr.sites = site :: site.toExpr.children.flatMap sites := by
  rw [sites_eq, Site.ofExpr?_eq_some.mpr rfl, Option.toList_some, List.singleton_append]

/-- The lists of an expression are the lists among its sites. -/
theorem lists_eq_sites (expr : Expr) : expr.lists = expr.sites.filterMap Site.list? := by
  induction expr using Expr.children_induction with
  | h expr ih =>
      have hchildren : listsAll expr.children =
          (expr.children.flatMap sites).filterMap Site.list? := by
        rw [listsAll_eq_flatMap, List.filterMap_flatMap]
        exact List.flatMap_congr ih
      have hown : expr.ownList?.toList =
          (Site.ofExpr? expr).toList.filterMap Site.list? := by
        unfold ownList?
        cases Site.ofExpr? expr with
        | none => rfl
        | some site => cases site <;> rfl
      rw [lists_eq, sites_eq, List.filterMap_append, hown, hchildren]

end Expr

end FluentStyle
