import Mathlib.Data.List.Flatten
import Mathlib.Data.List.Perm.Basic
import FluentStyle.Catalog.Conventions
import FluentStyle.Effect
import FluentStyle.Proofs.Tree.Calls

/-!
# The declarations of a tree

A declaration is known from its class and its constructor.  A part of a tree stands either in the
arguments of one of its calls or outside of all of them, so the declarations of a tree are those
outside of arguments and, call by call, those in the arguments of a call but not of one further
inside.  A declaration that names a field has the name as the first argument of its constructor.
-/

namespace FluentStyle

/-- A declaration as far as it can be told from others. -/
structure Declared where
  className : String
  /-- The name of the constructor and the text of its arguments. -/
  constructor : Effect
deriving DecidableEq, Repr

namespace Expr

def declared? (style : Conventions) : Expr → Option Declared
  | .chain ⟨.static className, first, rest⟩ =>
      if style.isDeclaration ⟨.static className, first, rest⟩ then
        some ⟨className, Effect.ofCall first⟩
      else none
  | _ => none

def declarations (style : Conventions) (expr : Expr) : List Declared :=
  expr.parts.filterMap (declared? style)

def outerChildren : Expr → List Expr
  | .chain ⟨.receiver object, _, _⟩ => [object]
  | .chain _ => []
  | expr => expr.children

theorem children_perm (expr : Expr) :
    expr.children.Perm (expr.outerChildren ++ expr.ownCalls.flatMap (·.args)) := by
  cases expr with
  | chain c =>
      rcases c with ⟨root, first, rest⟩
      cases root <;> exact List.Perm.refl _
  | _ => exact List.Perm.of_eq (List.append_nil _).symm

theorem mem_children_of_mem_outerChildren {child expr : Expr} (h : child ∈ expr.outerChildren) :
    child ∈ expr.children :=
  expr.children_perm.mem_iff.mpr (List.mem_append_left _ h)

def outerParts (expr : Expr) : List Expr :=
  expr :: expr.outerChildren.attach.flatMap fun child => child.1.outerParts
termination_by expr.weight
decreasing_by exact weight_lt_of_mem_children (mem_children_of_mem_outerChildren child.2)

theorem outerParts_eq (expr : Expr) :
    expr.outerParts = expr :: expr.outerChildren.flatMap outerParts := by
  rw [outerParts]
  congr 1
  rw [List.flatMap_subtype (g := outerParts) (fun _ _ => rfl), List.unattach_attach]

/-- The declarations in a tree that stand outside of the arguments of its calls. -/
def outerDeclarations (style : Conventions) (expr : Expr) : List Declared :=
  expr.outerParts.filterMap (declared? style)

end Expr

namespace Call

def argParts (call : Call) : List Expr :=
  call.args.flatMap Expr.outerParts

/-- The declarations in the arguments of a call but not in those of a call inside them. -/
def argDeclarations (style : Conventions) (call : Call) : List Declared :=
  call.args.flatMap (Expr.outerDeclarations style)

end Call

namespace Expr

variable {style : Conventions}

theorem calls_perm_parts (expr : Expr) : expr.calls.Perm (expr.parts.flatMap ownCalls) := by
  induction expr using children_induction with
  | h expr ih =>
      rw [parts_eq, List.flatMap_cons, List.flatMap_assoc]
      refine expr.calls_perm.trans (List.Perm.append_left _ ?_)
      rw [callsAll_eq_flatMap]
      exact List.Perm.flatMap_left _ ih

theorem parts_perm (expr : Expr) :
    expr.parts.Perm (expr.outerParts ++ expr.calls.flatMap Call.argParts) := by
  induction expr using children_induction with
  | h expr ih =>
      have hchildren : (expr.children.flatMap parts).Perm
          (expr.children.flatMap outerParts ++
            (callsAll expr.children).flatMap Call.argParts) := by
        rw [callsAll_eq_flatMap, List.flatMap_assoc]
        refine (List.Perm.flatMap_left _ ih).trans ?_
        exact (List.flatMap_append_perm _ _ _).symm
      -- An argument of an own call is a child, but its outer parts are none of the whole.
      have houter : (expr.children.flatMap outerParts).Perm
          (expr.outerChildren.flatMap outerParts ++ expr.ownCalls.flatMap Call.argParts) := by
        refine (expr.children_perm.flatMap_right outerParts).trans ?_
        rw [List.flatMap_append, List.flatMap_assoc]
        exact List.Perm.refl _
      have hcalls : (expr.calls.flatMap Call.argParts).Perm
          (expr.ownCalls.flatMap Call.argParts ++
            (callsAll expr.children).flatMap Call.argParts) := by
        rw [← List.flatMap_append]
        exact expr.calls_perm.flatMap_right _
      rw [parts_eq, outerParts_eq, List.cons_append]
      refine List.Perm.cons expr (hchildren.trans ?_)
      refine (houter.append_right _).trans ?_
      rw [List.append_assoc]
      exact hcalls.symm.append_left _

/-- The declarations of a tree are those outside of arguments and those in the arguments of calls.
-/
theorem declarations_perm (style : Conventions) (expr : Expr) :
    (expr.declarations style).Perm
      (expr.outerDeclarations style ++ expr.calls.flatMap (Call.argDeclarations style)) := by
  have hparts := expr.parts_perm.filterMap (declared? style)
  rw [List.filterMap_append, List.filterMap_flatMap] at hparts
  have hargs : (fun call : Call => call.argParts.filterMap (declared? style)) =
      Call.argDeclarations style := by
    funext call
    exact List.filterMap_flatMap
  rw [hargs] at hparts
  exact hparts

theorem constructor_sublist (style : Conventions) (expr : Expr) :
    ((declared? style expr).toList.map (·.constructor)).Sublist
      (expr.ownCalls.map Effect.ofCall) := by
  cases expr with
  | chain c =>
      rcases c with ⟨root, first, rest⟩
      cases root with
      | static className =>
          rw [declared?]
          split
          · exact (List.nil_sublist _).cons_cons (Effect.ofCall first)
          · exact List.nil_sublist _
      | _ => exact List.nil_sublist _
  | _ => exact List.nil_sublist _

/-- Each declaration of a tree has a constructor of its own among the calls. -/
theorem constructors_subperm (style : Conventions) (expr : Expr) :
    ((expr.declarations style).map (·.constructor)).Subperm (expr.calls.map Effect.ofCall) := by
  have hsublist : ((expr.declarations style).map (·.constructor)).Sublist
      ((expr.parts.flatMap ownCalls).map Effect.ofCall) := by
    unfold declarations
    rw [List.filterMap_eq_flatMap_toList, List.map_flatMap, List.map_flatMap]
    exact List.Sublist.flatMap_right expr.parts fun part _ => constructor_sublist style part
  have hperm := expr.calls_perm_parts.symm.map Effect.ofCall
  exact hsublist.subperm.trans hperm.subperm

end Expr

/-!
# Declarations at sites
-/

namespace Site

def declarations (style : Conventions) (site : Site) : List Declared :=
  site.toExpr.declarations style

def argDeclarations (style : Conventions) (site : Site) : List Declared :=
  site.calls.flatMap (Call.argDeclarations style)

end Site

/-!
# Declarations of fields
-/

/-- The chain declares a field: one of the constructors is called on the class, with the name of the
field as its first argument. -/
structure Chain.DeclaresField (chain : Chain) (style : Conventions) (className : String)
    (name : StringLiteral) : Prop where
  root_eq : chain.root = .static className
  constructor_mem : chain.first.name ∈ style.constructors
  head?_args : chain.first.args.head? = some (.literal name)

theorem Chain.exists_className? {style : Conventions} {chain : Chain}
    (h : style.isDeclaration chain = true) :
    ∃ className : String, chain.className? = some className := by
  rcases chain with ⟨root, first, rest⟩
  cases root with
  | static className => exact ⟨className, rfl⟩
  | function => cases h
  | receiver object => cases h

theorem Chain.declaresField_iff {chain : Chain} {style : Conventions} {className : String}
    {name : StringLiteral} : chain.DeclaresField style className name ↔
      style.isDeclaration chain = true ∧ chain.className? = some className ∧
        chain.fieldName? = some name := by
  rcases chain with ⟨root, ⟨constructor, args⟩, rest⟩
  constructor
  · rintro ⟨rfl, hconstructor, hargs⟩
    rcases List.head?_eq_some_iff.mp hargs with ⟨others, rfl⟩
    exact ⟨List.contains_iff_mem.mpr hconstructor, rfl, rfl⟩
  · rintro ⟨hdeclaration, hclass, hname⟩
    cases root with
    | static other =>
        cases hclass
        refine ⟨rfl, List.contains_iff_mem.mp hdeclaration, ?_⟩
        unfold fieldName? constructor? at hname
        split at hname
        · rename_i heq
          cases heq
          cases hname
          rfl
        · cases hname
    | function => cases hdeclaration
    | receiver object => cases hdeclaration

end FluentStyle
