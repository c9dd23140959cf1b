import FluentStyle.Proofs.Tree.Parts
import Mathlib.Data.List.Chain

/-!
# The height of a tree

Expressions nest: each of them may lie strictly inside another one.  The height of an expression is
the length of the longest sequence of expressions that starts with it and in which each lies inside
the one before.
-/

namespace FluentStyle

namespace Expr

def height (expr : Expr) : Nat :=
  (expr.children.attach.map fun child => child.1.height).foldr max 0 + 1
termination_by expr.weight
decreasing_by exact weight_lt_of_mem_children child.2

theorem height_eq (expr : Expr) : expr.height = (expr.children.map height).foldr max 0 + 1 := by
  rw [height]
  congr 2
  exact List.attach_map_val

theorem foldr_max_le_iff {numbers : List Nat} {bound : Nat} :
    numbers.foldr max 0 ≤ bound ↔ ∀ number ∈ numbers, number ≤ bound := by
  induction numbers with
  | nil => simp
  | cons number numbers ih => rw [List.foldr_cons, Nat.max_le, ih, List.forall_mem_cons]

theorem height_le_succ_iff {expr : Expr} {bound : Nat} :
    expr.height ≤ bound + 1 ↔ ∀ child ∈ expr.children, child.height ≤ bound := by
  rw [height_eq, Nat.add_le_add_iff_right, foldr_max_le_iff, List.forall_mem_map]

theorem height_pos (expr : Expr) : 0 < expr.height := by
  rw [height_eq]
  exact Nat.succ_pos _

theorem height_lt_of_mem_children {child expr : Expr} (h : child ∈ expr.children) :
    child.height < expr.height := by
  rw [expr.height_eq]
  exact Nat.lt_succ_of_le (foldr_max_le_iff.mp (Nat.le_refl _) _ (List.mem_map_of_mem h))

theorem height_le_of_mem_parts {part expr : Expr} (h : part ∈ expr.parts) :
    part.height ≤ expr.height := by
  induction expr using Expr.children_induction with
  | h expr ih =>
      rcases mem_parts_iff.mp h with rfl | ⟨child, hchild, hpart⟩
      · exact Nat.le_refl _
      · exact Nat.le_trans (ih child hchild hpart) (Nat.le_of_lt (height_lt_of_mem_children hchild))

theorem foldr_max_eq_zero_or_mem (numbers : List Nat) :
    numbers.foldr max 0 = 0 ∨ numbers.foldr max 0 ∈ numbers := by
  induction numbers with
  | nil => exact Or.inl rfl
  | cons number numbers ih =>
      rw [List.foldr_cons]
      rcases Nat.le_total number (numbers.foldr max 0) with hle | hle
      · rw [Nat.max_eq_right hle]
        exact ih.imp_right (List.mem_cons_of_mem number)
      · rw [Nat.max_eq_left hle]
        exact Or.inr List.mem_cons_self

theorem height_eq_one_or (expr : Expr) :
    expr.height = 1 ∨ ∃ child ∈ expr.children, expr.height = child.height + 1 := by
  rw [height_eq]
  rcases foldr_max_eq_zero_or_mem (expr.children.map height) with hzero | hmem
  · exact Or.inl (congrArg (· + 1) hzero)
  · rcases List.mem_map.mp hmem with ⟨child, hchild, hheight⟩
    exact Or.inr ⟨child, hchild, congrArg (· + 1) hheight.symm⟩

/-!
# Sequences of nested expressions

What follows in such a sequence is a part of the expression that it starts with.
-/

/-- One expression lies strictly inside another one. -/
def Inside (inner outer : Expr) : Prop :=
  ∃ child ∈ outer.children, inner ∈ child.parts

def Nested (nodes : List Expr) : Prop :=
  nodes.IsChain fun outer inner => inner.Inside outer

theorem Inside.height_lt {inner outer : Expr} (h : inner.Inside outer) :
    inner.height < outer.height := by
  rcases h with ⟨child, hchild, hinner⟩
  exact Nat.lt_of_le_of_lt (height_le_of_mem_parts hinner) (height_lt_of_mem_children hchild)

theorem Nested.length_le_height {expr : Expr} {nodes : List Expr} (h : Nested (expr :: nodes)) :
    (expr :: nodes).length ≤ expr.height := by
  induction nodes generalizing expr with
  | nil => exact expr.height_pos
  | cons next nodes ih =>
      rcases List.isChain_cons_cons.mp h with ⟨hinside, hrest⟩
      have hlength := ih hrest
      have hlt := hinside.height_lt
      rw [List.length_cons]
      omega

theorem Nested.mem_parts {expr : Expr} {nodes : List Expr} (h : Nested (expr :: nodes)) :
    ∀ node ∈ expr :: nodes, node ∈ expr.parts := by
  induction nodes generalizing expr with
  | nil =>
      intro node hnode
      rw [List.mem_singleton.mp hnode]
      exact expr.mem_parts_self
  | cons next nodes ih =>
      rcases List.isChain_cons_cons.mp h with ⟨⟨child, hchild, hnext⟩, hrest⟩
      have hinside : expr.Every (· ∈ expr.parts) := fun _ hpart => hpart
      have hpart : next ∈ expr.parts := mem_parts_iff.mpr (Or.inr ⟨child, hchild, hnext⟩)
      intro node hnode
      rcases List.mem_cons.mp hnode with heq | hnode
      · rw [heq]
        exact expr.mem_parts_self
      · exact hinside.of_mem_parts hpart node (ih hrest node hnode)

theorem Nested.of_children {nodes : List Expr}
    (h : nodes.IsChain fun outer inner => inner ∈ outer.children) : Nested nodes :=
  h.imp fun _ inner hchild => ⟨inner, hchild, inner.mem_parts_self⟩

theorem exists_nested (expr : Expr) : ∃ nodes : List Expr, Nested (expr :: nodes) ∧
    (expr :: nodes).length = expr.height := by
  induction expr using Expr.children_induction with
  | h expr ih =>
      rcases expr.height_eq_one_or with hone | ⟨child, hchild, hheight⟩
      · exact ⟨[], List.isChain_singleton expr, hone.symm⟩
      · rcases ih child hchild with ⟨nodes, hnested, hlength⟩
        refine ⟨child :: nodes, ?_, ?_⟩
        · exact List.isChain_cons_cons.mpr ⟨⟨child, hchild, child.mem_parts_self⟩, hnested⟩
        · rw [List.length_cons, hlength, hheight]

end Expr

/-- A sequence of expressions of a fragment, each of which lies strictly inside the one before it.
-/
structure Fragment.Nests (fragment : Fragment) (nodes : List Expr) : Prop where
  nested : Expr.Nested nodes
  within : ∃ item ∈ fragment.items, ∀ node ∈ nodes, node ∈ item.parts

theorem Fragment.nests_of_nested {fragment : Fragment} {item : Expr} {nodes : List Expr}
    (h : Expr.Nested (item :: nodes)) (hitem : item ∈ fragment.items) :
    fragment.Nests (item :: nodes) :=
  ⟨h, item, hitem, h.mem_parts⟩

theorem Fragment.Nests.length_le {fragment : Fragment} {nodes : List Expr} {bound : Nat}
    (h : fragment.Nests nodes) (hbound : ∀ item ∈ fragment.items, item.height ≤ bound) :
    nodes.length ≤ bound := by
  rcases h.within with ⟨item, hitem, hwithin⟩
  cases nodes with
  | nil => exact Nat.zero_le bound
  | cons node nodes =>
      have hlength := Expr.Nested.length_le_height h.nested
      have hheight := Expr.height_le_of_mem_parts (hwithin node List.mem_cons_self)
      exact Nat.le_trans hlength (Nat.le_trans hheight (hbound item hitem))

end FluentStyle
