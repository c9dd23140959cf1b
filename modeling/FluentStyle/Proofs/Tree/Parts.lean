import FluentStyle.Proofs.Tree.Frame

/-!
# The parts of a tree

The parts of an expression are the expression itself and the parts of its children.  What holds of
every part of a tree holds of its root and of every part of its children, and the weight of a tree
bounds the number of its parts.
-/

namespace FluentStyle

/-!
# Weight and children

An expression weighs as much as its children together and what it counts for itself, which depends
on its frame only.
-/

@[simp] theorem Expr.weightAll_nil : Expr.weightAll [] = 0 := by rw [Expr.weightAll]

@[simp] theorem Expr.weightAll_cons (expr : Expr) (exprs : List Expr) :
    Expr.weightAll (expr :: exprs) = expr.weight + Expr.weightAll exprs := by rw [Expr.weightAll]

@[simp] theorem Expr.weightAll_append (as bs : List Expr) :
    Expr.weightAll (as ++ bs) = Expr.weightAll as + Expr.weightAll bs := by
  induction as with
  | nil => rw [List.nil_append, Expr.weightAll_nil, Nat.zero_add]
  | cons expr as ih =>
      rw [List.cons_append, Expr.weightAll_cons, Expr.weightAll_cons, ih, Nat.add_assoc]

theorem Expr.weightAll_perm {as bs : List Expr} (h : as.Perm bs) :
    Expr.weightAll as = Expr.weightAll bs := by
  induction h with
  | nil => rfl
  | cons expr _ ih => rw [Expr.weightAll_cons, Expr.weightAll_cons, ih]
  | swap a b rest =>
      simp only [Expr.weightAll_cons]
      omega
  | trans _ _ ihfirst ihsecond => exact ihfirst.trans ihsecond

theorem ArrayItem.weight_eq (items : List ArrayItem) :
    ArrayItem.weight items = Expr.weightAll (items.flatMap ArrayItem.children) := by
  induction items with
  | nil => rfl
  | cons item items ih =>
      cases item <;>
        simp only [List.flatMap_cons, ArrayItem.children, ArrayItem.weight, ih,
          Expr.weightAll_append, Expr.weightAll_cons, Expr.weightAll_nil] <;> omega

theorem Call.weight_eq (calls : List Call) :
    Call.weight calls = calls.length + Expr.weightAll (calls.flatMap (·.args)) := by
  induction calls with
  | nil => rfl
  | cons call calls ih =>
      rcases call with ⟨name, args⟩
      simp only [List.flatMap_cons, Call.weight, ih, List.length_cons,
        Expr.weightAll_append]
      omega

def Stmt.count : List Stmt → Nat
  | [] => 0
  | .leave :: rest | .give _ :: rest | .expr _ :: rest | .assign _ _ :: rest =>
      1 + Stmt.count rest
  | .when _ yes :: rest => 1 + Stmt.count yes + Stmt.count rest
  | .choose _ yes no :: rest => 1 + Stmt.count yes + Stmt.count no + Stmt.count rest

theorem Stmt.weight_eq : (stmts : List Stmt) →
    Stmt.weight stmts = Stmt.count stmts + Expr.weightAll (Stmt.children stmts)
  | [] => by simp only [Stmt.weight, Stmt.count, Stmt.children, Expr.weightAll_nil]
  | .leave :: rest | .give _ :: rest | .expr _ :: rest | .assign _ _ :: rest => by
      have hrest := Stmt.weight_eq rest
      simp only [Stmt.weight, Stmt.count, Stmt.children, Expr.weightAll_cons]
      omega
  | .when _ yes :: rest => by
      have hyes := Stmt.weight_eq yes
      have hrest := Stmt.weight_eq rest
      simp only [Stmt.weight, Stmt.count, Stmt.children, Expr.weightAll_cons, Expr.weightAll_append]
      omega
  | .choose _ yes no :: rest => by
      have hyes := Stmt.weight_eq yes
      have hno := Stmt.weight_eq no
      have hrest := Stmt.weight_eq rest
      simp only [Stmt.weight, Stmt.count, Stmt.children, Expr.weightAll_cons, Expr.weightAll_append]
      omega

theorem Stmt.count_frame : (stmts : List Stmt) → Stmt.count (Stmt.frame stmts) = Stmt.count stmts
  | [] => by simp only [Stmt.frame]
  | .leave :: rest | .give _ :: rest | .expr _ :: rest | .assign _ _ :: rest => by
      simp only [Stmt.frame, Stmt.count, Stmt.count_frame rest]
  | .when _ yes :: rest => by
      simp only [Stmt.frame, Stmt.count, Stmt.count_frame yes, Stmt.count_frame rest]
  | .choose _ yes no :: rest => by
      simp only [Stmt.frame, Stmt.count, Stmt.count_frame yes, Stmt.count_frame no,
        Stmt.count_frame rest]

/-- What an expression counts for besides its children. -/
def Expr.ownWeight : Expr → Nat
  | .array items => listWeight items.length + 1
  | .closure (.block _ _ body) => Stmt.count body + 1
  | .chain c => c.rest.length + 2
  | _ => 1

theorem Expr.weight_eq (expr : Expr) :
    expr.weight = expr.ownWeight + Expr.weightAll expr.children := by
  cases expr with
  | array items =>
      simp only [Expr.weight, Expr.ownWeight, Expr.children, ArrayItem.weight_eq]
      omega
  | closure c =>
      cases c <;>
        simp only [Expr.weight, Expr.ownWeight, Expr.children, Closure.children, Stmt.weight_eq,
          Expr.weightAll_cons, Expr.weightAll_nil] <;> omega
  | chain c =>
      rcases c with ⟨root, ⟨name, args⟩, rest⟩
      cases root <;>
        simp only [Expr.weight, Expr.ownWeight, Expr.children, Chain.children,
          Call.weight_eq, Expr.weightAll_cons, Expr.weightAll_append] <;> omega
  | _ =>
      simp only [Expr.weight, Expr.ownWeight, Expr.children, Expr.weightAll_cons,
        Expr.weightAll_nil] <;> omega

theorem Expr.ownWeight_frame (expr : Expr) : expr.frame.ownWeight = expr.ownWeight := by
  cases expr with
  | array items => simp only [Expr.frame, Expr.ownWeight, List.length_map]
  | closure c =>
      cases c <;> simp only [Expr.frame, Closure.frame, Expr.ownWeight, Stmt.count_frame]
  | chain c =>
      rcases c with ⟨root, first, rest⟩
      cases root <;> simp only [Expr.frame, Chain.frame, Expr.ownWeight, List.length_map]
  | _ => rfl

theorem Expr.ownWeight_pos (expr : Expr) : 0 < expr.ownWeight := by
  cases expr with
  | closure c => cases c <;> simp only [Expr.ownWeight] <;> omega
  | _ => simp [Expr.ownWeight]

theorem Expr.weightAll_children_lt (expr : Expr) : Expr.weightAll expr.children < expr.weight := by
  have hpos := expr.ownWeight_pos
  rw [expr.weight_eq]
  omega

theorem Expr.weight_pos (expr : Expr) : 0 < expr.weight :=
  Nat.lt_of_le_of_lt (Nat.zero_le _) expr.weightAll_children_lt

theorem Expr.weight_le_weightAll {expr : Expr} {exprs : List Expr} (h : expr ∈ exprs) :
    expr.weight ≤ Expr.weightAll exprs := by
  induction exprs with
  | nil => cases h
  | cons first rest ih =>
      rw [Expr.weightAll_cons]
      rcases List.mem_cons.mp h with rfl | hrest
      · omega
      · have hle := ih hrest
        omega

theorem Expr.children_list (items : List Expr) :
    (Expr.array (items.map .value)).children = items := by
  show (items.map ArrayItem.value).flatMap ArrayItem.children = items
  rw [List.flatMap_map]
  exact List.flatMap_singleton' items

theorem Expr.weight_list (items : List Expr) :
    (Expr.array (items.map .value)).weight =
      listWeight items.length + Expr.weightAll items + 1 := by
  rw [Expr.weight_eq, Expr.children_list, Expr.ownWeight, List.length_map]
  omega

theorem Expr.weight_lt_of_mem_children {child expr : Expr} (h : child ∈ expr.children) :
    child.weight < expr.weight :=
  Nat.lt_of_le_of_lt (Expr.weight_le_weightAll h) expr.weightAll_children_lt

/-- What holds of an expression whenever it holds of its children holds of all expressions. -/
theorem Expr.children_induction {P : Expr → Prop}
    (h : ∀ expr : Expr, (∀ child ∈ expr.children, P child) → P expr) (expr : Expr) : P expr := by
  generalize hweight : expr.weight = weight
  induction weight using Nat.strongRecOn generalizing expr with
  | ind weight ih =>
      apply h
      intro child hchild
      have hlt := Expr.weight_lt_of_mem_children hchild
      exact ih child.weight (by omega) child rfl

/-!
# Parts
-/

def Expr.isLeaf : Expr → Bool
  | .literal _ | .number _ | .constant _ | .classConstant _ _ | .variable _ => true
  | _ => false

theorem Expr.children_eq_nil_of_isLeaf {expr : Expr} (h : expr.isLeaf = true) :
    expr.children = [] := by
  cases expr with
  | array _ | closure _ | chain _ | property _ _ | unary _ _ | binary _ _ _ | ternary _ _ _
  | elvis _ _ | group _ => cases h
  | _ => rfl

/-- The expression and all expressions inside it, each before those inside it. -/
def Expr.parts (expr : Expr) : List Expr :=
  expr :: expr.children.attach.flatMap fun child => child.1.parts
termination_by expr.weight
decreasing_by exact Expr.weight_lt_of_mem_children child.2

theorem Expr.parts_eq (expr : Expr) :
    expr.parts = expr :: expr.children.flatMap Expr.parts := by
  rw [Expr.parts]
  congr 1
  rw [List.flatMap_subtype (g := Expr.parts) (fun _ _ => rfl), List.unattach_attach]

theorem Expr.mem_parts_self (expr : Expr) : expr ∈ expr.parts := by
  rw [Expr.parts_eq]
  exact List.mem_cons_self

theorem Expr.mem_parts_iff {part expr : Expr} :
    part ∈ expr.parts ↔ part = expr ∨ ∃ child ∈ expr.children, part ∈ child.parts := by
  rw [Expr.parts_eq, List.mem_cons, List.mem_flatMap]

/-- Every part of the expression has the property. -/
def Expr.Every (P : Expr → Prop) (expr : Expr) : Prop :=
  ∀ part ∈ expr.parts, P part

theorem Expr.every_iff {P : Expr → Prop} {expr : Expr} :
    expr.Every P ↔ P expr ∧ ∀ child ∈ expr.children, child.Every P := by
  constructor
  · intro h
    constructor
    · exact h expr expr.mem_parts_self
    · intro child hchild part hpart
      exact h part (Expr.mem_parts_iff.mpr (Or.inr ⟨child, hchild, hpart⟩))
  · rintro ⟨hroot, hchildren⟩ part hpart
    rcases Expr.mem_parts_iff.mp hpart with rfl | ⟨child, hchild, hpart⟩
    · exact hroot
    · exact hchildren child hchild part hpart

theorem Expr.Every.mono {P Q : Expr → Prop} (h : ∀ expr, P expr → Q expr) {expr : Expr}
    (hevery : expr.Every P) : expr.Every Q :=
  fun part hpart => h part (hevery part hpart)

theorem Expr.Every.of_mem_parts {P : Expr → Prop} {expr part : Expr} (h : expr.Every P)
    (hpart : part ∈ expr.parts) : part.Every P := by
  induction expr using Expr.children_induction with
  | h expr ih =>
      rcases Expr.mem_parts_iff.mp hpart with rfl | ⟨child, hchild, hpart⟩
      · exact h
      · exact ih child hchild ((Expr.every_iff.mp h).2 child hchild) hpart

end FluentStyle
