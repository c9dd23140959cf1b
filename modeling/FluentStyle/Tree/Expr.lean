import FluentStyle.Tree.Operator
import FluentStyle.Tree.StringLiteral

/-!
# Expressions

The trees that fragments are read into.  Literals, numbers and names keep their text, so a tree
holds all of a fragment but its layout.  Equality of trees is decided by `Expr.same`.
-/

namespace FluentStyle

/-!
# Parameters and captured variables
-/

structure TypeHint where
  nullable : Bool
  name : String
deriving DecidableEq, Repr, Inhabited

structure Param where
  hint : Option TypeHint
  name : String
deriving DecidableEq, Repr, Inhabited

structure Capture where
  byReference : Bool
  name : String
deriving DecidableEq, Repr, Inhabited

/-!
# Trees

What the first call of a chain is made on is a class, nothing, or the value of an expression.
Elements of an array may have a key.
-/

mutual

inductive Expr where
  | literal (literal : StringLiteral)
  | number (raw : String)
  /-- A bare name such as `true`. -/
  | constant (name : String)
  /-- A constant of a class, `Status::Active`. -/
  | classConstant (className name : String)
  | variable (name : String)
  | array (items : List ArrayItem)
  | closure (closure : Closure)
  | chain (chain : Chain)
  /-- Access to a property without a call, `$record->status`. -/
  | property (object : Expr) (name : String)
  | unary (op : UnaryOp) (operand : Expr)
  | binary (op : BinaryOp) (lhs rhs : Expr)
  | ternary (condition yes no : Expr)
  /-- The short form `condition ?: no`. -/
  | elvis (condition no : Expr)
  /-- An expression in parentheses. -/
  | group (inner : Expr)

inductive ArrayItem where
  | value (value : Expr)
  | pair (key value : Expr)

structure Call where
  name : String
  args : List Expr

inductive Root where
  /-- `Name::first(...)`, a call on a class. -/
  | static (className : String)
  /-- `first(...)`, a call of a function or of a variable that holds one. -/
  | function
  /-- `object->first(...)`, a call on the value of an expression. -/
  | receiver (object : Expr)

/-- Calls one after another; there is always a first one. -/
structure Chain where
  root : Root
  first : Call
  rest : List Call

inductive Closure where
  /-- `fn (params) => body` -/
  | arrow (params : List Param) (body : Expr)
  /-- `function (params) use (captures) block` -/
  | block (params : List Param) (captures : List Capture) (body : List Stmt)

inductive Stmt where
  /-- `return;` -/
  | leave
  /-- `return value;` -/
  | give (value : Expr)
  | expr (expr : Expr)
  | assign (target : String) (value : Expr)
  | when (condition : Expr) (yes : List Stmt)
  | choose (condition : Expr) (yes no : List Stmt)

end

instance : Inhabited Expr := ⟨.constant ""⟩

/-!
# Fragments

Behind the last expression of a fragment there may be punctuation.
-/

inductive Ending where
  | none
  | comma
  | semicolon
deriving DecidableEq, Repr, Inhabited

/-- A fragment: one or more expressions separated by commas. -/
structure Fragment where
  items : List Expr
  ending : Ending

/-!
# Equality

Trees that compare as the same are equal, and so are lists of their parts.
-/

mutual

def Expr.same : Expr → Expr → Bool
  | .literal a, .literal b => a = b
  | .number a, .number b => a = b
  | .constant a, .constant b => a = b
  | .classConstant c a, .classConstant d b => c = d && a = b
  | .variable a, .variable b => a = b
  | .array as, .array bs => ArrayItem.sameAll as bs
  | .closure (.arrow ps a), .closure (.arrow qs b) => ps = qs && a.same b
  | .closure (.block ps cs as), .closure (.block qs ds bs) =>
      ps = qs && cs = ds && Stmt.sameAll as bs
  | .chain ⟨.static c, ⟨m, as⟩, rest⟩, .chain ⟨.static d, ⟨n, bs⟩, others⟩ =>
      c = d && m = n && Expr.sameAll as bs && Call.sameAll rest others
  | .chain ⟨.function, ⟨m, as⟩, rest⟩, .chain ⟨.function, ⟨n, bs⟩, others⟩ =>
      m = n && Expr.sameAll as bs && Call.sameAll rest others
  | .chain ⟨.receiver a, ⟨m, as⟩, rest⟩, .chain ⟨.receiver b, ⟨n, bs⟩, others⟩ =>
      a.same b && m = n && Expr.sameAll as bs && Call.sameAll rest others
  | .property a m, .property b n => a.same b && m = n
  | .unary o a, .unary p b => o = p && a.same b
  | .binary o a b, .binary p c d => o = p && a.same c && b.same d
  | .ternary a b c, .ternary d e f => a.same d && b.same e && c.same f
  | .elvis a b, .elvis c d => a.same c && b.same d
  | .group a, .group b => a.same b
  | _, _ => false

def Expr.sameAll : List Expr → List Expr → Bool
  | [], [] => true
  | a :: as, b :: bs => a.same b && Expr.sameAll as bs
  | _, _ => false

def ArrayItem.sameAll : List ArrayItem → List ArrayItem → Bool
  | [], [] => true
  | .value a :: as, .value b :: bs => a.same b && ArrayItem.sameAll as bs
  | .pair k a :: as, .pair l b :: bs => k.same l && a.same b && ArrayItem.sameAll as bs
  | _, _ => false

def Call.sameAll : List Call → List Call → Bool
  | [], [] => true
  | ⟨m, as⟩ :: rest, ⟨n, bs⟩ :: others => m = n && Expr.sameAll as bs && Call.sameAll rest others
  | _, _ => false

def Stmt.sameAll : List Stmt → List Stmt → Bool
  | [], [] => true
  | .leave :: as, .leave :: bs => Stmt.sameAll as bs
  | .give a :: as, .give b :: bs => a.same b && Stmt.sameAll as bs
  | .expr a :: as, .expr b :: bs => a.same b && Stmt.sameAll as bs
  | .assign m a :: as, .assign n b :: bs => m = n && a.same b && Stmt.sameAll as bs
  | .when a ys :: as, .when b zs :: bs => a.same b && Stmt.sameAll ys zs && Stmt.sameAll as bs
  | .choose a ys ns :: as, .choose b zs os :: bs =>
      a.same b && Stmt.sameAll ys zs && Stmt.sameAll ns os && Stmt.sameAll as bs
  | _, _ => false

end

mutual

theorem Expr.same_self : (a : Expr) → a.same a = true
  | .literal _ | .number _ | .constant _ | .classConstant _ _ | .variable _ => by simp [Expr.same]
  | .array as => by simp [Expr.same, ArrayItem.sameAll_self as]
  | .closure (.arrow _ a) => by simp [Expr.same, Expr.same_self a]
  | .closure (.block _ _ as) => by simp [Expr.same, Stmt.sameAll_self as]
  | .chain ⟨.static _, ⟨_, as⟩, rest⟩ => by
      simp [Expr.same, Expr.sameAll_self as, Call.sameAll_self rest]
  | .chain ⟨.function, ⟨_, as⟩, rest⟩ => by
      simp [Expr.same, Expr.sameAll_self as, Call.sameAll_self rest]
  | .chain ⟨.receiver a, ⟨_, as⟩, rest⟩ => by
      simp [Expr.same, Expr.same_self a, Expr.sameAll_self as, Call.sameAll_self rest]
  | .property a _ | .unary _ a | .group a => by simp [Expr.same, Expr.same_self a]
  | .binary _ a b | .elvis a b => by simp [Expr.same, Expr.same_self a, Expr.same_self b]
  | .ternary a b c => by simp [Expr.same, Expr.same_self a, Expr.same_self b, Expr.same_self c]

theorem Expr.sameAll_self : (as : List Expr) → Expr.sameAll as as = true
  | [] => by simp [Expr.sameAll]
  | a :: as => by simp [Expr.sameAll, Expr.same_self a, Expr.sameAll_self as]

theorem ArrayItem.sameAll_self : (as : List ArrayItem) → ArrayItem.sameAll as as = true
  | [] => by simp [ArrayItem.sameAll]
  | .value a :: as => by simp [ArrayItem.sameAll, Expr.same_self a, ArrayItem.sameAll_self as]
  | .pair k a :: as => by
      simp [ArrayItem.sameAll, Expr.same_self k, Expr.same_self a, ArrayItem.sameAll_self as]

theorem Call.sameAll_self : (as : List Call) → Call.sameAll as as = true
  | [] => by simp [Call.sameAll]
  | ⟨_, as⟩ :: rest => by simp [Call.sameAll, Expr.sameAll_self as, Call.sameAll_self rest]

theorem Stmt.sameAll_self : (as : List Stmt) → Stmt.sameAll as as = true
  | [] => by simp [Stmt.sameAll]
  | stmt :: as => by
      have hrest := Stmt.sameAll_self as
      cases stmt with
      | leave => simp [Stmt.sameAll, hrest]
      | give a => simp [Stmt.sameAll, Expr.same_self a, hrest]
      | expr a => simp [Stmt.sameAll, Expr.same_self a, hrest]
      | assign _ a => simp [Stmt.sameAll, Expr.same_self a, hrest]
      | when a ys => simp [Stmt.sameAll, Expr.same_self a, Stmt.sameAll_self ys, hrest]
      | choose a ys ns =>
          simp [Stmt.sameAll, Expr.same_self a, Stmt.sameAll_self ys, Stmt.sameAll_self ns, hrest]

end

theorem Expr.eq_of_same :
    (∀ a b : Expr, a.same b = true → a = b) ∧
      (∀ as bs : List Call, Call.sameAll as bs = true → as = bs) ∧
      (∀ as bs : List Expr, Expr.sameAll as bs = true → as = bs) ∧
      (∀ as bs : List Stmt, Stmt.sameAll as bs = true → as = bs) ∧
      (∀ as bs : List ArrayItem, ArrayItem.sameAll as bs = true → as = bs) := by
  -- Two trees of one form have the same parts one by one; in all other cases they do not compare.
  apply Expr.same.mutual_induct
  all_goals
    intros
    simp_all [Expr.same, Expr.sameAll, ArrayItem.sameAll, Call.sameAll, Stmt.sameAll]

theorem Expr.same_iff (a b : Expr) : a.same b = true ↔ a = b :=
  ⟨Expr.eq_of_same.1 a b, fun h => h ▸ a.same_self⟩

instance : DecidableEq Expr := fun a b => decidable_of_iff (a.same b = true) (Expr.same_iff a b)

instance : DecidableEq Call := fun a b =>
  decidable_of_iff (a.name = b.name ∧ a.args = b.args) (by cases a; cases b; simp)

instance : DecidableEq Root := fun a b =>
  match a, b with
  | .static c, .static d => decidable_of_iff (c = d) (by simp)
  | .function, .function => isTrue rfl
  | .receiver a, .receiver b => decidable_of_iff (a = b) (by simp)
  | .static _, .function => isFalse (by simp)
  | .static _, .receiver _ => isFalse (by simp)
  | .function, .static _ => isFalse (by simp)
  | .function, .receiver _ => isFalse (by simp)
  | .receiver _, .static _ => isFalse (by simp)
  | .receiver _, .function => isFalse (by simp)

instance : DecidableEq Chain := fun a b =>
  decidable_of_iff (a.root = b.root ∧ a.first = b.first ∧ a.rest = b.rest)
    (by cases a; cases b; simp)

instance : DecidableEq Closure := fun a b =>
  decidable_of_iff (Expr.closure a = Expr.closure b) (by simp)

instance : DecidableEq Fragment := fun a b =>
  decidable_of_iff (a.items = b.items ∧ a.ending = b.ending) (by cases a; cases b; simp)

end FluentStyle
