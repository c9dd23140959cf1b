import FluentStyle.Proofs.Token.Layout
import FluentStyle.Proofs.Tree.Parts
import FluentStyle.Grammar.Expr

/-!
# The shape of trees that can be read

Not every tree is one that a source text is read into.  The names and literals in it have to be
spelled, its operators have to be grouped as they are read, and nothing may stand behind an arrow
function that would be read as a part of its body.  All this can be told from each part of the tree
by itself.  Besides, a tree must not be nested too deep.
-/

namespace FluentStyle

/-!
# Spelling
-/

def Expr.keywords : List String :=
  "fn" :: "function" :: "new" :: Expr.reserved

/-- Whether an expression can start with the name. -/
def Expr.isHead (name : String) : Bool :=
  (Token.name name).isSpelled && !Expr.keywords.contains name

def Param.isSpelled (param : Param) : Bool :=
  (Token.variable param.name).isSpelled &&
    param.hint.all fun hint => (Token.name hint.name).isSpelled

def Capture.isSpelled (capture : Capture) : Bool :=
  (Token.variable capture.name).isSpelled

def Stmt.isSpelled : List Stmt → Bool
  | [] => true
  | .leave :: rest => Stmt.isSpelled rest
  | .give _ :: rest => Stmt.isSpelled rest
  | .expr _ :: rest => Stmt.isSpelled rest
  | .assign target _ :: rest => (Token.variable target).isSpelled && Stmt.isSpelled rest
  | .when _ yes :: rest => Stmt.isSpelled yes && Stmt.isSpelled rest
  | .choose _ yes no :: rest => Stmt.isSpelled yes && Stmt.isSpelled no && Stmt.isSpelled rest

def Call.isSpelled (call : Call) : Bool :=
  (Token.name call.name).isSpelled

def Chain.isSpelled : Chain → Bool
  | ⟨.static className, first, rest⟩ =>
      Expr.isHead className && first.isSpelled && rest.all Call.isSpelled
  | ⟨.function, first, rest⟩ =>
      ((Token.variable first.name).isSpelled || Expr.isHead first.name) && rest.all Call.isSpelled
  | ⟨.receiver _, first, rest⟩ => first.isSpelled && rest.all Call.isSpelled

/-- Whether the names in an expression, those in its children apart, are spelled. -/
def Expr.isSpelled : Expr → Bool
  | .literal l => (Token.literal l.raw).isSpelled
  | .number raw => (Token.number raw).isSpelled
  | .constant name => Expr.isHead name
  | .classConstant className name => Expr.isHead className && (Token.name name).isSpelled
  | .variable name => (Token.variable name).isSpelled
  | .closure (.arrow params _) => params.all Param.isSpelled
  | .closure (.block params captures body) =>
      params.all Param.isSpelled && captures.all Capture.isSpelled && Stmt.isSpelled body
  | .chain c => c.isSpelled
  | .property _ name => (Token.name name).isSpelled
  | .array _ | .unary _ _ | .binary _ _ _ | .ternary _ _ _ | .elvis _ _ | .group _ => true

/-!
# Grouping
-/

/-- How firmly an expression holds together: by the operator that it is made by, or more firmly if
it is an operand. -/
def Expr.strength : Expr → Nat
  | .ternary _ _ _ | .elvis _ _ => 0
  | .binary op _ _ => op.precedence
  | .unary _ _ => 10
  | .chain _ => 11
  | .literal _ | .number _ | .constant _ | .classConstant _ _ | .variable _ | .array _ | .closure _
  | .property _ _ | .group _ => 12

theorem Expr.strength_le (expr : Expr) : expr.strength ≤ 12 := by
  cases expr with
  | binary op lhs rhs => exact Nat.le_trans op.precedence_le (by decide)
  | _ => simp [strength]

/-- The children of the expression hold together more firmly than it takes hold of them. -/
def Expr.Grouped : Expr → Prop
  | .unary _ operand => 10 ≤ operand.strength
  | .binary op lhs rhs => op.precedence ≤ lhs.strength ∧ op.precedence < rhs.strength
  | .ternary condition _ _ => 0 < condition.strength
  | .elvis condition _ => 0 < condition.strength
  | .property object _ => 11 ≤ object.strength
  | .chain ⟨.receiver object, _, _⟩ => 12 ≤ object.strength
  | _ => True

/-- Whether the expression ends with the body of an arrow function, which goes on as far as it
can. -/
def Expr.isOpen : Expr → Bool
  | .closure (.arrow _ _) => true
  | .unary _ operand => operand.isOpen
  | .binary _ _ rhs => rhs.isOpen
  | .ternary _ _ no => no.isOpen
  | .elvis _ no => no.isOpen
  | _ => false

/-- No child of the expression is open and has something behind it that it would take in. -/
def Expr.Closed : Expr → Prop
  | .binary _ lhs _ => lhs.isOpen = false
  | .ternary condition _ _ => condition.isOpen = false
  | .elvis condition _ => condition.isOpen = false
  | .property object _ => object.isOpen = false
  | .chain ⟨.receiver object, _, _⟩ => object.isOpen = false
  | _ => True

/-- Every part of the tree is spelled, grouped and closed. -/
def Expr.Readable : Expr → Prop :=
  Expr.Every fun part => part.isSpelled = true ∧ part.Grouped ∧ part.Closed

theorem Expr.readable_iff {expr : Expr} :
    expr.Readable ↔ (expr.isSpelled = true ∧ expr.Grouped ∧ expr.Closed) ∧
      ∀ child ∈ expr.children, child.Readable :=
  Expr.every_iff

/-!
# Nesting

The readers of an expression need room for what is inside it, one level in, and at its own level for
the operators and for the accesses and new chains that are read one after another.
-/

def Expr.operators : Expr → Nat
  | .binary _ lhs _ => lhs.operators + 1
  | _ => 0

theorem Expr.operators_eq_zero {expr : Expr} (h : 10 ≤ expr.strength) : expr.operators = 0 := by
  cases expr with
  | binary op lhs rhs =>
      have hle := op.precedence_le
      have hprecedence : 10 ≤ op.precedence := h
      omega
  | _ => rfl

def Expr.accesses : Expr → Nat
  | .property object _ => object.accesses + 1
  | .chain ⟨.receiver object, _, _⟩ => object.accesses + 1
  | _ => 0

mutual

/-- How much room the readers of the expression need. -/
def Expr.nesting : Expr → Nat
  | .literal _ | .number _ | .constant _ | .classConstant _ _ | .variable _ => 0
  | .array items => ArrayItem.nesting items
  | .closure (.arrow _ body) => body.nesting + 1
  | .closure (.block _ _ body) => Stmt.nesting body + 1
  | .chain ⟨.receiver object, ⟨_, args⟩, rest⟩ =>
      max (max (object.accesses + 2) object.nesting)
        (max (Expr.nestingAll args) (Call.nesting rest))
  | .chain ⟨.static _, ⟨_, args⟩, rest⟩ => max (Expr.nestingAll args) (Call.nesting rest)
  | .chain ⟨.function, ⟨_, args⟩, rest⟩ => max (Expr.nestingAll args) (Call.nesting rest)
  | .property object _ => max (object.accesses + 2) object.nesting
  | .unary _ operand => operand.nesting + 1
  | .binary _ lhs rhs => max (lhs.operators + 2) (max lhs.nesting rhs.nesting)
  | .ternary condition yes no => max condition.nesting (max (yes.nesting + 1) (no.nesting + 1))
  | .elvis condition no => max condition.nesting (no.nesting + 1)
  | .group inner => inner.nesting + 1

def Expr.nestingAll : List Expr → Nat
  | [] => 0
  | expr :: rest => max (expr.nesting + 1) (Expr.nestingAll rest)

def ArrayItem.nesting : List ArrayItem → Nat
  | [] => 0
  | .value value :: rest => max (value.nesting + 1) (ArrayItem.nesting rest)
  | .pair key value :: rest =>
      max (max (key.nesting + 1) (value.nesting + 1)) (ArrayItem.nesting rest)

def Call.nesting : List Call → Nat
  | [] => 0
  | ⟨_, args⟩ :: rest => max (Expr.nestingAll args) (Call.nesting rest)

def Stmt.nesting : List Stmt → Nat
  | [] => 0
  | .leave :: rest => Stmt.nesting rest
  | .give value :: rest => max (value.nesting + 1) (Stmt.nesting rest)
  | .expr expr :: rest => max (expr.nesting + 1) (Stmt.nesting rest)
  | .assign _ value :: rest => max (value.nesting + 1) (Stmt.nesting rest)
  | .when condition yes :: rest =>
      max (max (condition.nesting + 1) (Stmt.nesting yes + 1)) (Stmt.nesting rest)
  | .choose condition yes no :: rest =>
      max (max (condition.nesting + 1) (max (Stmt.nesting yes + 1) (Stmt.nesting no + 1)))
        (Stmt.nesting rest)

end

theorem Expr.nestingAll_le_iff {exprs : List Expr} {room : Nat} :
    Expr.nestingAll exprs ≤ room ↔ ∀ expr ∈ exprs, expr.nesting + 1 ≤ room := by
  induction exprs with
  | nil => simp [Expr.nestingAll]
  | cons expr exprs ih =>
      rw [Expr.nestingAll, Nat.max_le, ih, List.forall_mem_cons]

theorem ArrayItem.nesting_le_iff {items : List ArrayItem} {room : Nat} :
    ArrayItem.nesting items ≤ room ↔
      ∀ item ∈ items, ∀ child ∈ item.children, child.nesting + 1 ≤ room := by
  induction items with
  | nil => simp [ArrayItem.nesting]
  | cons item items ih =>
      rw [List.forall_mem_cons, ← ih]
      cases item with
      | value e =>
          rw [ArrayItem.nesting, Nat.max_le]
          simp [ArrayItem.children]
      | pair key e =>
          rw [ArrayItem.nesting, Nat.max_le, Nat.max_le]
          simp [ArrayItem.children]

theorem Call.nesting_le_iff {calls : List Call} {room : Nat} :
    Call.nesting calls ≤ room ↔ ∀ call ∈ calls, Expr.nestingAll call.args ≤ room := by
  induction calls with
  | nil => simp [Call.nesting]
  | cons call calls ih =>
      rcases call with ⟨name, args⟩
      rw [Call.nesting, Nat.max_le, ih, List.forall_mem_cons]

theorem Call.nesting_append (before after : List Call) :
    Call.nesting (before ++ after) = max (Call.nesting before) (Call.nesting after) := by
  induction before with
  | nil => simp only [List.nil_append, Call.nesting, Nat.zero_max]
  | cons call before ih =>
      rcases call with ⟨name, args⟩
      rw [List.cons_append, Call.nesting, Call.nesting, ih, Nat.max_assoc]

theorem Call.nesting_singleton (call : Call) :
    Call.nesting [call] = Expr.nestingAll call.args := by
  rcases call with ⟨name, args⟩
  simp only [Call.nesting, Nat.max_zero]

/-!
# Longer chains
-/

namespace Chain

variable (chain : Chain) (calls : List Call)

def extend : Chain :=
  ⟨chain.root, chain.first, chain.rest ++ calls⟩

theorem isSpelled_extend :
    (chain.extend calls).isSpelled = (chain.isSpelled && calls.all Call.isSpelled) := by
  rcases chain with ⟨root, first, rest⟩
  cases root <;> simp only [extend, isSpelled, List.all_append, Bool.and_assoc]

theorem children_extend :
    (chain.extend calls).children = chain.children ++ calls.flatMap (·.args) := by
  rcases chain with ⟨root, first, rest⟩
  cases root <;>
    simp only [extend, children, List.flatMap_append, List.append_assoc, List.cons_append]

theorem grouped_extend :
    (Expr.chain (chain.extend calls)).Grouped = (Expr.chain chain).Grouped := by
  rcases chain with ⟨root, first, rest⟩
  cases root <;> rfl

theorem closed_extend : (Expr.chain (chain.extend calls)).Closed = (Expr.chain chain).Closed := by
  rcases chain with ⟨root, first, rest⟩
  cases root <;> rfl

theorem accesses_extend :
    (Expr.chain (chain.extend calls)).accesses = (Expr.chain chain).accesses := by
  rcases chain with ⟨root, first, rest⟩
  cases root <;> simp only [extend, Expr.accesses]

theorem nesting_extend : (Expr.chain (chain.extend calls)).nesting =
    max (Expr.chain chain).nesting (Call.nesting calls) := by
  rcases chain with ⟨root, ⟨name, args⟩, rest⟩
  cases root <;> simp only [extend, Expr.nesting, Call.nesting_append, Nat.max_assoc]

end Chain

/-!
# Tokens behind expressions
-/

namespace Token

/-- How firmly the token takes hold of an expression in front of it: an operator or a mark that the
expression goes on with, or nothing. -/
def grip : Token → Nat
  | .opening .round | .mark .doubleColon => 15
  | .mark .arrow => 14
  | .mark .question => 1
  | token =>
      match token.binaryOp? with
      | some op => op.precedence + 1
      | none => 0

def gripOf : List Token → Nat
  | [] => 0
  | token :: _ => token.grip

theorem gripOf_arrow_lt (rest : List Token) : gripOf (.mark .arrow :: rest) < 15 := by
  show 14 < 15
  decide

theorem grip_of_binaryOp? {token : Token} {op : BinaryOp} (h : token.binaryOp? = some op) :
    token.grip = op.precedence + 1 := by
  cases token with
  | name text => simp only [grip, h]
  | operator operator => simp only [grip, h]
  | opening bracket => cases h
  | mark m => cases h
  | _ => cases h

theorem binaryOp?_token (op : BinaryOp) : op.token.binaryOp? = some op := by
  cases op with
  | sign operator => rfl
  | wordAnd => decide
  | wordOr => decide

end Token

/-- A fragment that can be read. -/
structure Fragment.Readable (fragment : Fragment) : Prop where
  nonempty : fragment.items ≠ []
  readable : ∀ item ∈ fragment.items, item.Readable
  nesting : ∀ item ∈ fragment.items, item.nesting < nestingLimit

end FluentStyle
