import FluentStyle.Tree.Expr

/-!
# The weight of a tree

Every node of a tree counts once, and an array counts for the square of its length besides.
Wrapping some but not all elements of a list in a new one makes the tree lighter: the squares lose
more than the new nodes add.
-/

namespace FluentStyle

/-- What an array of the given length counts for besides its node. -/
def listWeight (length : Nat) : Nat :=
  8 * (length * length)

mutual

def Expr.weight : Expr → Nat
  | .literal _ | .number _ | .constant _ | .classConstant _ _ | .variable _ => 1
  | .array items => listWeight items.length + ArrayItem.weight items + 1
  | .closure (.arrow _ body) => body.weight + 1
  | .closure (.block _ _ body) => Stmt.weight body + 1
  | .chain ⟨.receiver object, ⟨_, args⟩, rest⟩ =>
      object.weight + (Expr.weightAll args + 1) + Call.weight rest + 1
  | .chain ⟨.static _, ⟨_, args⟩, rest⟩ => (Expr.weightAll args + 1) + Call.weight rest + 1
  | .chain ⟨.function, ⟨_, args⟩, rest⟩ => (Expr.weightAll args + 1) + Call.weight rest + 1
  | .property object _ => object.weight + 1
  | .unary _ operand => operand.weight + 1
  | .binary _ lhs rhs => lhs.weight + rhs.weight + 1
  | .ternary condition yes no => condition.weight + yes.weight + no.weight + 1
  | .elvis condition no => condition.weight + no.weight + 1
  | .group inner => inner.weight + 1

def Expr.weightAll : List Expr → Nat
  | [] => 0
  | expr :: rest => expr.weight + Expr.weightAll rest

def ArrayItem.weight : List ArrayItem → Nat
  | [] => 0
  | .value value :: rest => value.weight + ArrayItem.weight rest
  | .pair key value :: rest => key.weight + value.weight + ArrayItem.weight rest

def Call.weight : List Call → Nat
  | [] => 0
  | ⟨_, args⟩ :: rest => (Expr.weightAll args + 1) + Call.weight rest

def Stmt.weight : List Stmt → Nat
  | [] => 0
  | .leave :: rest => 1 + Stmt.weight rest
  | .give value :: rest => (value.weight + 1) + Stmt.weight rest
  | .expr expr :: rest => (expr.weight + 1) + Stmt.weight rest
  | .assign _ value :: rest => (value.weight + 1) + Stmt.weight rest
  | .when condition yes :: rest => (condition.weight + Stmt.weight yes + 1) + Stmt.weight rest
  | .choose condition yes no :: rest =>
      (condition.weight + Stmt.weight yes + Stmt.weight no + 1) + Stmt.weight rest

end

def Fragment.weight (fragment : Fragment) : Nat :=
  listWeight fragment.items.length + Expr.weightAll fragment.items + 1

end FluentStyle
