import FluentStyle.Tree.Site

/-!
# Changing the parts of an expression

One step of a walk over a tree: the expressions directly inside another one are changed in the order
in which they are read, by an action that may keep a record.
-/

namespace FluentStyle

variable {m : Type → Type} [Monad m]

def Call.mapArgsM (f : Expr → m Expr) (call : Call) : m Call :=
  return ⟨call.name, ← call.args.mapM f⟩

def ArrayItem.mapChildrenM (f : Expr → m Expr) : ArrayItem → m ArrayItem
  | .value expr => return .value (← f expr)
  | .pair key expr => do
      let key ← f key
      return .pair key (← f expr)

def Stmt.mapChildrenM (f : Expr → m Expr) : List Stmt → m (List Stmt)
  | [] => return []
  | .leave :: rest => return .leave :: (← mapChildrenM f rest)
  | .give e :: rest => do
      let e ← f e
      return .give e :: (← mapChildrenM f rest)
  | .expr e :: rest => do
      let e ← f e
      return .expr e :: (← mapChildrenM f rest)
  | .assign target e :: rest => do
      let e ← f e
      return .assign target e :: (← mapChildrenM f rest)
  | .when condition yes :: rest => do
      let condition ← f condition
      let yes ← mapChildrenM f yes
      return .when condition yes :: (← mapChildrenM f rest)
  | .choose condition yes no :: rest => do
      let condition ← f condition
      let yes ← mapChildrenM f yes
      let no ← mapChildrenM f no
      return .choose condition yes no :: (← mapChildrenM f rest)

def Chain.mapChildrenM (f : Expr → m Expr) : Chain → m Chain
  | ⟨.receiver object, first, rest⟩ => do
      let object ← f object
      let first ← first.mapArgsM f
      return ⟨.receiver object, first, ← rest.mapM (·.mapArgsM f)⟩
  | ⟨root, first, rest⟩ => do
      let first ← first.mapArgsM f
      return ⟨root, first, ← rest.mapM (·.mapArgsM f)⟩

def Closure.mapChildrenM (f : Expr → m Expr) : Closure → m Closure
  | .arrow params body => return .arrow params (← f body)
  | .block params captures body => return .block params captures (← Stmt.mapChildrenM f body)

def Expr.mapChildrenM (f : Expr → m Expr) : Expr → m Expr
  | .array items => return .array (← items.mapM (·.mapChildrenM f))
  | .closure c => return .closure (← c.mapChildrenM f)
  | .chain c => return .chain (← c.mapChildrenM f)
  | .property object name => return .property (← f object) name
  | .unary op operand => return .unary op (← f operand)
  | .binary op lhs rhs => do
      let lhs ← f lhs
      return .binary op lhs (← f rhs)
  | .ternary condition yes no => do
      let condition ← f condition
      let yes ← f yes
      return .ternary condition yes (← f no)
  | .elvis condition no => do
      let condition ← f condition
      return .elvis condition (← f no)
  | .group inner => return .group (← f inner)
  | leaf => return leaf

def Site.mapChildrenM (f : Expr → m Expr) : Site → m Site
  | .chain c => return .chain (← c.mapChildrenM f)
  | .closure c => return .closure (← c.mapChildrenM f)
  | .list items => return .list (← items.mapM f)

end FluentStyle
