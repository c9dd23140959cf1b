import FluentStyle.Tree.Expr

/-!
# Walking a tree

What a tree holds, in the order in which it is read: its calls, the variables it reads from the
scope around it, and its lists; and the change of every expression of a tree from the inside out.
-/

namespace FluentStyle

/-!
# Parts of a chain, a closure and an array

The first call of a chain is its constructor where it makes the value that the others are called
on.  A declaration is a chain on a class with one of certain constructors.
-/

namespace Chain

def calls (chain : Chain) : List Call :=
  chain.first :: chain.rest

def className? (chain : Chain) : Option String :=
  match chain.root with
  | .static className => some className
  | .function | .receiver _ => none

def constructor? (chain : Chain) : Option Call :=
  match chain.root with
  | .static _ | .function => some chain.first
  | .receiver _ => none

def modifiers (chain : Chain) : List Call :=
  match chain.root with
  | .static _ | .function => chain.rest
  | .receiver _ => chain.calls

/-- A declaration is a call chain on a class that starts with one of the given constructors. -/
def isDeclaration (constructors : List String) (chain : Chain) : Bool :=
  match chain.root with
  | .static _ => constructors.contains chain.first.name
  | .function | .receiver _ => false

/-- The string literal that stands first among the constructor's arguments, which names a
declared field. -/
def fieldName? (chain : Chain) : Option StringLiteral :=
  match chain.constructor? with
  | some ⟨_, .literal literal :: _⟩ => some literal
  | _ => none

def hasCall (name : String) (chain : Chain) : Bool :=
  chain.calls.any (·.name = name)

end Chain

namespace Call

def takesClosure (call : Call) : Bool :=
  call.args.any fun
    | .closure _ => true
    | _ => false

end Call

namespace Closure

def params : Closure → List Param
  | .arrow params _ => params
  | .block params _ _ => params

def binds (name : String) (closure : Closure) : Bool :=
  closure.params.any (·.name = name)

/-- The value of a block that does nothing but return it. -/
def onlyValue? : Closure → Option Expr
  | .block _ _ [.give value] => some value
  | _ => none

end Closure

namespace ArrayItem

def values? : List ArrayItem → Option (List Expr)
  | [] => some []
  | .value e :: rest => (values? rest).map (e :: ·)
  | .pair _ _ :: _ => none

theorem values?_eq_some {items : List ArrayItem} {values : List Expr} :
    values? items = some values ↔ items = values.map .value := by
  induction items generalizing values with
  | nil => cases values <;> simp [values?]
  | cons item rest ih =>
      cases item with
      | value e =>
          cases values with
          | nil => simp [values?]
          | cons first others =>
              simp only [values?, Option.map_eq_some_iff, ih, List.map_cons]
              constructor
              · rintro ⟨_, rfl, h⟩
                cases h
                rfl
              · intro h
                cases h
                exact ⟨others, rfl, rfl⟩
      | pair key value => cases values <;> simp [values?]

end ArrayItem

/-!
# Calls

Calls at every depth, each before those in its arguments.
-/

mutual

/-- The calls of an expression at every depth, each before those in its arguments. -/
def Expr.calls : Expr → List Call
  | .literal _ | .number _ | .constant _ | .classConstant _ _ | .variable _ => []
  | .array items => ArrayItem.calls items
  | .closure (.arrow _ body) => body.calls
  | .closure (.block _ _ body) => Stmt.calls body
  | .chain ⟨.receiver object, ⟨name, args⟩, rest⟩ =>
      object.calls ++ ⟨name, args⟩ :: (Expr.callsAll args ++ Call.callsAll rest)
  | .chain ⟨.static _, ⟨name, args⟩, rest⟩ =>
      ⟨name, args⟩ :: (Expr.callsAll args ++ Call.callsAll rest)
  | .chain ⟨.function, ⟨name, args⟩, rest⟩ =>
      ⟨name, args⟩ :: (Expr.callsAll args ++ Call.callsAll rest)
  | .property object _ => object.calls
  | .unary _ operand => operand.calls
  | .binary _ lhs rhs => lhs.calls ++ rhs.calls
  | .ternary condition yes no => condition.calls ++ (yes.calls ++ no.calls)
  | .elvis condition no => condition.calls ++ no.calls
  | .group inner => inner.calls

def Expr.callsAll : List Expr → List Call
  | [] => []
  | expr :: rest => expr.calls ++ Expr.callsAll rest

def ArrayItem.calls : List ArrayItem → List Call
  | [] => []
  | .value value :: rest => value.calls ++ ArrayItem.calls rest
  | .pair key value :: rest => key.calls ++ (value.calls ++ ArrayItem.calls rest)

def Call.callsAll : List Call → List Call
  | [] => []
  | ⟨name, args⟩ :: rest => ⟨name, args⟩ :: (Expr.callsAll args ++ Call.callsAll rest)

def Stmt.calls : List Stmt → List Call
  | [] => []
  | .leave :: rest => Stmt.calls rest
  | .give value :: rest => value.calls ++ Stmt.calls rest
  | .expr expr :: rest => expr.calls ++ Stmt.calls rest
  | .assign _ value :: rest => value.calls ++ Stmt.calls rest
  | .when condition yes :: rest => condition.calls ++ (Stmt.calls yes ++ Stmt.calls rest)
  | .choose condition yes no :: rest =>
      condition.calls ++ (Stmt.calls yes ++ (Stmt.calls no ++ Stmt.calls rest))

end

/-!
# Variables

Variables are listed as often as they are read.
-/

mutual

/-- The variables that an expression reads from the scope around it, with repetitions.  An arrow
function sees that scope but for its parameters; a block closure sees what it captures. -/
def Expr.freeVariables : Expr → List String
  | .literal _ | .number _ | .constant _ | .classConstant _ _ => []
  | .variable name => [name]
  | .array items => ArrayItem.freeVariables items
  | .closure (.arrow params body) =>
      body.freeVariables.filter fun name => !params.any (·.name = name)
  | .closure (.block _ captures _) => captures.map (·.name)
  | .chain ⟨.receiver object, ⟨_, args⟩, rest⟩ =>
      object.freeVariables ++ (Expr.freeVariablesAll args ++ Call.freeVariables rest)
  | .chain ⟨.static _, ⟨_, args⟩, rest⟩ =>
      Expr.freeVariablesAll args ++ Call.freeVariables rest
  | .chain ⟨.function, ⟨name, args⟩, rest⟩ =>
      let invoked := if name.toList.head? = some '$' then [name] else []
      invoked ++ (Expr.freeVariablesAll args ++ Call.freeVariables rest)
  | .property object _ => object.freeVariables
  | .unary _ operand => operand.freeVariables
  | .binary _ lhs rhs => lhs.freeVariables ++ rhs.freeVariables
  | .ternary condition yes no =>
      condition.freeVariables ++ (yes.freeVariables ++ no.freeVariables)
  | .elvis condition no => condition.freeVariables ++ no.freeVariables
  | .group inner => inner.freeVariables

def Expr.freeVariablesAll : List Expr → List String
  | [] => []
  | expr :: rest => expr.freeVariables ++ Expr.freeVariablesAll rest

def ArrayItem.freeVariables : List ArrayItem → List String
  | [] => []
  | .value value :: rest => value.freeVariables ++ ArrayItem.freeVariables rest
  | .pair key value :: rest =>
      key.freeVariables ++ (value.freeVariables ++ ArrayItem.freeVariables rest)

def Call.freeVariables : List Call → List String
  | [] => []
  | ⟨_, args⟩ :: rest => Expr.freeVariablesAll args ++ Call.freeVariables rest

end

/-!
# Lists

The lists of a fragment are its items and the arrays without keys in them, each before those inside
it.
-/

mutual

def Expr.lists : Expr → List (List Expr)
  | .literal _ | .number _ | .constant _ | .classConstant _ _ | .variable _ => []
  | .array items =>
      match ArrayItem.values? items with
      | some values => values :: ArrayItem.lists items
      | none => ArrayItem.lists items
  | .closure (.arrow _ body) => body.lists
  | .closure (.block _ _ body) => Stmt.lists body
  | .chain ⟨.receiver object, ⟨_, args⟩, rest⟩ =>
      object.lists ++ (Expr.listsAll args ++ Call.lists rest)
  | .chain ⟨.static _, ⟨_, args⟩, rest⟩ => Expr.listsAll args ++ Call.lists rest
  | .chain ⟨.function, ⟨_, args⟩, rest⟩ => Expr.listsAll args ++ Call.lists rest
  | .property object _ => object.lists
  | .unary _ operand => operand.lists
  | .binary _ lhs rhs => lhs.lists ++ rhs.lists
  | .ternary condition yes no => condition.lists ++ (yes.lists ++ no.lists)
  | .elvis condition no => condition.lists ++ no.lists
  | .group inner => inner.lists

def Expr.listsAll : List Expr → List (List Expr)
  | [] => []
  | expr :: rest => expr.lists ++ Expr.listsAll rest

def ArrayItem.lists : List ArrayItem → List (List Expr)
  | [] => []
  | .value value :: rest => value.lists ++ ArrayItem.lists rest
  | .pair key value :: rest => key.lists ++ (value.lists ++ ArrayItem.lists rest)

def Call.lists : List Call → List (List Expr)
  | [] => []
  | ⟨_, args⟩ :: rest => Expr.listsAll args ++ Call.lists rest

def Stmt.lists : List Stmt → List (List Expr)
  | [] => []
  | .leave :: rest => Stmt.lists rest
  | .give value :: rest => value.lists ++ Stmt.lists rest
  | .expr expr :: rest => expr.lists ++ Stmt.lists rest
  | .assign _ value :: rest => value.lists ++ Stmt.lists rest
  | .when condition yes :: rest => condition.lists ++ (Stmt.lists yes ++ Stmt.lists rest)
  | .choose condition yes no :: rest =>
      condition.lists ++ (Stmt.lists yes ++ (Stmt.lists no ++ Stmt.lists rest))

end

def Fragment.lists (fragment : Fragment) : List (List Expr) :=
  fragment.items :: Expr.listsAll fragment.items

/-!
# Changing every expression

The parts of an expression are changed before the expression.
-/

mutual

def Expr.map (f : Expr → Expr) : Expr → Expr
  | .literal literal => f (.literal literal)
  | .number raw => f (.number raw)
  | .constant name => f (.constant name)
  | .classConstant className name => f (.classConstant className name)
  | .variable name => f (.variable name)
  | .array items => f (.array (ArrayItem.mapAll f items))
  | .closure (.arrow params body) => f (.closure (.arrow params (body.map f)))
  | .closure (.block params captures body) =>
      f (.closure (.block params captures (Stmt.mapAll f body)))
  | .chain ⟨.static className, ⟨name, args⟩, rest⟩ =>
      f (.chain ⟨.static className, ⟨name, Expr.mapAll f args⟩, Call.mapAll f rest⟩)
  | .chain ⟨.function, ⟨name, args⟩, rest⟩ =>
      f (.chain ⟨.function, ⟨name, Expr.mapAll f args⟩, Call.mapAll f rest⟩)
  | .chain ⟨.receiver object, ⟨name, args⟩, rest⟩ =>
      f (.chain ⟨.receiver (object.map f), ⟨name, Expr.mapAll f args⟩, Call.mapAll f rest⟩)
  | .property object name => f (.property (object.map f) name)
  | .unary op operand => f (.unary op (operand.map f))
  | .binary op lhs rhs => f (.binary op (lhs.map f) (rhs.map f))
  | .ternary condition yes no => f (.ternary (condition.map f) (yes.map f) (no.map f))
  | .elvis condition no => f (.elvis (condition.map f) (no.map f))
  | .group inner => f (.group (inner.map f))

def Expr.mapAll (f : Expr → Expr) : List Expr → List Expr
  | [] => []
  | expr :: rest => expr.map f :: Expr.mapAll f rest

def ArrayItem.mapAll (f : Expr → Expr) : List ArrayItem → List ArrayItem
  | [] => []
  | .value value :: rest => .value (value.map f) :: ArrayItem.mapAll f rest
  | .pair key value :: rest => .pair (key.map f) (value.map f) :: ArrayItem.mapAll f rest

def Call.mapAll (f : Expr → Expr) : List Call → List Call
  | [] => []
  | ⟨name, args⟩ :: rest => ⟨name, Expr.mapAll f args⟩ :: Call.mapAll f rest

def Stmt.mapAll (f : Expr → Expr) : List Stmt → List Stmt
  | [] => []
  | .leave :: rest => .leave :: Stmt.mapAll f rest
  | .give value :: rest => .give (value.map f) :: Stmt.mapAll f rest
  | .expr expr :: rest => .expr (expr.map f) :: Stmt.mapAll f rest
  | .assign target value :: rest => .assign target (value.map f) :: Stmt.mapAll f rest
  | .when condition yes :: rest =>
      .when (condition.map f) (Stmt.mapAll f yes) :: Stmt.mapAll f rest
  | .choose condition yes no :: rest =>
      .choose (condition.map f) (Stmt.mapAll f yes) (Stmt.mapAll f no) :: Stmt.mapAll f rest

end

theorem Expr.mapAll_eq_map (f : Expr → Expr) (exprs : List Expr) :
    Expr.mapAll f exprs = exprs.map (Expr.map f) := by
  induction exprs with
  | nil => rfl
  | cons expr rest ih => simp [Expr.mapAll, ih]

theorem Expr.callsAll_eq_flatMap (exprs : List Expr) :
    Expr.callsAll exprs = exprs.flatMap Expr.calls := by
  induction exprs with
  | nil => rfl
  | cons expr rest ih => simp [Expr.callsAll, ih]

theorem Expr.listsAll_eq_flatMap (exprs : List Expr) :
    Expr.listsAll exprs = exprs.flatMap Expr.lists := by
  induction exprs with
  | nil => rfl
  | cons expr rest ih => simp [Expr.listsAll, ih]

end FluentStyle
