import FluentStyle.Grammar.Expr

/-!
# Reading with a cursor and a counter

The grammar read by functions that call one another.  They share a list of tokens, the last of which
is the end of the fragment, a cursor into it, and a counter of the expressions and blocks that are
open.  Nothing in the functions bounds how deep their calls nest: a call that nests too deep for a
given number of calls does not come back, and reading ends if some number of calls is enough.
-/

namespace FluentStyle

/-- The variable to which a statement assigns that starts with the two tokens. -/
def Stmt.target? : Option Token → Option Token → Option String
  | some (.variable target), some (.mark .assign) => some target
  | _, _ => none

namespace Descent

/-- Where reading is, and how many expressions and blocks are open there. -/
structure Position where
  cursor : Nat
  depth : Nat
deriving DecidableEq, Repr

/-- Where reading got stuck, and why. -/
structure Halt where
  cursor : Nat
  reason : Reason
deriving DecidableEq, Repr

end Descent

/-- Reading from a position on, which comes to a value and the position after it, or gets stuck, or
does not come back. -/
abbrev Descent := StateT Descent.Position (ExceptT Descent.Halt Option)

namespace Descent

/-- The functions that the others call. -/
structure Calls where
  expr : Descent Expr
  ternary : Descent Expr
  binary : Nat → Descent Expr
  operators : Nat → Nat → Expr → Descent Expr
  unary : Descent Expr
  applied : Descent Expr
  accesses : Nat → Expr → Descent Expr
  primary : Descent Expr
  named : String → Descent Expr
  args : Descent (List Expr)
  argList : Descent (List Expr)
  array : Descent Expr
  item : Descent ArrayItem
  itemList : Descent (List ArrayItem)
  arrowClosure : Descent Expr
  blockClosure : Descent Expr
  params : Descent (List Param)
  paramList : Descent (List Param)
  param : Descent Param
  captures : Descent (List Capture)
  useClause : Descent (List Capture)
  captureList : Descent (List Capture)
  capture : Descent Capture
  block : Descent (List Stmt)
  stmtList : Descent (List Stmt)
  stmt : Descent Stmt
  exprList : Descent (List Expr × Ending)

/-! The end of the fragment is the token `none`. -/

variable (tokens : List (Option Token))

def peekAt (offset : Nat) : Descent (Option Token) := do
  let position ← get
  pure tokens[min (position.cursor + offset) (tokens.length - 1)]?.join

def peek : Descent (Option Token) :=
  peekAt tokens 0

def advance : Descent (Option Token) := do
  let token ← peek tokens
  if token.isSome then modify fun position => { position with cursor := position.cursor + 1 }
  pure token

def fail (reason : Reason) : Descent α := do
  let position ← get
  throw ⟨position.cursor, reason⟩

def unexpected (expected : Expectation) : Descent α := do
  let token ← peek tokens
  fail (.missing expected token)

def isNext (token : Token) : Descent Bool := do
  let next ← peek tokens
  pure (next = some token)

def isAtEnd : Descent Bool := do
  let next ← peek tokens
  pure (next = none)

def eat (token : Token) : Descent Bool := do
  if ← isNext tokens token then
    let _ ← advance tokens
    pure true
  else pure false

def expect (token : Token) (expected : Expectation) : Descent Unit := do
  if ← eat tokens token then pure () else unexpected tokens expected

def name (expected : Expectation) : Descent String := do
  match ← peek tokens with
  | some (.name text) => do
      let _ ← advance tokens
      pure text
  | _ => unexpected tokens expected

def variableName (expected : Expectation) : Descent String := do
  match ← peek tokens with
  | some (.variable text) => do
      let _ ← advance tokens
      pure text
  | _ => unexpected tokens expected

/-- Checks that nothing nests too deep.  With nothing extra this opens a level; what is extra counts
levels that a loop has built within the one that is open. -/
def descend (extra : Nat) : Descent Unit := do
  let position ← get
  if nestingLimit ≤ position.depth + extra then fail .nestingTooDeep
  else if extra = 0 then set { position with depth := position.depth + 1 }

def ascend : Descent Unit :=
  modify fun position => { position with depth := position.depth - 1 }

/-! Each function is given those that it calls. -/

variable (calls : Calls)

def list (close : Token) (item : Descent α) (others : Descent (List α)) : Descent (List α) := do
  if ← isNext tokens close then pure []
  else
    let first ← item
    if ← eat tokens (.mark .comma) then
      let others ← others
      pure (first :: others)
    else pure [first]

def hint (nullable : Bool) : Descent (Option TypeHint) := do
  match ← peek tokens with
  | some (.name hint) => do
      let _ ← advance tokens
      pure (some ⟨nullable, hint⟩)
  | _ => if nullable then fail .missingType else pure none

def param : Descent Param := do
  let nullable ← eat tokens (.mark .question)
  let hint ← hint tokens nullable
  let name ← variableName tokens .parameter
  if ← isNext tokens (.mark .assign) then fail .defaultValue else pure ⟨hint, name⟩

def params : Descent (List Param) := do
  expect tokens (.opening .round) .openingOfParameters
  let params ← calls.paramList
  expect tokens (.closing .round) .endOfParameters
  pure params

def paramList : Descent (List Param) :=
  list tokens (.closing .round) calls.param calls.paramList

def capture : Descent Capture := do
  let byReference ← eat tokens (.mark .ampersand)
  let name ← variableName tokens .captured
  pure ⟨byReference, name⟩

def captures : Descent (List Capture) := do
  if ← eat tokens (.name "use") then calls.useClause else pure []

def useClause : Descent (List Capture) := do
  expect tokens (.opening .round) .openingAfterUse
  let captures ← calls.captureList
  expect tokens (.closing .round) .endOfCaptures
  pure captures

def captureList : Descent (List Capture) :=
  list tokens (.closing .round) calls.capture calls.captureList

def expr : Descent Expr := do
  descend 0
  let result ← calls.ternary
  ascend
  pure result

def ternary : Descent Expr := do
  let condition ← calls.binary 0
  if ← eat tokens (.mark .question) then
    if ← isNext tokens (.mark .colon) then
      expect tokens (.mark .colon) .ternaryColon
      let no ← calls.expr
      pure (.elvis condition no)
    else
      let yes ← calls.expr
      expect tokens (.mark .colon) .ternaryColon
      let no ← calls.expr
      pure (.ternary condition yes no)
  else pure condition

def binary (floor : Nat) : Descent Expr := do
  let lhs ← calls.unary
  calls.operators floor 0 lhs

def operators (floor nested : Nat) (lhs : Expr) : Descent Expr := do
  match (← peek tokens).bind Token.binaryOp? with
  | none => pure lhs
  | some op =>
      if op.precedence ≤ floor then pure lhs
      else
        descend (nested + 1)
        let _ ← advance tokens
        let rhs ← calls.binary op.precedence
        calls.operators floor (nested + 1) (.binary op lhs rhs)

def unary : Descent Expr := do
  match (← peek tokens).bind Token.unaryOp? with
  | none => calls.applied
  | some op =>
      let _ ← advance tokens
      descend 0
      let operand ← calls.unary
      ascend
      pure (.unary op operand)

def applied : Descent Expr := do
  let first ← calls.primary
  calls.accesses 0 first

def accesses (nested : Nat) (first : Expr) : Descent Expr := do
  if ← eat tokens (.mark .arrow) then
    let member ← name tokens .memberAfterArrow
    if ← isNext tokens (.opening .round) then
      let values ← calls.args
      match first with
      | .chain c => calls.accesses nested (.chain ⟨c.root, c.first, c.rest ++ [⟨member, values⟩]⟩)
      | receiver =>
          descend (nested + 1)
          calls.accesses (nested + 1) (.chain ⟨.receiver receiver, ⟨member, values⟩, []⟩)
    else
      descend (nested + 1)
      calls.accesses (nested + 1) (.property first member)
  else
    match first with
    | .variable name =>
        if ← isNext tokens (.opening .round) then
          let values ← calls.args
          calls.accesses nested (.chain ⟨.function, ⟨name, values⟩, []⟩)
        else pure (.variable name)
    | first => pure first

def primary : Descent Expr := do
  let start ← get
  match ← advance tokens with
  | some (.literal raw) => pure (.literal ⟨raw⟩)
  | some (.number raw) => pure (.number raw)
  | some (.variable name) => pure (.variable name)
  | some (.opening .square) => calls.array
  | some (.opening .round) =>
      let inner ← calls.expr
      expect tokens (.closing .round) .closingParenthesis
      pure (.group inner)
  | some (.name word) =>
      if word = "fn" then calls.arrowClosure
      else if word = "function" then calls.blockClosure
      else if word = "new" then throw ⟨start.cursor, .newExpression⟩
      else if word ∈ Expr.reserved then throw ⟨start.cursor, .keyword word⟩
      else calls.named word
  | token => throw ⟨start.cursor, .noExpression token⟩

def named (word : String) : Descent Expr := do
  if ← eat tokens (.mark .doubleColon) then
    let member ← name tokens .memberAfterDoubleColon
    if ← isNext tokens (.opening .round) then
      let values ← calls.args
      pure (.chain ⟨.static word, ⟨member, values⟩, []⟩)
    else pure (.classConstant word member)
  else if ← isNext tokens (.opening .round) then
    let values ← calls.args
    pure (.chain ⟨.function, ⟨word, values⟩, []⟩)
  else pure (.constant word)

def args : Descent (List Expr) := do
  expect tokens (.opening .round) .openingParenthesis
  let values ← calls.argList
  expect tokens (.closing .round) .endOfArguments
  pure values

def argList : Descent (List Expr) :=
  list tokens (.closing .round) calls.expr calls.argList

def array : Descent Expr := do
  let items ← calls.itemList
  expect tokens (.closing .square) .endOfArray
  pure (.array items)

def item : Descent ArrayItem := do
  let first ← calls.expr
  if ← eat tokens (.mark .fatArrow) then
    let value ← calls.expr
    pure (.pair first value)
  else pure (.value first)

def itemList : Descent (List ArrayItem) :=
  list tokens (.closing .square) calls.item calls.itemList

def arrowClosure : Descent Expr := do
  let params ← calls.params
  expect tokens (.mark .fatArrow) .arrowBody
  let body ← calls.expr
  pure (.closure (.arrow params body))

def blockClosure : Descent Expr := do
  let params ← calls.params
  let captures ← calls.captures
  let body ← calls.block
  pure (.closure (.block params captures body))

def block : Descent (List Stmt) := do
  expect tokens (.opening .curly) .openingBrace
  descend 0
  let stmts ← calls.stmtList
  ascend
  expect tokens (.closing .curly) .closingBrace
  pure stmts

def stmtList : Descent (List Stmt) := do
  if ← isNext tokens (.closing .curly) then pure []
  else
    let first ← calls.stmt
    let others ← calls.stmtList
    pure (first :: others)

def stmt : Descent Stmt := do
  if ← eat tokens (.name "return") then
    if ← eat tokens (.mark .semicolon) then pure .leave
    else
      let value ← calls.expr
      expect tokens (.mark .semicolon) .endOfReturn
      pure (.give value)
  else if ← eat tokens (.name "if") then
    expect tokens (.opening .round) .openingAfterIf
    let condition ← calls.expr
    expect tokens (.closing .round) .endOfCondition
    let yes ← calls.block
    if ← eat tokens (.name "else") then
      let no ← calls.block
      pure (.choose condition yes no)
    else pure (.when condition yes)
  else
    match Stmt.target? (← peek tokens) (← peekAt tokens 1) with
    | some target =>
        let _ ← advance tokens
        let _ ← advance tokens
        let value ← calls.expr
        expect tokens (.mark .semicolon) .endOfAssignment
        pure (.assign target value)
    | none =>
        let value ← calls.expr
        expect tokens (.mark .semicolon) .endOfExpression
        pure (.expr value)

def exprList : Descent (List Expr × Ending) := do
  let first ← calls.expr
  if ← eat tokens (.mark .comma) then
    if ← isAtEnd tokens then pure ([first], .comma)
    else
      let (others, ending) ← calls.exprList
      pure (first :: others, ending)
  else if ← eat tokens (.mark .semicolon) then pure ([first], .semicolon)
  else pure ([first], .none)

def toEnd : Descent Fragment := do
  let (items, ending) ← calls.exprList
  if ← isAtEnd tokens then pure ⟨items, ending⟩ else unexpected tokens .endOfFragment

def fragment : Descent Fragment := do
  if ← isAtEnd tokens then throw ⟨0, .emptyFragment⟩ else toEnd tokens calls

/-! # Calls that nest -/

def Calls.never : Calls where
  expr _ := none
  ternary _ := none
  binary _ _ := none
  operators _ _ _ _ := none
  unary _ := none
  applied _ := none
  accesses _ _ _ := none
  primary _ := none
  named _ _ := none
  args _ := none
  argList _ := none
  array _ := none
  item _ := none
  itemList _ := none
  arrowClosure _ := none
  blockClosure _ := none
  params _ := none
  paramList _ := none
  param _ := none
  captures _ := none
  useClause _ := none
  captureList _ := none
  capture _ := none
  block _ := none
  stmtList _ := none
  stmt _ := none
  exprList _ := none

def around : Calls where
  expr := expr calls
  ternary := ternary tokens calls
  binary := binary calls
  operators := operators tokens calls
  unary := unary tokens calls
  applied := applied calls
  accesses := accesses tokens calls
  primary := primary tokens calls
  named := named tokens calls
  args := args tokens calls
  argList := argList tokens calls
  array := array tokens calls
  item := item tokens calls
  itemList := itemList tokens calls
  arrowClosure := arrowClosure tokens calls
  blockClosure := blockClosure calls
  params := params tokens calls
  paramList := paramList tokens calls
  param := param tokens
  captures := captures tokens calls
  useClause := useClause tokens calls
  captureList := captureList tokens calls
  capture := capture tokens
  block := block tokens calls
  stmtList := stmtList tokens calls
  stmt := stmt tokens calls
  exprList := exprList tokens calls

/-- The functions, with calls that nest so deep and not deeper. -/
def nested : Nat → Calls
  | 0 => .never
  | count + 1 => around tokens (nested count)

end Descent

end FluentStyle
