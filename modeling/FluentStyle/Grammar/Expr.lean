import FluentStyle.Grammar.Parser
import FluentStyle.Tree.Traversal

/-!
# The grammar of fragments

```text
fragment  := expr ("," expr)* ("," | ";")?
expr      := binary ("?" expr? ":" expr)?
binary    := unary (operator unary)*
unary     := ("!" | "-") unary | applied
applied   := primary ("->" name arguments? | arguments)*
primary   := literal | number | $var | array | closure | "(" expr ")"
           | name "::" name arguments | name "::" name | name arguments | name
closure   := "fn" parameters "=>" expr
           | "function" parameters ("use" "(" captures ")")? block
block     := "{" statement* "}"
statement := "return" expr? ";" | "if" "(" expr ")" block ("else" block)?
           | $var "=" expr ";" | expr ";"
```

Expressions, operands of prefix operators and blocks may nest 256 deep.  The readers for what lies
inside are made first, from the innermost level outwards, so a reader at one level is an ordinary
function of the readers one level in.
-/

namespace FluentStyle

/-!
# Levels of nesting

At the innermost level nothing can be read that lies inside.
-/

def nestingLimit : Nat := 256

/-- The readers at one level of nesting. -/
structure Level where
  expr : Parser Expr
  unary : Parser Expr
  block : Parser (List Stmt)

namespace Level

def within (inner : Option Level) (read : Level → Parser α) : Parser α :=
  match inner with
  | none => Parser.fail .nestingTooDeep
  | some level => read level

end Level

namespace Param

/-!
# Parameters and captured variables

Default values of parameters are refused.  A `use` clause may be left out.
-/

def hintParser (nullable : Bool) : Parser (Option TypeHint) := do
  match ← Parser.peek with
  | some (.name hint) => do
      Parser.skip
      pure (some ⟨nullable, hint⟩)
  | _ => if nullable then Parser.fail .missingType else pure none

def parser : Parser Param := do
  let nullable ← Parser.eat (.mark .question)
  let hint ← hintParser nullable
  let name ← Parser.variableName .parameter
  match ← Parser.peek with
  | some (.mark .assign) => Parser.fail .defaultValue
  | _ => pure ⟨hint, name⟩

def listParser : Parser (List Param) := do
  Parser.expect (.opening .round) .openingOfParameters
  let params ← Parser.list (.closing .round) parser
  Parser.expect (.closing .round) .endOfParameters
  pure params

end Param

namespace Capture

def parser : Parser Capture := do
  let byReference ← Parser.eat (.mark .ampersand)
  let name ← Parser.variableName .captured
  pure ⟨byReference, name⟩

def listParser : Parser (List Capture) := do
  if ← Parser.eat (.name "use") then
    Parser.expect (.opening .round) .openingAfterUse
    let captures ← Parser.list (.closing .round) parser
    Parser.expect (.closing .round) .endOfCaptures
    pure captures
  else pure []

end Capture

namespace Call

/-!
# Arguments, elements and closures

The readers start after the opening parenthesis, the opening bracket and the word `fn` or
`function`.
-/

def argsParser (expr : Parser Expr) : Parser (List Expr) := do
  let args ← Parser.list (.closing .round) expr
  Parser.expect (.closing .round) .endOfArguments
  pure args

end Call

namespace ArrayItem

def parser (expr : Parser Expr) : Parser ArrayItem := do
  let first ← expr
  if ← Parser.eat (.mark .fatArrow) then
    let value ← expr
    pure (.pair first value)
  else pure (.value first)

def listParser (expr : Parser Expr) : Parser (List ArrayItem) := do
  let items ← Parser.list (.closing .square) (parser expr)
  Parser.expect (.closing .square) .endOfArray
  pure items

end ArrayItem

namespace Closure

def arrowParser (expr : Parser Expr) : Parser Closure := do
  let params ← Param.listParser
  Parser.expect (.mark .fatArrow) .arrowBody
  let body ← expr
  pure (.arrow params body)

def blockParser (block : Parser (List Stmt)) : Parser Closure := do
  let params ← Param.listParser
  let captures ← Capture.listParser
  let body ← block
  pure (.block params captures body)

end Closure

namespace Expr

/-!
# Expressions

A name that starts an expression is that of a function or of a class, or a constant.  An operand is
followed by accesses and calls, and operands have operators between them that bind tighter than a
floor.
-/

def namedParser (expr : Parser Expr) (name : String) : Parser Expr := do
  if ← Parser.eat (.mark .doubleColon) then
    let member ← Parser.name .memberAfterDoubleColon
    if ← Parser.eat (.opening .round) then
      let args ← Call.argsParser expr
      pure (.chain ⟨.static name, ⟨member, args⟩, []⟩)
    else pure (.classConstant name member)
  else if ← Parser.eat (.opening .round) then
    let args ← Call.argsParser expr
    pure (.chain ⟨.function, ⟨name, args⟩, []⟩)
  else pure (.constant name)

def reserved : List String := ["return", "if", "else", "use"]

def primaryParser (expr : Parser Expr) (block : Parser (List Stmt)) : Parser Expr := do
  match ← Parser.peek with
  | some (.literal raw) => do
      Parser.skip
      pure (.literal ⟨raw⟩)
  | some (.number raw) => do
      Parser.skip
      pure (.number raw)
  | some (.variable name) => do
      Parser.skip
      pure (.variable name)
  | some (.opening .square) => do
      Parser.skip
      let items ← ArrayItem.listParser expr
      pure (.array items)
  | some (.opening .round) => do
      Parser.skip
      let inner ← expr
      Parser.expect (.closing .round) .closingParenthesis
      pure (.group inner)
  | some (.name word) =>
      if word = "fn" then do
        Parser.skip
        let closure ← Closure.arrowParser expr
        pure (.closure closure)
      else if word = "function" then do
        Parser.skip
        let closure ← Closure.blockParser block
        pure (.closure closure)
      else if word = "new" then Parser.fail .newExpression
      else if word ∈ reserved then Parser.fail (.keyword word)
      else do
        Parser.skip
        namedParser expr word
  | _ => Parser.failAt .noExpression

/-- Reads the accesses and calls that follow an expression.  A call extends the chain before it;
on anything else it starts a new chain, which nests one deeper, as does access to a property.
`nested` counts how often that happened, and `room` how often it may. -/
def runApplied (room : Nat) (args : Parser (List Expr)) (nested : Nat) (expr : Expr)
    (tokens : List Token) : Except Stuck (Expr × List Token) :=
  match tokens with
  | .mark .arrow :: .name member :: .opening .round :: rest =>
      match _reading : args.run rest with
      | .error stuck => .error stuck
      | .ok (values, after) =>
          match expr with
          | .chain c =>
              runApplied room args nested
                (.chain ⟨c.root, c.first, c.rest ++ [⟨member, values⟩]⟩) after
          | object =>
              if room ≤ nested + 1 then .error ⟨after.length, .nestingTooDeep⟩
              else
                runApplied room args (nested + 1)
                  (.chain ⟨.receiver object, ⟨member, values⟩, []⟩) after
  | .mark .arrow :: .name member :: rest =>
      if room ≤ nested + 1 then .error ⟨rest.length, .nestingTooDeep⟩
      else runApplied room args (nested + 1) (.property expr member) rest
  | .mark .arrow :: rest => .error ⟨rest.length, .missing .memberAfterArrow rest.head?⟩
  | .opening .round :: rest =>
      match expr with
      | .variable name =>
          match _reading : args.run rest with
          | .error stuck => .error stuck
          | .ok (values, after) =>
              runApplied room args nested (.chain ⟨.function, ⟨name, values⟩, []⟩) after
      | expr => .ok (expr, .opening .round :: rest)
  | tokens => .ok (expr, tokens)
termination_by tokens.length
decreasing_by
  · have := Parser.length_le _reading
    simp only [List.length_cons]
    omega
  · have := Parser.length_le _reading
    simp only [List.length_cons]
    omega
  · simp only [List.length_cons]
    omega
  · have := Parser.length_le _reading
    simp only [List.length_cons]
    omega

theorem suffix_of_runApplied {room : Nat} {args : Parser (List Expr)} {nested : Nat} {expr : Expr}
    {tokens rest : List Token} {result : Expr}
    (h : runApplied room args nested expr tokens = .ok (result, rest)) : rest <:+ tokens := by
  fun_induction runApplied room args nested expr tokens generalizing result rest with
  | case1 | case3 | case5 | case7 | case8 => cases h
  | case2 _ _ _ _ _ hargs _ ih =>
      exact (ih h).trans ((args.suffix hargs).trans ⟨[_, _, _], rfl⟩)
  | case4 _ _ _ _ _ hargs _ _ _ ih =>
      exact (ih h).trans ((args.suffix hargs).trans ⟨[_, _, _], rfl⟩)
  | case6 _ _ _ _ _ _ ih => exact (ih h).trans ⟨[_, _], rfl⟩
  | case9 _ _ _ _ _ hargs ih =>
      exact (ih h).trans ((args.suffix hargs).trans (List.suffix_cons _ _))
  | case10 | case11 =>
      cases h
      exact List.suffix_refl _

def appliedParser (room : Nat) (args : Parser (List Expr)) (expr : Expr) : Parser Expr where
  run := runApplied room args 0 expr
  suffix := suffix_of_runApplied

/-- Reads the operators and right operands that follow a left operand, as long as the operators bind
tighter than `floor`.  A right operand takes the operators that bind tighter still, so operators
group to the left.  `nested` counts the operators, and `room` says how many there may be. -/
def runOperators (room floor : Nat)
    (tighter : (op : BinaryOp) → floor < op.precedence → Parser Expr) (nested : Nat) (lhs : Expr)
    (tokens : List Token) : Except Stuck (Expr × List Token) :=
  match tokens with
  | [] => .ok (lhs, [])
  | token :: rest =>
      match token.binaryOp? with
      | none => .ok (lhs, token :: rest)
      | some op =>
          if h : floor < op.precedence then
            if room ≤ nested + 1 then .error ⟨rest.length + 1, .nestingTooDeep⟩
            else
              match _reading : (tighter op h).run rest with
              | .error stuck => .error stuck
              | .ok (rhs, after) =>
                  runOperators room floor tighter (nested + 1) (.binary op lhs rhs) after
          else .ok (lhs, token :: rest)
termination_by tokens.length
decreasing_by
  have := Parser.length_le _reading
  simp only [List.length_cons]
  omega

theorem suffix_of_runOperators {room floor : Nat}
    {tighter : (op : BinaryOp) → floor < op.precedence → Parser Expr} {nested : Nat} {lhs : Expr}
    {tokens rest : List Token} {result : Expr}
    (h : runOperators room floor tighter nested lhs tokens = .ok (result, rest)) :
    rest <:+ tokens := by
  fun_induction runOperators room floor tighter nested lhs tokens generalizing result rest with
  | case1 | case2 | case6 =>
      cases h
      exact List.suffix_refl _
  | case3 | case4 => cases h
  | case5 _ _ _ _ op _ hop _ _ _ hrhs ih =>
      exact (ih h).trans (((tighter op hop).suffix hrhs).trans (List.suffix_cons _ _))

def operatorsParser (room floor : Nat)
    (tighter : (op : BinaryOp) → floor < op.precedence → Parser Expr) (lhs : Expr) :
    Parser Expr where
  run := runOperators room floor tighter 0 lhs
  suffix := suffix_of_runOperators

def binaryParser (room : Nat) (operand : Parser Expr) (floor : Nat) : Parser Expr := do
  let lhs ← operand
  operatorsParser room floor (fun op _ => binaryParser room operand op.precedence) lhs
termination_by 9 - floor
decreasing_by
  have := op.precedence_le
  omega

/-- Reads an expression, given the readers of the operands and of whole expressions inside it. -/
def conditionalParser (room : Nat) (operand expr : Parser Expr) : Parser Expr := do
  let condition ← binaryParser room operand 0
  if ← Parser.eat (.mark .question) then
    match ← Parser.peek with
    | some (.mark .colon) => do
        Parser.skip
        let no ← expr
        pure (.elvis condition no)
    | _ => do
        let yes ← expr
        Parser.expect (.mark .colon) .ternaryColon
        let no ← expr
        pure (.ternary condition yes no)
  else pure condition

end Expr

namespace Stmt

def parser (expr : Parser Expr) (block : Parser (List Stmt)) : Parser Stmt := do
  match ← Parser.peek, ← Parser.peekSecond with
  | some (.name "return"), _ => do
      Parser.skip
      if ← Parser.eat (.mark .semicolon) then pure .leave
      else
        let value ← expr
        Parser.expect (.mark .semicolon) .endOfReturn
        pure (.give value)
  | some (.name "if"), _ => do
      Parser.skip
      Parser.expect (.opening .round) .openingAfterIf
      let condition ← expr
      Parser.expect (.closing .round) .endOfCondition
      let yes ← block
      if ← Parser.eat (.name "else") then
        let no ← block
        pure (.choose condition yes no)
      else pure (.when condition yes)
  | some (.variable target), some (.mark .assign) => do
      Parser.skip
      Parser.skip
      let value ← expr
      Parser.expect (.mark .semicolon) .endOfAssignment
      pure (.assign target value)
  | _, _ => do
      let value ← expr
      Parser.expect (.mark .semicolon) .endOfExpression
      pure (.expr value)

theorem consumes_statement (expr : Parser Expr) (block : Parser (List Stmt)) :
    (parser expr block).Consumes := by
  refine Parser.consumes_bind_right fun next => Parser.consumes_bind_right fun second => ?_
  split
  · refine Parser.consumes_bind_right fun _ => Parser.consumes_eat ?_
    exact Parser.consumes_bind_right fun _ =>
      Parser.consumes_bind_left (Parser.consumes_expect _ _)
  · exact Parser.consumes_bind_right fun _ =>
      Parser.consumes_bind_left (Parser.consumes_expect _ _)
  · refine Parser.consumes_bind_right fun _ => Parser.consumes_bind_right fun _ => ?_
    exact Parser.consumes_bind_right fun _ =>
      Parser.consumes_bind_left (Parser.consumes_expect _ _)
  · exact Parser.consumes_bind_right fun _ =>
      Parser.consumes_bind_left (Parser.consumes_expect _ _)

/-!
# Statements

Statements are read up to a closing brace, which stays.
-/

def runAll (expr : Parser Expr) (block : Parser (List Stmt)) (tokens : List Token) :
    Except Stuck (List Stmt × List Token) :=
  if tokens.head? = some (.closing .curly) then .ok ([], tokens)
  else
    match _reading : (parser expr block).run tokens with
    | .error stuck => .error stuck
    | .ok (stmt, rest) =>
        match runAll expr block rest with
        | .error stuck => .error stuck
        | .ok (stmts, after) => .ok (stmt :: stmts, after)
termination_by tokens.length
decreasing_by exact consumes_statement expr block _reading

theorem suffix_of_runAll {expr : Parser Expr} {block : Parser (List Stmt)}
    {tokens rest : List Token} {stmts : List Stmt}
    (h : runAll expr block tokens = .ok (stmts, rest)) : rest <:+ tokens := by
  fun_induction runAll expr block tokens generalizing stmts rest with
  | case1 => cases h; exact List.suffix_refl _
  | case2 | case3 => cases h
  | case4 _ _ _ _ hstmt _ _ hrest ih =>
      cases h
      exact (ih hrest).trans ((parser expr block).suffix hstmt)

def allParser (expr : Parser Expr) (block : Parser (List Stmt)) : Parser (List Stmt) where
  run := runAll expr block
  suffix := suffix_of_runAll

end Stmt

namespace Level

/-!
# Readers of a level

Whole expressions, the statements of a block and the operand of a prefix operator lie one level in.
-/

def exprParser (room : Nat) (inner : Option Level) : Parser Expr :=
  within inner fun level => Expr.conditionalParser (room - 1) level.unary level.expr

def blockParser (inner : Option Level) : Parser (List Stmt) := do
  Parser.expect (.opening .curly) .openingBrace
  let stmts ← within inner fun level => Stmt.allParser level.expr level.block
  Parser.expect (.closing .curly) .closingBrace
  pure stmts

/-- Reads an operand: prefix operators, each of which lies one level in, or an expression with the
accesses and calls that follow it. -/
def unaryParser (room : Nat) (inner : Option Level) : Parser Expr := do
  match (← Parser.peek).bind Token.unaryOp? with
  | some op => do
      Parser.skip
      let operand ← within inner Level.unary
      pure (.unary op operand)
  | none => do
      let expr := exprParser room inner
      let primary ← Expr.primaryParser expr (blockParser inner)
      Expr.appliedParser room (Call.argsParser expr) primary

def around (room : Nat) (inner : Option Level) : Level where
  expr := exprParser room inner
  unary := unaryParser room inner
  block := blockParser inner

def withRoom : Nat → Level
  | 0 => around 0 none
  | room + 1 => around (room + 1) (some (withRoom room))

end Level

namespace Fragment

/-!
# Fragments

Behind the last item there may be punctuation.
-/

def runItems (expr : Parser Expr) (tokens : List Token) :
    Except Stuck ((List Expr × Ending) × List Token) :=
  match _reading : expr.run tokens with
  | .error stuck => .error stuck
  | .ok (item, [.mark .comma]) => .ok (([item], .comma), [])
  | .ok (item, .mark .comma :: rest) =>
      match runItems expr rest with
      | .error stuck => .error stuck
      | .ok ((items, ending), after) => .ok ((item :: items, ending), after)
  | .ok (item, .mark .semicolon :: rest) => .ok (([item], .semicolon), rest)
  | .ok (item, rest) => .ok (([item], .none), rest)
termination_by tokens.length
decreasing_by
  have := Parser.length_le _reading
  simp only [List.length_cons] at this
  omega

def ofTokens (tokens : List Token) : Except Stuck Fragment :=
  match runItems (Level.withRoom nestingLimit).expr tokens with
  | .error stuck => .error stuck
  | .ok ((items, ending), []) => .ok ⟨items, ending⟩
  | .ok (_, next :: rest) => .error ⟨rest.length + 1, .missing .endOfFragment (some next)⟩

end Fragment

end FluentStyle
