import FluentStyle.Proofs.Grammar.Reading

/-!
# What it is to be read back

An expression is read back if the readers of all kinds make it from its own tokens, given room
enough.  The readers of accesses and operators are loops: the first goes along the objects of chains
and the second along left operands, so to be read back is to bring such a loop to the point where
the expression is made.
-/

namespace FluentStyle

namespace Expr

open Token

/-!
# Steps of the loops
-/

section Applied

variable {room nested : Nat} {args : Parser (List Expr)}

theorem runApplied_stop {expr : Expr} {rest : List Token} (h : gripOf rest < 14) :
    runApplied room args nested expr rest = .ok (expr, rest) := by
  unfold runApplied
  split
  · exact absurd h (by simp [gripOf, grip])
  · exact absurd h (by simp [gripOf, grip])
  · exact absurd h (by simp [gripOf, grip])
  · exact absurd h (by simp [gripOf, grip])
  · rfl

theorem runApplied_access {object : Expr} {name : String} {rest : List Token}
    (hrest : rest.head? ≠ some (.opening .round)) (hroom : nested + 2 ≤ room) :
    runApplied room args nested object (.mark .arrow :: .name name :: rest) =
      runApplied room args (nested + 1) (.property object name) rest := by
  rw [runApplied]
  · rw [if_neg (by omega)]
  · rintro rest' rfl
    exact hrest rfl

theorem runApplied_call {chain : Chain} {name : String} {values : List Expr}
    {rest after : List Token} (h : args.run rest = .ok (values, after)) :
    runApplied room args nested (.chain chain)
        (.mark .arrow :: .name name :: .opening .round :: rest) =
      runApplied room args nested
        (.chain ⟨chain.root, chain.first, chain.rest ++ [⟨name, values⟩]⟩) after := by
  rw [runApplied]
  split
  · rename_i stuck herror
    rw [h] at herror
    cases herror
  · rename_i values' after' hok
    rw [h] at hok
    cases hok
    rfl

theorem runApplied_start {object : Expr} {name : String} {values : List Expr}
    {rest after : List Token} (hobject : 12 ≤ object.strength)
    (h : args.run rest = .ok (values, after)) (hroom : nested + 2 ≤ room) :
    runApplied room args nested object
        (.mark .arrow :: .name name :: .opening .round :: rest) =
      runApplied room args (nested + 1) (.chain ⟨.receiver object, ⟨name, values⟩, []⟩) after := by
  rw [runApplied]
  split
  · rename_i stuck herror
    rw [h] at herror
    cases herror
  · rename_i values' after' hok
    rw [h] at hok
    cases hok
    split
    · exact absurd hobject (by simp [strength])
    · rw [if_neg (by omega)]

theorem runApplied_variable {name : String} {values : List Expr} {rest after : List Token}
    (h : args.run rest = .ok (values, after)) :
    runApplied room args nested (.variable name) (.opening .round :: rest) =
      runApplied room args nested (.chain ⟨.function, ⟨name, values⟩, []⟩) after := by
  rw [runApplied]
  split
  · rename_i stuck herror
    rw [h] at herror
    cases herror
  · rename_i values' after' hok
    rw [h] at hok
    cases hok
    rfl

end Applied

section Operators

variable {room floor nested : Nat} {tighter : (op : BinaryOp) → floor < op.precedence → Parser Expr}

theorem runOperators_stop {lhs : Expr} {rest : List Token} (h : gripOf rest ≤ floor + 1) :
    runOperators room floor tighter nested lhs rest = .ok (lhs, rest) := by
  unfold runOperators
  split
  · rfl
  · rename_i token after
    split
    · rfl
    · rename_i op hop
      rw [dif_neg]
      have hgrip := grip_of_binaryOp? hop
      have hle : token.grip ≤ floor + 1 := h
      omega

theorem runOperators_step {lhs rhs : Expr} {op : BinaryOp} {rest after : List Token}
    (hop : floor < op.precedence) (h : (tighter op hop).run rest = .ok (rhs, after))
    (hroom : nested + 2 ≤ room) :
    runOperators room floor tighter nested lhs (op.token :: rest) =
      runOperators room floor tighter (nested + 1) (.binary op lhs rhs) after := by
  rw [runOperators]
  split
  · rename_i hnone
    rw [binaryOp?_token] at hnone
    cases hnone
  · rename_i op' hsome
    rw [binaryOp?_token] at hsome
    cases hsome
    rw [dif_pos hop, if_neg (by omega)]
    split
    · rename_i stuck herror
      rw [h] at herror
      cases herror
    · rename_i rhs' after' hok
      rw [h] at hok
      cases hok
      rfl

end Operators

end Expr

/-!
# Levels
-/

namespace Level

theorem run_unary_operator {room : Nat} {op : UnaryOp} {operand : Expr} {tokens rest : List Token}
    (h : (withRoom room).unary.run tokens = .ok (operand, rest)) :
    (withRoom (room + 1)).unary.run (op.token :: tokens) = .ok (.unary op operand, rest) := by
  show (unaryParser (room + 1) (some (withRoom room))).run (op.token :: tokens) = _
  unfold unaryParser
  rw [Parser.run_bind_ok (Parser.run_peek _)]
  have hop : (some op.token).bind Token.unaryOp? = some op := by cases op <;> rfl
  rw [List.head?_cons, hop]
  simp only
  rw [Parser.run_bind_ok (Parser.run_skip _ _)]
  exact Parser.run_bind_ok h _

theorem run_unary_primary {room : Nat} {token : Token} {more rest : List Token} {primary : Expr}
    (htoken : token.unaryOp? = none)
    (h : (Expr.primaryParser (withRoom room).expr (withRoom room).block).run (token :: more) =
      .ok (primary, rest)) :
    (withRoom room).unary.run (token :: more) =
      Expr.runApplied room (Call.argsParser (withRoom room).expr) 0 primary rest := by
  have hunary : ∀ inner : Option Level,
      (Expr.primaryParser (exprParser room inner) (blockParser inner)).run (token :: more) =
        .ok (primary, rest) →
      (unaryParser room inner).run (token :: more) =
        Expr.runApplied room (Call.argsParser (exprParser room inner)) 0 primary rest := by
    intro inner hprimary
    unfold unaryParser
    rw [Parser.run_bind_ok (Parser.run_peek _), List.head?_cons, Option.bind_some, htoken]
    simp only
    exact Parser.run_bind_ok hprimary _
  cases room with
  | zero => exact hunary none h
  | succ room => exact hunary (some (withRoom room)) h

theorem run_block {room : Nat} {stmts : List Stmt} {tokens rest : List Token}
    (h : (Stmt.allParser (withRoom room).expr (withRoom room).block).run tokens =
      .ok (stmts, .closing .curly :: rest)) :
    (withRoom (room + 1)).block.run (.opening .curly :: tokens) = .ok (stmts, rest) := by
  show (blockParser (some (withRoom room))).run (.opening .curly :: tokens) = _
  unfold blockParser
  rw [Parser.run_bind_ok (Parser.run_expect _ _ _)]
  have hwithin : (within (some (withRoom room))
      fun level => Stmt.allParser level.expr level.block).run tokens =
        .ok (stmts, .closing .curly :: rest) := h
  rw [Parser.run_bind_ok hwithin, Parser.run_bind_ok (Parser.run_expect _ _ _)]
  rfl

end Level

/-!
# Expressions that are read back

It is enough that the reader of operators reads the expression back, or that the reader of operands
gets to its end.  A whole expression that is no choice ends where no operator follows.
-/

namespace Expr

def tokens (expr : Expr) (level : Nat) : List Token :=
  Piece.tokens (expr.pieces level)

/-- The readers make the expression from the tokens that are printed for it, given room enough and
nothing behind them that the expression would go on with. -/
structure ReadsBack (expr : Expr) : Prop where
  starts : expr.firstToken.starts = true
  /-- The reader of operands gets to the end of the expression before it looks further. -/
  applied : 11 ≤ expr.strength → ∀ {level room : Nat} {rest : List Token}, expr.nesting ≤ room →
    Token.gripOf rest < 15 → (expr.isOpen = true → Token.gripOf rest = 0) →
      (Level.withRoom room).unary.run (expr.tokens level ++ rest) =
        runApplied room (Call.argsParser (Level.withRoom room).expr) expr.accesses expr rest
  operand : 10 ≤ expr.strength → ∀ {level room : Nat} {rest : List Token}, expr.nesting ≤ room →
    Token.gripOf rest < 14 → (expr.isOpen = true → Token.gripOf rest = 0) →
      (Level.withRoom room).unary.run (expr.tokens level ++ rest) = .ok (expr, rest)
  /-- So does the reader of operators. -/
  operators : ∀ {floor : Nat}, floor < expr.strength → ∀ {level room : Nat} {rest : List Token},
    expr.nesting ≤ room → Token.gripOf rest ≤ expr.strength + 1 →
    (expr.isOpen = true → Token.gripOf rest = 0) →
      (binaryParser room (Level.withRoom room).unary floor).run (expr.tokens level ++ rest) =
        runOperators room floor
          (fun op _ => binaryParser room (Level.withRoom room).unary op.precedence)
          expr.operators expr rest
  whole : ∀ {level room : Nat} {rest : List Token}, expr.nesting < room →
    Token.gripOf rest = 0 →
      (Level.withRoom room).expr.run (expr.tokens level ++ rest) = .ok (expr, rest)

theorem run_binaryParser {room floor : Nat} {operand : Parser Expr} {lhs : Expr}
    {tokens rest : List Token} (h : operand.run tokens = .ok (lhs, rest)) :
    (binaryParser room operand floor).run tokens =
      runOperators room floor (fun op _ => binaryParser room operand op.precedence) 0 lhs rest := by
  rw [binaryParser, Parser.run_bind_ok h]
  rfl

theorem run_whole {expr : Expr} {room : Nat} {tokens rest : List Token}
    (h : (binaryParser room (Level.withRoom room).unary 0).run tokens = .ok (expr, rest))
    (hrest : Token.gripOf rest = 0) :
    (Level.withRoom (room + 1)).expr.run tokens = .ok (expr, rest) := by
  show (conditionalParser room (Level.withRoom room).unary (Level.withRoom room).expr).run tokens =
    _
  have hquestion : rest.head? ≠ some (.mark .question) := by
    intro hhead
    cases rest with
    | nil => cases hhead
    | cons token rest =>
        cases hhead
        cases hrest
  unfold conditionalParser
  rw [Parser.run_bind_ok h, Parser.run_bind_ok (Parser.run_eat_of_ne hquestion)]
  rfl

theorem ReadsBack.of_operators {expr : Expr} (starts : expr.firstToken.starts = true)
    (hstrength : 0 < expr.strength) (hweak : expr.strength < 10)
    (operators : ∀ {floor : Nat}, floor < expr.strength → ∀ {level room : Nat} {rest : List Token},
      expr.nesting ≤ room → Token.gripOf rest ≤ expr.strength + 1 →
      (expr.isOpen = true → Token.gripOf rest = 0) →
        (binaryParser room (Level.withRoom room).unary floor).run (expr.tokens level ++ rest) =
          runOperators room floor
            (fun op _ => binaryParser room (Level.withRoom room).unary op.precedence)
            expr.operators expr rest) : expr.ReadsBack where
  starts := starts
  applied h := by omega
  operand h := by omega
  operators := operators
  whole {level room rest} hroom hrest := by
    rcases Nat.exists_eq_add_of_lt hroom with ⟨room, rfl⟩
    refine run_whole ?_ hrest
    rw [operators hstrength (by omega) (by omega) (fun _ => hrest)]
    exact runOperators_stop (by omega)

theorem ReadsBack.of_operand {expr : Expr} (starts : expr.firstToken.starts = true)
    (hstrength : 10 ≤ expr.strength)
    (applied : 11 ≤ expr.strength → ∀ {level room : Nat} {rest : List Token}, expr.nesting ≤ room →
      Token.gripOf rest < 15 → (expr.isOpen = true → Token.gripOf rest = 0) →
        (Level.withRoom room).unary.run (expr.tokens level ++ rest) =
          runApplied room (Call.argsParser (Level.withRoom room).expr) expr.accesses expr rest)
    (operand : ∀ {level room : Nat} {rest : List Token}, expr.nesting ≤ room →
      Token.gripOf rest < 14 → (expr.isOpen = true → Token.gripOf rest = 0) →
        (Level.withRoom room).unary.run (expr.tokens level ++ rest) = .ok (expr, rest)) :
    expr.ReadsBack where
  starts := starts
  applied := applied
  operand _ := operand
  operators {floor} _ {level room rest} hroom hrest hopen := by
    have hgrip : Token.gripOf rest < 14 :=
      Nat.lt_of_le_of_lt hrest (Nat.lt_succ_of_le (Nat.succ_le_succ expr.strength_le))
    rw [run_binaryParser (operand hroom hgrip hopen), operators_eq_zero hstrength]
  whole {level room rest} hroom hrest := by
    rcases Nat.exists_eq_add_of_lt hroom with ⟨room, rfl⟩
    refine run_whole ?_ hrest
    rw [run_binaryParser (operand (by omega) (by omega) (fun _ => hrest))]
    exact runOperators_stop (by omega)

/-- It is enough that the reader of operands gets to the end of the expression. -/
theorem ReadsBack.of_applied {expr : Expr} (starts : expr.firstToken.starts = true)
    (hstrength : 11 ≤ expr.strength)
    (applied : ∀ {level room : Nat} {rest : List Token}, expr.nesting ≤ room →
      Token.gripOf rest < 15 → (expr.isOpen = true → Token.gripOf rest = 0) →
        (Level.withRoom room).unary.run (expr.tokens level ++ rest) =
          runApplied room (Call.argsParser (Level.withRoom room).expr) expr.accesses expr rest) :
    expr.ReadsBack :=
  ReadsBack.of_operand starts (by omega) (fun _ => applied) fun hroom hrest hopen => by
    rw [applied hroom (by omega) hopen]
    exact runApplied_stop hrest

end Expr

end FluentStyle
