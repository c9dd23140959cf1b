import FluentStyle.Proofs.Grammar.Soundness
import Mathlib.Tactic.SplitIfs

/-!
# Progress of the readers

Every reader of an expression, a block or a part of them that succeeds has read a token, and every
loop over readers goes around as the grammar says.
-/

namespace FluentStyle

namespace Parser

instance : LawfulMonad Parser :=
  LawfulMonad.mk' Parser
    (by
      intro α p
      refine Parser.ext fun tokens => ?_
      show (p >>= pure).run tokens = p.run tokens
      rw [run_bind]
      rcases p.run tokens with stuck | ⟨a, rest⟩ <;> rfl)
    (by
      intro α β a f
      rfl)
    (by
      intro α β γ p f g
      refine Parser.ext fun tokens => ?_
      rw [run_bind, run_bind, run_bind]
      rcases p.run tokens with stuck | ⟨a, rest⟩ <;> rfl)

/-!
# Readers that step over the next token
-/

/-- A reader that does not succeed without reading the next token, if there is one. -/
def Advances (p : Parser α) : Prop :=
  ∀ {token tokens a rest}, p.run (token :: tokens) = .ok (a, rest) → rest.length ≤ tokens.length

theorem advances_of_consumes {p : Parser α} (h : p.Consumes) : p.Advances :=
  fun hrun => Nat.le_of_lt_succ (h hrun)

theorem advances_skip (p : Parser α) : (skip >>= fun _ => p).Advances :=
  fun hrun => length_le hrun

theorem consumes_peek {f : Option Token → Parser α} (hnone : (f none).Consumes)
    (hsome : ∀ token, (f (some token)).Advances) : (peek >>= f).Consumes := by
  intro tokens a rest hrun
  cases tokens with
  | nil => exact hnone hrun
  | cons token tokens => exact Nat.lt_succ_of_le (hsome token hrun)

theorem consumes_variableName (expected : Expectation) : (variableName expected).Consumes := by
  refine consumes_peek (consumes_failAt _) fun token => ?_
  split
  · exact advances_skip _
  · exact advances_of_consumes (consumes_failAt _)

theorem consumes_expect_bind (token : Token) (expected : Expectation) (p : Parser α) :
    (expect token expected >>= fun _ => p).Consumes :=
  consumes_bind_left (consumes_expect token expected)

/-!
# Loops

A loop may be entered where some rounds have been made already.  To read a token if it is next is to
see whether it is next and then to expect it.
-/

theorem run_eat_of_not_cons {token : Token} {tokens : List Token}
    (h : ∀ rest, tokens = token :: rest → False) :
    (eat token).run tokens = .ok (false, tokens) := by
  refine run_eat_of_ne fun hhead => ?_
  rcases List.head?_eq_some_iff.mp hhead with ⟨rest, hrest⟩
  exact h rest hrest

theorem run_name_of_not_cons {expected : Expectation} {tokens : List Token}
    (h : ∀ text rest, tokens = .name text :: rest → False) :
    (name expected).run tokens = .error ⟨tokens.length, .missing expected tokens.head?⟩ := by
  rw [name, run_bind_ok (run_peek tokens)]
  split
  · rename_i text hhead
    rcases List.head?_eq_some_iff.mp hhead with ⟨rest, hrest⟩
    exact (h text rest hrest).elim
  · rfl

theorem eat_eq (token : Token) :
    eat token = (do
      let next ← peek
      if next = some token then
        skip
        pure true
      else pure false) := by
  refine Parser.ext fun tokens => ?_
  rw [run_bind_ok (run_peek tokens)]
  by_cases hhead : tokens.head? = some token
  · rcases List.head?_eq_some_iff.mp hhead with ⟨rest, rfl⟩
    rw [run_eat, if_pos hhead]
    rfl
  · rw [run_eat_of_ne hhead, if_neg hhead]
    rfl

theorem eat_bind_eq (token : Token) (expected : Expectation) (p q : Parser α) :
    (eat token >>= fun found => if found then p else q) = (do
      let next ← peek
      if next = some token then
        expect token expected
        p
      else q) := by
  refine Parser.ext fun tokens => ?_
  rw [run_bind_ok (run_peek tokens)]
  by_cases hhead : tokens.head? = some token
  · rcases List.head?_eq_some_iff.mp hhead with ⟨rest, rfl⟩
    rw [run_bind_ok (run_eat token rest), if_pos rfl, if_pos hhead,
      run_bind_ok (run_expect token expected rest)]
  · rw [run_bind_ok (run_eat_of_ne hhead), if_neg hhead, if_neg Bool.false_ne_true]

theorem peek_bind_eq {token : Token} {f : Option Token → Parser α} {p : Parser α}
    (h : f (some token) = skip >>= fun _ => p) (expected : Expectation) :
    peek >>= f = (do
      let next ← peek
      if next = some token then
        expect token expected
        p
      else f next) := by
  refine Parser.ext fun tokens => ?_
  rw [run_bind_ok (run_peek tokens), run_bind_ok (run_peek tokens)]
  by_cases hhead : tokens.head? = some token
  · rcases List.head?_eq_some_iff.mp hhead with ⟨rest, rfl⟩
    rw [if_pos hhead, hhead, h, run_bind_ok (run_skip token rest),
      run_bind_ok (run_expect token expected rest)]
  · rw [if_neg hhead]

theorem list_eq (close : Token) (item : Parser α) :
    list close item = (do
      let next ← peek
      if next = some close then pure []
      else
        let first ← item
        if ← eat (.mark .comma) then
          let others ← list close item
          pure (first :: others)
        else pure [first]) := by
  refine Parser.ext fun tokens => ?_
  show runList close item tokens =
    (if tokens.head? = some close then pure [] else _ : Parser (List α)).run tokens
  rw [runList]
  split
  · rfl
  · split
    · rename_i stuck hitem
      rw [run_bind, hitem]
    · rename_i a rest hitem
      rw [run_bind_ok hitem, run_bind_ok (run_eat _ rest), if_pos rfl, run_bind,
        show (list close item).run rest = runList close item rest from rfl]
      rcases runList close item rest with stuck | ⟨items, after⟩ <;> rfl
    · rename_i a rest hcomma hitem
      rw [run_bind_ok hitem, run_bind_ok (run_eat_of_not_cons hcomma)]
      rfl

end Parser

namespace Expr

def appliedFrom (room : Nat) (args : Parser (List Expr)) (nested : Nat) (expr : Expr) :
    Parser Expr where
  run := runApplied room args nested expr
  suffix := suffix_of_runApplied

theorem appliedFrom_eq (room : Nat) (args : Parser (List Expr)) (nested : Nat) (expr : Expr) :
    appliedFrom room args nested expr = (do
      if ← Parser.eat (.mark .arrow) then
        let member ← Parser.name .memberAfterArrow
        if ← Parser.eat (.opening .round) then
          let values ← args
          match expr with
          | .chain c =>
              appliedFrom room args nested (.chain ⟨c.root, c.first, c.rest ++ [⟨member, values⟩]⟩)
          | object =>
              if room ≤ nested + 1 then Parser.fail .nestingTooDeep
              else
                appliedFrom room args (nested + 1)
                  (.chain ⟨.receiver object, ⟨member, values⟩, []⟩)
        else if room ≤ nested + 1 then Parser.fail .nestingTooDeep
        else appliedFrom room args (nested + 1) (.property expr member)
      else
        match expr with
        | .variable name =>
            if ← Parser.eat (.opening .round) then
              let values ← args
              appliedFrom room args nested (.chain ⟨.function, ⟨name, values⟩, []⟩)
            else pure (.variable name)
        | expr => pure expr) := by
  refine Parser.ext fun tokens => ?_
  show runApplied room args nested expr tokens = _
  have hround : ∀ rest : List Token, (Parser.eat (.mark .arrow)).run (.opening .round :: rest) =
      .ok (false, .opening .round :: rest) :=
    fun rest => Parser.run_eat_of_ne (by simp)
  fun_cases runApplied room args nested expr tokens with
  | case1 member rest stuck _ hargs =>
    simp [Parser.run_bind, Parser.run_eat, Parser.run_name, hargs]
  | case2 member rest values after hargs c =>
    simp [Parser.run_bind, Parser.run_eat, Parser.run_name, hargs, appliedFrom]
  | case3 member rest values after hargs _ _ hroom =>
    simp [Parser.run_bind, Parser.run_eat, Parser.run_name, hargs, hroom, Parser.fail,
      Parser.failAt]
  | case4 member rest values after hargs _ _ hroom =>
    simp [Parser.run_bind, Parser.run_eat, Parser.run_name, hargs, hroom, appliedFrom]
  | case5 _ member rest hopening hroom =>
    simp [Parser.run_bind, Parser.run_eat, Parser.run_name, Parser.run_eat_of_not_cons hopening,
      hroom, Parser.fail, Parser.failAt]
  | case6 _ member rest hopening hroom =>
    simp [Parser.run_bind, Parser.run_eat, Parser.run_name, Parser.run_eat_of_not_cons hopening,
      hroom, appliedFrom]
  | case7 _ rest _ hname =>
    simp [Parser.run_bind, Parser.run_eat, Parser.run_name_of_not_cons hname]
  | case8 rest name stuck hargs =>
    simp [Parser.run_bind, hround, Parser.run_eat, hargs]
  | case9 rest name values after hargs =>
    simp [Parser.run_bind, hround, Parser.run_eat, hargs, appliedFrom]
  | case10 rest _ hvariable =>
    simp [Parser.run_bind, hround]
  | case11 tokens _ _ _ harrow hopening =>
    rw [Parser.run_bind_ok (Parser.run_eat_of_not_cons harrow), if_neg Bool.false_ne_true]
    split
    · rw [Parser.run_bind_ok (Parser.run_eat_of_not_cons hopening)]
      rfl
    · rfl

def operatorsFrom (room floor : Nat)
    (tighter : (op : BinaryOp) → floor < op.precedence → Parser Expr) (nested : Nat) (lhs : Expr) :
    Parser Expr where
  run := runOperators room floor tighter nested lhs
  suffix := suffix_of_runOperators

theorem operatorsFrom_eq (room floor : Nat)
    (tighter : (op : BinaryOp) → floor < op.precedence → Parser Expr) (nested : Nat) (lhs : Expr) :
    operatorsFrom room floor tighter nested lhs = (do
      match (← Parser.peek).bind Token.binaryOp? with
      | none => pure lhs
      | some op =>
          if h : floor < op.precedence then
            if room ≤ nested + 1 then Parser.fail .nestingTooDeep
            else
              Parser.skip
              let rhs ← tighter op h
              operatorsFrom room floor tighter (nested + 1) (.binary op lhs rhs)
          else pure lhs) := by
  refine Parser.ext fun tokens => ?_
  show runOperators room floor tighter nested lhs tokens = _
  fun_cases runOperators room floor tighter nested lhs tokens with
  | case1 => rfl
  | case2 token rest hop =>
    simp [Parser.run_bind, Parser.run_peek, hop]
  | case3 token rest op hop hfloor hroom =>
    simp [Parser.run_bind, Parser.run_peek, hop, hfloor, hroom, Parser.fail, Parser.failAt]
  | case4 token rest op hop hfloor hroom stuck hrhs =>
    simp [Parser.run_bind, Parser.run_peek, Parser.run_skip, *]
  | case5 token rest op hop hfloor hroom rhs after hrhs =>
    simp [Parser.run_bind, Parser.run_peek, Parser.run_skip, operatorsFrom, *]
  | case6 token rest op hop hfloor =>
    simp [Parser.run_bind, Parser.run_peek, hop, hfloor]

end Expr

namespace Stmt

theorem allParser_eq (expr : Parser Expr) (block : Parser (List Stmt)) :
    allParser expr block = (do
      let next ← Parser.peek
      if next = some (.closing .curly) then pure []
      else
        let first ← parser expr block
        let others ← allParser expr block
        pure (first :: others)) := by
  refine Parser.ext fun tokens => ?_
  show runAll expr block tokens =
    (if tokens.head? = some (.closing .curly) then pure [] else _ : Parser (List Stmt)).run tokens
  rw [runAll]
  split
  · rfl
  · split
    · rename_i stuck hfirst
      rw [Parser.run_bind, hfirst]
    · rename_i first rest hfirst
      rw [Parser.run_bind_ok hfirst, Parser.run_bind,
        show (allParser expr block).run rest = runAll expr block rest from rfl]
      rcases runAll expr block rest with stuck | ⟨others, after⟩ <;> rfl

end Stmt

namespace Fragment

theorem suffix_of_runItems {expr : Parser Expr} {tokens rest : List Token}
    {result : List Expr × Ending} (h : runItems expr tokens = .ok (result, rest)) :
    rest <:+ tokens := by
  fun_induction runItems expr tokens generalizing result rest with
  | case1 | case3 => cases h
  | case2 tokens first hfirst =>
      cases h
      exact (List.suffix_cons _ _).trans (expr.suffix hfirst)
  | case4 tokens first next hlast hfirst others ending after hothers ih =>
      cases h
      exact (ih hothers).trans ((List.suffix_cons _ _).trans (expr.suffix hfirst))
  | case5 tokens first after hfirst =>
      cases h
      exact (List.suffix_cons _ _).trans (expr.suffix hfirst)
  | case6 tokens first after _ _ _ hfirst =>
      cases h
      exact expr.suffix hfirst

def itemsParser (expr : Parser Expr) : Parser (List Expr × Ending) where
  run := runItems expr
  suffix := suffix_of_runItems

theorem itemsParser_eq (expr : Parser Expr) :
    itemsParser expr = (do
      let first ← expr
      if ← Parser.eat (.mark .comma) then
        if (← Parser.peek) = none then pure ([first], .comma)
        else
          let (others, ending) ← itemsParser expr
          pure (first :: others, ending)
      else if ← Parser.eat (.mark .semicolon) then pure ([first], .semicolon)
      else pure ([first], .none)) := by
  refine Parser.ext fun tokens => ?_
  show runItems expr tokens = _
  fun_cases runItems expr tokens with
  | case1 stuck hfirst => rw [Parser.run_bind, hfirst]
  | case2 first hfirst =>
    rw [Parser.run_bind_ok hfirst, Parser.run_bind_ok (Parser.run_eat _ [])]
    rfl
  | case3 first rest hrest hfirst stuck hothers =>
    have hitems : (itemsParser expr).run rest = .error stuck := hothers
    rw [Parser.run_bind_ok hfirst, Parser.run_bind_ok (Parser.run_eat _ rest), if_pos rfl,
      Parser.run_bind_ok (Parser.run_peek rest), if_neg (mt List.head?_eq_none_iff.mp hrest),
      Parser.run_bind, hitems]
  | case4 first rest hrest hfirst others ending after hothers =>
    have hitems : (itemsParser expr).run rest = .ok ((others, ending), after) := hothers
    rw [Parser.run_bind_ok hfirst, Parser.run_bind_ok (Parser.run_eat _ rest), if_pos rfl,
      Parser.run_bind_ok (Parser.run_peek rest), if_neg (mt List.head?_eq_none_iff.mp hrest),
      Parser.run_bind_ok hitems]
    rfl
  | case5 first rest hfirst =>
    have hcomma : (Token.mark .semicolon :: rest).head? ≠ some (.mark .comma) := by simp
    rw [Parser.run_bind_ok hfirst, Parser.run_bind_ok (Parser.run_eat_of_ne hcomma),
      if_neg Bool.false_ne_true, Parser.run_bind_ok (Parser.run_eat _ rest)]
    rfl
  | case6 first rest _ hcomma hsemicolon hfirst =>
    rw [Parser.run_bind_ok hfirst, Parser.run_bind_ok (Parser.run_eat_of_not_cons hcomma),
      if_neg Bool.false_ne_true, Parser.run_bind_ok (Parser.run_eat_of_not_cons hsemicolon)]
    rfl

def toEndParser (expr : Parser Expr) : Parser Fragment := do
  let (items, ending) ← itemsParser expr
  if (← Parser.peek) = none then pure ⟨items, ending⟩
  else Parser.failAt (.missing .endOfFragment)

theorem run_toEndParser (tokens : List Token) :
    (toEndParser (Level.withRoom nestingLimit).expr).run tokens =
      (ofTokens tokens).map (·, []) := by
  unfold toEndParser ofTokens
  rw [Parser.run_bind, show (itemsParser _).run tokens = runItems _ tokens from rfl]
  rcases runItems (Level.withRoom nestingLimit).expr tokens with
    stuck | ⟨⟨items, ending⟩, _ | ⟨next, rest⟩⟩ <;> rfl

end Fragment

theorem Param.consumes_parser : Param.parser.Consumes :=
  Parser.consumes_bind_right fun _ => Parser.consumes_bind_right fun _ =>
    Parser.consumes_bind_left (Parser.consumes_variableName _)

theorem Param.consumes_listParser : Param.listParser.Consumes :=
  Parser.consumes_expect_bind _ _ _

namespace Capture

def clauseParser : Parser (List Capture) := do
  Parser.expect (.opening .round) .openingAfterUse
  let captures ← Parser.list (.closing .round) parser
  Parser.expect (.closing .round) .endOfCaptures
  pure captures

end Capture

theorem Capture.consumes_parser : Capture.parser.Consumes :=
  Parser.consumes_bind_right fun _ => Parser.consumes_bind_left (Parser.consumes_variableName _)

theorem ArrayItem.consumes_listParser (expr : Parser Expr) :
    (ArrayItem.listParser expr).Consumes :=
  Parser.consumes_bind_right fun _ => Parser.consumes_expect_bind _ _ _

namespace Closure

theorem consumes_arrowParser (expr : Parser Expr) : (arrowParser expr).Consumes :=
  Parser.consumes_bind_left Param.consumes_listParser

theorem consumes_blockParser (block : Parser (List Stmt)) : (blockParser block).Consumes :=
  Parser.consumes_bind_left Param.consumes_listParser

end Closure

namespace Expr

theorem consumes_primaryParser (expr : Parser Expr) (block : Parser (List Stmt)) :
    (primaryParser expr block).Consumes := by
  refine Parser.consumes_peek (Parser.consumes_failAt _) fun token => ?_
  split
  all_goals try exact Parser.advances_skip _
  · split_ifs
    · exact Parser.advances_skip _
    · exact Parser.advances_skip _
    · exact Parser.advances_of_consumes (Parser.consumes_failAt _)
    · exact Parser.advances_of_consumes (Parser.consumes_failAt _)
    · exact Parser.advances_skip _
  · exact Parser.advances_of_consumes (Parser.consumes_failAt _)

theorem consumes_binaryParser (room : Nat) {operand : Parser Expr} (h : operand.Consumes)
    (floor : Nat) : (binaryParser room operand floor).Consumes := by
  rw [binaryParser]
  exact Parser.consumes_bind_left h

theorem consumes_conditionalParser (room : Nat) {operand : Parser Expr} (h : operand.Consumes)
    (expr : Parser Expr) : (conditionalParser room operand expr).Consumes :=
  Parser.consumes_bind_left (consumes_binaryParser room h 0)

end Expr

namespace Level

/-- The readers of the level never succeed without reading a token. -/
structure Consumes (level : Level) : Prop where
  expr : level.expr.Consumes
  unary : level.unary.Consumes
  block : level.block.Consumes

theorem consumes_within {inner : Option Level} (h : ∀ level ∈ inner, level.Consumes)
    {read : Level → Parser α} (hread : ∀ level : Level, level.Consumes → (read level).Consumes) :
    (within inner read).Consumes := by
  cases inner with
  | none => exact Parser.consumes_failAt fun _ => Reason.nestingTooDeep
  | some level => exact hread level (h level rfl)

theorem consumes_around (room : Nat) {inner : Option Level} (h : ∀ level ∈ inner, level.Consumes) :
    (around room inner).Consumes where
  expr := consumes_within h fun level hlevel =>
    Expr.consumes_conditionalParser (room - 1) hlevel.unary level.expr
  unary := by
    refine Parser.consumes_peek ?_ fun token => ?_
    · exact Parser.consumes_bind_left (Expr.consumes_primaryParser _ _)
    · dsimp only [Option.bind_some]
      split
      · exact Parser.advances_skip _
      · exact Parser.advances_of_consumes
          (Parser.consumes_bind_left (Expr.consumes_primaryParser _ _))
  block := Parser.consumes_expect_bind _ _ _

theorem consumes_withRoom (room : Nat) : (withRoom room).Consumes := by
  induction room with
  | zero => exact consumes_around 0 fun _ h => nomatch h
  | succ room ih =>
      refine consumes_around (room + 1) fun level h => ?_
      cases h
      exact ih

end Level

namespace Fragment

theorem consumes_itemsParser {expr : Parser Expr} (h : expr.Consumes) :
    (itemsParser expr).Consumes := by
  rw [itemsParser_eq]
  exact Parser.consumes_bind_left h

theorem consumes_toEndParser {expr : Parser Expr} (h : expr.Consumes) :
    (toEndParser expr).Consumes :=
  Parser.consumes_bind_left (consumes_itemsParser h)

end Fragment

end FluentStyle
