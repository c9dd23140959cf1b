import FluentStyle.Proofs.Grammar.Derivation
import FluentStyle.Proofs.Grammar.Soundness

/-!
# What is read is derived

Every reader takes a phrase of its kind from the front of the tokens.  The two loops make the phrase
longer at its end: a step of the first goes on with what is applied to it, a step of the second with
an operator and all that its right operand takes in.
-/

namespace FluentStyle

/-- What the reader takes from the front of the tokens is a phrase of the kind. -/
def Parser.Spans {α : Type} (p : Parser α) (phrase : Phrase) : Prop :=
  ∀ ⦃tokens rest : List Token⦄ ⦃a : α⦄, p.run tokens = .ok (a, rest) →
    ∃ used : List Token, tokens = used ++ rest ∧ phrase.Derives used

/-!
# Lists

Items up to a closing bracket are a list with the opening bracket in front.
-/

namespace Parser

variable {α : Type} {item : Parser α} {phrase : Phrase} {tokens rest : List Token}

theorem derives_of_runList (hitem : item.Spans phrase) {close : Token} {items : List α}
    (h : runList close item tokens = .ok (items, rest)) :
    ∃ used : List Token, tokens = used ++ rest ∧ (Phrase.items phrase).Derives used := by
  fun_induction runList close item tokens generalizing items rest with
  | case1 =>
      cases h
      exact ⟨[], rfl, .noItems⟩
  | case2 => cases h
  | case3 => cases h
  | case4 tokens _ a after hreading items' last hrest ih =>
      cases h
      rcases hitem hreading with ⟨used, rfl, hused⟩
      rcases ih hrest with ⟨others, rfl, hothers⟩
      exact ⟨used ++ .mark .comma :: others, by simp, .nextItem hused hothers⟩
  | case5 tokens _ a after hcomma hreading =>
      cases h
      rcases hitem hreading with ⟨used, htokens, hused⟩
      exact ⟨used, htokens, .lastItem hused⟩

theorem derives_of_closed (hitem : item.Spans phrase) {bracket : Bracket} {items : List α}
    (h : runList (.closing bracket) item tokens = .ok (items, .closing bracket :: rest)) :
    ∃ used : List Token, .opening bracket :: tokens = used ++ rest ∧
      (Phrase.list bracket phrase).Derives used := by
  rcases derives_of_runList hitem h with ⟨used, rfl, hused⟩
  exact ⟨Token.enclosed bracket used, by simp [Token.enclosed], .brackets bracket hused⟩

end Parser

/-!
# Parameters and captured variables
-/

theorem Param.spans_item : parser.Spans .parameter := by
  intro tokens rest param h
  cases read_of_run h with
  | untyped name => exact ⟨_, rfl, .untyped name⟩
  | typed type name => exact ⟨_, rfl, .typed type name⟩
  | nullable type name => exact ⟨_, rfl, .nullable type name⟩

theorem Param.spans_listParser : listParser.Spans (.list .round .parameter) := by
  intro tokens rest params h
  rcases listParser_eq_ok h with ⟨inside, rfl, hlist⟩
  exact Parser.derives_of_closed Param.spans_item hlist

theorem Capture.spans_item : parser.Spans .capture := by
  intro tokens rest capture h
  cases read_of_run h with
  | byValue name => exact ⟨_, rfl, .byValue name⟩
  | byReference name => exact ⟨_, rfl, .byReference name⟩

theorem Capture.spans_listParser : listParser.Spans .captures := by
  intro tokens rest captures h
  cases listRead_of_run h with
  | none => exact ⟨[], rfl, .noCaptures⟩
  | clause hlist =>
      rcases Parser.derives_of_closed Capture.spans_item hlist with ⟨used, heq, hused⟩
      exact ⟨.name "use" :: used, by rw [heq]; rfl, .capturing hused⟩

/-!
# Primary expressions
-/

section Primary

variable {expr : Parser Expr} {block : Parser (List Stmt)} {tokens rest : List Token}

theorem Call.derives_of_args (hexpr : expr.Spans .expr) {args : List Expr}
    (h : (argsParser expr).run tokens = .ok (args, rest)) :
    ∃ used : List Token, .opening .round :: tokens = used ++ rest ∧
      (Phrase.list .round .expr).Derives used :=
  Parser.derives_of_closed hexpr (Parser.closed_eq_ok h)

theorem ArrayItem.spans_item (hexpr : expr.Spans .expr) : (parser expr).Spans .element := by
  intro tokens rest item h
  cases read_of_run h with
  | value hvalue =>
      rcases hexpr hvalue with ⟨used, rfl, hused⟩
      exact ⟨used, rfl, .value hused⟩
  | pair hkey hvalue =>
      rcases hexpr hkey with ⟨used, rfl, hused⟩
      rcases hexpr hvalue with ⟨others, rfl, hothers⟩
      exact ⟨used ++ .mark .fatArrow :: others, by simp, .pair hused hothers⟩

namespace Expr

/-- The tokens are a primary expression, and a bare variable just if it is read as one. -/
structure IsPrimary (expr : Expr) (used : List Token) : Prop where
  derives : Phrase.primary.Derives used
  ofVariable : ∀ name : String, expr = .variable name → used = [.variable name]

theorem isPrimary_of_primary (hexpr : expr.Spans .expr) (hblock : block.Spans .block)
    {result : Expr} (h : (primaryParser expr block).run tokens = .ok (result, rest)) :
    ∃ used : List Token, tokens = used ++ rest ∧ result.IsPrimary used := by
  cases primaryRead_of_run h with
  | literal raw => exact ⟨_, rfl, .literal raw, by rintro _ ⟨⟩⟩
  | number raw => exact ⟨_, rfl, .number raw, by rintro _ ⟨⟩⟩
  | bareVariable name =>
      refine ⟨_, rfl, .variable name, ?_⟩
      rintro _ ⟨⟩
      rfl
  | array hlist =>
      rcases Parser.derives_of_closed (ArrayItem.spans_item hexpr) hlist with ⟨used, heq, hused⟩
      exact ⟨used, heq, .array hused, by rintro _ ⟨⟩⟩
  | group hinner =>
      rcases hexpr hinner with ⟨used, rfl, hused⟩
      exact ⟨Token.enclosed .round used, by simp [Token.enclosed], .group hused, by rintro _ ⟨⟩⟩
  | arrow hparams hbody =>
      rcases Param.spans_listParser hparams with ⟨used, rfl, hused⟩
      rcases hexpr hbody with ⟨inner, rfl, hinner⟩
      exact ⟨.name "fn" :: (used ++ .mark .fatArrow :: inner), by simp,
        .function (.arrow hused hinner), by rintro _ ⟨⟩⟩
  | block hparams hcaptures hbody =>
      rcases Param.spans_listParser hparams with ⟨used, rfl, hused⟩
      rcases Capture.spans_listParser hcaptures with ⟨clause, rfl, hclause⟩
      rcases hblock hbody with ⟨inner, rfl, hinner⟩
      exact ⟨.name "function" :: (used ++ (clause ++ inner)), by simp,
        .function (.blockClosure hused hclause hinner), by rintro _ ⟨⟩⟩
  | staticCall className member hname hargs =>
      rcases Call.derives_of_args hexpr hargs with ⟨used, heq, hused⟩
      exact ⟨.name className :: .mark .doubleColon :: .name member :: used, by rw [heq]; rfl,
        .staticCall hname member hused, by rintro _ ⟨⟩⟩
  | classConstant className member hname =>
    exact ⟨_, rfl, .classConstant hname member, by rintro _ ⟨⟩⟩
  | call name hname hargs =>
      rcases Call.derives_of_args hexpr hargs with ⟨used, heq, hused⟩
      exact ⟨.name name :: used, by rw [heq]; rfl, .call hname hused, by rintro _ ⟨⟩⟩
  | constant name hname => exact ⟨_, rfl, .constant hname, by rintro _ ⟨⟩⟩

/-!
# The loops

A round of the first loop makes what is applied longer.  Only a bare variable is invoked, and this
is what the tokens before are when the loop invokes it.  A round of the second loop takes an
operator and all operators in its right operand.
-/

theorem derives_of_method {before after last used : List Token}
    (hbefore : Phrase.applied.Derives before) (member : String)
    (heq : .opening .round :: after = used ++ last)
    (hused : (Phrase.list .round .expr).Derives used)
    (hlast : ∀ {longer : List Token}, Phrase.applied.Derives longer →
      ∃ others : List Token, last = others ++ rest ∧ Phrase.applied.Derives (longer ++ others)) :
    ∃ taken : List Token,
      .mark .arrow :: .name member :: .opening .round :: after = taken ++ rest ∧
        Phrase.applied.Derives (before ++ taken) := by
  rcases hlast (hbefore.method member hused) with ⟨others, rfl, hothers⟩
  refine ⟨.mark .arrow :: .name member :: (used ++ others), ?_, ?_⟩
  · rw [heq]
    simp
  · simpa using hothers

/-- A round of the loop makes what is applied longer.  Only a bare variable is invoked, and this is
what the tokens before are when the loop invokes it. -/
theorem derives_of_runApplied {room nested : Nat} {args : Parser (List Expr)} {expr result : Expr}
    {before : List Token}
    (hargs : ∀ {tokens rest : List Token} {values : List Expr},
      args.run tokens = .ok (values, rest) →
        ∃ used : List Token, .opening .round :: tokens = used ++ rest ∧
          (Phrase.list .round .expr).Derives used)
    (hbefore : Phrase.applied.Derives before)
    (hvariable : ∀ name : String, expr = .variable name → before = [.variable name])
    (h : runApplied room args nested expr tokens = .ok (result, rest)) :
    ∃ used : List Token, tokens = used ++ rest ∧ Phrase.applied.Derives (before ++ used) := by
  fun_induction runApplied room args nested expr tokens generalizing before with
  | case1 | case3 | case5 | case7 | case8 => cases h
  | case2 nested member after values last hreading chain ih =>
      rcases hargs hreading with ⟨used, heq, hused⟩
      exact derives_of_method hbefore member heq hused fun hlonger =>
        ih hlonger (by rintro _ ⟨⟩) h
  | case4 nested member after values last hreading object hchain hroom ih =>
      rcases hargs hreading with ⟨used, heq, hused⟩
      exact derives_of_method hbefore member heq hused fun hlonger =>
        ih hlonger (by rintro _ ⟨⟩) h
  | case6 nested object member after hcall hroom ih =>
      rcases ih (hbefore.property member) (by rintro _ ⟨⟩) h with ⟨others, rfl, hothers⟩
      exact ⟨.mark .arrow :: .name member :: others, rfl, by simpa using hothers⟩
  | case9 nested after name values last hreading ih =>
      rcases hargs hreading with ⟨used, heq, hused⟩
      obtain rfl := hvariable name rfl
      rcases ih (.invocation name hused) (by rintro _ ⟨⟩) h with ⟨others, rfl, hothers⟩
      refine ⟨used ++ others, ?_, hothers⟩
      rw [heq, List.append_assoc]
  | case10 nested after expr hother =>
      cases h
      exact ⟨[], rfl, by simpa using hbefore⟩
  | case11 nested expr tokens hcall haccess harrow hround =>
      cases h
      exact ⟨[], rfl, by simpa using hbefore⟩

end Expr

end Primary

namespace Phrase

theorem Derives.operators {lhs rhs : List Token} {token : Token} {op : BinaryOp}
    (h : binary.Derives lhs) (hop : token.binaryOp? = some op) (hrhs : binary.Derives rhs) :
    binary.Derives (lhs ++ token :: rhs) := by
  generalize hphrase : binary = phrase at hrhs
  induction hrhs with
  | operand hunary => exact .operator h hop hunary
  | operator hinner hop' hunary ih =>
      rw [← List.cons_append, ← List.append_assoc]
      exact .operator (ih hphrase) hop' hunary
  | _ => cases hphrase

end Phrase

namespace Expr

theorem derives_of_runOperators {room floor nested : Nat}
    {tighter : (op : BinaryOp) → floor < op.precedence → Parser Expr} {lhs result : Expr}
    {tokens rest before : List Token}
    (htighter : ∀ (op : BinaryOp) (h : floor < op.precedence), (tighter op h).Spans .binary)
    (hbefore : Phrase.binary.Derives before)
    (h : runOperators room floor tighter nested lhs tokens = .ok (result, rest)) :
    ∃ used : List Token, tokens = used ++ rest ∧ Phrase.binary.Derives (before ++ used) := by
  fun_induction runOperators room floor tighter nested lhs tokens generalizing before with
  | case3 | case4 => cases h
  | case1 | case2 | case6 =>
      cases h
      exact ⟨[], rfl, by simpa using hbefore⟩
  | case5 nested lhs token after op hsome hfloor hroom rhs last hreading ih =>
      rcases htighter op hfloor hreading with ⟨used, rfl, hused⟩
      rcases ih (hbefore.operators hsome hused) h with ⟨others, rfl, hothers⟩
      exact ⟨token :: (used ++ others), by simp, by simpa using hothers⟩

theorem spans_binaryParser {room : Nat} {operand : Parser Expr} (hoperand : operand.Spans .unary)
    (floor : Nat) : (binaryParser room operand floor).Spans .binary := by
  intro tokens rest result h
  rw [binaryParser] at h
  rcases Parser.bind_eq_ok h with ⟨lhs, between, hlhs, hloop⟩
  rcases hoperand hlhs with ⟨used, rfl, hused⟩
  have htighter : ∀ (op : BinaryOp) (_ : floor < op.precedence),
      (binaryParser room operand op.precedence).Spans .binary :=
    fun op _ => spans_binaryParser hoperand op.precedence
  rcases derives_of_runOperators htighter (.operand hused) hloop with ⟨others, rfl, hothers⟩
  exact ⟨used ++ others, by simp, hothers⟩
termination_by 9 - floor
decreasing_by
  have hle := op.precedence_le
  omega

theorem spans_conditionalParser {room : Nat} {operand expr : Parser Expr}
    (hoperand : operand.Spans .unary) (hexpr : expr.Spans .expr) :
    (conditionalParser room operand expr).Spans .expr := by
  intro tokens rest result h
  have hbinary : (binaryParser room operand 0).Spans .binary := spans_binaryParser hoperand 0
  cases wholeRead_of_run h with
  | operation hrun =>
      rcases hbinary hrun with ⟨used, rfl, hused⟩
      exact ⟨used, rfl, .operation hused⟩
  | ternary hrun hyes hno =>
      rcases hbinary hrun with ⟨used, rfl, hused⟩
      rcases hexpr hyes with ⟨middle, rfl, hmiddle⟩
      rcases hexpr hno with ⟨others, rfl, hothers⟩
      exact ⟨used ++ .mark .question :: (middle ++ .mark .colon :: others), by simp,
        .ternary hused hmiddle hothers⟩
  | elvis hrun hno =>
      rcases hbinary hrun with ⟨used, rfl, hused⟩
      rcases hexpr hno with ⟨others, rfl, hothers⟩
      exact ⟨used ++ .mark .question :: .mark .colon :: others, by simp, .elvis hused hothers⟩

end Expr

/-!
# Statements
-/

namespace Stmt

variable {expr : Parser Expr} {block : Parser (List Stmt)}

theorem spans_item (hexpr : expr.Spans .expr) (hblock : block.Spans .block) :
    (parser expr block).Spans .statement := by
  intro tokens rest stmt h
  cases read_of_run h with
  | leave => exact ⟨_, rfl, .leave⟩
  | give hvalue =>
      rcases hexpr hvalue with ⟨used, rfl, hused⟩
      exact ⟨.name "return" :: (used ++ [.mark .semicolon]), by simp, .give hused⟩
  | when hcondition hyes =>
      rcases hexpr hcondition with ⟨used, rfl, hused⟩
      rcases hblock hyes with ⟨first, rfl, hfirst⟩
      exact ⟨.name "if" :: (Token.enclosed .round used ++ first), by simp [Token.enclosed],
        .when hused hfirst⟩
  | choose hcondition hyes hno =>
      rcases hexpr hcondition with ⟨used, rfl, hused⟩
      rcases hblock hyes with ⟨first, rfl, hfirst⟩
      rcases hblock hno with ⟨second, rfl, hsecond⟩
      exact ⟨.name "if" :: (Token.enclosed .round used ++ (first ++ .name "else" :: second)),
        by simp [Token.enclosed], .choose hused hfirst hsecond⟩
  | assign target hvalue =>
      rcases hexpr hvalue with ⟨used, rfl, hused⟩
      exact ⟨.variable target :: .mark .assign :: (used ++ [.mark .semicolon]), by simp,
        .assign target hused⟩
  | expr hvalue =>
      rcases hexpr hvalue with ⟨used, rfl, hused⟩
      exact ⟨used ++ [.mark .semicolon], by simp, .expression hused⟩

theorem spans_allParser (hexpr : expr.Spans .expr) (hblock : block.Spans .block) :
    (allParser expr block).Spans .statements := by
  intro tokens rest stmts h
  have hrun : runAll expr block tokens = .ok (stmts, rest) := h
  clear h
  fun_induction runAll expr block tokens generalizing stmts rest with
  | case1 =>
      cases hrun
      exact ⟨[], rfl, .done⟩
  | case2 | case3 => cases hrun
  | case4 tokens hhead stmt after hreading others last hrest ih =>
      cases hrun
      rcases spans_item hexpr hblock hreading with ⟨used, rfl, hused⟩
      rcases ih hrest with ⟨more, rfl, hmore⟩
      exact ⟨used ++ more, by simp, .step hused hmore⟩

end Stmt

/-!
# Levels
-/

namespace Level

/-- The readers of a level take phrases of their kinds. -/
structure Spanning (level : Level) : Prop where
  expr : level.expr.Spans .expr
  unary : level.unary.Spans .unary
  block : level.block.Spans .block

variable {room : Nat} {inner : Option Level}

theorem spans_exprParser (h : ∀ level ∈ inner, level.Spanning) :
    (exprParser room inner).Spans .expr := by
  intro tokens rest expr hrun
  rcases within_eq_ok hrun with ⟨level, hlevel, hwithin⟩
  exact Expr.spans_conditionalParser (h level hlevel).unary (h level hlevel).expr hwithin

theorem spans_blockParser (h : ∀ level ∈ inner, level.Spanning) :
    (blockParser inner).Spans .block := by
  intro tokens rest stmts hrun
  rcases blockParser_eq_ok hrun with ⟨level, hlevel, inside, rfl, hall⟩
  rcases Stmt.spans_allParser (h level hlevel).expr (h level hlevel).block hall with
    ⟨used, rfl, hused⟩
  exact ⟨Token.enclosed .curly used, by simp [Token.enclosed], .braces hused⟩

theorem spans_unaryParser (h : ∀ level ∈ inner, level.Spanning) :
    (unaryParser room inner).Spans .unary := by
  intro tokens rest expr hrun
  cases operandRead_of_run hrun with
  | signed op hlevel hunary =>
      rcases (h _ hlevel).unary hunary with ⟨used, rfl, hused⟩
      exact ⟨op.token :: used, rfl, .signed op hused⟩
  | unsigned hprimary happlied =>
      have hexpr : (exprParser room inner).Spans .expr := spans_exprParser h
      rcases Expr.isPrimary_of_primary hexpr (spans_blockParser h) hprimary with
        ⟨used, rfl, hused⟩
      rcases Expr.derives_of_runApplied (Call.derives_of_args hexpr) (.bare hused.derives)
        hused.ofVariable happlied with ⟨others, rfl, hothers⟩
      exact ⟨used ++ others, by simp, .unsigned hothers⟩

theorem spanning_withRoom (room : Nat) : (withRoom room).Spanning := by
  have haround : ∀ (room : Nat) (inner : Option Level), (∀ level ∈ inner, level.Spanning) →
      (around room inner).Spanning :=
    fun room inner h => ⟨spans_exprParser h, spans_unaryParser h, spans_blockParser h⟩
  induction room with
  | zero => exact haround 0 none (by rintro level ⟨⟩)
  | succ room ih =>
      apply haround
      rintro level ⟨⟩
      exact ih

end Level

/-!
# Fragments
-/

namespace Fragment

theorem derives_of_runItems {expr : Parser Expr} (hexpr : expr.Spans .expr)
    {tokens : List Token} {items : List Expr} {ending : Ending}
    (h : runItems expr tokens = .ok ((items, ending), [])) : Phrase.fragment.Derives tokens := by
  fun_induction runItems expr tokens generalizing items ending with
  | case1 => cases h
  | case2 tokens item hreading =>
      rcases hexpr hreading with ⟨used, rfl, hused⟩
      exact .lastComma hused
  | case3 => cases h
  | case4 tokens item after hafter hreading others last after' hrest ih =>
      cases h
      rcases hexpr hreading with ⟨used, rfl, hused⟩
      exact .next hused (ih hrest)
  | case5 tokens item after hreading =>
      cases h
      rcases hexpr hreading with ⟨used, rfl, hused⟩
      exact .lastSemicolon hused
  | case6 tokens item after hcomma hothers hsemicolon hreading =>
      cases h
      rcases hexpr hreading with ⟨used, rfl, hused⟩
      rw [List.append_nil]
      exact .last hused

theorem derives_of_ofTokens {tokens : List Token} {fragment : Fragment}
    (h : ofTokens tokens = .ok fragment) : Phrase.fragment.Derives tokens := by
  unfold ofTokens at h
  split at h
  · cases h
  · rename_i items ending hrun
    exact derives_of_runItems (Level.spanning_withRoom nestingLimit).expr hrun
  · cases h

end Fragment

end FluentStyle
