import FluentStyle.Proofs.Grammar.Derived
import FluentStyle.Proofs.Grammar.Greedy
import FluentStyle.Proofs.Grammar.Rendering

/-!
# Every derivation is read

What the readers make of the tokens is told for each kind of phrase, and each rule of the grammar
keeps it.  Expressions and what they are made of are rows; for all else the readers take just the
tokens of the phrase.  So a fragment is read from the tokens just if they are derived and do not
nest too deep.
-/

namespace FluentStyle

open FluentStyle.Parser

/-!
# Parameters and captured variables
-/

namespace Token

variable {tokens others : List Token}

/-- The reader of parameters takes the tokens as one. -/
def IsParameter (tokens : List Token) : Prop :=
  ∀ least : Nat, TakesItem (.closing .round) least Param.parser tokens

def IsCapture (tokens : List Token) : Prop :=
  ∀ least : Nat, TakesItem (.closing .round) least Capture.parser tokens

def IsCaptures (tokens : List Token) : Prop :=
  ∀ (least : Nat) (rest : List Token), rest.head? ≠ some (.name "use") →
    Leaves least (tokens ++ rest) (· = rest) (Capture.listParser.run (tokens ++ rest))

theorem isParameter_of_hint {nullable : Bool} {marked : List Token} {hint : Option TypeHint}
    {name : String} (hhead : ∀ rest : List Token, (tokens ++ rest).head? ≠ some (.closing .round))
    (hmark : ∀ rest : List Token,
      (eat (.mark .question)).run (tokens ++ rest) = .ok (nullable, marked ++ rest))
    (hhint : ∀ rest : List Token,
      (Param.hintParser nullable).run (marked ++ rest) = .ok (hint, .variable name :: rest)) :
    IsParameter tokens := by
  intro least
  refine ⟨hhead, ?_⟩
  intro rest hrest
  have hassign : rest.head? ≠ some (.mark .assign) := by
    intro heq
    rcases hrest with h | h <;> rw [heq] at h <;> cases h
  rw [Param.run_parser_of_hint (hmark rest) (hhint rest) hassign]
  rfl

theorem isParameter_untyped (name : String) : IsParameter [.variable name] :=
  isParameter_of_hint (by simp) (fun _ => run_eat_of_ne (by simp)) fun _ => rfl

theorem isParameter_typed (type name : String) : IsParameter [.name type, .variable name] :=
  isParameter_of_hint (by simp) (fun _ => run_eat_of_ne (by simp)) fun _ => rfl

theorem isParameter_nullable (type name : String) :
    IsParameter [.mark .question, .name type, .variable name] :=
  isParameter_of_hint (by simp) (fun _ => run_eat _ _) fun _ => rfl

theorem isCapture_byValue (name : String) : IsCapture [.variable name] :=
  fun _ => ⟨by simp, fun _ _ => rfl⟩

theorem isCapture_byReference (name : String) : IsCapture [.mark .ampersand, .variable name] :=
  fun _ => ⟨by simp, fun _ _ => rfl⟩

theorem isCaptures_nil : IsCaptures [] := by
  intro least rest hrest
  unfold Capture.listParser
  rw [List.nil_append, run_bind_ok (run_eat_of_ne hrest)]
  rfl

theorem isParameters_of_items (h : Items IsParameter tokens) :
    IsParameters (enclosed .round tokens) := by
  intro least rest
  have htokens : enclosed .round tokens ++ rest =
      .opening .round :: (tokens ++ .closing .round :: rest) := by
    simp [enclosed]
  rw [htokens]
  refine leaves_expect ?_
  exact leaves_closed (h.mono fun _ hitem => hitem least) rest

theorem isCaptures_of_items (h : Items IsCapture tokens) :
    IsCaptures (.name "use" :: enclosed .round tokens) := by
  intro least rest _
  have htokens : .name "use" :: enclosed .round tokens ++ rest =
      .name "use" :: .opening .round :: (tokens ++ .closing .round :: rest) := by
    simp [enclosed]
  unfold Capture.listParser
  rw [htokens, run_bind_ok (run_eat _ _)]
  refine Leaves.cons (?_ : Leaves least _ _ _) _ (Nat.le_succ least)
  refine leaves_expect ?_
  exact leaves_closed (h.mono fun _ hitem => hitem least) rest

/-!
# Arguments and array elements
-/

/-- The reader of array elements takes the tokens as one. -/
def IsElement (tokens : List Token) : Prop :=
  ∀ room : Nat, TakesItem (.closing .square) (room - 1)
    (ArrayItem.parser (Level.withRoom room).expr) tokens

theorem Row.leaves_expr {rest : List Token} (h : Row .before tokens) (hrest : gripOf rest = 0)
    (room : Nat) :
    Leaves (room - 1) (tokens ++ rest) (· = rest)
      ((Level.withRoom room).expr.run (tokens ++ rest)) :=
  (Level.takes room).expr h hrest

theorem isArguments_of_items (h : Items (Row .before) tokens) :
    IsArguments (enclosed .round tokens) := by
  refine ⟨tokens, rfl, fun room rest => ?_⟩
  refine leaves_closed (h.mono fun item hitem => ⟨?_, ?_⟩) rest
  · exact hitem.opens.head_ne rfl
  · exact fun after hafter => hitem.leaves_expr (Expr.gripOf_eq_zero hafter) room

theorem isElement_value (h : Row .before tokens) : IsElement tokens := by
  intro room
  refine ⟨h.opens.head_ne rfl, ?_⟩
  intro rest hrest
  have harrow : rest.head? ≠ some (.mark .fatArrow) := by
    rcases hrest with heq | heq <;> rw [heq] <;> simp
  refine (h.leaves_expr (Expr.gripOf_eq_zero hrest) room).bind ?_
  rintro value _ rfl
  rw [run_bind_ok (run_eat_of_ne harrow)]
  rfl

theorem isElement_pair (h : Row .before tokens) (hothers : Row .before others) :
    IsElement (tokens ++ .mark .fatArrow :: others) := by
  intro room
  constructor
  · intro rest
    rw [List.append_assoc]
    exact h.opens.head_ne rfl _
  · intro rest hrest
    rw [List.append_assoc, List.cons_append]
    refine (h.leaves_expr rfl room).bind ?_
    rintro key _ rfl
    rw [run_bind_ok (run_eat _ _)]
    refine Leaves.cons (?_ : Leaves (room - 1) _ _ _) _ (Nat.le_succ _)
    refine (hothers.leaves_expr (Expr.gripOf_eq_zero hrest) room).bind ?_
    rintro value _ rfl
    rfl

/-!
# Primary expressions

It is enough that the reader of primary expressions takes the tokens.  A call is read as an operand
whichever way its name is followed by arguments.
-/

/-- The readers of blocks take the tokens. -/
structure IsBlock (tokens : List Token) : Prop where
  head : tokens.head? = some (.opening .curly)
  leaves : ∀ (room : Nat) (rest : List Token),
    Leaves (room - 1) (tokens ++ rest) (· = rest)
      ((Level.withRoom room).block.run (tokens ++ rest))

theorem IsBlock.head_ne (h : IsBlock tokens) {token : Token} (hne : token ≠ .opening .curly)
    (rest : List Token) : (tokens ++ rest).head? ≠ some token := by
  rcases List.head?_eq_some_iff.mp h.head with ⟨more, rfl⟩
  rintro ⟨⟩
  exact hne rfl

theorem IsOperand.of_primary {first : Token} {more : List Token} (hstarts : first.starts = true)
    (hunary : first.unaryOp? = none)
    (hassign : ∀ name : String, first = .variable name → more.head? ≠ some (.mark .assign))
    (h : ∀ (room : Nat) {rest : List Token}, gripOf rest < 15 →
      Leaves room (first :: (more ++ rest)) (· = rest)
        ((Expr.primaryParser (Level.withRoom room).expr (Level.withRoom room).block).run
          (first :: (more ++ rest)))) : IsOperand (first :: more) where
  opens := ⟨first, more, rfl, hstarts, hassign⟩
  leaves {room rest post} hrest hpost := by
    rw [List.cons_append, Level.run_unary_of_unaryOp?_eq_none hunary]
    refine (h room hrest).bind ?_
    rintro primary _ rfl
    exact hpost primary

theorem isOperand_literal (raw : String) : IsOperand [.literal raw] :=
  .of_primary rfl rfl (by rintro name ⟨⟩) fun _ _ _ => rfl

theorem isOperand_number (raw : String) : IsOperand [.number raw] :=
  .of_primary rfl rfl (by rintro name ⟨⟩) fun _ _ _ => rfl

theorem isOperand_variable (name : String) : IsOperand [.variable name] :=
  .of_primary rfl rfl (by simp) fun _ _ _ => rfl

theorem isOperand_array (h : Items IsElement tokens) : IsOperand (enclosed .square tokens) := by
  refine .of_primary rfl rfl (by rintro name ⟨⟩) fun room rest _ => ?_
  rw [List.append_assoc, List.singleton_append]
  have hitems : Leaves (room - 1) (tokens ++ .closing .square :: rest) (· = rest)
      ((ArrayItem.listParser (Level.withRoom room).expr).run
        (tokens ++ .closing .square :: rest)) :=
    leaves_closed (h.mono fun _ hitem => hitem room) rest
  exact (hitems.map Expr.array).cons _ (by omega)

theorem isOperand_group (h : Row .before tokens) : IsOperand (enclosed .round tokens) := by
  refine .of_primary rfl rfl (by rintro name ⟨⟩) fun room rest _ => ?_
  rw [List.append_assoc, List.singleton_append]
  have hinner : Leaves (room - 1) (tokens ++ .closing .round :: rest) (· = rest)
      (((Level.withRoom room).expr >>= fun inner =>
        expect (.closing .round) .closingParenthesis >>= fun _ => pure (Expr.group inner)).run
          (tokens ++ .closing .round :: rest)) := by
    refine (h.leaves_expr rfl room).bind ?_
    rintro inner _ rfl
    exact leaves_expect_last _ rest
  exact hinner.cons _ (by omega)

theorem isOperand_function {params clause body : List Token} (hparams : IsParameters params)
    (hclause : IsCaptures clause) (hbody : IsBlock body) :
    IsOperand (.name "function" :: (params ++ (clause ++ body))) := by
  refine .of_primary (by decide) rfl (by rintro name ⟨⟩) fun room rest _ => ?_
  rw [List.append_assoc, List.append_assoc]
  have hclosure : Leaves (room - 1) (params ++ (clause ++ (body ++ rest))) (· = rest)
      ((Closure.blockParser (Level.withRoom room).block).run
        (params ++ (clause ++ (body ++ rest)))) := by
    refine (hparams _ _).bind ?_
    rintro found _ rfl
    refine (hclause _ _ (hbody.head_ne (by simp) rest)).bind ?_
    rintro captures _ rfl
    exact (hbody.leaves room rest).map _
  exact (hclosure.map Expr.closure).cons _ (by omega)

theorem isOperand_named {name : String} (h : name ∉ Expr.keywords)
    (hnamed : ∀ (room : Nat) {rest : List Token}, gripOf rest < 15 →
      Leaves room (tokens ++ rest) (· = rest)
        ((Expr.namedParser (Level.withRoom room).expr name).run (tokens ++ rest))) :
    IsOperand (.name name :: tokens) := by
  refine .of_primary ?_ rfl (by rintro name ⟨⟩) fun room rest hrest => ?_
  · unfold Token.starts
    simp only [Expr.keywords, List.mem_cons, not_or] at h
    simp only [Bool.not_eq_true', ← Bool.not_eq_true, List.contains_iff_mem, List.mem_cons, not_or]
    exact h.2.2
  · rw [Expr.run_primary_name h]
    exact (hnamed room hrest).cons _ (Nat.le_succ room)

theorem isOperand_constant {name : String} (h : name ∉ Expr.keywords) : IsOperand [.name name] := by
  refine isOperand_named h fun room rest hrest => ?_
  rw [List.nil_append, Expr.run_named_constant hrest]
  rfl

theorem isOperand_classConstant {className : String} (h : className ∉ Expr.keywords)
    (name : String) : IsOperand [.name className, .mark .doubleColon, .name name] := by
  refine isOperand_named h fun room rest hrest => ?_
  show Leaves _ _ _ ((Expr.namedParser _ className).run (.mark .doubleColon :: .name name :: rest))
  rw [Expr.run_named_classConstant hrest]
  rfl

theorem isOperand_call {name : String} (h : name ∉ Expr.keywords) {args : List Token}
    (hargs : IsArguments args) : IsOperand (.name name :: args) := by
  refine isOperand_named h fun room rest _ => ?_
  rcases hargs.leaves room rest with ⟨inner, heq, hinner⟩
  unfold Expr.namedParser
  rw [heq, run_bind_ok (run_eat_of_ne (by simp))]
  simp only [Bool.false_eq_true, if_false]
  rw [run_bind_ok (run_eat _ _)]
  exact (hinner.map _).cons _ (by omega)

theorem isOperand_staticCall {className : String} (h : className ∉ Expr.keywords) (name : String)
    {args : List Token} (hargs : IsArguments args) :
    IsOperand (.name className :: .mark .doubleColon :: .name name :: args) := by
  refine isOperand_named h fun room rest _ => ?_
  rcases hargs.leaves room rest with ⟨inner, heq, hinner⟩
  unfold Expr.namedParser
  rw [List.cons_append, List.cons_append, heq, run_bind_ok (run_eat _ _)]
  simp only [if_true]
  rw [run_bind_ok (run_name _ _ _), run_bind_ok (run_eat _ _)]
  have hcall := hinner.map fun args => Expr.chain ⟨.static className, ⟨name, args⟩, []⟩
  exact ((hcall.cons _ (Nat.le_refl _)).cons _ (Nat.le_refl _)).cons _ (by omega)

theorem isOperand_invocation (name : String) {args : List Token} (h : IsArguments args) :
    IsOperand (.variable name :: args) where
  opens := by
    rcases h with ⟨inner, rfl, -⟩
    exact ⟨_, _, rfl, rfl, by simp [enclosed]⟩
  leaves {room rest post} _ hpost := by
    rw [List.cons_append, Level.run_unary_of_unaryOp?_eq_none rfl]
    exact (Expr.leaves_runApplied_invocation h name hpost).cons _ (Nat.le_succ room)

/-!
# Statements

Where a branch of a choice is read, what comes after the condition is still to be read.
-/

/-- The readers of statements take the tokens as one. -/
structure IsStatement (tokens : List Token) : Prop where
  head_ne_closing : ∀ rest : List Token, (tokens ++ rest).head? ≠ some (.closing .curly)
  head_ne_else : ∀ rest : List Token, (tokens ++ rest).head? ≠ some (.name "else")
  leaves : ∀ (room : Nat) (rest : List Token), rest.head? ≠ some (.name "else") →
    Leaves (room - 1) (tokens ++ rest) (· = rest)
      ((Stmt.parser (Level.withRoom room).expr (Level.withRoom room).block).run (tokens ++ rest))

structure IsStatements (tokens : List Token) : Prop where
  head_ne_else : ∀ rest : List Token,
    (tokens ++ .closing .curly :: rest).head? ≠ some (.name "else")
  leaves : ∀ (room : Nat) (rest : List Token),
    Leaves (room - 1) (tokens ++ .closing .curly :: rest) (· = .closing .curly :: rest)
      (Stmt.runAll (Level.withRoom room).expr (Level.withRoom room).block
        (tokens ++ .closing .curly :: rest))

theorem isStatements_nil : IsStatements [] where
  head_ne_else := by simp
  leaves room rest := by
    rw [List.nil_append, Stmt.runAll_nil]
    rfl

theorem isStatements_append (h : IsStatement tokens) (hothers : IsStatements others) :
    IsStatements (tokens ++ others) where
  head_ne_else rest := by
    rw [List.append_assoc]
    exact h.head_ne_else _
  leaves room rest := by
    have hstmt := h.leaves room _ (hothers.head_ne_else rest)
    have hstmts := hothers.leaves room rest
    rw [List.append_assoc, Stmt.runAll, if_neg (h.head_ne_closing _)]
    split
    · rename_i stuck herror
      rw [herror] at hstmt
      exact hstmt
    · rename_i stmt after hok
      have hlength := length_le hok
      rw [hok] at hstmt
      obtain rfl : after = others ++ .closing .curly :: rest := hstmt
      split
      · rename_i stuck herror
        rw [herror] at hstmts
        exact ⟨hstmts.1, Nat.le_trans hstmts.2 hlength⟩
      · rename_i stmts last hread
        rw [hread] at hstmts
        exact hstmts

theorem isBlock_of_statements (h : IsStatements tokens) : IsBlock (enclosed .curly tokens) where
  head := rfl
  leaves room rest := by
    have htokens : enclosed .curly tokens ++ rest =
        .opening .curly :: (tokens ++ .closing .curly :: rest) := by
      simp [enclosed]
    rw [htokens]
    cases room with
    | zero =>
        show Leaves _ _ _ ((Level.blockParser none).run _)
        unfold Level.blockParser
        rw [run_bind_ok (run_expect _ _ _)]
        exact ⟨rfl, Nat.zero_le _⟩
    | succ room =>
        show Leaves _ _ _ ((Level.blockParser (some (Level.withRoom room))).run _)
        unfold Level.blockParser
        rw [run_bind_ok (run_expect _ _ _)]
        refine Leaves.cons (?_ : Leaves (room - 1) _ _ _) _ (by omega)
        refine Leaves.bind (?_ : Leaves _ _ (· = .closing .curly :: rest) _) ?_
        · exact h.leaves room rest
        · rintro stmts _ rfl
          exact leaves_expect_last stmts rest

theorem isStatement_leave : IsStatement [.name "return", .mark .semicolon] where
  head_ne_closing := by simp
  head_ne_else := by simp
  leaves _ rest _ := by
    show Leaves _ _ _ ((Stmt.parser _ _).run (.name "return" :: .mark .semicolon :: rest))
    rw [Stmt.run_parser_leave]
    rfl

theorem Row.leaves_ended (h : Row .before tokens) (room : Nat)
    (expected : Expectation) (stmt : Expr → Stmt) (rest : List Token) :
    Leaves (room - 1) (tokens ++ .mark .semicolon :: rest) (· = rest)
      (((Level.withRoom room).expr >>= fun value =>
        expect (.mark .semicolon) expected >>= fun _ => pure (stmt value)).run
          (tokens ++ .mark .semicolon :: rest)) := by
  refine (h.leaves_expr rfl room).bind ?_
  rintro value _ rfl
  exact leaves_expect_last (stmt value) rest

theorem isStatement_give (h : Row .before tokens) :
    IsStatement (.name "return" :: (tokens ++ [.mark .semicolon])) where
  head_ne_closing := by simp
  head_ne_else := by simp
  leaves room rest _ := by
    rw [List.cons_append, List.append_assoc, List.singleton_append]
    unfold Stmt.parser
    rw [run_bind_ok (run_peek _), run_bind_ok (run_peekSecond _)]
    show Leaves _ _ _ ((skip >>= _).run (.name "return" :: (tokens ++ .mark .semicolon :: rest)))
    rw [run_bind_ok (run_skip _ _), run_bind_ok (run_eat_of_ne (h.opens.head_ne rfl _))]
    exact (h.leaves_ended room _ Stmt.give rest).cons _ (Nat.le_succ _)

theorem isStatement_assign (target : String) (h : Row .before tokens) :
    IsStatement (.variable target :: .mark .assign :: (tokens ++ [.mark .semicolon])) where
  head_ne_closing := by simp
  head_ne_else := by simp
  leaves room rest _ := by
    rw [List.cons_append, List.cons_append, List.append_assoc, List.singleton_append]
    unfold Stmt.parser
    rw [run_bind_ok (run_peek _), run_bind_ok (run_peekSecond _)]
    show Leaves _ _ _ ((skip >>= _).run
      (.variable target :: .mark .assign :: (tokens ++ .mark .semicolon :: rest)))
    rw [run_bind_ok (run_skip _ _), run_bind_ok (run_skip _ _)]
    exact ((h.leaves_ended room _ (Stmt.assign target) rest).cons _ (Nat.le_refl _)).cons _
      (by omega)

theorem isStatement_expression (h : Row .before tokens) :
    IsStatement (tokens ++ [.mark .semicolon]) where
  head_ne_closing rest := by
    rw [List.append_assoc]
    exact h.opens.head_ne rfl _
  head_ne_else rest := by
    rw [List.append_assoc]
    exact h.opens.head_ne (by decide) _
  leaves room rest _ := by
    have hended := h.leaves_ended room .endOfExpression Stmt.expr rest
    rw [List.append_assoc, List.singleton_append]
    have hopens : Opens (tokens ++ .mark .semicolon :: rest) := h.opens.append (by simp)
    rcases hopens with ⟨first, more, heq, hstarts, hassign⟩
    rw [heq] at hended ⊢
    unfold Stmt.parser
    rw [run_bind_ok (run_peek _), run_bind_ok (run_peekSecond _), List.head?_cons, List.tail_cons]
    split
    · rename_i hfirst
      cases hfirst
      exact absurd hstarts (by decide)
    · rename_i hfirst
      cases hfirst
      exact absurd hstarts (by decide)
    · rename_i target hfirst hsecond
      exact absurd hsecond (hassign target (Option.some.inj hfirst))
    · exact hended

theorem Row.leaves_condition {condition : List Token} (h : Row .before condition) (room : Nat)
    {rest : List Token} {post : List Token → Prop}
    (hrest : ∀ value : Expr, Leaves (room - 1) rest post
      (((Level.withRoom room).block >>= fun yes => eat (.name "else") >>= fun found =>
        if found = true then (Level.withRoom room).block >>= fun no =>
          pure (Stmt.choose value yes no)
        else pure (Stmt.when value yes)).run rest)) :
    Leaves (room - 1) (.name "if" :: (enclosed .round condition ++ rest)) post
      ((Stmt.parser (Level.withRoom room).expr (Level.withRoom room).block).run
        (.name "if" :: (enclosed .round condition ++ rest))) := by
  have htokens : enclosed .round condition ++ rest =
      .opening .round :: (condition ++ .closing .round :: rest) := by
    simp [enclosed]
  rw [htokens]
  unfold Stmt.parser
  rw [run_bind_ok (run_peek _), run_bind_ok (run_peekSecond _)]
  show Leaves _ _ _ ((skip >>= _).run
    (.name "if" :: .opening .round :: (condition ++ .closing .round :: rest)))
  rw [run_bind_ok (run_skip _ _)]
  refine Leaves.cons (?_ : Leaves (room - 1) _ _ _) _ (Nat.le_succ _)
  refine leaves_expect ?_
  refine (h.leaves_expr rfl room).bind ?_
  rintro value _ rfl
  exact leaves_expect (hrest value)

theorem isStatement_when {condition yes : List Token} (h : Row .before condition)
    (hyes : IsBlock yes) : IsStatement (.name "if" :: (enclosed .round condition ++ yes)) where
  head_ne_closing := by simp
  head_ne_else := by simp
  leaves room rest hrest := by
    rw [List.cons_append, List.append_assoc]
    refine h.leaves_condition room fun value => ?_
    refine (hyes.leaves room rest).bind ?_
    rintro found _ rfl
    rw [run_bind_ok (run_eat_of_ne hrest)]
    rfl

theorem isStatement_choose {condition yes no : List Token} (h : Row .before condition)
    (hyes : IsBlock yes) (hno : IsBlock no) :
    IsStatement (.name "if" :: (enclosed .round condition ++ (yes ++ .name "else" :: no))) where
  head_ne_closing := by simp
  head_ne_else := by simp
  leaves room rest _ := by
    rw [List.cons_append, List.append_assoc, List.append_assoc, List.cons_append]
    refine h.leaves_condition room fun value => ?_
    refine (hyes.leaves room _).bind ?_
    rintro found _ rfl
    rw [run_bind_ok (run_eat _ _)]
    exact ((hno.leaves room rest).map _).cons _ (Nat.le_succ _)

end Token

/-!
# Fragments
-/

namespace Fragment

open Token

section Items

variable {expr : Parser Expr} {least : Nat} {tokens : List Token}

theorem runItems_error {stuck : Stuck} (h : expr.run tokens = .error stuck) :
    runItems expr tokens = .error stuck := by
  rw [runItems]
  split <;> rename_i hrun <;> rw [h] at hrun <;> cases hrun
  rfl

theorem leaves_runItems_last (ending : Ending)
    (h : Leaves least tokens (· = Piece.tokens ending.pieces) (expr.run tokens)) :
    Leaves least tokens (· = []) (runItems expr tokens) := by
  cases hrun : expr.run tokens with
  | error stuck =>
      rw [runItems_error hrun]
      rw [hrun] at h
      exact h
  | ok result =>
      rcases result with ⟨item, rest⟩
      rw [hrun] at h
      obtain rfl : rest = Piece.tokens ending.pieces := h
      rw [runItems_last hrun]
      rfl

theorem leaves_runItems_cons {after : List Token} (hafter : after ≠ [])
    (h : Leaves least tokens (· = .mark .comma :: after) (expr.run tokens))
    (hitems : Leaves least after (· = []) (runItems expr after)) :
    Leaves least tokens (· = []) (runItems expr tokens) := by
  rw [runItems]
  split
  · rename_i stuck hrun
    rw [hrun] at h
    exact h
  · rename_i item hrun
    rw [hrun] at h
    cases h
    exact absurd rfl hafter
  · rename_i item rest hrest hrun
    have hlength := length_le hrun
    rw [List.length_cons] at hlength
    rw [hrun] at h
    cases h
    split
    · rename_i stuck herror
      rw [herror] at hitems
      exact ⟨hitems.1, by have := hitems.2; omega⟩
    · rename_i items ending last hread
      rw [hread] at hitems
      exact hitems
  · rename_i item rest hrun
    rw [hrun] at h
    cases h
  · rename_i item rest hcomma hothers hsemicolon hrun
    rw [hrun] at h
    exact absurd h (hothers after)

end Items

/-- The readers make a fragment from the tokens. -/
structure IsRead (tokens : List Token) : Prop where
  ne_nil : tokens ≠ []
  leaves : Leaves (nestingLimit - 1) tokens (· = [])
    (runItems (Level.withRoom nestingLimit).expr tokens)

theorem isRead_last {tokens : List Token} (h : Row .before tokens) (ending : Ending) :
    IsRead (tokens ++ Piece.tokens ending.pieces) where
  ne_nil hnil := by
    rcases h.opens with ⟨first, more, rfl, -, -⟩
    cases hnil
  leaves := leaves_runItems_last ending (h.leaves_expr (gripOf_ending ending) nestingLimit)

theorem isRead_next {tokens others : List Token} (h : Row .before tokens)
    (hothers : IsRead others) : IsRead (tokens ++ .mark .comma :: others) where
  ne_nil := by simp
  leaves := leaves_runItems_cons hothers.ne_nil (h.leaves_expr rfl nestingLimit) hothers.leaves

end Fragment

/-!
# Derivations
-/

namespace Phrase

open Token

/-- What the readers make of the tokens of a phrase. -/
def Recognised : Phrase → List Token → Prop
  | .fragment => Fragment.IsRead
  | .expr | .binary | .unary | .applied | .primary | .closure => Row .before
  | .element => IsElement
  | .parameter => IsParameter
  | .captures => IsCaptures
  | .capture => IsCapture
  | .block => IsBlock
  | .statements => IsStatements
  | .statement => IsStatement
  | .items item => Items item.Recognised
  | .list bracket item => fun tokens =>
      ∃ inner : List Token, tokens = enclosed bracket inner ∧ Items item.Recognised inner

theorem recognised_operand {tokens : List Token} (h : IsOperand tokens) : Row .before tokens :=
  List.append_nil tokens ▸ .operand h .stop

theorem isArguments_of_recognised {tokens : List Token}
    (h : (Phrase.list .round .expr).Recognised tokens) : IsArguments tokens := by
  rcases h with ⟨inner, rfl, hitems⟩
  exact isArguments_of_items hitems

theorem isParameters_of_recognised {tokens : List Token}
    (h : (Phrase.list .round .parameter).Recognised tokens) : IsParameters tokens := by
  rcases h with ⟨inner, rfl, hitems⟩
  exact isParameters_of_items hitems

/-- The readers take what is derived, rule by rule. -/
theorem Derives.recognised {phrase : Phrase} {tokens : List Token} (h : phrase.Derives tokens) :
    phrase.Recognised tokens := by
  induction h with
  | last _ ih =>
      have hread : Fragment.IsRead (_ ++ []) := Fragment.isRead_last ih .none
      rwa [List.append_nil] at hread
  | lastComma _ ih => exact Fragment.isRead_last ih .comma
  | lastSemicolon _ ih => exact Fragment.isRead_last ih .semicolon
  | next _ _ ih ihOthers => exact Fragment.isRead_next ih ihOthers
  | operation _ ih => exact ih
  | ternary _ _ _ ih ihYes ihNo => exact Row.append ih (.ternary ihYes ihNo)
  | elvis _ _ ih ihNo => exact Row.append ih (.elvis ihNo)
  | operand _ ih => exact ih
  | operator _ hop _ ih ihRhs => exact Row.append ih (.operator hop ihRhs)
  | signed op _ ih => exact Row.signed op ih
  | unsigned _ ih => exact ih
  | bare _ ih => exact ih
  | property _ name ih => exact Row.append ih (.property name .stop)
  | method _ name _ ih ihArgs =>
      have hmethod := Row.method name (isArguments_of_recognised ihArgs) .stop
      rw [List.append_nil] at hmethod
      exact Row.append ih hmethod
  | invocation name _ ih =>
      exact recognised_operand (isOperand_invocation name (isArguments_of_recognised ih))
  | literal raw => exact recognised_operand (isOperand_literal raw)
  | number raw => exact recognised_operand (isOperand_number raw)
  | «variable» name => exact recognised_operand (isOperand_variable name)
  | array _ ih =>
      rcases ih with ⟨inner, rfl, hitems⟩
      exact recognised_operand (isOperand_array hitems)
  | function _ ih => exact ih
  | group _ ih => exact recognised_operand (isOperand_group ih)
  | staticCall h name _ ih =>
      exact recognised_operand (isOperand_staticCall h name (isArguments_of_recognised ih))
  | classConstant h name => exact recognised_operand (isOperand_classConstant h name)
  | call h _ ih => exact recognised_operand (isOperand_call h (isArguments_of_recognised ih))
  | constant h => exact recognised_operand (isOperand_constant h)
  | arrow _ _ ih ihBody => exact Row.arrow (isParameters_of_recognised ih) ihBody
  | blockClosure _ _ _ ih ihClause ihBody =>
      exact recognised_operand
        (isOperand_function (isParameters_of_recognised ih) ihClause ihBody)
  | value _ ih => exact isElement_value ih
  | pair _ _ ih ihValue => exact isElement_pair ih ihValue
  | untyped name => exact isParameter_untyped name
  | typed type name => exact isParameter_typed type name
  | nullable type name => exact isParameter_nullable type name
  | noCaptures => exact isCaptures_nil
  | capturing _ ih =>
      rcases ih with ⟨inner, rfl, hitems⟩
      exact isCaptures_of_items hitems
  | byValue name => exact isCapture_byValue name
  | byReference name => exact isCapture_byReference name
  | braces _ ih => exact isBlock_of_statements ih
  | done => exact isStatements_nil
  | step _ _ ih ihOthers => exact isStatements_append ih ihOthers
  | leave => exact isStatement_leave
  | give _ ih => exact isStatement_give ih
  | when _ _ ih ihYes => exact isStatement_when ih ihYes
  | choose _ _ _ ih ihYes ihNo => exact isStatement_choose ih ihYes ihNo
  | assign target _ ih => exact isStatement_assign target ih
  | expression _ ih => exact isStatement_expression ih
  | noItems => exact Items.none
  | lastItem _ ih => exact Items.last ih
  | nextItem _ _ ih ihOthers => exact Items.next ih ihOthers
  | brackets bracket _ ih => exact ⟨_, rfl, ih⟩

end Phrase

theorem Lexeme.tokenize_eq_ok {source : String} {lexemes : List Lexeme}
    (h : (tokenize source).toOption = some lexemes) : tokenize source = .ok lexemes := by
  cases hrun : tokenize source with
  | error error =>
      rw [hrun] at h
      cases h
  | ok found =>
      rw [hrun] at h
      cases h
      rfl

namespace Fragment

theorem ofTokens_of_derives {tokens : List Token} (h : Phrase.fragment.Derives tokens) :
    (∃ fragment : Fragment, ofTokens tokens = .ok fragment) ∨
      ∃ left : Nat, ofTokens tokens = .error ⟨left, .nestingTooDeep⟩ ∧
        nestingLimit ≤ tokens.length + 1 := by
  have hread : Leaves (nestingLimit - 1) tokens (· = [])
      (runItems (Level.withRoom nestingLimit).expr tokens) := h.recognised.leaves
  unfold ofTokens
  cases hrun : runItems (Level.withRoom nestingLimit).expr tokens with
  | error stuck =>
      rcases stuck with ⟨left, reason⟩
      rw [hrun] at hread
      rcases hread with ⟨rfl, hlength⟩
      exact Or.inr ⟨left, rfl, Nat.le_succ_of_pred_le hlength⟩
  | ok result =>
      rcases result with ⟨⟨items, ending⟩, rest⟩
      rw [hrun] at hread
      obtain rfl : rest = [] := hread
      exact Or.inl ⟨_, rfl⟩

/-- A text whose tokens are not derived is no fragment.  A text whose tokens are derived is one,
unless it nests too deep, which takes 255 tokens or more. -/
theorem parse_recognises {source : String} {lexemes : List Lexeme}
    (h : Lexeme.tokenize source = .ok lexemes) :
    (∀ fragment : Fragment, parse source = .ok fragment →
      Phrase.fragment.Derives (lexemes.map (·.token))) ∧
    (Phrase.fragment.Derives (lexemes.map (·.token)) →
      (∃ fragment : Fragment, parse source = .ok fragment) ∨
        ∃ position : Nat, parse source = .error ⟨position, .nestingTooDeep⟩ ∧
          nestingLimit ≤ lexemes.length + 1) := by
  by_cases hne : lexemes = []
  · subst hne
    rw [parse_of_tokenize_nil h]
    constructor
    · rintro fragment ⟨⟩
    · intro hderives
      exact absurd rfl hderives.recognised.ne_nil
  · rw [parse_of_tokenize h hne]
    constructor
    · intro fragment hparse
      split at hparse
      · rename_i found hread
        cases hparse
        exact derives_of_ofTokens hread
      · cases hparse
    · intro hderives
      rcases ofTokens_of_derives hderives with ⟨fragment, hread⟩ | ⟨left, hdeep, hlength⟩
      · rw [hread]
        exact Or.inl ⟨fragment, rfl⟩
      · rw [hdeep]
        rw [List.length_map] at hlength
        exact Or.inr ⟨_, rfl, hlength⟩

/-- The body of an arrow function goes on as far as it can, and a comma may follow an argument. -/
theorem parse_recognises_arrow :
    let lexemes : List Lexeme :=
      [⟨.name "fn", 0⟩, ⟨.opening .round, 2⟩, ⟨.closing .round, 3⟩, ⟨.mark .fatArrow, 5⟩,
        ⟨.variable "$a", 8⟩, ⟨.mark .question, 11⟩, ⟨.mark .colon, 12⟩, ⟨.name "f", 14⟩,
        ⟨.opening .round, 15⟩, ⟨.number "1", 16⟩, ⟨.mark .comma, 17⟩, ⟨.closing .round, 18⟩]
    Lexeme.tokenize "fn() => $a ?: f(1,)" = .ok lexemes ∧
      Phrase.fragment.Derives (lexemes.map (·.token)) ∧
      ∃ fragment : Fragment, parse "fn() => $a ?: f(1,)" = .ok fragment := by
  intro lexemes
  have htokens : Lexeme.tokenize "fn() => $a ?: f(1,)" = .ok lexemes :=
    Lexeme.tokenize_eq_ok (by decide +kernel)
  have hparse : ∃ fragment : Fragment, parse "fn() => $a ?: f(1,)" = .ok fragment :=
    ⟨⟨[.closure (.arrow [] (.elvis (.variable "$a")
      (.chain ⟨.function, ⟨"f", [.number "1"]⟩, []⟩)))], .none⟩, by decide +kernel⟩
  rcases hparse with ⟨fragment, hparse⟩
  have hderives := (parse_recognises htokens).1 fragment hparse
  rcases (parse_recognises htokens).2 hderives with hread | ⟨position, hdeep, -⟩
  · exact ⟨htokens, hderives, hread⟩
  · rw [hparse] at hdeep
    cases hdeep

end Fragment

end FluentStyle
