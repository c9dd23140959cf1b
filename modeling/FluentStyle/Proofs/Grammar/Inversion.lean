import FluentStyle.Proofs.Grammar.Reading

/-!
# What readers have read

What a reader that gave a result has found in front of it, with one case for each alternative of the
grammar.  All that is known of what is read goes back to these cases, so that no other module looks
into a reader that has no loop.
-/

namespace FluentStyle

namespace Token

def Spelled (tokens : List Token) : Prop :=
  ∀ token ∈ tokens, token.isSpelled = true

theorem Spelled.head {token : Token} {rest : List Token} (h : Spelled (token :: rest)) :
    token.isSpelled = true :=
  h token List.mem_cons_self

theorem Spelled.tail {token : Token} {rest : List Token} (h : Spelled (token :: rest)) :
    Spelled rest :=
  fun next hnext => h next (List.mem_cons_of_mem _ hnext)

theorem Spelled.of_suffix {tokens rest : List Token} (h : Spelled tokens)
    (hsuffix : rest <:+ tokens) : Spelled rest :=
  fun token htoken => h token (hsuffix.subset htoken)

end Token

namespace Parser

variable {α β : Type} {tokens rest : List Token}

theorem Spelled.run {p : Parser α} {a : α} (h : Token.Spelled tokens)
    (hrun : p.run tokens = .ok (a, rest)) : Token.Spelled rest :=
  h.of_suffix (p.suffix hrun)

theorem bind_eq_ok {p : Parser α} {f : α → Parser β} {b : β}
    (h : (p >>= f).run tokens = .ok (b, rest)) :
    ∃ (a : α) (between : List Token),
      p.run tokens = .ok (a, between) ∧ (f a).run between = .ok (b, rest) := by
  rw [run_bind] at h
  split at h
  · cases h
  · rename_i a between hp
    exact ⟨a, between, hp, h⟩

theorem peek_bind_eq_ok {f : Option Token → Parser β} {b : β}
    (h : (peek >>= f).run tokens = .ok (b, rest)) :
    (f tokens.head?).run tokens = .ok (b, rest) := h

theorem peekSecond_bind_eq_ok {f : Option Token → Parser β} {b : β}
    (h : (peekSecond >>= f).run tokens = .ok (b, rest)) :
    (f tokens.tail.head?).run tokens = .ok (b, rest) := h

theorem skip_bind_eq_ok {token : Token} {f : Unit → Parser β} {b : β}
    (h : (skip >>= f).run (token :: tokens) = .ok (b, rest)) :
    (f ()).run tokens = .ok (b, rest) := h

theorem eat_eq_ok {token : Token} {found : Bool}
    (h : (eat token).run tokens = .ok (found, rest)) :
    tokens = token :: rest ∧ found = true ∨
      tokens.head? ≠ some token ∧ tokens = rest ∧ found = false := by
  by_cases hhead : tokens.head? = some token
  · rcases List.head?_eq_some_iff.mp hhead with ⟨after, rfl⟩
    rw [run_eat] at h
    cases h
    exact Or.inl ⟨rfl, rfl⟩
  · rw [run_eat_of_ne hhead] at h
    cases h
    exact Or.inr ⟨hhead, rfl, rfl⟩

theorem eat_bind_eq_ok {token : Token} {f : Bool → Parser β} {b : β}
    (h : (eat token >>= f).run tokens = .ok (b, rest)) :
    (∃ after : List Token, tokens = token :: after ∧ (f true).run after = .ok (b, rest)) ∨
      tokens.head? ≠ some token ∧ (f false).run tokens = .ok (b, rest) := by
  rcases bind_eq_ok h with ⟨found, between, heat, hf⟩
  rcases eat_eq_ok heat with ⟨rfl, rfl⟩ | ⟨hhead, rfl, rfl⟩
  · exact Or.inl ⟨between, rfl, hf⟩
  · exact Or.inr ⟨hhead, hf⟩

theorem expect_bind_eq_ok {token : Token} {expected : Expectation} {f : Unit → Parser β} {b : β}
    (h : (expect token expected >>= f).run tokens = .ok (b, rest)) :
    ∃ after : List Token, tokens = token :: after ∧ (f ()).run after = .ok (b, rest) := by
  rcases bind_eq_ok h with ⟨_, between, hexpect, hf⟩
  rcases eat_bind_eq_ok hexpect with ⟨after, hafter, hpure⟩ | ⟨-, hfail⟩
  · cases hpure
    exact ⟨_, hafter, hf⟩
  · cases hfail

theorem name_bind_eq_ok {expected : Expectation} {f : String → Parser β} {b : β}
    (h : (name expected >>= f).run tokens = .ok (b, rest)) :
    ∃ (text : String) (after : List Token),
      tokens = .name text :: after ∧ (f text).run after = .ok (b, rest) := by
  rcases bind_eq_ok h with ⟨text, between, hname, hf⟩
  have hmatch := peek_bind_eq_ok hname
  split at hmatch
  · rename_i found hhead
    rcases List.head?_eq_some_iff.mp hhead with ⟨after, rfl⟩
    cases hmatch
    exact ⟨_, _, rfl, hf⟩
  · cases hmatch

theorem variableName_bind_eq_ok {expected : Expectation} {f : String → Parser β} {b : β}
    (h : (variableName expected >>= f).run tokens = .ok (b, rest)) :
    ∃ (text : String) (after : List Token),
      tokens = .variable text :: after ∧ (f text).run after = .ok (b, rest) := by
  rcases bind_eq_ok h with ⟨text, between, hname, hf⟩
  have hmatch := peek_bind_eq_ok hname
  split at hmatch
  · rename_i found hhead
    rcases List.head?_eq_some_iff.mp hhead with ⟨after, rfl⟩
    cases hmatch
    exact ⟨_, _, rfl, hf⟩
  · cases hmatch

theorem ended_eq_ok {p : Parser α} {close : Token} {expected : Expectation} {f : α → β} {b : β}
    (h : (p >>= fun a => expect close expected >>= fun _ => pure (f a)).run tokens =
      .ok (b, rest)) :
    ∃ a : α, p.run tokens = .ok (a, close :: rest) ∧ b = f a := by
  rcases bind_eq_ok h with ⟨a, between, hp, hend⟩
  rcases expect_bind_eq_ok hend with ⟨last, rfl, hpure⟩
  cases hpure
  exact ⟨a, hp, rfl⟩

theorem closed_eq_ok {item : Parser α} {close : Token} {expected : Expectation} {items : List α}
    (h : (list close item >>= fun items => expect close expected >>= fun _ => pure items).run
      tokens = .ok (items, rest)) :
    runList close item tokens = .ok (items, close :: rest) := by
  rcases ended_eq_ok (f := id) h with ⟨found, hlist, rfl⟩
  exact hlist

theorem forall_mem_of_runList {close : Token} {item : Parser α} {items : List α} {p : α → Prop}
    (hitem : ∀ {tokens rest : List Token} {a : α}, Token.Spelled tokens →
      item.run tokens = .ok (a, rest) → p a)
    (spelled : Token.Spelled tokens) (h : runList close item tokens = .ok (items, rest)) :
    ∀ a ∈ items, p a := by
  fun_induction runList close item tokens generalizing items rest with
  | case1 =>
      cases h
      exact List.forall_mem_nil p
  | case2 => cases h
  | case3 => cases h
  | case4 tokens _ a rest' hreading items' after hafter ih =>
      cases h
      have hrest : Token.Spelled rest' := (Spelled.run spelled hreading).tail
      exact List.forall_mem_cons.mpr ⟨hitem spelled hreading, ih hrest hafter⟩
  | case5 tokens _ a rest' hcomma hreading =>
      cases h
      exact List.forall_mem_cons.mpr ⟨hitem spelled hreading, List.forall_mem_nil p⟩

end Parser

/-!
# Parameters and captured variables
-/

/-- What the reader of a parameter has read. -/
inductive Param.Read : List Token → Param → List Token → Prop where
  | untyped (name : String) (rest : List Token) : Read (.variable name :: rest) ⟨none, name⟩ rest
  | typed (type name : String) (rest : List Token) :
      Read (.name type :: .variable name :: rest) ⟨some ⟨false, type⟩, name⟩ rest
  | nullable (type name : String) (rest : List Token) :
      Read (.mark .question :: .name type :: .variable name :: rest) ⟨some ⟨true, type⟩, name⟩ rest

inductive Capture.Read : List Token → Capture → List Token → Prop where
  | byValue (name : String) (rest : List Token) : Read (.variable name :: rest) ⟨false, name⟩ rest
  | byReference (name : String) (rest : List Token) :
      Read (.mark .ampersand :: .variable name :: rest) ⟨true, name⟩ rest

inductive Capture.ListRead : List Token → List Capture → List Token → Prop where
  | none (rest : List Token) : ListRead rest [] rest
  | clause {tokens rest : List Token} {captures : List Capture}
      (h : Parser.runList (.closing .round) Capture.parser tokens =
        .ok (captures, .closing .round :: rest)) :
      ListRead (.name "use" :: .opening .round :: tokens) captures rest

section Names

variable {tokens rest : List Token}

theorem Param.hint_cases {nullable : Bool} {hint : Option TypeHint}
    (h : (hintParser nullable).run tokens = .ok (hint, rest)) :
    (∃ type : String, hint = some ⟨nullable, type⟩ ∧ tokens = .name type :: rest) ∨
      nullable = false ∧ hint = none ∧ tokens = rest := by
  have hmatch := Parser.peek_bind_eq_ok h
  split at hmatch
  · rename_i type hhead
    rcases List.head?_eq_some_iff.mp hhead with ⟨after, rfl⟩
    cases hmatch
    exact Or.inl ⟨type, rfl, rfl⟩
  · cases nullable with
    | true => cases hmatch
    | false =>
        cases hmatch
        exact Or.inr ⟨rfl, rfl, rfl⟩

theorem Param.read_of_run {param : Param} (h : parser.run tokens = .ok (param, rest)) :
    Read tokens param rest := by
  rcases Parser.bind_eq_ok h with ⟨nullable, afterMark, hmark, hparam⟩
  rcases Parser.bind_eq_ok hparam with ⟨hint, afterHint, hhint, hnamed⟩
  rcases Parser.variableName_bind_eq_ok hnamed with ⟨name, after, rfl, hend⟩
  have hmatch := Parser.peek_bind_eq_ok hend
  split at hmatch
  · cases hmatch
  · cases hmatch
    rcases Parser.eat_eq_ok hmark with ⟨rfl, rfl⟩ | ⟨-, rfl, rfl⟩
    · rcases hint_cases hhint with ⟨type, rfl, rfl⟩ | ⟨hplain, -⟩
      · exact .nullable type name _
      · cases hplain
    · rcases hint_cases hhint with ⟨type, rfl, rfl⟩ | ⟨-, rfl, rfl⟩
      · exact .typed type name _
      · exact .untyped name _

theorem Param.listParser_eq_ok {params : List Param}
    (h : listParser.run tokens = .ok (params, rest)) :
    ∃ inside : List Token, tokens = .opening .round :: inside ∧
      Parser.runList (.closing .round) parser inside = .ok (params, .closing .round :: rest) := by
  rcases Parser.expect_bind_eq_ok h with ⟨inside, rfl, hparams⟩
  exact ⟨inside, rfl, Parser.closed_eq_ok hparams⟩

theorem Capture.read_of_run {capture : Capture} (h : parser.run tokens = .ok (capture, rest)) :
    Read tokens capture rest := by
  rcases Parser.eat_bind_eq_ok h with ⟨after, rfl, hnamed⟩ | ⟨-, hnamed⟩
  · rcases Parser.variableName_bind_eq_ok hnamed with ⟨name, last, rfl, hpure⟩
    cases hpure
    exact .byReference name rest
  · rcases Parser.variableName_bind_eq_ok hnamed with ⟨name, last, rfl, hpure⟩
    cases hpure
    exact .byValue name rest

theorem Capture.listRead_of_run {captures : List Capture}
    (h : listParser.run tokens = .ok (captures, rest)) : ListRead tokens captures rest := by
  rcases Parser.eat_bind_eq_ok h with ⟨after, rfl, hopening⟩ | ⟨-, hnone⟩
  · rcases Parser.expect_bind_eq_ok hopening with ⟨inside, rfl, hcaptures⟩
    exact .clause (Parser.closed_eq_ok hcaptures)
  · cases hnone
    exact .none _

end Names

/-!
# Primary expressions
-/

section Primary

variable {expr : Parser Expr} {block : Parser (List Stmt)} {tokens rest : List Token}

inductive ArrayItem.Read (expr : Parser Expr) : List Token → ArrayItem → List Token → Prop where
  | value {tokens rest : List Token} {value : Expr} (h : expr.run tokens = .ok (value, rest)) :
      Read expr tokens (.value value) rest
  | pair {tokens after rest : List Token} {key value : Expr}
      (hkey : expr.run tokens = .ok (key, .mark .fatArrow :: after))
      (hvalue : expr.run after = .ok (value, rest)) : Read expr tokens (.pair key value) rest

/-- What the reader of primary expressions has read. -/
inductive Expr.PrimaryRead (expr : Parser Expr) (block : Parser (List Stmt)) :
    List Token → Expr → List Token → Prop where
  | literal (raw : String) (rest : List Token) :
      PrimaryRead expr block (.literal raw :: rest) (.literal ⟨raw⟩) rest
  | number (raw : String) (rest : List Token) :
      PrimaryRead expr block (.number raw :: rest) (.number raw) rest
  | bareVariable (name : String) (rest : List Token) :
      PrimaryRead expr block (.variable name :: rest) (.variable name) rest
  | array {tokens rest : List Token} {items : List ArrayItem}
      (h : Parser.runList (.closing .square) (ArrayItem.parser expr) tokens =
        .ok (items, .closing .square :: rest)) :
      PrimaryRead expr block (.opening .square :: tokens) (.array items) rest
  | group {tokens rest : List Token} {inner : Expr}
      (h : expr.run tokens = .ok (inner, .closing .round :: rest)) :
      PrimaryRead expr block (.opening .round :: tokens) (.group inner) rest
  | arrow {tokens after rest : List Token} {params : List Param} {body : Expr}
      (hparams : Param.listParser.run tokens = .ok (params, .mark .fatArrow :: after))
      (hbody : expr.run after = .ok (body, rest)) :
      PrimaryRead expr block (.name "fn" :: tokens) (.closure (.arrow params body)) rest
  | block {tokens after last rest : List Token} {params : List Param} {captures : List Capture}
      {body : List Stmt} (hparams : Param.listParser.run tokens = .ok (params, after))
      (hcaptures : Capture.listParser.run after = .ok (captures, last))
      (hbody : block.run last = .ok (body, rest)) :
      PrimaryRead expr block (.name "function" :: tokens) (.closure (.block params captures body))
        rest
  | staticCall {tokens rest : List Token} {args : List Expr} (className member : String)
      (hname : className ∉ Expr.keywords)
      (hargs : (Call.argsParser expr).run tokens = .ok (args, rest)) :
      PrimaryRead expr block
        (.name className :: .mark .doubleColon :: .name member :: .opening .round :: tokens)
        (.chain ⟨.static className, ⟨member, args⟩, []⟩) rest
  | classConstant (className member : String) (hname : className ∉ Expr.keywords)
      (rest : List Token) :
      PrimaryRead expr block (.name className :: .mark .doubleColon :: .name member :: rest)
        (.classConstant className member) rest
  | call {tokens rest : List Token} {args : List Expr} (name : String)
      (hname : name ∉ Expr.keywords)
      (hargs : (Call.argsParser expr).run tokens = .ok (args, rest)) :
      PrimaryRead expr block (.name name :: .opening .round :: tokens)
        (.chain ⟨.function, ⟨name, args⟩, []⟩) rest
  | constant (name : String) (hname : name ∉ Expr.keywords) (rest : List Token) :
      PrimaryRead expr block (.name name :: rest) (.constant name) rest

theorem ArrayItem.read_of_run {item : ArrayItem}
    (h : (parser expr).run tokens = .ok (item, rest)) : Read expr tokens item rest := by
  rcases Parser.bind_eq_ok h with ⟨first, between, hfirst, heat⟩
  rcases Parser.eat_bind_eq_ok heat with ⟨after, rfl, hpair⟩ | ⟨-, hvalue⟩
  · rcases Parser.bind_eq_ok hpair with ⟨second, last, hsecond, hpure⟩
    cases hpure
    exact .pair hfirst hsecond
  · cases hvalue
    exact .value hfirst

namespace Expr

theorem primaryRead_of_arrow {closure : Closure}
    (h : (Closure.arrowParser expr).run tokens = .ok (closure, rest)) :
    PrimaryRead expr block (.name "fn" :: tokens) (.closure closure) rest := by
  rcases Parser.bind_eq_ok h with ⟨params, between, hparams, harrow⟩
  rcases Parser.expect_bind_eq_ok harrow with ⟨after, rfl, hbody⟩
  rcases Parser.bind_eq_ok hbody with ⟨body, last, hrun, hpure⟩
  cases hpure
  exact .arrow hparams hrun

theorem primaryRead_of_block {closure : Closure}
    (h : (Closure.blockParser block).run tokens = .ok (closure, rest)) :
    PrimaryRead expr block (.name "function" :: tokens) (.closure closure) rest := by
  rcases Parser.bind_eq_ok h with ⟨params, between, hparams, huse⟩
  rcases Parser.bind_eq_ok huse with ⟨captures, after, hcaptures, hbody⟩
  rcases Parser.bind_eq_ok hbody with ⟨body, last, hrun, hpure⟩
  cases hpure
  exact .block hparams hcaptures hrun

theorem primaryRead_of_named {name : String} (hname : name ∉ keywords) {result : Expr}
    (h : (namedParser expr name).run tokens = .ok (result, rest)) :
    PrimaryRead expr block (.name name :: tokens) result rest := by
  rcases Parser.eat_bind_eq_ok h with ⟨after, rfl, hcolons⟩ | ⟨-, hplain⟩
  · rcases Parser.name_bind_eq_ok hcolons with ⟨member, afterMember, rfl, hmember⟩
    rcases Parser.eat_bind_eq_ok hmember with ⟨afterOpening, rfl, hcall⟩ | ⟨-, hconstant⟩
    · rcases Parser.bind_eq_ok hcall with ⟨args, last, hargs, hpure⟩
      cases hpure
      exact .staticCall name member hname hargs
    · cases hconstant
      exact .classConstant name member hname rest
  · rcases Parser.eat_bind_eq_ok hplain with ⟨afterOpening, rfl, hcall⟩ | ⟨-, hconstant⟩
    · rcases Parser.bind_eq_ok hcall with ⟨args, last, hargs, hpure⟩
      cases hpure
      exact .call name hname hargs
    · cases hconstant
      exact .constant name hname _

theorem primaryRead_of_run {result : Expr}
    (h : (primaryParser expr block).run tokens = .ok (result, rest)) :
    PrimaryRead expr block tokens result rest := by
  have hmatch := Parser.peek_bind_eq_ok h
  split at hmatch
  · rename_i raw hhead
    rcases List.head?_eq_some_iff.mp hhead with ⟨after, rfl⟩
    cases hmatch
    exact .literal raw _
  · rename_i raw hhead
    rcases List.head?_eq_some_iff.mp hhead with ⟨after, rfl⟩
    cases hmatch
    exact .number raw _
  · rename_i name hhead
    rcases List.head?_eq_some_iff.mp hhead with ⟨after, rfl⟩
    cases hmatch
    exact .bareVariable name _
  · rename_i hhead
    rcases List.head?_eq_some_iff.mp hhead with ⟨after, rfl⟩
    rcases Parser.bind_eq_ok (Parser.skip_bind_eq_ok hmatch) with ⟨items, last, hitems, hpure⟩
    cases hpure
    exact .array (Parser.closed_eq_ok hitems)
  · rename_i hhead
    rcases List.head?_eq_some_iff.mp hhead with ⟨after, rfl⟩
    rcases Parser.ended_eq_ok (Parser.skip_bind_eq_ok hmatch) with ⟨inner, hinner, rfl⟩
    exact .group hinner
  · rename_i word hhead
    rcases List.head?_eq_some_iff.mp hhead with ⟨after, rfl⟩
    split at hmatch
    · rename_i hword
      rcases Parser.bind_eq_ok (Parser.skip_bind_eq_ok hmatch) with ⟨closure, last, hrun, hpure⟩
      cases hpure
      exact hword ▸ primaryRead_of_arrow hrun
    · split at hmatch
      · rename_i hword
        rcases Parser.bind_eq_ok (Parser.skip_bind_eq_ok hmatch) with ⟨closure, last, hrun, hpure⟩
        cases hpure
        exact hword ▸ primaryRead_of_block hrun
      · split at hmatch
        · cases hmatch
        · split at hmatch
          · cases hmatch
          · rename_i hfn hfunction hnew hreserved
            have hkeyword : word ∉ keywords := by
              simp only [keywords, List.mem_cons, not_or]
              exact ⟨hfn, hfunction, hnew, hreserved⟩
            exact primaryRead_of_named hkeyword (Parser.skip_bind_eq_ok hmatch)
  · cases hmatch

end Expr

end Primary

/-!
# Whole expressions
-/

/-- What the reader of whole expressions has read. -/
inductive Expr.WholeRead (room : Nat) (operand expr : Parser Expr) :
    List Token → Expr → List Token → Prop where
  | operation {tokens rest : List Token} {result : Expr}
      (h : (binaryParser room operand 0).run tokens = .ok (result, rest))
      (hne : rest.head? ≠ some (.mark .question)) : WholeRead room operand expr tokens result rest
  | ternary {tokens after last rest : List Token} {condition yes no : Expr}
      (h : (binaryParser room operand 0).run tokens = .ok (condition, .mark .question :: after))
      (hyes : expr.run after = .ok (yes, .mark .colon :: last))
      (hno : expr.run last = .ok (no, rest)) :
      WholeRead room operand expr tokens (.ternary condition yes no) rest
  | elvis {tokens after rest : List Token} {condition no : Expr}
      (h : (binaryParser room operand 0).run tokens =
        .ok (condition, .mark .question :: .mark .colon :: after))
      (hno : expr.run after = .ok (no, rest)) :
      WholeRead room operand expr tokens (.elvis condition no) rest

theorem Expr.wholeRead_of_run {room : Nat} {operand expr : Parser Expr} {tokens rest : List Token}
    {result : Expr} (h : (conditionalParser room operand expr).run tokens = .ok (result, rest)) :
    WholeRead room operand expr tokens result rest := by
  rcases Parser.bind_eq_ok h with ⟨condition, between, hcondition, hchoice⟩
  rcases Parser.eat_bind_eq_ok hchoice with ⟨after, rfl, hquestion⟩ | ⟨hne, hpure⟩
  · have hmatch := Parser.peek_bind_eq_ok hquestion
    split at hmatch
    · rename_i hhead
      rcases List.head?_eq_some_iff.mp hhead with ⟨afterColon, rfl⟩
      rcases Parser.bind_eq_ok (Parser.skip_bind_eq_ok hmatch) with ⟨no, last, hno, hpure⟩
      cases hpure
      exact .elvis hcondition hno
    · rcases Parser.bind_eq_ok hmatch with ⟨yes, afterYes, hyes, hcolon⟩
      rcases Parser.expect_bind_eq_ok hcolon with ⟨afterColon, rfl, hbranch⟩
      rcases Parser.bind_eq_ok hbranch with ⟨no, last, hno, hpure⟩
      cases hpure
      exact .ternary hcondition hyes hno
  · cases hpure
    exact .operation hcondition hne

/-!
# Statements
-/

inductive Stmt.Read (expr : Parser Expr) (block : Parser (List Stmt)) :
    List Token → Stmt → List Token → Prop where
  | leave (rest : List Token) :
      Read expr block (.name "return" :: .mark .semicolon :: rest) .leave rest
  | give {tokens rest : List Token} {value : Expr}
      (h : expr.run tokens = .ok (value, .mark .semicolon :: rest)) :
      Read expr block (.name "return" :: tokens) (.give value) rest
  | when {tokens after rest : List Token} {condition : Expr} {yes : List Stmt}
      (h : expr.run tokens = .ok (condition, .closing .round :: after))
      (hyes : block.run after = .ok (yes, rest)) :
      Read expr block (.name "if" :: .opening .round :: tokens) (.when condition yes) rest
  | choose {tokens after last rest : List Token} {condition : Expr} {yes no : List Stmt}
      (h : expr.run tokens = .ok (condition, .closing .round :: after))
      (hyes : block.run after = .ok (yes, .name "else" :: last))
      (hno : block.run last = .ok (no, rest)) :
      Read expr block (.name "if" :: .opening .round :: tokens) (.choose condition yes no) rest
  | assign {tokens rest : List Token} {value : Expr} (target : String)
      (h : expr.run tokens = .ok (value, .mark .semicolon :: rest)) :
      Read expr block (.variable target :: .mark .assign :: tokens) (.assign target value) rest
  | expr {tokens rest : List Token} {value : Expr}
      (h : expr.run tokens = .ok (value, .mark .semicolon :: rest)) :
      Read expr block tokens (.expr value) rest

theorem Stmt.read_of_run {expr : Parser Expr} {block : Parser (List Stmt)}
    {tokens rest : List Token} {stmt : Stmt}
    (h : (parser expr block).run tokens = .ok (stmt, rest)) : Read expr block tokens stmt rest := by
  have hmatch := Parser.peekSecond_bind_eq_ok (Parser.peek_bind_eq_ok h)
  split at hmatch
  · rename_i hhead
    rcases List.head?_eq_some_iff.mp hhead with ⟨after, rfl⟩
    rcases Parser.eat_bind_eq_ok (Parser.skip_bind_eq_ok hmatch) with
      ⟨last, rfl, hleave⟩ | ⟨-, hgive⟩
    · cases hleave
      exact .leave rest
    · rcases Parser.ended_eq_ok hgive with ⟨value, hvalue, rfl⟩
      exact .give hvalue
  · rename_i hhead
    rcases List.head?_eq_some_iff.mp hhead with ⟨after, rfl⟩
    rcases Parser.expect_bind_eq_ok (Parser.skip_bind_eq_ok hmatch) with
      ⟨afterOpening, rfl, hcondition⟩
    rcases Parser.bind_eq_ok hcondition with ⟨condition, between, hrun, hclosing⟩
    rcases Parser.expect_bind_eq_ok hclosing with ⟨afterClosing, rfl, hbranches⟩
    rcases Parser.bind_eq_ok hbranches with ⟨yes, afterYes, hyes, helse⟩
    rcases Parser.eat_bind_eq_ok helse with ⟨afterElse, rfl, hchoose⟩ | ⟨-, hwhen⟩
    · rcases Parser.bind_eq_ok hchoose with ⟨no, last, hno, hpure⟩
      cases hpure
      exact .choose hrun hyes hno
    · cases hwhen
      exact .when hrun hyes
  · rename_i target hhead hassign
    rcases List.head?_eq_some_iff.mp hhead with ⟨after, rfl⟩
    rcases List.head?_eq_some_iff.mp hassign with ⟨afterAssign, rfl⟩
    have hskip := Parser.skip_bind_eq_ok hmatch
    rcases Parser.ended_eq_ok (Parser.skip_bind_eq_ok hskip) with ⟨value, hvalue, rfl⟩
    exact .assign target hvalue
  · rcases Parser.ended_eq_ok hmatch with ⟨value, hvalue, rfl⟩
    exact .expr hvalue

/-!
# Levels
-/

namespace Level

variable {room : Nat} {inner : Option Level} {tokens rest : List Token}

theorem within_eq_ok {α : Type} {read : Level → Parser α} {a : α}
    (h : (within inner read).run tokens = .ok (a, rest)) :
    ∃ level ∈ inner, (read level).run tokens = .ok (a, rest) := by
  cases inner with
  | none => cases h
  | some level => exact ⟨level, rfl, h⟩

theorem blockParser_eq_ok {stmts : List Stmt}
    (h : (blockParser inner).run tokens = .ok (stmts, rest)) :
    ∃ level ∈ inner, ∃ inside : List Token, tokens = .opening .curly :: inside ∧
      Stmt.runAll level.expr level.block inside = .ok (stmts, .closing .curly :: rest) := by
  rcases Parser.expect_bind_eq_ok h with ⟨inside, rfl, hstmts⟩
  rcases Parser.ended_eq_ok (f := id) hstmts with ⟨found, hwithin, rfl⟩
  rcases within_eq_ok hwithin with ⟨level, hlevel, hall⟩
  exact ⟨level, hlevel, inside, rfl, hall⟩

theorem eq_token_of_unaryOp? {token : Token} {op : UnaryOp} (h : token.unaryOp? = some op) :
    token = op.token := by
  unfold Token.unaryOp? at h
  split at h <;> cases h <;> rfl

/-- What the reader of operands has read. -/
inductive OperandRead (room : Nat) (inner : Option Level) :
    List Token → Expr → List Token → Prop where
  | signed {tokens rest : List Token} {operand : Expr} {level : Level} (op : UnaryOp)
      (hlevel : level ∈ inner) (h : level.unary.run tokens = .ok (operand, rest)) :
      OperandRead room inner (op.token :: tokens) (.unary op operand) rest
  | unsigned {tokens after rest : List Token} {primary result : Expr}
      (hprimary : (Expr.primaryParser (exprParser room inner) (blockParser inner)).run tokens =
        .ok (primary, after))
      (happlied : Expr.runApplied room (Call.argsParser (exprParser room inner)) 0 primary after =
        .ok (result, rest)) : OperandRead room inner tokens result rest

theorem operandRead_of_run {expr : Expr}
    (h : (unaryParser room inner).run tokens = .ok (expr, rest)) :
    OperandRead room inner tokens expr rest := by
  have hmatch := Parser.peek_bind_eq_ok h
  split at hmatch
  · rename_i op hop
    cases tokens with
    | nil => cases hop
    | cons token tokens =>
        obtain rfl := eq_token_of_unaryOp? hop
        rcases Parser.bind_eq_ok (Parser.skip_bind_eq_ok hmatch) with
          ⟨operand, last, hwithin, hpure⟩
        cases hpure
        rcases within_eq_ok hwithin with ⟨level, hlevel, hunary⟩
        exact .signed op hlevel hunary
  · rcases Parser.bind_eq_ok hmatch with ⟨primary, between, hprimary, happlied⟩
    exact .unsigned hprimary happlied

end Level

end FluentStyle
