import FluentStyle.Proofs.Grammar.Printing

/-!
# Reading printed lists

What the readers of names, parameters and lists make of the tokens that are printed for them, with
anything behind them that does not go on with them.
-/

namespace FluentStyle

namespace Parser

variable {α β : Type}

theorem run_bind_ok {p : Parser α} {tokens rest : List Token} {a : α}
    (h : p.run tokens = .ok (a, rest)) (f : α → Parser β) :
    (p >>= f).run tokens = (f a).run rest := by
  rw [run_bind, h]

theorem run_peek (tokens : List Token) : peek.run tokens = .ok (tokens.head?, tokens) := rfl

theorem run_peekSecond (tokens : List Token) :
    peekSecond.run tokens = .ok (tokens.tail.head?, tokens) := rfl

theorem run_skip (token : Token) (rest : List Token) : skip.run (token :: rest) = .ok ((), rest) :=
  rfl

theorem run_eat (token : Token) (rest : List Token) :
    (eat token).run (token :: rest) = .ok (true, rest) := by
  show (if token = token then _ else _) = _
  rw [if_pos rfl]

theorem run_eat_of_ne {token : Token} {tokens : List Token} (h : tokens.head? ≠ some token) :
    (eat token).run tokens = .ok (false, tokens) := by
  cases tokens with
  | nil => rfl
  | cons next rest =>
      show (if next = token then _ else _) = _
      rw [if_neg]
      rintro rfl
      exact h rfl

theorem run_expect (token : Token) (expected : Expectation) (rest : List Token) :
    (expect token expected).run (token :: rest) = .ok ((), rest) :=
  run_bind_ok (run_eat token rest) _

theorem run_name (text : String) (expected : Expectation) (rest : List Token) :
    (name expected).run (.name text :: rest) = .ok (text, rest) := rfl

theorem run_variableName (text : String) (expected : Expectation) (rest : List Token) :
    (variableName expected).run (.variable text :: rest) = .ok (text, rest) := rfl

/-!
# Lists
-/

/-- From the tokens the reader of items makes the item, inside a list that the token closes. -/
structure ReadsItem (close : Token) (item : Parser α) (tokens : List Token) (a : α) : Prop where
  head_ne : ∀ rest : List Token, (tokens ++ rest).head? ≠ some close
  run_eq : ∀ rest : List Token, rest.head? = some (.mark .comma) ∨ rest.head? = some close →
    item.run (tokens ++ rest) = .ok (a, rest)

end Parser

def Token.separated : List (List Token) → List Token
  | [] => []
  | [tokens] => tokens
  | tokens :: rest => tokens ++ .mark .comma :: Token.separated rest

theorem Piece.tokens_separated (lists : List (List Piece)) :
    Piece.tokens (Piece.separated lists) = Token.separated (lists.map Piece.tokens) := by
  fun_induction Piece.separated lists with
  | case1 => rfl
  | case2 pieces => rfl
  | case3 pieces others hothers ih =>
      rw [Piece.tokens_append, Piece.tokens_cons_mark, Piece.tokens_cons_space, ih]
      cases others with
      | nil => exact absurd rfl hothers
      | cons other others => rfl

namespace Parser

variable {α : Type} {close : Token} {item : Parser α}

theorem runList_nil (item : Parser α) (close : Token) (rest : List Token) :
    runList close item (close :: rest) = .ok ([], close :: rest) := by
  rw [runList, if_pos]
  rfl

theorem runList_cons_comma {tokens after rest : List Token} {a : α} {items : List α}
    (hhead : tokens.head? ≠ some close) (hitem : item.run tokens = .ok (a, .mark .comma :: after))
    (hrest : runList close item after = .ok (items, rest)) :
    runList close item tokens = .ok (a :: items, rest) := by
  rw [runList, if_neg hhead]
  split
  · rename_i stuck herror
    rw [hitem] at herror
    cases herror
  · rename_i a' rest' hok
    rw [hitem] at hok
    cases hok
    rw [hrest]
  · rename_i a' rest' hcomma hok
    rw [hitem] at hok
    cases hok
    exact absurd rfl (hcomma after)

theorem runList_last {tokens rest : List Token} {a : α} (hhead : tokens.head? ≠ some close)
    (hitem : item.run tokens = .ok (a, rest)) (hrest : rest.head? ≠ some (.mark .comma)) :
    runList close item tokens = .ok ([a], rest) := by
  rw [runList, if_neg hhead]
  split
  · rename_i stuck herror
    rw [hitem] at herror
    cases herror
  · rename_i a' rest' hok
    rw [hitem] at hok
    cases hok
    exact absurd rfl hrest
  · rename_i a' rest' hcomma hok
    rw [hitem] at hok
    cases hok
    rfl

variable {f : α → List Token} {items : List α}

/-- Items with commas between them are read as a list. -/
theorem run_list_separated (h : ∀ a ∈ items, ReadsItem close item (f a) a)
    (hclose : close ≠ .mark .comma) (rest : List Token) :
    (list close item).run (Token.separated (items.map f) ++ close :: rest) =
      .ok (items, close :: rest) := by
  show runList close item _ = _
  induction items with
  | nil => exact runList_nil item close rest
  | cons a items ih =>
      rcases List.forall_mem_cons.mp h with ⟨hfirst, hitems⟩
      cases items with
      | nil =>
          have hne : (close :: rest).head? ≠ some (.mark .comma) :=
            fun heq => hclose (Option.some.inj heq)
          exact runList_last (hfirst.head_ne _) (hfirst.run_eq _ (Or.inr rfl)) hne
      | cons b items =>
          have hrest := ih hitems
          rw [List.map_cons, List.map_cons, Token.separated, List.append_assoc]
          · exact runList_cons_comma (hfirst.head_ne _) (hfirst.run_eq _ (Or.inl rfl)) hrest
          · exact List.cons_ne_nil _ _

theorem run_list_terminated (h : ∀ a ∈ items, ReadsItem close item (f a) a) (rest : List Token) :
    (list close item).run (items.flatMap (fun a => f a ++ [.mark .comma]) ++ close :: rest) =
      .ok (items, close :: rest) := by
  show runList close item _ = _
  induction items with
  | nil => exact runList_nil item close rest
  | cons a items ih =>
      rcases List.forall_mem_cons.mp h with ⟨hfirst, hitems⟩
      rw [List.flatMap_cons, List.append_assoc, List.append_assoc]
      exact runList_cons_comma (hfirst.head_ne _) (hfirst.run_eq _ (Or.inl rfl)) (ih hitems)

end Parser

/-!
# Parameters and captured variables

A parameter is read when the mark and the type in front of its name are.  The captures of a closure
are read back, also if there are none and no `use` is printed.
-/

theorem Param.run_parser_of_hint {tokens marked rest : List Token} {nullable : Bool}
    {hint : Option TypeHint} {name : String}
    (hmark : (Parser.eat (.mark .question)).run tokens = .ok (nullable, marked))
    (hhint : (hintParser nullable).run marked = .ok (hint, .variable name :: rest))
    (hassign : rest.head? ≠ some (.mark .assign)) :
    parser.run tokens = .ok (⟨hint, name⟩, rest) := by
  unfold parser
  rw [Parser.run_bind_ok hmark, Parser.run_bind_ok hhint,
    Parser.run_bind_ok (Parser.run_variableName name _ rest),
    Parser.run_bind_ok (Parser.run_peek rest)]
  split
  · rename_i heq
    exact absurd heq hassign
  · rfl

theorem Param.readsItem (param : Param) :
    Parser.ReadsItem (.closing .round) Param.parser (Piece.tokens param.pieces) param where
  head_ne rest := by
    rcases param with ⟨hint, name⟩
    cases hint with
    | none => simp [pieces]
    | some hint =>
        rcases hint with ⟨nullable, type⟩
        cases nullable <;> simp [pieces]
  run_eq rest hrest := by
    have hassign : rest.head? ≠ some (.mark .assign) := by
      rintro heq
      rcases hrest with h | h <;> rw [heq] at h <;> cases h
    rcases param with ⟨hint, name⟩
    cases hint with
    | none =>
        show parser.run (.variable name :: rest) = _
        exact run_parser_of_hint (Parser.run_eat_of_ne (by simp)) rfl hassign
    | some hint =>
        rcases hint with ⟨nullable, type⟩
        cases nullable with
        | false =>
            show parser.run (.name type :: .variable name :: rest) = _
            exact run_parser_of_hint (Parser.run_eat_of_ne (by simp)) rfl hassign
        | true =>
            show parser.run (.mark .question :: .name type :: .variable name :: rest) = _
            exact run_parser_of_hint (Parser.run_eat _ _) rfl hassign

theorem Param.run_listParser (params : List Param) (rest : List Token) :
    Param.listParser.run (Piece.tokens (Param.piecesAll params) ++ rest) = .ok (params, rest) := by
  have hlist : (Parser.list (.closing .round) Param.parser).run
      (Token.separated (params.map fun param => Piece.tokens param.pieces) ++
        .closing .round :: rest) = .ok (params, .closing .round :: rest) :=
    Parser.run_list_separated (fun param _ => param.readsItem) (by simp) rest
  unfold Param.piecesAll Param.listParser
  simp only [List.cons_append, List.nil_append, Piece.tokens_cons_token, Piece.tokens_append,
    Piece.tokens_separated, List.map_map, Piece.tokens_nil, List.append_assoc]
  rw [Parser.run_bind_ok (Parser.run_expect _ _ _)]
  exact Parser.run_bind_ok hlist _

theorem Capture.readsItem (capture : Capture) :
    Parser.ReadsItem (.closing .round) Capture.parser (Piece.tokens capture.pieces) capture where
  head_ne rest := by
    rcases capture with ⟨byReference, name⟩
    cases byReference <;> simp [pieces]
  run_eq rest _ := by
    rcases capture with ⟨byReference, name⟩
    cases byReference <;> rfl

theorem Capture.run_listParser (captures : List Capture) {rest : List Token}
    (hrest : rest.head? ≠ some (.name "use")) :
    Capture.listParser.run (Piece.tokens (Capture.piecesAll captures) ++ rest) =
      .ok (captures, rest) := by
  have hlist : (Parser.list (.closing .round) Capture.parser).run
      (Token.separated (captures.map fun capture => Piece.tokens capture.pieces) ++
        .closing .round :: rest) = .ok (captures, .closing .round :: rest) :=
    Parser.run_list_separated (fun capture _ => capture.readsItem) (by simp) rest
  cases captures with
  | nil =>
      unfold Capture.listParser Capture.piecesAll
      rw [Piece.tokens_nil, List.nil_append, Parser.run_bind_ok (Parser.run_eat_of_ne hrest)]
      rfl
  | cons capture captures =>
      unfold Capture.listParser Capture.piecesAll
      simp only [List.cons_append, List.nil_append, Piece.tokens_cons_token,
        Piece.tokens_cons_space, Piece.tokens_append, Piece.tokens_separated, List.map_map,
        Piece.tokens_nil, List.append_assoc]
      rw [Parser.run_bind_ok (Parser.run_eat _ _)]
      simp only [if_true]
      rw [Parser.run_bind_ok (Parser.run_expect _ _ _)]
      exact Parser.run_bind_ok hlist _

end FluentStyle
