import FluentStyle.Proofs.Grammar.ReadsBack

/-!
# Readable trees are read back

From the tokens that are printed for a readable tree the readers make that tree, given room enough.
-/

namespace FluentStyle

/-!
# Arguments and array elements
-/

theorem Token.separated_cons (tokens : List Token) (lists : List (List Token)) :
    Token.separated (tokens :: lists) = tokens ++ lists.flatMap (Token.mark .comma :: ·) := by
  induction lists generalizing tokens with
  | nil => rw [Token.separated, List.flatMap_nil, List.append_nil]
  | cons next lists ih =>
      rw [Token.separated, ih next, List.flatMap_cons, List.cons_append]
      exact List.cons_ne_nil _ _

namespace Expr

theorem tokens_inline_false (exprs : List Expr) (level : Nat) :
    Piece.tokens (Expr.inline level false exprs) =
      (exprs.map (tokens · level)).flatMap (Token.mark .comma :: ·) := by
  induction exprs with
  | nil => rw [Expr.inline, List.map_nil, List.flatMap_nil, Piece.tokens_nil]
  | cons expr exprs ih =>
      rw [Expr.inline, Piece.tokens_append, Piece.tokens_append, ih, List.map_cons,
        List.flatMap_cons]
      rfl

theorem tokens_inline (exprs : List Expr) (level : Nat) :
    Piece.tokens (Expr.inline level true exprs) = Token.separated (exprs.map (tokens · level)) := by
  cases exprs with
  | nil => rw [Expr.inline, List.map_nil, Piece.tokens_nil, Token.separated]
  | cons expr exprs =>
      rw [Expr.inline, Piece.tokens_append, Piece.tokens_append, tokens_inline_false,
        List.map_cons, Token.separated_cons]
      rfl

theorem head_tokens (expr : Expr) (level : Nat) (rest : List Token) :
    (expr.tokens level ++ rest).head? = some expr.firstToken := by
  rcases expr.startsWith_firstToken level with ⟨more, hpieces, -⟩
  rw [tokens, hpieces]
  rfl

theorem tokens_eq_cons (expr : Expr) (level : Nat) {after : List Token}
    (hafter : after.head? ≠ some (.mark .assign)) :
    ∃ more : List Token, expr.tokens level ++ after = expr.firstToken :: more ∧
      ∀ name : String, expr.firstToken = .variable name → more.head? ≠ some (.mark .assign) := by
  rcases expr.startsWith_firstToken level with ⟨more, hpieces, hassign⟩
  refine ⟨Piece.tokens more ++ after, ?_, ?_⟩
  · rw [tokens, hpieces]
    rfl
  · intro name hname
    exact head?_append_ne (hassign name hname) hafter

theorem ReadsBack.head_ne {expr : Expr} (h : expr.ReadsBack) {token : Token}
    (htoken : token.starts = false) (level : Nat) (rest : List Token) :
    (expr.tokens level ++ rest).head? ≠ some token := by
  rw [head_tokens]
  intro heq
  have hstarts := h.starts
  rw [Option.some.inj heq, htoken] at hstarts
  cases hstarts

theorem gripOf_eq_zero {close : Bracket} {rest : List Token}
    (h : rest.head? = some (.mark .comma) ∨ rest.head? = some (.closing close)) :
    Token.gripOf rest = 0 := by
  cases rest with
  | nil => rfl
  | cons token rest => rcases h with h | h <;> cases h <;> rfl

theorem ReadsBack.readsItem {expr : Expr} (h : expr.ReadsBack) {level room : Nat}
    (hroom : expr.nesting < room) (close : Bracket) :
    Parser.ReadsItem (.closing close) (Level.withRoom room).expr (expr.tokens level) expr where
  head_ne rest := h.head_ne rfl level rest
  run_eq _ hrest := h.whole hroom (gripOf_eq_zero hrest)

end Expr

theorem Call.run_argsParser {args : List Expr} (h : ∀ arg ∈ args, arg.ReadsBack) {room : Nat}
    (hroom : Expr.nestingAll args ≤ room) (level : Nat) (rest : List Token) :
    (Call.argsParser (Level.withRoom room).expr).run
      (Piece.tokens (Expr.inline level true args) ++ .closing .round :: rest) =
        .ok (args, rest) := by
  have hitems : ∀ arg ∈ args, Parser.ReadsItem (.closing .round) (Level.withRoom room).expr
      (arg.tokens level) arg :=
    fun arg harg => (h arg harg).readsItem (Expr.nestingAll_le_iff.mp hroom arg harg) .round
  have hlist := Parser.run_list_separated hitems (by simp) rest
  unfold Call.argsParser
  rw [Expr.tokens_inline, Parser.run_bind_ok hlist, Parser.run_bind_ok (Parser.run_expect _ _ _)]
  rfl

namespace ArrayItem

def tokens (item : ArrayItem) (level : Nat) : List Token :=
  match item with
  | .value e => e.tokens level
  | .pair key e => key.tokens level ++ .mark .fatArrow :: e.tokens level

theorem tokens_inline_false (items : List ArrayItem) (level : Nat) :
    Piece.tokens (ArrayItem.inline level false items) =
      (items.map (tokens · level)).flatMap (Token.mark .comma :: ·) := by
  induction items with
  | nil => rw [ArrayItem.inline, List.map_nil, List.flatMap_nil, Piece.tokens_nil]
  | cons item items ih =>
      cases item <;>
        simp [ArrayItem.inline, tokens, Expr.tokens, ih, Piece.separator]

theorem tokens_inline (items : List ArrayItem) (level : Nat) :
    Piece.tokens (ArrayItem.inline level true items) =
      Token.separated (items.map (tokens · level)) := by
  cases items with
  | nil => rw [ArrayItem.inline, List.map_nil, Piece.tokens_nil, Token.separated]
  | cons item items =>
      rw [List.map_cons, Token.separated_cons, ← tokens_inline_false]
      cases item <;> simp [ArrayItem.inline, tokens, Expr.tokens, Piece.separator]

theorem tokens_lines (items : List ArrayItem) (level : Nat) :
    Piece.tokens (ArrayItem.lines level items) =
      items.flatMap fun item => item.tokens level ++ [.mark .comma] := by
  induction items with
  | nil => rw [ArrayItem.lines, List.flatMap_nil, Piece.tokens_nil]
  | cons item items ih =>
      cases item <;> simp [ArrayItem.lines, tokens, Expr.tokens, ih]

theorem readsItem {item : ArrayItem} (h : ∀ child ∈ item.children, child.ReadsBack) {room : Nat}
    (hroom : ∀ child ∈ item.children, child.nesting < room) (level : Nat) :
    Parser.ReadsItem (.closing .square) (parser (Level.withRoom room).expr) (item.tokens level)
      item where
  head_ne rest := by
    cases item with
    | value e => exact (h e List.mem_cons_self).head_ne rfl level rest
    | pair key e =>
        rw [tokens, List.append_assoc]
        exact (h key List.mem_cons_self).head_ne rfl level _
  run_eq rest hrest := by
    have hgrip := Expr.gripOf_eq_zero hrest
    unfold parser
    cases item with
    | value e =>
        have hvalue : (Level.withRoom room).expr.run (e.tokens level ++ rest) = .ok (e, rest) :=
          (h e List.mem_cons_self).whole (hroom e List.mem_cons_self) hgrip
        have hne : rest.head? ≠ some (.mark .fatArrow) := by
          rcases hrest with heq | heq <;> rw [heq] <;> simp
        rw [tokens, Parser.run_bind_ok hvalue, Parser.run_bind_ok (Parser.run_eat_of_ne hne)]
        rfl
    | pair key e =>
        rcases List.forall_mem_cons.mp h with ⟨hkey, hothers⟩
        rcases List.forall_mem_cons.mp hroom with ⟨hkeyRoom, hotherRoom⟩
        have hvalue : (Level.withRoom room).expr.run (e.tokens level ++ rest) = .ok (e, rest) :=
          (hothers e List.mem_cons_self).whole (hotherRoom e List.mem_cons_self) hgrip
        rw [tokens, List.append_assoc, List.cons_append,
          Parser.run_bind_ok (hkey.whole hkeyRoom rfl), Parser.run_bind_ok (Parser.run_eat _ _)]
        exact Parser.run_bind_ok hvalue _

theorem run_listParser {items : List ArrayItem}
    (h : ∀ child ∈ items.flatMap ArrayItem.children, child.ReadsBack) {room : Nat}
    (hroom : ArrayItem.nesting items ≤ room) (level : Nat) (rest : List Token) :
    ∃ tokens : List Token,
      (Expr.array items).tokens level = .opening .square :: tokens ∧
        (listParser (Level.withRoom room).expr).run (tokens ++ rest) = .ok (items, rest) := by
  have hitems : ∀ inside : Nat, ∀ item ∈ items,
      Parser.ReadsItem (.closing .square) (parser (Level.withRoom room).expr)
        (item.tokens inside) item := by
    intro inside item hitem
    exact readsItem (fun child hchild => h child (List.mem_flatMap.mpr ⟨item, hitem, hchild⟩))
      (ArrayItem.nesting_le_iff.mp hroom item hitem) inside
  have hlist : ∀ tokens : List Token,
      (Parser.list (.closing .square) (parser (Level.withRoom room).expr)).run
        (tokens ++ .closing .square :: rest) = .ok (items, .closing .square :: rest) →
      (listParser (Level.withRoom room).expr).run ((tokens ++ [.closing .square]) ++ rest) =
        .ok (items, rest) := by
    intro tokens htokens
    unfold listParser
    rw [List.append_assoc, List.singleton_append, Parser.run_bind_ok htokens,
      Parser.run_bind_ok (Parser.run_expect _ _ _)]
    rfl
  unfold Expr.tokens
  rw [Expr.pieces]
  split
  · refine ⟨Piece.tokens (ArrayItem.lines (level + 1) items) ++ [.closing .square], by simp, ?_⟩
    apply hlist
    rw [tokens_lines]
    exact Parser.run_list_terminated (hitems (level + 1)) rest
  · refine ⟨Piece.tokens (ArrayItem.inline level true items) ++ [.closing .square], by simp, ?_⟩
    apply hlist
    rw [tokens_inline]
    exact Parser.run_list_separated (hitems level) (by simp) rest

end ArrayItem

/-!
# Statements

No statement starts with `else`, so the statements of a block are read back.
-/

namespace Stmt

theorem runAll_nil (expr : Parser Expr) (block : Parser (List Stmt)) (rest : List Token) :
    runAll expr block (.closing .curly :: rest) = .ok ([], .closing .curly :: rest) := by
  rw [runAll, if_pos]
  rfl

theorem runAll_cons {expr : Parser Expr} {block : Parser (List Stmt)} {stmt : Stmt}
    {stmts : List Stmt} {tokens after rest : List Token}
    (hhead : tokens.head? ≠ some (.closing .curly))
    (hstmt : (parser expr block).run tokens = .ok (stmt, after))
    (hstmts : runAll expr block after = .ok (stmts, rest)) :
    runAll expr block tokens = .ok (stmt :: stmts, rest) := by
  rw [runAll, if_neg hhead]
  split
  · rename_i stuck herror
    rw [hstmt] at herror
    cases herror
  · rename_i stmt' after' hok
    rw [hstmt] at hok
    cases hok
    rw [hstmts]

section Parser

variable {expr : Parser Expr} {block : Parser (List Stmt)} {e : Expr} {tokens rest : List Token}

theorem run_parser_leave (rest : List Token) :
    (parser expr block).run (.name "return" :: .mark .semicolon :: rest) = .ok (.leave, rest) := rfl

theorem run_parser_give (hhead : tokens.head? ≠ some (.mark .semicolon))
    (h : expr.run tokens = .ok (e, .mark .semicolon :: rest)) :
    (parser expr block).run (.name "return" :: tokens) = .ok (.give e, rest) := by
  unfold parser
  rw [Parser.run_bind_ok (Parser.run_peek _), Parser.run_bind_ok (Parser.run_peekSecond _)]
  show (Parser.skip >>= _).run (.name "return" :: tokens) = _
  rw [Parser.run_bind_ok (Parser.run_skip _ _), Parser.run_bind_ok (Parser.run_eat_of_ne hhead)]
  show (expr >>= _).run tokens = _
  rw [Parser.run_bind_ok h, Parser.run_bind_ok (Parser.run_expect _ _ _)]
  rfl

theorem run_parser_expr {first : Token} {more : List Token} (starts : first.starts = true)
    (hassign : ∀ name : String, first = .variable name → more.head? ≠ some (.mark .assign))
    (h : expr.run (first :: more) = .ok (e, .mark .semicolon :: rest)) :
    (parser expr block).run (first :: more) = .ok (.expr e, rest) := by
  unfold parser
  rw [Parser.run_bind_ok (Parser.run_peek _), Parser.run_bind_ok (Parser.run_peekSecond _),
    List.head?_cons, List.tail_cons]
  split
  · rename_i heq
    cases heq
    cases starts
  · rename_i heq
    cases heq
    cases starts
  · rename_i target heq hsecond
    exact absurd hsecond (hassign target (Option.some.inj heq))
  · rw [Parser.run_bind_ok h, Parser.run_bind_ok (Parser.run_expect _ _ _)]
    rfl

theorem run_parser_assign (target : String)
    (h : expr.run tokens = .ok (e, .mark .semicolon :: rest)) :
    (parser expr block).run (.variable target :: .mark .assign :: tokens) =
      .ok (.assign target e, rest) := by
  unfold parser
  rw [Parser.run_bind_ok (Parser.run_peek _), Parser.run_bind_ok (Parser.run_peekSecond _)]
  show (Parser.skip >>= _).run (.variable target :: .mark .assign :: tokens) = _
  rw [Parser.run_bind_ok (Parser.run_skip _ _), Parser.run_bind_ok (Parser.run_skip _ _),
    Parser.run_bind_ok h, Parser.run_bind_ok (Parser.run_expect _ _ _)]
  rfl

variable {yes no : List Stmt} {after : List Token}

theorem run_parser_when (h : expr.run tokens = .ok (e, .closing .round :: after))
    (hyes : block.run after = .ok (yes, rest)) (hrest : rest.head? ≠ some (.name "else")) :
    (parser expr block).run (.name "if" :: .opening .round :: tokens) =
      .ok (.when e yes, rest) := by
  unfold parser
  rw [Parser.run_bind_ok (Parser.run_peek _), Parser.run_bind_ok (Parser.run_peekSecond _)]
  show (Parser.skip >>= _).run (.name "if" :: .opening .round :: tokens) = _
  rw [Parser.run_bind_ok (Parser.run_skip _ _), Parser.run_bind_ok (Parser.run_expect _ _ _),
    Parser.run_bind_ok h, Parser.run_bind_ok (Parser.run_expect _ _ _), Parser.run_bind_ok hyes,
    Parser.run_bind_ok (Parser.run_eat_of_ne hrest)]
  rfl

theorem run_parser_choose {last : List Token}
    (h : expr.run tokens = .ok (e, .closing .round :: after))
    (hyes : block.run after = .ok (yes, .name "else" :: rest))
    (hno : block.run rest = .ok (no, last)) :
    (parser expr block).run (.name "if" :: .opening .round :: tokens) =
      .ok (.choose e yes no, last) := by
  unfold parser
  rw [Parser.run_bind_ok (Parser.run_peek _), Parser.run_bind_ok (Parser.run_peekSecond _)]
  show (Parser.skip >>= _).run (.name "if" :: .opening .round :: tokens) = _
  rw [Parser.run_bind_ok (Parser.run_skip _ _), Parser.run_bind_ok (Parser.run_expect _ _ _),
    Parser.run_bind_ok h, Parser.run_bind_ok (Parser.run_expect _ _ _), Parser.run_bind_ok hyes,
    Parser.run_bind_ok (Parser.run_eat _ _)]
  exact Parser.run_bind_ok hno _

end Parser

theorem head_lines_ne_else {stmts : List Stmt} (h : ∀ child ∈ children stmts, child.ReadsBack)
    (level : Nat) (rest : List Token) :
    (Piece.tokens (lines level stmts) ++ .closing .curly :: rest).head? ≠ some (.name "else") := by
  cases stmts with
  | nil => simp [lines]
  | cons stmt stmts =>
      cases stmt with
      | expr e =>
          rw [children] at h
          simp only [lines, List.cons_append, Piece.tokens_cons_line, Piece.tokens_append,
            List.append_assoc]
          exact (h e List.mem_cons_self).head_ne rfl level _
      | _ => simp [lines]

theorem run_lines : (stmts : List Stmt) → (∀ child ∈ children stmts, child.ReadsBack) →
    (level : Nat) → {room : Nat} → nesting stmts ≤ room → (rest : List Token) →
    runAll (Level.withRoom room).expr (Level.withRoom room).block
      (Piece.tokens (lines level stmts) ++ .closing .curly :: rest) =
        .ok (stmts, .closing .curly :: rest)
  | [], _, level, room, _, rest => by
      rw [lines]
      exact runAll_nil _ _ rest
  | .leave :: stmts, h, level, room, hroom, rest => by
      rw [children] at h
      rw [nesting] at hroom
      simp only [lines, List.cons_append, List.nil_append, Piece.tokens_cons_line,
        Piece.tokens_cons_token, Piece.tokens_cons_mark]
      exact runAll_cons (by simp) (run_parser_leave _) (run_lines stmts h level hroom rest)
  | .give e :: stmts, h, level, room, hroom, rest => by
      rw [children] at h
      rcases List.forall_mem_cons.mp h with ⟨he, hstmts⟩
      rw [nesting, Nat.max_le] at hroom
      simp only [lines, List.cons_append, List.nil_append, Piece.tokens_cons_line,
        Piece.tokens_cons_token, Piece.tokens_cons_mark, Piece.tokens_cons_space,
        Piece.tokens_append, List.append_assoc]
      exact runAll_cons (by simp) (run_parser_give (he.head_ne rfl level _) (he.whole hroom.1 rfl))
        (run_lines stmts hstmts level hroom.2 rest)
  | .expr e :: stmts, h, level, room, hroom, rest => by
      rw [children] at h
      rcases List.forall_mem_cons.mp h with ⟨he, hstmts⟩
      rw [nesting, Nat.max_le] at hroom
      simp only [lines, List.cons_append, Piece.tokens_cons_line, Piece.tokens_cons_mark,
        Piece.tokens_append, List.append_assoc]
      refine runAll_cons (he.head_ne rfl level _) ?_ (run_lines stmts hstmts level hroom.2 rest)
      have hafter : (Token.mark .semicolon ::
          (Piece.tokens (lines level stmts) ++ .closing .curly :: rest)).head? ≠
            some (.mark .assign) := by simp
      rcases e.tokens_eq_cons level hafter with ⟨more, htokens, hassign⟩
      show (parser _ _).run (e.tokens level ++ _) = _
      rw [htokens]
      refine run_parser_expr he.starts hassign ?_
      rw [← htokens]
      exact he.whole hroom.1 rfl
  | .assign target e :: stmts, h, level, room, hroom, rest => by
      rw [children] at h
      rcases List.forall_mem_cons.mp h with ⟨he, hstmts⟩
      rw [nesting, Nat.max_le] at hroom
      simp only [lines, List.cons_append, List.nil_append, Piece.tokens_cons_line,
        Piece.tokens_cons_token, Piece.tokens_cons_mark, Piece.tokens_cons_space,
        Piece.tokens_append, List.append_assoc]
      exact runAll_cons (by simp) (run_parser_assign target (he.whole hroom.1 rfl))
        (run_lines stmts hstmts level hroom.2 rest)
  | .when condition yes :: stmts, h, level, room, hroom, rest => by
      rw [children] at h
      rcases List.forall_mem_cons.mp h with ⟨hcondition, hothers⟩
      rcases List.forall_mem_append.mp hothers with ⟨hyes, hstmts⟩
      rw [nesting, Nat.max_le, Nat.max_le] at hroom
      rcases hroom with ⟨⟨hconditionRoom, hyesRoom⟩, hstmtsRoom⟩
      obtain ⟨room, rfl⟩ : ∃ inner : Nat, room = inner + 1 := ⟨room - 1, by omega⟩
      simp only [lines, List.cons_append, List.nil_append, Piece.tokens_cons_line,
        Piece.tokens_cons_token, Piece.tokens_cons_space, Piece.tokens_append, List.append_assoc]
      refine runAll_cons (by simp) ?_ (run_lines stmts hstmts level hstmtsRoom rest)
      exact run_parser_when (hcondition.whole hconditionRoom rfl)
        (Level.run_block (run_lines yes hyes (level + 1) (Nat.le_of_succ_le_succ hyesRoom) _))
        (head_lines_ne_else hstmts level rest)
  | .choose condition yes no :: stmts, h, level, room, hroom, rest => by
      rw [children] at h
      rcases List.forall_mem_cons.mp h with ⟨hcondition, hothers⟩
      rcases List.forall_mem_append.mp hothers with ⟨hyes, hothers⟩
      rcases List.forall_mem_append.mp hothers with ⟨hno, hstmts⟩
      rw [nesting, Nat.max_le, Nat.max_le, Nat.max_le] at hroom
      rcases hroom with ⟨⟨hconditionRoom, hyesRoom, hnoRoom⟩, hstmtsRoom⟩
      obtain ⟨room, rfl⟩ : ∃ inner : Nat, room = inner + 1 := ⟨room - 1, by omega⟩
      simp only [lines, List.cons_append, List.nil_append, Piece.tokens_cons_line,
        Piece.tokens_cons_token, Piece.tokens_cons_space, Piece.tokens_append, List.append_assoc]
      refine runAll_cons (by simp) ?_ (run_lines stmts hstmts level hstmtsRoom rest)
      exact run_parser_choose (hcondition.whole hconditionRoom rfl)
        (Level.run_block (run_lines yes hyes (level + 1) (Nat.le_of_succ_le_succ hyesRoom) _))
        (Level.run_block (run_lines no hno (level + 1) (Nat.le_of_succ_le_succ hnoRoom) _))

end Stmt

/-!
# Primary expressions
-/

namespace Expr

section Primary

variable {expr : Parser Expr} {block : Parser (List Stmt)} {rest : List Token}

theorem run_primary_array {items : List ArrayItem} {tokens : List Token}
    (h : (ArrayItem.listParser expr).run tokens = .ok (items, rest)) :
    (primaryParser expr block).run (.opening .square :: tokens) = .ok (.array items, rest) := by
  unfold primaryParser
  rw [Parser.run_bind_ok (Parser.run_peek _)]
  show (Parser.skip >>= _).run (.opening .square :: tokens) = _
  rw [Parser.run_bind_ok (Parser.run_skip _ _)]
  exact Parser.run_bind_ok h _

theorem run_primary_group {inner : Expr} {tokens : List Token}
    (h : expr.run tokens = .ok (inner, .closing .round :: rest)) :
    (primaryParser expr block).run (.opening .round :: tokens) = .ok (.group inner, rest) := by
  unfold primaryParser
  rw [Parser.run_bind_ok (Parser.run_peek _)]
  show (Parser.skip >>= _).run (.opening .round :: tokens) = _
  rw [Parser.run_bind_ok (Parser.run_skip _ _), Parser.run_bind_ok h,
    Parser.run_bind_ok (Parser.run_expect _ _ _)]
  rfl

theorem run_primary_arrow {params : List Param} {body : Expr} {tokens : List Token}
    (h : expr.run tokens = .ok (body, rest)) :
    (primaryParser expr block).run
      (.name "fn" :: (Piece.tokens (Param.piecesAll params) ++ .mark .fatArrow :: tokens)) =
        .ok (.closure (.arrow params body), rest) := by
  have hclosure : (Closure.arrowParser expr).run
      (Piece.tokens (Param.piecesAll params) ++ .mark .fatArrow :: tokens) =
        .ok (.arrow params body, rest) := by
    unfold Closure.arrowParser
    rw [Parser.run_bind_ok (Param.run_listParser params _),
      Parser.run_bind_ok (Parser.run_expect _ _ _)]
    exact Parser.run_bind_ok h _
  unfold primaryParser
  rw [Parser.run_bind_ok (Parser.run_peek _)]
  show (Parser.skip >>= _).run (.name "fn" :: _) = _
  rw [Parser.run_bind_ok (Parser.run_skip _ _)]
  exact Parser.run_bind_ok hclosure _

theorem run_primary_block {params : List Param} {captures : List Capture} {body : List Stmt}
    {tokens : List Token} (h : block.run (.opening .curly :: tokens) = .ok (body, rest)) :
    (primaryParser expr block).run
      (.name "function" :: (Piece.tokens (Param.piecesAll params) ++
        (Piece.tokens (Capture.piecesAll captures) ++ .opening .curly :: tokens))) =
        .ok (.closure (.block params captures body), rest) := by
  have hclosure : (Closure.blockParser block).run
      (Piece.tokens (Param.piecesAll params) ++
        (Piece.tokens (Capture.piecesAll captures) ++ .opening .curly :: tokens)) =
        .ok (.block params captures body, rest) := by
    unfold Closure.blockParser
    rw [Parser.run_bind_ok (Param.run_listParser params _),
      Parser.run_bind_ok (Capture.run_listParser captures (by simp))]
    exact Parser.run_bind_ok h _
  unfold primaryParser
  rw [Parser.run_bind_ok (Parser.run_peek _)]
  show (Parser.skip >>= _).run (.name "function" :: _) = _
  rw [Parser.run_bind_ok (Parser.run_skip _ _)]
  exact Parser.run_bind_ok hclosure _

theorem run_primary_name {name : String} (h : name ∉ keywords) (rest : List Token) :
    (primaryParser expr block).run (.name name :: rest) = (namedParser expr name).run rest := by
  simp only [keywords, List.mem_cons, not_or] at h
  rcases h with ⟨hfn, hfunction, hnew, hreserved⟩
  unfold primaryParser
  rw [Parser.run_bind_ok (Parser.run_peek _)]
  simp only [List.head?_cons, if_neg hfn, if_neg hfunction, if_neg hnew, if_neg hreserved]
  exact Parser.run_bind_ok (Parser.run_skip _ _) _

theorem head?_ne_of_gripOf {tokens : List Token} {token : Token}
    (h : Token.gripOf tokens < token.grip) : tokens.head? ≠ some token := by
  cases tokens with
  | nil => rintro ⟨⟩
  | cons next tokens =>
      rintro heq
      cases heq
      exact absurd h (Nat.lt_irrefl _)

theorem run_named_constant {name : String} (h : Token.gripOf rest < 15) :
    (namedParser expr name).run rest = .ok (.constant name, rest) := by
  unfold namedParser
  rw [Parser.run_bind_ok (Parser.run_eat_of_ne (head?_ne_of_gripOf h))]
  simp only [Bool.false_eq_true, if_false]
  rw [Parser.run_bind_ok (Parser.run_eat_of_ne (head?_ne_of_gripOf h))]
  rfl

theorem run_named_classConstant {className name : String} (h : Token.gripOf rest < 15) :
    (namedParser expr className).run (.mark .doubleColon :: .name name :: rest) =
      .ok (.classConstant className name, rest) := by
  unfold namedParser
  rw [Parser.run_bind_ok (Parser.run_eat _ _)]
  simp only [if_true]
  rw [Parser.run_bind_ok (Parser.run_name _ _ _),
    Parser.run_bind_ok (Parser.run_eat_of_ne (head?_ne_of_gripOf h))]
  rfl

theorem run_named_call {name : String} {args : List Expr} {tokens : List Token}
    (h : (Call.argsParser expr).run tokens = .ok (args, rest)) :
    (namedParser expr name).run (.opening .round :: tokens) =
      .ok (.chain ⟨.function, ⟨name, args⟩, []⟩, rest) := by
  unfold namedParser
  rw [Parser.run_bind_ok (Parser.run_eat_of_ne (by simp))]
  simp only [Bool.false_eq_true, if_false]
  rw [Parser.run_bind_ok (Parser.run_eat _ _)]
  exact Parser.run_bind_ok h _

theorem run_named_static {className name : String} {args : List Expr} {tokens : List Token}
    (h : (Call.argsParser expr).run tokens = .ok (args, rest)) :
    (namedParser expr className).run
      (.mark .doubleColon :: .name name :: .opening .round :: tokens) =
        .ok (.chain ⟨.static className, ⟨name, args⟩, []⟩, rest) := by
  unfold namedParser
  rw [Parser.run_bind_ok (Parser.run_eat _ _)]
  simp only [if_true]
  rw [Parser.run_bind_ok (Parser.run_name _ _ _), Parser.run_bind_ok (Parser.run_eat _ _)]
  exact Parser.run_bind_ok h _

end Primary

/-!
# Trees

The reader goes on along the calls of a chain.  The condition of a choice is read back up to the
question mark; the choice is weaker than all operators, so it is only read as a whole expression.
-/

variable {level room : Nat} {rest : List Token}

theorem run_unary_of_primary {expr primary : Expr} {after : List Token} (readable : expr.Readable)
    (hstrength : 11 ≤ expr.strength)
    (h : (primaryParser (Level.withRoom room).expr (Level.withRoom room).block).run
      (expr.tokens level ++ rest) = .ok (primary, after)) :
    (Level.withRoom room).unary.run (expr.tokens level ++ rest) =
      runApplied room (Call.argsParser (Level.withRoom room).expr) 0 primary after := by
  rcases expr.startsWith_firstToken level with ⟨more, hpieces, -⟩
  have htokens : expr.tokens level ++ rest = expr.firstToken :: (Piece.tokens more ++ rest) := by
    rw [tokens, hpieces]
    rfl
  rw [htokens] at h ⊢
  exact Level.run_unary_primary (unaryOp?_firstToken readable hstrength) h

theorem ReadsBack.of_primary {expr : Expr} (readable : expr.Readable)
    (hstrength : expr.strength = 12) (haccesses : expr.accesses = 0)
    (primary : ∀ {level room : Nat} {rest : List Token}, expr.nesting ≤ room →
      Token.gripOf rest < 15 → (expr.isOpen = true → Token.gripOf rest = 0) →
        (primaryParser (Level.withRoom room).expr (Level.withRoom room).block).run
          (expr.tokens level ++ rest) = .ok (expr, rest)) : expr.ReadsBack := by
  refine ReadsBack.of_applied (firstToken_spelled readable).1 (by omega) ?_
  intro level room rest hroom hrest hopen
  rw [haccesses]
  exact run_unary_of_primary readable (by omega) (primary hroom hrest hopen)

theorem run_calls {calls : List Call} (hspelled : calls.all Call.isSpelled = true)
    (h : ∀ call ∈ calls, ∀ arg ∈ call.args, arg.ReadsBack) (hroom : Call.nesting calls ≤ room)
    (tall : Bool) (nested : Nat) (root : Root) (first : Call) (done : List Call) :
    runApplied room (Call.argsParser (Level.withRoom room).expr) nested
        (.chain ⟨root, first, done⟩) (Piece.tokens (Call.pieces tall level calls) ++ rest) =
      runApplied room (Call.argsParser (Level.withRoom room).expr) nested
        (.chain ⟨root, first, done ++ calls⟩) rest := by
  induction calls generalizing done with
  | nil => rw [Call.pieces, Piece.tokens_nil, List.nil_append, List.append_nil]
  | cons call calls ih =>
      rcases call with ⟨name, args⟩
      rcases List.forall_mem_cons.mp h with ⟨hargs, hcalls⟩
      rw [List.all_cons, Bool.and_eq_true] at hspelled
      rw [Call.nesting, Nat.max_le] at hroom
      have htokens : Piece.tokens (Call.pieces tall level (⟨name, args⟩ :: calls)) ++ rest =
          .mark .arrow :: .name name :: .opening .round ::
            (Piece.tokens (Expr.inline level true args) ++
              .closing .round :: (Piece.tokens (Call.pieces tall level calls) ++ rest)) := by
        rw [Call.pieces, Call.nameToken_of_name hspelled.1]
        cases tall <;> simp [Piece.callArrow]
      rw [htokens, runApplied_call (Call.run_argsParser hargs hroom.1 level _),
        ih hspelled.2 hcalls hroom.2, List.append_assoc, List.singleton_append]

theorem readsBack_static {className : String} {first : Call} {calls : List Call}
    (readable : (Expr.chain ⟨.static className, first, calls⟩).Readable)
    (h : ∀ child ∈ first.args ++ calls.flatMap (·.args), child.ReadsBack) :
    (Expr.chain ⟨.static className, first, calls⟩).ReadsBack := by
  refine ReadsBack.of_applied (firstToken_spelled readable).1 (Nat.le_refl 11) ?_
  intro level room rest hroom _ _
  rcases first with ⟨name, args⟩
  have hspelled := (readable_iff.mp readable).1.1
  simp only [isSpelled, Chain.isSpelled, Bool.and_eq_true] at hspelled
  rcases hspelled with ⟨⟨hclass, hfirst⟩, hcallsSpelled⟩
  rcases List.forall_mem_append.mp h with ⟨hargs, hothers⟩
  rw [nesting, Nat.max_le] at hroom
  obtain ⟨tall, inside, htokens⟩ : ∃ (tall : Bool) (inside : Nat),
      (Expr.chain ⟨.static className, ⟨name, args⟩, calls⟩).tokens level ++ rest =
        .name className :: .mark .doubleColon :: .name name :: .opening .round ::
          (Piece.tokens (Expr.inline level true args) ++
            .closing .round :: (Piece.tokens (Call.pieces tall inside calls) ++ rest)) := by
    refine ⟨!calls.isEmpty, if !calls.isEmpty then level + 1 else level, ?_⟩
    rw [tokens, pieces, Call.nameToken_of_name hfirst]
    simp
  have hprimary : (primaryParser (Level.withRoom room).expr (Level.withRoom room).block).run
      ((Expr.chain ⟨.static className, ⟨name, args⟩, calls⟩).tokens level ++ rest) =
        .ok (.chain ⟨.static className, ⟨name, args⟩, []⟩,
          Piece.tokens (Call.pieces tall inside calls) ++ rest) := by
    rw [htokens, run_primary_name (isHead_iff.mp hclass).2]
    exact run_named_static (Call.run_argsParser hargs hroom.1 level _)
  rw [run_unary_of_primary readable (Nat.le_refl 11) hprimary]
  exact run_calls hcallsSpelled (List.forall_mem_flatMap.mp hothers) hroom.2 tall 0 _ _ []

theorem readsBack_function {first : Call} {calls : List Call}
    (readable : (Expr.chain ⟨.function, first, calls⟩).Readable)
    (h : ∀ child ∈ first.args ++ calls.flatMap (·.args), child.ReadsBack) :
    (Expr.chain ⟨.function, first, calls⟩).ReadsBack := by
  refine ReadsBack.of_applied (firstToken_spelled readable).1 (Nat.le_refl 11) ?_
  intro level room rest hroom _ _
  rcases first with ⟨name, args⟩
  have hspelled := (readable_iff.mp readable).1.1
  simp only [isSpelled, Chain.isSpelled, Bool.and_eq_true, Bool.or_eq_true] at hspelled
  rcases hspelled with ⟨hname, hcallsSpelled⟩
  rcases List.forall_mem_append.mp h with ⟨hargs, hothers⟩
  rw [nesting, Nat.max_le] at hroom
  have htokens : (Expr.chain ⟨.function, ⟨name, args⟩, calls⟩).tokens level ++ rest =
      Call.nameToken name :: .opening .round ::
        (Piece.tokens (Expr.inline level true args) ++
          .closing .round :: (Piece.tokens (Call.pieces false level calls) ++ rest)) := by
    rw [tokens, pieces]
    simp
  have hcallsRead : runApplied room (Call.argsParser (Level.withRoom room).expr) 0
      (.chain ⟨.function, ⟨name, args⟩, []⟩)
      (Piece.tokens (Call.pieces false level calls) ++ rest) =
        runApplied room (Call.argsParser (Level.withRoom room).expr) 0
          (.chain ⟨.function, ⟨name, args⟩, calls⟩) rest :=
    run_calls hcallsSpelled (List.forall_mem_flatMap.mp hothers) hroom.2 false 0 _ _ []
  have hargsRead := Call.run_argsParser hargs hroom.1 level
    (Piece.tokens (Call.pieces false level calls) ++ rest)
  rcases hname with hvariable | hhead
  · rw [Call.nameToken_of_variable hvariable] at htokens
    have hprimary : (primaryParser (Level.withRoom room).expr (Level.withRoom room).block).run
        ((Expr.chain ⟨.function, ⟨name, args⟩, calls⟩).tokens level ++ rest) =
          .ok (.variable name, .opening .round :: (Piece.tokens (Expr.inline level true args) ++
            .closing .round :: (Piece.tokens (Call.pieces false level calls) ++ rest))) := by
      rw [htokens]
      rfl
    rw [run_unary_of_primary readable (Nat.le_refl 11) hprimary, runApplied_variable hargsRead]
    exact hcallsRead
  · rw [Call.nameToken_of_name (isHead_iff.mp hhead).1] at htokens
    have hprimary : (primaryParser (Level.withRoom room).expr (Level.withRoom room).block).run
        ((Expr.chain ⟨.function, ⟨name, args⟩, calls⟩).tokens level ++ rest) =
          .ok (.chain ⟨.function, ⟨name, args⟩, []⟩,
            Piece.tokens (Call.pieces false level calls) ++ rest) := by
      rw [htokens, run_primary_name (isHead_iff.mp hhead).2]
      exact run_named_call hargsRead
    rw [run_unary_of_primary readable (Nat.le_refl 11) hprimary]
    exact hcallsRead

theorem readsBack_receiver {object : Expr} {first : Call} {calls : List Call}
    (readable : (Expr.chain ⟨.receiver object, first, calls⟩).Readable)
    (hobject : object.ReadsBack)
    (h : ∀ child ∈ first.args ++ calls.flatMap (·.args), child.ReadsBack) :
    (Expr.chain ⟨.receiver object, first, calls⟩).ReadsBack := by
  refine ReadsBack.of_applied (firstToken_spelled readable).1 (Nat.le_refl 11) ?_
  intro level room rest hroom _ _
  rcases first with ⟨name, args⟩
  rcases readable_iff.mp readable with ⟨⟨hspelled, hgrouped, hclosed⟩, -⟩
  have hstrength : 12 ≤ object.strength := hgrouped
  have hobjectClosed : object.isOpen = false := hclosed
  simp only [isSpelled, Chain.isSpelled, Bool.and_eq_true] at hspelled
  rcases hspelled with ⟨hfirst, hcallsSpelled⟩
  rcases List.forall_mem_append.mp h with ⟨hargs, hothers⟩
  rw [nesting, Nat.max_le, Nat.max_le, Nat.max_le] at hroom
  rcases hroom with ⟨⟨haccesses, hobjectRoom⟩, hargsRoom, hcallsRoom⟩
  have htokens : (Expr.chain ⟨.receiver object, ⟨name, args⟩, calls⟩).tokens level ++ rest =
      object.tokens level ++ (.mark .arrow :: .name name :: .opening .round ::
        (Piece.tokens (Expr.inline level true args) ++
          .closing .round :: (Piece.tokens (Call.pieces false level calls) ++ rest))) := by
    rw [tokens, pieces, Call.nameToken_of_name hfirst]
    simp [tokens]
  rw [htokens, hobject.applied (by omega) hobjectRoom (Token.gripOf_arrow_lt _)
    (by simp [hobjectClosed]),
    runApplied_start hstrength (Call.run_argsParser hargs hargsRoom level _) haccesses]
  exact run_calls hcallsSpelled (List.forall_mem_flatMap.mp hothers) hcallsRoom false _ _ _ []

theorem readsBack_property {object : Expr} {name : String}
    (readable : (Expr.property object name).Readable) (h : object.ReadsBack) :
    (Expr.property object name).ReadsBack := by
  refine ReadsBack.of_applied (firstToken_spelled readable).1 (by simp [strength]) ?_
  intro level room rest hroom hrest _
  rcases readable_iff.mp readable with ⟨⟨-, hgrouped, hclosed⟩, -⟩
  have hobjectClosed : object.isOpen = false := hclosed
  rw [nesting, Nat.max_le] at hroom
  have htokens : (Expr.property object name).tokens level ++ rest =
      object.tokens level ++ (.mark .arrow :: .name name :: rest) := by
    rw [tokens, pieces]
    simp [tokens]
  rw [htokens, h.applied hgrouped hroom.2 (Token.gripOf_arrow_lt _) (by simp [hobjectClosed]),
    runApplied_access (head?_ne_of_gripOf hrest) hroom.1]
  rfl

theorem readsBack_closure {closure : Closure} (readable : (Expr.closure closure).Readable)
    (h : ∀ child ∈ closure.children, child.ReadsBack) : (Expr.closure closure).ReadsBack := by
  refine ReadsBack.of_primary readable rfl rfl ?_
  intro level room rest hroom _ hopen
  cases closure with
  | arrow params body =>
      rw [nesting] at hroom
      have htokens : (Expr.closure (.arrow params body)).tokens level ++ rest =
          .name "fn" :: (Piece.tokens (Param.piecesAll params) ++
            .mark .fatArrow :: (body.tokens level ++ rest)) := by
        rw [tokens, pieces]
        simp [tokens]
      rw [htokens]
      exact run_primary_arrow ((h body List.mem_cons_self).whole hroom (hopen rfl))
  | block params captures body =>
      rw [nesting] at hroom
      obtain ⟨room, rfl⟩ : ∃ inner : Nat, room = inner + 1 := ⟨room - 1, by omega⟩
      have htokens : (Expr.closure (.block params captures body)).tokens level ++ rest =
          .name "function" :: (Piece.tokens (Param.piecesAll params) ++
            (Piece.tokens (Capture.piecesAll captures) ++ .opening .curly ::
              (Piece.tokens (Stmt.lines (level + 1) body) ++ .closing .curly :: rest))) := by
        rw [tokens, pieces]
        simp
      rw [htokens]
      apply run_primary_block
      exact Level.run_block
        (Stmt.run_lines body h (level + 1) (Nat.le_of_succ_le_succ hroom) rest)

theorem readsBack_array {items : List ArrayItem} (readable : (Expr.array items).Readable)
    (h : ∀ child ∈ items.flatMap ArrayItem.children, child.ReadsBack) :
    (Expr.array items).ReadsBack := by
  refine ReadsBack.of_primary readable rfl rfl ?_
  intro level room rest hroom _ _
  rw [nesting] at hroom
  rcases ArrayItem.run_listParser h hroom level rest with ⟨tokens, htokens, hrun⟩
  rw [htokens]
  exact run_primary_array hrun

theorem readsBack_group {inner : Expr} (readable : (Expr.group inner).Readable)
    (h : inner.ReadsBack) : (Expr.group inner).ReadsBack := by
  refine ReadsBack.of_primary readable rfl rfl ?_
  intro level room rest hroom _ _
  rw [nesting] at hroom
  have htokens : (Expr.group inner).tokens level ++ rest =
      .opening .round :: (inner.tokens level ++ .closing .round :: rest) := by
    rw [tokens, pieces]
    simp [tokens]
  rw [htokens]
  exact run_primary_group (h.whole hroom rfl)

theorem readsBack_unary {op : UnaryOp} {operand : Expr}
    (readable : (Expr.unary op operand).Readable) (h : operand.ReadsBack) :
    (Expr.unary op operand).ReadsBack := by
  rcases readable_iff.mp readable with ⟨⟨-, hgrouped, -⟩, hchildren⟩
  have hstrength : ¬ 11 ≤ (Expr.unary op operand).strength := by simp [strength]
  refine ReadsBack.of_operand (firstToken_spelled readable).1 (Nat.le_refl 10)
    (fun hle => absurd hle hstrength) ?_
  intro level room rest hroom hrest hopen
  rw [nesting] at hroom
  obtain ⟨room, rfl⟩ : ∃ inner : Nat, room = inner + 1 := ⟨room - 1, by omega⟩
  rcases pieces_unary op (hchildren operand List.mem_cons_self) hgrouped level with
    ⟨gap, hpieces, hgap⟩
  have htokens : (Expr.unary op operand).tokens level ++ rest =
      op.token :: (operand.tokens level ++ rest) := by
    rw [tokens, hpieces]
    rcases hgap with rfl | ⟨rfl, -⟩ <;> rfl
  rw [htokens]
  exact Level.run_unary_operator (h.operand hgrouped (Nat.le_of_succ_le_succ hroom) hrest hopen)

theorem readsBack_binary {op : BinaryOp} {lhs rhs : Expr}
    (readable : (Expr.binary op lhs rhs).Readable) (hlhs : lhs.ReadsBack) (hrhs : rhs.ReadsBack) :
    (Expr.binary op lhs rhs).ReadsBack := by
  rcases readable_iff.mp readable with ⟨⟨-, hgrouped, hclosed⟩, -⟩
  have hlhsClosed : lhs.isOpen = false := hclosed
  rcases hgrouped with ⟨hleft, hright⟩
  have hle := op.precedence_le
  refine ReadsBack.of_operators (firstToken_spelled readable).1 op.precedence_pos
    (Nat.lt_succ_of_le op.precedence_le) ?_
  intro floor hfloor level room rest hroom hrest hopen
  have hprecedence : floor < op.precedence := hfloor
  rw [nesting, Nat.max_le, Nat.max_le] at hroom
  rcases hroom with ⟨hoperators, hlhsRoom, hrhsRoom⟩
  have htokens : (Expr.binary op lhs rhs).tokens level ++ rest =
      lhs.tokens level ++ (op.token :: (rhs.tokens level ++ rest)) := by
    rw [tokens, pieces]
    simp [tokens]
  have hgrip : Token.gripOf (op.token :: (rhs.tokens level ++ rest)) ≤ lhs.strength + 1 := by
    show op.token.grip ≤ _
    rw [Token.grip_of_binaryOp? (Token.binaryOp?_token op)]
    omega
  -- The right operand takes the operators that bind tighter, and none of them follows.
  have hrun : (binaryParser room (Level.withRoom room).unary op.precedence).run
      (rhs.tokens level ++ rest) = .ok (rhs, rest) := by
    have hgripOf : Token.gripOf rest ≤ op.precedence + 1 := hrest
    rw [hrhs.operators hright hrhsRoom (by omega) hopen]
    exact runOperators_stop hgripOf
  rw [htokens, hlhs.operators (by omega) hlhsRoom hgrip (by simp [hlhsClosed]),
    runOperators_step hprecedence hrun hoperators]
  rfl

theorem run_condition {condition : Expr} (h : condition.ReadsBack)
    (hstrength : 0 < condition.strength) (hclosed : condition.isOpen = false)
    (hroom : condition.nesting ≤ room) :
    (binaryParser room (Level.withRoom room).unary 0).run
      (condition.tokens level ++ .mark .question :: rest) =
        .ok (condition, .mark .question :: rest) := by
  have hgrip : Token.gripOf (.mark .question :: rest) = 1 := rfl
  rw [h.operators hstrength hroom (by omega) (by simp [hclosed])]
  exact runOperators_stop (Nat.le_of_eq hgrip)

/-- A choice is weaker than all operators, so it is only read as a whole expression. -/
theorem ReadsBack.of_whole {expr : Expr} (starts : expr.firstToken.starts = true)
    (hstrength : expr.strength = 0)
    (whole : ∀ {level room : Nat} {rest : List Token}, expr.nesting ≤ room →
      Token.gripOf rest = 0 →
        (conditionalParser room (Level.withRoom room).unary (Level.withRoom room).expr).run
          (expr.tokens level ++ rest) = .ok (expr, rest)) : expr.ReadsBack where
  starts := starts
  applied h := by omega
  operand h := by omega
  operators h := by omega
  whole {level room rest} hroom hrest := by
    obtain ⟨room, rfl⟩ : ∃ inner : Nat, room = inner + 1 := ⟨room - 1, by omega⟩
    exact whole (Nat.le_of_lt_succ hroom) hrest

theorem readsBack_ternary {condition yes no : Expr}
    (readable : (Expr.ternary condition yes no).Readable) (hcondition : condition.ReadsBack)
    (hyes : yes.ReadsBack) (hno : no.ReadsBack) : (Expr.ternary condition yes no).ReadsBack := by
  rcases readable_iff.mp readable with ⟨⟨-, hgrouped, hclosed⟩, -⟩
  refine ReadsBack.of_whole (firstToken_spelled readable).1 rfl ?_
  intro level room rest hroom hrest
  rw [nesting, Nat.max_le, Nat.max_le] at hroom
  rcases hroom with ⟨hconditionRoom, hyesRoom, hnoRoom⟩
  have htokens : (Expr.ternary condition yes no).tokens level ++ rest =
      condition.tokens level ++ .mark .question ::
        (yes.tokens level ++ .mark .colon :: (no.tokens level ++ rest)) := by
    rw [tokens, pieces]
    simp [tokens]
  unfold conditionalParser
  rw [htokens, Parser.run_bind_ok (run_condition hcondition hgrouped hclosed hconditionRoom),
    Parser.run_bind_ok (Parser.run_eat _ _)]
  simp only [if_true]
  rw [Parser.run_bind_ok (Parser.run_peek _)]
  split
  · rename_i heq
    exact absurd heq (hyes.head_ne rfl level _)
  · rw [Parser.run_bind_ok (hyes.whole hyesRoom rfl),
      Parser.run_bind_ok (Parser.run_expect _ _ _)]
    exact Parser.run_bind_ok (hno.whole hnoRoom hrest) _

theorem readsBack_elvis {condition no : Expr} (readable : (Expr.elvis condition no).Readable)
    (hcondition : condition.ReadsBack) (hno : no.ReadsBack) :
    (Expr.elvis condition no).ReadsBack := by
  rcases readable_iff.mp readable with ⟨⟨-, hgrouped, hclosed⟩, -⟩
  refine ReadsBack.of_whole (firstToken_spelled readable).1 rfl ?_
  intro level room rest hroom hrest
  rw [nesting, Nat.max_le] at hroom
  have htokens : (Expr.elvis condition no).tokens level ++ rest =
      condition.tokens level ++ .mark .question :: .mark .colon :: (no.tokens level ++ rest) := by
    rw [tokens, pieces]
    simp [tokens]
  unfold conditionalParser
  rw [htokens, Parser.run_bind_ok (run_condition hcondition hgrouped hclosed hroom.1),
    Parser.run_bind_ok (Parser.run_eat _ _)]
  simp only [if_true]
  rw [Parser.run_bind_ok (Parser.run_peek _)]
  show (Parser.skip >>= _).run (.mark .colon :: (no.tokens level ++ rest)) = _
  rw [Parser.run_bind_ok (Parser.run_skip _ _)]
  exact Parser.run_bind_ok (hno.whole hroom.2 hrest) _

/-- Every readable tree is read back. -/
theorem readsBack {expr : Expr} (readable : expr.Readable) : expr.ReadsBack := by
  induction expr using children_induction with
  | h expr ih =>
      rcases readable_iff.mp readable with ⟨⟨hspelled, -, -⟩, hchildren⟩
      have h : ∀ child ∈ expr.children, child.ReadsBack :=
        fun child hchild => ih child hchild (hchildren child hchild)
      cases expr with
      | literal l => exact ReadsBack.of_primary readable rfl rfl fun _ _ _ => rfl
      | number raw => exact ReadsBack.of_primary readable rfl rfl fun _ _ _ => rfl
      | constant name =>
          refine ReadsBack.of_primary readable rfl rfl fun _ hrest _ => ?_
          exact (run_primary_name (isHead_iff.mp hspelled).2 _).trans (run_named_constant hrest)
      | classConstant className name =>
          refine ReadsBack.of_primary readable rfl rfl fun _ hrest _ => ?_
          have hclass := (Bool.and_eq_true _ _ ▸ hspelled).1
          exact (run_primary_name (isHead_iff.mp hclass).2 _).trans (run_named_classConstant hrest)
      | array items => exact readsBack_array readable h
      | closure c => exact readsBack_closure readable h
      | chain c =>
          rcases c with ⟨root, first, calls⟩
          cases root with
          | static className => exact readsBack_static readable h
          | function => exact readsBack_function readable h
          | receiver object =>
              rcases List.forall_mem_cons.mp h with ⟨hobject, hothers⟩
              exact readsBack_receiver readable hobject hothers
      | property object name => exact readsBack_property readable (h object List.mem_cons_self)
      | unary op operand => exact readsBack_unary readable (h operand List.mem_cons_self)
      | binary op lhs rhs =>
          rcases List.forall_mem_cons.mp h with ⟨hlhs, hrhs⟩
          exact readsBack_binary readable hlhs (hrhs rhs List.mem_cons_self)
      | ternary condition yes no =>
          rcases List.forall_mem_cons.mp h with ⟨hcondition, hbranches⟩
          rcases List.forall_mem_cons.mp hbranches with ⟨hyes, hno⟩
          exact readsBack_ternary readable hcondition hyes (hno no List.mem_cons_self)
      | elvis condition no =>
          rcases List.forall_mem_cons.mp h with ⟨hcondition, hno⟩
          exact readsBack_elvis readable hcondition (hno no List.mem_cons_self)
      | group inner => exact readsBack_group readable (h inner List.mem_cons_self)
      | _ name => exact ReadsBack.of_primary readable rfl rfl fun _ _ _ => rfl

end Expr

end FluentStyle
