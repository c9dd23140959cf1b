import FluentStyle.Proofs.Grammar.Printing

/-!
# Balanced brackets

The tokens that are printed for a tree are balanced, whatever the tree.
-/

namespace FluentStyle

open Token

/-- The tokens of the pieces are balanced. -/
def Piece.Even (pieces : List Piece) : Prop :=
  Balanced (Piece.tokens pieces)

namespace Piece

theorem Even.append {before after : List Piece} (hbefore : Even before) (hafter : Even after) :
    Even (before ++ after) := by
  unfold Even
  rw [tokens_append]
  exact Balanced.append hbefore hafter

theorem Even.cons {token : Token} {pieces : List Piece} (h : Even pieces)
    (hplain : token.isBracket = false) : Even (.token token :: pieces) :=
  Balanced.cons h hplain

theorem Even.cons_mark {pieces : List Piece} (h : Even pieces) (m : Mark) :
    Even (mark m :: pieces) :=
  Balanced.cons h rfl

theorem Even.space {pieces : List Piece} (h : Even pieces) : Even (.space :: pieces) := h

theorem Even.line {pieces : List Piece} (h : Even pieces) (level : Nat) :
    Even (.line level :: pieces) := h

theorem Even.enclosed {inner rest : List Piece} (hinner : Even inner) (hrest : Even rest)
    (bracket : Bracket) :
    Even (.token (.opening bracket) :: (inner ++ .token (.closing bracket) :: rest)) := by
  have h := (Balanced.enclosed hinner bracket).append hrest
  unfold Even
  rw [tokens_cons_token, tokens_append, tokens_cons_token]
  rw [List.cons_append, List.append_assoc, List.singleton_append] at h
  exact h

theorem even_nil : Even [] := balanced_nil

theorem even_separated {lists : List (List Piece)} (h : ∀ pieces ∈ lists, Even pieces) :
    Even (separated lists) := by
  fun_induction separated lists with
  | case1 => exact even_nil
  | case2 pieces => exact h pieces List.mem_cons_self
  | case3 pieces others _ ih =>
      rcases List.forall_mem_cons.mp h with ⟨hpieces, hothers⟩
      exact hpieces.append (Even.cons_mark (ih hothers) .comma)

theorem even_separator (first : Bool) : Even (separator first) := by
  cases first with
  | true => exact even_nil
  | false => exact even_nil.cons_mark .comma

theorem even_callArrow (tall : Bool) (level : Nat) : Even (callArrow tall level) := by
  cases tall <;> exact even_nil.cons_mark .arrow

end Piece

theorem Param.even_piecesAll (params : List Param) : Piece.Even (Param.piecesAll params) := by
  have hparam : ∀ pieces ∈ params.map Param.pieces, Piece.Even pieces := by
    intro pieces hpieces
    rcases List.mem_map.mp hpieces with ⟨⟨hint, name⟩, -, rfl⟩
    have hname : Piece.Even [.token (.variable name)] := Piece.even_nil.cons rfl
    cases hint with
    | none => exact hname
    | some hint =>
        rcases hint with ⟨nullable, type⟩
        have htype : Piece.Even [.token (.name type), .space, .token (.variable name)] :=
          hname.space.cons rfl
        cases nullable with
        | false => exact htype
        | true => exact htype.cons_mark .question
  exact (Piece.even_separated hparam).enclosed Piece.even_nil .round

theorem Capture.even_piecesAll (captures : List Capture) :
    Piece.Even (Capture.piecesAll captures) := by
  have hcapture : ∀ pieces ∈ captures.map Capture.pieces, Piece.Even pieces := by
    intro pieces hpieces
    rcases List.mem_map.mp hpieces with ⟨⟨byReference, name⟩, -, rfl⟩
    have hname : Piece.Even [.token (.variable name)] := Piece.even_nil.cons rfl
    cases byReference with
    | false => exact hname
    | true => exact hname.cons_mark .ampersand
  cases captures with
  | nil => exact Piece.even_nil
  | cons capture captures =>
      have hlist := (Piece.even_separated hcapture).enclosed Piece.even_nil.space .round
      unfold Capture.piecesAll
      simp only [List.cons_append, List.nil_append]
      exact hlist.space.cons rfl

def Expr.Even (expr : Expr) : Prop :=
  ∀ level : Nat, Piece.Even (expr.pieces level)

theorem Expr.even_inline {exprs : List Expr} (h : ∀ expr ∈ exprs, expr.Even) (level : Nat)
    (first : Bool) : Piece.Even (Expr.inline level first exprs) := by
  induction exprs generalizing first with
  | nil =>
      rw [Expr.inline]
      exact Piece.even_nil
  | cons expr exprs ih =>
      rcases List.forall_mem_cons.mp h with ⟨hexpr, hexprs⟩
      rw [Expr.inline]
      exact ((Piece.even_separator first).append (hexpr level)).append (ih hexprs false)

theorem ArrayItem.even_inline {items : List ArrayItem}
    (h : ∀ item ∈ items, ∀ child ∈ item.children, child.Even) (level : Nat) (first : Bool) :
    Piece.Even (ArrayItem.inline level first items) := by
  induction items generalizing first with
  | nil =>
      rw [ArrayItem.inline]
      exact Piece.even_nil
  | cons item items ih =>
      rcases List.forall_mem_cons.mp h with ⟨hitem, hitems⟩
      have hfirst := Piece.even_separator first
      cases item with
      | value e =>
          rw [ArrayItem.inline]
          exact (hfirst.append (hitem e List.mem_cons_self level)).append (ih hitems false)
      | pair key e =>
          rcases List.forall_mem_cons.mp hitem with ⟨hkey, hvalue⟩
          have harrow := (Piece.even_nil.space.cons_mark .fatArrow).space
          rw [ArrayItem.inline]
          exact (((hfirst.append (hkey level)).append harrow).append
            (hvalue e List.mem_cons_self level)).append (ih hitems false)

theorem ArrayItem.even_lines {items : List ArrayItem}
    (h : ∀ item ∈ items, ∀ child ∈ item.children, child.Even) (level : Nat) :
    Piece.Even (ArrayItem.lines level items) := by
  induction items with
  | nil =>
      rw [ArrayItem.lines]
      exact Piece.even_nil
  | cons item items ih =>
      rcases List.forall_mem_cons.mp h with ⟨hitem, hitems⟩
      have hrest : Piece.Even (Piece.mark .comma :: ArrayItem.lines level items) :=
        (ih hitems).cons_mark .comma
      cases item with
      | value e =>
          rw [ArrayItem.lines]
          exact ((hitem e List.mem_cons_self level).line level).append hrest
      | pair key e =>
          rcases List.forall_mem_cons.mp hitem with ⟨hkey, hvalue⟩
          have harrow := (Piece.even_nil.space.cons_mark .fatArrow).space
          rw [ArrayItem.lines]
          have hpair := ((hkey level).line level).append harrow
          exact (hpair.append (hvalue e List.mem_cons_self level)).append hrest

theorem Call.even_args {args : List Expr} (h : ∀ arg ∈ args, arg.Even) (level : Nat)
    {rest : List Piece} (hrest : Piece.Even rest) :
    Piece.Even (.token (.opening .round) ::
      (Expr.inline level true args ++ .token (.closing .round) :: rest)) :=
  (Expr.even_inline h level true).enclosed hrest .round

theorem Call.even_pieces {calls : List Call} (h : ∀ call ∈ calls, ∀ arg ∈ call.args, arg.Even)
    (tall : Bool) (level : Nat) : Piece.Even (Call.pieces tall level calls) := by
  induction calls with
  | nil =>
      rw [Call.pieces]
      exact Piece.even_nil
  | cons call calls ih =>
      rcases call with ⟨name, args⟩
      rcases List.forall_mem_cons.mp h with ⟨hargs, hcalls⟩
      have hcall := (Call.even_args hargs level (ih hcalls)).cons (Call.isBracket_nameToken name)
      have hpieces := (Piece.even_callArrow tall level).append hcall
      simp only [Call.pieces, List.cons_append, List.append_assoc, List.nil_append]
      exact hpieces

theorem Stmt.even_lines : (stmts : List Stmt) → (∀ child ∈ Stmt.children stmts, child.Even) →
    (level : Nat) → Piece.Even (Stmt.lines level stmts)
  | [], _, level => by
      rw [Stmt.lines]
      exact Piece.even_nil
  | .leave :: stmts, h, level => by
      rw [Stmt.children] at h
      have hrest := (Stmt.even_lines stmts h level).cons_mark .semicolon
      rw [Stmt.lines]
      exact (hrest.cons rfl).line level
  | .give e :: stmts, h, level => by
      rw [Stmt.children] at h
      rcases List.forall_mem_cons.mp h with ⟨he, hstmts⟩
      have hrest := (Stmt.even_lines stmts hstmts level).cons_mark .semicolon
      simp only [Stmt.lines, List.cons_append, List.nil_append]
      exact (((he level).append hrest).space.cons rfl).line level
  | .expr e :: stmts, h, level => by
      rw [Stmt.children] at h
      rcases List.forall_mem_cons.mp h with ⟨he, hstmts⟩
      have hrest := (Stmt.even_lines stmts hstmts level).cons_mark .semicolon
      rw [Stmt.lines]
      exact ((he level).line level).append hrest
  | .assign target e :: stmts, h, level => by
      rw [Stmt.children] at h
      rcases List.forall_mem_cons.mp h with ⟨he, hstmts⟩
      have hrest := (Stmt.even_lines stmts hstmts level).cons_mark .semicolon
      have hvalue := ((he level).append hrest).space.cons_mark .assign
      simp only [Stmt.lines, List.cons_append, List.nil_append]
      exact (hvalue.space.cons rfl).line level
  | .when condition yes :: stmts, h, level => by
      rw [Stmt.children] at h
      rcases List.forall_mem_cons.mp h with ⟨hcondition, hstmts⟩
      rcases List.forall_mem_append.mp hstmts with ⟨hyes, hstmts⟩
      have hrest := Stmt.even_lines stmts hstmts level
      have hinner := (Stmt.even_lines yes hyes (level + 1)).append (Piece.even_nil.line level)
      have hblock := (hinner.enclosed hrest .curly).space
      have hguard : Piece.Even (.token (.name "if") :: _) :=
        ((hcondition level).enclosed hblock .round).space.cons rfl
      simp only [Stmt.lines, List.cons_append, List.append_assoc, List.nil_append] at hguard ⊢
      exact hguard.line level
  | .choose condition yes no :: stmts, h, level => by
      rw [Stmt.children] at h
      rcases List.forall_mem_cons.mp h with ⟨hcondition, hstmts⟩
      rcases List.forall_mem_append.mp hstmts with ⟨hyes, hstmts⟩
      rcases List.forall_mem_append.mp hstmts with ⟨hno, hstmts⟩
      have hrest := Stmt.even_lines stmts hstmts level
      have hinnerNo := (Stmt.even_lines no hno (level + 1)).append (Piece.even_nil.line level)
      have helse : Piece.Even (.token (.name "else") :: _) :=
        (hinnerNo.enclosed hrest .curly).space.cons rfl
      have hinnerYes := (Stmt.even_lines yes hyes (level + 1)).append (Piece.even_nil.line level)
      have hblock := (hinnerYes.enclosed helse.space .curly).space
      have hguard : Piece.Even (.token (.name "if") :: _) :=
        ((hcondition level).enclosed hblock .round).space.cons rfl
      simp only [Stmt.lines, List.cons_append, List.append_assoc, List.nil_append] at hguard ⊢
      exact hguard.line level

theorem Chain.even {chain : Chain} (h : ∀ child ∈ chain.children, child.Even) :
    (Expr.chain chain).Even := by
  intro level
  rcases chain with ⟨root, ⟨name, args⟩, calls⟩
  have hcall : ∀ (tall : Bool) (inside : Nat), (∀ arg ∈ args ++ calls.flatMap (·.args), arg.Even) →
      Piece.Even (.token (Call.nameToken name) :: .token (.opening .round) ::
        (Expr.inline level true args ++
          .token (.closing .round) :: Call.pieces tall inside calls)) := by
    intro tall inside hall
    rcases List.forall_mem_append.mp hall with ⟨hargs, hcalls⟩
    have hrest := Call.even_pieces
      (fun call hcall arg harg => hcalls arg (List.mem_flatMap.mpr ⟨call, hcall, harg⟩)) tall inside
    exact (Call.even_args hargs level hrest).cons (Call.isBracket_nameToken name)
  cases root with
  | static className =>
      simp only [Expr.pieces, List.cons_append, List.nil_append]
      exact ((hcall _ _ h).cons_mark .doubleColon).cons rfl
  | function =>
      simp only [Expr.pieces, List.cons_append, List.nil_append]
      exact hcall _ _ h
  | receiver object =>
      rcases List.forall_mem_cons.mp h with ⟨hobject, hothers⟩
      simp only [Expr.pieces, List.cons_append, List.append_assoc, List.nil_append]
      exact (hobject level).append ((hcall _ _ hothers).cons_mark .arrow)

theorem Expr.even (expr : Expr) : expr.Even := by
  induction expr using children_induction with
  | h expr ih =>
      intro level
      cases expr with
      | chain c => exact Chain.even ih level
      | array items =>
          have hitems : ∀ item ∈ items, ∀ child ∈ item.children, child.Even :=
            fun item hitem child hchild => ih child (List.mem_flatMap.mpr ⟨item, hitem, hchild⟩)
          have hlines :=
            (ArrayItem.even_lines hitems (level + 1)).append (Piece.even_nil.line level)
          have htall := hlines.enclosed Piece.even_nil .square
          have hflat := (ArrayItem.even_inline hitems level true).enclosed Piece.even_nil .square
          rw [Expr.pieces]
          split
          · simp only [List.cons_append, List.append_assoc, List.nil_append] at htall ⊢
            exact htall
          · exact hflat
      | closure c =>
          cases c with
          | arrow params body =>
              have hbody := ih body List.mem_cons_self level
              have harrow := (hbody.space.cons_mark .fatArrow).space
              simp only [Expr.pieces, List.cons_append, List.append_assoc, List.nil_append]
              exact ((Param.even_piecesAll params).append harrow).space.cons rfl
          | block params captures body =>
              have hlines := (Stmt.even_lines body ih (level + 1)).append
                (Piece.even_nil.line level)
              have hblock := (Capture.even_piecesAll captures).append
                (hlines.enclosed Piece.even_nil .curly)
              have hfunction : Piece.Even (.token (.name "function") :: _) :=
                ((Param.even_piecesAll params).append hblock.space).space.cons rfl
              simp only [Expr.pieces, List.cons_append, List.append_assoc, List.nil_append]
                at hfunction ⊢
              exact hfunction
      | unary op operand =>
          have hoperand := ih operand List.mem_cons_self level
          have hop : op.token.isBracket = false := by cases op <;> rfl
          simp only [Expr.pieces, List.cons_append]
          split
          · exact hoperand.space.cons hop
          · exact hoperand.cons hop
      | binary op lhs rhs =>
          have hlhs := ih lhs List.mem_cons_self level
          have hrhs := ih rhs (List.mem_cons_of_mem _ List.mem_cons_self) level
          have hop : op.token.isBracket = false := by cases op <;> rfl
          have hright := (hrhs.space.cons hop).space
          simp only [Expr.pieces, List.append_assoc]
          exact hlhs.append hright
      | ternary condition yes no =>
          have hcondition := ih condition List.mem_cons_self level
          have hyes := ih yes (List.mem_cons_of_mem _ List.mem_cons_self) level
          have hno := ih no
            (List.mem_cons_of_mem _ (List.mem_cons_of_mem _ List.mem_cons_self)) level
          have hcolon := (hno.space.cons_mark .colon).space
          have hquestion := ((hyes.append hcolon).space.cons_mark .question).space
          simp only [Expr.pieces, List.append_assoc]
          exact hcondition.append hquestion
      | elvis condition no =>
          have hcondition := ih condition List.mem_cons_self level
          have hno := ih no (List.mem_cons_of_mem _ List.mem_cons_self) level
          have hmarks := ((hno.space.cons_mark .colon).cons_mark .question).space
          simp only [Expr.pieces, List.append_assoc]
          exact hcondition.append hmarks
      | property object name =>
          have hobject := ih object List.mem_cons_self level
          have hname : Piece.Even [Piece.mark .arrow, .token (.name name)] :=
            (Piece.even_nil.cons rfl).cons_mark .arrow
          exact hobject.append hname
      | group inner =>
          exact (ih inner List.mem_cons_self level).enclosed Piece.even_nil .round
      | classConstant className name =>
          have hname : Piece.Even [Piece.mark .doubleColon, .token (.name name)] :=
            (Piece.even_nil.cons rfl).cons_mark .doubleColon
          exact hname.cons rfl
      | _ => exact Piece.even_nil.cons rfl

end FluentStyle
