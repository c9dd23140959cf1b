import FluentStyle.Proofs.Grammar.Completeness
import FluentStyle.Proofs.Grammar.Derivation

/-!
# Greedy readers

A text can often be taken apart in several ways, and the readers know one of them: they go from left
to right and take whatever goes on with what they have.  To see that this turns nothing away, an
expression is looked at as a row: operands, each with all that goes on with it behind it, whatever
it belongs to.  A row is still one when something is put behind it that goes on with it, and each
loop of the readers leaves the end of a row.
-/

namespace FluentStyle

open Token

/-!
# How reading ends
-/

namespace Parser

variable {α β : Type} {least : Nat} {tokens : List Token} {post : List Token → Prop}

/-- How reading the tokens ends: what is left is as it should be, or they nest too deep, and there
are at least so many of them. -/
def Leaves (least : Nat) (tokens : List Token) (post : List Token → Prop)
    (outcome : Except Stuck (α × List Token)) : Prop :=
  match outcome with
  | .ok (_, rest) => post rest
  | .error stuck => stuck.reason = .nestingTooDeep ∧ least ≤ tokens.length

theorem Leaves.mono {outcome : Except Stuck (α × List Token)} (h : Leaves least tokens post outcome)
    {less : Nat} {more : List Token} {weaker : List Token → Prop}
    (hleast : least ≤ tokens.length → less ≤ more.length)
    (hpost : ∀ rest : List Token, post rest → weaker rest) : Leaves less more weaker outcome := by
  cases outcome with
  | ok result =>
      rcases result with ⟨a, rest⟩
      exact hpost rest h
  | error stuck => exact ⟨h.1, hleast h.2⟩

theorem Leaves.longer {outcome : Except Stuck (α × List Token)}
    (h : Leaves least tokens post outcome) {more : Nat} {longer : List Token}
    (hlonger : more + tokens.length ≤ least + longer.length) : Leaves more longer post outcome :=
  h.mono (fun hle => by omega) fun _ => id

theorem Leaves.cons {outcome : Except Stuck (α × List Token)} (h : Leaves least tokens post outcome)
    (token : Token) {more : Nat} (hmore : more ≤ least + 1) :
    Leaves more (token :: tokens) post outcome := by
  apply h.longer
  rw [List.length_cons]
  omega

theorem Leaves.bind {p : Parser α} {f : α → Parser β} {mid : List Token → Prop}
    (h : Leaves least tokens mid (p.run tokens))
    (hf : ∀ (a : α) (rest : List Token), mid rest → Leaves least rest post ((f a).run rest)) :
    Leaves least tokens post ((p >>= f).run tokens) := by
  rw [run_bind]
  cases hrun : p.run tokens with
  | error stuck =>
      rw [hrun] at h
      exact h
  | ok result =>
      rcases result with ⟨a, rest⟩
      rw [hrun] at h
      exact (hf a rest h).mono (fun hle => Nat.le_trans hle (length_le hrun)) fun _ => id

theorem Leaves.map {p : Parser α} (h : Leaves least tokens post (p.run tokens)) (g : α → β) :
    Leaves least tokens post ((p >>= fun a => pure (g a)).run tokens) :=
  h.bind fun _ _ => id

theorem leaves_expect {token : Token} {expected : Expectation} {f : Unit → Parser β}
    (h : Leaves least tokens post ((f ()).run tokens)) :
    Leaves least (token :: tokens) post ((expect token expected >>= f).run (token :: tokens)) := by
  rw [run_bind_ok (run_expect token expected tokens)]
  exact h.cons token (Nat.le_succ least)

theorem leaves_expect_last {token : Token} {expected : Expectation} (a : α)
    (rest : List Token) :
    Leaves least (token :: rest) (· = rest)
      ((expect token expected >>= fun _ => pure a).run (token :: rest)) := by
  rw [run_bind_ok (run_expect token expected rest)]
  rfl

/-!
# Lists
-/

/-- The reader takes the tokens as an item of a list that the token closes. -/
structure TakesItem (close : Token) (least : Nat) (item : Parser α) (tokens : List Token) :
    Prop where
  head_ne : ∀ rest : List Token, (tokens ++ rest).head? ≠ some close
  leaves : ∀ rest : List Token, rest.head? = some (.mark .comma) ∨ rest.head? = some close →
    Leaves least (tokens ++ rest) (· = rest) (item.run (tokens ++ rest))

variable {close : Token} {item : Parser α}

theorem leaves_runList_cons {after : List Token} (hhead : tokens.head? ≠ some close)
    (hitem : Leaves least tokens (· = after) (item.run tokens))
    (hcomma : ∀ rest : List Token, after = .mark .comma :: rest →
      Leaves least rest post (runList close item rest))
    (hlast : after.head? ≠ some (.mark .comma) → post after) :
    Leaves least tokens post (runList close item tokens) := by
  rw [runList, if_neg hhead]
  split
  · rename_i stuck herror
    rw [herror] at hitem
    exact hitem
  · rename_i a rest hreading
    have hlength := length_le hreading
    rw [List.length_cons] at hlength
    rw [hreading] at hitem
    have hrest := hcomma rest hitem.symm
    split
    · rename_i stuck herror
      rw [herror] at hrest
      exact ⟨hrest.1, by have := hrest.2; omega⟩
    · rename_i items last hread
      rw [hread] at hrest
      exact hrest
  · rename_i a rest hne hreading
    rw [hreading] at hitem
    obtain rfl : rest = after := hitem
    apply hlast
    intro hhead
    rcases List.head?_eq_some_iff.mp hhead with ⟨more, rfl⟩
    exact hne more rfl

end Parser

inductive Token.Items (item : List Token → Prop) : List Token → Prop where
  | none : Items item []
  | last {tokens : List Token} (h : item tokens) : Items item tokens
  | next {tokens others : List Token} (h : item tokens) (hothers : Items item others) :
      Items item (tokens ++ .mark .comma :: others)

theorem Token.Items.mono {p q : List Token → Prop} {tokens : List Token} (h : Items p tokens)
    (hpq : ∀ tokens : List Token, p tokens → q tokens) : Items q tokens := by
  induction h with
  | none => exact .none
  | last hitem => exact .last (hpq _ hitem)
  | next hitem _ ih => exact .next (hpq _ hitem) ih

theorem Parser.leaves_closed {α : Type} {least : Nat} {item : Parser α} {bracket : Bracket}
    {expected : Expectation} {tokens : List Token}
    (h : Token.Items (TakesItem (.closing bracket) least item) tokens) (rest : List Token) :
    Leaves least (tokens ++ .closing bracket :: rest) (· = rest)
      ((list (.closing bracket) item >>= fun items =>
        expect (.closing bracket) expected >>= fun _ => pure items).run
          (tokens ++ .closing bracket :: rest)) := by
  have hlist : Leaves least (tokens ++ .closing bracket :: rest) (· = .closing bracket :: rest)
      (runList (.closing bracket) item (tokens ++ .closing bracket :: rest)) := by
    induction h with
    | none =>
        rw [List.nil_append, runList_nil]
        rfl
    | last hitem =>
        refine leaves_runList_cons (hitem.head_ne _) (hitem.leaves _ (Or.inr rfl)) ?_ fun _ => rfl
        rintro after ⟨⟩
    | next hitem _ ih =>
        rw [List.append_assoc]
        refine leaves_runList_cons (hitem.head_ne _) (hitem.leaves _ (Or.inl rfl)) ?_ ?_
        · rintro after ⟨⟩
          exact ih
        · intro hne
          exact absurd rfl hne
  refine Leaves.bind hlist ?_
  rintro items _ rfl
  exact leaves_expect_last items rest

/-!
# Rows

A row goes on where an operand comes next, or where there is one before.  Where an operator comes
next, an operand comes after it.
-/

namespace Token

def IsParameters (tokens : List Token) : Prop :=
  ∀ (least : Nat) (rest : List Token),
    Parser.Leaves least (tokens ++ rest) (· = rest) (Param.listParser.run (tokens ++ rest))

def IsArguments (tokens : List Token) : Prop :=
  ∃ inner : List Token, tokens = enclosed .round inner ∧
    ∀ (room : Nat) (rest : List Token),
      Parser.Leaves (room - 1) (inner ++ .closing .round :: rest) (· = rest)
        ((Call.argsParser (Level.withRoom room).expr).run (inner ++ .closing .round :: rest))

theorem IsArguments.leaves {args : List Token} (h : IsArguments args) (room : Nat)
    (rest : List Token) :
    ∃ inner : List Token, args ++ rest = .opening .round :: inner ∧
      Parser.Leaves (room - 1) inner (· = rest)
        ((Call.argsParser (Level.withRoom room).expr).run inner) := by
  rcases h with ⟨inner, rfl, hargs⟩
  exact ⟨inner ++ .closing .round :: rest, by simp [enclosed], hargs room rest⟩

def Opens (tokens : List Token) : Prop :=
  ∃ (first : Token) (more : List Token), tokens = first :: more ∧ first.starts = true ∧
    ∀ name : String, first = .variable name → more.head? ≠ some (.mark .assign)

/-- The readers of operands take the tokens and come to the loop that goes on with them. -/
structure IsOperand (tokens : List Token) : Prop where
  opens : Opens tokens
  leaves : ∀ {room : Nat} {rest : List Token} {post : List Token → Prop}, gripOf rest < 15 →
    (∀ expr : Expr, Parser.Leaves room rest post
      (Expr.runApplied room (Call.argsParser (Level.withRoom room).expr) 0 expr rest)) →
    Parser.Leaves room (tokens ++ rest) post ((Level.withRoom room).unary.run (tokens ++ rest))

inductive Place where
  | before
  | behind

/-- The tokens are what is left of a row at a place. -/
inductive Row : Place → List Token → Prop where
  | operand {tokens others : List Token} (h : IsOperand tokens) (hothers : Row .behind others) :
      Row .before (tokens ++ others)
  | signed {tokens : List Token} (op : UnaryOp) (h : Row .before tokens) :
      Row .before (op.token :: tokens)
  | arrow {params body : List Token} (h : IsParameters params) (hbody : Row .before body) :
      Row .before (.name "fn" :: (params ++ .mark .fatArrow :: body))
  | stop : Row .behind []
  | property {others : List Token} (name : String) (hothers : Row .behind others) :
      Row .behind (.mark .arrow :: .name name :: others)
  | method {args others : List Token} (name : String) (h : IsArguments args)
      (hothers : Row .behind others) :
      Row .behind (.mark .arrow :: .name name :: (args ++ others))
  | operator {token : Token} {tokens : List Token} {op : BinaryOp} (hop : token.binaryOp? = some op)
      (h : Row .before tokens) : Row .behind (token :: tokens)
  | ternary {yes no : List Token} (hyes : Row .before yes) (hno : Row .before no) :
      Row .behind (.mark .question :: (yes ++ .mark .colon :: no))
  | elvis {no : List Token} (hno : Row .before no) :
      Row .behind (.mark .question :: .mark .colon :: no)

variable {place : Place} {tokens others rest : List Token}

/-- A row takes in what goes on with it, wherever it ends. -/
theorem Row.append (h : Row place tokens) (hothers : Row .behind others) :
    Row place (tokens ++ others) := by
  induction h with
  | operand h _ ih =>
      rw [List.append_assoc]
      exact .operand h ih
  | signed op _ ih => exact .signed op ih
  | arrow h _ ih =>
      rw [List.cons_append, List.append_assoc]
      exact .arrow h ih
  | stop => exact hothers
  | property name _ ih => exact .property name ih
  | method name h _ ih =>
      rw [List.cons_append, List.cons_append, List.append_assoc]
      exact .method name h ih
  | operator hop _ ih => exact .operator hop ih
  | ternary hyes _ _ ih =>
      rw [List.cons_append, List.append_assoc]
      exact .ternary hyes ih
  | elvis _ ih => exact .elvis ih

theorem Row.grip_head {token : Token} (h : Row .behind (token :: tokens)) :
    0 < token.grip ∧ token.grip < 15 := by
  cases h with
  | property | method | ternary | elvis => exact ⟨by decide, by decide⟩
  | operator hop _ =>
      rename_i op _
      have hle := op.precedence_le
      rw [grip_of_binaryOp? hop]
      omega

theorem Row.gripOf_append_lt (h : Row .behind tokens) (hrest : gripOf rest = 0) :
    gripOf (tokens ++ rest) < 15 := by
  cases tokens with
  | nil =>
      rw [List.nil_append, hrest]
      decide
  | cons token tokens => exact h.grip_head.2

theorem Row.head_ne_assign (h : Row .behind tokens) : tokens.head? ≠ some (.mark .assign) := by
  cases tokens with
  | nil => rintro ⟨⟩
  | cons token tokens =>
      rintro ⟨⟩
      exact absurd h.grip_head.1 (by decide)

theorem Opens.append (h : Opens tokens) (hothers : others.head? ≠ some (.mark .assign)) :
    Opens (tokens ++ others) := by
  rcases h with ⟨first, more, rfl, hstarts, hassign⟩
  exact ⟨first, more ++ others, rfl, hstarts,
    fun name hname => Expr.head?_append_ne (hassign name hname) hothers⟩

theorem Opens.head_ne (h : Opens tokens) {token : Token} (htoken : token.starts = false)
    (rest : List Token) : (tokens ++ rest).head? ≠ some token := by
  rcases h with ⟨first, more, rfl, hstarts, -⟩
  rintro ⟨⟩
  rw [hstarts] at htoken
  cases htoken

theorem Row.opens (h : Row .before tokens) : Opens tokens := by
  cases h with
  | operand h hothers => exact h.opens.append hothers.head_ne_assign
  | signed op _ =>
      refine ⟨op.token, _, rfl, ?_, ?_⟩
      · cases op <;> rfl
      · cases op <;> rintro name ⟨⟩
  | arrow _ _ => exact ⟨.name "fn", _, rfl, by decide, by rintro name ⟨⟩⟩

/-- The end of a row, where what holds it there is no firmer than the bound. -/
def Remains (bound : Nat) (rest left : List Token) : Prop :=
  ∃ others : List Token, left = others ++ rest ∧ Row .behind others ∧ gripOf others ≤ bound

theorem gripOf_append_le {bound : Nat} (h : gripOf tokens ≤ bound) (hrest : gripOf rest = 0) :
    gripOf (tokens ++ rest) ≤ bound := by
  cases tokens with
  | nil => exact Nat.le_trans (Nat.le_of_eq hrest) (Nat.zero_le bound)
  | cons token tokens => exact h

theorem Remains.refl (bound : Nat) (rest : List Token) : Remains bound rest rest :=
  ⟨[], rfl, .stop, Nat.zero_le bound⟩

theorem Remains.mono {bound more : Nat} {left : List Token} (h : Remains bound rest left)
    (hle : bound ≤ more) : Remains more rest left := by
  rcases h with ⟨others, heq, hothers, hgrip⟩
  exact ⟨others, heq, hothers, Nat.le_trans hgrip hle⟩

theorem Row.of_operator (h : Row .behind tokens) (hrest : gripOf rest = 0) {token : Token}
    {after : List Token} {op : BinaryOp} (hop : token.binaryOp? = some op)
    (heq : tokens ++ rest = token :: after) :
    ∃ more : List Token, tokens = token :: more ∧ after = more ++ rest ∧ Row .before more := by
  cases h with
  | stop =>
      obtain rfl : rest = token :: after := heq
      rw [gripOf, grip_of_binaryOp? hop] at hrest
      cases hrest
  | operator _ hmore =>
      cases heq
      exact ⟨_, rfl, rfl, hmore⟩
  | property | method | ternary | elvis =>
      cases heq
      cases hop

end Token

/-!
# The loops

The loop of accesses takes what is applied and stops at an operator, a choice or the end; arguments
behind a bare variable are taken first.
-/

namespace Expr

open FluentStyle.Parser

variable {room nested : Nat} {tokens rest : List Token}

theorem leaves_runApplied {expr : Expr} (h : Row .behind tokens) (hrest : gripOf rest = 0) :
    Leaves (room - nested) (tokens ++ rest) (Remains 10 rest)
      (runApplied room (Call.argsParser (Level.withRoom room).expr) nested expr
        (tokens ++ rest)) := by
  have hstop : ∀ {nested : Nat} {expr : Expr} {tokens : List Token}, Row .behind tokens →
      gripOf tokens ≤ 10 → Leaves (room - nested) (tokens ++ rest) (Remains 10 rest)
        (runApplied room (Call.argsParser (Level.withRoom room).expr) nested expr
          (tokens ++ rest)) := by
    intro nested expr tokens h hgrip
    have hlt := gripOf_append_le hgrip hrest
    rw [runApplied_stop (by omega)]
    exact ⟨tokens, rfl, h, hgrip⟩
  generalize hplace : Place.behind = place at h
  induction h generalizing nested expr with
  | operand | signed | arrow => cases hplace
  | stop => exact hstop .stop (Nat.zero_le 10)
  | operator hop h =>
      rename_i op _
      have hle := op.precedence_le
      exact hstop (.operator hop h) (by rw [gripOf, grip_of_binaryOp? hop]; omega)
  | ternary hyes hno => exact hstop (.ternary hyes hno) (by simp [gripOf, grip])
  | elvis hno => exact hstop (.elvis hno) (by simp [gripOf, grip])
  | @property others name hothers ih =>
      have hhead : (others ++ rest).head? ≠ some (.opening .round) :=
        head?_ne_of_gripOf (hothers.gripOf_append_lt hrest)
      rw [List.cons_append, List.cons_append]
      by_cases hroom : nested + 2 ≤ room
      · rw [runApplied_access hhead hroom]
        exact ((ih rfl).cons (.name name) (Nat.le_refl _)).cons (.mark .arrow) (by omega)
      · rw [runApplied, if_pos (by omega)]
        · refine ⟨rfl, ?_⟩
          rw [List.length_cons, List.length_cons]
          omega
        · intro after heq
          exact hhead (by rw [heq, List.head?_cons])
  | @method args others name h hothers ih =>
      rcases h.leaves room (others ++ rest) with ⟨inner, heq, hinner⟩
      rw [List.cons_append, List.cons_append, List.append_assoc, heq, runApplied]
      split
      · rename_i stuck herror
        rw [herror] at hinner
        have hdeep := hinner.2
        refine ⟨hinner.1, ?_⟩
        simp only [List.length_cons]
        omega
      · rename_i values after hok
        have hlength := length_le hok
        rw [hok] at hinner
        obtain rfl : after = others ++ rest := hinner
        split
        · apply (ih rfl).longer
          simp only [List.length_cons]
          omega
        · split
          · refine ⟨rfl, ?_⟩
            simp only [List.length_cons]
            omega
          · apply (@ih (nested + 1) _ rfl).longer
            simp only [List.length_cons]
            omega

theorem leaves_runApplied_invocation {args : List Token} {post : List Token → Prop}
    (h : IsArguments args) (name : String)
    (hpost : ∀ expr : Expr, Leaves room rest post
      (runApplied room (Call.argsParser (Level.withRoom room).expr) 0 expr rest)) :
    Leaves room (args ++ rest) post
      (runApplied room (Call.argsParser (Level.withRoom room).expr) 0 (.variable name)
        (args ++ rest)) := by
  rcases h.leaves room rest with ⟨inner, heq, hinner⟩
  rw [heq, runApplied]
  split
  · rename_i stuck herror
    rw [herror] at hinner
    have hdeep := hinner.2
    refine ⟨hinner.1, ?_⟩
    rw [List.length_cons]
    omega
  · rename_i values after hok
    have hlength := length_le hok
    rw [hok] at hinner
    obtain rfl : after = rest := hinner
    apply (hpost _).longer
    rw [List.length_cons]
    omega

/-- The loop takes the operators that bind tighter than the floor, with all that their operands take
in. -/
theorem leaves_runOperators {floor : Nat}
    {tighter : (op : BinaryOp) → floor < op.precedence → Parser Expr} {lhs : Expr}
    {others : List Token} (hrest : gripOf rest = 0)
    (htighter : ∀ (op : BinaryOp) (hop : floor < op.precedence) {more : List Token},
      Row .before more →
        Leaves room (more ++ rest) (Remains 10 rest) ((tighter op hop).run (more ++ rest)))
    (h : Row .behind others) (hgrip : gripOf others ≤ 10) (heq : others ++ rest = tokens) :
    Leaves (room - nested) tokens (Remains (floor + 1) rest)
      (runOperators room floor tighter nested lhs tokens) := by
  fun_induction runOperators room floor tighter nested lhs tokens generalizing others with
  | case1 nested lhs =>
      rw [(List.append_eq_nil_iff.mp heq).2]
      exact Remains.refl _ _
  | case2 nested lhs token after hnone =>
      cases h with
      | stop =>
          rw [← heq]
          exact Remains.refl _ _
      | property | method => exact absurd hgrip (by simp [gripOf, grip])
      | operator hop _ =>
          cases heq
          rw [hop] at hnone
          cases hnone
      | ternary hyes hno => exact ⟨_, heq.symm, .ternary hyes hno, Nat.le_add_left 1 floor⟩
      | elvis hno => exact ⟨_, heq.symm, .elvis hno, Nat.le_add_left 1 floor⟩
  | case3 nested lhs token after op hop hfloor hroom =>
      refine ⟨rfl, ?_⟩
      rw [List.length_cons]
      omega
  | case4 nested lhs token after op hop hfloor hroom stuck hreading =>
      rcases h.of_operator hrest hop heq with ⟨more, -, rfl, hmore⟩
      have hrhs := htighter op hfloor hmore
      rw [hreading] at hrhs
      have hdeep := hrhs.2
      refine ⟨hrhs.1, ?_⟩
      rw [List.length_cons]
      omega
  | case5 nested lhs token after op hop hfloor hroom rhs last hreading ih =>
      rcases h.of_operator hrest hop heq with ⟨more, -, rfl, hmore⟩
      have hlength := Parser.length_le hreading
      have hrhs := htighter op hfloor hmore
      rw [hreading] at hrhs
      rcases hrhs with ⟨left, rfl, hleft, hleftGrip⟩
      apply (ih hleft hleftGrip rfl).longer
      rw [List.length_cons]
      omega
  | case6 nested lhs token after op hop hfloor =>
      rcases h.of_operator hrest hop heq with ⟨more, rfl, -, -⟩
      refine ⟨_, heq.symm, h, ?_⟩
      rw [gripOf, grip_of_binaryOp? hop]
      omega

theorem leaves_binaryParser {operand : Parser Expr} {tokens : List Token} (hrest : gripOf rest = 0)
    (hoperand : ∀ {tokens : List Token}, Row .before tokens →
      Leaves room (tokens ++ rest) (Remains 10 rest) (operand.run (tokens ++ rest)))
    (floor : Nat) (h : Row .before tokens) :
    Leaves room (tokens ++ rest) (Remains (floor + 1) rest)
      ((binaryParser room operand floor).run (tokens ++ rest)) := by
  rw [binaryParser]
  refine (hoperand h).bind ?_
  rintro lhs _ ⟨others, rfl, hothers, hgrip⟩
  have htighter : ∀ (op : BinaryOp) (_ : floor < op.precedence) {more : List Token},
      Row .before more → Leaves room (more ++ rest) (Remains 10 rest)
        ((binaryParser room operand op.precedence).run (more ++ rest)) := by
    intro op hfloor more hmore
    have hle := op.precedence_le
    exact (leaves_binaryParser hrest hoperand op.precedence hmore).mono id
      fun _ hends => hends.mono (by omega)
  exact leaves_runOperators hrest htighter hothers hgrip rfl
termination_by 9 - floor
decreasing_by omega

theorem leaves_conditionalParser {operand expr : Parser Expr} (hrest : gripOf rest = 0)
    (hoperand : ∀ {tokens : List Token}, Row .before tokens →
      Leaves room (tokens ++ rest) (Remains 10 rest) (operand.run (tokens ++ rest)))
    (hexpr : ∀ {tokens rest : List Token}, Row .before tokens → gripOf rest = 0 →
      Leaves (room - 1) (tokens ++ rest) (· = rest) (expr.run (tokens ++ rest)))
    (h : Row .before tokens) :
    Leaves room (tokens ++ rest) (· = rest)
      ((conditionalParser room operand expr).run (tokens ++ rest)) := by
  unfold conditionalParser
  refine (leaves_binaryParser hrest hoperand 0 h).bind ?_
  rintro condition _ ⟨others, rfl, hothers, hgrip⟩
  cases hothers with
  | stop =>
      have hquestion : rest.head? ≠ some (.mark .question) :=
        head?_ne_of_gripOf (by rw [hrest]; decide)
      rw [List.nil_append, run_bind_ok (run_eat_of_ne hquestion)]
      rfl
  | property | method => exact absurd hgrip (by simp [gripOf, grip])
  | operator hop _ =>
      rename_i op _
      have hpos := op.precedence_pos
      rw [gripOf, grip_of_binaryOp? hop] at hgrip
      omega
  | @ternary yes no hyes hno =>
      rw [List.cons_append, List.append_assoc, List.cons_append, run_bind_ok (run_eat _ _)]
      refine Leaves.cons (?_ : Leaves (room - 1) _ _ _) _ (by omega)
      simp only [if_true]
      rw [run_bind_ok (run_peek _)]
      split
      · rename_i heq
        exact absurd heq (hyes.opens.head_ne rfl _)
      · refine (hexpr hyes rfl).bind ?_
        rintro yes _ rfl
        refine leaves_expect ?_
        refine (hexpr hno hrest).bind ?_
        rintro no _ rfl
        rfl
  | @elvis no hno =>
      rw [List.cons_append, List.cons_append, run_bind_ok (run_eat _ _)]
      refine Leaves.cons (?_ : Leaves (room - 1) _ _ _) _ (by omega)
      simp only [if_true]
      rw [run_bind_ok (run_peek _)]
      show Leaves _ _ _ ((skip >>= _).run (.mark .colon :: (no ++ rest)))
      rw [run_bind_ok (run_skip _ _)]
      refine Leaves.cons ?_ _ (Nat.le_succ _)
      refine (hexpr hno hrest).bind ?_
      rintro no _ rfl
      rfl

end Expr

/-!
# Levels
-/

namespace Level

open FluentStyle.Parser

variable {room : Nat} {tokens rest : List Token}

theorem run_unary_of_unaryOp?_eq_none {token : Token} (h : token.unaryOp? = none)
    (more : List Token) :
    (withRoom room).unary.run (token :: more) =
      (Expr.primaryParser (withRoom room).expr (withRoom room).block >>=
        Expr.appliedParser room (Call.argsParser (withRoom room).expr)).run (token :: more) := by
  have hunary : ∀ inner : Option Level, (unaryParser room inner).run (token :: more) =
      (Expr.primaryParser (exprParser room inner) (blockParser inner) >>=
        Expr.appliedParser room (Call.argsParser (exprParser room inner))).run
          (token :: more) := by
    intro inner
    unfold unaryParser
    rw [run_bind_ok (run_peek _), List.head?_cons, Option.bind_some, h]
  cases room with
  | zero => exact hunary none
  | succ room => exact hunary (some (withRoom room))

/-- The readers of a level take rows: that of operands to an end of the row, that of whole
expressions all of it. -/
structure Takes (room : Nat) : Prop where
  unary : ∀ {tokens rest : List Token}, Row .before tokens → gripOf rest = 0 →
    Leaves room (tokens ++ rest) (Remains 10 rest) ((withRoom room).unary.run (tokens ++ rest))
  expr : ∀ {tokens rest : List Token}, Row .before tokens → gripOf rest = 0 →
    Leaves (room - 1) (tokens ++ rest) (· = rest) ((withRoom room).expr.run (tokens ++ rest))

theorem leaves_signed (op : UnaryOp)
    (h : ∀ inner : Nat, room = inner + 1 → Leaves inner (tokens ++ rest) (Remains 10 rest)
      ((withRoom inner).unary.run (tokens ++ rest))) :
    Leaves room (op.token :: (tokens ++ rest)) (Remains 10 rest)
      ((withRoom room).unary.run (op.token :: (tokens ++ rest))) := by
  have hop : (some op.token).bind Token.unaryOp? = some op := by cases op <;> rfl
  cases room with
  | zero =>
      show Leaves _ _ _ ((unaryParser 0 none).run _)
      unfold unaryParser
      rw [run_bind_ok (run_peek _), List.head?_cons, hop]
      exact ⟨rfl, Nat.zero_le _⟩
  | succ room =>
      show Leaves _ _ _ ((unaryParser (room + 1) (some (withRoom room))).run _)
      unfold unaryParser
      rw [run_bind_ok (run_peek _), List.head?_cons, hop]
      show Leaves _ _ _ ((skip >>= _).run (op.token :: (tokens ++ rest)))
      rw [run_bind_ok (run_skip _ _)]
      refine Leaves.cons ?_ _ (Nat.le_refl _)
      exact (h room rfl).map _

theorem leaves_arrow {params body : List Token} (hparams : IsParameters params)
    (hbody : Leaves (room - 1) (body ++ rest) (· = rest)
      ((withRoom room).expr.run (body ++ rest)))
    (hrest : gripOf rest = 0) :
    Leaves room (.name "fn" :: (params ++ .mark .fatArrow :: (body ++ rest))) (Remains 10 rest)
      ((withRoom room).unary.run
        (.name "fn" :: (params ++ .mark .fatArrow :: (body ++ rest)))) := by
  rw [run_unary_of_unaryOp?_eq_none rfl]
  refine Leaves.bind (?_ : Leaves _ _ (· = rest) _) ?_
  · unfold Expr.primaryParser
    rw [run_bind_ok (run_peek _)]
    show Leaves _ _ _ ((skip >>= _).run (.name "fn" :: _))
    rw [run_bind_ok (run_skip _ _)]
    refine Leaves.cons (?_ : Leaves (room - 1) _ _ _) _ (by omega)
    refine Leaves.bind (?_ : Leaves _ _ (· = rest) _) ?_
    · refine (hparams _ _).bind ?_
      rintro found _ rfl
      refine leaves_expect ?_
      exact hbody.map _
    · rintro closure _ rfl
      rfl
  · rintro closure _ rfl
    show Leaves _ _ _ (Expr.runApplied _ _ _ _ _)
    rw [Expr.runApplied_stop (by omega)]
    exact Remains.refl 10 _

theorem leaves_unary (hexpr : ∀ {tokens rest : List Token}, Row .before tokens →
      gripOf rest = 0 →
        Leaves (room - 1) (tokens ++ rest) (· = rest) ((withRoom room).expr.run (tokens ++ rest)))
    (hinner : ∀ inner : Nat, room = inner + 1 → Takes inner) (h : Row .before tokens)
    (hrest : gripOf rest = 0) :
    Leaves room (tokens ++ rest) (Remains 10 rest)
      ((withRoom room).unary.run (tokens ++ rest)) := by
  cases h with
  | operand h hothers =>
      rw [List.append_assoc]
      exact h.leaves (hothers.gripOf_append_lt hrest) fun expr =>
        Expr.leaves_runApplied hothers hrest
  | signed op h =>
      exact leaves_signed op fun inner hroom => (hinner inner hroom).unary h hrest
  | arrow hparams hbody =>
      rw [List.cons_append, List.append_assoc, List.cons_append]
      exact leaves_arrow hparams (hexpr hbody hrest) hrest

theorem takes (room : Nat) : Takes room := by
  induction room with
  | zero =>
      have hexpr : ∀ {tokens rest : List Token}, Row .before tokens → gripOf rest = 0 →
          Leaves (0 - 1) (tokens ++ rest) (· = rest) ((withRoom 0).expr.run (tokens ++ rest)) :=
        fun _ _ => ⟨rfl, Nat.zero_le _⟩
      exact ⟨leaves_unary hexpr (by rintro inner ⟨⟩), hexpr⟩
  | succ room ih =>
      have hexpr : ∀ {tokens rest : List Token}, Row .before tokens → gripOf rest = 0 →
          Leaves (room + 1 - 1) (tokens ++ rest) (· = rest)
            ((withRoom (room + 1)).expr.run (tokens ++ rest)) :=
        fun h hrest => Expr.leaves_conditionalParser hrest (fun h => ih.unary h hrest) ih.expr h
      refine ⟨leaves_unary hexpr ?_, hexpr⟩
      rintro inner ⟨⟩
      exact ih

end Level

end FluentStyle
