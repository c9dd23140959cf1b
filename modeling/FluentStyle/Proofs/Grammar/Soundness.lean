import FluentStyle.Proofs.Grammar.Inversion
import FluentStyle.Grammar.Source

/-!
# What is read is readable

Every reader gives trees that are readable, and the tokens it leaves would not have been taken in by
the tree.  The two loops keep count of how often they went round, and this count is the number of
accesses and of operators of the tree made so far.
-/

namespace FluentStyle

/-!
# Where reading ends

What is not an operator is one of two marks, takes no hold or is read with an expression.  What
would take hold of a whole expression is the question mark.
-/

namespace Token

/-- What comes next takes hold of an expression in front of it no more firmly than given, or so
firmly that no reader goes on with it. -/
def Ends (firmness : Nat) (rest : List Token) : Prop :=
  gripOf rest ≤ firmness ∨ 15 ≤ gripOf rest

theorem Ends.mono {firmness firmer : Nat} {rest : List Token} (h : Ends firmness rest)
    (hle : firmness ≤ firmer) : Ends firmer rest :=
  h.imp_left fun hgrip => Nat.le_trans hgrip hle

theorem grip_of_binaryOp?_eq_none {token : Token} (h : token.binaryOp? = none) :
    token = .mark .question ∨ token = .mark .arrow ∨ token.grip = 0 ∨ 15 ≤ token.grip := by
  cases token with
  | name text =>
      right
      right
      left
      simp only [grip, h]
  | operator op => cases h
  | opening bracket => cases bracket <;> simp [grip, binaryOp?]
  | mark m => cases m <;> simp [grip, binaryOp?]
  | _ => exact Or.inr (Or.inr (Or.inl rfl))

theorem ends_of_ne_arrow {rest : List Token} (h : rest.head? ≠ some (.mark .arrow)) :
    Ends 10 rest := by
  cases rest with
  | nil => exact Or.inl (Nat.zero_le _)
  | cons token rest =>
      show token.grip ≤ 10 ∨ 15 ≤ token.grip
      cases hop : token.binaryOp? with
      | some op =>
          left
          rw [grip_of_binaryOp? hop]
          exact Nat.succ_le_succ op.precedence_le
      | none =>
          rcases grip_of_binaryOp?_eq_none hop with rfl | rfl | hgrip
          · left
            decide
          · exact absurd rfl h
          · omega

theorem ends_of_ne_question {rest : List Token} (h : Ends 1 rest)
    (hne : rest.head? ≠ some (.mark .question)) : Ends 0 rest := by
  cases rest with
  | nil => exact Or.inl (Nat.le_refl 0)
  | cons token rest =>
      have hends : token.grip ≤ 1 ∨ 15 ≤ token.grip := h
      show token.grip ≤ 0 ∨ 15 ≤ token.grip
      cases hop : token.binaryOp? with
      | some op =>
          have hpos := op.precedence_pos
          have hgrip := grip_of_binaryOp? hop
          omega
      | none =>
          rcases grip_of_binaryOp?_eq_none hop with rfl | rfl | hgrip
          · exact absurd rfl hne
          · exact absurd hends (by decide)
          · omega

end Token

/-- Whatever the reader gives from spelled tokens, and the tokens that it leaves, are of a kind. -/
def Parser.Gives {α : Type} (p : Parser α) (post : α → List Token → Prop) : Prop :=
  ∀ ⦃tokens rest : List Token⦄ ⦃a : α⦄, Token.Spelled tokens → p.run tokens = .ok (a, rest) →
    post a rest

namespace Expr

/-- A whole expression that was read with the given room around it. -/
structure IsWhole (room : Nat) (expr : Expr) (rest : List Token) : Prop where
  readable : expr.Readable
  nesting : expr.nesting < room
  ends : Token.Ends 0 rest

/-- An expression that was read up to the operators that bind no tighter than the floor. -/
structure IsOperand (room floor : Nat) (expr : Expr) (rest : List Token) : Prop where
  readable : expr.Readable
  nesting : expr.nesting ≤ room
  strength : floor < expr.strength
  ends : Token.Ends (floor + 1) rest
  closed : expr.isOpen = true → Token.Ends 0 rest

/-- An expression behind which accesses and calls may follow. -/
structure IsApplied (room nested : Nat) (expr : Expr) (rest : List Token) : Prop where
  readable : expr.Readable
  nesting : expr.nesting ≤ room
  strength : 11 ≤ expr.strength
  accesses : expr.accesses = nested
  closed : expr.isOpen = true → Token.Ends 0 rest

theorem isOpen_eq_false_of_grip {expr : Expr} {tokens : List Token}
    (closed : expr.isOpen = true → Token.Ends 0 tokens) (hpos : 0 < Token.gripOf tokens)
    (hlt : Token.gripOf tokens < 15) : expr.isOpen = false := by
  rw [← Bool.not_eq_true]
  intro hopen
  rcases closed hopen with hle | hge <;> omega

theorem IsApplied.of_closed {room nested : Nat} {expr : Expr} {rest : List Token}
    (hreadable : expr.Readable) (hnesting : expr.nesting ≤ room) (hstrength : 11 ≤ expr.strength)
    (haccesses : expr.accesses = nested) (hclosed : expr.isOpen = false) :
    IsApplied room nested expr rest :=
  ⟨hreadable, hnesting, hstrength, haccesses,
    fun hopen => Bool.noConfusion (hclosed.symm.trans hopen)⟩

theorem IsApplied.of_isLeaf {expr : Expr} (room : Nat) (rest : List Token)
    (hleaf : expr.isLeaf = true) (hspelled : expr.isSpelled = true) :
    IsApplied room 0 expr rest := by
  cases expr with
  | array _ | closure _ | chain _ | property _ _ | unary _ _ | binary _ _ _ | ternary _ _ _
  | elvis _ _ | group _ => cases hleaf
  | _ =>
      exact IsApplied.of_closed
        (readable_iff.mpr ⟨⟨hspelled, True.intro, True.intro⟩, List.forall_mem_nil _⟩)
        (Nat.zero_le _) (Nat.le_succ 11) rfl rfl

end Expr

/-!
# Parameters and captured variables
-/

section Names

variable {tokens rest : List Token}

theorem Param.isSpelled_of_read {param : Param} (spelled : Token.Spelled tokens)
    (h : parser.run tokens = .ok (param, rest)) : param.isSpelled = true := by
  cases read_of_run h with
  | untyped name => simp only [isSpelled, spelled.head, Option.all_none, Bool.and_self]
  | typed type name =>
      simp only [isSpelled, spelled.head, spelled.tail.head, Option.all_some, Bool.and_self]
  | nullable type name =>
      simp only [isSpelled, spelled.tail.head, spelled.tail.tail.head, Option.all_some,
        Bool.and_self]

theorem Param.all_isSpelled_of_listParser {params : List Param} (spelled : Token.Spelled tokens)
    (h : listParser.run tokens = .ok (params, rest)) : params.all Param.isSpelled = true := by
  rcases listParser_eq_ok h with ⟨inside, rfl, hlist⟩
  exact List.all_eq_true.mpr
    (Parser.forall_mem_of_runList Param.isSpelled_of_read spelled.tail hlist)

theorem Capture.isSpelled_of_read {capture : Capture} (spelled : Token.Spelled tokens)
    (h : parser.run tokens = .ok (capture, rest)) : capture.isSpelled = true := by
  cases read_of_run h with
  | byValue name => exact spelled.head
  | byReference name => exact spelled.tail.head

theorem Capture.all_isSpelled_of_listParser {captures : List Capture}
    (spelled : Token.Spelled tokens) (h : listParser.run tokens = .ok (captures, rest)) :
    captures.all Capture.isSpelled = true := by
  cases listRead_of_run h with
  | none => rfl
  | clause hlist =>
      exact List.all_eq_true.mpr
        (Parser.forall_mem_of_runList Capture.isSpelled_of_read spelled.tail.tail hlist)

end Names

/-!
# Arguments and array elements
-/

theorem Call.gives_argsParser {room : Nat} {expr : Parser Expr}
    (hexpr : expr.Gives (Expr.IsWhole room)) :
    (argsParser expr).Gives fun args _ =>
      (∀ arg ∈ args, arg.Readable) ∧ Expr.nestingAll args ≤ room := by
  intro tokens rest args spelled h
  have hargs : ∀ arg ∈ args, arg.Readable ∧ arg.nesting + 1 ≤ room := by
    refine Parser.forall_mem_of_runList ?_ spelled (Parser.closed_eq_ok h)
    intro tokens rest arg hspelled hrun
    have harg := hexpr hspelled hrun
    exact ⟨harg.readable, harg.nesting⟩
  exact ⟨fun arg harg => (hargs arg harg).1,
    Expr.nestingAll_le_iff.mpr fun arg harg => (hargs arg harg).2⟩

theorem ArrayItem.gives_element {room : Nat} {expr : Parser Expr}
    (hexpr : expr.Gives (Expr.IsWhole room)) :
    (parser expr).Gives fun item _ =>
      ∀ child ∈ item.children, child.Readable ∧ child.nesting + 1 ≤ room := by
  intro tokens rest item spelled h
  cases read_of_run h with
  | value hvalue =>
      have hwhole := hexpr spelled hvalue
      exact List.forall_mem_singleton.mpr ⟨hwhole.readable, hwhole.nesting⟩
  | pair hkey hvalue =>
      have hfirst := hexpr spelled hkey
      have hsecond := hexpr (Parser.Spelled.run spelled hkey).tail hvalue
      exact List.forall_mem_cons.mpr
        ⟨⟨hfirst.readable, hfirst.nesting⟩,
          List.forall_mem_singleton.mpr ⟨hsecond.readable, hsecond.nesting⟩⟩

/-!
# Primary expressions

An arrow function goes on as long as its body does.  A call of a function has a name or is of a
variable.
-/

structure Stmt.IsBlock (room : Nat) (stmts : List Stmt) : Prop where
  spelled : Stmt.isSpelled stmts = true
  readable : ∀ child ∈ Stmt.children stmts, child.Readable
  nesting : Stmt.nesting stmts < room

namespace Expr

variable {room : Nat} {rest : List Token}

theorem IsApplied.array {items : List ArrayItem}
    (h : ∀ item ∈ items, ∀ child ∈ item.children, child.Readable ∧ child.nesting + 1 ≤ room) :
    IsApplied room 0 (.array items) rest := by
  have hchildren : ∀ child ∈ (Expr.array items).children, child.Readable := by
    intro child hchild
    rcases List.mem_flatMap.mp hchild with ⟨item, hitem, hmem⟩
    exact (h item hitem child hmem).1
  refine IsApplied.of_closed (readable_iff.mpr ⟨⟨rfl, True.intro, True.intro⟩, hchildren⟩) ?_
    (Nat.le_succ 11) rfl rfl
  rw [Expr.nesting]
  exact ArrayItem.nesting_le_iff.mpr fun item hitem child hchild => (h item hitem child hchild).2

theorem IsApplied.group {inner : Expr} {after : List Token} (h : IsWhole room inner after) :
    IsApplied room 0 (.group inner) rest := by
  have hreadable : (Expr.group inner).Readable := readable_iff.mpr
    ⟨⟨rfl, True.intro, True.intro⟩, List.forall_mem_singleton.mpr h.readable⟩
  exact IsApplied.of_closed hreadable h.nesting (Nat.le_succ 11) rfl rfl

theorem IsApplied.arrow {params : List Param} {body : Expr}
    (hparams : params.all Param.isSpelled = true) (h : IsWhole room body rest) :
    IsApplied room 0 (.closure (.arrow params body)) rest := by
  refine ⟨readable_iff.mpr ⟨⟨hparams, True.intro, True.intro⟩, ?_⟩, ?_, Nat.le_succ 11, rfl,
    fun _ => h.ends⟩
  · exact List.forall_mem_singleton.mpr h.readable
  · rw [Expr.nesting]
    exact h.nesting

theorem IsApplied.block {params : List Param} {captures : List Capture} {body : List Stmt}
    (hparams : params.all Param.isSpelled = true)
    (hcaptures : captures.all Capture.isSpelled = true) (h : Stmt.IsBlock room body) :
    IsApplied room 0 (.closure (.block params captures body)) rest := by
  refine IsApplied.of_closed (readable_iff.mpr ⟨⟨?_, True.intro, True.intro⟩, h.readable⟩) ?_
    (Nat.le_succ 11) rfl rfl
  · simp only [isSpelled, hparams, hcaptures, h.spelled, Bool.and_self]
  · rw [Expr.nesting]
    exact h.nesting

variable {args : List Expr}

theorem IsApplied.staticCall {className member : String} (hname : isHead className = true)
    (hmember : (Token.name member).isSpelled = true) (hargs : ∀ arg ∈ args, arg.Readable)
    (hnesting : nestingAll args ≤ room) :
    IsApplied room 0 (.chain ⟨.static className, ⟨member, args⟩, []⟩) rest := by
  have hchildren : ∀ child ∈ (Expr.chain ⟨.static className, ⟨member, args⟩, []⟩).children,
      child.Readable := List.forall_mem_append.mpr ⟨hargs, List.forall_mem_nil _⟩
  refine IsApplied.of_closed (readable_iff.mpr ⟨⟨?_, True.intro, True.intro⟩, hchildren⟩)
    (Nat.max_le.mpr ⟨hnesting, Nat.zero_le _⟩) (Nat.le_refl 11) rfl rfl
  simp only [isSpelled, Chain.isSpelled, Call.isSpelled, hname, hmember, List.all_nil,
    Bool.and_self]

theorem IsApplied.function {name : String}
    (hname : ((Token.variable name).isSpelled || isHead name) = true)
    (hargs : ∀ arg ∈ args, arg.Readable) (hnesting : nestingAll args ≤ room) :
    IsApplied room 0 (.chain ⟨.function, ⟨name, args⟩, []⟩) rest := by
  have hchildren : ∀ child ∈ (Expr.chain ⟨.function, ⟨name, args⟩, []⟩).children,
      child.Readable := List.forall_mem_append.mpr ⟨hargs, List.forall_mem_nil _⟩
  refine IsApplied.of_closed (readable_iff.mpr ⟨⟨?_, True.intro, True.intro⟩, hchildren⟩)
    (Nat.max_le.mpr ⟨hnesting, Nat.zero_le _⟩) (Nat.le_refl 11) rfl rfl
  simp only [isSpelled, Chain.isSpelled, hname, List.all_nil, Bool.and_self]

theorem gives_primaryParser {expr : Parser Expr} {block : Parser (List Stmt)}
    (hexpr : expr.Gives (IsWhole room))
    (hblock : block.Gives fun stmts _ => Stmt.IsBlock room stmts) :
    (primaryParser expr block).Gives (IsApplied room 0) := by
  intro tokens rest result spelled h
  have hargs := Call.gives_argsParser hexpr
  cases primaryRead_of_run h with
  | literal raw | number raw | bareVariable name =>
    exact IsApplied.of_isLeaf room _ rfl spelled.head
  | array hlist =>
      exact .array (Parser.forall_mem_of_runList
        (fun hspelled hrun => ArrayItem.gives_element hexpr hspelled hrun) spelled.tail hlist)
  | group hinner => exact .group (hexpr spelled.tail hinner)
  | arrow hparams hbody =>
      have hspelled := Parser.Spelled.run spelled.tail hparams
      exact .arrow (Param.all_isSpelled_of_listParser spelled.tail hparams)
        (hexpr hspelled.tail hbody)
  | block hparams hcaptures hbody =>
      have hspelled := Parser.Spelled.run spelled.tail hparams
      have hstmts := hblock (Parser.Spelled.run hspelled hcaptures) hbody
      exact .block (Param.all_isSpelled_of_listParser spelled.tail hparams)
        (Capture.all_isSpelled_of_listParser hspelled hcaptures) hstmts
  | staticCall className member hname hvalues =>
      rcases hargs spelled.tail.tail.tail.tail hvalues with ⟨hreadable, hnesting⟩
      exact .staticCall (isHead_iff.mpr ⟨spelled.head, hname⟩) spelled.tail.tail.head hreadable
        hnesting
  | classConstant className member hname =>
      apply IsApplied.of_isLeaf room _ rfl
      simp only [isSpelled, isHead_iff.mpr ⟨spelled.head, hname⟩, spelled.tail.tail.head,
        Bool.and_self]
  | call name hname hvalues =>
      rcases hargs spelled.tail.tail hvalues with ⟨hreadable, hnesting⟩
      have hhead := isHead_iff.mpr ⟨spelled.head, hname⟩
      exact .function (by rw [hhead, Bool.or_true]) hreadable hnesting
  | constant name hname =>
      exact IsApplied.of_isLeaf room _ rfl (isHead_iff.mpr ⟨spelled.head, hname⟩)

/-!
# Accesses and calls
-/

section Applied

variable {nested : Nat} {tokens after : List Token} {member : String} {values : List Expr}

theorem IsApplied.isOpen_eq_false {object : Expr}
    (h : IsApplied room nested object (.mark .arrow :: tokens)) : object.isOpen = false :=
  isOpen_eq_false_of_grip h.closed (Nat.succ_pos 13) (Token.gripOf_arrow_lt tokens)

theorem IsApplied.call {chain : Chain} (h : IsApplied room nested (.chain chain) tokens)
    (hmember : (Token.name member).isSpelled = true) (hvalues : ∀ value ∈ values, value.Readable)
    (hnesting : nestingAll values ≤ room) :
    IsApplied room nested (.chain (chain.extend [⟨member, values⟩])) after := by
  rcases readable_iff.mp h.readable with ⟨⟨hspelled, hgrouped, hclosed⟩, hchildren⟩
  have hlonger : (Expr.chain (chain.extend [⟨member, values⟩])).Readable := by
    refine readable_iff.mpr ⟨⟨?_, ?_, ?_⟩, ?_⟩
    · show (chain.extend [⟨member, values⟩]).isSpelled = true
      rw [Chain.isSpelled_extend, Bool.and_eq_true, List.all_cons, Bool.and_eq_true]
      exact ⟨hspelled, hmember, rfl⟩
    · exact chain.grouped_extend _ ▸ hgrouped
    · exact chain.closed_extend _ ▸ hclosed
    · show ∀ child ∈ (chain.extend [⟨member, values⟩]).children, child.Readable
      rw [Chain.children_extend, List.flatMap_singleton]
      exact List.forall_mem_append.mpr ⟨hchildren, hvalues⟩
  refine IsApplied.of_closed hlonger ?_ (Nat.le_refl 11) ?_ rfl
  · rw [Chain.nesting_extend, Call.nesting_singleton, Nat.max_le]
    exact ⟨h.nesting, hnesting⟩
  · rw [Chain.accesses_extend]
    exact h.accesses

theorem IsApplied.access {object : Expr}
    (h : IsApplied room nested object (.mark .arrow :: tokens))
    (hmember : (Token.name member).isSpelled = true) (hroom : nested + 2 ≤ room) :
    IsApplied room (nested + 1) (.property object member) after := by
  have hreadable : (Expr.property object member).Readable := readable_iff.mpr
    ⟨⟨hmember, h.strength, h.isOpen_eq_false⟩, List.forall_mem_singleton.mpr h.readable⟩
  refine IsApplied.of_closed hreadable ?_ (Nat.le_succ 11) ?_ rfl
  · rw [Expr.nesting, h.accesses]
    exact Nat.max_le.mpr ⟨hroom, h.nesting⟩
  · rw [Expr.accesses, h.accesses]

theorem strength_of_not_chain {object : Expr} (h : 11 ≤ object.strength)
    (hchain : ∀ chain : Chain, object ≠ .chain chain) : 12 ≤ object.strength := by
  cases object with
  | chain c => exact absurd rfl (hchain c)
  | binary op lhs rhs =>
      have hle := op.precedence_le
      have hprecedence : 11 ≤ op.precedence := h
      omega
  | unary op operand => exact absurd h (by simp [strength])
  | ternary condition yes no => exact absurd h (by simp [strength])
  | elvis condition no => exact absurd h (by simp [strength])
  | _ => exact Nat.le_refl 12

theorem IsApplied.start {object : Expr}
    (h : IsApplied room nested object (.mark .arrow :: tokens))
    (hchain : ∀ chain : Chain, object ≠ .chain chain)
    (hmember : (Token.name member).isSpelled = true) (hvalues : ∀ value ∈ values, value.Readable)
    (hnesting : nestingAll values ≤ room) (hroom : nested + 2 ≤ room) :
    IsApplied room (nested + 1) (.chain ⟨.receiver object, ⟨member, values⟩, []⟩) after := by
  have hspelled : (Expr.chain ⟨.receiver object, ⟨member, values⟩, []⟩).isSpelled = true := by
    simp only [isSpelled, Chain.isSpelled, Call.isSpelled, hmember, List.all_nil, Bool.and_self]
  have hchildren : ∀ child ∈ (Expr.chain ⟨.receiver object, ⟨member, values⟩, []⟩).children,
      child.Readable :=
    List.forall_mem_cons.mpr
      ⟨h.readable, List.forall_mem_append.mpr ⟨hvalues, List.forall_mem_nil _⟩⟩
  have hgrouped : 12 ≤ object.strength := strength_of_not_chain h.strength hchain
  refine IsApplied.of_closed
    (readable_iff.mpr ⟨⟨hspelled, hgrouped, h.isOpen_eq_false⟩, hchildren⟩) ?_ (Nat.le_refl 11) ?_
    rfl
  · rw [Expr.nesting, h.accesses]
    exact Nat.max_le.mpr
      ⟨Nat.max_le.mpr ⟨hroom, h.nesting⟩, Nat.max_le.mpr ⟨hnesting, Nat.zero_le _⟩⟩
  · rw [Expr.accesses, h.accesses]

theorem IsApplied.variable {name : String} (h : IsApplied room nested (.variable name) tokens)
    (hvalues : ∀ value ∈ values, value.Readable) (hnesting : nestingAll values ≤ room) :
    IsApplied room nested (.chain ⟨.function, ⟨name, values⟩, []⟩) after := by
  have hname : (Token.variable name).isSpelled = true := (readable_iff.mp h.readable).1.1
  have hcall : IsApplied room 0 (.chain ⟨.function, ⟨name, values⟩, []⟩) after :=
    .function (by rw [hname, Bool.true_or]) hvalues hnesting
  exact { hcall with accesses := h.accesses }

/-- Every round of the loop keeps what is known of the expression, up to the end. -/
theorem isOperand_of_runApplied {args : Parser (List Expr)} {expr result : Expr}
    {rest : List Token}
    (hargs : args.Gives fun values _ =>
      (∀ value ∈ values, value.Readable) ∧ nestingAll values ≤ room)
    (spelled : Token.Spelled tokens) (h : IsApplied room nested expr tokens)
    (hrun : runApplied room args nested expr tokens = .ok (result, rest)) :
    IsOperand room 9 result rest := by
  have hend : ∀ {nested : Nat} {expr : Expr} {tokens : List Token},
      IsApplied room nested expr tokens → tokens.head? ≠ some (.mark .arrow) →
        IsOperand room 9 expr tokens :=
    fun h hne => ⟨h.readable, h.nesting, Nat.lt_of_lt_of_le (by decide) h.strength,
      Token.ends_of_ne_arrow hne, h.closed⟩
  fun_induction runApplied room args nested expr tokens with
  | case1 | case3 | case5 | case7 | case8 => cases hrun
  | case2 nested member after values last hreading chain ih =>
      rcases hargs spelled.tail.tail.tail hreading with ⟨hvalues, hnesting⟩
      have hlast := Parser.Spelled.run spelled.tail.tail.tail hreading
      exact ih hlast (h.call spelled.tail.head hvalues hnesting) hrun
  | case4 nested member after values last hreading object hchain hroom ih =>
      rcases hargs spelled.tail.tail.tail hreading with ⟨hvalues, hnesting⟩
      have hlast := Parser.Spelled.run spelled.tail.tail.tail hreading
      exact ih hlast
        (h.start hchain spelled.tail.head hvalues hnesting (Nat.lt_of_not_le hroom)) hrun
  | case6 nested object member after hcall hroom ih =>
      exact ih spelled.tail.tail (h.access spelled.tail.head (Nat.lt_of_not_le hroom)) hrun
  | case9 nested after name values last hreading ih =>
      rcases hargs spelled.tail hreading with ⟨hvalues, hnesting⟩
      have hlast := Parser.Spelled.run spelled.tail hreading
      exact ih hlast (h.variable hvalues hnesting) hrun
  | case10 nested after expr hvariable =>
      cases hrun
      exact hend h (by simp)
  | case11 nested expr tokens hcall haccess harrow hround =>
      cases hrun
      refine hend h ?_
      intro hhead
      rcases List.head?_eq_some_iff.mp hhead with ⟨after, rfl⟩
      exact harrow after rfl

end Applied

/-!
# Operators
-/

/-- Every round of the loop makes a larger left operand, which no operator that binds tighter
follows. -/
theorem isOperand_of_runOperators {floor nested : Nat}
    {tighter : (op : BinaryOp) → floor < op.precedence → Parser Expr} {lhs result : Expr}
    {tokens rest : List Token}
    (htighter : ∀ (op : BinaryOp) (h : floor < op.precedence),
      (tighter op h).Gives (IsOperand room op.precedence))
    (spelled : Token.Spelled tokens) (readable : lhs.Readable) (hnesting : lhs.nesting ≤ room)
    (hstrength : floor < lhs.strength) (ends : Token.Ends (lhs.strength + 1) tokens)
    (closed : lhs.isOpen = true → Token.Ends 0 tokens) (hnested : lhs.operators = nested)
    (hrun : runOperators room floor tighter nested lhs tokens = .ok (result, rest)) :
    IsOperand room floor result rest := by
  fun_induction runOperators room floor tighter nested lhs tokens with
  | case3 | case4 => cases hrun
  | case1 nested lhs =>
      cases hrun
      exact ⟨readable, hnesting, hstrength, Or.inl (Nat.zero_le _), closed⟩
  | case2 nested lhs token after hnone =>
      have hle := lhs.strength_le
      have hends : token.grip ≤ lhs.strength + 1 ∨ 15 ≤ token.grip := ends
      have hgrip : token.grip ≤ 1 ∨ 14 ≤ token.grip := by
        rcases Token.grip_of_binaryOp?_eq_none hnone with rfl | rfl | h
        · exact Or.inl (Nat.le_refl 1)
        · exact Or.inr (Nat.le_refl 14)
        · omega
      cases hrun
      refine ⟨readable, hnesting, hstrength, ?_, closed⟩
      show token.grip ≤ floor + 1 ∨ 15 ≤ token.grip
      omega
  | case6 nested lhs token after op hsome hfloor =>
      cases hrun
      refine ⟨readable, hnesting, hstrength, Or.inl ?_, closed⟩
      show token.grip ≤ floor + 1
      rw [Token.grip_of_binaryOp? hsome]
      omega
  | case5 nested lhs token after op hsome hfloor hroom rhs last hreading ih =>
      have hrhs := htighter op hfloor spelled.tail hreading
      have hle := op.precedence_le
      have hgrip : Token.gripOf (token :: after) = op.precedence + 1 :=
        Token.grip_of_binaryOp? hsome
      have hgrouped : op.precedence ≤ lhs.strength ∧ op.precedence < rhs.strength :=
        ⟨by rcases ends with h | h <;> omega, hrhs.strength⟩
      have hclosed : lhs.isOpen = false :=
        isOpen_eq_false_of_grip closed (by omega) (by omega)
      have hchildren : ∀ child ∈ (Expr.binary op lhs rhs).children, child.Readable :=
        List.forall_mem_cons.mpr ⟨readable, List.forall_mem_singleton.mpr hrhs.readable⟩
      have hbinary : (Expr.binary op lhs rhs).nesting ≤ room := by
        rw [Expr.nesting, hnested, Nat.max_le, Nat.max_le]
        exact ⟨Nat.lt_of_not_le hroom, hnesting, hrhs.nesting⟩
      exact ih (Parser.Spelled.run spelled.tail hreading)
        (readable_iff.mpr ⟨⟨rfl, hgrouped, hclosed⟩, hchildren⟩) hbinary hfloor hrhs.ends
        hrhs.closed (congrArg (· + 1) hnested) hrun

theorem gives_binaryParser {operand : Parser Expr} (hoperand : operand.Gives (IsOperand room 9))
    {floor : Nat} (hfloor : floor ≤ 9) :
    (binaryParser room operand floor).Gives (IsOperand room floor) := by
  intro tokens rest result spelled h
  rw [binaryParser] at h
  rcases Parser.bind_eq_ok h with ⟨lhs, between, hlhs, hloop⟩
  have hleft := hoperand spelled hlhs
  have hstrength := hleft.strength
  refine isOperand_of_runOperators ?_ (Parser.Spelled.run spelled hlhs) hleft.readable
    hleft.nesting (by omega) (hleft.ends.mono (by omega)) hleft.closed
    (operators_eq_zero hstrength) hloop
  intro op hop
  exact gives_binaryParser hoperand op.precedence_le
termination_by 9 - floor
decreasing_by
  have hle := op.precedence_le
  omega

theorem gives_conditionalParser {operand expr : Parser Expr}
    (hoperand : operand.Gives (IsOperand room 9)) (hexpr : expr.Gives (IsWhole room)) :
    (conditionalParser room operand expr).Gives (IsWhole (room + 1)) := by
  intro tokens rest result spelled h
  have hbinary : (binaryParser room operand 0).Gives (IsOperand room 0) :=
    gives_binaryParser hoperand (Nat.zero_le 9)
  have hclosed : ∀ {condition : Expr} {after : List Token},
      IsOperand room 0 condition (.mark .question :: after) → condition.isOpen = false :=
    fun h => isOpen_eq_false_of_grip h.closed (Nat.succ_pos 0) (show 1 < 15 by decide)
  cases wholeRead_of_run h with
  | operation hrun hne =>
      have hfirst := hbinary spelled hrun
      exact ⟨hfirst.readable, Nat.lt_succ_of_le hfirst.nesting,
        Token.ends_of_ne_question hfirst.ends hne⟩
  | ternary hrun hyes hno =>
      have hfirst := hbinary spelled hrun
      have hspelled := (Parser.Spelled.run spelled hrun).tail
      have hmiddle := hexpr hspelled hyes
      have hlast := hexpr (Parser.Spelled.run hspelled hyes).tail hno
      refine ⟨readable_iff.mpr ⟨⟨rfl, hfirst.strength, hclosed hfirst⟩, ?_⟩, ?_, hlast.ends⟩
      · exact List.forall_mem_cons.mpr ⟨hfirst.readable,
          List.forall_mem_cons.mpr ⟨hmiddle.readable, List.forall_mem_singleton.mpr hlast.readable⟩⟩
      · rw [Expr.nesting]
        exact Nat.lt_succ_of_le (Nat.max_le.mpr
          ⟨hfirst.nesting, Nat.max_le.mpr ⟨hmiddle.nesting, hlast.nesting⟩⟩)
  | elvis hrun hno =>
      have hfirst := hbinary spelled hrun
      have hlast := hexpr (Parser.Spelled.run spelled hrun).tail.tail hno
      refine ⟨readable_iff.mpr ⟨⟨rfl, hfirst.strength, hclosed hfirst⟩, ?_⟩, ?_, hlast.ends⟩
      · exact List.forall_mem_cons.mpr
          ⟨hfirst.readable, List.forall_mem_singleton.mpr hlast.readable⟩
      · rw [Expr.nesting]
        exact Nat.lt_succ_of_le (Nat.max_le.mpr ⟨hfirst.nesting, hlast.nesting⟩)

end Expr

/-!
# Statements
-/

namespace Stmt

variable {room : Nat} {expr : Parser Expr} {block : Parser (List Stmt)}

theorem isSpelled_cons (stmt : Stmt) (stmts : List Stmt) :
    isSpelled (stmt :: stmts) = (isSpelled [stmt] && isSpelled stmts) := by
  cases stmt <;> simp only [isSpelled, Bool.and_true, Bool.true_and]

theorem children_cons (stmt : Stmt) (stmts : List Stmt) :
    children (stmt :: stmts) = children [stmt] ++ children stmts := by
  cases stmt <;>
    simp only [children, List.append_nil, List.cons_append, List.nil_append, List.append_assoc]

theorem nesting_cons (stmt : Stmt) (stmts : List Stmt) :
    nesting (stmt :: stmts) = max (nesting [stmt]) (nesting stmts) := by
  cases stmt <;> simp only [nesting, Nat.max_zero, Nat.zero_max]

theorem IsBlock.cons {stmt : Stmt} {stmts : List Stmt} (hfirst : IsBlock room [stmt])
    (hrest : IsBlock room stmts) : IsBlock room (stmt :: stmts) where
  spelled := by
    rw [isSpelled_cons, hfirst.spelled, hrest.spelled]
    rfl
  readable := by
    rw [children_cons]
    exact List.forall_mem_append.mpr ⟨hfirst.readable, hrest.readable⟩
  nesting := by
    rw [nesting_cons, Nat.max_lt]
    exact ⟨hfirst.nesting, hrest.nesting⟩

theorem IsBlock.of_expr {stmt : Stmt} {e : Expr} {rest : List Token}
    (h : e.IsWhole room rest) (hspelled : isSpelled [stmt] = true)
    (hchildren : children [stmt] = [e]) (hnesting : Stmt.nesting [stmt] = e.nesting + 1) :
    IsBlock (room + 1) [stmt] where
  spelled := hspelled
  readable := by
    rw [hchildren]
    exact List.forall_mem_singleton.mpr h.readable
  nesting := by
    rw [hnesting]
    exact Nat.succ_lt_succ h.nesting

theorem gives_stmt (hexpr : expr.Gives (Expr.IsWhole room))
    (hblock : block.Gives fun stmts _ => IsBlock room stmts) :
    (parser expr block).Gives fun stmt _ => IsBlock (room + 1) [stmt] := by
  intro tokens rest stmt spelled h
  cases read_of_run h with
  | leave => exact ⟨by simp only [isSpelled], by simp [children], by simp [nesting]⟩
  | give hvalue =>
      exact IsBlock.of_expr (hexpr spelled.tail hvalue) (by simp only [isSpelled])
        (by simp only [children]) (by simp only [nesting, Nat.max_zero])
  | when hcondition hyes =>
      have hwhole := hexpr spelled.tail.tail hcondition
      have hfirst := hblock (Parser.Spelled.run spelled.tail.tail hcondition).tail hyes
      constructor
      · simp only [isSpelled, hfirst.spelled, Bool.and_self]
      · simp only [children, List.append_nil]
        exact List.forall_mem_cons.mpr ⟨hwhole.readable, hfirst.readable⟩
      · have hroom := hwhole.nesting
        have hyesRoom := hfirst.nesting
        simp only [nesting, Nat.max_lt]
        omega
  | choose hcondition hyes hno =>
      have hwhole := hexpr spelled.tail.tail hcondition
      have hspelled := (Parser.Spelled.run spelled.tail.tail hcondition).tail
      have hfirst := hblock hspelled hyes
      have hsecond := hblock (Parser.Spelled.run hspelled hyes).tail hno
      constructor
      · simp only [isSpelled, hfirst.spelled, hsecond.spelled, Bool.and_self]
      · simp only [children, List.append_nil]
        exact List.forall_mem_cons.mpr
          ⟨hwhole.readable, List.forall_mem_append.mpr ⟨hfirst.readable, hsecond.readable⟩⟩
      · have hroom := hwhole.nesting
        have hyesRoom := hfirst.nesting
        have hnoRoom := hsecond.nesting
        simp only [nesting, Nat.max_lt]
        omega
  | assign target hvalue =>
      refine IsBlock.of_expr (hexpr spelled.tail.tail hvalue) ?_ (by simp only [children])
        (by simp only [nesting, Nat.max_zero])
      simp only [isSpelled, Bool.and_true]
      exact spelled.head
  | expr hvalue =>
      exact IsBlock.of_expr (hexpr spelled hvalue) (by simp only [isSpelled])
        (by simp only [children]) (by simp only [nesting, Nat.max_zero])

theorem isBlock_of_runAll (hexpr : expr.Gives (Expr.IsWhole room))
    (hblock : block.Gives fun stmts _ => IsBlock room stmts) {tokens rest : List Token}
    {stmts : List Stmt} (spelled : Token.Spelled tokens)
    (h : runAll expr block tokens = .ok (stmts, rest)) : IsBlock (room + 1) stmts := by
  fun_induction runAll expr block tokens generalizing stmts rest with
  | case1 tokens hhead =>
      cases h
      exact ⟨by simp only [isSpelled], by simp [children], by simp [nesting]⟩
  | case2 | case3 => cases h
  | case4 tokens hhead stmt after hreading others last hrest ih =>
      cases h
      have hfirst := gives_stmt hexpr hblock spelled hreading
      exact hfirst.cons (ih (Parser.Spelled.run spelled hreading) hrest)

end Stmt

/-!
# Levels
-/

namespace Level

/-- What the readers of a level give with the given room inside. -/
structure Sound (room : Nat) (level : Level) : Prop where
  expr : level.expr.Gives (Expr.IsWhole room)
  unary : level.unary.Gives (Expr.IsOperand room 9)
  block : level.block.Gives fun stmts _ => Stmt.IsBlock room stmts

variable {room : Nat} {inner : Option Level}

def SoundInside (room : Nat) (inner : Option Level) : Prop :=
  ∀ level : Level, inner = some level → ∃ less : Nat, room = less + 1 ∧ level.Sound less

theorem gives_exprParser (h : SoundInside room inner) :
    (exprParser room inner).Gives (Expr.IsWhole room) := by
  intro tokens rest expr spelled hrun
  rcases within_eq_ok hrun with ⟨level, hlevel, hwithin⟩
  rcases h level hlevel with ⟨less, rfl, hsound⟩
  exact Expr.gives_conditionalParser hsound.unary hsound.expr spelled hwithin

theorem gives_blockParser (h : SoundInside room inner) :
    (blockParser inner).Gives fun stmts _ => Stmt.IsBlock room stmts := by
  intro tokens rest stmts spelled hrun
  rcases blockParser_eq_ok hrun with ⟨level, hlevel, inside, rfl, hall⟩
  rcases h level hlevel with ⟨less, rfl, hsound⟩
  exact Stmt.isBlock_of_runAll hsound.expr hsound.block spelled.tail hall

theorem gives_unaryParser (h : SoundInside room inner) :
    (unaryParser room inner).Gives (Expr.IsOperand room 9) := by
  intro tokens rest expr spelled hrun
  cases operandRead_of_run hrun with
  | signed op hlevel hunary =>
      rcases h _ hlevel with ⟨less, rfl, hsound⟩
      have hoperand := hsound.unary spelled.tail hunary
      have hgrouped : (Expr.unary op _).Grouped := hoperand.strength
      refine ⟨Expr.readable_iff.mpr ⟨⟨rfl, hgrouped, True.intro⟩, ?_⟩, ?_, Nat.le_refl 10,
        hoperand.ends, hoperand.closed⟩
      · exact List.forall_mem_singleton.mpr hoperand.readable
      · exact Nat.succ_le_succ hoperand.nesting
  | unsigned hprimary happlied =>
      have hexpr := gives_exprParser h
      have hfirst := Expr.gives_primaryParser hexpr (gives_blockParser h) spelled hprimary
      exact Expr.isOperand_of_runApplied (Call.gives_argsParser hexpr)
        (Parser.Spelled.run spelled hprimary) hfirst happlied

theorem sound_withRoom (room : Nat) : (withRoom room).Sound room := by
  have haround : ∀ (room : Nat) (inner : Option Level), SoundInside room inner →
      (around room inner).Sound room :=
    fun room inner h => ⟨gives_exprParser h, gives_unaryParser h, gives_blockParser h⟩
  induction room with
  | zero => exact haround 0 none (by rintro level ⟨⟩)
  | succ room ih =>
      apply haround
      rintro level heq
      cases heq
      exact ⟨room, rfl, ih⟩

end Level

/-!
# Fragments
-/

namespace Fragment

theorem items_of_runItems {room : Nat} {expr : Parser Expr}
    (hexpr : expr.Gives (Expr.IsWhole room)) {tokens rest : List Token} {items : List Expr}
    {ending : Ending} (spelled : Token.Spelled tokens)
    (h : runItems expr tokens = .ok ((items, ending), rest)) :
    items ≠ [] ∧ ∀ item ∈ items, item.Readable ∧ item.nesting < room := by
  fun_induction runItems expr tokens generalizing items ending rest with
  | case1 => cases h
  | case2 tokens item hreading =>
      cases h
      have hitem := hexpr spelled hreading
      exact ⟨List.cons_ne_nil _ _, List.forall_mem_singleton.mpr ⟨hitem.readable, hitem.nesting⟩⟩
  | case3 => cases h
  | case4 tokens item after hafter hreading others last after' hrest ih =>
      cases h
      have hitem := hexpr spelled hreading
      rcases ih (Parser.Spelled.run spelled hreading).tail hrest with ⟨-, hothers⟩
      exact ⟨List.cons_ne_nil _ _,
        List.forall_mem_cons.mpr ⟨⟨hitem.readable, hitem.nesting⟩, hothers⟩⟩
  | case5 tokens item after hreading =>
      cases h
      have hitem := hexpr spelled hreading
      exact ⟨List.cons_ne_nil _ _, List.forall_mem_singleton.mpr ⟨hitem.readable, hitem.nesting⟩⟩
  | case6 tokens item after hcomma hothers hsemicolon hreading =>
      cases h
      have hitem := hexpr spelled hreading
      exact ⟨List.cons_ne_nil _ _, List.forall_mem_singleton.mpr ⟨hitem.readable, hitem.nesting⟩⟩

theorem readable_of_ofTokens {tokens : List Token} {fragment : Fragment}
    (spelled : Token.Spelled tokens) (h : ofTokens tokens = .ok fragment) : fragment.Readable := by
  unfold ofTokens at h
  split at h
  · cases h
  · rename_i items ending hrun
    cases h
    rcases items_of_runItems (Level.sound_withRoom nestingLimit).expr spelled hrun with
      ⟨hne, hitems⟩
    exact ⟨hne, fun item hitem => (hitems item hitem).1, fun item hitem => (hitems item hitem).2⟩
  · cases h

/-- What a source text is read into is readable. -/
theorem readable_of_parse {source : String} {fragment : Fragment}
    (h : parse source = .ok fragment) : fragment.Readable := by
  unfold parse at h
  split at h
  · cases h
  · cases h
  · rename_i lexemes hne htokenize
    split at h
    · rename_i found hofTokens
      cases h
      exact readable_of_ofTokens (Lexeme.isSpelled_of_tokenize htokenize) hofTokens
    · cases h

end Fragment

end FluentStyle
