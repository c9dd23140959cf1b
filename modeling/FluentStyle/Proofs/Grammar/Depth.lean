import FluentStyle.Proofs.Grammar.RoundTrip
import FluentStyle.Proofs.Tree.Height

/-!
# How deep fragments nest

The limit on nesting holds for what lies one level in.  Operators, accesses and new chains that are
read one after another at one level nest as well; each reader counts its own and forgets the count
when it is done, and the operands on the right of operators start with new counts.  So a fragment
nests far deeper than the limit says: at each level there may be as many accesses as there is room,
inside as many operators of each precedence, inside a choice.
-/

namespace FluentStyle

/-!
# What lies one level in
-/

theorem Stmt.nesting_lt : (stmts : List Stmt) → ∀ child ∈ Stmt.children stmts,
    child.nesting < Stmt.nesting stmts
  | [] => by
      intro child hchild
      simp only [Stmt.children, List.not_mem_nil] at hchild
  | .leave :: rest => by
      rw [Stmt.children, Stmt.nesting]
      exact Stmt.nesting_lt rest
  | .give _ :: rest | .expr _ :: rest | .assign _ _ :: rest => by
      intro child hchild
      rw [Stmt.nesting]
      rw [Stmt.children] at hchild
      rcases List.mem_cons.mp hchild with rfl | hrest
      · omega
      · have hlt := Stmt.nesting_lt rest child hrest
        omega
  | .when _ yes :: rest => by
      intro child hchild
      rw [Stmt.nesting]
      simp only [Stmt.children, List.mem_cons, List.mem_append] at hchild
      rcases hchild with rfl | hyes | hrest
      · omega
      · have hlt := Stmt.nesting_lt yes child hyes
        omega
      · have hlt := Stmt.nesting_lt rest child hrest
        omega
  | .choose _ yes no :: rest => by
      intro child hchild
      rw [Stmt.nesting]
      simp only [Stmt.children, List.mem_cons, List.mem_append] at hchild
      rcases hchild with rfl | hyes | hno | hrest
      · omega
      · have hlt := Stmt.nesting_lt yes child hyes
        omega
      · have hlt := Stmt.nesting_lt no child hno
        omega
      · have hlt := Stmt.nesting_lt rest child hrest
        omega

theorem Call.nesting_lt {first : List Expr} {rest : List Call} {arg : Expr}
    (h : arg ∈ first ++ rest.flatMap (·.args)) :
    arg.nesting < max (Expr.nestingAll first) (Call.nesting rest) := by
  rcases List.mem_append.mp h with hfirst | hrest
  · exact Nat.lt_of_lt_of_le (Expr.nestingAll_le_iff.mp (Nat.le_refl _) arg hfirst)
      (Nat.le_max_left _ _)
  · rcases List.mem_flatMap.mp hrest with ⟨call, hcall, harg⟩
    have hargs := Call.nesting_le_iff.mp (Nat.le_refl _) call hcall
    exact Nat.lt_of_lt_of_le (Expr.nestingAll_le_iff.mp hargs arg harg) (Nat.le_max_right _ _)

namespace Expr

/-- Whether the expression goes on with one that is read before it at the same level. -/
def isContinued : Expr → Bool
  | .property _ _ | .binary _ _ _ | .ternary _ _ _ | .elvis _ _ => true
  | .chain ⟨.receiver _, _, _⟩ => true
  | _ => false

/-- All that is inside an expression that does not go on with another one lies one level in. -/
theorem nesting_lt_of_mem_children {child expr : Expr} (h : expr.isContinued = false)
    (hchild : child ∈ expr.children) : child.nesting < expr.nesting := by
  cases expr with
  | property _ _ | binary _ _ _ | ternary _ _ _ | elvis _ _ => cases h
  | literal _ | number _ | constant _ | classConstant _ _ | «variable» _ => cases hchild
  | array items =>
      rcases List.mem_flatMap.mp hchild with ⟨item, hitem, hmem⟩
      exact ArrayItem.nesting_le_iff.mp (Nat.le_refl _) item hitem child hmem
  | closure closure =>
      cases closure with
      | arrow params body =>
          rw [List.mem_singleton.mp hchild, nesting]
          omega
      | block params captures body =>
          have hlt := Stmt.nesting_lt body child hchild
          rw [nesting]
          omega
  | chain chain =>
      rcases chain with ⟨root, ⟨name, args⟩, rest⟩
      cases root with
      | receiver object => cases h
      | static className => exact Call.nesting_lt hchild
      | function => exact Call.nesting_lt hchild
  | unary op operand =>
      rw [List.mem_singleton.mp hchild, nesting]
      omega
  | group inner =>
      rw [List.mem_singleton.mp hchild, nesting]
      omega

/-!
# Bounds on the height

An expression that is read with some room is a choice at most, of operands under as many operators
of each precedence as there is room, each of which has as many accesses as there is room.
-/

def heightBound : Nat → Nat
  | 0 => 1
  | room + 1 => heightBound room + 10 * room + 2

theorem heightBound_add (room : Nat) : heightBound room + 3 * room = 5 * (room * room) + 1 := by
  induction room with
  | zero => rfl
  | succ room ih =>
      have hsquare : (room + 1) * (room + 1) = room * room + 2 * room + 1 := by
        rw [Nat.add_mul, Nat.mul_add]
        omega
      rw [heightBound]
      omega

/-- How high an expression can be that lies one level in. -/
def innerBound : Nat → Nat
  | 0 => 0
  | room + 1 => heightBound room

def operandBound (room : Nat) : Nat :=
  max room 1 + innerBound room

theorem operandBound_le_heightBound (room : Nat) : operandBound room ≤ heightBound room := by
  cases room with
  | zero => exact Nat.le_refl 1
  | succ room =>
      rw [operandBound, innerBound, heightBound]
      omega

theorem choice_le_heightBound {room : Nat} (h : 0 < room) :
    9 * (room - 1) + operandBound room + 1 ≤ heightBound room := by
  cases room with
  | zero => cases h
  | succ room =>
      rw [operandBound, innerBound, heightBound]
      omega

theorem innerBound_le_operandBound (room : Nat) : innerBound room + 1 ≤ operandBound room := by
  rw [operandBound]
  omega

theorem accesses_lt {expr : Expr} {room : Nat} (h : expr.nesting ≤ room) :
    expr.accesses < max room 1 := by
  cases expr with
  | property object name =>
      rw [nesting] at h
      rw [accesses]
      omega
  | chain chain =>
      rcases chain with ⟨root, ⟨name, args⟩, rest⟩
      cases root with
      | receiver object =>
          rw [nesting] at h
          rw [accesses]
          omega
      | static _ | function => exact Nat.le_max_right room 1
  | _ => exact Nat.le_max_right room 1

theorem operators_le {expr : Expr} {room : Nat} (h : expr.nesting ≤ room) :
    expr.operators ≤ room - 1 := by
  cases expr with
  | binary op lhs rhs =>
      rw [nesting] at h
      rw [operators]
      omega
  | _ => exact Nat.zero_le _

/-!
# No fragment nests deeper
-/

/-- How high an expression is by the accesses that it is made by, or by the operators. -/
structure Low (room : Nat) (expr : Expr) : Prop where
  applied : 10 ≤ expr.strength → expr.height ≤ expr.accesses + 1 + innerBound room
  operand : 0 < expr.strength →
    expr.height ≤ expr.operators + (9 - expr.strength) * (room - 1) + operandBound room
  whole : expr.height ≤ heightBound room

variable {room : Nat} {expr : Expr}

theorem Low.of_applied (hnesting : expr.nesting ≤ room)
    (h : expr.height ≤ expr.accesses + 1 + innerBound room) : Low room expr := by
  have haccesses := accesses_lt hnesting
  have hoperand : expr.height ≤ operandBound room := by
    rw [operandBound]
    omega
  constructor
  · exact fun _ => h
  · exact fun _ => Nat.le_trans hoperand (Nat.le_add_left _ _)
  · exact Nat.le_trans hoperand (operandBound_le_heightBound room)

theorem Low.of_access (hnesting : expr.nesting ≤ room) {object : Expr}
    (haccesses : expr.accesses = object.accesses + 1) (hobject : Low room object)
    (hstrength : 10 ≤ object.strength)
    (h : ∀ child ∈ expr.children, child = object ∨ child.height ≤ innerBound room) :
    Low room expr := by
  apply Low.of_applied hnesting
  have happlied := hobject.applied hstrength
  have hheight : expr.height ≤ object.accesses + 1 + innerBound room + 1 := by
    apply height_le_succ_iff.mpr
    intro child hchild
    rcases h child hchild with rfl | hinner
    · exact happlied
    · omega
  omega

theorem Low.tighter (h : Low room expr) (hnesting : expr.nesting ≤ room) {floor : Nat}
    (hfloor : floor < expr.strength) (hle : floor ≤ 9) :
    expr.height ≤ (9 - floor) * (room - 1) + operandBound room := by
  have hoperand := h.operand (by omega)
  rcases Nat.lt_or_ge expr.strength 10 with hlt | hge
  · have hoperators := operators_le hnesting
    have hmul : (9 - expr.strength + 1) * (room - 1) ≤ (9 - floor) * (room - 1) :=
      Nat.mul_le_mul_right _ (by omega)
    rw [Nat.succ_mul] at hmul
    omega
  · rw [operators_eq_zero hge, show 9 - expr.strength = 0 by omega, Nat.zero_mul] at hoperand
    omega

theorem Low.of_binary {op : BinaryOp} {lhs rhs : Expr}
    (hnesting : (Expr.binary op lhs rhs).nesting ≤ room)
    (grouped : op.precedence ≤ lhs.strength ∧ op.precedence < rhs.strength)
    (hlhs : Low room lhs) (hrhs : Low room rhs) : Low room (.binary op lhs rhs) := by
  have hpos := op.precedence_pos
  have hle := op.precedence_le
  have hinside : lhs.operators + 2 ≤ room ∧ lhs.nesting ≤ room ∧ rhs.nesting ≤ room := by
    rw [nesting] at hnesting
    omega
  have hleft : lhs.height ≤
      lhs.operators + (9 - op.precedence) * (room - 1) + operandBound room := by
    have hoperand := hlhs.operand (by omega)
    have hmul : (9 - lhs.strength) * (room - 1) ≤ (9 - op.precedence) * (room - 1) :=
      Nat.mul_le_mul_right _ (by omega)
    omega
  have hright := hrhs.tighter hinside.2.2 grouped.2 hle
  have hoperand : (Expr.binary op lhs rhs).height ≤
      lhs.operators + (9 - op.precedence) * (room - 1) + operandBound room + 1 := by
    apply height_le_succ_iff.mpr
    intro child hchild
    rcases List.mem_pair.mp hchild with rfl | rfl
    · exact hleft
    · omega
  constructor
  · intro hstrength
    exact absurd hstrength (by rw [strength]; omega)
  · intro _
    rw [operators, strength]
    omega
  · have hmul : (9 - op.precedence + 1) * (room - 1) ≤ 9 * (room - 1) :=
      Nat.mul_le_mul_right _ (by omega)
    have hroom : 0 < room := by omega
    have hchoice := choice_le_heightBound hroom
    rw [Nat.succ_mul] at hmul
    omega

theorem Low.of_choice (hstrength : expr.strength = 0) (hroom : 0 < room) {condition : Expr}
    (hnesting : condition.nesting ≤ room) (hcondition : Low room condition)
    (grouped : 0 < condition.strength)
    (h : ∀ child ∈ expr.children, child = condition ∨ child.height ≤ innerBound room) :
    Low room expr := by
  constructor
  · intro happlied
    omega
  · intro hoperand
    omega
  · have htight := hcondition.tighter hnesting grouped (by omega)
    have hchoice := choice_le_heightBound hroom
    have hinner := innerBound_le_operandBound room
    have hheight : expr.height ≤ 9 * (room - 1) + operandBound room + 1 := by
      apply height_le_succ_iff.mpr
      intro child hchild
      rcases h child hchild with rfl | hchild
      · exact htight
      · omega
    exact Nat.le_trans hheight hchoice

theorem Readable.low (readable : expr.Readable) (hnesting : expr.nesting ≤ room) :
    Low room expr := by
  induction expr using Expr.children_induction generalizing room with
  | h expr ih =>
      rcases readable_iff.mp readable with ⟨⟨-, grouped, -⟩, hchildren⟩
      have hlow : ∀ child ∈ expr.children, child.nesting ≤ room → Low room child := by
        intro child hchild hroom
        exact ih child hchild (hchildren child hchild) hroom
      have hinner : ∀ child ∈ expr.children, child.nesting < room →
          child.height ≤ innerBound room := by
        intro child hchild hlt
        cases room with
        | zero => cases hlt
        | succ room =>
            exact (ih child hchild (hchildren child hchild) (Nat.le_of_lt_succ hlt)).whole
      cases hcontinued : expr.isContinued with
      | false =>
          apply Low.of_applied hnesting
          have hheight : expr.height ≤ innerBound room + 1 := by
            apply height_le_succ_iff.mpr
            intro child hchild
            exact hinner child hchild
              (Nat.lt_of_lt_of_le (nesting_lt_of_mem_children hcontinued hchild) hnesting)
          omega
      | true =>
          cases expr with
          | literal _ | number _ | constant _ | classConstant _ _ | «variable» _ | array _
          | closure _ | unary _ _ | group _ => cases hcontinued
          | property object name =>
              have hobject : object ∈ (Expr.property object name).children := List.mem_cons_self
              have hroom : object.nesting ≤ room := by
                rw [nesting] at hnesting
                omega
              refine Low.of_access hnesting rfl (hlow object hobject hroom) ?_ ?_
              · exact Nat.le_trans (by decide) grouped
              · intro child hchild
                exact Or.inl (List.mem_singleton.mp hchild)
          | chain chain =>
              rcases chain with ⟨root, ⟨name, args⟩, rest⟩
              cases root with
              | static _ | function => cases hcontinued
              | receiver object =>
                  have hinside : object.nesting ≤ room ∧
                      max (nestingAll args) (Call.nesting rest) ≤ room := by
                    rw [nesting] at hnesting
                    omega
                  have hobject := hlow object List.mem_cons_self hinside.1
                  refine Low.of_access hnesting rfl hobject ?_ ?_
                  · exact Nat.le_trans (by decide) grouped
                  · intro child hchild
                    rcases List.mem_cons.mp hchild with heq | hargs
                    · exact Or.inl heq
                    · exact Or.inr (hinner child hchild
                        (Nat.lt_of_lt_of_le (Call.nesting_lt hargs) hinside.2))
          | binary op lhs rhs =>
              have hinside : lhs.nesting ≤ room ∧ rhs.nesting ≤ room := by
                rw [nesting] at hnesting
                omega
              exact Low.of_binary hnesting grouped
                (hlow lhs List.mem_cons_self hinside.1)
                (hlow rhs (List.mem_cons_of_mem lhs List.mem_cons_self) hinside.2)
          | ternary condition yes no =>
              have hinside : condition.nesting ≤ room ∧ yes.nesting < room ∧ no.nesting < room := by
                rw [nesting] at hnesting
                omega
              refine Low.of_choice rfl (Nat.zero_lt_of_lt hinside.2.1) hinside.1
                (hlow condition List.mem_cons_self hinside.1) grouped ?_
              intro child hchild
              have hbranch := hinner child hchild
              rcases List.mem_cons.mp hchild with heq | hmem
              · exact Or.inl heq
              · rcases List.mem_pair.mp hmem with rfl | rfl
                · exact Or.inr (hbranch hinside.2.1)
                · exact Or.inr (hbranch hinside.2.2)
          | elvis condition no =>
              have hinside : condition.nesting ≤ room ∧ no.nesting < room := by
                rw [nesting] at hnesting
                omega
              refine Low.of_choice rfl (Nat.zero_lt_of_lt hinside.2) hinside.1
                (hlow condition List.mem_cons_self hinside.1) grouped ?_
              intro child hchild
              have hbranch := hinner child hchild
              rcases List.mem_pair.mp hchild with heq | rfl
              · exact Or.inl heq
              · exact Or.inr (hbranch hinside.2)

/-- What does not go on at one level is no higher than the room that its readers need. -/
theorem height_le_nesting (h : expr.Every fun part => part.isContinued = false) :
    expr.height ≤ expr.nesting + 1 := by
  induction expr using Expr.children_induction with
  | h expr ih =>
      rcases every_iff.mp h with ⟨hcontinued, hchildren⟩
      apply height_le_succ_iff.mpr
      intro child hchild
      exact Nat.le_trans (ih child hchild (hchildren child hchild))
        (nesting_lt_of_mem_children hcontinued hchild)

/-!
# The deepest fragment

An expression that is as high as one can be has as many accesses behind it as there is room, is the
right operand of the first of as many operators in a row, of each precedence in turn, and stands in
a choice; the next one is inside.
-/

def accessed (expr : Expr) : Nat → Expr
  | 0 => expr
  | count + 1 => .property (accessed expr count) "p"

def operated (op : BinaryOp) (expr : Expr) : Nat → Expr
  | 0 => expr
  | 1 => .binary op (.variable "$x") expr
  | count + 2 => .binary op (operated op expr (count + 1)) (.variable "$x")

def climbed (count : Nat) (expr : Expr) : List BinaryOp → Expr
  | [] => expr
  | op :: ops => operated op (climbed count expr ops) count

def loosening : List BinaryOp :=
  [.wordOr, .wordAnd, .sign .coalesce, .sign .or, .sign .and, .sign .equal, .sign .less, .sign .add,
    .sign .multiply]

/-- An expression that is as high as one can be that is read with the room. -/
def deepest : Nat → Expr
  | 0 => .variable "$x"
  | room + 1 =>
      .ternary (climbed room (accessed (.group (deepest room)) room) loosening) (.variable "$x")
        (.variable "$x")

/-- The expression can be read with the room as an operand of an operator that binds as tight as
the floor, whatever comes behind it. -/
structure Fits (room floor : Nat) (expr : Expr) : Prop where
  readable : expr.Readable
  closed : expr.isOpen = false
  strength : floor < expr.strength
  nesting : expr.nesting ≤ room

theorem Fits.mono {floor lower : Nat} (h : Fits room floor expr) (hle : lower ≤ floor) :
    Fits room lower expr :=
  ⟨h.readable, h.closed, Nat.lt_of_le_of_lt hle h.strength, h.nesting⟩

theorem fits_variable (room : Nat) : Fits room 11 (.variable "$x") where
  readable := readable_iff.mpr ⟨⟨rfl, trivial, trivial⟩, fun _ h => by cases h⟩
  closed := rfl
  strength := by decide
  nesting := Nat.zero_le room

theorem height_variable (name : String) : (Expr.variable name).height = 1 := by
  rw [height_eq]
  rfl

theorem fits_group (readable : expr.Readable) (h : expr.nesting < room) :
    Fits room 11 (.group expr) where
  readable := readable_iff.mpr
    ⟨⟨rfl, trivial, trivial⟩, fun _ hchild => List.mem_singleton.mp hchild ▸ readable⟩
  closed := rfl
  strength := Nat.lt_succ_self 11
  nesting := by
    rw [nesting]
    exact h

theorem height_group (expr : Expr) : (Expr.group expr).height = expr.height + 1 := by
  rw [height_eq]
  exact congrArg (· + 1) (Nat.max_zero expr.height)

theorem accesses_accessed (h : expr.accesses = 0) (count : Nat) :
    (accessed expr count).accesses = count := by
  induction count with
  | zero => exact h
  | succ count ih => rw [accessed, accesses, ih]

theorem height_accessed (expr : Expr) (count : Nat) :
    (accessed expr count).height = count + expr.height := by
  induction count with
  | zero => exact (Nat.zero_add _).symm
  | succ count ih =>
      rw [accessed, height_eq]
      show max (accessed expr count).height 0 + 1 = _
      omega

theorem fits_accessed (h : Fits room 11 expr) (haccesses : expr.accesses = 0) {count : Nat}
    (hcount : count < room) : Fits room 11 (accessed expr count) := by
  induction count with
  | zero => exact h
  | succ count ih =>
      have hobject := ih (by omega)
      have hnested := accesses_accessed haccesses count
      have hnesting := hobject.nesting
      constructor
      · apply readable_iff.mpr
        have hspelled : (Token.name "p").isSpelled = true := rfl
        refine ⟨⟨hspelled, Nat.le_of_lt hobject.strength, hobject.closed⟩, ?_⟩
        · intro child hchild
          exact List.mem_singleton.mp hchild ▸ hobject.readable
      · rfl
      · exact Nat.lt_succ_self 11
      · rw [accessed, nesting]
        omega

theorem operated_succ_succ (op : BinaryOp) (expr : Expr) (count : Nat) :
    operated op expr (count + 2) =
      .binary op (operated op expr (count + 1)) (.variable "$x") := rfl

theorem operators_operated (op : BinaryOp) (expr : Expr) (count : Nat) :
    (operated op expr (count + 1)).operators = count + 1 := by
  induction count with
  | zero => rfl
  | succ count ih => rw [operated_succ_succ, operators, ih]

theorem height_binary (op : BinaryOp) (lhs rhs : Expr) :
    (Expr.binary op lhs rhs).height = max lhs.height rhs.height + 1 := by
  rw [height_eq]
  show max lhs.height (max rhs.height 0) + 1 = _
  omega

theorem height_operated (op : BinaryOp) (expr : Expr) (count : Nat) :
    (operated op expr count).height = count + expr.height := by
  have hpos := expr.height_pos
  have hleaf := height_variable "$x"
  cases count with
  | zero => exact (Nat.zero_add _).symm
  | succ count =>
      induction count with
      | zero =>
          rw [operated, height_binary]
          omega
      | succ count ih =>
          rw [operated_succ_succ, height_binary]
          omega

theorem Fits.binary {op : BinaryOp} {lhs rhs : Expr} {floor : Nat} (hfloor : floor < op.precedence)
    (hlhs : Fits room (op.precedence - 1) lhs) (hrhs : Fits room op.precedence rhs)
    (hoperators : lhs.operators + 2 ≤ room) : Fits room floor (.binary op lhs rhs) := by
  have hleft := hlhs.strength
  have hleftNesting := hlhs.nesting
  have hrightNesting := hrhs.nesting
  constructor
  · apply readable_iff.mpr
    refine ⟨⟨rfl, ⟨by omega, hrhs.strength⟩, hlhs.closed⟩, ?_⟩
    intro child hchild
    rcases List.mem_pair.mp hchild with rfl | rfl
    · exact hlhs.readable
    · exact hrhs.readable
  · exact hrhs.closed
  · exact hfloor
  · rw [Expr.nesting]
    omega

theorem Fits.operated {op : BinaryOp} (h : Fits room op.precedence expr) {floor count : Nat}
    (hfloor : floor < op.precedence) (hcount : count < room) :
    Fits room floor (operated op expr count) := by
  have hle := op.precedence_le
  have hleaf := fits_variable room
  cases count with
  | zero => exact h.mono (Nat.le_of_lt hfloor)
  | succ count =>
      induction count generalizing floor with
      | zero => exact Fits.binary hfloor (hleaf.mono (by omega)) h hcount
      | succ count ih =>
          have hlhs : Fits room (op.precedence - 1) (Expr.operated op expr (count + 1)) :=
            ih (by omega) (by omega)
          refine Fits.binary hfloor hlhs (hleaf.mono (by omega)) ?_
          rw [operators_operated]
          omega

theorem height_climbed (count : Nat) (expr : Expr) (ops : List BinaryOp) :
    (climbed count expr ops).height = ops.length * count + expr.height := by
  induction ops with
  | nil => rw [climbed, List.length_nil, Nat.zero_mul, Nat.zero_add]
  | cons op ops ih =>
      rw [climbed, height_operated, ih, List.length_cons, Nat.succ_mul]
      omega

theorem Fits.climbed (h : Fits room 9 expr) {count : Nat} (hcount : count < room) {floor : Nat}
    (hfloor : floor ≤ 9) {ops : List BinaryOp}
    (hops : (floor :: ops.map BinaryOp.precedence).IsChain (· < ·)) :
    Fits room floor (climbed count expr ops) := by
  induction ops generalizing floor with
  | nil => exact h.mono hfloor
  | cons op ops ih =>
      rcases List.isChain_cons_cons.mp hops with ⟨hop, hrest⟩
      exact (ih op.precedence_le hrest).operated hop hcount

theorem deepest_spec (room : Nat) :
    (deepest room).Readable ∧ (deepest room).nesting ≤ room ∧
      (deepest room).height = heightBound room := by
  induction room with
  | zero => exact ⟨(fits_variable 0).readable, Nat.le_refl 0, height_variable "$x"⟩
  | succ room ih =>
      rcases ih with ⟨readable, hnesting, hheight⟩
      have hgroup : Fits (room + 1) 11 (.group (deepest room)) :=
        fits_group readable (Nat.lt_succ_of_le hnesting)
      have hobject := fits_accessed hgroup rfl (Nat.lt_succ_self room)
      have hcondition : Fits (room + 1) 0
          (climbed room (accessed (.group (deepest room)) room) loosening) :=
        (hobject.mono (by decide)).climbed (Nat.lt_succ_self room) (Nat.zero_le 9) (by decide)
      refine ⟨?_, ?_, ?_⟩
      · apply readable_iff.mpr
        refine ⟨⟨rfl, hcondition.strength, hcondition.closed⟩, ?_⟩
        intro child hchild
        rcases List.mem_cons.mp hchild with rfl | hleaf
        · exact hcondition.readable
        · rcases List.mem_pair.mp hleaf with rfl | rfl
          · exact (fits_variable 0).readable
          · exact (fits_variable 0).readable
      · have hle := hcondition.nesting
        rw [deepest, nesting, nesting]
        omega
      · have hcondition : (climbed room (accessed (.group (deepest room)) room) loosening).height =
            9 * room + (room + (heightBound room + 1)) := by
          rw [height_climbed, height_accessed, height_group, hheight]
          rfl
        rw [deepest, height_eq, heightBound]
        show max _ (max (Expr.variable "$x").height (max (Expr.variable "$x").height 0)) + 1 = _
        rw [height_variable, hcondition]
        omega

end Expr

namespace Fragment

theorem heightBound_255 : Expr.heightBound 255 = 324361 := by
  have hbound := Expr.heightBound_add 255
  generalize Expr.heightBound 255 = bound at hbound ⊢
  omega

theorem height_le_of_parse {source : String} {fragment : Fragment}
    (h : parse source = .ok fragment) :
    ∀ item ∈ fragment.items, item.height ≤ Expr.heightBound 255 := by
  intro item hitem
  have readable := readable_of_parse h
  have hnesting := readable.nesting item hitem
  exact ((readable.readable item hitem).low (Nat.le_of_lt_succ hnesting)).whole

/-- The expressions of a fragment that is read nest 324361 deep at most.  The limit of 256 holds
where nothing goes on with what is read before it at the same level. -/
theorem nesting_of_parse {source : String} {fragment : Fragment}
    (h : parse source = .ok fragment) {nodes : List Expr} (hnodes : fragment.Nests nodes) :
    nodes.length ≤ 324361 ∧
      ((∀ item ∈ fragment.items, item.Every fun part => part.isContinued = false) →
        nodes.length ≤ nestingLimit) := by
  constructor
  · exact heightBound_255 ▸ hnodes.length_le (height_le_of_parse h)
  · intro hcontinued
    apply hnodes.length_le
    intro item hitem
    have hnesting := (readable_of_parse h).nesting item hitem
    exact Nat.le_trans (Expr.height_le_nesting (hcontinued item hitem)) hnesting

/-- A sum in parentheses, and a fragment in which nothing goes on with what is before it. -/
theorem nesting_of_parse_sum :
    let access : Expr := .property (.variable "$a") "b"
    let sum : Expr := .binary (.sign .add) access (.number "1")
    let item : Expr := .unary .not (.group sum)
    let call : Expr := .chain ⟨.function, ⟨"f", [.array [.value (.group (.number "1"))]]⟩, []⟩
    parse "!($a->b + 1), f([(1)])" = .ok ⟨[item, call], .none⟩ ∧
      Nests ⟨[item, call], .none⟩ [item, .group sum, sum, access, .variable "$a"] ∧
      [item, .group sum, sum, access, .variable "$a"].length ≤ 324361 ∧
    parse "f([(1)])" = .ok ⟨[call], .none⟩ ∧
      (∀ part ∈ [call], part.Every fun part => part.isContinued = false) ∧
      Nests ⟨[call], .none⟩ [call, .array [.value (.group (.number "1"))], .group (.number "1"),
        .number "1"] ∧
      [call, .array [.value (.group (.number "1"))], .group (.number "1"),
        .number "1"].length ≤ nestingLimit := by
  intro access sum item call
  have hboth : parse "!($a->b + 1), f([(1)])" = .ok ⟨[item, call], .none⟩ := by decide +kernel
  have hcall : parse "f([(1)])" = .ok ⟨[call], .none⟩ := by decide +kernel
  have hsum : Nests ⟨[item, call], .none⟩ [item, .group sum, sum, access, .variable "$a"] :=
    nests_of_nested (Expr.Nested.of_children (by decide +kernel)) List.mem_cons_self
  have hnumber : Nests ⟨[call], .none⟩ [call, .array [.value (.group (.number "1"))],
      .group (.number "1"), .number "1"] :=
    nests_of_nested (Expr.Nested.of_children (by decide +kernel)) List.mem_cons_self
  have hcontinued : ∀ part ∈ [call], part.Every fun part => part.isContinued = false := by
    have hinside : ∀ {outer inner : Expr}, outer.isContinued = false → outer.children = [inner] →
        (inner.Every fun part => part.isContinued = false) →
        outer.Every fun part => part.isContinued = false := by
      intro outer inner houter hchildren hinner
      exact Expr.every_iff.mpr ⟨houter, hchildren ▸ List.forall_mem_singleton.mpr hinner⟩
    have hnumber : (Expr.number "1").Every fun part => part.isContinued = false :=
      Expr.every_iff.mpr ⟨rfl, fun _ hchild => by cases hchild⟩
    exact List.forall_mem_singleton.mpr (hinside rfl rfl (hinside rfl rfl
      (hinside rfl rfl hnumber)))
  exact ⟨hboth, hsum, (nesting_of_parse hboth hsum).1, hcall, hcontinued, hnumber,
    (nesting_of_parse hcall hnumber).2 hcontinued⟩

/-- Some fragment that is read nests as deep as any does. -/
theorem exists_parse_nesting_deepest :
    ∃ (source : String) (fragment : Fragment) (nodes : List Expr),
      parse source = .ok fragment ∧ fragment.Nests nodes ∧ nodes.length = 324361 ∧
        nestingLimit < nodes.length := by
  rcases Expr.deepest_spec 255 with ⟨readable, hnesting, hheight⟩
  let fragment : Fragment := ⟨[Expr.deepest 255], .none⟩
  have hfragment : fragment.Readable :=
    ⟨List.cons_ne_nil _ _, List.forall_mem_singleton.mpr readable,
      List.forall_mem_singleton.mpr (Nat.lt_succ_of_le hnesting)⟩
  rcases (Expr.deepest 255).exists_nested with ⟨nodes, hnested, hnodes⟩
  have hlength : (Expr.deepest 255 :: nodes).length = 324361 := by
    rw [hnodes, hheight, heightBound_255]
  refine ⟨fragment.render, fragment, Expr.deepest 255 :: nodes, parse_render hfragment,
    nests_of_nested hnested (List.mem_singleton_self _), hlength, ?_⟩
  rw [hlength]
  decide

end Fragment

end FluentStyle
