import FluentStyle.Proofs.Grammar.Soundness

/-!
# How operators are grouped

What a text is read into shows, part by part, how tightly operators bind and that the body of an
arrow function goes on as far as it can.  Said of the kinds of expressions that may stand in each
place, this is the same as to compare how firmly they hold together.
-/

namespace FluentStyle

namespace Expr

/-!
# Kinds of expressions
-/

/-- Whether the expression is a choice by a question mark that has no parentheses around it. -/
def isConditional : Expr → Bool
  | .ternary _ _ _ | .elvis _ _ => true
  | _ => false

def isBinary : Expr → Bool
  | .binary _ _ _ => true
  | _ => false

def isUnary : Expr → Bool
  | .unary _ _ => true
  | _ => false

def isArrow : Expr → Bool
  | .closure (.arrow _ _) => true
  | _ => false

def isChain : Expr → Bool
  | .chain _ => true
  | _ => false

def condition? : Expr → Option Expr
  | .ternary condition _ _ => some condition
  | .elvis condition _ => some condition
  | _ => none

def receiver? : Expr → Option Expr
  | .chain ⟨.receiver object, _, _⟩ => some object
  | _ => none

def object? : Expr → Option Expr
  | .property object _ => some object
  | expr => expr.receiver?

/-!
# Places
-/

/-- In each place of the expression stands what can be read there without parentheses. -/
structure GroupsAsRead (expr : Expr) : Prop where
  operands : ∀ {op : BinaryOp} {lhs rhs : Expr}, expr = .binary op lhs rhs →
    lhs.isConditional = false ∧ rhs.isConditional = false
  lhs_precedence : ∀ {op inner : BinaryOp} {first second rhs : Expr},
    expr = .binary op (.binary inner first second) rhs → op.precedence ≤ inner.precedence
  rhs_precedence : ∀ {op inner : BinaryOp} {lhs first second : Expr},
    expr = .binary op lhs (.binary inner first second) → op.precedence < inner.precedence
  operand : ∀ {op : UnaryOp} {operand : Expr}, expr = .unary op operand →
    operand.isBinary = false ∧ operand.isConditional = false
  condition : ∀ {condition : Expr}, expr.condition? = some condition →
    condition.isConditional = false
  object : ∀ {object : Expr}, expr.object? = some object →
    object.isUnary = false ∧ object.isBinary = false ∧ object.isConditional = false ∧
      object.isArrow = false
  receiver : ∀ {object : Expr}, expr.receiver? = some object → object.isChain = false
  lhs_closed : ∀ {op : BinaryOp} {lhs rhs : Expr}, expr = .binary op lhs rhs → lhs.isOpen = false
  condition_closed : ∀ {condition : Expr}, expr.condition? = some condition →
    condition.isOpen = false
  calls : ∀ {chain : Chain}, expr = .chain chain → chain.calls ≠ []

/-!
# Kinds of expressions and how firmly they hold together

The children of an expression hold together firmly enough, and end soon enough, just if each place
has an expression of a kind that can be read there.
-/

variable {expr : Expr}

theorem le_strength_iff {bound : Nat} (hpos : 0 < bound) (hle : bound ≤ 10) :
    bound ≤ expr.strength ↔ expr.isConditional = false ∧
      ∀ (op : BinaryOp) (lhs rhs : Expr), expr = .binary op lhs rhs → bound ≤ op.precedence := by
  cases expr with
  | ternary condition yes no => simp [strength, isConditional, Nat.ne_of_gt hpos]
  | elvis condition no => simp [strength, isConditional, Nat.ne_of_gt hpos]
  | binary op lhs rhs => simp [strength, isConditional]
  | _ =>
      simp [strength, isConditional]
      omega

theorem pos_strength_iff : 0 < expr.strength ↔ expr.isConditional = false := by
  rw [Nat.lt_iff_add_one_le, le_strength_iff (by decide) (by decide)]
  exact and_iff_left fun op _ _ _ => op.precedence_pos

theorem ten_le_strength_iff :
    10 ≤ expr.strength ↔ expr.isBinary = false ∧ expr.isConditional = false := by
  rw [le_strength_iff (by decide) (by decide), and_comm]
  refine and_congr_left fun _ => ?_
  cases expr with
  | binary op lhs rhs =>
      have hle := op.precedence_le
      simp only [isBinary, reduceCtorEq, iff_false]
      intro h
      have := h op lhs rhs rfl
      omega
  | _ => simp [isBinary]

theorem eleven_le_strength_iff :
    11 ≤ expr.strength ↔
      expr.isUnary = false ∧ expr.isBinary = false ∧ expr.isConditional = false := by
  rw [← ten_le_strength_iff]
  cases expr with
  | binary op lhs rhs =>
      have hle := op.precedence_le
      simp only [strength, isUnary, true_and]
      omega
  | _ => simp [strength, isUnary]

theorem twelve_le_strength_iff :
    12 ≤ expr.strength ↔ expr.isChain = false ∧ 11 ≤ expr.strength := by
  cases expr with
  | binary op lhs rhs =>
      have hle := op.precedence_le
      simp only [strength, isChain, true_and]
      omega
  | _ => simp [strength, isChain]

theorem isOpen_eq_isArrow (h : 11 ≤ expr.strength) : expr.isOpen = expr.isArrow := by
  rcases eleven_le_strength_iff.mp h with ⟨hunary, hbinary, hconditional⟩
  cases expr with
  | closure c => cases c <;> rfl
  | unary op operand => cases hunary
  | binary op lhs rhs => cases hbinary
  | ternary condition yes no => cases hconditional
  | elvis condition no => cases hconditional
  | _ => rfl

theorem condition?_eq_some {condition : Expr} :
    expr.condition? = some condition ↔
      (∃ yes no : Expr, expr = .ternary condition yes no) ∨
        ∃ no : Expr, expr = .elvis condition no := by
  cases expr <;> simp [condition?]

theorem receiver?_eq_some {object : Expr} :
    expr.receiver? = some object ↔
      ∃ (first : Call) (rest : List Call), expr = .chain ⟨.receiver object, first, rest⟩ := by
  cases expr with
  | chain c =>
      rcases c with ⟨root, first, rest⟩
      cases root <;> simp [receiver?]
  | _ => simp [receiver?]

theorem object?_eq_some {object : Expr} :
    expr.object? = some object ↔
      (∃ name : String, expr = .property object name) ∨ expr.receiver? = some object := by
  cases expr <;> simp [object?, receiver?]

theorem GroupsAsRead.grouped_and_closed (h : expr.GroupsAsRead) : expr.Grouped ∧ expr.Closed := by
  cases expr with
  | unary op operand => exact ⟨ten_le_strength_iff.mpr (h.operand rfl), True.intro⟩
  | binary op lhs rhs =>
      rcases h.operands rfl with ⟨hlhs, hrhs⟩
      have hle := Nat.le_succ_of_le op.precedence_le
      refine ⟨⟨?_, ?_⟩, h.lhs_closed rfl⟩
      · refine (le_strength_iff op.precedence_pos hle).mpr ⟨hlhs, ?_⟩
        rintro inner first second rfl
        exact h.lhs_precedence rfl
      · refine (le_strength_iff (Nat.succ_pos _) (Nat.succ_le_succ op.precedence_le)).mpr
          ⟨hrhs, ?_⟩
        rintro inner first second rfl
        exact h.rhs_precedence rfl
  | ternary condition yes no =>
      exact ⟨pos_strength_iff.mpr (h.condition rfl), h.condition_closed rfl⟩
  | elvis condition no =>
      exact ⟨pos_strength_iff.mpr (h.condition rfl), h.condition_closed rfl⟩
  | property object name =>
      rcases h.object rfl with ⟨hunary, hbinary, hconditional, harrow⟩
      have hstrength := eleven_le_strength_iff.mpr ⟨hunary, hbinary, hconditional⟩
      exact ⟨hstrength, (isOpen_eq_isArrow hstrength).trans harrow⟩
  | chain c =>
      rcases c with ⟨root, first, rest⟩
      cases root with
      | receiver object =>
          rcases h.object rfl with ⟨hunary, hbinary, hconditional, harrow⟩
          have hstrength := eleven_le_strength_iff.mpr ⟨hunary, hbinary, hconditional⟩
          exact ⟨twelve_le_strength_iff.mpr ⟨h.receiver rfl, hstrength⟩,
            (isOpen_eq_isArrow hstrength).trans harrow⟩
      | _ => exact ⟨True.intro, True.intro⟩
  | _ => exact ⟨True.intro, True.intro⟩

theorem groupsAsRead_of_grouped (hgrouped : expr.Grouped) (hclosed : expr.Closed) :
    expr.GroupsAsRead := by
  have hcondition : ∀ {condition : Expr}, expr.condition? = some condition →
      0 < condition.strength ∧ condition.isOpen = false := by
    intro condition h
    rcases condition?_eq_some.mp h with ⟨yes, no, rfl⟩ | ⟨no, rfl⟩ <;> exact ⟨hgrouped, hclosed⟩
  have hreceiver : ∀ {object : Expr}, expr.receiver? = some object →
      12 ≤ object.strength ∧ object.isOpen = false := by
    intro object h
    rcases receiver?_eq_some.mp h with ⟨first, rest, rfl⟩
    exact ⟨hgrouped, hclosed⟩
  have hobject : ∀ {object : Expr}, expr.object? = some object →
      11 ≤ object.strength ∧ object.isOpen = false := by
    intro object h
    rcases object?_eq_some.mp h with ⟨name, rfl⟩ | h
    · exact ⟨hgrouped, hclosed⟩
    · exact ⟨Nat.le_of_succ_le (hreceiver h).1, (hreceiver h).2⟩
  constructor
  case operands =>
    rintro op lhs rhs rfl
    have hpos := op.precedence_pos
    exact ⟨pos_strength_iff.mp (Nat.lt_of_lt_of_le hpos hgrouped.1),
      pos_strength_iff.mp (Nat.lt_trans hpos hgrouped.2)⟩
  case lhs_precedence =>
    rintro op inner first second rhs rfl
    exact hgrouped.1
  case rhs_precedence =>
    rintro op inner lhs first second rfl
    exact hgrouped.2
  case operand =>
    rintro op operand rfl
    exact ten_le_strength_iff.mp hgrouped
  case condition => exact fun h => pos_strength_iff.mp (hcondition h).1
  case object =>
    intro object h
    rcases hobject h with ⟨hstrength, hopen⟩
    rcases eleven_le_strength_iff.mp hstrength with ⟨hunary, hbinary, hconditional⟩
    exact ⟨hunary, hbinary, hconditional, (isOpen_eq_isArrow hstrength).symm.trans hopen⟩
  case receiver => exact fun h => (twelve_le_strength_iff.mp (hreceiver h).1).1
  case lhs_closed =>
    rintro op lhs rhs rfl
    exact hclosed
  case condition_closed => exact fun h => (hcondition h).2
  case calls =>
    rintro chain -
    exact List.cons_ne_nil _ _

theorem groupsAsRead_iff : expr.GroupsAsRead ↔ expr.Grouped ∧ expr.Closed :=
  ⟨GroupsAsRead.grouped_and_closed, fun h => groupsAsRead_of_grouped h.1 h.2⟩

end Expr

/-- What a source text is read into groups as the text is read, in all of its parts. -/
theorem Fragment.groupsAsRead_of_parse {source : String} {fragment : Fragment}
    (h : parse source = .ok fragment) :
    ∀ item ∈ fragment.items, ∀ part ∈ item.parts, part.GroupsAsRead := by
  intro item hitem part hpart
  rcases (readable_of_parse h).readable item hitem part hpart with ⟨-, hgrouped, hclosed⟩
  exact Expr.groupsAsRead_of_grouped hgrouped hclosed

/-- Differences group to the left; a choice behind an access ends with the body of an arrow
function. -/
theorem Fragment.groupsAsRead_of_parse_difference :
    let difference : Expr := .binary (.sign .subtract)
      (.binary (.sign .subtract) (.variable "$a") (.unary .negate (.variable "$b")))
      (.property (.group (.closure (.arrow [] (.variable "$c")))) "d")
    let item : Expr := .elvis difference (.closure (.arrow [] (.variable "$e")))
    parse "$a - -$b - (fn () => $c)->d ?: fn () => $e" = .ok ⟨[item], .none⟩ ∧
      item.GroupsAsRead ∧ difference.GroupsAsRead := by
  intro difference item
  have hparse : parse "$a - -$b - (fn () => $c)->d ?: fn () => $e" = .ok ⟨[item], .none⟩ := by
    decide +kernel
  have hparts := groupsAsRead_of_parse hparse item List.mem_cons_self
  have hdifference : difference ∈ item.parts :=
    Expr.mem_parts_iff.mpr (Or.inr ⟨difference, List.mem_cons_self, Expr.mem_parts_self _⟩)
  exact ⟨hparse, hparts item (Expr.mem_parts_self item), hparts difference hdifference⟩

end FluentStyle
