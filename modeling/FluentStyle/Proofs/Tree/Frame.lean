import FluentStyle.Tree.Children
import FluentStyle.Tree.Weight

/-!
# Frames and children

An expression is its frame, which is the expression with a blank in the place of every expression
directly inside it, together with those expressions, its children, from left to right.  Walking over
the children of an expression keeps its frame and puts what comes out in the place of the children.
-/

namespace FluentStyle

/-!
# Children

The children of an expression are the expressions directly inside it: those in statements, also in
the branches of conditions, the keys and values of array elements, and the receiver of a chain with
the arguments of its calls.
-/

def Stmt.children : List Stmt → List Expr
  | [] => []
  | .leave :: rest => Stmt.children rest
  | .give e :: rest => e :: Stmt.children rest
  | .expr e :: rest => e :: Stmt.children rest
  | .assign _ e :: rest => e :: Stmt.children rest
  | .when condition yes :: rest => condition :: (Stmt.children yes ++ Stmt.children rest)
  | .choose condition yes no :: rest =>
      condition :: (Stmt.children yes ++ (Stmt.children no ++ Stmt.children rest))

def ArrayItem.children : ArrayItem → List Expr
  | .value e => [e]
  | .pair key e => [key, e]

def Chain.children : Chain → List Expr
  | ⟨.receiver object, first, rest⟩ => object :: (first.args ++ rest.flatMap (·.args))
  | ⟨.static _, first, rest⟩ => first.args ++ rest.flatMap (·.args)
  | ⟨.function, first, rest⟩ => first.args ++ rest.flatMap (·.args)

def Closure.children : Closure → List Expr
  | .arrow _ body => [body]
  | .block _ _ body => Stmt.children body

/-- The expressions directly inside an expression. -/
def Expr.children : Expr → List Expr
  | .literal _ | .number _ | .constant _ | .classConstant _ _ | .variable _ => []
  | .array items => items.flatMap ArrayItem.children
  | .closure c => c.children
  | .chain c => c.children
  | .property object _ => [object]
  | .unary _ operand => [operand]
  | .binary _ lhs rhs => [lhs, rhs]
  | .ternary condition yes no => [condition, yes, no]
  | .elvis condition no => [condition, no]
  | .group inner => [inner]

/-!
# Frames
-/

def Expr.blank : Expr := .constant ""

def Expr.blanks (exprs : List Expr) : List Expr :=
  exprs.map fun _ => Expr.blank

def Stmt.frame : List Stmt → List Stmt
  | [] => []
  | .leave :: rest => .leave :: Stmt.frame rest
  | .give _ :: rest => .give .blank :: Stmt.frame rest
  | .expr _ :: rest => .expr .blank :: Stmt.frame rest
  | .assign target _ :: rest => .assign target .blank :: Stmt.frame rest
  | .when _ yes :: rest => .when .blank (Stmt.frame yes) :: Stmt.frame rest
  | .choose _ yes no :: rest =>
      .choose .blank (Stmt.frame yes) (Stmt.frame no) :: Stmt.frame rest

def ArrayItem.frame : ArrayItem → ArrayItem
  | .value _ => .value .blank
  | .pair _ _ => .pair .blank .blank

def Call.frame (call : Call) : Call :=
  ⟨call.name, Expr.blanks call.args⟩

def Chain.frame : Chain → Chain
  | ⟨.receiver _, first, rest⟩ => ⟨.receiver .blank, first.frame, rest.map Call.frame⟩
  | ⟨.static className, first, rest⟩ => ⟨.static className, first.frame, rest.map Call.frame⟩
  | ⟨.function, first, rest⟩ => ⟨.function, first.frame, rest.map Call.frame⟩

def Closure.frame : Closure → Closure
  | .arrow params _ => .arrow params .blank
  | .block params captures body => .block params captures (Stmt.frame body)

/-- The expression with blanks in the place of its children. -/
def Expr.frame : Expr → Expr
  | .array items => .array (items.map ArrayItem.frame)
  | .closure c => .closure c.frame
  | .chain c => .chain c.frame
  | .property _ name => .property .blank name
  | .unary op _ => .unary op .blank
  | .binary op _ _ => .binary op .blank .blank
  | .ternary _ _ _ => .ternary .blank .blank .blank
  | .elvis _ _ => .elvis .blank .blank
  | .group _ => .group .blank
  | leaf => leaf

/-!
# An expression is its frame and its children

Where frames agree there are as many children, so a list of children falls into the parts of the
frame in one way only.
-/

theorem Expr.blanks_eq_iff {as bs : List Expr} :
    Expr.blanks as = Expr.blanks bs ↔ as.length = bs.length := by
  unfold Expr.blanks
  constructor
  · intro h
    simpa using congrArg List.length h
  · intro h
    rw [List.map_const', List.map_const', h]

/-- How a frame and children determine a value. -/
structure Determined {α β : Type} (frame : α → β) (children : α → List Expr) : Prop where
  length_eq : ∀ {a b : α}, frame a = frame b → (children a).length = (children b).length
  ext : ∀ {a b : α}, frame a = frame b → children a = children b → a = b

theorem ArrayItem.determined : Determined ArrayItem.frame ArrayItem.children where
  length_eq {a b} h := by
    cases a <;> cases b <;> simp_all [ArrayItem.frame, ArrayItem.children]
  ext {a b} h hc := by
    cases a <;> cases b <;> simp only [ArrayItem.frame, reduceCtorEq] at h <;>
      simpa [ArrayItem.children] using hc

theorem Call.determined : Determined Call.frame Call.args where
  length_eq {a b} h := by
    simp only [Call.frame, Call.mk.injEq, Expr.blanks_eq_iff] at h
    exact h.2
  ext {a b} h hc := by
    cases a
    cases b
    simp_all [Call.frame]

theorem Determined.list {α β : Type} {frame : α → β} {children : α → List Expr}
    (h : Determined frame children) :
    Determined (List.map frame) (List.flatMap children) where
  length_eq {as bs} hf := by
    induction as generalizing bs with
    | nil =>
        cases bs with
        | nil => rfl
        | cons b bs => simp at hf
    | cons a as ih =>
        cases bs with
        | nil => simp at hf
        | cons b bs =>
            simp only [List.map_cons, List.cons.injEq] at hf
            simp only [List.flatMap_cons, List.length_append]
            rw [h.length_eq hf.1, ih hf.2]
  ext {as bs} hf hc := by
    induction as generalizing bs with
    | nil =>
        cases bs with
        | nil => rfl
        | cons b bs => simp at hf
    | cons a as ih =>
        cases bs with
        | nil => simp at hf
        | cons b bs =>
            simp only [List.map_cons, List.cons.injEq] at hf
            simp only [List.flatMap_cons] at hc
            have hparts := List.append_inj hc (h.length_eq hf.1)
            rw [h.ext hf.1 hparts.1, ih hf.2 hparts.2]

theorem Stmt.length_children_eq : {as bs : List Stmt} → Stmt.frame as = Stmt.frame bs →
    (Stmt.children as).length = (Stmt.children bs).length
  | [], bs, h => by
      cases bs with
      | nil => rfl
      | cons b _ => cases b <;> simp [Stmt.frame] at h
  | a :: as, [], h => by
      cases a <;> simp [Stmt.frame] at h
  | .leave :: as, b :: bs, h => by
      cases b <;> simp only [Stmt.frame, List.cons.injEq, reduceCtorEq, false_and, true_and] at h
      simpa [Stmt.children] using Stmt.length_children_eq h
  | .give _ :: as, b :: bs, h => by
      cases b <;> simp only [Stmt.frame, List.cons.injEq, reduceCtorEq, false_and, true_and] at h
      simpa [Stmt.children] using Stmt.length_children_eq h
  | .expr _ :: as, b :: bs, h => by
      cases b <;> simp only [Stmt.frame, List.cons.injEq, reduceCtorEq, false_and, true_and] at h
      simpa [Stmt.children] using Stmt.length_children_eq h
  | .assign _ _ :: as, b :: bs, h => by
      cases b <;> simp only [Stmt.frame, List.cons.injEq, reduceCtorEq, false_and] at h
      simpa [Stmt.children] using Stmt.length_children_eq h.2
  | .when _ yes :: as, b :: bs, h => by
      cases b <;> simp only [Stmt.frame, List.cons.injEq, reduceCtorEq, false_and,
        Stmt.when.injEq, true_and] at h
      simp [Stmt.children, Stmt.length_children_eq h.1, Stmt.length_children_eq h.2]
  | .choose _ yes no :: as, b :: bs, h => by
      cases b <;> simp only [Stmt.frame, List.cons.injEq, reduceCtorEq, false_and,
        Stmt.choose.injEq, true_and] at h
      simp [Stmt.children, Stmt.length_children_eq h.1.1, Stmt.length_children_eq h.1.2,
        Stmt.length_children_eq h.2]

theorem Stmt.eq_of_frame : {as bs : List Stmt} → Stmt.frame as = Stmt.frame bs →
    Stmt.children as = Stmt.children bs → as = bs
  | [], bs, h, _ => by
      cases bs with
      | nil => rfl
      | cons b _ => cases b <;> simp [Stmt.frame] at h
  | a :: as, [], h, _ => by
      cases a <;> simp [Stmt.frame] at h
  | .leave :: as, b :: bs, h, hc => by
      cases b <;> simp only [Stmt.frame, List.cons.injEq, reduceCtorEq, false_and, true_and] at h
      simp only [Stmt.children] at hc
      rw [Stmt.eq_of_frame h hc]
  | .give _ :: as, b :: bs, h, hc => by
      cases b <;> simp only [Stmt.frame, List.cons.injEq, reduceCtorEq, false_and, true_and] at h
      simp only [Stmt.children, List.cons.injEq] at hc
      rw [hc.1, Stmt.eq_of_frame h hc.2]
  | .expr _ :: as, b :: bs, h, hc => by
      cases b <;> simp only [Stmt.frame, List.cons.injEq, reduceCtorEq, false_and, true_and] at h
      simp only [Stmt.children, List.cons.injEq] at hc
      rw [hc.1, Stmt.eq_of_frame h hc.2]
  | .assign _ _ :: as, b :: bs, h, hc => by
      cases b <;> simp only [Stmt.frame, List.cons.injEq, reduceCtorEq, false_and,
        Stmt.assign.injEq, and_true] at h
      simp only [Stmt.children, List.cons.injEq] at hc
      rw [h.1, hc.1, Stmt.eq_of_frame h.2 hc.2]
  | .when _ yes :: as, b :: bs, h, hc => by
      cases b <;> simp only [Stmt.frame, List.cons.injEq, reduceCtorEq, false_and,
        Stmt.when.injEq, true_and] at h
      simp only [Stmt.children, List.cons.injEq] at hc
      have hparts := List.append_inj hc.2 (Stmt.length_children_eq h.1)
      rw [hc.1, Stmt.eq_of_frame h.1 hparts.1, Stmt.eq_of_frame h.2 hparts.2]
  | .choose _ yes no :: as, b :: bs, h, hc => by
      cases b <;> simp only [Stmt.frame, List.cons.injEq, reduceCtorEq, false_and,
        Stmt.choose.injEq, true_and] at h
      simp only [Stmt.children, List.cons.injEq] at hc
      have hyes := List.append_inj hc.2 (Stmt.length_children_eq h.1.1)
      have hno := List.append_inj hyes.2 (Stmt.length_children_eq h.1.2)
      rw [hc.1, Stmt.eq_of_frame h.1.1 hyes.1, Stmt.eq_of_frame h.1.2 hno.1,
        Stmt.eq_of_frame h.2 hno.2]

theorem Stmt.determined : Determined Stmt.frame Stmt.children where
  length_eq := Stmt.length_children_eq
  ext := Stmt.eq_of_frame

theorem Closure.determined : Determined Closure.frame Closure.children where
  length_eq {a b} h := by
    cases a <;> cases b <;> simp only [Closure.frame, reduceCtorEq, Closure.block.injEq] at h
    · rfl
    · exact Stmt.determined.length_eq h.2.2
  ext {a b} h hc := by
    cases a <;> cases b <;>
      simp only [Closure.frame, reduceCtorEq, Closure.block.injEq, Closure.arrow.injEq] at h
    · simp only [Closure.children, List.cons.injEq] at hc
      rw [h.1, hc.1]
    · rw [h.1, h.2.1, Stmt.determined.ext h.2.2 hc]

theorem Call.determined_cons {first first' : Call} {rest rest' : List Call}
    (hfirst : first.frame = first'.frame)
    (hrest : rest.map Call.frame = rest'.map Call.frame) :
    (first.args ++ rest.flatMap (·.args)).length =
        (first'.args ++ rest'.flatMap (·.args)).length ∧
      (first.args ++ rest.flatMap (·.args) = first'.args ++ rest'.flatMap (·.args) →
        first = first' ∧ rest = rest') := by
  have hlist : (first :: rest).map Call.frame = (first' :: rest').map Call.frame := by
    simp [hfirst, hrest]
  constructor
  · simpa using Call.determined.list.length_eq hlist
  · intro hargs
    simpa using Call.determined.list.ext hlist (by simpa using hargs)

theorem Chain.determined : Determined Chain.frame Chain.children where
  length_eq {a b} h := by
    rcases a with ⟨root, first, rest⟩
    rcases b with ⟨root', first', rest'⟩
    cases root <;> cases root' <;>
      simp only [Chain.frame, Chain.mk.injEq, reduceCtorEq, false_and] at h
    · exact (Call.determined_cons h.2.1 h.2.2).1
    · exact (Call.determined_cons h.2.1 h.2.2).1
    · have hcalls := (Call.determined_cons h.2.1 h.2.2).1
      simp only [Chain.children, List.length_cons, hcalls]
  ext {a b} h hc := by
    rcases a with ⟨root, first, rest⟩
    rcases b with ⟨root', first', rest'⟩
    cases root <;> cases root' <;>
      simp only [Chain.frame, Chain.mk.injEq, reduceCtorEq, false_and] at h
    · have hcalls := (Call.determined_cons h.2.1 h.2.2).2 hc
      rw [h.1, hcalls.1, hcalls.2]
    · have hcalls := (Call.determined_cons h.2.1 h.2.2).2 hc
      rw [hcalls.1, hcalls.2]
    · simp only [Chain.children, List.cons.injEq] at hc
      have hcalls := (Call.determined_cons h.2.1 h.2.2).2 hc.2
      rw [hc.1, hcalls.1, hcalls.2]

theorem Expr.determined : Determined Expr.frame Expr.children where
  length_eq {a b} h := by
    cases a <;> cases b <;> simp only [Expr.frame, reduceCtorEq, Expr.array.injEq,
      Expr.closure.injEq, Expr.chain.injEq] at h
    case array.array => exact ArrayItem.determined.list.length_eq h
    case closure.closure => exact Closure.determined.length_eq h
    case chain.chain => exact Chain.determined.length_eq h
    all_goals rfl
  ext {a b} h hc := by
    cases a <;> cases b <;> simp only [Expr.frame, reduceCtorEq, Expr.array.injEq,
      Expr.closure.injEq, Expr.chain.injEq] at h
    case array.array => rw [ArrayItem.determined.list.ext h hc]
    case closure.closure => rw [Closure.determined.ext h hc]
    case chain.chain => rw [Chain.determined.ext h hc]
    all_goals simp_all [Expr.children]

/-!
# Walking over the children

A walk that changes each part of a value walks over its children from left to right; the frame stays
and the results are the new children.
-/

section Walk

variable {σ : Type}

theorem stateM_run_bind {α β : Type} (x : StateM σ α) (f : α → StateM σ β) (s : σ) :
    (x >>= f).run s = (f (x.run s).1).run (x.run s).2 := rfl

theorem stateM_run_pure {α : Type} (a : α) (s : σ) :
    (pure a : StateM σ α).run s = (a, s) := rfl

theorem stateM_run_mapM_cons {α β : Type} (f : α → StateM σ β) (a : α) (as : List α) (s : σ) :
    ((a :: as).mapM f).run s =
      (((f a).run s).1 :: ((as.mapM f).run ((f a).run s).2).1,
        ((as.mapM f).run ((f a).run s).2).2) := by
  simp only [List.mapM_cons, stateM_run_bind, stateM_run_pure]

theorem stateM_mapM_preserves {α β : Type} {f : α → StateM σ β} {P : σ → Prop} {as : List α}
    (h : ∀ a ∈ as, ∀ s : σ, P s → P ((f a).run s).2) {s : σ} (hs : P s) :
    P ((as.mapM f).run s).2 := by
  induction as generalizing s with
  | nil => exact hs
  | cons a as ih =>
      rcases List.forall_mem_cons.mp h with ⟨ha, has⟩
      rw [stateM_run_mapM_cons]
      exact ih has (ha s hs)

/-- A walk over a value that acts on its children from left to right and keeps its frame. -/
def Fills {α β : Type} (frame : α → β) (children : α → List Expr) (f : Expr → StateM σ Expr)
    (walk : α → StateM σ α) : Prop :=
  ∀ (a : α) (s : σ),
    ((children a).mapM f).run s = (children ((walk a).run s).1, ((walk a).run s).2) ∧
      frame ((walk a).run s).1 = frame a

theorem Fills.list {α β : Type} {frame : α → β} {children : α → List Expr}
    {f : Expr → StateM σ Expr} {walk : α → StateM σ α} (h : Fills frame children f walk) :
    Fills (List.map frame) (List.flatMap children) f (List.mapM walk) := by
  intro as
  induction as with
  | nil =>
      intro s
      exact ⟨rfl, rfl⟩
  | cons a as ih =>
      intro s
      have ha := h a s
      have has := ih ((walk a).run s).2
      simp only [List.mapM_cons, List.flatMap_cons, List.mapM_append, stateM_run_bind,
        stateM_run_pure, ha.1, has.1, List.map_cons, ha.2, has.2, and_self]

theorem Call.fills (f : Expr → StateM σ Expr) :
    Fills Call.frame Call.args f (Call.mapArgsM f) := by
  intro call s
  have hlength : ∀ (as : List Expr) (s : σ), ((as.mapM f).run s).1.length = as.length := by
    intro as
    induction as with
    | nil =>
        intro s
        rfl
    | cons a as ih =>
        intro s
        simp only [List.mapM_cons, stateM_run_bind, stateM_run_pure, List.length_cons, ih]
  constructor
  · rfl
  · show Call.mk call.name (Expr.blanks ((call.args.mapM f).run s).1) = _
    rw [Expr.blanks_eq_iff.mpr (hlength call.args s)]
    rfl

theorem ArrayItem.fills (f : Expr → StateM σ Expr) :
    Fills ArrayItem.frame ArrayItem.children f (ArrayItem.mapChildrenM f) := by
  intro item s
  cases item with
  | value e => exact ⟨rfl, rfl⟩
  | pair key e => exact ⟨rfl, rfl⟩

theorem Stmt.fills (f : Expr → StateM σ Expr) : (stmts : List Stmt) → (s : σ) →
    ((Stmt.children stmts).mapM f).run s =
        (Stmt.children ((Stmt.mapChildrenM f stmts).run s).1,
          ((Stmt.mapChildrenM f stmts).run s).2) ∧
      Stmt.frame ((Stmt.mapChildrenM f stmts).run s).1 = Stmt.frame stmts
  | [], s => by
      simp only [Stmt.mapChildrenM, Stmt.children, List.mapM_nil, stateM_run_pure, and_self]
  | .leave :: rest, s => by
      have hrest := Stmt.fills f rest s
      simp only [Stmt.mapChildrenM, Stmt.children, Stmt.frame, stateM_run_bind, stateM_run_pure,
        hrest, and_self]
  | .give e :: rest, s => by
      have hrest := Stmt.fills f rest ((f e).run s).2
      simp only [Stmt.mapChildrenM, Stmt.children, Stmt.frame, List.mapM_cons, stateM_run_bind,
        stateM_run_pure, hrest, and_self]
  | .expr e :: rest, s => by
      have hrest := Stmt.fills f rest ((f e).run s).2
      simp only [Stmt.mapChildrenM, Stmt.children, Stmt.frame, List.mapM_cons, stateM_run_bind,
        stateM_run_pure, hrest, and_self]
  | .assign target e :: rest, s => by
      have hrest := Stmt.fills f rest ((f e).run s).2
      simp only [Stmt.mapChildrenM, Stmt.children, Stmt.frame, List.mapM_cons, stateM_run_bind,
        stateM_run_pure, hrest, and_self]
  | .when condition yes :: rest, s => by
      have hyes := Stmt.fills f yes ((f condition).run s).2
      have hrest := Stmt.fills f rest
        ((Stmt.mapChildrenM f yes).run ((f condition).run s).2).2
      simp only [Stmt.mapChildrenM, Stmt.children, Stmt.frame, List.mapM_cons, List.mapM_append,
        stateM_run_bind, stateM_run_pure, hyes, hrest, and_self]
  | .choose condition yes no :: rest, s => by
      have hyes := Stmt.fills f yes ((f condition).run s).2
      have hno := Stmt.fills f no
        ((Stmt.mapChildrenM f yes).run ((f condition).run s).2).2
      have hrest := Stmt.fills f rest
        ((Stmt.mapChildrenM f no).run
          ((Stmt.mapChildrenM f yes).run ((f condition).run s).2).2).2
      simp only [Stmt.mapChildrenM, Stmt.children, Stmt.frame, List.mapM_cons, List.mapM_append,
        stateM_run_bind, stateM_run_pure, hyes, hno, hrest, and_self]

theorem Closure.fills (f : Expr → StateM σ Expr) :
    Fills Closure.frame Closure.children f (Closure.mapChildrenM f) := by
  intro closure s
  cases closure with
  | arrow params body => exact ⟨rfl, rfl⟩
  | block params captures body =>
      have hbody := Stmt.fills f body s
      simp only [Closure.mapChildrenM, Closure.children, Closure.frame, stateM_run_bind,
        stateM_run_pure, hbody, and_self]

theorem Chain.fills (f : Expr → StateM σ Expr) :
    Fills Chain.frame Chain.children f (Chain.mapChildrenM f) := by
  intro chain s
  rcases chain with ⟨root, first, rest⟩
  cases root with
  | static className =>
      have hfirst := Call.fills f first s
      have hrest := (Call.fills f).list rest ((first.mapArgsM f).run s).2
      simp only [Chain.mapChildrenM, Chain.children, Chain.frame, List.mapM_append,
        stateM_run_bind, stateM_run_pure, hfirst, hrest, and_self]
  | function =>
      have hfirst := Call.fills f first s
      have hrest := (Call.fills f).list rest ((first.mapArgsM f).run s).2
      simp only [Chain.mapChildrenM, Chain.children, Chain.frame, List.mapM_append,
        stateM_run_bind, stateM_run_pure, hfirst, hrest, and_self]
  | receiver object =>
      have hfirst := Call.fills f first ((f object).run s).2
      have hrest := (Call.fills f).list rest
        ((first.mapArgsM f).run ((f object).run s).2).2
      simp only [Chain.mapChildrenM, Chain.children, Chain.frame, List.mapM_cons,
        List.mapM_append, stateM_run_bind, stateM_run_pure, hfirst, hrest, and_self]

/-- A walk over an expression acts on its children from left to right and keeps its frame. -/
theorem Expr.fills (f : Expr → StateM σ Expr) :
    Fills Expr.frame Expr.children f (Expr.mapChildrenM f) := by
  intro expr s
  cases expr with
  | array items =>
      have hitems := (ArrayItem.fills f).list items s
      simp only [Expr.mapChildrenM, Expr.children, Expr.frame, stateM_run_bind, stateM_run_pure,
        hitems, and_self]
  | closure c =>
      have hclosure := Closure.fills f c s
      simp only [Expr.mapChildrenM, Expr.children, Expr.frame, stateM_run_bind, stateM_run_pure,
        hclosure, and_self]
  | chain c =>
      have hchain := Chain.fills f c s
      simp only [Expr.mapChildrenM, Expr.children, Expr.frame, stateM_run_bind, stateM_run_pure,
        hchain, and_self]
  | _ => exact ⟨rfl, rfl⟩

/-- What a walk does to an expression depends only on what it does to the children. -/
theorem Expr.mapChildrenM_congr {f g : Expr → StateM σ Expr} {expr : Expr}
    (h : ∀ child ∈ expr.children, ∀ s, (f child).run s = (g child).run s) (s : σ) :
    (expr.mapChildrenM f).run s = (expr.mapChildrenM g).run s := by
  have hlist : ∀ (as : List Expr), (∀ child ∈ as, ∀ s, (f child).run s = (g child).run s) →
      ∀ s, (as.mapM f).run s = (as.mapM g).run s := by
    intro as
    induction as with
    | nil =>
        intro _ s
        rfl
    | cons a as ih =>
        intro hall s
        simp only [List.mapM_cons, stateM_run_bind, stateM_run_pure,
          hall a List.mem_cons_self, ih fun child hchild =>
            hall child (List.mem_cons_of_mem a hchild)]
  rcases Expr.fills f expr s with ⟨hf, hfframe⟩
  rcases Expr.fills g expr s with ⟨hg, hgframe⟩
  rw [hlist expr.children h s, hg] at hf
  rcases Prod.mk.inj hf with ⟨hchildren, hstate⟩
  have hexpr : ((expr.mapChildrenM g).run s).1 = ((expr.mapChildrenM f).run s).1 :=
    Expr.determined.ext (hgframe.trans hfframe.symm) hchildren
  exact Prod.ext hexpr.symm hstate.symm

theorem Expr.exists_children {expr : Expr} {exprs : List Expr}
    (h : exprs.length = expr.children.length) :
    ∃ changed : Expr, changed.frame = expr.frame ∧ changed.children = exprs := by
  let take : Expr → StateM (List Expr) Expr := fun _ exprs =>
    (exprs.headD Expr.blank, exprs.tail)
  have htake : ∀ (as exprs : List Expr), exprs.length = as.length →
      (as.mapM take).run exprs = (exprs, []) := by
    intro as
    induction as with
    | nil =>
        intro exprs hlength
        rw [List.length_eq_zero_iff.mp hlength]
        rfl
    | cons a as ih =>
        intro exprs hlength
        cases exprs with
        | nil => simp at hlength
        | cons expr exprs =>
            have hrest := ih exprs (Nat.succ.inj hlength)
            simp only [List.mapM_cons, stateM_run_bind, stateM_run_pure]
            show (expr :: ((as.mapM take).run exprs).1, ((as.mapM take).run exprs).2) = _
            rw [hrest]
  rcases Expr.fills take expr exprs with ⟨hchildren, hframe⟩
  rw [htake expr.children exprs h] at hchildren
  exact ⟨_, hframe, (Prod.mk.inj hchildren).1.symm⟩

/-- A walk over a site is a walk over the expression that the site is. -/
theorem Site.run_mapChildrenM (f : Expr → StateM σ Expr) (site : Site) (s : σ) :
    (site.toExpr.mapChildrenM f).run s =
      (((site.mapChildrenM f).run s).1.toExpr, ((site.mapChildrenM f).run s).2) := by
  cases site with
  | chain _ => rfl
  | closure _ => rfl
  | list items =>
      have hitems : ∀ (items : List Expr) (s : σ),
          ((items.map ArrayItem.value).mapM (ArrayItem.mapChildrenM f)).run s =
            (((items.mapM f).run s).1.map ArrayItem.value, ((items.mapM f).run s).2) := by
        intro items
        induction items with
        | nil =>
            intro s
            rfl
        | cons item items ih =>
            intro s
            simp only [List.map_cons, List.mapM_cons, ArrayItem.mapChildrenM, stateM_run_bind,
              stateM_run_pure, ih]
      simp only [Site.toExpr, Expr.mapChildrenM, Site.mapChildrenM, stateM_run_bind,
        stateM_run_pure, hitems]

end Walk

end FluentStyle
