import FluentStyle.Proofs.Rule.ArrowFunction
import Mathlib.Data.List.Basic

/-!
# Scopes

What the variables of an expression stand for, resolved from the outside in.  An arrow function sees
its parameters and the scope around it.  A block closure sees its parameters, what it captures,
`$this`, and variables of its own; to capture a variable is to read it in the scope around the
block.  A double-quoted literal reads the variables that it names.
-/

namespace FluentStyle

/-!
# Variables named in literals

Between double quotes a dollar sign names the variable that starts behind it, unless it is behind a
backslash.  Other quotes name none.
-/

namespace StringLiteral

def startsName (c : Char) : Bool :=
  c.isAlpha || c = '_' || decide (0x80 ≤ c.toNat)

def nameAfter? (text : List Char) : Option String :=
  match text.takeWhile fun c => startsName c || c.isDigit with
  | [] => none
  | c :: word => if startsName c then some (String.ofList ('$' :: c :: word)) else none

/-- The variables that are named between double quotes.  A backslash takes the next character with
it. -/
def namedIn : List Char → List String
  | [] => []
  | '\\' :: _ :: rest => namedIn rest
  | c :: rest => (if c = '$' then (nameAfter? rest).toList else []) ++ namedIn rest

def named (literal : StringLiteral) : List String :=
  if literal.quote = '"' then namedIn (literal.raw.toList.drop 1).dropLast else []

end StringLiteral

/-!
# Resolution

Occurrences are listed in reading order, with the number of closures around them; the targets of
assignments are among them.
-/

/-- What a variable stands for. -/
inductive Binder where
  /-- A parameter of the closure that is inside so many others. -/
  | parameter (depth : Nat)
  /-- A variable that this closure captures. -/
  | captured (depth : Nat)
  /-- A variable of this closure's own. -/
  | own (depth : Nat)
  /-- A variable outside of all closures. -/
  | outer
deriving DecidableEq, Repr

/-- What each variable stands for at some place. -/
def Scope : Type :=
  String → Binder

namespace Scope

def outside : Scope :=
  fun _ => .outer

def arrow (scope : Scope) (depth : Nat) (params : List Param) : Scope := fun name =>
  if params.any (·.name = name) then .parameter depth else scope name

def block (scope : Scope) (depth : Nat) (params : List Param) (captures : List Capture) : Scope :=
  fun name =>
    if params.any (·.name = name) then .parameter depth
    else if captures.any (·.name = name) then .captured depth
    else if name = "$this" then scope name
    else .own depth

end Scope

/-- A place where a variable is named, and what it stands for there. -/
structure Occurrence where
  name : String
  binder : Binder
  /-- Whether it is named in a literal. -/
  isQuoted : Bool
deriving DecidableEq, Repr

namespace Occurrence

def plain (scope : Scope) (name : String) : Occurrence :=
  ⟨name, scope name, false⟩

def quoted (scope : Scope) (name : String) : Occurrence :=
  ⟨name, scope name, true⟩

def within (scope : Scope) (o : Occurrence) : Occurrence :=
  if o.binder = .outer then { o with binder := scope o.name } else o

end Occurrence

mutual

/-- The occurrences of variables in an expression inside so many closures, in reading order. -/
def Expr.occurrences (depth : Nat) (scope : Scope) : Expr → List Occurrence
  | .literal literal => literal.named.map (Occurrence.quoted scope)
  | .number _ | .constant _ | .classConstant _ _ => []
  | .variable name => [Occurrence.plain scope name]
  | .array items => ArrayItem.occurrences depth scope items
  | .closure (.arrow params body) => body.occurrences (depth + 1) (scope.arrow depth params)
  | .closure (.block params captures body) =>
      captures.map (fun capture => Occurrence.plain scope capture.name) ++
        Stmt.occurrences (depth + 1) (scope.block depth params captures) body
  | .chain ⟨.receiver object, ⟨_, args⟩, rest⟩ =>
      object.occurrences depth scope ++
        (Expr.occurrencesAll depth scope args ++ Call.occurrences depth scope rest)
  | .chain ⟨.static _, ⟨_, args⟩, rest⟩ =>
      Expr.occurrencesAll depth scope args ++ Call.occurrences depth scope rest
  | .chain ⟨.function, ⟨name, args⟩, rest⟩ =>
      (if name.toList.head? = some '$' then [Occurrence.plain scope name] else []) ++
        (Expr.occurrencesAll depth scope args ++ Call.occurrences depth scope rest)
  | .property object _ => object.occurrences depth scope
  | .unary _ operand => operand.occurrences depth scope
  | .binary _ lhs rhs => lhs.occurrences depth scope ++ rhs.occurrences depth scope
  | .ternary condition yes no =>
      condition.occurrences depth scope ++
        (yes.occurrences depth scope ++ no.occurrences depth scope)
  | .elvis condition no => condition.occurrences depth scope ++ no.occurrences depth scope
  | .group inner => inner.occurrences depth scope

def Expr.occurrencesAll (depth : Nat) (scope : Scope) : List Expr → List Occurrence
  | [] => []
  | expr :: rest => expr.occurrences depth scope ++ Expr.occurrencesAll depth scope rest

def ArrayItem.occurrences (depth : Nat) (scope : Scope) : List ArrayItem → List Occurrence
  | [] => []
  | .value value :: rest =>
      value.occurrences depth scope ++ ArrayItem.occurrences depth scope rest
  | .pair key value :: rest =>
      key.occurrences depth scope ++
        (value.occurrences depth scope ++ ArrayItem.occurrences depth scope rest)

def Call.occurrences (depth : Nat) (scope : Scope) : List Call → List Occurrence
  | [] => []
  | ⟨_, args⟩ :: rest =>
      Expr.occurrencesAll depth scope args ++ Call.occurrences depth scope rest

def Stmt.occurrences (depth : Nat) (scope : Scope) : List Stmt → List Occurrence
  | [] => []
  | .leave :: rest => Stmt.occurrences depth scope rest
  | .give value :: rest => value.occurrences depth scope ++ Stmt.occurrences depth scope rest
  | .expr expr :: rest => expr.occurrences depth scope ++ Stmt.occurrences depth scope rest
  | .assign target value :: rest =>
      Occurrence.plain scope target ::
        (value.occurrences depth scope ++ Stmt.occurrences depth scope rest)
  | .when condition yes :: rest =>
      condition.occurrences depth scope ++
        (Stmt.occurrences depth scope yes ++ Stmt.occurrences depth scope rest)
  | .choose condition yes no :: rest =>
      condition.occurrences depth scope ++ (Stmt.occurrences depth scope yes ++
        (Stmt.occurrences depth scope no ++ Stmt.occurrences depth scope rest))

end

/-!
# Occurrences and children
-/

variable {depth : Nat} {scope : Scope}

theorem Expr.occurrencesAll_eq (exprs : List Expr) :
    occurrencesAll depth scope exprs = exprs.flatMap (occurrences depth scope) := by
  induction exprs with
  | nil => rfl
  | cons expr exprs ih => rw [occurrencesAll, ih, List.flatMap_cons]

theorem ArrayItem.occurrences_eq (items : List ArrayItem) :
    ArrayItem.occurrences depth scope items =
      (items.flatMap ArrayItem.children).flatMap (Expr.occurrences depth scope) := by
  induction items with
  | nil => rfl
  | cons item items ih =>
      cases item <;>
        simp only [ArrayItem.occurrences, ArrayItem.children, List.flatMap_cons,
          List.flatMap_append, List.flatMap_nil, List.append_nil, List.append_assoc, ih]

theorem Call.occurrences_eq (calls : List Call) :
    Call.occurrences depth scope calls =
      (calls.flatMap (·.args)).flatMap (Expr.occurrences depth scope) := by
  induction calls with
  | nil => rfl
  | cons call calls ih =>
      rcases call with ⟨name, args⟩
      rw [Call.occurrences, List.flatMap_cons, List.flatMap_append, ih, Expr.occurrencesAll_eq]

namespace Expr

def ownOccurrences (scope : Scope) : Expr → List Occurrence
  | .literal l => l.named.map (Occurrence.quoted scope)
  | expr => expr.ownVariables.map (Occurrence.plain scope)

theorem occurrences_eq {expr : Expr} (h : ∀ closure : Closure, expr ≠ .closure closure) :
    expr.occurrences depth scope =
      expr.ownOccurrences scope ++ expr.children.flatMap (occurrences depth scope) := by
  cases expr with
  | closure c => exact absurd rfl (h c)
  | array items => exact ArrayItem.occurrences_eq items
  | chain c =>
      rcases c with ⟨root, ⟨name, args⟩, rest⟩
      cases root with
      | function =>
          simp only [occurrences, ownOccurrences, ownVariables, children, Chain.children,
            List.flatMap_append, occurrencesAll_eq, Call.occurrences_eq]
          split <;> rfl
      | _ =>
          simp only [occurrences, ownOccurrences, ownVariables, children, Chain.children,
            List.flatMap_cons, List.flatMap_append, occurrencesAll_eq, Call.occurrences_eq,
            List.map_nil, List.nil_append]
  | _ =>
      simp only [occurrences, ownOccurrences, ownVariables, children, List.flatMap_cons,
        List.flatMap_nil, List.append_nil, List.map_nil, List.map_cons, List.nil_append]

end Expr

/-!
# Scopes around scopes

To look into one scope and then into the one around it is to look into both: what is still outside
of a scope was outside before, and the scope does not know it.
-/

namespace Occurrence

theorem within_plain (name : String) : (plain .outside name).within scope = plain scope name :=
  if_pos rfl

theorem within_quoted (name : String) : (quoted .outside name).within scope = quoted scope name :=
  if_pos rfl

theorem isQuoted_within (o : Occurrence) : (o.within scope).isQuoted = o.isQuoted := by
  unfold within
  split <;> rfl

theorem name_within (o : Occurrence) : (o.within scope).name = o.name := by
  unfold within
  split <;> rfl

theorem within_outer_iff {o : Occurrence} :
    (o.within scope).binder = .outer ↔ o.binder = .outer ∧ scope o.name = .outer := by
  unfold within
  split
  · rename_i h
    exact ⟨fun hscope => ⟨h, hscope⟩, fun hboth => hboth.2⟩
  · rename_i h
    exact ⟨fun houter => absurd houter h, fun hboth => absurd hboth.1 h⟩

theorem within_eq_iff {scope' : Scope} {o : Occurrence} :
    o.within scope = o.within scope' ↔ (o.binder = .outer → scope o.name = scope' o.name) := by
  unfold within
  by_cases h : o.binder = .outer
  · rw [if_pos h, if_pos h]
    constructor
    · intro heq _
      exact congrArg binder heq
    · intro heq
      rw [heq h]
  · rw [if_neg h, if_neg h]
    exact ⟨fun _ houter => absurd houter h, fun _ => rfl⟩

theorem within_within {inner both : Scope}
    (h : ∀ name : String, both name = if inner name = .outer then scope name else inner name)
    (o : Occurrence) : (o.within inner).within scope = o.within both := by
  unfold within
  rw [h]
  by_cases houter : o.binder = .outer
  · by_cases hinner : inner o.name = .outer
    · simp only [houter, hinner, if_true]
    · simp only [houter, hinner, if_true, if_false]
  · simp only [houter, if_false]

theorem within_arrow (params : List Param) (o : Occurrence) :
    (o.within (Scope.outside.arrow depth params)).within scope =
      o.within (scope.arrow depth params) := by
  apply within_within
  intro name
  unfold Scope.arrow
  split <;> rfl

theorem within_block (params : List Param) (captures : List Capture) (o : Occurrence) :
    (o.within (Scope.outside.block depth params captures)).within scope =
      o.within (scope.block depth params captures) := by
  apply within_within
  intro name
  unfold Scope.block
  split
  · rfl
  · split
    · rfl
    · split <;> rfl

end Occurrence

theorem Stmt.occurrences_eq_map : (stmts : List Stmt) →
    (∀ child ∈ Stmt.children stmts, child.occurrences depth scope =
      (child.occurrences depth .outside).map (Occurrence.within scope)) →
    Stmt.occurrences depth scope stmts =
      (Stmt.occurrences depth .outside stmts).map (Occurrence.within scope)
  | [], _ => rfl
  | .leave :: rest, h => by
      rw [children] at h
      simp only [occurrences, occurrences_eq_map rest h]
  | .give value :: rest, h => by
      rw [children, List.forall_mem_cons] at h
      simp only [occurrences, List.map_append, h.1, occurrences_eq_map rest h.2]
  | .expr e :: rest, h => by
      rw [children, List.forall_mem_cons] at h
      simp only [occurrences, List.map_append, h.1, occurrences_eq_map rest h.2]
  | .assign target value :: rest, h => by
      rw [children, List.forall_mem_cons] at h
      simp only [occurrences, List.map_cons, List.map_append, h.1, occurrences_eq_map rest h.2,
        Occurrence.within_plain]
  | .when condition yes :: rest, h => by
      rw [children, List.forall_mem_cons, List.forall_mem_append] at h
      simp only [occurrences, List.map_append, h.1, occurrences_eq_map yes h.2.1,
        occurrences_eq_map rest h.2.2]
  | .choose condition yes no :: rest, h => by
      rw [children, List.forall_mem_cons, List.forall_mem_append, List.forall_mem_append] at h
      simp only [occurrences, List.map_append, h.1, occurrences_eq_map yes h.2.1,
        occurrences_eq_map no h.2.2.1, occurrences_eq_map rest h.2.2.2]

namespace Expr

theorem ownOccurrences_eq_map (expr : Expr) :
    expr.ownOccurrences scope =
      (expr.ownOccurrences .outside).map (Occurrence.within scope) := by
  cases expr with
  | literal l =>
      rw [ownOccurrences, ownOccurrences, List.map_map]
      exact List.map_congr_left fun name _ => (Occurrence.within_quoted name).symm
  | _ =>
      rw [ownOccurrences, ownOccurrences, List.map_map]
      · exact List.map_congr_left fun name _ => (Occurrence.within_plain name).symm
      · intro l h
        cases h
      · intro l h
        cases h

/-- To resolve an expression in a scope is to resolve it with nothing around it and to look up in
the scope what is outside then. -/
theorem occurrences_eq_map (expr : Expr) (depth : Nat) (scope : Scope) :
    expr.occurrences depth scope =
      (expr.occurrences depth .outside).map (Occurrence.within scope) := by
  induction expr using closure_induction generalizing depth scope with
  | other expr hclosure ih =>
      rw [occurrences_eq hclosure, occurrences_eq hclosure, List.map_append,
        ← ownOccurrences_eq_map, List.map_flatMap]
      exact congrArg _ (List.flatMap_congr fun child hchild => ih child hchild depth scope)
  | arrow params body ih =>
      have hbody := ih (depth + 1)
      rw [occurrences, occurrences, hbody, hbody (Scope.arrow _ _ _), List.map_map]
      exact List.map_congr_left fun o _ => (Occurrence.within_arrow params o).symm
  | block params captures body ih =>
      have hbody : ∀ scope : Scope, Stmt.occurrences (depth + 1) scope body =
          (Stmt.occurrences (depth + 1) .outside body).map (Occurrence.within scope) :=
        fun scope => Stmt.occurrences_eq_map body fun child hchild =>
          ih child hchild (depth + 1) scope
      rw [occurrences, occurrences, hbody, hbody (Scope.block _ _ _ _), List.map_append,
        List.map_map, List.map_map]
      exact congrArg₂ _
        (List.map_congr_left fun capture _ => (Occurrence.within_plain capture.name).symm)
        (List.map_congr_left fun o _ => (Occurrence.within_block params captures o).symm)

end Expr

/-!
# Variables read from outside

Outside of literals, these are the variables that an expression reads from the scope around it, and
`$this`, which a block closure sees without capturing it.
-/

theorem Scope.eq_this_of_block_outer {params : List Param} {captures : List Capture} {name : String}
    (h : scope.block depth params captures name = .outer) : name = "$this" := by
  unfold Scope.block at h
  split at h
  · cases h
  · split at h
    · cases h
    · split at h
      · assumption
      · cases h

theorem Scope.arrow_outside_iff {params : List Param} {name : String} :
    Scope.outside.arrow depth params name = .outer ↔ params.any (·.name = name) = false := by
  unfold Scope.arrow
  split
  · rename_i h
    rw [h]
    constructor <;> intro h <;> cases h
  · rename_i h
    exact ⟨fun _ => Bool.eq_false_iff.mpr h, fun _ => rfl⟩

namespace Expr

theorem name_mem_ownVariables {expr : Expr} {o : Occurrence} (ho : o ∈ expr.ownOccurrences scope)
    (hplain : o.isQuoted = false) : o.name ∈ expr.ownVariables := by
  cases expr with
  | literal l =>
      rcases List.mem_map.mp ho with ⟨name, _, rfl⟩
      cases hplain
  | _ =>
      rcases List.mem_map.mp ho with ⟨name, hname, rfl⟩
      exact hname

theorem plain_mem_ownOccurrences {expr : Expr} {name : String} (h : name ∈ expr.ownVariables) :
    Occurrence.plain scope name ∈ expr.ownOccurrences scope := by
  cases expr with
  | literal l => cases h
  | _ => exact List.mem_map_of_mem h

theorem mem_freeVariables_of_outer {expr : Expr} {o : Occurrence}
    (ho : o ∈ expr.occurrences depth .outside) (houter : o.binder = .outer)
    (hplain : o.isQuoted = false) : o.name ∈ expr.freeVariables ∨ o.name = "$this" := by
  induction expr using closure_induction generalizing depth o with
  | other expr hclosure ih =>
      rw [occurrences_eq hclosure, List.mem_append, List.mem_flatMap] at ho
      rw [freeVariables_eq hclosure, List.mem_append, List.mem_flatMap]
      rcases ho with hown | ⟨child, hchild, ho⟩
      · exact Or.inl (Or.inl (name_mem_ownVariables hown hplain))
      · rcases ih child hchild ho houter hplain with hname | hthis
        · exact Or.inl (Or.inr ⟨child, hchild, hname⟩)
        · exact Or.inr hthis
  | arrow params body ih =>
      rw [occurrences, occurrences_eq_map, List.mem_map] at ho
      rcases ho with ⟨inner, hinner, rfl⟩
      rw [Occurrence.isQuoted_within] at hplain
      rcases Occurrence.within_outer_iff.mp houter with ⟨houter, hname⟩
      rw [Occurrence.name_within, freeVariables, List.mem_filter, Bool.not_eq_true']
      rcases ih hinner houter hplain with hmem | hthis
      · exact Or.inl ⟨hmem, Scope.arrow_outside_iff.mp hname⟩
      · exact Or.inr hthis
  | block params captures body =>
      rw [occurrences, List.mem_append] at ho
      rcases ho with hcapture | hbody
      · rcases List.mem_map.mp hcapture with ⟨capture, hmem, rfl⟩
        exact Or.inl (List.mem_map_of_mem hmem)
      · rw [Stmt.occurrences_eq_map body fun child _ => child.occurrences_eq_map _ _,
          List.mem_map] at hbody
        rcases hbody with ⟨inner, _, rfl⟩
        rw [Occurrence.name_within]
        exact Or.inr (Scope.eq_this_of_block_outer (Occurrence.within_outer_iff.mp houter).2)

theorem plain_mem_occurrences {expr : Expr} {name : String} (h : name ∈ expr.freeVariables) :
    Occurrence.plain .outside name ∈ expr.occurrences depth .outside := by
  induction expr using closure_induction generalizing depth name with
  | other expr hclosure ih =>
      rw [freeVariables_eq hclosure, List.mem_append, List.mem_flatMap] at h
      rw [occurrences_eq hclosure, List.mem_append, List.mem_flatMap]
      rcases h with hown | ⟨child, hchild, hname⟩
      · exact Or.inl (plain_mem_ownOccurrences hown)
      · exact Or.inr ⟨child, hchild, ih child hchild hname⟩
  | arrow params body ih =>
      rw [freeVariables, List.mem_filter, Bool.not_eq_true'] at h
      rw [occurrences, occurrences_eq_map, List.mem_map]
      refine ⟨_, ih h.1, ?_⟩
      rw [Occurrence.within_plain, Occurrence.plain, Scope.arrow_outside_iff.mpr h.2]
      rfl
  | block params captures body =>
      rcases List.mem_map.mp h with ⟨capture, hmem, rfl⟩
      rw [occurrences, List.mem_append]
      exact Or.inl (List.mem_map_of_mem hmem)

end Expr

end FluentStyle
