import FluentStyle.Rule.BareFlag
import FluentStyle.Rule.Confirmation
import FluentStyle.Rule.Relationship
import FluentStyle.Rule.Visibility

/-!
# What is replaced

Three rules replace the first call of a declaration that they have a replacement for.  Each of them
knows just one form of such calls.  A fourth one replaces all calls that it knows.
-/

namespace FluentStyle

/-!
# Listed options
-/

namespace Call

def pluck (column key : StringLiteral) : Call :=
  ⟨"pluck", [.literal column, .literal key]⟩

/-- The six ways to list a column of all records by a key. -/
inductive Plucks (column key : StringLiteral) : List Call → Prop where
  | plain : Plucks column key [pluck column key]
  | all : Plucks column key [⟨"all", []⟩, pluck column key]
  | query : Plucks column key [⟨"query", []⟩, pluck column key]
  | plainArray : Plucks column key [pluck column key, ⟨"toArray", []⟩]
  | allArray : Plucks column key [⟨"all", []⟩, pluck column key, ⟨"toArray", []⟩]
  | queryArray : Plucks column key [⟨"query", []⟩, pluck column key, ⟨"toArray", []⟩]

theorem withoutToArray_cases (calls : List Call) :
    calls = withoutToArray calls ∨ calls = withoutToArray calls ++ [⟨"toArray", []⟩] := by
  unfold withoutToArray
  split
  · rename_i hlast
    rcases List.getLast?_eq_some_iff.mp hlast with ⟨others, rfl⟩
    rw [List.dropLast_concat]
    exact Or.inr rfl
  · exact Or.inl rfl

theorem withoutQuery_cases (calls : List Call) :
    calls = withoutQuery calls ∨ calls = ⟨"all", []⟩ :: withoutQuery calls ∨
      calls = ⟨"query", []⟩ :: withoutQuery calls := by
  unfold withoutQuery
  split
  · exact Or.inr (Or.inl rfl)
  · exact Or.inr (Or.inr rfl)
  · exact Or.inl rfl

theorem plucks_iff {column key : StringLiteral} {calls : List Call} :
    Plucks column key calls ↔ withoutQuery (withoutToArray calls) = [pluck column key] := by
  constructor
  · intro h
    cases h <;> rfl
  · intro h
    -- Either end may have lost a call or not, in two ways at the front.
    rcases withoutToArray_cases calls with harray | harray <;>
      rcases withoutQuery_cases (withoutToArray calls) with hquery | hquery | hquery <;>
      rw [harray, hquery, h] <;> constructor

def Lists (column : StringLiteral) (options : List Expr) : Prop :=
  ∃ (className : String) (first : Call) (rest : List Call) (key : StringLiteral),
    options = [.chain ⟨.static className, first, rest⟩] ∧ Plucks column key (first :: rest) ∧
      key.value = "id"

theorem pluckedColumn?_eq_some {options : Call} {column : StringLiteral} :
    options.pluckedColumn? = some column ↔ Lists column options.args := by
  rcases options with ⟨name, args⟩
  constructor
  · intro h
    unfold pluckedColumn? at h
    split at h
    · rename_i className first rest hargs
      split at h
      · rename_i found key hcalls
        split at h
        · rename_i hkey
          cases h
          exact ⟨className, first, rest, key, hargs, plucks_iff.mpr hcalls, hkey⟩
        · cases h
      · cases h
    · cases h
  · rintro ⟨className, first, rest, key, hargs, hplucks, hkey⟩
    obtain rfl : args = [.chain ⟨.static className, first, rest⟩] := hargs
    simp only [pluckedColumn?, plucks_iff.mp hplucks, pluck]
    rw [if_pos hkey]

end Call

/-!
# Calls
-/

namespace Call

variable {call : Call} {new : List Call}

theorem shown?_eq_some (h : call.shown? = some new) :
    ∃ condition shown : Expr, call = ⟨"hidden", [condition]⟩ ∧ condition.unnegated? = some shown ∧
      new = [⟨"visible", [shown]⟩] := by
  unfold shown? at h
  split at h
  · rename_i condition
    rcases Option.map_eq_some_iff.mp h with ⟨shown, hshown, rfl⟩
    exact ⟨condition, shown, rfl, hshown, rfl⟩
  · cases h

theorem unguarded?_eq_some (h : call.unguarded? = some new) :
    ∃ (params : List Param) (captures : List Capture) (guard step : Stmt) (steps : List Stmt)
        (question : StringLiteral),
      call = ⟨"action", [.closure (.block params captures (guard :: step :: steps))]⟩ ∧
      guard.question? = some question ∧
      new = [⟨"requiresConfirmation", []⟩, ⟨"modalDescription", [.literal question]⟩,
        ⟨"action", [.closure (.block params captures (step :: steps))]⟩] := by
  unfold unguarded? at h
  split at h
  · rename_i params captures guard step steps
    rcases Option.map_eq_some_iff.mp h with ⟨question, hquestion, rfl⟩
    exact ⟨params, captures, guard, step, steps, question, rfl, hquestion, rfl⟩
  · cases h

theorem bound?_eq_some {relation : StringLiteral} :
    call.bound? relation = some new ↔
      ∃ (options : List Expr) (column : StringLiteral), call = ⟨"options", options⟩ ∧
        call.pluckedColumn? = some column ∧
        new = [⟨"relationship", [.literal relation, .literal column]⟩] := by
  rcases call with ⟨name, args⟩
  unfold bound?
  simp only [Option.ite_none_right_eq_some, Option.map_eq_some_iff]
  constructor
  · rintro ⟨rfl, column, hcolumn, rfl⟩
    exact ⟨args, column, rfl, hcolumn, rfl⟩
  · rintro ⟨options, column, hcall, hcolumn, rfl⟩
    cases hcall
    exact ⟨rfl, column, hcolumn, rfl⟩

end Call

/-!
# Declarations
-/

namespace Chain

variable {style : Conventions} {chain changed : Chain}

theorem exists_shown (h : chain.shown? style = some changed) :
    ∃ rest : List Call, Call.replaceFirst? Call.shown? chain.rest = some rest ∧
      changed = { chain with rest } := by
  unfold shown? at h
  split at h
  · rcases Option.map_eq_some_iff.mp h with ⟨rest, hrest, rfl⟩
    exact ⟨rest, hrest, rfl⟩
  · cases h

theorem exists_unguarded (h : chain.unguarded? style = some changed) :
    ∃ rest : List Call, Call.replaceFirst? Call.unguarded? chain.rest = some rest ∧
      changed = { chain with rest } := by
  unfold unguarded? at h
  split at h
  · rcases Option.map_eq_some_iff.mp h with ⟨rest, hrest, rfl⟩
    exact ⟨rest, hrest, rfl⟩
  · cases h

theorem bound?_eq_some_iff {classes : List String} :
    chain.bound? style classes = some changed ↔
      style.isDeclaration chain = true ∧ chain.hasCall "relationship" = false ∧
      chain.className?.any classes.contains = true ∧
      ∃ (field : StringLiteral) (relation : String), chain.fieldName? = some field ∧
        relationName? field.value = some relation ∧
        ∃ rest : List Call,
          Call.replaceFirst? (Call.bound? (field.withValue relation)) chain.rest = some rest ∧
            changed = { chain with rest } := by
  unfold bound?
  rw [Option.ite_none_right_eq_some, Bool.and_eq_true, Bool.and_eq_true, Bool.not_eq_true',
    and_assoc, and_assoc]
  refine and_congr_right fun _ => and_congr_right fun _ => and_congr_right fun _ => ?_
  cases hfield : chain.fieldName? with
  | none => simp
  | some field =>
      cases hrelation : relationName? field.value with
      | none => simp [hrelation]
      | some relation => simp [hrelation, Option.map_eq_some_iff, @eq_comm _ changed]

theorem exists_bound {classes : List String} (h : chain.bound? style classes = some changed) :
    ∃ (field : StringLiteral) (relation : String) (rest : List Call),
      Call.replaceFirst? (Call.bound? (field.withValue relation)) chain.rest = some rest ∧
        changed = { chain with rest } := by
  rcases bound?_eq_some_iff.mp h with ⟨-, -, -, field, relation, -, -, rest, hrest, rfl⟩
  exact ⟨field, relation, rest, hrest, rfl⟩

theorem bared?_eq_some {flags : List String} (h : chain.bared? style flags = some changed) :
    chain.rest.any (·.isTrueFlag flags) = true ∧
      changed = { chain with rest := chain.rest.map (·.bared flags) } := by
  unfold bared? at h
  split at h
  · rename_i hflag
    rw [Bool.and_eq_true] at hflag
    exact ⟨hflag.2, (Option.some.inj h).symm⟩
  · cases h

theorem shown?_eq_some (h : chain.shown? style = some changed) :
    ∃ (before after : List Call) (condition shown : Expr),
      chain.rest = before ++ ⟨"hidden", [condition]⟩ :: after ∧
      condition.unnegated? = some shown ∧
      changed = { chain with rest := before ++ ⟨"visible", [shown]⟩ :: after } := by
  rcases exists_shown h with ⟨rest, hrest, rfl⟩
  rcases Call.replaceFirst?_eq_some.mp hrest with ⟨before, call, after, new, hcalls, -, hnew, rfl⟩
  rcases Call.shown?_eq_some hnew with ⟨condition, shown, rfl, hshown, rfl⟩
  exact ⟨before, after, condition, shown, hcalls, hshown, rfl⟩

theorem unguarded?_eq_some (h : chain.unguarded? style = some changed) :
    ∃ (before after : List Call) (params : List Param) (captures : List Capture)
        (guard step : Stmt) (steps : List Stmt) (question : StringLiteral),
      chain.rest = before ++
        ⟨"action", [.closure (.block params captures (guard :: step :: steps))]⟩ :: after ∧
      guard.question? = some question ∧
      changed = { chain with
        rest := before ++ [⟨"requiresConfirmation", []⟩, ⟨"modalDescription", [.literal question]⟩,
          ⟨"action", [.closure (.block params captures (step :: steps))]⟩] ++ after } := by
  rcases exists_unguarded h with ⟨rest, hrest, rfl⟩
  rcases Call.replaceFirst?_eq_some.mp hrest with ⟨before, call, after, new, hcalls, -, hnew, rfl⟩
  rcases Call.unguarded?_eq_some hnew with
    ⟨params, captures, guard, step, steps, question, rfl, hquestion, rfl⟩
  rw [← List.append_assoc]
  exact ⟨before, after, params, captures, guard, step, steps, question, hcalls, hquestion, rfl⟩

theorem bound?_eq_some {classes : List String} (h : chain.bound? style classes = some changed) :
    ∃ (before after : List Call) (options : List Expr) (relation column : StringLiteral),
      chain.rest = before ++ ⟨"options", options⟩ :: after ∧
      Call.pluckedColumn? ⟨"options", options⟩ = some column ∧
      changed = { chain with
        rest := before ++ ⟨"relationship", [.literal relation, .literal column]⟩ :: after } := by
  rcases exists_bound h with ⟨field, relation, rest, hrest, rfl⟩
  rcases Call.replaceFirst?_eq_some.mp hrest with ⟨before, call, after, new, hcalls, -, hnew, rfl⟩
  rcases Call.bound?_eq_some.mp hnew with ⟨options, column, rfl, hcolumn, rfl⟩
  exact ⟨before, after, options, field.withValue relation, column, hcalls, hcolumn, rfl⟩

end Chain

end FluentStyle
