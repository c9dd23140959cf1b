import FluentStyle.Proofs.Rule.Scope

/-!
# What an arrow function takes along

A block closure is written as an arrow function just if all that its value reads from outside, but
for the literals in it, is `$this`.  Then every variable outside of literals stands for the same
before and after, whatever is around the closure.  Those in literals do so just if they, too, are
`$this` where they are not bound inside.
-/

namespace FluentStyle

namespace Closure

variable {params : List Param} {value : Expr} {depth : Nat} {scope : Scope}

/-!
# One value in two scopes

An arrow function and a block closure without captures see parameters and `$this` alike, so
occurrences that are `$this` if they are resolved outside stand for the same in both.
-/

theorem occurrences_arrow (params : List Param) (value : Expr) (depth : Nat) (scope : Scope) :
    (Expr.closure (.arrow params value)).occurrences depth scope =
      (value.occurrences (depth + 1) .outside).map
        (Occurrence.within (scope.arrow depth params)) := by
  rw [Expr.occurrences]
  exact value.occurrences_eq_map _ _

theorem occurrences_block (params : List Param) (value : Expr) (depth : Nat) (scope : Scope) :
    (Expr.closure (.block params [] [.give value])).occurrences depth scope =
      (value.occurrences (depth + 1) .outside).map
        (Occurrence.within (scope.block depth params [])) := by
  simp only [Expr.occurrences, Stmt.occurrences, List.map_nil, List.nil_append, List.append_nil]
  exact value.occurrences_eq_map _ _

theorem arrow_eq_block {name : String}
    (h : Scope.outside.arrow depth params name = .outer → name = "$this") :
    scope.arrow depth params name = scope.block depth params [] name := by
  unfold Scope.arrow Scope.block
  split
  · rfl
  · rename_i hparam
    rw [if_pos (h (Scope.arrow_outside_iff.mpr (Bool.eq_false_iff.mpr hparam)))]
    rfl

theorem occurrences_arrow_eq_block (keep : Occurrence → Bool)
    (hkeep : ∀ (scope : Scope) (o : Occurrence), keep (o.within scope) = keep o)
    (h : ∀ o ∈ (Expr.closure (.arrow params value)).occurrences depth .outside,
      keep o = true → o.binder = .outer → o.name = "$this") :
    ((Expr.closure (.arrow params value)).occurrences depth scope).filter keep =
      ((Expr.closure (.block params [] [.give value])).occurrences depth scope).filter keep := by
  have hfilter : ∀ (scope : Scope) (os : List Occurrence),
      (os.map (Occurrence.within scope)).filter keep =
        (os.filter keep).map (Occurrence.within scope) := by
    intro scope os
    rw [List.filter_map]
    exact congrArg _ (List.filter_congr fun o _ => hkeep scope o)
  rw [occurrences_arrow, occurrences_block, hfilter, hfilter]
  apply List.map_congr_left
  intro o ho
  rcases List.mem_filter.mp ho with ⟨hmem, hkept⟩
  refine Occurrence.within_eq_iff.mpr fun houter => arrow_eq_block fun hseen => ?_
  rw [occurrences_arrow] at h
  have hthis := h _ (List.mem_map_of_mem hmem) ((hkeep _ o).trans hkept)
    (Occurrence.within_outer_iff.mpr ⟨houter, hseen⟩)
  rwa [Occurrence.name_within] at hthis

/-!
# Variables outside of literals
-/

theorem toArrow?_isSome_iff :
    (block params [] [.give value]).toArrow?.isSome = true ↔
      ∀ name ∈ value.freeVariables, params.any (·.name = name) = false → name = "$this" := by
  rw [Option.isSome_iff_exists]
  constructor
  · rintro ⟨changed, h⟩
    rcases toArrow?_eq_some_iff.mp h with ⟨params', value', hclosure, hread, -⟩
    cases hclosure
    exact hread
  · intro hread
    exact ⟨_, toArrow?_eq_some_iff.mpr ⟨params, value, rfl, hread, rfl⟩⟩

theorem eq_this_of_plain_outer {closure changed : Closure} (h : closure.toArrow? = some changed)
    {o : Occurrence} (ho : o ∈ (Expr.closure changed).occurrences depth .outside)
    (hplain : o.isQuoted = false) (houter : o.binder = .outer) : o.name = "$this" := by
  rcases Expr.mem_freeVariables_of_outer ho houter hplain with hfree | hthis
  · exact eq_this_of_toArrow? h hfree
  · exact hthis

/-- A block closure that captures nothing and only returns a value can be written as an arrow
function just if the variables of the value that are resolved outside of its parameters are `$this`.
All its variables then stand for the same in both. -/
theorem toArrow?_resolves (params : List Param) (value : Expr) (depth : Nat) :
    ((block params [] [.give value]).toArrow?.isSome = true ↔
      ∀ o ∈ value.occurrences (depth + 1) (Scope.outside.arrow depth params),
        o.isQuoted = false → o.binder = .outer → o.name = "$this") ∧
    ∀ changed : Closure, (block params [] [.give value]).toArrow? = some changed →
      changed = .arrow params value ∧
      ∀ scope : Scope,
        ((Expr.closure changed).occurrences depth scope).filter (fun o => !o.isQuoted) =
          ((Expr.closure (block params [] [.give value])).occurrences depth scope).filter
            (fun o => !o.isQuoted) := by
  have hchanged : ∀ changed : Closure, (block params [] [.give value]).toArrow? = some changed →
      changed = .arrow params value := by
    intro changed h
    rcases toArrow?_eq_some h with ⟨_, _, hsame, rfl⟩
    cases hsame
    rfl
  constructor
  · constructor
    · intro h o ho hplain houter
      rcases Option.isSome_iff_exists.mp h with ⟨changed, h⟩
      have hsame := hchanged changed h
      subst hsame
      exact eq_this_of_plain_outer h ho hplain houter
    · intro h
      rw [toArrow?_isSome_iff]
      intro name hname hparam
      rw [Expr.occurrences_eq_map] at h
      have hseen : Scope.outside.arrow depth params name = .outer :=
        Scope.arrow_outside_iff.mpr hparam
      exact h _ (List.mem_map_of_mem (Expr.plain_mem_occurrences hname)) rfl hseen
  · intro changed h
    have hsame := hchanged changed h
    subst hsame
    refine ⟨rfl, ?_⟩
    intro scope
    apply occurrences_arrow_eq_block fun o => !o.isQuoted
    · intro scope o
      rw [Occurrence.isQuoted_within]
    · intro o ho hplain houter
      exact eq_this_of_plain_outer h ho (by simpa using hplain) houter

/-- A parameter that is called, one that is shadowed, one that is captured, and `$this` in a block.
-/
theorem toArrow?_resolves_nested :
    let param (name : String) : Param := ⟨none, name⟩
    let joined (a b : String) : Expr := .binary (.sign .concat) (.variable a) (.variable b)
    let value : Expr := .chain ⟨.function, ⟨"$each",
      [.closure (.arrow [param "$state"] (joined "$state" "$record")),
        .closure (.block [param "$item"] [⟨false, "$state"⟩]
          [.assign "$text" (joined "$state" "$this"), .give (joined "$text" "$item")])]⟩, []⟩
    let params := ["$each", "$state", "$record"].map param
    value.occurrences 1 (Scope.outside.arrow 0 params) =
        [⟨"$each", .parameter 0, false⟩,
          ⟨"$state", .parameter 1, false⟩, ⟨"$record", .parameter 0, false⟩,
          ⟨"$state", .parameter 0, false⟩,
          ⟨"$text", .own 1, false⟩, ⟨"$state", .captured 1, false⟩, ⟨"$this", .outer, false⟩,
          ⟨"$text", .own 1, false⟩, ⟨"$item", .parameter 1, false⟩] ∧
      (Closure.block params [] [.give value]).toArrow? = some (.arrow params value) ∧
      ∀ (depth : Nat) (scope : Scope),
        ((Expr.closure (.arrow params value)).occurrences depth scope).filter
            (fun o => !o.isQuoted) =
          ((Expr.closure (.block params [] [.give value])).occurrences depth scope).filter
            (fun o => !o.isQuoted) := by
  intro param joined value params
  refine ⟨rfl, rfl, ?_⟩
  intro depth
  exact ((toArrow?_resolves params value depth).2 _ rfl).2

/-!
# Variables in literals

The condition that a closure has to meet does not look into literals, so a variable that one of them
names may be taken along from outside.
-/

/-- All variables, those in literals among them, stand for the same after a block closure is written
as an arrow function just if those in literals that are not bound inside are `$this`. -/
theorem toArrow?_keeps_readings_iff {closure changed : Closure}
    (h : closure.toArrow? = some changed) (depth : Nat) :
    (∀ scope : Scope, (Expr.closure changed).occurrences depth scope =
        (Expr.closure closure).occurrences depth scope) ↔
      ∀ o ∈ (Expr.closure changed).occurrences depth .outside,
        o.isQuoted = true → o.binder = .outer → o.name = "$this" := by
  rcases toArrow?_eq_some h with ⟨params, value, rfl, rfl⟩
  constructor
  · intro hsame o ho _ houter
    rw [hsame, occurrences_block] at ho
    rcases List.mem_map.mp ho with ⟨inner, _, rfl⟩
    rw [Occurrence.name_within]
    exact Scope.eq_this_of_block_outer (Occurrence.within_outer_iff.mp houter).2
  · intro hquoted scope
    have hthis : ∀ o ∈ (Expr.closure (.arrow params value)).occurrences depth .outside,
        true = true → o.binder = .outer → o.name = "$this" := by
      intro o ho _ houter
      cases hcase : o.isQuoted with
      | true => exact hquoted o ho hcase houter
      | false => exact eq_this_of_plain_outer h ho hcase houter
    have hall : ((Expr.closure (.arrow params value)).occurrences depth scope).filter
        (fun _ => true) = _ := occurrences_arrow_eq_block (fun _ => true) (fun _ _ => rfl) hthis
    rwa [List.filter_true, List.filter_true] at hall

/-- A literal that names a parameter of the closure, one of an arrow function inside it, `$this`,
and behind a backslash nothing. -/
theorem toArrow?_keeps_readings_bound :
    let value : Expr := .closure (.arrow [⟨none, "$item"⟩]
      (.literal ⟨"\"$record \\$state $item $this\""⟩))
    let closure := Closure.block [⟨none, "$record"⟩] [] [.give value]
    let changed := Closure.arrow [⟨none, "$record"⟩] value
    closure.toArrow? = some changed ∧
      (Expr.closure changed).occurrences 0 .outside =
        [⟨"$record", .parameter 0, true⟩, ⟨"$item", .parameter 1, true⟩, ⟨"$this", .outer, true⟩] ∧
      ∀ scope : Scope, (Expr.closure changed).occurrences 0 scope =
        (Expr.closure closure).occurrences 0 scope := by
  intro value closure changed
  have h : closure.toArrow? = some changed := rfl
  have hoccurrences : (Expr.closure changed).occurrences 0 .outside =
      [⟨"$record", .parameter 0, true⟩, ⟨"$item", .parameter 1, true⟩, ⟨"$this", .outer, true⟩] :=
    rfl
  refine ⟨h, hoccurrences, (toArrow?_keeps_readings_iff h 0).mpr ?_⟩
  rw [hoccurrences]
  decide

/-- A closure that is written as an arrow function although a literal in it names a variable from
outside: before, it is one of the closure's own, and afterwards the one around the closure. -/
theorem toArrow?_takes_along :
    let value : Expr := .literal ⟨"\"hi $name\""⟩
    (Closure.block [] [] [.give value]).toArrow? = some (.arrow [] value) ∧
      (Expr.closure (.block [] [] [.give value])).occurrences 0 .outside =
        [⟨"$name", .own 0, true⟩] ∧
      (Expr.closure (.arrow [] value)).occurrences 0 .outside = [⟨"$name", .outer, true⟩] := by
  exact ⟨rfl, rfl, rfl⟩

end Closure

end FluentStyle
