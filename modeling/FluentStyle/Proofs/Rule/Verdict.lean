import FluentStyle.Proofs.Tree.Calls
import FluentStyle.Rule.Proposal

/-!
# What a verdict says

A proposal is accepted just if it is of the same kind and starts in the same way as the site, and
the effects after it are those that the permission allows: the names are the expected ones, no
effect is lost but those of a name that may vanish, and none is added but those of a name that may
appear. Without such names the effects are the same in another order, and a name that may neither
vanish nor appear is called as often as before.
-/

namespace FluentStyle

namespace Effect

theorem first?_eq_none_iff {effects : List Effect} : first? effects = none ↔ effects = [] := by
  cases effects with
  | nil => exact ⟨fun _ => rfl, fun _ => rfl⟩
  | cons effect rest =>
      rw [first?]
      constructor
      · intro h
        split at h
        · cases h
        · split at h <;> cases h
      · intro h
        cases h

theorem lost?_eq_none_iff {counts : String → Bool} {own others : List Effect} :
    lost? counts own others = none ↔
      ∀ effect : Effect, counts effect.name = true → own.count effect ≤ others.count effect := by
  unfold lost?
  rw [first?_eq_none_iff, List.filter_eq_nil_iff]
  constructor
  · intro h effect hcounts
    by_cases hmem : effect ∈ own
    · have hlost := h effect hmem
      rw [hcounts, Bool.true_and, decide_eq_true_eq] at hlost
      exact Nat.le_of_not_lt hlost
    · rw [List.count_eq_zero_of_not_mem hmem]
      exact Nat.zero_le _
  · intro h effect _ hlost
    rw [Bool.and_eq_true, decide_eq_true_eq] at hlost
    exact absurd hlost.2 (Nat.not_lt_of_le (h effect hlost.1))

end Effect

/-!
# Permissions

The names that there should be after a proposal may be missing, and others may be there
unexpectedly.  Where nothing may vanish or appear, the effects are the same in another order.
-/

namespace Permission

variable (permission : Permission)

def expected (before : List Effect) : List String :=
  before.flatMap (permission.become ·.name) ++ permission.introduces

def missing (before after : List Effect) : List String :=
  (permission.expected before).filter fun name => !(after.map (·.name)).contains name

def unexpected (before after : List Effect) : List String :=
  (after.map (·.name)).filter fun name => !(permission.expected before).contains name

/-- The effects of a site that a permission allows in the place of others. -/
structure Allows (before after : List Effect) : Prop where
  names : ∀ name : String, name ∈ after.map (·.name) ↔ name ∈ permission.expected before
  kept : ∀ effect : Effect, permission.renamed effect.name = false →
    before.count effect ≤ after.count effect
  noneAdded : ∀ effect : Effect, permission.mayAppear effect.name = false →
    after.count effect ≤ before.count effect

/-- A site as it is compared with another: where no more than arrow functions may appear, closures
are written as arrow functions in both. -/
def normalize (site : Site) : Site :=
  if permission.onlyArrows then site.map Expr.arrowed else site

theorem become_nothing (name : String) : nothing.become name = [name] := rfl

variable {permission}

theorem mem_missing {before after : List Effect} {name : String} :
    name ∈ permission.missing before after ↔
      name ∈ permission.expected before ∧ name ∉ after.map (·.name) := by
  unfold missing
  rw [List.mem_filter, Bool.not_eq_true', ← Bool.not_eq_true, List.contains_iff_mem]

theorem mem_unexpected {before after : List Effect} {name : String} :
    name ∈ permission.unexpected before after ↔
      name ∈ after.map (·.name) ∧ name ∉ permission.expected before := by
  unfold unexpected
  rw [List.mem_filter, Bool.not_eq_true', ← Bool.not_eq_true, List.contains_iff_mem]

theorem names_iff {before after : List Effect} :
    (∀ name : String, name ∈ after.map (·.name) ↔ name ∈ permission.expected before) ↔
      permission.missing before after = [] ∧ permission.unexpected before after = [] := by
  simp only [List.eq_nil_iff_forall_not_mem, mem_missing, mem_unexpected,
    Decidable.not_and_not_right]
  constructor
  · intro h
    exact ⟨fun name => (h name).mpr, fun name => (h name).mp⟩
  · rintro ⟨hmissing, hunexpected⟩ name
    exact ⟨hunexpected name, hmissing name⟩

theorem Allows.count_eq {before after : List Effect} (h : permission.Allows before after)
    {effect : Effect} (hrenamed : permission.renamed effect.name = false)
    (happear : permission.mayAppear effect.name = false) :
    after.count effect = before.count effect :=
  Nat.le_antisymm (h.noneAdded effect happear) (h.kept effect hrenamed)

theorem allows_nothing_iff {before after : List Effect} :
    nothing.Allows before after ↔ after.Perm before := by
  constructor
  · intro h
    exact List.perm_iff_count.mpr fun effect => h.count_eq rfl rfl
  · intro hperm
    refine ⟨?_, ?_, ?_⟩
    · intro name
      have hexpected : nothing.expected before = before.map (·.name) := by
        unfold expected
        simp only [become_nothing]
        exact (List.append_nil _).trans List.map_eq_flatMap.symm
      rw [hexpected, (hperm.map (·.name)).mem_iff]
    · intro effect _
      exact Nat.le_of_eq (hperm.count_eq effect).symm
    · intro effect _
      exact Nat.le_of_eq (hperm.count_eq effect)

end Permission

/-!
# Accepting
-/

namespace Verdict

variable {permission : Permission}

theorem ofEffects_of_names {before after : List Effect}
    (h : ¬ (permission.missing before after = [] ∧ permission.unexpected before after = [])) :
    ofEffects permission before after =
      .reject (.names (Text.distinct (permission.missing before after))
        (Text.distinct (permission.unexpected before after))) := by
  rw [← List.isEmpty_iff, ← List.isEmpty_iff, ← Bool.and_eq_true, Bool.not_eq_true] at h
  unfold Permission.missing Permission.unexpected Permission.expected at h ⊢
  unfold ofEffects
  simp only [h, Bool.not_false, if_true]

theorem ofEffects_eq_accept_iff {before after : List Effect} :
    ofEffects permission before after = .accept ↔ permission.Allows before after := by
  by_cases hnames :
      permission.missing before after = [] ∧ permission.unexpected before after = []
  · have hkept := @Effect.lost?_eq_none_iff (fun name => !permission.renamed name) before after
    have hadded := @Effect.lost?_eq_none_iff (fun name => !permission.mayAppear name) after before
    simp only [Bool.not_eq_true'] at hkept hadded
    have hallows : permission.Allows before after ↔
        Effect.lost? (fun name => !permission.renamed name) before after = none ∧
          Effect.lost? (fun name => !permission.mayAppear name) after before = none := by
      rw [hkept, hadded]
      constructor
      · intro h
        exact ⟨h.kept, h.noneAdded⟩
      · rintro ⟨hlost, hnone⟩
        exact ⟨Permission.names_iff.mpr hnames, hlost, hnone⟩
    have hempty := hnames
    rw [← List.isEmpty_iff, ← List.isEmpty_iff, ← Bool.and_eq_true] at hempty
    unfold Permission.missing Permission.unexpected Permission.expected at hempty
    rw [hallows]
    unfold ofEffects
    simp only [hempty, Bool.not_true, Bool.false_eq_true, if_false]
    split
    · rename_i hlost
      simp [hlost]
    · rename_i hlost
      split
      · rename_i hnone
        simp [hnone]
      · rename_i hnone
        simp [hlost, hnone]
  · rw [ofEffects_of_names hnames]
    constructor
    · intro h
      cases h
    · intro h
      exact absurd (Permission.names_iff.mp h.names) hnames

/-- A proposal is accepted just if its kind and its start are those of the site, no more than arrow
functions appeared where no more may, and its effects are allowed. -/
theorem examine_eq_accept_iff {before after : Site} :
    examine permission before after = .accept ↔
      (permission.normalize before).sameKind (permission.normalize after) = true ∧
      sameStart (permission.normalize before) (permission.normalize after) = true ∧
      (permission.onlyArrows = true →
        permission.normalize before = permission.normalize after) ∧
      permission.Allows (permission.normalize before).effects
        (permission.normalize after).effects := by
  rw [← ofEffects_eq_accept_iff]
  unfold examine Permission.normalize
  generalize (if permission.onlyArrows then before.map Expr.arrowed else before) = before
  generalize (if permission.onlyArrows then after.map Expr.arrowed else after) = after
  simp only
  cases before.sameKind after with
  | false => simp
  | true =>
      cases sameStart before after with
      | false => simp
      | true =>
          by_cases hequal : permission.onlyArrows = true ∧ before ≠ after
          · simp [hequal]
          · have harrows : permission.onlyArrows = true → before = after :=
              Decidable.not_and_not_right.mp hequal
            simp only [Bool.not_true, Bool.false_eq_true, if_false, Bool.and_eq_true,
              decide_eq_true_eq, hequal, true_and]
            exact ⟨fun h => ⟨harrows, h⟩, fun h => h.2⟩

end Verdict

end FluentStyle
