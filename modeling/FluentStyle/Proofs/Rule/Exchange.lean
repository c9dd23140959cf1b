import FluentStyle.Proofs.Rule.Verdict

/-!
# Calls in the place of others

A proposal puts some calls in the place of others and leaves all the rest alone.  Where the
permission lets the ones vanish and asks for the others, the effects after the proposal are allowed
just if none of the calls left alone has a name that has to vanish.
-/

namespace FluentStyle

namespace Permission

variable {permission : Permission} {name other : String}

/-- Calls with the name have to vanish: the name becomes others, and nothing becomes the name. -/
def Vanishes (permission : Permission) (name : String) : Prop :=
  permission.renamed name = true ∧ permission.mayAppear name = false

instance (permission : Permission) (name : String) : Decidable (permission.Vanishes name) :=
  inferInstanceAs (Decidable (_ ∧ _))

/-- Nothing has to appear in any case, and a name that becomes something and may appear as well
becomes itself alone. -/
structure Orderly (permission : Permission) : Prop where
  introduces_eq : permission.introduces = []
  become_iff : ∀ name other : String, permission.renamed name = true →
    permission.mayAppear name = true → (other ∈ permission.become name ↔ other = name)

/-!
# What names become

What a name becomes does not have to vanish, and a name that does not have to vanish becomes itself
alone.
-/

theorem renamed_iff :
    permission.renamed name = true ↔ ∃ pair ∈ permission.renames, pair.1 = name := by
  unfold renamed
  simp only [List.any_eq_true, decide_eq_true_eq]

theorem mayAppear_iff :
    permission.mayAppear name = true ↔
      name ∈ permission.introduces ∨ ∃ pair ∈ permission.renames, name ∈ pair.2 := by
  unfold mayAppear
  simp only [Bool.or_eq_true, List.any_eq_true, List.contains_iff_mem]

theorem mem_become_of_renamed (h : permission.renamed name = true) :
    other ∈ permission.become name ↔
      ∃ pair ∈ permission.renames, pair.1 = name ∧ other ∈ pair.2 := by
  unfold become
  rw [if_pos h]
  simp only [List.mem_flatMap, List.mem_filter, decide_eq_true_eq, and_assoc]

theorem mem_become_of_not_renamed (h : ¬ permission.renamed name = true) :
    other ∈ permission.become name ↔ other = name := by
  unfold become
  rw [if_neg h, List.mem_singleton]

theorem not_vanishes_of_mem_become (h : other ∈ permission.become name) :
    ¬ permission.Vanishes other := by
  rintro ⟨hrenamed, hforbidden⟩
  by_cases hname : permission.renamed name = true
  · rcases (mem_become_of_renamed hname).mp h with ⟨pair, hpair, -, hother⟩
    have happear := mayAppear_iff.mpr (Or.inr ⟨pair, hpair, hother⟩)
    rw [hforbidden] at happear
    cases happear
  · rw [mem_become_of_not_renamed hname] at h
    rw [← h] at hname
    exact hname hrenamed

theorem Orderly.mem_become_iff (horderly : permission.Orderly) (h : ¬ permission.Vanishes name) :
    other ∈ permission.become name ↔ other = name := by
  by_cases hrenamed : permission.renamed name = true
  · apply horderly.become_iff name other hrenamed
    rw [← Bool.not_eq_false]
    exact fun hforbidden => h ⟨hrenamed, hforbidden⟩
  · exact mem_become_of_not_renamed hrenamed

theorem Orderly.mem_expected_iff (horderly : permission.Orderly) {site : Site} :
    name ∈ permission.expected site.effects ↔
      ∃ call ∈ site.calls, name ∈ permission.become call.name := by
  unfold expected Site.effects
  rw [horderly.introduces_eq, List.append_nil, List.flatMap_map, List.mem_flatMap]
  rfl

/-!
# Exchanging calls
-/

/-- The calls `gone` may vanish, the calls `new` may appear, and their names are just those that the
names of the former become. -/
structure Exchanges (permission : Permission) (gone new : List Call) : Prop where
  gone_renamed : ∀ call ∈ gone, permission.renamed call.name = true
  new_appears : ∀ call ∈ new, permission.mayAppear call.name = true
  names_iff : ∀ name : String,
    (∃ call ∈ new, call.name = name) ↔ ∃ call ∈ gone, name ∈ permission.become call.name

theorem Exchanges.nil (permission : Permission) : permission.Exchanges [] [] where
  gone_renamed := List.forall_mem_nil _
  new_appears := List.forall_mem_nil _
  names_iff name := by simp

theorem count_ofCall_append {calls kept : List Call} {effect : Effect}
    (h : ∀ call ∈ calls, call.name ≠ effect.name) :
    ((calls ++ kept).map Effect.ofCall).count effect = (kept.map Effect.ofCall).count effect := by
  have hnone : effect ∉ calls.map Effect.ofCall := by
    intro hmem
    rcases List.mem_map.mp hmem with ⟨call, hcall, rfl⟩
    exact h call hcall rfl
  rw [List.map_append, List.count_append, List.count_eq_zero_of_not_mem hnone, Nat.zero_add]

/-- The effects after an exchange are allowed just if no call that stays has a name that has to
vanish. -/
theorem Exchanges.allows_iff {gone new kept : List Call} (h : permission.Exchanges gone new)
    (horderly : permission.Orderly) {before after : Site}
    (hbefore : before.calls.Perm (gone ++ kept)) (hafter : after.calls.Perm (new ++ kept)) :
    permission.Allows before.effects after.effects ↔
      ∀ call ∈ kept, ¬ permission.Vanishes call.name := by
  have hnames : ∀ name : String,
      name ∈ after.effects.map (·.name) ↔ ∃ call ∈ new ++ kept, call.name = name := by
    intro name
    unfold Site.effects
    rw [List.map_map, List.mem_map]
    simp only [hafter.mem_iff]
    rfl
  constructor
  · intro hallows call hcall
    have hexpected := (hallows.names call.name).mp
      ((hnames call.name).mpr ⟨call, List.mem_append_right new hcall, rfl⟩)
    rcases horderly.mem_expected_iff.mp hexpected with ⟨origin, -, hbecome⟩
    exact not_vanishes_of_mem_become hbecome
  · intro hkept
    refine ⟨?_, ?_, ?_⟩
    · intro name
      have hstays : (∃ call ∈ kept, call.name = name) ↔
          ∃ call ∈ kept, name ∈ permission.become call.name := by
        constructor
        · rintro ⟨call, hcall, rfl⟩
          exact ⟨call, hcall, (horderly.mem_become_iff (hkept call hcall)).mpr rfl⟩
        · rintro ⟨call, hcall, hbecome⟩
          exact ⟨call, hcall, ((horderly.mem_become_iff (hkept call hcall)).mp hbecome).symm⟩
      rw [hnames, horderly.mem_expected_iff]
      simp only [hbefore.mem_iff, List.mem_append, or_and_right, exists_or]
      rw [h.names_iff, hstays]
    · intro effect hrenamed
      have hgone : ∀ call ∈ gone, call.name ≠ effect.name := by
        intro call hcall hname
        have hother := h.gone_renamed call hcall
        rw [hname, hrenamed] at hother
        cases hother
      unfold Site.effects
      rw [(hbefore.map Effect.ofCall).count_eq, (hafter.map Effect.ofCall).count_eq,
        count_ofCall_append hgone, List.map_append, List.count_append]
      exact Nat.le_add_left _ _
    · intro effect hforbidden
      have hnew : ∀ call ∈ new, call.name ≠ effect.name := by
        intro call hcall hname
        have hother := h.new_appears call hcall
        rw [hname, hforbidden] at hother
        cases hother
      unfold Site.effects
      rw [(hbefore.map Effect.ofCall).count_eq, (hafter.map Effect.ofCall).count_eq,
        count_ofCall_append hnew, List.map_append, List.count_append]
      exact Nat.le_add_left _ _

end Permission

/-!
# The permissions of rules

All kinds of rules but one ask for calls only in the place of others.
-/

namespace RuleKind

variable {style : Conventions}

def vanishing : RuleKind → List String
  | .visibility => ["hidden"]
  | .confirmation => ["confirm"]
  | .relationship _ => ["options", "pluck", "all", "query", "toArray"]
  | .callOrder | .arrowClosures | .bareFlags _ | .lookalikes _ _ | .sections => []

theorem renamed_bareFlags {flags : List String} {name : String} :
    ((RuleKind.bareFlags flags).permission style).renamed name = true ↔ name ∈ flags := by
  rw [Permission.renamed_iff]
  constructor
  · rintro ⟨pair, hpair, rfl⟩
    rcases List.mem_map.mp hpair with ⟨flag, hflag, rfl⟩
    exact hflag
  · intro hflag
    exact ⟨(name, [name]), List.mem_map_of_mem hflag, rfl⟩

theorem mayAppear_bareFlags {flags : List String} {name : String} (h : name ∈ flags) :
    ((RuleKind.bareFlags flags).permission style).mayAppear name = true :=
  Permission.mayAppear_iff.mpr
    (Or.inr ⟨(name, [name]), List.mem_map_of_mem h, List.mem_singleton_self name⟩)

theorem mem_become_bareFlags {flags : List String} {name other : String} (h : name ∈ flags) :
    other ∈ ((RuleKind.bareFlags flags).permission style).become name ↔ other = name := by
  rw [Permission.mem_become_of_renamed (renamed_bareFlags.mpr h)]
  constructor
  · rintro ⟨pair, hpair, rfl, hother⟩
    rcases List.mem_map.mp hpair with ⟨flag, -, rfl⟩
    exact List.mem_singleton.mp hother
  · rintro rfl
    exact ⟨(other, [other]), List.mem_map_of_mem h, rfl, List.mem_singleton_self other⟩

theorem vanishes_iff (kind : RuleKind) (name : String) :
    (kind.permission style).Vanishes name ↔ name ∈ kind.vanishing := by
  unfold Permission.Vanishes
  rw [← Bool.not_eq_true, Permission.renamed_iff, Permission.mayAppear_iff]
  cases kind with
  | bareFlags flags =>
      rw [← Permission.renamed_iff, ← Permission.mayAppear_iff, renamed_bareFlags]
      simp only [vanishing, List.not_mem_nil, iff_false]
      exact fun h => h.2 (mayAppear_bareFlags h.1)
  | confirmation | visibility | relationship =>
      simp only [permission, Permission.nothing, vanishing, List.mem_cons, List.not_mem_nil,
        or_and_right, exists_or, exists_eq_left, or_false]
      grind
  | _ =>
      simp only [permission, Permission.nothing, vanishing, List.not_mem_nil, false_and,
        exists_false]

theorem orderly_permission {kind : RuleKind} (h : kind ≠ .sections) :
    (kind.permission style).Orderly := by
  cases kind with
  | sections => exact absurd rfl h
  | bareFlags flags =>
      refine ⟨rfl, fun name other hrenamed _ => ?_⟩
      exact mem_become_bareFlags (renamed_bareFlags.mp hrenamed)
  | confirmation | visibility | relationship =>
      refine ⟨rfl, fun name other hrenamed happear => ?_⟩
      rw [Permission.mem_become_of_renamed hrenamed]
      rw [Permission.renamed_iff] at hrenamed
      rw [Permission.mayAppear_iff] at happear
      simp only [permission, Permission.nothing, List.mem_cons, List.not_mem_nil, or_and_right,
        exists_or, exists_eq_left, or_false, false_or] at hrenamed happear ⊢
      grind
  | _ => exact ⟨rfl, fun name other hrenamed _ => absurd hrenamed Bool.false_ne_true⟩

end RuleKind

end FluentStyle
