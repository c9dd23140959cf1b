import FluentStyle.Catalog.Standard
import FluentStyle.Proofs.Rule.Exchange

/-!
# Accepting as an equivalence

A rule that orders calls, writes closures as arrow functions or leaves out the arguments of flags
lets just those names vanish that may appear again.  So whether it may put one site in the place of
another does not depend on which of them comes first, and what it may do in two steps it may do in
one.
-/

namespace FluentStyle

/-!
# How sites start

A proposal may not change what a chain starts with, nor the kind of any other site.
-/

inductive Opening where
  | chain (root : Root) (constructor? : Option Call)
  | closure
  | list

namespace Site

def opening : Site → Opening
  | .chain c => .chain c.root c.constructor?
  | .closure _ => .closure
  | .list _ => .list

theorem opening_eq_iff {before after : Site} :
    before.opening = after.opening ↔
      before.sameKind after = true ∧ Verdict.sameStart before after = true := by
  cases before <;> cases after <;>
    simp only [opening, sameKind, Verdict.sameStart, Opening.chain.injEq, reduceCtorEq,
      Bool.and_eq_true, decide_eq_true_eq, Bool.false_eq_true, true_and, and_true]

end Site

theorem Verdict.sameStart_iff {before after : Site} :
    sameStart before after = true ↔
      ∀ chain changed : Chain, before = .chain chain → after = .chain changed →
        chain.root = changed.root ∧ chain.constructor? = changed.constructor? := by
  cases before with
  | chain chain =>
      cases after with
      | chain changed =>
          rw [sameStart, Bool.and_eq_true, decide_eq_true_eq, decide_eq_true_eq]
          constructor
          · rintro h _ _ ⟨⟩ ⟨⟩
            exact h
          · intro h
            exact h chain changed rfl rfl
      | _ => simp [sameStart]
  | _ => simp [sameStart]

/-!
# Effects that are alike
-/

namespace Permission

variable {permission : Permission}

/-- Effects with the same names, of which those with a name that may not vanish occur equally often.
-/
structure Alike (permission : Permission) (before after : List Effect) : Prop where
  names : ∀ name : String, name ∈ after.map (·.name) ↔ name ∈ before.map (·.name)
  count_eq : ∀ effect : Effect, permission.renamed effect.name = false →
    after.count effect = before.count effect

theorem alike_equivalence (permission : Permission) : Equivalence permission.Alike where
  refl _ := ⟨fun _ => Iff.rfl, fun _ _ => rfl⟩
  symm h := ⟨fun name => (h.names name).symm, fun effect hkept => (h.count_eq effect hkept).symm⟩
  trans h g := ⟨fun name => (g.names name).trans (h.names name),
    fun effect hkept => (g.count_eq effect hkept).trans (h.count_eq effect hkept)⟩

/-- Just the names that may vanish may appear, and nothing has to. -/
structure Steady (permission : Permission) : Prop extends permission.Orderly where
  mayAppear_eq : ∀ name : String, permission.mayAppear name = permission.renamed name

theorem Steady.not_vanishes (h : permission.Steady) (name : String) :
    ¬ permission.Vanishes name := by
  rintro ⟨hrenamed, hforbidden⟩
  rw [h.mayAppear_eq, hrenamed] at hforbidden
  cases hforbidden

theorem Steady.mem_expected_iff (h : permission.Steady) {before : List Effect} {name : String} :
    name ∈ permission.expected before ↔ name ∈ before.map (·.name) := by
  unfold expected
  simp only [h.introduces_eq, List.append_nil, List.mem_flatMap, List.mem_map,
    h.toOrderly.mem_become_iff (h.not_vanishes _), @eq_comm _ name]

theorem Steady.allows_iff (h : permission.Steady) {before after : List Effect} :
    permission.Allows before after ↔ permission.Alike before after := by
  constructor
  · intro hallows
    refine ⟨fun name => (hallows.names name).trans h.mem_expected_iff, fun effect hkept => ?_⟩
    exact hallows.count_eq hkept ((h.mayAppear_eq _).trans hkept)
  · intro halike
    refine ⟨fun name => (halike.names name).trans h.mem_expected_iff.symm, ?_, ?_⟩
    · intro effect hkept
      exact Nat.le_of_eq (halike.count_eq effect hkept).symm
    · intro effect hforbidden
      exact Nat.le_of_eq (halike.count_eq effect ((h.mayAppear_eq _).symm.trans hforbidden))

end Permission

namespace RuleKind

variable {style : Conventions} {kind : RuleKind}

theorem steady_permission (h : kind = .callOrder ∨ kind = .arrowClosures ∨
    ∃ flags, kind = .bareFlags flags) : (kind.permission style).Steady := by
  have hne : kind ≠ .sections := by
    rintro rfl
    simp at h
  refine ⟨orderly_permission hne, fun name => ?_⟩
  rcases h with rfl | rfl | ⟨flags, rfl⟩
  · rfl
  · rfl
  · rw [Bool.eq_iff_iff]
    constructor
    · intro happear
      rcases Permission.mayAppear_iff.mp happear with hnothing | ⟨pair, hpair, hname⟩
      · cases hnothing
      · rcases List.mem_map.mp hpair with ⟨flag, hflag, rfl⟩
        rw [List.mem_singleton.mp hname]
        exact renamed_bareFlags.mpr hflag
    · intro hrenamed
      exact mayAppear_bareFlags (renamed_bareFlags.mp hrenamed)

end RuleKind

/-!
# Verdicts
-/

namespace Verdict

variable {permission : Permission}

theorem examine_eq_accept_iff_of_steady (h : permission.Steady) {before after : Site} :
    examine permission before after = .accept ↔
      (permission.normalize before).opening = (permission.normalize after).opening ∧
      (permission.onlyArrows = true →
        permission.normalize before = permission.normalize after) ∧
      permission.Alike (permission.normalize before).effects
        (permission.normalize after).effects := by
  rw [examine_eq_accept_iff, h.allows_iff, Site.opening_eq_iff, and_assoc]

theorem equivalence_of_steady (h : permission.Steady) :
    Equivalence fun before after => examine permission before after = .accept := by
  have halike := permission.alike_equivalence
  simp only [examine_eq_accept_iff_of_steady h]
  constructor
  · intro site
    exact ⟨rfl, fun _ => rfl, halike.refl _⟩
  · rintro before after ⟨hopening, harrows, heffects⟩
    exact ⟨hopening.symm, fun honly => (harrows honly).symm, halike.symm heffects⟩
  · rintro first second third ⟨hopening, harrows, heffects⟩ ⟨hopening', harrows', heffects'⟩
    exact ⟨hopening.trans hopening', fun honly => (harrows honly).trans (harrows' honly),
      halike.trans heffects heffects'⟩

end Verdict

namespace Rule

variable {style : Conventions} {rule : Rule}

theorem examine_order_iff (hkind : rule.kind = .callOrder) {before after : Site} :
    rule.examine style before after = .accept ↔
      before.opening = after.opening ∧ after.effects.Perm before.effects := by
  have hnothing : rule.kind.permission style = .nothing := by
    rw [hkind]
    rfl
  unfold examine
  rw [hnothing, Verdict.examine_eq_accept_iff, Permission.allows_nothing_iff, Site.opening_eq_iff,
    and_assoc]
  simp only [Permission.normalize, Permission.nothing, Bool.false_eq_true, if_false, false_implies,
    true_and]

/-- Where only closures may be written as arrow functions, sites have to be the same once all
closures in them are. -/
theorem examine_arrows_iff (hkind : rule.kind = .arrowClosures) {before after : Site} :
    rule.examine style before after = .accept ↔
      before.map Expr.arrowed = after.map Expr.arrowed := by
  have hsteady : (rule.kind.permission style).Steady :=
    RuleKind.steady_permission (Or.inr (Or.inl hkind))
  have honly : (rule.kind.permission style).onlyArrows = true := by
    rw [hkind]
    rfl
  unfold examine
  rw [Verdict.examine_eq_accept_iff_of_steady hsteady]
  simp only [Permission.normalize, honly, if_true, true_implies]
  constructor
  · intro h
    exact h.2.1
  · intro h
    rw [h]
    exact ⟨rfl, rfl, (Permission.alike_equivalence _).refl _⟩

/-- To be acceptable to a rule that orders calls, writes closures as arrow functions or leaves out
the arguments of flags is an equivalence of sites; where calls are ordered, sites are equivalent
just if they are of the same kind, start in the same way and have the same effects. -/
theorem accepts_equivalence (hkind : rule.kind = .callOrder ∨ rule.kind = .arrowClosures ∨
    ∃ flags, rule.kind = .bareFlags flags) :
    Equivalence (fun before after : Site => rule.examine style before after = .accept) ∧
      (rule.kind = .callOrder → ∀ before after : Site,
        rule.examine style before after = .accept ↔
          before.sameKind after = true ∧
          (∀ chain changed : Chain, before = .chain chain → after = .chain changed →
            chain.root = changed.root ∧ chain.constructor? = changed.constructor?) ∧
          (before.calls.map Effect.ofCall).Perm (after.calls.map Effect.ofCall)) := by
  refine ⟨Verdict.equivalence_of_steady (RuleKind.steady_permission hkind), ?_⟩
  intro horder before after
  rw [examine_order_iff horder, Site.opening_eq_iff, Verdict.sameStart_iff, and_assoc]
  exact and_congr_right fun _ => and_congr_right fun _ => List.perm_comm

/-- Three orders of calls can take the place of one another; the same calls on another class cannot.
-/
theorem accepts_equivalence_orders :
    let rule : Rule := ⟨"order", none, 0, true, .callOrder⟩
    let declaration (className : String) (names : List String) : Site :=
      .chain ⟨.static className, ⟨"make", [.literal ⟨"'a'"⟩]⟩, names.map fun name => ⟨name, []⟩⟩
    let accepts (before after : Site) : Prop :=
      rule.examine Catalog.standard.style before after = .accept
    let first := declaration "X" ["hidden", "required", "live"]
    let second := declaration "X" ["required", "hidden", "live"]
    let third := declaration "X" ["live", "required", "hidden"]
    accepts second first ∧ accepts first third ∧
      ¬ accepts first (declaration "Y" ["hidden", "required", "live"]) := by
  intro rule declaration accepts first second third
  have h := @accepts_equivalence Catalog.standard.style rule (Or.inl rfl)
  have hsecond : accepts first second := by decide +kernel
  have hthird : accepts second third := by decide +kernel
  refine ⟨h.1.symm hsecond, h.1.trans hsecond hthird, fun haccept => ?_⟩
  have hroot : Root.static "X" = Root.static "Y" := (((h.2 rfl _ _).mp haccept).2.1 _ _ rfl rfl).1
  exact absurd hroot (by decide)

end Rule

end FluentStyle
