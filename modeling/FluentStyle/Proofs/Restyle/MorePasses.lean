import FluentStyle.Proofs.Restyle.Recorded

/-!
# More passes than are needed

A run that is finished within the passes it is allowed makes nothing else of a fragment where it is
allowed more of them.  At most it makes one pass more, which applies nothing and whose rejections
have all been recorded in the pass before it.
-/

namespace FluentStyle

namespace Run

/-- One run does what the other one does, and then nothing but reject what was rejected before. -/
structure Continues (shorter longer : Run) : Prop where
  fragment_eq : longer.fragment = shorter.fragment
  isUnfinished_eq : longer.isUnfinished = false
  events_eq : ∃ extra : List Event, longer.events = shorter.events ++ extra ∧
    extra ⊆ shorter.events ∧ extra.filterMap Event.applied? = []
  passes : longer.passes = shorter.passes ∨ longer.passes = shorter.passes + 1

namespace Continues

variable {shorter longer : Run}

theorem refl {run : Run} (h : run.isUnfinished = false) : run.Continues run :=
  ⟨rfl, h, ⟨[], (List.append_nil _).symm, List.nil_subset _, rfl⟩, Or.inl rfl⟩

theorem applied_eq (h : shorter.Continues longer) : longer.applied = shorter.applied := by
  rcases h.events_eq with ⟨extra, hevents, -, hquiet⟩
  rw [applied, hevents, List.filterMap_append, hquiet, List.append_nil]
  rfl

theorem rejected_eq (h : shorter.Continues longer) :
    ∃ extra : List (String × Objection), longer.rejected = shorter.rejected ++ extra ∧
      extra ⊆ shorter.rejected := by
  rcases h.events_eq with ⟨extra, hevents, hsubset, -⟩
  refine ⟨extra.filterMap Event.rejected?, ?_, ?_⟩
  · rw [rejected, hevents, List.filterMap_append]
    rfl
  · intro found hfound
    rcases List.mem_filterMap.mp hfound with ⟨event, hevent, heq⟩
    exact List.mem_filterMap.mpr ⟨event, hsubset hevent, heq⟩

theorem distinct_rejected_eq (h : shorter.Continues longer) :
    Text.distinct (longer.rejected.map (·.1)) = Text.distinct (shorter.rejected.map (·.1)) := by
  rcases h.rejected_eq with ⟨extra, hrejected, hsubset⟩
  apply Text.distinct_congr
  intro text
  rw [hrejected, List.map_append, List.mem_append, or_iff_left_iff_imp]
  exact fun htext => List.map_subset _ hsubset htext

theorem rejections_eq (h : shorter.Continues longer) : longer.rejections = shorter.rejections := by
  rcases h.rejected_eq with ⟨extra, hrejected, hsubset⟩
  rw [rejections, hrejected, List.map_append, List.eraseDups_append, rejections]
  have hnone : (extra.map fun found => Warning.rejected found.1 found.2.message).removeAll
      (shorter.rejected.map fun found => Warning.rejected found.1 found.2.message) = [] := by
    apply List.filter_eq_nil_iff.mpr
    intro warning hwarning
    have hmem := List.map_subset (fun found => Warning.rejected found.1 found.2.message) hsubset
      hwarning
    rw [List.elem_eq_mem, decide_eq_true hmem]
    exact Bool.false_ne_true
  rw [hnone]
  exact List.append_nil _

theorem after (h : shorter.Continues longer) (events : List Event) :
    Continues
      ⟨shorter.fragment, events ++ shorter.events, shorter.passes + 1, shorter.isUnfinished⟩
      ⟨longer.fragment, events ++ longer.events, longer.passes + 1, longer.isUnfinished⟩ := by
  rcases h.events_eq with ⟨extra, hevents, hsubset, hquiet⟩
  refine ⟨h.fragment_eq, h.isUnfinished_eq, ⟨extra, ?_, ?_, hquiet⟩, ?_⟩
  · rw [hevents, List.append_assoc]
  · exact List.subset_append_of_subset_right events hsubset
  · rcases h.passes with heq | heq
    · exact Or.inl (congrArg (· + 1) heq)
    · exact Or.inr (congrArg (· + 1) heq)

end Continues

variable {style : Conventions} {rules : List Rule}

/-- Where a pass has left the fragment at rest, the passes after it are one at most. -/
theorem pass_continues (hgroups : ∀ group ∈ style.groups, 2 ≤ group.minFields) (more : Nat)
    {fragment : Fragment} (h : (fragment.pass style rules).1.root.AtRest style rules) :
    let later := repeatPasses style rules more (fragment.pass style rules).1
    Continues ⟨(fragment.pass style rules).1, (fragment.pass style rules).2, 1, false⟩
      ⟨later.fragment, (fragment.pass style rules).2 ++ later.events, later.passes + 1,
        later.isUnfinished⟩ := by
  have hquiet := Fragment.passApplied_eq_nil_iff.mpr h
  have hnone := Fragment.anyApplied_eq_false.mpr hquiet
  cases more with
  | zero =>
      simp only [repeatPasses, hnone, List.append_nil]
      exact Continues.refl rfl
  | succ more =>
      have hsame := Fragment.pass_eq_of_quiet hquiet
      have hsubset := Fragment.events_subset_of_atRest hgroups h
      simp only [repeatPasses, hnone, Bool.false_eq_true, if_false, hsame]
      exact ⟨rfl, rfl, ⟨_, rfl, hsubset, hquiet⟩, Or.inr rfl⟩

theorem repeatPasses_continues (hgroups : ∀ group ∈ style.groups, 2 ≤ group.minFields)
    {allowed : Nat} (hallowed : 1 ≤ allowed) (more : Nat) {fragment : Fragment}
    (h : (repeatPasses style rules allowed fragment).isUnfinished = false) :
    (repeatPasses style rules allowed fragment).Continues
      (repeatPasses style rules (allowed + more) fragment) := by
  induction allowed generalizing fragment with
  | zero => exact absurd hallowed (Nat.not_succ_le_zero 0)
  | succ allowed ih =>
      rw [Nat.succ_add, repeatPasses, repeatPasses]
      rw [repeatPasses] at h
      simp only at h ⊢
      by_cases happlied : anyApplied (fragment.pass style rules).2 = true
      · rw [if_pos happlied] at h
        rw [if_pos happlied, if_pos happlied]
        by_cases hlast : 1 ≤ allowed
        · exact (ih hlast h).after _
        · -- The pass was the last one allowed, and the rules were found to be done after it.
          obtain rfl : allowed = 0 := Nat.eq_zero_of_not_pos hlast
          rw [Nat.zero_add]
          have hrest := Fragment.passApplied_eq_nil_iff.mp (Fragment.anyApplied_eq_false.mp h)
          have hcontinues := pass_continues hgroups more hrest
          simp only [repeatPasses, List.append_nil] at h ⊢
          rw [h]
          exact hcontinues
      · rw [if_neg happlied, if_neg happlied]
        exact Continues.refl rfl

end Run

namespace Catalog

theorem run_continues {catalog : Catalog} {fragment : Fragment} {n m : Nat} (hn : 1 ≤ n)
    (hnm : n ≤ m) (h : (catalog.run n fragment).isUnfinished = false) :
    (catalog.run n fragment).Continues (catalog.run m fragment) := by
  unfold run at h ⊢
  rw [Nat.max_eq_left hn] at h ⊢
  rw [Nat.max_eq_left (Nat.le_trans hn hnm), ← Nat.add_sub_cancel' hnm]
  exact Run.repeatPasses_continues catalog.two_le_minFields hn (m - n) h

/-- Where restyling with a limit on passes does not report the limit, a higher one leads to the same
text, the same rules applied, the same rules rejected, and the same warnings in the same order.
There is one pass more at most. -/
theorem restyle_more_passes {catalog : Catalog} {source : String} {fragment : Fragment}
    (h : Fragment.parse source = .ok fragment) {n m : Nat} (hn : 1 ≤ n) (hnm : n ≤ m) :
    ∃ outcome other : Outcome, catalog.restyle n source = .ok outcome ∧
      catalog.restyle m source = .ok other ∧
      ((∀ passes : Nat, Warning.passLimit passes ∉ outcome.warnings) →
        other.text = outcome.text ∧ other.applied = outcome.applied ∧
          other.rejected = outcome.rejected ∧ other.warnings = outcome.warnings ∧
          (other.passes = outcome.passes ∨ other.passes = outcome.passes + 1)) := by
  refine ⟨catalog.restyleFragment n fragment, catalog.restyleFragment m fragment,
    restyle_of_parse h n, restyle_of_parse h m, fun hsilent => ?_⟩
  have hfinished := passLimit_notMem_warnings_iff.mp hsilent
  have hcontinues := run_continues hn hnm hfinished
  have hwarnings : (catalog.restyleFragment m fragment).warnings =
      (catalog.restyleFragment n fragment).warnings := by
    simp only [restyleFragment, Run.limitWarning, hfinished, hcontinues.isUnfinished_eq,
      Bool.false_eq_true, if_false, hcontinues.rejections_eq, hcontinues.fragment_eq]
  exact ⟨congrArg Fragment.render hcontinues.fragment_eq, hcontinues.applied_eq,
    hcontinues.distinct_rejected_eq, hwarnings, hcontinues.passes⟩

/-- Two declarations with a negated `hidden`, one of which cannot be replaced: the second pass,
which is made only where it is allowed, rejects that proposal again. -/
theorem restyle_more_passes_rejected :
    let rule : Rule := ⟨"show", none, 0, true, .visibility⟩
    let catalog : Catalog := ⟨{ Config.standard with rules := [rule] }, by decide +kernel⟩
    let declaration (name : String) (condition : Expr) : Expr :=
      .chain ⟨.static "X", ⟨"make", [.literal ⟨name⟩]⟩, [⟨"hidden", [.unary .not condition]⟩]⟩
    let source := "X::make('a')->hidden(!$a), X::make('b')->hidden(!$b->hidden())"
    let fragment : Fragment :=
      ⟨[declaration "'a'" (.variable "$a"), declaration "'b'"
        (.chain ⟨.receiver (.variable "$b"), ⟨"hidden", []⟩, []⟩)], .none⟩
    Fragment.parse source = .ok fragment ∧ 1 ≤ 1 ∧ 1 ≤ 16 ∧
      ∃ outcome other : Outcome, catalog.restyle 1 source = .ok outcome ∧
        catalog.restyle 16 source = .ok other ∧
        (∀ passes : Nat, Warning.passLimit passes ∉ outcome.warnings) ∧
        outcome.applied = ["show"] ∧ outcome.rejected = ["show"] ∧ outcome.passes = 1 ∧
        other.text = outcome.text ∧ other.applied = ["show"] ∧ other.rejected = ["show"] ∧
        other.warnings = outcome.warnings ∧ other.passes = 2 := by
  intro rule catalog declaration source fragment
  have h : Fragment.parse source = .ok fragment := by decide +kernel
  have happlied : (catalog.restyleFragment 1 fragment).applied = ["show"] := by decide +kernel
  have hrejected : (catalog.restyleFragment 1 fragment).rejected = ["show"] := by decide +kernel
  have hfinished : (catalog.run 1 fragment).isUnfinished = false := by decide +kernel
  have hsilent : ∀ passes : Nat,
      Warning.passLimit passes ∉ (catalog.restyleFragment 1 fragment).warnings :=
    passLimit_notMem_warnings_iff.mpr hfinished
  have hpasses : (catalog.run 1 fragment).passes = 1 ∧ (catalog.run 16 fragment).passes = 2 := by
    decide +kernel
  rcases @restyle_more_passes catalog source fragment h 1 16 (by decide) (by decide) with
    ⟨outcome, other, houtcome, hother, hsame⟩
  cases (restyle_of_parse h 1).symm.trans houtcome
  cases (restyle_of_parse h 16).symm.trans hother
  rcases hsame hsilent with ⟨htext, happlied', hrejected', hwarnings, -⟩
  exact ⟨h, by decide, by decide, _, _, houtcome, hother, hsilent, happlied, hrejected, hpasses.1,
    htext, happlied'.trans happlied, hrejected'.trans hrejected, hwarnings, hpasses.2⟩

end Catalog

end FluentStyle
