import FluentStyle.Proofs.Restyle.Offers

/-!
# What is told about lists

The rules that only report are asked about the lists of the tree that the passes end with.  These
are the lists that the passes offer to the rules that change something.
-/

namespace FluentStyle

/-- What the rule tells of a list: a warning for each kind of lookalikes in it, if the rule is about
these. -/
def Rule.findings (style : Conventions) (items : List Expr) (rule : Rule) : List Warning :=
  match rule.kind with
  | .lookalikes minSiblings message =>
      (Lookalikes.find style minSiblings items).map fun found =>
        .advisory rule.id (found.message message)
  | _ => []

namespace Rule

variable (style : Conventions) (items : List Expr)

theorem findings_of_isAdvisory {rule : Rule} (h : rule.isAdvisory = true) :
    rule.findings style items =
      (rule.advice style (.list items)).map (Warning.advisory rule.id) := by
  unfold isAdvisory at h
  unfold findings advice
  cases hkind : rule.kind with
  | lookalikes minSiblings message =>
      simp only [List.map_map]
      rfl
  | _ =>
      rw [hkind] at h
      cases h

theorem findings_of_not_isAdvisory {rule : Rule} (h : ¬ rule.isAdvisory = true) :
    rule.findings style items = [] := by
  unfold isAdvisory at h
  unfold findings
  cases hkind : rule.kind with
  | lookalikes minSiblings message =>
      rw [hkind] at h
      exact absurd rfl h
  | _ => rfl

theorem flatMap_findings (rules : List Rule) :
    rules.flatMap (findings style items) =
      (rules.filter (·.isAdvisory)).flatMap fun rule =>
        (rule.advice style (.list items)).map (Warning.advisory rule.id) := by
  induction rules with
  | nil => rfl
  | cons rule rules ih =>
      rw [List.flatMap_cons, ih]
      by_cases hadvisory : rule.isAdvisory = true
      · rw [List.filter_cons_of_pos hadvisory, List.flatMap_cons,
          findings_of_isAdvisory style items hadvisory]
      · rw [List.filter_cons_of_neg hadvisory, findings_of_not_isAdvisory style items hadvisory,
          List.nil_append]

end Rule

/-!
# Where the passes end
-/

theorem Run.exists_last_pass {style : Conventions} {rules : List Rule} {allowed : Nat}
    (hallowed : 1 ≤ allowed) (fragment : Fragment) :
    ∃ previous : Fragment,
      (previous.pass style rules).1 = (repeatPasses style rules allowed fragment).fragment := by
  induction allowed generalizing fragment with
  | zero => exact absurd hallowed (Nat.not_succ_le_zero 0)
  | succ allowed ih =>
      rw [repeatPasses]
      simp only
      split
      · cases allowed with
        | zero => exact ⟨fragment, rfl⟩
        | succ allowed => exact ih (Nat.succ_le_succ (Nat.zero_le allowed)) _
      · exact ⟨fragment, rfl⟩

namespace Catalog

variable {catalog : Catalog}

theorem advice_eq (catalog : Catalog) (fragment : Fragment) :
    catalog.advice fragment = (fragment.sites.filterMap Site.list?).flatMap fun items =>
      catalog.rules.flatMap (Rule.findings catalog.style items) := by
  rw [← Fragment.lists_eq_sites]
  exact List.flatMap_congr fun items _ =>
    (Rule.flatMap_findings catalog.style items catalog.rules).symm

theorem filter_advisory_warnings (maxPasses : Nat) (fragment : Fragment) :
    (catalog.restyleFragment maxPasses fragment).warnings.filter (·.kind = "advisory") =
      catalog.advice (catalog.run maxPasses fragment).fragment := by
  have hrejections : (catalog.run maxPasses fragment).rejections.filter
      (·.kind = "advisory") = [] := by
    rw [List.filter_eq_nil_iff]
    intro warning hwarning
    rw [Run.rejections, List.mem_eraseDups] at hwarning
    rcases List.mem_map.mp hwarning with ⟨_, -, rfl⟩
    simp [Warning.kind]
  have hlimit : ((catalog.run maxPasses fragment).limitWarning maxPasses).filter
      (·.kind = "advisory") = [] := by
    rw [List.filter_eq_nil_iff]
    intro warning hwarning
    unfold Run.limitWarning at hwarning
    split at hwarning
    · rw [List.mem_singleton.mp hwarning]
      simp [Warning.kind]
    · cases hwarning
  have hadvice : (catalog.advice (catalog.run maxPasses fragment).fragment).filter
      (·.kind = "advisory") = catalog.advice (catalog.run maxPasses fragment).fragment := by
    rw [List.filter_eq_self]
    intro warning hwarning
    rcases List.mem_flatMap.mp hwarning with ⟨_, -, hwarning⟩
    rcases List.mem_flatMap.mp hwarning with ⟨_, -, hwarning⟩
    rcases List.mem_map.mp hwarning with ⟨_, -, rfl⟩
    simp [Warning.kind]
  simp only [restyleFragment, List.filter_append, hrejections, hlimit, hadvice, List.nil_append]

/-- The advisory warnings are, for each list of the final tree in the order in which it is read, and
for each rule in the order of registration, what the rule tells of the list.  The last pass has
offered all these lists to the rules that change something.  A further pass over the final tree
offers these lists and no other, if the limit on passes is not reported; and so does a pass without
any rules. -/
theorem advisory_warnings_of_parse {source : String} {fragment : Fragment}
    (h : Fragment.parse source = .ok fragment) (maxPasses : Nat) :
    let final := (catalog.run maxPasses fragment).fragment
    let lists := final.sites.filterMap Site.list?
    ∃ outcome : Outcome, catalog.restyle maxPasses source = .ok outcome ∧
      outcome.text = final.render ∧
      outcome.warnings.filter (·.kind = "advisory") = lists.flatMap (fun items =>
        catalog.rules.flatMap (Rule.findings catalog.style items)) ∧
      (∃ previous : Fragment, (previous.pass catalog.style catalog.changingRules).1 = final ∧
        ∀ items ∈ lists, .list items ∈ previous.offers catalog.style catalog.changingRules) ∧
      ((∀ passes : Nat, Warning.passLimit passes ∉ outcome.warnings) →
        ∀ items : List Expr,
          .list items ∈ final.offers catalog.style catalog.changingRules ↔ items ∈ lists) ∧
      (∀ items : List Expr, .list items ∈ final.offers catalog.style [] ↔ items ∈ lists) ∧
      ∀ (rules : List Rule) (tree : Fragment),
        (tree.watchedPass catalog.style rules).1 = tree.pass catalog.style rules := by
  intro final lists
  have hlists : ∀ items : List Expr, items ∈ lists ↔ .list items ∈ final.sites := by
    intro items
    rw [← Fragment.mem_lists_iff, Fragment.lists_eq_sites]
  have hoffers : ∀ rules : List Rule, final.passApplied catalog.style rules = [] →
      ∀ items : List Expr, .list items ∈ final.offers catalog.style rules ↔ items ∈ lists := by
    intro rules hquiet items
    rw [hlists, Fragment.mem_offers_iff catalog.two_le_minFields hquiet]
  refine ⟨catalog.restyleFragment maxPasses fragment, restyle_of_parse h maxPasses, rfl, ?_, ?_,
    ?_, ?_, fun rules tree => tree.watchedPass_fst catalog.style rules⟩
  · rw [filter_advisory_warnings, advice_eq]
  · rcases Run.exists_last_pass (Nat.le_max_right maxPasses 1) fragment with ⟨previous, hlast⟩
    refine ⟨previous, hlast, fun items hitems => ?_⟩
    apply previous.sites_pass_subset_offers catalog.two_le_minFields
    rw [hlast]
    exact (hlists items).mp hitems
  · intro hsilent
    exact hoffers _ (Fragment.passApplied_eq_nil_iff.mpr (atRest_of_no_passLimit hsilent))
  · exact hoffers [] (final.passApplied_nil catalog.style)

/-- Lookalikes in an array that is a value in an array with keys. -/
theorem advisory_warnings_of_parse_nested :
    let rule : Rule := ⟨"alike", none, 0, true, .lookalikes 2 (some "\x7b\x7b $names \x7d\x7d")⟩
    let catalog : Catalog := ⟨{ Config.standard with rules := [rule] }, by decide +kernel⟩
    let declaration (name : String) : Expr :=
      .chain ⟨.static "X", ⟨"make", [.literal ⟨name⟩]⟩, [⟨"live", []⟩]⟩
    let source := "f(['k' => [X::make('a')->live(), X::make('b')->live()]])"
    let fragment : Fragment :=
      ⟨[.chain ⟨.function, ⟨"f", [.array [.pair (.literal ⟨"'k'"⟩)
        (.array [.value (declaration "'a'"), .value (declaration "'b'")])]]⟩, []⟩], .none⟩
    Fragment.parse source = .ok fragment ∧
      ∃ outcome : Outcome, catalog.restyle 1 source = .ok outcome ∧
        outcome.warnings.filter (·.kind = "advisory") = [.advisory "alike" "'a', 'b'"] := by
  intro rule catalog declaration source fragment
  have h : Fragment.parse source = .ok fragment := by decide +kernel
  rcases @advisory_warnings_of_parse catalog source fragment h 1 with
    ⟨outcome, houtcome, -, hwarnings, -⟩
  refine ⟨h, outcome, houtcome, ?_⟩
  rw [hwarnings, ← Fragment.lists_eq_sites]
  decide +kernel

end Catalog

end FluentStyle
