import FluentStyle.Catalog.Basic
import FluentStyle.Proofs.Rule.StableOrder
import Mathlib.Data.List.Nodup
import Mathlib.Data.List.Perm.Subperm
import Mathlib.Data.Set.Function
import Mathlib.Order.Interval.Set.Defs

/-!
# Which configurations are catalogs

A configuration has no flaw just if it is sound: its order is an arrangement of all categories, no
call is listed twice, there is a constructor, and its groups and rules have what they need.  The
catalog that is then made of it ranks the categories by their places in the order and tries the
rules by their priorities, those of one priority as they are registered.
-/

namespace FluentStyle

def RuleKind.IsEquipped (groups : List Group) : RuleKind → Prop
  | .sections => groups ≠ []
  | .lookalikes minSiblings _ => 2 ≤ minSiblings
  | .relationship classes => classes ≠ []
  | .bareFlags flags => flags ≠ []
  | .callOrder | .arrowClosures | .confirmation | .visibility => True

namespace Config

def listedCalls (config : Config) : List String :=
  Category.all.flatMap fun category => (config.calls category).getD []

/-- What a configuration has to be like to be a catalog. -/
structure IsSound (config : Config) : Prop where
  order : config.order.Perm Category.all
  calls : config.listedCalls.Nodup
  constructors : config.constructors ≠ []
  groups : ∀ group ∈ config.groups, 2 ≤ group.minFields
  ids : (config.rules.map (·.id)).Nodup
  rules : ∀ rule ∈ config.rules, rule.kind.IsEquipped config.groups

/-!
# One flaw after another

A table has no flaw if no call occurs in it twice or has been seen before, and rules have none if
each has what it needs in the configuration and an id of its own that has not been seen before.
-/

theorem orderFlaw?_eq_none_iff {order : List Category} :
    orderFlaw? order = none ↔ order.Perm Category.all := by
  have hmissing : (Category.all.filter fun category => !order.contains category) = [] ↔
      Category.all ⊆ order := by
    simp only [List.filter_eq_nil_iff, Bool.not_eq_true, Bool.not_eq_false', List.contains_iff_mem]
    exact Iff.rfl
  have hnone : orderFlaw? order = none ↔
      Category.all ⊆ order ∧ order.length = Category.all.length := by
    rw [← hmissing, ← List.isEmpty_iff]
    unfold orderFlaw?
    simp only [ite_eq_left_iff, reduceCtorEq, imp_false,
      Decidable.not_not, Bool.and_eq_true, decide_eq_true_eq]
  rw [hnone]
  constructor
  · rintro ⟨hsubset, hlength⟩
    have hsubperm := List.subperm_of_subset Category.nodup_all hsubset
    exact (hsubperm.perm_of_length_le (Nat.le_of_eq hlength)).symm
  · intro hperm
    exact ⟨hperm.symm.subset, hperm.length_eq⟩

theorem lookup_cons_eq_none_iff {name call : String} {category : Category}
    {seen : List (String × Category)} :
    List.lookup name ((call, category) :: seen) = none ↔
      name ≠ call ∧ seen.lookup name = none := by
  by_cases hname : name = call
  · subst hname
    simp
  · have hbeq : (name == call) = false := beq_false_of_ne hname
    rw [List.lookup_cons, hbeq]
    exact ⟨fun h => ⟨hname, h⟩, fun h => h.2⟩

theorem callFlaw?_eq_none_iff {seen table : List (String × Category)} :
    callFlaw? seen table = none ↔
      (table.map (·.1)).Nodup ∧ ∀ name ∈ table.map (·.1), seen.lookup name = none := by
  induction table generalizing seen with
  | nil => simp [callFlaw?]
  | cons entry table ih =>
      rcases entry with ⟨call, category⟩
      rw [callFlaw?]
      cases hseen : seen.lookup call with
      | some earlier =>
          have hstale : ¬ ∀ name ∈ call :: table.map (·.1), seen.lookup name = none := by
            intro hfresh
            rw [hfresh call List.mem_cons_self] at hseen
            cases hseen
          exact ⟨fun h => (Option.some_ne_none _ h).elim, fun h => (hstale h.2).elim⟩
      | none =>
          simp only [ih, lookup_cons_eq_none_iff, List.map_cons, List.nodup_cons,
            List.forall_mem_cons, hseen, true_and]
          constructor
          · rintro ⟨hnodup, hfresh⟩
            refine ⟨⟨fun hmem => (hfresh call hmem).1 rfl, hnodup⟩, ?_⟩
            exact fun name hname => (hfresh name hname).2
          · rintro ⟨⟨hmem, hnodup⟩, hfresh⟩
            refine ⟨hnodup, fun name hname => ⟨?_, hfresh name hname⟩⟩
            rintro rfl
            exact hmem hname

theorem map_callTable (config : Config) : config.callTable.map (·.1) = config.listedCalls := by
  unfold callTable listedCalls
  rw [List.map_flatMap]
  apply List.flatMap_congr
  intro category _
  rw [List.map_map]
  exact List.map_id _

theorem groupFlaw?_eq_none_iff {groups : List Group} :
    groupFlaw? groups = none ↔ ∀ group ∈ groups, 2 ≤ group.minFields := by
  unfold groupFlaw?
  simp only [Option.map_eq_none_iff, List.find?_eq_none, decide_eq_true_eq, Nat.not_lt]

theorem ruleFlaw?_eq_none_iff {groups : List Group} {kind : RuleKind} :
    ruleFlaw? groups kind = none ↔ kind.IsEquipped groups := by
  cases kind with
  | sections | relationship | bareFlags =>
      simp only [ruleFlaw?, RuleKind.IsEquipped, List.isEmpty_iff, ite_eq_right_iff, reduceCtorEq,
        imp_false, ne_eq]
  | lookalikes minSiblings message =>
      simp only [ruleFlaw?, RuleKind.IsEquipped, ite_eq_right_iff, reduceCtorEq, imp_false,
        Nat.not_lt]
  | callOrder | arrowClosures | confirmation | visibility => exact iff_of_true rfl trivial

theorem rulesFlaw?_eq_none_iff {groups : List Group} {seen : List String} {rules : List Rule} :
    rulesFlaw? groups seen rules = none ↔
      (rules.map (·.id)).Nodup ∧ (∀ rule ∈ rules, rule.id ∉ seen) ∧
        ∀ rule ∈ rules, rule.kind.IsEquipped groups := by
  induction rules generalizing seen with
  | nil => simp [rulesFlaw?]
  | cons rule rules ih =>
      rw [rulesFlaw?]
      by_cases hseen : rule.id ∈ seen
      · simp [hseen]
      · rw [if_neg (by simpa using hseen)]
        cases hflaw : ruleFlaw? groups rule.kind with
        | some flaw =>
            have hlacks : ¬ rule.kind.IsEquipped groups := by
              rw [← ruleFlaw?_eq_none_iff, hflaw]
              exact Option.some_ne_none flaw
            simp [hlacks]
        | none =>
            have hequipped := ruleFlaw?_eq_none_iff.mp hflaw
            simp only [ih, List.map_cons, List.nodup_cons, List.forall_mem_cons, hseen, hequipped,
              not_false_eq_true, true_and]
            simp only [List.mem_cons, not_or]
            constructor
            · rintro ⟨hnodup, hfresh, hall⟩
              refine ⟨⟨?_, hnodup⟩, fun other hother => (hfresh other hother).2, hall⟩
              intro hmem
              rcases List.mem_map.mp hmem with ⟨other, hother, hid⟩
              exact (hfresh other hother).1 hid
            · rintro ⟨⟨hmem, hnodup⟩, hfresh, hall⟩
              refine ⟨hnodup, fun other hother => ⟨?_, hfresh other hother⟩, hall⟩
              intro hid
              exact hmem (hid ▸ List.mem_map_of_mem hother)

theorem flaw?_eq_none_iff {config : Config} : config.flaw? = none ↔ config.IsSound := by
  have hconstructors : (if config.constructors.isEmpty then some ConfigFlaw.noConstructor
      else none) = none ↔ config.constructors ≠ [] := by
    simp
  simp only [flaw?, Option.or_eq_none_iff, orderFlaw?_eq_none_iff, callFlaw?_eq_none_iff,
    map_callTable, hconstructors, groupFlaw?_eq_none_iff, rulesFlaw?_eq_none_iff, List.lookup_nil,
    List.not_mem_nil, not_false_eq_true, implies_true, and_true, true_and]
  constructor
  · rintro ⟨⟨horder, hcalls⟩, hsome, hgroups, hids, hrules⟩
    exact ⟨horder, hcalls, hsome, hgroups, hids, hrules⟩
  · intro h
    exact ⟨⟨h.order, h.calls⟩, h.constructors, h.groups, h.ids, h.rules⟩

end Config

/-!
# Rules in order

Of two rules the one with the higher priority comes first, and of two with one priority the one that
is registered first.
-/

def Rule.Precedes (rules : List Rule) (a b : Rule) : Prop :=
  b.priority < a.priority ∨ a.priority = b.priority ∧ rules.idxOf a < rules.idxOf b

namespace Catalog

theorem sound (catalog : Catalog) : catalog.config.IsSound :=
  Config.flaw?_eq_none_iff.mp catalog.flawless

theorem ofConfig_eq_ok_iff {config : Config} {catalog : Catalog} :
    ofConfig config = .ok catalog ↔ catalog.config = config := by
  unfold ofConfig
  split
  · rename_i flaw hflaw
    constructor
    · intro h
      cases h
    · rintro rfl
      rw [catalog.flawless] at hflaw
      cases hflaw
  · rename_i hflaw
    constructor
    · intro h
      cases h
      rfl
    · rintro rfl
      rfl

theorem exists_ofConfig_iff {config : Config} :
    (∃ catalog : Catalog, ofConfig config = .ok catalog) ↔ config.IsSound := by
  simp only [ofConfig_eq_ok_iff]
  constructor
  · rintro ⟨catalog, rfl⟩
    exact catalog.sound
  · intro hsound
    exact ⟨⟨config, Config.flaw?_eq_none_iff.mpr hsound⟩, rfl⟩

/-!
# Ranks

Categories and places in the order belong to each other one by one.
-/

theorem nodup_order (catalog : Catalog) : catalog.config.order.Nodup :=
  catalog.sound.order.nodup_iff.mpr Category.nodup_all

theorem mem_order (catalog : Catalog) (category : Category) : category ∈ catalog.config.order :=
  catalog.sound.order.mem_iff.mpr category.mem_all

theorem rank_lt (catalog : Catalog) (category : Category) :
    catalog.style.rank category < catalog.config.order.length :=
  List.idxOf_lt_length_of_mem (catalog.mem_order category)

theorem getElem?_rank (catalog : Catalog) (category : Category) :
    catalog.config.order[catalog.style.rank category]? = some category := by
  rw [List.getElem?_eq_getElem (catalog.rank_lt category)]
  exact congrArg some (List.getElem_idxOf (catalog.rank_lt category))

theorem bijOn_rank (catalog : Catalog) :
    Set.BijOn catalog.style.rank Set.univ (Set.Iio catalog.config.order.length) := by
  refine ⟨fun category _ => catalog.rank_lt category, ?_, ?_⟩
  · intro a _ b _ hrank
    have hplace := catalog.getElem?_rank a
    rw [hrank, catalog.getElem?_rank b] at hplace
    exact (Option.some.inj hplace).symm
  · intro place hmem
    have hplace : place < catalog.config.order.length := hmem
    exact ⟨catalog.config.order[place], Set.mem_univ _,
      catalog.nodup_order.idxOf_getElem place hplace⟩

/-!
# Precedence

There is one arrangement of the rules by precedence, since no two of them stand in one place of the
list.
-/

theorem nodup_rules (catalog : Catalog) : catalog.rules.Nodup :=
  List.Nodup.of_map (·.id) catalog.sound.ids

theorem pairwise_idxOf {rules : List Rule} (h : rules.Nodup) :
    rules.Pairwise fun a b => rules.idxOf a < rules.idxOf b := by
  rw [List.pairwise_iff_getElem]
  intro i j hi hj hlt
  rw [h.idxOf_getElem i hi, h.idxOf_getElem j hj]
  exact hlt

theorem pairwise_byPrecedence (catalog : Catalog) :
    catalog.byPrecedence.Pairwise (Rule.Precedes catalog.rules) := by
  have hsorted := StableOrder.pairwise_mergeSort Rule.priority (fun a b => b ≤ a) catalog.rules
  rw [List.pairwise_iff_forall_sublist] at hsorted ⊢
  intro a b hsublist
  rcases Int.lt_or_eq_of_le (hsorted hsublist) with hlt | heq
  · exact Or.inl hlt
  · -- Sorting keeps the order of rules of one priority, so these are registered in it.
    refine Or.inr ⟨heq.symm, ?_⟩
    have hkept := hsublist.filter fun rule => decide (rule.priority = a.priority)
    unfold byPrecedence at hkept
    rw [StableOrder.filter_mergeSort Rule.priority (fun a b => b ≤ a)
      (fun _ h => of_decide_eq_true h)] at hkept
    have hpair : [a, b].filter (fun rule => decide (rule.priority = a.priority)) = [a, b] := by
      simp [heq]
    rw [hpair] at hkept
    have hregistered := pairwise_idxOf catalog.nodup_rules
    rw [List.pairwise_iff_forall_sublist] at hregistered
    exact hregistered (hkept.trans List.filter_sublist)

theorem eq_byPrecedence_iff (catalog : Catalog) (sequence : List Rule) :
    sequence = catalog.byPrecedence ↔
      sequence.Perm catalog.rules ∧ sequence.Pairwise (Rule.Precedes catalog.rules) := by
  have hperm : catalog.byPrecedence.Perm catalog.rules := List.mergeSort_perm _ _
  constructor
  · rintro rfl
    exact ⟨hperm, catalog.pairwise_byPrecedence⟩
  · rintro ⟨hsequence, hpairwise⟩
    refine List.Perm.eq_of_pairwise ?_ hpairwise catalog.pairwise_byPrecedence
      (hsequence.trans hperm.symm)
    intro a b _ _ hab hba
    unfold Rule.Precedes at hab hba
    omega

/-!
# A single rule
-/

variable {rule : Rule}

theorem rule?_eq_some {catalog : Catalog} {id : String} (h : catalog.rule? id = some rule) :
    rule ∈ catalog.rules ∧ rule.id = id := by
  have hid := List.find?_some h
  exact ⟨List.mem_of_find?_eq_some h, of_decide_eq_true hid⟩

theorem only?_eq_some {catalog : Catalog} {id : String} (h : catalog.rule? id = some rule) :
    catalog.only? id = some (catalog.only rule (rule?_eq_some h).1) := by
  unfold only?
  split
  · rename_i found hfound
    cases h.symm.trans hfound
    rfl
  · rename_i hnone
    rw [h] at hnone
    cases hnone

theorem rule?_of_mem {catalog : Catalog} (mem : rule ∈ catalog.rules) :
    catalog.rule? rule.id = some rule := by
  have hsome : (catalog.rule? rule.id).isSome = true :=
    List.find?_isSome.mpr ⟨rule, mem, decide_eq_true rfl⟩
  rcases Option.isSome_iff_exists.mp hsome with ⟨found, hfound⟩
  rcases rule?_eq_some hfound with ⟨hmem, hid⟩
  rw [hfound, List.inj_on_of_nodup_map catalog.sound.ids hmem mem hid]

theorem only?_eq_none_iff {catalog : Catalog} {id : String} :
    catalog.only? id = none ↔ ∀ rule ∈ catalog.rules, rule.id ≠ id := by
  have hrule : catalog.rule? id = none ↔ ∀ rule ∈ catalog.rules, rule.id ≠ id := by
    unfold rule?
    simp only [List.find?_eq_none, decide_eq_true_eq]
  rw [← hrule]
  cases h : catalog.rule? id with
  | none =>
      unfold only?
      split
      · rename_i rule hrule
        rw [h] at hrule
        cases hrule
      · simp
  | some rule => simp [only?_eq_some h]

/-- A configuration makes a catalog just if it is sound.  The catalog then ranks the categories by
their places in the order, one by one; it tries the rules in the one sequence that goes by priority
and then by registration; and what it is with a single one of its rules is the catalog of the
configuration with that rule alone, where the conventions are the same and the rule is tried. -/
theorem ofConfig_ok_iff_sound (config : Config) :
    ((∃ catalog : Catalog, ofConfig config = .ok catalog) ↔ config.IsSound) ∧
    ∀ catalog : Catalog, ofConfig config = .ok catalog →
      Set.BijOn catalog.style.rank Set.univ (Set.Iio config.order.length) ∧
      (∀ category : Category, config.order[catalog.style.rank category]? = some category) ∧
      (∀ sequence : List Rule, sequence = catalog.byPrecedence ↔
        sequence.Perm config.rules ∧ sequence.Pairwise (Rule.Precedes config.rules)) ∧
      (∀ rule ∈ config.rules, ∃ single : Catalog, catalog.only? rule.id = some single ∧
        ofConfig { config with rules := [rule] } = .ok single ∧
        single.style = catalog.style ∧ single.byPrecedence = [rule]) ∧
      ∀ id : String, catalog.only? id = none ↔ ∀ rule ∈ config.rules, rule.id ≠ id := by
  refine ⟨exists_ofConfig_iff, ?_⟩
  intro catalog h
  cases ofConfig_eq_ok_iff.mp h
  refine ⟨catalog.bijOn_rank, catalog.getElem?_rank, catalog.eq_byPrecedence_iff, ?_,
    fun id => only?_eq_none_iff⟩
  intro rule hrule
  exact ⟨catalog.only rule hrule, only?_eq_some (rule?_of_mem hrule), ofConfig_eq_ok_iff.mpr rfl,
    rfl, List.mergeSort_singleton rule⟩

/-- Three rules, of which the second one has a higher priority than the others. -/
theorem ofConfig_ok_iff_sound_priorities :
    let flags : Rule := ⟨"flags", none, 0, true, .bareFlags ["live"]⟩
    let alike : Rule := ⟨"alike", none, 7, true, .lookalikes 2 none⟩
    let arrows : Rule := ⟨"arrows", none, 0, true, .arrowClosures⟩
    let config : Config := {
      constructors := ["make"]
      order := Category.all.reverse
      calls category := if category = .validation then some ["required", "min"] else none
      exempt := []
      groups := []
      rules := [flags, alike, arrows] }
    ∃ catalog : Catalog, ofConfig config = .ok catalog ∧
      config.order[catalog.style.rank .other]? = some .other ∧
      catalog.byPrecedence = [alike, flags, arrows] ∧
      (∃ single : Catalog, catalog.only? "arrows" = some single ∧
        ofConfig { config with rules := [arrows] } = .ok single) ∧
      catalog.only? "sections" = none := by
  intro flags alike arrows config
  have hflaw : config.flaw? = none := by decide +kernel
  rcases ofConfig_ok_iff_sound config with ⟨hsound, hall⟩
  rcases hsound.mpr (Config.flaw?_eq_none_iff.mp hflaw) with ⟨catalog, h⟩
  rcases hall catalog h with ⟨-, hplaces, hsequence, hsingle, hnone⟩
  have hperm : [alike, flags, arrows].Perm config.rules := List.Perm.swap flags alike [arrows]
  have hpairwise : [alike, flags, arrows].Pairwise (Rule.Precedes config.rules) := by
    unfold Rule.Precedes
    decide +kernel
  refine ⟨catalog, h, hplaces .other, ((hsequence _).mpr ⟨hperm, hpairwise⟩).symm, ?_, ?_⟩
  · rcases hsingle arrows (by simp [config]) with ⟨single, honly, hok, -, -⟩
    exact ⟨single, honly, hok⟩
  · apply (hnone "sections").mpr
    decide +kernel

end Catalog

end FluentStyle
