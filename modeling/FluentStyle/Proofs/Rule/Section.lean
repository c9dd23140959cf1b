import FluentStyle.Catalog.Standard
import FluentStyle.Proofs.Rule.Verdict
import FluentStyle.Proofs.Rule.Weight

/-!
# Verdicts on sections

A proposal with a section calls the constructor and the container of its group besides what was
called before.  The permission asks for the containers of all groups, so the proposal is accepted
just if each of these is called somewhere, and the names it is rejected for are those that are not.
-/

namespace FluentStyle

variable {style : Conventions} {items items' : List Expr}

namespace Group

theorem calls_wrap (group : Group) (constructor : String) (fields : List Expr) :
    (group.wrap constructor fields).calls =
      ⟨constructor, [.literal (.singleQuoted group.title)]⟩ ::
        ⟨group.container, [.array (fields.map .value)]⟩ :: Expr.callsAll fields := by
  have hliteral : Expr.callsAll [.literal (.singleQuoted group.title)] = [] := by
    rw [Expr.callsAll, Expr.callsAll, Expr.calls, List.append_nil]
  have harray : Expr.callsAll [.array (fields.map .value)] = Expr.callsAll fields := by
    rw [Expr.callsAll, Expr.callsAll, List.append_nil, Expr.calls_list]
  rw [wrap, Expr.calls, hliteral, Call.callsAll, harray, Call.callsAll, List.append_nil,
    List.nil_append]

end Group

namespace Expr

/-- What making a section does to the calls of a list: it adds a call of the first constructor and
one of the container of a group. -/
structure Sectioned (style : Conventions) (items items' : List Expr)
    (constructor container : Call) :
    Prop where
  constructor_eq : style.constructors.head? = some constructor.name
  container_mem : container.name ∈ style.groups.map (·.container)
  calls_perm : (callsAll items').Perm (constructor :: container :: callsAll items)

theorem exists_sectioned (h : sectioned? style items = some items') :
    ∃ constructor container : Call, Sectioned style items items' constructor container := by
  rcases sectioned?_eq_some h with ⟨constructor, group, cut, hconstructor, hgroup, hrun, rfl⟩
  refine ⟨⟨constructor, [.literal (.singleQuoted group.title)]⟩,
    ⟨group.container, [.array (cut.run.map .value)]⟩, hconstructor, ?_, ?_⟩
  · exact List.mem_map_of_mem hgroup
  · rw [hrun.items_eq, callsAll_append, callsAll, callsAll_append, callsAll_append,
      Group.calls_wrap]
    exact List.perm_middle.trans (List.perm_middle.cons _)

end Expr

namespace Site

theorem names_effects (site : Site) : site.effects.map (·.name) = site.calls.map (·.name) := by
  rw [effects, List.map_map]
  rfl

/-- The containers of groups that are not called anywhere in the site. -/
def uncalledContainers (style : Conventions) (site : Site) : List String :=
  (style.groups.map (·.container)).filter fun name => !(site.calls.map (·.name)).contains name

theorem uncalledContainers_eq_nil_iff {site : Site} :
    site.uncalledContainers style = [] ↔
      ∀ group ∈ style.groups, ∃ call ∈ site.calls, call.name = group.container := by
  unfold uncalledContainers
  simp only [List.filter_eq_nil_iff, List.mem_map, Bool.not_eq_true, Bool.not_eq_false',
    List.contains_iff_mem, forall_exists_index, and_imp, forall_apply_eq_imp_iff₂]

end Site

/-!
# What the permission asks for

The names that a section calls for are those called before, all containers, and the constructor; the
names that are missing are the containers that are not called.
-/

namespace Expr.Sectioned

variable {constructor container : Call}

theorem expected_eq (h : Sectioned style items items' constructor container) :
    (RuleKind.sections.permission style).expected (Site.list items).effects =
      (Site.list items).calls.map (·.name) ++
        (style.groups.map (·.container) ++ [constructor.name]) := by
  have hbecome : ∀ name : String, (RuleKind.sections.permission style).become name = [name] := by
    intro name
    rfl
  have hconstructor : style.constructors.head?.toList = [constructor.name] := by
    rw [h.constructor_eq]
    rfl
  unfold Permission.expected
  simp only [hbecome]
  rw [← List.map_eq_flatMap, Site.names_effects, ← hconstructor]
  rfl

theorem missing_eq (h : Sectioned style items items' constructor container) :
    (RuleKind.sections.permission style).missing (Site.list items).effects
        (Site.list items').effects = (Site.list items').uncalledContainers style := by
  have hcalled : ∀ calls : List Call, calls ⊆ constructor :: container :: callsAll items →
      (calls.map (·.name)).filter
        (fun name => !((Site.list items').calls.map (·.name)).contains name) = [] := by
    intro calls hcalls
    apply List.filter_eq_nil_iff.mpr
    intro name hname
    rcases List.mem_map.mp hname with ⟨call, hcall, rfl⟩
    have hmem : call.name ∈ (Site.list items').calls.map (·.name) :=
      List.mem_map_of_mem (h.calls_perm.mem_iff.mpr (hcalls hcall))
    rw [List.contains_iff_mem.mpr hmem]
    exact Bool.false_ne_true
  have hbefore := hcalled (Site.list items).calls fun call hcall =>
    List.mem_cons_of_mem _ (List.mem_cons_of_mem _ hcall)
  have hfirst := hcalled [constructor] (List.cons_subset_cons constructor (List.nil_subset _))
  rw [List.map_singleton] at hfirst
  unfold Permission.missing Site.uncalledContainers
  rw [h.expected_eq, Site.names_effects, List.filter_append, List.filter_append, hbefore, hfirst,
    List.nil_append, List.append_nil]

theorem unexpected_eq (h : Sectioned style items items' constructor container) :
    (RuleKind.sections.permission style).unexpected (Site.list items).effects
        (Site.list items').effects = [] := by
  apply List.eq_nil_iff_forall_not_mem.mpr
  intro name hname
  rcases Permission.mem_unexpected.mp hname with ⟨hcalled, hunexpected⟩
  rw [Site.names_effects] at hcalled
  rw [h.expected_eq, List.mem_append, List.mem_append, List.mem_singleton] at hunexpected
  rcases List.mem_map.mp hcalled with ⟨call, hcall, rfl⟩
  apply hunexpected
  rcases List.mem_cons.mp (h.calls_perm.mem_iff.mp hcall) with rfl | hcall
  · exact Or.inr (Or.inr rfl)
  · rcases List.mem_cons.mp hcall with rfl | hcall
    · exact Or.inr (Or.inl h.container_mem)
    · exact Or.inl (List.mem_map_of_mem hcall)

theorem allows (h : Sectioned style items items' constructor container)
    (hcontainers : (Site.list items').uncalledContainers style = []) :
    (RuleKind.sections.permission style).Allows (Site.list items).effects
      (Site.list items').effects := by
  have heffects : ((Site.list items').effects).Perm
      (Effect.ofCall constructor :: Effect.ofCall container :: (Site.list items).effects) :=
    h.calls_perm.map Effect.ofCall
  have happears : ∀ name : String,
      name ∈ style.groups.map (·.container) ++ style.constructors.head?.toList →
        (RuleKind.sections.permission style).mayAppear name = true := by
    intro name hname
    exact Bool.or_eq_true_iff.mpr (Or.inl (List.contains_iff_mem.mpr hname))
  refine ⟨Permission.names_iff.mpr ⟨h.missing_eq.trans hcontainers, h.unexpected_eq⟩, ?_, ?_⟩
  · intro effect _
    rw [heffects.count_eq]
    exact Nat.le_trans List.count_le_count_cons List.count_le_count_cons
  · intro effect hforbidden
    have hother : ∀ call : Call,
        (RuleKind.sections.permission style).mayAppear call.name = true →
          Effect.ofCall call ≠ effect := by
      rintro call happear rfl
      rw [← Bool.not_eq_true] at hforbidden
      exact hforbidden happear
    have hcontainer := hother container (happears _ (List.mem_append_left _ h.container_mem))
    have hconstructor := hother constructor (happears _ (by
      rw [h.constructor_eq]
      exact List.mem_append_right _ List.mem_cons_self))
    apply Nat.le_of_eq
    rw [heffects.count_eq, List.count_cons_of_ne hconstructor, List.count_cons_of_ne hcontainer]

theorem ofEffects_eq (h : Sectioned style items items' constructor container) :
    Verdict.ofEffects (RuleKind.sections.permission style) (Site.list items).effects
        (Site.list items').effects =
      if (Site.list items').uncalledContainers style = [] then .accept
      else .reject (.names (Text.distinct ((Site.list items').uncalledContainers style)) []) := by
  split
  · rename_i hcontainers
    exact Verdict.ofEffects_eq_accept_iff.mpr (h.allows hcontainers)
  · rename_i hcontainers
    rw [Verdict.ofEffects_of_names, h.missing_eq, h.unexpected_eq, Text.distinct, Text.distinct,
      List.mergeSort_nil]
    · rfl
    · rintro ⟨hmissing, -⟩
      exact hcontainers (h.missing_eq.symm.trans hmissing)

end Expr.Sectioned

/-!
# Proposals
-/

namespace Rule

variable {rule : Rule} {proposal : Site}

/-- The verdict on a section: the proposal is accepted if the containers of all groups are called in
it, and otherwise rejected for those that are not.  So it is accepted where all groups have the same
container. -/
theorem examine_section (hkind : rule.kind = .sections)
    (h : rule.proposal? style (.list items) = some proposal) :
    rule.examine style (.list items) proposal =
      (if proposal.uncalledContainers style = [] then .accept
      else .reject (.names (Text.distinct (proposal.uncalledContainers style)) [])) ∧
    (rule.examine style (.list items) proposal = .accept ↔
      ∀ group ∈ style.groups, ∃ call ∈ proposal.calls, call.name = group.container) ∧
    ((∀ group ∈ style.groups, ∀ other ∈ style.groups, group.container = other.container) →
      rule.examine style (.list items) proposal = .accept) := by
  rw [Rule.proposal?, hkind] at h
  rcases Option.map_eq_some_iff.mp h with ⟨items', hitems, rfl⟩
  rcases Expr.exists_sectioned hitems with ⟨constructor, container, hsection⟩
  have hverdict : rule.examine style (.list items) (.list items') =
      if (Site.list items').uncalledContainers style = [] then .accept
      else .reject (.names (Text.distinct ((Site.list items').uncalledContainers style)) []) := by
    rw [← hsection.ofEffects_eq, Rule.examine, hkind]
    rfl
  have haccept : rule.examine style (.list items) (.list items') = .accept ↔
      ∀ group ∈ style.groups, ∃ call ∈ (Site.list items').calls, call.name = group.container := by
    rw [hverdict, ← Site.uncalledContainers_eq_nil_iff]
    split <;> simp_all
  refine ⟨hverdict, haccept, ?_⟩
  intro hsame
  apply haccept.mpr
  rcases List.mem_map.mp hsection.container_mem with ⟨group, hgroup, hcontainer⟩
  intro other hother
  refine ⟨container, hsection.calls_perm.mem_iff.mpr ?_, ?_⟩
  · exact List.mem_cons_of_mem _ List.mem_cons_self
  · rw [← hcontainer, hsame group hgroup other hother]

/-- Two groups with different containers: the section of the one is rejected for the container of
the other. -/
theorem examine_section_containers :
    let field (className name : String) : Expr :=
      .chain ⟨.static className, ⟨"make", [.literal ⟨name⟩]⟩, []⟩
    let style : Conventions :=
      { Catalog.standard.style with
        groups := [⟨"A", "Section", "schema", .startsWith "a_", 2⟩,
          ⟨"B", "Section", "fields", .startsWith "b_", 2⟩] }
    let items := [field "TextInput" "'a_x'", field "TextInput" "'a_y'", field "Toggle" "'b'"]
    let rule : Rule := ⟨"group", none, 0, false, .sections⟩
    let proposal := Site.list
      [.chain ⟨.static "Section", ⟨"make", [.literal ⟨"'A'"⟩]⟩, [⟨"schema", [.array
        [.value (field "TextInput" "'a_x'"), .value (field "TextInput" "'a_y'")]]⟩]⟩,
        field "Toggle" "'b'"]
    rule.proposal? style (.list items) = some proposal ∧
      rule.examine style (.list items) proposal = .reject (.names ["fields"] []) := by
  intro field style items rule proposal
  have h : rule.proposal? style (.list items) = some proposal := by decide +kernel
  have huncalled : proposal.uncalledContainers style = ["fields"] := by decide +kernel
  refine ⟨h, ?_⟩
  rw [(examine_section rfl h).1, huncalled, if_neg (List.cons_ne_nil _ _), Text.distinct,
    List.mergeSort_singleton]
  rfl

end Rule

end FluentStyle
