import FluentStyle.Catalog.Standard
import FluentStyle.Proofs.Catalog.Soundness
import FluentStyle.Proofs.Tree.Declarations
import FluentStyle.Rule.Section

/-!
# The fields that become a section

A run of neighbours is said here by where it ends and not by how it is found: its members have a
property that the member before it and the one after it do not have.  The search for a run passes
none over that is long and short enough, so a list gets a section just if it has such a run for some
group, and then around the first one of the first such group.
-/

namespace FluentStyle

namespace Cut

variable {α : Type} {P : α → Prop} {items : List α} {cut cut' : Cut α} {least limit : Nat}

/-- The cut is around neighbours that have the property, and no member beside them has it. -/
structure IsMaximal (P : α → Prop) (items : List α) (cut : Cut α) : Prop where
  items_eq : items = cut.before ++ (cut.run ++ cut.after)
  run_ne : cut.run ≠ []
  holds : ∀ item ∈ cut.run, P item
  before_ends : ∀ item ∈ cut.before.getLast?, ¬ P item
  after_starts : ∀ item ∈ cut.after.head?, ¬ P item

/-- The cut is around a whole run, with a length that is at least the one and below the other
bound. -/
structure Qualifies (P : α → Prop) (least limit : Nat) (items : List α) (cut : Cut α) : Prop
    extends IsMaximal P items cut where
  least_le : least ≤ cut.run.length
  lt_limit : cut.run.length < limit

/-- The cut is around the first run that qualifies. -/
structure IsLeftmost (P : α → Prop) (least limit : Nat) (items : List α) (cut : Cut α) : Prop
    extends Qualifies P least limit items cut where
  leftmost : ∀ other : Cut α, Qualifies P least limit items other →
    cut.before.length ≤ other.before.length

/-!
# Runs of a list

A run is as long as it can be, so it is known from its place.  The runs of a list that starts with a
whole run are this one and those of what follows it.
-/

theorem eq_of_append_eq {run run' after after' : List α} (hrun : ∀ item ∈ run, P item)
    (hrun' : ∀ item ∈ run', P item) (hafter : ∀ item ∈ after.head?, ¬ P item)
    (hafter' : ∀ item ∈ after'.head?, ¬ P item) (h : run ++ after = run' ++ after') :
    run = run' ∧ after = after' := by
  induction run generalizing run' with
  | nil =>
      cases run' with
      | nil => exact ⟨rfl, h⟩
      | cons item run' =>
          have hhead : item ∈ after.head? := by
            rw [List.nil_append] at h
            rw [h]
            rfl
          exact absurd (hrun' item List.mem_cons_self) (hafter item hhead)
  | cons item run ih =>
      cases run' with
      | nil =>
          have hhead : item ∈ after'.head? := by
            rw [List.nil_append] at h
            rw [← h]
            rfl
          exact absurd (hrun item List.mem_cons_self) (hafter' item hhead)
      | cons item' run' =>
          rw [List.cons_append, List.cons_append, List.cons.injEq] at h
          rcases h with ⟨rfl, h⟩
          rw [List.forall_mem_cons] at hrun hrun'
          rcases ih hrun.2 hrun'.2 h with ⟨rfl, rfl⟩
          exact ⟨rfl, rfl⟩

theorem IsMaximal.unique (h : IsMaximal P items cut) (h' : IsMaximal P items cut')
    (hlength : cut.before.length = cut'.before.length) : cut = cut' := by
  rcases cut with ⟨before, run, after⟩
  rcases cut' with ⟨before', run', after'⟩
  rcases List.append_inj (h.items_eq.symm.trans h'.items_eq) hlength with ⟨hbefore, hrest⟩
  rcases eq_of_append_eq h.holds h'.holds h.after_starts h'.after_starts hrest with ⟨hrun, hafter⟩
  exact congr (congrArg₂ Cut.mk hbefore hrun) hafter

theorem not_isMaximal_nil : ¬ IsMaximal P [] cut := by
  intro h
  have hnil := List.append_eq_nil_iff.mp h.items_eq.symm
  exact h.run_ne (List.append_eq_nil_iff.mp hnil.2).1

theorem IsMaximal.prepend {front : List α} (h : IsMaximal P items cut)
    (hfront : cut.before = [] → ∀ item ∈ front.getLast?, ¬ P item) :
    IsMaximal P (front ++ items) (cut.prepend front) where
  items_eq := by
    rw [h.items_eq]
    exact (List.append_assoc _ _ _).symm
  run_ne := h.run_ne
  holds := h.holds
  before_ends := by
    show ∀ item ∈ (front ++ cut.before).getLast?, ¬ P item
    by_cases hnil : cut.before = []
    · rw [hnil, List.append_nil]
      exact hfront hnil
    · rw [List.getLast?_append_of_ne_nil front hnil]
      exact h.before_ends
  after_starts := h.after_starts

theorem isMaximal_cons_iff {item : α} (hitem : ¬ P item) :
    IsMaximal P (item :: items) cut ↔
      ∃ later : Cut α, IsMaximal P items later ∧ cut = later.prepend [item] := by
  constructor
  · intro h
    rcases cut with ⟨before, run, after⟩
    have hitems := h.items_eq
    cases before with
    | nil =>
        cases run with
        | nil => exact absurd rfl h.run_ne
        | cons first run =>
            cases hitems
            exact absurd (h.holds item List.mem_cons_self) hitem
    | cons first before =>
        cases hitems
        refine ⟨⟨before, run, after⟩, ⟨rfl, h.run_ne, h.holds, ?_, h.after_starts⟩, rfl⟩
        intro last hlast
        apply h.before_ends last
        show last ∈ (item :: before).getLast?
        rw [List.getLast?_cons, Option.mem_def.mp hlast]
        rfl
  · rintro ⟨later, hlater, rfl⟩
    show IsMaximal P ([item] ++ items) _
    apply hlater.prepend
    rintro - last hlast
    cases hlast
    exact hitem

theorem isMaximal_run_append_iff {run rest : List α} (hne : run ≠ []) (hrun : ∀ item ∈ run, P item)
    (hrest : ∀ item ∈ rest.head?, ¬ P item) :
    IsMaximal P (run ++ rest) cut ↔
      cut = ⟨[], run, rest⟩ ∨
        ∃ later : Cut α, IsMaximal P rest later ∧ cut = later.prepend run := by
  constructor
  · intro h
    rcases List.append_eq_append_iff.mp h.items_eq with
      ⟨before, hbefore, hitems⟩ | ⟨tail, hsplit, -⟩
    · refine Or.inr ⟨⟨before, cut.run, cut.after⟩,
        ⟨hitems, h.run_ne, h.holds, ?_, h.after_starts⟩, ?_⟩
      · intro last hlast
        apply h.before_ends last
        rw [hbefore, List.getLast?_append, Option.mem_def.mp hlast]
        rfl
      · rcases cut with ⟨_, _, _⟩
        cases hbefore
        rfl
    · -- What stands before the cut is part of the run, so its last member would have the property.
      have hnil : cut.before = [] := by
        apply List.getLast?_eq_none_iff.mp
        apply Option.eq_none_iff_forall_not_mem.mpr
        intro last hlast
        have hmem : last ∈ run := by
          rw [hsplit]
          exact List.mem_append_left tail (List.mem_of_getLast? hlast)
        exact h.before_ends last hlast (hrun last hmem)
      have hitems := h.items_eq
      rw [hnil, List.nil_append] at hitems
      rcases eq_of_append_eq hrun h.holds hrest h.after_starts hitems with ⟨rfl, rfl⟩
      rcases cut with ⟨_, _, _⟩
      cases hnil
      exact Or.inl rfl
  · rintro (rfl | ⟨later, hlater, rfl⟩)
    · refine ⟨rfl, hne, hrun, ?_, hrest⟩
      intro item hitem
      cases hitem
    · apply hlater.prepend
      -- Were there nothing between the runs, the later one would start where this one ends.
      intro hnil
      rcases later with ⟨before, later, after⟩
      cases hnil
      cases later with
      | nil => exact absurd rfl hlater.run_ne
      | cons first later =>
          have hhead : first ∈ rest.head? := by
            rw [hlater.items_eq]
            rfl
          exact absurd (hlater.holds first List.mem_cons_self) (hrest first hhead)

/-!
# The search for a run

Where the first run is too short or too long, the runs that qualify come after it, and what is first
among them is first of all.
-/

theorem qualifies_iff : Qualifies P least limit items cut ↔
    IsMaximal P items cut ∧ least ≤ cut.run.length ∧ cut.run.length < limit :=
  ⟨fun h => ⟨h.toIsMaximal, h.least_le, h.lt_limit⟩, fun h => ⟨h.1, h.2.1, h.2.2⟩⟩

theorem qualifies_cons_iff {item : α} (hitem : ¬ P item) :
    Qualifies P least limit (item :: items) cut ↔
      ∃ later : Cut α, Qualifies P least limit items later ∧ cut = later.prepend [item] := by
  rw [qualifies_iff, isMaximal_cons_iff hitem]
  constructor
  · rintro ⟨⟨later, hlater, rfl⟩, hbounds⟩
    exact ⟨later, qualifies_iff.mpr ⟨hlater, hbounds⟩, rfl⟩
  · rintro ⟨later, hlater, rfl⟩
    exact ⟨⟨later, hlater.toIsMaximal, rfl⟩, hlater.least_le, hlater.lt_limit⟩

theorem qualifies_run_append_iff {run rest : List α} (hne : run ≠ []) (hrun : ∀ item ∈ run, P item)
    (hrest : ∀ item ∈ rest.head?, ¬ P item)
    (hbounds : ¬ (least ≤ run.length ∧ run.length < limit)) :
    Qualifies P least limit (run ++ rest) cut ↔
      ∃ later : Cut α, Qualifies P least limit rest later ∧ cut = later.prepend run := by
  rw [qualifies_iff, isMaximal_run_append_iff hne hrun hrest]
  constructor
  · rintro ⟨rfl | ⟨later, hlater, rfl⟩, hlength⟩
    · exact absurd hlength hbounds
    · exact ⟨later, qualifies_iff.mpr ⟨hlater, hlength⟩, rfl⟩
  · rintro ⟨later, hlater, rfl⟩
    exact ⟨Or.inr ⟨later, hlater.toIsMaximal, rfl⟩, hlater.least_le, hlater.lt_limit⟩

theorem IsLeftmost.prepend {front : List α} (h : IsLeftmost P least limit items cut)
    (hlater : ∀ other : Cut α, Qualifies P least limit (front ++ items) other ↔
      ∃ later : Cut α, Qualifies P least limit items later ∧ other = later.prepend front) :
    IsLeftmost P least limit (front ++ items) (cut.prepend front) where
  toQualifies := (hlater _).mpr ⟨cut, h.toQualifies, rfl⟩
  leftmost := by
    intro other hother
    rcases (hlater other).mp hother with ⟨later, hqualifies, rfl⟩
    have hle := h.leftmost later hqualifies
    show (front ++ cut.before).length ≤ (front ++ later.before).length
    rw [List.length_append, List.length_append]
    exact Nat.add_le_add_left hle front.length

theorem cons_eq_run_append (test : α → Bool) (item : α) (rest : List α) :
    item :: rest = (item :: rest.takeWhile test) ++ rest.dropWhile test := by
  rw [List.cons_append, List.takeWhile_append_dropWhile]

section Search

variable {test : α → Bool} (htest : ∀ item : α, test item = true ↔ P item)

include htest

theorem holds_takeWhile {item : α} {rest : List α} (hitem : test item = true) :
    ∀ member ∈ item :: rest.takeWhile test, P member := by
  intro member hmember
  rcases List.mem_cons.mp hmember with rfl | hmember
  · exact (htest member).mp hitem
  · exact (htest member).mp (List.all_eq_true.mp List.all_takeWhile member hmember)

theorem dropWhile_starts (rest : List α) : ∀ item ∈ (rest.dropWhile test).head?, ¬ P item := by
  intro item hitem hP
  have hhead := List.head?_dropWhile_not test rest
  rw [Option.mem_def.mp hitem] at hhead
  have hfails : test item = false := hhead
  rw [(htest item).mpr hP] at hfails
  cases hfails

theorem isLeftmost_of_firstRun? (h : firstRun? test least limit items = some cut) :
    IsLeftmost P least limit items cut := by
  fun_induction firstRun? test least limit items generalizing cut
  case case1 => cases h
  case case2 item rest hitem run hbounds =>
    cases h
    have hmaximal : IsMaximal P (item :: rest) ⟨[], run, rest.dropWhile test⟩ := by
      rw [cons_eq_run_append test, isMaximal_run_append_iff (List.cons_ne_nil _ _)
        (holds_takeWhile htest hitem)
        (dropWhile_starts htest rest)]
      exact Or.inl rfl
    exact ⟨qualifies_iff.mpr ⟨hmaximal, hbounds⟩, fun _ _ => Nat.zero_le _⟩
  case case3 item rest hitem run hbounds ih =>
    rcases Option.map_eq_some_iff.mp h with ⟨later, hlater, rfl⟩
    have hleftmost := (ih hlater).prepend fun _ => qualifies_run_append_iff (List.cons_ne_nil _ _)
      (holds_takeWhile htest hitem) (dropWhile_starts htest rest) hbounds
    rw [← cons_eq_run_append] at hleftmost
    exact hleftmost
  case case4 item rest hitem ih =>
    rcases Option.map_eq_some_iff.mp h with ⟨later, hlater, rfl⟩
    show IsLeftmost P least limit ([item] ++ rest) _
    exact (ih hlater).prepend fun _ => qualifies_cons_iff fun hP => hitem ((htest item).mpr hP)

theorem not_qualifies_of_firstRun? (h : firstRun? test least limit items = none) :
    ¬ Qualifies P least limit items cut := by
  fun_induction firstRun? test least limit items generalizing cut
  case case1 => exact fun hcut => not_isMaximal_nil hcut.toIsMaximal
  case case2 => cases h
  case case3 item rest hitem run hbounds ih =>
    rw [cons_eq_run_append test, qualifies_run_append_iff (List.cons_ne_nil _ _)
      (holds_takeWhile htest hitem)
      (dropWhile_starts htest rest) hbounds]
    rintro ⟨later, hlater, -⟩
    exact ih (Option.map_eq_none_iff.mp h) hlater
  case case4 item rest hitem ih =>
    rw [qualifies_cons_iff fun hP => hitem ((htest item).mpr hP)]
    rintro ⟨later, hlater, -⟩
    exact ih (Option.map_eq_none_iff.mp h) hlater

theorem firstRun?_eq_none_iff : firstRun? test least limit items = none ↔
    ∀ cut : Cut α, ¬ Qualifies P least limit items cut := by
  constructor
  · exact fun h _ => not_qualifies_of_firstRun? htest h
  · intro h
    apply Option.eq_none_iff_forall_ne_some.mpr
    intro cut hcut
    exact h cut (isLeftmost_of_firstRun? htest hcut).toQualifies

theorem firstRun?_eq_some_iff : firstRun? test least limit items = some cut ↔
    IsLeftmost P least limit items cut := by
  constructor
  · exact isLeftmost_of_firstRun? htest
  · intro h
    cases hfound : firstRun? test least limit items with
    | none => exact absurd h.toQualifies (not_qualifies_of_firstRun? htest hfound)
    | some found =>
        have hleftmost := isLeftmost_of_firstRun? htest hfound
        have hlength := Nat.le_antisymm (hleftmost.leftmost cut h.toQualifies)
          (h.leftmost found hleftmost.toQualifies)
        rw [hleftmost.toIsMaximal.unique h.toIsMaximal hlength]

theorem isSome_firstRun?_iff : (firstRun? test least limit items).isSome = true ↔
    ∃ cut : Cut α, Qualifies P least limit items cut := by
  rw [Option.isSome_iff_ne_none, ne_eq, firstRun?_eq_none_iff htest, not_forall]
  simp only [not_not]

end Search

end Cut

/-!
# Fields of a group
-/

namespace Group

variable {style : Conventions} {group : Group}

/-- The expression declares a field that belongs to the group, on another class than that of the
group's section. -/
def Declares (style : Conventions) (group : Group) (expr : Expr) : Prop :=
  ∃ (chain : Chain) (className : String) (name : StringLiteral), expr = .chain chain ∧
    chain.DeclaresField style className name ∧ className ≠ group.construct ∧
      group.test.accepts name.value = true

theorem takes_iff (expr : Expr) : group.takes style expr = true ↔ group.Declares style expr := by
  constructor
  · intro h
    cases expr with
    | chain chain =>
        simp only [takes, Bool.and_eq_true, decide_eq_true_eq] at h
        rcases h with ⟨⟨hdeclaration, hclass⟩, haccepts⟩
        cases hname : chain.fieldName? with
        | none =>
            rw [hname] at haccepts
            cases haccepts
        | some name =>
            rw [hname] at haccepts
            rcases Chain.exists_className? hdeclaration with ⟨className, hother⟩
            rw [hother] at hclass
            exact ⟨chain, className, name, rfl,
              Chain.declaresField_iff.mpr ⟨hdeclaration, hother, hname⟩,
              fun heq => hclass (congrArg some heq), haccepts⟩
    | _ => cases h
  · rintro ⟨chain, className, name, rfl, hfield, hclass, haccepts⟩
    rcases Chain.declaresField_iff.mp hfield with ⟨hdeclaration, hother, hname⟩
    simp only [takes, hdeclaration, hother, hname, haccepts, Option.some.injEq, ne_eq, hclass,
      not_false_eq_true, decide_true, Bool.and_self]

/-- The cut is around fields of the group that are worth a section. -/
abbrev Fills (style : Conventions) (group : Group) (items : List Expr) (cut : Cut Expr) : Prop :=
  cut.Qualifies (group.Declares style) group.minFields items.length items

end Group

/-!
# Sections
-/

namespace Expr

def sectionFields : Expr → List Expr
  | .chain ⟨_, _, [⟨_, [.array items]⟩]⟩ =>
      items.filterMap fun item =>
        match item with
        | .value value => some value
        | .pair _ _ => none
  | _ => []

/-- The expressions with the fields of the section at a place instead of the section. -/
def splice (place : Nat) (items : List Expr) : List Expr :=
  items.take place ++ (items[place]?.elim [] sectionFields ++ items.drop (place + 1))

theorem sectionFields_wrap (group : Group) (constructor : String) (fields : List Expr) :
    sectionFields (group.wrap constructor fields) = fields := by
  rw [Group.wrap, sectionFields, List.filterMap_map]
  exact List.filterMap_some

theorem splice_append_cons (before after : List Expr) (wrapped : Expr) :
    splice before.length (before ++ wrapped :: after) =
      before ++ (wrapped.sectionFields ++ after) := by
  have hplace : (before ++ wrapped :: after)[before.length]? = some wrapped := by
    rw [List.getElem?_append_right (Nat.le_refl _), Nat.sub_self]
    rfl
  have hdrop : (before ++ wrapped :: after).drop (before.length + 1) = after := by
    rw [List.drop_append, List.drop_eq_nil_of_le (Nat.le_succ _), Nat.add_sub_cancel_left]
    rfl
  rw [splice, hplace, hdrop, List.take_left]
  rfl

theorem sectioned?_eq {style : Conventions} {constructor : String}
    (h : style.constructors.head? = some constructor) (items : List Expr) :
    sectioned? style items = style.groups.findSome? fun group =>
      (Cut.firstRun? (group.takes style) group.minFields items.length items).map fun cut =>
        cut.before ++ group.wrap constructor cut.run :: cut.after := by
  unfold sectioned?
  split
  · rename_i hnil
    rw [hnil] at h
    cases h
  · rename_i first others hcons
    rw [hcons] at h
    cases h
    rfl

/-- A list of a catalog gets a section just if a run of fields of some group is long enough for the
group and not the whole list.  The section has the fields of the leftmost such run of the first
group that has one, and with these fields in its place the list is what it was. -/
theorem sectioned?_leftmost (catalog : Catalog) (items : List Expr) :
    let style := catalog.style
    ((sectioned? style items).isSome = true ↔
      ∃ group ∈ style.groups, ∃ cut : Cut Expr, group.Fills style items cut) ∧
    ∀ result : List Expr, sectioned? style items = some result ↔
      ∃ (earlier later : List Group) (group : Group) (cut : Cut Expr) (constructor : String),
        style.groups = earlier ++ group :: later ∧
        (∀ other ∈ earlier, ∀ cut : Cut Expr, ¬ other.Fills style items cut) ∧
        cut.IsLeftmost (group.Declares style) group.minFields items.length items ∧
        style.constructors.head? = some constructor ∧
        result = cut.before ++ .chain ⟨.static group.construct,
          ⟨constructor, [.literal (.singleQuoted group.title)]⟩,
          [⟨group.container, [.array (cut.run.map .value)]⟩]⟩ :: cut.after ∧
        splice cut.before.length result = items := by
  intro style
  have hhead : ∃ constructor : String, style.constructors.head? = some constructor := by
    rcases List.exists_cons_of_ne_nil catalog.sound.constructors with ⟨constructor, others, hcons⟩
    exact ⟨constructor, congrArg List.head? hcons⟩
  rcases hhead with ⟨constructor, hconstructor⟩
  rw [sectioned?_eq hconstructor]
  constructor
  · simp only [List.findSome?_isSome_iff, Option.isSome_map,
      Cut.isSome_firstRun?_iff Group.takes_iff]
  · intro result
    simp only [List.findSome?_eq_some_iff, Option.map_eq_some_iff, Option.map_eq_none_iff,
      Cut.firstRun?_eq_some_iff Group.takes_iff, Cut.firstRun?_eq_none_iff Group.takes_iff]
    constructor
    · rintro ⟨earlier, group, later, hgroups, ⟨cut, hleftmost, rfl⟩, hnone⟩
      refine ⟨earlier, later, group, cut, constructor, hgroups, hnone, hleftmost, hconstructor,
        rfl, ?_⟩
      rw [splice_append_cons, sectionFields_wrap]
      exact hleftmost.items_eq.symm
    · rintro ⟨earlier, later, group, cut, _, hgroups, hnone, hleftmost, hsame, rfl, -⟩
      cases hconstructor.symm.trans hsame
      exact ⟨earlier, group, later, hgroups, ⟨cut, hleftmost, rfl⟩, hnone⟩

/-- Fields of the second group, of which a first one is alone, and fields of it that are a whole
list. -/
theorem sectioned?_leftmost_second_group :
    let catalog : Catalog :=
      ⟨{ Config.standard with
        groups := [⟨"B", "Section", "schema", .startsWith "b_", 2⟩,
          ⟨"A", "Section", "schema", .startsWith "a_", 2⟩] }, by decide +kernel⟩
    let field (name : String) : Expr := .chain ⟨.static "X", ⟨"make", [.literal ⟨name⟩]⟩, []⟩
    let items := [field "'a_1'", .variable "$x", field "'a_2'", field "'a_3'", field "'b_1'",
      field "'a_4'", field "'a_5'"]
    let result := [field "'a_1'", .variable "$x",
      .chain ⟨.static "Section", ⟨"make", [.literal ⟨"'A'"⟩]⟩,
        [⟨"schema", [.array [.value (field "'a_2'"), .value (field "'a_3'")]]⟩]⟩,
      field "'b_1'", field "'a_4'", field "'a_5'"]
    sectioned? catalog.style items = some result ∧
      (∃ (group : Group) (cut : Cut Expr),
        cut.IsLeftmost (group.Declares catalog.style) group.minFields items.length items ∧
        splice cut.before.length result = items) ∧
      ∀ group ∈ catalog.style.groups, ∀ cut : Cut Expr,
        ¬ group.Fills catalog.style [field "'a_1'", field "'a_2'"] cut := by
  intro catalog field items result
  have h : sectioned? catalog.style items = some result := by decide +kernel
  have hwhole : sectioned? catalog.style [field "'a_1'", field "'a_2'"] = none := by decide +kernel
  rcases ((sectioned?_leftmost catalog items).2 result).mp h with
    ⟨earlier, later, group, cut, constructor, -, -, hleftmost, -, -, hsplice⟩
  refine ⟨h, ⟨group, cut, hleftmost, hsplice⟩, ?_⟩
  intro other hother whole hfills
  have hsome := (sectioned?_leftmost catalog _).1.mpr ⟨other, hother, whole, hfills⟩
  rw [hwhole] at hsome
  cases hsome

end Expr

end FluentStyle
