import FluentStyle.Proofs.Tree.Declarations
import FluentStyle.Rule.Lookalike
import Mathlib.Data.List.Forall2
import Mathlib.Data.List.Sort

/-!
# Classes of lookalikes

The declarations in a list that look alike are said here by their places.  To look alike is to be
equal but for the literal that the constructor starts with, so the places fall into classes; and
those that are reported are the classes that are large enough, as they come in the list.
-/

namespace FluentStyle

namespace Chain

variable {style : Conventions} {chain a b shape : Chain} {className : String} {name : StringLiteral}

/-- The chains are equal but for the first argument of their first calls. -/
structure Alike (a b : Chain) : Prop where
  root_eq : a.root = b.root
  name_eq : a.first.name = b.first.name
  args_eq : a.first.args.tail = b.first.args.tail
  rest_eq : a.rest = b.rest

def blanked (chain : Chain) : Chain :=
  { chain with first := ⟨chain.first.name, .constant "" :: chain.first.args.tail⟩ }

theorem blanked_eq_iff : a.blanked = b.blanked ↔ a.Alike b := by
  constructor
  · intro h
    injection h with hroot hfirst hrest
    injection hfirst with hname hargs
    injection hargs with _ htail
    exact ⟨hroot, hname, htail, hrest⟩
  · intro h
    unfold blanked
    rw [h.root_eq, h.name_eq, h.args_eq, h.rest_eq]

theorem shape?_eq_some_iff : chain.shape? style = some (shape, name) ↔
    (∃ className : String, chain.DeclaresField style className name) ∧ chain.modifiers ≠ [] ∧
      shape = chain.blanked := by
  constructor
  · intro h
    unfold shape? at h
    split at h
    · rename_i className constructor literal args call rest
      split at h
      · rename_i hmem
        cases h
        exact ⟨⟨className, rfl, List.contains_iff_mem.mp hmem, rfl⟩, List.cons_ne_nil _ _, rfl⟩
      · cases h
    · cases h
  · rintro ⟨⟨className, hroot, hmem, hargs⟩, hmodifiers, rfl⟩
    rcases chain with ⟨root, ⟨constructor, args⟩, rest⟩
    cases hroot
    rcases List.head?_eq_some_iff.mp hargs with ⟨others, rfl⟩
    rcases List.exists_cons_of_ne_nil hmodifiers with ⟨call, calls, rfl⟩
    exact if_pos (List.contains_iff_mem.mpr hmem)

end Chain

namespace Lookalikes

/-- At the place there is the declaration of a field with more calls than its constructor. -/
structure DeclaresAt (style : Conventions) (items : List Expr) (place : Nat) (chain : Chain) :
    Prop where
  getElem?_eq : items[place]? = some (.chain chain)
  field : ∃ (className : String) (name : StringLiteral), chain.DeclaresField style className name
  modified : chain.modifiers ≠ []

def StartsBefore (a b : List Nat) : Prop :=
  ∃ i ∈ a.head?, ∃ j ∈ b.head?, i < j

/-- The places of the declarations, those that look alike in one class.  A class has its places as
they come in the list, and the classes come by their first places. -/
structure IsPartition (style : Conventions) (items : List Expr) (classes : List (List Nat)) :
    Prop where
  ne_nil : ∀ places ∈ classes, places ≠ []
  ordered : ∀ places ∈ classes, places.Pairwise (· < ·)
  by_first : classes.Pairwise StartsBefore
  disjoint : classes.Pairwise List.Disjoint
  mem_iff : ∀ place : Nat, (∃ places ∈ classes, place ∈ places) ↔
    ∃ chain : Chain, DeclaresAt style items place chain
  alike_iff : ∀ places ∈ classes, ∀ i ∈ places, ∀ a : Chain, DeclaresAt style items i a →
    ∀ j : Nat, j ∈ places ↔ ∃ b : Chain, DeclaresAt style items j b ∧ a.Alike b

instance : Std.Asymm StartsBefore where
  asymm := by
    rintro a b ⟨i, hi, j, hj, hlt⟩ ⟨j', hj', i', hi', hlt'⟩
    cases Option.mem_unique hi hi'
    cases Option.mem_unique hj hj'
    exact Nat.lt_asymm hlt hlt'

section Uniqueness

variable {style : Conventions} {items : List Expr} {classes classes' : List (List Nat)}

theorem IsPartition.subset (h : IsPartition style items classes)
    (h' : IsPartition style items classes') : classes ⊆ classes' := by
  intro places hplaces
  rcases List.exists_mem_of_ne_nil places (h.ne_nil places hplaces) with ⟨i, hi⟩
  rcases (h.mem_iff i).mp ⟨places, hplaces, hi⟩ with ⟨chain, hdeclares⟩
  rcases (h'.mem_iff i).mpr ⟨chain, hdeclares⟩ with ⟨places', hplaces', hi'⟩
  have hsame : ∀ j : Nat, j ∈ places ↔ j ∈ places' := by
    intro j
    rw [h.alike_iff places hplaces i hi chain hdeclares,
      h'.alike_iff places' hplaces' i hi' chain hdeclares]
  rw [(h.ordered places hplaces).eq_of_mem_iff (h'.ordered places' hplaces') hsame]
  exact hplaces'

/-- There is one partition of the declarations in a list. -/
theorem IsPartition.unique (h : IsPartition style items classes)
    (h' : IsPartition style items classes') : classes = classes' :=
  h.by_first.eq_of_mem_iff h'.by_first fun _ =>
    ⟨fun hmem => h.subset h' hmem, fun hmem => h'.subset h hmem⟩

end Uniqueness

/-- What is reported of a class: the names at its places, as they come in the list, and the name of
the class, which is the same at all of them. -/
def Reports (style : Conventions) (items : List Expr) (places : List Nat) (found : Lookalikes) :
    Prop :=
  List.Forall₂ (fun place name => ∃ (chain : Chain) (className : String),
    DeclaresAt style items place chain ∧ chain.DeclaresField style className name ∧
      found.shape.className? = some className) places found.names

/-!
# Candidates and their classes

A candidate is a declaration among the items that has a shape.
-/

structure Candidate where
  place : Nat
  shape : Chain
  name : StringLiteral

def Candidate.ofItem? (style : Conventions) : Expr × Nat → Option Candidate
  | (.chain chain, place) =>
      (chain.shape? style).map fun (shape, name) => ⟨place, shape, name⟩
  | _ => none

def candidates (style : Conventions) (items : List Expr) : List Candidate :=
  items.zipIdx.filterMap (Candidate.ofItem? style)

def alike (shape : Chain) (found : List Candidate) : List Candidate :=
  found.filter (·.shape = shape)

def others (shape : Chain) (found : List Candidate) : List Candidate :=
  found.filter (·.shape ≠ shape)

/-- The candidates of one shape together: first those with the shape of the first one, then the
classes of the others. -/
def classes : List Candidate → List (List Candidate)
  | [] => []
  | first :: rest => (first :: alike first.shape rest) :: classes (others first.shape rest)
termination_by found => found.length
decreasing_by
  exact Nat.lt_succ_of_le (List.length_filter_le _ _)

variable {style : Conventions} {items : List Expr} {members found : List Candidate}

theorem Candidate.ofItem?_eq_some_iff {item : Expr × Nat} {candidate : Candidate} :
    Candidate.ofItem? style item = some candidate ↔
      item.2 = candidate.place ∧ ∃ chain : Chain, item.1 = .chain chain ∧
        chain.shape? style = some (candidate.shape, candidate.name) := by
  rcases item with ⟨item, place⟩
  constructor
  · intro h
    cases item with
    | chain chain =>
        rcases Option.map_eq_some_iff.mp h with ⟨⟨shape, name⟩, hshape, rfl⟩
        exact ⟨rfl, chain, rfl, hshape⟩
    | _ => cases h
  · rintro ⟨rfl, chain, rfl, hshape⟩
    exact Option.map_eq_some_iff.mpr ⟨_, hshape, rfl⟩

theorem mem_candidates_iff {candidate : Candidate} : candidate ∈ candidates style items ↔
    ∃ chain : Chain, DeclaresAt style items candidate.place chain ∧
      (∃ className : String, chain.DeclaresField style className candidate.name) ∧
        candidate.shape = chain.blanked := by
  unfold candidates
  rw [List.mem_filterMap]
  constructor
  · rintro ⟨item, hmem, h⟩
    rcases Candidate.ofItem?_eq_some_iff.mp h with ⟨hplace, chain, hchain, hshape⟩
    rcases Chain.shape?_eq_some_iff.mp hshape with ⟨⟨className, hfield⟩, hmodifiers, hblanked⟩
    have hitem := List.mem_zipIdx_iff_getElem?.mp hmem
    rw [hplace, hchain] at hitem
    exact ⟨chain, ⟨hitem, ⟨className, candidate.name, hfield⟩, hmodifiers⟩, ⟨className, hfield⟩,
      hblanked⟩
  · rintro ⟨chain, ⟨hitem, -, hmodifiers⟩, hfield, hblanked⟩
    have hshape : chain.shape? style = some (candidate.shape, candidate.name) :=
      Chain.shape?_eq_some_iff.mpr ⟨hfield, hmodifiers, hblanked⟩
    exact ⟨(.chain chain, candidate.place), List.mem_zipIdx_iff_getElem?.mpr hitem,
      Candidate.ofItem?_eq_some_iff.mpr ⟨rfl, chain, rfl, hshape⟩⟩

theorem pairwise_candidates (style : Conventions) (items : List Expr) :
    (candidates style items).Pairwise fun a b => a.place < b.place := by
  have hplaces : items.zipIdx.Pairwise fun a b => a.2 < b.2 := by
    apply List.pairwise_map.mp
    rw [List.zipIdx_map_snd]
    exact List.pairwise_lt_range'
  refine hplaces.filterMap _ ?_
  intro a b hlt candidate hcandidate other hother
  rw [← (Candidate.ofItem?_eq_some_iff.mp hcandidate).1,
    ← (Candidate.ofItem?_eq_some_iff.mp hother).1]
  exact hlt

theorem mem_alike_iff {shape : Chain} {candidate : Candidate} :
    candidate ∈ alike shape found ↔ candidate ∈ found ∧ candidate.shape = shape := by
  rw [alike, List.mem_filter, decide_eq_true_eq]

theorem mem_others_iff {shape : Chain} {candidate : Candidate} :
    candidate ∈ others shape found ↔ candidate ∈ found ∧ candidate.shape ≠ shape := by
  rw [others, List.mem_filter, decide_eq_true_eq]

theorem shape_of_mem_cons_alike {first candidate : Candidate}
    (h : candidate ∈ first :: alike first.shape found) : candidate.shape = first.shape := by
  rcases List.mem_cons.mp h with rfl | h
  · rfl
  · exact (mem_alike_iff.mp h).2

/-!
# The classes are a partition
-/

theorem sublist_of_mem_classes (h : members ∈ classes found) : members.Sublist found := by
  fun_induction classes found
  case case1 => cases h
  case case2 first rest ih =>
    rcases List.mem_cons.mp h with rfl | h
    · exact List.filter_sublist.cons_cons first
    · exact ((ih h).trans List.filter_sublist).cons first

theorem ne_nil_of_mem_classes (h : members ∈ classes found) : members ≠ [] := by
  fun_induction classes found
  case case1 => cases h
  case case2 first rest ih =>
    rcases List.mem_cons.mp h with rfl | h
    · exact List.cons_ne_nil _ _
    · exact ih h

theorem exists_mem_classes {candidate : Candidate} (h : candidate ∈ found) :
    ∃ members ∈ classes found, candidate ∈ members := by
  fun_induction classes found
  case case1 => cases h
  case case2 first rest ih =>
    rcases List.mem_cons.mp h with rfl | h
    · exact ⟨_, List.mem_cons_self, List.mem_cons_self⟩
    · by_cases hshape : candidate.shape = first.shape
      · exact ⟨_, List.mem_cons_self,
          List.mem_cons_of_mem first (mem_alike_iff.mpr ⟨h, hshape⟩)⟩
      · rcases ih (mem_others_iff.mpr ⟨h, hshape⟩) with ⟨members, hmembers, hmem⟩
        exact ⟨members, List.mem_cons_of_mem _ hmembers, hmem⟩

theorem mem_class_iff (h : members ∈ classes found) {a b : Candidate} (ha : a ∈ members)
    (hb : b ∈ found) : b ∈ members ↔ a.shape = b.shape := by
  fun_induction classes found
  case case1 => cases h
  case case2 first rest ih =>
    rcases List.mem_cons.mp h with rfl | h
    · constructor
      · exact fun hmem => (shape_of_mem_cons_alike ha).trans (shape_of_mem_cons_alike hmem).symm
      · intro hshape
        rcases List.mem_cons.mp hb with rfl | hb
        · exact List.mem_cons_self
        · apply List.mem_cons_of_mem first
          exact mem_alike_iff.mpr ⟨hb, hshape.symm.trans (shape_of_mem_cons_alike ha)⟩
    · have hne : ∀ other ∈ members, other.shape ≠ first.shape := by
        intro other hother
        exact (mem_others_iff.mp ((sublist_of_mem_classes h).subset hother)).2
      by_cases hshape : b.shape = first.shape
      · constructor
        · exact fun hmem => absurd hshape (hne b hmem)
        · exact fun hsame => absurd (hsame.trans hshape) (hne a ha)
      · rcases List.mem_cons.mp hb with rfl | hb
        · exact absurd rfl hshape
        · exact ih h (mem_others_iff.mpr ⟨hb, hshape⟩)

theorem pairwise_classes (h : found.Pairwise fun a b => a.place < b.place) :
    (classes found).Pairwise fun a b => ∀ i ∈ a.head?, ∀ j ∈ b, i.place < j.place := by
  fun_induction classes found
  case case1 => exact List.Pairwise.nil
  case case2 first rest ih =>
    rw [List.pairwise_cons] at h
    refine List.pairwise_cons.mpr ⟨?_, ih (h.2.sublist List.filter_sublist)⟩
    intro members hmembers i hi j hj
    cases hi
    have hmem := (sublist_of_mem_classes hmembers).subset hj
    exact h.1 j (mem_others_iff.mp hmem).1

theorem shape_ne_of_classes (found : List Candidate) :
    (classes found).Pairwise fun a b => ∀ i ∈ a, ∀ j ∈ b, i.shape ≠ j.shape := by
  fun_induction classes found
  case case1 => exact List.Pairwise.nil
  case case2 first rest ih =>
    refine List.pairwise_cons.mpr ⟨?_, ih⟩
    intro members hmembers i hi j hj
    have hmem := (sublist_of_mem_classes hmembers).subset hj
    rw [shape_of_mem_cons_alike hi]
    exact (mem_others_iff.mp hmem).2.symm

/-!
# What is collected

Of the candidates those that have the first shape are added to it, and the others go on.  So what is
gathered are the classes, one by one.
-/

structure Gathers (members : List Candidate) (lookalikes : Lookalikes) : Prop where
  shapes : ∀ candidate ∈ members, candidate.shape = lookalikes.shape
  names_eq : lookalikes.names = members.map (·.name)

/-- Adds candidates, one after another, to those that they look like. -/
def gather (collected : List Lookalikes) (found : List Candidate) : List Lookalikes :=
  found.foldl (fun collected candidate => insert candidate.shape candidate.name collected) collected

theorem collect_eq_gather (style : Conventions) (items : List Expr) :
    collect style items = gather [] (candidates style items) := by
  unfold gather candidates collect
  rw [List.foldl_filterMap]
  conv_lhs => rw [← List.zipIdx_map_fst 0 items, List.foldl_map]
  congr 1
  funext collected item
  rcases item with ⟨item, place⟩
  cases item with
  | chain chain =>
      cases h : chain.shape? style <;>
        simp only [Candidate.ofItem?, h, Option.map_none, Option.map_some]
  | _ => rfl

theorem gather_cons (first : Lookalikes) (rest : List Lookalikes) (found : List Candidate) :
    gather (first :: rest) found =
      ⟨first.shape, first.names ++ (alike first.shape found).map (·.name)⟩ ::
        gather rest (others first.shape found) := by
  induction found generalizing first rest with
  | nil =>
      show first :: rest = ⟨first.shape, first.names ++ []⟩ :: rest
      rw [List.append_nil]
  | cons candidate found ih =>
      by_cases hshape : candidate.shape = first.shape
      · have hinsert : insert candidate.shape candidate.name (first :: rest) =
            ⟨first.shape, first.names ++ [candidate.name]⟩ :: rest := if_pos hshape.symm
        have halike :
            alike first.shape (candidate :: found) = candidate :: alike first.shape found :=
          List.filter_cons_of_pos (decide_eq_true hshape)
        have hothers : others first.shape (candidate :: found) = others first.shape found :=
          List.filter_cons_of_neg (by simpa using hshape)
        rw [gather, List.foldl_cons, hinsert]
        show gather (⟨first.shape, first.names ++ [candidate.name]⟩ :: rest) found = _
        rw [ih, halike, hothers, List.map_cons, List.append_assoc]
        rfl
      · have hinsert : insert candidate.shape candidate.name (first :: rest) =
            first :: insert candidate.shape candidate.name rest := if_neg (Ne.symm hshape)
        have halike : alike first.shape (candidate :: found) = alike first.shape found :=
          List.filter_cons_of_neg (by simpa using hshape)
        have hothers :
            others first.shape (candidate :: found) = candidate :: others first.shape found :=
          List.filter_cons_of_pos (decide_eq_true hshape)
        rw [gather, List.foldl_cons, hinsert]
        show gather (first :: insert candidate.shape candidate.name rest) found = _
        rw [ih, halike, hothers]
        rfl

theorem forall₂_gathers (found : List Candidate) :
    List.Forall₂ Gathers (classes found) (gather [] found) := by
  fun_induction classes found
  case case1 => exact List.Forall₂.nil
  case case2 first rest ih =>
    show List.Forall₂ Gathers _ (gather [⟨first.shape, [first.name]⟩] rest)
    rw [gather_cons]
    exact List.Forall₂.cons ⟨fun _ => shape_of_mem_cons_alike, rfl⟩ ih

/-!
# Places
-/

def places (members : List Candidate) : List Nat :=
  members.map (·.place)

theorem mem_places_iff {place : Nat} :
    place ∈ places members ↔ ∃ candidate ∈ members, candidate.place = place :=
  List.mem_map

theorem eq_of_place_eq {a b : Candidate} (ha : a ∈ candidates style items)
    (hb : b ∈ candidates style items) (h : a.place = b.place) : a = b := by
  rcases mem_candidates_iff.mp ha with ⟨chain, hdeclaresA, ⟨classA, hfieldA⟩, hshapeA⟩
  rcases mem_candidates_iff.mp hb with ⟨chainB, hdeclaresB, ⟨classB, hfieldB⟩, hshapeB⟩
  have hitem := hdeclaresA.getElem?_eq
  rw [h, hdeclaresB.getElem?_eq] at hitem
  cases hitem
  have hname := hfieldA.head?_args
  rw [hfieldB.head?_args] at hname
  rcases a with ⟨place, shape, name⟩
  rcases b with ⟨place', shape', name'⟩
  cases h
  cases hname
  exact congrArg (Candidate.mk place · name) (hshapeA.trans hshapeB.symm)

theorem DeclaresAt.exists_candidate {place : Nat} {chain : Chain}
    (h : DeclaresAt style items place chain) :
    ∃ candidate ∈ candidates style items, candidate.place = place ∧
      candidate.shape = chain.blanked := by
  rcases h.field with ⟨className, name, hfield⟩
  exact ⟨⟨place, chain.blanked, name⟩,
    mem_candidates_iff.mpr ⟨chain, h, ⟨className, hfield⟩, rfl⟩, rfl, rfl⟩

theorem isPartition_classes (style : Conventions) (items : List Expr) :
    IsPartition style items ((classes (candidates style items)).map places) where
  ne_nil := by
    rw [List.forall_mem_map]
    intro members hmembers hnil
    exact ne_nil_of_mem_classes hmembers (List.map_eq_nil_iff.mp hnil)
  ordered := by
    rw [List.forall_mem_map]
    intro members hmembers
    apply List.pairwise_map.mpr
    exact (pairwise_candidates style items).sublist (sublist_of_mem_classes hmembers)
  by_first := by
    apply List.pairwise_map.mpr
    refine (pairwise_classes (pairwise_candidates style items)).imp_of_mem ?_
    intro a b ha hb h
    rcases List.exists_cons_of_ne_nil (ne_nil_of_mem_classes ha) with ⟨first, rest, rfl⟩
    rcases List.exists_cons_of_ne_nil (ne_nil_of_mem_classes hb) with ⟨other, others, rfl⟩
    exact ⟨first.place, rfl, other.place, rfl, h first rfl other List.mem_cons_self⟩
  disjoint := by
    apply List.pairwise_map.mpr
    refine (shape_ne_of_classes (candidates style items)).imp_of_mem ?_
    intro a b ha hb hne place hplaceA hplaceB
    rcases mem_places_iff.mp hplaceA with ⟨first, hfirst, rfl⟩
    rcases mem_places_iff.mp hplaceB with ⟨other, hother, hplace⟩
    have hsame := eq_of_place_eq ((sublist_of_mem_classes hb).subset hother)
      ((sublist_of_mem_classes ha).subset hfirst) hplace
    exact hne first hfirst other hother (congrArg (·.shape) hsame.symm)
  mem_iff := by
    intro place
    constructor
    · rintro ⟨_, hmem, hplace⟩
      rcases List.mem_map.mp hmem with ⟨members, hmembers, rfl⟩
      rcases mem_places_iff.mp hplace with ⟨candidate, hcandidate, rfl⟩
      have hfound := (sublist_of_mem_classes hmembers).subset hcandidate
      rcases mem_candidates_iff.mp hfound with ⟨chain, hdeclares, -⟩
      exact ⟨chain, hdeclares⟩
    · rintro ⟨chain, hdeclares⟩
      rcases hdeclares.exists_candidate with ⟨candidate, hcandidate, rfl, -⟩
      rcases exists_mem_classes hcandidate with ⟨members, hmembers, hmem⟩
      exact ⟨places members, List.mem_map_of_mem hmembers, mem_places_iff.mpr ⟨_, hmem, rfl⟩⟩
  alike_iff := by
    rw [List.forall_mem_map]
    intro members hmembers i hi a hdeclares j
    have hsubset := (sublist_of_mem_classes hmembers).subset
    rcases mem_places_iff.mp hi with ⟨first, hfirst, rfl⟩
    rcases hdeclares.exists_candidate with ⟨same, hsame, hplace, hshape⟩
    rw [eq_of_place_eq hsame (hsubset hfirst) hplace] at hshape
    constructor
    · intro hj
      rcases mem_places_iff.mp hj with ⟨other, hother, rfl⟩
      rcases mem_candidates_iff.mp (hsubset hother) with ⟨b, hdeclaresB, -, hshapeB⟩
      refine ⟨b, hdeclaresB, Chain.blanked_eq_iff.mp ?_⟩
      rw [← hshape, ← hshapeB]
      exact (mem_class_iff hmembers hfirst (hsubset hother)).mp hother
    · rintro ⟨b, hdeclaresB, halike⟩
      rcases hdeclaresB.exists_candidate with ⟨other, hother, rfl, hshapeB⟩
      refine mem_places_iff.mpr ⟨other, (mem_class_iff hmembers hfirst hother).mpr ?_, rfl⟩
      rw [hshape, hshapeB]
      exact Chain.blanked_eq_iff.mpr halike

theorem Gathers.reports {lookalikes : Lookalikes} (h : Gathers members lookalikes)
    (hsubset : members ⊆ candidates style items) :
    Reports style items (places members) lookalikes := by
  unfold Reports places
  rw [h.names_eq, List.forall₂_map_left_iff, List.forall₂_map_right_iff, List.forall₂_same]
  intro candidate hcandidate
  rcases mem_candidates_iff.mp (hsubset hcandidate) with
    ⟨chain, hdeclares, ⟨className, hfield⟩, hshape⟩
  refine ⟨chain, className, hdeclares, hfield, ?_⟩
  rw [← h.shapes candidate hcandidate, hshape]
  exact (Chain.declaresField_iff.mp hfield).2.1

/-- The declarations in a list fall into classes of those that look alike in just one way.  The
lookalikes that are found are the classes that are large enough, as they come in the list. -/
theorem find_reports_classes (style : Conventions) (minSiblings : Nat) (items : List Expr) :
    ∃ classes : List (List Nat),
      (∀ other : List (List Nat), IsPartition style items other ↔ other = classes) ∧
      List.Forall₂ (Reports style items)
        (classes.filter fun places => minSiblings ≤ places.length)
        (find style minSiblings items) := by
  have hpartition := isPartition_classes style items
  refine ⟨_, fun other => ⟨fun h => h.unique hpartition, ?_⟩, ?_⟩
  · rintro rfl
    exact hpartition
  have hgathers := (List.forall₂_and_left _ _).mpr
    ⟨fun _ hmembers => (sublist_of_mem_classes hmembers).subset,
      forall₂_gathers (candidates style items)⟩
  have hreports : List.Forall₂ (Reports style items)
      ((classes (candidates style items)).map places) (collect style items) := by
    rw [List.forall₂_map_left_iff, collect_eq_gather]
    exact hgathers.imp fun _ _ h => h.2.reports h.1
  refine List.rel_filter ?_ hreports
  intro places lookalikes h
  have hlength : places.length = lookalikes.names.length := List.Forall₂.length_eq h
  simp only [hlength]

/-- Two kinds of declarations that take turns, with one among them that has no modifier. -/
example :
    let style : Conventions := ⟨["make"], [], [], [], []⟩
    let field (name : String) (calls : List Call) : Expr :=
      .chain ⟨.static "X", ⟨"make", [.literal ⟨name⟩]⟩, calls⟩
    let items := [field "'a'" [⟨"live", []⟩], field "'b'" [⟨"lazy", []⟩], field "'c'" [],
      field "'d'" [⟨"live", []⟩], .variable "$x", field "'e'" [⟨"lazy", []⟩],
      field "'f'" [⟨"live", []⟩]]
    (find style 2 items).map (fun found => found.names.map (·.raw)) =
        [["'a'", "'d'", "'f'"], ["'b'", "'e'"]] ∧
      (find style 3 items).map (·.shape.className?) = [some "X"] := by
  decide +kernel

end Lookalikes

end FluentStyle
