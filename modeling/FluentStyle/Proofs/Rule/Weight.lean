import FluentStyle.Proofs.Catalog.Soundness
import FluentStyle.Proofs.Rule.CallOrder
import FluentStyle.Proofs.Rule.LeftmostRun
import FluentStyle.Proofs.Rule.Making
import FluentStyle.Proofs.Rule.Substitution
import FluentStyle.Proofs.Tree.Parts

/-!
# Rules make trees lighter

Every proposal is lighter than the site it is made for, but for those that only put calls into
order, which keep the weight.
-/

namespace FluentStyle

namespace Call

theorem weight_append (before after : List Call) :
    Call.weight (before ++ after) = Call.weight before + Call.weight after := by
  rw [Call.weight_eq, Call.weight_eq, Call.weight_eq, List.length_append, List.flatMap_append,
    Expr.weightAll_append]
  omega

theorem weight_cons (call : Call) (calls : List Call) :
    Call.weight (call :: calls) = Call.weight [call] + Call.weight calls :=
  weight_append [call] calls

theorem weight_le_of_sublist {some all : List Call} (h : some.Sublist all) :
    Call.weight some ≤ Call.weight all := by
  induction h with
  | slnil => exact Nat.le_refl _
  | @cons _ calls call _ ih =>
      rw [weight_cons call calls]
      omega
  | @cons_cons less more call _ ih =>
      rw [weight_cons call less, weight_cons call more]
      omega

theorem weight_perm {calls calls' : List Call} (h : calls.Perm calls') :
    Call.weight calls = Call.weight calls' := by
  rw [Call.weight_eq, Call.weight_eq, h.length_eq]
  rw [Expr.weightAll_perm (h.flatMap_right (·.args))]

theorem weight_replaceFirst? {replacement? : Call → Option (List Call)} {calls changed : List Call}
    (lighter : ∀ {call : Call} {new : List Call}, replacement? call = some new →
      Call.weight new < Call.weight [call])
    (h : Call.replaceFirst? replacement? calls = some changed) :
    Call.weight changed < Call.weight calls := by
  rcases Call.replaceFirst?_eq_some.mp h with ⟨before, call, after, new, rfl, -, hnew, rfl⟩
  have hlighter := lighter hnew
  rw [weight_append, weight_append, weight_append, weight_cons]
  omega

end Call

namespace Chain

theorem weight_rest (chain : Chain) (rest : List Call) :
    (Expr.chain { chain with rest }).weight + Call.weight chain.rest =
      (Expr.chain chain).weight + Call.weight rest := by
  rcases chain with ⟨root, ⟨name, args⟩, calls⟩
  cases root <;> simp only [Expr.weight] <;> omega

theorem weight_lt_of_rest {chain : Chain} {rest : List Call}
    (h : Call.weight rest < Call.weight chain.rest) :
    (Expr.chain { chain with rest }).weight < (Expr.chain chain).weight := by
  have hrest := chain.weight_rest rest
  omega

end Chain

/-!
# One rule after another
-/

namespace Call

theorem Plucks.sublist {column key : StringLiteral} {calls : List Call}
    (h : Plucks column key calls) : [pluck column key].Sublist calls := by
  cases h <;> exact List.singleton_sublist.mpr (by simp)

theorem weight_bound? {relation : StringLiteral} {call : Call} {new : List Call}
    (h : call.bound? relation = some new) : Call.weight new < Call.weight [call] := by
  rcases bound?_eq_some.mp h with ⟨options, column, rfl, hcolumn, rfl⟩
  rcases pluckedColumn?_eq_some.mp hcolumn with
    ⟨className, ⟨name, args⟩, rest, key, rfl, hplucks, -⟩
  have hle := weight_le_of_sublist hplucks.sublist
  simp only [pluck, Call.weight, Expr.weightAll, Expr.weight] at hle ⊢
  omega

theorem weight_unguarded? {call : Call} {new : List Call} (h : call.unguarded? = some new) :
    Call.weight new < Call.weight [call] := by
  rcases unguarded?_eq_some h with
    ⟨params, captures, guard, step, steps, question, rfl, hquestion, rfl⟩
  unfold Stmt.question? at hquestion
  split at hquestion
  · have hguard : ∀ (condition : Expr) (rest : List Stmt),
        Stmt.weight (.when condition [.leave] :: rest) =
          condition.weight + 2 + Stmt.weight rest := by
      intro condition rest
      simp only [Stmt.weight]
    simp only [Call.weight, Expr.weightAll, Expr.weight, hguard]
    omega
  · cases hquestion

theorem weight_shown? {call : Call} {new : List Call} (h : call.shown? = some new) :
    Call.weight new < Call.weight [call] := by
  rcases shown?_eq_some h with ⟨condition, shown, rfl, hshown, rfl⟩
  unfold Expr.unnegated? at hshown
  split at hshown <;> cases hshown <;> simp only [Call.weight, Expr.weightAll, Expr.weight] <;>
    omega

theorem weight_bared (flags : List String) (call : Call) :
    Call.weight [call.bared flags] ≤ Call.weight [call] ∧
      (call.isTrueFlag flags = true → Call.weight [call.bared flags] < Call.weight [call]) := by
  rcases call with ⟨name, args⟩
  unfold bared
  by_cases hflag : Call.isTrueFlag flags ⟨name, args⟩ = true
  · rw [if_pos hflag]
    unfold isTrueFlag at hflag
    simp only [Bool.and_eq_true] at hflag
    have hargs := hflag.2
    split at hargs
    · rename_i word hword
      cases hword
      simp [Call.weight, Expr.weightAll, Expr.weight]
    · cases hargs
  · rw [if_neg hflag]
    exact ⟨Nat.le_refl _, fun h => absurd h hflag⟩

theorem weight_map_bared (flags : List String) (calls : List Call) :
    Call.weight (calls.map (·.bared flags)) ≤ Call.weight calls ∧
      (calls.any (·.isTrueFlag flags) = true →
        Call.weight (calls.map (·.bared flags)) < Call.weight calls) := by
  induction calls with
  | nil => exact ⟨Nat.le_refl _, by simp⟩
  | cons call calls ih =>
      rcases ih with ⟨hle, hlt⟩
      rcases weight_bared flags call with ⟨hcall, hflag⟩
      rw [List.map_cons, weight_cons, weight_cons call]
      constructor
      · omega
      · intro hany
        rw [List.any_cons, Bool.or_eq_true] at hany
        rcases hany with hfirst | hrest
        · have := hflag hfirst
          omega
        · have := hlt hrest
          omega

end Call

theorem Closure.weight_toArrow? {closure changed : Closure} (h : closure.toArrow? = some changed) :
    (Expr.closure changed).weight < (Expr.closure closure).weight := by
  rcases Closure.toArrow?_eq_some h with ⟨params, value, rfl, rfl⟩
  simp only [Expr.weight, Stmt.weight]
  omega

/-!
# Sections
-/

namespace Cut

variable {α : Type}

/-- The list is cut in three around a run that passes the test, with a length between the bounds. -/
structure IsRun (test : α → Bool) (least limit : Nat) (items : List α) (cut : Cut α) : Prop where
  items_eq : items = cut.before ++ (cut.run ++ cut.after)
  least_le : least ≤ cut.run.length
  lt_limit : cut.run.length < limit
  passes : ∀ item ∈ cut.run, test item = true

theorem isRun_firstRun? {test : α → Bool} {least limit : Nat} {items : List α} {cut : Cut α}
    (h : firstRun? test least limit items = some cut) : IsRun test least limit items cut := by
  have hfirst : cut.IsLeftmost (test · = true) least limit items :=
    isLeftmost_of_firstRun? (fun _ => Iff.rfl) h
  exact ⟨hfirst.items_eq, hfirst.least_le, hfirst.lt_limit, hfirst.holds⟩

end Cut

/-- A list with a section is cut around a run of fields that one group takes, and the run is wrapped
in that group and the first constructor. -/
theorem Expr.sectioned?_eq_some {style : Conventions} {items items' : List Expr}
    (h : Expr.sectioned? style items = some items') :
    ∃ (constructor : String) (group : Group) (cut : Cut Expr),
      style.constructors.head? = some constructor ∧ group ∈ style.groups ∧
        cut.IsRun (group.takes style) group.minFields items.length items ∧
        items' = cut.before ++ group.wrap constructor cut.run :: cut.after := by
  unfold Expr.sectioned? at h
  split at h
  · cases h
  · rename_i constructor others hconstructors
    rcases List.exists_of_findSome?_eq_some h with ⟨group, hgroup, hcut⟩
    rcases Option.map_eq_some_iff.mp hcut with ⟨cut, hfirst, rfl⟩
    exact ⟨constructor, group, cut, hconstructors ▸ rfl, hgroup, Cut.isRun_firstRun? hfirst, rfl⟩

/-- Wrapping some but not all of the elements of a list takes more from the squares than it adds. -/
theorem listWeight_split {length run : Nat} (hleast : 2 ≤ run) (hlimit : run < length) :
    listWeight (length - run + 1) + (listWeight run + 5) < listWeight length := by
  unfold listWeight
  rcases Nat.exists_eq_add_of_lt hlimit with ⟨others, rfl⟩
  have hlength : run + others + 1 - run + 1 = others + 2 := by omega
  rw [hlength]
  have hsquare : (run + others + 1) * (run + others + 1) =
      run * run + 2 * (run * (others + 1)) + (others + 1) * (others + 1) := by
    simp only [Nat.mul_add, Nat.add_mul, Nat.mul_one, Nat.one_mul, Nat.mul_comm others run]
    omega
  have hothers : (others + 2) * (others + 2) = (others + 1) * (others + 1) + 2 * others + 3 := by
    simp only [Nat.mul_add, Nat.add_mul, Nat.mul_one, Nat.one_mul]
    omega
  have hproduct : 2 * (others + 1) ≤ run * (others + 1) := Nat.mul_le_mul_right _ hleast
  omega

theorem Group.weight_wrap (group : Group) (constructor : String) (fields : List Expr) :
    (group.wrap constructor fields).weight =
      listWeight fields.length + Expr.weightAll fields + 5 := by
  have harray := Expr.weight_list fields
  unfold Group.wrap
  rw [Expr.weight, Expr.weightAll, Expr.weightAll, Call.weight, Call.weight, Expr.weightAll,
    Expr.weightAll, Expr.weight, harray]
  omega

theorem Expr.weight_sectioned? {style : Conventions} {items items' : List Expr}
    (hgroups : ∀ group ∈ style.groups, 2 ≤ group.minFields)
    (h : Expr.sectioned? style items = some items') :
    (Site.list items').toExpr.weight < (Site.list items).toExpr.weight := by
  rcases Expr.sectioned?_eq_some h with
    ⟨constructor, group, cut, -, hgroup, ⟨hitems, hleast, hlimit, -⟩, rfl⟩
  have hsplit := listWeight_split (Nat.le_trans (hgroups group hgroup) hleast) hlimit
  have hlengths := congrArg List.length hitems
  have hweights := congrArg Expr.weightAll hitems
  rw [List.length_append, List.length_append] at hlengths
  rw [Expr.weightAll_append, Expr.weightAll_append] at hweights
  rw [Site.toExpr, Site.toExpr, Expr.weight_list, Expr.weight_list, List.length_append,
    List.length_cons, Expr.weightAll_append, Expr.weightAll_cons, Group.weight_wrap]
  have hlength : cut.before.length + (cut.after.length + 1) =
      items.length - cut.run.length + 1 := by omega
  rw [hlength]
  omega

/-!
# All rules
-/

namespace Chain

variable {style : Conventions} {chain changed : Chain}

theorem weight_bound? {classes : List String} (h : chain.bound? style classes = some changed) :
    (Expr.chain changed).weight < (Expr.chain chain).weight := by
  rcases exists_bound h with ⟨field, relation, rest, hrest, rfl⟩
  exact weight_lt_of_rest (Call.weight_replaceFirst? Call.weight_bound? hrest)

theorem weight_unguarded? (h : chain.unguarded? style = some changed) :
    (Expr.chain changed).weight < (Expr.chain chain).weight := by
  rcases exists_unguarded h with ⟨rest, hrest, rfl⟩
  exact weight_lt_of_rest (Call.weight_replaceFirst? Call.weight_unguarded? hrest)

theorem weight_shown? (h : chain.shown? style = some changed) :
    (Expr.chain changed).weight < (Expr.chain chain).weight := by
  rcases exists_shown h with ⟨rest, hrest, rfl⟩
  exact weight_lt_of_rest (Call.weight_replaceFirst? Call.weight_shown? hrest)

theorem weight_bared? {flags : List String} (h : chain.bared? style flags = some changed) :
    (Expr.chain changed).weight < (Expr.chain chain).weight := by
  rcases bared?_eq_some h with ⟨hflag, rfl⟩
  exact weight_lt_of_rest ((Call.weight_map_bared flags chain.rest).2 hflag)

end Chain

/-- A proposal is lighter than its site, or it is a chain with its calls put into order. -/
theorem Rule.weight_proposal? {style : Conventions} {rule : Rule} {site proposal : Site}
    (hgroups : ∀ group ∈ style.groups, 2 ≤ group.minFields)
    (h : rule.proposal? style site = some proposal) :
    proposal.toExpr.weight < site.toExpr.weight ∨
      ∃ chain changed : Chain, site = .chain chain ∧ proposal = .chain changed ∧
        chain.reordered? style = some changed := by
  rcases Rule.makes_of_proposal? h with ⟨kind, -, hmakes⟩
  cases hmakes with
  | callOrder hchanged => exact Or.inr ⟨_, _, rfl, rfl, hchanged⟩
  | relationship hchanged => exact Or.inl (Chain.weight_bound? hchanged)
  | confirmation hchanged => exact Or.inl (Chain.weight_unguarded? hchanged)
  | visibility hchanged => exact Or.inl (Chain.weight_shown? hchanged)
  | bareFlags hchanged => exact Or.inl (Chain.weight_bared? hchanged)
  | arrowClosures hchanged => exact Or.inl (Closure.weight_toArrow? hchanged)
  | sections hmade => exact Or.inl (Expr.weight_sectioned? hgroups hmade)

theorem Catalog.two_le_minFields (catalog : Catalog) :
    ∀ group ∈ catalog.style.groups, 2 ≤ group.minFields :=
  catalog.sound.groups

end FluentStyle
