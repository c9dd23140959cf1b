import FluentStyle.Proofs.Rule.Objection
import FluentStyle.Proofs.Rule.Replacement

/-!
# Rules that keep out of each other's way

A rule that replaces a call goes by the mark, by the calls that it has others for, and by how often
the names that have to vanish are called.  Ordering calls and leaving out the arguments of flags
touch none of these, and neither does the replacement of a call by a rule with another mark.
-/

namespace FluentStyle

/-!
# Calls in order
-/

namespace Conventions

variable {style : Conventions}

theorem filter_place {keep : Call → Bool} {calls ranked : List Call}
    (hexempt : ∀ call : Call, keep call = true → style.isExempt call.name = true)
    (hlength : ranked.length = (style.moved calls).length)
    (hranked : ∀ call ∈ ranked, ¬ style.isExempt call.name = true) :
    (style.place calls ranked).filter keep = calls.filter keep := by
  have hdropped : ∀ call : Call, ¬ style.isExempt call.name = true → ¬ keep call = true :=
    fun call hmoved hkeep => hmoved (hexempt call hkeep)
  induction calls generalizing ranked with
  | nil => rfl
  | cons call calls ih =>
      by_cases hcall : style.isExempt call.name = true
      · rw [moved_cons_of_exempt hcall] at hlength
        rw [place_cons_of_exempt hcall, List.filter_cons, List.filter_cons, ih hlength hranked]
      · rw [moved_cons_of_not_exempt hcall] at hlength
        cases ranked with
        | nil => simp at hlength
        | cons next others =>
            rcases List.forall_mem_cons.mp hranked with ⟨hnext, hothers⟩
            rw [place_cons_of_not_exempt hcall, List.filter_cons_of_neg (hdropped next hnext),
              List.filter_cons_of_neg (hdropped call hcall), ih (Nat.succ.inj hlength) hothers]

theorem filter_ordered {keep : Call → Bool} (name : String)
    (hname : ∀ call : Call, keep call = true → call.name = name) (calls : List Call) :
    (style.ordered calls).filter keep = calls.filter keep := by
  have hranked : ∀ call ∈ style.ranked calls, ¬ style.isExempt call.name = true :=
    fun call hcall => not_exempt_of_mem_moved ((ranked_perm calls).mem_iff.mp hcall)
  by_cases hexempt : style.isExempt name = true
  · apply filter_place _ (ranked_perm calls).length_eq hranked
    intro call hkeep
    rw [hname call hkeep, hexempt]
  · have hmoved : ∀ calls : List Call, (style.moved calls).filter keep = calls.filter keep := by
      intro calls
      rw [moved, List.filter_filter]
      apply List.filter_congr
      intro call _
      cases hkeep : keep call with
      | false => rfl
      | true =>
          rw [hname call hkeep]
          simpa using hexempt
    rw [← hmoved (style.ordered calls), ordered, moved_place (ranked_perm calls).length_eq hranked,
      ← hmoved calls]
    -- Calls of one name have one rank, and sorting by rank keeps their order.
    apply StableOrder.filter_mergeSort style.callRank (· ≤ ·)
      (k := style.rank (style.category name))
    intro call hkeep
    rw [callRank, hname call hkeep]

end Conventions

/-!
# What rules replace

One of the new calls is the mark, and calls with nothing but constants and arrays as arguments are
not replaced.
-/

theorem Call.args_of_isTrueFlag {flags : List String} {call : Call}
    (h : call.isTrueFlag flags = true) : ∃ word : String, call.args = [.constant word] := by
  unfold isTrueFlag at h
  rw [Bool.and_eq_true] at h
  have hargs := h.2
  split at hargs
  · exact ⟨_, ‹_›⟩
  · cases hargs

namespace Chain

variable {style : Conventions} {chain : Chain} {kind other : RuleKind} {swap swap' : Swap}
  {call : Call} {new : List Call}

theorem target_of_swap (h : chain.swap? kind = some swap)
    (hnew : swap.replacement? call = some new) : call.name = swap.target := by
  rcases swap?_cases h with ⟨rfl, rfl⟩ | ⟨rfl, rfl⟩ | ⟨classes, relation, rfl, rfl⟩
  · rcases Call.shown?_eq_some hnew with ⟨condition, shown, rfl, -, rfl⟩
    rfl
  · rcases Call.unguarded?_eq_some hnew with
      ⟨params, captures, guard, step, steps, question, rfl, -, rfl⟩
    rfl
  · rcases Call.bound?_eq_some.mp hnew with ⟨options, column, rfl, -, rfl⟩
    rfl

theorem replacement?_of_name_ne (h : chain.swap? kind = some swap)
    (hname : call.name ≠ swap.target) : swap.replacement? call = none := by
  apply Option.eq_none_iff_forall_ne_some.mpr
  intro new hnew
  exact hname (target_of_swap h hnew)

theorem new_of_swap (style : Conventions) (h : chain.swap? kind = some swap)
    (hnew : swap.replacement? call = some new) :
    (∃ call ∈ new, call.name = swap.mark) ∧
      ∀ call ∈ new, (kind.permission style).mayAppear call.name = true := by
  rcases swap?_cases h with ⟨rfl, rfl⟩ | ⟨rfl, rfl⟩ | ⟨classes, relation, rfl, rfl⟩
  · rcases Call.shown?_eq_some hnew with ⟨condition, shown, rfl, -, rfl⟩
    refine ⟨⟨_, List.mem_singleton_self _, rfl⟩, ?_⟩
    rw [List.forall_mem_singleton]
    rfl
  · rcases Call.unguarded?_eq_some hnew with
      ⟨params, captures, guard, step, steps, question, rfl, -, rfl⟩
    refine ⟨⟨_, List.mem_cons_self, rfl⟩, ?_⟩
    simp only [List.forall_mem_cons]
    exact ⟨rfl, rfl, rfl, List.forall_mem_nil _⟩
  · rcases Call.bound?_eq_some.mp hnew with ⟨options, column, rfl, -, rfl⟩
    refine ⟨⟨_, List.mem_singleton_self _, rfl⟩, ?_⟩
    rw [List.forall_mem_singleton]
    rfl

theorem replacement?_eq_none (h : chain.swap? kind = some swap)
    (hargs : ∀ arg ∈ call.args,
      (∃ word : String, arg = .constant word) ∨ ∃ items : List ArrayItem, arg = .array items) :
    swap.replacement? call = none := by
  apply Option.eq_none_iff_forall_ne_some.mpr
  intro new hnew
  rcases swap?_cases h with ⟨rfl, rfl⟩ | ⟨rfl, rfl⟩ | ⟨classes, relation, rfl, rfl⟩
  · rcases Call.shown?_eq_some hnew with ⟨condition, shown, rfl, hshown, rfl⟩
    rcases hargs condition (List.mem_singleton_self _) with ⟨word, rfl⟩ | ⟨items, rfl⟩ <;>
      cases hshown
  · rcases Call.unguarded?_eq_some hnew with
      ⟨params, captures, guard, step, steps, question, rfl, -, rfl⟩
    rcases hargs _ (List.mem_singleton_self _) with ⟨word, hclosure⟩ | ⟨items, hclosure⟩ <;>
      cases hclosure
  · rcases Call.bound?_eq_some.mp hnew with ⟨options, column, rfl, hcolumn, rfl⟩
    rcases Call.pluckedColumn?_eq_some.mp hcolumn with ⟨className, first, rest, key, rfl, -, -⟩
    rcases hargs _ (List.mem_singleton_self _) with ⟨word, hlist⟩ | ⟨items, hlist⟩ <;> cases hlist

/-- Rules with different marks replace different calls, and none of the names that one of them is
about has to vanish for the other. -/
theorem swaps_apart (style : Conventions) (h : chain.swap? kind = some swap)
    (h' : chain.swap? other = some swap') (hmark : swap.mark ≠ swap'.mark) :
    swap.target ≠ swap'.target ∧ swap.target ≠ swap'.mark ∧
      (kind.permission style).mayAppear swap'.target = false ∧
      ∀ name ∈ other.vanishing, (kind.permission style).renamed name = false ∧
        (kind.permission style).mayAppear name = false := by
  rcases swap?_cases h with ⟨rfl, rfl⟩ | ⟨rfl, rfl⟩ | ⟨classes, relation, rfl, rfl⟩ <;>
    rcases swap?_cases h' with ⟨rfl, rfl⟩ | ⟨rfl, rfl⟩ | ⟨classes', relation', rfl, rfl⟩ <;>
    first
    | exact absurd rfl hmark
    | simp [RuleKind.vanishing, RuleKind.permission, Permission.nothing, Permission.renamed,
        Permission.mayAppear]

/-!
# Changes that leave untouched what a rule replaces
-/

theorem untouched_ordered (h : chain.swap? kind = some swap) :
    chain.Untouched (style.ordered chain.rest) swap kind.vanishing := by
  have hperm := style.ordered_perm chain.rest
  refine ⟨?_, ?_, ?_⟩
  · unfold hasCall
    simp only [List.any_eq_true]
    rintro ⟨call, hcall, hmark⟩
    exact ⟨call, (hperm.symm.cons chain.first).mem_iff.mp hcall, hmark⟩
  · apply Conventions.filter_ordered swap.target
    intro call hcall
    rcases Option.isSome_iff_exists.mp hcall with ⟨new, hnew⟩
    exact target_of_swap h hnew
  · intro name _
    exact Call.tally_perm name (Chain.calls_perm_of_rest hperm)

theorem untouched_bared (flags : List String) (h : chain.swap? kind = some swap) :
    chain.Untouched (chain.rest.map (·.bared flags)) swap kind.vanishing := by
  refine ⟨?_, ?_, ?_⟩
  · unfold hasCall calls
    simp only [List.any_eq_true, List.mem_cons]
    rintro ⟨call, rfl | hcall, hmark⟩
    · exact ⟨chain.first, Or.inl rfl, hmark⟩
    · refine ⟨call.bared flags, Or.inr (List.mem_map_of_mem hcall), ?_⟩
      rw [Call.name_bared]
      exact hmark
  · have hsame : ∀ call : Call, ¬ call.isTrueFlag flags = true → call.bared flags = call :=
      fun call hflag => if_neg hflag
    generalize chain.rest = calls
    induction calls with
    | nil => rfl
    | cons call calls ih =>
        rw [List.map_cons, List.filter_cons, List.filter_cons, ih]
        by_cases hflag : call.isTrueFlag flags = true
        · have hbefore : swap.replacement? call = none := by
            apply replacement?_eq_none h
            rcases Call.args_of_isTrueFlag hflag with ⟨word, hargs⟩
            rw [hargs]
            exact List.forall_mem_singleton.mpr (Or.inl ⟨word, rfl⟩)
          have hafter : swap.replacement? (call.bared flags) = none := by
            apply replacement?_eq_none h
            rw [Call.bared, if_pos hflag]
            exact List.forall_mem_nil _
          rw [hbefore, hafter]
          rfl
        · rw [hsame call hflag]
  · intro name _
    rcases Call.exists_flags flags chain.rest with ⟨gone, stay, hgone, hbared, hflags⟩
    have hbefore := chain.calls_perm_without hgone
    have hafter :=
      Chain.calls_perm_without { chain with rest := chain.rest.map (·.bared flags) } hbared
    have hnone : ∀ call ∈ gone.map (·.bared flags), Expr.callsAll call.args = [] := by
      intro call hcall
      rcases List.mem_map.mp hcall with ⟨flag, hflag, rfl⟩
      rw [Call.bared, if_pos (hflags flag hflag)]
      rfl
    rw [Call.callsAll_of_args fun call hcall => (Call.isTrueFlag_spec (hflags call hcall)).2]
      at hbefore
    rw [Call.callsAll_of_args hnone] at hafter
    have hsame : Call.tally name (gone.map (·.bared flags)) = Call.tally name gone := by
      unfold Call.tally
      rw [List.countP_map]
      simp only [Function.comp_def, Call.name_bared]
    rw [Call.tally_perm name hafter, Call.tally_perm name hbefore, Call.tally_append,
      Call.tally_append, hsame]

/-- A rule that takes no names away leaves the parts of a chain, and what other rules replace. -/
theorem untouched_of_proposal? {rule : Rule} (hvanishing : rule.kind.vanishing = [])
    {proposal : Site} (h : rule.proposal? style (.chain chain) = some proposal) :
    ∃ rest : List Call, proposal = .chain { chain with rest } ∧
      (Expr.chain { chain with rest }).children ⊆ (Expr.chain chain).children ∧
      ∀ (kind : RuleKind) (swap : Swap), chain.swap? kind = some swap →
        chain.Untouched rest swap kind.vanishing := by
  rcases Rule.makes_of_proposal? h with ⟨kind, hkind, hmakes⟩
  rw [hkind] at hvanishing
  cases hmakes with
  | callOrder hchanged =>
      rcases reordered?_eq_some hchanged with ⟨-, -, rfl⟩
      exact ⟨_, rfl, (children_perm_of_rest (style.ordered_perm chain.rest)).subset,
        fun _ _ hswap => untouched_ordered hswap⟩
  | bareFlags hchanged =>
      have hchildren := children_bared hchanged
      rcases bared?_eq_some hchanged with ⟨-, rfl⟩
      exact ⟨_, rfl, hchildren, fun _ _ hswap => untouched_bared _ hswap⟩
  | visibility | confirmation | relationship => cases hvanishing

/-!
# A call replaced by another rule
-/

section Replaced

variable {before after new' : List Call} (h : chain.Replaces style kind swap before call after new)
  (hnames : new'.map (·.name) = new.map (·.name))

include h hnames

theorem Replaces.mark_ne {mark : String} (hunmarked : ∀ call ∈ new', call.name ≠ mark) :
    swap.mark ≠ mark := by
  rcases (new_of_swap style h.swap_eq h.new_eq).1 with ⟨marked, hmarked, hname⟩
  have hmem : marked.name ∈ new'.map (·.name) := by
    rw [hnames]
    exact List.mem_map_of_mem hmarked
  rcases List.mem_map.mp hmem with ⟨call, hcall, heq⟩
  rw [← hname, ← heq]
  exact hunmarked call hcall

theorem Replaces.replaceable_eq (h' : chain.swap? other = some swap')
    (hmark : swap.mark ≠ swap'.mark) :
    ((before ++ (new' ++ after)).filter fun call => (swap'.replacement? call).isSome) =
      chain.rest.filter fun call => (swap'.replacement? call).isSome := by
  rcases swaps_apart style h.swap_eq h' hmark with ⟨htargets, -, hnot, -⟩
  have hcall : swap'.replacement? call = none := by
    apply replacement?_of_name_ne h'
    rw [target_of_swap h.swap_eq h.new_eq]
    exact htargets
  have hnone : new'.filter (fun call => (swap'.replacement? call).isSome) = [] := by
    apply List.filter_eq_nil_iff.mpr
    intro call hmem
    have hname : call.name ∈ new.map (·.name) := by
      rw [← hnames]
      exact List.mem_map_of_mem hmem
    rcases List.mem_map.mp hname with ⟨origin, horigin, heq⟩
    have hshown := (new_of_swap style h.swap_eq h.new_eq).2 origin horigin
    have hne : call.name ≠ swap'.target := by
      intro htarget
      rw [heq, htarget, hnot] at hshown
      cases hshown
    rw [replacement?_of_name_ne h' hne]
    exact Bool.false_ne_true
  rw [h.rest_eq, List.filter_append, List.filter_append, hnone, List.nil_append, List.filter_append,
    List.filter_cons_of_neg (by rw [hcall]; exact Bool.false_ne_true)]

/-- Where the mark of another rule is missing after a call was replaced, what that rule replaces is
untouched, also if the arguments of the new calls have changed. -/
theorem Replaces.untouched
    (htally : ∀ name : String,
      Call.tally name (Call.callsAll new') = Call.tally name (Call.callsAll new))
    (h' : chain.swap? other = some swap')
    (hmark : { chain with rest := before ++ (new' ++ after) }.hasCall swap'.mark = false) :
    chain.Untouched (before ++ (new' ++ after)) swap' other.vanishing := by
  have hunmarked : ∀ call ∈ chain.first :: (before ++ (new' ++ after)), call.name ≠ swap'.mark := by
    unfold hasCall calls at hmark
    simpa only [List.any_eq_false, decide_eq_true_eq] using hmark
  simp only [List.mem_cons, List.mem_append] at hunmarked
  have hmarks : swap.mark ≠ swap'.mark :=
    h.mark_ne hnames fun call hcall => hunmarked call (Or.inr (Or.inr (Or.inl hcall)))
  rcases swaps_apart style h.swap_eq h' hmarks with ⟨-, htargetMark, -, hvanishing⟩
  refine ⟨?_, h.replaceable_eq hnames h' hmarks, ?_⟩
  · intro hcalled
    unfold hasCall calls at hcalled
    rw [h.rest_eq] at hcalled
    simp only [List.any_eq_true, List.mem_cons, List.mem_append, decide_eq_true_eq] at hcalled
    rcases hcalled with ⟨found, hfirst | hbefore | rfl | hafter, hname⟩
    · exact absurd hname (hunmarked found (Or.inl hfirst))
    · exact absurd hname (hunmarked found (Or.inr (Or.inl hbefore)))
    · exact absurd ((target_of_swap h.swap_eq h.new_eq).symm.trans hname) htargetMark
    · exact absurd hname (hunmarked found (Or.inr (Or.inr (Or.inr hafter))))
  · intro name hname
    have hreplaced := chain.tally_replaced h.rest_eq new' name
    have htrades := (trades_of_swap style h.swap_eq h.new_eq).tally_eq (hvanishing name hname).1
      (hvanishing name hname).2
    rw [htally name] at hreplaced
    omega

end Replaced

end Chain

end FluentStyle
