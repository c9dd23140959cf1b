import FluentStyle.Proofs.Restyle.Settled
import FluentStyle.Proofs.Rule.Independence

/-!
# Into a proposal

The parts of a proposal are visited before the next rule is tried.  The parts of the site are
settled by then, so little comes of it: a closure that is new around settled parts may be written as
an arrow function, and the fields of a new section may be put into sections of other groups.  After
it a rule objects to no site to which it did not object before.
-/

namespace FluentStyle

/-!
# Closures

A proposal for a closure has the same parts and the same calls.
-/

/-- The expression has been settled, or is a closure that is new around settled parts. -/
def Expr.FreshIn (trail : Trail) (expr : Expr) : Prop :=
  expr.SettledIn trail ∨
    ∃ closure : Closure, expr = .closure closure ∧ ∀ child ∈ closure.children, child.SettledIn trail

theorem Expr.FreshIn.mono {trail later : Trail} {expr : Expr} (h : expr.FreshIn trail)
    (hgrows : trail.Grows later) : expr.FreshIn later := by
  rcases h with hsettled | ⟨closure, rfl, hchildren⟩
  · exact Or.inl (hsettled.mono hgrows.settled)
  · exact Or.inr ⟨closure, rfl, fun child hchild => (hchildren child hchild).mono hgrows.settled⟩

theorem Rule.proposal?_closure {style : Conventions} {rule : Rule} {closure : Closure}
    {proposal : Site} (h : rule.proposal? style (.closure closure) = some proposal) :
    ∃ changed : Closure, proposal = .closure changed ∧ changed.children = closure.children ∧
      (Expr.closure changed).calls = (Expr.closure closure).calls := by
  rcases makes_of_proposal? h with ⟨kind, -, hmakes⟩
  cases hmakes with
  | arrowClosures hchanged =>
      rcases Closure.toArrow?_eq_some hchanged with ⟨params, value, rfl, rfl⟩
      refine ⟨.arrow params value, rfl, ?_, ?_⟩
      · simp only [Closure.children, Stmt.children]
      · rw [Expr.calls, Expr.calls, Stmt.calls, Stmt.calls, List.append_nil]

namespace Walk

variable {style : Conventions} {rules : List Rule} {trail : Trail}

theorem tally_visit_of_fresh {expr : Expr} (h : expr.FreshIn trail) (depth : Nat) (name : String) :
    Call.tally name ((visit style rules depth expr).run trail).1.calls =
      Call.tally name expr.calls := by
  rcases h with hsettled | ⟨closure, rfl, hchildren⟩
  · rw [run_visit_of_settled hsettled]
  · cases depth with
    | zero => rfl
    | succ depth =>
        rw [run_visit_succ]
        split
        · rfl
        · show Call.tally name ((round style (visit style rules depth) rules
            (.closure closure)).run trail).1.toExpr.calls =
              Call.tally name (Expr.closure closure).calls
          have hparts : ∀ child ∈ (Site.closure closure).toExpr.children, child.SettledIn trail :=
            hchildren
          rw [run_round, run_site_of_settled hparts]
          -- Whether it is written as an arrow function or not, its parts stay settled.
          rcases settle_induction style (·.mapChildrenM (visit style rules depth))
              (P := fun _ site later => ∃ closure' : Closure, site = .closure closure' ∧
                (∀ child ∈ closure'.children, child.SettledIn later) ∧
                (Expr.closure closure').calls = (Expr.closure closure).calls)
              (by
                rintro _ _ _ proposal rule trail hfirst - ⟨closure', rfl, hparts, hcalls⟩
                rcases Rule.proposal?_closure (firstProposal?_eq_some hfirst).1 with
                  ⟨changed, rfl, hsame, hkept⟩
                have hchanged : ∀ child ∈ (Site.closure changed).toExpr.children,
                    child.SettledIn ((record (.applied rule.id)).run trail).2 := by
                  intro child hchild
                  exact hparts child (hsame ▸ hchild)
                simp only [run_site_of_settled hchanged]
                exact ⟨changed, rfl, hchanged, hkept.trans hcalls⟩)
              (fun _ _ hclosure => hclosure)
              (Nat.le_refl rules.length) _ ⟨closure, rfl, hchildren, rfl⟩ with
            ⟨-, ⟨closure', hsame, -, hcalls⟩, -⟩
          rw [hsame]
          exact congrArg (Call.tally name) hcalls

/-!
# Calls

Visiting the arguments of new calls keeps the names of the calls, and how often a name is called in
them.  Visiting the parts of a chain with new calls among settled ones changes nothing but these.
-/

theorem tally_mapM_of_fresh (style : Conventions) (rules : List Rule) {exprs : List Expr}
    (h : ∀ expr ∈ exprs, expr.FreshIn trail) (depth : Nat) (name : String) :
    Call.tally name (Expr.callsAll ((exprs.mapM (visit style rules depth)).run trail).1) =
      Call.tally name (Expr.callsAll exprs) := by
  induction exprs generalizing trail with
  | nil => rfl
  | cons expr exprs ih =>
      rcases List.forall_mem_cons.mp h with ⟨hexpr, hexprs⟩
      have hgrows := grows_visit style rules depth expr trail
      rw [stateM_run_mapM_cons, Expr.callsAll, Expr.callsAll, Call.tally_append, Call.tally_append,
        tally_visit_of_fresh hexpr, ih fun other hother => (hexprs other hother).mono hgrows]

theorem run_call_of_settled (style : Conventions) (rules : List Rule) {call : Call}
    (h : ∀ arg ∈ call.args, arg.SettledIn trail) (depth : Nat) :
    (call.mapArgsM (visit style rules depth)).run trail = (call, trail) :=
  run_of_still (Call.fills _) Call.determined fun arg harg =>
    run_visit_of_settled (h arg harg) depth

theorem run_calls_of_settled (style : Conventions) (rules : List Rule) {calls : List Call}
    (h : ∀ arg ∈ calls.flatMap (·.args), arg.SettledIn trail) (depth : Nat) :
    (calls.mapM (Call.mapArgsM (visit style rules depth))).run trail = (calls, trail) :=
  run_of_still (Call.fills _).list Call.determined.list fun arg harg =>
    run_visit_of_settled (h arg harg) depth

theorem run_calls_of_fresh (style : Conventions) (rules : List Rule) {calls : List Call}
    (h : ∀ arg ∈ calls.flatMap (·.args), arg.FreshIn trail) (depth : Nat) :
    let result := (calls.mapM (Call.mapArgsM (visit style rules depth))).run trail
    trail.Grows result.2 ∧ result.1.map (·.name) = calls.map (·.name) ∧
      ∀ name : String,
        Call.tally name (Call.callsAll result.1) = Call.tally name (Call.callsAll calls) := by
  intro result
  rcases (Call.fills (visit style rules depth)).list calls trail with ⟨hargs, hframe⟩
  have hgrows := grows_mapM (grows_visit style rules depth)
    (calls.flatMap (·.args)) trail
  have htally := tally_mapM_of_fresh style rules h depth
  rw [hargs] at hgrows htally
  refine ⟨hgrows, ?_, ?_⟩
  · have hnames := congrArg (List.map (·.name)) hframe
    rw [List.map_map, List.map_map] at hnames
    exact hnames
  · intro name
    rw [Call.tally_perm name (Call.callsAll_perm result.1),
      Call.tally_perm name (Call.callsAll_perm calls), Call.tally_append, Call.tally_append,
      htally name, ← Call.tally_map_frame name result.1, hframe, Call.tally_map_frame]

theorem run_chain_of_fresh (style : Conventions) (rules : List Rule) {chain : Chain}
    {before new after : List Call}
    (hparts : ∀ child ∈ (Expr.chain { chain with rest := before ++ after }).children,
      child.SettledIn trail)
    (hnew : ∀ arg ∈ new.flatMap (·.args), arg.FreshIn trail) (depth : Nat) :
    ∃ new' : List Call,
      (((Site.chain { chain with rest := before ++ (new ++ after) }).mapChildrenM
          (visit style rules depth)).run trail).1 =
        .chain { chain with rest := before ++ (new' ++ after) } ∧
      new'.map (·.name) = new.map (·.name) ∧
      ∀ name : String,
        Call.tally name (Call.callsAll new') = Call.tally name (Call.callsAll new) := by
  rcases run_calls_of_fresh style rules hnew depth with
    ⟨hgrows, hnames, htally⟩
  refine ⟨((new.mapM (Call.mapArgsM (visit style rules depth))).run trail).1, ?_, hnames, htally⟩
  rcases chain with ⟨root, first, rest⟩
  have hcalls : ∀ arg ∈ first.args ++ (before ++ after).flatMap (·.args), arg.SettledIn trail := by
    intro arg harg
    apply hparts
    cases root with
    | receiver object => exact List.mem_cons_of_mem _ harg
    | _ => exact harg
  rw [List.flatMap_append] at hcalls
  rcases List.forall_mem_append.mp hcalls with ⟨hfirst, hrest⟩
  rcases List.forall_mem_append.mp hrest with ⟨hbefore, hafter⟩
  have hfirst' := run_call_of_settled style rules hfirst depth
  have hbefore' := run_calls_of_settled style rules hbefore depth
  have hafter' := run_calls_of_settled style rules
    (fun arg harg => (hafter arg harg).mono hgrows.settled) depth
  cases root with
  | receiver object =>
      have hobject : object.SettledIn trail := hparts object List.mem_cons_self
      simp only [Site.mapChildrenM, Chain.mapChildrenM, stateM_run_bind, stateM_run_pure,
        List.mapM_append, run_visit_of_settled hobject, hfirst', hbefore', hafter']
  | _ =>
      simp only [Site.mapChildrenM, Chain.mapChildrenM, stateM_run_bind, stateM_run_pure,
        List.mapM_append, hfirst', hbefore', hafter']

end Walk

/-!
# Chains

The arguments of the calls that replace another are parts of it or new around such parts.
-/

theorem Stmt.children_subset_cons (stmt : Stmt) (stmts : List Stmt) :
    Stmt.children stmts ⊆ Stmt.children (stmt :: stmts) := by
  intro child hchild
  cases stmt <;> simp only [Stmt.children, List.mem_cons, List.mem_append, hchild, or_true]

namespace Chain

variable {trail : Trail} {chain : Chain}

theorem mem_children_of_mem_rest {call : Call} (hcall : call ∈ chain.rest) :
    ∀ arg ∈ call.args, arg ∈ (Expr.chain chain).children := by
  intro arg harg
  have hmem : arg ∈ chain.first.args ++ chain.rest.flatMap (·.args) :=
    List.mem_append_right _ (List.mem_flatMap.mpr ⟨call, hcall, harg⟩)
  rcases chain with ⟨root, first, rest⟩
  cases root with
  | receiver object => exact List.mem_cons_of_mem _ hmem
  | _ => exact hmem

theorem children_subset_of_rest {rest : List Call} (h : rest ⊆ chain.rest) :
    (Expr.chain { chain with rest }).children ⊆ (Expr.chain chain).children := by
  rcases chain with ⟨root, first, calls⟩
  have hargs : first.args ++ rest.flatMap (·.args) ⊆ first.args ++ calls.flatMap (·.args) := by
    apply List.append_subset.mpr
    refine ⟨List.subset_append_left _ _, List.subset_append_of_subset_right _ fun arg harg => ?_⟩
    rcases List.mem_flatMap.mp harg with ⟨call, hcall, hmem⟩
    exact List.mem_flatMap.mpr ⟨call, h hcall, hmem⟩
  cases root with
  | receiver object => exact List.cons_subset_cons object hargs
  | _ => exact hargs

theorem fresh_of_swap {kind : RuleKind} {swap : Swap} {call : Call} {new : List Call}
    (h : chain.swap? kind = some swap) (hnew : swap.replacement? call = some new)
    (hargs : ∀ arg ∈ call.args, arg.SettledIn trail) :
    ∀ arg ∈ new.flatMap (·.args), arg.FreshIn trail := by
  have hliteral : ∀ literal : StringLiteral, (Expr.literal literal).FreshIn trail :=
    fun literal => Or.inl (Expr.settledIn_literal trail literal)
  rcases swap?_cases h with ⟨rfl, rfl⟩ | ⟨rfl, rfl⟩ | ⟨classes, relation, rfl, rfl⟩
  · rcases Call.shown?_eq_some hnew with ⟨condition, shown, rfl, hshown, rfl⟩
    have hcondition := hargs condition (List.mem_singleton_self _)
    have hfresh : shown.FreshIn trail := by
      unfold Expr.unnegated? at hshown
      split at hshown
      · cases hshown
        exact Or.inl (hcondition.children shown (List.mem_singleton_self _))
      · rename_i params operand
        cases hshown
        refine Or.inr ⟨.arrow params operand, rfl, List.forall_mem_singleton.mpr ?_⟩
        have hnegated := hcondition.children (.unary .not operand) (List.mem_singleton_self _)
        exact hnegated.children operand (List.mem_singleton_self _)
      · cases hshown
    simpa using hfresh
  · rcases Call.unguarded?_eq_some hnew with
      ⟨params, captures, guard, step, steps, question, rfl, -, rfl⟩
    have hclosure := hargs _ (List.mem_singleton_self _)
    have hfresh : (Expr.closure (.block params captures (step :: steps))).FreshIn trail := by
      refine Or.inr ⟨_, rfl, fun child hchild => hclosure.children child ?_⟩
      exact Stmt.children_subset_cons guard (step :: steps) hchild
    simpa [hliteral] using hfresh
  · rcases Call.bound?_eq_some.mp hnew with ⟨options, column, rfl, -, rfl⟩
    simp [hliteral]

end Chain

namespace Walk

variable {style : Conventions} {rules : List Rule} {trail : Trail} {rule : Rule} {chain : Chain}

/-- After a rule was applied to a chain, others object only to what they objected to before. -/
theorem objects_of_descended_chain
    (hsettled : ∀ child ∈ (Expr.chain chain).children, child.SettledIn trail) {proposal : Site}
    (hproposal : rule.proposal? style (.chain chain) = some proposal) (depth : Nat) {other : Rule}
    {objection : Objection}
    (h : other.Objects style
      ((proposal.mapChildrenM (visit style rules depth)).run trail).1 objection) :
    other.Objects style (.chain chain) objection := by
  by_cases hvanishing : rule.kind.vanishing = []
  · rcases Chain.untouched_of_proposal? hvanishing hproposal with
      ⟨rest, rfl, hchildren, huntouched⟩
    have hparts : ∀ child ∈ (Site.chain { chain with rest }).toExpr.children,
        child.SettledIn trail := fun child hchild => hsettled child (hchildren hchild)
    rw [run_site_of_settled hparts] at h
    exact Chain.objects_of_untouched h fun swap hswap _ => huntouched _ swap hswap
  · rcases (Chain.proposal?_eq_some_iff hvanishing).mp hproposal with
      ⟨swap, before, call, after, new, hreplaces, rfl⟩
    have hargs : ∀ arg ∈ call.args, arg.SettledIn trail := by
      intro arg harg
      apply hsettled arg (Chain.mem_children_of_mem_rest _ arg harg)
      rw [hreplaces.rest_eq]
      exact List.mem_append_right before List.mem_cons_self
    have hparts : ∀ child ∈ (Expr.chain { chain with rest := before ++ after }).children,
        child.SettledIn trail := by
      intro child hchild
      apply hsettled child (Chain.children_subset_of_rest _ hchild)
      rw [hreplaces.rest_eq]
      exact ((List.sublist_cons_self call after).append_left before).subset
    rcases run_chain_of_fresh style rules hparts
        (Chain.fresh_of_swap hreplaces.swap_eq hreplaces.new_eq hargs) depth with
      ⟨new', hsite, hnames, htally⟩
    rw [hsite] at h
    exact Chain.objects_of_untouched h fun swap' hswap' hmark =>
      hreplaces.untouched hnames htally hswap' hmark

end Walk

end FluentStyle
