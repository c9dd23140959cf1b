import FluentStyle.Proofs.Rule.Independence

/-!
# Rules and their own results

A rule that does not make sections has nothing more to do with what it has made of a site.  Calls in
order are in order, an arrow function is no block closure, and a bare flag has no argument left.
Where a call is replaced, others may be left that could be replaced as well; but one of the new
calls is the mark that keeps the rule from doing so.
-/

namespace FluentStyle

namespace Chain

variable {style : Conventions} {rule : Rule} {chain : Chain} {swap : Swap} {call : Call}
  {before after new : List Call}

theorem Replaces.marked {kind : RuleKind}
    (h : chain.Replaces style kind swap before call after new) :
    { chain with rest := before ++ (new ++ after) }.hasCall swap.mark = true := by
  rcases (new_of_swap style h.swap_eq h.new_eq).1 with ⟨marked, hmarked, hname⟩
  refine List.any_eq_true.mpr ⟨marked, ?_, decide_eq_true hname⟩
  apply List.mem_cons_of_mem
  exact List.mem_append_right before (List.mem_append_left after hmarked)

theorem Replaces.proposal?_eq_none (hvanishing : rule.kind.vanishing ≠ [])
    (h : chain.Replaces style rule.kind swap before call after new) :
    rule.proposal? style (.chain { chain with rest := before ++ (new ++ after) }) = none := by
  apply Option.eq_none_iff_forall_ne_some.mpr
  intro again hagain
  rcases (proposal?_eq_some_iff hvanishing).mp hagain with ⟨swap', _, _, _, _, h', -⟩
  -- What is replaced depends on the first call of the chain only, so the mark is the same.
  have hswap : chain.swap? rule.kind = some swap' := h'.swap_eq
  have hsame : swap' = swap := Option.some.inj (hswap.symm.trans h.swap_eq)
  have hunmarked := h'.unmarked
  rw [hsame, h.marked] at hunmarked
  cases hunmarked

end Chain

namespace Rule

variable {style : Conventions} {rule : Rule} {site proposal : Site}

theorem proposal?_of_replacement (hkind : rule.kind = .callOrder ∨ rule.kind = .arrowClosures ∨
    ∃ flags, rule.kind = .bareFlags flags) (h : rule.proposal? style site = some proposal) :
    rule.proposal? style proposal = none := by
  have hreplaced : rule.replacement? style site.toExpr = some proposal.toExpr := by
    rw [replacement?_toExpr hkind, h]
    rfl
  have hnone := replacement?_of_replaced hkind hreplaced
  rw [replacement?_toExpr hkind] at hnone
  exact Option.map_eq_none_iff.mp hnone

theorem proposal?_of_vanishing (hvanishing : rule.kind.vanishing ≠ [])
    (hkind : rule.kind ≠ .sections ∧ rule.kind ≠ .arrowClosures)
    (h : rule.proposal? style site = some proposal) : rule.proposal? style proposal = none := by
  rcases exists_chain_of_proposal? hkind h with ⟨chain, rfl⟩
  rcases (Chain.proposal?_eq_some_iff hvanishing).mp h with ⟨_, _, _, _, _, hreplaces, rfl⟩
  exact hreplaces.proposal?_eq_none hvanishing

theorem proposal?_of_proposal? (hkind : rule.kind ≠ .sections)
    (h : rule.proposal? style site = some proposal) : rule.proposal? style proposal = none := by
  cases hk : rule.kind with
  | callOrder => exact proposal?_of_replacement (Or.inl hk) h
  | arrowClosures => exact proposal?_of_replacement (Or.inr (Or.inl hk)) h
  | bareFlags flags => exact proposal?_of_replacement (Or.inr (Or.inr ⟨flags, hk⟩)) h
  | relationship | confirmation | visibility =>
      exact proposal?_of_vanishing (by simp [hk, RuleKind.vanishing]) (by simp [hk]) h
  | lookalikes => cases (proposal?_iff_makes hk).mp h
  | sections => exact absurd hk hkind

/-- A rule that does not make sections does not apply to what it makes of a site, so that it never
breaks the promise to leave its own results alone. -/
theorem not_applies_own_proposal (hkind : rule.kind ≠ .sections)
    (h : rule.proposal? style site = some proposal) :
    rule.applies style proposal = false ∧ rule.breaksPromise style proposal = false := by
  have hnot : rule.applies style proposal = false := by
    rw [applies, isAdvisory_of_proposal? h, proposal?_of_proposal? hkind h]
    rfl
  refine ⟨hnot, ?_⟩
  rw [breaksPromise, hnot, Bool.and_false]

/-- An action with two guarded calls, of which the first one loses its guard and the second one
keeps it. -/
theorem not_applies_own_proposal_two_guards :
    let style : Conventions := ⟨["make"], [], [], [], []⟩
    let rule : Rule := ⟨"guard", none, 0, true, .confirmation⟩
    let call (name : String) (args : List Expr) : Call := ⟨name, args⟩
    let action (body : List Stmt) : Call := call "action" [.closure (.block [] [] body)]
    let guarded (text : String) (value : Expr) : Call := action [
      .when (.unary .not (.chain ⟨.function, call "confirm" [.literal ⟨text⟩], []⟩)) [.leave],
      .give value]
    let chain (calls : List Call) : Site :=
      .chain ⟨.static "Action", call "make" [], calls ++ [guarded "'Really?'" (.variable "$b")]⟩
    let site := chain [guarded "'Sure?'" (.variable "$a")]
    let proposal := chain [call "requiresConfirmation" [],
      call "modalDescription" [.literal ⟨"'Sure?'"⟩], action [.give (.variable "$a")]]
    rule.kind ≠ .sections ∧ rule.applies style site = true ∧
      rule.proposal? style site = some proposal ∧
      rule.applies style proposal = false ∧ rule.breaksPromise style proposal = false := by
  intro style rule call action guarded chain site proposal
  have hkind : rule.kind ≠ .sections := by decide
  have h : rule.proposal? style site = some proposal := by decide +kernel
  have happlies : rule.applies style site = true := by
    show (rule.proposal? style site).isSome = true
    rw [h]
    rfl
  exact ⟨hkind, happlies, h, not_applies_own_proposal hkind h⟩

/-- A rule that makes sections takes one run of fields at a time, so it might break the promise. -/
example :
    let group : Group := ⟨"A", "Section", "schema", .startsWith "a_", 2⟩
    let style : Conventions := ⟨["make"], [], [], [], [group]⟩
    let rule : Rule := ⟨"group", none, 0, true, .sections⟩
    let field (name : String) : Expr := .chain ⟨.static "X", ⟨"make", [.literal ⟨name⟩]⟩, []⟩
    let site : Site := .list [field "'a_1'", field "'a_2'", .variable "$b", field "'a_3'",
      field "'a_4'"]
    (rule.proposal? style site).any (rule.breaksPromise style) = true := by
  decide +kernel

end Rule

end FluentStyle
