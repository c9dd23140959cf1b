import FluentStyle.Proofs.Rule.Acceptance
import FluentStyle.Proofs.Rule.ArrowFunction
import FluentStyle.Proofs.Rule.CallOrder
import FluentStyle.Proofs.Rule.Making
import FluentStyle.Proofs.Rule.Substitution

/-!
# Verdicts on proposals

The proposals of a rule that orders calls, writes closures as arrow functions or leaves out the
arguments of flags are always accepted.  A rule that puts calls in the place of another one has to
have no other call with a name that vanishes, at any depth, for its proposal to be accepted.
-/

namespace FluentStyle

/-!
# Exchanges in a chain
-/

namespace Rule

variable {style : Conventions} {rule : Rule}

/-- A proposal for a chain that exchanges some of its calls is accepted just if no other call has a
name that has to vanish. -/
theorem examine_exchange_iff (hkind : rule.kind ≠ .sections ∧ rule.kind ≠ .arrowClosures)
    {chain : Chain} {rest gone new kept : List Call}
    (h : (rule.kind.permission style).Exchanges gone new)
    (hbefore : (Site.chain chain).calls.Perm (gone ++ kept))
    (hafter : (Site.chain { chain with rest }).calls.Perm (new ++ kept)) :
    rule.examine style (.chain chain) (.chain { chain with rest }) = .accept ↔
      ∀ call ∈ kept, call.name ∉ rule.kind.vanishing := by
  have honly : (rule.kind.permission style).onlyArrows = false := by
    cases hk : rule.kind with
    | arrowClosures => exact absurd hk hkind.2
    | _ => rfl
  have hstart : Verdict.sameStart (.chain chain) (.chain { chain with rest }) = true := by
    show (decide (chain.root = chain.root) && decide (chain.constructor? = chain.constructor?)) =
      true
    simp only [decide_true, Bool.and_self]
  have hallows := h.allows_iff (RuleKind.orderly_permission hkind.1) hbefore hafter
  simp only [RuleKind.vanishes_iff] at hallows
  unfold Rule.examine
  rw [Verdict.examine_eq_accept_iff, ← hallows]
  unfold Permission.normalize
  simp only [honly, Bool.false_eq_true, if_false, hstart, Site.sameKind, false_implies, true_and]

end Rule

/-!
# Rules whose proposals are always accepted
-/

namespace Call

theorem isTrueFlag_spec {flags : List String} {call : Call} (h : call.isTrueFlag flags = true) :
    call.name ∈ flags ∧ Expr.callsAll call.args = [] := by
  unfold isTrueFlag at h
  rw [Bool.and_eq_true, List.contains_iff_mem] at h
  refine ⟨h.1, ?_⟩
  have hargs := h.2
  split at hargs
  · rename_i word hword
    rw [hword]
    rfl
  · cases hargs

theorem name_bared (flags : List String) (call : Call) : (call.bared flags).name = call.name := by
  unfold bared
  split <;> rfl

/-- The calls of flags with the argument `true` apart from the others, which stay as they are. -/
theorem exists_flags (flags : List String) (calls : List Call) :
    ∃ gone stay : List Call, calls.Perm (gone ++ stay) ∧
      (calls.map (·.bared flags)).Perm (gone.map (·.bared flags) ++ stay) ∧
      ∀ call ∈ gone, call.isTrueFlag flags = true := by
  have hsplit := (List.filter_append_perm (·.isTrueFlag flags) calls).symm
  have hstay : ((calls.filter fun call => !call.isTrueFlag flags).map (·.bared flags)) =
      calls.filter fun call => !call.isTrueFlag flags := by
    refine (List.map_congr_left fun call hcall => ?_).trans (List.map_id _)
    rw [List.mem_filter, Bool.not_eq_true'] at hcall
    rw [bared, hcall.2]
    rfl
  have hbared := hsplit.map (·.bared flags)
  rw [List.map_append, hstay] at hbared
  exact ⟨_, _, hsplit, hbared, fun call hcall => (List.mem_filter.mp hcall).2⟩

end Call

theorem RuleKind.exchanges_flags (style : Conventions) {flags : List String} {calls : List Call}
    (h : ∀ call ∈ calls, call.name ∈ flags) :
    ((RuleKind.bareFlags flags).permission style).Exchanges calls (calls.map (·.bared flags)) where
  gone_renamed call hcall := RuleKind.renamed_bareFlags.mpr (h call hcall)
  new_appears := by
    intro call hcall
    rcases List.mem_map.mp hcall with ⟨flag, hflag, rfl⟩
    rw [Call.name_bared]
    exact RuleKind.mayAppear_bareFlags (h flag hflag)
  names_iff := by
    intro name
    constructor
    · rintro ⟨call, hcall, rfl⟩
      rcases List.mem_map.mp hcall with ⟨flag, hflag, rfl⟩
      rw [Call.name_bared]
      exact ⟨flag, hflag, (RuleKind.mem_become_bareFlags (h flag hflag)).mpr rfl⟩
    · rintro ⟨flag, hflag, hbecome⟩
      rw [(RuleKind.mem_become_bareFlags (h flag hflag)).mp hbecome]
      exact ⟨flag.bared flags, List.mem_map_of_mem hflag, Call.name_bared flags flag⟩

namespace Rule

variable {style : Conventions} {rule : Rule}

theorem examine_reordered {chain changed : Chain} (hkind : rule.kind = .callOrder)
    (h : chain.reordered? style = some changed) :
    rule.examine style (.chain chain) (.chain changed) = .accept := by
  rcases Chain.reordered?_eq_some h with ⟨-, -, rfl⟩
  have hcalls := Chain.calls_perm_of_rest (Conventions.ordered_perm style chain.rest)
  refine (examine_exchange_iff (by simp [hkind]) (Permission.Exchanges.nil _) (List.Perm.refl _)
    hcalls).mpr ?_
  intro call _
  rw [hkind]
  exact List.not_mem_nil

theorem examine_arrow {closure changed : Closure} (hkind : rule.kind = .arrowClosures)
    (h : closure.toArrow? = some changed) :
    rule.examine style (.closure closure) (.closure changed) = .accept := by
  have hsame : (Site.closure changed).map Expr.arrowed = (Site.closure closure).map Expr.arrowed :=
    congrArg (fun expr => Site.ofItems [expr]) (Closure.map_arrowed_of_toArrow? h)
  exact (examine_arrows_iff hkind).mpr hsame.symm

theorem examine_bared {flags : List String} {chain changed : Chain}
    (hkind : rule.kind = .bareFlags flags) (h : chain.bared? style flags = some changed) :
    rule.examine style (.chain chain) (.chain changed) = .accept := by
  rcases Chain.bared?_eq_some h with ⟨-, rfl⟩
  rcases Call.exists_flags flags chain.rest with ⟨gone, stay, hrest, hbared, hflags⟩
  have hgone : ∀ call ∈ gone, call.name ∈ flags ∧ Expr.callsAll call.args = [] := by
    intro call hcall
    exact Call.isTrueFlag_spec (hflags call hcall)
  have hnone : ∀ call ∈ gone.map (·.bared flags), Expr.callsAll call.args = [] := by
    intro call hcall
    rcases List.mem_map.mp hcall with ⟨flag, hflag, rfl⟩
    rw [Call.bared, if_pos (hflags flag hflag)]
    rfl
  have hexchanges := RuleKind.exchanges_flags style fun call hcall => (hgone call hcall).1
  have hbefore := chain.calls_perm_without hrest
  have hafter :=
    Chain.calls_perm_without { chain with rest := chain.rest.map (·.bared flags) } hbared
  rw [Call.callsAll_of_args fun call hcall => (hgone call hcall).2] at hbefore
  rw [Call.callsAll_of_args hnone] at hafter
  rw [← hkind] at hexchanges
  refine (examine_exchange_iff (by simp [hkind]) hexchanges hbefore hafter).mpr ?_
  intro call _
  rw [hkind]
  exact List.not_mem_nil

end Rule

/-!
# Rules that replace a call

Where a call of a chain is replaced by others, some of the calls in it may go into these.
-/

namespace RuleKind

variable (style : Conventions)

theorem exchanges_visibility (condition shown : Expr) :
    (RuleKind.visibility.permission style).Exchanges [⟨"hidden", [condition]⟩]
      [⟨"visible", [shown]⟩] := by
  constructor
  · intro call hcall
    rw [List.mem_singleton.mp hcall]
    rfl
  · intro call hcall
    rw [List.mem_singleton.mp hcall]
    rfl
  · intro name
    have hbecome : (RuleKind.visibility.permission style).become "hidden" = ["visible"] := rfl
    simp [hbecome, eq_comm]

theorem exchanges_confirmation (question : StringLiteral) (args shown : List Expr) :
    (RuleKind.confirmation.permission style).Exchanges
      [⟨"action", args⟩, ⟨"confirm", [.literal question]⟩]
      [⟨"requiresConfirmation", []⟩, ⟨"modalDescription", [.literal question]⟩,
        ⟨"action", shown⟩] := by
  have haction : (RuleKind.confirmation.permission style).become "action" = ["action"] := rfl
  have hconfirm : (RuleKind.confirmation.permission style).become "confirm" =
    ["requiresConfirmation", "modalDescription"] := rfl
  constructor
  · simp only [List.forall_mem_cons]
    exact ⟨rfl, rfl, List.forall_mem_nil _⟩
  · simp only [List.forall_mem_cons]
    exact ⟨rfl, rfl, rfl, List.forall_mem_nil _⟩
  · intro name
    simp only [List.mem_cons, List.not_mem_nil, or_false, exists_eq_or_imp, exists_eq_left,
      haction, hconfirm]
    grind

theorem exchanges_relationship (classes : List String) {listed : List Call}
    (h : ∀ call ∈ listed, call.name ∈ ["pluck", "all", "query", "toArray"])
    (args bound : List Expr) :
    ((RuleKind.relationship classes).permission style).Exchanges (⟨"options", args⟩ :: listed)
      [⟨"relationship", bound⟩] := by
  have hoptions : ((RuleKind.relationship classes).permission style).become "options" =
    ["relationship"] := rfl
  have hlisted : ∀ call ∈ listed,
      ((RuleKind.relationship classes).permission style).renamed call.name = true ∧
        ((RuleKind.relationship classes).permission style).become call.name = [] := by
    intro call hcall
    have hname := h call hcall
    simp only [List.mem_cons, List.not_mem_nil, or_false] at hname
    rcases hname with hname | hname | hname | hname <;> rw [hname] <;> exact ⟨rfl, rfl⟩
  constructor
  · rw [List.forall_mem_cons]
    exact ⟨rfl, fun call hcall => (hlisted call hcall).1⟩
  · rw [List.forall_mem_cons]
    exact ⟨rfl, List.forall_mem_nil _⟩
  · intro name
    simp only [List.mem_cons, List.not_mem_nil, or_false, exists_eq_left, exists_eq_or_imp,
      hoptions, @eq_comm _ name]
    constructor
    · exact Or.inl
    · rintro (hname | ⟨call, hcall, hbecome⟩)
      · exact hname
      · rw [(hlisted call hcall).2] at hbecome
        cases hbecome

end RuleKind

namespace Rule

variable {style : Conventions} {rule : Rule}

theorem examine_replaced_iff (hkind : rule.kind ≠ .sections ∧ rule.kind ≠ .arrowClosures)
    {chain : Chain} {before after new gone shown shared : List Call} {call : Call}
    (hrest : chain.rest = before ++ call :: after)
    (h : (rule.kind.permission style).Exchanges gone shown)
    (hgone : (Call.callsAll [call]).Perm (gone ++ shared))
    (hnew : (Call.callsAll new).Perm (shown ++ shared)) :
    rule.examine style (.chain chain)
        (.chain { chain with rest := before ++ (new ++ after) }) = .accept ↔
      ∀ other ∈ shared ++ (Expr.chain { chain with rest := before ++ after }).calls,
        other.name ∉ rule.kind.vanishing := by
  have hcalls : chain.rest.Perm ([call] ++ (before ++ after)) := by
    rw [hrest]
    exact List.perm_middle
  have hbefore := chain.calls_perm_without hcalls
  have hafter := Chain.calls_perm_without { chain with rest := before ++ (new ++ after) }
    (List.perm_append_comm_assoc before new after)
  apply examine_exchange_iff hkind h
  · have hcalls := hbefore.trans (hgone.append_right _)
    rwa [List.append_assoc gone] at hcalls
  · have hcalls := hafter.trans (hnew.append_right _)
    rwa [List.append_assoc shown] at hcalls

end Rule

/-!
# What is replaced

Options that list a column of all records call nothing but what is known to do so.
-/

namespace Call

theorem name_of_pluckedColumn? {options : Call} {column : StringLiteral}
    (h : options.pluckedColumn? = some column) :
    ∀ call ∈ Expr.callsAll options.args, call.name ∈ ["pluck", "all", "query", "toArray"] := by
  rcases pluckedColumn?_eq_some.mp h with ⟨className, ⟨name, args⟩, rest, key, hargs, hplucks, -⟩
  have hknown : ∀ call ∈ ⟨name, args⟩ :: rest, call.name ∈ ["pluck", "all", "query", "toArray"] ∧
      Expr.callsAll call.args = [] := by
    cases hplucks <;> simp [pluck, Expr.callsAll, Expr.calls]
  have hchain : (Expr.chain ⟨.static className, ⟨name, args⟩, rest⟩).calls =
    ⟨name, args⟩ :: rest := by
    rw [← callsAll_of_args fun call hcall => (hknown call hcall).2]
    rfl
  rw [hargs, Expr.callsAll, Expr.callsAll, List.append_nil, hchain]
  exact fun call hcall => (hknown call hcall).1

end Call

theorem Expr.calls_unnegated? {condition shown : Expr} (h : condition.unnegated? = some shown) :
    shown.calls = condition.calls := by
  unfold unnegated? at h
  split at h <;> cases h <;> rfl

theorem Stmt.calls_question? {guard : Stmt} {question : StringLiteral}
    (h : guard.question? = some question) (steps : List Stmt) :
    Stmt.calls (guard :: steps) = ⟨"confirm", [.literal question]⟩ :: Stmt.calls steps := by
  unfold question? at h
  split at h
  · cases h
    rfl
  · cases h

/-!
# Verdicts on what is replaced
-/

namespace Rule

variable {style : Conventions} {rule : Rule}

theorem examine_shown {chain : Chain} {before after : List Call} {condition shown : Expr}
    (hkind : rule.kind = .visibility)
    (hrest : chain.rest = before ++ ⟨"hidden", [condition]⟩ :: after)
    (hshown : condition.unnegated? = some shown) :
    rule.examine style (.chain chain)
        (.chain { chain with rest := before ++ ⟨"visible", [shown]⟩ :: after }) = .accept ↔
      ∀ call ∈ condition.calls ++ (Expr.chain { chain with rest := before ++ after }).calls,
        call.name ≠ "hidden" := by
  have hexchanges := RuleKind.exchanges_visibility style condition shown
  have hgone : (Call.callsAll [⟨"hidden", [condition]⟩]).Perm
      ([⟨"hidden", [condition]⟩] ++ condition.calls) := by
    simp [Call.callsAll, Expr.callsAll]
  have hnew : (Call.callsAll [⟨"visible", [shown]⟩]).Perm
      ([⟨"visible", [shown]⟩] ++ condition.calls) := by
    simp [Call.callsAll, Expr.callsAll, Expr.calls_unnegated? hshown]
  rw [← hkind] at hexchanges
  refine (examine_replaced_iff (by simp [hkind]) hrest hexchanges hgone hnew).trans ?_
  simp only [hkind, RuleKind.vanishing, List.mem_singleton, ne_eq]

theorem examine_unguarded {chain : Chain} {before after : List Call} {params : List Param}
    {captures : List Capture} {guard : Stmt} {steps : List Stmt} {question : StringLiteral}
    (hkind : rule.kind = .confirmation)
    (hrest : chain.rest =
      before ++ ⟨"action", [.closure (.block params captures (guard :: steps))]⟩ :: after)
    (hquestion : guard.question? = some question) :
    rule.examine style (.chain chain) (.chain { chain with
        rest := before ++ [⟨"requiresConfirmation", []⟩, ⟨"modalDescription", [.literal question]⟩,
          ⟨"action", [.closure (.block params captures steps)]⟩] ++ after }) = .accept ↔
      ∀ call ∈ Stmt.calls steps ++ (Expr.chain { chain with rest := before ++ after }).calls,
        call.name ≠ "confirm" := by
  have hexchanges := RuleKind.exchanges_confirmation style question
    [.closure (.block params captures (guard :: steps))] [.closure (.block params captures steps)]
  have hgone : (Call.callsAll
        [⟨"action", [.closure (.block params captures (guard :: steps))]⟩]).Perm
      ([⟨"action", [.closure (.block params captures (guard :: steps))]⟩,
        ⟨"confirm", [.literal question]⟩] ++ Stmt.calls steps) := by
    simp [Call.callsAll, Expr.callsAll, Expr.calls, Stmt.calls_question? hquestion]
  have hnew : (Call.callsAll
        [⟨"requiresConfirmation", []⟩, ⟨"modalDescription", [.literal question]⟩,
          ⟨"action", [.closure (.block params captures steps)]⟩]).Perm
      ([⟨"requiresConfirmation", []⟩, ⟨"modalDescription", [.literal question]⟩,
        ⟨"action", [.closure (.block params captures steps)]⟩] ++ Stmt.calls steps) := by
    simp [Call.callsAll, Expr.callsAll, Expr.calls]
  rw [← hkind] at hexchanges
  rw [List.append_assoc]
  refine (examine_replaced_iff (by simp [hkind]) hrest hexchanges hgone hnew).trans ?_
  simp only [hkind, RuleKind.vanishing, List.mem_singleton, ne_eq]

theorem examine_bound {classes : List String} {chain : Chain} {before after : List Call}
    {options : List Expr} {relation column : StringLiteral}
    (hkind : rule.kind = .relationship classes)
    (hrest : chain.rest = before ++ ⟨"options", options⟩ :: after)
    (hcolumn : Call.pluckedColumn? ⟨"options", options⟩ = some column) :
    rule.examine style (.chain chain) (.chain { chain with
        rest := before ++ ⟨"relationship", [.literal relation, .literal column]⟩ :: after }) =
          .accept ↔
      ∀ call ∈ (Expr.chain { chain with rest := before ++ after }).calls,
        call.name ∉ ["options", "pluck", "all", "query", "toArray"] := by
  have hexchanges := RuleKind.exchanges_relationship style classes
    (Call.name_of_pluckedColumn? hcolumn) options [.literal relation, .literal column]
  have hgone : (Call.callsAll [⟨"options", options⟩]).Perm
      ((⟨"options", options⟩ :: Expr.callsAll options) ++ []) := by
    simp [Call.callsAll_singleton]
  have hnew : (Call.callsAll [⟨"relationship", [.literal relation, .literal column]⟩]).Perm
      ([⟨"relationship", [.literal relation, .literal column]⟩] ++ []) := by
    simp [Call.callsAll, Expr.callsAll, Expr.calls]
  rw [← hkind] at hexchanges
  refine (examine_replaced_iff (by simp [hkind]) hrest hexchanges hgone hnew).trans ?_
  simp only [hkind, RuleKind.vanishing, List.nil_append]

end Rule

/-!
# Proposals of a rule
-/

namespace Rule

variable {style : Conventions} {rule : Rule} {site proposal : Site}

theorem exists_chain_of_proposal? (hkind : rule.kind ≠ .sections ∧ rule.kind ≠ .arrowClosures)
    (h : rule.proposal? style site = some proposal) :
    ∃ chain : Chain, site = .chain chain := by
  rcases makes_of_proposal? h with ⟨kind, hmade, hmakes⟩
  cases hmakes with
  | arrowClosures => exact absurd hmade hkind.2
  | sections => exact absurd hmade hkind.1
  | _ => exact ⟨_, rfl⟩

theorem accepts_proposal (hkind : rule.kind = .callOrder ∨ rule.kind = .arrowClosures ∨
    ∃ flags, rule.kind = .bareFlags flags) (h : rule.proposal? style site = some proposal) :
    rule.examine style site proposal = .accept := by
  rcases hkind with hkind | hkind | ⟨flags, hkind⟩
  · cases (proposal?_iff_makes hkind).mp h with
    | callOrder hchanged => exact examine_reordered hkind hchanged
  · cases (proposal?_iff_makes hkind).mp h with
    | arrowClosures hchanged => exact examine_arrow hkind hchanged
  · cases (proposal?_iff_makes hkind).mp h with
    | bareFlags hchanged => exact examine_bared hkind hchanged

/-- The verdict on the proposal of a rule.  Orders of calls, arrow functions and bare flags are
always accepted.  Where a call is replaced, the proposal is accepted just if no other call, at any
depth, has a name that the rule lets vanish: `hidden` besides the one with the negated condition,
`confirm` besides the one in the guard, and those that list options outside of the options replaced.
-/
theorem examine_own_proposal (h : rule.proposal? style site = some proposal) :
    (rule.kind = .callOrder ∨ rule.kind = .arrowClosures ∨ (∃ flags, rule.kind = .bareFlags flags) →
      rule.examine style site proposal = .accept) ∧
    (rule.kind = .visibility →
      ∃ (chain : Chain) (before after : List Call) (condition shown : Expr),
        site = .chain chain ∧ chain.rest = before ++ ⟨"hidden", [condition]⟩ :: after ∧
        condition.unnegated? = some shown ∧
        proposal = .chain { chain with rest := before ++ ⟨"visible", [shown]⟩ :: after } ∧
        (rule.examine style site proposal = .accept ↔
          ∀ call ∈ condition.calls ++ (Expr.chain { chain with rest := before ++ after }).calls,
            call.name ≠ "hidden")) ∧
    (rule.kind = .confirmation →
      ∃ (chain : Chain) (before after : List Call) (params : List Param) (captures : List Capture)
          (guard step : Stmt) (steps : List Stmt) (question : StringLiteral),
        site = .chain chain ∧
        chain.rest = before ++
          ⟨"action", [.closure (.block params captures (guard :: step :: steps))]⟩ :: after ∧
        guard.question? = some question ∧
        proposal = .chain { chain with
          rest := before ++ [⟨"requiresConfirmation", []⟩,
            ⟨"modalDescription", [.literal question]⟩,
            ⟨"action", [.closure (.block params captures (step :: steps))]⟩] ++ after } ∧
        (rule.examine style site proposal = .accept ↔
          ∀ call ∈ Stmt.calls (step :: steps) ++
              (Expr.chain { chain with rest := before ++ after }).calls,
            call.name ≠ "confirm")) ∧
    (∀ classes, rule.kind = .relationship classes →
      ∃ (chain : Chain) (before after : List Call) (options : List Expr)
          (relation column : StringLiteral),
        site = .chain chain ∧ chain.rest = before ++ ⟨"options", options⟩ :: after ∧
        Call.pluckedColumn? ⟨"options", options⟩ = some column ∧
        proposal = .chain { chain with
          rest := before ++ ⟨"relationship", [.literal relation, .literal column]⟩ :: after } ∧
        (rule.examine style site proposal = .accept ↔
          ∀ call ∈ (Expr.chain { chain with rest := before ++ after }).calls,
            call.name ∉ ["options", "pluck", "all", "query", "toArray"])) := by
  refine ⟨fun hkind => accepts_proposal hkind h, ?_, ?_, ?_⟩
  · intro hkind
    cases (proposal?_iff_makes hkind).mp h with
    | visibility hchanged =>
        rcases Chain.shown?_eq_some hchanged with
          ⟨before, after, condition, shown, hrest, hshown, rfl⟩
        exact ⟨_, before, after, condition, shown, rfl, hrest, hshown, rfl,
          examine_shown hkind hrest hshown⟩
  · intro hkind
    cases (proposal?_iff_makes hkind).mp h with
    | confirmation hchanged =>
        rcases Chain.unguarded?_eq_some hchanged with
          ⟨before, after, params, captures, guard, step, steps, question, hrest, hquestion, rfl⟩
        exact ⟨_, before, after, params, captures, guard, step, steps, question, rfl, hrest,
          hquestion, rfl, examine_unguarded hkind hrest hquestion⟩
  · intro classes hkind
    cases (proposal?_iff_makes hkind).mp h with
    | relationship hchanged =>
        rcases Chain.bound?_eq_some hchanged with
          ⟨before, after, options, relation, column, hrest, hcolumn, rfl⟩
        exact ⟨_, before, after, options, relation, column, rfl, hrest, hcolumn, rfl,
          examine_bound hkind hrest hcolumn⟩

/-- A negated condition that calls `hidden` itself: the call in it may not stay. -/
theorem examine_own_proposal_nested :
    let asked : Expr := .chain ⟨.receiver (.variable "$x"), ⟨"hidden", []⟩, []⟩
    let declaration (call : Call) : Site :=
      .chain ⟨.static "X", ⟨"make", [.literal ⟨"'a'"⟩]⟩, [call]⟩
    let site := declaration ⟨"hidden", [.unary .not asked]⟩
    let proposal := declaration ⟨"visible", [asked]⟩
    let rule : Rule := ⟨"show", none, 0, true, .visibility⟩
    rule.proposal? Catalog.standard.style site = some proposal ∧
      rule.examine Catalog.standard.style site proposal ≠ .accept := by
  intro asked declaration site proposal rule
  have h : rule.proposal? Catalog.standard.style site = some proposal := by decide +kernel
  refine ⟨h, fun haccept => ?_⟩
  rcases (examine_own_proposal h).2.1 rfl with
    ⟨chain, before, after, condition, shown, hsite, hrest, -, -, hiff⟩
  rw [← Site.chain.inj hsite] at hrest
  have hcondition : Expr.unary .not asked = condition := by
    cases before with
    | nil => exact (List.cons.inj (Call.mk.inj (List.cons.inj hrest).1).2).1
    | cons call before => simp at hrest
  rw [← hcondition] at hiff
  refine hiff.mp haccept ⟨"hidden", []⟩ (List.mem_append_left _ ?_) rfl
  exact List.mem_cons_self

end Rule

end FluentStyle
