import FluentStyle.Proofs.Rule.Proposal
import FluentStyle.Proofs.Rule.Section
import FluentStyle.Proofs.Text.Distinct

/-!
# What is objected to

A rule that replaces a call objects to its own proposal for the names that have to vanish and are
still called: the objection lists them, and nothing is ever missing.  So an objection says no more
than which of these names are left.  What other rules do to a chain leaves the calls alone that such
a rule replaces, and calls the names that have to vanish as often as before; so a rule has an
objection after another one was applied only if it had the same one before.
-/

namespace FluentStyle

/-!
# Names that are left

Where nothing is missing, the effects are rejected for the names that are left, which are those that
have to vanish and are called in the site.
-/

namespace Permission

variable {permission : Permission} {gone new kept : List Call} {before after : Site}

/-- What the names that have to vanish become is called by the calls that appear. -/
def Covers (permission : Permission) (new : List Call) : Prop :=
  ∀ name other : String, permission.Vanishes name → other ∈ permission.become name →
    ∃ call ∈ new, call.name = other

theorem Exchanges.missing_eq (h : permission.Exchanges gone new) (hcovers : permission.Covers new)
    (horderly : permission.Orderly) (hbefore : before.calls.Perm (gone ++ kept))
    (hafter : after.calls.Perm (new ++ kept)) :
    permission.missing before.effects after.effects = [] := by
  apply List.eq_nil_iff_forall_not_mem.mpr
  intro name hname
  rcases mem_missing.mp hname with ⟨hexpected, hmissing⟩
  have hcalled : ∀ call ∈ new ++ kept, call.name ≠ name := by
    rintro call hcall rfl
    apply hmissing
    rw [Site.effects, List.map_map]
    exact List.mem_map_of_mem (hafter.mem_iff.mpr hcall)
  have hnew : ¬ ∃ call ∈ new, call.name = name := by
    rintro ⟨call, hcall, heq⟩
    exact hcalled call (List.mem_append_left kept hcall) heq
  rcases horderly.mem_expected_iff.mp hexpected with ⟨call, hcall, hbecome⟩
  rcases List.mem_append.mp (hbefore.mem_iff.mp hcall) with hgone | hkept
  · exact hnew ((h.names_iff name).mpr ⟨call, hgone, hbecome⟩)
  · by_cases hvanishes : permission.Vanishes call.name
    · exact hnew (hcovers call.name name hvanishes hbecome)
    · have heq := (horderly.mem_become_iff hvanishes).mp hbecome
      exact hcalled call (List.mem_append_right new hkept) heq.symm

theorem Exchanges.unexpected_eq (h : permission.Exchanges gone new) (horderly : permission.Orderly)
    (hbefore : before.calls.Perm (gone ++ kept)) (hafter : after.calls.Perm (new ++ kept)) :
    permission.unexpected before.effects after.effects =
      (after.calls.map (·.name)).filter fun name => decide (permission.Vanishes name) := by
  have hnames : after.effects.map (·.name) = after.calls.map (·.name) := by
    rw [Site.effects, List.map_map]
    rfl
  unfold unexpected
  rw [hnames]
  apply List.filter_congr
  intro name hname
  rcases List.mem_map.mp hname with ⟨call, hcall, rfl⟩
  rw [Bool.eq_iff_iff, decide_eq_true_eq, Bool.not_eq_true', ← Bool.not_eq_true,
    List.contains_iff_mem, horderly.mem_expected_iff]
  constructor
  · intro hunexpected
    by_contra hstays
    apply hunexpected
    rcases List.mem_append.mp (hafter.mem_iff.mp hcall) with hnew | hkept
    · rcases (h.names_iff call.name).mp ⟨call, hnew, rfl⟩ with ⟨origin, horigin, hbecome⟩
      exact ⟨origin, hbefore.mem_iff.mpr (List.mem_append_left kept horigin), hbecome⟩
    · exact ⟨call, hbefore.mem_iff.mpr (List.mem_append_right gone hkept),
        (horderly.mem_become_iff hstays).mpr rfl⟩
  · rintro hvanishes ⟨origin, -, hbecome⟩
    exact not_vanishes_of_mem_become hbecome hvanishes

end Permission

namespace Rule

variable {style : Conventions} {rule : Rule}

def Objects (style : Conventions) (rule : Rule) (site : Site) (objection : Objection) : Prop :=
  ∃ proposal : Site, rule.proposal? style site = some proposal ∧
    rule.examine style site proposal = .reject objection

/-- The names that have to vanish and are called in the site. -/
def leftover (rule : Rule) (site : Site) : List String :=
  (site.calls.map (·.name)).filter fun name => rule.kind.vanishing.contains name

def verdictOf (leftover : List String) : Verdict :=
  if leftover = [] then .accept else .reject (.names [] (Text.distinct leftover))

theorem mem_leftover {site : Site} {name : String} :
    name ∈ rule.leftover site ↔
      name ∈ rule.kind.vanishing ∧ 0 < Call.tally name site.calls := by
  rw [leftover, List.mem_filter, List.contains_iff_mem, and_comm, Call.tally, List.countP_pos_iff,
    List.mem_map]
  simp only [decide_eq_true_eq]

theorem mem_leftover_of_mem_calls {site : Site} {call : Call} (hcall : call ∈ site.calls)
    (hvanishes : rule.kind.vanishing.contains call.name = true) :
    call.name ∈ rule.leftover site := by
  rw [leftover, List.mem_filter]
  exact ⟨List.mem_map_of_mem hcall, hvanishes⟩

theorem examine_of_leftover (honly : (rule.kind.permission style).onlyArrows = false)
    {chain : Chain} {rest : List Call}
    (hmissing : (rule.kind.permission style).missing (Site.chain chain).effects
      (Site.chain { chain with rest }).effects = [])
    (hleft : (rule.kind.permission style).unexpected (Site.chain chain).effects
      (Site.chain { chain with rest }).effects = rule.leftover (.chain { chain with rest }))
    (hsome : rule.leftover (.chain { chain with rest }) ≠ []) :
    rule.examine style (.chain chain) (.chain { chain with rest }) =
      .reject (.names [] (Text.distinct (rule.leftover (.chain { chain with rest })))) := by
  have hstart : Verdict.sameStart (.chain chain) (.chain { chain with rest }) = true := by
    show (decide (chain.root = chain.root) &&
      decide (chain.constructor? = chain.constructor?)) = true
    simp only [decide_true, Bool.and_self]
  have heffects := Verdict.ofEffects_of_names
    (fun hboth => hsome (hleft.symm.trans hboth.2) :
      ¬ ((rule.kind.permission style).missing (Site.chain chain).effects
          (Site.chain { chain with rest }).effects = [] ∧ _))
  unfold Rule.examine Verdict.examine
  simp only [honly, Bool.false_eq_true, if_false, Site.sameKind, hstart, Bool.not_true,
    Bool.false_and, heffects, hmissing, hleft, Text.distinct_nil]

theorem examine_exchange_eq (hkind : rule.kind ≠ .sections ∧ rule.kind ≠ .arrowClosures)
    {chain : Chain} {rest gone new kept : List Call}
    (h : (rule.kind.permission style).Exchanges gone new)
    (hcovers : (rule.kind.permission style).Covers new)
    (hbefore : (Site.chain chain).calls.Perm (gone ++ kept))
    (hafter : (Site.chain { chain with rest }).calls.Perm (new ++ kept)) :
    rule.examine style (.chain chain) (.chain { chain with rest }) =
      verdictOf (rule.leftover (.chain { chain with rest })) := by
  have horderly : (rule.kind.permission style).Orderly := RuleKind.orderly_permission hkind.1
  by_cases hnone : rule.leftover (.chain { chain with rest }) = []
  · rw [verdictOf, if_pos hnone]
    apply (examine_exchange_iff hkind h hbefore hafter).mpr
    intro call hcall hvanishes
    have hmem := mem_leftover_of_mem_calls
      (hafter.mem_iff.mpr (List.mem_append_right new hcall)) (List.contains_iff_mem.mpr hvanishes)
    rw [hnone] at hmem
    cases hmem
  · rw [verdictOf, if_neg hnone]
    have honly : (rule.kind.permission style).onlyArrows = false := by
      cases hk : rule.kind with
      | arrowClosures => exact absurd hk hkind.2
      | _ => rfl
    have hleft : (rule.kind.permission style).unexpected (Site.chain chain).effects
        (Site.chain { chain with rest }).effects = rule.leftover (.chain { chain with rest }) := by
      rw [h.unexpected_eq horderly hbefore hafter, leftover]
      apply List.filter_congr
      intro name _
      rw [Bool.eq_iff_iff, decide_eq_true_eq, RuleKind.vanishes_iff, List.contains_iff_mem]
    exact examine_of_leftover honly (h.missing_eq hcovers horderly hbefore hafter) hleft hnone

end Rule

/-!
# Rules that replace a call
-/

/-- What a rule replaces in a chain: the first call that it has others for, each of which is a call
of one name, as long as none of the calls on the chain is the mark that it has been done. -/
structure Swap where
  target : String
  mark : String
  replacement? : Call → Option (List Call)

def Chain.swap? (chain : Chain) : RuleKind → Option Swap
  | .visibility => some ⟨"hidden", "visible", Call.shown?⟩
  | .confirmation => some ⟨"action", "requiresConfirmation", Call.unguarded?⟩
  | .relationship classes =>
      if chain.className?.any classes.contains then
        chain.fieldName?.bind fun field => (relationName? field.value).map fun relation =>
          ⟨"options", "relationship", Call.bound? (field.withValue relation)⟩
      else none
  | .callOrder | .arrowClosures | .bareFlags _ | .lookalikes _ _ | .sections => none

namespace Chain

variable {style : Conventions} {rule : Rule} {chain : Chain} {swap : Swap}

theorem swap?_cases {kind : RuleKind} (h : chain.swap? kind = some swap) :
    (kind = .visibility ∧ swap = ⟨"hidden", "visible", Call.shown?⟩) ∨
    (kind = .confirmation ∧ swap = ⟨"action", "requiresConfirmation", Call.unguarded?⟩) ∨
    ∃ (classes : List String) (relation : StringLiteral), kind = .relationship classes ∧
      swap = ⟨"options", "relationship", Call.bound? relation⟩ := by
  cases kind with
  | visibility => exact Or.inl ⟨rfl, (Option.some.inj h).symm⟩
  | confirmation => exact Or.inr (Or.inl ⟨rfl, (Option.some.inj h).symm⟩)
  | relationship classes =>
      rw [swap?] at h
      split at h
      · rcases Option.bind_eq_some_iff.mp h with ⟨field, -, hrelation⟩
        rcases Option.map_eq_some_iff.mp hrelation with ⟨relation, -, rfl⟩
        exact Or.inr (Or.inr ⟨classes, field.withValue relation, rfl, rfl⟩)
      · cases h
  | _ => cases h

theorem proposal?_eq_swap (hvanishing : rule.kind.vanishing ≠ []) :
    rule.proposal? style (.chain chain) =
      (chain.swap? rule.kind).bind fun swap =>
        if style.isDeclaration chain && !chain.hasCall swap.mark then
          (Call.replaceFirst? swap.replacement? chain.rest).map fun rest =>
            .chain { chain with rest }
        else none := by
  rw [Rule.proposal?]
  cases hkind : rule.kind with
  | visibility =>
      simp only [swap?, shown?, Option.bind_some]
      split <;> simp [Function.comp_def]
  | confirmation =>
      simp only [swap?, unguarded?, Option.bind_some]
      split <;> simp [Function.comp_def]
  | relationship classes =>
      simp only [swap?, bound?]
      cases hclass : chain.className?.any classes.contains with
      | false => simp
      | true =>
          cases hfield : chain.fieldName? with
          | none => simp
          | some field =>
              cases hrelation : relationName? field.value with
              | none => simp [hrelation]
              | some relation =>
                  simp only [hrelation, Bool.and_true, if_true, Option.bind_some, Option.map_some]
                  split <;> simp [Function.comp_def]
  | _ => exact absurd (by rw [hkind]; rfl) hvanishing

/-- A rule of the kind replaces the call between the others by new ones. -/
structure Replaces (style : Conventions) (chain : Chain) (kind : RuleKind) (swap : Swap)
    (before : List Call) (call : Call) (after new : List Call) : Prop where
  swap_eq : chain.swap? kind = some swap
  declaration : style.isDeclaration chain = true
  unmarked : chain.hasCall swap.mark = false
  rest_eq : chain.rest = before ++ call :: after
  before_eq : ∀ earlier ∈ before, swap.replacement? earlier = none
  new_eq : swap.replacement? call = some new

theorem proposal?_eq_some_iff (hvanishing : rule.kind.vanishing ≠ []) {proposal : Site} :
    rule.proposal? style (.chain chain) = some proposal ↔
      ∃ (swap : Swap) (before : List Call) (call : Call) (after new : List Call),
        chain.Replaces style rule.kind swap before call after new ∧
          proposal = .chain { chain with rest := before ++ (new ++ after) } := by
  rw [proposal?_eq_swap hvanishing]
  constructor
  · intro hproposal
    rcases Option.bind_eq_some_iff.mp hproposal with ⟨swap, hswap, hproposal⟩
    split at hproposal
    · rename_i happlies
      rw [Bool.and_eq_true, Bool.not_eq_true'] at happlies
      rcases Option.map_eq_some_iff.mp hproposal with ⟨rest, hrest, rfl⟩
      rcases Call.replaceFirst?_eq_some.mp hrest with
        ⟨before, call, after, new, hcalls, hbefore, hnew, rfl⟩
      exact ⟨swap, before, call, after, new,
        ⟨hswap, happlies.1, happlies.2, hcalls, hbefore, hnew⟩, rfl⟩
    · cases hproposal
  · rintro ⟨swap, before, call, after, new, h, rfl⟩
    have hrest : Call.replaceFirst? swap.replacement? chain.rest =
        some (before ++ (new ++ after)) :=
      Call.replaceFirst?_eq_some.mpr
        ⟨before, call, after, new, h.rest_eq, h.before_eq, h.new_eq, rfl⟩
    rw [h.swap_eq, Option.bind_some, h.declaration, h.unmarked, hrest]
    rfl

end Chain

/-!
# What replacing a call does

Names that the permission is not about are called as often by the calls that replace another as by
that one.
-/

namespace Permission

/-- One call is replaced by others: some of the calls in it go, others appear, and all the rest is
called as before. -/
def Trades (permission : Permission) (call : Call) (new : List Call) : Prop :=
  ∃ gone shown shared : List Call, permission.Exchanges gone shown ∧ permission.Covers shown ∧
    (Call.callsAll [call]).Perm (gone ++ shared) ∧ (Call.callsAll new).Perm (shown ++ shared)

theorem Trades.tally_eq {permission : Permission} {call : Call} {new : List Call}
    (h : permission.Trades call new) {name : String} (hrenamed : permission.renamed name = false)
    (happear : permission.mayAppear name = false) :
    Call.tally name (Call.callsAll new) = Call.tally name (Call.callsAll [call]) := by
  rcases h with ⟨gone, shown, shared, hexchanges, -, hgone, hshown⟩
  have hnone : ∀ calls : List Call, (∀ call ∈ calls, call.name ≠ name) →
      Call.tally name calls = 0 := by
    intro calls hcalls
    apply List.countP_eq_zero.mpr
    intro call hcall
    simpa using hcalls call hcall
  have hnoneGone : Call.tally name gone = 0 := by
    apply hnone
    rintro call hcall rfl
    exact Bool.false_ne_true (hrenamed.symm.trans (hexchanges.gone_renamed call hcall))
  have hnoneShown : Call.tally name shown = 0 := by
    apply hnone
    rintro call hcall rfl
    exact Bool.false_ne_true (happear.symm.trans (hexchanges.new_appears call hcall))
  rw [Call.tally_perm name hshown, Call.tally_perm name hgone, Call.tally_append,
    Call.tally_append, hnoneGone, hnoneShown]

end Permission

namespace Chain

variable {style : Conventions} {rule : Rule} {chain : Chain} {swap : Swap} {call : Call}
  {new : List Call}

theorem trades_of_swap (style : Conventions) {kind : RuleKind} (h : chain.swap? kind = some swap)
    (hnew : swap.replacement? call = some new) : (kind.permission style).Trades call new := by
  have hcovers : ∀ (kind : RuleKind) (shown : List Call), (∀ name ∈ kind.vanishing,
      ∀ other ∈ (kind.permission style).become name, ∃ call ∈ shown, call.name = other) →
      (kind.permission style).Covers shown := by
    intro kind shown hall name other hvanishes hbecome
    exact hall name ((RuleKind.vanishes_iff kind name).mp hvanishes) other hbecome
  rcases swap?_cases h with ⟨rfl, rfl⟩ | ⟨rfl, rfl⟩ | ⟨classes, relation, rfl, rfl⟩
  · rcases Call.shown?_eq_some hnew with ⟨condition, shown, rfl, hshown, rfl⟩
    refine ⟨[⟨"hidden", [condition]⟩], [⟨"visible", [shown]⟩], condition.calls,
      RuleKind.exchanges_visibility style condition shown, ?_, ?_, ?_⟩
    · apply hcovers
      have hbecome : (RuleKind.visibility.permission style).become "hidden" = ["visible"] := rfl
      simp [RuleKind.vanishing, hbecome]
    · simp [Call.callsAll, Expr.callsAll]
    · simp [Call.callsAll, Expr.callsAll, Expr.calls_unnegated? hshown]
  · rcases Call.unguarded?_eq_some hnew with
      ⟨params, captures, guard, step, steps, question, rfl, hquestion, rfl⟩
    refine ⟨_, _, Stmt.calls (step :: steps), RuleKind.exchanges_confirmation style question
      [.closure (.block params captures (guard :: step :: steps))]
      [.closure (.block params captures (step :: steps))], ?_, ?_, ?_⟩
    · apply hcovers
      have hbecome : (RuleKind.confirmation.permission style).become "confirm" =
        ["requiresConfirmation", "modalDescription"] := rfl
      simp [RuleKind.vanishing, hbecome]
    · simp [Call.callsAll, Expr.callsAll, Expr.calls, Stmt.calls_question? hquestion]
    · simp [Call.callsAll, Expr.callsAll, Expr.calls]
  · rcases Call.bound?_eq_some.mp hnew with ⟨options, column, rfl, hcolumn, rfl⟩
    refine ⟨_, _, [], RuleKind.exchanges_relationship style classes
      (Call.name_of_pluckedColumn? hcolumn) options [.literal relation, .literal column],
      ?_, ?_, ?_⟩
    · apply hcovers
      have hoptions : ((RuleKind.relationship classes).permission style).become "options" =
        ["relationship"] := rfl
      have hlisted : ∀ name ∈ ["pluck", "all", "query", "toArray"],
          ((RuleKind.relationship classes).permission style).become name = [] := by
        simp only [List.forall_mem_cons]
        exact ⟨rfl, rfl, rfl, rfl, List.forall_mem_nil _⟩
      intro name hname other hother
      rcases List.mem_cons.mp hname with rfl | hname
      · rw [hoptions] at hother
        exact ⟨_, List.mem_singleton_self _, (List.mem_singleton.mp hother).symm⟩
      · rw [hlisted name hname] at hother
        cases hother
    · simp [Call.callsAll_singleton]
    · simp [Call.callsAll, Expr.callsAll, Expr.calls]

/-- The verdict on a chain with a call replaced, by the names that are left. -/
theorem Replaces.examine_eq {before after : List Call}
    (h : chain.Replaces style rule.kind swap before call after new) :
    rule.examine style (.chain chain) (.chain { chain with rest := before ++ (new ++ after) }) =
      Rule.verdictOf (rule.leftover (.chain { chain with rest := before ++ (new ++ after) })) := by
  have hkind : rule.kind ≠ .sections ∧ rule.kind ≠ .arrowClosures := by
    rcases swap?_cases h.swap_eq with ⟨hkind, -⟩ | ⟨hkind, -⟩ | ⟨classes, relation, hkind, -⟩ <;>
      simp [hkind]
  rcases trades_of_swap style h.swap_eq h.new_eq with
    ⟨gone, shown, shared, hexchanges, hcovers, hgone, hshown⟩
  have hcalls : chain.rest.Perm ([call] ++ (before ++ after)) := by
    rw [h.rest_eq]
    exact List.perm_middle
  have hbefore := chain.calls_perm_without hcalls
  have hafter := Chain.calls_perm_without { chain with rest := before ++ (new ++ after) }
    (List.perm_append_comm_assoc before new after)
  apply Rule.examine_exchange_eq hkind hexchanges hcovers
  · have hall := hbefore.trans (hgone.append_right _)
    rwa [List.append_assoc gone] at hall
  · have hall := hafter.trans (hshown.append_right _)
    rwa [List.append_assoc shown] at hall

end Chain

/-!
# What other changes leave untouched
-/

namespace Rule

variable {style : Conventions} {rule : Rule} {chain : Chain} {objection : Objection}

theorem verdictOf_congr {xs ys : List String} (h : ∀ name : String, name ∈ xs ↔ name ∈ ys) :
    verdictOf xs = verdictOf ys := by
  have hnil : xs = [] ↔ ys = [] := by
    simp only [List.eq_nil_iff_forall_not_mem, h]
  by_cases hxs : xs = []
  · rw [verdictOf, verdictOf, if_pos hxs, if_pos (hnil.mp hxs)]
  · rw [verdictOf, verdictOf, if_neg hxs, if_neg fun hys => hxs (hnil.mpr hys),
      Text.distinct_congr h]

theorem Objects.cases {site : Site} (h : rule.Objects style site objection) :
    (∃ chain : Chain, site = .chain chain ∧ rule.kind.vanishing ≠ []) ∨
      ∃ items : List Expr, site = .list items ∧ rule.kind = .sections := by
  rcases h with ⟨proposal, hproposal, hverdict⟩
  have hrejects : ¬ (rule.kind = .callOrder ∨ rule.kind = .arrowClosures ∨
      ∃ flags, rule.kind = .bareFlags flags) := by
    intro hkind
    rw [accepts_proposal hkind hproposal] at hverdict
    cases hverdict
  cases hkind : rule.kind with
  | callOrder => exact absurd (Or.inl hkind) hrejects
  | arrowClosures => exact absurd (Or.inr (Or.inl hkind)) hrejects
  | bareFlags flags => exact absurd (Or.inr (Or.inr ⟨flags, hkind⟩)) hrejects
  | sections =>
      cases (proposal?_iff_makes hkind).mp hproposal with
      | sections => exact Or.inr ⟨_, rfl, rfl⟩
  | lookalikes least message => cases (proposal?_iff_makes hkind).mp hproposal
  | visibility | confirmation | relationship =>
      rcases exists_chain_of_proposal? (by simp [hkind]) hproposal with ⟨chain, rfl⟩
      exact Or.inl ⟨chain, rfl, List.cons_ne_nil _ _⟩

theorem Objects.vanishing_ne_nil (h : rule.Objects style (.chain chain) objection) :
    rule.kind.vanishing ≠ [] := by
  rcases h.cases with ⟨chain, -, hvanishing⟩ | ⟨items, hsite, -⟩
  · exact hvanishing
  · cases hsite

/-- What a rule that replaces a call objects to: it finds a call to replace, and names are left. -/
theorem objects_chain_iff (hvanishing : rule.kind.vanishing ≠ []) :
    rule.Objects style (.chain chain) objection ↔
      ∃ (swap : Swap) (before : List Call) (call : Call) (after new : List Call),
        chain.Replaces style rule.kind swap before call after new ∧
          verdictOf (rule.leftover (.chain { chain with rest := before ++ (new ++ after) })) =
            .reject objection := by
  constructor
  · rintro ⟨proposal, hproposal, hverdict⟩
    rcases (Chain.proposal?_eq_some_iff hvanishing).mp hproposal with
      ⟨swap, before, call, after, new, h, rfl⟩
    rw [h.examine_eq] at hverdict
    exact ⟨swap, before, call, after, new, h, hverdict⟩
  · rintro ⟨swap, before, call, after, new, h, hverdict⟩
    refine ⟨.chain { chain with rest := before ++ (new ++ after) }, ?_, ?_⟩
    · exact (Chain.proposal?_eq_some_iff hvanishing).mpr
        ⟨swap, before, call, after, new, h, rfl⟩
    · rw [h.examine_eq, hverdict]

end Rule

/-- Other calls after the first leave untouched what a rule replaces in a chain: the mark stays if
it is there, the calls that the rule has others for are the same, and the names that have to vanish
are called as often. -/
structure Chain.Untouched (chain : Chain) (rest : List Call) (swap : Swap)
    (vanishing : List String) :
    Prop where
  marked : chain.hasCall swap.mark = true → { chain with rest }.hasCall swap.mark = true
  replaceable : (rest.filter fun call => (swap.replacement? call).isSome) =
    chain.rest.filter fun call => (swap.replacement? call).isSome
  tally_eq : ∀ name ∈ vanishing, Call.tally name (Expr.chain { chain with rest }).calls =
    Call.tally name (Expr.chain chain).calls

namespace Chain

variable {style : Conventions} {rule : Rule} {chain : Chain} {objection : Objection}

theorem tally_replaced (chain : Chain) {before after : List Call} {call : Call}
    (h : chain.rest = before ++ call :: after) (new : List Call) (name : String) :
    Call.tally name (Expr.chain { chain with rest := before ++ (new ++ after) }).calls +
        Call.tally name (Call.callsAll [call]) =
      Call.tally name (Expr.chain chain).calls + Call.tally name (Call.callsAll new) := by
  have hcalls : chain.rest.Perm ([call] ++ (before ++ after)) := by
    rw [h]
    exact List.perm_middle
  have hbefore := chain.calls_perm_without hcalls
  have hafter : (Expr.chain { chain with rest := before ++ (new ++ after) }).calls.Perm
      (Call.callsAll new ++ (Expr.chain { chain with rest := before ++ after }).calls) :=
    Chain.calls_perm_without { chain with rest := before ++ (new ++ after) }
      (List.perm_append_comm_assoc before new after)
  rw [Call.tally_perm name hbefore, Call.tally_perm name hafter, Call.tally_append,
    Call.tally_append]
  omega

variable {rest before after new : List Call} {swap : Swap} {call : Call}

theorem Untouched.replaces {kind : RuleKind} (h : chain.Untouched rest swap kind.vanishing)
    (hreplaces : { chain with rest }.Replaces style kind swap before call after new) :
    ∃ before' after' : List Call, chain.Replaces style kind swap before' call after' new := by
  have hfirst : chain.rest.filter (fun call => (swap.replacement? call).isSome) =
      call :: after.filter fun call => (swap.replacement? call).isSome := by
    rw [← h.replaceable]
    refine List.filter_eq_cons_iff.mpr ⟨before, after, hreplaces.rest_eq, ?_, ?_, rfl⟩
    · intro earlier hearlier
      rw [hreplaces.before_eq earlier hearlier]
      exact Bool.false_ne_true
    · rw [hreplaces.new_eq]
      rfl
  rcases List.filter_eq_cons_iff.mp hfirst with ⟨before', after', hcalls, hbefore, -, -⟩
  refine ⟨before', after', hreplaces.swap_eq, hreplaces.declaration, ?_, hcalls, ?_,
    hreplaces.new_eq⟩
  · cases hmark : chain.hasCall swap.mark with
    | false => rfl
    | true => exact absurd (h.marked hmark) (Bool.eq_false_iff.mp hreplaces.unmarked)
  · intro earlier hearlier
    exact Option.not_isSome_iff_eq_none.mp (hbefore earlier hearlier)

/-- A rule objects to a chain after a change that leaves untouched what it replaces only if it did
so before. -/
theorem objects_of_untouched (h : rule.Objects style (.chain { chain with rest }) objection)
    (huntouched : ∀ swap : Swap, chain.swap? rule.kind = some swap →
      { chain with rest }.hasCall swap.mark = false →
      chain.Untouched rest swap rule.kind.vanishing) :
    rule.Objects style (.chain chain) objection := by
  have hvanishing := h.vanishing_ne_nil
  rcases (Rule.objects_chain_iff hvanishing).mp h with
    ⟨swap, before, call, after, new, hreplaces, hverdict⟩
  have hkept := huntouched swap hreplaces.swap_eq hreplaces.unmarked
  rcases hkept.replaces hreplaces with ⟨before', after', hreplaces'⟩
  refine (Rule.objects_chain_iff hvanishing).mpr
    ⟨swap, before', call, after', new, hreplaces', ?_⟩
  rw [← hverdict]
  apply Rule.verdictOf_congr
  intro name
  rw [Rule.mem_leftover, Rule.mem_leftover]
  apply and_congr_right
  intro hname
  have hbefore := chain.tally_replaced hreplaces'.rest_eq new name
  have hafter := tally_replaced { chain with rest } hreplaces.rest_eq new name
  rw [hkept.tally_eq name hname] at hafter
  simp only [Site.calls] at hafter ⊢
  omega

end Chain

end FluentStyle
