import FluentStyle.Proofs.Grammar.Shape
import FluentStyle.Proofs.Rule.Weight
import FluentStyle.Proofs.Token.Quoting

/-!
# Rules keep trees well formed

A tree is well formed if its names and literals are spelled and its operators are grouped as they
are read.  No rule changes this: a proposal is made of parts of its site, of names that are spelled
and of literals that are quoted, and it holds together as firmly as the site.
-/

namespace FluentStyle

/-!
# Well-formed trees
-/

namespace Expr

/-- Every part of the tree is spelled and grouped. -/
def Wellformed : Expr → Prop :=
  Expr.Every fun part => part.isSpelled = true ∧ part.Grouped

theorem wellformed_iff {expr : Expr} :
    expr.Wellformed ↔ (expr.isSpelled = true ∧ expr.Grouped) ∧
      ∀ child ∈ expr.children, child.Wellformed :=
  every_iff

theorem readable_iff_wellformed {expr : Expr} :
    expr.Readable ↔ expr.Wellformed ∧ ∀ part ∈ expr.parts, part.Closed := by
  unfold Readable Wellformed Every
  constructor
  · intro h
    exact ⟨fun part hpart => ⟨(h part hpart).1, (h part hpart).2.1⟩,
      fun part hpart => (h part hpart).2.2⟩
  · rintro ⟨hwellformed, hclosed⟩ part hpart
    rcases hwellformed part hpart with ⟨hspelled, hgrouped⟩
    exact ⟨hspelled, hgrouped, hclosed part hpart⟩

theorem wellformed_literal {literal : StringLiteral} :
    (Expr.literal literal).Wellformed ↔ (Token.literal literal.raw).isSpelled = true := by
  rw [wellformed_iff]
  exact ⟨fun h => h.1.1, fun h => ⟨⟨h, True.intro⟩, List.forall_mem_nil _⟩⟩

end Expr

def Call.Wellformed (call : Call) : Prop :=
  call.isSpelled = true ∧ ∀ arg ∈ call.args, arg.Wellformed

namespace Chain

theorem wellformed_extend {chain : Chain} {calls : List Call} :
    (Expr.chain (chain.extend calls)).Wellformed ↔
      (Expr.chain chain).Wellformed ∧ ∀ call ∈ calls, call.Wellformed := by
  rw [Expr.wellformed_iff, Expr.wellformed_iff, chain.grouped_extend]
  show ((chain.extend calls).isSpelled = true ∧ _) ∧
    (∀ child ∈ (chain.extend calls).children, _) ↔
      ((chain.isSpelled = true ∧ _) ∧ ∀ child ∈ chain.children, _) ∧ _
  rw [isSpelled_extend, children_extend, Bool.and_eq_true, List.forall_mem_append,
    List.forall_mem_flatMap, List.all_eq_true]
  constructor
  · rintro ⟨⟨⟨hspelled, hcalls⟩, hgrouped⟩, hchildren, hargs⟩
    exact ⟨⟨⟨hspelled, hgrouped⟩, hchildren⟩,
      fun call hcall => ⟨hcalls call hcall, hargs call hcall⟩⟩
  · rintro ⟨⟨⟨hspelled, hgrouped⟩, hchildren⟩, hcalls⟩
    exact ⟨⟨⟨hspelled, fun call hcall => (hcalls call hcall).1⟩, hgrouped⟩, hchildren,
      fun call hcall => (hcalls call hcall).2⟩

theorem wellformed_rest {chain : Chain} (h : (Expr.chain chain).Wellformed) :
    (∀ call ∈ chain.rest, call.Wellformed) ∧ ∀ rest : List Call,
      (∀ call ∈ rest, call.Wellformed) → (Expr.chain { chain with rest }).Wellformed := by
  rcases chain with ⟨root, first, calls⟩
  have hextend : (Expr.chain (extend ⟨root, first, []⟩ calls)).Wellformed := h
  rcases wellformed_extend.mp hextend with ⟨hfirst, hcalls⟩
  refine ⟨hcalls, fun rest hrest => ?_⟩
  have hchanged : (Expr.chain (extend ⟨root, first, []⟩ rest)).Wellformed :=
    wellformed_extend.mpr ⟨hfirst, hrest⟩
  exact hchanged

end Chain

/-!
# One rule after another
-/

namespace Call

theorem wellformed_replaceFirst? {replacement? : Call → Option (List Call)}
    {calls changed : List Call}
    (hnew : ∀ {call : Call} {new : List Call}, replacement? call = some new → call.Wellformed →
      ∀ call ∈ new, call.Wellformed)
    (h : Call.replaceFirst? replacement? calls = some changed)
    (hcalls : ∀ call ∈ calls, call.Wellformed) : ∀ call ∈ changed, call.Wellformed := by
  rcases Call.replaceFirst?_eq_some.mp h with ⟨before, call, after, new, rfl, -, hreplaced, rfl⟩
  rcases List.forall_mem_append.mp hcalls with ⟨hbefore, hothers⟩
  rcases List.forall_mem_cons.mp hothers with ⟨hcall, hafter⟩
  exact List.forall_mem_append.mpr
    ⟨hbefore, List.forall_mem_append.mpr ⟨hnew hreplaced hcall, hafter⟩⟩

theorem wellformed_bound? {relation : StringLiteral} {call : Call} {new : List Call}
    (hrelation : (Token.literal relation.raw).isSpelled = true)
    (h : call.bound? relation = some new) (hcall : call.Wellformed) :
    ∀ call ∈ new, call.Wellformed := by
  rcases bound?_eq_some.mp h with ⟨options, column, rfl, hcolumn, rfl⟩
  rcases pluckedColumn?_eq_some.mp hcolumn with ⟨className, first, rest, key, rfl, hplucks, -⟩
  have hoptions : (Expr.chain ⟨.static className, first, rest⟩).Wellformed :=
    hcall.2 _ List.mem_cons_self
  have hliteral : Expr.literal column ∈ (first :: rest).flatMap fun call => call.args :=
    List.mem_flatMap.mpr ⟨_, hplucks.sublist.subset List.mem_cons_self, List.mem_cons_self⟩
  rw [List.flatMap_cons] at hliteral
  have hcolumnSpelled := (Expr.wellformed_iff.mp hoptions).2 _ hliteral
  have hname : (Token.name "relationship").isSpelled = true := by decide
  refine List.forall_mem_singleton.mpr ⟨hname, List.forall_mem_cons.mpr ⟨?_, ?_⟩⟩
  · exact Expr.wellformed_literal.mpr hrelation
  · exact List.forall_mem_singleton.mpr hcolumnSpelled

theorem wellformed_unguarded? {call : Call} {new : List Call} (h : call.unguarded? = some new)
    (hcall : call.Wellformed) : ∀ call ∈ new, call.Wellformed := by
  rcases unguarded?_eq_some h with
    ⟨params, captures, guard, step, steps, question, rfl, hquestion, rfl⟩
  have hclosure := List.forall_mem_singleton.mp hcall.2
  rcases Expr.wellformed_iff.mp hclosure with ⟨⟨hspelled, -⟩, hchildren⟩
  unfold Stmt.question? at hquestion
  split at hquestion
  · cases hquestion
    rw [Expr.children, Closure.children, Stmt.children, List.forall_mem_cons,
      List.forall_mem_append] at hchildren
    rcases hchildren with ⟨hguard, -, hsteps⟩
    have hquestion := (Expr.wellformed_iff.mp hguard).2 _ List.mem_cons_self
    have hliteral := (Expr.wellformed_iff.mp hquestion).2 _ List.mem_cons_self
    simp only [Expr.isSpelled, Stmt.isSpelled, Bool.and_eq_true] at hspelled
    rcases hspelled with ⟨⟨hparams, hcaptures⟩, -, hspelledSteps⟩
    have haction : (Expr.closure (.block params captures (step :: steps))).Wellformed := by
      refine Expr.wellformed_iff.mpr ⟨⟨?_, True.intro⟩, hsteps⟩
      simp only [Expr.isSpelled, hparams, hcaptures, hspelledSteps, Bool.and_self]
    have hconfirmation : (Token.name "requiresConfirmation").isSpelled = true := by decide
    have hdescription : (Token.name "modalDescription").isSpelled = true := by decide
    refine List.forall_mem_cons.mpr ⟨⟨hconfirmation, List.forall_mem_nil _⟩,
      List.forall_mem_cons.mpr ⟨?_, ?_⟩⟩
    · exact ⟨hdescription, List.forall_mem_singleton.mpr hliteral⟩
    · exact List.forall_mem_singleton.mpr ⟨hcall.1, List.forall_mem_singleton.mpr haction⟩
  · cases hquestion

theorem wellformed_shown? {call : Call} {new : List Call} (h : call.shown? = some new)
    (hcall : call.Wellformed) : ∀ call ∈ new, call.Wellformed := by
  rcases shown?_eq_some h with ⟨condition, shown, rfl, hshown, rfl⟩
  have hcondition := List.forall_mem_singleton.mp hcall.2
  have hname : (Token.name "visible").isSpelled = true := by decide
  refine List.forall_mem_singleton.mpr ⟨hname, List.forall_mem_singleton.mpr ?_⟩
  rcases Expr.wellformed_iff.mp hcondition with ⟨⟨hspelled, -⟩, hchildren⟩
  unfold Expr.unnegated? at hshown
  split at hshown
  · cases hshown
    exact hchildren _ List.mem_cons_self
  · cases hshown
    have hbody := hchildren _ List.mem_cons_self
    have hoperand := (Expr.wellformed_iff.mp hbody).2 _ List.mem_cons_self
    exact Expr.wellformed_iff.mpr
      ⟨⟨hspelled, True.intro⟩, List.forall_mem_singleton.mpr hoperand⟩
  · cases hshown

theorem wellformed_bared (flags : List String) {call : Call} (h : call.Wellformed) :
    (call.bared flags).Wellformed := by
  unfold bared
  split
  · exact ⟨h.1, List.forall_mem_nil _⟩
  · exact h

end Call

theorem Closure.wellformed_toArrow? {closure changed : Closure}
    (h : closure.toArrow? = some changed) (hclosure : (Expr.closure closure).Wellformed) :
    (Expr.closure changed).Wellformed := by
  rcases Closure.toArrow?_eq_some h with ⟨params, value, rfl, rfl⟩
  rcases Expr.wellformed_iff.mp hclosure with ⟨⟨hspelled, -⟩, hchildren⟩
  simp only [Expr.isSpelled, Bool.and_eq_true] at hspelled
  have hvalue : value.Wellformed := by
    apply hchildren
    show value ∈ Stmt.children [.give value]
    rw [Stmt.children]
    exact List.mem_cons_self
  exact Expr.wellformed_iff.mpr
    ⟨⟨hspelled.1.1, True.intro⟩, List.forall_mem_singleton.mpr hvalue⟩

/-!
# Sections
-/

/-- The names that the conventions bring into sections are spelled. -/
def Conventions.isSpelled (style : Conventions) : Bool :=
  style.constructors.all (fun constructor => (Token.name constructor).isSpelled) &&
    style.groups.all fun group =>
      Expr.isHead group.construct && (Token.name group.container).isSpelled

theorem Expr.wellformed_list {items : List Expr} :
    (Expr.array (items.map .value)).Wellformed ↔ ∀ item ∈ items, item.Wellformed := by
  rw [wellformed_iff, children_list]
  exact ⟨fun h => h.2, fun h => ⟨⟨rfl, True.intro⟩, h⟩⟩

theorem Group.wellformed_wrap {group : Group} {constructor : String} {fields : List Expr}
    (hconstruct : Expr.isHead group.construct = true)
    (hcontainer : (Token.name group.container).isSpelled = true)
    (hconstructor : (Token.name constructor).isSpelled = true)
    (hfields : ∀ field ∈ fields, field.Wellformed) :
    (group.wrap constructor fields).Wellformed := by
  have htitle : (Expr.literal (.singleQuoted group.title)).Wellformed :=
    Expr.wellformed_literal.mpr (StringLiteral.isSpelled_quoted (Or.inl rfl) _)
  have harray := Expr.wellformed_list.mpr hfields
  unfold Group.wrap
  refine Expr.wellformed_iff.mpr ⟨⟨?_, True.intro⟩, ?_⟩
  · simp only [Expr.isSpelled, Chain.isSpelled, Call.isSpelled, hconstruct, hconstructor,
      hcontainer, List.all_cons, List.all_nil, Bool.and_self]
  · exact List.forall_mem_cons.mpr ⟨htitle, List.forall_mem_singleton.mpr harray⟩

theorem Expr.wellformed_sectioned? {style : Conventions} {items items' : List Expr}
    (hstyle : style.isSpelled = true) (h : Expr.sectioned? style items = some items')
    (hitems : ∀ item ∈ items, item.Wellformed) : ∀ item ∈ items', item.Wellformed := by
  unfold Conventions.isSpelled at hstyle
  rw [Bool.and_eq_true, List.all_eq_true, List.all_eq_true] at hstyle
  rcases hstyle with ⟨hconstructors, hgroups⟩
  rcases Expr.sectioned?_eq_some h with ⟨constructor, group, cut, hhead, hgroup, hcut, rfl⟩
  rw [hcut.items_eq] at hitems
  rcases List.forall_mem_append.mp hitems with ⟨hbefore, hothers⟩
  rcases List.forall_mem_append.mp hothers with ⟨hrun, hafter⟩
  rcases Bool.and_eq_true_iff.mp (hgroups group hgroup) with ⟨hconstruct, hcontainer⟩
  have hconstructor := hconstructors constructor (List.mem_of_head? hhead)
  exact List.forall_mem_append.mpr ⟨hbefore, List.forall_mem_cons.mpr
    ⟨Group.wellformed_wrap hconstruct hcontainer hconstructor hrun, hafter⟩⟩

/-!
# All rules
-/

namespace Chain

variable {style : Conventions} {chain changed : Chain}

theorem wellformed_reordered? (h : chain.reordered? style = some changed)
    (hchain : (Expr.chain chain).Wellformed) : (Expr.chain changed).Wellformed := by
  rcases wellformed_rest hchain with ⟨hcalls, hreplace⟩
  rcases reordered?_eq_some h with ⟨-, -, rfl⟩
  apply hreplace
  intro call hcall
  exact hcalls call ((style.ordered_perm chain.rest).mem_iff.mp hcall)

theorem wellformed_bound? {classes : List String} (h : chain.bound? style classes = some changed)
    (hchain : (Expr.chain chain).Wellformed) : (Expr.chain changed).Wellformed := by
  rcases wellformed_rest hchain with ⟨hcalls, hreplace⟩
  rcases exists_bound h with ⟨field, relation, rest, hrest, rfl⟩
  exact hreplace rest (Call.wellformed_replaceFirst?
    (Call.wellformed_bound? (StringLiteral.isSpelled_withValue _ _)) hrest hcalls)

theorem wellformed_unguarded? (h : chain.unguarded? style = some changed)
    (hchain : (Expr.chain chain).Wellformed) : (Expr.chain changed).Wellformed := by
  rcases wellformed_rest hchain with ⟨hcalls, hreplace⟩
  rcases exists_unguarded h with ⟨rest, hrest, rfl⟩
  exact hreplace rest (Call.wellformed_replaceFirst? Call.wellformed_unguarded? hrest hcalls)

theorem wellformed_shown? (h : chain.shown? style = some changed)
    (hchain : (Expr.chain chain).Wellformed) : (Expr.chain changed).Wellformed := by
  rcases wellformed_rest hchain with ⟨hcalls, hreplace⟩
  rcases exists_shown h with ⟨rest, hrest, rfl⟩
  exact hreplace rest (Call.wellformed_replaceFirst? Call.wellformed_shown? hrest hcalls)

theorem wellformed_bared? {flags : List String} (h : chain.bared? style flags = some changed)
    (hchain : (Expr.chain chain).Wellformed) : (Expr.chain changed).Wellformed := by
  rcases wellformed_rest hchain with ⟨hcalls, hreplace⟩
  rcases bared?_eq_some h with ⟨-, rfl⟩
  apply hreplace
  intro call hcall
  rcases List.mem_map.mp hcall with ⟨before, hbefore, rfl⟩
  exact Call.wellformed_bared flags (hcalls before hbefore)

end Chain

/-- A proposal for a well-formed site is well formed. -/
theorem Rule.wellformed_proposal? {style : Conventions} {rule : Rule} {site proposal : Site}
    (hstyle : style.isSpelled = true) (h : rule.proposal? style site = some proposal)
    (hsite : site.toExpr.Wellformed) : proposal.toExpr.Wellformed := by
  rcases Rule.makes_of_proposal? h with ⟨kind, -, hmakes⟩
  cases hmakes with
  | callOrder hchanged => exact Chain.wellformed_reordered? hchanged hsite
  | relationship hchanged => exact Chain.wellformed_bound? hchanged hsite
  | confirmation hchanged => exact Chain.wellformed_unguarded? hchanged hsite
  | visibility hchanged => exact Chain.wellformed_shown? hchanged hsite
  | bareFlags hchanged => exact Chain.wellformed_bared? hchanged hsite
  | arrowClosures hchanged => exact Closure.wellformed_toArrow? hchanged hsite
  | sections hmade =>
      exact Expr.wellformed_list.mpr
        (Expr.wellformed_sectioned? hstyle hmade (Expr.wellformed_list.mp hsite))

theorem Rule.strength_proposal? {style : Conventions} {rule : Rule} {site proposal : Site}
    (h : rule.proposal? style site = some proposal) :
    proposal.toExpr.strength = site.toExpr.strength := by
  rcases Rule.makes_of_proposal? h with ⟨kind, -, hmakes⟩
  cases hmakes <;> rfl

end FluentStyle
