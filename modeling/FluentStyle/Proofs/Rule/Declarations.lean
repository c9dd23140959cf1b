import FluentStyle.Catalog.Standard
import FluentStyle.Proofs.Grammar.Injectivity
import FluentStyle.Proofs.Grammar.Soundness
import FluentStyle.Proofs.Rule.Verdict
import FluentStyle.Proofs.Tree.Declarations

/-!
# Accepted proposals and declarations

Rules that order calls or make sections let no call vanish, so the constructors of all declarations
are called after an accepted proposal as often as before.  The verdict knows calls from their names
and the texts of their arguments.  The class of a declaration is part of such a text where the
declaration stands in an argument, and it is compared by itself at the start of a chain; elsewhere
it can change.
-/

namespace FluentStyle

/-!
# Calls that are known from their effects
-/

theorem Expr.readable_args {expr : Expr} (h : expr.Readable) {call : Call}
    (hcall : call ∈ expr.calls) : ∀ arg ∈ call.args, arg.Readable := by
  induction expr using Expr.children_induction with
  | h expr ih =>
      have hchildren := (Expr.readable_iff.mp h).2
      rcases List.mem_append.mp (expr.calls_perm.mem_iff.mp hcall) with hown | hinner
      · intro arg harg
        apply hchildren
        apply expr.children_perm.mem_iff.mpr
        exact List.mem_append_right _ (List.mem_flatMap.mpr ⟨call, hown, harg⟩)
      · rw [Expr.callsAll_eq_flatMap] at hinner
        rcases List.mem_flatMap.mp hinner with ⟨child, hchild, hcall⟩
        exact ih child hchild (hchildren child hchild) hcall

namespace Fragment

/-- The call is made somewhere in the fragment, at any depth. -/
def Makes (fragment : Fragment) (call : Call) : Prop :=
  ∃ item ∈ fragment.items, ∃ part ∈ item.parts, call ∈ part.ownCalls

theorem makes_iff {fragment : Fragment} {call : Call} :
    fragment.Makes call ↔ call ∈ Expr.callsAll fragment.items := by
  rw [Expr.callsAll_eq_flatMap, List.mem_flatMap]
  constructor
  · rintro ⟨item, hitem, part, hpart, hcall⟩
    refine ⟨item, hitem, item.calls_perm_parts.mem_iff.mpr ?_⟩
    exact List.mem_flatMap.mpr ⟨part, hpart, hcall⟩
  · rintro ⟨item, hitem, hcall⟩
    have hparts := item.calls_perm_parts.mem_iff.mp hcall
    exact ⟨item, hitem, List.mem_flatMap.mp hparts⟩

theorem readable_args_of_parse {source : String} {fragment : Fragment}
    (h : parse source = .ok fragment) {call : Call} (hcall : fragment.Makes call) :
    ∀ arg ∈ call.args, arg.Readable := by
  have hmem := makes_iff.mp hcall
  rw [Expr.callsAll_eq_flatMap] at hmem
  rcases List.mem_flatMap.mp hmem with ⟨item, hitem, hcall⟩
  exact Expr.readable_args ((readable_of_parse h).readable item hitem) hcall

/-- Calls in fragments that are read are taken for the same just if their names are and their
arguments are, tree by tree. -/
theorem effect_eq_iff_of_parse {source other : String} {fragment fragment' : Fragment}
    (h : parse source = .ok fragment) (h' : parse other = .ok fragment') {a b : Call}
    (ha : fragment.Makes a) (hb : fragment'.Makes b) :
    Effect.ofCall a = Effect.ofCall b ↔ a.name = b.name ∧ a.args = b.args := by
  constructor
  · intro heffect
    obtain rfl := Call.eq_of_ofCall_eq (readable_args_of_parse h ha)
      (readable_args_of_parse h' hb) heffect
    exact ⟨rfl, rfl⟩
  · rintro ⟨hname, hargs⟩
    rw [Effect.ofCall, Effect.ofCall, hname, hargs]

/-- The place of a parenthesis tells two calls apart. -/
theorem effect_ne_of_parse_nested :
    let inner : Call := ⟨"g", [.number "1", .number "2"]⟩
    let a : Call := ⟨"f", [.chain ⟨.function, inner, []⟩]⟩
    let b : Call := ⟨"f", [.chain ⟨.function, ⟨"g", [.number "1"]⟩, []⟩, .number "2"]⟩
    parse "f(g(1, 2))" = .ok ⟨[.chain ⟨.function, a, []⟩], .none⟩ ∧
      parse "f(g(1), 2)" = .ok ⟨[.chain ⟨.function, b, []⟩], .none⟩ ∧
      Makes ⟨[.chain ⟨.function, a, []⟩], .none⟩ a ∧
      Makes ⟨[.chain ⟨.function, b, []⟩], .none⟩ b ∧
      Effect.ofCall a ≠ Effect.ofCall b := by
  intro inner a b
  have hmakes : ∀ call : Call, Makes ⟨[.chain ⟨.function, call, []⟩], .none⟩ call :=
    fun call => ⟨_, List.mem_cons_self, _, Expr.mem_parts_self _, List.mem_cons_self⟩
  have ha : parse "f(g(1, 2))" = .ok ⟨[.chain ⟨.function, a, []⟩], .none⟩ := by decide +kernel
  have hb : parse "f(g(1), 2)" = .ok ⟨[.chain ⟨.function, b, []⟩], .none⟩ := by decide +kernel
  refine ⟨ha, hb, hmakes a, hmakes b, ?_⟩
  intro heffect
  rcases (effect_eq_iff_of_parse ha hb (hmakes a) (hmakes b)).mp heffect with ⟨-, hargs⟩
  exact absurd (congrArg List.length hargs) (by simp [a, b])

end Fragment

namespace Site

/-- What stands in the arguments of the calls of a site is as it is read. -/
def ReadableArgs (site : Site) : Prop :=
  ∀ call ∈ site.calls, ∀ arg ∈ call.args, arg.Readable

theorem readableArgs_of_readable {site : Site} (h : site.toExpr.Readable) : site.ReadableArgs := by
  intro call hcall
  rw [← calls_toExpr] at hcall
  exact Expr.readable_args h hcall

theorem count_effects {site : Site} (h : site.ReadableArgs) {call : Call}
    (hcall : ∀ arg ∈ call.args, arg.Readable) :
    site.effects.count (Effect.ofCall call) = site.calls.count call := by
  unfold effects List.count
  rw [List.countP_map]
  apply List.countP_congr
  intro other hother
  rw [Function.comp_apply, beq_iff_eq, beq_iff_eq]
  constructor
  · exact Call.eq_of_ofCall_eq (h other hother) hcall
  · rintro rfl
    rfl

/-- If no effect is lost and all arguments are readable, then no call is lost. -/
theorem calls_subperm {before after : Site} (hbefore : before.ReadableArgs)
    (hafter : after.ReadableArgs)
    (h : ∀ effect : Effect, before.effects.count effect ≤ after.effects.count effect) :
    before.calls.Subperm after.calls := by
  apply List.subperm_ext_iff.mpr
  intro call hcall
  have hargs := hbefore call hcall
  rw [← count_effects hbefore hargs, ← count_effects hafter hargs]
  exact h (Effect.ofCall call)

theorem count_argDeclarations_le {before after : Site} (h : before.calls.Subperm after.calls)
    (style : Conventions) (declared : Declared) :
    (before.argDeclarations style).count declared ≤
      (after.argDeclarations style).count declared := by
  rcases h with ⟨kept, hperm, hsublist⟩
  have hkept := hperm.flatMap_right (Call.argDeclarations style)
  have hmore := hsublist.flatMap (Call.argDeclarations style)
  unfold argDeclarations
  rw [← hkept.count_eq]
  exact hmore.count_le declared

theorem declarations_perm (style : Conventions) (site : Site) :
    (site.declarations style).Perm
      (site.toExpr.outerDeclarations style ++ site.argDeclarations style) := by
  have hperm := site.toExpr.declarations_perm style
  rw [calls_toExpr] at hperm
  exact hperm

end Site

/-!
# Rules that let no call vanish

Chains that start in the same way have the same declarations outside of arguments.
-/

theorem Chain.outerDeclarations_eq {style : Conventions} {a b : Chain} (hroot : a.root = b.root)
    (hconstructor : a.constructor? = b.constructor?) :
    (Expr.chain a).outerDeclarations style = (Expr.chain b).outerDeclarations style := by
  rcases a with ⟨root, first, rest⟩
  rcases b with ⟨root', first', rest'⟩
  obtain rfl : root = root' := hroot
  unfold Expr.outerDeclarations
  rw [Expr.outerParts_eq, Expr.outerParts_eq]
  cases root with
  | static className =>
      obtain rfl : first = first' := Option.some.inj hconstructor
      rfl
  | function => rfl
  | receiver object => rfl

namespace Rule

variable {style : Conventions} {rule : Rule} {before after : Site}

theorem kept_of_accept (hkind : rule.kind = .callOrder ∨ rule.kind = .sections)
    (h : rule.examine style before after = .accept) :
    before.sameKind after = true ∧ Verdict.sameStart before after = true ∧
      ∀ effect : Effect, before.effects.count effect ≤ after.effects.count effect := by
  have hpermission : (rule.kind.permission style).renames = [] ∧
      (rule.kind.permission style).onlyArrows = false := by
    rcases hkind with hkind | hkind <;> rw [hkind] <;> exact ⟨rfl, rfl⟩
  rcases hpermission with ⟨hrenames, honly⟩
  have hnormalize : ∀ site : Site, (rule.kind.permission style).normalize site = site := by
    intro site
    unfold Permission.normalize
    rw [honly]
    rfl
  rcases Verdict.examine_eq_accept_iff.mp h with ⟨hsame, hstart, -, hallows⟩
  rw [hnormalize, hnormalize] at hsame hstart hallows
  refine ⟨hsame, hstart, fun effect => hallows.kept effect ?_⟩
  unfold Permission.renamed
  rw [hrenames]
  rfl

/-- After an accepted proposal of a rule that orders calls or makes sections, each constructor is
called at least as often as it made declarations before.  If all arguments are readable, the
declarations in the arguments of calls are there with their classes, and those of chains are so
wherever they stand. -/
theorem declarations_kept (hkind : rule.kind = .callOrder ∨ rule.kind = .sections)
    (h : rule.examine style before after = .accept) :
    (∀ effect : Effect, ((before.declarations style).map (·.constructor)).count effect ≤
      after.effects.count effect) ∧
    (before.ReadableArgs → after.ReadableArgs → ∀ declared : Declared,
      (before.argDeclarations style).count declared ≤
        (after.argDeclarations style).count declared ∧
      ∀ chain : Chain, before = .chain chain →
        (before.declarations style).count declared ≤
          (after.declarations style).count declared) := by
  rcases kept_of_accept hkind h with ⟨hsame, hstart, heffects⟩
  constructor
  · intro effect
    have hconstructors := before.toExpr.constructors_subperm style
    rw [Site.calls_toExpr] at hconstructors
    exact Nat.le_trans (hconstructors.count_le effect) (heffects effect)
  · intro hbefore hafter declared
    -- Equal texts of readable arguments belong to equal arguments, so the calls are kept.
    have hargs : (before.argDeclarations style).count declared ≤
        (after.argDeclarations style).count declared :=
      Site.count_argDeclarations_le (Site.calls_subperm hbefore hafter heffects) style declared
    refine ⟨hargs, ?_⟩
    rintro chain rfl
    cases after with
    | chain changed =>
        simp only [Verdict.sameStart, Bool.and_eq_true, decide_eq_true_eq] at hstart
        have houter : (Expr.chain chain).outerDeclarations style =
            (Expr.chain changed).outerDeclarations style :=
          Chain.outerDeclarations_eq hstart.1 hstart.2
        rw [(Site.declarations_perm style _).count_eq, (Site.declarations_perm style _).count_eq,
          List.count_append, List.count_append]
        show ((Expr.chain chain).outerDeclarations style).count declared + _ ≤
          ((Expr.chain changed).outerDeclarations style).count declared + _
        rw [houter]
        exact Nat.add_le_add_left hargs _
    | closure closure => cases hsame
    | list items => cases hsame

/-- A declaration that is put into order, with another one in an argument. -/
theorem declarations_kept_nested :
    let nested : Expr := .chain ⟨.static "Y", ⟨"make", [.literal ⟨"'b'"⟩]⟩, []⟩
    let declaration (calls : List Call) : Chain :=
      ⟨.static "X", ⟨"make", [.literal ⟨"'a'"⟩]⟩, calls⟩
    let before := declaration [⟨"hidden", []⟩, ⟨"label", [nested]⟩]
    let after := declaration [⟨"label", [nested]⟩, ⟨"hidden", []⟩]
    let rule : Rule := ⟨"order", none, 0, true, .callOrder⟩
    rule.examine Catalog.standard.style (.chain before) (.chain after) = .accept ∧
      ∀ declared : Declared,
        ((Site.chain before).declarations Catalog.standard.style).count declared ≤
          ((Site.chain after).declarations Catalog.standard.style).count declared := by
  intro nested declaration before after rule
  have h : rule.examine Catalog.standard.style (.chain before) (.chain after) = .accept := by
    decide +kernel
  have hbefore : Fragment.parse "X::make('a')->hidden()->label(Y::make('b'))" =
      .ok ⟨[.chain before], .none⟩ := by decide +kernel
  have hafter : Fragment.parse "X::make('a')->label(Y::make('b'))->hidden()" =
      .ok ⟨[.chain after], .none⟩ := by decide +kernel
  refine ⟨h, fun declared => ?_⟩
  have hkept := (declarations_kept (Or.inl rfl) h).2
    (Site.readableArgs_of_readable ((Fragment.readable_of_parse hbefore).readable _
      List.mem_cons_self))
    (Site.readableArgs_of_readable ((Fragment.readable_of_parse hafter).readable _
      List.mem_cons_self)) declared
  exact hkept.2 before rfl

/-- In a list and in the body of a closure the class of a declaration can change.  So it can in an
argument that is not readable: a constant could be named like the text of a declaration. -/
theorem declaration_class_changes :
    let rule : Rule := ⟨"order", none, 0, true, .callOrder⟩
    let declaration (className : String) : Expr :=
      .chain ⟨.static className, ⟨"make", [.literal ⟨"'a'"⟩]⟩, []⟩
    let called (arg : Expr) (calls : List Call) : Site :=
      .chain ⟨.receiver (.variable "$x"), ⟨"foo", [arg]⟩, calls⟩
    let declared : Declared := ⟨"X", ⟨"make", "'a'"⟩⟩
    ∀ sites ∈ [
        (Site.list [declaration "X"], Site.list [declaration "Y"]),
        (Site.closure (.arrow [] (declaration "X")), Site.closure (.arrow [] (declaration "Y"))),
        (called (declaration "X") [],
          called (.constant "X::make('a')") [⟨"make", [.literal ⟨"'a'"⟩]⟩])],
      rule.examine Catalog.standard.style sites.1 sites.2 = .accept ∧
        (sites.2.declarations Catalog.standard.style).count declared <
          (sites.1.declarations Catalog.standard.style).count declared := by
  decide +kernel

end Rule

end FluentStyle
