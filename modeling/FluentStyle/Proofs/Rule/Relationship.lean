import FluentStyle.Catalog.Standard
import FluentStyle.Proofs.Rule.Substitution
import FluentStyle.Proofs.Token.Quoting
import FluentStyle.Proofs.Tree.Declarations
import Mathlib.Data.List.TakeWhile

/-!
# Bound options

Just the declarations are bound whose field holds the key of another model and whose options list
all records of a model.  The name of the relationship is the name of the field in camel case.
-/

namespace FluentStyle

/-!
# Camel case

The words of a text make its camel case, if there are any.
-/

namespace Text

/-- A text in camel case: the underscores are left out, and a letter behind some of them is raised
to upper case. -/
def camelFrom (raised : Bool) : List Char → List Char
  | [] => []
  | c :: rest =>
      if c = '_' then camelFrom true rest
      else (if raised then toUpper c else [c]) ++ camelFrom false rest

def camelCase (text : List Char) : List Char :=
  camelFrom false (text.dropWhile (· = '_'))

theorem camelFrom_false_eq {text first : List Char} {words : List (List Char)}
    (h : splitOn '_' text = first :: words) :
    camelFrom false text = first ++ words.flatMap capitalize ∧
      camelFrom true text = capitalize first ++ words.flatMap capitalize := by
  induction text generalizing first words with
  | nil =>
      cases h
      exact ⟨rfl, rfl⟩
  | cons c text ih =>
      rcases List.exists_cons_of_ne_nil (splitOn_ne_nil '_' text) with ⟨next, others, hnext⟩
      rcases ih hnext with ⟨hplain, hraised⟩
      rw [splitOn, hnext] at h
      rw [camelFrom, camelFrom]
      by_cases hc : c = '_'
      · rw [if_pos hc] at h
        cases h
        rw [if_pos hc, if_pos hc, hraised, List.flatMap_cons]
        exact ⟨rfl, rfl⟩
      · rw [if_neg hc] at h
        cases h
        rw [if_neg hc, if_neg hc, hplain, if_pos rfl, capitalize]
        exact ⟨rfl, (List.append_assoc _ _ _).symm⟩

theorem flatMap_capitalize_filter (words : List (List Char)) :
    (words.filter (· ≠ [])).flatMap capitalize = words.flatMap capitalize := by
  induction words with
  | nil => rfl
  | cons word words ih =>
      cases word with
      | nil => simpa [capitalize] using ih
      | cons c word => simpa using ih

theorem filter_splitOn_dropWhile (text : List Char) :
    (splitOn '_' text).filter (· ≠ []) =
      (splitOn '_' (text.dropWhile (· = '_'))).filter (· ≠ []) := by
  induction text with
  | nil => rfl
  | cons c text ih =>
      by_cases hc : c = '_'
      · subst hc
        rw [splitOn, if_pos rfl, List.dropWhile_cons_of_pos (by simp), ← ih]
        exact List.filter_cons_of_neg (by simp)
      · rw [List.dropWhile_cons_of_neg (by simpa using hc)]

theorem words_cases (text : List Char) :
    (text.all (· = '_') = true ∧ (splitOn '_' text).filter (· ≠ []) = []) ∨
      (text.all (· = '_') = false ∧ ∃ (first : List Char) (words : List (List Char)),
        (splitOn '_' text).filter (· ≠ []) = first :: words ∧
          camelCase text = first ++ words.flatMap capitalize) := by
  rw [filter_splitOn_dropWhile, camelCase]
  cases hrest : text.dropWhile (· = '_') with
  | nil =>
      rw [List.dropWhile_eq_nil_iff] at hrest
      exact Or.inl ⟨List.all_eq_true.mpr hrest, rfl⟩
  | cons c rest =>
      have hmem : c ∈ text := (List.dropWhile_sublist _).subset (hrest ▸ List.mem_cons_self)
      have hc : c ≠ '_' := by
        have hhead := List.head?_dropWhile_not (· = '_') text
        simpa [hrest] using hhead
      rcases List.exists_cons_of_ne_nil (splitOn_ne_nil '_' rest) with ⟨next, others, hnext⟩
      have hsplit : splitOn '_' (c :: rest) = (c :: next) :: others := by
        rw [splitOn, if_neg hc, hnext]
      refine Or.inr ⟨List.all_eq_false.mpr ⟨c, hmem, by simpa using hc⟩,
        c :: next, others.filter (· ≠ []), ?_, ?_⟩
      · rw [hsplit]
        exact List.filter_cons_of_pos (by simp)
      · rw [(camelFrom_false_eq hsplit).1, flatMap_capitalize_filter]

end Text

theorem relationName?_eq_some {field relation : String} :
    relationName? field = some relation ↔
      ∃ base : List Char, field.toList = base ++ "_id".toList ∧ (∃ c ∈ base, c ≠ '_') ∧
        relation = String.ofList (Text.camelCase base) := by
  have hbase : ∀ base : List Char, base.all (· = '_') = false ↔ ∃ c ∈ base, c ≠ '_' := by
    intro base
    simp [List.all_eq_false]
  simp only [← Text.stripEnd?_eq_some, ← hbase]
  unfold relationName?
  cases hstrip : Text.stripEnd? "_id".toList field.toList with
  | none => simp
  | some base =>
      simp only [Option.some.injEq, exists_eq_left']
      rcases Text.words_cases base with ⟨hall, hwords⟩ | ⟨hall, first, words, hwords, hcamel⟩
      · rw [hwords]
        simp [hall]
      · rw [hwords]
        simp [hall, hcamel, eq_comm]

/-!
# Declarations that are bound
-/

def Call.ListsOptions (column : StringLiteral) (call : Call) : Prop :=
  ∃ options : List Expr, call = ⟨"options", options⟩ ∧ Call.Lists column options

theorem Call.bound?_eq_some_iff {relation : StringLiteral} {call : Call} {new : List Call} :
    call.bound? relation = some new ↔
      ∃ column : StringLiteral, call.ListsOptions column ∧
        new = [⟨"relationship", [.literal relation, .literal column]⟩] := by
  simp only [bound?_eq_some, pluckedColumn?_eq_some]
  constructor
  · rintro ⟨options, column, rfl, hlists, rfl⟩
    exact ⟨column, ⟨options, rfl, hlists⟩, rfl⟩
  · rintro ⟨column, ⟨options, rfl, hlists⟩, rfl⟩
    exact ⟨options, column, rfl, hlists, rfl⟩

theorem Call.bound?_eq_none_iff {relation : StringLiteral} {call : Call} :
    call.bound? relation = none ↔ ∀ column : StringLiteral, ¬ call.ListsOptions column := by
  rw [Option.eq_none_iff_forall_ne_some]
  constructor
  · intro h column hlists
    exact h _ (bound?_eq_some_iff.mpr ⟨column, hlists, rfl⟩)
  · intro h new hnew
    rcases bound?_eq_some_iff.mp hnew with ⟨column, hlists, -⟩
    exact h column hlists

namespace Chain

variable {style : Conventions} {classes : List String} {chain changed : Chain}
  {field : StringLiteral} {base : List Char}

/-- The chain declares a field of one of the classes and does not bind it yet.  The name of the
field is the base with `_id` behind it, and there is more to the base than underscores. -/
structure AwaitsBinding (style : Conventions) (classes : List String) (chain : Chain)
    (field : StringLiteral) (base : List Char) : Prop where
  declares : ∃ className ∈ classes, chain.DeclaresField style className field
  unbound : ∀ call ∈ chain.calls, call.name ≠ "relationship"
  field_value : field.value.toList = base ++ "_id".toList
  base_word : ∃ c ∈ base, c ≠ '_'

/-- The first call that lists options is replaced by a binding of the column to the relation. -/
def BindsFirst (relation : StringLiteral) (chain changed : Chain) : Prop :=
  ∃ (before after : List Call) (options : Call) (column : StringLiteral),
    chain.rest = before ++ options :: after ∧
    (∀ earlier ∈ before, ∀ column : StringLiteral, ¬ earlier.ListsOptions column) ∧
    options.ListsOptions column ∧
    changed = { chain with
      rest := before ++ ⟨"relationship", [.literal relation, .literal column]⟩ :: after }

theorem bindsFirst_iff {relation : StringLiteral} :
    BindsFirst relation chain changed ↔ ∃ rest : List Call,
      Call.replaceFirst? (Call.bound? relation) chain.rest = some rest ∧
        changed = { chain with rest } := by
  simp only [Call.replaceFirst?_eq_some, Call.bound?_eq_some_iff, Call.bound?_eq_none_iff]
  constructor
  · rintro ⟨before, after, options, column, hrest, hearlier, hlists, rfl⟩
    exact ⟨_, ⟨before, options, after, _, hrest, hearlier, ⟨column, hlists, rfl⟩, rfl⟩, rfl⟩
  · rintro ⟨rest, ⟨before, options, after, new, hrest, hearlier, ⟨column, hlists, rfl⟩, rfl⟩, rfl⟩
    exact ⟨before, after, options, column, hrest, hearlier, hlists, rfl⟩

theorem bound?_eq_some_iff_bindsFirst : chain.bound? style classes = some changed ↔
    ∃ (field : StringLiteral) (base : List Char), AwaitsBinding style classes chain field base ∧
      BindsFirst (field.withValue (String.ofList (Text.camelCase base))) chain changed := by
  have hclass : chain.className?.any classes.contains = true ↔
      ∃ className ∈ classes, chain.className? = some className := by
    simp [Option.any_eq_true, and_comm]
  have hunbound : chain.hasCall "relationship" = false ↔
      ∀ call ∈ chain.calls, call.name ≠ "relationship" := by
    simp [hasCall]
  rw [bound?_eq_some_iff, hclass, hunbound]
  constructor
  · rintro ⟨hdeclaration, hcalls, ⟨className, hmem, hname⟩, field, relation, hfield, hrelation,
      hrest⟩
    rcases relationName?_eq_some.mp hrelation with ⟨base, hvalue, hword, rfl⟩
    have hdeclares := declaresField_iff.mpr ⟨hdeclaration, hname, hfield⟩
    exact ⟨field, base, ⟨⟨className, hmem, hdeclares⟩, hcalls, hvalue, hword⟩,
      bindsFirst_iff.mpr hrest⟩
  · rintro ⟨field, base, ⟨⟨className, hmem, hdeclares⟩, hcalls, hvalue, hword⟩, hbinds⟩
    rcases declaresField_iff.mp hdeclares with ⟨hdeclaration, hname, hfield⟩
    have hrelation := relationName?_eq_some.mpr ⟨base, hvalue, hword, rfl⟩
    exact ⟨hdeclaration, hcalls, ⟨className, hmem, hname⟩, field, _, hfield, hrelation,
      bindsFirst_iff.mp hbinds⟩

theorem exists_bindsFirst_iff {relation : StringLiteral} :
    (∃ changed : Chain, BindsFirst relation chain changed) ↔
      ∃ call ∈ chain.rest, ∃ column : StringLiteral, call.ListsOptions column := by
  have hlists : ∀ call : Call, (call.bound? relation).isSome = true ↔
      ∃ column : StringLiteral, call.ListsOptions column := by
    intro call
    simp only [Option.isSome_iff_exists, Call.bound?_eq_some_iff]
    exact ⟨fun ⟨_, column, h, _⟩ => ⟨column, h⟩, fun ⟨column, h⟩ => ⟨_, column, h, rfl⟩⟩
  simp only [bindsFirst_iff, ← hlists]
  rw [← Call.isSome_replaceFirst?_iff, Option.isSome_iff_exists]
  exact ⟨fun ⟨_, rest, hrest, _⟩ => ⟨rest, hrest⟩, fun ⟨rest, hrest⟩ => ⟨_, rest, hrest, rfl⟩⟩

/-- Just a declaration that awaits it and has a call that lists options is bound.  The first of
these calls is replaced, where it stands, by one that names the relationship: the base of the
field's name in camel case, in the quotes of the field's name. -/
theorem bound?_iff (style : Conventions) (classes : List String) (chain : Chain) :
    ((chain.bound? style classes).isSome = true ↔
      (∃ (field : StringLiteral) (base : List Char),
        AwaitsBinding style classes chain field base) ∧
      ∃ call ∈ chain.rest, ∃ column : StringLiteral, call.ListsOptions column) ∧
    ∀ changed : Chain, chain.bound? style classes = some changed →
      ∃ (field : StringLiteral) (base : List Char) (relation : StringLiteral),
        AwaitsBinding style classes chain field base ∧ BindsFirst relation chain changed ∧
        relation = field.withValue (String.ofList (Text.camelCase base)) ∧
        relation.value = String.ofList (Text.camelCase base) ∧
        (field.quote = '\'' ∨ field.quote = '"' → relation.quote = field.quote) := by
  constructor
  · simp only [Option.isSome_iff_exists, bound?_eq_some_iff_bindsFirst]
    constructor
    · rintro ⟨changed, field, base, hawaits, hbinds⟩
      exact ⟨⟨field, base, hawaits⟩, exists_bindsFirst_iff.mp ⟨changed, hbinds⟩⟩
    · rintro ⟨⟨field, base, hawaits⟩, hlists⟩
      rcases exists_bindsFirst_iff.mpr hlists with ⟨changed, hbinds⟩
      exact ⟨changed, field, base, hawaits, hbinds⟩
  · intro changed h
    rcases bound?_eq_some_iff_bindsFirst.mp h with ⟨field, base, hawaits, hbinds⟩
    exact ⟨field, base, _, hawaits, hbinds, rfl, StringLiteral.value_withValue field _,
      fun hquote => StringLiteral.quote_withValue hquote _⟩

/-- Of two calls that give options, the second one lists them. -/
theorem bound?_iff_second :
    let field : StringLiteral := ⟨"\"parent_category_id\""⟩
    let listed : Expr := .chain ⟨.static "Category", ⟨"all", []⟩,
      [Call.pluck ⟨"'name'"⟩ ⟨"'id'"⟩, ⟨"toArray", []⟩]⟩
    let declaration (second : Call) : Chain :=
      ⟨.static "Select", ⟨"make", [.literal field]⟩, [⟨"options", [.array []]⟩, second]⟩
    let relation : StringLiteral := ⟨"\"parentCategory\""⟩
    let changed := declaration ⟨"relationship", [.literal relation, .literal ⟨"'name'"⟩]⟩
    (declaration ⟨"options", [listed]⟩).bound? Catalog.standard.style ["Select"] = some changed ∧
      ∃ (field : StringLiteral) (base : List Char) (relation : StringLiteral),
        AwaitsBinding Catalog.standard.style ["Select"] (declaration ⟨"options", [listed]⟩) field base ∧
        BindsFirst relation (declaration ⟨"options", [listed]⟩) changed ∧
        relation.value = String.ofList (Text.camelCase base) := by
  intro field listed declaration relation changed
  have h : (declaration ⟨"options", [listed]⟩).bound? Catalog.standard.style ["Select"] =
      some changed := by decide +kernel
  rcases (bound?_iff _ _ _).2 changed h with
    ⟨field, base, relation, hawaits, hbinds, -, hvalue, -⟩
  exact ⟨h, field, base, relation, hawaits, hbinds, hvalue⟩

end Chain

end FluentStyle
