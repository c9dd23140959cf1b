import FluentStyle.Catalog.Conventions
import FluentStyle.Text.Quoted

/-!
# Catalogs

A catalog is a configuration without a flaw.  `Config.flaw?` finds the first flaw of a
configuration, and `Catalog.ofConfig` makes a catalog of one that has none.
-/

namespace FluentStyle

/-!
# Flaws

A rule can lack what its kind needs.  A configuration is no catalog if its order does not list every
category once, if a call is listed under two categories, if it has no constructor, if a group is one
that a single field would fill, or if a rule lacks something or has the id of an earlier rule.  The
first flaw in this order is reported, with what was being done in front of it.
-/

inductive RuleFlaw where
  | noGroup
  | fewSiblings (minSiblings : Nat)
  | noClass
  | noFlag
deriving DecidableEq, Repr

namespace RuleFlaw

def message : RuleFlaw → String
  | .noGroup => "SectionGrouping requires at least one grouping entry"
  | .fewSiblings minSiblings => "min_siblings must be at least 2, got " ++ minSiblings.repr
  | .noClass => "RelationshipBinding requires at least one class"
  | .noFlag => "BareBooleanFlag requires at least one flag"

end RuleFlaw

inductive ConfigFlaw where
  /-- The order does not list every category once; the categories are those left out. -/
  | order (missing : List Category)
  | assignedTwice (call : String) (earlier later : Category)
  | noConstructor
  | smallGroup (title : String) (minFields : Nat)
  | repeatedRule (id : String)
  | rule (id : String) (flaw : RuleFlaw)
deriving DecidableEq, Repr

namespace ConfigFlaw

def message : ConfigFlaw → String
  | .order missing =>
      "compile category table: category order must list each of the " ++
        Category.all.length.repr ++ " categories exactly once; missing: [" ++
        Text.join ", " (missing.map Category.name) ++ "]"
  | .assignedTwice call earlier later =>
      "compile category table: call `" ++ call ++ "` is assigned to both " ++ earlier.name ++
        " and " ++ later.name
  | .noConstructor => "compile category table: at least one constructor name is required"
  | .smallGroup title minFields =>
      "compile category table: grouping entry " ++ Text.quoted title ++
        " must have min_fields of at least 2, got " ++ minFields.repr
  | .repeatedRule id => "duplicate rule id: " ++ Text.quoted id
  | .rule id flaw => "validate rule " ++ Text.quoted id ++ ": " ++ flaw.message

end ConfigFlaw

namespace Config

/-!
# Finding the first flaw

The calls are looked through with those seen before at hand, and so are the rules with their ids.
-/

def orderFlaw? (order : List Category) : Option ConfigFlaw :=
  let missing := Category.all.filter fun category => !order.contains category
  if missing.isEmpty && order.length = Category.all.length then none else some (.order missing)

def callFlaw? (seen : List (String × Category)) : List (String × Category) → Option ConfigFlaw
  | [] => none
  | (call, category) :: rest =>
      match seen.lookup call with
      | some earlier => some (.assignedTwice call earlier category)
      | none => callFlaw? ((call, category) :: seen) rest

def groupFlaw? (groups : List Group) : Option ConfigFlaw :=
  (groups.find? (·.minFields < 2)).map fun group => .smallGroup group.title group.minFields

def ruleFlaw? (groups : List Group) : RuleKind → Option RuleFlaw
  | .sections => if groups.isEmpty then some .noGroup else none
  | .lookalikes minSiblings _ => if minSiblings < 2 then some (.fewSiblings minSiblings) else none
  | .relationship classes => if classes.isEmpty then some .noClass else none
  | .bareFlags flags => if flags.isEmpty then some .noFlag else none
  | .callOrder | .arrowClosures | .confirmation | .visibility => none

def rulesFlaw? (groups : List Group) (seen : List String) : List Rule → Option ConfigFlaw
  | [] => none
  | rule :: rest =>
      if seen.contains rule.id then some (.repeatedRule rule.id)
      else
        match ruleFlaw? groups rule.kind with
        | some flaw => some (.rule rule.id flaw)
        | none => rulesFlaw? groups (rule.id :: seen) rest

def flaw? (config : Config) : Option ConfigFlaw :=
  ((orderFlaw? config.order).or (callFlaw? [] config.callTable)).or <|
    (if config.constructors.isEmpty then some .noConstructor else none).or <|
      (groupFlaw? config.groups).or (rulesFlaw? config.groups [] config.rules)

end Config

/-!
# Configurations without a flaw

Rules are registered in the order in which they are written.  They are tried by descending priority,
and in the order of their registration among those of one priority.
-/

/-- A configuration without a flaw. -/
structure Catalog where
  config : Config
  flawless : config.flaw? = none

namespace Catalog

def ofConfig (config : Config) : Except ConfigFlaw Catalog :=
  match h : config.flaw? with
  | some flaw => .error flaw
  | none => .ok ⟨config, h⟩

def rules (catalog : Catalog) : List Rule :=
  catalog.config.rules

def style (catalog : Catalog) : Conventions :=
  catalog.config.conventions

def rule? (catalog : Catalog) (id : String) : Option Rule :=
  catalog.rules.find? (·.id = id)

def byPrecedence (catalog : Catalog) : List Rule :=
  catalog.rules.mergeSort fun a b => decide (b.priority ≤ a.priority)

end Catalog

namespace Config

/-!
# Catalogs of one rule

Each rule of a list without a flaw lacks nothing by itself, so a configuration stays without one
when all its rules but one are dropped.
-/

theorem ruleFlaw?_of_mem {groups : List Group} {rules : List Rule} {rule : Rule}
    (mem : rule ∈ rules) (seen : List String) (h : rulesFlaw? groups seen rules = none) :
    ruleFlaw? groups rule.kind = none := by
  induction rules generalizing seen with
  | nil => simp at mem
  | cons first rest ih =>
      rw [rulesFlaw?] at h
      split at h
      · simp at h
      · cases hf : ruleFlaw? groups first.kind with
        | some flaw => simp [hf] at h
        | none =>
            rw [hf] at h
            rcases List.mem_cons.1 mem with rfl | mem
            · exact hf
            · exact ih mem _ h

theorem flaw?_single {config : Config} {rule : Rule} (mem : rule ∈ config.rules)
    (h : config.flaw? = none) : ({ config with rules := [rule] } : Config).flaw? = none := by
  simp only [flaw?, Option.or_eq_none_iff] at h ⊢
  rcases h with ⟨⟨ho, hc⟩, hn, hg, hr⟩
  refine ⟨⟨ho, hc⟩, hn, hg, ?_⟩
  simp [rulesFlaw?, ruleFlaw?_of_mem mem [] hr]

end Config

namespace Catalog

def only (catalog : Catalog) (rule : Rule) (mem : rule ∈ catalog.rules) : Catalog where
  config := { catalog.config with rules := [rule] }
  flawless := Config.flaw?_single mem catalog.flawless

def only? (catalog : Catalog) (id : String) : Option Catalog :=
  match h : catalog.rule? id with
  | some rule => some (catalog.only rule (List.mem_of_find?_eq_some h))
  | none => none

end Catalog

end FluentStyle
