import FluentStyle.Catalog.Category
import FluentStyle.Pattern.Basic
import FluentStyle.Text.Split

/-!
# Configurations

What a catalog is configured with: the constructors that make a chain a declaration, the categories
of calls and their order, the groups of fields that are worth a section, and the rules.
-/

namespace FluentStyle

/-!
# Groups of fields

A group takes fields whose names pass its test.
-/

inductive FieldTest where
  | startsWith (text : String)
  | endsWith (text : String)
  | matching (pattern : Pattern)
deriving DecidableEq

namespace FieldTest

def accepts (test : FieldTest) (name : String) : Bool :=
  match test with
  | .startsWith text => Text.startsWith text.toList name.toList
  | .endsWith text => Text.endsWith text.toList name.toList
  | .matching pattern => pattern.isMatch name

end FieldTest

/-- A group of fields that belong into a section of their own. -/
structure Group where
  /-- The title of the section. -/
  title : String
  /-- The class of the section. -/
  construct : String
  /-- The call on the section that takes the fields. -/
  container : String
  test : FieldTest
  /-- The least number of neighbouring fields that are worth a section. -/
  minFields : Nat
deriving DecidableEq

/-!
# Rules

Most rules propose a change; one kind only reports.
-/

inductive RuleKind where
  /-- Puts the calls of a declaration into the order of their categories. -/
  | callOrder
  /-- Writes a block closure that only returns a value as an arrow function. -/
  | arrowClosures
  /-- Binds the options of a declaration of one of the classes to a relationship. -/
  | relationship (classes : List String)
  /-- Replaces a guard that asks for confirmation by the calls made for it. -/
  | confirmation
  /-- Replaces a negated `hidden` by `visible`. -/
  | visibility
  /-- Leaves out the argument `true` of the calls with one of the names. -/
  | bareFlags (flags : List String)
  /-- Reports neighbours that differ by their names only, and changes nothing. -/
  | lookalikes (minSiblings : Nat) (message : Option String)
  /-- Wraps the fields of a group in a section. -/
  | sections
deriving DecidableEq

structure Rule where
  id : String
  description : Option String
  /-- Of several rules that apply at a place, the one with the highest priority is tried first. -/
  priority : Int
  /-- Whether the rule promises to leave its own results alone. -/
  idempotent : Bool
  kind : RuleKind
deriving DecidableEq

namespace Rule

def isAdvisory (rule : Rule) : Bool :=
  match rule.kind with
  | .lookalikes _ _ => true
  | _ => false

end Rule

/-!
# All that is configured
-/

structure Config where
  /-- The names of the calls on a class that start a declaration. -/
  constructors : List String
  /-- The order of the categories. -/
  order : List Category
  /-- The names of the calls listed under a category, if it is listed at all. -/
  calls : Category → Option (List String)
  /-- The calls that keep their place. -/
  exempt : List String
  groups : List Group
  rules : List Rule

namespace Config

theorem eq_iff {a b : Config} :
    a = b ↔ a.constructors = b.constructors ∧ a.order = b.order ∧
      (∀ category ∈ Category.all, a.calls category = b.calls category) ∧ a.exempt = b.exempt ∧
        a.groups = b.groups ∧ a.rules = b.rules := by
  constructor
  · rintro rfl
    exact ⟨rfl, rfl, fun _ _ => rfl, rfl, rfl, rfl⟩
  · rcases a with ⟨constructors, order, calls, exempt, groups, rules⟩
    rcases b with ⟨constructors', order', calls', exempt', groups', rules'⟩
    rintro ⟨rfl, rfl, hcalls, rfl, rfl, rfl⟩
    have hsame : calls = calls' := funext fun category => hcalls category category.mem_all
    rw [hsame]

instance : DecidableEq Config := fun _ _ => decidable_of_iff _ eq_iff.symm

end Config

end FluentStyle
