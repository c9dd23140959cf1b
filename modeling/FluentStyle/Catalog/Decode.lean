import FluentStyle.Catalog.Config
import FluentStyle.Yaml.Access
import FluentStyle.Yaml.Reader

/-!
# Reading a configuration

A configuration is read from a YAML document.  Fields that are not known are passed over; a known
field given twice is refused.
-/

namespace FluentStyle

open Yaml

/-- Reads a category; a tag with nothing after it will do as well. -/
def Category.ofNode? : Node → Option Category
  | .scalar (some tag) plain text =>
      if Node.isLocalTag (some tag) then
        if plain && Scalar.isNull text then ofName? (String.ofList (tag.toList.drop 1)) else none
      else ofName? text
  | .scalar none _ text => ofName? text
  | _ => none

def FieldTest.ofNode? (node : Node) : Option FieldTest := do
  guard node.isData
  match node with
  | .mapping _ entries =>
      let fields := entries.filterMap fun (key, value) => key.dataText?.map (·, value)
      match ← Node.required? fields "kind" Node.text? with
      | "Prefix" => return .startsWith (← Node.required? fields "value" Node.dataText?)
      | "Suffix" => return .endsWith (← Node.required? fields "value" Node.dataText?)
      | "Regex" =>
          return .matching (← Pattern.parse? (← Node.required? fields "pattern" Node.dataText?))
      | _ => none
  | _ => none

def Group.ofNode? (node : Node) : Option Group := do
  let fields ← node.fields?
  return {
    title := ← Node.required? fields "section" Node.text?
    construct := ← Node.optional? fields "construct" "Section" Node.text?
    container := ← Node.optional? fields "container" "schema" Node.text?
    test := ← Node.required? fields "match" FieldTest.ofNode?
    minFields := ← Node.optional? fields "min_fields" 2 fun node =>
      node.nat?.filter (· < UInt64.size) }

namespace RuleKind

/-!
# Rules

What a rule does is read from the fields that not every rule has.  Three kinds of rules share the
name `Builtin` and are told apart by their template.
-/

def names : List String :=
  ["ReorderByCategory", "ClosureToExpression", "RelationshipBinding", "Builtin",
    "DuplicateExtraction", "SectionGrouping"]

def templateNames : List String :=
  ["ConfirmationGuard", "VisibleOverNegatedHidden", "BareBooleanFlag"]

def ofFields? (fields : List (String × Node)) : Option RuleKind := do
  match ← Node.required? fields "kind" (Node.oneOf? names) with
  | "ReorderByCategory" => return .callOrder
  | "ClosureToExpression" => return .arrowClosures
  | "RelationshipBinding" =>
      return .relationship (← Node.optional? fields "classes" ["Select"] Node.dataTexts?)
  | "Builtin" =>
      match ← Node.required? fields "template" (Node.oneOf? templateNames) with
      | "ConfirmationGuard" => return .confirmation
      | "VisibleOverNegatedHidden" => return .visibility
      | _ => return .bareFlags (← Node.required? fields "flags" Node.dataTexts?)
  | "DuplicateExtraction" =>
      return .lookalikes (← Node.optional? fields "min_siblings" 3 Node.dataNat?)
        (← Node.optional? fields "message" none Node.optionalDataText?)
  | _ => return .sections

end RuleKind

def Rule.commonFields : List String :=
  ["id", "description", "priority", "idempotent"]

def Rule.ofNode? (node : Node) : Option Rule := do
  let .mapping _ _ := node | none
  let fields ← node.fields?
  let own := fields.filter fun (name, _) => !commonFields.contains name
  guard (own.all fun (_, value) => value.isData)
  return {
    id := ← Node.required? fields "id" Node.text?
    description := ← Node.optional? fields "description" none Node.optionalText?
    priority := ← Node.optional? fields "priority" 0 fun node =>
      node.int?.filter fun n => -0x80000000 ≤ n && n < 0x80000000
    idempotent := ← Node.optional? fields "idempotent" true Node.bool?
    kind := ← RuleKind.ofFields? own }

namespace Config

/-!
# Configurations

Of several lists of calls for one category the last one counts.  There is only one version.
-/

def callsOfNode? (node : Node) : Option (Category → Option (List String)) := do
  let entries ← node.entries?
  let lists ← entries.mapM fun (key, value) => do
    return (← Category.ofNode? key, ← value.texts?)
  return fun category => lists.reverse.lookup category

def versionOfNode? (node : Node) : Option Unit :=
  node.int?.bind fun version => guard (version = 1)

def ofNode? (node : Node) : Option Config := do
  let fields ← node.fields?
  let _ ← Node.required? fields "version" versionOfNode?
  let categories ← Node.required? fields "categories" Node.fields?
  return {
    constructors := ← Node.optional? fields "constructors" ["make"] Node.texts?
    order := ← Node.required? categories "order" fun node =>
      node.items?.bind (·.mapM Category.ofNode?)
    calls := ← Node.optional? categories "calls" (fun _ => none) callsOfNode?
    exempt := ← Node.optional? categories "exempt" [] Node.texts?
    groups := ← Node.optional? fields "grouping" [] fun node =>
      node.items?.bind (·.mapM Group.ofNode?)
    rules := ← Node.required? fields "rules" fun node =>
      node.items?.bind (·.mapM Rule.ofNode?) }

def parse? (source : String) : Option Config :=
  (Node.parse? source).bind ofNode?

end Config

end FluentStyle
