import FluentStyle.Catalog.Config
import FluentStyle.Data.Basic

/-!
# Writing a configuration

A configuration as data, with the fields in their customary order and every default filled in.
Fields that may be absent are left out if they are empty.
-/

namespace FluentStyle

def FieldTest.toData : FieldTest → Data
  | .startsWith text => .mapping [("kind", .text "Prefix"), ("value", .text text)]
  | .endsWith text => .mapping [("kind", .text "Suffix"), ("value", .text text)]
  | .matching pattern => .mapping [("kind", .text "Regex"), ("pattern", .text pattern.source)]

def Group.toData (group : Group) : Data :=
  .mapping [("section", .text group.title), ("construct", .text group.construct),
    ("container", .text group.container), ("match", group.test.toData),
    ("min_fields", .int group.minFields)]

def RuleKind.toFields : RuleKind → List (String × Data)
  | .callOrder => [("kind", .text "ReorderByCategory")]
  | .arrowClosures => [("kind", .text "ClosureToExpression")]
  | .relationship classes =>
      [("kind", .text "RelationshipBinding"), ("classes", .texts classes)]
  | .confirmation => [("kind", .text "Builtin"), ("template", .text "ConfirmationGuard")]
  | .visibility => [("kind", .text "Builtin"), ("template", .text "VisibleOverNegatedHidden")]
  | .bareFlags flags =>
      [("kind", .text "Builtin"), ("template", .text "BareBooleanFlag"), ("flags", .texts flags)]
  | .lookalikes minSiblings message =>
      [("kind", .text "DuplicateExtraction"), ("min_siblings", .int minSiblings)] ++
        (message.map fun text => ("message", Data.text text)).toList
  | .sections => [("kind", .text "SectionGrouping")]

def Rule.toData (rule : Rule) : Data :=
  .mapping <|
    ("id", .text rule.id) ::
    (rule.description.map fun text => ("description", Data.text text)).toList ++
    [("priority", .int rule.priority), ("idempotent", .bool rule.idempotent)] ++
    rule.kind.toFields

namespace Config

def categoriesData (config : Config) : Data :=
  .mapping <|
    [("order", .texts (config.order.map Category.name)),
      ("calls", .mapping (Category.all.filterMap fun category =>
        (config.calls category).map fun calls => (category.name, .texts calls)))] ++
    (if config.exempt.isEmpty then [] else [("exempt", .texts config.exempt)])

def toData (config : Config) : Data :=
  .mapping <|
    [("version", .int 1), ("constructors", .texts config.constructors),
      ("categories", config.categoriesData)] ++
    (if config.groups.isEmpty then []
      else [("grouping", .sequence (config.groups.map Group.toData))]) ++
    [("rules", .sequence (config.rules.map Rule.toData))]

end Config

end FluentStyle
