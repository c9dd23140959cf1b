import FluentStyle.Catalog.Basic
import FluentStyle.Catalog.Encode
import FluentStyle.Yaml.Printer

/-!
# The standard catalog

The catalog that is used where no other is given, and the document that it is written as.
-/

namespace FluentStyle

namespace Config

def standardCalls : Category → List String
  | .identification => ["name", "id", "key", "statePath", "relationship", "options", "model"]
  | .labelDescription =>
      ["label", "description", "helperText", "hint", "heading", "modalHeading",
        "modalDescription", "tooltip"]
  | .placeholder => ["placeholder", "default", "prefix", "suffix", "icon"]
  | .validation =>
      ["required", "email", "numeric", "minLength", "maxLength", "min", "max", "unique", "rules",
        "regex", "nullable", "requiresConfirmation"]
  | .reactiveBehavior => ["live", "reactive", "afterStateUpdated", "debounce", "lazy"]
  | .callback =>
      ["action", "using", "after", "before", "formatStateUsing", "getStateUsing",
        "dehydrateStateUsing"]
  | .tableFeature => ["searchable", "sortable", "toggleable", "copyable", "preload", "multiple"]
  | .visibilityControl => ["visible", "hidden", "disabled", "readOnly"]
  | .other => []

def standardRules : List Rule := [
  ⟨"relationship-binding",
    some "Bind select options to a model relationship instead of plucking them by hand.",
    30, true, .relationship ["Select"]⟩,
  ⟨"confirmation-guard",
    some "Use the builtin confirmation modal instead of a confirm() guard.",
    20, true, .confirmation⟩,
  ⟨"visible-over-negated-hidden", some "Prefer visible(...) over hidden(!...).",
    20, true, .visibility⟩,
  ⟨"bare-boolean-flag", some "Drop redundant `true` arguments from flag calls.",
    20, true, .bareFlags ["required", "searchable", "sortable", "preload", "multiple", "live",
      "reactive", "nullable", "copyable"]⟩,
  ⟨"closure-to-expression", some "Write single-return closures as arrow functions.",
    10, true, .arrowClosures⟩,
  ⟨"section-grouping", some "Group related fields into a section.", 5, false, .sections⟩,
  ⟨"reorder-by-category", some "Order calls by category.", 0, true, .callOrder⟩,
  ⟨"duplicate-extraction", some "Flag sibling fields that differ only by name.", 0, true,
    .lookalikes 3 (some (String.join ["\x7b\x7b $count \x7d\x7d `\x7b\x7b $class \x7d\x7d` ",
      "declarations (\x7b\x7b $names \x7d\x7d) differ only by name; consider extracting a ",
      "shared helper."]))⟩]

def standard : Config where
  constructors := ["make"]
  order := Category.all
  calls category := if category = .other then none else some (standardCalls category)
  exempt := ["orderBy", "limit", "latest", "oldest"]
  groups := [⟨"Address", "Section", "schema", .startsWith "address_", 3⟩]
  rules := standardRules

def standardText : String :=
  Yaml.render standard.toData

end Config

/-- The catalog that is used where no other is given. -/
def Catalog.standard : Catalog where
  config := .standard
  flawless := by decide +kernel

end FluentStyle
