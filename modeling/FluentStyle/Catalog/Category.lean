/-!
# Categories of calls

A call of a declaration belongs to one of nine categories, by what it says about the declared
thing.
-/

namespace FluentStyle

/-- What a call says about the thing that its chain declares. -/
inductive Category where
  | identification
  | labelDescription
  | placeholder
  | validation
  | reactiveBehavior
  | callback
  | tableFeature
  | visibilityControl
  | other
deriving DecidableEq, Repr, Inhabited

namespace Category

def all : List Category :=
  [.identification, .labelDescription, .placeholder, .validation, .reactiveBehavior, .callback,
    .tableFeature, .visibilityControl, .other]

def name : Category → String
  | .identification => "Identification"
  | .labelDescription => "LabelDescription"
  | .placeholder => "Placeholder"
  | .validation => "Validation"
  | .reactiveBehavior => "ReactiveBehavior"
  | .callback => "Callback"
  | .tableFeature => "TableFeature"
  | .visibilityControl => "VisibilityControl"
  | .other => "Other"

def ofName? (name : String) : Option Category :=
  all.find? (·.name = name)

theorem mem_all (category : Category) : category ∈ all := by
  cases category <;> decide

theorem nodup_all : all.Nodup := by
  decide

theorem ofName?_name (category : Category) : ofName? category.name = some category := by
  cases category <;> decide

end Category

end FluentStyle
