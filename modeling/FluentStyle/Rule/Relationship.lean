import FluentStyle.Catalog.Conventions
import FluentStyle.Rule.Substitution
import FluentStyle.Text.UpperCase

/-!
# Relationships

The options of a field that holds the key of another model need not be listed by hand: they can be
bound to the relationship between the models.  This is done where the options are plainly all
records of a model, by a column and the key `id`; a list that is filtered, sorted or changed in
another way is left alone, for its binding would not do the same.
-/

namespace FluentStyle

def Text.capitalize : List Char → List Char
  | [] => []
  | c :: rest => Text.toUpper c ++ rest

/-- The name of the relationship behind a field: the field's name without `_id` at its end, as one
word in camel case. -/
def relationName? (field : String) : Option String :=
  match Text.stripEnd? "_id".toList field.toList with
  | none => none
  | some base =>
      match (Text.splitOn '_' base).filter (· ≠ []) with
      | [] => none
      | first :: words => some (String.ofList (first ++ words.flatMap Text.capitalize))

namespace Call

/-!
# Options

The call that lists the options may end with `toArray()` and start with `all()` or `query()`.
-/

def withoutToArray (calls : List Call) : List Call :=
  match calls.getLast? with
  | some ⟨"toArray", []⟩ => calls.dropLast
  | _ => calls

def withoutQuery : List Call → List Call
  | ⟨"all", []⟩ :: rest => rest
  | ⟨"query", []⟩ :: rest => rest
  | calls => calls

/-- The column by which the options are listed, where they are all records of a model. -/
def pluckedColumn? (options : Call) : Option StringLiteral :=
  match options.args with
  | [.chain ⟨.static _, first, rest⟩] =>
      match withoutQuery (withoutToArray (first :: rest)) with
      | [⟨"pluck", [.literal column, .literal key]⟩] =>
          if key.value = "id" then some column else none
      | _ => none
  | _ => none

def bound? (relation : StringLiteral) (call : Call) : Option (List Call) :=
  if call.name = "options" then
    call.pluckedColumn?.map fun column =>
      [⟨"relationship", [.literal relation, .literal column]⟩]
  else none

end Call

namespace Chain

/-- The declaration of one of the classes with its options bound to a relationship. -/
def bound? (style : Conventions) (classes : List String) (chain : Chain) : Option Chain :=
  if style.isDeclaration chain && !chain.hasCall "relationship" &&
      chain.className?.any classes.contains then
    match chain.fieldName? with
    | none => none
    | some field =>
        match relationName? field.value with
        | none => none
        | some relation =>
            (Call.replaceFirst? (Call.bound? (field.withValue relation)) chain.rest).map
              fun rest => { chain with rest }
  else none

end Chain

end FluentStyle
