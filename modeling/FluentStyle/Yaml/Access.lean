import FluentStyle.Yaml.Node

/-!
# Reading data out of documents

A reader that knows what kind of value it wants takes the text of any scalar as a text, and an
empty scalar as a collection without elements.  A reader of free data goes by what a scalar stands
for on its own: there a text has to be quoted if it would be something else when it is not.
-/

namespace FluentStyle.Yaml.Node

/-!
# Values of a known kind

A field that is required has to be there once, and one that is optional at most once.  An optional
text is missing if its scalar stands for nothing.
-/

def text? : Node → Option String
  | .scalar _ _ text => some text
  | _ => none

def plain? : Node → Option String
  | .scalar _ true text => some text
  | _ => none

def optionalText? : Node → Option (Option String)
  | .scalar _ plain text => some (if plain && Scalar.isNull text then none else some text)
  | _ => none

def bool? (node : Node) : Option Bool :=
  node.plain?.bind Scalar.bool?

def int? (node : Node) : Option Int :=
  node.plain?.bind Scalar.int?

def nat? (node : Node) : Option Nat :=
  node.plain?.bind Scalar.nat?

def items? : Node → Option (List Node)
  | .sequence _ items => some items
  | .scalar _ true "" => some []
  | _ => none

def texts? (node : Node) : Option (List String) :=
  node.items?.bind (·.mapM text?)

def entries? : Node → Option (List (Node × Node))
  | .mapping _ entries => some entries
  | .scalar _ true "" => some []
  | _ => none

def fields? (node : Node) : Option (List (String × Node)) :=
  node.entries?.bind (·.mapM fun (key, value) => key.text?.map (·, value))

def required? {α : Type} (fields : List (String × Node)) (name : String)
    (read : Node → Option α) : Option α :=
  match fields.filter (·.1 = name) with
  | [(_, node)] => read node
  | _ => none

def optional? {α : Type} (fields : List (String × Node)) (name : String) (absent : α)
    (read : Node → Option α) : Option α :=
  match fields.filter (·.1 = name) with
  | [] => some absent
  | [(_, node)] => read node
  | _ => none

/-!
# Free data

Free data has no tags of the document, at any depth.
-/

def isLocalTag : Option String → Bool
  | none => false
  | some tag => tag.toList.head? = some '!'

/-- Whether a plain scalar is an integer beyond the range of those that count as such that fits into
128 bits.  Free data has no place for one; a longer one counts as a number without an exact value.
-/
def isOverlong (text : String) : Bool :=
  (Scalar.int? text).any fun n => wideRange n && !intRange n

def resolved? : Node → Option Resolved
  | .scalar none true text => if isOverlong text then none else some (Resolved.ofPlain text)
  | .scalar none false text => some (.text text)
  | .scalar (some tag) _ text =>
      if isLocalTag (some tag) then none
      else if tag = "tag:yaml.org,2002:null" then
        if text ≠ "" ∧ Scalar.isNull text then some .null else none
      else if tag = "tag:yaml.org,2002:bool" then (Scalar.bool? text).map .bool
      else if tag = "tag:yaml.org,2002:int" then ((Scalar.int? text).filter intRange).map .int
      else if tag = "tag:yaml.org,2002:float" then
        if Scalar.isReal text then some .real else none
      else some (.text text)
  | _ => none

mutual

def isData : Node → Bool
  | .scalar tag plain text => (Node.scalar tag plain text).resolved?.isSome
  | .sequence tag items => !isLocalTag tag && areData items
  | .mapping tag entries => !isLocalTag tag && entriesAreData entries

def areData : List Node → Bool
  | [] => true
  | node :: rest => node.isData && areData rest

def entriesAreData : List (Node × Node) → Bool
  | [] => true
  | (key, value) :: rest => key.isData && value.isData && entriesAreData rest

end

def dataText? (node : Node) : Option String :=
  match node.resolved? with
  | some (.text text) => some text
  | _ => none

def optionalDataText? (node : Node) : Option (Option String) :=
  match node.resolved? with
  | some (.text text) => some (some text)
  | some .null => some none
  | _ => none

def dataNat? (node : Node) : Option Nat :=
  match node.resolved? with
  | some (.int n) => n.toNat?
  | _ => none

def dataTexts? : Node → Option (List String)
  | .sequence _ items => items.mapM dataText?
  | _ => none

/-- The one of the names that a scalar stands for, given in full or by its place. -/
def oneOf? (names : List String) (node : Node) : Option String :=
  match node.resolved? with
  | some (.text name) => if names.contains name then some name else none
  | some (.int n) => n.toNat?.bind (names[·]?)
  | _ => none

end FluentStyle.Yaml.Node
