import FluentStyle.Catalog.Conventions
import FluentStyle.Text.Template

/-!
# Lookalikes

Declarations in a list that differ by the name of their field only might share a helper.  They are
reported, not changed.
-/

namespace FluentStyle

structure Lookalikes where
  /-- One of the declarations with its name blanked out. -/
  shape : Chain
  /-- The names, in the order of the declarations. -/
  names : List StringLiteral

namespace Chain

/-- The declaration of a field with its name blanked out, and the name.  A declaration that is
nothing but its constructor has no shape to speak of. -/
def shape? (style : Conventions) : Chain → Option (Chain × StringLiteral)
  | ⟨.static className, ⟨constructor, .literal name :: args⟩, call :: rest⟩ =>
      if style.constructors.contains constructor then
        some (⟨.static className, ⟨constructor, .constant "" :: args⟩, call :: rest⟩, name)
      else none
  | _ => none

end Chain

namespace Lookalikes

/-!
# Collecting lookalikes

A declaration is added to those that it looks like, or at the end as a kind of its own.  Kinds that
are numerous enough are reported, with a message of the rule or the default one.
-/

/-- Adds a declaration to those it looks like, or at the end as a kind of its own. -/
def insert (shape : Chain) (name : StringLiteral) : List Lookalikes → List Lookalikes
  | [] => [⟨shape, [name]⟩]
  | first :: rest =>
      if first.shape = shape then ⟨first.shape, first.names ++ [name]⟩ :: rest
      else first :: insert shape name rest

def collect (style : Conventions) (items : List Expr) : List Lookalikes :=
  items.foldl (fun found item =>
    match item with
    | .chain chain =>
        match chain.shape? style with
        | some (shape, name) => insert shape name found
        | none => found
    | _ => found) []

def find (style : Conventions) (minSiblings : Nat) (items : List Expr) : List Lookalikes :=
  (collect style items).filter fun found => minSiblings ≤ found.names.length

def defaultMessage : String :=
  String.join ["\x7b\x7b $count \x7d\x7d `\x7b\x7b $class \x7d\x7d` declarations (\x7b\x7b $names ",
    "\x7d\x7d) differ only by name; consider extracting a shared helper."]

def message (template : Option String) (found : Lookalikes) : String :=
  Text.fill (template.getD defaultMessage) [
    ("class", found.shape.className?.getD ""),
    ("count", found.names.length.repr),
    ("names", Text.join ", " (found.names.map (·.raw)))]

end Lookalikes

end FluentStyle
