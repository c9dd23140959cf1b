import FluentStyle.Catalog.Conventions

/-!
# Sections

Neighbours in a list that declare fields of one group are wrapped in a section.  A section for the
whole list would only add a level, so there is none.
-/

namespace FluentStyle

namespace Group

/-- Whether the expression declares a field of the group.  A section of the group is none. -/
def takes (style : Conventions) (group : Group) : Expr → Bool
  | .chain chain =>
      style.isDeclaration chain && chain.className? ≠ some group.construct &&
        match chain.fieldName? with
        | some name => group.test.accepts name.value
        | none => false
  | _ => false

def wrap (group : Group) (constructor : String) (fields : List Expr) : Expr :=
  .chain ⟨.static group.construct,
    ⟨constructor, [.literal (.singleQuoted group.title)]⟩,
    [⟨group.container, [.array (fields.map .value)]⟩]⟩

end Group

/-!
# Runs

A list is cut in three around some of its neighbours.
-/

structure Cut (α : Type) where
  before : List α
  run : List α
  after : List α
deriving Repr

namespace Cut

def prepend {α : Type} (front : List α) (cut : Cut α) : Cut α :=
  { cut with before := front ++ cut.before }

/-- The first run of neighbours that all pass the test and stand between ones that do not, if its
length is at least the one and below the other bound; runs of another length are passed over. -/
def firstRun? {α : Type} (test : α → Bool) (least limit : Nat) : List α → Option (Cut α)
  | [] => none
  | item :: rest =>
      if test item then
        let run := item :: rest.takeWhile test
        if least ≤ run.length ∧ run.length < limit then
          some ⟨[], run, rest.dropWhile test⟩
        else (firstRun? test least limit (rest.dropWhile test)).map (prepend run)
      else (firstRun? test least limit rest).map (prepend [item])
termination_by items => items.length
decreasing_by
  · have := (List.dropWhile_sublist (p := test) (l := rest)).length_le
    simp only [List.length_cons]
    omega
  · simp

end Cut

namespace Expr

/-!
# Sections in a list

Groups are tried in order.
-/

/-- The expressions with the first run of fields of a group in a section; groups are tried in order.
-/
def sectioned? (style : Conventions) (items : List Expr) : Option (List Expr) :=
  match style.constructors with
  | [] => none
  | constructor :: _ =>
      style.groups.findSome? fun group =>
        (Cut.firstRun? (group.takes style) group.minFields items.length items).map fun cut =>
          cut.before ++ group.wrap constructor cut.run :: cut.after

end Expr

end FluentStyle
