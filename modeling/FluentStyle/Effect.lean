import FluentStyle.Tree.Site

/-!
# Effects

What a call does is known by its name and the text of its arguments.  The effects of a site are
those of its calls at every depth.
-/

namespace FluentStyle

/-- A call as far as it can be told from others. -/
structure Effect where
  name : String
  argText : String
deriving DecidableEq, Repr

namespace Effect

/-!
# Order of effects

Effects are looked at by their names and then by their arguments, so that the one reported is always
the same.
-/

def ofCall (call : Call) : Effect :=
  ⟨call.name, Call.argText call.args⟩

def message (effect : Effect) : String :=
  effect.name ++ "(" ++ effect.argText ++ ")"

/-- The order in which effects are looked at: by their names, then by their arguments. -/
def before (a b : Effect) : Bool :=
  a.name < b.name || (a.name = b.name && a.argText < b.argText)

def first? : List Effect → Option Effect
  | [] => none
  | effect :: rest =>
      match first? rest with
      | none => some effect
      | some other => if other.before effect then some other else some effect

/-- The first effect with a name that counts which occurs more often in one list than in another. -/
def lost? (counts : String → Bool) (own others : List Effect) : Option Effect :=
  first? (own.filter fun effect =>
    counts effect.name && others.count effect < own.count effect)

end Effect

namespace Site

def effects (site : Site) : List Effect :=
  site.calls.map Effect.ofCall

end Site

end FluentStyle
