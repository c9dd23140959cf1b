import FluentStyle.Catalog.Conventions

/-!
# Permissions

What a rule may do to the calls of a site besides moving them about.
-/

namespace FluentStyle

/-- The changes of calls that a rule may make. -/
structure Permission where
  /-- The names that may vanish, each with the names that have to appear for it. -/
  renames : List (String × List String)
  /-- The names that have to appear in any case. -/
  introduces : List String
  /-- Whether all that may change is that closures are written as arrow functions. -/
  onlyArrows : Bool
deriving DecidableEq, Repr

namespace Permission

/-!
# Names

Calls with a name that is renamed may vanish, and calls with the new name may appear.
-/

def nothing : Permission where
  renames := []
  introduces := []
  onlyArrows := false

def renamed (permission : Permission) (name : String) : Bool :=
  permission.renames.any (·.1 = name)

def mayAppear (permission : Permission) (name : String) : Bool :=
  permission.introduces.contains name || permission.renames.any (·.2.contains name)

def become (permission : Permission) (name : String) : List String :=
  if permission.renamed name then
    (permission.renames.filter (·.1 = name)).flatMap (·.2)
  else [name]

end Permission

namespace RuleKind

def permission (style : Conventions) : RuleKind → Permission
  | .callOrder | .lookalikes _ _ => .nothing
  | .arrowClosures => { Permission.nothing with onlyArrows := true }
  | .relationship _ =>
      { Permission.nothing with
        renames := [("options", ["relationship"]), ("pluck", []), ("all", []), ("query", []),
          ("toArray", [])] }
  | .confirmation =>
      { Permission.nothing with
        renames := [("confirm", ["requiresConfirmation", "modalDescription"]),
          ("action", ["action"])] }
  | .visibility => { Permission.nothing with renames := [("hidden", ["visible"])] }
  | .bareFlags flags =>
      { Permission.nothing with renames := flags.map fun flag => (flag, [flag]) }
  | .sections =>
      { Permission.nothing with
        introduces := style.groups.map (·.container) ++ style.constructors.head?.toList }

end RuleKind

end FluentStyle
