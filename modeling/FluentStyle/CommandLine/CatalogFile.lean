import FluentStyle.Catalog.Decode
import FluentStyle.Catalog.Standard
import FluentStyle.Path.Directory

/-!
# The catalog in use

A catalog that is asked for by its path has to be there.  Otherwise the project's catalog is used if
there is one, then the user's, then the standard one.  A file that is there has to be good.
-/

namespace FluentStyle

/-!
# What is around a command

An input is the path of a file, or else the text itself.
-/

/-- What the program sees around it. -/
structure Surroundings where
  directory : Directory
  /-- The place that paths start from. -/
  here : List String
  /-- The path of the user's catalog. -/
  userCatalog : Option String

namespace Surroundings

def look (around : Surroundings) (path : String) : Found :=
  (around.directory.look around.here path).1

def place (around : Surroundings) (path : String) : List String :=
  (around.directory.look around.here path).2

/-- The text of an input: of the file if the input is the path of one, else the input itself. -/
def inputText (around : Surroundings) (input : String) : String :=
  match around.look input with
  | .file text => text
  | .missing | .blocked | .folder => input

end Surroundings

/-!
# Finding a catalog
-/

structure LoadedCatalog where
  origin : String
  catalog : Catalog

namespace LoadedCatalog

def projectPath : String :=
  ".chainsmith.yaml"

def standard : LoadedCatalog :=
  ⟨"<builtin>", .standard⟩

def ofText? (path text : String) : Option LoadedCatalog := do
  let config ← Config.parse? text
  let catalog ← (Catalog.ofConfig config).toOption
  return ⟨path, catalog⟩

/-- The catalog in the first of the files that is there, or the standard one if none is; nothing if
the file cannot be used. -/
def first? (around : Surroundings) : List String → Option LoadedCatalog
  | [] => some standard
  | path :: rest =>
      match around.look path with
      | .missing => first? around rest
      | .file text => ofText? path text
      | .blocked | .folder => none

def find? (around : Surroundings) : Option String → Option LoadedCatalog
  | some path =>
      match around.look path with
      | .file text => ofText? path text
      | .missing | .blocked | .folder => none
  | none => first? around (projectPath :: around.userCatalog.toList)

end LoadedCatalog

end FluentStyle
