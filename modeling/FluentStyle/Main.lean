import FluentStyle.CommandLine.Run

/-!
# The program

Gathers what a command needs to know of the file system and the environment, runs it, and does what
its report says.
-/

namespace FluentStyle.Main

def usage : String :=
  "Restyles fluent method chains.\n\n" ++
  "Usage:\n" ++
  "  chainsmith rewrite [OPTIONS] [--json] INPUT\n" ++
  "  chainsmith check [OPTIONS] [--write] [--pattern PATTERN] [PATHS]...\n" ++
  "  chainsmith validate [PATH]\n" ++
  "  chainsmith test [OPTIONS] --rule ID INPUT\n" ++
  "  chainsmith tree [OPTIONS] INPUT\n\n" ++
  "Options:\n" ++
  "  --config PATH      catalog to use\n" ++
  "  --max-passes N     greatest number of passes over a fragment\n"

/-!
# Surveying the file system
-/

def entryAt (place : List String) : IO.FS.DirEntry :=
  ⟨"/", "/" ++ Text.join "/" place⟩

def addFile (found : Directory) (place : List String) : IO Directory := do
  try
    if (← (entryAt place).path.metadata).type == .file then
      return { found with files := (place, ← IO.FS.readFile (entryAt place).path) :: found.files }
    else return found
  catch _ => return found

def addFolder (found : Directory) (place : List String) : IO Directory := do
  if ← (entryAt place).path.isDir then
    return { found with folders := place :: found.folders }
  else return found

/-- Adds what is at the place and below it.  Links are not followed below it. -/
partial def addBelow (found : Directory) (place : List String) : IO Directory := do
  if ← (entryAt place).path.isDir then
    let mut found := { found with folders := place :: found.folders }
    for entry in ← (entryAt place).path.readDir do
      if (← entry.path.symlinkMetadata).type != .symlink then
        found ← addBelow found (place ++ [entry.fileName])
    return found
  else addFile found place

/-- Adds the directories on the way of a path, and gives the place that it leads to. -/
def addWay (here : List String) (path : String) (found : Directory) :
    IO (Directory × List String) := do
  let way := Path.wayOf (Path.start here path) (Path.parts path)
  return (← way.foldlM addFolder found, way.getLastD here)

def ignoreFileNames : List (List String) :=
  [[".ignore"], [".gitignore"], [".git", "info", "exclude"]]

def survey (here : List String) (userCatalog : Option String) (command : Command) :
    IO Directory := do
  let mut found : Directory := ⟨[], []⟩
  for path in command.paths ++ LoadedCatalog.projectPath :: userCatalog.toList do
    let (more, place) ← addWay here path found
    found ← addFile more place
  for path in command.folders do
    let (more, place) ← addWay here path found
    found ← addBelow more place
    for above in Directory.ancestors place do
      found ← addFolder found (above ++ [".git"])
      for name in ignoreFileNames do
        found ← addFile found (above ++ name)
  return found

def userCatalogPath : IO (Option String) := do
  let home := (← IO.getEnv "HOME").map (Path.join · ".config")
  let folder := ((← IO.getEnv "XDG_CONFIG_HOME").filter Path.isAbsolute).or home
  return folder.map (Path.join · "chainsmith/catalog.yaml")

/-!
# Running
-/

def perform (command : Command) : IO UInt32 := do
  let here := ((Path.parts (← IO.currentDir).toString).filter (· ≠ ""))
  let userCatalog ← userCatalogPath
  let directory ← survey here userCatalog command
  match command.run { directory, here, userCatalog } with
  | .error failure =>
      IO.eprintln ("Error: " ++ failure.message)
      return 1
  | .ok report =>
      IO.print report.output
      IO.eprint report.errors
      for (place, text) in report.written do
        IO.FS.writeFile (entryAt place).path text
      return if report.succeeded then 0 else 1

end FluentStyle.Main

def main (args : List String) : IO UInt32 := do
  match args with
  | ["help"] | ["--help"] | ["-h"] =>
      IO.print FluentStyle.Main.usage
      return 0
  | ["--version"] | ["-V"] =>
      IO.println "chainsmith 0.1.0"
      return 0
  | _ =>
      match FluentStyle.Command.ofArguments? (← IO.getEnv "CHAINSMITH_CONFIG") args with
      | none =>
          IO.eprint FluentStyle.Main.usage
          return 2
      | some command => FluentStyle.Main.perform command
