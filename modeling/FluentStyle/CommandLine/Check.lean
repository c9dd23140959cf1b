import FluentStyle.CommandLine.CatalogFile
import FluentStyle.CommandLine.Log
import FluentStyle.Path.Ignore
import FluentStyle.Snippet

/-!
# Checking files

Every file that is to be checked is taken for one fragment.  Which files are checked is told by
paths: of a directory those below it whose name is like a pattern, and of a path with wildcards
those that it stands for.
-/

namespace FluentStyle

/-!
# Checking a file

Blanks at the end of a file do not count.  A file is changed if it is not in canonical style, and
invalid if it holds no fragment.  Of a clean file there is something to tell only if there are
warnings; the log of a restyling stands below the line of its file.
-/

def Path.hasWildcard (path : String) : Bool :=
  path.toList.any fun c => c = '*' || c = '?' || c = '['

inductive FileFinding where
  | clean (outcome : Outcome)
  | changed (outcome : Outcome)
  | invalid (source : String) (error : SyntaxError)

structure CheckedFile where
  path : String
  finding : FileFinding

namespace CheckedFile

def ofText (catalog : Catalog) (maxPasses : Nat) (path text : String) : CheckedFile :=
  match catalog.restyle maxPasses text with
  | .error error => ⟨path, .invalid text error⟩
  | .ok outcome =>
      if outcome.text.toList = Text.trimEndWhile Text.isBlank text.toList then
        ⟨path, .clean outcome⟩
      else ⟨path, .changed outcome⟩

def isChanged (file : CheckedFile) : Bool :=
  match file.finding with
  | .changed _ => true
  | .clean _ | .invalid .. => false

def isInvalid (file : CheckedFile) : Bool :=
  match file.finding with
  | .invalid .. => true
  | .clean _ | .changed _ => false

def newText? (file : CheckedFile) : Option String :=
  match file.finding with
  | .changed outcome => some (outcome.text ++ "\n")
  | .clean _ | .invalid .. => none

def logLines (outcome : Outcome) : List String :=
  outcome.log.map ("  " ++ ·)

def lines (write : Bool) (file : CheckedFile) : List String :=
  match file.finding with
  | .clean outcome =>
      if outcome.warnings.isEmpty then []
      else (Text.dim "unchanged" ++ " " ++ file.path) :: logLines outcome
  | .changed outcome =>
      (Text.colored .yellow (if write then "rewrote" else "would rewrite") ++ " " ++ file.path) ::
        logLines outcome
  | .invalid source error =>
      let (line, column) := error.lineColumn source
      [Text.colored .red "syntax error" ++ " " ++ file.path ++ ":" ++ line.repr ++ ":" ++
          column.repr,
        error.render source]

end CheckedFile

namespace Surroundings

/-!
# Which files are checked

A path stands for the file that it leads to, for the files below a directory whose name is like the
pattern, or, with wildcards, for all files that are like it.
-/

def filesBelow (around : Surroundings) (folder : String) : List (List String) :=
  around.directory.filesBelow (around.place folder)

def matchingFiles (around : Surroundings) (wildcard : Wildcard) : List String :=
  let paths := (around.filesBelow ".").map (Text.join "/")
  (paths.filter wildcard.isMatch).map (Path.join ".")

def namedFiles (around : Surroundings) (pattern : Wildcard) (folder : String) : List String :=
  let named := (around.filesBelow folder).filter fun names => pattern.isMatch (names.getLastD "")
  named.map fun names => Path.join folder (Text.join "/" names)

/-- The files that a path stands for, or the path if its wildcards make no sense. -/
def filesOf (around : Surroundings) (pattern : Wildcard) (path : String) :
    Except String (List String) :=
  if Path.hasWildcard path then
    match Wildcard.parse? path with
    | some wildcard => .ok (around.matchingFiles wildcard)
    | none => .error path
  else
    match around.look path with
    | .folder => .ok (around.namedFiles pattern path)
    | .file _ => .ok [path]
    | .missing | .blocked => .ok []

/-- The files to check, each once and in order, or a path whose wildcards make no sense.  Without
paths they are those below the place that the program runs in. -/
def filesToCheck (around : Surroundings) (pattern : Wildcard) (paths : List String) :
    Except String (List String) := do
  let files ← (if paths.isEmpty then ["."] else paths).mapM (around.filesOf pattern)
  return Path.distinct files.flatten

def check (around : Surroundings) (catalog : Catalog) (maxPasses : Nat) (files : List String) :
    List CheckedFile :=
  files.filterMap fun path =>
    match around.look path with
    | .file text => some (CheckedFile.ofText catalog maxPasses path text)
    | .missing | .blocked | .folder => none

end Surroundings

/-!
# The sum of a check
-/

/-- What a check comes down to: how many files were checked, how many of them are not in canonical
style, and how many hold no fragment. -/
structure CheckSummary where
  checked : Nat
  changed : Nat
  invalid : Nat
deriving DecidableEq, Repr

namespace CheckSummary

def ofFiles (files : List CheckedFile) : CheckSummary :=
  ⟨files.length, files.countP (·.isChanged), files.countP (·.isInvalid)⟩

def isGood (write : Bool) (summary : CheckSummary) : Bool :=
  summary.invalid = 0 && (summary.changed = 0 || write)

def line (write : Bool) (origin : String) (summary : CheckSummary) : String :=
  (if summary.isGood write then "✓" else "✗") ++ " Checked " ++ summary.checked.repr ++
    (if summary.checked = 1 then " file" else " files") ++ " with catalog " ++ origin ++ ": " ++
    summary.changed.repr ++ (if write then " rewritten, " else " to rewrite, ") ++
    summary.invalid.repr ++ " with syntax errors"

end CheckSummary

end FluentStyle
