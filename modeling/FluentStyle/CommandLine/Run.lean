import FluentStyle.Catalog.Encode
import FluentStyle.CommandLine.Arguments
import FluentStyle.CommandLine.Check
import FluentStyle.CommandLine.Listing
import FluentStyle.Data.Json
import FluentStyle.Yaml.Printer

/-!
# Running a command

What a command writes to its output, to its error output and to files, given what is around it.
-/

namespace FluentStyle

/-!
# Reports and failures
-/

/-- What a command comes to. -/
structure Report where
  succeeded : Bool
  output : String
  errors : String
  /-- The places of files with their new texts. -/
  written : List (List String × String)
deriving DecidableEq, Repr

/-- Why a command cannot be run. -/
inductive Failure where
  | catalog
  | unknownRule (id : String)
  | fileNamePattern (text : String)
  | pathPattern (text : String)
deriving DecidableEq, Repr

namespace Failure

def message : Failure → String
  | .catalog => "load catalog"
  | .unknownRule id => "Rule '" ++ id ++ "' not found"
  | .fileNamePattern text => "invalid file name pattern: " ++ text
  | .pathPattern text => "invalid glob pattern: " ++ text

end Failure

namespace Report

def lines (lines : List String) : String :=
  String.join (lines.map (· ++ "\n"))

def ofLines (output : List String) : Report :=
  ⟨true, lines output, "", []⟩

end Report

/-!
# Results as data
-/

def Warning.toData (warning : Warning) : Data :=
  let kind := match warning with
    | .advisory _ _ => "Advisory"
    | .rejected _ _ => "Rejected"
    | .passLimit _ => "PassLimit"
  .mapping <|
    [("kind", Data.text kind)] ++ (warning.rule?.map fun rule => ("rule", Data.text rule)).toList ++
      [("message", .text warning.message)]

def Outcome.toData (outcome : Outcome) : Data :=
  .mapping [
    ("text", .text outcome.text),
    ("applied", .texts outcome.applied),
    ("rejected", .texts outcome.rejected),
    ("warnings", .sequence (outcome.warnings.map Warning.toData)),
    ("passes", .int outcome.passes)]

def SyntaxError.toData (error : SyntaxError) (source : String) : Data :=
  .mapping [
    ("text", .text source),
    ("error", .mapping [
      ("position", .int error.position),
      ("reason", .text error.reason.message)])]

namespace Command

/-!
# Commands

A fragment that cannot be read is given back as it is.  A check puts the files into canonical style
if that is wanted, and a test restyles with a single rule.
-/

def loadCatalog (around : Surroundings) (path : Option String) : Except Failure LoadedCatalog :=
  match LoadedCatalog.find? around path with
  | some loaded => .ok loaded
  | none => .error .catalog

def runRestyle (around : Surroundings) (options : CatalogOptions) (asJson : Bool)
    (input : String) : Except Failure Report := do
  let loaded ← loadCatalog around options.path
  let source := around.inputText input
  match loaded.catalog.restyle options.maxPasses source with
  | .error error =>
      if asJson then return ⟨false, Report.lines [Json.render (error.toData source)], "", []⟩
      else return ⟨false, Report.lines [source], Report.lines [error.render source], []⟩
  | .ok outcome =>
      if asJson then return Report.ofLines [Json.render outcome.toData]
      else return ⟨true, Report.lines [outcome.text], Report.lines outcome.log, []⟩

def runCheck (around : Surroundings) (options : CatalogOptions) (write : Bool) (pattern : String)
    (paths : List String) : Except Failure Report := do
  let loaded ← loadCatalog around options.path
  let wildcard ← match Wildcard.parse? pattern with
    | some wildcard => pure wildcard
    | none => throw (.fileNamePattern pattern)
  let paths ← (around.filesToCheck wildcard paths).mapError .pathPattern
  let files := around.check loaded.catalog options.maxPasses paths
  let summary := CheckSummary.ofFiles files
  return {
    succeeded := summary.isGood write
    output := Report.lines (files.flatMap (·.lines write) ++ [summary.line write loaded.origin])
    errors := ""
    written := if write then
        files.filterMap fun file => file.newText?.map (around.place file.path, ·)
      else [] }

def runValidate (around : Surroundings) (path : Option String) : Except Failure Report := do
  let loaded ← loadCatalog around path
  let rules := loaded.catalog.byPrecedence.map fun rule =>
    "  - " ++ rule.id ++ " [priority " ++ rule.priority.repr ++ "]" ++
      if rule.isAdvisory then " (advisory)" else ""
  return Report.ofLines <|
    [Text.heading "Catalog:" ++ " " ++ loaded.origin, Text.heading "Rules by precedence:"] ++
      rules ++ ["------", Yaml.render loaded.catalog.config.toData]

def runTest (around : Surroundings) (options : CatalogOptions) (rule input : String) :
    Except Failure Report := do
  let loaded ← loadCatalog around options.path
  let catalog ← match loaded.catalog.only? rule with
    | some catalog => pure catalog
    | none => throw (.unknownRule rule)
  let source := around.inputText input
  let opening := ["Rule: " ++ rule, ""]
  match catalog.restyle options.maxPasses source with
  | .error error =>
      return Report.ofLines (opening ++ ["Result: Syntax error", "", error.render source])
  | .ok outcome =>
      let result :=
        if outcome.isChanged then ["Result: Rewritten"]
        else ["Result: Unchanged", "The rule did not rewrite the provided input."]
      let log := if outcome.log.isEmpty then [] else "" :: outcome.log
      return Report.ofLines (opening ++ result ++ ["", outcome.text] ++ log)

def runTree (around : Surroundings) (options : CatalogOptions) (input : String) :
    Except Failure Report := do
  let loaded ← loadCatalog around options.path
  let source := around.inputText input
  match Fragment.parse source with
  | .error error => return Report.ofLines [error.render source]
  | .ok fragment => return Report.ofLines (fragment.listing loaded.catalog.style)

def run (around : Surroundings) : Command → Except Failure Report
  | .restyle options asJson input => runRestyle around options asJson input
  | .check options write pattern paths => runCheck around options write pattern paths
  | .validate path => runValidate around path
  | .test options rule input => runTest around options rule input
  | .tree options input => runTree around options input

def paths : Command → List String
  | .restyle options _ input => input :: options.path.toList
  | .check options _ _ _ => options.path.toList
  | .validate path => path.toList
  | .test options _ input => input :: options.path.toList
  | .tree options input => input :: options.path.toList

def folders : Command → List String
  | .check _ _ _ [] => ["."]
  | .check _ _ _ paths => paths.map fun path => if Path.hasWildcard path then "." else path
  | .restyle .. | .validate _ | .test .. | .tree .. => []

end Command

end FluentStyle
