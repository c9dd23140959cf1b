import FluentStyle.Restyle.Outcome

/-!
# Arguments

A command is asked for by its name, followed by its inputs and by options, which have two hyphens in
front.  Some options are on or off, others have a value, which follows after an equals sign or as
the next argument.  Each may be given once.  After two hyphens alone everything is an input.
-/

namespace FluentStyle

/-!
# Commands
-/

structure CatalogOptions where
  /-- The path of the catalog; without it the usual places are looked at. -/
  path : Option String
  maxPasses : Nat
deriving DecidableEq, Repr

inductive Command where
  /-- Restyle a fragment. -/
  | restyle (options : CatalogOptions) (asJson : Bool) (input : String)
  /-- Tell which files are not in canonical style, and change them if that is wanted. -/
  | check (options : CatalogOptions) (write : Bool) (pattern : String) (paths : List String)
  /-- Show a catalog. -/
  | validate (path : Option String)
  /-- Restyle a fragment with a single rule. -/
  | test (options : CatalogOptions) (rule input : String)
  /-- Show how a fragment is read. -/
  | tree (options : CatalogOptions) (input : String)
deriving DecidableEq, Repr

/-!
# Telling arguments apart

An option may have its value behind an equals sign.  A hyphen alone is an input.
-/

inductive ArgumentForm where
  | input
  | endOfOptions
  | option (name : String) (value : Option String)
  /-- A hyphen in front of something that is no option. -/
  | unknown
deriving DecidableEq, Repr

def ArgumentForm.of (argument : String) : ArgumentForm :=
  match argument.toList with
  | ['-'] => .input
  | ['-', '-'] => .endOfOptions
  | '-' :: '-' :: text =>
      match text.span (· ≠ '=') with
      | (name, []) => .option (String.ofList name) none
      | (name, _ :: value) => .option (String.ofList name) (some (String.ofList value))
  | '-' :: _ => .unknown
  | _ => .input

/-- The arguments of a command, told apart. -/
structure Arguments where
  switches : List String
  values : List (String × String)
  inputs : List String
deriving DecidableEq, Repr

namespace Arguments

def addSwitch? (name : String) (arguments : Arguments) : Option Arguments :=
  if arguments.switches.contains name then none
  else some { arguments with switches := name :: arguments.switches }

def addValue? (name value : String) (arguments : Arguments) : Option Arguments :=
  if (arguments.values.lookup name).isSome then none
  else some { arguments with values := (name, value) :: arguments.values }

def addInput (input : String) (arguments : Arguments) : Arguments :=
  { arguments with inputs := input :: arguments.inputs }

/-- Tells apart the arguments of a command that has some options without a value and some with one.
-/
def read? (switches options : List String) : List String → Option Arguments
  | [] => some ⟨[], [], []⟩
  | argument :: rest =>
      match ArgumentForm.of argument with
      | .input => (read? switches options rest).map (addInput argument)
      | .endOfOptions => some ⟨[], [], rest⟩
      | .unknown => none
      | .option name (some value) =>
          if options.contains name then (read? switches options rest).bind (addValue? name value)
          else none
      | .option name none =>
          if switches.contains name then (read? switches options rest).bind (addSwitch? name)
          else if options.contains name then
            match rest with
            | [] => none
            | value :: others =>
                if ArgumentForm.of value = .input then
                  (read? switches options others).bind (addValue? name value)
                else none
          else none

/-!
# Options and inputs

A number of passes is written with decimal digits, with or without a plus sign in front, and has to
fit into a word.  The path of a file cannot be empty.  Where no path of a catalog is given, the one
in the environment counts.
-/

def has (arguments : Arguments) (name : String) : Bool :=
  arguments.switches.contains name

def value? (arguments : Arguments) (name : String) : Option String :=
  arguments.values.lookup name

def input? (arguments : Arguments) : Option String :=
  match arguments.inputs with
  | [input] => some input
  | _ => none

/-- Reads a number of passes, which has to fit into a word: decimal digits, with or without a plus
sign in front. -/
def readCount? (text : String) : Option Nat :=
  let digits := match text.toList with
    | '+' :: rest => rest
    | all => all
  if digits.isEmpty || !digits.all Char.isDigit then none
  else
    let count := digits.foldl (fun n c => 10 * n + (c.toNat - '0'.toNat)) 0
    if count < UInt64.size then some count else none

def readPath? (text : String) : Option String :=
  if text = "" then none else some text

def catalogOptionNames : List String :=
  ["config", "max-passes"]

def catalogOptions? (arguments : Arguments) (environmentPath : Option String) :
    Option CatalogOptions := do
  let path ← ((arguments.value? "config").or environmentPath).mapM readPath?
  let maxPasses ← match arguments.value? "max-passes" with
    | some text => readCount? text
    | none => some Catalog.defaultMaxPasses
  return { path, maxPasses }

end Arguments

namespace Command

/-!
# Commands from arguments
-/

def defaultPattern : String :=
  "*.chain.php"

open Arguments

def ofArguments? (environmentPath : Option String) : List String → Option Command
  | "rewrite" :: rest => do
      let arguments ← read? ["json"] catalogOptionNames rest
      let options ← arguments.catalogOptions? environmentPath
      return .restyle options (arguments.has "json") (← arguments.input?)
  | "check" :: rest => do
      let arguments ← read? ["write"] ("pattern" :: catalogOptionNames) rest
      let options ← arguments.catalogOptions? environmentPath
      let pattern := (arguments.value? "pattern").getD defaultPattern
      return .check options (arguments.has "write") pattern (← arguments.inputs.mapM readPath?)
  | "validate" :: rest => do
      let arguments ← read? [] [] rest
      match arguments.inputs with
      | [] => return .validate none
      | [path] => return .validate (some (← readPath? path))
      | _ => none
  | "test" :: rest => do
      let arguments ← read? [] ("rule" :: catalogOptionNames) rest
      let options ← arguments.catalogOptions? environmentPath
      return .test options (← arguments.value? "rule") (← arguments.input?)
  | "tree" :: rest => do
      let arguments ← read? [] catalogOptionNames rest
      let options ← arguments.catalogOptions? environmentPath
      return .tree options (← arguments.input?)
  | _ => none

end Command

end FluentStyle
