import FluentStyle.Path.Directory
import FluentStyle.Path.Wildcard
import FluentStyle.Text.Letter

/-!
# Ignored files

A directory may hold a list of patterns for the files below it that are not to be looked at.  The
last pattern of a list that stands for a file decides; of several lists the one in the nearest
directory does.
-/

namespace FluentStyle

/-!
# Lines of a list

Blanks at the end of a line do not count unless a backslash stands before the last of them.  A
pattern without a slash stands for names in every directory below; one that ends in two stars stands
for what is below a directory, but not for the directory.
-/

structure IgnoreRule where
  /-- The patterns of the names on the way from the list; `none` is any number of names. -/
  names : List (Option Wildcard)
  /-- Whether only directories are meant. -/
  foldersOnly : Bool
  /-- Whether what the patterns stand for is looked at after all. -/
  isException : Bool
deriving DecidableEq, Repr

namespace IgnoreRule

/-- Reads the pattern of a single name, in which a backslash takes the meaning from the character
after it. -/
def readName? (text : List Char) : Option (List WildcardPart) :=
  match text with
  | [] => some []
  | ['\\'] => none
  | '\\' :: c :: rest => (readName? rest).map (.char c :: ·)
  | '?' :: rest => (readName? rest).map (.anyChar :: ·)
  | '*' :: rest => (readName? rest).map (.anyText :: ·)
  | ['['] => none
  | '[' :: c :: rest =>
      if c = '!' ∨ c = '^' then
        match rest with
        | [] => none
        | first :: rest =>
            match _split : Wildcard.splitAtBracket rest with
            | some (others, more) =>
                (readName? more).map (.noneOf (Wildcard.ranges (first :: others)) :: ·)
            | none => none
      else
        match _split : Wildcard.splitAtBracket rest with
        | some (others, more) =>
            (readName? more).map (.oneOf (Wildcard.ranges (c :: others)) :: ·)
        | none => none
  | c :: rest => (readName? rest).map (.char c :: ·)
termination_by text.length
decreasing_by
  all_goals simp only [List.length_cons]
  all_goals try omega
  · have := Wildcard.length_of_splitAtBracket _split
    omega
  · have := Wildcard.length_of_splitAtBracket _split
    omega

def readNames? (text : List Char) : Option (List (Option Wildcard)) :=
  (Text.splitOn '/' text).mapM fun name =>
    if name = ['*', '*'] then some none else (readName? name).map fun parts => some ⟨parts⟩

/-- The line without the blanks at its end, unless the last of them follows a backslash. -/
def trim (line : List Char) : List Char :=
  if Text.endsWith ['\\', ' '] line then line else Text.trimEndWhile Text.isBlank line

/-- Reads a pattern whose marks in front have been taken off.  One without a slash stands for names
in every directory below; one that ends in two stars stands for what is below a directory, not for
the directory. -/
def readPattern? (isException anchored : Bool) (text : List Char) : Option IgnoreRule :=
  let foldersOnly := text.getLast? = some '/'
  let text := if foldersOnly then text.dropLast else text
  let text := if foldersOnly && text.getLast? = some '\\' then text.dropLast else text
  (readNames? text).map fun names =>
    let names := if !anchored && names.length = 1 && names ≠ [none] then none :: names else names
    let names :=
      if 2 ≤ names.length && names.getLast? = some none then names ++ [some ⟨[.anyText]⟩] else names
    ⟨names, foldersOnly, isException⟩

/-- Reads a line; comments, empty lines and lines that cannot be read stand for nothing. -/
def ofLine? (line : List Char) : Option IgnoreRule :=
  if line.head? = some '#' then none
  else
    match trim line with
    | [] => none
    | '\\' :: '!' :: rest => readPattern? false false ('!' :: rest)
    | '\\' :: '#' :: rest => readPattern? false false ('#' :: rest)
    | '!' :: '/' :: rest => readPattern? true true rest
    | '!' :: rest => readPattern? true false rest
    | '/' :: rest => readPattern? false true rest
    | text => readPattern? false false text

/-!
# What a list says

The last pattern that stands for a file says whether it is ignored.
-/

def matchNames : List (Option Wildcard) → List String → Bool
  | [], names => names.isEmpty
  | none :: rest, names =>
      (List.range (names.length + 1)).any fun n => matchNames rest (names.drop n)
  | some _ :: _, [] => false
  | some pattern :: rest, name :: names => pattern.isMatch name && matchNames rest names

def isMatch (rule : IgnoreRule) (names : List String) (isFolder : Bool) : Bool :=
  (isFolder || !rule.foldersOnly) && matchNames rule.names names

/-- What a list says about what has the names: whether it is ignored, if anything. -/
def decide? (rules : List IgnoreRule) (names : List String) (isFolder : Bool) : Option Bool :=
  (rules.reverse.find? (·.isMatch names isFolder)).map (!·.isException)

end IgnoreRule

namespace Directory

/-!
# Lists in directories

Lists of a repository count only inside of it.
-/

def ignoreRules (directory : Directory) (place : List String) (name : List String) :
    List IgnoreRule :=
  match directory.find (place ++ name) with
  | .file text => (Text.lines text.toList).filterMap IgnoreRule.ofLine?
  | _ => []

def ancestors (place : List String) : List (List String) :=
  (List.range (place.length + 1)).map fun n => place.take (place.length - n)

def decide? (directory : Directory) (name entry : List String) (isFolder : Bool)
    (places : List (List String)) : Option Bool :=
  places.findSome? fun place =>
    IgnoreRule.decide? (directory.ignoreRules place name) (entry.drop place.length) isFolder

def isRepository (directory : Directory) (place : List String) : Bool :=
  match directory.find (place ++ [".git"]) with
  | .folder | .file _ => true
  | .missing | .blocked => false

def withinRepository (directory : Directory) (places : List (List String)) :
    List (List String) :=
  match places.findIdx? directory.isRepository with
  | some n => places.take (n + 1)
  | none => []

/-- Whether what is in a place is ignored.  The lists of a repository count within it only, and
after all others. -/
def isIgnored (directory : Directory) (entry : List String) (isFolder : Bool) : Bool :=
  let places := ancestors entry.dropLast
  let inside := directory.withinRepository places
  let decision := (directory.decide? [".ignore"] entry isFolder places).or <|
    (directory.decide? [".gitignore"] entry isFolder inside).or <|
      directory.decide? [".git", "info", "exclude"] entry isFolder inside
  decision.getD false

/-- The files below a place that are not ignored, by the names on the way to them from there. -/
def filesBelow (directory : Directory) (place : List String) : List (List String) :=
  let below := directory.files.filterMap fun (name, _) =>
    if place.isPrefixOf name && place.length < name.length then some (name.drop place.length)
    else none
  below.filter fun names =>
    (List.range names.length).all fun n =>
      !directory.isIgnored (place ++ names.take (n + 1)) (n + 1 < names.length)

end Directory

end FluentStyle
