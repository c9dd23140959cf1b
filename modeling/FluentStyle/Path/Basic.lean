import FluentStyle.Text.Split

/-!
# Paths

A path is the text that names a file or directory.  Two spellings that differ by repeated or final
slashes, or by dots in the middle, are one path; a dot at the start tells paths apart.
-/

namespace FluentStyle.Path

/-!
# Steps of a path

The parts of a path are what stands between its slashes, which may be nothing.  Its steps tell it
from other paths: whether it starts at the root, and the parts, of which the first may be a dot.
-/

def parts (path : String) : List String :=
  (Text.splitOn '/' path.toList).map String.ofList

def isAbsolute (path : String) : Bool :=
  path.toList.head? = some '/'

/-- A step of a path; the steps are in the order in which they sort. -/
inductive Step where
  | root
  | here
  | up
  | down (name : String)
deriving DecidableEq, Repr

namespace Step

def rank : Step → Nat
  | .root => 0
  | .here => 1
  | .up => 2
  | .down _ => 3

def before : Step → Step → Bool
  | .down a, .down b => a < b
  | a, b => a.rank < b.rank

end Step

def laterSteps (parts : List String) : List Step :=
  parts.filterMap fun part =>
    if part = "" || part = "." then none else if part = ".." then some .up else some (.down part)

def steps (path : String) : List Step :=
  match parts path with
  | [] => []
  | "" :: rest => if path = "" then [] else .root :: laterSteps rest
  | "." :: rest => .here :: laterSteps rest
  | first :: rest => laterSteps (first :: rest)

/-!
# Order

Paths are sorted by their steps, and neighbours that are one path are taken together.
-/

def notAfter : List Step → List Step → Bool
  | [], _ => true
  | _ :: _, [] => false
  | a :: as, b :: bs => a.before b || (a = b && notAfter as bs)

/-- The first of each run of neighbours that are one path. -/
def dropRepeats : List String → List String
  | [] => []
  | path :: rest =>
      match dropRepeats rest with
      | [] => [path]
      | next :: others =>
          if steps path = steps next then path :: others else path :: next :: others

def distinct (paths : List String) : List String :=
  dropRepeats (paths.mergeSort fun a b => notAfter (steps a) (steps b))

/-!
# Places

A path leads from a place to another one, part by part.  One that starts at the root leads to the
same place from everywhere.
-/

def start (place : List String) (path : String) : List String :=
  if isAbsolute path then [] else place

def next (place : List String) (part : String) : List String :=
  if part = "" || part = "." then place
  else if part = ".." then place.dropLast
  else place ++ [part]

/-- The places on the way of the parts of a path, from the first place to the last. -/
def wayOf (place : List String) : List String → List (List String)
  | [] => [place]
  | part :: rest => place :: wayOf (next place part) rest

def join (directory name : String) : String :=
  if directory.toList.getLast? = some '/' then directory ++ name else directory ++ "/" ++ name

end FluentStyle.Path
