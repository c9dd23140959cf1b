import FluentStyle.Path.Basic

/-!
# Directories

What is known of the file system: the texts of files by the names on the way to them from the root,
and directories.  A directory is there as well if a file is below it.
-/

namespace FluentStyle

/-- The files and directories of a file system. -/
structure Directory where
  files : List (List String × String)
  folders : List (List String)

inductive Found where
  | missing
  /-- A file where there should be a directory on the way. -/
  | blocked
  | folder
  | file (text : String)
deriving DecidableEq, Repr

namespace Directory

def isFolder (directory : Directory) (place : List String) : Bool :=
  place = [] || directory.folders.contains place ||
    directory.files.any fun (name, _) => place.isPrefixOf name && place.length < name.length

def find (directory : Directory) (place : List String) : Found :=
  match directory.files.lookup place with
  | some text => .file text
  | none => if directory.isFolder place then .folder else .missing

def follow (directory : Directory) (place : List String) : List String → Found × List String
  | [] => (directory.find place, place)
  | part :: rest =>
      match directory.find place with
      | .folder => directory.follow (Path.next place part) rest
      | .file _ => (.blocked, place)
      | other => (other, place)

def look (directory : Directory) (place : List String) (path : String) : Found × List String :=
  if path = "" then (.missing, place)
  else directory.follow (Path.start place path) (Path.parts path)

end Directory

end FluentStyle
