/-!
# Playbook.CommandLine.Directory

What is found under the names of files, and directories that are kept in memory.

A path is followed name by name.  Each name, also an empty one and one that
stays where it is, has to be looked up in a folder; so a path that ends with a
slash never leads to a file.
-/

namespace Playbook.CommandLine

/-- What is found under the name of a file. -/
inductive Finding where
  | missing
  /-- There is something, but it is not a text. -/
  | unreadable
  | text (t : List Char)

/-- What is found under every name. -/
abbrev Files := String → Finding

/-- The files in a directory and in its folders, each with its path, name by
name. -/
structure Directory where
  files : List (List String × List Char)

namespace Directory

/-- The directory with some files.  If two of them have the same path the later
one counts. -/
def ofFiles (files : List (String × List Char)) : Directory where
  files := files.reverse.map fun (name, text) =>
    ((name.splitOn "/").filter fun part => part ≠ "" ∧ part ≠ ".", text)

/-- The files outside that every program finds. -/
def system : Directory := ofFiles [("dev/null", [])]

/-- Whether there is a folder at a place: the directory itself, or what has a
file below it. -/
def isFolder (d : Directory) (place : List String) : Bool :=
  place = [] || d.files.any fun f => place.isPrefixOf f.1 && place ≠ f.1

/-- Go on from a place by one name.  Two points lead back, but not out of the
directory. -/
def follow (d : Directory) (place : List String) (name : String) : Option (List String) :=
  if !d.isFolder place then none
  else if name = "" ∨ name = "." then some place
  else if name = ".." then if place = [] then none else some place.dropLast
  else some (place ++ [name])

/-- What is found at the end of a path in a directory. -/
def findFrom (d : Directory) (path : List String) : Finding :=
  match path.foldlM d.follow [] with
  | none => .missing
  | some place =>
    match d.files.lookup place with
    | some text => .text text
    | none => if d.isFolder place then .unreadable else .missing

/-- What is found under a name; one that begins with a slash is looked up
outside. -/
def find (d : Directory) (name : String) : Finding :=
  match name.splitOn "/" with
  | "" :: path@(_ :: _) => system.findFrom path
  | path => d.findFrom path

end Directory

end Playbook.CommandLine
