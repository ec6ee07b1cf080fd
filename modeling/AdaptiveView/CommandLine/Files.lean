/-!
# Files under their paths

A path is followed from left to right: a dot stays where it is, two dots go back to the directory
around, and a name goes on to what stands under it.  Only a directory can be gone on from, whatever
comes next; that is why a path may fail although a shorter way leads to a file.
-/

set_option autoImplicit false

namespace AdaptiveView.CommandLine

/-- Why there is no text under a path. -/
inductive FileError where
  | missing
  /-- Something on the way is a file. -/
  | notDirectory
  /-- The path ends at a directory. -/
  | isDirectory
  | nameTooLong
  /-- The system gives another reason. -/
  | other (reason : String)
  deriving DecidableEq, Repr

def FileError.message : FileError → String
  | .missing => "No such file or directory (os error 2)"
  | .notDirectory => "Not a directory (os error 20)"
  | .isDirectory => "Is a directory (os error 21)"
  | .nameTooLong => "File name too long (os error 36)"
  | .other reason => reason

/-- What can be read under each path. -/
abbrev Files := String → Except FileError String

/-- Files in directories.  A place is given by the names that lead to it from the root. -/
structure FileTree where
  files : List (List String × String)
  /-- The directory from which paths are followed. -/
  here : List String

namespace FileTree

/-- Every directory lies on the way to a file or to where one stands. -/
def isDirectory (tree : FileTree) (place : List String) : Bool :=
  (tree.here :: tree.files.map (·.1.dropLast)).any place.isPrefixOf

/-- Why nothing can be gone on to from a place that is no directory. -/
def blockage (tree : FileTree) (place : List String) : FileError :=
  if (tree.files.lookup place).isSome then .notDirectory else .missing

/-- The longest name and the longest path that a system takes, in bytes. -/
def nameLimit : Nat := 255

@[inherit_doc nameLimit]
def pathLimit : Nat := 4095

def follow (tree : FileTree) (place : List String) : List String → Except FileError (List String)
  | [] => .ok place
  | name :: rest =>
      if !tree.isDirectory place then .error (tree.blockage place)
      else if nameLimit < name.utf8ByteSize then .error .nameTooLong
      else if name = "" ∨ name = "." then tree.follow place rest
      else if name = ".." then tree.follow place.dropLast rest
      else tree.follow (place ++ [name]) rest

def read (tree : FileTree) : Files := fun path => do
  if pathLimit < path.utf8ByteSize then throw .nameTooLong
  let start := if path.startsWith "/" then [] else tree.here
  let place ← tree.follow start (path.splitOn "/")
  match tree.files.lookup place with
  | some text => return text
  | none => throw (if tree.isDirectory place then .isDirectory else .missing)

end FileTree

end AdaptiveView.CommandLine
