import TimedMachines.Text.Split

/-!
# Files

A tree of files and directories as a program sees it: from the directory
it works in, by paths of names between slashes. Looking up a path walks
through the tree name by name, so that of two things that are wrong with
a path the one further to the left is reported. A directory can be found
like a file, but not read.
-/

namespace TimedMachines

/-- **Why a file cannot be read.** -/
inductive FileError where
  /-- Nothing has this name. -/
  | notFound
  /-- A name was looked up in a file. -/
  | notDirectory
  /-- What has this name is a directory. -/
  | isDirectory
  /-- A name or a path is longer than any can be. -/
  | nameTooLong
deriving DecidableEq, Repr

/-- The wording of an error, with its number. -/
def FileError.message : FileError → String
  | .notFound => "No such file or directory (os error 2)"
  | .notDirectory => "Not a directory (os error 20)"
  | .isDirectory => "Is a directory (os error 21)"
  | .nameTooLong => "File name too long (os error 36)"

/-- The most bytes in a name. -/
def maxNameSize : Nat := 255

/-- The most bytes in a path. -/
def maxPathSize : Nat := 4095

/-- **A tree of files.** -/
inductive FileTree where
  /-- A file with its bytes. -/
  | file (content : List UInt8)
  /-- A directory with its entries, by name. -/
  | directory (entries : List (String × FileTree))

/-- **A place in a tree**: what is there, and the directories above it,
the nearest first. -/
structure FilePlace where
  /-- What is there. -/
  node : FileTree
  /-- The directories above. -/
  above : List FileTree

namespace FilePlace

/-- The directory above all others. -/
def root (place : FilePlace) : FilePlace :=
  ⟨place.above.getLast?.getD place.node, []⟩

/-- The place above, which for the root is the root itself. -/
def parent (place : FilePlace) : FilePlace :=
  match place.above with
  | [] => place
  | directory :: above => ⟨directory, above⟩

/-- The place that a name leads to. -/
def enter (place : FilePlace) (name : String) : Except FileError FilePlace :=
  match place.node with
  | .file _ => .error .notDirectory
  | .directory entries =>
    if name = "" ∨ name = "." then .ok place
    else if name = ".." then .ok place.parent
    else if maxNameSize < name.utf8ByteSize then .error .nameTooLong
    else
      match entries.lookup name with
      | some node => .ok ⟨node, place.node :: place.above⟩
      | none => .error .notFound

/-- The place that a path leads to. A path that begins with a slash starts
at the root. -/
def find (place : FilePlace) (path : String) : Except FileError FilePlace :=
  if path = "" then .error .notFound
  else if maxPathSize < path.utf8ByteSize then .error .nameTooLong
  else
    let start := if path.startsWith "/" then place.root else place
    ((Text.split '/' path.toList).map String.ofList).foldlM enter start

/-- **The bytes of the file that a path leads to.** -/
def read (place : FilePlace) (path : String) : Except FileError (List UInt8) :=
  match place.find path with
  | .error e => .error e
  | .ok found =>
    match found.node with
    | .file content => .ok content
    | .directory _ => .error .isDirectory

end FilePlace

end TimedMachines
