import TapeMachine.Stream

/-!
# File trees

Files and directories below a root, a working directory among them, and how a path is followed to one of them: from the
root if it begins with a slash, and otherwise from the working directory.  Every name of a path but the last must lead
to a directory.  An empty name and `.` stay where they are, and so does `..` at the root.
-/

namespace TapeMachine

inductive Entry
  | directory
  | file (contents : ByteArray)

instance : DecidableEq Entry
  | .directory, .directory => .isTrue rfl
  | .directory, .file _ => .isFalse nofun
  | .file _, .directory => .isFalse nofun
  | .file contents, .file contents' =>
    have := ByteArray.instDecidableEq contents contents'
    decidable_of_iff (contents = contents') (Entry.file.injEq contents contents' ▸ Iff.rfl)

/-- Where something is: the names on the way from the root. -/
abbrev Place := List String

structure FileTree where
  /-- The directories on the way to an entry are there too. -/
  entries : List (Place × Entry) := []
  /-- The working directory.  It is there, and so are the directories on the way to it. -/
  here : Place := []

namespace FileTree

/-- The entry at a place. -/
def entry? (tree : FileTree) (place : Place) : Option Entry :=
  match tree.entries.find? fun (other, _) => other == place with
  | some (_, entry) => some entry
  | none =>
    if (tree.here :: tree.entries.map Prod.fst).any place.isPrefixOf then some .directory else none

/-- The longest name of a file, in bytes. -/
def maxNameLength : Nat := 255

/-- The least length of a path, in bytes, that is too long. -/
def pathCapacity : Nat := 4096

/-- Follows one name of a path. -/
def follow (tree : FileTree) (place : Place) (name : String) : Except IoError Place :=
  if tree.entry? place != some .directory then .error .notDirectory
  else if name == "" || name == "." then .ok place
  else if name == ".." then .ok place.dropLast
  else if maxNameLength < name.utf8ByteSize then .error .nameTooLong
  else if (tree.entry? (place ++ [name])).isSome then .ok (place ++ [name])
  else .error .notFound

def resolve (tree : FileTree) (path : String) : Except IoError Place :=
  if path.toList.contains '\x00' then .error .nulInName
  else if path.isEmpty then .error .notFound
  else if pathCapacity ≤ path.utf8ByteSize then .error .nameTooLong
  else (path.splitOn "/").foldlM tree.follow (if path.startsWith "/" then [] else tree.here)

/-- The bytes of the file that a path leads to.  A directory can be opened but not read. -/
def contents (tree : FileTree) (path : String) : Except IoError ByteArray :=
  match tree.resolve path with
  | .error cause => .error cause
  | .ok place =>
    match tree.entry? place with
    | some (.file bytes) => .ok bytes
    | some .directory => .error .isDirectory
    | none => .error .notFound

end FileTree

end TapeMachine
