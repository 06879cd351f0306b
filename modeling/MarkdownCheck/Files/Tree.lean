import MarkdownCheck.Files.Path
import MarkdownCheck.Files.Utf8

/-!
# Trees of files

- `FileTree`: files and directories by their names.
- `FileTree.at?`, `FileTree.put`, `FileTree.erase`: what stands at a place, and how to change it.
- `FileTree.locate`: the place that a path leads to, followed name by name.
- `FileFailure`: why a path leads nowhere, with `FileFailure.message`.
-/

namespace MarkdownCheck

/-- A file or a directory. -/
inductive FileTree where
  | file (bytes : List UInt8)
  | directory (entries : List (Text × FileTree))
deriving Inhabited

namespace FileTree

/-- What stands in a directory under a name. -/
def child? (tree : FileTree) (name : Text) : Option FileTree :=
  match tree with
  | .file _ => none
  | .directory entries => entries.lookup name

/-- What stands at a place. -/
def at? (tree : FileTree) : Location → Option FileTree
  | [] => some tree
  | name :: rest => (tree.child? name).bind (·.at? rest)

/-- Whether something is a directory. -/
def isDirectory : FileTree → Bool
  | .directory _ => true
  | .file _ => false

/-- Entries with the one under a name replaced or added. -/
def setEntry (name : Text) (new : FileTree) : List (Text × FileTree) → List (Text × FileTree)
  | [] => [(name, new)]
  | (known, old) :: rest =>
    if known = name then (known, new) :: rest else (known, old) :: setEntry name new rest

/-- A tree with something put at a place. Directories on the way are made; a file on the way stays
and nothing is put. -/
def put : Location → FileTree → (new : FileTree) → FileTree
  | [], _, new => new
  | _ :: _, .file bytes, _ => .file bytes
  | name :: rest, .directory entries, new =>
    let old := (entries.lookup name).getD (.directory [])
    .directory (setEntry name (put rest old new) entries)

/-- A tree with a directory at a place, if nothing stands there. -/
def makeDirectory (place : Location) (tree : FileTree) : FileTree :=
  if (tree.at? place).isSome then tree else tree.put place (.directory [])

/-- A tree without what stands at a place. -/
def erase : Location → FileTree → FileTree
  | [], tree => tree
  | _, .file bytes => .file bytes
  | [name], .directory entries => .directory (entries.filter (·.1 ≠ name))
  | name :: rest, .directory entries =>
    match entries.lookup name with
    | some old => .directory (setEntry name (erase rest old) entries)
    | none => .directory entries

end FileTree

/-! ## Following paths -/

/-- Why a path leads nowhere or to the wrong kind of thing. -/
inductive FileCause where
  | missing
  | notDirectory
  | isDirectory
  | nameTooLong
  /-- The path holds a null character. -/
  | holdsNull
deriving DecidableEq, Repr

/-- A path with the reason why it cannot be used. -/
structure FileFailure where
  cause : FileCause
  path : Text
deriving DecidableEq, Repr

/-- The number and the words that the operating system has for a cause. -/
def FileCause.description : FileCause → Nat × String
  | .missing => (2, "No such file or directory")
  | .notDirectory => (20, "Not a directory")
  | .isDirectory => (21, "Is a directory")
  | .nameTooLong => (36, "File name too long")
  | .holdsNull => (22, "Invalid argument")

/-- A failure in words. -/
def FileFailure.message (failure : FileFailure) : Text :=
  match failure.cause with
  | .holdsNull => "embedded null byte".toList
  | cause =>
    let (number, words) := cause.description
    "[Errno ".toList ++ Text.ofNat number ++ "] ".toList ++ words.toList ++ ": ".toList
      ++ failure.path.quoted

/-- The longest name in bytes. -/
def longestName : Nat := 255

/-- The longest path in bytes. -/
def longestPath : Nat := 4095

namespace FileTree

/-- Takes one step from a place. Only a directory can be left, even by an empty name. -/
def step (tree : FileTree) (place : Location) (name : Text) : Except FileCause Location :=
  match tree.at? place with
  | none => .error .missing
  | some here =>
    if !here.isDirectory then .error .notDirectory
    else if name.isEmpty || name = ['.'] then .ok place
    else if name = ['.', '.'] then .ok place.dropLast
    else if longestName < Utf8.size name then .error .nameTooLong
    else if (here.child? name).isSome then .ok (place ++ [name])
    else .error .missing

/-- Takes several steps. -/
def walk (tree : FileTree) (place : Location) : List Text → Except FileCause Location
  | [] => .ok place
  | name :: rest => do
    let next ← tree.step place name
    tree.walk next rest

/-- The place that a path leads to from a directory. Something stands there. -/
def locate (tree : FileTree) (start : Location) (path : Text) : Except FileCause Location :=
  if path.contains '\x00' then .error .holdsNull
  else if path.isEmpty then .error .missing
  else if longestPath < Utf8.size path then .error .nameTooLong
  else tree.walk (if path.head? = some '/' then [] else start) (Text.splitAt '/' path)

end FileTree

end MarkdownCheck
