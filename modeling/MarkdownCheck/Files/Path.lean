import MarkdownCheck.Text.CaseBlind

/-!
# Paths

- `Path`: a path by its names, with the number of slashes before them.
- `Path.ofText`, `Path.shown`: a path and its text. Doubled slashes and single dots vanish.
- `Path.suffix`: the extension of the last name, with its dot.
-/

namespace MarkdownCheck

/-- The names of a place in a tree of files, from the root down. -/
abbrev Location := List Text

/-- A path. -/
structure Path where
  /-- The number of slashes that start it: none, one, or two. -/
  slashes : Nat
  /-- Its names, none of them empty or a single dot. -/
  names : List Text
deriving DecidableEq, Repr

namespace Path

/-- The path that a text stands for. Three slashes or more at the start are one. -/
def ofText (text : Text) : Path where
  slashes :=
    let count := (text.takeWhile (· = '/')).length
    if count ≤ 2 then count else 1
  names := (Text.splitAt '/' text).filter fun name => !name.isEmpty && name ≠ ['.']

/-- The text of a path; a single dot for the empty one. -/
def shown (path : Path) : Text :=
  if path.slashes = 0 && path.names.isEmpty then ['.']
  else List.replicate path.slashes '/' ++ Text.join ['/'] path.names

/-- The path of a place. -/
def ofLocation (location : Location) : Path :=
  ⟨1, location⟩

/-- A path with one name more. -/
def child (path : Path) (name : Text) : Path :=
  { path with names := path.names ++ [name] }

/-- The extension of a name: its last dot and what follows, if something does and something comes
before. -/
def extension (name : Text) : Text :=
  let after := name.reverse.takeWhile (· ≠ '.')
  let before := (name.reverse.dropWhile (· ≠ '.')).drop 1
  if after.isEmpty || before.isEmpty then [] else '.' :: after.reverse

/-- The extension of the last name of a path. -/
def suffix (path : Path) : Text :=
  extension (path.names.getLast?.getD [])

end Path

/-- Whether an extension, written in small letters, is that of a path, in whatever case. -/
def Path.hasSuffix (path : Path) (wanted : Text) : Bool :=
  Text.dropWord? wanted path.suffix = some []

/-- The place where names lead from a place. Two dots lead one step up, whatever stands there. -/
def Location.follow (start : Location) (names : List Text) : Location :=
  names.foldl (fun place name => if name = ['.', '.'] then place.dropLast else place ++ [name])
    start

/-- A place and the places around it, up to the root. -/
def Location.upward (location : Location) : List Location :=
  (List.range (location.length + 1)).map fun above => location.take (location.length - above)

end MarkdownCheck
