import MarkdownCheck.CommandLine.Run

/-!
# What the command looks at

- `Location.trail`: the places on a way.
- `Command.reach`: the places whose content the command may depend on. Knowing what stands there,
  one knows what it does.
-/

namespace MarkdownCheck

/-- The places that names lead through, from where they start to where they end. -/
def Location.trail (start : Location) (names : List Text) : List Location :=
  (List.range (names.length + 1)).map fun count => start.follow (names.take count)

namespace Command

/-- The files that may hold settings for what stands in a directory. -/
def settingsPlaces (directory : Location) : List Location :=
  directory.upward.flatMap fun place => settingsFiles.map fun (name, _) => place ++ [name]

/-- The places that count for the file at a path. -/
def reachOfPath (workspace : Workspace) (path : Path) : List Location :=
  let start := workspace.origin path
  start.upward ++ start.trail path.names ++ settingsPlaces (start.follow path.names).dropLast

/-- The places that count for a file as it is given: with and without a home directory put in. -/
def reachOfFile (workspace : Workspace) (given : Text) : List Location :=
  let path := Path.ofText given
  (path :: (workspace.expandHome path).toOption.toList).flatMap (reachOfPath workspace)

/-- The places whose content the command may depend on. -/
def reach (workspace : Workspace) (arguments : List Text) : List Location :=
  match Arguments.read arguments with
  | .error _ => []
  | .ok said => (said.files.flatMap (reachOfFile workspace)).eraseDups

end Command

end MarkdownCheck
