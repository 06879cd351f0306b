import MarkdownCheck.CommandLine.Reach

/-!
# The program

Reads what the command depends on from the system, runs the command on it, and writes what it
leaves.
-/

open MarkdownCheck

/-- A tree with what stands at a place of the file system. -/
def withPlace (tree : FileTree) (place : Location) : IO FileTree := do
  let path := (← IO.currentDir) / String.ofList (Path.ofLocation place).shown
  if ← path.isDir then return tree.makeDirectory place
  match ← (IO.FS.readBinFile path).toBaseIO with
  | .ok bytes => return tree.put place (.file bytes.toList)
  | .error _ => return tree

/-- The variables of the environment that have a value, among those that the command reads. -/
def readVariables : IO (List (Text × Text)) := do
  let names := ["HOME".toList, SizeLimit.variableName]
  let values ← names.mapM fun name => do
    let value ← IO.getEnv (String.ofList name)
    return value.map fun value => (name, value.toList)
  return values.filterMap id

/-- The home directories of the accounts of the system. -/
def readHomes : IO (List (Text × Text)) := do
  match ← (IO.FS.readFile "/etc/passwd").toBaseIO with
  | .ok table => return accountHomes table.toList
  | .error _ => return []

/-- The workspace as far as the command depends on it. -/
def readWorkspace (arguments : List Text) : IO Workspace := do
  let directory := (Path.ofText (← IO.currentDir).toString.toList).names
  let empty : Workspace := {
    tree := .directory [], directory, environment := ← readVariables, homes := ← readHomes }
  let tree ← (Command.reach empty arguments).foldlM withPlace empty.tree
  return { empty with tree }

def main (arguments : List String) : IO UInt32 := do
  let arguments := arguments.map String.toList
  let outcome := Command.run (← readWorkspace arguments) arguments
  IO.print (String.ofList outcome.output)
  IO.eprint (String.ofList (outcome.errors ++ outcome.crashReport))
  return outcome.exitCode.toUInt32
