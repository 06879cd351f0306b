import MarkdownCheck.Files.Workspace
import MarkdownCheck.Settings.Check
import MarkdownCheck.Toml.Document

/-!
# Settings from files

- `settingsAt`: the settings that the files of one directory hold.
- `loadSettings`: the nearest settings, from a directory up to the root.
- `buildSettings`: these, overridden and checked.

A file that is missing, a directory, or no valid document holds no settings.
-/

namespace MarkdownCheck

/-- Why settings cannot be loaded. -/
inductive LoadFailure where
  /-- The operating system refuses a path. -/
  | refused (failure : FileFailure)
  /-- A file holds no text. -/
  | notText (fault : Utf8.Fault)
  /-- A file holds an integer of too many digits. -/
  | hugeInteger (digits : Nat)
  /-- What a file has in the place of the settings is no table of settings. -/
  | invalidTable (table : List Text) (file : Path)
deriving DecidableEq, Repr

/-- A failure in words. -/
def LoadFailure.message : LoadFailure → Text
  | .refused failure => failure.message
  | .notText fault => fault.message
  | .hugeInteger digits =>
    "Exceeds the limit (".toList ++ Text.ofNat Text.mostDigits
      ++ " digits) for integer string conversion: value has ".toList ++ Text.ofNat digits
      ++ " digits; use sys.set_int_max_str_digits() to increase the limit".toList
  | .invalidTable table file =>
    "Invalid `[".toList ++ Text.join ['.'] table ++ "]` settings in ".toList ++ file.shown

/-- The name of the table of settings. -/
def settingsTable : Text := "mdlint-rules".toList

/-- The files that may hold settings, each with the tables that are looked for in it, in order. -/
def settingsFiles : List (Text × List (List Text)) :=
  let tool := ["tool".toList, settingsTable]
  [("pyproject.toml".toList, [tool]), (".mdlint-rules.toml".toList, [[settingsTable], tool])]

/-- The value at a key. Where something other than a table is in the way there is none. -/
def valueAt? (value : Value) : List Text → Option Value
  | [] => some value
  | name :: rest =>
    match value with
    | .table entries => (entries.lookup name).bind (valueAt? · rest)
    | _ => none

/-- The entries of the document that a file holds; `none` when the file holds none. -/
def readDocument? (workspace : Workspace) (file : Path) :
    Except LoadFailure (Option Toml.Entries) :=
  match workspace.readBytes file.shown with
  | .error failure =>
    if failure.cause = .nameTooLong then .error (.refused failure) else .ok none
  | .ok bytes =>
    match Utf8.decode bytes with
    | .error fault => .error (.notText fault)
    | .ok text =>
      match Toml.parse text with
      | .ok entries => .ok (some entries)
      | .error .invalid => .ok none
      | .error (.hugeInteger digits) => .error (.hugeInteger digits)

/-- The settings that a value is. -/
def settingsOf (table : List Text) (file : Path) (value : Value) : Except LoadFailure Settings :=
  match value with
  | .table entries =>
    match Settings.ofEntries? entries with
    | some settings => .ok settings
    | none => .error (.invalidTable table file)
  | _ => .error (.invalidTable table file)

/-- The settings in the first of several tables that is there. -/
def firstTable (document : Value) (file : Path) :
    List (List Text) → Except LoadFailure (Option Settings)
  | [] => .ok none
  | table :: rest =>
    match valueAt? document table with
    | some value => (settingsOf table file value).map some
    | none => firstTable document file rest

/-- The settings that a file holds. -/
def settingsIn (workspace : Workspace) (file : Path) (tables : List (List Text)) :
    Except LoadFailure (Option Settings) := do
  match ← readDocument? workspace file with
  | some entries => firstTable (.table entries) file tables
  | none => .ok none

/-- The settings in the first of several files that has some. -/
def firstFile (workspace : Workspace) (place : Location) :
    List (Text × List (List Text)) → Except LoadFailure (Option Settings)
  | [] => .ok none
  | (name, tables) :: rest => do
    match ← settingsIn workspace ((Path.ofLocation place).child name) tables with
    | some settings => .ok (some settings)
    | none => firstFile workspace place rest

/-- The settings that the files of a directory hold. -/
def settingsAt (workspace : Workspace) (place : Location) : Except LoadFailure (Option Settings) :=
  firstFile workspace place settingsFiles

/-- The settings of the first of several directories that has some, or else the default ones. -/
def nearestSettings (workspace : Workspace) : List Location → Except LoadFailure Settings
  | [] => .ok {}
  | place :: rest => do
    match ← settingsAt workspace place with
    | some settings => .ok settings
    | none => nearestSettings workspace rest

/-- The settings for a directory: the nearest ones, from there up to the root. -/
def loadSettings (workspace : Workspace) (path : Path) : Except LoadFailure Settings :=
  if path.shown.contains '\x00' then .error (.refused ⟨.holdsNull, path.shown⟩)
  else nearestSettings workspace ((workspace.origin path).follow path.names).upward

/-! ## Settings of a run -/

/-- Why there are no settings for a run. -/
inductive BuildFailure where
  | load (failure : LoadFailure)
  | override (failure : Settings.OverrideFailure)
  | fault (fault : SettingsFault)
deriving DecidableEq, Repr

/-- The name of the directory from which settings are looked for. No override may have it, not even
one that says nothing. -/
def startName : Text := "search_path".toList

/-- The settings for a directory, overridden and checked. -/
def buildSettings (workspace : Workspace) (path : Path) (overrides : List (Text × Value)) :
    Except BuildFailure Settings := do
  if overrides.any (·.1 = startName) then .error (.override .reserved)
  let loaded ← (loadSettings workspace path).mapError .load
  let changed ← (loaded.override overrides).mapError .override
  let settings := changed.getD loaded
  let _ ← settings.check.mapError .fault
  .ok settings

end MarkdownCheck
