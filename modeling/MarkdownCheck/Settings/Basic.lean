import MarkdownCheck.Value

/-!
# Settings

- `Settings`: the settings of a lint run as they are given, each a value of any kind.
- `Settings.set?`, `Settings.ofEntries?`: settings by name.
- `Settings.override`: settings with some of them replaced; names of disabled rules are added to the
  ones already there.
-/

namespace MarkdownCheck

/-- The settings of a lint run as they are given. -/
structure Settings where
  /-- The rules that do not run, by identifier or alias. -/
  disable : Value := .list []
  /-- Whether the interior of comments is blanked. -/
  clearComments : Value := .flag true
  /-- Whether front matter is taken off. -/
  stripFrontMatter : Value := .flag true
  /-- The largest size of a file in bytes. -/
  maxFileSize : Value := .number 10485760
  /-- Longer lines are warned about. -/
  maxLineLength : Value := .number 10000
deriving Repr, Inhabited

namespace Settings

/-- The settings with the one of a name replaced; `none` when there is no such setting. -/
def set? (settings : Settings) (name : Text) (value : Value) : Option Settings :=
  if name = "disable".toList then some { settings with disable := value }
  else if name = "clear_html_comments".toList then some { settings with clearComments := value }
  else if name = "strip_front_matter".toList then some { settings with stripFrontMatter := value }
  else if name = "max_file_size".toList then some { settings with maxFileSize := value }
  else if name = "max_line_length".toList then some { settings with maxLineLength := value }
  else none

/-- The settings with several replaced. -/
def setAll? (settings : Settings) : List (Text × Value) → Option Settings
  | [] => some settings
  | (name, value) :: rest => (settings.set? name value).bind (·.setAll? rest)

/-- Default settings with these entries; `none` when an entry is no setting. -/
def ofEntries? (entries : List (Text × Value)) : Option Settings :=
  setAll? {} entries

/-! ## Overrides -/

/-- Why settings cannot be overridden. -/
inductive OverrideFailure where
  /-- There is no such setting. -/
  | unknown
  /-- The name is not free for a setting. -/
  | reserved
  /-- The disabled rules, or the ones to be added, do not form a collection of names. -/
  | notNames
deriving DecidableEq, Repr

/-- The name of the settings that are overridden. No override may have it, not even one that says
nothing. -/
def ownName : Text := "config".toList

/-- The overrides that say something. -/
def changes (overrides : List (Text × Value)) : List (Text × Value) :=
  overrides.filter (!·.2.isNull)

/-- The items of a collection that another one does not hold. -/
def missing? (collection : Value) : List Value → Option (List Value)
  | [] => some []
  | item :: rest => do
    let held ← collection.holds? item
    let more ← missing? collection rest
    some (if held then more else item :: more)

/-- The disabled rules with the names of an override that are not there yet. -/
def mergeNames? (disabled added : Value) : Option Value := do
  let names ← added.items?
  let extra ← missing? disabled names
  let known ← disabled.items?
  some (.list (known ++ extra))

/-- One change, in which names of disabled rules are added to the ones there are. -/
def change (settings : Settings) (name : Text) (value : Value) : Except OverrideFailure Settings :=
  if name = "disable".toList then
    match mergeNames? settings.disable value with
    | some merged => .ok { settings with disable := merged }
    | none => .error .notNames
  else
    match settings.set? name value with
    | some changed => .ok changed
    | none => .error .unknown

/-- Several changes. -/
def changeAll (settings : Settings) : List (Text × Value) → Except OverrideFailure Settings
  | [] => .ok settings
  | (name, value) :: rest => do
    let changed ← settings.change name value
    changed.changeAll rest

/-- The settings with overrides; `none` when the overrides say nothing. -/
def override (settings : Settings) (overrides : List (Text × Value)) :
    Except OverrideFailure (Option Settings) :=
  if overrides.any (·.1 = ownName) then .error .reserved
  else
    match changes overrides with
    | [] => .ok none
    | said => (settings.changeAll said).map some

end Settings

end MarkdownCheck
