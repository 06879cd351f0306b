import MarkdownCheck.CommandLine.Similar
import MarkdownCheck.Text.Integer
import MarkdownCheck.Text.Escape

/-!
# The arguments of the command

- `Arguments`: what the arguments say, values still as they are written.
- `Arguments.read`: reads arguments. Options may stand anywhere before two dashes.
- `UsageFault`: why arguments cannot be used.
-/

namespace MarkdownCheck

/-- What the arguments say. -/
structure Arguments where
  /-- Names of rules to disable. -/
  disabled : List Text := []
  clearComments : Option Bool := none
  /-- The last value of the option for the line length. -/
  maxLineLength : Option Text := none
  verbose : Bool := false
  /-- Whether help or the version is asked for. -/
  wantsInfo : Bool := false
  files : List Text := []
deriving DecidableEq, Repr

/-- Why arguments cannot be used. -/
inductive UsageFault where
  /-- There is no such option; these are similar. -/
  | unknownOption (name : Text) (similar : List Text)
  /-- The option lacks its value. -/
  | valueExpected (name : Text)
  /-- The option has a value and takes none. -/
  | valueUnwanted (name : Text)
  /-- The value of the option is no integer. -/
  | integerExpected (name : Text) (value : Text)
  /-- No files are given. -/
  | filesExpected
  /-- A directory is given for a file. -/
  | directory (path : Text)
  /-- A value cannot be used, for a reason that is not about options. -/
  | badValue (reason : Text)
deriving DecidableEq, Repr

namespace UsageFault

/-- The proposals behind the report of an unknown option. -/
def proposals (similar : List Text) : Text :=
  match similar.mergeSort Text.le with
  | [] => []
  | [name] => " Did you mean ".toList ++ name.quoted ++ ['?']
  | names => " (Did you mean one of: ".toList ++ Text.join [',', ' '] (names.map Text.quoted)
      ++ ['?', ')']

/-- A fault in words. -/
def message : UsageFault → Text
  | .unknownOption name similar =>
    "No such option ".toList ++ name.quoted ++ '.' :: proposals similar
  | .valueExpected name => "Option ".toList ++ name.quoted ++ " requires an argument.".toList
  | .valueUnwanted name => "Option ".toList ++ name.quoted ++ " does not take a value.".toList
  | .integerExpected name value =>
    "Invalid value for '".toList ++ name ++ "': ".toList ++ value.quoted
      ++ " is not a valid integer.".toList
  | .filesExpected => "Missing argument 'FILEPATHS...'.".toList
  | .directory path =>
    "Invalid value for 'FILEPATHS...': File ".toList ++ path.quoted ++ " is a directory.".toList
  | .badValue reason => "Invalid value: ".toList ++ reason

/-- Whether the report starts with the usage of the command. -/
def showsUsage : UsageFault → Bool
  | .valueExpected _ | .valueUnwanted _ => false
  | _ => true

end UsageFault

/-! ## Options -/

/-- An option: one that takes a value, or one that does not. -/
inductive CommandOption where
  | withValue (use : Text → Arguments → Arguments)
  | plain (use : Arguments → Arguments)

/-- The options by their long names. -/
def longOptions : List (Text × CommandOption) := [
  ("--version".toList, .plain fun said => { said with wantsInfo := true }),
  ("--disable".toList,
    .withValue fun name said => { said with disabled := said.disabled ++ [name] }),
  ("--clear-comments".toList, .plain fun said => { said with clearComments := some true }),
  ("--no-clear-comments".toList, .plain fun said => { said with clearComments := some false }),
  ("--max-line-length".toList,
    .withValue fun value said => { said with maxLineLength := some value }),
  ("--verbose".toList, .plain fun said => { said with verbose := true }),
  ("--help".toList, .plain fun said => { said with wantsInfo := true })]

/-- The options by their short names. -/
def shortOptions : List (Char × (Arguments → Arguments)) :=
  [('v', fun said => { said with verbose := true })]

/-- Uses the short options of one argument. -/
def useShort (said : Arguments) : Text → Except UsageFault Arguments
  | [] => .ok said
  | name :: rest =>
    match shortOptions.lookup name with
    | some use => useShort (use said) rest
    | none => .error (.unknownOption ['-', name] [])

/-- An argument before its first equals sign, and what stands behind it. -/
def splitValue (argument : Text) : Text × Option Text :=
  match argument.dropWhile (· ≠ '=') with
  | _ :: value => (argument.takeWhile (· ≠ '='), some value)
  | [] => (argument, none)

/-- Uses an argument that is no long option: short ones, unless it starts with two dashes. -/
def useOther (said : Arguments) (argument name : Text) : Except UsageFault Arguments :=
  match argument with
  | '-' :: '-' :: _ => .error (.unknownOption name (Similar.best name (longOptions.map (·.1))))
  | _ => useShort said argument.tail

namespace Arguments

/-- Whether an argument is an option. A single dash is none. -/
def isOption (argument : Text) : Bool :=
  argument.head? = some '-' && 1 < argument.length

/-- Reads arguments after others. -/
def readAfter (said : Arguments) : List Text → Except UsageFault Arguments
  | [] => .ok said
  | argument :: rest =>
    if argument = ['-', '-'] then .ok { said with files := said.files ++ rest }
    else if isOption argument then
      let (name, value) := splitValue argument
      match longOptions.lookup name, value with
      | none, _ =>
        match useOther said argument name with
        | .ok said => readAfter said rest
        | .error fault => .error fault
      | some (.plain use), none => readAfter (use said) rest
      | some (.plain _), some _ => .error (.valueUnwanted name)
      | some (.withValue use), some value => readAfter (use value said) rest
      | some (.withValue use), none =>
        match rest with
        | value :: rest => readAfter (use value said) rest
        | [] => .error (.valueExpected name)
    else readAfter { said with files := said.files ++ [argument] } rest
termination_by arguments => arguments.length

/-- Reads arguments. -/
def read (arguments : List Text) : Except UsageFault Arguments :=
  readAfter {} arguments

/-- The line length that is asked for. -/
def lineLength? (said : Arguments) : Except UsageFault (Option Int) :=
  match said.maxLineLength with
  | none => .ok none
  | some value =>
    match value.readInt? with
    | some length => .ok (some length)
    | none => .error (.integerExpected "--max-line-length".toList value)

end Arguments

end MarkdownCheck
