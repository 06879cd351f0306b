import MarkdownCheck.Rule.Run
import MarkdownCheck.Settings.Basic

/-!
# Checking settings

- `Settings.check`: settings whose values have the right kinds.
- `LintOptions`: what is left then, and `LintOptions.rules`, the rules that run.
- `Settings.rules`: the rules that run under settings that nobody has checked.
-/

namespace MarkdownCheck

/-- What is wrong with settings. -/
inductive SettingsFault where
  /-- The disabled rules are not a list of names. -/
  | namesExpected
  /-- There are no such rules. -/
  | unknownRules (names : List Text)
  /-- A setting has to be a flag. -/
  | flagExpected (setting : String)
  /-- A setting has to be an integer. -/
  | integerExpected (setting : String)
  /-- A setting has to be positive. -/
  | notPositive (setting : String)
deriving DecidableEq, Repr

/-- A fault in words. -/
def SettingsFault.message : SettingsFault → Text
  | .namesExpected => "`disable` must be a list of rule names".toList
  | .unknownRules names => "Unknown rule(s) in `disable`: ".toList ++ Text.join [',', ' '] names
  | .flagExpected setting => ("`" ++ setting ++ "` must be a boolean").toList
  | .integerExpected setting => ("`" ++ setting ++ "` must be an integer").toList
  | .notPositive setting => ("`" ++ setting ++ "` must be a positive integer").toList

/-- The settings of a lint run, checked. -/
structure LintOptions where
  /-- Names of rules that exist. -/
  disable : List Text
  clearComments : Bool
  stripFrontMatter : Bool
  /-- The largest size of a file in bytes, positive. -/
  maxFileSize : Nat
  /-- Longer lines are warned about; positive. -/
  maxLineLength : Nat
deriving DecidableEq, Repr

/-- Whether one of these names is a name of the rule. -/
def Rule.isAmong (rule : Rule) (names : List Text) : Bool :=
  names.any fun name => (findRule? name).any (·.names = rule.names)

/-- The rules that run. -/
def LintOptions.rules (options : LintOptions) : List Rule :=
  allRules.filter (!·.isAmong options.disable)

namespace Settings

/-- A list of names of rules. -/
def checkNames (value : Value) : Except SettingsFault (List Text) :=
  match value with
  | .list items =>
    match items.mapM Value.text? with
    | none => .error .namesExpected
    | some names =>
      let unknown := names.filter fun name => (findRule? name).isNone
      if unknown.isEmpty then .ok names else .error (.unknownRules unknown)
  | _ => .error .namesExpected

/-- A flag. -/
def checkFlag (setting : String) : Value → Except SettingsFault Bool
  | .flag value => .ok value
  | _ => .error (.flagExpected setting)

/-- A positive integer. -/
def checkPositive (setting : String) : Value → Except SettingsFault Nat
  | .number value => if 0 < value then .ok value.toNat else .error (.notPositive setting)
  | _ => .error (.integerExpected setting)

/-- The settings with their kinds checked; the first fault counts. -/
def check (settings : Settings) : Except SettingsFault LintOptions := do
  let disable ← checkNames settings.disable
  let clearComments ← checkFlag "clear_html_comments" settings.clearComments
  let stripFrontMatter ← checkFlag "strip_front_matter" settings.stripFrontMatter
  let maxFileSize ← checkPositive "max_file_size" settings.maxFileSize
  let maxLineLength ← checkPositive "max_line_length" settings.maxLineLength
  pure { disable, clearComments, stripFrontMatter, maxFileSize, maxLineLength }

/-! ## Rules of unchecked settings -/

/-- Why the disabled rules cannot be looked up. -/
inductive NamesFailure where
  /-- They form no collection. -/
  | noCollection
  /-- One of them is no text. -/
  | noText
deriving DecidableEq, Repr

/-- The rules that run. A text stands for its characters and a table for its keys. -/
def rules (settings : Settings) : Except NamesFailure (List Rule) :=
  match settings.disable.items? with
  | none => .error .noCollection
  | some items =>
    match items.mapM Value.text? with
    | none => .error .noText
    | some names => .ok (allRules.filter (!·.isAmong names))

end Settings

end MarkdownCheck
