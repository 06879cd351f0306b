import MarkdownCheck.Files.SizeLimit
import MarkdownCheck.Files.Workspace
import MarkdownCheck.Lint

/-!
# Linting a file

- `lintFile`: the violations in a file.
- `FileLintFailure`: why a file is not linted.
-/

namespace MarkdownCheck

/-- Why a file is not linted. -/
inductive FileLintFailure where
  | settings (fault : SettingsFault)
  | limit (fault : SizeLimit.Fault)
  | access (failure : AccessFailure)
  | lint (failure : LintFailure)
deriving DecidableEq, Repr

/-- The text of a file that may be linted: a file of UTF-8 text within the limit. -/
def readForLint (workspace : Workspace) (path : Path) (limit : Int) :
    Except AccessFailure Text := do
  let _ ← workspace.fileSizeWithin path limit
  workspace.readText path

/-- Lints a file. The limit of the environment counts before that of the settings. -/
def lintFile (workspace : Workspace) (path : Path) (settings : Settings) :
    Logged FileLintFailure (List Violation) := do
  let options ← .ofExcept (settings.check.mapError .settings)
  let setting := workspace.environmentValue? SizeLimit.variableName
  let limit ← .ofExcept ((SizeLimit.read setting options.maxFileSize).mapError .limit)
  let content ← .ofExcept ((readForLint workspace path limit).mapError .access)
  (lintText options content path.shown).mapError .lint

end MarkdownCheck
