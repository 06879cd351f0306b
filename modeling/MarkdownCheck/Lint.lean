import MarkdownCheck.Comment
import MarkdownCheck.Document.OfText
import MarkdownCheck.FrontMatter
import MarkdownCheck.Rule.Run
import MarkdownCheck.Settings.Check

/-!
# Linting a text

- `LintOptions.split`, `LintOptions.prepare`: what of a text is linted.
- `lintText`: the violations in a text, with the lines of the whole text.
- `LintFailure`: why a text is not linted.
-/

namespace MarkdownCheck

/-- Why a text is not linted. -/
inductive LintFailure where
  | parse (failure : Markdown.ParseFailure)
  | run (failure : RunFailure)
deriving DecidableEq, Repr

namespace LintOptions

/-- The front matter that is taken off a text, and the rest. -/
def split (options : LintOptions) (content : Text) : List Text × Text :=
  if options.stripFrontMatter then FrontMatter.split content else ([], content)

/-- The document that is linted: a text without front matter and with its comments blanked. -/
def prepare (options : LintOptions) (content name : Text) :
    Except Markdown.ParseFailure Document :=
  let (frontMatter, rest) := options.split content
  Document.ofText (if options.clearComments then Comment.clear rest else rest) name frontMatter

end LintOptions

/-- The warnings about long lines, the first line of the document being number `offset + 1`. -/
def longLineWarnings (longest : Nat) (document : Document) (offset : Nat) : List LogEntry :=
  (document.lines.zipIdx (offset + 1)).filterMap fun (line, number) =>
    if longest < line.length then
      some (lineWarning document.displayName number line "line-length".toList)
    else none

/-- Logs entries. -/
def Logged.entries {ε : Type} (entries : List LogEntry) : Logged ε Unit :=
  ⟨entries, .ok ()⟩

/-- Lints a text with every rule that is not disabled. -/
def lintText (options : LintOptions) (content name : Text) :
    Logged LintFailure (List Violation) := do
  let document ← .ofExcept ((options.prepare content name).mapError .parse)
  let offset := document.frontMatter.length
  .entries (longLineWarnings options.maxLineLength document offset)
  (runRules document options.rules offset).mapError .run

end MarkdownCheck
