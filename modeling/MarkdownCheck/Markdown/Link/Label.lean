import MarkdownCheck.Markdown.Blank
import MarkdownCheck.Unicode.CaseFolding

/-!
# Labels of link references

- `referenceKey`: what two labels share when they name the same reference. Case and the kind and
  number of blanks make no difference.
-/

namespace MarkdownCheck.Markdown

/-- One space for every run of blanks. -/
def collapseBlanks : Text → Text
  | [] => []
  | c :: rest =>
    if isBlank c then
      match rest with
      | [] => [' ']
      | d :: _ => if isBlank d then collapseBlanks rest else ' ' :: collapseBlanks rest
    else c :: collapseBlanks rest

/-- A character without its case. The dotless i counts as an i, since they share their capital. -/
def caselessChar (c : Char) : Text :=
  if c = '\u0131' then ['i'] else Unicode.foldChar c

/-- The key of a label. -/
def referenceKey (label : Text) : Text :=
  (collapseBlanks (trim label)).flatMap caselessChar

end MarkdownCheck.Markdown
