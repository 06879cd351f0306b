import MarkdownCheck.LineClass
import MarkdownCheck.ListOutline

/-!
# Documents

- `Document`: the lines and the tokens of a Markdown text.
- `Document.tokensOf`, `Document.inlineChildren`: tokens of one kind, in the stream and inside the
  inline tokens.
-/

namespace MarkdownCheck

/-- A Markdown document: its lines without front matter, its tokens, and where it comes from. -/
structure Document where
  lines : List Text := []
  tokens : List Token := []
  /-- The file or another name for messages; empty when there is none. -/
  name : Text := []
  /-- The lines taken off the top of the file. -/
  frontMatter : List Text := []
deriving Repr, Inhabited

namespace Document

/-- The tokens of a kind. -/
def tokensOf (document : Document) (kind : String) : List Token :=
  document.tokens.filter (·.kind = kind)

/-- The tokens of a kind that stand directly in an inline token, each with that inline token. -/
def inlineChildren (document : Document) (kind : String) : List (Token × Token) :=
  (document.tokensOf "inline").flatMap fun inline =>
    (inline.children.filter (·.kind = kind)).map fun child => (child, inline)

/-- The name of the document in messages. -/
def displayName (document : Document) : Text :=
  if document.name.isEmpty then "<string>".toList else document.name

end Document

end MarkdownCheck
