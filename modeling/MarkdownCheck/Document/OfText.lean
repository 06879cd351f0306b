import MarkdownCheck.Document
import MarkdownCheck.Markdown.Block.Parse
import MarkdownCheck.Markdown.Inline.Parse
import MarkdownCheck.Text.Lines

/-!
# Reading a document

- `Markdown.tokens`: the block tokens of a text, each inline token with its children.
- `Token.ofParsed`: a token of the parser with the text of its first line.
- `Document.ofText`: the document that a Markdown text is.

Blocks are read first, so that a link may refer to a definition that follows it. Inline tokens have
no lines of their own. They stand on the first line of the token around them, and every line break
before them moves them down by one.
-/

namespace MarkdownCheck

/-- The line with a number, counted from 1; empty when there is none. -/
def lineAt (lines : List Text) (number : Option Int) : Text :=
  match number with
  | some number => if 0 < number then lines.getD (number - 1).toNat [] else []
  | none => []

namespace Markdown

/-- A block token with the inline structure of its content. -/
def Token.withInline (keys : List Text) (token : Token) : Token :=
  if token.kind = "inline" then { token with children := parseInline keys token.content } else token

/-- The tokens of a text. -/
def tokens (text : Text) : Except ParseFailure (List Token) := do
  let blocks ← parseBlocks (normalize text)
  pure (blocks.tokens.toList.map (·.withInline blocks.keys))

/-- Whether a token ends a line inside inline text. -/
def Token.isBreak (token : Token) : Bool :=
  token.kind = "softbreak" || token.kind = "hardbreak"

end Markdown

namespace Token

mutual

/-- An inline token on a line, with what is inside it. -/
def ofInline (lines : List Text) (number : Option Int) : Markdown.Token → Token
  | ⟨kind, tag, _, content, markup, info, children⟩ => {
    kind, tag, content, markup, info
    line := lineAt lines number, lineNumber := number
    children := ofInlines lines number children }

/-- Inline tokens from a line on. -/
def ofInlines (lines : List Text) (number : Option Int) : List Markdown.Token → List Token
  | [] => []
  | token :: rest =>
    ofInline lines number token
      :: ofInlines lines (if token.isBreak then number.map (· + 1) else number) rest

end

/-- A token of the parser with the text of its first line. -/
def ofParsed (lines : List Text) (token : Markdown.Token) : Token :=
  let number := token.range.map (·.start + 1)
  { kind := token.kind, tag := token.tag, range := token.range, content := token.content
    markup := token.markup, info := token.info
    line := lineAt lines number, lineNumber := number
    children := ofInlines lines number token.children }

end Token

/-- The document that a text is. -/
def Document.ofText (content name : Text) (frontMatter : List Text) :
    Except Markdown.ParseFailure Document := do
  let lines := content.lines
  let tokens ← Markdown.tokens content
  pure { lines, name, frontMatter, tokens := tokens.map (Token.ofParsed lines) }

end MarkdownCheck
