import MarkdownCheck.Pattern.Named

/-!
# HTML in Markdown

- `Html.tag`: any HTML tag, comment, instruction, declaration or character section.
- `HtmlBlock`: a way in which a line starts a block of HTML, and `HtmlBlock.kinds`, all of them.

A block of one kind ends with the line that holds its closing text, of another kind before the
first empty line.
-/

namespace MarkdownCheck.Markdown

open Pattern

namespace Html

/-! ## Tags -/

/-- The name of a tag. -/
def tagName : Pattern :=
  .seq (.one Char.isAlpha) (star (.one fun c => c.isAlphanum || c = '-'))

/-- The name of an attribute. -/
def attributeName : Pattern :=
  .seq (.one fun c => c.isAlpha || c = '_' || c = ':')
    (star (.one fun c => c.isAlphanum || ":._-".toList.contains c))

/-- The value of an attribute: bare, or between equal quotes. -/
def attributeValue : Pattern :=
  first (plus (.one fun c => ' ' < c && !"\"'=<>\x60".toList.contains c))
    [all [char '\'', star (.one (· ≠ '\'')), char '\''],
      all [char '"', star (.one (· ≠ '"')), char '"']]

/-- An attribute with the blanks before it. -/
def tagAttribute : Pattern :=
  all [plus blank, attributeName,
    Pattern.optional (all [star blank, char '=', star blank, attributeValue])]

/-- An opening tag. -/
def openTag : Pattern :=
  all [char '<', tagName, star tagAttribute, star blank, Pattern.optional (char '/'), char '>']

/-- A closing tag. -/
def closeTag : Pattern :=
  all [word "</", tagName, star blank, char '>']

/-- A comment. -/
def comment : Pattern :=
  let notDash := .one (· ≠ '-')
  let piece := first notDash [.seq (char '-') notDash, .seq (word "--") (.one (· ≠ '>'))]
  first (word "<!-->") [word "<!--->", all [word "<!--", star piece, word "-->"]]

/-- A processing instruction. -/
def instruction : Pattern :=
  all [word "<?", lazyStar anything, word "?>"]

/-- A declaration. -/
def declaration : Pattern :=
  all [word "<!", .one Char.isAlpha, star (.one (· ≠ '>')), char '>']

/-- A section of character data. -/
def characterSection : Pattern :=
  all [word "<![CDATA[", lazyStar anything, word "]]>"]

/-- Anything that stands between angle brackets as HTML. -/
def tag : Pattern :=
  first openTag [closeTag, comment, instruction, declaration, characterSection]

end Html

/-! ## Blocks -/

/-- A way in which a line starts a block of HTML. -/
structure HtmlBlock where
  /-- What the line starts with. -/
  opening : Pattern
  /-- What the last line holds; `none` for a block that an empty line ends. -/
  closing : Option Pattern
  /-- Whether the block may start inside a paragraph. -/
  interrupts : Bool

namespace HtmlBlock

/-- Elements whose text is not Markdown. -/
def rawNames : List String := ["script", "pre", "style", "textarea"]

/-- Elements that form blocks. -/
def blockNames : List String := [
  "address", "article", "aside", "base", "basefont", "blockquote", "body", "caption", "center",
  "col", "colgroup", "dd", "details", "dialog", "dir", "div", "dl", "dt", "fieldset", "figcaption",
  "figure", "footer", "form", "frame", "frameset", "h1", "h2", "h3", "h4", "h5", "h6", "head",
  "header", "hr", "html", "iframe", "legend", "li", "link", "main", "menu", "menuitem", "nav",
  "noframes", "ol", "optgroup", "option", "p", "param", "search", "section", "summary", "table",
  "tbody", "td", "tfoot", "th", "thead", "title", "tr", "track", "ul"]

/-- A name in whatever case. No letter beyond ASCII stands for one of its letters. -/
def caseBlindName (name : String) : Pattern :=
  all (name.toList.map fun letter => .one (·.toLower = letter))

/-- One of these names, in whatever case. -/
def anyName (names : List String) : Pattern :=
  names.foldr (fun name rest => .either (caseBlindName name) rest) (.one fun _ => false)

/-- The ways in which a line starts a block of HTML, the first that fits counts. -/
def kinds : List HtmlBlock := [
  ⟨all [char '<', anyName rawNames, .ahead (first blank [char '>', .atEnd])],
    some (all [word "</", anyName rawNames, char '>']), true⟩,
  ⟨word "<!--", some (word "-->"), true⟩,
  ⟨word "<?", some (word "?>"), true⟩,
  ⟨.seq (word "<!") (.one Char.isAlpha), some (char '>'), true⟩,
  ⟨word "<![CDATA[", some (word "]]>"), true⟩,
  ⟨all [char '<', Pattern.optional (char '/'), anyName blockNames,
      .ahead (first blank [.seq (Pattern.optional (char '/')) (char '>'), .atEnd])],
    none, true⟩,
  ⟨all [.either Html.openTag Html.closeTag, star blank, .atEnd], none, false⟩]

/-- How a line starts a block of HTML, if it does. -/
def at? (line : Text) : Option HtmlBlock :=
  if line.head? = some '<' then
    kinds.find? fun kind => (kind.opening.matchStart? line).isSome
  else none

/-- Whether a block ends at a line. -/
def endsAt (kind : HtmlBlock) (line : Text) : Bool :=
  match kind.closing with
  | some closing => (closing.search? line).isSome
  | none => line.isEmpty

end HtmlBlock

end MarkdownCheck.Markdown
