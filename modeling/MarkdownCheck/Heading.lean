import MarkdownCheck.Token

/-!
# Headings

- `headings`: the headings of a token stream with the source of their titles.
- `Heading.Style`, `Token.headingStyle`: how a heading is written.
-/

namespace MarkdownCheck

/-! ## The headings of a stream -/

/-- Reads a stream while `heading` is the heading that is open. Each inline token inside it is a
title. -/
def headingsFrom (heading : Option Token) : List Token → List (Token × Text)
  | [] => []
  | token :: rest =>
    if token.kind = "heading_open" then headingsFrom (some token) rest
    else if token.kind = "heading_close" then headingsFrom none rest
    else
      match heading with
      | some opening =>
        if token.kind = "inline" then (opening, token.content) :: headingsFrom heading rest
        else headingsFrom heading rest
      | none => headingsFrom heading rest

/-- The opening token of each heading with the source of its title. -/
def headings (tokens : List Token) : List (Token × Text) :=
  headingsFrom none tokens

/-! ## Styles -/

namespace Heading

/-- How a heading is written. -/
inductive Style where
  /-- With number signs before the title. -/
  | atx
  /-- With number signs on both sides of the title. -/
  | atxClosed
  /-- With a line under the title. -/
  | setext
deriving DecidableEq, Repr

/-- The name of a style. -/
def Style.name : Style → String
  | .atx => "atx"
  | .atxClosed => "atx_closed"
  | .setext => "setext"

/-- Whether a line ends, but for blanks, with a number sign that some other character than a
backslash precedes. -/
def endsClosed (line : Text) : Bool :=
  match line.reverse.dropWhile Text.isBlank with
  | '#' :: before :: _ => before ≠ '\\'
  | _ => false

end Heading

/-- How the heading that a token opens is written. A heading on one line has number signs. -/
def Token.headingStyle (token : Token) : Heading.Style :=
  match token.range with
  | some range =>
    if range.stop - range.start = 1 then
      if Heading.endsClosed token.line then .atxClosed else .atx
    else .setext
  | none => .setext

end MarkdownCheck
