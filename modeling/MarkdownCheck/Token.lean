import MarkdownCheck.Text.Basic

/-!
# Tokens

- `Token`: one token of a document, with the source line that it starts on.
- `LineRange`: the lines that a token spans, from `start` up to but not including `stop`.
- `Markdown.Token`: a token as the parser makes it. It knows its lines but not their text.

The kinds of tokens are an open set: `heading_open`, `bullet_list_close` and so on. Predicates on
kinds stand with the module that needs them.
-/

namespace MarkdownCheck

/-- Lines from `start` up to but not including `stop`, counted from 0. A range that comes from
outside may be negative, empty or reversed. -/
structure LineRange where
  start : Int
  stop : Int
deriving DecidableEq, Repr, Inhabited

/-- A token of a document. -/
structure Token where
  /-- What the token is, such as `inline` or `ordered_list_open`. -/
  kind : String
  /-- The name of the element it stands for. -/
  tag : String := ""
  /-- The source line it starts on, empty when it has no lines. -/
  line : Text := []
  /-- The number of that line, counted from 1. -/
  lineNumber : Option Int := none
  /-- The lines it spans. -/
  range : Option LineRange := none
  /-- Its text: inline source, code, markup taken over as it stands. -/
  content : Text := []
  /-- The characters that mark it in the source. -/
  markup : Text := []
  /-- The rest of an opening fence, the number of a list item, and the like. -/
  info : Text := []
  /-- The inline tokens inside it. -/
  children : List Token := []
deriving Repr, Inhabited

namespace Markdown

/-- A token as the parser makes it. -/
structure Token where
  kind : String
  /-- The name of the element that it stands for. -/
  tag : String := ""
  /-- The lines that it spans; inline tokens have none. -/
  range : Option LineRange := none
  content : Text := []
  markup : Text := []
  info : Text := []
  children : List Token := []
deriving Repr, Inhabited

end Markdown

end MarkdownCheck
