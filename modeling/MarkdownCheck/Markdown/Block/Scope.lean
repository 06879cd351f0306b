import MarkdownCheck.Markdown.Block.Marker
import MarkdownCheck.Markdown.Block.Table

/-!
# What stops a block

A paragraph, a table, a quote or a list item goes on until a line starts something else. What may
stop it depends on what it is.

- `Scope`: the lines around a block as far as they matter for reading it.
- `Scope.isStopped`: whether a line stops a block of some kind.
-/

namespace MarkdownCheck.Markdown

/-- The surroundings of a block. -/
structure Scope where
  /-- Lines from here on are out of reach, even for lazy continuation. -/
  limit : Nat
  /-- The columns by which content has to be indented, set by the list item around it. -/
  indent : Nat := 0
  /-- The indentation of the list around the present one. -/
  listIndent : Option Nat := none

/-- A kind of block that other blocks may stop. -/
inductive Interruptible where
  | paragraph
  | reference
  | quoteOrTable
  | listItem
deriving DecidableEq, Repr

namespace Scope

/-- Whether a line is indented far enough for an indented code block. -/
def isCode (scope : Scope) (line : Line) : Bool :=
  4 ≤ line.indent - scope.indent

/-- Whether a line belongs to the containers around the block. -/
def isInside (scope : Scope) (line : Line) : Bool :=
  scope.indent ≤ line.indent

/-- Whether a table starts at a line: a row of cells above a delimiter row of equally many. Gives
the number of columns. -/
def tableColumns? (scope : Scope) (lines : Lines) (start stop : Nat) : Option Nat :=
  let heading := lines.line start
  let delimiter := lines.line (start + 1)
  if start + 2 ≤ stop && scope.isInside delimiter && !scope.isCode delimiter
      && !scope.isCode heading && heading.content.contains '|' then
    (Table.columns? delimiter.content).filter fun count =>
      0 < count && (Table.cells heading.content).length = count
  else none

/-- The marker of a list that may start at a line. Inside a paragraph only a list that is not empty
and starts at 1 may, unless the line leaves the list item that the paragraph is in. -/
def listMarker? (scope : Scope) (inParagraph : Bool) (line : Line) : Option ListMarker :=
  let isDeep := scope.listIndent.any fun around =>
    4 ≤ line.indent - around && line.indent < scope.indent
  if scope.isCode line || isDeep then none
  else
    (ListMarker.at? line.content).filter fun marker =>
      !(inParagraph && scope.isInside line)
        || (marker.startsAtOne && !isSpaces (line.content.drop marker.width))

/-- Whether the line at `index` stops a block of some kind that could go on up to `stop`. -/
def isStopped (scope : Scope) (kind : Interruptible) (lines : Lines) (index stop : Nat) : Bool :=
  let line := lines.line index
  let content := line.content
  !scope.isCode line
      && ((FenceStart.at? content).isSome || content.head? = some '>'
        || (thematicBreak? content).isSome)
    || kind ≠ .listItem
      && ((scope.listMarker? (kind = .paragraph) line).isSome
        || !scope.isCode line
          && ((HtmlBlock.at? content).any (·.interrupts) || (AtxHeading.at? content).isSome))
    || (kind = .paragraph || kind = .reference) && (scope.tableColumns? lines index stop).isSome

/-- Whether the line at `index` continues a paragraph or a definition that has come this far:
either it stands too deep or lies outside the quote, so that nothing can start there, or nothing
starts there. -/
def continues (scope : Scope) (kind : Interruptible) (lines : Lines) (index stop : Nat) : Bool :=
  let line := lines.line index
  scope.isCode line || line.indent < 0 || !scope.isStopped kind lines index stop

end Scope

end MarkdownCheck.Markdown
