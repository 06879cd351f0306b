import MarkdownCheck.Markdown.Block.Line

/-!
# Rows of tables

- `Table.columns?`: the number of columns that a delimiter row sets up.
- `Table.cells`: the cells of a row, without the blanks around them.
-/

namespace MarkdownCheck.Markdown.Table

/-- Whether a line has the characters of a delimiter row. A dash at its start is not followed by a
space, which would make a list item. -/
def isDelimiterLine : Text → Bool
  | first :: second :: rest =>
    let isMark (c : Char) : Bool := c = '|' || c = '-' || c = ':'
    isMark first && (isMark second || (isSpace second && first ≠ '-'))
      && rest.all fun c => isMark c || isSpace c
  | _ => false

/-- Whether a cell of the delimiter row has dashes, with or without a colon on either side. -/
def isDelimiterCell (cell : Text) : Bool :=
  let inner := if cell.head? = some ':' then cell.tail else cell
  let dashes := if inner.getLast? = some ':' then inner.dropLast else inner
  !dashes.isEmpty && dashes.all (· = '-')

/-- The number of columns of a delimiter row. Only the first and the last cell may be empty, and
these do not count. -/
def columns? (line : Text) : Option Nat :=
  let cells := (Text.splitAt '|' line).map trim
  let inner := (cells.drop 1).dropLast
  if isDelimiterLine line && (inner.all isDelimiterCell)
      && cells.all (fun cell => cell.isEmpty || isDelimiterCell cell) then
    some (cells.countP (!·.isEmpty))
  else none

/-- Cuts a row at its pipes. A backslash takes the meaning from the pipe behind it and vanishes.
`cell` is what has been read of the present cell (reversed). -/
def splitCells (isEscaped : Bool) (cell : Text) : Text → List Text
  | [] => [cell.reverse]
  | c :: rest =>
    if c = '|' then
      if isEscaped then splitCells false ('|' :: cell.tail) rest
      else cell.reverse :: splitCells false [] rest
    else splitCells (c = '\\') (c :: cell) rest

/-- A list without an empty first and an empty last text. -/
def dropEmptyEnds (cells : List Text) : List Text :=
  let cells := if cells.head? = some [] then cells.tail else cells
  if cells.getLast? = some [] then cells.dropLast else cells

/-- The cells of a row. -/
def cells (line : Text) : List Text :=
  (dropEmptyEnds (splitCells false [] (trim line))).map trim

/-- A table fills short rows with at most this many cells. -/
def mostFilledCells : Int := 0x10000

end MarkdownCheck.Markdown.Table
