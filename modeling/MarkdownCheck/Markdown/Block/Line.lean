import MarkdownCheck.Markdown.Blank

/-!
# Lines as block structure sees them

A line inside quotes and lists is read without the markers of the containers around it. `Line` keeps
what is left of it and how far that is indented, tabs counted up to the next multiple of four
columns.

- `normalize`: brings line ends to line feeds and replaces null characters.
- `sourceLines`: the lines of a normalized text. A last line of nothing but blanks that no line feed
  ends does not count.
- `Line.cut`: a line without some columns of its indentation.
-/

namespace MarkdownCheck.Markdown

/-! ## The text -/

/-- Line ends as line feeds, and the replacement character for the null character. -/
def normalize : Text → Text
  | [] => []
  | '\r' :: '\n' :: rest => '\n' :: normalize rest
  | c :: rest =>
    (if c = '\r' then '\n' else if c = '\x00' then '\ufffd' else c) :: normalize rest

/-- The column after a tab stop, for a tab at a column. -/
def nextStop (column : Nat) : Nat :=
  column + (4 - column % 4)

/-- Counts the spaces and tabs that start a text, and the columns they reach from `offset` on.
Tab stops are counted `shifted` columns further left. -/
def measure (shifted : Nat) : (offset : Nat) → Text → Nat × Nat
  | offset, ' ' :: rest =>
    let (count, reached) := measure shifted (offset + 1) rest
    (count + 1, reached)
  | offset, '\t' :: rest =>
    let (count, reached) := measure shifted (nextStop (offset + shifted) - shifted) rest
    (count + 1, reached)
  | offset, _ => (0, offset)

/-! ## Lines -/

/-- A line inside its containers. -/
structure Line where
  /-- What is left of the line. -/
  body : Text := []
  /-- The characters of `body` before its content: indentation, and the marker of a list item that
  starts on this line. -/
  shift : Nat := 0
  /-- The column of the content. It is negative on a line that continues a paragraph of a quote
  without a quote marker. -/
  indent : Int := 0
  /-- The column of the whole line at which `body` starts. -/
  column : Nat := 0
  /-- Whether a line feed ends the line. -/
  isEnded : Bool := false
deriving Repr, Inhabited

namespace Line

/-- A line of the source. -/
def ofText (body : Text) (isEnded : Bool) : Line :=
  let (count, columns) := measure 0 0 body
  { body := body, shift := count, indent := columns, isEnded := isEnded }

/-- The line behind its indentation. -/
def content (line : Line) : Text :=
  line.body.drop line.shift

/-- A line with nothing but blanks. -/
def isEmpty (line : Line) : Bool :=
  line.content.isEmpty

/-- The content with the line feed that ends the line. -/
def endedContent (line : Line) : Text :=
  if line.isEnded then line.content ++ ['\n'] else line.content

/-- Drops characters until `wanted` columns are gone: `seen` characters and `columns` columns have
been dropped before. A tab that reaches further leaves spaces behind. -/
def cutFrom (line : Line) (wanted seen columns : Nat) : Text → Text
  | [] => List.replicate (columns - wanted) ' '
  | c :: rest =>
    if wanted ≤ columns then List.replicate (columns - wanted) ' ' ++ c :: rest
    else if c = '\t' then
      line.cutFrom wanted (seen + 1) (nextStop (columns + line.column) - line.column) rest
    else if c = ' ' || seen < line.shift then line.cutFrom wanted (seen + 1) (columns + 1) rest
    else c :: rest

/-- A line without `wanted` columns of its indentation. -/
def cut (line : Line) (wanted : Nat) : Text :=
  line.cutFrom wanted 0 0 line.body

/-- Whether the text ends on this line, before the line has reached `wanted` columns: there is
nothing behind it that could be cut. -/
def breaksOff (line : Line) (wanted : Nat) : Bool :=
  line.isEmpty && !line.isEnded && (measure line.column 0 line.body).2 < wanted

end Line

/-- The lines of a normalized text, of which `before` (reversed) has been read on this line. -/
def sourceLinesFrom (before : Text) : Text → List Line
  | [] =>
    let body := before.reverse
    if body.all isSpace then [] else [.ofText body false]
  | c :: rest =>
    if c = '\n' then .ofText before.reverse true :: sourceLinesFrom [] rest
    else sourceLinesFrom (c :: before) rest

/-- The lines of a normalized text. -/
def sourceLines (text : Text) : List Line :=
  sourceLinesFrom [] text

/-! ## Stretches of lines -/

/-- The lines of a document as they appear inside the containers around them. -/
abbrev Lines := Array Line

namespace Lines

/-- A line; behind the last one there are only empty lines. -/
def line (lines : Lines) (index : Nat) : Line :=
  lines.getD index {}

/-- The text of the lines from `start` to `stop`, each without `wanted` columns. The line feed
behind the last one is kept if `keepEnd`. -/
def cut (lines : Lines) (start stop wanted : Nat) (keepEnd : Bool) : Text :=
  (List.range' start (stop - start)).flatMap fun index =>
    let line := lines.line index
    let text := line.cut wanted
    if line.isEnded && (keepEnd || index + 1 < stop) then text ++ ['\n'] else text

end Lines

end MarkdownCheck.Markdown
