import MarkdownCheck.Markdown.Block.Container
import MarkdownCheck.Markdown.Block.Definition
import MarkdownCheck.Token

/-!
# Block structure

- `readBlocks`: the blocks of a stretch of lines, containers read to a bounded depth.
- `parseBlocks`: the blocks of a text, with the keys of its link definitions.
- `ParseFailure`: why a text has no blocks.

Every reader takes the lines as they stand inside the containers around it and leaves the number of
the line behind the block. Readers of containers call the reader for what is inside with one level
fewer for a quote, two levels fewer for a list and its item.
-/

namespace MarkdownCheck.Markdown

/-- Why a text has no blocks. -/
inductive ParseFailure where
  /-- The text ends in a block of HTML that is indented, on a line that breaks off inside the
  indentation. Lines are counted from 0. -/
  | brokenIndentation (line : Nat)
deriving DecidableEq, Repr

/-- What has been read: the tokens, the keys of the link definitions, and the next line. -/
structure Blocks where
  tokens : Array Token := #[]
  keys : List Text := []
  next : Nat := 0
  /-- What is wrong with the text, as far as it has been read. -/
  failure : Option ParseFailure := none

/-- A reader of the lines from `start` to `stop` inside containers. -/
abbrev BlockReader := Scope → Lines → (start stop : Nat) → Blocks → Blocks

namespace Blocks

/-- Adds tokens and goes on to a line. -/
def add (blocks : Blocks) (tokens : List Token) (next : Nat) : Blocks :=
  { blocks with tokens := blocks.tokens.appendList tokens, next := next }

/-- Adds the tokens of a container around what is inside it. -/
def wrap (blocks inner : Blocks) (opening closing : Token) : Blocks :=
  { inner with tokens := ((blocks.tokens.push opening) ++ inner.tokens).push closing }

/-- The same state without tokens, for the inside of a container. -/
def inside (blocks : Blocks) : Blocks :=
  { blocks with tokens := #[] }

end Blocks

/-- The lines from `start` up to but not including `stop`. -/
def span (start stop : Nat) : Option LineRange :=
  some ⟨start, stop⟩

/-- The first line from `index` on that is not empty, or the limit. -/
def skipEmpty (lines : Lines) (limit index : Nat) : Nat :=
  index + ((List.range' index (limit - index)).takeWhile fun i => (lines.line i).isEmpty).length

/-! ## Leaves -/

/-- A block with a title or text of its own: its opening, its inline source and its closing. -/
def leaf (kind tag : String) (range inlineRange : Option LineRange) (content markup : Text) :
    List Token := [
  { kind := kind ++ "_open", tag := tag, range := range, markup := markup },
  { kind := "inline", range := inlineRange, content := content },
  { kind := kind ++ "_close", tag := tag, markup := markup }]

/-- The name of the element for a heading. -/
def headingTag (level : Nat) : String :=
  "h" ++ toString level

/-- The line behind an indented code block: blank lines belong to it only between its lines. -/
def codeEnd (scope : Scope) (lines : Lines) (stop : Nat) : (bound index last : Nat) → Nat
  | 0, _, last => last
  | bound + 1, index, last =>
    let line := lines.line index
    if stop ≤ index then last
    else if line.isEmpty then codeEnd scope lines stop bound (index + 1) last
    else if scope.isCode line then codeEnd scope lines stop bound (index + 1) (index + 1)
    else last

/-- Reads an indented code block. -/
def readCode (scope : Scope) (lines : Lines) (start stop : Nat) (blocks : Blocks) :
    Option Blocks :=
  if scope.isCode (lines.line start) then
    let last := codeEnd scope lines stop (stop - start) (start + 1) (start + 1)
    let content := lines.cut start last (4 + scope.indent) false ++ ['\n']
    some (blocks.add
      [{ kind := "code_block", tag := "code", range := span start last, content }] last)
  else none

/-- The line that ends a fenced block and whether it closes it. The block also ends before a line
that leaves its container, and before an empty last line that no line feed ends. -/
def fenceEnd (scope : Scope) (lines : Lines) (fence : FenceStart) (stop : Nat) :
    (bound index : Nat) → Nat × Bool
  | 0, index => (index, false)
  | bound + 1, index =>
    let line := lines.line index
    if stop ≤ index || (!line.isEmpty && !scope.isInside line)
        || (line.isEmpty && !line.isEnded) then
      (index, false)
    else if !line.isEmpty && !scope.isCode line && fence.closedBy line.content then (index, true)
    else fenceEnd scope lines fence stop bound (index + 1)

/-- Reads a fenced block. -/
def readFence (scope : Scope) (lines : Lines) (start stop : Nat) (blocks : Blocks) :
    Option Blocks := do
  let line := lines.line start
  if scope.isCode line then none
  let fence ← FenceStart.at? line.content
  let (last, isClosed) := fenceEnd scope lines fence stop (stop - start) (start + 1)
  let next := if isClosed then last + 1 else last
  let content := lines.cut (start + 1) last line.indent.toNat true
  let token : Token := {
    kind := "fence", tag := "code", range := span start next, content, info := fence.info
    markup := List.replicate fence.size fence.mark }
  some (blocks.add [token] next)

/-- Reads a thematic break. -/
def readBreak (scope : Scope) (lines : Lines) (start : Nat) (blocks : Blocks) : Option Blocks := do
  let line := lines.line start
  if scope.isCode line then none
  let (mark, count) ← thematicBreak? line.content
  let markup := List.replicate (count + 1) mark
  some (blocks.add
    [{ kind := "hr", tag := "hr", range := span start (start + 1), markup }] (start + 1))

/-- The line behind a block of HTML. Empty lines belong to it whatever their indentation, unless one
of them ends it. -/
def htmlEnd (scope : Scope) (lines : Lines) (kind : HtmlBlock) (stop : Nat) :
    (bound index : Nat) → Nat
  | 0, index => index
  | bound + 1, index =>
    let line := lines.line index
    if stop ≤ index || (!line.isEmpty && !scope.isInside line) then index
    else if kind.endsAt line.content then if line.isEmpty then index else index + 1
    else htmlEnd scope lines kind stop bound (index + 1)

/-- Reads a block of HTML. -/
def readHtml (scope : Scope) (lines : Lines) (start stop : Nat) (blocks : Blocks) :
    Option Blocks := do
  let line := lines.line start
  if scope.isCode line then none
  let kind ← HtmlBlock.at? line.content
  let next :=
    if kind.endsAt line.content then start + 1
    else htmlEnd scope lines kind stop (stop - start) (start + 1)
  let content := lines.cut start next scope.indent true
  let read := blocks.add [{ kind := "html_block", range := span start next, content }] next
  some (
    if (lines.line (next - 1)).breaksOff scope.indent then
      { read with failure := some (.brokenIndentation (next - 1)) }
    else read)

/-- Reads a heading with number signs. -/
def readAtx (scope : Scope) (lines : Lines) (start : Nat) (blocks : Blocks) : Option Blocks := do
  let line := lines.line start
  if scope.isCode line then none
  let heading ← AtxHeading.at? line.content
  let range := span start (start + 1)
  some (blocks.add
    (leaf "heading" (headingTag heading.level) range range heading.title
      (List.replicate heading.level '#'))
    (start + 1))

/-- Looks for the underline of a heading whose text has come up to the line at `index`: its line,
its mark and the level. -/
def underline? (scope : Scope) (lines : Lines) (stop : Nat) : (bound index : Nat) →
    Option (Nat × Char × Nat)
  | 0, _ => none
  | bound + 1, index =>
    let line := lines.line index
    if stop ≤ index || line.isEmpty then none
    else if scope.isCode line then underline? scope lines stop bound (index + 1)
    else
      match (setextLevel? line.content).filter fun _ => scope.isInside line with
      | some (mark, level) => some (index, mark, level)
      | none =>
        if scope.continues .paragraph lines index stop then
          underline? scope lines stop bound (index + 1)
        else none

/-- Reads a heading that is underlined. -/
def readSetext (scope : Scope) (lines : Lines) (start stop : Nat) (blocks : Blocks) :
    Option Blocks := do
  if scope.isCode (lines.line start) then none
  let (last, mark, level) ← underline? scope lines stop (stop - start) (start + 1)
  let content := trim (lines.cut start last scope.indent false)
  some (blocks.add
    (leaf "heading" (headingTag level) (span start (last + 1)) (span start last) content [mark])
    (last + 1))

/-- The line behind a paragraph. -/
def paragraphEnd (scope : Scope) (lines : Lines) : (bound index : Nat) → Nat
  | 0, index => index
  | bound + 1, index =>
    if scope.limit ≤ index || (lines.line index).isEmpty
        || !scope.continues .paragraph lines index scope.limit then index
    else paragraphEnd scope lines bound (index + 1)

/-- Reads a paragraph, which may go on behind the end of the container. -/
def readParagraph (scope : Scope) (lines : Lines) (start : Nat) (blocks : Blocks) : Blocks :=
  let next := paragraphEnd scope lines (scope.limit - start) (start + 1)
  let range := span start next
  let content := trim (lines.cut start next scope.indent false)
  blocks.add (leaf "paragraph" "p" range range content []) next

/-- Reads the definition of a link reference. The first definition of a key counts. -/
def readDefinition (scope : Scope) (lines : Lines) (start : Nat) (blocks : Blocks) :
    Option Blocks :=
  (Definition.read? scope lines start).map fun (key, next) =>
    { blocks with keys := key :: blocks.keys, next := next }

/-! ## Tables -/

/-- The tokens of one row of a table with `count` columns. -/
def rowTokens (cellKind : String) (index count : Nat) (cells : List Text) : List Token :=
  let range := span index (index + 1)
  let cell (place : Nat) : List Token := [
    { kind := cellKind ++ "_open", tag := cellKind },
    { kind := "inline", range := range, content := cells.getD place [] },
    { kind := cellKind ++ "_close", tag := cellKind }]
  { kind := "tr_open", tag := "tr", range := range }
    :: (List.range count).flatMap cell ++ [{ kind := "tr_close", tag := "tr" }]

/-- The tokens of the rows of a table's body and the line behind them. `filled` counts the cells
that rows lack so far. -/
def bodyRows (scope : Scope) (lines : Lines) (stop count : Nat) :
    (bound index : Nat) → (filled : Int) → List Token × Nat
  | 0, index, _ => ([], index)
  | bound + 1, index, filled =>
    let line := lines.line index
    if stop ≤ index || !scope.isInside line || scope.isStopped .quoteOrTable lines index stop
        || (trim line.content).isEmpty || scope.isCode line then ([], index)
    else
      let cells := Table.cells line.content
      let filled := filled + (count - cells.length)
      if Table.mostFilledCells < filled then ([], index)
      else
        let (rows, next) := bodyRows scope lines stop count bound (index + 1) filled
        (rowTokens "td" index count cells ++ rows, next)

/-- Reads a table. -/
def readTable (scope : Scope) (lines : Lines) (start stop : Nat) (blocks : Blocks) :
    Option Blocks := do
  let count ← scope.tableColumns? lines start stop
  let headRange := span start (start + 1)
  let head := rowTokens "th" start count (Table.cells (lines.line start).content)
  let (rows, next) := bodyRows scope lines stop count (stop - start) (start + 2) 0
  let body : List Token :=
    if rows.isEmpty then []
    else { kind := "tbody_open", tag := "tbody", range := span (start + 2) next }
      :: rows ++ [{ kind := "tbody_close", tag := "tbody" }]
  some (blocks.add
    ({ kind := "table_open", tag := "table", range := span start next }
      :: { kind := "thead_open", tag := "thead", range := headRange } :: head
      ++ { kind := "thead_close", tag := "thead" } :: body
      ++ [{ kind := "table_close", tag := "table" }])
    next)

/-! ## Quotes -/

/-- The extent of a quote: its lines as they stand inside it, the line behind it, and whether
another block has stopped it there. -/
structure QuoteExtent where
  lines : Lines
  next : Nat
  isStopped : Bool := false

/-- Follows a quote from the line at `index` on. `afterEmpty` tells whether the line before has been
an empty one of the quote; the quote does not go on lazily behind it. -/
def quoteExtent (scope : Scope) (stop : Nat) : (bound index : Nat) → (afterEmpty : Bool) → Lines →
    QuoteExtent
  | 0, index, _, lines => ⟨lines, index, false⟩
  | bound + 1, index, afterEmpty, lines =>
    let line := lines.line index
    if stop ≤ index || line.isEmpty then ⟨lines, index, false⟩
    else
      match line.unquote?.filter fun _ => scope.isInside line with
      | some inner =>
        quoteExtent scope stop bound (index + 1) inner.isEmpty (lines.setIfInBounds index inner)
      | none =>
        if afterEmpty then ⟨lines, index, false⟩
        else if scope.isStopped .quoteOrTable lines index stop then
          let shifted := { line with indent := line.indent - scope.indent }
          ⟨lines.setIfInBounds index shifted, index, true⟩
        else
          let lazy := { line with indent := -1 }
          quoteExtent scope stop bound (index + 1) false (lines.setIfInBounds index lazy)

/-- Reads a quote. -/
def readQuote (inside : BlockReader) (scope : Scope) (lines : Lines) (start stop : Nat)
    (blocks : Blocks) : Option Blocks := do
  let line := lines.line start
  if scope.isCode line then none
  let first ← line.unquote?
  let extent := quoteExtent scope stop (stop - start) (start + 1) first.isEmpty
    (lines.setIfInBounds start first)
  let innerScope : Scope := {
    limit := if extent.isStopped then extent.next else scope.limit
    indent := 0, listIndent := scope.listIndent }
  let inner := inside innerScope extent.lines start extent.next blocks.inside
  some (blocks.wrap inner
    { kind := "blockquote_open", tag := "blockquote", range := span start inner.next
      markup := ['>'] }
    { kind := "blockquote_close", tag := "blockquote", markup := ['>'] })

/-! ## Lists -/

/-- Reads one item of a list. An item that starts with two empty lines has nothing inside. -/
def readItem (inside : BlockReader) (scope : Scope) (lines : Lines) (start stop : Nat)
    (marker : ListMarker) (blocks : Blocks) : Blocks :=
  let (first, indent) := (lines.line start).enterItem marker
  let innerScope : Scope := {
    limit := scope.limit, indent := indent, listIndent := some scope.indent }
  let inner :=
    if first.isEmpty && (lines.line (start + 1)).isEmpty then
      { blocks.inside with next := min (start + 2) stop }
    else inside innerScope (lines.setIfInBounds start first) start stop blocks.inside
  blocks.wrap inner
    { kind := "list_item_open", tag := "li", range := span start inner.next
      markup := [marker.sign], info := marker.number.getD [] }
    { kind := "list_item_close", tag := "li", markup := [marker.sign] }

/-- Reads the items of a list from one with a marker on. -/
def readItems (inside : BlockReader) (scope : Scope) (lines : Lines) (stop : Nat) :
    (bound : Nat) → (start : Nat) → ListMarker → Blocks → Blocks
  | 0, _, _, blocks => blocks
  | bound + 1, start, marker, blocks =>
    let blocks := readItem inside scope lines start stop marker blocks
    let next := blocks.next
    let line := lines.line next
    if stop ≤ next || !scope.isInside line || scope.isCode line
        || scope.isStopped .listItem lines next stop then blocks
    else
      let following :=
        if marker.number.isSome then ListMarker.ordered? line.content
        else ListMarker.bullet? line.content
      match following with
      | some following =>
        if following.sign = marker.sign then
          readItems inside scope lines stop bound next following blocks
        else blocks
      | none => blocks

/-- Reads a list. -/
def readList (inside : BlockReader) (scope : Scope) (lines : Lines) (start stop : Nat)
    (blocks : Blocks) : Option Blocks := do
  let marker ← scope.listMarker? false (lines.line start)
  let inner := readItems inside scope lines stop (stop - start) start marker blocks.inside
  let kind := if marker.number.isSome then "ordered_list" else "bullet_list"
  let tag := if marker.number.isSome then "ol" else "ul"
  some (blocks.wrap inner
    { kind := kind ++ "_open", tag := tag, range := span start inner.next, markup := [marker.sign] }
    { kind := kind ++ "_close", tag := tag, markup := [marker.sign] })

/-! ## All blocks -/

/-- Reads the block that starts at a line. `inQuote` and `inList` read what is inside a quote and
inside an item of a list. -/
def readBlock (inQuote inList : BlockReader) (scope : Scope) (lines : Lines) (start stop : Nat)
    (blocks : Blocks) : Blocks :=
  (readTable scope lines start stop blocks
    <|> readCode scope lines start stop blocks
    <|> readFence scope lines start stop blocks
    <|> readQuote inQuote scope lines start stop blocks
    <|> readBreak scope lines start blocks
    <|> readList inList scope lines start stop blocks
    <|> readDefinition scope lines start blocks
    <|> readHtml scope lines start stop blocks
    <|> readAtx scope lines start blocks
    <|> readSetext scope lines start stop blocks).getD (readParagraph scope lines start blocks)

/-- Reads blocks one after the other. -/
def readEach (inQuote inList : BlockReader) (scope : Scope) (lines : Lines) (stop : Nat) :
    (bound : Nat) → (start : Nat) → Blocks → Blocks
  | 0, _, blocks => blocks
  | bound + 1, start, blocks =>
    if stop ≤ start then blocks
    else
      let first := skipEmpty lines scope.limit start
      let blocks := { blocks with next := first }
      if stop ≤ first || !scope.isInside (lines.line first) then blocks
      else
        let blocks := readBlock inQuote inList scope lines first stop blocks
        let next :=
          if blocks.next < stop && (lines.line blocks.next).isEmpty then blocks.next + 1
          else blocks.next
        readEach inQuote inList scope lines stop bound next { blocks with next := next }

/-- Passes over the lines that are nested too deeply. -/
def skipBlocks : BlockReader :=
  fun scope lines start stop blocks =>
    let first := skipEmpty lines scope.limit start
    if stop ≤ start then blocks
    else if stop ≤ first || !scope.isInside (lines.line first) then { blocks with next := first }
    else { blocks with next := stop }

/-- Reads blocks with at most `depth` levels of containers. -/
def readBlocks : (depth : Nat) → BlockReader
  | 0 => skipBlocks
  | 1 => fun scope lines start stop blocks =>
    readEach skipBlocks skipBlocks scope lines stop (stop - start) start blocks
  | depth + 2 => fun scope lines start stop blocks =>
    readEach (readBlocks (depth + 1)) (readBlocks depth) scope lines stop (stop - start) start
      blocks

/-- Containers are read to this depth, a list and its item counting as two levels. -/
def deepestNesting : Nat := 20

/-- The blocks of a normalized text. Inline tokens hold their source, not yet their children. -/
def parseBlocks (text : Text) : Except ParseFailure Blocks :=
  let lines := (sourceLines text).toArray
  let blocks := readBlocks deepestNesting { limit := lines.size } lines 0 lines.size {}
  match blocks.failure with
  | some failure => .error failure
  | none => .ok blocks

end MarkdownCheck.Markdown
