import MarkdownCheck.Markdown.Block.Line
import MarkdownCheck.Markdown.Html

/-!
# What a line may start

Recognizers of the first line of a block. Each takes the content of a line, indentation and the
markers of the containers left out.

- `FenceStart.at?`, `thematicBreak?`, `AtxHeading.at?`, `ListMarker.at?`.
- `setextLevel?`: the level that an underline gives to the heading above it.
-/

namespace MarkdownCheck.Markdown

/-- Whether a text holds nothing but spaces and tabs. -/
def isSpaces (text : Text) : Bool :=
  text.all isSpace

/-! ## Fences -/

/-- The opening of a fenced block. -/
structure FenceStart where
  mark : Char
  /-- The number of marks, at least three. -/
  size : Nat
  info : Text
deriving Repr

namespace FenceStart

/-- The fence that a line opens. After backticks there is no other backtick on the line. -/
def at? : Text → Option FenceStart
  | [] => none
  | mark :: rest =>
    let size := (rest.takeWhile (· = mark)).length + 1
    let info := rest.dropWhile (· = mark)
    if (mark = '~' || mark = '\x60') && 3 ≤ size && !(mark = '\x60' && info.contains '\x60') then
      some ⟨mark, size, info⟩
    else none

/-- Whether a line closes the block: at least as many marks and nothing else. -/
def closedBy (fence : FenceStart) (line : Text) : Bool :=
  fence.size ≤ (line.takeWhile (· = fence.mark)).length
    && isSpaces (line.dropWhile (· = fence.mark))

end FenceStart

/-! ## Breaks and headings -/

/-- The number of marks of a thematic break; `none` when the line is none. -/
def thematicBreak? : Text → Option (Char × Nat)
  | [] => none
  | mark :: rest =>
    let count := rest.count mark + 1
    if (mark = '*' || mark = '-' || mark = '_') && (rest.all fun c => c = mark || isSpace c)
        && 3 ≤ count then
      some (mark, count)
    else none

/-- A heading with number signs. -/
structure AtxHeading where
  level : Nat
  title : Text
deriving Repr

/-- Drops the spaces and tabs at the end. -/
def trimSpacesRight (text : Text) : Text :=
  (text.reverse.dropWhile isSpace).reverse

/-- The heading that a line is. A run of number signs behind a space closes it and does not belong
to the title. -/
def AtxHeading.at? (line : Text) : Option AtxHeading :=
  let level := (line.takeWhile (· = '#')).length
  let rest := line.dropWhile (· = '#')
  if 1 ≤ level && level ≤ 6 && rest.head?.all isSpace then
    let shown := trimSpacesRight rest
    let unclosed := (shown.reverse.dropWhile (· = '#')).reverse
    let title := if unclosed.getLast?.any isSpace then unclosed else shown
    some ⟨level, trim title⟩
  else none

/-- The level of the heading above an underline. -/
def setextLevel? : Text → Option (Char × Nat)
  | [] => none
  | mark :: rest =>
    if (mark = '-' || mark = '=') && isSpaces (rest.dropWhile (· = mark)) then
      some (mark, if mark = '=' then 1 else 2)
    else none

/-! ## List items -/

/-- The marker of a list item. -/
structure ListMarker where
  /-- The number of an ordered item, as it is written. -/
  number : Option Text
  /-- The character that the markers of one list share. -/
  sign : Char
deriving Repr

namespace ListMarker

/-- The number of characters of a marker. -/
def width (marker : ListMarker) : Nat :=
  (marker.number.map (·.length)).getD 0 + 1

/-- The marker of a bullet item. -/
def bullet? : Text → Option ListMarker
  | sign :: rest =>
    if (sign = '*' || sign = '-' || sign = '+') && rest.head?.all isSpace then some ⟨none, sign⟩
    else none
  | [] => none

/-- The marker of an ordered item, with at most nine digits. -/
def ordered? (line : Text) : Option ListMarker :=
  let number := line.takeWhile Char.isDigit
  match line.dropWhile Char.isDigit with
  | sign :: rest =>
    if 1 ≤ number.length && number.length ≤ 9 && (sign = '.' || sign = ')')
        && rest.head?.all isSpace then
      some ⟨some number, sign⟩
    else none
  | [] => none

/-- The marker of a list item. -/
def at? (line : Text) : Option ListMarker :=
  (ordered? line).or (bullet? line)

/-- Whether the item has the number 1 or no number. Only such a list may start inside a
paragraph. -/
def startsAtOne (marker : ListMarker) : Bool :=
  match marker.number with
  | some number => number.dropWhile (· = '0') = ['1']
  | none => true

end ListMarker

end MarkdownCheck.Markdown
