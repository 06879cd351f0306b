import MarkdownCheck.Markdown.Block.Marker

/-!
# Quotes and list items

- `Line.unquote?`: a line inside the quote whose marker it starts with.
- `Line.enterItem`: a line inside the list item whose marker it starts with, and how far the
  content of the item is indented.
-/

namespace MarkdownCheck.Markdown.Line

/-- A line behind its quote marker and the space that belongs to the marker. A tab may belong to it
in part: then it stays, and counts a column less. -/
def unquote? (line : Line) : Option Line :=
  match line.content with
  | '>' :: after =>
    let markerEnd := line.indent.toNat + 1
    let enter (body : Text) (start shifted spaces : Nat) : Line :=
      let (count, reached) := measure (line.column + shifted) start body
      { body := body, shift := count, indent := (reached : Int) - start
        column := markerEnd + spaces, isEnded := line.isEnded }
    match after with
    | ' ' :: body => some (enter body (markerEnd + 1) 0 1)
    | '\t' :: body =>
      if (line.column + markerEnd) % 4 = 3 then some (enter body (markerEnd + 1) 0 1)
      else some (enter after markerEnd 1 1)
    | _ => some (enter after markerEnd 0 0)
  | _ => none

/-- A line inside the list item whose marker it starts with, and the columns by which the content
of the item is indented. An item that starts with an empty line, or with more than four columns of
indentation, has its content one column behind the marker. -/
def enterItem (line : Line) (marker : ListMarker) : Line × Nat :=
  let start := line.indent.toNat + marker.width
  let after := line.content.drop marker.width
  let (count, reached) := measure line.column start after
  let inner := { line with shift := line.shift + marker.width + count, indent := reached }
  let padding := if after.length ≤ count || reached - start > 4 then 1 else reached - start
  (inner, start + padding)

end MarkdownCheck.Markdown.Line
