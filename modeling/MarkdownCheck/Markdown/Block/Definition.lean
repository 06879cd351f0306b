import MarkdownCheck.Markdown.Block.Scope
import MarkdownCheck.Markdown.Link.Address
import MarkdownCheck.Markdown.Link.Label
import MarkdownCheck.Markdown.Link.Target

/-!
# Definitions of link references

A definition `[label]: destination "title"` may run over several lines. `Source` is what is left of
the line that is being read, with the number of the line that comes next.

- `Definition.read?`: the definition that starts at a line, its key and the line behind it.
-/

namespace MarkdownCheck.Markdown

/-- What is left of a line, and the number of the next one. -/
structure Source where
  rest : Text
  next : Nat
deriving Repr

namespace Definition

/-- The line with this number, if the definition may go on there. -/
def nextLine? (scope : Scope) (lines : Lines) (index : Nat) : Option Text :=
  let line := lines.line index
  if index < scope.limit && !line.isEmpty && scope.continues .reference lines index scope.limit then
    some line.endedContent
  else none

/-- The source behind a line feed: the next line, or nothing. -/
def Source.advance (scope : Scope) (lines : Lines) (source : Source) : Source :=
  match nextLine? scope lines source.next with
  | some text => ⟨text, source.next + 1⟩
  | none => ⟨[], source.next⟩

/-- Reads a label up to its closing bracket: the label and what follows. `label` is what has been
read of it (reversed). The first argument bounds the steps. -/
def readLabel (scope : Scope) (lines : Lines) : Nat → (label : Text) → Source →
    Option (Text × Source)
  | 0, _, _ => none
  | bound + 1, label, source =>
    match source.rest with
    | [] => none
    | '[' :: _ => none
    | ']' :: rest => some (label.reverse, { source with rest := rest })
    | '\n' :: _ =>
      readLabel scope lines bound ('\n' :: label) (Source.advance scope lines source)
    | '\\' :: '\n' :: _ =>
      readLabel scope lines bound ('\n' :: '\\' :: label) (Source.advance scope lines source)
    | '\\' :: c :: rest =>
      readLabel scope lines bound (c :: '\\' :: label) { source with rest := rest }
    | c :: rest => readLabel scope lines bound (c :: label) { source with rest := rest }

/-- Skips spaces, tabs and line feeds. The first argument bounds the line feeds. -/
def skipBlankLines (scope : Scope) (lines : Lines) : Nat → Source → Source
  | 0, source => source
  | bound + 1, source =>
    match skipSpaces source.rest with
    | '\n' :: _ => skipBlankLines scope lines bound (Source.advance scope lines source)
    | rest => { source with rest := rest }

/-- Reads on in a title over several lines: whether the title is empty, and what follows it. The
first argument bounds the number of lines. -/
def readTitle (scope : Scope) (lines : Lines) (mark : Char) : Nat → (isEmpty : Bool) → Source →
    Option (Bool × Source)
  | 0, _, _ => none
  | bound + 1, isEmpty, source =>
    match takeTitleBody mark isEmpty source.rest with
    | .closed isEmpty rest => some (isEmpty, { source with rest := rest })
    | .absent => none
    | .unfinished =>
      match nextLine? scope lines source.next with
      | some text => readTitle scope lines mark bound false ⟨text, source.next + 1⟩
      | none => none

/-- The title behind a destination: whether it is empty, and what follows it. There have to be
blanks before it, unless it goes on on the next line. -/
def title? (scope : Scope) (lines : Lines) (destinationEnd : Source) : Option (Bool × Source) :=
  let bound := lines.size + 1
  let source := skipBlankLines scope lines bound destinationEnd
  match source.rest with
  | [] => none
  | c :: rest => do
    let mark ← closingMark? c
    let (isEmpty, after) ← readTitle scope lines mark bound true { source with rest := rest }
    let isApart := source.next ≠ destinationEnd.next
      || source.rest.length ≠ destinationEnd.rest.length
    if isApart || after.next ≠ source.next then some (isEmpty, after) else none

/-- Whether nothing else stands on the line. -/
def endsLine (source : Source) : Bool :=
  (skipSpaces source.rest).head?.all (· = '\n')

/-- The definition that starts at a line: the key of its label and the number of the line behind
it. -/
def read? (scope : Scope) (lines : Lines) (start : Nat) : Option (Text × Nat) := do
  let line := lines.line start
  if scope.isCode line then none
  let rest ← Text.dropPrefix? ['['] line.endedContent
  let bound := lines.foldl (fun sum line => sum + line.body.length + 2) 0
  let (label, source) ← readLabel scope lines bound [] ⟨rest, start + 1⟩
  let rest ← Text.dropPrefix? [':'] source.rest
  let source := skipBlankLines scope lines (lines.size + 1) { source with rest := rest }
  let (destination, rest) ← takeDestination? source.rest
  if !Address.isSafe destination then none
  let destinationEnd : Source := { source with rest := rest }
  let finish ← match title? scope lines destinationEnd with
    | some (isEmpty, after) =>
      if endsLine after then some after
      else if !isEmpty && endsLine destinationEnd then some destinationEnd
      else none
    | none => if endsLine destinationEnd then some destinationEnd else none
  let key := referenceKey label
  if key.isEmpty then none else some (key, finish.next)

end Definition

end MarkdownCheck.Markdown
