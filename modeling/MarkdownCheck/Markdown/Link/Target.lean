import MarkdownCheck.Markdown.Block.Line
import MarkdownCheck.Markdown.Link.Escaped

/-!
# Destinations and titles of links

- `takeDestination?`: the destination at the start of a text.
- `takeTitle?`: the title at the start of a text.
- `skipSpaces`, `skipBlanks`: what stands between them.
-/

namespace MarkdownCheck.Markdown

/-- A text without the spaces and tabs that start it. -/
def skipSpaces (text : Text) : Text :=
  text.dropWhile isSpace

/-- A text without the spaces, tabs and line feeds that start it. -/
def skipBlanks (text : Text) : Text :=
  text.dropWhile fun c => isSpace c || c = '\n'

/-- A destination between angle brackets, read from behind the first: its source and the rest. -/
def takeBracketed? : Text → Option (Text × Text)
  | [] => none
  | '\\' :: c :: rest =>
    (takeBracketed? rest).map fun (inside, after) => ('\\' :: c :: inside, after)
  | c :: rest =>
    if c = '>' then some ([], rest)
    else if c = '\n' || c = '<' then none
    else (takeBracketed? rest).map fun (inside, after) => (c :: inside, after)

/-- A bare destination with `depth` parentheses open: its source and the rest; `none` when the
parentheses are not balanced or nested too deeply. -/
def takeBare? (depth : Nat) : Text → Option (Text × Text)
  | [] => if depth = 0 then some ([], []) else none
  | '\\' :: c :: rest =>
    if c = ' ' then if depth = 0 then some ([], '\\' :: c :: rest) else none
    else (takeBare? depth rest).map fun (inside, after) => ('\\' :: c :: inside, after)
  | c :: rest =>
    let finish := if depth = 0 then some ([], c :: rest) else none
    let more depth := (takeBare? depth rest).map fun (inside, after) => (c :: inside, after)
    if c ≤ ' ' || c = '\x7f' then finish
    else if c = '(' then if depth < 32 then more (depth + 1) else none
    else if c = ')' then if depth = 0 then finish else more (depth - 1)
    else more depth

/-- The destination at the start of a text, escapes resolved, and what follows it. -/
def takeDestination? : Text → Option (Text × Text)
  | '<' :: rest => (takeBracketed? rest).map fun (source, after) => (unescape source, after)
  | text => do
    let (source, after) ← takeBare? 0 text
    if source.isEmpty then none else some (unescape source, after)

/-- How far a title reaches. -/
inductive TitleEnd where
  /-- Its closing mark is read; `rest` follows it. -/
  | closed (isEmpty : Bool) (rest : Text)
  /-- The text ends inside the title. -/
  | unfinished
  /-- No title stands here. -/
  | absent
deriving Repr

/-- Reads a title up to its closing mark; `isEmpty` tells whether nothing of it has been read. -/
def takeTitleBody (mark : Char) (isEmpty : Bool) : Text → TitleEnd
  | [] => .unfinished
  | '\\' :: _ :: rest => takeTitleBody mark false rest
  | c :: rest =>
    if c = mark then .closed isEmpty rest
    else if c = '(' && mark = ')' then .absent
    else takeTitleBody mark false rest

/-- The mark that closes a title that starts with a character. -/
def closingMark? (c : Char) : Option Char :=
  if c = '"' || c = '\'' then some c else if c = '(' then some ')' else none

/-- The title at the start of a text. -/
def takeTitle : Text → TitleEnd
  | [] => .absent
  | c :: rest =>
    match closingMark? c with
    | some mark => takeTitleBody mark true rest
    | none => .absent

end MarkdownCheck.Markdown
