import MarkdownCheck.Toml.Content

/-!
# Documents of TOML

- `Draft`: what has been read of a document.
- `Draft.addPair`, `Draft.openTable`, `Draft.openItem`: what the statements do.
- `parse`: the table that a text stands for.
-/

namespace MarkdownCheck.Toml

/-- What has been read of a document. -/
structure Draft where
  entries : Entries := []
  spaces : Namespaces := {}
  /-- The table that the last header has opened. -/
  header : Key := []

namespace Draft

/-- The tables between the present one and the last name of a key. -/
def between (header key : Key) : List Key :=
  (List.range (key.length - 1)).map fun i => header ++ key.take (i + 1)

/-- Adds an entry to the present table. -/
def addPair (draft : Draft) (key : Key) (value : Value) : Except Failure Draft :=
  let path := between draft.header key
  let parent := draft.header ++ key.dropLast
  if (path.any draft.spaces.isOpened) || draft.spaces.isFrozen parent then .error .invalid
  else
    match insertAt? true parent (key.getLast?.getD []) value draft.entries with
    | none => .error .invalid
    | some entries =>
      let spaces := { draft.spaces with pending := path ++ draft.spaces.pending }
      let full := draft.header ++ key
      .ok { draft with entries, spaces := if hasParts value then spaces.freeze full else spaces }

/-- Opens a table. -/
def openTable (draft : Draft) (key : Key) : Except Failure Draft :=
  if draft.spaces.isOpened key || draft.spaces.isFrozen key then .error .invalid
  else
    match openAt? key draft.entries with
    | none => .error .invalid
    | some entries => .ok { entries, spaces := draft.spaces.openTable key, header := key }

/-- Opens a new table in a list of tables. What was said about the one before is forgotten. -/
def openItem (draft : Draft) (key : Key) : Except Failure Draft :=
  if draft.spaces.isFrozen key then .error .invalid
  else
    match appendAt? key.dropLast (key.getLast?.getD []) draft.entries with
    | none => .error .invalid
    | some entries =>
      .ok { entries, spaces := (draft.spaces.forget key).openTable key, header := key }

/-- Ends the section of the last header. -/
def endSection (draft : Draft) : Draft :=
  { draft with spaces := draft.spaces.endSection }

/-- Reads the statement at the start of a text, up to what has to follow on its line. -/
def statement (draft : Draft) : Text → Except Failure (Draft × Text)
  | '[' :: '[' :: text => do
    let (key, rest) ← takeKey (skipSpaces text)
    let next ← draft.endSection.openItem key
    match rest with
    | ']' :: ']' :: rest => .ok (next, skipSpaces rest)
    | _ => .error .invalid
  | '[' :: text => do
    let (key, rest) ← takeKey (skipSpaces text)
    let next ← draft.endSection.openTable key
    match rest with
    | ']' :: rest => .ok (next, skipSpaces rest)
    | _ => .error .invalid
  | '#' :: rest => .ok (draft, '#' :: rest)
  | text => do
    let ((key, value), rest) ← takePair text
    let next ← draft.addPair key value
    .ok (next, skipSpaces rest)

/-- Reads at most `bound` lines. -/
def lines : (bound : Nat) → Draft → Text → Except Failure Draft
  | 0, draft, _ => .ok draft
  | bound + 1, draft, text =>
    match skipSpaces text with
    | [] => .ok draft
    | '\n' :: rest => lines bound draft rest
    | start => do
      let (next, rest) ← draft.statement start
      match ← skipComment rest with
      | [] => .ok next
      | '\n' :: rest => lines bound next rest
      | _ => .error .invalid

end Draft

/-- The table that a text stands for. -/
def parse (text : Text) : Except Failure Entries :=
  let source := joinLineEnds text
  (Draft.lines (source.length + 1) {} source).map (·.entries)

end MarkdownCheck.Toml
