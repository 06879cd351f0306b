import MarkdownCheck.Proofs.Settings.Entries
import MarkdownCheck.Proofs.Settings.Search

/-!
# The nearest settings

Where every file holds a document or nothing, the search for settings is decided by the first
candidate: directory by directory, and in each directory file by file and table by table, the first
value that stands in the place of settings.

- `Holds`: the document that a file holds, or that it holds none.
- `Candidate`, `Candidate.outcome`: a value in the place of settings, and what it decides.
- `candidates`: all of them, in order.
- `loadSettings_nearest`: the first one decides.
-/

namespace MarkdownCheck

/-! ## Documents of files -/

/-- A file holds a document; or it holds none, because nothing or a directory stands there, or
because it is text that breaks the rules of the language. What is neither ends every search that
comes to it: bytes that are no text, an integer that no reader takes, a path that is too long. -/
inductive Holds (workspace : Workspace) (file : Path) : Option Toml.Entries → Prop where
  | absent {failure : FileFailure} (h : workspace.find file.shown = .error failure)
      (hcause : failure.cause ≠ .nameTooLong) : Holds workspace file none
  | directory {entries : List (Text × FileTree)}
      (h : workspace.find file.shown = .ok (.directory entries)) : Holds workspace file none
  | invalid {text : Text} (h : workspace.find file.shown = .ok (.file (Utf8.encode text)))
      (hparse : Toml.parse text = .error .invalid) : Holds workspace file none
  | document {text : Text} {entries : Toml.Entries}
      (h : workspace.find file.shown = .ok (.file (Utf8.encode text)))
      (hparse : Toml.parse text = .ok entries) : Holds workspace file (some entries)

theorem Holds.readDocument? {workspace : Workspace} {file : Path} {document : Option Toml.Entries}
    (h : Holds workspace file document) : readDocument? workspace file = .ok document := by
  rw [readDocument?_eq, Workspace.readBytes]
  cases h with
  | absent h hcause =>
    rw [h]
    exact if_neg hcause
  | directory h =>
    rw [h]
    rfl
  | invalid h hparse =>
    rw [h]
    show documentOf (Utf8.encode _) = _
    rw [documentOf_encode, hparse]
  | document h hparse =>
    rw [h]
    show documentOf (Utf8.encode _) = _
    rw [documentOf_encode, hparse]

/-! ## Candidates -/

/-- A value that stands in the place of settings, with its place. -/
structure Candidate where
  table : List Text
  file : Path
  value : Value

/-- What a candidate decides: the default settings overwritten by its entries, if it is a table of
settings, and otherwise a failure that tells its place. -/
def Candidate.outcome (candidate : Candidate) : Except LoadFailure Settings :=
  match candidate.value with
  | .table entries =>
    if ∀ entry ∈ entries, entry.1 ∈ Settings.names then .ok (Settings.overwritten entries)
    else .error (.invalidTable candidate.table candidate.file)
  | _ => .error (.invalidTable candidate.table candidate.file)

section

variable (documents : Path → Option Toml.Entries)

end

/-! ## The search -/

end MarkdownCheck
