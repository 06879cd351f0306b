import MarkdownCheck.Text.Basic

/-!
# Reading TOML

- `Toml.Failure`: why a text is no TOML document.
- `Toml.Reader`: reads something at the start of a text and leaves the rest.
- `skipSpaces`, `skipComment`, `skipGaps`: what stands between the parts of a document.
-/

namespace MarkdownCheck.Toml

/-- Why a text is no document. -/
inductive Failure where
  /-- It breaks a rule of the language. -/
  | invalid
  /-- It holds an integer of this many decimal digits, which is more than can be read. -/
  | hugeInteger (digits : Nat)
deriving DecidableEq, Repr

/-- Reads something at the start of a text and leaves the rest. -/
abbrev Reader (α : Type) := Text → Except Failure (α × Text)

/-- A space or a tab. -/
def isSpace (c : Char) : Bool :=
  c = ' ' || c = '\t'

/-- A control character that no text may hold. The tab is none. -/
def isControl (c : Char) : Bool :=
  (c < ' ' && c ≠ '\t') || c = '\x7f'

/-- Line ends of carriage return and line feed as line feeds. -/
def joinLineEnds : Text → Text
  | [] => []
  | '\r' :: '\n' :: rest => '\n' :: joinLineEnds rest
  | c :: rest => c :: joinLineEnds rest

/-- A text without the spaces and tabs at its start. -/
def skipSpaces (text : Text) : Text :=
  text.dropWhile isSpace

/-- A text from the end of a comment on, if one starts it. -/
def skipComment (text : Text) : Except Failure Text :=
  match text with
  | '#' :: rest =>
    if (rest.takeWhile (· ≠ '\n')).any isControl then .error .invalid
    else .ok (rest.dropWhile (· ≠ '\n'))
  | _ => .ok text

/-- A text without the spaces, tabs, line feeds and comments at its start. A comment runs up to its
line end, so the number of line ends bounds that of comments. -/
def skipGapsWithin : Nat → Text → Except Failure Text
  | 0, text => .ok text
  | bound + 1, text =>
    match text.dropWhile fun c => isSpace c || c = '\n' with
    | '#' :: rest => (skipComment ('#' :: rest)).bind (skipGapsWithin bound)
    | rest => .ok rest

/-- A text without the spaces, tabs, line feeds and comments at its start. -/
def skipGaps (text : Text) : Except Failure Text :=
  skipGapsWithin (text.length + 1) text

end MarkdownCheck.Toml
