import MarkdownCheck.Markdown.Blank
import MarkdownCheck.Token
import MarkdownCheck.Markdown.Link.Escaped
import MarkdownCheck.Unicode.Symbol

/-!
# Reading inline structure

- `InlineSource`: the text that is read and what is known about the document.
- `InlineState`: how far it has been read and what has come out.
- `Delimiter`: a character of a run that may open or close emphasis.
- `InlineState.scanRun`: what the characters around a run allow it to do.
-/

namespace MarkdownCheck.Markdown

/-- The text of an inline token. -/
structure InlineSource where
  chars : Array Char
  /-- The keys of the link references of the document. -/
  keys : List Text

namespace InlineSource

/-- The characters from `start` up to but not including `stop`. -/
def slice (source : InlineSource) (start stop : Nat) : Text :=
  (source.chars.extract start stop).toList

/-- The text from a position on. -/
def rest (source : InlineSource) (start : Nat) : Text :=
  source.slice start source.chars.size

end InlineSource

/-- A character of a run that may open or close emphasis. -/
structure Delimiter where
  mark : Char
  /-- The length of the whole run. -/
  size : Nat
  /-- The place of its token. -/
  token : Nat
  opens : Bool
  closes : Bool
  /-- The delimiter that closes what this one opens. -/
  partner : Option Nat := none
deriving Repr, Inhabited

/-- How far a text has been read and what has come out. -/
structure InlineState where
  position : Nat
  /-- Reading ends here: at the end of the text, or of the label of a link that is being read. -/
  stop : Nat
  /-- Characters of the text token to come (reversed). -/
  pending : Text := []
  tokens : Array Token := #[]
  /-- The delimiters of the text and of each link in it. Delimiters pair up within a group. -/
  groups : Array (Array Delimiter) := #[#[]]
  /-- The group that delimiters join now. -/
  group : Nat := 0
  /-- The groups around it. -/
  around : List Nat := []
  /-- Where the token at a position ends, as far as that is known. -/
  ends : Array (Option Nat)

namespace InlineState

/-- The start of a text. -/
def start (source : InlineSource) : InlineState where
  position := 0
  stop := source.chars.size
  ends := Array.replicate (source.chars.size + 1) none

/-- The character at the position, as long as there is something to read. -/
def current? (state : InlineState) (source : InlineSource) : Option Char :=
  if state.position < state.stop then source.chars[state.position]? else none

/-- The text from `start` up to where reading ends. -/
def restFrom (state : InlineState) (source : InlineSource) (start : Nat) : Text :=
  source.slice start state.stop

/-- The same state at another position. -/
def moveTo (state : InlineState) (position : Nat) : InlineState :=
  { state with position := position }

/-- Adds text to the token to come. -/
def append (state : InlineState) (text : Text) : InlineState :=
  { state with pending := text.reverse ++ state.pending }

/-- Makes a token of the pending text. -/
def flush (state : InlineState) : InlineState :=
  if state.pending.isEmpty then state
  else
    { state with
      tokens := state.tokens.push { kind := "text", content := state.pending.reverse }
      pending := [] }

/-- Adds a token behind the pending text. -/
def push (state : InlineState) (token : Token) : InlineState :=
  let flushed := state.flush
  { flushed with tokens := flushed.tokens.push token }

/-- Adds a token that opens a link, with a group of delimiters of its own. -/
def pushOpening (state : InlineState) (token : Token) : InlineState :=
  let pushed := state.push token
  { pushed with
    groups := pushed.groups.push #[]
    group := pushed.groups.size
    around := pushed.group :: pushed.around }

/-- Adds a token that closes a link and returns to the group around it. -/
def pushClosing (state : InlineState) (token : Token) : InlineState :=
  let pushed := state.push token
  { pushed with group := pushed.around.headD 0, around := pushed.around.tail }

/-- Adds a delimiter to the present group. -/
def pushDelimiter (state : InlineState) (delimiter : Delimiter) : InlineState :=
  { state with groups := state.groups.modify state.group (·.push delimiter) }

/-! ## Runs of delimiters -/

/-- Punctuation around delimiters. -/
def isSign (c : Char) : Bool :=
  isAsciiSign c || Unicode.isSymbol c

/-- A run of delimiters: its length and what it may do. -/
structure Run where
  size : Nat
  opens : Bool
  closes : Bool
deriving Repr

/-- The run of `mark` at the position. The ends of the text count as blanks. A run inside a word may
open or close only if it `splitsWords`. -/
def scanRun (state : InlineState) (source : InlineSource) (mark : Char) (splitsWords : Bool) :
    Run :=
  let size := ((state.restFrom source state.position).takeWhile (· = mark)).length
  let behind := state.position + size
  let last :=
    if state.position = 0 then ' ' else (source.chars[state.position - 1]?).getD ' '
  let next := if behind < state.stop then (source.chars[behind]?).getD ' ' else ' '
  let isLeft := !(isGap next || (isSign next && !(isGap last || isSign last)))
  let isRight := !(isGap last || (isSign last && !(isGap next || isSign next)))
  { size := size
    opens := isLeft && (splitsWords || !isRight || isSign last)
    closes := isRight && (splitsWords || !isLeft || isSign next) }

end InlineState

end MarkdownCheck.Markdown
