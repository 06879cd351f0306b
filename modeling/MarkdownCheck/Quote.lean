import MarkdownCheck.Token

/-!
# Block-quote markers on a line

- `Quote.afterMarkers?`: what follows the last marker of the leading run of blanks and markers.
- `Quote.strip`: a line without its markers.
- `Token.indent`: the blanks before a token on its line, counted behind the markers.
-/

namespace MarkdownCheck

namespace Quote

/-- One space fewer at the start, if there is one. -/
def dropSpace : Text → Text
  | ' ' :: rest => rest
  | text => text

/-- What follows the last marker in the leading run of blanks and markers, the space that belongs
to the marker left out; `none` when the run holds no marker. -/
def afterMarkers? : Text → Option Text
  | [] => none
  | c :: rest =>
    if c = '>' then some ((afterMarkers? rest).getD (dropSpace rest))
    else if Text.isBlank c then afterMarkers? rest
    else none

/-- A line without its block-quote markers. -/
def strip (line : Text) : Text :=
  (afterMarkers? line).getD line

end Quote

/-- The number of blanks that start a line. -/
def Text.indent (line : Text) : Nat :=
  line.length - (Text.trimLeft line).length

/-- The indentation of a token's first line, measured behind the block-quote markers. -/
def Token.indent (token : Token) : Nat :=
  Text.indent (Quote.strip token.line)

end MarkdownCheck
