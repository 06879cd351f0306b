import MarkdownCheck.Text.Basic
import MarkdownCheck.Unicode.Printable

/-!
# Escaping

- `Text.escape`: puts a backslash before every character that carries meaning in a pattern.
- `Text.quoted`: a text between quotes for messages, with everything escaped that does not print.

Single quotes stand around a text, double ones if it holds a single but no double quote.
-/

namespace MarkdownCheck.Text

/-! ## Patterns -/

/-- The characters that carry meaning in a pattern. -/
def isPatternSign (c : Char) : Bool :=
  ['-', '/', '\\', '^', '$', '*', '+', '?', '.', '(', ')', '|', '[', ']', '\x7b', '\x7d'].contains c

/-- A text that a pattern takes literally. -/
def escape (text : Text) : Text :=
  text.flatMap fun c => if isPatternSign c then ['\\', c] else [c]

/-! ## Names in messages -/

/-- A number in hexadecimal with at least `width` digits. -/
def hex (width n : Nat) : Text :=
  let digits := Nat.toDigits 16 n
  List.replicate (width - digits.length) '0' ++ digits

/-- A character that does not print, as an escape by its code point. -/
def escapeCode (c : Char) : Text :=
  let n := c.toNat
  if n < 0x100 then '\\' :: 'x' :: hex 2 n
  else if n < 0x10000 then '\\' :: 'u' :: hex 4 n
  else '\\' :: 'U' :: hex 8 n

/-- A character between quotes. -/
def escapeQuoted (quote c : Char) : Text :=
  if c = quote || c = '\\' then ['\\', c]
  else if c = '\n' then ['\\', 'n']
  else if c = '\r' then ['\\', 'r']
  else if c = '\t' then ['\\', 't']
  else if Unicode.isPrintable c then [c]
  else escapeCode c

/-- A text between quotes. -/
def quoted (text : Text) : Text :=
  let quote := if text.contains '\'' && !text.contains '"' then '"' else '\''
  quote :: text.flatMap (escapeQuoted quote) ++ [quote]

end MarkdownCheck.Text
