import MarkdownCheck.Markdown.Entity

/-!
# Backslash escapes

- `isAsciiSign`: the characters that a backslash escapes.
- `unescape`: a link destination or title with its escapes and character references resolved.
-/

namespace MarkdownCheck.Markdown

/-- ASCII punctuation and symbols. -/
def isAsciiSign (c : Char) : Bool :=
  ('!' ≤ c && c ≤ '/') || (':' ≤ c && c ≤ '@') || ('[' ≤ c && c ≤ '\x60') || ('\x7b' ≤ c && c ≤ '~')

/-- The text of the character reference with this body. Numbers of characters that may not be
written so are no references here. -/
def referenceText? : Text → Option Text
  | '#' :: digits =>
    match Entity.number? 8 8 digits with
    | some n => if Entity.isValidNumber n then some [Char.ofNat n] else none
    | none => none
  | name => Entity.named? name

/-- A character reference at the start of a text, read from behind its ampersand: what it stands
for and what follows it. -/
def takeReference? (text : Text) : Option (Text × Text) :=
  match text.dropWhile (· ≠ ';') with
  | _ :: rest => (referenceText? (text.takeWhile (· ≠ ';'))).map fun shown => (shown, rest)
  | [] => none

/-- A text with its escapes and references resolved. The first argument bounds the steps. -/
def unescapeWithin : Nat → Text → Text
  | 0, text => text
  | _ + 1, [] => []
  | bound + 1, c :: rest =>
    match c, rest with
    | '\\', d :: more =>
      if isAsciiSign d then d :: unescapeWithin bound more else c :: unescapeWithin bound rest
    | '&', _ =>
      match takeReference? rest with
      | some (shown, more) => shown ++ unescapeWithin bound more
      | none => c :: unescapeWithin bound rest
    | _, _ => c :: unescapeWithin bound rest

/-- A text with its escapes and references resolved. -/
def unescape (text : Text) : Text :=
  unescapeWithin text.length text

end MarkdownCheck.Markdown
