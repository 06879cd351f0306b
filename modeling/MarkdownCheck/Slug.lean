import MarkdownCheck.Text.Basic
import MarkdownCheck.Unicode.Normal
import MarkdownCheck.Unicode.CaseFolding

/-!
# Slugs

The anchor of a heading without an explicit one is made from its title.

- `Slug.unwrap`: replaces localization markers by the text that they wrap.
- `Slug.fold`: brings a title to small letters, ASCII ones unless the title's script is preserved.
- `slug`: folds, drops punctuation, and joins the words with single hyphens.
-/

namespace MarkdownCheck

namespace Slug

/-! ## Localization markers -/

/-- What follows the opening of a localization marker. -/
def afterMarker? (text : Text) : Option Text :=
  (Text.dropPrefix? "[!DNL ".toList text).or (Text.dropPrefix? "[!UICONTROL ".toList text)

/-- What a marker wraps and what follows it, read from behind its opening. A marker ends on the
line that it starts on. -/
def readMarked? : Text → Option (Text × Text)
  | [] => none
  | ']' :: rest => some ([], rest)
  | '\n' :: _ => none
  | c :: rest => (readMarked? rest).map fun (inside, after) => (c :: inside, after)

/-- A title with its localization markers replaced by their text. What a marker wraps is not looked
through again. The first argument bounds the number of steps. -/
def unwrapWithin : Nat → Text → Text
  | 0, text => text
  | _ + 1, [] => []
  | bound + 1, c :: rest =>
    match (afterMarker? (c :: rest)).bind readMarked? with
    | some (inside, after) => inside ++ unwrapWithin bound after
    | none => c :: unwrapWithin bound rest

/-- A title with its localization markers replaced by their text. -/
def unwrap (title : Text) : Text :=
  unwrapWithin title.length title

/-! ## Folding -/

/-- A title in small letters. Without `preserve` it is brought to ASCII, and characters without an
ASCII decomposition are dropped. -/
def fold (preserve : Bool) (title : Text) : Text :=
  if preserve then Unicode.foldCase (Unicode.composed title)
  else Unicode.foldCase ((Unicode.decomposed title).filter (·.toNat < 0x80))

/-! ## Words and hyphens -/

/-- ASCII punctuation that a slug drops: all but the hyphen and the underscore. -/
def isDropped (c : Char) : Bool :=
  c ≠ '-' && c ≠ '_'
    && (('!' ≤ c && c ≤ '/') || (':' ≤ c && c ≤ '@') || ('[' ≤ c && c ≤ '\x60')
      || ('\x7b' ≤ c && c ≤ '~'))

/-- A hyphen for every run of blanks. -/
def hyphenate : Text → Text
  | [] => []
  | c :: rest =>
    if Text.isBlank c then
      match rest with
      | [] => ['-']
      | d :: _ => if Text.isBlank d then hyphenate rest else '-' :: hyphenate rest
    else c :: hyphenate rest

/-- One hyphen for every run of hyphens. -/
def mergeHyphens : Text → Text
  | [] => []
  | [c] => [c]
  | c :: d :: rest =>
    if c = '-' ∧ d = '-' then mergeHyphens (d :: rest) else c :: mergeHyphens (d :: rest)

/-- Drops the hyphens at both ends. -/
def trimHyphens (text : Text) : Text :=
  ((text.dropWhile (· = '-')).reverse.dropWhile (· = '-')).reverse

/-- The slug of a title with nothing left. -/
def untitled : Text := "untitled".toList

end Slug

/-- The slug of a heading's title. -/
def slug (preserve : Bool) (title : Text) : Text :=
  let words := (Slug.fold preserve (Slug.unwrap title)).filter (!Slug.isDropped ·)
  let joined := Slug.trimHyphens (Slug.mergeHyphens (Slug.hyphenate words))
  if joined.isEmpty then Slug.untitled else joined

end MarkdownCheck
