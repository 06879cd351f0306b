import MarkdownCheck.Pattern.Basic
import MarkdownCheck.Text.CaseBlind
import MarkdownCheck.Unicode.Digit

/-!
# Patterns of Markdown sources

The patterns by which rules look for places in lines. `Pattern.samples` are small patterns with
groups in every arrangement.
-/

namespace MarkdownCheck.Pattern

/-- A whitespace character. -/
def blank : Pattern :=
  .one Text.isBlank

/-- A character that is not whitespace. -/
def visible : Pattern :=
  .one (!Text.isBlank ·)

/-- A decimal digit of any script. -/
def digit : Pattern :=
  .one Unicode.isDigit

/-- Any character but a line feed. -/
def onLine : Pattern :=
  .one (· ≠ '\n')

/-- Any character. -/
def anything : Pattern :=
  .one fun _ => true

/-- A word of small letters and other ASCII characters, read case-blind. -/
def letters (text : String) : Pattern :=
  all (text.toList.map fun letter => .one (Text.sameLetter letter))

/-- A line end: carriage return and line feed together, or one of them. -/
def lineEnd : Pattern :=
  first (word "\r\n") [char '\r', char '\n']

/-- Leading blanks and block-quote markers. -/
def quoting : Pattern :=
  star (.one fun c => Text.isBlank c || c = '>')

/-- Number signs at the start of a line, up to the first character that is no blank. -/
def atxHeadingSpace : Pattern :=
  all [.atStart, plus (char '#'), star blank, visible]

/-- A web or file transfer address without brackets. -/
def bareUrl : Pattern :=
  all [.either (letters "http") (letters "ftp"), optional (letters "s"), word "://", star visible]

/-- The marker of a list item with the blanks behind it. -/
def listItemMarker : Pattern :=
  all [.atStart, quoting, .either (anyOf "*+-") (.seq (plus digit) (anyOf ".)")), plus blank]

/-- The number of a list item, leading zeros apart, and its delimiter. -/
def orderedListItemMarker : Pattern :=
  all [.atStart, quoting, star (char '0'), .group 1 (plus digit), anyOf ".)"]

/-- A comment that switches rules off or on. -/
def inlineDirective : Pattern :=
  let nameChar := .one fun c => Text.isLetterLike c || c.isDigit || c = '_' || c = '-'
  all [word "<!--", star blank, letters "markdownlint-",
    .group 1 (.either (letters "dis") (letters "en")), letters "able",
    .group 2 (star (.seq (plus blank) (plus nameChar))), star blank, word "-->"]

/-- Front matter between two equal delimiters. -/
def frontMatter : Pattern :=
  all [.group 1 (.either (word "---") (word "+++")), lineEnd,
    .either .empty (.seq (lazyStar anything) lineEnd), .same 1, lineEnd]

/-- Three or more of one character. -/
def fenceRun (c : Char) : Pattern :=
  .seq (times 3 (char c)) (star (char c))

/-- A fence of backticks or tildes. -/
def codeFence : Pattern :=
  all [.atStart, upTo 3 (char ' '), .group 1 (.either (fenceRun '`') (fenceRun '~'))]

/-- Block-quote markers at the start of a line. -/
def blockQuotePrefix : Pattern :=
  all [.atStart, quoting, .group 1 (.either (word "> ") (char '>'))]

/-- An explicit anchor at the end of a title. -/
def explicitAnchor : Pattern :=
  all [star blank, word "\x7b#", .group 1 (lazyStar onLine), char '\x7d', star blank, .atEnd]

/-- A localization marker. -/
def localizationMarker : Pattern :=
  all [word "[!", .either (word "DNL") (word "UICONTROL"), char ' ', .group 1 (lazyStar onLine),
    char ']']

/-- Small patterns with groups in every arrangement: side by side, left out, empty, nested. -/
def samples : List (String × Pattern) := [
  ("INDENT_HASHES", .seq (.group 1 (star blank)) (.group 2 (plus (char '#')))),
  ("OPTIONAL_FIRST", .seq (optional (.group 1 (char 'a'))) (.group 2 (char 'b'))),
  ("OPTIONAL_SECOND", .seq (.group 1 (char 'a')) (optional (.group 2 (char 'b')))),
  ("EMPTY_SECOND", .seq (.group 1 (char 'a')) (.group 2 (star (char 'b')))),
  ("NESTED", .group 1 (.seq (.group 2 (char 'a')) (char 'b'))),
  ("THREE", all [.group 1 (char 'a'), optional (.group 2 (char 'b')), .group 3 (char 'c')])]

/-- The patterns by the names that rules use for them. -/
def shared : List (String × Pattern) := [
  ("ATX_HEADING_SPACE", atxHeadingSpace),
  ("BARE_URL", bareUrl),
  ("LIST_ITEM_MARKER", listItemMarker),
  ("ORDERED_LIST_ITEM_MARKER", orderedListItemMarker),
  ("INLINE_COMMENT", inlineDirective),
  ("FRONT_MATTER", frontMatter),
  ("CODE_FENCE", codeFence),
  ("BLOCK_QUOTE_PREFIX", blockQuotePrefix),
  ("EXPLICIT_ANCHOR", explicitAnchor),
  ("LOCALIZATION_MARKER", localizationMarker)]

end MarkdownCheck.Pattern
