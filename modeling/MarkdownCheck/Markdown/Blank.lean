import MarkdownCheck.Text.Basic

/-!
# Blanks in Markdown

Markdown counts fewer characters as whitespace than texts in general: the control characters that
separate fields, and the next-line control, are part of the text.

- `isSpace`: a space or a tab, which indent lines.
- `isGap`: a space of any script, or a control character that moves the place of writing.
- `isBlank`, `trim`: a gap or a separator of lines or paragraphs, and a text without those at its
  ends.
-/

namespace MarkdownCheck.Markdown

/-- A space or a tab. -/
def isSpace (c : Char) : Bool :=
  c = ' ' || c = '\t'

/-- A space of any script, or a control character from the tab to the carriage return. -/
def isGap (c : Char) : Bool :=
  let n := c.toNat
  (9 ≤ n && n ≤ 13) || n = 0x20 || n = 0xA0 || n = 0x1680 || (0x2000 ≤ n && n ≤ 0x200A)
    || n = 0x202F || n = 0x205F || n = 0x3000

/-- A gap, or the separator of lines or of paragraphs. -/
def isBlank (c : Char) : Bool :=
  isGap c || c.toNat = 0x2028 || c.toNat = 0x2029

/-- A text without the blanks at its ends. -/
def trim (text : Text) : Text :=
  ((text.dropWhile isBlank).reverse.dropWhile isBlank).reverse

/-- What is blank in Markdown is blank in every text. -/
theorem isBlank_of_isBlank {c : Char} (h : isBlank c = true) : Text.isBlank c = true := by
  simp only [isBlank, isGap, Text.isBlank, Bool.or_eq_true, Bool.and_eq_true,
    decide_eq_true_eq] at *
  omega

end MarkdownCheck.Markdown
