import MarkdownCheck.Text.Basic

/-!
# Lines

- `Text.lines`: cuts a text at its line terminators. A terminator at the end gives an empty last
  line, so there is one line more than terminators.
- `Text.takeTerminator?`: the terminator that a text starts with, the longest one where two fit.
-/

namespace MarkdownCheck.Text

/-- A character that ends a line by itself. -/
def isTerminator (c : Char) : Bool :=
  c = '\n' || c = '\r' || c = '\u2424' || c = '\u2028' || c = '\u0085'

/-- The line terminator at the start of a text and the rest. A carriage return takes a line feed or
a next-line control after it along. -/
def takeTerminator? : Text → Option (Text × Text)
  | '\r' :: '\n' :: rest => some (['\r', '\n'], rest)
  | '\r' :: '\u0085' :: rest => some (['\r', '\u0085'], rest)
  | c :: rest => if isTerminator c then some ([c], rest) else none
  | [] => none

/-- The lines of a text, without their terminators. -/
def lines : Text → List Text
  | [] => [[]]
  | '\r' :: '\n' :: rest => [] :: lines rest
  | '\r' :: '\u0085' :: rest => [] :: lines rest
  | c :: rest =>
    if isTerminator c then [] :: lines rest
    else
      match lines rest with
      | [] => [[c]]
      | line :: more => (c :: line) :: more

/-- A text has at least one line. -/
theorem lines_ne_nil (text : Text) : lines text ≠ [] := by
  fun_induction lines text <;> simp_all

end MarkdownCheck.Text
