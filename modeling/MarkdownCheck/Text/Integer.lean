import MarkdownCheck.Text.Basic
import MarkdownCheck.Unicode.Digit

/-!
# Reading integers

- `Text.readInt?`: the integer that a text stands for: a sign, then decimal digits of any script, in
  which single underscores may stand between digits, all of it between blanks.
-/

namespace MarkdownCheck.Text

/-- A blank that may stand around an integer. Of the ASCII control characters only tabs, line ends
and form feeds count. -/
def isIntegerBlank (c : Char) : Bool :=
  if c.toNat < 0x80 then c = ' ' || ('\t' ≤ c && c ≤ '\x0d') else isBlank c

/-- A text without the blanks around an integer. -/
def trimInteger (text : Text) : Text :=
  ((text.dropWhile isIntegerBlank).reverse.dropWhile isIntegerBlank).reverse

/-- The digits of a numeral, single underscores left out. -/
def readDigits? : Text → Option (List Nat)
  | [] => none
  | [c] => (Unicode.digit? c).map fun digit => [digit]
  | c :: '_' :: rest => do
    let digit ← Unicode.digit? c
    let more ← readDigits? rest
    some (digit :: more)
  | c :: d :: rest => do
    let digit ← Unicode.digit? c
    let more ← readDigits? (d :: rest)
    some (digit :: more)

/-- Numerals with more digits than this are refused. -/
def mostDigits : Nat := 4300

/-- The number that decimal digits stand for. -/
def ofDigits (digits : List Nat) : Nat :=
  digits.foldl (fun value digit => 10 * value + digit) 0

/-- A natural number without a sign. -/
def readUnsigned? (text : Text) : Option Nat := do
  let digits ← readDigits? text
  if digits.length ≤ mostDigits then some (ofDigits digits) else none

/-- The integer that a text stands for. -/
def readInt? (text : Text) : Option Int :=
  match trimInteger text with
  | '-' :: rest => (readUnsigned? rest).map fun n => -(n : Int)
  | '+' :: rest => (readUnsigned? rest).map fun n => (n : Int)
  | unsigned => (readUnsigned? unsigned).map fun n => (n : Int)

end MarkdownCheck.Text
