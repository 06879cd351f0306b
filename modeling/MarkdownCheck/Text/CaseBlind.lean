import MarkdownCheck.Text.Basic

/-!
# Matching without regard to case

Words of ASCII letters are matched case-blind against text of any script: besides its capital, a
letter matches the characters that lose their dot, their length or their sign in a case mapping
(the dotless and the dotted i, the long s, the kelvin sign).

- `Text.sameLetter`: whether a character stands for a small letter or other ASCII character.
- `Text.dropWord?`: what follows a word, read case-blind.
-/

namespace MarkdownCheck.Text

/-- Whether `c` stands for `letter`, which is not a capital. -/
def sameLetter (letter c : Char) : Bool :=
  c.toLower = letter
    || (letter = 'i' && (c = '\u0130' || c = '\u0131'))
    || (letter = 's' && c = '\u017f')
    || (letter = 'k' && c = '\u212a')

/-- Whether `c` stands for a letter from a to z. -/
def isLetterLike (c : Char) : Bool :=
  c.isAlpha || c = '\u0130' || c = '\u0131' || c = '\u017f' || c = '\u212a'

/-- What follows `word`, written in small letters, in a text that starts with it in any case. -/
def dropWord? : (word : Text) → Text → Option Text
  | [], text => some text
  | _ :: _, [] => none
  | w :: word, c :: text => if sameLetter w c then dropWord? word text else none

end MarkdownCheck.Text
