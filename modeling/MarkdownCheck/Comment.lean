import MarkdownCheck.Pattern.Named

/-!
# Blanking HTML comments

Rules that read raw lines should not stumble over prose in comments, yet what they report has to
stand at the right line and column. So the interior of a comment is overwritten where it stands.

- `Comment.isBlankable`: which interiors are well formed enough to be overwritten.
- `Comment.isDirective`: which comments speak to the linter and keep their text.
- `Comment.blank`: the blanks that stand for an interior.
- `Comment.clear`: the text with every interior blanked that may be.

The search for the next comment goes on in the text that has been overwritten so far.
-/

namespace MarkdownCheck.Comment

/-- What opens a comment. -/
def opener : Text := ['<', '!', '-', '-']

/-- What closes a comment. -/
def closer : Text := ['-', '-', '>']

/-- Whether a comment holds a directive that switches rules off or on. -/
def isDirective (comment : Text) : Bool :=
  (Pattern.inlineDirective.search? comment).isSome

/-- Whether an interior is well formed: not empty, no `>` at its start, no dash at its end, no two
dashes together. Other comments stay as they are, for the rules that look at them. -/
def isBlankable (interior : Text) : Bool :=
  !interior.isEmpty && interior.head? ≠ some '>' && interior.getLast? ≠ some '-'
    && !Text.includes ['-', '-'] interior

/-! ## Blanks -/

/-- Stands for a blank that would otherwise end a line. -/
def escapeMark : Char := '\\'

/-- The blanks for an interior. Line ends stay, and the character before one becomes the escape
mark, so that no line ends in a blank. -/
def blank : Text → Text
  | [] => []
  | c :: rest =>
    let shown :=
      if Text.isLineEnd c then c
      else if rest.head?.any Text.isLineEnd then escapeMark
      else ' '
    shown :: blank rest

/-- Blanks take the place of what they stand for. -/
@[simp] theorem length_blank (interior : Text) : (blank interior).length = interior.length := by
  induction interior with
  | nil => rfl
  | cons c rest ih => simp [blank, ih]

/-- Whether an interior that runs to the end of the text is blanked already. -/
def isBlanked (interior : Text) : Bool :=
  interior.getLast? = some escapeMark
    && blank interior.dropLast ++ [escapeMark] = interior

/-- A text with the stretch from `start` to `stop` blanked. -/
def blankBetween (start stop : Nat) (text : Text) : Text :=
  text.take start ++ (blank (Text.between start stop text) ++ text.drop stop)

/-- Blanking a stretch keeps everything in its place. -/
theorem length_blankBetween {start stop : Nat} (h : start ≤ stop) (text : Text) :
    (blankBetween start stop text).length = text.length := by
  simp only [blankBetween, Text.between, List.length_append, List.length_take, length_blank,
    List.length_drop]
  omega

/-! ## Clearing a text -/

/-- A text with the interior of one comment blanked, if it may be: the comment opens at `start` and
its closer stands at `stop`. -/
def clearClosed (start stop : Nat) (text : Text) : Text :=
  let inside := start + opener.length
  let comment := Text.between start (stop + closer.length) text
  if isBlankable (Text.between inside stop text) && !isDirective comment then
    blankBetween inside stop text
  else text

/-- A text with the interior of its last comment blanked, if it may be: the comment opens at `start`
and runs to the end. It gets the escape mark behind it, so that the text does not end in a blank. -/
def clearUnclosed (start : Nat) (text : Text) : Text :=
  let inside := start + opener.length
  let interior := text.drop inside
  if isBlankable interior && !isBlanked interior then
    text.take inside ++ (blank interior ++ [escapeMark])
  else text

/-- An interior that is blanked is not empty, so its closer stands behind it. -/
theorem lt_of_isBlankable_between {start stop : Nat} {text : Text}
    (h : isBlankable (Text.between start stop text) = true) : start < stop := by
  refine Nat.lt_of_not_le fun hle => ?_
  have hempty : Text.between start stop text = [] := by
    apply List.drop_eq_nil_of_le
    rw [List.length_take]
    omega
  simp [hempty, isBlankable] at h

/-- Clearing a closed comment keeps everything in its place. -/
@[simp] theorem length_clearClosed (start stop : Nat) (text : Text) :
    (clearClosed start stop text).length = text.length := by
  simp only [clearClosed]
  split
  · next h =>
    rw [Bool.and_eq_true] at h
    exact length_blankBetween (Nat.le_of_lt (lt_of_isBlankable_between h.1)) text
  · rfl

/-- A text with the interiors of its well-formed comments blanked, from the first opener at or after
`cursor` on. A closer may share the dashes of its opener. -/
def clearFrom (cursor : Nat) (text : Text) : Text :=
  match _ho : Text.findFrom? opener cursor text with
  | none => text
  | some start =>
    match _hc : Text.findFrom? closer start text with
    | none => clearUnclosed start text
    | some stop => clearFrom (stop + closer.length) (clearClosed start stop text)
termination_by text.length - cursor
decreasing_by
  have ho := Text.le_of_findFrom? _ho (by simp [opener])
  have hc := Text.le_of_findFrom? _hc (by simp [closer])
  simp only [length_clearClosed, opener, closer, List.length_cons] at *
  omega

/-- A text with the interiors of its well-formed comments blanked. -/
def clear (text : Text) : Text :=
  clearFrom 0 text

end MarkdownCheck.Comment
