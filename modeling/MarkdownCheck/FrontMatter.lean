import MarkdownCheck.Text.Lines

/-!
# Front matter

A file may start with settings for another tool, between two lines that both are `---` or both are
`+++`. Here lines end with a line feed, a carriage return, or the two together; every line of the
front matter, the last one too, has to be ended.

- `FrontMatter.takeLine?`: the first line of a text, its end included, and the rest.
- `FrontMatter.split`: the lines of the front matter and the text behind it.
-/

namespace MarkdownCheck.FrontMatter

/-- The first line of a text, its line end, and the rest; `none` when nothing ends the line. -/
def takeLine? : Text → Option (Text × Text × Text)
  | [] => none
  | '\r' :: '\n' :: rest => some ([], ['\r', '\n'], rest)
  | c :: rest =>
    if Text.isLineEnd c then some ([], [c], rest)
    else (takeLine? rest).map fun (line, ending, after) => (c :: line, ending, after)

/-- A line, its end and the rest are the text. -/
theorem eq_append_of_takeLine? {text line ending rest : Text}
    (h : takeLine? text = some (line, ending, rest)) : text = line ++ (ending ++ rest) := by
  fun_induction takeLine? text generalizing line with
  | case1 => simp at h
  | case2 =>
    simp only [Option.some.injEq, Prod.mk.injEq] at h
    obtain ⟨rfl, rfl, rfl⟩ := h
    simp
  | case3 =>
    simp only [Option.some.injEq, Prod.mk.injEq] at h
    obtain ⟨rfl, rfl, rfl⟩ := h
    simp
  | case4 c rest' _ _ ih =>
    simp only [Option.map_eq_some_iff, Prod.mk.injEq] at h
    obtain ⟨⟨l, e, r⟩, hr, rfl, rfl, rfl⟩ := h
    rw [ih hr, List.cons_append]

/-- What ends a line is not empty. -/
theorem ending_ne_nil_of_takeLine? {text line ending rest : Text}
    (h : takeLine? text = some (line, ending, rest)) : ending ≠ [] := by
  fun_induction takeLine? text generalizing line with
  | case1 => simp at h
  | case2 =>
    simp only [Option.some.injEq, Prod.mk.injEq] at h
    obtain ⟨rfl, rfl, rfl⟩ := h
    simp
  | case3 =>
    simp only [Option.some.injEq, Prod.mk.injEq] at h
    obtain ⟨rfl, rfl, rfl⟩ := h
    simp
  | case4 c rest' _ _ ih =>
    simp only [Option.map_eq_some_iff, Prod.mk.injEq] at h
    obtain ⟨⟨l, e, r⟩, hr, rfl, rfl, rfl⟩ := h
    exact ih hr

/-- The text up to and including the first ended line that is `delimiter`, and what follows. -/
def takeThrough? (delimiter : Text) (text : Text) : Option (Text × Text) :=
  match _h : takeLine? text with
  | none => none
  | some (line, ending, rest) =>
    if line = delimiter then some (line ++ ending, rest)
    else
      (takeThrough? delimiter rest).map fun (before, after) => (line ++ (ending ++ before), after)
termination_by text.length
decreasing_by
  have := congrArg List.length (eq_append_of_takeLine? _h)
  have := List.length_pos_iff.2 (ending_ne_nil_of_takeLine? _h)
  simp only [List.length_append] at *
  omega

/-- A line that may start front matter. -/
def isDelimiter (line : Text) : Bool :=
  line = ['-', '-', '-'] || line = ['+', '+', '+']

/-- Cuts front matter off: its text and the text behind it; `none` when there is none. -/
def take? (text : Text) : Option (Text × Text) :=
  match takeLine? text with
  | none => none
  | some (line, ending, rest) =>
    if isDelimiter line then
      (takeThrough? line rest).map fun (body, after) => (line ++ (ending ++ body), after)
    else none

/-- The lines of the front matter, none when there is no front matter, and the text behind it. -/
def split (text : Text) : List Text × Text :=
  match take? text with
  | none => ([], text)
  | some (matter, rest) => ((Text.lines matter).dropLast, rest)

end MarkdownCheck.FrontMatter
