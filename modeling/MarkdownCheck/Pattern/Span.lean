import MarkdownCheck.Pattern.Basic

/-!
# Where a pattern points

- `Span`: a column, counted from 1, and a length.
- `Pattern.span?`: the span that a finding shows for the first match of a pattern in a line. A
  second group that has matched text moves its start by the length of the first.
-/

namespace MarkdownCheck

/-- A stretch of a line: its first column, counted from 1, and its length. -/
structure Span where
  column : Int
  length : Int
deriving DecidableEq, Repr

/-- The span of a match. -/
def Pattern.Match.span (found : Pattern.Match) : Span :=
  let column : Int := found.start + 1
  let length : Int := found.stop - found.start
  let second := (found.captured? 2).getD []
  if 2 ≤ found.lastGroup ∧ second ≠ [] then
    let skipped := ((found.captured? 1).getD []).length
    ⟨column + skipped, length - skipped⟩
  else ⟨column, length⟩

/-- The span of the first match of a pattern in a line. -/
def Pattern.span? (pattern : Pattern) (line : Text) : Option Span :=
  (pattern.search? line).map (·.span)

end MarkdownCheck
