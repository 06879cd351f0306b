import MarkdownCheck.Document
import MarkdownCheck.Finding

/-!
# Rules

- `Rule`: a check with its names. A check reports findings in order or fails as a whole.
- `RuleFailure`: why a check has failed.
-/

namespace MarkdownCheck

/-- Why a check has failed. -/
inductive RuleFailure where
  /-- Findings without a line cannot be put in order. -/
  | unordered
  /-- A cause that the rule tells in its own words. -/
  | raised (message : Text)
deriving DecidableEq, Repr

/-- A rule of a lint run. -/
structure Rule where
  /-- Its identifier and its aliases. -/
  names : List Text
  description : Text
  tags : List Text := []
  check : Document → Except RuleFailure (List Finding)

end MarkdownCheck
