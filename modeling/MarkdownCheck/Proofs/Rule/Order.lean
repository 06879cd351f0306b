import Mathlib.Data.Char
import Mathlib.Data.Int.ConditionallyCompleteOrder
import Mathlib.Data.List.Lex
import Mathlib.Data.Prod.Lex
import Mathlib.Order.ConditionallyCompleteLattice.Basic
import Mathlib.Tactic.Tauto
import MarkdownCheck.Rule.Run

/-!
# The order of violations

Violations are sorted by two things at once, their line and the identifier of their rule.

- `Text.le_iff`: texts are ordered as lists of characters are.
- `Violation.key`: what violations are sorted by; `Violation.precedes_iff` says that they are.
-/

namespace MarkdownCheck

/-- The order of texts is the order of lists of characters. -/
theorem Text.le_iff {left right : Text} : Text.le left right ↔ left ≤ right := by
  induction left generalizing right with
  | nil =>
    have hle : ([] : Text) ≤ right := by
      cases right with
      | nil => exact le_rfl
      | cons c right => exact (List.nil_lt_cons c right).le
    exact iff_of_true rfl hle
  | cons a left ih =>
    cases right with
    | nil => exact iff_of_false Bool.false_ne_true (List.nil_lt_cons a left).not_ge
    | cons b right =>
      rw [Text.le, Bool.or_eq_true, decide_eq_true_eq, Bool.and_eq_true, decide_eq_true_eq, ih,
        le_iff_lt_or_eq, le_iff_lt_or_eq, List.cons_lt_cons_iff, List.cons_eq_cons]
      tauto

namespace Violation

/-- What violations are sorted by: the line, and on one line the identifier of the rule. A missing
line comes first. -/
def key (violation : Violation) : WithBot Int ×ₗ Text :=
  toLex (violation.finding.lineNumber, violation.identifier)

theorem precedes_iff {first second : Violation} :
    first.precedes second ↔ first.key ≤ second.key := by
  rw [precedes, key, key, Prod.Lex.toLex_le_toLex]
  cases first.finding.lineNumber <;> cases second.finding.lineNumber <;>
    simp [WithBot.none_eq_bot, WithBot.some_eq_coe, Text.le_iff]

end Violation

end MarkdownCheck
