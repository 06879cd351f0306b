import Mathlib.Algebra.Group.Nat.Defs
import MarkdownCheck.Proofs.Lookup
import MarkdownCheck.Rule.Run

/-!
# Names of rules

- `Unicode.length_foldChar_le`: a character folds to at most three.
- `findRule?_singleton`: one character alone is the name of no rule.
-/

namespace MarkdownCheck

namespace Unicode

/-- A packed number of at most `count` characters. -/
theorem length_unpack_le (bound : Nat) {packed count : Nat} (h : packed < 0x1000000 ^ count) :
    (unpack bound packed).length ≤ count := by
  induction bound generalizing packed count with
  | zero => exact Nat.zero_le count
  | succ bound ih =>
    rw [unpack]
    split
    · exact Nat.zero_le count
    · next hpositive =>
      cases count with
      | zero => exact absurd (Nat.lt_one_iff.mp h) hpositive
      | succ count =>
        rw [List.length_cons]
        refine Nat.succ_le_succ (ih ?_)
        rw [Nat.pow_succ, Nat.mul_comm] at h
        exact Nat.div_lt_of_lt_mul h

/-- No entry of the table is longer than three characters. -/
theorem caseFoldings_short :
    ∀ row ∈ caseFoldings, ∀ entry ∈ row.2, entry / 0x1000000 < 0x1000000 ^ 3 := by
  decide +kernel

/-- A character folds to at most three. -/
theorem length_foldChar_le (c : Char) : (foldChar c).length ≤ 3 := by
  rw [foldChar]
  split
  · exact Nat.le_of_ble_eq_true rfl
  · cases hfind : caseFoldings.find? c with
    | none => exact Nat.le_of_ble_eq_true rfl
    | some folded =>
      obtain ⟨row, hrow, entry, hentry, -, rfl⟩ := PackedTable.exists_of_find? hfind
      rw [Option.getD_some]
      exact length_unpack_le _ (caseFoldings_short row hrow entry hentry)

end Unicode

/-- One character alone is the name of no rule. -/
theorem findRule?_singleton (c : Char) : findRule? [c] = none := by
  have hlong : ∀ rule ∈ allRules, ∀ name ∈ rule.names, 3 < (Unicode.foldCase name).length := by
    decide +kernel
  have hshort : (Unicode.foldCase [c]).length ≤ 3 := by
    rw [Unicode.foldCase, List.flatMap_singleton]
    exact Unicode.length_foldChar_le c
  rw [findRule?, List.find?_eq_none]
  intro rule hrule hnamed
  obtain ⟨name, hname, hfold⟩ := List.any_eq_true.mp hnamed
  have := hlong rule hrule name hname
  rw [of_decide_eq_true hfold] at this
  omega

end MarkdownCheck
