import Mathlib.Data.List.DropRight
import MarkdownCheck.Text.Basic

/-!
# Dropping characters at the end

- `Text.rdropWhile_append`: what would be dropped may as well be absent.
- `Text.trimRight_append`, `Text.exists_eq_trimRight_append`: a text is what is left of it and the
  blanks that are dropped.
-/

namespace MarkdownCheck.Text

/-- What would be dropped at the end may as well be absent. -/
theorem rdropWhile_append {p : Char → Bool} {after : Text} (h : ∀ d ∈ after, p d) (front : Text) :
    (front ++ after).rdropWhile p = front.rdropWhile p := by
  induction after using List.reverseRecOn with
  | nil => rw [List.append_nil]
  | append_singleton after d ih =>
    have hd := h d (List.mem_append_right after List.mem_cons_self)
    rw [← List.append_assoc, List.rdropWhile_concat_pos p _ d hd]
    exact ih fun e he => h e (List.mem_append_left [d] he)

/-- What stands behind the last character that is no blank is dropped. -/
theorem trimRight_append {c : Char} {after : Text} (hc : ¬ isBlank c)
    (hafter : ∀ d ∈ after, isBlank d) (front : Text) :
    trimRight (front ++ c :: after) = front ++ [c] := by
  have hsplit : front ++ c :: after = (front ++ [c]) ++ after := by simp
  rw [hsplit]
  exact (rdropWhile_append hafter _).trans (List.rdropWhile_concat_neg isBlank front c hc)

/-- A text is what is left of it and the blanks that are dropped. -/
theorem exists_eq_trimRight_append (text : Text) :
    ∃ blanks : Text, (∀ c ∈ blanks, isBlank c) ∧ text = trimRight text ++ blanks :=
  ⟨text.rtakeWhile isBlank, fun _ hc => List.mem_rtakeWhile_imp hc,
    List.rdropWhile_append_rtakeWhile.symm⟩

theorem length_trimRight_le (text : Text) : (trimRight text).length ≤ text.length :=
  (List.rdropWhile_prefix isBlank text).length_le

/-- The kept part of a text that ends within some blanks ends in front of these. -/
theorem length_trimRight_le_of_prefix {text front blanks : Text}
    (hblanks : ∀ c ∈ blanks, isBlank c) (h : text <+: front ++ blanks) :
    (trimRight text).length ≤ front.length := by
  obtain ⟨behind, h⟩ := h
  rcases List.append_eq_append_iff.mp h with ⟨more, rfl, -⟩ | ⟨taken, rfl, rfl⟩
  · rw [List.length_append]
    exact Nat.le_trans (length_trimRight_le text) (Nat.le_add_right _ _)
  · have hdrop : trimRight (front ++ taken) = trimRight front :=
      rdropWhile_append (fun c hc => hblanks c (List.mem_append_left behind hc)) front
    rw [hdrop]
    exact length_trimRight_le front

/-- A text is all blank, or it ends, blanks apart, with some other character. -/
theorem forall_isBlank_or_exists (text : Text) :
    (∀ c ∈ text, isBlank c) ∨ ∃ front c after, text = front ++ c :: after ∧ ¬ isBlank c ∧
      ∀ d ∈ after, isBlank d := by
  obtain ⟨blanks, hblanks, htext⟩ := exists_eq_trimRight_append text
  by_cases hnil : trimRight text = []
  · rw [hnil] at htext
    exact .inl (htext ▸ hblanks)
  · refine .inr ⟨(trimRight text).dropLast, (trimRight text).getLast hnil, blanks, ?_, ?_, hblanks⟩
    · rw [← List.singleton_append, ← List.append_assoc, List.dropLast_concat_getLast hnil]
      exact htext
    · exact List.rdropWhile_last_not isBlank text hnil

end MarkdownCheck.Text
