import MarkdownCheck.Proofs.FrontMatter.Lines
import MarkdownCheck.Proofs.Text.Crlf

/-!
# Front matter with carriage returns

A carriage return and a line feed end a line of front matter as a line feed does.

- `FrontMatter.takeLine?_toCrlf`, `FrontMatter.takeThrough?_toCrlf`: the same lines are read.
- `FrontMatter.split_toCrlf`: front matter is cut off at the same line.
-/

namespace MarkdownCheck.FrontMatter

open Text (toCrlf)

theorem not_isLineEnd_of_takeLine? {text line ending rest : Text}
    (h : takeLine? text = some (line, ending, rest)) : ∀ c ∈ line, ¬ Text.isLineEnd c := by
  fun_induction takeLine? text generalizing line with
  | case1 => cases h
  | case2 | case3 =>
    cases h
    exact fun c hc => absurd hc List.not_mem_nil
  | case4 c rest _ hc ih =>
    obtain ⟨⟨line, ending, after⟩, hline, hparts⟩ := Option.map_eq_some_iff.mp h
    cases hparts
    exact List.forall_mem_cons.mpr ⟨hc, ih hline⟩

theorem takeLine?_toCrlf {text : Text} (h : '\r' ∉ text) :
    takeLine? (toCrlf text) = (takeLine? text).map fun (line, ending, rest) =>
      (line, toCrlf ending, toCrlf rest) := by
  fun_induction takeLine? text with
  | case1 => rfl
  | case2 rest => exact absurd List.mem_cons_self h
  | case3 c rest _ hend =>
    rw [List.mem_cons, not_or] at h
    have hfeed : c = '\n' := by
      rw [Text.isLineEnd, Bool.or_eq_true, decide_eq_true_eq, decide_eq_true_eq] at hend
      exact hend.resolve_right (Ne.symm h.1)
    rw [hfeed]
    rfl
  | case4 c rest hfeed hend ih =>
    rw [List.mem_cons, not_or] at h
    have hne : c ≠ '\n' := fun heq => hend (heq ▸ rfl)
    rw [Text.toCrlf_cons hne, takeLine?, if_neg hend, ih h.2, Option.map_map, Option.map_map]
    · rfl
    · rintro _ rfl
      exact absurd rfl h.1

theorem toCrlf_of_takeLine? {text line ending rest : Text}
    (h : takeLine? text = some (line, ending, rest)) : toCrlf line = line :=
  Text.toCrlf_eq_self fun hmem => not_isLineEnd_of_takeLine? h '\n' hmem rfl

theorem not_mem_of_takeLine? {text line ending rest : Text} {c : Char} (h : c ∉ text)
    (hline : takeLine? text = some (line, ending, rest)) : c ∉ rest := by
  rw [eq_append_of_takeLine? hline] at h
  exact fun hmem => h (List.mem_append_right _ (List.mem_append_right _ hmem))

theorem takeThrough?_of_none {delimiter text : Text} (h : takeLine? text = none) :
    takeThrough? delimiter text = none := by
  rw [takeThrough?]
  split
  · rfl
  · next hline => cases h.symm.trans hline

theorem takeThrough?_of_some {delimiter text line ending rest : Text}
    (h : takeLine? text = some (line, ending, rest)) :
    takeThrough? delimiter text =
      if line = delimiter then some (line ++ ending, rest)
      else
        (takeThrough? delimiter rest).map fun (before, after) =>
          (line ++ (ending ++ before), after) := by
  rw [takeThrough?]
  split
  · next hline => cases h.symm.trans hline
  · next hline =>
    cases h.symm.trans hline
    rfl

theorem takeThrough?_toCrlf {text : Text} (h : '\r' ∉ text) (delimiter : Text) :
    takeThrough? delimiter (toCrlf text) =
      (takeThrough? delimiter text).map (Prod.map toCrlf toCrlf) := by
  have hcrlf := takeLine?_toCrlf h
  fun_induction takeThrough? delimiter text with
  | case1 text hline =>
    rw [hline, Option.map_none] at hcrlf
    rw [takeThrough?_of_none hcrlf, Option.map_none]
  | case2 text ending rest hline =>
    rw [hline, Option.map_some] at hcrlf
    rw [takeThrough?_of_some hcrlf, if_pos rfl, Option.map_some, Prod.map, Text.toCrlf_append,
      toCrlf_of_takeLine? hline]
  | case3 text line ending rest hline hne ih =>
    have hrest := not_mem_of_takeLine? h hline
    rw [hline, Option.map_some] at hcrlf
    rw [takeThrough?_of_some hcrlf, if_neg hne, ih hrest (takeLine?_toCrlf hrest), Option.map_map,
      Option.map_map]
    congr 1
    funext found
    simp [toCrlf_of_takeLine? hline]

theorem take?_toCrlf {text : Text} (h : '\r' ∉ text) :
    take? (toCrlf text) = (take? text).map (Prod.map toCrlf toCrlf) := by
  rw [take?, take?, takeLine?_toCrlf h]
  cases hline : takeLine? text with
  | none => rfl
  | some found =>
    obtain ⟨line, ending, rest⟩ := found
    simp only [Option.map_some]
    split
    · rw [takeThrough?_toCrlf (not_mem_of_takeLine? h hline), Option.map_map, Option.map_map]
      congr 1
      funext found
      simp [toCrlf_of_takeLine? hline]
    · rfl

/-- Front matter is cut off at the same line. -/
theorem split_toCrlf {text : Text} (h : '\r' ∉ text) :
    split (toCrlf text) = ((split text).1, toCrlf (split text).2) := by
  rw [split, split, take?_toCrlf h]
  cases htake : take? text with
  | none => rfl
  | some found =>
    obtain ⟨matter, rest⟩ := found
    have hmatter : '\r' ∉ matter := fun hmem => by
      rw [(isEnded_of_take? htake).1] at h
      exact h (List.mem_append_left _ hmem)
    simp only [Option.map_some, Prod.map, Text.lines_toCrlf hmatter]

end MarkdownCheck.FrontMatter
