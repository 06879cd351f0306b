import MarkdownCheck.Proofs.FrontMatter.Pattern

/-!
# The grammar of front matter

Front matter is what stands from the first line of a text to the next line that is the same, if this
is a delimiter. All its lines are ended, by a carriage return, by a line feed, or by the two
together, and these stay together.

- `LineEnding`: what ends a line.
- `Starts`: a text starts with lines that are ended.
- `takeLine?_eq_some_iff`, `take?_eq_some_iff`: what is read in these terms.
- `split_eq_matchStart?`: what the pattern of front matter matches is cut off.
- `split_grammar`: which text is cut off, by its lines and by the pattern.
-/

namespace MarkdownCheck.FrontMatter

/-! ## Lines and what ends them -/

/-- What ends a line in front of the rest of a text. A carriage return that a line feed follows does
not do so alone. -/
inductive LineEnding : Text → Text → Prop
  | returnAndFeed (rest : Text) : LineEnding ['\r', '\n'] rest
  | loneReturn {rest : Text} (h : rest.head? ≠ some '\n') : LineEnding ['\r'] rest
  | feed (rest : Text) : LineEnding ['\n'] rest

/-- A text starts with some lines, all of them ended, and goes on with a rest. -/
inductive Starts : List Text → Text → Text → Prop
  | nil (rest : Text) : Starts [] rest rest
  | cons {line ending after rest : Text} {lines : List Text}
    (hline : ∀ c ∈ line, ¬ Text.isLineEnd c) (hending : LineEnding ending after)
    (h : Starts lines after rest) : Starts (line :: lines) (line ++ (ending ++ after)) rest

theorem lineEnding_of_takeLine? {text line ending rest : Text}
    (h : takeLine? text = some (line, ending, rest)) : LineEnding ending rest := by
  fun_induction takeLine? text generalizing line with
  | case1 => cases h
  | case2 rest =>
    cases h
    exact .returnAndFeed rest
  | case3 c rest hfeed hend =>
    cases h
    rw [Text.isLineEnd, Bool.or_eq_true, decide_eq_true_eq, decide_eq_true_eq] at hend
    rcases hend with rfl | rfl
    · exact .feed rest
    · refine .loneReturn fun hhead => ?_
      obtain ⟨after, rfl⟩ := List.head?_eq_some_iff.mp hhead
      exact hfeed after rfl rfl
  | case4 c rest _ _ ih =>
    obtain ⟨⟨line, ending, after⟩, hline, hparts⟩ := Option.map_eq_some_iff.mp h
    cases hparts
    exact ih hline

theorem LineEnding.takeLine?_append {ending rest : Text} (h : LineEnding ending rest) :
    takeLine? (ending ++ rest) = some ([], ending, rest) := by
  cases h with
  | returnAndFeed => rfl
  | loneReturn h =>
    refine takeLine?_of_isLineEnd rfl ?_
    rintro after - rfl
    exact h rfl
  | feed => rfl

/-- The first line, its end and the rest. -/
theorem takeLine?_eq_some_iff {text line ending rest : Text} :
    takeLine? text = some (line, ending, rest) ↔
      text = line ++ (ending ++ rest) ∧ (∀ c ∈ line, ¬ Text.isLineEnd c) ∧
        LineEnding ending rest := by
  constructor
  · intro h
    exact ⟨eq_append_of_takeLine? h, not_isLineEnd_of_takeLine? h, lineEnding_of_takeLine? h⟩
  · rintro ⟨rfl, hline, hending⟩
    rw [takeLine?_append hline, hending.takeLine?_append]
    simp

namespace Starts

variable {lines more : List Text} {text rest : Text}

theorem of_takeLine? {line ending after : Text} (h : takeLine? text = some (line, ending, after))
    (hstarts : Starts lines after rest) : Starts (line :: lines) text rest := by
  obtain ⟨rfl, hline, hending⟩ := takeLine?_eq_some_iff.mp h
  exact .cons hline hending hstarts

theorem exists_takeLine? {line : Text} (h : Starts (line :: lines) text rest) :
    ∃ ending after, takeLine? text = some (line, ending, after) ∧ Starts lines after rest := by
  cases h with
  | cons hline hending h => exact ⟨_, _, takeLine?_eq_some_iff.mpr ⟨rfl, hline, hending⟩, h⟩

theorem exists_eq_append (h : Starts lines text rest) : ∃ front, text = front ++ rest := by
  induction h with
  | nil rest => exact ⟨[], rfl⟩
  | @cons line ending _ _ _ _ _ _ ih =>
    obtain ⟨front, rfl⟩ := ih
    refine ⟨line ++ (ending ++ front), ?_⟩
    rw [List.append_assoc, List.append_assoc]

/-- Some of the lines come first. -/
theorem exists_of_append (h : Starts (lines ++ more) text rest) :
    ∃ middle, Starts lines text middle := by
  induction lines generalizing text with
  | nil => exact ⟨text, .nil text⟩
  | cons line lines ih =>
    obtain ⟨ending, after, hline, hrest⟩ := h.exists_takeLine?
    obtain ⟨middle, hmiddle⟩ := ih hrest
    exact ⟨middle, .of_takeLine? hline hmiddle⟩

end Starts

/-! ## Reading by the grammar -/

theorem exists_starts_of_takeThrough? {delimiter text before after : Text}
    (h : takeThrough? delimiter text = some (before, after)) :
    ∃ inner, delimiter ∉ inner ∧ Starts (inner ++ [delimiter]) text after := by
  fun_induction takeThrough? delimiter text generalizing before with
  | case1 => cases h
  | case2 text ending rest hline =>
    cases h
    exact ⟨[], List.not_mem_nil, .of_takeLine? hline (.nil _)⟩
  | case3 text line ending rest hline hne ih =>
    obtain ⟨⟨body, after⟩, hbody, hparts⟩ := Option.map_eq_some_iff.mp h
    cases hparts
    obtain ⟨inner, hnot, hstarts⟩ := ih hbody
    refine ⟨line :: inner, ?_, .of_takeLine? hline hstarts⟩
    rw [List.mem_cons, not_or]
    exact ⟨Ne.symm hne, hnot⟩

theorem exists_takeThrough?_of_starts {delimiter text after : Text} {inner : List Text}
    (hnot : delimiter ∉ inner) (h : Starts (inner ++ [delimiter]) text after) :
    ∃ before, takeThrough? delimiter text = some (before, after) := by
  induction inner generalizing text with
  | nil =>
    obtain ⟨ending, rest, hline, hrest⟩ := h.exists_takeLine?
    cases hrest
    exact ⟨delimiter ++ ending, by rw [takeThrough?_of_some hline, if_pos rfl]⟩
  | cons line inner ih =>
    rw [List.mem_cons, not_or] at hnot
    obtain ⟨ending, rest, hline, hrest⟩ := h.exists_takeLine?
    obtain ⟨before, hbefore⟩ := ih hnot.2 hrest
    refine ⟨line ++ (ending ++ before), ?_⟩
    rw [takeThrough?_of_some hline, if_neg (Ne.symm hnot.1), hbefore, Option.map_some]

/-- Front matter stands between two lines that are the same delimiter, with no such line inside. -/
theorem take?_eq_some_iff {text matter rest : Text} :
    take? text = some (matter, rest) ↔
      text = matter ++ rest ∧ ∃ delimiter inner, isDelimiter delimiter ∧ delimiter ∉ inner ∧
        Starts (delimiter :: (inner ++ [delimiter])) text rest := by
  constructor
  · intro h
    refine ⟨(isEnded_of_take? h).1, ?_⟩
    rw [take?] at h
    split at h
    · cases h
    · next line ending after hline =>
      split at h
      · next hdelimiter =>
        obtain ⟨⟨body, rest⟩, hbody, hparts⟩ := Option.map_eq_some_iff.mp h
        cases hparts
        obtain ⟨inner, hnot, hstarts⟩ := exists_starts_of_takeThrough? hbody
        exact ⟨line, inner, hdelimiter, hnot, .of_takeLine? hline hstarts⟩
      · cases h
  · rintro ⟨rfl, delimiter, inner, hdelimiter, hnot, hstarts⟩
    obtain ⟨ending, after, hline, hrest⟩ := hstarts.exists_takeLine?
    obtain ⟨body, hbody⟩ := exists_takeThrough?_of_starts hnot hrest
    have htake : take? (matter ++ rest) = some (delimiter ++ (ending ++ body), rest) := by
      rw [take?, hline]
      simp only [if_pos hdelimiter, hbody, Option.map_some]
    -- the text that is taken is what the rest leaves of the whole
    rw [htake, List.append_cancel_right (isEnded_of_take? htake).1]

theorem take?_eq_none_of_forall {content : Text}
    (h : ∀ delimiter later rest, isDelimiter delimiter →
      Starts (delimiter :: later) content rest → delimiter ∉ later) : take? content = none := by
  cases htake : take? content with
  | none => rfl
  | some cut =>
    obtain ⟨-, delimiter, inner, hdelimiter, -, hstarts⟩ := take?_eq_some_iff.mp htake
    have hmem : delimiter ∈ inner ++ [delimiter] :=
      List.mem_append_right inner List.mem_cons_self
    exact absurd hmem (h delimiter _ _ hdelimiter hstarts)

/-! ## Front matter by lines and by its pattern -/

/-- What the pattern matches is cut off. -/
theorem split_eq_matchStart? (content : Text) :
    split content =
      match Pattern.frontMatter.matchStart? content with
      | none => ([], content)
      | some found =>
        ((Text.lines (content.take found.stop)).dropLast, content.drop found.stop) := by
  have hstop := matchStart?_frontMatter content
  rw [split]
  cases htake : take? content with
  | none =>
    rw [htake, Option.map_none, Option.map_eq_none_iff] at hstop
    rw [hstop]
  | some cut =>
    obtain ⟨matter, rest⟩ := cut
    rw [htake, Option.map_some, Option.map_eq_some_iff] at hstop
    obtain ⟨found, hfound, hlength⟩ := hstop
    obtain ⟨rfl, -⟩ := isEnded_of_take? htake
    simp only [hfound, hlength, List.take_left, List.drop_left]

/-- The first of some lines that is the delimiter ends the front matter. -/
theorem exists_inner_of_starts {delimiter content rest : Text} {later : List Text}
    (hstarts : Starts (delimiter :: later) content rest) (hmem : delimiter ∈ later) :
    ∃ inner after, delimiter ∉ inner ∧ inner ++ [delimiter] <+: later ∧
      Starts (delimiter :: (inner ++ [delimiter])) content after := by
  obtain ⟨inner, more, rfl, hnot⟩ := List.eq_append_cons_of_mem hmem
  have hsplit : delimiter :: (inner ++ delimiter :: more) =
      delimiter :: (inner ++ [delimiter]) ++ more := by
    rw [List.cons_append, List.append_assoc, List.singleton_append]
  rw [hsplit] at hstarts
  obtain ⟨after, hafter⟩ := hstarts.exists_of_append
  refine ⟨inner, after, hnot, ⟨more, ?_⟩, hafter⟩
  rw [List.append_assoc, List.singleton_append]

/-- **The grammar of front matter.** What is cut off is what the pattern matches. If the first line
of a text is a delimiter and a later one is the same, all of them ended, then the text is cut behind
the next such line. The lines in front of the cut are those of the text there, without the empty one
at its end, and the cut is not between a carriage return and a line feed. In every other text
nothing is cut off. -/
theorem split_grammar (content : Text) :
    (split content =
      match Pattern.frontMatter.matchStart? content with
      | none => ([], content)
      | some found =>
        ((Text.lines (content.take found.stop)).dropLast, content.drop found.stop)) ∧
    (∀ delimiter later rest, delimiter = "---".toList ∨ delimiter = "+++".toList →
      Starts (delimiter :: later) content rest → delimiter ∈ later →
        ∃ (inner : List Text) (matter after : Text),
          delimiter ∉ inner ∧ inner ++ [delimiter] <+: later ∧
          Starts (delimiter :: (inner ++ [delimiter])) content after ∧
          content = matter ++ after ∧ split content = (matter.lines.dropLast, after) ∧
          matter.lines = matter.lines.dropLast ++ [[]] ∧
          (matter.getLast? = some '\r' → after.head? ≠ some '\n')) ∧
    ((∀ delimiter later rest, delimiter = "---".toList ∨ delimiter = "+++".toList →
      Starts (delimiter :: later) content rest → delimiter ∉ later) →
        split content = ([], content)) := by
  refine ⟨split_eq_matchStart? content, ?_, ?_⟩
  · intro delimiter later rest hdelimiter hstarts hmem
    obtain ⟨inner, after, hnot, hfirst, hcut⟩ := exists_inner_of_starts hstarts hmem
    obtain ⟨matter, rfl⟩ := hcut.exists_eq_append
    have htake : take? (matter ++ after) = some (matter, after) :=
      take?_eq_some_iff.mpr ⟨rfl, delimiter, inner, isDelimiter_iff.mpr hdelimiter, hnot, hcut⟩
    obtain ⟨-, c, hlast, hend, hfeed⟩ := isEnded_of_take? htake
    obtain ⟨others, hlines⟩ :=
      Text.exists_lines_eq_of_getLast? hlast (Text.isTerminator_of_isLineEnd hend)
    refine ⟨inner, matter, after, hnot, hfirst, hcut, rfl, ?_, ?_, ?_⟩
    · rw [split, htake]
    · rw [hlines, List.dropLast_concat]
    · intro hreturn
      exact hfeed (Option.some.inj (hlast.symm.trans hreturn))
  · intro h
    rw [split, take?_eq_none_of_forall fun delimiter later rest hdelimiter =>
      h delimiter later rest (isDelimiter_iff.mp hdelimiter)]

/-- Four lines that end in three ways, with the other delimiter inside. The line separator is a line
of its own here, and two lines of the text. In the other text, the first line is no delimiter. -/
theorem split_grammar_mixed_ends :
    let content : Text := "+++\r\n---\r\u2028\n+++\r\n\n# A".toList
    let later := ["---".toList, ['\u2028'], "+++".toList]
    let other : Text := "--- \n---\n".toList
    Starts ("+++".toList :: later) content "\n# A".toList ∧ "+++".toList ∈ later ∧
      (∃ (inner : List Text) (matter after : Text), "+++".toList ∉ inner ∧
        Starts ("+++".toList :: (inner ++ ["+++".toList])) content after ∧
        content = matter ++ after ∧ after = "\n# A".toList ∧
        matter.lines = ["+++".toList, "---".toList, [], [], "+++".toList, []]) ∧
      (∀ delimiter later rest, delimiter = "---".toList ∨ delimiter = "+++".toList →
        Starts (delimiter :: later) other rest → delimiter ∉ later) ∧
      split other = ([], other) := by
  intro content later other
  have hstarts : Starts ("+++".toList :: later) content "\n# A".toList := by
    have hfirst : takeLine? content =
        some ("+++".toList, "\r\n".toList, "---\r\u2028\n+++\r\n\n# A".toList) := by decide +kernel
    have hsecond : takeLine? "---\r\u2028\n+++\r\n\n# A".toList =
        some ("---".toList, "\r".toList, "\u2028\n+++\r\n\n# A".toList) := by decide +kernel
    have hthird : takeLine? "\u2028\n+++\r\n\n# A".toList =
        some (['\u2028'], "\n".toList, "+++\r\n\n# A".toList) := by decide +kernel
    have hlast : takeLine? "+++\r\n\n# A".toList =
        some ("+++".toList, "\r\n".toList, "\n# A".toList) := by decide +kernel
    exact .of_takeLine? hfirst (.of_takeLine? hsecond (.of_takeLine? hthird
      (.of_takeLine? hlast (.nil _))))
  have hmem : "+++".toList ∈ later := by decide
  obtain ⟨inner, matter, after, hnot, -, hcut, hcontent, hsplit, hlines, -⟩ :=
    (split_grammar content).2.1 _ later _ (.inr rfl) hstarts hmem
  have hvalue : split content =
      (["+++".toList, "---".toList, [], [], "+++".toList], "\n# A".toList) := by decide +kernel
  obtain ⟨hbefore, hafter⟩ := Prod.mk.inj (hsplit.symm.trans hvalue)
  have hother : ∀ delimiter later rest, delimiter = "---".toList ∨ delimiter = "+++".toList →
      Starts (delimiter :: later) other rest → delimiter ∉ later := by
    intro delimiter later rest hdelimiter hstarts
    have hread : takeLine? other = some ("--- ".toList, ['\n'], "---\n".toList) := by
      decide +kernel
    obtain ⟨ending, after, hline, -⟩ := hstarts.exists_takeLine?
    cases hread.symm.trans hline
    rcases hdelimiter with heq | heq
    all_goals exact absurd heq (by decide)
  refine ⟨hstarts, hmem, ⟨inner, matter, after, hnot, hcut, hcontent, hafter, ?_⟩, hother,
    (split_grammar other).2.2 hother⟩
  rw [hlines, hbefore]
  rfl

end MarkdownCheck.FrontMatter
