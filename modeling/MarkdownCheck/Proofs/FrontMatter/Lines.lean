import MarkdownCheck.Proofs.Lint.FrontMatter
import MarkdownCheck.Proofs.Text.Lines

/-!
# The lines around the end of front matter

What stands behind front matter is numbered on from its lines. That counts the lines of the whole
text, unless the front matter ends within a terminator: its own lines end with a carriage return,
and the lines of a text take a next-line control behind that along.

- `FrontMatter.IsEnded`: a text ends with the end of a line; `FrontMatter.isEnded_of_take?` says
  that front matter does.
- `FrontMatter.CutsTerminator`: the texts whose front matter ends within a terminator.
- `FrontMatter.lines_eq_append_iff`: which texts have the lines of their front matter and of the
  rest.
- `FrontMatter.lines_ne_append_nextLine`: one that has not.
-/

namespace MarkdownCheck.FrontMatter

/-! ## Where front matter ends -/

/-- A text ends with the end of a line, to which nothing of the rest belongs. -/
def IsEnded (front rest : Text) : Prop :=
  ∃ c, front.getLast? = some c ∧ Text.isLineEnd c ∧ (c = '\r' → rest.head? ≠ some '\n')

theorem IsEnded.append_left {front rest : Text} (h : IsEnded front rest) (before : Text) :
    IsEnded (before ++ front) rest := by
  obtain ⟨c, hlast, hc⟩ := h
  exact ⟨c, by rw [List.getLast?_append, hlast, Option.some_or], hc⟩

theorem isEnded_of_takeLine? {text line ending rest : Text}
    (h : takeLine? text = some (line, ending, rest)) : IsEnded ending rest := by
  fun_induction takeLine? text generalizing line with
  | case1 => cases h
  | case2 =>
    cases h
    exact ⟨'\n', rfl, rfl, fun hreturn => absurd hreturn (by decide)⟩
  | case3 c rest hfeed hend =>
    cases h
    refine ⟨c, rfl, hend, fun hreturn hhead => ?_⟩
    obtain ⟨after, rfl⟩ := List.head?_eq_some_iff.mp hhead
    exact hfeed after hreturn rfl
  | case4 c rest _ _ ih =>
    obtain ⟨⟨line, ending, after⟩, hline, hparts⟩ := Option.map_eq_some_iff.mp h
    cases hparts
    exact ih hline

theorem isEnded_of_takeThrough? {delimiter text before after : Text}
    (h : takeThrough? delimiter text = some (before, after)) :
    text = before ++ after ∧ IsEnded before after := by
  fun_induction takeThrough? delimiter text generalizing before with
  | case1 => cases h
  | case2 text ending rest hline =>
    cases h
    refine ⟨?_, (isEnded_of_takeLine? hline).append_left _⟩
    rw [List.append_assoc, ← eq_append_of_takeLine? hline]
  | case3 text line ending rest hline _ ih =>
    obtain ⟨⟨body, after⟩, hbody, hparts⟩ := Option.map_eq_some_iff.mp h
    cases hparts
    obtain ⟨rfl, hended⟩ := ih hbody
    refine ⟨?_, (hended.append_left ending).append_left line⟩
    rw [eq_append_of_takeLine? hline, List.append_assoc, List.append_assoc]

/-- Front matter ends with the end of a line. -/
theorem isEnded_of_take? {text matter rest : Text} (h : take? text = some (matter, rest)) :
    text = matter ++ rest ∧ IsEnded matter rest := by
  rw [take?] at h
  split at h
  · cases h
  · next line ending after hline =>
    split at h
    · obtain ⟨⟨body, rest⟩, hbody, hparts⟩ := Option.map_eq_some_iff.mp h
      cases hparts
      obtain ⟨rfl, hended⟩ := isEnded_of_takeThrough? hbody
      refine ⟨?_, (hended.append_left ending).append_left line⟩
      rw [eq_append_of_takeLine? hline, List.append_assoc, List.append_assoc]
    · cases h

/-! ## Lines of the front matter and of the rest -/

/-- The front matter of a text ends within a terminator: it ends with a carriage return, and a
next-line control follows. -/
def CutsTerminator (text : Text) : Prop :=
  ∃ before rest, take? text = some (before ++ ['\r'], '\u0085' :: rest)

theorem cutsTerminator_iff {text matter rest : Text} (h : take? text = some (matter, rest)) :
    CutsTerminator text ↔ Text.Splits matter rest := by
  obtain ⟨-, c, hlast, -, hfeed⟩ := isEnded_of_take? h
  constructor
  · rintro ⟨before, after, hcut⟩
    obtain ⟨rfl, rfl⟩ := Prod.mk.inj (Option.some.inj (h.symm.trans hcut))
    exact ⟨List.getLast?_concat, _, rfl, .inr rfl⟩
  · rintro ⟨hreturn, d, hd, hnext⟩
    obtain ⟨before, rfl⟩ := List.getLast?_eq_some_iff.mp hreturn
    obtain ⟨after, rfl⟩ := List.head?_eq_some_iff.mp hd
    rw [List.getLast?_concat] at hlast
    -- a line feed would belong to the end of the front matter
    obtain rfl := hnext.resolve_left fun hd => hfeed (Option.some.inj hlast).symm (congrArg some hd)
    exact ⟨before, after, h⟩

theorem lines_eq_append {text : Text} (h : ¬ CutsTerminator text) :
    text.lines = (split text).1 ++ (split text).2.lines := by
  rw [split]
  cases htake : take? text with
  | none => rfl
  | some cut =>
    obtain ⟨matter, rest⟩ := cut
    obtain ⟨rfl, c, hlast, hend, -⟩ := isEnded_of_take? htake
    exact Text.lines_append_of_getLast? hlast (Text.isTerminator_of_isLineEnd hend)
      (mt (cutsTerminator_iff htake).mpr h)

/-- Behind a terminator that is cut, the rest has one line too many. -/
theorem lines_eq_append_of_cutsTerminator {text : Text} (h : CutsTerminator text) :
    ∃ more, (split text).2.lines = [] :: more ∧ text.lines = (split text).1 ++ more := by
  obtain ⟨before, rest, htake⟩ := h
  obtain ⟨rfl, -⟩ := isEnded_of_take? htake
  have hsplits := (cutsTerminator_iff htake).mp ⟨before, rest, htake⟩
  rw [split, htake]
  exact Text.lines_append_of_splits hsplits

/-- **Front matter and the rest have the lines of the whole text** if and only if the front matter
does not end within a terminator. Then a line of the document that is linted below front matter
stands as many lines further down in the text as have been taken off. Otherwise the rest starts with
an empty line that the text does not have. -/
theorem lines_eq_append_iff (text : Text) :
    (text.lines = (split text).1 ++ (split text).2.lines ↔ ¬ CutsTerminator text) ∧
    (¬ CutsTerminator text →
      ∀ (options : LintOptions) (name : Text) (document : Document),
        options.stripFrontMatter → options.clearComments = false →
          options.prepare text name = .ok document →
            document.frontMatter = (split text).1 ∧
            ∀ i : Nat, document.lines[i]? = text.lines[i + document.frontMatter.length]?) ∧
    (CutsTerminator text →
      ∃ more, (split text).2.lines = [] :: more ∧ text.lines = (split text).1 ++ more) := by
  refine ⟨⟨fun heq hcut => ?_, lines_eq_append⟩, ?_, lines_eq_append_of_cutsTerminator⟩
  · -- there would be two numbers of lines
    obtain ⟨more, hrest, hlines⟩ := lines_eq_append_of_cutsTerminator hcut
    rw [hrest, hlines] at heq
    exact List.cons_ne_self _ _ (List.append_cancel_left heq).symm
  · intro hcut options name document hstrip hclear hread
    have hsplit : options.split text = split text := if_pos hstrip
    have hcleared : options.cleared (split text).2 = (split text).2 := by
      rw [LintOptions.cleared, hclear, if_neg Bool.false_ne_true]
    rw [LintOptions.prepare_eq, hsplit, hcleared] at hread
    obtain ⟨tokens, -, hdocument⟩ := exists_tokens_of_ofText hread
    have hlines : document.lines = (split text).2.lines := by rw [hdocument]
    have hmatter : document.frontMatter = (split text).1 := by rw [hdocument]
    refine ⟨hmatter, fun i => ?_⟩
    rw [hlines, hmatter, lines_eq_append hcut, List.getElem?_append_right (Nat.le_add_left _ _),
      Nat.add_sub_cancel_right]

/-- Inside the front matter a carriage return may stand in front of a next-line control, and behind
the front matter any other terminator. -/
theorem lines_eq_append_iff_feed :
    let text : Text := "+++\r\u0085\n+++\n\u0085# A".toList
    let options : LintOptions := ⟨[], false, true, 1000, 80⟩
    ¬ CutsTerminator text ∧
      ∃ document, options.prepare text [] = .ok document ∧ document.frontMatter.length = 3 ∧
        ∀ i : Nat, document.lines[i]? = text.lines[i + document.frontMatter.length]? := by
  intro text options
  have hcut : ¬ CutsTerminator text := (lines_eq_append_iff text).1.mp (by decide +kernel)
  have hread : (options.prepare text []).toOption.isSome := by decide +kernel
  cases h : options.prepare text [] with
  | error failure =>
    rw [h] at hread
    cases hread
  | ok document =>
    obtain ⟨hmatter, hlines⟩ := (lines_eq_append_iff text).2.1 hcut options [] document rfl rfl h
    have hlength : (split text).1.length = 3 := by decide +kernel
    exact ⟨hcut, document, rfl, by rw [hmatter, hlength], hlines⟩

/-- The front matter ends with a carriage return in front of a next-line control. The third line of
the text is warned about as the fourth one. -/
theorem lines_ne_append_nextLine :
    let text : Text := "---\r---\r\u0085long".toList
    let options : LintOptions := ⟨[], true, true, 1000, 3⟩
    split text = (["---".toList, "---".toList], "\u0085long".toList) ∧
      text.lines = ["---".toList, "---".toList, "long".toList] ∧
      text.lines ≠ (split text).1 ++ (split text).2.lines ∧
      (lintText options text []).log.head? =
        some (lineWarning "<string>".toList 4 "long".toList "line-length".toList) := by
  decide +kernel

end MarkdownCheck.FrontMatter
