import MarkdownCheck.Proofs.Comment.Crlf
import MarkdownCheck.Proofs.Comment.LineStructure
import MarkdownCheck.Proofs.Document.LineTable
import MarkdownCheck.Proofs.FrontMatter.Crlf

/-!
# Linting a text with carriage returns

Whether the lines of a text end with line feeds, or with carriage returns and line feeds, is lost on
the way to its document. So both texts have the same violations and the same log.

- `Markdown.normalize_toCrlf`: the parser reads the same text.
- `Document.ofText_toCrlf`: both texts are the same document.
- `lintText_toCrlf`: both texts are linted alike.
-/

namespace MarkdownCheck

open Text (toCrlf)

/-! ## The document -/

/-- The parser reads the same text. -/
theorem Markdown.normalize_toCrlf {text : Text} (h : '\r' ∉ text) :
    normalize (toCrlf text) = normalize text := by
  induction text with
  | nil => rfl
  | cons c rest ih =>
    rw [List.mem_cons, not_or] at h
    have hcons (rest : Text) : normalize (c :: rest) = replaceNull c :: normalize rest :=
      normalize_cons (Ne.symm h.1) rest
    by_cases hc : c = '\n'
    · rw [hcons, hc, Text.toCrlf_feed, normalize, ih h.2]
      rfl
    · rw [Text.toCrlf_cons hc, hcons, hcons, ih h.2]

/-- Both texts are the same document. -/
theorem Document.ofText_toCrlf {content : Text} (h : '\r' ∉ content) (name : Text)
    (matter : List Text) : ofText (toCrlf content) name matter = ofText content name matter := by
  rw [ofText, ofText, Markdown.tokens, Markdown.tokens, Text.lines_toCrlf h,
    Markdown.normalize_toCrlf h]

/-! ## A lint run -/

namespace LintOptions

variable (options : LintOptions)

theorem split_toCrlf {content : Text} (h : '\r' ∉ content) :
    options.split (toCrlf content) =
      ((options.split content).1, toCrlf (options.split content).2) := by
  rw [split, split]
  split
  · exact FrontMatter.split_toCrlf h
  · rfl

theorem not_mem_split {content : Text} {c : Char} (h : c ∉ content) :
    c ∉ (options.split content).2 := by
  rw [split]
  split
  · rw [FrontMatter.split]
    cases htake : FrontMatter.take? content with
    | none => exact h
    | some found =>
      obtain ⟨matter, rest⟩ := found
      rw [(FrontMatter.isEnded_of_take? htake).1] at h
      exact fun hmem => h (List.mem_append_right _ hmem)
  · exact h

theorem cleared_toCrlf (content : Text) :
    options.cleared (toCrlf content) = toCrlf (options.cleared content) := by
  rw [cleared, cleared]
  split
  · exact Comment.clear_toCrlf content
  · rfl

theorem not_mem_cleared {content : Text} {c : Char} (hterm : Text.isTerminator c)
    (h : c ∉ content) : c ∉ options.cleared content := by
  rw [cleared]
  split
  · obtain ⟨extents, -, hcleared⟩ := Comment.exists_comments_clearedBy 0 content
    exact fun hmem => h (hcleared.mem_of_isTerminator hmem hterm)
  · exact h

theorem prepare_toCrlf {content : Text} (h : '\r' ∉ content) (name : Text) :
    options.prepare (toCrlf content) name = options.prepare content name := by
  have hreturn : '\r' ∉ options.cleared (options.split content).2 :=
    options.not_mem_cleared rfl (options.not_mem_split h)
  rw [prepare_eq, prepare_eq, options.split_toCrlf h, options.cleared_toCrlf,
    Document.ofText_toCrlf hreturn]

end LintOptions

/-- **Carriage returns make no difference.** A text without carriage returns, and the same text with
one in front of every line feed, are linted with the same result and the same log, for all options.
Front matter is cut off and comments are cleared alike in both. -/
theorem lintText_toCrlf {content : Text} (h : '\r' ∉ content) :
    (∀ (options : LintOptions) (name : Text),
      lintText options (toCrlf content) name = lintText options content name) ∧
    FrontMatter.split (toCrlf content) =
      ((FrontMatter.split content).1, toCrlf (FrontMatter.split content).2) ∧
    Comment.clear (toCrlf content) = toCrlf (Comment.clear content) := by
  refine ⟨fun options name => ?_, FrontMatter.split_toCrlf h, Comment.clear_toCrlf content⟩
  rw [lintText, lintText, options.prepare_toCrlf h]

/-- Line ends in front matter, in a comment that is blanked and in a directive that is not, and a
long line below. -/
theorem lintText_toCrlf_long_line :
    let long := "A line with thirty characters.".toList
    let rest := "<!-- a\nb -->\n<!-- markdownlint-disable\nX -->\n".toList ++ long
    let content := "---\na: 1\n---\n".toList ++ rest
    let options : LintOptions := ⟨[], true, true, 1000, 29⟩
    '\r' ∉ content ∧
      FrontMatter.split (toCrlf content) =
        (["---".toList, "a: 1".toList, "---".toList], toCrlf rest) ∧
      Comment.clear rest =
        "<!-- \\\n  -->\n<!-- markdownlint-disable\nX -->\n".toList ++ long ∧
      lintText options (toCrlf content) [] = lintText options content [] ∧
      (lintText options (toCrlf content) []).log.head? =
        some (lineWarning "<string>".toList 8 long "line-length".toList) := by
  intro long rest content options
  have hreturn : '\r' ∉ content := by decide
  obtain ⟨hlint, hsplit, -⟩ := lintText_toCrlf hreturn
  have hmatter : FrontMatter.split content =
      (["---".toList, "a: 1".toList, "---".toList], rest) := by
    decide +kernel
  have hlog : (lintText options content []).log.head? =
      some (lineWarning "<string>".toList 8 long "line-length".toList) := by
    decide +kernel
  rw [hmatter] at hsplit
  exact ⟨hreturn, hsplit, by decide +kernel, hlint options [], hlint options [] ▸ hlog⟩

end MarkdownCheck
