import MarkdownCheck.Proofs.Document.OfText
import MarkdownCheck.Proofs.Fence.Scan
import MarkdownCheck.Proofs.Text.Lines

/-!
# Lines of a document and lines of the parser

A document is cut into lines at every terminator, but the parser ends lines at line feeds and
carriage returns only. Both count the same lines as long as a text has no other terminators.

- `Markdown.lineTable`: the lines that the parser counts; `Markdown.map_body_sourceLines` says that
  it reads these.
- `Markdown.map_lines_eq_lineTable_iff`: which texts have the parser's lines.
- `lines_eq_lineTable_and_tokens`: in such a text, tokens carry the lines that the parser means.
- `lines_ne_lineTable_lineSeparator`: another text.
-/

namespace MarkdownCheck

/-! ## Cutting at a character -/

namespace Text

theorem splitAt_ne_nil (separator : Char) (text : Text) : splitAt separator text ≠ [] := by
  fun_induction splitAt separator text <;> simp_all

theorem splitAt_cons_self (separator : Char) (rest : Text) :
    splitAt separator (separator :: rest) = [] :: splitAt separator rest := by
  obtain ⟨piece, pieces, hsplit⟩ := List.exists_cons_of_ne_nil (splitAt_ne_nil separator rest)
  rw [splitAt, hsplit]
  exact if_pos rfl

theorem splitAt_cons_of_ne {separator c : Char} (h : c ≠ separator) (rest : Text) :
    splitAt separator (c :: rest) = (splitAt separator rest).modifyHead (c :: ·) := by
  obtain ⟨piece, pieces, hsplit⟩ := List.exists_cons_of_ne_nil (splitAt_ne_nil separator rest)
  rw [splitAt, hsplit]
  exact if_neg h

/-- No other character is lost. -/
theorem exists_mem_splitAt {separator c : Char} {text : Text} (h : c ∈ text)
    (hne : c ≠ separator) : ∃ piece ∈ splitAt separator text, c ∈ piece := by
  induction text with
  | nil => cases h
  | cons d rest ih =>
    obtain ⟨first, more, hsplit⟩ := List.exists_cons_of_ne_nil (splitAt_ne_nil separator rest)
    rw [hsplit] at ih
    by_cases hd : d = separator
    · subst hd
      obtain ⟨piece, hpiece, hmem⟩ := ih ((List.mem_cons.mp h).resolve_left hne)
      rw [splitAt_cons_self, hsplit]
      exact ⟨piece, List.mem_cons_of_mem _ hpiece, hmem⟩
    · rw [splitAt_cons_of_ne hd, hsplit, List.modifyHead_cons]
      rcases List.mem_cons.mp h with rfl | h
      · exact ⟨_, List.mem_cons_self, List.mem_cons_self⟩
      · obtain ⟨piece, hpiece, hmem⟩ := ih h
        rcases List.mem_cons.mp hpiece with rfl | hpiece
        · exact ⟨_, List.mem_cons_self, List.mem_cons_of_mem _ hmem⟩
        · exact ⟨piece, List.mem_cons_of_mem _ hpiece, hmem⟩

end Text

namespace Markdown

/-! ## The lines that the parser counts -/

/-- The lines that the parser counts: those of the normalized text, with a line feed between any
two. -/
def lineTable (content : Text) : List Text :=
  Text.splitAt '\n' (normalize content)

/-- Lines without a last one of nothing but spaces and tabs. -/
def withoutBlankEnd (lines : List Text) : List Text :=
  if lines.getLast?.any (·.all isSpace) then lines.dropLast else lines

theorem withoutBlankEnd_cons (first : Text) {rest : List Text} (h : rest ≠ []) :
    withoutBlankEnd (first :: rest) = first :: withoutBlankEnd rest := by
  obtain ⟨second, more, rfl⟩ := List.exists_cons_of_ne_nil h
  rw [withoutBlankEnd, withoutBlankEnd, List.getLast?_cons_cons, List.dropLast_cons_cons]
  split <;> rfl

theorem body_ofText (body : Text) (isEnded : Bool) : (Line.ofText body isEnded).body = body :=
  rfl

/-- What has been read of a line stands in front of what is left. -/
theorem map_body_sourceLinesFrom (before text : Text) :
    (sourceLinesFrom before text).map (·.body) =
      withoutBlankEnd ((Text.splitAt '\n' text).modifyHead (before.reverse ++ ·)) := by
  induction text generalizing before with
  | nil =>
    rw [sourceLinesFrom, Text.splitAt, List.modifyHead_cons, List.append_nil, withoutBlankEnd]
    by_cases hblank : before.reverse.all isSpace
    · simp [hblank]
    · simp [hblank, body_ofText]
  | cons c rest ih =>
    obtain ⟨first, more, hsplit⟩ := List.exists_cons_of_ne_nil (Text.splitAt_ne_nil '\n' rest)
    rw [sourceLinesFrom]
    split
    · next hc =>
      subst hc
      rw [List.map_cons, ih, body_ofText, Text.splitAt_cons_self, List.modifyHead_cons,
        List.append_nil, withoutBlankEnd_cons _ (Text.splitAt_ne_nil '\n' rest), hsplit]
      rfl
    · next hc =>
      rw [ih, Text.splitAt_cons_of_ne hc, hsplit]
      simp

/-- The parser reads the lines that it counts, but for a blank one at the end. -/
theorem map_body_sourceLines (content : Text) :
    (sourceLines (normalize content)).map (·.body) = withoutBlankEnd (lineTable content) := by
  obtain ⟨first, more, hsplit⟩ :=
    List.exists_cons_of_ne_nil (Text.splitAt_ne_nil '\n' (normalize content))
  rw [sourceLines, map_body_sourceLinesFrom, lineTable, hsplit]
  rfl

/-! ## Texts whose lines are those of the parser -/

/-- Shows a character as the parser reads it. -/
def replaceNull (c : Char) : Char :=
  if c = '\x00' then '\ufffd' else c

theorem replaceNull_of_isTerminator {c : Char} (h : Text.isTerminator c) : replaceNull c = c := by
  refine if_neg ?_
  rintro rfl
  cases h

theorem not_isTerminator_replaceNull {c : Char} (h : ¬ Text.isTerminator c) :
    ¬ Text.isTerminator (replaceNull c) := by
  rw [replaceNull]
  split
  · decide
  · exact h

/-- What ends a line is read as a line feed. -/
theorem lineTable_ends {ending rest : Text} (h : Text.Ends ending rest)
    (hends : ∀ c ∈ ending, Text.isLineEnd c) :
    lineTable (ending ++ rest) = [] :: lineTable rest := by
  have hnormal : normalize (ending ++ rest) = '\n' :: normalize rest := by
    cases h with
    | returnAndFeed => rfl
    | returnAndNext => cases hends '\u0085' (by simp)
    | @single c _ _ hnext =>
      have hc := hends c List.mem_cons_self
      simp only [Text.isLineEnd, Bool.or_eq_true, decide_eq_true_eq] at hc
      rw [List.singleton_append, normalize]
      · rcases hc with rfl | rfl <;> rfl
      · rintro _ rfl rfl
        exact (hnext rfl _ rfl).1 rfl
  rw [lineTable, hnormal, Text.splitAt_cons_self, lineTable]

theorem normalize_cons {c : Char} (h : c ≠ '\r') (rest : Text) :
    normalize (c :: rest) = replaceNull c :: normalize rest := by
  rw [normalize, if_neg h, replaceNull]
  exact fun _ hreturn => absurd hreturn h

theorem lineTable_cons_of_not_isTerminator {c : Char} (h : ¬ Text.isTerminator c) (rest : Text) :
    lineTable (c :: rest) = (lineTable rest).modifyHead (replaceNull c :: ·) := by
  have hreturn : c ≠ '\r' := by
    rintro rfl
    exact h rfl
  have hfeed : replaceNull c ≠ '\n' := fun hfeed =>
    not_isTerminator_replaceNull h (hfeed ▸ rfl)
  rw [lineTable, normalize_cons hreturn, Text.splitAt_cons_of_ne hfeed, lineTable]

/-- The parser reads all characters but line feeds and carriage returns. -/
theorem mem_normalize {c : Char} {content : Text} (h : c ∈ content) (hend : ¬ Text.isLineEnd c) :
    replaceNull c ∈ normalize content := by
  fun_induction normalize content with
  | case1 => cases h
  | case2 rest ih =>
    rcases List.mem_cons.mp h with rfl | h
    · exact absurd rfl hend
    · rcases List.mem_cons.mp h with rfl | h
      · exact absurd rfl hend
      · exact List.mem_cons_of_mem _ (ih h)
  | case3 d rest _ ih =>
    rcases List.mem_cons.mp h with rfl | h
    · have hreturn : c ≠ '\r' := by
        rintro rfl
        exact hend rfl
      rw [if_neg hreturn, ← replaceNull]
      exact List.mem_cons_self
    · exact List.mem_cons_of_mem _ (ih h)

theorem map_lines_eq_lineTable {content : Text}
    (h : ∀ c ∈ content, Text.isTerminator c → Text.isLineEnd c) :
    content.lines.map (List.map replaceNull) = lineTable content := by
  induction content using Text.lines_rec with
  | nil => rfl
  | ended ending rest hends ih =>
    have hfront : ∀ c ∈ ending, Text.isLineEnd c := fun c hc =>
      h c (List.mem_append_left _ hc) (hends.isTerminator_of_mem hc)
    rw [hends.lines_append, lineTable_ends hends hfront,
      ← ih fun c hc => h c (List.mem_append_right _ hc)]
    rfl
  | other c rest hc ih =>
    rw [Text.lines_cons_of_not_isTerminator hc, lineTable_cons_of_not_isTerminator hc,
      ← ih fun d hd => h d (List.mem_cons_of_mem _ hd), Text.map_modifyHead_cons]

/-- A document has the lines of the parser if and only if all terminators of its text are line feeds
and carriage returns. -/
theorem map_lines_eq_lineTable_iff (content : Text) :
    content.lines.map (List.map replaceNull) = lineTable content ↔
      ∀ c ∈ content, Text.isTerminator c → Text.isLineEnd c := by
  constructor
  · intro h c hc hterm
    refine Classical.not_not.mp fun hend => ?_
    -- the parser keeps the terminator in a line, and a line of the document holds none
    have hfeed : c ≠ '\n' := by
      rintro rfl
      exact hend rfl
    have hread : c ∈ normalize content :=
      replaceNull_of_isTerminator hterm ▸ mem_normalize hc hend
    obtain ⟨piece, hpiece, hmem⟩ := Text.exists_mem_splitAt hread hfeed
    rw [← lineTable, ← h] at hpiece
    obtain ⟨line, hline, rfl⟩ := List.mem_map.mp hpiece
    obtain ⟨d, hd, rfl⟩ := List.mem_map.mp hmem
    exact not_isTerminator_replaceNull (Text.not_isTerminator_of_mem_lines hline hd) hterm
  · exact map_lines_eq_lineTable

end Markdown

/-! ## Tokens and classes of lines -/

theorem map_lineAt (f : Char → Char) (lines : List Text) (number : Option Int) :
    (lineAt lines number).map f = lineAt (lines.map (List.map f)) number := by
  cases number with
  | none => rfl
  | some number =>
    rw [lineAt, lineAt]
    split
    · rw [List.getD_eq_getElem?_getD, List.getD_eq_getElem?_getD, List.getElem?_map]
      cases lines[(number - 1).toNat]? <;> rfl
    · rfl

theorem line_of_mem_tokens {content name : Text} {matter : List Text} {document : Document}
    (h : Document.ofText content name matter = .ok document) {token : Token}
    (htoken : token ∈ document.tokens) :
    token.line = lineAt content.lines (token.range.map (·.start + 1)) := by
  obtain ⟨tokens, -, rfl⟩ := exists_tokens_of_ofText h
  obtain ⟨parsed, -, rfl⟩ := List.mem_map.mp htoken
  rfl

theorem length_classify (lines : List Text) (tokens : List Token) :
    (classify lines tokens).length = lines.length := by
  rw [classify, List.length_mapIdx, length_scanFences]

/-- A line is in a table if a token says so, and in code if a token or the fences say so. -/
theorem inTable_and_inCode_of_classify {lines : List Text} {tokens : List Token} {index : Nat}
    {line : LineClass} (h : (classify lines tokens)[index]? = some line) :
    line.inTable = covered "table_open" tokens index ∧
      line.inCode =
        ((scanFences lines)[index]?.any (·.inCode) || covered "code_block" tokens index) := by
  rw [classify, List.getElem?_mapIdx, Option.map_eq_some_iff] at h
  obtain ⟨fenced, hfenced, rfl⟩ := h
  rw [hfenced]
  refine ⟨?_, rfl⟩
  show (fenced.inTable || covered "table_open" tokens index) = _
  rw [inTable_of_mem_scanFences (List.mem_of_getElem? hfenced), Bool.false_or]

/-- **When documents and the parser count the same lines.** The parser reads the lines that it
counts, but for a blank one at the end. A document has these lines, null characters apart, if and
only if all terminators of its text are line feeds and carriage returns. In such a text the line of
a token is the one that the parser means, and each line of the parser has one class, which says
whether a table or a code block of the parser covers it. -/
theorem lines_eq_lineTable_and_tokens (content : Text) :
    (Markdown.sourceLines (Markdown.normalize content)).map (·.body) =
      Markdown.withoutBlankEnd (Markdown.lineTable content) ∧
    (content.lines.map (List.map Markdown.replaceNull) = Markdown.lineTable content ↔
      ∀ c ∈ content, Text.isTerminator c → Text.isLineEnd c) ∧
    ((∀ c ∈ content, Text.isTerminator c → Text.isLineEnd c) →
      ∀ (name : Text) (matter : List Text) (document : Document),
        Document.ofText content name matter = .ok document →
          (∀ token ∈ document.tokens, ∀ range, token.range = some range →
            token.line.map Markdown.replaceNull =
              lineAt (Markdown.lineTable content) (some (range.start + 1))) ∧
          (classify document.lines document.tokens).length =
            (Markdown.lineTable content).length ∧
          ∀ (index : Nat) (line : LineClass),
            (classify document.lines document.tokens)[index]? = some line →
              line.inTable = covered "table_open" document.tokens index ∧
                line.inCode = ((scanFences document.lines)[index]?.any (·.inCode) ||
                  covered "code_block" document.tokens index)) := by
  refine ⟨Markdown.map_body_sourceLines content, Markdown.map_lines_eq_lineTable_iff content,
    fun hends name matter document h => ?_⟩
  have htable := Markdown.map_lines_eq_lineTable hends
  refine ⟨fun token htoken range hrange => ?_, ?_, fun _ _ => inTable_and_inCode_of_classify⟩
  · rw [line_of_mem_tokens h htoken, map_lineAt, htable, hrange, Option.map_some]
  · obtain ⟨tokens, -, rfl⟩ := exists_tokens_of_ofText h
    rw [length_classify, ← htable, List.length_map]

/-- A null character and a table, on lines that end in three ways. -/
theorem lines_eq_lineTable_and_tokens_table :
    let content := "\x00\r\n\r|a|\n|-|".toList
    (∀ c ∈ content, Text.isTerminator c → Text.isLineEnd c) ∧
    ∃ document, Document.ofText content [] [] = .ok document ∧
      (∀ token ∈ document.tokens, ∀ range, token.range = some range →
        token.line.map Markdown.replaceNull =
          lineAt (Markdown.lineTable content) (some (range.start + 1))) ∧
      (classify document.lines document.tokens).length = 4 := by
  intro content
  have hends : ∀ c ∈ content, Text.isTerminator c → Text.isLineEnd c := by
    have hall : content.all fun c => !Text.isTerminator c || Text.isLineEnd c := by decide
    intro c hc hterm
    simpa [hterm] using List.all_eq_true.mp hall c hc
  have hread : (Document.ofText content [] []).toOption.isSome := by decide +kernel
  cases h : Document.ofText content [] [] with
  | error failure =>
    rw [h] at hread
    cases hread
  | ok document =>
    obtain ⟨hline, hlength, -⟩ := (lines_eq_lineTable_and_tokens content).2.2 hends [] [] document h
    have hfour : (Markdown.lineTable content).length = 4 := by decide +kernel
    exact ⟨hends, document, rfl, hline, hlength.trans hfour⟩

/-- A line separator ends a line of the document but none of the parser, so a heading behind it
carries another line. -/
theorem lines_ne_lineTable_lineSeparator :
    Text.lines "a\u2028b\n# c".toList = ["a".toList, "b".toList, "# c".toList] ∧
      Markdown.lineTable "a\u2028b\n# c".toList = ["a\u2028b".toList, "# c".toList] ∧
      (Document.ofText "a\u2028b\n# c".toList [] []).toOption.map (fun document =>
        (document.tokensOf "heading_open").map fun token => (token.range, token.line)) =
        some [(some ⟨1, 2⟩, "b".toList)] := by
  decide +kernel

end MarkdownCheck
