import MarkdownCheck.Proofs.Document.OfText
import MarkdownCheck.Proofs.General
import MarkdownCheck.Proofs.Markdown.ListNesting

/-!
# What the lists of a document are indented by

A list stands on the line of its first marker, and its indent is read off that line again. It is the
column of the marker if nothing else starts on the line before it.

- `Markdown.linesStand_sourceLines`: a document's lines are those that the parser reads.
- `nested_tokens`: the tokens of a document nest, with its lists aligned.
- `exists_aligned_entries`: every list of a document, with its marker, its item and the list around
  it.
- `HasShallowList`: texts with a list in another one that is not indented deeper.
-/

namespace MarkdownCheck

namespace Markdown

/-! ## The lines that the parser starts from -/

theorem mem_sourceLinesFrom {before text : Text} {line : Line}
    (h : line ∈ sourceLinesFrom before text) : ∃ isEnded, line = .ofText line.body isEnded := by
  induction text generalizing before with
  | nil =>
    rw [sourceLinesFrom] at h
    split at h
    · cases h
    · obtain rfl := List.mem_singleton.mp h
      exact ⟨false, rfl⟩
  | cons c rest ih =>
    rw [sourceLinesFrom] at h
    split at h
    · rcases List.mem_cons.mp h with rfl | h
      · exact ⟨true, rfl⟩
      · exact ih h
    · exact ih h

theorem getElem?_withoutBlankEnd {lines : List Text} {index : Nat} {text : Text}
    (h : (withoutBlankEnd lines)[index]? = some text) : lines[index]? = some text := by
  rw [withoutBlankEnd] at h
  split at h
  · rw [List.getElem?_dropLast] at h
    split at h
    · exact h
    · cases h
  · exact h

theorem lineAt_succ {lines : List Text} {index : Nat} {text : Text}
    (h : lines[index]? = some text) :
    lineAt lines (some ((index : Int) + 1)) = text := by
  have hindex : ((index : Int) + 1 - 1).toNat = index := by omega
  rw [lineAt, if_pos (by omega), hindex, List.getD_eq_getElem?_getD, h]
  rfl

/-- The lines of a document are those that the parser reads, so these stand on them. -/
theorem linesStand_sourceLines {content : Text}
    (hends : ∀ c ∈ content, Text.isTerminator c → Text.isLineEnd c) :
    let lines : Lines := (sourceLines (normalize content)).toArray
    LinesStand content.lines [] lines lines.size := by
  intro lines index hindex _
  have hline : (sourceLines (normalize content))[index]? = some (lines.line index) := by
    have hlength : index < (sourceLines (normalize content)).length := by simpa [lines] using hindex
    simp [lines, Lines.line, hlength]
  obtain ⟨isEnded, hofText⟩ := mem_sourceLinesFrom (List.mem_of_getElem? hline)
  have hbody : (lineTable content)[index]? = some (lines.line index).body := by
    refine getElem?_withoutBlankEnd ?_
    rw [← map_body_sourceLines, List.getElem?_map, hline]
    rfl
  rw [map_lineAt, map_lines_eq_lineTable hends, lineAt_succ hbody, hofText]
  exact stands_ofText _ _

/-- The blocks of a text nest, with its lists aligned. -/
theorem nested_blocks {content : Text} {blocks : Blocks} (keys : List Text)
    (hends : ∀ c ∈ content, Text.isTerminator c → Text.isLineEnd c)
    (h : parseBlocks (normalize content) = .ok blocks) :
    Nested Aligned [] (blocks.tokens.toList.map (shown content.lines keys)) := by
  unfold parseBlocks at h
  dsimp only at h
  split at h
  · cases h
  · obtain rfl := Except.ok.inj h
    have hlines := linesStand_sourceLines hends
    generalize (sourceLines (normalize content)).toArray = lines at hlines
    have hsurrounds : Surrounds content.lines [] { limit := lines.size } lines lines.size :=
      ⟨hlines, nofun⟩
    have hreads : ReadsNested content.lines keys (readBlocks deepestNesting) :=
      readBlocks_nested deepestNesting
    obtain ⟨added, hadded, hnested⟩ := hreads [] _ lines 0 lines.size {} hsurrounds
    rw [hadded]
    exact hnested

end Markdown

/-- The tokens of a document nest, with its lists aligned. -/
theorem nested_tokens {content name : Text} {matter : List Text} {document : Document}
    (hends : ∀ c ∈ content, Text.isTerminator c → Text.isLineEnd c)
    (h : Document.ofText content name matter = .ok document) :
    Nested Aligned [] document.tokens := by
  obtain ⟨tokens, htokens, rfl⟩ := exists_tokens_of_ofText h
  unfold Markdown.tokens at htokens
  cases hblocks : Markdown.parseBlocks (Markdown.normalize content) with
  | error failure =>
    rw [hblocks] at htokens
    cases htokens
  | ok blocks =>
    rw [hblocks] at htokens
    obtain rfl := Except.ok.inj htokens
    rw [List.map_map]
    exact Markdown.nested_blocks blocks.keys hends hblocks

/-- Tokens of one line have one indent. -/
theorem indent_eq_of_lineNumber_eq {content name : Text} {matter : List Text} {document : Document}
    (h : Document.ofText content name matter = .ok document) {first second : Token}
    (hfirst : first ∈ document.tokens) (hsecond : second ∈ document.tokens)
    (hnumber : first.lineNumber = second.lineNumber) : first.indent = second.indent := by
  obtain ⟨tokens, -, rfl⟩ := exists_tokens_of_ofText h
  obtain ⟨parsed, -, rfl⟩ := List.mem_map.mp hfirst
  obtain ⟨parsed', -, rfl⟩ := List.mem_map.mp hsecond
  have hline : (Token.ofParsed content.lines parsed).line =
      (Token.ofParsed content.lines parsed').line :=
    congrArg (lineAt content.lines) hnumber
  rw [Token.indent, Token.indent, hline]

/-- **What lists are indented by.** Let the lines of a text end in line feeds and carriage returns
only. Then its lists have an outline, with an entry for each token that opens a list. Where no item
around a list starts on its line,

- the entry's indent is the place, behind quote markers, at which the list's own marker stands on
  that line: only blanks come before it, and it has the sign and the kind of the list;
- if the list stands directly in an item, if no item around starts on the line of that item either,
  and if no tab comes before the marker, then the list is indented deeper than that item. So it is
  indented deeper than the list around it if the item is the first one there, on the line on which
  that list opens, or if it stands no further left. -/
theorem exists_aligned_entries {content name : Text} {matter : List Text} {document : Document}
    (hends : ∀ c ∈ content, Text.isTerminator c → Text.isLineEnd c)
    (h : Document.ofText content name matter = .ok document) :
    ∃ entries, outline document.tokens = .ok entries ∧
      entries.map (·.opening) = document.tokens.filter Token.opensList ∧
      ∀ before opening after, document.tokens = before ++ opening :: after →
        opening.opensList = true →
        ∃ entry, entries[before.countP Token.opensList]? = some entry ∧ entry.opening = opening ∧
          (StartsLine (openContainers [] before) opening →
            (∃ marker : Markdown.ListMarker,
              Markdown.ListMarker.at? ((Quote.strip opening.line).drop entry.indent) = some marker ∧
              (∀ c ∈ (Quote.strip opening.line).take entry.indent, Markdown.isSpace c = true) ∧
              opening.markup = [marker.sign] ∧ entry.isUnordered = marker.number.isNone) ∧
            ∀ item outer, openContainers [] before = item :: outer → item.opensItem = true →
              StartsLine outer item → '\t' ∉ (Quote.strip opening.line).take entry.indent →
                item.indent < entry.indent ∧
                ∃ list rest, outer = list :: rest ∧ list.opensList = true ∧
                  entry.parentIndent = list.indent ∧
                  (item.lineNumber = list.lineNumber ∨ list.indent ≤ item.indent →
                    entry.parentIndent < entry.indent)) := by
  have hnested := nested_tokens hends h
  obtain ⟨entries, houtline⟩ := hnested.exists_outline
  refine ⟨entries, houtline, map_opening_of_outline houtline,
    fun before opening after hsplit opens => ?_⟩
  obtain ⟨haligned, hplace, entry, hentry, hopening, hunordered, hindent, hparent⟩ :=
    hnested.exists_entry houtline hsplit opens
  refine ⟨entry, hentry, hopening, fun hstarts =>
    ⟨?_, fun item outer haround hitem hfirst htab => ?_⟩⟩
  · obtain ⟨marker, hmarker⟩ := haligned.shows hstarts
    rw [hindent]
    exact ⟨marker, hmarker.atIndent, hmarker.blanks, hmarker.markup,
      hunordered.trans hmarker.opensBullets⟩
  · rw [hindent] at htab ⊢
    have hdeeper := haligned.deeper hstarts htab item outer haround hitem hfirst
    obtain ⟨list, rest, rfl, hlist⟩ := hplace.within item outer haround hitem
    have hopened (token : Token) (hmem : token ∈ openContainers [] before) :
        token ∈ document.tokens := by
      rw [hsplit]
      exact List.mem_append_left _ ((mem_of_mem_openContainers hmem).resolve_left nofun)
    have hparent' : entry.parentIndent = list.indent := by
      rw [hparent, hplace.lists_eq, haround,
        List.filter_cons_of_neg (by simp [Token.lists_of_opensItem hitem]),
        List.filter_cons_of_pos hlist]
      rfl
    have hlevel (hsame : item.lineNumber = list.lineNumber) : list.indent ≤ item.indent :=
      Nat.le_of_eq (indent_eq_of_lineNumber_eq h (hopened list (by simp [haround]))
        (hopened item (by simp [haround])) hsame.symm)
    refine ⟨hdeeper, list, rest, rfl, hlist, hparent', fun hright => ?_⟩
    rw [hparent']
    exact Nat.lt_of_le_of_lt (hright.elim hlevel id) hdeeper

/-- In a quote, a numbered list in an item of a bullet list: the list inside is indented deeper. -/
theorem exists_aligned_entries_quoted :
    let content := "> - a\n>    1) b".toList
    (∀ c ∈ content, Text.isTerminator c → Text.isLineEnd c) ∧
      ∃ document entries entry, Document.ofText content [] [] = .ok document ∧
        outline document.tokens = .ok entries ∧ entries[1]? = some entry ∧
        entry.parentIndent < entry.indent ∧
        ∃ marker : Markdown.ListMarker, entry.isUnordered = marker.number.isNone ∧
          Markdown.ListMarker.at? ((Quote.strip entry.opening.line).drop entry.indent) =
            some marker := by
  intro content
  have hends : ∀ c ∈ content, Text.isTerminator c → Text.isLineEnd c := by
    have hall : content.all fun c => !Text.isTerminator c || Text.isLineEnd c := by decide
    intro c hc hterm
    simpa [hterm] using List.all_eq_true.mp hall c hc
  -- the second list opens behind six tokens, in the item on the line above
  have hplace : (Document.ofText content [] []).toOption.any fun document =>
      let around := openContainers [] (document.tokens.take 6)
      document.tokens[6]?.any fun opening => around.head?.any fun item =>
        decide (opening.opensList = true ∧ StartsLine around opening ∧ item.opensItem = true ∧
          StartsLine around.tail item ∧ '\t' ∉ Quote.strip opening.line ∧
          around.tail.head?.map Token.lineNumber = some item.lineNumber ∧
          (document.tokens.take 6).countP Token.opensList = 1) := by
    decide +kernel
  obtain ⟨document, hdocument, hplace⟩ := (Option.any_eq_true _ _).mp hplace
  obtain ⟨opening, hopening, hplace⟩ := (Option.any_eq_true _ _).mp hplace
  obtain ⟨item, hitem, hplace⟩ := (Option.any_eq_true _ _).mp hplace
  obtain ⟨opens, hstarts, hopensItem, hfirst, htab, hsame, hcount⟩ := of_decide_eq_true hplace
  have hread := eq_ok_of_toOption hdocument
  obtain ⟨hlength, rfl⟩ := List.getElem?_eq_some_iff.mp hopening
  have hsplit := (List.take_append_drop 6 document.tokens).symm
  rw [List.drop_eq_getElem_cons hlength] at hsplit
  obtain ⟨entries, houtline, -, hentries⟩ := exists_aligned_entries hends hread
  obtain ⟨entry, hentry, hopening, haligned⟩ := hentries _ _ _ hsplit opens
  rw [← hopening] at haligned hstarts htab
  obtain ⟨⟨marker, hmarker, -, -, hkind⟩, hdeeper⟩ := haligned hstarts
  obtain ⟨outer, haround⟩ := List.head?_eq_some_iff.mp hitem
  rw [haround, List.tail_cons] at hfirst hsame
  obtain ⟨-, list, rest, rfl, -, -, hparent⟩ := hdeeper item outer haround hopensItem hfirst
    fun hmem => htab (List.mem_of_mem_take hmem)
  exact ⟨hends, document, entries, entry, hread, houtline, hcount ▸ hentry,
    hparent (.inl (Option.some.inj hsame).symm), marker, hkind, hmarker⟩

/-- A text has a list inside another one that is not indented deeper than that. -/
def HasShallowList (content : Text) : Prop :=
  ∃ document entries, Document.ofText content [] [] = .ok document ∧
    outline document.tokens = .ok entries ∧
    ∃ entry ∈ entries, 0 < entry.depth ∧ ¬ entry.parentIndent < entry.indent

theorem hasShallowList_of_any {content : Text}
    (h : (Document.ofText content [] []).toOption.any fun document =>
      (outline document.tokens).toOption.any fun entries =>
        entries.any fun entry =>
          decide (0 < entry.depth ∧ ¬ entry.parentIndent < entry.indent)) :
    HasShallowList content := by
  obtain ⟨document, hdocument, hfound⟩ := (Option.any_eq_true _ _).mp h
  obtain ⟨entries, hentries, hfound⟩ := (Option.any_eq_true _ _).mp hfound
  obtain ⟨entry, hentry, hfound⟩ := List.any_eq_true.mp hfound
  exact ⟨document, entries, eq_ok_of_toOption hdocument, eq_ok_of_toOption hentries, entry, hentry,
    of_decide_eq_true hfound⟩

/-- Lists in items that are not indented deeper than the lists around them. The first three come of
how indents are meant to be counted: a quote stands between the lists, and its marker takes the
columns away; a tab counts as one; an item stands left of the first one of its list. The last one is
a defect: the indent of a list is documented as the column of its marker, behind quote markers, and
the second marker on the line stands in column 2, but its list gets the blanks in front of the line,
which are none. `exists_aligned_entries` leaves that case out and asks that no item starts on the
line of the list. -/
theorem hasShallowList_quote_tab_left_same_line :
    HasShallowList "- a\n  > - b".toList ∧ HasShallowList "   - a\n\t - b".toList ∧
      HasShallowList "  - a\n- b\n  - c".toList ∧ HasShallowList "- - a".toList := by
  refine ⟨?_, ?_, ?_, ?_⟩
  all_goals exact hasShallowList_of_any (by decide +kernel)

end MarkdownCheck
