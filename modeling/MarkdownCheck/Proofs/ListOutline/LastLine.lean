import MarkdownCheck.Proofs.ListOutline.Preorder

/-!
# Where a list ends

The last line of a list is where the last content before its closing token ends. Content inside the
list stands on lines of the list, so the list then ends on its own lines. A list without content has
nothing to go by but what stands before it.

- `contentRanges`: the lines of the content of a stream.
- `lastStop_append_list`: where a stream ends that ends inside a list.
- `lastLine_mem_lines_iff`: when a list ends on its own lines.
-/

namespace MarkdownCheck

/-- The lines of the content tokens of a stream, of those that have lines. -/
def contentRanges (tokens : List Token) : List LineRange :=
  (tokens.filter Token.isContent).filterMap (·.range)

/-- Lines among others. -/
def LineRange.IsWithin (range lines : LineRange) : Prop :=
  lines.start ≤ range.start ∧ range.stop ≤ lines.stop

theorem contentRanges_append (front behind : List Token) :
    contentRanges (front ++ behind) = contentRanges front ++ contentRanges behind := by
  simp [contentRanges]

theorem mem_contentRanges {tokens : List Token} {range : LineRange} :
    range ∈ contentRanges tokens ↔
      ∃ token ∈ tokens, token.isContent = true ∧ token.range = some range := by
  simp [contentRanges, and_assoc]

/-- Content inside a list decides where the list ends; without any, the content before it does. -/
theorem lastStop_append_list {before : List Token} {opening : Token}
    (opens : opening.opensList = true) (inside : List Token) :
    lastStop (before ++ opening :: inside) =
      ((contentRanges inside).getLast?.map (·.stop)).getD (lastStop before) := by
  have hopening : contentRanges [opening] = [] := by
    simp [contentRanges, Token.isContent, opens]
  show ((contentRanges (before ++ ([opening] ++ inside))).getLast?.map (·.stop)).getD 1 = _
  rw [contentRanges_append, contentRanges_append, hopening, List.nil_append, List.getLast?_append]
  cases (contentRanges inside).getLast? with
  | none => rfl
  | some range => rfl

section

variable {before inside : List Token} {opening : Token} {lines : LineRange}

/-- Where the content stands on the lines of the list, only its start is left to check. -/
theorem lastStop_mem_lines_iff (opens : opening.opensList = true)
    (hwithin : ∀ token ∈ inside, ∀ range, token.range = some range → range.IsWithin lines) :
    lines.start < lastStop (before ++ opening :: inside) ∧
        lastStop (before ++ opening :: inside) ≤ lines.stop ↔
      match (contentRanges inside).getLast? with
      | some range => lines.start < range.stop
      | none => lines.start < lastStop before ∧ lastStop before ≤ lines.stop := by
  rw [lastStop_append_list opens]
  cases hlast : (contentRanges inside).getLast? with
  | none => exact Iff.rfl
  | some range =>
    obtain ⟨token, htoken, -, hrange⟩ := mem_contentRanges.mp (List.mem_of_getLast? hlast)
    exact and_iff_left (hwithin token htoken range hrange).2

/-- Content that takes up lines of the list keeps its end among them. -/
theorem lastStop_mem_lines (opens : opening.opensList = true)
    (hwithin : ∀ token ∈ inside, ∀ range, token.range = some range → range.IsWithin lines)
    (hcontent : contentRanges inside ≠ [])
    (hlines : ∀ range ∈ contentRanges inside, range.start < range.stop) :
    lines.start < lastStop (before ++ opening :: inside) ∧
      lastStop (before ++ opening :: inside) ≤ lines.stop := by
  rw [lastStop_mem_lines_iff opens hwithin]
  obtain ⟨range, hlast⟩ := Option.ne_none_iff_exists'.mp (mt List.getLast?_eq_none_iff.mp hcontent)
  have hmem := List.mem_of_getLast? hlast
  obtain ⟨token, htoken, -, hrange⟩ := mem_contentRanges.mp hmem
  rw [hlast]
  exact Int.lt_of_le_of_lt (hwithin token htoken range hrange).1 (hlines range hmem)

end

/-- **When a list ends on its own lines.** Every token of a stream that opens a list has its closing
token and, under its number, its entry. Suppose that the list has lines and that all tokens inside
it are within them. Then the list ends behind the start of its lines and not behind their end if and
only if the last content inside it ends behind that start or, when nothing inside it is content with
lines, the last content before the list ends so. A list with content that takes up lines therefore
ends on its own lines. -/
theorem lastLine_mem_lines_iff {tokens : List Token} {entries : List ListEntry}
    (h : outline tokens = .ok entries) {before rest : List Token} {opening : Token}
    (hsplit : tokens = before ++ opening :: rest) (opens : opening.opensList = true) :
    ∃ (inside : ListForest) (closing : Token) (after : List Token) (entry : ListEntry),
      rest = inside.tokens ++ closing :: after ∧ closing.closesList = true ∧
      entries[before.countP Token.opensList]? = some entry ∧ entry.opening = opening ∧
      ∀ lines, opening.range = some lines →
        (∀ token ∈ inside.tokens, ∀ range, token.range = some range → range.IsWithin lines) →
        (lines.start < entry.lastLine ∧ entry.lastLine ≤ lines.stop ↔
          match (contentRanges inside.tokens).getLast? with
          | some range => lines.start < range.stop
          | none => lines.start < lastStop before ∧ lastStop before ≤ lines.stop) ∧
        (contentRanges inside.tokens ≠ [] →
          (∀ range ∈ contentRanges inside.tokens, range.start < range.stop) →
          lines.start < entry.lastLine ∧ entry.lastLine ≤ lines.stop) := by
  obtain ⟨forest, htokens, -, rfl⟩ := exists_forest_of_outline h
  obtain ⟨inside, closing, after, outer, closes, rfl, hentry, -⟩ :=
    ListForest.exists_entry [] [] (htokens.trans hsplit) opens
  exact ⟨inside, closing, after, _, rfl, closes, hentry, rfl, fun lines _ hwithin =>
    ⟨lastStop_mem_lines_iff opens hwithin, lastStop_mem_lines opens hwithin⟩⟩

/-- A list of an item with content and, inside that item, a list of an empty one. -/
theorem lastLine_mem_lines_iff_nested :
    let opening : Token := { kind := "bullet_list_open", range := some ⟨2, 4⟩ }
    let rest : List Token := [
      { kind := "list_item_open", range := some ⟨2, 4⟩ },
      { kind := "inline", range := some ⟨2, 3⟩ },
      { kind := "bullet_list_open", range := some ⟨3, 4⟩ },
      { kind := "list_item_open", range := some ⟨3, 4⟩ }, { kind := "list_item_close" },
      { kind := "bullet_list_close" },
      { kind := "list_item_close" }, { kind := "bullet_list_close" }]
    ∃ entries entry, outline (opening :: rest) = .ok entries ∧ opening.opensList = true ∧
      entries[0]? = some entry ∧ 2 < entry.lastLine ∧ entry.lastLine ≤ 4 := by
  intro opening rest
  obtain ⟨entries, h⟩ : ∃ entries, outline (opening :: rest) = .ok entries := ⟨_, rfl⟩
  have opens : opening.opensList = true := by decide
  obtain ⟨inside, closing, after, entry, hrest, closes, hentry, -, hlines⟩ :=
    lastLine_mem_lines_iff h (show opening :: rest = [] ++ opening :: rest from rfl) opens
  have hwithin : ∀ token ∈ rest, ∀ range, token.range = some range → range.IsWithin ⟨2, 4⟩ := by
    simp [rest, LineRange.IsWithin]
  have hinside : ∀ token ∈ inside.tokens, token ∈ rest := by
    intro token htoken
    rw [hrest]
    exact List.mem_append_left _ htoken
  -- neither of the first two tokens closes a list, so the content of the item stands inside
  have hcontent : contentRanges inside.tokens ≠ [] := by
    rcases hfirst : inside.tokens with _ | ⟨first, _ | ⟨second, more⟩⟩
    all_goals rw [hfirst] at hrest
    · obtain ⟨rfl, -⟩ := List.cons.inj hrest
      exact absurd closes (by decide)
    · obtain ⟨rfl, -⟩ := List.cons.inj (List.cons.inj hrest).2
      exact absurd closes (by decide)
    · obtain ⟨rfl, -⟩ := List.cons.inj (List.cons.inj hrest).2
      exact List.ne_nil_of_mem
        (mem_contentRanges.mpr ⟨_, List.mem_cons_of_mem _ List.mem_cons_self, by decide, rfl⟩)
  have hlong : ∀ token ∈ rest, ∀ range, token.range = some range → range.start < range.stop := by
    simp [rest]
  obtain ⟨hstart, hstop⟩ :=
    (hlines _ rfl fun token htoken => hwithin token (hinside token htoken)).2 hcontent
      fun range hrange => by
        obtain ⟨token, htoken, -, hrange⟩ := mem_contentRanges.mp hrange
        exact hlong token (hinside token htoken) range hrange
  exact ⟨entries, entry, h, opens, hentry, hstart, hstop⟩

/-- A list of an empty item behind a paragraph ends where the paragraph does, in front of its own
lines. -/
theorem lastLine_not_mem_lines_empty_item :
    let opening : Token := { kind := "bullet_list_open", range := some ⟨2, 3⟩ }
    let inside : List Token :=
      [{ kind := "list_item_open", range := some ⟨2, 3⟩ }, { kind := "list_item_close" }]
    ∃ entry, outline ({ kind := "inline", range := some ⟨0, 1⟩ } ::
        opening :: (inside ++ [{ kind := "bullet_list_close" }])) = .ok [entry] ∧
      entry.opening = opening ∧
      (∀ token ∈ inside, ∀ range, token.range = some range → range.IsWithin ⟨2, 3⟩) ∧
      ¬ 2 < entry.lastLine := by
  refine ⟨_, rfl, rfl, ?_, by decide⟩
  simp [LineRange.IsWithin]

end MarkdownCheck
