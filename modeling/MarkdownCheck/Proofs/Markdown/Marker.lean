import MarkdownCheck.Proofs.Document.LineTable
import MarkdownCheck.Proofs.Markdown.Column

/-!
# Markers of lists on their source lines

- `Markdown.ListMarker.at?_eq_some`: what a marker looks like.
- `Markdown.Line.indent_lt_enterItem`: how deep the content of an item is indented.
- `Token.blanks`, `Token.atIndent`: the source line of a token, cut where it is indented to.
- `Token.marker_of_stands`: a marker stands there.
-/

namespace MarkdownCheck

namespace Markdown

/-! ## Markers of lists -/

namespace ListMarker

variable {text : Text} {marker : ListMarker}

theorem isBlank_of_isDigit {c : Char} (h : c.isDigit = true) :
    Text.isBlank c = false ∧ c ≠ '>' := by
  simp only [Char.isDigit, Bool.and_eq_true, decide_eq_true_eq, ge_iff_le,
    UInt32.le_iff_toNat_le] at h
  have hlow : 48 ≤ c.toNat := h.1
  have hhigh : c.toNat ≤ 57 := h.2
  refine ⟨?_, ?_⟩
  · simp only [Text.isBlank, Bool.or_eq_false_iff, Bool.and_eq_false_iff, decide_eq_false_iff_not]
    omega
  · rintro rfl
    revert hhigh
    decide

/-- A bullet is one of three signs with a blank or nothing behind it. -/
theorem bullet?_eq_some (h : bullet? text = some marker) :
    marker.number = none ∧ (marker.sign = '*' ∨ marker.sign = '-' ∨ marker.sign = '+') ∧
      ∃ rest, text = marker.sign :: rest ∧ rest.head?.all isSpace = true := by
  cases text with
  | nil => cases h
  | cons sign rest =>
    rw [bullet?] at h
    split at h
    · next hguard =>
      obtain rfl := Option.some.inj h
      simp only [Bool.and_eq_true, Bool.or_eq_true, decide_eq_true_eq] at hguard
      exact ⟨rfl, or_assoc.mp hguard.1, rest, rfl, hguard.2⟩
    · cases h

/-- A marker is a run of digits, empty for bullets, and a sign with a blank or nothing behind it. -/
theorem at?_eq_some (h : at? text = some marker) :
    ∃ rest, text = marker.number.getD [] ++ marker.sign :: rest ∧
      (∀ c ∈ marker.number.getD [], c.isDigit = true) ∧
      (Text.isBlank marker.sign = false ∧ marker.sign ≠ '>') ∧ rest.head?.all isSpace = true := by
  rw [at?, Option.or_eq_some_iff] at h
  rcases h with h | ⟨-, h⟩
  · have htext := List.takeWhile_append_dropWhile (p := Char.isDigit) (l := text)
    unfold ordered? at h
    dsimp only at h
    split at h
    · next sign rest hdrop =>
      split at h
      · next hguard =>
        obtain rfl := Option.some.inj h
        simp only [Bool.and_eq_true, Bool.or_eq_true, decide_eq_true_eq] at hguard
        rw [hdrop] at htext
        refine ⟨rest, htext.symm, fun c hc => List.all_eq_true.mp List.all_takeWhile c hc, ?_,
          hguard.2⟩
        rcases hguard.1.2 with rfl | rfl <;> exact ⟨rfl, nofun⟩
      · cases h
    · cases h
  · obtain ⟨hnumber, hsign, rest, rfl, hbehind⟩ := bullet?_eq_some h
    refine ⟨rest, by simp [hnumber], by simp [hnumber], ?_, hbehind⟩
    rcases hsign with hsign | hsign | hsign <;> rw [hsign] <;> exact ⟨rfl, nofun⟩

/-- A marker starts with something else than blanks and quote markers. -/
theorem exists_cons_of_at? (h : at? text = some marker) :
    ∃ c rest, text = c :: rest ∧ Text.isBlank c = false ∧ c ≠ '>' := by
  obtain ⟨rest, htext, hdigits, hsign, -⟩ := at?_eq_some h
  cases hnumber : marker.number.getD [] with
  | nil =>
    rw [hnumber] at htext
    exact ⟨_, _, htext, hsign⟩
  | cons c more =>
    rw [hnumber] at htext hdigits
    exact ⟨_, _, htext, isBlank_of_isDigit (hdigits c List.mem_cons_self)⟩

/-- A marker ends the line or has a blank behind it. -/
theorem head?_drop_width (h : at? text = some marker) :
    (text.drop marker.width).head?.all isSpace = true := by
  obtain ⟨rest, htext, -, -, hbehind⟩ := at?_eq_some h
  have hwidth : marker.width = (marker.number.getD [] ++ [marker.sign]).length := by
    rw [width, List.length_append, List.length_singleton]
    cases marker.number <;> rfl
  have hwhole : text = (marker.number.getD [] ++ [marker.sign]) ++ rest := by simpa using htext
  rw [hwidth, hwhole, List.drop_left]
  exact hbehind

end ListMarker

/-- The content of an item is indented by two columns more than its marker, at least. -/
theorem Line.indent_lt_enterItem (line : Line) {marker : ListMarker}
    (h : ListMarker.at? line.content = some marker) :
    line.indent.toNat + 1 < (line.enterItem marker).2 := by
  have hhead := ListMarker.head?_drop_width h
  obtain ⟨hcount, hle, -⟩ := measure_spec line.column (line.indent.toNat + marker.width)
    (line.content.drop marker.width)
  have hwidth : 1 ≤ marker.width := Nat.le_add_left ..
  unfold Line.enterItem
  dsimp only
  split
  · omega
  · next hpadding =>
    -- there is content behind the marker, so there is a blank between the two
    have hcount' : 1 ≤ ((line.content.drop marker.width).takeWhile isSpace).length := by
      cases hafter : line.content.drop marker.width with
      | nil => simp [hafter] at hpadding
      | cons c rest =>
        rw [hafter] at hhead
        rw [List.takeWhile_cons_of_pos (by simpa using hhead), List.length_cons]
        exact Nat.le_add_left ..
    omega

/-! ## Null characters -/

theorem replaceNull_eq_iff {c d : Char} (hd : d ≠ '\x00') (hshown : d ≠ '\ufffd') :
    replaceNull c = d ↔ c = d := by
  rw [replaceNull]
  split
  · next hc =>
    subst hc
    exact iff_of_false (fun h => hshown h.symm) (fun h => hd h.symm)
  · exact Iff.rfl

@[simp] theorem isSpace_replaceNull (c : Char) : isSpace (replaceNull c) = isSpace c := by
  simp [isSpace, replaceNull_eq_iff]

@[simp] theorem isDigit_replaceNull (c : Char) : (replaceNull c).isDigit = c.isDigit := by
  rw [replaceNull]
  split
  · next hc =>
    subst hc
    decide
  · rfl

theorem replaceNull_of_isDigit {c : Char} (h : c.isDigit = true) : replaceNull c = c := by
  refine if_neg ?_
  rintro rfl
  cases h

theorem replaceNull_of_isLead {c : Char} (h : isLead (replaceNull c) = true) :
    replaceNull c = c := by
  rw [replaceNull] at *
  split
  · next hc =>
    subst hc
    cases h
  · rfl

theorem head?_map_replaceNull (text : Text) :
    (text.map replaceNull).head?.all isSpace = text.head?.all isSpace := by
  cases text with
  | nil => rfl
  | cons c rest => exact isSpace_replaceNull c

namespace ListMarker

theorem bullet?_map_replaceNull (text : Text) : bullet? (text.map replaceNull) = bullet? text := by
  cases text with
  | nil => rfl
  | cons c rest =>
    rw [List.map_cons, bullet?, bullet?, head?_map_replaceNull]
    simp only [replaceNull_eq_iff (d := '*') nofun nofun, replaceNull_eq_iff (d := '-') nofun nofun,
      replaceNull_eq_iff (d := '+') nofun nofun]
    split
    · next hguard =>
      simp only [Bool.and_eq_true, Bool.or_eq_true, decide_eq_true_eq] at hguard
      rcases hguard.1 with (rfl | rfl) | rfl <;> rfl
    · rfl

theorem ordered?_map_replaceNull (text : Text) :
    ordered? (text.map replaceNull) = ordered? text := by
  have hdigit : Char.isDigit ∘ replaceNull = Char.isDigit := funext isDigit_replaceNull
  have hnumber : (text.map replaceNull).takeWhile Char.isDigit = text.takeWhile Char.isDigit := by
    rw [List.takeWhile_map, hdigit]
    refine (List.map_congr_left fun c hc => ?_).trans (List.map_id _)
    exact replaceNull_of_isDigit (List.all_eq_true.mp List.all_takeWhile c hc)
  have hbehind : (text.map replaceNull).dropWhile Char.isDigit =
      (text.dropWhile Char.isDigit).map replaceNull := by
    rw [List.dropWhile_map, hdigit]
  rw [ordered?, ordered?, hnumber, hbehind]
  cases text.dropWhile Char.isDigit with
  | nil => rfl
  | cons c rest =>
    simp only [List.map_cons, head?_map_replaceNull, replaceNull_eq_iff (d := '.') nofun nofun,
      replaceNull_eq_iff (d := ')') nofun nofun]
    split
    · next hguard =>
      simp only [Bool.and_eq_true, Bool.or_eq_true, decide_eq_true_eq] at hguard
      rcases hguard.1.2 with rfl | rfl <;> rfl
    · rfl

/-- A marker is read as it stands in the source. -/
theorem at?_map_replaceNull (text : Text) : at? (text.map replaceNull) = at? text := by
  rw [at?, at?, ordered?_map_replaceNull, bullet?_map_replaceNull]

end ListMarker

/-- Blanks and quote markers are read as they stand in the source. -/
theorem exists_append_of_map_replaceNull {text lead content : Text}
    (h : text.map replaceNull = lead ++ content) (hlead : ∀ c ∈ lead, isLead c = true) :
    ∃ rest, text = lead ++ rest ∧ rest.map replaceNull = content := by
  obtain ⟨front, rest, rfl, rfl, rfl⟩ := List.map_eq_append_iff.mp h
  have hfront : front.map replaceNull = front :=
    (List.map_congr_left fun c hc =>
      replaceNull_of_isLead (hlead _ (List.mem_map_of_mem hc))).trans (List.map_id _)
  exact ⟨rest, by rw [hfront], rfl⟩

end Markdown

/-! ## Source lines of tokens -/

namespace Token

/-- What indents a token's line: the blanks behind the quote markers. -/
def blanks (token : Token) : Text :=
  (Quote.strip token.line).take token.indent

/-- The line behind what indents it. -/
def atIndent (token : Token) : Text :=
  (Quote.strip token.line).drop token.indent

open Markdown.ListMarker in
/-- A marker on a line inside containers stands on the source line where that is indented to. -/
theorem marker_of_stands {token : Token} {line : Markdown.Line} {marker : Markdown.ListMarker}
    (h : Markdown.Stands (token.line.map Markdown.replaceNull) line) (hindent : 0 ≤ line.indent)
    (hmarker : at? line.content = some marker) :
    at? token.atIndent = some marker ∧ (∀ c ∈ token.blanks, Markdown.isSpace c = true) ∧
      (token.indent : Int) ≤ line.indent + 1 ∧
      ('\t' ∉ token.blanks → (token.indent : Int) = line.indent) := by
  obtain ⟨lead, hsource, hlead, hle, heq⟩ := h hindent
  obtain ⟨rest, hline, hcontent⟩ := Markdown.exists_append_of_map_replaceNull hsource hlead
  have hrest : at? rest = some marker := by
    rw [← hmarker, ← hcontent, at?_map_replaceNull]
  obtain ⟨c, more, rfl, hblank, hmark⟩ := exists_cons_of_at? hrest
  have hstrip := Quote.strip_append more (fun c hc => Markdown.isQuoting_of_isLead (hlead c hc))
    (Quote.isQuoting_eq_false hblank hmark)
  have htoken : token.indent = (Quote.strip lead).length := by
    rw [Token.indent, hline, Markdown.indent_strip_append more hlead hblank hmark]
  have hblanks : token.blanks = Quote.strip lead := by
    rw [blanks, htoken, hline, hstrip, List.take_left]
  have hbehind : token.atIndent = c :: more := by
    rw [atIndent, htoken, hline, hstrip, List.drop_left]
  rw [hbehind, hblanks, htoken]
  exact ⟨hrest, Quote.isSpace_of_mem_strip hlead, hle, heq⟩

end Token

end MarkdownCheck
