import MarkdownCheck.Proofs.Comment.Clear
import MarkdownCheck.Proofs.Text.Lines

/-!
# The lines of a cleared text

Blanks keep line feeds and carriage returns, but other characters end lines too. Where one of these
is blanked, lines run together.

- `Comment.KeepsLineLengths`: clearing a text keeps its lines and their lengths.
- `Comment.ClearedBy.eq_of_isTerminator`: a terminator in a cleared text has been there before.
- `Comment.keepsLineLengths_iff`: which texts keep their lines.
- `Comment.not_keepsLineLengths_lineSeparator`: a text that does not.
-/

namespace MarkdownCheck.Comment

/-- A cleared text has as many lines as before, and they are as long as before. Only the last one
is longer by the mark, if that has been written behind the text. -/
def KeepsLineLengths (text : Text) : Prop :=
  (clear text).lines.map List.length =
    (text.lines.map List.length).modifyLast (· + ((clear text).length - text.length))

instance : DecidablePred KeepsLineLengths :=
  fun text => inferInstanceAs (Decidable ((clear text).lines.map List.length =
    (text.lines.map List.length).modifyLast (· + ((clear text).length - text.length))))

/-! ## Characters in step -/

namespace ClearedBy

variable {text result : Text} {extents : List Extent}

theorem length_le (h : ClearedBy text extents result) : text.length ≤ result.length := by
  by_cases hmark : ∃ extent ∈ extents, extent.stop = none ∧ extent.IsBlanked text
  · have hdrop := congrArg List.length (h.marked hmark)
    rw [List.length_drop, List.length_singleton] at hdrop
    omega
  · exact Nat.le_of_eq (h.unmarked hmark).symm

/-- What is written behind the text ends no line. -/
theorem not_isTerminator_of_mem_drop (h : ClearedBy text extents result) {c : Char}
    (hc : c ∈ result.drop text.length) : ¬ Text.isTerminator c := by
  by_cases hmark : ∃ extent ∈ extents, extent.stop = none ∧ extent.IsBlanked text
  · rw [h.marked hmark] at hc
    rw [List.mem_singleton.mp hc]
    decide
  · rw [List.drop_eq_nil_of_le (Nat.le_of_eq (h.unmarked hmark))] at hc
    cases hc

/-- In an interior that is blanked, line feeds and carriage returns stay and nothing else ends a
line. -/
theorem getElem?_of_holds (h : ClearedBy text extents result) {extent : Extent}
    (he : extent ∈ extents) (hblanked : extent.IsBlanked text) {place : Nat}
    (hholds : extent.Holds text place) {c d : Char} (hc : text[place]? = some c)
    (hd : result[place]? = some d) : if Text.isLineEnd c then d = c else ¬ Text.isTerminator d := by
  have hshown : (blank (extent.interior text))[place - (extent.start + opener.length)]? =
      some d := by
    rw [← blanks_iff.mp (h.inside extent he hblanked),
      Text.getElem?_between_sub hholds.1 hholds.2, hd]
  rw [getElem?_blank, Extent.getElem?_interior hholds, hc, Option.map_some, Option.some.injEq]
    at hshown
  rw [← hshown]
  split
  · rfl
  · split <;> decide

theorem eq_or_holds (h : ClearedBy text extents result) {place : Nat} {c d : Char}
    (hc : text[place]? = some c) (hd : result[place]? = some d) :
    c = d ∨ ∃ extent ∈ extents, extent.IsBlanked text ∧ extent.Holds text place := by
  by_cases hinside : ∃ extent ∈ extents, extent.IsBlanked text ∧ extent.Holds text place
  · exact .inr hinside
  · have hlt : place < text.length := (List.getElem?_eq_some_iff.mp hc).1
    have hsame := h.outside place hlt fun extent he hblanked hholds =>
      hinside ⟨extent, he, hblanked, hholds⟩
    rw [hc, hd] at hsame
    exact .inl (Option.some.inj hsame).symm

/-- A terminator in a cleared text has been there before. -/
theorem eq_of_isTerminator (h : ClearedBy text extents result) {place : Nat} {c d : Char}
    (hc : text[place]? = some c) (hd : result[place]? = some d) (hterm : Text.isTerminator d) :
    c = d := by
  rcases h.eq_or_holds hc hd with heq | ⟨extent, he, hblanked, hholds⟩
  · exact heq
  · have hshown := h.getElem?_of_holds he hblanked hholds hc hd
    split at hshown
    · exact hshown.symm
    · exact absurd hterm hshown

theorem mem_of_isTerminator (h : ClearedBy text extents result) {c : Char} (hc : c ∈ result)
    (hterm : Text.isTerminator c) : c ∈ text := by
  obtain ⟨place, hplace⟩ := List.mem_iff_getElem?.mp hc
  rcases Nat.lt_or_ge place text.length with hlt | hge
  · have htext := List.getElem?_eq_getElem hlt
    exact h.eq_of_isTerminator htext hplace hterm ▸ List.getElem_mem hlt
  · have hdrop : (result.drop text.length)[place - text.length]? = some c := by
      rw [List.getElem?_drop, Nat.add_sub_of_le hge, hplace]
    exact absurd hterm (h.not_isTerminator_of_mem_drop (List.mem_of_getElem? hdrop))

/-- All terminators are still there if and only if none but line feeds and carriage returns have
been blanked. -/
theorem keeps_terminators_iff (h : ClearedBy text extents result) :
    (∀ pair ∈ text.zip result, Text.isTerminator pair.1 → pair.1 = pair.2) ↔
      ∀ extent ∈ extents, extent.IsBlanked text →
        ∀ c ∈ extent.interior text, Text.isTerminator c → Text.isLineEnd c := by
  constructor
  · intro hkeep extent he hblanked c hmem hterm
    obtain ⟨place, hholds, hc⟩ := Extent.mem_interior_iff.mp hmem
    have hlt : place < result.length :=
      Nat.lt_of_lt_of_le (List.getElem?_eq_some_iff.mp hc).1 h.length_le
    have hd := List.getElem?_eq_getElem hlt
    have hsame : c = result[place] :=
      hkeep (c, _) (List.mem_of_getElem? (List.getElem?_zip_eq_some.mpr ⟨hc, hd⟩)) hterm
    have hshown := h.getElem?_of_holds he hblanked hholds hc hd
    split at hshown
    · next hend => exact hend
    · exact absurd (hsame ▸ hterm) hshown
  · rintro hends ⟨c, d⟩ hpair hterm
    obtain ⟨place, hplace⟩ := List.mem_iff_getElem?.mp hpair
    obtain ⟨hc, hd⟩ := List.getElem?_zip_eq_some.mp hplace
    rcases h.eq_or_holds hc hd with heq | ⟨extent, he, hblanked, hholds⟩
    · exact heq
    · have hmem : c ∈ extent.interior text := Extent.mem_interior_iff.mpr ⟨place, hholds, hc⟩
      have hshown := h.getElem?_of_holds he hblanked hholds hc hd
      rw [if_pos (hends extent he hblanked c hmem hterm)] at hshown
      exact hshown.symm

end ClearedBy

/-! ## Which texts keep their lines -/

/-- **Clearing keeps lines exactly where it blanks no terminator.** A cleared text has its lines as
long as they were if and only if no blanked comment holds a terminator other than a line feed and a
carriage return. -/
theorem keepsLineLengths_iff (text : Text) :
    KeepsLineLengths text ↔
      ∀ extents, Comments text 0 extents → ∀ extent ∈ extents, extent.IsBlanked text →
        ∀ c ∈ extent.interior text, Text.isTerminator c → Text.isLineEnd c := by
  obtain ⟨extents, hcomments, hcleared⟩ := exists_comments_clearedBy 0 text
  rw [← clear] at hcleared
  have hsecond : ∀ pair ∈ text.zip (clear text), Text.isTerminator pair.2 → pair.1 = pair.2 := by
    rintro pair hpair
    obtain ⟨place, hplace⟩ := List.mem_iff_getElem?.mp hpair
    obtain ⟨hc, hd⟩ := List.getElem?_zip_eq_some.mp hplace
    exact hcleared.eq_of_isTerminator hc hd
  -- the lines of the whole cleared text are those of the part in step, the last one longer
  have hlines : (clear text).lines.map List.length =
      ((Text.lines ((text.zip (clear text)).map Prod.snd)).map List.length).modifyLast
        (· + ((clear text).length - text.length)) := by
    rw [Text.map_snd_zip_of_le hcleared.length_le, ← List.length_drop,
      ← Text.map_length_lines_append fun _ => hcleared.not_isTerminator_of_mem_drop,
      List.take_append_drop]
  have hfirst : (text.zip (clear text)).map Prod.fst = text :=
    List.map_fst_zip hcleared.length_le
  have hall : (∀ others, Comments text 0 others → ∀ extent ∈ others, extent.IsBlanked text →
      ∀ c ∈ extent.interior text, Text.isTerminator c → Text.isLineEnd c) ↔
        ∀ extent ∈ extents, extent.IsBlanked text →
          ∀ c ∈ extent.interior text, Text.isTerminator c → Text.isLineEnd c := by
    constructor
    · intro h
      exact h extents hcomments
    · intro h others hothers
      rw [hcomments.unique hothers]
      exact h
  rw [hall, ← hcleared.keeps_terminators_iff, ← Text.map_length_lines_eq_iff hsecond, hfirst,
    KeepsLineLengths, hlines, (Text.modifyLast_injective fun _ _ => Nat.add_right_cancel).eq_iff]

/-- A line separator in a comment is blanked, and the two lines around it become one. -/
theorem not_keepsLineLengths_lineSeparator : ¬ KeepsLineLengths "<!-- x\u2028y -->".toList := by
  decide +kernel

end MarkdownCheck.Comment
