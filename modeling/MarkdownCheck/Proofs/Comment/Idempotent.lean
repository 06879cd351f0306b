import MarkdownCheck.Proofs.Comment.Clear

/-!
# Clearing a text twice

What is written into an interior is never part of a delimiter, so a cleared text has its comments
where the text had them. A comment that would be blanked again is one that has been blanked, and
blanks stand for themselves.

- `Comment.ClearedBy.standsAt`: clearing makes no new delimiters.
- `Comment.ClearedBy.comments`: a cleared text has the same comments.
- `Comment.ClearedBy.isBlanked`: no other comment is blanked the second time.
- `Comment.clear_clear`: clearing a cleared text changes nothing.
-/

namespace MarkdownCheck.Comment

/-! ## Delimiters are no blanks -/

theorem not_isBlankChar_of_mem_opener {c : Char} (h : c ∈ opener) : ¬ IsBlankChar c := by
  have hc : c = '<' ∨ c = '!' ∨ c = '-' := by simpa [opener] using h
  rcases hc with rfl | rfl | rfl
  all_goals decide

theorem not_isBlankChar_of_mem_closer {c : Char} (h : c ∈ closer) : ¬ IsBlankChar c := by
  have hc : c = '-' ∨ c = '>' := by simpa [closer] using h
  rcases hc with rfl | rfl
  all_goals decide

/-! ## The comments of a cleared text -/

namespace ClearedBy

variable {text result : Text} {extents : List Extent}

/-- What is no blank has been there before. -/
theorem getElem?_of_not_isBlankChar (h : ClearedBy text extents result) {place : Nat} {c : Char}
    (hc : result[place]? = some c) (hblank : ¬ IsBlankChar c) : text[place]? = some c := by
  rcases Nat.lt_or_ge place text.length with hlt | hge
  · by_cases hinside : ∃ extent ∈ extents, extent.IsBlanked text ∧ extent.Holds text place
    · obtain ⟨extent, he, hblanked, hstart, hend⟩ := hinside
      have hmem : c ∈ blank (extent.interior text) := by
        rw [← blanks_iff.mp (h.inside extent he hblanked), List.mem_iff_getElem?]
        refine ⟨place - (extent.start + opener.length), ?_⟩
        rw [Text.getElem?_between, Nat.add_sub_of_le hstart, if_pos hend, hc]
      exact absurd (isBlankChar_of_mem_blank hmem) hblank
    · rw [← h.outside place hlt fun extent he hblanked hholds =>
        hinside ⟨extent, he, hblanked, hholds⟩, hc]
  · by_cases hmark : ∃ extent ∈ extents, extent.stop = none ∧ extent.IsBlanked text
    · have hmem : c ∈ [escapeMark] := by
        rw [← h.marked hmark, List.mem_iff_getElem?]
        exact ⟨place - text.length, by rw [List.getElem?_drop, Nat.add_sub_of_le hge, hc]⟩
      exact absurd (.inr (.inl (List.mem_singleton.mp hmem))) hblank
    · rw [List.getElem?_eq_none (h.unmarked hmark ▸ hge)] at hc
      cases hc

/-- Clearing makes no new delimiters. -/
theorem standsAt (h : ClearedBy text extents result) {word : Text}
    (hword : ∀ c ∈ word, ¬ IsBlankChar c) {place : Nat}
    (hplace : Text.StandsAt word result place) : Text.StandsAt word text place := by
  rw [Text.standsAt_iff] at hplace ⊢
  intro k c hk
  exact h.getElem?_of_not_isBlankChar (hplace k c hk) (hword c (List.mem_of_getElem? hk))

/-- Of a comment, clearing changes the interior if it is blanked, and nothing else. -/
theorem getElem?_of_covers (h : ClearedBy text extents result)
    (hcomments : Comments text 0 extents) {extent : Extent} (he : extent ∈ extents) {place : Nat}
    (hcovers : extent.Covers place) (hlt : place < text.length)
    (hplace : extent.IsBlanked text → ¬ extent.Holds text place) :
    result[place]? = text[place]? := by
  refine h.outside place hlt fun other ho hblanked hholds => ?_
  obtain rfl := hcomments.eq_of_covers_of_holds he ho hcovers hholds
  exact hplace hblanked hholds

/-- Clearing keeps the delimiters. -/
theorem standsAt_of_covers (h : ClearedBy text extents result)
    (hcomments : Comments text 0 extents) {extent : Extent} (he : extent ∈ extents)
    {word : Text} {place : Nat} (hword : Text.StandsAt word text place)
    (hplace : ∀ k < word.length, extent.Covers (place + k) ∧ ¬ extent.Holds text (place + k)) :
    Text.StandsAt word result place := by
  rw [Text.standsAt_iff] at hword ⊢
  intro k c hk
  obtain ⟨hcovers, hnot⟩ := hplace k (List.getElem?_eq_some_iff.mp hk).1
  have hc := hword k c hk
  rw [h.getElem?_of_covers hcomments he hcovers (List.getElem?_eq_some_iff.mp hc).1 fun _ => hnot,
    hc]

/-- Clearing keeps a delimiter the first of its kind. -/
theorem isFirst (h : ClearedBy text extents result) {word : Text}
    (hword : ∀ c ∈ word, ¬ IsBlankChar c) {start place : Nat}
    (hfirst : Text.IsFirst word text start place) (hplace : Text.StandsAt word result place) :
    Text.IsFirst word result start place where
  start_le := hfirst.start_le
  stands := hplace
  not_before earlier hstart hlt hstands :=
    hfirst.not_before earlier hstart hlt (h.standsAt hword hstands)

theorem standsAt_opener (h : ClearedBy text extents result) (hcomments : Comments text 0 extents)
    {extent : Extent} (he : extent ∈ extents)
    (hopen : Text.StandsAt opener text extent.start) :
    Text.StandsAt opener result extent.start := by
  refine h.standsAt_of_covers hcomments he hopen fun k hk => ⟨⟨by omega, .inl (by omega)⟩, ?_⟩
  rintro ⟨hstart, -⟩
  omega

theorem standsAt_closer (h : ClearedBy text extents result) (hcomments : Comments text 0 extents)
    {start stop : Nat} (he : ⟨start, some stop⟩ ∈ extents) (hle : start ≤ stop)
    (hclose : Text.StandsAt closer text stop) : Text.StandsAt closer result stop := by
  refine h.standsAt_of_covers hcomments he hclose fun k hk => ⟨⟨?_, .inr ?_⟩, ?_⟩
  · exact Nat.le_trans hle (Nat.le_add_right _ _)
  · rintro _ ⟨⟩
    exact Nat.add_lt_add_left hk stop
  · rintro ⟨-, hend⟩
    exact absurd hend (Nat.not_lt_of_le (Nat.le_add_right stop k))

/-- A cleared text has its comments where the text has them. The induction is on the reading from
any place on: it keeps its delimiters, and nothing in front of them has become one. -/
theorem comments_of_subset (h : ClearedBy text extents result)
    (hcomments : Comments text 0 extents) {cursor : Nat} {part : List Extent}
    (hpart : Comments text cursor part) (hsub : ∀ extent ∈ part, extent ∈ extents) :
    Comments result cursor part := by
  have hopener : ∀ c ∈ opener, ¬ IsBlankChar c := fun _ => not_isBlankChar_of_mem_opener
  have hcloser : ∀ c ∈ closer, ¬ IsBlankChar c := fun _ => not_isBlankChar_of_mem_closer
  induction hpart with
  | finished hopen =>
    exact .finished fun place hcursor hstands => hopen place hcursor (h.standsAt hopener hstands)
  | unclosed hopen hclose =>
    have hopen' := h.standsAt_opener hcomments (hsub _ List.mem_cons_self) hopen.stands
    refine .unclosed (h.isFirst hopener hopen hopen') fun place hstart hstands => ?_
    exact hclose place hstart (h.standsAt hcloser hstands)
  | closed hopen hclose _ ih =>
    have he := hsub _ List.mem_cons_self
    have hopen' := h.standsAt_opener hcomments he hopen.stands
    have hclose' := h.standsAt_closer hcomments he hclose.start_le hclose.stands
    refine .closed (h.isFirst hopener hopen hopen') (h.isFirst hcloser hclose hclose') ?_
    exact ih fun extent hrest => hsub extent (List.mem_cons_of_mem _ hrest)

theorem comments (h : ClearedBy text extents result) (hcomments : Comments text 0 extents) :
    Comments result 0 extents :=
  h.comments_of_subset hcomments hcomments fun _ he => he

/-- A comment that is blanked the second time has been blanked the first time, and is closed. -/
theorem isBlanked (h : ClearedBy text extents result) (hcomments : Comments text 0 extents)
    {extent : Extent} (he : extent ∈ extents) (hblanked : extent.IsBlanked result) :
    extent.IsBlanked text ∧ extent.stop ≠ none := by
  obtain ⟨start, _ | stop⟩ := extent
  · rw [Extent.isBlanked_unclosed] at hblanked
    by_cases hfirst : (⟨start, none⟩ : Extent).IsBlanked text
    · -- what has been written to the end of the text is blanked already
      have hinside : start + opener.length ≤ text.length := by
        refine Nat.le_of_not_lt fun hlt => (Extent.isBlanked_unclosed.mp hfirst).1.ne_nil ?_
        exact List.drop_eq_nil_of_le (Nat.le_of_lt hlt)
      have hdrop : result.drop (start + opener.length) =
          blank ((⟨start, none⟩ : Extent).interior text) ++ [escapeMark] := by
        rw [← blanks_iff.mp (h.inside _ he hfirst), ← h.marked ⟨_, he, rfl, hfirst⟩]
        exact (Text.between_append_drop hinside result).symm
      rw [hdrop] at hblanked
      exact absurd (alreadyBlanked_blank _) hblanked.2
    · -- what has been kept to the end of the text meets the same test
      have hunmarked : result.length = text.length := by
        refine h.unmarked ?_
        rintro ⟨other, ho, hnone, hother⟩
        rw [← hcomments.eq_of_stop_eq_none he ho rfl hnone] at hother
        exact hfirst hother
      have hsame : result.drop (start + opener.length) = text.drop (start + opener.length) := by
        rw [← Text.between_length, ← Text.between_length, hunmarked]
        refine Text.between_congr fun place hstart hlt => ?_
        exact h.getElem?_of_covers hcomments he ⟨Nat.le_of_add_right_le hstart, .inr nofun⟩ hlt
          fun hblank => absurd hblank hfirst
      rw [hsame] at hblanked
      exact absurd (Extent.isBlanked_unclosed.mpr hblanked) hfirst
  · by_cases hfirst : (⟨start, some stop⟩ : Extent).IsBlanked text
    · exact ⟨hfirst, nofun⟩
    · -- what has been kept between delimiters meets the same test
      have hsame : ∀ place, start ≤ place → place < stop + closer.length →
          result[place]? = text[place]? := by
        intro place hstart hlt
        refine h.getElem?_of_covers hcomments he ⟨hstart, .inr ?_⟩
          (Nat.lt_of_lt_of_le hlt (hcomments.stop_le he rfl)) fun hblank => absurd hblank hfirst
        rintro _ ⟨⟩
        exact hlt
      have hinterior : Text.between (start + opener.length) stop result =
          Text.between (start + opener.length) stop text :=
        Text.between_congr fun place hstart hlt =>
          hsame place (Nat.le_of_add_right_le hstart) (Nat.lt_add_right _ hlt)
      rw [Extent.isBlanked_closed, hinterior, Text.between_congr hsame,
        ← Extent.isBlanked_closed] at hblanked
      exact absurd hblanked hfirst

/-- Where all that is blanked stands for itself and no comment runs to the end, nothing changes. -/
theorem eq_self (h : ClearedBy text extents result)
    (hself : ∀ extent ∈ extents, extent.IsBlanked text →
      extent.stop ≠ none ∧ Blanks (extent.interior text) (extent.interior text)) :
    result = text := by
  have hlen : result.length = text.length := by
    refine h.unmarked ?_
    rintro ⟨extent, he, hnone, hblanked⟩
    exact (hself extent he hblanked).1 hnone
  refine List.ext_getElem? fun place => ?_
  rcases Nat.lt_or_ge place text.length with hlt | hge
  · by_cases hinside : ∃ extent ∈ extents, extent.IsBlanked text ∧ extent.Holds text place
    · obtain ⟨extent, he, hblanked, hstart, hend⟩ := hinside
      have hinterior :
          Text.between (extent.start + opener.length) (extent.interiorEnd text) result =
            Text.between (extent.start + opener.length) (extent.interiorEnd text) text :=
        (h.inside extent he hblanked).unique (hself extent he hblanked).2
      have hplace := congrArg (·[place - (extent.start + opener.length)]?) hinterior
      simp only [Text.getElem?_between, Nat.add_sub_of_le hstart, if_pos hend] at hplace
      exact hplace
    · exact h.outside place hlt fun extent he hblanked hholds =>
        hinside ⟨extent, he, hblanked, hholds⟩
  · rw [List.getElem?_eq_none hge, List.getElem?_eq_none (hlen ▸ hge)]

end ClearedBy

/-- Clearing a cleared text changes nothing. -/
theorem clear_clear (text : Text) : clear (clear text) = clear text := by
  obtain ⟨extents, hcomments, hcleared⟩ := exists_comments_clearedBy 0 text
  obtain ⟨others, hothers, hagain⟩ := exists_comments_clearedBy 0 (clear text)
  obtain rfl := (hcleared.comments hcomments).unique hothers
  refine hagain.eq_self fun extent he hblanked => ?_
  obtain ⟨hfirst, hclosed⟩ := hcleared.isBlanked hcomments he hblanked
  refine ⟨hclosed, ?_⟩
  obtain ⟨start, _ | stop⟩ := extent
  · exact absurd rfl hclosed
  · have hinterior : (⟨start, some stop⟩ : Extent).interior (clear text) =
        blank ((⟨start, some stop⟩ : Extent).interior text) :=
      blanks_iff.mp (hcleared.inside _ he hfirst)
    rw [hinterior, blanks_iff, blank_blank]

end MarkdownCheck.Comment
