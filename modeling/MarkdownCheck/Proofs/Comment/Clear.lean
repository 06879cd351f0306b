import MarkdownCheck.Proofs.Comment.Extent

/-!
# What clearing a text changes

The search for comments goes on in a text that has been overwritten, but only in front of it. So the
comments are those of the text as it was:

- `Comment.ClearedBy`: the blanked interiors of given comments, and nothing else, are overwritten.
- `Comment.ClearedBy.closed`: one comment, then those behind it.
- `Comment.comments_unique_and_clearedBy_clear`: clearing a text does that to all its comments.
-/

namespace MarkdownCheck.Comment

/-! ## One comment -/

section

variable {text : Text} {start stop : Nat}

theorem getElem?_blankBetween_left (h : start ≤ text.length) {i : Nat} (hi : i < start) :
    (blankBetween start stop text)[i]? = text[i]? := by
  rw [blankBetween, List.getElem?_append_left (by rwa [List.length_take_of_le h]),
    List.getElem?_take_of_lt hi]

theorem drop_blankBetween (h : start ≤ stop) (h' : stop ≤ text.length) :
    (blankBetween start stop text).drop stop = text.drop stop := by
  have hlen : (text.take start ++ blank (Text.between start stop text)).length = stop := by
    rw [List.length_append, length_blank, Text.length_between h',
      List.length_take_of_le (Nat.le_trans h h'), Nat.add_sub_of_le h]
  rw [blankBetween, ← List.append_assoc, List.drop_left' hlen]

theorem getElem?_blankBetween_right (h : start ≤ stop) (h' : stop ≤ text.length) {i : Nat}
    (hi : stop ≤ i) : (blankBetween start stop text)[i]? = text[i]? := by
  rw [← Nat.add_sub_of_le hi, ← List.getElem?_drop, drop_blankBetween h h', List.getElem?_drop]

theorem between_blankBetween (h : start ≤ stop) (h' : stop ≤ text.length) :
    Text.between start stop (blankBetween start stop text) =
      blank (Text.between start stop text) := by
  have hblank : (blank (Text.between start stop text)).length = stop - start := by
    rw [length_blank, Text.length_between h']
  have htake : (text.take start).length = start := List.length_take_of_le (Nat.le_trans h h')
  rw [Text.between_eq_take_drop, blankBetween, List.drop_left' htake, List.take_left' hblank]

/-- The text of a comment. -/
theorem between_start_stop (hopen : Text.StandsAt opener text start)
    (hclose : Text.StandsAt closer text stop) (h : start + opener.length ≤ stop) :
    Text.between start (stop + closer.length) text =
      opener ++ (Text.between (start + opener.length) stop text ++ closer) := by
  have hstop : stop ≤ stop + closer.length := Nat.le_add_right _ _
  calc Text.between start (stop + closer.length) text
      = Text.between start (start + opener.length) text ++
          Text.between (start + opener.length) (stop + closer.length) text :=
        (Text.between_append (Nat.le_add_right _ _) (Nat.le_trans h hstop) text).symm
    _ = opener ++ (Text.between (start + opener.length) stop text ++ closer) := by
        rw [hopen.between, ← Text.between_append h hstop, hclose.between]

/-- The test of a closed comment is right. -/
theorem isBlankable_and_not_isDirective_iff (hopen : Text.StandsAt opener text start)
    (hclose : Text.StandsAt closer text stop) :
    (isBlankable (Text.between (start + opener.length) stop text) &&
      !isDirective (Text.between start (stop + closer.length) text)) = true ↔
      (⟨start, some stop⟩ : Extent).IsBlanked text := by
  rw [Bool.and_eq_true, isBlankable_iff, Bool.not_eq_true', ← Bool.not_eq_true,
    Extent.isBlanked_closed]
  refine and_congr_right fun hwell => not_congr ?_
  have hlt : start + opener.length < stop := Extent.lt_of_interior_ne_nil hwell.ne_nil
  rw [between_start_stop hopen hclose (Nat.le_of_lt hlt), hwell.isDirective_iff]

theorem clearClosed_of_isBlanked (hopen : Text.StandsAt opener text start)
    (hclose : Text.StandsAt closer text stop)
    (h : (⟨start, some stop⟩ : Extent).IsBlanked text) :
    clearClosed start stop text = blankBetween (start + opener.length) stop text :=
  if_pos ((isBlankable_and_not_isDirective_iff hopen hclose).mpr h)

theorem clearClosed_of_not_isBlanked (hopen : Text.StandsAt opener text start)
    (hclose : Text.StandsAt closer text stop)
    (h : ¬ (⟨start, some stop⟩ : Extent).IsBlanked text) :
    clearClosed start stop text = text :=
  if_neg (mt (isBlankable_and_not_isDirective_iff hopen hclose).mp h)

/-- A closed comment is cleared in front of its closer. -/
theorem agreeFrom_clearClosed (hopen : Text.StandsAt opener text start)
    (hclose : Text.StandsAt closer text stop) :
    Text.AgreeFrom stop text (clearClosed start stop text) where
  length_eq := length_clearClosed start stop text
  drop_eq := by
    by_cases h : (⟨start, some stop⟩ : Extent).IsBlanked text
    · have hlt : start + opener.length < stop := Extent.lt_of_interior_ne_nil h.1.ne_nil
      rw [clearClosed_of_isBlanked hopen hclose h]
      exact drop_blankBetween (Nat.le_of_lt hlt) (Nat.le_of_add_right_le (hclose.le_length nofun))
    · rw [clearClosed_of_not_isBlanked hopen hclose h]

/-- Of a closed comment only an interior that is blanked changes. -/
theorem getElem?_clearClosed (hopen : Text.StandsAt opener text start)
    (hclose : Text.StandsAt closer text stop) {place : Nat}
    (hplace : (⟨start, some stop⟩ : Extent).IsBlanked text →
      ¬ (⟨start, some stop⟩ : Extent).Holds text place) :
    (clearClosed start stop text)[place]? = text[place]? := by
  by_cases h : (⟨start, some stop⟩ : Extent).IsBlanked text
  · have hlt : start + opener.length < stop := Extent.lt_of_interior_ne_nil h.1.ne_nil
    rw [clearClosed_of_isBlanked hopen hclose h]
    rcases Nat.lt_or_ge place (start + opener.length) with hleft | hright
    · exact getElem?_blankBetween_left (hopen.le_length nofun) hleft
    · have hle : stop ≤ place := Nat.le_of_not_lt fun hlt => hplace h ⟨hright, hlt⟩
      exact getElem?_blankBetween_right (Nat.le_of_lt hlt)
        (Nat.le_of_add_right_le (hclose.le_length nofun)) hle
  · rw [clearClosed_of_not_isBlanked hopen hclose h]

/-- Such an interior is overwritten with its blanks. -/
theorem between_clearClosed (hopen : Text.StandsAt opener text start)
    (hclose : Text.StandsAt closer text stop)
    (h : (⟨start, some stop⟩ : Extent).IsBlanked text) :
    Text.between (start + opener.length) stop (clearClosed start stop text) =
      blank ((⟨start, some stop⟩ : Extent).interior text) := by
  have hlt : start + opener.length < stop := Extent.lt_of_interior_ne_nil h.1.ne_nil
  rw [clearClosed_of_isBlanked hopen hclose h, between_blankBetween (Nat.le_of_lt hlt)
    (Nat.le_of_add_right_le (hclose.le_length nofun)), Extent.interior_closed]

/-- The test of a comment that runs to the end is right. -/
theorem isBlankable_and_not_isBlanked_iff :
    (isBlankable (text.drop (start + opener.length)) &&
      !isBlanked (text.drop (start + opener.length))) = true ↔
      (⟨start, none⟩ : Extent).IsBlanked text := by
  rw [Bool.and_eq_true, isBlankable_iff, Bool.not_eq_true', ← Bool.not_eq_true, isBlanked_iff,
    Extent.isBlanked_unclosed]

theorem clearUnclosed_of_isBlanked (h : (⟨start, none⟩ : Extent).IsBlanked text) :
    clearUnclosed start text = text.take (start + opener.length) ++
      (blank (text.drop (start + opener.length)) ++ [escapeMark]) :=
  if_pos (isBlankable_and_not_isBlanked_iff.mpr h)

theorem clearUnclosed_of_not_isBlanked (h : ¬ (⟨start, none⟩ : Extent).IsBlanked text) :
    clearUnclosed start text = text :=
  if_neg (mt isBlankable_and_not_isBlanked_iff.mp h)

end

/-! ## All comments -/

/-- A text with the interiors of its blanked comments overwritten. If the last of them runs to the
end, the escape mark stands behind it. -/
structure ClearedBy (text : Text) (extents : List Extent) (result : Text) : Prop where
  outside : ∀ place < text.length,
    (∀ extent ∈ extents, extent.IsBlanked text → ¬ extent.Holds text place) →
      result[place]? = text[place]?
  inside : ∀ extent ∈ extents, extent.IsBlanked text →
    Blanks (extent.interior text)
      (Text.between (extent.start + opener.length) (extent.interiorEnd text) result)
  marked : (∃ extent ∈ extents, extent.stop = none ∧ extent.IsBlanked text) →
    result.drop text.length = [escapeMark]
  unmarked : (¬ ∃ extent ∈ extents, extent.stop = none ∧ extent.IsBlanked text) →
    result.length = text.length

namespace ClearedBy

variable {text result : Text} {start stop : Nat} {rest : List Extent}

/-- Without comments nothing changes. -/
theorem nil (text : Text) : ClearedBy text [] text where
  outside _ _ _ := rfl
  inside _ h := nomatch h
  marked := fun ⟨_, h, _⟩ => nomatch h
  unmarked _ := rfl

/-- A comment that is not blanked changes nothing. -/
theorem singleton {extent : Extent} (h : ¬ extent.IsBlanked text) :
    ClearedBy text [extent] text where
  outside _ _ _ := rfl
  inside _ ho hblanked := absurd (List.mem_singleton.mp ho ▸ hblanked) h
  marked := fun ⟨_, ho, _, hblanked⟩ => absurd (List.mem_singleton.mp ho ▸ hblanked) h
  unmarked _ := rfl

/-- The last comment may run to the end. -/
theorem unclosed (hopen : Text.StandsAt opener text start) :
    ClearedBy text [⟨start, none⟩] (clearUnclosed start text) := by
  by_cases h : (⟨start, none⟩ : Extent).IsBlanked text
  · have hinside : start + opener.length ≤ text.length := hopen.le_length nofun
    have htake : (text.take (start + opener.length)).length = start + opener.length :=
      List.length_take_of_le hinside
    have hblank : (blank (text.drop (start + opener.length))).length =
        text.length - (start + opener.length) := by
      rw [length_blank, List.length_drop]
    rw [clearUnclosed_of_isBlanked h]
    constructor
    case outside =>
      intro place hlt hnot
      have hplace : place < start + opener.length := by
        refine Nat.lt_of_not_le fun hle => ?_
        exact hnot _ (List.mem_singleton_self _) h ⟨hle, hlt⟩
      rw [List.getElem?_append_left (by rwa [htake]), List.getElem?_take_of_lt hplace]
    case inside =>
      intro extent he _
      obtain rfl := List.mem_singleton.mp he
      have hend : (⟨start, none⟩ : Extent).interiorEnd text = text.length := rfl
      rw [Extent.interior_unclosed, hend, Text.between_eq_take_drop, List.drop_left' htake,
        List.take_left' hblank]
      exact blanks_blank _
    case marked =>
      intro _
      have hfront : (text.take (start + opener.length) ++
          blank (text.drop (start + opener.length))).length = text.length := by
        rw [List.length_append, htake, hblank, Nat.add_sub_of_le hinside]
      rw [← List.append_assoc, List.drop_left' hfront]
    case unmarked => exact fun hnone => absurd ⟨_, List.mem_singleton_self _, rfl, h⟩ hnone
  · rw [clearUnclosed_of_not_isBlanked h]
    exact .singleton h

/-- Comments behind a closed one run to the end in the text as it was if they do in the cleared
one. -/
theorem exists_unclosed_cons {other : Text} {cursor : Nat}
    (hagree : Text.AgreeFrom cursor text other) (hrest : ∀ extent ∈ rest, cursor ≤ extent.start) :
    (∃ extent ∈ (⟨start, some stop⟩ : Extent) :: rest,
      extent.stop = none ∧ extent.IsBlanked text) ↔
      ∃ extent ∈ rest, extent.stop = none ∧ extent.IsBlanked other := by
  constructor
  · rintro ⟨extent, he, hnone, hblanked⟩
    rcases List.mem_cons.mp he with rfl | he
    · cases hnone
    · exact ⟨extent, he, hnone, (Extent.isBlanked_congr hagree (hrest extent he)).mpr hblanked⟩
  · rintro ⟨extent, he, hnone, hblanked⟩
    exact ⟨extent, List.mem_cons_of_mem _ he, hnone,
      (Extent.isBlanked_congr hagree (hrest extent he)).mp hblanked⟩

/-- One comment, then those behind it. -/
theorem closed (hopen : Text.StandsAt opener text start) (hclose : Text.StandsAt closer text stop)
    (hrest : ∀ extent ∈ rest, stop + closer.length ≤ extent.start)
    (h : ClearedBy (clearClosed start stop text) rest result) :
    ClearedBy text (⟨start, some stop⟩ :: rest) result := by
  have hlen : stop + closer.length ≤ text.length := hclose.le_length nofun
  have hagree : Text.AgreeFrom (stop + closer.length) text (clearClosed start stop text) :=
    (agreeFrom_clearClosed hopen hclose).mono (Nat.le_add_right _ _)
  -- the comments behind it do not touch what has been read
  have hkeep : ∀ place < stop + closer.length,
      result[place]? = (clearClosed start stop text)[place]? := by
    intro place hlt
    refine h.outside place (by rw [hagree.length_eq]; omega) fun extent he _ hholds => ?_
    have hstart := hrest extent he
    have hle := hholds.1
    omega
  constructor
  case outside =>
    intro place hlt hnot
    rcases Nat.lt_or_ge place (stop + closer.length) with hfront | hback
    · -- what has been read is changed by this comment at most
      rw [hkeep place hfront, getElem?_clearClosed hopen hclose (hnot _ List.mem_cons_self)]
    · -- what is left is changed by the comments in it at most
      rw [← hagree.getElem?_eq hback]
      refine h.outside place (by rwa [hagree.length_eq]) fun extent he hblanked hholds => ?_
      exact hnot extent (List.mem_cons_of_mem _ he)
        ((Extent.isBlanked_congr hagree (hrest extent he)).mp hblanked)
        ((Extent.holds_congr hagree place).mp hholds)
  case inside =>
    intro extent he hblanked
    rcases List.mem_cons.mp he with rfl | he
    · have hresult : Text.between (start + opener.length) stop result =
          Text.between (start + opener.length) stop (clearClosed start stop text) :=
        Text.between_congr fun place _ hlt => hkeep place (Nat.lt_add_right _ hlt)
      rw [blanks_iff, ← between_clearClosed hopen hclose hblanked, ← hresult]
      rfl
    · have hstart := hrest extent he
      have hblanks := h.inside extent he ((Extent.isBlanked_congr hagree hstart).mpr hblanked)
      rwa [Extent.interior_congr hagree hstart, Extent.interiorEnd_congr hagree] at hblanks
  case marked =>
    intro hsome
    rw [← hagree.length_eq]
    exact h.marked ((exists_unclosed_cons hagree hrest).mp hsome)
  case unmarked =>
    intro hnone
    rw [← hagree.length_eq]
    exact h.unmarked (mt (exists_unclosed_cons hagree hrest).mpr hnone)

end ClearedBy

/-- From every place on there are comments, and clearing the text from there clears these. -/
theorem exists_comments_clearedBy (cursor : Nat) (text : Text) :
    ∃ extents, Comments text cursor extents ∧ ClearedBy text extents (clearFrom cursor text) := by
  fun_induction clearFrom cursor text with
  | case1 cursor text ho =>
    exact ⟨[], .finished (Text.findFrom?_eq_none_iff.mp ho), .nil text⟩
  | case2 cursor text start ho hc =>
    have hopen := Text.findFrom?_eq_some_iff.mp ho
    exact ⟨[⟨start, none⟩], .unclosed hopen (Text.findFrom?_eq_none_iff.mp hc),
      .unclosed hopen.stands⟩
  | case3 cursor text start ho stop hc ih =>
    have hopen := Text.findFrom?_eq_some_iff.mp ho
    have hclose := Text.findFrom?_eq_some_iff.mp hc
    -- the rest is read in the text with this comment cleared, which is the same from the closer on
    obtain ⟨rest, hrest, hcleared⟩ := ih
    have hagree := agreeFrom_clearClosed hopen.stands hclose.stands
    refine ⟨⟨start, some stop⟩ :: rest, .closed hopen hclose ?_, ?_⟩
    · exact hrest.congr hagree (Nat.le_add_right _ _)
    · exact .closed hopen.stands hclose.stands (fun _ => hrest.le_start) hcleared

/-- Clearing a text overwrites the interiors of its blanked comments and nothing else. Its comments
are read in the text as it was, and there is one way to read them. -/
theorem comments_unique_and_clearedBy_clear (text : Text) :
    ∃ extents, (∀ others, Comments text 0 others ↔ others = extents) ∧
      ClearedBy text extents (clear text) := by
  obtain ⟨extents, hcomments, hcleared⟩ := exists_comments_clearedBy 0 text
  refine ⟨extents, fun others => ⟨hcomments.unique, ?_⟩, hcleared⟩
  rintro rfl
  exact hcomments

/-- An opener and a closer that share dashes, a line end in a comment, and a comment that runs to
the end. -/
example : clear "<!-->a<!-- b\r\n --> c<!--d".toList =
    "<!-->a<!-- \\\r\n --> c<!-- \\".toList := by
  cbv

end MarkdownCheck.Comment
