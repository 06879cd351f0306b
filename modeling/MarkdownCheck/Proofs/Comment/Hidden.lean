import MarkdownCheck.Proofs.Comment.Parts
import MarkdownCheck.Proofs.Lint.FrontMatter

/-!
# What a comment hides

The text in a comment that is blanked has no influence on a lint run, its line ends apart: two texts
that differ in such a comment only are cleared to the same text.

- `Comment.EndsOutside`: a text that does not end inside a comment, as it is read from the left.
- `Comment.clearFrom_append_right`: what follows such a text is cleared as a text of its own.
- `Comment.Secret`: an interior that is blanked wherever it stands.
- `Comment.clear_append_secret`: what is shown of a text with a secret.
- `Comment.SameShape`: interiors of one length with the same line ends.
- `Comment.clear_and_lintText_eq_of_sameShape`: secrets of one shape lead to the same results.
-/

namespace MarkdownCheck.Comment

/-! ## Texts that end outside of comments -/

/-- A text ends outside of its comments, read from left to right: all of them are closed. -/
def EndsOutside (text : Text) : Prop :=
  ∃ extents, Comments text 0 extents ∧ ∀ extent ∈ extents, extent.stop ≠ none

section

variable {text tail : Text}

theorem clearClosed_append_right {start stop : Nat} (h : stop + closer.length ≤ text.length) :
    clearClosed start stop (text ++ tail) = clearClosed start stop text ++ tail := by
  have hstop : stop ≤ text.length := Nat.le_of_add_right_le h
  simp only [clearClosed, Text.between_append_right hstop, Text.between_append_right h]
  split
  · next hblank =>
    rw [Bool.and_eq_true] at hblank
    have hlt := lt_of_isBlankable_between hblank.1
    rw [blankBetween, blankBetween, Text.between_append_right hstop,
      List.take_append_of_le_length (by omega), List.drop_append_of_le_length hstop,
      List.append_assoc, List.append_assoc]
  · rfl

/-- An opener that begins in a text does not reach into another opener behind it. -/
theorem not_standsAt_opener_append (htail : opener <+: tail) {place : Nat}
    (hlt : place < text.length) (h : ¬ Text.StandsAt opener text place) :
    ¬ Text.StandsAt opener (text ++ tail) place := by
  intro hstands
  rcases Nat.lt_or_ge text.length (place + opener.length) with hover | hinside
  · -- one of its later characters would be the first one of the other opener
    obtain ⟨behind, rfl⟩ := htail
    obtain ⟨k, hk⟩ := Nat.exists_eq_add_of_le (Nat.le_of_lt hlt)
    have hfirst : (text ++ (opener ++ behind))[place + k]? = some '<' := by
      rw [← hk, List.getElem?_append_right (Nat.le_refl _), Nat.sub_self]
      rfl
    have hchar {c : Char} (hc : opener[k]? = some c) : c = '<' :=
      Option.some.inj ((Text.standsAt_iff.mp hstands k c hc).symm.trans hfirst)
    match k with
    | 0 => omega
    | 1 | 2 | 3 => exact absurd (hchar rfl) (by decide)
    | k + 4 =>
      have hlen : opener.length = 4 := rfl
      omega
  · exact h ((Text.standsAt_append_iff hinside tail).mp hstands)

/-- What follows a text that ends outside of its comments is cleared as a text of its own, if it
starts with a comment. -/
theorem clearFrom_append_right {cursor : Nat} {extents : List Extent}
    (hcomments : Comments text cursor extents) (hclosed : ∀ extent ∈ extents, extent.stop ≠ none)
    (hcursor : cursor ≤ text.length) (htail : opener <+: tail) :
    clearFrom cursor (text ++ tail) = clearFrom cursor text ++ clear tail := by
  fun_induction clearFrom cursor text generalizing extents with
  | case1 cursor text ho =>
    have hnone := Text.findFrom?_eq_none_iff.mp ho
    rw [clearFrom_eq_of_not_standsAt hcursor fun place hle hlt =>
      not_standsAt_opener_append htail hlt (hnone place hle), clearFrom_length_append]
  | case2 cursor text start ho hc =>
    have hlast := hcomments.unique
      (.unclosed (Text.findFrom?_eq_some_iff.mp ho) (Text.findFrom?_eq_none_iff.mp hc))
    exact absurd rfl (hclosed ⟨start, none⟩ (hlast ▸ List.mem_singleton_self _))
  | case3 cursor text start ho stop hc ih =>
    have hopen := Text.findFrom?_eq_some_iff.mp ho
    have hclose := Text.findFrom?_eq_some_iff.mp hc
    have hlen := hclose.stands.le_length (List.cons_ne_nil _ _)
    -- behind the closer there is the same in the text with this comment cleared
    have hagree : Text.AgreeFrom (stop + closer.length) (clearClosed start stop text) text :=
      ((agreeFrom_clearClosed hopen.stands hclose.stands).mono (Nat.le_add_right _ _)).symm
    cases hcomments with
    | finished hnone => exact absurd hopen.stands (hnone _ hopen.start_le)
    | unclosed => exact absurd rfl (hclosed _ (List.mem_singleton_self _))
    | closed hopen' hclose' hrest =>
      obtain rfl := hopen.unique hopen'
      obtain rfl := hclose.unique hclose'
      rw [clearFrom_of_closed
          (Text.findFrom?_eq_some_iff.mpr (hopen.append_right (List.cons_ne_nil _ _) tail))
          (Text.findFrom?_eq_some_iff.mpr (hclose.append_right (List.cons_ne_nil _ _) tail)),
        clearClosed_append_right hlen]
      refine ih (hrest.congr hagree (Nat.le_refl _))
        (fun extent he => hclosed extent (List.mem_cons_of_mem _ he)) ?_
      rwa [length_clearClosed]

theorem clear_append_of_endsOutside (h : EndsOutside text) (htail : opener <+: tail) :
    clear (text ++ tail) = clear text ++ clear tail := by
  obtain ⟨extents, hcomments, hclosed⟩ := h
  exact clearFrom_append_right hcomments hclosed (Nat.zero_le _) htail

end

/-! ## Secrets -/

/-- An interior that is blanked wherever it stands: it is well formed, it does not make a closer
together with the last dash of its opener, and its comment is no directive. -/
structure Secret (interior : Text) : Prop extends WellFormed interior where
  not_arrow : ¬ ['-', '>'] <+: interior
  not_directive : ¬ isDirective (opener ++ (interior ++ closer))

variable {interior other : Text}

/-- The comment with a secret ends behind the secret. -/
theorem Secret.cut_closer (h : Secret interior) (behind : Text) :
    Text.cut closer (opener ++ (interior ++ (closer ++ behind))) =
      some (opener ++ interior, behind) := by
  refine Text.cut_eq_some_iff.mpr ⟨(List.append_assoc _ _ _).symm, fun m hm hstands => ?_⟩
  obtain ⟨first, more, hinterior⟩ := List.exists_cons_of_ne_nil h.ne_nil
  match m with
  | 0 | 1 =>
    obtain ⟨rest, hrest⟩ := hstands
    cases hrest
  | 2 =>
    obtain ⟨rest, hrest⟩ := hstands
    rw [hinterior] at hrest
    cases hrest
    exact h.not_start ⟨more, hinterior.symm⟩
  | 3 =>
    obtain ⟨rest, hrest⟩ := hstands
    rw [hinterior] at hrest
    cases more with
    | nil =>
      cases hrest
    | cons second more =>
      cases hrest
      exact h.not_arrow ⟨more, hinterior.symm⟩
  | k + 4 =>
    have hk : k < interior.length := by
      rw [List.length_append] at hm
      exact Nat.lt_of_add_lt_add_left (Nat.add_comm k 4 ▸ hm)
    have hclose : Text.StandsAt closer (interior ++ (closer ++ behind)) k := hstands
    have hchars := Text.standsAt_iff.mp hclose
    have hfirst : interior[k]? = some '-' := by
      rw [← hchars 0 '-' rfl, Nat.add_zero, List.getElem?_append_left hk]
    have hnext : k + 1 < (interior ++ closer).length := by
      rw [List.length_append]
      exact Nat.add_lt_add_of_lt_of_le hk (by decide)
    refine h.not_dash_succ hfirst ?_
    rw [← hchars 1 '-' rfl, ← List.append_assoc, List.getElem?_append_left hnext]

/-- Of a secret its blanks are shown. -/
theorem Secret.clear_eq (h : Secret interior) (behind : Text) :
    clear (opener ++ (interior ++ (closer ++ behind))) =
      opener ++ (blank interior ++ (closer ++ clear behind)) := by
  have hopen : Text.cut opener (opener ++ (interior ++ (closer ++ behind))) =
      some ([], interior ++ (closer ++ behind)) :=
    Text.cut_eq_some_iff.mpr ⟨rfl, fun _ hm => absurd hm (Nat.not_lt_zero _)⟩
  have hblank : clearedBody (opener ++ interior) = opener ++ blank interior := by
    have hdirective : isDirective (opener ++ (interior ++ closer)) = false :=
      Bool.eq_false_iff.mpr h.not_directive
    rw [clearedBody_opener_append, isBlankable_iff.mpr h.toWellFormed, hdirective]
    rfl
  rw [clear_of_closed hopen (h.cut_closer behind), hblank, List.nil_append, List.append_assoc]

/-- A text with a secret: what stands in front of its comment and what stands behind are cleared on
their own. -/
theorem clear_append_secret {before : Text} (hbefore : EndsOutside before) (h : Secret interior)
    (behind : Text) :
    clear (before ++ (opener ++ (interior ++ (closer ++ behind)))) =
      clear before ++ (opener ++ (blank interior ++ (closer ++ clear behind))) := by
  rw [clear_append_of_endsOutside hbefore (List.prefix_append _ _), h.clear_eq]

/-! ## Secrets of one shape -/

/-- Interiors of one length with the same line ends at the same places. -/
structure SameShape (interior other : Text) : Prop where
  length_eq : interior.length = other.length
  lineEnd_iff : ∀ (i : Nat) (c : Char), Text.isLineEnd c →
    (interior[i]? = some c ↔ other[i]? = some c)

theorem SameShape.any_getElem? (h : SameShape interior other) (i : Nat) :
    interior[i]?.any Text.isLineEnd = other[i]?.any Text.isLineEnd := by
  rw [Bool.eq_iff_iff, Option.any_eq_true, Option.any_eq_true]
  constructor
  · rintro ⟨c, hc, hend⟩
    exact ⟨c, (h.lineEnd_iff i c hend).mp hc, hend⟩
  · rintro ⟨c, hc, hend⟩
    exact ⟨c, (h.lineEnd_iff i c hend).mpr hc, hend⟩

/-- Blanks tell nothing but the shape. -/
theorem SameShape.blank_eq (h : SameShape interior other) : blank interior = blank other := by
  refine List.ext_getElem? fun i => ?_
  rw [getElem?_blank, getElem?_blank, h.any_getElem?]
  have hend := h.any_getElem? i
  rcases Nat.lt_or_ge i interior.length with hlt | hge
  · have hlt' : i < other.length := h.length_eq ▸ hlt
    rw [List.getElem?_eq_getElem hlt, List.getElem?_eq_getElem hlt'] at hend ⊢
    by_cases hc : Text.isLineEnd interior[i]
    · have hsame := (h.lineEnd_iff i _ hc).mp (List.getElem?_eq_getElem hlt)
      rw [← List.getElem?_eq_getElem hlt', hsame]
    · have hc' : ¬ Text.isLineEnd other[i] := fun hother => hc (hend.trans hother)
      rw [Option.map_some, Option.map_some, if_neg hc, if_neg hc']
  · have hnone : interior[i]? = none := List.getElem?_eq_none hge
    have hnone' : other[i]? = none := List.getElem?_eq_none (h.length_eq ▸ hge)
    rw [hnone, hnone', Option.map_none]

/-- **Comments hide their text.** Two texts that differ in a secret only, the secrets being of one
shape, are cleared to the same text. So a lint run that clears comments, and takes no front matter
off, has the same result and the same log for both. -/
theorem clear_and_lintText_eq_of_sameShape {before secret other : Text}
    (hbefore : EndsOutside before) (hsecret : Secret secret) (hother : Secret other)
    (hshape : SameShape secret other) (behind : Text) :
    let content (interior : Text) := before ++ (opener ++ (interior ++ (closer ++ behind)))
    clear (content secret) = clear (content other) ∧
      ∀ (options : LintOptions) (name : Text),
        options.clearComments = true → options.stripFrontMatter = false →
          lintText options (content secret) name = lintText options (content other) name := by
  intro content
  have hclear : clear (content secret) = clear (content other) := by
    rw [clear_append_secret hbefore hsecret, clear_append_secret hbefore hother, hshape.blank_eq]
  refine ⟨hclear, fun options name hoption hstrip => ?_⟩
  have hprepare (text : Text) :
      options.prepare text name = Document.ofText (clear text) name [] := by
    rw [LintOptions.prepare_eq, LintOptions.split, hstrip, LintOptions.cleared, hoption]
    rfl
  rw [lintText, lintText, hprepare, hprepare, hclear]

/-- A secret that looks like code and one that looks like prose, with a line end in each, behind a
comment that shares its dashes. The text behind them opens another comment. -/
theorem clear_and_lintText_eq_of_sameShape_code :
    let before := "# a\n<!--> ".toList
    let secret := "# b\n- > ".toList
    let other := "Why\nnot?".toList
    let behind := "\n# a <!-- c".toList
    let content (interior : Text) := before ++ (opener ++ (interior ++ (closer ++ behind)))
    let options : LintOptions := ⟨[], true, false, 1000, 3⟩
    (EndsOutside before ∧ Secret secret ∧ Secret other ∧ SameShape secret other) ∧
      clear (content secret) = "# a\n<!--> <!--  \\\n    -->\n# a <!--  \\".toList ∧
      clear (content secret) = clear (content other) ∧
      lintText options (content secret) [] = lintText options (content other) [] := by
  intro before secret other behind content options
  have hbefore : EndsOutside before :=
    ⟨[⟨4, some 6⟩],
      .closed (Text.findFrom?_eq_some_iff.mp (by decide))
        (Text.findFrom?_eq_some_iff.mp (by decide))
        (.finished (Text.findFrom?_eq_none_iff.mp (by decide))),
      by simp⟩
  have hsecret : Secret secret :=
    ⟨isBlankable_iff.mp (by decide), by decide, by decide +kernel⟩
  have hother : Secret other :=
    ⟨isBlankable_iff.mp (by decide), by decide, by decide +kernel⟩
  have hshape : SameShape secret other := by
    have hfeed : ∀ i < 8, (secret[i]? = some '\n' ↔ other[i]? = some '\n') := by decide
    have hreturn : ∀ i < 8, (secret[i]? = some '\r' ↔ other[i]? = some '\r') := by decide
    refine ⟨by decide, fun i c hend => ?_⟩
    rw [Text.isLineEnd, Bool.or_eq_true, decide_eq_true_eq, decide_eq_true_eq] at hend
    rcases Nat.lt_or_ge i 8 with hlt | hge
    · rcases hend with rfl | rfl
      · exact hfeed i hlt
      · exact hreturn i hlt
    · rw [List.getElem?_eq_none hge, List.getElem?_eq_none hge]
  obtain ⟨hclear, hlint⟩ :=
    clear_and_lintText_eq_of_sameShape hbefore hsecret hother hshape behind
  exact ⟨⟨hbefore, hsecret, hother, hshape⟩, by decide +kernel, hclear, hlint options [] rfl rfl⟩

end MarkdownCheck.Comment
