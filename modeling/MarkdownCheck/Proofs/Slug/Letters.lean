import Mathlib.Data.List.TakeWhile
import MarkdownCheck.Proofs.Slug.Canonical
import MarkdownCheck.Proofs.Slug.Markers

/-!
# Letters of slugs

Two titles with one slug have the same letters, each as often as in the other, unless nothing is
left of one of them and the other is called "untitled". Unwrapping takes the letters of the opening
of each marker away, of which `n` is one in every opening and `e` in none. So a title and what it is
unwrapped to have different slugs if there is a marker to unwrap.

- `Slug.letters`: the letters of a folded title, in the order of the title.
- `Slug.count_slug`: a slug keeps them.
- `Slug.letters_lt_of_hasMarker`: unwrapping drops some.
- `Slug.slug_unwrap_eq_iff`: a title has the slug of what it is unwrapped to if and only if that has
  no marker left.
-/

namespace MarkdownCheck

/-! ## Folded letters -/

namespace Unicode

theorem insertMark_perm (mark : Char) (value : Nat) (before : List Char) :
    (insertMark mark value before).Perm (mark :: before) := by
  induction before with
  | nil => exact .refl _
  | cons c before ih =>
    rw [insertMark]
    split
    · exact (ih.cons c).trans (.swap mark c before)
    · exact .refl _

/-- Bringing marks into order changes nothing but the order. -/
theorem sortMarks_perm (text : List Char) : (sortMarks text).Perm text := by
  have hfold : ∀ before : List Char, (text.foldl (fun before c =>
      let value := combiningClass c
      if value = 0 then c :: before else insertMark c value before) before).Perm
        (text.reverse ++ before) := by
    induction text with
    | nil => exact fun before => .refl before
    | cons c text ih =>
      intro before
      have hstep : (if combiningClass c = 0 then c :: before
          else insertMark c (combiningClass c) before).Perm (c :: before) := by
        split
        · exact .refl _
        · exact insertMark_perm c _ before
      rw [List.foldl_cons, List.reverse_cons, List.append_assoc]
      exact (ih _).trans (hstep.append_left text.reverse)
  have hperm := hfold []
  rw [List.append_nil] at hperm
  exact (List.reverse_perm _).trans (hperm.trans (List.reverse_perm text))

end Unicode

namespace Slug

/-- The letters of a folded title, in the order of the title. -/
def letters (title : Text) : Text :=
  ((title.flatMap fun c => (Unicode.decompose c).getD [c]).filter (·.toNat < 0x80)).map Char.toLower

theorem letters_append (front text : Text) :
    letters (front ++ text) = letters front ++ letters text := by
  rw [letters, List.flatMap_append, List.filter_append, List.map_append]
  rfl

theorem fold_perm_letters (title : Text) : (fold false title).Perm (letters title) := by
  have hascii : ∀ c ∈ (Unicode.decomposed title).filter (·.toNat < 0x80), c.toNat < 0x80 := by
    intro c hc
    simpa using (List.mem_filter.mp hc).2
  have hfold : fold false title =
      ((Unicode.decomposed title).filter (·.toNat < 0x80)).map Char.toLower :=
    Unicode.foldCase_eq_map hascii
  rw [hfold]
  exact ((Unicode.sortMarks_perm _).filter _).map _

/-! ## Joined words -/

/-- A character that goes into a slug as it is. -/
structure IsKept (c : Char) : Prop where
  ne_hyphen : c ≠ '-'
  not_isBlank : ¬ Text.isBlank c
  not_isDropped : ¬ isDropped c

section

variable {c : Char} (hc : IsKept c)
include hc

theorem count_hyphenate (text : Text) : (hyphenate text).count c = text.count c := by
  have hother : ∀ d : Char, Text.isBlank d → d ≠ c := by
    rintro d hd rfl
    exact hc.not_isBlank hd
  fun_induction hyphenate text with
  | case1 => rfl
  | case2 d hd =>
    rw [List.count_cons_of_ne hc.ne_hyphen.symm, List.count_cons_of_ne (hother d hd)]
  | case3 d hd e rest _ ih => rw [ih, List.count_cons_of_ne (hother d hd)]
  | case4 d hd e rest _ ih =>
    rw [List.count_cons_of_ne hc.ne_hyphen.symm, ih, List.count_cons_of_ne (hother d hd)]
  | case5 d rest _ ih => rw [List.count_cons, List.count_cons, ih]

theorem count_mergeHyphens (text : Text) : (mergeHyphens text).count c = text.count c := by
  fun_induction mergeHyphens text with
  | case1 => rfl
  | case2 => rfl
  | case3 d e rest h ih =>
    have hd : d ≠ c := fun heq => hc.ne_hyphen (heq.symm.trans h.1)
    rw [ih, List.count_cons_of_ne hd]
  | case4 d e rest _ ih => simp only [List.count_cons, ih]

theorem count_dropWhile_hyphen (text : Text) :
    (text.dropWhile (· = '-')).count c = text.count c := by
  have hzero : (text.takeWhile (· = '-')).count c = 0 := by
    rw [List.count_eq_zero]
    intro hmem
    have hhyphen := List.mem_takeWhile_imp hmem
    exact hc.ne_hyphen (of_decide_eq_true hhyphen)
  conv_rhs => rw [← List.takeWhile_append_dropWhile (p := (· = '-')) (l := text)]
  rw [List.count_append, hzero, Nat.zero_add]

theorem count_joinWords (words : Text) : (joinWords words).count c = words.count c := by
  rw [joinWords, trimHyphens, List.count_reverse, count_dropWhile_hyphen hc, List.count_reverse,
    count_dropWhile_hyphen hc, count_mergeHyphens hc, count_hyphenate hc]

end

/-- A slug has the letters of its title, unless nothing is left of this. -/
theorem count_slug (title : Text) :
    (slug false title = untitled ∧ ∀ c, IsKept c → (letters (unwrap title)).count c = 0) ∨
      ∀ c, IsKept c → (slug false title).count c = (letters (unwrap title)).count c := by
  have hcount : ∀ c, IsKept c →
      (joinWords ((fold false (unwrap title)).filter (!isDropped ·))).count c =
        (letters (unwrap title)).count c := by
    intro c hc
    have hkept : (!isDropped c) = true := by simpa using hc.not_isDropped
    rw [count_joinWords hc, List.count_filter (p := (!isDropped ·)) hkept]
    exact (fold_perm_letters (unwrap title)).count_eq c
  rw [slug_eq]
  dsimp only
  split
  · next hempty =>
    rw [List.isEmpty_iff.mp hempty] at hcount
    exact .inl ⟨rfl, fun c hc => (hcount c hc).symm⟩
  · exact .inr hcount

/-! ## Unwrapping -/

/-- What the opening of a marker has in letters. -/
theorem count_letters_opening {opening : Text} (h : opening ∈ openings) :
    (letters opening).count 'e' = 0 ∧ (letters opening).count 'n' = 1 := by
  simp only [openings, List.mem_cons, List.not_mem_nil, or_false] at h
  rcases h with rfl | rfl
  all_goals decide

theorem StartsMarked.count_letters {text inside after : Text} (h : StartsMarked text inside after) :
    (letters text).count 'e' = (letters inside).count 'e' + (letters after).count 'e' ∧
      (letters text).count 'n' = (letters inside).count 'n' + (letters after).count 'n' + 1 := by
  obtain ⟨⟨opening, hopening, rfl⟩, -, -⟩ := h
  obtain ⟨he, hn⟩ := count_letters_opening hopening
  have hclosing : letters (']' :: after) = ']' :: letters after := letters_append [']'] after
  simp only [letters_append, hclosing, List.count_append, he, hn]
  constructor
  · simp
  · simp
    omega

/-- Unwrapping keeps each `e`, and drops an `n` for each marker. -/
theorem Unwraps.count_letters {title shown : Text} (h : Unwraps title shown) :
    (letters shown).count 'e' = (letters title).count 'e' ∧
      (shown = title ∨ (letters shown).count 'n' < (letters title).count 'n') := by
  have hcons : ∀ (c d : Char) (text : Text), (letters (c :: text)).count d =
      (letters [c]).count d + (letters text).count d := by
    intro c d text
    rw [← List.count_append, ← letters_append]
    rfl
  induction h with
  | nil => exact ⟨rfl, .inl rfl⟩
  | marked hstarts _ ih =>
    obtain ⟨he, hn⟩ := hstarts.count_letters
    obtain ⟨hkeeps, hdrops⟩ := ih
    refine ⟨?_, .inr ?_⟩
    · rw [letters_append, List.count_append, he, hkeeps]
    · rw [letters_append, List.count_append, hn]
      rcases hdrops with rfl | hdrops <;> omega
  | @plain c rest shown _ _ ih =>
    obtain ⟨hkeeps, hdrops⟩ := ih
    refine ⟨by rw [hcons c 'e' shown, hcons c 'e' rest, hkeeps], ?_⟩
    refine hdrops.imp (congrArg _) fun hlt => ?_
    rw [hcons c 'n' shown, hcons c 'n' rest]
    exact Nat.add_lt_add_left hlt _

/-- Titles that are unwrapped to the same text have the same slug. -/
theorem slug_congr_unwrap (preserve : Bool) {title other : Text} (h : unwrap title = unwrap other) :
    slug preserve title = slug preserve other := by
  rw [slug_eq, slug_eq, h]

/-- A marker that is still there after unwrapping shows in the slug. -/
theorem slug_unwrap_ne {title : Text} (h : HasMarker (unwrap title)) :
    slug false (unwrap title) ≠ slug false title := by
  intro hslug
  have he : IsKept 'e' := ⟨by decide, by decide, by decide⟩
  have hn : IsKept 'n' := ⟨by decide, by decide, by decide⟩
  have hmarker : unwrap (unwrap title) ≠ unwrap title := fun heq => unwrap_eq_self_iff.mp heq h
  obtain ⟨hkeeps, hdrops⟩ := (unwraps_unwrap (unwrap title)).count_letters
  have hlt := hdrops.resolve_left hmarker
  rcases count_slug title with ⟨-, hnothing⟩ | hcount
  · -- there was an `n` to drop, so something was left of the title
    rw [hnothing 'n' hn] at hlt
    exact Nat.not_lt_zero _ hlt
  · rcases count_slug (unwrap title) with ⟨huntitled, hnothing⟩ | hcountOnce
    · -- there is one `e` in "untitled" and none in either title
      have hone : (slug false title).count 'e' = 1 := by
        rw [← hslug, huntitled]
        decide
      rw [hcount 'e' he, ← hkeeps, hnothing 'e' he] at hone
      exact absurd hone (by decide)
    · rw [← hcountOnce 'n' hn, ← hcount 'n' hn, hslug] at hlt
      exact Nat.lt_irrefl _ hlt

/-- **Markers and slugs.** A title and what it is unwrapped to have the same slug if and only if no
marker is left in the latter; where a title's script is preserved, they do if none is left. So they
do when no marker wraps a bracket that opens another one, whatever the number and the order of the
markers. -/
theorem slug_unwrap_eq_iff (title : Text) :
    (slug false (unwrap title) = slug false title ↔ ¬ HasMarker (unwrap title)) ∧
    (∀ preserve, ¬ HasMarker (unwrap title) →
      slug preserve (unwrap title) = slug preserve title) ∧
    ∀ pieces : List Piece, title = pieces.flatMap Piece.written →
      (∀ piece ∈ pieces, piece.IsProper) →
      unwrap title = pieces.flatMap Piece.shown ∧
      ((∀ piece ∈ pieces, '[' ∉ piece.shown) → ∀ preserve,
        slug preserve (pieces.flatMap Piece.shown) = slug preserve title) := by
  have hsame : ∀ preserve, ¬ HasMarker (unwrap title) →
      slug preserve (unwrap title) = slug preserve title := fun preserve h =>
    slug_congr_unwrap preserve (unwrap_eq_self_iff.mpr h)
  refine ⟨?_, hsame, ?_⟩
  · exact ⟨fun hslug h => slug_unwrap_ne h hslug, hsame false⟩
  · rintro pieces rfl hproper
    have hshown := unwrap_written hproper
    refine ⟨hshown, fun hbracket preserve => ?_⟩
    have hnone : '[' ∉ pieces.flatMap Piece.shown := by
      intro hmem
      obtain ⟨piece, hpiece, hmem⟩ := List.mem_flatMap.mp hmem
      exact hbracket piece hpiece hmem
    rw [← hshown]
    exact hsame preserve (hshown ▸ not_hasMarker_of_not_mem hnone)

/-- Two markers side by side do not show in the slug. -/
theorem slug_unwrap_eq_iff_pieces :
    slug false "Use Acme Save".toList = slug false "Use [!DNL Acme] [!UICONTROL Save]".toList := by
  let pieces : List Piece := [.plain "Use ".toList, .marker "[!DNL ".toList "Acme".toList,
    .plain " ".toList, .marker "[!UICONTROL ".toList "Save".toList]
  have hproper : ∀ piece ∈ pieces, piece.IsProper := by
    simp [pieces, Piece.IsProper, openings]
  have hbracket : ∀ piece ∈ pieces, '[' ∉ piece.shown := by
    simp [pieces, Piece.shown]
  have h := slug_unwrap_eq_iff "Use [!DNL Acme] [!UICONTROL Save]".toList
  exact (h.2.2 pieces rfl hproper).2 hbracket false

/-- What a marker wraps is not looked through again, so a marker inside it is left. -/
theorem slug_unwrap_ne_nested :
    ¬ ∀ title, slug false (unwrap title) = slug false title := by
  intro h
  have hslug := h "[!DNL [!UICONTROL Save]]".toList
  exact absurd hslug (by decide)

end Slug

end MarkdownCheck
