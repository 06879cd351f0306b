import Mathlib.Data.Bool.AllAny
import Mathlib.Data.List.Flatten
import MarkdownCheck.Proofs.Slug.Hyphens

/-!
# Canonical slugs

A slug in ASCII is made in many steps, and a text that could have been made in this way goes through
all of them as it is.

- `Unicode.decomposed_eq_self`, `Unicode.foldCase_eq_map`: normalization and case folding of ASCII.
- `Slug.asciiPunctuation`: the punctuation of ASCII; `Slug.isDropped_iff` says which of it is
  dropped.
- `Slug.IsShaped`: what slugs of every script have in common; by `Slug.slug_eq_untitled_or` every
  slug but `untitled` has it.
- `Slug.IsCanonical`: slugs in ASCII.
- `Slug.canonical_iff_slug_eq_self_and_range`: canonical texts are the slugs, and they are the texts
  that are their own slug.
-/

namespace MarkdownCheck

/-! ## ASCII text -/

/-- A property of the first 128 characters can be tested one by one. -/
theorem forall_ascii {p : Char → Prop} (h : ∀ n < 0x80, p (Char.ofNat n)) {c : Char}
    (hc : c.toNat < 0x80) : p c := by
  have hp := h c.toNat hc
  rwa [Char.ofNat_toNat] at hp

namespace Unicode

/-- Where no marks are, there is nothing to sort. -/
theorem sortMarks_eq_self {text : List Char} (h : ∀ c ∈ text, combiningClass c = 0) :
    sortMarks text = text := by
  have hfold : ∀ before : List Char, text.foldl (fun before c =>
      let value := combiningClass c
      if value = 0 then c :: before else insertMark c value before) before =
        text.reverse ++ before := by
    induction text with
    | nil =>
      intro before
      rfl
    | cons c rest ih =>
      intro before
      have hc : combiningClass c = 0 := h c List.mem_cons_self
      rw [List.foldl_cons]
      simp only [hc, if_true]
      rw [ih fun d hd => h d (List.mem_cons_of_mem _ hd), List.reverse_cons, List.append_assoc]
      rfl
  rw [sortMarks, hfold, List.append_nil, List.reverse_reverse]

/-- ASCII text decomposes into itself. -/
theorem decomposed_eq_self {text : List Char} (h : ∀ c ∈ text, c.toNat < 0x80) :
    decomposed text = text := by
  have hdecompose : (text.flatMap fun c => (decompose c).getD [c]) = text := by
    have hsingle : ∀ c ∈ text, (decompose c).getD [c] = [c] := by
      intro c hc
      have hlt : c.toNat < 0xA0 := Nat.lt_trans (h c hc) (by decide)
      rw [decompose, if_pos hlt, Option.getD_none]
    rw [List.flatMap_congr hsingle, List.flatMap_singleton']
  rw [decomposed, hdecompose]
  refine sortMarks_eq_self fun c hc => ?_
  have hlt : c.toNat < 0x300 := Nat.lt_trans (h c hc) (by decide)
  rw [combiningClass, if_pos hlt]

/-- ASCII text is folded letter by letter. -/
theorem foldCase_eq_map {text : List Char} (h : ∀ c ∈ text, c.toNat < 0x80) :
    foldCase text = text.map Char.toLower := by
  rw [foldCase, List.map_eq_flatMap]
  refine List.flatMap_congr fun c hc => ?_
  rw [foldChar, if_pos (h c hc)]

end Unicode

namespace Slug

/-! ## Punctuation -/

/-- The punctuation of ASCII. -/
def asciiPunctuation : Text :=
  ['!', '"', '#', '$', '%', '&', '\'', '(', ')', '*', '+', ',', '-', '.', '/', ':', ';', '<', '=',
    '>', '?', '@', '[', '\\', ']', '^', '_', '\x60', '\x7b', '|', '\x7d', '~']

theorem toNat_lt_of_isDropped {c : Char} (h : isDropped c) : c.toNat < 0x80 := by
  unfold isDropped at h
  have hle : ∀ d : Char, c ≤ d → d.toNat < 0x80 → c.toNat < 0x80 := fun d hcd hd =>
    Nat.lt_of_le_of_lt hcd hd
  simp only [Bool.and_eq_true, Bool.or_eq_true, decide_eq_true_eq] at h
  obtain ⟨-, ((⟨-, h⟩ | ⟨-, h⟩) | ⟨-, h⟩) | ⟨-, h⟩⟩ := h
  all_goals exact hle _ h (by decide)

/-- A slug drops the punctuation of ASCII, hyphens and underscores apart. -/
theorem isDropped_iff {c : Char} :
    isDropped c ↔ c ∈ asciiPunctuation ∧ c ≠ '-' ∧ c ≠ '_' := by
  by_cases hc : c.toNat < 0x80
  · refine forall_ascii (p := fun c => isDropped c ↔ c ∈ asciiPunctuation ∧ c ≠ '-' ∧ c ≠ '_') ?_ hc
    decide +kernel
  · have hall : ∀ d ∈ asciiPunctuation, d.toNat < 0x80 :=
      List.all_iff_forall_prop.mp (by decide)
    constructor
    · intro h
      exact absurd (toNat_lt_of_isDropped h) hc
    · rintro ⟨hmem, -⟩
      exact absurd (hall c hmem) hc

/-! ## The shape of slugs -/

/-- What slugs of every script have in common: words without punctuation, joined by hyphens. -/
structure IsShaped (text : Text) : Prop extends IsJoined text where
  ne_nil : text ≠ []
  eq_or_eq_of_mem_punctuation : ∀ c ∈ text, c ∈ asciiPunctuation → c = '-' ∨ c = '_'

theorem eq_or_eq_of_not_isDropped {c : Char} (h : ¬ isDropped c) (hmem : c ∈ asciiPunctuation) :
    c = '-' ∨ c = '_' := by
  by_cases hhyphen : c = '-'
  · exact .inl hhyphen
  · refine .inr (Classical.byContradiction fun hunderscore => ?_)
    exact h (isDropped_iff.mpr ⟨hmem, hhyphen, hunderscore⟩)

theorem not_isDropped_of_isShaped {text : Text} (h : IsShaped text) :
    ∀ c ∈ text, ¬ isDropped c := by
  intro c hc hdropped
  obtain ⟨hmem, hhyphen, hunderscore⟩ := isDropped_iff.mp hdropped
  rcases h.eq_or_eq_of_mem_punctuation c hc hmem with rfl | rfl
  · exact hhyphen rfl
  · exact hunderscore rfl

/-- A slug is `untitled` or consists of hyphens and of what the folded title is made of. -/
theorem slug_eq_untitled_or (preserve : Bool) (title : Text) :
    slug preserve title = untitled ∨
      IsShaped (slug preserve title) ∧
        ∀ c ∈ slug preserve title, c = '-' ∨ c ∈ fold preserve (unwrap title) := by
  rw [slug_eq]
  dsimp only
  split
  · exact .inl rfl
  · next hne =>
    right
    constructor
    · constructor
      case toIsJoined => exact isJoined_joinWords _
      case ne_nil => exact fun hnil => hne (List.isEmpty_iff.mpr hnil)
      case eq_or_eq_of_mem_punctuation =>
        intro c hc hmem
        rcases eq_or_mem_of_mem_joinWords hc with rfl | ⟨hword, -⟩
        · exact .inl rfl
        · have hkept : ¬ isDropped c := by simpa using (List.mem_filter.mp hword).2
          exact eq_or_eq_of_not_isDropped hkept hmem
    · intro c hc
      rcases eq_or_mem_of_mem_joinWords hc with rfl | ⟨hword, -⟩
      · exact .inl rfl
      · exact .inr (List.mem_of_mem_filter hword)

/-- A text of the shape of slugs that is folded already is its own slug. -/
theorem slug_eq_self_of_isShaped {preserve : Bool} {text : Text} (h : IsShaped text)
    (hfold : fold preserve (unwrap text) = text) : slug preserve text = text := by
  have hkeep : text.filter (!isDropped ·) = text := by
    rw [List.filter_eq_self]
    intro c hc
    simpa using not_isDropped_of_isShaped h c hc
  have hjoined : ¬ text.isEmpty := fun hempty => h.ne_nil (List.isEmpty_iff.mp hempty)
  rw [slug_eq, hfold, hkeep, joinWords_eq_self h.toIsJoined]
  exact if_neg hjoined

/-! ## Localization markers -/

/-- A text without brackets has no markers. -/
theorem unwrap_eq_self {text : Text} (h : '[' ∉ text) : unwrap text = text := by
  have hwithin : ∀ bound, unwrapWithin bound text = text := by
    intro bound
    induction bound generalizing text with
    | zero => rfl
    | succ bound ih =>
      cases text with
      | nil => rfl
      | cons c rest =>
        rw [List.mem_cons, not_or] at h
        have hnone (word : Text) : Text.dropPrefix? ('[' :: word) (c :: rest) = none := if_neg h.1
        have hmarker : afterMarker? (c :: rest) = none := by
          unfold afterMarker?
          exact congrArg₂ Option.or (hnone "!DNL ".toList) (hnone "!UICONTROL ".toList)
        rw [unwrapWithin, hmarker, Option.bind_none]
        show c :: unwrapWithin bound rest = c :: rest
        rw [ih h.2]
  exact hwithin text.length

theorem unwrap_of_isShaped {text : Text} (h : IsShaped text) : unwrap text = text := by
  refine unwrap_eq_self fun hbracket => ?_
  rcases h.eq_or_eq_of_mem_punctuation '[' hbracket (by decide) with heq | heq
  · cases heq
  · cases heq

/-! ## Slugs in ASCII -/

/-- A slug in ASCII, by its characters: not empty, without capitals, blanks and punctuation other
than hyphens and underscores, in which hyphens stand one by one and not at the ends. -/
structure IsCanonical (text : Text) : Prop extends IsShaped text where
  isAscii : ∀ c ∈ text, c.toNat < 0x80
  not_isUpper : ∀ c ∈ text, ¬ c.isUpper

/-- The small letter of an ASCII character, which may be the character itself. -/
theorem toLower_of_ascii {c : Char} (h : c.toNat < 0x80) :
    c.toLower.toNat < 0x80 ∧ ¬ c.toLower.isUpper ∧ (¬ c.isUpper → c.toLower = c) := by
  refine forall_ascii (p := fun c =>
    c.toLower.toNat < 0x80 ∧ ¬ c.toLower.isUpper ∧ (¬ c.isUpper → c.toLower = c)) ?_ h
  decide

/-- A folded title is ASCII without capitals, whatever the title is. -/
theorem ascii_of_mem_fold {title : Text} {c : Char} (h : c ∈ fold false title) :
    c.toNat < 0x80 ∧ ¬ c.isUpper := by
  have hfilter : ∀ d ∈ (Unicode.decomposed title).filter (·.toNat < 0x80), d.toNat < 0x80 := by
    intro d hd
    simpa using (List.mem_filter.mp hd).2
  have hfold : fold false title = ((Unicode.decomposed title).filter (·.toNat < 0x80)).map
      Char.toLower := Unicode.foldCase_eq_map hfilter
  rw [hfold] at h
  obtain ⟨d, hd, rfl⟩ := List.mem_map.mp h
  obtain ⟨hascii, hupper, -⟩ := toLower_of_ascii (hfilter d hd)
  exact ⟨hascii, hupper⟩

/-- ASCII text without capitals is folded already. -/
theorem fold_eq_self {text : Text} (hascii : ∀ c ∈ text, c.toNat < 0x80)
    (hupper : ∀ c ∈ text, ¬ c.isUpper) : fold false text = text := by
  have hkeep : text.filter (·.toNat < 0x80) = text := by
    rw [List.filter_eq_self]
    intro c hc
    exact decide_eq_true (hascii c hc)
  have hlower : text.map Char.toLower = text := by
    have hsame : ∀ c ∈ text, c.toLower = id c := fun c hc =>
      (toLower_of_ascii (hascii c hc)).2.2 (hupper c hc)
    rw [List.map_congr_left hsame, List.map_id]
  show Unicode.foldCase ((Unicode.decomposed text).filter (·.toNat < 0x80)) = text
  rw [Unicode.decomposed_eq_self hascii, hkeep, Unicode.foldCase_eq_map hascii, hlower]

theorem isCanonical_untitled : IsCanonical untitled := by
  have hsingle : IsSingle untitled := by
    unfold IsSingle
    decide
  constructor
  case isAscii => exact List.all_iff_forall_prop.mp (by decide)
  case not_isUpper => exact List.all_iff_forall_prop.mp (by decide)
  case toIsShaped =>
    constructor
    case ne_nil => decide
    case eq_or_eq_of_mem_punctuation => exact List.all_iff_forall_prop.mp (by decide)
    case toIsJoined =>
      constructor
      case not_isBlank => exact List.all_iff_forall_prop.mp (by decide)
      case not_doubled => exact isSingle_iff.mp hsingle
      case head?_ne => decide
      case getLast?_ne => decide

theorem isCanonical_slug (title : Text) : IsCanonical (slug false title) := by
  rcases slug_eq_untitled_or false title with huntitled | ⟨hshaped, hmem⟩
  · rw [huntitled]
    exact isCanonical_untitled
  · have hascii : ∀ c ∈ slug false title, c.toNat < 0x80 ∧ ¬ c.isUpper := by
      intro c hc
      rcases hmem c hc with rfl | hfolded
      · decide
      · exact ascii_of_mem_fold hfolded
    exact ⟨hshaped, fun c hc => (hascii c hc).1, fun c hc => (hascii c hc).2⟩

theorem slug_eq_self {text : Text} (h : IsCanonical text) : slug false text = text := by
  refine slug_eq_self_of_isShaped h.toIsShaped ?_
  rw [unwrap_of_isShaped h.toIsShaped]
  exact fold_eq_self h.isAscii h.not_isUpper

/-- **Canonical slugs.** The slug of every title is canonical. A text is canonical if and only if it
is its own slug, and if and only if it is the slug of some title. So the slug of a slug is the slug
itself. -/
theorem canonical_iff_slug_eq_self_and_range :
    (∀ title, IsCanonical (slug false title)) ∧
    (∀ text, IsCanonical text ↔ slug false text = text) ∧
    (∀ text, IsCanonical text ↔ ∃ title, slug false title = text) ∧
    ∀ title, slug false (slug false title) = slug false title := by
  have hself : ∀ text, IsCanonical text ↔ slug false text = text := by
    intro text
    constructor
    · exact slug_eq_self
    · intro h
      rw [← h]
      exact isCanonical_slug text
  have hagain : ∀ title, slug false (slug false title) = slug false title := fun title =>
    slug_eq_self (isCanonical_slug title)
  refine ⟨isCanonical_slug, hself, fun text => ?_, hagain⟩
  constructor
  · intro h
    exact ⟨text, slug_eq_self h⟩
  · rintro ⟨title, rfl⟩
    exact isCanonical_slug title

end Slug

end MarkdownCheck
