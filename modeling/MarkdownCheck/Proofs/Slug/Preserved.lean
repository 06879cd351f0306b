import MarkdownCheck.Proofs.Slug.Weight

/-!
# Slugs in the script of the title

Where the script of a title is preserved, slugs have the shape of all slugs, but the slug of a slug
may be another one: a title is folded once, before its punctuation is dropped, and what is left can
be folded further.

- `Slug.slug_preserved_eq_self_iff`: the texts that are their own slug are those of the shape of
  slugs that are folded already.
- `Slug.isShaped_and_slug_slug_iff`: every slug has that shape, so it is its own slug if and only if
  it is folded.
-/

namespace MarkdownCheck.Slug

open Unicode

theorem isShaped_slug (preserve : Bool) (title : Text) : IsShaped (slug preserve title) := by
  rcases slug_eq_untitled_or preserve title with huntitled | ⟨hshaped, -⟩
  · rw [huntitled]
    exact isCanonical_untitled.toIsShaped
  · exact hshaped

/-- A text that is its own slug is folded: a step that changed it would take weight away for
good. -/
theorem fold_eq_self_of_slug_eq_self {text : Text} (h : slug true text = text) :
    fold true text = text := by
  have hshaped : IsShaped text := by
    rw [← h]
    exact isShaped_slug true text
  rw [slug_eq, unwrap_of_isShaped hshaped] at h
  dsimp only at h
  split at h
  · -- nothing was left, so the text is the slug of a title without words
    rw [← h]
    decide +kernel
  · rcases isLighter_joinWords (fold true text) with heq | hlt
    · rw [← heq, h]
    · rw [h, textWeight_fold] at hlt
      exact absurd hlt (Nat.lt_irrefl _)

/-- The texts that are their own slug are those of the shape of slugs that are folded already. -/
theorem slug_preserved_eq_self_iff (text : Text) :
    slug true text = text ↔ IsShaped text ∧ foldCase (composed text) = text := by
  constructor
  · intro h
    refine ⟨?_, fold_eq_self_of_slug_eq_self h⟩
    rw [← h]
    exact isShaped_slug true text
  · rintro ⟨hshaped, hfold⟩
    refine slug_eq_self_of_isShaped hshaped ?_
    rw [unwrap_of_isShaped hshaped]
    exact hfold

/-- **Slugs in the script of the title.** The slug of a title has the shape of slugs: not empty,
without blanks and punctuation other than hyphens and underscores, no two hyphens in a row and none
at the ends. A title is its own slug if and only if it has this shape and folding leaves it as it
is, so the slug of a slug is the slug itself if and only if folding leaves that as it is. -/
theorem isShaped_and_slug_slug_iff (title : Text) :
    IsShaped (slug true title) ∧
    (slug true title = title ↔ IsShaped title ∧ foldCase (composed title) = title) ∧
    (slug true (slug true title) = slug true title ↔
      foldCase (composed (slug true title)) = slug true title) := by
  have hshaped := isShaped_slug true title
  refine ⟨hshaped, slug_preserved_eq_self_iff title, ?_⟩
  rw [slug_preserved_eq_self_iff]
  exact and_iff_right hshaped

/-- The mark after a dropped sign comes to stand behind a letter that it composes with. -/
theorem slug_slug_ne_dropped_sign :
    ¬ ∀ title, slug true (slug true title) = slug true title := by
  intro h
  have hslug := h "a!\u0301".toList
  exact absurd hslug (by decide +kernel)

/-- Without a sign to drop: a small letter composes with a mark that its capital does not compose
with, and is folded into the two again, this time with the other mark behind them. -/
example : slug true "J\u0323\u030C".toList = "j\u0323\u030C".toList ∧
    slug true "j\u0323\u030C".toList = "j\u030C\u0323".toList := by
  decide +kernel

end MarkdownCheck.Slug
