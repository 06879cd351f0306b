import Mathlib.Data.List.Chain
import MarkdownCheck.Slug

/-!
# Words joined by hyphens

The last steps of a slug put hyphens for blanks, merge runs of hyphens and drop those at the ends.
Each step leaves alone what the steps before have brought about, and does nothing to a text that is
in shape already.

- `Slug.hyphenate_eq_self`, `Slug.mergeHyphens_eq_self`, `Slug.trimHyphens_eq_self`: texts that a
  step leaves as they are.
- `Slug.joinWords`: the three steps together.
- `Slug.IsJoined`: no blanks, no two hyphens in a row, none at the ends.
- `Slug.isJoined_joinWords`, `Slug.joinWords_eq_self`: joined words have that shape, and a text of
  that shape stays as it is.
-/

namespace MarkdownCheck.Slug

/-! ## Hyphens for blanks -/

/-- What a hyphenated text consists of. -/
theorem eq_or_mem_of_mem_hyphenate {text : Text} {c : Char} (h : c ∈ hyphenate text) :
    c = '-' ∨ c ∈ text ∧ ¬ Text.isBlank c := by
  fun_induction hyphenate text with
  | case1 => cases h
  | case2 => exact .inl (List.mem_singleton.mp h)
  | case3 _ _ d rest _ ih =>
    exact (ih h).imp_right (And.imp_left (List.mem_cons_of_mem _))
  | case4 _ _ d rest _ ih =>
    rcases List.mem_cons.mp h with rfl | h
    · exact .inl rfl
    · exact (ih h).imp_right (And.imp_left (List.mem_cons_of_mem _))
  | case5 d rest hd ih =>
    rcases List.mem_cons.mp h with rfl | h
    · exact .inr ⟨List.mem_cons_self, hd⟩
    · exact (ih h).imp_right (And.imp_left (List.mem_cons_of_mem _))

theorem hyphenate_eq_self {text : Text} (h : ∀ c ∈ text, ¬ Text.isBlank c) :
    hyphenate text = text := by
  fun_induction hyphenate text with
  | case1 => rfl
  | case2 c hc => exact absurd hc (h c List.mem_cons_self)
  | case3 c hc => exact absurd hc (h c List.mem_cons_self)
  | case4 c hc => exact absurd hc (h c List.mem_cons_self)
  | case5 c rest _ ih => rw [ih fun d hd => h d (List.mem_cons_of_mem _ hd)]

/-! ## Runs of hyphens -/

/-- No two hyphens stand in a row. -/
def IsSingle (text : Text) : Prop :=
  text.IsChain fun c d => ¬ (c = '-' ∧ d = '-')

theorem isSingle_iff {text : Text} : IsSingle text ↔ ¬ ['-', '-'] <:+: text := by
  rw [IsSingle, List.isChain_iff_forall_rel_of_append_cons_cons]
  constructor
  · rintro h ⟨before, after, rfl⟩
    exact h (List.append_assoc before ['-', '-'] after) ⟨rfl, rfl⟩
  · rintro h c d before after rfl ⟨rfl, rfl⟩
    exact h ⟨before, after, by simp⟩

theorem mergeHyphens_sublist (text : Text) : (mergeHyphens text).Sublist text := by
  fun_induction mergeHyphens text with
  | case1 => exact .refl _
  | case2 => exact .refl _
  | case3 c d rest _ ih => exact ih.cons c
  | case4 c d rest _ ih => exact ih.cons_cons c

/-- What a text starts with is still there when its hyphens are merged. -/
theorem head?_mergeHyphens (text : Text) : (mergeHyphens text).head? = text.head? := by
  fun_induction mergeHyphens text with
  | case1 => rfl
  | case2 => rfl
  | case3 c d rest h ih => rw [ih, h.1, h.2]; rfl
  | case4 => rfl

theorem isSingle_mergeHyphens (text : Text) : IsSingle (mergeHyphens text) := by
  fun_induction mergeHyphens text with
  | case1 => exact .nil
  | case2 c => exact .singleton c
  | case3 _ _ _ _ ih => exact ih
  | case4 c d rest h ih =>
    refine List.isChain_cons.mpr ⟨fun e he => ?_, ih⟩
    rw [head?_mergeHyphens] at he
    obtain rfl : d = e := Option.some.inj he
    exact h

theorem mergeHyphens_eq_self {text : Text} (h : IsSingle text) : mergeHyphens text = text := by
  fun_induction mergeHyphens text with
  | case1 => rfl
  | case2 => rfl
  | case3 c d rest hboth => exact absurd hboth (List.isChain_cons_cons.mp h).1
  | case4 c d rest _ ih => rw [ih (List.isChain_cons_cons.mp h).2]

/-! ## Hyphens at the ends -/

theorem isPrefix_trimHyphens (text : Text) :
    trimHyphens text <+: text.dropWhile (· = '-') := by
  rw [trimHyphens, ← List.reverse_suffix, List.reverse_reverse]
  exact List.dropWhile_suffix _

theorem isInfix_trimHyphens (text : Text) : trimHyphens text <:+: text :=
  (isPrefix_trimHyphens text).isInfix.trans (List.dropWhile_suffix _).isInfix

/-- What is left behind leading hyphens starts with something else. -/
theorem head?_dropWhile_hyphen_ne (text : Text) : (text.dropWhile (· = '-')).head? ≠ some '-' := by
  intro h
  have hnot := List.head?_dropWhile_not (· = '-') text
  rw [h] at hnot
  simp at hnot

theorem head?_trimHyphens_ne (text : Text) : (trimHyphens text).head? ≠ some '-' := by
  intro h
  obtain ⟨dropped, hwhole⟩ := isPrefix_trimHyphens text
  refine head?_dropWhile_hyphen_ne text ?_
  rw [← hwhole, List.head?_append, h, Option.some_or]

theorem getLast?_trimHyphens_ne (text : Text) : (trimHyphens text).getLast? ≠ some '-' := by
  rw [trimHyphens, List.getLast?_reverse]
  exact head?_dropWhile_hyphen_ne _

theorem dropWhile_hyphen_eq_self {text : Text} (h : text.head? ≠ some '-') :
    text.dropWhile (· = '-') = text := by
  cases text with
  | nil => rfl
  | cons c rest =>
    have hc : ¬ decide (c = '-') = true := by simpa using h
    exact List.dropWhile_cons_of_neg hc

theorem trimHyphens_eq_self {text : Text} (hfront : text.head? ≠ some '-')
    (hback : text.getLast? ≠ some '-') : trimHyphens text = text := by
  have hreverse : text.reverse.head? ≠ some '-' := by
    rw [List.head?_reverse]
    exact hback
  rw [trimHyphens, dropWhile_hyphen_eq_self hfront, dropWhile_hyphen_eq_self hreverse,
    List.reverse_reverse]

/-! ## All three steps -/

/-- Words joined by single hyphens. -/
def joinWords (words : Text) : Text :=
  trimHyphens (mergeHyphens (hyphenate words))

/-- A text without blanks, in which hyphens stand one by one and not at the ends. -/
structure IsJoined (text : Text) : Prop where
  not_isBlank : ∀ c ∈ text, ¬ Text.isBlank c
  not_doubled : ¬ ['-', '-'] <:+: text
  head?_ne : text.head? ≠ some '-'
  getLast?_ne : text.getLast? ≠ some '-'

/-- Joined words have nothing but hyphens that the words did not have. -/
theorem eq_or_mem_of_mem_joinWords {words : Text} {c : Char} (h : c ∈ joinWords words) :
    c = '-' ∨ c ∈ words ∧ ¬ Text.isBlank c :=
  eq_or_mem_of_mem_hyphenate ((mergeHyphens_sublist _).subset ((isInfix_trimHyphens _).subset h))

theorem isJoined_joinWords (words : Text) : IsJoined (joinWords words) := by
  constructor
  case not_isBlank =>
    intro c hc
    rcases eq_or_mem_of_mem_joinWords hc with rfl | ⟨-, hblank⟩
    · decide
    · exact hblank
  case not_doubled =>
    rw [← isSingle_iff]
    exact List.IsChain.infix (isSingle_mergeHyphens _) (isInfix_trimHyphens _)
  case head?_ne => exact head?_trimHyphens_ne _
  case getLast?_ne => exact getLast?_trimHyphens_ne _

theorem joinWords_eq_self {text : Text} (h : IsJoined text) : joinWords text = text := by
  rw [joinWords, hyphenate_eq_self h.not_isBlank,
    mergeHyphens_eq_self (isSingle_iff.mpr h.not_doubled),
    trimHyphens_eq_self h.head?_ne h.getLast?_ne]

theorem slug_eq (preserve : Bool) (title : Text) :
    slug preserve title =
      let joined := joinWords ((fold preserve (unwrap title)).filter (!isDropped ·))
      if joined.isEmpty then untitled else joined :=
  rfl

end MarkdownCheck.Slug
