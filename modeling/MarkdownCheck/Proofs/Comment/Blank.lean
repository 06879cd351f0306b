import MarkdownCheck.Comment
import MarkdownCheck.Proofs.Text.Find

/-!
# Interiors and their blanks

- `Comment.WellFormed`: the interiors that may be blanked; `Comment.isBlankable_iff` says that the
  test is right.
- `Comment.Blanks`: what the blanks for an interior are, place by place; `Comment.blanks_iff` says
  that `Comment.blank` writes them.
- `Comment.blank_blank`: blanks stand for themselves.
- `Comment.AlreadyBlanked`: the interiors that run to the end and are blanked already.
-/

namespace MarkdownCheck.Comment

/-! ## Well-formed interiors -/

/-- An interior that is not empty, does not start with `>`, does not end with a dash and has no two
dashes together. -/
structure WellFormed (interior : Text) : Prop where
  ne_nil : interior ≠ []
  not_start : ¬ ['>'] <+: interior
  not_end : ¬ ['-'] <:+ interior
  no_dashes : ¬ ['-', '-'] <:+: interior

theorem isBlankable_iff {interior : Text} : isBlankable interior = true ↔ WellFormed interior := by
  have hstart : ['>'] <+: interior ↔ interior.head? = some '>' := by
    cases interior with
    | nil => simp
    | cons c rest => simp [eq_comm]
  have hend : ['-'] <:+ interior ↔ interior.getLast? = some '-' := by
    rw [List.getLast?_eq_some_iff]
    exact exists_congr fun _ => eq_comm
  rw [isBlankable, Bool.and_eq_true, Bool.and_eq_true, Bool.and_eq_true, Bool.not_eq_true',
    Bool.not_eq_true', List.isEmpty_eq_false_iff, decide_eq_true_eq, decide_eq_true_eq,
    ← Bool.not_eq_true, Text.includes_iff]
  constructor
  · rintro ⟨⟨⟨hne, hs⟩, he⟩, hd⟩
    exact ⟨hne, mt hstart.mp hs, mt hend.mp he, hd⟩
  · rintro ⟨hne, hs, he, hd⟩
    exact ⟨⟨⟨hne, mt hstart.mpr hs⟩, mt hend.mpr he⟩, hd⟩

/-! ## Blanks -/

/-- The text that is shown for an interior: line ends stay, a character in front of a line end
becomes the escape mark, and every other character becomes a space. -/
structure Blanks (interior shown : Text) : Prop where
  length_eq : shown.length = interior.length
  lineEnd : ∀ {i : Nat} {c : Char}, interior[i]? = some c → Text.isLineEnd c → shown[i]? = some c
  beforeLineEnd : ∀ {i : Nat} {c d : Char}, interior[i]? = some c → ¬ Text.isLineEnd c →
    interior[i + 1]? = some d → Text.isLineEnd d → shown[i]? = some escapeMark
  other : ∀ {i : Nat} {c : Char}, interior[i]? = some c → ¬ Text.isLineEnd c →
    (∀ d, interior[i + 1]? = some d → ¬ Text.isLineEnd d) → shown[i]? = some ' '

/-- An interior has only one text of blanks. -/
theorem Blanks.unique {interior shown other : Text} (h : Blanks interior shown)
    (h' : Blanks interior other) : shown = other := by
  refine List.ext_getElem? fun i => ?_
  cases hc : interior[i]? with
  | none =>
    rw [List.getElem?_eq_none_iff] at hc
    rw [List.getElem?_eq_none (h.length_eq ▸ hc), List.getElem?_eq_none (h'.length_eq ▸ hc)]
  | some c =>
    by_cases hend : Text.isLineEnd c
    · rw [h.lineEnd hc hend, h'.lineEnd hc hend]
    · -- the last two fields share out the places where no line end stands
      by_cases hnext : ∃ d, interior[i + 1]? = some d ∧ Text.isLineEnd d
      · obtain ⟨d, hd, hdend⟩ := hnext
        rw [h.beforeLineEnd hc hend hd hdend, h'.beforeLineEnd hc hend hd hdend]
      · have hnone : ∀ d, interior[i + 1]? = some d → ¬ Text.isLineEnd d :=
          fun d hd hdend => hnext ⟨d, hd, hdend⟩
        rw [h.other hc hend hnone, h'.other hc hend hnone]

theorem getElem?_blank (interior : Text) (i : Nat) :
    (blank interior)[i]? = interior[i]?.map fun c =>
      if Text.isLineEnd c then c
      else if interior[i + 1]?.any Text.isLineEnd then escapeMark
      else ' ' := by
  induction interior generalizing i with
  | nil => rfl
  | cons c rest ih =>
    cases i with
    | zero => simp [blank, List.head?_eq_getElem?]
    | succ i => simpa [blank] using ih i

theorem blanks_blank (interior : Text) : Blanks interior (blank interior) where
  length_eq := length_blank interior
  lineEnd hc hend := by
    rw [getElem?_blank, hc, Option.map_some, if_pos hend]
  beforeLineEnd hc hend hd hdend := by
    rw [getElem?_blank, hc, Option.map_some, if_neg hend, hd, if_pos (by exact hdend)]
  other {i c} hc hend hnone := by
    have hany : ¬ interior[i + 1]?.any Text.isLineEnd := by
      rw [Option.any_eq_true_iff_get]
      rintro ⟨hd, hdend⟩
      exact hnone _ (Option.some_get hd).symm hdend
    rw [getElem?_blank, hc, Option.map_some, if_neg hend, if_neg hany]

/-- The blanks that are written are those that stand for the interior. -/
theorem blanks_iff {interior shown : Text} : Blanks interior shown ↔ shown = blank interior := by
  constructor
  · intro h
    exact h.unique (blanks_blank interior)
  · rintro rfl
    exact blanks_blank interior

/-- The characters of blanks: line ends, escape marks and spaces. -/
def IsBlankChar (c : Char) : Prop :=
  Text.isLineEnd c ∨ c = escapeMark ∨ c = ' '

instance : DecidablePred IsBlankChar :=
  fun c => inferInstanceAs (Decidable (Text.isLineEnd c ∨ c = escapeMark ∨ c = ' '))

theorem isBlankChar_of_mem_blank {interior : Text} {c : Char} (h : c ∈ blank interior) :
    IsBlankChar c := by
  induction interior with
  | nil => cases h
  | cons d rest ih =>
    rw [blank, List.mem_cons] at h
    rcases h with rfl | h
    · split
      · next hend => exact .inl hend
      · split
        · exact .inr (.inl rfl)
        · exact .inr (.inr rfl)
    · exact ih h

/-- Blanks stand for themselves. -/
theorem blank_blank (interior : Text) : blank (blank interior) = blank interior := by
  -- whether a line end comes next is all that blanks depend on, and blanks keep line ends
  have hhead (rest : Text) : (blank rest).head?.any Text.isLineEnd =
      rest.head?.any Text.isLineEnd := by
    cases rest with
    | nil => rfl
    | cons c rest =>
      by_cases hend : Text.isLineEnd c
      · simp [blank, hend]
      · have hmark : Text.isLineEnd escapeMark = false := rfl
        have hspace : Text.isLineEnd ' ' = false := rfl
        cases hrest : rest.head?.any Text.isLineEnd <;>
          simp [blank, hend, hrest, hmark, hspace]
  induction interior with
  | nil => rfl
  | cons c rest ih =>
    rw [blank, blank, hhead, ih]
    congr 1
    by_cases hend : Text.isLineEnd c
    · simp [hend]
    · cases hrest : rest.head?.any Text.isLineEnd <;> simp [hend]

/-! ## Interiors that are blanked already -/

/-- Blanks that stand for themselves, with the escape mark behind them. -/
def AlreadyBlanked (interior : Text) : Prop :=
  ∃ front, Blanks front front ∧ interior = front ++ [escapeMark]

theorem isBlanked_iff {interior : Text} : isBlanked interior = true ↔ AlreadyBlanked interior := by
  rw [isBlanked, Bool.and_eq_true, decide_eq_true_eq, decide_eq_true_eq,
    List.getLast?_eq_some_iff]
  constructor
  · rintro ⟨⟨front, rfl⟩, hblank⟩
    rw [List.dropLast_concat, List.append_cancel_right_eq] at hblank
    exact ⟨front, blanks_iff.mpr hblank.symm, rfl⟩
  · rintro ⟨front, hblank, rfl⟩
    rw [List.dropLast_concat, ← blanks_iff.mp hblank]
    exact ⟨⟨front, rfl⟩, rfl⟩

/-- What is written for an interior that runs to the end is blanked already. -/
theorem alreadyBlanked_blank (interior : Text) :
    AlreadyBlanked (blank interior ++ [escapeMark]) :=
  ⟨blank interior, blanks_iff.mpr (blank_blank interior).symm, rfl⟩

end MarkdownCheck.Comment
