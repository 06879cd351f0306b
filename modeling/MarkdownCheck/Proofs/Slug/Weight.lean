import Mathlib.Algebra.GroupWithZero.Nat
import Mathlib.Algebra.BigOperators.Group.List.Basic
import MarkdownCheck.Proofs.Files.Utf8
import MarkdownCheck.Proofs.Lookup
import MarkdownCheck.Proofs.Slug.Letters

/-!
# The weight of a title

What a slug does not keep is given a weight: punctuation, hyphens and, twice as much, blanks, which
become hyphens first. A character weighs what it decomposes into. Normalization and case folding
leave the weight of a text as it is, while each of the other steps changes nothing or takes weight
away.

- `Slug.weight`, `Slug.fullWeight`, `Slug.textWeight`: the weights of a character that stands for
  itself, of any character, and of a text.
- `Slug.isHeavy`: the characters that may have a weight. By `Slug.all_isLightBut`,
  `Slug.all_isBalanced` and `Slug.all_isLight`, the tables keep them apart from the others.
- `Slug.textWeight_fold`: folding keeps the weight of a text.
- `Slug.isLighter_joinWords`: the words of a slug are the text that they are taken from or weigh
  less.
-/

namespace MarkdownCheck

namespace Slug

open Unicode

/-! ## Weights -/

/-- The weight of a character that stands for itself. -/
def weight (c : Char) : Nat :=
  if Text.isBlank c then 2 else if isDropped c || c = '-' then 1 else 0

/-- The weight of what a character decomposes into. -/
def fullWeight (c : Char) : Nat :=
  (((decompose c).getD [c]).map weight).sum

/-- The weight of what a text decomposes into. -/
def textWeight (text : Text) : Nat :=
  (text.map fullWeight).sum

@[simp] theorem textWeight_nil : textWeight [] = 0 := rfl

@[simp] theorem textWeight_cons (c : Char) (text : Text) :
    textWeight (c :: text) = fullWeight c + textWeight text :=
  List.sum_cons

theorem textWeight_append (front text : Text) :
    textWeight (front ++ text) = textWeight front + textWeight text := by
  rw [textWeight, List.map_append, List.sum_append]
  rfl

theorem textWeight_perm {text other : Text} (h : text.Perm other) :
    textWeight text = textWeight other :=
  (h.map fullWeight).sum_eq

theorem textWeight_reverse (text : Text) : textWeight text.reverse = textWeight text :=
  textWeight_perm (List.reverse_perm text)

/-- Whether the character with this code may have a weight. Beyond ASCII, the characters that have
blanks or punctuation in their decompositions are among these, and no character that is part of a
decomposition. -/
def isHeavy (n : Nat) : Bool :=
  if n < 0x80 then n < 0x30 || (0x3A ≤ n && n ≤ 0x40) || (0x5B ≤ n && n ≤ 0x60) || 0x7B ≤ n
  else if n < 0x1F00 then
    n = 0x85 || n = 0xA0 || n = 0xA8 || n = 0xAF || n = 0xB4 || n = 0xB8
      || (0x2D8 ≤ n && n ≤ 0x2DD) || n = 0x37A || n = 0x37E || n = 0x384 || n = 0x385 || n = 0x1680
  else if n < 0x3400 then
    n = 0x1FBD || (0x1FBF ≤ n && n ≤ 0x1FC1) || (0x1FCD ≤ n && n ≤ 0x1FCF)
      || (0x1FDD ≤ n && n ≤ 0x1FDF) || (0x1FED ≤ n && n ≤ 0x1FEF) || (0x1FFD ≤ n && n ≤ 0x200A)
      || (0x2017 ≤ n && n ≤ 0x202F) || (0x203C ≤ n && n ≤ 0x203E) || (0x2047 ≤ n && n ≤ 0x208E)
      || (0x2100 ≤ n && n ≤ 0x2106) || n = 0x2260 || n = 0x226E || n = 0x226F
      || (0x2474 ≤ n && n ≤ 0x24B5) || (0x2A74 ≤ n && n ≤ 0x2A76) || n = 0x3000 || n = 0x309B
      || n = 0x309C || (0x3200 ≤ n && n ≤ 0x33D8)
  else
    0xFB29 ≤ n && (n ≤ 0xFF20 || (0xFF3B ≤ n && n ≤ 0xFF40) || (0xFF5B ≤ n && n ≤ 0xFFE3)
      || (0x1F100 ≤ n && n ≤ 0x1F129))

theorem isHeavy_of_isBlank {c : Char} (h : Text.isBlank c) : isHeavy c.toNat := by
  unfold Text.isBlank at h
  unfold isHeavy
  simp only [Bool.or_eq_true, Bool.and_eq_true, decide_eq_true_eq] at h
  split
  · simp only [Bool.or_eq_true, Bool.and_eq_true, decide_eq_true_eq]
    omega
  · split
    · simp only [Bool.or_eq_true, Bool.and_eq_true, decide_eq_true_eq]
      omega
    · split
      · simp only [Bool.or_eq_true, Bool.and_eq_true, decide_eq_true_eq]
        omega
      · omega

theorem weight_eq_zero {c : Char} (h : isHeavy c.toNat = false) : weight c = 0 := by
  have hblank : ¬ Text.isBlank c := by
    intro hc
    rw [isHeavy_of_isBlank hc] at h
    cases h
  have hother : ¬ (isDropped c || c = '-') := by
    intro hc
    have hascii : c.toNat < 0x80 := by
      rcases (Bool.or_eq_true _ _).mp hc with hdropped | hhyphen
      · exact toNat_lt_of_isDropped hdropped
      · rw [of_decide_eq_true hhyphen]
        decide
    have hheavy : (isDropped c || c = '-') → isHeavy c.toNat :=
      forall_ascii (p := fun c => (isDropped c || c = '-') → isHeavy c.toNat) (by decide) hascii
    rw [hheavy hc] at h
    cases h
  rw [weight, if_neg hblank, if_neg hother]

/-! ## What the tables hold -/

/-- Whether a decomposition is free of heavy characters, ASCII in that of a heavy one apart. -/
def isLightBut (entry : Nat) : Bool :=
  (unpack longestEntry (entry / 0x1000000)).all fun d =>
    !isHeavy d.toNat || (d.toNat < 0x80 && isHeavy (entry % 0x1000000))

theorem all_isLightBut : ∀ row ∈ decompositions, ∀ entry ∈ row.2, isLightBut entry := by
  decide +kernel

/-- Whether a pair and its composite have the same weight. -/
def isBalanced (entry : Nat) : Bool :=
  let first := Char.ofNat (entry % 0x1000000)
  match unpack longestEntry (entry / 0x1000000) with
  | [second, whole] =>
    (!isHeavy first.toNat && !isHeavy second.toNat && !isHeavy whole.toNat)
      || fullWeight whole = fullWeight first + fullWeight second
  | _ => true

theorem all_isBalanced : ∀ row ∈ compositions, ∀ entry ∈ row.2, isBalanced entry := by
  decide +kernel

/-- Whether neither a character nor what it is folded to is heavy. -/
def isLight (entry : Nat) : Bool :=
  !isHeavy (entry % 0x1000000)
    && (unpack longestEntry (entry / 0x1000000)).all (!isHeavy ·.toNat)

theorem all_isLight : ∀ row ∈ caseFoldings, ∀ entry ∈ row.2, isLight entry := by
  decide +kernel

/-! ## Decompositions -/

theorem isHeavy_of_hangul {n : Nat} (h : (0x1100 ≤ n ∧ n < 0x11C3) ∨ (0xAC00 ≤ n ∧ n ≤ 0xD7A3)) :
    isHeavy n = false := by
  unfold isHeavy
  rcases h with h | h
  · rw [if_neg (by omega), if_pos (by omega)]
    simp only [Bool.or_eq_false_iff, Bool.and_eq_false_iff, decide_eq_false_iff_not]
    omega
  · rw [if_neg (by omega), if_neg (by omega), if_neg (by omega)]
    simp only [Bool.and_eq_false_iff, decide_eq_false_iff_not]
    omega

theorem isHeavy_ofNat_of_hangul {n : Nat}
    (h : (0x1100 ≤ n ∧ n < 0x11C3) ∨ (0xAC00 ≤ n ∧ n ≤ 0xD7A3)) :
    isHeavy (Char.ofNat n).toNat = false := by
  rw [Utf8.toNat_ofNat (.inl (by omega))]
  exact isHeavy_of_hangul h

theorem isHeavy_of_mem_hangulLetters {number : Nat} {d : Char} (h : number < 11172)
    (hd : d ∈ hangulLetters number) : isHeavy d.toNat = false := by
  have hlead : number / 588 < 0x13 := by omega
  have hvowel : number % 588 / 28 < 0x15 := by omega
  have htail : number % 28 < 0x1C := by omega
  unfold hangulLetters at hd
  dsimp only at hd
  split at hd
  · simp only [List.mem_cons, List.not_mem_nil, or_false] at hd
    rcases hd with rfl | rfl
    · exact isHeavy_ofNat_of_hangul (.inl (by omega))
    · exact isHeavy_ofNat_of_hangul (.inl (by omega))
  · simp only [List.mem_cons, List.not_mem_nil, or_false] at hd
    rcases hd with rfl | rfl | rfl
    · exact isHeavy_ofNat_of_hangul (.inl (by omega))
    · exact isHeavy_ofNat_of_hangul (.inl (by omega))
    · exact isHeavy_ofNat_of_hangul (.inl (by omega))

/-- The parts of a character are light, but for ASCII that makes up heavy characters. -/
theorem light_or_ascii_of_mem_decompose {c d : Char} {parts : List Char}
    (h : decompose c = some parts) (hd : d ∈ parts) :
    isHeavy d.toNat = false ∨ d.toNat < 0x80 ∧ isHeavy c.toNat := by
  unfold decompose at h
  split at h
  · cases h
  · split at h
    · next hsyllable =>
      obtain rfl := Option.some.inj h
      exact .inl (isHeavy_of_mem_hangulLetters (by omega) hd)
    · obtain ⟨row, hrow, entry, hentry, hkey, rfl⟩ := PackedTable.exists_of_find? h
      have hlight := List.all_eq_true.mp (all_isLightBut row hrow entry hentry) d hd
      rw [hkey] at hlight
      simpa using hlight

/-- A light character has no weight, whatever it decomposes into. -/
theorem fullWeight_eq_zero {c : Char} (h : isHeavy c.toNat = false) : fullWeight c = 0 := by
  refine List.sum_eq_zero fun n hn => ?_
  obtain ⟨d, hd, rfl⟩ := List.mem_map.mp hn
  cases hparts : decompose c with
  | none =>
    rw [hparts, Option.getD_none, List.mem_singleton] at hd
    rw [hd]
    exact weight_eq_zero h
  | some parts =>
    rw [hparts, Option.getD_some] at hd
    rcases light_or_ascii_of_mem_decompose hparts hd with hlight | ⟨-, hheavy⟩
    · exact weight_eq_zero hlight
    · rw [h] at hheavy
      cases hheavy

theorem fullWeight_of_decompose_eq_none {c : Char} (h : decompose c = none) :
    fullWeight c = weight c := by
  rw [fullWeight, h, Option.getD_none, List.map_singleton, List.sum_singleton]

/-- Characters of ASCII stand for themselves. -/
theorem fullWeight_ascii {c : Char} (h : c.toNat < 0x80) : fullWeight c = weight c := by
  refine fullWeight_of_decompose_eq_none ?_
  unfold decompose
  exact if_pos (Nat.lt_trans h (by decide))

/-- What a character decomposes into stands for itself, as far as weights go. -/
theorem fullWeight_of_mem_decompose {c d : Char} (h : d ∈ (decompose c).getD [c]) :
    fullWeight d = weight d := by
  cases hparts : decompose c with
  | none =>
    rw [hparts, Option.getD_none, List.mem_singleton] at h
    rw [h]
    exact fullWeight_of_decompose_eq_none hparts
  | some parts =>
    rw [hparts, Option.getD_some] at h
    rcases light_or_ascii_of_mem_decompose hparts h with hlight | ⟨hascii, -⟩
    · rw [fullWeight_eq_zero hlight, weight_eq_zero hlight]
    · exact fullWeight_ascii hascii

theorem textWeight_decomposed (text : Text) : textWeight (decomposed text) = textWeight text := by
  have hparts : textWeight (text.flatMap fun c => (decompose c).getD [c]) = textWeight text := by
    induction text with
    | nil => rfl
    | cons c rest ih =>
      have hhead : textWeight ((decompose c).getD [c]) = fullWeight c := by
        rw [textWeight, fullWeight]
        congr 1
        exact List.map_congr_left fun d hd => fullWeight_of_mem_decompose hd
      rw [List.flatMap_cons, textWeight_append, hhead, ih, textWeight_cons]
  rw [decomposed, textWeight_perm (sortMarks_perm _), hparts]

/-! ## Compositions -/

theorem isHeavy_of_composeHangul {first second : Nat} {whole : Char}
    (h : composeHangul first second = some whole) :
    isHeavy first = false ∧ isHeavy second = false ∧ isHeavy whole.toNat = false := by
  unfold composeHangul at h
  split at h
  · obtain rfl := Option.some.inj h
    exact ⟨isHeavy_of_hangul (by omega), isHeavy_of_hangul (by omega),
      isHeavy_ofNat_of_hangul (by omega)⟩
  · split at h
    · obtain rfl := Option.some.inj h
      exact ⟨isHeavy_of_hangul (by omega), isHeavy_of_hangul (by omega),
        isHeavy_ofNat_of_hangul (by omega)⟩
    · cases h

/-- Two characters weigh together what they compose to. -/
theorem fullWeight_compose {first second whole : Char} (h : compose first second = some whole) :
    fullWeight whole = fullWeight first + fullWeight second := by
  have hlight : isHeavy first.toNat = false → isHeavy second.toNat = false →
      isHeavy whole.toNat = false → fullWeight whole = fullWeight first + fullWeight second := by
    intro hfirst hsecond hwhole
    rw [fullWeight_eq_zero hfirst, fullWeight_eq_zero hsecond, fullWeight_eq_zero hwhole]
  unfold compose at h
  split at h
  · next c hhangul =>
    cases h
    obtain ⟨hfirst, hsecond, hwhole⟩ := isHeavy_of_composeHangul hhangul
    exact hlight hfirst hsecond hwhole
  · obtain ⟨held, hheld, hpair⟩ := List.exists_of_findSome?_eq_some h
    obtain ⟨row, hrow, entry, hentry, hkey, hunpack⟩ := PackedTable.exists_of_mem_findAll hheld
    have hbalanced := all_isBalanced row hrow entry hentry
    split at hpair
    · next b c =>
      -- the entry was looked up for the first character, so it is balanced with this one
      rw [isBalanced, hunpack, hkey, Char.ofNat_toNat] at hbalanced
      split at hpair
      · next hb =>
        cases hpair
        cases hb
        simp only [Bool.or_eq_true, Bool.and_eq_true, Bool.not_eq_true', decide_eq_true_eq]
          at hbalanced
        rcases hbalanced with ⟨⟨hfirst, hsecond⟩, hwhole⟩ | heq
        · exact hlight hfirst hsecond hwhole
        · exact heq
      · cases hpair
    · cases hpair

theorem textWeight_flush (state : Composing) :
    textWeight state.flush =
      textWeight state.waiting + textWeight state.base.toList + textWeight state.settled := by
  rw [Composing.flush, textWeight_append, textWeight_append, Nat.add_assoc]

/-- Reading one character adds its weight, whether it composes or not. -/
theorem textWeight_push (state : Composing) (c : Char) :
    textWeight (state.push c).flush = textWeight state.flush + fullWeight c := by
  unfold Composing.push
  dsimp only
  split
  · next whole hwhole =>
    obtain ⟨base, hbase, hcompose⟩ := Option.bind_eq_some_iff.mp hwhole
    split at hcompose
    · -- the composite takes the place of the base
      have hsum := fullWeight_compose hcompose
      rw [textWeight_flush, textWeight_flush, hbase]
      simp only [Option.toList_some, textWeight_cons, textWeight_nil, hsum]
      omega
    · cases hcompose
  · split
    · rw [textWeight_flush]
      simp only [Option.toList_some, textWeight_cons, textWeight_nil]
      omega
    · rw [textWeight_flush, textWeight_flush]
      simp only [textWeight_cons]
      omega

theorem textWeight_recompose (text : Text) : textWeight (recompose text) = textWeight text := by
  have hread : ∀ state : Composing,
      textWeight (text.foldl Composing.push state).flush =
        textWeight state.flush + textWeight text := by
    induction text with
    | nil =>
      intro state
      rfl
    | cons c rest ih =>
      intro state
      rw [List.foldl_cons, ih, textWeight_push, textWeight_cons, Nat.add_assoc]
  rw [recompose, textWeight_reverse, hread]
  exact Nat.zero_add _

/-! ## Folding -/

theorem textWeight_foldChar (c : Char) : textWeight (foldChar c) = fullWeight c := by
  have hsingle : ∀ d : Char, textWeight [d] = fullWeight d := fun d => Nat.add_zero _
  unfold foldChar
  split
  · next hascii =>
    rw [hsingle]
    exact forall_ascii (p := fun c => fullWeight c.toLower = fullWeight c) (by decide) hascii
  · cases hfold : caseFoldings.find? c with
    | none =>
      rw [Option.getD_none, hsingle]
    | some folded =>
      obtain ⟨row, hrow, entry, hentry, hkey, rfl⟩ := PackedTable.exists_of_find? hfold
      have hlight := all_isLight row hrow entry hentry
      rw [isLight, hkey, Bool.and_eq_true, Bool.not_eq_true', List.all_eq_true] at hlight
      rw [Option.getD_some, fullWeight_eq_zero hlight.1]
      refine List.sum_eq_zero fun n hn => ?_
      obtain ⟨d, hd, rfl⟩ := List.mem_map.mp hn
      exact fullWeight_eq_zero ((Bool.not_eq_true' _).mp (hlight.2 d hd))

/-- Folding keeps the weight of a text. -/
theorem textWeight_fold (text : Text) : textWeight (fold true text) = textWeight text := by
  have hfold : ∀ other : Text, textWeight (foldCase other) = textWeight other := by
    intro other
    induction other with
    | nil => rfl
    | cons c rest ih =>
      show textWeight (foldChar c ++ foldCase rest) = textWeight (c :: rest)
      rw [textWeight_append, textWeight_foldChar, ih, textWeight_cons]
  show textWeight (foldCase (composed text)) = textWeight text
  rw [hfold, composed, textWeight_recompose, textWeight_decomposed]

/-! ## Blanks and hyphens -/

/-- A blank, however it decomposes, weighs more than a hyphen. -/
theorem fullWeight_of_isBlank {c : Char} (h : Text.isBlank c) : fullWeight c = 2 := by
  have hcodes : ∀ n ∈ [0x9, 0xA, 0xB, 0xC, 0xD, 0x1C, 0x1D, 0x1E, 0x1F, 0x20, 0x85, 0xA0, 0x1680,
      0x2000, 0x2001, 0x2002, 0x2003, 0x2004, 0x2005, 0x2006, 0x2007, 0x2008, 0x2009, 0x200A,
      0x2028, 0x2029, 0x202F, 0x205F, 0x3000], fullWeight (Char.ofNat n) = 2 := by
    decide +kernel
  have hc := hcodes c.toNat ?_
  · rwa [Char.ofNat_toNat] at hc
  · unfold Text.isBlank at h
    simp only [Bool.or_eq_true, Bool.and_eq_true, decide_eq_true_eq] at h
    simp only [List.mem_cons, List.not_mem_nil, or_false]
    omega

theorem fullWeight_hyphen : fullWeight '-' = 1 := by
  decide

/-! ## Texts made lighter -/

/-- A text is the other one or weighs less. -/
def IsLighter (made text : Text) : Prop :=
  made = text ∨ textWeight made < textWeight text

namespace IsLighter

theorem refl (text : Text) : IsLighter text text :=
  .inl rfl

theorem le {made text : Text} (h : IsLighter made text) : textWeight made ≤ textWeight text := by
  rcases h with heq | hlt
  · rw [heq]
  · exact Nat.le_of_lt hlt

theorem trans {made text source : Text} (h : IsLighter made text)
    (hsource : IsLighter text source) : IsLighter made source := by
  rcases hsource with rfl | hlt
  · exact h
  · exact .inr (Nat.lt_of_le_of_lt h.le hlt)

theorem cons {made text : Text} (c : Char) (h : IsLighter made text) :
    IsLighter (c :: made) (c :: text) := by
  rcases h with rfl | hlt
  · exact refl _
  · right
    rw [textWeight_cons, textWeight_cons]
    exact Nat.add_lt_add_left hlt _

theorem cons_right {made text : Text} {c : Char} (hc : 0 < fullWeight c) (h : IsLighter made text) :
    IsLighter made (c :: text) := by
  right
  have hle := h.le
  rw [textWeight_cons]
  omega

theorem reverse {made text : Text} (h : IsLighter made text) :
    IsLighter made.reverse text.reverse := by
  rcases h with rfl | hlt
  · exact refl _
  · right
    rw [textWeight_reverse, textWeight_reverse]
    exact hlt

end IsLighter

theorem isLighter_filter (text : Text) : IsLighter (text.filter (!isDropped ·)) text := by
  induction text with
  | nil => exact .refl []
  | cons c rest ih =>
    by_cases hc : isDropped c
    · have hweight : 0 < fullWeight c := by
        rw [fullWeight_ascii (toNat_lt_of_isDropped hc)]
        unfold weight
        rw [hc, Bool.true_or]
        split
        · decide
        · decide
      rw [List.filter_cons_of_neg (by simpa using hc)]
      exact ih.cons_right hweight
    · rw [List.filter_cons_of_pos (by simpa using hc)]
      exact ih.cons c

theorem isLighter_hyphenate (text : Text) : IsLighter (hyphenate text) text := by
  have hblank : ∀ {c : Char} {made rest : Text}, Text.isBlank c → IsLighter made rest →
      IsLighter ('-' :: made) (c :: rest) := by
    intro c made rest hc h
    right
    have hle := h.le
    rw [textWeight_cons, textWeight_cons, fullWeight_hyphen, fullWeight_of_isBlank hc]
    omega
  fun_induction hyphenate text with
  | case1 => exact .refl []
  | case2 c hc => exact hblank hc (.refl [])
  | case3 c hc d rest _ ih =>
    -- the hyphen for both blanks is that of the second one
    refine ih.cons_right ?_
    rw [fullWeight_of_isBlank hc]
    decide
  | case4 c hc d rest _ ih => exact hblank hc ih
  | case5 c rest _ ih => exact ih.cons c

theorem isLighter_mergeHyphens (text : Text) : IsLighter (mergeHyphens text) text := by
  fun_induction mergeHyphens text with
  | case1 => exact .refl []
  | case2 c => exact .refl [c]
  | case3 c d rest h ih =>
    refine ih.cons_right ?_
    rw [h.1, fullWeight_hyphen]
    decide
  | case4 c d rest _ ih => exact ih.cons c

theorem isLighter_trimHyphens (text : Text) : IsLighter (trimHyphens text) text := by
  have hdrop : ∀ other : Text, IsLighter (other.dropWhile (· = '-')) other := by
    intro other
    induction other with
    | nil => exact .refl []
    | cons c rest ih =>
      by_cases hc : c = '-'
      · rw [List.dropWhile_cons_of_pos (by simpa using hc)]
        refine ih.cons_right ?_
        rw [hc, fullWeight_hyphen]
        decide
      · rw [List.dropWhile_cons_of_neg (by simpa using hc)]
        exact .refl _
  have hback := (hdrop (text.dropWhile (· = '-')).reverse).reverse
  rw [List.reverse_reverse] at hback
  exact hback.trans (hdrop text)

/-- The words of a slug are the text that they are taken from or weigh less. -/
theorem isLighter_joinWords (text : Text) :
    IsLighter (joinWords (text.filter (!isDropped ·))) text :=
  (isLighter_trimHyphens _).trans ((isLighter_mergeHyphens _).trans
    ((isLighter_hyphenate _).trans (isLighter_filter text)))

end Slug

end MarkdownCheck
