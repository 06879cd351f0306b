import MarkdownCheck.Proofs.Pattern.Language

/-!
# Where the matches of a pattern end

- `Place.capture`: what a group keeps.
- `Pattern.mem_ends_many_one`, `Pattern.mem_ends_group_many_one`, `Pattern.mem_ends_word`: where
  repetitions of a class, groups around them and words end.
- `Pattern.ends_many_one_cons`: a repetition of a class, one character at a time.
- `Pattern.search?_eq_some_iff`, `Pattern.isSome_search?_iff`: a search finds the match at the first
  position where there is one; `Pattern.search?_all_atStart`: the start, if the pattern says so.
- `Pattern.MatchesAll`: a pattern matches a whole text; `Pattern.matchesAll_iff_mem_language` says
  that a regular pattern does so if the text is one of its words.
- `Pattern.ends_times_char`, `Pattern.ends_star_char`, `Pattern.ends_upTo_char`: where repetitions
  of one character end, in the order of preference.
-/

namespace MarkdownCheck

namespace Place

@[simp] theorem advance_zero (place : Place) : place.advance 0 = place := by
  simp [advance]

@[simp] theorem advance_advance (place : Place) (m n : Nat) :
    (place.advance m).advance n = place.advance (m + n) := by
  simp [advance, Nat.add_assoc]

theorem rest_advance_one {place : Place} {c : Char} {rest : Text} (h : place.rest = c :: rest) :
    (place.advance 1).rest = rest := by
  show place.rest.drop 1 = rest
  rw [h, List.drop_one, List.tail_cons]

theorem rest_advance {place : Place} {taken rest : Text} (h : place.rest = taken ++ rest) :
    (place.advance taken.length).rest = rest :=
  (takes_advance h).rest_eq h

/-- The place at which a group ends that has begun at `start`. -/
def capture (start : Place) (number : Nat) (next : Place) : Place :=
  let text := start.rest.take (next.position - start.position)
  { next with captures := ⟨number, start.position, text⟩ :: next.captures }

theorem capture_advance {place : Place} {number : Nat} {taken rest : Text}
    (h : place.rest = taken ++ rest) : place.capture number (place.advance taken.length) =
      { place.advance taken.length with
        captures := ⟨number, place.position, taken⟩ :: place.captures } := by
  have htext : place.rest.take ((place.advance taken.length).position - place.position) =
      taken := by
    show place.rest.take (place.position + taken.length - place.position) = taken
    rw [Nat.add_sub_cancel_left, h, List.take_left]
  unfold capture
  rw [htext]
  rfl

end Place

namespace Pattern

/-! ## Sequences and groups -/

theorem ends_group (number : Nat) (pattern : Pattern) (place : Place) :
    (group number pattern).ends place = (pattern.ends place).map (place.capture number) :=
  rfl

@[simp] theorem ends_seq_empty (pattern : Pattern) : (seq pattern .empty).ends = pattern.ends :=
  funext fun _ => List.flatMap_singleton' _

theorem ends_seq_atStart (pattern : Pattern) {place : Place} (h : place.position = 0) :
    (seq .atStart pattern).ends place = pattern.ends place := by
  simp [ends, h]

theorem mem_ends_all_cons {place next : Place} {pattern : Pattern} {more : List Pattern} :
    next ∈ (all (pattern :: more)).ends place ↔
      ∃ middle ∈ pattern.ends place, next ∈ (all more).ends middle :=
  List.mem_flatMap

/-- A regular pattern takes a word and leaves the rest to the patterns behind it. -/
theorem exists_mem_ends_all_cons {pattern : Pattern} {more : List Pattern}
    (hregular : pattern.isRegular) {place : Place} {taken rest : Text}
    (h : taken ∈ pattern.language) (hrest : place.rest = taken ++ rest)
    (hmore : ∀ middle : Place, middle.rest = rest → ∃ next, next ∈ (all more).ends middle) :
    ∃ next, next ∈ (all (pattern :: more)).ends place := by
  obtain ⟨middle, hmiddle, htakes⟩ := exists_mem_ends_of_mem_language hregular h hrest
  obtain ⟨next, hnext⟩ := hmore middle (htakes.rest_eq hrest)
  exact ⟨next, mem_ends_all_cons.mpr ⟨middle, hmiddle, hnext⟩⟩

/-! ## Classes and words -/

section

variable {place next : Place}

theorem mem_ends_one {accepts : Char → Bool} :
    next ∈ (one accepts).ends place ↔
      ∃ c, place.rest = c :: next.rest ∧ accepts c ∧ next = place.advance 1 := by
  rw [ends]
  cases hrest : place.rest with
  | nil => simp
  | cons c rest =>
    have hnext := Place.rest_advance_one hrest
    by_cases hc : accepts c
    · simp only [if_pos hc, List.mem_singleton]
      constructor
      · rintro rfl
        exact ⟨c, by rw [hnext], hc, rfl⟩
      · rintro ⟨_, -, -, h⟩
        exact h
    · simp only [if_neg hc]
      constructor
      · intro h
        cases h
      · rintro ⟨d, heq, hd, -⟩
        exact absurd ((List.cons.inj heq).1 ▸ hd) hc

theorem ends_many_one_nil {greedy : Bool} {accepts : Char → Bool} (h : place.rest = []) :
    (many greedy (one accepts)).ends place = [place] := by
  simp [ends, h, rounds]

/-- A repetition of one class stays where it is or takes one character more, in the order that its
flag says. -/
theorem ends_many_one_cons {greedy : Bool} {accepts : Char → Bool} {c : Char} {rest : Text}
    (h : place.rest = c :: rest) :
    (many greedy (one accepts)).ends place =
      let further := if accepts c then (many greedy (one accepts)).ends (place.advance 1) else []
      if greedy then further ++ [place] else place :: further := by
  have hrest := Place.rest_advance_one h
  have hgoes : place.position < (place.advance 1).position := Nat.lt_succ_self _
  simp only [ends, h, hrest, List.length_cons, rounds]
  by_cases hc : accepts c
  · rw [if_pos hc, if_pos hc, List.flatMap_singleton, if_pos hgoes]
  · rw [if_neg hc, if_neg hc, List.flatMap_nil]

theorem ends_star_one_nil {accepts : Char → Bool} (h : place.rest = []) :
    (star (one accepts)).ends place = [place] :=
  ends_many_one_nil h

/-- A repetition that takes as much as possible goes on first, and takes nothing last. -/
theorem ends_star_one_cons {accepts : Char → Bool} {c : Char} {rest : Text}
    (h : place.rest = c :: rest) :
    (star (one accepts)).ends place =
      (if accepts c then (star (one accepts)).ends (place.advance 1) else []) ++ [place] :=
  ends_many_one_cons h

theorem ends_lazyStar_one_nil {accepts : Char → Bool} (h : place.rest = []) :
    (lazyStar (one accepts)).ends place = [place] :=
  ends_many_one_nil h

/-- A repetition that takes as little as possible takes nothing first, and then one character more
at a time. -/
theorem ends_lazyStar_one_cons {accepts : Char → Bool} {c : Char} {rest : Text}
    (h : place.rest = c :: rest) :
    (lazyStar (one accepts)).ends place =
      place :: if accepts c then (lazyStar (one accepts)).ends (place.advance 1) else [] :=
  ends_many_one_cons h

/-- A repetition of one class takes characters of the class. -/
theorem mem_ends_many_one {greedy : Bool} {accepts : Char → Bool} :
    next ∈ (many greedy (one accepts)).ends place ↔
      ∃ taken, place.rest = taken ++ next.rest ∧ (∀ c ∈ taken, accepts c) ∧
        next = place.advance taken.length := by
  have hnothing : ∀ place : Place, place = place.advance ([] : Text).length :=
    fun place => (Place.advance_zero place).symm
  generalize htext : place.rest = text
  induction text generalizing place with
  | nil =>
    rw [ends_many_one_nil htext, List.mem_singleton]
    constructor
    · rintro rfl
      exact ⟨[], htext.symm, nofun, hnothing next⟩
    · rintro ⟨taken, hrest, -, hnext⟩
      rw [List.nil_eq, List.append_eq_nil_iff] at hrest
      rw [hnext, hrest.1, ← hnothing]
  | cons c rest ih =>
    have hmem : next ∈ (many greedy (one accepts)).ends place ↔
        next = place ∨ accepts c ∧ next ∈ (many greedy (one accepts)).ends (place.advance 1) := by
      rw [ends_many_one_cons htext]
      by_cases hc : accepts c <;> cases greedy <;> simp [hc, or_comm]
    have hmore := ih (Place.rest_advance_one htext)
    rw [hmem]
    constructor
    · rintro (rfl | ⟨hc, h⟩)
      · exact ⟨[], htext.symm, nofun, hnothing next⟩
      · obtain ⟨taken, rfl, htaken, hnext⟩ := hmore.mp h
        refine ⟨c :: taken, rfl, List.forall_mem_cons.mpr ⟨hc, htaken⟩, ?_⟩
        rw [hnext, Place.advance_advance, List.length_cons, Nat.add_comm]
    · rintro ⟨taken, hrest, htaken, hnext⟩
      cases taken with
      | nil => exact .inl (hnext.trans (hnothing place).symm)
      | cons d taken =>
        obtain ⟨rfl, htail⟩ := List.cons.inj hrest
        obtain ⟨hc, htaken⟩ := List.forall_mem_cons.mp htaken
        refine .inr ⟨hc, hmore.mpr ⟨taken, htail, htaken, ?_⟩⟩
        rw [hnext, Place.advance_advance, List.length_cons, Nat.add_comm]

/-- A group around such a repetition keeps what is taken. -/
theorem mem_ends_group_many_one {number : Nat} {greedy : Bool} {accepts : Char → Bool} :
    next ∈ (group number (many greedy (one accepts))).ends place ↔
      ∃ taken, place.rest = taken ++ next.rest ∧ (∀ c ∈ taken, accepts c) ∧
        next = { place.advance taken.length with
          captures := ⟨number, place.position, taken⟩ :: place.captures } := by
  rw [ends_group, List.mem_map]
  constructor
  · rintro ⟨inner, hinner, rfl⟩
    obtain ⟨taken, hrest, htaken, rfl⟩ := mem_ends_many_one.mp hinner
    exact ⟨taken, hrest, htaken, Place.capture_advance hrest⟩
  · rintro ⟨taken, hrest, htaken, hnext⟩
    have hinner : (place.advance taken.length).rest = next.rest := Place.rest_advance hrest
    refine ⟨place.advance taken.length, mem_ends_many_one.mpr ⟨taken, ?_, htaken, rfl⟩, ?_⟩
    · rw [hinner, hrest]
    · rw [hnext]
      exact Place.capture_advance hrest

theorem head?_ends_char (place : Place) (c : Char) :
    ((char c).ends place).head? =
      if place.rest.head? = some c then some (place.advance 1) else none := by
  rw [char, ends]
  cases place.rest with
  | nil => rfl
  | cons d rest => by_cases hd : d = c <;> simp [hd]

theorem mem_ends_word {text : String} :
    next ∈ (word text).ends place ↔
      place.rest = text.toList ++ next.rest ∧ next = place.advance text.toList.length := by
  rw [word]
  generalize text.toList = word
  induction word generalizing place with
  | nil =>
    show next ∈ [place] ↔ _
    rw [List.mem_singleton, List.length_nil, Place.advance_zero]
    constructor
    · rintro rfl
      exact ⟨rfl, rfl⟩
    · exact And.right
  | cons c word ih =>
    rw [List.map_cons, mem_ends_all_cons]
    constructor
    · rintro ⟨middle, hmiddle, hnext⟩
      obtain ⟨d, hrest, hd, hstep⟩ := mem_ends_one.mp hmiddle
      obtain rfl := of_decide_eq_true hd
      obtain ⟨hmore, hnext⟩ := ih.mp hnext
      refine ⟨by rw [hrest, hmore, List.cons_append], ?_⟩
      rw [hnext, hstep, Place.advance_advance, List.length_cons, Nat.add_comm]
    · rintro ⟨hrest, hnext⟩
      have hmore : (place.advance 1).rest = word ++ next.rest := Place.rest_advance_one hrest
      refine ⟨place.advance 1, mem_ends_one.mpr ⟨c, ?_, decide_eq_true rfl, rfl⟩,
        ih.mpr ⟨hmore, ?_⟩⟩
      · rw [hrest, hmore, List.cons_append]
      · rw [hnext, Place.advance_advance, List.length_cons, Nat.add_comm]

end

/-! ## Searching -/

/-- A pattern matches a text from its start to its end. -/
def MatchesAll (pattern : Pattern) (text : Text) : Prop :=
  ∃ next ∈ pattern.ends ⟨0, text, []⟩, next.rest = []

/-- A regular pattern matches its words. -/
theorem matchesAll_iff_mem_language {pattern : Pattern} (h : pattern.isRegular) {text : Text} :
    pattern.MatchesAll text ↔ text ∈ pattern.language := by
  constructor
  · rintro ⟨next, hnext, hrest⟩
    obtain ⟨taken, htaken, htakes⟩ := exists_mem_language_of_mem_ends hnext
    have htext : text = taken ++ next.rest := htakes.1
    rwa [htext, hrest, List.append_nil]
  · intro htext
    have hrest : (⟨0, text, []⟩ : Place).rest = text ++ [] := (List.append_nil text).symm
    obtain ⟨next, hnext, htakes⟩ := exists_mem_ends_of_mem_language h htext hrest
    exact ⟨next, hnext, htakes.rest_eq hrest⟩

theorem isSome_matchAt?_iff {pattern : Pattern} {place : Place} :
    (pattern.matchAt? place).isSome ↔ ∃ next, next ∈ pattern.ends place := by
  rw [matchAt?, Option.isSome_map, List.isSome_head?]
  exact ⟨List.exists_mem_of_ne_nil _, fun ⟨_, h⟩ => List.ne_nil_of_mem h⟩

theorem matchAt?_eq_none_iff {pattern : Pattern} {place : Place} :
    pattern.matchAt? place = none ↔ pattern.ends place = [] := by
  rw [matchAt?, Option.map_eq_none_iff, List.head?_eq_none_iff]

/-- A search finds the match at the first position where there is one. -/
theorem search?_eq_some_iff {pattern : Pattern} {text : Text} {found : Match} :
    pattern.search? text = some found ↔
      ∃ k ≤ text.length, pattern.matchAt? ⟨k, text.drop k, []⟩ = some found ∧
        ∀ j < k, pattern.ends ⟨j, text.drop j, []⟩ = [] := by
  have hfrom : ∀ (rest : Text) (position : Nat),
      pattern.searchFrom? position rest = some found ↔
        ∃ k ≤ rest.length, pattern.matchAt? ⟨position + k, rest.drop k, []⟩ = some found ∧
          ∀ j < k, pattern.ends ⟨position + j, rest.drop j, []⟩ = [] := by
    intro rest
    induction rest with
    | nil =>
      intro position
      rw [searchFrom?]
      constructor
      · intro h
        exact ⟨0, Nat.le_refl 0, h, nofun⟩
      · rintro ⟨k, hk, h, -⟩
        obtain rfl := Nat.le_zero.mp hk
        exact h
    | cons c rest ih =>
      intro position
      rw [searchFrom?, Option.or_eq_some_iff, matchAt?_eq_none_iff, ih]
      constructor
      · rintro (h | ⟨hnone, k, hk, h, hbefore⟩)
        · exact ⟨0, Nat.zero_le _, h, nofun⟩
        · refine ⟨k + 1, Nat.succ_le_succ hk, ?_, fun j hj => ?_⟩
          · rw [List.drop_succ_cons, ← Nat.add_assoc, Nat.add_right_comm]
            exact h
          · cases j with
            | zero => exact hnone
            | succ j =>
              rw [List.drop_succ_cons, ← Nat.add_assoc, Nat.add_right_comm]
              exact hbefore j (Nat.lt_of_succ_lt_succ hj)
      · rintro ⟨k, hk, h, hbefore⟩
        cases k with
        | zero => exact .inl h
        | succ k =>
          refine .inr ⟨hbefore 0 (Nat.succ_pos k), k, Nat.le_of_succ_le_succ hk, ?_, fun j hj => ?_⟩
          · rwa [List.drop_succ_cons, ← Nat.add_assoc, Nat.add_right_comm] at h
          · have hnext := hbefore (j + 1) (Nat.succ_lt_succ hj)
            rwa [List.drop_succ_cons, ← Nat.add_assoc, Nat.add_right_comm] at hnext
  simpa [search?] using hfrom text 0

/-- A pattern that begins at the start of a text is not found anywhere else. -/
theorem search?_all_atStart (more : List Pattern) (text : Text) :
    (all (.atStart :: more)).search? text = (all (.atStart :: more)).matchStart? text := by
  have hbehind : ∀ (rest : Text) (position : Nat),
      (all (.atStart :: more)).searchFrom? (position + 1) rest = none := by
    have hends : ∀ place : Place, place.position ≠ 0 → (all (.atStart :: more)).ends place = [] :=
      fun place h => by simp [all, ends, h]
    intro rest
    induction rest with
    | nil => exact fun position => matchAt?_eq_none_iff.mpr (hends _ (Nat.succ_ne_zero position))
    | cons c rest ih =>
      intro position
      rw [searchFrom?, ih, Option.or_none]
      exact matchAt?_eq_none_iff.mpr (hends _ (Nat.succ_ne_zero position))
  cases text with
  | nil => rfl
  | cons c rest =>
    rw [search?, searchFrom?, hbehind, Option.or_none]
    rfl

/-- A search finds something exactly when the pattern matches somewhere in the text. -/
theorem isSome_search?_iff {pattern : Pattern} {text : Text} :
    (pattern.search? text).isSome ↔
      ∃ k, k ≤ text.length ∧ ∃ next, next ∈ pattern.ends ⟨k, text.drop k, []⟩ := by
  rw [Option.isSome_iff_exists]
  constructor
  · rintro ⟨found, hfound⟩
    obtain ⟨k, hk, hmatch, -⟩ := search?_eq_some_iff.mp hfound
    exact ⟨k, hk, isSome_matchAt?_iff.mp (by rw [hmatch]; rfl)⟩
  · intro h
    classical
    obtain ⟨hk, hends⟩ := Nat.find_spec h
    obtain ⟨found, hfound⟩ := Option.isSome_iff_exists.mp (isSome_matchAt?_iff.mpr hends)
    refine ⟨found, search?_eq_some_iff.mpr ⟨_, hk, hfound, fun j hj => ?_⟩⟩
    refine List.eq_nil_iff_forall_not_mem.mpr fun next hnext => ?_
    exact Nat.find_min h hj ⟨Nat.le_trans (Nat.le_of_lt hj) hk, next, hnext⟩

end Pattern

/-! ## Repetitions of one character -/

namespace Place

/-- The number of times that a character stands at the front of what is left. -/
def count (place : Place) (c : Char) : Nat :=
  (place.rest.takeWhile (· = c)).length

theorem count_le (place : Place) (c : Char) : place.count c ≤ place.rest.length :=
  (List.takeWhile_sublist _).length_le

/-- A character that is counted stands in front, with the others behind it. -/
theorem count_eq_succ {place : Place} {c : Char} {n : Nat} (h : place.count c = n + 1) :
    (∃ rest, place.rest = c :: rest) ∧ (place.advance 1).count c = n := by
  cases hr : place.rest with
  | nil => simp [count, hr] at h
  | cons d rest =>
    by_cases hd : d = c
    · subst hd
      simpa [count, advance, hr] using h
    · simp [count, hr, hd] at h

theorem count_advance {place : Place} {c : Char} {n : Nat} (h : n ≤ place.count c) :
    (place.advance n).count c = place.count c - n := by
  induction n with
  | zero => rw [advance_zero, Nat.sub_zero]
  | succ n ih =>
    obtain ⟨k, hk⟩ : ∃ k, (place.advance n).count c = k + 1 :=
      ⟨place.count c - n - 1, by rw [ih (Nat.le_of_succ_le h)]; omega⟩
    have hnext := (count_eq_succ hk).2
    rw [advance_advance] at hnext
    rw [hnext, Nat.sub_succ, ← ih (Nat.le_of_succ_le h), hk, Nat.pred_succ]

/-- The places up to `n` characters on, the farthest first. -/
def descending (place : Place) (n : Nat) : List Place :=
  (List.range (n + 1)).reverse.map place.advance

@[simp] theorem descending_zero (place : Place) : place.descending 0 = [place] := by
  simp [descending]

theorem descending_succ (place : Place) (n : Nat) :
    place.descending (n + 1) = (place.advance 1).descending n ++ [place] := by
  have hadvance : place.advance ∘ Nat.succ = (place.advance 1).advance := by
    funext k
    simp [Nat.add_comm]
  rw [descending, List.range_succ_eq_map, List.reverse_cons, List.map_append, ← List.map_reverse,
    List.map_map, hadvance]
  simp [descending]

@[simp] theorem head?_descending (place : Place) (n : Nat) :
    (place.descending n).head? = some (place.advance n) := by
  simp [descending, List.range_succ]

end Place

namespace Pattern

variable {place : Place} {c : Char}

theorem ends_char_of_count_eq_zero (h : place.count c = 0) : (char c).ends place = [] := by
  cases hr : place.rest with
  | nil => simp [char, ends, hr]
  | cons d rest =>
    have hd : d ≠ c := by
      rintro rfl
      simp [Place.count, hr] at h
    simp [char, ends, hr, hd]

theorem ends_char_of_count_eq_succ {n : Nat} (h : place.count c = n + 1) :
    (char c).ends place = [place.advance 1] := by
  obtain ⟨⟨rest, hr⟩, -⟩ := Place.count_eq_succ h
  simp [char, ends, hr]

/-- As many as there are, then fewer. -/
theorem ends_star_char (place : Place) (c : Char) :
    (star (char c)).ends place = place.descending (place.count c) := by
  generalize htext : place.rest = text
  induction text generalizing place with
  | nil =>
    rw [char, ends_star_one_nil htext, Place.count, htext]
    rfl
  | cons d rest ih =>
    rw [char, ends_star_one_cons htext]
    cases hc : place.count c with
    | zero =>
      have hd : d ≠ c := by
        rintro rfl
        simp [Place.count, htext] at hc
      simp [hd]
    | succ n =>
      obtain ⟨⟨more, hmore⟩, hnext⟩ := Place.count_eq_succ hc
      obtain rfl : d = c := (List.cons.inj (htext.symm.trans hmore)).1
      rw [if_pos (decide_eq_true rfl), Place.descending_succ, ← hnext]
      exact congrArg (· ++ [place]) (ih _ (Place.rest_advance_one htext))

/-- As many as there are but no more than allowed, then fewer. -/
theorem ends_upTo_char (place : Place) (c : Char) (n : Nat) :
    (upTo n (char c)).ends place = place.descending (min n (place.count c)) := by
  induction n generalizing place with
  | zero => simp [upTo, ends]
  | succ n ih =>
    cases hc : place.count c with
    | zero => simp [upTo, optional, ends, ends_char_of_count_eq_zero hc]
    | succ k =>
      have hnext := (Place.count_eq_succ hc).2
      simp [upTo, optional, ends, ends_char_of_count_eq_succ hc, ih, hnext,
        Place.descending_succ, Nat.succ_min_succ]

/-- Exactly as many as are asked for, if there are so many. -/
theorem ends_times_char (place : Place) (c : Char) (n : Nat) :
    (times n (char c)).ends place =
      if n ≤ place.count c then [place.advance n] else [] := by
  induction n generalizing place with
  | zero => simp [times, all, ends]
  | succ n ih =>
    have htimes : times (n + 1) (char c) = seq (char c) (times n (char c)) := rfl
    rw [htimes, ends]
    cases hc : place.count c with
    | zero => simp [ends_char_of_count_eq_zero hc]
    | succ k =>
      have hnext := (Place.count_eq_succ hc).2
      simp [ends_char_of_count_eq_succ hc, ih, hnext, Nat.add_comm]

end Pattern

end MarkdownCheck
