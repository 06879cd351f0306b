import MarkdownCheck.Text.Basic

/-!
# Places where a word stands

- `Text.StandsAt`: a word stands at a place of a text.
- `Text.IsFirst`: the first such place from a start on.
- `Text.cut_eq_some_iff`, `Text.cut_eq_none_iff`: where a text is cut.
- `Text.findFrom?_eq_some_iff`, `Text.findFrom?_eq_none_iff`: what a search finds.
- `Text.getElem?_between`: a stretch holds what stands at its places.
- `Text.AgreeFrom`: texts that agree from a place on have the same words there.
-/

namespace MarkdownCheck.Text

/-- A word stands at a place of a text. -/
def StandsAt (word text : Text) (place : Nat) : Prop :=
  word <+: text.drop place

/-- The first place from `start` on where a word stands. -/
structure IsFirst (word text : Text) (start place : Nat) : Prop where
  start_le : start ≤ place
  stands : StandsAt word text place
  not_before : ∀ earlier, start ≤ earlier → earlier < place → ¬ StandsAt word text earlier

theorem standsAt_iff {word text : Text} {place : Nat} :
    StandsAt word text place ↔
      ∀ (k : Nat) (c : Char), word[k]? = some c → text[place + k]? = some c := by
  rw [StandsAt, List.prefix_iff_getElem?]
  constructor
  · intro h k c hk
    obtain ⟨hlt, rfl⟩ := List.getElem?_eq_some_iff.mp hk
    rw [← List.getElem?_drop]
    exact h k hlt
  · intro h k hlt
    rw [List.getElem?_drop]
    exact h k word[k] (List.getElem?_eq_getElem hlt)

theorem StandsAt.le_length {word text : Text} {place : Nat} (h : StandsAt word text place)
    (hw : word ≠ []) : place + word.length ≤ text.length := by
  have hle := h.length_le
  have hpos := List.length_pos_iff.mpr hw
  rw [List.length_drop] at hle
  omega

/-- There is only one first place. -/
theorem IsFirst.unique {word text : Text} {start place other : Nat}
    (h : IsFirst word text start place) (h' : IsFirst word text start other) : place = other := by
  refine Nat.le_antisymm (Nat.le_of_not_lt fun hlt => ?_) (Nat.le_of_not_lt fun hlt => ?_)
  · exact h.not_before other h'.start_le hlt h'.stands
  · exact h'.not_before place h.start_le hlt h.stands

/-! ## Prefixes -/

theorem dropPrefix?_append (word rest : Text) : dropPrefix? word (word ++ rest) = some rest := by
  induction word with
  | nil => rfl
  | cons w word ih => simpa [dropPrefix?] using ih

theorem dropPrefix?_eq_some_iff {word text rest : Text} :
    dropPrefix? word text = some rest ↔ text = word ++ rest :=
  ⟨eq_append_of_dropPrefix?, fun h => h ▸ dropPrefix?_append word rest⟩

theorem dropPrefix?_eq_none_iff {word text : Text} :
    dropPrefix? word text = none ↔ ¬ word <+: text := by
  rw [Option.eq_none_iff_forall_ne_some]
  constructor
  · rintro h ⟨rest, hrest⟩
    exact h rest (dropPrefix?_eq_some_iff.mpr hrest.symm)
  · rintro h rest hrest
    exact h ⟨rest, (eq_append_of_dropPrefix? hrest).symm⟩

/-! ## Cuts -/

theorem cut_of_dropPrefix?_eq_some {word text rest : Text} (h : dropPrefix? word text = some rest) :
    cut word text = some ([], rest) := by
  cases text with
  | nil => rw [cut, h, Option.map_some]
  | cons c text => rw [cut, h]

theorem cut_cons_of_dropPrefix?_eq_none {word text : Text} {c : Char}
    (h : dropPrefix? word (c :: text) = none) :
    cut word (c :: text) = (cut word text).map fun (before, rest) => (c :: before, rest) := by
  rw [cut, h]

/-- A text is cut at the first place where the word stands. -/
theorem cut_eq_some_iff {word text before rest : Text} :
    cut word text = some (before, rest) ↔
      text = before ++ (word ++ rest) ∧ ∀ m < before.length, ¬ word <+: text.drop m := by
  induction text generalizing before with
  | nil =>
    simp only [cut, Option.map_eq_some_iff, Prod.mk.injEq, dropPrefix?_eq_some_iff]
    constructor
    · rintro ⟨rest, hrest, rfl, rfl⟩
      exact ⟨hrest, by simp⟩
    · rintro ⟨h, -⟩
      obtain ⟨rfl, hrest⟩ := List.nil_eq_append_iff.mp h
      exact ⟨rest, hrest.symm, rfl, rfl⟩
  | cons c text ih =>
    rw [cut]
    cases hp : dropPrefix? word (c :: text) with
    | some found =>
      -- the word stands here, so nothing is in front of it
      have hfound := eq_append_of_dropPrefix? hp
      constructor
      · rintro h
        obtain ⟨rfl, rfl⟩ := Prod.mk.inj (Option.some.inj h)
        exact ⟨hfound, by simp⟩
      · rintro ⟨h, hbefore⟩
        cases before with
        | nil =>
          rw [List.nil_append, hfound, List.append_cancel_left_eq] at h
          rw [h]
        | cons d before => exact absurd ⟨found, hfound.symm⟩ (hbefore 0 (Nat.succ_pos _))
    | none =>
      -- the word does not stand here, so every place in front of it is one further back in the rest
      have hnot := dropPrefix?_eq_none_iff.mp hp
      simp only [Option.map_eq_some_iff, Prod.mk.injEq, Prod.exists]
      constructor
      · rintro ⟨before, rest, hcut, rfl, rfl⟩
        obtain ⟨htext, hbefore⟩ := ih.mp hcut
        refine ⟨by rw [List.cons_append, ← htext], fun m hm => ?_⟩
        cases m with
        | zero => exact hnot
        | succ m => exact hbefore m (Nat.lt_of_succ_lt_succ hm)
      · rintro ⟨h, hbefore⟩
        cases before with
        | nil => exact absurd ⟨rest, h.symm⟩ hnot
        | cons d before =>
          obtain ⟨rfl, htext⟩ := List.cons.inj h
          exact ⟨before, rest, ih.mpr ⟨htext, fun m hm => hbefore (m + 1) (Nat.succ_lt_succ hm)⟩,
            rfl, rfl⟩

/-- A text without the word is not cut. -/
theorem cut_eq_none_iff {word text : Text} :
    cut word text = none ↔ ∀ m, ¬ word <+: text.drop m := by
  induction text with
  | nil => simp [cut, dropPrefix?_eq_none_iff]
  | cons c text ih =>
    rw [cut]
    cases hp : dropPrefix? word (c :: text) with
    | some found =>
      have hfound := eq_append_of_dropPrefix? hp
      constructor
      · intro h
        cases h
      · intro h
        exact absurd ⟨found, hfound.symm⟩ (h 0)
    | none =>
      simp only [Option.map_eq_none_iff, ih]
      constructor
      · intro h m
        cases m with
        | zero => exact dropPrefix?_eq_none_iff.mp hp
        | succ m => exact h m
      · intro h m
        exact h (m + 1)

theorem includes_iff {word text : Text} : includes word text = true ↔ word <:+: text := by
  rw [includes, Option.isSome_iff_ne_none, ne_eq, cut_eq_none_iff, Classical.not_forall]
  constructor
  · rintro ⟨m, h⟩
    exact (Classical.not_not.mp h).isInfix.trans (List.drop_suffix m text).isInfix
  · rintro ⟨before, rest, rfl⟩
    refine ⟨before.length, Classical.not_not.mpr ⟨rest, ?_⟩⟩
    rw [List.append_assoc, List.drop_left]

/-! ## Searches -/

theorem findFrom?_eq_some_iff {word text : Text} {start place : Nat} :
    findFrom? word start text = some place ↔ IsFirst word text start place := by
  simp only [findFrom?, Option.map_eq_some_iff, Prod.exists, cut_eq_some_iff, List.drop_drop]
  constructor
  · rintro ⟨before, rest, ⟨htext, hbefore⟩, rfl⟩
    refine ⟨Nat.le_add_right _ _, ⟨rest, ?_⟩, fun earlier hstart hlt => ?_⟩
    · show word ++ rest = text.drop (start + before.length)
      rw [← List.drop_drop, htext, List.drop_left]
    · obtain ⟨m, rfl⟩ := Nat.exists_eq_add_of_le hstart
      exact hbefore m (Nat.lt_of_add_lt_add_left hlt)
  · rintro ⟨hstart, hstands, hbefore⟩
    have hlen : place - start ≤ (text.drop start).length := by
      refine Nat.le_of_not_lt fun hlt => ?_
      rw [List.length_drop] at hlt
      -- behind the end of the text every place is like the one before it
      refine hbefore (place - 1) (by omega) (by omega) ?_
      rw [StandsAt, List.drop_eq_nil_of_le (by omega)] at hstands ⊢
      exact hstands
    obtain ⟨rest, hrest⟩ := hstands
    refine ⟨(text.drop start).take (place - start), rest, ⟨?_, fun m hm => ?_⟩, ?_⟩
    · rw [hrest, ← Nat.add_sub_of_le hstart, ← List.drop_drop, Nat.add_sub_cancel_left,
        List.take_append_drop]
    · rw [List.length_take_of_le hlen] at hm
      exact hbefore (start + m) (Nat.le_add_right _ _) (by omega)
    · show start + ((text.drop start).take (place - start)).length = place
      rw [List.length_take_of_le hlen, Nat.add_sub_of_le hstart]

theorem findFrom?_eq_none_iff {word text : Text} {start : Nat} :
    findFrom? word start text = none ↔ ∀ place, start ≤ place → ¬ StandsAt word text place := by
  rw [findFrom?, Option.map_eq_none_iff, cut_eq_none_iff]
  simp only [List.drop_drop]
  constructor
  · intro h place hstart
    rw [← Nat.add_sub_of_le hstart]
    exact h (place - start)
  · intro h m
    exact h (start + m) (Nat.le_add_right _ _)

/-- What stands in the front of a text. -/
theorem standsAt_append_iff {word text : Text} {place : Nat}
    (h : place + word.length ≤ text.length) (tail : Text) :
    StandsAt word (text ++ tail) place ↔ StandsAt word text place := by
  rw [StandsAt, StandsAt, List.drop_append_of_le_length (by omega)]
  constructor
  · intro hstands
    refine List.prefix_of_prefix_length_le hstands (List.prefix_append _ _) ?_
    rw [List.length_drop]
    omega
  · exact fun hstands => hstands.trans (List.prefix_append _ _)

/-- What is found first stays first when the text grows. -/
theorem IsFirst.append_right {word text : Text} {start place : Nat}
    (h : IsFirst word text start place) (hword : word ≠ []) (tail : Text) :
    IsFirst word (text ++ tail) start place := by
  have hlen := h.stands.le_length hword
  refine ⟨h.start_le, (standsAt_append_iff hlen tail).mpr h.stands, ?_⟩
  intro earlier hstart hlt
  rw [standsAt_append_iff (by omega)]
  exact h.not_before earlier hstart hlt

/-- A search may start further on where nothing is skipped. -/
theorem findFrom?_eq_of_not_standsAt {word text : Text} {start later : Nat} (hle : start ≤ later)
    (h : ∀ place, start ≤ place → place < later → ¬ StandsAt word text place) :
    findFrom? word start text = findFrom? word later text := by
  cases hfound : findFrom? word later text with
  | none =>
    rw [findFrom?_eq_none_iff] at hfound ⊢
    intro place hstart
    rcases Nat.lt_or_ge place later with hlt | hge
    · exact h place hstart hlt
    · exact hfound place hge
  | some place =>
    rw [findFrom?_eq_some_iff] at hfound ⊢
    refine ⟨Nat.le_trans hle hfound.start_le, hfound.stands, fun earlier hstart hlt => ?_⟩
    rcases Nat.lt_or_ge earlier later with hskip | hge
    · exact h earlier hstart hskip
    · exact hfound.not_before earlier hge hlt

/-- A search behind the front of a text is a search in the rest. -/
theorem findFrom?_append_left (word front text : Text) (start : Nat) :
    findFrom? word (front.length + start) (front ++ text) =
      (findFrom? word start text).map (front.length + ·) := by
  rw [findFrom?, findFrom?, List.drop_length_add_append, Option.map_map]
  congr 1
  funext found
  exact Nat.add_assoc _ _ _

/-! ## Stretches -/

theorem between_eq_take_drop (start stop : Nat) (text : Text) :
    between start stop text = (text.drop start).take (stop - start) :=
  List.drop_take

theorem getElem?_between (start stop : Nat) (text : Text) (k : Nat) :
    (between start stop text)[k]? = if start + k < stop then text[start + k]? else none := by
  rw [between, List.getElem?_drop, List.getElem?_take]

theorem getElem?_between_sub {start stop place : Nat} (h : start ≤ place) (h' : place < stop)
    (text : Text) : (between start stop text)[place - start]? = text[place]? := by
  rw [getElem?_between, Nat.add_sub_of_le h, if_pos h']

/-- Texts that agree in a stretch have the same stretch. -/
theorem between_congr {start stop : Nat} {text other : Text}
    (h : ∀ place, start ≤ place → place < stop → text[place]? = other[place]?) :
    between start stop text = between start stop other := by
  refine List.ext_getElem? fun k => ?_
  rw [getElem?_between, getElem?_between]
  split
  · next hlt => exact h _ (Nat.le_add_right _ _) hlt
  · rfl

theorem length_between {start stop : Nat} {text : Text} (h : stop ≤ text.length) :
    (between start stop text).length = stop - start := by
  rw [between, List.length_drop, List.length_take_of_le h]

theorem between_append {start middle stop : Nat} (h : start ≤ middle) (h' : middle ≤ stop)
    (text : Text) :
    between start middle text ++ between middle stop text = between start stop text := by
  rw [between_eq_take_drop, between_eq_take_drop, between_eq_take_drop,
    ← Nat.sub_add_sub_cancel h' h, Nat.add_comm, List.take_add, List.drop_drop,
    Nat.add_sub_of_le h]

theorem between_append_drop {start stop : Nat} (h : start ≤ stop) (text : Text) :
    between start stop text ++ text.drop stop = text.drop start := by
  have hdrop : text.drop stop = (text.drop start).drop (stop - start) := by
    rw [List.drop_drop, Nat.add_sub_of_le h]
  rw [between_eq_take_drop, hdrop, List.take_append_drop]

theorem StandsAt.between {word text : Text} {place : Nat} (h : StandsAt word text place) :
    between place (place + word.length) text = word := by
  obtain ⟨rest, hrest⟩ := h
  rw [between_eq_take_drop, ← hrest, Nat.add_sub_cancel_left, List.take_left]

theorem between_append_left (front text : Text) (start stop : Nat) :
    between (front.length + start) (front.length + stop) (front ++ text) =
      between start stop text := by
  rw [between, between, List.take_length_add_append, List.drop_length_add_append]

theorem between_append_right {stop : Nat} {text : Text} (h : stop ≤ text.length) (start : Nat)
    (tail : Text) : between start stop (text ++ tail) = between start stop text := by
  rw [between, between, List.take_append_of_le_length h]

/-- A stretch up to the end. -/
theorem between_length (start : Nat) (text : Text) :
    between start text.length text = text.drop start := by
  rw [between, List.take_length]

/-! ## Texts that agree from a place on -/

/-- Two texts of one length that agree from a place on. -/
structure AgreeFrom (start : Nat) (text other : Text) : Prop where
  length_eq : other.length = text.length
  drop_eq : other.drop start = text.drop start

namespace AgreeFrom

variable {start place : Nat} {text other word : Text}

theorem symm (h : AgreeFrom start text other) : AgreeFrom start other text where
  length_eq := h.length_eq.symm
  drop_eq := h.drop_eq.symm

theorem mono (h : AgreeFrom start text other) (hle : start ≤ place) :
    AgreeFrom place text other where
  length_eq := h.length_eq
  drop_eq := by
    rw [← Nat.add_sub_of_le hle, ← List.drop_drop, h.drop_eq, List.drop_drop]

theorem getElem?_eq (h : AgreeFrom start text other) (hle : start ≤ place) :
    other[place]? = text[place]? := by
  rw [← Nat.add_sub_of_le hle, ← List.getElem?_drop, h.drop_eq, List.getElem?_drop]

theorem standsAt_iff (h : AgreeFrom start text other) (hle : start ≤ place) :
    StandsAt word other place ↔ StandsAt word text place := by
  rw [StandsAt, StandsAt, (h.mono hle).drop_eq]

theorem isFirst (h : AgreeFrom start text other) {first : Nat} (hle : start ≤ first)
    (hfirst : IsFirst word other first place) : IsFirst word text first place where
  start_le := hfirst.start_le
  stands := (h.standsAt_iff (Nat.le_trans hle hfirst.start_le)).mp hfirst.stands
  not_before earlier hfrom hlt hstands :=
    hfirst.not_before earlier hfrom hlt ((h.standsAt_iff (Nat.le_trans hle hfrom)).mpr hstands)

theorem between_eq (h : AgreeFrom start text other) (hle : start ≤ place) (stop : Nat) :
    between place stop other = between place stop text := by
  rw [between_eq_take_drop, between_eq_take_drop, (h.mono hle).drop_eq]

end AgreeFrom

end MarkdownCheck.Text
