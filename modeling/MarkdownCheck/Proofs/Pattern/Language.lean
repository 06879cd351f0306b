import Mathlib.Computability.Language
import MarkdownCheck.Pattern.Named

/-!
# The words of a pattern

Which texts a pattern takes depends neither on the order in which its matches are tried nor on what
its groups hold. So it can be said by a language, built like the pattern:

- `Pattern.language`: the words of a pattern. One that refers to a group may take any text.
- `Pattern.exists_mem_language_of_mem_ends`: a match takes one of these words.
- `Pattern.exists_mem_ends_of_mem_language`: a regular pattern takes each of its words, wherever
  that stands.
- `Pattern.mem_language_word`, `Pattern.mem_language_letters`, `Pattern.mem_language_star_one`,
  `Pattern.mem_language_plus_one`: the words of small patterns.
-/

namespace MarkdownCheck

open scoped Computability

namespace Place

/-- From one place to the other a text is taken. -/
def Takes (taken : Text) (place next : Place) : Prop :=
  place.rest = taken ++ next.rest ∧ next.position = place.position + taken.length

theorem Takes.nil (place : Place) : place.Takes [] place :=
  ⟨rfl, rfl⟩

theorem Takes.append {place middle next : Place} {taken more : Text} (h : Takes taken place middle)
    (h' : Takes more middle next) : Takes (taken ++ more) place next := by
  obtain ⟨hrest, hposition⟩ := h
  obtain ⟨hrest', hposition'⟩ := h'
  refine ⟨?_, ?_⟩
  · rw [hrest, hrest', List.append_assoc]
  · rw [hposition', hposition, List.length_append, Nat.add_assoc]

/-- Advancing by a prefix of the rest takes that. -/
theorem takes_advance {place : Place} {taken rest : Text} (h : place.rest = taken ++ rest) :
    Takes taken place (place.advance taken.length) :=
  ⟨by simp [advance, h], rfl⟩

/-- The rest behind what is taken. -/
theorem Takes.rest_eq {place next : Place} {taken rest : Text} (h : Takes taken place next)
    (hrest : place.rest = taken ++ rest) : next.rest = rest :=
  List.append_cancel_left (h.1.symm.trans hrest)

end Place

namespace Pattern

/-- The words of a pattern. Conditions on a place take nothing, and what a group has matched may be
any text. -/
def language : Pattern → Language Char
  | .empty | .atStart | .atEnd | .ahead _ => 1
  | .one accepts => {word | ∃ c, accepts c ∧ word = [c]}
  | .seq first second => first.language * second.language
  | .either first second => first.language + second.language
  | .many _ round => round.language∗
  | .group _ inside => inside.language
  | .same _ => ⊤

/-- A pattern without conditions on a place and without references to groups. -/
def isRegular : Pattern → Bool
  | .empty | .one _ => true
  | .seq first second | .either first second => first.isRegular && second.isRegular
  | .many _ inside | .group _ inside => inside.isRegular
  | .same _ | .atStart | .atEnd | .ahead _ => false

/-! ## Rounds -/

section

variable {step : Place → List Place} {greedy : Bool} {bound : Nat} {place next : Place}

/-- The flag decides about the order of the ends only. -/
theorem mem_rounds_succ : next ∈ rounds step greedy (bound + 1) place ↔
    next = place ∨ ∃ middle ∈ step place, place.position < middle.position ∧
      next ∈ rounds step greedy bound middle := by
  cases greedy <;> simp [rounds, or_comm]

theorem self_mem_rounds : place ∈ rounds step greedy bound place := by
  cases bound with
  | zero => exact List.mem_singleton_self place
  | succ bound => exact mem_rounds_succ.mpr (.inl rfl)

theorem exists_mem_kstar_of_mem_rounds {words : Language Char}
    (hstep : ∀ place next, next ∈ step place → ∃ taken ∈ words, place.Takes taken next)
    (h : next ∈ rounds step greedy bound place) : ∃ taken ∈ words∗, place.Takes taken next := by
  induction bound generalizing place with
  | zero =>
    obtain rfl := List.mem_singleton.mp h
    exact ⟨[], Language.nil_mem_kstar words, .nil next⟩
  | succ bound ih =>
    rcases mem_rounds_succ.mp h with rfl | ⟨middle, hmiddle, -, hnext⟩
    · exact ⟨[], Language.nil_mem_kstar words, .nil next⟩
    · obtain ⟨taken, htaken, hfirst⟩ := hstep place middle hmiddle
      obtain ⟨more, hmore, hrest⟩ := ih hnext
      refine ⟨taken ++ more, ?_, hfirst.append hrest⟩
      have hle : words * words∗ ≤ words∗ := mul_kstar_le_kstar
      exact Set.mem_of_mem_of_subset (Language.append_mem_mul htaken hmore) hle

/-- Rounds that take given words, none of them empty, take them one after the other. -/
theorem exists_mem_rounds_of_flatten {words : List Text}
    (hstep : ∀ word ∈ words, ∀ (place : Place) (rest : Text), place.rest = word ++ rest →
      ∃ next ∈ step place, place.Takes word next)
    (hne : ∀ word ∈ words, word ≠ []) (hbound : words.flatten.length ≤ bound) {rest : Text}
    (hrest : place.rest = words.flatten ++ rest) :
    ∃ next ∈ rounds step greedy bound place, place.Takes words.flatten next := by
  induction words generalizing bound place with
  | nil => exact ⟨place, self_mem_rounds, .nil place⟩
  | cons word words ih =>
    have hpos : 0 < word.length := List.length_pos_iff.mpr (hne word List.mem_cons_self)
    rw [List.flatten_cons, List.length_append] at hbound
    rw [List.flatten_cons, List.append_assoc] at hrest
    obtain ⟨bound, rfl⟩ := Nat.exists_eq_succ_of_ne_zero (show bound ≠ 0 by omega)
    obtain ⟨middle, hmiddle, hfirst⟩ := hstep word List.mem_cons_self place _ hrest
    obtain ⟨next, hnext, hmore⟩ := ih
      (fun word hmem => hstep word (List.mem_cons_of_mem _ hmem))
      (fun word hmem => hne word (List.mem_cons_of_mem _ hmem))
      (show words.flatten.length ≤ bound by omega) (hfirst.rest_eq hrest)
    refine ⟨next, mem_rounds_succ.mpr (.inr ⟨middle, hmiddle, ?_, hnext⟩), hfirst.append hmore⟩
    rw [hfirst.2]
    omega

end

/-! ## Matches -/

/-- A match takes a word of the pattern. -/
theorem exists_mem_language_of_mem_ends {pattern : Pattern} {place next : Place}
    (h : next ∈ pattern.ends place) : ∃ taken ∈ pattern.language, place.Takes taken next := by
  induction pattern generalizing place next with
  | empty =>
    obtain rfl := List.mem_singleton.mp h
    exact ⟨[], Language.nil_mem_one, .nil next⟩
  | one accepts =>
    rw [ends] at h
    split at h
    · next c rest hrest =>
      split at h
      · next hc =>
        obtain rfl := List.mem_singleton.mp h
        have htaken : place.rest = [c] ++ rest := hrest
        exact ⟨[c], ⟨c, hc, rfl⟩, Place.takes_advance htaken⟩
      · cases h
    · cases h
  | seq first second ihFirst ihSecond =>
    obtain ⟨middle, hmiddle, hnext⟩ := List.mem_flatMap.mp h
    obtain ⟨taken, htaken, hfirst⟩ := ihFirst hmiddle
    obtain ⟨more, hmore, hsecond⟩ := ihSecond hnext
    exact ⟨taken ++ more, Language.append_mem_mul htaken hmore, hfirst.append hsecond⟩
  | either first second ihFirst ihSecond =>
    rcases List.mem_append.mp h with h | h
    · obtain ⟨taken, htaken, hnext⟩ := ihFirst h
      exact ⟨taken, .inl htaken, hnext⟩
    · obtain ⟨taken, htaken, hnext⟩ := ihSecond h
      exact ⟨taken, .inr htaken, hnext⟩
  | many greedy round ih => exact exists_mem_kstar_of_mem_rounds (fun _ _ => ih) h
  | group number inside ih =>
    obtain ⟨inner, hinner, rfl⟩ := List.mem_map.mp h
    obtain ⟨taken, htaken, hnext⟩ := ih hinner
    exact ⟨taken, htaken, hnext⟩
  | same number =>
    rw [ends] at h
    split at h
    · next capture _ =>
      split at h
      · next hprefix =>
        obtain ⟨rest, hrest⟩ := Option.isSome_iff_exists.mp hprefix
        obtain rfl := List.mem_singleton.mp h
        exact ⟨_, trivial, Place.takes_advance (Text.eq_append_of_dropPrefix? hrest)⟩
      · cases h
    · cases h
  | atStart | atEnd | ahead inside =>
    rw [ends] at h
    split at h
    all_goals first
      | cases h; done
      | obtain rfl := List.mem_singleton.mp h
        exact ⟨[], Language.nil_mem_one, .nil next⟩

/-- A regular pattern takes each of its words, wherever that stands. -/
theorem exists_mem_ends_of_mem_language {pattern : Pattern} (hregular : pattern.isRegular)
    {place : Place} {taken rest : Text} (h : taken ∈ pattern.language)
    (hrest : place.rest = taken ++ rest) : ∃ next ∈ pattern.ends place, place.Takes taken next := by
  induction pattern generalizing place taken rest with
  | empty =>
    obtain rfl := (Language.mem_one taken).mp h
    exact ⟨place, List.mem_singleton_self place, .nil place⟩
  | one accepts =>
    obtain ⟨c, hc, rfl⟩ := h
    have hcons : place.rest = c :: rest := hrest
    refine ⟨place.advance 1, ?_, Place.takes_advance hrest⟩
    simp [ends, hcons, hc]
  | seq first second ihFirst ihSecond =>
    rw [isRegular, Bool.and_eq_true] at hregular
    obtain ⟨taken, htaken, more, hmore, rfl⟩ := Language.mem_mul.mp h
    rw [List.append_assoc] at hrest
    obtain ⟨middle, hmiddle, hfirst⟩ := ihFirst hregular.1 htaken hrest
    obtain ⟨next, hnext, hsecond⟩ := ihSecond hregular.2 hmore (hfirst.rest_eq hrest)
    exact ⟨next, List.mem_flatMap.mpr ⟨middle, hmiddle, hnext⟩, hfirst.append hsecond⟩
  | either first second ihFirst ihSecond =>
    rw [isRegular, Bool.and_eq_true] at hregular
    rcases (Language.mem_add _ _ _).mp h with h | h
    · obtain ⟨next, hnext, htakes⟩ := ihFirst hregular.1 h hrest
      exact ⟨next, List.mem_append_left _ hnext, htakes⟩
    · obtain ⟨next, hnext, htakes⟩ := ihSecond hregular.2 h hrest
      exact ⟨next, List.mem_append_right _ hnext, htakes⟩
  | many greedy round ih =>
    -- empty rounds take nothing, so the word is made of others
    obtain ⟨words, rfl, hwords⟩ := Language.mem_kstar_iff_exists_nonempty.mp h
    refine exists_mem_rounds_of_flatten (fun word hmem _ _ => ih hregular (hwords word hmem).1)
      (fun word hmem => (hwords word hmem).2) ?_ hrest
    rw [hrest, List.length_append]
    exact Nat.le_add_right _ _
  | group number inside ih =>
    obtain ⟨next, hnext, htakes⟩ := ih hregular h hrest
    exact ⟨_, List.mem_map_of_mem hnext, htakes⟩
  | same number | atStart | atEnd | ahead inside => cases hregular

/-! ## Words of small patterns -/

theorem language_all_cons (pattern : Pattern) (more : List Pattern) :
    (all (pattern :: more)).language = pattern.language * (all more).language :=
  rfl

theorem language_all_append (front more : List Pattern) :
    (all (front ++ more)).language = (all front).language * (all more).language := by
  induction front with
  | nil => exact (one_mul _).symm
  | cons pattern front ih =>
    rw [List.cons_append, language_all_cons, ih, language_all_cons, mul_assoc]

/-- The words of a sequence of classes have a character of each. -/
theorem mem_language_all_one {classes : List (Char → Bool)} {word : Text} :
    word ∈ (all (classes.map .one)).language ↔
      List.Forall₂ (fun accepts c => accepts c) classes word := by
  induction classes generalizing word with
  | nil => exact List.forall₂_nil_left_iff.symm
  | cons accepts classes ih =>
    rw [List.map_cons, language_all_cons, Language.mem_mul, List.forall₂_cons_left_iff]
    constructor
    · rintro ⟨_, ⟨c, hc, rfl⟩, rest, hrest, rfl⟩
      exact ⟨c, rest, hc, ih.mp hrest, rfl⟩
    · rintro ⟨c, rest, hc, hrest, rfl⟩
      exact ⟨[c], ⟨c, hc, rfl⟩, rest, ih.mpr hrest, rfl⟩

theorem mem_language_word {text : String} {word : Text} :
    word ∈ (Pattern.word text).language ↔ word = text.toList := by
  have hclasses : Pattern.word text =
      all ((text.toList.map fun c d => decide (d = c)).map .one) := by
    rw [Pattern.word, List.map_map]
    rfl
  rw [hclasses, mem_language_all_one, List.forall₂_map_left_iff]
  simp only [decide_eq_true_eq]
  constructor
  · intro h
    exact List.forall₂_eq_eq_eq ▸ h.flip
  · rintro rfl
    exact List.forall₂_same.mpr fun _ _ => rfl

/-- The words of letters are spelled in any case. -/
theorem mem_language_letters {text : String} {word : Text} :
    word ∈ (letters text).language ↔
      List.Forall₂ (fun letter c => Text.sameLetter letter c) text.toList word := by
  have hclasses : letters text = all ((text.toList.map Text.sameLetter).map .one) := by
    rw [letters, List.map_map]
    rfl
  rw [hclasses, mem_language_all_one, List.forall₂_map_left_iff]

theorem mem_language_star_one {accepts : Char → Bool} {word : Text} :
    word ∈ (star (.one accepts)).language ↔ ∀ c ∈ word, accepts c := by
  rw [star, language, Language.mem_kstar]
  constructor
  · rintro ⟨words, rfl, hwords⟩ c hc
    obtain ⟨part, hpart, hmem⟩ := List.mem_flatten.mp hc
    obtain ⟨d, hd, rfl⟩ := hwords part hpart
    rwa [List.mem_singleton.mp hmem]
  · intro h
    refine ⟨word.map ([·]), ?_, fun part hpart => ?_⟩
    · rw [← List.flatMap_def, List.flatMap_singleton']
    · obtain ⟨c, hc, rfl⟩ := List.mem_map.mp hpart
      exact ⟨c, h c hc, rfl⟩

theorem mem_language_plus_one {accepts : Char → Bool} {word : Text} :
    word ∈ (plus (.one accepts)).language ↔ word ≠ [] ∧ ∀ c ∈ word, accepts c := by
  rw [plus, language, Language.mem_mul]
  constructor
  · rintro ⟨_, ⟨c, hc, rfl⟩, rest, hrest, rfl⟩
    exact ⟨List.cons_ne_nil _ _, List.forall_mem_cons.mpr ⟨hc, mem_language_star_one.mp hrest⟩⟩
  · rintro ⟨hne, hall⟩
    obtain ⟨c, rest, rfl⟩ := List.exists_cons_of_ne_nil hne
    obtain ⟨hc, hrest⟩ := List.forall_mem_cons.mp hall
    exact ⟨[c], ⟨c, hc, rfl⟩, rest, mem_language_star_one.mpr hrest, rfl⟩

end Pattern

end MarkdownCheck
