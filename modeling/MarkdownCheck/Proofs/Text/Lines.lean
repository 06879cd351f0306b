import Mathlib.Data.List.ModifyLast
import MarkdownCheck.Text.Lines

/-!
# What the lines of a text depend on

A text is cut at its terminators, so its lines hold none of them, and what the other characters are
plays no part in where it is cut.

- `Text.Ends`: a terminator in front of the rest of a text.
- `Text.lines_rec`: a text is read terminator by terminator and character by character.
- `Text.flatten_lines`: lines hold all characters but terminators.
- `Text.lines_map`: characters may be replaced, if terminators stay and no new ones come up.
- `Text.map_length_lines_eq_iff`: losing a terminator changes the length of some line.
- `Text.lines_append_of_not_splits`: the lines of two texts together, unless the cut between them
  goes through a terminator.
- `Text.lines_append_of_getLast?`, `Text.lines_append_of_splits`: the same where a terminator ends
  the first text.
- `Text.lines_append`: what holds no terminator makes the last line longer.
-/

namespace MarkdownCheck.Text

/-! ## Terminators -/

theorem isTerminator_of_isLineEnd {c : Char} (h : isLineEnd c) : isTerminator c := by
  rw [isLineEnd, Bool.or_eq_true, decide_eq_true_eq, decide_eq_true_eq] at h
  rcases h with rfl | rfl
  all_goals rfl

/-- A terminator that stands in front of the rest of a text, the longest one where two fit. -/
inductive Ends : Text → Text → Prop
  | returnAndFeed (rest : Text) : Ends ['\r', '\n'] rest
  | returnAndNext (rest : Text) : Ends ['\r', '\u0085'] rest
  | single {c : Char} {rest : Text} (hc : isTerminator c)
    (hnext : c = '\r' → ∀ d ∈ rest.head?, d ≠ '\n' ∧ d ≠ '\u0085') : Ends [c] rest

theorem Ends.isTerminator_of_mem {ending rest : Text} (h : Ends ending rest) {c : Char}
    (hc : c ∈ ending) : isTerminator c := by
  cases h with
  | returnAndFeed | returnAndNext =>
    simp only [List.mem_cons, List.not_mem_nil, or_false] at hc
    rcases hc with rfl | rfl <;> rfl
  | single hend => rwa [List.mem_singleton.mp hc]

/-! ## Reading a text -/

theorem Ends.lines_append {ending rest : Text} (h : Ends ending rest) :
    lines (ending ++ rest) = [] :: lines rest := by
  cases h with
  | returnAndFeed => rfl
  | returnAndNext => rfl
  | single hc hnext =>
    rw [List.singleton_append, lines, if_pos hc]
    · rintro _ rfl rfl
      exact (hnext rfl _ rfl).1 rfl
    · rintro _ rfl rfl
      exact (hnext rfl _ rfl).2 rfl

theorem lines_singleton {c : Char} (h : isTerminator c) : lines [c] = [[], []] :=
  Ends.lines_append (.single h fun _ _ hd => absurd hd (Option.not_mem_none _))

theorem lines_cons_of_isTerminator {c : Char} (h : isTerminator c) (hreturn : c ≠ '\r')
    (rest : Text) : lines (c :: rest) = [] :: lines rest :=
  Ends.lines_append (.single h fun heq => absurd heq hreturn)

theorem lines_cons_of_not_isTerminator {c : Char} (h : ¬ isTerminator c) (rest : Text) :
    lines (c :: rest) = (lines rest).modifyHead (c :: ·) := by
  obtain ⟨line, more, hlines⟩ := List.exists_cons_of_ne_nil (lines_ne_nil rest)
  rw [lines, if_neg h, hlines, List.modifyHead_cons]
  all_goals
    rintro _ rfl
    exact absurd rfl h

/-- A text is read terminator by terminator and character by character. -/
theorem lines_rec {motive : Text → Prop} (nil : motive [])
    (ended : ∀ ending rest, Ends ending rest → motive rest → motive (ending ++ rest))
    (other : ∀ c rest, ¬ isTerminator c → motive rest → motive (c :: rest)) (text : Text) :
    motive text := by
  fun_induction lines text with
  | case1 => exact nil
  | case2 rest ih => exact ended _ rest (.returnAndFeed rest) ih
  | case3 rest ih => exact ended _ rest (.returnAndNext rest) ih
  | case4 c rest hfeed hnext hc ih =>
    refine ended [c] rest (.single hc fun hreturn d hd => ?_) ih
    obtain ⟨after, rfl⟩ := List.head?_eq_some_iff.mp hd
    refine ⟨?_, ?_⟩
    · rintro rfl
      exact hfeed after hreturn rfl
    · rintro rfl
      exact hnext after hreturn rfl
  | case5 c rest _ _ hc _ ih => exact other c rest hc ih
  | case6 c rest _ _ hc _ _ _ ih => exact other c rest hc ih

/-- Lines hold all characters but terminators. -/
theorem flatten_lines (text : Text) :
    (lines text).flatten = text.filter fun c => !isTerminator c := by
  induction text using lines_rec with
  | nil => rfl
  | ended ending rest hends ih =>
    have hnone : (ending.filter fun c => !isTerminator c) = [] := by
      rw [List.filter_eq_nil_iff]
      intro c hc
      simp [hends.isTerminator_of_mem hc]
    rw [hends.lines_append, List.flatten_cons, ih, List.filter_append, hnone]
  | other c rest hc ih =>
    obtain ⟨first, more, hlines⟩ := List.exists_cons_of_ne_nil (lines_ne_nil rest)
    rw [lines_cons_of_not_isTerminator hc, List.filter_cons_of_pos (by simpa using hc), ← ih,
      hlines]
    rfl

theorem not_isTerminator_of_mem_lines {text line : Text} (h : line ∈ lines text) {c : Char}
    (hc : c ∈ line) : ¬ isTerminator c := by
  have hmem : c ∈ (lines text).flatten := List.mem_flatten.mpr ⟨line, h, hc⟩
  rw [flatten_lines] at hmem
  simpa using (List.mem_filter.mp hmem).2

/-! ## Replacing characters -/

theorem map_modifyHead_cons (f : Char → Char) (c : Char) (lines : List Text) :
    (lines.modifyHead (c :: ·)).map (List.map f) =
      (lines.map (List.map f)).modifyHead (f c :: ·) := by
  cases lines <;> rfl

section

variable {f : Char → Char} (hkeep : ∀ c, isTerminator c → f c = c)
  (hnew : ∀ c, isTerminator (f c) → isTerminator c)

include hkeep hnew

theorem Ends.map {ending rest : Text} (h : Ends ending rest) :
    Ends (ending.map f) (rest.map f) := by
  cases h with
  | returnAndFeed =>
    rw [List.map_cons, List.map_singleton, hkeep _ rfl, hkeep _ rfl]
    exact .returnAndFeed _
  | returnAndNext =>
    rw [List.map_cons, List.map_singleton, hkeep _ rfl, hkeep _ rfl]
    exact .returnAndNext _
  | @single c _ hc hnext =>
    rw [List.map_singleton, hkeep c hc]
    refine .single hc fun hreturn d hd => ?_
    rw [List.head?_map] at hd
    obtain ⟨e, he, rfl⟩ := Option.map_eq_some_iff.mp hd
    -- what is a terminator afterwards has been the same one before
    by_cases hterm : isTerminator e
    · rw [hkeep e hterm]
      exact hnext hreturn e he
    · have hnone := mt (hnew e) hterm
      refine ⟨?_, ?_⟩
      · intro heq
        exact hnone (heq ▸ rfl)
      · intro heq
        exact hnone (heq ▸ rfl)

/-- Characters may be replaced, if terminators stay and no new ones come up. -/
theorem lines_map (text : Text) : lines (text.map f) = (lines text).map (List.map f) := by
  induction text using lines_rec with
  | nil => rfl
  | ended ending rest hends ih =>
    rw [List.map_append, (hends.map hkeep hnew).lines_append, hends.lines_append, ih,
      List.map_cons, List.map_nil]
  | other c rest hc ih =>
    rw [List.map_cons, lines_cons_of_not_isTerminator (mt (hnew c) hc),
      lines_cons_of_not_isTerminator hc, ih, map_modifyHead_cons]

end

/-! ## Lengths of lines -/

/-- Shows a terminator as itself and every other character as a space. -/
def mask (c : Char) : Char :=
  if isTerminator c then c else ' '

theorem mask_of_isTerminator {c : Char} (h : isTerminator c) : mask c = c :=
  if_pos h

theorem isTerminator_of_isTerminator_mask {c : Char} (h : isTerminator (mask c)) :
    isTerminator c := by
  rw [mask] at h
  split at h
  · next hc => exact hc
  · cases h

theorem map_length_lines_mask (text : Text) :
    (lines (text.map mask)).map List.length = (lines text).map List.length := by
  rw [lines_map (fun _ => mask_of_isTerminator) fun _ => isTerminator_of_isTerminator_mask,
    List.map_map]
  exact List.map_congr_left fun line _ => List.length_map mask

/-- A text in step with a longer one goes along with a part of it. -/
theorem map_snd_zip_of_le {xs ys : Text} (h : xs.length ≤ ys.length) :
    (xs.zip ys).map Prod.snd = ys.take xs.length := by
  induction xs generalizing ys with
  | nil => rfl
  | cons x xs ih =>
    cases ys with
    | nil => cases h
    | cons y ys =>
      rw [List.zip_cons_cons, List.map_cons, ih (Nat.le_of_succ_le_succ h), List.length_cons,
        List.take_succ_cons]

/-- Of two texts in step, let every terminator of the second one be one of the first. Their lines
are of the same lengths if and only if the second one has all terminators of the first. -/
theorem map_length_lines_eq_iff {pairs : List (Char × Char)}
    (h : ∀ pair ∈ pairs, isTerminator pair.2 → pair.1 = pair.2) :
    (lines (pairs.map Prod.snd)).map List.length = (lines (pairs.map Prod.fst)).map List.length ↔
      ∀ pair ∈ pairs, isTerminator pair.1 → pair.1 = pair.2 := by
  constructor
  · intro hlength pair hpair hfirst
    -- lines as long as before in total hold as many characters that are no terminators
    have hcount : (pairs.filter fun pair => !isTerminator pair.1).length =
        (pairs.filter fun pair => !isTerminator pair.2).length := by
      have htotal := congrArg List.sum hlength
      rw [← List.length_flatten, ← List.length_flatten, flatten_lines, flatten_lines,
        List.filter_map, List.filter_map, List.length_map, List.length_map] at htotal
      exact htotal.symm
    have hboth : (pairs.filter fun pair => !isTerminator pair.1) =
        (pairs.filter fun pair => !isTerminator pair.2).filter
          fun pair => !isTerminator pair.1 := by
      rw [List.filter_filter]
      refine List.filter_congr fun pair hpair => ?_
      have hpair := h pair hpair
      cases hsecond : isTerminator pair.2 with
      | false => rw [Bool.not_false, Bool.and_true]
      | true => rw [hpair hsecond, hsecond, Bool.not_true, Bool.and_false]
    have hsub : (pairs.filter fun pair => !isTerminator pair.1).Sublist
        (pairs.filter fun pair => !isTerminator pair.2) := by
      rw [hboth]
      exact List.filter_sublist
    have hsame := hsub.eq_of_length hcount
    refine h pair hpair (Classical.not_not.mp fun hsecond => ?_)
    have hmem : pair ∈ pairs.filter fun pair => !isTerminator pair.2 :=
      List.mem_filter.mpr ⟨hpair, by simpa using hsecond⟩
    rw [← hsame] at hmem
    simp [hfirst] at hmem
  · intro hkeep
    have hmask : (pairs.map Prod.snd).map mask = (pairs.map Prod.fst).map mask := by
      rw [List.map_map, List.map_map]
      refine List.map_congr_left fun pair hpair => ?_
      show mask pair.2 = mask pair.1
      by_cases hfirst : isTerminator pair.1
      · rw [hkeep pair hpair hfirst]
      · have hsecond : ¬ isTerminator pair.2 := fun hsecond =>
          hfirst (h pair hpair hsecond ▸ hsecond)
        rw [mask, mask, if_neg hfirst, if_neg hsecond]
    rw [← map_length_lines_mask, hmask, map_length_lines_mask]

/-! ## Two texts together -/

/-- The cut between two texts goes through a terminator. -/
def Splits (front rest : Text) : Prop :=
  front.getLast? = some '\r' ∧ ∃ c ∈ rest.head?, c = '\n' ∨ c = '\u0085'

theorem Splits.append_left {front rest : Text} (h : Splits front rest) (before : Text) :
    Splits (before ++ front) rest :=
  ⟨by rw [List.getLast?_append, h.1, Option.some_or], h.2⟩

theorem Ends.append {ending rest tail : Text} (h : Ends ending rest)
    (hcut : ¬ Splits (ending ++ rest) tail) : Ends ending (rest ++ tail) := by
  cases h with
  | returnAndFeed => exact .returnAndFeed _
  | returnAndNext => exact .returnAndNext _
  | @single c _ hc hnext =>
    refine .single hc fun hreturn d hd => ?_
    cases rest with
    | cons => exact hnext hreturn d hd
    | nil =>
      have hlast : ([c] ++ []).getLast? = some '\r' := congrArg some hreturn
      exact not_or.mp fun heq => hcut ⟨hlast, d, hd, heq⟩

theorem exists_lines_eq_concat (text : Text) : ∃ others last, lines text = others ++ [last] := by
  obtain ⟨others, last, h⟩ := (lines text).eq_nil_or_concat.resolve_left (lines_ne_nil text)
  exact ⟨others, last, by rw [h, List.concat_eq_append]⟩

/-- Unless the cut between two texts goes through a terminator, the last line of the first one and
the first line of the second one are joined, and the other lines stay. -/
theorem lines_append_of_not_splits {front rest : Text} (hcut : ¬ Splits front rest)
    {others more : List Text} {last first : Text} (hfront : lines front = others ++ [last])
    (hrest : lines rest = first :: more) :
    lines (front ++ rest) = others ++ (last ++ first) :: more := by
  induction front using lines_rec generalizing others last with
  | nil =>
    have hnil : [] ++ [[]] = others ++ [last] := hfront
    obtain ⟨rfl, hlast⟩ := List.append_inj' hnil rfl
    rw [← List.singleton_inj.mp hlast]
    exact hrest
  | ended ending behind hends ih =>
    rw [hends.lines_append] at hfront
    cases others with
    | nil => exact absurd (List.cons.inj hfront).2 (lines_ne_nil behind)
    | cons line others =>
      obtain ⟨rfl, hbehind⟩ := List.cons.inj hfront
      rw [List.append_assoc, (hends.append hcut).lines_append,
        ih (fun h => hcut (h.append_left ending)) hbehind]
      rfl
  | other c behind hc ih =>
    -- the character makes the first line longer, which may be the last one too
    obtain ⟨others', last', hbehind⟩ := exists_lines_eq_concat behind
    rw [lines_cons_of_not_isTerminator hc, hbehind] at hfront
    rw [List.cons_append, lines_cons_of_not_isTerminator hc,
      ih (fun h => hcut (h.append_left [c])) hbehind]
    cases others' with
    | nil =>
      have hfront : [] ++ [c :: last'] = others ++ [last] := hfront
      obtain ⟨rfl, hlast⟩ := List.append_inj' hfront rfl
      rw [← List.singleton_inj.mp hlast]
      rfl
    | cons line others' =>
      have hfront : (c :: line) :: others' ++ [last'] = others ++ [last] := hfront
      obtain ⟨rfl, hlast⟩ := List.append_inj' hfront rfl
      rw [← List.singleton_inj.mp hlast]
      rfl

/-- A carriage return is not the second part of a terminator. -/
theorem not_splits_return (front tail : Text) : ¬ Splits front ('\r' :: tail) := by
  rintro ⟨-, c, hc, rfl | rfl⟩
  all_goals cases hc

/-- The lines of a text that a terminator ends. -/
theorem exists_lines_eq_of_getLast? {text : Text} {c : Char} (hc : text.getLast? = some c)
    (hterm : isTerminator c) : ∃ others, lines text = others ++ [[]] := by
  obtain ⟨before, rfl⟩ := List.getLast?_eq_some_iff.mp hc
  obtain ⟨others, last, hbefore⟩ := exists_lines_eq_concat before
  by_cases hcut : Splits before [c]
  · -- the terminator is the second part of a longer one
    obtain ⟨hreturn, d, hd, hnext⟩ := hcut
    obtain rfl := Option.some.inj hd
    obtain ⟨front, rfl⟩ := List.getLast?_eq_some_iff.mp hreturn
    obtain ⟨others, last, hfront⟩ := exists_lines_eq_concat front
    have hwhole : lines ['\r', c] = [[], []] := by
      rcases hnext with rfl | rfl
      all_goals rfl
    refine ⟨others ++ [last], ?_⟩
    rw [List.append_assoc, List.singleton_append,
      lines_append_of_not_splits (not_splits_return front [c]) hfront hwhole]
    simp
  · refine ⟨others ++ [last], ?_⟩
    rw [lines_append_of_not_splits hcut hbefore (lines_singleton hterm)]
    simp

/-- Where a terminator ends the first text, the second one starts a new line. -/
theorem lines_append_of_getLast? {front rest : Text} {c : Char} (hc : front.getLast? = some c)
    (hterm : isTerminator c) (hcut : ¬ Splits front rest) :
    lines (front ++ rest) = (lines front).dropLast ++ lines rest := by
  obtain ⟨others, hlines⟩ := exists_lines_eq_of_getLast? hc hterm
  obtain ⟨first, more, hrest⟩ := List.exists_cons_of_ne_nil (lines_ne_nil rest)
  rw [lines_append_of_not_splits hcut hlines hrest, hlines, hrest, List.dropLast_concat,
    List.nil_append]

/-- Of a terminator that is cut, each part ends a line of its own text, but the whole of it ends
only one line. -/
theorem lines_append_of_splits {front rest : Text} (h : Splits front rest) :
    ∃ more, lines rest = [] :: more ∧ lines (front ++ rest) = (lines front).dropLast ++ more := by
  obtain ⟨hreturn, d, hd, hnext⟩ := h
  obtain ⟨before, rfl⟩ := List.getLast?_eq_some_iff.mp hreturn
  obtain ⟨after, rfl⟩ := List.head?_eq_some_iff.mp hd
  obtain ⟨others, last, hbefore⟩ := exists_lines_eq_concat before
  have hfront : lines (before ++ ['\r']) = others ++ [last ++ [], []] :=
    lines_append_of_not_splits (not_splits_return before []) hbefore (lines_singleton rfl)
  have hwhole : lines ('\r' :: d :: after) = [] :: lines after := by
    rcases hnext with rfl | rfl
    all_goals rfl
  have hsecond : lines (d :: after) = [] :: lines after := by
    rcases hnext with rfl | rfl
    all_goals exact lines_cons_of_isTerminator rfl (by decide) after
  refine ⟨lines after, hsecond, ?_⟩
  rw [hfront, List.append_assoc, List.singleton_append,
    lines_append_of_not_splits (not_splits_return before _) hbefore hwhole]
  simp

/-! ## Making the last line longer -/

theorem lines_of_no_terminators {text : Text} (h : ∀ c ∈ text, ¬ isTerminator c) :
    lines text = [text] := by
  induction text with
  | nil => rfl
  | cons c rest ih =>
    rw [lines_cons_of_not_isTerminator (h c List.mem_cons_self),
      ih fun d hd => h d (List.mem_cons_of_mem _ hd)]
    rfl

theorem modifyLast_injective {α : Type} {f : α → α} (hf : f.Injective) :
    (List.modifyLast f).Injective := by
  intro xs ys h
  rcases xs.eq_nil_or_concat with rfl | ⟨front, last, rfl⟩ <;>
    rcases ys.eq_nil_or_concat with rfl | ⟨front', last', rfl⟩
  · rfl
  · rw [List.concat_eq_append, List.modifyLast_concat] at h
    exact absurd h.symm (List.concat_ne_nil _ _)
  · rw [List.concat_eq_append, List.modifyLast_concat] at h
    exact absurd h (List.concat_ne_nil _ _)
  · rw [List.concat_eq_append, List.concat_eq_append, List.modifyLast_concat,
      List.modifyLast_concat] at h
    obtain ⟨rfl, hlast⟩ := List.append_inj' h rfl
    rw [List.concat_eq_append, List.concat_eq_append, hf (List.singleton_inj.mp hlast)]

/-- What holds no terminator makes the last line longer. -/
theorem lines_append {tail : Text} (h : ∀ c ∈ tail, ¬ isTerminator c) (text : Text) :
    lines (text ++ tail) = (lines text).modifyLast (· ++ tail) := by
  have hcut : ¬ Splits text tail := by
    rintro ⟨-, c, hc, rfl | rfl⟩
    · exact h _ (List.mem_of_head? hc) rfl
    · exact h _ (List.mem_of_head? hc) rfl
  obtain ⟨others, last, hlines⟩ := exists_lines_eq_concat text
  rw [lines_append_of_not_splits hcut hlines (lines_of_no_terminators h), hlines,
    List.modifyLast_concat]

theorem map_length_lines_append {tail : Text} (h : ∀ c ∈ tail, ¬ isTerminator c) (text : Text) :
    (lines (text ++ tail)).map List.length =
      ((lines text).map List.length).modifyLast (· + tail.length) := by
  obtain ⟨others, last, hlines⟩ := exists_lines_eq_concat text
  rw [lines_append h, hlines, List.modifyLast_concat, List.map_append, List.map_append,
    List.map_singleton, List.map_singleton, List.modifyLast_concat, List.length_append]

end MarkdownCheck.Text
