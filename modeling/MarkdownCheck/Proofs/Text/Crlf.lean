import MarkdownCheck.Proofs.Text.Find
import MarkdownCheck.Proofs.Text.Lines

/-!
# Line feeds with carriage returns

The same text may be written with a line feed at the end of each line, or with a carriage return and
a line feed.

- `Text.toCrlf`: a text with a carriage return in front of every line feed.
- `Text.toCrlf_injective`: such a text tells what it has been made from.
- `Text.exists_of_toCrlf_eq_append`: its parts are made from parts, unless a carriage return is cut
  off from its line feed.
- `Text.cut_toCrlf`: words without line ends stand at the same places.
- `Text.lines_toCrlf`: a text without carriage returns keeps its lines.
-/

namespace MarkdownCheck.Text

/-- A text with a carriage return in front of every line feed. -/
def toCrlf (text : Text) : Text :=
  text.flatMap fun c => if c = '\n' then ['\r', '\n'] else [c]

@[simp] theorem toCrlf_nil : toCrlf [] = [] :=
  rfl

@[simp] theorem toCrlf_feed (rest : Text) : toCrlf ('\n' :: rest) = '\r' :: '\n' :: toCrlf rest :=
  rfl

theorem toCrlf_cons {c : Char} (h : c ≠ '\n') (rest : Text) :
    toCrlf (c :: rest) = c :: toCrlf rest := by
  rw [toCrlf, List.flatMap_cons, if_neg h]
  rfl

@[simp] theorem toCrlf_append (front rest : Text) :
    toCrlf (front ++ rest) = toCrlf front ++ toCrlf rest :=
  List.flatMap_append

/-- A text without line feeds stays as it is. -/
theorem toCrlf_eq_self {text : Text} (h : '\n' ∉ text) : toCrlf text = text := by
  induction text with
  | nil => rfl
  | cons c rest ih =>
    rw [List.mem_cons, not_or] at h
    rw [toCrlf_cons (Ne.symm h.1), ih h.2]

/-! ## Characters -/

/-- What holds of carriage returns if it holds of line feeds. -/
theorem forall_mem_toCrlf {p : Char → Prop} (hp : p '\n' → p '\r') {text : Text} :
    (∀ c ∈ toCrlf text, p c) ↔ ∀ c ∈ text, p c := by
  induction text with
  | nil => rfl
  | cons c rest ih =>
    by_cases hc : c = '\n'
    · rw [hc, toCrlf_feed, List.forall_mem_cons, List.forall_mem_cons, List.forall_mem_cons, ih]
      exact ⟨fun h => h.2, fun h => ⟨hp h.1, h⟩⟩
    · rw [toCrlf_cons hc, List.forall_mem_cons, List.forall_mem_cons, ih]

theorem head?_toCrlf (text : Text) :
    (toCrlf text).head? = text.head?.map fun c => if c = '\n' then '\r' else c := by
  cases text with
  | nil => rfl
  | cons c rest =>
    by_cases hc : c = '\n'
    · rw [hc]
      rfl
    · rw [toCrlf_cons hc, List.head?_cons, List.head?_cons, Option.map_some, if_neg hc]

theorem head?_toCrlf_ne_feed (text : Text) : (toCrlf text).head? ≠ some '\n' := by
  rw [head?_toCrlf]
  intro h
  obtain ⟨c, -, hc⟩ := Option.map_eq_some_iff.mp h
  split at hc
  · cases hc
  · next hne => exact hne hc

theorem head?_toCrlf_eq_some_iff {text : Text} {c : Char} (h : ¬ isLineEnd c) :
    (toCrlf text).head? = some c ↔ text.head? = some c := by
  rw [head?_toCrlf]
  cases text with
  | nil => rfl
  | cons d rest =>
    rw [List.head?_cons, Option.map_some, Option.some_inj, Option.some_inj]
    split
    · next hd =>
      rw [hd]
      constructor
      · rintro rfl
        exact absurd rfl h
      · rintro rfl
        exact absurd rfl h
    · rfl

theorem getLast?_toCrlf (text : Text) : (toCrlf text).getLast? = text.getLast? := by
  rcases text.eq_nil_or_concat with rfl | ⟨front, last, rfl⟩
  · rfl
  · rw [List.concat_eq_append, toCrlf_append, List.getLast?_append, List.getLast?_concat]
    by_cases hlast : last = '\n'
    · rw [hlast]
      rfl
    · rw [toCrlf_cons hlast]
      rfl

theorem isEmpty_toCrlf (text : Text) : (toCrlf text).isEmpty = text.isEmpty := by
  cases text with
  | nil => rfl
  | cons c rest =>
    by_cases hc : c = '\n'
    · rw [hc]
      rfl
    · rw [toCrlf_cons hc]
      rfl

/-! ## What a text has been made from -/

/-- A text with carriage returns tells what it has been made from. -/
theorem toCrlf_injective : toCrlf.Injective := by
  intro text other h
  induction text generalizing other with
  | nil =>
    have hempty := isEmpty_toCrlf other
    rw [← h] at hempty
    exact (List.isEmpty_iff.mp hempty.symm).symm
  | cons c rest ih =>
    cases other with
    | nil =>
      have hempty := isEmpty_toCrlf (c :: rest)
      rw [h] at hempty
      cases hempty
    | cons d rest' =>
      by_cases hc : c = '\n' <;> by_cases hd : d = '\n'
      · rw [hc, hd, toCrlf_feed, toCrlf_feed, List.cons.injEq, List.cons.injEq] at h
        rw [hc, hd, ih h.2.2]
      · rw [hc, toCrlf_feed, toCrlf_cons hd] at h
        exact absurd (congrArg List.head? (List.cons.inj h).2).symm (head?_toCrlf_ne_feed rest')
      · rw [hd, toCrlf_feed, toCrlf_cons hc] at h
        exact absurd (congrArg List.head? (List.cons.inj h).2) (head?_toCrlf_ne_feed rest)
      · rw [toCrlf_cons hc, toCrlf_cons hd, List.cons.injEq] at h
        rw [h.1, ih h.2]

/-- The parts of such a text are made from parts, unless the cut between them goes through a line
end. -/
theorem exists_of_toCrlf_eq_append {text front rest : Text} (h : toCrlf text = front ++ rest)
    (hcut : front.getLast? = some '\r' → rest.head? ≠ some '\n') :
    ∃ front' rest', text = front' ++ rest' ∧ toCrlf front' = front ∧ toCrlf rest' = rest := by
  induction text generalizing front with
  | nil =>
    obtain ⟨rfl, rfl⟩ := List.nil_eq_append_iff.mp h
    exact ⟨[], [], rfl, rfl, rfl⟩
  | cons c text ih =>
    cases front with
    | nil => exact ⟨[], c :: text, rfl, rfl, h⟩
    | cons d front =>
      by_cases hc : c = '\n'
      · rw [hc, toCrlf_feed, List.cons_append, List.cons.injEq] at h
        obtain ⟨rfl, h⟩ := h
        cases front with
        | nil =>
          rw [List.nil_append] at h
          exact absurd (congrArg List.head? h.symm) (hcut rfl)
        | cons e front =>
          rw [List.cons_append, List.cons.injEq] at h
          obtain ⟨rfl, h⟩ := h
          obtain ⟨front', rest', rfl, rfl, rfl⟩ := ih h fun hlast =>
            hcut (by rw [List.getLast?_cons, List.getLast?_cons, hlast]; rfl)
          exact ⟨'\n' :: front', rest', by rw [hc, List.cons_append], rfl, rfl⟩
      · rw [toCrlf_cons hc, List.cons_append, List.cons.injEq] at h
        obtain ⟨rfl, h⟩ := h
        obtain ⟨front', rest', rfl, rfl, rfl⟩ := ih h fun hlast =>
          hcut (by rw [List.getLast?_cons, hlast]; rfl)
        exact ⟨c :: front', rest', rfl, toCrlf_cons hc front', rfl⟩

/-- A word without line ends is made from itself. -/
theorem exists_of_toCrlf_eq_word_append {text word rest : Text}
    (hword : ∀ c ∈ word, ¬ isLineEnd c) (h : toCrlf text = word ++ rest) :
    ∃ rest', text = word ++ rest' ∧ toCrlf rest' = rest := by
  obtain ⟨front', rest', rfl, hfront, hrest⟩ := exists_of_toCrlf_eq_append h fun hlast =>
    absurd rfl (hword '\r' (List.mem_of_getLast? hlast))
  have hfeed : '\n' ∉ word := fun hmem => hword '\n' hmem rfl
  rw [← toCrlf_eq_self hfeed] at hfront
  exact ⟨rest', by rw [toCrlf_injective hfront], hrest⟩

/-! ## Words without line ends -/

section

variable {word : Text} (hword : ∀ c ∈ word, ¬ isLineEnd c)

include hword

theorem dropPrefix?_toCrlf (text : Text) :
    dropPrefix? word (toCrlf text) = (dropPrefix? word text).map toCrlf := by
  induction word generalizing text with
  | nil => rfl
  | cons w word ih =>
    obtain ⟨hw, hword⟩ := List.forall_mem_cons.mp hword
    cases text with
    | nil => rfl
    | cons c rest =>
      by_cases hc : c = '\n'
      · have hreturn : w ≠ '\r' := fun h => hw (h ▸ rfl)
        have hfeed : w ≠ '\n' := fun h => hw (h ▸ rfl)
        rw [hc, toCrlf_feed, dropPrefix?, dropPrefix?, if_neg hreturn, if_neg hfeed]
        rfl
      · rw [toCrlf_cons hc, dropPrefix?, dropPrefix?]
        split
        · exact ih hword rest
        · rfl

/-- Words without line ends stand at the same places. -/
theorem cut_toCrlf (text : Text) :
    cut word (toCrlf text) = (cut word text).map (Prod.map toCrlf toCrlf) := by
  induction text with
  | nil =>
    cases word with
    | nil => rfl
    | cons w word => rfl
  | cons c rest ih =>
    have hdrop := dropPrefix?_toCrlf hword (c :: rest)
    cases hfound : dropPrefix? word (c :: rest) with
    | some found =>
      rw [hfound, Option.map_some] at hdrop
      rw [cut_of_dropPrefix?_eq_some hfound, cut_of_dropPrefix?_eq_some hdrop]
      rfl
    | none =>
      rw [hfound, Option.map_none] at hdrop
      rw [cut_cons_of_dropPrefix?_eq_none hfound, Option.map_map]
      by_cases hc : c = '\n'
      · -- the word does not stand between the two characters either
        have hfeed : dropPrefix? word ('\n' :: toCrlf rest) = none := by
          rw [hc] at hfound
          cases word with
          | nil => cases hfound
          | cons w word =>
            have hw : w ≠ '\n' := fun h => hword w List.mem_cons_self (h ▸ rfl)
            rw [dropPrefix?, if_neg hw]
        rw [hc, toCrlf_feed] at hdrop ⊢
        rw [cut_cons_of_dropPrefix?_eq_none hdrop, cut_cons_of_dropPrefix?_eq_none hfeed, ih,
          Option.map_map, Option.map_map]
        rfl
      · rw [toCrlf_cons hc] at hdrop ⊢
        rw [cut_cons_of_dropPrefix?_eq_none hdrop, ih, Option.map_map]
        congr 1
        funext found
        exact Prod.ext (toCrlf_cons hc found.1).symm rfl

theorem includes_toCrlf (text : Text) : includes word (toCrlf text) = includes word text := by
  rw [includes, cut_toCrlf hword, Option.isSome_map, includes]

end

/-! ## Lines -/

/-- A text without carriage returns keeps its lines. -/
theorem lines_toCrlf {text : Text} (h : '\r' ∉ text) : lines (toCrlf text) = lines text := by
  induction text with
  | nil => rfl
  | cons c rest ih =>
    rw [List.mem_cons, not_or] at h
    by_cases hc : c = '\n'
    · have hfeed : lines (['\r', '\n'] ++ toCrlf rest) = [] :: lines (toCrlf rest) :=
        (Ends.returnAndFeed _).lines_append
      rw [hc, lines_cons_of_isTerminator rfl (by decide), ← ih h.2]
      exact hfeed
    · rw [toCrlf_cons hc]
      by_cases hterm : isTerminator c
      · rw [lines_cons_of_isTerminator hterm (Ne.symm h.1),
          lines_cons_of_isTerminator hterm (Ne.symm h.1), ih h.2]
      · rw [lines_cons_of_not_isTerminator hterm, lines_cons_of_not_isTerminator hterm, ih h.2]

end MarkdownCheck.Text
