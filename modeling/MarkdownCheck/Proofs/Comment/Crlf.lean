import MarkdownCheck.Proofs.Comment.Parts
import MarkdownCheck.Proofs.Text.Crlf

/-!
# Clearing a text with carriage returns

Delimiters hold no line ends, and what is asked of an interior, or written for it, is the same for a
line feed and for a carriage return with a line feed. So it makes no difference whether carriage
returns are put in before or after a text is cleared.

- `Comment.isBlankable_toCrlf`, `Comment.isBlanked_toCrlf`, `Comment.isDirective_toCrlf`: the tests
  of a comment.
- `Comment.blank_toCrlf`: its blanks.
- `Comment.clear_toCrlf`: a cleared text.
-/

namespace MarkdownCheck.Comment

open Text (toCrlf)

/-! ## Delimiters and tests -/

theorem not_isLineEnd_opener : ∀ c ∈ opener, ¬ Text.isLineEnd c :=
  List.any_eq_false.mp rfl

theorem not_isLineEnd_closer : ∀ c ∈ closer, ¬ Text.isLineEnd c :=
  List.any_eq_false.mp rfl

theorem toCrlf_opener : toCrlf opener = opener :=
  rfl

theorem toCrlf_closer : toCrlf closer = closer :=
  rfl

theorem isBlankable_toCrlf (interior : Text) :
    isBlankable (toCrlf interior) = isBlankable interior := by
  have hstart : (toCrlf interior).head? = some '>' ↔ interior.head? = some '>' :=
    Text.head?_toCrlf_eq_some_iff (by decide)
  rw [isBlankable, isBlankable, Text.isEmpty_toCrlf, Text.getLast?_toCrlf,
    Text.includes_toCrlf (List.any_eq_false.mp rfl), decide_eq_decide.mpr (not_congr hstart)]

theorem blank_toCrlf (interior : Text) : blank (toCrlf interior) = toCrlf (blank interior) := by
  have hnext (rest : Text) :
      (toCrlf rest).head?.any Text.isLineEnd = rest.head?.any Text.isLineEnd := by
    rw [Text.head?_toCrlf, Option.any_map]
    congr 1
    funext c
    by_cases hc : c = '\n'
    · rw [hc]
      rfl
    · simp [hc]
  induction interior with
  | nil => rfl
  | cons c rest ih =>
    by_cases hc : c = '\n'
    · rw [hc, Text.toCrlf_feed, blank, blank, ih]
      rfl
    · -- what is shown is no line feed
      rw [Text.toCrlf_cons hc, blank, blank, ih, hnext, Text.toCrlf_cons]
      split
      · exact hc
      · split
        all_goals decide

theorem isBlanked_toCrlf (interior : Text) :
    isBlanked (toCrlf interior) = isBlanked interior := by
  rw [isBlanked, isBlanked, Text.getLast?_toCrlf]
  by_cases hlast : interior.getLast? = some escapeMark
  · obtain ⟨front, rfl⟩ := List.getLast?_eq_some_iff.mp hlast
    have hmark : toCrlf [escapeMark] = [escapeMark] := rfl
    rw [Text.toCrlf_append, hmark, List.dropLast_concat, List.dropLast_concat, blank_toCrlf]
    congr 1
    refine decide_eq_decide.mpr ?_
    rw [List.append_cancel_right_eq, List.append_cancel_right_eq, Text.toCrlf_injective.eq_iff]
  · rw [decide_eq_false hlast, Bool.false_and, Bool.false_and]

/-! ## Directives -/

theorem isLineEnd_of_sameLetter {letter c : Char} (h : Text.sameLetter letter c)
    (hc : Text.isLineEnd c) : Text.isLineEnd letter := by
  rw [Text.isLineEnd, Bool.or_eq_true, decide_eq_true_eq, decide_eq_true_eq] at hc
  rcases hc with rfl | rfl
  · have hletter : '\n' = letter := by simpa [Text.sameLetter] using h
    rw [← hletter]
    rfl
  · have hletter : '\r' = letter := by simpa [Text.sameLetter] using h
    rw [← hletter]
    rfl

/-- Words that are spelled with letters hold no line ends. -/
theorem not_isLineEnd_of_forall₂_sameLetter {letters word : Text}
    (h : List.Forall₂ (fun letter c => Text.sameLetter letter c) letters word)
    (hletters : ∀ letter ∈ letters, ¬ Text.isLineEnd letter) : ∀ c ∈ word, ¬ Text.isLineEnd c := by
  induction h with
  | nil => nofun
  | cons hc _ ih =>
    obtain ⟨hletter, hletters⟩ := List.forall_mem_cons.mp hletters
    exact List.forall_mem_cons.mpr ⟨mt (isLineEnd_of_sameLetter hc) hletter, ih hletters⟩

namespace DirectiveParts

variable {lead keyword names : Text}

theorem not_isLineEnd_of_mem_keyword (h : DirectiveParts lead keyword names) :
    ∀ c ∈ keyword, ¬ Text.isLineEnd c := by
  rcases h.keyword_spelled with h | h
  all_goals
    exact not_isLineEnd_of_forall₂_sameLetter (Pattern.mem_language_letters.mp h)
      (List.any_eq_false.mp (by decide))

theorem keyword_ne_nil (h : DirectiveParts lead keyword names) : keyword ≠ [] := by
  rintro rfl
  rcases h.keyword_spelled with h | h
  all_goals
    have hlength := (Pattern.mem_language_letters.mp h).length_eq
    revert hlength
    decide

/-- Line ends are blanks, with carriage returns or without. -/
theorem toCrlf_iff :
    DirectiveParts (toCrlf lead) keyword (toCrlf names) ↔ DirectiveParts lead keyword names := by
  have hlead : (∀ c ∈ toCrlf lead, Text.isBlank c) ↔ ∀ c ∈ lead, Text.isBlank c :=
    Text.forall_mem_toCrlf (p := fun c => Text.isBlank c) fun _ => rfl
  have hchars : (∀ c ∈ toCrlf names, Text.isBlank c ∨ isNameChar c) ↔
      ∀ c ∈ names, Text.isBlank c ∨ isNameChar c :=
    Text.forall_mem_toCrlf (p := fun c => Text.isBlank c ∨ isNameChar c) fun _ => .inl rfl
  have hhead : (∀ c ∈ (toCrlf names).head?, Text.isBlank c) ↔
      ∀ c ∈ names.head?, Text.isBlank c := by
    rw [Text.head?_toCrlf]
    cases names with
    | nil => rfl
    | cons c rest =>
      by_cases hc : c = '\n'
      · rw [hc]
        refine iff_of_true ?_ ?_
        · exact fun d hd => Option.some.inj hd ▸ rfl
        · exact fun d hd => Option.some.inj hd ▸ rfl
      · rw [List.head?_cons, Option.map_some, if_neg hc]
  constructor
  · exact fun h => ⟨hlead.mp h.1, h.2, hchars.mp h.3, hhead.mp h.4⟩
  · exact fun h => ⟨hlead.mpr h.1, h.2, hchars.mpr h.3, hhead.mpr h.4⟩

end DirectiveParts

theorem matchesAll_inlineDirective_toCrlf {text : Text} :
    Pattern.inlineDirective.MatchesAll (toCrlf text) ↔ Pattern.inlineDirective.MatchesAll text := by
  rw [matchesAll_inlineDirective_iff, matchesAll_inlineDirective_iff]
  constructor
  · rintro ⟨lead, keyword, names, hparts, htext⟩
    have hkeyword := hparts.not_isLineEnd_of_mem_keyword
    -- no part begins within a line end, as its neighbour has none
    obtain ⟨_, rfl, hlead⟩ := Text.exists_of_toCrlf_eq_word_append not_isLineEnd_opener htext
    obtain ⟨lead, _, rfl, rfl, hspelled⟩ := Text.exists_of_toCrlf_eq_append hlead fun _ hfeed => by
      obtain ⟨first, more, rfl⟩ := List.exists_cons_of_ne_nil hparts.keyword_ne_nil
      exact hkeyword first List.mem_cons_self (Option.some.inj hfeed ▸ rfl)
    obtain ⟨_, rfl, hnames⟩ := Text.exists_of_toCrlf_eq_word_append hkeyword hspelled
    obtain ⟨names, _, rfl, rfl, hclose⟩ := Text.exists_of_toCrlf_eq_append hnames fun _ => nofun
    rw [← List.append_nil closer] at hclose
    obtain ⟨_, rfl, hend⟩ := Text.exists_of_toCrlf_eq_word_append not_isLineEnd_closer hclose
    obtain rfl := Text.toCrlf_injective (hend.trans Text.toCrlf_nil.symm)
    exact ⟨lead, keyword, names, DirectiveParts.toCrlf_iff.mp hparts, by rw [List.append_nil]⟩
  · rintro ⟨lead, keyword, names, hparts, rfl⟩
    have hkeyword : '\n' ∉ keyword := fun hmem => hparts.not_isLineEnd_of_mem_keyword _ hmem rfl
    refine ⟨toCrlf lead, keyword, toCrlf names, DirectiveParts.toCrlf_iff.mpr hparts, ?_⟩
    rw [Text.toCrlf_append, Text.toCrlf_append, Text.toCrlf_append, Text.toCrlf_append,
      Text.toCrlf_eq_self hkeyword]
    rfl

/-- A comment with a well-formed interior is a directive with carriage returns or without. -/
theorem isDirective_toCrlf {interior : Text} (h : WellFormed interior) :
    isDirective (opener ++ (toCrlf interior ++ closer)) =
      isDirective (opener ++ (interior ++ closer)) := by
  have hcrlf : WellFormed (toCrlf interior) := by
    rw [← isBlankable_iff, isBlankable_toCrlf, isBlankable_iff]
    exact h
  have htext : opener ++ (toCrlf interior ++ closer) = toCrlf (opener ++ (interior ++ closer)) := by
    rw [Text.toCrlf_append, Text.toCrlf_append]
    rfl
  rw [Bool.eq_iff_iff, hcrlf.isDirective_iff, h.isDirective_iff, htext,
    matchesAll_inlineDirective_toCrlf]

/-! ## Clearing -/

theorem clearedTail_toCrlf (interior : Text) :
    clearedTail (toCrlf interior) = toCrlf (clearedTail interior) := by
  rw [clearedTail, clearedTail, isBlankable_toCrlf, isBlanked_toCrlf]
  split
  · rw [blank_toCrlf, Text.toCrlf_append]
    rfl
  · rfl

theorem clearedBody_toCrlf (interior : Text) :
    clearedBody (opener ++ toCrlf interior) = toCrlf (clearedBody (opener ++ interior)) := by
  rw [clearedBody_opener_append, clearedBody_opener_append, isBlankable_toCrlf]
  by_cases hblankable : isBlankable interior
  · rw [isDirective_toCrlf (isBlankable_iff.mp hblankable), Text.toCrlf_append, blank_toCrlf,
      apply_ite toCrlf]
    rfl
  · rw [Bool.eq_false_iff.mpr hblankable, Text.toCrlf_append]
    rfl

/-- Carriage returns may be put in before or after a text is cleared. -/
theorem clear_toCrlf (text : Text) : clear (toCrlf text) = toCrlf (clear text) := by
  induction text using comments_rec with
  | plain text hopen =>
    have hcrlf : Text.cut opener (toCrlf text) = none := by
      rw [Text.cut_toCrlf not_isLineEnd_opener, hopen, Option.map_none]
    rw [clear_of_cut_eq_none hopen, clear_of_cut_eq_none hcrlf]
  | unclosed text before rest hopen hclose =>
    have hopen' : Text.cut opener (toCrlf text) = some (toCrlf before, toCrlf rest) := by
      rw [Text.cut_toCrlf not_isLineEnd_opener, hopen, Option.map_some, Prod.map]
    have hclose' : Text.cut closer (opener ++ toCrlf rest) = none := by
      rw [← toCrlf_opener, ← Text.toCrlf_append, Text.cut_toCrlf not_isLineEnd_closer, hclose,
        Option.map_none]
    rw [clear_of_unclosed hopen hclose, clear_of_unclosed hopen' hclose', Text.toCrlf_append,
      Text.toCrlf_append, toCrlf_opener, clearedTail_toCrlf]
  | closed text before rest body behind hopen hclose ih =>
    have hopen' : Text.cut opener (toCrlf text) = some (toCrlf before, toCrlf rest) := by
      rw [Text.cut_toCrlf not_isLineEnd_opener, hopen, Option.map_some, Prod.map]
    have hclose' : Text.cut closer (opener ++ toCrlf rest) =
        some (toCrlf body, toCrlf behind) := by
      rw [← toCrlf_opener, ← Text.toCrlf_append, Text.cut_toCrlf not_isLineEnd_closer, hclose,
        Option.map_some, Prod.map]
    have hbody : clearedBody (toCrlf body) = toCrlf (clearedBody body) := by
      rcases List.append_eq_append_iff.mp (Text.eq_append_of_cut hclose) with
        ⟨interior, rfl, -⟩ | ⟨more, hmore, -⟩
      · rw [Text.toCrlf_append, toCrlf_opener, clearedBody_toCrlf]
      · have hfront : body <+: opener := ⟨more, hmore.symm⟩
        have hself : toCrlf body = body := Text.toCrlf_eq_self fun hmem =>
          not_isLineEnd_opener _ (hfront.subset hmem) rfl
        rw [hself, clearedBody_of_prefix hfront, hself]
    rw [clear_of_closed hopen hclose, clear_of_closed hopen' hclose', hbody, ih,
      Text.toCrlf_append, Text.toCrlf_append, Text.toCrlf_append, toCrlf_closer]

end MarkdownCheck.Comment
