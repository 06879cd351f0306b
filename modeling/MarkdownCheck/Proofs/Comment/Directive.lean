import MarkdownCheck.Proofs.Comment.Blank
import MarkdownCheck.Proofs.Pattern.Ends

/-!
# Comments that are directives

- `Comment.DirectiveParts`: what stands between the delimiters of a directive;
  `Comment.mem_language_inlineDirective` says that this is what the pattern asks for.
- `Comment.WellFormed.isDirective_iff`: the search for a directive may begin and end anywhere in a
  comment. In a comment whose interior is well formed it finds nothing less than the whole.
-/

namespace MarkdownCheck.Comment

open scoped Computability

/-! ## Names behind blanks -/

/-- A character that may stand in the name of a rule. -/
def isNameChar (c : Char) : Bool :=
  Text.isLetterLike c || c.isDigit || c = '_' || c = '-'

/-- Names with the blanks in front of them. -/
def nameLanguage : Language Char :=
  (Pattern.plus Pattern.blank).language * (Pattern.plus (.one isNameChar)).language

theorem exists_of_mem_nameLanguage {word : Text} (h : word ∈ nameLanguage) :
    (∃ c ∈ word.head?, Text.isBlank c) ∧ ∀ c ∈ word, Text.isBlank c ∨ isNameChar c := by
  obtain ⟨gap, hgap, name, hname, rfl⟩ := Language.mem_mul.mp h
  obtain ⟨hne, hblank⟩ := Pattern.mem_language_plus_one.mp hgap
  obtain ⟨-, hname⟩ := Pattern.mem_language_plus_one.mp hname
  obtain ⟨first, more, rfl⟩ := List.exists_cons_of_ne_nil hne
  refine ⟨⟨first, rfl, hblank first List.mem_cons_self⟩, fun c hc => ?_⟩
  exact (List.mem_append.mp hc).imp (hblank c) (hname c)

/-- A text is a run of some characters and a rest that another one starts. -/
theorem exists_run_append (p : Char → Bool) (text : Text) :
    ∃ run rest, text = run ++ rest ∧ (∀ c ∈ run, p c) ∧ ∀ c ∈ rest.head?, ¬ p c := by
  refine ⟨text.takeWhile p, text.dropWhile p, List.takeWhile_append_dropWhile.symm,
    List.all_eq_true.mp List.all_takeWhile, fun c hc => ?_⟩
  have hhead := List.head?_dropWhile_not p text
  rw [Option.mem_def.mp hc] at hhead
  exact Bool.eq_false_iff.mp hhead

/-- A text of blanks and names that a blank starts goes on from name to name. -/
theorem exists_names_append {text : Text} (hchars : ∀ c ∈ text, Text.isBlank c ∨ isNameChar c)
    (hhead : ∀ c ∈ text.head?, Text.isBlank c) :
    ∃ names ∈ nameLanguage∗, ∃ gap, (∀ c ∈ gap, Text.isBlank c) ∧ names ++ gap = text := by
  induction hlen : text.length using Nat.strongRecOn generalizing text with
  | ind n ih =>
    obtain ⟨gap, behind, rfl, hgap, hbehind⟩ := exists_run_append Text.isBlank text
    cases behind with
    | nil => exact ⟨[], Language.nil_mem_kstar _, gap, hgap, (List.append_nil gap).symm⟩
    | cons first more =>
      obtain ⟨name, rest, hname, hvisible, hrest⟩ :=
        exists_run_append (!Text.isBlank ·) (first :: more)
      rw [hname] at hchars hhead hlen ⊢
      have hfirst : ¬ Text.isBlank first := hbehind first rfl
      have hgapne : gap ≠ [] := by
        rintro rfl
        exact hfirst (hhead first (by rw [List.nil_append, ← hname]; rfl))
      have hnamene : name ≠ [] := by
        rintro rfl
        exact hrest first (by rw [← List.nil_append rest, ← hname]; rfl) (by simpa using hfirst)
      obtain ⟨names, hnames, tail, htail, rfl⟩ := ih rest.length
        (by
          have hpos := List.length_pos_iff.mpr hgapne
          rw [← hlen, List.length_append, List.length_append]
          omega)
        (fun c hc => hchars c (List.mem_append_right _ (List.mem_append_right _ hc)))
        (fun c hc => by simpa using hrest c hc) rfl
      have hword : gap ++ name ∈ nameLanguage := by
        refine Language.append_mem_mul (Pattern.mem_language_plus_one.mpr ⟨hgapne, hgap⟩)
          (Pattern.mem_language_plus_one.mpr ⟨hnamene, fun c hc => ?_⟩)
        refine (hchars c (List.mem_append_right _ (List.mem_append_left _ hc))).resolve_left ?_
        simpa using hvisible c hc
      refine ⟨(gap ++ name) ++ names, ?_, tail, htail, by simp⟩
      have hle : nameLanguage * nameLanguage∗ ≤ nameLanguage∗ := mul_kstar_le_kstar
      exact Set.mem_of_mem_of_subset (Language.append_mem_mul hword hnames) hle

theorem mem_kstar_nameLanguage_mul {text : Text} :
    text ∈ nameLanguage∗ * (Pattern.star Pattern.blank).language ↔
      (∀ c ∈ text, Text.isBlank c ∨ isNameChar c) ∧ ∀ c ∈ text.head?, Text.isBlank c := by
  rw [Language.mem_mul]
  constructor
  · rintro ⟨names, hnames, gap, hgap, rfl⟩
    obtain ⟨words, rfl, hwords⟩ := Language.mem_kstar.mp hnames
    have hgap := Pattern.mem_language_star_one.mp hgap
    refine ⟨fun c hc => ?_, fun c hc => ?_⟩
    · rcases List.mem_append.mp hc with hc | hc
      · obtain ⟨word, hword, hmem⟩ := List.mem_flatten.mp hc
        exact (exists_of_mem_nameLanguage (hwords word hword)).2 c hmem
      · exact .inl (hgap c hc)
    · cases words with
      | nil => exact hgap c (List.mem_of_mem_head? hc)
      | cons word words =>
        obtain ⟨⟨first, hfirst, hblank⟩, -⟩ :=
          exists_of_mem_nameLanguage (hwords word List.mem_cons_self)
        obtain ⟨more, rfl⟩ := List.head?_eq_some_iff.mp hfirst
        obtain rfl := Option.some.inj hc
        exact hblank
  · rintro ⟨hchars, hhead⟩
    obtain ⟨names, hnames, gap, hgap, rfl⟩ := exists_names_append hchars hhead
    exact ⟨names, hnames, gap, Pattern.mem_language_star_one.mpr hgap, rfl⟩

/-! ## The words of the pattern -/

/-- What stands between the delimiters of a directive: blanks, a keyword in any case, and names of
rules, each of them behind blanks. -/
structure DirectiveParts (lead keyword names : Text) : Prop where
  lead_blank : ∀ c ∈ lead, Text.isBlank c
  keyword_spelled : keyword ∈ (Pattern.letters "markdownlint-disable").language ∨
    keyword ∈ (Pattern.letters "markdownlint-enable").language
  names_chars : ∀ c ∈ names, Text.isBlank c ∨ isNameChar c
  names_blank : ∀ c ∈ names.head?, Text.isBlank c

theorem language_inlineDirective : Pattern.inlineDirective.language =
    (Pattern.word "<!--").language * ((Pattern.star Pattern.blank).language *
      (((Pattern.letters "markdownlint-disable").language +
        (Pattern.letters "markdownlint-enable").language) *
          (nameLanguage∗ * (Pattern.star Pattern.blank).language *
            (Pattern.word "-->").language))) := by
  have hdisable : (Pattern.letters "markdownlint-disable").language =
      (Pattern.letters "markdownlint-").language *
        ((Pattern.letters "dis").language * (Pattern.letters "able").language) := by
    rw [Pattern.letters, Pattern.letters, Pattern.letters, Pattern.letters,
      ← Pattern.language_all_append, ← Pattern.language_all_append]
    rfl
  have henable : (Pattern.letters "markdownlint-enable").language =
      (Pattern.letters "markdownlint-").language *
        ((Pattern.letters "en").language * (Pattern.letters "able").language) := by
    rw [Pattern.letters, Pattern.letters, Pattern.letters, Pattern.letters,
      ← Pattern.language_all_append, ← Pattern.language_all_append]
    rfl
  have hparts : Pattern.inlineDirective.language =
      (Pattern.word "<!--").language * ((Pattern.star Pattern.blank).language *
        ((Pattern.letters "markdownlint-").language *
          (((Pattern.letters "dis").language + (Pattern.letters "en").language) *
            ((Pattern.letters "able").language * (nameLanguage∗ *
              ((Pattern.star Pattern.blank).language *
                ((Pattern.word "-->").language * 1))))))) :=
    rfl
  rw [hparts, hdisable, henable]
  simp only [add_mul, mul_add, mul_assoc, mul_one]

/-- A directive is made of its parts. -/
theorem mem_language_inlineDirective {text : Text} : text ∈ Pattern.inlineDirective.language ↔
    ∃ lead keyword names, DirectiveParts lead keyword names ∧
      text = opener ++ (lead ++ (keyword ++ (names ++ closer))) := by
  rw [language_inlineDirective]
  constructor
  · rintro ⟨_, hopen, _, ⟨lead, hlead, _, ⟨keyword, hkeyword, _, ⟨names, hnames, _, hclose, rfl⟩,
      rfl⟩, rfl⟩, rfl⟩
    obtain rfl := Pattern.mem_language_word.mp hopen
    obtain rfl := Pattern.mem_language_word.mp hclose
    obtain ⟨hchars, hhead⟩ := mem_kstar_nameLanguage_mul.mp hnames
    exact ⟨lead, keyword, names,
      ⟨Pattern.mem_language_star_one.mp hlead, hkeyword, hchars, hhead⟩, rfl⟩
  · rintro ⟨lead, keyword, names, ⟨hlead, hkeyword, hchars, hhead⟩, rfl⟩
    refine Language.append_mem_mul (Pattern.mem_language_word.mpr rfl) ?_
    refine Language.append_mem_mul (Pattern.mem_language_star_one.mpr hlead) ?_
    refine Language.append_mem_mul hkeyword ?_
    refine Language.append_mem_mul ?_ (Pattern.mem_language_word.mpr rfl)
    exact mem_kstar_nameLanguage_mul.mpr ⟨hchars, hhead⟩

theorem matchesAll_inlineDirective_iff {text : Text} :
    Pattern.inlineDirective.MatchesAll text ↔
      ∃ lead keyword names, DirectiveParts lead keyword names ∧
        text = opener ++ (lead ++ (keyword ++ (names ++ closer))) :=
  (Pattern.matchesAll_iff_mem_language rfl).trans mem_language_inlineDirective

/-! ## Searching a comment -/

/-- A directive begins with an opener and ends with a closer. -/
theorem rest_eq_of_mem_ends_inlineDirective {place next : Place}
    (h : next ∈ Pattern.inlineDirective.ends place) :
    ∃ middle, place.rest = opener ++ (middle ++ (closer ++ next.rest)) := by
  obtain ⟨taken, htaken, hrest, -⟩ := Pattern.exists_mem_language_of_mem_ends h
  obtain ⟨lead, keyword, names, -, rfl⟩ := mem_language_inlineDirective.mp htaken
  exact ⟨lead ++ (keyword ++ names), by simp [hrest]⟩

variable {interior : Text}

/-- In a well-formed interior and the closer behind it, a dash in the interior stands alone. -/
theorem WellFormed.not_dash_succ (h : WellFormed interior) {i : Nat}
    (hi : interior[i]? = some '-') : (interior ++ closer)[i + 1]? ≠ some '-' := by
  intro hnext
  have hlt : i < interior.length := (List.getElem?_eq_some_iff.mp hi).1
  rcases Nat.lt_or_eq_of_le (Nat.succ_le_of_lt hlt) with hlt' | hlast
  · rw [List.getElem?_append_left hlt'] at hnext
    refine h.no_dashes (List.IsInfix.trans ?_ (List.drop_suffix i interior).isInfix)
    refine List.IsPrefix.isInfix (Text.standsAt_iff.mpr fun k c hk => ?_)
    match k with
    | 0 => exact hi.trans hk
    | 1 => exact hnext.trans hk
  · have hgetLast : interior.getLast? = some '-' := by
      rw [List.getLast?_eq_getElem?, ← hlast]
      exact hi
    obtain ⟨front, hfront⟩ := List.getLast?_eq_some_iff.mp hgetLast
    exact h.not_end ⟨front, hfront.symm⟩

/-- Behind a well-formed interior stands the first closer after its opener. -/
theorem WellFormed.eq_length_of_standsAt (h : WellFormed interior) {place : Nat}
    (hplace : Text.StandsAt closer (interior ++ closer) place) : place = interior.length := by
  have hchars := Text.standsAt_iff.mp hplace
  have hfirst : (interior ++ closer)[place]? = some '-' := hchars 0 '-' rfl
  have hsecond : (interior ++ closer)[place + 1]? = some '-' := hchars 1 '-' rfl
  rcases Nat.lt_or_ge place interior.length with hlt | hge
  · rw [List.getElem?_append_left hlt] at hfirst
    exact absurd hsecond (h.not_dash_succ hfirst)
  · obtain ⟨k, rfl⟩ := Nat.exists_eq_add_of_le hge
    rw [Nat.add_assoc, List.getElem?_append_right (Nat.le_add_right _ _),
      Nat.add_sub_cancel_left] at hsecond
    match k with
    | 0 => rfl
    | 1 => cases hsecond
    | k + 2 => cases hsecond

/-- The whole comment is the only part of it that can be a directive. -/
theorem WellFormed.isDirective_iff (h : WellFormed interior) :
    isDirective (opener ++ (interior ++ closer)) = true ↔
      Pattern.inlineDirective.MatchesAll (opener ++ (interior ++ closer)) := by
  rw [isDirective, Pattern.isSome_search?_iff]
  constructor
  · rintro ⟨k, hk, next, hnext⟩
    obtain ⟨middle, hmatch⟩ := rest_eq_of_mem_ends_inlineDirective hnext
    -- the closer of the match is the closer of the comment
    have hclose : k + middle.length = interior.length := by
      refine h.eq_length_of_standsAt ⟨next.rest, ?_⟩
      calc closer ++ next.rest
          = ((opener ++ middle) ++ (closer ++ next.rest)).drop (opener ++ middle).length :=
            List.drop_left.symm
        _ = ((opener ++ (interior ++ closer)).drop k).drop (opener ++ middle).length := by
            rw [List.append_assoc, ← hmatch]
        _ = (opener ++ (interior ++ closer)).drop (opener.length + (k + middle.length)) := by
            rw [List.drop_drop, List.length_append, Nat.add_left_comm]
        _ = (interior ++ closer).drop (k + middle.length) := by
            rw [← List.drop_drop, List.drop_left]
    match k with
    | 0 =>
      have hlen := congrArg List.length hmatch
      simp only [List.drop_zero, List.length_append] at hlen
      exact ⟨next, hnext, List.eq_nil_of_length_eq_zero (by omega)⟩
    | 1 | 2 | 3 =>
      -- here stands another character of the comment's own opener
      cases hmatch
    | k + 4 =>
      -- the dashes of an opener further on would stand together in the interior
      have hopen : Text.StandsAt opener (interior ++ closer) k := ⟨_, hmatch.symm⟩
      have hfirst : (interior ++ closer)[k + 2]? = some '-' :=
        Text.standsAt_iff.mp hopen 2 '-' rfl
      rw [List.getElem?_append_left (by omega)] at hfirst
      exact absurd (Text.standsAt_iff.mp hopen 3 '-' rfl) (h.not_dash_succ hfirst)
  · rintro ⟨next, hnext, -⟩
    exact ⟨0, Nat.zero_le _, next, hnext⟩

end MarkdownCheck.Comment
