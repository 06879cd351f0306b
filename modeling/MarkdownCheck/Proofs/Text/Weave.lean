import Mathlib.Logic.ExistsUnique
import MarkdownCheck.Proofs.Text.Lines

/-!
# Lines and the terminators between them

Cutting a text into lines is the inverse of putting lines together. The terminators overlap: a
carriage return ends a line alone or with what stands behind it. So a carriage return may be put
between two lines only where nothing that would belong to it follows.

- `Text.terminators`: everything that ends a line.
- `Text.weave`: lines with terminators between neighbours.
- `Text.Separates`: terminators that may be put between given lines.
- `Text.Ends.unique`: a text starts with one terminator at most.
- `Text.lines_weave_and_existsUnique`: lines are what was put together, and every text is put
  together from its lines in exactly one way.
-/

namespace MarkdownCheck.Text

/-! ## Putting lines together -/

/-- Everything that ends a line. -/
def terminators : List Text :=
  [['\r', '\n'], ['\r', '\u0085'], ['\r'], ['\n'], ['\u2424'], ['\u2028'], ['\u0085']]

/-- Lines in a row, with a terminator between two neighbours. -/
def weave : (lines endings : List Text) → Text
  | [], _ => []
  | line :: _, [] => line
  | line :: lines, ending :: endings => line ++ (ending ++ weave lines endings)

/-- One terminator for each two neighbours among some lines. Behind a carriage return that stands
alone there is no line feed and no next-line control, whether they are of the next line or of the
next terminator. -/
structure Separates (endings lines : List Text) : Prop where
  length_eq : lines.length = endings.length + 1
  not_isTerminator : ∀ line ∈ lines, ∀ c ∈ line, ¬ isTerminator c
  mem_terminators : ∀ ending ∈ endings, ending ∈ terminators
  not_followed : ∀ i, endings[i]? = some ['\r'] →
    ∀ c ∈ (weave (lines.drop (i + 1)) (endings.drop (i + 1))).head?, c ≠ '\n' ∧ c ≠ '\u0085'

/-! ## One terminator -/

/-- A terminator stands in front of a text as the longest one if it is not a carriage return that
could be taken together with what follows. -/
theorem ends_iff {ending rest : Text} :
    Ends ending rest ↔ ending ∈ terminators ∧
      (ending = ['\r'] → ∀ c ∈ rest.head?, c ≠ '\n' ∧ c ≠ '\u0085') := by
  constructor
  · intro h
    cases h with
    | returnAndFeed => exact ⟨by decide, fun h => by cases h⟩
    | returnAndNext => exact ⟨by decide, fun h => by cases h⟩
    | @single c _ hc hnext =>
      refine ⟨?_, fun h => hnext (List.singleton_inj.mp h)⟩
      simp only [isTerminator, Bool.or_eq_true, decide_eq_true_eq] at hc
      rcases hc with (((rfl | rfl) | rfl) | rfl) | rfl
      all_goals decide
  · rintro ⟨hmem, hnext⟩
    have hsingle : ∀ c, isTerminator c → ending = [c] → Ends ending rest := by
      rintro c hc rfl
      exact .single hc fun h => hnext (congrArg ([·]) h)
    simp only [terminators, List.mem_cons, List.not_mem_nil, or_false] at hmem
    rcases hmem with rfl | rfl | h | h | h | h | h
    · exact .returnAndFeed rest
    · exact .returnAndNext rest
    all_goals exact hsingle _ rfl h

theorem Ends.ne_nil {ending rest : Text} (h : Ends ending rest) : ending ≠ [] := by
  cases h <;> exact List.cons_ne_nil _ _

/-- A text starts with one terminator at most. -/
theorem Ends.unique {ending rest other more : Text} (h : Ends ending rest) (h' : Ends other more)
    (heq : ending ++ rest = other ++ more) : ending = other ∧ rest = more := by
  cases h with
  | returnAndFeed =>
    cases h' with
    | returnAndFeed => exact ⟨rfl, (List.append_right_inj _).mp heq⟩
    | returnAndNext => exact absurd (List.cons.inj (List.cons.inj heq).2).1 (by decide)
    | single _ hnext =>
      obtain ⟨rfl, rfl⟩ := List.cons.inj heq
      exact absurd rfl (hnext rfl _ rfl).1
  | returnAndNext =>
    cases h' with
    | returnAndFeed => exact absurd (List.cons.inj (List.cons.inj heq).2).1 (by decide)
    | returnAndNext => exact ⟨rfl, (List.append_right_inj _).mp heq⟩
    | single _ hnext =>
      obtain ⟨rfl, rfl⟩ := List.cons.inj heq
      exact absurd rfl (hnext rfl _ rfl).2
  | single _ hnext =>
    cases h' with
    | returnAndFeed =>
      obtain ⟨rfl, rfl⟩ := List.cons.inj heq
      exact absurd rfl (hnext rfl _ rfl).1
    | returnAndNext =>
      obtain ⟨rfl, rfl⟩ := List.cons.inj heq
      exact absurd rfl (hnext rfl _ rfl).2
    | single =>
      obtain ⟨rfl, rfl⟩ := List.cons.inj heq
      exact ⟨rfl, rfl⟩

/-! ## Line by line -/

theorem separates_nil {lines : List Text} :
    Separates [] lines ↔ ∃ line, lines = [line] ∧ ∀ c ∈ line, ¬ isTerminator c := by
  constructor
  · intro h
    obtain ⟨line, rfl⟩ := List.length_eq_one_iff.mp h.length_eq
    exact ⟨line, rfl, h.not_isTerminator line List.mem_cons_self⟩
  · rintro ⟨line, rfl, hline⟩
    exact ⟨rfl, List.forall_mem_singleton.mpr hline, nofun, nofun⟩

/-- Terminators separate lines if the first one stands behind the first line and the others separate
the other lines. -/
theorem separates_cons {ending : Text} {endings lines : List Text} :
    Separates (ending :: endings) lines ↔ ∃ line more, lines = line :: more ∧
      (∀ c ∈ line, ¬ isTerminator c) ∧ Ends ending (weave more endings) ∧
        Separates endings more := by
  constructor
  · intro h
    cases lines with
    | nil => cases h.length_eq
    | cons line more =>
      obtain ⟨hline, hmore⟩ := List.forall_mem_cons.mp h.not_isTerminator
      obtain ⟨hending, hendings⟩ := List.forall_mem_cons.mp h.mem_terminators
      refine ⟨line, more, rfl, hline, ends_iff.mpr ⟨hending, ?_⟩, ?_⟩
      · rintro rfl
        exact h.not_followed 0 rfl
      · exact ⟨Nat.succ.inj h.length_eq, hmore, hendings, fun i => h.not_followed (i + 1)⟩
  · rintro ⟨line, more, rfl, hline, hends, hmore⟩
    obtain ⟨hending, hnext⟩ := ends_iff.mp hends
    constructor
    case length_eq => exact congrArg Nat.succ hmore.length_eq
    case not_isTerminator => exact List.forall_mem_cons.mpr ⟨hline, hmore.not_isTerminator⟩
    case mem_terminators => exact List.forall_mem_cons.mpr ⟨hending, hmore.mem_terminators⟩
    case not_followed =>
      intro i hi
      cases i with
      | zero => exact hnext (Option.some.inj hi)
      | succ i => exact hmore.not_followed i hi

/-- What holds no terminator makes the first line longer. -/
theorem lines_append_left {line : Text} (h : ∀ c ∈ line, ¬ isTerminator c) {text first : Text}
    {more : List Text} (htext : lines text = first :: more) :
    lines (line ++ text) = (line ++ first) :: more := by
  have hcut : ¬ Splits line text := fun hcut => h '\r' (List.mem_of_getLast? hcut.1) rfl
  have hline : lines line = [] ++ [line] := lines_of_no_terminators h
  exact lines_append_of_not_splits hcut hline htext

/-- Lines that were put together are found again. -/
theorem lines_weave {endings found : List Text} (h : Separates endings found) :
    lines (weave found endings) = found := by
  induction endings generalizing found with
  | nil =>
    obtain ⟨line, rfl, hline⟩ := separates_nil.mp h
    exact lines_of_no_terminators hline
  | cons ending endings ih =>
    obtain ⟨line, more, rfl, hline, hends, hmore⟩ := separates_cons.mp h
    show lines (line ++ (ending ++ weave more endings)) = line :: more
    rw [lines_append_left hline hends.lines_append, List.append_nil, ih hmore]

/-- A text is its lines with terminators between them. -/
theorem exists_separates_lines (text : Text) :
    ∃ endings, Separates endings (lines text) ∧ weave (lines text) endings = text := by
  induction text using lines_rec with
  | nil => exact ⟨[], separates_nil.mpr ⟨[], rfl, nofun⟩, rfl⟩
  | ended ending rest hends ih =>
    obtain ⟨endings, hseparates, hweave⟩ := ih
    rw [hends.lines_append]
    refine ⟨ending :: endings, separates_cons.mpr ⟨[], _, rfl, nofun, ?_, hseparates⟩, ?_⟩
    · rwa [hweave]
    · show [] ++ (ending ++ weave (lines rest) endings) = ending ++ rest
      rw [hweave, List.nil_append]
  | other c rest hc ih =>
    obtain ⟨endings, hseparates, hweave⟩ := ih
    rw [lines_cons_of_not_isTerminator hc]
    -- the character goes in front of the first line, and the terminators stay
    refine ⟨endings, ?_⟩
    cases endings with
    | nil =>
      obtain ⟨line, hlines, hline⟩ := separates_nil.mp hseparates
      rw [hlines] at hweave ⊢
      exact ⟨separates_nil.mpr ⟨c :: line, rfl, List.forall_mem_cons.mpr ⟨hc, hline⟩⟩,
        congrArg (c :: ·) hweave⟩
    | cons ending endings =>
      obtain ⟨line, more, hlines, hline, hends, hmore⟩ := separates_cons.mp hseparates
      rw [hlines] at hweave ⊢
      exact ⟨separates_cons.mpr ⟨c :: line, more, rfl, List.forall_mem_cons.mpr ⟨hc, hline⟩,
        hends, hmore⟩, congrArg (c :: ·) hweave⟩

/-- Different terminators between the same lines make different texts. -/
theorem eq_of_weave_eq {endings others found : List Text} (h : Separates endings found)
    (h' : Separates others found) (heq : weave found endings = weave found others) :
    endings = others := by
  induction endings generalizing others found with
  | nil =>
    have hlength := h.length_eq.symm.trans h'.length_eq
    exact (List.eq_nil_of_length_eq_zero (Nat.succ.inj hlength).symm).symm
  | cons ending endings ih =>
    obtain ⟨line, more, rfl, -, hends, hmore⟩ := separates_cons.mp h
    cases others with
    | nil => exact absurd (h.length_eq.symm.trans h'.length_eq) (by simp)
    | cons other others =>
      obtain ⟨_, _, hfound, -, hends', hmore'⟩ := separates_cons.mp h'
      obtain ⟨rfl, rfl⟩ := List.cons.inj hfound
      have hbehind : ending ++ weave more endings = other ++ weave more others :=
        List.append_cancel_left heq
      obtain ⟨rfl, hrest⟩ := hends.unique hends' hbehind
      rw [ih hmore hmore' hrest]

/-- The last line is empty if and only if a terminator ends the text, or the text is empty. -/
theorem getLast?_lines_eq_nil_iff {text : Text} :
    (lines text).getLast? = some [] ↔ ∀ c ∈ text.getLast?, isTerminator c := by
  constructor
  · intro h c hc
    refine Classical.byContradiction fun hnot => ?_
    obtain ⟨front, rfl⟩ := List.getLast?_eq_some_iff.mp hc
    obtain ⟨others, last, hfront⟩ := exists_lines_eq_concat front
    rw [lines_append (List.forall_mem_singleton.mpr hnot), hfront, List.modifyLast_concat,
      List.getLast?_concat] at h
    exact List.append_ne_nil_of_right_ne_nil last (List.cons_ne_nil c []) (Option.some.inj h)
  · intro h
    cases hlast : text.getLast? with
    | none =>
      obtain rfl := List.getLast?_eq_none_iff.mp hlast
      rfl
    | some c =>
      obtain ⟨others, hlines⟩ := exists_lines_eq_of_getLast? hlast (h c hlast)
      rw [hlines, List.getLast?_concat]

/-- **Lines and texts.** Lines that are put together with terminators between them are the lines of
the text, whatever the lines and the terminators are. Every text is put together in this way from
its lines, by exactly one choice of terminators, of which there is one fewer than lines. The last
line is empty just if a terminator ends the text or there is no text. -/
theorem lines_weave_and_existsUnique :
    (∀ found endings, Separates endings found → lines (weave found endings) = found) ∧
    (∀ text, ∃! endings, Separates endings (lines text) ∧ weave (lines text) endings = text) ∧
    ∀ text, (lines text).getLast? = some [] ↔ ∀ c ∈ text.getLast?, isTerminator c := by
  refine ⟨fun _ _ => lines_weave, fun text => ?_, fun _ => getLast?_lines_eq_nil_iff⟩
  obtain ⟨endings, hseparates, hweave⟩ := exists_separates_lines text
  refine ⟨endings, ⟨hseparates, hweave⟩, ?_⟩
  rintro others ⟨hothers, hsame⟩
  exact eq_of_weave_eq hothers hseparates (hsame.trans hweave.symm)

/-- A carriage return may stand alone in front of another terminator that starts with one. -/
theorem lines_weave_and_existsUnique_returns :
    Separates [['\r'], ['\r', '\n'], ['\u2028']] [['a'], [], ['b'], []] ∧
      lines ['a', '\r', '\r', '\n', 'b', '\u2028'] = [['a'], [], ['b'], []] := by
  have h : Separates [['\r'], ['\r', '\n'], ['\u2028']] [['a'], [], ['b'], []] := by
    refine separates_cons.mpr ⟨['a'], _, rfl, ?_, ends_iff.mpr ⟨by decide, ?_⟩, ?_⟩
    · exact List.forall_mem_singleton.mpr (by decide)
    · rintro - c hc
      obtain rfl : '\r' = c := Option.some.inj hc
      decide
    · refine separates_cons.mpr ⟨[], _, rfl, nofun, .returnAndFeed _, ?_⟩
      refine separates_cons.mpr ⟨['b'], _, rfl, ?_, .single rfl nofun, ?_⟩
      · exact List.forall_mem_singleton.mpr (by decide)
      · exact separates_nil.mpr ⟨[], rfl, nofun⟩
  exact ⟨h, lines_weave_and_existsUnique.1 _ _ h⟩

end MarkdownCheck.Text
