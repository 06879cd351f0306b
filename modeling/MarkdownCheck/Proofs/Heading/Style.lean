import MarkdownCheck.Heading
import MarkdownCheck.Markdown.Block.Marker
import MarkdownCheck.Proofs.Text.Trim

/-!
# Closing sequences of headings

A heading with number signs may be closed by more of them, with a space or a tab in front, which do
not belong to the title. How a heading is written is told by the end of its line alone: a number
sign that no backslash precedes. Every closing sequence ends in this way, and some lines without one
do too.

- `Heading.IsAtx`: a line that opens a heading.
- `Heading.ClosedAs`, `Heading.HasClosing`: the closing sequence, and what stands in front of it.
- `Heading.EndsInSigns`: the last run of number signs, whatever stands around it.
- `Heading.endsClosed_append_iff`: which last runs count.
- `Heading.at?_of_closedAs`, `Heading.at?_of_not_hasClosing`: what does not belong to the title.
- `Heading.Misread`: the lines that are taken for closed ones.
- `Heading.headingStyle_eq_closing_iff`: all other lines are told right.
-/

namespace MarkdownCheck.Heading

open Markdown (isSpace AtxHeading)

/-! ## Lines of headings -/

/-- A line that opens a heading: up to three spaces, up to six number signs, and then nothing, or a
space or a tab and any text. -/
structure IsAtx (line : Text) (indent level : Nat) (rest : Text) : Prop where
  eq : line = List.replicate indent ' ' ++ (List.replicate level '#' ++ rest)
  indent_le : indent ≤ 3
  level_pos : 1 ≤ level
  level_le : level ≤ 6
  isSpace_head : ∀ c ∈ rest.head?, isSpace c

/-- Behind the title come a space or a tab, number signs, and nothing more but spaces and tabs. -/
def ClosedAs (rest title : Text) : Prop :=
  ∃ c count after, rest = title ++ c :: (List.replicate count '#' ++ after) ∧ isSpace c ∧
    1 ≤ count ∧ ∀ d ∈ after, isSpace d

/-- What stands behind the opening number signs has a closing sequence. -/
def HasClosing (rest : Text) : Prop :=
  ∃ title, ClosedAs rest title

/-- Blanks of any kind apart, a text ends in a run of number signs with another character in front
of it. -/
structure EndsInSigns (text front : Text) (before : Char) (count : Nat) (after : Text) : Prop where
  eq : text = front ++ before :: (List.replicate count '#' ++ after)
  ne_sign : before ≠ '#'
  pos : 1 ≤ count
  isBlank_after : ∀ d ∈ after, Text.isBlank d

/-! ## The last run -/

theorem isBlank_of_isSpace {c : Char} (h : isSpace c) : Markdown.isBlank c := by
  rw [isSpace, Bool.or_eq_true, decide_eq_true_eq, decide_eq_true_eq] at h
  rcases h with rfl | rfl
  all_goals rfl

theorem ne_sign_of_isSpace {c : Char} (h : isSpace c) : c ≠ '#' := by
  rintro rfl
  cases h

theorem ClosedAs.exists_endsInSigns {rest title : Text} (h : ClosedAs rest title) :
    ∃ c count after, EndsInSigns rest title c count after ∧ isSpace c ∧ ∀ d ∈ after, isSpace d := by
  obtain ⟨c, count, after, heq, hc, hpos, hafter⟩ := h
  refine ⟨c, count, after, ⟨heq, ne_sign_of_isSpace hc, hpos, fun d hd => ?_⟩, hc, hafter⟩
  exact Markdown.isBlank_of_isBlank (isBlank_of_isSpace (hafter d hd))

/-- A run of at least one number sign, the last one apart. -/
theorem exists_replicate_eq {count : Nat} (h : 1 ≤ count) :
    ∃ n, count = n + 1 ∧ List.replicate count '#' = List.replicate n '#' ++ ['#'] := by
  obtain ⟨n, rfl⟩ := Nat.exists_eq_add_of_le' h
  exact ⟨n, rfl, List.replicate_succ'⟩

theorem EndsInSigns.trimRight_eq {text front after : Text} {before : Char} {count : Nat}
    (h : EndsInSigns text front before count after) :
    Text.trimRight text = front ++ before :: List.replicate count '#' := by
  obtain ⟨n, -, hrun⟩ := exists_replicate_eq h.pos
  have hsplit : text = (front ++ before :: List.replicate n '#') ++ '#' :: after := by
    rw [h.eq, hrun]
    simp
  rw [hsplit, Text.trimRight_append (by decide) h.isBlank_after, hrun]
  simp

theorem rdropWhile_signs {before : Char} (h : before ≠ '#') (front : Text) (count : Nat) :
    (front ++ before :: List.replicate count '#').rdropWhile (· = '#') = front ++ [before] := by
  have hsplit : front ++ before :: List.replicate count '#' =
      (front ++ [before]) ++ List.replicate count '#' := by simp
  have hsigns : ∀ d ∈ List.replicate count '#', decide (d = '#') = true := fun d hd =>
    decide_eq_true (List.eq_of_mem_replicate hd)
  rw [hsplit, Text.rdropWhile_append hsigns]
  exact List.rdropWhile_concat_neg _ front before (by simpa using h)

/-- A text has one last run of number signs. -/
theorem EndsInSigns.unique {text front other after more : Text} {before c : Char} {count n : Nat}
    (h : EndsInSigns text front before count after) (h' : EndsInSigns text other c n more) :
    front = other ∧ before = c ∧ count = n ∧ after = more := by
  have htrim := h.trimRight_eq.symm.trans h'.trimRight_eq
  have hfront := congrArg (List.rdropWhile (· = '#')) htrim
  rw [rdropWhile_signs h.ne_sign, rdropWhile_signs h'.ne_sign] at hfront
  obtain ⟨rfl, hbefore⟩ := List.append_inj' hfront rfl
  obtain rfl := List.singleton_inj.mp hbefore
  have hcount := congrArg List.length (List.append_cancel_left htrim)
  simp only [List.length_cons, List.length_replicate, Nat.add_right_cancel_iff] at hcount
  obtain rfl := hcount
  have hafter := List.append_cancel_left (h.eq.symm.trans h'.eq)
  exact ⟨rfl, rfl, rfl, List.append_cancel_left (List.cons.inj hafter).2⟩

theorem EndsInSigns.hasClosing_iff {rest front after : Text} {before : Char} {count : Nat}
    (h : EndsInSigns rest front before count after) :
    HasClosing rest ↔ isSpace before ∧ ∀ d ∈ after, isSpace d := by
  constructor
  · rintro ⟨title, htitle⟩
    obtain ⟨c, n, more, hends, hc, hmore⟩ := htitle.exists_endsInSigns
    obtain ⟨-, rfl, -, rfl⟩ := h.unique hends
    exact ⟨hc, hmore⟩
  · rintro ⟨hbefore, hafter⟩
    exact ⟨front, before, count, after, h.eq, hbefore, h.pos, hafter⟩

theorem not_hasClosing_of_forall_isBlank {rest : Text} (h : ∀ c ∈ rest, Text.isBlank c) :
    ¬ HasClosing rest := by
  rintro ⟨title, c, count, after, rfl, -, hpos, -⟩
  obtain ⟨n, -, hrun⟩ := exists_replicate_eq hpos
  have hsign := h '#' (by simp [hrun])
  cases hsign

/-- A text that a space or a tab starts is blank, or ends in number signs, or ends in something
else. -/
theorem endsInSigns_cases {rest : Text} (hhead : ∀ c ∈ rest.head?, isSpace c) :
    (∀ c ∈ rest, Text.isBlank c) ∨
    (∃ front before count after, EndsInSigns rest front before count after) ∨
    ∃ front c after, rest = front ++ c :: after ∧ ¬ Text.isBlank c ∧ c ≠ '#' ∧
      ∀ d ∈ after, Text.isBlank d := by
  rcases Text.forall_isBlank_or_exists rest with hblank | ⟨shown, c, after, hrest, hc, hafter⟩
  · exact .inl hblank
  · right
    by_cases hsign : c = '#'
    · subst hsign
      -- the run goes on to the left up to some other character, at the latest to the first one
      have hshown := List.rdropWhile_append_rtakeWhile (p := (· = '#')) (l := shown)
      have hsigns : ∀ d ∈ shown.rtakeWhile (· = '#'), d = '#' := fun d hd => by
        simpa using List.mem_rtakeWhile_imp hd
      have hrun := List.eq_replicate_of_mem hsigns
      generalize hkept : shown.rdropWhile (· = '#') = kept at hshown
      generalize (shown.rtakeWhile (· = '#')).length = n at hrun
      rw [hrun] at hshown
      have hne : kept ≠ [] := by
        rintro rfl
        have hfirst : rest.head? = some '#' := by
          rw [hrest, ← hshown]
          cases n <;> rfl
        cases hhead '#' hfirst
      have hlast : kept.getLast hne ≠ '#' := by
        subst hkept
        simpa using List.rdropWhile_last_not (· = '#') shown hne
      refine .inl ⟨kept.dropLast, kept.getLast hne, n + 1, after, ?_, hlast, Nat.succ_pos n, hafter⟩
      rw [hrest, ← hshown, List.replicate_succ']
      conv_lhs => rw [← List.dropLast_concat_getLast hne]
      simp
    · exact .inr ⟨shown, c, after, hrest, hc, hsign, hafter⟩

/-! ## The end of a line -/

theorem endsClosed_append {after : Text} (h : ∀ d ∈ after, Text.isBlank d) (front : Text) :
    endsClosed (front ++ after) = endsClosed front := by
  have htrim : (front ++ after).rdropWhile Text.isBlank = front.rdropWhile Text.isBlank :=
    Text.rdropWhile_append h front
  rw [endsClosed, endsClosed, List.reverse_injective htrim]

theorem endsClosed_concat_of_ne {c : Char} (hc : ¬ Text.isBlank c) (hsign : c ≠ '#')
    (front : Text) : endsClosed (front ++ [c]) = false := by
  rw [endsClosed, List.reverse_concat, List.dropWhile_cons_of_neg hc]
  split
  · next heq => exact absurd (List.cons.inj heq).1 hsign
  · rfl

theorem endsClosed_concat_sign (front : Text) (before : Char) :
    endsClosed (front ++ [before, '#']) = decide (before ≠ '\\') := by
  have hreverse : (front ++ [before, '#']).reverse = '#' :: before :: front.reverse := by simp
  rw [endsClosed, hreverse, List.dropWhile_cons_of_neg (by decide)]
  rfl

/-- A run of number signs counts, one behind a backslash apart. -/
theorem endsClosed_signs {count : Nat} (h : 1 ≤ count) (front : Text) (before : Char) :
    endsClosed (front ++ before :: List.replicate count '#') ↔ ¬ (before = '\\' ∧ count = 1) := by
  obtain ⟨n, rfl, hrun⟩ := exists_replicate_eq h
  rw [hrun]
  cases n with
  | zero =>
    show endsClosed (front ++ [before, '#']) = true ↔ _
    rw [endsClosed_concat_sign, decide_eq_true_eq]
    simp
  | succ n =>
    -- another number sign stands in front of the last one
    have hsplit : front ++ before :: (List.replicate (n + 1) '#' ++ ['#']) =
        (front ++ before :: List.replicate n '#') ++ ['#', '#'] := by
      rw [List.replicate_succ']
      simp
    rw [hsplit, endsClosed_concat_sign]
    simp

theorem EndsInSigns.endsClosed_append_iff {rest front after : Text} {before : Char} {count : Nat}
    (h : EndsInSigns rest front before count after) (lead : Text) :
    endsClosed (lead ++ rest) ↔ ¬ (before = '\\' ∧ count = 1) := by
  have hsplit : lead ++ rest =
      ((lead ++ front) ++ before :: List.replicate count '#') ++ after := by
    rw [h.eq]
    simp
  rw [hsplit, endsClosed_append h.isBlank_after, endsClosed_signs h.pos]

/-- Where nothing but blanks follows, the opening number signs count if they are several, or if one
stands behind a space. -/
theorem endsClosed_opening {indent level : Nat} (h : 1 ≤ level) :
    endsClosed (List.replicate indent ' ' ++ List.replicate level '#') ↔ 2 ≤ indent + level := by
  cases indent with
  | zero =>
    obtain ⟨n, rfl⟩ := Nat.exists_eq_add_of_le' h
    rw [List.replicate_zero, List.nil_append, Nat.zero_add]
    cases n with
    | zero => decide
    | succ n =>
      have hsigns := endsClosed_signs (Nat.succ_pos n) [] '#'
      rw [List.replicate_succ]
      exact hsigns.trans (by simp)
  | succ indent =>
    have hsplit : List.replicate (indent + 1) ' ' ++ List.replicate level '#' =
        List.replicate indent ' ' ++ ' ' :: List.replicate level '#' := by
      rw [List.replicate_succ']
      simp
    rw [hsplit, endsClosed_signs h]
    simp
    omega

/-! ## The title -/

theorem trim_append {after : Text} (h : ∀ d ∈ after, Markdown.isBlank d) (front : Text) :
    Markdown.trim (front ++ after) = Markdown.trim front := by
  have hdrop : (after.dropWhile Markdown.isBlank) = [] := List.dropWhile_eq_nil_iff.mpr h
  have hkeep : ∀ text : Text, (text ++ after).rdropWhile Markdown.isBlank =
      text.rdropWhile Markdown.isBlank := Text.rdropWhile_append h
  show ((front ++ after).dropWhile Markdown.isBlank).rdropWhile Markdown.isBlank =
    (front.dropWhile Markdown.isBlank).rdropWhile Markdown.isBlank
  rw [List.dropWhile_append, hdrop]
  split
  · next hempty => rw [List.isEmpty_iff.mp hempty]
  · exact hkeep _

/-- What belongs to the title: everything but the spaces and tabs at the end and a closing
sequence. -/
def withoutClosing (rest : Text) : Text :=
  let shown := rest.rdropWhile isSpace
  let unclosed := shown.rdropWhile (· = '#')
  if unclosed.getLast?.any isSpace then unclosed else shown

theorem withoutClosing_of_closedAs {rest title : Text} (h : ClosedAs rest title) :
    ∃ c, isSpace c ∧ withoutClosing rest = title ++ [c] := by
  obtain ⟨c, count, after, hrest, hc, hcount, hafter⟩ := h
  obtain ⟨n, -, hrun⟩ := exists_replicate_eq hcount
  have hshown : rest.rdropWhile isSpace = title ++ c :: List.replicate count '#' := by
    have hsplit : rest = ((title ++ c :: List.replicate n '#') ++ ['#']) ++ after := by
      rw [hrest, hrun]
      simp
    rw [hsplit, Text.rdropWhile_append hafter, hrun,
      List.rdropWhile_concat_neg isSpace _ '#' (by decide)]
    simp
  have hunclosed : (rest.rdropWhile isSpace).rdropWhile (· = '#') = title ++ [c] := by
    rw [hshown, rdropWhile_signs (ne_sign_of_isSpace hc)]
  have hlast : (title ++ [c]).getLast?.any isSpace = true := by
    rw [List.getLast?_concat]
    exact hc
  refine ⟨c, hc, ?_⟩
  show (if _ then _ else _) = title ++ [c]
  rw [hunclosed, if_pos hlast]

theorem withoutClosing_of_not_hasClosing {rest : Text} (h : ¬ HasClosing rest) :
    withoutClosing rest = rest.rdropWhile isSpace := by
  refine if_neg fun hlast => h ?_
  have hafter := List.rdropWhile_append_rtakeWhile (p := isSpace) (l := rest)
  have hidempotent := List.rdropWhile_idempotent isSpace rest
  generalize rest.rdropWhile isSpace = shown at hlast hafter hidempotent
  have hshown := List.rdropWhile_append_rtakeWhile (p := (· = '#')) (l := shown)
  have hsigns : ∀ d ∈ shown.rtakeWhile (· = '#'), d = '#' := fun d hd => by
    simpa using List.mem_rtakeWhile_imp hd
  rw [List.eq_replicate_of_mem hsigns] at hshown
  generalize (shown.rtakeWhile (· = '#')).length = count at hshown
  cases hc : (shown.rdropWhile (· = '#')).getLast? with
  | none =>
    rw [hc] at hlast
    cases hlast
  | some c =>
    rw [hc] at hlast
    have hspace : isSpace c := hlast
    obtain ⟨title, htitle⟩ := List.getLast?_eq_some_iff.mp hc
    rw [htitle] at hshown
    have hpos : 1 ≤ count := by
      rcases Nat.eq_zero_or_pos count with rfl | hpos
      · -- without a run, the space would have been dropped
        rw [List.replicate_zero, List.append_nil] at hshown
        rw [← hshown, List.rdropWhile_concat_pos isSpace title c hspace] at hidempotent
        have hle := (List.rdropWhile_prefix isSpace title).length_le
        rw [hidempotent, List.length_append] at hle
        exact absurd hle (Nat.not_succ_le_self _)
      · exact hpos
    refine ⟨title, c, count, rest.rtakeWhile isSpace, ?_, hspace, hpos, fun d hd =>
      List.mem_rtakeWhile_imp hd⟩
    calc rest = shown ++ rest.rtakeWhile isSpace := hafter.symm
      _ = ((title ++ [c]) ++ List.replicate count '#') ++ rest.rtakeWhile isSpace := by rw [hshown]
      _ = title ++ c :: (List.replicate count '#' ++ rest.rtakeWhile isSpace) := by simp

section

variable {level : Nat} {rest : Text} (hpos : 1 ≤ level) (hle : level ≤ 6)
  (hhead : ∀ c ∈ rest.head?, isSpace c)
include hpos hle hhead

/-- The title is read off what the opening number signs leave. -/
theorem at?_eq : AtxHeading.at? (List.replicate level '#' ++ rest) =
    some ⟨level, Markdown.trim (withoutClosing rest)⟩ := by
  have hsigns : ∀ d ∈ List.replicate level '#', decide (d = '#') = true := fun d hd =>
    decide_eq_true (List.eq_of_mem_replicate hd)
  have hbehind : rest.takeWhile (· = '#') = [] ∧ rest.dropWhile (· = '#') = rest := by
    cases rest with
    | nil => exact ⟨rfl, rfl⟩
    | cons c rest =>
      have hc : ¬ decide (c = '#') = true := by
        simpa using ne_sign_of_isSpace (hhead c rfl)
      exact ⟨List.takeWhile_cons_of_neg hc, List.dropWhile_cons_of_neg hc⟩
  have hspace : rest.head?.all isSpace = true := by
    cases hrest : rest.head? with
    | none => rfl
    | some c => exact hhead c hrest
  rw [AtxHeading.at?, List.takeWhile_append_of_pos hsigns, List.dropWhile_append_of_pos hsigns,
    hbehind.1, hbehind.2, List.append_nil, List.length_replicate]
  simp only [hspace, hpos, hle, decide_true, Bool.and_self, if_true]
  rfl

/-- A closing sequence does not belong to the title. -/
theorem at?_of_closedAs {title : Text} (h : ClosedAs rest title) :
    AtxHeading.at? (List.replicate level '#' ++ rest) = some ⟨level, Markdown.trim title⟩ := by
  obtain ⟨c, hc, hkept⟩ := withoutClosing_of_closedAs h
  rw [at?_eq hpos hle hhead, hkept,
    trim_append (List.forall_mem_singleton.mpr (isBlank_of_isSpace hc))]

/-- Without a closing sequence, everything belongs to the title. -/
theorem at?_of_not_hasClosing (h : ¬ HasClosing rest) :
    AtxHeading.at? (List.replicate level '#' ++ rest) = some ⟨level, Markdown.trim rest⟩ := by
  have hsplit := List.rdropWhile_append_rtakeWhile (p := isSpace) (l := rest)
  have hspaces : ∀ d ∈ rest.rtakeWhile isSpace, Markdown.isBlank d := fun d hd =>
    isBlank_of_isSpace (List.mem_rtakeWhile_imp hd)
  rw [at?_eq hpos hle hhead, withoutClosing_of_not_hasClosing h]
  conv_rhs => rw [← hsplit, trim_append hspaces]

end

/-! ## Styles -/

/-- The ways in which a line is taken for one with a closing sequence. -/
inductive Misread (indent level : Nat) (rest : Text) : Prop
  /-- Nothing but blanks stands behind the opening number signs, which are several, or one behind a
  space. -/
  | untitled (hblank : ∀ c ∈ rest, Text.isBlank c) (hlevel : 2 ≤ indent + level)
  /-- The last run of number signs belongs to a word, and is no single one behind a backslash. -/
  | glued {front after : Text} {before : Char} {count : Nat}
    (hends : EndsInSigns rest front before count after) (hspace : ¬ isSpace before)
    (hescaped : ¬ (before = '\\' ∧ count = 1))
  /-- Blanks other than spaces and tabs stand behind the last run of number signs. -/
  | blanks {front after : Text} {before c : Char} {count : Nat}
    (hends : EndsInSigns rest front before count after) (hspace : isSpace before)
    (hmem : c ∈ after) (hblank : ¬ isSpace c)

section

variable {indent level : Nat} {rest front after : Text} {before c : Char} {count : Nat}

theorem EndsInSigns.not_forall_isBlank (h : EndsInSigns rest front before count after) :
    ¬ ∀ c ∈ rest, Text.isBlank c := by
  obtain ⟨n, -, hrun⟩ := exists_replicate_eq h.pos
  intro hblank
  cases hblank '#' (by simp [h.eq, hrun])

/-- A text that ends in something else does not end in number signs. -/
theorem not_endsInSigns {shown tail : Text} (hrest : rest = shown ++ c :: tail)
    (hc : ¬ Text.isBlank c) (hsign : c ≠ '#') (htail : ∀ d ∈ tail, Text.isBlank d) :
    ¬ EndsInSigns rest front before count after := by
  intro h
  obtain ⟨n, -, hrun⟩ := exists_replicate_eq h.pos
  have htrim := h.trimRight_eq
  rw [hrest, Text.trimRight_append hc htail, hrun, ← List.cons_append, ← List.append_assoc] at htrim
  obtain ⟨-, hlast⟩ := List.append_inj' htrim rfl
  exact hsign (List.singleton_inj.mp hlast)

theorem EndsInSigns.misread_iff (h : EndsInSigns rest front before count after) :
    Misread indent level rest ↔
      ¬ (before = '\\' ∧ count = 1) ∧ ¬ (isSpace before ∧ ∀ d ∈ after, isSpace d) := by
  constructor
  · intro hmisread
    cases hmisread with
    | untitled hblank => exact absurd hblank h.not_forall_isBlank
    | glued hends hspace hescaped =>
      obtain ⟨-, rfl, rfl, -⟩ := h.unique hends
      exact ⟨hescaped, fun hboth => hspace hboth.1⟩
    | blanks hends hspace hmem hblank =>
      obtain ⟨-, rfl, -, rfl⟩ := h.unique hends
      refine ⟨?_, fun hboth => hblank (hboth.2 _ hmem)⟩
      rintro ⟨rfl, -⟩
      cases hspace
  · rintro ⟨hescaped, hnot⟩
    by_cases hspace : isSpace before
    · obtain ⟨d, hd⟩ := Classical.not_forall.mp fun hall => hnot ⟨hspace, hall⟩
      obtain ⟨hmem, hblank⟩ := Classical.not_imp.mp hd
      exact .blanks h hspace hmem hblank
    · exact .glued h hspace hescaped

/-- A line ends closed if it has a closing sequence or is taken for one that has, and not both are
the case. -/
theorem IsAtx.endsClosed_iff {line : Text} (h : IsAtx line indent level rest) :
    (endsClosed line ↔ HasClosing rest ∨ Misread indent level rest) ∧
      ¬ (HasClosing rest ∧ Misread indent level rest) := by
  have hline : line = (List.replicate indent ' ' ++ List.replicate level '#') ++ rest := by
    rw [h.eq, List.append_assoc]
  rw [hline]
  rcases endsInSigns_cases h.isSpace_head with
    hblank | ⟨front, before, count, after, hends⟩ | ⟨shown, c, tail, hrest, hc, hsign, htail⟩
  · have hnone := not_hasClosing_of_forall_isBlank hblank
    have hmisread : Misread indent level rest ↔ 2 ≤ indent + level := by
      constructor
      · rintro (⟨-, hlevel⟩ | hends | hends)
        · exact hlevel
        all_goals exact absurd hblank hends.not_forall_isBlank
      · exact .untitled hblank
    rw [endsClosed_append hblank, endsClosed_opening h.level_pos, hmisread]
    exact ⟨(or_iff_right hnone).symm, fun hboth => hnone hboth.1⟩
  · rw [hends.endsClosed_append_iff, hends.hasClosing_iff, hends.misread_iff]
    refine ⟨?_, fun hboth => hboth.2.2 hboth.1⟩
    constructor
    · intro hescaped
      exact (Classical.em _).imp_right fun hnot => ⟨hescaped, hnot⟩
    · rintro (⟨hspace, -⟩ | ⟨hescaped, -⟩)
      · rintro ⟨rfl, -⟩
        cases hspace
      · exact hescaped
  · have hnone : ¬ HasClosing rest := by
      rintro ⟨title, htitle⟩
      obtain ⟨_, _, _, hends, -⟩ := htitle.exists_endsInSigns
      exact not_endsInSigns hrest hc hsign htail hends
    have hright : ¬ Misread indent level rest := by
      rintro (⟨hblank, -⟩ | hends | hends)
      · exact hc (hblank c (by simp [hrest]))
      all_goals exact not_endsInSigns hrest hc hsign htail hends
    have hopen : endsClosed (List.replicate indent ' ' ++ List.replicate level '#' ++ rest) =
        false := by
      have hsplit : List.replicate indent ' ' ++ List.replicate level '#' ++ rest =
          (List.replicate indent ' ' ++ List.replicate level '#' ++ shown ++ [c]) ++ tail := by
        simp [hrest]
      rw [hsplit, endsClosed_append htail, endsClosed_concat_of_ne hc hsign]
    rw [hopen]
    exact ⟨⟨nofun, fun hor => (hor.elim hnone hright).elim⟩, fun hboth => hnone hboth.1⟩

end

theorem headingStyle_of_single {token : Token} {range : LineRange}
    (hrange : token.range = some range) (hsingle : range.stop - range.start = 1) :
    token.headingStyle = if endsClosed token.line then .atxClosed else .atx := by
  rw [Token.headingStyle, hrange]
  exact if_pos hsingle

/-- **Headings with number signs.** A heading on one line with number signs in front of it is closed
or not. It is told to be closed if it has a closing sequence, and the closing sequence is what the
title is read without. The style is that of the line if and only if the line is none of those that
are taken for closed ones: it has no title and several opening signs or one behind a space; number
signs belong to its last word, and are no single one behind a backslash; or other blanks than spaces
and tabs come behind the closing signs. -/
theorem headingStyle_eq_closing_iff {token : Token} {range : LineRange} {indent level : Nat}
    {rest : Text} (hrange : token.range = some range) (hsingle : range.stop - range.start = 1)
    (hline : IsAtx token.line indent level rest) :
    (token.headingStyle = .atxClosed ∨ token.headingStyle = .atx) ∧
    (HasClosing rest → token.headingStyle = .atxClosed) ∧
    ((token.headingStyle = .atxClosed ↔ HasClosing rest) ↔ ¬ Misread indent level rest) ∧
    (∀ title, ClosedAs rest title →
      AtxHeading.at? (List.replicate level '#' ++ rest) = some ⟨level, Markdown.trim title⟩) ∧
    (¬ HasClosing rest →
      AtxHeading.at? (List.replicate level '#' ++ rest) = some ⟨level, Markdown.trim rest⟩) := by
  obtain ⟨hends, hboth⟩ := hline.endsClosed_iff
  have hstyle : token.headingStyle = .atxClosed ↔ endsClosed token.line := by
    rw [headingStyle_of_single hrange hsingle]
    split
    · next h => exact iff_of_true rfl h
    · next h => exact iff_of_false nofun h
  refine ⟨?_, fun h => hstyle.mpr (hends.mpr (.inl h)), ?_, fun title => ?_, ?_⟩
  · rw [headingStyle_of_single hrange hsingle]
    split
    · exact .inl rfl
    · exact .inr rfl
  · rw [hstyle, hends]
    constructor
    · intro h hmisread
      exact hboth ⟨h.mp (.inr hmisread), hmisread⟩
    · intro h
      exact or_iff_left h
  · exact at?_of_closedAs hline.level_pos hline.level_le hline.isSpace_head
  · exact at?_of_not_hasClosing hline.level_pos hline.level_le hline.isSpace_head

/-- A single number sign behind a backslash closes nothing. -/
theorem headingStyle_eq_closing_iff_escaped :
    let token : Token :=
      { kind := "heading_open", range := some ⟨4, 5⟩, line := " ## a \\#\t".toList }
    IsAtx token.line 1 2 " a \\#\t".toList ∧
      ¬ Misread 1 2 " a \\#\t".toList ∧
      (token.headingStyle = .atxClosed ↔ HasClosing " a \\#\t".toList) := by
  intro token
  have hline : IsAtx token.line 1 2 " a \\#\t".toList := by
    refine ⟨rfl, by decide, by decide, by decide, fun c hc => ?_⟩
    obtain rfl : ' ' = c := Option.some.inj hc
    rfl
  have hends : EndsInSigns " a \\#\t".toList " a ".toList '\\' 1 ['\t'] :=
    ⟨rfl, by decide, by decide, List.forall_mem_singleton.mpr rfl⟩
  have hmisread : ¬ Misread 1 2 " a \\#\t".toList := fun h =>
    (hends.misread_iff.mp h).1 ⟨rfl, rfl⟩
  exact ⟨hline, hmisread, (headingStyle_eq_closing_iff rfl rfl hline).2.2.1.mpr hmisread⟩

/-- The sign in a name such as this one is taken for a closing sequence. -/
theorem headingStyle_ne_glued_sign :
    ¬ ∀ (token : Token) (range : LineRange) (indent level : Nat) (rest : Text),
      token.range = some range → range.stop - range.start = 1 →
      IsAtx token.line indent level rest →
      (token.headingStyle = .atxClosed ↔ HasClosing rest) := by
  intro h
  let token : Token := { kind := "heading_open", range := some ⟨0, 1⟩, line := "# C#".toList }
  have hline : IsAtx token.line 0 1 " C#".toList := by
    refine ⟨rfl, by decide, by decide, by decide, fun c hc => ?_⟩
    obtain rfl : ' ' = c := Option.some.inj hc
    rfl
  have hends : EndsInSigns " C#".toList [' '] 'C' 1 [] := ⟨rfl, by decide, by decide, nofun⟩
  have hclosed := (h token _ 0 1 _ rfl rfl hline).mp (by decide)
  cases (hends.hasClosing_iff.mp hclosed).1

end MarkdownCheck.Heading
