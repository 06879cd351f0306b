import Mathlib.Data.List.TakeWhile
import MarkdownCheck.Proofs.Pattern.Ends
import MarkdownCheck.Quote

/-!
# Lines without their quote markers

Blanks and markers may stand in front of a line in any mix. All of them up to the last marker go,
and one space behind that.

- `Quote.lead`: the blanks and markers in front; `Quote.lead_cases`: where their last marker stands.
- `Quote.strip_eq_iff`: what is left of a line.
- `Quote.findSome?_ends_quoting`: a pattern that first takes all blanks and markers gives back as
  many of them as stand behind the last marker.
- `Quote.strip_eq_search?`: so it finds what goes.
- `Quote.strip_spec_and_indent_quoted`: stripping a line, once and again, in one quote or in
  several.
-/

namespace MarkdownCheck

namespace Quote

/-! ## What stands in front -/

/-- A blank or a marker. -/
def isQuoting (c : Char) : Bool :=
  Text.isBlank c || c = '>'

theorem isQuoting_eq_false {c : Char} (hblank : Text.isBlank c = false) (hmark : c ≠ '>') :
    isQuoting c = false := by
  rw [isQuoting, hblank, decide_eq_false hmark]
  rfl

/-- The blanks and markers in front of a line. -/
def lead (line : Text) : Text :=
  line.takeWhile isQuoting

theorem lead_cons {c : Char} (h : isQuoting c = true) (rest : Text) :
    lead (c :: rest) = c :: lead rest :=
  List.takeWhile_cons_of_pos h

theorem lead_append {front : Text} (h : ∀ c ∈ front, isQuoting c = true) (rest : Text) :
    lead (front ++ rest) = front ++ lead rest :=
  List.takeWhile_append_of_pos h

theorem lead_eq_self {line : Text} (h : ∀ c ∈ line, isQuoting c = true) : lead line = line :=
  List.takeWhile_eq_self_iff.mpr h

theorem isQuoting_of_mem_lead {line : Text} {c : Char} (h : c ∈ lead line) : isQuoting c = true :=
  List.mem_takeWhile_imp h

/-- There is no marker in front of a line, or there is a last one. -/
theorem lead_cases (line : Text) :
    '>' ∉ lead line ∨
      ∃ front rest, line = front ++ '>' :: rest ∧ (∀ c ∈ front, isQuoting c = true) ∧
        '>' ∉ lead rest := by
  induction line with
  | nil => exact .inl nofun
  | cons c rest ih =>
    by_cases hc : isQuoting c = true
    · rcases ih with hnone | ⟨front, behind, rfl, hfront, hlast⟩
      · by_cases hmark : c = '>'
        · exact .inr ⟨[], rest, by rw [hmark, List.nil_append], nofun, hnone⟩
        · rw [lead_cons hc, List.mem_cons, not_or]
          exact .inl ⟨Ne.symm hmark, hnone⟩
      · exact .inr ⟨c :: front, behind, rfl, List.forall_mem_cons.mpr ⟨hc, hfront⟩, hlast⟩
    · rw [lead, List.takeWhile_cons_of_neg hc]
      exact .inl nofun

/-! ## What is left -/

theorem afterMarkers?_eq_none {line : Text} (h : '>' ∉ lead line) : afterMarkers? line = none := by
  induction line with
  | nil => rfl
  | cons c rest ih =>
    rw [afterMarkers?]
    by_cases hc : isQuoting c = true
    · rw [lead_cons hc, List.mem_cons, not_or] at h
      rw [if_neg (Ne.symm h.1), ih h.2, ite_self]
    · rw [isQuoting, Bool.or_eq_true, decide_eq_true_eq, not_or] at hc
      rw [if_neg hc.2, if_neg hc.1]

theorem afterMarkers?_marker {front rest : Text} (hfront : ∀ c ∈ front, isQuoting c = true)
    (h : '>' ∉ lead rest) : afterMarkers? (front ++ '>' :: rest) = some (dropSpace rest) := by
  induction front with
  | nil =>
    rw [List.nil_append, afterMarkers?, if_pos rfl, afterMarkers?_eq_none h]
    rfl
  | cons c front ih =>
    obtain ⟨hc, hmore⟩ := List.forall_mem_cons.mp hfront
    rw [List.cons_append, afterMarkers?, ih hmore]
    split
    · rfl
    · next hne =>
      have hblank : Text.isBlank c = true := by simpa [isQuoting, hne] using hc
      rw [if_pos hblank]

theorem strip_of_not_mem {line : Text} (h : '>' ∉ lead line) : strip line = line := by
  rw [strip, afterMarkers?_eq_none h]
  rfl

/-- The last marker counts, and the space behind it belongs to it. -/
theorem strip_marker {front rest : Text} (hfront : ∀ c ∈ front, isQuoting c = true)
    (h : '>' ∉ lead rest) : strip (front ++ '>' :: rest) = dropSpace rest := by
  rw [strip, afterMarkers?_marker hfront h]
  rfl

theorem dropSpace_eq_iff {text rest : Text} :
    dropSpace text = rest ↔ text = ' ' :: rest ∨ text = rest ∧ text.head? ≠ some ' ' := by
  unfold dropSpace
  split
  · simp
  · next hspace =>
    have hhead : text.head? ≠ some ' ' := fun h =>
      hspace text.tail (List.eq_cons_of_mem_head? h)
    constructor
    · exact fun h => .inr ⟨h, hhead⟩
    · rintro (rfl | ⟨h, -⟩)
      · exact absurd rfl hhead
      · exact h

theorem mem_of_mem_dropSpace {text : Text} {c : Char} (hc : c ∈ dropSpace text) : c ∈ text := by
  rcases dropSpace_eq_iff.mp (rfl : dropSpace text = _) with h | ⟨h, -⟩
  · rw [h]
    exact List.mem_cons_of_mem _ hc
  · rwa [h]

/-- The parts of a line that is stripped. -/
theorem strip_eq_iff {line rest : Text} :
    strip line = rest ↔
      ('>' ∉ lead line ∧ line = rest) ∨
      ∃ front blanks, lead line = front ++ '>' :: blanks ∧ '>' ∉ blanks ∧
        (line = front ++ '>' :: ' ' :: rest ∨
          line = front ++ '>' :: rest ∧ rest.head? ≠ some ' ') := by
  have hmark : isQuoting '>' = true := by decide
  constructor
  · intro h
    rcases lead_cases line with hnone | ⟨front, behind, rfl, hfront, hlast⟩
    · exact .inl ⟨hnone, (strip_of_not_mem hnone).symm.trans h⟩
    · rw [strip_marker hfront hlast] at h
      refine .inr ⟨front, lead behind, by rw [lead_append hfront, lead_cons hmark], hlast, ?_⟩
      rcases dropSpace_eq_iff.mp h with rfl | ⟨rfl, hhead⟩
      · exact .inl rfl
      · exact .inr ⟨rfl, hhead⟩
  · rintro (⟨hnone, rfl⟩ | ⟨front, blanks, hlead, hlast, hline⟩)
    · exact strip_of_not_mem hnone
    · have hfront : ∀ c ∈ front, isQuoting c = true := by
        intro c hc
        exact isQuoting_of_mem_lead (hlead ▸ List.mem_append_left _ hc)
      -- either way the blanks are what stands in front behind the marker
      have hstrip : ∀ behind, line = front ++ '>' :: behind → strip line = dropSpace behind := by
        rintro behind rfl
        rw [lead_append hfront, lead_cons hmark] at hlead
        have hblanks : lead behind = blanks := (List.cons.inj (List.append_cancel_left hlead)).2
        exact strip_marker hfront (hblanks ▸ hlast)
      rcases hline with hline | ⟨hline, hhead⟩
      · exact hstrip _ hline
      · exact (hstrip _ hline).trans (dropSpace_eq_iff.mpr (.inr ⟨rfl, hhead⟩))

theorem dropSpace_append {c : Char} (hc : c ≠ ' ') (blanks rest : Text) :
    dropSpace (blanks ++ c :: rest) = dropSpace blanks ++ c :: rest := by
  rcases dropSpace_eq_iff.mp (rfl : dropSpace blanks = _) with h | ⟨h, hhead⟩
  · exact dropSpace_eq_iff.mpr (.inl (congrArg (· ++ c :: rest) h))
  · rw [← h]
    refine dropSpace_eq_iff.mpr (.inr ⟨rfl, ?_⟩)
    cases blanks with
    | nil => simpa using hc
    | cons d blanks => exact hhead

/-- Content stays that starts with something else than blanks and markers. -/
theorem strip_append {front : Text} {c : Char} (rest : Text)
    (hfront : ∀ c ∈ front, isQuoting c = true) (hc : isQuoting c = false) :
    strip (front ++ c :: rest) = strip front ++ c :: rest := by
  have hnothing : lead (c :: rest) = [] := List.takeWhile_cons_of_neg (by simp [hc])
  have hlead : ∀ {text : Text}, (∀ c ∈ text, isQuoting c = true) →
      lead (text ++ c :: rest) = lead text := by
    intro text htext
    rw [lead_append htext, hnothing, List.append_nil, lead_eq_self htext]
  rcases lead_cases front with hnone | ⟨before, blanks, rfl, hbefore, hlast⟩
  · rw [strip_of_not_mem hnone, strip_of_not_mem (by rwa [hlead hfront])]
  · have hblanks : ∀ c ∈ blanks, isQuoting c = true := fun c h =>
      hfront c (List.mem_append_right _ (List.mem_cons_of_mem _ h))
    have hspace : c ≠ ' ' := by
      rintro rfl
      cases hc
    rw [strip_marker hbefore hlast, List.append_assoc, List.cons_append,
      strip_marker hbefore (by rwa [hlead hblanks]), dropSpace_append hspace]

/-! ## Again, and deeper -/

/-- No marker stands in front of what is left. -/
theorem not_mem_lead_strip (line : Text) : '>' ∉ lead (strip line) := by
  rcases lead_cases line with hnone | ⟨front, rest, rfl, hfront, hlast⟩
  · rwa [strip_of_not_mem hnone]
  · rw [strip_marker hfront hlast]
    rcases dropSpace_eq_iff.mp (rfl : dropSpace rest = _) with h | ⟨h, -⟩
    · rw [h, lead_cons (by decide), List.mem_cons, not_or] at hlast
      exact hlast.2
    · rwa [← h]

theorem strip_strip (line : Text) : strip (strip line) = strip line :=
  strip_of_not_mem (not_mem_lead_strip line)

theorem mem_of_mem_strip {line : Text} {c : Char} (h : c ∈ strip line) : c ∈ line := by
  rcases lead_cases line with hnone | ⟨front, rest, rfl, hfront, hlast⟩
  · rwa [strip_of_not_mem hnone] at h
  · rw [strip_marker hfront hlast] at h
    exact List.mem_append_right _ (List.mem_cons_of_mem _ (mem_of_mem_dropSpace h))

/-- Of blanks and markers only blanks are left. -/
theorem ne_of_mem_strip {front : Text} (hfront : ∀ c ∈ front, isQuoting c = true) {c : Char}
    (h : c ∈ strip front) : c ≠ '>' := by
  have hlead : lead (strip front) = strip front :=
    lead_eq_self fun c hc => hfront c (mem_of_mem_strip hc)
  rintro rfl
  exact not_mem_lead_strip front (hlead.symm ▸ h)

/-- A line one quote deeper. -/
def quote (line : Text) : Text :=
  '>' :: ' ' :: line

/-- A marker in front changes nothing about what is left. -/
theorem strip_quote (line : Text) : strip (quote line) = strip line := by
  have hmark : isQuoting '>' = true := by decide
  have hspace : isQuoting ' ' = true := by decide
  rcases lead_cases line with hnone | ⟨front, rest, rfl, hfront, hlast⟩
  · have hnone' : '>' ∉ lead (' ' :: line) := by
      rw [lead_cons hspace, List.mem_cons, not_or]
      exact ⟨by decide, hnone⟩
    have hfirst : ∀ c ∈ ([] : Text), isQuoting c = true := nofun
    rw [strip_of_not_mem hnone]
    exact strip_marker hfirst hnone'
  · have hdeeper : ∀ c ∈ '>' :: ' ' :: front, isQuoting c = true :=
      List.forall_mem_cons.mpr ⟨hmark, List.forall_mem_cons.mpr ⟨hspace, hfront⟩⟩
    have hstrip := strip_marker hdeeper hlast
    rw [strip_marker hfront hlast]
    exact hstrip

theorem strip_iterate_quote (levels : Nat) (line : Text) :
    strip (quote^[levels] line) = strip line := by
  induction levels with
  | zero => rfl
  | succ levels ih => rw [Function.iterate_succ_apply', strip_quote, ih]

/-! ## The pattern -/

section

open Pattern

/-- A marker with the space that belongs to it. -/
def marker : Pattern :=
  .group 1 (.either (word "> ") (char '>'))

/-- A marker takes a space behind it if there is one. -/
theorem head?_ends_marker (place : Place) :
    (marker.ends place).head?.map (·.rest) =
      if place.rest.head? = some '>' then some (dropSpace place.rest.tail) else none := by
  cases htext : place.rest with
  | nil => simp [marker, ends, word, all, char, htext]
  | cons c rest =>
    by_cases hc : c = '>'
    · cases rest with
      | nil => simp [marker, ends, word, all, char, Place.advance, htext, hc, dropSpace]
      | cons d rest =>
        by_cases hd : d = ' ' <;>
          simp [marker, ends, word, all, char, Place.advance, htext, hc, hd, dropSpace]
    · simp [marker, ends, word, all, char, htext, hc]

/-- The pattern first takes all blanks and markers, then gives them back until a marker follows. So
the last marker is found. -/
theorem findSome?_ends_quoting (place : Place) :
    (quoting.ends place).findSome? (fun next => (marker.ends next).head?.map (·.rest)) =
      afterMarkers? place.rest := by
  show ((star (one isQuoting)).ends place).findSome? _ = _
  generalize htext : place.rest = text
  induction text generalizing place with
  | nil =>
    rw [ends_star_one_nil htext, List.findSome?_singleton, head?_ends_marker, htext]
    rfl
  | cons c rest ih =>
    have hnext := ih _ (Place.rest_advance_one htext)
    rw [ends_star_one_cons htext, List.findSome?_append, List.findSome?_singleton,
      head?_ends_marker, htext, List.head?_cons, List.tail_cons, afterMarkers?]
    by_cases hmark : c = '>'
    · have hc : isQuoting c = true := by simp [isQuoting, hmark]
      rw [if_pos hc, hnext, if_pos hmark, if_pos (congrArg some hmark), Option.or_some]
    · rw [if_neg hmark, if_neg (mt Option.some.inj hmark), Option.or_none, isQuoting]
      by_cases hblank : Text.isBlank c = true
      · rw [if_pos hblank, if_pos (by simp [hblank]), hnext]
      · rw [if_neg hblank, if_neg (by simp [hblank, hmark])]
        rfl

/-- What follows the match of the pattern is what follows the markers. -/
theorem head?_ends_blockQuotePrefix (line : Text) :
    (blockQuotePrefix.ends ⟨0, line, []⟩).head?.map (·.rest) = afterMarkers? line := by
  have hpattern : blockQuotePrefix = all [.atStart, quoting, marker] := rfl
  rw [← findSome?_ends_quoting ⟨0, line, []⟩, hpattern, all, List.foldr, ends_seq_atStart _ rfl,
    List.foldr, List.foldr, List.foldr, ends, ends_seq_empty, List.head?_flatMap,
    List.map_findSome?]
  rfl

/-- What the pattern finds in a line goes. -/
theorem strip_eq_search? (line : Text) :
    strip line = match blockQuotePrefix.search? line with
      | some found => line.take found.start ++ line.drop found.stop
      | none => line := by
  have hsearch : blockQuotePrefix.search? line = blockQuotePrefix.matchStart? line :=
    search?_all_atStart [quoting, marker] line
  have hends := head?_ends_blockQuotePrefix line
  rw [hsearch, matchStart?, matchAt?, strip, ← hends]
  cases hhead : (blockQuotePrefix.ends ⟨0, line, []⟩).head? with
  | none => rfl
  | some next =>
    obtain ⟨taken, -, hline, hposition⟩ :=
      exists_mem_language_of_mem_ends (List.mem_of_mem_head? hhead)
    have hline : line = taken ++ next.rest := hline
    have hrest : line.drop next.position = next.rest := by
      rw [hposition, Nat.zero_add, hline, List.drop_left]
    show next.rest = line.take 0 ++ line.drop next.position
    rw [hrest, List.take_zero, List.nil_append]

end

/-! ## Lines of tokens -/

/-- **Quote markers.** Of a line without a marker among the blanks and markers in front nothing
goes. Of any other line all goes up to the last such marker, with one space behind it if there is
one. This is what the pattern of quote markers finds. To strip a line again changes nothing, for no
marker is left in front; nor does it matter how many quotes deeper a line stands, be it for what is
left or for how far a token is indented. -/
theorem strip_spec_and_indent_quoted :
    (∀ line rest, strip line = rest ↔
      ('>' ∉ lead line ∧ line = rest) ∨
      ∃ front blanks, lead line = front ++ '>' :: blanks ∧ '>' ∉ blanks ∧
        (line = front ++ '>' :: ' ' :: rest ∨
          line = front ++ '>' :: rest ∧ rest.head? ≠ some ' ')) ∧
    (∀ line, strip line = match Pattern.blockQuotePrefix.search? line with
      | some found => line.take found.start ++ line.drop found.stop
      | none => line) ∧
    (∀ line, strip (strip line) = strip line) ∧
    (∀ line, '>' ∉ lead (strip line)) ∧
    (∀ line, strip (quote line) = strip line) ∧
    ∀ (levels : Nat) (token : Token),
      Token.indent { token with line := quote^[levels] token.line } = token.indent := by
  refine ⟨?_, strip_eq_search?, strip_strip, not_mem_lead_strip, strip_quote, ?_⟩
  · intro line rest
    exact strip_eq_iff
  · intro levels token
    show Text.indent (strip (quote^[levels] token.line)) = token.indent
    rw [strip_iterate_quote, Token.indent]

/-- One space goes with the last marker, the blanks between the markers go too. -/
example : strip " >\t\u3000>  - a > b".toList = " - a > b".toList := by
  decide

end Quote

end MarkdownCheck
