import Mathlib.Data.Bool.AllAny
import MarkdownCheck.Pattern.Named
import MarkdownCheck.Proofs.FrontMatter.Crlf
import MarkdownCheck.Proofs.Pattern.Ends
import MarkdownCheck.Proofs.Text.Find

/-!
# The pattern of front matter

The pattern of front matter knows no lines. It lets any characters pass until a line end and the
delimiter come, trying one place after the other, and where it gets no further it may still take the
carriage return in front of a line feed for a line end of its own. Its preferred match ends where
the lines say all the same.

- `Pattern.ends_lineEnd_returnAndFeed` and the ones behind it: where line ends match.
- `closing`, `search`, `toClosing`: the parts of the pattern behind the opening line.
- `head?_ends_closing`: the closing delimiter matches where the first line is the delimiter.
- `head?_ends_search`: a search goes on with the second line.
- `head?_ends_toClosing`: the preferred match ends with the first closing line.
- `matchStart?_frontMatter`: front matter is what the pattern matches.
-/

namespace MarkdownCheck

namespace Pattern

theorem ends_seq_congr {before after other : Pattern} (h : after.ends = other.ends) :
    (seq before after).ends = (seq before other).ends := by
  funext place
  rw [ends, ends, h]

/-! ## Line ends -/

variable {place : Place} {rest : Text}

theorem ends_lineEnd_nil (h : place.rest = []) : lineEnd.ends place = [] := by
  simp [lineEnd, first, word, all, char, ends, h]

/-- A carriage return in front of a line feed may also be taken alone. -/
theorem ends_lineEnd_returnAndFeed (h : place.rest = '\r' :: '\n' :: rest) :
    lineEnd.ends place = [place.advance 2, place.advance 1] := by
  simp [lineEnd, first, word, all, char, ends, h, Place.advance]

theorem ends_lineEnd_cons {c : Char} (h : place.rest = c :: rest)
    (hfeed : ∀ after, c = '\r' → rest = '\n' :: after → False) :
    lineEnd.ends place = if Text.isLineEnd c then [place.advance 1] else [] := by
  have htogether : (word "\r\n").ends place = [] := by
    by_cases hreturn : c = '\r'
    · subst hreturn
      cases rest with
      | nil => simp [word, all, char, ends, h, Place.advance]
      | cons d after =>
        have hd : d ≠ '\n' := by
          rintro rfl
          exact hfeed after rfl rfl
        simp [word, all, char, ends, h, Place.advance, hd]
    · simp [word, all, char, ends, h, hreturn]
  rw [lineEnd, first, first, first, ends, ends, htogether, List.nil_append]
  by_cases hreturn : c = '\r'
  · simp [char, ends, h, hreturn, Text.isLineEnd]
  · by_cases hnewline : c = '\n' <;> simp [char, ends, h, hreturn, hnewline, Text.isLineEnd]

end Pattern

namespace FrontMatter

open Pattern

/-! ## Reading lines -/

theorem takeLine?_of_isLineEnd {c : Char} {rest : Text} (hend : Text.isLineEnd c)
    (hfeed : ∀ after, c = '\r' → rest = '\n' :: after → False) :
    takeLine? (c :: rest) = some ([], [c], rest) := by
  rw [takeLine?, if_pos hend]
  exact hfeed

theorem takeLine?_of_not_isLineEnd {c : Char} (hc : ¬ Text.isLineEnd c) (rest : Text) :
    takeLine? (c :: rest) =
      (takeLine? rest).map fun (line, ending, after) => (c :: line, ending, after) := by
  rw [takeLine?, if_neg hc]
  rintro _ rfl
  exact absurd rfl hc

/-- What holds no line end makes the first line longer. -/
theorem takeLine?_append {front : Text} (h : ∀ c ∈ front, ¬ Text.isLineEnd c) (text : Text) :
    takeLine? (front ++ text) = (takeLine? text).map fun (line, ending, rest) =>
      (front ++ line, ending, rest) := by
  induction front with
  | nil => exact Option.map_id'.symm
  | cons c front ih =>
    obtain ⟨hc, hfront⟩ := List.forall_mem_cons.mp h
    rw [List.cons_append, takeLine?_of_not_isLineEnd hc, ih hfront, Option.map_map]
    rfl

/-! ## The parts of the pattern -/

/-- The opening delimiter. -/
def opening : Pattern :=
  .group 1 (.either (word "---") (word "+++"))

/-- The closing delimiter with its line end. -/
def closing : Pattern :=
  .seq (.same 1) lineEnd

/-- A search for the closing line behind at least one other line. -/
def search : Pattern :=
  .seq (.seq (lazyStar anything) lineEnd) closing

/-- All that comes behind the opening line. -/
def toClosing : Pattern :=
  .seq (.either .empty (.seq (lazyStar anything) lineEnd)) closing

theorem ends_frontMatter :
    frontMatter.ends = (Pattern.seq opening (.seq lineEnd toClosing)).ends :=
  ends_seq_congr (ends_seq_congr (ends_seq_congr (ends_seq_congr (ends_seq_empty lineEnd))))

theorem ends_toClosing (place : Place) :
    toClosing.ends place = closing.ends place ++ search.ends place := by
  simp [toClosing, search, ends]

theorem ends_search_nil {place : Place} (h : place.rest = []) : search.ends place = [] := by
  simp [search, ends, anything, ends_lazyStar_one_nil h, ends_lineEnd_nil h]

theorem ends_search_cons {place : Place} {c : Char} {rest : Text} (h : place.rest = c :: rest) :
    search.ends place =
      (lineEnd.ends place).flatMap closing.ends ++ search.ends (place.advance 1) := by
  simp [search, ends, anything, ends_lazyStar_one_cons h]

theorem ends_search_of_isLineEnd {place : Place} {c : Char} {rest : Text}
    (h : place.rest = c :: rest) (hend : Text.isLineEnd c)
    (hfeed : ∀ after, c = '\r' → rest = '\n' :: after → False) :
    search.ends place = toClosing.ends (place.advance 1) := by
  rw [ends_search_cons h, ends_lineEnd_cons h hfeed, if_pos hend, List.flatMap_singleton,
    ends_toClosing]

/-! ## Matches and lines -/

/-- The place behind a line and its end, as they have been read. -/
def behind (place : Place) (found : Text × Text × Text) : Place :=
  place.advance (found.1 ++ found.2.1).length

theorem rest_behind {place : Place} {line ending rest : Text}
    (h : takeLine? place.rest = some (line, ending, rest)) :
    (behind place (line, ending, rest)).rest = rest := by
  show place.rest.drop (line ++ ending).length = rest
  rw [eq_append_of_takeLine? h, ← List.append_assoc, List.drop_left]

/-- The preferred line end is the one that ends the first line. -/
theorem head?_ends_lineEnd (place : Place) :
    (lineEnd.ends place).head? = (takeLine? place.rest).bind fun found =>
      if found.1 = [] then some (behind place found) else none := by
  generalize htext : place.rest = text
  fun_cases takeLine? text with
  | case1 =>
    rw [ends_lineEnd_nil htext]
    rfl
  | case2 rest =>
    rw [ends_lineEnd_returnAndFeed htext]
    rfl
  | case3 c rest hfeed hend =>
    rw [ends_lineEnd_cons htext hfeed, if_pos hend]
    rfl
  | case4 c rest hfeed hend =>
    rw [ends_lineEnd_cons htext hfeed, if_neg hend]
    cases takeLine? rest <;> rfl

/-- The opening line has been this delimiter. -/
def IsOpened (delimiter : Text) (place : Place) : Prop :=
  ∃ capture, place.captured? 1 = some capture ∧ capture.text = delimiter

theorem IsOpened.advance {delimiter : Text} {place : Place} (h : IsOpened delimiter place)
    (n : Nat) : IsOpened delimiter (place.advance n) :=
  h

theorem IsOpened.behind {delimiter : Text} {place : Place} (h : IsOpened delimiter place)
    (found : Text × Text × Text) : IsOpened delimiter (behind place found) :=
  h

section Delimiter

variable {delimiter : Text} (hcontent : ∀ c ∈ delimiter, ¬ Text.isLineEnd c)
  (hne : delimiter ≠ []) {place : Place} (hopened : IsOpened delimiter place)

include hcontent hopened

/-- The closing delimiter matches where the first line is the delimiter. -/
theorem head?_ends_closing :
    (closing.ends place).head? = (takeLine? place.rest).bind fun found =>
      if found.1 = delimiter then some (behind place found) else none := by
  obtain ⟨capture, hcapture, htext⟩ := hopened
  rw [closing, ends, ends, hcapture]
  simp only [htext]
  cases hprefix : Text.dropPrefix? delimiter place.rest with
  | none =>
    -- no first line can be the delimiter
    rw [if_neg (by simp)]
    cases hline : takeLine? place.rest with
    | none => rfl
    | some found =>
      obtain ⟨line, ending, rest⟩ := found
      have hother : line ≠ delimiter := by
        rintro rfl
        exact Text.dropPrefix?_eq_none_iff.mp hprefix ⟨_, (eq_append_of_takeLine? hline).symm⟩
      rw [Option.bind_some, if_neg hother]
      rfl
  | some text =>
    have hrest := Text.eq_append_of_dropPrefix? hprefix
    have hbehind : (place.advance delimiter.length).rest = text := by
      show place.rest.drop delimiter.length = text
      rw [hrest, List.drop_left]
    -- what is left of the first line is empty exactly if the line is the delimiter
    rw [if_pos (by simp), List.flatMap_singleton, head?_ends_lineEnd, hbehind, hrest,
      takeLine?_append hcontent, Option.bind_map]
    congr 1
    funext found
    obtain ⟨line, ending, rest⟩ := found
    by_cases hline : line = []
    · simp [hline, behind]
    · simp [hline]

include hne

/-- It does not match between a carriage return and a line feed. -/
theorem ends_closing_feed {rest : Text} (h : place.rest = '\n' :: rest) :
    closing.ends place = [] := by
  rw [← List.head?_eq_none_iff, head?_ends_closing hcontent hopened, h,
    takeLine?_of_isLineEnd rfl (by simp)]
  exact if_neg hne.symm

theorem ends_toClosing_feed {rest : Text} (h : place.rest = '\n' :: rest) :
    toClosing.ends place = toClosing.ends (place.advance 1) := by
  rw [ends_toClosing, ends_closing_feed hcontent hne hopened h, List.nil_append,
    ends_search_of_isLineEnd h rfl (by simp)]

/-- A search goes on with the second line. -/
theorem head?_ends_search :
    (search.ends place).head? = (takeLine? place.rest).bind fun found =>
      (toClosing.ends (behind place found)).head? := by
  generalize htext : place.rest = text
  fun_induction takeLine? text generalizing place with
  | case1 =>
    rw [ends_search_nil htext]
    rfl
  | case2 rest =>
    have hnext := Place.rest_advance_one htext
    -- from between the two characters nothing is found that is not found behind them
    have hsearch : search.ends place =
        closing.ends (place.advance 2) ++ toClosing.ends (place.advance 2) := by
      rw [ends_search_cons htext, ends_lineEnd_returnAndFeed htext, List.flatMap_cons,
        List.flatMap_singleton, ends_closing_feed hcontent hne (hopened.advance 1) hnext,
        List.append_nil, ends_search_of_isLineEnd hnext rfl (by simp), Place.advance_advance]
    show (search.ends place).head? = (toClosing.ends (place.advance 2)).head?
    rw [hsearch, ends_toClosing]
    cases closing.ends (place.advance 2) <;> rfl
  | case3 c rest hfeed hend =>
    rw [ends_search_of_isLineEnd htext hend hfeed]
    rfl
  | case4 c rest hfeed hend ih =>
    -- no line ends here, so the search goes on with the next character
    rw [ends_search_cons htext, ends_lineEnd_cons htext hfeed, if_neg hend, List.flatMap_nil,
      List.nil_append, ih (hopened.advance 1) (Place.rest_advance_one htext), Option.bind_map]
    congr 1
    funext found
    obtain ⟨line, ending, after⟩ := found
    show (toClosing.ends ((place.advance 1).advance (line ++ ending).length)).head? =
      (toClosing.ends (place.advance ((line ++ ending).length + 1))).head?
    rw [Place.advance_advance, Nat.add_comm]

/-- **The preferred match ends with the first closing line.** -/
theorem head?_ends_toClosing :
    (toClosing.ends place).head? =
      (takeThrough? delimiter place.rest).map fun through => place.advance through.1.length := by
  generalize htext : place.rest = text
  fun_induction takeThrough? delimiter text generalizing place with
  | case1 text hline =>
    rw [ends_toClosing, List.head?_append, head?_ends_closing hcontent hopened,
      head?_ends_search hcontent hne hopened, htext, hline]
    rfl
  | case2 text ending rest hline =>
    -- the preferred match is the one that goes on at once
    rw [ends_toClosing, List.head?_append, head?_ends_closing hcontent hopened, htext, hline,
      Option.bind_some, if_pos rfl]
    rfl
  | case3 text line ending rest hline hother ih =>
    rw [ends_toClosing, List.head?_append, head?_ends_closing hcontent hopened,
      head?_ends_search hcontent hne hopened, htext, hline, Option.bind_some, if_neg hother,
      Option.none_or, Option.bind_some, ih (hopened.behind _) (rest_behind (htext ▸ hline)),
      Option.map_map]
    congr 1
    funext through
    simp [behind, Nat.add_assoc]

/-- Behind the opening delimiter its line has to end. -/
theorem head?_ends_lineEnd_toClosing :
    ((Pattern.seq lineEnd toClosing).ends place).head? =
      (takeLine? place.rest).bind fun found =>
        if found.1 = [] then (toClosing.ends (behind place found)).head? else none := by
  rw [ends]
  generalize htext : place.rest = text
  fun_cases takeLine? text with
  | case1 =>
    rw [ends_lineEnd_nil htext]
    rfl
  | case2 rest =>
    have hnext := Place.rest_advance_one htext
    rw [ends_lineEnd_returnAndFeed htext, List.flatMap_cons, List.flatMap_singleton,
      ends_toClosing_feed hcontent hne (hopened.advance 1) hnext, Place.advance_advance,
      List.head?_append, Option.or_self]
    rfl
  | case3 c rest hfeed hend =>
    rw [ends_lineEnd_cons htext hfeed, if_pos hend, List.flatMap_singleton]
    rfl
  | case4 c rest hfeed hend =>
    rw [ends_lineEnd_cons htext hfeed, if_neg hend]
    cases takeLine? rest <;> rfl

end Delimiter

/-! ## The whole pattern -/

theorem isDelimiter_iff {line : Text} :
    isDelimiter line ↔ line = "---".toList ∨ line = "+++".toList := by
  rw [isDelimiter, Bool.or_eq_true, decide_eq_true_eq, decide_eq_true_eq]
  rfl

theorem length_of_isDelimiter {line : Text} (h : isDelimiter line) : line.length = 3 := by
  rcases isDelimiter_iff.mp h with rfl | rfl
  all_goals rfl

theorem not_isLineEnd_of_isDelimiter {line : Text} (h : isDelimiter line) :
    ∀ c ∈ line, ¬ Text.isLineEnd c := by
  rcases isDelimiter_iff.mp h with rfl | rfl
  all_goals exact List.all_iff_forall_prop.mp (by decide)

theorem ends_opening {delimiter : Text} (h : isDelimiter delimiter) (text : Text) :
    opening.ends ⟨0, delimiter ++ text, []⟩ = [⟨3, text, [⟨1, 0, delimiter⟩]⟩] := by
  rcases isDelimiter_iff.mp h with rfl | rfl
  all_goals rfl

theorem mem_language_opening {word : Text} : word ∈ opening.language ↔ isDelimiter word := by
  show word ∈ (Pattern.word "---").language + (Pattern.word "+++").language ↔ _
  rw [Language.mem_add, mem_language_word, mem_language_word, isDelimiter_iff]

theorem ends_opening_eq_nil {content : Text}
    (h : ¬ ∃ delimiter, isDelimiter delimiter ∧ delimiter <+: content) :
    opening.ends ⟨0, content, []⟩ = [] := by
  rw [List.eq_nil_iff_forall_not_mem]
  intro next hnext
  obtain ⟨delimiter, hdelimiter, htaken, -⟩ := exists_mem_language_of_mem_ends hnext
  exact h ⟨delimiter, mem_language_opening.mp hdelimiter, next.rest, htaken.symm⟩

/-- Front matter behind its opening delimiter. -/
theorem take?_append {delimiter : Text} (h : isDelimiter delimiter) (text : Text) :
    take? (delimiter ++ text) = (takeLine? text).bind fun found =>
      if found.1 = [] then
        (takeThrough? delimiter found.2.2).map fun through =>
          (delimiter ++ (found.2.1 ++ through.1), through.2)
      else none := by
  rw [take?, takeLine?_append (not_isLineEnd_of_isDelimiter h)]
  cases takeLine? text with
  | none => rfl
  | some found =>
    obtain ⟨line, ending, rest⟩ := found
    simp only [Option.map_some, Option.bind_some]
    by_cases hline : line = []
    · simp only [hline, List.append_nil, if_pos h, if_true]
    · have hlonger : ¬ isDelimiter (delimiter ++ line) := by
        intro h'
        have hlength := length_of_isDelimiter h'
        rw [List.length_append, length_of_isDelimiter h] at hlength
        exact hline (List.length_eq_zero_iff.mp (by omega))
      simp only [if_neg hline, if_neg hlonger]

theorem take?_eq_none {content : Text}
    (h : ¬ ∃ delimiter, isDelimiter delimiter ∧ delimiter <+: content) : take? content = none := by
  rw [take?]
  split
  · rfl
  · next line ending rest hline =>
    refine if_neg fun hdelimiter => h ⟨line, hdelimiter, ending ++ rest, ?_⟩
    exact (eq_append_of_takeLine? hline).symm

/-- **Front matter is what its pattern matches.** -/
theorem matchStart?_frontMatter (content : Text) :
    (frontMatter.matchStart? content).map (·.stop) = (take? content).map (·.1.length) := by
  rw [matchStart?, matchAt?, ends_frontMatter, Option.map_map, ends]
  by_cases h : ∃ delimiter, isDelimiter delimiter ∧ delimiter <+: content
  · obtain ⟨delimiter, hdelimiter, text, rfl⟩ := h
    have hlength := length_of_isDelimiter hdelimiter
    have hne : delimiter ≠ [] := by
      rintro rfl
      cases hlength
    have hcontent := not_isLineEnd_of_isDelimiter hdelimiter
    have hopened : IsOpened delimiter ⟨3, text, [⟨1, 0, delimiter⟩]⟩ := ⟨_, rfl, rfl⟩
    rw [ends_opening hdelimiter, List.flatMap_singleton,
      head?_ends_lineEnd_toClosing hcontent hne hopened, take?_append hdelimiter]
    cases hread : takeLine? text with
    | none => rfl
    | some found =>
      obtain ⟨line, ending, rest⟩ := found
      rw [Option.bind_some, Option.bind_some]
      by_cases hline : line = []
      · subst hline
        rw [if_pos rfl, if_pos rfl, head?_ends_toClosing hcontent hne (hopened.behind _),
          rest_behind hread, Option.map_map, Option.map_map]
        congr 1
        funext through
        simp [behind, Place.advance, hlength, Nat.add_assoc]
      · rw [if_neg hline, if_neg hline]
        rfl
  · rw [ends_opening_eq_nil h, take?_eq_none h]
    rfl

end FrontMatter

end MarkdownCheck
