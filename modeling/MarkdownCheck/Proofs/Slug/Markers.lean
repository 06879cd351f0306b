import MarkdownCheck.Slug
import MarkdownCheck.Proofs.Pattern.Ends
import MarkdownCheck.Proofs.Text.Find

/-!
# Localization markers

A title is unwrapped in one pass from the front. A marker ends with the first closing bracket behind
its opening, so it may wrap the opening of another one, and what it wraps is not read again.

- `Slug.StartsMarked`, `Slug.HasMarker`: a marker at the start of a text and anywhere in it.
- `Slug.Unwraps`: what a title is unwrapped to, by rules; `Slug.unwraps_iff` says that this is what
  `Slug.unwrap` gives.
- `Slug.unwrap_eq_self_iff`: just the texts without markers stay as they are.
- `Slug.unwrap_eq_search?`: the pattern of markers is replaced wherever a search finds it.
- `Slug.Piece`: titles written piece by piece; `Slug.unwrap_written` unwraps them.
-/

namespace MarkdownCheck

namespace Slug

/-! ## Markers -/

/-- What markers start with. -/
def openings : List Text := ["[!DNL ".toList, "[!UICONTROL ".toList]

/-- A text starts with a marker, which ends with the first closing bracket on its line. -/
structure StartsMarked (text inside after : Text) : Prop where
  exists_opening : ∃ opening ∈ openings, text = opening ++ (inside ++ ']' :: after)
  not_bracket : ']' ∉ inside
  not_feed : '\n' ∉ inside

/-- A marker stands somewhere in a text. -/
def HasMarker (text : Text) : Prop :=
  ∃ before rest inside after, text = before ++ rest ∧ StartsMarked rest inside after

theorem afterMarker?_eq_some_iff {text rest : Text} :
    afterMarker? text = some rest ↔ ∃ opening ∈ openings, text = opening ++ rest := by
  rw [afterMarker?, Option.or_eq_some_iff, Text.dropPrefix?_eq_some_iff,
    Text.dropPrefix?_eq_some_iff]
  simp only [openings, List.mem_cons, List.not_mem_nil, or_false, exists_eq_or_imp,
    exists_eq_left]
  constructor
  · exact Or.imp_right And.right
  · rintro (h | rfl)
    · exact .inl h
    · exact .inr ⟨rfl, rfl⟩

theorem readMarked?_append {inside : Text} (hbracket : ']' ∉ inside) (hfeed : '\n' ∉ inside)
    (after : Text) : readMarked? (inside ++ ']' :: after) = some (inside, after) := by
  induction inside with
  | nil => rfl
  | cons c inside ih =>
    rw [List.mem_cons, not_or] at hbracket hfeed
    rw [List.cons_append, readMarked?, ih hbracket.2 hfeed.2, Option.map_some]
    · exact fun h => hbracket.1 h.symm
    · exact fun h => hfeed.1 h.symm

theorem eq_append_of_readMarked? {text inside after : Text}
    (h : readMarked? text = some (inside, after)) :
    text = inside ++ ']' :: after ∧ ']' ∉ inside ∧ '\n' ∉ inside := by
  fun_induction readMarked? text generalizing inside with
  | case1 => cases h
  | case2 rest =>
    obtain ⟨rfl, rfl⟩ := Prod.mk.inj (Option.some.inj h)
    exact ⟨rfl, nofun, nofun⟩
  | case3 => cases h
  | case4 c rest hbracket hfeed ih =>
    obtain ⟨⟨inside, behind⟩, hmore, heq⟩ := Option.map_eq_some_iff.mp h
    obtain ⟨rfl, rfl⟩ := Prod.mk.inj heq
    obtain ⟨rfl, hbracketMore, hfeedMore⟩ := ih hmore
    refine ⟨rfl, ?_, ?_⟩
    · rw [List.mem_cons, not_or]
      exact ⟨fun h => hbracket h.symm, hbracketMore⟩
    · rw [List.mem_cons, not_or]
      exact ⟨fun h => hfeed h.symm, hfeedMore⟩

theorem readMarker?_eq_some_iff {text inside after : Text} :
    (afterMarker? text).bind readMarked? = some (inside, after) ↔
      StartsMarked text inside after := by
  rw [Option.bind_eq_some_iff]
  constructor
  · rintro ⟨rest, hafter, hread⟩
    obtain ⟨opening, hopening, rfl⟩ := afterMarker?_eq_some_iff.mp hafter
    obtain ⟨rfl, hbracket, hfeed⟩ := eq_append_of_readMarked? hread
    exact ⟨⟨opening, hopening, rfl⟩, hbracket, hfeed⟩
  · rintro ⟨⟨opening, hopening, rfl⟩, hbracket, hfeed⟩
    exact ⟨_, afterMarker?_eq_some_iff.mpr ⟨opening, hopening, rfl⟩,
      readMarked?_append hbracket hfeed after⟩

theorem StartsMarked.length_lt {text inside after : Text} (h : StartsMarked text inside after) :
    inside.length + after.length < text.length := by
  obtain ⟨⟨opening, -, rfl⟩, -, -⟩ := h
  simp only [List.length_append, List.length_cons]
  omega

/-! ## Unwrapping -/

/-- What a title is unwrapped to. -/
inductive Unwraps : Text → Text → Prop where
  | nil : Unwraps [] []
  /-- A marker is replaced by what it wraps. -/
  | marked {text inside after shown : Text} : StartsMarked text inside after →
    Unwraps after shown → Unwraps text (inside ++ shown)
  /-- Where no marker starts, a character stays. -/
  | plain {c : Char} {rest shown : Text} :
    (∀ inside after, ¬ StartsMarked (c :: rest) inside after) →
    Unwraps rest shown → Unwraps (c :: rest) (c :: shown)

/-- As many steps as there are characters are enough. -/
theorem unwraps_unwrapWithin {bound : Nat} {title : Text} (h : title.length ≤ bound) :
    Unwraps title (unwrapWithin bound title) := by
  fun_induction unwrapWithin bound title with
  | case1 text =>
    obtain rfl := List.length_eq_zero_iff.mp (Nat.le_zero.mp h)
    exact .nil
  | case2 => exact .nil
  | case3 bound c rest inside after hmarker ih =>
    have hstarts := readMarker?_eq_some_iff.mp hmarker
    have hlength := hstarts.length_lt
    exact .marked hstarts (ih (by omega))
  | case4 bound c rest hmarker ih =>
    refine .plain (fun inside after hstarts => ?_) (ih (Nat.le_of_succ_le_succ h))
    rw [← readMarker?_eq_some_iff, hmarker] at hstarts
    cases hstarts

theorem unwraps_unwrap (title : Text) : Unwraps title (unwrap title) :=
  unwraps_unwrapWithin (Nat.le_refl _)

theorem StartsMarked.unique {text inside after other behind : Text}
    (h : StartsMarked text inside after) (hother : StartsMarked text other behind) :
    inside = other ∧ after = behind := by
  rw [← readMarker?_eq_some_iff] at h hother
  exact Prod.mk.inj (Option.some.inj (h.symm.trans hother))

theorem not_startsMarked_nil (inside after : Text) : ¬ StartsMarked [] inside after :=
  fun h => Nat.not_lt_zero _ h.length_lt

theorem Unwraps.unique {title shown other : Text} (h : Unwraps title shown)
    (hother : Unwraps title other) : shown = other := by
  induction h generalizing other with
  | nil =>
    cases hother with
    | nil => rfl
    | marked hstarts _ => exact absurd hstarts (not_startsMarked_nil _ _)
  | marked hstarts _ ih =>
    cases hother with
    | nil => exact absurd hstarts (not_startsMarked_nil _ _)
    | marked hstarts' hmore =>
      obtain ⟨rfl, rfl⟩ := hstarts.unique hstarts'
      rw [ih hmore]
    | plain hnone _ => exact absurd hstarts (hnone _ _)
  | plain hnone _ ih =>
    cases hother with
    | marked hstarts _ => exact absurd hstarts (hnone _ _)
    | plain _ hmore => rw [ih hmore]

theorem unwraps_iff {title shown : Text} : Unwraps title shown ↔ unwrap title = shown :=
  ⟨fun h => (unwraps_unwrap title).unique h, fun h => h ▸ unwraps_unwrap title⟩

theorem unwrap_of_startsMarked {text inside after : Text} (h : StartsMarked text inside after) :
    unwrap text = inside ++ unwrap after :=
  unwraps_iff.mp (.marked h (unwraps_unwrap after))

theorem unwrap_cons {c : Char} {rest : Text}
    (h : ∀ inside after, ¬ StartsMarked (c :: rest) inside after) :
    unwrap (c :: rest) = c :: unwrap rest :=
  unwraps_iff.mp (.plain h (unwraps_unwrap rest))

theorem Unwraps.length_le {title shown : Text} (h : Unwraps title shown) :
    shown.length ≤ title.length := by
  induction h with
  | nil => exact Nat.le_refl 0
  | marked hstarts _ ih =>
    have hlength := hstarts.length_lt
    rw [List.length_append]
    omega
  | plain _ _ ih => exact Nat.succ_le_succ ih

/-- A title is unwrapped at its first marker, and behind that it goes on. -/
theorem unwrap_cases (title : Text) :
    (∃ before rest inside after, title = before ++ rest ∧ StartsMarked rest inside after ∧
      (∀ k < before.length, ∀ inside after, ¬ StartsMarked (title.drop k) inside after) ∧
      unwrap title = before ++ inside ++ unwrap after) ∨
    (¬ HasMarker title ∧ unwrap title = title) := by
  induction title with
  | nil =>
    refine .inr ⟨?_, rfl⟩
    rintro ⟨before, rest, inside, after, h, hstarts⟩
    rw [List.nil_eq, List.append_eq_nil_iff] at h
    exact not_startsMarked_nil _ _ (h.2 ▸ hstarts)
  | cons c rest ih =>
    by_cases hhere : ∃ inside after, StartsMarked (c :: rest) inside after
    · obtain ⟨inside, after, hstarts⟩ := hhere
      exact .inl ⟨[], c :: rest, inside, after, rfl, hstarts, nofun, unwrap_of_startsMarked hstarts⟩
    · simp only [not_exists] at hhere
      rw [unwrap_cons hhere]
      rcases ih with ⟨before, marked, inside, after, rfl, hstarts, hfirst, hunwrap⟩ |
        ⟨hnone, hunwrap⟩
      · refine .inl ⟨c :: before, marked, inside, after, rfl, hstarts, ?_, ?_⟩
        · rintro (_ | k) hk
          · exact hhere
          · exact hfirst k (Nat.lt_of_succ_lt_succ hk)
        · rw [hunwrap]
          rfl
      · refine .inr ⟨?_, by rw [hunwrap]⟩
        rintro ⟨before, marked, inside, after, heq, hstarts⟩
        cases before with
        | nil => exact hhere inside after ((show c :: rest = marked from heq) ▸ hstarts)
        | cons d before =>
          exact hnone ⟨before, marked, inside, after, (List.cons.inj heq).2, hstarts⟩

/-- Just the texts without markers stay as they are. -/
theorem unwrap_eq_self_iff {text : Text} : unwrap text = text ↔ ¬ HasMarker text := by
  rcases unwrap_cases text with ⟨before, rest, inside, after, rfl, hstarts, -, hunwrap⟩ |
    ⟨hnone, hunwrap⟩
  · -- each marker that goes makes the text shorter
    refine iff_of_false (fun hself => ?_) fun hnone => hnone ⟨_, _, _, _, rfl, hstarts⟩
    have hlength := congrArg List.length (hunwrap.symm.trans hself)
    have hle := (unwraps_unwrap after).length_le
    have hlt := hstarts.length_lt
    simp only [List.length_append] at hlength
    omega
  · exact iff_of_true hunwrap hnone

/-! ## The pattern -/

section

open Pattern

variable {place : Place}

theorem ends_localizationMarker {opening rest : Text} (hopening : opening ∈ openings)
    (h : place.rest = opening ++ rest) :
    localizationMarker.ends place =
      (all [.group 1 (lazyStar onLine), char ']']).ends (place.advance opening.length) := by
  simp only [openings, List.mem_cons, List.not_mem_nil, or_false] at hopening
  rcases hopening with rfl | rfl
  · simp [localizationMarker, all, word, char, ends, Place.advance, h]
  · simp [localizationMarker, all, word, char, ends, Place.advance, h]

/-- The first closing bracket on the line is preferred. -/
theorem findSome?_ends_onLine {β : Type} (g : Place → β) :
    ((lazyStar onLine).ends place).findSome?
        (fun next => if next.rest.head? = some ']' then some (g next) else none) =
      (readMarked? place.rest).map fun found => g (place.advance found.1.length) := by
  generalize htext : place.rest = text
  fun_induction readMarked? text generalizing place with
  | case1 =>
    rw [onLine, ends_lazyStar_one_nil htext]
    simp [htext]
  | case2 rest =>
    rw [onLine, ends_lazyStar_one_cons htext]
    simp [htext]
  | case3 rest =>
    rw [onLine, ends_lazyStar_one_cons htext]
    simp [htext]
  | case4 c rest hbracket hfeed ih =>
    have hnext := ih (Place.rest_advance_one htext)
    have hc : (decide (c ≠ '\n')) = true := decide_eq_true hfeed
    have hother : ¬ (c :: rest).head? = some ']' := fun h => hbracket (Option.some.inj h)
    have hadvance : ∀ found : Text × Text, g ((place.advance 1).advance found.1.length) =
        g (place.advance (c :: found.1).length) := by
      intro found
      rw [Place.advance_advance, List.length_cons, Nat.add_comm]
    -- no bracket here, so the repetition takes one character more
    rw [onLine, ends_lazyStar_one_cons htext, if_pos hc, List.findSome?_cons, htext,
      if_neg hother, Option.map_map]
    exact hnext.trans (congrArg (Option.map · _) (funext hadvance))

/-- Behind an opening a match reads like a marker. -/
theorem head?_ends_marked :
    ((all [.group 1 (lazyStar onLine), char ']']).ends place).head? =
      (readMarked? place.rest).map fun found =>
        { place.advance (found.1.length + 1) with
          captures := ⟨1, place.position, found.1⟩ :: place.captures } := by
  have hends : (all [.group 1 (lazyStar onLine), char ']']).ends place =
      (((lazyStar onLine).ends place).map (place.capture 1)).flatMap (char ']').ends := by
    show List.flatMap (Pattern.seq (char ']') .empty).ends _ = _
    rw [ends_seq_empty, ends_group]
  -- what a group holds does not matter to the bracket behind it
  have hclosing : (fun next => ((char ']').ends next).head?) ∘ place.capture 1 = fun next =>
      if next.rest.head? = some ']' then some ((place.capture 1 next).advance 1) else none :=
    funext fun next => head?_ends_char (place.capture 1 next) ']'
  rw [hends, List.head?_flatMap, List.findSome?_map, hclosing, findSome?_ends_onLine]
  cases hread : readMarked? place.rest with
  | none => rfl
  | some found =>
    obtain ⟨hrest, -, -⟩ := eq_append_of_readMarked? hread
    rw [Option.map_some, Option.map_some, Place.capture_advance hrest, ← Place.advance_advance]
    rfl

/-- Where the pattern matches, an opening stands. -/
theorem afterMarker?_ne_none_of_mem_ends {next : Place} (h : next ∈ localizationMarker.ends place) :
    afterMarker? place.rest ≠ none := by
  obtain ⟨first, hfront, h⟩ := mem_ends_all_cons.mp h
  obtain ⟨second, hkind, h⟩ := mem_ends_all_cons.mp h
  obtain ⟨third, hblank, -⟩ := mem_ends_all_cons.mp h
  obtain ⟨hfirst, -⟩ := mem_ends_word.mp hfront
  obtain ⟨c, hthird, hc, -⟩ := mem_ends_one.mp hblank
  obtain rfl := of_decide_eq_true hc
  have hopening : ∃ opening ∈ openings, place.rest = opening ++ third.rest := by
    rcases List.mem_append.mp hkind with hkind | hkind
    · obtain ⟨hsecond, -⟩ := mem_ends_word.mp hkind
      exact ⟨_, List.mem_cons_self, by rw [hfirst, hsecond, hthird]; rfl⟩
    · obtain ⟨hsecond, -⟩ := mem_ends_word.mp hkind
      exact ⟨_, List.mem_cons_of_mem _ List.mem_cons_self, by rw [hfirst, hsecond, hthird]; rfl⟩
  rw [afterMarker?_eq_some_iff.mpr hopening]
  exact Option.some_ne_none _

theorem ends_localizationMarker_eq_nil
    (h : ∀ inside after, ¬ StartsMarked place.rest inside after) :
    localizationMarker.ends place = [] := by
  cases hafter : afterMarker? place.rest with
  | none =>
    exact List.eq_nil_iff_forall_not_mem.mpr fun next hnext =>
      afterMarker?_ne_none_of_mem_ends hnext hafter
  | some rest =>
    obtain ⟨opening, hopening, hrest⟩ := afterMarker?_eq_some_iff.mp hafter
    rw [ends_localizationMarker hopening hrest, ← List.head?_eq_none_iff, head?_ends_marked,
      Place.rest_advance hrest, Option.map_eq_none_iff, Option.eq_none_iff_forall_ne_some]
    rintro ⟨inside, after⟩ hread
    exact h inside after (readMarker?_eq_some_iff.mp (by rw [hafter, Option.bind_some, hread]))

/-- A match at a marker holds what this wraps and ends with it. -/
theorem matchAt?_of_startsMarked (place : Place) {inside after : Text}
    (h : StartsMarked place.rest inside after) :
    ∃ found taken, localizationMarker.matchAt? place = some found ∧
      found.captured? 1 = some inside ∧ found.start = place.position ∧
      found.stop = place.position + taken.length ∧ place.rest = taken ++ after := by
  obtain ⟨⟨opening, hopening, hrest⟩, hbracket, hfeed⟩ := h
  have hmatch : localizationMarker.matchAt? place =
      some ⟨place.position, place.position + opening.length + (inside.length + 1),
        ⟨1, place.position + opening.length, inside⟩ :: place.captures⟩ := by
    rw [matchAt?, ends_localizationMarker hopening hrest, head?_ends_marked,
      Place.rest_advance hrest, readMarked?_append hbracket hfeed, Option.map_some, Option.map_some]
    rfl
  refine ⟨_, opening ++ inside ++ [']'], hmatch, rfl, rfl, ?_, ?_⟩
  · show _ + _ + _ = _ + _
    simp [Nat.add_assoc]
  · simp [hrest]

end

/-- Wherever a search finds the pattern, its match is replaced by what its group holds, and the
search goes on behind it. -/
theorem unwrap_eq_search? (title : Text) :
    unwrap title = match Pattern.localizationMarker.search? title with
      | none => title
      | some found => title.take found.start ++ (found.captured? 1).getD [] ++
          unwrap (title.drop found.stop) := by
  rcases unwrap_cases title with ⟨before, rest, inside, after, rfl, hstarts, hfirst, hunwrap⟩ |
    ⟨hnone, hunwrap⟩
  · have hdrop : (before ++ rest).drop before.length = rest := List.drop_left
    obtain ⟨found, taken, hmatch, hcaptured, hstart, hstop, htaken⟩ :=
      matchAt?_of_startsMarked ⟨before.length, rest, []⟩ hstarts
    have hsearch : Pattern.localizationMarker.search? (before ++ rest) = some found := by
      refine Pattern.search?_eq_some_iff.mpr ⟨before.length, ?_, ?_, fun k hk => ?_⟩
      · rw [List.length_append]
        exact Nat.le_add_right _ _
      · rw [hdrop, hmatch]
      · exact ends_localizationMarker_eq_nil (hfirst k hk)
    have hafter : (before ++ rest).drop found.stop = after := by
      rw [hstop, ← List.drop_drop, hdrop, (show rest = taken ++ after from htaken), List.drop_left]
    rw [hsearch, hunwrap]
    show _ = (before ++ rest).take found.start ++ _ ++ _
    rw [hstart, hcaptured, hafter, List.take_left]
    rfl
  · have hsearch : Pattern.localizationMarker.search? title = none := by
      rw [← Option.not_isSome_iff_eq_none, Pattern.isSome_search?_iff]
      rintro ⟨k, -, next, hnext⟩
      rw [ends_localizationMarker_eq_nil] at hnext
      · cases hnext
      · exact fun inside after hstarts =>
          hnone ⟨title.take k, title.drop k, inside, after, (List.take_append_drop k title).symm,
            hstarts⟩
    rw [hsearch, hunwrap]

/-! ## Titles with markers -/

/-- A piece of a title: text, or a marker that wraps text. -/
inductive Piece where
  | plain (text : Text)
  | marker (opening text : Text)

namespace Piece

/-- How a piece is written. -/
def written : Piece → Text
  | plain text => text
  | marker opening text => opening ++ (text ++ [']'])

/-- What a piece shows. -/
def shown : Piece → Text
  | plain text | marker _ text => text

/-- Text opens no marker, and a marker does not end within the text that it wraps. -/
def IsProper : Piece → Prop
  | plain text => '[' ∉ text
  | marker opening text => opening ∈ openings ∧ ']' ∉ text ∧ '\n' ∉ text

end Piece

theorem StartsMarked.head?_eq {text inside after : Text} (h : StartsMarked text inside after) :
    text.head? = some '[' := by
  obtain ⟨⟨opening, hopening, rfl⟩, -, -⟩ := h
  simp only [openings, List.mem_cons, List.not_mem_nil, or_false] at hopening
  rcases hopening with rfl | rfl
  all_goals rfl

theorem not_hasMarker_of_not_mem {text : Text} (h : '[' ∉ text) : ¬ HasMarker text := by
  rintro ⟨before, rest, inside, after, rfl, hstarts⟩
  exact h (List.mem_append_right before (List.mem_of_head? hstarts.head?_eq))

theorem unwraps_append_plain {front text shown : Text} (hfront : '[' ∉ front)
    (h : Unwraps text shown) : Unwraps (front ++ text) (front ++ shown) := by
  induction front with
  | nil => exact h
  | cons c front ih =>
    rw [List.mem_cons, not_or] at hfront
    refine .plain (fun inside after hstarts => ?_) (ih hfront.2)
    exact hfront.1 (Option.some.inj hstarts.head?_eq).symm

/-- A title shows what its pieces show, whatever their number and order. -/
theorem unwrap_written {pieces : List Piece} (h : ∀ piece ∈ pieces, piece.IsProper) :
    unwrap (pieces.flatMap Piece.written) = pieces.flatMap Piece.shown := by
  rw [← unwraps_iff]
  induction pieces with
  | nil => exact .nil
  | cons piece pieces ih =>
    obtain ⟨hpiece, hpieces⟩ := List.forall_mem_cons.mp h
    rw [List.flatMap_cons, List.flatMap_cons]
    cases piece with
    | plain text => exact unwraps_append_plain hpiece (ih hpieces)
    | marker opening text =>
      obtain ⟨hopening, hbracket, hfeed⟩ := hpiece
      have hwritten : opening ++ (text ++ [']']) ++ pieces.flatMap Piece.written =
          opening ++ (text ++ ']' :: pieces.flatMap Piece.written) := by simp
      exact .marked ⟨⟨opening, hopening, hwritten⟩, hbracket, hfeed⟩ (ih hpieces)

end Slug

end MarkdownCheck
