import MarkdownCheck.Anchor
import MarkdownCheck.Proofs.Pattern.Ends
import MarkdownCheck.Proofs.Text.Trim

/-!
# Explicit anchors

The directive at the end of a title is cut off where it is opened. A title may be read as one with a
directive in several ways, since nothing keeps a directive from having braces inside: it goes from
any `{#` on the last line to the last brace. The first such opening counts, in the pattern and in
the cut.

- `Anchor.Opens`: a directive is opened in a text and goes to its end.
- `Anchor.ReadsAs`: a title ends with a directive, in one reading.
- `Anchor.splitExplicit_cases`: the first opening counts.
- `Anchor.splitExplicit_eq_search?`: so it does in the pattern of explicit anchors.
- `Anchor.splitExplicit_eq_iff`: the last directive of a title is cut off if and only if no earlier
  one is opened on its line.
-/

namespace MarkdownCheck

namespace Anchor

/-! ## Openings -/

/-- A directive is opened behind `before` and goes on to the end of the text, on one line. -/
structure Opens (text before inside : Text) : Prop where
  eq : text = before ++ '\x7b' :: '#' :: inside
  not_feed : '\n' ∉ inside

/-- The first opening of a text. -/
structure OpensFirst (text before inside : Text) : Prop extends Opens text before inside where
  length_le : ∀ other more, Opens text other more → before.length ≤ other.length

theorem directive?_of_opens {inside : Text} (h : '\n' ∉ inside) :
    directive? ('\x7b' :: '#' :: inside) = some ([], inside) := by
  rw [directive?]
  simp only [if_neg h, Option.some_or]

theorem directive?_cons {c : Char} {rest : Text} (h : ∀ inside, ¬ Opens (c :: rest) [] inside) :
    directive? (c :: rest) =
      (directive? rest).map fun (before, inside) => (c :: before, inside) := by
  by_cases hopen : ∃ inside, c = '\x7b' ∧ rest = '#' :: inside
  · obtain ⟨inside, rfl, rfl⟩ := hopen
    have hfeed : '\n' ∈ inside := Classical.not_not.mp fun hfeed => h inside ⟨rfl, hfeed⟩
    rw [directive?, if_pos hfeed, Option.none_or]
  · rw [directive?, Option.none_or]
    rintro inside rfl rfl
    exact hopen ⟨inside, rfl, rfl⟩

/-- A directive is looked for from the front. -/
theorem directive?_cases (text : Text) :
    (∃ before inside, OpensFirst text before inside ∧
      directive? text = some (before, inside)) ∨
    ((∀ before inside, ¬ Opens text before inside) ∧ directive? text = none) := by
  induction text with
  | nil => exact .inr ⟨fun before inside h => by simpa using h.eq, rfl⟩
  | cons c rest ih =>
    by_cases hhere : ∃ inside, Opens (c :: rest) [] inside
    · obtain ⟨inside, hopens⟩ := hhere
      refine .inl ⟨[], inside, ⟨hopens, fun _ _ _ => Nat.zero_le _⟩, ?_⟩
      rw [hopens.eq]
      exact directive?_of_opens hopens.not_feed
    · rw [not_exists] at hhere
      rw [directive?_cons hhere]
      -- every opening is one further on
      have hlater : ∀ before inside, Opens (c :: rest) before inside →
          ∃ front, before = c :: front ∧ Opens rest front inside := by
        rintro before inside hopens
        cases before with
        | nil => exact absurd hopens (hhere inside)
        | cons d front =>
          obtain ⟨rfl, hrest⟩ := List.cons.inj hopens.eq
          exact ⟨front, rfl, hrest, hopens.not_feed⟩
      rcases ih with ⟨before, inside, hfirst, hfound⟩ | ⟨hnone, hfound⟩
      · refine .inl ⟨c :: before, inside, ⟨⟨?_, hfirst.not_feed⟩, ?_⟩, ?_⟩
        · rw [List.cons_append, ← hfirst.eq]
        · intro other more hopens
          obtain ⟨front, rfl, hfront⟩ := hlater other more hopens
          exact Nat.succ_le_succ (hfirst.length_le front more hfront)
        · rw [hfound, Option.map_some]
      · refine .inr ⟨fun before inside hopens => ?_, ?_⟩
        · obtain ⟨front, -, hfront⟩ := hlater before inside hopens
          exact hnone front inside hfront
        · rw [hfound, Option.map_none]

/-! ## Readings -/

/-- A title is `before`, a directive on one line with this anchor, and blanks. -/
def ReadsAs (title before anchor : Text) : Prop :=
  ∃ shown blanks : Text, title = shown ++ '\x7d' :: blanks ∧ (∀ c ∈ blanks, Text.isBlank c) ∧
    Opens shown before anchor

/-- Where a brace and blanks end a title, its readings are the openings in front of the brace. -/
theorem readsAs_iff {shown blanks before anchor : Text} (hblanks : ∀ c ∈ blanks, Text.isBlank c) :
    ReadsAs (shown ++ '\x7d' :: blanks) before anchor ↔ Opens shown before anchor := by
  have hbrace : ¬ Text.isBlank '\x7d' := by decide
  constructor
  · rintro ⟨other, more, heq, hmore, hopens⟩
    have htrim := congrArg Text.trimRight heq
    rw [Text.trimRight_append hbrace hblanks, Text.trimRight_append hbrace hmore,
      List.append_cancel_right_eq] at htrim
    rwa [htrim]
  · intro hopens
    exact ⟨shown, blanks, rfl, hblanks, hopens⟩

/-- A directive is cut off at the first opening, and a title that does not read as one with a
directive is left alone. -/
theorem splitExplicit_cases (title : Text) :
    (∃ before anchor, ReadsAs title before anchor ∧
      (∀ other more, ReadsAs title other more → before.length ≤ other.length) ∧
      splitExplicit title = (Text.trimRight before, anchor)) ∨
    ((∀ before anchor, ¬ ReadsAs title before anchor) ∧ splitExplicit title = (title, [])) := by
  obtain ⟨blanks, hblanks, htitle⟩ := Text.exists_eq_trimRight_append title
  unfold splitExplicit
  by_cases hlast : (Text.trimRight title).getLast? = some '\x7d'
  · obtain ⟨shown, hshown⟩ := List.getLast?_eq_some_iff.mp hlast
    have hreads : ∀ before anchor, ReadsAs title before anchor ↔ Opens shown before anchor := by
      intro before anchor
      rw [htitle, hshown, List.append_assoc, List.singleton_append]
      exact readsAs_iff hblanks
    simp only [if_pos hlast]
    simp only [hshown, List.dropLast_concat, hreads]
    rcases directive?_cases shown with ⟨before, anchor, hfirst, hfound⟩ | ⟨hnone, hfound⟩
    · exact .inl ⟨before, anchor, hfirst.toOpens, hfirst.length_le, by rw [hfound]⟩
    · exact .inr ⟨hnone, by rw [hfound]⟩
  · refine .inr ⟨?_, if_neg hlast⟩
    rintro before anchor ⟨shown, more, rfl, hmore, -⟩
    have hbrace : ¬ Text.isBlank '\x7d' := by decide
    rw [Text.trimRight_append hbrace hmore] at hlast
    exact hlast List.getLast?_concat

/-! ## The pattern -/

theorem ReadsAs.append_left {rest before anchor : Text} (h : ReadsAs rest before anchor)
    (front : Text) : ReadsAs (front ++ rest) (front ++ before) anchor := by
  obtain ⟨shown, blanks, rfl, hblanks, hopens⟩ := h
  refine ⟨front ++ shown, blanks, (List.append_assoc front shown _).symm, hblanks, ?_,
    hopens.not_feed⟩
  rw [hopens.eq, List.append_assoc]

/-- The directive of a reading comes behind the text in front of it. -/
theorem ReadsAs.exists_eq_append {title before anchor : Text} (h : ReadsAs title before anchor) :
    ∃ rest, title = before ++ rest ∧ ReadsAs rest [] anchor := by
  obtain ⟨shown, blanks, rfl, hblanks, hopens⟩ := h
  refine ⟨'\x7b' :: '#' :: (anchor ++ '\x7d' :: blanks), ?_, '\x7b' :: '#' :: anchor, blanks, rfl,
    hblanks, rfl, hopens.not_feed⟩
  simp [hopens.eq]

section

open Pattern

theorem all_isBlank_of_mem_ends_atEnd {place next : Place} (h : next ∈ Pattern.atEnd.ends place) :
    next = place ∧ ∀ c ∈ place.rest, Text.isBlank c := by
  rw [ends] at h
  split at h
  · next hend =>
    refine ⟨List.mem_singleton.mp h, ?_⟩
    rw [Bool.or_eq_true, List.isEmpty_iff, decide_eq_true_eq] at hend
    rcases hend with hnil | hfeed
    · rw [hnil]
      exact List.forall_mem_nil _
    · rw [hfeed]
      exact List.forall_mem_singleton.mpr rfl
  · cases h

/-- Where the pattern matches, a directive stands behind blanks and goes to the end. -/
theorem exists_of_mem_ends_explicitAnchor {k : Nat} {text : Text} {next : Place}
    (h : next ∈ explicitAnchor.ends ⟨k, text, []⟩) :
    ∃ blanks rest anchor, (∀ c ∈ blanks, Text.isBlank c) ∧ text = blanks ++ rest ∧
      ReadsAs rest [] anchor ∧
      (next.captures.find? (·.group = 1)).map (·.text) = some anchor := by
  -- the places between the parts, from the one behind the blanks to the end
  obtain ⟨first, hblanks, h⟩ := mem_ends_all_cons.mp h
  obtain ⟨second, hopening, h⟩ := mem_ends_all_cons.mp h
  obtain ⟨third, hanchor, h⟩ := mem_ends_all_cons.mp h
  obtain ⟨fourth, hbrace, h⟩ := mem_ends_all_cons.mp h
  obtain ⟨fifth, hbehind, h⟩ := mem_ends_all_cons.mp h
  obtain ⟨last, hend, h⟩ := mem_ends_all_cons.mp h
  obtain rfl := List.mem_singleton.mp h
  obtain ⟨blanks, htext, hblank, -⟩ := mem_ends_many_one.mp hblanks
  obtain ⟨hfirst, -⟩ := mem_ends_word.mp hopening
  obtain ⟨anchor, hsecond, hline, hcapture⟩ := mem_ends_group_many_one.mp hanchor
  obtain ⟨c, hthird, hc, hfourth⟩ := mem_ends_one.mp hbrace
  obtain ⟨more, hmore, hmoreBlank, hfifth⟩ := mem_ends_many_one.mp hbehind
  obtain ⟨rfl, hlast⟩ := all_isBlank_of_mem_ends_atEnd hend
  obtain rfl := of_decide_eq_true hc
  refine ⟨blanks, first.rest, anchor, hblank, htext,
    ⟨'\x7b' :: '#' :: anchor, more ++ next.rest, ?_, ?_, rfl, ?_⟩, ?_⟩
  · rw [hfirst, hsecond, hthird, hmore]
    rfl
  · exact List.forall_mem_append.mpr ⟨hmoreBlank, hlast⟩
  · exact fun hfeed => of_decide_eq_true (hline _ hfeed) rfl
  · rw [hfifth, hfourth, hcapture]
    rfl

/-- It matches wherever there is such a directive. -/
theorem exists_mem_ends_explicitAnchor {blanks rest anchor : Text}
    (hblanks : ∀ c ∈ blanks, Text.isBlank c) (h : ReadsAs rest [] anchor) (k : Nat) :
    ∃ next, next ∈ explicitAnchor.ends ⟨k, blanks ++ rest, []⟩ := by
  obtain ⟨shown, behind, rfl, hbehind, rfl, hline⟩ := h
  refine exists_mem_ends_all_cons rfl (mem_language_star_one.mpr hblanks) rfl fun first hfirst => ?_
  refine exists_mem_ends_all_cons rfl (mem_language_word.mpr rfl) hfirst fun second hsecond => ?_
  have hanchor : anchor ∈ (Pattern.group 1 (lazyStar onLine)).language :=
    mem_language_star_one.mpr fun c hc => decide_eq_true fun hfeed => hline (hfeed ▸ hc)
  refine exists_mem_ends_all_cons rfl hanchor hsecond fun third hthird => ?_
  have hbrace : ['\x7d'] ∈ (char '\x7d').language := ⟨'\x7d', decide_eq_true rfl, rfl⟩
  refine exists_mem_ends_all_cons rfl hbrace hthird fun fourth hfourth => ?_
  refine exists_mem_ends_all_cons rfl (mem_language_star_one.mpr hbehind)
    (hfourth.trans (List.append_nil behind).symm) fun fifth hfifth => ?_
  refine ⟨fifth, mem_ends_all_cons.mpr ⟨fifth, ?_, List.mem_singleton_self fifth⟩⟩
  rw [ends, hfifth]
  exact List.mem_singleton_self fifth

/-- A directive behind blanks is read in one way only. -/
theorem ReadsAs.anchor_eq {blanks rest anchor more other last : Text}
    (hblanks : ∀ c ∈ blanks, Text.isBlank c) (hmore : ∀ c ∈ more, Text.isBlank c)
    (heq : blanks ++ rest = more ++ other) (h : ReadsAs rest [] anchor)
    (hother : ReadsAs other [] last) : anchor = last := by
  have hdrop : ∀ {blanks rest anchor : Text}, (∀ c ∈ blanks, Text.isBlank c) →
      ReadsAs rest [] anchor → Text.trimRight ((blanks ++ rest).dropWhile Text.isBlank) =
        '\x7b' :: '#' :: anchor ++ ['\x7d'] := by
    rintro blanks _ anchor hblanks ⟨_, behind, rfl, hbehind, rfl, -⟩
    rw [List.dropWhile_append_of_pos hblanks]
    exact Text.trimRight_append (show ¬ Text.isBlank '\x7d' by decide) hbehind
      ('\x7b' :: '#' :: anchor)
  have hsame := (hdrop hblanks h).symm.trans (heq ▸ hdrop hmore hother)
  exact (List.cons.inj (List.cons.inj (List.append_cancel_right hsame)).2).2

/-- A match within a title is a reading of the title. -/
theorem exists_readsAs_of_mem_ends {title : Text} {k : Nat} {next : Place}
    (h : next ∈ explicitAnchor.ends ⟨k, title.drop k, []⟩) :
    ∃ blanks rest anchor, (∀ c ∈ blanks, Text.isBlank c) ∧
      title = title.take k ++ blanks ++ rest ∧ ReadsAs title (title.take k ++ blanks) anchor := by
  obtain ⟨blanks, rest, anchor, hblanks, heq, hreads, -⟩ := exists_of_mem_ends_explicitAnchor h
  have hwhole : title = title.take k ++ blanks ++ rest := by
    rw [List.append_assoc, ← heq, List.take_append_drop]
  have htitle := hreads.append_left (title.take k ++ blanks)
  rw [← hwhole, List.append_nil] at htitle
  exact ⟨blanks, rest, anchor, hblanks, hwhole, htitle⟩

/-- In front of the first reading and the blanks before it nothing matches. -/
theorem ends_explicitAnchor_eq_nil {title before : Text} {k : Nat} (hbefore : before <+: title)
    (hfirst : ∀ other more, ReadsAs title other more → before.length ≤ other.length)
    (hk : k < (Text.trimRight before).length) :
    explicitAnchor.ends ⟨k, title.drop k, []⟩ = [] := by
  refine List.eq_nil_iff_forall_not_mem.mpr fun next hnext => ?_
  obtain ⟨blanks, rest, anchor, hblanks, hwhole, hreads⟩ := exists_readsAs_of_mem_ends hnext
  have hprefix : before <+: title.take k ++ blanks :=
    List.prefix_of_prefix_length_le hbefore ⟨rest, hwhole.symm⟩ (hfirst _ _ hreads)
  have hle := Text.length_trimRight_le_of_prefix hblanks hprefix
  exact absurd (Nat.le_trans hle (List.length_take_le _ _)) (Nat.not_le_of_lt hk)

/-- The cut is where the first match of the pattern starts, and the anchor what its group holds. -/
theorem splitExplicit_eq_search? (title : Text) :
    splitExplicit title = match explicitAnchor.search? title with
      | none => (title, [])
      | some found => (title.take found.start, (found.captured? 1).getD []) := by
  rcases splitExplicit_cases title with ⟨before, anchor, hreads, hfirst, hsplit⟩ | ⟨hnone, hsplit⟩
  · obtain ⟨rest, rfl, hrest⟩ := hreads.exists_eq_append
    obtain ⟨blanks, hblanks, hbefore⟩ := Text.exists_eq_trimRight_append before
    have htitle : before ++ rest = Text.trimRight before ++ (blanks ++ rest) := by
      rw [← List.append_assoc, ← hbefore]
    have hdrop : (before ++ rest).drop (Text.trimRight before).length = blanks ++ rest := by
      rw [htitle, List.drop_left]
    obtain ⟨found, hfound⟩ := Option.isSome_iff_exists.mp (isSome_matchAt?_iff.mpr
      (exists_mem_ends_explicitAnchor hblanks hrest (Text.trimRight before).length))
    have hsearch : explicitAnchor.search? (before ++ rest) = some found := by
      refine search?_eq_some_iff.mpr ⟨(Text.trimRight before).length, ?_, ?_, fun k hk => ?_⟩
      · rw [htitle, List.length_append]
        exact Nat.le_add_right _ _
      · rw [hdrop, hfound]
      · exact ends_explicitAnchor_eq_nil ⟨rest, rfl⟩ hfirst hk
    obtain ⟨next, hnext, rfl⟩ := Option.map_eq_some_iff.mp hfound
    obtain ⟨more, other, last, hmore, heq, hother, hcapture⟩ :=
      exists_of_mem_ends_explicitAnchor (List.mem_of_head? hnext)
    have hlast : anchor = last := ReadsAs.anchor_eq hblanks hmore heq hrest hother
    rw [hsearch, hsplit, hlast]
    show _ = ((before ++ rest).take (Text.trimRight before).length, _)
    rw [Match.captured?, hcapture, htitle, List.take_left]
    rfl
  · have hsearch : explicitAnchor.search? title = none := by
      rw [← Option.not_isSome_iff_eq_none, isSome_search?_iff]
      rintro ⟨k, -, next, hnext⟩
      obtain ⟨blanks, rest, anchor, -, -, hreads⟩ := exists_readsAs_of_mem_ends hnext
      exact hnone _ _ hreads
    rw [hsearch, hsplit]

end

/-! ## The last directive -/

section

variable {text id blanks : Text}

theorem Opens.append {before inside : Text} (h : Opens text before inside) (hid : '\n' ∉ id) :
    Opens (text ++ '\x7b' :: '#' :: id) before (inside ++ '\x7b' :: '#' :: id) := by
  refine ⟨?_, ?_⟩
  · rw [h.eq, List.append_assoc]
    rfl
  · simp [h.not_feed, hid]

/-- Where an opening stands in a text that ends with a directive. -/
theorem Opens.of_append {before inside : Text} (hid : '\x7b' ∉ id)
    (h : Opens (text ++ '\x7b' :: '#' :: id) before inside) :
    (before = text ∧ inside = id) ∨
      ∃ more, Opens text before more ∧ inside = more ++ '\x7b' :: '#' :: id := by
  rcases List.append_eq_append_iff.mp h.eq with ⟨more, rfl, hmore⟩ | ⟨more, rfl, hmore⟩
  · rcases more with _ | ⟨c, _ | ⟨d, more⟩⟩
    · obtain rfl : id = inside := by simpa using hmore
      exact .inl ⟨List.append_nil text, rfl⟩
    · simp at hmore
    · -- it would be opened inside the last one
      have hinside : id = more ++ '\x7b' :: '#' :: inside := by
        simpa using (List.cons.inj (List.cons.inj hmore).2).2
      rw [hinside] at hid
      exact absurd (List.mem_append_right more List.mem_cons_self) hid
  · rcases more with _ | ⟨c, _ | ⟨d, more⟩⟩
    · obtain rfl : inside = id := by simpa using hmore
      exact .inl ⟨(List.append_nil before).symm, rfl⟩
    · simp at hmore
    · obtain ⟨rfl, hrest⟩ := List.cons.inj hmore
      obtain ⟨rfl, hinside⟩ := List.cons.inj hrest
      refine .inr ⟨more, ⟨rfl, fun hfeed => h.not_feed ?_⟩, hinside⟩
      rw [hinside]
      exact List.mem_append_left _ hfeed

theorem OpensFirst.unique {before inside other more : Text} (h : OpensFirst text before inside)
    (hother : OpensFirst text other more) : before = other ∧ inside = more := by
  have hlength : before.length = other.length :=
    Nat.le_antisymm (h.length_le _ _ hother.toOpens) (hother.length_le _ _ h.toOpens)
  obtain ⟨hbefore, hinside⟩ := List.append_inj (h.eq.symm.trans hother.eq) hlength
  exact ⟨hbefore, (List.cons.inj (List.cons.inj hinside).2).2⟩

/-- What comes before the last directive decides about the cut. -/
theorem splitExplicit_append_cases (hid : ∀ c ∈ id, c ≠ '\x7b' ∧ c ≠ '\n')
    (hblanks : ∀ c ∈ blanks, Text.isBlank c) :
    ((∀ before inside, ¬ Opens text before inside) ∧
      splitExplicit (text ++ '\x7b' :: '#' :: (id ++ '\x7d' :: blanks)) =
        (Text.trimRight text, id)) ∨
    ∃ before inside, OpensFirst text before inside ∧
      splitExplicit (text ++ '\x7b' :: '#' :: (id ++ '\x7d' :: blanks)) =
        (Text.trimRight before, inside ++ '\x7b' :: '#' :: id) := by
  have hbrace : '\x7b' ∉ id := fun hmem => (hid _ hmem).1 rfl
  have hfeed : '\n' ∉ id := fun hmem => (hid _ hmem).2 rfl
  have htitle : text ++ '\x7b' :: '#' :: (id ++ '\x7d' :: blanks) =
      text ++ '\x7b' :: '#' :: id ++ '\x7d' :: blanks := by simp
  have hreads : ∀ before anchor,
      ReadsAs (text ++ '\x7b' :: '#' :: (id ++ '\x7d' :: blanks)) before anchor ↔
        Opens (text ++ '\x7b' :: '#' :: id) before anchor := by
    intro before anchor
    rw [htitle]
    exact readsAs_iff hblanks
  rcases splitExplicit_cases (text ++ '\x7b' :: '#' :: (id ++ '\x7d' :: blanks)) with
    ⟨before, anchor, hfirst, hle, hsplit⟩ | ⟨hnone, -⟩
  · simp only [hreads] at hfirst hle
    rcases hfirst.of_append hbrace with ⟨rfl, rfl⟩ | ⟨inside, hopens, rfl⟩
    · -- an opening in the text would come before the last one
      refine .inl ⟨fun other more hopens => ?_, hsplit⟩
      have hlength := hle _ _ (hopens.append hfeed)
      rw [hopens.eq, List.length_append, List.length_cons] at hlength
      omega
    · exact .inr ⟨before, inside,
        ⟨hopens, fun other more hother => hle _ _ (hother.append hfeed)⟩, hsplit⟩
  · exact absurd ((hreads text id).mpr ⟨rfl, hfeed⟩) (hnone text id)

end

/-- A title is cut as by the pattern. A directive at its end is cut off, and nothing else, if and
only if no other is opened before it on its line; the first one that is opened takes everything up
to the last brace. A title is left alone if and only if it does not end with a directive. -/
theorem splitExplicit_eq_iff (title : Text) :
    (splitExplicit title = match Pattern.explicitAnchor.search? title with
      | none => (title, [])
      | some found => (title.take found.start, (found.captured? 1).getD [])) ∧
    (∀ text id blanks : Text, title = text ++ '\x7b' :: '#' :: (id ++ '\x7d' :: blanks) →
      (∀ c ∈ id, c ≠ '\x7b' ∧ c ≠ '\x7d' ∧ c ≠ '\n') → (∀ c ∈ blanks, Text.isBlank c) →
      (splitExplicit title = (Text.trimRight text, id) ↔
        ∀ before inside, ¬ Opens text before inside) ∧
      ∀ before inside, OpensFirst text before inside →
        splitExplicit title = (Text.trimRight before, inside ++ '\x7b' :: '#' :: id)) ∧
    (splitExplicit title = (title, []) ↔ ∀ before anchor, ¬ ReadsAs title before anchor) := by
  refine ⟨splitExplicit_eq_search? title, ?_, ?_⟩
  · rintro text id blanks rfl hid hblanks
    rcases splitExplicit_append_cases (fun c hc => ⟨(hid c hc).1, (hid c hc).2.2⟩) hblanks with
      ⟨hnone, hsplit⟩ | ⟨before, inside, hfirst, hsplit⟩
    · exact ⟨iff_of_true hsplit hnone,
        fun before inside hfirst => absurd hfirst.toOpens (hnone before inside)⟩
    · -- the anchor is too long, as the last directive is only a part of it
      refine ⟨iff_of_false (fun hid => ?_) fun hnone => hnone before inside hfirst.toOpens,
        fun other more hother => ?_⟩
      · have hlength := congrArg (fun cut : Text × Text => cut.2.length) (hsplit.symm.trans hid)
        simp only [List.length_append, List.length_cons] at hlength
        omega
      · obtain ⟨rfl, rfl⟩ := hother.unique hfirst
        exact hsplit
  · rcases splitExplicit_cases title with ⟨before, anchor, hreads, -, hsplit⟩ | ⟨hnone, hsplit⟩
    · -- what is cut off takes up at least the brace
      refine iff_of_false (fun hkept => ?_) fun hnone => hnone before anchor hreads
      have hlength := congrArg (fun cut : Text × Text => cut.1.length) (hsplit.symm.trans hkept)
      have hle := Text.length_trimRight_le before
      obtain ⟨shown, blanks, rfl, -, hopens⟩ := hreads
      simp only [hopens.eq, List.length_append, List.length_cons] at hlength
      omega
    · exact iff_of_true hsplit hnone

/-- A directive on an earlier line and closing braces do not matter. -/
theorem splitExplicit_eq_iff_line :
    splitExplicit "\x7b#b\x7d\nc\x7d \x7b#id\x7d\n".toList =
      ("\x7b#b\x7d\nc\x7d".toList, "id".toList) := by
  have h := (splitExplicit_eq_iff "\x7b#b\x7d\nc\x7d \x7b#id\x7d\n".toList).2.1
    "\x7b#b\x7d\nc\x7d ".toList ['i', 'd'] ['\n'] rfl (by simp)
    (List.forall_mem_singleton.mpr rfl)
  refine h.1.mpr ?_
  rcases directive?_cases "\x7b#b\x7d\nc\x7d ".toList with ⟨before, inside, -, hfound⟩ | ⟨hnone, -⟩
  · have hnone : directive? "\x7b#b\x7d\nc\x7d ".toList = none := by decide
    exact absurd (hnone.symm.trans hfound) (Option.some_ne_none _).symm
  · exact hnone

/-- An earlier directive on the line is taken together with the last one. -/
theorem splitExplicit_ne_last :
    ¬ ∀ text id blanks : Text, id ≠ [] → (∀ c ∈ id, c ≠ '\x7b' ∧ c ≠ '\x7d' ∧ c ≠ '\n') →
      (∀ c ∈ blanks, Text.isBlank c) →
      splitExplicit (text ++ '\x7b' :: '#' :: (id ++ '\x7d' :: blanks)) =
        (Text.trimRight text, id) := by
  intro h
  have hsplit := h "a \x7b#b\x7d c ".toList ['i', 'd'] [] (by simp) (by simp) nofun
  exact absurd hsplit (by decide)

end Anchor

end MarkdownCheck
