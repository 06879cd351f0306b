import Mathlib.Data.Fin.SuccPred
import Mathlib.Data.List.Flatten
import Mathlib.Data.List.Sort
import MarkdownCheck.Proofs.Anchor.Numbering
import MarkdownCheck.Proofs.Sort

/-!
# Reports on a document that grows

Tokens that come behind a document add headings and collisions, and a heading that was alone with
its key may get company. What has been reported stays as it is all the same: a heading keeps its
claim, and a report names the key of its heading in whichever way the collision is found.

- `isPrefix_headings`, `isPrefix_headingClaims`: new headings and claims come behind the old ones.
- `Collide.append`: headings that collide go on to collide.
- `collisions_sublist`: the new collisions come in between the old ones, group by group.
- `AnchorCollision.check_append_sublist`: the reports of a document are among those of a longer one,
  in the same order.
-/

namespace MarkdownCheck

/-! ## Headings and claims in front -/

/-- The headings that are read from the front of a stream do not depend on what comes behind. -/
theorem isPrefix_headingsFrom (opening : Option Token) (tokens added : List Token) :
    headingsFrom opening tokens <+: headingsFrom opening (tokens ++ added) := by
  fun_induction headingsFrom opening tokens with
  | case1 => exact List.nil_prefix
  | case2 opening token rest hopen ih =>
    rw [List.cons_append]
    simp only [headingsFrom, if_pos hopen]
    exact ih
  | case3 opening token rest hopen hclose ih =>
    rw [List.cons_append]
    simp only [headingsFrom, if_neg hopen, if_pos hclose]
    exact ih
  | case4 token rest hopen hclose opening hinline ih =>
    rw [List.cons_append]
    simp only [headingsFrom, if_neg hopen, if_neg hclose, if_pos hinline]
    exact (List.prefix_cons_inj _).mpr ih
  | case5 token rest hopen hclose opening hinline ih =>
    rw [List.cons_append]
    simp only [headingsFrom, if_neg hopen, if_neg hclose, if_neg hinline]
    exact ih
  | case6 token rest hopen hclose ih =>
    rw [List.cons_append]
    simp only [headingsFrom, if_neg hopen, if_neg hclose]
    exact ih

theorem isPrefix_headings (tokens added : List Token) :
    headings tokens <+: headings (tokens ++ added) :=
  isPrefix_headingsFrom none tokens added

/-- What headings claim does not depend on the headings behind them. -/
theorem isPrefix_headingClaims {found more : List (Token × Text)} (h : found <+: more) :
    headingClaims found <+: headingClaims more := by
  rw [List.prefix_iff_eq_take.mp h, ← take_headingClaims]
  exact List.take_prefix _ _

/-! ## Collisions among more headings -/

section Longer

variable (claims later : List HeadingClaim)

/-- The place of a heading when the claims `later` come behind. -/
def placeIn : Fin claims.length → Fin (claims ++ later).length :=
  Fin.castLE (by rw [List.length_append]; omega)

theorem placeIn_injective : (placeIn claims later).Injective :=
  Fin.castLE_injective _

theorem get_placeIn (i : Fin claims.length) :
    (claims ++ later).get (placeIn claims later i) = claims.get i :=
  List.getElem_append_left i.isLt

variable {claims}

/-- Headings that collide go on to collide. -/
theorem Collide.append {i j : Fin claims.length} (h : Collide claims i j) :
    Collide (claims ++ later) (placeIn claims later i) (placeIn claims later j) := by
  refine ⟨fun heq => h.1 (placeIn_injective claims later heq), ?_⟩
  show ((claims ++ later).get (placeIn claims later i)).key =
      ((claims ++ later).get (placeIn claims later j)).key ∨
    ((claims ++ later).get (placeIn claims later i)).anchor =
      ((claims ++ later).get (placeIn claims later j)).anchor
  rw [get_placeIn, get_placeIn]
  exact h.2

/-- The headings that share a text come in the same order, new ones at the end or not at all. -/
theorem sharing_sublist (text : HeadingClaim → Text) (wanted : Text) :
    ((sharing claims text wanted).map (placeIn claims later)).Sublist
      (sharing (claims ++ later) text wanted) := by
  have hordered : ((sharing claims text wanted).map (placeIn claims later)).Pairwise (· < ·) :=
    List.pairwise_map.mpr pairwise_sharing
  have hsubset : (sharing claims text wanted).map (placeIn claims later) ⊆
      sharing (claims ++ later) text wanted := by
    intro place hplace
    obtain ⟨i, hi, rfl⟩ := List.mem_map.mp hplace
    rw [mem_sharing]
    show text ((claims ++ later).get (placeIn claims later i)) = wanted
    rw [get_placeIn]
    exact mem_sharing.mp hi
  exact List.sublist_of_subperm_of_pairwise (List.subperm_of_subset hordered.nodup hsubset)
    hordered pairwise_sharing

theorem isPrefix_keysOf : keysOf claims <+: keysOf (claims ++ later) := by
  rw [keysOf, keysOf, List.map_append, List.eraseDups_append]
  exact List.prefix_append _ _

theorem byKey_sublist :
    ((byKey claims).map (placeIn claims later)).Sublist (byKey (claims ++ later)) := by
  rw [byKey, List.map_flatMap]
  -- each group grows, and then new groups come
  have hgroups := List.Sublist.flatMap_right (keysOf claims) fun key _ =>
    @sharing_sublist claims later (·.key) key
  exact hgroups.trans ((isPrefix_keysOf later).sublist.flatMap _)

/-- The new collisions come in between the old ones. -/
theorem collisions_sublist :
    ((collisions claims).map (placeIn claims later)).Sublist
      (collisions (claims ++ later)) := by
  have hplaced : ((collisions claims).map (placeIn claims later)).Sublist
      (byKey (claims ++ later)) :=
    (List.filter_sublist.map _).trans (byKey_sublist later)
  have hcollide : ∀ place ∈ (collisions claims).map (placeIn claims later),
      decide (∃ j, Collide (claims ++ later) place j) = true := by
    intro place hplace
    obtain ⟨i, hi, rfl⟩ := List.mem_map.mp hplace
    obtain ⟨j, hj⟩ := mem_collisions.mp hi
    exact decide_eq_true ⟨_, hj.append later⟩
  have hfilter := hplaced.filter fun i => ∃ j, Collide (claims ++ later) i j
  rwa [List.filter_eq_self.mpr hcollide] at hfilter

end Longer

namespace AnchorCollision

/-! ## Reports and their order -/

/-- The reports on the headings in front are among those on all. -/
theorem reports_sublist {claims later : List HeadingClaim} (hfront : Numbered claims)
    (hall : Numbered (claims ++ later)) :
    (reports (groupClaims claims)).Sublist (reports (groupClaims (claims ++ later))) := by
  have hmap := (@collisions_sublist claims later).map ((claims ++ later)[·].report)
  rw [List.map_map] at hmap
  have hreport : ((claims ++ later)[·].report) ∘ placeIn claims later = (claims[·].report) := by
    funext i
    exact congrArg HeadingClaim.report (get_placeIn claims later i)
  rwa [reports_groupClaims hfront, reports_groupClaims hall, ← hreport]

theorem mergeSort_lineOf_sublist {part whole : List (Occurrence × Text)}
    (h : part.Sublist whole) :
    (part.mergeSort fun a b => lineOf a ≤ lineOf b).Sublist
      (whole.mergeSort fun a b => lineOf a ≤ lineOf b) := by
  refine mergeSort_sublist ?_ ?_ h
  · intro a b c hab hbc
    exact decide_eq_true (Int.le_trans (of_decide_eq_true hab) (of_decide_eq_true hbc))
  · intro a b
    rw [Bool.or_eq_true, decide_eq_true_eq, decide_eq_true_eq]
    exact Int.le_total _ _

/-! ## Findings in a longer document -/

/-- Where the tokens that open headings have lines, a check sorts all reports. -/
theorem check_eq_map_mergeSort {document : Document}
    (hlines : ∀ token ∈ document.tokens, token.kind = "heading_open" → token.lineNumber.isSome) :
    check document = .ok (((reports (anchorGroups document.tokens)).mergeSort fun a b =>
      lineOf a ≤ lineOf b).map finding) := by
  have hsome : ∀ report ∈ reports (anchorGroups document.tokens),
      report.1.lineNumber.isSome := by
    intro report hreport
    rw [reports_anchorGroups] at hreport
    obtain ⟨i, -, rfl⟩ := List.mem_map.mp hreport
    obtain ⟨heading, hheading, hline⟩ := exists_of_mem_headingClaims (List.getElem_mem i.isLt)
    obtain ⟨htoken, hkind⟩ := mem_of_mem_headings hheading
    have hsome := hlines heading.1 htoken hkind
    rw [hline] at hsome
    exact hsome
  rw [check, sorted_eq_ok hsome]

/-- **Reports stay when a document grows.** Where the tokens that open headings have lines, a check
succeeds with and without the tokens that come behind, and what it has found without them is found
again, each finding as it was and all of them in the same order. -/
theorem check_append_sublist (document longer : Document) (added : List Token)
    (hgrown : longer.tokens = document.tokens ++ added)
    (hlines : ∀ token ∈ longer.tokens, token.kind = "heading_open" → token.lineNumber.isSome) :
    ∃ before after, check document = .ok before ∧ check longer = .ok after ∧
      before.Sublist after := by
  have hfront : ∀ token ∈ document.tokens, token.kind = "heading_open" →
      token.lineNumber.isSome := by
    intro token htoken
    exact hlines token (hgrown ▸ List.mem_append_left added htoken)
  refine ⟨_, _, check_eq_map_mergeSort hfront, check_eq_map_mergeSort hlines, ?_⟩
  refine (mergeSort_lineOf_sublist ?_).map finding
  obtain ⟨later, hlater⟩ := isPrefix_headingClaims (isPrefix_headings document.tokens added)
  have hall : Numbered (headingClaims (headings document.tokens) ++ later) := by
    rw [hlater]
    exact numbered_headingClaims _
  rw [anchorGroups_eq_groupClaims, anchorGroups_eq_groupClaims, hgrown, ← hlater]
  exact reports_sublist (numbered_headingClaims _) hall

/-- The explicit anchor `a-1` is reported because the second heading `A` gets it. The heading behind
joins its group and comes in between. -/
theorem check_append_sublist_numbered :
    let heading (line : Int) (title : Text) : List Token := [
      { kind := "heading_open", lineNumber := some line },
      { kind := "inline", content := title }, { kind := "heading_close" }]
    let added := heading 2 "C \x7b#a-1\x7d".toList
    let document : Document :=
      { tokens := heading 1 ['A'] ++ heading 2 "B \x7b#a-1\x7d".toList ++ heading 3 ['A'] }
    let longer : Document := { tokens := document.tokens ++ added }
    longer.tokens = document.tokens ++ added ∧
      (∀ token ∈ longer.tokens, token.kind = "heading_open" → token.lineNumber.isSome) ∧
      ∃ before after, check document = .ok before ∧ check longer = .ok after ∧
        before.Sublist after ∧ before.length = 3 ∧ after.length = 4 := by
  intro heading added document longer
  have hlines : ∀ token ∈ longer.tokens,
      token.kind = "heading_open" → token.lineNumber.isSome := by decide
  have hfront : ∀ token ∈ document.tokens,
      token.kind = "heading_open" → token.lineNumber.isSome := by decide
  obtain ⟨before, after, hbefore, hafter, hsub⟩ :=
    check_append_sublist document longer added rfl hlines
  have hthree : (reports (anchorGroups document.tokens)).length = 3 := by decide +kernel
  have hfour : (reports (anchorGroups longer.tokens)).length = 4 := by decide +kernel
  refine ⟨rfl, hlines, before, after, hbefore, hafter, hsub, ?_, ?_⟩
  · rw [check_eq_map_mergeSort hfront] at hbefore
    rw [← Except.ok.inj hbefore, List.length_map, List.length_mergeSort, hthree]
  · rw [check_eq_map_mergeSort hlines] at hafter
    rw [← Except.ok.inj hafter, List.length_map, List.length_mergeSort, hfour]

end AnchorCollision

end MarkdownCheck
