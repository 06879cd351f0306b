import MarkdownCheck.Proofs.Anchor.Scan
import MarkdownCheck.Proofs.General
import MarkdownCheck.Rule.AnchorCollision

/-!
# Headings whose anchors collide

The rule looks for collisions in two ways: it compares the keys by their groups, and the anchors by
counting. Together they find every heading that shares its key or its anchor with another one.

- `Collide`: two headings share their key or their anchor.
- `collisions`: the headings that collide with another one, group by group.
- `AnchorCollision.reports_groupClaims`: these are reported, each under its key.
- `AnchorCollision.check_eq_ok`: the findings are those for them, by line.
- `AnchorCollision.check_reports_exactly_the_colliding_headings`: which headings are reported, how
  often, in which order and in which words.
-/

namespace MarkdownCheck

/-! ## Headings that share something -/

section Sharing

variable (claims : List HeadingClaim)

/-- Two headings collide: they are different ones with the same key or with the same anchor. -/
def Collide (i j : Fin claims.length) : Prop :=
  i ≠ j ∧ (claims[i].key = claims[j].key ∨ claims[i].anchor = claims[j].anchor)

instance (i j : Fin claims.length) : Decidable (Collide claims i j) :=
  inferInstanceAs (Decidable (_ ∧ _))

theorem Collide.symm {claims : List HeadingClaim} {i j : Fin claims.length}
    (h : Collide claims i j) : Collide claims j i :=
  ⟨h.1.symm, h.2.imp Eq.symm Eq.symm⟩

/-- The headings of which some text is `wanted`, in document order. -/
def sharing (text : HeadingClaim → Text) (wanted : Text) : List (Fin claims.length) :=
  (List.finRange claims.length).filter fun i => text claims[i] = wanted

variable {claims} {text : HeadingClaim → Text} {wanted : Text} {i : Fin claims.length}

theorem mem_sharing : i ∈ sharing claims text wanted ↔ text claims[i] = wanted := by
  simp [sharing]

theorem nodup_sharing : (sharing claims text wanted).Nodup :=
  (List.nodup_finRange _).filter _

theorem filter_eq_map_sharing :
    claims.filter (text · = wanted) = (sharing claims text wanted).map (claims[·]) := by
  have hall : (List.finRange claims.length).map (claims[·]) = claims :=
    List.map_get_finRange claims
  conv_lhs => rw [← hall, List.filter_map]
  rfl

/-- Several headings have a text if some other one has it too. -/
theorem one_lt_length_sharing_iff :
    1 < (sharing claims text (text claims[i])).length ↔
      ∃ j, j ≠ i ∧ text claims[j] = text claims[i] := by
  rw [one_lt_length_iff_of_nodup nodup_sharing (mem_sharing.mpr rfl)]
  simp only [mem_sharing]
  exact exists_congr fun j => and_comm

end Sharing

/-! ## Headings group by group -/

/-- The headings, group by group. -/
def byKey (claims : List HeadingClaim) : List (Fin claims.length) :=
  (keysOf claims).flatMap (sharing claims (·.key))

/-- The headings that collide with another one, group by group. -/
def collisions (claims : List HeadingClaim) : List (Fin claims.length) :=
  (byKey claims).filter fun i => ∃ j, Collide claims i j

variable {claims : List HeadingClaim}

/-- The members of a group are the claims of the headings with its key. -/
theorem membersOf_eq_map_sharing (key : Text) :
    membersOf claims key = (sharing claims (·.key) key).map (claims[·].occurrence) := by
  rw [membersOf, filter_eq_map_sharing, List.map_map]
  rfl

theorem mem_byKey (i : Fin claims.length) : i ∈ byKey claims :=
  List.mem_flatMap.mpr
    ⟨claims[i].key, mem_keysOf.mpr ⟨_, List.getElem_mem _, rfl⟩, mem_sharing.mpr rfl⟩

theorem nodup_byKey : (byKey claims).Nodup := by
  refine List.nodup_flatMap.mpr ⟨fun key _ => nodup_sharing, ?_⟩
  refine (nodup_keysOf claims).imp fun {key other} hne => ?_
  intro i hi hi'
  exact hne ((mem_sharing.mp hi).symm.trans (mem_sharing.mp hi'))

theorem byKey_perm : (byKey claims).Perm (List.finRange claims.length) :=
  (List.perm_ext_iff_of_nodup nodup_byKey (List.nodup_finRange _)).mpr
    fun i => iff_of_true (mem_byKey i) (List.mem_finRange i)

theorem mem_collisions {i : Fin claims.length} :
    i ∈ collisions claims ↔ ∃ j, Collide claims i j := by
  rw [collisions, List.mem_filter, decide_eq_true_eq]
  exact and_iff_right (mem_byKey i)

theorem nodup_collisions : (collisions claims).Nodup :=
  nodup_byKey.filter _

/-- A heading does not collide alone. -/
theorem length_collisions_ne_one : (collisions claims).length ≠ 1 := by
  intro hlen
  obtain ⟨i, hi⟩ := List.length_eq_one_iff.mp hlen
  obtain ⟨j, hj⟩ := mem_collisions.mp (hi ▸ List.mem_singleton_self i)
  have hmem : j ∈ collisions claims := mem_collisions.mpr ⟨i, hj.symm⟩
  rw [hi, List.mem_singleton] at hmem
  exact hj.1 hmem.symm

/-- Where an anchor has a number, another heading has the key. -/
def Numbered (claims : List HeadingClaim) : Prop :=
  ∀ i : Fin claims.length, claims[i].anchor ≠ claims[i].key →
    ∃ j, j ≠ i ∧ claims[j].key = claims[i].key

theorem numbered_headingClaims (headings : List (Token × Text)) :
    Numbered (headingClaims headings) := by
  intro i h
  obtain ⟨j, hj, hkey⟩ := exists_of_anchor_ne_key i.isLt h
  exact ⟨⟨j, Nat.lt_trans hj i.isLt⟩, Fin.ne_of_lt hj, hkey⟩

/-! ## Reports -/

namespace HeadingClaim

/-- The claim with the name under which it is reported. -/
def report (claim : HeadingClaim) : Occurrence × Text :=
  (claim.occurrence, claim.key)

/-- What is reported about a colliding heading: its key, whether the anchor is made from the title,
and that anchor if it has got a number. -/
def finding (claim : HeadingClaim) : Finding where
  lineNumber := claim.lineNumber
  detail :=
    if claim.isGenerated ∧ claim.anchor ≠ claim.key then
      some ("Generated anchor: '".toList ++ claim.anchor ++ ['\''])
    else none
  context := some ("Duplicate anchor".toList
    ++ (if claim.isGenerated then " (autogenerated)".toList else [])
    ++ " '".toList ++ claim.key ++ ['\''])

theorem finding_report (claim : HeadingClaim) :
    AnchorCollision.finding claim.report = claim.finding := by
  simp only [AnchorCollision.finding, finding, report, isGenerated_occurrence,
    lineNumber_occurrence]
  by_cases h : claim.isGenerated
  · have hslug : claim.occurrence.slug = claim.anchor := if_pos h
    rw [hslug]
  · have hnot {detail : Prop} : ¬ (claim.isGenerated = true ∧ detail) := fun hboth => h hboth.1
    rw [if_neg hnot, if_neg hnot]

end HeadingClaim

namespace AnchorCollision

theorem flatMap_groupClaims :
    (groupClaims claims).flatMap (·.2) = (byKey claims).map (claims[·].occurrence) := by
  rw [groupClaims, List.flatMap_map, byKey, List.map_flatMap]
  exact List.flatMap_congr fun key _ => membersOf_eq_map_sharing key

/-- The claims on an anchor are counted over all groups. -/
theorem claimCount_groupClaims (anchor : Text) :
    claimCount (groupClaims claims) anchor = (sharing claims (·.anchor) anchor).length := by
  rw [claimCount, flatMap_groupClaims, (byKey_perm.map _).countP_eq, List.countP_map, sharing,
    List.countP_eq_length_filter]
  simp only [Function.comp_def, HeadingClaim.anchor_occurrence]

/-- Of one group those are reported that collide. -/
theorem groupReports_groupClaims (hnumbered : Numbered claims) (key : Text) :
    groupReports (groupClaims claims) (key, membersOf claims key) =
      ((sharing claims (·.key) key).filter fun i => ∃ j, Collide claims i j).map
        (claims[·].report) := by
  rw [groupReports, membersOf_eq_map_sharing, List.length_map]
  split
  · next hlen =>
    -- all members share the key
    have hall : ∀ i ∈ sharing claims (·.key) key, ∃ j, Collide claims i j := by
      intro i hi
      obtain rfl := mem_sharing.mp hi
      obtain ⟨j, hne, hkey⟩ := one_lt_length_sharing_iff.mp hlen
      exact ⟨j, hne.symm, .inl hkey.symm⟩
    rw [List.filter_eq_self.mpr fun i hi => decide_eq_true (hall i hi), List.map_map]
    refine List.map_congr_left fun i hi => ?_
    obtain rfl := mem_sharing.mp hi
    rfl
  · next hlen =>
    -- nobody else has the key, so the anchor has no number and is all that can be shared
    have honly : ∀ i ∈ sharing claims (·.key) key, ∀ j, j ≠ i → claims[j].key ≠ claims[i].key := by
      intro i hi j hne hkey
      obtain rfl := mem_sharing.mp hi
      exact hlen (one_lt_length_sharing_iff.mpr ⟨j, hne, hkey⟩)
    have hcollide : ∀ i ∈ sharing claims (·.key) key,
        (1 < claimCount (groupClaims claims) claims[i].anchor ↔ ∃ j, Collide claims i j) := by
      intro i hi
      rw [claimCount_groupClaims, one_lt_length_sharing_iff]
      refine exists_congr fun j => ?_
      constructor
      · rintro ⟨hne, hanchor⟩
        exact ⟨hne.symm, .inr hanchor.symm⟩
      · rintro ⟨hne, hkey | hanchor⟩
        · exact absurd hkey.symm (honly i hi j hne.symm)
        · exact ⟨hne.symm, hanchor.symm⟩
    rw [List.filter_map, List.map_map]
    simp only [Function.comp_def, HeadingClaim.anchor_occurrence]
    rw [List.filter_congr fun i hi => decide_eq_decide.mpr (hcollide i hi)]
    refine List.map_congr_left fun i hi => ?_
    have hkey : claims[i].anchor = claims[i].key := by
      refine Classical.byContradiction fun hne => ?_
      obtain ⟨j, hj, hkey⟩ := hnumbered i hne
      exact honly i (List.mem_of_mem_filter hi) j hj hkey
    rw [hkey]
    rfl

/-- The colliding headings are reported, each under its key. -/
theorem reports_groupClaims (hnumbered : Numbered claims) :
    reports (groupClaims claims) = (collisions claims).map (claims[·].report) := by
  have hgroups : reports (groupClaims claims) = (keysOf claims).flatMap fun key =>
      groupReports (groupClaims claims) (key, membersOf claims key) := by
    rw [reports]
    exact List.flatMap_map ..
  rw [hgroups, collisions, byKey, List.filter_flatMap, List.map_flatMap]
  exact List.flatMap_congr fun key _ => groupReports_groupClaims hnumbered key

/-! ## The order of reports -/

/-- The line of a report, 0 when it has none. -/
def lineOf (report : Occurrence × Text) : Int :=
  report.1.lineNumber.getD 0

theorem lineOf_report {claim : HeadingClaim} {line : Int} (h : line ∈ claim.lineNumber) :
    lineOf claim.report = line := by
  show claim.lineNumber.getD 0 = line
  rw [Option.mem_def.mp h, Option.getD_some]

theorem linesOf?_eq_some {reports : List (Occurrence × Text)}
    (h : ∀ report ∈ reports, report.1.lineNumber.isSome) :
    linesOf? reports = some (reports.map fun report => (lineOf report, report)) := by
  induction reports with
  | nil => rfl
  | cons report rest ih =>
    obtain ⟨line, hline⟩ := Option.isSome_iff_exists.mp (h report List.mem_cons_self)
    rw [linesOf?, hline, ih fun other hmem => h other (List.mem_cons_of_mem _ hmem)]
    simp [lineOf, hline]

theorem isSome_lineNumber_of_linesOf? {reports : List (Occurrence × Text)}
    (h : (linesOf? reports).isSome) : ∀ report ∈ reports, report.1.lineNumber.isSome := by
  induction reports with
  | nil => nofun
  | cons report rest ih =>
    rw [linesOf?] at h
    cases hline : report.1.lineNumber with
    | none => simp [hline] at h
    | some line =>
      cases hrest : linesOf? rest with
      | none => simp [hline, hrest] at h
      | some more =>
        intro other hmem
        rcases List.mem_cons.mp hmem with rfl | hmem
        · rw [hline]
          rfl
        · exact ih (by rw [hrest]; rfl) other hmem

/-- Reports that all have a line come by line. -/
theorem sorted_eq_ok {reports : List (Occurrence × Text)}
    (h : ∀ report ∈ reports, report.1.lineNumber.isSome) :
    sorted reports = .ok (reports.mergeSort fun a b => lineOf a ≤ lineOf b) := by
  rw [sorted]
  split
  · next hlen =>
    match reports, hlen with
    | [], _ => rw [List.mergeSort_nil]
    | [report], _ => rw [List.mergeSort_singleton]
  · rw [linesOf?_eq_some h]
    have hlined := List.map_mergeSort (l := reports) (f := fun report => (lineOf report, report))
      (r := fun a b => lineOf a ≤ lineOf b) (s := fun a b => a.1 ≤ b.1) fun _ _ _ _ => rfl
    show Except.ok _ = Except.ok _
    rw [← hlined, List.map_map]
    exact congrArg _ (List.map_id _)

/-- Several reports come in an order only if all have a line. -/
theorem isSome_lineNumber_of_sorted {reports ordered : List (Occurrence × Text)}
    (h : sorted reports = .ok ordered) (hlen : reports.length ≠ 1) :
    ∀ report ∈ reports, report.1.lineNumber.isSome := by
  rw [sorted] at h
  split at h
  · next hle =>
    obtain rfl : reports = [] := List.eq_nil_of_length_eq_zero (by omega)
    nofun
  · cases hlined : linesOf? reports with
    | none => simp [hlined] at h
    | some lined => exact isSome_lineNumber_of_linesOf? (by rw [hlined]; rfl)

/-- The colliding headings by line; those on one line stay group by group. -/
def byLine (claims : List HeadingClaim) : List (Fin claims.length) :=
  (collisions claims).mergeSort fun i j => lineOf claims[i].report ≤ lineOf claims[j].report

theorem byLine_perm : (byLine claims).Perm (collisions claims) :=
  List.mergeSort_perm _ _

theorem pairwise_byLine :
    (byLine claims).Pairwise fun i j => lineOf claims[i].report ≤ lineOf claims[j].report := by
  refine (List.pairwise_mergeSort (fun i j k h h' => ?_) (fun i j => ?_) _).imp fun h =>
    of_decide_eq_true h
  · exact decide_eq_true (Int.le_trans (of_decide_eq_true h) (of_decide_eq_true h'))
  · rw [Bool.or_eq_true, decide_eq_true_eq, decide_eq_true_eq]
    exact Int.le_total _ _

/-- The claims whose collisions a check reports. -/
abbrev claimsIn (document : Document) : List HeadingClaim :=
  headingClaims (headings document.tokens)

theorem reports_anchorGroups (document : Document) :
    reports (anchorGroups document.tokens) =
      (collisions (claimsIn document)).map ((claimsIn document)[·].report) := by
  rw [anchorGroups_eq_groupClaims, reports_groupClaims (numbered_headingClaims _)]

/-- A check finds the colliding headings by line, if each of them has one. -/
theorem check_eq_ok {document : Document}
    (h : ∀ i ∈ collisions (claimsIn document), (claimsIn document)[i].lineNumber.isSome) :
    check document =
      .ok ((byLine (claimsIn document)).map fun i => (claimsIn document)[i].finding) := by
  have hlines : ∀ report ∈ reports (anchorGroups document.tokens),
      report.1.lineNumber.isSome := by
    rw [reports_anchorGroups]
    intro report hmem
    obtain ⟨i, hi, rfl⟩ := List.mem_map.mp hmem
    exact h i hi
  have hmap := List.map_mergeSort (l := collisions (claimsIn document))
    (f := ((claimsIn document)[·].report)) (s := fun a b => lineOf a ≤ lineOf b)
    (r := fun i j => lineOf (claimsIn document)[i].report ≤ lineOf (claimsIn document)[j].report)
    fun _ _ _ _ => rfl
  rw [check, sorted_eq_ok hlines, reports_anchorGroups, ← hmap]
  show Except.ok _ = Except.ok _
  rw [List.map_map]
  exact congrArg _ (List.map_congr_left fun i _ => HeadingClaim.finding_report _)

/-- What a check finds has a line, whatever the headings look like: one heading does not collide
alone, and several reports without lines have no order. -/
theorem isSome_lineNumber_of_check {document : Document} {findings : List Finding}
    (h : check document = .ok findings) : ∀ finding ∈ findings, finding.lineNumber.isSome := by
  have hlen : (reports (anchorGroups document.tokens)).length ≠ 1 := by
    rw [reports_anchorGroups, List.length_map]
    exact length_collisions_ne_one
  cases hsorted : sorted (reports (anchorGroups document.tokens)) with
  | error cause => simp [check, hsorted] at h
  | ok ordered =>
    have hlines : ∀ i ∈ collisions (claimsIn document),
        (claimsIn document)[i].lineNumber.isSome := by
      intro i hi
      refine isSome_lineNumber_of_sorted hsorted hlen (claimsIn document)[i].report ?_
      rw [reports_anchorGroups]
      exact List.mem_map_of_mem hi
    rw [check_eq_ok hlines] at h
    obtain rfl := Except.ok.inj h
    intro finding hmem
    obtain ⟨i, hi, rfl⟩ := List.mem_map.mp hmem
    exact hlines i (byLine_perm.mem_iff.mp hi)

/-! ## The findings -/

/-- **Colliding headings.** Where the tokens that open headings have lines, a check reports exactly
the headings that share their key or their anchor with another one, each of them once and by line.
So what collides with a reported heading is reported too, nothing is reported alone, and where
nothing is reported all anchors are different. -/
theorem check_reports_exactly_the_colliding_headings (document : Document)
    (hlines : ∀ token ∈ document.tokens, token.kind = "heading_open" → token.lineNumber.isSome) :
    let claims := headingClaims (headings document.tokens)
    ∃ order : List (Fin claims.length),
      check document = .ok (order.map fun i => claims[i].finding) ∧
      order.Nodup ∧
      (∀ i, i ∈ order ↔ ∃ j, Collide claims i j) ∧
      (∀ i j, i ∈ order → Collide claims i j → j ∈ order) ∧
      order.length ≠ 1 ∧
      (order = [] → ∀ i j : Fin claims.length, claims[i].anchor = claims[j].anchor → i = j) ∧
      order.Pairwise fun i j => ∀ line ∈ claims[i].lineNumber, ∀ later ∈ claims[j].lineNumber,
        line ≤ later := by
  intro claims
  have hmem : ∀ i, i ∈ byLine claims ↔ ∃ j, Collide claims i j := fun i =>
    byLine_perm.mem_iff.trans mem_collisions
  refine ⟨byLine claims, check_eq_ok fun i _ => ?_, ?_, hmem, ?_, ?_, ?_, ?_⟩
  · obtain ⟨heading, hheading, hline⟩ := exists_of_mem_headingClaims (List.getElem_mem i.isLt)
    obtain ⟨htoken, hkind⟩ := mem_of_mem_headings hheading
    exact hline ▸ hlines _ htoken hkind
  · exact byLine_perm.nodup_iff.mpr nodup_collisions
  · exact fun i j _ hij => (hmem j).mpr ⟨i, hij.symm⟩
  · rw [byLine_perm.length_eq]
    exact length_collisions_ne_one
  · intro hnil i j hanchor
    refine Classical.byContradiction fun hne => ?_
    have hi : i ∈ byLine claims := (hmem i).mpr ⟨j, hne, .inr hanchor⟩
    rw [hnil] at hi
    cases hi
  · refine pairwise_byLine.imp fun {i j} hle line hline later hlater => ?_
    rwa [lineOf_report hline, lineOf_report hlater] at hle

/-- The second heading with the slug `a` gets the anchor `a-1` and so collides with the explicit
one, which belongs to another group. The last heading collides with none. -/
theorem check_reports_exactly_the_colliding_headings_numbered :
    let heading (line : Int) (title : Text) : List Token := [
      { kind := "heading_open", lineNumber := some line },
      { kind := "inline", content := title }, { kind := "heading_close" }]
    let tokens := heading 1 ['A'] ++ heading 2 "B \x7b#a-1\x7d".toList ++ heading 3 ['A']
      ++ heading 4 ['C']
    let document : Document := { tokens }
    let claims := headingClaims (headings document.tokens)
    (∀ token ∈ document.tokens, token.kind = "heading_open" → token.lineNumber.isSome) ∧
      claims.map (fun claim => (claim.key, claim.anchor)) =
        [(['a'], ['a']), ("a-1".toList, "a-1".toList), (['a'], "a-1".toList), (['c'], ['c'])] ∧
      ∃ order : List (Fin claims.length),
        check document = .ok (order.map fun i => claims[i].finding) ∧
        order.Nodup ∧ ∀ i, i ∈ order ↔ i.val < 3 := by
  intro heading tokens document claims
  have hlines : ∀ token ∈ document.tokens,
      token.kind = "heading_open" → token.lineNumber.isSome := by decide
  have hcollide : ∀ i : Fin claims.length, (∃ j, Collide claims i j) ↔ i.val < 3 := by
    decide +kernel
  obtain ⟨order, hcheck, hnodup, hmem, -⟩ :=
    check_reports_exactly_the_colliding_headings document hlines
  exact ⟨hlines, by decide +kernel, order, hcheck, hnodup, fun i => (hmem i).trans (hcollide i)⟩

end AnchorCollision

end MarkdownCheck
