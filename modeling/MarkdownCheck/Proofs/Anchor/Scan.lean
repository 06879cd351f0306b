import MarkdownCheck.Proofs.Anchor.Claims
import MarkdownCheck.Proofs.Lookup

/-!
# The scan of the headings

One loop fills the groups, where every claim goes, and the counters, which only generated anchors
move. The two agree: a counter is the number of generated claims under its slug, whatever explicit
ones stand between them.

- `AnchorGroups.claims`: the claims under a key.
- `AnchorScan.CountsGenerated`: the counters agree with the groups.
- `CountsGenerated.addHeading`, `countsGenerated_ofHeadings`: a heading keeps it so, and so it is
  behind any headings.
- `anchorGroups_eq_groupClaims`: the groups of a token stream are its claims by key.
-/

namespace MarkdownCheck

/-! ## Entries -/

theorem lookup_alterEntry {α : Type} (key : Text) (change : Option α → α)
    (entries : List (Text × α)) (other : Text) :
    (alterEntry key change entries).lookup other =
      if other = key then some (change (entries.lookup key)) else entries.lookup other := by
  induction entries with
  | nil => exact lookup_cons_eq key (change none) [] other
  | cons entry rest ih =>
    obtain ⟨known, value⟩ := entry
    unfold alterEntry
    by_cases hknown : known = key
    · subst hknown
      rw [if_pos rfl, lookup_cons_eq, lookup_cons_eq, lookup_cons_eq, if_pos rfl]
      split
      · rfl
      · rfl
    · rw [if_neg hknown, lookup_cons_eq, lookup_cons_eq, lookup_cons_eq, ih,
        if_neg (Ne.symm hknown)]
      by_cases hother : other = known
      · rw [if_pos hother, if_pos hother, if_neg (hother ▸ hknown)]
      · rw [if_neg hother, if_neg hother]

theorem SlugCounts.count_set (counts : SlugCounts) (key : Text) (count : Nat) (other : Text) :
    (counts.set key count).count other = if other = key then count else counts.count other := by
  unfold SlugCounts.set SlugCounts.count
  rw [lookup_alterEntry]
  split
  · rfl
  · rfl

/-! ## Groups -/

namespace AnchorGroups

/-- The claims under a key. -/
def claims (groups : AnchorGroups) (key : Text) : List Occurrence :=
  (groups.lookup key).getD []

/-- A claim that is added comes last under its key, and nothing changes under another one. -/
theorem claims_add (groups : AnchorGroups) (key : Text) (claim : Occurrence) (other : Text) :
    (groups.add key claim).claims other =
      groups.claims other ++ if other = key then [claim] else [] := by
  unfold AnchorGroups.add AnchorGroups.claims
  rw [lookup_alterEntry]
  by_cases hother : other = key
  · rw [if_pos hother, if_pos hother, hother]
    rfl
  · rw [if_neg hother, if_neg hother, List.append_nil]

/-- Adding under a key changes the group of that key, or makes it. -/
theorem add_map (members : Text → List Occurrence) {keys : List Text} (hkeys : keys.Nodup)
    (key : Text) (claim : Occurrence) :
    AnchorGroups.add (keys.map fun known => (known, members known)) key claim =
      (keys.map fun known => (known, members known ++ if key = known then [claim] else [])) ++
        if key ∈ keys then [] else [(key, [claim])] := by
  unfold AnchorGroups.add
  induction keys with
  | nil => simp [alterEntry]
  | cons known keys ih =>
    obtain ⟨hnot, hkeys⟩ := List.nodup_cons.mp hkeys
    by_cases h : known = key
    · subst h
      have hother : ∀ other ∈ keys, ¬ known = other := by
        rintro other hmem rfl
        exact hnot hmem
      simp only [List.map_cons, alterEntry, if_true, List.mem_cons_self, List.append_nil,
        Option.getD_some, List.cons.injEq, true_and]
      refine List.map_congr_left fun other hmem => ?_
      rw [if_neg (hother other hmem), List.append_nil]
    · have hne : key ≠ known := Ne.symm h
      simp [alterEntry, h, hne, ih hkeys]

/-- One more claim goes into the groups as it does into the list. -/
theorem add_groupClaims (claims : List HeadingClaim) (claim : HeadingClaim) :
    (groupClaims claims).add claim.key claim.occurrence = groupClaims (claims ++ [claim]) := by
  rw [groupClaims, groupClaims, add_map _ (nodup_keysOf claims), keysOf_concat, List.map_append]
  congr 1
  · refine List.map_congr_left fun key _ => ?_
    rw [membersOf_concat]
  · split
    · rfl
    · next h => simp [membersOf_concat, membersOf_eq_nil h]

/-- The claims that the groups hold under a key. -/
theorem claims_groupClaims (claims : List HeadingClaim) (key : Text) :
    (groupClaims claims).claims key = membersOf claims key := by
  induction claims using List.reverseRecOn with
  | nil => rfl
  | append_singleton claims claim ih =>
    rw [← add_groupClaims, claims_add, ih, membersOf_concat]
    exact congrArg (membersOf claims key ++ ·) (if_congr eq_comm rfl rfl)

end AnchorGroups

/-! ## One heading -/

namespace AnchorScan

variable {scan : AnchorScan} {heading : Token × Text}

theorem addHeading_of_generated (h : (Anchor.explicit heading.2).isEmpty) :
    scan.addHeading heading =
      let key := Anchor.key heading.2
      let count := scan.counts.count key
      { groups := scan.groups.add key ⟨[], Anchor.numbered key count, heading.1.lineNumber⟩
        counts := scan.counts.set key (count + 1) } := by
  have hkey : Anchor.key heading.2 = slug false (Anchor.splitExplicit heading.2).1 := if_pos h
  rw [hkey]
  exact if_pos h

theorem addHeading_of_explicit (h : ¬ (Anchor.explicit heading.2).isEmpty) :
    scan.addHeading heading =
      { scan with
        groups := scan.groups.add (Anchor.explicit heading.2)
          ⟨Anchor.explicit heading.2, [], heading.1.lineNumber⟩ } :=
  if_neg h

/-- The counter of a slug is the number of generated claims under it. -/
def CountsGenerated (scan : AnchorScan) : Prop :=
  ∀ key, scan.counts.count key = (scan.groups.claims key).countP (·.isGenerated)

theorem countsGenerated_empty : CountsGenerated {} :=
  fun _ => rfl

/-- A heading keeps the counters and the groups in agreement. -/
theorem CountsGenerated.addHeading (h : scan.CountsGenerated) (heading : Token × Text) :
    (scan.addHeading heading).CountsGenerated := by
  intro other
  by_cases hexplicit : (Anchor.explicit heading.2).isEmpty
  · -- one more generated claim under the slug, and its counter moves by one
    rw [addHeading_of_generated hexplicit]
    show (scan.counts.set (Anchor.key heading.2) _).count other =
      ((scan.groups.add (Anchor.key heading.2) _).claims other).countP _
    rw [SlugCounts.count_set, AnchorGroups.claims_add, List.countP_append, ← h other]
    by_cases hother : other = Anchor.key heading.2
    · have hslug := Anchor.numbered_key_ne_nil heading.2 (scan.counts.count (Anchor.key heading.2))
      rw [if_pos hother, if_pos hother, List.countP_singleton,
        if_pos (Occurrence.isGenerated_iff.mpr hslug), hother]
    · rw [if_neg hother, if_neg hother]
      rfl
  · -- an explicit claim counts on neither side
    rw [addHeading_of_explicit hexplicit]
    show scan.counts.count other =
      ((scan.groups.add (Anchor.explicit heading.2) _).claims other).countP _
    rw [AnchorGroups.claims_add, List.countP_append, ← h other]
    split
    · rfl
    · rfl

/-! ## All headings -/

/-- The agreement lasts through any run of headings. -/
theorem CountsGenerated.foldl (h : scan.CountsGenerated) (headings : List (Token × Text)) :
    (headings.foldl AnchorScan.addHeading scan).CountsGenerated := by
  induction headings generalizing scan with
  | nil => exact h
  | cons heading rest ih => exact ih (h.addHeading heading)

theorem countsGenerated_ofHeadings (headings : List (Token × Text)) :
    (ofHeadings headings).CountsGenerated :=
  countsGenerated_empty.foldl headings

theorem ofHeadings_concat (headings : List (Token × Text)) (heading : Token × Text) :
    ofHeadings (headings ++ [heading]) = (ofHeadings headings).addHeading heading :=
  List.foldl_concat ..

/-- When the groups hold the claims of some headings, the counters count their titles. -/
theorem CountsGenerated.count_key {headings : List (Token × Text)} (h : scan.CountsGenerated)
    (hgroups : scan.groups = groupClaims (headingClaims headings)) (source : Text) :
    scan.counts.count (Anchor.key source) = Anchor.earlier (headings.map (·.2)) source := by
  rw [h, hgroups, AnchorGroups.claims_groupClaims, countP_membersOf]

/-- The groups are the claims of the headings by key. -/
theorem groups_ofHeadings (headings : List (Token × Text)) :
    (ofHeadings headings).groups = groupClaims (headingClaims headings) := by
  induction headings using List.reverseRecOn with
  | nil => rfl
  | append_singleton headings heading ih =>
    have hcount := (countsGenerated_ofHeadings headings).count_key ih heading.2
    rw [ofHeadings_concat, headingClaims_concat, ← AnchorGroups.add_groupClaims, ← ih]
    by_cases h : (Anchor.explicit heading.2).isEmpty
    · rw [addHeading_of_generated h]
      simp only [hcount]
      simp [HeadingClaim.ofHeading, HeadingClaim.occurrence, Anchor.assigned_eq, h]
    · have hkey : Anchor.key heading.2 = Anchor.explicit heading.2 := if_neg h
      rw [addHeading_of_explicit h]
      simp [HeadingClaim.ofHeading, HeadingClaim.occurrence, Anchor.assigned, h, hkey]

end AnchorScan

/-- The groups of a token stream are the claims of its headings by key. -/
theorem anchorGroups_eq_groupClaims (tokens : List Token) :
    anchorGroups tokens = groupClaims (headingClaims (headings tokens)) :=
  AnchorScan.groups_ofHeadings (headings tokens)

end MarkdownCheck
