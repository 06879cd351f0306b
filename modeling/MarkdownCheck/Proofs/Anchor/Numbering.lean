import MarkdownCheck.Proofs.Anchor.Collision

/-!
# How claims are grouped and numbered

- `Token.isHeadingPart`: the tokens on which the headings of a stream depend.
- `Occurrence.IsClaimOf`: what a heading claims as a member of a group.
- `AnchorGroups.IsGroupAt`: a group holds the claims of the headings at some places.
- `anchorGroups_partition_and_number`: the groups of a token stream share out its headings, and
  number the slugs in each group.
-/

namespace MarkdownCheck

/-! ## Tokens that make a heading -/

/-- A token that opens or closes a heading, or may hold its title. -/
def Token.isHeadingPart (token : Token) : Bool :=
  token.kind = "heading_open" || token.kind = "heading_close" || token.kind = "inline"

/-- Other tokens play no part. -/
theorem headingsFrom_filter (opening : Option Token) (tokens : List Token) :
    headingsFrom opening (tokens.filter (·.isHeadingPart)) = headingsFrom opening tokens := by
  fun_induction headingsFrom opening tokens with
  | case1 => rfl
  | case2 opening token rest hopen ih =>
    rw [List.filter_cons_of_pos (by simp [Token.isHeadingPart, hopen])]
    simp only [headingsFrom, if_pos hopen, ih]
  | case3 opening token rest hopen hclose ih =>
    rw [List.filter_cons_of_pos (by simp [Token.isHeadingPart, hclose])]
    simp only [headingsFrom, if_neg hopen, if_pos hclose, ih]
  | case4 token rest hopen hclose opening hinline ih =>
    rw [List.filter_cons_of_pos (by simp [Token.isHeadingPart, hinline])]
    simp only [headingsFrom, if_neg hopen, if_neg hclose, if_pos hinline, ih]
  | case5 token rest hopen hclose opening hinline ih =>
    rw [List.filter_cons_of_neg (by simp [Token.isHeadingPart, hopen, hclose, hinline]), ih]
  | case6 token rest hopen hclose ih =>
    rw [List.filter_cons]
    split
    · simp only [headingsFrom, if_neg hopen, if_neg hclose, ih]
    · exact ih

theorem headings_filter (tokens : List Token) :
    headings (tokens.filter (·.isHeadingPart)) = headings tokens :=
  headingsFrom_filter none tokens

/-! ## Numbers -/

theorem Text.ofDigitChars_ofNat (n : Nat) : Nat.ofDigitChars 10 (Text.ofNat n) 0 = n := by
  have hdigits : Text.ofNat n = Nat.toDigits 10 n := String.toList_ofList
  rw [hdigits, Nat.ofDigitChars_toDigits (by decide) (by decide)]

theorem Text.ofNat_injective : Text.ofNat.Injective :=
  Function.LeftInverse.injective Text.ofDigitChars_ofNat

namespace Anchor

theorem numbered_injective (key : Text) : (numbered key).Injective := by
  have hzero {n : Nat} (h : key = key ++ '-' :: Text.ofNat n) : False := by
    have hlength := congrArg List.length h
    rw [List.length_append, List.length_cons] at hlength
    omega
  intro m n h
  rw [numbered, numbered] at h
  split at h <;> split at h
  · next hm hn => rw [hm, hn]
  · exact (hzero h).elim
  · exact (hzero h.symm).elim
  · exact Text.ofNat_injective (List.cons.inj (List.append_cancel_left h)).2

end Anchor

/-! ## One claim -/

/-- What a heading claims as a member of the group with a key, behind `earlier` members whose
anchors are made from their titles. -/
structure Occurrence.IsClaimOf (claim : Occurrence) (heading : Token × Text) (key : Text)
    (earlier : Nat) : Prop where
  lineNumber_eq : claim.lineNumber = heading.1.lineNumber
  explicit_eq : claim.explicit = (Anchor.splitExplicit heading.2).2
  /-- The anchor is either explicit or made from the title. -/
  explicit_eq_nil_iff : claim.explicit = [] ↔ claim.slug ≠ []
  key_of_explicit : claim.explicit ≠ [] → key = claim.explicit
  key_of_generated : claim.explicit = [] →
    key = MarkdownCheck.slug false (Anchor.splitExplicit heading.2).1
  slug_of_generated : claim.explicit = [] → claim.slug = Anchor.numbered key earlier

theorem HeadingClaim.isClaimOf_ofHeading (before : List Text) (heading : Token × Text) :
    (ofHeading before heading).occurrence.IsClaimOf heading (Anchor.key heading.2)
      (Anchor.earlier before heading.2) := by
  have hanchor := Anchor.assigned_ne_nil before heading.2
  by_cases h : (Anchor.explicit heading.2).isEmpty
  · have hnil : Anchor.explicit heading.2 = [] := List.isEmpty_iff.mp h
    have hexplicit : (ofHeading before heading).occurrence.explicit = [] := if_pos h
    have hslug : (ofHeading before heading).occurrence.slug = Anchor.assigned before heading.2 :=
      if_pos h
    constructor
    case lineNumber_eq => rfl
    case explicit_eq => exact hexplicit.trans hnil.symm
    case explicit_eq_nil_iff => exact iff_of_true hexplicit (hslug ▸ hanchor)
    case key_of_explicit => exact fun hne => absurd hexplicit hne
    case key_of_generated =>
      intro _
      rw [Anchor.key, if_pos h]
    case slug_of_generated =>
      intro _
      rw [hslug, Anchor.assigned_eq, if_pos h]
  · have hassigned : Anchor.assigned before heading.2 = Anchor.explicit heading.2 := if_neg h
    have hexplicit : (ofHeading before heading).occurrence.explicit = Anchor.explicit heading.2 :=
      (if_neg h).trans hassigned
    have hslug : (ofHeading before heading).occurrence.slug = [] := if_neg h
    have hne : (ofHeading before heading).occurrence.explicit ≠ [] := fun hnil =>
      h (List.isEmpty_iff.mpr (hexplicit.symm.trans hnil))
    constructor
    case lineNumber_eq => rfl
    case explicit_eq => exact hexplicit
    case explicit_eq_nil_iff => exact iff_of_false hne fun hnot => hnot hslug
    case key_of_explicit =>
      intro _
      rw [hexplicit, Anchor.key, if_neg h]
    case key_of_generated => exact fun hnil => absurd hnil hne
    case slug_of_generated => exact fun hnil => absurd hnil hne

/-! ## The claims in front -/

theorem getElem?_headingClaims (headings : List (Token × Text)) (i : Nat) :
    (headingClaims headings)[i]? =
      headings[i]?.map (HeadingClaim.ofHeading ((headings.take i).map (·.2))) :=
  List.getElem?_mapIdx

theorem take_headingClaims (headings : List (Token × Text)) (n : Nat) :
    (headingClaims headings).take n = headingClaims (headings.take n) := by
  refine List.ext_getElem? fun i => ?_
  rw [List.getElem?_take, getElem?_headingClaims, getElem?_headingClaims, List.getElem?_take]
  split
  · next hlt => rw [List.take_take, Nat.min_eq_left (Nat.le_of_lt hlt)]
  · rfl

section

variable {claims : List HeadingClaim} {text : HeadingClaim → Text} {wanted : Text}

theorem sharing_cons (claim : HeadingClaim) (claims : List HeadingClaim) :
    sharing (claim :: claims) text wanted =
      (if text claim = wanted then [⟨0, Nat.succ_pos _⟩] else []) ++
        (sharing claims text wanted).map Fin.succ := by
  have hrest : ((List.finRange claims.length).map Fin.succ).filter
      (fun i : Fin (claim :: claims).length => text (claim :: claims)[i] = wanted) =
        (sharing claims text wanted).map Fin.succ := by
    rw [List.filter_map]
    rfl
  have hall : List.finRange (claim :: claims).length =
      ⟨0, Nat.succ_pos _⟩ :: (List.finRange claims.length).map Fin.succ :=
    List.finRange_succ
  rw [sharing, hall, List.filter_cons, hrest]
  by_cases h : text claim = wanted
  · rw [if_pos h]
    exact if_pos (decide_eq_true h)
  · rw [if_neg h]
    exact if_neg (mt of_decide_eq_true h)

/-- The headings in front of the `k`-th one that shares a text are the first `k` of those. -/
theorem take_filter_of_getElem?_sharing {k : Nat} {i : Fin claims.length}
    (h : (sharing claims text wanted)[k]? = some i) :
    (claims.filter (text · = wanted)).take k = (claims.take i).filter (text · = wanted) := by
  induction claims generalizing k with
  | nil => exact i.elim0
  | cons claim claims ih =>
    rw [sharing_cons] at h
    by_cases hclaim : text claim = wanted
    · rw [if_pos hclaim] at h
      rw [List.filter_cons_of_pos (by simpa using hclaim)]
      cases k with
      | zero =>
        obtain rfl := Option.some.inj h
        rfl
      | succ k =>
        rw [List.singleton_append, List.getElem?_cons_succ, List.getElem?_map,
          Option.map_eq_some_iff] at h
        obtain ⟨j, hj, rfl⟩ := h
        rw [List.take_succ_cons, ih hj, Fin.val_succ, List.take_succ_cons,
          List.filter_cons_of_pos (by simpa using hclaim)]
    · rw [if_neg hclaim, List.nil_append, List.getElem?_map, Option.map_eq_some_iff] at h
      obtain ⟨j, hj, rfl⟩ := h
      rw [List.filter_cons_of_neg (by simpa using hclaim), ih hj, Fin.val_succ, List.take_succ_cons,
        List.filter_cons_of_neg (by simpa using hclaim)]

theorem pairwise_sharing : (sharing claims text wanted).Pairwise (· < ·) :=
  (List.pairwise_lt_finRange _).filter _

end

/-! ## Groups -/

/-- A key that comes later has its first heading later. -/
theorem pairwise_keysOf (claims : List HeadingClaim) :
    (keysOf claims).Pairwise fun key later =>
      ∀ (j : Nat) (claim : HeadingClaim), claims[j]? = some claim → claim.key = later →
        ∃ i < j, ∃ other, claims[i]? = some other ∧ other.key = key := by
  induction claims using List.reverseRecOn with
  | nil => exact .nil
  | append_singleton claims last ih =>
    -- a key that is there has a heading in front of the last one
    have hfirst {key : Text} (hkey : key ∈ keysOf claims) :
        ∃ i < claims.length, ∃ other, (claims ++ [last])[i]? = some other ∧ other.key = key := by
      obtain ⟨other, hmem, hother⟩ := mem_keysOf.mp hkey
      obtain ⟨i, hi⟩ := List.mem_iff_getElem?.mp hmem
      have hlt : i < claims.length := (List.getElem?_eq_some_iff.mp hi).1
      exact ⟨i, hlt, other, by rwa [List.getElem?_append_left hlt], hother⟩
    rw [keysOf_concat, List.pairwise_append]
    refine ⟨ih.imp_of_mem fun hkey _ hih => ?_, ?_, ?_⟩
    · intro j claim hj hclaim
      rcases Nat.lt_or_ge j claims.length with hlt | hge
      · rw [List.getElem?_append_left hlt] at hj
        obtain ⟨i, hi, other, hother, hsame⟩ := hih j claim hj hclaim
        refine ⟨i, hi, other, ?_, hsame⟩
        rwa [List.getElem?_append_left (Nat.lt_trans hi hlt)]
      · obtain ⟨i, hi, hother⟩ := hfirst hkey
        exact ⟨i, Nat.lt_of_lt_of_le hi hge, hother⟩
    · split
      · exact .nil
      · exact List.pairwise_singleton _ _
    · intro key hkey later hlater j claim hj hclaim
      split at hlater
      · cases hlater
      · next hnew =>
        rw [List.mem_singleton.mp hlater] at hclaim
        rcases Nat.lt_or_ge j claims.length with hlt | hge
        · rw [List.getElem?_append_left hlt] at hj
          exact absurd (mem_keysOf.mpr ⟨claim, List.mem_of_getElem? hj, hclaim⟩) hnew
        · obtain ⟨i, hi, hother⟩ := hfirst hkey
          exact ⟨i, Nat.lt_of_lt_of_le hi hge, hother⟩

/-- A group holds the claims of the headings at given places. These come in document order, and a
claim is numbered by the generated anchors that stand in front of it in the group. -/
structure AnchorGroups.IsGroupAt (found : List (Token × Text)) (group : Text × List Occurrence)
    (places : List Nat) : Prop where
  places_ne_nil : places ≠ []
  ordered : places.Pairwise (· < ·)
  length_eq : group.2.length = places.length
  isClaimOf : ∀ {k i : Nat} {heading : Token × Text} {claim : Occurrence},
    places[k]? = some i → found[i]? = some heading → group.2[k]? = some claim →
      claim.IsClaimOf heading group.1 ((group.2.take k).countP (·.isGenerated))

/-- The places of the headings with a key. -/
def placesOf (claims : List HeadingClaim) (key : Text) : List Nat :=
  (sharing claims (·.key) key).map Fin.val

theorem mem_placesOf {claims : List HeadingClaim} {key : Text} {i : Nat} :
    i ∈ placesOf claims key ↔ ∃ claim, claims[i]? = some claim ∧ claim.key = key := by
  rw [placesOf, List.mem_map]
  constructor
  · rintro ⟨j, hj, rfl⟩
    exact ⟨claims[j], List.getElem?_eq_getElem j.isLt, mem_sharing.mp hj⟩
  · rintro ⟨claim, hclaim, hkey⟩
    obtain ⟨hlt, rfl⟩ := List.getElem?_eq_some_iff.mp hclaim
    exact ⟨⟨i, hlt⟩, mem_sharing.mpr hkey, rfl⟩

theorem isGroupAt_placesOf (found : List (Token × Text)) {key : Text}
    (hkey : key ∈ keysOf (headingClaims found)) :
    AnchorGroups.IsGroupAt found (key, membersOf (headingClaims found) key)
      (placesOf (headingClaims found) key) := by
  constructor
  case places_ne_nil =>
    obtain ⟨claim, hmem, hclaim⟩ := mem_keysOf.mp hkey
    obtain ⟨i, hi⟩ := List.mem_iff_getElem?.mp hmem
    exact List.ne_nil_of_mem (mem_placesOf.mpr ⟨claim, hi, hclaim⟩)
  case ordered => exact List.pairwise_map.mpr pairwise_sharing
  case length_eq =>
    rw [membersOf_eq_map_sharing, List.length_map, placesOf, List.length_map]
  case isClaimOf =>
    intro k i heading claim hplace hheading hclaim
    rw [placesOf, List.getElem?_map] at hplace
    obtain ⟨j, hj, rfl⟩ := Option.map_eq_some_iff.mp hplace
    rw [membersOf_eq_map_sharing, List.getElem?_map, hj, Option.map_some] at hclaim
    obtain rfl := Option.some.inj hclaim
    obtain rfl : (headingClaims found)[j].key = key := mem_sharing.mp (List.mem_of_getElem? hj)
    have hfront := take_filter_of_getElem?_sharing hj
    rw [take_headingClaims] at hfront
    -- the claim is made behind the titles of the headings in front
    have hmade : (headingClaims found)[j] = .ofHeading ((found.take j).map (·.2)) heading := by
      have hat : (headingClaims found)[j.val]? =
          some (.ofHeading ((found.take j).map (·.2)) heading) := by
        rw [getElem?_headingClaims, hheading, Option.map_some]
      exact Option.some.inj ((List.getElem?_eq_getElem j.isLt).symm.trans hat)
    rw [hmade] at hfront ⊢
    have hcount : ((membersOf (headingClaims found) (Anchor.key heading.2)).take k).countP
        (·.isGenerated) = Anchor.earlier ((found.take j).map (·.2)) heading.2 := by
      have hgenerated := congrArg
        (fun front => (front.map HeadingClaim.occurrence).countP (·.isGenerated)) hfront
      rw [← countP_membersOf, membersOf, ← List.map_take]
      exact hgenerated
    exact hcount ▸ HeadingClaim.isClaimOf_ofHeading _ _

/-! ## Slugs of a group -/

namespace Occurrence

theorem IsClaimOf.slug_of_isGenerated {claim : Occurrence} {heading : Token × Text} {key : Text}
    {earlier : Nat} (h : claim.IsClaimOf heading key earlier) (hgenerated : claim.isGenerated) :
    claim.slug = Anchor.numbered key earlier :=
  h.slug_of_generated (h.explicit_eq_nil_iff.mpr (isGenerated_iff.mp hgenerated))

/-- Members that are numbered by those in front of them count up. -/
theorem slugs_eq {members : List Occurrence} {key : Text}
    (h : ∀ (k : Nat) (claim : Occurrence), members[k]? = some claim → claim.isGenerated →
      claim.slug = Anchor.numbered key ((members.take k).countP (·.isGenerated))) :
    (members.filter (·.isGenerated)).map (·.slug) =
      (List.range (members.countP (·.isGenerated))).map (Anchor.numbered key) := by
  induction members using List.reverseRecOn with
  | nil => rfl
  | append_singleton members claim ih =>
    have hfront := ih fun k other hother => by
      have hlt : k < members.length := (List.getElem?_eq_some_iff.mp hother).1
      have hsame := h k other (by rwa [List.getElem?_append_left hlt])
      rwa [List.take_append_of_le_length (Nat.le_of_lt hlt)] at hsame
    have hlast := h members.length claim List.getElem?_concat_length
    rw [List.take_left] at hlast
    rw [List.filter_append, List.map_append, hfront, List.countP_append]
    by_cases hgenerated : claim.isGenerated
    · rw [List.filter_cons_of_pos hgenerated, List.countP_singleton, if_pos hgenerated,
        List.range_succ, List.map_append, List.map_singleton, ← hlast hgenerated]
      rfl
    · rw [List.filter_cons_of_neg hgenerated, List.countP_singleton, if_neg hgenerated]
      exact List.append_nil _

end Occurrence

theorem AnchorGroups.IsGroupAt.nodup_slugs {found : List (Token × Text)}
    {group : Text × List Occurrence} {places : List Nat} (h : IsGroupAt found group places)
    (hplaces : ∀ i ∈ places, i < found.length) :
    ((group.2.filter (·.isGenerated)).map (·.slug)).Nodup := by
  have hslugs : (group.2.filter (·.isGenerated)).map (·.slug) =
      (List.range (group.2.countP (·.isGenerated))).map (Anchor.numbered group.1) := by
    refine Occurrence.slugs_eq fun k claim hclaim hgenerated => ?_
    have hlt : k < places.length := by
      rw [← h.length_eq]
      exact (List.getElem?_eq_some_iff.mp hclaim).1
    have hplace := List.getElem?_eq_getElem hlt
    have hheading := List.getElem?_eq_getElem (hplaces _ (List.getElem_mem hlt))
    exact (h.isClaimOf hplace hheading hclaim).slug_of_isGenerated hgenerated
  rw [hslugs]
  exact List.nodup_range.map (Anchor.numbered_injective _)

/-! ## The groups of a token stream -/

theorem length_headingClaims (headings : List (Token × Text)) :
    (headingClaims headings).length = headings.length :=
  List.length_mapIdx

theorem flatten_placesOf_perm (claims : List HeadingClaim) :
    ((keysOf claims).map (placesOf claims)).flatten.Perm (List.range claims.length) := by
  have hplaces : ((keysOf claims).map (placesOf claims)).flatten =
      (byKey claims).map Fin.val := by
    rw [byKey, List.map_flatMap, List.flatMap_def]
    rfl
  rw [hplaces, ← List.map_coe_finRange_eq_range]
  exact byKey_perm.map _

/-- A group comes in front of another one if its first heading does. -/
theorem pairwise_placesOf (claims : List HeadingClaim) :
    ((keysOf claims).map (placesOf claims)).Pairwise fun places later =>
      ∀ j ∈ later, ∃ i ∈ places, i < j := by
  refine List.pairwise_map.mpr ((pairwise_keysOf claims).imp fun {key later} h j hj => ?_)
  obtain ⟨claim, hclaim, hkey⟩ := mem_placesOf.mp hj
  obtain ⟨i, hi, other, hother, hsame⟩ := h j claim hclaim hkey
  exact ⟨i, mem_placesOf.mpr ⟨other, hother, hsame⟩, hi⟩

/-- **Groups of anchors.** The groups of a token stream share out its headings: each heading stands
at one place of one group, in document order, and groups come in the order of their first headings.
A group holds the claims of its headings, numbered by the generated anchors in front of them, so
these are all different. That is what the counters count: behind any number of headings, the counter
of a slug is the number of generated claims under it so far. Only the tokens that can make a heading
matter. -/
theorem anchorGroups_partition_and_number (tokens : List Token) :
    let found := headings tokens
    let groups := anchorGroups tokens
    (∃ places : List (List Nat),
      places.flatten.Perm (List.range found.length) ∧
      places.Pairwise (fun first later => ∀ j ∈ later, ∃ i ∈ first, i < j) ∧
      (groups.map (·.1)).Nodup ∧
      List.Forall₂ (AnchorGroups.IsGroupAt found) groups places) ∧
    (∀ n, (AnchorScan.ofHeadings (found.take n)).CountsGenerated) ∧
    (∀ group ∈ groups, ((group.2.filter (·.isGenerated)).map (·.slug)).Nodup) ∧
    ∀ others : List Token,
      others.filter (·.isHeadingPart) = tokens.filter (·.isHeadingPart) →
        anchorGroups others = groups := by
  intro found groups
  have hgroups : groups = groupClaims (headingClaims found) := anchorGroups_eq_groupClaims tokens
  refine ⟨⟨(keysOf (headingClaims found)).map (placesOf (headingClaims found)), ?_,
    pairwise_placesOf _, ?_, ?_⟩, fun n => AnchorScan.countsGenerated_ofHeadings _, ?_, ?_⟩
  · rw [← length_headingClaims found]
    exact flatten_placesOf_perm _
  · have hkeys : groups.map (·.1) = keysOf (headingClaims found) := by
      rw [hgroups, groupClaims, List.map_map]
      exact List.map_id _
    exact hkeys ▸ nodup_keysOf _
  · rw [hgroups, groupClaims, List.forall₂_map_left_iff, List.forall₂_map_right_iff,
      List.forall₂_same]
    exact fun key hkey => isGroupAt_placesOf found hkey
  · intro group hgroup
    rw [hgroups, groupClaims] at hgroup
    obtain ⟨key, hkey, rfl⟩ := List.mem_map.mp hgroup
    refine (isGroupAt_placesOf found hkey).nodup_slugs fun i hi => ?_
    obtain ⟨claim, hclaim, -⟩ := mem_placesOf.mp hi
    exact length_headingClaims found ▸ (List.getElem?_eq_some_iff.mp hclaim).1
  · intro others hothers
    have hfound : headings others = found := by
      rw [← headings_filter others, hothers, headings_filter]
    exact congrArg (fun found => (AnchorScan.ofHeadings found).groups) hfound

/-- The explicit anchor in the group does not count, so the next slug is the first with a number. A
token between the headings changes nothing. -/
theorem anchorGroups_partition_and_number_explicit :
    let heading (line : Int) (title : Text) : List Token := [
      { kind := "heading_open", lineNumber := some line },
      { kind := "inline", content := title }, { kind := "heading_close" }]
    let fence : Token := { kind := "fence", lineNumber := some 7 }
    let front := heading 1 ['A'] ++ heading 3 "B \x7b#a\x7d".toList ++ heading 5 ['C']
    let tokens := front ++ heading 9 ['A']
    let others := front ++ fence :: heading 9 ['A']
    others.filter (·.isHeadingPart) = tokens.filter (·.isHeadingPart) ∧
      anchorGroups tokens = [
        (['a'], [⟨[], ['a'], some 1⟩, ⟨['a'], [], some 3⟩, ⟨[], "a-1".toList, some 9⟩]),
        (['c'], [⟨[], ['c'], some 5⟩])] ∧
      anchorGroups others = anchorGroups tokens := by
  intro heading fence front tokens others
  have hothers : others.filter (·.isHeadingPart) = tokens.filter (·.isHeadingPart) := rfl
  have hgroups : anchorGroups tokens = [
      (['a'], [⟨[], ['a'], some 1⟩, ⟨['a'], [], some 3⟩, ⟨[], "a-1".toList, some 9⟩]),
      (['c'], [⟨[], ['c'], some 5⟩])] := by decide +kernel
  exact ⟨hothers, hgroups, (anchorGroups_partition_and_number tokens).2.2.2 others hothers⟩

end MarkdownCheck
