import Mathlib.Data.List.Induction
import Mathlib.Data.List.Nodup
import MarkdownCheck.Anchor

/-!
# What each heading claims

The groups of anchors are filled heading by heading, and a repeated slug is numbered by a counter.
What one heading claims can be said from the titles in front of it:

- `Anchor.key`, `Anchor.assigned`: the key of a heading and the anchor that it gets.
- `Anchor.numbered`: a slug with its number.
- `HeadingClaim`, `headingClaims`: these for all headings, in document order.
- `groupClaims`: claims by key, keys in the order of their first claim.
-/

namespace MarkdownCheck

/-! ## One heading -/

namespace Anchor

/-- The explicit anchor in the source of a title, empty when there is none. -/
def explicit (source : Text) : Text :=
  (splitExplicit source).2

/-- The key of a heading: its explicit anchor, or else the slug of its title. -/
def key (source : Text) : Text :=
  if (explicit source).isEmpty then slug false (splitExplicit source).1 else explicit source

/-- How many headings in front share the key and have no explicit anchor either. -/
def earlier (before : List Text) (source : Text) : Nat :=
  before.countP fun other => (explicit other).isEmpty && key other = key source

/-- The anchor that a heading gets: its explicit one, or else its slug, numbered from the second
heading on that claims it. -/
def assigned (before : List Text) (source : Text) : Text :=
  if (explicit source).isEmpty then
    if earlier before source = 0 then key source
    else key source ++ '-' :: Text.ofNat (earlier before source)
  else explicit source

/-- A slug with the number of earlier anchors that are made from it, if there are any. -/
def numbered (key : Text) (earlier : Nat) : Text :=
  if earlier = 0 then key else key ++ '-' :: Text.ofNat earlier

theorem assigned_eq (before : List Text) (source : Text) :
    assigned before source =
      if (explicit source).isEmpty then numbered (key source) (earlier before source)
      else explicit source :=
  rfl

end Anchor

theorem slug_ne_nil (preserve : Bool) (title : Text) : slug preserve title ≠ [] := by
  rw [slug]
  split
  · exact nofun
  · next h => exact fun hnil => h (by rw [hnil]; rfl)

namespace Anchor

theorem key_ne_nil (source : Text) : key source ≠ [] := by
  rw [key]
  split
  · exact slug_ne_nil false _
  · next h => exact fun hnil => h (by rw [hnil]; rfl)

theorem numbered_key_ne_nil (source : Text) (earlier : Nat) :
    numbered (key source) earlier ≠ [] := by
  rw [numbered]
  split
  · exact key_ne_nil source
  · exact List.append_ne_nil_of_right_ne_nil _ nofun

theorem assigned_ne_nil (before : List Text) (source : Text) : assigned before source ≠ [] := by
  rw [assigned_eq]
  split
  · exact numbered_key_ne_nil source _
  · next h => exact fun hnil => h (by rw [hnil]; rfl)

/-- Only a heading behind another one with its key gets an anchor that is not its key. -/
theorem exists_of_assigned_ne_key {before : List Text} {source : Text}
    (h : assigned before source ≠ key source) : ∃ other ∈ before, key other = key source := by
  rw [assigned] at h
  split at h
  · split at h
    · exact absurd rfl h
    · next hcount =>
      obtain ⟨other, hmem, hother⟩ := List.countP_pos_iff.mp (Nat.pos_of_ne_zero hcount)
      rw [Bool.and_eq_true, decide_eq_true_eq] at hother
      exact ⟨other, hmem, hother.2⟩
  · next hexplicit =>
    rw [key, if_neg hexplicit] at h
    exact absurd rfl h

end Anchor

theorem Occurrence.isGenerated_iff {claim : Occurrence} :
    claim.isGenerated ↔ claim.slug ≠ [] := by
  simp [Occurrence.isGenerated]

/-! ## All headings -/

/-- A heading that is read has been open from the start or is opened by a token of the stream. -/
theorem eq_or_mem_of_mem_headingsFrom {opening : Option Token} {tokens : List Token}
    {heading : Token × Text} (h : heading ∈ headingsFrom opening tokens) :
    opening = some heading.1 ∨ heading.1 ∈ tokens ∧ heading.1.kind = "heading_open" := by
  fun_induction headingsFrom opening tokens with
  | case1 => cases h
  | case2 opening token rest hkind ih =>
    rcases ih h with hopen | ⟨hmem, hkind'⟩
    · obtain rfl := Option.some.inj hopen
      exact .inr ⟨List.mem_cons_self, hkind⟩
    · exact .inr ⟨List.mem_cons_of_mem _ hmem, hkind'⟩
  | case3 opening token rest _ _ ih =>
    rcases ih h with hopen | ⟨hmem, hkind⟩
    · cases hopen
    · exact .inr ⟨List.mem_cons_of_mem _ hmem, hkind⟩
  | case4 token rest _ _ opening _ ih =>
    rcases List.mem_cons.mp h with rfl | h
    · exact .inl rfl
    · exact (ih h).imp_right fun ⟨hmem, hkind⟩ => ⟨List.mem_cons_of_mem _ hmem, hkind⟩
  | case5 token rest _ _ opening _ ih =>
    exact (ih h).imp_right fun ⟨hmem, hkind⟩ => ⟨List.mem_cons_of_mem _ hmem, hkind⟩
  | case6 token rest _ _ ih =>
    exact (ih h).imp_right fun ⟨hmem, hkind⟩ => ⟨List.mem_cons_of_mem _ hmem, hkind⟩

theorem mem_of_mem_headings {tokens : List Token} {heading : Token × Text}
    (h : heading ∈ headings tokens) : heading.1 ∈ tokens ∧ heading.1.kind = "heading_open" :=
  (eq_or_mem_of_mem_headingsFrom h).resolve_left nofun

/-- What a heading claims. -/
structure HeadingClaim where
  lineNumber : Option Int
  /-- Whether the anchor is made from the title. -/
  isGenerated : Bool
  key : Text
  /-- The anchor that the heading gets. -/
  anchor : Text
  anchor_ne_nil : anchor ≠ []
deriving DecidableEq

namespace HeadingClaim

/-- The claim of a heading behind headings with the titles `before`. -/
def ofHeading (before : List Text) (heading : Token × Text) : HeadingClaim where
  lineNumber := heading.1.lineNumber
  isGenerated := (Anchor.explicit heading.2).isEmpty
  key := Anchor.key heading.2
  anchor := Anchor.assigned before heading.2
  anchor_ne_nil := Anchor.assigned_ne_nil before heading.2

/-- The claim as a member of its group. -/
def occurrence (claim : HeadingClaim) : Occurrence where
  explicit := if claim.isGenerated then [] else claim.anchor
  slug := if claim.isGenerated then claim.anchor else []
  lineNumber := claim.lineNumber

@[simp] theorem lineNumber_occurrence (claim : HeadingClaim) :
    claim.occurrence.lineNumber = claim.lineNumber :=
  rfl

@[simp] theorem isGenerated_occurrence (claim : HeadingClaim) :
    claim.occurrence.isGenerated = claim.isGenerated := by
  have hanchor := claim.anchor_ne_nil
  cases h : claim.isGenerated <;> simp [Occurrence.isGenerated, occurrence, h, hanchor]

@[simp] theorem anchor_occurrence (claim : HeadingClaim) :
    claim.occurrence.anchor = claim.anchor := by
  have hanchor := claim.anchor_ne_nil
  cases h : claim.isGenerated <;> simp [Occurrence.anchor, occurrence, h, hanchor]

end HeadingClaim

/-- The claims of headings, in document order. -/
def headingClaims (headings : List (Token × Text)) : List HeadingClaim :=
  headings.mapIdx fun i heading => .ofHeading ((headings.take i).map (·.2)) heading

theorem headingClaims_concat (headings : List (Token × Text)) (heading : Token × Text) :
    headingClaims (headings ++ [heading]) =
      headingClaims headings ++ [.ofHeading (headings.map (·.2)) heading] := by
  rw [headingClaims, List.mapIdx_concat, List.take_left]
  congr 1
  refine List.mapIdx_eq_mapIdx_iff.mpr fun i hi => ?_
  rw [List.take_append_of_le_length (Nat.le_of_lt hi)]

/-- A claim belongs to a heading, and stands on its line. -/
theorem exists_of_mem_headingClaims {headings : List (Token × Text)} {claim : HeadingClaim}
    (h : claim ∈ headingClaims headings) :
    ∃ heading ∈ headings, heading.1.lineNumber = claim.lineNumber := by
  obtain ⟨i, hi, rfl⟩ := List.mem_mapIdx.mp h
  exact ⟨headings[i], List.getElem_mem hi, rfl⟩

/-- What does not depend on the headings in front can be counted in the titles. -/
theorem countP_headingClaims (p : Bool → Text → Bool) (headings : List (Token × Text)) :
    (headingClaims headings).countP (fun claim => p claim.isGenerated claim.key) =
      (headings.map (·.2)).countP
        fun source => p (Anchor.explicit source).isEmpty (Anchor.key source) := by
  induction headings using List.reverseRecOn with
  | nil => rfl
  | append_singleton headings heading ih =>
    rw [headingClaims_concat, List.countP_append, ih, List.map_append, List.countP_append]
    rfl

/-- A heading whose anchor is not its key has the key of another one. -/
theorem exists_of_anchor_ne_key {headings : List (Token × Text)} {i : Nat}
    (hi : i < (headingClaims headings).length)
    (h : (headingClaims headings)[i].anchor ≠ (headingClaims headings)[i].key) :
    ∃ j, ∃ hj : j < i, (headingClaims headings)[j].key = (headingClaims headings)[i].key := by
  simp only [headingClaims, List.getElem_mapIdx, HeadingClaim.ofHeading] at h ⊢
  obtain ⟨other, hmem, hkey⟩ := Anchor.exists_of_assigned_ne_key h
  obtain ⟨heading, hheading, rfl⟩ := List.mem_map.mp hmem
  obtain ⟨j, hj, rfl⟩ := List.mem_iff_getElem.mp hheading
  refine ⟨j, ?_, ?_⟩
  · rw [List.length_take] at hj
    omega
  · rwa [List.getElem_take] at hkey

/-! ## Groups -/

/-- The members of the group with a key. -/
def membersOf (claims : List HeadingClaim) (key : Text) : List Occurrence :=
  (claims.filter (·.key = key)).map (·.occurrence)

/-- The keys of claims, each at its first claim. -/
def keysOf (claims : List HeadingClaim) : List Text :=
  (claims.map (·.key)).eraseDups

/-- Claims by key. -/
def groupClaims (claims : List HeadingClaim) : AnchorGroups :=
  (keysOf claims).map fun key => (key, membersOf claims key)

theorem membersOf_concat (claims : List HeadingClaim) (claim : HeadingClaim) (key : Text) :
    membersOf (claims ++ [claim]) key =
      membersOf claims key ++ if claim.key = key then [claim.occurrence] else [] := by
  by_cases h : claim.key = key <;> simp [membersOf, h]

theorem mem_keysOf {claims : List HeadingClaim} {key : Text} :
    key ∈ keysOf claims ↔ ∃ claim ∈ claims, claim.key = key := by
  rw [keysOf, List.mem_eraseDups, List.mem_map]

theorem keysOf_concat (claims : List HeadingClaim) (claim : HeadingClaim) :
    keysOf (claims ++ [claim]) =
      keysOf claims ++ if claim.key ∈ keysOf claims then [] else [claim.key] := by
  have hmem : claim.key ∈ keysOf claims ↔ claim.key ∈ claims.map (·.key) := List.mem_eraseDups
  rw [keysOf, List.map_append, List.eraseDups_append, ← keysOf, List.map_cons, List.map_nil,
    List.removeAll, List.filter_cons, List.filter_nil]
  by_cases h : claim.key ∈ claims.map (·.key)
  · rw [List.elem_eq_true_of_mem h, if_pos (hmem.mpr h)]
    rfl
  · rw [if_neg (mt hmem.mp h), if_pos (by simpa using h)]
    rfl

theorem nodup_keysOf (claims : List HeadingClaim) : (keysOf claims).Nodup := by
  induction claims using List.reverseRecOn with
  | nil => exact .nil
  | append_singleton claims claim ih =>
    rw [keysOf_concat]
    split
    · simpa using ih
    · next h => exact ih.append (List.nodup_singleton _) (List.disjoint_singleton.mpr h)

/-- A group that is not there has no members. -/
theorem membersOf_eq_nil {claims : List HeadingClaim} {key : Text} (h : key ∉ keysOf claims) :
    membersOf claims key = [] := by
  rw [membersOf, List.map_eq_nil_iff, List.filter_eq_nil_iff]
  intro claim hmem hkey
  exact h (mem_keysOf.mpr ⟨claim, hmem, of_decide_eq_true hkey⟩)

/-- The group of a key holds as many generated anchors as there are titles with the key and without
an explicit anchor. -/
theorem countP_membersOf (headings : List (Token × Text)) (source : Text) :
    (membersOf (headingClaims headings) (Anchor.key source)).countP (·.isGenerated) =
      Anchor.earlier (headings.map (·.2)) source := by
  rw [membersOf, List.countP_map, List.countP_filter]
  simp only [Function.comp_def, HeadingClaim.isGenerated_occurrence]
  exact countP_headingClaims (fun isGenerated key => isGenerated && key = Anchor.key source)
    headings

end MarkdownCheck
