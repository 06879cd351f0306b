import MarkdownCheck.Proofs.Pattern.Ends

/-!
# What the groups of a match hold

A match puts captures on top of those that were there before. Each is of a group of the pattern and
stands between the start of the match and its end.

- `Pattern.hasGroup`: whether a pattern has a group with a number.
- `Place.Grows`: from one place to another nothing but captures in between is put on top.
- `Pattern.grows_of_mem_ends`: so it is with the places of a match.
- `Pattern.leadsWithFirst`: the first group can stand nowhere but at the start of a match;
  `Pattern.start_eq_of_leadsWithFirst` says that it does.
-/

namespace MarkdownCheck

/-- The position behind what a group has matched. -/
def Capture.stop (capture : Capture) : Nat :=
  capture.start + capture.text.length

/-! ## Captures on top of others -/

namespace Place

/-- From one place to the other some captures are put on top, all of them with this property. -/
def Adds (p : Capture → Prop) (place next : Place) : Prop :=
  ∃ new, next.captures = new ++ place.captures ∧ ∀ capture ∈ new, p capture

section

variable {p q : Capture → Prop} {place middle next : Place}

theorem Adds.refl (p : Capture → Prop) (place : Place) : place.Adds p place :=
  ⟨[], rfl, nofun⟩

theorem Adds.trans (h : place.Adds p middle) (h' : middle.Adds p next) : place.Adds p next := by
  obtain ⟨new, hnew, hp⟩ := h
  obtain ⟨more, hmore, hp'⟩ := h'
  refine ⟨more ++ new, ?_, fun capture hcapture => ?_⟩
  · rw [hmore, hnew, List.append_assoc]
  · exact (List.mem_append.mp hcapture).elim (hp' capture) (hp capture)

theorem Adds.mono (h : place.Adds p next) (hpq : ∀ capture, p capture → q capture) :
    place.Adds q next := by
  obtain ⟨new, hnew, hp⟩ := h
  exact ⟨new, hnew, fun capture hcapture => hpq capture (hp capture hcapture)⟩

/-- What is on top of nothing is all there is. -/
theorem Adds.forall_mem (h : place.Adds p next) (hnone : place.captures = []) :
    ∀ capture ∈ next.captures, p capture := by
  obtain ⟨new, hnew, hp⟩ := h
  rwa [hnew, hnone, List.append_nil]

/-- A group that is none of those put on top keeps what it held. -/
theorem Adds.captured?_eq {number : Nat} (h : place.Adds p next)
    (hother : ∀ capture, p capture → capture.group ≠ number) :
    next.captured? number = place.captured? number := by
  obtain ⟨new, hnew, hp⟩ := h
  have hnone : new.find? (·.group = number) = none := by
    rw [List.find?_eq_none]
    intro capture hcapture
    simpa using hother capture (hp capture hcapture)
  rw [captured?, hnew, List.find?_append, hnone, Option.none_or, captured?]

end

/-- A group holds what it has captured. -/
theorem captured?_capture (start : Place) (number : Nat) (next : Place) :
    (start.capture number next).captured? number =
      some ⟨number, start.position, start.rest.take (next.position - start.position)⟩ :=
  List.find?_cons_of_pos (decide_eq_true rfl)

/-- From one place to the other the position does not go back, and captures of these groups that
stand in between are put on top. -/
structure Grows (groups : Nat → Prop) (place next : Place) : Prop where
  position_le : place.position ≤ next.position
  adds : place.Adds (fun capture => groups capture.group ∧ place.position ≤ capture.start ∧
    capture.stop ≤ next.position) next

section

variable {groups others : Nat → Prop} {place middle next : Place}

theorem Grows.refl (groups : Nat → Prop) (place : Place) : place.Grows groups place :=
  ⟨Nat.le_refl _, .refl _ place⟩

theorem Grows.trans (h : place.Grows groups middle) (h' : middle.Grows groups next) :
    place.Grows groups next where
  position_le := Nat.le_trans h.position_le h'.position_le
  adds := by
    refine .trans (h.adds.mono ?_) (h'.adds.mono ?_)
    · rintro capture ⟨hgroup, hstart, hstop⟩
      exact ⟨hgroup, hstart, Nat.le_trans hstop h'.position_le⟩
    · rintro capture ⟨hgroup, hstart, hstop⟩
      exact ⟨hgroup, Nat.le_trans h.position_le hstart, hstop⟩

theorem Grows.mono (h : place.Grows groups next) (hgroups : ∀ n, groups n → others n) :
    place.Grows others next :=
  ⟨h.position_le, h.adds.mono fun _ hcapture => hcapture.imp_left (hgroups _)⟩

theorem grows_advance (groups : Nat → Prop) (place : Place) (n : Nat) :
    place.Grows groups (place.advance n) :=
  ⟨Nat.le_add_right _ _, [], rfl, nofun⟩

/-- A group puts its own capture on top of those inside. -/
theorem Grows.capture {number : Nat} (h : place.Grows groups next) :
    place.Grows (fun n => n = number ∨ groups n) (place.capture number next) := by
  obtain ⟨hle, new, hnew, hinside⟩ := h
  refine ⟨hle, _ :: new, congrArg (_ :: ·) hnew, List.forall_mem_cons.mpr ⟨?_, ?_⟩⟩
  · refine ⟨.inl rfl, Nat.le_refl _, ?_⟩
    show place.position + (place.rest.take (next.position - place.position)).length ≤ next.position
    rw [List.length_take]
    omega
  · exact fun capture hcapture => (hinside capture hcapture).imp_left .inr

end

end Place

namespace Pattern

/-! ## The captures of a match -/

/-- Whether a pattern has a group with this number. -/
def hasGroup (number : Nat) : Pattern → Bool
  | .seq first second | .either first second => first.hasGroup number || second.hasGroup number
  | .many _ inside | .ahead inside => inside.hasGroup number
  | .group n inside => n = number || inside.hasGroup number
  | .empty | .one _ | .same _ | .atStart | .atEnd => false

/-- What holds from each place to itself, and of two steps if it holds of each of them, holds of a
repetition if it holds of a round. -/
theorem rel_of_mem_rounds (rel : Place → Place → Prop) (hrefl : ∀ place, rel place place)
    (htrans : ∀ place middle next, rel place middle → rel middle next → rel place next)
    {step : Place → List Place} (hstep : ∀ place next, next ∈ step place → rel place next)
    {greedy : Bool} {bound : Nat} {place next : Place}
    (h : next ∈ rounds step greedy bound place) : rel place next := by
  induction bound generalizing place with
  | zero =>
    obtain rfl := List.mem_singleton.mp h
    exact hrefl next
  | succ bound ih =>
    rcases mem_rounds_succ.mp h with rfl | ⟨middle, hmiddle, -, hnext⟩
    · exact hrefl next
    · exact htrans place middle next (hstep place middle hmiddle) (ih hnext)

/-- A match puts captures of its own groups on top, which stand inside it. -/
theorem grows_of_mem_ends {pattern : Pattern} {place next : Place}
    (h : next ∈ pattern.ends place) : place.Grows (pattern.hasGroup ·) next := by
  induction pattern generalizing place next with
  | empty =>
    obtain rfl := List.mem_singleton.mp h
    exact .refl _ next
  | one accepts =>
    obtain ⟨c, -, -, rfl⟩ := mem_ends_one.mp h
    exact Place.grows_advance _ place 1
  | seq first second ihFirst ihSecond =>
    obtain ⟨middle, hmiddle, hnext⟩ := List.mem_flatMap.mp h
    have hfirst : place.Grows ((seq first second).hasGroup ·) middle :=
      (ihFirst hmiddle).mono fun n hn => by simp [hasGroup, hn]
    have hsecond : middle.Grows ((seq first second).hasGroup ·) next :=
      (ihSecond hnext).mono fun n hn => by simp [hasGroup, hn]
    exact hfirst.trans hsecond
  | either first second ihFirst ihSecond =>
    rcases List.mem_append.mp h with h | h
    · exact (ihFirst h).mono fun n hn => by simp [hasGroup, hn]
    · exact (ihSecond h).mono fun n hn => by simp [hasGroup, hn]
  | many greedy round ih =>
    exact rel_of_mem_rounds (Place.Grows (round.hasGroup ·)) (.refl _) (fun _ _ _ => .trans)
      (fun _ _ => ih) h
  | group number inside ih =>
    obtain ⟨inner, hinner, rfl⟩ := List.mem_map.mp h
    have hgrows : place.Grows (fun n => n = number ∨ inside.hasGroup n)
        (place.capture number inner) := (ih hinner).capture
    refine hgrows.mono fun n hn => ?_
    rcases hn with rfl | hn
    · simp [hasGroup]
    · simp [hasGroup, hn]
  | same number =>
    rw [ends] at h
    split at h
    · split at h
      · obtain rfl := List.mem_singleton.mp h
        exact Place.grows_advance _ place _
      · cases h
    · cases h
  | atStart | atEnd | ahead inside =>
    rw [ends] at h
    split at h
    all_goals first
      | cases h; done
      | obtain rfl := List.mem_singleton.mp h
        exact .refl _ next

/-- A match stays inside its text. -/
theorem position_le_of_mem_ends {pattern : Pattern} {place next : Place}
    (h : next ∈ pattern.ends place) : next.position ≤ place.position + place.rest.length := by
  obtain ⟨taken, -, hrest, hposition⟩ := exists_mem_language_of_mem_ends h
  rw [hposition, hrest, List.length_append]
  omega

/-! ## The first group -/

/-- The first group can stand nowhere but at the start of a match. -/
def leadsWithFirst : Pattern → Bool
  | .seq first second => first.leadsWithFirst && !second.hasGroup 1
  | .either first second => first.leadsWithFirst && second.leadsWithFirst
  | .many _ round => !round.hasGroup 1
  | .group number inside => if number = 1 then !inside.hasGroup 1 else inside.leadsWithFirst
  | .empty | .one _ | .same _ | .atStart | .atEnd | .ahead _ => true

/-- In a pattern without first group no capture is one of it. -/
theorem adds_of_not_hasGroup {pattern : Pattern} {number : Nat}
    (hnone : pattern.hasGroup number = false) {place next : Place}
    (h : next ∈ pattern.ends place) :
    place.Adds (fun capture => capture.group ≠ number) next := by
  refine (grows_of_mem_ends h).adds.mono ?_
  rintro capture ⟨hgroup, -⟩ rfl
  rw [hnone] at hgroup
  cases hgroup

theorem start_eq_of_leadsWithFirst {pattern : Pattern} (hleads : pattern.leadsWithFirst)
    {place next : Place} (h : next ∈ pattern.ends place) :
    place.Adds (fun capture => capture.group = 1 → capture.start = place.position) next := by
  have hnothing : ∀ (other : Pattern) {place next : Place} (position : Nat),
      other.hasGroup 1 = false → next ∈ other.ends place →
      place.Adds (fun capture => capture.group = 1 → capture.start = position) next :=
    fun _ _ _ _ hnone h => (adds_of_not_hasGroup hnone h).mono fun _ hne heq => absurd heq hne
  induction pattern generalizing place next with
  | seq first second ihFirst ihSecond =>
    rw [leadsWithFirst, Bool.and_eq_true, Bool.not_eq_true'] at hleads
    obtain ⟨middle, hmiddle, hnext⟩ := List.mem_flatMap.mp h
    exact (ihFirst hleads.1 hmiddle).trans (hnothing second place.position hleads.2 hnext)
  | either first second ihFirst ihSecond =>
    rw [leadsWithFirst, Bool.and_eq_true] at hleads
    rcases List.mem_append.mp h with h | h
    · exact ihFirst hleads.1 h
    · exact ihSecond hleads.2 h
  | many greedy round ih =>
    -- a second round would start behind the start of the match
    rw [leadsWithFirst, Bool.not_eq_true'] at hleads
    exact hnothing (.many greedy round) place.position hleads h
  | group number inside ih =>
    obtain ⟨inner, hinner, rfl⟩ := List.mem_map.mp h
    rw [leadsWithFirst] at hleads
    have hinside : place.Adds (fun capture => capture.group = 1 → capture.start = place.position)
        inner := by
      split at hleads
      · exact hnothing inside place.position (by simpa using hleads) hinner
      · exact ih hleads hinner
    obtain ⟨new, hnew, hp⟩ := hinside
    exact ⟨_ :: new, congrArg (_ :: ·) hnew, List.forall_mem_cons.mpr ⟨fun _ => rfl, hp⟩⟩
  | empty | one accepts | same number | atStart | atEnd => exact hnothing _ _ rfl h
  | ahead inside =>
    rw [ends] at h
    split at h
    · cases h
    · obtain rfl := List.mem_singleton.mp h
      exact .refl _ next

end Pattern

end MarkdownCheck
