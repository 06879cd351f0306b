import MarkdownCheck.Proofs.Comment.Directive

/-!
# Where the comments of a text stand

- `Comment.Extent`: where one comment stands.
- `Comment.Comments`: where all comments stand, read from left to right; `Comment.Comments.unique`
  says that there is only one such reading.
- `Comment.Extent.IsBlanked`: which comments lose their interior.
- `Comment.Comments.congr`: the reading from a place on depends on nothing in front of it.
-/

namespace MarkdownCheck.Comment

/-- Where a comment stands: the place of its opener, and of its closer if it has one. -/
structure Extent where
  start : Nat
  stop : Option Nat

namespace Extent

variable {text other : Text} {cursor start stop : Nat} {extent : Extent}

/-- The place behind the interior. A comment without a closer runs to the end of the text. -/
def interiorEnd (text : Text) (extent : Extent) : Nat :=
  extent.stop.getD text.length

/-- What stands between the opener and the closer, nothing if they share dashes. -/
def interior (text : Text) (extent : Extent) : Text :=
  Text.between (extent.start + opener.length) (extent.interiorEnd text) text

/-- A place lies in the interior. -/
def Holds (text : Text) (extent : Extent) (place : Nat) : Prop :=
  extent.start + opener.length ≤ place ∧ place < extent.interiorEnd text

/-- A comment that is blanked. Its interior is well formed; if it is closed, it is no directive as a
whole, and if not, it is not blanked already. -/
def IsBlanked (text : Text) (extent : Extent) : Prop :=
  WellFormed (extent.interior text) ∧
    match extent.stop with
    | some stop =>
      ¬ Pattern.inlineDirective.MatchesAll
        (Text.between extent.start (stop + closer.length) text)
    | none => ¬ AlreadyBlanked (extent.interior text)

theorem interior_closed (text : Text) (start stop : Nat) :
    (⟨start, some stop⟩ : Extent).interior text =
      Text.between (start + opener.length) stop text :=
  rfl

theorem interior_unclosed (text : Text) (start : Nat) :
    (⟨start, none⟩ : Extent).interior text = text.drop (start + opener.length) :=
  Text.between_length _ _

theorem getElem?_interior {place : Nat} (h : extent.Holds text place) :
    (extent.interior text)[place - (extent.start + opener.length)]? = text[place]? :=
  Text.getElem?_between_sub h.1 h.2 text

theorem mem_interior_iff {c : Char} :
    c ∈ extent.interior text ↔ ∃ place, extent.Holds text place ∧ text[place]? = some c := by
  rw [List.mem_iff_getElem?]
  constructor
  · rintro ⟨k, hk⟩
    rw [interior, Text.getElem?_between] at hk
    split at hk
    · next hlt => exact ⟨_, ⟨Nat.le_add_right _ _, hlt⟩, hk⟩
    · cases hk
  · rintro ⟨place, hholds, hc⟩
    exact ⟨_, (getElem?_interior hholds).trans hc⟩

theorem isBlanked_closed : (⟨start, some stop⟩ : Extent).IsBlanked text ↔
    WellFormed (Text.between (start + opener.length) stop text) ∧
      ¬ Pattern.inlineDirective.MatchesAll (Text.between start (stop + closer.length) text) :=
  Iff.rfl

theorem isBlanked_unclosed : (⟨start, none⟩ : Extent).IsBlanked text ↔
    WellFormed (text.drop (start + opener.length)) ∧
      ¬ AlreadyBlanked (text.drop (start + opener.length)) := by
  rw [← interior_unclosed]
  exact Iff.rfl

/-- A closed comment stands in front of another. -/
def Before (extent other : Extent) : Prop :=
  ∃ stop, extent.stop = some stop ∧ extent.start ≤ stop ∧ stop + closer.length ≤ other.start

/-- A place of a comment or of its delimiters. -/
def Covers (extent : Extent) (place : Nat) : Prop :=
  extent.start ≤ place ∧
    (place < extent.start + opener.length ∨
      ∀ stop, extent.stop = some stop → place < stop + closer.length)

/-- An interior that is not empty lies between the delimiters. -/
theorem lt_of_interior_ne_nil (h : (⟨start, some stop⟩ : Extent).interior text ≠ []) :
    start + opener.length < stop := by
  refine Nat.lt_of_not_le fun hle => h ?_
  rw [interior_closed, Text.between_eq_take_drop, Nat.sub_eq_zero_of_le hle, List.take_zero]

/-! ## Texts that agree from a place on -/

theorem interiorEnd_congr (h : Text.AgreeFrom cursor text other) :
    extent.interiorEnd other = extent.interiorEnd text := by
  rw [interiorEnd, interiorEnd, h.length_eq]

theorem holds_congr (h : Text.AgreeFrom cursor text other) (place : Nat) :
    extent.Holds other place ↔ extent.Holds text place := by
  rw [Holds, Holds, interiorEnd_congr h]

theorem interior_congr (h : Text.AgreeFrom cursor text other) (hle : cursor ≤ extent.start) :
    extent.interior other = extent.interior text := by
  rw [interior, interior, interiorEnd_congr h,
    h.between_eq (Nat.le_trans hle (Nat.le_add_right _ _))]

theorem isBlanked_congr (h : Text.AgreeFrom cursor text other) (hle : cursor ≤ extent.start) :
    extent.IsBlanked other ↔ extent.IsBlanked text := by
  obtain ⟨start, _ | stop⟩ := extent
  · rw [isBlanked_unclosed, isBlanked_unclosed, ← interior_unclosed, ← interior_unclosed,
      interior_congr h hle]
  · rw [isBlanked_closed, isBlanked_closed, ← interior_closed, ← interior_closed,
      interior_congr h hle, h.between_eq hle]

end Extent

/-! ## All comments of a text -/

/-- Where the comments of a text stand from a place on. An opener is the first from there on, and
its closer the first from the opener's own start on, so they may share dashes. The search goes on
behind the closer. -/
inductive Comments (text : Text) : Nat → List Extent → Prop
  | finished {cursor : Nat} (hopen : ∀ place, cursor ≤ place → ¬ Text.StandsAt opener text place) :
    Comments text cursor []
  | unclosed {cursor start : Nat} (hopen : Text.IsFirst opener text cursor start)
    (hclose : ∀ place, start ≤ place → ¬ Text.StandsAt closer text place) :
    Comments text cursor [⟨start, none⟩]
  | closed {cursor start stop : Nat} {rest : List Extent}
    (hopen : Text.IsFirst opener text cursor start) (hclose : Text.IsFirst closer text start stop)
    (hrest : Comments text (stop + closer.length) rest) :
    Comments text cursor (⟨start, some stop⟩ :: rest)

namespace Comments

variable {text other : Text} {cursor : Nat} {extents : List Extent}

/-- Comments stand behind the place from which they are read. -/
theorem le_start (h : Comments text cursor extents) {extent : Extent} (he : extent ∈ extents) :
    cursor ≤ extent.start := by
  induction h with
  | finished => cases he
  | unclosed hopen =>
    obtain rfl := List.mem_singleton.mp he
    exact hopen.start_le
  | closed hopen hclose _ ih =>
    rcases List.mem_cons.mp he with rfl | he
    · exact hopen.start_le
    · exact Nat.le_trans hopen.start_le
        (Nat.le_trans hclose.start_le (Nat.le_trans (Nat.le_add_right _ _) (ih he)))

/-- A closer stands inside the text. -/
theorem stop_le (h : Comments text cursor extents) {extent : Extent} (he : extent ∈ extents)
    {stop : Nat} (hstop : extent.stop = some stop) : stop + closer.length ≤ text.length := by
  induction h with
  | finished => cases he
  | unclosed =>
    obtain rfl := List.mem_singleton.mp he
    cases hstop
  | closed _ hclose _ ih =>
    rcases List.mem_cons.mp he with rfl | he
    · obtain rfl := Option.some.inj hstop
      exact hclose.stands.le_length nofun
    · exact ih he

/-- Of two comments one stands in front of the other. -/
theorem eq_or_before (h : Comments text cursor extents) {extent other : Extent}
    (he : extent ∈ extents) (ho : other ∈ extents) :
    extent = other ∨ extent.Before other ∨ other.Before extent := by
  induction h with
  | finished => cases he
  | unclosed =>
    rw [List.mem_singleton.mp he, List.mem_singleton.mp ho]
    exact .inl rfl
  | closed _ hclose hrest ih =>
    rcases List.mem_cons.mp he with rfl | he <;> rcases List.mem_cons.mp ho with rfl | ho
    · exact .inl rfl
    · exact .inr (.inl ⟨_, rfl, hclose.start_le, hrest.le_start ho⟩)
    · exact .inr (.inr ⟨_, rfl, hclose.start_le, hrest.le_start he⟩)
    · exact ih he ho

/-- Only the last comment may run to the end. -/
theorem eq_of_stop_eq_none (h : Comments text cursor extents) {extent other : Extent}
    (he : extent ∈ extents) (ho : other ∈ extents) (hstop : extent.stop = none)
    (hstop' : other.stop = none) : extent = other := by
  rcases h.eq_or_before he ho with heq | ⟨stop, hsome, -⟩ | ⟨stop, hsome, -⟩
  · exact heq
  · cases hstop.symm.trans hsome
  · cases hstop'.symm.trans hsome

/-- No interior reaches into another comment. -/
theorem eq_of_covers_of_holds (h : Comments text cursor extents) {extent other : Extent}
    (he : extent ∈ extents) (ho : other ∈ extents) {place : Nat} (hcovers : extent.Covers place)
    (hholds : other.Holds text place) : extent = other := by
  obtain ⟨hstart, hplace⟩ := hcovers
  obtain ⟨hinside, hend⟩ := hholds
  simp only [opener, closer, List.length_cons, List.length_nil] at hplace hinside
  rcases h.eq_or_before he ho with heq | ⟨stop, hstop, hle, hbefore⟩ | ⟨stop, hstop, hle, hbefore⟩
  · exact heq
  · -- the interior lies behind the closer of this comment, which ends behind its opener
    have hclosed := hplace.imp_right fun hall => hall stop hstop
    simp only [closer, List.length_cons, List.length_nil] at hbefore
    omega
  · -- the interior ends in front of this comment
    rw [Extent.interiorEnd, hstop, Option.getD_some] at hend
    omega

/-- There is only one reading. -/
theorem unique (h : Comments text cursor extents) {others : List Extent}
    (h' : Comments text cursor others) : others = extents := by
  induction h generalizing others with
  | finished hnone =>
    cases h' with
    | finished => rfl
    | unclosed hopen | closed hopen => exact absurd hopen.stands (hnone _ hopen.start_le)
  | unclosed hopen hnone =>
    cases h' with
    | finished hnone' => exact absurd hopen.stands (hnone' _ hopen.start_le)
    | unclosed hopen' => rw [hopen.unique hopen']
    | closed hopen' hclose' =>
      rw [hopen.unique hopen'] at hnone
      exact absurd hclose'.stands (hnone _ hclose'.start_le)
  | closed hopen hclose _ ih =>
    cases h' with
    | finished hnone' => exact absurd hopen.stands (hnone' _ hopen.start_le)
    | unclosed hopen' hnone' =>
      rw [hopen'.unique hopen] at hnone'
      exact absurd hclose.stands (hnone' _ hclose.start_le)
    | closed hopen' hclose' hrest' =>
      obtain rfl := hopen.unique hopen'
      obtain rfl := hclose.unique hclose'
      rw [ih hrest']

/-- Only what stands behind the place is read. -/
theorem congr (h : Comments other cursor extents) {place : Nat}
    (hagree : Text.AgreeFrom place text other) (hle : place ≤ cursor) :
    Comments text cursor extents := by
  induction h with
  | finished hopen =>
    refine .finished fun earlier hcursor => ?_
    rw [← hagree.standsAt_iff (Nat.le_trans hle hcursor)]
    exact hopen earlier hcursor
  | unclosed hopen hclose =>
    refine .unclosed (hagree.isFirst hle hopen) fun later hstart => ?_
    rw [← hagree.standsAt_iff (Nat.le_trans hle (Nat.le_trans hopen.start_le hstart))]
    exact hclose later hstart
  | closed hopen hclose _ ih =>
    have hstart := Nat.le_trans hle hopen.start_le
    refine .closed (hagree.isFirst hle hopen) (hagree.isFirst hstart hclose) (ih ?_)
    exact Nat.le_trans hstart (Nat.le_trans hclose.start_le (Nat.le_add_right _ _))

end Comments

end MarkdownCheck.Comment
