import MarkdownCheck.Proofs.Comment.Clear

/-!
# Clearing a text part by part

The search for comments runs by positions in one text. The same result can be put together from the
parts of the text: what stands in front of the first comment, the comment, and the text behind it,
which is cleared as if it were a text of its own.

- `Comment.clearFrom_append_left`: what has been read plays no part.
- `Comment.clearedBody`, `Comment.clearedTail`: one comment, closed or not.
- `Comment.clear_of_cut_eq_none`, `Comment.clear_of_unclosed`, `Comment.clear_of_closed`: a cleared
  text by its first comment.
- `Comment.comments_rec`: a text is read comment by comment.
-/

namespace MarkdownCheck.Comment

/-! ## One step of the search -/

section

variable {text : Text} {cursor start stop : Nat}

theorem clearFrom_of_finished (hopen : Text.findFrom? opener cursor text = none) :
    clearFrom cursor text = text := by
  rw [clearFrom]
  split
  · rfl
  · next hsome => cases hopen.symm.trans hsome

theorem clearFrom_of_unclosed (hopen : Text.findFrom? opener cursor text = some start)
    (hclose : Text.findFrom? closer start text = none) :
    clearFrom cursor text = clearUnclosed start text := by
  rw [clearFrom]
  split
  · next hnone => cases hopen.symm.trans hnone
  · next hsome =>
    obtain rfl := Option.some.inj (hopen.symm.trans hsome)
    split
    · rfl
    · next hsome => cases hclose.symm.trans hsome

theorem clearFrom_of_closed (hopen : Text.findFrom? opener cursor text = some start)
    (hclose : Text.findFrom? closer start text = some stop) :
    clearFrom cursor text = clearFrom (stop + closer.length) (clearClosed start stop text) := by
  rw [clearFrom]
  split
  · next hnone => cases hopen.symm.trans hnone
  · next hsome =>
    obtain rfl := Option.some.inj (hopen.symm.trans hsome)
    split
    · next hnone => cases hclose.symm.trans hnone
    · next hsome =>
      obtain rfl := Option.some.inj (hclose.symm.trans hsome)
      rfl

/-- The search may start further on where it skips no opener. -/
theorem clearFrom_eq_of_not_standsAt (hle : cursor ≤ start)
    (h : ∀ place, cursor ≤ place → place < start → ¬ Text.StandsAt opener text place) :
    clearFrom cursor text = clearFrom start text := by
  rw [clearFrom, clearFrom, Text.findFrom?_eq_of_not_standsAt hle h]

end

/-! ## Behind a front -/

section

variable (front text : Text) (start stop : Nat)

theorem blankBetween_append_left :
    blankBetween (front.length + start) (front.length + stop) (front ++ text) =
      front ++ blankBetween start stop text := by
  rw [blankBetween, blankBetween, Text.between_append_left, List.take_length_add_append,
    List.drop_length_add_append, List.append_assoc]

theorem clearClosed_append_left :
    clearClosed (front.length + start) (front.length + stop) (front ++ text) =
      front ++ clearClosed start stop text := by
  simp only [clearClosed, Nat.add_assoc, Text.between_append_left, blankBetween_append_left]
  split <;> rfl

theorem clearUnclosed_append_left :
    clearUnclosed (front.length + start) (front ++ text) = front ++ clearUnclosed start text := by
  simp only [clearUnclosed, Nat.add_assoc, List.take_length_add_append,
    List.drop_length_add_append]
  split
  · rw [List.append_assoc]
  · rfl

/-- What has been read plays no part. -/
theorem clearFrom_append_left (cursor : Nat) :
    clearFrom (front.length + cursor) (front ++ text) = front ++ clearFrom cursor text := by
  have hfind (word : Text) (cursor : Nat) (text : Text) :=
    Text.findFrom?_append_left word front text cursor
  fun_induction clearFrom cursor text with
  | case1 cursor text ho =>
    exact clearFrom_of_finished (by rw [hfind, ho, Option.map_none])
  | case2 cursor text start ho hc =>
    rw [clearFrom_of_unclosed (by rw [hfind, ho, Option.map_some]) (by rw [hfind, hc]; rfl),
      clearUnclosed_append_left]
  | case3 cursor text start ho stop hc ih =>
    rw [clearFrom_of_closed (by rw [hfind, ho, Option.map_some]) (by rw [hfind, hc]; rfl),
      clearClosed_append_left, Nat.add_assoc, ih]

theorem clearFrom_length_append :
    clearFrom front.length (front ++ text) = front ++ clear text :=
  clearFrom_append_left front text 0

end

/-! ## Comments of their own -/

/-- A closed comment in front of its closer, cleared. It may share dashes with the closer, and is
then shorter than its opener. -/
def clearedBody (body : Text) : Text :=
  if isBlankable (body.drop opener.length) && !isDirective (body ++ closer) then
    body.take opener.length ++ blank (body.drop opener.length)
  else body

/-- An interior that runs to the end, cleared. -/
def clearedTail (interior : Text) : Text :=
  if isBlankable interior && !isBlanked interior then blank interior ++ [escapeMark] else interior

theorem clearClosed_zero_append (body behind : Text) :
    clearClosed 0 body.length (body ++ (closer ++ behind)) =
      clearedBody body ++ (closer ++ behind) := by
  have hinside : Text.between opener.length body.length (body ++ (closer ++ behind)) =
      body.drop opener.length := by
    rw [Text.between, List.take_left]
  have hcomment : Text.between 0 (body.length + closer.length) (body ++ (closer ++ behind)) =
      body ++ closer := by
    rw [Text.between, List.take_length_add_append, List.take_left, List.drop_zero]
  simp only [clearClosed, Nat.zero_add, hinside, hcomment, clearedBody]
  split
  · next h =>
    rw [Bool.and_eq_true, ← hinside] at h
    have hlt := lt_of_isBlankable_between h.1
    rw [blankBetween, hinside, List.take_append_of_le_length (Nat.le_of_lt hlt), List.drop_left,
      List.append_assoc]
  · rfl

theorem clearUnclosed_zero_append (interior : Text) :
    clearUnclosed 0 (opener ++ interior) = opener ++ clearedTail interior := by
  simp only [clearUnclosed, Nat.zero_add, List.drop_left, List.take_left, clearedTail]
  split <;> rfl

theorem clearedBody_opener_append (interior : Text) :
    clearedBody (opener ++ interior) =
      opener ++ if isBlankable interior && !isDirective (opener ++ (interior ++ closer)) then
        blank interior
      else interior := by
  rw [clearedBody, List.drop_left, List.take_left, List.append_assoc]
  split <;> rfl

/-- A comment that shares dashes with its closer has no interior. -/
theorem clearedBody_of_prefix {body : Text} (h : body <+: opener) : clearedBody body = body := by
  rw [clearedBody, List.drop_eq_nil_of_le h.length_le]
  rfl

theorem length_clearedBody (body : Text) : (clearedBody body).length = body.length := by
  have hlen := length_clearClosed 0 body.length (body ++ (closer ++ []))
  rw [clearClosed_zero_append] at hlen
  simp only [List.length_append] at hlen
  exact Nat.add_right_cancel hlen

/-! ## The first comment -/

section

variable {text before rest body behind : Text}

theorem findFrom?_zero (word text : Text) :
    Text.findFrom? word 0 text = (Text.cut word text).map (·.1.length) := by
  rw [Text.findFrom?, List.drop_zero]
  simp only [Nat.zero_add]

theorem clear_of_cut_eq_none (h : Text.cut opener text = none) : clear text = text :=
  clearFrom_of_finished (by rw [findFrom?_zero, h, Option.map_none])

/-- What is searched for behind the text in front of the first comment. -/
theorem findFrom?_of_cut (h : Text.cut opener text = some (before, rest)) (word : Text) :
    Text.findFrom? word before.length text =
      (Text.cut word (opener ++ rest)).map (before.length + ·.1.length) := by
  rw [Text.eq_append_of_cut h, Text.findFrom?, List.drop_left]

theorem clear_of_unclosed (hopen : Text.cut opener text = some (before, rest))
    (hclose : Text.cut closer (opener ++ rest) = none) :
    clear text = before ++ (opener ++ clearedTail rest) := by
  have hstart : Text.findFrom? opener 0 text = some before.length := by
    rw [findFrom?_zero, hopen, Option.map_some]
  rw [clear, clearFrom_of_unclosed hstart (by rw [findFrom?_of_cut hopen, hclose, Option.map_none])]
  have hunclosed := clearUnclosed_append_left before (opener ++ rest) 0
  rwa [← Text.eq_append_of_cut hopen, clearUnclosed_zero_append] at hunclosed

theorem clear_of_closed (hopen : Text.cut opener text = some (before, rest))
    (hclose : Text.cut closer (opener ++ rest) = some (body, behind)) :
    clear text = before ++ (clearedBody body ++ (closer ++ clear behind)) := by
  have hstart : Text.findFrom? opener 0 text = some before.length := by
    rw [findFrom?_zero, hopen, Option.map_some]
  have hstop : Text.findFrom? closer before.length text = some (before.length + body.length) := by
    rw [findFrom?_of_cut hopen, hclose, Option.map_some]
  have hcleared : clearClosed before.length (before.length + body.length) text =
      (before ++ (clearedBody body ++ closer)) ++ behind := by
    have hclosed : clearClosed before.length (before.length + body.length) _ = _ :=
      clearClosed_append_left before (opener ++ rest) 0 body.length
    rw [← Text.eq_append_of_cut hopen, Text.eq_append_of_cut hclose,
      clearClosed_zero_append] at hclosed
    rw [hclosed, List.append_assoc, List.append_assoc]
  have hread : before.length + body.length + closer.length =
      (before ++ (clearedBody body ++ closer)).length := by
    rw [List.length_append, List.length_append, length_clearedBody, Nat.add_assoc]
  rw [clear, clearFrom_of_closed hstart hstop, hcleared, hread, clearFrom_length_append,
    List.append_assoc, List.append_assoc]

end

/-- A text is read comment by comment. -/
theorem comments_rec {motive : Text → Prop}
    (plain : ∀ text, Text.cut opener text = none → motive text)
    (unclosed : ∀ text before rest, Text.cut opener text = some (before, rest) →
      Text.cut closer (opener ++ rest) = none → motive text)
    (closed : ∀ text before rest body behind, Text.cut opener text = some (before, rest) →
      Text.cut closer (opener ++ rest) = some (body, behind) → motive behind → motive text)
    (text : Text) : motive text := by
  induction hlen : text.length using Nat.strongRecOn generalizing text with
  | ind n ih =>
    cases hopen : Text.cut opener text with
    | none => exact plain text hopen
    | some found =>
      obtain ⟨before, rest⟩ := found
      cases hclose : Text.cut closer (opener ++ rest) with
      | none => exact unclosed text before rest hopen hclose
      | some found =>
        obtain ⟨body, behind⟩ := found
        refine closed text before rest body behind hopen hclose (ih behind.length ?_ behind rfl)
        have htext := congrArg List.length (Text.eq_append_of_cut hopen)
        have hcomment := congrArg List.length (Text.eq_append_of_cut hclose)
        simp only [List.length_append, closer, List.length_cons, List.length_nil] at htext hcomment
        omega

end MarkdownCheck.Comment
