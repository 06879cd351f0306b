import Mathlib.Data.List.InsertIdx
import MarkdownCheck.Proofs.General
import MarkdownCheck.Proofs.ListOutline.Forest

/-!
# The outline of a stream is the preorder of its forest

Lists are finished innermost first, yet come out in the order in which they open. What links the two
is how a stream has been read so far:

- `Reading`: the forest read on each level that is still open.
- `Outline.Follows`: the state of the outline that belongs to a reading. The lists in a slot's front
  are those of the levels outside, the lists behind it those inside.
- `Outline.Follows.push`, `Outline.Follows.pushAll`: what one token and a whole stream preserve.
- `outline_eq_preorder`: the outline of a stream that has one.
-/

namespace MarkdownCheck

/-! ## Readings -/

/-- How far a stream is read: the forest on the outermost level, and on every level inside it the
list that has opened it. -/
inductive Reading where
  | top (forest : ListForest)
  | within (outside : Reading) (opening : Token) (opens : opening.opensList = true)
    (forest : ListForest)

namespace Reading

/-- The tokens that have been read. -/
def tokens : Reading → List Token
  | top forest => forest.tokens
  | within outside opening _ forest => outside.tokens ++ opening :: forest.tokens

/-- The opening tokens of the lists that are open, innermost first. -/
def around : Reading → List Token
  | top _ => []
  | within outside opening _ _ => opening :: outside.around

/-- The entries of the lists that are closed, as they stand in the end. -/
def closed : Reading → List ListEntry
  | top forest => forest.preorder
  | within outside opening _ forest =>
    outside.closed ++ forest.entries (opening :: outside.around) (outside.tokens ++ [opening])

/-- The entries of the lists that are open, innermost first. Their slots are behind all that is
closed on the levels outside. -/
def stack : Reading → List ListEntry
  | top _ => []
  | within outside opening _ forest =>
    { ListForest.entry opening forest outside.around outside.tokens with
      lastLine := -1
      position := outside.closed.length } :: outside.stack

/-- The items on the outermost level, which belong to no list. -/
def strayItems : Reading → List Token
  | top forest => forest.items
  | within outside _ _ _ => outside.strayItems

/-- A reading with more read on its innermost level. -/
def add : Reading → ListForest → Reading
  | top forest, next => top (forest.append next)
  | within outside opening opens forest, next =>
    within outside opening opens (forest.append next)

@[simp] theorem tokens_add (reading : Reading) (next : ListForest) :
    (reading.add next).tokens = reading.tokens ++ next.tokens := by
  cases reading <;> simp [add, tokens]

@[simp] theorem closed_add (reading : Reading) (next : ListForest) :
    (reading.add next).closed =
      reading.closed ++ next.entries reading.around reading.tokens := by
  cases reading <;> simp [add, closed, around, tokens, ListForest.preorder]

/-- What holds no item leaves the open lists as they are. -/
theorem stack_add {next : ListForest} (h : next.items = []) (reading : Reading) :
    (reading.add next).stack = reading.stack := by
  cases reading <;> simp [add, stack, ListForest.entry, h]

theorem strayItems_add {next : ListForest} (h : next.items = []) (reading : Reading) :
    (reading.add next).strayItems = reading.strayItems := by
  cases reading <;> simp [add, strayItems, h]

/-- A list that opens finds in the stack what it needs to know about the lists around it. -/
theorem start_eq (reading : Reading) {opening : Token} (opens : opening.opensList = true)
    (slot : Nat) (h : slot = reading.closed.length) :
    ListEntry.start opening reading.stack.head? reading.stack.length slot ::
      reading.stack = (within reading opening opens .done).stack := by
  have hlength : ∀ reading : Reading, reading.stack.length = reading.around.length := by
    intro reading
    induction reading with
    | top => rfl
    | within outside opening opens forest ih => simp [stack, around, ih]
  subst h
  cases reading with
  | top forest => rfl
  | within outside parent _ forest =>
    simp [stack, around, ListEntry.start, ListForest.entry, ListForest.items, hlength]

end Reading

/-! ## What the outline does -/

/-- An entry without its position: a list that is closed keeps its slot until the stream ends. -/
def ListEntry.unplaced (entry : ListEntry) : ListEntry :=
  { entry with position := 0 }

/-- The state of an outline after a reading. -/
structure Outline.Follows (outline : Outline) (reading : Reading) : Prop where
  closed : outline.closed.map ListEntry.unplaced = reading.closed.map ListEntry.unplaced
  stack : outline.stack = reading.stack
  lastLine : outline.lastLine = lastStop reading.tokens
  strayItems : reading.strayItems = []

namespace Outline.Follows

variable {outline next : Outline} {reading : Reading}

theorem start : Follows {} (.top .done) where
  closed := rfl
  stack := rfl
  lastLine := rfl
  strayItems := rfl

theorem length_closed (h : Follows outline reading) :
    outline.closed.length = reading.closed.length := by
  simpa using congrArg List.length h.closed

/-- A list that opens starts a level. -/
theorem push_opening (h : Follows outline reading) {token : Token}
    (opens : token.opensList = true) :
    Follows { outline with
        stack := ListEntry.start token outline.stack.head? outline.stack.length
          outline.closed.length :: outline.stack }
      (.within reading token opens .done) where
  closed := by simpa [Reading.closed, ListForest.entries] using h.closed
  stack := by
    show ListEntry.start token outline.stack.head? _ _ :: outline.stack = _
    rw [h.stack]
    exact reading.start_eq opens _ h.length_closed
  lastLine := by
    show outline.lastLine = lastStop (reading.tokens ++ [token])
    rw [lastStop_append_other (by simp [Token.isContent, opens])]
    exact h.lastLine
  strayItems := h.strayItems

/-- A list that closes goes to its slot: in front of the lists inside it, behind all others. -/
theorem push_closing {outside : Reading} {opening token : Token}
    {opens : opening.opensList = true} {forest : ListForest} {current : ListEntry}
    {around : List ListEntry} (h : Follows outline (.within outside opening opens forest))
    (hs : outline.stack = current :: around) (closes : token.closesList = true) :
    Follows { outline with
        stack := around
        closed := outline.closed.insertIdx current.position
          { current with lastLine := outline.lastLine } }
      (outside.add (.list opening opens forest token closes .done)) := by
  obtain ⟨rfl, rfl⟩ := List.cons.inj (hs.symm.trans h.stack)
  -- closing fills in the last line; the slot is not the position yet
  have hentry : ListEntry.unplaced
      { ListForest.entry opening forest outside.around outside.tokens with
        lastLine := outline.lastLine, position := outside.closed.length } =
      (ListForest.entry opening forest outside.around outside.tokens).unplaced := by
    rw [h.lastLine]
    rfl
  refine { closed := ?_, stack := ?_, lastLine := ?_, strayItems := ?_ }
  · show (outline.closed.insertIdx outside.closed.length _).map ListEntry.unplaced = _
    -- the slot parts the lists closed on the levels outside from those inside this list
    rw [List.map_insertIdx, h.closed, hentry, ← List.map_insertIdx]
    rw [Reading.closed, insertIdx_length_append, Reading.closed_add]
    simp [ListForest.entries]
  · exact (outside.stack_add (by rfl)).symm
  · show outline.lastLine = lastStop _
    have htokens : outside.tokens ++ opening :: (forest.tokens ++ [token]) =
        (outside.tokens ++ opening :: forest.tokens) ++ [token] := by simp
    rw [h.lastLine, Reading.tokens_add, ListForest.tokens, ListForest.tokens, htokens,
      lastStop_append_other (by simp [Token.isContent, closes])]
    rfl
  · rw [Reading.strayItems_add (by rfl)]
    exact h.strayItems

/-- An item goes to the innermost list that is open. -/
theorem push_item {outside : Reading} {opening token : Token}
    {opens : opening.opensList = true} {forest : ListForest} {current : ListEntry}
    {around : List ListEntry} (h : Follows outline (.within outside opening opens forest))
    (hs : outline.stack = current :: around) (item : token.opensItem = true)
    (hopens : token.opensList = false) (hcloses : token.closesList = false) :
    Follows { outline with stack := { current with items := current.items ++ [token] } :: around }
      ((Reading.within outside opening opens forest).add (.other token hopens hcloses .done)) := by
  obtain ⟨rfl, rfl⟩ := List.cons.inj (hs.symm.trans h.stack)
  refine { closed := ?_, stack := ?_, lastLine := ?_, strayItems := h.strayItems }
  · simpa [ListForest.entries] using h.closed
  · simp [Reading.add, Reading.stack, ListForest.entry, ListForest.items, item]
  · show outline.lastLine = lastStop _
    rw [h.lastLine, Reading.tokens_add, ListForest.tokens, ListForest.tokens,
      lastStop_append_other (by simp [Token.isContent, item])]

/-- Content moves the end of what has been read and nothing else. -/
theorem push_content (h : Follows outline reading) {token : Token}
    (item : token.opensItem = false) (hopens : token.opensList = false)
    (hcloses : token.closesList = false) :
    Follows { outline with lastLine := (token.range.map (·.stop)).getD outline.lastLine }
      (reading.add (.other token hopens hcloses .done)) := by
  have hitems : (ListForest.other token hopens hcloses .done).items = [] := by
    simp [ListForest.items, item]
  refine { closed := ?_, stack := ?_, lastLine := ?_, strayItems := ?_ }
  · simpa [ListForest.entries] using h.closed
  · rw [Reading.stack_add hitems]
    exact h.stack
  · show _ = lastStop _
    rw [h.lastLine, Reading.tokens_add, ListForest.tokens, ListForest.tokens,
      lastStop_append_content (by simp [Token.isContent, item, hopens, hcloses])]
  · rw [Reading.strayItems_add hitems]
    exact h.strayItems

/-- A list is open exactly when a reading has a level inside another. -/
theorem exists_within (h : Follows outline reading) {current : ListEntry}
    {around : List ListEntry} (hs : outline.stack = current :: around) :
    ∃ outside opening opens forest, reading = .within outside opening opens forest := by
  cases reading with
  | top forest => exact absurd (hs.symm.trans h.stack) (by simp [Reading.stack])
  | within outside opening opens forest => exact ⟨outside, opening, opens, forest, rfl⟩

/-- One token more that the outline takes is one token more of the reading. -/
theorem push (h : Follows outline reading) {token : Token} {position : Nat}
    (hp : outline.push token position = .ok next) :
    ∃ reading', Follows next reading' ∧ reading'.tokens = reading.tokens ++ [token] := by
  unfold Outline.push at hp
  split at hp
  · next opens =>
    obtain rfl := Except.ok.inj hp
    exact ⟨_, h.push_opening opens, rfl⟩
  · next hopens =>
    replace hopens : token.opensList = false := by simpa using hopens
    split at hp
    · next closes =>
      split at hp
      · cases hp
      · next current around hs =>
        obtain ⟨outside, opening, opens, forest, rfl⟩ := h.exists_within hs
        obtain rfl := Except.ok.inj hp
        exact ⟨_, h.push_closing hs closes, by simp [ListForest.tokens, Reading.tokens]⟩
    · next hcloses =>
      replace hcloses : token.closesList = false := by simpa using hcloses
      split at hp
      · next item =>
        split at hp
        · cases hp
        · next current around hs =>
          obtain ⟨outside, opening, opens, forest, rfl⟩ := h.exists_within hs
          obtain rfl := Except.ok.inj hp
          exact ⟨_, h.push_item hs item hopens hcloses, by simp [ListForest.tokens]⟩
      · next item =>
        replace item : token.opensItem = false := by simpa using item
        -- content without lines leaves the end where it is, so both cases have one form
        have hnext : next =
            { outline with lastLine := (token.range.map (·.stop)).getD outline.lastLine } := by
          split at hp <;> next hrange => rw [← Except.ok.inj hp, hrange]; rfl
        subst hnext
        exact ⟨_, h.push_content item hopens hcloses, by simp [ListForest.tokens]⟩

/-- A stream that the outline takes has been read to its end. -/
theorem pushAll (h : Follows outline reading) {tokens : List Token} {position : Nat}
    (hp : outline.pushAll position tokens = .ok next) :
    ∃ reading', Follows next reading' ∧ reading'.tokens = reading.tokens ++ tokens := by
  induction tokens generalizing outline reading position with
  | nil =>
    obtain rfl := Except.ok.inj hp
    exact ⟨reading, h, by simp⟩
  | cons token rest ih =>
    rw [Outline.pushAll] at hp
    split at hp
    · cases hp
    · next middle hm =>
      obtain ⟨reading', h', htokens'⟩ := h.push hm
      obtain ⟨reading'', h'', htokens''⟩ := ih h' hp
      exact ⟨reading'', h'', by simp [htokens'', htokens']⟩

end Outline.Follows

/-! ## The outline of a stream -/

/-- The position of an entry in a preorder is its number. -/
theorem ListForest.position_getElem_preorder (forest : ListForest) {i : Nat}
    (hi : i < forest.preorder.length) : forest.preorder[i].position = i := by
  have hp := List.getElem_of_eq (forest.map_position_entries [] []) (i := i)
    (by simpa [preorder] using hi)
  rw [List.getElem_map, List.getElem_range'] at hp
  simpa [preorder] using hp

/-- Entries that differ from a preorder in their positions at most are the preorder once they are
numbered. -/
theorem ListForest.mapIdx_eq_preorder {forest : ListForest} {entries : List ListEntry}
    (h : entries.map ListEntry.unplaced = forest.preorder.map ListEntry.unplaced) :
    (entries.mapIdx fun position entry => { entry with position := position }) =
      forest.preorder := by
  have hlength : entries.length = forest.preorder.length := by
    simpa using congrArg List.length h
  refine List.ext_getElem (by simpa using hlength) fun i hi hi' => ?_
  have hentry := List.getElem_of_eq h (i := i) (by simpa using hi)
  rw [List.getElem_map, List.getElem_map] at hentry
  have hplaced : ∀ entry : ListEntry, { entry.unplaced with position := i } =
      { entry with position := i } := fun _ => rfl
  have hnumbered : ∀ entry : ListEntry, entry.position = i →
      { entry with position := i } = entry := by
    rintro entry rfl
    rfl
  rw [List.getElem_mapIdx, ← hplaced, hentry, hplaced]
  exact hnumbered _ (forest.position_getElem_preorder hi')

/-- A stream that has an outline is read as a forest without stray items, and the outline is the
preorder of that. -/
theorem exists_forest_of_outline {tokens : List Token} {entries : List ListEntry}
    (h : outline tokens = .ok entries) :
    ∃ forest : ListForest, forest.tokens = tokens ∧ forest.items = [] ∧
      entries = forest.preorder := by
  unfold outline at h
  split at h
  · cases h
  · next final hfinal =>
    obtain ⟨reading, hreading, htokens⟩ := Outline.Follows.start.pushAll hfinal
    rw [Outline.finish, hreading.stack] at h
    cases reading with
    | within outside opening opens forest => cases h
    | top forest =>
      obtain rfl := Except.ok.inj h
      exact ⟨forest, htokens, hreading.strayItems,
        ListForest.mapIdx_eq_preorder hreading.closed⟩

/-- **The outline is the preorder of the forest.** A stream that has an outline has one reading as a
forest, and the outline is the preorder of that: one entry for each opening token, in the order of
the stream and numbered by it, each with the number of lists that are open at that moment as its
depth. Every item of the stream stands in exactly one list. -/
theorem outline_eq_preorder {tokens : List Token} {entries : List ListEntry}
    (h : outline tokens = .ok entries) :
    ∃ forest : ListForest,
      forest.tokens = tokens ∧
      (∀ other : ListForest, other.tokens = tokens → other = forest) ∧
      entries = forest.preorder ∧
      entries.map (·.opening) = tokens.filter Token.opensList ∧
      entries.map (·.position) = List.range entries.length ∧
      (∀ seen token after, tokens = seen ++ token :: after → token.opensList = true →
        ∃ entry, entries[seen.countP Token.opensList]? = some entry ∧
          entry.opening = token ∧
          entry.depth + seen.countP Token.closesList = seen.countP Token.opensList) ∧
      (entries.flatMap (·.items)).Perm (tokens.filter Token.opensItem) := by
  obtain ⟨forest, rfl, hstray, rfl⟩ := exists_forest_of_outline h
  refine ⟨forest, rfl, fun other hother => ListForest.tokens_injective hother, rfl,
    forest.map_opening_entries [] [], ?_, ?_, ?_⟩
  · rw [ListForest.preorder, forest.map_position_entries, ListForest.length_entries,
      List.range_eq_range']
    rfl
  · intro seen token after hsplit ho
    simpa [ListForest.preorder] using forest.getElem?_entries [] [] hsplit ho
  · simpa [ListForest.preorder, hstray] using forest.flatMap_items_entries [] []

/-- A bullet list with an ordered list inside its item, then another list: the list inside closes
first and comes second. -/
theorem outline_eq_preorder_nested :
    let tokens : List Token := [
      { kind := "bullet_list_open" }, { kind := "list_item_open" },
      { kind := "inline", range := some ⟨0, 1⟩ },
      { kind := "ordered_list_open" }, { kind := "list_item_open" },
      { kind := "inline", range := some ⟨1, 2⟩ },
      { kind := "ordered_list_close" }, { kind := "bullet_list_close" },
      { kind := "ordered_list_open" }, { kind := "ordered_list_close" }]
    ∃ entries, ∃ forest : ListForest, outline tokens = .ok entries ∧ forest.tokens = tokens ∧
      entries = forest.preorder ∧ entries.map (·.depth) = [0, 1, 0] ∧
      entries.map (·.allUnordered) = [true, false, false] ∧
      entries.map (·.lastLine) = [2, 2, 2] := by
  intro tokens
  obtain ⟨entries, h⟩ : ∃ entries, outline tokens = .ok entries := ⟨_, rfl⟩
  obtain ⟨forest, htokens, -, hpreorder, -⟩ := outline_eq_preorder h
  obtain rfl := Except.ok.inj h
  exact ⟨_, forest, h, htokens, hpreorder, by decide, by decide, by decide⟩

end MarkdownCheck
