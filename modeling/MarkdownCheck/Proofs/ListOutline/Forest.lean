import MarkdownCheck.ListOutline

/-!
# The forest of a token stream

Lists nest: an opening token starts a list and the next closing token that nothing else has taken
ends it.

- `ListForest`: a stream read in that way. A value holds the proofs that its tokens are of the right
  kinds, so each is the reading of exactly one stream, its `ListForest.tokens`.
- `ListForest.tokens_injective`: no stream has two readings.
- `ListForest.preorder`: the lists of a forest, every list before those inside it, each described by
  its place in the forest and by the tokens before it.
- `ListForest.flatMap_items_entries`: every item stands in exactly one list.
- `ListForest.exists_entry`, `ListForest.getElem?_entries`: the list that a given token of the
  stream opens.
-/

namespace MarkdownCheck

/-! ## Kinds of tokens -/

namespace Token

variable {token : Token}

/-- Neither opens nor closes a list, nor opens an item. -/
def isContent (token : Token) : Bool :=
  !(token.opensList || token.closesList || token.opensItem)

theorem closesList_of_opensList (h : token.opensList = true) : token.closesList = false := by
  simp only [opensList, Bool.or_eq_true, decide_eq_true_eq] at h
  rcases h with h | h <;> simp [closesList, h]

theorem opensList_of_closesList (h : token.closesList = true) : token.opensList = false := by
  simp only [closesList, Bool.or_eq_true, decide_eq_true_eq] at h
  rcases h with h | h <;> simp [opensList, h]

theorem opensItem_of_opensList (h : token.opensList = true) : token.opensItem = false := by
  simp only [opensList, Bool.or_eq_true, decide_eq_true_eq] at h
  rcases h with h | h <;> simp [opensItem, h]

theorem opensItem_of_closesList (h : token.closesList = true) : token.opensItem = false := by
  simp only [closesList, Bool.or_eq_true, decide_eq_true_eq] at h
  rcases h with h | h <;> simp [opensItem, h]

end Token

/-- The opening tokens of what is open behind a stretch of tokens, innermost first. `around` is open
before it. -/
def openAfter (opens closes : Token → Bool) (around tokens : List Token) : List Token :=
  tokens.foldl (fun around token =>
    if opens token then token :: around else if closes token then around.tail else around) around

section

variable {opens closes : Token → Bool} {around : List Token}

@[simp] theorem openAfter_append (front behind : List Token) :
    openAfter opens closes around (front ++ behind) =
      openAfter opens closes (openAfter opens closes around front) behind :=
  List.foldl_append

theorem openAfter_cons (token : Token) (rest : List Token) :
    openAfter opens closes around (token :: rest) =
      openAfter opens closes (openAfter opens closes around [token]) rest :=
  openAfter_append [token] rest

variable {token : Token}

theorem openAfter_of_opens (h : opens token = true) :
    openAfter opens closes around [token] = token :: around :=
  if_pos h

theorem openAfter_of_closes (hopens : opens token = false) (h : closes token = true) :
    openAfter opens closes around [token] = around.tail := by
  simp [openAfter, hopens, h]

theorem openAfter_of_other (hopens : opens token = false) (hcloses : closes token = false) :
    openAfter opens closes around [token] = around := by
  simp [openAfter, hopens, hcloses]

end

/-- Where the last content token with lines ends, 1 if a stream has none. -/
def lastStop (tokens : List Token) : Int :=
  (((tokens.filter Token.isContent).filterMap (·.range)).getLast?.map (·.stop)).getD 1

@[simp] theorem lastStop_nil : lastStop [] = 1 := rfl

/-- Content with lines decides where a stream ends that it comes last in. -/
theorem lastStop_append_content {tokens : List Token} {token : Token}
    (h : token.isContent = true) :
    lastStop (tokens ++ [token]) = (token.range.map (·.stop)).getD (lastStop tokens) := by
  cases hr : token.range with
  | none => simp [lastStop, List.filter_append, h, hr]
  | some range => simp [lastStop, List.filter_append, h, hr]

/-- Other tokens do not count. -/
theorem lastStop_append_other {tokens : List Token} {token : Token}
    (h : token.isContent = false) : lastStop (tokens ++ [token]) = lastStop tokens := by
  simp [lastStop, List.filter_append, h]

/-! ## Forests -/

/-- A stream read as a forest: what comes first, and what follows it on the same level. -/
inductive ListForest where
  /-- Nothing is left on this level. -/
  | done
  /-- A token that neither opens nor closes a list. -/
  | other (token : Token) (opens : token.opensList = false) (closes : token.closesList = false)
    (rest : ListForest)
  /-- A list, from its opening token to its closing token. -/
  | list (opening : Token) (opens : opening.opensList = true) (inside : ListForest)
    (closing : Token) (closes : closing.closesList = true) (rest : ListForest)

namespace ListForest

/-- The stream that a forest is the reading of. -/
def tokens : ListForest → List Token
  | done => []
  | other token _ _ rest => token :: rest.tokens
  | list opening _ inside closing _ rest =>
    opening :: (inside.tokens ++ closing :: rest.tokens)

/-- The tokens of this level that open items, in order. -/
def items : ListForest → List Token
  | done => []
  | other token _ _ rest => if token.opensItem then token :: rest.items else rest.items
  | list _ _ _ _ _ rest => rest.items

/-- One forest, then another. -/
def append : ListForest → ListForest → ListForest
  | done, next => next
  | other token opens closes rest, next => other token opens closes (rest.append next)
  | list opening opens inside closing closes rest, next =>
    list opening opens inside closing closes (rest.append next)

@[simp] theorem tokens_append (forest next : ListForest) :
    (forest.append next).tokens = forest.tokens ++ next.tokens := by
  induction forest with
  | done => rfl
  | other token opens closes rest ih => simp [append, tokens, ih]
  | list opening opens inside closing closes rest _ ih => simp [append, tokens, ih]

@[simp] theorem items_append (forest next : ListForest) :
    (forest.append next).items = forest.items ++ next.items := by
  induction forest with
  | done => rfl
  | other token opens closes rest ih => cases hi : token.opensItem <;> simp [append, items, ih, hi]
  | list opening opens inside closing closes rest _ ih => simp [append, items, ih]

/-! ## No stream has two readings -/

/-- A stream at which a level ends: it is over, or a list is closed that was not opened on it. -/
def EndsLevel : List Token → Prop
  | [] => True
  | token :: _ => token.closesList = true

/-- A level and the place where it ends are determined by the stream. -/
theorem eq_of_tokens_append_eq {forest other : ListForest} {rest rest' : List Token}
    (hr : EndsLevel rest) (hr' : EndsLevel rest')
    (h : forest.tokens ++ rest = other.tokens ++ rest') : forest = other ∧ rest = rest' := by
  induction forest generalizing other rest rest' with
  | done =>
    cases other with
    | done => exact ⟨rfl, h⟩
    | other token _ closes _ =>
      subst h
      exact absurd hr (by simp [tokens, EndsLevel, closes])
    | list opening opens _ _ _ _ =>
      subst h
      exact absurd hr (by simp [tokens, EndsLevel, Token.closesList_of_opensList opens])
  | other token opens closes next ih =>
    cases other with
    | done =>
      subst h
      exact absurd hr' (by simp [tokens, EndsLevel, closes])
    | other token' _ _ next' =>
      obtain ⟨rfl, htail⟩ := List.cons.inj h
      obtain ⟨rfl, rfl⟩ := ih hr hr' htail
      exact ⟨rfl, rfl⟩
    | list opening opens' _ _ _ _ =>
      obtain ⟨rfl, -⟩ := List.cons.inj h
      exact absurd opens' (by simp [opens])
  | list opening opens inside closing closes next ihInside ihNext =>
    cases other with
    | done =>
      subst h
      exact absurd hr' (by simp [tokens, EndsLevel, Token.closesList_of_opensList opens])
    | other token opens' _ _ =>
      obtain ⟨rfl, -⟩ := List.cons.inj h
      exact absurd opens (by simp [opens'])
    | list opening' _ inside' closing' closes' next' =>
      simp only [tokens, List.cons_append, List.append_assoc, List.cons.injEq] at h
      obtain ⟨rfl, hinner⟩ := h
      -- the closing tokens end the two inner levels, so these are equal first
      have hends : EndsLevel (closing :: (next.tokens ++ rest)) := closes
      have hends' : EndsLevel (closing' :: (next'.tokens ++ rest')) := closes'
      obtain ⟨rfl, hclosing⟩ := ihInside hends hends' hinner
      obtain ⟨rfl, hnext⟩ := List.cons.inj hclosing
      obtain ⟨rfl, rfl⟩ := ihNext hr hr' hnext
      exact ⟨rfl, rfl⟩

/-- No stream has two readings. -/
theorem tokens_injective {forest other : ListForest} (h : forest.tokens = other.tokens) :
    forest = other := by
  have hends : EndsLevel [] := trivial
  have htokens : forest.tokens ++ [] = other.tokens ++ [] := by rw [h]
  exact (eq_of_tokens_append_eq hends hends htokens).1

/-! ## The lists of a forest -/

/-- The entry of a list. `around` holds the opening tokens of the lists around it, innermost first,
and `before` the tokens of the stream before its own. -/
def entry (opening : Token) (inside : ListForest) (around before : List Token) : ListEntry where
  isUnordered := opening.opensBullets
  allUnordered := (opening :: around).all Token.opensBullets
  opening := opening
  indent := opening.indent
  parentIndent := (around.head?.map Token.indent).getD 0
  items := inside.items
  depth := around.length
  lastLine := lastStop (before ++ opening :: inside.tokens)
  position := before.countP Token.opensList

/-- The entries of a forest inside the lists that `around` opens, with `before` before it: every
list comes before the lists inside it, and these before what follows it. -/
def entries (around before : List Token) : ListForest → List ListEntry
  | done => []
  | other token _ _ rest => rest.entries around (before ++ [token])
  | list opening _ inside closing _ rest =>
    entry opening inside around before ::
      (inside.entries (opening :: around) (before ++ [opening]) ++
        rest.entries around (before ++ opening :: (inside.tokens ++ [closing])))

/-- The entries of a forest that is a whole stream. -/
def preorder (forest : ListForest) : List ListEntry :=
  forest.entries [] []

@[simp] theorem entries_append (forest next : ListForest) (around before : List Token) :
    (forest.append next).entries around before =
      forest.entries around before ++ next.entries around (before ++ forest.tokens) := by
  induction forest generalizing before with
  | done => simp [append, entries, tokens]
  | other token opens closes rest ih => simp [append, entries, tokens, ih]
  | list opening opens inside closing closes rest _ ih => simp [append, entries, tokens, ih]

/-- A forest closes as many lists as it opens. -/
theorem countP_closesList_tokens (forest : ListForest) :
    forest.tokens.countP Token.closesList = forest.tokens.countP Token.opensList := by
  induction forest with
  | done => rfl
  | other token opens closes rest ih => simp [tokens, opens, closes, ih]
  | list opening opens inside closing closes rest ihInside ih =>
    simp only [tokens, List.countP_cons, List.countP_append, opens, closes,
      Token.closesList_of_opensList opens, Token.opensList_of_closesList closes, ihInside, ih,
      if_true, Bool.false_eq_true, if_false]
    omega

/-- The lists that are open behind a forest are those that are open before it. -/
theorem openAfter_tokens (forest : ListForest) (around : List Token) :
    openAfter Token.opensList Token.closesList around forest.tokens = around := by
  induction forest generalizing around with
  | done => rfl
  | other token opens closes rest ih =>
    rw [tokens, openAfter_cons, openAfter_of_other opens closes, ih]
  | list opening opens inside closing closes rest ihInside ih =>
    rw [tokens, openAfter_cons, openAfter_of_opens opens, openAfter_append, ihInside,
      openAfter_cons, openAfter_of_closes (Token.opensList_of_closesList closes) closes,
      List.tail_cons, ih]

/-- The entries stand in the order in which the stream opens the lists. -/
theorem map_opening_entries (forest : ListForest) (around before : List Token) :
    (forest.entries around before).map (·.opening) = forest.tokens.filter Token.opensList := by
  induction forest generalizing around before with
  | done => rfl
  | other token opens closes rest ih => simp [entries, tokens, opens, ih]
  | list opening opens inside closing closes rest ihInside ih =>
    simp [entries, entry, tokens, opens, Token.opensList_of_closesList closes, ihInside, ih]

@[simp] theorem length_entries (forest : ListForest) (around before : List Token) :
    (forest.entries around before).length = forest.tokens.countP Token.opensList := by
  rw [List.countP_eq_length_filter, ← map_opening_entries forest around before, List.length_map]

/-- The entries are numbered in this order, after the lists that the tokens before them open. -/
theorem map_position_entries (forest : ListForest) (around before : List Token) :
    (forest.entries around before).map (·.position) =
      List.range' (before.countP Token.opensList) (forest.tokens.countP Token.opensList) := by
  induction forest generalizing around before with
  | done => rfl
  | other token opens closes rest ih => simp [entries, tokens, opens, ih]
  | list opening opens inside closing closes rest ihInside ih =>
    have hcount : (opening :: (inside.tokens ++ closing :: rest.tokens)).countP Token.opensList =
        (inside.tokens.countP Token.opensList + rest.tokens.countP Token.opensList) + 1 := by
      simp [opens, Token.opensList_of_closesList closes]
    have hshift : before.countP Token.opensList + (inside.tokens.countP Token.opensList + 1) =
        before.countP Token.opensList + 1 + inside.tokens.countP Token.opensList := by omega
    rw [tokens, hcount, List.range'_succ, ← List.range'_append_1, ← hshift]
    simp [entries, entry, opens, Token.opensList_of_closesList closes, ihInside, ih]

/-- Every item stands in exactly one list, or in none if it stands on the level of the forest. -/
theorem flatMap_items_entries (forest : ListForest) (around before : List Token) :
    ((forest.entries around before).flatMap (·.items) ++ forest.items).Perm
      (forest.tokens.filter Token.opensItem) := by
  induction forest generalizing around before with
  | done => exact List.Perm.refl _
  | other token opens closes rest ih =>
    cases hi : token.opensItem with
    | false => simpa [entries, items, tokens, hi] using ih around (before ++ [token])
    | true =>
      simp only [entries, items, tokens, hi, if_true, List.filter_cons]
      exact List.perm_middle.trans ((ih around (before ++ [token])).cons token)
  | list opening opens inside closing closes rest ihInside ih =>
    have hinside := ihInside (opening :: around) (before ++ [opening])
    have hrest := ih around (before ++ opening :: (inside.tokens ++ [closing]))
    simp only [entries, entry, items, tokens, List.filter_cons, List.filter_append,
      Token.opensItem_of_opensList opens, Token.opensItem_of_closesList closes,
      Bool.false_eq_true, if_false, List.flatMap_cons, List.flatMap_append, List.append_assoc]
    -- the items of the list itself come first in its entry and last in `hinside`
    refine List.Perm.trans ?_ (hinside.append hrest)
    simpa only [List.append_assoc] using List.perm_append_comm.append_right _

/-- The list that a token opens: it has a closing token, its number is that of the lists opened
before, and its entry is that of its place, inside the lists that are open there. -/
theorem exists_entry {forest : ListForest} {seen after : List Token} {token : Token}
    (around before : List Token) (h : forest.tokens = seen ++ token :: after)
    (ho : token.opensList = true) :
    ∃ inside closing rest outer, closing.closesList = true ∧
      after = inside.tokens ++ closing :: rest ∧
      (forest.entries around before)[seen.countP Token.opensList]? =
        some (entry token inside outer (before ++ seen)) ∧
      outer.length + seen.countP Token.closesList =
        around.length + seen.countP Token.opensList ∧
      outer = openAfter Token.opensList Token.closesList around seen := by
  induction forest generalizing around before seen after with
  | done => simp [tokens] at h
  | other first opens closes rest ih =>
    cases seen with
    | nil =>
      obtain ⟨rfl, -⟩ := List.cons.inj h
      simp [opens] at ho
    | cons next seen =>
      obtain ⟨rfl, htail⟩ := List.cons.inj h
      rw [openAfter_cons, openAfter_of_other opens closes]
      simpa [entries, opens, closes] using ih around (before ++ [first]) htail
  | list opening opens inside closing closes rest ihInside ih =>
    cases seen with
    | nil =>
      obtain ⟨rfl, rfl⟩ := List.cons.inj h
      exact ⟨inside, closing, rest.tokens, around, closes, rfl, by simp [entries], rfl, rfl⟩
    | cons next seen =>
      obtain ⟨rfl, htail⟩ := List.cons.inj h
      have hcloses := Token.closesList_of_opensList opens
      rcases List.append_eq_append_iff.mp htail with ⟨between, rfl, hrest⟩ | ⟨between, hin, hrest⟩
      · -- the token stands behind the inside of this list: not its closing token, so after it
        cases between with
        | nil =>
          obtain ⟨rfl, -⟩ := List.cons.inj hrest
          simp [Token.opensList_of_closesList closes] at ho
        | cons next between =>
          obtain ⟨rfl, hafter⟩ := List.cons.inj hrest
          obtain ⟨found, ending, behind, outer, hends, rfl, hfound, hdepth, houter⟩ :=
            ih around (before ++ opening :: (inside.tokens ++ [closing])) hafter
          have hbalance := countP_closesList_tokens inside
          have hopens := Token.opensList_of_closesList closes
          refine ⟨found, ending, behind, outer, hends, rfl, ?_, ?_, ?_⟩
          · rw [entries, List.countP_cons_of_pos opens, List.getElem?_cons_succ,
              List.countP_append, List.countP_cons_of_neg (by simp [hopens]),
              List.getElem?_append_right (by simp), length_entries, Nat.add_sub_cancel_left]
            simpa using hfound
          · simp only [List.countP_cons, List.countP_append, opens, closes, hopens, hcloses,
              if_true, Bool.false_eq_true, if_false]
            omega
          · rw [houter, openAfter_cons opening, openAfter_of_opens opens, openAfter_append,
              openAfter_tokens, openAfter_cons closing, openAfter_of_closes hopens closes,
              List.tail_cons]
      · -- the token stands inside this list
        cases between with
        | nil =>
          obtain ⟨rfl, -⟩ := List.cons.inj hrest
          simp [Token.opensList_of_closesList closes] at ho
        | cons next between =>
          obtain ⟨rfl, rfl⟩ := List.cons.inj hrest
          obtain ⟨found, ending, behind, outer, hends, rfl, hfound, hdepth, houter⟩ :=
            ihInside (opening :: around) (before ++ [opening]) hin
          refine ⟨found, ending, behind ++ closing :: rest.tokens, outer, hends, by simp, ?_, ?_,
            ?_⟩
          · rw [entries, List.countP_cons_of_pos opens, List.getElem?_cons_succ,
              List.getElem?_append_left (List.getElem?_eq_some_iff.mp hfound).1]
            simpa using hfound
          · simp only [List.countP_cons, opens, hcloses, if_true, Bool.false_eq_true, if_false]
            simp only [List.length_cons] at hdepth
            omega
          · rw [houter, openAfter_cons opening, openAfter_of_opens opens]

/-- The list that a token opens: its number is that of the lists opened before, its depth the number
of lists that are open at that moment. -/
theorem getElem?_entries {forest : ListForest} {seen after : List Token} {token : Token}
    (around before : List Token) (h : forest.tokens = seen ++ token :: after)
    (ho : token.opensList = true) :
    ∃ entry, (forest.entries around before)[seen.countP Token.opensList]? = some entry ∧
      entry.opening = token ∧
      entry.depth + seen.countP Token.closesList =
        around.length + seen.countP Token.opensList := by
  obtain ⟨inside, closing, rest, outer, -, -, hentry, hdepth, -⟩ := exists_entry around before h ho
  exact ⟨_, hentry, rfl, hdepth⟩

end ListForest

end MarkdownCheck
