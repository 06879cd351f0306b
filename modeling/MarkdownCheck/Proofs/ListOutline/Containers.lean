import MarkdownCheck.Proofs.General
import MarkdownCheck.Proofs.ListOutline.Balance

/-!
# Streams whose containers nest

Lists, their items and block quotes are containers: what stands between the opening and the closing
token of one is inside it.

- `Nested`: a stream in which containers nest and items stand directly in lists. A condition may be
  asked of the place of every list.
- `openContainers`: the containers that are open at a place, innermost first.
- `Nested.place_of_split`: what holds where a list opens.
- `Nested.exists_outline`, `Nested.exists_entry`: such a stream has an outline, in which every list
  has the indent of the next list around it for its parent's.
-/

namespace MarkdownCheck

/-! ## Containers -/

namespace Token

/-- Opens a block quote. -/
def opensQuote (token : Token) : Bool :=
  token.kind = "blockquote_open"

/-- Closes a block quote. -/
def closesQuote (token : Token) : Bool :=
  token.kind = "blockquote_close"

/-- Closes an item of a list. -/
def closesItem (token : Token) : Bool :=
  token.kind = "list_item_close"

/-- Opens a container. -/
def opensContainer (token : Token) : Bool :=
  token.opensList || token.opensItem || token.opensQuote

/-- Closes a container. -/
def closesContainer (token : Token) : Bool :=
  token.closesList || token.closesItem || token.closesQuote

end Token

/-- The opening tokens of the containers that are open behind a stretch of tokens, innermost
first. -/
def openContainers (around tokens : List Token) : List Token :=
  openAfter Token.opensContainer Token.closesContainer around tokens

/-- The same for lists alone. -/
def openLists (around tokens : List Token) : List Token :=
  openAfter Token.opensList Token.closesList around tokens

/-- What is open has been opened. -/
theorem mem_of_mem_openContainers {around tokens : List Token} {token : Token}
    (h : token ∈ openContainers around tokens) : token ∈ around ∨ token ∈ tokens := by
  induction tokens generalizing around with
  | nil => exact .inl h
  | cons first rest ih =>
    rw [openContainers, openAfter_cons] at h
    rcases ih h with h | h
    · rw [openAfter, List.foldl_cons, List.foldl_nil] at h
      split at h
      · rcases List.mem_cons.mp h with rfl | h
        · exact .inr List.mem_cons_self
        · exact .inl h
      · split at h
        · exact .inl (List.mem_of_mem_tail h)
        · exact .inl h
    · exact .inr (List.mem_cons_of_mem _ h)

/-- A container may stand inside those of `around`: a quote anywhere, an item directly in a list, a
list where `Fits` holds. The closing token belongs to the opening one. -/
inductive Encloses (Fits : List Token → Token → Prop) :
    List Token → Token → Token → Prop where
  | quote {around : List Token} {opening closing : Token} (opens : opening.opensQuote = true)
      (closes : closing.closesQuote = true) : Encloses Fits around opening closing
  | item {list : Token} {outer : List Token} {opening closing : Token}
      (within : list.opensList = true) (opens : opening.opensItem = true)
      (closes : closing.closesItem = true) : Encloses Fits (list :: outer) opening closing
  | list {around : List Token} {opening closing : Token} (opens : opening.opensList = true)
      (closes : closing.closesList = true) (fits : Fits around opening) :
      Encloses Fits around opening closing

/-- Containers nest in a stream that stands inside those of `around`. -/
inductive Nested (Fits : List Token → Token → Prop) : List Token → List Token → Prop where
  | nil {around : List Token} : Nested Fits around []
  | leaf {around rest : List Token} {token : Token} (opens : token.opensContainer = false)
      (closes : token.closesContainer = false) (hrest : Nested Fits around rest) :
      Nested Fits around (token :: rest)
  | container {around inside rest : List Token} {opening closing : Token}
      (h : Encloses Fits around opening closing) (hinside : Nested Fits (opening :: around) inside)
      (hrest : Nested Fits around rest) :
      Nested Fits around (opening :: (inside ++ closing :: rest))

variable {Fits : List Token → Token → Prop}

namespace Token

/-- Every container has a closing token of a kind of its own. -/
theorem opensContainer_of_closesContainer {token : Token} (h : token.closesContainer = true) :
    token.opensContainer = false := by
  simp only [closesContainer, closesList, closesItem, closesQuote, Bool.or_eq_true,
    decide_eq_true_eq] at h
  rcases h with ((h | h) | h) | h <;> simp [opensContainer, opensList, opensItem, opensQuote, h]

/-- Tokens of quotes and the ends of items say nothing of lists. -/
theorem isContent_of_kind {token : Token}
    (h : token.opensQuote = true ∨ token.closesQuote = true ∨ token.closesItem = true) :
    token.isContent = true := by
  simp only [opensQuote, closesQuote, closesItem, decide_eq_true_eq] at h
  rcases h with h | h | h <;> simp [isContent, opensList, closesList, opensItem, h]

theorem isContent_of_leaf {token : Token} (hopens : token.opensContainer = false)
    (hcloses : token.closesContainer = false) : token.isContent = true := by
  simp only [opensContainer, closesContainer, Bool.or_eq_false_iff] at hopens hcloses
  simp [isContent, hopens, hcloses]

theorem isContent_iff {token : Token} : token.isContent = true ↔
    token.opensList = false ∧ token.closesList = false ∧ token.opensItem = false := by
  simp [isContent, and_assoc]

theorem lists_of_opensItem {token : Token} (h : token.opensItem = true) :
    token.opensList = false ∧ token.closesList = false := by
  simp only [opensItem, decide_eq_true_eq] at h
  simp [opensList, closesList, h]

end Token

namespace Encloses

variable {around : List Token} {opening closing : Token} (h : Encloses Fits around opening closing)

include h

theorem opensContainer_opening : opening.opensContainer = true := by
  cases h with
  | quote opens => simp [Token.opensContainer, opens]
  | item within opens => simp [Token.opensContainer, opens]
  | list opens => simp [Token.opensContainer, opens]

/-- The condition holds of a list. -/
theorem fits (opens : opening.opensList = true) : Fits around opening := by
  cases h with
  | quote quoted =>
    obtain ⟨hopens, -⟩ := Token.isContent_iff.mp (Token.isContent_of_kind (.inl quoted))
    rw [opens] at hopens
    cases hopens
  | item _ item =>
    rw [Token.opensItem_of_opensList opens] at item
    cases item
  | list _ _ fits => exact fits

theorem closesContainer_closing : closing.closesContainer = true := by
  cases h with
  | quote _ closes => simp [Token.closesContainer, closes]
  | item _ _ closes => simp [Token.closesContainer, closes]
  | list _ closes => simp [Token.closesContainer, closes]

theorem opensContainer_closing : closing.opensContainer = false :=
  Token.opensContainer_of_closesContainer h.closesContainer_closing

theorem closing_ne {token : Token} (opens : token.opensList = true) : closing ≠ token := by
  rintro rfl
  have hcloses := h.opensContainer_closing
  simp [Token.opensContainer, opens] at hcloses

end Encloses

namespace Nested

variable {around tokens : List Token}

theorem append {first second : List Token} (hfirst : Nested Fits around first)
    (hsecond : Nested Fits around second) : Nested Fits around (first ++ second) := by
  induction hfirst with
  | nil => exact hsecond
  | leaf opens closes _ ih => exact .leaf opens closes (ih hsecond)
  | @container around inside rest opening closing h hinside _ _ ih =>
    rw [List.cons_append, List.append_assoc, List.cons_append]
    exact .container h hinside (ih hsecond)

/-- A container by itself. -/
theorem wrap {inside : List Token} {opening closing : Token}
    (h : Encloses Fits around opening closing) (hinside : Nested Fits (opening :: around) inside) :
    Nested Fits around (opening :: (inside ++ [closing])) :=
  .container h hinside .nil

theorem leaves
    (h : ∀ token ∈ tokens, token.opensContainer = false ∧ token.closesContainer = false) :
    Nested Fits around tokens := by
  induction tokens with
  | nil => exact .nil
  | cons token rest ih =>
    obtain ⟨⟨opens, closes⟩, hrest⟩ := List.forall_mem_cons.mp h
    exact .leaf opens closes (ih hrest)

/-! ## What is open -/

/-- Behind a nested stream the containers are open that are open before it. -/
theorem openContainers_eq (h : Nested Fits around tokens) :
    openContainers around tokens = around := by
  rw [openContainers]
  induction h with
  | nil => rfl
  | leaf opens closes _ ih => rw [openAfter_cons, openAfter_of_other opens closes, ih]
  | container h _ _ ihInside ih =>
    rw [openAfter_cons, openAfter_of_opens h.opensContainer_opening, openAfter_append, ihInside,
      openAfter_cons, openAfter_of_closes h.opensContainer_closing h.closesContainer_closing,
      List.tail_cons, ih]

/-! ## Reading as a forest -/

/-- A nested stream is a forest, with no items on the outermost level unless that is in a list. -/
theorem exists_forest (h : Nested Fits around tokens) :
    ∃ forest : ListForest, forest.tokens = tokens ∧
      ((∀ list ∈ around.head?, list.opensList = false) → forest.items = []) := by
  induction h with
  | nil => exact ⟨.done, rfl, fun _ => rfl⟩
  | @leaf around rest token opens closes _ ih =>
    obtain ⟨forest, rfl, hitems⟩ := ih
    obtain ⟨hopens, hcloses, hitem⟩ :=
      Token.isContent_iff.mp (Token.isContent_of_leaf opens closes)
    exact ⟨.other token hopens hcloses forest, rfl, fun hat => by
      simp [ListForest.items, hitem, hitems hat]⟩
  | @container around inside rest opening closing h _ _ ihInside ih =>
    obtain ⟨inner, rfl, hinner⟩ := ihInside
    obtain ⟨forest, rfl, hitems⟩ := ih
    cases h with
    | list opens closes fits =>
      exact ⟨.list opening opens inner closing closes forest, rfl, hitems⟩
    | quote opens closes =>
      obtain ⟨hopens, hcloses, hitem⟩ :=
        Token.isContent_iff.mp (Token.isContent_of_kind (.inl opens))
      obtain ⟨hopens', hcloses', hitem'⟩ :=
        Token.isContent_iff.mp (Token.isContent_of_kind (.inr (.inl closes)))
      have hinner := hinner fun list hlist => Option.some.inj hlist ▸ hopens
      refine ⟨.other opening hopens hcloses (inner.append (.other closing hopens' hcloses' forest)),
        by simp [ListForest.tokens], fun hat => ?_⟩
      simp [ListForest.items, hitem, hitem', hitems hat, hinner]
    | item within opens closes =>
      obtain ⟨hopens, hcloses⟩ := Token.lists_of_opensItem opens
      obtain ⟨hopens', hcloses', hitem'⟩ :=
        Token.isContent_iff.mp (Token.isContent_of_kind (.inr (.inr closes)))
      refine ⟨.other opening hopens hcloses (inner.append (.other closing hopens' hcloses' forest)),
        by simp [ListForest.tokens], fun hat => ?_⟩
      have hlist := hat _ rfl
      rw [within] at hlist
      cases hlist

end Nested

/-! ## Outlines -/

/-- What is stray in a forest is an item of the outermost level. -/
theorem ListForest.mem_items_of_isStray {forest : ListForest} {position : Nat} {token : Token}
    (h : IsStray forest.tokens position token) : token ∈ forest.items := by
  induction forest generalizing position with
  | done => simp [IsStray, tokens] at h
  | other first opens closes rest ih =>
    obtain ⟨hget, hneeds, hdepth⟩ := h
    cases position with
    | zero =>
      obtain rfl : first = token := by simpa [tokens] using hget
      have hitem : first.opensItem = true := by simpa [Token.needsList, closes] using hneeds
      simp [items, hitem]
    | succ position =>
      rw [tokens, List.take_succ_cons, listDepth_cons, listDepth_of_other opens closes,
        Int.zero_add] at hdepth
      have hrest := ih ⟨by simpa [tokens] using hget, hneeds, hdepth⟩
      rw [items]
      split
      · exact List.mem_cons_of_mem _ hrest
      · exact hrest
  | list opening opens inside closing closes rest _ ih =>
    obtain ⟨hget, hneeds, hdepth⟩ := h
    cases position with
    | zero =>
      obtain rfl : opening = token := by simpa [tokens] using hget
      simp [Token.needsList, Token.closesList_of_opensList opens,
        Token.opensItem_of_opensList opens] at hneeds
    | succ position =>
      rw [tokens, List.take_succ_cons, listDepth_cons, listDepth_of_opensList opens,
        List.take_append, listDepth_append] at hdepth
      -- inside the list, its closing token included, the depth is positive
      cases hover : position - inside.tokens.length with
      | zero =>
        have hinside := inside.listDepth_take_nonneg position
        rw [hover, List.take_zero, listDepth_nil] at hdepth
        omega
      | succ behind =>
        have hlength : inside.tokens.length ≤ position := by omega
        rw [hover, List.take_succ_cons, listDepth_cons, listDepth_of_closesList closes,
          List.take_of_length_le hlength, listDepth_tokens] at hdepth
        refine @ih behind ⟨?_, hneeds, by omega⟩
        rw [tokens, List.getElem?_cons_succ, List.getElem?_append_right hlength, hover,
          List.getElem?_cons_succ] at hget
        exact hget

/-- A forest without stray items has an outline. -/
theorem ListForest.exists_outline {forest : ListForest} (h : forest.items = []) :
    ∃ entries, outline forest.tokens = .ok entries := by
  rcases pushAll_cases forest.tokens with
    ⟨position, token, ⟨hstray, -⟩, -⟩ | ⟨-, final, reading, hok, hfollows, htokens⟩
  · have hmem := mem_items_of_isStray hstray
    rw [h] at hmem
    cases hmem
  · have hdepth := reading.listDepth_tokens
    rw [htokens, forest.listDepth_tokens, ← hfollows.stack] at hdepth
    have hstack : final.stack = [] := List.eq_nil_of_length_eq_zero (by omega)
    rw [outline, hok]
    dsimp only
    rw [Outline.finish, hstack]
    exact ⟨_, rfl⟩

/-- The entries of a stream stand in the order in which it opens the lists. -/
theorem map_opening_of_outline {tokens : List Token} {entries : List ListEntry}
    (h : outline tokens = .ok entries) :
    entries.map (·.opening) = tokens.filter Token.opensList := by
  obtain ⟨forest, rfl, -, rfl⟩ := exists_forest_of_outline h
  exact forest.map_opening_entries [] []

/-! ## Places -/

/-- What is known of the containers around a place, given the lists among them. -/
structure IsPlace (around lists : List Token) : Prop where
  lists_eq : lists = around.filter Token.opensList
  /-- An item stands directly in a list. -/
  within : ∀ item outer, around = item :: outer → item.opensItem = true →
    ∃ list rest, outer = list :: rest ∧ list.opensList = true

namespace IsPlace

theorem nil : IsPlace [] [] where
  lists_eq := rfl
  within := nofun

/-- A container that is no list leaves the lists among the containers as they are. -/
theorem openLists_eq_of_other {around lists : List Token} {opening : Token}
    (hopens : opening.opensList = false) (hcloses : opening.closesList = false)
    (h : lists = around.filter Token.opensList) :
    openLists lists [opening] = (opening :: around).filter Token.opensList := by
  rw [openLists, openAfter_of_other hopens hcloses, List.filter_cons_of_neg (by simp [hopens]), h]

/-- Inside one container more. -/
theorem enter {around lists : List Token} {opening closing : Token} (hplace : IsPlace around lists)
    (h : Encloses Fits around opening closing) :
    IsPlace (opening :: around) (openLists lists [opening]) := by
  cases h with
  | quote opens =>
    obtain ⟨hopens, hcloses, hitem⟩ :=
      Token.isContent_iff.mp (Token.isContent_of_kind (.inl opens))
    constructor
    · exact openLists_eq_of_other hopens hcloses hplace.lists_eq
    · rintro item outer heq hopensItem
      rw [← (List.cons.inj heq).1, hitem] at hopensItem
      cases hopensItem
  | item within opens =>
    obtain ⟨hopens, hcloses⟩ := Token.lists_of_opensItem opens
    constructor
    · exact openLists_eq_of_other hopens hcloses hplace.lists_eq
    · rintro item outer heq -
      exact ⟨_, _, (List.cons.inj heq).2.symm, within⟩
  | list opens =>
    constructor
    · rw [openLists, openAfter_of_opens opens, List.filter_cons_of_pos opens, hplace.lists_eq]
    · rintro item outer heq hopensItem
      rw [← (List.cons.inj heq).1, Token.opensItem_of_opensList opens] at hopensItem
      cases hopensItem

end IsPlace

/-- A container leaves the open lists as they are. -/
theorem openLists_container {around lists inside : List Token} {opening closing : Token}
    (h : Encloses Fits around opening closing) (hinside : Nested Fits (opening :: around) inside) :
    openLists lists (opening :: (inside ++ [closing])) = lists := by
  obtain ⟨forest, htokens, -⟩ := (Nested.wrap h hinside).exists_forest
  rw [← htokens]
  exact forest.openAfter_tokens lists

/-- **Where a list opens** in a nested stream, its condition holds of the containers around it. -/
theorem Nested.place_of_split {around lists tokens seen after : List Token} {opening : Token}
    (h : Nested Fits around tokens) (hplace : IsPlace around lists)
    (hsplit : tokens = seen ++ opening :: after) (opens : opening.opensList = true) :
    Fits (openContainers around seen) opening ∧
      IsPlace (openContainers around seen) (openLists lists seen) := by
  induction h generalizing lists seen after with
  | nil => simp at hsplit
  | @leaf around rest token leafOpens leafCloses _ ih =>
    cases seen with
    | nil =>
      obtain ⟨rfl, -⟩ := List.cons.inj hsplit
      simp [Token.opensContainer, opens] at leafOpens
    | cons first seen =>
      obtain ⟨rfl, htail⟩ := List.cons.inj hsplit
      obtain ⟨hopens, hcloses, -⟩ :=
        Token.isContent_iff.mp (Token.isContent_of_leaf leafOpens leafCloses)
      rw [openContainers, openAfter_cons, openAfter_of_other leafOpens leafCloses, openLists,
        openAfter_cons, openAfter_of_other hopens hcloses]
      exact ih hplace htail
  | @container around inside rest first closing henclosed hinside hrest ihInside ih =>
    cases seen with
    | nil =>
      obtain ⟨rfl, -⟩ := List.cons.inj hsplit
      exact ⟨henclosed.fits opens, hplace⟩
    | cons next seen =>
      obtain ⟨rfl, htail⟩ := List.cons.inj hsplit
      have hopened : openContainers around (first :: seen) =
          openContainers (first :: around) seen := by
        rw [openContainers, openAfter_cons, openAfter_of_opens henclosed.opensContainer_opening]
        rfl
      have hlists : openLists lists (first :: seen) = openLists (openLists lists [first]) seen :=
        openAfter_cons first seen
      rcases cases_of_append_cons htail (henclosed.closing_ne opens) with
        ⟨between, rfl, hbehind⟩ | ⟨between, hin, -⟩
      -- the list opens behind this container, or inside it
      · have hwhole : first :: (inside ++ closing :: between) =
            (first :: (inside ++ [closing])) ++ between := by simp
        have hcontainers : openContainers around (first :: (inside ++ closing :: between)) =
            openContainers around between := by
          rw [hwhole, openContainers, openAfter_append]
          exact congrArg (openContainers · between)
            (Nested.wrap henclosed hinside).openContainers_eq
        have hclosed : openLists lists (first :: (inside ++ closing :: between)) =
            openLists lists between := by
          rw [hwhole, openLists, openAfter_append]
          exact congrArg (openLists · between) (openLists_container henclosed hinside)
        rw [hcontainers, hclosed]
        exact ih hplace hbehind
      · rw [hopened, hlists]
        exact ihInside (hplace.enter henclosed) hin

/-! ## The outline of a nested stream -/

section

variable {tokens : List Token} (h : Nested Fits [] tokens)

include h

theorem Nested.exists_outline : ∃ entries, outline tokens = .ok entries := by
  obtain ⟨forest, rfl, hitems⟩ := h.exists_forest
  exact ListForest.exists_outline (hitems nofun)

/-- Every list of a nested stream has an entry, in which its parent's indent is that of the next
list around it. Its condition holds, and an item that it stands in stands directly in a list. -/
theorem Nested.exists_entry {entries : List ListEntry} (houtline : outline tokens = .ok entries)
    {before after : List Token} {opening : Token} (hsplit : tokens = before ++ opening :: after)
    (opens : opening.opensList = true) :
    Fits (openContainers [] before) opening ∧
      IsPlace (openContainers [] before) (openLists [] before) ∧
      ∃ entry, entries[before.countP Token.opensList]? = some entry ∧ entry.opening = opening ∧
        entry.isUnordered = opening.opensBullets ∧ entry.indent = opening.indent ∧
        entry.parentIndent = ((openLists [] before).head?.map Token.indent).getD 0 := by
  obtain ⟨hfits, hplace⟩ := h.place_of_split .nil hsplit opens
  obtain ⟨forest, htokens, -, rfl⟩ := exists_forest_of_outline houtline
  obtain ⟨inside, closing, rest, outer, -, -, hentry, -, rfl⟩ :=
    ListForest.exists_entry [] [] (htokens.trans hsplit) opens
  exact ⟨hfits, hplace, _, hentry, rfl, rfl, rfl, rfl⟩

end

end MarkdownCheck
