import Mathlib.Data.List.Induction
import MarkdownCheck.Proofs.ListOutline.Preorder

/-!
# Which streams have an outline

A stream has an outline exactly if its list tokens are balanced. What decides is the number of lists
that are open at a place, which the tokens before it tell without a stack.

- `listDepth`: how many more lists a stream opens than it closes.
- `IsStray`, `IsFirstStray`: a token that needs a list around it where none is open.
- `StaysOpen`: a list that is not closed before the stream ends.
- `pushAll_cases`: reading stops at the first stray token, or there is none.
- `outline_outcome`: the three ways in which a stream ends.
-/

namespace MarkdownCheck

/-! ## Depths -/

/-- Stands inside a list: closes it or opens an item of it. -/
def Token.needsList (token : Token) : Bool :=
  token.closesList || token.opensItem

/-- How many more lists a stream opens than it closes. -/
def listDepth (tokens : List Token) : Int :=
  tokens.countP Token.opensList - tokens.countP Token.closesList

/-- A token stands where no list is open and needs one. -/
def IsStray (tokens : List Token) (position : Nat) (token : Token) : Prop :=
  tokens[position]? = some token ∧ token.needsList = true ∧
    listDepth (tokens.take position) = 0

/-- The first of the stray tokens of a stream. -/
def IsFirstStray (tokens : List Token) (position : Nat) (token : Token) : Prop :=
  IsStray tokens position token ∧ ∀ earlier < position, ∀ other, ¬ IsStray tokens earlier other

/-- A list opens and the stream never gets back to the depth before it. -/
def StaysOpen (tokens : List Token) (position : Nat) (opening : Token) : Prop :=
  tokens[position]? = some opening ∧ opening.opensList = true ∧
    ∀ later, position < later → later ≤ tokens.length →
      listDepth (tokens.take position) < listDepth (tokens.take later)

@[simp] theorem listDepth_nil : listDepth [] = 0 := rfl

@[simp] theorem listDepth_append (front behind : List Token) :
    listDepth (front ++ behind) = listDepth front + listDepth behind := by
  simp only [listDepth, List.countP_append, Int.natCast_add]
  omega

theorem listDepth_cons (token : Token) (rest : List Token) :
    listDepth (token :: rest) = listDepth [token] + listDepth rest := by
  rw [← List.singleton_append, listDepth_append]

section

variable {token : Token}

theorem listDepth_of_opensList (h : token.opensList = true) : listDepth [token] = 1 := by
  simp [listDepth, h, Token.closesList_of_opensList h]

theorem listDepth_of_closesList (h : token.closesList = true) : listDepth [token] = -1 := by
  simp [listDepth, h, Token.opensList_of_closesList h]

theorem listDepth_of_other (hopens : token.opensList = false) (hcloses : token.closesList = false) :
    listDepth [token] = 0 := by
  simp [listDepth, hopens, hcloses]

end

/-- A token more is stray if it stands at the end, or else if it was before. -/
theorem isStray_concat {tokens : List Token} {last : Token} {position : Nat} {token : Token} :
    IsStray (tokens ++ [last]) position token ↔ IsStray tokens position token ∨
      position = tokens.length ∧ token = last ∧ last.needsList = true ∧ listDepth tokens = 0 := by
  rcases Nat.lt_trichotomy position tokens.length with hlt | rfl | hlt
  · have hne : position ≠ tokens.length := Nat.ne_of_lt hlt
    simp [IsStray, List.getElem?_append_left hlt,
      List.take_append_of_le_length (Nat.le_of_lt hlt), hne]
  · have hnone : ¬ IsStray tokens tokens.length token := by simp [IsStray]
    rw [or_iff_right hnone]
    constructor
    · rintro ⟨hget, hneeds, hdepth⟩
      obtain rfl : last = token := by simpa using hget
      exact ⟨rfl, rfl, hneeds, by simpa using hdepth⟩
    · rintro ⟨-, rfl, hneeds, hdepth⟩
      exact ⟨by simp, hneeds, by simpa using hdepth⟩
  · have hlength : (tokens ++ [last]).length ≤ position := by simpa using Nat.succ_le_of_lt hlt
    have hne : position ≠ tokens.length := Nat.ne_of_gt hlt
    simp [IsStray, List.getElem?_eq_none hlength, List.getElem?_eq_none (Nat.le_of_lt hlt),
      hne]

namespace ListForest

theorem listDepth_tokens (forest : ListForest) : listDepth forest.tokens = 0 := by
  rw [listDepth, forest.countP_closesList_tokens, Int.sub_self]

/-- A forest closes no list that it has not opened. -/
theorem listDepth_take_nonneg (forest : ListForest) (count : Nat) :
    0 ≤ listDepth (forest.tokens.take count) := by
  induction forest generalizing count with
  | done => simp [tokens]
  | other token opens closes rest ih =>
    cases count with
    | zero => simp
    | succ count =>
      rw [tokens, List.take_succ_cons, listDepth_cons, listDepth_of_other opens closes,
        Int.zero_add]
      exact ih count
  | list opening opens inside closing closes rest ihInside ih =>
    cases count with
    | zero => simp
    | succ count =>
      rw [tokens, List.take_succ_cons, listDepth_cons, listDepth_of_opensList opens,
        List.take_append, listDepth_append]
      have hinside := ihInside count
      -- the prefix ends inside this list, or behind its closing token
      cases hover : count - inside.tokens.length with
      | zero =>
        rw [List.take_zero, listDepth_nil]
        omega
      | succ behind =>
        have hlength : inside.tokens.length ≤ count := by omega
        have hrest := ih behind
        rw [List.take_succ_cons, listDepth_cons, listDepth_of_closesList closes,
          List.take_of_length_le hlength, listDepth_tokens]
        omega

end ListForest

namespace Reading

/-- As many lists are open as a reading has levels inside the outermost one. -/
theorem listDepth_tokens (reading : Reading) :
    listDepth reading.tokens = reading.stack.length := by
  induction reading with
  | top forest => exact forest.listDepth_tokens
  | within outside opening opens forest ih =>
    rw [tokens, listDepth_append, listDepth_cons, listDepth_of_opensList opens,
      forest.listDepth_tokens, ih, stack, List.length_cons]
    omega

/-- The list on whose level a stream ends is the innermost one that stays open. -/
theorem staysOpen_within (outside : Reading) {opening : Token} (opens : opening.opensList = true)
    (forest : ListForest) :
    let tokens := (within outside opening opens forest).tokens
    StaysOpen tokens outside.tokens.length opening ∧
      ∀ position other, StaysOpen tokens position other → position ≤ outside.tokens.length := by
  intro tokens
  have htake : ∀ count, listDepth (tokens.take (outside.tokens.length + (count + 1))) =
      listDepth outside.tokens + 1 + listDepth (forest.tokens.take count) := by
    intro count
    show listDepth ((outside.tokens ++ opening :: forest.tokens).take _) = _
    rw [List.take_length_add_append, List.take_succ_cons, listDepth_append, listDepth_cons,
      listDepth_of_opensList opens, Int.add_assoc]
  refine ⟨⟨?_, opens, fun later hlater _ => ?_⟩, fun position other hother => ?_⟩
  · simp [tokens, Reading.tokens]
  · obtain ⟨count, rfl⟩ : ∃ count, later = outside.tokens.length + (count + 1) :=
      ⟨later - outside.tokens.length - 1, by omega⟩
    have hnonneg := forest.listDepth_take_nonneg count
    have hfront : tokens.take outside.tokens.length = outside.tokens := by
      simp [tokens, Reading.tokens]
    rw [htake, hfront]
    omega
  · by_contra hlater
    obtain ⟨count, rfl⟩ : ∃ count, position = outside.tokens.length + (count + 1) :=
      ⟨position - outside.tokens.length - 1, by omega⟩
    obtain ⟨hget, -, hopen⟩ := hother
    have hlength := (List.getElem?_eq_some_iff.mp hget).1
    have hend := hopen tokens.length hlength (Nat.le_refl _)
    -- a list of the level has been closed by the end, for the level itself is balanced
    have hdepth : listDepth (tokens.take tokens.length) = listDepth outside.tokens + 1 := by
      rw [List.take_length]
      show listDepth (outside.tokens ++ opening :: forest.tokens) = _
      rw [listDepth_append, listDepth_cons, listDepth_of_opensList opens, forest.listDepth_tokens,
          Int.add_zero]
    have hnonneg := forest.listDepth_take_nonneg count
    rw [htake, hdepth] at hend
    omega

end Reading

/-! ## Reading a stream -/

namespace Outline

/-- A token is taken unless it needs a list and none is open. -/
theorem push_cases (outline : Outline) (token : Token) (position : Nat) :
    (token.needsList = true ∧ outline.stack = [] ∧
      outline.push token position = .error (.outside token.kind position)) ∨
    ¬ (token.needsList = true ∧ outline.stack = []) ∧
      ∃ next, outline.push token position = .ok next := by
  by_cases hopens : token.opensList = true
  · have hneeds : token.needsList = false := by
      simp [Token.needsList, Token.closesList_of_opensList hopens,
        Token.opensItem_of_opensList hopens]
    refine .inr ⟨by simp [hneeds], ?_⟩
    rw [push, if_pos hopens]
    exact ⟨_, rfl⟩
  by_cases hcloses : token.closesList = true
  · have hneeds : token.needsList = true := by simp [Token.needsList, hcloses]
    rw [push, if_neg hopens, if_pos hcloses]
    cases hstack : outline.stack with
    | nil => exact .inl ⟨hneeds, rfl, rfl⟩
    | cons current around => exact .inr ⟨nofun, _, rfl⟩
  by_cases hitem : token.opensItem = true
  · have hneeds : token.needsList = true := by simp [Token.needsList, hitem]
    rw [push, if_neg hopens, if_neg hcloses, if_pos hitem]
    cases hstack : outline.stack with
    | nil => exact .inl ⟨hneeds, rfl, rfl⟩
    | cons current around => exact .inr ⟨nofun, _, rfl⟩
  · refine .inr ⟨by simp [Token.needsList, hcloses, hitem], ?_⟩
    rw [push, if_neg hopens, if_neg hcloses, if_neg hitem]
    cases token.range with
    | none => exact ⟨_, rfl⟩
    | some range => exact ⟨_, rfl⟩

theorem pushAll_concat (outline : Outline) (position : Nat) (tokens : List Token) (last : Token) :
    outline.pushAll position (tokens ++ [last]) =
      outline.pushAll position tokens >>= fun middle =>
        middle.push last (position + tokens.length) := by
  induction tokens generalizing outline position with
  | nil =>
    show outline.pushAll position [last] = outline.push last position
    rw [pushAll]
    cases outline.push last position <;> rfl
  | cons token rest ih =>
    rw [List.cons_append, pushAll, pushAll]
    cases outline.push token position with
    | error cause => rfl
    | ok next =>
      have hposition : position + (token :: rest).length = position + 1 + rest.length := by
        simp only [List.length_cons]
        omega
      rw [hposition]
      exact ih next (position + 1)

end Outline

/-- A stream is read up to its first stray token, or to its end if it has none. -/
theorem pushAll_cases (tokens : List Token) :
    (∃ position token, IsFirstStray tokens position token ∧
      Outline.pushAll {} 0 tokens = .error (.outside token.kind position)) ∨
    (∀ position token, ¬ IsStray tokens position token) ∧
      ∃ final reading, Outline.pushAll {} 0 tokens = .ok final ∧
        Outline.Follows final reading ∧ reading.tokens = tokens := by
  induction tokens using List.reverseRecOn with
  | nil =>
    exact .inr ⟨by simp [IsStray], {}, .top .done, rfl, Outline.Follows.start, rfl⟩
  | append_singleton tokens last ih =>
    rw [Outline.pushAll_concat, Nat.zero_add]
    rcases ih with ⟨position, token, ⟨hstray, hfirst⟩, herror⟩ |
      ⟨hnone, middle, reading, hok, hfollows, rfl⟩
    · have hlt : position < tokens.length := (List.getElem?_eq_some_iff.mp hstray.1).1
      refine .inl ⟨position, token, ⟨isStray_concat.mpr (.inl hstray), ?_⟩, ?_⟩
      · intro earlier hearlier other hother
        rcases isStray_concat.mp hother with hother | ⟨rfl, -⟩
        · exact hfirst earlier hearlier other hother
        · omega
      · rw [herror]
        rfl
    · have hdepth : listDepth reading.tokens = middle.stack.length := by
        rw [reading.listDepth_tokens, hfollows.stack]
      rw [hok]
      show (∃ position token, IsFirstStray _ position token ∧
        middle.push last _ = .error _) ∨ _ ∧ ∃ final next, middle.push last _ = .ok final ∧ _
      rcases middle.push_cases last reading.tokens.length with
        ⟨hneeds, hstack, herror⟩ | ⟨htaken, next, hnext⟩
      · refine .inl ⟨_, last, ⟨isStray_concat.mpr (.inr ⟨rfl, rfl, hneeds, ?_⟩), ?_⟩, herror⟩
        · rw [hdepth, hstack]
          rfl
        · intro earlier hearlier other hother
          rcases isStray_concat.mp hother with hother | ⟨rfl, -⟩
          · exact hnone earlier other hother
          · omega
      · obtain ⟨reading', hfollows', htokens'⟩ := hfollows.push hnext
        refine .inr ⟨fun position token hstray => ?_, next, reading', hnext, hfollows', htokens'⟩
        rcases isStray_concat.mp hstray with hstray | ⟨-, -, hneeds, hzero⟩
        · exact hnone position token hstray
        · refine htaken ⟨hneeds, List.eq_nil_of_length_eq_zero ?_⟩
          omega

/-! ## The outcome -/

/-- **A stream has an outline exactly if it is balanced.** If some token needs a list where none is
open, reading fails with the kind and the position of the first such token. Otherwise, if more lists
are opened than closed, it fails with the kind of the innermost list that stays open. Otherwise
there is an outline, with one entry for each token that opens a list, in their order. -/
theorem outline_outcome (tokens : List Token) :
    ((∃ position token, IsStray tokens position token) →
      ∃ position token, IsFirstStray tokens position token ∧
        outline tokens = .error (.outside token.kind position)) ∧
    ((∀ position token, ¬ IsStray tokens position token) → 0 < listDepth tokens →
      ∃ position opening, StaysOpen tokens position opening ∧
        (∀ other inner, StaysOpen tokens other inner → other ≤ position) ∧
        outline tokens = .error (.unclosed opening.kind)) ∧
    ((∀ position token, ¬ IsStray tokens position token) → ¬ 0 < listDepth tokens →
      ∃ entries, outline tokens = .ok entries ∧
        entries.map (·.opening) = tokens.filter Token.opensList) := by
  rcases pushAll_cases tokens with
    ⟨position, token, hfirst, herror⟩ | ⟨hnone, final, reading, hok, hfollows, rfl⟩
  · have houtline : outline tokens = .error (.outside token.kind position) := by
      rw [outline, herror]
    exact ⟨fun _ => ⟨position, token, hfirst, houtline⟩,
      fun hnone => absurd hfirst.1 (hnone position token),
      fun hnone => absurd hfirst.1 (hnone position token)⟩
  · have houtline : outline reading.tokens = final.finish := by rw [outline, hok]
    have hstack := hfollows.stack
    refine ⟨fun ⟨position, token, hstray⟩ => absurd hstray (hnone position token),
      fun _ hdepth => ?_, fun _ hdepth => ?_⟩
    · cases reading with
      | top forest => exact absurd hdepth (by simp [Reading.tokens, forest.listDepth_tokens])
      | within outside opening opens forest =>
        obtain ⟨hopen, hinnermost⟩ := outside.staysOpen_within opens forest
        refine ⟨_, opening, hopen, hinnermost, ?_⟩
        rw [houtline, Outline.finish, hstack]
        rfl
    · cases reading with
      | top forest =>
        rw [houtline, Outline.finish, hstack]
        exact ⟨_, rfl, by
          rw [ListForest.mapIdx_eq_preorder hfollows.closed]
          exact forest.map_opening_entries [] []⟩
      | within outside opening opens forest =>
        exact absurd (by rw [Reading.listDepth_tokens, Reading.stack, List.length_cons]; omega)
          hdepth

end MarkdownCheck
