import MarkdownCheck.Document.OfText

/-!
# The lines of inline tokens

An inline token is on the first line of the block token around it, moved down by the line breaks
before it. Only breaks next to it, or next to a token around it, are counted, so a break inside an
earlier token, such as an image, is lost for what follows that token.

- `descendant?`: what stands at an address in a tree.
- `Markdown.Token.before`: the tokens before an address in document order; `Markdown.Token.beside`
  and `Markdown.Token.hidden`: those of them that are counted, and the others.
- `descendant?_ofInlines`: reading keeps the tree and counts the breaks beside a token.
- `inline_lineNumber_iff`: when an inline token is on its true line.
-/

namespace MarkdownCheck

/-! ## Places in a tree -/

/-- What stands at an address: the places on the way to it among siblings, from the outside in. -/
def descendant? {α : Type} (children : α → List α) (level : List α) : List Nat → Option α
  | [] => none
  | [place] => level[place]?
  | place :: next :: deeper =>
    level[place]?.bind fun node => descendant? children (children node) (next :: deeper)

namespace Markdown.Token

mutual

/-- A token and the tokens inside it, in document order. -/
def inOrder : Token → List Token
  | ⟨kind, tag, range, content, markup, info, children⟩ =>
    ⟨kind, tag, range, content, markup, info, children⟩ :: allInOrder children

/-- Tokens and the tokens inside them, in document order. -/
def allInOrder : List Token → List Token
  | [] => []
  | token :: rest => inOrder token ++ allInOrder rest

end

theorem inOrder_eq (token : Token) : token.inOrder = token :: allInOrder token.children := by
  cases token
  rw [inOrder]

theorem allInOrder_append (front behind : List Token) :
    allInOrder (front ++ behind) = allInOrder front ++ allInOrder behind := by
  induction front with
  | nil => rw [List.nil_append, allInOrder, List.nil_append]
  | cons token rest ih => rw [List.cons_append, allInOrder, allInOrder, ih, List.append_assoc]

/-- The tokens before an address in document order. -/
def before (level : List Token) : List Nat → List Token
  | [] => []
  | [place] => allInOrder (level.take place)
  | place :: next :: deeper =>
    allInOrder (level.take place) ++
      level[place]?.toList.flatMap fun around => around :: before around.children (next :: deeper)

/-- The tokens next to an address or next to a token around it, as far as they are before it. -/
def beside (level : List Token) : List Nat → List Token
  | [] => []
  | [place] => level.take place
  | place :: next :: deeper =>
    level.take place ++
      level[place]?.toList.flatMap fun around => beside around.children (next :: deeper)

/-- The tokens around an address, and those inside the tokens beside it. -/
def hidden (level : List Token) : List Nat → List Token
  | [] => []
  | [place] => (level.take place).flatMap fun sibling => allInOrder sibling.children
  | place :: next :: deeper =>
    ((level.take place).flatMap fun sibling => allInOrder sibling.children) ++
      level[place]?.toList.flatMap fun around => around :: hidden around.children (next :: deeper)

/-- A token of a level and the tokens inside it stand between its siblings. -/
theorem allInOrder_of_getElem? {level : List Token} {place : Nat} {token : Token}
    (h : level[place]? = some token) :
    allInOrder level = allInOrder (level.take place) ++
      token :: (allInOrder token.children ++ allInOrder (level.drop (place + 1))) := by
  obtain ⟨hlt, rfl⟩ := List.getElem?_eq_some_iff.mp h
  calc allInOrder level
    _ = allInOrder (level.take place ++ level[place] :: level.drop (place + 1)) := by
      rw [← List.drop_eq_getElem_cons hlt, List.take_append_drop]
    _ = _ := by rw [allInOrder_append, allInOrder, inOrder_eq, List.cons_append]

/-- What is before an address, its own token and what is behind make up the tree. -/
theorem exists_allInOrder_eq {level : List Token} {address : List Nat} {token : Token}
    (h : descendant? children level address = some token) :
    ∃ after, allInOrder level = before level address ++ token :: after := by
  induction level, address using descendant?.induct children with
  | case1 => cases h
  | case2 level place => exact ⟨_, by rw [before, allInOrder_of_getElem? h]⟩
  | case3 level place next deeper ih =>
    obtain ⟨around, haround, h⟩ := Option.bind_eq_some_iff.mp h
    obtain ⟨after, hafter⟩ := ih around h
    refine ⟨after ++ allInOrder (level.drop (place + 1)), ?_⟩
    rw [allInOrder_of_getElem? haround, hafter, before, haround]
    simp

/-- Tokens in document order are the tokens themselves and those inside them. -/
theorem allInOrder_perm (level : List Token) :
    (allInOrder level).Perm
      (level ++ level.flatMap fun sibling => allInOrder sibling.children) := by
  induction level with
  | nil => simp [allInOrder]
  | cons token rest ih =>
    rw [allInOrder, inOrder_eq, List.flatMap_cons, List.cons_append, List.cons_append]
    exact ((ih.append_left _).trans (List.perm_append_comm_assoc ..)).cons token

/-- What is before an address is beside it or hidden. -/
theorem before_perm (level : List Token) (address : List Nat) :
    (before level address).Perm (beside level address ++ hidden level address) := by
  induction level, address using descendant?.induct children with
  | case1 => exact .nil
  | case2 level place => exact allInOrder_perm _
  | case3 level place next deeper ih =>
    rw [before, beside, hidden]
    cases level[place]? with
    | none => simpa using allInOrder_perm (level.take place)
    | some around =>
      simp only [Option.toList_some, List.flatMap_singleton]
      -- the token around the address is in front of what is before it inside, and is hidden
      have hinside : (around :: before around.children (next :: deeper)).Perm
          (beside around.children (next :: deeper) ++
            around :: hidden around.children (next :: deeper)) :=
        ((ih around).cons around).trans List.perm_middle.symm
      refine ((allInOrder_perm _).append hinside).trans ?_
      simp only [List.append_assoc]
      exact (List.perm_append_comm_assoc ..).append_left _

end Markdown.Token

/-! ## Reading inline tokens -/

namespace Token

theorem ofInline_eq (lines : List Text) (number : Option Int) (token : Markdown.Token) :
    ofInline lines number token = {
      kind := token.kind, tag := token.tag, content := token.content, markup := token.markup
      info := token.info, line := lineAt lines number, lineNumber := number
      children := ofInlines lines number token.children } := by
  cases token
  rw [ofInline]

/-- A token of a level is moved down by the breaks in front of it. -/
theorem getElem?_ofInlines (lines : List Text) (number : Option Int) (level : List Markdown.Token)
    (place : Nat) :
    (ofInlines lines number level)[place]? = level[place]?.map (ofInline lines
      (number.map (· + ((level.take place).countP Markdown.Token.isBreak : Int)))) := by
  induction level generalizing number place with
  | nil => simp [ofInlines]
  | cons token rest ih =>
    rw [ofInlines]
    cases place with
    | zero => simp
    | succ place =>
      rw [List.getElem?_cons_succ, ih, List.getElem?_cons_succ]
      congr 2
      cases hbreak : token.isBreak with
      | false => simp [hbreak]
      | true =>
        cases number with
        | none => rfl
        | some number =>
          simp [hbreak]
          omega

/-- Reading keeps the tree, and a token is moved down by the breaks beside it. -/
theorem descendant?_ofInlines (lines : List Text) (number : Option Int)
    (level : List Markdown.Token) (address : List Nat) :
    descendant? Token.children (ofInlines lines number level) address =
      (descendant? Markdown.Token.children level address).map (ofInline lines
        (number.map (· + ((Markdown.Token.beside level address).countP
          Markdown.Token.isBreak : Int)))) := by
  induction level, address using descendant?.induct Markdown.Token.children
    generalizing number with
  | case1 => rfl
  | case2 level place => exact getElem?_ofInlines lines number level place
  | case3 level place next deeper ih =>
    rw [descendant?, descendant?, Markdown.Token.beside, getElem?_ofInlines]
    cases level[place]? with
    | none => rfl
    | some around =>
      simp only [Option.map_some, Option.bind_some, ofInline_eq, ih, Option.toList_some,
        List.flatMap_singleton, List.countP_append, Option.map_map]
      congr 2
      cases number with
      | none => rfl
      | some number =>
        refine congrArg some ?_
        dsimp only [Function.comp_apply]
        omega

end Token

/-! ## The true line -/

/-- A text is the line with a number, counted from 1, or is empty when there is no such line. -/
def IsLine (lines : List Text) (number : Option Int) (text : Text) : Prop :=
  (∀ (index : Nat) (line : Text), lines[index]? = some line → number = some (index + 1) →
    text = line) ∧
  ((∀ index < lines.length, number ≠ some (index + 1)) → text = [])

theorem isLine_lineAt (lines : List Text) (number : Option Int) :
    IsLine lines number (lineAt lines number) := by
  refine ⟨?_, fun hnone => ?_⟩
  · rintro index line hline rfl
    have hpositive : (0 : Int) < index + 1 := by omega
    show (if (0 : Int) < index + 1 then lines.getD (index + 1 - 1 : Int).toNat [] else []) = line
    rw [if_pos hpositive, Int.add_sub_cancel, Int.toNat_natCast, List.getD_eq_getElem?_getD, hline,
      Option.getD_some]
  · cases number with
    | none => rfl
    | some number =>
      show (if 0 < number then lines.getD (number - 1).toNat [] else []) = []
      split
      · next hpositive =>
        have hend : lines.length ≤ (number - 1).toNat := by
          refine Nat.le_of_not_lt fun hlt => hnone _ hlt ?_
          congr 1
          omega
        rw [List.getD_eq_getElem?_getD, List.getElem?_eq_none hend, Option.getD_none]
      · rfl

section

open Markdown.Token (allInOrder before beside hidden isBreak)

/-- **When an inline token is on its true line.** Reading a token of the parser keeps the tree of
inline tokens inside it. With a range, each of them is on the first line, moved down by the breaks
beside it. These are all breaks before it in document order if and only if none of those is hidden:
stands inside a token beside it, or is itself around it. Without a range none of them has a line. -/
theorem inline_lineNumber_iff (lines : List Text) (token : Markdown.Token) :
    let parsed := token.children
    let inlines := (Token.ofParsed lines token).children
    (∀ address,
      (descendant? Token.children inlines address).map
          (fun inline => (inline.kind, inline.tag, inline.content, inline.markup, inline.info)) =
        (descendant? Markdown.Token.children parsed address).map
          fun inline => (inline.kind, inline.tag, inline.content, inline.markup, inline.info)) ∧
    ∀ address inline, descendant? Token.children inlines address = some inline →
      (∃ here after, descendant? Markdown.Token.children parsed address = some here ∧
        allInOrder parsed = before parsed address ++ here :: after) ∧
      inline.lineNumber =
        token.range.map (fun range =>
          range.start + 1 + ((beside parsed address).countP isBreak : Int)) ∧
      (inline.lineNumber =
          token.range.map (fun range =>
            range.start + 1 + ((before parsed address).countP isBreak : Int)) ↔
        token.range = none ∨ ∀ earlier ∈ hidden parsed address, earlier.isBreak = false) ∧
      IsLine lines inline.lineNumber inline.line := by
  intro parsed inlines
  have hread : ∀ address, descendant? Token.children inlines address =
      (descendant? Markdown.Token.children parsed address).map (Token.ofInline lines
        ((token.range.map (·.start + 1)).map
          (· + ((beside parsed address).countP isBreak : Int)))) :=
    Token.descendant?_ofInlines lines _ parsed
  refine ⟨fun address => ?_, fun address inline hinline => ?_⟩
  · rw [hread, Option.map_map]
    simp only [Function.comp_def, Token.ofInline_eq]
  · rw [hread] at hinline
    obtain ⟨here, hhere, rfl⟩ := Option.map_eq_some_iff.mp hinline
    obtain ⟨after, hafter⟩ := Markdown.Token.exists_allInOrder_eq hhere
    -- what is before the token is beside it or hidden, so the breaks that are lost are hidden
    have hcount : (before parsed address).countP isBreak =
        (beside parsed address).countP isBreak + (hidden parsed address).countP isBreak := by
      rw [(Markdown.Token.before_perm parsed address).countP_eq, List.countP_append]
    rw [Token.ofInline_eq]
    refine ⟨⟨here, after, hhere, hafter⟩, ?_, ?_, isLine_lineAt ..⟩
    · cases token.range <;> rfl
    · have hnone : (∀ earlier ∈ hidden parsed address, earlier.isBreak = false) ↔
          (hidden parsed address).countP isBreak = 0 := by
        simp
      rw [hnone, hcount]
      cases token.range with
      | none => simp
      | some range =>
        simp only [Option.map_some, Option.some.injEq, reduceCtorEq, false_or]
        omega

/-- A break inside an image is lost for the text behind it, which stands on the second line and is
read as if it were on the first. -/
theorem inline_lineNumber_ne_image :
    let text (content : String) : Markdown.Token := { kind := "text", content := content.toList }
    let image : Markdown.Token :=
      { kind := "image", children := [text "a", { kind := "softbreak" }, text "b"] }
    let paragraph : Markdown.Token :=
      { kind := "inline", range := some ⟨0, 2⟩, children := [image, text " c"] }
    let lines := ["![a".toList, "b](u) c".toList]
    ∃ inline, descendant? Token.children (Token.ofParsed lines paragraph).children [1] =
        some inline ∧
      allInOrder paragraph.children = before paragraph.children [1] ++ [text " c"] ∧
      inline.lineNumber ≠ some (0 + 1 + (before paragraph.children [1]).countP isBreak) ∧
      inline.line ≠ "b](u) c".toList := by
  intro text image paragraph lines
  exact ⟨_, rfl, rfl, by decide, by decide⟩

end

end MarkdownCheck
