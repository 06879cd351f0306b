import MarkdownCheck.Markdown.Inline.State

/-!
# Pairing emphasis

- `pairDelimiters`: finds for each closing delimiter of a group the one that opens it.
- `markEmphasis`: turns the text tokens of paired delimiters into emphasis tokens; two pairs that
  touch on both sides become one strong emphasis.
- `joinTexts`: joins neighbouring text tokens.
-/

namespace MarkdownCheck.Markdown

/-! ## Pairs -/

/-- The pairing of a group so far. -/
structure Pairing where
  delimiters : Array Delimiter
  /-- How many delimiters before each one need not be looked at again. -/
  jumps : Array Nat
  /-- The first delimiter of the present run. -/
  runStart : Nat := 0
  /-- The token of the last delimiter, if the next one may belong to the same run. -/
  lastToken : Option Nat := none
  /-- For a kind of closing delimiter, the place up to which no opening one will be found. -/
  bottoms : List ((Char × Nat) × Int) := []

namespace Pairing

/-- Closing delimiters of one kind find or miss the same opening ones. -/
def kindOf (closer : Delimiter) : Char × Nat :=
  (closer.mark, (if closer.opens then 3 else 0) + closer.size % 3)

/-- The place up to which no opening delimiter will be found. -/
def bottom (pairing : Pairing) (closer : Delimiter) : Int :=
  ((pairing.bottoms.find? (·.1 = kindOf closer)).map (·.2)).getD (-1)

/-- Whether the lengths of two runs keep them from pairing: where one of them may do both, the sum
of the lengths may be a multiple of three only if both lengths are. -/
def isOdd (opener closer : Delimiter) : Bool :=
  (opener.closes || closer.opens) && (opener.size + closer.size) % 3 = 0
    && (opener.size % 3 ≠ 0 || closer.size % 3 ≠ 0)

/-- Looks from `place` back to `bottom` for the delimiter that a closing one closes. -/
def findOpener (pairing : Pairing) (closer : Delimiter) (bottom : Int) :
    (bound : Nat) → (place : Int) → Option Nat
  | 0, _ => none
  | bound + 1, place =>
    if place ≤ bottom then none
    else
      let opener := pairing.delimiters.getD place.toNat default
      if opener.mark = closer.mark && opener.opens && opener.partner.isNone
          && !isOdd opener closer then
        some place.toNat
      else
        findOpener pairing closer bottom bound (place - pairing.jumps.getD place.toNat 0 - 1)

/-- Takes the delimiter at `index` into account. -/
def step (pairing : Pairing) (index : Nat) : Pairing :=
  let closer := pairing.delimiters.getD index default
  let first := pairing.delimiters.getD pairing.runStart default
  let continues := first.mark = closer.mark && pairing.lastToken.any (· + 1 = closer.token)
  let pairing := {
    pairing with
    jumps := pairing.jumps.push 0
    runStart := if continues then pairing.runStart else index
    lastToken := some closer.token }
  if !closer.closes then pairing
  else
    let place : Int := (pairing.runStart : Int) - pairing.jumps.getD pairing.runStart 0 - 1
    match pairing.findOpener closer (pairing.bottom closer) (index + 1) place with
    | some opener =>
      let before := pairing.delimiters.getD (opener - 1) default
      let jump :=
        if 0 < opener && !before.opens then pairing.jumps.getD (opener - 1) 0 + 1 else 0
      { pairing with
        jumps :=
          (pairing.jumps.setIfInBounds index (index - opener + jump)).setIfInBounds opener jump
        delimiters := (pairing.delimiters.modify index ({ · with opens := false })).modify opener
          ({ · with partner := some index, closes := false })
        lastToken := none }
    | none => { pairing with bottoms := (kindOf closer, place) :: pairing.bottoms }

end Pairing

/-- The delimiters of a group with their partners. -/
def pairDelimiters (delimiters : Array Delimiter) : Array Delimiter :=
  let start : Pairing := { delimiters := delimiters, jumps := #[] }
  ((List.range delimiters.size).foldl Pairing.step start).delimiters

/-! ## Emphasis tokens -/

/-- A delimiter's token as one end of emphasis. -/
def emphasisToken (isStrong isOpening : Bool) (mark : Char) : Token :=
  let tag := if isStrong then "strong" else "em"
  { kind := tag ++ (if isOpening then "_open" else "_close"), tag := tag
    markup := if isStrong then [mark, mark] else [mark] }

/-- Whether the pairs of two neighbouring opening delimiters touch on both sides. -/
def isStrongPair (delimiters : Array Delimiter) (opener outer : Delimiter) (partner : Nat) : Bool :=
  let closer := delimiters.getD partner default
  let outerCloser := delimiters.getD (partner + 1) default
  outer.partner = some (partner + 1) && outer.mark = opener.mark
    && outer.token + 1 = opener.token && outerCloser.token = closer.token + 1

/-- Goes through the first `count` delimiters from the last to the first and makes emphasis tokens
of their pairs. The characters of the outer pair of strong emphasis vanish. -/
def markEmphasis (delimiters : Array Delimiter) : (count : Nat) → Array Token → Array Token
  | 0, tokens => tokens
  | index + 1, tokens =>
    let opener := delimiters.getD index default
    match opener.partner with
    | none => markEmphasis delimiters index tokens
    | some partner =>
      let closer := delimiters.getD partner default
      let place (isStrong : Bool) (tokens : Array Token) : Array Token :=
        (tokens.setIfInBounds opener.token (emphasisToken isStrong true opener.mark)).setIfInBounds
          closer.token (emphasisToken isStrong false opener.mark)
      match index with
      | 0 => place false tokens
      | before + 1 =>
        let outer := delimiters.getD before default
        if isStrongPair delimiters opener outer partner then
          let outerCloser := delimiters.getD (partner + 1) default
          let clear (token : Token) : Token := { token with content := [] }
          markEmphasis delimiters before
            (((place true tokens).modify outer.token clear).modify outerCloser.token clear)
        else markEmphasis delimiters (before + 1) (place false tokens)

/-- The tokens with all pairs of all groups marked. -/
def markGroups (groups : Array (Array Delimiter)) (tokens : Array Token) : Array Token :=
  groups.foldl (fun tokens group =>
    let paired := pairDelimiters group
    markEmphasis paired paired.size tokens) tokens

/-! ## Neighbouring texts -/

/-- Joins neighbouring text tokens. -/
def joinTexts : List Token → List Token
  | [] => []
  | token :: rest =>
    match joinTexts rest with
    | next :: more =>
      if token.kind = "text" && next.kind = "text" then
        { next with content := token.content ++ next.content } :: more
      else token :: next :: more
    | [] => [token]

/-- Makes text of escapes and character references and joins it with the text around it. The joined
token has the markup of its first part. -/
def joinSpecial : List Token → List Token
  | [] => []
  | token :: rest =>
    let token := if token.kind = "text_special" then { token with kind := "text" } else token
    match joinSpecial rest with
    | next :: more =>
      if token.kind = "text" && next.kind = "text" then
        { token with content := token.content ++ next.content } :: more
      else token :: next :: more
    | [] => [token]

end MarkdownCheck.Markdown
