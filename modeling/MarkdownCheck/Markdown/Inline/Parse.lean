import MarkdownCheck.Markdown.Html
import MarkdownCheck.Markdown.Link.Address
import MarkdownCheck.Markdown.Link.Label
import MarkdownCheck.Markdown.Link.Target
import MarkdownCheck.Markdown.Inline.Emphasis

/-!
# Inline structure

- `parseInline`: the inline tokens of a text.

Readers look at what stands at the position and tell whether it was theirs. A reader is `quiet` when
it only has to find the end of a token and makes none. To find the end of a link label the tokens in
it are skipped, which may look for labels in turn; `skipToken` bounds how deep.
-/

namespace MarkdownCheck.Markdown

/-- What a reader leaves, and whether something of its kind stood there. -/
abbrev Attempt := InlineState × Bool

/-- A reader of what stands at the position. -/
abbrev InlineReader := InlineSource → (quiet : Bool) → InlineState → Attempt

namespace InlineReader

/-- Nothing of the kind stands here. -/
def missed (state : InlineState) : Attempt :=
  (state, false)

/-- Something of the kind stands here. -/
def found (state : InlineState) : Attempt :=
  (state, true)

/-! ## Text -/

/-- A character at which plain text ends. -/
def endsText (c : Char) : Bool :=
  "\n!#$%&*+-:<=>@[\\]^_\x60\x7b\x7d~".toList.contains c

/-- Plain text. -/
def text : InlineReader := fun source quiet state =>
  let run := (source.rest state.position).takeWhile (!endsText ·)
  if run.isEmpty then missed state
  else
    let next := state.moveTo (state.position + run.length)
    found (if quiet then next else next.append run)

/-- The state behind a line break and the blanks that start the next line. -/
def skipBreak (source : InlineSource) (state : InlineState) (position : Nat) : InlineState :=
  let spaces := (state.restFrom source position).takeWhile isSpace
  state.moveTo (position + spaces.length)

/-- A line feed. It is a hard break behind two spaces; the spaces before it vanish. -/
def newline : InlineReader := fun source quiet state =>
  if state.current? source = some '\n' then
    let next := skipBreak source state (state.position + 1)
    if quiet then found next
    else
      let spaces := next.pending.takeWhile (· = ' ')
      let kind := if 2 ≤ spaces.length then "hardbreak" else "softbreak"
      found ({ next with pending := next.pending.drop spaces.length }.push { kind, tag := "br" })
  else missed state

/-- A backslash: an escape, a hard break before a line feed, or itself. -/
def escape : InlineReader := fun source quiet state =>
  match state.restFrom source state.position with
  | '\\' :: c :: _ =>
    if c = '\n' then
      let next := skipBreak source state (state.position + 2)
      found (if quiet then next else next.push { kind := "hardbreak", tag := "br" })
    else
      let next := state.moveTo (state.position + 2)
      let markup := ['\\', c]
      let content := if isAsciiSign c then [c] else markup
      found (if quiet then next
        else next.push { kind := "text_special", content, markup, info := "escape".toList })
  | _ => missed state

/-- A character reference. -/
def entity : InlineReader := fun source quiet state =>
  if state.current? source = some '&' && state.position + 1 < state.stop then
    match Entity.read? (source.rest state.position) with
    | some reference =>
      let next := state.moveTo (state.position + reference.source.length)
      found (if quiet then next
        else next.push {
          kind := "text_special", content := reference.text, markup := reference.source
          info := "entity".toList })
    | none => missed state
  else missed state

/-! ## Code -/

/-- The text of a code span. Line feeds count as spaces; one space falls off at each end of a text
that has spaces there and is not all spaces. -/
def codeText (content : Text) : Text :=
  let spaced := content.map fun c => if c = '\n' then ' ' else c
  if spaced.head? = some ' ' && spaced.getLast? = some ' ' && !spaced.all (· = ' ') then
    spaced.tail.dropLast
  else spaced

/-- How many characters stand before the first run of exactly `size` backticks. The text goes on
behind `before` characters and a run of `run` backticks. -/
def beforeTicks? (size : Nat) : (before run : Nat) → Text → Option Nat
  | before, run, [] => if run = size then some before else none
  | before, run, c :: rest =>
    if c = '\x60' then beforeTicks? size before (run + 1) rest
    else if run = size then some before
    else beforeTicks? size (before + run + 1) 0 rest

/-- A code span, which the next run of equally many backticks ends; or backticks that start none. -/
def code : InlineReader := fun source quiet state =>
  let marks := (state.restFrom source state.position).takeWhile (· = '\x60')
  let size := marks.length
  let inside := state.position + size
  if size = 0 then missed state
  else
    match beforeTicks? size 0 0 (source.rest inside) with
    | some count =>
      let next := state.moveTo (inside + count + size)
      found (if quiet then next
        else next.push {
          kind := "code_inline", tag := "code", markup := marks
          content := codeText (source.slice inside (inside + count)) })
    | none =>
      let next := state.moveTo inside
      found (if quiet then next else next.append marks)

/-! ## Emphasis -/

/-- Adds a text token for each character of a run of delimiters. -/
def pushRun (mark : Char) (run : InlineState.Run) : Nat → InlineState → InlineState
  | 0, state => state
  | count + 1, state =>
    let pushed := state.push { kind := "text", content := [mark] }
    pushRun mark run count (pushed.pushDelimiter {
      mark := mark, size := run.size, token := pushed.tokens.size - 1
      opens := run.opens, closes := run.closes })

/-- A run of delimiters. Each character is text until the pairs are known. -/
def emphasis : InlineReader := fun source quiet state =>
  match state.current? source with
  | some mark =>
    if !quiet && (mark = '*' || mark = '_') then
      let run := state.scanRun source mark (mark = '*')
      found ((pushRun mark run run.size state).moveTo (state.position + run.size))
    else missed state
  | none => missed state

/-! ## Angle brackets -/

open Pattern in
/-- An address with a scheme. -/
def schemeAddress : Pattern :=
  all [.one Char.isAlpha,
    let schemeChar := Pattern.one fun c => c.isAlphanum || c = '+' || c = '.' || c = '-'
    .seq schemeChar (upTo 30 schemeChar),
    char ':', star (.one fun c => ' ' < c && c ≠ '<' && c ≠ '>'), .atEnd]

open Pattern in
/-- A mail address. -/
def mailAddress : Pattern :=
  let figure := Pattern.one Char.isAlphanum
  let inner := Pattern.one fun c => c.isAlphanum || c = '-'
  let label := Pattern.seq figure (Pattern.optional (.seq (upTo 61 inner) figure))
  all [plus (.one fun c => c.isAlphanum || ".!#$%&'*+/=?^_\x60\x7b|\x7d~-".toList.contains c),
    char '@', label, star (.seq (char '.') label), .atEnd]

/-- An address between angle brackets. -/
def autolink : InlineReader := fun source quiet state =>
  match state.restFrom source state.position with
  | '<' :: rest =>
    let url := rest.takeWhile fun c => c ≠ '<' && c ≠ '>'
    let isScheme := (schemeAddress.matchStart? url).isSome
    let isMail := !isScheme && (mailAddress.matchStart? url).isSome
    let target := if isMail then "mailto:".toList ++ url else url
    if (rest.drop url.length).head? = some '>' && (isScheme || isMail) && Address.isSafe target then
      let next := state.moveTo (state.position + url.length + 2)
      let link (kind : String) : Token :=
        { kind := kind, tag := "a", markup := "autolink".toList, info := "auto".toList }
      found (if quiet then next
        else ((next.pushOpening (link "link_open")).push
            { kind := "text", content := Address.display url }).pushClosing (link "link_close"))
    else missed state
  | _ => missed state

/-- HTML. -/
def html : InlineReader := fun source quiet state =>
  match state.restFrom source state.position with
  | '<' :: c :: _ :: _ =>
    if c = '!' || c = '?' || c = '/' || c.isAlpha then
      match Html.tag.matchStart? (source.rest state.position) with
      | some tag =>
        let stop := state.position + tag.stop
        let next := state.moveTo stop
        found (if quiet then next
          else next.push { kind := "html_inline", content := source.slice state.position stop })
      | none => missed state
    else missed state
  | _ => missed state

/-! ## Links and images -/

/-- Looks for the bracket that closes a label, from the position on, with `depth` brackets open. A
label that has links inside is refused if `alone`. -/
def findLabelEnd (skip : InlineState → InlineState) (source : InlineSource) (alone : Bool) :
    (bound depth : Nat) → InlineState → InlineState × Option Nat
  | 0, _, state => (state, none)
  | bound + 1, depth, state =>
    match state.current? source with
    | none => (state, none)
    | some c =>
      let depth := if c = ']' then depth - 1 else depth
      if c = ']' && depth = 0 then (state, some state.position)
      else
        let next := skip state
        if c = '[' then
          if next.position = state.position + 1 then
            findLabelEnd skip source alone bound (depth + 1) next
          else if alone then (next, none)
          else findLabelEnd skip source alone bound depth next
        else findLabelEnd skip source alone bound depth next

/-- The end of the label whose opening bracket stands at `start`. -/
def labelEnd (skip : InlineState → InlineState) (source : InlineSource) (alone : Bool) (start : Nat)
    (state : InlineState) : InlineState × Option Nat :=
  let (after, stop) :=
    findLabelEnd skip source alone (source.chars.size + 1) 1 (state.moveTo (start + 1))
  (after.moveTo state.position, stop)

/-- What follows destination and title, read from behind the opening parenthesis; `none` when there
are only blanks. The destination of an unsafe link is not read. -/
def afterTarget? (text : Text) : Option Text :=
  let text := skipBlanks text
  if text.isEmpty then none
  else
    let rest := match takeDestination? text with
      | some (destination, rest) => if Address.isSafe destination then rest else text
      | none => text
    let gap := skipBlanks rest
    match takeTitle gap with
    | .closed _ after => if gap.length < rest.length then some (skipBlanks after) else some gap
    | _ => some gap

/-- Looks for a link reference whose label stands between `start` and `stop`, with another label
that may stand at `position`: the end of the reference. -/
def referenceEnd (skip : InlineState → InlineState) (source : InlineSource) (start stop : Nat)
    (position : Nat) (state : InlineState) : InlineState × Option Nat :=
  if source.keys.isEmpty then (state, none)
  else
    let (state, second) :=
      if position < state.stop && source.chars[position]? = some '[' then
        labelEnd skip source false position state
      else (state, none)
    let (label, behind) := match second with
      | some secondStop => (source.slice (position + 1) secondStop, secondStop + 1)
      | none => ([], stop + 1)
    let key := referenceKey (if label.isEmpty then source.slice start stop else label)
    (state, if source.keys.contains key then some behind else none)

/-- The end of a link whose label stands between `start` and `stop`: a destination in parentheses,
or a reference. Where the parentheses do not close, a second label may stand behind the place where
they should have. -/
def linkEnd (skip : InlineState → InlineState) (source : InlineSource) (start stop : Nat)
    (state : InlineState) : InlineState × Option Nat :=
  match state.restFrom source (stop + 1) with
  | '(' :: rest =>
    match afterTarget? rest with
    | none => (state, none)
    | some after =>
      let position := state.stop - after.length
      if after.head? = some ')' then (state, some (position + 1))
      else referenceEnd skip source start stop (position + 1) state
  | _ => referenceEnd skip source start stop (stop + 1) state

/-- The end of an image whose label stands between `start` and `stop`. -/
def imageEnd (skip : InlineState → InlineState) (source : InlineSource) (start stop : Nat)
    (state : InlineState) : InlineState × Option Nat :=
  match state.restFrom source (stop + 1) with
  | '(' :: rest =>
    match afterTarget? rest with
    | some (')' :: after) => (state, some (state.stop - after.length))
    | _ => (state, none)
  | _ => referenceEnd skip source start stop (stop + 1) state

/-- A link. `inside` reads its label. -/
def link (skip inside : InlineState → InlineState) : InlineReader := fun source quiet state =>
  if state.current? source = some '[' then
    let start := state.position + 1
    match labelEnd skip source true state.position state with
    | (state, none) => missed state
    | (state, some stop) =>
      match linkEnd skip source start stop state with
      | (state, none) => missed state
      | (state, some behind) =>
        if quiet then found (state.moveTo behind)
        else
          let opened := { state with position := start, stop := stop }.pushOpening
            { kind := "link_open", tag := "a" }
          let closed := (inside opened).pushClosing { kind := "link_close", tag := "a" }
          found { closed with position := behind, stop := state.stop }
  else missed state

/-- An image. `parse` reads its label, which is a text of its own. -/
def image (skip : InlineState → InlineState) (parse : Text → List Token) : InlineReader :=
  fun source quiet state =>
    match state.restFrom source state.position with
    | '!' :: '[' :: _ =>
      let start := state.position + 2
      match labelEnd skip source false (state.position + 1) state with
      | (state, none) => missed state
      | (state, some stop) =>
        match imageEnd skip source start stop state with
        | (state, none) => missed state
        | (state, some behind) =>
          let next := state.moveTo behind
          let content := source.slice start stop
          found (if quiet then next
            else next.push { kind := "image", tag := "img", content, children := parse content })
    | _ => missed state

/-- The first of several readers that finds something. -/
def firstOf (readers : List InlineReader) : InlineReader := fun source quiet state =>
  match readers with
  | [] => missed state
  | reader :: rest =>
    match reader source quiet state with
    | (next, true) => found next
    | (next, false) => firstOf rest source quiet next

/-- All readers, in the order in which they look. -/
def all (skip inside : InlineState → InlineState) (parse : Text → List Token) : InlineReader :=
  firstOf [text, newline, escape, code, emphasis, link skip inside, image skip parse, autolink,
    html, entity]

end InlineReader

/-! ## Whole texts -/

namespace InlineState

/-- Notes where the token at a position ends. -/
def note (state : InlineState) (position : Nat) : InlineState :=
  { state with ends := state.ends.setIfInBounds position (some state.position) }

/-- Skips the token at the position. Labels in it are looked for `depth` levels deep; below that the
rest of the text is given up. -/
def skipToken (source : InlineSource) : (depth : Nat) → InlineState → InlineState
  | 0, state =>
    match (state.ends[state.position]?).join with
    | some stop => state.moveTo stop
    | none => (state.moveTo (state.stop + 1)).note state.position
  | depth + 1, state =>
    match (state.ends[state.position]?).join with
    | some stop => state.moveTo stop
    | none =>
      let reader := InlineReader.all (skipToken source depth) id fun _ => []
      match reader source true state with
      | (next, true) => next.note state.position
      | (next, false) => (next.moveTo (state.position + 1)).note state.position

/-- Reads up to the stop, `bound` tokens at most. Characters that no reader takes are text. -/
def readUpTo (reader : InlineReader) (source : InlineSource) : (bound : Nat) → InlineState →
    InlineState
  | 0, state => state.flush
  | bound + 1, state =>
    match state.current? source with
    | none => state.flush
    | some c =>
      match reader source false state with
      | (next, true) => readUpTo reader source bound next
      | (next, false) =>
        readUpTo reader source bound ((next.append [c]).moveTo (state.position + 1))

/-- Reads up to the stop with links at most `depth` levels deep. Below that everything is text. -/
def readAll (source : InlineSource) (parse : Text → List Token) : (depth : Nat) → InlineState →
    InlineState
  | 0, state => readUpTo (fun _ _ state => InlineReader.missed state) source source.chars.size state
  | depth + 1, state =>
    let reader :=
      InlineReader.all (skipToken source (depth + 1)) (readAll source parse depth) parse
    readUpTo reader source source.chars.size state

end InlineState

/-- Links are read to this depth. -/
def deepestLink : Nat := 20

/-- The inline tokens of a text, images in images read `depth` levels deep. -/
def parseInlineWithin (keys : List Text) : (depth : Nat) → Text → List Token
  | 0, _ => []
  | depth + 1, text =>
    let source : InlineSource := ⟨text.toArray, keys⟩
    let state := InlineState.readAll source (parseInlineWithin keys depth) deepestLink
      (InlineState.start source)
    joinSpecial (joinTexts (markGroups state.groups state.tokens).toList)

/-- The inline tokens of a text. The label of an image is shorter than the text around it, so the
length of the text bounds how deep images are nested. -/
def parseInline (keys : List Text) (text : Text) : List Token :=
  parseInlineWithin keys (text.length + 1) text

end MarkdownCheck.Markdown
