import MarkdownCheck.Text.Basic

/-!
# Patterns

- `Pattern`: a pattern over the characters of a text, with numbered groups.
- `Pattern.ends`: every way to match at a place, the preferred way first.
- `Pattern.matchStart?`, `Pattern.search?`: the preferred match at the start, and the first match.

A repetition prefers as many or as few rounds as its flag says. A round that takes no character
ends it, so the length of the text bounds the number of rounds.
-/

namespace MarkdownCheck

/-- A pattern over the characters of a text. -/
inductive Pattern where
  /-- Matches nothing, everywhere. -/
  | empty
  /-- One character of a class. -/
  | one (accepts : Char → Bool)
  /-- One pattern, then another. -/
  | seq (first second : Pattern)
  /-- One of two patterns, preferably the first. -/
  | either (first second : Pattern)
  /-- Any number of rounds, as many as possible if `greedy`, else as few as possible. -/
  | many (greedy : Bool) (round : Pattern)
  /-- A numbered group. -/
  | group (number : Nat) (inside : Pattern)
  /-- The text that a group has matched. -/
  | same (number : Nat)
  /-- The start of the text. -/
  | atStart
  /-- The end of the text, or a line feed that ends it. -/
  | atEnd
  /-- A place where a pattern would match. -/
  | ahead (inside : Pattern)

/-- What a group has matched. -/
structure Capture where
  group : Nat
  start : Nat
  text : Text
deriving DecidableEq, Repr

/-- A place in a text, with what the groups have matched so far, the last one to end first. -/
structure Place where
  position : Nat
  rest : Text
  captures : List Capture := []
deriving DecidableEq, Repr

namespace Place

/-- The place behind the next `n` characters. -/
def advance (place : Place) (n : Nat) : Place :=
  { place with position := place.position + n, rest := place.rest.drop n }

/-- What a group has matched last. -/
def captured? (place : Place) (number : Nat) : Option Capture :=
  place.captures.find? (·.group = number)

end Place

namespace Pattern

/-- All ends of a repetition, at most `bound` rounds long. -/
def rounds (step : Place → List Place) (greedy : Bool) : (bound : Nat) → Place → List Place
  | 0, place => [place]
  | bound + 1, place =>
    let further := (step place).flatMap fun next =>
      if place.position < next.position then rounds step greedy bound next else []
    if greedy then further ++ [place] else place :: further

/-- The places behind every match at a place, the preferred one first. -/
def ends : Pattern → Place → List Place
  | .empty, place => [place]
  | .one accepts, place =>
    match place.rest with
    | c :: _ => if accepts c then [place.advance 1] else []
    | [] => []
  | .seq first second, place => (first.ends place).flatMap second.ends
  | .either first second, place => first.ends place ++ second.ends place
  | .many greedy round, place => rounds round.ends greedy place.rest.length place
  | .group number inside, place =>
    (inside.ends place).map fun next =>
      let text := place.rest.take (next.position - place.position)
      { next with captures := ⟨number, place.position, text⟩ :: next.captures }
  | .same number, place =>
    match place.captured? number with
    | some capture =>
      if (Text.dropPrefix? capture.text place.rest).isSome then
        [place.advance capture.text.length]
      else []
    | none => []
  | .atStart, place => if place.position = 0 then [place] else []
  | .atEnd, place => if place.rest.isEmpty || place.rest = ['\n'] then [place] else []
  | .ahead inside, place => if (inside.ends place).isEmpty then [] else [place]

/-! ## Matches -/

/-- A match: where it stands and what its groups have matched. -/
structure Match where
  start : Nat
  stop : Nat
  captures : List Capture
deriving DecidableEq, Repr

/-- The preferred match at a place. -/
def matchAt? (pattern : Pattern) (place : Place) : Option Match :=
  (pattern.ends place).head?.map fun next => ⟨place.position, next.position, next.captures⟩

/-- The preferred match at the start of a text. -/
def matchStart? (pattern : Pattern) (text : Text) : Option Match :=
  pattern.matchAt? ⟨0, text, []⟩

/-- The first match from a position on, `rest` being the text from there. -/
def searchFrom? (pattern : Pattern) (position : Nat) : (rest : Text) → Option Match
  | [] => pattern.matchAt? ⟨position, [], []⟩
  | c :: rest =>
    (pattern.matchAt? ⟨position, c :: rest, []⟩).or (pattern.searchFrom? (position + 1) rest)

/-- The first match in a text. -/
def search? (pattern : Pattern) (text : Text) : Option Match :=
  pattern.searchFrom? 0 text

namespace Match

/-- What a group has matched. -/
def captured? (found : Match) (number : Nat) : Option Text :=
  (found.captures.find? (·.group = number)).map (·.text)

/-- The group that ended last, 0 when none has matched. -/
def lastGroup (found : Match) : Nat :=
  (found.captures.head?.map (·.group)).getD 0

end Match

/-- The number of groups of a pattern. -/
def groupCount : Pattern → Nat
  | .seq first second | .either first second => first.groupCount + second.groupCount
  | .many _ inside | .ahead inside => inside.groupCount
  | .group _ inside => inside.groupCount + 1
  | _ => 0

/-! ## Building patterns -/

/-- This character. -/
def char (c : Char) : Pattern :=
  .one (· = c)

/-- One of these characters. -/
def anyOf (chars : String) : Pattern :=
  .one fun c => chars.toList.contains c

/-- These patterns, one after the other. -/
def all (patterns : List Pattern) : Pattern :=
  patterns.foldr .seq .empty

/-- The first of these patterns that matches. -/
def first : Pattern → List Pattern → Pattern
  | pattern, [] => pattern
  | pattern, next :: more => .either pattern (first next more)

/-- This text. -/
def word (text : String) : Pattern :=
  all (text.toList.map char)

/-- One round or none, preferably one. -/
def optional (pattern : Pattern) : Pattern :=
  .either pattern .empty

/-- As many rounds as possible. -/
def star (pattern : Pattern) : Pattern :=
  .many true pattern

/-- As many rounds as possible, at least one. -/
def plus (pattern : Pattern) : Pattern :=
  .seq pattern (star pattern)

/-- As few rounds as possible. -/
def lazyStar (pattern : Pattern) : Pattern :=
  .many false pattern

/-- At most `n` rounds, as many as possible. -/
def upTo : Nat → Pattern → Pattern
  | 0, _ => .empty
  | n + 1, pattern => optional (.seq pattern (upTo n pattern))

/-- Exactly `n` rounds. -/
def times (n : Nat) (pattern : Pattern) : Pattern :=
  all (List.replicate n pattern)

end Pattern

end MarkdownCheck
