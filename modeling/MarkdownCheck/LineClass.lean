import MarkdownCheck.Fence
import MarkdownCheck.Token

/-!
# Classes of lines

- `LineClass`: whether a line is code, bounds a fenced block, or belongs to a table.
- `scanFences`: the classes that fences alone give.
- `markCodeBlocks`, `markTables`: the passes over the tokens that add code blocks and tables.
- `classify`: what the scan and the passes come to, line by line.

A fence that nothing closes is plain text. The scan runs the fence context down the lines; when it
ends with a block open, what it marked from there on is taken back and the scan resumes on the line
after the opening one.

A pass goes through the tokens and writes at the positions of the lines that one spans, which are
cut off at both ends of the document.
-/

namespace MarkdownCheck

/-- Whether a line opens or closes a fenced block. -/
inductive Boundary where
  | none
  | opening
  | closing
deriving DecidableEq, Repr, Inhabited

/-- A boundary as a step of the nesting depth. -/
def Boundary.step : Boundary → Int
  | .none => 0
  | .opening => 1
  | .closing => -1

/-- The class of a line. -/
structure LineClass where
  /-- Part of a code block, the fences included. -/
  inCode : Bool := false
  /-- Whether it bounds a fenced block. -/
  boundary : Boundary := .none
  /-- Part of a table. -/
  inTable : Bool := false
deriving DecidableEq, Repr, Inhabited

namespace LineClass

/-- A line outside code and tables. -/
def plain : LineClass := {}

/-- A line inside a fenced block. -/
def code : LineClass := { inCode := true }

/-- A line that opens a fenced block. -/
def opening : LineClass := { inCode := true, boundary := .opening }

/-- A line that closes a fenced block. -/
def closing : LineClass := { inCode := true, boundary := .closing }

/-- A class as one number: 1 for code, 2 for a boundary, 4 for an opening one, 8 for a table. -/
def bits (line : LineClass) : Nat :=
  (if line.inCode then 1 else 0) + (if line.boundary = .none then 0 else 2)
    + (if line.boundary = .opening then 4 else 0) + (if line.inTable then 8 else 0)

end LineClass

/-! ## Fences -/

/-- The class of one line and the context after it. -/
def FenceContext.step (context : FenceContext) (line : Text) (index : Int) :
    LineClass × FenceContext :=
  match context.open? line index with
  | some next => (.opening, next)
  | none =>
    match context.close? line with
    | some next => (.closing, next)
    | none => (if context.fence.isSome then .code else .plain, context)

/-- One pass down the lines: their classes and the context at the end. -/
def FenceContext.pass (context : FenceContext) : Int → List Text → List LineClass × FenceContext
  | _, [] => ([], context)
  | index, line :: rest =>
    let (here, next) := context.step line index
    let (classes, last) := next.pass (index + 1) rest
    (here :: classes, last)

/-- The classes that fences give. A block that nothing closes does not count: the scan resumes
behind its opening line. -/
def scanFences : List Text → List LineClass
  | [] => []
  | first :: rest =>
    let (classes, context) := FenceContext.pass {} 0 (first :: rest)
    match context.fence with
    | none => classes
    | some _ =>
      let restart := context.openIndex.toNat
      classes.take restart ++ .plain :: scanFences (rest.drop restart)
termination_by lines => lines.length

/-! ## Passes over tokens -/

/-- The place in a list of `length` elements that a position means, if there is one. Negative
positions count from the end. -/
def resolvePosition? (position : Int) (length : Nat) : Option Nat :=
  let place := if position < 0 then position + length else position
  if 0 ≤ place ∧ place < length then some place.toNat else none

/-- The positions of a range in a document of `count` lines. -/
def LineRange.positions (range : LineRange) (count : Nat) : List Int :=
  let start := max range.start 0
  (List.range (min range.stop count - start).toNat).map fun offset : Nat => start + offset

section Passes

variable (kind : String) (mark : LineClass → LineClass)

/-- Marks the line at a position; `none` when no line is there. -/
def markAt (classes : List LineClass) (position : Int) : Option (List LineClass) :=
  (resolvePosition? position classes.length).map fun place => classes.modify place mark

/-- Marks the lines that a token spans, if it is of the kind. -/
def markToken (classes : List LineClass) (token : Token) : Option (List LineClass) :=
  if token.kind = kind then
    (token.range.elim [] (·.positions classes.length)).foldlM (markAt mark) classes
  else some classes

/-- Marks the lines that tokens of the kind span. -/
def markTokens (tokens : List Token) (classes : List LineClass) : Option (List LineClass) :=
  tokens.foldlM (markToken kind mark) classes

end Passes

/-- Marks the lines of code blocks. -/
def markCodeBlocks : List Token → List LineClass → Option (List LineClass) :=
  markTokens "code_block" ({ · with inCode := true })

/-- Marks the lines of tables. -/
def markTables : List Token → List LineClass → Option (List LineClass) :=
  markTokens "table_open" ({ · with inTable := true })

/-! ## All lines -/

/-- Whether a range covers a line. -/
def LineRange.covers (range : LineRange) (index : Int) : Bool :=
  range.start ≤ index && index < range.stop

/-- Whether some token of a kind covers a line. -/
def covered (kind : String) (tokens : List Token) (index : Int) : Bool :=
  tokens.any fun token => token.kind = kind && token.range.any (·.covers index)

/-- The class of each line: fences by their pattern, code blocks and tables by their tokens. The
signals only add to each other, so this is what the passes come to one after the other. -/
def classify (lines : List Text) (tokens : List Token) : List LineClass :=
  (scanFences lines).mapIdx fun index line =>
    { line with
      inCode := line.inCode || covered "code_block" tokens index
      inTable := line.inTable || covered "table_open" tokens index }

end MarkdownCheck
