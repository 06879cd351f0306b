import MarkdownCheck.Log
import MarkdownCheck.Pattern.Span

/-!
# Findings

- `Finding`: what a rule reports, a line with an explanation and a snippet.
- `Text.shorten`: shortens a snippet, keeping its start, its end, or both.
- `Finding.ofMismatch?`, `Finding.ofContext`, `lineWarning`: the ways to report.
-/

namespace MarkdownCheck

/-- What a rule reports. -/
structure Finding where
  /-- The line, counted from 1; `none` when the rule knows no line. -/
  lineNumber : Option Int
  /-- An explanation. -/
  detail : Option Text := none
  /-- A snippet of the text in question. -/
  context : Option Text := none
  /-- Where in the line it stands. -/
  span : Option Span := none
deriving DecidableEq, Repr

/-! ## Snippets -/

/-- A snippet is shortened to this many characters. -/
def longestContext : Nat := 30

/-- Stands for the characters left out. -/
def ellipsis : Text := ['.', '.', '.']

/-- A long text shortened: both of its ends if `left` and `right`, else its end if `right`, else
its start. -/
def Text.shorten (text : Text) (left right : Bool) : Text :=
  if text.length ≤ longestContext then text
  else
    let half := longestContext / 2
    if left && right then text.take half ++ ellipsis ++ text.drop (text.length - half)
    else if right then ellipsis ++ text.drop (text.length - longestContext)
    else text.take longestContext ++ ellipsis

/-! ## Values that are compared -/

/-- A value that a rule expects or finds. -/
inductive Observed where
  | nothing
  | flag (value : Bool)
  | number (value : Int)
  | text (value : Text)
deriving DecidableEq, Repr

namespace Observed

/-- A flag counts as the number 0 or 1. -/
def asNumber? : Observed → Option Int
  | .flag value => some (if value then 1 else 0)
  | .number value => some value
  | _ => none

/-- Whether two values agree. Flags and numbers are compared as numbers. -/
def agrees (expected actual : Observed) : Bool :=
  match expected.asNumber?, actual.asNumber? with
  | some a, some b => a = b
  | none, none => expected = actual
  | _, _ => false

/-- A value as a message shows it. -/
def shown : Observed → Text
  | .nothing => "None".toList
  | .flag true => "True".toList
  | .flag false => "False".toList
  | .number value => Text.ofInt value
  | .text value => value

end Observed

/-! ## Ways to report -/

namespace Finding

/-- Reports that two values differ; nothing when they agree. -/
def ofMismatch? (lineNumber : Int) (expected actual : Observed) (detail : Option Text)
    (span : Option Span) : Option Finding :=
  if expected.agrees actual then none
  else
    let message := "Expected: ".toList ++ expected.shown ++ "; Actual: ".toList ++ actual.shown
    let full := match detail with
      | some extra => if extra.isEmpty then message else message ++ "; ".toList ++ extra
      | none => message
    some { lineNumber := some lineNumber, detail := some full, span := span }

/-- Reports a shortened snippet. -/
def ofContext (lineNumber : Int) (context : Text) (left right : Bool) (span : Option Span) :
    Finding :=
  { lineNumber := some lineNumber, context := some (context.shorten left right), span := span }

end Finding

/-- A warning about a line, which is logged and reported to nobody. -/
def lineWarning (file : Text) (lineNumber : Int) (line rule : Text) : LogEntry where
  level := .warning
  message := file ++ ": ".toList ++ Text.ofInt lineNumber ++ ": ".toList ++ rule ++ ": ".toList
    ++ line.shorten false false

end MarkdownCheck
