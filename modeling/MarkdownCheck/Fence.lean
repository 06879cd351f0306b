import MarkdownCheck.Text.Basic

/-!
# Fences

A fence is a run of three or more backticks or tildes after at most three spaces.

- `Fence.run?`: the run at the start of a line.
- `Fence.toggles`: a rough rule for lines that nothing else is known about.
- `FenceContext`: the fence that is open, with `open?` and `close?` as its moves.
- `FenceContext.close`: the second move for any context; `FenceFailure` tells why it has no answer.
-/

namespace MarkdownCheck

namespace Fence

/-- A character that fences are made of. -/
def isMark (c : Char) : Bool :=
  c = '`' || c = '~'

/-- The run of backticks or tildes that a text starts with, if it is long enough for a fence. -/
def runAt? : Text → Option Text
  | [] => none
  | c :: rest =>
    let run := c :: rest.takeWhile (· = c)
    if isMark c ∧ 3 ≤ run.length then some run else none

/-- The fence at the start of a line. What follows the run plays no part. -/
def run? (line : Text) : Option Text :=
  if (line.takeWhile (· = ' ')).length ≤ 3 then runAt? (line.dropWhile (· = ' ')) else none

/-- Whether a line stands in code, by a rough rule for lines without an index: three backticks
anywhere on a line switch. -/
def toggle (inCode : Bool) (line : Text) : Bool :=
  if Text.includes ['`', '`', '`'] line then !inCode else inCode

/-- The state that the rough rule gives behind each of several lines. -/
def toggles (inCode : Bool) : List Text → List Bool
  | [] => []
  | line :: rest => toggle inCode line :: toggles (toggle inCode line) rest

end Fence

/-- The fence that is open while lines are read. -/
structure FenceContext where
  /-- The run that opened the block, `none` outside blocks. -/
  fence : Option Text := none
  /-- The index of the opening line, -1 outside blocks. -/
  openIndex : Int := -1
deriving DecidableEq, Repr

/-- Why it cannot be told whether a line closes a block. -/
inductive FenceFailure where
  /-- The run that opened the block is empty and has no character to compare with. -/
  | emptyRun
deriving DecidableEq, Repr

namespace FenceContext

/-- Opens a block at a line that starts with a fence; `none` when one is open or no fence is
there. -/
def open? (context : FenceContext) (line : Text) (index : Int) : Option FenceContext :=
  if context.fence.isSome then none
  else (Fence.run? line).map fun run => ⟨some run, index⟩

/-- Closes the open block at a line with a fence of the same character, of whatever length; `none`
when the line does not close it. -/
def close? (context : FenceContext) (line : Text) : Option FenceContext := do
  let opening ← context.fence
  let run ← Fence.run? line
  if run.head? = opening.head? then some {} else none

/-- Closes the open block of any context, whether `open?` has made it or not: `close?`, as long as
there is something to compare a fence with. -/
def close (context : FenceContext) (line : Text) : Except FenceFailure (Option FenceContext) :=
  if context.fence = some [] && (Fence.run? line).isSome then .error .emptyRun
  else .ok (context.close? line)

end FenceContext

end MarkdownCheck
