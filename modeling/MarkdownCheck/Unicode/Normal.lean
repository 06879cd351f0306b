import MarkdownCheck.Unicode.Decomposition
import MarkdownCheck.Unicode.Composition
import MarkdownCheck.Unicode.CombiningClass

/-!
# Normalization forms

- `decomposed`: the compatibility decomposition of a text, its marks in canonical order (NFKD).
- `composed`: the same text with every pair composed that can be (NFKC).

Both work on lists of characters. `sortMarks` orders the marks after each base; `recompose` reads
the ordered text once, holding the last base and the marks that wait behind it.
-/

namespace MarkdownCheck.Unicode

/-! ## Decomposition -/

/-- Inserts a mark of this class after the marks of its class and the lower ones that end the
reversed text `before`. -/
def insertMark (mark : Char) (value : Nat) : (before : List Char) → List Char
  | [] => [mark]
  | c :: before =>
    if value < combiningClass c then c :: insertMark mark value before else mark :: c :: before

/-- Brings the marks after each base into canonical order. Marks of one class keep their order. -/
def sortMarks (text : List Char) : List Char :=
  (text.foldl (fun before c =>
    let value := combiningClass c
    if value = 0 then c :: before else insertMark c value before) []).reverse

/-- The compatibility decomposition of a text. -/
def decomposed (text : List Char) : List Char :=
  sortMarks (text.flatMap fun c => (decompose c).getD [c])

/-! ## Composition -/

/-- A reading of an ordered text: what is settled (reversed), the base that may still compose, the
marks waiting behind it (reversed), and the class of the last mark that waits. -/
structure Composing where
  settled : List Char
  base : Option Char
  waiting : List Char
  lastClass : Nat

namespace Composing

/-- The text read so far, reversed. -/
def flush (state : Composing) : List Char :=
  state.waiting ++ (state.base.toList ++ state.settled)

/-- Reads one character. It composes with the base unless a mark of its class or a base stands
between them. -/
def push (state : Composing) (c : Char) : Composing :=
  let value := combiningClass c
  let composite := do
    let base ← state.base
    if state.waiting.isEmpty || (state.lastClass < value) then compose base c else none
  match composite with
  | some base => { state with base := some base }
  | none =>
    if value = 0 then ⟨state.flush, some c, [], 0⟩
    else { state with waiting := c :: state.waiting, lastClass := value }

end Composing

/-- Composes the pairs of an ordered text. -/
def recompose (text : List Char) : List Char :=
  (text.foldl Composing.push ⟨[], none, [], 0⟩).flush.reverse

/-- The compatibility composition of a text. -/
def composed (text : List Char) : List Char :=
  recompose (decomposed text)

end MarkdownCheck.Unicode
