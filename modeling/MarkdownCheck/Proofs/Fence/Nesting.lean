import Mathlib.Algebra.BigOperators.Group.List.Basic
import Mathlib.Algebra.Ring.Int.Defs
import MarkdownCheck.Proofs.Fence.Scan

/-!
# Blocks open and close in turn

Read from the top, the classes of lines go into a block at an opening fence and out of it at the
next closing one. Blocks do not nest and the last one is closed, so counting an opening fence as 1
and a closing one as -1 tells at each line whether it is inside.

- `FencedFrom`: classes that can follow outside or inside a block.
- `fencedFrom_scanFences`: the classes that the scan gives follow each other in this way.
- `FencedFrom.exists_depth_take`: what the boundaries above a line add up to.
-/

namespace MarkdownCheck

/-- Classes of lines down to the end of a document, the first one inside a block or not. -/
inductive FencedFrom : Bool → List LineClass → Prop
  | nil : FencedFrom false []
  | plain {rest : List LineClass} (h : FencedFrom false rest) : FencedFrom false (.plain :: rest)
  | opening {rest : List LineClass} (h : FencedFrom true rest) :
    FencedFrom false (.opening :: rest)
  | code {rest : List LineClass} (h : FencedFrom true rest) : FencedFrom true (.code :: rest)
  | closing {rest : List LineClass} (h : FencedFrom false rest) :
    FencedFrom true (.closing :: rest)

theorem FencedFrom.replicate_code {rest : List LineClass} (h : FencedFrom true rest) (n : Nat) :
    FencedFrom true (List.replicate n .code ++ rest) := by
  induction n with
  | zero => exact h
  | succ n ih =>
    rw [List.replicate_succ, List.cons_append]
    exact .code ih

/-- The scan leaves no block open and opens none inside another. -/
theorem fencedFrom_scanFences (lines : List Text) : FencedFrom false (scanFences lines) := by
  rw [scanFences_eq_fencedClasses]
  fun_induction fencedClasses lines with
  | case1 => exact .nil
  | case2 _ _ _ ih => exact .plain ih
  | case3 _ _ _ _ _ ih => exact .plain ih
  | case4 _ _ _ _ n _ ih => exact .opening ((FencedFrom.closing ih).replicate_code n)

/-- The number of open blocks. -/
def depth (inside : Bool) : Int :=
  if inside then 1 else 0

theorem depth_eq_one_iff {inside : Bool} : depth inside = 1 ↔ inside = true := by
  cases inside <;> decide

theorem depth_eq_zero_or_one (inside : Bool) : depth inside = 0 ∨ depth inside = 1 := by
  cases inside <;> decide

namespace FencedFrom

variable {inside : Bool} {classes : List LineClass}

/-- One line: its boundary is the step from the depth above it to the depth below it. -/
theorem exists_depth_step {line : LineClass} {rest : List LineClass}
    (h : FencedFrom inside (line :: rest)) :
    ∃ below, FencedFrom below rest ∧ depth inside + line.boundary.step = depth below ∧
      (inside ∨ below → line.inCode) ∧ (line.boundary ≠ .none → line.inCode) := by
  cases h with
  | plain h => exact ⟨false, h, rfl, by simp, fun hne => absurd rfl hne⟩
  | opening h => exact ⟨true, h, rfl, fun _ => rfl, fun _ => rfl⟩
  | code h => exact ⟨true, h, rfl, fun _ => rfl, fun _ => rfl⟩
  | closing h => exact ⟨false, h, rfl, fun _ => rfl, fun _ => rfl⟩

/-- Several lines: the boundaries add up to the step from the first depth to the last one. -/
theorem exists_depth_take (h : FencedFrom inside classes) (k : Nat) :
    ∃ below, FencedFrom below (classes.drop k) ∧
      depth inside + ((classes.take k).map (·.boundary.step)).sum = depth below := by
  -- a line takes part in the sum once, whatever is open above it
  induction k generalizing inside classes with
  | zero => exact ⟨inside, h, Int.add_zero _⟩
  | succ k ih =>
    cases classes with
    | nil => exact ⟨inside, h, Int.add_zero _⟩
    | cons line rest =>
      obtain ⟨next, hrest, hstep, -⟩ := h.exists_depth_step
      obtain ⟨below, hbelow, hsum⟩ := ih hrest
      refine ⟨below, hbelow, ?_⟩
      rw [List.take_succ_cons, List.map_cons, List.sum_cons, ← Int.add_assoc, hstep, hsum]

/-- The boundaries from the top down to any line add up to 0 or 1. -/
theorem sum_take_eq_zero_or_one (h : FencedFrom false classes) (k : Nat) :
    ((classes.take k).map (·.boundary.step)).sum = 0 ∨
      ((classes.take k).map (·.boundary.step)).sum = 1 := by
  obtain ⟨below, -, hsum⟩ := h.exists_depth_take k
  rw [depth, if_neg Bool.false_ne_true, Int.zero_add] at hsum
  rw [hsum]
  exact depth_eq_zero_or_one below

/-- All boundaries together add up to 0. -/
theorem sum_eq_zero (h : FencedFrom false classes) :
    (classes.map (·.boundary.step)).sum = 0 := by
  obtain ⟨below, hend, hsum⟩ := h.exists_depth_take classes.length
  rw [List.drop_length] at hend
  cases hend
  rw [List.take_length, depth, if_neg Bool.false_ne_true, Int.zero_add] at hsum
  exact hsum

/-- A line that is inside a block above it or below it is code, and so is every boundary. -/
theorem inCode_of_sum (h : FencedFrom false classes) {i : Nat} {line : LineClass}
    (hline : classes[i]? = some line) :
    (((classes.take i).map (·.boundary.step)).sum = 1 ∨
        ((classes.take (i + 1)).map (·.boundary.step)).sum = 1 → line.inCode) ∧
      (line.boundary ≠ .none → line.inCode) := by
  obtain ⟨above, habove, hsum⟩ := h.exists_depth_take i
  obtain ⟨hlt, rfl⟩ := List.getElem?_eq_some_iff.mp hline
  rw [List.drop_eq_getElem_cons hlt] at habove
  obtain ⟨below, -, hstep, hinside, hboundary⟩ := habove.exists_depth_step
  rw [depth, if_neg Bool.false_ne_true, Int.zero_add] at hsum
  refine ⟨fun hone => hinside ?_, hboundary⟩
  rw [List.take_succ_eq_append_getElem hlt, List.map_append, List.sum_append, hsum,
    List.map_singleton, List.sum_singleton, hstep, depth_eq_one_iff, depth_eq_one_iff] at hone
  exact hone

end FencedFrom

end MarkdownCheck
