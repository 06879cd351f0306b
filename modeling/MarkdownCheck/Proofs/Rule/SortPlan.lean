import Mathlib.Data.List.Sort

/-!
# Sorting by lines that may be missing

A sort knows its items only by comparing two of them. If the line of an item is missing, the first
comparison with it fails, and the sort with it. Whatever sort it is, there is such a comparison:
had it not looked at an item, it could not tell whether that comes first or last.

- `SortPlan`: a sort of `n` items as a tree of comparisons.
- `SortPlan.run`: the order that it finds, if it meets no missing line.
- `SortPlan.Sorts`: it finds an order by line for all lines that are there.
- `SortPlan.run_eq_none_iff`: a sort of several items fails exactly if some line is missing.
- `SortPlan.insertion`: a plan that sorts any number of items.
-/

namespace MarkdownCheck

/-- A way to put `n` items in order: which two to compare next, and the order found in the end. -/
inductive SortPlan (n : Nat) where
  | done (order : List (Fin n))
  /-- Asks whether the line of `i` is less than that of `j`. -/
  | ask (i j : Fin n) (less notLess : SortPlan n)

namespace SortPlan

variable {n : Nat}

/-- Whether a line is less than another one. A missing line cannot be compared. -/
def isLess? : Option Int → Option Int → Option Bool
  | some line, some other => some (line < other)
  | _, _ => none

/-- The order that a plan finds; `none` when it comes to a line that is missing. -/
def run (lines : Fin n → Option Int) : SortPlan n → Option (List (Fin n))
  | done order => some order
  | ask i j less notLess =>
    match isLess? (lines i) (lines j) with
    | some true => less.run lines
    | some false => notLess.run lines
    | none => none

/-- The plan sorts: if no line is missing it finds all items by line. -/
def Sorts (plan : SortPlan n) : Prop :=
  ∀ lines : Fin n → Int, ∃ order, plan.run (fun i => some (lines i)) = some order ∧
    order.Perm (List.finRange n) ∧ order.Pairwise fun i j => lines i ≤ lines j

/-! ## Plans and missing lines -/

theorem isLess?_eq_some {line other : Option Int} {answer : Bool}
    (h : isLess? line other = some answer) :
    ∃ a b, line = some a ∧ other = some b ∧ answer = decide (a < b) := by
  match line, other, h with
  | some a, some b, h => exact ⟨a, b, rfl, rfl, (Option.some.inj h).symm⟩

/-- A plan that has found an order has not looked at the missing lines, so it finds the same one
whatever stands in their place. -/
theorem run_of_extends {plan : SortPlan n} {lines : Fin n → Option Int} {filled : Fin n → Int}
    (hfilled : ∀ i, ∀ line ∈ lines i, filled i = line) {order : List (Fin n)}
    (h : plan.run lines = some order) : plan.run (fun i => some (filled i)) = some order := by
  induction plan with
  | done found => exact h
  | ask i j less notLess ihLess ihNotLess =>
    rw [run] at h
    cases hanswer : isLess? (lines i) (lines j) with
    | none =>
      rw [hanswer] at h
      cases h
    | some answer =>
      obtain ⟨a, b, hi, hj, rfl⟩ := isLess?_eq_some hanswer
      have hask : isLess? (some (filled i)) (some (filled j)) = some (decide (a < b)) := by
        rw [hfilled i a hi, hfilled j b hj]
        rfl
      rw [hanswer] at h
      rw [run, hask]
      cases hless : decide (a < b) with
      | true =>
        rw [hless] at h
        exact ihLess h
      | false =>
        rw [hless] at h
        exact ihNotLess h

/-- Lines with what is missing filled in, one item getting a line of its own. -/
def fill (lines : Fin n → Option Int) (item : Fin n) (line : Int) : Fin n → Int :=
  fun i => if i = item then line else (lines i).getD 0

/-- A sort of several items looks at each of them: one that it leaves out could come before another
one or behind it. -/
theorem isSome_of_run {plan : SortPlan n} (hplan : plan.Sorts) {lines : Fin n → Option Int}
    {order : List (Fin n)} (h : plan.run lines = some order) (hn : n ≠ 1) (item : Fin n) :
    (lines item).isSome := by
  by_contra hmissing
  rw [Option.not_isSome_iff_eq_none] at hmissing
  have hseveral : 2 ≤ n := by
    have := item.isLt
    omega
  obtain ⟨other, hother⟩ : ∃ other : Fin n, other ≠ item := by
    have : Nontrivial (Fin n) := Fin.nontrivial_iff_two_le.mpr hseveral
    exact exists_ne item
  -- the same order comes out whatever line the item has
  have hfound : ∀ line, order.Perm (List.finRange n) ∧
      order.Pairwise fun i j => fill lines item line i ≤ fill lines item line j := by
    intro line
    obtain ⟨found, hrun, hperm, hordered⟩ := hplan (fill lines item line)
    have hfilled : ∀ i, ∀ there ∈ lines i, fill lines item line i = there := by
      intro i there hthere
      have hne : i ≠ item := by
        rintro rfl
        simp [hmissing] at hthere
      rw [fill, if_neg hne, Option.mem_def.mp hthere, Option.getD_some]
    rw [run_of_extends hfilled h] at hrun
    obtain rfl := Option.some.inj hrun
    exact ⟨hperm, hordered⟩
  have hmem : ∀ i, i ∈ order := fun i => (hfound 0).1.mem_iff.mpr (List.mem_finRange i)
  have hbefore := (hfound ((lines other).getD 0 - 1)).2
  have hbehind := (hfound ((lines other).getD 0 + 1)).2
  have hself : ∀ line, fill lines item line item = line := fun _ => if_pos rfl
  have hkept : ∀ line, fill lines item line other = (lines other).getD 0 := fun _ => if_neg hother
  obtain ⟨front, back, rfl⟩ := List.append_of_mem (hmem item)
  rcases List.mem_append.mp (hmem other) with hfront | hback
  · have hle := (List.pairwise_append.mp hbefore).2.2 other hfront item List.mem_cons_self
    rw [hself, hkept] at hle
    omega
  · have hback : other ∈ back := (List.mem_cons.mp hback).resolve_left hother
    have hle := List.rel_of_pairwise_cons (List.pairwise_append.mp hbehind).2.1 hback
    rw [hself, hkept] at hle
    omega

/-- A sort of several items fails exactly if the line of one is missing. -/
theorem run_eq_none_iff {plan : SortPlan n} (hplan : plan.Sorts) (hn : n ≠ 1)
    (lines : Fin n → Option Int) : plan.run lines = none ↔ ∃ item, lines item = none := by
  constructor
  · intro h
    by_contra hall
    have hthere : ∀ i, lines i ≠ none := fun i hi => hall ⟨i, hi⟩
    obtain ⟨order, hrun, -⟩ := hplan fun i => (lines i).getD 0
    have hlines : (fun i => some ((lines i).getD 0)) = lines := by
      funext i
      obtain ⟨line, hline⟩ := Option.ne_none_iff_exists'.mp (hthere i)
      rw [hline, Option.getD_some]
    rw [hlines, h] at hrun
    cases hrun
  · rintro ⟨item, hmissing⟩
    cases h : plan.run lines with
    | none => rfl
    | some order =>
      have hsome := isSome_of_run hplan h hn item
      rw [hmissing] at hsome
      cases hsome

/-! ## A plan that sorts -/

/-- Finds the place of an item in a list and goes on with the longer list. -/
def insertThen (item : Fin n) : List (Fin n) → (List (Fin n) → SortPlan n) → SortPlan n
  | [], next => next [item]
  | first :: rest, next =>
    ask first item (insertThen item rest fun longer => next (first :: longer))
      (next (item :: first :: rest))

/-- Sorts a list by insertion and goes on with what comes out. -/
def sortThen : List (Fin n) → (List (Fin n) → SortPlan n) → SortPlan n
  | [], next => next []
  | item :: rest, next => sortThen rest fun sorted => insertThen item sorted next

/-- Sorts by insertion. -/
def insertion (n : Nat) : SortPlan n :=
  sortThen (List.finRange n) done

theorem run_insertThen (lines : Fin n → Int) (item : Fin n) (sorted : List (Fin n))
    (next : List (Fin n) → SortPlan n) :
    (insertThen item sorted next).run (fun i => some (lines i)) =
      (next (sorted.orderedInsert (fun i j => lines i ≤ lines j) item)).run
        fun i => some (lines i) := by
  induction sorted generalizing next with
  | nil => rfl
  | cons first rest ih =>
    rw [insertThen, run, isLess?, List.orderedInsert_cons]
    by_cases hless : lines first < lines item
    · rw [if_neg (by omega), decide_eq_true hless]
      exact ih fun longer => next (first :: longer)
    · rw [if_pos (by omega), decide_eq_false hless]

theorem run_sortThen (lines : Fin n → Int) (items : List (Fin n))
    (next : List (Fin n) → SortPlan n) :
    (sortThen items next).run (fun i => some (lines i)) =
      (next (items.insertionSort fun i j => lines i ≤ lines j)).run fun i => some (lines i) := by
  induction items generalizing next with
  | nil => rfl
  | cons item rest ih =>
    rw [sortThen, ih, run_insertThen]
    rfl

/-- There is a plan that sorts, for every number of items. -/
theorem sorts_insertion (n : Nat) : (insertion n).Sorts := by
  intro lines
  have : Std.Total fun i j : Fin n => lines i ≤ lines j := ⟨fun i j => Int.le_total _ _⟩
  have : IsTrans (Fin n) fun i j => lines i ≤ lines j := ⟨fun _ _ _ => Int.le_trans⟩
  exact ⟨_, run_sortThen lines _ done, List.perm_insertionSort _ _,
    List.pairwise_insertionSort _ _⟩

end SortPlan

end MarkdownCheck
