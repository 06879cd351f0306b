import MarkdownCheck.LineClass
import MarkdownCheck.Proofs.Fence.Run

/-!
# What fences make of the lines

A scan marks lines as it meets them and takes its marks back when a block turns out to have no end.
What it comes to can be said without going back:

- `fencedClasses`: a fence that a later fence of its character answers opens a block up to the first
  such line; every other line is plain.
- `FenceContext.pass_outside`: one pass down the lines gets all blocks right in front of the one
  that it ends in.
- `scanFences_eq_and_fence_grammar`: the scan agrees, and what counts as a fence.
-/

namespace MarkdownCheck

/-- The character of the fence that a line starts with. -/
def Fence.mark? (line : Text) : Option Char :=
  (Fence.run? line).bind List.head?

theorem Fence.exists_run_of_mark? {line : Text} {mark : Char} (h : Fence.mark? line = some mark) :
    ∃ run, Fence.run? line = some run ∧ run.head? = some mark :=
  Option.bind_eq_some_iff.mp h

/-- A fence is a run of some mark, never an empty one. -/
theorem Fence.exists_mark_of_run? {line run : Text} (h : Fence.run? line = some run) :
    ∃ mark, run.head? = some mark ∧ Fence.mark? line = some mark := by
  obtain ⟨-, mark, n, -, -, -, hn, -, rfl, -⟩ := Fence.run?_eq_some_iff.mp h
  obtain ⟨n, rfl⟩ : ∃ k, n = k + 1 := ⟨n - 1, by omega⟩
  exact ⟨mark, rfl, by rw [Fence.mark?, h]; rfl⟩

theorem Fence.run?_eq_none_of_mark? {line : Text} (h : Fence.mark? line = none) :
    Fence.run? line = none := by
  cases hr : Fence.run? line with
  | none => rfl
  | some run =>
    obtain ⟨mark, -, hmark⟩ := Fence.exists_mark_of_run? hr
    rw [h] at hmark
    cases hmark

/-- The classes that fences give. A line that starts with a fence opens a block if a later line
starts with a fence of the same character; the first such line closes it. -/
def fencedClasses : List Text → List LineClass
  | [] => []
  | line :: rest =>
    match Fence.mark? line with
    | none => .plain :: fencedClasses rest
    | some mark =>
      match rest.findIdx? (Fence.mark? · = some mark) with
      | none => .plain :: fencedClasses rest
      | some n =>
        .opening :: (List.replicate n .code ++ .closing :: fencedClasses (rest.drop (n + 1)))
termination_by lines => lines.length
decreasing_by
  all_goals simp only [List.length_drop, List.length_cons]; omega

namespace FenceContext

/-! ## One line -/

theorem step_plain {line : Text} (h : Fence.mark? line = none) (index : Int) :
    step {} line index = (.plain, {}) := by
  have hr := Fence.run?_eq_none_of_mark? h
  simp [step, open?, close?, hr]

theorem step_opening {line run : Text} (h : Fence.run? line = some run) (index : Int) :
    step {} line index = (.opening, ⟨some run, index⟩) := by
  simp [step, open?, h]

variable {run : Text} {mark : Char}

/-- Inside a block, a fence of the same character closes it. -/
theorem step_closing (hrun : run.head? = some mark) {line : Text}
    (h : Fence.mark? line = some mark) (start index : Int) :
    step ⟨some run, start⟩ line index = (.closing, {}) := by
  cases hr : Fence.run? line with
  | none => simp [Fence.mark?, hr] at h
  | some own =>
    have hown : own.head? = some mark := by simpa [Fence.mark?, hr] using h
    simp [step, open?, close?, hr, hrun, hown]

/-- Inside a block, every other line is code. -/
theorem step_code (hrun : run.head? = some mark) {line : Text}
    (h : Fence.mark? line ≠ some mark) (start index : Int) :
    step ⟨some run, start⟩ line index = (.code, ⟨some run, start⟩) := by
  cases hr : Fence.run? line with
  | none => simp [step, open?, close?, hr]
  | some own =>
    have hown : own.head? ≠ some mark := by simpa [Fence.mark?, hr] using h
    simp [step, open?, close?, hr, hrun, hown]

/-! ## A pass down the lines -/

/-- Inside a block that nothing closes all lines are code, and the block stays open. -/
theorem pass_unclosed (hrun : run.head? = some mark) {lines : List Text}
    (h : lines.findIdx? (Fence.mark? · = some mark) = none) (start index : Int) :
    pass ⟨some run, start⟩ index lines =
      (List.replicate lines.length .code, ⟨some run, start⟩) := by
  induction lines generalizing index with
  | nil => rfl
  | cons line rest ih =>
    have hline : Fence.mark? line ≠ some mark := by
      intro hline
      simp [List.findIdx?_cons, hline] at h
    have hrest : rest.findIdx? (Fence.mark? · = some mark) = none := by
      simpa [List.findIdx?_cons, hline] using h
    rw [pass, step_code hrun hline]
    simp only [ih hrest]
    rfl

/-- Inside a block the lines are code up to the one that closes it; behind that a pass goes on as
from the start. -/
theorem pass_closed (hrun : run.head? = some mark) {lines : List Text} {n : Nat}
    (h : lines.findIdx? (Fence.mark? · = some mark) = some n) (start index : Int) :
    pass ⟨some run, start⟩ index lines =
      (List.replicate n .code ++ .closing :: (pass {} (index + n + 1) (lines.drop (n + 1))).1,
        (pass {} (index + n + 1) (lines.drop (n + 1))).2) := by
  induction lines generalizing index n with
  | nil => simp at h
  | cons line rest ih =>
    by_cases hline : Fence.mark? line = some mark
    · obtain rfl : n = 0 := by simpa [List.findIdx?_cons, hline] using h.symm
      rw [pass, step_closing hrun hline]
      simp
    · obtain ⟨m, hrest, rfl⟩ : ∃ m, rest.findIdx? (Fence.mark? · = some mark) = some m ∧
          m + 1 = n := by
        simpa [List.findIdx?_cons, hline] using h
      have hindex : index + 1 + (m : Int) + 1 = index + ((m + 1 : Nat) : Int) + 1 := by omega
      rw [pass, step_code hrun hline]
      simp only [ih hrest, hindex]
      rfl

/-- **What one pass gets right.** Outside blocks a pass either ends outside a block, with all
classes right, or in a block that nothing closes, with all classes in front of it right. -/
theorem pass_outside (index : Int) (lines : List Text) :
    ((pass {} index lines).2.fence = none ∧ (pass {} index lines).1 = fencedClasses lines) ∨
      ∃ k : Nat, (pass {} index lines).2.fence.isSome ∧
        (pass {} index lines).2.openIndex = index + k ∧ k < lines.length ∧
        fencedClasses lines =
          (pass {} index lines).1.take k ++ .plain :: fencedClasses (lines.drop (k + 1)) := by
  fun_induction fencedClasses lines generalizing index with
  | case1 => exact .inl ⟨rfl, rfl⟩
  | case2 line rest hm ih =>
    simp only [pass, step_plain hm]
    rcases ih (index + 1) with ⟨hfence, hclasses⟩ | ⟨k, hfence, hindex, hk, hclasses⟩
    · exact .inl ⟨hfence, congrArg _ hclasses⟩
    · refine .inr ⟨k + 1, hfence, by rw [hindex]; omega, Nat.succ_lt_succ hk, ?_⟩
      rw [hclasses]
      rfl
  | case3 line rest mark hm hnone ih =>
    -- nothing closes the block that starts here, so it is the one that the pass ends in
    obtain ⟨run, hr, hrun⟩ := Fence.exists_run_of_mark? hm
    simp only [pass, step_opening hr, pass_unclosed hrun hnone]
    exact .inr ⟨0, rfl, by simp, Nat.succ_pos _, rfl⟩
  | case4 line rest mark hm n hsome ih =>
    -- the block is closed, and behind it the pass goes on as from the start
    obtain ⟨run, hr, hrun⟩ := Fence.exists_run_of_mark? hm
    have hlt : n < rest.length := (List.findIdx?_eq_some_iff_getElem.mp hsome).1
    simp only [pass, step_opening hr, pass_closed hrun hsome]
    rcases ih (index + 1 + n + 1) with ⟨hfence, hclasses⟩ | ⟨k, hfence, hindex, hk, hclasses⟩
    · exact .inl ⟨hfence, by rw [hclasses]⟩
    · refine .inr ⟨n + 2 + k, hfence, by rw [hindex]; omega, ?_, ?_⟩
      · simp only [List.length_drop, List.length_cons] at hk ⊢
        omega
      · have htake : n + 2 + k = (n + (k + 1)) + 1 := by omega
        have hdrop : n + 2 + k + 1 = (n + 1 + (k + 1)) + 1 := by omega
        rw [hclasses, List.drop_drop, hdrop, List.drop_succ_cons, htake]
        simp [List.take_append]

end FenceContext

/-- The scan gives the classes by the reading without going back. -/
theorem scanFences_eq_fencedClasses (lines : List Text) :
    scanFences lines = fencedClasses lines := by
  fun_induction scanFences lines with
  | case1 => rw [fencedClasses]
  | case2 first rest classes context hpass hfence =>
    have houtside := FenceContext.pass_outside 0 (first :: rest)
    rw [hpass] at houtside
    rcases houtside with ⟨-, hclasses⟩ | ⟨k, hopen, -⟩
    · exact hclasses
    · simp [hfence] at hopen
  | case3 first rest classes context hpass run hfence restart ih =>
    have houtside := FenceContext.pass_outside 0 (first :: rest)
    rw [hpass] at houtside
    rcases houtside with ⟨hclosed, -⟩ | ⟨k, -, hindex, -, hclasses⟩
    · simp [hfence] at hclosed
    · -- the scan goes back to the line behind the one where the open block starts
      have hrestart : restart = k := by
        show context.openIndex.toNat = k
        rw [hindex, Int.zero_add, Int.toNat_natCast]
      rw [ih, hclasses, hrestart]
      rfl

/-- Every line has a class. -/
theorem length_scanFences (lines : List Text) : (scanFences lines).length = lines.length := by
  rw [scanFences_eq_fencedClasses]
  fun_induction fencedClasses lines with
  | case1 => rfl
  | case2 line rest _ ih => rw [List.length_cons, ih, List.length_cons]
  | case3 line rest mark _ _ ih => rw [List.length_cons, ih, List.length_cons]
  | case4 line rest mark _ n hn ih =>
    have hlt : n < rest.length := (List.findIdx?_eq_some_iff_getElem.mp hn).1
    simp only [List.length_cons, List.length_append, List.length_replicate, ih, List.length_drop]
    omega

/-- Fences say nothing about tables. -/
theorem inTable_of_mem_scanFences {lines : List Text} {line : LineClass}
    (h : line ∈ scanFences lines) : line.inTable = false := by
  rw [scanFences_eq_fencedClasses] at h
  fun_induction fencedClasses lines with
  | case1 => cases h
  | case2 _ _ _ ih =>
    rcases List.mem_cons.mp h with rfl | h
    · rfl
    · exact ih h
  | case3 _ _ _ _ _ ih =>
    rcases List.mem_cons.mp h with rfl | h
    · rfl
    · exact ih h
  | case4 _ _ _ _ n _ ih =>
    rcases List.mem_cons.mp h with rfl | h
    · rfl
    · rcases List.mem_append.mp h with h | h
      · rw [List.eq_of_mem_replicate h]
        rfl
      · rcases List.mem_cons.mp h with rfl | h
        · rfl
        · exact ih h

/-- **The scan of the fences.** For all lines, the scan gives the classes by the reading without
going back. The fence of a line is the longest run of backticks or of tildes behind at most three
spaces, three or more of them, which is what the fence pattern captures; other lines have none. -/
theorem scanFences_eq_and_fence_grammar :
    (∀ lines, scanFences lines = fencedClasses lines) ∧
    (∀ line run, Fence.run? line = some run ↔
      ∃ spaces mark n tail, spaces ≤ 3 ∧ (mark = '`' ∨ mark = '~') ∧ 3 ≤ n ∧
        tail.head? ≠ some mark ∧ run = List.replicate n mark ∧
        line = List.replicate spaces ' ' ++ (List.replicate n mark ++ tail)) ∧
    (∀ line, (Pattern.codeFence.matchStart? line).bind (·.captured? 1) = Fence.run? line) :=
  ⟨scanFences_eq_fencedClasses, fun _ _ => Fence.run?_eq_some_iff, Fence.captured?_codeFence⟩

end MarkdownCheck
