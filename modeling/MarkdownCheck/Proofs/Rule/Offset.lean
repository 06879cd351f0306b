import MarkdownCheck.Proofs.Log.Laws
import MarkdownCheck.Rule.Run

/-!
# Running rules below front matter

The offset of a run is added to each finding before the violations are put in order. It might as
well be added to what a run without an offset has come to:

- `Violation.shift`: a violation some lines further down.
- `Rule.ReportsLines`: a rule that knows the line of all that it reports.
- `Rule.run_offset`: what one rule reports is shifted.
- `runRules_offset`: so is what several rules report, in the same order.
-/

namespace MarkdownCheck

/-- A finding some lines further down. -/
def Finding.shift (offset : Int) (finding : Finding) : Finding :=
  { finding with lineNumber := finding.lineNumber.map (· + offset) }

/-- A violation some lines further down. -/
def Violation.shift (offset : Int) (violation : Violation) : Violation :=
  { violation with finding := violation.finding.shift offset }

/-- All that a rule reports about a document has a line. -/
def Rule.ReportsLines (rule : Rule) (document : Document) : Prop :=
  ∀ findings, rule.check document = .ok findings →
    ∀ finding ∈ findings, finding.lineNumber.isSome

/-! ## One rule -/

theorem Finding.shift_zero (finding : Finding) : finding.shift 0 = finding := by
  obtain ⟨line, detail, context, span⟩ := finding
  cases line <;> simp [shift]

theorem Violation.shift_zero (violation : Violation) : violation.shift 0 = violation := by
  rw [shift, Finding.shift_zero]

theorem map_shift_zero : List.map (Violation.shift 0) = id :=
  funext fun violations =>
    (List.map_congr_left fun violation _ => violation.shift_zero).trans violations.map_id

theorem Finding.shifted?_eq_some {finding : Finding} (h : finding.lineNumber.isSome)
    (offset : Int) : finding.shifted? offset = some (finding.shift offset) := by
  rw [shifted?]
  split
  · next hzero => rw [hzero, shift_zero]
  · obtain ⟨line, hline⟩ := Option.isSome_iff_exists.mp h
    rw [shift, hline, Option.map_some, Option.map_some]

theorem mapM_shifted?_eq_some {findings : List Finding}
    (h : ∀ finding ∈ findings, finding.lineNumber.isSome) (offset : Int) :
    findings.mapM (·.shifted? offset) = some (findings.map (·.shift offset)) := by
  induction findings with
  | nil => rfl
  | cons finding rest ih =>
    rw [List.mapM_cons, Finding.shifted?_eq_some (h finding List.mem_cons_self),
      ih fun other hmem => h other (List.mem_cons_of_mem _ hmem)]
    rfl

/-- The violations of one rule under an offset are those without one, shifted. -/
theorem Rule.run_offset {rule : Rule} {document : Document} (h : rule.ReportsLines document)
    (offset : Int) :
    rule.run document offset = List.map (Violation.shift offset) <$> rule.run document 0 := by
  cases hcheck : rule.check document with
  | error cause =>
    rw [Rule.run, Rule.run, hcheck]
    rfl
  | ok findings =>
    have hvalue : (Logged.ofExcept (.ok findings)).mapError RunFailure.check = pure findings := rfl
    have hlines := h findings hcheck
    rw [Rule.run, Rule.run, hcheck, hvalue, pure_bind, pure_bind]
    cases rule.names with
    | nil => rfl
    | cons identifier aliases =>
      simp only [map_bind, mapM_shifted?_eq_some hlines, map_pure, List.map_map]
      congr 1
      funext _
      refine congrArg pure (List.map_congr_left fun finding _ => ?_)
      simp only [Function.comp_apply, Violation.shift, Finding.shift_zero]

/-! ## Several rules -/

theorem runEach_offset {document : Document} {rules : List Rule}
    (h : ∀ rule ∈ rules, rule.ReportsLines document) (offset : Int) :
    runEach document offset rules =
      List.map (Violation.shift offset) <$> runEach document 0 rules := by
  induction rules with
  | nil => rfl
  | cons rule rest ih =>
    rw [runEach, runEach, Rule.run_offset (h rule List.mem_cons_self),
      ih fun other hmem => h other (List.mem_cons_of_mem _ hmem)]
    simp only [bind_map_left, map_bind, map_pure, List.map_append]

theorem areComparable_shift (offset : Int) (violations : List Violation) :
    areComparable (violations.map (Violation.shift offset)) = areComparable violations := by
  simp [areComparable, Violation.shift, Finding.shift, Function.comp_def]

/-- Shifted violations stand in the same order. -/
theorem Violation.precedes_shift (offset : Int) (first second : Violation) :
    (first.shift offset).precedes (second.shift offset) = first.precedes second := by
  obtain ⟨names, description, line, detail, context, span⟩ := first
  obtain ⟨names', description', line', detail', context', span'⟩ := second
  cases line <;> cases line' <;> simp [precedes, shift, Finding.shift, identifier]

theorem mergeSort_shift (offset : Int) (violations : List Violation) :
    (violations.map (Violation.shift offset)).mergeSort Violation.precedes =
      (violations.mergeSort Violation.precedes).map (Violation.shift offset) :=
  (List.map_mergeSort fun first _ second _ =>
    (Violation.precedes_shift offset first second).symm).symm

/-- The violations of several rules under an offset are those without one, shifted. -/
theorem runRules_offset {document : Document} {rules : List Rule}
    (h : ∀ rule ∈ rules, rule.ReportsLines document) (offset : Int) :
    runRules document rules offset =
      List.map (Violation.shift offset) <$> runRules document rules 0 := by
  rw [runRules, runRules, runEach_offset h]
  simp only [bind_map_left, map_bind]
  congr 1
  funext violations
  rw [areComparable_shift, mergeSort_shift]
  split
  · rw [map_pure]
  · rfl

end MarkdownCheck
