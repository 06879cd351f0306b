import Mathlib.Data.Bool.AllAny
import MarkdownCheck.Proofs.Rule.Offset
import MarkdownCheck.Proofs.Rule.Order
import MarkdownCheck.Proofs.Sort

/-!
# What a run of rules returns

A run puts the reports of its rules one behind the other and sorts them. So it returns what has been
reported and nothing else, and the order of the rules shows only where reports of two rules have the
same key.

- `Rule.reports`, `reportsOf`: what one rule and what several rules report, in the order of a run.
- `runEach_cases`: all rules are run, or the first one that fails ends the run.
- `runRules_outcome`: what a run returns is sorted, and otherwise as it has been reported.
- `runRules_perm`: rules with different identifiers may run in any order.
-/

namespace MarkdownCheck

/-! ## Reports -/

/-- A rule with an identifier that knows the line of all that it reports. -/
structure Rule.IsProper (rule : Rule) (document : Document) : Prop where
  names_ne_nil : rule.names ≠ []
  reportsLines : rule.ReportsLines document

/-- What a rule reports, under its names and some lines further down. -/
def Rule.reports (rule : Rule) (document : Document) (offset : Int) : List Violation :=
  match rule.check document with
  | .ok findings =>
    findings.map fun finding => ⟨rule.names, rule.description, finding.shift offset⟩
  | .error _ => []

/-- What several rules report, rule by rule. -/
def reportsOf (document : Document) (rules : List Rule) (offset : Int) : List Violation :=
  rules.flatMap (·.reports document offset)

variable {document : Document} {rule : Rule} {rules : List Rule}

theorem Rule.reports_of_ok {findings : List Finding} (h : rule.check document = .ok findings)
    (offset : Int) : rule.reports document offset =
      findings.map fun finding => ⟨rule.names, rule.description, finding.shift offset⟩ := by
  rw [reports, h]

/-- A report has a line and the names of its rule. -/
theorem Rule.IsProper.of_mem_reports (h : rule.IsProper document) {offset : Int}
    {violation : Violation} (hmem : violation ∈ rule.reports document offset) :
    violation.finding.lineNumber.isSome ∧ violation.ruleNames = rule.names := by
  cases hcheck : rule.check document with
  | error cause =>
    rw [reports, hcheck] at hmem
    cases hmem
  | ok findings =>
    rw [reports_of_ok hcheck] at hmem
    obtain ⟨finding, hfinding, rfl⟩ := List.mem_map.mp hmem
    refine ⟨?_, rfl⟩
    show (finding.lineNumber.map (· + offset)).isSome
    rw [Option.isSome_map]
    exact h.reportsLines findings hcheck finding hfinding

/-! ## One rule -/

theorem Rule.IsProper.result_run (h : rule.IsProper document) {findings : List Finding}
    (hcheck : rule.check document = .ok findings) (offset : Int) :
    (rule.run document offset).result = .ok (rule.reports document offset) := by
  have hvalue : (Logged.ofExcept (.ok findings)).mapError RunFailure.check = pure findings := rfl
  obtain ⟨identifier, aliases, hnames⟩ := List.exists_cons_of_ne_nil h.names_ne_nil
  rw [run, reports_of_ok hcheck, hcheck, hvalue, pure_bind, hnames]
  simp only [mapM_shifted?_eq_some (h.reportsLines findings hcheck)]
  rw [Logged.bind_eq_of_ok rfl, Logged.pure_eq, List.map_map]
  rfl

theorem Rule.result_run_of_error {cause : RuleFailure} (h : rule.check document = .error cause)
    (offset : Int) : (rule.run document offset).result = .error (.check cause) := by
  rw [run, h]
  rfl

/-! ## Several rules -/

/-- The checks of all rules succeed, and their reports come one behind the other, or the run ends
with the first check that fails. -/
theorem runEach_cases (h : ∀ rule ∈ rules, rule.IsProper document) (offset : Int) :
    ((∀ rule ∈ rules, (rule.check document).isOk) ∧
      (runEach document offset rules).result = .ok (reportsOf document rules offset)) ∨
    ∃ before failing after cause, rules = before ++ failing :: after ∧
      (∀ earlier ∈ before, (earlier.check document).isOk) ∧
      failing.check document = .error cause ∧
      (runEach document offset rules).result = .error (.check cause) := by
  induction rules with
  | nil => exact .inl ⟨nofun, rfl⟩
  | cons rule rest ih =>
    obtain ⟨hrule, hrest⟩ := List.forall_mem_cons.mp h
    rw [runEach]
    cases hcheck : rule.check document with
    | error cause =>
      refine .inr ⟨[], rule, rest, cause, rfl, nofun, hcheck, ?_⟩
      rw [Logged.bind_eq_of_error (Rule.result_run_of_error hcheck offset)]
    | ok findings =>
      have hok : (rule.check document).isOk := by
        rw [hcheck]
        rfl
      rw [Logged.bind_eq_of_ok (hrule.result_run hcheck offset)]
      rcases ih hrest with
        ⟨hall, hresult⟩ | ⟨before, failing, after, cause, rfl, hbefore, hfails, hresult⟩
      · refine .inl ⟨List.forall_mem_cons.mpr ⟨hok, hall⟩, ?_⟩
        rw [Logged.bind_eq_of_ok hresult]
        rfl
      · refine .inr ⟨rule :: before, failing, after, cause, rfl,
          List.forall_mem_cons.mpr ⟨hok, hbefore⟩, hfails, ?_⟩
        rw [Logged.bind_eq_of_error hresult]

theorem areComparable_reportsOf (h : ∀ rule ∈ rules, rule.IsProper document) (offset : Int) :
    areComparable (reportsOf document rules offset) := by
  rw [areComparable, Bool.or_eq_true, List.all_eq_true]
  refine .inl fun violation hmem => ?_
  obtain ⟨rule, hrule, hreport⟩ := List.mem_flatMap.mp hmem
  exact ((h rule hrule).of_mem_reports hreport).1

/-- Where all checks succeed, a run sorts what they report. -/
theorem result_runRules (h : ∀ rule ∈ rules, rule.IsProper document)
    (hok : ∀ rule ∈ rules, (rule.check document).isOk) (offset : Int) :
    (runRules document rules offset).result =
      .ok ((reportsOf document rules offset).mergeSort Violation.precedes) := by
  rcases runEach_cases h offset with
    ⟨-, hresult⟩ | ⟨before, failing, after, cause, rfl, -, hfails, -⟩
  · rw [runRules, Logged.bind_eq_of_ok hresult]
    simp only [areComparable_reportsOf h offset, if_true]
    rfl
  · have hfailing := hok failing (List.mem_append_right before List.mem_cons_self)
    rw [hfails] at hfailing
    cases hfailing

/-- **What a run returns.** Where all checks succeed, a run returns what the rules report, each
report once, by line and identifier, and those with the same line and identifier in the order in
which they have been reported. Where some check fails, the run ends with the first failure and
returns nothing. -/
theorem runRules_outcome (document : Document) (rules : List Rule) (offset : Int)
    (h : ∀ rule ∈ rules, rule.IsProper document) :
    ((∀ rule ∈ rules, (rule.check document).isOk) →
      ∃ violations, (runRules document rules offset).result = .ok violations ∧
        violations.Perm (reportsOf document rules offset) ∧
        violations.Pairwise (fun first second => first.key ≤ second.key) ∧
        ∀ key, violations.filter (·.key = key) =
          (reportsOf document rules offset).filter (·.key = key)) ∧
    ∀ rule ∈ rules, ¬ (rule.check document).isOk →
      ∃ before failing after cause, rules = before ++ failing :: after ∧
        (∀ earlier ∈ before, (earlier.check document).isOk) ∧
        failing.check document = .error cause ∧
        (runRules document rules offset).result = .error (.check cause) := by
  constructor
  · intro hok
    have hle : ∀ first second : Violation, first.precedes second ↔ first.key ≤ second.key :=
      fun _ _ => Violation.precedes_iff
    exact ⟨_, result_runRules h hok offset, List.mergeSort_perm _ _,
      mergeSort_pairwise_key hle _, filter_mergeSort_key hle _⟩
  · intro rule hrule hfails
    rcases runEach_cases h offset with
      ⟨hall, -⟩ | ⟨before, failing, after, cause, heq, hbefore, hcheck, hresult⟩
    · exact absurd (hall rule hrule) hfails
    · refine ⟨before, failing, after, cause, heq, hbefore, hcheck, ?_⟩
      rw [runRules, Logged.bind_eq_of_error hresult]

/-- Two rules share their identifier, and both report on the second line: the report of the first
comes first. With a rule that fails there is no result. -/
theorem runRules_outcome_shared_identifier :
    let rule (name : Char) (reports : List (Int × Char)) : Rule :=
      { names := [[name]], description := []
        check := fun _ => .ok (reports.map fun (line, context) =>
          { lineNumber := some line, context := some [context] }) }
    let rules := [rule 'B' [(2, 'p'), (1, 'q')], rule 'A' [(2, 'r')], rule 'B' [(2, 's')]]
    let failing : Rule :=
      { names := [['C']], description := [], check := fun _ => .error (.raised "C".toList) }
    (∀ rule ∈ rules ++ [failing], rule.IsProper {}) ∧
      (∀ rule ∈ rules, (rule.check {}).isOk) ∧ ¬ (failing.check {}).isOk ∧
      (∃ violations, (runRules {} rules 10).result = .ok violations ∧ violations.length = 4 ∧
        violations.Pairwise (fun first second => first.key ≤ second.key) ∧
        (violations.filter (·.key = toLex (((12 : Int) : WithBot Int), ['B']))).map
          (·.finding.context) = [some ['p'], some ['s']]) ∧
      ∃ cause, (runRules {} (rules ++ [failing]) 10).result = .error cause := by
  intro rule rules failing
  have hrule : ∀ name reports, (rule name reports).IsProper {} := by
    refine fun name reports => ⟨List.cons_ne_nil _ _, ?_⟩
    rintro findings hcheck finding hfinding
    obtain rfl := Except.ok.inj hcheck
    obtain ⟨report, -, rfl⟩ := List.mem_map.mp hfinding
    rfl
  have hrules : ∀ rule ∈ rules, rule.IsProper {} := by
    simp only [rules, List.forall_mem_cons]
    exact ⟨hrule _ _, hrule _ _, hrule _ _, nofun⟩
  have hfailing : failing.IsProper {} := ⟨List.cons_ne_nil _ _, nofun⟩
  have hall : ∀ rule ∈ rules ++ [failing], rule.IsProper {} :=
    List.forall_mem_append.mpr ⟨hrules, List.forall_mem_singleton.mpr hfailing⟩
  have hok : ∀ rule ∈ rules, (rule.check {}).isOk := List.all_iff_forall_prop.mp (by decide)
  have hfails : ¬ (failing.check {}).isOk := by decide
  obtain ⟨violations, hresult, hperm, hsorted, htied⟩ :=
    (runRules_outcome {} rules 10 hrules).1 hok
  obtain ⟨_, _, _, cause, -, -, -, herror⟩ :=
    (runRules_outcome {} (rules ++ [failing]) 10 hall).2 failing (by simp) hfails
  refine ⟨hall, hok, hfails, ⟨violations, hresult, hperm.length_eq, hsorted, ?_⟩, _, herror⟩
  rw [htied]
  decide

/-! ## The order of the rules -/

/-- What is reported under a key comes from the rules with its identifier. -/
theorem filter_reportsOf (h : ∀ rule ∈ rules, rule.IsProper document) (offset : Int)
    (line : WithBot Int) (identifier : Text) :
    (reportsOf document rules offset).filter (·.key = toLex (line, identifier)) =
      (reportsOf document (rules.filter (·.names.head? = some identifier)) offset).filter
        (·.key = toLex (line, identifier)) := by
  induction rules with
  | nil => rfl
  | cons rule rest ih =>
    obtain ⟨hrule, hrest⟩ := List.forall_mem_cons.mp h
    have hcons (rule : Rule) (more : List Rule) : reportsOf document (rule :: more) offset =
        rule.reports document offset ++ reportsOf document more offset := List.flatMap_cons
    rw [hcons, List.filter_append, ih hrest, List.filter_cons]
    split
    · rw [hcons, List.filter_append]
    · next hother =>
      rw [List.filter_eq_nil_iff.mpr fun violation hmem hkey => hother ?_, List.nil_append]
      obtain ⟨known, aliases, hnames⟩ := List.exists_cons_of_ne_nil hrule.names_ne_nil
      obtain ⟨-, hviolation⟩ := hrule.of_mem_reports hmem
      have hidentifier : violation.identifier = identifier :=
        (Prod.mk.inj (toLex.injective (of_decide_eq_true hkey))).2
      rw [Violation.identifier, hviolation, hnames] at hidentifier
      rw [hnames]
      exact decide_eq_true (congrArg some hidentifier)

/-- Among rules with different identifiers one at most has a given one, wherever it stands. -/
theorem filter_head?_eq_of_perm {others : List Rule} (hperm : rules.Perm others)
    (hdistinct : (rules.map (·.names.head?)).Nodup) (identifier : Option Text) :
    rules.filter (·.names.head? = identifier) = others.filter (·.names.head? = identifier) := by
  have hshort : (rules.filter (·.names.head? = identifier)).length ≤ 1 := by
    have hsame : ∀ name ∈ (rules.filter (·.names.head? = identifier)).map (·.names.head?),
        name = identifier := by
      intro name hname
      obtain ⟨rule, hrule, rfl⟩ := List.mem_map.mp hname
      exact of_decide_eq_true (List.mem_filter.mp hrule).2
    have hsub : ((rules.filter (·.names.head? = identifier)).map (·.names.head?)).Sublist
        (rules.map (·.names.head?)) := List.filter_sublist.map _
    have hnodup := hdistinct.sublist hsub
    rwa [List.eq_replicate_of_mem hsame, List.nodup_replicate, List.length_map] at hnodup
  have hfilter := hperm.filter (·.names.head? = identifier)
  rcases hrules : rules.filter (·.names.head? = identifier) with - | ⟨rule, - | ⟨other, more⟩⟩
  · rw [hrules] at hfilter ⊢
    exact hfilter.nil_eq
  · rw [hrules] at hfilter ⊢
    exact hfilter.singleton_eq
  · rw [hrules] at hshort
    exact absurd hshort (by simp)

/-- **Rules may run in any order.** Rules with different identifiers whose checks succeed return the
same violations in whatever order they run. -/
theorem runRules_perm (document : Document) (offset : Int) {rules others : List Rule}
    (hperm : rules.Perm others) (h : ∀ rule ∈ rules, rule.IsProper document)
    (hdistinct : (rules.map (·.names.head?)).Nodup)
    (hok : ∀ rule ∈ rules, (rule.check document).isOk) :
    ∃ violations, (runRules document rules offset).result = .ok violations ∧
      (runRules document others offset).result = .ok violations := by
  have hothers : ∀ rule ∈ others, rule.IsProper document := fun rule hmem =>
    h rule (hperm.mem_iff.mpr hmem)
  have hokOthers : ∀ rule ∈ others, (rule.check document).isOk := fun rule hmem =>
    hok rule (hperm.mem_iff.mpr hmem)
  have hle : ∀ first second : Violation, first.precedes second ↔ first.key ≤ second.key :=
    fun _ _ => Violation.precedes_iff
  refine ⟨_, result_runRules h hok offset, ?_⟩
  rw [result_runRules hothers hokOthers offset]
  refine congrArg Except.ok (eq_of_pairwise_key (mergeSort_pairwise_key hle _)
    (mergeSort_pairwise_key hle _) fun key => ?_)
  rw [filter_mergeSort_key hle, filter_mergeSort_key hle]
  obtain ⟨line, identifier⟩ := key
  -- what is reported under one key comes from one rule
  have hreports := filter_reportsOf h offset line identifier
  rw [filter_head?_eq_of_perm hperm hdistinct, ← filter_reportsOf hothers] at hreports
  exact hreports.symm

/-- Both rules report on the same line, and what the identifiers say decides. -/
theorem runRules_perm_swap :
    let rule (name : Char) (lines : List Int) : Rule :=
      { names := [[name]], description := []
        check := fun _ => .ok (lines.map fun line => { lineNumber := some line }) }
    let rules := [rule 'B' [2, 1], rule 'A' [2]]
    let others := [rule 'A' [2], rule 'B' [2, 1]]
    rules.Perm others ∧ (∀ rule ∈ rules, rule.IsProper {}) ∧
      (rules.map (·.names.head?)).Nodup ∧ (∀ rule ∈ rules, (rule.check {}).isOk) ∧
      ∃ violations, (runRules {} rules 10).result = .ok violations ∧
        (runRules {} others 10).result = .ok violations := by
  intro rule rules others
  have hrule : ∀ name lines, (rule name lines).IsProper {} := by
    refine fun name lines => ⟨List.cons_ne_nil _ _, ?_⟩
    rintro findings hcheck finding hfinding
    obtain rfl := Except.ok.inj hcheck
    obtain ⟨line, -, rfl⟩ := List.mem_map.mp hfinding
    rfl
  have hperm : rules.Perm others := .swap _ _ _
  have hrules : ∀ rule ∈ rules, rule.IsProper {} := by
    simp only [rules, List.forall_mem_cons]
    exact ⟨hrule _ _, hrule _ _, nofun⟩
  have hdistinct : (rules.map (·.names.head?)).Nodup := by decide
  have hok : ∀ rule ∈ rules, (rule.check {}).isOk := List.all_iff_forall_prop.mp (by decide)
  exact ⟨hperm, hrules, hdistinct, hok, runRules_perm {} 10 hperm hrules hdistinct hok⟩

end MarkdownCheck
