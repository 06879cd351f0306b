import MarkdownCheck.Lint
import MarkdownCheck.Proofs.Anchor.Collision
import MarkdownCheck.Proofs.Document.OfText
import MarkdownCheck.Proofs.General
import MarkdownCheck.Proofs.Rule.Offset

/-!
# Linting below front matter

A text with front matter is linted as the text behind it, and what is found there is moved down by
the lines that have been taken off.

- `Rule.IgnoresFrontMatter`: a rule that does not look at the lines taken off.
- `longLineWarnings_eq_map`: the offset of a warning is added to the number of its line.
- `lintText_of_ok`: a lint run, once its document is known.
- `lintText_and_runRules_shift`: linting with front matter shifts violations and warnings, and so
  does every run of rules under an offset.
-/

namespace MarkdownCheck

/-! ## Rules that do not look at front matter -/

/-- A rule finds the same in a document whatever has been taken off its top. -/
def Rule.IgnoresFrontMatter (rule : Rule) : Prop :=
  ∀ (document : Document) (matter : List Text),
    rule.check { document with frontMatter := matter } = rule.check document

theorem Rule.ignoresFrontMatter_of_mem_allRules {rule : Rule} (h : rule ∈ allRules) :
    rule.IgnoresFrontMatter := by
  obtain rfl := List.mem_singleton.mp h
  exact fun _ _ => rfl

theorem Rule.reportsLines_of_mem_allRules {rule : Rule} (h : rule ∈ allRules)
    (document : Document) : rule.ReportsLines document := by
  obtain rfl := List.mem_singleton.mp h
  exact fun _ => AnchorCollision.isSome_lineNumber_of_check

theorem LintOptions.mem_allRules {options : LintOptions} {rule : Rule} (h : rule ∈ options.rules) :
    rule ∈ allRules :=
  List.mem_of_mem_filter h

theorem runRules_frontMatter {rules : List Rule} (h : ∀ rule ∈ rules, rule.IgnoresFrontMatter)
    (document : Document) (matter : List Text) (offset : Int) :
    runRules { document with frontMatter := matter } rules offset =
      runRules document rules offset := by
  have heach : runEach { document with frontMatter := matter } offset rules =
      runEach document offset rules := by
    induction rules with
    | nil => rfl
    | cons rule rest ih =>
      rw [runEach, runEach, ih fun other hmem => h other (List.mem_cons_of_mem _ hmem), Rule.run,
        Rule.run, h rule List.mem_cons_self]
  rw [runRules, runRules, heach]

/-! ## What a run logs -/

/-- The lines that are too long, with their numbers in the document. -/
def longLines (longest : Nat) (lines : List Text) : List (Nat × Text) :=
  (lines.zipIdx 1).filterMap fun (line, number) =>
    if longest < line.length then some (number, line) else none

/-- The warning about a long line that stands `offset` lines further down in the whole text. -/
def longLineWarning (shownName : Text) (offset : Nat) (line : Nat × Text) : LogEntry :=
  lineWarning shownName (line.1 + offset : Nat) line.2 "line-length".toList

/-- The offset of a warning is added to the number of its line. -/
theorem longLineWarnings_eq_map (longest : Nat) (document : Document) (offset : Nat) :
    longLineWarnings longest document offset =
      (longLines longest document.lines).map (longLineWarning document.displayName offset) := by
  have hzip : document.lines.zipIdx (offset + 1) =
      (document.lines.zipIdx 1).map (Prod.map id (· + offset)) :=
    List.map_snd_add_zipIdx_eq_zipIdx.symm
  rw [longLineWarnings, hzip, List.filterMap_map, longLines, List.map_filterMap]
  refine List.filterMap_congr fun (line, number) _ => ?_
  simp only [Function.comp_apply, Prod.map_apply, id_eq]
  split
  · rfl
  · rfl

/-- A rule warns about nothing. -/
theorem level_of_mem_log_run {rule : Rule} {document : Document} {offset : Int} {entry : LogEntry}
    (h : entry ∈ (rule.run document offset).log) : entry.level = .debug := by
  rw [Rule.run] at h
  rcases Logged.mem_log_bind h with h | ⟨findings, -, h⟩
  · rw [Logged.mapError_eq] at h
    cases h
  · split at h
    · cases h
    · rcases Logged.mem_log_bind h with h | ⟨_, -, h⟩
      · rw [List.mem_singleton.mp h]
      · split at h <;> cases h

theorem level_of_mem_log_runEach {document : Document} {rules : List Rule} {offset : Int}
    {entry : LogEntry} (h : entry ∈ (runEach document offset rules).log) :
    entry.level = .debug := by
  induction rules with
  | nil => cases h
  | cons rule rest ih =>
    rw [runEach] at h
    rcases Logged.mem_log_bind h with h | ⟨_, -, h⟩
    · exact level_of_mem_log_run h
    · rcases Logged.mem_log_bind h with h | ⟨_, -, h⟩
      · exact ih h
      · cases h

/-- A run of rules warns about nothing. -/
theorem level_of_mem_log_runRules {document : Document} {rules : List Rule} {offset : Int}
    {entry : LogEntry} (h : entry ∈ (runRules document rules offset).log) :
    entry.level = .debug := by
  rw [runRules] at h
  rcases Logged.mem_log_bind h with h | ⟨violations, -, h⟩
  · exact level_of_mem_log_runEach h
  · split at h <;> cases h

/-! ## A lint run -/

/-- The text that is read as a document, its comments blanked if that is asked for. -/
def LintOptions.cleared (options : LintOptions) (content : Text) : Text :=
  if options.clearComments then Comment.clear content else content

theorem LintOptions.prepare_eq (options : LintOptions) (content name : Text) :
    options.prepare content name =
      Document.ofText (options.cleared (options.split content).2) name (options.split content).1 :=
  rfl

theorem lintText_of_error {options : LintOptions} {content name : Text}
    {failure : Markdown.ParseFailure} (h : options.prepare content name = .error failure) :
    lintText options content name = ⟨[], .error (.parse failure)⟩ := by
  rw [lintText, h]
  rfl

/-- A lint run warns of the long lines and runs the rules without an offset; all lines are moved
down by the front matter of the document. -/
theorem lintText_of_ok {options : LintOptions} {content name : Text} {document : Document}
    (h : options.prepare content name = .ok document) :
    lintText options content name =
      let offset := document.frontMatter.length
      let run := runRules document options.rules 0
      ⟨(longLines options.maxLineLength document.lines).map
          (longLineWarning document.displayName offset) ++ run.log,
        (run.result.mapError .run).map (List.map (Violation.shift offset))⟩ := by
  have hdocument : Logged.ofExcept ((options.prepare content name).mapError LintFailure.parse) =
      pure document := by
    rw [h]
    rfl
  have hlines : ∀ rule ∈ options.rules, rule.ReportsLines document := fun rule hmem =>
    Rule.reportsLines_of_mem_allRules (LintOptions.mem_allRules hmem) document
  rw [lintText, hdocument, pure_bind, Logged.bind_eq_of_ok rfl, Logged.mapError_eq,
    runRules_offset hlines, Logged.map_eq, Logged.entries, longLineWarnings_eq_map,
    mapError_map]

/-- **Front matter only shifts results.** Linting a text with its front matter taken off is linting
the text behind it as it stands: the violations are the same in the same order, and the log warns of
the same lines, all of them further down by the lines taken off. And every run of rules under an
offset is the run without one, shifted, if the rules know the lines of what they report. -/
theorem lintText_and_runRules_shift :
    (∀ (options : LintOptions) (content name : Text),
      let matter := (FrontMatter.split content).1
      let behind := (FrontMatter.split content).2
      let whole := lintText { options with stripFrontMatter := true } content name
      let rest := lintText { options with stripFrontMatter := false } behind name
      whole.result = rest.result.map (List.map (Violation.shift matter.length)) ∧
      ∃ (long : List (Nat × Text)) (others : List LogEntry),
        rest.log = long.map (longLineWarning (Document.displayName { name }) 0) ++ others ∧
        whole.log =
          long.map (longLineWarning (Document.displayName { name }) matter.length) ++ others ∧
        ∀ entry ∈ others, entry.level = .debug) ∧
    ∀ (document : Document) (rules : List Rule), (∀ rule ∈ rules, rule.ReportsLines document) →
      ∀ offset : Int, runRules document rules offset =
        List.map (Violation.shift offset) <$> runRules document rules 0 := by
  refine ⟨fun options content name => ?_, fun document rules h offset => runRules_offset h offset⟩
  intro matter behind whole rest
  have hshared := ofText_frontMatter (options.cleared behind) name matter
  cases hread : Document.ofText (options.cleared behind) name [] with
  | error failure =>
    -- neither text is read
    rw [hread] at hshared
    have hwhole : whole = ⟨[], .error (.parse failure)⟩ := lintText_of_error hshared
    have hrest : rest = ⟨[], .error (.parse failure)⟩ := lintText_of_error hread
    rw [hwhole, hrest]
    exact ⟨rfl, [], [], rfl, rfl, nofun⟩
  | ok document =>
    -- both documents differ in the lines taken off only, which no rule looks at
    rw [hread] at hshared
    obtain ⟨tokens, -, hdocument⟩ := exists_tokens_of_ofText hread
    have hname : document.displayName = Document.displayName { name } := by
      rw [hdocument]
      rfl
    have hmatter : document.frontMatter = [] := by rw [hdocument]
    have hrun : runRules { document with frontMatter := matter } options.rules 0 =
        runRules document options.rules 0 :=
      runRules_frontMatter (fun rule hmem =>
        Rule.ignoresFrontMatter_of_mem_allRules (LintOptions.mem_allRules hmem)) document matter 0
    have hrest : rest = _ := lintText_of_ok hread
    have hwhole : whole = _ := lintText_of_ok hshared
    have hresult : rest.result = (runRules document options.rules 0).result.mapError .run := by
      rw [hrest, hmatter]
      exact (congrArg (Except.map · _) map_shift_zero).trans (congrFun Except.map_id _)
    refine ⟨?_, longLines options.maxLineLength document.lines,
      (runRules document options.rules 0).log, ?_, ?_, fun _ => level_of_mem_log_runRules⟩
    · rw [hresult, hwhole, ← hrun]
      rfl
    · rw [hrest, hmatter, ← hname]
      rfl
    · rw [hwhole, ← hname, ← hrun]
      rfl

/-- Three lines above two headings, and a rule that reports the lower line first. -/
theorem lintText_and_runRules_shift_three_lines :
    let content := "---\na: 1\n---\n# A\n# A".toList
    let options : LintOptions := ⟨[], true, true, 1000, 3⟩
    let behind := lintText { options with stripFrontMatter := false } "# A\n# A".toList []
    let rule : Rule :=
      { names := ["T1".toList]
        description := "Two lines".toList
        check := fun _ => .ok [{ lineNumber := some 2 }, { lineNumber := some 1 }] }
    FrontMatter.split content = (["---".toList, "a: 1".toList, "---".toList], "# A\n# A".toList) ∧
    (lintText options content []).result = behind.result.map (List.map (Violation.shift 3)) ∧
    (∀ other ∈ [rule], other.ReportsLines {}) ∧
    runRules {} [rule] 3 = List.map (Violation.shift 3) <$> runRules {} [rule] 0 := by
  intro content options behind rule
  have hsplit : FrontMatter.split content =
      (["---".toList, "a: 1".toList, "---".toList], "# A\n# A".toList) := by
    decide +kernel
  have hlint := (lintText_and_runRules_shift.1 options content []).1
  rw [hsplit] at hlint
  have hlines : ∀ other ∈ [rule], other.ReportsLines {} := by
    intro other hmem findings hcheck
    rw [List.mem_singleton.mp hmem] at hcheck
    rw [← Except.ok.inj hcheck]
    decide
  exact ⟨hsplit, hlint, hlines, lintText_and_runRules_shift.2 {} [rule] hlines 3⟩

end MarkdownCheck
