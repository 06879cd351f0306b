import MarkdownCheck.CommandLine.Run
import MarkdownCheck.Proofs.CommandLine.Options

/-!
# Several files, one after the other

Linting several files is linting each of them by itself, up to the first that cannot be linted.

- `violationsIn?`: the violations in one file, under the settings for its own directory.
- `runFile_cases`: what the run over one file leaves.
- `runFiles_of_isError`, `runFiles_of_linted`: what the run over several files leaves.
- `run_inSequence`: the command with several files is the sequence of the commands with one.
-/

namespace MarkdownCheck

/-! ## One file -/

/-- The violations in a file, under the settings that are found from its own directory; `none` if
the file is not found, has no settings or cannot be linted. -/
def violationsIn? (workspace : Workspace) (overrides : List (Text × Value)) (given : Text) :
    Option (List Violation) :=
  (workspace.markdownFile given).toOption.bind fun place =>
    (buildSettings workspace (.ofLocation place.dropLast) overrides).toOption.bind fun settings =>
      (lintFile workspace (.ofLocation place) settings).result.toOption

/-- An end other than that of a linted file. -/
def FileEnd.IsError : FileEnd → Prop
  | .linted _ => False
  | _ => True

/-- The end of files behind a linted one with so many violations. -/
def FileEnd.behind (count : Nat) : FileEnd → FileEnd
  | .linted more => .linted (count + more)
  | finish => finish

theorem FileEnd.IsError.behind {finish : FileEnd} (h : finish.IsError) (count : Nat) :
    finish.behind count = finish := by
  cases finish with
  | linted more => cases h
  | usage fault => rfl
  | failed reason => rfl
  | crashed crash => rfl

theorem PathFailure.isError_finish (failure : PathFailure) : failure.finish.IsError := by
  cases failure <;> trivial

theorem BuildFailure.isError_finish (failure : BuildFailure) : failure.finish.IsError := by
  rcases failure with ⟨_ | _ | _ | _⟩ | _ | _ <;> trivial

theorem FileLintFailure.isError_finish (failure : FileLintFailure) : failure.finish.IsError := by
  unfold finish
  split <;> trivial

section

variable (workspace : Workspace) (overrides : List (Text × Value))

/-- A file is linted and its violations are printed, or the run over it prints nothing and ends in
an error. -/
theorem runFile_cases (given : Text) :
    (∃ violations, violationsIn? workspace overrides given = some violations ∧
      (runFile workspace overrides given).printed = violations.map (·.render given) ∧
      (runFile workspace overrides given).finish = .linted violations.length) ∨
    violationsIn? workspace overrides given = none ∧
      (runFile workspace overrides given).printed = [] ∧
      (runFile workspace overrides given).finish.IsError := by
  rw [violationsIn?, runFile]
  cases workspace.markdownFile given with
  | error failure => exact .inr ⟨rfl, rfl, failure.isError_finish⟩
  | ok place =>
    dsimp only [Except.toOption, Option.bind_some]
    cases buildSettings workspace (.ofLocation place.dropLast) overrides with
    | error failure => exact .inr ⟨rfl, rfl, failure.isError_finish⟩
    | ok settings =>
      dsimp only [Except.toOption, Option.bind_some]
      rw [lintPlace]
      cases (lintFile workspace (.ofLocation place) settings).result with
      | error failure => exact .inr ⟨rfl, rfl, failure.isError_finish⟩
      | ok violations => exact .inl ⟨violations, rfl, rfl, rfl⟩

end

/-! ## Several files -/

section

variable {workspace : Workspace} {overrides : List (Text × Value)}

/-- A file that is linted comes in front of what the others leave. -/
theorem runFiles_cons_of_linted {given : Text} {count : Nat}
    (h : (runFile workspace overrides given).finish = .linted count) (rest : List Text) :
    runFiles workspace overrides (given :: rest) =
      { printed := (runFile workspace overrides given).printed ++
          (runFiles workspace overrides rest).printed
        log := (runFile workspace overrides given).log ++ (runFiles workspace overrides rest).log
        finish := (runFiles workspace overrides rest).finish.behind count } := by
  rw [runFiles]
  dsimp only
  rw [h]
  rfl

theorem runFiles_cons_of_isError {given : Text}
    (h : (runFile workspace overrides given).finish.IsError) (rest : List Text) :
    runFiles workspace overrides (given :: rest) = runFile workspace overrides given := by
  rw [runFiles]
  dsimp only
  split
  · next count hcount =>
    rw [hcount] at h
    cases h
  · rfl

theorem runFiles_singleton (given : Text) :
    runFiles workspace overrides [given] = runFile workspace overrides given := by
  rcases runFile_cases workspace overrides given with ⟨violations, -, -, hlinted⟩ | ⟨-, -, herror⟩
  · rw [runFiles_cons_of_linted hlinted]
    show FileRun.mk (_ ++ []) (_ ++ []) (.linted (_ + 0)) = _
    rw [List.append_nil, List.append_nil, Nat.add_zero, ← hlinted]
  · exact runFiles_cons_of_isError herror []

/-- The files in front of the first that cannot be linted, and that one, are all that counts. -/
theorem runFiles_of_isError {before : List Text} {given : Text}
    (hbefore : ∀ earlier ∈ before, violationsIn? workspace overrides earlier ≠ none)
    (hgiven : violationsIn? workspace overrides given = none) (after : List Text) :
    (runFile workspace overrides given).finish.IsError ∧
      runFiles workspace overrides (before ++ given :: after) =
        { printed := (before ++ [given]).flatMap fun file =>
            (runFile workspace overrides file).printed
          log := (before ++ [given]).flatMap fun file => (runFile workspace overrides file).log
          finish := (runFile workspace overrides given).finish } := by
  have herror : (runFile workspace overrides given).finish.IsError := by
    rcases runFile_cases workspace overrides given with ⟨violations, hsome, -⟩ | ⟨-, -, herror⟩
    · rw [hgiven] at hsome
      cases hsome
    · exact herror
  refine ⟨herror, ?_⟩
  induction before with
  | nil => simp [runFiles_cons_of_isError herror]
  | cons first before ih =>
    obtain ⟨hfirst, hbefore⟩ := List.forall_mem_cons.mp hbefore
    rcases runFile_cases workspace overrides first with ⟨violations, -, -, hlinted⟩ | ⟨hnone, -⟩
    · rw [List.cons_append, runFiles_cons_of_linted hlinted, ih hbefore]
      dsimp only
      rw [herror.behind]
      rfl
    · exact absurd hnone hfirst

/-- Of files that are linted, not all are without violations if one of them has a first one. -/
theorem not_all_without_iff {files : List Text}
    (h : ∀ file ∈ files, violationsIn? workspace overrides file ≠ none) :
    (¬ ∀ file ∈ files, violationsIn? workspace overrides file = some []) ↔
      ∃ file ∈ files, ∃ first rest,
        violationsIn? workspace overrides file = some (first :: rest) := by
  constructor
  · intro hnot
    obtain ⟨file, hfile⟩ := Classical.not_forall.mp hnot
    obtain ⟨hmem, hne⟩ := Classical.not_imp.mp hfile
    cases hviolations : violationsIn? workspace overrides file with
    | none => exact absurd hviolations (h file hmem)
    | some violations =>
      cases violations with
      | nil => exact absurd hviolations hne
      | cons first rest => exact ⟨file, hmem, first, rest, hviolations⟩
  · rintro ⟨file, hmem, first, rest, hsome⟩ hall
    rw [hall file hmem] at hsome
    cases hsome

/-- All files are linted if each of them is, and there are violations if one of them has some. -/
theorem runFiles_of_linted {files : List Text}
    (h : ∀ file ∈ files, violationsIn? workspace overrides file ≠ none) :
    ∃ count, (count = 0 ↔ ∀ file ∈ files, violationsIn? workspace overrides file = some []) ∧
      runFiles workspace overrides files =
        { printed := files.flatMap fun file => (runFile workspace overrides file).printed
          log := files.flatMap fun file => (runFile workspace overrides file).log
          finish := .linted count } := by
  induction files with
  | nil => exact ⟨0, by simp, rfl⟩
  | cons first rest ih =>
    obtain ⟨hfirst, hrest⟩ := List.forall_mem_cons.mp h
    obtain ⟨more, hmore, hruns⟩ := ih hrest
    rcases runFile_cases workspace overrides first with
      ⟨violations, hsome, -, hlinted⟩ | ⟨hnone, -⟩
    · refine ⟨violations.length + more, ?_, ?_⟩
      · rw [List.forall_mem_cons, ← hmore, hsome, Option.some.injEq, ← List.length_eq_zero_iff]
        omega
      · rw [runFiles_cons_of_linted hlinted, hruns]
        rfl
    · exact absurd hnone hfirst

end

/-! ## The whole command -/

namespace Command

/-- The checks of the arguments accept them: they can be read, ask for files to be linted under a
line length that is a number, if any, and none of the files is a directory. -/
structure Accepts (workspace : Workspace) (arguments : List Text) (said : Arguments)
    (lineLength : Option Int) : Prop where
  read : Arguments.read arguments = .ok said
  lints : said.wantsInfo = false
  lineLength : said.lineLength? = .ok lineLength
  files : said.files ≠ []
  places : ∃ count, checkFiles workspace said.files = .linted count

/-- What is told of the end of a run, behind its log. -/
def endReport : FileEnd → Text
  | .usage fault => usageReport fault
  | .failed reason => errorReport reason
  | .linted _ | .crashed _ => []

theorem output_outcome (verbose : Bool) (run : FileRun) :
    (outcome verbose run).output = shownLines run.printed := by
  rw [outcome]
  cases run.finish <;> rfl

theorem errors_outcome (verbose : Bool) (run : FileRun) :
    (outcome verbose run).errors = shownLog verbose run.log ++ endReport run.finish := by
  rw [outcome]
  cases run.finish <;> simp [endReport]

theorem exitCode_outcome_congr (verbose : Bool) {run other : FileRun}
    (h : run.finish = other.finish) :
    (outcome verbose run).exitCode = (outcome verbose other).exitCode ∧
      (outcome verbose run).crash = (outcome verbose other).crash := by
  rw [outcome, outcome, h]
  cases other.finish <;> exact ⟨rfl, rfl⟩

theorem outcome_of_linted (verbose : Bool) {run : FileRun} {count : Nat}
    (h : run.finish = .linted count) :
    (outcome verbose run).exitCode = (if count = 0 then 0 else 1) ∧
      (outcome verbose run).crash = none := by
  rw [outcome, h]
  exact ⟨rfl, rfl⟩

theorem exitCode_outcome_of_isError (verbose : Bool) {run : FileRun} (h : run.finish.IsError) :
    (outcome verbose run).exitCode ≠ 0 := by
  rw [outcome]
  cases hfinish : run.finish with
  | linted count =>
    rw [hfinish] at h
    cases h
  | usage fault => exact nofun
  | failed reason => exact nofun
  | crashed crash => exact nofun

theorem shownLines_flatMap (files : List Text) (lines : Text → List Text) :
    shownLines (files.flatMap lines) = files.flatMap fun file => shownLines (lines file) := by
  simp only [shownLines, List.flatMap_assoc]

theorem shownLog_flatMap (verbose : Bool) (files : List Text) (log : Text → List LogEntry) :
    shownLog verbose (files.flatMap log) =
      files.flatMap fun file => shownLog verbose (log file) := by
  simp only [shownLog, List.filter_flatMap, List.flatMap_assoc]

/-- Files are accepted if and only if each of them is. -/
theorem checkFiles_mem {workspace : Workspace} {files : List Text} {count : Nat}
    (h : checkFiles workspace files = .linted count) {file : Text} (hfile : file ∈ files) :
    checkFiles workspace [file] = .linted 0 := by
  induction files with
  | nil => cases hfile
  | cons first rest ih =>
    unfold checkFiles at h ⊢
    split at h
    · cases h
    · cases h
    · next hplace hnull =>
      rcases List.mem_cons.mp hfile with rfl | hrest
      · split
        · next hdirectory => exact absurd hdirectory (hplace _)
        · next path hfind => exact absurd hfind (hnull path)
        · rfl
      · exact ih h hrest

namespace Accepts

variable {workspace : Workspace} {arguments : List Text} {said : Arguments}
  {lineLength : Option Int}

theorem run_eq (h : Accepts workspace arguments said lineLength) :
    run workspace arguments =
      outcome said.verbose (runFiles workspace (overrides said lineLength) said.files) := by
  obtain ⟨count, hplaces⟩ := h.places
  have hfiles : said.files.isEmpty = false := by simpa using h.files
  rw [run, h.read]
  dsimp only
  rw [runRead, h.lints, h.lineLength]
  dsimp only
  rw [hfiles, hplaces]
  rfl

/-- One of several files is accepted by itself. -/
theorem alone (h : Accepts workspace arguments said lineLength) {file : Text}
    (hfile : file ∈ said.files) :
    Accepts workspace (Arguments.alone arguments file) (said.withFiles [file]) lineLength where
  read := Arguments.read_alone h.read file
  lints := h.lints
  lineLength := h.lineLength
  files := nofun
  places := by
    obtain ⟨count, hplaces⟩ := h.places
    exact ⟨0, checkFiles_mem hplaces hfile⟩

theorem run_alone_eq (h : Accepts workspace arguments said lineLength) {file : Text}
    (hfile : file ∈ said.files) :
    run workspace (Arguments.alone arguments file) =
      outcome said.verbose (runFile workspace (overrides said lineLength) file) := by
  rw [(h.alone hfile).run_eq]
  show outcome _ (runFiles workspace (overrides said lineLength) [file]) = _
  rw [runFiles_singleton]
  rfl

/-- What the commands with one file print, one after the other, are the lines printed for each. -/
theorem flatMap_output (h : Accepts workspace arguments said lineLength) {files : List Text}
    (hfiles : files ⊆ said.files) :
    (files.flatMap fun file => (run workspace (Arguments.alone arguments file)).output) =
      shownLines (files.flatMap fun file =>
        (runFile workspace (overrides said lineLength) file).printed) := by
  rw [shownLines_flatMap, List.flatMap_def, List.flatMap_def]
  refine congrArg List.flatten (List.map_congr_left fun file hfile => ?_)
  rw [h.run_alone_eq (hfiles hfile), output_outcome]

/-- Of a file that is linted, only its log is shown beside its lines. -/
theorem flatMap_errors (h : Accepts workspace arguments said lineLength) {files : List Text}
    (hfiles : files ⊆ said.files)
    (hlinted : ∀ file ∈ files, violationsIn? workspace (overrides said lineLength) file ≠ none) :
    (files.flatMap fun file => (run workspace (Arguments.alone arguments file)).errors) =
      shownLog said.verbose (files.flatMap fun file =>
        (runFile workspace (overrides said lineLength) file).log) := by
  rw [shownLog_flatMap, List.flatMap_def, List.flatMap_def]
  refine congrArg List.flatten (List.map_congr_left fun file hfile => ?_)
  rw [h.run_alone_eq (hfiles hfile), errors_outcome]
  rcases runFile_cases workspace (overrides said lineLength) file with
    ⟨violations, -, -, hfinish⟩ | ⟨hnone, -⟩
  · rw [hfinish]
    exact List.append_nil _
  · exact absurd hnone (hlinted file hfile)

end Accepts

/-- **Several files are linted as each of them is by itself.** A file that is linted by itself, with
the same options, prints its violations and has exit code 1 if there are some and 0 if not; one that
cannot be linted prints nothing and has another exit code than 0. If some file of the arguments
cannot be linted, what the command prints is what it prints for the files up to the first such file,
one after the other, and it ends as for that file. Otherwise it prints what it prints for all files,
and has exit code 1 if there are violations in one of them, and 0 if in none. -/
theorem run_inSequence {workspace : Workspace} {arguments : List Text} {said : Arguments}
    {lineLength : Option Int} (h : Accepts workspace arguments said lineLength) :
    let whole := run workspace arguments
    let single := fun file => run workspace (Arguments.alone arguments file)
    let violations? := violationsIn? workspace (overrides said lineLength)
    (∀ file ∈ said.files,
      Arguments.read (Arguments.alone arguments file) = .ok (said.withFiles [file]) ∧
      ((∃ violations, violations? file = some violations ∧
          (single file).output = shownLines (violations.map (·.render file)) ∧
          (single file).exitCode = (if violations.length = 0 then 0 else 1)) ∨
        (violations? file = none ∧ (single file).output = [] ∧ (single file).exitCode ≠ 0))) ∧
    (∀ before file after, said.files = before ++ file :: after →
      (∀ earlier ∈ before, violations? earlier ≠ none) → violations? file = none →
      whole.output = (before ++ [file]).flatMap (fun file => (single file).output) ∧
      whole.errors = (before ++ [file]).flatMap (fun file => (single file).errors) ∧
      whole.exitCode = (single file).exitCode ∧ whole.crash = (single file).crash) ∧
    ((∀ file ∈ said.files, violations? file ≠ none) →
      whole.output = said.files.flatMap (fun file => (single file).output) ∧
      whole.errors = said.files.flatMap (fun file => (single file).errors) ∧
      (whole.exitCode = 1 ↔
        ∃ file ∈ said.files, ∃ first rest, violations? file = some (first :: rest)) ∧
      (whole.exitCode = 0 ↔ ∀ file ∈ said.files, violations? file = some []) ∧
      whole.crash = none) := by
  intro whole single violations?
  refine ⟨fun file hfile => ⟨Arguments.read_alone h.read file, ?_⟩, ?_, ?_⟩
  -- one file
  · rw [show single file = _ from h.run_alone_eq hfile, output_outcome]
    rcases runFile_cases workspace (overrides said lineLength) file with
      ⟨violations, hsome, hprinted, hlinted⟩ | ⟨hnone, hprinted, herror⟩
    · exact .inl ⟨violations, hsome, by rw [hprinted], (outcome_of_linted _ hlinted).1⟩
    · exact .inr ⟨hnone, by rw [hprinted]; rfl, exitCode_outcome_of_isError _ herror⟩
  -- files up to one that cannot be linted
  · intro before file after hsplit hbefore hnone
    obtain ⟨-, hruns⟩ := runFiles_of_isError hbefore hnone after
    have hmem : before ++ [file] ⊆ said.files := by
      rw [hsplit]
      exact List.append_subset.mpr ⟨by simp, by simp⟩
    have hsingle : single file = _ := h.run_alone_eq (hmem List.mem_concat_self)
    have hwhole : whole = _ := h.run_eq
    rw [hsplit, hruns] at hwhole
    have houtput : whole.output = _ := hwhole ▸ output_outcome ..
    have herrors : whole.errors = _ := hwhole ▸ errors_outcome ..
    refine ⟨houtput.trans (h.flatMap_output hmem).symm, ?_, ?_⟩
    · have hearlier : before.flatMap (fun file => (single file).errors) = _ :=
        h.flatMap_errors (fun earlier hearlier => hmem (List.mem_append_left _ hearlier)) hbefore
      rw [List.flatMap_append, hearlier, List.flatMap_singleton, hsingle, errors_outcome,
        herrors, shownLog_flatMap, shownLog_flatMap, List.flatMap_append, List.flatMap_singleton,
        List.append_assoc]
    · rw [hwhole, hsingle]
      exact exitCode_outcome_congr said.verbose rfl
  -- files that are all linted
  · intro hlinted
    obtain ⟨count, hcount, hruns⟩ := runFiles_of_linted hlinted
    have hwhole : whole = _ := h.run_eq
    rw [hruns] at hwhole
    have houtput : whole.output = _ := hwhole ▸ output_outcome ..
    have herrors : whole.errors = _ := hwhole ▸ errors_outcome ..
    have hexit : whole.exitCode = (if count = 0 then 0 else 1) ∧ whole.crash = none :=
      hwhole ▸ outcome_of_linted said.verbose rfl
    have hall := List.Subset.refl said.files
    refine ⟨houtput.trans (h.flatMap_output hall).symm, ?_, ?_, ?_, hexit.2⟩
    · rw [herrors, ← h.flatMap_errors hall hlinted]
      exact List.append_nil _
    · rw [hexit.1, ← not_all_without_iff hlinted, ← hcount]
      simp
    · rw [hexit.1, ← hcount]
      simp

/-- An empty file. -/
def workspaceWithEmptyFile : Workspace where
  tree := .directory [("a.md".toList, .file [])]
  directory := []

/-- Three files, the second of which is missing and the third of which looks like an option. The run
prints what the first two runs print, ends with the exit code of the second, and does not come to
the third. -/
theorem run_inSequence_missing_file :
    let arguments := ["a.md", "-v", "gone.md", "--", "-b.md"].map String.toList
    let single := fun file => run workspaceWithEmptyFile (Arguments.alone arguments file)
    (run workspaceWithEmptyFile arguments).output =
        (single "a.md".toList).output ++ (single "gone.md".toList).output ∧
      (run workspaceWithEmptyFile arguments).exitCode = (single "gone.md".toList).exitCode ∧
      (single "gone.md".toList).exitCode ≠ 0 := by
  intro arguments single
  let said : Arguments :=
    { verbose := true, files := ["a.md", "gone.md", "-b.md"].map String.toList }
  have haccepts : Accepts workspaceWithEmptyFile arguments said none :=
    { read := by
        show Arguments.readAfter {}
          ["a.md".toList, "-v".toList, "gone.md".toList, "--".toList, "-b.md".toList] = _
        rw [Arguments.readAfter]
        show Arguments.readAfter { files := ["a.md".toList] }
          ["-v".toList, "gone.md".toList, "--".toList, "-b.md".toList] = _
        rw [Arguments.readAfter]
        show Arguments.readAfter { verbose := true, files := ["a.md".toList] }
          ["gone.md".toList, "--".toList, "-b.md".toList] = _
        rw [Arguments.readAfter]
        exact Arguments.readAfter_dashes ..
      lints := rfl
      lineLength := rfl
      files := nofun
      places := ⟨0, rfl⟩ }
  obtain ⟨hsingle, hstop, -⟩ := run_inSequence haccepts
  have hgone :
      violationsIn? workspaceWithEmptyFile (overrides said none) "gone.md".toList = none := by
    decide +kernel
  have hempty : ∀ earlier ∈ ["a.md".toList],
      violationsIn? workspaceWithEmptyFile (overrides said none) earlier ≠ none := by
    decide +kernel
  obtain ⟨houtput, -, hexit, -⟩ := hstop _ _ ["-b.md".toList] rfl hempty hgone
  rw [List.flatMap_append, List.flatMap_singleton, List.flatMap_singleton] at houtput
  refine ⟨houtput, hexit, ?_⟩
  rcases (hsingle "gone.md".toList (by simp [said])).2 with
    ⟨violations, hsome, -⟩ | ⟨-, -, hnonzero⟩
  · rw [hgone] at hsome
    cases hsome
  · exact hnonzero

end Command

end MarkdownCheck
