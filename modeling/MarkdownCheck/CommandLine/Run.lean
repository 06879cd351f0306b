import MarkdownCheck.CommandLine.Arguments
import MarkdownCheck.LintFile
import MarkdownCheck.Settings.Load

/-!
# The command

- `FileRun`, `runFile`: what linting one file writes and how it ends.
- `runFiles`: the same for several files, one after the other up to the first that ends badly.
- `Command.run`: the command with its arguments, and `Outcome`, what it leaves.
-/

namespace MarkdownCheck

/-- A failure that the command does not tell of. -/
inductive Crash where
  | path (failure : PathFailure)
  | load (failure : LoadFailure)
  | override (failure : Settings.OverrideFailure)
  | access (failure : AccessFailure)
  | lint (failure : LintFailure)
  /-- The operating system refuses a path. -/
  | refused (failure : FileFailure)
deriving DecidableEq, Repr

/-- A crash in words. -/
def Crash.message : Crash → Text
  | .path failure => failure.message
  | .load failure => failure.message
  | .override _ => "The settings cannot be overridden.".toList
  | .access failure => failure.message
  | .lint (.run (.check (.raised reason))) => reason
  | .lint (.run _) => "The violations cannot be put in order.".toList
  | .lint (.parse _) => "The last line breaks off inside its indentation.".toList
  | .refused failure => failure.message

/-- How linting a file ends. -/
inductive FileEnd where
  /-- With this many violations. -/
  | linted (violations : Nat)
  /-- The arguments cannot be used. -/
  | usage (fault : UsageFault)
  /-- The file cannot be linted. -/
  | failed (reason : Text)
  | crashed (crash : Crash)
deriving DecidableEq, Repr

/-- What linting files has written, and how it has ended. -/
structure FileRun where
  printed : List Text
  log : List LogEntry
  finish : FileEnd
deriving DecidableEq, Repr

namespace FileRun

/-- An end without output. -/
def stop (finish : FileEnd) : FileRun :=
  ⟨[], [], finish⟩

end FileRun

/-- How it ends when there are no settings for a file. -/
def BuildFailure.finish : BuildFailure → FileEnd
  | .load (.invalidTable table file) =>
    .usage (.badValue (LoadFailure.invalidTable table file).message)
  | .load failure => .crashed (.load failure)
  | .override failure => .crashed (.override failure)
  | .fault problem => .usage (.badValue problem.message)

/-- How it ends when a path is not that of a Markdown file. -/
def PathFailure.finish : PathFailure → FileEnd
  | .homeless => .crashed (.path .homeless)
  | failure => .usage (.badValue failure.message)

/-- How it ends when a file is not linted. -/
def FileLintFailure.finish : FileLintFailure → FileEnd
  | .settings fault => .failed fault.message
  | .limit fault => .failed fault.message
  | .access (.refused ⟨.holdsNull, path⟩) => .crashed (.access (.refused ⟨.holdsNull, path⟩))
  | .access failure => .failed failure.message
  | .lint failure => .crashed (.lint failure)

/-- Lints the file at a place and shows violations under the path that was given. -/
def lintPlace (workspace : Workspace) (place : Location) (settings : Settings) (given : Text) :
    FileRun :=
  let run := lintFile workspace (.ofLocation place) settings
  match run.result with
  | .error failure => ⟨[], run.log, failure.finish⟩
  | .ok violations =>
    let total := given ++ ": ".toList ++ Text.ofNat violations.length ++ " violation(s)".toList
    ⟨violations.map (·.render given), run.log ++ [⟨.debug, total⟩], .linted violations.length⟩

/-- Lints one file under the settings that are found from its directory. -/
def runFile (workspace : Workspace) (overrides : List (Text × Value)) (given : Text) : FileRun :=
  match workspace.markdownFile given with
  | .error failure => .stop failure.finish
  | .ok place =>
    match buildSettings workspace (.ofLocation place.dropLast) overrides with
    | .error failure => .stop failure.finish
    | .ok settings => lintPlace workspace place settings given

/-- Lints files one after the other, up to the first that ends badly. -/
def runFiles (workspace : Workspace) (overrides : List (Text × Value)) : List Text → FileRun
  | [] => .stop (.linted 0)
  | given :: rest =>
    let first := runFile workspace overrides given
    match first.finish with
    | .linted count =>
      let others := runFiles workspace overrides rest
      let finish := match others.finish with
        | .linted more => .linted (count + more)
        | finish => finish
      ⟨first.printed ++ others.printed, first.log ++ others.log, finish⟩
    | _ => first

/-! ## The whole command -/

/-- What the command leaves. -/
structure Outcome where
  exitCode : Nat
  output : Text := []
  errors : Text := []
  /-- A failure that has ended the command before it could tell of it. -/
  crash : Option Crash := none
deriving DecidableEq, Repr

/-- What is told of a crash. -/
def Outcome.crashReport (outcome : Outcome) : Text :=
  match outcome.crash with
  | some crash => crash.message ++ ['\n']
  | none => []

namespace Command

/-- The usage of the command. -/
def usage : Text :=
  "Usage: cli [OPTIONS] FILEPATHS...\n".toList

/-- Where help is found. -/
def helpHint : Text :=
  "Try 'cli --help' for help.\n\n".toList

/-- A text behind a control sequence of a terminal that has started: parameters from zero to the
question mark, signs from space to slash, and one last character from the at sign to the tilde. -/
def afterSequence? (text : Text) : Option Text :=
  let behind := text.dropWhile fun c => '0' ≤ c && c ≤ '?'
  match behind.dropWhile fun c => ' ' ≤ c && c ≤ '/' with
  | c :: rest => if '@' ≤ c && c ≤ '~' then some rest else none
  | [] => none

/-- A text without control sequences of terminals; the first argument bounds its length. -/
def withoutSequencesWithin : Nat → Text → Text
  | _, [] => []
  | 0, text => text
  | bound + 1, '\x1b' :: '[' :: rest =>
    match afterSequence? rest with
    | some after => withoutSequencesWithin bound after
    | none => '\x1b' :: withoutSequencesWithin bound ('[' :: rest)
  | bound + 1, c :: rest => c :: withoutSequencesWithin bound rest

/-- A text without control sequences of terminals. -/
def withoutSequences (text : Text) : Text :=
  withoutSequencesWithin text.length text

/-- Lines of output. -/
def shownLines (lines : List Text) : Text :=
  lines.flatMap fun line => withoutSequences line ++ ['\n']

/-- The log as it is shown: all of it if `verbose`, else the warnings. -/
def shownLog (verbose : Bool) (log : List LogEntry) : Text :=
  (log.filter fun entry => verbose || entry.level = .warning).flatMap fun entry =>
    '[' :: entry.level.name.toList ++ ']' :: ' ' :: entry.message ++ ['\n']

/-- The report of an error. -/
def errorReport (message : Text) : Text :=
  withoutSequences ("Error: ".toList ++ message ++ ['\n'])

/-- The report of a fault of usage. -/
def usageReport (fault : UsageFault) : Text :=
  (if fault.showsUsage then usage ++ helpHint else []) ++ errorReport fault.message

/-- What the command leaves when it ends with a fault of usage. -/
def refusal (fault : UsageFault) : Outcome where
  exitCode := 2
  errors := usageReport fault

/-- What the command leaves after files have been linted. -/
def outcome (verbose : Bool) (run : FileRun) : Outcome :=
  let output := shownLines run.printed
  let log := shownLog verbose run.log
  match run.finish with
  | .linted count => { exitCode := if count = 0 then 0 else 1, output, errors := log }
  | .usage fault => { exitCode := 2, output, errors := log ++ usageReport fault }
  | .failed reason => { exitCode := 1, output, errors := log ++ errorReport reason }
  | .crashed crash => { exitCode := 1, output, errors := log, crash := some crash }

/-- Refuses directories among the paths of files. -/
def checkFiles (workspace : Workspace) : List Text → FileEnd
  | [] => .linted 0
  | path :: rest =>
    match workspace.find path with
    | .ok (.directory _) => .usage (.directory path)
    | .error ⟨.holdsNull, path⟩ => .crashed (.refused ⟨.holdsNull, path⟩)
    | _ => checkFiles workspace rest

/-- The settings that the arguments override. -/
def overrides (said : Arguments) (lineLength : Option Int) : List (Text × Value) :=
  (if said.disabled.isEmpty then [] else [("disable".toList, .list (said.disabled.map .text))])
    ++ (said.clearComments.map fun flag => ("clear_html_comments".toList, Value.flag flag)).toList
    ++ (lineLength.map fun length => ("max_line_length".toList, Value.number length)).toList

/-- Runs the command for arguments that have been read. -/
def runRead (workspace : Workspace) (said : Arguments) : Outcome :=
  if said.wantsInfo then { exitCode := 0, output := usage }
  else
    match said.lineLength? with
    | .error fault => refusal fault
    | .ok lineLength =>
      if said.files.isEmpty then refusal .filesExpected
      else
        match checkFiles workspace said.files with
        | .linted _ =>
          outcome said.verbose (runFiles workspace (overrides said lineLength) said.files)
        | finish => outcome said.verbose (.stop finish)

/-- Runs the command. -/
def run (workspace : Workspace) (arguments : List Text) : Outcome :=
  match Arguments.read arguments with
  | .error fault => refusal fault
  | .ok said => runRead workspace said

end Command

end MarkdownCheck
