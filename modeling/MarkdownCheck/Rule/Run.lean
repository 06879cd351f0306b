import MarkdownCheck.Rule.AnchorCollision

/-!
# Running rules

- `allRules`: every rule, in the order in which they run.
- `findRule?`: a rule by its identifier or an alias, in whatever case.
- `Violation`: a finding with the rule that has reported it, and `Violation.render`, its line of
  output.
- `runRules`: runs rules over a document and puts what they report in order.
-/

namespace MarkdownCheck

/-! ## The rules there are -/

/-- Every rule, in the order in which they run. -/
def allRules : List Rule :=
  [anchorCollision]

/-- Whether a rule has a name, case apart. -/
def Rule.isNamed (rule : Rule) (name : Text) : Bool :=
  rule.names.any fun known => Unicode.foldCase known = Unicode.foldCase name

/-- The first rule with a name, case apart. -/
def findRule? (name : Text) : Option Rule :=
  allRules.find? (·.isNamed name)

/-! ## What rules report -/

/-- A finding with the rule that has reported it. Its line counts the front matter too. -/
structure Violation where
  ruleNames : List Text
  description : Text
  finding : Finding
deriving DecidableEq, Repr

/-- Why a run of rules has no result. -/
inductive RunFailure where
  /-- A check has failed. -/
  | check (cause : RuleFailure)
  /-- A rule has no identifier. -/
  | unnamed
  /-- Findings with and without a line cannot be put in order, and no offset can be added to a
  missing line. -/
  | missingLine
deriving DecidableEq, Repr

namespace Violation

/-- The identifier of the rule. -/
def identifier (violation : Violation) : Text :=
  violation.ruleNames.headD []

/-- A violation as a line of output: where, which rule, and what it has found. -/
def render (violation : Violation) (name : Text) : Text :=
  let line := match violation.finding.lineNumber with
    | some line => Text.ofInt line
    | none => "None".toList
  let place := if name.isEmpty then line else name ++ ':' :: line
  let bracket (opening : String) (closing : String) : Option Text → List Text
    | some text => if text.isEmpty then [] else [opening.toList ++ text ++ closing.toList]
    | none => []
  Text.join [' '] ([place, Text.join ['/'] violation.ruleNames, violation.description]
    ++ bracket "[" "]" violation.finding.detail
    ++ bracket "[Context: \"" "\"]" violation.finding.context)

/-- The order of two violations: by line, then by identifier. A missing line comes first. -/
def precedes (first second : Violation) : Bool :=
  match first.finding.lineNumber, second.finding.lineNumber with
  | some a, some b => a < b || (a = b && Text.le first.identifier second.identifier)
  | none, none => Text.le first.identifier second.identifier
  | none, some _ => true
  | some _, none => false

end Violation

/-! ## Runs -/

/-- Moves a finding down by some lines. A finding without a line can only stay where it is. -/
def Finding.shifted? (finding : Finding) (offset : Int) : Option Finding :=
  if offset = 0 then some finding
  else finding.lineNumber.map fun line => { finding with lineNumber := some (line + offset) }

/-- The violations of one rule, in the order of its reports. -/
def Rule.run (rule : Rule) (document : Document) (offset : Int) :
    Logged RunFailure (List Violation) := do
  let findings ← (Logged.ofExcept (rule.check document)).mapError .check
  match rule.names with
  | [] => .fail .unnamed
  | identifier :: _ =>
    .entry .debug (identifier ++ " reported ".toList ++ Text.ofNat findings.length
      ++ " error(s) for ".toList ++ document.name)
    match findings.mapM (·.shifted? offset) with
    | none => .fail .missingLine
    | some shifted => pure (shifted.map fun finding => ⟨rule.names, rule.description, finding⟩)

/-- The violations of several rules, rule by rule. -/
def runEach (document : Document) (offset : Int) : List Rule → Logged RunFailure (List Violation)
  | [] => pure []
  | rule :: rest => do
    let here ← rule.run document offset
    let more ← runEach document offset rest
    pure (here ++ more)

/-- Whether violations can be put in order: all have a line or none has. -/
def areComparable (violations : List Violation) : Bool :=
  (violations.all (·.finding.lineNumber.isSome)) || (violations.all (·.finding.lineNumber.isNone))

/-- Runs rules over a document. The violations come by line and, on one line, by the identifier of
their rule; equal ones keep the order of their reports. `offset` is added to every line. -/
def runRules (document : Document) (rules : List Rule) (offset : Int) :
    Logged RunFailure (List Violation) := do
  let violations ← runEach document offset rules
  if areComparable violations then pure (violations.mergeSort Violation.precedes)
  else .fail .missingLine

end MarkdownCheck
